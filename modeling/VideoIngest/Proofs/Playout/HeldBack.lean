import VideoIngest.Proofs.Playout.Cadence

/-!
How long a picture is held back.

A pacer with a cadence to keep stays below the longest delay, whatever delay was asked for. Without
one it holds a picture for the idle yield, which nothing bounds.
-/

namespace VideoIngest

namespace Pacer

/-- Whether there is a cadence to keep: pacing is on, and a picture has been shown. -/
def hasCadence (pacer : Pacer) : Bool := pacer.enabled && pacer.previous.isSome

variable {pacer : Pacer}

private theorem delayFor_of_idle (idle : pacer.hasCadence = false) (source wall : Nat) :
    pacer.delayFor source wall = pacer.idleYield := by
  unfold delayFor
  cases remembered : pacer.previous with
  | none => rfl
  | some previous =>
      have disabled : pacer.enabled = false := by simpa [hasCadence, remembered] using idle
      rw [disabled]
      rfl

/-- The longest delay is not reached, since only whole milliseconds below it are held. -/
private theorem delayFor_of_hasCadence (paced : pacer.hasCadence = true) (source wall : Nat) :
    pacer.delayFor source wall = 0 ∨ pacer.delayFor source wall + 1000 ≤ pacer.maxDelay := by
  obtain ⟨enabled, remembered⟩ := Bool.and_eq_true_iff.mp paced
  obtain ⟨previous, isPrevious⟩ := Option.isSome_iff_exists.mp remembered
  simp only [delayFor, isPrevious, enabled, Bool.not_true, Bool.false_eq_true, if_false]
  split
  · rename_i early
    right
    omega
  · exact .inl rfl

/-! ### Histories -/

theorem recordAll_eq (history : List TimedPicture) (pacer : Pacer) :
    pacer.recordAll history =
      (history.getLast?.elim pacer fun last => pacer.record last.source last.shown) := by
  rcases List.eq_nil_or_concat history with rfl | ⟨earlier, last, rfl⟩
  · rfl
  · rw [List.concat_eq_append, recordAll_append_singleton, List.getLast?_concat]
    rfl

theorem hasCadence_recordAll_start (enabled : Bool) (maxDelay idleYield : Nat)
    (history : List TimedPicture) :
    ((start enabled maxDelay idleYield).recordAll history).hasCadence =
      (enabled && !history.isEmpty) := by
  rw [recordAll_eq]
  rcases List.eq_nil_or_concat history with rfl | ⟨earlier, last, rfl⟩
  · rfl
  · simp [hasCadence, record, start]

private theorem settings_recordAll (history : List TimedPicture) (pacer : Pacer) :
    (pacer.recordAll history).maxDelay = pacer.maxDelay ∧
      (pacer.recordAll history).idleYield = pacer.idleYield := by
  rw [recordAll_eq]
  cases history.getLast? <;> exact ⟨rfl, rfl⟩

/-- Whatever has been shown and whatever the clocks say: with a cadence to keep, a picture is held
for less than the longest delay, and without one for the idle yield. So it is held beyond the bound
just where there is no cadence and the idle yield lies beyond it. -/
theorem held_within_bound_iff (enabled : Bool) (maxDelay idleYield : Nat)
    (history : List TimedPicture) (source wall : Nat) :
    let delay := ((start enabled maxDelay idleYield).recordAll history).delayFor source wall
    (delay ≤ maxPacingDelay ↔ idleYield ≤ maxPacingDelay ∨ enabled = true ∧ history ≠ []) ∧
      (enabled = true ∧ history ≠ [] →
        delay = 0 ∨ delay + 1000 ≤ min maxDelay maxPacingDelay) ∧
      (¬(enabled = true ∧ history ≠ []) → delay = idleYield) := by
  intro delay
  obtain ⟨longest, yields⟩ := settings_recordAll history (start enabled maxDelay idleYield)
  have cadence : ((start enabled maxDelay idleYield).recordAll history).hasCadence = true ↔
      enabled = true ∧ history ≠ [] := by
    rw [hasCadence_recordAll_start, Bool.and_eq_true, Bool.not_eq_true', List.isEmpty_eq_false_iff]
  have paced : enabled = true ∧ history ≠ [] →
      delay = 0 ∨ delay + 1000 ≤ min maxDelay maxPacingDelay := by
    intro isPaced
    have below := delayFor_of_hasCadence (cadence.mpr isPaced) source wall
    rw [longest] at below
    exact below
  have idle : ¬(enabled = true ∧ history ≠ []) → delay = idleYield := by
    intro isIdle
    have yielded := delayFor_of_idle (Bool.eq_false_iff.mpr (mt cadence.mp isIdle)) source wall
    rw [yields] at yielded
    exact yielded
  refine ⟨?_, paced, idle⟩
  by_cases isPaced : enabled = true ∧ history ≠ []
  · have within : delay ≤ maxPacingDelay := by
      have below := paced isPaced
      omega
    exact iff_of_true within (.inr isPaced)
  · rw [idle isPaced, or_iff_left isPaced]

/-- The second picture waits for its cadence, however long the idle yield. -/
theorem second_picture_held_within_bound :
    (true = true ∧ [TimedPicture.mk 0 0 0] ≠ []) ∧
      ((start true 60000000 2000000).recordAll [⟨0, 0, 0⟩]).delayFor 999 0 = 999000 ∧
      ((start true 60000000 2000000).recordAll [⟨0, 0, 0⟩]).delayFor 999 0 ≤ maxPacingDelay := by
  have paced : true = true ∧ [TimedPicture.mk 0 0 0] ≠ [] := by decide
  exact ⟨paced, by decide,
    (held_within_bound_iff true 60000000 2000000 [⟨0, 0, 0⟩] 999 0).1.mpr (.inr paced)⟩

/-- The first picture is held for two seconds. -/
theorem idle_yield_exceeds_bound :
    ((start true 1000000 2000000).recordAll []).delayFor 0 0 = 2000000 ∧
      ¬∀ (enabled : Bool) (maxDelay idleYield : Nat) (history : List TimedPicture)
        (source wall : Nat),
        ((start enabled maxDelay idleYield).recordAll history).delayFor source wall ≤
          maxPacingDelay := by
  have held : ((start true 1000000 2000000).recordAll []).delayFor 0 0 = 2000000 := by decide
  refine ⟨held, ?_⟩
  intro never
  have within := never true 1000000 2000000 [] 0 0
  rw [held] at within
  exact absurd within (by decide)

end Pacer
end VideoIngest
