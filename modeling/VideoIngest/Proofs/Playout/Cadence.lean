import Mathlib.Data.List.Chain
import VideoIngest.Playout

/-!
Paced pictures keep the cadence of their source: over any span they are shown no faster than they
were taken, as long as no gap at the source reaches the longest delay.
-/

namespace VideoIngest

/-- A picture on its way to the sinks. Its times are in milliseconds: at the source, when it was
ready to be shown, and when it was remembered as shown. -/
structure TimedPicture where
  source : Nat
  ready : Nat
  shown : Nat
  deriving DecidableEq, Repr

namespace Pacer

/-- Times below 2 ^ 62: their differences, and the differences of these, fit into signed words. -/
def timeBound : Nat := 0x4000_0000_0000_0000

structure IsBounded (picture : TimedPicture) : Prop where
  source : picture.source < timeBound
  ready : picture.ready < timeBound
  shown : picture.shown < timeBound

def limit (maxDelay : Nat) : Nat := min maxDelay maxPacingDelay / 1000

def recordAll (pictures : List TimedPicture) (pacer : Pacer) : Pacer :=
  pictures.foldl (fun pacer picture => pacer.record picture.source picture.shown) pacer

/-- One picture after the other is ready when the one before it was shown at the earliest, and is
shown when its delay is over at the earliest. -/
inductive Plays : Pacer → List TimedPicture → Prop
  | done (pacer : Pacer) : Plays pacer []
  | next {pacer : Pacer} {picture : TimedPicture} {rest : List TimedPicture}
      (inTurn : ∀ previous ∈ pacer.previous, previous.wall ≤ picture.ready)
      (waited : 1000 * picture.ready + pacer.delayFor picture.source picture.ready ≤
        1000 * picture.shown)
      (later : Plays (pacer.record picture.source picture.shown) rest) :
      Plays pacer (picture :: rest)

/-! ### The delay of one picture -/

theorem signed_eq_self {number : Int} (low : -(2 * timeBound) ≤ number)
    (high : number < 2 * timeBound) : signed number = number := by
  unfold timeBound at low high
  unfold signed Number.wordBound64
  exact Int.bmod_eq_of_le_mul_two (by omega) (by omega)

private theorem signed_sub {later earlier : Nat} (laterSmall : later < timeBound)
    (earlierSmall : earlier < timeBound) :
    signed (signed later - signed earlier) = later - earlier := by
  have later_eq : signed later = later := signed_eq_self (by omega) (by omega)
  have earlier_eq : signed earlier = earlier := signed_eq_self (by omega) (by omega)
  rw [later_eq, earlier_eq]
  exact signed_eq_self (by omega) (by omega)

private theorem record_recordAll (pictures : List TimedPicture) (pacer : Pacer)
    (source wall : Nat) :
    (pacer.recordAll pictures).record source wall = pacer.record source wall := by
  induction pictures generalizing pacer with
  | nil => rfl
  | cons picture rest ih => exact ih (pacer.record picture.source picture.shown)

/-- A pacer remembers nothing but the last picture. -/
theorem recordAll_append_singleton (pictures : List TimedPicture) (last : TimedPicture)
    (pacer : Pacer) :
    pacer.recordAll (pictures ++ [last]) = pacer.record last.source last.shown := by
  rw [← record_recordAll pictures, recordAll, List.foldl_append]
  rfl

def lead (previous picture : TimedPicture) : Int :=
  ((picture.source : Int) - previous.source) - (picture.ready - previous.shown)

variable {maxDelay idleYield : Nat} {previous picture : TimedPicture}

private theorem drift_eq_lead (before : IsBounded previous) (bounded : IsBounded picture) :
    drift { source := previous.source, wall := previous.shown } picture.source picture.ready =
      lead previous picture := by
  have sourceSmall := And.intro before.source bounded.source
  have wallSmall := And.intro before.shown bounded.ready
  unfold drift
  rw [signed_sub bounded.source before.source, signed_sub bounded.ready before.shown]
  exact signed_eq_self (by omega) (by omega)

theorem delayFor_record (before : IsBounded previous) (bounded : IsBounded picture) :
    ((((start true maxDelay idleYield).record previous.source previous.shown).delayFor
        picture.source picture.ready : Nat) : Int) =
      if 0 < lead previous picture ∧ lead previous picture < limit maxDelay then
        1000 * lead previous picture
      else 0 := by
  simp only [delayFor, record, start, Bool.not_true, Bool.false_eq_true, if_false,
    drift_eq_lead before bounded]
  change ((if 0 < lead previous picture ∧ lead previous picture < limit maxDelay then _ else 0 :
    Nat) : Int) = _
  split
  · omega
  · rfl

/-! ### One picture behind another -/

/-- The picture comes behind the previous one: it was not ready before that was shown, and it waited
for its own delay. -/
structure Follows (maxDelay idleYield : Nat) (previous picture : TimedPicture) : Prop where
  inTurn : previous.shown ≤ picture.ready
  waited : 1000 * picture.ready +
    ((start true maxDelay idleYield).record previous.source previous.shown).delayFor
      picture.source picture.ready ≤ 1000 * picture.shown

/-- Behind a gap that is not too long a picture comes out at the source's distance or, if it is later
than that, at once. -/
private theorem Follows.released (follows : Follows maxDelay idleYield previous picture)
    (before : IsBounded previous) (bounded : IsBounded picture)
    (close : (picture.source : Int) - previous.source < limit maxDelay) :
    (1000 * picture.ready : Int) +
        (((start true maxDelay idleYield).record previous.source previous.shown).delayFor
          picture.source picture.ready : Nat) - 1000 * previous.shown =
      1000 * max ((picture.source : Int) - previous.source) (picture.ready - previous.shown) := by
  have turn := follows.inTurn
  rw [delayFor_record before bounded]
  unfold lead
  split
  · omega
  · omega

/-- The picture was shown no sooner behind the other than it was taken behind it. -/
def AtSourceDistance (earlier later : TimedPicture) : Prop :=
  (later.source : Int) - earlier.source ≤ later.shown - earlier.shown

theorem AtSourceDistance.trans {first second third : TimedPicture}
    (front : AtSourceDistance first second) (back : AtSourceDistance second third) :
    AtSourceDistance first third := by
  unfold AtSourceDistance at *
  omega

instance : IsTrans TimedPicture AtSourceDistance := ⟨fun _ _ _ => AtSourceDistance.trans⟩

private theorem Follows.atSourceDistance (follows : Follows maxDelay idleYield previous picture)
    (before : IsBounded previous) (bounded : IsBounded picture)
    (close : (picture.source : Int) - previous.source < limit maxDelay) :
    AtSourceDistance previous picture := by
  have released := follows.released before bounded close
  have waited := follows.waited
  unfold AtSourceDistance
  omega

/-! ### Runs -/

theorem Plays.follows {first : TimedPicture} {rest : List TimedPicture}
    (plays : Plays ((start true maxDelay idleYield).record first.source first.shown) rest) :
    (first :: rest).IsChain (Follows maxDelay idleYield) := by
  induction rest generalizing first with
  | nil => exact .singleton first
  | cons picture rest ih =>
      cases plays with
      | next inTurn waited later =>
          rw [List.isChain_cons_cons]
          exact ⟨⟨inTurn _ rfl, waited⟩, ih later⟩

/-- Pictures that play one after another behind the first one. Each is held back for exactly its lead
or not at all, and a late one not at all; behind a gap of the source below the limit it comes out at
the source's distance or later, and if all gaps are below it, no two pictures of the run are shown
closer together than they were taken. -/
theorem keeps_cadence (maxDelay idleYield : Nat) (first : TimedPicture) (rest : List TimedPicture)
    (bounded : ∀ picture ∈ first :: rest, IsBounded picture)
    (plays : Plays ((start true maxDelay idleYield).record first.source first.shown) rest) :
    (∀ before previous picture later, first :: rest = before ++ previous :: picture :: later →
      let delay : Int := ((start true maxDelay idleYield).recordAll (before ++ [previous])).delayFor
        picture.source picture.ready
      let gap : Int := picture.source - previous.source
      let passed : Int := picture.ready - previous.shown
      (gap < limit maxDelay →
          1000 * picture.ready + delay - 1000 * previous.shown = 1000 * max gap passed) ∧
        (gap ≤ passed → delay = 0) ∧
        (delay = 0 ∨
          delay = 1000 * (gap - passed) ∧ 0 < gap - passed ∧ gap - passed < limit maxDelay)) ∧
      ((first :: rest).IsChain (fun earlier later =>
          (later.source : Int) - earlier.source < limit maxDelay) →
        (first :: rest).Pairwise AtSourceDistance) := by
  have follows := plays.follows
  rw [List.isChain_iff_forall_rel_of_append_cons_cons] at follows
  constructor
  · intro before previous picture later split delay gap passed
    have previousBounded := bounded previous (by simp [split])
    have pictureBounded := bounded picture (by simp [split])
    have delay_eq : delay = ((((start true maxDelay idleYield).record previous.source
        previous.shown).delayFor picture.source picture.ready : Nat) : Int) := by
      simp only [delay, recordAll_append_singleton]
    rw [delay_eq]
    refine ⟨(follows split).released previousBounded pictureBounded, ?_, ?_⟩
    · intro late
      rw [delayFor_record previousBounded pictureBounded, if_neg]
      simp only [lead]
      omega
    · rw [delayFor_record previousBounded pictureBounded]
      split
      · rename_i early
        exact .inr ⟨rfl, early⟩
      · exact .inl rfl
  · intro gaps
    rw [List.isChain_iff_forall_rel_of_append_cons_cons] at gaps
    rw [← List.isChain_iff_pairwise, List.isChain_iff_forall_rel_of_append_cons_cons]
    intro previous picture before later split
    exact (follows split).atSourceDistance (bounded previous (by simp [split]))
      (bounded picture (by simp [split])) (gaps split)

/-- The second picture is held back for 55 ms, the third one is late. -/
theorem keeps_cadence_of_three :
    (∀ picture ∈ [TimedPicture.mk 0 0 1, ⟨60, 6, 61⟩, ⟨120, 161, 161⟩], IsBounded picture) ∧
      Plays ((start true 1000000 1000).record 0 1) [⟨60, 6, 61⟩, ⟨120, 161, 161⟩] ∧
      [TimedPicture.mk 0 0 1, ⟨60, 6, 61⟩, ⟨120, 161, 161⟩].Pairwise AtSourceDistance := by
  have bounded : ∀ picture ∈ [TimedPicture.mk 0 0 1, ⟨60, 6, 61⟩, ⟨120, 161, 161⟩],
      IsBounded picture := by
    simp only [List.forall_mem_cons]
    refine ⟨?_, ?_, ?_, nofun⟩ <;> exact ⟨by decide, by decide, by decide⟩
  have plays : Plays ((start true 1000000 1000).record 0 1)
      [⟨60, 6, 61⟩, ⟨120, 161, 161⟩] := by
    refine .next ?_ (by decide) (.next ?_ (by decide) (.done _)) <;> simp [record]
  have gaps : [TimedPicture.mk 0 0 1, ⟨60, 6, 61⟩, ⟨120, 161, 161⟩].IsChain fun earlier later =>
      (later.source : Int) - earlier.source < limit 1000000 := by
    simp [limit, maxPacingDelay]
  exact ⟨bounded, plays, (keeps_cadence 1000000 1000 ⟨0, 0, 1⟩ _ bounded plays).2 gaps⟩

end Pacer

/-! ### What playout does -/

namespace Playout

/-- The times of pictures that are decoded in turn, each so many microseconds after the one before it
was shown. -/
def timed : List (Nat × Picture) → Playout → List TimedPicture
  | [], _ => []
  | (elapsed, picture) :: rest, playout =>
      let ready := { playout with clock := playout.clock + elapsed }
      let shown := ready.decoded picture
      { source := picture.timestamp, ready := now ready.clock, shown := now shown.clock } ::
        timed rest shown

private theorem dvd_delayFor {pacer : Pacer} {previous : PacerSample}
    (enabled : pacer.enabled = true)
    (remembered : pacer.previous = some previous) (source wall : Nat) :
    1000 ∣ pacer.delayFor source wall := by
  simp only [Pacer.delayFor, remembered, enabled, Bool.not_true, Bool.false_eq_true, if_false]
  split
  · exact Nat.dvd_mul_left _ _
  · exact Nat.dvd_zero _

theorem plays_timed (pictures : List (Nat × Picture)) {playout : Playout} {previous : PacerSample}
    (enabled : playout.pacer.enabled = true) (remembered : playout.pacer.previous = some previous)
    (shown : previous.wall ≤ now playout.clock) :
    Pacer.Plays playout.pacer (playout.timed pictures) := by
  induction pictures generalizing playout previous with
  | nil => exact .done _
  | cons item rest ih =>
      obtain ⟨elapsed, picture⟩ := item
      have later : Pacer.Plays ({ playout with clock := playout.clock + elapsed }.decoded
          picture).pacer _ := ih enabled rfl (Nat.le_refl _)
      refine .next ?_ ?_ later
      · intro same member
        obtain rfl : previous = same := by simpa [remembered] using member
        exact Nat.le_trans shown (Nat.div_le_div_right (Nat.le_add_right _ _))
      · have whole := dvd_delayFor enabled remembered picture.timestamp
          (now (playout.clock + elapsed))
        simp only [decoded, now] at whole ⊢
        omega

end Playout
end VideoIngest
