import Mathlib.Data.List.Induction
import Mathlib.Data.List.Nodup
import Mathlib.Data.List.Perm.Basic
import VideoIngest.Fanout

/-! Registrations as a set of sinks: changes may reorder them, but each sink is registered once. -/

namespace VideoIngest

namespace FanoutChange

/-- What a change makes of the sinks that are registered, but for their order. -/
def on (sinks : List String) : FanoutChange → List String
  | .add sink _ => if sink ∈ sinks then sinks else sinks ++ [sink]
  | .remove sink => sinks.erase sink

variable {sinks others : List String}

theorem nodup_on (once : sinks.Nodup) (change : FanoutChange) : (change.on sinks).Nodup := by
  cases change with
  | add sink wants =>
      rw [on]
      by_cases registered : sink ∈ sinks
      · rwa [if_pos registered]
      · rw [if_neg registered, List.nodup_append_comm, List.singleton_append, List.nodup_cons]
        exact ⟨registered, once⟩
  | remove sink => exact once.erase sink

private theorem on_perm (same : sinks.Perm others) (change : FanoutChange) :
    (change.on sinks).Perm (change.on others) := by
  cases change with
  | add sink wants =>
      rw [on, on]
      simp only [same.mem_iff]
      split
      · exact same
      · exact same.append_right [sink]
  | remove sink => exact same.erase sink

end FanoutChange

namespace Fanout

/-! ### Removal -/

/-- The last entry takes the place of the one that is removed, and the others stay. -/
private theorem swapRemove_perm {α : Type} {place : Nat} {entries : List α}
    (inside : place < entries.length) :
    (swapRemove place entries).Perm (entries.eraseIdx place) := by
  rcases List.eq_nil_or_concat entries with rfl | ⟨front, last, rfl⟩
  · exact absurd inside (Nat.not_lt_zero place)
  · rw [List.concat_eq_append] at inside ⊢
    unfold swapRemove
    rw [List.getLast?_concat]
    dsimp only
    by_cases inFront : place < front.length
    · have moved := List.set_perm_cons_eraseIdx inFront last
      rw [List.set_append_left _ _ inFront, List.dropLast_concat,
        List.eraseIdx_append_of_lt_length inFront]
      exact moved.trans (List.perm_append_singleton last _).symm
    · have isLast : place = front.length := by
        rw [List.length_append, List.length_singleton] at inside
        omega
      subst isLast
      rw [List.set_append_right _ _ (Nat.le_refl _), Nat.sub_self,
        List.eraseIdx_append_of_length_le (Nat.le_refl _), Nat.sub_self]
      simp

theorem remove_cases (sink : String) (fanout : Fanout) :
    (sink ∉ fanout.sinks ∧ fanout.remove sink = (fanout, false)) ∨
      (fanout.remove sink).2 = true ∧ ∃ entry, entry.sink = sink ∧
        fanout.registrations.Perm (entry :: (fanout.remove sink).1.registrations) := by
  unfold remove
  cases found : fanout.registrations.findIdx? fun entry => entry.sink == sink with
  | none =>
      refine .inl ⟨?_, rfl⟩
      intro member
      obtain ⟨entry, inEntries, same⟩ := List.mem_map.mp member
      have differs := List.findIdx?_eq_none_iff.mp found entry inEntries
      rw [same, beq_self_eq_true] at differs
      cases differs
  | some place =>
      obtain ⟨inside, isSink, _⟩ := List.findIdx?_eq_some_iff_getElem.mp found
      refine .inr ⟨rfl, fanout.registrations[place], eq_of_beq isSink, ?_⟩
      exact (List.getElem_cons_eraseIdx_perm inside).symm.trans
        ((swapRemove_perm inside).symm.cons _)

private theorem sinks_remove_perm (sink : String) (fanout : Fanout) :
    (fanout.remove sink).1.sinks.Perm (fanout.sinks.erase sink) := by
  rcases remove_cases sink fanout with ⟨absent, unchanged⟩ | ⟨_, entry, rfl, same⟩
  · rw [unchanged, List.erase_of_not_mem absent]
  · have erased := (same.map Registration.sink).erase entry.sink
    rw [List.map_cons, List.erase_cons_head] at erased
    exact erased.symm

/-! ### All changes -/

private theorem sinks_addOrUpdate (sink : String) (wants : SinkWants) (fanout : Fanout) :
    (fanout.addOrUpdate sink wants).sinks =
      if sink ∈ fanout.sinks then fanout.sinks else fanout.sinks ++ [sink] := by
  unfold addOrUpdate
  by_cases registered : sink ∈ fanout.sinks
  · rw [if_pos registered, if_pos registered]
    unfold sinks
    rw [List.map_map]
    apply List.map_congr_left
    intro entry _
    simp only [Function.comp_apply]
    split <;> rfl
  · rw [if_neg registered, if_neg registered]
    exact List.map_append

theorem sinks_apply_perm (change : FanoutChange) (fanout : Fanout) :
    (fanout.apply change).sinks.Perm (change.on fanout.sinks) := by
  cases change with
  | add sink wants => exact .of_eq (sinks_addOrUpdate sink wants fanout)
  | remove sink => exact sinks_remove_perm sink fanout

theorem sinks_foldl_apply_perm (changes : List FanoutChange) (fanout : Fanout) :
    (changes.foldl apply fanout).sinks.Perm (changes.foldl FanoutChange.on fanout.sinks) := by
  induction changes using List.reverseRecOn with
  | nil => exact .refl _
  | append_singleton changes change ih =>
      rw [List.foldl_concat, List.foldl_concat]
      exact (sinks_apply_perm change _).trans (FanoutChange.on_perm ih change)

theorem nodup_apply {fanout : Fanout} (once : fanout.sinks.Nodup) (change : FanoutChange) :
    (fanout.apply change).sinks.Nodup :=
  (sinks_apply_perm change fanout).nodup_iff.mpr (FanoutChange.nodup_on once change)

theorem nodup_foldl_apply {fanout : Fanout} (once : fanout.sinks.Nodup)
    (changes : List FanoutChange) : (changes.foldl apply fanout).sinks.Nodup := by
  induction changes generalizing fanout with
  | nil => exact once
  | cons change rest ih => exact ih (nodup_apply once change)

end Fanout
end VideoIngest
