import Mathlib.Logic.Function.Basic
import VideoIngest.Proofs.Fanout.Registrations

/-!
What registered sinks want.

Wherever a change may move the registrations, it binds its own sink to what this wants from then on,
or to nothing, and leaves the other sinks as they are.
-/

namespace VideoIngest

namespace FanoutChange

def sink : FanoutChange → String
  | add sink _ => sink
  | remove sink => sink

def wants? : FanoutChange → Option SinkWants
  | add _ wants => some wants
  | remove _ => none

end FanoutChange

namespace Fanout

variable {fanout : Fanout} {sink : String} {wants : SinkWants} {entry : Registration}

/-! ### What is found -/

theorem sink_mem (member : entry ∈ fanout.registrations) : entry.sink ∈ fanout.sinks :=
  List.mem_map_of_mem member

/-- Where no sink is registered twice, every registration is found. -/
theorem wants?_eq_some_iff (once : fanout.sinks.Nodup) :
    fanout.wants? sink = some wants ↔ ⟨sink, wants⟩ ∈ fanout.registrations := by
  unfold wants?
  constructor
  · intro wanted
    obtain ⟨entry, found, rfl⟩ := Option.map_eq_some_iff.mp wanted
    obtain rfl : entry.sink = sink := by simpa using List.find?_some found
    exact List.mem_of_find?_eq_some found
  · intro member
    cases found : fanout.registrations.find? fun entry => entry.sink == sink with
    | none => exact absurd (beq_self_eq_true sink) (List.find?_eq_none.mp found _ member)
    | some entry =>
        have isSink : entry.sink = sink := by simpa using List.find?_some found
        have same := List.inj_on_of_nodup_map once (List.mem_of_find?_eq_some found) member isSink
        rw [same, Option.map_some]

theorem wants?_eq_none_iff : fanout.wants? sink = none ↔ sink ∉ fanout.sinks := by
  rw [wants?, Option.map_eq_none_iff, List.find?_eq_none]
  constructor
  · intro differs member
    obtain ⟨entry, inEntries, isSink⟩ := List.mem_map.mp member
    exact differs entry inEntries (beq_iff_eq.mpr isSink)
  · intro absent entry member isSink
    exact absent (eq_of_beq isSink ▸ sink_mem member)

theorem isSome_wants?_iff : (fanout.wants? sink).isSome = true ↔ sink ∈ fanout.sinks := by
  rw [Option.isSome_iff_ne_none, Ne, wants?_eq_none_iff, not_not]

/-! ### Removal -/

theorem hasRemoved (sink : String) (fanout : Fanout) :
    (fanout.remove sink).2 = decide (sink ∈ fanout.sinks) := by
  rcases remove_cases sink fanout with ⟨absent, same⟩ | ⟨hasRemoved, entry, isSink, same⟩
  · rw [same, decide_eq_false absent]
  · have registered : entry ∈ fanout.registrations := same.mem_iff.mpr List.mem_cons_self
    rw [hasRemoved, decide_eq_true (isSink ▸ sink_mem registered)]

/-- Only the registration of the sink that is removed goes. -/
theorem mem_remove_iff (once : fanout.sinks.Nodup) :
    entry ∈ (fanout.remove sink).1.registrations ↔
      entry ∈ fanout.registrations ∧ entry.sink ≠ sink := by
  rcases remove_cases sink fanout with ⟨absent, unchanged⟩ | ⟨_, removed, rfl, same⟩
  · rw [unchanged]
    have differs (member : entry ∈ fanout.registrations) : entry.sink ≠ sink := fun isSink =>
      absent (isSink ▸ sink_mem member)
    exact (and_iff_left_of_imp differs).symm
  · have absent : removed.sink ∉ (fanout.remove removed.sink).1.sinks :=
      (List.nodup_cons.mp ((same.map Registration.sink).nodup_iff.mp once)).1
    rw [same.mem_iff, List.mem_cons]
    constructor
    · intro member
      have isRegistered : entry.sink ∈ (fanout.remove removed.sink).1.sinks := sink_mem member
      exact ⟨.inr member, fun isSink => absent (isSink ▸ isRegistered)⟩
    · rintro ⟨rfl | member, differs⟩
      · exact absurd rfl differs
      · exact member

/-! ### All changes -/

theorem mem_addOrUpdate_iff :
    entry ∈ (fanout.addOrUpdate sink wants).registrations ↔
      entry = ⟨sink, wants⟩ ∨ entry ∈ fanout.registrations ∧ entry.sink ≠ sink := by
  unfold addOrUpdate
  by_cases registered : sink ∈ fanout.sinks
  · rw [if_pos registered, List.mem_map]
    constructor
    · rintro ⟨before, member, rfl⟩
      by_cases own : before.sink = sink
      · rw [if_pos own, ← own]
        exact .inl rfl
      · rw [if_neg own]
        exact .inr ⟨member, own⟩
    · rintro (rfl | ⟨member, differs⟩)
      · obtain ⟨before, member, own⟩ := List.mem_map.mp registered
        refine ⟨before, member, ?_⟩
        rw [if_pos own, ← own]
      · exact ⟨entry, member, if_neg differs⟩
  · have differs (member : entry ∈ fanout.registrations) : entry.sink ≠ sink := fun own =>
      registered (own ▸ sink_mem member)
    rw [if_neg registered, List.mem_append, List.mem_singleton, or_comm,
      and_iff_left_of_imp differs]

theorem wants?_apply (once : fanout.sinks.Nodup) (change : FanoutChange) :
    (fanout.apply change).wants? =
      Function.update fanout.wants? change.sink change.wants? := by
  funext other
  apply Option.ext
  intro wants
  rw [wants?_eq_some_iff (nodup_apply once change)]
  by_cases own : other = change.sink
  · rw [own, Function.update_self]
    cases change with
    | add sink given =>
        refine mem_addOrUpdate_iff.trans ?_
        simp [FanoutChange.sink, FanoutChange.wants?, eq_comm]
    | remove sink =>
        refine (mem_remove_iff once).trans ?_
        simp [FanoutChange.sink, FanoutChange.wants?]
  · rw [Function.update_of_ne own, wants?_eq_some_iff once]
    cases change with
    | add sink given =>
        refine mem_addOrUpdate_iff.trans ?_
        have differs : (⟨other, wants⟩ : Registration) ≠ ⟨sink, given⟩ := fun same =>
          own (congrArg Registration.sink same)
        rw [or_iff_right differs]
        exact and_iff_left own
    | remove sink => exact (mem_remove_iff once).trans (and_iff_left own)

end Fanout
end VideoIngest
