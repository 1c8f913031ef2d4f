import Mathlib.Data.Finset.Card
import VideoIngest.Fanout.Requests
import VideoIngest.Proofs.Fanout.Delivery
import VideoIngest.Proofs.Fanout.Wants
import VideoIngest.Proofs.History

/-!
A fan-out as a finite map from sinks to what they want.

However the registrations are moved about, a sink is bound by its own latest change. So a fan-out can
be told from the changes alone, and up to their order from the set of its sinks.
-/

namespace VideoIngest

/-! ### What changes bind -/

namespace FanoutChange

variable {change : FanoutChange} {sink : String}

def binding? (sink : String) (change : FanoutChange) : Option (Option SinkWants) :=
  if change.sink = sink then some change.wants? else none

theorem binding?_eq_none_iff : change.binding? sink = none ↔ change.sink ≠ sink :=
  ite_eq_right_iff.trans (by simp)

theorem binding?_eq_some_iff {bound : Option SinkWants} :
    change.binding? sink = some bound ↔ change.sink = sink ∧ change.wants? = bound :=
  Option.ite_none_right_eq_some.trans (and_congr_right' Option.some_inj)

theorem binding?_eq_wants_iff {wants : SinkWants} :
    change.binding? sink = some (some wants) ↔ change = .add sink wants := by
  rw [binding?_eq_some_iff]
  cases change with
  | add other given => simp [FanoutChange.sink, wants?]
  | remove other => simp [wants?]

theorem binding?_eq_nothing_iff : change.binding? sink = some none ↔ change = .remove sink := by
  rw [binding?_eq_some_iff]
  cases change with
  | add other given => simp [wants?]
  | remove other => simp [FanoutChange.sink, wants?]

end FanoutChange

namespace Fanout

variable {changes : List FanoutChange} {sink : String} {wants : SinkWants}

def ofChanges (changes : List FanoutChange) : Fanout := changes.foldl apply empty

theorem nodup_empty : empty.sinks.Nodup := List.nodup_nil

theorem nodup_ofChanges (changes : List FanoutChange) : (ofChanges changes).sinks.Nodup :=
  nodup_foldl_apply nodup_empty changes

theorem wants?_ofChanges (changes : List FanoutChange) (sink : String) :
    (ofChanges changes).wants? sink =
      (History.latest? (FanoutChange.binding? sink) changes).join := by
  induction changes using List.reverseRecOn with
  | nil => rfl
  | append_singleton changes change ih =>
      have next : ofChanges (changes ++ [change]) = (ofChanges changes).apply change :=
        List.foldl_concat _ _ _ _
      rw [next, wants?_apply (nodup_ofChanges changes), History.latest?_append_singleton]
      by_cases own : change.sink = sink
      · rw [FanoutChange.binding?, if_pos own, ← own, Function.update_self]
        rfl
      · rw [FanoutChange.binding?, if_neg own, Function.update_of_ne (Ne.symm own), ih,
          Option.none_or]

theorem wants?_ofChanges_eq_some_iff :
    (ofChanges changes).wants? sink = some wants ↔
      ∃ earlier later, changes = earlier ++ .add sink wants :: later ∧
        ∀ change ∈ later, change.sink ≠ sink := by
  rw [wants?_ofChanges, Option.join_eq_some_iff, History.latest?_eq_some_iff]
  simp only [FanoutChange.binding?_eq_wants_iff, FanoutChange.binding?_eq_none_iff]
  constructor
  · rintro ⟨earlier, _, later, split, rfl, others⟩
    exact ⟨earlier, later, split, others⟩
  · rintro ⟨earlier, later, split, others⟩
    exact ⟨earlier, _, later, split, rfl, others⟩

/-- A sink is registered as long as it is not removed again. -/
theorem mem_sinks_ofChanges_iff :
    sink ∈ (ofChanges changes).sinks ↔
      ∃ earlier wants later, changes = earlier ++ .add sink wants :: later ∧
        .remove sink ∉ later := by
  rw [← isSome_wants?_iff, Option.isSome_iff_exists]
  constructor
  · rintro ⟨wants, wanted⟩
    obtain ⟨earlier, later, split, others⟩ := wants?_ofChanges_eq_some_iff.mp wanted
    exact ⟨earlier, wants, later, split, fun removed => others _ removed rfl⟩
  · rintro ⟨earlier, wants, later, rfl, stays⟩
    -- What comes behind the addition may bind the sink anew, but not to nothing.
    rw [wants?_ofChanges, List.append_cons, History.latest?_append,
      History.latest?_append_singleton, FanoutChange.binding?_eq_wants_iff.mpr rfl]
    cases latest : History.latest? (FanoutChange.binding? sink) later with
    | none => exact ⟨wants, rfl⟩
    | some bound =>
        obtain ⟨change, member, binds⟩ := History.exists_mem_of_latest? latest
        cases bound with
        | some given => exact ⟨given, rfl⟩
        | none => exact absurd (FanoutChange.binding?_eq_nothing_iff.mp binds ▸ member) stays

/-- The fan-out binds each registered sink, and no other, to what its changes have made it want. -/
structure IsMapOf (changes : List FanoutChange) (fanout : Fanout) : Prop where
  once : fanout.sinks.Nodup
  registered : ∀ sink, sink ∈ fanout.sinks ↔
    ∃ earlier wants later, changes = earlier ++ .add sink wants :: later ∧ .remove sink ∉ later
  wanted : ∀ sink wants, fanout.wants? sink = some wants ↔
    ∃ earlier later, changes = earlier ++ .add sink wants :: later ∧
      ∀ change ∈ later, change.sink ≠ sink
  unknown : ∀ sink, fanout.wants? sink = none ↔ sink ∉ fanout.sinks
  size : fanout.size = fanout.sinks.toFinset.card
  isEmpty : fanout.isEmpty = true ↔ fanout.size = 0

theorem isMapOf_ofChanges (changes : List FanoutChange) : (ofChanges changes).IsMapOf changes where
  once := nodup_ofChanges changes
  registered := fun _ => mem_sinks_ofChanges_iff
  wanted := fun _ _ => wants?_ofChanges_eq_some_iff
  unknown := fun _ => wants?_eq_none_iff
  size := by
    rw [List.toFinset_card_of_nodup (nodup_ofChanges changes)]
    exact (List.length_map _).symm
  isEmpty := List.isEmpty_iff.trans List.length_eq_zero_iff.symm

end Fanout

/-! ### What requests change -/

namespace Audience

def vacant (reactions : String → List (List FanoutChange)) : Audience := { empty with reactions }

def run (audience : Audience) (requests : List FanoutRequest) : Audience :=
  requests.foldl (fun audience request => (audience.answer request).1) audience

/-- The changes that a request makes, those of the sinks that it calls among them. -/
def changesOf (audience : Audience) : FanoutRequest → List FanoutChange
  | .add sink wants => [.add sink wants]
  | .remove sink => [.remove sink]
  | .wants _ | .size | .isEmpty => []
  | .deliver _ => audience.fanout.sinks.flatMap audience.nextReaction

def changesIn : Audience → List FanoutRequest → List FanoutChange
  | _, [] => []
  | audience, request :: rest =>
      audience.changesOf request ++ (audience.answer request).1.changesIn rest

def calledFor (picture : Picture) (audience : Audience) : List (String × Picture) :=
  (audience.answer (.deliver picture)).1.received.toList.drop audience.received.size

variable {audience other : Audience}

private theorem fanout_answer (once : audience.fanout.sinks.Nodup) (request : FanoutRequest) :
    (audience.answer request).1.fanout =
      (audience.changesOf request).foldl Fanout.apply audience.fanout := by
  cases request with
  | add sink wants => rfl
  | remove sink => rfl
  | wants sink => rfl
  | size => rfl
  | isEmpty => rfl
  | deliver picture => exact fanout_foldl_call picture once audience

theorem fanout_run (once : audience.fanout.sinks.Nodup) (requests : List FanoutRequest) :
    (audience.run requests).fanout =
      (audience.changesIn requests).foldl Fanout.apply audience.fanout := by
  induction requests generalizing audience with
  | nil => rfl
  | cons request rest ih =>
      have next := fanout_answer once request
      have stillOnce : (audience.answer request).1.fanout.sinks.Nodup :=
        next ▸ Fanout.nodup_foldl_apply once _
      rw [changesIn, List.foldl_append, ← next, ← ih stillOnce]
      rfl

private theorem fanout_run_vacant (reactions : String → List (List FanoutChange))
    (requests : List FanoutRequest) :
    ((vacant reactions).run requests).fanout =
      .ofChanges ((vacant reactions).changesIn requests) :=
  fanout_run Fanout.nodup_empty requests

theorem calledFor_eq (picture : Picture) (audience : Audience) :
    audience.calledFor picture = audience.fanout.sinks.map fun sink => (sink, picture) := by
  have received : (audience.answer (.deliver picture)).1.received.toList = _ :=
    received_foldl_call picture audience.fanout.sinks audience
  rw [calledFor, received]
  exact List.drop_left' Array.length_toList

/-- What the requests to an audience are answered, as far as it is the finite map of its sinks. -/
structure AnswersAsMap (audience : Audience) : Prop where
  wants : ∀ sink, audience.answer (.wants sink) = (audience, .wants (audience.fanout.wants? sink))
  size : audience.answer .size = (audience, .size audience.fanout.size)
  isEmpty : audience.answer .isEmpty = (audience, .isEmpty audience.fanout.isEmpty)
  adds : ∀ sink wants, (audience.answer (.add sink wants)).1.fanout.wants? =
    Function.update audience.fanout.wants? sink (some wants)
  removes : ∀ sink,
    (audience.answer (.remove sink)).2 = .removed (decide (sink ∈ audience.fanout.sinks)) ∧
      (audience.answer (.remove sink)).1.fanout.wants? =
        Function.update audience.fanout.wants? sink none
  delivers : ∀ picture,
    (audience.answer (.deliver picture)).2 = .delivered audience.fanout.size ∧
      audience.calledFor picture = audience.fanout.sinks.map fun sink => (sink, picture)

theorem answersAsMap (once : audience.fanout.sinks.Nodup) : audience.AnswersAsMap where
  wants := fun _ => rfl
  size := rfl
  isEmpty := rfl
  adds := fun sink wants => Fanout.wants?_apply once (.add sink wants)
  removes := fun sink =>
    ⟨congrArg FanoutResponse.removed (Fanout.hasRemoved sink audience.fanout),
      Fanout.wants?_apply once (.remove sink)⟩
  delivers := fun picture => ⟨rfl, calledFor_eq picture audience⟩

/-- The order of the registrations is all in which fan-outs of the same sinks can differ. -/
theorem calledFor_perm (once : audience.fanout.sinks.Nodup) (otherOnce : other.fanout.sinks.Nodup)
    (same : ∀ sink, sink ∈ audience.fanout.sinks ↔ sink ∈ other.fanout.sinks)
    (picture : Picture) : (audience.calledFor picture).Perm (other.calledFor picture) := by
  rw [calledFor_eq, calledFor_eq]
  exact ((List.perm_ext_iff_of_nodup once otherOnce).mpr same).map _

/-- Whatever is asked of a fan-out that begins without sinks, and whatever its sinks change when they
are called, it is the finite map that these changes have made, also amid a delivery. It answers as
this map does, and a picture goes to the same sinks wherever the same ones are registered. -/
theorem registrations_are_finite_map (reactions : String → List (List FanoutChange))
    (requests : List FanoutRequest) :
    let last := (vacant reactions).run requests
    let changes := (vacant reactions).changesIn requests
    last.fanout.IsMapOf changes ∧ last.AnswersAsMap ∧
      (∀ picture called uncalled, last.fanout.sinks = called ++ uncalled →
        (called.foldl (call picture) last).fanout.IsMapOf
          (changes ++ called.flatMap last.nextReaction)) ∧
      ∀ otherReactions otherRequests,
        let other := (vacant otherReactions).run otherRequests
        (∀ sink, sink ∈ last.fanout.sinks ↔ sink ∈ other.fanout.sinks) →
          ∀ picture, (last.calledFor picture).Perm (other.calledFor picture) := by
  intro last changes
  have fanout : last.fanout = .ofChanges changes := fanout_run_vacant reactions requests
  have isMap : last.fanout.IsMapOf changes := fanout ▸ Fanout.isMapOf_ofChanges changes
  refine ⟨isMap, answersAsMap isMap.once, ?_, ?_⟩
  · intro picture called uncalled split
    have calledOnce : called.Nodup := (List.nodup_append.mp (split ▸ isMap.once)).1
    rw [fanout_foldl_call picture calledOnce, fanout, Fanout.ofChanges, ← List.foldl_append]
    exact Fanout.isMapOf_ofChanges _
  · intro otherReactions otherRequests other same
    have otherOnce : other.fanout.sinks.Nodup := by
      rw [fanout_run_vacant otherReactions otherRequests]
      exact Fanout.nodup_ofChanges _
    exact calledFor_perm isMap.once otherOnce same

/-- The sink at the gate leaves at its first picture and sends for the one on the roof. -/
def gateReactions (sink : String) : List (List FanoutChange) :=
  if sink = "gate" then [[.remove "gate", .add "roof" .anything]] else []

def gateRequests : List FanoutRequest :=
  [.add "gate" .anything, .add "path" .anything, .add "barn" .anything, .remove "gate",
    .add "gate" .anything, .add "path" ⟨some 640, none, none⟩, .deliver yardPicture, .remove "barn"]

theorem gate_leaves_for_roof :
    let last := (vacant gateReactions).run gateRequests
    let other := (vacant fun _ => []).run
      [.add "path" .anything, .add "yard" .anything, .add "roof" .anything, .remove "yard"]
    last.fanout.sinks = ["roof", "path"] ∧ other.fanout.sinks = ["path", "roof"] ∧
      last.fanout.wants? "path" = some ⟨some 640, none, none⟩ ∧
      last.fanout.wants? "gate" = none ∧
      (["roof"].foldl (call yardPicture) last).fanout.sinks.Nodup ∧
      (last.calledFor yardPicture).Perm (other.calledFor yardPicture) := by
  intro last other
  have sinks : last.fanout.sinks = ["roof", "path"] := by decide +kernel
  have otherSinks : other.fanout.sinks = ["path", "roof"] := by decide +kernel
  obtain ⟨map, _, amid, alike⟩ := registrations_are_finite_map gateReactions gateRequests
  refine ⟨sinks, otherSinks, ?_, ?_, (amid yardPicture ["roof"] ["path"] sinks).once, ?_⟩
  · rw [map.wanted]
    exact ⟨[.add "gate" .anything, .add "path" .anything, .add "barn" .anything, .remove "gate",
      .add "gate" .anything], [.remove "gate", .add "roof" .anything, .remove "barn"],
      by decide +kernel, by decide⟩
  · rw [map.unknown, sinks]
    decide
  · apply alike
    intro sink
    rw [sinks, otherSinks]
    exact List.Perm.mem_iff (.swap _ _ _)

end Audience
end VideoIngest
