import VideoIngest.Playout
import VideoIngest.Proofs.Fanout.Registrations

/-!
Delivery of pictures.

A delivery calls the sinks that were registered when it began. What they change as they are called
comes into force, but only the next delivery sees it.
-/

namespace VideoIngest

/-! ### One delivery -/

namespace Audience

def nextReaction (audience : Audience) (sink : String) : List FanoutChange :=
  (audience.reactions sink).headD []

private theorem received_call (picture : Picture) (audience : Audience) (sink : String) :
    (audience.call picture sink).received = audience.received.push (sink, picture) := by
  unfold call
  split <;> rfl

private theorem fanout_call (picture : Picture) (audience : Audience) (sink : String) :
    (audience.call picture sink).fanout =
      (audience.nextReaction sink).foldl Fanout.apply audience.fanout := by
  unfold call nextReaction
  cases audience.reactions sink <;> rfl

private theorem reactions_call (picture : Picture) (audience : Audience) (sink other : String) :
    (audience.call picture sink).reactions other =
      if other = sink then (audience.reactions other).tail else audience.reactions other := by
  unfold call
  cases reacts : audience.reactions sink with
  | nil =>
      by_cases own : other = sink
      · rw [if_pos own, own, reacts]
        rfl
      · rw [if_neg own]
  | cons now later =>
      by_cases own : other = sink
      · rw [if_pos own, own, reacts]
        exact if_pos rfl
      · rw [if_neg own]
        exact if_neg own

/-- Whatever the sinks change meanwhile, the picture goes to those that were named. -/
theorem received_foldl_call (picture : Picture) (sinks : List String) (audience : Audience) :
    (sinks.foldl (call picture) audience).received.toList =
      audience.received.toList ++ sinks.map fun sink => (sink, picture) := by
  induction sinks generalizing audience with
  | nil => exact (List.append_nil _).symm
  | cons sink rest ih =>
      rw [List.foldl_cons, ih, received_call, Array.toList_push, List.append_assoc]
      rfl

private theorem reactions_foldl_call (picture : Picture) {sinks : List String} (once : sinks.Nodup)
    (audience : Audience) (sink : String) :
    (sinks.foldl (call picture) audience).reactions sink =
      (audience.reactions sink).drop (sinks.count sink) := by
  induction sinks generalizing audience with
  | nil => rfl
  | cons first rest ih =>
      obtain ⟨absent, onceInRest⟩ := List.nodup_cons.mp once
      rw [List.foldl_cons, ih onceInRest, reactions_call]
      by_cases own : sink = first
      · subst own
        rw [if_pos rfl, List.count_cons_self, List.count_eq_zero_of_not_mem absent,
          List.drop_zero, List.drop_one]
      · rw [if_neg own, List.count_cons_of_ne (Ne.symm own)]

/-- Since each sink is called once, it makes the changes that came next when the delivery began. -/
theorem fanout_foldl_call (picture : Picture) {sinks : List String} (once : sinks.Nodup)
    (audience : Audience) :
    (sinks.foldl (call picture) audience).fanout =
      (sinks.flatMap audience.nextReaction).foldl Fanout.apply audience.fanout := by
  induction sinks generalizing audience with
  | nil => rfl
  | cons first rest ih =>
      obtain ⟨absent, onceInRest⟩ := List.nodup_cons.mp once
      have same : rest.flatMap (audience.call picture first).nextReaction =
          rest.flatMap audience.nextReaction := by
        apply List.flatMap_congr
        intro sink member
        have other : sink ≠ first := fun own => absent (own ▸ member)
        unfold nextReaction
        rw [reactions_call, if_neg other]
      rw [List.foldl_cons, ih onceInRest, same, fanout_call, List.flatMap_cons, List.foldl_append]

end Audience

/-! ### Many deliveries -/

/-- What may happen to a playout: its registrations are changed from outside, or a picture goes to
its sinks, by itself or behind the decoder. -/
inductive PlayoutStep
  | change (request : FanoutChange)
  | deliver (picture : Picture)
  | decoded (picture : Picture)
  deriving DecidableEq, Repr

def PlayoutStep.isDecoded : PlayoutStep → Bool
  | .decoded _ => true
  | _ => false

namespace Playout

def step (playout : Playout) : PlayoutStep → Playout
  | .change request => playout.change request
  | .deliver picture => { playout with audience := (playout.audience.deliver picture).1 }
  | .decoded picture => playout.decoded picture

def after (playout : Playout) (steps : List PlayoutStep) : Playout := steps.foldl step playout

theorem after_append_singleton (playout : Playout) (steps : List PlayoutStep)
    (last : PlayoutStep) : playout.after (steps ++ [last]) = (playout.after steps).step last :=
  List.foldl_concat _ _ _ _

theorem delivered_after (playout : Playout) (steps : List PlayoutStep) :
    (playout.after steps).delivered =
      playout.delivered + steps.countP PlayoutStep.isDecoded := by
  induction steps using List.reverseRecOn with
  | nil => rfl
  | append_singleton steps last ih =>
      rw [after_append_singleton, List.countP_append, ← Nat.add_assoc, ← ih]
      cases last <;> rfl

end Playout

/-- The registrations, and the calls of sinks that there have been. -/
structure CallLedger where
  fanout : Fanout
  calls : List (String × Picture)

namespace CallLedger

/-- What a sink does when it is called next, if `reactions` tells what it does at each call. -/
def reaction (reactions : String → List (List FanoutChange)) (ledger : CallLedger)
    (sink : String) : List FanoutChange :=
  ((reactions sink).drop ((ledger.calls.map Prod.fst).count sink)).headD []

/-- The picture goes to all sinks that are registered, and then what they do comes into force. -/
def deliver (reactions : String → List (List FanoutChange)) (picture : Picture)
    (ledger : CallLedger) : CallLedger where
  fanout := (ledger.fanout.sinks.flatMap (ledger.reaction reactions)).foldl Fanout.apply
    ledger.fanout
  calls := ledger.calls ++ ledger.fanout.sinks.map fun sink => (sink, picture)

def step (reactions : String → List (List FanoutChange)) (ledger : CallLedger) :
    PlayoutStep → CallLedger
  | .change request => { ledger with fanout := ledger.fanout.apply request }
  | .deliver picture => ledger.deliver reactions picture
  | .decoded picture => ledger.deliver reactions picture

def after (playout : Playout) (steps : List PlayoutStep) : CallLedger :=
  steps.foldl (step playout.audience.reactions) ⟨playout.audience.fanout, []⟩

end CallLedger

/-- An audience that has come from another by what the ledger tells. -/
structure Audience.Follows (before : Audience) (ledger : CallLedger) (audience : Audience) :
    Prop where
  once : audience.fanout.sinks.Nodup
  fanout : audience.fanout = ledger.fanout
  received : audience.received.toList = before.received.toList ++ ledger.calls
  reactions : ∀ sink, audience.reactions sink =
    (before.reactions sink).drop ((ledger.calls.map Prod.fst).count sink)

namespace Audience

variable {before audience : Audience} {ledger : CallLedger}

theorem Follows.change (follows : before.Follows ledger audience) (request : FanoutChange) :
    before.Follows { ledger with fanout := ledger.fanout.apply request }
      { audience with fanout := audience.fanout.apply request } where
  once := Fanout.nodup_apply follows.once request
  fanout := congrArg (Fanout.apply · request) follows.fanout
  received := follows.received
  reactions := follows.reactions

theorem Follows.deliver (follows : before.Follows ledger audience) (picture : Picture) :
    before.Follows (ledger.deliver before.reactions picture) (audience.deliver picture).1 := by
  have reacts : audience.nextReaction = ledger.reaction before.reactions := by
    funext sink
    rw [nextReaction, follows.reactions]
    rfl
  have fanout := fanout_foldl_call picture follows.once audience
  refine ⟨?_, ?_, ?_, ?_⟩
  · rw [Audience.deliver, fanout]
    exact Fanout.nodup_foldl_apply follows.once _
  · refine fanout.trans ?_
    rw [reacts, follows.fanout]
    rfl
  · refine (received_foldl_call picture _ audience).trans ?_
    rw [follows.received, List.append_assoc, follows.fanout]
    rfl
  · intro sink
    refine (reactions_foldl_call picture follows.once audience sink).trans ?_
    rw [follows.reactions, List.drop_drop, follows.fanout, CallLedger.deliver, List.map_append,
      List.count_append, List.map_map]
    simp [Function.comp_def]

end Audience

theorem Playout.follows_after {playout : Playout} (once : playout.audience.fanout.sinks.Nodup)
    (steps : List PlayoutStep) :
    playout.audience.Follows (.after playout steps) (playout.after steps).audience := by
  induction steps using List.reverseRecOn with
  | nil => exact ⟨once, rfl, (List.append_nil _).symm, fun _ => rfl⟩
  | append_singleton steps last ih =>
      rw [after_append_singleton, CallLedger.after, List.foldl_concat]
      cases last with
      | change request => exact ih.change request
      | deliver picture => exact ih.deliver picture
      | decoded picture => exact ih.deliver picture

/-- Let each sink do what it likes whenever it is called, with its own registration and with any
other: its reactions are what it does at its first call, at its second, and so on. Let the
registrations also be changed from outside between pictures. At any time a delivery calls the sinks
that were registered as it began, each once, in the order of the registrations and with the same
picture, and says how many these are. What the sinks have changed meanwhile is in force afterwards.
So the next delivery goes by it, and all that sinks see is what the ledger tells, where the
reactions come behind the calls. Only decoded pictures are counted, one by one. -/
theorem Playout.delivery_works_on_snapshot (playout : Playout)
    (once : playout.audience.fanout.sinks.Nodup) (steps : List PlayoutStep) :
    let last := playout.after steps
    let ledger := CallLedger.after playout steps
    (last.audience.fanout = ledger.fanout ∧
        last.audience.received.toList = playout.audience.received.toList ++ ledger.calls ∧
        last.delivered = playout.delivered + steps.countP PlayoutStep.isDecoded) ∧
      last.audience.fanout.sinks.Nodup ∧
      ∀ picture,
        let sinks := last.audience.fanout.sinks
        let changes := sinks.flatMap last.audience.nextReaction
        let next := (last.audience.deliver picture).1
        next.received.toList =
            last.audience.received.toList ++ sinks.map (fun sink => (sink, picture)) ∧
          (last.audience.deliver picture).2 = sinks.length ∧
          next.fanout = changes.foldl Fanout.apply last.audience.fanout ∧
          next.fanout.sinks.Perm (changes.foldl FanoutChange.on sinks) ∧
          (last.decoded picture).audience = next ∧
          (last.decoded picture).delivered = last.delivered + 1 := by
  intro last ledger
  have follows := follows_after once steps
  refine ⟨⟨follows.fanout, follows.received, delivered_after playout steps⟩, follows.once, ?_⟩
  intro picture sinks changes next
  have fanout : next.fanout = changes.foldl Fanout.apply last.audience.fanout :=
    Audience.fanout_foldl_call picture follows.once last.audience
  refine ⟨Audience.received_foldl_call picture sinks last.audience, ?_, fanout, ?_, rfl, rfl⟩
  · exact (List.length_map _).symm
  · rw [fanout]
    exact Fanout.sinks_foldl_apply_perm changes last.audience.fanout

/-- The first sink takes itself and its neighbour off the list and asks for a new one, and the new
one brings both back. -/
def yardPlayout : Playout :=
  .start (.start false 0 0)
    { fanout := ⟨[⟨"gate", .anything⟩, ⟨"path", .anything⟩, ⟨"barn", .anything⟩]⟩
      reactions := fun sink =>
        if sink = "gate" then [[.remove "gate", .remove "path", .add "roof" .anything]]
        else if sink = "roof" then [[.add "path" .anything, .add "gate" .anything]]
        else []
      received := #[] }

def yardPicture : Picture := .ofBuffer (.encoded [0x82]) 4 2 0

def yardSteps : List PlayoutStep :=
  [.decoded yardPicture, .change (.remove "barn"), .deliver yardPicture]

theorem yard_delivers_on_snapshots :
    yardPlayout.audience.fanout.sinks.Nodup ∧
      (yardPlayout.after yardSteps).audience.received.toList =
        ["gate", "path", "barn", "roof"].map (fun sink => (sink, yardPicture)) ∧
      (yardPlayout.after yardSteps).audience.fanout.sinks = ["roof", "path", "gate"] ∧
      (yardPlayout.after yardSteps).delivered = 1 := by
  have once : yardPlayout.audience.fanout.sinks.Nodup := by decide +kernel
  obtain ⟨⟨fanout, received, delivered⟩, _⟩ :=
    yardPlayout.delivery_works_on_snapshot once yardSteps
  refine ⟨once, ?_, ?_, delivered⟩
  · rw [received]
    decide +kernel
  · rw [fanout]
    decide +kernel

end VideoIngest
