import VideoIngest.Proofs.DecodeLoop.Passthrough
import VideoIngest.Proofs.DecodeLoop.Work

/-!
What the decode loop counts, held against the calls to the engine and against its script.

Each frame comes to one of three ends: no decoder is live, the decoder refuses it, or it becomes a
picture.
-/

namespace VideoIngest

namespace EngineEvent

def isDecode : EngineEvent → Bool
  | decode _ => true
  | _ => false

def isCreate : EngineEvent → Bool
  | create _ => true
  | _ => false

def isConfigure : EngineEvent → Bool
  | configure _ => true
  | _ => false

end EngineEvent

namespace IngestEvent

def HasData : IngestEvent → Prop
  | formatChange _ _ => True
  | frame coded => coded.data ≠ []
  | stop => True

end IngestEvent

/-- How many of the first `calls` calls a script lets succeed. -/
def Engine.granted (results : List CallResult) (calls : Nat) : Nat :=
  (List.range calls).countP fun number => (resultAt results number).isOk

private theorem Engine.granted_succ (results : List CallResult) (calls : Nat) :
    granted results (calls + 1) =
      granted results calls + [resultAt results calls].countP Except.isOk := by
  unfold granted
  rw [List.range_succ, List.countP_append]
  rfl

namespace DecoderSlot

variable {slot : DecoderSlot}

theorem submit_of_error (frame : CodedFrame) {live : LiveDecoder} {failure : IngestError}
    (active : slot.active = some live)
    (refused : Engine.resultAt slot.engine.decodeResults 0 = .error failure) :
    (slot.submit frame).2 = .error failure.asDecode ∧
      (slot.submit frame).1.engine.decodeResults = slot.engine.decodeResults.drop 1 := by
  unfold submit Engine.decode
  rw [active, Engine.nextResult_eq, refused]
  exact ⟨rfl, rfl⟩

/-! ### Scripts and calls -/

def decodeCalls (slot : DecoderSlot) : Nat := slot.engine.calls.countP EngineEvent.isDecode

def createCalls (slot : DecoderSlot) : Nat := slot.engine.calls.countP EngineEvent.isCreate

def configureCalls (slot : DecoderSlot) : Nat := slot.engine.calls.countP EngineEvent.isConfigure

/-- The calls so far have used up the script as far as they go. Each decoder that was created was to
be configured, and those that could be are counted. -/
structure FollowsScript (engine : Engine) (slot : DecoderSlot) : Prop where
  decodes : slot.engine.decodeResults = engine.decodeResults.drop slot.decodeCalls
  configures : slot.engine.configureResults = engine.configureResults.drop slot.configureCalls
  configured : slot.createCalls = slot.configureCalls
  created : slot.created = Engine.granted engine.configureResults slot.configureCalls

theorem followsScript_empty (engine : Engine) : FollowsScript engine (.empty engine.unused) :=
  ⟨rfl, rfl, rfl, rfl⟩

/-- A decoder is dropped without a call of another kind. -/
private theorem countP_dropCalls {isOf : EngineEvent → Bool}
    (others : ∀ format, isOf (.destroy format) = false) (slot : DecoderSlot) :
    slot.dropCalls.countP isOf = 0 := by
  unfold dropCalls
  cases slot.activeFormat with
  | none => rfl
  | some format =>
      change [EngineEvent.destroy format].countP isOf = 0
      rw [List.countP_singleton, others format]
      rfl

theorem countP_applyFormat {isOf : EngineEvent → Bool}
    (others : ∀ format, isOf (.destroy format) = false) (format : VideoFormat) (slot : DecoderSlot) :
    (slot.applyFormat format).1.engine.calls.countP isOf =
      slot.engine.calls.countP isOf +
        if slot.isDue format then ((Attempt.next slot.engine).calls format).countP isOf else 0 := by
  rw [calls_applyFormat, List.countP_append]
  split
  · rw [List.countP_append, countP_dropCalls others, Nat.zero_add]
  · rfl

theorem countP_destroy {isOf : EngineEvent → Bool}
    (others : ∀ format, isOf (.destroy format) = false) (slot : DecoderSlot) :
    slot.destroy.1.engine.calls.countP isOf = slot.engine.calls.countP isOf := by
  rw [calls_destroy, List.countP_append, countP_dropCalls others, Nat.add_zero]

private theorem decodeCalls_applyFormat (format : VideoFormat) (slot : DecoderSlot) :
    (slot.applyFormat format).1.decodeCalls = slot.decodeCalls := by
  have without (attempt : Attempt) : (attempt.calls format).countP EngineEvent.isDecode = 0 := by
    cases attempt <;> rfl
  unfold decodeCalls
  rw [countP_applyFormat fun _ => rfl, without, ite_self, Nat.add_zero]

private theorem createCalls_applyFormat (format : VideoFormat) (slot : DecoderSlot) :
    (slot.applyFormat format).1.createCalls =
      slot.createCalls +
        if slot.isDue format then [Attempt.next slot.engine].countP Attempt.isCreated else 0 := by
  unfold createCalls
  rw [countP_applyFormat fun _ => rfl]
  cases Attempt.next slot.engine <;> rfl

private theorem configureCalls_applyFormat (format : VideoFormat) (slot : DecoderSlot) :
    (slot.applyFormat format).1.configureCalls =
      slot.configureCalls +
        if slot.isDue format then [Attempt.next slot.engine].countP Attempt.isCreated else 0 := by
  unfold configureCalls
  rw [countP_applyFormat fun _ => rfl]
  cases Attempt.next slot.engine <;> rfl

private theorem configureResults_applyFormat (format : VideoFormat) (slot : DecoderSlot) :
    (slot.applyFormat format).1.engine.configureResults =
      slot.engine.configureResults.drop
        (if slot.isDue format then [Attempt.next slot.engine].countP Attempt.isCreated else 0) := by
  rw [applyFormat_eq]
  split
  · rw [engine_create]
    change slot.destroy.1.engine.configureResults.drop _ = _
    rw [next_destroy, (creationScript_destroy slot).2]
  · rfl

variable {engine : Engine}

private theorem FollowsScript.applyFormat (follows : FollowsScript engine slot)
    (format : VideoFormat) : FollowsScript engine (slot.applyFormat format).1 := by
  have next : Engine.resultAt slot.engine.configureResults 0 =
      Engine.resultAt engine.configureResults slot.configureCalls := by
    rw [follows.configures, Engine.resultAt_drop]
  refine ⟨?_, ?_, ?_, ?_⟩
  · rw [decodeResults_applyFormat, decodeCalls_applyFormat]
    exact follows.decodes
  · rw [configureResults_applyFormat, configureCalls_applyFormat, follows.configures,
      List.drop_drop]
  · rw [createCalls_applyFormat, configureCalls_applyFormat, follows.configured]
  · rw [created_applyFormat, configureCalls_applyFormat, follows.created]
    cases slot.isDue format with
    | false => simp
    | true =>
        unfold Attempt.next
        rw [next]
        cases Engine.resultAt slot.engine.createResults 0 with
        | error failure => simp [Attempt.ofResults, Attempt.isCreated]
        | ok done =>
            cases configured : Engine.resultAt engine.configureResults slot.configureCalls with
            | error failure =>
                simp [Attempt.ofResults, Attempt.isCreated, Engine.granted_succ, configured,
                  Except.isOk, Except.toBool]
            | ok done =>
                simp [Attempt.ofResults, Attempt.isCreated, Engine.granted_succ, configured,
                  Except.isOk, Except.toBool]

private theorem calls_submit_of_live (frame : CodedFrame) {live : LiveDecoder}
    (active : slot.active = some live) :
    (slot.submit frame).1.decodeCalls = slot.decodeCalls + 1 ∧
      (slot.submit frame).1.createCalls = slot.createCalls ∧
      (slot.submit frame).1.configureCalls = slot.configureCalls := by
  unfold decodeCalls createCalls configureCalls
  rw [calls_submit, active, Option.isSome_some, if_pos rfl, List.countP_append, List.countP_append,
    List.countP_append]
  exact ⟨rfl, rfl, rfl⟩

private theorem FollowsScript.submit (follows : FollowsScript engine slot) {frame : CodedFrame}
    {live : LiveDecoder} (active : slot.active = some live)
    (used : (slot.submit frame).1.engine.decodeResults = slot.engine.decodeResults.drop 1) :
    FollowsScript engine (slot.submit frame).1 := by
  obtain ⟨decodeCalls, createCalls, configureCalls⟩ := calls_submit_of_live frame active
  refine ⟨?_, ?_, ?_, ?_⟩
  · rw [used, decodeCalls, follows.decodes, List.drop_drop]
  · rw [configureCalls, (creationScript_submit frame slot).2]
    exact follows.configures
  · rw [createCalls, configureCalls]
    exact follows.configured
  · rw [configureCalls, created_submit]
    exact follows.created

end DecoderSlot

namespace DecodeLoop

/-! ### The ends of a frame -/

theorem onFrame_of_submit_ok {frame : CodedFrame} {loop : DecodeLoop} {picture : Picture}
    (hasData : frame.data.isEmpty = false) (decoded : (loop.slot.submit frame).2 = .ok picture) :
    loop.onFrame frame = ({ loop with slot := (loop.slot.submit frame).1 }, some picture) := by
  unfold onFrame
  rw [hasData, if_neg Bool.false_ne_true]
  cases outcome : loop.slot.submit frame with
  | mk slot result =>
      rw [outcome] at decoded
      dsimp only at decoded ⊢
      rw [decoded]

private theorem onFrame_of_submit_noDecoder {frame : CodedFrame} {loop : DecodeLoop}
    (hasData : frame.data.isEmpty = false)
    (met : (loop.slot.submit frame).2 = .error .noDecoder) :
    loop.onFrame frame =
      ({ loop with slot := (loop.slot.submit frame).1, undecoded := loop.undecoded + 1 },
        none) := by
  unfold onFrame
  rw [hasData, if_neg Bool.false_ne_true]
  cases outcome : loop.slot.submit frame with
  | mk slot result =>
      rw [outcome] at met
      dsimp only at met ⊢
      rw [met]

/-- A failure of the engine counts as one, even where the engine itself speaks of a missing
decoder. -/
theorem onFrame_of_submit_error {frame : CodedFrame} {loop : DecodeLoop} {failure : IngestError}
    (hasData : frame.data.isEmpty = false)
    (failed : (loop.slot.submit frame).2 = .error failure.asDecode) :
    loop.onFrame frame =
      ({ loop with slot := (loop.slot.submit frame).1, decodeErrors := loop.decodeErrors + 1 },
        none) := by
  unfold onFrame
  rw [hasData, if_neg Bool.false_ne_true]
  cases outcome : loop.slot.submit frame with
  | mk slot result =>
      rw [outcome] at failed
      dsimp only at failed ⊢
      rw [failed]
      cases failure <;> rfl

/-! ### The tally -/

/-- What a loop has counted that has worked on these events, lost these frames and decoded so many
pictures. -/
structure Tallies (engine : Engine) (events : List IngestEvent) (lost : List CodedFrame)
    (pictures : Nat) (loop : DecodeLoop) : Prop where
  follows : loop.slot.Follows events
  script : loop.slot.FollowsScript engine
  decoded : pictures = Engine.granted engine.decodeResults loop.slot.decodeCalls
  failed : pictures + loop.decodeErrors = loop.slot.decodeCalls
  undecoded : loop.undecoded = lost.length
  frames : loop.slot.decodeCalls + lost.length = events.countP IngestEvent.isFrame

variable {engine : Engine} {events : List IngestEvent} {lost : List CodedFrame} {pictures : Nat}
  {loop : DecodeLoop}

theorem counts_onFormat (session : String) (format : VideoFormat) (loop : DecodeLoop) :
    (loop.onFormat session format).undecoded = loop.undecoded ∧
      (loop.onFormat session format).decodeErrors = loop.decodeErrors := by
  unfold onFormat
  cases loop.slot.applyFormat format with
  | mk slot outcome =>
      dsimp only
      cases stateAfter outcome with
      | none => exact ⟨rfl, rfl⟩
      | some state => exact ⟨rfl, rfl⟩

private theorem Tallies.onFormat (tallies : Tallies engine events lost pictures loop)
    (session : String) (format : VideoFormat) :
    Tallies engine (events ++ [.formatChange session format]) lost pictures
      (loop.onFormat session format) := by
  have slot := slot_onFormat session format loop
  have sameCounts := loop.counts_onFormat session format
  have sameCalls := loop.slot.decodeCalls_applyFormat format
  refine ⟨?_, ?_, ?_, ?_, ?_, ?_⟩
  · rw [slot]
    exact tallies.follows.formatChange session format
  · rw [slot]
    exact tallies.script.applyFormat format
  · rw [slot, sameCalls]
    exact tallies.decoded
  · rw [slot, sameCalls, sameCounts.2]
    exact tallies.failed
  · rw [sameCounts.1]
    exact tallies.undecoded
  · rw [slot, sameCalls, List.countP_append]
    exact tallies.frames

private theorem Tallies.onFrame (tallies : Tallies engine events lost pictures loop)
    {frame : CodedFrame} (hasData : frame.data.isEmpty = false) :
    Tallies engine (events ++ [.frame frame])
      (lost ++ (IngestEvent.missedBy loop.slot (.frame frame)).toList)
      (pictures + (loop.onFrame frame).2.toList.length) (loop.onFrame frame).1 := by
  have follows := tallies.follows.frame frame
  have frames : (events ++ [IngestEvent.frame frame]).countP IngestEvent.isFrame =
      events.countP IngestEvent.isFrame + 1 := List.countP_append
  -- Without a live decoder no call is made. With one, the next result of the script decides.
  rcases tallies.follows.active with absent | ⟨format, _, live⟩
  · have unchanged := DecoderSlot.submit_of_vacant absent frame
    have missed : IngestEvent.missedBy loop.slot (.frame frame) = some frame := by
      rw [IngestEvent.missedBy, absent]
      rfl
    have ended := onFrame_of_submit_noDecoder hasData (congrArg Prod.snd unchanged)
    rw [unchanged] at ended follows
    rw [ended, missed]
    refine ⟨follows, tallies.script, tallies.decoded, tallies.failed, ?_, ?_⟩
    · rw [List.length_append]
      exact congrArg (· + 1) tallies.undecoded
    · rw [List.length_append, ← Nat.add_assoc, frames, ← tallies.frames]
      rfl
  · obtain ⟨decodeCalls, _⟩ := DecoderSlot.calls_submit_of_live frame live
    have missed : IngestEvent.missedBy loop.slot (.frame frame) = none := by
      rw [IngestEvent.missedBy, live]
      rfl
    have next : Engine.resultAt loop.slot.engine.decodeResults 0 =
        Engine.resultAt engine.decodeResults loop.slot.decodeCalls := by
      rw [tallies.script.decodes, Engine.resultAt_drop]
    have counted := tallies.frames
    have balanced := tallies.failed
    rw [missed, Option.toList_none, List.append_nil]
    cases result : Engine.resultAt engine.decodeResults loop.slot.decodeCalls with
    | ok done =>
        rw [result] at next
        have decoded : (loop.slot.submit frame).2 = .ok (frame.shownAs format) :=
          (DecoderSlot.submit_eq_of_resultAt live next).1
        have used : (loop.slot.submit frame).1.engine.decodeResults =
            loop.slot.engine.decodeResults.drop 1 :=
          (DecoderSlot.submit_eq_of_resultAt live next).2
        rw [onFrame_of_submit_ok hasData decoded]
        refine ⟨follows, tallies.script.submit live used, ?_, ?_, tallies.undecoded, ?_⟩
        · dsimp only
          rw [decodeCalls, Engine.granted_succ, ← tallies.decoded, result]
          rfl
        · dsimp only
          rw [decodeCalls, ← balanced, Nat.add_right_comm]
          rfl
        · rw [decodeCalls, frames, ← counted, Nat.add_right_comm]
    | error failure =>
        rw [result] at next
        obtain ⟨failed, used⟩ := DecoderSlot.submit_of_error frame live next
        rw [onFrame_of_submit_error hasData failed]
        refine ⟨follows, tallies.script.submit live used, ?_, ?_, tallies.undecoded, ?_⟩
        · dsimp only
          rw [decodeCalls, Engine.granted_succ, ← tallies.decoded, result]
          rfl
        · dsimp only
          rw [decodeCalls, ← balanced, ← Nat.add_assoc]
          rfl
        · rw [decodeCalls, frames, ← counted, Nat.add_right_comm]

/-- Every frame that was worked on is lost, refused or decoded, and the counts say which. -/
theorem tallies_process (engine : Engine) (running : .stop ∉ events)
    (loaded : ∀ event ∈ events, event.HasData) :
    Tallies engine events ((start engine.unused .empty).missed events)
      ((start engine.unused .empty).process events).2.length
      ((start engine.unused .empty).process events).1 := by
  induction events using List.reverseRecOn with
  | nil =>
      exact ⟨DecoderSlot.follows_empty rfl, DecoderSlot.followsScript_empty engine, rfl, rfl, rfl,
        rfl⟩
  | append_singleton events event ih =>
      rw [List.mem_append, List.mem_singleton, not_or] at running
      have before := ih running.1 fun other member => loaded other (List.mem_append_left _ member)
      have hasData := loaded event (List.mem_append_right _ List.mem_cons_self)
      rw [process_append_singleton, missed, History.collect_append_singleton]
      dsimp only
      rw [List.length_append]
      cases event with
      | formatChange session format =>
          rw [IngestEvent.missedBy, Option.toList_none, List.append_nil]
          exact before.onFormat session format
      | frame frame => exact before.onFrame (List.isEmpty_eq_false_iff.mpr hasData)
      | stop => exact absurd rfl running.2

end DecodeLoop
end VideoIngest
