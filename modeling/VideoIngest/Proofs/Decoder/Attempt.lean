import VideoIngest.Decoder.Slot
import VideoIngest.Proofs.History

/-!
What the requests to a decoder slot do to the engine: the calls they make, the part of the script
that they use up, and the decoder that is live afterwards.
-/

namespace VideoIngest

namespace Engine

def calls (engine : Engine) : List EngineEvent := engine.events.toList.filter EngineEvent.isCall

/-- The result that a script holds for a call. Calls behind its end succeed. -/
def resultAt (results : List CallResult) (number : Nat) : CallResult :=
  results[number]?.getD (.ok ())

theorem nextResult_eq (results : List CallResult) :
    nextResult results = (resultAt results 0, results.drop 1) := by
  cases results <;> rfl

theorem resultAt_drop (results : List CallResult) (count : Nat) :
    resultAt (results.drop count) 0 = resultAt results count := by
  unfold resultAt
  rw [List.getElem?_drop, Nat.add_zero]

private theorem calls_log (event : EngineEvent) (engine : Engine) :
    (engine.log event).calls = engine.calls ++ [event].filter EngineEvent.isCall := by
  simp only [calls, log, Array.toList_push, List.filter_append]

end Engine

def LiveDecoder.ready (format : VideoFormat) : LiveDecoder := ⟨format, ⟨some format, true⟩⟩

/-- The ways in which the creation of a decoder can end: there is none, it cannot be configured, or
it is ready for frames. -/
inductive Attempt
  | refused
  | misfit
  | ready
  deriving DecidableEq, Repr

namespace Attempt

def ofResults : CallResult → CallResult → Attempt
  | .error _, _ => refused
  | .ok (), .error _ => misfit
  | .ok (), .ok () => ready

def next (engine : Engine) : Attempt :=
  ofResults (Engine.resultAt engine.createResults 0) (Engine.resultAt engine.configureResults 0)

def calls (format : VideoFormat) : Attempt → List EngineEvent
  | refused => [.createFailed format]
  | misfit => [.create format, .configure format, .destroy format]
  | ready => [.create format, .configure format, .register]

def decoder (format : VideoFormat) : Attempt → Option LiveDecoder
  | refused => none
  | misfit => none
  | ready => some (.ready format)

def isCreated : Attempt → Bool
  | refused => false
  | misfit => true
  | ready => true

end Attempt

def Engine.afterAttempt (format : VideoFormat) (engine : Engine) : Engine :=
  { engine with
    createResults := engine.createResults.drop 1
    configureResults := engine.configureResults.drop ([Attempt.next engine].countP Attempt.isCreated)
    events := ((Attempt.next engine).calls format).foldl Array.push engine.events }

namespace Engine

theorem calls_afterAttempt (format : VideoFormat) (engine : Engine) :
    (engine.afterAttempt format).calls = engine.calls ++ (Attempt.next engine).calls format := by
  simp only [calls, afterAttempt]
  cases Attempt.next engine <;> simp [Attempt.calls, EngineEvent.isCall]

theorem calls_decode (frame : CodedFrame) (live : LiveDecoder) (engine : Engine) :
    (engine.decode frame live).1.calls = engine.calls ++ [.decode frame] := by
  unfold decode
  rw [nextResult_eq]
  have logged : ({ engine with decodeResults := engine.decodeResults.drop 1 }.log
      (.decode frame)).calls = engine.calls ++ [.decode frame] := calls_log _ _
  cases resultAt engine.decodeResults 0 with
  | error failure => exact logged
  | ok done =>
      cases live.decoder.decode frame with
      | error failure => exact logged
      | ok picture =>
          change Engine.calls (log (.emitted picture) _) = _
          rw [calls_log, logged]
          exact List.append_nil _

theorem creationScript_decode (frame : CodedFrame) (live : LiveDecoder) (engine : Engine) :
    (engine.decode frame live).1.createResults = engine.createResults ∧
      (engine.decode frame live).1.configureResults = engine.configureResults := by
  unfold decode
  rw [nextResult_eq]
  cases resultAt engine.decodeResults 0 with
  | error failure => exact ⟨rfl, rfl⟩
  | ok done =>
      dsimp only
      cases live.decoder.decode frame with
      | error failure => exact ⟨rfl, rfl⟩
      | ok picture => exact ⟨rfl, rfl⟩

/-! ### Attempts one after another -/

end Engine

/-- Every attempt ended as the script says: its create call is the next one of those calls, and its
configure call, if it got so far, is the next one of those. -/
def Attempt.FollowScript (engine : Engine) (attempts : List Attempt) : Prop :=
  History.Always (fun earlier attempt => attempt =
    .ofResults (Engine.resultAt engine.createResults earlier.length)
      (Engine.resultAt engine.configureResults (earlier.countP Attempt.isCreated))) attempts

namespace Engine

structure HasMade (start : Engine) (attempts : List Attempt) (engine : Engine) : Prop where
  follow : Attempt.FollowScript start attempts
  creates : engine.createResults = start.createResults.drop attempts.length
  configures : engine.configureResults =
    start.configureResults.drop (attempts.countP Attempt.isCreated)

theorem HasMade.initial (engine : Engine) : HasMade engine [] engine :=
  ⟨History.always_nil _, rfl, rfl⟩

theorem HasMade.of_sameScript {start engine next : Engine} {attempts : List Attempt}
    (made : HasMade start attempts engine)
    (same : next.createResults = engine.createResults ∧
      next.configureResults = engine.configureResults) :
    HasMade start attempts next :=
  ⟨made.follow, same.1.trans made.creates, same.2.trans made.configures⟩

theorem HasMade.attempt {start engine : Engine} {attempts : List Attempt} (format : VideoFormat)
    (made : HasMade start attempts engine) :
    HasMade start (attempts ++ [Attempt.next engine]) (engine.afterAttempt format) := by
  have ended : Attempt.next engine =
      .ofResults (resultAt start.createResults attempts.length)
        (resultAt start.configureResults (attempts.countP Attempt.isCreated)) := by
    unfold Attempt.next
    rw [made.creates, made.configures, resultAt_drop, resultAt_drop]
  refine ⟨History.always_append_singleton made.follow ended, ?_, ?_⟩
  · change engine.createResults.drop 1 = _
    rw [made.creates, List.drop_drop, List.length_append, List.length_singleton]
  · change engine.configureResults.drop _ = _
    rw [made.configures, List.drop_drop, List.countP_append]

end Engine

namespace DecoderSlot

/-- Whether an announced format asks for a decoder other than the live one. -/
def isDue (format : VideoFormat) (slot : DecoderSlot) : Bool :=
  format.isActionable && !decide (slot.activeFormat = some format)

theorem isDue_iff (format : VideoFormat) (slot : DecoderSlot) :
    slot.isDue format = true ↔
      format.isActionable = true ∧ slot.activeFormat ≠ some format := by
  simp [isDue]

def dropCalls (slot : DecoderSlot) : List EngineEvent :=
  (slot.activeFormat.map EngineEvent.destroy).toList

theorem create_eq (format : VideoFormat) (slot : DecoderSlot) :
    (slot.create format).1 =
      match Attempt.next slot.engine with
      | .refused => { slot with engine := slot.engine.afterAttempt format }
      | .misfit => { slot with engine := slot.engine.afterAttempt format }
      | .ready =>
          { engine := slot.engine.afterAttempt format
            active := some (.ready format)
            created := slot.created + 1 } := by
  obtain ⟨engine, active, created⟩ := slot
  cases refusal : Engine.resultAt engine.createResults 0 with
  | error failure =>
      simp [create, Engine.create, Engine.nextResult_eq, refusal, Attempt.next, Attempt.ofResults,
        Engine.afterAttempt, Attempt.calls, Attempt.isCreated, Engine.log]
  | ok done =>
      cases misfit : Engine.resultAt engine.configureResults 0 with
      | error failure =>
          simp [create, Engine.create, Engine.configure, Engine.destroy, Engine.nextResult_eq,
            refusal, misfit, Attempt.next, Attempt.ofResults, Engine.afterAttempt, Attempt.calls,
            Attempt.isCreated, Engine.log]
      | ok done =>
          simp [create, Engine.create, Engine.configure, Engine.register, Engine.nextResult_eq,
            refusal, misfit, Attempt.next, Attempt.ofResults, Engine.afterAttempt, Attempt.calls,
            Attempt.isCreated, Engine.log, LiveDecoder.ready, PassthroughDecoder.configure,
            PassthroughDecoder.register, PassthroughDecoder.fresh]

theorem engine_create (format : VideoFormat) (slot : DecoderSlot) :
    (slot.create format).1.engine = slot.engine.afterAttempt format := by
  rw [create_eq]
  cases Attempt.next slot.engine <;> rfl

theorem active_destroy (slot : DecoderSlot) : slot.destroy.1.active = none := by
  unfold destroy
  cases live : slot.active with
  | none => exact live
  | some decoder => rfl

theorem calls_destroy (slot : DecoderSlot) :
    slot.destroy.1.engine.calls = slot.engine.calls ++ slot.dropCalls := by
  unfold destroy dropCalls activeFormat
  cases slot.active with
  | none => exact (List.append_nil _).symm
  | some decoder => exact Engine.calls_log _ _

theorem creationScript_destroy (slot : DecoderSlot) :
    slot.destroy.1.engine.createResults = slot.engine.createResults ∧
      slot.destroy.1.engine.configureResults = slot.engine.configureResults := by
  unfold destroy
  cases slot.active with
  | none => exact ⟨rfl, rfl⟩
  | some decoder => exact ⟨rfl, rfl⟩

theorem created_destroy (slot : DecoderSlot) : slot.destroy.1.created = slot.created := by
  unfold destroy
  cases slot.active <;> rfl

theorem next_destroy (slot : DecoderSlot) :
    Attempt.next slot.destroy.1.engine = Attempt.next slot.engine := by
  unfold Attempt.next
  rw [(creationScript_destroy slot).1, (creationScript_destroy slot).2]

theorem applyFormat_eq (format : VideoFormat) (slot : DecoderSlot) :
    (slot.applyFormat format).1 =
      if slot.isDue format then (slot.destroy.1.create format).1 else slot := by
  unfold applyFormat isDue
  cases format.isActionable with
  | false => rfl
  | true =>
      by_cases same : slot.activeFormat = some format
      · simp [same]
      · simp only [same, Bool.not_true, Bool.false_eq_true, if_false, decide_false, Bool.not_false,
          Bool.and_true, if_true]
        cases slot.destroy.1.create format with
        | mk next outcome => cases outcome <;> rfl

theorem calls_applyFormat (format : VideoFormat) (slot : DecoderSlot) :
    (slot.applyFormat format).1.engine.calls =
      slot.engine.calls ++
        if slot.isDue format then slot.dropCalls ++ (Attempt.next slot.engine).calls format
        else [] := by
  rw [applyFormat_eq]
  split
  · rw [engine_create, Engine.calls_afterAttempt, calls_destroy, next_destroy, List.append_assoc]
  · rw [List.append_nil]

theorem active_applyFormat (format : VideoFormat) (slot : DecoderSlot) :
    (slot.applyFormat format).1.active =
      if slot.isDue format then (Attempt.next slot.engine).decoder format else slot.active := by
  rw [applyFormat_eq]
  split
  · rw [create_eq, next_destroy]
    cases Attempt.next slot.engine with
    | refused => exact active_destroy slot
    | misfit => exact active_destroy slot
    | ready => rfl
  · rfl

theorem created_applyFormat (format : VideoFormat) (slot : DecoderSlot) :
    (slot.applyFormat format).1.created =
      slot.created + if slot.isDue format ∧ Attempt.next slot.engine = .ready then 1 else 0 := by
  have destroyed := slot.created_destroy
  rw [applyFormat_eq]
  cases slot.isDue format with
  | false => simp
  | true =>
      rw [if_pos rfl, create_eq, next_destroy]
      cases Attempt.next slot.engine with
      | refused => simpa using destroyed
      | misfit => simpa using destroyed
      | ready => simpa using destroyed

theorem submit_of_vacant {slot : DecoderSlot} (vacant : slot.active = none) (frame : CodedFrame) :
    slot.submit frame = (slot, .error .noDecoder) := by
  unfold submit
  rw [vacant]

theorem submit_eq (frame : CodedFrame) (slot : DecoderSlot) :
    (slot.submit frame).1 =
      match slot.active with
      | none => slot
      | some live => { slot with engine := (slot.engine.decode frame live).1 } := by
  unfold submit
  cases slot.active with
  | none => rfl
  | some live =>
      dsimp only
      cases slot.engine.decode frame live with
      | mk engine outcome => cases outcome <;> rfl

theorem calls_submit (frame : CodedFrame) (slot : DecoderSlot) :
    (slot.submit frame).1.engine.calls =
      slot.engine.calls ++ if slot.active.isSome then [.decode frame] else [] := by
  rw [submit_eq]
  cases slot.active with
  | none => exact (List.append_nil _).symm
  | some live => exact Engine.calls_decode frame live slot.engine

theorem creationScript_submit (frame : CodedFrame) (slot : DecoderSlot) :
    (slot.submit frame).1.engine.createResults = slot.engine.createResults ∧
      (slot.submit frame).1.engine.configureResults = slot.engine.configureResults := by
  rw [submit_eq]
  cases slot.active with
  | none => exact ⟨rfl, rfl⟩
  | some live => exact Engine.creationScript_decode frame live slot.engine

theorem created_submit (frame : CodedFrame) (slot : DecoderSlot) :
    (slot.submit frame).1.created = slot.created := by
  rw [submit_eq]
  cases slot.active <;> rfl

theorem active_submit (frame : CodedFrame) (slot : DecoderSlot) :
    (slot.submit frame).1.active = slot.active := by
  rw [submit_eq]
  cases live : slot.active with
  | none => exact live
  | some decoder => rfl

end DecoderSlot
end VideoIngest
