import VideoIngest.Proofs.Decoder.Attempt
import VideoIngest.Proofs.DecodeLoop.Order

/-!
The live decoder follows the announced formats.

Seen from the events that the decode loop has worked on, the live decoder is one for the last format
that could be acted on, or there is none because the engine failed.
-/

namespace VideoIngest

def IngestEvent.actionable? : IngestEvent → Option VideoFormat
  | formatChange _ format => if format.isActionable then some format else none
  | frame _ => none
  | stop => none

/-- The last format that could be acted on. -/
def lastActionable (events : List IngestEvent) : Option VideoFormat :=
  History.latest? IngestEvent.actionable? events

theorem lastActionable_formatChange (events : List IngestEvent) (session : String)
    (format : VideoFormat) :
    lastActionable (events ++ [.formatChange session format]) =
      if format.isActionable then some format else lastActionable events := by
  rw [lastActionable, History.latest?_append_singleton, IngestEvent.actionable?]
  split <;> rfl

theorem lastActionable_frame (events : List IngestEvent) (frame : CodedFrame) :
    lastActionable (events ++ [.frame frame]) = lastActionable events :=
  History.latest?_append_singleton _ _ _

private theorem actionableFormats_formatChange (events : List IngestEvent) (session : String)
    (format : VideoFormat) :
    (events ++ [IngestEvent.formatChange session format]).filterMap IngestEvent.actionable? =
      events.filterMap IngestEvent.actionable? ++
        if format.isActionable then [format] else [] := by
  rw [List.filterMap_append]
  congr 1
  cases isActionable : format.isActionable <;> simp [IngestEvent.actionable?, isActionable]

namespace EngineEvent

def attempted? : EngineEvent → Option VideoFormat
  | create format => some format
  | createFailed format => some format
  | _ => none

def created? : EngineEvent → Option VideoFormat
  | create format => some format
  | _ => none

/-- The decoder that is live after a call, as the engine sees it. -/
def liveAfter (live : Option VideoFormat) : EngineEvent → Option VideoFormat
  | create format => some format
  | destroy _ => none
  | _ => live

end EngineEvent

def liveIn (calls : List EngineEvent) : Option VideoFormat :=
  calls.foldl EngineEvent.liveAfter none

theorem liveIn_append (front back : List EngineEvent) :
    liveIn (front ++ back) = back.foldl EngineEvent.liveAfter (liveIn front) :=
  List.foldl_append

namespace DecoderSlot

/-! ### One event -/

/-- The live decoder is ready for the last format that could be acted on, or there is none, and the
calls to the engine tell the same. -/
structure Follows (events : List IngestEvent) (slot : DecoderSlot) : Prop where
  active : slot.active = none ∨
    ∃ format, lastActionable events = some format ∧ slot.active = some (.ready format)
  live : liveIn slot.engine.calls = slot.activeFormat

theorem follows_empty {engine : Engine} (fresh : engine.calls = []) :
    Follows [] (.empty engine) := by
  refine ⟨.inl rfl, ?_⟩
  change liveIn engine.calls = none
  rw [fresh]
  rfl

theorem activeFormat_of_not_due {format : VideoFormat} {slot : DecoderSlot}
    (notDue : slot.isDue format = false) (isActionable : format.isActionable = true) :
    slot.activeFormat = some format := by
  by_contra differs
  have isDue := (isDue_iff format slot).mpr ⟨isActionable, differs⟩
  rw [notDue] at isDue
  contradiction

private theorem liveIn_applyFormat {format : VideoFormat} {slot : DecoderSlot}
    (live : liveIn slot.engine.calls = slot.activeFormat) :
    liveIn (slot.applyFormat format).1.engine.calls = (slot.applyFormat format).1.activeFormat := by
  rw [calls_applyFormat, activeFormat, active_applyFormat, liveIn_append, live]
  split
  · rw [List.foldl_append]
    have dropped : slot.dropCalls.foldl EngineEvent.liveAfter slot.activeFormat = none := by
      unfold dropCalls
      cases slot.activeFormat with
      | none => rfl
      | some format => rfl
    rw [dropped]
    cases Attempt.next slot.engine <;> rfl
  · rfl

theorem Follows.formatChange {events : List IngestEvent} {slot : DecoderSlot} (session : String)
    (format : VideoFormat) (follows : Follows events slot) :
    Follows (events ++ [.formatChange session format]) (slot.applyFormat format).1 := by
  refine ⟨?_, liveIn_applyFormat follows.live⟩
  rw [active_applyFormat, lastActionable_formatChange]
  cases due : slot.isDue format with
  | true =>
      have isActionable := ((isDue_iff format slot).mp due).1
      simp only [if_true, isActionable]
      cases Attempt.next slot.engine with
      | refused => exact .inl rfl
      | misfit => exact .inl rfl
      | ready => exact .inr ⟨format, rfl, rfl⟩
  | false =>
      simp only [Bool.false_eq_true, if_false]
      rcases follows.active with absent | ⟨previous, last, live⟩
      · exact .inl absent
      · refine .inr ⟨previous, ?_, live⟩
        cases isActionable : format.isActionable with
        | false => simpa using last
        | true =>
            have same := activeFormat_of_not_due due isActionable
            rw [activeFormat, live] at same
            have format_eq : previous = format := Option.some.inj same
            rw [if_pos rfl, format_eq]

theorem Follows.frame {events : List IngestEvent} {slot : DecoderSlot} (frame : CodedFrame)
    (follows : Follows events slot) :
    Follows (events ++ [.frame frame]) (slot.submit frame).1 := by
  constructor
  · rw [active_submit, lastActionable_frame]
    exact follows.active
  · rw [calls_submit, activeFormat, active_submit, liveIn_append, follows.live]
    split <;> rfl

theorem Follows.skip {events : List IngestEvent} {slot : DecoderSlot} (frame : CodedFrame)
    (follows : Follows events slot) : Follows (events ++ [.frame frame]) slot := by
  refine ⟨?_, follows.live⟩
  rw [lastActionable_frame]
  exact follows.active

end DecoderSlot

/-! ### An engine that never fails -/

/-- Creating and configuring a decoder succeeds at every call. -/
def Engine.AlwaysCreates (engine : Engine) : Prop :=
  (∀ result ∈ engine.createResults, result = .ok ()) ∧
    ∀ result ∈ engine.configureResults, result = .ok ()

namespace Engine

def unused (engine : Engine) : Engine := { engine with events := #[] }

theorem resultAt_of_all_ok {results : List CallResult} (fine : ∀ result ∈ results, result = .ok ())
    (number : Nat) : resultAt results number = .ok () := by
  unfold resultAt
  cases found : results[number]? with
  | none => rfl
  | some result => exact fine result (List.mem_of_getElem? found)

theorem alwaysCreates_passthrough : passthrough.AlwaysCreates := by
  constructor
  · intro result member
    cases member
  · intro result member
    cases member

private theorem AlwaysCreates.next {engine : Engine} (creates : engine.AlwaysCreates) :
    Attempt.next engine = .ready := by
  unfold Attempt.next
  rw [resultAt_of_all_ok creates.1, resultAt_of_all_ok creates.2]
  rfl

private theorem AlwaysCreates.afterAttempt {engine : Engine} (format : VideoFormat)
    (creates : engine.AlwaysCreates) : (engine.afterAttempt format).AlwaysCreates :=
  ⟨fun result member => creates.1 result (List.mem_of_mem_drop member),
    fun result member => creates.2 result (List.mem_of_mem_drop member)⟩

private theorem AlwaysCreates.of_sameScript {engine next : Engine} (creates : engine.AlwaysCreates)
    (same : next.createResults = engine.createResults ∧
      next.configureResults = engine.configureResults) : next.AlwaysCreates := by
  unfold AlwaysCreates
  rw [same.1, same.2]
  exact creates

end Engine

/-- If the call creates a decoder and is not the first one to do so, then the decoder created before
has been dropped by the call right in front of it. -/
def EngineEvent.Replaces (earlier : List EngineEvent) (call : EngineEvent) : Prop :=
  ∀ format, call = .create format → earlier.filterMap EngineEvent.created? ≠ [] →
    ∃ before last, earlier = before ++ [.destroy last] ∧
      (before.filterMap EngineEvent.created?).getLast? = some last

theorem EngineEvent.replaces_of_created?_eq_none (call : EngineEvent)
    (other : call.created? = none) (earlier : List EngineEvent) : Replaces earlier call := by
  intro format creates
  rw [creates] at other
  contradiction

namespace DecoderSlot

/-- The formats that could be acted on, each once for as long as it is repeated. -/
def successiveFormats (events : List IngestEvent) : List VideoFormat :=
  (events.filterMap IngestEvent.actionable?).destutter (· ≠ ·)

private theorem successiveFormats_frame (events : List IngestEvent) (frame : CodedFrame) :
    successiveFormats (events ++ [.frame frame]) = successiveFormats events := by
  unfold successiveFormats
  rw [List.filterMap_append]
  exact congrArg _ (List.append_nil _)

theorem getLast?_successiveFormats (events : List IngestEvent) :
    (successiveFormats events).getLast? = lastActionable events :=
  History.getLast?_destutter _

/-- The slot is exactly where these events lead to as long as nothing fails. -/
structure FollowsClosely (events : List IngestEvent) (slot : DecoderSlot) : Prop where
  active : slot.active = (lastActionable events).map .ready
  creates : slot.engine.AlwaysCreates
  attempted : slot.engine.calls.filterMap EngineEvent.attempted? = successiveFormats events
  created : slot.engine.calls.filterMap EngineEvent.created? = successiveFormats events
  chained : History.Always EngineEvent.Replaces slot.engine.calls

theorem followsClosely_empty {engine : Engine} (fresh : engine.calls = [])
    (creates : engine.AlwaysCreates) : FollowsClosely [] (.empty engine) := by
  have noCalls : (DecoderSlot.empty engine).engine.calls = [] := fresh
  refine ⟨rfl, creates, ?_, ?_, ?_⟩
  · rw [noCalls]
    rfl
  · rw [noCalls]
    rfl
  · rw [noCalls]
    exact History.always_nil _

variable {events : List IngestEvent} {slot : DecoderSlot}

theorem FollowsClosely.absent (follows : FollowsClosely events slot)
    (noFormat : lastActionable events = none) : slot.active = none := by
  rw [follows.active, noFormat]
  rfl

theorem FollowsClosely.present {format : VideoFormat} (follows : FollowsClosely events slot)
    (last : lastActionable events = some format) : slot.active = some (.ready format) := by
  rw [follows.active, last]
  rfl

private theorem FollowsClosely.activeFormat_eq (follows : FollowsClosely events slot) :
    slot.activeFormat = lastActionable events := by
  rw [activeFormat, follows.active]
  cases lastActionable events <;> rfl

/-- A format that is due is the next one in the succession, and any other format is none. -/
private theorem FollowsClosely.successiveFormats_formatChange (session : String)
    (format : VideoFormat) (follows : FollowsClosely events slot) :
    successiveFormats (events ++ [.formatChange session format]) =
      successiveFormats events ++ if slot.isDue format then [format] else [] := by
  unfold successiveFormats
  rw [actionableFormats_formatChange, isDue, follows.activeFormat_eq]
  cases format.isActionable with
  | false => simp
  | true =>
      rw [if_pos rfl, History.destutter_append_singleton]
      change _ ++ (if lastActionable events = some format then [] else [format]) = _
      by_cases same : lastActionable events = some format
      · simp [same]
      · simp [same]

private theorem filterMap_dropCalls {value : EngineEvent → Option VideoFormat}
    (ignores : ∀ format, value (.destroy format) = none) (slot : DecoderSlot) :
    slot.dropCalls.filterMap value = [] := by
  unfold dropCalls
  cases slot.activeFormat with
  | none => rfl
  | some format => simp [ignores]

/-- The new decoder comes right behind the drop of the one before. -/
private theorem FollowsClosely.replaces (follows : FollowsClosely events slot)
    (format : VideoFormat) :
    EngineEvent.Replaces (slot.engine.calls ++ slot.dropCalls) (.create format) := by
  intro _ _ notFirst
  rw [List.filterMap_append, filterMap_dropCalls (fun _ => rfl), List.append_nil] at notFirst
  cases last : lastActionable events with
  | none =>
      rw [follows.created] at notFirst
      rw [← getLast?_successiveFormats, List.getLast?_eq_none_iff] at last
      contradiction
  | some previous =>
      refine ⟨slot.engine.calls, previous, ?_, ?_⟩
      · rw [dropCalls, follows.activeFormat_eq, last]
        rfl
      · rw [follows.created, getLast?_successiveFormats, last]

private theorem FollowsClosely.always_replaces (follows : FollowsClosely events slot)
    (format : VideoFormat) :
    History.Always EngineEvent.Replaces
      (slot.engine.calls ++ (slot.dropCalls ++ Attempt.ready.calls format)) := by
  have dropped : History.Always EngineEvent.Replaces (slot.engine.calls ++ slot.dropCalls) := by
    unfold dropCalls
    cases slot.activeFormat with
    | none =>
        rw [Option.map_none, Option.toList_none, List.append_nil]
        exact follows.chained
    | some previous =>
        exact History.always_append_singleton follows.chained
          (EngineEvent.replaces_of_created?_eq_none _ rfl _)
  have created := History.always_append_singleton dropped (follows.replaces format)
  have configured := History.always_append_singleton created
    (EngineEvent.replaces_of_created?_eq_none (.configure format) rfl _)
  have registered := History.always_append_singleton configured
    (EngineEvent.replaces_of_created?_eq_none .register rfl _)
  simpa [Attempt.calls] using registered

/-- An event that asks for no other decoder leaves the slot where it should be. -/
private theorem FollowsClosely.unchanged (follows : FollowsClosely events slot)
    (event : IngestEvent)
    (same : successiveFormats (events ++ [event]) = successiveFormats events) :
    FollowsClosely (events ++ [event]) slot := by
  have sameLast : lastActionable (events ++ [event]) = lastActionable events := by
    rw [← getLast?_successiveFormats, same, getLast?_successiveFormats]
  refine ⟨?_, follows.creates, ?_, ?_, follows.chained⟩
  · rw [sameLast]
    exact follows.active
  · rw [same]
    exact follows.attempted
  · rw [same]
    exact follows.created

theorem FollowsClosely.formatChange (session : String) (format : VideoFormat)
    (follows : FollowsClosely events slot) :
    FollowsClosely (events ++ [.formatChange session format]) (slot.applyFormat format).1 := by
  have ready := follows.creates.next
  have next := follows.successiveFormats_formatChange session format
  cases due : slot.isDue format with
  | false =>
      have unchanged : (slot.applyFormat format).1 = slot := by
        rw [applyFormat_eq, due]
        rfl
      rw [due, if_neg Bool.false_ne_true, List.append_nil] at next
      rw [unchanged]
      exact follows.unchanged _ next
  | true =>
      have calls : (slot.applyFormat format).1.engine.calls =
          slot.engine.calls ++ (slot.dropCalls ++ Attempt.ready.calls format) := by
        rw [calls_applyFormat, due, if_pos rfl, ready]
      rw [due, if_pos rfl] at next
      refine ⟨?_, ?_, ?_, ?_, ?_⟩
      · rw [active_applyFormat, due, if_pos rfl, ready, ← getLast?_successiveFormats, next,
          List.getLast?_concat]
        rfl
      · rw [applyFormat_eq, due, if_pos rfl, engine_create]
        exact (follows.creates.of_sameScript (creationScript_destroy slot)).afterAttempt format
      · rw [calls, next, List.filterMap_append, List.filterMap_append, follows.attempted,
          filterMap_dropCalls (fun _ => rfl)]
        rfl
      · rw [calls, next, List.filterMap_append, List.filterMap_append, follows.created,
          filterMap_dropCalls (fun _ => rfl)]
        rfl
      · rw [calls]
        exact follows.always_replaces format

theorem FollowsClosely.skip (frame : CodedFrame) (follows : FollowsClosely events slot) :
    FollowsClosely (events ++ [.frame frame]) slot :=
  follows.unchanged _ (successiveFormats_frame events frame)

theorem FollowsClosely.frame (frame : CodedFrame) (follows : FollowsClosely events slot) :
    FollowsClosely (events ++ [.frame frame]) (slot.submit frame).1 := by
  have passed := follows.skip frame
  refine ⟨?_, passed.creates.of_sameScript (creationScript_submit frame slot), ?_, ?_, ?_⟩
  · rw [active_submit]
    exact passed.active
  · rw [calls_submit, List.filterMap_append, passed.attempted]
    split
    · exact List.append_nil _
    · exact List.append_nil _
  · rw [calls_submit, List.filterMap_append, passed.created]
    split
    · exact List.append_nil _
    · exact List.append_nil _
  · rw [calls_submit]
    split
    · exact History.always_append_singleton passed.chained
        (EngineEvent.replaces_of_created?_eq_none _ rfl _)
    · rw [List.append_nil]
      exact passed.chained

end DecoderSlot

/-! ### Many events -/

namespace DecodeLoop

theorem slot_onFormat (session : String) (format : VideoFormat) (loop : DecodeLoop) :
    (loop.onFormat session format).slot = (loop.slot.applyFormat format).1 := by
  unfold onFormat
  cases loop.slot.applyFormat format with
  | mk slot outcome =>
      dsimp only
      cases stateAfter outcome <;> rfl

theorem slot_onFrame (frame : CodedFrame) (loop : DecodeLoop) :
    (loop.onFrame frame).1.slot =
      if frame.data.isEmpty then loop.slot else (loop.slot.submit frame).1 := by
  unfold onFrame
  split
  · rfl
  · cases loop.slot.submit frame with
    | mk slot outcome =>
        cases outcome with
        | ok picture => rfl
        | error failure => cases failure <;> rfl

/-- What holds of the slot after the events so far, and is kept by every event, holds after all. -/
theorem slot_process {follows : List IngestEvent → DecoderSlot → Prop}
    (formatChange : ∀ events slot session format, follows events slot →
      follows (events ++ [.formatChange session format]) (slot.applyFormat format).1)
    (frame : ∀ events slot frame, follows events slot →
      follows (events ++ [.frame frame]) (slot.submit frame).1)
    (skip : ∀ events slot frame, follows events slot → follows (events ++ [.frame frame]) slot)
    {earlier events : List IngestEvent} {loop : DecodeLoop} (running : .stop ∉ events)
    (initially : follows earlier loop.slot) :
    follows (earlier ++ events) (loop.process events).1.slot := by
  induction events using List.reverseRecOn with
  | nil =>
      rw [List.append_nil]
      exact initially
  | append_singleton events event ih =>
      rw [List.mem_append, List.mem_singleton, not_or] at running
      have before := ih running.1
      rw [process_append_singleton, ← List.append_assoc]
      cases event with
      | formatChange session format =>
          change follows _ ((loop.process events).1.onFormat session format).slot
          rw [slot_onFormat]
          exact formatChange _ _ session format before
      | frame coded =>
          change follows _ ((loop.process events).1.onFrame coded).1.slot
          rw [slot_onFrame]
          split
          · exact skip _ _ coded before
          · exact frame _ _ coded before
      | stop => exact absurd rfl running.2

variable {earlier events : List IngestEvent} {loop : DecodeLoop}

theorem follows_process (running : .stop ∉ events) (initially : loop.slot.Follows earlier) :
    (loop.process events).1.slot.Follows (earlier ++ events) :=
  slot_process (fun _ _ session format follows => follows.formatChange session format)
    (fun _ _ frame follows => follows.frame frame) (fun _ _ frame follows => follows.skip frame)
    running initially

theorem followsClosely_process (running : .stop ∉ events)
    (initially : loop.slot.FollowsClosely earlier) :
    (loop.process events).1.slot.FollowsClosely (earlier ++ events) :=
  slot_process (fun _ _ session format follows => follows.formatChange session format)
    (fun _ _ frame follows => follows.frame frame) (fun _ _ frame follows => follows.skip frame)
    running initially

/-! ### The events on their way -/

/-- The slot after so many steps of a loop that begins with these events on their way. -/
def slotAfter (engine : Engine) (sessions : SessionTable) (events : List IngestEvent)
    (count : Nat) : DecoderSlot :=
  (((start engine.unused sessions).sendAll events).steps count).1.slot

theorem slotAfter_eq (engine : Engine) (sessions : SessionTable) (running : .stop ∉ events)
    (count : Nat) :
    slotAfter engine sessions events count =
      ((start engine.unused sessions).process (events.take count)).1.slot := by
  have earlierRunning : .stop ∉ events.take count := fun member =>
    running (List.mem_of_mem_take member)
  unfold slotAfter
  rw [sendAll_eq events _ rfl]
  change ((withPending events _).steps count).1.slot = _
  rw [steps_eq_process count _ rfl rfl running]
  change (process (events.take count) (withPending events _)).1.slot = _
  rw [process_withPending _ earlierRunning]
  rfl

private theorem slotAfter_succ (engine : Engine) (sessions : SessionTable)
    (running : .stop ∉ events)
    {count : Nat} {event : IngestEvent} (next : events[count]? = some event) :
    slotAfter engine sessions events (count + 1) =
      (((start engine.unused sessions).process (events.take count)).1.handle event).1.slot := by
  rw [slotAfter_eq engine sessions running, List.take_add_one, next, Option.toList_some,
    process_append_singleton]

private theorem slotAfter_formatChange (engine : Engine) (sessions : SessionTable)
    (running : .stop ∉ events) {count : Nat} {session : String} {format : VideoFormat}
    (next : events[count]? = some (.formatChange session format)) :
    slotAfter engine sessions events (count + 1) =
      ((slotAfter engine sessions events count).applyFormat format).1 := by
  rw [slotAfter_succ engine sessions running next, slotAfter_eq engine sessions running]
  exact slot_onFormat session format _

private theorem slotAfter_frame (engine : Engine) (sessions : SessionTable)
    (running : .stop ∉ events)
    {count : Nat} {frame : CodedFrame} (next : events[count]? = some (.frame frame)) :
    slotAfter engine sessions events (count + 1) =
      if frame.data.isEmpty then slotAfter engine sessions events count
      else ((slotAfter engine sessions events count).submit frame).1 := by
  rw [slotAfter_succ engine sessions running next, slotAfter_eq engine sessions running]
  exact slot_onFrame frame _

/-- After any number of events the live decoder is one for the last format that could be acted on,
or there is none. A format leads to an attempt exactly where it can be acted on and is not that of
the live decoder, and a frame to a call exactly where a decoder is live. Where no attempt fails, the
decoders are those of the successive formats, and each replaces the one before. -/
theorem decoder_follows_formats (engine : Engine) (sessions : SessionTable)
    (running : .stop ∉ events) :
    (∀ count,
      (slotAfter engine sessions events count).Follows (events.take count)) ∧
    (∀ count session format, events[count]? = some (.formatChange session format) →
      (slotAfter engine sessions events (count + 1)).engine.calls =
        (slotAfter engine sessions events count).engine.calls ++
          (if format.isActionable ∧
              (slotAfter engine sessions events count).activeFormat ≠ some format then
            (slotAfter engine sessions events count).dropCalls ++
              (Attempt.next (slotAfter engine sessions events count).engine).calls format
          else []) ∧
      (slotAfter engine sessions events (count + 1)).active =
        if format.isActionable ∧
            (slotAfter engine sessions events count).activeFormat ≠ some format then
          (Attempt.next (slotAfter engine sessions events count).engine).decoder format
        else (slotAfter engine sessions events count).active) ∧
    (∀ count frame, events[count]? = some (.frame frame) →
      (slotAfter engine sessions events (count + 1)).engine.calls =
        (slotAfter engine sessions events count).engine.calls ++
          (if frame.data.isEmpty ∨ (slotAfter engine sessions events count).active = none then []
          else [.decode frame]) ∧
      (slotAfter engine sessions events (count + 1)).active =
        (slotAfter engine sessions events count).active) ∧
    (engine.AlwaysCreates →
      ((slotAfter engine sessions events events.length).engine.calls.filterMap
          EngineEvent.attempted? =
        (events.filterMap IngestEvent.actionable?).destutter (· ≠ ·)) ∧
      ((slotAfter engine sessions events events.length).engine.calls.filterMap
          EngineEvent.created? =
        (events.filterMap IngestEvent.actionable?).destutter (· ≠ ·)) ∧
      History.Always EngineEvent.Replaces
        (slotAfter engine sessions events events.length).engine.calls) := by
  refine ⟨?_, ?_, ?_, ?_⟩
  · intro count
    have earlierRunning : .stop ∉ events.take count := fun member =>
      running (List.mem_of_mem_take member)
    have fresh : (start engine.unused sessions).slot.Follows [] := DecoderSlot.follows_empty rfl
    rw [slotAfter_eq engine sessions running]
    exact follows_process earlierRunning fresh
  · intro count session format next
    rw [slotAfter_formatChange engine sessions running next]
    constructor
    · rw [DecoderSlot.calls_applyFormat]
      simp only [DecoderSlot.isDue_iff]
    · rw [DecoderSlot.active_applyFormat]
      simp only [DecoderSlot.isDue_iff]
  · intro count frame next
    rw [slotAfter_frame engine sessions running next]
    cases empty : frame.data.isEmpty with
    | true => simp
    | false =>
        simp only [Bool.false_eq_true, if_false, false_or]
        rw [DecoderSlot.calls_submit, DecoderSlot.active_submit]
        refine ⟨?_, rfl⟩
        cases (slotAfter engine sessions events count).active with
        | none => rfl
        | some live => rfl
  · intro creates
    have fresh : (start engine.unused sessions).slot.FollowsClosely [] :=
      DecoderSlot.followsClosely_empty rfl creates
    have follows : (slotAfter engine sessions events events.length).FollowsClosely events := by
      rw [slotAfter_eq engine sessions running, List.take_length]
      exact followsClosely_process running fresh
    exact ⟨follows.attempted, follows.created, follows.chained⟩

/-- Two sessions with one size and then another: the second session needs no decoder of its own. -/
theorem decoder_follows_two_sizes :
    IngestEvent.stop ∉ [.formatChange "front" ⟨.h264, 1280, 720⟩,
        .formatChange "back" ⟨.h264, 1280, 720⟩, .frame ⟨[0, 0, 1, 0x65], 40, .key⟩,
        .formatChange "front" ⟨.h264, 640, 480⟩] ∧
      Engine.passthrough.AlwaysCreates ∧
      (slotAfter .passthrough .empty [.formatChange "front" ⟨.h264, 1280, 720⟩,
        .formatChange "back" ⟨.h264, 1280, 720⟩, .frame ⟨[0, 0, 1, 0x65], 40, .key⟩,
        .formatChange "front" ⟨.h264, 640, 480⟩] 4).engine.calls.filterMap EngineEvent.created? =
        [⟨.h264, 1280, 720⟩, ⟨.h264, 640, 480⟩] := by
  have running : IngestEvent.stop ∉ [.formatChange "front" ⟨.h264, 1280, 720⟩,
      .formatChange "back" ⟨.h264, 1280, 720⟩, .frame ⟨[0, 0, 1, 0x65], 40, .key⟩,
      .formatChange "front" ⟨.h264, 640, 480⟩] := by decide
  refine ⟨running, Engine.alwaysCreates_passthrough, ?_⟩
  obtain ⟨_, _, _, whileCreating⟩ := decoder_follows_formats .passthrough .empty running
  obtain ⟨_, created, _⟩ := whileCreating Engine.alwaysCreates_passthrough
  rw [List.length_cons, List.length_cons, List.length_cons, List.length_cons,
    List.length_nil] at created
  rw [created]
  decide

end DecodeLoop
end VideoIngest
