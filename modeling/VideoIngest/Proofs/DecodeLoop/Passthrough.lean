import VideoIngest.Proofs.DecodeLoop.LiveFormat

/-!
With an engine that never fails, each frame behind a format comes back as the picture of its bytes.
-/

namespace VideoIngest

def CodedFrame.shownAs (frame : CodedFrame) (format : VideoFormat) : Picture where
  buffer := .encoded frame.data
  width := format.width
  height := format.height
  timestamp := frame.timestamp
  captureTime := frame.timestamp

def IngestEvent.picture? (earlier : List IngestEvent) : IngestEvent → Option Picture
  | formatChange _ _ => none
  | frame coded => if coded.data.isEmpty then none else (lastActionable earlier).map coded.shownAs
  | stop => none

structure Engine.NeverFails (engine : Engine) : Prop where
  creates : engine.AlwaysCreates
  decodes : ∀ result ∈ engine.decodeResults, result = .ok ()

theorem Engine.neverFails_passthrough : Engine.passthrough.NeverFails := by
  refine ⟨alwaysCreates_passthrough, ?_⟩
  intro result member
  cases member

namespace DecoderSlot

theorem decodeResults_applyFormat (format : VideoFormat) (slot : DecoderSlot) :
    (slot.applyFormat format).1.engine.decodeResults = slot.engine.decodeResults := by
  have destroyed : slot.destroy.1.engine.decodeResults = slot.engine.decodeResults := by
    unfold destroy
    cases slot.active with
    | none => rfl
    | some live => rfl
  rw [applyFormat_eq]
  split
  · rw [engine_create]
    exact destroyed
  · rfl

theorem submit_eq_of_resultAt {frame : CodedFrame} {slot : DecoderSlot} {format : VideoFormat}
    (active : slot.active = some (.ready format))
    (decodes : Engine.resultAt slot.engine.decodeResults 0 = .ok ()) :
    (slot.submit frame).2 = .ok (frame.shownAs format) ∧
      (slot.submit frame).1.engine.decodeResults = slot.engine.decodeResults.drop 1 := by
  unfold submit Engine.decode
  rw [active, Engine.nextResult_eq, decodes]
  exact ⟨rfl, rfl⟩

/-- The slot is where these events lead to as long as nothing fails, and nothing will fail. -/
structure Serves (events : List IngestEvent) (slot : DecoderSlot) : Prop where
  follows : FollowsClosely events slot
  decodes : ∀ result ∈ slot.engine.decodeResults, result = .ok ()

theorem serves_empty {engine : Engine} (fresh : engine.calls = [])
    (neverFails : engine.NeverFails) : Serves [] (.empty engine) :=
  ⟨followsClosely_empty fresh neverFails.creates, neverFails.decodes⟩

variable {events : List IngestEvent} {slot : DecoderSlot}

private theorem Serves.picture_submit (serves : Serves events slot) (frame : CodedFrame) :
    (slot.submit frame).2.toOption = (lastActionable events).map frame.shownAs := by
  cases last : lastActionable events with
  | none =>
      have absent := serves.follows.absent last
      unfold submit
      rw [absent]
      rfl
  | some format =>
      have active := serves.follows.present last
      have decodes := Engine.resultAt_of_all_ok serves.decodes 0
      rw [(submit_eq_of_resultAt active decodes).1]
      rfl

private theorem Serves.formatChange (session : String) (format : VideoFormat)
    (serves : Serves events slot) :
    Serves (events ++ [.formatChange session format]) (slot.applyFormat format).1 := by
  refine ⟨serves.follows.formatChange session format, ?_⟩
  rw [decodeResults_applyFormat]
  exact serves.decodes

private theorem Serves.frame (frame : CodedFrame) (serves : Serves events slot) :
    Serves (events ++ [.frame frame]) (slot.submit frame).1 := by
  refine ⟨serves.follows.frame frame, ?_⟩
  cases last : lastActionable events with
  | none =>
      have absent := serves.follows.absent last
      rw [submit_eq, absent]
      exact serves.decodes
  | some format =>
      have active := serves.follows.present last
      have decodes := Engine.resultAt_of_all_ok serves.decodes 0
      rw [(submit_eq_of_resultAt active decodes).2]
      intro result member
      exact serves.decodes result (List.mem_of_mem_drop member)

end DecoderSlot

namespace DecodeLoop

private theorem picture_onFrame (frame : CodedFrame) (loop : DecodeLoop) :
    (loop.onFrame frame).2 =
      if frame.data.isEmpty then none else (loop.slot.submit frame).2.toOption := by
  unfold onFrame
  split
  · rfl
  · cases loop.slot.submit frame with
    | mk slot outcome =>
        cases outcome with
        | ok picture => rfl
        | error failure => cases failure <;> rfl

variable {earlier events : List IngestEvent} {loop : DecodeLoop}

theorem serves_process (running : .stop ∉ events) (initially : loop.slot.Serves earlier) :
    (loop.process events).1.slot.Serves (earlier ++ events) :=
  slot_process (fun _ _ session format serves => serves.formatChange session format)
    (fun _ _ frame serves => serves.frame frame)
    (fun _ _ frame serves => ⟨serves.follows.skip frame, serves.decodes⟩) running initially

/-- Events come to the pictures that their history says. -/
theorem pictures_process (running : .stop ∉ events) (initially : loop.slot.Serves earlier) :
    (loop.process events).2 =
      History.collect (fun before => IngestEvent.picture? (earlier ++ before)) events := by
  induction events using List.reverseRecOn with
  | nil => rfl
  | append_singleton events event ih =>
      rw [List.mem_append, List.mem_singleton, not_or] at running
      have next : ((loop.process events).1.handle event).2 =
          IngestEvent.picture? (earlier ++ events) event := by
        cases event with
        | formatChange session format => rfl
        | frame frame =>
            have serves := serves_process running.1 initially
            change ((loop.process events).1.onFrame frame).2 = _
            rw [picture_onFrame, serves.picture_submit]
            rfl
        | stop => exact absurd rfl running.2
      rw [process_append_singleton, History.collect_append_singleton, ← ih running.1, next]

end DecodeLoop
end VideoIngest
