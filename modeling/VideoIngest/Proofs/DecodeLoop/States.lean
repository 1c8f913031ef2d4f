import VideoIngest.Proofs.DecodeLoop.LiveFormat
import VideoIngest.Proofs.Session.States

/-!
The state of a session and the decoder.

Once a session has announced a format that could be acted on, its state says whether a decoder is
live. If there is none, then because the last creation of one failed.
-/

namespace VideoIngest

/-! ### The last creation -/

/-- How far a call takes the creation of a decoder: it succeeds when the decoder has its
callback. -/
def EngineEvent.creation? : EngineEvent → Option Bool
  | create _ => some false
  | createFailed _ => some false
  | register => some true
  | _ => none

def lastCreation? (calls : List EngineEvent) : Option Bool :=
  History.latest? EngineEvent.creation? calls

namespace DecoderSlot

private theorem lastCreation?_attempt (attempt : Attempt) (format : VideoFormat)
    (calls : List EngineEvent) :
    lastCreation? (calls ++ attempt.calls format) = some (attempt.decoder format).isSome := by
  unfold lastCreation?
  rw [History.latest?_append]
  cases attempt <;> rfl

/-- A decoder is live exactly where the last creation succeeded, and a first one was tried for the
first format that could be acted on. -/
structure Creates (events : List IngestEvent) (slot : DecoderSlot) : Prop where
  follows : slot.Follows events
  last : lastCreation? slot.engine.calls = (lastActionable events).map fun _ => slot.active.isSome

variable {events : List IngestEvent} {slot : DecoderSlot}

theorem creates_empty {engine : Engine} (fresh : engine.calls = []) :
    Creates [] (.empty engine) := by
  refine ⟨follows_empty fresh, ?_⟩
  change lastCreation? engine.calls = none
  rw [fresh]
  rfl

theorem Creates.formatChange (session : String) (format : VideoFormat)
    (creates : Creates events slot) :
    Creates (events ++ [.formatChange session format]) (slot.applyFormat format).1 := by
  refine ⟨creates.follows.formatChange session format, ?_⟩
  rw [calls_applyFormat, active_applyFormat, lastActionable_formatChange]
  cases due : slot.isDue format with
  | true =>
      have isActionable := ((isDue_iff format slot).mp due).1
      rw [if_pos rfl, if_pos rfl, if_pos isActionable, ← List.append_assoc, lastCreation?_attempt]
      rfl
  | false =>
      rw [if_neg Bool.false_ne_true, if_neg Bool.false_ne_true, List.append_nil, creates.last]
      cases isActionable : format.isActionable with
      | false => rfl
      | true =>
          have live := activeFormat_of_not_due due isActionable
          -- Where a decoder is live, some format has been acted on before.
          rcases creates.follows.active with absent | ⟨previous, last, _⟩
          · rw [activeFormat, absent] at live
            contradiction
          · rw [last]
            rfl

theorem Creates.frame (frame : CodedFrame) (creates : Creates events slot) :
    Creates (events ++ [.frame frame]) (slot.submit frame).1 := by
  refine ⟨creates.follows.frame frame, ?_⟩
  rw [active_submit, lastActionable_frame, ← creates.last, calls_submit]
  unfold lastCreation?
  rw [History.latest?_append]
  split <;> rfl

theorem Creates.skip (frame : CodedFrame) (creates : Creates events slot) :
    Creates (events ++ [.frame frame]) slot := by
  refine ⟨creates.follows.skip frame, ?_⟩
  rw [lastActionable_frame]
  exact creates.last

private theorem create_cases (format : VideoFormat) {slot : DecoderSlot}
    (vacant : slot.active = none) :
    (∃ next failure, slot.create format = (next, .error failure) ∧ next.active = none) ∨
      ∃ next, slot.create format = (next, .ok ()) ∧ next.active.isSome = true := by
  unfold create
  cases slot.engine.create format with
  | mk engine created =>
      cases created with
      | error failure => exact .inl ⟨_, _, rfl, vacant⟩
      | ok live =>
          dsimp only
          cases engine.configure live with
          | mk engine configured =>
              cases configured with
              | error failure => exact .inl ⟨_, _, rfl, vacant⟩
              | ok live => exact .inr ⟨_, rfl, rfl⟩

end DecoderSlot

/-! ### The states of a session -/

private theorem DecodeLoop.stateAfter_applyFormat (format : VideoFormat) (slot : DecoderSlot) :
    stateAfter (slot.applyFormat format).2 =
      if format.isActionable then some (.afterAttempt (slot.applyFormat format).1.active.isSome)
      else none := by
  unfold DecoderSlot.applyFormat
  cases isActionable : format.isActionable with
  | false => rfl
  | true =>
      by_cases live : slot.activeFormat = some format
      · have isLive : slot.active.isSome = true := by
          obtain ⟨decoder, active, _⟩ := Option.map_eq_some_iff.mp live
          rw [active]
          rfl
        simp [live, stateAfter, isLive, SessionState.afterAttempt]
      · simp only [live, Bool.not_true, Bool.false_eq_true, if_false, if_true]
        rcases DecoderSlot.create_cases format (DecoderSlot.active_destroy slot) with
          ⟨next, failure, result, vacant⟩ | ⟨next, result, isLive⟩
        · simp [result, vacant, stateAfter, SessionState.afterAttempt]
        · simp [result, isLive, stateAfter, SessionState.afterAttempt]

/-- The event is for the decoder, and no format of another session. -/
def IngestEvent.IsUnder (id : String) : IngestEvent → Prop
  | formatChange session _ => session = id
  | frame _ => True
  | stop => False

namespace DecodeLoop

theorem sessions_onFormat (session : String) (format : VideoFormat) (loop : DecodeLoop) :
    (loop.onFormat session format).sessions =
      match stateAfter (loop.slot.applyFormat format).2 with
      | none => loop.sessions
      | some state => loop.sessions.setState session state := by
  unfold onFormat
  cases loop.slot.applyFormat format with
  | mk slot outcome =>
      dsimp only
      cases stateAfter outcome <;> rfl

theorem sessions_onFrame (frame : CodedFrame) (loop : DecodeLoop) :
    (loop.onFrame frame).1.sessions = loop.sessions := by
  unfold onFrame
  split
  · rfl
  · split <;> rfl

/-- A session that was stopped stays so, whatever is announced for it. -/
theorem areStopped_process {loop : DecodeLoop} (stopped : loop.sessions.AreStopped)
    (events : List IngestEvent) : (loop.process events).1.sessions.AreStopped := by
  induction events generalizing loop with
  | nil => exact stopped
  | cons event rest ih =>
      apply ih
      cases event with
      | formatChange session format =>
          change (loop.onFormat session format).sessions.AreStopped
          rw [sessions_onFormat]
          cases stateAfter (loop.slot.applyFormat format).2 with
          | none => exact stopped
          | some state => exact stopped.setState session state
      | frame frame =>
          change (loop.onFrame frame).1.sessions.AreStopped
          rw [sessions_onFrame]
          exact stopped
      | stop => exact stopped

def Shows (id : String) (place : Nat) (announced : Bool) (loop : DecodeLoop) : Prop :=
  loop.sessions.Shows id place announced loop.slot.active.isSome

variable {id : String} {place : Nat} {announced : Bool} {loop : DecodeLoop}

private theorem Shows.onFormat (shows : loop.Shows id place announced) (format : VideoFormat) :
    (loop.onFormat id format).Shows id place (format.isActionable || announced) := by
  unfold Shows
  rw [sessions_onFormat, stateAfter_applyFormat, slot_onFormat]
  cases isActionable : format.isActionable with
  | false =>
      have notDue : loop.slot.isDue format = false := by
        unfold DecoderSlot.isDue
        rw [isActionable]
        rfl
      rw [DecoderSlot.active_applyFormat, notDue, if_neg Bool.false_ne_true, Bool.false_or]
      exact shows
  | true =>
      rw [Bool.true_or]
      exact shows.setState _

private theorem Shows.onFrame (shows : loop.Shows id place announced) (frame : CodedFrame) :
    (loop.onFrame frame).1.Shows id place announced := by
  have sameDecoder : (loop.onFrame frame).1.slot.active = loop.slot.active := by
    rw [slot_onFrame]
    split
    · rfl
    · exact DecoderSlot.active_submit frame loop.slot
  unfold Shows
  rw [sessions_onFrame, sameDecoder]
  exact shows

theorem Shows.handle {event : IngestEvent} (shows : loop.Shows id place announced)
    (isUnder : event.IsUnder id) :
    (loop.handle event).1.Shows id place (event.actionable?.isSome || announced) := by
  cases event with
  | formatChange session format =>
      obtain rfl : session = id := isUnder
      have next := shows.onFormat format
      rw [IngestEvent.actionable?]
      cases isActionable : format.isActionable with
      | false =>
          rw [isActionable] at next
          exact next
      | true =>
          rw [isActionable] at next
          exact next
  | frame coded => exact shows.onFrame coded
  | stop => exact absurd isUnder not_false

theorem Shows.process {events : List IngestEvent} (shows : loop.Shows id place announced)
    (isUnder : ∀ event ∈ events, event.IsUnder id) :
    (loop.process events).1.Shows id place ((lastActionable events).isSome || announced) := by
  induction events using List.reverseRecOn with
  | nil => exact shows
  | append_singleton events event ih =>
      have before := ih fun other member => isUnder other (List.mem_append_left _ member)
      have last := isUnder event (List.mem_append_right _ List.mem_cons_self)
      have next := before.handle last
      rw [process_append_singleton, lastActionable, History.latest?_append_singleton,
        Option.isSome_or, Bool.or_assoc]
      exact next

end DecodeLoop
end VideoIngest
