import VideoIngest.Proofs.Pipeline.InlineSessions
import VideoIngest.Proofs.Pipeline.SessionState

/-!
Sessions that wait for a format.

A session comes to wait in two ways only: its first chunk is pushed, or the decode loop cannot
create a decoder that was announced for it.
-/

namespace VideoIngest

theorem Session.awaits_of_setState {next : SessionState} (other : next ≠ .awaitingFormat)
    {session : Session} (waits : (session.setState next).state = .awaitingFormat) :
    session.state = .awaitingFormat := by
  unfold setState at waits
  split at waits
  · exact waits
  · exact absurd waits other

/-! ### Session tables -/

namespace SessionTable

def Awaits (handle : Nat) (table : SessionTable) : Prop :=
  (table.session? handle).map Session.state = some .awaitingFormat

variable {table other : SessionTable} {handle place : Nat}

theorem SameStates.awaits_iff (same : table.SameStates other) (handle : Nat) :
    other.Awaits handle ↔ table.Awaits handle := by
  have states := congrArg (Option.map Prod.snd) (same.standing handle)
  rw [Option.map_map, Option.map_map] at states
  exact Eq.congr_left states

theorem awaits_of_modify {change : Session → Session}
    (keeps : ∀ session : Session, table.session? place = some session →
      (change session).state = .awaitingFormat → session.state = .awaitingFormat)
    (awaits : (table.modify place change).Awaits handle) : table.Awaits handle := by
  unfold Awaits at awaits ⊢
  rw [session?_modify] at awaits
  by_cases own : place = handle
  · subst own
    rw [if_pos rfl, Option.map_map] at awaits
    obtain ⟨session, found, waits⟩ := Option.map_eq_some_iff.mp awaits
    rw [found, Option.map_some, keeps session found waits]
  · rwa [if_neg own] at awaits

private theorem awaits_of_modify_of_ne {change : Session → Session} (other : place ≠ handle)
    (awaits : (table.modify place change).Awaits handle) : table.Awaits handle := by
  unfold Awaits at awaits ⊢
  rwa [session?_modify, if_neg other] at awaits

private theorem awaits_of_insert {session : Session} (begins : session.state = .codecKnown)
    (awaits : (table.insert session).1.Awaits handle) : table.Awaits handle := by
  unfold Awaits at awaits ⊢
  rw [session?_insert] at awaits
  by_cases new : handle = table.sessions.size
  · rw [if_pos new, Option.map_some, begins] at awaits
    cases awaits
  · rwa [if_neg new] at awaits

private theorem awaits_of_setState {id : String} {next : SessionState}
    (awaits : (table.setState id next).Awaits handle) :
    table.Awaits handle ∨ next = .awaitingFormat ∧ table.handle? id = some handle := by
  unfold setState at awaits
  cases bound : table.handle? id with
  | none =>
      rw [bound] at awaits
      exact .inl awaits
  | some place =>
      rw [bound] at awaits
      dsimp only at awaits
      by_cases waits : next = .awaitingFormat
      · by_cases own : place = handle
        · exact .inr ⟨waits, congrArg some own⟩
        · exact .inl (awaits_of_modify_of_ne own awaits)
      · exact .inl (awaits_of_modify (fun _ _ => Session.awaits_of_setState waits) awaits)

private theorem awaits_of_stopAll (awaits : table.stopAll.Awaits handle) : table.Awaits handle := by
  have other : SessionState.stopped ≠ .awaitingFormat := nofun
  unfold stopAll at awaits
  generalize table.bindings = bindings at awaits
  induction bindings generalizing table with
  | nil => exact awaits
  | cons binding rest ih =>
      exact awaits_of_modify (fun _ _ => Session.awaits_of_setState other) (ih awaits)

end SessionTable

/-! ### The decode loop -/

namespace DecodeLoop

/-- Among the events there is a format for the session of this handle whose decoder cannot be
created. -/
def FailsFor (handle : Nat) (events : List IngestEvent) (loop : DecodeLoop) : Prop :=
  ∃ front back id format failure, events = front ++ .formatChange id format :: back ∧
    loop.sessions.handle? id = some handle ∧
    ((loop.process front).1.slot.applyFormat format).2 = .error failure

variable {loop : DecodeLoop} {handle : Nat}

private theorem eq_error_of_stateAfter {outcome : Except IngestError FormatOutcome}
    (waits : stateAfter outcome = some .awaitingFormat) :
    ∃ failure, outcome = .error failure := by
  cases outcome with
  | error failure => exact ⟨failure, rfl⟩
  | ok result => cases result <;> cases waits

private theorem awaits_of_handle {event : IngestEvent}
    (awaits : (loop.handle event).1.sessions.Awaits handle) :
    loop.sessions.Awaits handle ∨
      ∃ id format failure, event = .formatChange id format ∧
        loop.sessions.handle? id = some handle ∧
        (loop.slot.applyFormat format).2 = .error failure := by
  cases event with
  | formatChange id format =>
      change (loop.onFormat id format).sessions.Awaits handle at awaits
      rw [sessions_onFormat] at awaits
      cases after : stateAfter (loop.slot.applyFormat format).2 with
      | none =>
          rw [after] at awaits
          exact .inl awaits
      | some next =>
          rw [after] at awaits
          rcases SessionTable.awaits_of_setState awaits with before | ⟨rfl, bound⟩
          · exact .inl before
          · obtain ⟨failure, failed⟩ := eq_error_of_stateAfter after
            exact .inr ⟨id, format, failure, rfl, bound, failed⟩
  | frame coded =>
      change (loop.onFrame coded).1.sessions.Awaits handle at awaits
      rw [sessions_onFrame] at awaits
      exact .inl awaits
  | stop => exact .inl awaits

theorem awaits_of_process {events : List IngestEvent}
    (awaits : (loop.process events).1.sessions.Awaits handle) :
    loop.sessions.Awaits handle ∨ loop.FailsFor handle events := by
  induction events using List.reverseRecOn with
  | nil => exact .inl awaits
  | append_singleton events event ih =>
      rw [process_append_singleton] at awaits
      rcases awaits_of_handle awaits with before | ⟨id, format, failure, rfl, bound, failed⟩
      · rcases ih before with first | ⟨front, back, id, format, failure, rfl, bound, failed⟩
        · exact .inl first
        · refine .inr ⟨front, back ++ [event], id, format, failure, ?_, bound, failed⟩
          rw [List.append_assoc, List.cons_append]
      · rw [(sameStreams_process events loop).handle?_eq] at bound
        exact .inr ⟨events, [], id, format, failure, rfl, bound, failed⟩

/-- The sessions that can still be found when all of them are stopped do not come to wait. -/
private theorem awaits_of_process_of_areStopped (stopped : loop.sessions.AreStopped)
    {events : List IngestEvent} (awaits : (loop.process events).1.sessions.Awaits handle) :
    loop.sessions.Awaits handle := by
  rcases awaits_of_process awaits with before | ⟨_, _, id, _, _, _, bound, _⟩
  · exact before
  · obtain ⟨binding, first, rfl⟩ := Option.map_eq_some_iff.mp bound
    obtain ⟨session, found, waits⟩ := Option.map_eq_some_iff.mp awaits
    have atEnd := areStopped_process stopped events binding (by
      rw [(sameStreams_process events loop).bindings]
      exact List.mem_of_find?_eq_some first) session found
    rw [atEnd] at waits
    cases waits

end DecodeLoop

/-! ### Taking in chunks -/

namespace Pipeline

variable {course : Course} {pipeline : Pipeline} {handle place : Nat}

private theorem awaits_of_ingestItem {id : String} {item : MediaItem}
    (awaits : (pipeline.ingestItem place id item).1.sessions.Awaits handle) :
    pipeline.sessions.Awaits handle := by
  cases item with
  | format announced => exact awaits
  | frame coded =>
      exact ((sameStates_ingestFrame place coded pipeline).sessions.awaits_iff handle).mp awaits
  | picture picture =>
      have other : SessionState.decoding ≠ .awaitingFormat := nofun
      change (pipeline.sessions.modify place (Session.setState .decoding)).Awaits handle at awaits
      exact SessionTable.awaits_of_modify (fun _ _ => Session.awaits_of_setState other) awaits

private theorem awaits_of_ingestItems {id : String} {items : List MediaItem}
    (awaits : (pipeline.ingestItems place id items).1.sessions.Awaits handle) :
    pipeline.sessions.Awaits handle := by
  induction items generalizing pipeline with
  | nil => exact awaits
  | cons item rest ih =>
      have first := @awaits_of_ingestItem pipeline handle place id item
      unfold ingestItems at awaits
      cases outcome : pipeline.ingestItem place id item with
      | mk next result =>
          rw [outcome] at awaits first
          cases result with
          | error failure => exact first awaits
          | ok done => exact first (ih awaits)

private theorem awaits_of_ingest {id : String} {chunk : Bytes} {timestamp : Nat}
    (awaits : (pipeline.ingest place id chunk timestamp).1.sessions.Awaits handle) :
    pipeline.sessions.Awaits handle := by
  cases found : pipeline.sessions.session? place with
  | none => rwa [ingest_of_session?_eq_none found] at awaits
  | some session =>
      rw [ingest_of_session? found] at awaits
      cases assembled : session.assembler.assemble chunk timestamp with
      | error refusal => rwa [assembled] at awaits
      | ok outcome =>
          rw [assembled] at awaits
          apply SessionTable.awaits_of_modify ?_ (awaits_of_ingestItems awaits)
          intro before foundBefore waits
          obtain rfl := Option.some.inj (found.symm.trans foundBefore)
          exact waits

private theorem awaits_of_ingestUnits {id : String} {units : List Bytes}
    (awaits : (units.foldl (fun pipeline unit => (pipeline.ingest place id unit 0).1)
      pipeline).sessions.Awaits handle) : pipeline.sessions.Awaits handle := by
  induction units generalizing pipeline with
  | nil => exact awaits
  | cons unit rest ih => exact awaits_of_ingest (ih awaits)

/-! ### Turns -/

private theorem awaits_of_openSession {id media codecName description : String}
    (awaits : (pipeline.openSession id media codecName description).1.sessions.Awaits handle) :
    pipeline.sessions.Awaits handle := by
  unfold openSession at awaits
  split at awaits
  · exact awaits
  · split at awaits
    · exact awaits
    · have begun := awaits_of_ingestUnits awaits
      exact SessionTable.awaits_of_insert rfl begun

def Expects (id : String) (handle : Nat) (pipeline : Pipeline) : Prop :=
  pipeline.isStopped = false ∧ pipeline.sessions.handle? id = some handle ∧
    (pipeline.sessions.session? handle).map Session.state = some .codecKnown

private theorem awaits_of_touched (awaits : (pipeline.touched place).sessions.Awaits handle) :
    pipeline.sessions.Awaits handle ∨
      place = handle ∧
        (pipeline.sessions.session? handle).map Session.state = some .codecKnown := by
  cases found : pipeline.sessions.session? place with
  | none =>
      rw [touched_of_no_session found] at awaits
      exact .inl awaits
  | some session =>
      unfold touched at awaits
      rw [SessionTable.update_of_session? found] at awaits
      by_cases first : place = handle ∧ session.state = .codecKnown
      · obtain ⟨rfl, begins⟩ := first
        rw [found, Option.map_some, begins]
        exact .inr ⟨rfl, rfl⟩
      · left
        by_cases own : place = handle
        · apply SessionTable.awaits_of_modify ?_ awaits
          intro before foundBefore waits
          obtain rfl := Option.some.inj (found.symm.trans foundBefore)
          rwa [Session.transition, if_neg fun begins => first ⟨own, begins⟩] at waits
        · exact SessionTable.awaits_of_modify_of_ne own awaits

private theorem awaits_of_push {id : String} {chunk : Bytes} {timestamp : Nat}
    (awaits : (pipeline.push id chunk timestamp).1.sessions.Awaits handle) :
    pipeline.sessions.Awaits handle ∨ pipeline.Expects id handle := by
  cases going : pipeline.isStopped with
  | true =>
      rw [(push_of_isStopped going id chunk timestamp).1] at awaits
      exact .inl awaits
  | false =>
      cases bound : pipeline.sessions.handle? id with
      | none =>
          rw [(push_of_handle?_eq_none going bound chunk timestamp).1] at awaits
          exact .inl awaits
      | some place =>
          rw [push_of_handle?_eq_some going bound] at awaits
          rcases awaits_of_touched (awaits_of_ingest awaits) with before | ⟨rfl, begins⟩
          · exact .inl before
          · exact .inr ⟨going, bound, begins⟩

private theorem awaits_of_onData {id : String} {chunk : Bytes} {time : PresentationTime}
    (awaits : (pipeline.onData id chunk time).1.sessions.Awaits handle) :
    pipeline.sessions.Awaits handle ∨ pipeline.Expects id handle := by
  rw [onData_fst] at awaits
  split at awaits
  · exact awaits_of_push awaits
  · exact awaits_of_push awaits

private theorem Tracks.awaits_of_stop (tracks : Tracks course pipeline)
    (awaits : pipeline.stop.sessions.Awaits handle) : pipeline.sessions.Awaits handle := by
  cases going : course.isOver with
  | true =>
      have unchanged : pipeline.stop = pipeline := if_pos (tracks.stopped.trans going)
      rwa [unchanged] at awaits
  | false =>
      obtain ⟨drain, _⟩ := tracks.drain_stopping going
      rw [stop_eq (tracks.stopped.trans going) (tracks.running.trans (by rw [going]; rfl)), drain]
        at awaits
      exact SessionTable.awaits_of_stopAll (DecodeLoop.awaits_of_process_of_areStopped
        (SessionTable.areStopped_stopAll pipeline.sessions) awaits)

private theorem Tracks.awaits_of_work (tracks : Tracks course pipeline) {count : Nat}
    (awaits : (pipeline.work count).sessions.Awaits handle) :
    pipeline.sessions.Awaits handle ∨
      pipeline.loop.FailsFor handle (pipeline.loop.queue.pending.take count) := by
  cases going : course.isOver with
  | true =>
      have ended : pipeline.loop.queue.receiving = false := by
        rw [tracks.receiving, going]
        rfl
      rw [(work_of_not_receiving ended count).1] at awaits
      exact .inl awaits
  | false =>
      change (pipeline.work count).loop.sessions.Awaits handle at awaits
      rw [tracks.loop_work going] at awaits
      exact DecodeLoop.awaits_of_process awaits

/-- What may make the session of this handle wait for a format in a turn. -/
def MakesWait (handle : Nat) (pipeline : Pipeline) : Turn → Prop
  | .request (.push id _ _) => pipeline.Expects id handle
  | .request (.data id _ _) => pipeline.Expects id handle
  | .work count => pipeline.loop.FailsFor handle (pipeline.loop.queue.pending.take count)
  | _ => False

theorem Tracks.awaits_of_turn (tracks : Tracks course pipeline) {turn : Turn}
    (awaits : (pipeline.turn turn).sessions.Awaits handle) :
    pipeline.sessions.Awaits handle ∨ pipeline.MakesWait handle turn := by
  cases turn with
  | work count => exact tracks.awaits_of_work awaits
  | request request =>
      cases request with
      | openSession id media codecName description => exact .inl (awaits_of_openSession awaits)
      | newSession id media codecName description => exact .inl (awaits_of_openSession awaits)
      | push id chunk timestamp => exact awaits_of_push awaits
      | data id chunk time => exact awaits_of_onData awaits
      | closeSession id => exact .inl awaits
      | addSink sink wants => exact .inl awaits
      | removeSink sink => exact .inl awaits
      | stop => exact .inl (tracks.awaits_of_stop awaits)

end Pipeline
end VideoIngest
