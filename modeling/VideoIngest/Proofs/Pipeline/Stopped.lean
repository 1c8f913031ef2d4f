import VideoIngest.Proofs.DecodeLoop.States
import VideoIngest.Proofs.Pipeline.Run

/-!
The end of a pipeline.

A stop waits for the work that is on its way and drops the decoder. From then on requests change
nothing but the bindings of sessions and the registrations of sinks.
-/

namespace VideoIngest

namespace Pipeline

variable {course : Course} {pipeline other : Pipeline}

/-- A pipeline that was stopped: nothing is on its way, no decoder is live, and neither is any of
the sessions that can still be found. -/
structure HasEnded (pipeline : Pipeline) : Prop where
  isStopped : pipeline.isStopped = true
  running : pipeline.worker.isRunning = false
  receiving : pipeline.loop.queue.receiving = false
  idle : pipeline.loop.queue.pending = []
  vacant : pipeline.loop.slot.active = none
  sessions : pipeline.sessions.AreStopped

/-- The other pipeline is this one once all that is on its way has been worked on, the decoder has
been dropped and the sessions have been stopped. -/
structure EndsAs (pipeline other : Pipeline) : Prop where
  work : (pipeline.loop.process pipeline.loop.queue.pending).1.finish.SameWork other.loop
  playout : other.playout =
    (pipeline.play (pipeline.loop.process pipeline.loop.queue.pending).2).playout
  enqueued : other.enqueued = pipeline.enqueued
  refused : other.refused = pipeline.refused
  states : ∀ id, other.sessions.state? id = (pipeline.sessions.state? id).map fun _ => .stopped

/-- The engine has not been called, no sink has received a picture and nothing was counted. -/
structure SameOutcome (pipeline other : Pipeline) : Prop where
  engine : other.engine = pipeline.engine
  received : other.playout.audience.received = pipeline.playout.audience.received
  stats : other.stats = pipeline.stats

theorem SameOutcome.refl (pipeline : Pipeline) : pipeline.SameOutcome pipeline := ⟨rfl, rfl, rfl⟩

theorem SameOutcome.trans {last : Pipeline} (before : pipeline.SameOutcome other)
    (behind : other.SameOutcome last) : pipeline.SameOutcome last :=
  ⟨behind.engine.trans before.engine, behind.received.trans before.received,
    behind.stats.trans before.stats⟩

/-! ### The stop itself -/

theorem Tracks.stop_ends (tracks : Tracks course pipeline) (going : course.isOver = false) :
    pipeline.stop.HasEnded ∧ pipeline.EndsAs pipeline.stop := by
  have isGoing := tracks.stopped.trans going
  obtain ⟨drain, _⟩ := tracks.drain_stopping going
  have same : pipeline.loop.SameWork pipeline.stopping := ⟨rfl, rfl, rfl⟩
  obtain ⟨works, samePictures⟩ := same.process pipeline.loop.queue.pending
  have streams := sameStreams_stopping pipeline pipeline.loop.queue.pending
  have stopped : (pipeline.stopping.process pipeline.loop.queue.pending).1.sessions.AreStopped :=
    DecodeLoop.areStopped_process (SessionTable.areStopped_stopAll pipeline.sessions) _
  rw [stop_eq isGoing (tracks.running.trans (by rw [going]; rfl)), drain, samePictures]
  constructor
  · exact ⟨rfl, rfl, rfl, rfl, DecoderSlot.active_destroy _, stopped⟩
  · refine ⟨?_, rfl, rfl, rfl, stopped.state?_eq streams⟩
    exact ⟨congrArg (fun slot => slot.destroy.1) works.slot, works.undecoded, works.decodeErrors⟩

theorem HasEnded.stop_eq (ended : pipeline.HasEnded) : pipeline.stop = pipeline :=
  if_pos ended.isStopped

private theorem HasEnded.worker_stop (ended : pipeline.HasEnded) :
    pipeline.worker.stop = (pipeline.worker, []) := by
  unfold DecodeWorker.stop
  rw [ended.running, if_neg Bool.false_ne_true]

private theorem HasEnded.drop_eq (ended : pipeline.HasEnded) : pipeline.drop = pipeline := by
  unfold drop
  rw [ended.stop_eq, ended.worker_stop]
  rfl

/-- There is nothing left to work on and nothing left to drop. -/
private theorem HasEnded.endsAs_stop (ended : pipeline.HasEnded) :
    pipeline.EndsAs pipeline.stop := by
  have undropped : pipeline.loop.slot.destroy.1 = pipeline.loop.slot := by
    unfold DecoderSlot.destroy
    rw [ended.vacant]
  rw [ended.stop_eq]
  refine ⟨?_, ?_, rfl, rfl, ended.sessions.state?_eq (.refl _)⟩
  · rw [ended.idle]
    exact ⟨undropped.symm, rfl, rfl⟩
  · rw [ended.idle]
    rfl

/-! ### Requests to a stopped pipeline -/

theorem HasEnded.openSession (ended : pipeline.HasEnded)
    (id media codecName description : String) :
    pipeline.openSession id media codecName description = (pipeline, .error .stopped) :=
  if_pos ended.isStopped

private theorem HasEnded.newSession (ended : pipeline.HasEnded)
    (id media codecName description : String) :
    pipeline.answer (.newSession id media codecName description) =
      (pipeline, .accepted false) := by
  rw [answer, ended.openSession]
  rfl

theorem HasEnded.push (ended : pipeline.HasEnded) (id : String) (chunk : Bytes) (timestamp : Nat) :
    pipeline.push id chunk timestamp = (pipeline, .error .stopped) :=
  if_pos ended.isStopped

private theorem HasEnded.onData (ended : pipeline.HasEnded) (id : String) (chunk : Bytes)
    (time : PresentationTime) : pipeline.onData id chunk time = (pipeline, false) := by
  rw [Pipeline.onData, ended.push]

/-- What a turn may still do to a stopped pipeline. -/
private theorem HasEnded.turn_cases (ended : pipeline.HasEnded) (turn : Turn) :
    (∃ id, turn = .request (.closeSession id)) ∨
      (∀ id, turn ≠ .request (.closeSession id)) ∧
        (pipeline.turn turn = pipeline ∨
          ∃ change, pipeline.turn turn =
            { pipeline with playout := pipeline.playout.change change }) := by
  cases turn with
  | work count =>
      have idle := (work_of_not_receiving ended.receiving count).1
      exact .inr ⟨fun _ same => (nomatch same), .inl idle⟩
  | request request =>
      cases request with
      | closeSession id => exact .inl ⟨id, rfl⟩
      | openSession id media codecName description =>
          refine .inr ⟨fun _ same => (nomatch same), .inl ?_⟩
          exact congrArg Prod.fst (ended.openSession id media codecName description)
      | newSession id media codecName description =>
          refine .inr ⟨fun _ same => (nomatch same), .inl ?_⟩
          exact congrArg Prod.fst (ended.newSession id media codecName description)
      | push id chunk timestamp =>
          refine .inr ⟨fun _ same => (nomatch same), .inl ?_⟩
          exact congrArg Prod.fst (ended.push id chunk timestamp)
      | data id chunk time =>
          refine .inr ⟨fun _ same => (nomatch same), .inl ?_⟩
          exact congrArg Prod.fst (ended.onData id chunk time)
      | addSink sink wants => exact .inr ⟨fun _ same => (nomatch same), .inr ⟨_, rfl⟩⟩
      | removeSink sink => exact .inr ⟨fun _ same => (nomatch same), .inr ⟨_, rfl⟩⟩
      | stop => exact .inr ⟨fun _ same => (nomatch same), .inl ended.stop_eq⟩

theorem HasEnded.turn (ended : pipeline.HasEnded) (turn : Turn) :
    (pipeline.turn turn).HasEnded ∧ pipeline.SameOutcome (pipeline.turn turn) ∧
      ∀ id, (pipeline.turn turn).sessions.state? id =
        if turn = .request (.closeSession id) then none else pipeline.sessions.state? id := by
  rcases ended.turn_cases turn with ⟨closed, rfl⟩ | ⟨other, unchanged | ⟨change, changed⟩⟩
  · refine ⟨{ ended with sessions := ended.sessions.remove closed }, ⟨rfl, rfl, rfl⟩, ?_⟩
    intro id
    refine (SessionTable.state?_remove closed id pipeline.sessions).trans ?_
    by_cases same : id = closed
    · rw [if_pos same, if_pos (by rw [same])]
    · rw [if_neg same, if_neg]
      rintro ⟨⟩
      exact same rfl
  · rw [unchanged]
    exact ⟨ended, .refl pipeline, fun id => (if_neg (other id)).symm⟩
  · rw [changed]
    exact ⟨{ ended with }, ⟨rfl, rfl, rfl⟩, fun id => (if_neg (other id)).symm⟩

theorem HasEnded.after (ended : pipeline.HasEnded) (turns : List Turn) :
    (pipeline.after turns).HasEnded ∧ pipeline.SameOutcome (pipeline.after turns) ∧
      ∀ id, (pipeline.after turns).sessions.state? id =
        if .request (.closeSession id) ∈ turns then none else pipeline.sessions.state? id := by
  induction turns using List.reverseRecOn with
  | nil => exact ⟨ended, .refl pipeline, fun id => (if_neg List.not_mem_nil).symm⟩
  | append_singleton turns turn ih =>
      obtain ⟨stillEnded, before, states⟩ := ih
      obtain ⟨last, behind, lastStates⟩ := stillEnded.turn turn
      rw [after_append_singleton]
      refine ⟨last, before.trans behind, ?_⟩
      intro id
      rw [lastStates, states]
      by_cases now : turn = .request (.closeSession id)
      · rw [if_pos now, if_pos (by rw [now]; simp)]
      · rw [if_neg now]
        have sameCloses : .request (.closeSession id) ∈ turns ++ [turn] ↔
            .request (.closeSession id) ∈ turns := by
          rw [List.mem_append, List.mem_singleton]
          exact or_iff_left (Ne.symm now)
        simp only [sameCloses]

/-! ### Whole runs -/

/-- Only a stop ends a pipeline. -/
theorem Tracks.hasEnded_turn (tracks : Tracks course pipeline) (going : course.isOver = false)
    (turn : Turn) (isStopped : (pipeline.turn turn).isStopped = true) :
    (pipeline.turn turn).HasEnded := by
  have goesOn : ∀ {next : Course}, Tracks next (pipeline.turn turn) → next.isOver = false →
      (pipeline.turn turn).HasEnded := by
    intro next tracks nextGoing
    rw [tracks.stopped, nextGoing] at isStopped
    contradiction
  cases turn with
  | work count => exact goesOn (tracks.work_of_going going count).2 going
  | request request =>
      cases request with
      | openSession id media codecName description =>
          obtain ⟨opened, next⟩ := tracks.openSession id media codecName description
          exact goesOn next going
      | newSession id media codecName description =>
          obtain ⟨opened, next⟩ := tracks.openSession id media codecName description
          exact goesOn next going
      | push id chunk timestamp => exact goesOn (tracks.push id chunk timestamp) going
      | data id chunk time => exact goesOn (tracks.data id chunk time) going
      | closeSession id => exact goesOn (tracks.closeSession id) going
      | addSink sink wants => exact goesOn (tracks.withAudience (.add sink wants)) going
      | removeSink sink => exact goesOn (tracks.withAudience (.remove sink)) going
      | stop => exact (tracks.stop_ends going).1

end Pipeline

namespace PipelineRun

theorem hasEnded_last (run : PipelineRun) (isStopped : run.last.isStopped = true) :
    run.last.HasEnded := by
  obtain ⟨config, inlineDecoder, engine, audience, turns⟩ := run
  induction turns using List.reverseRecOn with
  | nil => contradiction
  | append_singleton turns turn ih =>
      obtain ⟨course, tracks, _⟩ := exists_course ⟨config, inlineDecoder, engine, audience, turns⟩
      rw [last, Pipeline.after_append_singleton] at isStopped ⊢
      cases going : course.isOver with
      | false => exact tracks.hasEnded_turn going turn isStopped
      | true => exact ((ih (tracks.stopped.trans going)).turn turn).1

theorem stop_ends (run : PipelineRun) :
    run.last.stop.HasEnded ∧ run.last.EndsAs run.last.stop := by
  obtain ⟨course, tracks, _⟩ := run.exists_course
  cases going : course.isOver with
  | false => exact tracks.stop_ends going
  | true =>
      have ended := run.hasEnded_last (tracks.stopped.trans going)
      refine ⟨?_, ended.endsAs_stop⟩
      rw [ended.stop_eq]
      exact ended

/-- At whatever point of a run a pipeline is stopped: all that is on its way is worked on, then the
live decoder is dropped, once and as the last call to the engine, and every session that can be
found is stopped. Whatever is asked for later, to open a session and to push data is refused and
changes nothing, the engine is not called, no picture is delivered and nothing is counted. A session
stays stopped until it is closed. To stop again and to drop the pipeline change nothing. -/
theorem stop_is_final (run : PipelineRun) (later : List Turn) :
    let before := run.last
    let worked := before.loop.process before.loop.queue.pending
    let stopped := before.stop
    let last := stopped.after later
    (before.EndsAs stopped ∧ stopped.HasEnded ∧
        stopped.engine.calls = worked.1.slot.engine.calls ++ worked.1.slot.dropCalls) ∧
      (∀ id media codecName description,
        last.openSession id media codecName description = (last, .error .stopped) ∧
          last.answer (.newSession id media codecName description) = (last, .accepted false)) ∧
      (∀ id chunk, (∀ timestamp, last.push id chunk timestamp = (last, .error .stopped)) ∧
        ∀ time, last.onData id chunk time = (last, false)) ∧
      stopped.SameOutcome last ∧
      (∀ id, last.sessions.state? id =
        if .request (.closeSession id) ∈ later then none
        else (before.sessions.state? id).map fun _ => .stopped) ∧
      last.stop = last ∧ last.drop = last := by
  intro before worked stopped last
  obtain ⟨hasEnded, ends⟩ := run.stop_ends
  obtain ⟨ended, outcome, states⟩ := hasEnded.after later
  refine ⟨⟨ends, hasEnded, ?_⟩, ?_, ?_, outcome, ?_, ended.stop_eq, ended.drop_eq⟩
  · change stopped.loop.slot.engine.calls = _
    rw [ends.work.slot]
    exact DecoderSlot.calls_destroy worked.1.slot
  · exact fun id media codecName description => ⟨ended.openSession id media codecName description,
      ended.newSession id media codecName description⟩
  · exact fun id chunk => ⟨ended.push id chunk, ended.onData id chunk⟩
  · intro id
    rw [states, ends.states]

end PipelineRun
end VideoIngest
