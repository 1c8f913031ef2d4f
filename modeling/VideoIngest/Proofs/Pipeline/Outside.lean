import VideoIngest.Proofs.DecodeLoop.States
import VideoIngest.Proofs.Pipeline.Bindings
import VideoIngest.Proofs.Pipeline.Requests
import VideoIngest.Proofs.Session.Labelled

/-!
Two pipelines that differ only in what they show to the sinks and in the sessions of some
identifiers. Whatever else is asked of both, they go on in the same way.
-/

namespace VideoIngest

variable {isInline : String → Bool}

/-! ### The decode loop -/

namespace DecodeLoop

/-- The loops are the same but for the sessions of the chosen identifiers. -/
structure SameOutside (isInline : String → Bool) (loop other : DecodeLoop) : Prop where
  work : loop.SameWork other
  queue : other.queue = loop.queue
  sessions : loop.sessions.SameOutside isInline other.sessions

variable {loop other : DecodeLoop}

private theorem SameOutside.onFormat (same : loop.SameOutside isInline other) (id : String)
    (format : VideoFormat) :
    (loop.onFormat id format).sessions.SameOutside isInline (other.onFormat id format).sessions := by
  rw [sessions_onFormat, sessions_onFormat, same.work.slot]
  cases stateAfter (loop.slot.applyFormat format).2 with
  | none => exact same.sessions
  | some state => exact same.sessions.setState id state

private theorem SameOutside.handle (same : loop.SameOutside isInline other) (event : IngestEvent) :
    (loop.handle event).1.SameOutside isInline (other.handle event).1 ∧
      (other.handle event).2 = (loop.handle event).2 := by
  obtain ⟨work, samePicture⟩ := same.work.handle event
  refine ⟨⟨work, ?_, ?_⟩, samePicture⟩
  · cases event with
    | formatChange id format => simp only [DecodeLoop.handle, queue_onFormat, same.queue]
    | frame coded => simp only [DecodeLoop.handle, queue_onFrame, same.queue]
    | stop => exact congrArg IngestQueue.dropReceiver same.queue
  · cases event with
    | formatChange id format => exact same.onFormat id format
    | frame coded =>
        simp only [DecodeLoop.handle, sessions_onFrame]
        exact same.sessions
    | stop => exact same.sessions

private theorem SameOutside.withQueue (same : loop.SameOutside isInline other)
    (queue : IngestQueue) : SameOutside isInline { loop with queue } { other with queue } :=
  ⟨⟨same.work.slot, same.work.undecoded, same.work.decodeErrors⟩, rfl, same.sessions⟩

private theorem SameOutside.step (same : loop.SameOutside isInline other) :
    (loop.step = none ∧ other.step = none) ∨
      ∃ next last picture, loop.step = some (next, picture) ∧ other.step = some (last, picture) ∧
        next.SameOutside isInline last := by
  unfold DecodeLoop.step
  rw [same.queue]
  split
  · split
    · exact .inl ⟨rfl, rfl⟩
    · rename_i queue event _
      obtain ⟨next, samePicture⟩ := (same.withQueue queue).handle event
      exact .inr ⟨_, _, _, rfl, congrArg some (Prod.ext rfl samePicture), next⟩
  · exact .inl ⟨rfl, rfl⟩

theorem SameOutside.steps (same : loop.SameOutside isInline other) (count : Nat) :
    (loop.steps count).1.SameOutside isInline (other.steps count).1 ∧
      (other.steps count).2 = (loop.steps count).2 := by
  induction count generalizing loop other with
  | zero => exact ⟨same, rfl⟩
  | succ count ih =>
      rcases same.step with ⟨waits, otherWaits⟩ | ⟨next, last, picture, stepped, otherStepped, later⟩
      · rw [steps_of_step_eq_none waits, steps_of_step_eq_none otherWaits]
        exact ⟨same, rfl⟩
      · obtain ⟨ends, samePictures⟩ := ih later
        simp only [DecodeLoop.steps, stepped, otherStepped, samePictures, and_true]
        exact ends

private theorem SameOutside.send (same : loop.SameOutside isInline other) (event : IngestEvent) :
    (loop.send event).1.SameOutside isInline (other.send event).1 ∧
      (other.send event).2 = (loop.send event).2 := by
  unfold DecodeLoop.send
  rw [same.queue]
  exact ⟨same.withQueue _, rfl⟩

end DecodeLoop

namespace DecodeWorker

structure SameOutside (isInline : String → Bool) (worker other : DecodeWorker) : Prop where
  loop : worker.loop.SameOutside isInline other.loop
  isRunning : other.isRunning = worker.isRunning

variable {worker other : DecodeWorker}

theorem SameOutside.stop (same : worker.SameOutside isInline other) :
    worker.stop.1.SameOutside isInline other.stop.1 ∧ other.stop.2 = worker.stop.2 := by
  unfold DecodeWorker.stop
  rw [same.isRunning]
  split
  · -- Both loops have the same number of events on their way, so they take as many steps.
    obtain ⟨sent, _⟩ := same.loop.send .stop
    obtain ⟨drained, samePictures⟩ := sent.steps ((worker.loop.send .stop).1.queue.pending.length + 1)
    have samePending := congrArg IngestQueue.pending sent.queue
    dsimp only [DecodeWorker.send, settle, DecodeLoop.drain]
    rw [samePending]
    exact ⟨⟨drained, rfl⟩, samePictures⟩
  · exact ⟨same, rfl⟩

end DecodeWorker

/-! ### The pipeline -/

namespace Pipeline

/-- Both pipelines have the same decode side, and the same sessions but for the chosen
identifiers. -/
structure SameOutside (isInline : String → Bool) (pipeline other : Pipeline) : Prop where
  inlineDecoder : other.inlineDecoder = pipeline.inlineDecoder
  dropsRegressed : other.dropsRegressed = pipeline.dropsRegressed
  isStopped : other.isStopped = pipeline.isStopped
  enqueued : other.enqueued = pipeline.enqueued
  worker : pipeline.worker.SameOutside isInline other.worker

variable {pipeline other : Pipeline} {id : String} {handle place : Nat}

theorem SameOutside.sessions (same : pipeline.SameOutside isInline other) :
    pipeline.sessions.SameOutside isInline other.sessions := same.worker.loop.sessions

theorem SameOutside.withLoop (same : pipeline.SameOutside isInline other)
    {loop otherLoop : DecodeLoop} (sameLoop : loop.SameOutside isInline otherLoop) :
    (pipeline.withLoop loop).SameOutside isInline (other.withLoop otherLoop) :=
  ⟨same.inlineDecoder, same.dropsRegressed, same.isStopped, same.enqueued,
    sameLoop, same.worker.isRunning⟩

theorem SameOutside.withSessions (same : pipeline.SameOutside isInline other)
    {table otherTable : SessionTable} (sameTable : table.SameOutside isInline otherTable) :
    (pipeline.withSessions table).SameOutside isInline (other.withSessions otherTable) :=
  same.withLoop ⟨⟨same.worker.loop.work.slot, same.worker.loop.work.undecoded,
    same.worker.loop.work.decodeErrors⟩, same.worker.loop.queue, sameTable⟩

/-- What the sinks are shown and what is refused makes no difference. -/
theorem SameOutside.withOutput (same : pipeline.SameOutside isInline other)
    (playout otherPlayout : Playout) (refused otherRefused : Nat) :
    SameOutside isInline { pipeline with playout, refused }
      { other with playout := otherPlayout, refused := otherRefused } :=
  ⟨same.inlineDecoder, same.dropsRegressed, same.isStopped, same.enqueued, same.worker⟩

private theorem SameOutside.send (same : pipeline.SameOutside isInline other)
    (event : IngestEvent) : (other.send event).2 = (pipeline.send event).2 ∧
      (pipeline.send event).1.SameOutside isInline (other.send event).1 := by
  obtain ⟨sent, sameResult⟩ := same.worker.loop.send event
  exact ⟨sameResult, same.withLoop sent⟩

/-! ### Items and chunks of the other identifiers -/

private theorem SameOutside.ingestFrame (same : pipeline.SameOutside isInline other)
    (visible : isInline id = false) (bound : pipeline.sessions.handle? id = some handle)
    (boundOther : other.sessions.handle? id = some place) (coded : CodedFrame) :
    (other.ingestFrame place coded).2 = (pipeline.ingestFrame handle coded).2 ∧
      (pipeline.ingestFrame handle coded).1.SameOutside isInline
        (other.ingestFrame place coded).1 := by
  obtain ⟨sameAccepted, sameTable⟩ := same.sessions.update visible bound boundOther
    (Session.id_acceptTimestamp coded.timestamp pipeline.dropsRegressed)
  unfold Pipeline.ingestFrame
  rw [same.dropsRegressed]
  dsimp only
  rw [sameAccepted]
  have moved := same.withSessions sameTable
  split
  · obtain ⟨sameResult, sent⟩ := moved.send (.frame coded)
    rcases outcome : (pipeline.withSessions _).send (.frame coded) with ⟨next, result⟩
    rcases outcomeOther : (other.withSessions _).send (.frame coded) with ⟨last, resultOther⟩
    rw [outcome, outcomeOther] at sameResult sent
    dsimp only at sameResult sent
    subst sameResult
    cases resultOther with
    | error failure => exact ⟨rfl, sent⟩
    | ok done => exact ⟨rfl, sent.inlineDecoder, sent.dropsRegressed, sent.isStopped,
        congrArg (· + 1) sent.enqueued, sent.worker⟩
  · exact ⟨rfl, moved.withOutput _ _ _ _⟩

private theorem SameOutside.ingestItem (same : pipeline.SameOutside isInline other)
    (visible : isInline id = false) (bound : pipeline.sessions.handle? id = some handle)
    (boundOther : other.sessions.handle? id = some place) (item : MediaItem) :
    (other.ingestItem place id item).2 = (pipeline.ingestItem handle id item).2 ∧
      (pipeline.ingestItem handle id item).1.SameOutside isInline
        (other.ingestItem place id item).1 := by
  cases item with
  | format announced => exact same.send (.formatChange id announced)
  | frame coded => exact same.ingestFrame visible bound boundOther coded
  | picture picture =>
      have sameTable := same.sessions.modify visible bound boundOther
        fun session _ => Session.id_setState .decoding session
      exact ⟨rfl, (same.withSessions sameTable).withOutput _ _ _ _⟩

private theorem SameOutside.ingestItems (same : pipeline.SameOutside isInline other)
    (visible : isInline id = false) (bound : pipeline.sessions.handle? id = some handle)
    (boundOther : other.sessions.handle? id = some place) (items : List MediaItem) :
    (other.ingestItems place id items).2 = (pipeline.ingestItems handle id items).2 ∧
      (pipeline.ingestItems handle id items).1.SameOutside isInline
        (other.ingestItems place id items).1 := by
  induction items generalizing pipeline other with
  | nil => exact ⟨rfl, same⟩
  | cons item rest ih =>
      obtain ⟨sameResult, next⟩ := same.ingestItem visible bound boundOther item
      have stillBound := (SessionTable.handle?_congr
        (bindings_ingestItem handle id item pipeline) id).trans bound
      have stillBoundOther := (SessionTable.handle?_congr
        (bindings_ingestItem place id item other) id).trans boundOther
      rw [Pipeline.ingestItems, Pipeline.ingestItems]
      rcases outcome : pipeline.ingestItem handle id item with ⟨after, result⟩
      rcases outcomeOther : other.ingestItem place id item with ⟨afterOther, resultOther⟩
      rw [outcome] at sameResult next stillBound
      rw [outcomeOther] at sameResult next stillBoundOther
      dsimp only at sameResult
      subst sameResult
      cases resultOther with
      | error failure => exact ⟨rfl, next⟩
      | ok done => exact ih next stillBound stillBoundOther

private theorem SameOutside.ingest (same : pipeline.SameOutside isInline other)
    (visible : isInline id = false) (bound : pipeline.sessions.handle? id = some handle)
    (boundOther : other.sessions.handle? id = some place) (chunk : Bytes) (timestamp : Nat) :
    (other.ingest place id chunk timestamp).2 = (pipeline.ingest handle id chunk timestamp).2 ∧
      (pipeline.ingest handle id chunk timestamp).1.SameOutside isInline
        (other.ingest place id chunk timestamp).1 := by
  obtain ⟨sameItems, sameTable⟩ := same.sessions.update visible bound boundOther
    (Session.id_assemble chunk timestamp)
  have stillBound := (SessionTable.handle?_congr (SessionTable.bindings_update handle
    (Session.assemble chunk timestamp) pipeline.sessions) id).trans bound
  have stillBoundOther := (SessionTable.handle?_congr (SessionTable.bindings_update place
    (Session.assemble chunk timestamp) other.sessions) id).trans boundOther
  unfold Pipeline.ingest
  rcases updated : pipeline.sessions.update handle (Session.assemble chunk timestamp) with
    ⟨table, outcome⟩
  rcases updatedOther : other.sessions.update place (Session.assemble chunk timestamp) with
    ⟨tableOther, outcomeOther⟩
  rw [updated] at sameItems sameTable stillBound
  rw [updatedOther] at sameItems sameTable stillBoundOther
  dsimp only at sameItems
  subst sameItems
  rcases outcomeOther with _ | refusal | items
  · exact ⟨rfl, same⟩
  · exact ⟨rfl, same⟩
  · exact (same.withSessions sameTable).ingestItems visible stillBound stillBoundOther items

private theorem SameOutside.ingestUnits (same : pipeline.SameOutside isInline other)
    (visible : isInline id = false) (bound : pipeline.sessions.handle? id = some handle)
    (boundOther : other.sessions.handle? id = some place) (units : List Bytes) :
    SameOutside isInline
      (units.foldl (fun pipeline unit => (pipeline.ingest handle id unit 0).1) pipeline)
      (units.foldl (fun pipeline unit => (pipeline.ingest place id unit 0).1) other) := by
  induction units generalizing pipeline other with
  | nil => exact same
  | cons unit rest ih =>
      obtain ⟨_, next⟩ := same.ingest visible bound boundOther unit 0
      exact ih next
        ((SessionTable.handle?_congr (bindings_ingest handle id unit 0 pipeline) id).trans bound)
        ((SessionTable.handle?_congr (bindings_ingest place id unit 0 other) id).trans boundOther)

/-! ### Requests for the other identifiers -/

theorem SameOutside.openSession (same : pipeline.SameOutside isInline other)
    (visible : isInline id = false) (media codecName description : String) :
    (pipeline.openSession id media codecName description).1.SameOutside isInline
      (other.openSession id media codecName description).1 := by
  unfold Pipeline.openSession
  rw [same.isStopped, same.inlineDecoder]
  split
  · exact same
  · cases sessionCodec media codecName with
    | error refusal => exact same
    | ok codec =>
        let session := Session.start id media (.ofCodec pipeline.inlineDecoder codec)
        have inserted := same.sessions.changes (same.sessions.labelled.insert session)
          (same.sessions.labelledOther.insert session) fun inline =>
            absurd (visible.symm.trans inline) Bool.false_ne_true
        exact (same.withSessions inserted).ingestUnits visible
          (SessionTable.handle?_insert session pipeline.sessions)
          (SessionTable.handle?_insert session other.sessions) _

theorem SameOutside.push (same : pipeline.SameOutside isInline other)
    (visible : isInline id = false) (chunk : Bytes) (timestamp : Nat) :
    (other.push id chunk timestamp).2 = (pipeline.push id chunk timestamp).2 ∧
      (pipeline.push id chunk timestamp).1.SameOutside isInline
        (other.push id chunk timestamp).1 := by
  unfold Pipeline.push
  rw [same.isStopped]
  split
  · exact ⟨rfl, same⟩
  · rcases same.sessions.handle?_cases visible with
      ⟨unbound, unboundOther⟩ | ⟨handle, place, bound, boundOther⟩
    · rw [unbound, unboundOther]
      exact ⟨rfl, same⟩
    · obtain ⟨_, moved⟩ := same.sessions.update visible bound boundOther
        (Session.id_transition .codecKnown .awaitingFormat)
      rw [bound, boundOther]
      exact (same.withSessions moved).ingest visible
        ((SessionTable.handle?_congr (SessionTable.bindings_update handle _ _) id).trans bound)
        ((SessionTable.handle?_congr (SessionTable.bindings_update place _ _) id).trans boundOther)
        chunk timestamp

theorem SameOutside.onData (same : pipeline.SameOutside isInline other)
    (visible : isInline id = false) (chunk : Bytes) (time : PresentationTime) :
    (pipeline.onData id chunk time).1.SameOutside isInline (other.onData id chunk time).1 := by
  obtain ⟨sameResult, pushed⟩ := same.push visible chunk time.toMillis
  rw [onData_fst, onData_fst, sameResult]
  split
  · exact pushed.withOutput _ _ _ _
  · exact pushed

/-! ### Turns for all -/

theorem SameOutside.closeSession (same : pipeline.SameOutside isInline other) (id : String) :
    (pipeline.closeSession id).SameOutside isInline (other.closeSession id) :=
  same.withSessions (same.sessions.changes (same.sessions.labelled.remove id)
    (same.sessions.labelledOther.remove id) fun _ _ => nofun)

/-- The pipeline at the beginning of a stop, before the decode loop ends. -/
def halted (pipeline : Pipeline) : Pipeline :=
  { pipeline with isStopped := true }.withSessions pipeline.sessions.stopAll

theorem SameOutside.halted (same : pipeline.SameOutside isInline other) :
    pipeline.halted.SameOutside isInline other.halted := by
  have stopped : SameOutside isInline { pipeline with isStopped := true }
      { other with isStopped := true } :=
    ⟨same.inlineDecoder, same.dropsRegressed, rfl, same.enqueued, same.worker⟩
  exact stopped.withSessions same.sessions.stopAll

private theorem SameOutside.withWorker (same : pipeline.SameOutside isInline other)
    {worker otherWorker : DecodeWorker} (sameWorker : worker.SameOutside isInline otherWorker)
    (playout otherPlayout : Playout) :
    SameOutside isInline { pipeline with worker, playout }
      { other with worker := otherWorker, playout := otherPlayout } :=
  ⟨same.inlineDecoder, same.dropsRegressed, same.isStopped, same.enqueued, sameWorker⟩

theorem SameOutside.stop (same : pipeline.SameOutside isInline other) :
    pipeline.stop.SameOutside isInline other.stop := by
  unfold Pipeline.stop
  rw [same.isStopped]
  split
  · exact same
  · exact same.halted.withWorker same.halted.worker.stop.1 _ _

theorem SameOutside.drop (same : pipeline.SameOutside isInline other) :
    pipeline.drop.SameOutside isInline other.drop :=
  same.stop.withWorker same.stop.worker.stop.1 _ _

theorem SameOutside.work (same : pipeline.SameOutside isInline other) (count : Nat) :
    (pipeline.work count).SameOutside isInline (other.work count) :=
  (same.withLoop (same.worker.loop.steps count).1).withOutput _ _ _ _

end Pipeline
end VideoIngest
