import VideoIngest.Proofs.Pipeline.Requests

/-! Every run takes a course, which shows what its turns show. -/

namespace VideoIngest

namespace Pipeline

variable {course : Course} {pipeline : Pipeline}

/-! ### The turns of the decode loop -/

private theorem delivered_play (pictures : List Picture) (pipeline : Pipeline) :
    (pipeline.play pictures).playout.delivered =
      pipeline.playout.delivered + pictures.length := by
  induction pictures generalizing pipeline with
  | nil => rfl
  | cons picture rest ih =>
      refine (ih (pipeline.play [picture])).trans ?_
      rw [List.length_cons, Nat.add_comm rest.length, ← Nat.add_assoc]
      rfl

theorem Course.worked_work (events : List IngestEvent) (course : Course) :
    (course.work events).worked =
      ((course.worked.1.process events).1,
        course.worked.2 ++ (course.worked.1.process events).2) :=
  DecodeLoop.process_append _ _ _

theorem Tracks.sameWork (tracks : Tracks course pipeline) (going : course.isOver = false) :
    course.worked.1.SameWork pipeline.loop := by
  have works := tracks.works
  rwa [going, if_neg Bool.false_ne_true] at works

theorem Tracks.done_subset (tracks : Tracks course pipeline) : course.done ⊆ course.sent := by
  rw [← tracks.sent]
  exact List.subset_append_left _ _

theorem Tracks.stop_not_mem_done (tracks : Tracks course pipeline) :
    IngestEvent.stop ∉ course.done := fun member =>
  stop_not_mem_sentFor _ (tracks.done_subset member)

theorem Tracks.stop_not_mem_pending (tracks : Tracks course pipeline) :
    IngestEvent.stop ∉ pipeline.loop.queue.pending := by
  intro member
  have inSent : IngestEvent.stop ∈ course.done ++ pipeline.loop.queue.pending :=
    List.mem_append_right _ member
  rw [tracks.sent] at inSent
  exact stop_not_mem_sentFor _ inSent

private theorem Tracks.missed_work (tracks : Tracks course pipeline) (events : List IngestEvent) :
    (course.work events).missed =
      (DecodeLoop.start course.engine .empty).missed (course.work events).done := by
  change course.missed ++ _ = DecodeLoop.missed (course.done ++ events) _
  rw [DecodeLoop.missed_append, ← tracks.missed]
  rfl

theorem Tracks.work_of_going (tracks : Tracks course pipeline) (going : course.isOver = false)
    (count : Nat) :
    pipeline.loop.misses count =
        course.worked.1.missed (pipeline.loop.queue.pending.take count) ∧
      Tracks (course.work (pipeline.loop.queue.pending.take count)) (pipeline.work count) := by
  have same := tracks.sameWork going
  have receiving : pipeline.loop.queue.receiving = true := by
    rw [tracks.receiving, going]
    rfl
  have running : IngestEvent.stop ∉ pipeline.loop.queue.pending.take count := fun member =>
    tracks.stop_not_mem_pending (List.mem_of_mem_take member)
  have stepped := DecodeLoop.steps_eq_process count pipeline.loop receiving tracks.sender
    tracks.stop_not_mem_pending
  have misses := DecodeLoop.misses_eq_missed count receiving tracks.sender
    tracks.stop_not_mem_pending
  have sameQueue := DecodeLoop.queue_process _ running pipeline.loop
  obtain ⟨works, samePictures⟩ := same.process (pipeline.loop.queue.pending.take count)
  have streams := DecodeLoop.sameStreams_process (pipeline.loop.queue.pending.take count)
    pipeline.loop
  rw [same.missed] at misses
  refine ⟨misses, ?_⟩
  unfold Pipeline.work
  -- The loop of the course sees no sessions and no queue, so the two agree on the work alone.
  rw [stepped]
  have worked := course.worked_work (pipeline.loop.queue.pending.take count)
  refine
    { tracks with
      receiving := (congrArg IngestQueue.receiving sameQueue).trans tracks.receiving
      sender := (congrArg (fun queue => queue.senders.isEmpty) sameQueue).trans tracks.sender
      opened := streams.size.trans tracks.opened
      fits := ?_
      sent := ?_
      works := ?_
      missed := tracks.missed_work _
      delivered := ?_ }
  · intro handle session found
    obtain ⟨before, foundBefore, sameStream⟩ := streams.streams handle session found
    exact (tracks.fits handle before foundBefore).of_sameStream sameStream
  · change (course.done ++ _) ++ _ = course.sent
    rw [← tracks.sent, List.append_assoc]
    exact congrArg _ (List.take_append_drop count _)
  · change DecodeLoop.SameWork (if course.isOver = true then _ else _) _
    rw [going, if_neg Bool.false_ne_true, worked]
    exact ⟨works.slot, works.undecoded, works.decodeErrors⟩
  · rw [delivered_play, worked, samePictures]
    change pipeline.playout.delivered + _ = (course.worked.2 ++ _).length + _
    rw [tracks.delivered, List.length_append, Nat.add_right_comm]
    rfl

theorem work_of_not_receiving (ended : pipeline.loop.queue.receiving = false) (count : Nat) :
    pipeline.work count = pipeline ∧ pipeline.loop.misses count = [] := by
  have waits := DecodeLoop.step_of_not_receiving ended
  refine ⟨?_, DecodeLoop.misses_of_step_eq_none waits count⟩
  rw [work, DecodeLoop.steps_of_step_eq_none waits]
  rfl

private theorem stopping_eq (receiving : pipeline.loop.queue.receiving = true) :
    pipeline.stopping =
      { pipeline.loop with sessions := pipeline.sessions.stopAll }.withPending
        (pipeline.loop.queue.pending ++ [IngestEvent.stop]) := by
  unfold stopping DecodeLoop.send IngestQueue.send
  rw [if_pos receiving]
  rfl

theorem stop_eq (going : pipeline.isStopped = false)
    (running : pipeline.worker.isRunning = true) :
    pipeline.stop =
      { pipeline with
        isStopped := true
        worker := ⟨pipeline.stopping.drain.1, false⟩ }.play pipeline.stopping.drain.2 := by
  have isRunning : ({ pipeline with isStopped := true }.withSessions
      pipeline.sessions.stopAll).worker.isRunning = true := running
  have settled : ((({ pipeline with isStopped := true }.withSessions
      pipeline.sessions.stopAll).worker.send .stop).1.settle) =
        (⟨pipeline.stopping.drain.1, true⟩, pipeline.stopping.drain.2) := by
    rw [← running]
    rfl
  unfold stop DecodeWorker.stop
  rw [going, if_neg Bool.false_ne_true]
  dsimp only
  rw [if_pos isRunning, settled]
  rfl

/-- A stop comes behind all that is on its way. -/
theorem Tracks.drain_stopping (tracks : Tracks course pipeline) (going : course.isOver = false) :
    pipeline.stopping.drain =
        (((pipeline.stopping.process pipeline.loop.queue.pending).1.withPending []).finish,
          (pipeline.stopping.process pipeline.loop.queue.pending).2) ∧
      pipeline.stopping.misses (pipeline.stopping.queue.pending.length + 1) =
        pipeline.stopping.missed pipeline.loop.queue.pending := by
  have receiving : pipeline.loop.queue.receiving = true := by
    rw [tracks.receiving, going]
    rfl
  have stopping := stopping_eq receiving
  have onItsWay : pipeline.stopping.queue.pending =
      pipeline.loop.queue.pending ++ [IngestEvent.stop] := by
    rw [stopping]
    rfl
  have stillReceiving : pipeline.stopping.queue.receiving = true := by
    rw [stopping]
    exact receiving
  -- One step for each event, one for the stop, and one that finds the loop ended.
  have count : pipeline.stopping.queue.pending.length + 1 =
      pipeline.loop.queue.pending.length + 2 := by
    rw [onItsWay, List.length_append, List.length_singleton]
  rw [DecodeLoop.drain, count]
  exact DecodeLoop.steps_of_stop stillReceiving tracks.stop_not_mem_pending onItsWay

private theorem Tracks.sameWork_stopping (tracks : Tracks course pipeline)
    (going : course.isOver = false) : course.worked.1.SameWork pipeline.stopping :=
  ⟨(tracks.sameWork going).slot, (tracks.sameWork going).undecoded,
    (tracks.sameWork going).decodeErrors⟩

theorem sameStreams_stopping (pipeline : Pipeline) (events : List IngestEvent) :
    pipeline.sessions.SameStreams (pipeline.stopping.process events).1.sessions :=
  (SessionTable.sameStreams_stopAll pipeline.sessions).trans
    (DecodeLoop.sameStreams_process events pipeline.stopping)

private theorem Tracks.stop_of_going (tracks : Tracks course pipeline)
    (going : course.isOver = false) :
    pipeline.missed (.request .stop) = course.worked.1.missed pipeline.loop.queue.pending ∧
      Tracks { course.work pipeline.loop.queue.pending with isOver := true } pipeline.stop := by
  have isGoing := tracks.stopped.trans going
  have same := tracks.sameWork_stopping going
  obtain ⟨drain, misses⟩ := tracks.drain_stopping going
  obtain ⟨works, samePictures⟩ := same.process pipeline.loop.queue.pending
  have sameQueue := DecodeLoop.queue_process _ tracks.stop_not_mem_pending pipeline.stopping
  have streams := sameStreams_stopping pipeline pipeline.loop.queue.pending
  have worked := course.worked_work pipeline.loop.queue.pending
  refine ⟨?_, ?_⟩
  · rw [Pipeline.missed, isGoing, if_neg Bool.false_ne_true, misses, same.missed]
  · rw [stop_eq isGoing (tracks.running.trans (by rw [going]; rfl)), drain]
    refine
      { inlineDecoder := tracks.inlineDecoder
        drops := tracks.drops
        stopped := rfl
        running := rfl
        receiving := rfl
        sender := ?_
        opened := streams.size.trans tracks.opened
        handles := tracks.handles
        loaded := tracks.loaded
        fits := ?_
        sent := ?_
        works := ?_
        missed := tracks.missed_work _
        enqueued := tracks.enqueued
        refused := tracks.refused
        delivered := ?_ }
    · change ((pipeline.stopping.process _).1).queue.senders.isEmpty = false
      rw [sameQueue, stopping_eq (tracks.receiving.trans (by rw [going]; rfl))]
      exact tracks.sender
    · intro handle session found
      obtain ⟨before, foundBefore, sameStream⟩ := streams.streams handle session found
      exact (tracks.fits handle before foundBefore).of_sameStream sameStream
    · change (course.done ++ pipeline.loop.queue.pending) ++ [] = course.sent
      rw [List.append_nil]
      exact tracks.sent
    · change DecodeLoop.SameWork (if true = true then (course.work _).worked.1.finish else _) _
      rw [if_pos rfl, worked]
      exact ⟨congrArg (fun slot => slot.destroy.1) works.slot, works.undecoded, works.decodeErrors⟩
    · rw [delivered_play, samePictures]
      change pipeline.playout.delivered + _ = (course.work _).worked.2.length + _
      rw [worked, tracks.delivered, List.length_append, Nat.add_right_comm]
      rfl

/-! ### The whole run -/

structure Course.Continues (course next : Course) (pipeline : Pipeline) (turn : Turn) : Prop where
  engine : next.engine = course.engine
  inlineDecoder : next.inlineDecoder = course.inlineDecoder
  drops : next.drops = course.drops
  emissions : next.emissions = course.emissions ++ pipeline.emitted turn
  unknown : next.unknown = course.unknown ++ pipeline.unknownData turn
  missed : next.missed = course.missed ++ pipeline.missed turn

/-- Most turns show emissions at most. -/
private theorem Course.continues_emit {turn : Turn} {emissions : List Emission}
    (emits : pipeline.emitted turn = emissions) (known : pipeline.unknownData turn = [])
    (lossless : pipeline.missed turn = []) :
    course.Continues (course.emit emissions) pipeline turn := by
  refine ⟨rfl, rfl, rfl, ?_, ?_, ?_⟩
  · rw [emits]
    rfl
  · rw [known, List.append_nil]
    rfl
  · rw [lossless, List.append_nil]
    rfl

theorem Course.continues_self {turn : Turn} (silent : pipeline.emitted turn = [])
    (known : pipeline.unknownData turn = []) (lossless : pipeline.missed turn = []) :
    course.Continues course pipeline turn := by
  have continues := course.continues_emit silent known lossless
  rwa [Course.emit_nil] at continues

theorem Tracks.work (tracks : Tracks course pipeline) (count : Nat) :
    ∃ next, Tracks next (pipeline.work count) ∧ course.Continues next pipeline (.work count) := by
  cases going : course.isOver with
  | true =>
      have ended : pipeline.loop.queue.receiving = false := by
        rw [tracks.receiving, going]
        rfl
      obtain ⟨unchanged, nothing⟩ := work_of_not_receiving ended count
      rw [unchanged]
      exact ⟨course, tracks, Course.continues_self rfl rfl nothing⟩
  | false =>
      obtain ⟨misses, next⟩ := tracks.work_of_going going count
      refine ⟨_, next, rfl, rfl, rfl, (List.append_nil _).symm, (List.append_nil _).symm, ?_⟩
      rw [Pipeline.missed, misses]
      rfl

theorem Tracks.stop (tracks : Tracks course pipeline) :
    ∃ next, Tracks next pipeline.stop ∧ course.Continues next pipeline (.request .stop) := by
  cases going : course.isOver with
  | true =>
      have isStopped := tracks.stopped.trans going
      have unchanged : pipeline.stop = pipeline := if_pos isStopped
      rw [unchanged]
      exact ⟨course, tracks, Course.continues_self rfl rfl (if_pos isStopped)⟩
  | false =>
      obtain ⟨misses, next⟩ := tracks.stop_of_going going
      refine ⟨_, next, rfl, rfl, rfl, (List.append_nil _).symm, (List.append_nil _).symm, ?_⟩
      rw [misses]
      rfl

theorem Tracks.turn (tracks : Tracks course pipeline) (turn : Turn) :
    ∃ next, Tracks next (pipeline.turn turn) ∧ course.Continues next pipeline turn := by
  cases turn with
  | work count => exact tracks.work count
  | request request =>
      cases request with
      | openSession id media codecName description =>
          obtain ⟨opened, next⟩ := tracks.openSession id media codecName description
          exact ⟨_, next, rfl, rfl, rfl, rfl, (List.append_nil _).symm, (List.append_nil _).symm⟩
      | newSession id media codecName description =>
          obtain ⟨opened, next⟩ := tracks.openSession id media codecName description
          exact ⟨_, next, rfl, rfl, rfl, rfl, (List.append_nil _).symm, (List.append_nil _).symm⟩
      | push id chunk timestamp =>
          exact ⟨_, tracks.push id chunk timestamp, Course.continues_emit rfl rfl rfl⟩
      | data id chunk time =>
          exact ⟨_, tracks.data id chunk time, rfl, rfl, rfl, rfl, rfl, (List.append_nil _).symm⟩
      | closeSession id =>
          exact ⟨course, tracks.closeSession id, Course.continues_self rfl rfl rfl⟩
      | addSink sink wants =>
          exact ⟨course, tracks.withAudience (.add sink wants), Course.continues_self rfl rfl rfl⟩
      | removeSink sink =>
          exact ⟨course, tracks.withAudience (.remove sink), Course.continues_self rfl rfl rfl⟩
      | stop => exact tracks.stop

def Course.beginning (run : PipelineRun) : Course where
  engine := run.engine.unused
  inlineDecoder := run.inlineDecoder
  drops := run.drops
  opened := 0
  emissions := []
  unknown := []
  done := []
  missed := []
  isOver := false

theorem tracks_first (run : PipelineRun) : Tracks (.beginning run) run.first where
  inlineDecoder := rfl
  drops := rfl
  stopped := rfl
  running := rfl
  receiving := rfl
  sender := rfl
  opened := rfl
  handles := fun _ member => nomatch member
  loaded := fun _ member => nomatch member
  fits := by
    intro handle session found
    have impossible : (#[] : Array Session)[handle]? = some session := found
    simp at impossible
  sent := rfl
  works := ⟨rfl, rfl, rfl⟩
  missed := rfl
  enqueued := rfl
  refused := fun _ => rfl
  delivered := rfl

end Pipeline

structure PipelineRun.Takes (run : PipelineRun) (course : Pipeline.Course) : Prop where
  engine : course.engine = run.engine.unused
  inlineDecoder : course.inlineDecoder = run.inlineDecoder
  drops : course.drops = run.drops
  emissions : course.emissions = run.emissions
  unknown : course.unknown = run.unknownData
  missed : course.missed = run.missed

theorem PipelineRun.exists_course (run : PipelineRun) :
    ∃ course, Pipeline.Tracks course run.last ∧ run.Takes course := by
  induction run using PipelineRun.turn_induction with
  | first run none =>
      have nothing {α : Type} (shows : Pipeline → Turn → List α) :
          Pipeline.along shows run.first run.turns = [] := by
        rw [none]
        rfl
      refine ⟨.beginning run, ?_, rfl, rfl, rfl, (nothing _).symm, (nothing _).symm,
        (nothing _).symm⟩
      rw [PipelineRun.last, none]
      exact Pipeline.tracks_first run
  | next run turn ih =>
      obtain ⟨course, tracks, takes⟩ := ih
      obtain ⟨next, nextTracks, continues⟩ := tracks.turn turn
      refine ⟨next, ?_, continues.engine.trans takes.engine,
        continues.inlineDecoder.trans takes.inlineDecoder, continues.drops.trans takes.drops,
        ?_, ?_, ?_⟩
      · rwa [PipelineRun.last_andThen]
      · rw [continues.emissions, takes.emissions]
        exact (run.along_andThen _ turn).symm
      · rw [continues.unknown, takes.unknown]
        exact (run.along_andThen _ turn).symm
      · rw [continues.missed, takes.missed]
        exact (run.along_andThen _ turn).symm

end VideoIngest
