import VideoIngest.Proofs.DecodeLoop.Tally
import VideoIngest.Proofs.Pipeline.Run

/-!
The counters of a pipeline, held against what the assemblers have returned and what the engine was
asked: every frame is counted once, wherever it ends.
-/

namespace VideoIngest

private theorem hasData_of_mem_sentFor {drops : Bool} {emissions : List Emission}
    (loaded : ∀ emission ∈ emissions, emission.item.HasData) {event : IngestEvent}
    (member : event ∈ sentFor drops emissions) : event.HasData := by
  induction emissions using List.reverseRecOn with
  | nil => cases member
  | append_singleton emissions emission ih =>
      rw [sentFor_append_singleton] at member
      rcases List.mem_append.mp member with earlier | last
      · exact ih (fun other inFront => loaded other (List.mem_append_left _ inFront)) earlier
      · have hasData := loaded emission (List.mem_append_right _ List.mem_cons_self)
        have sent : emission.event? drops emissions = some event := Option.mem_toList.mp last
        unfold Emission.event? at sent
        cases item : emission.item with
        | format announced =>
            rw [item, MediaItem.event?] at sent
            obtain rfl := Option.some.inj sent
            trivial
        | frame coded =>
            rw [item] at hasData
            rw [item, MediaItem.event?] at sent
            split at sent
            · cases sent
            · obtain rfl := Option.some.inj sent
              exact hasData
        | picture picture =>
            rw [item, MediaItem.event?] at sent
            cases sent

/-- A chunk that is no JPEG image may be refused for many reasons, but not for want of a session. -/
private theorem InlineDecoder.blamesNoSession_jpeg : InlineDecoder.jpeg.BlamesNoSession := by
  intro chunk width height id blamed
  unfold jpeg at blamed
  split at blamed
  · cases blamed
  · split at blamed
    · cases blamed
    · split at blamed
      · cases blamed
      · cases blamed

namespace Pipeline

variable {course : Course} {pipeline : Pipeline}

theorem Tracks.tallies (tracks : Tracks course pipeline) {engine : Engine}
    (unused : course.engine = engine.unused) :
    course.worked.1.Tallies engine course.done course.missed course.worked.2.length := by
  have loaded : ∀ event ∈ course.done, event.HasData := fun event member =>
    hasData_of_mem_sentFor tracks.loaded (tracks.done_subset member)
  have tallies := DecodeLoop.tallies_process engine tracks.stop_not_mem_done loaded
  rw [← unused, ← tracks.missed] at tallies
  exact tallies

/-- The end of a loop makes no difference to what it has counted. -/
theorem Tracks.counts (tracks : Tracks course pipeline) :
    pipeline.loop.undecoded = course.worked.1.undecoded ∧
      pipeline.loop.decodeErrors = course.worked.1.decodeErrors ∧
      pipeline.loop.slot.created = course.worked.1.slot.created := by
  rw [tracks.works.slot, tracks.works.undecoded, tracks.works.decodeErrors]
  cases course.isOver with
  | false => exact ⟨rfl, rfl, rfl⟩
  | true => exact ⟨rfl, rfl, DecoderSlot.created_destroy _⟩

theorem Tracks.countP_calls (tracks : Tracks course pipeline) {isOf : EngineEvent → Bool}
    (others : ∀ format, isOf (.destroy format) = false) :
    pipeline.engine.calls.countP isOf = course.worked.1.slot.engine.calls.countP isOf := by
  rw [Pipeline.engine, tracks.works.slot]
  cases course.isOver with
  | false => rfl
  | true => exact DecoderSlot.countP_destroy others _

end Pipeline

namespace PipelineRun

/-- The counts at any moment. The frames that were sent and not worked on yet are on neither side of
the counters. -/
theorem frames_on_their_way (run : PipelineRun) (blameless : run.inlineDecoder.BlamesNoSession) :
    run.last.stats.enqueued + run.refused.length + run.unknownData.length +
        run.inlinePictures.length =
      run.last.stats.delivered + run.last.stats.decodeErrors + run.last.stats.dropped +
        run.last.loop.queue.pending.countP IngestEvent.isFrame := by
  obtain ⟨course, tracks, takes⟩ := run.exists_course
  have tallies := tracks.tallies takes.engine
  obtain ⟨undecoded, decodeErrors, -⟩ := tracks.counts
  rw [← takes.inlineDecoder] at blameless
  have refused : run.last.refused = run.refused.length + run.unknownData.length := by
    rw [tracks.refused blameless, takes.unknown, takes.drops, takes.emissions]
    rfl
  have delivered : run.last.playout.delivered =
      course.worked.2.length + run.inlinePictures.length := by
    rw [tracks.delivered, takes.emissions]
    rfl
  have enqueued : run.last.enqueued = course.done.countP IngestEvent.isFrame +
      run.last.loop.queue.pending.countP IngestEvent.isFrame := by
    rw [tracks.enqueued, ← tracks.sent, List.countP_append]
  have failed := tallies.failed
  have lost := tallies.undecoded
  have frames := tallies.frames
  rw [Pipeline.stats_eq]
  dsimp only
  omega

/-- Whatever sessions, engine, sinks and turns a run has, its counters are right whenever nothing is
on its way. Each frame, each chunk of an unknown session and each picture decoded in place is
counted once. Each frame that was sent was decoded, refused by the engine or lost for want of a
decoder. The decoders that count are those that were created and could be configured. No assembler
returns a frame without data, which nothing would count. -/
theorem every_frame_counted (run : PipelineRun) (blameless : run.inlineDecoder.BlamesNoSession)
    (drained : run.last.loop.queue.pending = []) :
    run.last.stats.enqueued + run.refused.length + run.unknownData.length +
        run.inlinePictures.length =
      run.last.stats.delivered + run.last.stats.decodeErrors + run.last.stats.dropped ∧
    run.last.stats.enqueued =
      Engine.granted run.engine.decodeResults
          (run.last.engine.calls.countP EngineEvent.isDecode) +
        run.last.stats.decodeErrors + run.missed.length ∧
    run.last.engine.calls.countP EngineEvent.isCreate =
      run.last.engine.calls.countP EngineEvent.isConfigure ∧
    run.last.stats.decoders =
      Engine.granted run.engine.configureResults
        (run.last.engine.calls.countP EngineEvent.isConfigure) ∧
    ∀ emission ∈ run.emissions, emission.item.HasData := by
  obtain ⟨course, tracks, takes⟩ := run.exists_course
  have tallies := tracks.tallies takes.engine
  obtain ⟨-, decodeErrors, created⟩ := tracks.counts
  have balance := run.frames_on_their_way blameless
  rw [drained, List.countP_nil, Nat.add_zero] at balance
  refine ⟨balance, ?_, ?_, ?_, ?_⟩
  · have enqueued : run.last.enqueued = course.done.countP IngestEvent.isFrame := by
      rw [tracks.enqueued, ← tracks.sent, drained, List.append_nil]
    have decodeCalls : run.last.engine.calls.countP EngineEvent.isDecode =
        course.worked.1.slot.decodeCalls := tracks.countP_calls fun _ => rfl
    have decoded := tallies.decoded
    have failed := tallies.failed
    have frames := tallies.frames
    rw [Pipeline.stats_eq, decodeCalls, ← takes.missed]
    dsimp only
    omega
  · rw [tracks.countP_calls fun _ => rfl, tracks.countP_calls fun _ => rfl]
    exact tallies.script.configured
  · rw [Pipeline.stats_eq, tracks.countP_calls fun _ => rfl]
    exact created.trans tallies.script.created
  · rw [← takes.emissions]
    exact tracks.loaded

/-- A frame before any format, one behind a later one, data of no session, and an engine that fails
at its second frame. -/
def lossyHall : PipelineRun where
  config := .standard
  inlineDecoder := .jpeg
  engine :=
    { Engine.passthrough with
      toleratesRegression := false
      decodeResults := [.ok (), .error .noDecoder] }
  audience := .empty
  turns :=
    [.request (.openSession "hall" "video" "H264" ""),
      .request (.push "hall" [0, 0, 1, 0x41, 1] 0),
      .request (.push "hall" [0, 0, 1, 0x67, 0x42, 0xc0, 0x1f, 0xf4, 0x02, 0x80, 0x2d, 0xc8] 0),
      .request (.push "hall" [0, 0, 1, 0x41, 2] 20),
      .work 2,
      .request (.push "hall" [0, 0, 1, 0x41, 3] 10),
      .request (.data "door" [0x82] ⟨1, 0, false⟩),
      .request (.push "hall" [0, 0, 1, 0x41, 4] 30),
      .request .stop]

theorem lossy_hall_counted :
    lossyHall.last.loop.queue.pending = [] ∧ lossyHall.last.stats = ⟨3, 3, 1, 1, 1⟩ ∧
      lossyHall.last.stats.enqueued + lossyHall.refused.length + lossyHall.unknownData.length +
          lossyHall.inlinePictures.length =
        lossyHall.last.stats.delivered + lossyHall.last.stats.decodeErrors +
          lossyHall.last.stats.dropped := by
  have drained : lossyHall.last.loop.queue.pending = [] := by decide +kernel
  have counted := lossyHall.every_frame_counted InlineDecoder.blamesNoSession_jpeg drained
  exact ⟨drained, by decide +kernel, counted.1⟩

end PipelineRun
end VideoIngest
