import VideoIngest.Proofs.Pipeline.OneIdentifier

/-!
The state of a session and the decoder, whenever the decode loop has nothing left to do.
-/

namespace VideoIngest.Pipeline

variable {pipeline : Pipeline} {id : String} {old new : List Emission} {course : Course}

/-- What a request adds to the course of a pipeline before the decode loop gets to it. -/
structure Course.Accepts (course next : Course) (emissions : List Emission) : Prop where
  engine : next.engine = course.engine
  drops : next.drops = course.drops
  isOver : next.isOver = course.isOver
  done : next.done = course.done
  emissions : next.emissions = course.emissions ++ emissions

private theorem Course.accepts_emit (emissions : List Emission) (course : Course) :
    course.Accepts (course.emit emissions) emissions := ⟨rfl, rfl, rfl, rfl, rfl⟩

theorem Course.accepts_nil (course : Course) : course.Accepts course [] :=
  ⟨rfl, rfl, rfl, rfl, (List.append_nil _).symm⟩

private theorem Tracks.answer (tracks : Tracks course pipeline) {request : Request}
    (isFor : request.IsFor id) :
    ∃ next, Tracks next (pipeline.answer request).1 ∧
      course.Accepts next (pipeline.emitted (.request request)) := by
  cases request with
  | openSession other media codecName description =>
      obtain ⟨opened, next⟩ := tracks.openSession other media codecName description
      exact ⟨_, next, rfl, rfl, rfl, rfl, rfl⟩
  | newSession other media codecName description =>
      obtain ⟨opened, next⟩ := tracks.openSession other media codecName description
      exact ⟨_, next, rfl, rfl, rfl, rfl, rfl⟩
  | push other chunk timestamp =>
      exact ⟨_, tracks.push other chunk timestamp, course.accepts_emit _⟩
  | data other chunk time =>
      exact ⟨_, tracks.data other chunk time, rfl, rfl, rfl, rfl, rfl⟩
  | closeSession other => exact ⟨course, tracks.closeSession other, course.accepts_nil⟩
  | addSink sink wants => exact ⟨course, tracks.withAudience (.add sink wants), course.accepts_nil⟩
  | removeSink sink => exact ⟨course, tracks.withAudience (.remove sink), course.accepts_nil⟩
  | stop => exact absurd isFor not_false

/-- A pipeline at rest: it has taken this course, and nothing is on its way. -/
structure Rests (id : String) (course : Course) (pipeline : Pipeline) : Prop where
  tracks : Tracks course pipeline
  going : course.isOver = false
  idle : pipeline.loop.queue.pending = []
  attends : AttendsTo id course.emissions [] pipeline.loop

private theorem Rests.done_eq_sent (rests : Rests id course pipeline) :
    course.done = course.sent := by
  have sent := rests.tracks.sent
  rwa [rests.idle, List.append_nil] at sent

theorem Tracks.loop_work (tracks : Tracks course pipeline) (going : course.isOver = false)
    (count : Nat) :
    (pipeline.work count).loop =
      (pipeline.loop.process (pipeline.loop.queue.pending.take count)).1.withPending
        (pipeline.loop.queue.pending.drop count) := by
  have receiving : pipeline.loop.queue.receiving = true := by
    rw [tracks.receiving, going]
    rfl
  have stepped := DecodeLoop.steps_eq_process count pipeline.loop receiving tracks.sender
    tracks.stop_not_mem_pending
  unfold Pipeline.work
  rw [stepped]
  rfl

/-- Once a pipeline has settled, everything that was on its way has been worked on. -/
theorem Tracks.settled (tracks : Tracks course pipeline) (going : course.isOver = false) :
    Tracks (course.work pipeline.loop.queue.pending) pipeline.settle ∧
      pipeline.settle.loop =
        (pipeline.loop.process pipeline.loop.queue.pending).1.withPending [] := by
  have all : pipeline.loop.queue.pending.take (pipeline.loop.queue.pending.length + 1) =
      pipeline.loop.queue.pending := List.take_of_length_le (Nat.le_succ _)
  have none : pipeline.loop.queue.pending.drop (pipeline.loop.queue.pending.length + 1) = [] :=
    List.drop_of_length_le (Nat.le_succ _)
  obtain ⟨_, worked⟩ := tracks.work_of_going going (pipeline.loop.queue.pending.length + 1)
  have loop := tracks.loop_work going (pipeline.loop.queue.pending.length + 1)
  rw [all] at worked
  rw [all, none] at loop
  exact ⟨worked, loop⟩

private theorem Tracks.settle {new : List Emission} (tracks : Tracks course pipeline)
    (going : course.isOver = false) (emissions : course.emissions = old ++ new)
    (done : course.done = sentFor course.drops old) (attends : AttendsTo id old new pipeline.loop) :
    Rests id (course.work pipeline.loop.queue.pending) pipeline.settle := by
  obtain ⟨worked, loop⟩ := tracks.settled going
  refine ⟨worked, going, ?_, ?_⟩
  · rw [loop]
    rfl
  · have sent : sentFor course.drops old ++ pipeline.loop.queue.pending =
        sentFor course.drops (old ++ new) := by
      rw [← done, tracks.sent, Course.sent, emissions]
    have next := attends.process sent
    change AttendsTo id course.emissions [] _
    rw [loop, emissions]
    exact next.sameStates ⟨rfl, .refl _⟩

/-! ### Requests one after another -/

def performed (pipeline : Pipeline) : List Request → List Emission
  | [] => []
  | request :: rest =>
      pipeline.emitted (.request request) ++ performed (pipeline.perform request).1 rest

theorem performed_append_singleton (pipeline : Pipeline) (requests : List Request)
    (request : Request) :
    pipeline.performed (requests ++ [request]) =
      pipeline.performed requests ++ (pipeline.run requests).emitted (.request request) := by
  induction requests generalizing pipeline with
  | nil => exact List.append_nil _
  | cons first rest ih =>
      rw [List.cons_append, performed, ih, performed, List.append_assoc]
      rfl

theorem Rests.perform (rests : Rests id course pipeline) {request : Request}
    (isFor : request.IsFor id) :
    ∃ next, Rests id next (pipeline.perform request).1 ∧ next.engine = course.engine ∧
      next.emissions = course.emissions ++ pipeline.emitted (.request request) := by
  obtain ⟨next, tracks, accepts⟩ := rests.tracks.answer isFor
  have handles : ∀ emission ∈ course.emissions,
      emission.handle < pipeline.sessions.sessions.size := by
    rw [rests.tracks.opened]
    exact rests.tracks.handles
  have done : next.done = sentFor next.drops course.emissions := by
    rw [accepts.done, accepts.drops, rests.done_eq_sent]
    rfl
  have settled := tracks.settle (accepts.isOver.trans rests.going) accepts.emissions done
    (rests.attends.answer handles isFor)
  exact ⟨_, settled, accepts.engine, accepts.emissions⟩

private theorem exists_rests (config : PipelineConfig) (inlineDecoder : InlineDecoder)
    (engine : Engine) (audience : Audience) {requests : List Request}
    (single : ∀ request ∈ requests, request.IsFor id) :
    ∃ course,
      Rests id course ((start config inlineDecoder engine.unused audience).run requests) ∧
        course.engine = engine.unused ∧
        course.emissions =
          (start config inlineDecoder engine.unused audience).performed requests := by
  induction requests using List.reverseRecOn with
  | nil =>
      exact ⟨_, ⟨tracks_first ⟨config, inlineDecoder, engine, audience, []⟩, rfl, rfl,
        attendsTo_empty rfl⟩, rfl, rfl⟩
  | append_singleton requests request ih =>
      obtain ⟨course, rests, engine, emissions⟩ :=
        ih fun other member => single other (List.mem_append_left _ member)
      obtain ⟨next, performed, sameEngine, further⟩ :=
        rests.perform (single request (List.mem_append_right _ List.mem_cons_self))
      refine ⟨next, ?_, sameEngine.trans engine, ?_⟩
      · unfold run
        rw [List.foldl_concat]
        exact performed
      · rw [further, emissions, performed_append_singleton]

/-! ### What the state tells -/

/-- The last format that could be acted on of those announced under this identifier, by whatever
session. -/
def announcedUnder (id : String) (emissions : List Emission) : Option VideoFormat :=
  History.latest? (fun emission => if emission.id = id then emission.item.actionable? else none)
    emissions

private theorem announcedUnder_eq_sharedFormat {emissions : List Emission} (handle : Nat)
    (ids : ∀ emission ∈ emissions, emission.id = id) :
    announcedUnder id emissions = sharedFormat emissions handle := by
  unfold announcedUnder sharedFormat History.latest?
  apply congrArg
  apply List.filterMap_congr
  intro emission member
  rw [if_pos (ids emission member)]

private theorem exists_emission_of_ownFormat {emissions : List Emission} {handle : Nat}
    {format : VideoFormat} (announced : ownFormat emissions handle = some format) :
    ∃ emission ∈ emissions, emission.handle = handle ∧ emission.item = .format format := by
  obtain ⟨item, inItems, isActionable⟩ := History.exists_mem_of_latest? announced
  obtain ⟨emission, member, rfl⟩ := List.mem_map.mp inItems
  obtain ⟨inEmissions, own⟩ := List.mem_filter.mp member
  refine ⟨emission, inEmissions, of_decide_eq_true own, ?_⟩
  unfold MediaItem.actionable? at isActionable
  cases item : emission.item with
  | format other =>
      rw [item] at isActionable
      obtain ⟨_, same⟩ := Option.ite_none_right_eq_some.mp isActionable
      exact congrArg _ (Option.some.inj same)
  | frame coded =>
      rw [item] at isActionable
      cases isActionable
  | picture picture =>
      rw [item] at isActionable
      cases isActionable

private theorem Rests.creates {engine : Engine} (rests : Rests id course pipeline)
    (unused : course.engine = engine.unused) : pipeline.loop.slot.Creates course.sent := by
  have fresh : (DecodeLoop.start course.engine .empty).slot.Creates [] := by
    rw [unused]
    exact DecoderSlot.creates_empty rfl
  have worked : course.worked.1.slot.Creates course.sent := by
    unfold Course.worked
    rw [rests.done_eq_sent]
    exact DecodeLoop.slot_process
      (fun _ _ session format creates => creates.formatChange session format)
      (fun _ _ frame creates => creates.frame frame) (fun _ _ frame creates => creates.skip frame)
      (stop_not_mem_sentFor _) fresh
  rw [(rests.tracks.sameWork rests.going).slot]
  exact worked

/-- The last announcement of the present session is the last one that the decode loop knows of. -/
private theorem Rests.lastActionable_sent {handle : Nat} {format : VideoFormat}
    (rests : Rests id course pipeline) (bound : pipeline.sessions.handle? id = some handle)
    (announced : ownFormat course.emissions handle = some format) :
    lastActionable course.sent = some format := by
  unfold Course.sent
  rw [lastActionable_sentFor _ _ handle]
  exact rests.attends.own handle bound format announced

private theorem Rests.of_decoding {engine : Engine} (rests : Rests id course pipeline)
    (unused : course.engine = engine.unused)
    (isDecoding : pipeline.sessions.state? id = some .decoding) :
    ∃ session format, pipeline.sessions.get? id = some session ∧
      announcedUnder id course.emissions = some format ∧
      pipeline.loop.slot.activeFormat = some format ∧ format.codec = session.codec := by
  obtain ⟨session, found, decodes⟩ := Option.map_eq_some_iff.mp isDecoding
  obtain ⟨handle, bound, atHandle⟩ := Option.bind_eq_some_iff.mp found
  obtain ⟨_, same, sameFound, due⟩ := rests.attends.shows handle bound
  obtain rfl := Option.some.inj (sameFound.symm.trans atHandle)
  rw [decodes] at due
  obtain ⟨announces, isLive⟩ := due
  obtain ⟨format, announced⟩ := Option.isSome_iff_exists.mp announces
  have areOf := rests.attends.areOf
  rw [List.append_nil] at areOf
  refine ⟨same, format, found, ?_, ?_, ?_⟩
  · rw [announcedUnder_eq_sharedFormat handle areOf.ids]
    exact rests.attends.own handle bound format announced
  · rcases (rests.creates unused).follows.active with absent | ⟨latest, isLatest, live⟩
    · rw [absent] at isLive
      contradiction
    · rw [rests.lastActionable_sent bound announced] at isLatest
      obtain rfl := Option.some.inj isLatest
      rw [DecoderSlot.activeFormat, live]
      rfl
  · obtain ⟨emission, member, rfl, item⟩ := exists_emission_of_ownFormat announced
    have codec := areOf.codecs emission member format item
    rw [SessionTable.codec?, sameFound] at codec
    exact (Option.some.inj codec).symm

private theorem Rests.of_announced {engine : Engine} {handle : Nat}
    (rests : Rests id course pipeline)
    (unused : course.engine = engine.unused) (bound : pipeline.sessions.handle? id = some handle)
    (announces : (ownFormat course.emissions handle).isSome = true) :
    pipeline.sessions.state? id = some (.afterAttempt pipeline.loop.slot.active.isSome) ∧
      lastCreation? pipeline.engine.calls = some pipeline.loop.slot.active.isSome := by
  constructor
  · obtain ⟨_, session, found, due⟩ := rests.attends.shows handle bound
    rw [announces] at due
    unfold SessionTable.state? SessionTable.get?
    rw [bound, Option.bind_some, show pipeline.sessions.session? handle = _ from found,
      Option.map_some, due.eq_afterAttempt]
  · obtain ⟨format, announced⟩ := Option.isSome_iff_exists.mp announces
    have creation := (rests.creates unused).last
    rw [rests.lastActionable_sent bound announced] at creation
    exact creation

/-- In every run of one identifier with codecs for the decode engine, whenever the decode loop has
nothing left to do: a session that says it is decoding has a decoder, which is for the last format
that could be acted on, and that format is in the codec that the session has now. From its first
such format on, a session is decoding if a decoder is live, and awaits a format if the last creation
failed. There is nothing besides the two. -/
theorem session_state_tells_decoder (config : PipelineConfig) (inlineDecoder : InlineDecoder)
    (engine : Engine) (audience : Audience) {id : String} {requests : List Request}
    (single : ∀ request ∈ requests, request.IsFor id) :
    let first := start config inlineDecoder engine.unused audience
    let last := first.run requests
    (last.sessions.state? id = some .decoding →
      ∃ session format, last.sessions.get? id = some session ∧
        announcedUnder id (first.performed requests) = some format ∧
        last.loop.slot.activeFormat = some format ∧ format.codec = session.codec) ∧
      ∀ handle, last.sessions.handle? id = some handle →
        (ownFormat (first.performed requests) handle).isSome = true →
        (last.loop.slot.active.isSome = true → last.sessions.state? id = some .decoding) ∧
          (lastCreation? last.engine.calls = some false →
            last.sessions.state? id = some .awaitingFormat) ∧
          lastCreation? last.engine.calls = some last.loop.slot.active.isSome := by
  intro first last
  obtain ⟨course, rests, unused, emissions⟩ :=
    exists_rests config inlineDecoder engine audience single
  rw [← emissions]
  refine ⟨rests.of_decoding unused, ?_⟩
  intro handle bound announces
  obtain ⟨state, creation⟩ := rests.of_announced unused bound announces
  rw [state]
  refine ⟨?_, ?_, creation⟩
  · intro isLive
    rw [isLive]
    rfl
  · intro failed
    rw [Option.some.inj (creation.symm.trans failed)]
    rfl

/-- The first decoder cannot be created. A second try succeeds, and then the camera comes back with
another codec. -/
def cameraRequests : List Request :=
  [.openSession "camera" "video" "H264" "",
    .push "camera" [0, 0, 1, 0x67, 0x42, 0xc0, 0x1f, 0xf4, 0x02, 0x80, 0x2d, 0xc8] 0,
    .push "camera" [0, 0, 1, 0x67, 0x42, 0xc0, 0x1f, 0xf4, 0x02, 0x80, 0x2d, 0xc8] 40,
    .newSession "camera" "video" "VP9" "",
    .data "camera" [0x82] ⟨1, 0, false⟩]

def reluctantEngine : Engine :=
  { Engine.passthrough with createResults := [.error (.init .h264 "busy")] }

def cameraStart : Pipeline := start .standard .jpeg reluctantEngine.unused .empty

theorem camera_waits_then_decodes :
    (∀ request ∈ cameraRequests, request.IsFor "camera") ∧
      (cameraStart.run (cameraRequests.take 2)).sessions.state? "camera" = some .awaitingFormat ∧
      (cameraStart.run cameraRequests).sessions.state? "camera" = some .decoding ∧
      ∃ session format, (cameraStart.run cameraRequests).sessions.get? "camera" = some session ∧
        announcedUnder "camera" (cameraStart.performed cameraRequests) = some format ∧
        (cameraStart.run cameraRequests).loop.slot.activeFormat = some format ∧
        format.codec = session.codec := by
  have single : ∀ request ∈ cameraRequests, request.IsFor "camera" := by decide +kernel
  have begins : ∀ request ∈ cameraRequests.take 2, request.IsFor "camera" :=
    fun request member => single request (List.mem_of_mem_take member)
  have failing := (session_state_tells_decoder .standard .jpeg reluctantEngine .empty begins).2 0
    (by decide +kernel) (by decide +kernel)
  have decodes : (cameraStart.run cameraRequests).sessions.state? "camera" = some .decoding := by
    decide +kernel
  exact ⟨single, failing.2.1 (by decide +kernel), decodes,
    (session_state_tells_decoder .standard .jpeg reluctantEngine .empty single).1 decodes⟩

end VideoIngest.Pipeline
