import VideoIngest.Proofs.Fanout.Delivery
import VideoIngest.Proofs.Pipeline.Outside
import VideoIngest.Proofs.Pipeline.Run

/-!
JPEG sessions and the decode engine.

The pictures of a JPEG session are decoded where its chunks arrive. Neither the engine nor the
sessions of other identifiers can tell whether there are any, and the sinks have each picture before
its push returns.
-/

namespace VideoIngest

/-! ### Pictures at the sinks -/

/-- One picture has been delivered, to the sinks that were registered then. -/
structure Playout.Delivers (picture : Picture) (before after : Playout) : Prop where
  received : after.audience.received.toList =
    before.audience.received.toList ++ before.audience.fanout.sinks.map fun sink => (sink, picture)
  delivered : after.delivered = before.delivered + 1

theorem Playout.delivers_decoded (picture : Picture) (playout : Playout) :
    Delivers picture playout (playout.decoded picture) :=
  ⟨Audience.received_foldl_call picture _ _, rfl⟩

/-! ### Chunks of a JPEG session -/

theorem Assembler.exists_of_codec_eq_jpeg {assembler : Assembler}
    (isJpeg : assembler.codec = .jpeg) : ∃ decoder, assembler = jpeg decoder := by
  cases assembler with
  | nal codec kept => cases codec <;> cases isJpeg
  | vp9 => cases isJpeg
  | jpeg decoder => exact ⟨decoder, rfl⟩

namespace Pipeline

variable {isInline : String → Bool} {pipeline other : Pipeline} {id : String} {handle : Nat}

def ingestJpeg (handle : Nat) (decoder : InlineDecoder) (chunk : Bytes) (timestamp : Nat)
    (pipeline : Pipeline) : Pipeline × Except IngestError Unit :=
  match Jpeg.dimensions chunk with
  | .error cause => (pipeline, .error (.parse cause))
  | .ok (width, height) =>
      match decoder chunk width height with
      | .error failure => (pipeline, .error failure)
      | .ok buffer =>
          ((pipeline.withSessions (pipeline.sessions.modify handle (Session.setState .decoding))).play
            [.ofBuffer buffer width height timestamp], .ok ())

private theorem ingest_eq_ingestJpeg {session : Session} {decoder : InlineDecoder}
    (found : pipeline.sessions.session? handle = some session)
    (isJpeg : session.assembler = .jpeg decoder) (id : String) (chunk : Bytes) (timestamp : Nat) :
    pipeline.ingest handle id chunk timestamp =
      pipeline.ingestJpeg handle decoder chunk timestamp := by
  have unmoved : (pipeline.sessions.modify handle fun _ =>
      { session with assembler := .jpeg decoder }) = pipeline.sessions := by
    rw [← isJpeg]
    exact SessionTable.modify_self found
  rw [ingest_of_session? found, isJpeg, Assembler.assemble_jpeg, ingestJpeg]
  cases Jpeg.dimensions chunk with
  | error cause => rfl
  | ok size =>
      obtain ⟨width, height⟩ := size
      dsimp only
      cases decoder chunk width height with
      | error failure => rfl
      | ok buffer =>
          dsimp only
          rw [unmoved]
          rfl

/-- The sinks have the picture of a chunk that was accepted, and none of one that was not. -/
def ShowsAtOnce (decoder : InlineDecoder) (chunk : Bytes) (timestamp : Nat) (before : Playout) :
    Pipeline × Except IngestError Unit → Prop
  | (after, .error _) => after.playout = before
  | (after, .ok ()) => ∃ width height buffer, Jpeg.dimensions chunk = .ok (width, height) ∧
      decoder chunk width height = .ok buffer ∧
      before.Delivers (.ofBuffer buffer width height timestamp) after.playout

private theorem showsAtOnce_ingestJpeg (handle : Nat) (decoder : InlineDecoder) (chunk : Bytes)
    (timestamp : Nat) (pipeline : Pipeline) :
    ShowsAtOnce decoder chunk timestamp pipeline.playout
      (pipeline.ingestJpeg handle decoder chunk timestamp) := by
  unfold ingestJpeg
  cases sizes : Jpeg.dimensions chunk with
  | error cause => rfl
  | ok size =>
      obtain ⟨width, height⟩ := size
      dsimp only
      cases decodes : decoder chunk width height with
      | error failure => rfl
      | ok buffer =>
          exact ⟨width, height, buffer, sizes, decodes, Playout.delivers_decoded _ _⟩

theorem push_eq_ingestJpeg {session : Session} {decoder : InlineDecoder}
    (going : pipeline.isStopped = false) (bound : pipeline.sessions.handle? id = some handle)
    (found : pipeline.sessions.session? handle = some session)
    (isJpeg : session.assembler = .jpeg decoder) (chunk : Bytes) (timestamp : Nat) :
    pipeline.push id chunk timestamp =
      (pipeline.touched handle).ingestJpeg handle decoder chunk timestamp := by
  have sameStream := session.sameStream_transition .codecKnown .awaitingFormat
  rw [push_of_handle?_eq_some going bound]
  exact ingest_eq_ingestJpeg (session?_touched found) (sameStream.1.trans isJpeg) id chunk timestamp

private theorem showsAtOnce_push {session : Session} {decoder : InlineDecoder}
    (found : pipeline.sessions.get? id = some session) (isJpeg : session.assembler = .jpeg decoder)
    (chunk : Bytes) (timestamp : Nat) :
    ShowsAtOnce decoder chunk timestamp pipeline.playout (pipeline.push id chunk timestamp) := by
  obtain ⟨handle, bound, foundThere⟩ := Option.bind_eq_some_iff.mp found
  cases going : pipeline.isStopped with
  | true =>
      rw [(push_of_isStopped going id chunk timestamp).1]
      rfl
  | false =>
      rw [push_eq_ingestJpeg going bound foundThere isJpeg]
      exact showsAtOnce_ingestJpeg handle decoder chunk timestamp (pipeline.touched handle)

private theorem onData_shows_push (id : String) (chunk : Bytes) (time : PresentationTime)
    (pipeline : Pipeline) :
    (pipeline.onData id chunk time).1.playout = (pipeline.push id chunk time.toMillis).1.playout ∧
      (pipeline.onData id chunk time).2 = isSuccess (pipeline.push id chunk time.toMillis).2 := by
  unfold onData
  rcases pipeline.push id chunk time.toMillis with ⟨next, failure | done⟩
  · cases failure <;> exact ⟨rfl, rfl⟩
  · exact ⟨rfl, rfl⟩

/-! ### Requests under a chosen identifier -/

private theorem SameOutside.modify_inline (same : pipeline.SameOutside isInline other)
    (inline : isInline id = true) (bound : pipeline.sessions.handle? id = some handle)
    {change : Session → Session}
    (keeps : ∀ session, pipeline.sessions.get? id = some session →
      (change session).id = session.id ∧ (change session).codec = session.codec) :
    (pipeline.withSessions (pipeline.sessions.modify handle change)).SameOutside isInline other :=
  same.withSessions (same.sessions.modify_inline inline bound keeps)

private theorem SameOutside.openSession_inline (same : pipeline.SameOutside isInline other)
    (inline : isInline id = true) (media : String) {codecName : String}
    (isJpeg : Codec.ofName? codecName = some .jpeg) (description : String) :
    (pipeline.openSession id media codecName description).1.SameOutside isInline other := by
  unfold Pipeline.openSession sessionCodec
  rw [isJpeg]
  split
  · exact same
  · split
    · exact same
    · rename_i codec known
      split at known
      · obtain rfl := Except.ok.inj known
        let session := Session.start id media (.ofCodec pipeline.inlineDecoder .jpeg)
        have inserted := same.sessions.changes_inline (same.sessions.labelled.insert session)
          inline fun _ isNew => Option.some.inj isNew ▸ rfl
        exact same.withSessions inserted
      · cases known

private theorem SameOutside.ingestJpeg_inline (same : pipeline.SameOutside isInline other)
    (inline : isInline id = true) (bound : pipeline.sessions.handle? id = some handle)
    (decoder : InlineDecoder) (chunk : Bytes) (timestamp : Nat) :
    (pipeline.ingestJpeg handle decoder chunk timestamp).1.SameOutside isInline other := by
  have decoding := same.modify_inline inline bound fun session _ =>
    ⟨Session.id_setState .decoding session, Session.codec_setState .decoding session⟩
  unfold ingestJpeg
  split
  · exact same
  · split
    · exact same
    · exact decoding.withOutput _ _ _ _

private theorem SameOutside.push_inline (same : pipeline.SameOutside isInline other)
    (inline : isInline id = true) (chunk : Bytes) (timestamp : Nat) :
    (pipeline.push id chunk timestamp).1.SameOutside isInline other := by
  cases going : pipeline.isStopped with
  | true =>
      rw [(push_of_isStopped going id chunk timestamp).1]
      exact same
  | false =>
      cases bound : pipeline.sessions.handle? id with
      | none =>
          rw [(push_of_handle?_eq_none going bound chunk timestamp).1]
          exact same
      | some handle =>
          obtain ⟨session, found, _⟩ := same.sessions.labelled id handle bound
          have get? := (SessionTable.get?_of_handle? bound).trans found
          obtain ⟨decoder, isJpeg⟩ :=
            Assembler.exists_of_codec_eq_jpeg (same.sessions.isJpeg id session inline get?)
          have touches : (pipeline.touched handle).SameOutside isInline other := by
            unfold touched
            rw [SessionTable.update_of_session? found]
            apply same.modify_inline inline bound
            intro before foundBefore
            obtain rfl := Option.some.inj (get?.symm.trans foundBefore)
            exact ⟨Session.id_transition _ _ _, Session.codec_transition _ _ _⟩
          rw [push_eq_ingestJpeg going bound found isJpeg]
          exact touches.ingestJpeg_inline inline ((SessionTable.handle?_congr
            (SessionTable.bindings_update handle _ _) id).trans bound) decoder chunk timestamp

private theorem SameOutside.onData_inline (same : pipeline.SameOutside isInline other)
    (inline : isInline id = true) (chunk : Bytes) (time : PresentationTime) :
    (pipeline.onData id chunk time).1.SameOutside isInline other := by
  have pushed := same.push_inline inline chunk time.toMillis
  rw [onData_fst]
  split
  · exact pushed.withOutput _ _ _ _
  · exact pushed

private theorem SameOutside.closeSession_inline (same : pipeline.SameOutside isInline other)
    (inline : isInline id = true) : (pipeline.closeSession id).SameOutside isInline other :=
  same.withSessions (same.sessions.changes_inline (same.sessions.labelled.remove id) inline
    fun _ => nofun)

end Pipeline

/-! ### Turns -/

namespace Turn

def id? : Turn → Option String
  | .request (.openSession id _ _ _) => some id
  | .request (.newSession id _ _ _) => some id
  | .request (.push id _ _) => some id
  | .request (.data id _ _) => some id
  | .request (.closeSession id) => some id
  | _ => none

def codecName? : Turn → Option String
  | .request (.openSession _ _ codecName _) => some codecName
  | .request (.newSession _ _ codecName _) => some codecName
  | _ => none

def isAbout (isInline : String → Bool) (turn : Turn) : Bool := turn.id?.any isInline

end Turn

namespace Pipeline

variable {isInline : String → Bool} {pipeline other : Pipeline}

def decoded (pipeline : Pipeline) : Turn → List Picture
  | .work count => (pipeline.loop.steps count).2
  | .request .stop => if pipeline.isStopped then [] else pipeline.halted.worker.stop.2
  | _ => []

theorem SameOutside.turn (same : pipeline.SameOutside isInline other) {turn : Turn}
    (visible : turn.isAbout isInline = false) :
    (pipeline.turn turn).SameOutside isInline (other.turn turn) ∧
      other.decoded turn = pipeline.decoded turn := by
  cases turn with
  | work count => exact ⟨same.work count, (same.worker.loop.steps count).2⟩
  | request request =>
      cases request with
      | openSession id media codecName description =>
          exact ⟨same.openSession visible media codecName description, rfl⟩
      | newSession id media codecName description =>
          exact ⟨same.openSession visible media codecName description, rfl⟩
      | push id chunk timestamp => exact ⟨(same.push visible chunk timestamp).2, rfl⟩
      | data id chunk time => exact ⟨same.onData visible chunk time, rfl⟩
      | closeSession id => exact ⟨same.closeSession id, rfl⟩
      | addSink sink wants => exact ⟨same.withOutput _ _ _ _, rfl⟩
      | removeSink sink => exact ⟨same.withOutput _ _ _ _, rfl⟩
      | stop =>
          refine ⟨same.stop, ?_⟩
          rw [decoded, decoded, same.isStopped, same.halted.worker.stop.2]

private theorem SameOutside.turn_inline (same : pipeline.SameOutside isInline other) {turn : Turn}
    (inline : turn.isAbout isInline = true)
    (isJpeg : ∀ codecName ∈ turn.codecName?, Codec.ofName? codecName = some .jpeg) :
    (pipeline.turn turn).SameOutside isInline other ∧ pipeline.decoded turn = [] := by
  cases turn with
  | work count => cases inline
  | request request =>
      cases request with
      | openSession id media codecName description =>
          exact ⟨same.openSession_inline inline media (isJpeg codecName rfl) description, rfl⟩
      | newSession id media codecName description =>
          exact ⟨same.openSession_inline inline media (isJpeg codecName rfl) description, rfl⟩
      | push id chunk timestamp => exact ⟨same.push_inline inline chunk timestamp, rfl⟩
      | data id chunk time => exact ⟨same.onData_inline inline chunk time, rfl⟩
      | closeSession id => exact ⟨same.closeSession_inline inline, rfl⟩
      | addSink sink wants => cases inline
      | removeSink sink => cases inline
      | stop => cases inline

theorem SameOutside.after (same : pipeline.SameOutside isInline other) {turns : List Turn}
    (isJpeg : ∀ turn ∈ turns, turn.isAbout isInline = true →
      ∀ codecName ∈ turn.codecName?, Codec.ofName? codecName = some .jpeg) :
    (pipeline.after turns).SameOutside isInline
        (other.after (turns.filter fun turn => !turn.isAbout isInline)) ∧
      along decoded other (turns.filter fun turn => !turn.isAbout isInline) =
        along decoded pipeline turns := by
  -- Both runs take a visible turn; one of a chosen identifier moves the first pipeline alone.
  induction turns generalizing pipeline other with
  | nil => exact ⟨same, rfl⟩
  | cons turn rest ih =>
      obtain ⟨first, later⟩ := List.forall_mem_cons.mp isJpeg
      cases inline : turn.isAbout isInline with
      | true =>
          obtain ⟨next, none⟩ := same.turn_inline inline (first inline)
          rw [List.filter_cons_of_neg (by simp [inline]), along, none, List.nil_append]
          exact ih next later
      | false =>
          obtain ⟨next, samePictures⟩ := same.turn inline
          obtain ⟨last, sameLater⟩ := ih next later
          rw [List.filter_cons_of_pos (by simp [inline]), along, along, samePictures, sameLater]
          exact ⟨last, rfl⟩

end Pipeline

/-! ### Runs -/

namespace PipelineRun

/-- The identifier is opened with no codec name but one of JPEG. -/
def IsInline (run : PipelineRun) (id : String) : Prop :=
  ∀ turn ∈ run.turns, turn.id? = some id →
    ∀ codecName ∈ turn.codecName?, Codec.ofName? codecName = some .jpeg

instance (run : PipelineRun) (id : String) : Decidable (run.IsInline id) :=
  inferInstanceAs (Decidable (∀ turn ∈ run.turns, _ → ∀ codecName ∈ turn.codecName?, _ = _))

/-- The run without what peers ask for under the chosen identifiers. -/
def without (isInline : String → Bool) (run : PipelineRun) : PipelineRun :=
  { run with turns := run.turns.filter fun turn => !turn.isAbout isInline }

def decoded (run : PipelineRun) : List Picture :=
  Pipeline.along Pipeline.decoded run.first run.turns

theorem sameOutside_without {run : PipelineRun} {isInline : String → Bool}
    (only : ∀ id, isInline id = true → run.IsInline id) :
    run.last.SameOutside isInline (run.without isInline).last ∧
      (run.without isInline).decoded = run.decoded := by
  have begins : run.first.SameOutside isInline (run.without isInline).first :=
    ⟨rfl, rfl, rfl, rfl, ⟨⟨rfl, rfl, rfl⟩, rfl, SessionTable.sameOutside_empty isInline⟩, rfl⟩
  apply begins.after
  intro turn member inline codecName named
  obtain ⟨id, isId, ofId⟩ := (Option.any_eq_true _ _).mp inline
  exact only id ofId turn member isId codecName named

/-- Sessions that are opened as JPEG only may be left out of a run: the engine, all that it decodes,
the other sessions and the counts of frames, failures and decoders are the same, then and once the
pipeline is dropped. A chunk of a JPEG session that is accepted is one picture, with the pushed
timestamp and the size of the header, which the sinks registered before the push have behind it;
of one that is not accepted they get nothing. -/
theorem inline_sessions_apart (run : PipelineRun) :
    (∀ isInline : String → Bool, (∀ id, isInline id = true → run.IsInline id) →
      let less := run.without isInline
      less.last.engine = run.last.engine ∧ less.last.drop.engine = run.last.drop.engine ∧
        less.decoded = run.decoded ∧
        (∀ id, isInline id = false →
          less.last.sessions.state? id = run.last.sessions.state? id) ∧
        less.last.stats.enqueued = run.last.stats.enqueued ∧
        less.last.stats.decodeErrors = run.last.stats.decodeErrors ∧
        less.last.stats.decoders = run.last.stats.decoders) ∧
      ∀ id session, run.last.sessions.get? id = some session → session.codec = .jpeg →
        ∀ chunk, (∀ timestamp, Pipeline.ShowsAtOnce run.inlineDecoder chunk timestamp
            run.last.playout (run.last.push id chunk timestamp)) ∧
          ∀ time, (run.last.onData id chunk time).1.playout =
              (run.last.push id chunk time.toMillis).1.playout ∧
            (run.last.onData id chunk time).2 =
              Pipeline.isSuccess (run.last.push id chunk time.toMillis).2 := by
  constructor
  · intro isInline only less
    obtain ⟨same, decoded⟩ := sameOutside_without only
    have work := same.worker.loop.work
    refine ⟨congrArg DecoderSlot.engine work.slot,
      congrArg DecoderSlot.engine same.drop.worker.loop.work.slot, decoded, ?_, ?_, ?_, ?_⟩
    · intro id visible
      exact congrArg (Option.map Session.state) (same.sessions.get? id visible)
    · rw [Pipeline.stats_eq, Pipeline.stats_eq]
      exact same.enqueued
    · rw [Pipeline.stats_eq, Pipeline.stats_eq]
      exact work.decodeErrors
    · rw [Pipeline.stats_eq, Pipeline.stats_eq]
      exact congrArg DecoderSlot.created work.slot
  · intro id session found isJpeg chunk
    obtain ⟨course, tracks, takes⟩ := run.exists_course
    obtain ⟨decoder, assembles⟩ := Assembler.exists_of_codec_eq_jpeg isJpeg
    obtain ⟨handle, _, foundThere⟩ := Option.bind_eq_some_iff.mp found
    have decodes := (tracks.fits handle session foundThere).decodes
    rw [assembles, takes.inlineDecoder] at decodes
    rw [← show decoder = run.inlineDecoder from decodes]
    exact ⟨Pipeline.showsAtOnce_push found assembles chunk,
      fun time => Pipeline.onData_shows_push id chunk time run.last⟩

/-- Two pixels in grey, up to the start of the scan. -/
def stillImage : Bytes :=
  [0xff, 0xd8, 0xff, 0xc0, 0, 11, 8, 0, 1, 0, 2, 1, 1, 0x11, 0,
    0xff, 0xda, 0, 8, 1, 1, 0, 0, 0x3f, 0]

/-- The door shows images and the hall a stream. At its first picture the screen makes way for the
wall. -/
def imagesAtDoor : PipelineRun where
  config := .standard
  inlineDecoder := fun chunk _ _ => .ok (.encoded chunk)
  engine := .passthrough
  audience :=
    { fanout := ⟨[⟨"screen", .anything⟩]⟩
      reactions := fun _ => [[.remove "screen", .add "wall" .anything]]
      received := #[] }
  turns :=
    [.request (.openSession "door" "video" "mjpeg" ""),
      .request (.openSession "hall" "video" "VP9" ""),
      .request (.push "hall" [0x82] 10),
      .request (.data "door" stillImage ⟨0, 20000000, false⟩),
      .request (.push "door" [0x82] 25),
      .work 2,
      .request (.closeSession "door"),
      .request (.newSession "door" "video" "JPEG" "")]

theorem images_at_door_apart :
    (∀ id, id == "door" → imagesAtDoor.IsInline id) ∧ ¬imagesAtDoor.IsInline "hall" ∧
      (imagesAtDoor.without (· == "door")).turns.length = 3 ∧
      (imagesAtDoor.without (· == "door")).last.engine = imagesAtDoor.last.engine ∧
      imagesAtDoor.last.stats = ⟨1, 0, 0, 1, 2⟩ ∧
      (imagesAtDoor.last.push "door" stillImage 40).1.playout.audience.received.toList.map
          (fun entry => (entry.1, entry.2.timestamp, entry.2.width, entry.2.height)) =
        [("screen", 20, 2, 1), ("wall", 10, 0, 0), ("wall", 40, 2, 1)] ∧
      Pipeline.ShowsAtOnce imagesAtDoor.inlineDecoder stillImage 40 imagesAtDoor.last.playout
        (imagesAtDoor.last.push "door" stillImage 40) := by
  have only : ∀ id, id == "door" → imagesAtDoor.IsInline id := by
    intro id isDoor
    rw [eq_of_beq isDoor]
    decide +kernel
  have isJpeg : (imagesAtDoor.last.sessions.get? "door").map Session.codec = some .jpeg := by
    decide +kernel
  obtain ⟨session, found, isSessionJpeg⟩ := Option.map_eq_some_iff.mp isJpeg
  have apart := inline_sessions_apart imagesAtDoor
  refine ⟨only, by decide +kernel, by decide +kernel, (apart.1 _ only).1, by decide +kernel,
    by decide +kernel, ?_⟩
  exact (apart.2 "door" session found isSessionJpeg stillImage).1 40

end PipelineRun
end VideoIngest
