import VideoIngest.Proofs.Pipeline.Stopped
import VideoIngest.Proofs.Pipeline.Waiting

/-!
Calls that are rejected.

A session that is not opened leaves nothing behind. A chunk that is refused leaves nothing behind
either, unless it is the first of its session: the session then waits for a format, as if the chunk
had been accepted.
-/

namespace VideoIngest

private theorem Codec.eq_jpeg_of_usesEngine_eq_false {codec : Codec}
    (inline : codec.usesEngine = false) : codec = .jpeg := by
  cases codec with
  | jpeg => rfl
  | _ => cases inline

namespace Pipeline

variable {course : Course} {pipeline : Pipeline} {media codecName id : String} {chunk : Bytes}
  {failure : IngestError}

/-! ### Sessions that are not opened -/

inductive RefusesSession (media codecName : String) (pipeline : Pipeline) : IngestError → Prop
  | stopped (ended : pipeline.isStopped = true) : RefusesSession media codecName pipeline .stopped
  | media (going : pipeline.isStopped = false)
      (differs : Text.equalIgnoringCase media "video" = false) :
      RefusesSession media codecName pipeline (.unsupportedMedia media)
  | codec (going : pipeline.isStopped = false)
      (isVideo : Text.equalIgnoringCase media "video" = true)
      (unknown : Codec.ofName? codecName = none) :
      RefusesSession media codecName pipeline (.unsupportedCodec codecName)

private theorem RefusesSession.openSession_eq
    (refuses : pipeline.RefusesSession media codecName failure) (id description : String) :
    pipeline.openSession id media codecName description = (pipeline, .error failure) := by
  unfold openSession sessionCodec
  cases refuses with
  | stopped ended => rw [if_pos ended]
  | media going differs =>
      rw [going, if_neg Bool.false_ne_true, differs, if_neg Bool.false_ne_true]
  | codec going isVideo unknown =>
      rw [going, if_neg Bool.false_ne_true, if_pos isVideo, unknown]

private theorem refusesSession_of_openSession {description : String}
    (rejected : (pipeline.openSession id media codecName description).2 = .error failure) :
    pipeline.RefusesSession media codecName failure := by
  unfold openSession sessionCodec at rejected
  cases going : pipeline.isStopped with
  | true =>
      rw [if_pos going] at rejected
      obtain rfl := Except.error.inj rejected
      exact .stopped going
  | false =>
      rw [going, if_neg Bool.false_ne_true] at rejected
      cases isVideo : Text.equalIgnoringCase media "video" with
      | false =>
          rw [isVideo, if_neg Bool.false_ne_true] at rejected
          obtain rfl := Except.error.inj rejected
          exact .media going isVideo
      | true =>
          rw [if_pos isVideo] at rejected
          cases known : Codec.ofName? codecName with
          | none =>
              rw [known] at rejected
              obtain rfl := Except.error.inj rejected
              exact .codec going isVideo known
          | some codec =>
              rw [known] at rejected
              cases rejected

/-! ### Chunks that are refused -/

/-- Why a chunk is refused. Only JPEG sessions look at what they take. -/
inductive RefusesChunk (id : String) (chunk : Bytes) (pipeline : Pipeline) : IngestError → Prop
  | stopped (ended : pipeline.isStopped = true) : RefusesChunk id chunk pipeline .stopped
  | unknown (going : pipeline.isStopped = false) (unbound : pipeline.sessions.handle? id = none) :
      RefusesChunk id chunk pipeline (.unknownSession id)
  | header {session : Session} {cause : ParseError} (going : pipeline.isStopped = false)
      (found : pipeline.sessions.get? id = some session) (isJpeg : session.codec = .jpeg)
      (unreadable : Jpeg.dimensions chunk = .error cause) :
      RefusesChunk id chunk pipeline (.parse cause)
  | image {session : Session} {width height : Nat} {failure : IngestError}
      (going : pipeline.isStopped = false)
      (found : pipeline.sessions.get? id = some session) (isJpeg : session.codec = .jpeg)
      (sizes : Jpeg.dimensions chunk = .ok (width, height))
      (undecodable : pipeline.inlineDecoder chunk width height = .error failure) :
      RefusesChunk id chunk pipeline failure

/-- The pipeline once the session of an identifier waits for a format, if no chunk of it had come
before. -/
def touchedBy (id : String) (pipeline : Pipeline) : Pipeline :=
  if pipeline.sessions.state? id = some .codecKnown then
    pipeline.withSessions (pipeline.sessions.setState id .awaitingFormat)
  else pipeline

private theorem touched_eq_touchedBy {handle : Nat} {session : Session}
    (bound : pipeline.sessions.handle? id = some handle)
    (found : pipeline.sessions.session? handle = some session) :
    pipeline.touched handle = pipeline.touchedBy id := by
  have state : pipeline.sessions.state? id = some session.state := by
    unfold SessionTable.state? SessionTable.get?
    rw [bound, Option.bind_some, found, Option.map_some]
  unfold touched touchedBy SessionTable.setState
  rw [SessionTable.update_of_session? found, state, bound]
  by_cases first : session.state = .codecKnown
  · have going : session.state ≠ .stopped := by
      rw [first]
      exact nofun
    rw [if_pos (congrArg some first)]
    congr 1
    apply SessionTable.modify_congr found
    rw [Session.transition, if_pos first, Session.setState, if_neg going]
  · rw [if_neg fun same => first (Option.some.inj same), Session.transition, if_neg first,
      SessionTable.modify_self found]
    rfl

private theorem Tracks.assembler_of_jpeg (tracks : Tracks course pipeline) {handle : Nat}
    {session : Session} (found : pipeline.sessions.session? handle = some session)
    (isJpeg : session.codec = .jpeg) : session.assembler = .jpeg pipeline.inlineDecoder := by
  obtain ⟨decoder, assembles⟩ := Assembler.exists_of_codec_eq_jpeg isJpeg
  have uses := (tracks.fits handle session found).decodes
  rw [assembles] at uses ⊢
  rw [show decoder = course.inlineDecoder from uses, tracks.inlineDecoder]

private theorem Tracks.push_of_jpeg (tracks : Tracks course pipeline)
    (going : pipeline.isStopped = false)
    {handle : Nat} {session : Session} (bound : pipeline.sessions.handle? id = some handle)
    (found : pipeline.sessions.session? handle = some session) (isJpeg : session.codec = .jpeg)
    (chunk : Bytes) (timestamp : Nat) :
    pipeline.push id chunk timestamp =
      (pipeline.touchedBy id).ingestJpeg handle pipeline.inlineDecoder chunk timestamp := by
  rw [← touched_eq_touchedBy bound found]
  exact push_eq_ingestJpeg going bound found (tracks.assembler_of_jpeg found isJpeg) chunk timestamp

private theorem Tracks.push_of_usesEngine (tracks : Tracks course pipeline)
    (going : course.isOver = false)
    {handle : Nat} {session : Session} (bound : pipeline.sessions.handle? id = some handle)
    (found : pipeline.sessions.session? handle = some session)
    (usesEngine : session.codec.usesEngine = true) (chunk : Bytes) (timestamp : Nat) :
    (pipeline.push id chunk timestamp).2 = .ok () := by
  have moved := session?_touched found
  have sameStream := session.sameStream_transition .codecKnown .awaitingFormat
  obtain ⟨next, items, assembled, _, coded⟩ :=
    Assembler.assemble_of_usesEngine usesEngine chunk timestamp
  have touched := tracks.touched handle
  rw [← sameStream.1] at assembled
  rw [push_of_handle?_eq_some (tracks.stopped.trans going) bound, ingest_of_session? moved,
    assembled]
  exact ((touched.advance moved assembled).ingestItems going (touched.lt_opened moved) id
    fun item member => (coded item member).hasData).1

/-- The chunk is refused, and all that is left of it is what the first chunk of a session does. -/
private theorem RefusesChunk.push_eq (refuses : pipeline.RefusesChunk id chunk failure)
    (tracks : Tracks course pipeline)
    (untouched : pipeline.isStopped = true → pipeline.touchedBy id = pipeline) (timestamp : Nat) :
    pipeline.push id chunk timestamp = (pipeline.touchedBy id, .error failure) := by
  cases refuses with
  | stopped ended => rw [(push_of_isStopped ended id chunk timestamp).1, untouched ended]
  | unknown going unbound =>
      have absent : pipeline.touchedBy id = pipeline := by
        unfold touchedBy SessionTable.state? SessionTable.get?
        rw [unbound]
        rfl
      rw [(push_of_handle?_eq_none going unbound chunk timestamp).1, absent]
  | header going found isJpeg unreadable =>
      obtain ⟨handle, bound, foundThere⟩ := Option.bind_eq_some_iff.mp found
      rw [tracks.push_of_jpeg going bound foundThere isJpeg, ingestJpeg, unreadable]
  | image going found isJpeg sizes undecodable =>
      obtain ⟨handle, bound, foundThere⟩ := Option.bind_eq_some_iff.mp found
      rw [tracks.push_of_jpeg going bound foundThere isJpeg, ingestJpeg, sizes]
      dsimp only
      rw [undecodable]

private theorem Tracks.refusesChunk_of_jpeg (tracks : Tracks course pipeline)
    (going : pipeline.isStopped = false) {handle : Nat} {session : Session}
    (bound : pipeline.sessions.handle? id = some handle)
    (found : pipeline.sessions.session? handle = some session) (isJpeg : session.codec = .jpeg)
    {timestamp : Nat} (rejected : (pipeline.push id chunk timestamp).2 = .error failure) :
    pipeline.RefusesChunk id chunk failure := by
  have get? : pipeline.sessions.get? id = some session :=
    (SessionTable.get?_of_handle? bound).trans found
  rw [tracks.push_of_jpeg going bound found isJpeg, ingestJpeg] at rejected
  cases sizes : Jpeg.dimensions chunk with
  | error cause =>
      rw [sizes] at rejected
      obtain rfl := Except.error.inj rejected
      exact .header going get? isJpeg sizes
  | ok size =>
      obtain ⟨width, height⟩ := size
      rw [sizes] at rejected
      dsimp only at rejected
      cases decodes : pipeline.inlineDecoder chunk width height with
      | error refusal =>
          rw [decodes] at rejected
          obtain rfl := Except.error.inj rejected
          exact .image going get? isJpeg sizes decodes
      | ok buffer =>
          rw [decodes] at rejected
          cases rejected

private theorem Tracks.refusesChunk_of_push (tracks : Tracks course pipeline) {timestamp : Nat}
    (rejected : (pipeline.push id chunk timestamp).2 = .error failure) :
    pipeline.RefusesChunk id chunk failure := by
  cases going : pipeline.isStopped with
  | true =>
      rw [(push_of_isStopped going id chunk timestamp).1] at rejected
      obtain rfl := Except.error.inj rejected
      exact .stopped going
  | false =>
      cases bound : pipeline.sessions.handle? id with
      | none =>
          rw [(push_of_handle?_eq_none going bound chunk timestamp).1] at rejected
          obtain rfl := Except.error.inj rejected
          exact .unknown going bound
      | some handle =>
          cases found : pipeline.sessions.session? handle with
          | none =>
              -- A handle of no session would take any chunk and lose it.
              rw [push_of_handle?_eq_some going bound, touched_of_no_session found,
                ingest_of_session?_eq_none found] at rejected
              cases rejected
          | some session =>
              cases usesEngine : session.codec.usesEngine with
              | true =>
                  rw [tracks.push_of_usesEngine (tracks.stopped.symm.trans going) bound found
                    usesEngine] at rejected
                  cases rejected
              | false =>
                  exact tracks.refusesChunk_of_jpeg going bound found
                    (Codec.eq_jpeg_of_usesEngine_eq_false usesEngine) rejected

private theorem HasEnded.touchedBy_eq (ended : pipeline.HasEnded) (id : String) :
    pipeline.touchedBy id = pipeline := by
  apply if_neg
  intro first
  have states := ended.sessions.state?_eq (.refl pipeline.sessions) id
  rw [first] at states
  cases states

end Pipeline

namespace PipelineRun

/-- In every run: only where the pipeline was stopped, or the media or the codec is not supported,
is a session not opened, and then all is as before; a session that is open under the identifier
stays.
A chunk is refused only where the pipeline was stopped, the identifier is unknown, or a JPEG session
cannot read or decode it. All is as before then too, but for a session that had no chunk before: it
waits for a format from now on, just as if it had accepted one. There is no other way for a session
to come to wait than its first chunk, refused or not, and a decoder that cannot be created. -/
theorem rejected_call_leaves_first_chunk (run : PipelineRun) :
    (∀ id media codecName description failure,
      ((run.last.openSession id media codecName description).2 = .error failure ↔
          run.last.RefusesSession media codecName failure) ∧
        ((run.last.openSession id media codecName description).2 = .error failure →
          (run.last.openSession id media codecName description).1 = run.last)) ∧
      (∀ id chunk timestamp failure,
        ((run.last.push id chunk timestamp).2 = .error failure ↔
            run.last.RefusesChunk id chunk failure) ∧
          ((run.last.push id chunk timestamp).2 = .error failure →
            (run.last.push id chunk timestamp).1 =
              if run.last.sessions.state? id = some .codecKnown then
                run.last.withSessions (run.last.sessions.setState id .awaitingFormat)
              else run.last)) ∧
      ∀ turn handle, (run.last.turn turn).sessions.Awaits handle →
        run.last.sessions.Awaits handle ∨ run.last.MakesWait handle turn := by
  obtain ⟨course, tracks, _⟩ := run.exists_course
  have untouched : ∀ id, run.last.isStopped = true → run.last.touchedBy id = run.last :=
    fun id isStopped => (run.hasEnded_last isStopped).touchedBy_eq id
  refine ⟨?_, ?_, fun _ _ => tracks.awaits_of_turn⟩
  · intro id media codecName description failure
    refine ⟨⟨Pipeline.refusesSession_of_openSession, ?_⟩, ?_⟩
    · intro refuses
      rw [refuses.openSession_eq]
    · intro rejected
      rw [(Pipeline.refusesSession_of_openSession rejected).openSession_eq]
  · intro id chunk timestamp failure
    refine ⟨⟨tracks.refusesChunk_of_push, ?_⟩, ?_⟩
    · intro refuses
      rw [refuses.push_eq tracks (untouched id)]
    · intro rejected
      rw [(tracks.refusesChunk_of_push rejected).push_eq tracks (untouched id)]
      rfl

def doorOpened : PipelineRun where
  config := .standard
  inlineDecoder := .jpeg
  engine := .passthrough
  audience := .empty
  turns := [.request (.openSession "door" "video" "JPEG" "")]

/-- The session that is open survives a rejected opening as it is, and waits for a format behind a
chunk that it refuses. -/
theorem door_rejects :
    (doorOpened.last.openSession "door" "audio" "H264" "").1 = doorOpened.last ∧
      (doorOpened.last.push "door" [0xff] 0).1 =
        doorOpened.last.withSessions
          (doorOpened.last.sessions.setState "door" .awaitingFormat) := by
  obtain ⟨openings, chunks, _⟩ := rejected_call_leaves_first_chunk doorOpened
  have otherMedia : doorOpened.last.RefusesSession "audio" "H264" (.unsupportedMedia "audio") :=
    .media rfl (by decide +kernel)
  have refused : (doorOpened.last.push "door" [0xff] 0).2 = .error (.parse .notJpeg) := by
    decide +kernel
  have first : doorOpened.last.sessions.state? "door" = some .codecKnown := by decide +kernel
  refine ⟨?_, ?_⟩
  · have opening := openings "door" "audio" "H264" "" (.unsupportedMedia "audio")
    exact opening.2 (opening.1.mpr otherMedia)
  · rw [(chunks "door" [0xff] 0 (.parse .notJpeg)).2 refused, if_pos first]

/-- A refused chunk may change the state of its session. -/
theorem refused_chunk_changes_state :
    (doorOpened.last.push "door" [0xff] 0).2 = .error (.parse .notJpeg) ∧
      doorOpened.last.sessions.state? "door" = some .codecKnown ∧
      (doorOpened.last.push "door" [0xff] 0).1.sessions.state? "door" = some .awaitingFormat ∧
      ¬∀ (run : PipelineRun) (id : String) (chunk : Bytes) (timestamp : Nat)
        (failure : IngestError), (run.last.push id chunk timestamp).2 = .error failure →
          ∀ other, (run.last.push id chunk timestamp).1.sessions.state? other =
            run.last.sessions.state? other := by
  have refused : (doorOpened.last.push "door" [0xff] 0).2 = .error (.parse .notJpeg) := by
    decide +kernel
  have before : doorOpened.last.sessions.state? "door" = some .codecKnown := by decide +kernel
  have after : (doorOpened.last.push "door" [0xff] 0).1.sessions.state? "door" =
      some .awaitingFormat := by decide +kernel
  refine ⟨refused, before, after, ?_⟩
  intro never
  have unchanged := never doorOpened "door" [0xff] 0 _ refused "door"
  rw [before, after] at unchanged
  cases unchanged

end PipelineRun
end VideoIngest
