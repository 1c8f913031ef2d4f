import VideoIngest.Proofs.Pipeline.Course

/-! What peers ask for, as steps of the course of a pipeline. -/

namespace VideoIngest.Pipeline

variable {course : Course} {pipeline : Pipeline}

theorem returned_touched (handle : Nat) (id : String) (chunk : Bytes) (timestamp : Nat)
    (pipeline : Pipeline) :
    (pipeline.touched handle).returned handle id chunk timestamp =
      pipeline.returned handle id chunk timestamp := by
  cases found : pipeline.sessions.session? handle with
  | none => rw [touched_of_no_session found]
  | some session =>
      rw [returned_of_session? found, returned_of_session? (session?_touched found),
        (session.sameStream_transition .codecKnown .awaitingFormat).1]

theorem chunkEmissions_of_handle?_eq_some (going : pipeline.isStopped = false) {id : String}
    {handle : Nat} (bound : pipeline.sessions.handle? id = some handle) (chunk : Bytes)
    (timestamp : Nat) :
    pipeline.chunkEmissions id chunk timestamp = pipeline.returned handle id chunk timestamp := by
  unfold chunkEmissions
  rw [going, if_neg Bool.false_ne_true, bound]

theorem Tracks.touched (tracks : Tracks course pipeline) (handle : Nat) :
    Tracks course (pipeline.touched handle) :=
  tracks.sameStreams (sameStreams_touched handle pipeline)

private theorem Tracks.push_of_handle? (tracks : Tracks course pipeline)
    (going : course.isOver = false)
    {id : String} {handle : Nat} (bound : pipeline.sessions.handle? id = some handle)
    (chunk : Bytes) (timestamp : Nat) :
    Tracks (course.emit (pipeline.chunkEmissions id chunk timestamp))
        (pipeline.push id chunk timestamp).1 ∧
      ∀ failure, (pipeline.push id chunk timestamp).2 = .error failure →
        (∃ cause, failure = .parse cause) ∨
          ∃ width height, course.inlineDecoder chunk width height = .error failure := by
  have taken := (tracks.touched handle).ingest going handle id chunk timestamp
  have isOpen := tracks.stopped.trans going
  rw [push_of_handle?_eq_some isOpen bound, chunkEmissions_of_handle?_eq_some isOpen bound,
    ← returned_touched]
  exact taken

theorem push_of_isStopped (isStopped : pipeline.isStopped = true) (id : String) (chunk : Bytes)
    (timestamp : Nat) :
    pipeline.push id chunk timestamp = (pipeline, .error .stopped) ∧
      pipeline.chunkEmissions id chunk timestamp = [] :=
  ⟨if_pos isStopped, if_pos isStopped⟩

theorem push_of_handle?_eq_none (going : pipeline.isStopped = false) {id : String}
    (unbound : pipeline.sessions.handle? id = none) (chunk : Bytes) (timestamp : Nat) :
    pipeline.push id chunk timestamp = (pipeline, .error (.unknownSession id)) ∧
      pipeline.chunkEmissions id chunk timestamp = [] := by
  unfold push chunkEmissions
  rw [going, if_neg Bool.false_ne_true, if_neg Bool.false_ne_true, unbound]
  exact ⟨rfl, rfl⟩

theorem Tracks.push (tracks : Tracks course pipeline) (id : String) (chunk : Bytes)
    (timestamp : Nat) :
    Tracks (course.emit (pipeline.chunkEmissions id chunk timestamp))
      (pipeline.push id chunk timestamp).1 := by
  cases going : course.isOver with
  | true =>
      obtain ⟨unchanged, nothing⟩ :=
        push_of_isStopped (tracks.stopped.trans going) id chunk timestamp
      rw [unchanged, nothing, Course.emit_nil]
      exact tracks
  | false =>
      cases bound : pipeline.sessions.handle? id with
      | none =>
          obtain ⟨unchanged, nothing⟩ :=
            push_of_handle?_eq_none (tracks.stopped.trans going) bound chunk timestamp
          rw [unchanged, nothing, Course.emit_nil]
          exact tracks
      | some handle => exact (tracks.push_of_handle? going bound chunk timestamp).1

/-- Only data for an unknown session counts as refused. -/
theorem onData_fst (id : String) (chunk : Bytes) (time : PresentationTime) (pipeline : Pipeline) :
    (pipeline.onData id chunk time).1 =
      match (pipeline.push id chunk time.toMillis).2 with
      | .error (.unknownSession _) =>
          { (pipeline.push id chunk time.toMillis).1 with
            refused := (pipeline.push id chunk time.toMillis).1.refused + 1 }
      | _ => (pipeline.push id chunk time.toMillis).1 := by
  unfold onData
  cases pipeline.push id chunk time.toMillis with
  | mk next result =>
      cases result with
      | ok done => rfl
      | error failure => cases failure <;> rfl

theorem Tracks.data (tracks : Tracks course pipeline) (id : String) (chunk : Bytes)
    (time : PresentationTime) :
    Tracks
      { course.emit (pipeline.chunkEmissions id chunk time.toMillis) with
        unknown := course.unknown ++ pipeline.unknownData (.request (.data id chunk time)) }
      (pipeline.onData id chunk time).1 := by
  rw [onData_fst, unknownData]
  cases going : course.isOver with
  | true =>
      have isStopped := tracks.stopped.trans going
      obtain ⟨unchanged, nothing⟩ := push_of_isStopped isStopped id chunk time.toMillis
      rw [unchanged, nothing, Course.emit_nil, if_pos (.inl isStopped), List.append_nil]
      exact tracks
  | false =>
      have isGoing := tracks.stopped.trans going
      cases bound : pipeline.sessions.handle? id with
      | none =>
          obtain ⟨unchanged, nothing⟩ := push_of_handle?_eq_none isGoing bound chunk time.toMillis
          have counts : ¬(pipeline.isStopped = true ∨ (none : Option Nat).isSome = true) := by
            rw [isGoing]
            simp
          rw [unchanged, nothing, Course.emit_nil, if_neg counts]
          refine
            { tracks with
              refused := ?_ }
          intro blameless
          change _ = _ + (course.unknown ++ [id]).length
          rw [List.length_append, ← Nat.add_assoc, ← tracks.refused blameless]
          rfl
      | some handle =>
          obtain ⟨taken, failures⟩ := tracks.push_of_handle? going bound chunk time.toMillis
          rw [if_pos (.inr rfl), List.append_nil]
          cases result : (pipeline.push id chunk time.toMillis).2 with
          | ok done => exact taken
          | error failure =>
              cases failure with
              | unknownSession other =>
                  -- The session is there. Only a decoder that blames a session could say otherwise.
                  refine
                    { taken with
                      refused := ?_ }
                  intro blameless
                  rcases failures _ result with ⟨cause, impossible⟩ | ⟨width, height, blamed⟩
                  · contradiction
                  · exact absurd blamed (blameless chunk width height other)
              | _ => exact taken

theorem Tracks.closeSession (tracks : Tracks course pipeline) (id : String) :
    Tracks course (pipeline.closeSession id) :=
  tracks.withSessions rfl tracks.fits

theorem Tracks.withAudience (tracks : Tracks course pipeline) (change : FanoutChange) :
    Tracks course { pipeline with playout := pipeline.playout.change change } :=
  { tracks with }

theorem Tracks.insert (tracks : Tracks course pipeline) (id media : String) (codec : Codec) :
    Tracks { course with opened := course.opened + 1 }
      (pipeline.withSessions (pipeline.sessions.insert
        (.start id media (.ofCodec pipeline.inlineDecoder codec))).1) := by
  refine
    { tracks with
      opened := ?_
      handles := fun emission member => Nat.lt_succ_of_lt (tracks.handles emission member)
      fits := ?_
      works := ⟨tracks.works.slot, tracks.works.undecoded, tracks.works.decodeErrors⟩ }
  · exact (Array.size_push _).trans (congrArg (· + 1) tracks.opened)
  · intro handle session found
    change (pipeline.sessions.insert _).1.session? handle = some session at found
    rw [SessionTable.session?_insert, tracks.opened] at found
    by_cases new : handle = course.opened
    · rw [if_pos new] at found
      obtain rfl := Option.some.inj found
      change Session.Fits _ _ (itemsOf handle course.emissions) _
      rw [itemsOf_eq_nil (new ▸ tracks.handles), tracks.inlineDecoder]
      exact Session.fits_start _ _ id media codec
    · rw [if_neg new] at found
      exact tracks.fits handle session found

theorem Tracks.openSession (tracks : Tracks course pipeline)
    (id media codecName description : String) :
    ∃ opened, Tracks
      { course.emit (pipeline.openingEmissions id media codecName description) with opened }
      (pipeline.openSession id media codecName description).1 := by
  unfold Pipeline.openSession openingEmissions
  rw [tracks.stopped]
  cases going : course.isOver with
  | true =>
      rw [if_pos rfl, if_pos rfl, Course.emit_nil]
      exact ⟨course.opened, tracks⟩
  | false =>
      rw [if_neg Bool.false_ne_true, if_neg Bool.false_ne_true]
      cases sessionCodec media codecName with
      | error refusal =>
          dsimp only
          rw [Course.emit_nil]
          exact ⟨course.opened, tracks⟩
      | ok codec =>
          exact ⟨course.opened + 1, (tracks.insert id media codec).ingestUnits going _ id _⟩

end VideoIngest.Pipeline
