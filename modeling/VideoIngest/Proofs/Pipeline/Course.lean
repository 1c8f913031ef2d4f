import VideoIngest.Proofs.Pipeline.Turns

/-!
The course that a pipeline has taken.

What the assemblers have returned is what the decode loop has worked on and what is still on its
way, and the state of the loop is the one that the former leads to. Whatever a pipeline takes in, it
goes on with its course.
-/

namespace VideoIngest

def InlineDecoder.BlamesNoSession (decoder : InlineDecoder) : Prop :=
  ∀ chunk width height id, decoder chunk width height ≠ .error (.unknownSession id)

namespace Pipeline

/-- What has happened in a run: the sessions opened, the items returned and the data refused for
want of a session, the events that the decode loop has worked on and the frames that it lost, and
whether the run was stopped. -/
structure Course where
  engine : Engine
  inlineDecoder : InlineDecoder
  drops : Bool
  opened : Nat
  emissions : List Emission
  unknown : List String
  done : List IngestEvent
  missed : List CodedFrame
  isOver : Bool

namespace Course

/-- The loop that has worked on the same events, and the pictures that they came to. -/
def worked (course : Course) : DecodeLoop × List Picture :=
  (DecodeLoop.start course.engine .empty).process course.done

def sent (course : Course) : List IngestEvent := sentFor course.drops course.emissions

def emit (emissions : List Emission) (course : Course) : Course :=
  { course with emissions := course.emissions ++ emissions }

def work (events : List IngestEvent) (course : Course) : Course :=
  { course with
    done := course.done ++ events
    missed := course.missed ++ course.worked.1.missed events }

end Course

structure Tracks (course : Course) (pipeline : Pipeline) : Prop where
  inlineDecoder : pipeline.inlineDecoder = course.inlineDecoder
  drops : pipeline.dropsRegressed = course.drops
  stopped : pipeline.isStopped = course.isOver
  running : pipeline.worker.isRunning = !course.isOver
  receiving : pipeline.loop.queue.receiving = !course.isOver
  sender : pipeline.loop.queue.senders.isEmpty = false
  opened : pipeline.sessions.sessions.size = course.opened
  handles : ∀ emission ∈ course.emissions, emission.handle < course.opened
  loaded : ∀ emission ∈ course.emissions, emission.item.HasData
  fits : ∀ handle session, pipeline.sessions.session? handle = some session →
    session.Fits course.inlineDecoder course.drops (itemsOf handle course.emissions)
  sent : course.done ++ pipeline.loop.queue.pending = course.sent
  works : (if course.isOver then course.worked.1.finish else course.worked.1).SameWork pipeline.loop
  missed : course.missed = (DecodeLoop.start course.engine .empty).missed course.done
  enqueued : pipeline.enqueued = course.sent.countP IngestEvent.isFrame
  refused : course.inlineDecoder.BlamesNoSession →
    pipeline.refused = (refusedOf course.drops course.emissions).length + course.unknown.length
  delivered : pipeline.playout.delivered = course.worked.2.length +
    (course.emissions.filterMap Emission.picture?).length

variable {course : Course} {pipeline : Pipeline}

/-! ### Taking in items -/

theorem Tracks.send (tracks : Tracks course pipeline) (going : course.isOver = false)
    (event : IngestEvent) :
    pipeline.send event =
      (pipeline.withLoop (pipeline.loop.withPending (pipeline.loop.queue.pending ++ [event])),
        .ok ()) := by
  apply send_eq
  rw [tracks.receiving, going]
  rfl

theorem Tracks.withSessions (tracks : Tracks course pipeline) {sessions : SessionTable}
    (size : sessions.sessions.size = pipeline.sessions.sessions.size)
    (fits : ∀ handle session, sessions.session? handle = some session →
      session.Fits course.inlineDecoder course.drops (itemsOf handle course.emissions)) :
    Tracks course (pipeline.withSessions sessions) :=
  { tracks with
    opened := size.trans tracks.opened
    fits := fits
    works := ⟨tracks.works.slot, tracks.works.undecoded, tracks.works.decodeErrors⟩ }

theorem Tracks.sameStreams (tracks : Tracks course pipeline) {sessions : SessionTable}
    (same : pipeline.sessions.SameStreams sessions) :
    Tracks course (pipeline.withSessions sessions) := by
  apply tracks.withSessions same.size
  intro handle session found
  obtain ⟨before, foundBefore, sameStream⟩ := same.streams handle session found
  exact (tracks.fits handle before foundBefore).of_sameStream sameStream

/-- What an item adds to a pipeline, wherever its session stands afterwards. -/
def withEmission (emission : Emission) (sessions : SessionTable) (playout : Playout)
    (course : Course) (pipeline : Pipeline) : Pipeline :=
  let event := (emission.event? course.drops course.emissions).toList
  let refused := (emission.refused? course.drops course.emissions).toList
  { (pipeline.withLoop (pipeline.loop.withPending
      (pipeline.loop.queue.pending ++ event))).withSessions sessions with
    enqueued := pipeline.enqueued + event.countP IngestEvent.isFrame
    refused := pipeline.refused + refused.length
    playout }

private theorem Tracks.emit (tracks : Tracks course pipeline) (emission : Emission)
    (sessions : SessionTable) (playout : Playout)
    (opened : emission.handle < course.opened) (loaded : emission.item.HasData)
    (size : sessions.sessions.size = pipeline.sessions.sessions.size)
    (others : ∀ handle, handle ≠ emission.handle →
      sessions.session? handle = pipeline.sessions.session? handle)
    (own : ∀ session, sessions.session? emission.handle = some session →
      session.Fits course.inlineDecoder course.drops
        (itemsOf emission.handle course.emissions ++ [emission.item]))
    (delivered : playout.delivered =
      pipeline.playout.delivered + emission.picture?.toList.length) :
    Tracks (course.emit [emission]) (pipeline.withEmission emission sessions playout course) := by
  have sent : (course.emit [emission]).sent =
      course.sent ++ (emission.event? course.drops course.emissions).toList :=
    sentFor_append_singleton _ _
  refine
    { tracks with
      opened := size.trans tracks.opened
      handles := ?_
      loaded := ?_
      fits := ?_
      sent := ?_
      works := ⟨tracks.works.slot, tracks.works.undecoded, tracks.works.decodeErrors⟩
      enqueued := ?_
      refused := ?_
      delivered := ?_ }
  · intro other member
    rcases List.mem_append.mp member with earlier | last
    · exact tracks.handles other earlier
    · obtain rfl := List.mem_singleton.mp last
      exact opened
  · intro other member
    rcases List.mem_append.mp member with earlier | last
    · exact tracks.loaded other earlier
    · obtain rfl := List.mem_singleton.mp last
      exact loaded
  · intro handle session found
    change session.Fits _ _ (itemsOf handle (course.emissions ++ [emission]))
    rw [itemsOf_append_singleton]
    by_cases same : emission.handle = handle
    · subst same
      rw [if_pos rfl]
      exact own session found
    · rw [if_neg same, List.append_nil]
      exact tracks.fits handle session ((others handle (Ne.symm same)).symm.trans found)
  · rw [sent, ← tracks.sent, List.append_assoc]
    rfl
  · rw [sent, List.countP_append, ← tracks.enqueued]
    rfl
  · intro blameless
    change _ = (refusedOf course.drops (course.emissions ++ [emission])).length +
      course.unknown.length
    rw [refusedOf_append_singleton, List.length_append, Nat.add_right_comm,
      ← tracks.refused blameless]
    rfl
  · change _ = course.worked.2.length +
      ((course.emissions ++ [emission]).filterMap Emission.picture?).length
    rw [List.filterMap_append, List.length_append, ← Nat.add_assoc, ← tracks.delivered]
    refine delivered.trans ?_
    rw [List.filterMap_cons]
    cases emission.picture? <;> rfl

private theorem Tracks.ingestFrame (tracks : Tracks course pipeline) (going : course.isOver = false)
    {handle : Nat} (opened : handle < course.opened) (id : String) {coded : CodedFrame}
    (loaded : coded.data ≠ []) :
    (pipeline.ingestFrame handle coded).2 = .ok () ∧
      Tracks (course.emit [⟨id, handle, .frame coded⟩]) (pipeline.ingestFrame handle coded).1 := by
  have inTable : handle < pipeline.sessions.sessions.size := tracks.opened.symm ▸ opened
  obtain ⟨session, found⟩ := SessionTable.exists_session? inTable
  obtain ⟨accepts, result⟩ := (tracks.fits handle session found).acceptTimestamp coded
  have updated := SessionTable.update_of_session? found
    (Session.acceptTimestamp coded.timestamp course.drops)
  have taken := tracks.emit ⟨id, handle, .frame coded⟩
    (pipeline.sessions.modify handle fun _ =>
      (session.acceptTimestamp coded.timestamp course.drops).1)
    pipeline.playout opened loaded (SessionTable.size_modify _ _ _)
    (by
      intro other differs
      rw [SessionTable.session?_modify, if_neg (Ne.symm differs)])
    (by
      intro other foundOther
      rw [SessionTable.session?_modify, if_pos rfl] at foundOther
      obtain ⟨_, _, rfl⟩ := Option.map_eq_some_iff.mp foundOther
      exact accepts)
    rfl
  rw [Pipeline.ingestFrame, tracks.drops, updated, result]
  -- Sent or not, the assembler has returned the frame, so it is part of the course.
  cases regressed : MediaItem.isRegressed course.drops (itemsOf handle course.emissions) coded with
  | true =>
      have event : Emission.event? course.drops course.emissions ⟨id, handle, .frame coded⟩ =
          none := if_pos regressed
      have refused : Emission.refused? course.drops course.emissions ⟨id, handle, .frame coded⟩ =
          some coded := if_pos regressed
      rw [withEmission, event, refused] at taken
      refine ⟨rfl, ?_⟩
      rw [Option.toList_none, List.append_nil] at taken
      exact taken
  | false =>
      have event : Emission.event? course.drops course.emissions ⟨id, handle, .frame coded⟩ =
          some (.frame coded) := if_neg (Bool.eq_false_iff.mp regressed)
      have refused : Emission.refused? course.drops course.emissions ⟨id, handle, .frame coded⟩ =
          none := if_neg (Bool.eq_false_iff.mp regressed)
      rw [withEmission, event, refused] at taken
      have receiving : (pipeline.withSessions (pipeline.sessions.modify handle fun _ =>
          (session.acceptTimestamp coded.timestamp course.drops).1)).loop.queue.receiving =
            true := by
        rw [← Bool.not_false, ← going]
        exact tracks.receiving
      dsimp only
      rw [Bool.not_false, if_pos rfl, send_eq receiving]
      exact ⟨rfl, taken⟩

theorem Tracks.ingestItem (tracks : Tracks course pipeline) (going : course.isOver = false)
    {handle : Nat} (opened : handle < course.opened) (id : String) {item : MediaItem}
    (loaded : item.HasData) :
    (pipeline.ingestItem handle id item).2 = .ok () ∧
      Tracks (course.emit [⟨id, handle, item⟩]) (pipeline.ingestItem handle id item).1 := by
  cases item with
  | format announced =>
      rw [Pipeline.ingestItem, tracks.send going]
      refine ⟨rfl, tracks.emit _ pipeline.sessions pipeline.playout opened loaded rfl
        (fun _ _ => rfl) ?_ rfl⟩
      intro session found
      exact (tracks.fits handle session found).format announced
  | frame coded => exact tracks.ingestFrame going opened id loaded
  | picture picture =>
      have decoding := SessionTable.sameStreams_modify (Session.sameStream_setState .decoding)
        handle pipeline.sessions
      have taken := (tracks.sameStreams decoding).emit ⟨id, handle, .picture picture⟩
        (pipeline.sessions.modify handle (Session.setState .decoding))
        (pipeline.playout.decoded picture) opened loaded rfl (fun _ _ => rfl)
        (by
          intro session found
          exact ((tracks.sameStreams decoding).fits handle session found).picture picture)
        rfl
      have noEvent : Emission.event? course.drops course.emissions
          ⟨id, handle, .picture picture⟩ = none := rfl
      rw [withEmission, noEvent, Option.toList_none, List.append_nil] at taken
      exact ⟨rfl, taken⟩

theorem Course.emit_nil (course : Course) : course.emit [] = course := by
  unfold emit
  rw [List.append_nil]

theorem Course.emit_append (front back : List Emission) (course : Course) :
    course.emit (front ++ back) = (course.emit front).emit back := by
  unfold emit
  rw [← List.append_assoc]

theorem Tracks.ingestItems (tracks : Tracks course pipeline) (going : course.isOver = false)
    {handle : Nat} (opened : handle < course.opened) (id : String) {items : List MediaItem}
    (loaded : ∀ item ∈ items, item.HasData) :
    (pipeline.ingestItems handle id items).2 = .ok () ∧
      Tracks (course.emit (items.map (Emission.mk id handle)))
        (pipeline.ingestItems handle id items).1 := by
  induction items generalizing course pipeline with
  | nil =>
      rw [List.map_nil, Course.emit_nil]
      exact ⟨rfl, tracks⟩
  | cons item rest ih =>
      obtain ⟨accepted, next⟩ := tracks.ingestItem going opened id (loaded item List.mem_cons_self)
      have others : ∀ other ∈ rest, other.HasData := fun other member =>
        loaded other (List.mem_cons_of_mem _ member)
      rw [ingestItems_cons_of_ok accepted, List.map_cons, ← List.singleton_append,
        Course.emit_append]
      exact ih next going opened others

/-! ### Taking in chunks -/

theorem ingest_of_session? {handle : Nat} {session : Session}
    (found : pipeline.sessions.session? handle = some session) (id : String) (chunk : Bytes)
    (timestamp : Nat) :
    pipeline.ingest handle id chunk timestamp =
      match session.assembler.assemble chunk timestamp with
      | .error refusal => (pipeline, .error refusal)
      | .ok (next, items) =>
          (pipeline.withSessions (pipeline.sessions.modify handle fun _ =>
            { session with assembler := next })).ingestItems handle id items := by
  unfold ingest
  rw [SessionTable.update_of_session? found, Session.assemble]
  cases session.assembler.assemble chunk timestamp <;> rfl

theorem ingest_of_session?_eq_none {handle : Nat}
    (absent : pipeline.sessions.session? handle = none) (id : String) (chunk : Bytes)
    (timestamp : Nat) : pipeline.ingest handle id chunk timestamp = (pipeline, .ok ()) := by
  unfold ingest SessionTable.update
  rw [absent]

theorem Tracks.advance (tracks : Tracks course pipeline) {handle : Nat} {session : Session}
    (found : pipeline.sessions.session? handle = some session) {chunk : Bytes} {timestamp : Nat}
    {next : Assembler} {items : List MediaItem}
    (assembled : session.assembler.assemble chunk timestamp = .ok (next, items)) :
    Tracks course (pipeline.withSessions
      (pipeline.sessions.modify handle fun _ => { session with assembler := next })) := by
  have fits := tracks.fits handle session found
  apply tracks.withSessions (SessionTable.size_modify _ _ _)
  intro other standing foundOther
  rw [SessionTable.session?_modify] at foundOther
  by_cases own : handle = other
  · subst own
    rw [if_pos rfl] at foundOther
    obtain ⟨_, _, rfl⟩ := Option.map_eq_some_iff.mp foundOther
    exact ⟨fits.reference, fits.decodes.assemble assembled⟩
  · rw [if_neg own] at foundOther
    exact tracks.fits other standing foundOther

theorem Tracks.lt_opened (tracks : Tracks course pipeline) {handle : Nat} {session : Session}
    (found : pipeline.sessions.session? handle = some session) : handle < course.opened := by
  rw [← tracks.opened]
  exact (Array.getElem?_eq_some_iff.mp found).1

/-- Taking in a chunk fails only where the assembler refuses it. -/
theorem Tracks.ingest (tracks : Tracks course pipeline) (going : course.isOver = false)
    (handle : Nat) (id : String) (chunk : Bytes) (timestamp : Nat) :
    Tracks (course.emit (pipeline.returned handle id chunk timestamp))
        (pipeline.ingest handle id chunk timestamp).1 ∧
      ∀ failure, (pipeline.ingest handle id chunk timestamp).2 = .error failure →
        (∃ cause, failure = .parse cause) ∨
          ∃ width height, course.inlineDecoder chunk width height = .error failure := by
  cases found : pipeline.sessions.session? handle with
  | none =>
      rw [ingest_of_session?_eq_none found, returned, found, Course.emit_nil]
      refine ⟨tracks, ?_⟩
      intro failure failed
      cases failed
  | some session =>
      rw [ingest_of_session? found, returned_of_session? found]
      cases assembled : session.assembler.assemble chunk timestamp with
      | error refusal =>
          dsimp only
          rw [Course.emit_nil]
          refine ⟨tracks, ?_⟩
          intro failure failed
          obtain rfl := Except.error.inj failed
          exact (tracks.fits handle session found).decodes.refusal assembled
      | ok outcome =>
          obtain ⟨next, items⟩ := outcome
          obtain ⟨accepted, taken⟩ := (tracks.advance found assembled).ingestItems going
            (tracks.lt_opened found) id (Assembler.hasData_assemble assembled)
          refine ⟨taken, ?_⟩
          intro failure failed
          dsimp only at failed
          rw [accepted] at failed
          contradiction

theorem Tracks.ingestUnits (tracks : Tracks course pipeline) (going : course.isOver = false)
    (handle : Nat) (id : String) (units : List Bytes) :
    Tracks (course.emit (unitEmissions handle id pipeline units))
      (units.foldl (fun pipeline unit => (pipeline.ingest handle id unit 0).1) pipeline) := by
  induction units generalizing course pipeline with
  | nil =>
      rw [unitEmissions, Course.emit_nil]
      exact tracks
  | cons unit rest ih =>
      rw [unitEmissions, Course.emit_append]
      exact ih (tracks.ingest going handle id unit 0).1 going

end Pipeline
end VideoIngest
