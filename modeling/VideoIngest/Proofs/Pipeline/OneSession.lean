import VideoIngest.Proofs.Assembler.KeyFrames
import VideoIngest.Proofs.Pipeline.Bindings
import VideoIngest.Proofs.Pipeline.Intake
import VideoIngest.Proofs.Pipeline.SessionState

/-!
One session from its opening on, in a pipeline with any past.

What its chunks come to depends on these chunks alone. It is added to what other sessions have sent,
and the decode loop may be at any point of that.
-/

namespace VideoIngest

/-! ### The session -/

def SessionTable.Leads (id : String) (handle : Nat) (assembler : Assembler)
    (table : SessionTable) : Prop :=
  ∃ last, table.Hosts id handle assembler last

private theorem SessionTable.Leads.of_sameStreams {id : String} {handle : Nat}
    {assembler : Assembler} {table other : SessionTable} (leads : table.Leads id handle assembler)
    (same : table.SameStreams other) : other.Leads id handle assembler := by
  obtain ⟨last, hosts⟩ := leads
  exact ⟨last, hosts.of_sameStreams same⟩

private theorem Assembler.assemble_nal (codec : NalCodec) (kept : AnnexB) (chunk : Bytes)
    (timestamp : Nat) :
    (nal codec kept).assemble chunk timestamp =
      .ok (.nal codec (kept.assemble codec chunk timestamp).1,
        (kept.assemble codec chunk timestamp).2) := rfl

private theorem Session.assembler_acceptTimestamp (timestamp : Nat) (drops : Bool)
    (session : Session) :
    (session.acceptTimestamp timestamp drops).1.assembler = session.assembler := by
  unfold acceptTimestamp
  split <;> rfl

namespace Pipeline

variable {course : Course} {pipeline : Pipeline} {id : String} {handle : Nat}
  {assembler next : Assembler} {chunk : Bytes} {timestamp : Nat} {items : List MediaItem}

private theorem sessions_ingestFrame (handle : Nat) (frame : CodedFrame) (pipeline : Pipeline) :
    (pipeline.ingestFrame handle frame).1.sessions =
      (pipeline.sessions.update handle
        (Session.acceptTimestamp frame.timestamp pipeline.dropsRegressed)).1 := by
  unfold ingestFrame
  dsimp only
  split
  · unfold send DecodeLoop.send
    dsimp only
    split
    · rename_i outcome
      exact congrArg (fun result => result.1.sessions) outcome.symm
    · rename_i outcome
      exact congrArg (fun result => result.1.sessions) outcome.symm
  · rfl

private theorem leads_ingestItem (leads : pipeline.sessions.Leads id handle assembler)
    (item : MediaItem) :
    (pipeline.ingestItem handle id item).1.sessions.Leads id handle assembler := by
  obtain ⟨last, hosts⟩ := leads
  cases item with
  | format announced => exact ⟨last, hosts⟩
  | frame coded =>
      obtain ⟨session, assembles, _, _, updated⟩ :=
        hosts.update (Session.acceptTimestamp coded.timestamp pipeline.dropsRegressed)
      rw [Session.assembler_acceptTimestamp, assembles] at updated
      rw [ingestItem, sessions_ingestFrame]
      exact ⟨_, updated⟩
  | picture picture =>
      exact ⟨last, hosts.of_sameStreams
        (SessionTable.sameStreams_modify (Session.sameStream_setState .decoding) handle _)⟩

private theorem leads_ingestItems (leads : pipeline.sessions.Leads id handle assembler)
    (items : List MediaItem) :
    (pipeline.ingestItems handle id items).1.sessions.Leads id handle assembler := by
  induction items generalizing pipeline with
  | nil => exact leads
  | cons item rest ih =>
      have first := leads_ingestItem leads item
      rw [ingestItems]
      cases taken : pipeline.ingestItem handle id item with
      | mk next result =>
          rw [taken] at first
          cases result with
          | ok done => exact ih first
          | error failure => exact first

private theorem leads_ingest (leads : pipeline.sessions.Leads id handle assembler)
    (assembled : assembler.assemble chunk timestamp = .ok (next, items)) :
    (pipeline.ingest handle id chunk timestamp).1.sessions.Leads id handle next := by
  obtain ⟨last, hosts⟩ := leads
  obtain ⟨session, found, rfl, rfl⟩ := hosts.stands
  rw [ingest_of_session? found, assembled]
  exact leads_ingestItems ⟨_, hosts.replace { session with assembler := next }⟩ items

private theorem returned_of_leads (leads : pipeline.sessions.Leads id handle assembler)
    (assembled : assembler.assemble chunk timestamp = .ok (next, items)) :
    pipeline.returned handle id chunk timestamp = items.map (Emission.mk id handle) := by
  obtain ⟨last, hosts⟩ := leads
  obtain ⟨session, found, rfl, rfl⟩ := hosts.stands
  rw [returned_of_session? found, assembled]

/-! ### What is refused -/

private theorem Tracks.refused_ingestItem (tracks : Tracks course pipeline)
    (going : course.isOver = false)
    (opened : handle < course.opened) (id : String) (item : MediaItem) :
    (pipeline.ingestItem handle id item).1.refused +
        (refusedOf course.drops course.emissions).length =
      pipeline.refused +
        (refusedOf course.drops (course.emissions ++ [⟨id, handle, item⟩])).length := by
  rw [refusedOf_append_singleton, List.length_append, Nat.add_comm (List.length _), ← Nat.add_assoc]
  congr 1
  cases item with
  | format announced =>
      rw [Pipeline.ingestItem, tracks.send going]
      rfl
  | frame coded =>
      have inTable : handle < pipeline.sessions.sessions.size := tracks.opened.symm ▸ opened
      obtain ⟨session, found⟩ := SessionTable.exists_session? inTable
      have regression : (pipeline.dropsRegressed && session.isRegression coded.timestamp) =
          MediaItem.isRegressed course.drops (itemsOf handle course.emissions) coded := by
        rw [tracks.drops]
        exact (tracks.fits handle session found).isRegression coded
      have refusal : Emission.refused? course.drops course.emissions ⟨id, handle, .frame coded⟩ =
          if MediaItem.isRegressed course.drops (itemsOf handle course.emissions) coded then
            some coded
          else none := rfl
      rw [Pipeline.ingestItem, ingestFrame_of_session? found (tracks.receiving_of_going going),
        regression, refusal]
      cases MediaItem.isRegressed course.drops (itemsOf handle course.emissions) coded with
      | true => rfl
      | false => rfl
  | picture picture => rfl

private theorem Tracks.refused_ingestItems (tracks : Tracks course pipeline)
    (going : course.isOver = false) (opened : handle < course.opened) (id : String)
    (loaded : ∀ item ∈ items, item.HasData) :
    (pipeline.ingestItems handle id items).1.refused +
        (refusedOf course.drops course.emissions).length =
      pipeline.refused +
        (refusedOf course.drops
          (course.emissions ++ items.map (Emission.mk id handle))).length := by
  induction items generalizing course pipeline with
  | nil =>
      rw [List.map_nil, List.append_nil]
      rfl
  | cons item rest ih =>
      obtain ⟨isLoaded, others⟩ := List.forall_mem_cons.mp loaded
      obtain ⟨accepted, next⟩ := tracks.ingestItem going opened id isLoaded
      have first := tracks.refused_ingestItem going opened id item
      have behind := ih next going opened others
      change _ + (refusedOf course.drops (course.emissions ++ [⟨id, handle, item⟩])).length =
        _ + (refusedOf course.drops ((course.emissions ++ [⟨id, handle, item⟩]) ++ _)).length
        at behind
      rw [ingestItems_cons_of_ok accepted, List.map_cons, List.append_cons]
      omega

private theorem Tracks.ingest_of_assembled (tracks : Tracks course pipeline)
    (going : course.isOver = false) {session : Session}
    (found : pipeline.sessions.session? handle = some session)
    (assembled : session.assembler.assemble chunk timestamp = .ok (next, items)) (id : String) :
    (pipeline.ingest handle id chunk timestamp).2 = .ok () ∧
      (pipeline.ingest handle id chunk timestamp).1.refused +
          (refusedOf course.drops course.emissions).length =
        pipeline.refused +
          (refusedOf course.drops
            (course.emissions ++ items.map (Emission.mk id handle))).length := by
  have loaded := Assembler.hasData_assemble assembled
  have advanced := tracks.advance found assembled
  have opened := tracks.lt_opened found
  rw [ingest_of_session? found, assembled]
  exact ⟨(advanced.ingestItems going opened id loaded).1,
    advanced.refused_ingestItems going opened id loaded⟩

private theorem Tracks.leads_work (tracks : Tracks course pipeline) (going : course.isOver = false)
    (leads : pipeline.sessions.Leads id handle assembler) (count : Nat) :
    (pipeline.work count).sessions.Leads id handle assembler := by
  change (pipeline.work count).loop.sessions.Leads id handle assembler
  rw [tracks.loop_work going]
  exact leads.of_sameStreams (DecodeLoop.sameStreams_process _ pipeline.loop)

/-! ### From the opening on -/

/-- A session was opened under the identifier when the pipeline stood at `start`, and has had these
chunks since. Beyond that nothing was taken in. -/
structure HasFed (first : Course) (start : Pipeline) (id : String) (codec : NalCodec)
    (chunks : List (Bytes × Nat)) (course : Course) (pipeline : Pipeline) : Prop where
  before : Tracks first start
  began : first.isOver = false
  tracks : Tracks course pipeline
  going : course.isOver = false
  engine : course.engine = first.engine
  drops : course.drops = first.drops
  leads : pipeline.sessions.Leads id start.sessions.sessions.size
    (.nal codec (AnnexB.assembleAll codec chunks (.fresh codec)).1)
  emissions : course.emissions = first.emissions ++
    (AnnexB.assembleAll codec chunks (.fresh codec)).2.map
      (Emission.mk id start.sessions.sessions.size)
  refused : pipeline.refused + (refusedOf first.drops first.emissions).length =
    start.refused + (refusedOf course.drops course.emissions).length

variable {first : Course} {start : Pipeline} {codec : NalCodec} {chunks : List (Bytes × Nat)}

theorem HasFed.returned (fed : HasFed first start id codec chunks course pipeline)
    (chunk : Bytes × Nat) :
    pipeline.returned start.sessions.sessions.size id chunk.1 chunk.2 =
      ((AnnexB.assembleAll codec chunks (.fresh codec)).1.assemble codec chunk.1 chunk.2).2.map
        (Emission.mk id start.sessions.sessions.size) :=
  returned_of_leads fed.leads rfl

private theorem HasFed.ingest (fed : HasFed first start id codec chunks course pipeline)
    (chunk : Bytes × Nat) :
    (pipeline.ingest start.sessions.sessions.size id chunk.1 chunk.2).2 = .ok () ∧
      HasFed first start id codec (chunks ++ [chunk])
        (course.emit (pipeline.returned start.sessions.sessions.size id chunk.1 chunk.2))
        (pipeline.ingest start.sessions.sessions.size id chunk.1 chunk.2).1 := by
  obtain ⟨last, hosts⟩ := fed.leads
  obtain ⟨session, found, assembles, rfl⟩ := hosts.stands
  have assembled := Assembler.assemble_nal codec
    (AnnexB.assembleAll codec chunks (.fresh codec)).1 chunk.1 chunk.2
  rw [← assembles] at assembled
  obtain ⟨accepted, refused⟩ := fed.tracks.ingest_of_assembled fed.going found assembled id
  rw [← fed.returned] at refused
  refine ⟨accepted, fed.before, fed.began, (fed.tracks.ingest fed.going _ id chunk.1 chunk.2).1,
    fed.going, fed.engine, fed.drops, ?_, ?_, ?_⟩
  · rw [AnnexB.assembleAll_append_singleton]
    exact leads_ingest fed.leads rfl
  · rw [AnnexB.assembleAll_append_singleton, List.map_append, ← List.append_assoc, ← fed.emissions,
      ← fed.returned]
    rfl
  · have before := fed.refused
    change _ = _ + (refusedOf course.drops (course.emissions ++ _)).length
    omega

/-- The first chunk makes a session wait for a format, which says nothing about its stream. -/
private theorem HasFed.touched (fed : HasFed first start id codec chunks course pipeline) :
    HasFed first start id codec chunks course (pipeline.touched start.sessions.sessions.size) :=
  { fed with
    tracks := fed.tracks.touched _
    leads := fed.leads.of_sameStreams (sameStreams_touched _ pipeline) }

theorem HasFed.chunkEmissions_eq (fed : HasFed first start id codec chunks course pipeline)
    (chunk : Bytes × Nat) :
    pipeline.chunkEmissions id chunk.1 chunk.2 =
      pipeline.returned start.sessions.sessions.size id chunk.1 chunk.2 := by
  obtain ⟨last, hosts⟩ := fed.leads
  exact chunkEmissions_of_handle?_eq_some (fed.tracks.stopped.trans fed.going) hosts.bound _ _

theorem HasFed.push (fed : HasFed first start id codec chunks course pipeline)
    (chunk : Bytes × Nat) :
    (pipeline.push id chunk.1 chunk.2).2 = .ok () ∧
      HasFed first start id codec (chunks ++ [chunk])
        (course.emit (pipeline.chunkEmissions id chunk.1 chunk.2))
        (pipeline.push id chunk.1 chunk.2).1 := by
  obtain ⟨last, hosts⟩ := fed.leads
  have taken := fed.touched.ingest chunk
  rw [returned_touched, ← fed.chunkEmissions_eq,
    ← push_of_handle?_eq_some (fed.tracks.stopped.trans fed.going) hosts.bound] at taken
  exact taken

private theorem HasFed.work (fed : HasFed first start id codec chunks course pipeline)
    (count : Nat) :
    HasFed first start id codec chunks (course.work (pipeline.loop.queue.pending.take count))
      (pipeline.work count) :=
  { fed with
    tracks := (fed.tracks.work_of_going fed.going count).2
    leads := fed.tracks.leads_work fed.going fed.leads count }

theorem HasFed.feed (fed : HasFed first start id codec chunks course pipeline)
    (steps : List FeedStep) :
    ∃ last, HasFed first start id codec (chunks ++ steps.filterMap FeedStep.chunk?) last
      (steps.foldl (Pipeline.feed id) pipeline) := by
  induction steps generalizing chunks course pipeline with
  | nil =>
      rw [List.filterMap_nil, List.append_nil]
      exact ⟨course, fed⟩
  | cons step rest ih =>
      cases step with
      | push chunk timestamp =>
          have next := ih (fed.push (chunk, timestamp)).2
          rw [List.append_assoc] at next
          exact next
      | work count => exact ih (fed.work count)

private theorem HasFed.ingestUnits (fed : HasFed first start id codec chunks course pipeline)
    (units : List Bytes) :
    HasFed first start id codec (chunks ++ units.map fun unit => (unit, 0))
      (course.emit (unitEmissions start.sessions.sessions.size id pipeline units))
      (units.foldl
        (fun pipeline unit => (pipeline.ingest start.sessions.sessions.size id unit 0).1)
        pipeline) := by
  induction units generalizing chunks course pipeline with
  | nil =>
      rw [List.map_nil, List.append_nil, unitEmissions, Course.emit_nil]
      exact fed
  | cons unit rest ih =>
      have next := ih (fed.ingest (unit, 0)).2
      rw [List.append_assoc, ← Course.emit_append] at next
      exact next

theorem Tracks.hasFed_insert (tracks : Tracks first start) (going : first.isOver = false)
    (id media : String) (codec : NalCodec) :
    HasFed first start id codec [] { first with opened := first.opened + 1 }
      (start.withSessions (start.sessions.insert
        (.start id media (.ofCodec start.inlineDecoder codec.codec))).1) where
  before := tracks
  began := going
  tracks := tracks.insert id media codec.codec
  going := going
  engine := rfl
  drops := rfl
  leads := by
    have hosts := SessionTable.hosts_insert
      (.start id media (.ofCodec start.inlineDecoder codec.codec)) start.sessions
    cases codec with
    | h264 => exact ⟨_, hosts⟩
    | h265 => exact ⟨_, hosts⟩
  emissions := (List.append_nil _).symm
  refused := rfl

/-- A session is opened, and the units of its description are its first chunks. -/
theorem Tracks.hasFed_openSession (tracks : Tracks first start) (going : first.isOver = false)
    {media codecName : String} (opens : sessionCodec media codecName = .ok codec.codec)
    (id description : String) :
    (start.openSession id media codecName description).2 = .ok () ∧
      HasFed first start id codec
        ((Sdp.initialUnits codec.codec description).map fun unit => (unit, 0))
        { first with
          opened := first.opened + 1
          emissions := first.emissions ++
            start.openingEmissions id media codecName description }
        (start.openSession id media codecName description).1 := by
  have fed := (tracks.hasFed_insert going id media codec).ingestUnits
    (Sdp.initialUnits codec.codec description)
  have isGoing : start.isStopped = false := tracks.stopped.trans going
  unfold Pipeline.openSession openingEmissions
  rw [isGoing, if_neg Bool.false_ne_true, if_neg Bool.false_ne_true, opens]
  exact ⟨rfl, fed⟩

end Pipeline
end VideoIngest
