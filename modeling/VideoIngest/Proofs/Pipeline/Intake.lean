import VideoIngest.Proofs.Pipeline.Run

/-!
The items of a run as the pipeline takes them in, one by one, and what each of them comes to in view
of the items before it.
-/

namespace VideoIngest

def Session.withReference (timestamp : Nat) (session : Session) : Session :=
  { session with lastTimestamp := some timestamp }

structure Intake where
  before : Pipeline
  emission : Emission

namespace Intake

def outcome (intake : Intake) : Pipeline × Except IngestError Unit :=
  intake.before.ingestItem intake.emission.handle intake.emission.id intake.emission.item

def after (intake : Intake) : Pipeline := intake.outcome.1

def session? (intake : Intake) : Option Session :=
  intake.before.sessions.session? intake.emission.handle

def sentFrame? (intake : Intake) : Option CodedFrame :=
  match intake.after.loop.queue.pending.drop intake.before.loop.queue.pending.length with
  | [.frame coded] => some coded
  | _ => none

/-- The item is counted as dropped. Beyond that nothing happens. -/
structure IsRefusal (intake : Intake) : Prop where
  result : intake.outcome.2 = .ok ()
  counted : intake.after.stats =
    { intake.before.stats with dropped := intake.before.stats.dropped + 1 }
  unchanged : intake.after = { intake.before with refused := intake.before.refused + 1 }

/-- The frame is counted and sent behind all that is on its way, and its timestamp is the one that
the next frame of its session is held against. -/
structure IsAdmission (coded : CodedFrame) (intake : Intake) : Prop where
  result : intake.outcome.2 = .ok ()
  counted : intake.after.stats =
    { intake.before.stats with enqueued := intake.before.stats.enqueued + 1 }
  queue : intake.after.loop.queue.pending = intake.before.loop.queue.pending ++ [.frame coded]
  sessions : intake.after.sessions = intake.before.sessions.modify intake.emission.handle
    (Session.withReference coded.timestamp)

structure Follows (drops : Bool) (earlier : List Emission) (intake : Intake) : Prop where
  result : intake.outcome.2 = .ok ()
  stands : ∃ session, intake.session? = some session ∧
    session.lastTimestamp = reference drops (itemsOf intake.emission.handle earlier)
  frame : ∀ coded, intake.emission.item = .frame coded →
    if MediaItem.isRegressed drops (itemsOf intake.emission.handle earlier) coded then
      intake.IsRefusal
    else intake.IsAdmission coded
  other : (∀ coded, intake.emission.item ≠ .frame coded) → intake.sentFrame? = none

variable {intake : Intake}

theorem IsRefusal.sentFrame?_eq_none (refusal : intake.IsRefusal) : intake.sentFrame? = none := by
  have pending : intake.after.loop.queue.pending = intake.before.loop.queue.pending := by
    rw [refusal.unchanged]
    rfl
  rw [sentFrame?, pending, List.drop_length]

private theorem IsAdmission.sentFrame?_eq {coded : CodedFrame}
    (admission : intake.IsAdmission coded) : intake.sentFrame? = some coded := by
  rw [sentFrame?, admission.queue, List.drop_left]

theorem Follows.sentFrame?_eq {drops : Bool} {earlier : List Emission}
    (follows : intake.Follows drops earlier) :
    intake.sentFrame? =
      intake.emission.item.admitted? drops (itemsOf intake.emission.handle earlier) := by
  cases item : intake.emission.item with
  | format announced =>
      apply follows.other
      rw [item]
      simp
  | frame coded =>
      have rule := follows.frame coded item
      rw [MediaItem.admitted?]
      split at rule
      · rename_i regressed
        rw [if_pos regressed, rule.sentFrame?_eq_none]
      · rename_i inOrder
        rw [if_neg inOrder, rule.sentFrame?_eq]
  | picture picture =>
      apply follows.other
      rw [item]
      simp

end Intake

namespace Pipeline

/-! ### The items of a turn -/

def itemIntakes (handle : Nat) (id : String) : Pipeline → List MediaItem → List Intake
  | _, [] => []
  | pipeline, item :: rest =>
      ⟨pipeline, ⟨id, handle, item⟩⟩ ::
        match pipeline.ingestItem handle id item with
        | (_, .error _) => []
        | (next, .ok ()) => itemIntakes handle id next rest

def chunkIntakes (handle : Nat) (id : String) (chunk : Bytes) (timestamp : Nat)
    (pipeline : Pipeline) : List Intake :=
  match pipeline.sessions.update handle (Session.assemble chunk timestamp) with
  | (_, none) => []
  | (_, some (.error _)) => []
  | (sessions, some (.ok items)) => (pipeline.withSessions sessions).itemIntakes handle id items

def pushIntakes (id : String) (chunk : Bytes) (timestamp : Nat) (pipeline : Pipeline) :
    List Intake :=
  if pipeline.isStopped then []
  else
    match pipeline.sessions.handle? id with
    | none => []
    | some handle =>
        (pipeline.withSessions (pipeline.sessions.update handle
          (Session.transition .codecKnown .awaitingFormat)).1).chunkIntakes handle id chunk timestamp

def unitIntakes (handle : Nat) (id : String) : Pipeline → List Bytes → List Intake
  | _, [] => []
  | pipeline, unit :: rest =>
      pipeline.chunkIntakes handle id unit 0 ++
        unitIntakes handle id (pipeline.ingest handle id unit 0).1 rest

def openingIntakes (id media codecName description : String) (pipeline : Pipeline) : List Intake :=
  if pipeline.isStopped then []
  else
    match sessionCodec media codecName with
    | .error _ => []
    | .ok codec =>
        let (sessions, handle) := pipeline.sessions.insert
          (.start id media (.ofCodec pipeline.inlineDecoder codec))
        unitIntakes handle id (pipeline.withSessions sessions) (Sdp.initialUnits codec description)

def intakes (pipeline : Pipeline) : Turn → List Intake
  | .request (.openSession id media codecName description) =>
      pipeline.openingIntakes id media codecName description
  | .request (.newSession id media codecName description) =>
      pipeline.openingIntakes id media codecName description
  | .request (.push id chunk timestamp) => pipeline.pushIntakes id chunk timestamp
  | .request (.data id chunk time) => pipeline.pushIntakes id chunk time.toMillis
  | _ => []

variable {course : Course} {pipeline : Pipeline}

/-! ### One item -/

def withFrame (handle : Nat) (coded : CodedFrame) (pipeline : Pipeline) : Pipeline :=
  { (pipeline.withLoop (pipeline.loop.withPending
      (pipeline.loop.queue.pending ++ [.frame coded]))).withSessions
        (pipeline.sessions.modify handle (Session.withReference coded.timestamp)) with
    enqueued := pipeline.enqueued + 1 }

theorem ingestFrame_of_session? {handle : Nat} {session : Session}
    (found : pipeline.sessions.session? handle = some session)
    (receiving : pipeline.loop.queue.receiving = true) (coded : CodedFrame) :
    pipeline.ingestFrame handle coded =
      (if pipeline.dropsRegressed && session.isRegression coded.timestamp then
        { pipeline with refused := pipeline.refused + 1 }
      else pipeline.withFrame handle coded, .ok ()) := by
  have updated := SessionTable.update_of_session? found
    (Session.acceptTimestamp coded.timestamp pipeline.dropsRegressed)
  rw [Session.acceptTimestamp] at updated
  unfold ingestFrame
  cases regressed : pipeline.dropsRegressed && session.isRegression coded.timestamp with
  | true =>
      rw [regressed, if_pos rfl] at updated
      dsimp only at updated
      rw [updated, SessionTable.modify_self found]
      rfl
  | false =>
      rw [regressed, if_neg Bool.false_ne_true] at updated
      dsimp only at updated
      have reference : (pipeline.sessions.modify handle fun _ =>
          { session with lastTimestamp := some coded.timestamp }) =
            pipeline.sessions.modify handle (Session.withReference coded.timestamp) :=
        SessionTable.modify_congr found rfl
      have stillReceiving : (pipeline.withSessions (pipeline.sessions.modify handle
          (Session.withReference coded.timestamp))).loop.queue.receiving = true := receiving
      rw [updated, reference]
      dsimp only
      rw [if_pos rfl, send_eq stillReceiving]
      rfl

theorem Tracks.receiving_of_going (tracks : Tracks course pipeline)
    (going : course.isOver = false) : pipeline.loop.queue.receiving = true := by
  rw [tracks.receiving, going]
  rfl

private theorem Tracks.follows_frame (tracks : Tracks course pipeline)
    (going : course.isOver = false)
    {handle : Nat} {session : Session} (found : pipeline.sessions.session? handle = some session)
    (id : String) (coded : CodedFrame) :
    if MediaItem.isRegressed course.drops (itemsOf handle course.emissions) coded then
      Intake.IsRefusal ⟨pipeline, ⟨id, handle, .frame coded⟩⟩
    else Intake.IsAdmission coded ⟨pipeline, ⟨id, handle, .frame coded⟩⟩ := by
  have regression : (pipeline.dropsRegressed && session.isRegression coded.timestamp) =
      MediaItem.isRegressed course.drops (itemsOf handle course.emissions) coded := by
    rw [tracks.drops]
    exact (tracks.fits handle session found).isRegression coded
  have outcome := ingestFrame_of_session? found (tracks.receiving_of_going going) coded
  rw [regression] at outcome
  split
  · rename_i regressed
    rw [if_pos regressed] at outcome
    have after : Intake.after ⟨pipeline, ⟨id, handle, .frame coded⟩⟩ =
        { pipeline with refused := pipeline.refused + 1 } := congrArg Prod.fst outcome
    refine ⟨congrArg Prod.snd outcome, ?_, after⟩
    rw [after]
    rfl
  · rename_i inOrder
    rw [if_neg inOrder] at outcome
    have after : Intake.after ⟨pipeline, ⟨id, handle, .frame coded⟩⟩ =
        pipeline.withFrame handle coded := congrArg Prod.fst outcome
    refine ⟨congrArg Prod.snd outcome, ?_, ?_, ?_⟩
    · rw [after]
      rfl
    · rw [after]
      rfl
    · rw [after]
      rfl

theorem Tracks.follows (tracks : Tracks course pipeline) (going : course.isOver = false)
    {handle : Nat} (opened : handle < course.opened) (id : String) (item : MediaItem) :
    Intake.Follows course.drops course.emissions ⟨pipeline, ⟨id, handle, item⟩⟩ := by
  have inTable : handle < pipeline.sessions.sessions.size := tracks.opened.symm ▸ opened
  obtain ⟨session, found⟩ := SessionTable.exists_session? inTable
  have stands := (tracks.fits handle session found).reference
  cases item with
  | format announced =>
      have outcome := tracks.send going (.formatChange id announced)
      refine ⟨congrArg Prod.snd outcome, ⟨session, found, stands⟩, fun coded => nofun, ?_⟩
      intro _
      have pending : (Intake.after ⟨pipeline, ⟨id, handle, .format announced⟩⟩).loop.queue.pending =
          pipeline.loop.queue.pending ++ [.formatChange id announced] :=
        congrArg (fun outcome => outcome.1.loop.queue.pending) outcome
      rw [Intake.sentFrame?, pending, List.drop_left]
  | frame coded =>
      have rule := tracks.follows_frame going found id coded
      refine ⟨?_, ⟨session, found, stands⟩, ?_, fun other => absurd rfl (other coded)⟩
      · split at rule
        · exact rule.result
        · exact rule.result
      · rintro other same
        obtain rfl := MediaItem.frame.inj same
        exact rule
  | picture picture =>
      refine ⟨rfl, ⟨session, found, stands⟩, fun coded => nofun, fun _ => ?_⟩
      change (match pipeline.loop.queue.pending.drop pipeline.loop.queue.pending.length with
        | [.frame coded] => some coded
        | _ => none) = none
      rw [List.drop_length]

/-! ### The items of a turn, one by one -/

/-- The items that are taken in are those that were returned, and each comes to what it should in
view of those before it. -/
def Course.Explains (course : Course) (intakes : List Intake) (emissions : List Emission) : Prop :=
  intakes.map Intake.emission = emissions ∧
    History.Always (fun earlier intake =>
      intake.Follows course.drops (course.emissions ++ earlier.map Intake.emission)) intakes

theorem Course.explains_nil (course : Course) : course.Explains [] [] :=
  ⟨rfl, History.always_nil _⟩

private theorem Course.Explains.append {front back : List Intake} {emissions more : List Emission}
    (first : course.Explains front emissions) (behind : (course.emit emissions).Explains back more) :
    course.Explains (front ++ back) (emissions ++ more) := by
  obtain ⟨same, follow⟩ := first
  obtain ⟨sameBehind, followBehind⟩ := behind
  subst same
  constructor
  · rw [List.map_append, sameBehind]
  · apply History.always_append follow
    intro earlier intake later split
    have there := followBehind earlier intake later split
    rw [List.map_append, ← List.append_assoc]
    exact there

private theorem Course.explains_singleton {intake : Intake}
    (follows : intake.Follows course.drops course.emissions) :
    course.Explains [intake] [intake.emission] := by
  refine ⟨rfl, History.always_singleton ?_⟩
  rwa [List.map_nil, List.append_nil]

private theorem Tracks.explains_items (tracks : Tracks course pipeline)
    (going : course.isOver = false)
    {handle : Nat} (opened : handle < course.opened) (id : String) {items : List MediaItem}
    (loaded : ∀ item ∈ items, item.HasData) :
    course.Explains (pipeline.itemIntakes handle id items) (items.map (Emission.mk id handle)) := by
  induction items generalizing course pipeline with
  | nil => exact course.explains_nil
  | cons item rest ih =>
      obtain ⟨isLoaded, others⟩ := List.forall_mem_cons.mp loaded
      obtain ⟨accepted, next⟩ := tracks.ingestItem going opened id isLoaded
      have behind := ih next going opened others
      rw [itemIntakes]
      cases outcome : pipeline.ingestItem handle id item with
      | mk after result =>
          rw [outcome] at accepted behind
          dsimp only at accepted behind
          rw [accepted]
          exact (Course.explains_singleton (tracks.follows going opened id item)).append behind

private theorem Tracks.explains_chunk (tracks : Tracks course pipeline)
    (going : course.isOver = false) (handle : Nat) (id : String) (chunk : Bytes) (timestamp : Nat) :
    course.Explains (pipeline.chunkIntakes handle id chunk timestamp)
      (pipeline.returned handle id chunk timestamp) := by
  cases found : pipeline.sessions.session? handle with
  | none =>
      rw [chunkIntakes, SessionTable.update, returned, found]
      exact course.explains_nil
  | some session =>
      rw [chunkIntakes, SessionTable.update_of_session? found, returned_of_session? found,
        Session.assemble]
      cases assembled : session.assembler.assemble chunk timestamp with
      | error refusal => exact course.explains_nil
      | ok outcome =>
          obtain ⟨next, items⟩ := outcome
          exact (tracks.advance found assembled).explains_items going (tracks.lt_opened found) id
            (Assembler.hasData_assemble assembled)

private theorem Tracks.explains_units (tracks : Tracks course pipeline)
    (going : course.isOver = false) (handle : Nat) (id : String) (units : List Bytes) :
    course.Explains (unitIntakes handle id pipeline units)
      (unitEmissions handle id pipeline units) := by
  induction units generalizing course pipeline with
  | nil => exact course.explains_nil
  | cons unit rest ih =>
      rw [unitIntakes, unitEmissions]
      exact (tracks.explains_chunk going handle id unit 0).append
        (ih (tracks.ingest going handle id unit 0).1 going)

private theorem Tracks.explains_push (tracks : Tracks course pipeline) (id : String) (chunk : Bytes)
    (timestamp : Nat) :
    course.Explains (pipeline.pushIntakes id chunk timestamp)
      (pipeline.chunkEmissions id chunk timestamp) := by
  unfold pushIntakes chunkEmissions
  rw [tracks.stopped]
  cases going : course.isOver with
  | true => exact course.explains_nil
  | false =>
      rw [if_neg Bool.false_ne_true, if_neg Bool.false_ne_true]
      cases pipeline.sessions.handle? id with
      | none => exact course.explains_nil
      | some handle =>
          have explains := (tracks.touched handle).explains_chunk going handle id chunk timestamp
          rw [returned_touched] at explains
          exact explains

private theorem Tracks.explains_opening (tracks : Tracks course pipeline)
    (id media codecName description : String) :
    course.Explains (pipeline.openingIntakes id media codecName description)
      (pipeline.openingEmissions id media codecName description) := by
  unfold openingIntakes openingEmissions
  rw [tracks.stopped]
  cases going : course.isOver with
  | true => exact course.explains_nil
  | false =>
      rw [if_neg Bool.false_ne_true, if_neg Bool.false_ne_true]
      cases sessionCodec media codecName with
      | error refusal => exact course.explains_nil
      | ok codec => exact (tracks.insert id media codec).explains_units going _ id _

theorem Tracks.explains (tracks : Tracks course pipeline) (turn : Turn) :
    course.Explains (pipeline.intakes turn) (pipeline.emitted turn) := by
  cases turn with
  | work count => exact course.explains_nil
  | request request =>
      cases request with
      | openSession id media codecName description => exact tracks.explains_opening _ _ _ _
      | newSession id media codecName description => exact tracks.explains_opening _ _ _ _
      | push id chunk timestamp => exact tracks.explains_push id chunk timestamp
      | data id chunk time => exact tracks.explains_push id chunk time.toMillis
      | closeSession id => exact course.explains_nil
      | addSink sink wants => exact course.explains_nil
      | removeSink sink => exact course.explains_nil
      | stop => exact course.explains_nil

end Pipeline

/-! ### The items of a run -/

def PipelineRun.intakes (run : PipelineRun) : List Intake :=
  Pipeline.along Pipeline.intakes run.first run.turns

theorem PipelineRun.intakes_follow (run : PipelineRun) :
    run.intakes.map Intake.emission = run.emissions ∧
      History.Always (fun earlier intake =>
        intake.Follows run.drops (earlier.map Intake.emission)) run.intakes := by
  induction run using PipelineRun.turn_induction with
  | first run none =>
      unfold PipelineRun.intakes PipelineRun.emissions
      rw [none]
      exact ⟨rfl, History.always_nil _⟩
  | next run turn ih =>
      obtain ⟨same, follow⟩ := ih
      obtain ⟨course, tracks, takes⟩ := run.exists_course
      obtain ⟨sameTurn, followTurn⟩ := tracks.explains turn
      have more : (run.andThen turn).intakes = run.intakes ++ run.last.intakes turn :=
        run.along_andThen _ turn
      have emissions : (run.andThen turn).emissions = run.emissions ++ run.last.emitted turn :=
        run.along_andThen _ turn
      rw [more, emissions]
      constructor
      · rw [List.map_append, same, sameTurn]
      · apply History.always_append follow
        intro earlier intake later split
        have there := followTurn earlier intake later split
        rw [takes.drops, takes.emissions] at there
        rw [List.map_append, same]
        exact there

end VideoIngest
