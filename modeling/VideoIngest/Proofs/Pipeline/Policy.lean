import VideoIngest.Proofs.Pipeline.Timing

/-!
Where presentation times never decrease, the policy on regressions makes no difference: every frame
is sent, and all that a run shows is the same.
-/

namespace VideoIngest

/-- The session of the item has sent no frame that is later. -/
def Intake.IsInOrder (intake : Intake) : Prop :=
  ∀ coded, intake.emission.item = .frame coded → ∀ session, intake.session? = some session →
    session.isRegression coded.timestamp = false

namespace Pipeline

def withPolicy (policy : RegressionPolicy) (drops : Bool) (pipeline : Pipeline) : Pipeline :=
  { pipeline with config := { pipeline.config with policy }, dropsRegressed := drops }

def underPolicy {α : Type} (policy : RegressionPolicy) (drops : Bool) (outcome : Pipeline × α) :
    Pipeline × α :=
  (outcome.1.withPolicy policy drops, outcome.2)

variable {policy : RegressionPolicy} {drops : Bool} {pipeline : Pipeline}

/-! ### Items and chunks -/

private theorem update_acceptTimestamp {table : SessionTable} {handle timestamp : Nat}
    (inOrder : ∀ session, table.session? handle = some session →
      session.isRegression timestamp = false) (drops other : Bool) :
    table.update handle (Session.acceptTimestamp timestamp drops) =
      table.update handle (Session.acceptTimestamp timestamp other) := by
  unfold SessionTable.update
  cases found : table.session? handle with
  | none => rfl
  | some session =>
      have regression := inOrder session found
      simp only [Session.acceptTimestamp, regression, Bool.and_false]

private theorem ingestFrame_withPolicy {handle : Nat} {coded : CodedFrame}
    (inOrder : ∀ session, pipeline.sessions.session? handle = some session →
      session.isRegression coded.timestamp = false) :
    (pipeline.withPolicy policy drops).ingestFrame handle coded =
      underPolicy policy drops (pipeline.ingestFrame handle coded) := by
  have same : (pipeline.withPolicy policy drops).sessions.update handle
      (Session.acceptTimestamp coded.timestamp (pipeline.withPolicy policy drops).dropsRegressed) =
        pipeline.sessions.update handle
          (Session.acceptTimestamp coded.timestamp pipeline.dropsRegressed) :=
    update_acceptTimestamp inOrder _ _
  unfold ingestFrame
  rw [same]
  cases pipeline.sessions.update handle
    (Session.acceptTimestamp coded.timestamp pipeline.dropsRegressed) with
  | mk sessions accepted =>
      have sends : ((pipeline.withPolicy policy drops).withSessions sessions).send (.frame coded) =
          underPolicy policy drops ((pipeline.withSessions sessions).send (.frame coded)) := rfl
      dsimp only
      split
      · rw [sends]
        rcases (pipeline.withSessions sessions).send (.frame coded) with ⟨next, failure | done⟩
        · rfl
        · rfl
      · rfl

private theorem ingestItem_withPolicy {handle : Nat} {id : String} {item : MediaItem}
    (inOrder : Intake.IsInOrder ⟨pipeline, ⟨id, handle, item⟩⟩) :
    (pipeline.withPolicy policy drops).ingestItem handle id item =
      underPolicy policy drops (pipeline.ingestItem handle id item) := by
  cases item with
  | format announced => rfl
  | frame coded => exact ingestFrame_withPolicy (inOrder coded rfl)
  | picture picture => rfl

private theorem ingestItems_withPolicy {handle : Nat} {id : String} {items : List MediaItem}
    (inOrder : ∀ intake ∈ pipeline.itemIntakes handle id items, intake.IsInOrder) :
    (pipeline.withPolicy policy drops).ingestItems handle id items =
      underPolicy policy drops (pipeline.ingestItems handle id items) := by
  induction items generalizing pipeline with
  | nil => rfl
  | cons item rest ih =>
      rw [itemIntakes] at inOrder
      obtain ⟨first, later⟩ := List.forall_mem_cons.mp inOrder
      rw [ingestItems, ingestItem_withPolicy first, ingestItems]
      rcases taken : pipeline.ingestItem handle id item with ⟨next, failure | done⟩
      · rfl
      · rw [taken] at later
        exact ih later

private theorem ingest_withPolicy {handle : Nat} {id : String} {chunk : Bytes} {timestamp : Nat}
    (inOrder : ∀ intake ∈ pipeline.chunkIntakes handle id chunk timestamp, intake.IsInOrder) :
    (pipeline.withPolicy policy drops).ingest handle id chunk timestamp =
      underPolicy policy drops (pipeline.ingest handle id chunk timestamp) := by
  have sameSessions : (pipeline.withPolicy policy drops).sessions = pipeline.sessions := rfl
  unfold ingest
  unfold chunkIntakes at inOrder
  rw [sameSessions]
  rcases assembled : pipeline.sessions.update handle (Session.assemble chunk timestamp) with
    ⟨sessions, _ | refusal | items⟩
  · rfl
  · rfl
  · rw [assembled] at inOrder
    exact @ingestItems_withPolicy policy drops _ _ _ _ inOrder

private theorem ingestUnits_withPolicy {handle : Nat} {id : String} {units : List Bytes}
    (inOrder : ∀ intake ∈ unitIntakes handle id pipeline units, intake.IsInOrder) :
    units.foldl (fun pipeline unit => (pipeline.ingest handle id unit 0).1)
        (pipeline.withPolicy policy drops) =
      (units.foldl (fun pipeline unit => (pipeline.ingest handle id unit 0).1)
        pipeline).withPolicy policy drops := by
  induction units generalizing pipeline with
  | nil => rfl
  | cons unit rest ih =>
      obtain ⟨first, later⟩ := List.forall_mem_append.mp inOrder
      rw [List.foldl_cons, List.foldl_cons, ingest_withPolicy first]
      exact ih later

/-! ### Turns -/

theorem openSession_withPolicy {id media codecName description : String}
    (inOrder : ∀ intake ∈ pipeline.openingIntakes id media codecName description,
      intake.IsInOrder) :
    (pipeline.withPolicy policy drops).openSession id media codecName description =
      underPolicy policy drops (pipeline.openSession id media codecName description) := by
  have sameState : (pipeline.withPolicy policy drops).isStopped = pipeline.isStopped := rfl
  unfold openSession
  unfold openingIntakes at inOrder
  rw [sameState]
  split
  · rfl
  · rename_i going
    rw [if_neg going] at inOrder
    cases known : sessionCodec media codecName with
    | error refusal => rfl
    | ok codec =>
        rw [known] at inOrder
        exact Prod.ext (ingestUnits_withPolicy inOrder) rfl

theorem push_withPolicy {id : String} {chunk : Bytes} {timestamp : Nat}
    (inOrder : ∀ intake ∈ pipeline.pushIntakes id chunk timestamp, intake.IsInOrder) :
    (pipeline.withPolicy policy drops).push id chunk timestamp =
      underPolicy policy drops (pipeline.push id chunk timestamp) := by
  have sameState : (pipeline.withPolicy policy drops).isStopped = pipeline.isStopped := rfl
  have sameSessions : (pipeline.withPolicy policy drops).sessions = pipeline.sessions := rfl
  unfold push
  unfold pushIntakes at inOrder
  rw [sameState, sameSessions]
  split
  · rfl
  · rename_i going
    rw [if_neg going] at inOrder
    cases bound : pipeline.sessions.handle? id with
    | none => rfl
    | some handle =>
        rw [bound] at inOrder
        exact @ingest_withPolicy policy drops (pipeline.touched handle) handle id chunk timestamp
          inOrder

theorem onData_withPolicy {id : String} {chunk : Bytes} {time : PresentationTime}
    (inOrder : ∀ intake ∈ pipeline.pushIntakes id chunk time.toMillis, intake.IsInOrder) :
    (pipeline.withPolicy policy drops).onData id chunk time =
      underPolicy policy drops (pipeline.onData id chunk time) := by
  unfold onData
  rw [push_withPolicy inOrder]
  rcases pipeline.push id chunk time.toMillis with ⟨next, failure | done⟩
  · cases failure <;> rfl
  · rfl

theorem stop_withPolicy (pipeline : Pipeline) :
    (pipeline.withPolicy policy drops).stop = pipeline.stop.withPolicy policy drops := by
  have sameState : (pipeline.withPolicy policy drops).isStopped = pipeline.isStopped := rfl
  unfold stop
  rw [sameState]
  split
  · rfl
  · rfl

theorem answer_withPolicy {request : Request}
    (inOrder : ∀ intake ∈ pipeline.intakes (.request request), intake.IsInOrder) :
    (pipeline.withPolicy policy drops).answer request =
      underPolicy policy drops (pipeline.answer request) := by
  cases request with
  | openSession id media codecName description =>
      rw [answer, openSession_withPolicy inOrder]
      rfl
  | newSession id media codecName description =>
      rw [answer, openSession_withPolicy inOrder]
      rfl
  | push id chunk timestamp =>
      rw [answer, push_withPolicy inOrder]
      rfl
  | data id chunk time =>
      rw [answer, onData_withPolicy inOrder]
      rfl
  | closeSession id => rfl
  | addSink sink wants => rfl
  | removeSink sink => rfl
  | stop => exact Prod.ext (stop_withPolicy pipeline) rfl

theorem turn_withPolicy {turn : Turn}
    (inOrder : ∀ intake ∈ pipeline.intakes turn, intake.IsInOrder) :
    (pipeline.withPolicy policy drops).turn turn =
      (pipeline.turn turn).withPolicy policy drops := by
  cases turn with
  | work count => rfl
  | request request => exact congrArg Prod.fst (answer_withPolicy inOrder)

end Pipeline

/-! ### What a run shows -/

structure Observation where
  response : Option Pipeline.Response
  calls : List EngineEvent
  received : Array (String × Picture)
  state : String → Option SessionState
  stats : Stats

namespace Pipeline

def observed (pipeline : Pipeline) (turn : Turn) : List Observation :=
  [{ response := match turn with
      | .request request => some (pipeline.answer request).2
      | .work _ => none
     calls := (pipeline.turn turn).engine.calls
     received := (pipeline.turn turn).playout.audience.received
     state := (pipeline.turn turn).sessions.state?
     stats := (pipeline.turn turn).stats }]

private theorem presented_withPolicy (policy : RegressionPolicy) (drops : Bool)
    (pipeline : Pipeline) (turn : Turn) :
    (pipeline.withPolicy policy drops).presented turn = pipeline.presented turn := rfl

private theorem observed_withPolicy {policy : RegressionPolicy} {drops : Bool} {pipeline : Pipeline}
    {turn : Turn} (inOrder : ∀ intake ∈ pipeline.intakes turn, intake.IsInOrder) :
    (pipeline.withPolicy policy drops).observed turn = pipeline.observed turn := by
  unfold observed
  rw [turn_withPolicy inOrder]
  cases turn with
  | work count => rfl
  | request request =>
      dsimp only
      rw [answer_withPolicy inOrder]
      rfl

end Pipeline

theorem mem_of_mem_admitted {drops : Bool} {items : List MediaItem} {coded : CodedFrame}
    (member : coded ∈ admitted drops items) : .frame coded ∈ items := by
  obtain ⟨earlier, item, inItems, isFrame⟩ := History.exists_of_mem_collect member
  cases item with
  | format announced => cases isFrame
  | picture picture => cases isFrame
  | frame other =>
      obtain ⟨_, same⟩ := Option.ite_none_left_eq_some.mp isFrame
      obtain rfl := Option.some.inj same
      exact inItems

namespace PipelineRun

def observations (run : PipelineRun) : List Observation :=
  Pipeline.along Pipeline.observed run.first run.turns

def underPolicy (policy : RegressionPolicy) (run : PipelineRun) : PipelineRun :=
  { run with config := { run.config with policy } }

/-- No frame that the session of an item has emitted before is later. -/
private theorem IsWellTimed.le_of_mem {run : PipelineRun} (timed : run.IsWellTimed)
    {earlier later : List Intake} {intake : Intake}
    (split : run.intakes = earlier ++ intake :: later) {front back : CodedFrame}
    (isBack : intake.emission.item = .frame back)
    (member : .frame front ∈ itemsOf intake.emission.handle (earlier.map Intake.emission)) :
    front.timestamp ≤ back.timestamp := by
  obtain ⟨inOrder, _⟩ := frames_in_order timed
  rw [← run.intakes_follow.1, split, List.map_append, List.map_cons] at inOrder
  obtain ⟨emission, ofSession, isFront⟩ := List.mem_map.mp member
  obtain ⟨inFront, same⟩ := List.mem_filter.mp ofSession
  obtain ⟨_, _, across⟩ := List.pairwise_append.mp inOrder
  exact across emission inFront intake.emission List.mem_cons_self (of_decide_eq_true same) front
    back isFront isBack

theorem IsWellTimed.isInOrder {run : PipelineRun} (timed : run.IsWellTimed) :
    ∀ intake ∈ run.intakes, intake.IsInOrder := by
  intro intake member coded isFrame session found
  obtain ⟨earlier, later, split⟩ := List.append_of_mem member
  obtain ⟨standing, foundStanding, stands⟩ := (run.intakes_follow.2 earlier intake later split).stands
  obtain rfl := Option.some.inj (found.symm.trans foundStanding)
  unfold Session.isRegression
  rw [stands, reference]
  cases last : (admitted run.drops (itemsOf intake.emission.handle
      (earlier.map Intake.emission))).getLast? with
  | none => rfl
  | some front =>
      have atMost := timed.le_of_mem split isFrame
        (mem_of_mem_admitted (List.mem_of_getLast? last))
      exact decide_eq_false (by omega)

theorem IsWellTimed.isAdmission {run : PipelineRun} (timed : run.IsWellTimed) {intake : Intake}
    (member : intake ∈ run.intakes) {coded : CodedFrame}
    (isFrame : intake.emission.item = .frame coded) : intake.IsAdmission coded := by
  obtain ⟨earlier, later, split⟩ := List.append_of_mem member
  have rule := (run.intakes_follow.2 earlier intake later split).frame coded isFrame
  rwa [if_neg] at rule
  intro regressed
  obtain ⟨_, isLater⟩ := Bool.and_eq_true_iff.mp regressed
  obtain ⟨item, inItems, isAfter⟩ := List.any_eq_true.mp isLater
  cases item with
  | format announced => cases isAfter
  | picture picture => cases isAfter
  | frame front =>
      have atMost := timed.le_of_mem split isFrame inItems
      have later := of_decide_eq_true isAfter
      omega

theorem IsWellTimed.same_underPolicy {run : PipelineRun} (timed : run.IsWellTimed)
    (policy : RegressionPolicy) :
    (run.underPolicy policy).last =
        run.last.withPolicy policy (policy.drops run.engine.toleratesRegression) ∧
      (run.underPolicy policy).observations = run.observations ∧
      (run.underPolicy policy).presentations = run.presentations := by
  induction run using turn_induction with
  | first run none =>
      have alsoNone : (run.underPolicy policy).turns = [] := none
      rw [last, last, observations, observations, presentations, presentations, alsoNone, none]
      exact ⟨rfl, rfl, rfl⟩
  | next run turn ih =>
      obtain ⟨sameLast, observed, presented⟩ := ih timed.of_andThen.1
      have inTurn : ∀ intake ∈ run.last.intakes turn, intake.IsInOrder := by
        intro intake member
        apply timed.isInOrder
        rw [intakes, along_andThen]
        exact List.mem_append_right _ member
      have sameRun : (run.andThen turn).underPolicy policy =
          (run.underPolicy policy).andThen turn := rfl
      rw [sameRun]
      refine ⟨?_, ?_, ?_⟩
      · rw [last_andThen, last_andThen, sameLast]
        exact Pipeline.turn_withPolicy inTurn
      · rw [observations, along_andThen, sameLast, observations, along_andThen]
        exact congrArg₂ _ observed (Pipeline.observed_withPolicy inTurn)
      · rw [presentations, along_andThen, sameLast, presentations, along_andThen]
        exact congrArg₂ _ presented (Pipeline.presented_withPolicy _ _ _ turn)

theorem IsWellTimed.underPolicy {run : PipelineRun} (timed : run.IsWellTimed)
    (policy : RegressionPolicy) : (run.underPolicy policy).IsWellTimed := by
  obtain ⟨_, _, presented⟩ := timed.same_underPolicy policy
  constructor
  · rw [presented]
    exact timed.inOrder
  · rw [presented]
    exact timed.bounded

end PipelineRun
end VideoIngest
