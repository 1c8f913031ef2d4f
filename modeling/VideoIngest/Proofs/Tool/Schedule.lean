import VideoIngest.Proofs.Pipeline.Policy
import VideoIngest.Tool.Run

/-!
The instants at which the tool presents the chunks of a file never decrease, so the policy on
regressions makes no difference to it.
-/

namespace VideoIngest.Tool

/-! ### Instants -/

private theorem presentationOffset_le {first second : Nat} (interval : Nat)
    (inOrder : first ≤ second) :
    presentationOffset interval first ≤ presentationOffset interval second := by
  have multiples : min first greatestMultiple ≤ min second greatestMultiple := by omega
  have products := Nat.mul_le_mul_left interval multiples
  unfold presentationOffset
  omega

private theorem instant_instant (nanoseconds : Int) :
    (instant nanoseconds).instant = nanoseconds := by
  have whole := Nat.div_add_mod nanoseconds.natAbs nanosPerSecond
  unfold nanosPerSecond at whole
  simp only [instant, PresentationTime.instant, nanosPerSecond, decide_eq_true_eq]
  split
  · omega
  · omega

def scheduled (begin : Int) (interval index : Nat) : Int :=
  begin + presentationOffset interval index

theorem scheduled_le (begin : Int) {first second : Nat} (interval : Nat)
    (inOrder : first ≤ second) :
    scheduled begin interval first ≤ scheduled begin interval second := by
  have offsets := presentationOffset_le interval inOrder
  unfold scheduled
  omega

private theorem toMillis_scheduled_le {begin : Int} {interval first second : Nat}
    (inOrder : first ≤ second) (bounded : scheduled begin interval second < horizon) :
    (instant (scheduled begin interval first)).toMillis ≤
      (instant (scheduled begin interval second)).toMillis := by
  have instants := scheduled_le begin interval inOrder
  rw [PresentationTime.toMillis_eq, PresentationTime.toMillis_eq, instant_instant, instant_instant]
  · exact millisAt_le instants
  · rwa [instant_instant]
  · rw [instant_instant]
    omega

/-! ### The tool as a run of its pipeline -/

def chunkTurns (begin : Int) (interval : Nat) : Nat → List Bytes → Pipeline → List Turn
  | _, [], _ => []
  | index, chunk :: rest, pipeline =>
      let sends : Turn :=
        .request (.data sessionId chunk (instant (begin + presentationOffset interval index)))
      let waits : Turn := .work ((pipeline.turn sends).loop.queue.pending.length + 1)
      sends :: waits ::
        chunkTurns begin interval (index + 1) rest ((pipeline.turn sends).turn waits)

def openedPipeline (options : Options) : Pipeline :=
  ((freshPipeline options).openSession sessionId "video" options.codec.name "").1

def openingTurns (options : Options) : List Turn :=
  [.request (.addSink sinkName .anything),
    .request (.openSession sessionId "video" options.codec.name "")]

def closingTurns : List Turn := [.request (.closeSession sessionId), .request .stop]

def asRun (options : Options) (begin : Int) (interval : Nat) (chunks : List Bytes) :
    PipelineRun where
  config := options.config
  inlineDecoder := .jpeg
  engine := .passthrough
  audience := .empty
  turns := openingTurns options ++
    (chunkTurns begin interval 0 chunks (openedPipeline options) ++ closingTurns)

variable {begin : Int} {interval : Nat}

private theorem feed_fst (index : Nat) (chunks : List Bytes) (pipeline : Pipeline) :
    (feed begin interval index chunks pipeline).1 =
      pipeline.after (chunkTurns begin interval index chunks pipeline) := by
  induction chunks generalizing index pipeline with
  | nil => rfl
  | cons chunk rest ih => exact ih (index + 1) _

theorem first_asRun (options : Options) (begin : Int) (interval : Nat) (chunks : List Bytes) :
    (asRun options begin interval chunks).first.addSink sinkName .anything =
      freshPipeline options := rfl

theorem after_openingTurns (options : Options) (begin : Int) (interval : Nat)
    (chunks : List Bytes) :
    (asRun options begin interval chunks).first.after (openingTurns options) =
      openedPipeline options := by
  simp only [openingTurns, Pipeline.after, List.foldl_cons, List.foldl_nil, Pipeline.turn,
    Pipeline.answer, first_asRun, openedPipeline]

private theorem last_asRun (options : Options) (begin : Int) (interval : Nat)
    (chunks : List Bytes) : (asRun options begin interval chunks).last =
      ((feed begin interval 0 chunks (openedPipeline options)).1.closeSession sessionId).stop := by
  have turns : (asRun options begin interval chunks).turns = openingTurns options ++
      (chunkTurns begin interval 0 chunks (openedPipeline options) ++ closingTurns) := rfl
  rw [PipelineRun.last, turns, Pipeline.after_append, after_openingTurns, Pipeline.after_append,
    ← feed_fst]
  simp only [closingTurns, Pipeline.after, List.foldl_cons, List.foldl_nil, Pipeline.turn,
    Pipeline.answer]

/-- What comes of the session is what the tool reports. -/
theorem ingest_eq_asRun {options : Options} {chunks : List Bytes} {outcome : Outcome}
    (finished : ingest options begin interval chunks = .ok outcome) :
    outcome.pictures =
        (asRun options begin interval chunks).last.playout.audience.received.toList.map (·.2) ∧
      outcome.summary.stats = (asRun options begin interval chunks).last.stats := by
  rw [last_asRun]
  unfold ingest at finished
  unfold openedPipeline
  rcases opened : (freshPipeline options).openSession sessionId "video" options.codec.name "" with
    ⟨pipeline, refusal | done⟩
  · rw [opened] at finished
    cases finished
  · rw [opened] at finished
    obtain rfl := Except.ok.inj finished
    exact ⟨rfl, rfl⟩

/-! ### Its presentation times -/

private theorem presentedAt_cases (id : String) (instant : Int) (pipeline : Pipeline) :
    pipeline.presentedAt id instant = [] ∨
      ∃ handle, pipeline.presentedAt id instant = [(handle, instant)] := by
  unfold Pipeline.presentedAt
  split
  · exact .inl rfl
  · cases pipeline.sessions.handle? id with
    | none => exact .inl rfl
    | some handle => exact .inr ⟨handle, rfl⟩

private theorem presentations_chunkTurns (index : Nat) (chunks : List Bytes) (pipeline : Pipeline) :
    ((Pipeline.along Pipeline.presented pipeline
        (chunkTurns begin interval index chunks pipeline)).Pairwise fun first second =>
          first.2 ≤ second.2) ∧
      ∀ presentation ∈ Pipeline.along Pipeline.presented pipeline
        (chunkTurns begin interval index chunks pipeline),
          ∃ place, index ≤ place ∧ place < index + chunks.length ∧
            presentation.2 = scheduled begin interval place := by
  induction chunks generalizing index pipeline with
  | nil => exact ⟨List.Pairwise.nil, fun _ => nofun⟩
  | cons chunk rest ih =>
      rw [chunkTurns, Pipeline.along, Pipeline.along]
      generalize sends : Turn.request (.data sessionId chunk
        (instant (begin + presentationOffset interval index))) = request
      generalize waits : Turn.work ((pipeline.turn request).loop.queue.pending.length + 1) = work
      obtain ⟨inOrder, known⟩ := ih (index + 1) ((pipeline.turn request).turn work)
      have silent : (pipeline.turn request).presented work = [] := by
        rw [← waits]
        rfl
      have presented : pipeline.presented request =
          pipeline.presentedAt sessionId (scheduled begin interval index) := by
        rw [← instant_instant (scheduled begin interval index), ← sends]
        rfl
      have later : ∀ presentation ∈ Pipeline.along Pipeline.presented
          ((pipeline.turn request).turn work) (chunkTurns begin interval (index + 1) rest
            ((pipeline.turn request).turn work)),
          ∃ place, index ≤ place ∧ place < index + (chunk :: rest).length ∧
            presentation.2 = scheduled begin interval place := by
        intro presentation member
        obtain ⟨place, above, below, isScheduled⟩ := known presentation member
        rw [List.length_cons]
        exact ⟨place, by omega, by omega, isScheduled⟩
      rw [silent, List.nil_append, presented]
      rcases presentedAt_cases sessionId (scheduled begin interval index) pipeline with
        none | ⟨handle, one⟩
      · rw [none, List.nil_append]
        exact ⟨inOrder, later⟩
      · rw [one, List.singleton_append, List.pairwise_cons, List.forall_mem_cons]
        refine ⟨⟨?_, inOrder⟩, ⟨index, Nat.le_refl _, ?_, rfl⟩, later⟩
        · intro presentation member
          obtain ⟨place, above, _, isScheduled⟩ := later presentation member
          rw [isScheduled]
          exact scheduled_le begin interval above
        · rw [List.length_cons]
          omega

private theorem presentations_openingTurns (options : Options) (pipeline : Pipeline) :
    Pipeline.along Pipeline.presented pipeline (openingTurns options) = [] := rfl

private theorem presentations_closingTurns (pipeline : Pipeline) :
    Pipeline.along Pipeline.presented pipeline closingTurns = [] := rfl

private theorem presentations_asRun (options : Options) (begin : Int) (interval : Nat)
    (chunks : List Bytes) :
    (asRun options begin interval chunks).presentations =
      Pipeline.along Pipeline.presented (openedPipeline options)
        (chunkTurns begin interval 0 chunks (openedPipeline options)) := by
  have turns : (asRun options begin interval chunks).turns = openingTurns options ++
      (chunkTurns begin interval 0 chunks (openedPipeline options) ++ closingTurns) := rfl
  rw [PipelineRun.presentations, turns, Pipeline.along_append, after_openingTurns,
    Pipeline.along_append, presentations_openingTurns, presentations_closingTurns,
    List.nil_append, List.append_nil]

theorem isWellTimed_asRun {options : Options} {chunks : List Bytes}
    (bounded : scheduled begin interval (chunks.length - 1) < horizon) :
    (asRun options begin interval chunks).IsWellTimed := by
  obtain ⟨inOrder, known⟩ := @presentations_chunkTurns begin interval 0 chunks
    (openedPipeline options)
  constructor
  · rw [presentations_asRun]
    refine inOrder.imp ?_
    intro first second ordered _
    exact ordered
  · rw [presentations_asRun]
    intro presentation member
    obtain ⟨place, _, below, isScheduled⟩ := known presentation member
    have atMost : scheduled begin interval place ≤
        scheduled begin interval (chunks.length - 1) :=
      scheduled_le begin interval (by omega)
    rw [isScheduled]
    omega

/-! ### The policy -/

theorem settle_withPolicy (policy : RegressionPolicy) (drops : Bool) (pipeline : Pipeline) :
    (pipeline.withPolicy policy drops).settle = pipeline.settle.withPolicy policy drops := rfl

private theorem feed_withPolicy {policy : RegressionPolicy} {drops : Bool} (index : Nat)
    (chunks : List Bytes) (pipeline : Pipeline)
    (inOrder : ∀ intake ∈ Pipeline.along Pipeline.intakes pipeline
      (chunkTurns begin interval index chunks pipeline), intake.IsInOrder) :
    feed begin interval index chunks (pipeline.withPolicy policy drops) =
      Pipeline.underPolicy policy drops (feed begin interval index chunks pipeline) := by
  induction chunks generalizing index pipeline with
  | nil => rfl
  | cons chunk rest ih =>
      rw [chunkTurns, Pipeline.along, Pipeline.along] at inOrder
      obtain ⟨first, others⟩ := List.forall_mem_append.mp inOrder
      obtain ⟨_, later⟩ := List.forall_mem_append.mp others
      have next : feed begin interval (index + 1) rest ((pipeline.onData sessionId chunk
          (instant (begin + presentationOffset interval index))).1.settle.withPolicy policy drops) =
            _ := ih (index + 1) _ later
      rw [feed, feed, Pipeline.onData_withPolicy first]
      rcases taken : pipeline.onData sessionId chunk
        (instant (begin + presentationOffset interval index)) with ⟨after, isAccepted⟩
      rw [taken] at next
      simp only [Pipeline.underPolicy, settle_withPolicy]
      rw [next]
      rfl

private theorem freshPipeline_withPolicy (options : Options) (policy : RegressionPolicy) :
    freshPipeline { options with policy } =
      (freshPipeline options).withPolicy policy
        (policy.drops Engine.passthrough.toleratesRegression) := rfl

private theorem inOrder_asRun {options : Options} {chunks : List Bytes}
    (bounded : scheduled begin interval (chunks.length - 1) < horizon) :
    (∀ intake ∈ (freshPipeline options).openingIntakes sessionId "video" options.codec.name "",
      intake.IsInOrder) ∧
    ∀ intake ∈ Pipeline.along Pipeline.intakes (openedPipeline options)
      (chunkTurns begin interval 0 chunks (openedPipeline options)), intake.IsInOrder := by
  have inOrder := (@isWellTimed_asRun begin interval options chunks bounded).isInOrder
  have turns : (asRun options begin interval chunks).turns = openingTurns options ++
      (chunkTurns begin interval 0 chunks (openedPipeline options) ++ closingTurns) := rfl
  rw [PipelineRun.intakes, turns, Pipeline.along_append, after_openingTurns,
    Pipeline.along_append] at inOrder
  obtain ⟨opening, others⟩ := List.forall_mem_append.mp inOrder
  obtain ⟨sending, _⟩ := List.forall_mem_append.mp others
  refine ⟨?_, sending⟩
  intro intake member
  apply opening
  rw [openingTurns, Pipeline.along, Pipeline.along]
  apply List.mem_append_right
  apply List.mem_append_left
  exact member

/-- The tool comes to the same under every policy. -/
private theorem ingest_withPolicy {options : Options} {chunks : List Bytes}
    (bounded : scheduled begin interval (chunks.length - 1) < horizon)
    (policy : RegressionPolicy) :
    ingest { options with policy } begin interval chunks =
      ingest options begin interval chunks := by
  obtain ⟨opening, sending⟩ := @inOrder_asRun begin interval options chunks bounded
  unfold ingest
  rw [freshPipeline_withPolicy, Pipeline.openSession_withPolicy opening]
  unfold openedPipeline at sending
  rcases opened : (freshPipeline options).openSession sessionId "video" options.codec.name "" with
    ⟨pipeline, refusal | done⟩
  · rfl
  · rw [opened] at sending
    have fed := @feed_withPolicy begin interval policy
      (policy.drops Engine.passthrough.toleratesRegression) 0 chunks pipeline sending
    simp only [Pipeline.underPolicy]
    rw [fed]
    rcases feed begin interval 0 chunks pipeline with ⟨last, rejected⟩
    have stopped : ((last.withPolicy policy
        (policy.drops Engine.passthrough.toleratesRegression)).closeSession sessionId).stop =
          (last.closeSession sessionId).stop.withPolicy policy
            (policy.drops Engine.passthrough.toleratesRegression) :=
      Pipeline.stop_withPolicy (last.closeSession sessionId)
    simp only [Pipeline.underPolicy, stopped]
    rfl

/-- Where the presentation times of each session never decrease and fit into 64 bits of
milliseconds, before 1970 or after, a run shows the same under every policy, and every frame is
sent. The instants of the tool are such times, from whatever instant on and at whatever interval;
so it comes to the same under every policy, and no frame of its session is refused. -/
theorem policy_makes_no_difference :
    (∀ (run : PipelineRun) (policy : RegressionPolicy), run.IsWellTimed →
      (run.underPolicy policy).observations = run.observations ∧
        ∀ intake ∈ (run.underPolicy policy).intakes, ∀ coded,
          intake.emission.item = .frame coded → intake.IsAdmission coded) ∧
    (∀ (begin : Int) (interval first second : Nat), first ≤ second →
      begin + presentationOffset interval second < horizon →
        (instant (begin + presentationOffset interval first)).toMillis ≤
          (instant (begin + presentationOffset interval second)).toMillis) ∧
    ∀ (options : Options) (begin : Int) (interval : Nat) (chunks : List Bytes),
      begin + presentationOffset interval (chunks.length - 1) < horizon →
        (∀ policy, ingest { options with policy } begin interval chunks =
          ingest options begin interval chunks) ∧
        (∀ outcome, ingest options begin interval chunks = .ok outcome →
          outcome.pictures = (asRun options begin interval
              chunks).last.playout.audience.received.toList.map (·.2) ∧
            outcome.summary.stats = (asRun options begin interval chunks).last.stats) ∧
        ∀ intake ∈ (asRun options begin interval chunks).intakes, ∀ coded,
          intake.emission.item = .frame coded → intake.IsAdmission coded := by
  refine ⟨?_, ?_, ?_⟩
  · intro run policy timed
    obtain ⟨_, observed, _⟩ := timed.same_underPolicy policy
    exact ⟨observed, fun intake member coded isFrame =>
      (timed.underPolicy policy).isAdmission member isFrame⟩
  · intro begin interval first second inOrder bounded
    exact toMillis_scheduled_le inOrder bounded
  · intro options begin interval chunks bounded
    refine ⟨ingest_withPolicy bounded, fun outcome => ingest_eq_asRun, ?_⟩
    intro intake member coded isFrame
    exact (isWellTimed_asRun bounded).isAdmission member isFrame

/-- Two sessions in turn, the first of them from before 1970 on. -/
def doorFromBefore1970 : PipelineRun where
  config := { PipelineConfig.standard with policy := .forward }
  inlineDecoder := .jpeg
  engine := .passthrough
  audience := .empty
  turns :=
    [.request (.openSession "door" "video" "VP9" ""),
      .request (.openSession "hall" "video" "H264" ""),
      .request (.data "door" [0x82] ⟨5, 0, true⟩),
      .request (.data "hall" [0, 0, 1, 0x41, 1, 0, 0, 1, 0x41, 2] ⟨7, 500000, false⟩),
      .request (.data "door" [0x82] ⟨2, 999999, true⟩),
      .work 3,
      .request (.data "door" [0x82] ⟨1, 2000000, false⟩),
      .request (.data "hall" [0, 0, 1, 0x65, 3] ⟨7, 900000, false⟩)]

theorem policy_makes_no_difference_to_door :
    doorFromBefore1970.IsWellTimed ∧
      (doorFromBefore1970.underPolicy .drop).observations = doorFromBefore1970.observations ∧
      doorFromBefore1970.last.stats.enqueued = 6 ∧
      (-50000000 : Int) + presentationOffset 40000000 ([[0x82], [0x82], [0x86]].length - 1) <
        horizon ∧
      ingest ⟨"door", .vp9, Options.standardRate, false, .drop⟩ (-50000000) 40000000
          [[0x82], [0x82], [0x86]] =
        ingest ⟨"door", .vp9, Options.standardRate, false, .forward⟩ (-50000000) 40000000
          [[0x82], [0x82], [0x86]] := by
  have timed : doorFromBefore1970.IsWellTimed := ⟨by decide +kernel, by decide +kernel⟩
  have bounded : (-50000000 : Int) +
      presentationOffset 40000000 ([[0x82], [0x82], [0x86]].length - 1) < horizon := by
    decide +kernel
  obtain ⟨ofRuns, _, ofTool⟩ := policy_makes_no_difference
  exact ⟨timed, (ofRuns doorFromBefore1970 .drop timed).1, by decide +kernel, bounded,
    (ofTool ⟨"door", .vp9, Options.standardRate, false, .forward⟩ (-50000000) 40000000
      [[0x82], [0x82], [0x86]] bounded).1 .drop⟩

end VideoIngest.Tool
