import VideoIngest.Proofs.Pipeline.Intake

/-!
Runs in which no session is given a presentation time behind a later one. Their frames are in the
order of their timestamps, session by session, and none of them can be refused.
-/

namespace VideoIngest

/-! ### Instants -/

def PresentationTime.instant (time : PresentationTime) : Int :=
  if time.isBefore then -(time.seconds * 1000000000 + time.nanoseconds)
  else time.seconds * 1000000000 + time.nanoseconds

/-- The instant whose milliseconds do not fit into 64 bits any more. -/
def horizon : Int := Number.wordBound64 * 1000000

def millisAt (instant : Int) : Nat := (instant / 1000000).toNat

theorem millisAt_le {first second : Int} (inOrder : first ≤ second) :
    millisAt first ≤ millisAt second :=
  Int.toNat_le_toNat (Int.ediv_le_ediv (by decide) inOrder)

private theorem millisAt_mul (timestamp : Nat) : millisAt (timestamp * 1000000) = timestamp := by
  unfold millisAt
  omega

theorem PresentationTime.toMillis_eq {time : PresentationTime} (bounded : time.instant < horizon) :
    time.toMillis = millisAt time.instant := by
  unfold toMillis millisAt
  unfold instant horizon at *
  cases isBefore : time.isBefore with
  | true =>
      rw [if_pos rfl, if_pos rfl]
      omega
  | false =>
      rw [isBefore, if_neg Bool.false_ne_true] at bounded
      rw [if_neg Bool.false_ne_true, if_neg Bool.false_ne_true, Nat.mod_eq_of_lt]
      · omega
      · omega

/-! ### Presentation times -/

namespace Pipeline

def presentedAt (id : String) (instant : Int) (pipeline : Pipeline) : List (Nat × Int) :=
  if pipeline.isStopped then []
  else (pipeline.sessions.handle? id).toList.map fun handle => (handle, instant)

/-- The session that a turn brings a chunk of, and when the chunk is presented. -/
def presented (pipeline : Pipeline) : Turn → List (Nat × Int)
  | .request (.push id _ timestamp) => pipeline.presentedAt id (timestamp * 1000000)
  | .request (.data id _ time) => pipeline.presentedAt id time.instant
  | _ => []

end Pipeline

namespace PipelineRun

def presentations (run : PipelineRun) : List (Nat × Int) :=
  Pipeline.along Pipeline.presented run.first run.turns

/-- The presentation times of each session never decrease, and their milliseconds fit into
64 bits. -/
structure IsWellTimed (run : PipelineRun) : Prop where
  inOrder : run.presentations.Pairwise fun first second => first.1 = second.1 → first.2 ≤ second.2
  bounded : ∀ presentation ∈ run.presentations, presentation.2 < horizon

theorem IsWellTimed.of_andThen {run : PipelineRun} {turn : Turn}
    (timed : (run.andThen turn).IsWellTimed) :
    run.IsWellTimed ∧ (∀ presentation ∈ run.last.presented turn, presentation.2 < horizon) ∧
      ∀ first ∈ run.presentations, ∀ second ∈ run.last.presented turn,
        first.1 = second.1 → first.2 ≤ second.2 := by
  obtain ⟨inOrder, bounded⟩ := timed
  rw [presentations, along_andThen] at inOrder bounded
  obtain ⟨front, _, across⟩ := List.pairwise_append.mp inOrder
  obtain ⟨boundedFront, boundedTurn⟩ := List.forall_mem_append.mp bounded
  exact ⟨⟨front, boundedFront⟩, boundedTurn, across⟩

end PipelineRun

/-! ### The timestamps of a turn -/

namespace Pipeline

variable {pipeline : Pipeline}

private theorem returned_timed {handle : Nat} {id : String} {chunk : Bytes} {timestamp : Nat}
    {emission : Emission} (member : emission ∈ pipeline.returned handle id chunk timestamp) :
    emission.handle = handle ∧
      ∀ coded, emission.item = .frame coded → coded.timestamp = timestamp := by
  cases found : pipeline.sessions.session? handle with
  | none =>
      rw [returned, found] at member
      cases member
  | some session =>
      rw [returned_of_session? found] at member
      cases assembled : session.assembler.assemble chunk timestamp with
      | error refusal =>
          rw [assembled] at member
          cases member
      | ok outcome =>
          obtain ⟨next, items⟩ := outcome
          rw [assembled] at member
          obtain ⟨item, inItems, rfl⟩ := List.mem_map.mp member
          refine ⟨rfl, ?_⟩
          rintro coded rfl
          exact Assembler.timestamp_of_frame_mem assembled inItems

private theorem unitEmissions_timed {handle : Nat} {id : String} {units : List Bytes}
    {emission : Emission} (member : emission ∈ unitEmissions handle id pipeline units) :
    emission.handle = handle ∧ ∀ coded, emission.item = .frame coded → coded.timestamp = 0 := by
  induction units generalizing pipeline with
  | nil => cases member
  | cons unit rest ih =>
      rcases List.mem_append.mp member with first | later
      · exact returned_timed first
      · exact ih later

/-- Everything that a turn emits is of a new session and from the beginning of time, or of the one
session that it presents a chunk of and from then. -/
structure Times (turn : Turn) (handle timestamp : Nat) (pipeline : Pipeline) : Prop where
  handles : ∀ emission ∈ pipeline.emitted turn, emission.handle = handle
  timestamps : ∀ emission ∈ pipeline.emitted turn, ∀ coded, emission.item = .frame coded →
    coded.timestamp = timestamp
  source : (handle = pipeline.sessions.sessions.size ∧ timestamp = 0) ∨
    ∃ instant, pipeline.presented turn = [(handle, instant)] ∧ timestamp = millisAt instant

private theorem times_of_silent {turn : Turn} (silent : pipeline.emitted turn = []) :
    pipeline.Times turn pipeline.sessions.sessions.size 0 := by
  refine ⟨?_, ?_, .inl ⟨rfl, rfl⟩⟩
  · rw [silent]
    exact fun _ => nofun
  · rw [silent]
    exact fun _ => nofun

private theorem openingEmissions_timed {id media codecName description : String}
    {emission : Emission}
    (member : emission ∈ pipeline.openingEmissions id media codecName description) :
    emission.handle = pipeline.sessions.sessions.size ∧
      ∀ coded, emission.item = .frame coded → coded.timestamp = 0 := by
  unfold openingEmissions at member
  split at member
  · cases member
  · split at member
    · cases member
    · exact unitEmissions_timed member

private theorem chunkEmissions_timed (id : String) (chunk : Bytes) (timestamp : Nat) (instant : Int)
    (pipeline : Pipeline) :
    (pipeline.chunkEmissions id chunk timestamp = []) ∨
      ∃ handle, pipeline.presentedAt id instant = [(handle, instant)] ∧
        ∀ emission ∈ pipeline.chunkEmissions id chunk timestamp, emission.handle = handle ∧
          ∀ coded, emission.item = .frame coded → coded.timestamp = timestamp := by
  unfold chunkEmissions presentedAt
  split
  · exact .inl rfl
  · cases pipeline.sessions.handle? id with
    | none => exact .inl rfl
    | some handle => exact .inr ⟨handle, rfl, fun emission member => returned_timed member⟩

private theorem exists_times (turn : Turn) (pipeline : Pipeline)
    (bounded : ∀ presentation ∈ pipeline.presented turn, presentation.2 < horizon) :
    ∃ handle timestamp, pipeline.Times turn handle timestamp := by
  cases turn with
  | work count => exact ⟨_, _, times_of_silent rfl⟩
  | request request =>
      cases request with
      | openSession id media codecName description =>
          exact ⟨_, 0, fun _ member => (openingEmissions_timed member).1,
            fun _ member => (openingEmissions_timed member).2, .inl ⟨rfl, rfl⟩⟩
      | newSession id media codecName description =>
          exact ⟨_, 0, fun _ member => (openingEmissions_timed member).1,
            fun _ member => (openingEmissions_timed member).2, .inl ⟨rfl, rfl⟩⟩
      | push id chunk timestamp =>
          rcases chunkEmissions_timed id chunk timestamp (timestamp * 1000000) pipeline with
            silent | ⟨handle, presented, timed⟩
          · exact ⟨_, _, times_of_silent silent⟩
          · exact ⟨handle, timestamp, fun _ member => (timed _ member).1,
              fun _ member => (timed _ member).2, .inr ⟨_, presented, (millisAt_mul _).symm⟩⟩
      | data id chunk time =>
          rcases chunkEmissions_timed id chunk time.toMillis time.instant pipeline with
            silent | ⟨handle, presented, timed⟩
          · exact ⟨_, _, times_of_silent silent⟩
          · refine ⟨handle, time.toMillis, fun _ member => (timed _ member).1,
              fun _ member => (timed _ member).2, .inr ⟨_, presented, ?_⟩⟩
            apply PresentationTime.toMillis_eq
            apply bounded (handle, time.instant)
            change _ ∈ pipeline.presentedAt id time.instant
            rw [presented]
            exact List.mem_singleton_self _
      | closeSession id => exact ⟨_, _, times_of_silent rfl⟩
      | addSink sink wants => exact ⟨_, _, times_of_silent rfl⟩
      | removeSink sink => exact ⟨_, _, times_of_silent rfl⟩
      | stop => exact ⟨_, _, times_of_silent rfl⟩

end Pipeline

/-! ### The frames of a run -/

/-- If both are frames of one session, the second one is not the earlier of them. -/
def InOrderOfTime (first second : Emission) : Prop :=
  first.handle = second.handle → ∀ front back, first.item = .frame front →
    second.item = .frame back → front.timestamp ≤ back.timestamp

namespace PipelineRun

/-- Every frame is from the beginning of time or from when a chunk of its session was presented. -/
theorem frames_in_order {run : PipelineRun} (timed : run.IsWellTimed) :
    run.emissions.Pairwise InOrderOfTime ∧
      ∀ emission ∈ run.emissions, ∀ coded, emission.item = .frame coded →
        coded.timestamp = 0 ∨ ∃ instant, (emission.handle, instant) ∈ run.presentations ∧
          coded.timestamp = millisAt instant := by
  induction run using turn_induction with
  | first run none =>
      have nothing : run.emissions = [] := by
        rw [emissions, none]
        rfl
      rw [nothing]
      exact ⟨List.Pairwise.nil, fun _ => nofun⟩
  | next run turn ih =>
      obtain ⟨timedBefore, bounded, across⟩ := timed.of_andThen
      obtain ⟨inOrder, known⟩ := ih timedBefore
      obtain ⟨handle, timestamp, times⟩ := run.last.exists_times turn bounded
      obtain ⟨course, tracks, takes⟩ := run.exists_course
      have emissions : (run.andThen turn).emissions = run.emissions ++ run.last.emitted turn :=
        run.along_andThen _ turn
      have presentations : (run.andThen turn).presentations =
          run.presentations ++ run.last.presented turn := run.along_andThen _ turn
      rw [emissions, presentations]
      constructor
      · refine List.pairwise_append.mpr ⟨inOrder, ?_, ?_⟩
        · refine List.Pairwise.imp_of_mem ?_ (List.pairwise_of_forall fun _ _ => trivial)
          intro first second inFirst inSecond _ _ front back isFront isBack
          rw [times.timestamps first inFirst front isFront,
            times.timestamps second inSecond back isBack]
        · intro first inFirst second inSecond same front back isFront isBack
          rw [times.timestamps second inSecond back isBack]
          rw [times.handles second inSecond] at same
          rcases times.source with ⟨new, _⟩ | ⟨instant, presented, millis⟩
          · -- A new session has emitted nothing yet.
            rw [← takes.emissions] at inFirst
            have before := tracks.handles first inFirst
            rw [← tracks.opened] at before
            omega
          · rcases known first inFirst front isFront with zero | ⟨earlier, member, isMillis⟩
            · omega
            · rw [isMillis, millis]
              apply millisAt_le
              apply across _ member (handle, instant)
              · rw [presented]
                exact List.mem_singleton_self _
              · exact same
      · intro emission member coded isFrame
        rcases List.mem_append.mp member with before | new
        · rcases known emission before coded isFrame with zero | ⟨instant, inRun, millis⟩
          · exact .inl zero
          · exact .inr ⟨instant, List.mem_append_left _ inRun, millis⟩
        · rw [times.timestamps emission new coded isFrame]
          rcases times.source with ⟨_, zero⟩ | ⟨instant, presented, millis⟩
          · exact .inl zero
          · refine .inr ⟨instant, List.mem_append_right _ ?_, millis⟩
            rw [presented, times.handles emission new]
            exact List.mem_singleton_self _

end PipelineRun
end VideoIngest
