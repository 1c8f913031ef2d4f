import VideoIngest.Proofs.DecodeLoop.Work
import VideoIngest.Proofs.Pipeline.Emission
import VideoIngest.Proofs.Pipeline.Passthrough

/-!
Runs of a pipeline and what they show: requests and the work of the decode loop may take any turns.
-/

namespace VideoIngest

inductive Turn
  | request (request : Pipeline.Request)
  | work (count : Nat)
  deriving DecidableEq, Repr

namespace Pipeline

def turn (pipeline : Pipeline) : Turn → Pipeline
  | .request request => (pipeline.answer request).1
  | .work count => pipeline.work count

def after (pipeline : Pipeline) (turns : List Turn) : Pipeline := turns.foldl turn pipeline

/-! ### What a run shows -/

theorem stats_eq (pipeline : Pipeline) :
    pipeline.stats =
      { enqueued := pipeline.enqueued
        dropped := pipeline.loop.undecoded + pipeline.refused
        decodeErrors := pipeline.loop.decodeErrors
        decoders := pipeline.loop.slot.created
        delivered := pipeline.playout.delivered } := by
  simp [stats, Stats.add, Stats.zero, DecodeLoop.stats, DecoderSlot.stats, Playout.stats]

def along {α : Type} (shows : Pipeline → Turn → List α) : Pipeline → List Turn → List α
  | _, [] => []
  | pipeline, turn :: rest => shows pipeline turn ++ along shows (pipeline.turn turn) rest

theorem along_append {α : Type} (shows : Pipeline → Turn → List α) (pipeline : Pipeline)
    (front back : List Turn) :
    along shows pipeline (front ++ back) =
      along shows pipeline front ++ along shows (pipeline.after front) back := by
  induction front generalizing pipeline with
  | nil => rfl
  | cons first rest ih =>
      rw [List.cons_append, along, ih, along, List.append_assoc]
      rfl

theorem along_append_singleton {α : Type} (shows : Pipeline → Turn → List α) (pipeline : Pipeline)
    (turns : List Turn) (turn : Turn) :
    along shows pipeline (turns ++ [turn]) =
      along shows pipeline turns ++ shows (pipeline.after turns) turn := by
  rw [along_append, along, along, List.append_nil]

theorem after_append (pipeline : Pipeline) (front back : List Turn) :
    pipeline.after (front ++ back) = (pipeline.after front).after back := List.foldl_append

theorem after_append_singleton (pipeline : Pipeline) (turns : List Turn) (turn : Turn) :
    pipeline.after (turns ++ [turn]) = (pipeline.after turns).turn turn :=
  List.foldl_concat _ _ _ _

/-- The items that the assembler of a session returns for a chunk. -/
def returned (handle : Nat) (id : String) (chunk : Bytes) (timestamp : Nat) (pipeline : Pipeline) :
    List Emission :=
  match pipeline.sessions.session? handle with
  | none => []
  | some session =>
      match session.assembler.assemble chunk timestamp with
      | .error _ => []
      | .ok (_, items) => items.map (Emission.mk id handle)

theorem returned_of_session? {pipeline : Pipeline} {handle : Nat} {session : Session}
    (found : pipeline.sessions.session? handle = some session) (id : String) (chunk : Bytes)
    (timestamp : Nat) :
    pipeline.returned handle id chunk timestamp =
      match session.assembler.assemble chunk timestamp with
      | .error _ => []
      | .ok (_, items) => items.map (Emission.mk id handle) := by
  simp only [returned, found]

def chunkEmissions (id : String) (chunk : Bytes) (timestamp : Nat) (pipeline : Pipeline) :
    List Emission :=
  if pipeline.isStopped then []
  else
    match pipeline.sessions.handle? id with
    | none => []
    | some handle => pipeline.returned handle id chunk timestamp

def unitEmissions (handle : Nat) (id : String) : Pipeline → List Bytes → List Emission
  | _, [] => []
  | pipeline, unit :: rest =>
      pipeline.returned handle id unit 0 ++
        unitEmissions handle id (pipeline.ingest handle id unit 0).1 rest

def openingEmissions (id media codecName description : String) (pipeline : Pipeline) :
    List Emission :=
  if pipeline.isStopped then []
  else
    match sessionCodec media codecName with
    | .error _ => []
    | .ok codec =>
        let (sessions, handle) := pipeline.sessions.insert
          (.start id media (.ofCodec pipeline.inlineDecoder codec))
        unitEmissions handle id (pipeline.withSessions sessions)
          (Sdp.initialUnits codec description)

def emitted (pipeline : Pipeline) : Turn → List Emission
  | .request (.openSession id media codecName description) =>
      pipeline.openingEmissions id media codecName description
  | .request (.newSession id media codecName description) =>
      pipeline.openingEmissions id media codecName description
  | .request (.push id chunk timestamp) => pipeline.chunkEmissions id chunk timestamp
  | .request (.data id chunk time) => pipeline.chunkEmissions id chunk time.toMillis
  | _ => []

def unknownData (pipeline : Pipeline) : Turn → List String
  | .request (.data id _ _) =>
      if pipeline.isStopped ∨ (pipeline.sessions.handle? id).isSome then [] else [id]
  | _ => []

/-- The decode loop once all sessions are stopped and a stop has been sent to it. -/
def stopping (pipeline : Pipeline) : DecodeLoop :=
  ({ pipeline.loop with sessions := pipeline.sessions.stopAll }.send .stop).1

def missed (pipeline : Pipeline) : Turn → List CodedFrame
  | .work count => pipeline.loop.misses count
  | .request .stop =>
      if pipeline.isStopped then []
      else pipeline.stopping.misses (pipeline.stopping.queue.pending.length + 1)
  | _ => []

end Pipeline

/-- A pipeline whose engine has not been called yet, and the turns that it goes through. -/
structure PipelineRun where
  config : PipelineConfig
  inlineDecoder : InlineDecoder
  engine : Engine
  audience : Audience
  turns : List Turn

namespace PipelineRun

def first (run : PipelineRun) : Pipeline :=
  .start run.config run.inlineDecoder run.engine.unused run.audience

def last (run : PipelineRun) : Pipeline := run.first.after run.turns

def drops (run : PipelineRun) : Bool := run.config.policy.drops run.engine.toleratesRegression

def emissions (run : PipelineRun) : List Emission :=
  Pipeline.along Pipeline.emitted run.first run.turns

def unknownData (run : PipelineRun) : List String :=
  Pipeline.along Pipeline.unknownData run.first run.turns

def missed (run : PipelineRun) : List CodedFrame :=
  Pipeline.along Pipeline.missed run.first run.turns

def refused (run : PipelineRun) : List CodedFrame := refusedOf run.drops run.emissions

def inlinePictures (run : PipelineRun) : List Picture := run.emissions.filterMap Emission.picture?

/-! ### One more turn -/

def andThen (run : PipelineRun) (turn : Turn) : PipelineRun :=
  { run with turns := run.turns ++ [turn] }

theorem last_andThen (run : PipelineRun) (turn : Turn) :
    (run.andThen turn).last = run.last.turn turn :=
  Pipeline.after_append_singleton _ _ _

theorem along_andThen {α : Type} (run : PipelineRun) (shows : Pipeline → Turn → List α)
    (turn : Turn) :
    Pipeline.along shows (run.andThen turn).first (run.andThen turn).turns =
      Pipeline.along shows run.first run.turns ++ shows run.last turn :=
  Pipeline.along_append_singleton _ _ _ _

theorem turn_induction {motive : PipelineRun → Prop}
    (first : ∀ run : PipelineRun, run.turns = [] → motive run)
    (next : ∀ (run : PipelineRun) (turn : Turn), motive run → motive (run.andThen turn))
    (run : PipelineRun) : motive run := by
  obtain ⟨config, inlineDecoder, engine, audience, turns⟩ := run
  induction turns using List.reverseRecOn with
  | nil => exact first _ rfl
  | append_singleton turns turn ih => exact next _ turn ih

end PipelineRun
end VideoIngest
