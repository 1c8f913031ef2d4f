import VideoIngest.DecodeLoop
import VideoIngest.Playout
import VideoIngest.Sdp

/-!
The whole ingest pipeline: peers open sessions and push chunks, the decode loop turns frames into
pictures, and the sinks receive them.
-/

namespace VideoIngest

inductive RegressionPolicy
  | auto
  | drop
  | forward
  deriving DecidableEq, Repr

namespace RegressionPolicy

/-- Whether regressed frames are dropped. Left to itself, the pipeline drops what the engine cannot
take. -/
def drops (toleratesRegression : Bool) : RegressionPolicy → Bool
  | auto => !toleratesRegression
  | drop => true
  | forward => false

end RegressionPolicy

/-- Delays are in microseconds. -/
structure PipelineConfig where
  pacing : Bool
  maxPacingDelay : Nat
  idleYield : Nat
  policy : RegressionPolicy
  deriving DecidableEq, Repr

def PipelineConfig.standard : PipelineConfig :=
  { pacing := false, maxPacingDelay := 1000000, idleYield := 1000, policy := .auto }

/-- A point in time, as its distance from the beginning of 1970. -/
structure PresentationTime where
  seconds : Nat
  nanoseconds : Nat
  isBefore : Bool
  deriving DecidableEq, Repr

/-- Whole milliseconds in 64 bits. Before 1970 the clock stands at zero. -/
def PresentationTime.toMillis (time : PresentationTime) : Nat :=
  if time.isBefore then 0
  else (time.seconds * 1000 + time.nanoseconds / 1000000) % Number.wordBound64

/-- The pipeline, with the counts of frames that were sent to the decode loop and of frames that
were refused before. -/
structure Pipeline where
  config : PipelineConfig
  dropsRegressed : Bool
  inlineDecoder : InlineDecoder
  worker : DecodeWorker
  playout : Playout
  enqueued : Nat
  refused : Nat
  isStopped : Bool

namespace Pipeline

def start (config : PipelineConfig) (inlineDecoder : InlineDecoder) (engine : Engine)
    (audience : Audience) : Pipeline where
  config := config
  dropsRegressed := config.policy.drops engine.toleratesRegression
  inlineDecoder := inlineDecoder
  worker := .start engine .empty
  playout := .start (.start config.pacing config.maxPacingDelay config.idleYield) audience
  enqueued := 0
  refused := 0
  isStopped := false

/-! ### Parts -/

def loop (pipeline : Pipeline) : DecodeLoop := pipeline.worker.loop

def sessions (pipeline : Pipeline) : SessionTable := pipeline.loop.sessions

def engine (pipeline : Pipeline) : Engine := pipeline.loop.slot.engine

def stats (pipeline : Pipeline) : Stats :=
  (pipeline.loop.stats.add pipeline.playout.stats).add
    { Stats.zero with enqueued := pipeline.enqueued, dropped := pipeline.refused }

def withLoop (loop : DecodeLoop) (pipeline : Pipeline) : Pipeline :=
  { pipeline with worker := { pipeline.worker with loop } }

def withSessions (sessions : SessionTable) (pipeline : Pipeline) : Pipeline :=
  pipeline.withLoop { pipeline.loop with sessions }

def send (event : IngestEvent) (pipeline : Pipeline) : Pipeline × Except IngestError Unit :=
  let (loop, result) := pipeline.loop.send event
  (pipeline.withLoop loop, result)

def play (pictures : List Picture) (pipeline : Pipeline) : Pipeline :=
  let playout := pictures.foldl (fun playout picture => playout.decoded picture) pipeline.playout
  { pipeline with playout }

def settle (pipeline : Pipeline) : Pipeline :=
  let (worker, pictures) := pipeline.worker.settle
  { pipeline with worker }.play pictures

/-! ### Chunks -/

def ingestFrame (handle : Nat) (frame : CodedFrame) (pipeline : Pipeline) :
    Pipeline × Except IngestError Unit :=
  let (sessions, accepted) := pipeline.sessions.update handle
    (Session.acceptTimestamp frame.timestamp pipeline.dropsRegressed)
  let pipeline := pipeline.withSessions sessions
  if accepted = some true then
    match pipeline.send (.frame frame) with
    | (pipeline, .error failure) => (pipeline, .error failure)
    | (pipeline, .ok ()) => ({ pipeline with enqueued := pipeline.enqueued + 1 }, .ok ())
  else ({ pipeline with refused := pipeline.refused + 1 }, .ok ())

def ingestItem (handle : Nat) (id : String) (pipeline : Pipeline) :
    MediaItem → Pipeline × Except IngestError Unit
  | .format format => pipeline.send (.formatChange id format)
  | .frame frame => pipeline.ingestFrame handle frame
  | .picture picture =>
      let sessions := pipeline.sessions.modify handle (Session.setState .decoding)
      ((pipeline.withSessions sessions).play [picture], .ok ())

/-- Passes on items in their order, up to the first failure. -/
def ingestItems (handle : Nat) (id : String) (pipeline : Pipeline) :
    List MediaItem → Pipeline × Except IngestError Unit
  | [] => (pipeline, .ok ())
  | item :: rest =>
      match pipeline.ingestItem handle id item with
      | (pipeline, .error failure) => (pipeline, .error failure)
      | (pipeline, .ok ()) => pipeline.ingestItems handle id rest

def ingest (handle : Nat) (id : String) (chunk : Bytes) (timestamp : Nat) (pipeline : Pipeline) :
    Pipeline × Except IngestError Unit :=
  match pipeline.sessions.update handle (Session.assemble chunk timestamp) with
  | (_, none) => (pipeline, .ok ())
  | (_, some (.error refusal)) => (pipeline, .error refusal)
  | (sessions, some (.ok items)) => (pipeline.withSessions sessions).ingestItems handle id items

/-! ### What peers ask for -/

def sessionCodec (media codecName : String) : Except IngestError Codec :=
  if Text.equalIgnoringCase media "video" then
    match Codec.ofName? codecName with
    | none => .error (.unsupportedCodec codecName)
    | some codec => .ok codec
  else .error (.unsupportedMedia media)

def openSession (id media codecName description : String) (pipeline : Pipeline) :
    Pipeline × Except IngestError Unit :=
  if pipeline.isStopped then (pipeline, .error .stopped)
  else
    match sessionCodec media codecName with
    | .error refusal => (pipeline, .error refusal)
    | .ok codec =>
        let (sessions, handle) := pipeline.sessions.insert
          (.start id media (.ofCodec pipeline.inlineDecoder codec))
        let units := Sdp.initialUnits codec description
        (units.foldl (fun pipeline unit => (pipeline.ingest handle id unit 0).1)
          (pipeline.withSessions sessions), .ok ())

/-- Takes a chunk of an open session. Its first chunk makes a session wait for a format. -/
def push (id : String) (chunk : Bytes) (timestamp : Nat) (pipeline : Pipeline) :
    Pipeline × Except IngestError Unit :=
  if pipeline.isStopped then (pipeline, .error .stopped)
  else
    match pipeline.sessions.handle? id with
    | none => (pipeline, .error (.unknownSession id))
    | some handle =>
        let (sessions, _) := pipeline.sessions.update handle
          (Session.transition .codecKnown .awaitingFormat)
        (pipeline.withSessions sessions).ingest handle id chunk timestamp

/-- Takes a chunk and says whether it was accepted. One of an unknown session counts as dropped. -/
def onData (id : String) (chunk : Bytes) (time : PresentationTime) (pipeline : Pipeline) :
    Pipeline × Bool :=
  match pipeline.push id chunk time.toMillis with
  | (pipeline, .ok ()) => (pipeline, true)
  | (pipeline, .error (.unknownSession _)) =>
      ({ pipeline with refused := pipeline.refused + 1 }, false)
  | (pipeline, .error _) => (pipeline, false)

def closeSession (id : String) (pipeline : Pipeline) : Pipeline :=
  pipeline.withSessions (pipeline.sessions.remove id)

def addSink (sink : String) (wants : SinkWants) (pipeline : Pipeline) : Pipeline :=
  { pipeline with playout := pipeline.playout.change (.add sink wants) }

def removeSink (sink : String) (pipeline : Pipeline) : Pipeline × Bool :=
  ({ pipeline with playout := pipeline.playout.change (.remove sink) },
    (pipeline.playout.audience.fanout.remove sink).2)

/-- Stops the pipeline: all sessions are stopped, and the decode loop ends behind what was sent. -/
def stop (pipeline : Pipeline) : Pipeline :=
  if pipeline.isStopped then pipeline
  else
    let stopped := { pipeline with isStopped := true }.withSessions pipeline.sessions.stopAll
    let (worker, pictures) := stopped.worker.stop
    { stopped with worker }.play pictures

/-- Drops the pipeline: it stops, and its decode loop is stopped once more as that is dropped. -/
def drop (pipeline : Pipeline) : Pipeline :=
  let (worker, pictures) := pipeline.stop.worker.stop
  { pipeline.stop with worker }.play pictures

/-! ### Requests -/

inductive Request
  | openSession (id media codecName description : String)
  | newSession (id media codecName description : String)
  | push (id : String) (chunk : Bytes) (timestamp : Nat)
  | data (id : String) (chunk : Bytes) (time : PresentationTime)
  | closeSession (id : String)
  | addSink (sink : String) (wants : SinkWants)
  | removeSink (sink : String)
  | stop
  deriving DecidableEq, Repr

inductive Response
  | done
  | accepted (isAccepted : Bool)
  | result (result : Except IngestError Unit)

def isSuccess : Except IngestError Unit → Bool
  | .ok () => true
  | .error _ => false

/-- Answers a request at once, whatever may be on its way to the decode loop. -/
def answer (pipeline : Pipeline) : Request → Pipeline × Response
  | .openSession id media codecName description =>
      let (next, result) := pipeline.openSession id media codecName description
      (next, .result result)
  | .newSession id media codecName description =>
      let (next, result) := pipeline.openSession id media codecName description
      (next, .accepted (isSuccess result))
  | .push id chunk timestamp =>
      let (next, result) := pipeline.push id chunk timestamp
      (next, .result result)
  | .data id chunk time =>
      let (next, isAccepted) := pipeline.onData id chunk time
      (next, .accepted isAccepted)
  | .closeSession id => (pipeline.closeSession id, .done)
  | .addSink sink wants => (pipeline.addSink sink wants, .done)
  | .removeSink sink =>
      let (next, wasRegistered) := pipeline.removeSink sink
      (next, .accepted wasRegistered)
  | .stop => (pipeline.stop, .done)

/-- Answers a request and waits until the decode loop has nothing left to do. -/
def perform (pipeline : Pipeline) (request : Request) : Pipeline × Response :=
  let (next, response) := pipeline.answer request
  (next.settle, response)

def run (pipeline : Pipeline) (requests : List Request) : Pipeline :=
  requests.foldl (fun pipeline request => (pipeline.perform request).1) pipeline

end Pipeline
end VideoIngest
