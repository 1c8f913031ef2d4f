import VideoIngest.Container.Chunks
import VideoIngest.Tool.Options

/-! The tool: a file goes through the pipeline chunk by chunk, and every picture is reported. -/

namespace VideoIngest.Tool

inductive Failure
  | rateOutOfRange
  | unreadableInput
  | unsplittableInput
  | sessionRefused
  deriving DecidableEq, Repr

def Failure.message : Failure → String
  | rateOutOfRange => "fps out of range"
  | unreadableInput => "cannot read input"
  | unsplittableInput => "cannot split input"
  | sessionRefused => "session refused"

structure Summary where
  chunks : Nat
  rejected : Nat
  stats : Stats
  deriving DecidableEq, Repr

structure Outcome where
  pictures : List Picture
  summary : Summary
  deriving DecidableEq, Repr

def sessionId : String := "file"

def sinkName : String := "report"

def instant (nanoseconds : Int) : PresentationTime where
  seconds := nanoseconds.natAbs / nanosPerSecond
  nanoseconds := nanoseconds.natAbs % nanosPerSecond
  isBefore := nanoseconds < 0

/-- Sends chunks, the first one with this index. Returns how many were rejected. -/
def feed (begin : Int) (interval : Nat) : Nat → List Bytes → Pipeline → Pipeline × Nat
  | _, [], pipeline => (pipeline, 0)
  | index, chunk :: rest, pipeline =>
      let time := instant (begin + presentationOffset interval index)
      let (pipeline, isAccepted) := pipeline.onData sessionId chunk time
      let (pipeline, rejected) := feed begin interval (index + 1) rest pipeline.settle
      (pipeline, if isAccepted then rejected else rejected + 1)

def freshPipeline (options : Options) : Pipeline :=
  (Pipeline.start options.config .jpeg .passthrough .empty).addSink sinkName .anything

def ingest (options : Options) (begin : Int) (interval : Nat) (chunks : List Bytes) :
    Except Failure Outcome :=
  match (freshPipeline options).openSession sessionId "video" options.codec.name "" with
  | (_, .error _) => .error .sessionRefused
  | (pipeline, .ok ()) =>
      let (pipeline, rejected) := feed begin interval 0 chunks pipeline
      let pipeline := (pipeline.closeSession sessionId).stop
      .ok { pictures := pipeline.playout.audience.received.toList.map (·.2)
            summary := { chunks := chunks.length, rejected, stats := pipeline.stats } }

/-- The whole run. `content` is what the input file holds, if it can be read. -/
def run (options : Options) (begin : Int) (content : Option Bytes) : Except Failure Outcome := do
  let some interval := chunkInterval options.rate | throw .rateOutOfRange
  let some data := content | throw .unreadableInput
  let .ok chunks := Container.chunks options.codec data | throw .unsplittableInput
  ingest options begin interval chunks

inductive Call
  | help
  | refused (cause : ArgumentError)
  | failed (cause : Failure)
  | finished (outcome : Outcome)
  deriving DecidableEq, Repr

namespace Call

def exitCode : Call → Nat
  | help => 0
  | refused _ => 2
  | failed _ => 1
  | finished _ => 0

/-- A call with these arguments, where `read` holds what each file contains. -/
def ofArguments (arguments : List String) (begin : Int) (read : String → Option Bytes) : Call :=
  match Options.parse arguments with
  | .error .help => help
  | .error cause => refused cause
  | .ok options =>
      match run options begin (read options.input) with
      | .error cause => failed cause
      | .ok outcome => finished outcome

end Call
end VideoIngest.Tool
