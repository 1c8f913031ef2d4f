import VideoIngest.Decoder.Passthrough

/-!
A decode engine whose calls succeed or fail as a script says, and the log of all that it was asked.

The script holds the results of the calls of each kind in their order, over all decoders. Calls
behind its end succeed.
-/

namespace VideoIngest

inductive EngineEvent
  | create (format : VideoFormat)
  | createFailed (format : VideoFormat)
  | configure (settings : VideoFormat)
  | register
  | decode (frame : CodedFrame)
  | emitted (picture : Picture)
  | destroy (format : VideoFormat)
  deriving DecidableEq, Repr

def EngineEvent.isCall : EngineEvent → Bool
  | emitted _ => false
  | _ => true

abbrev CallResult := Except IngestError Unit

structure LiveDecoder where
  format : VideoFormat
  decoder : PassthroughDecoder
  deriving DecidableEq, Repr

structure Engine where
  toleratesRegression : Bool
  createResults : List CallResult
  configureResults : List CallResult
  decodeResults : List CallResult
  events : Array EngineEvent

namespace Engine

def passthrough : Engine := ⟨true, [], [], [], #[]⟩

def nextResult : List CallResult → CallResult × List CallResult
  | [] => (.ok (), [])
  | result :: rest => (result, rest)

def log (event : EngineEvent) (engine : Engine) : Engine :=
  { engine with events := engine.events.push event }

def create (format : VideoFormat) (engine : Engine) : Engine × Except IngestError LiveDecoder :=
  let (result, createResults) := nextResult engine.createResults
  let engine := { engine with createResults }
  match result with
  | .error failure => (engine.log (.createFailed format), .error failure)
  | .ok () => (engine.log (.create format), .ok { format, decoder := .fresh })

def destroy (live : LiveDecoder) (engine : Engine) : Engine := engine.log (.destroy live.format)

/-- Configures a new decoder for its format. One that cannot be configured is dropped. -/
def configure (live : LiveDecoder) (engine : Engine) : Engine × Except IngestError LiveDecoder :=
  let (result, configureResults) := nextResult engine.configureResults
  let engine := { engine with configureResults }.log (.configure live.format)
  match result with
  | .error failure => (engine.destroy live, .error failure)
  | .ok () => (engine, .ok { live with decoder := live.decoder.configure live.format })

def register (live : LiveDecoder) (engine : Engine) : Engine × LiveDecoder :=
  (engine.log .register, { live with decoder := live.decoder.register })

/-- Hands a frame to a decoder. Where the call succeeds the decoder emits its picture. -/
def decode (frame : CodedFrame) (live : LiveDecoder) (engine : Engine) :
    Engine × Except IngestError Picture :=
  let (result, decodeResults) := nextResult engine.decodeResults
  let engine := { engine with decodeResults }.log (.decode frame)
  match result with
  | .error failure => (engine, .error failure)
  | .ok () =>
      match live.decoder.decode frame with
      | .error failure => (engine, .error failure)
      | .ok picture => (engine.log (.emitted picture), .ok picture)

end Engine
end VideoIngest
