import VideoIngest.Decoder.Engine
import VideoIngest.Stats

/-!
The place for the one decoder that is live.

A decoder lives as long as its format holds. It is dropped before another one is created.
-/

namespace VideoIngest

inductive FormatOutcome
  | unchanged
  | ignored
  | created
  deriving DecidableEq, Repr

structure DecoderSlot where
  engine : Engine
  active : Option LiveDecoder
  created : Nat

namespace DecoderSlot

def empty (engine : Engine) : DecoderSlot := { engine, active := none, created := 0 }

def activeFormat (slot : DecoderSlot) : Option VideoFormat := slot.active.map LiveDecoder.format

def destroy (slot : DecoderSlot) : DecoderSlot × Bool :=
  match slot.active with
  | none => (slot, false)
  | some live => ({ slot with engine := slot.engine.destroy live, active := none }, true)

def create (format : VideoFormat) (slot : DecoderSlot) : DecoderSlot × Except IngestError Unit :=
  match slot.engine.create format with
  | (engine, .error failure) => ({ slot with engine }, .error (failure.asInit format.codec))
  | (engine, .ok live) =>
      match engine.configure live with
      | (engine, .error failure) => ({ slot with engine }, .error (failure.asInit format.codec))
      | (engine, .ok live) =>
          let (engine, live) := engine.register live
          ({ engine, active := some live, created := slot.created + 1 }, .ok ())

def applyFormat (format : VideoFormat) (slot : DecoderSlot) :
    DecoderSlot × Except IngestError FormatOutcome :=
  if !format.isActionable then (slot, .ok .ignored)
  else if slot.activeFormat = some format then (slot, .ok .unchanged)
  else
    match slot.destroy.1.create format with
    | (slot, .error failure) => (slot, .error failure)
    | (slot, .ok ()) => (slot, .ok .created)

def submit (frame : CodedFrame) (slot : DecoderSlot) : DecoderSlot × Except IngestError Picture :=
  match slot.active with
  | none => (slot, .error .noDecoder)
  | some live =>
      match slot.engine.decode frame live with
      | (engine, .error failure) => ({ slot with engine }, .error failure.asDecode)
      | (engine, .ok picture) => ({ slot with engine }, .ok picture)

/-- An empty slot on another engine, which goes on counting. -/
def replaceEngine (engine : Engine) (slot : DecoderSlot) : DecoderSlot :=
  { empty engine with created := slot.created }

def stats (slot : DecoderSlot) : Stats := { Stats.zero with decoders := slot.created }

end DecoderSlot
end VideoIngest
