import VideoIngest.Error
import VideoIngest.Picture

/-!
The decoder that decodes nothing: each coded frame comes back as a picture of its own bytes, with
the size for which the decoder was configured.
-/

namespace VideoIngest

structure PassthroughDecoder where
  settings : Option VideoFormat
  hasCallback : Bool
  deriving DecidableEq, Repr

namespace PassthroughDecoder

def displayName : String := "NullDecoder"

def fresh : PassthroughDecoder := ⟨none, false⟩

def configure (settings : VideoFormat) (decoder : PassthroughDecoder) : PassthroughDecoder :=
  { decoder with settings := some settings }

def register (decoder : PassthroughDecoder) : PassthroughDecoder :=
  { decoder with hasCallback := true }

def decode (frame : CodedFrame) (decoder : PassthroughDecoder) : Except IngestError Picture :=
  match decoder.settings with
  | none => .error (.decode "decoder not configured")
  | some settings =>
      if decoder.hasCallback then
        .ok (.ofBuffer (.encoded frame.data) settings.width settings.height frame.timestamp)
      else .error (.decode "no decode complete callback")

end PassthroughDecoder
end VideoIngest
