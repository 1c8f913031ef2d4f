import VideoIngest.Nal.Kind
import VideoIngest.H264.Sps
import VideoIngest.H265.Sps

/-! What tells the two codecs apart whose streams consist of NAL units. -/

namespace VideoIngest

inductive NalCodec
  | h264
  | h265
  deriving DecidableEq, Repr

namespace NalCodec

def codec : NalCodec → Codec
  | h264 => .h264
  | h265 => .h265

def headerSize : NalCodec → Nat
  | h264 => 1
  | h265 => 2

def requiresVps : NalCodec → Bool
  | h264 => false
  | h265 => true

def role : NalCodec → UInt8 → NalRole
  | h264, header => (H264.NalType.ofHeader header).role
  | h265, header => (H265.NalType.ofHeader header).role

def pictureSize : NalCodec → Bytes → Except ParseError (Nat × Nat)
  | h264, unit => (H264.parseSps unit).map fun info => (info.width, info.height)
  | h265, unit => (H265.parseSps unit).map fun info => (info.width, info.height)

/-- The role of a payload. One that is shorter than a header has none. -/
def roleOfPayload (codec : NalCodec) (payload : Bytes) : NalRole :=
  if payload.length < codec.headerSize then .skip
  else match payload with
    | [] => .skip
    | header :: _ => codec.role header

theorem roleOfPayload_h264_ne_vps (payload : Bytes) :
    h264.roleOfPayload payload ≠ .parameterSet .vps := by
  have ofType : ∀ type : H264.NalType, type.role ≠ .parameterSet .vps := by
    intro type
    cases type <;> simp [H264.NalType.role]
  unfold roleOfPayload
  split
  · exact NalRole.noConfusion
  · split
    · exact NalRole.noConfusion
    · exact ofType _

end NalCodec
end VideoIngest
