import VideoIngest.Text.Blank

/-! The four codecs, and the formats that streams announce in them. -/

namespace VideoIngest

inductive Codec
  | h264
  | h265
  | jpeg
  | vp9
  deriving DecidableEq, Repr

namespace Codec

def name : Codec → String
  | h264 => "H264"
  | h265 => "H265"
  | jpeg => "JPEG"
  | vp9 => "VP9"

/-- The names under which peers announce each codec. -/
def knownNames : List (String × Codec) :=
  [("H264", h264), ("H265", h265), ("HEVC", h265), ("JPEG", jpeg), ("MJPEG", jpeg), ("VP9", vp9)]

/-- The codec of a name, whatever the case of its letters and the white space around it. -/
def ofName? (text : String) : Option Codec :=
  (knownNames.find? fun entry => Text.equalIgnoringCase entry.1 (Text.trim text)).map (·.2)

/-- Whether the decoder learns the picture size from the frames themselves. -/
def isSelfDescribing : Codec → Bool
  | vp9 => true
  | _ => false

/-- Whether frames go to the decode engine. JPEG pictures are decoded where they arrive. -/
def usesEngine : Codec → Bool
  | jpeg => false
  | _ => true

end Codec

/-- A codec with the picture size; the size 0 × 0 stands for an unknown one. -/
structure VideoFormat where
  codec : Codec
  width : Nat
  height : Nat
  deriving DecidableEq, Repr

namespace VideoFormat

def unknown (codec : Codec) : VideoFormat := ⟨codec, 0, 0⟩

def isDegenerate (format : VideoFormat) : Bool :=
  format.width == 0 || format.height == 0

def isActionable (format : VideoFormat) : Bool :=
  !format.isDegenerate || format.codec.isSelfDescribing

def text (format : VideoFormat) : String :=
  format.codec.name ++ " " ++ toString format.width ++ "x" ++ toString format.height

end VideoFormat
end VideoIngest
