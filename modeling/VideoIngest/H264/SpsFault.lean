import VideoIngest.Bits
import VideoIngest.Nal.Escape

/-! Why an H.264 sequence parameter set is refused. -/

namespace VideoIngest.H264

structure Cropping where
  left : Nat
  right : Nat
  top : Nat
  bottom : Nat
  deriving DecidableEq, Repr

inductive ScalingFault
  | reader (cause : ReadError)
  | deltaOutOfRange (delta : Int)
  deriving DecidableEq, Repr

inductive PicOrderFault
  | reader (cause : ReadError)
  | lsbLengthOutOfRange (value : Nat)
  | cycleTooLong (value : Nat)
  | unknownType (value : Nat)
  deriving DecidableEq, Repr

inductive SpsFault
  | emptyUnit
  | escape (cause : Escape.Fault)
  | shortPayload (size : Nat)
  | reader (cause : ReadError)
  | trailingData
  | idTooLarge (value : Nat)
  | bitDepthOutOfRange (value : Nat)
  | scalingMatrix (cause : ScalingFault)
  | frameNumLengthOutOfRange (value : Nat)
  | picOrder (cause : PicOrderFault)
  | cpbCountOutOfRange (value : Nat)
  | valueTooLarge (element : String) (value : Nat)
  | valueTooSmall (element : String) (value : Nat)
  | cropping (offsets : Cropping)
  deriving DecidableEq, Repr

def readerText (cause : ReadError) : String :=
  "RbspReaderError(" ++ cause.message ++ ")"

def ScalingFault.message : ScalingFault → String
  | reader cause => "ReaderError(" ++ cause.message ++ ")"
  | deltaOutOfRange delta => "DeltaScaleOutOfRange(" ++ toString delta ++ ")"

def PicOrderFault.message : PicOrderFault → String
  | reader cause => "ReaderError(" ++ cause.message ++ ")"
  | lsbLengthOutOfRange value =>
      "Log2MaxPicOrderCntLsbMinus4OutOfRange(" ++ toString value ++ ")"
  | cycleTooLong value => "NumRefFramesInPicOrderCntCycleOutOfRange(" ++ toString value ++ ")"
  | unknownType value => "InvalidPicOrderCountType(" ++ toString value ++ ")"

def elementText (kind element : String) (value : Nat) : String :=
  kind ++ " \x7b name: \"" ++ element ++ "\", value: " ++ toString value ++ " \x7d"

def croppingText (offsets : Cropping) : String :=
  "CroppingError(FrameCropping \x7b left_offset: " ++ toString offsets.left ++
    ", right_offset: " ++ toString offsets.right ++ ", top_offset: " ++ toString offsets.top ++
    ", bottom_offset: " ++ toString offsets.bottom ++ " \x7d)"

def SpsFault.message : SpsFault → String
  | emptyUnit => "empty NAL unit"
  | escape cause => cause.message
  | shortPayload size => toString size ++ " byte RBSP"
  | reader cause => readerText cause
  | trailingData => "RbspReaderError(RemainingData)"
  | idTooLarge value => "BadSeqParamSetId(IdTooLarge(" ++ toString value ++ "))"
  | bitDepthOutOfRange value => "BitDepthOutOfRange(" ++ toString value ++ ")"
  | scalingMatrix cause => "ScalingMatrix(" ++ cause.message ++ ")"
  | frameNumLengthOutOfRange value =>
      "Log2MaxFrameNumMinus4OutOfRange(" ++ toString value ++ ")"
  | picOrder cause => "PicOrderCnt(" ++ cause.message ++ ")"
  | cpbCountOutOfRange value => "CpbCountOutOfRange(" ++ toString value ++ ")"
  | valueTooLarge element value => elementText "FieldValueTooLarge" element value
  | valueTooSmall element value => elementText "FieldValueTooSmall" element value
  | cropping offsets => croppingText offsets

end VideoIngest.H264
