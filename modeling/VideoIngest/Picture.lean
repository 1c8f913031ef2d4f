import VideoIngest.Codec
import VideoIngest.Picture.I420

/-! Coded frames on their way to the decoder, and the pictures that come back. -/

namespace VideoIngest

inductive FrameKind
  | key
  | delta
  deriving DecidableEq, Repr

/-- A frame as it is handed to a decoder. Timestamps are in milliseconds. -/
structure CodedFrame where
  data : Bytes
  timestamp : Nat
  kind : FrameKind
  deriving DecidableEq, Repr

def CodedFrame.isKey (frame : CodedFrame) : Bool := frame.kind == .key

inductive PictureBuffer
  | i420 (planes : I420)
  | encoded (data : Bytes)
  deriving DecidableEq, Repr

namespace PictureBuffer

def size : PictureBuffer → Nat
  | i420 planes => planes.size
  | encoded data => data.length

end PictureBuffer

structure Picture where
  buffer : PictureBuffer
  width : Nat
  height : Nat
  timestamp : Nat
  captureTime : Nat
  deriving DecidableEq, Repr

/-- A picture of which nothing but its timestamp says when it was taken. -/
def Picture.ofBuffer (buffer : PictureBuffer) (width height timestamp : Nat) : Picture :=
  { buffer, width, height, timestamp, captureTime := timestamp }

inductive MediaItem
  | format (format : VideoFormat)
  | frame (frame : CodedFrame)
  | picture (picture : Picture)
  deriving DecidableEq, Repr

end VideoIngest
