import VideoIngest.Jpeg.Decode

/-! Decoding where a chunk arrives, without an engine. -/

namespace VideoIngest

/-- A decoder for chunks that do not go through the engine: it takes a chunk with the width and
height of its header. -/
abbrev InlineDecoder := Bytes → Nat → Nat → Except IngestError PictureBuffer

namespace InlineDecoder

def jpeg : InlineDecoder := fun data width height =>
  match Jpeg.decode data with
  | .error fault => .error (.inlineDecode fault.message)
  | .ok image =>
      if image.width ≠ width ∨ image.height ≠ height then
        .error (.inlineDecode ("header says " ++ toString width ++ "x" ++ toString height ++
          ", image is " ++ toString image.width ++ "x" ++ toString image.height))
      else
        match I420.ofRgb24 width height image.rgb with
        | none => .error (.inlineDecode "short RGB buffer")
        | some planes => .ok (.i420 planes)

end InlineDecoder
end VideoIngest
