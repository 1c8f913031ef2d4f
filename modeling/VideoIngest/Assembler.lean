import VideoIngest.Assembler.AnnexB
import VideoIngest.InlineDecoder

/-! What turns the chunks of one session into formats, frames and pictures, by codec. -/

namespace VideoIngest

inductive Assembler
  | nal (codec : NalCodec) (kept : AnnexB)
  | vp9
  | jpeg (decoder : InlineDecoder)

namespace Assembler

/-- The assembler of a session that begins. Only JPEG makes use of the decoder. -/
def ofCodec (decoder : InlineDecoder) : Codec → Assembler
  | .h264 => nal .h264 (.fresh .h264)
  | .h265 => nal .h265 (.fresh .h265)
  | .jpeg => jpeg decoder
  | .vp9 => vp9

def codec : Assembler → Codec
  | nal codec _ => codec.codec
  | vp9 => .vp9
  | jpeg _ => .jpeg

/-- A VP9 chunk is one frame. Since the decoder finds the size in it, each is sent as a key frame
behind its format. -/
def vp9Items (chunk : Bytes) (timestamp : Nat) : List MediaItem :=
  if chunk.isEmpty then []
  else [.format (.unknown .vp9), .frame { data := chunk, timestamp, kind := .key }]

def jpegItems (decoder : InlineDecoder) (chunk : Bytes) (timestamp : Nat) :
    Except IngestError (List MediaItem) := do
  let (width, height) ← (Jpeg.dimensions chunk).mapError .parse
  let buffer ← decoder chunk width height
  return [.picture (.ofBuffer buffer width height timestamp)]

/-- The items of the next chunk. A chunk that is refused leaves the assembler as it was. -/
def assemble (chunk : Bytes) (timestamp : Nat) :
    Assembler → Except IngestError (Assembler × List MediaItem)
  | nal codec kept =>
      let (next, items) := kept.assemble codec chunk timestamp
      .ok (nal codec next, items)
  | vp9 => .ok (vp9, vp9Items chunk timestamp)
  | jpeg decoder => (jpegItems decoder chunk timestamp).map fun items => (jpeg decoder, items)

end Assembler
end VideoIngest
