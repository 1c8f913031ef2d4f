import VideoIngest.Jpeg.CosineTransform

/-!
Rasters: lines of samples of one width, one behind the other, which blocks are put into.
-/

namespace VideoIngest.Jpeg

/-- A decoded block: its component, by index in the frame, its row among the block rows of its row
of MCUs, and its column. -/
structure PlacedBlock where
  component : Nat
  row : Nat
  column : Nat
  samples : SampleBlock

structure Raster where
  width : Nat
  samples : ByteArray

namespace Raster

def zeros (count : Nat) : ByteArray := .mk (Array.replicate count 0)

/-- A raster of so many samples in lines of one width. The last line may be cut. -/
def blank (width count : Nat) : Raster := { width, samples := zeros count }

def lineStart (raster : Raster) (row column line : Nat) : Nat :=
  (8 * row + line) * raster.width + 8 * column

def hasRoom (raster : Raster) (row column : Nat) : Bool :=
  raster.lineStart row column 7 + 8 ≤ raster.samples.size

def put (raster : Raster) (row column : Nat) (block : SampleBlock) : Raster :=
  let samples := (List.range 8).foldl (fun samples line =>
    block.copySlice (8 * line) samples (raster.lineStart row column line) 8) raster.samples
  { raster with samples }

def line (raster : Raster) (index : Nat) : List UInt8 :=
  (raster.samples.extract (index * raster.width) ((index + 1) * raster.width)).toList

/-- Puts those blocks in place that belong to a component. They stand `top` rows of blocks lower
than they say. -/
def putAll (raster : Raster) (component top : Nat) (blocks : List PlacedBlock) : Raster :=
  blocks.foldl (fun raster block =>
    if block.component = component then
      raster.put (top + block.row) block.column block.samples
    else raster) raster

def joined (width : Nat) (rasters : List Raster) : Raster :=
  { width, samples := rasters.foldl (fun samples raster => samples ++ raster.samples) .empty }

end Raster
end VideoIngest.Jpeg
