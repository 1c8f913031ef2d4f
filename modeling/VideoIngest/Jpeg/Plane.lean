import VideoIngest.Jpeg.Raster
import VideoIngest.Jpeg.Enlargement

/-!
The plane of a component: its samples, and what they add to the lines of the picture.

The picture is made row by row of MCUs. A plane gives the samples for such a row as a run, enlarged
line behind enlarged line, and the lines of the picture are cut from the runs of all planes. Where
the last lines of a row are blended with the first ones of the next, they are held back.
-/

namespace VideoIngest.Jpeg

/-- The samples of a component as far as they have been decoded, the last line that the picture
has of them, how they are enlarged, how many rows of blocks belong to a row of MCUs, and how many
lines of a row of MCUs there is room for when they are repeated. -/
structure Plane where
  raster : Raster
  lastLine : Nat
  enlargement : Enlargement
  down : Nat
  repeatedLines : Nat

namespace Plane

def linesOf (plane : Plane) (mcuRow : Nat) : List Nat :=
  (List.range (8 * plane.down)).map fun line => 8 * plane.down * mcuRow + line

def enlarged (plane : Plane) (line : Nat) : List UInt8 :=
  (plane.enlargement.linesFor plane.raster.line plane.lastLine line).flatten

def run (plane : Plane) (mcuRow : Nat) : List UInt8 :=
  match plane.enlargement with
  | .repeated _ _ => ((plane.linesOf mcuRow).take plane.repeatedLines).flatMap plane.enlarged
  | _ => (plane.linesOf mcuRow).flatMap plane.enlarged

/-- The run of samples for the lines of a row of MCUs that are held back. Of a plane whose samples
are repeated it takes as many lines as it has samples to fill, and takes them as they are. -/
def heldRun (plane : Plane) (mcuRow : Nat) : List UInt8 :=
  let lines := plane.linesOf mcuRow
  match plane.enlargement with
  | .repeated across down =>
      (lines.drop (lines.length - across * down * plane.down)).flatMap plane.raster.line
  | _ => (lines.drop (lines.length - plane.down)).flatMap plane.enlarged

end Plane

namespace FrameHeader

def isFirstDoubled (frame : FrameHeader) : Bool :=
  match frame.components with
  | first :: _ => first.across = 2 || first.down = 2
  | [] => false

/-- How many lines of a component there is room for when they are repeated: those of one block, and
of two for a component behind a doubled first one that is itself sampled more than once. -/
def repeatedLines (frame : FrameHeader) (index : Nat) (component : Component) : Nat :=
  if 0 < index ∧ frame.isFirstDoubled ∧ (component.across ≠ 1 ∨ component.down ≠ 1) then 16 else 8

def planes (frame : FrameHeader) (rasters : List Raster) : List Plane :=
  (frame.components.zip rasters).zipIdx.map fun ((component, raster), index) =>
    { raster
      lastLine := 8 * component.down * frame.mcusDown - 1
      enlargement := frame.enlargement component
      down := component.down
      repeatedLines := frame.repeatedLines index component }

/-- The lines that can be cut from runs of samples, one run for each plane: the first `count` lines
as wide as the padded picture, each with its part from every run. There is none where a run is too
short. -/
def linesOfRuns (frame : FrameHeader) (count : Nat) (runs : List (List UInt8)) :
    List (Option (List (List UInt8))) :=
  let width := frame.paddedWidth
  (List.range count).map fun index =>
    runs.mapM fun run => (Bytes.takeExactly width (run.drop (index * width))).map (·.1)

/-- The lines of the picture that a row of MCUs makes up. Where some plane looks below, they begin
with those that the row above has held back, and leave as many to the next row. -/
def linesOfRow (frame : FrameHeader) (planes : List Plane) (mcuRow : Nat) :
    List (Option (List (List UInt8))) :=
  let held :=
    if frame.looksBelow ∧ 0 < mcuRow then
      frame.linesOfRuns frame.down (planes.map fun plane => plane.heldRun (mcuRow - 1))
    else []
  let count := if frame.looksBelow ∧ mcuRow + 1 < frame.mcusDown then 7 else 8
  held ++ frame.linesOfRuns (count * frame.down) (planes.map fun plane => plane.run mcuRow)

end FrameHeader
end VideoIngest.Jpeg
