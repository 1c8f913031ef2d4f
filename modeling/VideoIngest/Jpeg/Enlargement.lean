import VideoIngest.Jpeg.Frame

/-!
How the lines of a component become lines of the picture.

A component that is sampled half as often as the picture is enlarged by blending: of the two samples
that stand for one, each is drawn to the neighbour on its side. At other ratios samples are
repeated.
-/

namespace VideoIngest.Jpeg

/-- How a component is brought to the size of the picture: not at all, by doubling it across, down
or both, or by repeating each sample. -/
inductive Enlargement
  | unchanged
  | across
  | down
  | both
  | repeated (columns lines : Nat)
  deriving DecidableEq, Repr

namespace Enlargement

def ofSpans : Nat → Nat → Enlargement
  | 1, 1 => .unchanged
  | 2, 1 => .across
  | 1, 2 => .down
  | 2, 2 => .both
  | columns, lines => .repeated columns lines

def blendsLines : Enlargement → Bool
  | .down | .both => true
  | _ => false

def blend (near far : UInt8) : UInt8 := UInt8.ofNat ((3 * near.toNat + far.toNat + 2) / 4)

/-- A line of twice as many samples. Those at the ends have themselves for their missing
neighbours. -/
def widened (line : List UInt8) : List UInt8 :=
  let before := line.take 1 ++ line
  let behind := line.drop 1 ++ line.drop (line.length - 1)
  (line.zip (before.zip behind)).flatMap fun (own, left, right) => [blend own left, blend own right]

/-- The two lines that stand for one: each is drawn to the line on its side. `line` gives the lines
of the component by index, up to `last`; the first and the last one have themselves for their
missing neighbours. -/
def doubled (line : Nat → List UInt8) (last index : Nat) : List (List UInt8) :=
  let own := line index
  [List.zipWith blend own (line (index - 1)), List.zipWith blend own (line (min (index + 1) last))]

def linesFor (enlargement : Enlargement) (line : Nat → List UInt8) (last index : Nat) :
    List (List UInt8) :=
  match enlargement with
  | .unchanged => [line index]
  | .across => [widened (line index)]
  | .down => doubled line last index
  | .both => (doubled line last index).map widened
  | .repeated columns lines =>
      List.replicate lines ((line index).flatMap (List.replicate columns))

end Enlargement

namespace FrameHeader

def enlargement (frame : FrameHeader) (component : Component) : Enlargement :=
  .ofSpans (frame.across / component.across) (frame.down / component.down)

/-- Lines can be blended with those around them if a row of MCUs has a single row of the component's
blocks. -/
def isScalable (frame : FrameHeader) : Bool :=
  frame.components.all fun component =>
    component.down = 1 || !(frame.enlargement component).blendsLines

/-- Whether some component needs the lines below a row of MCUs to show the last lines of it. -/
def looksBelow (frame : FrameHeader) : Bool :=
  frame.components.any fun component => (frame.enlargement component).blendsLines

end FrameHeader
end VideoIngest.Jpeg
