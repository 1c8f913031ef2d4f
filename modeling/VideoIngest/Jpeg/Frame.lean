import VideoIngest.Bytes

/-!
The frame of a JPEG image: its size, and the components that make up its pixels.

A component is sampled in squares of eight by eight samples. As many of them as its sampling factors
say, across and down, belong to a minimum coded unit, which covers the same part of the picture for
all components.
-/

namespace VideoIngest.Jpeg

structure Component where
  id : UInt8
  across : Nat
  down : Nat
  quantTable : Nat
  deriving DecidableEq, Repr

structure FrameHeader where
  width : Nat
  height : Nat
  components : List Component
  /-- Whether the coefficients of a block are coded in several scans. -/
  isProgressive : Bool
  deriving DecidableEq, Repr

def isFactorAcross (factor : Nat) : Bool := [1, 2, 4].contains factor

def isFactorDown (factor : Nat) : Bool := 1 ≤ factor && factor ≤ 4

def components : Bytes → Option (List Component)
  | [] => some []
  | id :: sampling :: table :: rest => do
      let component : Component :=
        { id, across := sampling.toNat / 16, down := sampling.toNat % 16,
          quantTable := table.toNat }
      guard (isFactorAcross component.across && isFactorDown component.down)
      guard (component.quantTable < 4)
      return component :: (← components rest)
  | _ => none

/-- The sampling of a component is relative to the others, so one alone is sampled once. -/
def withoutLoneSampling : List Component → List Component
  | [only] => [{ only with across := 1, down := 1 }]
  | components => components

/-- A frame header: eight bits for each sample, a picture that is not empty, one to four
components. -/
def frameHeader ( isProgressive : Bool) : Bytes → Option FrameHeader
  | precision :: h1 :: h0 :: w1 :: w0 :: count :: rest => do
      let height := Bytes.bigEndian [h1, h0]
      let width := Bytes.bigEndian [w1, w0]
      guard (precision = 8 ∧ 0 < height ∧ 0 < width ∧ 0 < count ∧ count ≤ 4)
      let components ← components rest
      guard (components.length = count.toNat)
      return { width, height, components := withoutLoneSampling components, isProgressive }
  | _ => none

namespace FrameHeader

def across (frame : FrameHeader) : Nat := (frame.components.map Component.across).foldl max 1

def down (frame : FrameHeader) : Nat := (frame.components.map Component.down).foldl max 1

def unitsCovering (length size : Nat) : Nat := (length + size - 1) / size

def mcusAcross (frame : FrameHeader) : Nat := unitsCovering frame.width (8 * frame.across)

def mcusDown (frame : FrameHeader) : Nat := unitsCovering frame.height (8 * frame.down)

/-- The width of the picture filled up to whole MCUs. -/
def paddedWidth (frame : FrameHeader) : Nat := 8 * frame.across * frame.mcusAcross

def blocksCovering (frame : FrameHeader) (component : Component) : Nat :=
  unitsCovering (unitsCovering (frame.width * component.across) frame.across) 8

def blocksCoveringDown (frame : FrameHeader) (component : Component) : Nat :=
  unitsCovering (unitsCovering (frame.height * component.down) frame.down) 8

/-- The room for the blocks of each component across the picture. It is made for the MCU as known so
far: no component that follows is looked at, and `widest` is the largest factor in front. -/
def roomFrom (width : Nat) : Nat → List Component → List Nat
  | _, [] => []
  | widest, component :: others =>
      let widest := max widest component.across
      component.across * unitsCovering width (8 * widest) :: roomFrom width widest others

def roomAcross (frame : FrameHeader) : List Nat := roomFrom frame.width 1 frame.components

end FrameHeader
end VideoIngest.Jpeg
