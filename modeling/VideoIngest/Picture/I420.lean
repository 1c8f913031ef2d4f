import VideoIngest.Bytes

/-!
Planar pictures: one luma sample for each pixel and two chroma samples for each block of 2 × 2.

Conversion from RGB takes chroma from the average colour of those pixels of a block that lie inside
the picture.
-/

namespace VideoIngest

structure Rgb where
  red : Nat
  green : Nat
  blue : Nat
  deriving DecidableEq, Repr

namespace Rgb

def sample (value : Int) : UInt8 := UInt8.ofNat (min value.toNat 255)

def luma (colour : Rgb) : UInt8 :=
  sample ((66 * colour.red + 129 * colour.green + 25 * colour.blue + 128) / 256 + 16)

def blueChroma (colour : Rgb) : UInt8 :=
  sample ((-38 * (colour.red : Int) - 74 * colour.green + 112 * colour.blue + 128) / 256 + 128)

def redChroma (colour : Rgb) : UInt8 :=
  sample ((112 * (colour.red : Int) - 94 * colour.green - 18 * colour.blue + 128) / 256 + 128)

def add (left right : Rgb) : Rgb :=
  { red := left.red + right.red, green := left.green + right.green, blue := left.blue + right.blue }

def average (colours : List Rgb) : Rgb :=
  let total := colours.foldr add { red := 0, green := 0, blue := 0 }
  let count := colours.length
  { red := total.red / count, green := total.green / count, blue := total.blue / count }

def ofBytes (rgb : Array UInt8) (width row column : Nat) : Rgb :=
  let offset := 3 * (row * width + column)
  let channel (place : Nat) : Nat := (rgb[offset + place]?.getD 0).toNat
  { red := channel 0, green := channel 1, blue := channel 2 }

end Rgb

/-- A picture in three planes, row after row without gaps. -/
structure I420 where
  width : Nat
  height : Nat
  y : Bytes
  u : Bytes
  v : Bytes
  deriving DecidableEq, Repr

namespace I420

def chromaExtent (extent : Nat) : Nat := (extent + 1) / 2

def chromaWidth (picture : I420) : Nat := chromaExtent picture.width

def chromaHeight (picture : I420) : Nat := chromaExtent picture.height

def size (picture : I420) : Nat :=
  picture.y.length + picture.u.length + picture.v.length

def chromaCount (width height : Nat) : Nat := chromaExtent width * chromaExtent height

def black (width height : Nat) : I420 where
  width := width
  height := height
  y := List.replicate (width * height) 16
  u := List.replicate (chromaCount width height) 128
  v := List.replicate (chromaCount width height) 128

/-- The two positions along a side that one chroma sample covers, less those outside. -/
def covered (extent index : Nat) : List Nat :=
  [2 * index, 2 * index + 1].filter fun position => position < extent

def blockColours (pixel : Nat → Nat → Rgb) (width height row column : Nat) : List Rgb :=
  (covered height row).flatMap fun y => (covered width column).map fun x => pixel y x

def plane (width height : Nat) (value : Nat → Nat → UInt8) : Bytes :=
  (List.range (width * height)).map fun place => value (place / width) (place % width)

@[simp] theorem length_plane (width height : Nat) (value : Nat → Nat → UInt8) :
    (plane width height value).length = width * height := by
  simp [plane]

def ofPixels (width height : Nat) (pixel : Nat → Nat → Rgb) : I420 :=
  let block := fun row column => Rgb.average (blockColours pixel width height row column)
  { width, height
    y := plane width height fun row column => (pixel row column).luma
    u := plane (chromaExtent width) (chromaExtent height) fun row column =>
      (block row column).blueChroma
    v := plane (chromaExtent width) (chromaExtent height) fun row column =>
      (block row column).redChroma }

/-- The picture of packed RGB bytes, or nothing when there are too few. -/
def ofRgb24 (width height : Nat) (rgb : Bytes) : Option I420 :=
  if rgb.length < 3 * width * height then none
  else some (ofPixels width height (Rgb.ofBytes rgb.toArray width))

end I420
end VideoIngest
