import VideoIngest.Picture
import VideoIngest.Jpeg.Header

/-! The colours that the samples of a picture's components stand for. -/

namespace VideoIngest.Jpeg

def channel (luma contribution : Int) : Nat :=
  min ((16384 * luma + 8191 + contribution) / 16384).toNat 255

def colourOfYCbCr (y cb cr : UInt8) : Rgb :=
  let luma : Int := y.toNat
  let blue : Int := (cb.toNat : Int) - 128
  let red : Int := (cr.toNat : Int) - 128
  { red := channel luma (22970 * red)
    green := channel luma (-11700 * red - 5638 * blue)
    blue := channel luma (29032 * blue) }

/-- A channel under a share of black, of which 255 leaves it as it is: their product divided by 255
and rounded. -/
def shadedChannel (light black : Nat) : Nat :=
  let product := light * black + 128
  (product + product / 256) / 256

def shaded (colour : Rgb) (black : UInt8) : Rgb :=
  { red := shadedChannel colour.red black.toNat
    green := shadedChannel colour.green black.toNat
    blue := shadedChannel colour.blue black.toNat }

def complement (colour : Rgb) : Rgb :=
  { red := 255 - colour.red, green := 255 - colour.green, blue := 255 - colour.blue }

namespace ColourModel

def channelCount : ColourModel → Nat
  | .unnamed => 0
  | .grey => 1
  | .ycbcr | .rgb => 3
  | .cmyk | .ycck => 4

def colourOfRgb (red green blue : UInt8) : Rgb :=
  { red := red.toNat, green := green.toNat, blue := blue.toNat }

/-- The colour of a pixel, from each component's sample there; black where there are too few.
Luminance and chrominance can do without black. Inks are stored as the light that they let
through. -/
def colour : ColourModel → List UInt8 → Rgb
  | .grey, light :: _ => colourOfRgb light light light
  | .rgb, red :: green :: blue :: _ => colourOfRgb red green blue
  | .ycbcr, y :: cb :: cr :: _ => colourOfYCbCr y cb cr
  | .cmyk, cyan :: magenta :: yellow :: black :: _ =>
      shaded (colourOfRgb cyan magenta yellow) black
  | .ycck, y :: cb :: cr :: black :: _ => shaded (complement (colourOfYCbCr y cb cr)) black
  | .ycck, y :: cb :: cr :: _ => colourOfYCbCr y cb cr
  | _, _ => colourOfRgb 0 0 0

end ColourModel

/-- Whether the components are named R, G and B, which says that they are these colours. -/
def isNamedRgb (components : List Component) : Bool :=
  components.map Component.id == [82, 71, 66]

/-- The colour model as the components bear it out: three that cannot be cyan, magenta, yellow and
black are red, green and blue. -/
def ColourModel.settled (components : List Component) (model : ColourModel) : ColourModel :=
  if isNamedRgb components ∨ (components.length = 3 ∧ model = .cmyk) then .rgb else model

/-- The colour model in which the components are shown. Luminance and chrominance can do without
black; else too few components have no model, and a single one cannot be shown then. -/
def ColourModel.shown? (components : List Component) (model : ColourModel) : Option ColourModel :=
  let model := model.settled components
  if model.channelCount ≤ components.length then some model
  else if model = .ycck then some .ycbcr
  else if components.length < 2 then none
  else some .unnamed

/-! ### Lines of the picture -/

def packed (colour : Rgb) : Bytes :=
  [UInt8.ofNat colour.red, UInt8.ofNat colour.green, UInt8.ofNat colour.blue]

def columns (width : Nat) (lines : List (List UInt8)) : List (List UInt8) :=
  lines.foldr (List.zipWith (· :: ·)) (List.replicate width [])

/-- The bytes of a line of the picture, from the line of each component. Without a model the samples
are packed as they are, at the front of the line, and `filler` takes up the rest of it. -/
def ColourModel.packedLine (width : Nat) (filler : UInt8) (lines : List (List UInt8))
    (model : ColourModel) : Bytes :=
  let pixels := columns width lines
  match model with
  | .unnamed =>
      let samples := pixels.flatten
      samples ++ List.replicate (3 * width - samples.length) filler
  | _ => pixels.flatMap fun pixel => packed (model.colour pixel)

end VideoIngest.Jpeg
