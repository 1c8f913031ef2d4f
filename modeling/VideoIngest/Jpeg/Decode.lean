import VideoIngest.Error
import VideoIngest.Jpeg.Colour
import VideoIngest.Jpeg.Plane
import VideoIngest.Jpeg.Scan
import VideoIngest.Jpeg.Progressive

/-!
JPEG images: the size that their headers announce, and their pixels.

Scans are decoded up to the end of the image, and each begins at the top of its components again. If
the first one has all components, rows of MCUs are shown as they are decoded, and those of another
scan below them. Else all scans add to one picture, as they do in a progressive image.
-/

namespace VideoIngest.Jpeg

def dimensions (data : Bytes) : Except ParseError (Nat × Nat) :=
  match firstScan? data with
  | none => .error .notJpeg
  | some (.error fault) => .error (.jpegHeader fault.message)
  | some (.ok scan) =>
      if scan.frame.width = 0 ∨ scan.frame.height = 0 then .error (.outOfRange "frame size")
      else .ok (scan.frame.width, scan.frame.height)

inductive Fault
  | notJpeg
  | headers (cause : HeaderFault)
  | scan (cause : ScanFault)
  | sampling
  | colours
  | tooLarge
  deriving DecidableEq, Repr

def Fault.message : Fault → String
  | notJpeg => "not a JPEG image"
  | headers cause => cause.message
  | scan cause => cause.message
  | sampling => "unsupported sampling factors"
  | colours => "unsupported colour model"
  | tooLarge => "image too large"

/-! ### Sequences of scans -/

structure DecodedScan where
  rows : List (List PlacedBlock)
  colours : ColourModel
  coloursBehind : ColourModel

/-- How the last scan ended: as it should, in front of a row for which there are no data, or broken
off. -/
inductive ImageEnding
  | finished
  | exhausted
  | broken
  deriving DecidableEq, Repr

structure DecodedScans where
  scans : List DecodedScan
  ending : ImageEnding

def DecodedScans.behind (scan : DecodedScan) (decoded : DecodedScans) : DecodedScans :=
  { decoded with scans := scan :: decoded.scans }

def DecodedScans.only (rows : List (List PlacedBlock)) (colours : ColourModel)
    (ending : ImageEnding) : DecodedScans :=
  { scans := [{ rows, colours, coloursBehind := colours }], ending }

/-- Decodes a scan and those behind it. A scan that is not interrupted is taken for the last one.
`isWhole` tells whether the first scan has all components, and `count` bounds how many there may
be. -/
def decodeScans (quantizers : List (Nat × List Nat)) (isWhole : Bool) :
    Nat → Scan → Progress → Except Fault DecodedScans
  | 0, _, _ => .error (.headers .truncated)
  | count + 1, scan, before => do
      let result ← (scan.decode isWhole quantizers before).mapError .scan
      let colours := scan.header.colours
      match result.ending with
      | .complete => return .only result.rows colours .finished
      | .exhausted => return .only result.rows colours .exhausted
      | .broken => return .only result.rows colours .broken
      | .interrupted marker =>
          let progress := result.progress
          let header := { scan.header with untilRestart := progress.untilRestart }
          match ← (continuation header marker progress.stream.rest).mapError .headers with
          | .scan next =>
              let others ← decodeScans quantizers isWhole count next progress
              return others.behind
                { rows := result.rows, colours, coloursBehind := next.header.colours }
          | .finished header =>
              let last : DecodedScan :=
                { rows := result.rows, colours, coloursBehind := header.colours }
              return { scans := [last], ending := .finished }
          | .otherImage => return .only result.rows colours .broken

/-! ### Coverage -/

/-- A row of MCUs that is shown: the planes that it is a row of, which of their rows it is, and the
colour model in which it is shown. -/
structure ShownRow where
  planes : List Plane
  mcuRow : Nat
  colours : ColourModel

/-- What the scans have to show: rows of MCUs from the top, the value of the bytes that a line
without a colour model leaves, and the value of all channels below. -/
structure Coverage where
  rows : List ShownRow
  lineFiller : UInt8
  filler : UInt8

def missingFiller : UInt8 := 128

def ImageEnding.filler : ImageEnding → UInt8
  | .finished => 0
  | .exhausted | .broken => missingFiller

/-! ### Rows that are shown as they are decoded -/

def FrameHeader.rowRasters (frame : FrameHeader) : List Raster :=
  (frame.components.zip frame.roomAcross).map fun (component, across) =>
    .blank (8 * across) (64 * across * component.down)

/-- What the room for a row of MCUs holds after each row. A place that no block is put into keeps
what it held before. -/
def rastersOfRows (index : Nat) (raster : Raster) : List (List PlacedBlock) → List Raster
  | [] => []
  | blocks :: rows =>
      let next := raster.putAll index 0 blocks
      next :: rastersOfRows index next rows

/-- The rows of a scan of all components. The last one is shown in the colours behind the scan. -/
def DecodedScan.shownRows (scan : DecodedScan) (planes : List Plane) : List ShownRow :=
  (List.range scan.rows.length).map fun mcuRow =>
    { planes, mcuRow
      colours := if mcuRow + 1 = scan.rows.length then scan.coloursBehind else scan.colours }

/-- The rows of all scans. Each scan begins with the room for a row of MCUs as the one before it has
left it. -/
def rowsInTurn (frame : FrameHeader) : List Raster → List DecodedScan → List ShownRow
  | _, [] => []
  | rasters, scan :: scans =>
      let held := rasters.zipIdx.map fun (raster, index) =>
        (raster, rastersOfRows index raster scan.rows)
      let planes := frame.planes (held.map fun (raster, ofRows) => .joined raster.width ofRows)
      scan.shownRows planes ++
        rowsInTurn frame (held.map fun (raster, ofRows) => ofRows.getLastD raster) scans

def DecodedScans.coverageInTurn (frame : FrameHeader) (decoded : DecodedScans) : Coverage :=
  { rows := rowsInTurn frame frame.rowRasters decoded.scans
    lineFiller := 0
    filler := decoded.ending.filler }

/-! ### Scans that add to one picture -/

/-- For each component the room for all of its blocks. Lines are as wide as the room for a row of
MCUs is, which may be wider than the blocks. -/
def FrameHeader.jointRasters (frame : FrameHeader) : List Raster :=
  (frame.components.zip frame.roomAcross).map fun (component, across) =>
    .blank (8 * across)
      (64 * component.across * frame.mcusAcross * component.down * frame.mcusDown)

def DecodedScans.jointRasters (frame : FrameHeader) (decoded : DecodedScans) : List Raster :=
  (frame.components.zip frame.jointRasters).zipIdx.map fun ((component, raster), index) =>
    decoded.scans.foldl (fun raster scan =>
      scan.rows.zipIdx.foldl (fun raster (blocks, mcuRow) =>
        raster.putAll index (mcuRow * component.down) blocks) raster) raster

def DecodedScans.haveRoom (frame : FrameHeader) (decoded : DecodedScans) : Bool :=
  (frame.components.zip frame.jointRasters).zipIdx.all fun ((component, raster), index) =>
    decoded.scans.all fun scan =>
      scan.rows.zipIdx.all fun (blocks, mcuRow) =>
        blocks.all fun block =>
          block.component ≠ index ||
            raster.hasRoom (mcuRow * component.down + block.row) block.column

/-- The raster cut in as many parts as there are rows of MCUs, each filled up with zeros to the room
for a row. -/
def FrameHeader.spread (frame : FrameHeader) (component : Component) (raster : Raster) : Raster :=
  let part := raster.samples.size / frame.mcusDown
  let room := 8 * raster.width * component.down
  .joined raster.width ((List.range frame.mcusDown).map fun mcuRow =>
    { width := raster.width
      samples := raster.samples.extract (mcuRow * part) ((mcuRow + 1) * part) ++
        Raster.zeros (room - part) })

/-- What the scans of an image have to show together whose first scan does not have all components.
One that breaks off spoils all of them. -/
def DecodedScans.jointCoverage (frame : FrameHeader) (decoded : DecodedScans) : Coverage :=
  let rasters := decoded.jointRasters frame
  let planes := frame.planes ((frame.components.zip rasters).map fun (component, raster) =>
    frame.spread component raster)
  let colours := (decoded.scans.getLast?.map DecodedScan.coloursBehind).getD .unnamed
  match decoded.ending with
  | .broken => { rows := [], lineFiller := 0, filler := missingFiller }
  | .finished | .exhausted =>
      { rows := (List.range frame.mcusDown).map fun mcuRow => { planes, mcuRow, colours }
        lineFiller := decoded.ending.filler
        filler := 0 }

/-- What the scans of a sequential image have to show, from its first scan on. The quantization
tables are those in front of it. Each further scan takes bytes of its own. -/
def Scan.sequentialCoverage (first : Scan) : Except Fault Coverage := do
  let frame := first.frame
  let decoded ← decodeScans first.header.quantizers first.isComplete (first.coded.length + 1) first
    (.start frame)
  if first.isComplete then return decoded.coverageInTurn frame
  else if decoded.haveRoom frame then return decoded.jointCoverage frame
  else throw .sampling

def Scan.progressiveCoverage (first : Scan) : Except Fault Coverage := do
  let frame := first.frame
  let (header, progression) ← first.passes.mapError .headers
  if frame.hasExactRoom then
    let planes := frame.progressivePlanes first.header.quantizers progression
    let rows := (List.range frame.mcusDown).map fun mcuRow =>
      { planes, mcuRow, colours := header.colours }
    return { rows, lineFiller := 0, filler := 0 }
  else throw .sampling

def Scan.coverage (first : Scan) : Except Fault Coverage := do
  if !first.hasQuantizers then throw (.scan .missingTable)
  if first.frame.isProgressive then first.progressiveCoverage
  else if first.hasHuffmanTables then first.sequentialCoverage
  else throw (.scan .missingTable)

/-! ### Pixels -/

/-- A decoded image: the packed RGB of its lines from the top, and the value of all channels below
them. -/
structure RgbImage where
  width : Nat
  height : Nat
  top : Bytes
  filler : UInt8
  deriving DecidableEq, Repr

def RgbImage.rgb (image : RgbImage) : Bytes :=
  let size := 3 * image.width * image.height
  image.top ++ List.replicate (size - image.top.length) image.filler

def Coverage.shown? (frame : FrameHeader) (coverage : Coverage) : Option (List Bytes) := do
  guard (coverage.rows.isEmpty ∨ frame.isScalable)
  let lines := coverage.rows.flatMap fun row =>
    (frame.linesOfRow row.planes row.mcuRow).map fun line => (row.colours, line)
  (lines.take frame.height).mapM fun (colours, line) =>
    line.map fun samples => colours.packedLine frame.width coverage.lineFiller samples

def largestImage : Nat := 512 * 1024 * 1024

/-- How many bytes the decoded image takes. Grey takes one for each pixel. -/
def Scan.imageSize (scan : Scan) : Nat :=
  scan.frame.width * scan.frame.height * (if scan.header.colours = .grey then 1 else 3)

def Scan.shown? (scan : Scan) : Option Scan := do
  let colours ← scan.header.colours.shown? scan.frame.components
  return { scan with header := { scan.header with colours } }

def Scan.image (first : Scan) : Except Fault RgbImage := do
  let frame := first.frame
  if largestImage < first.imageSize then throw .tooLarge
  let some first := first.shown? | throw .colours
  let coverage ← first.coverage
  let some lines := coverage.shown? frame | throw .sampling
  return {
    width := frame.width
    height := frame.height
    top := lines.flatten
    filler := coverage.filler }

def decode (data : Bytes) : Except Fault RgbImage :=
  match firstScan? data with
  | none => .error .notJpeg
  | some (.error cause) => .error (.headers cause)
  | some (.ok first) => first.image

end VideoIngest.Jpeg
