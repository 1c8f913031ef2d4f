import VideoIngest.Jpeg.Marker
import VideoIngest.Jpeg.Frame
import VideoIngest.Jpeg.TypicalTables

/-!
The marker segments of a JPEG image up to the start of a scan.

What the segments say adds up to a `Header`; the start of a scan makes a `Scan` of it.
-/

namespace VideoIngest.Jpeg

inductive HeaderFault
  | truncated
  | badSegment (marker : UInt8)
  | unsupportedMarker (marker : UInt8)
  | secondFrame
  | scanWithoutFrame
  | noScan
  | tooManySegments
  deriving DecidableEq, Repr

namespace HeaderFault

def message : HeaderFault → String
  | truncated => "unexpected end of the headers"
  | badSegment marker => "malformed segment of marker " ++ toString marker.toNat
  | unsupportedMarker marker => "unsupported marker " ++ toString marker.toNat
  | secondFrame => "more than one frame header"
  | scanWithoutFrame => "scan without a frame header"
  | noScan => "image without a scan"
  | tooManySegments => "too many segments between scans"

end HeaderFault

inductive ColourModel
  | grey
  | ycbcr
  | rgb
  | cmyk
  | ycck
  /-- None, since there are too few components for the model that was told. -/
  | unnamed
  deriving DecidableEq, Repr

/-- What the headers have said so far. Of several tables with one index the first listed holds. -/
structure Header where
  frame : Option FrameHeader
  colours : ColourModel
  /-- The 64 divisors of each quantization table, in the order in which coefficients are coded. -/
  quantizers : List (Nat × List Nat)
  dcTables : List (Nat × HuffmanTable)
  acTables : List (Nat × HuffmanTable)
  /-- Whether the typical tables stand in for those that are missing. -/
  isMotionJpeg : Bool
  restartInterval : Nat
  /-- How many MCUs are left before a restart is due; zero if none ever is. -/
  untilRestart : Nat
  deriving DecidableEq, Repr

namespace Header

def empty : Header :=
  { frame := none, colours := .ycbcr, quantizers := [], dcTables := [], acTables := []
    isMotionJpeg := false, restartInterval := 0, untilRestart := 0 }

/-- The headers with the Huffman tables that need not be written. -/
def completed (header : Header) : Header :=
  if header.isMotionJpeg then
    { header with
      dcTables := header.dcTables ++ TypicalTables.dc
      acTables := header.acTables ++ TypicalTables.ac }
  else header

end Header

structure ScanComponent where
  index : Nat
  component : Component
  dcTable : Nat
  acTable : Nat
  deriving DecidableEq, Repr

/-- The part of the coefficients that a scan codes: the first and the last position, the bit that a
scan before it has coded last, and the one that it codes last itself. If the former is zero, it
codes all bits above the latter. -/
structure Band where
  first : Nat
  last : Nat
  bitBefore : Nat
  bit : Nat
  deriving DecidableEq, Repr

/-- A scan, with the headers in force where it starts and all bytes behind its own header. -/
structure Scan where
  header : Header
  frame : FrameHeader
  parts : List ScanComponent
  band : Band
  coded : Bytes
  deriving DecidableEq, Repr

namespace Scan

def isComplete (scan : Scan) : Bool := scan.parts.length = scan.frame.components.length

end Scan

/-! ### Segment contents -/

def scanComponents (frame : FrameHeader) : Nat → Bytes → Option (List ScanComponent × Bytes)
  | 0, bytes => some ([], bytes)
  | count + 1, id :: tables :: rest => do
      let index ← frame.components.findIdx? fun component => component.id == id
      let component ← frame.components[index]?
      let (others, rest) ← scanComponents frame count rest
      guard (others.all fun other => other.index ≠ index)
      let own := { index, component, dcTable := tables.toNat / 16, acTable := tables.toNat % 16 }
      return (own :: others, rest)
  | _ + 1, _ => none

def highestBit : Nat := 13

/-- A scan header names one to four different components of the frame, the coefficients that the
scan codes, and the bits of them. -/
def scanHeader (frame : FrameHeader) : Bytes → Option (List ScanComponent × Band)
  | count :: rest => do
      guard (1 ≤ count ∧ count ≤ 4)
      match ← scanComponents frame count.toNat rest with
      | (parts, [first, last, bits]) =>
          guard (first ≤ 63 ∧ last ≤ 63)
          let band : Band :=
            { first := first.toNat, last := last.toNat
              bitBefore := bits.toNat / 16, bit := bits.toNat % 16 }
          guard (band.bitBefore ≤ highestBit ∧ band.bit ≤ highestBit)
          return (parts, band)
      | _ => none
  | [] => none

def numbersOfPairs : Bytes → List Nat
  | high :: low :: rest => Bytes.bigEndian [high, low] :: numbersOfPairs rest
  | _ => []

def quantizer (kind : UInt8) (bytes : Bytes) : Option ((Nat × List Nat) × Bytes) := do
  guard (kind.toNat / 16 ≤ 1 ∧ kind.toNat % 16 < 4)
  let isNarrow := kind.toNat / 16 == 0
  let (entries, rest) ← Bytes.takeExactly (if isNarrow then 64 else 128) bytes
  let divisors := if isNarrow then entries.map UInt8.toNat else numbersOfPairs entries
  return ((kind.toNat % 16, divisors), rest)

def huffmanTable (kind : UInt8) (bytes : Bytes) : Option ((UInt8 × HuffmanTable) × Bytes) := do
  guard (kind.toNat / 16 ≤ 1 ∧ kind.toNat % 16 < 4)
  let (lengths, bytes) ← Bytes.takeExactly 16 bytes
  let counts := lengths.map UInt8.toNat
  guard (HuffmanTable.fits counts)
  let (symbols, rest) ← Bytes.takeExactly (counts.foldr (· + ·) 0) bytes
  guard (kind.toNat / 16 = 1 ∨ symbols.all (· ≤ 15))
  return ((kind, { counts, symbols }), rest)

def tables {α : Type} (table : UInt8 → Bytes → Option (α × Bytes)) :
    Nat → Bytes → Option (List α)
  | _, [] => some []
  | 0, _ :: _ => none
  | count + 1, kind :: bytes => do
      let (first, rest) ← table kind bytes
      return (← tables table count rest) ++ [first]

/-- Each table takes at least one byte. -/
def allTables {α : Type} (table : UInt8 → Bytes → Option (α × Bytes)) (body : Bytes) :
    Option (List α) :=
  tables table body.length body

def tablesOfClass (kindClass : Nat) (tables : List (UInt8 × HuffmanTable)) :
    List (Nat × HuffmanTable) :=
  (tables.filter fun entry => entry.1.toNat / 16 = kindClass).map fun entry =>
    (entry.1.toNat % 16, entry.2)

/-- The colour model by its number in an application segment. Three components that are not
luminance and chrominance are red, green and blue; that their number is three shows only when the
frame is known. -/
def ColourModel.ofCode? : UInt8 → Option ColourModel
  | 0 => some .cmyk
  | 1 => some .ycbcr
  | 2 => some .ycck
  | _ => none

def ColourModel.withComponents (count : Nat) (model : ColourModel) : ColourModel :=
  if count = 1 then .grey else if count = 4 ∧ model = .ycbcr then .cmyk else model

/-! ### The headers as a whole -/

def Header.addSegment (marker : UInt8) (body : Bytes) (header : Header) :
    Except HeaderFault Header :=
  let malformed := HeaderFault.badSegment marker
  match marker with
  | 0xc0 | 0xc1 | 0xc2 =>
      if header.frame.isSome then .error .secondFrame
      else match frameHeader (marker = 0xc2) body with
        | none => .error malformed
        | some frame => .ok { header with
            frame := some frame
            colours := header.colours.withComponents frame.components.length }
  | 0xdb =>
      match allTables quantizer body with
      | none => .error malformed
      | some tables => .ok { header with quantizers := tables ++ header.quantizers }
  | 0xc4 =>
      match allTables huffmanTable body with
      | none => .error malformed
      | some tables => .ok { header with
          dcTables := tablesOfClass 0 tables ++ header.dcTables
          acTables := tablesOfClass 1 tables ++ header.acTables }
  | 0xdd =>
      if body.length = 2 then .ok { header with
        restartInterval := Bytes.bigEndian body
        untilRestart := Bytes.bigEndian body }
      else .error malformed
  | 0xe0 =>
      .ok (if motionName.isPrefixOf body then { header with isMotionJpeg := true } else header)
  | 0xe1 => if isCutExtension body then .error malformed else .ok header
  | 0xee =>
      if colourName.isPrefixOf body then
        match body[11]?.bind ColourModel.ofCode? with
        | none => .error malformed
        | some colours => .ok { header with colours }
      else .ok header
  | _ => .ok header

def Scan.ofHeader (header : Header) (body coded : Bytes) : Except HeaderFault Scan :=
  match header.frame with
  | none => .error .scanWithoutFrame
  | some frame =>
      match scanHeader frame body with
      | none => .error (.badSegment startOfScan)
      | some (parts, band) => .ok { header, frame, parts, band, coded }

def scanBehind (header : Header) (bytes : Bytes) : Except HeaderFault Scan :=
  match _ : nextMarker bytes with
  | none => .error .truncated
  | some (marker, afterMarker) =>
      if marker = endOfImage then .error .noScan
      else if isUnsupported marker then .error (.unsupportedMarker marker)
      else match _ : segmentBody marker afterMarker with
        | none => .error .truncated
        | some (body, rest) =>
            if marker = startOfScan then Scan.ofHeader header body rest
            else
              match header.addSegment marker body with
              | .error fault => .error fault
              | .ok next => scanBehind next rest
  termination_by bytes.length
  decreasing_by
    have first := length_lt_of_nextMarker (by assumption)
    have second := length_lt_of_segmentBody (by assumption)
    omega

def startOfImage : Bytes := [0xff, imageMarker]

def firstScan? (data : Bytes) : Option (Except HeaderFault Scan) :=
  if startOfImage.isPrefixOf data then
    some ((scanBehind .empty (data.drop 2)).map fun scan =>
      { scan with header := scan.header.completed })
  else none

/-! ### Between scans -/

/-- What comes up where a scan has been interrupted: another scan, the end of the image, or the
start of another image. -/
inductive Continuation
  | scan (next : Scan)
  | finished (header : Header)
  | otherImage
  deriving DecidableEq, Repr

def mostSegments : Nat := 64

/-- The next scan behind at most `left` segments. Those that may not stand there are passed over. -/
def laterScan : Nat → Header → Bytes → Except HeaderFault Continuation
  | left, header, bytes =>
      match nextMarker bytes with
      | none => .error .truncated
      | some (marker, afterMarker) =>
          if marker = endOfImage then .ok (.finished header)
          else match segmentBody marker afterMarker with
            | none => .error .truncated
            | some (body, rest) =>
                if marker = startOfScan then (Scan.ofHeader header body rest).map .scan
                else match left with
                  | 0 => .error .tooManySegments
                  | left + 1 =>
                      if segmentMarkers.contains marker then
                        match header.addSegment marker body with
                        | .error fault => .error fault
                        | .ok next => laterScan left next rest
                      else laterScan left header rest

/-- What comes up at a marker that has interrupted a scan, which `rest` follows. The start of
another image has to have a length like a segment. -/
def continuation (header : Header) (marker : UInt8) (rest : Bytes) :
    Except HeaderFault Continuation :=
  if marker = imageMarker then
    match Bytes.takeExactly 2 rest with
    | none => .error .truncated
    | some (length, _) =>
        if Bytes.bigEndian length < 2 then .error (.badSegment marker) else .ok .otherImage
  else if marker = startOfScan ∨ segmentMarkers.contains marker then
    laterScan mostSegments header (0xff :: marker :: rest)
  else .error (.unsupportedMarker marker)

end VideoIngest.Jpeg
