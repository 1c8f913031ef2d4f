import VideoIngest.Jpeg.Header
import VideoIngest.Jpeg.Block
import VideoIngest.Jpeg.Raster

/-!
The coded scans of an image.

A scan codes the blocks of its components MCU by MCU, in rows that cover the picture. Where restarts
are due, a marker stands behind an MCU and prediction starts anew. Any other marker but the one that
ends the image interrupts the scan, at the end of the row in which it is met. No row is begun when
the data are known to have ended.
-/

namespace VideoIngest.Jpeg

def lookUp {α : Type} (index : Nat) (tables : List (Nat × α)) : Option α :=
  (tables.find? fun entry => entry.1 == index).map (·.2)

/-- How far the scans have been decoded: what is left of the coded bytes and of the MCUs before the
next restart, each component's last first coefficient, and the blocks of the present row of MCUs,
newest first. -/
structure Progress where
  stream : CodedStream
  untilRestart : Nat
  predictions : List Int
  blocks : List PlacedBlock

structure PlannedBlock where
  component : Nat
  row : Nat
  column : Nat
  coding : Option BlockCoding
  deriving DecidableEq, Repr

/-- How a row of MCUs went: decoded as far as it was coded, broken off in an MCU, or refused. -/
inductive RowResult
  | decoded (progress : Progress)
  | broken (progress : Progress)
  | refused (fault : ScanFault)

/-- How a scan ended: with its last row, at a marker, in front of a row for which there are no data,
or in an MCU that cannot be decoded. -/
inductive ScanEnding
  | complete
  | interrupted (marker : UInt8)
  | exhausted
  | broken
  deriving DecidableEq, Repr

structure ScanResult where
  progress : Progress
  rows : List (List PlacedBlock)
  ending : ScanEnding

namespace Progress

def start (frame : FrameHeader) : Progress :=
  { stream := .ofBytes [], untilRestart := 0
    predictions := frame.components.map fun _ => 0
    blocks := [] }

def decodeBlock (progress : Progress) (planned : PlannedBlock) : Except ScanFault Progress := do
  let some coding := planned.coding | throw .missingTable
  let prediction := progress.predictions.getD planned.component 0
  let (coefficients, stream) ← coding.decode prediction progress.stream
  let block : PlacedBlock :=
    { component := planned.component, row := planned.row, column := planned.column
      samples := coefficients.samples coding.quantizer }
  return { progress with
    stream
    predictions := progress.predictions.set planned.component coefficients.first
    blocks := block :: progress.blocks }

def decodeBlocks : List PlannedBlock → Progress → RowResult
  | [], progress => .decoded progress
  | planned :: others, progress =>
      match progress.decodeBlock planned with
      | .ok next => decodeBlocks others next
      | .error .missingTable => .refused .missingTable
      | .error _ => .broken progress

/-- Predicts anew at a restart marker. Where there is none, prediction goes on. -/
def restarted (interval : Nat) (progress : Progress) : Except ScanFault Progress := do
  let (isRestart, stream) ← progress.stream.restarted
  let progress := { progress with stream, untilRestart := interval }
  if isRestart then
    return { progress with predictions := progress.predictions.map fun _ => 0 }
  else return progress

def decodeRow (interval : Nat) : List (List PlannedBlock) → Progress → RowResult
  | [], progress => .decoded progress
  | mcu :: others, progress =>
      match decodeBlocks mcu progress with
      | .refused fault => .refused fault
      | .broken progress => .broken progress
      | .decoded progress =>
          if progress.untilRestart = 1 then
            match progress.restarted interval with
            | .error fault => .refused fault
            | .ok next => decodeRow interval others next
          else
            let progress := { progress with untilRestart := progress.untilRestart - 1 }
            if progress.stream.isExhausted then .decoded progress
            else decodeRow interval others progress

def interruption? (progress : Progress) : Option UInt8 :=
  match progress.stream.supply with
  | .stopped marker => if isRestart marker || marker = endOfImage then none else some marker
  | _ => none

def finishedRow (progress : Progress) : List PlacedBlock × Progress :=
  (progress.blocks.reverse, { progress with blocks := [] })

/-- The marker at the end of the image ends it for good. -/
def pastEnd (progress : Progress) : Progress :=
  if progress.stream.supply = .stopped endOfImage then
    { progress with stream := { progress.stream with supply := .ended } }
  else progress

end Progress

/-! ### The blocks of a scan -/

def tableCount : Nat := 4

/-- The tables by which a component of the scan is decoded. An index beyond the last one starts over
at the first. -/
def blockCoding (quantizers : List (Nat × List Nat)) (header : Header) (part : ScanComponent) :
    Option BlockCoding := do
  let quantizer ← lookUp part.component.quantTable quantizers
  let dc ← lookUp (part.dcTable % tableCount) header.dcTables
  let ac ← lookUp (part.acTable % tableCount) header.acTables
  return { quantizer, dc, ac }

def plannedBlocks (part : ScanComponent) (coding : Option BlockCoding) (mcuColumn : Nat) :
    List PlannedBlock :=
  (List.range part.component.down).flatMap fun down =>
    (List.range part.component.across).map fun across =>
      { component := part.index
        row := down
        column := mcuColumn * part.component.across + across
        coding }

/-- How many columns of blocks are coded in a row of MCUs where the components are coded block by
block: as many as it takes to cover the width of the picture with the narrowest one. -/
def columnsCoded (frame : FrameHeader) (parts : List ScanComponent) : Nat :=
  (parts.map fun part => frame.blocksCovering part.component).min?.getD 0

/-- The MCUs of a row. If an image does not begin with a scan of all components, each of its scans
has one block of each of its components in an MCU, all at the top of the row. -/
def plannedRow (frame : FrameHeader) (isWhole : Bool)
    (codings : List (ScanComponent × Option BlockCoding)) : List (List PlannedBlock) :=
  if isWhole then
    (List.range frame.mcusAcross).map fun mcuColumn =>
      codings.flatMap fun (part, coding) => plannedBlocks part coding mcuColumn
  else
    (List.range (columnsCoded frame (codings.map (·.1)))).map fun column =>
      codings.map fun (part, coding) => { component := part.index, row := 0, column, coding }

def ScanResult.behind (blocks : List PlacedBlock) (result : ScanResult) : ScanResult :=
  { result with rows := blocks :: result.rows }

namespace Scan

def decodeRows (scan : Scan) (mcus : List (List PlannedBlock)) :
    Nat → Progress → Except ScanFault ScanResult
  | 0, progress => .ok { progress, rows := [], ending := .complete }
  | count + 1, progress =>
      if progress.stream.supply = .overrun then
        .ok { progress, rows := [], ending := .exhausted }
      else
        match progress.decodeRow scan.header.restartInterval mcus with
        | .refused fault => .error fault
        | .broken progress =>
            let (blocks, progress) := progress.finishedRow
            .ok { progress, rows := [blocks], ending := .broken }
        | .decoded progress =>
            let (blocks, progress) := progress.finishedRow
            match progress.interruption? with
            | some marker => .ok { progress, rows := [blocks], ending := .interrupted marker }
            | none => (scan.decodeRows mcus count progress.pastEnd).map (·.behind blocks)

/-- Decodes the scan, which goes on from what others before it have left. `isWhole` tells whether
the first scan has all components. -/
def decode (scan : Scan) (isWhole : Bool) (quantizers : List (Nat × List Nat))
    (before : Progress) : Except ScanFault ScanResult :=
  let codings := scan.parts.map fun part => (part, blockCoding quantizers scan.header part)
  scan.decodeRows (plannedRow scan.frame isWhole codings) scan.frame.mcusDown
    { before with stream := .ofBytes scan.coded, untilRestart := scan.header.untilRestart }

/-- A component's part in the scan. One that has none is taken to be coded by the first tables. -/
def partOf (scan : Scan) (component : Component) (index : Nat) : ScanComponent :=
  (scan.parts.find? fun part => part.index == index).getD
    { index, component, dcTable := 0, acTable := 0 }

def hasQuantizers (scan : Scan) : Bool :=
  scan.frame.components.all fun component =>
    (lookUp component.quantTable scan.header.quantizers).isSome

/-- Whether there are Huffman tables for all components of the frame. No index may be beyond the
last one. -/
def hasHuffmanTables (scan : Scan) : Bool :=
  scan.frame.components.zipIdx.all fun (component, index) =>
    let part := scan.partOf component index
    (lookUp part.dcTable scan.header.dcTables).isSome &&
      (lookUp part.acTable scan.header.acTables).isSome

end Scan
end VideoIngest.Jpeg
