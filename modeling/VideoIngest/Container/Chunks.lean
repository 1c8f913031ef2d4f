import VideoIngest.ByteStream
import VideoIngest.Nal.Codec

/-!
Files cut into the chunks in which a peer would send them: access units, whole JPEG images, or the
frames of an IVF file.
-/

namespace VideoIngest.Container

/-! ### Access units -/

def isSlice (codec : NalCodec) (unit : NalUnit) : Bool :=
  match unit.payload with
  | [] => false
  | header :: _ => codec.role header == .key || codec.role header == .delta

/-- Groups of units that each end with a slice. Behind the last slice there may be one without. -/
def groupUnits (codec : NalCodec) : List NalUnit → List (List NalUnit)
  | [] => []
  | unit :: rest =>
      if isSlice codec unit then [unit] :: groupUnits codec rest
      else match groupUnits codec rest with
        | [] => [[unit]]
        | first :: others => (unit :: first) :: others

def accessUnits (codec : NalCodec) (data : Bytes) : List Bytes :=
  (groupUnits codec (NalUnit.scan data)).map fun group => group.flatMap NalUnit.bytes

/-! ### JPEG images -/

def cutAtMarker (code : UInt8) : Bytes → Option (Bytes × Bytes)
  | [] => none
  | [_] => none
  | byte :: next :: rest =>
      if byte = 0xff ∧ next = code then some ([], rest)
      else (cutAtMarker code (next :: rest)).map fun found => (byte :: found.1, found.2)

theorem append_eq_of_cutAtMarker {code : UInt8} {data before after : Bytes}
    (found : cutAtMarker code data = some (before, after)) :
    before ++ [0xff, code] ++ after = data := by
  fun_induction cutAtMarker code data generalizing before with
  | case1 => contradiction
  | case2 => contradiction
  | case3 byte next rest marker =>
      obtain ⟨rfl, rfl⟩ := Prod.mk.inj (Option.some.inj found)
      rw [marker.1, marker.2]
      rfl
  | case4 byte next rest noMarker ih =>
      obtain ⟨⟨inner, outer⟩, cut, same⟩ := Option.map_eq_some_iff.mp found
      obtain ⟨rfl, rfl⟩ := Prod.mk.inj same
      have rejoined := ih cut
      simp only [List.cons_append, List.append_assoc] at rejoined ⊢
      rw [rejoined]

theorem length_lt_of_cutAtMarker {code : UInt8} {data before after : Bytes}
    (found : cutAtMarker code data = some (before, after)) : after.length < data.length := by
  rw [← append_eq_of_cutAtMarker found]
  simp only [List.length_append, List.length_cons]
  omega

/-- The images in a file, each from its start marker to the next end marker. -/
def jpegImages (data : Bytes) : List Bytes :=
  match _ : cutAtMarker 0xd8 data with
  | none => []
  | some (_, afterStart) =>
      match _ : cutAtMarker 0xd9 afterStart with
      | none => []
      | some (inside, rest) => ([0xff, 0xd8] ++ inside ++ [0xff, 0xd9]) :: jpegImages rest
  termination_by data.length
  decreasing_by
    have first := length_lt_of_cutAtMarker (by assumption : cutAtMarker 0xd8 data = _)
    have second := length_lt_of_cutAtMarker (by assumption : cutAtMarker 0xd9 afterStart = _)
    omega

/-! ### IVF -/

def ivfSignature : Bytes := [0x44, 0x4b, 0x49, 0x46]

def ivfRecordHeader : Nat := 12

def ivfLeastHeader : Nat := 32

def ivfRecord (data : Bytes) : Option (Bytes × Bytes) := do
  let (header, rest) ← Bytes.takeExactly ivfRecordHeader data
  Bytes.takeExactly (Bytes.littleEndian (header.take 4)) rest

theorem length_lt_of_ivfRecord {data frame rest : Bytes}
    (found : ivfRecord data = some (frame, rest)) : rest.length < data.length := by
  obtain ⟨⟨header, body⟩, whole, record⟩ := Option.bind_eq_some_iff.mp found
  obtain ⟨joined, headerSize⟩ := Bytes.append_eq_of_takeExactly_eq_some whole
  obtain ⟨bodyJoined, _⟩ := Bytes.append_eq_of_takeExactly_eq_some record
  rw [← joined, ← bodyJoined]
  simp only [List.length_append, headerSize, ivfRecordHeader]
  omega

def ivfRecords (data : Bytes) : List Bytes :=
  match _ : ivfRecord data with
  | none => []
  | some (frame, rest) => frame :: ivfRecords rest
  termination_by data.length
  decreasing_by exact length_lt_of_ivfRecord (by assumption)

def ivfFrames (data : Bytes) : Option (List Bytes) :=
  if data.length < ivfLeastHeader ∨ !ivfSignature.isPrefixOf data then none
  else
    let headerSize := Bytes.littleEndian ((data.drop 6).take 2)
    some (ivfRecords (data.drop (max headerSize ivfLeastHeader)))

/-! ### Any file -/

inductive Fault
  | notIvf
  deriving DecidableEq, Repr

def Fault.message : Fault → String
  | notIvf => "not an IVF file"

def chunks (codec : Codec) (data : Bytes) : Except Fault (List Bytes) :=
  match codec with
  | .h264 => .ok (accessUnits .h264 data)
  | .h265 => .ok (accessUnits .h265 data)
  | .jpeg => .ok (jpegImages data)
  | .vp9 =>
      match ivfFrames data with
      | none => .error .notIvf
      | some frames => .ok frames

end VideoIngest.Container
