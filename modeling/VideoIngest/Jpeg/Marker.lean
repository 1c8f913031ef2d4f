import VideoIngest.Bytes

/-!
Markers of a JPEG image, and the segments that some of them begin.

Bytes that no marker announces are passed over, as are fill bytes in front of a marker code.
-/

namespace VideoIngest.Jpeg

/-! ### Marker codes -/

def endOfImage : UInt8 := 0xd9

def startOfScan : UInt8 := 0xda

def imageMarker : UInt8 := 0xd8

def isRestart (marker : UInt8) : Bool := 0xd0 ≤ marker && marker ≤ 0xd7

def segmentMarkers : List UInt8 := [0xc4, 0xdb, 0xdd, 0xe0, 0xe1, 0xe2, 0xed, 0xee, 0xfe]

def structureMarkers : List UInt8 := [0xc0, 0xc1, 0xc2, 0xcc, 0xd8, 0xd9, 0xda, 0xdc]

/-- Whether a marker is known. No other may stand in coded data. -/
def isKnown (marker : UInt8) : Bool :=
  isRestart marker || segmentMarkers.contains marker || structureMarkers.contains marker

/-- The markers at which reading the headers gives up: arithmetic coding, number of lines. -/
def isUnsupported (marker : UInt8) : Bool := marker = 0xcc || marker = 0xdc

def nextMarker : Bytes → Option (UInt8 × Bytes)
  | [] => none
  | [_] => none
  | byte :: code :: rest =>
      if byte = 0xff ∧ code ≠ 0xff ∧ code ≠ 0 then some (code, rest) else nextMarker (code :: rest)

theorem length_lt_of_nextMarker {bytes rest : Bytes} {code : UInt8}
    (found : nextMarker bytes = some (code, rest)) : rest.length < bytes.length := by
  fun_induction nextMarker bytes with
  | case1 => contradiction
  | case2 => contradiction
  | case3 byte next after marker =>
      obtain ⟨rfl, rfl⟩ := Prod.mk.inj (Option.some.inj found)
      simp only [List.length_cons]
      omega
  | case4 byte next after noMarker ih =>
      have shorter := ih found
      simp only [List.length_cons] at shorter ⊢
      omega

/-! ### Application segments -/

def colourMarker : UInt8 := 0xee

def colourName : Bytes := [0x41, 0x64, 0x6f, 0x62, 0x65]

def motionName : Bytes := [0x41, 0x56, 0x49, 0x31, 0]

def extensionName : Bytes :=
  [0x68, 0x74, 0x74, 0x70, 0x3a, 0x2f, 0x2f, 0x6e, 0x73, 0x2e, 0x61, 0x64, 0x6f, 0x62, 0x65, 0x2e,
    0x63, 0x6f, 0x6d, 0x2f, 0x78, 0x6d, 0x70, 0x2f, 0x65, 0x78, 0x74, 0x65, 0x6e, 0x73, 0x69, 0x6f,
    0x6e, 0x2f, 0]

/-- How many bytes stand behind the name of a metadata segment: a digest of 32, the length of the
whole, and the place of this part in it. -/
def extensionHeaderSize : Nat := 40

/-- Whether a metadata segment begins its header and breaks off within it. -/
def isCutExtension (body : Bytes) : Bool :=
  extensionName.isPrefixOf body && extensionName.length < body.length &&
    body.length < extensionName.length + extensionHeaderSize

/-! ### Segments -/

/-- How many bytes belong to a segment behind its length, which counts itself. The first application
segment begins with a name of five bytes, and takes all five where its length leaves it four. -/
def bodySize (marker : UInt8) (length : Nat) : Nat :=
  if marker = 0xe0 ∧ length = 6 then 5 else length - 2

/-- The least length of a segment, which counts itself. One that tells the colour model has twelve
bytes behind it; whether it is one is seen by the name that follows. -/
def leastLength (marker : UInt8) (following : Bytes) : Nat :=
  if marker = colourMarker ∧ colourName.isPrefixOf following then 14 else 2

/-- Whether a segment can be told from others of its marker: there are enough bytes behind its
length for the name of one that tells the colour model. -/
def isNamed (marker : UInt8) (following : Bytes) : Bool :=
  marker ≠ colourMarker || (Bytes.takeExactly colourName.length following).isSome

def segmentBody (marker : UInt8) : Bytes → Option (Bytes × Bytes)
  | high :: low :: rest =>
      let length := Bytes.bigEndian [high, low]
      if !isNamed marker rest || length < leastLength marker rest then none
      else Bytes.takeExactly (bodySize marker length) rest
  | _ => none

theorem length_lt_of_segmentBody {marker : UInt8} {bytes body rest : Bytes}
    (found : segmentBody marker bytes = some (body, rest)) : rest.length < bytes.length := by
  unfold segmentBody at found
  split at found
  · simp only at found
    split at found
    · contradiction
    · have parts := (Bytes.append_eq_of_takeExactly_eq_some found).1
      rw [← parts]
      simp only [List.length_cons, List.length_append]
      omega
  · contradiction

end VideoIngest.Jpeg
