import VideoIngest.Assembler.AnnexB
import VideoIngest.Proofs.History

/-!
The units of a stream of chunks as one history, and what of it a decoder needs to begin at a key
frame.
-/

namespace VideoIngest

/-- A unit, with the number and the timestamp of the chunk that it came in. -/
structure StreamUnit where
  chunk : Nat
  timestamp : Nat
  unit : NalUnit
  deriving DecidableEq, Repr

namespace StreamUnit

variable (codec : NalCodec)

def role (placed : StreamUnit) : NalRole := codec.roleOfPayload placed.unit.payload

def set? (kind : ParameterSetKind) (placed : StreamUnit) : Option Bytes :=
  if placed.role codec = .parameterSet kind then some placed.unit.payload else none

def size? (placed : StreamUnit) : Option (Nat × Nat) :=
  (placed.set? codec .sps).bind fun payload => (codec.pictureSize payload).toOption

/-- The units of a chunk that have a header. -/
def ofChunk (number : Nat) (chunk : Bytes × Nat) : List StreamUnit :=
  ((NalUnit.scan chunk.1).filter fun unit => codec.headerSize ≤ unit.payload.length).map
    fun unit => ⟨number, chunk.2, unit⟩

end StreamUnit

def streamUnits (codec : NalCodec) (chunks : List (Bytes × Nat)) : List StreamUnit :=
  chunks.zipIdx.flatMap fun chunk => StreamUnit.ofChunk codec chunk.2 chunk.1

theorem streamUnits_append_singleton (codec : NalCodec) (chunks : List (Bytes × Nat))
    (chunk : Bytes × Nat) :
    streamUnits codec (chunks ++ [chunk]) =
      streamUnits codec chunks ++ StreamUnit.ofChunk codec chunks.length chunk := by
  unfold streamUnits
  rw [List.zipIdx_append, List.flatMap_append, Nat.zero_add]
  simp only [List.zipIdx_singleton, List.flatMap_singleton]

theorem chunk_lt_of_mem_streamUnits {codec : NalCodec} {chunks : List (Bytes × Nat)}
    {placed : StreamUnit} (member : placed ∈ streamUnits codec chunks) :
    placed.chunk < chunks.length := by
  unfold streamUnits at member
  obtain ⟨⟨chunk, number⟩, inside, isUnit⟩ := List.mem_flatMap.mp member
  obtain ⟨unit, _, rfl⟩ := List.mem_map.mp isUnit
  exact List.snd_lt_of_mem_zipIdx inside

namespace StreamUnit

variable (codec : NalCodec)

/-! ### Changes of the picture size -/

def changesSize (earlier : List StreamUnit) (placed : StreamUnit) : Bool :=
  match History.latest? (size? codec) earlier, placed.size? codec with
  | some previous, some size => previous != size
  | _, _ => false

/-- The last change of the picture size, behind the units before it. -/
def lastChange (earlier : List StreamUnit) : Option (List StreamUnit × StreamUnit) :=
  (History.collect (fun before placed =>
    if placed.changesSize codec before then some (before, placed) else none) earlier).getLast?

def sinceChange (earlier : List StreamUnit) : List StreamUnit :=
  match lastChange codec earlier with
  | none => earlier
  | some (before, _) => earlier.drop (before.length + 1)

def inChunk (number : Nat) (earlier : List StreamUnit) : List StreamUnit :=
  earlier.filter fun placed => placed.chunk == number

/-- The units that came in the same chunk as the last change of the picture size, in front of it. -/
def besideChange (earlier : List StreamUnit) : List StreamUnit :=
  match lastChange codec earlier with
  | none => []
  | some (before, change) => inChunk change.chunk before

variable {codec} {earlier : List StreamUnit}

theorem lastChange_append_singleton (earlier : List StreamUnit) (placed : StreamUnit) :
    lastChange codec (earlier ++ [placed]) =
      if placed.changesSize codec earlier then some (earlier, placed)
      else lastChange codec earlier := by
  unfold lastChange
  rw [History.collect_append_singleton, List.getLast?_append]
  split <;> rfl

theorem length_lt_of_lastChange {before : List StreamUnit} {change : StreamUnit}
    (last : lastChange codec earlier = some (before, change)) :
    before.length < earlier.length := by
  induction earlier using List.reverseRecOn with
  | nil => contradiction
  | append_singleton earlier placed ih =>
      rw [lastChange_append_singleton] at last
      rw [List.length_append, List.length_singleton]
      cases changes : placed.changesSize codec earlier with
      | true =>
          rw [changes, if_pos rfl] at last
          obtain ⟨rfl, _⟩ := Prod.mk.inj (Option.some.inj last)
          exact Nat.lt_succ_self _
      | false =>
          rw [changes, if_neg Bool.false_ne_true] at last
          exact Nat.lt_succ_of_lt (ih last)

theorem sinceChange_append_singleton (earlier : List StreamUnit) (placed : StreamUnit) :
    sinceChange codec (earlier ++ [placed]) =
      if placed.changesSize codec earlier then [] else sinceChange codec earlier ++ [placed] := by
  unfold sinceChange
  rw [lastChange_append_singleton]
  cases changes : placed.changesSize codec earlier with
  | true =>
      simp only [if_true]
      exact List.drop_eq_nil_of_le (by rw [List.length_append, List.length_singleton])
  | false =>
      simp only [Bool.false_eq_true, if_false]
      cases last : lastChange codec earlier with
      | none => rfl
      | some change => exact List.drop_append_of_le_length (length_lt_of_lastChange last)

theorem besideChange_append_singleton (earlier : List StreamUnit) (placed : StreamUnit) :
    besideChange codec (earlier ++ [placed]) =
      if placed.changesSize codec earlier then inChunk placed.chunk earlier
      else besideChange codec earlier := by
  unfold besideChange
  rw [lastChange_append_singleton]
  cases placed.changesSize codec earlier with
  | true => rfl
  | false => rfl

/-! ### The sets that a key frame needs -/

variable (codec) in
def latestSps (earlier : List StreamUnit) : Option Bytes :=
  History.latest? (set? codec .sps) earlier

variable (codec) in
/-- The latest picture parameter set for the present picture size. -/
def latestPps (earlier : List StreamUnit) : Option Bytes :=
  History.latest? (set? codec .pps) (sinceChange codec earlier)

variable (codec) in
/-- The latest video parameter set for the present picture size. One that came just before the
change of the size, in the same chunk, is for the new size. -/
def latestVps (earlier : List StreamUnit) : Option Bytes :=
  (History.latest? (set? codec .vps) (sinceChange codec earlier)).or
    (History.latest? (set? codec .vps) (besideChange codec earlier))

theorem latestSps_append_singleton (earlier : List StreamUnit) (placed : StreamUnit) :
    latestSps codec (earlier ++ [placed]) = (placed.set? codec .sps).or (latestSps codec earlier) :=
  History.latest?_append_singleton _ _ _

theorem latestPps_append_singleton (earlier : List StreamUnit) (placed : StreamUnit) :
    latestPps codec (earlier ++ [placed]) =
      if placed.changesSize codec earlier then none
      else (placed.set? codec .pps).or (latestPps codec earlier) := by
  unfold latestPps
  rw [sinceChange_append_singleton]
  cases placed.changesSize codec earlier with
  | true => rfl
  | false => exact History.latest?_append_singleton _ _ _

theorem latestVps_append_singleton (earlier : List StreamUnit) (placed : StreamUnit) :
    latestVps codec (earlier ++ [placed]) =
      if placed.changesSize codec earlier then
        History.latest? (set? codec .vps) (inChunk placed.chunk earlier)
      else (placed.set? codec .vps).or (latestVps codec earlier) := by
  unfold latestVps
  rw [sinceChange_append_singleton, besideChange_append_singleton]
  cases placed.changesSize codec earlier with
  | true => rfl
  | false =>
      simp only [Bool.false_eq_true, if_false]
      rw [History.latest?_append_singleton, Option.or_assoc]

def latestSet (codec : NalCodec) (earlier : List StreamUnit) : ParameterSetKind → Option Bytes
  | .vps => latestVps codec earlier
  | .sps => latestSps codec earlier
  | .pps => latestPps codec earlier

theorem latestSet_append_singleton {placed : StreamUnit}
    (sameSize : placed.changesSize codec earlier = false) (kind : ParameterSetKind) :
    latestSet codec (earlier ++ [placed]) kind =
      (placed.set? codec kind).or (latestSet codec earlier kind) := by
  cases kind with
  | vps =>
      rw [latestSet, latestVps_append_singleton, sameSize, if_neg Bool.false_ne_true]
      rfl
  | sps => exact latestSps_append_singleton earlier placed
  | pps =>
      rw [latestSet, latestPps_append_singleton, sameSize, if_neg Bool.false_ne_true]
      rfl

/-- What goes in front of a key unit: the sets that its decoder needs, if all of them have come. -/
def leadingSets (codec : NalCodec) (earlier : List StreamUnit) : Bytes :=
  match codec with
  | .h264 =>
      match latestSps .h264 earlier, latestPps .h264 earlier with
      | some sps, some pps => framed sps ++ framed pps
      | _, _ => []
  | .h265 =>
      match latestVps .h265 earlier, latestSps .h265 earlier, latestPps .h265 earlier with
      | some vps, some sps, some pps => framed vps ++ framed sps ++ framed pps
      | _, _, _ => []

def format (codec : NalCodec) (placed : StreamUnit) : VideoFormat :=
  match placed.size? codec with
  | none => .unknown codec.codec
  | some (width, height) => ⟨codec.codec, width, height⟩

def item? (codec : NalCodec) (earlier : List StreamUnit) (placed : StreamUnit) :
    Option MediaItem :=
  match placed.role codec with
  | .parameterSet .sps => some (.format (placed.format codec))
  | .parameterSet .vps => none
  | .parameterSet .pps => none
  | .key =>
      some (.frame
        { data := leadingSets codec earlier ++ placed.unit.bytes
          timestamp := placed.timestamp
          kind := .key })
  | .delta =>
      some (.frame { data := placed.unit.bytes, timestamp := placed.timestamp, kind := .delta })
  | .skip => none

end StreamUnit
end VideoIngest
