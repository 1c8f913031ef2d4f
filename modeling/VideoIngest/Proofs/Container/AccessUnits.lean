import VideoIngest.Container.Chunks
import VideoIngest.Proofs.Assembler.ChunkBorder
import VideoIngest.Proofs.Assembler.Coded
import VideoIngest.Proofs.Assembler.KeyFrames
import VideoIngest.Proofs.ByteStream.Framing

/-!
What becomes of the units of a file that is cut into access units.

A chunk is written from its units alone; empty units between them are lost. So a unit that ends in a
zero may come to stand in front of a short start code, and its zero is then read as a part of that
start code. Nothing else changes: `Container.splitting_keeps_units`.
-/

namespace VideoIngest

namespace Container

/-- Written one behind the other, the two units are still cut where one ends and the other begins. -/
def Joins (first second : NalUnit) : Prop :=
  second.startCode = .short → first.payload.getLast? ≠ some 0

instance (first second : NalUnit) : Decidable (Joins first second) :=
  inferInstanceAs (Decidable (_ → _))

/-- Any two neighbours can be joined, unless the first of them ends a chunk. -/
def Rejoins (codec : NalCodec) (units : List NalUnit) : Prop :=
  units.IsChain fun first second => isSlice codec first ∨ Joins first second

instance (codec : NalCodec) (units : List NalUnit) : Decidable (Rejoins codec units) :=
  inferInstanceAs (Decidable (List.IsChain _ units))

/-- A unit in front of others. Where they cannot be joined, its last zero goes to the start code
behind it. -/
def attach (unit : NalUnit) : List NalUnit → List NalUnit
  | [] => [unit]
  | next :: rest =>
      if Joins unit next then unit :: next :: rest
      else { unit with payload := unit.payload.dropLast } :: { next with startCode := .long } :: rest

/-- The units as they are cut once they have been written one behind the other. -/
def joined (units : List NalUnit) : List NalUnit := units.foldr attach []

/-! ### Units that are written and cut again -/

theorem joined_cons (unit : NalUnit) (rest : List NalUnit) :
    joined (unit :: rest) = attach unit (joined rest) := rfl

theorem exists_joined_cons (unit : NalUnit) (rest : List NalUnit) :
    ∃ payload others, joined (unit :: rest) = ⟨unit.startCode, payload⟩ :: others := by
  rw [joined_cons]
  cases joined rest with
  | nil => exact ⟨unit.payload, [], rfl⟩
  | cons next others =>
      rw [attach]
      split
      · exact ⟨_, _, rfl⟩
      · exact ⟨_, _, rfl⟩

private theorem codeless_dropLast {bytes : Bytes} (codeless : Codeless bytes) :
    Codeless bytes.dropLast :=
  fun code => codeless (code.trans (List.dropLast_prefix bytes).isInfix)

private theorem ofBytes_unit {unit : NalUnit} (codeless : Codeless unit.payload) :
    ByteStream.ofBytes unit.bytes = ⟨[], [unit]⟩ := by
  have cut : ByteStream.IsCut ⟨[], [unit]⟩ := by
    refine ⟨codeless_nil, ?_, ?_⟩
    · intro other member
      obtain rfl := List.mem_singleton.mp member
      exact codeless
    · exact ⟨fun _ => nofun, trivial⟩
  have bytes := ByteStream.ofBytes_bytes cut
  rwa [ByteStream.bytes, List.flatMap_singleton, List.nil_append] at bytes

private theorem getLast?_bytes {unit : NalUnit} (hasBytes : unit.payload ≠ []) :
    unit.bytes.getLast? = unit.payload.getLast? := by
  rw [NalUnit.bytes, List.getLast?_append]
  obtain ⟨last, isLast⟩ := Option.isSome_iff_exists.mp (List.getLast?_isSome.mpr hasBytes)
  rw [isLast]
  rfl

/-- One more unit in front of bytes that begin with a unit. -/
theorem ofBytes_bytes_append {unit next : NalUnit} {back : Bytes} {others : List NalUnit}
    (fits : IsPayload unit.payload) (cut : ByteStream.ofBytes back = ⟨[], next :: others⟩) :
    ByteStream.ofBytes (unit.bytes ++ back) = ⟨[], attach unit (next :: others)⟩ := by
  rw [attach]
  by_cases joins : Joins unit next
  · rw [if_pos joins]
    have apart : unit.bytes.getLast? = some 0 → next.startCode ≠ .short := by
      rw [getLast?_bytes fits.1]
      exact fun zero isShort => joins isShort zero
    rw [ByteStream.ofBytes_append_of_units cut apart, ofBytes_unit fits.2]
    rfl
  · rw [if_neg joins]
    unfold Joins at joins
    rw [Classical.not_imp, not_not] at joins
    obtain ⟨isShort, zero⟩ := joins
    -- The zero is read before the rest of the unit, and it makes the short start code long.
    have split : unit.bytes =
        (NalUnit.mk unit.startCode unit.payload.dropLast).bytes ++ [0] := by
      rw [NalUnit.bytes, NalUnit.bytes, List.append_assoc]
      congr 1
      exact (List.dropLast_append_getLast? 0 zero).symm
    have behindZero : ByteStream.ofBytes (0 :: back) =
        ⟨[], { next with startCode := .long } :: others⟩ := by
      rw [ByteStream.ofBytes_cons, cut]
      obtain ⟨startCode, payload⟩ := next
      obtain rfl : startCode = .short := isShort
      rfl
    have apart : (NalUnit.mk unit.startCode unit.payload.dropLast).bytes.getLast? = some 0 →
        StartCode.long ≠ .short := by
      intro _ isShort
      cases isShort
    rw [split, List.append_assoc, List.singleton_append,
      ByteStream.ofBytes_append_of_units behindZero apart,
      ofBytes_unit (codeless_dropLast fits.2)]
    rfl

private theorem ofBytes_flatMap_bytes {units : List NalUnit}
    (payloads : ∀ unit ∈ units, IsPayload unit.payload) :
    ByteStream.ofBytes (units.flatMap NalUnit.bytes) = ⟨[], joined units⟩ := by
  induction units with
  | nil => rfl
  | cons unit rest ih =>
      obtain ⟨first, others⟩ := List.forall_mem_cons.mp payloads
      rw [List.flatMap_cons, joined_cons]
      cases rest with
      | nil =>
          rw [List.flatMap_nil, List.append_nil, ofBytes_unit first.2]
          rfl
      | cons next more =>
          obtain ⟨payload, behind, same⟩ := exists_joined_cons next more
          have cut := ih others
          rw [same] at cut ⊢
          exact ofBytes_bytes_append first cut

/-! ### What is lost -/

def payloadBytes (units : List NalUnit) : Nat := (units.flatMap NalUnit.payload).length

theorem payloadBytes_cons (unit : NalUnit) (rest : List NalUnit) :
    payloadBytes (unit :: rest) = unit.payload.length + payloadBytes rest := by
  unfold payloadBytes
  rw [List.flatMap_cons, List.length_append]

theorem payloadBytes_append (front back : List NalUnit) :
    payloadBytes (front ++ back) = payloadBytes front + payloadBytes back := by
  unfold payloadBytes
  rw [List.flatMap_append, List.length_append]

private theorem payloadBytes_filter (units : List NalUnit) :
    payloadBytes (units.filter fun unit => !unit.payload.isEmpty) = payloadBytes units := by
  induction units with
  | nil => rfl
  | cons unit rest ih =>
      obtain ⟨startCode, payload⟩ := unit
      cases payload with
      | nil => simpa [payloadBytes_cons] using ih
      | cons byte more => simpa [payloadBytes_cons] using ih

private theorem joined_eq_of_isChain {units : List NalUnit} (chain : units.IsChain Joins) :
    joined units = units := by
  induction units with
  | nil => rfl
  | cons unit rest ih =>
      rw [joined_cons]
      cases rest with
      | nil => rfl
      | cons next more =>
          obtain ⟨joins, behind⟩ := List.isChain_cons_cons.mp chain
          rw [ih behind, attach, if_pos joins]

/-- Where two units cannot be joined, a byte is lost for good. -/
private theorem payloadBytes_joined (units : List NalUnit) :
    payloadBytes (joined units) ≤ payloadBytes units ∧
      (payloadBytes (joined units) = payloadBytes units → units.IsChain Joins) := by
  induction units with
  | nil => exact ⟨Nat.le_refl _, fun _ => List.isChain_nil⟩
  | cons unit rest ih =>
      cases rest with
      | nil => exact ⟨Nat.le_refl _, fun _ => List.isChain_singleton unit⟩
      | cons next more =>
          obtain ⟨atMost, whole⟩ := ih
          obtain ⟨payload, others, same⟩ := exists_joined_cons next more
          rw [joined_cons, payloadBytes_cons unit]
          rw [same] at atMost whole ⊢
          rw [attach]
          by_cases joins : Joins unit ⟨next.startCode, payload⟩
          · rw [if_pos joins, payloadBytes_cons unit]
            constructor
            · omega
            · intro equal
              exact List.isChain_cons_cons.mpr ⟨joins, whole (by omega)⟩
          · rw [if_neg joins]
            unfold Joins at joins
            rw [Classical.not_imp, not_not] at joins
            have hasBytes : 0 < unit.payload.length := by
              apply List.length_pos_iff.mpr
              intro empty
              rw [empty] at joins
              cases joins.2
            rw [payloadBytes_cons _ others] at atMost
            rw [payloadBytes_cons _ (_ :: others), payloadBytes_cons _ others, List.length_dropLast]
            dsimp only at atMost ⊢
            constructor
            · omega
            · intro equal
              omega

theorem scan_flatMap_bytes {units : List NalUnit}
    (payloads : ∀ unit ∈ units, IsPayload unit.payload) :
    NalUnit.scan (units.flatMap NalUnit.bytes) =
      (joined units).filter fun unit => !unit.payload.isEmpty := by
  rw [NalUnit.scan, ofBytes_flatMap_bytes payloads]

/-! ### Groups -/

variable {codec : NalCodec}

theorem flatten_groupUnits (codec : NalCodec) (units : List NalUnit) :
    (groupUnits codec units).flatten = units := by
  induction units with
  | nil => rfl
  | cons unit rest ih =>
      rw [groupUnits]
      split
      · rw [List.flatten_cons, ih, List.singleton_append]
      · split
        · rename_i none
          rw [none] at ih
          rw [← ih]
          rfl
        · rename_i first others some
          rw [some] at ih
          rw [← ih]
          rfl

theorem exists_groupUnits_cons (codec : NalCodec) (unit : NalUnit) (rest : List NalUnit) :
    ∃ first others, groupUnits codec (unit :: rest) = (unit :: first) :: others := by
  rw [groupUnits]
  split
  · exact ⟨_, _, rfl⟩
  · split
    · exact ⟨_, _, rfl⟩
    · exact ⟨_, _, rfl⟩

theorem rejoins_iff (codec : NalCodec) (units : List NalUnit) :
    Rejoins codec units ↔ ∀ group ∈ groupUnits codec units, group.IsChain Joins := by
  unfold Rejoins
  induction units with
  | nil => exact ⟨fun _ group member => (nomatch member), fun _ => List.isChain_nil⟩
  | cons unit rest ih =>
      rw [groupUnits]
      cases rest with
      | nil =>
          refine ⟨fun _ group member => ?_, fun _ => List.isChain_singleton unit⟩
          have alone : group = [unit] := by
            split at member
            · simpa [groupUnits] using member
            · simpa [groupUnits] using member
          rw [alone]
          exact List.isChain_singleton unit
      | cons next more =>
          rw [List.isChain_cons_cons, ih]
          by_cases slice : isSlice codec unit = true
          · rw [if_pos slice, List.forall_mem_cons, and_iff_right (.inl slice),
              and_iff_right (List.isChain_singleton unit)]
          · obtain ⟨first, others, same⟩ := exists_groupUnits_cons codec next more
            rw [if_neg slice, or_iff_right slice, same]
            dsimp only
            rw [List.forall_mem_cons, List.forall_mem_cons, List.isChain_cons_cons, and_assoc]

private theorem isChain_of_apart {front : Bytes} {units : List NalUnit}
    (apart : ByteStream.Apart front units) : units.IsChain Joins := by
  induction units generalizing front with
  | nil => exact List.isChain_nil
  | cons unit rest ih =>
      have behind := ih apart.2
      cases rest with
      | nil => exact List.isChain_singleton unit
      | cons next more => exact List.isChain_cons_cons.mpr ⟨apart.2.1, behind⟩

/-- Where no unit of a file is empty, all of them can be joined as they were joined there. -/
private theorem rejoins_scan {data : Bytes}
    (nonempty : ∀ unit ∈ (ByteStream.ofBytes data).units, unit.payload ≠ []) :
    Rejoins codec (NalUnit.scan data) := by
  have all : NalUnit.scan data = (ByteStream.ofBytes data).units := by
    rw [NalUnit.scan, List.filter_eq_self]
    intro unit member
    simpa using nonempty unit member
  rw [all]
  exact (isChain_of_apart (ByteStream.isCut_ofBytes data).apart).imp fun _ _ joins => .inr joins

/-! ### Chunks -/

theorem isPayload_of_mem_groupUnits {data : Bytes} {group : List NalUnit}
    (member : group ∈ groupUnits codec (NalUnit.scan data)) :
    ∀ unit ∈ group, IsPayload unit.payload := by
  intro unit inGroup
  have inFile : unit ∈ (groupUnits codec (NalUnit.scan data)).flatten :=
    List.mem_flatten.mpr ⟨group, member, inGroup⟩
  rw [flatten_groupUnits] at inFile
  exact NalUnit.isPayload_of_mem_scan inFile

def rescanned (group : List NalUnit) : List NalUnit :=
  (joined group).filter fun unit => !unit.payload.isEmpty

theorem flatMap_scan_accessUnits (codec : NalCodec) (data : Bytes) :
    (accessUnits codec data).flatMap NalUnit.scan =
      (groupUnits codec (NalUnit.scan data)).flatMap rescanned := by
  unfold accessUnits
  rw [List.flatMap_map, List.flatMap_def, List.flatMap_def]
  congr 1
  apply List.map_congr_left
  intro group member
  exact scan_flatMap_bytes (isPayload_of_mem_groupUnits member)

private theorem rescanned_eq_of_isChain {group : List NalUnit}
    (payloads : ∀ unit ∈ group, IsPayload unit.payload) (chain : group.IsChain Joins) :
    rescanned group = group := by
  rw [rescanned, joined_eq_of_isChain chain, NalUnit.filter_units_eq_self payloads]

private theorem payloadBytes_flatMap_rescanned (groups : List (List NalUnit)) :
    payloadBytes (groups.flatMap rescanned) ≤ payloadBytes groups.flatten ∧
      (payloadBytes (groups.flatMap rescanned) = payloadBytes groups.flatten →
        ∀ group ∈ groups, group.IsChain Joins) := by
  induction groups with
  | nil => exact ⟨Nat.le_refl _, fun _ => List.forall_mem_nil _⟩
  | cons group rest ih =>
      obtain ⟨atMost, whole⟩ := ih
      obtain ⟨ownAtMost, ownWhole⟩ := payloadBytes_joined group
      have same : payloadBytes (rescanned group) = payloadBytes (joined group) := by
        rw [rescanned, payloadBytes_filter]
      rw [List.flatMap_cons, List.flatten_cons, payloadBytes_append, payloadBytes_append, same]
      constructor
      · omega
      · intro equal
        exact List.forall_mem_cons.mpr ⟨ownWhole (by omega), whole (by omega)⟩

/-- The chunks hold the units of the file just where all of these can be joined. -/
theorem flatMap_scan_accessUnits_eq_iff (codec : NalCodec) (data : Bytes) :
    (accessUnits codec data).flatMap NalUnit.scan = NalUnit.scan data ↔
      Rejoins codec (NalUnit.scan data) := by
  have payloads : ∀ group ∈ groupUnits codec (NalUnit.scan data), ∀ unit ∈ group,
      IsPayload unit.payload := fun _ => isPayload_of_mem_groupUnits
  have flatten := flatten_groupUnits codec (NalUnit.scan data)
  rw [flatMap_scan_accessUnits, rejoins_iff]
  constructor
  · intro same
    apply (payloadBytes_flatMap_rescanned _).2
    rw [same, flatten]
  · intro chains
    have kept : (groupUnits codec (NalUnit.scan data)).map rescanned =
        groupUnits codec (NalUnit.scan data) := by
      refine Eq.trans (List.map_congr_left ?_) (List.map_id _)
      intro group member
      exact rescanned_eq_of_isChain (payloads group member) (chains group member)
    rw [List.flatMap_def, kept, flatten]

end Container

/-! ### Items -/

namespace AnnexB

private theorem onUnits_append_h264 (timestamp : Nat) (kept : AnnexB) (front back : List NalUnit) :
    (onUnits .h264 timestamp ⟨kept, none⟩ (front ++ back)).1.kept =
        (onUnits .h264 timestamp ⟨(onUnits .h264 timestamp ⟨kept, none⟩ front).1.kept, none⟩
          back).1.kept ∧
      (onUnits .h264 timestamp ⟨kept, none⟩ (front ++ back)).2 =
        (onUnits .h264 timestamp ⟨kept, none⟩ front).2 ++
          (onUnits .h264 timestamp ⟨(onUnits .h264 timestamp ⟨kept, none⟩ front).1.kept, none⟩
            back).2 := by
  obtain ⟨items, last⟩ := @onUnits_behind_border .h264 timestamp front back kept (.inl rfl)
  rw [onUnits_append, last, items]
  exact ⟨rfl, rfl⟩

/-- In H.264 a stream of chunks comes to what its units come to, wherever it is cut. -/
private theorem assembleAll_h264 (timestamp : Nat) (chunks : List (Bytes × Nat)) (kept : AnnexB) :
    (assembleAll .h264 chunks kept).1 =
        (onUnits .h264 timestamp ⟨kept, none⟩
          (chunks.flatMap fun chunk => NalUnit.scan chunk.1)).1.kept ∧
      (assembleAll .h264 chunks kept).2.map (MediaItem.at timestamp) =
        (onUnits .h264 timestamp ⟨kept, none⟩
          (chunks.flatMap fun chunk => NalUnit.scan chunk.1)).2 := by
  induction chunks generalizing kept with
  | nil => exact ⟨rfl, rfl⟩
  | cons chunk rest ih =>
      obtain ⟨data, sentAt⟩ := chunk
      have own := assemble_at .h264 timestamp sentAt kept data
      obtain ⟨ownKept, ownItems⟩ := Prod.mk.inj own
      obtain ⟨last, items⟩ := ih (kept.assemble .h264 data sentAt).1
      obtain ⟨wholeLast, wholeItems⟩ := onUnits_append_h264 timestamp kept (NalUnit.scan data)
        (rest.flatMap fun chunk => NalUnit.scan chunk.1)
      rw [List.flatMap_cons, wholeLast, wholeItems, assembleAll, List.map_append, last, items,
        ownKept, ownItems]
      exact ⟨rfl, rfl⟩

end AnnexB

namespace Container

/-- Each chunk of an H.264 file holds its units as they have been joined. They are those of the file,
with their start codes, just where any two neighbours inside a chunk can be joined; then they also
come to the formats, the frames and the kept sets that the whole file comes to. Only where the file
has an empty unit may there be neighbours that cannot be joined. -/
theorem splitting_keeps_units (data : Bytes) :
    (accessUnits .h264 data).flatMap NalUnit.scan =
        (groupUnits .h264 (NalUnit.scan data)).flatMap rescanned ∧
      ((accessUnits .h264 data).flatMap NalUnit.scan = NalUnit.scan data ↔
        Rejoins .h264 (NalUnit.scan data)) ∧
      (Rejoins .h264 (NalUnit.scan data) →
        ∀ (chunks : List (Bytes × Nat)) (kept : AnnexB) (timestamp : Nat),
          chunks.map Prod.fst = accessUnits .h264 data →
            ((AnnexB.assembleAll .h264 chunks kept).1,
                (AnnexB.assembleAll .h264 chunks kept).2.map (MediaItem.at timestamp)) =
              kept.assemble .h264 data timestamp) ∧
      ((∀ unit ∈ (ByteStream.ofBytes data).units, unit.payload ≠ []) →
        Rejoins .h264 (NalUnit.scan data)) := by
  have units := flatMap_scan_accessUnits_eq_iff .h264 data
  refine ⟨flatMap_scan_accessUnits .h264 data, units, ?_, rejoins_scan⟩
  intro rejoins chunks kept timestamp cut
  have inChunks : (chunks.flatMap fun chunk => NalUnit.scan chunk.1) = NalUnit.scan data := by
    rw [← units.mpr rejoins, ← cut, List.flatMap_map]
  obtain ⟨last, items⟩ := AnnexB.assembleAll_h264 timestamp chunks kept
  rw [last, items, inChunks]
  rfl

/-- A sequence parameter set that ends in a zero, an empty unit, a picture parameter set behind the
start code, and a key unit. -/
def zeroBeforeEmptyUnit (code : StartCode) : Bytes :=
  StartCode.short.bytes ++ [0x67, 0x42, 0xc0, 0x1f, 0xf4, 0x02, 0x80, 0x2d, 0xc8, 0] ++
    StartCode.long.bytes ++ (code.bytes ++ [0x68, 0xce]) ++ (StartCode.short.bytes ++ [0x65, 1])

theorem splitting_keeps_units_at_long_start_code :
    Rejoins .h264 (NalUnit.scan (zeroBeforeEmptyUnit .long)) ∧
      ((AnnexB.assembleAll .h264 ((accessUnits .h264 (zeroBeforeEmptyUnit .long)).map (·, 40))
          (.fresh .h264)).1,
        (AnnexB.assembleAll .h264 ((accessUnits .h264 (zeroBeforeEmptyUnit .long)).map (·, 40))
          (.fresh .h264)).2.map (MediaItem.at 0)) =
        (AnnexB.fresh .h264).assemble .h264 (zeroBeforeEmptyUnit .long) 0 := by
  have rejoins : Rejoins .h264 (NalUnit.scan (zeroBeforeEmptyUnit .long)) := by decide +kernel
  refine ⟨rejoins, (splitting_keeps_units (zeroBeforeEmptyUnit .long)).2.2.1 rejoins _ _ 0 ?_⟩
  decide +kernel

/-- With the short start code the set loses its zero, and its frame a byte. -/
theorem splitting_loses_zero :
    NalUnit.scan (zeroBeforeEmptyUnit .short) =
        [⟨.short, [0x67, 0x42, 0xc0, 0x1f, 0xf4, 0x02, 0x80, 0x2d, 0xc8, 0]⟩,
          ⟨.short, [0x68, 0xce]⟩, ⟨.short, [0x65, 1]⟩] ∧
      (accessUnits .h264 (zeroBeforeEmptyUnit .short)).flatMap NalUnit.scan =
        [⟨.short, [0x67, 0x42, 0xc0, 0x1f, 0xf4, 0x02, 0x80, 0x2d, 0xc8]⟩,
          ⟨.long, [0x68, 0xce]⟩, ⟨.short, [0x65, 1]⟩] ∧
      (AnnexB.assembleAll .h264 ((accessUnits .h264 (zeroBeforeEmptyUnit .short)).map (·, 0))
          (.fresh .h264)).1 ≠
        ((AnnexB.fresh .h264).assemble .h264 (zeroBeforeEmptyUnit .short) 0).1 ∧
      (AnnexB.assembleAll .h264 ((accessUnits .h264 (zeroBeforeEmptyUnit .short)).map (·, 0))
          (.fresh .h264)).2 ≠
        ((AnnexB.fresh .h264).assemble .h264 (zeroBeforeEmptyUnit .short) 0).2 := by
  decide +kernel

end Container
end VideoIngest
