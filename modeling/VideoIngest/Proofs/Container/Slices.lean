import VideoIngest.Proofs.Container.AccessUnits

/-!
The slices of a file that is cut into access units.

Every chunk but the last ends with its only slice. What a chunk loses when it is written, it loses
in front of that slice, so that the slices come to the frames of the file one by one, chunk by
chunk: `Container.chunks_end_with_slices`.
-/

namespace VideoIngest

def MediaItem.frameKind? : MediaItem → Option FrameKind
  | format _ => none
  | frame coded => some coded.kind
  | picture _ => none

def NalRole.frameKind? : NalRole → Option FrameKind
  | parameterSet _ => none
  | key => some .key
  | delta => some .delta
  | skip => none

namespace H264

def NalType.sliceKind? : NalType → Option FrameKind
  | idr => some .key
  | slice => some .delta
  | sei | sps | pps | aud | other _ => none

private theorem NalType.frameKind?_role (type : NalType) :
    type.role.frameKind? = type.sliceKind? := by
  cases type <;> rfl

end H264

namespace H265

def NalType.sliceKind? : NalType → Option FrameKind
  | irap => some .key
  | slice => some .delta
  | vps | sps | pps | aud | sei | other _ => none

private theorem NalType.frameKind?_role (type : NalType) :
    type.role.frameKind? = type.sliceKind? := by
  cases type <;> rfl

end H265

def NalCodec.sliceKind? : NalCodec → UInt8 → Option FrameKind
  | h264, header => (H264.NalType.ofHeader header).sliceKind?
  | h265, header => (H265.NalType.ofHeader header).sliceKind?

private theorem NalCodec.frameKind?_role (codec : NalCodec) (header : UInt8) :
    (codec.role header).frameKind? = codec.sliceKind? header := by
  cases codec with
  | h264 => exact H264.NalType.frameKind?_role _
  | h265 => exact H265.NalType.frameKind?_role _

namespace NalUnit

def sliceKind? (codec : NalCodec) (unit : NalUnit) : Option FrameKind :=
  unit.payload.head?.bind codec.sliceKind?

def frameKind? (codec : NalCodec) (unit : NalUnit) : Option FrameKind :=
  (codec.roleOfPayload unit.payload).frameKind?

variable {codec : NalCodec} {unit : NalUnit}

private theorem frameKind?_eq_sliceKind? (hasHeader : codec.headerSize ≤ unit.payload.length) :
    unit.frameKind? codec = unit.sliceKind? codec := by
  obtain ⟨startCode, payload⟩ := unit
  unfold frameKind? sliceKind? NalCodec.roleOfPayload
  rw [if_neg (Nat.not_lt.mpr hasHeader)]
  cases payload with
  | nil => rfl
  | cons header rest => exact codec.frameKind?_role header

/-- A unit that is no slice is no frame, and no front part of it is one. -/
private theorem frameKind?_of_prefix {front : NalUnit} (noSlice : unit.sliceKind? codec = none)
    (begins : front.payload <+: unit.payload) : front.frameKind? codec = none := by
  obtain ⟨startCode, payload⟩ := front
  by_cases hasHeader : codec.headerSize ≤ payload.length
  · rw [frameKind?_eq_sliceKind? hasHeader]
    cases payload with
    | nil => rfl
    | cons header rest =>
        obtain ⟨behind, whole⟩ := begins
        rw [sliceKind?, ← whole] at noSlice
        exact noSlice
  · unfold frameKind? NalCodec.roleOfPayload
    rw [if_pos (Nat.lt_of_not_le hasHeader)]
    rfl

end NalUnit

namespace AnnexB

variable {codec : NalCodec}

private theorem frameKind?_onUnit (codec : NalCodec) (timestamp : Nat) (state : InChunk)
    (unit : NalUnit) :
    (onUnit codec timestamp state unit).2.bind MediaItem.frameKind? = unit.frameKind? codec := by
  unfold onUnit NalUnit.frameKind?
  cases codec.roleOfPayload unit.payload with
  | parameterSet kind => cases kind <;> rfl
  | key => rfl
  | delta => rfl
  | skip => rfl

private theorem frameKinds_onUnits (timestamp : Nat) (state : InChunk) (units : List NalUnit) :
    (onUnits codec timestamp state units).2.filterMap MediaItem.frameKind? =
      units.filterMap (NalUnit.frameKind? codec) := by
  induction units generalizing state with
  | nil => rfl
  | cons unit rest ih =>
      have first := frameKind?_onUnit codec timestamp state unit
      rw [onUnits, List.filterMap_cons, ← first]
      dsimp only
      rw [List.filterMap_append, ih]
      cases (onUnit codec timestamp state unit).2 with
      | none => rfl
      | some item => cases kind : item.frameKind? <;> simp [kind]

def assembleEach (codec : NalCodec) : List (Bytes × Nat) → AnnexB → List (List MediaItem)
  | [], _ => []
  | (chunk, timestamp) :: rest, kept =>
      (kept.assemble codec chunk timestamp).2 ::
        assembleEach codec rest (kept.assemble codec chunk timestamp).1

end AnnexB

namespace Container

variable {codec : NalCodec}

/-! ### Groups and their slices -/

private theorem isSlice_eq (codec : NalCodec) (unit : NalUnit) :
    isSlice codec unit = (unit.sliceKind? codec).isSome := by
  obtain ⟨startCode, payload⟩ := unit
  cases payload with
  | nil => rfl
  | cons header rest =>
      unfold isSlice NalUnit.sliceKind?
      rw [List.head?_cons, Option.bind_some, ← codec.frameKind?_role]
      dsimp only
      cases codec.role header <;> rfl

def lastKind? (codec : NalCodec) (group : List NalUnit) : Option FrameKind :=
  group.getLast?.bind (NalUnit.sliceKind? codec)

/-- Each group has one slice, at its end. Only the last group may have none. -/
inductive EndWithSlices (codec : NalCodec) : List (List NalUnit) → Prop
  | nil : EndWithSlices codec []
  | rest {group : List NalUnit} (nonempty : group ≠ [])
      (noSlice : ∀ unit ∈ group, unit.sliceKind? codec = none) : EndWithSlices codec [group]
  | ended (front : List NalUnit) (slice : NalUnit) {others : List (List NalUnit)}
      (isSlice : (slice.sliceKind? codec).isSome)
      (only : ∀ unit ∈ front, unit.sliceKind? codec = none)
      (behind : EndWithSlices codec others) : EndWithSlices codec ((front ++ [slice]) :: others)

private theorem endWithSlices_groupUnits (codec : NalCodec) (units : List NalUnit) :
    EndWithSlices codec (groupUnits codec units) := by
  induction units with
  | nil => exact .nil
  | cons unit rest ih =>
      rw [groupUnits]
      cases kind : unit.sliceKind? codec with
      | some found =>
          rw [isSlice_eq, kind, if_pos Option.isSome_some]
          exact .ended [] unit (by rw [kind]; rfl) (List.forall_mem_nil _) ih
      | none =>
          rw [isSlice_eq, kind, if_neg (by simp)]
          generalize groupUnits codec rest = groups at ih
          cases ih with
          | nil => exact .rest (List.cons_ne_nil _ _) (by simpa using kind)
          | rest _ noSlice =>
              exact .rest (List.cons_ne_nil _ _) (List.forall_mem_cons.mpr ⟨kind, noSlice⟩)
          | ended front slice isSlice only behind =>
              exact .ended (unit :: front) slice isSlice
                (List.forall_mem_cons.mpr ⟨kind, only⟩) behind

theorem EndWithSlices.ne_nil {groups : List (List NalUnit)} (slices : EndWithSlices codec groups) :
    ∀ group ∈ groups, group ≠ [] := by
  induction slices with
  | nil => exact List.forall_mem_nil _
  | rest nonempty noSlice => exact List.forall_mem_singleton.mpr nonempty
  | ended front slice isSlice only behind ih => exact List.forall_mem_cons.mpr ⟨by simp, ih⟩

theorem lastKind?_append_singleton (front : List NalUnit) (unit : NalUnit) :
    lastKind? codec (front ++ [unit]) = unit.sliceKind? codec := by
  rw [lastKind?, List.getLast?_concat, Option.bind_some]

theorem lastKind?_eq_none {group : List NalUnit}
    (noSlice : ∀ unit ∈ group, unit.sliceKind? codec = none) : lastKind? codec group = none := by
  rw [lastKind?, Option.bind_eq_none_iff]
  intro unit isLast
  exact noSlice unit (List.mem_of_getLast? isLast)

private theorem countP_sliceKind?_eq_zero {units : List NalUnit}
    (noSlice : ∀ unit ∈ units, unit.sliceKind? codec = none) :
    units.countP (fun unit => (unit.sliceKind? codec).isSome) = 0 := by
  rw [List.countP_eq_zero]
  intro unit member
  rw [noSlice unit member]
  exact Bool.false_ne_true

private theorem EndWithSlices.countP {groups : List (List NalUnit)}
    (slices : EndWithSlices codec groups) :
    groups.countP (fun group => (lastKind? codec group).isSome) =
      groups.flatten.countP fun unit => (unit.sliceKind? codec).isSome := by
  induction slices with
  | nil => rfl
  | rest nonempty noSlice =>
      rw [List.flatten_singleton, countP_sliceKind?_eq_zero noSlice, List.countP_singleton,
        lastKind?_eq_none noSlice]
      rfl
  | ended front slice isSlice only behind ih =>
      rw [List.flatten_cons, List.countP_append, List.countP_append, List.countP_cons, ← ih,
        countP_sliceKind?_eq_zero only, List.countP_singleton, lastKind?_append_singleton,
        if_pos isSlice]
      omega

/-! ### The frames of a chunk -/

/-- What is lost between units that are no slices was no part of a frame. -/
theorem frameKinds_joined_append {front : List NalUnit} (back : List NalUnit)
    (noSlice : ∀ unit ∈ front, unit.sliceKind? codec = none) :
    (joined (front ++ back)).filterMap (NalUnit.frameKind? codec) =
      (joined back).filterMap (NalUnit.frameKind? codec) := by
  induction front with
  | nil => rfl
  | cons unit rest ih =>
      obtain ⟨first, others⟩ := List.forall_mem_cons.mp noSlice
      have whole : unit.frameKind? codec = none :=
        NalUnit.frameKind?_of_prefix first (List.prefix_refl _)
      have short : NalUnit.frameKind? codec { unit with payload := unit.payload.dropLast } = none :=
        NalUnit.frameKind?_of_prefix first (List.dropLast_prefix _)
      rw [List.cons_append, joined_cons, ← ih others]
      cases joined (rest ++ back) with
      | nil => simp [attach, whole]
      | cons next more =>
          rw [attach]
          split
          · rw [List.filterMap_cons_none whole]
          · rw [List.filterMap_cons_none short]
            rfl

private theorem frameKinds_rescanned (group : List NalUnit) :
    (rescanned group).filterMap (NalUnit.frameKind? codec) =
      (joined group).filterMap (NalUnit.frameKind? codec) := by
  rw [rescanned, List.filterMap_filter]
  apply List.filterMap_congr
  intro unit _
  obtain ⟨startCode, payload⟩ := unit
  cases payload with
  | nil => cases codec <;> rfl
  | cons byte rest => rfl

private theorem frameKinds_assemble {group : List NalUnit}
    (payloads : ∀ unit ∈ group, IsPayload unit.payload) (kept : AnnexB) (timestamp : Nat) :
    (kept.assemble codec (group.flatMap NalUnit.bytes) timestamp).2.filterMap
        MediaItem.frameKind? =
      (joined group).filterMap (NalUnit.frameKind? codec) := by
  rw [AnnexB.assemble, scan_flatMap_bytes payloads, ← frameKinds_rescanned]
  exact AnnexB.frameKinds_onUnits _ _ _

/-- A chunk comes to one frame, of the kind of the slice at its end, or to none. -/
private theorem frameKinds_of_endWithSlices {groups : List (List NalUnit)}
    (slices : EndWithSlices codec groups)
    (payloads : ∀ group ∈ groups, ∀ unit ∈ group, IsPayload unit.payload)
    (headers : ∀ group ∈ groups, ∀ unit ∈ group, codec.headerSize ≤ unit.payload.length)
    {sent : List (Bytes × Nat)}
    (cut : sent.map Prod.fst = groups.map fun group => group.flatMap NalUnit.bytes)
    (kept : AnnexB) :
    List.Forall₂ (fun group items =>
        items.filterMap MediaItem.frameKind? = (lastKind? codec group).toList)
      groups (AnnexB.assembleEach codec sent kept) := by
  induction slices generalizing sent kept with
  | nil =>
      obtain rfl := List.map_eq_nil_iff.mp cut
      exact .nil
  | rest nonempty noSlice =>
      obtain ⟨⟨_, timestamp⟩, later, rfl, rfl, none⟩ := List.map_eq_cons_iff.mp cut
      obtain rfl := List.map_eq_nil_iff.mp none
      refine .cons ?_ .nil
      rw [frameKinds_assemble (payloads _ List.mem_cons_self), lastKind?_eq_none noSlice]
      have lost := frameKinds_joined_append [] noSlice
      rwa [List.append_nil] at lost
  | ended front slice isSlice only behind ih =>
      obtain ⟨⟨_, timestamp⟩, later, rfl, rfl, laterCut⟩ := List.map_eq_cons_iff.mp cut
      obtain ⟨ownPayloads, otherPayloads⟩ := List.forall_mem_cons.mp payloads
      obtain ⟨ownHeaders, otherHeaders⟩ := List.forall_mem_cons.mp headers
      refine .cons ?_ (ih otherPayloads otherHeaders laterCut _)
      have header : codec.headerSize ≤ slice.payload.length :=
        ownHeaders slice (List.mem_append_right _ List.mem_cons_self)
      rw [frameKinds_assemble ownPayloads, frameKinds_joined_append [slice] only,
        lastKind?_append_singleton, ← NalUnit.frameKind?_eq_sliceKind? header]
      change [slice].filterMap _ = _
      cases kind : slice.frameKind? codec <;> simp [kind]

/-! ### Any file -/

private theorem chunks_codec (codec : NalCodec) (data : Bytes) :
    chunks codec.codec data = .ok (accessUnits codec data) := by
  cases codec <;> rfl

private theorem headerSize_le_of_scan {data : Bytes} {unit : NalUnit}
    (whole : codec = .h265 → ∀ unit ∈ NalUnit.scan data, 2 ≤ unit.payload.length)
    (member : unit ∈ NalUnit.scan data) : codec.headerSize ≤ unit.payload.length := by
  cases codec with
  | h264 => exact List.length_pos_iff.mpr (NalUnit.isPayload_of_mem_scan member).1
  | h265 => exact whole rfl unit member

/-- The chunks of a file hold its units, run by run, and each of them ends with a slice and has no
other; only the last may be without one. A chunk then comes to one frame, which is a key frame just
where its slice says so, and one without a slice to none. -/
theorem chunks_end_with_slices (codec : NalCodec) (data : Bytes) :
    ∃ groups : List (List NalUnit),
      chunks codec.codec data = .ok (groups.map fun group => group.flatMap NalUnit.bytes) ∧
      groups.flatten = NalUnit.scan data ∧
      (groups.map fun group => group.flatMap NalUnit.bytes).flatten =
        (NalUnit.scan data).flatMap NalUnit.bytes ∧
      (∀ group ∈ groups, group ≠ []) ∧
      EndWithSlices codec groups ∧
      groups.countP (fun group => (lastKind? codec group).isSome) =
        (NalUnit.scan data).countP (fun unit => (unit.sliceKind? codec).isSome) ∧
      ((codec = .h265 → ∀ unit ∈ NalUnit.scan data, 2 ≤ unit.payload.length) →
        ∀ (sent : List (Bytes × Nat)) (kept : AnnexB),
          sent.map Prod.fst = groups.map (fun group => group.flatMap NalUnit.bytes) →
            List.Forall₂ (fun group items =>
                items.filterMap MediaItem.frameKind? = (lastKind? codec group).toList)
              groups (AnnexB.assembleEach codec sent kept)) := by
  have flatten := flatten_groupUnits codec (NalUnit.scan data)
  have slices := endWithSlices_groupUnits codec (NalUnit.scan data)
  have inFile : ∀ group ∈ groupUnits codec (NalUnit.scan data), ∀ unit ∈ group,
      unit ∈ NalUnit.scan data := by
    intro group member unit inGroup
    rw [← flatten]
    exact List.mem_flatten.mpr ⟨group, member, inGroup⟩
  refine ⟨groupUnits codec (NalUnit.scan data), chunks_codec codec data, flatten, ?_,
    slices.ne_nil, slices, ?_, ?_⟩
  · conv => rhs; rw [← flatten]
    rw [List.flatMap_def, List.map_flatten, List.flatten_flatten, List.map_map]
    rfl
  · rw [slices.countP, flatten]
  · intro whole sent kept cut
    refine frameKinds_of_endWithSlices slices ?_ ?_ cut kept
    · exact fun group => isPayload_of_mem_groupUnits
    · exact fun group member unit inGroup =>
        headerSize_le_of_scan whole (inFile group member unit inGroup)

def slicesBeforeMessage : Bytes :=
  framed [0x40, 1] ++ framed [0x26, 1] ++ framed [2, 1] ++ framed [0x4e, 1]

theorem message_comes_to_no_frame :
    (∀ unit ∈ NalUnit.scan slicesBeforeMessage, 2 ≤ unit.payload.length) ∧
      (AnnexB.assembleEach .h265
          [(framed [0x40, 1] ++ framed [0x26, 1], 0), (framed [2, 1], 40), (framed [0x4e, 1], 80)]
          (.fresh .h265)).map (List.filterMap MediaItem.frameKind?) =
        [[.key], [.delta], []] ∧
      ∃ groups, groups.flatten = NalUnit.scan slicesBeforeMessage ∧
        List.Forall₂ (fun group items =>
            items.filterMap MediaItem.frameKind? = (lastKind? .h265 group).toList)
          groups (AnnexB.assembleEach .h265
            [(framed [0x40, 1] ++ framed [0x26, 1], 0), (framed [2, 1], 40), (framed [0x4e, 1], 80)]
            (.fresh .h265)) := by
  have headers : ∀ unit ∈ NalUnit.scan slicesBeforeMessage, 2 ≤ unit.payload.length := by decide
  refine ⟨headers, by decide +kernel, ?_⟩
  obtain ⟨groups, cut, flatten, _, _, _, _, frames⟩ :=
    chunks_end_with_slices .h265 slicesBeforeMessage
  refine ⟨groups, flatten, frames (fun _ => headers) _ _ ?_⟩
  rw [← Except.ok.inj cut]
  decide +kernel

end Container
end VideoIngest
