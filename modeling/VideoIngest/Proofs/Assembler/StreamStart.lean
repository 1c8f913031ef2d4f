import VideoIngest.Proofs.Assembler.KeyFrames
import VideoIngest.Proofs.ByteStream.Framing

/-!
A key frame with its parameter sets is the beginning of a stream.

Whatever an assembler keeps was cut out of some chunk. So there is no start code in it, and when it
is cut once more, behind a long start code, it comes back as it was.
-/

namespace VideoIngest

/-- The format that a sequence parameter set announces, and the unknown one if it cannot be read. -/
def NalCodec.announced (codec : NalCodec) (sps : Bytes) : VideoFormat :=
  match codec.pictureSize sps with
  | .error _ => .unknown codec.codec
  | .ok (width, height) => ⟨codec.codec, width, height⟩

namespace AnnexB

/-- The payload of a parameter set of this kind, as it may be cut out of a chunk. -/
structure IsSet (codec : NalCodec) (kind : ParameterSetKind) (payload : Bytes) : Prop where
  fits : IsPayload payload
  role : codec.roleOfPayload payload = .parameterSet kind

/-- Every set that is kept was cut out of a chunk. -/
structure AreScanned (codec : NalCodec) (sets : ParameterSets) : Prop where
  requiresVps : sets.requiresVps = codec.requiresVps
  scanned : ∀ kind set, setOf kind sets = some set →
    ∃ payload, IsSet codec kind payload ∧ framed payload = set

structure HoldsScanned (codec : NalCodec) (state : InChunk) : Prop where
  sets : AreScanned codec state.kept.sets
  chunkVps : ∀ vps, state.chunkVps = some vps → IsSet codec .vps vps

variable {codec : NalCodec} {sets : ParameterSets} {state : InChunk} {unit key : NalUnit}
  {timestamp : Nat}

/-! ### What is kept -/

theorem areScanned_empty (codec : NalCodec) : AreScanned codec (.empty codec.requiresVps) := by
  refine ⟨rfl, ?_⟩
  intro kind set found
  cases kind <;> contradiction

private theorem AreScanned.observe {kind : ParameterSetKind} {payload : Bytes}
    (scanned : AreScanned codec sets) (isSet : IsSet codec kind payload) :
    AreScanned codec (sets.observe kind payload) := by
  constructor
  · exact (requiresVps_observe kind payload sets).trans scanned.requiresVps
  · intro other set found
    rw [setOf_observe] at found
    by_cases same : other = kind
    · subst same
      rw [if_pos rfl] at found
      exact ⟨payload, isSet, Option.some.inj found⟩
    · rw [if_neg same] at found
      exact scanned.scanned other set found

private theorem HoldsScanned.setsAfterChange (holds : HoldsScanned codec state) :
    AreScanned codec (setsAfterChange state) := by
  have cleared : AreScanned codec state.kept.sets.clear := by
    rw [ParameterSets.clear, holds.sets.requiresVps]
    exact areScanned_empty codec
  unfold AnnexB.setsAfterChange
  cases found : state.chunkVps with
  | none => exact cleared
  | some vps => exact cleared.observe (holds.chunkVps vps found)

private theorem HoldsScanned.announce (holds : HoldsScanned codec state) (format : VideoFormat) :
    AreScanned codec (announce format state).sets := by
  unfold AnnexB.announce
  cases state.kept.active with
  | none => exact holds.sets
  | some previous =>
      by_cases same : previous = format
      · simp only [if_pos same]
        exact holds.sets
      · simp only [if_neg same]
        exact holds.setsAfterChange

private theorem HoldsScanned.onUnit (holds : HoldsScanned codec state) (timestamp : Nat)
    (fits : IsPayload unit.payload) :
    HoldsScanned codec (onUnit codec timestamp state unit).1 := by
  unfold AnnexB.onUnit
  cases role : codec.roleOfPayload unit.payload with
  | parameterSet kind =>
      have isSet : IsSet codec kind unit.payload := ⟨fits, role⟩
      cases kind with
      | vps =>
          refine ⟨holds.sets.observe isSet, ?_⟩
          intro vps found
          obtain rfl := Option.some.inj found
          exact isSet
      | sps =>
          refine ⟨?_, holds.chunkVps⟩
          dsimp only
          unfold onSps
          cases codec.pictureSize unit.payload with
          | error cause => exact holds.sets.observe isSet
          | ok size => exact (holds.announce _).observe isSet
      | pps => exact ⟨holds.sets.observe isSet, holds.chunkVps⟩
  | key => exact holds
  | delta => exact holds
  | skip => exact holds

theorem HoldsScanned.onUnits {units : List NalUnit} (holds : HoldsScanned codec state)
    (timestamp : Nat) (fits : ∀ unit ∈ units, IsPayload unit.payload) :
    HoldsScanned codec (onUnits codec timestamp state units).1 := by
  induction units generalizing state with
  | nil => exact holds
  | cons unit rest ih =>
      obtain ⟨first, others⟩ := List.forall_mem_cons.mp fits
      exact ih (holds.onUnit timestamp first) others

private theorem AreScanned.nextChunk {kept : AnnexB} (scanned : AreScanned codec kept.sets) :
    HoldsScanned codec ⟨kept, none⟩ := ⟨scanned, fun _ found => nomatch found⟩

theorem areScanned_assembleAll (codec : NalCodec) (chunks : List (Bytes × Nat)) :
    AreScanned codec (assembleAll codec chunks (.fresh codec)).1.sets := by
  induction chunks using List.reverseRecOn with
  | nil => exact areScanned_empty codec
  | append_singleton chunks chunk ih =>
      rw [assembleAll_append_singleton]
      exact (ih.nextChunk.onUnits chunk.2 fun _ => NalUnit.isPayload_of_mem_scan).sets

/-! ### The sets once more -/

/-- Complete sets: the payloads that are kept, the first of them where it has come. -/
private theorem AreScanned.of_snapshot {lead : Bytes} (scanned : AreScanned codec sets)
    (complete : sets.snapshot = some lead) :
    ∃ (vps : Option Bytes) (sps pps : Bytes),
      sets = ⟨codec.requiresVps, vps.map framed, some (framed sps), some (framed pps)⟩ ∧
        lead = (vps.toList ++ [sps, pps]).flatMap framed ∧
        (∀ payload ∈ vps, IsSet codec .vps payload) ∧ IsSet codec .sps sps ∧
        IsSet codec .pps pps := by
  obtain ⟨isComplete, same⟩ := Option.ite_none_right_eq_some.mp complete
  obtain ⟨requiresVps, vps, sps, pps⟩ := sets
  obtain rfl : requiresVps = codec.requiresVps := scanned.requiresVps
  unfold ParameterSets.isComplete at isComplete
  simp only [Bool.and_eq_true] at isComplete
  obtain ⟨⟨_, hasSps⟩, hasPps⟩ := isComplete
  obtain ⟨sps, rfl⟩ := Option.isSome_iff_exists.mp hasSps
  obtain ⟨pps, rfl⟩ := Option.isSome_iff_exists.mp hasPps
  obtain ⟨spsPayload, isSps, rfl⟩ := scanned.scanned .sps sps rfl
  obtain ⟨ppsPayload, isPps, rfl⟩ := scanned.scanned .pps pps rfl
  obtain rfl := Option.some.inj same
  cases vps with
  | none =>
      refine ⟨none, spsPayload, ppsPayload, rfl, by simp [ParameterSets.bytes], ?_, isSps, isPps⟩
      exact nofun
  | some vps =>
      obtain ⟨vpsPayload, isVps, rfl⟩ := scanned.scanned .vps vps rfl
      refine ⟨some vpsPayload, spsPayload, ppsPayload, rfl, by simp [ParameterSets.bytes], ?_, isSps,
        isPps⟩
      intro payload member
      obtain rfl := Option.some.inj member
      exact isVps

private theorem onUnit_sps {payload : Bytes} (isSps : IsSet codec .sps payload) (code : StartCode)
    (timestamp : Nat) (begins : state.kept.active = none) :
    ∃ active, onUnit codec timestamp state ⟨code, payload⟩ =
      ({ state with kept := ⟨state.kept.sets.observe .sps payload, active⟩ },
        some (.format (codec.announced payload))) := by
  unfold onUnit onSps NalCodec.announced announce
  dsimp only
  rw [isSps.role, begins]
  cases codec.pictureSize payload with
  | error cause => exact ⟨_, rfl⟩
  | ok size => exact ⟨_, rfl⟩

private theorem onUnit_pps {payload : Bytes} (isPps : IsSet codec .pps payload) (code : StartCode)
    (timestamp : Nat) (state : InChunk) :
    onUnit codec timestamp state ⟨code, payload⟩ =
      ({ state with kept := remember .pps payload state.kept }, none) := by
  unfold onUnit
  dsimp only
  rw [isPps.role]

private theorem onUnit_vps {payload : Bytes} (isVps : IsSet codec .vps payload) (code : StartCode)
    (timestamp : Nat) (state : InChunk) :
    onUnit codec timestamp state ⟨code, payload⟩ =
      (⟨remember .vps payload state.kept, some payload⟩, none) := by
  unfold onUnit
  dsimp only
  rw [isVps.role]

private theorem onUnit_key (isKey : codec.roleOfPayload key.payload = .key) (timestamp : Nat)
    (state : InChunk) :
    onUnit codec timestamp state key =
      (state, some (.frame
        { data := keyFrameData state.kept.sets key, timestamp, kind := .key })) := by
  unfold onUnit
  rw [isKey]

/-- The first format of a stream is no change, so that nothing is forgotten on its account. -/
private theorem onUnits_sps_pps_key {sps pps : Bytes} (begins : state.kept.active = none)
    (isSps : IsSet codec .sps sps) (isPps : IsSet codec .pps pps)
    (isKey : codec.roleOfPayload key.payload = .key) (timestamp : Nat) :
    (onUnits codec timestamp state [⟨.long, sps⟩, ⟨.long, pps⟩, key]).2 =
      [.format (codec.announced sps),
        .frame
          { data := keyFrameData ((state.kept.sets.observe .sps sps).observe .pps pps) key
            timestamp
            kind := .key }] := by
  obtain ⟨active, first⟩ := onUnit_sps isSps .long timestamp begins
  simp only [onUnits, first, onUnit_pps isPps, onUnit_key isKey, remember, Option.toList_some,
    Option.toList_none, List.append_nil, List.nil_append, List.singleton_append]

theorem onUnits_fresh {vps : Option Bytes} {sps pps : Bytes}
    (isVps : ∀ payload ∈ vps, IsSet codec .vps payload) (isSps : IsSet codec .sps sps)
    (isPps : IsSet codec .pps pps) (isKey : codec.roleOfPayload key.payload = .key)
    (timestamp : Nat) :
    (onUnits codec timestamp ⟨.fresh codec, none⟩
        ((vps.toList ++ [sps, pps]).map (NalUnit.mk .long) ++ [key])).2 =
      [.format (codec.announced sps),
        .frame
          { data := keyFrameData
              ⟨codec.requiresVps, vps.map framed, some (framed sps), some (framed pps)⟩ key
            timestamp
            kind := .key }] := by
  cases vps with
  | none => exact onUnits_sps_pps_key rfl isSps isPps isKey timestamp
  | some vps =>
      have first := onUnit_vps (isVps vps rfl) .long timestamp ⟨.fresh codec, none⟩
      have others : (onUnits codec timestamp ⟨remember .vps vps (.fresh codec), some vps⟩
          [⟨.long, sps⟩, ⟨.long, pps⟩, key]).2 = _ :=
        onUnits_sps_pps_key rfl isSps isPps isKey timestamp
      rw [Option.toList_some, List.singleton_append, List.map_cons, List.cons_append, onUnits,
        first]
      exact others

/-! ### The frame once more -/

private theorem scan_framed_sets {payloads : List Bytes} {last : Bytes}
    (fit : ∀ payload ∈ payloads ++ [last], IsPayload payload) (keyFits : IsPayload key.payload)
    (apart : key.startCode = .long ∨ last.getLast? ≠ some 0) :
    NalUnit.scan ((payloads ++ [last]).flatMap framed ++ key.bytes) =
      (payloads ++ [last]).map (NalUnit.mk .long) ++ [key] := by
  have whole (payloads : List Bytes) : payloads.flatMap framed ++ key.bytes =
      [] ++ (payloads.map (NalUnit.mk .long) ++ [key]).flatMap NalUnit.bytes := by
    rw [List.nil_append, List.flatMap_append, List.flatMap_map, List.flatMap_singleton]
    rfl
  have keyApart : ByteStream.Apart last [key] := by
    refine ⟨?_, trivial⟩
    intro isShort
    rcases apart with isLong | noZero
    · rw [isLong] at isShort
      contradiction
    · exact noZero
  rw [whole]
  apply NalUnit.scan_units codeless_nil
  · intro unit member
    rcases List.mem_append.mp member with isLead | isKey
    · obtain ⟨payload, inPayloads, rfl⟩ := List.mem_map.mp isLead
      exact fit payload inPayloads
    · obtain rfl := List.mem_singleton.mp isKey
      exact keyFits
  · exact keyApart.behind_long [] payloads

theorem AreScanned.assemble_fresh {lead : Bytes} (scanned : AreScanned codec sets)
    (complete : sets.snapshot = some lead) (keyFits : IsPayload key.payload)
    (isKey : codec.roleOfPayload key.payload = .key)
    (apart : key.startCode = .long ∨
      ∀ pps, sets.pps = some (framed pps) → pps.getLast? ≠ some 0) (timestamp : Nat) :
    ∃ sps, sets.sps = some (framed sps) ∧
      ((fresh codec).assemble codec (keyFrameData sets key) timestamp).2 =
        [.format (codec.announced sps),
          .frame { data := keyFrameData sets key, timestamp, kind := .key }] := by
  obtain ⟨vps, sps, pps, rfl, rfl, isVps, isSps, isPps⟩ := scanned.of_snapshot complete
  have fit : ∀ payload ∈ (vps.toList ++ [sps]) ++ [pps], IsPayload payload := by
    intro payload member
    simp only [List.mem_append, Option.mem_toList, List.mem_singleton] at member
    rcases member with (inVps | rfl) | rfl
    · exact (isVps payload inVps).fits
    · exact isSps.fits
    · exact isPps.fits
  have again := scan_framed_sets fit keyFits (apart.imp_right fun noZero => noZero pps rfl)
  rw [List.append_assoc, List.singleton_append] at again
  refine ⟨sps, rfl, ?_⟩
  change (onUnits codec timestamp ⟨.fresh codec, none⟩ (NalUnit.scan (keyFrameData _ key))).2 = _
  have data := congrArg (fun sets => sets.getD [] ++ key.bytes) complete
  rw [show NalUnit.scan (keyFrameData _ key) = _ from (congrArg NalUnit.scan data).trans again]
  exact onUnits_fresh isVps isSps isPps isKey timestamp

/-! ### Every key frame -/

/-- The items of a chunk are those of its units, each in the state that the units before it leave. -/
theorem mem_onUnits_iff {units : List NalUnit} {item : MediaItem} :
    item ∈ (onUnits codec timestamp state units).2 ↔
      ∃ front unit rest, units = front ++ unit :: rest ∧
        (onUnit codec timestamp (onUnits codec timestamp state front).1 unit).2 = some item := by
  induction units generalizing state with
  | nil =>
      constructor
      · exact nofun
      · rintro ⟨front, unit, rest, split, _⟩
        cases front <;> cases split
  | cons unit rest ih =>
      constructor
      · intro shown
        rcases List.mem_append.mp shown with now | later
        · exact ⟨[], unit, rest, rfl, Option.mem_toList.mp now⟩
        · obtain ⟨front, other, behind, rfl, comes⟩ := ih.mp later
          exact ⟨unit :: front, other, behind, rfl, comes⟩
      · rintro ⟨front, other, behind, split, comes⟩
        cases front with
        | nil =>
            obtain ⟨rfl, rfl⟩ := List.cons.inj split
            exact List.mem_append_left _ (Option.mem_toList.mpr comes)
        | cons first others =>
            obtain ⟨rfl, rfl⟩ := List.cons.inj split
            exact List.mem_append_right _ (ih.mpr ⟨others, other, behind, rfl, comes⟩)

private theorem key_of_onUnit {coded : CodedFrame}
    (comes : (onUnit codec timestamp state unit).2 = some (.frame coded))
    (isKey : coded.kind = .key) :
    codec.roleOfPayload unit.payload = .key ∧
      coded = { data := keyFrameData state.kept.sets unit, timestamp, kind := .key } := by
  unfold onUnit at comes
  cases role : codec.roleOfPayload unit.payload with
  | parameterSet kind =>
      rw [role] at comes
      cases kind <;> cases comes
  | key =>
      rw [role] at comes
      exact ⟨rfl, (MediaItem.frame.inj (Option.some.inj comes)).symm⟩
  | delta =>
      rw [role] at comes
      obtain rfl := MediaItem.frame.inj (Option.some.inj comes)
      contradiction
  | skip =>
      rw [role] at comes
      contradiction

theorem key_frame_mem_onUnits_iff {units : List NalUnit} {coded : CodedFrame}
    (isKey : coded.kind = .key) :
    .frame coded ∈ (onUnits codec timestamp state units).2 ↔
      ∃ front key rest, units = front ++ key :: rest ∧
        codec.roleOfPayload key.payload = .key ∧
        coded = { data := keyFrameData (onUnits codec timestamp state front).1.kept.sets key
                  timestamp
                  kind := .key } := by
  rw [mem_onUnits_iff]
  constructor
  · rintro ⟨front, key, rest, split, comes⟩
    exact ⟨front, key, rest, split, key_of_onUnit comes isKey⟩
  · rintro ⟨front, key, rest, split, isKeyUnit, rfl⟩
    refine ⟨front, key, rest, split, ?_⟩
    rw [onUnit_key isKeyUnit]

/-- The key frames of any chunk of any stream are made of its key units, each with the sets that were
kept when the unit came. Wherever these are complete, and no short start code of the key unit stands
behind a zero that the picture parameter set ends in, the frame is a stream of its own: from it a
fresh assembler makes the format that its sequence parameter set announces and, once more, the same
frame. -/
theorem key_frame_starts_stream (codec : NalCodec) (chunks : List (Bytes × Nat)) (chunk : Bytes)
    (timestamp : Nat) :
    let kept := (assembleAll codec chunks (.fresh codec)).1
    let setsBehind (front : List NalUnit) : ParameterSets :=
      (onUnits codec timestamp ⟨kept, none⟩ front).1.kept.sets
    (∀ coded : CodedFrame, coded.kind = .key →
      (.frame coded ∈ (kept.assemble codec chunk timestamp).2 ↔
        ∃ front key rest, NalUnit.scan chunk = front ++ key :: rest ∧
          codec.roleOfPayload key.payload = .key ∧
          coded = { data := keyFrameData (setsBehind front) key, timestamp, kind := .key })) ∧
      ∀ front key rest, NalUnit.scan chunk = front ++ key :: rest →
        codec.roleOfPayload key.payload = .key →
        ∀ lead, (setsBehind front).snapshot = some lead →
          (key.startCode = .long ∨
            ∀ pps, (setsBehind front).pps = some (framed pps) → pps.getLast? ≠ some 0) →
          ∀ again, ∃ sps, (setsBehind front).sps = some (framed sps) ∧
            ((fresh codec).assemble codec (keyFrameData (setsBehind front) key) again).2 =
              [.format (codec.announced sps),
                .frame
                  { data := keyFrameData (setsBehind front) key
                    timestamp := again
                    kind := .key }] := by
  intro kept setsBehind
  constructor
  · exact fun _ => key_frame_mem_onUnits_iff
  · intro front key rest split isKey lead complete apart again
    have fits : ∀ unit ∈ front ++ key :: rest, IsPayload unit.payload := by
      rw [← split]
      exact fun _ => NalUnit.isPayload_of_mem_scan
    obtain ⟨frontFits, keyFits⟩ := List.forall_mem_append.mp fits
    have scanned : AreScanned codec (setsBehind front) :=
      ((areScanned_assembleAll codec chunks).nextChunk.onUnits timestamp frontFits).sets
    exact scanned.assemble_fresh complete (keyFits key List.mem_cons_self) isKey apart again

/-- A picture parameter set at the end of a chunk, with a zero behind it. -/
def setsWithZero : Bytes :=
  framed [0x67, 0x42, 0xc0, 0x1f, 0xf4, 0x02, 0x80, 0x2d, 0xc8] ++ framed [0x68, 1, 0]

theorem key_frame_starts_stream_behind_zero :
    .frame { data := setsWithZero ++ [0, 0, 0, 1, 0x65, 3], timestamp := 40, kind := .key } ∈
        ((assembleAll .h264 [(setsWithZero, 0)] (.fresh .h264)).1.assemble .h264
          [0, 0, 0, 1, 0x65, 3] 40).2 ∧
      ((fresh .h264).assemble .h264 (setsWithZero ++ [0, 0, 0, 1, 0x65, 3]) 7).2 =
        [.format ⟨.h264, 1280, 720⟩,
          .frame { data := setsWithZero ++ [0, 0, 0, 1, 0x65, 3], timestamp := 7, kind := .key }] := by
  obtain ⟨frames, starts⟩ :=
    key_frame_starts_stream .h264 [(setsWithZero, 0)] [0, 0, 0, 1, 0x65, 3] 40
  have scanned : NalUnit.scan [0, 0, 0, 1, 0x65, 3] = [] ++ [⟨.long, [0x65, 3]⟩] := by
    decide +kernel
  constructor
  · exact (frames _ rfl).mpr ⟨[], ⟨.long, [0x65, 3]⟩, [], scanned, by decide, by decide +kernel⟩
  · have sets : (onUnits .h264 40 ⟨(assembleAll .h264 [(setsWithZero, 0)] (.fresh .h264)).1, none⟩
        []).1.kept.sets =
          ⟨false, none, some (framed [0x67, 0x42, 0xc0, 0x1f, 0xf4, 0x02, 0x80, 0x2d, 0xc8]),
            some (framed [0x68, 1, 0])⟩ := by decide +kernel
    have start := starts [] ⟨.long, [0x65, 3]⟩ [] scanned (by decide)
    dsimp only at start
    rw [sets] at start
    obtain ⟨sps, latest, again⟩ := start setsWithZero rfl (.inl rfl) 7
    obtain rfl := List.append_cancel_left (Option.some.inj latest)
    exact again.trans (by decide +kernel)

end AnnexB
end VideoIngest
