import VideoIngest.Assembler.AnnexB
import VideoIngest.Proofs.ByteStream.Append
import VideoIngest.Proofs.History

/-!
Whether a stream comes in one chunk or is cut in two at a start code makes no difference. The only
thing that ends with a chunk is its video parameter set, and no unit misses it that has another one
in front of it in its own chunk.
-/

namespace VideoIngest.AnnexB

variable {codec : NalCodec} {timestamp : Nat}

theorem onUnits_append (state : InChunk) (front back : List NalUnit) :
    onUnits codec timestamp state (front ++ back) =
      ((onUnits codec timestamp (onUnits codec timestamp state front).1 back).1,
        (onUnits codec timestamp state front).2 ++
          (onUnits codec timestamp (onUnits codec timestamp state front).1 back).2) := by
  induction front generalizing state with
  | nil => rfl
  | cons unit rest ih => simp only [List.cons_append, onUnits, ih, List.append_assoc]

def IsVps (codec : NalCodec) (unit : NalUnit) : Prop :=
  codec.roleOfPayload unit.payload = .parameterSet .vps

def IsSps (codec : NalCodec) (unit : NalUnit) : Prop :=
  codec.roleOfPayload unit.payload = .parameterSet .sps

instance (unit : NalUnit) : Decidable (IsVps codec unit) := inferInstanceAs (Decidable (_ = _))

instance (unit : NalUnit) : Decidable (IsSps codec unit) := inferInstanceAs (Decidable (_ = _))

/-- Every sequence parameter set has a video parameter set somewhere in front of it. -/
def BehindVps (codec : NalCodec) (units : List NalUnit) : Prop :=
  History.Always (fun earlier unit => IsSps codec unit → ∃ vps ∈ earlier, IsVps codec vps) units

theorem behindVps_cons {unit : NalUnit} {rest : List NalUnit} :
    BehindVps codec (unit :: rest) ↔
      ¬IsSps codec unit ∧ (IsVps codec unit ∨ BehindVps codec rest) := by
  constructor
  · intro behind
    constructor
    · intro sps
      obtain ⟨vps, member, _⟩ := behind [] unit rest rfl sps
      cases member
    · by_cases first : IsVps codec unit
      · exact .inl first
      · refine .inr ?_
        intro earlier placed later split sps
        obtain ⟨vps, member, isVps⟩ := behind (unit :: earlier) placed later (by rw [split]; rfl) sps
        rcases List.mem_cons.mp member with rfl | inEarlier
        · exact absurd isVps first
        · exact ⟨vps, inEarlier, isVps⟩
  · rintro ⟨notSps, first⟩ earlier placed later split sps
    cases earlier with
    | nil =>
        obtain ⟨rfl, _⟩ := List.cons.inj split
        exact absurd sps notSps
    | cons head tail =>
        obtain ⟨rfl, inRest⟩ := List.cons.inj split
        rcases first with vps | behind
        · exact ⟨unit, List.mem_cons_self, vps⟩
        · obtain ⟨vps, member, isVps⟩ := behind tail placed later inRest sps
          exact ⟨vps, List.mem_cons_of_mem _ member, isVps⟩

instance decidableBehindVps (codec : NalCodec) :
    (units : List NalUnit) → Decidable (BehindVps codec units)
  | [] => .isTrue (History.always_nil _)
  | unit :: rest =>
      have := decidableBehindVps codec rest
      decidable_of_iff (¬IsSps codec unit ∧ (IsVps codec unit ∨ BehindVps codec rest))
        behindVps_cons.symm

/-! ### The video parameter set of the chunk -/

private theorem chunkVps_onUnit {unit : NalUnit} (other : ¬IsVps codec unit) (state : InChunk) :
    (onUnit codec timestamp state unit).1.chunkVps = state.chunkVps := by
  unfold onUnit
  cases role : codec.roleOfPayload unit.payload with
  | parameterSet kind =>
      cases kind with
      | vps => exact absurd role other
      | sps => rfl
      | pps => rfl
  | key => rfl
  | delta => rfl
  | skip => rfl

private theorem chunkVps_onUnits {units : List NalUnit} (others : ∀ unit ∈ units, ¬IsVps codec unit)
    (state : InChunk) : (onUnits codec timestamp state units).1.chunkVps = state.chunkVps := by
  induction units generalizing state with
  | nil => rfl
  | cons unit rest ih =>
      have later := ih fun other member => others other (List.mem_cons_of_mem _ member)
      exact (later _).trans (chunkVps_onUnit (others unit List.mem_cons_self) state)

/-- Only a sequence parameter set looks at the video parameter set of the chunk, and a new one
replaces it. -/
private theorem onUnit_forget (timestamp : Nat) {unit : NalUnit} (notSps : ¬IsSps codec unit)
    {state other : InChunk} (same : state.kept = other.kept) :
    (onUnit codec timestamp state unit).2 = (onUnit codec timestamp other unit).2 ∧
      (onUnit codec timestamp state unit).1.kept = (onUnit codec timestamp other unit).1.kept ∧
      (IsVps codec unit →
        (onUnit codec timestamp state unit).1 = (onUnit codec timestamp other unit).1) := by
  obtain ⟨kept, chunkVps⟩ := state
  obtain ⟨_, otherVps⟩ := other
  obtain rfl : kept = _ := same
  unfold IsVps onUnit
  cases role : codec.roleOfPayload unit.payload with
  | parameterSet kind =>
      cases kind with
      | vps => exact ⟨rfl, rfl, fun _ => rfl⟩
      | sps => exact absurd role notSps
      | pps => exact ⟨rfl, rfl, fun vps => by cases vps⟩
  | key => exact ⟨rfl, rfl, NalRole.noConfusion⟩
  | delta => exact ⟨rfl, rfl, NalRole.noConfusion⟩
  | skip => exact ⟨rfl, rfl, NalRole.noConfusion⟩

private theorem onUnits_forget {units : List NalUnit} (behind : BehindVps codec units)
    {state other : InChunk} (same : state.kept = other.kept) :
    (onUnits codec timestamp state units).2 = (onUnits codec timestamp other units).2 ∧
      (onUnits codec timestamp state units).1.kept =
        (onUnits codec timestamp other units).1.kept := by
  -- Up to the first video parameter set nothing looks at that of the chunk, and behind it the two
  -- states are equal.
  induction units generalizing state other with
  | nil => exact ⟨rfl, same⟩
  | cons unit rest ih =>
      obtain ⟨notSps, first⟩ := behindVps_cons.mp behind
      obtain ⟨sameItem, sameKept, replaced⟩ := onUnit_forget timestamp notSps same
      simp only [onUnits, sameItem]
      rcases first with vps | behindRest
      · rw [replaced vps]
        exact ⟨rfl, rfl⟩
      · obtain ⟨items, last⟩ := ih behindRest sameKept
        exact ⟨by rw [items], last⟩

/-! ### Chunks cut in two -/

/-- The units behind a border do not notice it. In H.265 they must not need the video parameter set
of the units in front of it. -/
theorem onUnits_behind_border (timestamp : Nat) {front back : List NalUnit} (kept : AnnexB)
    (apart : codec = .h264 ∨ (∀ unit ∈ front, ¬IsVps codec unit) ∨ BehindVps codec back) :
    (onUnits codec timestamp (onUnits codec timestamp ⟨kept, none⟩ front).1 back).2 =
        (onUnits codec timestamp ⟨(onUnits codec timestamp ⟨kept, none⟩ front).1.kept, none⟩ back).2 ∧
      (onUnits codec timestamp (onUnits codec timestamp ⟨kept, none⟩ front).1 back).1.kept =
        (onUnits codec timestamp ⟨(onUnits codec timestamp ⟨kept, none⟩ front).1.kept, none⟩
          back).1.kept := by
  have noneToForget (noVps : ∀ unit ∈ front, ¬IsVps codec unit) :
      (onUnits codec timestamp ⟨kept, none⟩ front).1 =
        ⟨(onUnits codec timestamp ⟨kept, none⟩ front).1.kept, none⟩ :=
    congrArg (InChunk.mk _) (chunkVps_onUnits noVps ⟨kept, none⟩)
  rcases apart with rfl | noVps | behind
  · rw [← noneToForget fun unit _ => NalCodec.roleOfPayload_h264_ne_vps unit.payload]
    exact ⟨rfl, rfl⟩
  · rw [← noneToForget noVps]
    exact ⟨rfl, rfl⟩
  · exact onUnits_forget behind rfl

/-- Where a chunk is cut at a start code, its two parts come to what the whole comes to and leave
the same behind. In H.265 no sequence parameter set of the second part may need the video parameter
set of the first: the first has none, or the second has one in front of each. -/
theorem assemble_append (kept : AnnexB) (codec : NalCodec) (timestamp : Nat) {front back : Bytes}
    (starts : ByteStream.StartsUnit front back)
    (apart : codec = .h264 ∨ (∀ unit ∈ NalUnit.scan front, ¬IsVps codec unit) ∨
      BehindVps codec (NalUnit.scan back)) :
    kept.assemble codec (front ++ back) timestamp =
      (((kept.assemble codec front timestamp).1.assemble codec back timestamp).1,
        (kept.assemble codec front timestamp).2 ++
          ((kept.assemble codec front timestamp).1.assemble codec back timestamp).2) := by
  obtain ⟨items, last⟩ := onUnits_behind_border timestamp kept apart
  unfold assemble
  rw [NalUnit.scan_append starts, onUnits_append]
  simp only [items, last]

/-- A change from 16 × 16 to 32 × 16 behind the border: the sets in front of the key frame are those
of the second part. -/
theorem assemble_append_at_change :
    ByteStream.StartsUnit
        (framed [0x40, 1, 7] ++ framed [0x42, 1, 1, 1, 0x60, 0, 0, 3, 0, 0x90, 0, 0, 3, 0, 0, 3, 0,
          0x5d, 0xa0, 0x88, 0x45] ++ [0])
        (framed [0x40, 1, 8] ++ framed [0x42, 1, 1, 1, 0x60, 0, 0, 3, 0, 0x90, 0, 0, 3, 0, 0, 3, 0,
          0x5d, 0xa0, 0x42, 0x11, 0x40] ++ framed [0x44, 1, 9] ++ [0, 0, 1, 0x26, 1, 5]) ∧
      BehindVps .h265 (NalUnit.scan
        (framed [0x40, 1, 8] ++ framed [0x42, 1, 1, 1, 0x60, 0, 0, 3, 0, 0x90, 0, 0, 3, 0, 0, 3, 0,
          0x5d, 0xa0, 0x42, 0x11, 0x40] ++ framed [0x44, 1, 9] ++ [0, 0, 1, 0x26, 1, 5])) ∧
      ((AnnexB.fresh .h265).assemble .h265
        ((framed [0x40, 1, 7] ++ framed [0x42, 1, 1, 1, 0x60, 0, 0, 3, 0, 0x90, 0, 0, 3, 0, 0, 3, 0,
          0x5d, 0xa0, 0x88, 0x45] ++ [0]) ++
          (framed [0x40, 1, 8] ++ framed [0x42, 1, 1, 1, 0x60, 0, 0, 3, 0, 0x90, 0, 0, 3, 0, 0, 3, 0,
          0x5d, 0xa0, 0x42, 0x11, 0x40] ++ framed [0x44, 1, 9] ++ [0, 0, 1, 0x26, 1, 5])) 40).2 =
        [.format ⟨.h265, 16, 16⟩, .format ⟨.h265, 32, 16⟩,
          .frame
            { data := framed [0x40, 1, 8] ++ framed [0x42, 1, 1, 1, 0x60, 0, 0, 3, 0, 0x90, 0, 0, 3,
                0, 0, 3, 0, 0x5d, 0xa0, 0x42, 0x11, 0x40] ++ framed [0x44, 1, 9] ++
                [0, 0, 1, 0x26, 1, 5]
              timestamp := 40
              kind := .key }] := by
  refine ⟨.inl (by decide +kernel), by decide +kernel, ?_⟩
  rw [assemble_append (.fresh .h265) .h265 40 (.inl (by decide +kernel))
    (.inr (.inr (by decide +kernel)))]
  decide +kernel

end VideoIngest.AnnexB
