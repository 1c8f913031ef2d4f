import VideoIngest.H264.Sps
import VideoIngest.Proofs.Bits.Sequential
import VideoIngest.Proofs.Nal.TrailingZeros

/-!
H.264 sequence parameter sets in front of zeros.

A set ends at its stop bit, so that zeros behind it go unnoticed, and zeros alone never make up for
a missing one: with a zero byte or two behind it a unit reads as it does without them.
-/

namespace VideoIngest

namespace BitReader

variable {ε α β : Type} {short : ε → Prop} {reader : BitReader ε α} {next : α → BitReader ε β}

/-- The reader has to meet a one bit, and takes no notice of zeros behind the last bits it needs. -/
structure EndsAtOne (reader : BitReader ε α) : Prop where
  zeros : ∀ count, ∃ cause, reader (List.replicate count false) = .error cause
  padded : ∀ bits count value,
    (∃ rest, reader (bits ++ List.replicate count false) = .ok (value, rest)) ↔
      ∃ rest, reader bits = .ok (value, rest)

private theorem EndsAtOne.ite {condition : Prop} [Decidable condition] {other : BitReader ε α}
    (first : reader.EndsAtOne) (second : other.EndsAtOne) :
    (if condition then reader else other).EndsAtOne := by
  split
  · exact first
  · exact second

private theorem EndsAtOne.ne_ok_of_zeros (ends : reader.EndsAtOne) {count : Nat}
    {outcome : α × List Bool} : reader (List.replicate count false) ≠ .ok outcome := by
  intro read
  obtain ⟨cause, failed⟩ := ends.zeros count
  cases failed.symm.trans read

theorem EndsAtOne.bind (first : reader.Sequential short)
    (second : ∀ value, (next value).EndsAtOne) : (reader >>= next).EndsAtOne := by
  constructor
  · intro count
    cases outcome : (reader >>= next) (List.replicate count false) with
    | error cause => exact ⟨cause, rfl⟩
    | ok read =>
        obtain ⟨found, middle, taken, read⟩ := bind_eq_ok_iff.mp outcome
        rw [first.rest_eq_replicate taken] at read
        exact absurd read (second found).ne_ok_of_zeros
  · intro bits count value
    simp only [bind_eq_ok_iff]
    constructor
    · rintro ⟨rest, found, middle, outcome, read⟩
      obtain ⟨taken, split, gives⟩ := first.takes outcome
      rcases List.append_eq_append_iff.mp split with ⟨more, _, zeros⟩ | ⟨left, rfl, rfl⟩
      · -- Nothing but zeros is left, and the second reader fails on them.
        rw [(List.append_eq_replicate_iff.mp zeros.symm).2.2] at read
        exact absurd read (second found).ne_ok_of_zeros
      · obtain ⟨rest, read⟩ := ((second found).padded left count value).mp ⟨rest, read⟩
        exact ⟨rest, found, left, gives left, read⟩
    · rintro ⟨rest, found, middle, outcome, read⟩
      obtain ⟨rest, read⟩ := ((second found).padded middle count value).mpr ⟨rest, read⟩
      exact ⟨rest, found, _, first.read_append outcome _, read⟩

private theorem EndsAtOne.ite_bind {condition : Prop} [Decidable condition] {other : BitReader ε α}
    (first : (if condition then reader else other).Sequential short)
    (second : ∀ value, (next value).EndsAtOne) :
    (if condition then reader >>= next else other >>= next).EndsAtOne := by
  rw [BitReader.ite_bind]
  exact .bind first second

private theorem EndsAtOne.bind_pure (ends : reader.EndsAtOne) (value : β) :
    (reader >>= fun _ => pure value).EndsAtOne := by
  constructor
  · intro count
    obtain ⟨cause, failed⟩ := ends.zeros count
    exact ⟨cause, bind_eq_error_iff.mpr (.inl failed)⟩
  · intro bits count other
    have outcome (bits : List Bool) : (∃ rest, (reader >>= fun _ => pure value) bits =
        .ok (other, rest)) ↔ value = other ∧ ∃ found rest, reader bits = .ok (found, rest) := by
      simp only [bind_eq_ok_iff]
      constructor
      · rintro ⟨_, found, middle, read, same⟩
        exact ⟨(Prod.mk.inj (Except.ok.inj same)).1, found, middle, read⟩
      · rintro ⟨rfl, found, middle, read⟩
        exact ⟨middle, found, middle, read, rfl⟩
    rw [outcome, outcome]
    simp only [ends.padded]

end BitReader

namespace H264

open BitReader

/-- Where no failure counts, only that a value rests on the bits that were taken for it. -/
def AnyFault {ε : Type} (_ : ε) : Prop := True

/-- Readers of single syntax elements keep to the bits they take, whatever becomes of their faults. -/
class LiftsElements (ε : Type) [MonadLift (BitReader ReadError) (BitReader ε)] : Prop where
  sequential {α : Type} {reader : BitReader ReadError α} :
    reader.Sequential ReadError.EndsData →
      (liftM reader : BitReader ε α).Sequential AnyFault

instance : LiftsElements ScalingFault := ⟨fun sequential => sequential.mapError fun _ _ => trivial⟩

instance : LiftsElements PicOrderFault := ⟨fun sequential => sequential.mapError fun _ _ => trivial⟩

instance : LiftsElements SpsFault := ⟨fun sequential => sequential.mapError fun _ _ => trivial⟩

section Elements

variable {ε : Type} [MonadLift (BitReader ReadError) (BitReader ε)] [LiftsElements ε]
  (element : String)

private theorem sequential_liftUint (width : Nat) :
    (liftM (uint element width) : BitReader ε Nat).Sequential AnyFault :=
  LiftsElements.sequential (sequential_uint element width)

theorem sequential_liftSkip (width : Nat) :
    (liftM (skip element width) : BitReader ε Unit).Sequential AnyFault :=
  LiftsElements.sequential (sequential_skip element width)

theorem sequential_liftFlag : (liftM (flag element) : BitReader ε Bool).Sequential AnyFault :=
  LiftsElements.sequential (sequential_flag element)

theorem sequential_liftUe : (liftM (ue element) : BitReader ε Nat).Sequential AnyFault :=
  LiftsElements.sequential (sequential_ue element)

private theorem sequential_liftSe : (liftM (se element) : BitReader ε Int).Sequential AnyFault :=
  LiftsElements.sequential (sequential_se element)

theorem sequential_demand {ε : Type} (condition : Prop) [Decidable condition] (fault : ε) :
    (demand condition fault).Sequential AnyFault :=
  Sequential.ite (sequential_pure ()) (sequential_throw fault)

theorem sequential_optional {announced : BitReader ε Unit}
    (sequential : announced.Sequential AnyFault) :
    (optional element announced).Sequential AnyFault := by
  refine (sequential_liftFlag element).bind fun present => ?_
  exact Sequential.ite (sequential.bind fun _ => sequential_pure _) (sequential_pure _)

end Elements

/-! ### The parts of a set -/

private theorem sequential_scalingList (count : Nat) (last next : Int) :
    (scalingList count last next).Sequential AnyFault := by
  induction count generalizing last next with
  | zero => exact sequential_pure ()
  | succ count ih =>
      refine Sequential.ite (ih last 0) ?_
      exact (sequential_liftSe _).bind fun _ => (sequential_demand _ _).bind fun _ => ih _ _

private theorem sequential_scalingMatrix (chromaFormatIdc : Nat) :
    (scalingMatrix chromaFormatIdc).Sequential AnyFault :=
  sequential_forM (fun size => (sequential_optional _ (sequential_scalingList size 8 8)).bind
    fun _ => sequential_pure _) _

private theorem sequential_bitDepth : bitDepth.Sequential AnyFault :=
  (sequential_liftUe _).bind fun _ => sequential_demand _ _

private theorem sequential_chromaInfo : chromaInfo.Sequential AnyFault := by
  refine (sequential_liftUe _).bind fun chroma => ?_
  have matrix : ((scalingMatrix chroma).mapError SpsFault.scalingMatrix).Sequential AnyFault :=
    (sequential_scalingMatrix chroma).mapError fun _ _ => trivial
  have depths : (do
      bitDepth
      bitDepth
      skip "qpprime_y_zero_transform_bypass_flag" 1
      let _ ← optional "scaling_matrix_present_flag" ((scalingMatrix chroma).mapError .scalingMatrix)
      return chroma : BitReader SpsFault Nat).Sequential AnyFault := by
    refine sequential_bitDepth.bind fun _ => sequential_bitDepth.bind fun _ => ?_
    refine (sequential_liftSkip _ _).bind fun _ => ?_
    exact (sequential_optional _ matrix).bind fun _ => sequential_pure chroma
  exact Sequential.ite ((sequential_liftSkip _ _).bind fun _ => depths) depths

private theorem sequential_picOrderCycle : picOrderCycle.Sequential AnyFault := by
  refine (sequential_liftSkip _ _).bind fun _ => (sequential_liftSe _).bind fun _ => ?_
  refine (sequential_liftSe _).bind fun _ => (sequential_liftUe _).bind fun length => ?_
  refine (sequential_demand _ _).bind fun _ => ?_
  exact sequential_repeated ((sequential_liftSe _).bind fun _ => sequential_pure _) length

private theorem sequential_picOrder : picOrder.Sequential AnyFault := by
  refine (sequential_liftUe _).bind fun type => ?_
  split
  · exact (sequential_liftUe _).bind fun _ => sequential_demand _ _
  · exact sequential_picOrderCycle
  · exact sequential_pure ()
  · exact sequential_throw _

/-! ### Usability information -/

private theorem sequential_aspectRatio : aspectRatio.Sequential AnyFault := by
  refine (sequential_liftUint _ _).bind fun ratio => Sequential.ite ?_ (sequential_pure ())
  exact (sequential_liftSkip _ _).bind fun _ => sequential_liftSkip _ _

private theorem sequential_colourDescription : colourDescription.Sequential AnyFault :=
  (sequential_liftSkip _ _).bind fun _ => (sequential_liftSkip _ _).bind fun _ =>
    sequential_liftSkip _ _

private theorem sequential_videoSignalType : videoSignalType.Sequential AnyFault := by
  refine (sequential_liftSkip _ _).bind fun _ => (sequential_liftSkip _ _).bind fun _ => ?_
  exact (sequential_optional _ sequential_colourDescription).bind fun _ => sequential_pure _

private theorem sequential_chromaLocation : chromaLocation.Sequential AnyFault :=
  (sequential_liftUe _).bind fun _ => (sequential_liftUe _).bind fun _ => sequential_pure _

private theorem sequential_timing : timing.Sequential AnyFault :=
  (sequential_liftSkip _ _).bind fun _ => (sequential_liftSkip _ _).bind fun _ =>
    sequential_liftSkip _ _

private theorem sequential_codedPictureBuffer : codedPictureBuffer.Sequential AnyFault :=
  (sequential_liftUe _).bind fun _ => (sequential_liftUe _).bind fun _ => sequential_liftSkip _ _

private theorem sequential_referenceDecoder : referenceDecoder.Sequential AnyFault := by
  refine (sequential_liftUe _).bind fun count => (sequential_demand _ _).bind fun _ => ?_
  refine (sequential_liftSkip _ _).bind fun _ => (sequential_liftSkip _ _).bind fun _ => ?_
  refine (sequential_repeated sequential_codedPictureBuffer _).bind fun _ => ?_
  refine (sequential_liftSkip _ _).bind fun _ => (sequential_liftSkip _ _).bind fun _ => ?_
  exact (sequential_liftSkip _ _).bind fun _ => sequential_liftSkip _ _

private theorem sequential_smallExponent (element : String) :
    (smallExponent element).Sequential AnyFault :=
  (sequential_liftUe element).bind fun _ => sequential_demand _ _

private theorem sequential_bitstreamRestriction (maxRefFrames : Nat) :
    (bitstreamRestriction maxRefFrames).Sequential AnyFault := by
  refine (sequential_liftSkip _ _).bind fun _ => ?_
  refine (sequential_smallExponent _).bind fun _ => (sequential_smallExponent _).bind fun _ => ?_
  refine (sequential_smallExponent _).bind fun _ => (sequential_smallExponent _).bind fun _ => ?_
  refine (sequential_liftUe _).bind fun reordered => (sequential_liftUe _).bind fun buffered => ?_
  exact (sequential_demand _ _).bind fun _ => sequential_demand _ _

private theorem sequential_usability (maxRefFrames : Nat) :
    (usability maxRefFrames).Sequential AnyFault := by
  refine (sequential_optional _ sequential_aspectRatio).bind fun _ => ?_
  refine (sequential_optional _ (sequential_liftSkip _ _)).bind fun _ => ?_
  refine (sequential_optional _ sequential_videoSignalType).bind fun _ => ?_
  refine (sequential_optional _ sequential_chromaLocation).bind fun _ => ?_
  refine (sequential_optional _ sequential_timing).bind fun _ => ?_
  refine (sequential_optional _ sequential_referenceDecoder).bind fun nal => ?_
  refine (sequential_optional _ sequential_referenceDecoder).bind fun vcl => ?_
  have structures : (do
      skip "pic_struct_present_flag" 1
      let _ ← optional "bitstream_restriction_flag" (bitstreamRestriction maxRefFrames) :
        BitReader SpsFault Unit).Sequential AnyFault := by
    refine (sequential_liftSkip _ _).bind fun _ => ?_
    exact (sequential_optional _ (sequential_bitstreamRestriction _)).bind fun _ => sequential_pure _
  exact Sequential.ite ((sequential_liftSkip _ _).bind fun _ => structures) structures

private theorem sequential_frameCropping : frameCropping.Sequential AnyFault := by
  refine (sequential_liftFlag _).bind fun present => Sequential.ite ?_ (sequential_pure none)
  refine (sequential_liftUe _).bind fun left => (sequential_liftUe _).bind fun right => ?_
  exact (sequential_liftUe _).bind fun top => (sequential_liftUe _).bind fun bottom =>
    sequential_pure _

/-! ### The whole set -/

private theorem endsAtOne_stopBit : stopBit.EndsAtOne := by
  constructor
  · intro count
    cases count with
    | zero => exact ⟨_, rfl⟩
    | succ count => exact ⟨.reader (.endOfData "finish"), by simp [stopBit, List.replicate_succ]⟩
  · intro bits count value
    cases bits with
    | nil =>
        cases count with
        | zero => simp
        | succ count => simp [stopBit, List.replicate_succ]
    | cons stop rest =>
        simp only [List.cons_append, stopBit, List.any_append, List.any_replicate]
        cases rest.any id <;> cases stop <;> simp

theorem endsAtOne_sequenceParameterSet : sequenceParameterSet.EndsAtOne := by
  refine .bind (sequential_liftUint _ _) fun profileIdc => ?_
  refine .bind (sequential_liftSkip _ _) fun _ => .bind (sequential_liftUint _ _) fun levelIdc => ?_
  refine .bind (sequential_liftUe _) fun id => .bind (sequential_demand _ _) fun _ => ?_
  have chroma : (if profileIdc ∈ highProfiles then chromaInfo else pure 1).Sequential AnyFault :=
    Sequential.ite sequential_chromaInfo (sequential_pure 1)
  refine .ite_bind chroma fun chromaFormatIdc => ?_
  refine .bind (sequential_liftUe _) fun numberLength => .bind (sequential_demand _ _) fun _ => ?_
  have order : (picOrder.mapError SpsFault.picOrder).Sequential AnyFault :=
    sequential_picOrder.mapError fun _ _ => trivial
  refine .bind order fun _ => .bind (sequential_liftUe _) fun maxRefFrames => ?_
  refine .bind (sequential_liftSkip _ _) fun _ => .bind (sequential_liftUe _) fun width => ?_
  refine .bind (sequential_liftUe _) fun height => .bind (sequential_liftFlag _) fun frames => ?_
  -- What is behind the flag for frames in fields is the same with it and without it.
  refine .ite (.bind (sequential_liftSkip _ _) fun _ => ?_) ?_
  all_goals
    refine .bind (sequential_liftSkip _ _) fun _ => .bind sequential_frameCropping fun crop => ?_
    refine .bind (sequential_optional _ (sequential_usability _)) fun _ => ?_
    exact endsAtOne_stopBit.bind_pure _

/-! ### Units -/

/-- Three bytes hold the profile and the level of a set, and nothing of its identity. -/
theorem sequenceParameterSet_eq_error {payload : Bytes} (short : payload.length < 4) :
    ∃ cause, sequenceParameterSet (Bits.ofBytes payload) = .error cause := by
  match payload with
  | [] => exact ⟨_, rfl⟩
  | [_] => exact ⟨_, rfl⟩
  | [_, _] => exact ⟨_, rfl⟩
  | [_, _, _] => exact ⟨_, rfl⟩

theorem spsOfPayload_eq_ok_iff {payload : Bytes} {sps : Sps} {size : Nat × Nat} :
    spsOfPayload payload = .ok (sps, size) ↔
      (∃ rest, sequenceParameterSet (Bits.ofBytes payload) = .ok (sps, rest)) ∧
        sps.pictureSize = .ok size := by
  unfold spsOfPayload
  by_cases short : payload.length < 4
  · obtain ⟨cause, failed⟩ := sequenceParameterSet_eq_error short
    rw [if_pos short, failed]
    constructor
    · nofun
    · rintro ⟨⟨rest, read⟩, _⟩
      cases read
  · rw [if_neg short]
    change (sequenceParameterSet (Bits.ofBytes payload) >>= fun found =>
      found.1.pictureSize >>= fun size => .ok (found.1, size)) = _ ↔ _
    cases sequenceParameterSet (Bits.ofBytes payload) with
    | error cause => exact ⟨nofun, fun both => nomatch both.1.choose_spec⟩
    | ok found =>
        constructor
        · intro read
          change (found.1.pictureSize >>= _) = _ at read
          cases computed : found.1.pictureSize with
          | error cause =>
              rw [computed] at read
              cases read
          | ok value =>
              rw [computed] at read
              obtain ⟨rfl, rfl⟩ := Prod.mk.inj (Except.ok.inj read)
              exact ⟨⟨found.2, rfl⟩, computed⟩
        · rintro ⟨⟨rest, read⟩, computed⟩
          obtain rfl := Except.ok.inj read
          change (sps.pictureSize >>= _) = _
          rw [computed]
          rfl

theorem spsOfUnit_eq_ok_iff {unit : Bytes} {found : Sps × Nat × Nat} :
    spsOfUnit unit = .ok found ↔
      ∃ payload, Escape.remove unit.tail = .ok payload ∧ spsOfPayload payload = .ok found := by
  unfold spsOfUnit
  by_cases short : unit.length < 2
  · have nothing : unit.tail = [] := by
      rw [← List.length_eq_zero_iff, List.length_tail]
      omega
    rw [if_pos short, nothing]
    constructor
    · nofun
    · rintro ⟨payload, removed, read⟩
      obtain rfl := Except.ok.inj removed
      cases read
  · rw [if_neg short]
    cases Escape.remove unit.tail with
    | error cause => exact ⟨nofun, fun both => nomatch both.choose_spec.1⟩
    | ok payload =>
        constructor
        · intro read
          exact ⟨payload, rfl, read⟩
        · rintro ⟨_, removed, read⟩
          obtain rfl := Except.ok.inj removed
          exact read

theorem parseSps_congr {unit other : Bytes}
    (same : ∀ found, spsOfUnit unit = .ok found ↔ spsOfUnit other = .ok found) (info : SpsInfo) :
    parseSps unit = .ok info ↔ parseSps other = .ok info := by
  unfold parseSps
  cases first : spsOfUnit unit with
  | error cause =>
      cases second : spsOfUnit other with
      | error cause => exact ⟨nofun, nofun⟩
      | ok found => cases first.symm.trans ((same found).mpr second)
  | ok found => rw [(same found).mp first]

variable {unit : Bytes}

private theorem getLast?_tail_ne_zero (last : unit.getLast? ≠ some 0) :
    unit.tail.getLast? ≠ some 0 := by
  rw [← List.drop_one]
  exact getLast?_drop_ne_zero last 1

/-- With a zero or two behind it a unit reads as it does without them. -/
theorem parseSps_append_zeros (nonempty : unit ≠ []) (last : unit.getLast? ≠ some 0) {count : Nat}
    (few : count ≤ 2) (info : SpsInfo) :
    parseSps (unit ++ List.replicate count 0) = .ok info ↔ parseSps unit = .ok info := by
  apply parseSps_congr
  rintro ⟨sps, size⟩
  rw [spsOfUnit_eq_ok_iff, spsOfUnit_eq_ok_iff, List.tail_append_of_ne_nil nonempty,
    Escape.remove_append_zeros (getLast?_tail_ne_zero last) few]
  cases Escape.remove unit.tail with
  | error cause => simp [Except.map]
  | ok payload =>
      simp only [Except.map, Except.ok.injEq, exists_eq_left', spsOfPayload_eq_ok_iff,
        Bits.ofBytes_append, Bits.ofBytes_zeros, endsAtOne_sequenceParameterSet.padded]

/-- A third zero behind a unit is no part of any. -/
theorem exists_parseSps_append_zeros_eq_error (nonempty : unit ≠ [])
    (last : unit.getLast? ≠ some 0) {count : Nat} (many : 3 ≤ count) :
    ∃ cause, parseSps (unit ++ List.replicate count 0) = .error cause := by
  obtain ⟨cause, failed⟩ :=
    Escape.exists_remove_append_zeros_eq_error (getLast?_tail_ne_zero last) many
  have refused : ∃ fault, spsOfUnit (unit ++ List.replicate count 0) = .error fault := by
    cases outcome : spsOfUnit (unit ++ List.replicate count 0) with
    | error fault => exact ⟨fault, rfl⟩
    | ok found =>
        obtain ⟨payload, removed, _⟩ := spsOfUnit_eq_ok_iff.mp outcome
        rw [List.tail_append_of_ne_nil nonempty, failed] at removed
        cases removed
  obtain ⟨fault, refused⟩ := refused
  unfold parseSps
  rw [refused]
  exact ⟨_, rfl⟩

end H264
end VideoIngest
