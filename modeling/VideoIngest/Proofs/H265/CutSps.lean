import VideoIngest.Proofs.Bits.Sequential
import VideoIngest.Proofs.H265.WrittenSps
import VideoIngest.Proofs.Nal.EscapedParts
import VideoIngest.Proofs.Nal.PictureSize

/-!
Sequence parameter sets that are cut off anywhere: they read as before or are refused for what they
lack, but never as other sets.
-/

namespace VideoIngest.H265

open BitReader

def SpsFault.EndsData (fault : SpsFault) : Prop := ∃ element, fault = .reader (.endOfData element)

private theorem sequential_lifted {α : Type} {reader : BitReader ReadError α}
    (sequential : reader.Sequential ReadError.EndsData) :
    (liftM reader : BitReader SpsFault α).Sequential SpsFault.EndsData := by
  apply sequential.mapError
  rintro cause ⟨element, rfl⟩
  exact ⟨element, rfl⟩

private theorem sequential_atMost {reader : BitReader ReadError Nat}
    (sequential : reader.Sequential ReadError.EndsData) (limit : Nat) (field : String) :
    (atMost limit field reader).Sequential SpsFault.EndsData := by
  refine (sequential_lifted sequential).bind fun value => ?_
  exact Sequential.ite ((sequential_throw _).bind fun _ => sequential_pure _) (sequential_pure _)

/-! ### The elements of a set -/

private theorem sequential_subLayerFlags (count : Nat) :
    (subLayerFlags count).Sequential ReadError.EndsData := by
  induction count with
  | zero => exact sequential_pure []
  | succ count ih =>
      exact (sequential_flag _).bind fun _ => (sequential_flag _).bind fun _ =>
        ih.bind fun _ => sequential_pure _

private theorem sequential_subLayerPadding (count : Nat) :
    (subLayerPadding count).Sequential ReadError.EndsData :=
  Sequential.ite (sequential_pure ()) (sequential_skip _ _)

private theorem sequential_skipSubLayer (flags : SubLayerFlags) :
    (skipSubLayer flags).Sequential ReadError.EndsData := by
  have level : (if flags.hasLevel then skip "sub_layer_level_idc" 8 else pure ()).Sequential
      ReadError.EndsData := Sequential.ite (sequential_skip _ _) (sequential_pure ())
  exact Sequential.ite ((sequential_skip _ _).bind fun _ => level) level

private theorem sequential_profileTierLevel (subLayers : Nat) :
    (profileTierLevel subLayers).Sequential ReadError.EndsData := by
  refine (sequential_skip _ _).bind fun _ => (sequential_uint _ _).bind fun profileIdc => ?_
  refine (sequential_skip _ _).bind fun _ => (sequential_skip _ _).bind fun _ => ?_
  refine (sequential_skip _ _).bind fun _ => (sequential_uint _ _).bind fun levelIdc => ?_
  refine (sequential_subLayerFlags _).bind fun flags => ?_
  refine (sequential_subLayerPadding _).bind fun _ => ?_
  exact (sequential_forM sequential_skipSubLayer flags).bind fun _ => sequential_pure _

private theorem sequential_conformanceWindow : conformanceWindow.Sequential ReadError.EndsData := by
  refine (sequential_flag _).bind fun present => Sequential.ite ?_ (sequential_pure _)
  refine (sequential_ue _).bind fun left => (sequential_ue _).bind fun right => ?_
  exact (sequential_ue _).bind fun top => (sequential_ue _).bind fun bottom => sequential_pure _

theorem sequential_sequenceParameterSet :
    sequenceParameterSet.Sequential SpsFault.EndsData := by
  unfold sequenceParameterSet
  refine (sequential_lifted (sequential_uint _ _)).bind fun vpsId => ?_
  refine (sequential_atMost (sequential_uint _ _) _ _).bind fun subLayers => ?_
  refine (sequential_lifted (sequential_skip _ _)).bind fun _ => ?_
  refine (sequential_lifted (sequential_profileTierLevel _)).bind fun general => ?_
  refine (sequential_atMost (sequential_ue _) _ _).bind fun id => ?_
  refine (sequential_atMost (sequential_ue _) _ _).bind fun chroma => ?_
  have planes : (if chroma = 3 then
      liftM (flag "separate_colour_plane_flag" : BitReader ReadError Bool)
      else pure false : BitReader SpsFault Bool).Sequential SpsFault.EndsData :=
    Sequential.ite (sequential_lifted (sequential_flag _)) (sequential_pure false)
  refine planes.ite_bind fun separatePlanes => ?_
  refine (sequential_lifted (sequential_ue _)).bind fun codedWidth => ?_
  refine (sequential_lifted (sequential_ue _)).bind fun codedHeight => ?_
  refine (sequential_lifted sequential_conformanceWindow).bind fun window => ?_
  refine (sequential_liftM _).bind fun width => (sequential_liftM _).bind fun height => ?_
  exact Sequential.ite ((sequential_throw _).bind fun _ => sequential_pure _) (sequential_pure _)

/-! ### Cut units -/

theorem parseSps_eq_ok_iff {unit : Bytes} {info : SpsInfo} :
    parseSps unit = .ok info ↔ spsOfUnit unit = .ok info := by
  unfold parseSps
  cases spsOfUnit unit with
  | error fault => exact ⟨nofun, nofun⟩
  | ok found => exact ⟨fun same => congrArg _ (Except.ok.inj same), fun same => by rw [same]; rfl⟩

/-- A cut unit is read as the whole one, or is too short to be a unit or to hold the set. -/
theorem spsOfUnit_of_append {cut more : Bytes} {info : SpsInfo}
    (parsed : spsOfUnit (cut ++ more) = .ok info) :
    spsOfUnit cut = .ok info ∨ (cut.length < 3 ∧ spsOfUnit cut = .error .emptyUnit) ∨
      ∃ fault, fault.EndsData ∧ spsOfUnit cut = .error fault := by
  obtain ⟨payload, rest, _, removed, read⟩ := exists_read_of_spsOfUnit parsed
  by_cases short : cut.length < 3
  · have empty : spsOfUnit cut = .error .emptyUnit := by
      unfold spsOfUnit
      rw [if_pos short]
      rfl
    exact .inr (.inl ⟨short, empty⟩)
  · rw [List.drop_append_of_le_length (by omega)] at removed
    obtain ⟨kept, others, front, rfl⟩ := Escape.exists_remove_of_append removed
    rw [Bits.ofBytes_append] at read
    rw [spsOfUnit_eq (by omega) front]
    rcases sequential_sequenceParameterSet.read_front read with
      ⟨fewer, same⟩ | ⟨fault, endsData, failed⟩
    · rw [same]
      exact .inl rfl
    · rw [failed]
      exact .inr (.inr ⟨fault, endsData, rfl⟩)

/-- A unit that can be read, with further bytes that leave it a unit, is read as before. -/
theorem spsOfUnit_append {cut more payload : Bytes} {info : SpsInfo}
    (parsed : spsOfUnit cut = .ok info)
    (removed : Escape.remove ((cut ++ more).drop 2) = .ok payload) :
    spsOfUnit (cut ++ more) = .ok info := by
  obtain ⟨kept, rest, long, front, read⟩ := exists_read_of_spsOfUnit parsed
  have longer : 3 ≤ (cut ++ more).length := by
    rw [List.length_append]
    omega
  rw [spsOfUnit_eq longer removed]
  rw [List.drop_append_of_le_length (by omega)] at removed
  obtain ⟨same, others, again, rfl⟩ := Escape.exists_remove_of_append removed
  obtain rfl := Except.ok.inj (front.symm.trans again)
  rw [Bits.ofBytes_append, sequential_sequenceParameterSet.read_append read]
  rfl

/-- Wherever a unit is cut that can be read, it reads as the same set or is refused because it ends
too early; once what is left of it can be read, more of it changes nothing. -/
theorem parseSps_of_cut {unit : Bytes} {info : SpsInfo} (parsed : parseSps unit = .ok info) :
    (∀ cut, cut <+: unit →
      parseSps cut = .ok info ∨ parseSps cut = .error (.invalidSps "empty NAL unit") ∨
        ∃ element, parseSps cut = .error (.invalidSps (ReadError.endOfData element).message)) ∧
      ∀ cut longer, cut <+: longer → longer <+: unit → parseSps cut = .ok info →
        parseSps longer = .ok info := by
  rw [parseSps_eq_ok_iff] at parsed
  constructor
  · rintro cut ⟨more, rfl⟩
    unfold parseSps
    rcases spsOfUnit_of_append parsed with
      same | ⟨_, empty⟩ | ⟨_, ⟨element, rfl⟩, ended⟩
    · rw [same]
      exact .inl rfl
    · rw [empty]
      exact .inr (.inl rfl)
    · rw [ended]
      exact .inr (.inr ⟨element, rfl⟩)
  · rintro cut _ ⟨between, rfl⟩ ⟨more, rfl⟩ enough
    rw [parseSps_eq_ok_iff] at enough ⊢
    obtain ⟨payload, _, _, removed, _⟩ := exists_read_of_spsOfUnit parsed
    obtain ⟨_, _, long, _, _⟩ := exists_read_of_spsOfUnit enough
    rw [List.drop_append_of_le_length (by rw [List.length_append]; omega)] at removed
    obtain ⟨kept, _, front, _⟩ := Escape.exists_remove_of_append removed
    exact spsOfUnit_append enough front

/-- A set for 1920 × 1080 is cut off inside its first escape. -/
theorem parseSps_of_cut_in_escape :
    parseSps [0x42, 1, 1, 1, 0x60, 0, 0, 3, 0, 0x90, 0, 0, 3, 0, 0, 3, 0, 0x5d, 0xa0, 3, 0xc0,
        0x80, 0x10, 0xe5, 0x96] = .ok ⟨0, 1, 1, 93, 0, 1, 1920, 1080⟩ ∧
      ∃ element, parseSps [0x42, 1, 1, 1, 0x60, 0, 0] =
        .error (.invalidSps (ReadError.endOfData element).message) := by
  have whole : parseSps [0x42, 1, 1, 1, 0x60, 0, 0, 3, 0, 0x90, 0, 0, 3, 0, 0, 3, 0, 0x5d, 0xa0, 3,
      0xc0, 0x80, 0x10, 0xe5, 0x96] = .ok ⟨0, 1, 1, 93, 0, 1, 1920, 1080⟩ := by rfl
  refine ⟨whole, ?_⟩
  rcases (parseSps_of_cut whole).1 [0x42, 1, 1, 1, 0x60, 0, 0] ⟨_, rfl⟩ with same | empty | ended
  · cases same
  · have reason : (ReadError.endOfData "general_profile_compatibility_flag").message =
        "empty NAL unit" := ParseError.invalidSps.inj (Except.error.inj empty)
    exact absurd reason (by decide)
  · exact ended

end VideoIngest.H265
