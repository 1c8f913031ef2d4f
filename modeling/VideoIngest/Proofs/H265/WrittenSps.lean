import VideoIngest.H265.Sps
import VideoIngest.Proofs.Bits.Gives

/-!
Sequence parameter sets as an encoder writes them (ITU-T H.265, 7.3.2.2), and what reading makes of
them: the values that were written, or a refusal where one of them is out of range.
-/

namespace VideoIngest.H265

/-! ### The values of a set -/

/-- A number that has an Exp-Golomb code of at most 63 bits. -/
abbrev UeValue := Fin (Number.wordBound32 - 1)

structure GeneralProfile where
  spaceAndTier : BitVec 3
  profileIdc : BitVec 5
  compatibility : BitVec 32
  source : BitVec 4
  constraints : BitVec 44
  levelIdc : BitVec 8

structure SubLayer where
  profile : Option (BitVec 88)
  level : Option (BitVec 8)

structure WindowOffsets where
  left : UeValue
  right : UeValue
  top : UeValue
  bottom : UeValue

structure WrittenSps where
  vpsId : BitVec 4
  temporalNesting : Bool
  general : GeneralProfile
  /-- The sub-layers below the highest one. -/
  subLayers : List SubLayer
  countFits : subLayers.length < 8
  reserved : BitVec (2 * (8 - subLayers.length))
  id : UeValue
  chromaFormatIdc : UeValue
  /-- Written for chroma format 3 only. -/
  separatePlanes : Bool
  codedWidth : UeValue
  codedHeight : UeValue
  window : Option WindowOffsets

/-! ### The bits -/

def GeneralProfile.bits (general : GeneralProfile) : List Bool :=
  Bits.ofWord general.spaceAndTier ++ Bits.ofWord general.profileIdc ++
    Bits.ofWord general.compatibility ++ Bits.ofWord general.source ++
    Bits.ofWord general.constraints ++ Bits.ofWord general.levelIdc

namespace SubLayer

def flags (layer : SubLayer) : SubLayerFlags where
  hasProfile := layer.profile.isSome
  hasLevel := layer.level.isSome

def flagBits (layer : SubLayer) : List Bool := [layer.profile.isSome, layer.level.isSome]

def bits (layer : SubLayer) : List Bool :=
  layer.profile.elim [] Bits.ofWord ++ layer.level.elim [] Bits.ofWord

end SubLayer

def WindowOffsets.bits (offsets : WindowOffsets) : List Bool :=
  Bits.ueCode offsets.left ++ Bits.ueCode offsets.right ++ Bits.ueCode offsets.top ++
    Bits.ueCode offsets.bottom

namespace WrittenSps

def reservedBits (sps : WrittenSps) : List Bool :=
  if sps.subLayers.length = 0 then [] else Bits.ofWord sps.reserved

def profileTierLevelBits (sps : WrittenSps) : List Bool :=
  sps.general.bits ++ sps.subLayers.flatMap SubLayer.flagBits ++ sps.reservedBits ++
    sps.subLayers.flatMap SubLayer.bits

def separatePlanesBits (sps : WrittenSps) : List Bool :=
  if sps.chromaFormatIdc.val = 3 then [sps.separatePlanes] else []

def windowBits (sps : WrittenSps) : List Bool :=
  match sps.window with
  | none => [false]
  | some offsets => true :: offsets.bits

def bits (sps : WrittenSps) : List Bool :=
  Bits.ofWord sps.vpsId ++ Bits.ofNat 3 sps.subLayers.length ++ [sps.temporalNesting] ++
    sps.profileTierLevelBits ++ Bits.ueCode sps.id ++ Bits.ueCode sps.chromaFormatIdc ++
    sps.separatePlanesBits ++ Bits.ueCode sps.codedWidth ++ Bits.ueCode sps.codedHeight ++
    sps.windowBits

/-- The unit that carries the set: two header bytes, then the escaped payload, in which further
elements and the stop bit follow the window. -/
def unit (sps : WrittenSps) (header : UInt8 × UInt8) (further : List Bool) : Bytes :=
  header.1 :: header.2 :: Escape.insert (Bits.toBytes (sps.bits ++ further ++ [true]))

/-! ### What a set says -/

def chromaArrayType (sps : WrittenSps) : Nat :=
  if sps.chromaFormatIdc.val = 3 ∧ sps.separatePlanes then 0 else sps.chromaFormatIdc

def subWidthC (sps : WrittenSps) : Nat :=
  if sps.chromaArrayType = 1 ∨ sps.chromaArrayType = 2 then 2 else 1

def subHeightC (sps : WrittenSps) : Nat :=
  if sps.chromaArrayType = 1 then 2 else 1

/-- Without a window the offsets are zero. -/
def offsets (sps : WrittenSps) : Window :=
  match sps.window with
  | none => { left := 0, right := 0, top := 0, bottom := 0 }
  | some written => { left := written.left, right := written.right, top := written.top,
                      bottom := written.bottom }

def croppedColumns (sps : WrittenSps) : Nat :=
  sps.subWidthC * (sps.offsets.left + sps.offsets.right)

def croppedRows (sps : WrittenSps) : Nat :=
  sps.subHeightC * (sps.offsets.top + sps.offsets.bottom)

structure IsLegal (sps : WrittenSps) : Prop where
  subLayers : sps.subLayers.length ≤ 6
  id : sps.id.val ≤ 15
  chromaFormatIdc : sps.chromaFormatIdc.val ≤ 3
  width : sps.croppedColumns < sps.codedWidth
  height : sps.croppedRows < sps.codedHeight

def info (sps : WrittenSps) : SpsInfo where
  vpsId := sps.vpsId.toNat
  maxSubLayers := sps.subLayers.length + 1
  profileIdc := sps.general.profileIdc.toNat
  levelIdc := sps.general.levelIdc.toNat
  id := sps.id
  chromaFormatIdc := sps.chromaFormatIdc
  width := sps.codedWidth - sps.croppedColumns
  height := sps.codedHeight - sps.croppedRows

/-- What a reader is told of the set. The first value out of range decides. -/
def outcome (sps : WrittenSps) : Except SpsFault SpsInfo :=
  if 6 < sps.subLayers.length then .error (.outOfRange "sps_max_sub_layers_minus1")
  else if 15 < sps.id.val then .error (.outOfRange "sps_seq_parameter_set_id")
  else if 3 < sps.chromaFormatIdc.val then .error (.outOfRange "chroma_format_idc")
  else if sps.codedWidth < sps.croppedColumns ∨ sps.codedHeight < sps.croppedRows then
    .error (.outOfRange "conf_win_offset")
  else if sps.codedWidth - sps.croppedColumns = 0 ∨ sps.codedHeight - sps.croppedRows = 0 then
    .error (.outOfRange "picture size")
  else .ok sps.info

theorem outcome_eq_ok_iff (sps : WrittenSps) (info : SpsInfo) :
    sps.outcome = .ok info ↔ sps.IsLegal ∧ info = sps.info := by
  unfold outcome
  constructor
  · intro accepted
    split at accepted
    · contradiction
    split at accepted
    · contradiction
    split at accepted
    · contradiction
    split at accepted
    · contradiction
    split at accepted
    · contradiction
    · refine ⟨⟨?_, ?_, ?_, ?_, ?_⟩, (Except.ok.inj accepted).symm⟩ <;> omega
  · rintro ⟨legal, rfl⟩
    obtain ⟨subLayers, id, chroma, width, height⟩ := legal
    rw [if_neg (by omega), if_neg (by omega), if_neg (by omega), if_neg (by omega),
      if_neg (by omega)]

end WrittenSps

/-! ### Reading a written set -/

open BitReader

theorem gives_lifted {α : Type} {reader : BitReader ReadError α} {bits : List Bool} {value : α}
    (read : reader.Gives bits (.ok value)) :
    (liftM reader : BitReader SpsFault α).Gives bits (.ok value) :=
  read.mapError SpsFault.reader

private theorem gives_atMost {reader : BitReader ReadError Nat} {bits : List Bool} {value : Nat}
    (read : reader.Gives bits (.ok value)) (limit : Nat) (field : String) :
    (atMost limit field reader).Gives bits
      (if limit < value then .error (.outOfRange field) else .ok value) := by
  have check : (if limit < value then throw (.outOfRange field) else pure value :
      BitReader SpsFault Nat).Gives []
      (if limit < value then .error (.outOfRange field) else .ok value) := by
    split
    · exact gives_throw _
    · exact gives_pure value
  rw [← List.append_nil bits]
  refine (gives_lifted read).bind ?_
  exact check

private theorem gives_subLayerFlags (layers : List SubLayer) :
    (subLayerFlags layers.length).Gives (layers.flatMap SubLayer.flagBits)
      (.ok (layers.map SubLayer.flags)) := by
  induction layers with
  | nil => exact gives_pure []
  | cons layer rest ih =>
      exact (gives_flag _ _).bind ((gives_flag _ _).bind (ih.map _))

private theorem gives_skipSubLayer (layer : SubLayer) :
    (skipSubLayer layer.flags).Gives layer.bits (.ok ()) := by
  obtain ⟨profile, level⟩ := layer
  have levelRead : (if level.isSome then skip "sub_layer_level_idc" 8 else pure ()).Gives
      (level.elim [] Bits.ofWord) (.ok ()) := by
    cases level with
    | none => exact gives_pure ()
    | some level => exact gives_skip _ level
  cases profile with
  | none => exact levelRead
  | some profile =>
      refine (gives_skip _ profile).bind ?_
      exact levelRead

private theorem gives_skipSubLayers (layers : List SubLayer) :
    ((layers.map SubLayer.flags).forM skipSubLayer).Gives (layers.flatMap SubLayer.bits)
      (.ok ()) := by
  induction layers with
  | nil => exact gives_pure ()
  | cons layer rest ih => exact (gives_skipSubLayer layer).bind ih

private theorem gives_subLayerPadding (sps : WrittenSps) :
    (subLayerPadding sps.subLayers.length).Gives sps.reservedBits (.ok ()) := by
  unfold subLayerPadding WrittenSps.reservedBits
  split
  · exact gives_pure ()
  · exact gives_skip _ sps.reserved

private theorem gives_profileTierLevel (sps : WrittenSps) :
    (profileTierLevel sps.subLayers.length).Gives sps.profileTierLevelBits
      (.ok { profileIdc := sps.general.profileIdc.toNat,
             levelIdc := sps.general.levelIdc.toNat }) := by
  unfold WrittenSps.profileTierLevelBits GeneralProfile.bits
  simp only [List.append_assoc]
  refine (gives_skip _ _).bind ?_
  refine (gives_word _ _).bind ?_
  refine (gives_skip _ _).bind ?_
  refine (gives_skip _ _).bind ?_
  refine (gives_skip _ _).bind ?_
  refine (gives_word _ _).bind ?_
  refine (gives_subLayerFlags _).bind ?_
  refine (gives_subLayerPadding sps).bind ?_
  exact (gives_skipSubLayers _).map _

private theorem gives_separatePlanes (sps : WrittenSps) :
    (if sps.chromaFormatIdc.val = 3 then
        liftM (flag "separate_colour_plane_flag" : BitReader ReadError Bool)
      else pure false : BitReader SpsFault Bool).Gives sps.separatePlanesBits
      (.ok (decide (sps.chromaFormatIdc.val = 3 ∧ sps.separatePlanes))) := by
  unfold WrittenSps.separatePlanesBits
  by_cases three : sps.chromaFormatIdc.val = 3
  · simp only [three, if_true, true_and, Bool.decide_eq_true]
    exact gives_lifted (gives_flag _ _)
  · simp only [three, if_false, false_and, decide_false]
    exact gives_pure false

private theorem gives_conformanceWindow (sps : WrittenSps) :
    conformanceWindow.Gives sps.windowBits (.ok sps.offsets) := by
  unfold WrittenSps.windowBits WrittenSps.offsets
  cases sps.window with
  | none =>
      refine (gives_flag _ false).bind ?_
      exact gives_pure _
  | some offsets =>
      refine (gives_flag _ true).bind ?_
      simp only [List.append_assoc]
      refine (gives_ue _ offsets.left.isLt).bind ?_
      refine (gives_ue _ offsets.right.isLt).bind ?_
      refine (gives_ue _ offsets.top.isLt).bind ?_
      exact (gives_ue _ offsets.bottom.isLt).map _

private theorem chromaStep_eq (sps : WrittenSps) :
    chromaStep sps.chromaFormatIdc (decide (sps.chromaFormatIdc.val = 3 ∧ sps.separatePlanes)) =
      (sps.subWidthC, sps.subHeightC) := by
  unfold WrittenSps.subWidthC WrittenSps.subHeightC WrittenSps.chromaArrayType
  generalize sps.chromaFormatIdc.val = chroma
  match chroma with
  | 0 | 1 | 2 => rfl
  | 3 => cases sps.separatePlanes <;> rfl
  | more + 4 =>
      have notThree : more + 4 ≠ 3 := by omega
      have notTwo : more + 4 ≠ 2 := by omega
      have notOne : more + 4 ≠ 1 := by omega
      simp only [notThree, notTwo, notOne, false_and, decide_false, or_self, if_false]
      rfl

private theorem gives_pictureSize (sps : WrittenSps) (accept : Nat → Nat → SpsInfo) :
    (do
      let width ← remaining sps.codedWidth sps.subWidthC sps.offsets.left sps.offsets.right
      let height ← remaining sps.codedHeight sps.subHeightC sps.offsets.top sps.offsets.bottom
      if width = 0 ∨ height = 0 then throw (.outOfRange "picture size")
      return accept width height : BitReader SpsFault SpsInfo).Gives []
      (if sps.codedWidth < sps.croppedColumns ∨ sps.codedHeight < sps.croppedRows then
        .error (.outOfRange "conf_win_offset")
      else if sps.codedWidth - sps.croppedColumns = 0 ∨ sps.codedHeight - sps.croppedRows = 0 then
        .error (.outOfRange "picture size")
      else .ok (accept (sps.codedWidth - sps.croppedColumns)
        (sps.codedHeight - sps.croppedRows))) := by
  by_cases narrow : sps.codedWidth < sps.croppedColumns
  · have columns : remaining sps.codedWidth sps.subWidthC sps.offsets.left sps.offsets.right =
        .error (.outOfRange "conf_win_offset") := if_neg (Nat.not_le.mpr narrow)
    rw [columns, if_pos (.inl narrow)]
    exact gives_error_bind _
  have columns : remaining sps.codedWidth sps.subWidthC sps.offsets.left sps.offsets.right =
      .ok (sps.codedWidth - sps.croppedColumns) := if_pos (Nat.not_lt.mp narrow)
  rw [columns]
  refine Gives.ok_bind ?_
  by_cases low : sps.codedHeight < sps.croppedRows
  · have rows : remaining sps.codedHeight sps.subHeightC sps.offsets.top sps.offsets.bottom =
        .error (.outOfRange "conf_win_offset") := if_neg (Nat.not_le.mpr low)
    rw [rows, if_pos (.inr low)]
    exact gives_error_bind _
  have rows : remaining sps.codedHeight sps.subHeightC sps.offsets.top sps.offsets.bottom =
      .ok (sps.codedHeight - sps.croppedRows) := if_pos (Nat.not_lt.mp low)
  rw [rows, if_neg (not_or.mpr ⟨narrow, low⟩)]
  refine Gives.ok_bind ?_
  split
  · exact fun _ => rfl
  · exact gives_pure _

theorem gives_sequenceParameterSet (sps : WrittenSps) :
    sequenceParameterSet.Gives sps.bits sps.outcome := by
  unfold WrittenSps.bits WrittenSps.outcome sequenceParameterSet
  simp only [List.append_assoc]
  -- The elements in the order of the syntax. One that is out of range ends the reading.
  refine (gives_lifted (gives_word _ sps.vpsId)).bind ?_
  have fits : sps.subLayers.length < Nat.pow 2 3 := sps.countFits
  have count := gives_atMost (gives_uint "sps_max_sub_layers_minus1" fits) 6
    "sps_max_sub_layers_minus1"
  by_cases many : 6 < sps.subLayers.length
  · rw [if_pos many] at count ⊢
    exact count.bind_error
  rw [if_neg many] at count ⊢
  refine count.bind ?_
  refine (gives_lifted (gives_skip_flag _ sps.temporalNesting)).bind ?_
  refine (gives_lifted (gives_profileTierLevel sps)).bind ?_
  have id := gives_atMost (gives_ue "sps_seq_parameter_set_id" sps.id.isLt) 15
    "sps_seq_parameter_set_id"
  by_cases large : 15 < sps.id.val
  · rw [if_pos large] at id ⊢
    exact id.bind_error
  rw [if_neg large] at id ⊢
  refine id.bind ?_
  have chroma := gives_atMost (gives_ue "chroma_format_idc" sps.chromaFormatIdc.isLt) 3
    "chroma_format_idc"
  by_cases unknown : 3 < sps.chromaFormatIdc.val
  · rw [if_pos unknown] at chroma ⊢
    exact chroma.bind_error
  rw [if_neg unknown] at chroma ⊢
  refine chroma.bind ?_
  refine (gives_separatePlanes sps).ite_bind ?_
  refine (gives_lifted (gives_ue _ sps.codedWidth.isLt)).bind ?_
  refine (gives_lifted (gives_ue _ sps.codedHeight.isLt)).bind ?_
  rw [← List.append_nil sps.windowBits]
  refine (gives_lifted (gives_conformanceWindow sps)).bind ?_
  rw [chromaStep_eq]
  exact gives_pictureSize sps _

/-! ### The unit -/

private theorem remove_unit (sps : WrittenSps) (header : UInt8 × UInt8) (further : List Bool) :
    Escape.remove ((sps.unit header further).drop 2) =
      .ok (Bits.toBytes (sps.bits ++ further ++ [true])) := by
  rw [WrittenSps.unit, List.drop_succ_cons, List.drop_succ_cons, List.drop_zero,
    Escape.remove_insert]

/-- The stop bit alone takes a byte behind the header. -/
private theorem three_le_length_unit (sps : WrittenSps) (header : UInt8 × UInt8)
    (further : List Bool) : 3 ≤ (sps.unit header further).length := by
  have payload := remove_unit sps header further
  cases escaped : (sps.unit header further).drop 2 with
  | nil =>
      rw [escaped] at payload
      have noBytes : [] = Bits.toBytes (sps.bits ++ further ++ [true]) := Except.ok.inj payload
      obtain ⟨filling, packed⟩ := Bits.ofBytes_toBytes_eq_append (sps.bits ++ further ++ [true])
      rw [← noBytes] at packed
      have noBits := List.append_eq_nil_iff.mp packed.symm
      exact absurd noBits.1 (List.append_ne_nil_of_right_ne_nil _ (List.cons_ne_nil _ _))
  | cons byte rest =>
      have long := congrArg List.length escaped
      simp only [List.length_drop, List.length_cons] at long
      omega

theorem spsOfUnit_eq {unit payload : Bytes} (long : 3 ≤ unit.length)
    (removed : Escape.remove (unit.drop 2) = .ok payload) :
    spsOfUnit unit = (sequenceParameterSet (Bits.ofBytes payload)).map Prod.fst := by
  unfold spsOfUnit
  rw [if_neg (Nat.not_lt.mpr long), removed]
  change (sequenceParameterSet (Bits.ofBytes payload) >>= fun read => pure read.1) = _
  cases sequenceParameterSet (Bits.ofBytes payload) <;> rfl

private theorem spsOfUnit_unit (sps : WrittenSps) (header : UInt8 × UInt8) (further : List Bool) :
    spsOfUnit (sps.unit header further) = sps.outcome := by
  obtain ⟨filling, packed⟩ := Bits.ofBytes_toBytes_eq_append (sps.bits ++ further ++ [true])
  have read := gives_sequenceParameterSet sps (further ++ [true] ++ filling)
  rw [spsOfUnit_eq (three_le_length_unit ..) (remove_unit ..), packed, List.append_assoc,
    List.append_assoc, ← List.append_assoc further, read]
  cases sps.outcome <;> rfl

/-- Reading a written unit succeeds exactly when all values are in range, and gives them back. -/
theorem parseSps_unit (sps : WrittenSps) (header : UInt8 × UInt8) (further : List Bool)
    (info : SpsInfo) :
    parseSps (sps.unit header further) = .ok info ↔ sps.IsLegal ∧ info = sps.info := by
  rw [← sps.outcome_eq_ok_iff, parseSps, spsOfUnit_unit]
  cases sps.outcome with
  | error fault =>
      constructor
      · intro accepted
        cases accepted
      · intro accepted
        cases accepted
  | ok read =>
      constructor
      · intro accepted
        exact congrArg Except.ok (Except.ok.inj accepted)
      · intro accepted
        exact congrArg Except.ok (Except.ok.inj accepted)

end VideoIngest.H265
