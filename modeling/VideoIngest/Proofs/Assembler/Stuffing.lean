import VideoIngest.Proofs.Assembler.Items
import VideoIngest.Proofs.ByteStream.Framing
import VideoIngest.Proofs.Nal.PaddedUnit

/-!
Streams with zeros between their units.

A short start code behind zeros takes the last of them, and the unit in front of it keeps the others.
What the units announce stays the same unless a sequence parameter set minds the zeros it keeps.
-/

namespace VideoIngest

/-- A unit as it was sent, and how many zeros stand behind it. -/
structure StuffedUnit where
  unit : NalUnit
  zeros : Nat
  deriving DecidableEq, Repr

namespace StuffedUnit

def bytes (stuffed : StuffedUnit) : Bytes :=
  stuffed.unit.bytes ++ List.replicate stuffed.zeros 0

/-- The unit can stand between two start codes, and its last byte is none of the zeros behind it. -/
structure Fits (stuffed : StuffedUnit) : Prop where
  payload : IsPayload stuffed.unit.payload
  last : stuffed.unit.payload.getLast? ≠ some 0

/-- How many zeros the start code of the next unit takes. -/
def taken : List StuffedUnit → Nat
  | [] => 0
  | next :: _ => match next.unit.startCode with
    | .short => 1
    | .long => 0

private theorem taken_le_one (units : List StuffedUnit) : taken units ≤ 1 := by
  unfold taken
  split
  · exact Nat.zero_le 1
  · split <;> decide

def kept (stuffed : StuffedUnit) (behind : List StuffedUnit) : Nat := stuffed.zeros - taken behind

def found : Bool → List StuffedUnit → List NalUnit
  | _, [] => []
  | behindZero, stuffed :: rest =>
      { startCode := if behindZero then .long else stuffed.unit.startCode
        payload := stuffed.unit.payload ++ List.replicate (stuffed.kept rest) 0 } ::
        found (decide (0 < stuffed.zeros)) rest

/-! ### Cutting -/

private theorem codeless_append_zeros {payload : Bytes} (codeless : Codeless payload)
    (count : Nat) : Codeless (payload ++ List.replicate count 0) := by
  induction count with
  | zero => simpa using codeless
  | succ count ih =>
      rw [List.replicate_succ', ← List.append_assoc]
      intro code
      rcases List.infix_concat_iff.mp code with isSuffix | inside
      · obtain ⟨front, same⟩ := isSuffix
        have last := congrArg List.getLast? same
        simp [StartCode.bytes] at last
      · exact ih inside

private theorem bytes_found (units : List StuffedUnit) (behindZero : Bool) :
    (found behindZero units).flatMap NalUnit.bytes =
      List.replicate (if behindZero then taken units else 0) 0 ++ units.flatMap bytes := by
  induction units generalizing behindZero with
  | nil => cases behindZero <;> rfl
  | cons stuffed rest ih =>
      have code : (if behindZero then .long else stuffed.unit.startCode : StartCode).bytes =
          List.replicate (if behindZero then taken (stuffed :: rest) else 0) 0 ++
            stuffed.unit.startCode.bytes := by
        cases behindZero with
        | false => rfl
        | true => cases code : stuffed.unit.startCode <;> simp [taken, code, StartCode.bytes]
      have zeros : List.replicate (stuffed.kept rest) (0 : UInt8) ++
          List.replicate (if 0 < stuffed.zeros then taken rest else 0) 0 =
            List.replicate stuffed.zeros 0 := by
        have atMostOne := taken_le_one rest
        rw [← List.replicate_add]
        congr 1
        unfold kept
        split <;> omega
      simp only [found, List.flatMap_cons, NalUnit.bytes, code, ih, bytes, ← zeros,
        decide_eq_true_eq, List.append_assoc]

private theorem isPayload_of_mem_found {units : List StuffedUnit} (fits : ∀ unit ∈ units, unit.Fits)
    {behindZero : Bool} {unit : NalUnit} (member : unit ∈ found behindZero units) :
    IsPayload unit.payload := by
  induction units generalizing behindZero with
  | nil => cases member
  | cons stuffed rest ih =>
      obtain ⟨first, others⟩ := List.forall_mem_cons.mp fits
      rcases List.mem_cons.mp member with rfl | inRest
      · exact ⟨List.append_ne_nil_of_left_ne_nil first.payload.1 _,
          codeless_append_zeros first.payload.2 _⟩
      · exact ih others inRest

private theorem apart_found {units : List StuffedUnit} (fits : ∀ unit ∈ units, unit.Fits)
    {behindZero : Bool} {front : Bytes} (behind : front.getLast? = some 0 → behindZero = true) :
    ByteStream.Apart front (found behindZero units) := by
  induction units generalizing behindZero front with
  | nil => trivial
  | cons stuffed rest ih =>
      obtain ⟨first, others⟩ := List.forall_mem_cons.mp fits
      constructor
      · intro isShort zero
        rw [behind zero] at isShort
        cases isShort
      · apply ih others
        intro zero
        rw [decide_eq_true_iff]
        apply Nat.pos_of_ne_zero
        intro noZeros
        apply first.last
        simpa [kept, noZeros] using zero

private theorem scan_stuffed {units : List StuffedUnit} (fits : ∀ unit ∈ units, unit.Fits) :
    NalUnit.scan (units.flatMap bytes) = found false units := by
  have apart : ByteStream.Apart [] (found false units) := apart_found fits nofun
  have cut := NalUnit.scan_units codeless_nil (fun _ => isPayload_of_mem_found fits) apart
  rwa [bytes_found] at cut

private theorem apart_units {units : List StuffedUnit} (fits : ∀ unit ∈ units, unit.Fits)
    {front : Bytes}
    (last : front.getLast? ≠ some 0) : ByteStream.Apart front (units.map StuffedUnit.unit) := by
  induction units generalizing front with
  | nil => trivial
  | cons stuffed rest ih =>
      obtain ⟨first, others⟩ := List.forall_mem_cons.mp fits
      exact ⟨fun _ => last, ih others first.last⟩

theorem scan_units {units : List StuffedUnit} (fits : ∀ unit ∈ units, unit.Fits) :
    NalUnit.scan (units.flatMap fun stuffed => stuffed.unit.bytes) =
      units.map StuffedUnit.unit := by
  have payloads : ∀ unit ∈ units.map StuffedUnit.unit, IsPayload unit.payload := by
    intro unit member
    obtain ⟨stuffed, inUnits, rfl⟩ := List.mem_map.mp member
    exact (fits stuffed inUnits).payload
  have cut := NalUnit.scan_units codeless_nil payloads (apart_units fits nofun)
  rwa [List.flatMap_map] at cut

/-! ### Formats -/

private theorem filterMap_cons_toList {α β : Type} (function : α → Option β) (item : α)
    (rest : List α) :
    (item :: rest).filterMap function = (function item).toList ++ rest.filterMap function := by
  rw [List.filterMap_cons]
  cases function item <;> rfl

theorem toList_append_eq_iff {α : Type} {first other : Option α} {rest others : List α}
    (stays : first = none → other = none) (longer : others.length ≤ rest.length) :
    first.toList ++ rest = other.toList ++ others ↔ first = other ∧ rest = others := by
  cases first with
  | none => simp [stays rfl]
  | some value =>
      cases other with
      | none =>
          constructor
          · intro same
            have lengths := congrArg List.length same
            simp at lengths
            omega
          · rintro ⟨impossible, _⟩
            cases impossible
      | some _ => simp

private theorem exists_mem_found (before : List StuffedUnit) (stuffed : StuffedUnit)
    (behind : List StuffedUnit) (behindZero : Bool) :
    ∃ startCode,
      ⟨startCode, stuffed.unit.payload ++ List.replicate (stuffed.kept behind) 0⟩ ∈
        found behindZero (before ++ stuffed :: behind) := by
  induction before generalizing behindZero with
  | nil => exact ⟨_, List.mem_cons_self⟩
  | cons first rest ih =>
      obtain ⟨startCode, member⟩ := ih (decide (0 < first.zeros))
      exact ⟨startCode, List.mem_cons_of_mem _ member⟩

def foundFormats (codec : NalCodec) (behindZero : Bool) (units : List StuffedUnit) :
    List VideoFormat :=
  (found behindZero units).filterMap fun unit => codec.format? unit.payload

def sentFormats (codec : NalCodec) (units : List StuffedUnit) : List VideoFormat :=
  units.filterMap fun stuffed => codec.format? stuffed.unit.payload

/-- With the zeros there are at least as many formats as without. -/
theorem length_sentFormats_le (codec : NalCodec) {units : List StuffedUnit}
    (fits : ∀ unit ∈ units, unit.Fits) (behindZero : Bool) :
    (sentFormats codec units).length ≤ (foundFormats codec behindZero units).length := by
  induction units generalizing behindZero with
  | nil => exact Nat.le_refl 0
  | cons stuffed rest ih =>
      obtain ⟨first, others⟩ := List.forall_mem_cons.mp fits
      have behind := ih others (decide (0 < stuffed.zeros))
      unfold sentFormats foundFormats at behind ⊢
      simp only [found, filterMap_cons_toList, List.length_append]
      cases padded : codec.format? (stuffed.unit.payload ++ List.replicate (stuffed.kept rest) 0) with
      | none =>
          rw [NalCodec.format?_eq_none_of_append_zeros first.payload.1 padded]
          simpa using behind
      | some format => cases codec.format? stuffed.unit.payload <;> simp <;> omega

/-- The formats stay the same where each unit by itself announces the same format. -/
theorem foundFormats_eq_iff (codec : NalCodec) {units : List StuffedUnit}
    (fits : ∀ unit ∈ units, unit.Fits) (behindZero : Bool) :
    foundFormats codec behindZero units = sentFormats codec units ↔
      ∀ before stuffed behind, units = before ++ stuffed :: behind →
        codec.OpensSps stuffed.unit.payload →
          codec.Withstands stuffed.unit.payload (stuffed.kept behind) := by
  induction units generalizing behindZero with
  | nil => exact ⟨fun _ => by simp, fun _ => rfl⟩
  | cons stuffed rest ih =>
      obtain ⟨first, others⟩ := List.forall_mem_cons.mp fits
      have longer := length_sentFormats_le codec others (decide (0 < stuffed.zeros))
      have behind := ih others (decide (0 < stuffed.zeros))
      unfold sentFormats foundFormats at behind longer ⊢
      simp only [found, filterMap_cons_toList]
      rw [toList_append_eq_iff (NalCodec.format?_eq_none_of_append_zeros first.payload.1) longer,
        NalCodec.format?_append_zeros_iff first.payload.1 first.last, behind]
      constructor
      · rintro ⟨here, later⟩ before other after split
        rcases List.cons_eq_append_iff.mp split with ⟨_, same⟩ | ⟨front, _, same⟩
        · obtain ⟨rfl, rfl⟩ := List.cons.inj same
          exact here
        · exact later front other after same
      · intro all
        constructor
        · exact all [] stuffed rest rfl
        · intro before other after split
          apply all (stuffed :: before) other after
          rw [split, List.cons_append]

end StuffedUnit

def MediaItem.format? : MediaItem → Option VideoFormat
  | format announced => some announced
  | frame _ => none
  | picture _ => none

namespace AnnexB

def formats (items : List MediaItem) : List VideoFormat := items.filterMap MediaItem.format?

private theorem format?_item_onUnit (codec : NalCodec) (timestamp : Nat) (state : InChunk)
    (unit : NalUnit) :
    (onUnit codec timestamp state unit).2.bind MediaItem.format? = codec.format? unit.payload := by
  rw [item_onUnit]
  unfold itemBehind NalCodec.format?
  cases role : codec.roleOfPayload unit.payload with
  | parameterSet kind =>
      cases kind with
      | sps => cases codec.pictureSize unit.payload <;> rfl
      | vps => rfl
      | pps => rfl
  | key => rfl
  | delta => rfl
  | skip => rfl

private theorem formats_onUnits (codec : NalCodec) (timestamp : Nat) (state : InChunk)
    (units : List NalUnit) :
    formats (onUnits codec timestamp state units).2 =
      units.filterMap fun unit => codec.format? unit.payload := by
  induction units generalizing state with
  | nil => rfl
  | cons unit rest ih =>
      have first := format?_item_onUnit codec timestamp state unit
      have others := ih (onUnit codec timestamp state unit).1
      change formats ((onUnit codec timestamp state unit).2.toList ++
        (onUnits codec timestamp (onUnit codec timestamp state unit).1 rest).2) = _
      rw [List.filterMap_cons, ← first, ← others, formats, List.filterMap_append]
      cases (onUnit codec timestamp state unit).2 with
      | none => rfl
      | some item => cases item <;> rfl

private theorem formats_assemble_stuffed (codec : NalCodec) {units : List StuffedUnit}
    (fits : ∀ unit ∈ units, unit.Fits) (kept : AnnexB) (timestamp : Nat) :
    formats (kept.assemble codec (units.flatMap StuffedUnit.bytes) timestamp).2 =
      StuffedUnit.foundFormats codec false units := by
  rw [StuffedUnit.foundFormats, ← StuffedUnit.scan_stuffed fits]
  exact formats_onUnits ..

private theorem formats_assemble_sent (codec : NalCodec) {units : List StuffedUnit}
    (fits : ∀ unit ∈ units, unit.Fits) (kept : AnnexB) (timestamp : Nat) :
    formats (kept.assemble codec (units.flatMap fun stuffed => stuffed.unit.bytes) timestamp).2 =
      StuffedUnit.sentFormats codec units := by
  have units := formats_onUnits codec timestamp ⟨kept, none⟩ (units.map StuffedUnit.unit)
  rw [List.filterMap_map, ← StuffedUnit.scan_units fits] at units
  exact units

/-- Zeros between units leave the formats of a chunk as they are if every sequence parameter set
withstands those that its unit keeps, and otherwise not. A third zero makes the set one that cannot
be read; only an H.265 set that breaks off is made one that can. -/
theorem formats_of_stuffed (codec : NalCodec) (units : List StuffedUnit)
    (fits : ∀ unit ∈ units, unit.Fits) (kept : AnnexB) (timestamp : Nat) :
    (formats (kept.assemble codec (units.flatMap StuffedUnit.bytes) timestamp).2 =
        formats (kept.assemble codec (units.flatMap fun stuffed => stuffed.unit.bytes) timestamp).2 ↔
      ∀ before stuffed behind, units = before ++ stuffed :: behind →
        codec.OpensSps stuffed.unit.payload →
          codec.Withstands stuffed.unit.payload (stuffed.kept behind)) ∧
      ∀ before stuffed behind, units = before ++ stuffed :: behind →
        codec.OpensSps stuffed.unit.payload → codec.headerSize ≤ stuffed.unit.payload.length →
        (3 ≤ stuffed.kept behind → .unknown codec.codec ∈
          formats (kept.assemble codec (units.flatMap StuffedUnit.bytes) timestamp).2) ∧
        ∀ cause size, codec.pictureSize stuffed.unit.payload = .error cause →
          codec.pictureSize
              (stuffed.unit.payload ++ List.replicate (stuffed.kept behind) 0) = .ok size →
            codec = .h265 ∧
              ∃ element, cause = .invalidSps (ReadError.endOfData element).message := by
  rw [formats_assemble_stuffed codec fits, formats_assemble_sent codec fits]
  refine ⟨StuffedUnit.foundFormats_eq_iff codec fits false, ?_⟩
  rintro before stuffed behind rfl opens full
  have last := (fits stuffed (by simp)).last
  constructor
  · intro many
    obtain ⟨startCode, member⟩ := StuffedUnit.exists_mem_found before stuffed behind false
    exact List.mem_filterMap.mpr
      ⟨_, member, NalCodec.format?_append_zeros_of_many opens full last many⟩
  · intro cause size unreadable read
    exact NalCodec.exists_endOfData_of_pictureSize_append_zeros full last unreadable read

def hdSps : NalUnit := ⟨.long, [0x67, 0x42, 0xc0, 0x1f, 0xf4, 2, 0x80, 0x2d, 0xc8]⟩

private theorem fits_hdSps (zeros : Nat) : (StuffedUnit.mk hdSps zeros).Fits :=
  ⟨show IsPayload hdSps.payload by decide, show hdSps.payload.getLast? ≠ some 0 by decide⟩

/-- Of three zeros the set keeps two in front of a short start code, and does not notice them. The
other unit is no such set and may keep any. -/
theorem formats_of_stuffed_keeping_two :
    (∀ unit ∈ [StuffedUnit.mk hdSps 3, ⟨⟨.short, [0x68, 0xce]⟩, 4⟩], unit.Fits) ∧
      formats ((fresh .h264).assemble .h264
          ([StuffedUnit.mk hdSps 3, ⟨⟨.short, [0x68, 0xce]⟩, 4⟩].flatMap StuffedUnit.bytes) 0).2 =
        formats ((fresh .h264).assemble .h264
          ([StuffedUnit.mk hdSps 3, ⟨⟨.short, [0x68, 0xce]⟩, 4⟩].flatMap
            fun stuffed => stuffed.unit.bytes) 0).2 := by
  have fits : ∀ unit ∈ [StuffedUnit.mk hdSps 3, ⟨⟨.short, [0x68, 0xce]⟩, 4⟩], unit.Fits := by
    rw [List.forall_mem_cons, List.forall_mem_singleton]
    exact ⟨fits_hdSps 3, by decide, by decide⟩
  refine ⟨fits, (formats_of_stuffed .h264 _ fits (fresh .h264) 0).1.mpr ?_⟩
  intro before stuffed behind split opens
  rcases List.cons_eq_append_iff.mp split with ⟨_, same⟩ | ⟨front, _, rest⟩
  · obtain ⟨rfl, rfl⟩ := List.cons.inj same
    exact ⟨.inr (by decide), fun _ _ => Nat.le_refl 2, nofun⟩
  · rcases List.cons_eq_append_iff.mp rest with ⟨_, same⟩ | ⟨_, _, none⟩
    · obtain ⟨rfl, rfl⟩ := List.cons.inj same
      cases opens
    · simp at none

/-- A third zero makes it a set of unknown size. -/
theorem formats_of_stuffed_keeping_three :
    (∀ unit ∈ [StuffedUnit.mk hdSps 3], unit.Fits) ∧
      formats ((fresh .h264).assemble .h264 ([StuffedUnit.mk hdSps 3].flatMap StuffedUnit.bytes) 0).2 =
        [.unknown .h264] ∧
      formats ((fresh .h264).assemble .h264
          ([StuffedUnit.mk hdSps 3].flatMap fun stuffed => stuffed.unit.bytes) 0).2 =
        [⟨.h264, 1280, 720⟩] :=
  ⟨by simpa using fits_hdSps 3, by decide +kernel, by decide +kernel⟩

end AnnexB
end VideoIngest
