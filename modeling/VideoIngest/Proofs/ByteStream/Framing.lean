import VideoIngest.ParameterSets
import VideoIngest.Proofs.ByteStream.Append

/-!
Framing and cutting undo each other.

A stream that was cut from bytes has no start code inside its parts, and no short start code behind
a zero. Such a stream comes back from its bytes: `ByteStream.ofBytes_bytes`.
-/

namespace VideoIngest

/-- There is no start code in the bytes, not even an empty unit. -/
def Codeless (bytes : Bytes) : Prop := ¬StartCode.short.bytes <:+: bytes

instance (bytes : Bytes) : Decidable (Codeless bytes) := inferInstanceAs (Decidable (¬_))

theorem codeless_nil : Codeless [] := by decide

theorem codeless_cons {byte : UInt8} {rest : Bytes} :
    Codeless (byte :: rest) ↔ ¬StartCode.short.bytes <+: byte :: rest ∧ Codeless rest := by
  unfold Codeless
  rw [List.infix_cons_iff, not_or]

namespace ByteStream

/-- No short start code stands behind a zero, which would be its first byte. -/
def Apart (front : Bytes) : List NalUnit → Prop
  | [] => True
  | unit :: rest => (unit.startCode = .short → front.getLast? ≠ some 0) ∧ Apart unit.payload rest

instance decidableApart (front : Bytes) : (units : List NalUnit) → Decidable (Apart front units)
  | [] => .isTrue trivial
  | unit :: rest =>
      have := decidableApart unit.payload rest
      inferInstanceAs (Decidable (_ ∧ _))

structure IsCut (stream : ByteStream) : Prop where
  lead : Codeless stream.lead
  payloads : ∀ unit ∈ stream.units, Codeless unit.payload
  apart : Apart stream.lead stream.units

/-! ### What is cut -/

private theorem Apart.of_getLast? {front back : Bytes} {units : List NalUnit}
    (apart : Apart back units)
    (last : front.getLast? = some 0 → back.getLast? = some 0) : Apart front units := by
  cases units with
  | nil => trivial
  | cons unit rest => exact ⟨fun isShort zero => apart.1 isShort (last zero), apart.2⟩

theorem Apart.of_cons {byte : UInt8} {front : Bytes} {units : List NalUnit}
    (apart : Apart (byte :: front) units) : Apart front units := by
  apply apart.of_getLast?
  intro zero
  rw [List.getLast?_cons, zero]
  rfl

/-- A byte that completes no start code joins the bytes in front of the first unit. -/
private theorem IsCut.cons {byte : UInt8} {lead : Bytes} {units : List NalUnit}
    (cut : IsCut ⟨lead, units⟩) (completesNone : ∀ payload, byte = 0 → lead ≠ 0 :: 1 :: payload)
    (lengthensNone : ∀ payload others, byte = 0 → lead = [] → units ≠ ⟨.short, payload⟩ :: others) :
    IsCut ⟨byte :: lead, units⟩ := by
  refine ⟨codeless_cons.mpr ⟨?_, cut.lead⟩, cut.payloads, ?_⟩
  · rintro ⟨payload, isCode⟩
    obtain ⟨rfl, others⟩ := List.cons.inj isCode
    exact completesNone payload rfl others.symm
  · cases units with
    | nil => trivial
    | cons unit rest =>
        obtain ⟨behindLead, behindUnit⟩ := cut.apart
        refine ⟨?_, behindUnit⟩
        intro isShort
        cases lead with
        | nil =>
            rintro isZero
            obtain ⟨startCode, payload⟩ := unit
            obtain rfl : startCode = .short := isShort
            exact lengthensNone payload rest (Option.some.inj isZero) rfl rfl
        | cons next more =>
            rw [List.getLast?_cons_cons]
            exact behindLead isShort

private theorem IsCut.prepend {stream : ByteStream} (cut : stream.IsCut) (byte : UInt8) :
    (stream.prepend byte).IsCut := by
  unfold ByteStream.prepend
  split
  · have payload := (codeless_cons.mp (codeless_cons.mp cut.lead).2).2
    exact ⟨codeless_nil, List.forall_mem_cons.mpr ⟨payload, cut.payloads⟩, fun _ => nofun,
      cut.apart.of_cons.of_cons⟩
  · have payloads := List.forall_mem_cons.mp cut.payloads
    exact ⟨codeless_nil, List.forall_mem_cons.mpr payloads, fun _ => nofun, cut.apart.2⟩
  · rename_i lead units completesNone lengthensNone
    apply cut.cons
    · rintro payload rfl rfl
      exact completesNone payload rfl rfl
    · rintro payload others rfl rfl rfl
      exact lengthensNone payload others rfl rfl rfl

theorem isCut_ofBytes (data : Bytes) : (ofBytes data).IsCut := by
  induction data with
  | nil => exact ⟨codeless_nil, nofun, trivial⟩
  | cons byte rest ih => exact ih.prepend byte

/-! ### What is framed -/

private theorem ofBytes_codeless {lead : Bytes} (codeless : Codeless lead) :
    ofBytes lead = ⟨lead, []⟩ := by
  induction lead with
  | nil => rfl
  | cons byte rest ih =>
      obtain ⟨noCode, restCodeless⟩ := codeless_cons.mp codeless
      rw [ofBytes_cons, ih restCodeless]
      apply prepend_eq_cons
      · rintro payload rfl rfl
        exact noCode ⟨payload, rfl⟩
      · intro payload others _ _
        exact (List.cons_ne_nil _ _).symm

private theorem startsUnit_bytes {front rest : Bytes} {unit : NalUnit}
    (apart : unit.startCode = .short → front.getLast? ≠ some 0) :
    StartsUnit front (unit.bytes ++ rest) := by
  obtain ⟨startCode, payload⟩ := unit
  cases startCode with
  | short => exact .inr ⟨⟨payload ++ rest, rfl⟩, apart rfl⟩
  | long => exact .inl ⟨payload ++ rest, rfl⟩

private theorem units_ofBytes_bytes (unit : NalUnit) (rest : Bytes) :
    (ofBytes (unit.bytes ++ rest)).units =
      ⟨unit.startCode, (ofBytes (unit.payload ++ rest)).lead⟩ ::
        (ofBytes (unit.payload ++ rest)).units := by
  obtain ⟨startCode, payload⟩ := unit
  cases startCode with
  | short => rfl
  | long => rfl

theorem ofBytes_bytes {stream : ByteStream} (cut : stream.IsCut) : ofBytes stream.bytes = stream := by
  obtain ⟨lead, units⟩ := stream
  -- Each unit is the front of the units behind it, as the lead is of all.
  induction units generalizing lead with
  | nil =>
      change ofBytes (lead ++ []) = _
      rw [List.append_nil, ofBytes_codeless cut.lead]
  | cons unit rest ih =>
      obtain ⟨payload, payloads⟩ := List.forall_mem_cons.mp cut.payloads
      have behind : ofBytes (unit.payload ++ rest.flatMap NalUnit.bytes) = ⟨unit.payload, rest⟩ :=
        ih unit.payload ⟨payload, payloads, cut.apart.2⟩
      change ofBytes (lead ++ (unit.bytes ++ rest.flatMap NalUnit.bytes)) = _
      rw [ofBytes_append (startsUnit_bytes cut.apart.1), ofBytes_codeless cut.lead,
        units_ofBytes_bytes, behind]
      rfl

private theorem apart_of_long {front : Bytes} {units : List NalUnit}
    (long : ∀ unit ∈ units, unit.startCode = .long) : Apart front units := by
  induction units generalizing front with
  | nil => trivial
  | cons unit rest ih =>
      obtain ⟨isLong, restLong⟩ := List.forall_mem_cons.mp long
      refine ⟨?_, ih restLong⟩
      rw [isLong]
      exact nofun

/-- Behind long start codes it only matters what the last of their units ends in. -/
theorem Apart.behind_long {last : Bytes} {units : List NalUnit} (apart : Apart last units)
    (front : Bytes) (payloads : List Bytes) :
    Apart front ((payloads ++ [last]).map (NalUnit.mk .long) ++ units) := by
  induction payloads generalizing front with
  | nil => exact ⟨nofun, apart⟩
  | cons payload rest ih => exact ⟨nofun, ih payload⟩

end ByteStream

/-- The bytes can stand between two start codes and are more than an empty unit. -/
def IsPayload (bytes : Bytes) : Prop := bytes ≠ [] ∧ Codeless bytes

instance (bytes : Bytes) : Decidable (IsPayload bytes) := inferInstanceAs (Decidable (_ ∧ _))

namespace NalUnit

theorem isPayload_of_mem_scan {data : Bytes} {unit : NalUnit} (member : unit ∈ scan data) :
    IsPayload unit.payload := by
  obtain ⟨inStream, hasBytes⟩ := List.mem_filter.mp member
  refine ⟨?_, (ByteStream.isCut_ofBytes data).payloads unit inStream⟩
  rintro empty
  rw [empty] at hasBytes
  contradiction

theorem filter_units_eq_self {units : List NalUnit}
    (payloads : ∀ unit ∈ units, IsPayload unit.payload) :
    (units.filter fun unit => !unit.payload.isEmpty) = units := by
  rw [List.filter_eq_self]
  intro unit member
  simpa using (payloads unit member).1

theorem ofBytes_framed {lead : Bytes} {units : List NalUnit} (codeless : Codeless lead)
    (payloads : ∀ unit ∈ units, IsPayload unit.payload) (apart : ByteStream.Apart lead units) :
    ByteStream.ofBytes (lead ++ units.flatMap bytes) = ⟨lead, units⟩ := by
  have cut : ByteStream.IsCut ⟨lead, units⟩ :=
    ⟨codeless, fun unit member => (payloads unit member).2, apart⟩
  exact ByteStream.ofBytes_bytes cut

theorem scan_units {lead : Bytes} {units : List NalUnit} (codeless : Codeless lead)
    (payloads : ∀ unit ∈ units, IsPayload unit.payload) (apart : ByteStream.Apart lead units) :
    scan (lead ++ units.flatMap bytes) = units := by
  rw [scan, ofBytes_framed codeless payloads apart, filter_units_eq_self payloads]

private theorem placed_units {lead : Bytes} {units : List NalUnit} (codeless : Codeless lead)
    (payloads : ∀ unit ∈ units, IsPayload unit.payload) (apart : ByteStream.Apart lead units) :
    PlacedUnit.scan (lead ++ units.flatMap bytes) = PlacedUnit.place lead.length units := by
  rw [PlacedUnit.scan, ofBytes_framed codeless payloads apart]
  dsimp only
  rw [List.filter_eq_self]
  intro placed member
  have inUnits : placed.unit ∈ units := by
    rw [← PlacedUnit.map_unit_place lead.length units]
    exact List.mem_map_of_mem member
  simpa using (payloads placed.unit inUnits).1

theorem scan_payloads {lead : Bytes} {payloads : List Bytes} (codeless : Codeless lead)
    (fit : ∀ payload ∈ payloads, IsPayload payload) :
    scan (lead ++ payloads.flatMap framed) = payloads.map (NalUnit.mk .long) := by
  have units : payloads.flatMap framed = (payloads.map (NalUnit.mk .long)).flatMap bytes := by
    rw [List.flatMap_map]
    rfl
  rw [units]
  apply scan_units codeless
  · intro unit member
    obtain ⟨payload, inPayloads, rfl⟩ := List.mem_map.mp member
    exact fit payload inPayloads
  · apply ByteStream.apart_of_long
    intro unit member
    obtain ⟨payload, _, rfl⟩ := List.mem_map.mp member
    rfl

/-- Units that were framed come back as they were, with their start codes and in their places,
unless a short start code stands behind a zero; behind long ones there may be any zeros. Whatever
was scanned comes back once more from long start codes. -/
theorem scan_framed :
    (∀ (lead : Bytes) (units : List NalUnit), Codeless lead →
      (∀ unit ∈ units, IsPayload unit.payload) → ByteStream.Apart lead units →
        scan (lead ++ units.flatMap bytes) = units ∧
          PlacedUnit.scan (lead ++ units.flatMap bytes) = PlacedUnit.place lead.length units) ∧
      (∀ (lead : Bytes) (payloads : List Bytes), Codeless lead →
        (∀ payload ∈ payloads, IsPayload payload) →
          scan (lead ++ payloads.flatMap framed) = payloads.map (NalUnit.mk .long)) ∧
      ∀ data : Bytes, scan (((scan data).map NalUnit.payload).flatMap framed) =
        ((scan data).map NalUnit.payload).map (NalUnit.mk .long) := by
  refine ⟨?_, ?_, ?_⟩
  · intro lead units codeless payloads apart
    exact ⟨scan_units codeless payloads apart, placed_units codeless payloads apart⟩
  · intro lead payloads codeless fit
    exact scan_payloads codeless fit
  · intro data
    apply scan_payloads codeless_nil
    intro payload member
    obtain ⟨unit, scanned, rfl⟩ := List.mem_map.mp member
    exact isPayload_of_mem_scan scanned

/-- Zeros behind the lead and behind the first unit stand in front of long start codes. -/
theorem scan_framed_behind_zeros :
    Codeless [9, 0, 0] ∧
      (∀ unit ∈ [NalUnit.mk .long [0x67, 0, 0], ⟨.long, [0x68, 1]⟩, ⟨.short, [0x65]⟩],
        IsPayload unit.payload) ∧
      ByteStream.Apart [9, 0, 0] [⟨.long, [0x67, 0, 0]⟩, ⟨.long, [0x68, 1]⟩, ⟨.short, [0x65]⟩] ∧
      PlacedUnit.scan [9, 0, 0, 0, 0, 0, 1, 0x67, 0, 0, 0, 0, 0, 1, 0x68, 1, 0, 0, 1, 0x65] =
        [⟨3, .long, [0x67, 0, 0]⟩, ⟨10, .long, [0x68, 1]⟩, ⟨16, .short, [0x65]⟩] := by
  have codeless : Codeless [9, 0, 0] := by decide
  have payloads : ∀ unit ∈ [NalUnit.mk .long [0x67, 0, 0], ⟨.long, [0x68, 1]⟩, ⟨.short, [0x65]⟩],
      IsPayload unit.payload := by decide
  have apart : ByteStream.Apart [9, 0, 0]
      [⟨.long, [0x67, 0, 0]⟩, ⟨.long, [0x68, 1]⟩, ⟨.short, [0x65]⟩] := by decide
  exact ⟨codeless, payloads, apart, (scan_framed.1 _ _ codeless payloads apart).2⟩

end NalUnit
end VideoIngest
