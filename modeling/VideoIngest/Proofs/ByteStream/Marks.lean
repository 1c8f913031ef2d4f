import Mathlib.Logic.ExistsUnique
import VideoIngest.Proofs.ByteStream.Framing

/-!
Where the units of a byte stream stand.

A stream is cut byte by byte. Seen from each offset for itself, its units are what stands between
the marks 00 00 01, each with its own start code: `ByteStream.scan_finds_marked_units`.
-/

namespace VideoIngest

namespace PlacedUnit

def stop (placed : PlacedUnit) : Nat := placed.start + placed.unit.size

def Covers (placed : PlacedUnit) (offset : Nat) : Prop :=
  placed.start ≤ offset ∧ offset < placed.stop

def behind (count : Nat) (placed : PlacedUnit) : PlacedUnit :=
  { placed with start := count + placed.start }

private theorem stop_behind (count : Nat) (placed : PlacedUnit) :
    (placed.behind count).stop = count + placed.stop := Nat.add_assoc _ _ _

private theorem place_add (count offset : Nat) (units : List NalUnit) :
    place (count + offset) units = (place offset units).map (behind count) := by
  induction units generalizing offset with
  | nil => rfl
  | cons unit rest ih =>
      rw [place, place, List.map_cons, ← ih, Nat.add_assoc]
      rfl

/-! ### Units without gaps -/

private theorem le_start_of_mem_place {offset : Nat} {units : List NalUnit} {placed : PlacedUnit}
    (member : placed ∈ place offset units) : offset ≤ placed.start := by
  induction units generalizing offset with
  | nil => cases member
  | cons unit rest ih =>
      rcases List.mem_cons.mp member with rfl | later
      · exact Nat.le_refl _
      · exact Nat.le_of_add_right_le (ih later)

theorem pairwise_place (offset : Nat) (units : List NalUnit) :
    (place offset units).Pairwise fun earlier later => earlier.stop ≤ later.start := by
  induction units generalizing offset with
  | nil => exact List.Pairwise.nil
  | cons unit rest ih =>
      refine List.pairwise_cons.mpr ⟨?_, ih _⟩
      intro later member
      exact le_start_of_mem_place member

private theorem stop_le_of_mem_place {offset : Nat} {units : List NalUnit} {placed : PlacedUnit}
    (member : placed ∈ place offset units) :
    placed.stop ≤ offset + (units.flatMap NalUnit.bytes).length := by
  induction units generalizing offset with
  | nil => cases member
  | cons unit rest ih =>
      rw [List.flatMap_cons, List.length_append, NalUnit.length_bytes, ← Nat.add_assoc]
      rcases List.mem_cons.mp member with rfl | later
      · exact Nat.le_add_right _ _
      · exact ih later

private theorem exists_covers_of_place {offset position : Nat} {units : List NalUnit}
    (behindStart : offset ≤ position)
    (inside : position < offset + (units.flatMap NalUnit.bytes).length) :
    ∃ placed ∈ place offset units, placed.Covers position := by
  induction units generalizing offset with
  | nil =>
      rw [List.flatMap_nil, List.length_nil] at inside
      omega
  | cons unit rest ih =>
      rw [List.flatMap_cons, List.length_append, NalUnit.length_bytes, ← Nat.add_assoc] at inside
      by_cases inFirst : position < offset + unit.size
      · exact ⟨⟨offset, unit⟩, List.mem_cons_self, behindStart, inFirst⟩
      · obtain ⟨placed, member, covers⟩ := ih (Nat.le_of_not_lt inFirst) inside
        exact ⟨placed, List.mem_cons_of_mem _ member, covers⟩

private theorem eq_of_covers {offset position : Nat} {units : List NalUnit}
    {first second : PlacedUnit}
    (inFirst : first ∈ place offset units) (inSecond : second ∈ place offset units)
    (firstCovers : first.Covers position) (secondCovers : second.Covers position) :
    first = second := by
  obtain ⟨firstBegins, firstEnds⟩ := firstCovers
  obtain ⟨secondBegins, secondEnds⟩ := secondCovers
  induction units generalizing offset with
  | nil => cases inFirst
  | cons unit rest ih =>
      rcases List.mem_cons.mp inFirst with rfl | firstLater
      · rcases List.mem_cons.mp inSecond with rfl | secondLater
        · rfl
        · have behindFirst := le_start_of_mem_place secondLater
          exact absurd (Nat.lt_of_lt_of_le firstEnds behindFirst) (Nat.not_lt.mpr secondBegins)
      · rcases List.mem_cons.mp inSecond with rfl | secondLater
        · have behindSecond := le_start_of_mem_place firstLater
          exact absurd (Nat.lt_of_lt_of_le secondEnds behindSecond) (Nat.not_lt.mpr firstBegins)
        · exact ih firstLater secondLater

end PlacedUnit

namespace ByteStream

/-! ### Marks -/

/-- The offsets at which 00 00 01 stands. -/
def marks (data : Bytes) : List Nat :=
  (List.range data.length).filter fun offset => StartCode.short.bytes <+: data.drop offset

/-- Where the start code of a mark begins. A zero in front of the mark belongs to it. -/
def codeStart (data : Bytes) (mark : Nat) : Nat :=
  if 0 < mark ∧ data[mark - 1]? = some 0 then mark - 1 else mark

def codeFrom (data : Bytes) (offset : Nat) : Nat :=
  match (marks data).find? fun mark => offset ≤ mark with
  | none => data.length
  | some mark => codeStart data mark

def payloadEnd (data : Bytes) (mark : Nat) : Nat := codeFrom data (mark + 1)

def unitAt (data : Bytes) (mark : Nat) : PlacedUnit where
  start := codeStart data mark
  unit :=
    { startCode := if codeStart data mark = mark then .short else .long
      payload := (data.take (payloadEnd data mark)).drop (mark + 3) }

theorem payloadStart_unitAt (data : Bytes) (mark : Nat) :
    (unitAt data mark).payloadStart = mark + 3 := by
  unfold PlacedUnit.payloadStart unitAt codeStart
  dsimp only
  split
  · rename_i behindZero
    rw [if_neg (by omega), StartCode.size]
    omega
  · rw [if_pos rfl, StartCode.size]

theorem mem_marks {data : Bytes} {mark : Nat} :
    mark ∈ marks data ↔ StartCode.short.bytes <+: data.drop mark := by
  unfold marks
  rw [List.mem_filter, List.mem_range, decide_eq_true_eq, and_iff_right_iff_imp]
  intro isMark
  have three := isMark.length_le
  rw [List.length_drop, StartCode.length_bytes, StartCode.size] at three
  omega

/-! ### More bytes in front -/

section

variable {front back : Bytes} {mark offset : Nat}

theorem marks_append (front back : Bytes) :
    marks (front ++ back) =
      ((List.range front.length).filter fun offset =>
        StartCode.short.bytes <+: (front ++ back).drop offset) ++
          (marks back).map (front.length + ·) := by
  unfold marks
  rw [List.length_append, List.range_add, List.filter_append, List.filter_map]
  congr 2
  apply List.filter_congr
  intro offset _
  rw [Function.comp_apply, List.drop_length_add_append]

theorem codeStart_append (apart : mark = 0 → front.getLast? ≠ some 0) :
    codeStart (front ++ back) (front.length + mark) = front.length + codeStart back mark := by
  unfold codeStart
  cases mark with
  | zero =>
      have atBegin : ¬(0 < 0 ∧ back[0 - 1]? = some 0) := fun behindZero =>
        Nat.lt_irrefl 0 behindZero.1
      rw [if_neg atBegin, if_neg]
      rintro ⟨hasFront, isZero⟩
      rw [Nat.add_zero] at hasFront isZero
      rw [List.getElem?_append_left (Nat.sub_one_lt (Nat.ne_of_gt hasFront)),
        ← List.getLast?_eq_getElem?] at isZero
      exact apart rfl isZero
  | succ before =>
      have there : (front ++ back)[front.length + (before + 1) - 1]? = back[before]? := by
        rw [← Nat.add_assoc, Nat.add_sub_cancel, List.getElem?_append_right (Nat.le_add_right _ _),
          Nat.add_sub_cancel_left]
      rw [there, Nat.add_sub_cancel]
      by_cases behindZero : back[before]? = some 0
      · rw [if_pos ⟨by omega, behindZero⟩, if_pos ⟨by omega, behindZero⟩]
        omega
      · rw [if_neg (behindZero ·.2), if_neg (behindZero ·.2)]

/-- Where no mark of the front stands at or behind the offset, the search goes on in the back. -/
theorem codeFrom_append (apart : StartCode.short.bytes <+: back → front.getLast? ≠ some 0)
    (passed : ∀ mark ∈ marks (front ++ back), mark < front.length → mark < offset) :
    codeFrom (front ++ back) offset = front.length + codeFrom back (offset - front.length) := by
  have noneInFront : ((List.range front.length).filter fun offset =>
      StartCode.short.bytes <+: (front ++ back).drop offset).find? (fun mark => offset ≤ mark) =
        none := by
    rw [List.find?_eq_none]
    intro mark member
    obtain ⟨inFront, isMark⟩ := List.mem_filter.mp member
    have before := passed mark (mem_marks.mpr (of_decide_eq_true isMark)) (List.mem_range.mp inFront)
    simpa using before
  have sameSearch : ((fun mark => decide (offset ≤ mark)) ∘ (front.length + ·)) =
      fun mark => decide (offset - front.length ≤ mark) := by
    funext mark
    rw [Function.comp_apply, decide_eq_decide]
    omega
  unfold codeFrom
  rw [marks_append, List.find?_append, noneInFront, Option.none_or, List.find?_map, sameSearch]
  cases found : (marks back).find? fun mark => decide (offset - front.length ≤ mark) with
  | none => exact List.length_append
  | some mark =>
      rw [Option.map_some]
      apply codeStart_append
      rintro rfl
      exact apart (mem_marks.mp (List.mem_of_find?_eq_some found))

theorem payloadEnd_append (apart : StartCode.short.bytes <+: back → front.getLast? ≠ some 0) :
    payloadEnd (front ++ back) (front.length + mark) = front.length + payloadEnd back mark := by
  unfold payloadEnd
  rw [codeFrom_append apart (fun other _ inFront => by omega), Nat.add_assoc,
    Nat.add_sub_cancel_left]

theorem unitAt_append (apart : StartCode.short.bytes <+: back → front.getLast? ≠ some 0)
    (member : mark ∈ marks back) :
    unitAt (front ++ back) (front.length + mark) = (unitAt back mark).behind front.length := by
  have sameStart : codeStart (front ++ back) (front.length + mark) =
      front.length + codeStart back mark := by
    apply codeStart_append
    rintro rfl
    exact apart (mem_marks.mp member)
  unfold unitAt PlacedUnit.behind
  simp only [sameStart, payloadEnd_append apart, Nat.add_left_cancel_iff, Nat.add_assoc,
    List.take_length_add_append, List.drop_length_add_append]

end

/-! ### The units of all marks -/

/-- A stream is read from its front: an empty one, a start code with what follows it, or a byte at
which no start code begins. -/
private theorem induction_from_front {motive : Bytes → Prop} (nil : motive [])
    (code : ∀ (startCode : StartCode) (payload : Bytes), motive payload →
      motive (startCode.bytes ++ payload))
    (other : ∀ (byte : UInt8) (rest : Bytes),
      (∀ startCode : StartCode, ¬startCode.bytes <+: byte :: rest) → motive rest →
        motive (byte :: rest))
    (data : Bytes) : motive data := by
  induction length : data.length using Nat.strongRecOn generalizing data with
  | ind count ih =>
      cases data with
      | nil => exact nil
      | cons byte rest =>
          by_cases begins : ∃ startCode : StartCode, startCode.bytes <+: byte :: rest
          · obtain ⟨startCode, payload, framed⟩ := begins
            rw [← framed]
            refine code startCode payload (ih payload.length ?_ payload rfl)
            rw [← length, ← framed, List.length_append, StartCode.length_bytes]
            cases startCode <;> simp [StartCode.size]
          · refine other byte rest (not_exists.mp begins) (ih rest.length ?_ rest rfl)
            rw [← length, List.length_cons]
            exact Nat.lt_succ_self _

private theorem ofBytes_code (startCode : StartCode) (payload : Bytes) :
    ofBytes (startCode.bytes ++ payload) =
      ⟨[], ⟨startCode, (ofBytes payload).lead⟩ :: (ofBytes payload).units⟩ := by
  cases startCode <;> rfl

private theorem ofBytes_other {byte : UInt8} {rest : Bytes}
    (noCode : ∀ startCode : StartCode, ¬startCode.bytes <+: byte :: rest) :
    ofBytes (byte :: rest) = ⟨byte :: (ofBytes rest).lead, (ofBytes rest).units⟩ := by
  have ownBytes := bytes_ofBytes rest
  rw [ofBytes_cons]
  cases cut : ofBytes rest with
  | mk lead units =>
      rw [cut] at ownBytes
      apply prepend_eq_cons
      · rintro payload rfl rfl
        exact noCode .short ⟨payload ++ units.flatMap NalUnit.bytes, congrArg (0 :: ·) ownBytes⟩
      · rintro payload others rfl rfl rfl
        refine noCode .long ⟨payload ++ others.flatMap NalUnit.bytes, ?_⟩
        exact congrArg (0 :: ·) ownBytes

def markOf : StartCode → Nat
  | .short => 0
  | .long => 1

private theorem marks_code (startCode : StartCode) (payload : Bytes) :
    marks (startCode.bytes ++ payload) =
      markOf startCode :: (marks payload).map (startCode.bytes.length + ·) := by
  rw [marks_append]
  cases startCode <;> simp [StartCode.bytes, markOf, List.range_succ]

private theorem marks_other {byte : UInt8} {rest : Bytes}
    (noCode : ∀ startCode : StartCode, ¬startCode.bytes <+: byte :: rest) :
    marks (byte :: rest) = (marks rest).map (1 + ·) := by
  have appended := marks_append [byte] rest
  have noMark := noCode .short
  simpa [List.range_succ, noMark] using appended

/-- The cut of the stream and its marks say the same of its units. -/
structure MarksAgree (data : Bytes) : Prop where
  units : PlacedUnit.place (ofBytes data).lead.length (ofBytes data).units =
    (marks data).map (unitAt data)
  lead : codeFrom data 0 = (ofBytes data).lead.length
  ends : ∀ mark ∈ marks data, (unitAt data mark).stop = payloadEnd data mark

private theorem take_lead (data : Bytes) :
    data.take (ofBytes data).lead.length = (ofBytes data).lead := by
  have begins : (ofBytes data).lead <+: data :=
    ⟨(ofBytes data).units.flatMap NalUnit.bytes, bytes_ofBytes data⟩
  exact (List.prefix_iff_eq_take.mp begins).symm

/-- Bytes in front move the units on, unless they lengthen the first start code. -/
private theorem MarksAgree.behind {front back : Bytes} (agree : MarksAgree back)
    (apart : StartCode.short.bytes <+: back → front.getLast? ≠ some 0) :
    ((marks back).map (front.length + ·)).map (unitAt (front ++ back)) =
        PlacedUnit.place (front.length + (ofBytes back).lead.length) (ofBytes back).units ∧
      ∀ mark ∈ (marks back).map (front.length + ·),
        (unitAt (front ++ back) mark).stop = payloadEnd (front ++ back) mark := by
  constructor
  · rw [PlacedUnit.place_add, agree.units, List.map_map, List.map_map]
    exact List.map_congr_left fun mark member => unitAt_append apart member
  · intro mark member
    obtain ⟨own, inBack, rfl⟩ := List.mem_map.mp member
    rw [unitAt_append apart inBack, PlacedUnit.stop_behind, agree.ends own inBack,
      payloadEnd_append apart]

private theorem unitAt_markOf {startCode : StartCode} {payload : Bytes} {size : Nat}
    (ends : payloadEnd (startCode.bytes ++ payload) (markOf startCode) =
      startCode.bytes.length + size) :
    unitAt (startCode.bytes ++ payload) (markOf startCode) =
      ⟨0, startCode, payload.take size⟩ := by
  unfold unitAt
  rw [ends, List.take_length_add_append]
  cases startCode with
  | short => rfl
  | long => rfl

private theorem MarksAgree.code {payload : Bytes} (agree : MarksAgree payload)
    (startCode : StartCode) : MarksAgree (startCode.bytes ++ payload) := by
  have apart : StartCode.short.bytes <+: payload → startCode.bytes.getLast? ≠ some 0 := by
    intro _
    cases startCode <;> decide
  have ends : payloadEnd (startCode.bytes ++ payload) (markOf startCode) =
      startCode.bytes.length + (ofBytes payload).lead.length := by
    unfold payloadEnd
    rw [codeFrom_append apart, ← agree.lead]
    · cases startCode <;> rfl
    · intro mark member inFront
      rw [marks_code] at member
      rcases List.mem_cons.mp member with rfl | behindCode
      · exact Nat.lt_succ_self _
      · obtain ⟨other, _, rfl⟩ := List.mem_map.mp behindCode
        omega
  have first : unitAt (startCode.bytes ++ payload) (markOf startCode) =
      ⟨0, startCode, (ofBytes payload).lead⟩ := by
    rw [unitAt_markOf ends, take_lead]
  obtain ⟨units, stops⟩ := agree.behind apart
  refine ⟨?_, ?_, ?_⟩
  · rw [ofBytes_code, marks_code, List.map_cons, first, units, PlacedUnit.place, List.length_nil,
      NalUnit.size, StartCode.length_bytes, Nat.zero_add]
  · rw [ofBytes_code]
    unfold codeFrom
    rw [marks_code, List.find?_cons_of_pos (by simp)]
    exact congrArg PlacedUnit.start first
  · rw [marks_code]
    refine List.forall_mem_cons.mpr ⟨?_, stops⟩
    rw [first, ends, StartCode.length_bytes]
    exact Nat.zero_add _

private theorem MarksAgree.other {byte : UInt8} {rest : Bytes} (agree : MarksAgree rest)
    (noCode : ∀ startCode : StartCode, ¬startCode.bytes <+: byte :: rest) :
    MarksAgree (byte :: rest) := by
  have apart : StartCode.short.bytes <+: rest → [byte].getLast? ≠ some 0 := by
    rintro ⟨payload, rfl⟩ isZero
    obtain rfl : byte = 0 := Option.some.inj isZero
    exact noCode .long ⟨payload, rfl⟩
  obtain ⟨units, stops⟩ := agree.behind apart
  refine ⟨?_, ?_, ?_⟩
  · rw [ofBytes_other noCode, marks_other noCode, List.length_cons, Nat.add_comm]
    exact units.symm
  · rw [ofBytes_other noCode, List.length_cons, ← agree.lead, Nat.add_comm]
    refine codeFrom_append apart ?_
    intro mark member inFront
    change mark ∈ marks (byte :: rest) at member
    rw [marks_other noCode] at member
    obtain ⟨own, _, rfl⟩ := List.mem_map.mp member
    rw [List.length_singleton] at inFront
    omega
  · rw [marks_other noCode]
    exact stops

theorem marksAgree (data : Bytes) : MarksAgree data := by
  induction data using induction_from_front with
  | nil => exact ⟨rfl, rfl, nofun⟩
  | code startCode payload ih => exact ih.code startCode
  | other byte rest noCode ih => exact ih.other noCode

/-! ### The units that are scanned -/

variable {data : Bytes}

private theorem add_length_payload_unitAt {mark : Nat} (member : mark ∈ marks data) :
    mark + 3 + (unitAt data mark).unit.payload.length = payloadEnd data mark := by
  rw [← (marksAgree data).ends mark member, ← payloadStart_unitAt data mark]
  exact Nat.add_assoc _ _ _

theorem scan_eq_map_unitAt (data : Bytes) :
    PlacedUnit.scan data =
      ((marks data).filter fun mark => mark + 3 < payloadEnd data mark).map (unitAt data) := by
  unfold PlacedUnit.scan
  dsimp only
  rw [(marksAgree data).units, List.filter_map]
  congr 1
  apply List.filter_congr
  intro mark member
  have length := add_length_payload_unitAt member
  rw [Function.comp_apply, Bool.eq_iff_iff, decide_eq_true_eq, Bool.not_eq_true',
    List.isEmpty_eq_false_iff, ← List.length_pos_iff]
  omega

theorem mem_scan_iff {placed : PlacedUnit} :
    placed ∈ PlacedUnit.scan data ↔
      ∃ mark ∈ marks data, mark + 3 < payloadEnd data mark ∧ unitAt data mark = placed := by
  simp only [scan_eq_map_unitAt, List.mem_map, List.mem_filter, decide_eq_true_eq, and_assoc]

theorem mem_place_iff {placed : PlacedUnit} :
    placed ∈ PlacedUnit.place (ofBytes data).lead.length (ofBytes data).units ↔
      ∃ mark ∈ marks data, unitAt data mark = placed := by
  rw [(marksAgree data).units, List.mem_map]

theorem mem_place_of_mem_scan {placed : PlacedUnit} (member : placed ∈ PlacedUnit.scan data) :
    placed ∈ PlacedUnit.place (ofBytes data).lead.length (ofBytes data).units :=
  (List.mem_filter.mp member).1

theorem covers_unitAt_iff {mark offset : Nat} (member : mark ∈ marks data) :
    (unitAt data mark).Covers offset ↔
      codeStart data mark ≤ offset ∧ offset < payloadEnd data mark := by
  rw [PlacedUnit.Covers, (marksAgree data).ends mark member]
  rfl

theorem length_eq (data : Bytes) :
    data.length = (ofBytes data).lead.length +
      ((ofBytes data).units.flatMap NalUnit.bytes).length := by
  conv => lhs; rw [← bytes_ofBytes data, bytes, List.length_append]

private theorem codeless_of_mem_scan {placed : PlacedUnit}
    (member : placed ∈ PlacedUnit.scan data) : Codeless placed.unit.payload := by
  have scanned : placed.unit ∈ NalUnit.scan data := by
    rw [← PlacedUnit.map_unit_scan]
    exact List.mem_map_of_mem member
  exact (NalUnit.isPayload_of_mem_scan scanned).2

/-- A byte behind the first start code is one of exactly one unit that is scanned, unless it is one
of the start code of an empty unit. -/
theorem existsUnique_covers_iff {offset : Nat} (behind : codeFrom data 0 ≤ offset)
    (inside : offset < data.length) :
    (∃! placed, placed ∈ PlacedUnit.scan data ∧ placed.Covers offset) ↔
      ¬∃ mark ∈ marks data, payloadEnd data mark = mark + 3 ∧
        codeStart data mark ≤ offset ∧ offset < mark + 3 := by
  constructor
  · rintro ⟨scanned, ⟨member, covers⟩, _⟩ ⟨mark, isMark, isEmpty, begins, ends⟩
    rw [← isEmpty] at ends
    have alsoCovers := (covers_unitAt_iff isMark).mpr ⟨begins, ends⟩
    obtain ⟨own, _, notEmpty, same⟩ := mem_scan_iff.mp member
    have sameUnit : unitAt data own = unitAt data mark :=
      same.trans (PlacedUnit.eq_of_covers (mem_place_of_mem_scan member)
        (mem_place_iff.mpr ⟨mark, isMark, rfl⟩) covers alsoCovers)
    have sameMark := congrArg PlacedUnit.payloadStart sameUnit
    rw [payloadStart_unitAt, payloadStart_unitAt, Nat.add_right_cancel_iff] at sameMark
    rw [sameMark, isEmpty] at notEmpty
    exact Nat.lt_irrefl _ notEmpty
  · intro noEmpty
    rw [(marksAgree data).lead] at behind
    rw [length_eq data] at inside
    obtain ⟨covering, placed, covers⟩ := PlacedUnit.exists_covers_of_place behind inside
    obtain ⟨mark, isMark, rfl⟩ := mem_place_iff.mp placed
    have length := add_length_payload_unitAt isMark
    obtain ⟨begins, ends⟩ := (covers_unitAt_iff isMark).mp covers
    have notEmpty : mark + 3 < payloadEnd data mark := by
      refine Nat.lt_of_le_of_ne (by omega) ?_
      intro isEmpty
      exact noEmpty ⟨mark, isMark, isEmpty.symm, begins, isEmpty ▸ ends⟩
    refine ⟨unitAt data mark, ⟨mem_scan_iff.mpr ⟨mark, isMark, notEmpty, rfl⟩, covers⟩, ?_⟩
    rintro other ⟨member, otherCovers⟩
    exact PlacedUnit.eq_of_covers (mem_place_of_mem_scan member) placed otherCovers covers

/-- The units that are scanned are those of the marks, in their order, as far as there is anything
between the start code of a mark and the next one. They lie in the data one behind the other and
have no start code inside; and from the first start code on they leave nothing out but the start
codes of empty units. -/
theorem scan_finds_marked_units (data : Bytes) :
    PlacedUnit.scan data =
        ((marks data).filter fun mark => mark + 3 < payloadEnd data mark).map (unitAt data) ∧
      (∀ mark ∈ marks data, (unitAt data mark).payloadStart = mark + 3 ∧
        (unitAt data mark).stop = payloadEnd data mark) ∧
      (∀ placed ∈ PlacedUnit.scan data,
        placed.stop ≤ data.length ∧ Codeless placed.unit.payload) ∧
      ((PlacedUnit.scan data).Pairwise fun earlier later => earlier.stop ≤ later.start) ∧
      ∀ offset, codeFrom data 0 ≤ offset → offset < data.length →
        ((∃! placed, placed ∈ PlacedUnit.scan data ∧ placed.Covers offset) ↔
          ¬∃ mark ∈ marks data, payloadEnd data mark = mark + 3 ∧
            codeStart data mark ≤ offset ∧ offset < mark + 3) := by
  refine ⟨scan_eq_map_unitAt data, ?_, ?_, ?_, ?_⟩
  · intro mark member
    exact ⟨payloadStart_unitAt data mark, (marksAgree data).ends mark member⟩
  · intro placed member
    refine ⟨?_, codeless_of_mem_scan member⟩
    rw [length_eq data]
    exact PlacedUnit.stop_le_of_mem_place (mem_place_of_mem_scan member)
  · exact (PlacedUnit.pairwise_place _ _).filter _
  · intro offset behind inside
    exact existsUnique_covers_iff behind inside

/-- Two empty units in front of one that is not empty. -/
theorem scan_finds_unit_behind_empty_ones :
    marks [9, 0, 0, 0, 1, 0, 0, 1, 0, 0, 0, 1, 5, 0, 0] = [2, 5, 9] ∧
      PlacedUnit.scan [9, 0, 0, 0, 1, 0, 0, 1, 0, 0, 0, 1, 5, 0, 0] = [⟨8, .long, [5, 0, 0]⟩] ∧
      (¬∃! placed, placed ∈ PlacedUnit.scan [9, 0, 0, 0, 1, 0, 0, 1, 0, 0, 0, 1, 5, 0, 0] ∧
        placed.Covers 6) ∧
      ∃! placed, placed ∈ PlacedUnit.scan [9, 0, 0, 0, 1, 0, 0, 1, 0, 0, 0, 1, 5, 0, 0] ∧
        placed.Covers 13 := by
  obtain ⟨scanned, _, _, _, covered⟩ :=
    scan_finds_marked_units [9, 0, 0, 0, 1, 0, 0, 1, 0, 0, 0, 1, 5, 0, 0]
  have ofEmpty := covered 6 (by decide) (by decide)
  have ofUnit := covered 13 (by decide) (by decide)
  exact ⟨by decide, by rw [scanned]; decide, fun once => ofEmpty.mp once (by decide),
    ofUnit.mpr (by decide)⟩

end ByteStream
end VideoIngest
