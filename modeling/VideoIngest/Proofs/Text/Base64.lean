import VideoIngest.Text.Base64
import VideoIngest.Text.Blank

/-!
A text reads as bytes in base 64 only if it is one of the two forms in which they are written.
-/

namespace VideoIngest.Text.Base64

def IsWritten (text : List Char) (bytes : Bytes) : Prop :=
  text = encode bytes ∨ text = encodePadded bytes

variable {text : List Char} {bytes : Bytes}

/-! ### Digits -/

theorem digit_of_digitValue? {c : Char} {value : Nat} (reads : digitValue? c = some value) :
    digit value = c ∧ value < 64 := by
  obtain ⟨inside, same, _⟩ := List.findIdx?_eq_some_iff_getElem.mp reads
  have size : alphabet.length = 64 := by decide
  rw [size] at inside
  refine ⟨?_, inside⟩
  unfold digit
  rw [List.getD_eq_getElem?_getD, List.getElem?_eq_getElem (size.symm ▸ inside)]
  exact eq_of_beq same

private theorem map_digit_of_mapM {text : List Char} {values : List Nat}
    (reads : text.mapM digitValue? = some values) :
    values.map digit = text ∧ ∀ value ∈ values, value < 64 := by
  induction text generalizing values with
  | nil =>
      obtain rfl := Option.some.inj reads
      exact ⟨rfl, nofun⟩
  | cons c rest ih =>
      simp only [List.mapM_cons, Option.bind_eq_bind, Option.bind_eq_some_iff] at reads
      obtain ⟨value, reads, others, readsRest, same⟩ := reads
      obtain rfl := Option.some.inj same
      obtain ⟨sameRest, small⟩ := ih readsRest
      obtain ⟨sameDigit, smallDigit⟩ := digit_of_digitValue? reads
      rw [List.map_cons, sameDigit, sameRest]
      exact ⟨rfl, List.forall_mem_cons.mpr ⟨smallDigit, small⟩⟩

private theorem digitsOfBytes_of_bytesOfDigits {values : List Nat}
    (small : ∀ value ∈ values, value < 64) (reads : bytesOfDigits values = some bytes) :
    digitsOfBytes bytes = values := by
  fun_induction bytesOfDigits values generalizing bytes with
  | case1 =>
      obtain rfl := Option.some.inj reads
      rfl
  | case2 => cases reads
  | case3 a b spare =>
      obtain rfl := Option.some.inj reads
      simp only [List.mem_cons, List.not_mem_nil, or_false, forall_eq_or_imp, forall_eq] at small
      simp only [digitsOfBytes, UInt8.toNat_ofNat', List.cons.injEq, and_true]
      omega
  | case4 => cases reads
  | case5 a b c spare =>
      obtain rfl := Option.some.inj reads
      simp only [List.mem_cons, List.not_mem_nil, or_false, forall_eq_or_imp, forall_eq] at small
      simp only [digitsOfBytes, UInt8.toNat_ofNat', List.cons.injEq, and_true]
      omega
  | case6 => cases reads
  | case7 a b c d rest ih =>
      obtain ⟨others, readsRest, rfl⟩ := Option.map_eq_some_iff.mp reads
      simp only [List.forall_mem_cons] at small
      obtain ⟨smallA, smallB, smallC, smallD, smallRest⟩ := small
      simp only [digitsOfBytes, UInt8.toNat_ofNat', ih smallRest readsRest, List.cons.injEq,
        and_true]
      omega

/-! ### Padding -/

private theorem pads_of_isPadding {tail : List Char}
    (padded : isPadding (encode bytes).length tail = true) :
    tail = [] ∨ tail = List.replicate (padCount bytes) pad := by
  have whole := length_digitsOfBytes bytes
  have few : padCount bytes ≤ 2 := by
    unfold padCount
    omega
  simp only [isPadding, encode, List.length_map, Bool.or_eq_true, Bool.and_eq_true,
    List.isEmpty_iff, List.all_eq_true, beq_iff_eq, decide_eq_true_eq] at padded
  rcases padded with none | ⟨⟨pads, atMost⟩, complete⟩
  · exact .inl none
  · by_cases none : tail = []
    · exact .inl none
    · have some := List.length_pos_iff.mpr none
      right
      rw [List.eq_replicate_iff]
      exact ⟨by omega, pads⟩

theorem decode_eq_some_iff : decode text = some bytes ↔ IsWritten text bytes := by
  constructor
  · intro reads
    unfold decode at reads
    dsimp only at reads
    split at reads
    · rename_i padded
      obtain ⟨values, readsDigits, readsBytes⟩ := Option.bind_eq_some_iff.mp reads
      obtain ⟨sameDigits, small⟩ := map_digit_of_mapM readsDigits
      have written : encode bytes = text.takeWhile (· != pad) := by
        rw [encode, digitsOfBytes_of_bytesOfDigits small readsBytes, sameDigits]
      rw [← written] at padded
      rw [← List.takeWhile_append_dropWhile (p := (· != pad)) (l := text), ← written]
      rcases pads_of_isPadding padded with none | pads
      · rw [none]
        exact .inl (List.append_nil _)
      · rw [pads]
        exact .inr rfl
    · cases reads
  · rintro (rfl | rfl)
    · exact decode_encode bytes
    · exact decode_encodePadded bytes

/-! ### Written texts -/

theorem mem_of_isWritten (written : IsWritten text bytes) {c : Char} (member : c ∈ text) :
    c ∈ alphabet ++ [pad] := by
  have inDigits : ∀ c ∈ encode bytes, c ∈ alphabet ++ [pad] := by
    intro c member
    obtain ⟨value, inValues, rfl⟩ := List.mem_map.mp member
    have inside : value < alphabet.length := digitsOfBytes_lt bytes value inValues
    unfold digit
    rw [List.getD_eq_getElem?_getD, List.getElem?_eq_getElem inside]
    exact List.mem_append_left _ (List.getElem_mem inside)
  rcases written with rfl | rfl
  · exact inDigits c member
  · rcases List.mem_append.mp member with isDigit | isPad
    · exact inDigits c isDigit
    · rw [List.eq_of_mem_replicate isPad]
      exact List.mem_append_right _ List.mem_cons_self

theorem not_isBlank_of_isWritten (written : IsWritten text bytes) :
    ∀ c ∈ text, isBlank c = false := by
  have none : ((alphabet ++ [pad]).all fun c => !isBlank c) = true := by decide
  intro c member
  simpa using List.all_eq_true.mp none c (mem_of_isWritten written member)

end VideoIngest.Text.Base64

namespace VideoIngest.Text

theorem trimChars_of_not_isBlank {text : List Char} (none : ∀ c ∈ text, isBlank c = false) :
    trimChars text = text := by
  have unchanged : ∀ other : List Char, (∀ c ∈ other, isBlank c = false) →
      other.dropWhile isBlank = other := by
    intro other none
    cases other with
    | nil => rfl
    | cons c rest => rw [List.dropWhile_cons, none c List.mem_cons_self, if_neg Bool.false_ne_true]
  unfold trimChars
  rw [unchanged text none, unchanged text.reverse, List.reverse_reverse]
  exact fun c member => none c (List.mem_reverse.mp member)

end VideoIngest.Text
