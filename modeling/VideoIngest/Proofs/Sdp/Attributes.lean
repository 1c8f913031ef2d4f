import VideoIngest.Sdp

/-! Where a description says what the value of an attribute is, and which items a value lists. -/

namespace VideoIngest.Sdp

/-! ### The first occurrence of a pattern -/

/-- The pattern stands behind `before` and in front of `rest`, and nowhere further ahead. -/
structure FirstIn (pattern before rest text : List Char) : Prop where
  placed : text = before ++ pattern ++ rest
  first : ∀ earlier later, text = earlier ++ pattern ++ later → before.length ≤ earlier.length

variable {pattern before rest other text : List Char}

private theorem FirstIn.rest_eq {elsewhere : List Char} (found : FirstIn pattern before rest text)
    (same : FirstIn pattern elsewhere other text) : rest = other := by
  have place : before.length = elsewhere.length :=
    Nat.le_antisymm (found.first elsewhere other same.placed) (same.first before rest found.placed)
  have both := found.placed.symm.trans same.placed
  rw [List.append_assoc, List.append_assoc] at both
  exact List.append_cancel_left (List.append_inj_right both place)

/-- A pattern that the text does not begin with is the first one further on. -/
private theorem FirstIn.cons {c : Char} (found : FirstIn pattern before rest text)
    (later : ¬pattern <+: c :: text) : FirstIn pattern (c :: before) rest (c :: text) := by
  refine ⟨by rw [found.placed]; rfl, ?_⟩
  intro earlier after same
  cases earlier with
  | nil => exact absurd ⟨after, same.symm⟩ later
  | cons head earlier =>
      obtain ⟨_, sameTail⟩ := List.cons.inj same
      exact Nat.succ_le_succ (found.first earlier after sameTail)

private theorem exists_firstIn_of_afterFirst (after : afterFirst pattern text = some rest) :
    ∃ before, FirstIn pattern before rest text := by
  induction text with
  | nil =>
      unfold afterFirst at after
      split at after
      · rename_i empty
        obtain rfl := Option.some.inj after
        rw [List.isEmpty_iff.mp empty]
        exact ⟨[], rfl, fun _ _ _ => Nat.zero_le _⟩
      · cases after
  | cons c text ih =>
      unfold afterFirst at after
      split at after
      · rename_i begins
        obtain ⟨whole, same⟩ := List.isPrefixOf_iff_prefix.mp begins
        obtain rfl := Option.some.inj after
        refine ⟨[], ?_, fun _ _ _ => Nat.zero_le _⟩
        rw [← same, List.drop_left]
        rfl
      · rename_i later
        obtain ⟨before, found⟩ := ih after
        exact ⟨c :: before, found.cons fun begins => later (List.isPrefixOf_iff_prefix.mpr begins)⟩

theorem afterFirst_eq_none_iff : afterFirst pattern text = none ↔ ¬pattern <:+: text := by
  constructor
  · intro absent
    induction text with
    | nil =>
        unfold afterFirst at absent
        split at absent
        · cases absent
        · rename_i nonempty
          rw [List.infix_nil]
          exact fun empty => nonempty (List.isEmpty_iff.mpr empty)
    | cons c text ih =>
        unfold afterFirst at absent
        split at absent
        · cases absent
        · rename_i later
          rw [List.infix_cons_iff, not_or]
          exact ⟨fun begins => later (List.isPrefixOf_iff_prefix.mpr begins), ih absent⟩
  · intro nowhere
    cases after : afterFirst pattern text with
    | none => rfl
    | some rest =>
        obtain ⟨before, found⟩ := exists_firstIn_of_afterFirst after
        exact absurd ⟨before, rest, found.placed.symm⟩ nowhere

theorem afterFirst_eq_some_iff :
    afterFirst pattern text = some rest ↔ ∃ before, FirstIn pattern before rest text := by
  refine ⟨exists_firstIn_of_afterFirst, ?_⟩
  rintro ⟨before, found⟩
  cases after : afterFirst pattern text with
  | none => exact absurd ⟨before, rest, found.placed.symm⟩ (afterFirst_eq_none_iff.mp after)
  | some other =>
      obtain ⟨elsewhere, same⟩ := exists_firstIn_of_afterFirst after
      rw [found.rest_eq same]

/-! ### The value of an attribute -/

def Ends (rest : List Char) : Prop := ∀ c ∈ rest.head?, endsValue c = true

/-- The text stands right behind the first `name=`, and ends or is ended there. -/
def StandsBehind (name : String) (text description : List Char) : Prop :=
  ∃ before rest, FirstIn (name ++ "=").toList before (text ++ rest) description ∧ Ends rest

/-- The value is all that stands behind the first `name=`, as far as nothing ends it. -/
structure HasValue (name : String) (value description : List Char) : Prop where
  stands : StandsBehind name value description
  within : ∀ c ∈ value, endsValue c = false

private theorem takeWhile_append_of_ends {value rest : List Char}
    (within : ∀ c ∈ value, endsValue c = false) (ends : Ends rest) :
    (value ++ rest).takeWhile (fun c => !endsValue c) = value := by
  rw [List.takeWhile_append_of_pos fun c member => by rw [within c member]; rfl]
  cases rest with
  | nil => exact List.append_nil value
  | cons c rest =>
      rw [List.takeWhile_cons, ends c rfl]
      exact List.append_nil value

private theorem ends_dropWhile (text : List Char) :
    Ends (text.dropWhile fun c => !endsValue c) := by
  intro c isFirst
  have stops := List.head?_dropWhile_not (fun c => !endsValue c) text
  rw [Option.mem_def.mp isFirst] at stops
  simpa using stops

theorem valueOf_eq_some_iff {name : String} {value description : List Char} :
    valueOf name description = some value ↔ HasValue name value description := by
  rw [valueOf, Option.map_eq_some_iff]
  constructor
  · rintro ⟨text, after, rfl⟩
    obtain ⟨before, found⟩ := afterFirst_eq_some_iff.mp after
    refine ⟨⟨before, text.dropWhile fun c => !endsValue c, ?_, ends_dropWhile text⟩, ?_⟩
    · rwa [List.takeWhile_append_dropWhile]
    · intro c member
      have within := List.all_eq_true.mp List.all_takeWhile c member
      simpa using within
  · rintro ⟨⟨before, rest, found, ends⟩, within⟩
    exact ⟨value ++ rest, afterFirst_eq_some_iff.mpr ⟨before, found⟩,
      takeWhile_append_of_ends within ends⟩

theorem valueOf_eq_none_iff {name : String} {description : List Char} :
    valueOf name description = none ↔ ¬(name ++ "=").toList <:+: description := by
  rw [valueOf, Option.map_eq_none_iff, afterFirst_eq_none_iff]

/-! ### The items of a value -/

private theorem splitAtCommas_eq_splitOn (value : List Char) :
    splitAtCommas value = value.splitOn ',' := by
  induction value with
  | nil => rfl
  | cons c rest ih =>
      rw [splitAtCommas, ih, List.splitOn_cons_eq_if_modifyHead]
      by_cases isComma : c = ','
      · rw [if_pos isComma, if_pos (beq_iff_eq.mpr isComma)]
      · rw [if_neg isComma, if_neg fun same => isComma (eq_of_beq same)]
        cases split : rest.splitOn ',' with
        | nil => exact absurd split (List.splitOn_ne_nil ',' rest)
        | cons first others => rfl

private theorem not_mem_of_mem_splitAtCommas (value : List Char) :
    ∀ item ∈ splitAtCommas value, ',' ∉ item := by
  induction value with
  | nil => simp [splitAtCommas]
  | cons c rest ih =>
      rw [splitAtCommas]
      by_cases isComma : c = ','
      · rw [if_pos isComma]
        exact List.forall_mem_cons.mpr ⟨List.not_mem_nil, ih⟩
      · rw [if_neg isComma]
        cases split : splitAtCommas rest with
        | nil => simpa using Ne.symm isComma
        | cons first others =>
            rw [split] at ih
            obtain ⟨inFirst, inOthers⟩ := List.forall_mem_cons.mp ih
            refine List.forall_mem_cons.mpr ⟨?_, inOthers⟩
            simpa using ⟨Ne.symm isComma, inFirst⟩

/-- The value lists these items, with a comma between each two of them. -/
structure Lists (value : List Char) (items : List (List Char)) : Prop where
  some : items ≠ []
  commaless : ∀ item ∈ items, ',' ∉ item
  joined : [','].intercalate items = value

theorem splitAtCommas_eq_iff {value : List Char} {items : List (List Char)} :
    splitAtCommas value = items ↔ Lists value items := by
  constructor
  · rintro rfl
    refine ⟨?_, not_mem_of_mem_splitAtCommas value, ?_⟩
    · rw [splitAtCommas_eq_splitOn]
      exact List.splitOn_ne_nil ',' value
    · rw [splitAtCommas_eq_splitOn]
      exact List.intercalate_splitOn ','
  · intro lists
    rw [splitAtCommas_eq_splitOn, ← lists.joined]
    exact List.splitOn_intercalate ',' lists.commaless lists.some

end VideoIngest.Sdp
