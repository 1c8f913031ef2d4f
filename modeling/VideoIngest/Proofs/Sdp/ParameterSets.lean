import Mathlib.Data.List.Forall2
import VideoIngest.Proofs.Sdp.Attributes
import VideoIngest.Proofs.Text.Base64

/-!
The parameter sets of a description.

A description either carries sets, and then they are read as they were written, or something is
lacking, and then none is read.
-/

namespace VideoIngest.Sdp

open Text (trimChars)
open Text.Base64 (IsWritten)

/-! ### One set -/

/-- The set is not empty, and this is one of its forms, perhaps with white space around it. -/
structure Writes (item : List Char) (set : Bytes) : Prop where
  some : set ≠ []
  written : IsWritten (trimChars item) set

theorem parameterSet_eq_some_iff {item : List Char} {set : Bytes} :
    parameterSet item = some set ↔ Writes item set := by
  constructor
  · intro reads
    obtain ⟨payload, decoded, isSet⟩ := Option.bind_eq_some_iff.mp reads
    obtain ⟨_, nonempty, same⟩ := Option.bind_eq_some_iff.mp isSet
    obtain rfl := Option.some.inj same
    refine ⟨?_, Text.Base64.decode_eq_some_iff.mp decoded⟩
    rintro rfl
    cases nonempty
  · intro writes
    rw [parameterSet, Text.Base64.decode_eq_some_iff.mpr writes.written]
    cases set with
    | nil => exact absurd rfl writes.some
    | cons byte rest => rfl

private theorem writes_of_isWritten {item : List Char} {set : Bytes} (some : set ≠ [])
    (written : IsWritten item set) : Writes item set := by
  refine ⟨some, ?_⟩
  rwa [Text.trimChars_of_not_isBlank (Text.Base64.not_isBlank_of_isWritten written)]

/-- What is written has no character that would end a value or an item. -/
private theorem separates_of_isWritten {item : List Char} {set : Bytes}
    (written : IsWritten item set) : (∀ c ∈ item, endsValue c = false) ∧ ',' ∉ item := by
  have none : ((Text.Base64.alphabet ++ [Text.Base64.pad]).all fun c =>
      !endsValue c && c != ',') = true := by decide
  have apart : ∀ c ∈ item, endsValue c = false ∧ c ≠ ',' := by
    intro c member
    simpa using List.all_eq_true.mp none c (Text.Base64.mem_of_isWritten written member)
  constructor
  · exact fun c member => (apart c member).1
  · exact fun member => (apart ',' member).2 rfl

/-! ### All of them -/

theorem mapM_eq_some_iff {α β : Type} {read : α → Option β} {entries : List α} {values : List β} :
    entries.mapM read = some values ↔
      List.Forall₂ (fun entry value => read entry = some value) entries values := by
  induction entries generalizing values with
  | nil => simp [eq_comm]
  | cons entry rest ih =>
      simp only [List.mapM_cons, Option.bind_eq_bind, Option.bind_eq_some_iff,
        List.forall₂_cons_left_iff]
      constructor
      · rintro ⟨value, reads, others, readsRest, same⟩
        exact ⟨value, others, reads, ih.mp readsRest, (Option.some.inj same).symm⟩
      · rintro ⟨value, others, reads, readsRest, rfl⟩
        exact ⟨value, reads, others, ih.mpr readsRest, rfl⟩

theorem mapM_eq_none_iff {α β : Type} {read : α → Option β} {entries : List α} :
    entries.mapM read = none ↔ ∃ entry ∈ entries, read entry = none := by
  induction entries with
  | nil => simp
  | cons entry rest ih =>
      simp only [List.mapM_cons, Option.bind_eq_bind, List.exists_mem_cons_iff, ← ih]
      cases read entry with
      | none => simp
      | some value => cases rest.mapM read <;> simp

theorem exists_mem_of_forall₂ {α β : Type} {related : α → β → Prop} {entries : List α}
    {values : List β} (all : List.Forall₂ related entries values) {entry : α}
    (member : entry ∈ entries) : ∃ value ∈ values, related entry value := by
  induction all with
  | nil => cases member
  | cons first rest ih =>
      rcases List.mem_cons.mp member with rfl | inRest
      · exact ⟨_, List.mem_cons_self, first⟩
      · obtain ⟨value, inValues, isRelated⟩ := ih inRest
        exact ⟨value, List.mem_cons_of_mem _ inValues, isRelated⟩

def filled (items : List (List Char)) : List (List Char) := items.filter fun item => !item.isEmpty

/-- The attributes of an H.265 description, in the order in which their sets are needed. -/
def h265Names : List String := ["sprop-vps", "sprop-sps", "sprop-pps"]

inductive Gives (description : List Char) : Codec → List (List Char) → Prop
  | h264 {value : List Char} {items : List (List Char)}
      (found : HasValue "sprop-parameter-sets" value description) (lists : Lists value items) :
      Gives description .h264 (filled items)
  | h265 {values : List (List Char)}
      (found : List.Forall₂ (HasValue · · description) h265Names values) :
      Gives description .h265 values

variable {codec : Codec} {description : List Char} {texts : List (List Char)} {sets : List Bytes}

theorem writtenSets_eq_some_iff :
    writtenSets codec description = some texts ↔ Gives description codec texts := by
  cases codec with
  | h264 =>
      simp only [writtenSets, Option.map_eq_some_iff, valueOf_eq_some_iff]
      constructor
      · rintro ⟨value, found, rfl⟩
        exact .h264 found (splitAtCommas_eq_iff.mp rfl)
      · rintro ⟨found, lists⟩
        rename_i value items
        refine ⟨value, found, ?_⟩
        rw [splitAtCommas_eq_iff.mpr lists]
        rfl
  | h265 =>
      simp only [writtenSets, mapM_eq_some_iff, valueOf_eq_some_iff]
      constructor
      · exact .h265
      · rintro ⟨⟩
        assumption
  | jpeg => exact ⟨nofun, nofun⟩
  | vp9 => exact ⟨nofun, nofun⟩

theorem mapM_parameterSet_eq_some_iff :
    texts.mapM parameterSet = some sets ↔ List.Forall₂ Writes texts sets := by
  simp only [mapM_eq_some_iff, parameterSet_eq_some_iff]

/-- The description carries these sets, and enough of them. -/
def Carries (codec : Codec) (description : List Char) (sets : List Bytes) : Prop :=
  ∃ texts, Gives description codec texts ∧ List.Forall₂ Writes texts sets ∧
    neededSets codec ≤ sets.length

theorem parameterSets_eq_some_iff :
    parameterSets codec description = some sets ↔ Carries codec description sets := by
  constructor
  · intro reads
    obtain ⟨texts, given, readsAll⟩ := Option.bind_eq_some_iff.mp reads
    obtain ⟨others, readsEach, areEnough⟩ := Option.bind_eq_some_iff.mp readsAll
    obtain ⟨_, enough, same⟩ := Option.bind_eq_some_iff.mp areEnough
    obtain rfl := Option.some.inj same
    refine ⟨texts, writtenSets_eq_some_iff.mp given, mapM_parameterSet_eq_some_iff.mp readsEach, ?_⟩
    by_contra few
    rw [guard, if_neg few] at enough
    cases enough
  · rintro ⟨texts, gives, writes, enough⟩
    rw [parameterSets, writtenSets_eq_some_iff.mpr gives, Option.bind_eq_bind, Option.bind_some,
      mapM_parameterSet_eq_some_iff.mpr writes, Option.bind_eq_bind, Option.bind_some, guard,
      if_pos enough]
    rfl

/-! ### None of them -/

inductive Lacks (description : List Char) : Codec → Prop
  | h264Attribute (absent : ¬("sprop-parameter-sets" ++ "=").toList <:+: description) :
      Lacks description .h264
  | h264Set {value item : List Char} {items : List (List Char)}
      (found : HasValue "sprop-parameter-sets" value description) (lists : Lists value items)
      (listed : item ∈ filled items) (unreadable : ∀ set, ¬Writes item set) :
      Lacks description .h264
  | h264Sets {value : List Char} {items : List (List Char)}
      (found : HasValue "sprop-parameter-sets" value description) (lists : Lists value items)
      (few : (filled items).length < 2) : Lacks description .h264
  | h265Attribute {name : String} (needed : name ∈ h265Names)
      (absent : ¬(name ++ "=").toList <:+: description) : Lacks description .h265
  | h265Set {name : String} {value : List Char} (needed : name ∈ h265Names)
      (found : HasValue name value description) (unreadable : ∀ set, ¬Writes value set) :
      Lacks description .h265
  | jpeg : Lacks description .jpeg
  | vp9 : Lacks description .vp9

theorem parameterSet_eq_none_iff {item : List Char} :
    parameterSet item = none ↔ ∀ set, ¬Writes item set := by
  simp only [Option.eq_none_iff_forall_ne_some, ne_eq, parameterSet_eq_some_iff]

theorem lacks_of_writtenSets_eq_none (absent : writtenSets codec description = none) :
    Lacks description codec := by
  cases codec with
  | h264 =>
      rw [writtenSets, Option.map_eq_none_iff, valueOf_eq_none_iff] at absent
      exact .h264Attribute absent
  | h265 =>
      obtain ⟨name, needed, missing⟩ := mapM_eq_none_iff.mp absent
      exact .h265Attribute needed (valueOf_eq_none_iff.mp missing)
  | jpeg => exact .jpeg
  | vp9 => exact .vp9

private theorem lacks_of_unreadable (gives : Gives description codec texts) {text : List Char}
    (given : text ∈ texts) (unreadable : ∀ set, ¬Writes text set) : Lacks description codec := by
  cases gives with
  | h264 found lists => exact .h264Set found lists given unreadable
  | h265 found =>
      obtain ⟨name, needed, foundThere⟩ := exists_mem_of_forall₂ found.flip given
      exact .h265Set needed foundThere unreadable

private theorem lacks_of_few (gives : Gives description codec texts)
    (few : texts.length < neededSets codec) : Lacks description codec := by
  cases gives with
  | h264 found lists => exact .h264Sets found lists few
  | h265 found => exact absurd few (Nat.not_lt_zero _)

theorem lacks_of_parameterSets_eq_none (none : parameterSets codec description = none) :
    Lacks description codec := by
  cases written : writtenSets codec description with
  | none => exact lacks_of_writtenSets_eq_none written
  | some texts =>
      have gives := writtenSets_eq_some_iff.mp written
      cases reads : texts.mapM parameterSet with
      | none =>
          obtain ⟨text, given, unreadable⟩ := mapM_eq_none_iff.mp reads
          exact lacks_of_unreadable gives given (parameterSet_eq_none_iff.mp unreadable)
      | some sets =>
          have writes := mapM_parameterSet_eq_some_iff.mp reads
          apply lacks_of_few gives
          by_contra enough
          have carries : Carries codec description sets :=
            ⟨texts, gives, writes, writes.length_eq ▸ Nat.le_of_not_lt enough⟩
          rw [parameterSets_eq_some_iff.mpr carries] at none
          cases none

private theorem HasValue.eq {name : String} {value other : List Char}
    (found : HasValue name value description) (same : HasValue name other description) :
    value = other :=
  Option.some.inj ((valueOf_eq_some_iff.mpr found).symm.trans (valueOf_eq_some_iff.mpr same))

private theorem HasValue.occurs {name : String} {value : List Char}
    (found : HasValue name value description) : (name ++ "=").toList <:+: description := by
  obtain ⟨before, rest, first, _⟩ := found.stands
  exact ⟨before, value ++ rest, first.placed.symm⟩

private theorem Lists.eq {value : List Char} {items others : List (List Char)}
    (lists : Lists value items) (same : Lists value others) : items = others :=
  (splitAtCommas_eq_iff.mpr lists).symm.trans (splitAtCommas_eq_iff.mpr same)

/-- Where something is lacking, there are no sets. -/
private theorem Lacks.not_carries (lacks : Lacks description codec) :
    ¬Carries codec description sets := by
  rintro ⟨texts, gives, writes, enough⟩
  cases gives with
  | h264 foundHere listsHere =>
      cases lacks with
      | h264Attribute absent => exact absent foundHere.occurs
      | h264Set found lists listed unreadable =>
          obtain rfl := found.eq foundHere
          obtain rfl := lists.eq listsHere
          obtain ⟨set, _, written⟩ := exists_mem_of_forall₂ writes listed
          exact unreadable set written
      | h264Sets found lists few =>
          obtain rfl := found.eq foundHere
          obtain rfl := lists.eq listsHere
          rw [← writes.length_eq] at enough
          exact absurd enough (Nat.not_le_of_lt few)
  | h265 foundAll =>
      cases lacks with
      | h265Attribute needed absent =>
          obtain ⟨_, _, found⟩ := exists_mem_of_forall₂ foundAll needed
          exact absent found.occurs
      | h265Set needed found unreadable =>
          obtain ⟨other, given, foundHere⟩ := exists_mem_of_forall₂ foundAll needed
          obtain rfl := found.eq foundHere
          obtain ⟨set, _, written⟩ := exists_mem_of_forall₂ writes given
          exact unreadable set written

theorem parameterSets_eq_none_iff :
    parameterSets codec description = none ↔ Lacks description codec := by
  refine ⟨lacks_of_parameterSets_eq_none, ?_⟩
  intro lacks
  cases reads : parameterSets codec description with
  | none => rfl
  | some sets => exact absurd (parameterSets_eq_some_iff.mp reads) lacks.not_carries

/-! ### Written and read again -/

private theorem writes_of_forall₂ (written : List.Forall₂ IsWritten texts sets)
    (some : ∀ set ∈ sets, set ≠ []) : List.Forall₂ Writes texts sets := by
  induction written with
  | nil => exact .nil
  | cons first rest ih =>
      obtain ⟨someFirst, someRest⟩ := List.forall_mem_cons.mp some
      exact .cons (writes_of_isWritten someFirst first) (ih someRest)

/-- A value that is made of such items and commas goes on to its end. -/
private theorem not_endsValue_of_mem_intercalate {items : List (List Char)}
    (within : ∀ item ∈ items, ∀ c ∈ item, endsValue c = false) :
    ∀ c ∈ [','].intercalate items, endsValue c = false := by
  induction items with
  | nil => exact fun _ member => nomatch member
  | cons first rest ih =>
      obtain ⟨inFirst, inRest⟩ := List.forall_mem_cons.mp within
      by_cases last : rest = []
      · rw [last, List.intercalate_singleton]
        exact inFirst
      · rw [List.intercalate_cons_of_ne_nil last]
        simp only [List.forall_mem_append, List.forall_mem_singleton]
        exact ⟨⟨inFirst, rfl⟩, ih inRest⟩

private theorem separates_of_filled {items : List (List Char)}
    (written : List.Forall₂ IsWritten (filled items) sets) :
    ∀ item ∈ items, (∀ c ∈ item, endsValue c = false) ∧ ',' ∉ item := by
  intro item listed
  cases item with
  | nil => exact ⟨fun _ member => (nomatch member), List.not_mem_nil⟩
  | cons c rest =>
      have isFilled : (c :: rest) ∈ filled items := List.mem_filter.mpr ⟨listed, rfl⟩
      obtain ⟨set, _, isWritten⟩ := exists_mem_of_forall₂ written isFilled
      exact separates_of_isWritten isWritten

private theorem carries_of_items {items : List (List Char)}
    (stands : StandsBehind "sprop-parameter-sets" ([','].intercalate items) description)
    (written : List.Forall₂ IsWritten (filled items) sets) (some : ∀ set ∈ sets, set ≠ [])
    (enough : 2 ≤ sets.length) : Carries .h264 description sets := by
  have separates := separates_of_filled written
  have listed : items ≠ [] := by
    rintro rfl
    rw [← written.length_eq] at enough
    cases enough
  have lists : Lists ([','].intercalate items) items :=
    ⟨listed, fun item member => (separates item member).2, rfl⟩
  have value : HasValue "sprop-parameter-sets" ([','].intercalate items) description :=
    ⟨stands, not_endsValue_of_mem_intercalate fun item member => (separates item member).1⟩
  exact ⟨filled items, .h264 value lists, writes_of_forall₂ written some, enough⟩

private theorem hasValues_of_stands {names : List String}
    (stands : List.Forall₂ (StandsBehind · · description) names texts)
    (within : ∀ text ∈ texts, ∀ c ∈ text, endsValue c = false) :
    List.Forall₂ (HasValue · · description) names texts := by
  induction stands with
  | nil => exact .nil
  | cons first rest ih =>
      obtain ⟨inFirst, inRest⟩ := List.forall_mem_cons.mp within
      exact .cons ⟨first, inFirst⟩ (ih inRest)

private theorem carries_of_values
    (stands : List.Forall₂ (StandsBehind · · description) h265Names texts)
    (written : List.Forall₂ IsWritten texts sets) (some : ∀ set ∈ sets, set ≠ []) :
    Carries .h265 description sets := by
  refine ⟨texts, .h265 (hasValues_of_stands stands ?_), writes_of_forall₂ written some,
    Nat.zero_le _⟩
  intro text given
  obtain ⟨set, _, isWritten⟩ := exists_mem_of_forall₂ written given
  exact (separates_of_isWritten isWritten).1

theorem initialUnits_of_carries {description : String}
    (carries : Carries codec description.toList sets) :
    initialUnits codec description = sets.map framed := by
  rw [initialUnits, parameterSets_eq_some_iff.mpr carries, Option.getD_some]

/-- Sets that are written behind the first `sprop-parameter-sets=`, in either form of base 64 and
with commas between them, or behind the first `sprop-vps=`, `sprop-sps=` and `sprop-pps=`, wherever
these stand, are read again as they were written. A description from which no sets can be read lacks
an attribute, has a value in it that is not the form of a set, or lists fewer than two sets in
H.264, and then there are no units at all. Codecs besides H.264 and H.265 have none. -/
theorem initialUnits_undoes_writing :
    (∀ (description : String) (items : List (List Char)) (sets : List Bytes),
      StandsBehind "sprop-parameter-sets" ([','].intercalate items) description.toList →
        List.Forall₂ IsWritten (filled items) sets → (∀ set ∈ sets, set ≠ []) → 2 ≤ sets.length →
          initialUnits .h264 description = sets.map framed) ∧
      (∀ (description : String) (texts : List (List Char)) (sets : List Bytes),
        List.Forall₂ (StandsBehind · · description.toList) h265Names texts →
          List.Forall₂ IsWritten texts sets → (∀ set ∈ sets, set ≠ []) →
            initialUnits .h265 description = sets.map framed) ∧
      ∀ (codec : Codec) (description : String),
        (Lacks description.toList codec → initialUnits codec description = []) ∧
          (¬Lacks description.toList codec → ∃ sets, Carries codec description.toList sets ∧
            initialUnits codec description = sets.map framed) := by
  refine ⟨?_, ?_, ?_⟩
  · intro description items sets stands written some enough
    exact initialUnits_of_carries (carries_of_items stands written some enough)
  · intro description texts sets stands written some
    exact initialUnits_of_carries (carries_of_values stands written some)
  · intro codec description
    constructor
    · intro lacks
      rw [initialUnits, parameterSets_eq_none_iff.mpr lacks]
      rfl
    · intro complete
      cases reads : parameterSets codec description.toList with
      | none => exact absurd (parameterSets_eq_none_iff.mp reads) complete
      | some sets =>
          have carries := parameterSets_eq_some_iff.mp reads
          exact ⟨sets, carries, initialUnits_of_carries carries⟩

/-- A padded set and one without padding, with nothing between two of the commas. -/
def h264Description : String := "a=fmtp:96 sprop-parameter-sets=ZwE=,,aAI;mode=1"

def h265Description : String := "sprop-pps=RAM; sprop-sps=QgI=\r\nsprop-vps=QAE"

theorem written_sets_are_read :
    StandsBehind "sprop-parameter-sets" "ZwE=,,aAI".toList h264Description.toList ∧
      initialUnits .h264 h264Description = [[0, 0, 0, 1, 0x67, 1], [0, 0, 0, 1, 0x68, 2]] ∧
      initialUnits .h265 h265Description =
        [[0, 0, 0, 1, 0x40, 1], [0, 0, 0, 1, 0x42, 2], [0, 0, 0, 1, 0x44, 3]] := by
  obtain ⟨readsItems, readsValues, _⟩ := initialUnits_undoes_writing
  have behind : ∀ {name : String} {text description : List Char},
      valueOf name description = some text → StandsBehind name text description :=
    fun value => (valueOf_eq_some_iff.mp value).stands
  have stands := behind (show valueOf "sprop-parameter-sets" h264Description.toList =
    some "ZwE=,,aAI".toList by decide +kernel)
  have items : List.Forall₂ IsWritten (filled ["ZwE=".toList, [], "aAI".toList])
      [[0x67, 1], [0x68, 2]] :=
    .cons (.inr (by decide +kernel)) (.cons (.inl (by decide +kernel)) .nil)
  have values : List.Forall₂ (StandsBehind · · h265Description.toList) h265Names
      ["QAE".toList, "QgI=".toList, "RAM".toList] :=
    .cons (behind (by decide +kernel)) (.cons (behind (by decide +kernel))
      (.cons (behind (by decide +kernel)) .nil))
  have written : List.Forall₂ IsWritten ["QAE".toList, "QgI=".toList, "RAM".toList]
      [[0x40, 1], [0x42, 2], [0x44, 3]] :=
    .cons (.inl (by decide +kernel)) (.cons (.inr (by decide +kernel))
      (.cons (.inl (by decide +kernel)) .nil))
  refine ⟨stands, ?_, ?_⟩
  · exact readsItems h264Description ["ZwE=".toList, [], "aAI".toList] _ stands items
      (by decide) (by decide)
  · exact readsValues h265Description _ _ values written (by decide)

end VideoIngest.Sdp
