import Mathlib.Data.List.Destutter

/-!
Lists read as histories: what an entry comes to in view of the entries before it, and which entry
of a kind is the latest.
-/

namespace VideoIngest.History

variable {α β : Type}

theorem filterMap_append_singleton (value : α → Option β) (entries : List α) (entry : α) :
    (entries ++ [entry]).filterMap value = entries.filterMap value ++ (value entry).toList := by
  rw [List.filterMap_append, List.filterMap_cons, List.filterMap_nil]
  cases value entry <;> rfl

/-- What the entries of a list come to, each in view of the entries before it. -/
def collect (value : List α → α → Option β) (entries : List α) : List β :=
  (List.range entries.length).filterMap fun place =>
    entries[place]?.bind (value (entries.take place))

@[simp] theorem collect_nil (value : List α → α → Option β) : collect value [] = [] := rfl

theorem collect_append_singleton (value : List α → α → Option β) (entries : List α) (entry : α) :
    collect value (entries ++ [entry]) =
      collect value entries ++ (value entries entry).toList := by
  have earlier : ∀ place ∈ List.range entries.length,
      ((entries ++ [entry])[place]?.bind (value ((entries ++ [entry]).take place))) =
        entries[place]?.bind (value (entries.take place)) := by
    intro place member
    have inside : place < entries.length := List.mem_range.mp member
    rw [List.getElem?_append_left inside, List.take_append_of_le_length (Nat.le_of_lt inside)]
  unfold collect
  rw [List.length_append, List.length_singleton, List.range_succ, filterMap_append_singleton,
    List.filterMap_congr earlier, List.getElem?_concat_length, List.take_left, Option.bind_some]

theorem collect_append (value : List α → α → Option β) (front back : List α) :
    collect value (front ++ back) =
      collect value front ++ collect (fun earlier => value (front ++ earlier)) back := by
  induction back using List.reverseRecOn with
  | nil => rw [List.append_nil, collect_nil, List.append_nil]
  | append_singleton back entry ih =>
      rw [← List.append_assoc, collect_append_singleton, ih, collect_append_singleton,
        List.append_assoc]

theorem collect_cons (value : List α → α → Option β) (entry : α) (rest : List α) :
    collect value (entry :: rest) =
      (value [] entry).toList ++ collect (fun earlier => value (entry :: earlier)) rest := by
  have first : collect value [entry] = (value [] entry).toList :=
    collect_append_singleton value [] entry
  rw [← first]
  exact collect_append value [entry] rest

theorem collect_eq_filterMap (value : α → Option β) (entries : List α) :
    collect (fun _ => value) entries = entries.filterMap value := by
  induction entries using List.reverseRecOn with
  | nil => rfl
  | append_singleton entries entry ih =>
      rw [collect_append_singleton, ih, filterMap_append_singleton]

theorem collect_append_of_none {value : List α → α → Option β} {front back : List α}
    (nothing : ∀ entry ∈ back, ∀ earlier, value earlier entry = none) :
    collect value (front ++ back) = collect value front := by
  induction back using List.reverseRecOn with
  | nil => rw [List.append_nil]
  | append_singleton back entry ih =>
      have before := ih fun other member => nothing other (List.mem_append_left _ member)
      rw [← List.append_assoc, collect_append_singleton, before,
        nothing entry (List.mem_append_right _ List.mem_cons_self)]
      exact List.append_nil _

theorem collect_map {γ : Type} (value : List γ → γ → Option β) (label : α → γ) (entries : List α) :
    collect value (entries.map label) =
      collect (fun earlier entry => value (earlier.map label) (label entry)) entries := by
  induction entries using List.reverseRecOn with
  | nil => rfl
  | append_singleton entries entry ih =>
      rw [List.map_append, List.map_singleton, collect_append_singleton, ih,
        collect_append_singleton]

theorem map_collect {γ : Type} (label : β → γ) (value : List α → α → Option β) (entries : List α) :
    (collect value entries).map label =
      collect (fun earlier entry => (value earlier entry).map label) entries := by
  induction entries using List.reverseRecOn with
  | nil => rfl
  | append_singleton entries entry ih =>
      rw [collect_append_singleton, List.map_append, ih, collect_append_singleton]
      cases value entries entry <;> rfl

theorem exists_of_mem_collect {value : List α → α → Option β} {entries : List α} {found : β}
    (member : found ∈ collect value entries) :
    ∃ earlier, ∃ entry ∈ entries, value earlier entry = some found := by
  obtain ⟨place, _, comes⟩ := List.mem_filterMap.mp member
  obtain ⟨entry, atPlace, isFound⟩ := Option.bind_eq_some_iff.mp comes
  exact ⟨_, entry, List.mem_of_getElem? atPlace, isFound⟩

/-- What holds between any two entries holds between what they come to. -/
theorem pairwise_collect {before : α → α → Prop} {comesBefore : β → β → Prop}
    {value : List α → α → Option β} {entries : List α} (inOrder : entries.Pairwise before)
    (keeps : ∀ first second earlier later found other, before first second →
      value earlier first = some found → value later second = some other →
        comesBefore found other) :
    (collect value entries).Pairwise comesBefore := by
  induction entries using List.reverseRecOn with
  | nil => exact List.Pairwise.nil
  | append_singleton entries entry ih =>
      obtain ⟨front, _, across⟩ := List.pairwise_append.mp inOrder
      rw [collect_append_singleton, List.pairwise_append]
      refine ⟨ih front, ?_, ?_⟩
      · cases value entries entry with
        | none => exact List.Pairwise.nil
        | some found => exact List.pairwise_singleton _ _
      · intro found member other isLast
        obtain ⟨earlier, first, inFront, comes⟩ := exists_of_mem_collect member
        exact keeps first entry earlier entries found other
          (across first inFront entry List.mem_cons_self) comes (Option.mem_toList.mp isLast)

example : collect (fun earlier entry => if entry ∈ earlier then none else some entry) [3, 5, 3, 7] =
    [3, 5, 7] := by decide

def latest? (value : α → Option β) (entries : List α) : Option β :=
  (entries.filterMap value).getLast?

theorem latest?_append_singleton (value : α → Option β) (entries : List α) (entry : α) :
    latest? value (entries ++ [entry]) = (value entry).or (latest? value entries) := by
  unfold latest?
  rw [List.filterMap_append, List.getLast?_append]
  cases found : value entry <;> simp [found]

theorem latest?_append (value : α → Option β) (front back : List α) :
    latest? value (front ++ back) = (latest? value back).or (latest? value front) := by
  unfold latest?
  rw [List.filterMap_append, List.getLast?_append]

theorem latest?_toList (value : α → Option β) (entry : Option α) :
    latest? value entry.toList = entry.bind value := by
  cases entry with
  | none => rfl
  | some entry =>
      rw [Option.toList_some, Option.bind_some, ← List.nil_append [entry],
        latest?_append_singleton]
      exact Option.or_none

theorem exists_mem_of_latest? {value : α → Option β} {entries : List α} {found : β}
    (latest : latest? value entries = some found) : ∃ entry ∈ entries, value entry = some found :=
  List.mem_filterMap.mp (List.mem_of_getLast? latest)

theorem latest?_eq_none_iff {value : α → Option β} {entries : List α} :
    latest? value entries = none ↔ ∀ entry ∈ entries, value entry = none := by
  rw [latest?, List.getLast?_eq_none_iff, List.filterMap_eq_nil_iff]

/-- The latest entry that has a value is the one behind which none has. -/
theorem latest?_eq_some_iff {value : α → Option β} {entries : List α} {found : β} :
    latest? value entries = some found ↔
      ∃ earlier entry later, entries = earlier ++ entry :: later ∧ value entry = some found ∧
        ∀ other ∈ later, value other = none := by
  constructor
  · intro latest
    induction entries using List.reverseRecOn with
    | nil => cases latest
    | append_singleton entries entry ih =>
        rw [latest?_append_singleton] at latest
        cases comes : value entry with
        | some own =>
            rw [comes, Option.some_or] at latest
            exact ⟨entries, entry, [], rfl, comes.trans latest, nofun⟩
        | none =>
            rw [comes, Option.none_or] at latest
            obtain ⟨earlier, first, later, split, isFound, nothing⟩ := ih latest
            refine ⟨earlier, first, later ++ [entry], ?_, isFound, ?_⟩
            · rw [split, List.append_assoc, List.cons_append]
            · exact List.forall_mem_append.mpr ⟨nothing, List.forall_mem_singleton.mpr comes⟩
  · rintro ⟨earlier, entry, later, rfl, isFound, nothing⟩
    rw [List.append_cons, latest?_append, latest?_eq_none_iff.mpr nothing, Option.none_or,
      latest?_append_singleton, isFound, Option.some_or]

/-- Every entry of a list satisfies the property in view of the entries before it. -/
def Always (property : List α → α → Prop) (entries : List α) : Prop :=
  ∀ earlier entry later, entries = earlier ++ entry :: later → property earlier entry

theorem always_nil (property : List α → α → Prop) : Always property [] := by
  intro earlier entry later split
  have impossible := congrArg List.length split
  simp at impossible

theorem always_append {property : List α → α → Prop} {front back : List α}
    (inFront : Always property front)
    (inBack : Always (fun earlier entry => property (front ++ earlier) entry) back) :
    Always property (front ++ back) := by
  intro earlier entry later split
  rcases List.append_eq_append_iff.mp split with ⟨middle, atFront, atBack⟩ | ⟨middle, atFront, atBack⟩
  · rw [atFront]
    exact inBack middle entry later atBack
  · cases middle with
    | nil =>
        rw [List.append_nil] at atFront
        have first : property (front ++ []) entry := inBack [] entry later atBack.symm
        rwa [List.append_nil, atFront] at first
    | cons head tail =>
        obtain ⟨rfl, _⟩ := List.cons.inj atBack
        exact inFront earlier entry tail atFront

theorem always_singleton {property : List α → α → Prop} {entry : α}
    (holds : property [] entry) : Always property [entry] := by
  intro earlier other later split
  cases earlier with
  | nil =>
      obtain ⟨rfl, _⟩ := List.cons.inj split
      exact holds
  | cons head tail =>
      have impossible := congrArg List.length split
      simp at impossible

theorem always_append_singleton {property : List α → α → Prop} {entries : List α} {entry : α}
    (before : Always property entries) (holds : property entries entry) :
    Always property (entries ++ [entry]) := by
  apply always_append before
  apply always_singleton
  rwa [List.append_nil]

theorem always_of_append {property : List α → α → Prop} {front back : List α}
    (always : Always property (front ++ back)) : Always property front := by
  intro earlier entry later split
  apply always earlier entry (later ++ back)
  rw [split, List.append_assoc, List.cons_append]

theorem always_append_singleton_iff {property : List α → α → Prop} {entries : List α} {entry : α} :
    Always property (entries ++ [entry]) ↔ Always property entries ∧ property entries entry := by
  constructor
  · intro always
    exact ⟨always_of_append always, always entries entry [] rfl⟩
  · rintro ⟨before, holds⟩
    exact always_append_singleton before holds

theorem always_iff_getElem (property : List α → α → Prop) (entries : List α) :
    Always property entries ↔
      ∀ place : Fin entries.length, property (entries.take place) entries[place] := by
  constructor
  · intro always place
    apply always (entries.take place) entries[place] (entries.drop (place + 1))
    rw [Fin.getElem_fin, ← List.drop_eq_getElem_cons place.isLt, List.take_append_drop]
  · rintro each earlier entry later rfl
    have inside : earlier.length < (earlier ++ entry :: later).length := by
      rw [List.length_append, List.length_cons]
      omega
    have there := each ⟨earlier.length, inside⟩
    simpa using there

instance {property : List α → α → Prop}
    [∀ earlier entry, Decidable (property earlier entry)] (entries : List α) :
    Decidable (Always property entries) :=
  decidable_of_iff' _ (always_iff_getElem property entries)

theorem collect_congr {first second : List α → α → Option β} {entries : List α}
    (same : Always (fun earlier entry => first earlier entry = second earlier entry) entries) :
    collect first entries = collect second entries := by
  induction entries using List.reverseRecOn with
  | nil => rfl
  | append_singleton entries entry ih =>
      obtain ⟨before, last⟩ := always_append_singleton_iff.mp same
      rw [collect_append_singleton, collect_append_singleton, ih before, last]

/-- What single steps break just where they are of one kind lasts up to the first step of that
kind. -/
theorem always_foldl_iff {σ : Type} {step : σ → α → σ} (holds : σ → Prop) {breaks : α → Bool}
    {start : σ} (begins : holds start)
    (rule : ∀ state entry, holds state → (holds (step state entry) ↔ breaks entry = false))
    (entries : List α) :
    Always (fun earlier entry => holds ((earlier ++ [entry]).foldl step start)) entries ↔
      ∀ entry ∈ entries, breaks entry = false := by
  have lasts : ∀ entries : List α, (∀ entry ∈ entries, breaks entry = false) →
      holds (entries.foldl step start) := by
    intro entries quiet
    induction entries using List.reverseRecOn with
    | nil => exact begins
    | append_singleton entries entry ih =>
        rw [List.forall_mem_append, List.forall_mem_singleton] at quiet
        rw [List.foldl_append]
        exact (rule _ entry (ih quiet.1)).mpr quiet.2
  induction entries using List.reverseRecOn with
  | nil => exact iff_of_true (always_nil _) nofun
  | append_singleton entries entry ih =>
      rw [List.forall_mem_append, List.forall_mem_singleton]
      refine always_append_singleton_iff.trans ((and_congr_left' ih).trans ?_)
      rw [List.foldl_append]
      exact and_congr_right fun quiet => rule _ entry (lasts entries quiet)

/-! ### Consecutive duplicates -/

variable [DecidableEq α]

private theorem destutter'_append_singleton (first : α) (entries : List α) (entry : α) :
    (entries ++ [entry]).destutter' (· ≠ ·) first =
      entries.destutter' (· ≠ ·) first ++
        if (first :: entries).getLast? = some entry then [] else [entry] := by
  induction entries generalizing first with
  | nil =>
      by_cases same : first = entry
      · simp [same]
      · simp [same]
  | cons second rest ih =>
      rw [List.getLast?_cons_cons]
      by_cases same : first = second
      · rw [List.cons_append, List.destutter'_cons_neg _ (not_not.mpr same),
          List.destutter'_cons_neg _ (not_not.mpr same), same]
        exact ih second
      · rw [List.cons_append, List.destutter'_cons_pos _ same, List.destutter'_cons_pos _ same,
          ih second, List.cons_append]

theorem destutter_append_singleton (entries : List α) (entry : α) :
    (entries ++ [entry]).destutter (· ≠ ·) =
      entries.destutter (· ≠ ·) ++
        if entries.getLast? = some entry then [] else [entry] := by
  cases entries with
  | nil => rfl
  | cons first rest => exact destutter'_append_singleton first rest entry

theorem getLast?_destutter (entries : List α) :
    (entries.destutter (· ≠ ·)).getLast? = entries.getLast? := by
  induction entries using List.reverseRecOn with
  | nil => rfl
  | append_singleton entries entry ih =>
      rw [destutter_append_singleton]
      by_cases same : entries.getLast? = some entry
      · rw [if_pos same, List.append_nil, ih, same, List.getLast?_concat]
      · rw [if_neg same, List.getLast?_concat, List.getLast?_concat]

end VideoIngest.History
