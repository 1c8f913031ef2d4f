import VideoIngest.Proofs.Session.States

/-!
Tables in which every session carries the identifier that leads to it, and pairs of such tables that
agree but for some identifiers.
-/

namespace VideoIngest

namespace Session

@[simp] theorem id_setState (state : SessionState) (session : Session) :
    (session.setState state).id = session.id := by
  unfold setState
  split <;> rfl

@[simp] theorem id_transition (expected next : SessionState) (session : Session) :
    (session.transition expected next).1.id = session.id := by
  unfold transition
  split <;> rfl

@[simp] theorem id_acceptTimestamp (timestamp : Nat) (drops : Bool) (session : Session) :
    (session.acceptTimestamp timestamp drops).1.id = session.id := by
  unfold acceptTimestamp
  split <;> rfl

@[simp] theorem id_assemble (chunk : Bytes) (timestamp : Nat) (session : Session) :
    (session.assemble chunk timestamp).1.id = session.id := by
  unfold assemble
  split <;> rfl

@[simp] theorem codec_setState (state : SessionState) (session : Session) :
    (session.setState state).codec = session.codec :=
  congrArg Assembler.codec (sameStream_setState state session).1

@[simp] theorem codec_transition (expected next : SessionState) (session : Session) :
    (session.transition expected next).1.codec = session.codec :=
  congrArg Assembler.codec (sameStream_transition expected next session).1

private theorem setState_stopped_idem (session : Session) :
    (session.setState .stopped).setState .stopped = session.setState .stopped := by
  unfold setState
  by_cases stopped : session.state = .stopped
  · rw [if_pos stopped, if_pos stopped]
  · rw [if_neg stopped, if_pos rfl]

end Session

namespace SessionTable

/-- Every identifier that is bound leads to a session that carries it. -/
def Labelled (table : SessionTable) : Prop :=
  ∀ id handle, table.handle? id = some handle →
    ∃ session, table.session? handle = some session ∧ session.id = id

/-- The table has changed under one identifier only. -/
structure ChangesAt (id : String) (change : Option Session → Option Session)
    (table next : SessionTable) : Prop where
  labelled : next.Labelled
  get? : ∀ other, next.get? other = if other = id then change (table.get? other)
    else table.get? other

variable {table other : SessionTable} {id : String} {handle : Nat}

theorem get?_of_handle? (bound : table.handle? id = some handle) :
    table.get? id = table.session? handle := by
  rw [get?, bound, Option.bind_some]

theorem labelled_empty : empty.Labelled := fun _ _ => nofun

/-- No two identifiers share a handle. -/
private theorem Labelled.eq_of_handle? (labelled : table.Labelled) {first second : String}
    (bound : table.handle? first = some handle) (also : table.handle? second = some handle) :
    first = second := by
  obtain ⟨session, found, isFirst⟩ := labelled first handle bound
  obtain ⟨same, foundSame, isSecond⟩ := labelled second handle also
  obtain rfl := Option.some.inj (found.symm.trans foundSame)
  exact isFirst.symm.trans isSecond

private theorem Labelled.lt_size (labelled : table.Labelled)
    (bound : table.handle? id = some handle) : handle < table.sessions.size := by
  obtain ⟨_, found, _⟩ := labelled id handle bound
  exact (Array.getElem?_eq_some_iff.mp found).1

/-! ### Changes -/

theorem Labelled.modify (labelled : table.Labelled) (bound : table.handle? id = some handle)
    {change : Session → Session}
    (keeps : ∀ session, table.session? handle = some session → (change session).id = session.id) :
    table.ChangesAt id (Option.map change) (table.modify handle change) := by
  have sameBindings : ∀ other, (table.modify handle change).handle? other = table.handle? other :=
    fun _ => rfl
  constructor
  · intro other place boundOther
    rw [sameBindings] at boundOther
    obtain ⟨session, found, isOther⟩ := labelled other place boundOther
    rw [session?_modify, found]
    split
    · rename_i own
      exact ⟨change session, rfl, (keeps session (own ▸ found)).trans isOther⟩
    · exact ⟨session, rfl, isOther⟩
  · intro other
    unfold SessionTable.get?
    rw [sameBindings]
    cases boundOther : table.handle? other with
    | none => split <;> rfl
    | some place =>
        rw [Option.bind_some, Option.bind_some, session?_modify]
        by_cases own : other = id
        · obtain rfl := Option.some.inj (bound.symm.trans (own ▸ boundOther))
          rw [if_pos rfl, if_pos own]
        · -- The label of a session tells which identifier its handle belongs to.
          have differs : handle ≠ place := by
            rintro rfl
            exact own (labelled.eq_of_handle? boundOther bound)
          rw [if_neg differs, if_neg own]

private theorem Labelled.setState (labelled : table.Labelled) (id : String) (state : SessionState) :
    table.ChangesAt id (Option.map (Session.setState state)) (table.setState id state) := by
  unfold SessionTable.setState
  cases bound : table.handle? id with
  | none =>
      refine ⟨labelled, ?_⟩
      intro other
      by_cases own : other = id
      · rw [if_pos own, own, SessionTable.get?, bound]
        rfl
      · rw [if_neg own]
  | some handle => exact labelled.modify bound fun session _ => Session.id_setState state session

theorem handle?_insert_of_ne {session : Session} (differs : id ≠ session.id)
    (table : SessionTable) : (table.insert session).1.handle? id = table.handle? id := by
  unfold handle? insert
  rw [List.find?_append, find?_unbind_of_ne differs, List.find?_singleton,
    if_neg (by simpa using Ne.symm differs), Option.or_none]

theorem Labelled.insert (labelled : table.Labelled) (session : Session) :
    table.ChangesAt session.id (fun _ => some session) (table.insert session).1 := by
  have bound : (table.insert session).1.handle? session.id = some table.sessions.size :=
    (hosts_insert session table).bound
  have found : (table.insert session).1.session? table.sessions.size = some session := by
    rw [session?_insert, if_pos rfl]
  have others : ∀ other place, other ≠ session.id →
      (table.insert session).1.handle? other = some place →
        (table.insert session).1.session? place = table.session? place := by
    intro other place differs boundOther
    rw [handle?_insert_of_ne differs] at boundOther
    have below := labelled.lt_size boundOther
    rw [session?_insert, if_neg (by omega)]
  constructor
  · intro other place boundOther
    by_cases own : other = session.id
    · subst own
      obtain rfl := Option.some.inj (bound.symm.trans boundOther)
      exact ⟨session, found, rfl⟩
    · rw [others other place own boundOther]
      exact labelled other place (handle?_insert_of_ne own table ▸ boundOther)
  · intro other
    split
    · rename_i own
      rw [own, get?_of_handle? bound, found]
    · rename_i own
      have same := handle?_insert_of_ne own table
      unfold SessionTable.get?
      rw [← same]
      cases boundOther : (table.insert session).1.handle? other with
      | none => rfl
      | some place => exact others other place own boundOther

theorem Labelled.remove (labelled : table.Labelled) (id : String) :
    table.ChangesAt id (fun _ => none) (table.remove id) := by
  constructor
  · intro other place bound
    by_cases own : other = id
    · rw [own, handle?_remove] at bound
      cases bound
    · exact labelled other place (handle?_remove_of_ne own table ▸ bound)
  · intro other
    unfold SessionTable.get?
    split
    · rename_i own
      rw [own, handle?_remove]
      rfl
    · rename_i own
      rw [handle?_remove_of_ne own]
      rfl

/-! ### All sessions at once -/

theorem session?_foldl_stopped (bindings : List (String × Nat)) (handle : Nat)
    (table : SessionTable) :
    (bindings.foldl (fun table binding => table.modify binding.2 (Session.setState .stopped))
        table).session? handle =
      if handle ∈ bindings.map Prod.snd then (table.session? handle).map (Session.setState .stopped)
      else table.session? handle := by
  induction bindings generalizing table with
  | nil => rfl
  | cons binding rest ih =>
      rw [List.foldl_cons, ih, session?_modify]
      by_cases own : binding.2 = handle
      · have isFirst : handle ∈ (binding :: rest).map Prod.snd := List.mem_cons.mpr (.inl own.symm)
        rw [if_pos own, if_pos isFirst]
        split
        · rw [Option.map_map]
          congr 1
          funext session
          exact session.setState_stopped_idem
        · rfl
      · have others : handle ∈ (binding :: rest).map Prod.snd ↔ handle ∈ rest.map Prod.snd := by
          rw [List.map_cons, List.mem_cons]
          exact or_iff_right (Ne.symm own)
        rw [if_neg own, if_congr others rfl rfl]

theorem mem_bindings_of_handle? (bound : table.handle? id = some handle) :
    (id, handle) ∈ table.bindings := by
  obtain ⟨⟨own, place⟩, first, rfl⟩ := Option.map_eq_some_iff.mp bound
  obtain rfl : own = id := by simpa using List.find?_some first
  exact List.mem_of_find?_eq_some first

private theorem session?_stopAll (bound : table.handle? id = some handle) :
    table.stopAll.session? handle = (table.session? handle).map (Session.setState .stopped) := by
  have member : handle ∈ table.bindings.map Prod.snd :=
    List.mem_map_of_mem (mem_bindings_of_handle? bound)
  exact (session?_foldl_stopped table.bindings handle table).trans (if_pos member)

private theorem Labelled.stopAll (labelled : table.Labelled) :
    table.stopAll.Labelled ∧
      ∀ id, table.stopAll.get? id = (table.get? id).map (Session.setState .stopped) := by
  have sameHandles := (sameStreams_stopAll table).handle?_eq
  constructor
  · intro id handle bound
    rw [sameHandles] at bound
    obtain ⟨session, found, isLabel⟩ := labelled id handle bound
    rw [session?_stopAll bound, found]
    exact ⟨_, rfl, (Session.id_setState .stopped session).trans isLabel⟩
  · intro id
    cases bound : table.handle? id with
    | none =>
        rw [get?, get?, sameHandles, bound]
        rfl
    | some handle =>
        rw [get?_of_handle? bound, get?_of_handle? ((sameHandles id).trans bound),
          session?_stopAll bound]

/-! ### Two tables -/

/-- Under identifiers that are not of the chosen kind both tables have the same sessions, and under
those that are the first has none but JPEG sessions. -/
structure SameOutside (isInline : String → Bool) (table other : SessionTable) : Prop where
  labelled : table.Labelled
  labelledOther : other.Labelled
  isJpeg : ∀ id session, isInline id = true → table.get? id = some session → session.codec = .jpeg
  get? : ∀ id, isInline id = false → other.get? id = table.get? id

variable {isInline : String → Bool} {next last : SessionTable}

theorem sameOutside_empty (isInline : String → Bool) : empty.SameOutside isInline empty :=
  ⟨labelled_empty, labelled_empty, fun _ _ _ => nofun, fun _ _ => rfl⟩

theorem SameOutside.handle?_cases (same : table.SameOutside isInline other)
    (visible : isInline id = false) :
    (table.handle? id = none ∧ other.handle? id = none) ∨
      ∃ handle place, table.handle? id = some handle ∧ other.handle? id = some place := by
  have sameSession := same.get? id visible
  cases bound : table.handle? id with
  | none =>
      cases boundOther : other.handle? id with
      | none => exact .inl ⟨rfl, rfl⟩
      | some place =>
          obtain ⟨session, found, _⟩ := same.labelledOther id place boundOther
          rw [get?_of_handle? boundOther, found, SessionTable.get?, bound] at sameSession
          cases sameSession
  | some handle =>
      cases boundOther : other.handle? id with
      | none =>
          obtain ⟨session, found, _⟩ := same.labelled id handle bound
          rw [get?_of_handle? bound, found, SessionTable.get?, boundOther] at sameSession
          cases sameSession
      | some place => exact .inr ⟨handle, place, rfl, rfl⟩

/-- The same change is made to both tables. -/
theorem SameOutside.changes (same : table.SameOutside isInline other)
    {change : Option Session → Option Session} (changes : table.ChangesAt id change next)
    (changesOther : other.ChangesAt id change last)
    (isJpeg : isInline id = true → ∀ session, change (table.get? id) = some session →
      session.codec = .jpeg) : next.SameOutside isInline last := by
  refine ⟨changes.labelled, changesOther.labelled, ?_, ?_⟩
  · intro own session inline found
    rw [changes.get?] at found
    split at found
    · rename_i isId
      rw [isId] at inline found
      exact isJpeg inline session found
    · exact same.isJpeg own session inline found
  · intro own visible
    rw [changes.get?, changesOther.get?, same.get? own visible]

/-- A change under a chosen identifier is not seen under the others. -/
theorem SameOutside.changes_inline (same : table.SameOutside isInline other)
    {change : Option Session → Option Session} (changes : table.ChangesAt id change next)
    (inline : isInline id = true)
    (isJpeg : ∀ session, change (table.get? id) = some session → session.codec = .jpeg) :
    next.SameOutside isInline other := by
  refine ⟨changes.labelled, same.labelledOther, ?_, ?_⟩
  · intro own session ownInline found
    rw [changes.get?] at found
    split at found
    · rename_i isId
      rw [isId] at found
      exact isJpeg session found
    · exact same.isJpeg own session ownInline found
  · intro own visible
    have differs : own ≠ id := by
      rintro rfl
      exact Bool.false_ne_true (visible.symm.trans inline)
    rw [changes.get?, if_neg differs]
    exact same.get? own visible

theorem SameOutside.modify (same : table.SameOutside isInline other)
    (visible : isInline id = false) (bound : table.handle? id = some handle) {place : Nat}
    (boundOther : other.handle? id = some place) {change : Session → Session}
    (keeps : ∀ session, table.get? id = some session → (change session).id = session.id) :
    (table.modify handle change).SameOutside isInline (other.modify place change) := by
  refine same.changes (same.labelled.modify bound ?_) (same.labelledOther.modify boundOther ?_) ?_
  · intro session found
    exact keeps session ((get?_of_handle? bound).trans found)
  · intro session found
    apply keeps session
    rw [← same.get? id visible, get?_of_handle? boundOther, found]
  · intro inline
    exact absurd (visible.symm.trans inline) Bool.false_ne_true

theorem SameOutside.modify_inline (same : table.SameOutside isInline other)
    (inline : isInline id = true) (bound : table.handle? id = some handle)
    {change : Session → Session}
    (keeps : ∀ session, table.get? id = some session →
      (change session).id = session.id ∧ (change session).codec = session.codec) :
    (table.modify handle change).SameOutside isInline other := by
  refine same.changes_inline (same.labelled.modify bound ?_) inline ?_
  · intro session found
    exact (keeps session ((get?_of_handle? bound).trans found)).1
  · intro session found
    obtain ⟨before, foundBefore, rfl⟩ := Option.map_eq_some_iff.mp found
    rw [(keeps before foundBefore).2]
    exact same.isJpeg id before inline foundBefore

theorem SameOutside.update {α : Type} (same : table.SameOutside isInline other)
    (visible : isInline id = false) (bound : table.handle? id = some handle) {place : Nat}
    (boundOther : other.handle? id = some place) {step : Session → Session × α}
    (keeps : ∀ session : Session, (step session).1.id = session.id) :
    (other.update place step).2 = (table.update handle step).2 ∧
      (table.update handle step).1.SameOutside isInline (other.update place step).1 := by
  obtain ⟨session, found, _⟩ := same.labelled id handle bound
  have sameSession := same.get? id visible
  rw [get?_of_handle? bound, get?_of_handle? boundOther, found] at sameSession
  rw [update_of_session? found, update_of_session? sameSession]
  refine ⟨rfl, same.modify visible bound boundOther ?_⟩
  intro before foundBefore
  rw [get?_of_handle? bound, found] at foundBefore
  obtain rfl := Option.some.inj foundBefore
  exact keeps session

theorem SameOutside.setState (same : table.SameOutside isInline other) (id : String)
    (state : SessionState) :
    (table.setState id state).SameOutside isInline (other.setState id state) := by
  apply same.changes (same.labelled.setState id state) (same.labelledOther.setState id state)
  intro inline session found
  obtain ⟨before, foundBefore, rfl⟩ := Option.map_eq_some_iff.mp found
  rw [Session.codec_setState]
  exact same.isJpeg id before inline foundBefore

theorem SameOutside.stopAll (same : table.SameOutside isInline other) :
    table.stopAll.SameOutside isInline other.stopAll := by
  obtain ⟨labelled, stopped⟩ := same.labelled.stopAll
  obtain ⟨labelledOther, stoppedOther⟩ := same.labelledOther.stopAll
  refine ⟨labelled, labelledOther, ?_, ?_⟩
  · intro id session inline found
    rw [stopped] at found
    obtain ⟨before, foundBefore, rfl⟩ := Option.map_eq_some_iff.mp found
    rw [Session.codec_setState]
    exact same.isJpeg id before inline foundBefore
  · intro id visible
    rw [stopped, stoppedOther, same.get? id visible]

end SessionTable
end VideoIngest
