import VideoIngest.Proofs.DecodeLoop.Order

/-! Changes of a session table that leave every stream where it is. -/

namespace VideoIngest

namespace Session

/-- Both sessions stand at the same point of the same stream. -/
def SameStream (session other : Session) : Prop :=
  other.assembler = session.assembler ∧ other.lastTimestamp = session.lastTimestamp

theorem sameStream_setState (state : SessionState) (session : Session) :
    session.SameStream (session.setState state) := by
  unfold setState
  split
  · exact ⟨rfl, rfl⟩
  · exact ⟨rfl, rfl⟩

theorem sameStream_transition (expected next : SessionState) (session : Session) :
    session.SameStream (session.transition expected next).1 := by
  unfold transition
  split
  · exact ⟨rfl, rfl⟩
  · exact ⟨rfl, rfl⟩

theorem SameStream.rfl {session : Session} : session.SameStream session := ⟨Eq.refl _, Eq.refl _⟩

theorem SameStream.trans {first second third : Session} (before : first.SameStream second)
    (behind : second.SameStream third) : first.SameStream third :=
  ⟨behind.1.trans before.1, behind.2.trans before.2⟩

end Session

namespace SessionTable

theorem session?_modify (handle other : Nat) (change : Session → Session) (table : SessionTable) :
    (table.modify handle change).session? other =
      if handle = other then (table.session? other).map change else table.session? other :=
  Array.getElem?_modify

theorem update_of_session? {α : Type} {handle : Nat} {session : Session} {table : SessionTable}
    (found : table.session? handle = some session) (step : Session → Session × α) :
    table.update handle step =
      (table.modify handle fun _ => (step session).1, some (step session).2) := by
  unfold update
  rw [found]

theorem session?_update {α : Type} {handle : Nat} {session : Session} {table : SessionTable}
    (found : table.session? handle = some session) (step : Session → Session × α) :
    (table.update handle step).1.session? handle = some (step session).1 := by
  rw [update_of_session? found, session?_modify, if_pos rfl, found]
  rfl

theorem modify_congr {table : SessionTable} {handle : Nat} {session : Session}
    (found : table.session? handle = some session) {change other : Session → Session}
    (same : change session = other session) :
    table.modify handle change = table.modify handle other := by
  unfold modify
  congr 1
  apply Array.ext_getElem?
  intro place
  rw [Array.getElem?_modify, Array.getElem?_modify]
  by_cases own : handle = place
  · subst own
    rw [if_pos rfl, if_pos rfl]
    change (table.session? handle).map change = (table.session? handle).map other
    rw [found, Option.map_some, Option.map_some, same]
  · rw [if_neg own, if_neg own]

theorem modify_self {table : SessionTable} {handle : Nat} {session : Session}
    (found : table.session? handle = some session) :
    (table.modify handle fun _ => session) = table := by
  unfold modify
  congr 1
  apply Array.ext_getElem?
  intro place
  rw [Array.getElem?_modify]
  by_cases own : handle = place
  · subst own
    rw [if_pos rfl]
    change (table.session? handle).map _ = table.session? handle
    rw [found, Option.map_some]
  · rw [if_neg own]

theorem handle?_congr {table other : SessionTable} (same : other.bindings = table.bindings)
    (id : String) : other.handle? id = table.handle? id := by
  unfold handle?
  rw [same]

structure SameStreams (table other : SessionTable) : Prop where
  bindings : other.bindings = table.bindings
  size : other.sessions.size = table.sessions.size
  streams : ∀ handle session, other.session? handle = some session →
    ∃ before, table.session? handle = some before ∧ before.SameStream session

variable {table other : SessionTable}

theorem SameStreams.refl (table : SessionTable) : table.SameStreams table :=
  ⟨rfl, rfl, fun _ session found => ⟨session, found, .rfl⟩⟩

theorem SameStreams.trans {last : SessionTable} (before : table.SameStreams other)
    (behind : other.SameStreams last) : table.SameStreams last := by
  refine ⟨behind.bindings.trans before.bindings, behind.size.trans before.size, ?_⟩
  intro handle session found
  obtain ⟨middle, foundMiddle, toLast⟩ := behind.streams handle session found
  obtain ⟨first, foundFirst, toMiddle⟩ := before.streams handle middle foundMiddle
  exact ⟨first, foundFirst, toMiddle.trans toLast⟩

theorem SameStreams.handle?_eq (same : table.SameStreams other) (id : String) :
    other.handle? id = table.handle? id := handle?_congr same.bindings id

theorem size_modify (handle : Nat) (change : Session → Session) (table : SessionTable) :
    (table.modify handle change).sessions.size = table.sessions.size :=
  Array.size_modify

theorem sameStreams_modify {change : Session → Session}
    (same : ∀ session : Session, session.SameStream (change session)) (handle : Nat)
    (table : SessionTable) : table.SameStreams (table.modify handle change) := by
  refine ⟨rfl, size_modify handle change table, ?_⟩
  intro other session found
  rw [session?_modify] at found
  by_cases own : handle = other
  · rw [if_pos own] at found
    obtain ⟨before, foundBefore, rfl⟩ := Option.map_eq_some_iff.mp found
    exact ⟨before, foundBefore, same before⟩
  · rw [if_neg own] at found
    exact ⟨session, found, .rfl⟩

theorem sameStreams_setState (id : String) (state : SessionState) (table : SessionTable) :
    table.SameStreams (table.setState id state) := by
  unfold setState
  cases table.handle? id with
  | none => exact .refl table
  | some handle => exact sameStreams_modify (Session.sameStream_setState state) handle table

theorem sameStreams_stopAll (table : SessionTable) : table.SameStreams table.stopAll := by
  unfold stopAll
  generalize table.bindings = bindings
  induction bindings generalizing table with
  | nil => exact .refl table
  | cons binding rest ih =>
      have first := sameStreams_modify (Session.sameStream_setState .stopped) binding.2 table
      exact first.trans (ih _)

theorem sameStreams_update {α : Type} {step : Session → Session × α}
    (same : ∀ session : Session, session.SameStream (step session).1) (handle : Nat)
    (table : SessionTable) : table.SameStreams (table.update handle step).1 := by
  unfold update
  cases found : table.session? handle with
  | none => exact .refl table
  | some session =>
      refine ⟨rfl, size_modify _ _ table, ?_⟩
      intro other next foundNext
      change (table.modify handle _).session? other = some next at foundNext
      rw [session?_modify] at foundNext
      by_cases own : handle = other
      · rw [if_pos own, ← own, found] at foundNext
        obtain rfl := Option.some.inj foundNext
        exact ⟨session, own ▸ found, same session⟩
      · rw [if_neg own] at foundNext
        exact ⟨next, foundNext, .rfl⟩

theorem bindings_update {α : Type} (handle : Nat) (step : Session → Session × α)
    (table : SessionTable) : (table.update handle step).1.bindings = table.bindings := by
  unfold update
  cases table.session? handle <;> rfl

theorem size_update {α : Type} (handle : Nat) (step : Session → Session × α)
    (table : SessionTable) : (table.update handle step).1.sessions.size = table.sessions.size := by
  unfold update
  cases table.session? handle with
  | none => rfl
  | some session => exact size_modify _ _ table

theorem exists_session? {handle : Nat} (opened : handle < table.sessions.size) :
    ∃ session, table.session? handle = some session :=
  ⟨table.sessions[handle], Array.getElem?_eq_getElem opened⟩

theorem session?_insert (session : Session) (handle : Nat) (table : SessionTable) :
    (table.insert session).1.session? handle =
      if handle = table.sessions.size then some session else table.session? handle :=
  Array.getElem?_push

theorem find?_unbind (id : String) (bindings : List (String × Nat)) :
    (unbind id bindings).find? (fun binding => binding.1 == id) = none := by
  rw [List.find?_eq_none]
  intro binding member
  have differs := (List.mem_filter.mp member).2
  simpa using differs

theorem find?_unbind_of_ne {id other : String} (differs : other ≠ id)
    (bindings : List (String × Nat)) :
    (unbind id bindings).find? (fun binding => binding.1 == other) =
      bindings.find? fun binding => binding.1 == other := by
  rw [unbind, List.find?_filter]
  congr 1
  funext binding
  by_cases bound : binding.1 = other
  · simp [bound, differs]
  · simp [bound]

end SessionTable

namespace DecodeLoop

/-- The decode loop changes nothing but the states of sessions. -/
private theorem sameStreams_handle (event : IngestEvent) (loop : DecodeLoop) :
    loop.sessions.SameStreams (loop.handle event).1.sessions := by
  cases event with
  | formatChange session format =>
      simp only [handle, onFormat]
      cases loop.slot.applyFormat format with
      | mk slot outcome =>
          dsimp only
          cases stateAfter outcome with
          | none => exact .refl _
          | some state => exact SessionTable.sameStreams_setState session state _
  | frame frame =>
      simp only [handle, onFrame]
      split
      · exact .refl _
      · split
        · exact .refl _
        · exact .refl _
        · exact .refl _
  | stop => exact .refl _

theorem sameStreams_process (events : List IngestEvent) (loop : DecodeLoop) :
    loop.sessions.SameStreams (loop.process events).1.sessions := by
  induction events generalizing loop with
  | nil => exact .refl _
  | cons event rest ih => exact (sameStreams_handle event loop).trans (ih _)

end DecodeLoop
end VideoIngest
