import Mathlib.Data.List.Induction
import VideoIngest.Proofs.Session.Hosts

/-!
The states of sessions, and what leaves them as they are.

A session may be decoding only once it has announced a format that could be acted on, and then its
state says whether a decoder is live.
-/

namespace VideoIngest

namespace SessionState

/-- The state of a session whose format has been acted on. -/
def afterAttempt (isLive : Bool) : SessionState := if isLive then decoding else awaitingFormat

/-- The states that are open to a session, by whether it has announced a format that could be acted
on and whether a decoder is live. -/
def IsDue (announced isLive : Bool) : SessionState → Prop
  | codecKnown => announced = false
  | awaitingFormat => announced = true → isLive = false
  | decoding => announced = true ∧ isLive = true
  | stopped => False

private theorem isDue_afterAttempt (isLive : Bool) : (afterAttempt isLive).IsDue true isLive := by
  cases isLive with
  | false => exact fun _ => rfl
  | true => exact ⟨rfl, rfl⟩

theorem IsDue.eq_afterAttempt {isLive : Bool} {state : SessionState}
    (due : state.IsDue true isLive) : state = afterAttempt isLive := by
  cases state with
  | codecKnown => contradiction
  | awaitingFormat =>
      rw [due rfl]
      rfl
  | decoding =>
      rw [due.2]
      rfl
  | stopped => contradiction

end SessionState

def Session.standing (session : Session) : Codec × SessionState := (session.codec, session.state)

namespace SessionTable

def codec? (handle : Nat) (table : SessionTable) : Option Codec :=
  (table.session? handle).map Session.codec

structure SameStates (table other : SessionTable) : Prop where
  bindings : other.bindings = table.bindings
  standing : ∀ handle, (other.session? handle).map Session.standing =
    (table.session? handle).map Session.standing

variable {table other : SessionTable}

theorem SameStates.refl (table : SessionTable) : table.SameStates table := ⟨rfl, fun _ => rfl⟩

theorem SameStates.trans {last : SessionTable} (before : table.SameStates other)
    (behind : other.SameStates last) : table.SameStates last :=
  ⟨behind.bindings.trans before.bindings,
    fun handle => (behind.standing handle).trans (before.standing handle)⟩

theorem sameStates_modify {change : Session → Session} {handle : Nat} {table : SessionTable}
    (same : ∀ session, table.session? handle = some session →
      (change session).standing = session.standing) :
    table.SameStates (table.modify handle change) := by
  refine ⟨rfl, ?_⟩
  intro other
  rw [session?_modify]
  by_cases own : handle = other
  · subst own
    rw [if_pos rfl]
    cases found : table.session? handle with
    | none => rfl
    | some session => exact congrArg some (same session found)
  · rw [if_neg own]

theorem sameStates_update {α : Type} {step : Session → Session × α}
    (same : ∀ session : Session, (step session).1.standing = session.standing) (handle : Nat)
    (table : SessionTable) : table.SameStates (table.update handle step).1 := by
  unfold update
  cases found : table.session? handle with
  | none => exact .refl table
  | some session =>
      apply sameStates_modify
      intro before foundBefore
      obtain rfl := Option.some.inj (found.symm.trans foundBefore)
      exact same session

theorem SameStates.handle?_eq (same : table.SameStates other) (id : String) :
    other.handle? id = table.handle? id := handle?_congr same.bindings id

theorem SameStates.codec?_eq (same : table.SameStates other) (handle : Nat) :
    other.codec? handle = table.codec? handle := by
  have first := congrArg (Option.map Prod.fst) (same.standing handle)
  rw [Option.map_map, Option.map_map] at first
  exact first

theorem SameStreams.codec?_eq (same : table.SameStreams other) (handle : Nat) :
    other.codec? handle = table.codec? handle := by
  unfold codec?
  cases found : other.session? handle with
  | none =>
      have absent : table.session? handle = none := by
        have outside := Array.getElem?_eq_none_iff.mp found
        exact Array.getElem?_eq_none_iff.mpr (same.size ▸ outside)
      rw [absent]
  | some session =>
      obtain ⟨before, foundBefore, sameStream⟩ := same.streams handle session found
      rw [foundBefore, Option.map_some, Option.map_some, Session.codec, sameStream.1]
      rfl

theorem handle?_remove (id : String) (table : SessionTable) :
    (table.remove id).handle? id = none := by
  unfold handle? remove
  rw [find?_unbind]
  rfl

theorem codec?_insert (session : Session) (handle : Nat) (table : SessionTable) :
    (table.insert session).1.codec? handle =
      if handle = table.sessions.size then some session.codec else table.codec? handle := by
  unfold codec?
  rw [session?_insert]
  split <;> rfl

theorem handle?_remove_of_ne {id other : String} (differs : other ≠ id) (table : SessionTable) :
    (table.remove id).handle? other = table.handle? other := by
  unfold handle? remove
  rw [find?_unbind_of_ne differs]

theorem state?_remove (id other : String) (table : SessionTable) :
    (table.remove id).state? other = if other = id then none else table.state? other := by
  unfold state? get?
  by_cases same : other = id
  · rw [if_pos same, same, handle?_remove]
    rfl
  · rw [if_neg same, handle?_remove_of_ne same]
    rfl

/-! ### Stopped sessions -/

/-- The session of this handle, if there is one, has been stopped. -/
def HasStopped (handle : Nat) (table : SessionTable) : Prop :=
  ∀ session, table.session? handle = some session → session.state = .stopped

def AreStopped (table : SessionTable) : Prop :=
  ∀ binding ∈ table.bindings, table.HasStopped binding.2

private theorem hasStopped_modify (handle : Nat) (table : SessionTable) :
    (table.modify handle (Session.setState .stopped)).HasStopped handle := by
  intro session found
  rw [session?_modify, if_pos rfl] at found
  obtain ⟨before, _, rfl⟩ := Option.map_eq_some_iff.mp found
  unfold Session.setState
  split
  · assumption
  · rfl

theorem HasStopped.modify {handle : Nat} (stopped : table.HasStopped handle) (other : Nat)
    (next : SessionState) : (table.modify other (Session.setState next)).HasStopped handle := by
  intro session found
  rw [session?_modify] at found
  by_cases own : other = handle
  · rw [if_pos own] at found
    obtain ⟨before, foundBefore, rfl⟩ := Option.map_eq_some_iff.mp found
    rw [Session.setState, if_pos (stopped before foundBefore)]
    exact stopped before foundBefore
  · rw [if_neg own] at found
    exact stopped session found

theorem areStopped_stopAll (table : SessionTable) : table.stopAll.AreStopped := by
  intro binding
  rw [(sameStreams_stopAll table).bindings]
  unfold stopAll
  induction table.bindings using List.reverseRecOn with
  | nil => exact fun member => nomatch member
  | append_singleton bindings last ih =>
      intro member
      rw [List.foldl_append]
      rcases List.mem_append.mp member with earlier | isLast
      · exact (ih earlier).modify last.2 .stopped
      · obtain rfl := List.mem_singleton.mp isLast
        exact hasStopped_modify _ _

theorem AreStopped.setState (stopped : table.AreStopped) (id : String) (next : SessionState) :
    (table.setState id next).AreStopped := by
  unfold SessionTable.setState
  cases table.handle? id with
  | none => exact stopped
  | some handle => exact fun binding member => (stopped binding member).modify handle next

theorem AreStopped.remove (stopped : table.AreStopped) (id : String) :
    (table.remove id).AreStopped :=
  fun binding member => stopped binding (List.mem_filter.mp member).1

theorem AreStopped.state?_eq (stopped : other.AreStopped) (same : table.SameStreams other)
    (id : String) : other.state? id = (table.state? id).map fun _ => .stopped := by
  unfold state? get?
  rw [same.handle?_eq]
  cases bound : table.handle? id with
  | none => rfl
  | some handle =>
      obtain ⟨binding, first, rfl⟩ := Option.map_eq_some_iff.mp bound
      have member : binding ∈ other.bindings := by
        rw [same.bindings]
        exact List.mem_of_find?_eq_some first
      rw [Option.bind_some, Option.bind_some]
      cases found : other.session? binding.2 with
      | none =>
          have outside := Array.getElem?_eq_none_iff.mp found
          rw [show table.session? binding.2 = none from
            Array.getElem?_eq_none_iff.mpr (same.size ▸ outside)]
          rfl
      | some session =>
          obtain ⟨before, foundBefore, _⟩ := same.streams _ session found
          rw [foundBefore, Option.map_some, stopped binding member session found]
          rfl

/-! ### The session of an identifier -/

variable {id : String} {handle : Nat} {announced isLive : Bool}

/-- The identifier leads to the session of this handle, and the session is in a state that is
due. -/
structure Shows (id : String) (handle : Nat) (announced isLive : Bool)
    (table : SessionTable) : Prop where
  bound : table.handle? id = some handle
  state : ∃ session, table.session? handle = some session ∧ session.state.IsDue announced isLive

theorem Shows.setState (shows : table.Shows id handle announced isLive) (live : Bool) :
    (table.setState id (.afterAttempt live)).Shows id handle true live := by
  obtain ⟨session, found, due⟩ := shows.state
  have going : session.state ≠ .stopped := by
    intro stopped
    rw [stopped] at due
    exact due
  unfold SessionTable.setState
  rw [shows.bound]
  refine ⟨shows.bound, { session with state := .afterAttempt live }, ?_,
    SessionState.isDue_afterAttempt live⟩
  rw [session?_modify, if_pos rfl, found, Option.map_some, Session.setState, if_neg going]

/-- A session that waits for its first format may do so from its first chunk on. -/
theorem Shows.transition (shows : table.Shows id handle announced isLive) :
    (table.update handle (Session.transition .codecKnown .awaitingFormat)).1.Shows id handle
      announced isLive := by
  obtain ⟨session, found, due⟩ := shows.state
  have sameStreams := sameStreams_update
    (Session.sameStream_transition .codecKnown .awaitingFormat) handle table
  refine ⟨(sameStreams.handle?_eq id).trans shows.bound,
    (session.transition .codecKnown .awaitingFormat).1, ?_, ?_⟩
  · exact session?_update found _
  · unfold Session.transition
    by_cases first : session.state = .codecKnown
    · rw [if_pos first]
      rw [first] at due
      intro announces
      exact absurd (due.symm.trans announces) Bool.false_ne_true
    · rw [if_neg first]
      exact due

theorem Shows.sameStates (shows : table.Shows id handle announced isLive)
    (same : table.SameStates other) : other.Shows id handle announced isLive := by
  obtain ⟨session, found, due⟩ := shows.state
  have standing := same.standing handle
  rw [found] at standing
  obtain ⟨after, foundAfter, sameStanding⟩ := Option.map_eq_some_iff.mp standing
  refine ⟨(same.handle?_eq id).trans shows.bound, after, foundAfter, ?_⟩
  rw [show after.state = session.state from congrArg Prod.snd sameStanding]
  exact due

end SessionTable
end VideoIngest
