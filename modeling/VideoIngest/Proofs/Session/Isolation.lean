import VideoIngest.Proofs.Session.Reflected

/-!
A table of sessions as a finite map of sessions that stand apart.

A request by identifier changes the state of the session that the identifier leads to, and nothing
else. A session that was replaced or removed is changed by its holder only, and no session goes on in
its stream but at the request of its holder.
-/

namespace VideoIngest

namespace SessionTable

variable {requests : List TableRequest} {handle : Nat} {id : String}

/-! ### Sessions that no identifier leads to -/

theorem insertedBy_append (front back : List TableRequest) :
    insertedBy (front ++ back) = insertedBy front ++ insertedBy back :=
  List.filterMap_append

/-- No identifier comes to lead to a session again. -/
theorem isBoundBy_append (inside : handle < (insertedBy requests).length)
    (unbound : isBoundBy requests handle = false) (later : List TableRequest) :
    isBoundBy (requests ++ later) handle = false := by
  induction later using List.reverseRecOn with
  | nil =>
      rw [List.append_nil]
      exact unbound
  | append_singleton later request ih =>
      rw [← List.append_assoc]
      rw [Bool.eq_false_iff, Ne, isBoundBy_iff] at ih ⊢
      rintro ⟨id, bound⟩
      rw [boundBy_append_singleton] at bound
      cases rebound : rebinds id (requests ++ later) request with
      | none =>
          rw [rebound, Option.getD_none] at bound
          exact ih ⟨id, bound⟩
      | some leads =>
          rw [rebound, Option.getD_some] at bound
          rw [bound] at rebound
          obtain ⟨_, _, _, isNew⟩ := insert_of_rebinds rebound
          rw [insertedBy_append, List.length_append] at isNew
          omega

private theorem asksBy_of_unbound (inside : handle < (insertedBy requests).length)
    (unbound : isBoundBy requests handle = false) (request : TableRequest) :
    asksBy handle requests request = request.asked? handle := by
  cases request with
  | insert session => rfl
  | get id => rfl
  | remove id => rfl
  | state id => rfl
  | setState id next =>
      apply if_neg
      intro bound
      rw [isBoundBy_iff.mpr ⟨id, bound⟩] at unbound
      cases unbound
  | stopAll =>
      simp only [asksBy, unbound, Bool.false_eq_true, if_false]
      rfl
  | ask other request => simp only [asksBy, TableRequest.asked?, inside, and_true]

private theorem askedBy_append_of_unbound (inside : handle < (insertedBy requests).length)
    (unbound : isBoundBy requests handle = false) (later : List TableRequest) :
    askedBy handle (requests ++ later) =
      askedBy handle requests ++ later.filterMap (TableRequest.asked? handle) := by
  rw [askedBy, History.collect_append, ← History.collect_eq_filterMap]
  congr 1
  apply History.collect_congr
  intro earlier request _ _
  refine asksBy_of_unbound ?_ (isBoundBy_append inside unbound earlier) request
  rw [insertedBy_append, List.length_append]
  omega

end SessionTable

/-! ### Streams -/

namespace Session

variable {session other : Session}

private theorem setState_eq (next : SessionState) (session : Session) :
    session.setState next = { session with state := (session.setState next).state } := by
  unfold setState
  split <;> rfl

private theorem setState_stopped_eq (session : Session) :
    session.setState .stopped = { session with state := .stopped } := by
  unfold setState
  split
  · rename_i stopped
    rw [← stopped]
  · rfl

theorem SameStream.answer (same : session.SameStream other) (request : SessionRequest) :
    (session.answer request).1.SameStream (other.answer request).1 := by
  obtain ⟨assembles, stands⟩ := same
  cases request with
  | setState next =>
      have first := sameStream_setState next session
      have second := sameStream_setState next other
      exact ⟨second.1.trans (assembles.trans first.1.symm),
        second.2.trans (stands.trans first.2.symm)⟩
  | transition expected next =>
      have first := sameStream_transition expected next session
      have second := sameStream_transition expected next other
      exact ⟨second.1.trans (assembles.trans first.1.symm),
        second.2.trans (stands.trans first.2.symm)⟩
  | acceptTimestamp timestamp drops =>
      have sameRule : other.isRegression timestamp = session.isRegression timestamp := by
        rw [isRegression, isRegression, stands]
      simp only [Session.answer, acceptTimestamp, sameRule]
      by_cases regresses : (drops && session.isRegression timestamp) = true
      · rw [if_pos regresses, if_pos regresses]
        exact ⟨assembles, stands⟩
      · rw [if_neg regresses, if_neg regresses]
        exact ⟨assembles, Eq.refl _⟩
  | assemble chunk timestamp =>
      simp only [Session.answer, Session.assemble, assembles]
      split
      · exact ⟨assembles, stands⟩
      · exact ⟨Eq.refl _, stands⟩

end Session

namespace SessionTable

variable {table : SessionTable} {handle : Nat} {session : Session}

/-- Only the holder of a session asks it to go on in its stream. -/
private theorem sameStream_after_asks {other : Session} (same : session.SameStream other)
    (handle : Nat) (table : SessionTable) (request : TableRequest) :
    (session.after (request.asked? handle).toList).SameStream
      (other.after (table.asks handle request).toList) := by
  cases request with
  | insert _ => exact same
  | get _ => exact same
  | remove _ => exact same
  | state _ => exact same
  | setState id next =>
      simp only [asks]
      split
      · exact same.trans (Session.sameStream_setState next other)
      · exact same
  | stopAll =>
      simp only [asks]
      split
      · exact same.trans (Session.sameStream_setState .stopped other)
      · exact same
  | ask own request =>
      simp only [asks, TableRequest.asked?]
      split
      · exact same.answer request
      · exact same

theorem exists_sameStream_run (found : table.session? handle = some session)
    (later : List TableRequest) :
    ∃ last, (table.run later).session? handle = some last ∧
      (session.after (later.filterMap (TableRequest.asked? handle))).SameStream last := by
  induction later using List.reverseRecOn with
  | nil => exact ⟨session, found, .rfl⟩
  | append_singleton later request ih =>
      obtain ⟨before, foundBefore, same⟩ := ih
      refine ⟨_, (congrArg (session? · handle) (run_append_singleton later request table)).trans
        (session?_answer foundBefore request), ?_⟩
      rw [History.filterMap_append_singleton, Session.after_append]
      exact sameStream_after_asks same handle _ request

/-! ### The map -/

variable {requests : List TableRequest} {id : String}

/-- The table is the finite map of what requests have bound, and it answers as this map does. -/
structure IsMapOf (requests : List TableRequest) (table : SessionTable) : Prop where
  leads : ∀ id, table.handle? id = boundBy requests id
  nodup : table.ids.Nodup
  mem_ids : ∀ id, id ∈ table.ids ↔ (boundBy requests id).isSome = true
  size : table.size = table.ids.length
  isEmpty : table.isEmpty = true ↔ ∀ id, boundBy requests id = none
  inserts : ∀ session, (table.answer (.insert session)).2 =
    .inserted (insertedBy requests).length (boundBy requests session.id)
  finds : ∀ id, table.answer (.get id) = (table, .found (boundBy requests id))
  shows : ∀ id, table.answer (.state id) =
    (table, .state (((boundBy requests id).bind table.session?).map Session.state))
  removes : ∀ id, (table.answer (.remove id)).2 = .found (boundBy requests id)

/-- Each session is what its own requests have made of it, and stays apart from the others. -/
structure KeepsApart (requests : List TableRequest) (table : SessionTable) : Prop where
  sessions : ∀ handle, table.session? handle =
    (insertedBy requests)[handle]?.map fun session => session.after (askedBy handle requests)
  setState : ∀ id next handle session, table.session? handle = some session →
    (table.answer (.setState id next)).1.session? handle =
      some (if boundBy requests id = some handle then
        { session with state := (session.setState next).state } else session)
  setState_unbound : ∀ id next, boundBy requests id = none →
    (table.answer (.setState id next)).1 = table
  stopAll : ∀ handle session, table.session? handle = some session →
    (table.answer .stopAll).1.session? handle =
      some (if isBoundBy requests handle then { session with state := .stopped } else session)
  bindings : ∀ handle session, table.session? handle = some session →
    (∀ other, (table.answer (.insert other)).1.session? handle = some session) ∧
      ∀ id, (table.answer (.remove id)).1.session? handle = some session
  released : ∀ handle < (insertedBy requests).length, isBoundBy requests handle = false →
    ∀ later, (table.run later).session? handle = (table.session? handle).map fun session =>
      session.after (later.filterMap (TableRequest.asked? handle))
  streams : ∀ handle session, table.session? handle = some session →
    ∀ later, ∃ last, (table.run later).session? handle = some last ∧
      (session.after (later.filterMap (TableRequest.asked? handle))).SameStream last

theorem Reflects.mem_ids_iff (reflects : Reflects requests table) :
    id ∈ table.ids ↔ (boundBy requests id).isSome = true := by
  rw [← reflects.handle?, Option.isSome_iff_exists]
  constructor
  · intro member
    obtain ⟨⟨_, handle⟩, isBinding, rfl⟩ := List.mem_map.mp member
    exact ⟨handle, (handle?_eq_some_iff reflects.nodup).mpr isBinding⟩
  · rintro ⟨handle, bound⟩
    exact List.mem_map_of_mem (mem_bindings_of_handle? bound)

theorem Reflects.isMapOf (reflects : Reflects requests table) : IsMapOf requests table where
  leads := reflects.handle?
  nodup := reflects.nodup
  mem_ids := fun _ => reflects.mem_ids_iff
  size := (List.length_map _).symm
  isEmpty := by
    have noIds : table.isEmpty = true ↔ table.ids = [] := by
      rw [isEmpty, List.isEmpty_iff, ids, List.map_eq_nil_iff]
    rw [noIds, List.eq_nil_iff_forall_not_mem]
    apply forall_congr'
    intro id
    rw [reflects.mem_ids_iff, Option.not_isSome_iff_eq_none]
  inserts := by
    intro session
    change TableResponse.inserted table.sessions.size (table.handle? session.id) = _
    rw [reflects.size, reflects.handle?]
  finds := by
    intro id
    rw [answer, reflects.handle?]
  shows := by
    intro id
    rw [answer, state?, get?, reflects.handle?]
  removes := by
    intro id
    change TableResponse.found (table.handle? id) = _
    rw [reflects.handle?]

theorem Reflects.keepsApart (reflects : Reflects requests table) : KeepsApart requests table where
  sessions := reflects.session?
  setState := by
    intro id next handle session found
    rw [session?_answer found, asks, reflects.handle?]
    split
    · exact congrArg some (session.setState_eq next)
    · rfl
  setState_unbound := by
    intro id next unbound
    change table.setState id next = table
    rw [SessionTable.setState, reflects.handle?, unbound]
  stopAll := by
    intro handle session found
    rw [session?_answer found, asks, if_congr reflects.mem_handles_iff rfl rfl]
    split
    · exact congrArg some session.setState_stopped_eq
    · rfl
  bindings := fun _ _ found =>
    ⟨fun other => session?_answer found (.insert other), fun id => session?_answer found (.remove id)⟩
  released := by
    intro handle inside unbound later
    rw [(reflects.run later).session?, reflects.session?, insertedBy_append,
      List.getElem?_append_left inside, Option.map_map]
    congr 1
    funext session
    rw [askedBy_append_of_unbound inside unbound, Session.after_append]
    rfl
  streams := fun _ _ found => exists_sameStream_run found

/-- After any requests to an empty table and to the sessions inserted into it, the table is the finite
map from each identifier to the session that was inserted last under it and has not been removed
since, and its sessions stand apart from one another. -/
theorem run_is_map_of_sessions (requests : List TableRequest) :
    IsMapOf requests (empty.run requests) ∧ KeepsApart requests (empty.run requests) := by
  have reflects : Reflects requests (empty.run requests) := reflects_empty.run requests
  exact ⟨reflects.isMapOf, reflects.keepsApart⟩

/-- The peer at the door comes back while the one in the hall leaves. -/
def doorAndHall : List TableRequest :=
  [.insert (.start "door" "video" .vp9), .insert (.start "hall" "video" .vp9),
    .setState "door" .decoding, .insert (.start "door" "video" .vp9), .remove "hall",
    .setState "hall" .decoding, .ask 0 (.acceptTimestamp 40 true), .stopAll]

theorem door_and_hall_stand_apart :
    (empty.run doorAndHall).handle? "door" = some 2 ∧
      (empty.run doorAndHall).handle? "hall" = none ∧
      (empty.run doorAndHall).session? 0 =
        some { Session.start "door" "video" .vp9 with
          state := .decoding, lastTimestamp := some 40 } ∧
      (empty.run doorAndHall).session? 1 = some (Session.start "hall" "video" .vp9) ∧
      (empty.run doorAndHall).session? 2 =
        some { Session.start "door" "video" .vp9 with state := .stopped } := by
  obtain ⟨map, apart⟩ := run_is_map_of_sessions doorAndHall
  exact ⟨(map.leads "door").trans (by decide), (map.leads "hall").trans (by decide),
    (apart.sessions 0).trans rfl, (apart.sessions 1).trans rfl, (apart.sessions 2).trans rfl⟩

end SessionTable
end VideoIngest
