import VideoIngest.Proofs.History
import VideoIngest.Proofs.Session.Answers

/-!
What a history of requests makes of a table of sessions.

An identifier leads to the session that was inserted last under it, unless it was removed since, and
each session is what its own requests have made of it: those of its holder, and those that reached it
by its identifier while this led to it.
-/

namespace VideoIngest

namespace TableRequest

def inserted? : TableRequest → Option Session
  | insert session => some session
  | _ => none

def asked? (handle : Nat) : TableRequest → Option SessionRequest
  | ask other request => if other = handle then some request else none
  | _ => none

end TableRequest

namespace SessionTable

/-! ### What requests bind -/

def insertedBy (requests : List TableRequest) : List Session :=
  requests.filterMap TableRequest.inserted?

/-- What a request makes an identifier lead to in view of the requests before it. -/
def rebinds (id : String) (earlier : List TableRequest) : TableRequest → Option (Option Nat)
  | .insert session => if session.id = id then some (some (insertedBy earlier).length) else none
  | .remove other => if other = id then some none else none
  | _ => none

/-- The handle of the session that was inserted last under an identifier, unless this was removed
since. -/
def boundBy (requests : List TableRequest) (id : String) : Option Nat :=
  (History.collect (rebinds id) requests).getLast?.join

def isBoundBy (requests : List TableRequest) (handle : Nat) : Bool :=
  (insertedBy requests)[handle]?.any fun session => boundBy requests session.id == some handle

/-- What a request asks of the session of a handle in view of the requests before it. -/
def asksBy (handle : Nat) (earlier : List TableRequest) : TableRequest → Option SessionRequest
  | .setState id next => if boundBy earlier id = some handle then some (.setState next) else none
  | .stopAll => if isBoundBy earlier handle then some (.setState .stopped) else none
  | .ask other request =>
      if other = handle ∧ handle < (insertedBy earlier).length then some request else none
  | _ => none

def askedBy (handle : Nat) (requests : List TableRequest) : List SessionRequest :=
  History.collect (asksBy handle) requests

variable {requests : List TableRequest} {handle : Nat} {id : String}

theorem insertedBy_append_singleton (requests : List TableRequest) (request : TableRequest) :
    insertedBy (requests ++ [request]) = insertedBy requests ++ request.inserted?.toList :=
  History.filterMap_append_singleton _ _ _

theorem boundBy_append_singleton (requests : List TableRequest) (request : TableRequest)
    (id : String) :
    boundBy (requests ++ [request]) id =
      (rebinds id requests request).getD (boundBy requests id) := by
  rw [boundBy, History.collect_append_singleton]
  cases rebinds id requests request with
  | none => rw [Option.toList_none, List.append_nil, Option.getD_none, boundBy]
  | some bound => rw [Option.toList_some, List.getLast?_concat, Option.getD_some, Option.join_some]

/-- Only an insertion makes an identifier lead to a session, and that session is new. -/
theorem insert_of_rebinds {earlier : List TableRequest} {request : TableRequest}
    (leads : rebinds id earlier request = some (some handle)) :
    ∃ session, request = .insert session ∧ session.id = id ∧
      handle = (insertedBy earlier).length := by
  cases request with
  | insert session =>
      obtain ⟨carries, isNew⟩ := Option.ite_none_right_eq_some.mp leads
      exact ⟨session, rfl, carries, (Option.some.inj (Option.some.inj isNew)).symm⟩
  | remove other =>
      obtain ⟨_, impossible⟩ := Option.ite_none_right_eq_some.mp leads
      cases impossible
  | get other => cases leads
  | state other => cases leads
  | setState other next => cases leads
  | stopAll => cases leads
  | ask other request => cases leads

/-- An identifier leads to a session that carries it. -/
private theorem exists_of_boundBy (bound : boundBy requests id = some handle) :
    ∃ session, (insertedBy requests)[handle]? = some session ∧ session.id = id := by
  induction requests using List.reverseRecOn with
  | nil => cases bound
  | append_singleton requests request ih =>
      rw [boundBy_append_singleton] at bound
      rw [insertedBy_append_singleton]
      cases rebound : rebinds id requests request with
      | none =>
          rw [rebound, Option.getD_none] at bound
          obtain ⟨session, found, carries⟩ := ih bound
          obtain ⟨inside, _⟩ := List.getElem?_eq_some_iff.mp found
          exact ⟨session, (List.getElem?_append_left inside).trans found, carries⟩
      | some leads =>
          rw [rebound, Option.getD_some] at bound
          rw [bound] at rebound
          obtain ⟨session, rfl, carries, rfl⟩ := insert_of_rebinds rebound
          exact ⟨session, List.getElem?_concat_length, carries⟩

private theorem lt_of_boundBy (bound : boundBy requests id = some handle) :
    handle < (insertedBy requests).length := by
  obtain ⟨_, found, _⟩ := exists_of_boundBy bound
  exact (List.getElem?_eq_some_iff.mp found).1

theorem isBoundBy_iff :
    isBoundBy requests handle = true ↔ ∃ id, boundBy requests id = some handle := by
  unfold isBoundBy
  constructor
  · intro isBound
    cases found : (insertedBy requests)[handle]? with
    | none =>
        rw [found] at isBound
        cases isBound
    | some session =>
        rw [found] at isBound
        exact ⟨session.id, eq_of_beq isBound⟩
  · rintro ⟨id, bound⟩
    obtain ⟨session, found, rfl⟩ := exists_of_boundBy bound
    rw [found, Option.any_some, bound, beq_self_eq_true]

/-! ### What sessions are asked -/

theorem askedBy_append_singleton (handle : Nat) (requests : List TableRequest)
    (request : TableRequest) :
    askedBy handle (requests ++ [request]) =
      askedBy handle requests ++ (asksBy handle requests request).toList :=
  History.collect_append_singleton _ _ _

/-- A session is asked nothing before it is inserted. -/
theorem asksBy_eq_none (outside : (insertedBy requests).length ≤ handle) (request : TableRequest) :
    asksBy handle requests request = none := by
  have unbound : ∀ id, boundBy requests id ≠ some handle := by
    intro id bound
    exact absurd (lt_of_boundBy bound) (Nat.not_lt.mpr outside)
  cases request with
  | insert session => rfl
  | get id => rfl
  | remove id => rfl
  | state id => rfl
  | setState id next => exact if_neg (unbound id)
  | stopAll =>
      apply if_neg
      rw [isBoundBy_iff]
      rintro ⟨id, bound⟩
      exact unbound id bound
  | ask other request => exact if_neg fun both => absurd both.2 (Nat.not_lt.mpr outside)

theorem askedBy_eq_nil (outside : (insertedBy requests).length ≤ handle) :
    askedBy handle requests = [] := by
  induction requests using List.reverseRecOn with
  | nil => rfl
  | append_singleton requests request ih =>
      rw [insertedBy_append_singleton, List.length_append] at outside
      have before := Nat.le_of_add_right_le outside
      rw [askedBy_append_singleton, ih before, asksBy_eq_none before]
      rfl

/-! ### Tables after requests -/

structure Reflects (requests : List TableRequest) (table : SessionTable) : Prop where
  size : table.sessions.size = (insertedBy requests).length
  handle? : ∀ id, table.handle? id = boundBy requests id
  nodup : table.ids.Nodup
  session? : ∀ handle, table.session? handle =
    (insertedBy requests)[handle]?.map fun session => session.after (askedBy handle requests)

variable {table : SessionTable}

theorem size_answer (request : TableRequest) (table : SessionTable) :
    (table.answer request).1.sessions.size =
      table.sessions.size + request.inserted?.toList.length := by
  cases request with
  | insert session => exact Array.size_push _
  | get id => rfl
  | remove id => rfl
  | state id => rfl
  | setState id next => exact (sameStreams_setState id next table).size
  | stopAll => exact (sameStreams_stopAll table).size
  | ask handle request => exact size_update _ _ table

/-- Which handle an identifier leads to is changed by insertions and removals under it only. -/
theorem handle?_answer (reflects : Reflects requests table) (request : TableRequest)
    (id : String) :
    (table.answer request).1.handle? id =
      (rebinds id requests request).getD (table.handle? id) := by
  cases request with
  | insert session =>
      change (table.insert session).1.handle? id = _
      by_cases own : session.id = id
      · subst own
        rw [handle?_insert, rebinds, if_pos rfl, reflects.size, Option.getD_some]
      · rw [handle?_insert_of_ne (Ne.symm own), rebinds, if_neg own, Option.getD_none]
  | remove other =>
      change (table.remove other).handle? id = _
      by_cases own : other = id
      · rw [own, handle?_remove, rebinds, if_pos rfl, Option.getD_some]
      · rw [handle?_remove_of_ne (Ne.symm own), rebinds, if_neg own, Option.getD_none]
  | get other => rfl
  | state other => rfl
  | setState other next => exact (sameStreams_setState other next table).handle?_eq id
  | stopAll => exact (sameStreams_stopAll table).handle?_eq id
  | ask handle request => exact handle?_congr (bindings_update handle _ table) id

theorem nodup_ids_unbind (nodup : table.ids.Nodup) (id : String) :
    ((unbind id table.bindings).map Prod.fst).Nodup :=
  nodup.sublist ((List.filter_sublist).map Prod.fst)

theorem nodup_ids_answer (nodup : table.ids.Nodup) (request : TableRequest) :
    (table.answer request).1.ids.Nodup := by
  cases request with
  | insert session =>
      change ((unbind session.id table.bindings ++ [(session.id, _)]).map Prod.fst).Nodup
      rw [List.map_append, List.map_singleton, List.nodup_append_comm, List.singleton_append,
        List.nodup_cons]
      refine ⟨?_, nodup_ids_unbind nodup session.id⟩
      intro member
      obtain ⟨binding, remains, isOwn⟩ := List.mem_map.mp member
      have differs := (List.mem_filter.mp remains).2
      rw [isOwn, bne_self_eq_false] at differs
      cases differs
  | remove id => exact nodup_ids_unbind nodup id
  | get id => exact nodup
  | state id => exact nodup
  | setState id next =>
      change ((table.setState id next).bindings.map Prod.fst).Nodup
      rw [(sameStreams_setState id next table).bindings]
      exact nodup
  | stopAll =>
      change (table.stopAll.bindings.map Prod.fst).Nodup
      rw [(sameStreams_stopAll table).bindings]
      exact nodup
  | ask handle request =>
      change ((table.update handle _).1.bindings.map Prod.fst).Nodup
      rw [bindings_update]
      exact nodup

/-- In a table in which no identifier stands twice, every binding is found. -/
theorem handle?_eq_some_iff (nodup : table.ids.Nodup) :
    table.handle? id = some handle ↔ (id, handle) ∈ table.bindings := by
  refine ⟨mem_bindings_of_handle?, ?_⟩
  intro member
  have isKey : id ∈ table.ids := List.mem_map_of_mem member
  cases found : table.handle? id with
  | none =>
      have absent := List.find?_eq_none.mp (Option.map_eq_none_iff.mp found) (id, handle) member
      exact absurd (beq_self_eq_true id) absent
  | some other =>
      have alsoMember := mem_bindings_of_handle? found
      have same := List.inj_on_of_nodup_map nodup member alsoMember rfl
      rw [(Prod.mk.inj same).2]

theorem Reflects.mem_handles_iff (reflects : Reflects requests table) :
    handle ∈ table.bindings.map Prod.snd ↔ isBoundBy requests handle = true := by
  rw [isBoundBy_iff]
  constructor
  · intro member
    obtain ⟨⟨id, other⟩, isBinding, rfl⟩ := List.mem_map.mp member
    exact ⟨id, (reflects.handle? id).symm.trans
      ((handle?_eq_some_iff reflects.nodup).mpr isBinding)⟩
  · rintro ⟨id, bound⟩
    have isBinding := mem_bindings_of_handle? ((reflects.handle? id).trans bound)
    exact List.mem_map_of_mem isBinding

private theorem Reflects.asks_eq (reflects : Reflects requests table)
    (inside : handle < (insertedBy requests).length) (request : TableRequest) :
    table.asks handle request = asksBy handle requests request := by
  cases request with
  | insert session => rfl
  | get id => rfl
  | remove id => rfl
  | state id => rfl
  | setState id next => simp only [asks, asksBy, reflects.handle?]
  | stopAll => simp only [asks, asksBy, reflects.mem_handles_iff]
  | ask other request => simp only [asks, asksBy, inside, and_true]

/-- A handle that is new leads to a session only if one is inserted at it. -/
private theorem session?_answer_of_outside (outside : table.sessions.size ≤ handle)
    (request : TableRequest) :
    (table.answer request).1.session? handle =
      request.inserted?.toList[handle - table.sessions.size]? := by
  have size := size_answer request table
  cases inserts : request.inserted? with
  | none =>
      rw [inserts] at size
      exact Array.getElem?_eq_none_iff.mpr (size ▸ outside)
  | some session =>
      obtain rfl : request = .insert session := by
        cases request <;> simp_all [TableRequest.inserted?]
      change (table.insert session).1.session? handle = [session][handle - table.sessions.size]?
      rw [session?_insert]
      by_cases isNew : handle = table.sessions.size
      · rw [if_pos isNew, isNew, Nat.sub_self]
        rfl
      · have beyond : [session].length ≤ handle - table.sessions.size := by
          rw [List.length_singleton]
          omega
        rw [if_neg isNew, List.getElem?_eq_none beyond]
        exact Array.getElem?_eq_none_iff.mpr outside

private theorem Reflects.session?_next (reflects : Reflects requests table) (request : TableRequest)
    (handle : Nat) :
    (table.answer request).1.session? handle =
      (insertedBy (requests ++ [request]))[handle]?.map fun session =>
        session.after (askedBy handle (requests ++ [request])) := by
  rw [insertedBy_append_singleton, askedBy_append_singleton]
  by_cases inside : handle < (insertedBy requests).length
  · have found : table.session? handle =
        some ((insertedBy requests)[handle].after (askedBy handle requests)) := by
      rw [reflects.session?, List.getElem?_eq_getElem inside, Option.map_some]
    rw [session?_answer found, reflects.asks_eq inside,
      List.getElem?_append_left inside, List.getElem?_eq_getElem inside, Option.map_some,
      Session.after_append]
  · have outside := Nat.not_lt.mp inside
    rw [askedBy_eq_nil outside, asksBy_eq_none outside, List.getElem?_append_right outside,
      session?_answer_of_outside (reflects.size.symm ▸ outside), reflects.size]
    exact Option.map_id'.symm

theorem Reflects.next (reflects : Reflects requests table) (request : TableRequest) :
    Reflects (requests ++ [request]) (table.answer request).1 := by
  refine ⟨?_, ?_, nodup_ids_answer reflects.nodup request, reflects.session?_next request⟩
  · rw [size_answer, reflects.size, insertedBy_append_singleton, List.length_append]
  · intro id
    rw [handle?_answer reflects, reflects.handle?, boundBy_append_singleton]

theorem reflects_empty : Reflects [] empty :=
  ⟨rfl, fun _ => rfl, List.nodup_nil, fun _ => rfl⟩

theorem Reflects.run (reflects : Reflects requests table) (later : List TableRequest) :
    Reflects (requests ++ later) (table.run later) := by
  induction later using List.reverseRecOn with
  | nil =>
      rw [List.append_nil]
      exact reflects
  | append_singleton later request ih =>
      rw [run_append_singleton, ← List.append_assoc]
      exact ih.next request

end SessionTable
end VideoIngest
