import VideoIngest.Proofs.Session.Labelled
import VideoIngest.Session.Requests

/-!
What a request to a table of sessions comes to for each single session, and runs of requests.

However a request is addressed, each session takes it as one request of its own, or as none.
-/

namespace VideoIngest

def Session.after (session : Session) (requests : List SessionRequest) : Session :=
  requests.foldl (fun session request => (session.answer request).1) session

namespace Session

theorem after_append (front back : List SessionRequest) (session : Session) :
    session.after (front ++ back) = (session.after front).after back :=
  List.foldl_append

end Session

namespace SessionTable

variable {table : SessionTable} {handle : Nat} {session : Session}

def run (table : SessionTable) (requests : List TableRequest) : SessionTable :=
  requests.foldl (fun table request => (table.answer request).1) table

theorem run_append (front back : List TableRequest) (table : SessionTable) :
    table.run (front ++ back) = (table.run front).run back :=
  List.foldl_append

theorem run_append_singleton (requests : List TableRequest) (request : TableRequest)
    (table : SessionTable) :
    table.run (requests ++ [request]) = ((table.run requests).answer request).1 :=
  run_append requests [request] table

/-- What the session of a handle is asked by a request to the table, if anything. -/
def asks (handle : Nat) (table : SessionTable) : TableRequest → Option SessionRequest
  | .insert _ | .get _ | .remove _ | .state _ => none
  | .setState id next => if table.handle? id = some handle then some (.setState next) else none
  | .stopAll =>
      if handle ∈ table.bindings.map Prod.snd then some (.setState .stopped) else none
  | .ask other request => if other = handle then some request else none

/-- A request changes a session by what it asks of that session. -/
theorem session?_answer (found : table.session? handle = some session) (request : TableRequest) :
    (table.answer request).1.session? handle =
      some (session.after (table.asks handle request).toList) := by
  cases request with
  | get id => exact found
  | remove id => exact found
  | state id => exact found
  | insert other =>
      have below : handle < table.sessions.size := (Array.getElem?_eq_some_iff.mp found).1
      exact (session?_insert other handle table).trans
        ((if_neg (Nat.ne_of_lt below)).trans found)
  | setState id next =>
      simp only [answer, SessionTable.setState, asks]
      cases bound : table.handle? id with
      | none => exact found
      | some other =>
          dsimp only
          rw [session?_modify]
          by_cases own : other = handle
          · rw [if_pos own, if_pos (congrArg some own), found]
            rfl
          · rw [if_neg own, if_neg (own ∘ Option.some.inj), found]
            rfl
  | stopAll =>
      have stopped := session?_foldl_stopped table.bindings handle table
      change table.stopAll.session? handle = _ at stopped
      simp only [answer, asks]
      rw [stopped, found]
      split
      · rfl
      · rfl
  | ask other request =>
      simp only [answer, asks]
      by_cases own : other = handle
      · subst own
        rw [if_pos rfl, session?_update found]
        rfl
      · rw [if_neg own, update]
        cases table.session? other with
        | none => exact found
        | some _ => exact (session?_modify _ _ _ _).trans ((if_neg own).trans found)

end SessionTable
end VideoIngest
