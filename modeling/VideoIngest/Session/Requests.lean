import VideoIngest.Session.Table

/-!
What can be asked of one session and of a table of them, and the answers.

A session is asked by its handle, whether or not an identifier still leads to it.
-/

namespace VideoIngest

inductive SessionRequest
  | setState (next : SessionState)
  | transition (expected next : SessionState)
  | acceptTimestamp (timestamp : Nat) (dropsRegressed : Bool)
  | assemble (chunk : Bytes) (timestamp : Nat)
  deriving DecidableEq, Repr

inductive SessionResponse
  | done
  | moved (hasMoved : Bool)
  | accepted (isAccepted : Bool)
  | assembled (result : Except IngestError (List MediaItem))

def Session.answer (session : Session) : SessionRequest → Session × SessionResponse
  | .setState next => (session.setState next, .done)
  | .transition expected next =>
      let (session, hasMoved) := session.transition expected next
      (session, .moved hasMoved)
  | .acceptTimestamp timestamp dropsRegressed =>
      let (session, isAccepted) := session.acceptTimestamp timestamp dropsRegressed
      (session, .accepted isAccepted)
  | .assemble chunk timestamp =>
      let (session, result) := session.assemble chunk timestamp
      (session, .assembled result)

inductive TableRequest
  | insert (session : Session)
  | get (id : String)
  | remove (id : String)
  | state (id : String)
  | setState (id : String) (next : SessionState)
  | stopAll
  | ask (handle : Nat) (request : SessionRequest)

/-- Sessions are named by their handles. -/
inductive TableResponse
  | done
  | inserted (handle : Nat) (displaced : Option Nat)
  | found (handle : Option Nat)
  | state (state : Option SessionState)
  | asked (response : Option SessionResponse)

/-- Answers a request. An insertion names the session whose place it takes, and a removal the one
that is removed. -/
def SessionTable.answer (table : SessionTable) : TableRequest → SessionTable × TableResponse
  | .insert session =>
      let (next, handle) := table.insert session
      (next, .inserted handle (table.handle? session.id))
  | .get id => (table, .found (table.handle? id))
  | .remove id => (table.remove id, .found (table.handle? id))
  | .state id => (table, .state (table.state? id))
  | .setState id next => (table.setState id next, .done)
  | .stopAll => (table.stopAll, .done)
  | .ask handle request =>
      let (next, response) := table.update handle fun session => session.answer request
      (next, .asked response)

end VideoIngest
