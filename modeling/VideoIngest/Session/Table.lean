import VideoIngest.Session

/-!
The sessions of a pipeline, found by the identifiers of their peers.

A session that was replaced or removed keeps its handle; only the identifier no longer leads to it.
-/

namespace VideoIngest

/-- Every session there has been, by handle, and the handle that each bound identifier leads to. -/
structure SessionTable where
  sessions : Array Session
  bindings : List (String × Nat)

namespace SessionTable

def empty : SessionTable := ⟨#[], []⟩

/-! ### By handle -/

def session? (table : SessionTable) (handle : Nat) : Option Session := table.sessions[handle]?

def modify (handle : Nat) (change : Session → Session) (table : SessionTable) : SessionTable :=
  { table with sessions := table.sessions.modify handle change }

def update {α : Type} (handle : Nat) (step : Session → Session × α) (table : SessionTable) :
    SessionTable × Option α :=
  match table.session? handle with
  | none => (table, none)
  | some session =>
      let (next, result) := step session
      (table.modify handle fun _ => next, some result)

/-! ### By identifier -/

def handle? (table : SessionTable) (id : String) : Option Nat :=
  (table.bindings.find? fun binding => binding.1 == id).map (·.2)

def get? (table : SessionTable) (id : String) : Option Session :=
  (table.handle? id).bind table.session?

def size (table : SessionTable) : Nat := table.bindings.length

def isEmpty (table : SessionTable) : Bool := table.bindings.isEmpty

def ids (table : SessionTable) : List String := table.bindings.map (·.1)

def unbind (id : String) (bindings : List (String × Nat)) : List (String × Nat) :=
  bindings.filter fun binding => binding.1 != id

def insert (session : Session) (table : SessionTable) : SessionTable × Nat :=
  let handle := table.sessions.size
  ({ sessions := table.sessions.push session
     bindings := unbind session.id table.bindings ++ [(session.id, handle)] }, handle)

def remove (id : String) (table : SessionTable) : SessionTable :=
  { table with bindings := unbind id table.bindings }

def state? (table : SessionTable) (id : String) : Option SessionState :=
  (table.get? id).map Session.state

def setState (id : String) (next : SessionState) (table : SessionTable) : SessionTable :=
  match table.handle? id with
  | none => table
  | some handle => table.modify handle (Session.setState next)

def stopAll (table : SessionTable) : SessionTable :=
  table.bindings.foldl (fun table binding => table.modify binding.2 (Session.setState .stopped))
    table

end SessionTable
end VideoIngest
