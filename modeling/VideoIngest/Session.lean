import VideoIngest.Assembler

/-! One stream of a peer: its state, its assembler and the newest timestamp it has sent on. -/

namespace VideoIngest

inductive SessionState
  | codecKnown
  | awaitingFormat
  | decoding
  | stopped
  deriving DecidableEq, Repr

structure Session where
  id : String
  media : String
  assembler : Assembler
  state : SessionState
  lastTimestamp : Option Nat

namespace Session

def start (id media : String) (assembler : Assembler) : Session :=
  { id, media, assembler, state := .codecKnown, lastTimestamp := none }

def codec (session : Session) : Codec := session.assembler.codec

def setState (next : SessionState) (session : Session) : Session :=
  if session.state = .stopped then session else { session with state := next }

def transition (expected next : SessionState) (session : Session) : Session × Bool :=
  if session.state = expected then ({ session with state := next }, true) else (session, false)

def isRegression (timestamp : Nat) (session : Session) : Bool :=
  match session.lastTimestamp with
  | none => false
  | some last => timestamp < last

def acceptTimestamp (timestamp : Nat) (dropsRegressed : Bool) (session : Session) :
    Session × Bool :=
  if dropsRegressed && session.isRegression timestamp then (session, false)
  else ({ session with lastTimestamp := some timestamp }, true)

/-- The items of the next chunk. A refused chunk leaves the session as it was. -/
def assemble (chunk : Bytes) (timestamp : Nat) (session : Session) :
    Session × Except IngestError (List MediaItem) :=
  match session.assembler.assemble chunk timestamp with
  | .error refusal => (session, .error refusal)
  | .ok (next, items) => ({ session with assembler := next }, .ok items)

end Session
end VideoIngest
