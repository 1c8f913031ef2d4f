import VideoIngest.Error
import VideoIngest.Picture

/-! The queue between the peers and the decode loop: any number of senders, one receiver. -/

namespace VideoIngest

inductive IngestEvent
  | formatChange (session : String) (format : VideoFormat)
  | frame (frame : CodedFrame)
  | stop
  deriving DecidableEq, Repr

inductive Received
  | event (event : IngestEvent)
  | blocked
  deriving DecidableEq, Repr

/-- The events on their way, oldest first, the senders that are left, the number of senders there
have ever been, and whether there still is a receiver. -/
structure IngestQueue where
  pending : List IngestEvent
  senders : List Nat
  issued : Nat
  receiving : Bool
  deriving DecidableEq, Repr

namespace IngestQueue

def fresh : IngestQueue := ⟨[], [0], 1, true⟩

def send (event : IngestEvent) (queue : IngestQueue) : IngestQueue × Except IngestError Unit :=
  if queue.receiving then ({ queue with pending := queue.pending ++ [event] }, .ok ())
  else (queue, .error .stopped)

/-- Takes the oldest event. A queue without senders reads as one stop after another. -/
def receive (queue : IngestQueue) : IngestQueue × Received :=
  match queue.pending with
  | event :: rest => ({ queue with pending := rest }, .event event)
  | [] => (queue, if queue.senders.isEmpty then .event .stop else .blocked)

def addSender (queue : IngestQueue) : IngestQueue × Nat :=
  ({ queue with senders := queue.senders ++ [queue.issued], issued := queue.issued + 1 },
    queue.issued)

def dropSender (sender : Nat) (queue : IngestQueue) : IngestQueue :=
  { queue with senders := queue.senders.filter fun other => other != sender }

def dropReceiver (queue : IngestQueue) : IngestQueue :=
  { queue with pending := [], receiving := false }

end IngestQueue
end VideoIngest
