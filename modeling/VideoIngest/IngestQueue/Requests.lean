import VideoIngest.IngestQueue

/-!
What the holders of the ends of a queue can ask of it, and the answers.

Only those who still hold their end are heard.
-/

namespace VideoIngest

inductive QueueRequest
  | send (sender : Nat) (event : IngestEvent)
  | addSender (sender : Nat)
  | dropSender (sender : Nat)
  | receive
  | dropReceiver
  deriving DecidableEq, Repr

inductive QueueResponse
  | sent (result : Except IngestError Unit)
  | added (sender : Nat)
  | received (received : Received)
  | dropped
  | gone

def QueueRequest.isFromHolder (queue : IngestQueue) : QueueRequest → Bool
  | send sender _ | addSender sender | dropSender sender => sender ∈ queue.senders
  | receive | dropReceiver => queue.receiving

namespace IngestQueue

def perform (queue : IngestQueue) : QueueRequest → IngestQueue × QueueResponse
  | .send _ event =>
      let (queue, result) := queue.send event
      (queue, .sent result)
  | .addSender _ =>
      let (queue, sender) := queue.addSender
      (queue, .added sender)
  | .dropSender sender => (queue.dropSender sender, .dropped)
  | .receive =>
      let (queue, received) := queue.receive
      (queue, .received received)
  | .dropReceiver => (queue.dropReceiver, .dropped)

def answer (queue : IngestQueue) (request : QueueRequest) : IngestQueue × QueueResponse :=
  if request.isFromHolder queue then queue.perform request else (queue, .gone)

end IngestQueue
end VideoIngest
