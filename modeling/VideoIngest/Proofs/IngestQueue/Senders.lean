import Mathlib.Data.List.Induction
import Mathlib.Data.List.Nodup
import VideoIngest.IngestQueue.Requests
import VideoIngest.Proofs.History

/-!
What is asked of a queue and answered, and the senders that this leaves.

Each sender has a number of its own, so that it is alive from when it was added until it is dropped.
-/

namespace VideoIngest

structure QueueExchange where
  request : QueueRequest
  response : QueueResponse

namespace QueueExchange

/-- The event that was sent, if it was accepted. -/
def sent? : QueueExchange → Option IngestEvent
  | ⟨.send _ event, .sent (.ok _)⟩ => some event
  | _ => none

def received? : QueueExchange → Option IngestEvent
  | ⟨_, .received (.event event)⟩ => some event
  | _ => none

def added? : QueueExchange → Option Nat
  | ⟨_, .added sender⟩ => some sender
  | _ => none

def dropped? : QueueExchange → Option Nat
  | ⟨.dropSender sender, .dropped⟩ => some sender
  | _ => none

def sent (exchanges : List QueueExchange) : List IngestEvent := exchanges.filterMap sent?

def received (exchanges : List QueueExchange) : List IngestEvent := exchanges.filterMap received?

def dropped (exchanges : List QueueExchange) : List Nat := exchanges.filterMap dropped?

/-- The sender that a queue has from the first, and those that were added. -/
def senders (exchanges : List QueueExchange) : List Nat := 0 :: exchanges.filterMap added?

def living (exchanges : List QueueExchange) : List Nat :=
  (senders exchanges).filter fun sender => sender ∉ dropped exchanges

variable (exchanges : List QueueExchange) (exchange : QueueExchange)

theorem sent_append_singleton :
    sent (exchanges ++ [exchange]) = sent exchanges ++ exchange.sent?.toList :=
  History.filterMap_append_singleton _ _ _

theorem received_append_singleton :
    received (exchanges ++ [exchange]) = received exchanges ++ exchange.received?.toList :=
  History.filterMap_append_singleton _ _ _

theorem dropped_append_singleton :
    dropped (exchanges ++ [exchange]) = dropped exchanges ++ exchange.dropped?.toList :=
  History.filterMap_append_singleton _ _ _

theorem senders_append_singleton :
    senders (exchanges ++ [exchange]) = senders exchanges ++ exchange.added?.toList :=
  congrArg (List.cons 0) (History.filterMap_append_singleton _ _ _)

end QueueExchange

namespace IngestQueue

def run (queue : IngestQueue) (requests : List QueueRequest) : IngestQueue :=
  requests.foldl (fun queue request => (queue.answer request).1) queue

def exchanges : IngestQueue → List QueueRequest → List QueueExchange
  | _, [] => []
  | queue, request :: rest =>
      ⟨request, (queue.answer request).2⟩ :: (queue.answer request).1.exchanges rest

variable {queue : IngestQueue}

theorem run_append_singleton (requests : List QueueRequest) (request : QueueRequest)
    (queue : IngestQueue) :
    queue.run (requests ++ [request]) = ((queue.run requests).answer request).1 :=
  List.foldl_concat _ _ _ _

theorem exchanges_append_singleton (requests : List QueueRequest) (request : QueueRequest)
    (queue : IngestQueue) :
    queue.exchanges (requests ++ [request]) =
      queue.exchanges requests ++ [⟨request, ((queue.run requests).answer request).2⟩] := by
  induction requests generalizing queue with
  | nil => rfl
  | cons first rest ih => exact congrArg (List.cons _) (ih _)

/-! ### Steps -/

inductive Step (queue : IngestQueue) : QueueRequest → IngestQueue → QueueResponse → Prop
  | gone {request : QueueRequest} (gone : request.isFromHolder queue = false) :
      Step queue request queue .gone
  | sent {sender : Nat} {event : IngestEvent} (alive : sender ∈ queue.senders)
      (receiving : queue.receiving = true) :
      Step queue (.send sender event) { queue with pending := queue.pending ++ [event] }
        (.sent (.ok ()))
  | refused {sender : Nat} {event : IngestEvent} (alive : sender ∈ queue.senders)
      (ended : queue.receiving = false) :
      Step queue (.send sender event) queue (.sent (.error .stopped))
  | added {sender : Nat} (alive : sender ∈ queue.senders) :
      Step queue (.addSender sender) queue.addSender.1 (.added queue.issued)
  | left {sender : Nat} (alive : sender ∈ queue.senders) :
      Step queue (.dropSender sender) (queue.dropSender sender) .dropped
  | taken {event : IngestEvent} {rest : List IngestEvent} (receiving : queue.receiving = true)
      (onItsWay : queue.pending = event :: rest) :
      Step queue .receive { queue with pending := rest } (.received (.event event))
  | stopped (receiving : queue.receiving = true) (empty : queue.pending = [])
      (alone : queue.senders = []) :
      Step queue .receive queue (.received (.event .stop))
  | blocked (receiving : queue.receiving = true) (empty : queue.pending = [])
      (alive : queue.senders ≠ []) :
      Step queue .receive queue (.received .blocked)
  | ended (receiving : queue.receiving = true) :
      Step queue .dropReceiver queue.dropReceiver .dropped

variable {request : QueueRequest} {changed : IngestQueue} {response : QueueResponse}

private theorem answer_of_holder (holder : request.isFromHolder queue = true) :
    queue.answer request = queue.perform request :=
  if_pos holder

theorem Step.answer_eq (step : Step queue request changed response) :
    queue.answer request = (changed, response) := by
  cases step with
  | gone gone => exact if_neg (Bool.not_eq_true _ ▸ gone)
  | sent alive receiving =>
      refine Eq.trans (answer_of_holder (decide_eq_true alive)) ?_
      rw [perform, IngestQueue.send, if_pos receiving]
  | refused alive ended =>
      refine Eq.trans (answer_of_holder (decide_eq_true alive)) ?_
      rw [perform, IngestQueue.send, ended, if_neg Bool.false_ne_true]
  | added alive => exact answer_of_holder (decide_eq_true alive)
  | left alive => exact answer_of_holder (decide_eq_true alive)
  | taken receiving onItsWay =>
      refine Eq.trans (answer_of_holder receiving) ?_
      rw [perform, IngestQueue.receive, onItsWay]
  | stopped receiving empty alone =>
      refine Eq.trans (answer_of_holder receiving) ?_
      rw [perform, IngestQueue.receive, empty, alone]
      rfl
  | blocked receiving empty alive =>
      refine Eq.trans (answer_of_holder receiving) ?_
      rw [perform, IngestQueue.receive, empty, List.isEmpty_eq_false_iff.mpr alive]
      rfl
  | ended receiving => exact answer_of_holder receiving

theorem exists_step (queue : IngestQueue) (request : QueueRequest) :
    ∃ changed response, Step queue request changed response := by
  cases holder : request.isFromHolder queue with
  | false => exact ⟨_, _, .gone holder⟩
  | true =>
      cases request with
      | send sender event =>
          have alive : sender ∈ queue.senders := of_decide_eq_true holder
          cases receiving : queue.receiving with
          | true => exact ⟨_, _, .sent alive receiving⟩
          | false => exact ⟨_, _, .refused alive receiving⟩
      | addSender sender => exact ⟨_, _, .added (of_decide_eq_true holder)⟩
      | dropSender sender => exact ⟨_, _, .left (of_decide_eq_true holder)⟩
      | receive =>
          cases onItsWay : queue.pending with
          | cons event rest => exact ⟨_, _, .taken holder onItsWay⟩
          | nil =>
              by_cases alone : queue.senders = []
              · exact ⟨_, _, .stopped holder onItsWay alone⟩
              · exact ⟨_, _, .blocked holder onItsWay alone⟩
      | dropReceiver => exact ⟨_, _, .ended holder⟩

theorem step_answer (queue : IngestQueue) (request : QueueRequest) :
    Step queue request (queue.answer request).1 (queue.answer request).2 := by
  obtain ⟨changed, response, step⟩ := exists_step queue request
  rw [step.answer_eq]
  exact step

/-! ### Senders -/

/-- The senders are those that the exchanges have left, each by its own number. -/
structure HasSenders (exchanges : List QueueExchange) (queue : IngestQueue) : Prop where
  senders : queue.senders = QueueExchange.living exchanges
  nodup : (QueueExchange.senders exchanges).Nodup
  issued : ∀ sender ∈ QueueExchange.senders exchanges, sender < queue.issued
  dropped : ∀ sender ∈ QueueExchange.dropped exchanges, sender < queue.issued

variable {exchanges : List QueueExchange}

theorem hasSenders_fresh : HasSenders [] fresh where
  senders := rfl
  nodup := List.nodup_singleton 0
  issued := fun _ member => List.mem_singleton.mp member ▸ Nat.zero_lt_one
  dropped := nofun

private theorem HasSenders.keep (has : HasSenders exchanges queue) {exchange : QueueExchange}
    (added : exchange.added? = none) (dropped : exchange.dropped? = none)
    (senders : changed.senders = queue.senders) (issued : changed.issued = queue.issued) :
    HasSenders (exchanges ++ [exchange]) changed := by
  have sameSenders : QueueExchange.senders (exchanges ++ [exchange]) =
      QueueExchange.senders exchanges := by
    rw [QueueExchange.senders_append_singleton, added, Option.toList_none, List.append_nil]
  have sameDropped : QueueExchange.dropped (exchanges ++ [exchange]) =
      QueueExchange.dropped exchanges := by
    rw [QueueExchange.dropped_append_singleton, dropped, Option.toList_none, List.append_nil]
  refine ⟨?_, ?_, ?_, ?_⟩
  · rw [senders, has.senders, QueueExchange.living, QueueExchange.living, sameSenders, sameDropped]
  · rw [sameSenders]
    exact has.nodup
  · rw [sameSenders, issued]
    exact has.issued
  · rw [sameDropped, issued]
    exact has.dropped

private theorem HasSenders.add (has : HasSenders exchanges queue) (sender : Nat) :
    HasSenders (exchanges ++ [⟨.addSender sender, .added queue.issued⟩]) queue.addSender.1 := by
  have senders : QueueExchange.senders (exchanges ++ [⟨.addSender sender, .added queue.issued⟩]) =
      QueueExchange.senders exchanges ++ [queue.issued] :=
    QueueExchange.senders_append_singleton _ _
  have dropped : QueueExchange.dropped (exchanges ++ [⟨.addSender sender, .added queue.issued⟩]) =
      QueueExchange.dropped exchanges :=
    (QueueExchange.dropped_append_singleton _ _).trans (List.append_nil _)
  -- The number is given for the first time, so nobody can have dropped it before.
  have isNew : queue.issued ∉ QueueExchange.senders exchanges := fun member =>
    Nat.lt_irrefl _ (has.issued _ member)
  have isAlive : queue.issued ∉ QueueExchange.dropped exchanges := fun member =>
    Nat.lt_irrefl _ (has.dropped _ member)
  refine ⟨?_, ?_, ?_, ?_⟩
  · rw [QueueExchange.living, senders, dropped, List.filter_append,
      List.filter_singleton, decide_eq_true isAlive]
    exact congrArg (· ++ [queue.issued]) has.senders
  · rw [senders, List.nodup_append_comm, List.singleton_append, List.nodup_cons]
    exact ⟨isNew, has.nodup⟩
  · rw [senders, List.forall_mem_append, List.forall_mem_singleton]
    exact ⟨fun other member => Nat.lt_succ_of_lt (has.issued other member), Nat.lt_succ_self _⟩
  · rw [dropped]
    exact fun other member => Nat.lt_succ_of_lt (has.dropped other member)

private theorem HasSenders.drop (has : HasSenders exchanges queue) (sender : Nat)
    (alive : sender ∈ queue.senders) :
    HasSenders (exchanges ++ [⟨.dropSender sender, .dropped⟩]) (queue.dropSender sender) := by
  have senders : QueueExchange.senders (exchanges ++ [⟨.dropSender sender, .dropped⟩]) =
      QueueExchange.senders exchanges :=
    (QueueExchange.senders_append_singleton _ _).trans (List.append_nil _)
  have dropped : QueueExchange.dropped (exchanges ++ [⟨.dropSender sender, .dropped⟩]) =
      QueueExchange.dropped exchanges ++ [sender] :=
    QueueExchange.dropped_append_singleton _ _
  have isKnown : sender ∈ QueueExchange.senders exchanges := by
    rw [has.senders] at alive
    exact List.mem_of_mem_filter alive
  refine ⟨?_, ?_, ?_, ?_⟩
  · change queue.senders.filter (fun other => other != sender) = _
    rw [has.senders, QueueExchange.living, QueueExchange.living, List.filter_filter, senders,
      dropped]
    apply List.filter_congr
    intro other _
    rw [Bool.eq_iff_iff]
    simp [and_comm]
  · rw [senders]
    exact has.nodup
  · rw [senders]
    exact has.issued
  · rw [dropped, List.forall_mem_append, List.forall_mem_singleton]
    exact ⟨has.dropped, has.issued sender isKnown⟩

theorem HasSenders.next (has : HasSenders exchanges queue)
    (step : Step queue request changed response) :
    HasSenders (exchanges ++ [⟨request, response⟩]) changed := by
  cases step with
  | gone _ => exact has.keep rfl (by cases request <;> rfl) rfl rfl
  | sent _ _ => exact has.keep rfl rfl rfl rfl
  | refused _ _ => exact has.keep rfl rfl rfl rfl
  | added _ => exact has.add _
  | left alive => exact has.drop _ alive
  | taken _ _ => exact has.keep rfl rfl rfl rfl
  | stopped _ _ _ => exact has.keep rfl rfl rfl rfl
  | blocked _ _ _ => exact has.keep rfl rfl rfl rfl
  | ended _ => exact has.keep rfl rfl rfl rfl

theorem hasSenders_run (requests : List QueueRequest) :
    HasSenders (fresh.exchanges requests) (fresh.run requests) := by
  induction requests using List.reverseRecOn with
  | nil => exact hasSenders_fresh
  | append_singleton requests request ih =>
      rw [exchanges_append_singleton, run_append_singleton]
      exact ih.next (step_answer _ request)

end IngestQueue
end VideoIngest
