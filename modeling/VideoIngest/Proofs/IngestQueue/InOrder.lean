import VideoIngest.Proofs.IngestQueue.Senders

/-!
Events on their way through the queue.

Whoever comes and goes at either end, what was received and what is still on its way are together
what was sent, in its order. The stops that a queue without senders reads as come behind all of it.
-/

namespace VideoIngest.IngestQueue

variable {queue changed : IngestQueue} {exchanges : List QueueExchange} {request : QueueRequest}
  {response : QueueResponse} {event : IngestEvent} {rest : List IngestEvent}

/-! ### Events -/

/-- The events sent are those that the receiver has taken, those on their way and those that it has
left behind. Only where it has taken all and no sender is left, it has been told to stop as well. -/
structure Passes (sent received : List IngestEvent) (queue : IngestQueue)
    (taken lost : List IngestEvent) (stops : Nat) : Prop where
  reads : received = taken ++ List.replicate stops .stop
  divides : sent = taken ++ queue.pending ++ lost
  kept : queue.receiving = true → lost = []
  left : queue.receiving = false → queue.pending = []
  stopped : 0 < stops → queue.senders = [] ∧ taken = sent

variable {sent received taken lost : List IngestEvent} {stops : Nat}

theorem passes_fresh : Passes [] [] fresh [] [] 0 :=
  ⟨rfl, rfl, fun _ => rfl, nofun, nofun⟩

theorem Passes.pending_eq_nil (passes : Passes sent received queue taken lost stops)
    (stopped : 0 < stops) : queue.pending = [] := by
  have all := passes.divides
  rw [← (passes.stopped stopped).2, List.append_assoc] at all
  exact (List.append_eq_nil_iff.mp (List.self_eq_append_right.mp all)).1

private theorem Passes.send (passes : Passes sent received queue taken lost stops)
    (receiving : queue.receiving = true) (alive : queue.senders ≠ []) :
    Passes (sent ++ [event]) received { queue with pending := queue.pending ++ [event] }
      taken lost stops where
  reads := passes.reads
  divides := by
    rw [passes.divides, passes.kept receiving]
    simp
  kept := passes.kept
  left := fun ended => Bool.noConfusion (receiving.symm.trans ended)
  stopped := fun stopped => absurd (passes.stopped stopped).1 alive

private theorem Passes.take (passes : Passes sent received queue taken lost stops)
    (receiving : queue.receiving = true) (onItsWay : queue.pending = event :: rest) :
    Passes sent (received ++ [event]) { queue with pending := rest } (taken ++ [event]) lost
      stops := by
  -- Whoever has been told to stop because no sender is left finds nothing on its way any more.
  obtain rfl : stops = 0 := by
    by_contra stopped
    rw [passes.pending_eq_nil (Nat.pos_of_ne_zero stopped)] at onItsWay
    cases onItsWay
  refine ⟨?_, ?_, passes.kept, fun ended => Bool.noConfusion (receiving.symm.trans ended), nofun⟩
  · rw [passes.reads]
    simp
  · rw [passes.divides, onItsWay]
    simp

private theorem Passes.stop (passes : Passes sent received queue taken lost stops)
    (receiving : queue.receiving = true) (empty : queue.pending = [])
    (alone : queue.senders = []) :
    Passes sent (received ++ [.stop]) queue taken lost (stops + 1) where
  reads := by rw [passes.reads, List.replicate_succ', List.append_assoc]
  divides := passes.divides
  kept := passes.kept
  left := passes.left
  stopped := by
    intro _
    rw [passes.divides, empty, passes.kept receiving]
    simp [alone]

private theorem Passes.withSenders (passes : Passes sent received queue taken lost stops)
    (alive : queue.senders ≠ []) (senders : List Nat) (issued : Nat) :
    Passes sent received { queue with senders, issued } taken lost stops where
  reads := passes.reads
  divides := passes.divides
  kept := passes.kept
  left := passes.left
  stopped := fun stopped => absurd (passes.stopped stopped).1 alive

private theorem Passes.dropReceiver (passes : Passes sent received queue taken lost stops)
    (receiving : queue.receiving = true) :
    Passes sent received queue.dropReceiver taken queue.pending stops where
  reads := passes.reads
  divides := by
    rw [passes.divides, passes.kept receiving]
    simp [IngestQueue.dropReceiver]
  kept := nofun
  left := fun _ => rfl
  stopped := passes.stopped

structure HasEvents (exchanges : List QueueExchange) (queue : IngestQueue) : Prop where
  receiving : queue.receiving = true ↔
    ∀ exchange ∈ exchanges, exchange.request ≠ .dropReceiver
  inOrder : ∃ taken lost stops, Passes (QueueExchange.sent exchanges)
    (QueueExchange.received exchanges) queue taken lost stops

theorem hasEvents_fresh : HasEvents [] fresh :=
  ⟨iff_of_true rfl (List.forall_mem_nil _), [], [], 0, passes_fresh⟩

private theorem HasEvents.append (has : HasEvents exchanges queue) {exchange : QueueExchange}
    (receiving : changed.receiving = true ↔
      queue.receiving = true ∧ exchange.request ≠ .dropReceiver)
    (passes : Passes (QueueExchange.sent exchanges ++ exchange.sent?.toList)
      (QueueExchange.received exchanges ++ exchange.received?.toList) changed taken lost stops) :
    HasEvents (exchanges ++ [exchange]) changed := by
  constructor
  · rw [receiving, has.receiving, List.forall_mem_append, List.forall_mem_singleton]
  · rw [QueueExchange.sent_append_singleton, QueueExchange.received_append_singleton]
    exact ⟨taken, lost, stops, passes⟩

/-- Nobody sends or receives anything in such an exchange. -/
private theorem HasEvents.idle (has : HasEvents exchanges queue) {exchange : QueueExchange}
    (unsent : exchange.sent? = none) (unread : exchange.received? = none)
    (receiving : changed.receiving = true ↔
      queue.receiving = true ∧ exchange.request ≠ .dropReceiver)
    (passes : Passes (QueueExchange.sent exchanges) (QueueExchange.received exchanges) changed
      taken lost stops) :
    HasEvents (exchanges ++ [exchange]) changed := by
  apply has.append receiving
  rw [unsent, unread, Option.toList_none, List.append_nil, List.append_nil]
  exact passes

theorem HasEvents.next (has : HasEvents exchanges queue)
    (step : Step queue request changed response) :
    HasEvents (exchanges ++ [⟨request, response⟩]) changed := by
  obtain ⟨taken, lost, stops, passes⟩ := has.inOrder
  cases step with
  | gone gone =>
      have isOther (receiving : queue.receiving = true) : request ≠ .dropReceiver := by
        rintro rfl
        exact Bool.noConfusion (gone.symm.trans receiving)
      exact has.idle (by cases request <;> rfl) rfl (and_iff_left_of_imp isOther).symm passes
  | sent alive receiving =>
      apply has.append
      · simp
      · simpa [QueueExchange.sent?, QueueExchange.received?] using
          passes.send receiving (List.ne_nil_of_mem alive)
  | refused _ _ => exact has.idle rfl rfl (by simp) passes
  | added alive =>
      exact has.idle rfl rfl (by simp [IngestQueue.addSender])
        (passes.withSenders (List.ne_nil_of_mem alive) _ _)
  | left alive =>
      exact has.idle rfl rfl (by simp [IngestQueue.dropSender])
        (passes.withSenders (List.ne_nil_of_mem alive) _ _)
  | taken receiving onItsWay =>
      apply has.append
      · simp
      · simpa [QueueExchange.sent?, QueueExchange.received?] using passes.take receiving onItsWay
  | stopped receiving empty alone =>
      apply has.append
      · simp
      · simpa [QueueExchange.sent?, QueueExchange.received?] using
          passes.stop receiving empty alone
  | blocked _ _ _ => exact has.idle rfl rfl (by simp) passes
  | ended receiving =>
      exact has.idle rfl rfl (by simp [IngestQueue.dropReceiver]) (passes.dropReceiver receiving)

/-! ### Runs -/

theorem hasEvents_run (requests : List QueueRequest) :
    HasEvents (fresh.exchanges requests) (fresh.run requests) := by
  induction requests using List.reverseRecOn with
  | nil => exact hasEvents_fresh
  | append_singleton requests request ih =>
      rw [exchanges_append_singleton, run_append_singleton]
      exact ih.next (step_answer _ request)

/-- What every step keeps lasts. -/
theorem run_induction {holds : IngestQueue → Prop}
    (keeps : ∀ {queue request changed response}, holds queue →
      Step queue request changed response → holds changed)
    (begins : holds queue) (requests : List QueueRequest) : holds (queue.run requests) := by
  induction requests generalizing queue with
  | nil => exact begins
  | cons request rest ih => exact ih (keeps begins (step_answer queue request))

def IsExhausted (queue : IngestQueue) : Prop := queue.pending = [] ∧ queue.senders = []

/-- The receiver is gone, and with it what was on its way. -/
def HasEnded (queue : IngestQueue) : Prop := queue.receiving = false ∧ queue.pending = []

private theorem IsExhausted.next (exhausted : queue.IsExhausted)
    (step : Step queue request changed response) : changed.IsExhausted := by
  have nobody (sender : Nat) : sender ∉ queue.senders := exhausted.2 ▸ List.not_mem_nil
  cases step with
  | gone _ => exact exhausted
  | sent alive _ => exact absurd alive (nobody _)
  | refused _ _ => exact exhausted
  | added alive => exact absurd alive (nobody _)
  | left alive => exact absurd alive (nobody _)
  | taken _ onItsWay => cases exhausted.1.symm.trans onItsWay
  | stopped _ _ _ => exact exhausted
  | blocked _ _ _ => exact exhausted
  | ended _ => exact ⟨rfl, exhausted.2⟩

private theorem HasEnded.next (ended : queue.HasEnded)
    (step : Step queue request changed response) : changed.HasEnded := by
  cases step with
  | gone _ => exact ended
  | sent _ receiving => exact Bool.noConfusion (ended.1.symm.trans receiving)
  | refused _ _ => exact ended
  | added _ => exact ended
  | left _ => exact ended
  | taken receiving _ => exact Bool.noConfusion (ended.1.symm.trans receiving)
  | stopped _ _ _ => exact ended
  | blocked _ _ _ => exact ended
  | ended receiving => exact Bool.noConfusion (ended.1.symm.trans receiving)

/-- What the queue answers next, and what it will answer as long as it exists. -/
structure AnswersInOrder (queue : IngestQueue) : Prop where
  sends : queue.receiving = true → ∀ sender ∈ queue.senders, ∀ event,
    queue.answer (.send sender event) =
      ({ queue with pending := queue.pending ++ [event] }, .sent (.ok ()))
  takes : queue.receiving = true → ∀ event rest, queue.pending = event :: rest →
    queue.answer .receive = ({ queue with pending := rest }, .received (.event event))
  readsStop : queue.receiving = true →
    ((queue.answer .receive).2 = .received (.event .stop) ↔
      queue.pending.head? = some .stop ∨ queue.pending = [] ∧ queue.senders = [])
  blocks : queue.receiving = true →
    ((queue.answer .receive).2 = .received .blocked ↔
      queue.pending = [] ∧ ∃ sender, sender ∈ queue.senders)
  exhausted : queue.pending = [] → queue.senders = [] → ∀ later,
    (queue.run later).receiving = true →
      (queue.run later).answer .receive = (queue.run later, .received (.event .stop))
  ended : queue.receiving = false → ∀ later,
    (queue.run later).receiving = false ∧ (queue.run later).pending = [] ∧
      ∀ sender ∈ (queue.run later).senders, ∀ event,
        (queue.run later).answer (.send sender event) =
          (queue.run later, .sent (.error .stopped))

private theorem response_receive (receiving : queue.receiving = true) :
    ((queue.answer .receive).2 = .received (.event .stop) ↔
        queue.pending.head? = some .stop ∨ queue.pending = [] ∧ queue.senders = []) ∧
      ((queue.answer .receive).2 = .received .blocked ↔
        queue.pending = [] ∧ ∃ sender, sender ∈ queue.senders) := by
  obtain ⟨changed, response, step⟩ := exists_step queue .receive
  rw [step.answer_eq]
  cases step with
  | gone gone => exact Bool.noConfusion (gone.symm.trans receiving)
  | taken _ onItsWay => simp [onItsWay]
  | stopped _ empty alone => simp [empty, alone]
  | blocked _ empty alive => simp [empty, alive, List.exists_mem_of_ne_nil _ alive]

theorem answersInOrder (left : queue.receiving = false → queue.pending = []) :
    queue.AnswersInOrder where
  sends := fun receiving _ alive _ => (Step.sent alive receiving).answer_eq
  takes := fun receiving _ _ onItsWay => (Step.taken receiving onItsWay).answer_eq
  readsStop := fun receiving => (response_receive receiving).1
  blocks := fun receiving => (response_receive receiving).2
  exhausted := by
    intro empty alone later receiving
    obtain ⟨stillEmpty, stillAlone⟩ : (queue.run later).IsExhausted :=
      run_induction IsExhausted.next ⟨empty, alone⟩ later
    exact (Step.stopped receiving stillEmpty stillAlone).answer_eq
  ended := by
    intro ended later
    obtain ⟨hasEnded, empty⟩ : (queue.run later).HasEnded :=
      run_induction HasEnded.next ⟨ended, left ended⟩ later
    exact ⟨hasEnded, empty, fun _ alive _ => (Step.refused alive hasEnded).answer_eq⟩

/-- Whatever the holders of its ends ask of a queue, and in whatever order: what the receiver has got
and what is still on its way are the events that were sent, in the order in which they were sent by
anyone, as long as there is a receiver. The stops that it reads when all senders are gone come behind
all of them, and it waits only for senders that are left. -/
theorem events_pass_in_order (requests : List QueueRequest) :
    let exchanges := fresh.exchanges requests
    let queue := fresh.run requests
    HasSenders exchanges queue ∧ HasEvents exchanges queue ∧ queue.AnswersInOrder := by
  intro exchanges queue
  have events : HasEvents exchanges queue := hasEvents_run requests
  obtain ⟨taken, lost, stops, passes⟩ := events.inOrder
  exact ⟨hasSenders_run requests, events, answersInOrder passes.left⟩

/-- The second sender sends a stop, and the receiver reads on when both are gone. -/
def stopsOfBothKinds : List QueueRequest :=
  [.addSender 0, .send 0 (.formatChange "door" ⟨.vp9, 4, 2⟩), .send 1 .stop,
    .send 0 (.frame ⟨[0x82], 40, .key⟩), .dropSender 0, .receive, .dropSender 1, .receive, .receive,
    .receive, .receive]

theorem stops_of_both_kinds_are_read :
    let exchanges := fresh.exchanges stopsOfBothKinds
    let queue := fresh.run stopsOfBothKinds
    QueueExchange.received exchanges = QueueExchange.sent exchanges ++ [.stop, .stop] ∧
      .stop ∈ QueueExchange.sent exchanges ∧ queue.receiving = true ∧ queue.senders = [] ∧
      (∀ later, (queue.run later).receiving = true →
        (queue.run later).answer .receive = (queue.run later, .received (.event .stop))) ∧
      ∀ later, ((fresh.run (stopsOfBothKinds ++ [.dropReceiver])).run later).pending = [] := by
  intro exchanges queue
  obtain ⟨has, ⟨receiving, _⟩, answers⟩ := events_pass_in_order stopsOfBothKinds
  obtain ⟨_, _, answersEnded⟩ := events_pass_in_order (stopsOfBothKinds ++ [.dropReceiver])
  have alone : queue.senders = [] := has.senders.trans (by decide)
  refine ⟨by decide, by decide, receiving.mpr (by decide), alone, answers.exhausted rfl alone, ?_⟩
  exact fun later => (answersEnded.ended rfl later).2.1

end VideoIngest.IngestQueue
