import VideoIngest.Proofs.DecodeLoop.Work

/-!
A worker among its senders.

Events come from anyone at any time, and stops among them: each is either sent like an event or
asked of the worker. The loop may take its turns in between. What it comes to depends on the events
in front of the first stop alone.
-/

namespace VideoIngest

namespace IngestEvent

def untilStop (events : List IngestEvent) : List IngestEvent :=
  events.takeWhile fun event => event != stop

theorem untilStop_append {front : List IngestEvent} (running : stop ∉ front)
    (back : List IngestEvent) : untilStop (front ++ back) = front ++ untilStop back := by
  apply List.takeWhile_append_of_pos
  intro event member
  exact bne_iff_ne.mpr fun isStop => running (isStop ▸ member)

theorem untilStop_append_stop {front : List IngestEvent} (running : stop ∉ front)
    (lost : List IngestEvent) : untilStop (front ++ stop :: lost) = front :=
  (untilStop_append running _).trans (List.append_nil front)

private theorem untilStop_of_not_mem {events : List IngestEvent} (running : stop ∉ events) :
    untilStop events = events := by
  have all := untilStop_append running []
  rw [List.append_nil] at all
  exact all.trans (List.append_nil events)

end IngestEvent

/-- Something happens to a worker: an event is sent, the worker is asked to stop, its loop gets some
turns, or senders come and go. The worker keeps the sender 0 to itself. -/
inductive WorkerTurn
  | send (event : IngestEvent)
  | stop
  | work (count : Nat)
  | enter
  | leave (others : Nat)
  deriving DecidableEq, Repr

namespace WorkerTurn

def sent? : WorkerTurn → Option IngestEvent
  | send event => some event
  | stop => some .stop
  | _ => none

/-- The events that are sent in these turns, accepted or not. To ask for a stop is to send one. -/
def sent (turns : List WorkerTurn) : List IngestEvent := turns.filterMap sent?

end WorkerTurn

namespace DecodeWorker

def withLoop (loop : DecodeLoop) (worker : DecodeWorker) : DecodeWorker := { worker with loop }

def turn (worker : DecodeWorker) : WorkerTurn → DecodeWorker × List Picture
  | .send event => ((worker.send event).1, [])
  | .stop => worker.stop
  | .work count => (worker.withLoop (worker.loop.steps count).1, (worker.loop.steps count).2)
  | .enter => (worker.withLoop (worker.loop.withQueue worker.loop.queue.addSender.1), [])
  | .leave others =>
      (worker.withLoop (worker.loop.withQueue (worker.loop.queue.dropSender (others + 1))), [])

def after : List WorkerTurn → DecodeWorker → DecodeWorker × List Picture
  | [], worker => (worker, [])
  | turn :: rest, worker =>
      let (next, pictures) := worker.turn turn
      let (last, others) := next.after rest
      (last, pictures ++ others)

end DecodeWorker

namespace DecodeLoop

/-- From `start` on the loop has worked on these events one by one, and then, if it is over, has
dropped the decoder. -/
structure HasWorked (start : DecodeLoop) (done : List IngestEvent) (isOver : Bool)
    (loop : DecodeLoop) (pictures : List Picture) : Prop where
  state : loop = (if isOver then (start.process done).1.finish
    else (start.process done).1).withQueue loop.queue
  pictures : pictures = (start.process done).2
  receiving : loop.queue.receiving = !isOver

inductive Stands (start : DecodeLoop) (sent : List IngestEvent) (loop : DecodeLoop)
    (pictures : List Picture) : Prop
  | going (done : List IngestEvent) (worked : HasWorked start done false loop pictures)
      (running : .stop ∉ done) (all : sent = done ++ loop.queue.pending)
      (sender : 0 ∈ loop.queue.senders)
  | ended (done lost : List IngestEvent) (worked : HasWorked start done true loop pictures)
      (running : .stop ∉ done) (all : sent = done ++ .stop :: lost)

variable {start loop next : DecodeLoop} {sent done : List IngestEvent} {pictures : List Picture}

theorem HasWorked.withQueue {isOver : Bool} (worked : HasWorked start done isOver loop pictures)
    {queue : IngestQueue} (same : queue.receiving = loop.queue.receiving) :
    HasWorked start done isOver (loop.withQueue queue) pictures := by
  refine ⟨?_, worked.pictures, same.trans worked.receiving⟩
  rw [worked.state]
  rfl

/-! ### Steps -/

theorem HasWorked.handle {event : IngestEvent}
    (worked : HasWorked start done false loop pictures) (differs : event ≠ .stop) :
    HasWorked start (done ++ [event]) false (loop.handle event).1
      (pictures ++ (loop.handle event).2.toList) := by
  have sameQueue := queue_handle event differs loop
  have handled : loop.handle event =
      (((start.process done).1.handle event).1.withQueue loop.queue,
        ((start.process done).1.handle event).2) := by
    rw [← handle_withQueue event differs]
    exact congrArg (fun loop => loop.handle event) worked.state
  constructor
  · rw [sameQueue, process_append_singleton, handled]
    rfl
  · rw [process_append_singleton, worked.pictures, handled]
  · rw [sameQueue]
    exact worked.receiving

private theorem HasWorked.finish (worked : HasWorked start done false loop pictures) :
    HasWorked start done true loop.finish pictures := by
  refine ⟨?_, worked.pictures, rfl⟩
  rw [worked.state]
  rfl

private theorem isEmpty_senders (sender : 0 ∈ loop.queue.senders) :
    loop.queue.senders.isEmpty = false :=
  List.isEmpty_eq_false_iff_exists_mem.mpr ⟨0, sender⟩

theorem Stands.step {picture : Option Picture} (stands : Stands start sent loop pictures)
    (stepped : loop.step = some (next, picture)) :
    Stands start sent next (pictures ++ picture.toList) := by
  cases stands with
  | ended done lost worked running all =>
      rw [step_of_not_receiving worked.receiving] at stepped
      contradiction
  | going done worked running all sender =>
      have receiving : loop.queue.receiving = true := worked.receiving
      cases onItsWay : loop.queue.pending with
      | nil =>
          rw [step_eq_none_of_pending_eq_nil (isEmpty_senders sender) onItsWay] at stepped
          contradiction
      | cons event rest =>
          rw [onItsWay] at all
          by_cases isStop : event = .stop
          · subst isStop
            have last : loop.step = some ((loop.withPending rest).finish, none) := by
              simp only [DecodeLoop.step, receiving, if_true, IngestQueue.receive, onItsWay]
              rfl
            obtain ⟨rfl, rfl⟩ := Prod.mk.inj (Option.some.inj (last.symm.trans stepped))
            rw [Option.toList_none, List.append_nil]
            exact .ended done rest (worked.withQueue rfl).finish running all
          · have further := step_eq_handle receiving isStop onItsWay
            obtain ⟨rfl, rfl⟩ := Prod.mk.inj (Option.some.inj (further.symm.trans stepped))
            have handled := worked.handle isStop
            refine .going (done ++ [event]) (handled.withQueue rfl) ?_ ?_ ?_
            · intro member
              rcases List.mem_append.mp member with earlier | now
              · exact running earlier
              · exact isStop (List.mem_singleton.mp now).symm
            · rw [all, List.append_assoc]
              rfl
            · change 0 ∈ (loop.handle event).1.queue.senders
              rw [queue_handle event isStop]
              exact sender

theorem Stands.steps (stands : Stands start sent loop pictures) (count : Nat) :
    Stands start sent (loop.steps count).1 (pictures ++ (loop.steps count).2) := by
  induction count generalizing loop pictures with
  | zero =>
      rw [DecodeLoop.steps, List.append_nil]
      exact stands
  | succ count ih =>
      rw [DecodeLoop.steps]
      cases stepped : loop.step with
      | none =>
          rw [List.append_nil]
          exact stands
      | some result =>
          obtain ⟨next, picture⟩ := result
          have further := ih (stands.step stepped)
          rw [List.append_assoc] at further
          exact further

/-! ### Senders -/

private theorem Stands.send (stands : Stands start sent loop pictures) (event : IngestEvent) :
    Stands start (sent ++ [event]) (loop.send event).1 pictures := by
  unfold DecodeLoop.send IngestQueue.send
  cases stands with
  | going done worked running all sender =>
      have receiving : loop.queue.receiving = true := worked.receiving
      rw [if_pos receiving]
      refine .going done (worked.withQueue rfl) running ?_ sender
      rw [all, List.append_assoc]
  | ended done lost worked running all =>
      have ended : ¬loop.queue.receiving = true := by
        rw [worked.receiving]
        exact Bool.false_ne_true
      rw [if_neg ended]
      refine .ended done (lost ++ [event]) worked running ?_
      rw [all, List.append_assoc, List.cons_append]

theorem send_eq_stopped (ended : loop.queue.receiving = false) (event : IngestEvent) :
    loop.send event = (loop, .error .stopped) := by
  unfold DecodeLoop.send IngestQueue.send
  rw [ended]
  rfl

private theorem Stands.withQueue (stands : Stands start sent loop pictures) (queue : IngestQueue)
    (pending : queue.pending = loop.queue.pending)
    (receiving : queue.receiving = loop.queue.receiving)
    (sender : 0 ∈ loop.queue.senders → 0 ∈ queue.senders) :
    Stands start sent (loop.withQueue queue) pictures := by
  cases stands with
  | going done worked running all present =>
      exact .going done (worked.withQueue receiving) running (pending ▸ all) (sender present)
  | ended done lost worked running all =>
      exact .ended done lost (worked.withQueue receiving) running all

/-! ### How far the loop has come -/

theorem Stands.of_step_eq_none (stands : Stands start sent loop pictures)
    (waits : loop.step = none) :
    HasWorked start (IngestEvent.untilStop sent) (decide (.stop ∈ sent)) loop pictures := by
  cases stands with
  | going done worked running all sender =>
      have idle : loop.queue.pending = [] := by
        cases onItsWay : loop.queue.pending with
        | nil => rfl
        | cons event rest =>
            have receiving : loop.queue.receiving = true := worked.receiving
            simp [DecodeLoop.step, receiving, IngestQueue.receive, onItsWay] at waits
      rw [idle, List.append_nil] at all
      rw [all, IngestEvent.untilStop_of_not_mem running, decide_eq_false running]
      exact worked
  | ended done lost worked running all =>
      have isSent : IngestEvent.stop ∈ sent := by
        rw [all]
        exact List.mem_append_right _ List.mem_cons_self
      rw [decide_eq_true isSent, all, IngestEvent.untilStop_append_stop running]
      exact worked

end DecodeLoop

namespace DecodeWorker

open DecodeLoop (HasWorked)

variable {start : DecodeLoop} {sent : List IngestEvent} {pictures : List Picture}
  {worker : DecodeWorker}

/-- A worker that has been stopped has waited for its loop to end. -/
structure Stands (start : DecodeLoop) (sent : List IngestEvent) (worker : DecodeWorker)
    (pictures : List Picture) : Prop where
  loop : start.Stands sent worker.loop pictures
  ended : worker.isRunning = false → worker.loop.queue.receiving = false

private theorem Stands.settle (stands : Stands start sent worker pictures) :
    HasWorked start (IngestEvent.untilStop sent) (decide (.stop ∈ sent)) worker.settle.1.loop
      (pictures ++ worker.settle.2) :=
  (stands.loop.steps _).of_step_eq_none (DecodeLoop.step_drain worker.loop)

private theorem send_eq_stopped (ended : worker.loop.queue.receiving = false)
    (event : IngestEvent) : worker.send event = (worker, .error .stopped) := by
  rw [send, DecodeLoop.send_eq_stopped ended]

private theorem stop_of_ended (ended : worker.loop.queue.receiving = false) :
    worker.stop = ({ worker with isRunning := false }, []) := by
  have waits := DecodeLoop.step_of_not_receiving ended
  unfold stop settle send DecodeLoop.drain
  rw [DecodeLoop.send_eq_stopped ended]
  dsimp only
  rw [DecodeLoop.steps_of_step_eq_none waits]
  cases running : worker.isRunning with
  | true => rfl
  | false =>
      rw [if_neg Bool.false_ne_true, ← running]

private theorem Stands.stop (stands : Stands start sent worker pictures) :
    Stands start (sent ++ [.stop]) worker.stop.1 (pictures ++ worker.stop.2) := by
  cases running : worker.isRunning with
  | false =>
      have ended := stands.ended running
      have lost := stands.loop.send .stop
      rw [DecodeLoop.send_eq_stopped ended] at lost
      rw [stop_of_ended ended, List.append_nil]
      exact ⟨lost, fun _ => ended⟩
  | true =>
      have settled := (stands.loop.send .stop).steps
        ((worker.loop.send .stop).1.queue.pending.length + 1)
      have ended := (settled.of_step_eq_none (DecodeLoop.step_drain _)).receiving
      have isSent : IngestEvent.stop ∈ sent ++ [.stop] :=
        List.mem_append_right _ List.mem_cons_self
      rw [decide_eq_true isSent] at ended
      unfold DecodeWorker.stop
      rw [if_pos running]
      exact ⟨settled, fun _ => ended⟩

theorem Stands.turn (stands : Stands start sent worker pictures) (turn : WorkerTurn) :
    Stands start (sent ++ turn.sent?.toList) (worker.turn turn).1
      (pictures ++ (worker.turn turn).2) := by
  cases turn with
  | send event =>
      have further := stands.loop.send event
      rw [← List.append_nil pictures] at further
      refine ⟨further, ?_⟩
      intro stopped
      have ended := stands.ended stopped
      change (worker.loop.send event).1.queue.receiving = false
      rw [DecodeLoop.send_eq_stopped ended]
      exact ended
  | stop => exact stands.stop
  | work count =>
      have further := stands.loop.steps count
      rw [← List.append_nil sent] at further
      refine ⟨further, ?_⟩
      intro stopped
      have ended := stands.ended stopped
      have waits := DecodeLoop.step_of_not_receiving ended
      change (worker.loop.steps count).1.queue.receiving = false
      rw [DecodeLoop.steps_of_step_eq_none waits]
      exact ended
  | enter =>
      have further := stands.loop.withQueue worker.loop.queue.addSender.1 rfl rfl fun sender =>
        List.mem_append_left _ sender
      rw [← List.append_nil sent, ← List.append_nil pictures] at further
      exact ⟨further, stands.ended⟩
  | leave others =>
      have further := stands.loop.withQueue (worker.loop.queue.dropSender (others + 1)) rfl rfl
        fun sender => List.mem_filter.mpr ⟨sender, rfl⟩
      rw [← List.append_nil sent, ← List.append_nil pictures] at further
      exact ⟨further, stands.ended⟩

theorem Stands.after (stands : Stands start sent worker pictures) (turns : List WorkerTurn) :
    Stands start (sent ++ WorkerTurn.sent turns) (worker.after turns).1
      (pictures ++ (worker.after turns).2) := by
  induction turns generalizing sent worker pictures with
  | nil =>
      rw [WorkerTurn.sent, List.filterMap_nil, List.append_nil, DecodeWorker.after, List.append_nil]
      exact stands
  | cons turn rest ih =>
      have further := ih (stands.turn turn)
      have events : WorkerTurn.sent (turn :: rest) = turn.sent?.toList ++ WorkerTurn.sent rest := by
        unfold WorkerTurn.sent
        rw [List.filterMap_cons]
        cases turn.sent? <;> rfl
      rw [List.append_assoc, List.append_assoc, ← events] at further
      exact further

end DecodeWorker
end VideoIngest
