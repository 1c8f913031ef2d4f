import VideoIngest.DecodeLoop

/-!
The decode loop works on events one by one in the order in which they were sent: its steps are a
fold over what is on its way.
-/

namespace VideoIngest.DecodeLoop

def withPending (pending : List IngestEvent) (loop : DecodeLoop) : DecodeLoop :=
  { loop with queue := { loop.queue with pending } }

def withQueue (queue : IngestQueue) (loop : DecodeLoop) : DecodeLoop := { loop with queue }

def sendAll (events : List IngestEvent) (loop : DecodeLoop) : DecodeLoop :=
  events.foldl (fun loop event => (loop.send event).1) loop

/-- Works on events one after another. The queue has no part in it. -/
def process : List IngestEvent → DecodeLoop → DecodeLoop × List Picture
  | [], loop => (loop, [])
  | event :: rest, loop =>
      let (next, picture) := loop.handle event
      let (last, pictures) := process rest next
      (last, picture.toList ++ pictures)

theorem process_append (front back : List IngestEvent) (loop : DecodeLoop) :
    loop.process (front ++ back) =
      (((loop.process front).1.process back).1,
        (loop.process front).2 ++ ((loop.process front).1.process back).2) := by
  induction front generalizing loop with
  | nil => rfl
  | cons event rest ih =>
      simp only [List.cons_append, process, ih, List.append_assoc]

theorem process_append_singleton (events : List IngestEvent) (event : IngestEvent)
    (loop : DecodeLoop) :
    loop.process (events ++ [event]) =
      (((loop.process events).1.handle event).1,
        (loop.process events).2 ++ ((loop.process events).1.handle event).2.toList) := by
  rw [process_append]
  simp only [process, List.append_nil]

theorem queue_handle (event : IngestEvent) (running : event ≠ .stop) (loop : DecodeLoop) :
    (loop.handle event).1.queue = loop.queue := by
  cases event with
  | formatChange session format => exact queue_onFormat session format loop
  | frame frame => exact queue_onFrame frame loop
  | stop => contradiction

theorem queue_process (events : List IngestEvent) (running : .stop ∉ events)
    (loop : DecodeLoop) : (loop.process events).1.queue = loop.queue := by
  induction events generalizing loop with
  | nil => rfl
  | cons event rest ih =>
      obtain ⟨differs, restRunning⟩ := List.ne_and_not_mem_of_not_mem_cons running
      exact (ih restRunning (loop.handle event).1).trans (queue_handle event differs.symm loop)

theorem sendAll_eq (events : List IngestEvent) (loop : DecodeLoop)
    (receiving : loop.queue.receiving = true) :
    loop.sendAll events = loop.withPending (loop.queue.pending ++ events) := by
  induction events generalizing loop with
  | nil => simp [sendAll, withPending]
  | cons event rest ih =>
      have sent : (loop.send event).1 = loop.withPending (loop.queue.pending ++ [event]) := by
        simp only [send, IngestQueue.send, receiving, if_true, withPending]
      have others := ih (loop.withPending (loop.queue.pending ++ [event])) receiving
      change sendAll rest (loop.send event).1 = _
      rw [sent, others]
      simp [withPending]

theorem handle_withQueue (event : IngestEvent) (running : event ≠ .stop) (queue : IngestQueue)
    (loop : DecodeLoop) :
    (loop.withQueue queue).handle event =
      ((loop.handle event).1.withQueue queue, (loop.handle event).2) := by
  cases event with
  | formatChange session format =>
      simp only [handle, onFormat, withQueue]
      cases loop.slot.applyFormat format with
      | mk slot outcome =>
          dsimp only
          cases stateAfter outcome <;> rfl
  | frame frame =>
      simp only [handle, onFrame, withQueue]
      cases frame.data.isEmpty with
      | true => rfl
      | false =>
          simp only [Bool.false_eq_true, if_false]
          split <;> rfl
  | stop => contradiction

private theorem handle_withPending (event : IngestEvent) (running : event ≠ .stop)
    (pending : List IngestEvent) (loop : DecodeLoop) :
    (loop.withPending pending).handle event =
      ((loop.handle event).1.withPending pending, (loop.handle event).2) := by
  rw [withPending, withPending, queue_handle event running]
  exact handle_withQueue event running { loop.queue with pending } loop

theorem process_withPending (events : List IngestEvent) (running : .stop ∉ events)
    (pending : List IngestEvent) (loop : DecodeLoop) :
    (loop.withPending pending).process events =
      ((loop.process events).1.withPending pending, (loop.process events).2) := by
  induction events generalizing loop with
  | nil => rfl
  | cons event rest ih =>
      obtain ⟨differs, restRunning⟩ := List.ne_and_not_mem_of_not_mem_cons running
      simp only [process]
      rw [handle_withPending event differs.symm]
      simp only [ih restRunning]

theorem step_eq_handle {loop : DecodeLoop} {event : IngestEvent} {rest : List IngestEvent}
    (receiving : loop.queue.receiving = true) (running : event ≠ .stop)
    (onItsWay : loop.queue.pending = event :: rest) :
    loop.step = some ((loop.handle event).1.withPending rest, (loop.handle event).2) := by
  rw [← handle_withPending event running]
  simp only [step, receiving, if_true, IngestQueue.receive, onItsWay, withPending]

/-- Where no stop is on its way, the next steps work on the events that come next. -/
theorem steps_eq_process (count : Nat) (loop : DecodeLoop)
    (receiving : loop.queue.receiving = true) (sender : loop.queue.senders.isEmpty = false)
    (running : .stop ∉ loop.queue.pending) :
    loop.steps count =
      ((loop.process (loop.queue.pending.take count)).1.withPending
          (loop.queue.pending.drop count),
        (loop.process (loop.queue.pending.take count)).2) := by
  induction count generalizing loop with
  | zero => rfl
  | succ count ih =>
      cases onItsWay : loop.queue.pending with
      | nil =>
          have waits : loop.step = none := by
            simp [step, receiving, IngestQueue.receive, onItsWay, sender]
          simp only [steps, waits, List.take_nil, List.drop_nil, process]
          rw [withPending, ← onItsWay]
      | cons event rest =>
          rw [onItsWay] at running
          obtain ⟨differs, restRunning⟩ := List.ne_and_not_mem_of_not_mem_cons running
          have stepped := step_eq_handle receiving differs.symm onItsWay
          have sameQueue : (loop.handle event).1.queue = loop.queue :=
            queue_handle event differs.symm loop
          have remaining := ih ((loop.handle event).1.withPending rest)
            (by rw [withPending, sameQueue]; exact receiving)
            (by rw [withPending, sameQueue]; exact sender) restRunning
          have pendingRest : ((loop.handle event).1.withPending rest).queue.pending = rest := rfl
          rw [pendingRest, process_withPending _ (fun member =>
            restRunning (List.mem_of_mem_take member))] at remaining
          simp only [steps, stepped, remaining, List.take_succ_cons, List.drop_succ_cons, process]
          rfl

end VideoIngest.DecodeLoop
