import VideoIngest.Proofs.DecodeLoop.Order
import VideoIngest.Proofs.History

/-!
The work of the decode loop by itself: it depends on the events alone, and it goes on as far as the
first stop.
-/

namespace VideoIngest

def IngestEvent.isFrame : IngestEvent → Bool
  | formatChange _ _ => false
  | frame _ => true
  | stop => false

/-- The frame that is lost when this event is worked on, because no decoder is live. -/
def IngestEvent.missedBy (slot : DecoderSlot) : IngestEvent → Option CodedFrame
  | formatChange _ _ => none
  | frame coded => if slot.active.isNone then some coded else none
  | stop => none

namespace DecodeLoop

def misses : Nat → DecodeLoop → List CodedFrame
  | 0, _ => []
  | count + 1, loop =>
      match loop.step with
      | none => []
      | some (next, _) =>
          (loop.queue.pending.head?.bind (IngestEvent.missedBy loop.slot)).toList ++
            misses count next

def missed (events : List IngestEvent) (loop : DecodeLoop) : List CodedFrame :=
  History.collect (fun earlier => IngestEvent.missedBy (loop.process earlier).1.slot) events

/-! ### What work depends on -/

/-- Both loops have done the same work. What is on its way to them and which sessions they see may
differ. -/
structure SameWork (loop other : DecodeLoop) : Prop where
  slot : other.slot = loop.slot
  undecoded : other.undecoded = loop.undecoded
  decodeErrors : other.decodeErrors = loop.decodeErrors

variable {loop other : DecodeLoop}

private theorem withPending_withPending (first second : List IngestEvent) (loop : DecodeLoop) :
    (loop.withPending first).withPending second = loop.withPending second := rfl

private theorem sameWork_withPending (pending : List IngestEvent) (loop : DecodeLoop) :
    loop.SameWork (loop.withPending pending) := ⟨rfl, rfl, rfl⟩

private theorem SameWork.onFormat (same : loop.SameWork other) (session : String)
    (format : VideoFormat) :
    (loop.onFormat session format).SameWork (other.onFormat session format) := by
  unfold DecodeLoop.onFormat
  rw [same.slot]
  cases loop.slot.applyFormat format with
  | mk slot outcome =>
      dsimp only
      cases stateAfter outcome with
      | none => exact ⟨rfl, same.undecoded, same.decodeErrors⟩
      | some state => exact ⟨rfl, same.undecoded, same.decodeErrors⟩

private theorem SameWork.onFrame (same : loop.SameWork other) (frame : CodedFrame) :
    (loop.onFrame frame).1.SameWork (other.onFrame frame).1 ∧
      (other.onFrame frame).2 = (loop.onFrame frame).2 := by
  unfold DecodeLoop.onFrame
  rw [same.slot]
  split
  · exact ⟨same, rfl⟩
  · split
    · exact ⟨⟨rfl, same.undecoded, same.decodeErrors⟩, rfl⟩
    · exact ⟨⟨rfl, congrArg (· + 1) same.undecoded, same.decodeErrors⟩, rfl⟩
    · exact ⟨⟨rfl, same.undecoded, congrArg (· + 1) same.decodeErrors⟩, rfl⟩

theorem SameWork.handle (same : loop.SameWork other) (event : IngestEvent) :
    (loop.handle event).1.SameWork (other.handle event).1 ∧
      (other.handle event).2 = (loop.handle event).2 := by
  cases event with
  | formatChange session format => exact ⟨same.onFormat session format, rfl⟩
  | frame frame => exact same.onFrame frame
  | stop =>
      refine ⟨⟨?_, same.undecoded, same.decodeErrors⟩, rfl⟩
      exact congrArg (fun slot => slot.destroy.1) same.slot

theorem SameWork.process (same : loop.SameWork other) (events : List IngestEvent) :
    (loop.process events).1.SameWork (other.process events).1 ∧
      (other.process events).2 = (loop.process events).2 := by
  induction events generalizing loop other with
  | nil => exact ⟨same, rfl⟩
  | cons event rest ih =>
      obtain ⟨next, samePicture⟩ := same.handle event
      obtain ⟨last, samePictures⟩ := ih next
      refine ⟨last, ?_⟩
      simp only [DecodeLoop.process, samePicture, samePictures]

theorem SameWork.missed (same : loop.SameWork other) (events : List IngestEvent) :
    other.missed events = loop.missed events := by
  unfold DecodeLoop.missed
  congr 1
  funext earlier
  rw [(same.process earlier).1.slot]

theorem missed_cons (event : IngestEvent) (rest : List IngestEvent) (loop : DecodeLoop) :
    loop.missed (event :: rest) =
      (event.missedBy loop.slot).toList ++ (loop.handle event).1.missed rest :=
  History.collect_cons _ _ _

theorem missed_append (front back : List IngestEvent) (loop : DecodeLoop) :
    loop.missed (front ++ back) = loop.missed front ++ (loop.process front).1.missed back := by
  unfold missed
  rw [History.collect_append]
  congr 2
  funext earlier
  rw [process_append]

/-! ### Steps -/

/-- The steps as far as the next events go, none of which is a stop, and those behind them. -/
theorem steps_append {front back : List IngestEvent} (receiving : loop.queue.receiving = true)
    (running : .stop ∉ front) (onItsWay : loop.queue.pending = front ++ back) (count : Nat) :
    loop.steps (front.length + count) =
        ((steps count ((loop.process front).1.withPending back)).1,
          (loop.process front).2 ++ (steps count ((loop.process front).1.withPending back)).2) ∧
      loop.misses (front.length + count) =
        loop.missed front ++ misses count ((loop.process front).1.withPending back) := by
  -- Work on an event leaves the events behind it as they are, until a stop drops them all.
  induction front generalizing loop with
  | nil =>
      rw [List.length_nil, Nat.zero_add]
      have same : (loop.process []).1.withPending back = loop := by
        change loop.withPending back = loop
        rw [withPending, ← List.nil_append back, ← onItsWay]
      rw [same]
      exact ⟨rfl, rfl⟩
  | cons event rest ih =>
      obtain ⟨differs, restRunning⟩ := List.ne_and_not_mem_of_not_mem_cons running
      have stepped : loop.step =
          some ((loop.handle event).1.withPending (rest ++ back), (loop.handle event).2) :=
        step_eq_handle receiving differs.symm onItsWay
      have sameQueue := queue_handle event differs.symm loop
      have later : ((loop.handle event).1.withPending (rest ++ back)).queue.receiving = true := by
        rw [withPending, sameQueue]
        exact receiving
      obtain ⟨steps, misses⟩ := ih later restRunning rfl
      rw [process_withPending _ restRunning, withPending_withPending] at steps misses
      rw [(sameWork_withPending _ _).missed] at misses
      have onward : (event :: rest).length + count = (rest.length + count) + 1 := by
        rw [List.length_cons]
        omega
      rw [onward]
      constructor
      · simp only [DecodeLoop.steps, stepped, steps, process, List.append_assoc]
      · simp only [DecodeLoop.misses, stepped, onItsWay, List.cons_append, List.head?_cons,
          Option.bind_some, misses, missed_cons, process, List.append_assoc]

theorem step_eq_none_of_pending_eq_nil (sender : loop.queue.senders.isEmpty = false)
    (empty : loop.queue.pending = []) : loop.step = none := by
  unfold step
  split
  · simp only [IngestQueue.receive, empty, sender, Bool.false_eq_true, if_false]
  · rfl

theorem step_of_not_receiving (ended : loop.queue.receiving = false) : loop.step = none := by
  rw [step, ended, if_neg Bool.false_ne_true]

theorem steps_of_step_eq_none (waits : loop.step = none) (count : Nat) :
    loop.steps count = (loop, []) := by
  cases count with
  | zero => rfl
  | succ count => simp only [DecodeLoop.steps, waits]

theorem misses_of_step_eq_none (waits : loop.step = none) (count : Nat) :
    loop.misses count = [] := by
  cases count with
  | zero => rfl
  | succ count => simp only [misses, waits]

/-- Where no stop is on its way, the next steps lose what the events that come next lose. -/
theorem misses_eq_missed (count : Nat) (receiving : loop.queue.receiving = true)
    (sender : loop.queue.senders.isEmpty = false) (running : .stop ∉ loop.queue.pending) :
    loop.misses count = loop.missed (loop.queue.pending.take count) := by
  have frontRunning : .stop ∉ loop.queue.pending.take count := fun member =>
    running (List.mem_of_mem_take member)
  obtain ⟨more, enough, waits⟩ : ∃ more, count = (loop.queue.pending.take count).length + more ∧
      misses more ((loop.process (loop.queue.pending.take count)).1.withPending
        (loop.queue.pending.drop count)) = [] := by
    by_cases short : count ≤ loop.queue.pending.length
    · refine ⟨0, ?_, rfl⟩
      rw [List.length_take, Nat.min_eq_left short, Nat.add_zero]
    · refine ⟨count - loop.queue.pending.length, ?_, misses_of_step_eq_none ?_ _⟩
      · rw [List.length_take, Nat.min_eq_right (Nat.le_of_not_le short)]
        omega
      · apply step_eq_none_of_pending_eq_nil
        · rw [withPending, queue_process _ frontRunning]
          exact sender
        · exact List.drop_of_length_le (Nat.le_of_not_le short)
  have split := (steps_append receiving frontRunning
    (List.take_append_drop count loop.queue.pending).symm more).2
  rw [← enough, waits, List.append_nil] at split
  exact split

/-- A stop behind these events ends the loop once they are worked on. -/
theorem steps_of_stop {events : List IngestEvent} (receiving : loop.queue.receiving = true)
    (running : .stop ∉ events) (onItsWay : loop.queue.pending = events ++ [.stop]) :
    loop.steps (events.length + 2) =
        (((loop.process events).1.withPending []).finish, (loop.process events).2) ∧
      loop.misses (events.length + 2) = loop.missed events := by
  obtain ⟨steps, misses⟩ := steps_append receiving running onItsWay 2
  have sameQueue := queue_process events running loop
  have stillReceiving : ((loop.process events).1.withPending [.stop]).queue.receiving = true := by
    rw [withPending, sameQueue]
    exact receiving
  have last : ((loop.process events).1.withPending [.stop]).step =
      some (((loop.process events).1.withPending []).finish, none) := by
    rw [step, if_pos stillReceiving]
    rfl
  have ended : (((loop.process events).1.withPending []).finish).step = none := rfl
  rw [steps, misses]
  constructor
  · simp only [DecodeLoop.steps, last, ended, Option.toList_none, List.append_nil]
  · simp only [DecodeLoop.misses, last, ended, List.append_nil]
    exact List.append_nil _

end DecodeLoop
end VideoIngest
