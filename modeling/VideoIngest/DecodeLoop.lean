import VideoIngest.Decoder.Slot
import VideoIngest.IngestQueue
import VideoIngest.Session.Table

/-!
The loop that takes events from the queue in their order and drives the decoder.

It ends at the first stop. Then the decoder is dropped and nothing more is received.
-/

namespace VideoIngest

/-- The loop with all that it works on, and its counts of frames that met no decoder and of frames
that the decoder refused. -/
structure DecodeLoop where
  queue : IngestQueue
  slot : DecoderSlot
  sessions : SessionTable
  undecoded : Nat
  decodeErrors : Nat

namespace DecodeLoop

def start (engine : Engine) (sessions : SessionTable) : DecodeLoop :=
  { queue := .fresh, slot := .empty engine, sessions, undecoded := 0, decodeErrors := 0 }

def stateAfter : Except IngestError FormatOutcome → Option SessionState
  | .ok .created | .ok .unchanged => some .decoding
  | .ok .ignored => none
  | .error _ => some .awaitingFormat

def onFormat (session : String) (format : VideoFormat) (loop : DecodeLoop) : DecodeLoop :=
  let (slot, outcome) := loop.slot.applyFormat format
  match stateAfter outcome with
  | none => { loop with slot }
  | some state => { loop with slot, sessions := loop.sessions.setState session state }

/-- A frame without data is passed over. -/
def onFrame (frame : CodedFrame) (loop : DecodeLoop) : DecodeLoop × Option Picture :=
  if frame.data.isEmpty then (loop, none)
  else
    match loop.slot.submit frame with
    | (slot, .ok picture) => ({ loop with slot }, some picture)
    | (slot, .error .noDecoder) => ({ loop with slot, undecoded := loop.undecoded + 1 }, none)
    | (slot, .error _) => ({ loop with slot, decodeErrors := loop.decodeErrors + 1 }, none)

def finish (loop : DecodeLoop) : DecodeLoop :=
  { loop with queue := loop.queue.dropReceiver, slot := loop.slot.destroy.1 }

def handle (loop : DecodeLoop) : IngestEvent → DecodeLoop × Option Picture
  | .formatChange session format => (loop.onFormat session format, none)
  | .frame frame => loop.onFrame frame
  | .stop => (loop.finish, none)

/-- Takes the next event from the queue and works on it. Where the loop has ended or has to wait
there is no step. -/
def step (loop : DecodeLoop) : Option (DecodeLoop × Option Picture) :=
  if loop.queue.receiving then
    match loop.queue.receive with
    | (_, .blocked) => none
    | (queue, .event event) => some ({ loop with queue }.handle event)
  else none

def steps : Nat → DecodeLoop → DecodeLoop × List Picture
  | 0, loop => (loop, [])
  | count + 1, loop =>
      match loop.step with
      | none => (loop, [])
      | some (next, picture) =>
          let (last, pictures) := steps count next
          (last, picture.toList ++ pictures)

/-- Steps until there is none: one for each event on its way, and one for the stop that a queue
without senders reads as. -/
def drain (loop : DecodeLoop) : DecodeLoop × List Picture :=
  loop.steps (loop.queue.pending.length + 1)

def send (event : IngestEvent) (loop : DecodeLoop) : DecodeLoop × Except IngestError Unit :=
  let (queue, result) := loop.queue.send event
  ({ loop with queue }, result)

def stats (loop : DecodeLoop) : Stats :=
  loop.slot.stats.add
    { Stats.zero with dropped := loop.undecoded, decodeErrors := loop.decodeErrors }

/-! ### Draining -/

@[simp] theorem queue_onFormat (session : String) (format : VideoFormat) (loop : DecodeLoop) :
    (loop.onFormat session format).queue = loop.queue := by
  unfold onFormat
  cases loop.slot.applyFormat format with
  | mk slot outcome => cases outcome with
    | error failure => rfl
    | ok outcome => cases outcome <;> rfl

@[simp] theorem queue_onFrame (frame : CodedFrame) (loop : DecodeLoop) :
    (loop.onFrame frame).1.queue = loop.queue := by
  unfold onFrame
  split
  · rfl
  · split <;> rfl

def stepsLeft (loop : DecodeLoop) : Nat :=
  if loop.queue.receiving then loop.queue.pending.length + 1 else 0

theorem stepsLeft_handle (event : IngestEvent) (loop : DecodeLoop) :
    (loop.handle event).1.stepsLeft ≤ loop.stepsLeft := by
  cases event with
  | formatChange session format => simp [handle, stepsLeft]
  | frame frame => simp [handle, stepsLeft]
  | stop => simp [handle, finish, stepsLeft, IngestQueue.dropReceiver]

theorem stepsLeft_of_step {loop next : DecodeLoop} {picture : Option Picture}
    (stepped : loop.step = some (next, picture)) : next.stepsLeft < loop.stepsLeft := by
  unfold step at stepped
  split at stepped
  · rename_i receiving
    cases pending : loop.queue.pending with
    | nil =>
        cases senders : loop.queue.senders with
        | nil =>
            simp only [IngestQueue.receive, pending, senders, List.isEmpty_nil, if_true,
              Option.some.injEq] at stepped
            have same : next = (loop.handle .stop).1 := (congrArg Prod.fst stepped).symm
            simp [same, handle, finish, stepsLeft, IngestQueue.dropReceiver, receiving]
        | cons sender others =>
            simp [IngestQueue.receive, pending, senders] at stepped
    | cons event rest =>
        simp only [IngestQueue.receive, pending, Option.some.injEq] at stepped
        have bound := stepsLeft_handle event
          { loop with queue := { loop.queue with pending := rest } }
        rw [stepped] at bound
        simp only [stepsLeft, receiving, if_true, pending, List.length_cons] at bound ⊢
        omega
  · contradiction

theorem step_steps {count : Nat} {loop : DecodeLoop} (enough : loop.stepsLeft ≤ count) :
    (loop.steps count).1.step = none := by
  induction count generalizing loop with
  | zero =>
      have ended : loop.queue.receiving = false := by
        cases receiving : loop.queue.receiving with
        | false => rfl
        | true => simp [stepsLeft, receiving] at enough
      simp [steps, step, ended]
  | succ count ih =>
      cases stepped : loop.step with
      | none => simp [steps, stepped]
      | some result =>
          obtain ⟨next, picture⟩ := result
          have fewer := stepsLeft_of_step stepped
          have bounded : next.stepsLeft ≤ count := by omega
          simpa [steps, stepped] using ih bounded

/-- After draining there is nothing left to do. -/
theorem step_drain (loop : DecodeLoop) : loop.drain.1.step = none := by
  apply step_steps
  unfold stepsLeft
  split <;> omega

end DecodeLoop

structure DecodeWorker where
  loop : DecodeLoop
  isRunning : Bool

namespace DecodeWorker

def start (engine : Engine) (sessions : SessionTable) : DecodeWorker :=
  { loop := .start engine sessions, isRunning := true }

def send (event : IngestEvent) (worker : DecodeWorker) :
    DecodeWorker × Except IngestError Unit :=
  let (loop, result) := worker.loop.send event
  ({ worker with loop }, result)

def settle (worker : DecodeWorker) : DecodeWorker × List Picture :=
  let (loop, pictures) := worker.loop.drain
  ({ worker with loop }, pictures)

/-- Has everything processed that was sent before, and ends the loop. -/
def stop (worker : DecodeWorker) : DecodeWorker × List Picture :=
  if worker.isRunning then
    let (worker, pictures) := (worker.send .stop).1.settle
    ({ worker with isRunning := false }, pictures)
  else (worker, [])

end DecodeWorker
end VideoIngest
