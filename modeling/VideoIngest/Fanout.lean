import VideoIngest.Picture

/-!
Delivery of pictures to every registered sink.

A sink may change the registrations while it is being called; a delivery goes to the sinks that were
registered when it began.
-/

namespace VideoIngest

structure SinkWants where
  maxWidth : Option Nat
  maxHeight : Option Nat
  maxFramerate : Option Nat
  deriving DecidableEq, Repr

def SinkWants.anything : SinkWants := ⟨none, none, none⟩

structure Registration where
  sink : String
  wants : SinkWants
  deriving DecidableEq, Repr

structure Fanout where
  registrations : List Registration
  deriving DecidableEq, Repr

namespace Fanout

def empty : Fanout := ⟨[]⟩

def sinks (fanout : Fanout) : List String := fanout.registrations.map Registration.sink

def size (fanout : Fanout) : Nat := fanout.registrations.length

def isEmpty (fanout : Fanout) : Bool := fanout.registrations.isEmpty

def wants? (fanout : Fanout) (sink : String) : Option SinkWants :=
  (fanout.registrations.find? fun entry => entry.sink == sink).map Registration.wants

/-- Registers a sink at the end, or replaces what it wants where it is. -/
def addOrUpdate (sink : String) (wants : SinkWants) (fanout : Fanout) : Fanout :=
  if sink ∈ fanout.sinks then
    ⟨fanout.registrations.map fun entry =>
      if entry.sink = sink then { entry with wants } else entry⟩
  else ⟨fanout.registrations ++ [⟨sink, wants⟩]⟩

/-- The list without the entry at a place, which the last entry takes. -/
def swapRemove {α : Type} (place : Nat) (entries : List α) : List α :=
  match entries.getLast? with
  | none => []
  | some last => (entries.set place last).dropLast

def remove (sink : String) (fanout : Fanout) : Fanout × Bool :=
  match fanout.registrations.findIdx? fun entry => entry.sink == sink with
  | none => (fanout, false)
  | some place => (⟨swapRemove place fanout.registrations⟩, true)

end Fanout

inductive FanoutChange
  | add (sink : String) (wants : SinkWants)
  | remove (sink : String)
  deriving DecidableEq, Repr

def Fanout.apply (fanout : Fanout) : FanoutChange → Fanout
  | .add sink wants => fanout.addOrUpdate sink wants
  | .remove sink => (fanout.remove sink).1

/-- A fan-out with its sinks. At each picture a sink makes the changes that come next in its
reactions; what the sinks have received is kept in the order of the calls. -/
structure Audience where
  fanout : Fanout
  reactions : String → List (List FanoutChange)
  received : Array (String × Picture)

namespace Audience

def empty : Audience := ⟨.empty, fun _ => [], #[]⟩

def call (picture : Picture) (audience : Audience) (sink : String) : Audience :=
  let received := audience.received.push (sink, picture)
  match audience.reactions sink with
  | [] => { audience with received }
  | now :: later =>
      { fanout := now.foldl Fanout.apply audience.fanout
        reactions := fun other => if other = sink then later else audience.reactions other
        received }

def deliver (picture : Picture) (audience : Audience) : Audience × Nat :=
  (audience.fanout.sinks.foldl (call picture) audience, audience.fanout.size)

end Audience
end VideoIngest
