import VideoIngest.Number.Word

/-!
How long a picture is held back so that pictures follow one another as they did at the source.

Source and wall times are in milliseconds, delays in microseconds.
-/

namespace VideoIngest

def maxPacingDelay : Nat := 1000000

structure PacerSample where
  source : Nat
  wall : Nat
  deriving DecidableEq, Repr

structure Pacer where
  enabled : Bool
  maxDelay : Nat
  idleYield : Nat
  previous : Option PacerSample
  deriving DecidableEq, Repr

namespace Pacer

def start (enabled : Bool) (maxDelay idleYield : Nat) : Pacer :=
  { enabled, maxDelay := min maxDelay maxPacingDelay, idleYield, previous := none }

/-- What a signed word of 64 bits holds of a number. -/
def signed (number : Int) : Int := Int.bmod number Number.wordBound64

def drift (previous : PacerSample) (source wall : Nat) : Int :=
  let sourceDelta := signed (signed source - signed previous.source)
  let wallDelta := signed (signed wall - signed previous.wall)
  signed (sourceDelta - wallDelta)

/-- The delay of a picture that is ready at `wall`: its drift, if that is positive and below the
longest delay in whole milliseconds. Without cadence to keep it is the idle yield. -/
def delayFor (pacer : Pacer) (source wall : Nat) : Nat :=
  match pacer.previous with
  | none => pacer.idleYield
  | some previous =>
      if !pacer.enabled then pacer.idleYield
      else
        let ahead := drift previous source wall
        if 0 < ahead ∧ ahead < (pacer.maxDelay / 1000 : Nat) then ahead.toNat * 1000 else 0

def record (source wall : Nat) (pacer : Pacer) : Pacer :=
  { pacer with previous := some { source, wall } }

end Pacer
end VideoIngest
