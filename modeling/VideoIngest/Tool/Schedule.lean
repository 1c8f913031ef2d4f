import VideoIngest.Number.Decimal
import VideoIngest.Number.Word

/-! When the chunks of a file are sent, at a given number of chunks per second. -/

namespace VideoIngest.Tool

/-- Durations are in nanoseconds. -/
def nanosPerSecond : Nat := 1000000000

/-- Below this rate the interval would exceed a hundred seconds. -/
def leastRate : Option Number.Dyadic := Number.nearest 1 100

/-- The interval between chunks, to the nearest nanosecond, at a rate that is neither too low nor
infinite. -/
def chunkInterval (rate : Number.Value) : Option Nat := do
  let .finite rate := rate | none
  guard (!rate.lessThan (← leastRate))
  let seconds ← Number.reciprocal rate
  return Number.roundQuotient (seconds.fraction.1 * nanosPerSecond) seconds.fraction.2

/-- The longest duration: as many seconds as 64 bits can count, and a fraction. -/
def longestDuration : Nat := (Number.wordBound64 - 1) * nanosPerSecond + 999999999

def greatestMultiple : Nat := Number.wordBound32 - 1

def presentationOffset (interval index : Nat) : Nat :=
  min (interval * min index greatestMultiple) longestDuration

end VideoIngest.Tool
