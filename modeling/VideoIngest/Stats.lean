/-! The counters that ingest shows. -/

namespace VideoIngest

structure Stats where
  enqueued : Nat
  dropped : Nat
  decodeErrors : Nat
  decoders : Nat
  delivered : Nat
  deriving DecidableEq, Repr

namespace Stats

def zero : Stats := ⟨0, 0, 0, 0, 0⟩

def add (left right : Stats) : Stats where
  enqueued := left.enqueued + right.enqueued
  dropped := left.dropped + right.dropped
  decodeErrors := left.decodeErrors + right.decodeErrors
  decoders := left.decoders + right.decoders
  delivered := left.delivered + right.delivered

end Stats
end VideoIngest
