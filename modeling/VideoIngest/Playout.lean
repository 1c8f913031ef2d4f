import VideoIngest.Fanout
import VideoIngest.Pacer
import VideoIngest.Stats

/-! What happens to a decoded picture: it waits for its turn and goes to the sinks. -/

namespace VideoIngest

/-- The clock counts microseconds. In this account of time only waiting takes any. -/
structure Playout where
  pacer : Pacer
  clock : Nat
  audience : Audience
  delivered : Nat

namespace Playout

def start (pacer : Pacer) (audience : Audience) : Playout :=
  { pacer, clock := 0, audience, delivered := 0 }

def now (clock : Nat) : Nat := clock / 1000

def decoded (picture : Picture) (playout : Playout) : Playout :=
  let delay := playout.pacer.delayFor picture.timestamp (now playout.clock)
  let clock := playout.clock + delay
  { pacer := playout.pacer.record picture.timestamp (now clock)
    clock
    audience := (playout.audience.deliver picture).1
    delivered := playout.delivered + 1 }

def stats (playout : Playout) : Stats := { Stats.zero with delivered := playout.delivered }

def change (request : FanoutChange) (playout : Playout) : Playout :=
  { playout with audience := { playout.audience with
      fanout := playout.audience.fanout.apply request } }

end Playout
end VideoIngest
