import VideoIngest.Fanout

/-!
What can be asked of a fan-out from outside, and the answers.

A delivery is a request as well; what the sinks change in the course of it is not asked from outside.
-/

namespace VideoIngest

inductive FanoutRequest
  | add (sink : String) (wants : SinkWants)
  | remove (sink : String)
  | wants (sink : String)
  | size
  | isEmpty
  | deliver (picture : Picture)
  deriving DecidableEq, Repr

inductive FanoutResponse
  | done
  | removed (wasRegistered : Bool)
  | wants (wants : Option SinkWants)
  | size (count : Nat)
  | isEmpty (isEmpty : Bool)
  | delivered (count : Nat)
  deriving DecidableEq, Repr

def Audience.answer (audience : Audience) : FanoutRequest → Audience × FanoutResponse
  | .add sink wants =>
      ({ audience with fanout := audience.fanout.addOrUpdate sink wants }, .done)
  | .remove sink =>
      let (fanout, wasRegistered) := audience.fanout.remove sink
      ({ audience with fanout }, .removed wasRegistered)
  | .wants sink => (audience, .wants (audience.fanout.wants? sink))
  | .size => (audience, .size audience.fanout.size)
  | .isEmpty => (audience, .isEmpty audience.fanout.isEmpty)
  | .deliver picture =>
      let (audience, count) := audience.deliver picture
      (audience, .delivered count)

end VideoIngest
