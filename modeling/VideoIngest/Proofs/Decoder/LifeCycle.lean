import VideoIngest.Proofs.Decoder.Attempt
import VideoIngest.Proofs.History

/-!
The life cycle of decoders.

Whatever is asked of a decoder slot and however its engine behaves, the calls to the engine are the
lives of its decoders, each complete, one after another.
-/

namespace VideoIngest

/-- What the engine sees of one attempt to create a decoder, up to the end of that decoder. -/
inductive DecoderLife
  | refused (format : VideoFormat)
  | misfit (format : VideoFormat)
  | served (format : VideoFormat) (frames : List CodedFrame)
  deriving DecidableEq, Repr

namespace DecoderLife

def attempt : DecoderLife → Attempt
  | refused _ => .refused
  | misfit _ => .misfit
  | served _ _ => .ready

def servedCalls (format : VideoFormat) (frames : List CodedFrame) : List EngineEvent :=
  Attempt.ready.calls format ++ frames.map EngineEvent.decode

/-- The calls of a whole life. Every decoder that was created is dropped at its end. -/
def calls : DecoderLife → List EngineEvent
  | refused format => Attempt.refused.calls format
  | misfit format => Attempt.misfit.calls format
  | served format frames => servedCalls format frames ++ [.destroy format]

end DecoderLife

namespace EngineEvent

def isCreation : EngineEvent → Bool
  | create _ => true
  | _ => false

def isDestruction : EngineEvent → Bool
  | destroy _ => true
  | _ => false

def isAttempt : EngineEvent → Bool
  | create _ => true
  | createFailed _ => true
  | _ => false

end EngineEvent

def createdBy (calls : List EngineEvent) : Nat := calls.countP EngineEvent.isCreation

def droppedBy (calls : List EngineEvent) : Nat := calls.countP EngineEvent.isDestruction

inductive SlotRequest
  | announce (format : VideoFormat)
  | submit (frame : CodedFrame)
  | destroy
  deriving DecidableEq, Repr

namespace DecoderSlot

def perform (slot : DecoderSlot) : SlotRequest → DecoderSlot
  | .announce format => (slot.applyFormat format).1
  | .submit frame => (slot.submit frame).1
  | .destroy => slot.destroy.1

def run (slot : DecoderSlot) (requests : List SlotRequest) : DecoderSlot :=
  requests.foldl perform slot

/-! ### The course of the lives -/

structure Service where
  format : VideoFormat
  frames : List CodedFrame

namespace Service

def life (service : Service) : DecoderLife := .served service.format service.frames

def calls (service : Service) : List EngineEvent :=
  DecoderLife.servedCalls service.format service.frames

end Service

/-- The slot has seen these lives to their end, and that of the live decoder so far. -/
structure HasSeen (start : Engine) (lives : List DecoderLife) (service : Option Service)
    (slot : DecoderSlot) : Prop where
  calls : slot.engine.calls =
    start.calls ++ lives.flatMap DecoderLife.calls ++ service.toList.flatMap Service.calls
  active : slot.active = service.map fun service => .ready service.format
  made : Engine.HasMade start
    ((lives ++ service.toList.map Service.life).map DecoderLife.attempt) slot.engine

variable {start : Engine} {lives : List DecoderLife} {service : Option Service}
  {slot : DecoderSlot}

theorem hasSeen_empty (start : Engine) : HasSeen start [] none (.empty start) :=
  ⟨by simp [empty], rfl, .initial start⟩

private theorem HasSeen.destroy (seen : HasSeen start lives service slot) :
    HasSeen start (lives ++ service.toList.map Service.life) none slot.destroy.1 := by
  refine ⟨?_, active_destroy slot, ?_⟩
  · rw [calls_destroy, seen.calls, dropCalls, activeFormat, seen.active]
    cases service with
    | none => simp
    | some service => simp [LiveDecoder.ready, Service.life, Service.calls, DecoderLife.calls]
  · rw [Option.toList_none, List.map_nil, List.append_nil]
    exact seen.made.of_sameScript (creationScript_destroy slot)

private theorem HasSeen.submit (frame : CodedFrame) (seen : HasSeen start lives service slot) :
    HasSeen start lives
      (service.map fun service => { service with frames := service.frames ++ [frame] })
      (slot.submit frame).1 := by
  rw [submit_eq]
  cases service with
  | none =>
      have empty : slot.active = none := seen.active
      rw [empty]
      exact seen
  | some service =>
      have live : slot.active = some (.ready service.format) := seen.active
      rw [live]
      refine ⟨?_, rfl, ?_⟩
      · change (slot.engine.decode frame _).1.calls = _
        rw [Engine.calls_decode, seen.calls]
        simp [Service.calls, DecoderLife.servedCalls]
      · have sameAttempts := seen.made.of_sameScript
          (Engine.creationScript_decode frame (.ready service.format) slot.engine)
        simpa [Service.life, DecoderLife.attempt] using sameAttempts

private theorem HasSeen.create (format : VideoFormat) (seen : HasSeen start lives none slot) :
    ∃ lives' service', HasSeen start lives' service' (slot.create format).1 := by
  have made := seen.made.attempt format
  have calls := Engine.calls_afterAttempt format slot.engine
  rw [Option.toList_none, List.map_nil, List.append_nil] at made
  rw [seen.calls, Option.toList_none, List.flatMap_nil, List.append_nil] at calls
  rw [create_eq]
  cases ended : Attempt.next slot.engine with
  | refused =>
      refine ⟨lives ++ [.refused format], none, ?_, seen.active, ?_⟩
      · simpa [ended, DecoderLife.calls] using calls
      · simpa [ended, DecoderLife.attempt] using made
  | misfit =>
      refine ⟨lives ++ [.misfit format], none, ?_, seen.active, ?_⟩
      · simpa [ended, DecoderLife.calls] using calls
      · simpa [ended, DecoderLife.attempt] using made
  | ready =>
      refine ⟨lives, some ⟨format, []⟩, ?_, rfl, ?_⟩
      · simpa [ended, Service.calls, DecoderLife.servedCalls] using calls
      · simpa [ended, Service.life, DecoderLife.attempt] using made

private theorem HasSeen.perform (request : SlotRequest) (seen : HasSeen start lives service slot) :
    ∃ lives' service', HasSeen start lives' service' (slot.perform request) := by
  cases request with
  | announce format =>
      change ∃ lives' service', HasSeen start lives' service' (slot.applyFormat format).1
      rw [applyFormat_eq]
      split
      · exact seen.destroy.create format
      · exact ⟨lives, service, seen⟩
  | submit frame => exact ⟨_, _, seen.submit frame⟩
  | destroy => exact ⟨_, _, seen.destroy⟩

theorem HasSeen.run (requests : List SlotRequest) (seen : HasSeen start lives service slot) :
    ∃ lives' service', HasSeen start lives' service' (slot.run requests) := by
  induction requests generalizing lives service slot with
  | nil => exact ⟨lives, service, seen⟩
  | cons request rest ih =>
      obtain ⟨lives', service', next⟩ := seen.perform request
      exact ih next

end DecoderSlot

/-! ### Created and dropped decoders -/

private theorem createdBy_decodes (frames : List CodedFrame) :
    createdBy (frames.map EngineEvent.decode) = 0 := by
  rw [createdBy, List.countP_eq_zero]
  intro call member
  obtain ⟨frame, _, rfl⟩ := List.mem_map.mp member
  simp [EngineEvent.isCreation]

private theorem droppedBy_decodes (frames : List CodedFrame) :
    droppedBy (frames.map EngineEvent.decode) = 0 := by
  rw [droppedBy, List.countP_eq_zero]
  intro call member
  obtain ⟨frame, _, rfl⟩ := List.mem_map.mp member
  simp [EngineEvent.isDestruction]

theorem createdBy_append (front back : List EngineEvent) :
    createdBy (front ++ back) = createdBy front + createdBy back := List.countP_append

theorem droppedBy_append (front back : List EngineEvent) :
    droppedBy (front ++ back) = droppedBy front + droppedBy back := List.countP_append

namespace DecoderLife

private theorem createdBy_calls (life : DecoderLife) :
    createdBy life.calls = droppedBy life.calls := by
  cases life with
  | refused format => rfl
  | misfit format => rfl
  | served format frames =>
      simp only [calls, servedCalls, createdBy_append, droppedBy_append, createdBy_decodes,
        droppedBy_decodes]
      rfl

private theorem createdBy_calls_le (life : DecoderLife) : createdBy life.calls ≤ 1 := by
  cases life with
  | refused format => exact Nat.zero_le 1
  | misfit format => exact Nat.le_refl 1
  | served format frames =>
      simp only [calls, servedCalls, createdBy_append, createdBy_decodes]
      exact Nat.le_refl 1

/-- A life begins with its only request for a decoder. -/
theorem calls_eq_cons (life : DecoderLife) :
    ∃ first rest, life.calls = first :: rest ∧ ∀ call ∈ rest, call.isAttempt = false := by
  cases life with
  | refused format => exact ⟨_, [], rfl, by simp⟩
  | misfit format => exact ⟨_, _, rfl, by simp [EngineEvent.isAttempt]⟩
  | served format frames =>
      refine ⟨.create format, .configure format :: .register ::
        (frames.map EngineEvent.decode ++ [.destroy format]), rfl, ?_⟩
      intro call member
      simp only [List.mem_cons, List.mem_append, List.mem_map, List.not_mem_nil,
        or_false] at member
      rcases member with rfl | rfl | ⟨frame, _, rfl⟩ | rfl <;> rfl

private theorem createdBy_lives (lives : List DecoderLife) :
    createdBy (lives.flatMap calls) = droppedBy (lives.flatMap calls) := by
  induction lives with
  | nil => rfl
  | cons life rest ih =>
      rw [List.flatMap_cons, createdBy_append, droppedBy_append, ih, createdBy_calls]

theorem createdBy_le_of_append {lives : List DecoderLife} {earlier later : List EngineEvent}
    (split : lives.flatMap calls = earlier ++ later) :
    createdBy earlier ≤ droppedBy earlier + 1 := by
  induction lives generalizing earlier with
  | nil =>
      have nothing : earlier = [] := (List.append_eq_nil_iff.mp split.symm).1
      rw [nothing]
      exact Nat.zero_le _
  | cons life rest ih =>
      rw [List.flatMap_cons] at split
      rcases List.append_eq_append_iff.mp split with ⟨middle, beyond, remaining⟩ | ⟨middle, within, _⟩
      · have bound := ih remaining
        have balanced := createdBy_calls life
        rw [beyond, createdBy_append, droppedBy_append]
        omega
      · have bound := createdBy_calls_le life
        rw [within, createdBy_append] at bound
        omega

/-- Whenever a decoder is asked for, all those created before have been dropped. -/
private theorem createdBy_eq_at_attempts (lives : List DecoderLife) :
    History.Always (fun earlier call => call.isAttempt = true →
      createdBy earlier = droppedBy earlier) (lives.flatMap calls) := by
  induction lives using List.reverseRecOn with
  | nil => exact History.always_nil _
  | append_singleton lives life ih =>
      rw [List.flatMap_append, List.flatMap_singleton]
      refine History.always_append ih ?_
      obtain ⟨first, rest, begins, others⟩ := calls_eq_cons life
      rw [begins]
      intro earlier call later split isAttempt
      cases earlier with
      | nil =>
          rw [List.append_nil]
          exact createdBy_lives lives
      | cons head tail =>
          obtain ⟨_, inRest⟩ := List.cons.inj split
          have member : call ∈ rest := by rw [inRest]; simp
          rw [others call member] at isAttempt
          contradiction

end DecoderLife

/-- However the engine behaves and whatever the slot is asked for: once its decoder is dropped, the
engine has seen whole lives, which took the course that the script holds for them. So there never is
more than one decoder, none when another one is asked for, and none is left at the end. Frames go
to a decoder that was configured for its format and has its callback. -/
theorem DecoderSlot.calls_are_whole_lives (engine : Engine) (requests : List SlotRequest) :
    ∃ lives : List DecoderLife,
      Attempt.FollowScript engine (lives.map DecoderLife.attempt) ∧
      ((DecoderSlot.empty engine).run requests).destroy.1.engine.calls =
        engine.calls ++ lives.flatMap DecoderLife.calls ∧
      (∀ earlier later, lives.flatMap DecoderLife.calls = earlier ++ later →
        createdBy earlier ≤ droppedBy earlier + 1) ∧
      History.Always (fun earlier call => call.isAttempt = true →
        createdBy earlier = droppedBy earlier) (lives.flatMap DecoderLife.calls) ∧
      createdBy (lives.flatMap DecoderLife.calls) = droppedBy (lives.flatMap DecoderLife.calls) ∧
      ∀ live, ((DecoderSlot.empty engine).run requests).active = some live →
        live = .ready live.format := by
  obtain ⟨lives, service, seen⟩ := (hasSeen_empty engine).run requests
  refine ⟨lives ++ service.toList.map Service.life, ?_, ?_, ?_, ?_, ?_, ?_⟩
  · simpa using seen.destroy.made.follow
  · simpa using seen.destroy.calls
  · intro earlier later split
    exact DecoderLife.createdBy_le_of_append split
  · exact DecoderLife.createdBy_eq_at_attempts _
  · exact DecoderLife.createdBy_lives _
  · intro live isLive
    rw [seen.active] at isLive
    obtain ⟨current, _, rfl⟩ := Option.map_eq_some_iff.mp isLive
    rfl

end VideoIngest
