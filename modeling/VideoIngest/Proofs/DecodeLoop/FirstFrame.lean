import VideoIngest.Proofs.DecodeLoop.Tally

/-!
A format and the frame right behind it.

Where the engine creates the decoder that the format asks for, the frame is handed to that decoder.
It makes no difference whether another decoder was live before, or this one already.
-/

namespace VideoIngest

namespace DecoderSlot

/-- The engine creates a decoder for the format, unless one is live already. -/
def Provides (format : VideoFormat) (slot : DecoderSlot) : Prop :=
  slot.isDue format = true → Attempt.next slot.engine = .ready

def provisionCalls (format : VideoFormat) (slot : DecoderSlot) : List EngineEvent :=
  if slot.isDue format then slot.dropCalls ++ [.create format, .configure format, .register]
  else []

/-- Whether the next frame that is handed to a decoder becomes a picture. -/
def decodesNext (slot : DecoderSlot) : Bool := (Engine.resultAt slot.engine.decodeResults 0).isOk

variable {slot : DecoderSlot} {format : VideoFormat} {events : List IngestEvent}

theorem Provides.calls_applyFormat (provides : slot.Provides format) :
    (slot.applyFormat format).1.engine.calls = slot.engine.calls ++ slot.provisionCalls format := by
  rw [DecoderSlot.calls_applyFormat, provisionCalls]
  cases due : slot.isDue format with
  | false => rfl
  | true =>
      rw [provides due]
      rfl

theorem Provides.created_applyFormat (provides : slot.Provides format) :
    (slot.applyFormat format).1.created = slot.created + (slot.isDue format).toNat := by
  rw [DecoderSlot.created_applyFormat]
  cases due : slot.isDue format with
  | false => rfl
  | true => rw [if_pos ⟨rfl, provides due⟩, Bool.toNat_true]

theorem Provides.active_applyFormat (provides : slot.Provides format)
    (follows : slot.Follows events) (isActionable : format.isActionable = true) :
    (slot.applyFormat format).1.active = some (.ready format) := by
  rw [DecoderSlot.active_applyFormat]
  cases due : slot.isDue format with
  | true =>
      rw [if_pos rfl, provides due]
      rfl
  | false =>
      have live := activeFormat_of_not_due due isActionable
      rw [if_neg Bool.false_ne_true]
      rcases follows.active with absent | ⟨previous, _, active⟩
      · rw [activeFormat, absent] at live
        cases live
      · rw [activeFormat, active] at live
        rw [active]
        exact congrArg (fun format => some (LiveDecoder.ready format)) (Option.some.inj live)

end DecoderSlot

namespace DecodeLoop

variable {loop : DecodeLoop} {format : VideoFormat} {frame : CodedFrame}
  {events : List IngestEvent}

/-- A ready decoder gets the frame. The frame becomes a picture, or counts as one that failed. -/
private theorem onFrame_of_ready (active : loop.slot.active = some (.ready format))
    (hasData : frame.data.isEmpty = false) :
    (loop.onFrame frame).1.slot = (loop.slot.submit frame).1 ∧
      (loop.onFrame frame).1.undecoded = loop.undecoded ∧
      (loop.onFrame frame).1.decodeErrors =
        loop.decodeErrors + (!loop.slot.decodesNext).toNat ∧
      (loop.onFrame frame).2 =
        if loop.slot.decodesNext then some (frame.shownAs format) else none := by
  unfold DecoderSlot.decodesNext
  cases result : Engine.resultAt loop.slot.engine.decodeResults 0 with
  | ok done =>
      have decoded : (loop.slot.submit frame).2 = .ok (frame.shownAs format) :=
        (DecoderSlot.submit_eq_of_resultAt active result).1
      rw [onFrame_of_submit_ok hasData decoded]
      exact ⟨rfl, rfl, rfl, rfl⟩
  | error failure =>
      have failed := (DecoderSlot.submit_of_error frame active result).1
      rw [onFrame_of_submit_error hasData failed]
      exact ⟨rfl, rfl, rfl, rfl⟩

/-- What has become of a loop with a format and a frame behind it: a decoder for the format was
provided, and it got the frame. -/
structure HandsOver (format : VideoFormat) (frame : CodedFrame) (loop after : DecodeLoop)
    (pictures : List Picture) : Prop where
  calls : after.slot.engine.calls =
    loop.slot.engine.calls ++ loop.slot.provisionCalls format ++ [.decode frame]
  created : after.slot.created = loop.slot.created + (loop.slot.isDue format).toNat
  undecoded : after.undecoded = loop.undecoded
  decodeErrors : after.decodeErrors = loop.decodeErrors + (!loop.slot.decodesNext).toNat
  pictures : pictures = if loop.slot.decodesNext then [frame.shownAs format] else []

theorem handsOver_process (provides : loop.slot.Provides format)
    (follows : loop.slot.Follows events) (isActionable : format.isActionable = true)
    (hasData : frame.data.isEmpty = false) (id : String) :
    loop.HandsOver format frame (loop.process [.formatChange id format, .frame frame]).1
      (loop.process [.formatChange id format, .frame frame]).2 := by
  have slot := slot_onFormat id format loop
  have active : (loop.onFormat id format).slot.active = some (.ready format) := by
    rw [slot]
    exact provides.active_applyFormat follows isActionable
  have decodesNext : (loop.onFormat id format).slot.decodesNext = loop.slot.decodesNext := by
    unfold DecoderSlot.decodesNext
    rw [slot, DecoderSlot.decodeResults_applyFormat]
  obtain ⟨undecoded, decodeErrors⟩ := loop.counts_onFormat id format
  obtain ⟨slotThen, undecodedThen, decodeErrorsThen, pictureThen⟩ :=
    onFrame_of_ready active hasData
  refine ⟨?_, ?_, ?_, ?_, ?_⟩
  · change ((loop.onFormat id format).onFrame frame).1.slot.engine.calls = _
    rw [slotThen, DecoderSlot.calls_submit, active, Option.isSome_some, if_pos rfl, slot,
      provides.calls_applyFormat]
  · change ((loop.onFormat id format).onFrame frame).1.slot.created = _
    rw [slotThen, DecoderSlot.created_submit, slot, provides.created_applyFormat]
  · exact undecodedThen.trans undecoded
  · change ((loop.onFormat id format).onFrame frame).1.decodeErrors = _
    rw [decodeErrorsThen, decodeErrors, decodesNext]
  · change [] ++ (((loop.onFormat id format).onFrame frame).2.toList ++ []) = _
    rw [List.nil_append, List.append_nil, pictureThen, decodesNext]
    cases loop.slot.decodesNext <;> rfl

end DecodeLoop
end VideoIngest
