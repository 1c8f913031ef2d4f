import VideoIngest.Proofs.Decoder.LifeCycle

/-!
Failures of the engine, and what becomes of the decoder slot.

A decoder that cannot be created or configured leaves the slot vacant, and the next announcement of
its format tries anew. A frame that cannot be decoded leaves the decoder live. Each failure comes out
as one of creating or of decoding, and only a vacant slot says that there is no decoder.
-/

namespace VideoIngest

namespace IngestError

def isInit : IngestError → Bool
  | init _ _ => true
  | _ => false

def isDecode : IngestError → Bool
  | decode _ => true
  | _ => false

private theorem asInit_eq (codec : Codec) (failure : IngestError) :
    failure.asInit codec = if failure.isInit then failure else .init codec failure.message := by
  cases failure <;> rfl

private theorem asDecode_eq (failure : IngestError) :
    failure.asDecode = if failure.isDecode then failure else .decode failure.message := by
  cases failure <;> rfl

private theorem asDecode_ne_noDecoder (failure : IngestError) : failure.asDecode ≠ .noDecoder := by
  cases failure <;> exact nofun

end IngestError

namespace Engine

/-- The failure that the script holds for the next attempt to create a decoder, if it holds one: that
of the create call or, where this one succeeds, that of the configure call. -/
def creationFailure? (engine : Engine) : Option IngestError :=
  match resultAt engine.createResults 0, resultAt engine.configureResults 0 with
  | .error failure, _ => some failure
  | .ok (), .error failure => some failure
  | .ok (), .ok () => none

theorem creationFailure?_eq_none_iff (engine : Engine) :
    engine.creationFailure? = none ↔ Attempt.next engine = .ready := by
  unfold creationFailure? Attempt.next
  cases resultAt engine.createResults 0 with
  | error failure => exact iff_of_false nofun nofun
  | ok done =>
      cases resultAt engine.configureResults 0 with
      | error failure => exact iff_of_false nofun nofun
      | ok done => exact iff_of_true rfl rfl

end Engine

namespace DecoderSlot

/-! ### Announcements -/

def creationResult (format : VideoFormat) :
    Option IngestError → Except IngestError FormatOutcome
  | none => .ok .created
  | some failure => .error (failure.asInit format.codec)

private theorem creationFailure?_destroy (slot : DecoderSlot) :
    slot.destroy.1.engine.creationFailure? = slot.engine.creationFailure? := by
  unfold Engine.creationFailure?
  rw [(creationScript_destroy slot).1, (creationScript_destroy slot).2]

private theorem result_create (format : VideoFormat) (slot : DecoderSlot) :
    (slot.create format).2.map (fun _ => .created) =
      creationResult format slot.engine.creationFailure? := by
  obtain ⟨engine, active, created⟩ := slot
  unfold create Engine.create Engine.configure Engine.creationFailure?
  rw [Engine.nextResult_eq]
  cases Engine.resultAt engine.createResults 0 with
  | error failure => rfl
  | ok done =>
      dsimp only [Engine.log]
      rw [Engine.nextResult_eq]
      cases Engine.resultAt engine.configureResults 0 with
      | error failure => rfl
      | ok done => rfl

private theorem result_applyFormat_of_due {format : VideoFormat} {slot : DecoderSlot}
    (due : slot.isDue format = true) :
    (slot.applyFormat format).2 = creationResult format slot.engine.creationFailure? := by
  obtain ⟨actionable, differs⟩ := (isDue_iff format slot).mp due
  rw [← creationFailure?_destroy, ← result_create, applyFormat, actionable, Bool.not_true,
    if_neg Bool.false_ne_true, if_neg differs]
  cases slot.destroy.1.create format with
  | mk next outcome => cases outcome <;> rfl

private theorem applyFormat_of_not_due {format : VideoFormat} {slot : DecoderSlot}
    (idle : format.isActionable = false ∨ slot.activeFormat = some format) :
    slot.applyFormat format =
      (slot, .ok (if format.isActionable then .unchanged else .ignored)) := by
  unfold applyFormat
  cases actionable : format.isActionable with
  | false => rfl
  | true =>
      have same := idle.resolve_left (by simp [actionable])
      simp [same]

private theorem isDue_of_vacant {format : VideoFormat} {slot : DecoderSlot}
    (vacant : slot.active = none)
    (actionable : format.isActionable = true) : slot.isDue format = true := by
  rw [isDue_iff, activeFormat, vacant]
  exact ⟨actionable, (Option.some_ne_none format).symm⟩

private theorem run_of_vacant {slot : DecoderSlot} (vacant : slot.active = none)
    {requests : List SlotRequest}
    (quiet : ∀ format, .announce format ∈ requests → format.isActionable = false) :
    slot.run requests = slot := by
  induction requests with
  | nil => rfl
  | cons request rest ih =>
      have same : slot.perform request = slot := by
        cases request with
        | announce format =>
            have idle := quiet format List.mem_cons_self
            exact congrArg Prod.fst (applyFormat_of_not_due (.inl idle))
        | submit frame => exact congrArg Prod.fst (submit_of_vacant vacant frame)
        | destroy =>
            unfold perform destroy
            rw [vacant]
      rw [run, List.foldl_cons, same]
      exact ih fun format member => quiet format (List.mem_cons_of_mem _ member)

/-- What a failed attempt to create a decoder leaves behind. The decoder that was live is dropped
before the attempt, none is live afterwards, frames are refused without a call to the engine, and so
it goes on until the next format to act on, for which a decoder is tried anew. -/
structure FailsToCreate (format : VideoFormat) (failure : IngestError) (slot next : DecoderSlot)
    (result : Except IngestError FormatOutcome) : Prop where
  result : result =
    .error (if failure.isInit then failure else .init format.codec failure.message)
  failed : Attempt.next slot.engine ≠ .ready
  calls : next.engine.calls =
    slot.engine.calls ++ slot.dropCalls ++ (Attempt.next slot.engine).calls format
  vacant : next.active = none
  created : next.created = slot.created
  refuses : ∀ frame, next.submit frame = (next, .error .noDecoder)
  rests : ∀ requests : List SlotRequest,
    (∀ other, .announce other ∈ requests → other.isActionable = false) → next.run requests = next
  retries : (next.applyFormat format).1.engine.calls =
      next.engine.calls ++ (Attempt.next next.engine).calls format ∧
    (next.applyFormat format).2 = creationResult format next.engine.creationFailure?

theorem failsToCreate {format : VideoFormat} {slot : DecoderSlot} {failure : IngestError}
    (due : slot.isDue format = true) (fails : slot.engine.creationFailure? = some failure) :
    FailsToCreate format failure slot (slot.applyFormat format).1 (slot.applyFormat format).2 := by
  have failed : Attempt.next slot.engine ≠ .ready := by
    rw [Ne, ← Engine.creationFailure?_eq_none_iff, fails]
    exact nofun
  have vacant : (slot.applyFormat format).1.active = none := by
    rw [active_applyFormat, if_pos due]
    cases ended : Attempt.next slot.engine with
    | refused => rfl
    | misfit => rfl
    | ready => exact absurd ended failed
  have dueAgain := isDue_of_vacant vacant ((isDue_iff format slot).mp due).1
  refine ⟨?_, failed, ?_, vacant, ?_, submit_of_vacant vacant, fun _ => run_of_vacant vacant, ?_,
    result_applyFormat_of_due dueAgain⟩
  · rw [result_applyFormat_of_due due, fails, creationResult, IngestError.asInit_eq]
  · rw [calls_applyFormat, if_pos due, List.append_assoc]
  · rw [created_applyFormat, if_neg fun both => failed both.2, Nat.add_zero]
  · rw [calls_applyFormat, if_pos dueAgain, dropCalls, activeFormat, vacant]
    rfl

/-! ### Frames -/

private theorem result_submit_of_live {slot : DecoderSlot} {live : LiveDecoder}
    (isLive : slot.active = some live) (frame : CodedFrame) :
    (slot.submit frame).2 = (slot.engine.decode frame live).2.mapError IngestError.asDecode := by
  unfold submit
  rw [isLive]
  dsimp only
  cases slot.engine.decode frame live with
  | mk engine outcome => cases outcome <;> rfl

theorem submit_eq_noDecoder_iff (frame : CodedFrame) (slot : DecoderSlot) :
    (slot.submit frame).2 = .error .noDecoder ↔ slot.active = none := by
  constructor
  · intro refused
    cases isLive : slot.active with
    | none => rfl
    | some live =>
        rw [result_submit_of_live isLive] at refused
        cases decoded : (slot.engine.decode frame live).2 with
        | ok picture =>
            rw [decoded] at refused
            cases refused
        | error failure =>
            rw [decoded] at refused
            exact absurd (Except.error.inj refused) failure.asDecode_ne_noDecoder
  · intro vacant
    rw [submit_of_vacant vacant]

/-- In whatever state a slot is and however its engine fails. A failure to create or to configure a
decoder comes out as one of creating it and leaves the slot vacant. A frame meets no decoder just
where none is live, and any failure to decode it comes out as one of decoding and leaves the decoder
live. A format that is not actionable, or that the live decoder has, changes nothing. -/
theorem failures_are_contained (slot : DecoderSlot) (format : VideoFormat) (frame : CodedFrame) :
    (∀ failure, format.isActionable = true → slot.activeFormat ≠ some format →
        slot.engine.creationFailure? = some failure →
          FailsToCreate format failure slot (slot.applyFormat format).1
            (slot.applyFormat format).2) ∧
      ((slot.submit frame).2 = .error .noDecoder ↔ slot.active = none) ∧
      (∀ live failure, slot.active = some live →
        (slot.engine.decode frame live).2 = .error failure →
          (slot.submit frame).2 =
              .error (if failure.isDecode then failure else .decode failure.message) ∧
            (slot.submit frame).1.active = some live ∧
            (slot.submit frame).1.created = slot.created ∧
            (slot.submit frame).1.engine.calls = slot.engine.calls ++ [.decode frame]) ∧
      (format.isActionable = false ∨ slot.activeFormat = some format →
        slot.applyFormat format =
          (slot, .ok (if format.isActionable then .unchanged else .ignored))) := by
  refine ⟨?_, submit_eq_noDecoder_iff frame slot, ?_, applyFormat_of_not_due⟩
  · intro failure actionable differs fails
    exact failsToCreate ((isDue_iff format slot).mpr ⟨actionable, differs⟩) fails
  · intro live failure isLive fails
    refine ⟨?_, (active_submit frame slot).trans isLive, created_submit frame slot, ?_⟩
    · rw [result_submit_of_live isLive, fails, ← IngestError.asDecode_eq]
      rfl
    · rw [calls_submit, isLive]
      rfl

/-- A slot with a small live decoder, on an engine that is busy: neither a decoder nor a picture can
be had from it. -/
def busySlot : DecoderSlot where
  engine := ⟨true, [.error (.io "busy")], [], [.error .noDecoder], #[]⟩
  active := some (.ready ⟨.h264, 1280, 720⟩)
  created := 1

theorem busy_slot_contains_failures :
    (VideoFormat.isActionable ⟨.h264, 1920, 1080⟩ = true ∧
        busySlot.activeFormat ≠ some ⟨.h264, 1920, 1080⟩ ∧
        busySlot.engine.creationFailure? = some (.io "busy")) ∧
      (busySlot.applyFormat ⟨.h264, 1920, 1080⟩).2 =
        .error (.init .h264 "I/O error: busy") ∧
      (busySlot.applyFormat ⟨.h264, 1920, 1080⟩).1.active = none ∧
      (busySlot.submit ⟨[1], 0, .key⟩).2 = .error (.decode "no decoder") := by
  have actionable : VideoFormat.isActionable ⟨.h264, 1920, 1080⟩ = true := by decide
  have differs : busySlot.activeFormat ≠ some ⟨.h264, 1920, 1080⟩ := by decide
  have fails : busySlot.engine.creationFailure? = some (.io "busy") := rfl
  have undecoded : (busySlot.engine.decode ⟨[1], 0, .key⟩ (.ready ⟨.h264, 1280, 720⟩)).2 =
      .error .noDecoder := rfl
  obtain ⟨creation, _, decoding, _⟩ :=
    failures_are_contained busySlot ⟨.h264, 1920, 1080⟩ ⟨[1], 0, .key⟩
  have failed := creation _ actionable differs fails
  exact ⟨⟨actionable, differs, fails⟩, failed.result, failed.vacant,
    (decoding _ _ rfl undecoded).1⟩

end DecoderSlot
end VideoIngest
