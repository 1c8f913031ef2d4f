import VideoIngest.Proofs.Decoder.LifeCycle
import VideoIngest.Proofs.Pipeline.SharedDecoder

/-!
In what order of time a decoder sees the frames that it is handed.

Each session has its own newest timestamp, and the decoder is shared. So frames of one session come
in the order of their timestamps where regressions are dropped; frames of several sessions need not.
-/

namespace VideoIngest

/-! ### What decoders are handed -/

/-- A frame that the engine is handed, and which of its decoders that is for. The first one that was
created is number 1. -/
def EngineEvent.handed? (earlier : List EngineEvent) : EngineEvent → Option (Nat × CodedFrame)
  | decode frame => some (createdBy earlier, frame)
  | _ => none

def handedFrames (calls : List EngineEvent) : List (Nat × CodedFrame) :=
  History.collect EngineEvent.handed? calls

def timestampsAt (decoder : Nat) (calls : List EngineEvent) : List Nat :=
  ((handedFrames calls).filter fun handed => handed.1 = decoder).map fun handed =>
    handed.2.timestamp

/-- The frame, if the decode loop finds a live decoder for it behind the events before. -/
def IngestEvent.handed? (start : DecodeLoop) (earlier : List IngestEvent) :
    IngestEvent → Option (Nat × CodedFrame)
  | frame coded =>
      let slot := (start.process earlier).1.slot
      if coded.data.isEmpty || slot.active.isNone then none
      else some (createdBy slot.engine.calls, coded)
  | formatChange _ _ => none
  | stop => none

private theorem onlyDecodes_handed? : OnlyDecodes EngineEvent.handed? := by
  intro earlier call other
  cases call with
  | decode frame => exact absurd rfl (other frame)
  | _ => rfl

theorem handedFrames_process {start : DecodeLoop} (unused : start.slot.engine.calls = [])
    {events : List IngestEvent} (running : .stop ∉ events) :
    handedFrames (start.process events).1.slot.engine.calls =
      History.collect (IngestEvent.handed? start) events := by
  unfold handedFrames
  induction events using List.reverseRecOn with
  | nil =>
      change History.collect _ start.slot.engine.calls = _
      rw [unused]
      rfl
  | append_singleton events event ih =>
      rw [List.mem_append, List.mem_singleton, not_or] at running
      rw [DecodeLoop.process_append_singleton, History.collect_append_singleton, ← ih running.1]
      cases event with
      | formatChange session format =>
          change History.collect _ (DecodeLoop.onFormat _ _ _).slot.engine.calls = _
          rw [DecodeLoop.slot_onFormat, DecoderSlot.collect_applyFormat onlyDecodes_handed?]
          exact (List.append_nil _).symm
      | frame coded =>
          change History.collect _ (DecodeLoop.onFrame _ _).1.slot.engine.calls = _
          rw [DecodeLoop.slot_onFrame, IngestEvent.handed?]
          cases coded.data.isEmpty with
          | true => exact (List.append_nil _).symm
          | false =>
              rw [if_neg Bool.false_ne_true, DecoderSlot.calls_submit, Bool.false_or]
              cases (start.process events).1.slot.active with
              | none =>
                  dsimp only [Option.isSome_none, Option.isNone_none]
                  rw [if_neg Bool.false_ne_true, List.append_nil]
                  exact (List.append_nil _).symm
              | some live => exact History.collect_append_singleton _ _ _
      | stop => exact absurd rfl running.2

/-! ### Which sessions the events come from -/

def Emission.sent? (drops : Bool) (earlier : List Emission) (emission : Emission) :
    Option (Emission × IngestEvent) :=
  (emission.event? drops earlier).map fun event => (emission, event)

def sentWith (drops : Bool) (emissions : List Emission) : List (Emission × IngestEvent) :=
  History.collect (Emission.sent? drops) emissions

private theorem map_snd_sentWith (drops : Bool) (emissions : List Emission) :
    (sentWith drops emissions).map Prod.snd = sentFor drops emissions := by
  unfold sentWith sentFor
  rw [History.map_collect]
  congr 1
  funext earlier emission
  rw [Emission.sent?, Option.map_map]
  exact Option.map_id'

/-- If both are frames of one session, the second one is not the earlier of them. -/
def InTurn (first second : Emission × IngestEvent) : Prop :=
  first.1.handle = second.1.handle → ∀ front back, first.2 = .frame front →
    second.2 = .frame back → front.timestamp ≤ back.timestamp

private theorem Emission.item_of_event? {drops : Bool} {earlier : List Emission}
    {emission : Emission}
    {coded : CodedFrame} (sent : emission.event? drops earlier = some (.frame coded)) :
    emission.item = .frame coded ∧
      MediaItem.isRegressed drops (itemsOf emission.handle earlier) coded = false := by
  unfold event? at sent
  cases item : emission.item with
  | format announced =>
      rw [item] at sent
      cases sent
  | picture picture =>
      rw [item] at sent
      cases sent
  | frame other =>
      rw [item, MediaItem.event?] at sent
      split at sent
      · cases sent
      · rename_i inOrder
        obtain rfl := IngestEvent.frame.inj (Option.some.inj sent)
        exact ⟨rfl, Bool.eq_false_iff.mpr inOrder⟩

private theorem timestamp_le_of_isRegressed {items : List MediaItem} {front back : CodedFrame}
    (inOrder : MediaItem.isRegressed true items back = false) (member : .frame front ∈ items) :
    front.timestamp ≤ back.timestamp := by
  have noneLater := List.any_eq_false.mp inOrder (.frame front) member
  have notLater : ¬back.timestamp < front.timestamp := fun later =>
    noneLater (decide_eq_true later)
  omega

private theorem pairwise_sentWith (emissions : List Emission) :
    (sentWith true emissions).Pairwise InTurn := by
  unfold sentWith
  induction emissions using List.reverseRecOn with
  | nil => exact List.Pairwise.nil
  | append_singleton emissions emission ih =>
      rw [History.collect_append_singleton, List.pairwise_append]
      refine ⟨ih, ?_, ?_⟩
      · cases Emission.sent? true emissions emission with
        | none => exact List.Pairwise.nil
        | some sent => exact List.pairwise_singleton _ _
      · rintro ⟨first, _⟩ member ⟨second, _⟩ isLast same front back rfl rfl
        obtain ⟨earlier, _, inFront, firstSent⟩ := History.exists_of_mem_collect member
        obtain ⟨_, firstEvent, isFirst⟩ := Option.map_eq_some_iff.mp firstSent
        obtain ⟨_, secondEvent, isSecond⟩ := Option.map_eq_some_iff.mp (Option.mem_toList.mp isLast)
        obtain ⟨rfl, rfl⟩ := Prod.mk.inj isFirst
        obtain ⟨rfl, rfl⟩ := Prod.mk.inj isSecond
        apply timestamp_le_of_isRegressed (Emission.item_of_event? secondEvent).2
        rw [← (Emission.item_of_event? firstEvent).1]
        apply List.mem_map_of_mem
        exact List.mem_filter.mpr ⟨inFront, decide_eq_true same⟩

/-! ### Which sessions a decoder is handed frames of -/

structure Handover where
  handle : Nat
  decoder : Nat
  frame : CodedFrame
  deriving DecidableEq

def handover? (start : DecodeLoop) (earlier : List (Emission × IngestEvent))
    (sent : Emission × IngestEvent) : Option Handover :=
  (sent.2.handed? start (earlier.map Prod.snd)).map fun handed =>
    ⟨sent.1.handle, handed.1, handed.2⟩

def handovers (start : DecodeLoop) (sent : List (Emission × IngestEvent)) : List Handover :=
  History.collect (handover? start) sent

private theorem map_handovers (start : DecodeLoop) (sent : List (Emission × IngestEvent)) :
    (handovers start sent).map (fun handover => (handover.decoder, handover.frame)) =
      History.collect (IngestEvent.handed? start) (sent.map Prod.snd) := by
  unfold handovers
  rw [History.map_collect, History.collect_map]
  congr 1
  funext earlier entry
  rw [handover?, Option.map_map]
  exact Option.map_id'

private theorem event_of_handed? {start : DecodeLoop} {earlier : List IngestEvent}
    {event : IngestEvent} {decoder : Nat} {coded : CodedFrame}
    (handed : event.handed? start earlier = some (decoder, coded)) : event = .frame coded := by
  cases event with
  | formatChange session format => cases handed
  | stop => cases handed
  | frame other =>
      obtain ⟨_, same⟩ := Option.ite_none_left_eq_some.mp handed
      rw [(Prod.mk.inj (Option.some.inj same)).2]

private theorem pairwise_handovers {sent : List (Emission × IngestEvent)}
    (inTurn : sent.Pairwise InTurn) (start : DecodeLoop) :
    (handovers start sent).Pairwise fun first second =>
      first.handle = second.handle → first.frame.timestamp ≤ second.frame.timestamp := by
  apply History.pairwise_collect inTurn
  intro first second earlier later found other inTurn foundAt otherAt same
  obtain ⟨⟨_, front⟩, firstHanded, rfl⟩ := Option.map_eq_some_iff.mp foundAt
  obtain ⟨⟨_, back⟩, secondHanded, rfl⟩ := Option.map_eq_some_iff.mp otherAt
  exact inTurn same front back (event_of_handed? firstHanded) (event_of_handed? secondHanded)

/-! ### Runs -/

namespace PipelineRun

/-- The events that the decode loop has worked on by the end of a run, each with the item that it was
sent for. -/
def workedOn (run : PipelineRun) : List (Emission × IngestEvent) :=
  (sentWith run.drops run.emissions).take
    ((sentWith run.drops run.emissions).length - run.last.loop.queue.pending.length)

def handovers (run : PipelineRun) : List Handover :=
  VideoIngest.handovers (.start run.engine.unused .empty) run.workedOn

private theorem map_snd_workedOn {run : PipelineRun} {course : Pipeline.Course}
    (tracks : Pipeline.Tracks course run.last) (takes : run.Takes course) :
    run.workedOn.map Prod.snd = course.done := by
  have sent : (sentWith run.drops run.emissions).map Prod.snd =
      course.done ++ run.last.loop.queue.pending := by
    rw [map_snd_sentWith, tracks.sent, Pipeline.Course.sent, takes.drops, takes.emissions]
  have length := congrArg List.length sent
  rw [List.length_map, List.length_append] at length
  unfold workedOn
  rw [List.map_take, sent, length, Nat.add_sub_cancel]
  exact List.take_left

private theorem map_handovers (run : PipelineRun) :
    run.handovers.map (fun handover => (handover.decoder, handover.frame)) =
      handedFrames run.last.engine.calls := by
  obtain ⟨course, tracks, takes⟩ := run.exists_course
  have sameCalls : handedFrames run.last.engine.calls =
      handedFrames course.worked.1.slot.engine.calls := by
    rw [Pipeline.engine, tracks.works.slot]
    cases course.isOver with
    | false => rfl
    | true => exact DecoderSlot.collect_destroy onlyDecodes_handed? _
  unfold handovers
  rw [VideoIngest.map_handovers, map_snd_workedOn tracks takes, sameCalls, Pipeline.Course.worked,
    takes.engine]
  exact (handedFrames_process rfl tracks.stop_not_mem_done).symm

private theorem pairwise_handovers (run : PipelineRun) (drops : run.drops = true) :
    run.handovers.Pairwise fun first second =>
      first.handle = second.handle → first.frame.timestamp ≤ second.frame.timestamp := by
  have inTurn := pairwise_sentWith run.emissions
  rw [← drops] at inTurn
  exact VideoIngest.pairwise_handovers (inTurn.sublist (List.take_sublist _ _)) _

/-- Where regressions are dropped: each frame that the engine is handed comes from one session, and
the frames of a session are handed over in the order of their timestamps, to whichever decoder. So
the timestamps never decrease at a decoder that is handed the frames of one session only. -/
theorem session_never_regresses (run : PipelineRun) (drops : run.drops = true) :
    run.handovers.map (fun handover => (handover.decoder, handover.frame)) =
        handedFrames run.last.engine.calls ∧
      (run.handovers.Pairwise fun first second =>
        first.handle = second.handle → first.frame.timestamp ≤ second.frame.timestamp) ∧
      ∀ decoder handle,
        (∀ handover ∈ run.handovers, handover.decoder = decoder → handover.handle = handle) →
          (timestampsAt decoder run.last.engine.calls).Pairwise (· ≤ ·) := by
  have inTurn := run.pairwise_handovers drops
  refine ⟨run.map_handovers, inTurn, ?_⟩
  intro decoder handle single
  unfold timestampsAt
  rw [← run.map_handovers, List.filter_map, List.map_map, List.pairwise_map]
  refine (inTurn.filter _).imp_of_mem ?_
  intro first second inFirst inSecond ordered
  obtain ⟨firstMember, firstAt⟩ := List.mem_filter.mp inFirst
  obtain ⟨secondMember, secondAt⟩ := List.mem_filter.mp inSecond
  apply ordered
  rw [single first firstMember (of_decide_eq_true firstAt),
    single second secondMember (of_decide_eq_true secondAt)]

def strictEngine : Engine := { Engine.passthrough with toleratesRegression := false }

/-- Two sessions at one decoder. The second frame of the hall is the only one that comes behind a
later one of its own session. -/
def doorAheadOfHall : PipelineRun where
  config := .standard
  inlineDecoder := .jpeg
  engine := strictEngine
  audience := .empty
  turns :=
    [.request (.openSession "door" "video" "VP9" ""),
      .request (.openSession "hall" "video" "VP9" ""),
      .request (.push "door" [0x82] 100),
      .request (.push "hall" [0x82] 50),
      .request (.push "hall" [0x86] 40),
      .request (.push "hall" [0x86] 60),
      .work 9]

theorem hall_never_regresses :
    doorAheadOfHall.drops = true ∧
      doorAheadOfHall.handovers.map (fun handover =>
        (handover.handle, handover.decoder, handover.frame.timestamp)) =
          [(0, 1, 100), (1, 1, 50), (1, 1, 60)] ∧
      doorAheadOfHall.handovers.Pairwise fun first second =>
        first.handle = second.handle → first.frame.timestamp ≤ second.frame.timestamp := by
  have drops : doorAheadOfHall.drops = true := by decide
  exact ⟨drops, by decide +kernel, (session_never_regresses doorAheadOfHall drops).2.1⟩

/-- One session after another under the same identifier, with the decoder of the first one. -/
def doorOpenedAgain : PipelineRun where
  config := .standard
  inlineDecoder := .jpeg
  engine := strictEngine
  audience := .empty
  turns :=
    [.request (.openSession "door" "video" "VP9" ""),
      .request (.push "door" [0x82] 100),
      .request (.openSession "door" "video" "VP9" ""),
      .request (.push "door" [0x82] 50),
      .work 9]

/-- A decoder may see a regression between two sessions, under different identifiers or under
one. -/
theorem decoder_sees_regression :
    timestampsAt 1 doorAheadOfHall.last.engine.calls = [100, 50, 60] ∧
      timestampsAt 1 doorOpenedAgain.last.engine.calls = [100, 50] ∧
      ¬∀ run : PipelineRun, run.drops = true → ∀ decoder,
        (timestampsAt decoder run.last.engine.calls).Pairwise (· ≤ ·) := by
  have two : timestampsAt 1 doorAheadOfHall.last.engine.calls = [100, 50, 60] := by decide +kernel
  have one : timestampsAt 1 doorOpenedAgain.last.engine.calls = [100, 50] := by decide +kernel
  refine ⟨two, one, ?_⟩
  intro never
  have increasing := never doorOpenedAgain (by decide) 1
  rw [one] at increasing
  exact absurd increasing (by decide)

end PipelineRun
end VideoIngest
