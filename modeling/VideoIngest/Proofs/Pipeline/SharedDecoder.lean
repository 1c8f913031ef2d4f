import VideoIngest.Proofs.Pipeline.Run

/-!
Which decoder the frames of a session meet.

All sessions share one decoder, and a frame does not say which session it comes from. It meets the
decoder of the format that was announced last, by whatever session.
-/

namespace VideoIngest

/-- A frame that was handed to the engine, and the format of the decoder that was live then. -/
structure Decoding where
  frame : CodedFrame
  decoder : Option VideoFormat
  deriving DecidableEq

def EngineEvent.decoding? (earlier : List EngineEvent) : EngineEvent → Option Decoding
  | decode frame => some ⟨frame, liveIn earlier⟩
  | _ => none

def decodings (calls : List EngineEvent) : List Decoding :=
  History.collect EngineEvent.decoding? calls

/-! ### Which decoder is due -/

/-- The last format that could be acted on, whichever session announced it. -/
def sharedFormat (earlier : List Emission) (_ : Nat) : Option VideoFormat :=
  History.latest? (fun emission => emission.item.actionable?) earlier

/-- The last format that could be acted on of those that this session announced. -/
def ownFormat (earlier : List Emission) (handle : Nat) : Option VideoFormat :=
  History.latest? MediaItem.actionable? (itemsOf handle earlier)

/-- The session that was the last to announce a format that could be acted on. -/
def lastAnnouncer (earlier : List Emission) : Option Nat :=
  History.latest? (fun emission => emission.item.actionable?.map fun _ => emission.handle) earlier

def Emission.isFrame (emission : Emission) : Bool :=
  match emission.item with
  | .format _ => false
  | .frame _ => true
  | .picture _ => false

def Emission.due? (formatFor : List Emission → Nat → Option VideoFormat)
    (earlier : List Emission) (emission : Emission) : Option Decoding :=
  match emission.item with
  | .frame coded => (formatFor earlier emission.handle).map fun format => ⟨coded, some format⟩
  | .format _ => none
  | .picture _ => none

/-- Every frame with the decoder that the rule assigns to it. Where it assigns none, the frame is
not to be decoded. -/
def dueOf (formatFor : List Emission → Nat → Option VideoFormat) (emissions : List Emission) :
    List Decoding :=
  History.collect (Emission.due? formatFor) emissions

/-- No frame comes behind a format that another session announced after its own. -/
def Undisturbed (emissions : List Emission) : Prop :=
  History.Always (fun earlier emission => emission.isFrame →
    ∀ announcer ∈ lastAnnouncer earlier, announcer = emission.handle) emissions

instance (emissions : List Emission) : Decidable (Undisturbed emissions) :=
  inferInstanceAs (Decidable (History.Always _ emissions))

theorem ownFormat_eq_sharedFormat {earlier : List Emission} {handle : Nat}
    (own : ∀ announcer ∈ lastAnnouncer earlier, announcer = handle) :
    ownFormat earlier handle = sharedFormat earlier handle := by
  unfold ownFormat sharedFormat
  unfold lastAnnouncer at own
  -- From the last emission back, as far as the last format: it is of this session.
  induction earlier using List.reverseRecOn with
  | nil => rfl
  | append_singleton earlier emission ih =>
      rw [History.latest?_append_singleton] at own
      rw [itemsOf_append_singleton, History.latest?_append_singleton]
      cases announced : emission.item.actionable? with
      | none =>
          rw [announced] at own
          rw [Option.none_or, ← ih own]
          by_cases same : emission.handle = handle
          · rw [if_pos same, History.latest?_append_singleton, announced, Option.none_or]
          · rw [if_neg same, List.append_nil]
      | some format =>
          rw [announced] at own
          have same : emission.handle = handle := own _ rfl
          rw [if_pos same, History.latest?_append_singleton, announced]
          rfl

theorem due?_eq_of_own {earlier : List Emission} {emission : Emission}
    (own : ∀ announcer ∈ lastAnnouncer earlier, announcer = emission.handle) :
    emission.due? sharedFormat earlier = emission.due? ownFormat earlier := by
  unfold Emission.due?
  rw [ownFormat_eq_sharedFormat own]

theorem dueOf_congr {emissions : List Emission} (undisturbed : Undisturbed emissions) :
    dueOf sharedFormat emissions = dueOf ownFormat emissions := by
  apply History.collect_congr
  intro earlier emission later split
  have own := undisturbed earlier emission later split
  cases item : emission.item with
  | frame coded =>
      have isFrame : emission.isFrame := by
        unfold Emission.isFrame
        rw [item]
      exact due?_eq_of_own (own isFrame)
  | format announced =>
      unfold Emission.due?
      rw [item]
  | picture picture =>
      unfold Emission.due?
      rw [item]

/-! ### The decode loop -/

def IngestEvent.due? (earlier : List IngestEvent) : IngestEvent → Option Decoding
  | formatChange _ _ => none
  | frame coded => (lastActionable earlier).map fun format => ⟨coded, some format⟩
  | stop => none

/-- Of all calls to the engine, only those that hand over a frame come to something. -/
def OnlyDecodes {α : Type} (value : List EngineEvent → EngineEvent → Option α) : Prop :=
  ∀ earlier call, (∀ frame, call ≠ .decode frame) → value earlier call = none

private theorem onlyDecodes_decoding? : OnlyDecodes EngineEvent.decoding? := by
  intro earlier call other
  cases call with
  | decode frame => exact absurd rfl (other frame)
  | _ => rfl

namespace DecoderSlot

private theorem no_decode_of_mem_dropCalls {slot : DecoderSlot} {call : EngineEvent}
    (member : call ∈ slot.dropCalls) (frame : CodedFrame) : call ≠ .decode frame := by
  unfold dropCalls at member
  obtain ⟨format, _, rfl⟩ := Option.map_eq_some_iff.mp (Option.mem_toList.mp member)
  exact EngineEvent.noConfusion

private theorem no_decode_of_mem_attempt {attempt : Attempt} {format : VideoFormat}
    {call : EngineEvent}
    (member : call ∈ attempt.calls format) (frame : CodedFrame) : call ≠ .decode frame := by
  cases attempt with
  | refused =>
      obtain rfl := List.mem_singleton.mp member
      exact EngineEvent.noConfusion
  | misfit =>
      simp only [Attempt.calls, List.mem_cons, List.not_mem_nil, or_false] at member
      rcases member with rfl | rfl | rfl <;> exact EngineEvent.noConfusion
  | ready =>
      simp only [Attempt.calls, List.mem_cons, List.not_mem_nil, or_false] at member
      rcases member with rfl | rfl | rfl <;> exact EngineEvent.noConfusion

variable {α : Type} {value : List EngineEvent → EngineEvent → Option α}

theorem collect_destroy (onlyDecodes : OnlyDecodes value) (slot : DecoderSlot) :
    History.collect value slot.destroy.1.engine.calls =
      History.collect value slot.engine.calls := by
  rw [calls_destroy]
  apply History.collect_append_of_none
  exact fun call member earlier => onlyDecodes earlier call (no_decode_of_mem_dropCalls member)

theorem collect_applyFormat (onlyDecodes : OnlyDecodes value) (format : VideoFormat)
    (slot : DecoderSlot) :
    History.collect value (slot.applyFormat format).1.engine.calls =
      History.collect value slot.engine.calls := by
  rw [calls_applyFormat]
  apply History.collect_append_of_none
  intro call member earlier
  apply onlyDecodes
  split at member
  · rcases List.mem_append.mp member with dropped | attempted
    · exact no_decode_of_mem_dropCalls dropped
    · exact no_decode_of_mem_attempt attempted
  · cases member

/-- The slot has handed over frames of these events only, each to the decoder that was due. -/
structure DecodesDue (events : List IngestEvent) (slot : DecoderSlot) : Prop where
  follows : slot.Follows events
  due : (decodings slot.engine.calls).Sublist (History.collect IngestEvent.due? events)

variable {events : List IngestEvent} {slot : DecoderSlot}

theorem DecodesDue.formatChange (session : String) (format : VideoFormat)
    (decodes : DecodesDue events slot) :
    DecodesDue (events ++ [.formatChange session format]) (slot.applyFormat format).1 := by
  refine ⟨decodes.follows.formatChange session format, ?_⟩
  have sameCalls : decodings (slot.applyFormat format).1.engine.calls =
      decodings slot.engine.calls := collect_applyFormat onlyDecodes_decoding? format slot
  rw [sameCalls, History.collect_append_singleton]
  exact decodes.due.trans (List.sublist_append_left _ _)

theorem DecodesDue.skip (frame : CodedFrame) (decodes : DecodesDue events slot) :
    DecodesDue (events ++ [.frame frame]) slot := by
  refine ⟨decodes.follows.skip frame, ?_⟩
  rw [History.collect_append_singleton]
  exact decodes.due.trans (List.sublist_append_left _ _)

theorem DecodesDue.frame (frame : CodedFrame) (decodes : DecodesDue events slot) :
    DecodesDue (events ++ [.frame frame]) (slot.submit frame).1 := by
  refine ⟨decodes.follows.frame frame, ?_⟩
  rw [calls_submit]
  rcases decodes.follows.active with absent | ⟨format, last, live⟩
  · rw [absent]
    change (decodings (slot.engine.calls ++ [])).Sublist _
    rw [List.append_nil]
    exact (decodes.skip frame).due
  · have liveFormat : liveIn slot.engine.calls = some format := by
      rw [decodes.follows.live, activeFormat, live]
      rfl
    have handed : decodings (slot.engine.calls ++ [.decode frame]) =
        decodings slot.engine.calls ++ [⟨frame, some format⟩] := by
      unfold decodings
      rw [History.collect_append_singleton, EngineEvent.decoding?, liveFormat]
      rfl
    have due : IngestEvent.due? events (.frame frame) = some ⟨frame, some format⟩ := by
      rw [IngestEvent.due?, last]
      rfl
    rw [live, Option.isSome_some, if_pos rfl, handed, History.collect_append_singleton, due]
    exact decodes.due.append (List.Sublist.refl _)

end DecoderSlot

/-! ### The pipeline -/

/-- Whatever came before, the events that are sent for further items hold the formats of these. -/
theorem lastActionable_collect (drops : Bool) (earlier further : List Emission) :
    lastActionable
        (History.collect (fun before => Emission.event? drops (earlier ++ before)) further) =
      History.latest? (fun emission => emission.item.actionable?) further := by
  induction further using List.reverseRecOn with
  | nil => rfl
  | append_singleton further emission ih =>
      rw [History.collect_append_singleton, History.latest?_append_singleton, ← ih]
      unfold Emission.event?
      cases emission.item with
      | format announced =>
          rw [MediaItem.event?, Option.toList_some, lastActionable_formatChange,
            MediaItem.actionable?]
          split <;> rfl
      | frame coded =>
          rw [MediaItem.event?, MediaItem.actionable?, Option.none_or]
          split
          · rw [Option.toList_none, List.append_nil]
          · exact lastActionable_frame _ coded
      | picture picture =>
          rw [MediaItem.event?, MediaItem.actionable?, Option.none_or, Option.toList_none,
            List.append_nil]

theorem lastActionable_sentFor (drops : Bool) (emissions : List Emission) (handle : Nat) :
    lastActionable (sentFor drops emissions) = sharedFormat emissions handle :=
  lastActionable_collect drops [] emissions

/-- Of the frames that are due, those that are refused are not even sent. -/
private theorem due_sentFor (drops : Bool) (emissions : List Emission) :
    (History.collect IngestEvent.due? (sentFor drops emissions)).Sublist
      (dueOf sharedFormat emissions) := by
  unfold dueOf
  induction emissions using List.reverseRecOn with
  | nil => exact List.Sublist.refl _
  | append_singleton emissions emission ih =>
      rw [sentFor_append_singleton, History.collect_append_singleton]
      unfold Emission.event? Emission.due?
      cases emission.item with
      | format announced =>
          rw [MediaItem.event?, Option.toList_some, History.collect_append_singleton]
          exact ih.append (List.Sublist.refl _)
      | frame coded =>
          rw [MediaItem.event?]
          split
          · rw [Option.toList_none, List.append_nil]
            exact ih.trans (List.sublist_append_left _ _)
          · rw [Option.toList_some, History.collect_append_singleton, IngestEvent.due?,
              lastActionable_sentFor drops emissions emission.handle]
            exact ih.append (List.Sublist.refl _)
      | picture picture =>
          rw [MediaItem.event?, Option.toList_none, List.append_nil, Option.toList_none,
            List.append_nil]
          exact ih

namespace Pipeline

theorem Tracks.decodings_sublist {course : Course} {pipeline : Pipeline} {engine : Engine}
    (tracks : Tracks course pipeline) (unused : course.engine = engine.unused) :
    (decodings pipeline.engine.calls).Sublist (dueOf sharedFormat course.emissions) := by
  have fresh : (DecodeLoop.start course.engine .empty).slot.DecodesDue [] := by
    rw [unused]
    exact ⟨DecoderSlot.follows_empty rfl, List.Sublist.refl _⟩
  have worked : course.worked.1.slot.DecodesDue course.done :=
    DecodeLoop.slot_process (fun _ _ session format decodes => decodes.formatChange session format)
      (fun _ _ frame decodes => decodes.frame frame) (fun _ _ frame decodes => decodes.skip frame)
      tracks.stop_not_mem_done fresh
  have sameCalls : decodings pipeline.engine.calls =
      decodings course.worked.1.slot.engine.calls := by
    rw [Pipeline.engine, tracks.works.slot]
    cases course.isOver with
    | false => rfl
    | true => exact DecoderSlot.collect_destroy onlyDecodes_decoding? _
  have sofar : (History.collect IngestEvent.due? course.done).Sublist
      (History.collect IngestEvent.due? course.sent) := by
    rw [← tracks.sent, History.collect_append]
    exact List.sublist_append_left _ _
  rw [sameCalls]
  exact (worked.due.trans sofar).trans (due_sentFor course.drops course.emissions)

end Pipeline

namespace PipelineRun

/-- Whatever the sessions do and whenever the decode loop gets its turns: the frames that the engine
is handed are, in their order, frames that assemblers have returned, and each meets a decoder for
the last format that any session had announced by then and that could be acted on. Frames in front
of the first such format are not decoded. Wherever no other session has announced a format since the
frame's own session did, the decoder is the one for the format of the frame's own session. -/
theorem decodes_with_shared_format (run : PipelineRun) :
    (decodings run.last.engine.calls).Sublist (dueOf sharedFormat run.emissions) ∧
      (∀ earlier emission later, run.emissions = earlier ++ emission :: later →
        (∀ announcer ∈ lastAnnouncer earlier, announcer = emission.handle) →
          emission.due? sharedFormat earlier = emission.due? ownFormat earlier) ∧
      (Undisturbed run.emissions →
        (decodings run.last.engine.calls).Sublist (dueOf ownFormat run.emissions)) := by
  obtain ⟨course, tracks, takes⟩ := run.exists_course
  have unused : course.engine = course.engine.unused := by
    rw [takes.engine]
    rfl
  have shared := tracks.decodings_sublist unused
  rw [takes.emissions] at shared
  refine ⟨shared, ?_, ?_⟩
  · exact fun _ _ _ _ own => due?_eq_of_own own
  · intro undisturbed
    rw [← dueOf_congr undisturbed]
    exact shared

/-- Two sessions: the frames of the hall are through before the door announces its format. -/
def hallThenDoor : PipelineRun where
  config := .standard
  inlineDecoder := .jpeg
  engine := .passthrough
  audience := .empty
  turns :=
    [.request (.openSession "door" "video" "VP9" ""),
      .request (.openSession "hall" "video" "H264" ""),
      .request (.push "hall" [0, 0, 1, 0x67, 0x42, 0xc0, 0x1f, 0xf4, 0x02, 0x80, 0x2d, 0xc8] 0),
      .request (.push "hall" [0, 0, 1, 0x65, 1] 0),
      .request (.push "door" [0x82] 0),
      .request (.push "door" [0x86] 40),
      .work 9]

/-- Three sessions: behind the format of the hall, the door announces another. -/
def doorAndHall : PipelineRun where
  config := .standard
  inlineDecoder := .jpeg
  engine := .passthrough
  audience := .empty
  turns :=
    [.request (.openSession "door" "video" "VP9" ""),
      .request (.openSession "hall" "video" "H264" ""),
      .request (.openSession "yard" "video" "H264" ""),
      .request (.push "hall" [0, 0, 1, 0x67, 0x42, 0xc0, 0x1f, 0xf4, 0x02, 0x80, 0x2d, 0xc8] 0),
      .request (.push "door" [0x82] 0),
      .request (.push "hall" [0, 0, 1, 0x41, 2] 40),
      .request (.push "yard" [0, 0, 1, 0x41, 3] 40),
      .work 9]

def doorFrame : Emission := ⟨"door", 0, .frame ⟨[0x82], 0, .key⟩⟩

theorem decodes_with_own_format_in_turn :
    Undisturbed hallThenDoor.emissions ∧
      (decodings hallThenDoor.last.engine.calls).Sublist
        (dueOf ownFormat hallThenDoor.emissions) ∧
      (decodings hallThenDoor.last.engine.calls).length = 3 ∧
      ¬Undisturbed doorAndHall.emissions ∧
      doorFrame.due? sharedFormat (doorAndHall.emissions.take 2) =
        doorFrame.due? ownFormat (doorAndHall.emissions.take 2) := by
  have undisturbed : Undisturbed hallThenDoor.emissions := by decide +kernel
  obtain ⟨_, _, own⟩ := hallThenDoor.decodes_with_shared_format
  obtain ⟨_, inTurn, _⟩ := doorAndHall.decodes_with_shared_format
  refine ⟨undisturbed, own undisturbed, by decide +kernel, by decide +kernel, ?_⟩
  exact inTurn _ doorFrame (doorAndHall.emissions.drop 3) (by decide +kernel) (by decide +kernel)

/-- Behind the VP9 chunk of another session, the slice of a session in H.264 goes to the VP9
decoder, and so does that of a session without any format. -/
theorem decoder_of_other_session :
    ¬(decodings doorAndHall.last.engine.calls).Sublist
      (dueOf ownFormat doorAndHall.emissions) := by
  decide +kernel

end PipelineRun
end VideoIngest
