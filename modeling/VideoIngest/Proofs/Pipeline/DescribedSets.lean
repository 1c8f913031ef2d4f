import VideoIngest.Proofs.Assembler.SetsAhead
import VideoIngest.Proofs.DecodeLoop.FirstFrame
import VideoIngest.Proofs.Pipeline.Accounting
import VideoIngest.Proofs.Pipeline.OneSession
import VideoIngest.Proofs.Sdp.ParameterSets

/-!
Parameter sets that a session description carries.

They are taken in while the session is opened, so its first key frame has them in front, just as if
they had come in chunks. The format that they announce is on its way to the decode loop before the
frame is, so that there is a decoder for it.
-/

namespace VideoIngest

open AnnexB (Brings IsSet)

/-! ### The description -/

/-- The description carries one set of each kind, in whatever order. Its other sets, if there are
any, are units that are skipped. -/
def NalCodec.Describes (codec : NalCodec) (payload : ParameterSetKind → Bytes)
    (description : String) : Prop :=
  ∃ sets, Sdp.Carries codec.codec description.toList sets ∧ (∀ set ∈ sets, IsPayload set) ∧
    codec.AreSets payload sets

variable {codec : NalCodec} {payload : ParameterSetKind → Bytes}

private theorem NalCodec.Describes.brings {description : String}
    (describes : codec.Describes payload description) :
    Brings codec payload
      (streamUnits codec
        ((Sdp.initialUnits codec.codec description).map fun unit => (unit, 0))) := by
  obtain ⟨sets, carries, fit, areSets⟩ := describes
  rw [Sdp.initialUnits_of_carries carries, List.map_map]
  exact AnnexB.brings_framed areSets fit 0

private theorem Sdp.initialUnits_of_lacks {codec : Codec} {description : String}
    (lacks : Lacks description.toList codec) : initialUnits codec description = [] := by
  rw [initialUnits, parameterSets_eq_none_iff.mpr lacks]
  rfl

/-! ### The format and the frame -/

private theorem NalCodec.hasData_keyFrame (codec : NalCodec) (payload : ParameterSetKind → Bytes)
    (key : Bytes) (timestamp : Nat) :
    (codec.keyFrame payload key timestamp).data.isEmpty = false := by
  rw [List.isEmpty_eq_false_iff]
  intro empty
  exact NalUnit.bytes_ne_nil ⟨.long, key⟩ (List.append_eq_nil_iff.mp empty).2

private theorem NalCodec.announced_of_pictureSize {sps : Bytes} {width height : Nat}
    (sizes : codec.pictureSize sps = .ok (width, height)) :
    codec.announced sps = ⟨codec.codec, width, height⟩ := by
  unfold announced
  rw [sizes]

private theorem NalCodec.isActionable_of_pictureSize {sps : Bytes} {width height : Nat}
    (sizes : codec.pictureSize sps = .ok (width, height)) :
    (⟨codec.codec, width, height⟩ : VideoFormat).isActionable = true := by
  obtain ⟨wide, high⟩ := size_pos_of_pictureSize sizes
  unfold VideoFormat.isActionable
  rw [VideoFormat.isDegenerate_eq_false wide high]
  rfl

namespace Pipeline

variable {first course next : Course} {start pipeline other : Pipeline} {id : String}
  {chunks : List (Bytes × Nat)} {key : Bytes} {timestamp : Nat}

/-! ### What is on its way -/

private theorem Tracks.pending_emit (tracks : Tracks course pipeline) {emission : Emission}
    (behind : Tracks next other) (done : next.done = course.done)
    (drops : next.drops = course.drops)
    (emissions : next.emissions = course.emissions ++ [emission]) :
    other.loop.queue.pending =
      pipeline.loop.queue.pending ++ (emission.event? course.drops course.emissions).toList := by
  have sent : course.sent ++ (emission.event? course.drops course.emissions).toList =
      next.sent := by
    unfold Course.sent
    rw [drops, emissions, sentFor_append_singleton]
  rw [← tracks.sent, ← behind.sent, done, List.append_assoc] at sent
  exact (List.append_cancel_left sent).symm

theorem itemsOf_append_own (handle : Nat) (id : String) (emissions : List Emission)
    (items : List MediaItem) :
    itemsOf handle (emissions ++ items.map (Emission.mk id handle)) =
      itemsOf handle emissions ++ items := by
  induction items using List.reverseRecOn with
  | nil => rw [List.map_nil, List.append_nil, List.append_nil]
  | append_singleton items item ih =>
      rw [List.map_append, ← List.append_assoc, List.map_singleton, itemsOf_append_singleton, ih,
        if_pos rfl, List.append_assoc]

theorem Tracks.itemsOf_next (tracks : Tracks course pipeline) :
    itemsOf pipeline.sessions.sessions.size course.emissions = [] := by
  apply itemsOf_eq_nil
  rw [tracks.opened]
  exact tracks.handles

/-- The items of a new session are the ones that its own chunks come to. -/
private theorem HasFed.ownItems (fed : HasFed first start id codec chunks course pipeline) :
    itemsOf start.sessions.sessions.size course.emissions =
      (AnnexB.assembleAll codec chunks (.fresh codec)).2 := by
  rw [fed.emissions, itemsOf_append_own, fed.before.itemsOf_next, List.nil_append]

private theorem sentFor_append_own {drops : Bool} {handle : Nat} {emissions : List Emission}
    (others : itemsOf handle emissions = []) (id : String) (items : List MediaItem) :
    sentFor drops (emissions ++ items.map (Emission.mk id handle)) =
      sentFor drops emissions ++ ingested id drops items := by
  induction items using List.reverseRecOn with
  | nil =>
      rw [List.map_nil, List.append_nil]
      exact (List.append_nil _).symm
  | append_singleton items item ih =>
      rw [List.map_append, ← List.append_assoc, List.map_singleton, sentFor_append_singleton, ih,
        Emission.event?, itemsOf_append_own, others, List.nil_append, ingested_append_singleton,
        List.append_assoc]

/-- The first frame of a session is never late. -/
private theorem refusedOf_append_format_frame {drops : Bool} {handle : Nat}
    {emissions : List Emission}
    (others : itemsOf handle emissions = []) (id : String) (format : VideoFormat)
    (frame : CodedFrame) :
    refusedOf drops (emissions ++
      [MediaItem.format format, .frame frame].map (Emission.mk id handle)) =
        refusedOf drops emissions := by
  have own := itemsOf_append_own handle id emissions [.format format]
  have inOrder : MediaItem.isRegressed drops [.format format] frame = false := Bool.and_false _
  rw [others, List.nil_append, List.map_singleton] at own
  rw [List.map_cons, List.map_singleton, List.append_cons, refusedOf_append_singleton,
    refusedOf_append_singleton]
  have taken : Emission.refused? drops (emissions ++ [⟨id, handle, .format format⟩])
      ⟨id, handle, .frame frame⟩ = none := by
    rw [Emission.refused?, own]
    exact if_neg (Bool.eq_false_iff.mp inOrder)
  rw [taken]
  exact (List.append_nil _).trans (List.append_nil _)

private theorem HasFed.sent (fed : HasFed first start id codec chunks course pipeline) :
    course.sent = first.sent ++
      ingested id course.drops (AnnexB.assembleAll codec chunks (.fresh codec)).2 := by
  unfold Course.sent
  rw [fed.emissions, sentFor_append_own fed.before.itemsOf_next, fed.drops]

/-- The session is opened, and all that comes of it at first is its format. -/
structure Announces (id media codecName description : String) (format : VideoFormat)
    (pipeline : Pipeline) : Prop where
  accepted : (pipeline.openSession id media codecName description).2 = .ok ()
  emitted : pipeline.emitted (.request (.openSession id media codecName description)) =
    [⟨id, pipeline.sessions.sessions.size, .format format⟩]
  pending : (pipeline.openSession id media codecName description).1.loop.queue.pending =
    pipeline.loop.queue.pending ++ [.formatChange id format]

/-- The chunk is accepted, and this frame of the session is all that comes of it at first. -/
structure SendsFrame (id : String) (handle : Nat) (chunk : Bytes) (frame : CodedFrame)
    (pipeline : Pipeline) : Prop where
  accepted : (pipeline.push id chunk frame.timestamp).2 = .ok ()
  emitted : pipeline.emitted (.request (.push id chunk frame.timestamp)) =
    [⟨id, handle, .frame frame⟩]
  pending : (pipeline.push id chunk frame.timestamp).1.loop.queue.pending =
    pipeline.loop.queue.pending ++ [.frame frame]

private theorem Tracks.announces (tracks : Tracks first start) (going : first.isOver = false)
    {media codecName description : String} (opens : sessionCodec media codecName = .ok codec.codec)
    (areSets : ∀ kind ∈ codec.setKinds, IsSet codec kind (payload kind))
    (describes : codec.Describes payload description) (id : String) :
    start.Announces id media codecName description (codec.announced (payload .sps)) := by
  obtain ⟨accepted, fed⟩ := tracks.hasFed_openSession going opens id description
  have items := AnnexB.items_of_brings describes.brings areSets
  have emissions := fed.emissions
  rw [items] at emissions
  exact ⟨accepted, List.append_cancel_left emissions,
    tracks.pending_emit fed.tracks rfl rfl emissions⟩

private theorem HasFed.sendsFrame (fed : HasFed first start id codec chunks course pipeline)
    (areSets : ∀ kind ∈ codec.setKinds, IsSet codec kind (payload kind))
    (brings : Brings codec payload (streamUnits codec chunks)) (fits : IsPayload key)
    (isKey : codec.roleOfPayload key = .key) (timestamp : Nat) :
    pipeline.SendsFrame id start.sessions.sessions.size (framed key)
      (codec.keyFrame payload key timestamp) := by
  obtain ⟨accepted, next⟩ := fed.push (framed key, timestamp)
  have emitted : pipeline.chunkEmissions id (framed key) timestamp =
      [⟨id, start.sessions.sessions.size, .frame (codec.keyFrame payload key timestamp)⟩] := by
    rw [fed.chunkEmissions_eq (framed key, timestamp), fed.returned,
      AnnexB.assemble_key_of_brings brings areSets fits isKey timestamp]
    rfl
  refine ⟨accepted, emitted, ?_⟩
  have pending := fed.tracks.pending_emit next.tracks rfl rfl (congrArg _ emitted)
  -- No frame of the session came before, and so it cannot be late.
  have inOrder : MediaItem.isRegressed course.drops
      (itemsOf start.sessions.sessions.size course.emissions)
        (codec.keyFrame payload key timestamp) = false := by
    rw [fed.ownItems, AnnexB.items_of_brings brings areSets, MediaItem.isRegressed]
    exact Bool.and_false _
  rw [Emission.event?, MediaItem.event?, inOrder, if_neg Bool.false_ne_true] at pending
  exact pending

/-! ### What is worked on -/

/-- More work is work on what was sent in between. -/
private theorem Tracks.settle_behind (tracks : Tracks course pipeline) (behind : Tracks next other)
    (going : course.isOver = false) (goingOn : next.isOver = false)
    (engine : next.engine = course.engine) {events : List IngestEvent}
    (sent : next.sent = course.sent ++ events)
    (shown : next.emissions.filterMap Emission.picture? =
      course.emissions.filterMap Emission.picture?) :
    (pipeline.settle.loop.process events).1.SameWork other.settle.loop ∧
      other.settle.playout.delivered =
        pipeline.settle.playout.delivered + (pipeline.settle.loop.process events).2.length := by
  obtain ⟨settled, _⟩ := tracks.settled going
  obtain ⟨settledThen, _⟩ := behind.settled goingOn
  obtain ⟨works, samePictures⟩ := (settled.sameWork going).process events
  have worked : (next.work other.loop.queue.pending).worked =
      ((course.work pipeline.loop.queue.pending).work events).worked := by
    have done : (next.work other.loop.queue.pending).done =
        ((course.work pipeline.loop.queue.pending).work events).done := by
      change next.done ++ _ = (course.done ++ _) ++ events
      rw [tracks.sent, behind.sent, sent]
    unfold Course.worked
    rw [done]
    change (DecodeLoop.start next.engine .empty).process _ = _
    rw [engine]
    rfl
  have worksThen := settledThen.sameWork goingOn
  have delivered := settledThen.delivered
  rw [worked, Course.worked_work] at worksThen delivered
  constructor
  · exact ⟨worksThen.slot.trans works.slot.symm, worksThen.undecoded.trans works.undecoded.symm,
      worksThen.decodeErrors.trans works.decodeErrors.symm⟩
  · have before := settled.delivered
    change _ = _ + (next.emissions.filterMap Emission.picture?).length at delivered
    change _ = _ + (course.emissions.filterMap Emission.picture?).length at before
    rw [delivered, before, shown, samePictures, List.length_append, Nat.add_right_comm]

/-- A decoder for the format is live. Unless it was live before it has been created since. -/
structure HasDecoder (format : VideoFormat) (before after : Pipeline) : Prop where
  live : after.loop.slot.activeFormat = some format
  calls : after.engine.calls = before.engine.calls ++ before.loop.slot.provisionCalls format

/-- The frame has been handed to a decoder for the format, and nothing was dropped. -/
structure HasDecoded (format : VideoFormat) (frame : CodedFrame) (before after : Pipeline) :
    Prop where
  calls : after.engine.calls =
    before.engine.calls ++ before.loop.slot.provisionCalls format ++ [.decode frame]
  stats : after.stats = before.stats.add
    { enqueued := 1
      dropped := 0
      decodeErrors := (!before.loop.slot.decodesNext).toNat
      decoders := (before.loop.slot.isDue format).toNat
      delivered := before.loop.slot.decodesNext.toNat }

variable {engine : Engine} {format : VideoFormat} {frame : CodedFrame}

private theorem Tracks.follows_settle (tracks : Tracks course pipeline)
    (going : course.isOver = false) (unused : course.engine = engine.unused) :
    ∃ events, pipeline.settle.loop.slot.Follows events := by
  obtain ⟨settled, _⟩ := tracks.settled going
  refine ⟨(course.work pipeline.loop.queue.pending).done, ?_⟩
  rw [(settled.sameWork going).slot]
  exact (settled.tallies unused).follows

/-- The work on what was sent for a session, where no item is a picture already. -/
private theorem HasFed.settle_behind (fed : HasFed first start id codec chunks course pipeline)
    {items : List MediaItem} (comes : (AnnexB.assembleAll codec chunks (.fresh codec)).2 = items)
    (unshown : (items.map (Emission.mk id start.sessions.sessions.size)).filterMap
      Emission.picture? = []) :
    (start.settle.loop.process (ingested id course.drops items)).1.SameWork
        pipeline.settle.loop ∧
      pipeline.settle.playout.delivered = start.settle.playout.delivered +
        (start.settle.loop.process (ingested id course.drops items)).2.length := by
  have sent := fed.sent
  rw [comes] at sent
  have shown : course.emissions.filterMap Emission.picture? =
      first.emissions.filterMap Emission.picture? := by
    rw [fed.emissions, comes, List.filterMap_append, unshown, List.append_nil]
  exact fed.before.settle_behind fed.tracks fed.began fed.going fed.engine sent shown

private theorem HasFed.hasDecoder (fed : HasFed first start id codec chunks course pipeline)
    (unused : first.engine = engine.unused)
    (items : (AnnexB.assembleAll codec chunks (.fresh codec)).2 = [.format format])
    (isActionable : format.isActionable = true)
    (provides : start.settle.loop.slot.Provides format) :
    start.settle.HasDecoder format pipeline.settle := by
  obtain ⟨events, follows⟩ := fed.before.follows_settle fed.began unused
  obtain ⟨works, _⟩ := fed.settle_behind items rfl
  have slot : pipeline.settle.loop.slot = (start.settle.loop.slot.applyFormat format).1 :=
    works.slot.trans (DecodeLoop.slot_onFormat id format start.settle.loop)
  constructor
  · rw [slot, DecoderSlot.activeFormat, provides.active_applyFormat follows isActionable]
    rfl
  · rw [Pipeline.engine, slot]
    exact provides.calls_applyFormat

private theorem HasFed.hasDecoded (fed : HasFed first start id codec chunks course pipeline)
    (unused : first.engine = engine.unused)
    (items : (AnnexB.assembleAll codec chunks (.fresh codec)).2 = [.format format, .frame frame])
    (isActionable : format.isActionable = true) (hasData : frame.data.isEmpty = false)
    (provides : start.settle.loop.slot.Provides format) :
    start.settle.HasDecoded format frame pipeline.settle := by
  obtain ⟨events, follows⟩ := fed.before.follows_settle fed.began unused
  obtain ⟨works, delivered⟩ := fed.settle_behind items rfl
  have both : ingested id course.drops [.format format, .frame frame] =
      [.formatChange id format, .frame frame] := by
    cases course.drops <;> rfl
  rw [both] at works delivered
  have handsOver := DecodeLoop.handsOver_process provides follows isActionable hasData id
  have refused : pipeline.settle.refused = start.settle.refused := by
    have none : refusedOf course.drops course.emissions =
        refusedOf first.drops first.emissions := by
      rw [fed.drops, fed.emissions, items]
      exact refusedOf_append_format_frame fed.before.itemsOf_next id format frame
    have balance := fed.refused
    rw [none] at balance
    exact Nat.add_right_cancel balance
  constructor
  · rw [Pipeline.engine, works.slot]
    exact handsOver.calls
  · have enqueued : pipeline.settle.enqueued = start.settle.enqueued + 1 := by
      change pipeline.enqueued = start.enqueued + 1
      rw [fed.tracks.enqueued, fed.before.enqueued, fed.sent, items, both, List.countP_append]
      rfl
    rw [stats_eq, stats_eq, enqueued, refused, works.undecoded, works.decodeErrors, works.slot,
      delivered, handsOver.undecoded, handsOver.decodeErrors, handsOver.created,
      handsOver.pictures]
    cases start.settle.loop.slot.decodesNext <;> rfl

end Pipeline

namespace PipelineRun

open Pipeline (sessionCodec feed)

/-- A description with one set of each kind: the first key frame of the session has the sets in
front, each behind a long start code and in the order in which decoders expect them, whatever order
they were described in. It is the frame that comes of the same sets in chunks of the session. If the
sequence parameter set can be read and the engine creates the decoder, then the decoder is there
once the opening has been worked on, and the frame is handed to it and not dropped. -/
theorem described_sets_lead_first_frame (run : PipelineRun) (going : run.last.isStopped = false)
    {codec : NalCodec} {media codecName : String}
    (opens : sessionCodec media codecName = .ok codec.codec)
    {payload : ParameterSetKind → Bytes}
    (areSets : ∀ kind ∈ codec.setKinds, IsSet codec kind (payload kind)) {key : Bytes}
    (fits : IsPayload key) (isKey : codec.roleOfPayload key = .key) (id : String)
    (timestamp : Nat) :
    (∀ description, codec.Describes payload description →
      run.last.Announces id media codecName description (codec.announced (payload .sps)) ∧
        ∀ counts : List Nat,
          ((counts.map FeedStep.work).foldl (feed id)
            (run.last.openSession id media codecName description).1).SendsFrame id
              run.last.sessions.sessions.size (framed key)
              (codec.keyFrame payload key timestamp)) ∧
      (∀ (plain : String) (steps : List FeedStep), Sdp.Lacks plain.toList codec.codec →
        Brings codec payload (streamUnits codec (steps.filterMap FeedStep.chunk?)) →
          (steps.foldl (feed id) (run.last.openSession id media codecName plain).1).SendsFrame id
            run.last.sessions.sessions.size (framed key)
            (codec.keyFrame payload key timestamp)) ∧
      ∀ description width height, codec.Describes payload description →
        codec.pictureSize (payload .sps) = .ok (width, height) →
        run.last.settle.loop.slot.Provides ⟨codec.codec, width, height⟩ →
          run.last.settle.HasDecoder ⟨codec.codec, width, height⟩
              (run.last.openSession id media codecName description).1.settle ∧
            ∀ counts : List Nat,
              run.last.settle.HasDecoded ⟨codec.codec, width, height⟩
                (codec.keyFrame payload key timestamp)
                (((counts.map FeedStep.work).foldl (feed id)
                  (run.last.openSession id media codecName description).1).push id (framed key)
                    timestamp).1.settle := by
  obtain ⟨course, tracks, takes⟩ := run.exists_course
  have isGoing : course.isOver = false := tracks.stopped.symm.trans going
  have worked : ∀ counts : List Nat, (counts.map FeedStep.work).filterMap FeedStep.chunk? = [] := by
    intro counts
    rw [List.filterMap_map, List.filterMap_eq_nil_iff]
    exact fun _ _ => rfl
  refine ⟨?_, ?_, ?_⟩
  · intro description describes
    refine ⟨tracks.announces isGoing opens areSets describes id, ?_⟩
    intro counts
    obtain ⟨last, fed⟩ := (tracks.hasFed_openSession isGoing opens id description).2.feed
      (counts.map FeedStep.work)
    rw [worked, List.append_nil] at fed
    exact fed.sendsFrame areSets describes.brings fits isKey timestamp
  · intro plain steps lacks brings
    obtain ⟨last, fed⟩ := (tracks.hasFed_openSession isGoing opens id plain).2.feed steps
    rw [Sdp.initialUnits_of_lacks lacks, List.map_nil, List.nil_append] at fed
    exact fed.sendsFrame areSets brings fits isKey timestamp
  · intro description width height describes sizes provides
    have isActionable := NalCodec.isActionable_of_pictureSize sizes
    have items := AnnexB.items_of_brings describes.brings areSets
    have all := AnnexB.items_behind_key describes.brings areSets fits isKey timestamp
    rw [NalCodec.announced_of_pictureSize sizes] at items all
    have opened := (tracks.hasFed_openSession isGoing opens id description).2
    refine ⟨opened.hasDecoder takes.engine items isActionable provides, ?_⟩
    intro counts
    obtain ⟨last, fed⟩ := opened.feed (counts.map FeedStep.work)
    rw [worked, List.append_nil] at fed
    have pushed := (fed.push (framed key, timestamp)).2
    exact pushed.hasDecoded takes.engine all isActionable
      (codec.hasData_keyFrame payload key timestamp) provides

def quiet : PipelineRun where
  config := .standard
  inlineDecoder := .jpeg
  engine := .passthrough
  audience := .empty
  turns := []

def smallSets : ParameterSetKind → Bytes
  | .vps => []
  | .sps => [0x67, 0x42, 0xc0, 0x1f, 0xf4, 0x02, 0x80, 0x2d, 0xc8]
  | .pps => [0x68, 0xce]

/-- The picture parameter set is described first, and a unit that is skipped stands between. -/
def smallDescription : String := "a=fmtp:96 sprop-parameter-sets=aM4=,BgE=,Z0LAH/QCgC3I;mode=1"

def firstFrame : CodedFrame where
  data := framed (smallSets .sps) ++ framed (smallSets .pps) ++ [0, 0, 0, 1, 0x65, 3]
  timestamp := 40
  kind := .key

theorem small_sets_lead_first_frame :
    quiet.last.Announces "door" "video" "H264" smallDescription ⟨.h264, 1280, 720⟩ ∧
      (quiet.last.openSession "door" "video" "H264" smallDescription).1.SendsFrame "door" 0
        [0, 0, 0, 1, 0x65, 3] firstFrame ∧
      ([FeedStep.push (framed (smallSets .pps) ++ framed (smallSets .sps)) 7].foldl (feed "door")
        (quiet.last.openSession "door" "video" "H264" "").1).SendsFrame "door" 0
          [0, 0, 0, 1, 0x65, 3] firstFrame ∧
      quiet.last.settle.HasDecoded ⟨.h264, 1280, 720⟩ firstFrame
        ((quiet.last.openSession "door" "video" "H264" smallDescription).1.push "door"
          [0, 0, 0, 1, 0x65, 3] 40).1.settle := by
  have opens : sessionCodec "video" "H264" = .ok NalCodec.h264.codec := by decide +kernel
  have areSets : ∀ kind ∈ NalCodec.h264.setKinds, IsSet .h264 kind (smallSets kind) := by
    intro kind needed
    simp only [NalCodec.setKinds, List.mem_cons, List.not_mem_nil, or_false] at needed
    rcases needed with rfl | rfl
    · exact ⟨by decide, by decide⟩
    · exact ⟨by decide, by decide⟩
  have describes : NalCodec.h264.Describes smallSets smallDescription := by
    refine ⟨[smallSets .pps, [6, 1], smallSets .sps],
      Sdp.parameterSets_eq_some_iff.mp (by decide +kernel), by decide, ?_⟩
    unfold NalCodec.AreSets
    decide
  have sizes : NalCodec.h264.pictureSize (smallSets .sps) = .ok (1280, 720) := by decide +kernel
  have lacks : Sdp.Lacks "".toList .h264 := Sdp.parameterSets_eq_none_iff.mp (by decide +kernel)
  have brings : Brings .h264 smallSets (streamUnits .h264
      [(framed (smallSets .pps) ++ framed (smallSets .sps), 7)]) := by
    unfold AnnexB.Brings NalCodec.AreSets
    decide +kernel
  have provides : quiet.last.settle.loop.slot.Provides ⟨.h264, 1280, 720⟩ := fun _ => rfl
  obtain ⟨described, pushed, decoded⟩ := described_sets_lead_first_frame quiet rfl opens areSets
    (show IsPayload [0x65, 3] by decide) (by decide) "door" 40
  obtain ⟨announces, sends⟩ := described smallDescription describes
  rw [NalCodec.announced_of_pictureSize sizes] at announces
  refine ⟨announces, sends [], pushed "" [.push _ 7] lacks brings, ?_⟩
  exact (decoded smallDescription 1280 720 describes sizes provides).2 []

end PipelineRun
end VideoIngest
