import VideoIngest.Proofs.Pipeline.Bindings
import VideoIngest.Proofs.Pipeline.Items

/-!
What a sink sees of one stream, from end to end, with an engine that never fails.

Pushes and the work of the decode loop may take any turns. What the loop has worked on and what is
still on its way are together what the stream comes to, and the sink has received the pictures of
the former.
-/

namespace VideoIngest

structure Watch where
  id : String
  handle : Nat
  drops : Bool
  sink : String

/-- A pipeline that has taken in these items of the stream and worked on these events. -/
structure Carries (watch : Watch) (assembler : Assembler) (items : List MediaItem)
    (done : List IngestEvent) (pipeline : Pipeline) : Prop where
  going : pipeline.isStopped = false
  drops : pipeline.dropsRegressed = watch.drops
  hosts : ∃ last, pipeline.sessions.Hosts watch.id watch.handle assembler last ∧
    IsNewest watch.drops last items
  receiving : pipeline.loop.queue.receiving = true
  sender : pipeline.loop.queue.senders.isEmpty = false
  sent : done ++ pipeline.loop.queue.pending = ingested watch.id watch.drops items
  serves : pipeline.loop.slot.Serves done
  sinks : pipeline.playout.audience.fanout.sinks = [watch.sink]
  still : pipeline.playout.audience.reactions watch.sink = []
  received : pipeline.playout.audience.received.toList =
    (History.collect IngestEvent.picture? done).map fun picture => (watch.sink, picture)

variable {watch : Watch} {assembler : Assembler} {items : List MediaItem}
  {done : List IngestEvent} {pipeline : Pipeline}

/-! ### Taking in items -/

theorem Pipeline.send_eq (receiving : pipeline.loop.queue.receiving = true) (event : IngestEvent) :
    pipeline.send event =
      (pipeline.withLoop (pipeline.loop.withPending (pipeline.loop.queue.pending ++ [event])),
        .ok ()) := by
  unfold send DecodeLoop.send IngestQueue.send
  rw [if_pos receiving]
  rfl

theorem Pipeline.ingestItems_cons_of_ok {handle : Nat} {id : String} {item : MediaItem}
    {rest : List MediaItem} (accepted : (pipeline.ingestItem handle id item).2 = .ok ()) :
    pipeline.ingestItems handle id (item :: rest) =
      (pipeline.ingestItem handle id item).1.ingestItems handle id rest := by
  rw [Pipeline.ingestItems]
  cases outcome : pipeline.ingestItem handle id item with
  | mk _ result =>
      rw [outcome] at accepted
      dsimp only at accepted
      rw [accepted]

private theorem Carries.ingest_format (carries : Carries watch assembler items done pipeline)
    (announced : VideoFormat) :
    (pipeline.ingestItem watch.handle watch.id (.format announced)).2 = .ok () ∧
      Carries watch assembler (items ++ [.format announced]) done
        (pipeline.ingestItem watch.handle watch.id (.format announced)).1 := by
  obtain ⟨last, hosts, newest⟩ := carries.hosts
  rw [Pipeline.ingestItem, Pipeline.send_eq carries.receiving]
  refine ⟨rfl, { carries with hosts := ⟨last, hosts, newest.format announced⟩, sent := ?_ }⟩
  rw [ingested_append_singleton, ← carries.sent, List.append_assoc]
  rfl

private theorem Carries.ingest_frame (carries : Carries watch assembler items done pipeline)
    (coded : CodedFrame) :
    (pipeline.ingestItem watch.handle watch.id (.frame coded)).2 = .ok () ∧
      Carries watch assembler (items ++ [.frame coded]) done
        (pipeline.ingestItem watch.handle watch.id (.frame coded)).1 := by
  obtain ⟨last, hosts, newest⟩ := carries.hosts
  have rule : (pipeline.dropsRegressed && last.any fun newest =>
      decide (coded.timestamp < newest)) = MediaItem.isRegressed watch.drops items coded := by
    rw [carries.drops, MediaItem.isRegressed]
    cases drops : watch.drops with
    | true => rw [newest drops]
    | false => rfl
  obtain ⟨accepted, updated⟩ := hosts.acceptTimestamp coded.timestamp _ rule
  rw [Pipeline.ingestItem, Pipeline.ingestFrame]
  dsimp only
  rw [accepted]
  cases regressed : MediaItem.isRegressed watch.drops items coded with
  | true =>
      rw [regressed, if_pos rfl] at updated
      refine ⟨rfl, { carries with hosts := ⟨last, updated, newest.refused regressed⟩, sent := ?_ }⟩
      rw [ingested_append_singleton, MediaItem.event?, if_pos regressed, ← carries.sent]
      exact (List.append_nil _).symm
  | false =>
      rw [regressed, if_neg Bool.false_ne_true] at updated
      have receiving : (pipeline.withSessions (pipeline.sessions.update watch.handle
          (Session.acceptTimestamp coded.timestamp pipeline.dropsRegressed)).1).loop.queue.receiving =
            true := carries.receiving
      rw [Bool.not_false, if_pos rfl, Pipeline.send_eq receiving]
      refine ⟨rfl, { carries with hosts := ⟨_, updated, newest.accepted regressed⟩, sent := ?_ }⟩
      rw [ingested_append_singleton, MediaItem.event?, if_neg (Bool.eq_false_iff.mp regressed),
        ← carries.sent, List.append_assoc]
      rfl

private theorem Carries.ingestItems {more : List MediaItem}
    (carries : Carries watch assembler items done pipeline)
    (coded : ∀ item ∈ more, item.IsCoded) :
    (pipeline.ingestItems watch.handle watch.id more).2 = .ok () ∧
      Carries watch assembler (items ++ more) done
        (pipeline.ingestItems watch.handle watch.id more).1 := by
  induction more generalizing items pipeline with
  | nil =>
      rw [List.append_nil]
      exact ⟨rfl, carries⟩
  | cons item rest ih =>
      have others : ∀ other ∈ rest, other.IsCoded := fun other member =>
        coded other (List.mem_cons_of_mem _ member)
      have ingested : (pipeline.ingestItem watch.handle watch.id item).2 = .ok () ∧
          Carries watch assembler (items ++ [item]) done
            (pipeline.ingestItem watch.handle watch.id item).1 := by
        cases item with
        | format announced => exact carries.ingest_format announced
        | frame frame => exact carries.ingest_frame frame
        | picture picture => exact absurd (coded _ List.mem_cons_self) not_false
      obtain ⟨accepted, next⟩ := ingested
      rw [Pipeline.ingestItems_cons_of_ok accepted, List.append_cons]
      exact ih next others

/-! ### Taking in chunks -/

private theorem Carries.ingest {next : Assembler} {more : List MediaItem} {chunk : Bytes}
    {timestamp : Nat} (carries : Carries watch assembler items done pipeline)
    (assembled : assembler.assemble chunk timestamp = .ok (next, more))
    (coded : ∀ item ∈ more, item.IsCoded) :
    Carries watch next (items ++ more) done
      (pipeline.ingest watch.handle watch.id chunk timestamp).1 := by
  obtain ⟨last, hosts, newest⟩ := carries.hosts
  obtain ⟨result, updated⟩ := hosts.assemble assembled
  have unchanged : Carries watch next items done
      (pipeline.withSessions
        (pipeline.sessions.update watch.handle (Session.assemble chunk timestamp)).1) :=
    { carries with hosts := ⟨last, updated, newest⟩ }
  have step : pipeline.ingest watch.handle watch.id chunk timestamp =
      (pipeline.withSessions
        (pipeline.sessions.update watch.handle (Session.assemble chunk timestamp)).1).ingestItems
          watch.handle watch.id more := by
    unfold Pipeline.ingest
    split
    · rename_i sessions outcome
      rw [outcome] at result
      contradiction
    · rename_i sessions refusal outcome
      rw [outcome] at result
      have impossible := Option.some.inj result
      contradiction
    · rename_i sessions others outcome
      rw [outcome] at result ⊢
      obtain rfl := Except.ok.inj (Option.some.inj result)
      rfl
  rw [step]
  exact (unchanged.ingestItems coded).2

private theorem Carries.ingest_chunk {first : Assembler} {chunks : List (Bytes × Nat)}
    (usesEngine : first.codec.usesEngine = true) (chunk : Bytes × Nat)
    (carries : Carries watch (first.assembleAll chunks).1 (first.assembleAll chunks).2 done
      pipeline) :
    Carries watch (first.assembleAll (chunks ++ [chunk])).1
      (first.assembleAll (chunks ++ [chunk])).2 done
      (pipeline.ingest watch.handle watch.id chunk.1 chunk.2).1 := by
  have stillEngine : (first.assembleAll chunks).1.codec.usesEngine = true := by
    rw [(Assembler.assembleAll_of_usesEngine usesEngine chunks).1]
    exact usesEngine
  obtain ⟨next, more, assembled, _, coded⟩ :=
    Assembler.assemble_of_usesEngine stillEngine chunk.1 chunk.2
  rw [Assembler.assembleAll_append_singleton assembled]
  exact carries.ingest assembled coded

private theorem Carries.push {first : Assembler} {chunks : List (Bytes × Nat)}
    (usesEngine : first.codec.usesEngine = true) (chunk : Bytes × Nat)
    (carries : Carries watch (first.assembleAll chunks).1 (first.assembleAll chunks).2 done
      pipeline) :
    Carries watch (first.assembleAll (chunks ++ [chunk])).1
      (first.assembleAll (chunks ++ [chunk])).2 done
      (pipeline.push watch.id chunk.1 chunk.2).1 := by
  obtain ⟨last, hosts, newest⟩ := carries.hosts
  have moved : Carries watch (first.assembleAll chunks).1 (first.assembleAll chunks).2 done
      (pipeline.touched watch.handle) :=
    { carries with hosts := ⟨last, hosts.transition _ _, newest⟩ }
  rw [Pipeline.push_of_handle?_eq_some carries.going hosts.bound]
  exact moved.ingest_chunk usesEngine chunk

/-! ### The turns of the decode loop -/

private theorem Audience.deliver_of_sinks_eq {audience : Audience} {sink : String}
    (sinks : audience.fanout.sinks = [sink]) (still : audience.reactions sink = [])
    (picture : Picture) :
    (audience.deliver picture).1 =
      { audience with received := audience.received.push (sink, picture) } := by
  unfold deliver
  rw [sinks, List.foldl_cons, List.foldl_nil, call, still]

private theorem Pipeline.audience_play {sink : String} (pictures : List Picture)
    (pipeline : Pipeline) (sinks : pipeline.playout.audience.fanout.sinks = [sink])
    (still : pipeline.playout.audience.reactions sink = []) :
    (pipeline.play pictures).playout.audience.fanout = pipeline.playout.audience.fanout ∧
      (pipeline.play pictures).playout.audience.reactions =
        pipeline.playout.audience.reactions ∧
      (pipeline.play pictures).playout.audience.received.toList =
        pipeline.playout.audience.received.toList ++
          pictures.map fun picture => (sink, picture) := by
  induction pictures generalizing pipeline with
  | nil => exact ⟨rfl, rfl, (List.append_nil _).symm⟩
  | cons picture rest ih =>
      have delivered := Audience.deliver_of_sinks_eq sinks still picture
      have first : (pipeline.play [picture]).playout.audience =
          (pipeline.playout.audience.deliver picture).1 := rfl
      rw [delivered] at first
      obtain ⟨sameFanout, sameReactions, received⟩ := ih (pipeline.play [picture])
        (by rw [first]; exact sinks) (by rw [first]; exact still)
      rw [first] at sameFanout sameReactions received
      refine ⟨sameFanout, sameReactions, ?_⟩
      rw [Array.toList_push, List.append_assoc] at received
      exact received

def Pipeline.work (count : Nat) (pipeline : Pipeline) : Pipeline :=
  (pipeline.withLoop (pipeline.loop.steps count).1).play (pipeline.loop.steps count).2

private theorem Carries.running (carries : Carries watch assembler items done pipeline) :
    IngestEvent.stop ∉ pipeline.loop.queue.pending := by
  intro member
  have inSent : IngestEvent.stop ∈ done ++ pipeline.loop.queue.pending :=
    List.mem_append_right done member
  rw [carries.sent] at inSent
  exact stop_not_mem_ingested items inSent

private theorem Carries.work (carries : Carries watch assembler items done pipeline) (count : Nat) :
    Carries watch assembler items (done ++ pipeline.loop.queue.pending.take count)
        (pipeline.work count) ∧
      (pipeline.work count).loop.queue.pending = pipeline.loop.queue.pending.drop count := by
  obtain ⟨last, hosts, newest⟩ := carries.hosts
  have running : IngestEvent.stop ∉ pipeline.loop.queue.pending.take count := fun member =>
    carries.running (List.mem_of_mem_take member)
  have sameQueue := DecodeLoop.queue_process _ running pipeline.loop
  have stepped := DecodeLoop.steps_eq_process count pipeline.loop carries.receiving carries.sender
    carries.running
  obtain ⟨sameFanout, sameReactions, received⟩ := Pipeline.audience_play
    (pipeline.loop.steps count).2 (pipeline.withLoop (pipeline.loop.steps count).1) carries.sinks
    carries.still
  have pictures := DecodeLoop.pictures_process running carries.serves
  have loop : (pipeline.work count).loop = (pipeline.loop.steps count).1 := rfl
  rw [stepped] at loop
  refine ⟨⟨carries.going, carries.drops, ⟨last, ?_, newest⟩, ?_, ?_, ?_, ?_, ?_, ?_, ?_⟩, ?_⟩
  · rw [Pipeline.sessions, loop]
    exact DecodeLoop.hosts_process _ hosts
  · rw [loop]
    exact (congrArg IngestQueue.receiving sameQueue).trans carries.receiving
  · rw [loop]
    exact (congrArg (fun queue => queue.senders.isEmpty) sameQueue).trans carries.sender
  · rw [loop, ← carries.sent, List.append_assoc]
    exact congrArg _ (List.take_append_drop count _)
  · rw [loop]
    exact DecodeLoop.serves_process running carries.serves
  · exact (congrArg Fanout.sinks sameFanout).trans carries.sinks
  · exact (congrFun sameReactions watch.sink).trans carries.still
  · refine received.trans ?_
    rw [stepped, pictures, History.collect_append, List.map_append]
    exact congrArg (· ++ _) carries.received
  · rw [loop]
    rfl

/-! ### The whole stream -/

inductive FeedStep
  | push (chunk : Bytes) (timestamp : Nat)
  | work (count : Nat)
  deriving DecidableEq, Repr

def FeedStep.chunk? : FeedStep → Option (Bytes × Nat)
  | push chunk timestamp => some (chunk, timestamp)
  | work _ => none

def Pipeline.feed (id : String) (pipeline : Pipeline) : FeedStep → Pipeline
  | .push chunk timestamp => (pipeline.push id chunk timestamp).1
  | .work count => pipeline.work count

private theorem Carries.feed {first : Assembler} {chunks : List (Bytes × Nat)}
    (usesEngine : first.codec.usesEngine = true) (steps : List FeedStep)
    (carries : Carries watch (first.assembleAll chunks).1 (first.assembleAll chunks).2 done
      pipeline) :
    ∃ done, Carries watch (first.assembleAll (chunks ++ steps.filterMap FeedStep.chunk?)).1
      (first.assembleAll (chunks ++ steps.filterMap FeedStep.chunk?)).2 done
      (steps.foldl (Pipeline.feed watch.id) pipeline) := by
  induction steps generalizing chunks done pipeline with
  | nil =>
      rw [List.filterMap_nil, List.append_nil]
      exact ⟨done, carries⟩
  | cons step rest ih =>
      cases step with
      | push chunk timestamp =>
          have next := ih (carries.push usesEngine (chunk, timestamp))
          rw [List.append_assoc] at next
          exact next
      | work count => exact ih (carries.work count).1

private theorem Carries.openUnits {first : Assembler} {chunks : List (Bytes × Nat)}
    (usesEngine : first.codec.usesEngine = true) (units : List Bytes)
    (carries : Carries watch (first.assembleAll chunks).1 (first.assembleAll chunks).2 done
      pipeline) :
    Carries watch (first.assembleAll (chunks ++ units.map fun unit => (unit, 0))).1
      (first.assembleAll (chunks ++ units.map fun unit => (unit, 0))).2 done
      (units.foldl (fun pipeline unit => (pipeline.ingest watch.handle watch.id unit 0).1)
        pipeline) := by
  induction units generalizing chunks pipeline with
  | nil =>
      rw [List.map_nil, List.append_nil]
      exact carries
  | cons unit rest ih =>
      have next := ih (carries.ingest_chunk usesEngine (unit, 0))
      rw [List.append_assoc] at next
      exact next

/-- Once everything is worked on, the sink has received what the stream comes to. -/
private theorem Carries.settle (carries : Carries watch assembler items done pipeline)
    (coded : ∀ item ∈ items, item.IsCoded) :
    pipeline.settle.playout.audience.received.toList =
      (shown watch.drops items).map fun picture => (watch.sink, picture) := by
  obtain ⟨last, _⟩ := carries.work (pipeline.loop.queue.pending.length + 1)
  have everything : pipeline.loop.queue.pending.take (pipeline.loop.queue.pending.length + 1) =
      pipeline.loop.queue.pending := List.take_of_length_le (Nat.le_succ _)
  have settled : pipeline.settle = pipeline.work (pipeline.loop.queue.pending.length + 1) := rfl
  rw [everything, carries.sent, ← settled] at last
  rw [last.received, pictures_ingested coded]

namespace Pipeline

def watched (config : PipelineConfig) (inlineDecoder : InlineDecoder) (sink : String)
    (wants : SinkWants) : Pipeline :=
  (start config inlineDecoder .passthrough .empty).addSink sink wants

private theorem carries_insert (config : PipelineConfig) (inlineDecoder : InlineDecoder)
    (sink : String) (wants : SinkWants) (id media : String) (assembler : Assembler) :
    Carries
      { id
        handle := ((watched config inlineDecoder sink wants).sessions.insert
          (.start id media assembler)).2
        drops := config.policy.drops true
        sink }
      (assembler.assembleAll []).1 (assembler.assembleAll []).2 []
      ((watched config inlineDecoder sink wants).withSessions
        ((watched config inlineDecoder sink wants).sessions.insert
          (.start id media assembler)).1) := by
  have hosts := SessionTable.hosts_insert (.start id media assembler)
    (watched config inlineDecoder sink wants).sessions
  exact
    { going := rfl
      drops := rfl
      hosts := ⟨none, hosts, isNewest_nil _⟩
      receiving := rfl
      sender := rfl
      sent := rfl
      serves := DecoderSlot.serves_empty rfl Engine.neverFails_passthrough
      sinks := rfl
      still := rfl
      received := rfl }

/-- A sink that watches one stream for the decode engine receives the pictures of its frames: of
every frame behind a format that could be acted on, but for those that are dropped because they come
behind a later one. Nothing is lost, repeated, moved or changed, whatever the chunks are and whenever
the decode loop gets its turns. -/
theorem sink_receives_shown (config : PipelineConfig) (inlineDecoder : InlineDecoder)
    (sink : String) (wants : SinkWants) (id media codecName description : String) {codec : Codec}
    (opens : sessionCodec media codecName = .ok codec) (usesEngine : codec.usesEngine = true)
    (steps : List FeedStep) :
    (steps.foldl (feed id) ((watched config inlineDecoder sink wants).openSession id media codecName
        description).1).settle.playout.audience.received.toList =
      (shown (config.policy.drops true)
        ((Assembler.ofCodec inlineDecoder codec).assembleAll
          (((Sdp.initialUnits codec description).map fun unit => (unit, 0)) ++
            steps.filterMap FeedStep.chunk?)).2).map fun picture => (sink, picture) := by
  have engineFirst : (Assembler.ofCodec inlineDecoder codec).codec.usesEngine = true := by
    rw [Assembler.codec_ofCodec]
    exact usesEngine
  have inserted := carries_insert config inlineDecoder sink wants id media
    (.ofCodec inlineDecoder codec)
  have opened := inserted.openUnits engineFirst (Sdp.initialUnits codec description)
  have answered : ((watched config inlineDecoder sink wants).openSession id media codecName
      description).1 =
      (Sdp.initialUnits codec description).foldl
        (fun pipeline unit =>
          (pipeline.ingest ((watched config inlineDecoder sink wants).sessions.insert
            (.start id media (.ofCodec inlineDecoder codec))).2 id unit 0).1)
        ((watched config inlineDecoder sink wants).withSessions
          ((watched config inlineDecoder sink wants).sessions.insert
            (.start id media (.ofCodec inlineDecoder codec))).1) := by
    unfold openSession
    rw [opens]
    rfl
  rw [← answered] at opened
  obtain ⟨done, fed⟩ := opened.feed engineFirst steps
  exact fed.settle (Assembler.assembleAll_of_usesEngine engineFirst _).2

/-- Parameter sets in the description, a key frame, and a frame that comes too late. -/
theorem sink_receives_key_frame :
    sessionCodec "video" "H264" = .ok .h264 ∧ Codec.h264.usesEngine = true ∧
      ([FeedStep.push [0, 0, 1, 0x65, 1] 40, .work 2, .push [0, 0, 1, 0x41, 2] 20, .work 0].foldl
        (feed "camera")
        ((watched { PipelineConfig.standard with policy := .drop } .jpeg "screen"
          .anything).openSession "camera" "video" "H264"
            "sprop-parameter-sets=Z0LAH/QCgC3I,aM4=").1).settle.playout.audience.received.toList =
        [("screen",
          { buffer := .encoded
              (framed [0x67, 0x42, 0xc0, 0x1f, 0xf4, 0x02, 0x80, 0x2d, 0xc8] ++
                framed [0x68, 0xce] ++ [0, 0, 1, 0x65, 1])
            width := 1280
            height := 720
            timestamp := 40
            captureTime := 40 })] := by
  have opens : sessionCodec "video" "H264" = .ok .h264 := by decide +kernel
  refine ⟨opens, rfl, ?_⟩
  rw [sink_receives_shown _ _ _ _ _ _ _ _ opens rfl]
  decide +kernel

end Pipeline
end VideoIngest
