import VideoIngest.Proofs.Assembler.Items
import VideoIngest.Proofs.DecodeLoop.States
import VideoIngest.Proofs.Pipeline.SharedDecoder

/-!
A pipeline that attends to one identifier, with codecs for the decode engine.

The decoder outlives the sessions: one that is opened again under the same identifier may find the
decoder of the session before it. So its state is set against its own announcements, not against
all of them.
-/

namespace VideoIngest

/-! ### Taking in chunks -/

namespace DecodeLoop

/-- Neither the decoder nor the sessions have changed. -/
structure SameStates (loop other : DecodeLoop) : Prop where
  slot : other.slot = loop.slot
  sessions : loop.sessions.SameStates other.sessions

variable {loop other : DecodeLoop}

theorem SameStates.refl (loop : DecodeLoop) : loop.SameStates loop := ⟨rfl, .refl _⟩

theorem SameStates.trans {last : DecodeLoop} (before : loop.SameStates other)
    (behind : other.SameStates last) : loop.SameStates last :=
  ⟨behind.slot.trans before.slot, before.sessions.trans behind.sessions⟩

end DecodeLoop

namespace Pipeline

variable {pipeline : Pipeline}

private theorem sameStates_send (event : IngestEvent) (pipeline : Pipeline) :
    pipeline.loop.SameStates (pipeline.send event).1.loop := ⟨rfl, .refl _⟩

theorem sameStates_ingestFrame (handle : Nat) (frame : CodedFrame) (pipeline : Pipeline) :
    pipeline.loop.SameStates (pipeline.ingestFrame handle frame).1.loop := by
  have keeps : ∀ session : Session,
      (session.acceptTimestamp frame.timestamp pipeline.dropsRegressed).1.standing =
        session.standing := by
    intro session
    unfold Session.acceptTimestamp
    split <;> rfl
  have accepts := SessionTable.sameStates_update keeps handle pipeline.sessions
  unfold ingestFrame
  cases updated : pipeline.sessions.update handle
      (Session.acceptTimestamp frame.timestamp pipeline.dropsRegressed) with
  | mk sessions accepted =>
      rw [updated] at accepts
      have taken : pipeline.loop.SameStates (pipeline.withSessions sessions).loop := ⟨rfl, accepts⟩
      dsimp only
      split
      · have sent := sameStates_send (.frame frame) (pipeline.withSessions sessions)
        cases outcome : (pipeline.withSessions sessions).send (.frame frame) with
        | mk next result =>
            rw [outcome] at sent
            cases result with
            | error failure => exact taken.trans sent
            | ok done => exact taken.trans sent
      · exact taken

private theorem sameStates_ingestItems (handle : Nat) (id : String) {items : List MediaItem}
    (coded : ∀ item ∈ items, item.IsCoded) (pipeline : Pipeline) :
    pipeline.loop.SameStates (pipeline.ingestItems handle id items).1.loop := by
  induction items generalizing pipeline with
  | nil => exact .refl _
  | cons item rest ih =>
      have first : pipeline.loop.SameStates (pipeline.ingestItem handle id item).1.loop := by
        cases item with
        | format announced => exact sameStates_send _ pipeline
        | frame frame => exact sameStates_ingestFrame handle frame pipeline
        | picture picture => exact absurd (coded _ List.mem_cons_self) not_false
      have codedRest : ∀ other ∈ rest, other.IsCoded := fun other member =>
        coded other (List.mem_cons_of_mem _ member)
      unfold ingestItems
      cases outcome : pipeline.ingestItem handle id item with
      | mk next result =>
          rw [outcome] at first
          cases result with
          | error failure => exact first
          | ok done => exact first.trans (ih codedRest next)

/-- A chunk for the decode engine changes nothing at once but the queue. -/
private theorem sameStates_ingest {handle : Nat} {codec : Codec}
    (bound : pipeline.sessions.codec? handle = some codec) (usesEngine : codec.usesEngine = true)
    (id : String) (chunk : Bytes) (timestamp : Nat) :
    pipeline.loop.SameStates (pipeline.ingest handle id chunk timestamp).1.loop := by
  obtain ⟨session, found, rfl⟩ := Option.map_eq_some_iff.mp bound
  obtain ⟨next, items, assembled, sameCodec, coded⟩ :=
    Assembler.assemble_of_usesEngine usesEngine chunk timestamp
  have advanced : pipeline.loop.SameStates (pipeline.withSessions
      (pipeline.sessions.modify handle fun _ => { session with assembler := next })).loop := by
    refine ⟨rfl, SessionTable.sameStates_modify ?_⟩
    intro before foundBefore
    obtain rfl := Option.some.inj (found.symm.trans foundBefore)
    exact congrArg (fun codec => (codec, session.state)) sameCodec
  rw [ingest_of_session? found, assembled]
  exact advanced.trans (sameStates_ingestItems handle id coded _)

/-! ### What is known at any time -/

/-- All items are of sessions under this identifier, their formats are in the codecs of the sessions,
and all of these codecs are for the decode engine. -/
structure AreOf (id : String) (sessions : SessionTable) (emissions : List Emission) : Prop where
  ids : ∀ emission ∈ emissions, emission.id = id
  codecs : ∀ emission ∈ emissions, ∀ format, emission.item = .format format →
    sessions.codec? emission.handle = some format.codec
  usesEngine : ∀ handle codec, sessions.codec? handle = some codec → codec.usesEngine = true

/-- What is known when `old` items have been worked on and `new` ones, all of the present session,
are on their way. -/
structure AttendsTo (id : String) (old new : List Emission) (loop : DecodeLoop) : Prop where
  areOf : AreOf id loop.sessions (old ++ new)
  present : ∀ emission ∈ new, loop.sessions.handle? id = some emission.handle
  shows : ∀ handle, loop.sessions.handle? id = some handle →
    loop.Shows id handle (ownFormat old handle).isSome
  own : ∀ handle, loop.sessions.handle? id = some handle → ∀ format,
    ownFormat old handle = some format → sharedFormat old handle = some format

variable {id : String} {emissions old new : List Emission} {sessions others : SessionTable}
  {loop : DecodeLoop}

theorem AreOf.sameCodecs (areOf : AreOf id sessions emissions)
    (same : ∀ handle, others.codec? handle = sessions.codec? handle) :
    AreOf id others emissions := by
  refine ⟨areOf.ids, ?_, ?_⟩
  · intro emission member format item
    rw [same]
    exact areOf.codecs emission member format item
  · intro handle codec found
    rw [same] at found
    exact areOf.usesEngine handle codec found

private theorem AreOf.append {further : List Emission} (areOf : AreOf id sessions emissions)
    (ids : ∀ emission ∈ further, emission.id = id)
    (codecs : ∀ emission ∈ further, ∀ format, emission.item = .format format →
      sessions.codec? emission.handle = some format.codec) :
    AreOf id sessions (emissions ++ further) := by
  refine ⟨?_, ?_, areOf.usesEngine⟩
  · intro emission member
    rcases List.mem_append.mp member with before | after
    · exact areOf.ids emission before
    · exact ids emission after
  · intro emission member
    rcases List.mem_append.mp member with before | after
    · exact areOf.codecs emission before
    · exact codecs emission after

theorem AttendsTo.sameStates {other : DecodeLoop} (attends : AttendsTo id old new loop)
    (same : loop.SameStates other) : AttendsTo id old new other where
  areOf := attends.areOf.sameCodecs same.sessions.codec?_eq
  present := by
    intro emission member
    rw [same.sessions.handle?_eq]
    exact attends.present emission member
  shows := by
    intro handle bound
    rw [same.sessions.handle?_eq] at bound
    unfold DecodeLoop.Shows
    rw [same.slot]
    exact (attends.shows handle bound).sameStates same.sessions
  own := by
    intro handle bound
    rw [same.sessions.handle?_eq] at bound
    exact attends.own handle bound

/-! ### Taking in chunks of the present session -/

private theorem returned_spec {handle : Nat} {chunk : Bytes} {timestamp : Nat} {emission : Emission}
    (member : emission ∈ pipeline.returned handle id chunk timestamp) :
    emission.id = id ∧ emission.handle = handle ∧
      ∀ format, emission.item = .format format →
        pipeline.sessions.codec? handle = some format.codec := by
  cases found : pipeline.sessions.session? handle with
  | none =>
      rw [returned, found] at member
      cases member
  | some session =>
      rw [returned_of_session? found] at member
      cases assembled : session.assembler.assemble chunk timestamp with
      | error refusal =>
          rw [assembled] at member
          cases member
      | ok outcome =>
          obtain ⟨next, items⟩ := outcome
          rw [assembled] at member
          obtain ⟨item, inItems, rfl⟩ := List.mem_map.mp member
          refine ⟨rfl, rfl, ?_⟩
          rintro format rfl
          unfold SessionTable.codec?
          rw [found, Assembler.codec_of_format_mem assembled inItems]
          rfl

private theorem AttendsTo.ingest {handle : Nat} (attends : AttendsTo id old new pipeline.loop)
    (bound : pipeline.sessions.handle? id = some handle) (chunk : Bytes) (timestamp : Nat) :
    AttendsTo id old (new ++ pipeline.returned handle id chunk timestamp)
        (pipeline.ingest handle id chunk timestamp).1.loop ∧
      (pipeline.ingest handle id chunk timestamp).1.sessions.handle? id = some handle := by
  obtain ⟨session, found, _⟩ := (attends.shows handle bound).state
  have codec : pipeline.sessions.codec? handle = some session.codec := by
    unfold SessionTable.codec?
    rw [show pipeline.sessions.session? handle = some session from found]
    rfl
  have same := sameStates_ingest codec (attends.areOf.usesEngine handle _ codec) id chunk timestamp
  have emitted : AttendsTo id old (new ++ pipeline.returned handle id chunk timestamp)
      pipeline.loop := by
    refine ⟨?_, ?_, attends.shows, attends.own⟩
    · rw [← List.append_assoc]
      apply attends.areOf.append
      · intro emission member
        exact (returned_spec member).1
      · intro emission member
        rw [(returned_spec member).2.1]
        exact (returned_spec member).2.2
    · intro emission member
      rcases List.mem_append.mp member with before | after
      · exact attends.present emission before
      · rw [(returned_spec after).2.1]
        exact bound
  exact ⟨emitted.sameStates same, (same.sessions.handle?_eq id).trans bound⟩

private theorem AttendsTo.ingestUnits {handle : Nat} (attends : AttendsTo id old new pipeline.loop)
    (bound : pipeline.sessions.handle? id = some handle) (units : List Bytes) :
    AttendsTo id old (new ++ unitEmissions handle id pipeline units)
      (units.foldl (fun pipeline unit => (pipeline.ingest handle id unit 0).1) pipeline).loop := by
  induction units generalizing pipeline new with
  | nil =>
      rw [unitEmissions, List.append_nil]
      exact attends
  | cons unit rest ih =>
      obtain ⟨taken, stillBound⟩ := attends.ingest bound unit 0
      rw [unitEmissions, ← List.append_assoc]
      exact ih taken stillBound

/-! ### Requests -/

/-- The request is for a session under this identifier and for a codec of the decode engine, or for
a sink. -/
def Request.IsFor (id : String) : Request → Prop
  | openSession other _ codecName _ => other = id ∧ Codec.ofName? codecName ≠ some .jpeg
  | newSession other _ codecName _ => other = id ∧ Codec.ofName? codecName ≠ some .jpeg
  | push other _ _ => other = id
  | data other _ _ => other = id
  | closeSession other => other = id
  | addSink _ _ => True
  | removeSink _ => True
  | stop => False

instance (id : String) : (request : Request) → Decidable (request.IsFor id)
  | .openSession _ _ _ _ => inferInstanceAs (Decidable (_ ∧ _))
  | .newSession _ _ _ _ => inferInstanceAs (Decidable (_ ∧ _))
  | .push _ _ _ => inferInstanceAs (Decidable (_ = _))
  | .data _ _ _ => inferInstanceAs (Decidable (_ = _))
  | .closeSession _ => inferInstanceAs (Decidable (_ = _))
  | .addSink _ _ => inferInstanceAs (Decidable True)
  | .removeSink _ => inferInstanceAs (Decidable True)
  | .stop => inferInstanceAs (Decidable False)

/-- With its first chunk a session begins to wait for a format. -/
private theorem AttendsTo.touched {handle : Nat} (attends : AttendsTo id old [] pipeline.loop)
    (bound : pipeline.sessions.handle? id = some handle) :
    AttendsTo id old [] (pipeline.touched handle).loop ∧
      (pipeline.touched handle).sessions.handle? id = some handle := by
  have streams := sameStreams_touched handle pipeline
  refine ⟨⟨attends.areOf.sameCodecs streams.codec?_eq, List.forall_mem_nil _, ?_, ?_⟩,
    (streams.handle?_eq id).trans bound⟩
  · intro other boundOther
    have sameHandle := (streams.handle?_eq id).symm.trans boundOther
    obtain rfl := Option.some.inj (bound.symm.trans sameHandle)
    exact (attends.shows handle bound).transition
  · intro other boundOther
    exact attends.own other ((streams.handle?_eq id).symm.trans boundOther)

private theorem AttendsTo.push (attends : AttendsTo id old [] pipeline.loop) (chunk : Bytes)
    (timestamp : Nat) :
    AttendsTo id old (pipeline.chunkEmissions id chunk timestamp)
      (pipeline.push id chunk timestamp).1.loop := by
  unfold Pipeline.push chunkEmissions
  cases pipeline.isStopped with
  | true => exact attends
  | false =>
      rw [if_neg Bool.false_ne_true, if_neg Bool.false_ne_true]
      cases bound : pipeline.sessions.handle? id with
      | none => exact attends
      | some handle =>
          obtain ⟨moved, stillBound⟩ := attends.touched bound
          have taken := moved.ingest stillBound chunk timestamp
          rw [returned_touched] at taken
          exact taken.1

private theorem loop_onData (chunk : Bytes) (time : PresentationTime) (pipeline : Pipeline) :
    (pipeline.onData id chunk time).1.loop = (pipeline.push id chunk time.toMillis).1.loop := by
  rw [onData_fst]
  split <;> rfl

private theorem usesEngine_of_sessionCodec {media codecName : String} {codec : Codec}
    (known : sessionCodec media codecName = .ok codec)
    (notInline : Codec.ofName? codecName ≠ some .jpeg) : codec.usesEngine = true := by
  unfold sessionCodec at known
  split at known
  · cases named : Codec.ofName? codecName with
    | none =>
        rw [named] at known
        cases known
    | some found =>
        rw [named] at known
        obtain rfl := Except.ok.inj known
        rw [named] at notInline
        cases found with
        | jpeg => exact absurd rfl notInline
        | _ => rfl
  · cases known

/-- A session that begins has announced nothing, whatever was announced before it. -/
private theorem AttendsTo.insert {session : Session}
    (attends : AttendsTo session.id old [] pipeline.loop)
    (handles : ∀ emission ∈ old, emission.handle < pipeline.sessions.sessions.size)
    (usesEngine : session.codec.usesEngine = true) (fresh : session.state = .codecKnown) :
    AttendsTo session.id old []
      (pipeline.withSessions (pipeline.sessions.insert session).1).loop := by
  have opened := SessionTable.hosts_insert session pipeline.sessions
  have silent : ownFormat old (pipeline.sessions.insert session).2 = none := by
    unfold ownFormat
    rw [show itemsOf (pipeline.sessions.insert session).2 old = [] from itemsOf_eq_nil handles]
    rfl
  refine ⟨⟨attends.areOf.ids, ?_, ?_⟩, List.forall_mem_nil _, ?_, ?_⟩
  · intro emission member format item
    have before := handles emission (List.append_nil old ▸ member)
    exact ((SessionTable.codec?_insert ..).trans (if_neg (Nat.ne_of_lt before))).trans
      (attends.areOf.codecs emission member format item)
  · intro handle codec found
    have inserted := (SessionTable.codec?_insert ..).symm.trans found
    by_cases new : handle = pipeline.sessions.sessions.size
    · rw [if_pos new] at inserted
      obtain rfl := Option.some.inj inserted
      exact usesEngine
    · rw [if_neg new] at inserted
      exact attends.areOf.usesEngine handle codec inserted
  · intro handle bound
    obtain rfl := Option.some.inj (bound.symm.trans opened.bound)
    refine ⟨opened.bound, session, (SessionTable.session?_insert ..).trans (if_pos rfl), ?_⟩
    rw [silent, fresh]
    rfl
  · intro handle bound format announced
    obtain rfl := Option.some.inj (bound.symm.trans opened.bound)
    rw [silent] at announced
    cases announced

private theorem AttendsTo.openSession (attends : AttendsTo id old [] pipeline.loop)
    (handles : ∀ emission ∈ old, emission.handle < pipeline.sessions.sessions.size)
    (media : String) {codecName : String} (notInline : Codec.ofName? codecName ≠ some .jpeg)
    (description : String) :
    AttendsTo id old (pipeline.openingEmissions id media codecName description)
      (pipeline.openSession id media codecName description).1.loop := by
  unfold Pipeline.openSession openingEmissions
  cases pipeline.isStopped with
  | true => exact attends
  | false =>
      rw [if_neg Bool.false_ne_true, if_neg Bool.false_ne_true]
      cases known : sessionCodec media codecName with
      | error refusal => exact attends
      | ok codec =>
          have usesEngine : (Session.start id media
              (.ofCodec pipeline.inlineDecoder codec)).codec.usesEngine = true := by
            rw [Session.codec, Session.start, Assembler.codec_ofCodec]
            exact usesEngine_of_sessionCodec known notInline
          have inserted : AttendsTo id old [] (pipeline.withSessions (pipeline.sessions.insert
              (.start id media (.ofCodec pipeline.inlineDecoder codec))).1).loop :=
            attends.insert handles usesEngine rfl
          exact inserted.ingestUnits (SessionTable.hosts_insert _ _).bound _

/-- As long as the identifier leads to no session there is little to know. -/
private theorem attendsTo_of_unbound (areOf : AreOf id loop.sessions old)
    (unbound : loop.sessions.handle? id = none) : AttendsTo id old [] loop := by
  refine ⟨?_, List.forall_mem_nil _, ?_, ?_⟩
  · rw [List.append_nil]
    exact areOf
  · intro handle bound
    cases unbound.symm.trans bound
  · intro handle bound
    cases unbound.symm.trans bound

theorem attendsTo_empty (empty : loop.sessions = .empty) : AttendsTo id [] [] loop := by
  apply attendsTo_of_unbound
  · refine ⟨List.forall_mem_nil _, List.forall_mem_nil _, ?_⟩
    intro handle codec found
    have absent : SessionTable.empty.session? handle = none := Array.getElem?_empty
    rw [empty, SessionTable.codec?, absent] at found
    cases found
  · rw [empty]
    rfl

private theorem AttendsTo.closeSession (attends : AttendsTo id old [] pipeline.loop) :
    AttendsTo id old [] (pipeline.closeSession id).loop := by
  have areOf := attends.areOf
  rw [List.append_nil] at areOf
  exact attendsTo_of_unbound ⟨areOf.ids, areOf.codecs, areOf.usesEngine⟩
    (SessionTable.handle?_remove id pipeline.sessions)

theorem AttendsTo.answer (attends : AttendsTo id old [] pipeline.loop)
    (handles : ∀ emission ∈ old, emission.handle < pipeline.sessions.sessions.size)
    {request : Request} (isFor : request.IsFor id) :
    AttendsTo id old (pipeline.emitted (.request request)) (pipeline.answer request).1.loop := by
  cases request with
  | openSession other media codecName description =>
      obtain ⟨rfl, notInline⟩ := isFor
      exact attends.openSession handles media notInline description
  | newSession other media codecName description =>
      obtain ⟨rfl, notInline⟩ := isFor
      exact attends.openSession handles media notInline description
  | push other chunk timestamp =>
      obtain rfl : other = id := isFor
      exact attends.push chunk timestamp
  | data other chunk time =>
      obtain rfl : other = id := isFor
      change AttendsTo _ _ _ (pipeline.onData other chunk time).1.loop
      rw [loop_onData]
      exact attends.push chunk time.toMillis
  | closeSession other =>
      obtain rfl : other = id := isFor
      exact attends.closeSession
  | addSink sink wants => exact attends
  | removeSink sink => exact attends
  | stop => exact absurd isFor not_false

/-! ### Working on what is on its way -/

private theorem isUnder_sentFor {drops : Bool} {emissions : List Emission}
    (ids : ∀ emission ∈ emissions, emission.id = id) :
    ∀ event ∈ sentFor drops emissions, event.IsUnder id := by
  induction emissions using List.reverseRecOn with
  | nil =>
      intro event member
      cases member
  | append_singleton emissions emission ih =>
      intro event member
      rw [sentFor_append_singleton] at member
      rcases List.mem_append.mp member with before | last
      · exact ih (fun other inside => ids other (List.mem_append_left _ inside)) event before
      · have own := ids emission (List.mem_append_right _ List.mem_cons_self)
        unfold Emission.event? at last
        cases item : emission.item with
        | format announced =>
            rw [item] at last
            obtain rfl := Option.some.inj (Option.mem_toList.mp last)
            exact own
        | frame coded =>
            rw [item, MediaItem.event?] at last
            split at last
            · cases last
            · obtain rfl := Option.some.inj (Option.mem_toList.mp last)
              trivial
        | picture picture =>
            rw [item] at last
            cases last

theorem sharedFormat_append (handle : Nat) (front back : List Emission) :
    sharedFormat (front ++ back) handle =
      (History.latest? (fun emission => emission.item.actionable?) back).or
        (sharedFormat front handle) :=
  History.latest?_append _ _ _

/-- Where all further items are of one session, they are its own announcements. -/
theorem ownFormat_append {handle : Nat} (front : List Emission) {back : List Emission}
    (own : ∀ emission ∈ back, emission.handle = handle) :
    ownFormat (front ++ back) handle =
      (History.latest? (fun emission => emission.item.actionable?) back).or
        (ownFormat front handle) := by
  have all : itemsOf handle (front ++ back) = itemsOf handle front ++ back.map Emission.item := by
    unfold itemsOf
    rw [List.filter_append, List.map_append,
      List.filter_eq_self.mpr (fun emission member => decide_eq_true (own emission member))]
  unfold ownFormat
  rw [all, History.latest?_append]
  unfold History.latest?
  rw [List.filterMap_map]
  rfl

/-- The events on their way are those of the new items, and once they have been worked on the new
items are old. -/
theorem AttendsTo.process {drops : Bool} {events : List IngestEvent}
    (attends : AttendsTo id old new loop)
    (sent : sentFor drops old ++ events = sentFor drops (old ++ new)) :
    AttendsTo id (old ++ new) [] (loop.process events).1 := by
  have onTheirWay : events =
      History.collect (fun before => Emission.event? drops (old ++ before)) new := by
    unfold sentFor at sent
    rw [History.collect_append] at sent
    exact List.append_cancel_left sent
  have isUnder : ∀ event ∈ events, event.IsUnder id := by
    intro event member
    apply isUnder_sentFor attends.areOf.ids event
    rw [← sent]
    exact List.mem_append_right _ member
  have announced : lastActionable events =
      History.latest? (fun emission => emission.item.actionable?) new := by
    rw [onTheirWay, lastActionable_collect]
  have streams := DecodeLoop.sameStreams_process events loop
  have presentOnly : ∀ handle, loop.sessions.handle? id = some handle →
      ∀ emission ∈ new, emission.handle = handle := by
    intro handle bound emission member
    exact Option.some.inj ((attends.present emission member).symm.trans bound)
  refine ⟨?_, List.forall_mem_nil _, ?_, ?_⟩
  · rw [List.append_nil]
    exact attends.areOf.sameCodecs streams.codec?_eq
  · intro handle bound
    have boundBefore := (streams.handle?_eq id).symm.trans bound
    rw [ownFormat_append old (presentOnly handle boundBefore), Option.isSome_or, ← announced]
    exact (attends.shows handle boundBefore).process isUnder
  · intro handle bound format
    have boundBefore := (streams.handle?_eq id).symm.trans bound
    rw [ownFormat_append old (presentOnly handle boundBefore), sharedFormat_append]
    cases History.latest? (fun emission => emission.item.actionable?) new with
    | none => exact attends.own handle boundBefore format
    | some latest =>
        intro announces
        exact announces

end Pipeline
end VideoIngest
