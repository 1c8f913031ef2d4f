import VideoIngest.Pipeline
import VideoIngest.Proofs.Session.Hosts

/-! What is taken in leaves the bindings of the identifiers as they are; to open a session binds its
identifier. A chunk goes to the session that its identifier is bound to. -/

namespace VideoIngest

namespace Pipeline

variable {pipeline : Pipeline}

theorem bindings_send (event : IngestEvent) (pipeline : Pipeline) :
    (pipeline.send event).1.sessions.bindings = pipeline.sessions.bindings := rfl

theorem bindings_ingestItem (handle : Nat) (id : String) (item : MediaItem) (pipeline : Pipeline) :
    (pipeline.ingestItem handle id item).1.sessions.bindings = pipeline.sessions.bindings := by
  cases item with
  | format announced => rfl
  | picture picture => rfl
  | frame coded =>
      have updated := SessionTable.bindings_update handle
        (Session.acceptTimestamp coded.timestamp pipeline.dropsRegressed) pipeline.sessions
      rw [ingestItem, ingestFrame]
      dsimp only
      split
      · cases sent : send (.frame coded) (pipeline.withSessions _) with
        | mk next result =>
            have same := bindings_send (.frame coded) (pipeline.withSessions (pipeline.sessions.update
              handle (Session.acceptTimestamp coded.timestamp pipeline.dropsRegressed)).1)
            rw [sent] at same
            cases result with
            | ok done => exact same.trans updated
            | error failure => exact same.trans updated
      · exact updated

private theorem bindings_ingestItems (handle : Nat) (id : String) (items : List MediaItem)
    (pipeline : Pipeline) :
    (pipeline.ingestItems handle id items).1.sessions.bindings = pipeline.sessions.bindings := by
  induction items generalizing pipeline with
  | nil => rfl
  | cons item rest ih =>
      have first := bindings_ingestItem handle id item pipeline
      rw [ingestItems]
      cases taken : pipeline.ingestItem handle id item with
      | mk next result =>
          rw [taken] at first
          cases result with
          | ok done => exact (ih next).trans first
          | error failure => exact first

theorem bindings_ingest (handle : Nat) (id : String) (chunk : Bytes) (timestamp : Nat)
    (pipeline : Pipeline) :
    (pipeline.ingest handle id chunk timestamp).1.sessions.bindings = pipeline.sessions.bindings := by
  have updated := SessionTable.bindings_update handle (Session.assemble chunk timestamp)
    pipeline.sessions
  rw [ingest]
  cases assembled : pipeline.sessions.update handle (Session.assemble chunk timestamp) with
  | mk sessions outcome =>
      rw [assembled] at updated
      rcases outcome with _ | refusal | items
      · rfl
      · rfl
      · exact (bindings_ingestItems handle id items _).trans updated

private theorem bindings_ingestUnits (handle : Nat) (id : String) (units : List Bytes)
    (pipeline : Pipeline) :
    (units.foldl (fun pipeline unit => (pipeline.ingest handle id unit 0).1)
      pipeline).sessions.bindings = pipeline.sessions.bindings := by
  induction units generalizing pipeline with
  | nil => rfl
  | cons unit rest ih => exact (ih _).trans (bindings_ingest handle id unit 0 pipeline)

theorem handle?_openSession {id media codecName description : String}
    (opened : (pipeline.openSession id media codecName description).2 = .ok ()) :
    (pipeline.openSession id media codecName description).1.sessions.handle? id =
      some pipeline.sessions.sessions.size := by
  unfold openSession at opened ⊢
  split
  · rename_i isStopped
    rw [if_pos isStopped] at opened
    cases opened
  · rename_i going
    rw [if_neg going] at opened
    cases known : sessionCodec media codecName with
    | error refusal =>
        rw [known] at opened
        cases opened
    | ok codec =>
        have inserted := SessionTable.handle?_insert
          (.start id media (.ofCodec pipeline.inlineDecoder codec)) pipeline.sessions
        rw [← inserted]
        unfold SessionTable.handle?
        dsimp only
        rw [bindings_ingestUnits]
        rfl

/-! ### The session of a chunk -/

variable {handle : Nat} {session : Session}

def touched (handle : Nat) (pipeline : Pipeline) : Pipeline :=
  pipeline.withSessions
    (pipeline.sessions.update handle (Session.transition .codecKnown .awaitingFormat)).1

theorem push_of_handle?_eq_some (going : pipeline.isStopped = false) {id : String}
    (bound : pipeline.sessions.handle? id = some handle) (chunk : Bytes) (timestamp : Nat) :
    pipeline.push id chunk timestamp =
      (pipeline.touched handle).ingest handle id chunk timestamp := by
  unfold push
  rw [going, if_neg Bool.false_ne_true, bound]
  rfl

theorem sameStreams_touched (handle : Nat) (pipeline : Pipeline) :
    pipeline.sessions.SameStreams (pipeline.touched handle).sessions :=
  SessionTable.sameStreams_update (Session.sameStream_transition .codecKnown .awaitingFormat) handle
    pipeline.sessions

theorem session?_touched (found : pipeline.sessions.session? handle = some session) :
    (pipeline.touched handle).sessions.session? handle =
      some (session.transition .codecKnown .awaitingFormat).1 :=
  SessionTable.session?_update found _

theorem touched_of_no_session (absent : pipeline.sessions.session? handle = none) :
    pipeline.touched handle = pipeline := by
  unfold touched SessionTable.update
  rw [absent]
  rfl

end Pipeline

end VideoIngest
