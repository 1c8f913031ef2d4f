import VideoIngest.Proofs.Session.Streams

/-! What a session table knows about one stream, and the changes that leave it as it is. -/

namespace VideoIngest

namespace SessionTable

/-- The identifier leads to a session that stands at this point of its stream. -/
structure Hosts (id : String) (handle : Nat) (assembler : Assembler) (last : Option Nat)
    (table : SessionTable) : Prop where
  bound : table.handle? id = some handle
  stands : ∃ session, table.session? handle = some session ∧
    session.assembler = assembler ∧ session.lastTimestamp = last

variable {id : String} {handle : Nat} {assembler : Assembler} {last : Option Nat}
  {table : SessionTable}

theorem Hosts.replace (hosts : Hosts id handle assembler last table) (next : Session) :
    Hosts id handle next.assembler next.lastTimestamp (table.modify handle fun _ => next) := by
  obtain ⟨session, found, _, _⟩ := hosts.stands
  refine ⟨hosts.bound, next, ?_, rfl, rfl⟩
  rw [session?_modify, if_pos rfl, found, Option.map_some]

theorem Hosts.of_sameStreams {other : SessionTable}
    (hosts : Hosts id handle assembler last table) (same : table.SameStreams other) :
    Hosts id handle assembler last other := by
  obtain ⟨session, found, assembles, stands⟩ := hosts.stands
  obtain ⟨inTable, _⟩ := Array.getElem?_eq_some_iff.mp found
  obtain ⟨after, foundAfter⟩ := exists_session? (same.size.symm ▸ inTable)
  obtain ⟨before, foundBefore, sameStream⟩ := same.streams handle after foundAfter
  obtain rfl : session = before := Option.some.inj (found.symm.trans foundBefore)
  refine ⟨same.handle?_eq id ▸ hosts.bound, after, foundAfter, ?_, ?_⟩
  · rw [sameStream.1, assembles]
  · rw [sameStream.2, stands]

theorem Hosts.update {α : Type} (hosts : Hosts id handle assembler last table)
    (step : Session → Session × α) :
    ∃ session, session.assembler = assembler ∧ session.lastTimestamp = last ∧
      (table.update handle step).2 = some (step session).2 ∧
      Hosts id handle (step session).1.assembler (step session).1.lastTimestamp
        (table.update handle step).1 := by
  obtain ⟨session, found, assembles, stands⟩ := hosts.stands
  refine ⟨session, assembles, stands, ?_, ?_⟩
  · rw [update_of_session? found]
  · rw [update_of_session? found]
    exact hosts.replace (step session).1

/-- A timestamp is refused where one that is newer has been taken. -/
theorem Hosts.acceptTimestamp {regressed : Bool} (hosts : Hosts id handle assembler last table)
    (timestamp : Nat) (drops : Bool)
    (rule : (drops && last.any fun newest => decide (timestamp < newest)) = regressed) :
    (table.update handle (Session.acceptTimestamp timestamp drops)).2 = some (!regressed) ∧
      Hosts id handle assembler (if regressed then last else some timestamp)
        (table.update handle (Session.acceptTimestamp timestamp drops)).1 := by
  obtain ⟨session, rfl, rfl, result, updated⟩ :=
    hosts.update (Session.acceptTimestamp timestamp drops)
  have sameRule : (drops && session.isRegression timestamp) = regressed := by
    rw [← rule]
    unfold Session.isRegression
    cases session.lastTimestamp <;> rfl
  rw [Session.acceptTimestamp, sameRule] at result updated
  rw [result]
  cases regressed with
  | true => exact ⟨rfl, updated⟩
  | false => exact ⟨rfl, updated⟩

theorem Hosts.assemble {next : Assembler} {chunk : Bytes} {timestamp : Nat}
    {items : List MediaItem} (hosts : Hosts id handle assembler last table)
    (assembled : assembler.assemble chunk timestamp = .ok (next, items)) :
    (table.update handle (Session.assemble chunk timestamp)).2 = some (.ok items) ∧
      Hosts id handle next last (table.update handle (Session.assemble chunk timestamp)).1 := by
  obtain ⟨session, rfl, rfl, result, updated⟩ := hosts.update (Session.assemble chunk timestamp)
  rw [Session.assemble, assembled] at result updated
  exact ⟨result, updated⟩

theorem Hosts.transition (hosts : Hosts id handle assembler last table)
    (expected next : SessionState) :
    Hosts id handle assembler last
      (table.update handle (Session.transition expected next)).1 :=
  hosts.of_sameStreams
    (sameStreams_update (Session.sameStream_transition expected next) handle table)

theorem hosts_insert (session : Session) (table : SessionTable) :
    Hosts session.id (table.insert session).2 session.assembler session.lastTimestamp
      (table.insert session).1 := by
  refine ⟨?_, session, ?_, rfl, rfl⟩
  · unfold handle? insert
    rw [List.find?_append, find?_unbind, Option.none_or, List.find?_singleton,
      if_pos (beq_self_eq_true _)]
    rfl
  · unfold session? insert
    simp

theorem handle?_insert (session : Session) (table : SessionTable) :
    (table.insert session).1.handle? session.id = some table.sessions.size :=
  (hosts_insert session table).bound

end SessionTable

namespace DecodeLoop

variable {id : String} {handle : Nat} {assembler : Assembler} {last : Option Nat}

theorem hosts_process {loop : DecodeLoop} (events : List IngestEvent)
    (hosts : loop.sessions.Hosts id handle assembler last) :
    (loop.process events).1.sessions.Hosts id handle assembler last :=
  hosts.of_sameStreams (sameStreams_process events loop)

end DecodeLoop
end VideoIngest
