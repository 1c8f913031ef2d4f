import VideoIngest.Proofs.History
import VideoIngest.Proofs.Session.Answers

/-!
The last state of a session.

A stopped session stays stopped under all requests but one: a transition that expects it to be
stopped, and leads elsewhere, moves it on.
-/

namespace VideoIngest

/-- Whether the request moves a session on that has been stopped. -/
def SessionRequest.leavesStopped : SessionRequest → Bool
  | .transition .stopped next => next != .stopped
  | _ => false

def TableRequest.leavesStopped (handle : Nat) : TableRequest → Bool
  | .ask other request => other == handle && request.leavesStopped
  | _ => false

namespace Session

theorem state_answer_iff {session : Session} (stopped : session.state = .stopped)
    (request : SessionRequest) :
    (session.answer request).1.state = .stopped ↔ request.leavesStopped = false := by
  cases request with
  | setState next =>
      refine iff_of_true ?_ rfl
      simp only [answer, setState, if_pos stopped]
      exact stopped
  | transition expected next =>
      by_cases expects : expected = .stopped
      · subst expects
        simp [answer, transition, stopped, SessionRequest.leavesStopped]
      · have stays : session.state ≠ expected := stopped.trans_ne (Ne.symm expects)
        have quiet : (SessionRequest.transition expected next).leavesStopped = false := by
          cases expected with
          | stopped => exact absurd rfl expects
          | codecKnown => rfl
          | awaitingFormat => rfl
          | decoding => rfl
        refine iff_of_true ?_ quiet
        simp only [answer, transition, if_neg stays]
        exact stopped
  | acceptTimestamp timestamp drops =>
      refine iff_of_true ?_ rfl
      simp only [answer, acceptTimestamp]
      split <;> exact stopped
  | assemble chunk timestamp =>
      refine iff_of_true ?_ rfl
      simp only [answer, assemble]
      split <;> exact stopped

end Session

namespace SessionTable

def IsStopped (handle : Nat) (table : SessionTable) : Prop :=
  (table.session? handle).map Session.state = some .stopped

/-- A session is moved on by a request to the table just where the request moves it on itself. -/
private theorem any_leavesStopped_asks (handle : Nat) (table : SessionTable)
    (request : TableRequest) : (table.asks handle request).any SessionRequest.leavesStopped =
      request.leavesStopped handle := by
  cases request with
  | insert session => rfl
  | get id => rfl
  | remove id => rfl
  | state id => rfl
  | setState id next =>
      simp only [asks]
      split <;> rfl
  | stopAll =>
      simp only [asks]
      split <;> rfl
  | ask other request =>
      simp only [asks, TableRequest.leavesStopped]
      by_cases own : other = handle
      · simp [own]
      · simp [own]

theorem isStopped_answer_iff {handle : Nat} {table : SessionTable}
    (stopped : table.IsStopped handle) (request : TableRequest) :
    (table.answer request).1.IsStopped handle ↔ request.leavesStopped handle = false := by
  obtain ⟨session, found, isStopped⟩ := Option.map_eq_some_iff.mp stopped
  rw [IsStopped, session?_answer found, ← any_leavesStopped_asks handle table, Option.map_some,
    Option.some_inj]
  cases table.asks handle request with
  | none => exact iff_of_true isStopped rfl
  | some own => exact Session.state_answer_iff isStopped own

end SessionTable

/-- Whatever is asked of a stopped session, by its holder or through a table that has it: the session
is stopped after every request just where none of them is a transition that expects it to be stopped
and leads to another state. -/
theorem Session.stopped_until_moved_on (session : Session) (stopped : session.state = .stopped) :
    (∀ requests : List SessionRequest,
        History.Always (fun earlier request =>
          (session.after (earlier ++ [request])).state = .stopped) requests ↔
          ∀ request ∈ requests, request.leavesStopped = false) ∧
      ∀ (table : SessionTable) (handle : Nat), table.session? handle = some session →
        ∀ requests : List TableRequest,
          History.Always (fun earlier request =>
            (table.run (earlier ++ [request])).IsStopped handle) requests ↔
            ∀ request ∈ requests, request.leavesStopped handle = false := by
  constructor
  · exact History.always_foldl_iff (fun session : Session => session.state = .stopped) stopped
      fun _ request isStopped => state_answer_iff isStopped request
  · intro table handle found
    have begins : table.IsStopped handle := by
      rw [SessionTable.IsStopped, found, Option.map_some, stopped]
    exact History.always_foldl_iff (SessionTable.IsStopped handle) begins
      fun _ request isStopped => SessionTable.isStopped_answer_iff isStopped request

def stoppedDoor : Session := (Session.start "door" "video" .vp9).after [.setState .stopped]

def tableOfDoor : SessionTable :=
  SessionTable.empty.run [.insert (.start "door" "video" .vp9), .stopAll]

theorem stopped_door_until_moved_on :
    stoppedDoor.state = .stopped ∧ tableOfDoor.session? 0 = some stoppedDoor ∧
      History.Always (fun earlier request =>
        (stoppedDoor.after (earlier ++ [request])).state = .stopped)
          [.setState .decoding, .transition .codecKnown .awaitingFormat, .assemble [0x82] 0] ∧
      History.Always (fun earlier request =>
        (tableOfDoor.run (earlier ++ [request])).IsStopped 0)
          [.setState "door" .decoding, .remove "door", .ask 0 (.setState .awaitingFormat)] := by
  have stopped : stoppedDoor.state = .stopped := rfl
  have found : tableOfDoor.session? 0 = some stoppedDoor := rfl
  obtain ⟨alone, inTable⟩ := stoppedDoor.stopped_until_moved_on stopped
  refine ⟨stopped, found, (alone _).mpr ?_, (inTable tableOfDoor 0 found _).mpr ?_⟩
  · simp only [List.forall_mem_cons]
    exact ⟨rfl, rfl, rfl, List.forall_mem_nil _⟩
  · simp only [List.forall_mem_cons]
    exact ⟨rfl, rfl, rfl, List.forall_mem_nil _⟩

/-- A transition from the last state leads out of it. -/
theorem stopped_door_moves_on :
    stoppedDoor.state = .stopped ∧
      (stoppedDoor.after [.transition .stopped .decoding]).state = .decoding ∧
      ¬∀ (session : Session) (requests : List SessionRequest), session.state = .stopped →
        (session.after requests).state = .stopped := by
  have stopped : stoppedDoor.state = .stopped := rfl
  have moved : (stoppedDoor.after [.transition .stopped .decoding]).state = .decoding := rfl
  refine ⟨stopped, moved, ?_⟩
  intro terminal
  have stays := terminal stoppedDoor [.transition .stopped .decoding] stopped
  rw [moved] at stays
  cases stays

end VideoIngest
