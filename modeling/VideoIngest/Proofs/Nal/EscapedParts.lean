import VideoIngest.Nal.Escape

/-!
Escaped bytes read part by part: how a part is read depends on those in front of it only by the
state in which they end.
-/

namespace VideoIngest.Escape

/-- The state behind one more byte. Behind a byte that cannot be read it is of no account. -/
def State.next : State → UInt8 → State
  | clear, byte => afterKept byte
  | oneZero, byte => if byte = 0 then twoZeros else clear
  | twoZeros, byte => if byte = 3 then escaped else clear
  | escaped, byte => afterKept byte

def State.behind (state : State) (bytes : Bytes) : State := bytes.foldl State.next state

theorem removeFrom_append (front back : Bytes) (state : State) :
    removeFrom state (front ++ back) = do
      let kept ← removeFrom state front
      let more ← removeFrom (state.behind front) back
      return kept ++ more := by
  induction front generalizing state with
  | nil =>
      have nothing : removeFrom state [] = .ok [] := by cases state <;> rfl
      rw [nothing]
      change removeFrom state back = removeFrom state back >>= fun more => pure more
      cases removeFrom state back <;> rfl
  | cons byte rest ih =>
      -- A kept byte is put in front of what the rest comes to, in one part or in two.
      have kept (inner : State) : (removeFrom inner (rest ++ back)).map (byte :: ·) = do
          let kept ← (removeFrom inner rest).map (byte :: ·)
          let more ← removeFrom (inner.behind rest) back
          return kept ++ more := by
        rw [ih]
        cases removeFrom inner rest with
        | error cause => rfl
        | ok front =>
            change Except.map _ (removeFrom (inner.behind rest) back >>= _) =
              removeFrom (inner.behind rest) back >>= _
            cases removeFrom (inner.behind rest) back <;> rfl
      cases state with
      | clear => exact kept _
      | oneZero => exact kept _
      | twoZeros =>
          by_cases three : byte = 3
          · subst three
            exact ih .escaped
          · by_cases zero : byte = 0
            · subst zero
              rfl
            · have state : State.next .twoZeros byte = .clear := if_neg three
              simp only [List.cons_append, removeFrom, three, zero, if_false, State.behind,
                List.foldl_cons, state]
              exact kept _
      | escaped =>
          by_cases low : byte ≤ 3
          · simp only [List.cons_append, removeFrom, low, if_true]
            exact kept _
          · simp only [List.cons_append, removeFrom, low, if_false]
            rfl

/-- The front of bytes that can be read can be read, to the front of what they come to. -/
theorem exists_remove_of_append {front back payload : Bytes}
    (removed : remove (front ++ back) = .ok payload) :
    ∃ kept more, remove front = .ok kept ∧ payload = kept ++ more := by
  unfold remove at removed ⊢
  rw [removeFrom_append] at removed
  cases first : removeFrom .clear front with
  | error cause =>
      rw [first] at removed
      cases removed
  | ok kept =>
      rw [first] at removed
      cases second : removeFrom (State.clear.behind front) back with
      | error cause =>
          rw [second] at removed
          cases removed
      | ok more =>
          rw [second] at removed
          exact ⟨kept, more, rfl, (Except.ok.inj removed).symm⟩

end VideoIngest.Escape
