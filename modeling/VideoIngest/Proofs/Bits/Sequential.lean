import VideoIngest.Proofs.Bits.Gives

/-!
Readers that take one bit after another and look at none behind those.

What such a reader returns does not depend on what follows. Nor does a failure, unless the reader
ran out of bits: then more of them may come to anything.
-/

namespace VideoIngest

def ReadError.EndsData (cause : ReadError) : Prop := ∃ element, cause = .endOfData element

theorem Bits.ofBytes_append (front back : Bytes) :
    ofBytes (front ++ back) = ofBytes front ++ ofBytes back :=
  List.flatMap_append

/-- The zeros in front of a one bit, and the bits behind it, are all the bits there are. -/
private theorem Bits.eq_of_leadingZeros? {bits rest : List Bool} {zeros : Nat}
    (found : leadingZeros? bits = some (zeros, rest)) :
    bits = List.replicate zeros false ++ true :: rest := by
  induction bits generalizing zeros with
  | nil => cases found
  | cons bit more ih =>
      cases bit with
      | true =>
          obtain ⟨rfl, rfl⟩ := Prod.mk.inj (Option.some.inj found)
          rfl
      | false =>
          cases tail : leadingZeros? more with
          | none => simp [leadingZeros?, tail] at found
          | some inner =>
              simp only [leadingZeros?, tail, Option.map_some, Option.some.injEq,
                Prod.mk.injEq] at found
              obtain ⟨rfl, rfl⟩ := found
              rw [ih tail]
              rfl

namespace BitReader

variable {ε ε' α β : Type} {short : ε → Prop} {reader : BitReader ε α} {next : α → BitReader ε β}

/-- A value rests on the bits that were taken for it, and on no others. A failure stays whatever
follows, except for those that `short` names, which are for want of bits. -/
structure Sequential (short : ε → Prop) (reader : BitReader ε α) : Prop where
  takes : ∀ {bits value rest}, reader bits = .ok (value, rest) →
    ∃ taken, bits = taken ++ rest ∧ reader.Gives taken (.ok value)
  fails : ∀ {bits cause}, reader bits = .error cause →
    short cause ∨ reader.Gives bits (.error cause)

/-! ### Composition -/

theorem sequential_pure (value : α) : (pure value : BitReader ε α).Sequential short where
  takes := by
    intro bits found rest read
    obtain ⟨rfl, rfl⟩ := Prod.mk.inj (Except.ok.inj read)
    exact ⟨[], rfl, gives_pure value⟩
  fails := by
    intro bits cause read
    cases read

theorem sequential_throw (cause : ε) : (throw cause : BitReader ε α).Sequential short where
  takes := by
    intro bits found rest read
    cases read
  fails := by
    intro bits other read
    obtain rfl := Except.error.inj read
    exact .inr (gives_throw cause)

/-- What is computed without a look at the bits. -/
theorem sequential_liftM (outcome : Except ε α) :
    (liftM outcome : BitReader ε α).Sequential short := by
  cases outcome with
  | error cause => exact sequential_throw cause
  | ok value => exact sequential_pure value

theorem Sequential.bind (first : reader.Sequential short)
    (second : ∀ value, (next value).Sequential short) : (reader >>= next).Sequential short := by
  constructor
  · intro bits value rest readBoth
    obtain ⟨found, middle, outcome, read⟩ := bind_eq_ok_iff.mp readBoth
    obtain ⟨taken, rfl, gives⟩ := first.takes outcome
    obtain ⟨more, split, givesMore⟩ := (second found).takes read
    refine ⟨taken ++ more, ?_, gives.bind givesMore⟩
    rw [split, List.append_assoc]
  · intro bits cause failedBoth
    rcases bind_eq_error_iff.mp failedBoth with failed | ⟨found, middle, outcome, read⟩
    · rcases first.fails failed with isShort | gives
      · exact .inl isShort
      · have failed := @Gives.bind_error _ _ _ _ next _ [] _ gives
        rw [List.append_nil] at failed
        exact .inr failed
    · obtain ⟨taken, rfl, gives⟩ := first.takes outcome
      rcases (second found).fails read with isShort | givesMore
      · exact .inl isShort
      · exact .inr (gives.bind givesMore)

theorem Sequential.ite {condition : Prop} [Decidable condition] {other : BitReader ε α}
    (first : reader.Sequential short) (second : other.Sequential short) :
    (if condition then reader else other).Sequential short := by
  split
  · exact first
  · exact second

theorem Sequential.ite_bind {condition : Prop} [Decidable condition] {other : BitReader ε α}
    (first : (if condition then reader else other).Sequential short)
    (second : ∀ value, (next value).Sequential short) :
    (if condition then reader >>= next else other >>= next).Sequential short := by
  rw [BitReader.ite_bind]
  exact first.bind second

theorem Sequential.mapError {short' : ε' → Prop} {wrap : ε → ε'} (sequential : reader.Sequential short)
    (wraps : ∀ cause, short cause → short' (wrap cause)) :
    (reader.mapError wrap).Sequential short' := by
  constructor
  · intro bits value rest read
    cases outcome : reader bits with
    | error cause =>
        rw [BitReader.mapError, outcome] at read
        cases read
    | ok found =>
        rw [BitReader.mapError, outcome] at read
        obtain rfl := Except.ok.inj read
        obtain ⟨taken, split, gives⟩ := sequential.takes outcome
        exact ⟨taken, split, gives.mapError wrap⟩
  · intro bits cause read
    cases outcome : reader bits with
    | ok found =>
        rw [BitReader.mapError, outcome] at read
        cases read
    | error inner =>
        rw [BitReader.mapError, outcome] at read
        obtain rfl := Except.error.inj read
        rcases sequential.fails outcome with isShort | gives
        · exact .inl (wraps inner isShort)
        · refine .inr fun more => ?_
          rw [BitReader.mapError, gives more]
          rfl

/-- More bits do not change a value that was read. -/
theorem Sequential.read_append (sequential : reader.Sequential short) {bits rest : List Bool}
    {value : α} (read : reader bits = .ok (value, rest)) (more : List Bool) :
    reader (bits ++ more) = .ok (value, rest ++ more) := by
  obtain ⟨taken, rfl, gives⟩ := sequential.takes read
  rw [List.append_assoc]
  exact gives (rest ++ more)

/-- Of zeros a reader leaves zeros. -/
theorem Sequential.rest_eq_replicate (sequential : reader.Sequential short) {count : Nat} {value : α}
    {rest : List Bool} (read : reader (List.replicate count false) = .ok (value, rest)) :
    rest = List.replicate rest.length false := by
  obtain ⟨taken, split, _⟩ := sequential.takes read
  exact (List.append_eq_replicate_iff.mp split.symm).2.2

/-- Where a value is read from all bits, the front of them gives the same one or is too short. -/
theorem Sequential.read_front (sequential : reader.Sequential short) {bits more rest : List Bool}
    {value : α} (read : reader (bits ++ more) = .ok (value, rest)) :
    (∃ fewer, reader bits = .ok (value, fewer)) ∨ ∃ cause, short cause ∧ reader bits = .error cause := by
  cases outcome : reader bits with
  | ok found =>
      rw [sequential.read_append outcome more] at read
      obtain ⟨rfl, _⟩ := Prod.mk.inj (Except.ok.inj read)
      exact .inl ⟨found.2, rfl⟩
  | error cause =>
      rcases sequential.fails outcome with isShort | gives
      · exact .inr ⟨cause, isShort, rfl⟩
      · rw [gives more] at read
        cases read

theorem sequential_repeated (sequential : reader.Sequential short) (count : Nat) :
    (repeated reader count).Sequential short := by
  induction count with
  | zero => exact sequential_pure ()
  | succ count ih => exact sequential.bind fun _ => ih

theorem sequential_forM {γ : Type} {action : γ → BitReader ε PUnit}
    (sequential : ∀ item, (action item).Sequential short) (items : List γ) :
    (items.forM action).Sequential short := by
  induction items with
  | nil => exact sequential_pure _
  | cons item rest ih => exact (sequential item).bind fun _ => ih

/-! ### Syntax elements -/

variable (element : String)

theorem sequential_uint (width : Nat) : (uint element width).Sequential ReadError.EndsData := by
  constructor
  · intro bits value rest read
    simp only [uint] at read
    split at read
    · rename_i enough
      obtain ⟨rfl, rfl⟩ := Prod.mk.inj (Except.ok.inj read)
      refine ⟨bits.take width, (List.take_append_drop width bits).symm, ?_⟩
      intro more
      simp [uint, enough, Except.map]
    · cases read
  · intro bits cause read
    simp only [uint] at read
    split at read
    · cases read
    · exact .inl ⟨element, (Except.error.inj read).symm⟩

theorem sequential_flag : (flag element).Sequential ReadError.EndsData := by
  constructor
  · intro bits value rest read
    cases bits with
    | nil => cases read
    | cons bit more =>
        obtain ⟨rfl, rfl⟩ := Prod.mk.inj (Except.ok.inj read)
        exact ⟨[bit], rfl, gives_flag element bit⟩
  · intro bits cause read
    cases bits with
    | nil => exact .inl ⟨element, (Except.error.inj read).symm⟩
    | cons bit more => cases read

theorem sequential_skip (width : Nat) : (skip element width).Sequential ReadError.EndsData :=
  (sequential_uint element width).bind fun _ => sequential_pure ()

def zeroRun : BitReader ReadError Nat := fun bits =>
  match Bits.leadingZeros? bits with
  | none => .error (.endOfData element)
  | some found => .ok found

private theorem sequential_zeroRun : (zeroRun element).Sequential ReadError.EndsData := by
  constructor
  · intro bits zeros rest read
    unfold zeroRun at read
    cases found : Bits.leadingZeros? bits with
    | none =>
        rw [found] at read
        cases read
    | some code =>
        rw [found] at read
        obtain rfl := Except.ok.inj read
        refine ⟨List.replicate zeros false ++ [true], ?_, ?_⟩
        · rw [Bits.eq_of_leadingZeros? found, List.append_assoc, List.singleton_append]
        · intro more
          rw [zeroRun, List.append_assoc, List.singleton_append, Bits.leadingZeros?_replicate]
          rfl
  · intro bits cause read
    unfold zeroRun at read
    cases found : Bits.leadingZeros? bits with
    | none =>
        rw [found] at read
        exact .inl ⟨element, (Except.error.inj read).symm⟩
    | some code =>
        rw [found] at read
        cases read

private theorem ue_eq_zeroRun_bind : ue element = zeroRun element >>= fun zeros =>
    if longestRun < zeros then throw (.codeTooLong element)
    else uint element zeros >>= fun value => pure (Nat.pow 2 zeros - 1 + value) := by
  funext bits
  change ue element bits = zeroRun element bits >>= _
  unfold ue zeroRun
  cases Bits.leadingZeros? bits with
  | none => rfl
  | some found =>
      obtain ⟨zeros, rest⟩ := found
      change _ = (if longestRun < zeros then _ else _ : BitReader ReadError Nat) rest
      by_cases long : longestRun < zeros
      · simp only [long, if_true]
        rfl
      · simp only [long, if_false]
        change _ = uint element zeros rest >>= _
        cases uint element zeros rest <;> rfl

theorem sequential_ue : (ue element).Sequential ReadError.EndsData := by
  rw [ue_eq_zeroRun_bind]
  refine (sequential_zeroRun element).bind fun zeros => Sequential.ite (sequential_throw _) ?_
  exact (sequential_uint element zeros).bind fun _ => sequential_pure _

theorem sequential_se : (se element).Sequential ReadError.EndsData := by
  have composed : se element = ue element >>= fun rank => pure (signedOfRank rank) := by
    funext bits
    change (ue element bits).map _ = ue element bits >>= _
    cases ue element bits <;> rfl
  rw [composed]
  exact (sequential_ue element).bind fun _ => sequential_pure _

end BitReader
end VideoIngest
