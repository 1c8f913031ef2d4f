import VideoIngest.Bits.Writer

/-!
What a reader makes of written bits, whatever comes behind them. A sequence of readers makes of
written bits one after another what each of them makes of its own.
-/

namespace VideoIngest

def Bits.ofWord {width : Nat} (word : BitVec width) : List Bool := Bits.ofNat width word.toNat

namespace BitReader

variable {ε ε' α β : Type} {reader : BitReader ε α} {next : α → BitReader ε β}
  {bits more : List Bool}

theorem bind_eq_ok_iff {rest : List Bool} {value : β} :
    (reader >>= next) bits = .ok (value, rest) ↔
      ∃ first middle, reader bits = .ok (first, middle) ∧ next first middle = .ok (value, rest) := by
  change (reader bits >>= fun found => next found.1 found.2) = _ ↔ _
  cases reader bits with
  | error cause => exact ⟨nofun, nofun⟩
  | ok found =>
      constructor
      · intro read
        exact ⟨found.1, found.2, rfl, read⟩
      · rintro ⟨first, middle, same, read⟩
        obtain rfl := Except.ok.inj same
        exact read

theorem bind_eq_error_iff {cause : ε} :
    (reader >>= next) bits = .error cause ↔ reader bits = .error cause ∨
      ∃ first middle, reader bits = .ok (first, middle) ∧ next first middle = .error cause := by
  change (reader bits >>= fun found => next found.1 found.2) = _ ↔ _
  cases reader bits with
  | error other =>
      constructor
      · intro same
        exact .inl (congrArg _ (Except.error.inj same))
      · rintro (same | ⟨_, _, impossible, _⟩)
        · exact congrArg _ (Except.error.inj same)
        · cases impossible
  | ok found =>
      constructor
      · intro read
        exact .inr ⟨found.1, found.2, rfl, read⟩
      · rintro (impossible | ⟨first, middle, same, read⟩)
        · cases impossible
        · obtain rfl := Except.ok.inj same
          exact read

theorem ite_bind {condition : Prop} [Decidable condition] (reader other : BitReader ε α)
    (next : α → BitReader ε β) :
    (if condition then reader >>= next else other >>= next) =
      (if condition then reader else other) >>= next := by
  split
  · rfl
  · rfl

/-- With these bits in front the reader comes to this outcome: it takes the bits and nothing else,
or it fails. -/
def Gives (reader : BitReader ε α) (bits : List Bool) (outcome : Except ε α) : Prop :=
  ∀ rest, reader (bits ++ rest) = outcome.map fun value => (value, rest)

theorem gives_pure (value : α) : (pure value : BitReader ε α).Gives [] (.ok value) :=
  fun _ => rfl

theorem gives_throw (cause : ε) : (throw cause : BitReader ε α).Gives bits (.error cause) :=
  fun _ => rfl

theorem gives_error_bind (cause : ε) :
    ((liftM (.error cause : Except ε α) : BitReader ε α) >>= next).Gives bits (.error cause) :=
  fun _ => rfl

theorem Gives.ok_bind {value : α} {outcome : Except ε β} (second : (next value).Gives bits outcome) :
    ((liftM (.ok value : Except ε α) : BitReader ε α) >>= next).Gives bits outcome :=
  second

theorem Gives.bind {value : α} {outcome : Except ε β} (first : reader.Gives bits (.ok value))
    (second : (next value).Gives more outcome) :
    (reader >>= next).Gives (bits ++ more) outcome := by
  intro rest
  have read := first (more ++ rest)
  have continued := second rest
  change (reader ((bits ++ more) ++ rest) >>= fun read => next read.1 read.2) = _
  rw [List.append_assoc, read, ← continued]
  rfl

theorem Gives.bind_error {cause : ε} (first : reader.Gives bits (.error cause)) :
    (reader >>= next).Gives (bits ++ more) (.error cause) := by
  intro rest
  have failed := first (more ++ rest)
  change (reader ((bits ++ more) ++ rest) >>= fun read => next read.1 read.2) = _
  rw [List.append_assoc, failed]
  rfl

theorem Gives.ite_bind {condition : Prop} [Decidable condition] {other : BitReader ε α} {value : α}
    {outcome : Except ε β}
    (first : (if condition then reader else other).Gives bits (.ok value))
    (second : (next value).Gives more outcome) :
    (if condition then reader >>= next else other >>= next).Gives (bits ++ more) outcome := by
  rw [BitReader.ite_bind]
  exact first.bind second

theorem Gives.map {value : α} (first : reader.Gives bits (.ok value)) (change : α → β) :
    (reader >>= fun value => pure (change value)).Gives bits (.ok (change value)) := by
  have second : (pure (change value) : BitReader ε β).Gives [] (.ok (change value)) :=
    gives_pure (change value)
  have both := @Gives.bind _ _ _ _ (fun value => pure (change value)) _ _ _ _ first second
  rwa [List.append_nil] at both

theorem Gives.mapError {value : α} (read : reader.Gives bits (.ok value)) (wrap : ε → ε') :
    (reader.mapError wrap).Gives bits (.ok value) := by
  intro rest
  rw [BitReader.mapError, read rest]
  rfl

/-! ### Syntax elements -/

variable (element : String)

theorem gives_flag (bit : Bool) : (flag element).Gives [bit] (.ok bit) := fun _ => rfl

theorem gives_uint {width value : Nat} (fits : value < Nat.pow 2 width) :
    (uint element width).Gives (Bits.ofNat width value) (.ok value) :=
  fun rest => Bits.uint_ofNat element width value rest fits

theorem gives_word {width : Nat} (word : BitVec width) :
    (uint element width).Gives (Bits.ofWord word) (.ok word.toNat) :=
  gives_uint element word.isLt

theorem gives_skip {width : Nat} (word : BitVec width) :
    (skip element width).Gives (Bits.ofWord word) (.ok ()) :=
  (gives_word element word).map fun _ => ()

theorem gives_skip_flag (bit : Bool) : (skip element 1).Gives [bit] (.ok ()) := fun _ => rfl

theorem gives_ue {value : Nat} (fits : value < Number.wordBound32 - 1) :
    (ue element).Gives (Bits.ueCode value) (.ok value) :=
  fun rest => Bits.ue_ueCode element value rest fits

end BitReader

/-! ### Whole bytes -/

namespace Bits

/-- Packing into bytes adds bits only behind the last one. -/
theorem ofBytes_toBytes_eq_append (bits : List Bool) :
    ∃ filling, ofBytes (toBytes bits) = bits ++ filling := by
  fun_induction toBytes bits with
  | case1 => exact ⟨[], rfl⟩
  | case2 a b c d e f g h rest ih =>
      obtain ⟨filling, tail⟩ := ih
      refine ⟨filling, ?_⟩
      simp only [ofBytes] at tail
      simp only [ofBytes, List.flatMap_cons, ofByte_ofNat_toNat, tail, List.cons_append,
        List.nil_append]
  | case3 bits notEmpty short =>
      refine ⟨List.replicate (8 - bits.length) false, ?_⟩
      rcases bits with _ | ⟨a, _ | ⟨b, _ | ⟨c, _ | ⟨d, _ | ⟨e, _ | ⟨f, _ | ⟨g, _ | ⟨h, rest⟩⟩⟩⟩⟩⟩⟩⟩
      · exact absurd rfl notEmpty
      iterate 7 exact (List.append_nil _).trans (ofByte_ofNat_toNat ..)
      · exact (short a b c d e f g h rest rfl).elim

end Bits
end VideoIngest
