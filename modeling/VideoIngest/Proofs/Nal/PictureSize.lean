import VideoIngest.Nal.Codec
import VideoIngest.Proofs.Bits.Gives

/-! A sequence parameter set that can be read announces a picture that is not empty. -/

namespace VideoIngest

namespace BitReader

variable {ε α β : Type} {reader : BitReader ε α} {next : α → BitReader ε β}

/-- Whatever the reader returns has the property. -/
def Returns (reader : BitReader ε α) (property : α → Prop) : Prop :=
  ∀ bits value rest, reader bits = .ok (value, rest) → property value

private theorem returns_pure {property : α → Prop} {value : α} (holds : property value) :
    (pure value : BitReader ε α).Returns property := by
  intro bits other rest read
  obtain ⟨rfl, _⟩ := Prod.mk.inj (Except.ok.inj read)
  exact holds

private theorem returns_throw_bind {property : β → Prop} (cause : ε) :
    ((throw cause : BitReader ε α) >>= next).Returns property := by
  intro bits value rest read
  cases read

private theorem returns_bind {property : β → Prop} (each : ∀ value, (next value).Returns property) :
    (reader >>= next).Returns property := by
  intro bits value rest readBoth
  obtain ⟨first, middle, _, read⟩ := bind_eq_ok_iff.mp readBoth
  exact each first middle value rest read

end BitReader

theorem H264.size_pos_of_parseSps {unit : Bytes} {info : H264.SpsInfo}
    (parsed : H264.parseSps unit = .ok info) : 0 < info.width ∧ 0 < info.height := by
  unfold H264.parseSps at parsed
  split at parsed
  · cases parsed
  · split at parsed
    · cases parsed
    · rename_i notEmpty
      obtain rfl := Except.ok.inj parsed
      exact ⟨Nat.pos_of_ne_zero fun zero => notEmpty (.inl zero),
        Nat.pos_of_ne_zero fun zero => notEmpty (.inr zero)⟩

namespace H265

open BitReader

theorem returns_sequenceParameterSet :
    sequenceParameterSet.Returns fun info => 0 < info.width ∧ 0 < info.height := by
  unfold sequenceParameterSet
  repeat refine returns_bind fun _ => ?_
  dsimp only
  -- With the flag for separate planes or without it, the rest is the same.
  split
  all_goals
    refine returns_bind fun separatePlanes => ?_
    refine returns_bind fun codedWidth => returns_bind fun codedHeight => ?_
    refine returns_bind fun window => returns_bind fun width => returns_bind fun height => ?_
    split
    · exact returns_throw_bind _
    · rename_i notEmpty
      exact returns_pure ⟨Nat.pos_of_ne_zero fun zero => notEmpty (.inl zero),
        Nat.pos_of_ne_zero fun zero => notEmpty (.inr zero)⟩

/-- A set is read from the payload of a unit that is longer than its header. -/
theorem exists_read_of_spsOfUnit {unit : Bytes} {info : SpsInfo}
    (parsed : spsOfUnit unit = .ok info) :
    ∃ payload rest, 3 ≤ unit.length ∧ Escape.remove (unit.drop 2) = .ok payload ∧
      sequenceParameterSet (Bits.ofBytes payload) = .ok (info, rest) := by
  unfold spsOfUnit at parsed
  split at parsed
  · cases parsed
  · rename_i long
    cases removed : Escape.remove (unit.drop 2) with
    | error cause =>
        rw [removed] at parsed
        cases parsed
    | ok payload =>
        rw [removed] at parsed
        change (sequenceParameterSet (Bits.ofBytes payload) >>= fun found => pure found.1) = _
          at parsed
        cases read : sequenceParameterSet (Bits.ofBytes payload) with
        | error cause =>
            rw [read] at parsed
            cases parsed
        | ok found =>
            rw [read] at parsed
            obtain rfl := Except.ok.inj parsed
            exact ⟨payload, found.2, Nat.le_of_not_lt long, rfl, read⟩

theorem size_pos_of_parseSps {unit : Bytes} {info : SpsInfo} (parsed : parseSps unit = .ok info) :
    0 < info.width ∧ 0 < info.height := by
  unfold parseSps at parsed
  cases result : spsOfUnit unit with
  | error fault =>
      rw [result] at parsed
      cases parsed
  | ok found =>
      rw [result] at parsed
      obtain rfl := Except.ok.inj parsed
      obtain ⟨payload, rest, _, _, read⟩ := exists_read_of_spsOfUnit result
      exact returns_sequenceParameterSet _ found rest read

end H265

namespace NalCodec

/-- A sequence parameter set that can be read announces a picture that is not empty. -/
theorem size_pos_of_pictureSize {codec : NalCodec} {payload : Bytes} {width height : Nat}
    (read : codec.pictureSize payload = .ok (width, height)) : 0 < width ∧ 0 < height := by
  cases codec with
  | h264 =>
      cases parsed : H264.parseSps payload with
      | error cause =>
          rw [pictureSize, parsed] at read
          cases read
      | ok info =>
          rw [pictureSize, parsed] at read
          obtain ⟨rfl, rfl⟩ := Prod.mk.inj (Except.ok.inj read)
          exact H264.size_pos_of_parseSps parsed
  | h265 =>
      cases parsed : H265.parseSps payload with
      | error cause =>
          rw [pictureSize, parsed] at read
          cases read
      | ok info =>
          rw [pictureSize, parsed] at read
          obtain ⟨rfl, rfl⟩ := Prod.mk.inj (Except.ok.inj read)
          exact H265.size_pos_of_parseSps parsed

end NalCodec
end VideoIngest
