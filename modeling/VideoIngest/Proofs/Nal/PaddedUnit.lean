import VideoIngest.Proofs.H264.PaddedSps
import VideoIngest.Proofs.H265.CutSps

/-!
What format a unit announces that is left with zeros at its end.

Such zeros go unnoticed as long as they are two at most and the parameter set in front of them is
whole. Three make any set unreadable. An H.265 set that breaks off may take what it lacks from them.
-/

namespace VideoIngest

namespace H265

variable {unit : Bytes} {count : Nat} {info : SpsInfo}

/-- A set that can be read does not notice a zero or two. -/
private theorem parseSps_append_zeros (last : unit.getLast? ≠ some 0) (few : count ≤ 2)
    (parsed : parseSps unit = .ok info) : parseSps (unit ++ List.replicate count 0) = .ok info := by
  rw [parseSps_eq_ok_iff] at parsed ⊢
  obtain ⟨payload, _, long, removed, _⟩ := exists_read_of_spsOfUnit parsed
  apply spsOfUnit_append parsed
  rw [List.drop_append_of_le_length (by omega),
    Escape.remove_append_zeros (getLast?_drop_ne_zero last 2) few, removed]
  rfl

private theorem le_two_of_parseSps_append_zeros (long : 2 ≤ unit.length)
    (last : unit.getLast? ≠ some 0)
    (parsed : parseSps (unit ++ List.replicate count 0) = .ok info) : count ≤ 2 := by
  apply Nat.le_of_not_lt
  intro many
  rw [parseSps_eq_ok_iff] at parsed
  obtain ⟨payload, _, _, removed, _⟩ := exists_read_of_spsOfUnit parsed
  obtain ⟨cause, failed⟩ :=
    Escape.exists_remove_append_zeros_eq_error (getLast?_drop_ne_zero last 2) many
  rw [List.drop_append_of_le_length long, failed] at removed
  cases removed

/-- Zeros behind nothing but a header are no set. -/
private theorem three_le_of_parseSps_append_zeros (long : 2 ≤ unit.length)
    (last : unit.getLast? ≠ some 0)
    (parsed : parseSps (unit ++ List.replicate count 0) = .ok info) : 3 ≤ unit.length := by
  have few := le_two_of_parseSps_append_zeros long last parsed
  apply Nat.lt_of_le_of_ne long
  intro header
  rw [parseSps_eq_ok_iff] at parsed
  obtain ⟨payload, rest, _, removed, read⟩ := exists_read_of_spsOfUnit parsed
  rw [List.drop_append_of_le_length long, List.drop_eq_nil_of_le (Nat.le_of_eq header.symm),
    Escape.remove_append_zeros (by simp) few] at removed
  obtain rfl := Except.ok.inj removed
  match count with
  | 0 => cases read
  | 1 => cases read
  | 2 => cases read

/-- Only a set that breaks off can be read because of zeros behind it. -/
private theorem exists_endOfData_of_parseSps_append_zeros (long : 2 ≤ unit.length)
    (last : unit.getLast? ≠ some 0) {cause : ParseError} (unreadable : parseSps unit = .error cause)
    (parsed : parseSps (unit ++ List.replicate count 0) = .ok info) :
    ∃ element, cause = .invalidSps (ReadError.endOfData element).message := by
  have longer := three_le_of_parseSps_append_zeros long last parsed
  unfold parseSps at unreadable
  rcases spsOfUnit_of_append (parseSps_eq_ok_iff.mp parsed) with
    same | ⟨short, _⟩ | ⟨_, ⟨element, rfl⟩, ended⟩
  · rw [same] at unreadable
    cases unreadable
  · omega
  · rw [ended] at unreadable
    exact ⟨element, (Except.error.inj unreadable).symm⟩

end H265

namespace NalCodec

variable {codec : NalCodec} {payload : Bytes} {count : Nat} {size : Nat × Nat}

/-! ### Picture sizes -/

theorem pictureSize_h264_eq_ok_iff : h264.pictureSize payload = .ok size ↔
    ∃ info, H264.parseSps payload = .ok info ∧ (info.width, info.height) = size := by
  change (H264.parseSps payload).map (fun info => (info.width, info.height)) = _ ↔ _
  cases H264.parseSps payload <;> simp [Except.map]

theorem pictureSize_h265_eq_ok_iff : h265.pictureSize payload = .ok size ↔
    ∃ info, H265.parseSps payload = .ok info ∧ (info.width, info.height) = size := by
  change (H265.parseSps payload).map (fun info => (info.width, info.height)) = _ ↔ _
  cases H265.parseSps payload <;> simp [Except.map]

private theorem pictureSize_h264_append_zeros (nonempty : payload ≠ [])
    (last : payload.getLast? ≠ some 0) (few : count ≤ 2) :
    h264.pictureSize (payload ++ List.replicate count 0) = .ok size ↔
      h264.pictureSize payload = .ok size := by
  simp only [pictureSize_h264_eq_ok_iff, H264.parseSps_append_zeros nonempty last few]

theorem nonempty_of_headerSize_le (full : codec.headerSize ≤ payload.length) : payload ≠ [] := by
  rintro rfl
  cases codec <;> contradiction

/-- A set that can be read does not notice a zero or two. -/
private theorem pictureSize_append_zeros (full : codec.headerSize ≤ payload.length)
    (last : payload.getLast? ≠ some 0) (few : count ≤ 2)
    (read : codec.pictureSize payload = .ok size) :
    codec.pictureSize (payload ++ List.replicate count 0) = .ok size := by
  cases codec with
  | h264 => exact (pictureSize_h264_append_zeros (nonempty_of_headerSize_le full) last few).mpr read
  | h265 =>
      rw [pictureSize_h265_eq_ok_iff] at read ⊢
      obtain ⟨info, parsed, same⟩ := read
      exact ⟨info, H265.parseSps_append_zeros last few parsed, same⟩

theorem le_two_of_pictureSize_append_zeros (full : codec.headerSize ≤ payload.length)
    (last : payload.getLast? ≠ some 0)
    (read : codec.pictureSize (payload ++ List.replicate count 0) = .ok size) : count ≤ 2 := by
  cases codec with
  | h264 =>
      obtain ⟨info, parsed, _⟩ := pictureSize_h264_eq_ok_iff.mp read
      apply Nat.le_of_not_lt
      intro many
      obtain ⟨cause, failed⟩ := H264.exists_parseSps_append_zeros_eq_error
        (nonempty_of_headerSize_le full) last many
      cases failed.symm.trans parsed
  | h265 =>
      obtain ⟨info, parsed, _⟩ := pictureSize_h265_eq_ok_iff.mp read
      exact H265.le_two_of_parseSps_append_zeros full last parsed

/-! ### Formats -/

def OpensSps (codec : NalCodec) (payload : Bytes) : Prop :=
  payload.head?.map codec.role = some (.parameterSet .sps)

theorem opensSps_append (nonempty : payload ≠ []) (more : Bytes) :
    codec.OpensSps (payload ++ more) ↔ codec.OpensSps payload := by
  cases payload with
  | nil => contradiction
  | cons header rest => rfl

theorem roleOfPayload_eq_sps_iff :
    codec.roleOfPayload payload = .parameterSet .sps ↔
      codec.headerSize ≤ payload.length ∧ codec.OpensSps payload := by
  unfold roleOfPayload OpensSps
  split
  · rename_i short
    simp [Nat.not_le.mpr short]
  · rename_i full
    cases payload with
    | nil => simp
    | cons header rest => simpa using fun _ => Nat.not_lt.mp full

def format? (codec : NalCodec) (payload : Bytes) : Option VideoFormat :=
  if codec.roleOfPayload payload = .parameterSet .sps then
    match codec.pictureSize payload with
    | .ok (width, height) => some ⟨codec.codec, width, height⟩
    | .error _ => some (.unknown codec.codec)
  else none

theorem roleOfPayload_append (opens : codec.OpensSps payload)
    (full : codec.headerSize ≤ payload.length) (more : Bytes) :
    codec.roleOfPayload (payload ++ more) = .parameterSet .sps := by
  rw [roleOfPayload_eq_sps_iff, opensSps_append (nonempty_of_headerSize_le full),
    List.length_append]
  exact ⟨by omega, opens⟩

private theorem format?_of_read (role : codec.roleOfPayload payload = .parameterSet .sps)
    (read : codec.pictureSize payload = .ok size) :
    codec.format? payload = some ⟨codec.codec, size.1, size.2⟩ := by
  unfold format?
  rw [if_pos role, read]

theorem format?_of_unreadable (role : codec.roleOfPayload payload = .parameterSet .sps)
    {cause : ParseError} (unreadable : codec.pictureSize payload = .error cause) :
    codec.format? payload = some (.unknown codec.codec) := by
  unfold format?
  rw [if_pos role, unreadable]

theorem format?_eq_none_iff :
    codec.format? payload = none ↔ codec.headerSize ≤ payload.length → ¬codec.OpensSps payload := by
  rw [← not_and, ← roleOfPayload_eq_sps_iff]
  unfold format?
  split
  · rename_i role
    simp only [role, not_true, iff_false]
    split <;> exact nofun
  · rename_i role
    simp [role]

/-- What it takes for so many zeros at the end of a sequence parameter set to go unnoticed: that they
do not complete its header, that a set which can be read gets no third one, and that no H.265 set
becomes readable through them. -/
structure Withstands (codec : NalCodec) (payload : Bytes) (zeros : Nat) : Prop where
  header : zeros = 0 ∨ codec.headerSize ≤ payload.length
  readable : ∀ size, codec.pictureSize payload = .ok size → zeros ≤ 2
  unreadable : codec = .h265 → ∀ cause, codec.pictureSize payload = .error cause →
    ∃ cause, codec.pictureSize (payload ++ List.replicate zeros 0) = .error cause

theorem withstands_zero : codec.Withstands payload 0 where
  header := .inl rfl
  readable _ _ := Nat.zero_le 2
  unreadable _ cause unreadable := ⟨cause, by rw [List.replicate_zero, List.append_nil, unreadable]⟩

theorem headerSize_le_append (nonempty : payload ≠ []) (positive : 0 < count) :
    codec.headerSize ≤ (payload ++ List.replicate count 0).length := by
  have := List.length_pos_iff.mpr nonempty
  cases codec <;> simp [headerSize] <;> omega

theorem format?_eq_none_of_append_zeros (nonempty : payload ≠ [])
    (nothing : codec.format? (payload ++ List.replicate count 0) = none) :
    codec.format? payload = none := by
  rw [format?_eq_none_iff] at nothing ⊢
  intro full opens
  apply nothing
  · rw [List.length_append]
    omega
  · exact (opensSps_append nonempty _).mpr opens

/-- Zeros behind a set that can be read make it an unreadable one or leave it as it is. -/
private theorem format?_append_zeros_of_read (opens : codec.OpensSps payload)
    (full : codec.headerSize ≤ payload.length) (last : payload.getLast? ≠ some 0)
    (read : codec.pictureSize payload = .ok size) :
    codec.format? (payload ++ List.replicate count 0) = codec.format? payload ↔ count ≤ 2 := by
  have role := roleOfPayload_eq_sps_iff.mpr ⟨full, opens⟩
  have still := roleOfPayload_append opens full (List.replicate count 0)
  rw [format?_of_read role read]
  constructor
  · intro same
    cases outcome : codec.pictureSize (payload ++ List.replicate count 0) with
    | ok other => exact le_two_of_pictureSize_append_zeros full last outcome
    | error cause =>
        rw [format?_of_unreadable still outcome] at same
        obtain ⟨_, noWidth, _⟩ := VideoFormat.mk.inj (Option.some.inj same)
        have positive := (size_pos_of_pictureSize read).1
        omega
  · intro few
    rw [format?_of_read still (pictureSize_append_zeros full last few read)]

private theorem format?_append_zeros_of_unreadable (opens : codec.OpensSps payload)
    (full : codec.headerSize ≤ payload.length) {cause : ParseError}
    (unreadable : codec.pictureSize payload = .error cause) :
    codec.format? (payload ++ List.replicate count 0) = codec.format? payload ↔
      ∃ cause, codec.pictureSize (payload ++ List.replicate count 0) = .error cause := by
  have role := roleOfPayload_eq_sps_iff.mpr ⟨full, opens⟩
  have still := roleOfPayload_append opens full (List.replicate count 0)
  rw [format?_of_unreadable role unreadable]
  cases outcome : codec.pictureSize (payload ++ List.replicate count 0) with
  | error cause =>
      rw [format?_of_unreadable still outcome]
      exact ⟨fun _ => ⟨cause, rfl⟩, fun _ => rfl⟩
  | ok other =>
      rw [format?_of_read still outcome]
      have positive := (size_pos_of_pictureSize outcome).1
      simp [VideoFormat.unknown]
      omega

theorem format?_append_zeros_of_many (opens : codec.OpensSps payload)
    (full : codec.headerSize ≤ payload.length) (last : payload.getLast? ≠ some 0)
    (many : 3 ≤ count) :
    codec.format? (payload ++ List.replicate count 0) = some (.unknown codec.codec) := by
  cases outcome : codec.pictureSize (payload ++ List.replicate count 0) with
  | error cause => exact format?_of_unreadable (roleOfPayload_append opens full _) outcome
  | ok size =>
      have few := le_two_of_pictureSize_append_zeros full last outcome
      omega

/-- An H.264 set does not become readable through zeros behind it. -/
private theorem exists_pictureSize_h264_append_zeros_eq_error (nonempty : payload ≠ [])
    (last : payload.getLast? ≠ some 0) {cause : ParseError}
    (unreadable : h264.pictureSize payload = .error cause) :
    ∃ cause, h264.pictureSize (payload ++ List.replicate count 0) = .error cause := by
  cases outcome : h264.pictureSize (payload ++ List.replicate count 0) with
  | error cause => exact ⟨cause, rfl⟩
  | ok size =>
      have full : h264.headerSize ≤ payload.length := List.length_pos_iff.mpr nonempty
      have few := le_two_of_pictureSize_append_zeros full last outcome
      rw [pictureSize_h264_append_zeros nonempty last few, unreadable] at outcome
      cases outcome

/-- Only an H.265 set that breaks off can be read because of zeros behind it. -/
theorem exists_endOfData_of_pictureSize_append_zeros (full : codec.headerSize ≤ payload.length)
    (last : payload.getLast? ≠ some 0) {cause : ParseError}
    (unreadable : codec.pictureSize payload = .error cause)
    (read : codec.pictureSize (payload ++ List.replicate count 0) = .ok size) :
    codec = .h265 ∧ ∃ element, cause = .invalidSps (ReadError.endOfData element).message := by
  cases codec with
  | h264 =>
      obtain ⟨_, failed⟩ := exists_pictureSize_h264_append_zeros_eq_error
        (nonempty_of_headerSize_le full) last unreadable
      cases failed.symm.trans read
  | h265 =>
      obtain ⟨info, parsed, _⟩ := pictureSize_h265_eq_ok_iff.mp read
      refine ⟨rfl, ?_⟩
      cases alone : H265.parseSps payload with
      | ok info =>
          rw [pictureSize, alone] at unreadable
          cases unreadable
      | error other =>
          rw [pictureSize, alone] at unreadable
          obtain rfl := Except.error.inj unreadable
          exact H265.exists_endOfData_of_parseSps_append_zeros full last alone parsed

theorem format?_append_zeros_iff (nonempty : payload ≠ []) (last : payload.getLast? ≠ some 0) :
    codec.format? (payload ++ List.replicate count 0) = codec.format? payload ↔
      (codec.OpensSps payload → codec.Withstands payload count) := by
  by_cases opens : codec.OpensSps payload
  · rw [forall_prop_of_true opens]
    by_cases full : codec.headerSize ≤ payload.length
    · cases read : codec.pictureSize payload with
      | ok size =>
          rw [format?_append_zeros_of_read opens full last read]
          constructor
          · intro few
            exact ⟨.inr full, fun _ _ => few, fun _ _ unreadable => nomatch read.symm.trans unreadable⟩
          · intro withstands
            exact withstands.readable size read
      | error cause =>
          rw [format?_append_zeros_of_unreadable opens full read]
          constructor
          · intro still
            exact ⟨.inr full, fun _ other => (nomatch read.symm.trans other), fun _ _ _ => still⟩
          · intro withstands
            cases codec with
            | h264 => exact exists_pictureSize_h264_append_zeros_eq_error nonempty last read
            | h265 => exact withstands.unreadable rfl cause read
    · have noFormat : codec.format? payload = none :=
        format?_eq_none_iff.mpr fun isFull => absurd isFull full
      rw [noFormat]
      rcases Nat.eq_zero_or_pos count with rfl | positive
      · rw [List.replicate_zero, List.append_nil, noFormat]
        exact ⟨fun _ => withstands_zero, fun _ => rfl⟩
      · constructor
        · intro none
          exact absurd ((opensSps_append nonempty _).mpr opens)
            (format?_eq_none_iff.mp none (headerSize_le_append nonempty positive))
        · intro withstands
          rcases withstands.header with rfl | isFull
          · contradiction
          · contradiction
  · have noFormat : codec.format? payload = none := format?_eq_none_iff.mpr fun _ => opens
    have still : codec.format? (payload ++ List.replicate count 0) = none :=
      format?_eq_none_iff.mpr fun _ => mt (opensSps_append nonempty _).mp opens
    rw [noFormat, still]
    exact ⟨fun _ isOpen => absurd isOpen opens, fun _ => rfl⟩

end NalCodec
end VideoIngest
