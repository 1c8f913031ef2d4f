import VideoIngest.Container.Chunks

/-!
What an IVF file consists of: a header that tells its own size, frames with their sizes, and behind
them perhaps a frame that is cut off. Reading gives the frames of every file, cut off wherever it
may be behind the least header: `Container.ivf_file_gives_frames`.
-/

namespace VideoIngest.Container

/-! ### Frames -/

def sizeField (size : Nat) : Bytes :=
  [.ofNat size, .ofNat (size / 0x100), .ofNat (size / 0x10000), .ofNat (size / 0x1000000)]

private theorem littleEndian_sizeField {size : Nat} (fits : size < 0x100000000) :
    Bytes.littleEndian (sizeField size) = size := by
  simp only [sizeField, Bytes.littleEndian, List.foldr_cons, List.foldr_nil, UInt8.toNat_ofNat']
  omega

private theorem exists_sizeField {field : Bytes} (four : field.length = 4) :
    Bytes.littleEndian field < 0x100000000 ∧ sizeField (Bytes.littleEndian field) = field := by
  match field, four with
  | [first, second, third, fourth], _ =>
      have firstBound := first.toNat_lt
      have secondBound := second.toNat_lt
      have thirdBound := third.toNat_lt
      have fourthBound := fourth.toNat_lt
      simp only [Bytes.littleEndian, List.foldr_cons, List.foldr_nil, sizeField, List.cons.injEq,
        ← UInt8.toNat_inj, UInt8.toNat_ofNat', and_true]
      omega

/-- A frame and the eight bytes of its timestamp. -/
structure IvfFrame where
  timestamp : Bytes
  data : Bytes
  timestampSize : timestamp.length = 8
  fits : data.length < 0x100000000

def IvfFrame.bytes (frame : IvfFrame) : Bytes :=
  sizeField frame.data.length ++ frame.timestamp ++ frame.data

/-- The bytes do not hold a frame: they end in its header, or announce more than there is. -/
def IsCutOff (tail : Bytes) : Prop :=
  tail.length < 12 ∨ tail.length < 12 + Bytes.littleEndian (tail.take 4)

instance (tail : Bytes) : Decidable (IsCutOff tail) := inferInstanceAs (Decidable (_ ∨ _))

theorem ivfRecord_bytes_append (frame : IvfFrame) (rest : Bytes) :
    ivfRecord (frame.bytes ++ rest) = some (frame.data, rest) := by
  have header : (sizeField frame.data.length ++ frame.timestamp).length = ivfRecordHeader := by
    rw [List.length_append, frame.timestampSize]
    rfl
  have size : (sizeField frame.data.length ++ frame.timestamp).take 4 =
      sizeField frame.data.length := rfl
  unfold ivfRecord
  rw [IvfFrame.bytes, List.append_assoc, ← header, Bytes.takeExactly_append, Option.bind_eq_bind,
    Option.bind_some]
  dsimp only
  rw [size, littleEndian_sizeField frame.fits, Bytes.takeExactly_append]

theorem takeExactly_eq_none_iff {count : Nat} {bytes : Bytes} :
    Bytes.takeExactly count bytes = none ↔ bytes.length < count := by
  unfold Bytes.takeExactly
  dsimp only
  rw [List.length_take]
  split <;> simp <;> omega

theorem ivfRecord_eq_none_iff {tail : Bytes} : ivfRecord tail = none ↔ IsCutOff tail := by
  unfold ivfRecord IsCutOff
  by_cases short : tail.length < 12
  · have header : Bytes.takeExactly ivfRecordHeader tail = none := takeExactly_eq_none_iff.mpr short
    rw [header]
    simp [short]
  · have header : Bytes.takeExactly ivfRecordHeader tail = some (tail.take 12, tail.drop 12) := by
      unfold Bytes.takeExactly ivfRecordHeader
      dsimp only
      rw [List.length_take, if_pos (by omega)]
    rw [header, Option.bind_eq_bind, Option.bind_some, takeExactly_eq_none_iff, List.length_drop,
      List.take_take, Nat.min_eq_left (by decide)]
    omega

private theorem exists_of_ivfRecord {data payload rest : Bytes}
    (found : ivfRecord data = some (payload, rest)) :
    ∃ frame : IvfFrame, frame.data = payload ∧ data = frame.bytes ++ rest := by
  obtain ⟨⟨header, body⟩, whole, record⟩ := Option.bind_eq_some_iff.mp found
  obtain ⟨joined, headerSize⟩ := Bytes.append_eq_of_takeExactly_eq_some whole
  obtain ⟨bodyJoined, announced⟩ := Bytes.append_eq_of_takeExactly_eq_some record
  change header.length = 12 at headerSize
  have four : (header.take 4).length = 4 := by
    rw [List.length_take]
    omega
  obtain ⟨fits, field⟩ := exists_sizeField four
  rw [← announced] at fits field
  refine ⟨⟨header.drop 4, payload, ?_, fits⟩, rfl, ?_⟩
  · rw [List.length_drop]
    omega
  · rw [IvfFrame.bytes, field, List.take_append_drop, List.append_assoc, bodyJoined, joined]

/-! ### Runs of frames -/

theorem ivfRecords_append (frames : List IvfFrame) (rest : Bytes) :
    ivfRecords (frames.flatMap IvfFrame.bytes ++ rest) =
      frames.map IvfFrame.data ++ ivfRecords rest := by
  induction frames with
  | nil => rfl
  | cons frame others ih =>
      rw [List.flatMap_cons, List.append_assoc, ivfRecords, ivfRecord_bytes_append]
      dsimp only
      rw [ih]
      rfl

private theorem ivfRecords_of_isCutOff {tail : Bytes} (cutOff : IsCutOff tail) :
    ivfRecords tail = [] := by
  rw [ivfRecords, ivfRecord_eq_none_iff.mpr cutOff]

private theorem exists_frames (data : Bytes) :
    ∃ (frames : List IvfFrame) (tail : Bytes),
      data = frames.flatMap IvfFrame.bytes ++ tail ∧ IsCutOff tail := by
  fun_induction ivfRecords data with
  | case1 data none => exact ⟨[], data, rfl, ivfRecord_eq_none_iff.mp none⟩
  | case2 data payload rest record ih =>
      obtain ⟨frame, _, whole⟩ := exists_of_ivfRecord record
      obtain ⟨frames, tail, others, cutOff⟩ := ih
      refine ⟨frame :: frames, tail, ?_, cutOff⟩
      rw [whole, others, List.flatMap_cons, List.append_assoc]

/-- More bytes behind a run of frames give more frames, and leave those that are complete. -/
private theorem ivfRecords_prefix (front back : Bytes) :
    ivfRecords front <+: ivfRecords (front ++ back) := by
  obtain ⟨frames, tail, rfl, cutOff⟩ := exists_frames front
  rw [List.append_assoc, ivfRecords_append, ivfRecords_append, ivfRecords_of_isCutOff cutOff,
    List.append_nil]
  exact List.prefix_append _ _

/-! ### Files -/

/-- The size of the header of a file: what it says, but never less than all of its fields. -/
def ivfHeaderSize (data : Bytes) : Nat :=
  max ivfLeastHeader (Bytes.littleEndian ((data.drop 6).take 2))

structure IsIvf (data : Bytes) : Prop where
  long : ivfLeastHeader ≤ data.length
  signed : ivfSignature <+: data

theorem not_isIvf_iff {data : Bytes} :
    ¬IsIvf data ↔ data.length < ivfLeastHeader ∨ ¬ivfSignature <+: data := by
  constructor
  · intro refused
    by_cases long : ivfLeastHeader ≤ data.length
    · exact .inr fun signed => refused ⟨long, signed⟩
    · exact .inl (Nat.lt_of_not_le long)
  · rintro (short | unsigned) accepted
    · exact absurd accepted.long (Nat.not_le.mpr short)
    · exact unsigned accepted.signed

theorem ivfFrames_eq_none {data : Bytes} (refused : ¬IsIvf data) : ivfFrames data = none := by
  rw [ivfFrames, if_pos]
  rcases not_isIvf_iff.mp refused with short | unsigned
  · exact .inl short
  · refine .inr ?_
    rw [Bool.not_eq_true', ← Bool.not_eq_true, List.isPrefixOf_iff_prefix]
    exact unsigned

theorem ivfFrames_eq_some {data : Bytes} (accepted : IsIvf data) :
    ivfFrames data = some (ivfRecords (data.drop (ivfHeaderSize data))) := by
  rw [ivfFrames, if_neg, ivfHeaderSize, Nat.max_comm]
  rintro (short | unsigned)
  · exact absurd accepted.long (Nat.not_le.mpr short)
  · rw [List.isPrefixOf_iff_prefix.mpr accepted.signed] at unsigned
    cases unsigned

theorem chunks_vp9_eq_error_iff {data : Bytes} {fault : Fault} :
    chunks .vp9 data = .error fault ↔ ¬IsIvf data := by
  cases fault
  unfold chunks
  dsimp only
  by_cases accepted : IsIvf data
  · rw [ivfFrames_eq_some accepted]
    exact iff_of_false nofun (not_not_intro accepted)
  · rw [ivfFrames_eq_none accepted]
    exact iff_of_true rfl accepted

private theorem chunks_vp9_of_isIvf {data : Bytes} (accepted : IsIvf data) :
    chunks .vp9 data = .ok (ivfRecords (data.drop (ivfHeaderSize data))) := by
  unfold chunks
  dsimp only
  rw [ivfFrames_eq_some accepted]

private theorem IsIvf.take {data : Bytes} {count : Nat} (accepted : IsIvf data)
    (enough : ivfLeastHeader ≤ count) : IsIvf (data.take count) := by
  constructor
  · rw [List.length_take]
    exact Nat.le_min.mpr ⟨enough, accepted.long⟩
  · exact List.prefix_take_iff.mpr ⟨accepted.signed, Nat.le_trans (by decide) enough⟩

private theorem ivfHeaderSize_take {data : Bytes} {count : Nat} (long : ivfLeastHeader ≤ count) :
    ivfHeaderSize (data.take count) = ivfHeaderSize data := by
  unfold ivfHeaderSize
  unfold ivfLeastHeader at long
  rw [List.drop_take, List.take_take, Nat.min_eq_left (by omega)]

/-- A file is refused just where it is shorter than the least header or does not begin with the
signature. Any other gives the frames behind its header up to one that is cut off, and any part of
it that still has the least header gives the first of these frames. -/
theorem ivf_file_gives_frames (data : Bytes) :
    ((∃ fault, chunks .vp9 data = .error fault) ↔
        data.length < 32 ∨ ¬[0x44, 0x4b, 0x49, 0x46] <+: data) ∧
      (∀ fault, chunks .vp9 data = .error fault → fault.message = "not an IVF file") ∧
      (32 ≤ data.length → [0x44, 0x4b, 0x49, 0x46] <+: data →
        ∃ given, chunks .vp9 data = .ok given ∧
          (data.length < ivfHeaderSize data → given = []) ∧
          (∀ (header : Bytes) (frames : List IvfFrame) (tail : Bytes),
            header.length = ivfHeaderSize data → IsCutOff tail →
              data = header ++ frames.flatMap IvfFrame.bytes ++ tail →
                given = frames.map IvfFrame.data) ∧
          (ivfHeaderSize data ≤ data.length →
            ∃ (header : Bytes) (frames : List IvfFrame) (tail : Bytes),
              header.length = ivfHeaderSize data ∧ IsCutOff tail ∧
                data = header ++ frames.flatMap IvfFrame.bytes ++ tail) ∧
          ∀ count, 32 ≤ count →
            ∃ kept, chunks .vp9 (data.take count) = .ok kept ∧ kept <+: given) := by
  refine ⟨?_, ?_, ?_⟩
  · have fails : (∃ fault, chunks .vp9 data = .error fault) ↔ ¬IsIvf data := by
      constructor
      · rintro ⟨fault, refused⟩
        exact chunks_vp9_eq_error_iff.mp refused
      · intro refused
        exact ⟨.notIvf, chunks_vp9_eq_error_iff.mpr refused⟩
    exact fails.trans not_isIvf_iff
  · intro fault _
    cases fault
    rfl
  · intro long signed
    have accepted : IsIvf data := ⟨long, signed⟩
    refine ⟨_, chunks_vp9_of_isIvf accepted, ?_, ?_, ?_, ?_⟩
    · intro short
      rw [List.drop_eq_nil_of_le (Nat.le_of_lt short)]
      exact ivfRecords_of_isCutOff (by decide)
    · intro header frames tail size cutOff whole
      have behind : data.drop (ivfHeaderSize data) = frames.flatMap IvfFrame.bytes ++ tail := by
        rw [← size]
        conv => lhs; rw [whole, List.append_assoc]
        exact List.drop_left
      rw [behind, ivfRecords_append, ivfRecords_of_isCutOff cutOff, List.append_nil]
    · intro reaches
      obtain ⟨frames, tail, whole, cutOff⟩ := exists_frames (data.drop (ivfHeaderSize data))
      refine ⟨data.take (ivfHeaderSize data), frames, tail, ?_, cutOff, ?_⟩
      · rw [List.length_take, Nat.min_eq_left reaches]
      · rw [List.append_assoc, ← whole, List.take_append_drop]
    · intro count enough
      refine ⟨_, chunks_vp9_of_isIvf (accepted.take enough), ?_⟩
      rw [ivfHeaderSize_take enough, List.drop_take]
      have more := ivfRecords_prefix
        ((data.drop (ivfHeaderSize data)).take (count - ivfHeaderSize data))
        ((data.drop (ivfHeaderSize data)).drop (count - ivfHeaderSize data))
      rwa [List.take_append_drop] at more

/-- A header of 34 bytes, a frame, an empty frame, and one that is cut off. -/
def cutOffFile : Bytes :=
  ivfSignature ++ [0, 0, 34, 0] ++ List.replicate 26 0 ++
    ([3, 0, 0, 0] ++ List.replicate 8 7 ++ [0x82, 0x49, 0x83]) ++
    ([0, 0, 0, 0] ++ List.replicate 8 9) ++ ([2, 0, 0, 0] ++ List.replicate 8 0 ++ [0x86])

theorem cut_off_file_gives_two_frames :
    32 ≤ cutOffFile.length ∧ [0x44, 0x4b, 0x49, 0x46] <+: cutOffFile ∧
      ivfHeaderSize cutOffFile = 34 ∧
      IsCutOff ([2, 0, 0, 0] ++ List.replicate 8 0 ++ [0x86]) ∧
      chunks .vp9 cutOffFile = .ok [[0x82, 0x49, 0x83], []] ∧
      ∃ kept, chunks .vp9 (cutOffFile.take 48) = .ok kept ∧ kept <+: [[0x82, 0x49, 0x83], []] := by
  have long : 32 ≤ cutOffFile.length := by decide
  have signed : [0x44, 0x4b, 0x49, 0x46] <+: cutOffFile := by decide
  have size : ivfHeaderSize cutOffFile = 34 := by decide
  have cutOff : IsCutOff ([2, 0, 0, 0] ++ List.replicate 8 0 ++ [0x86]) := by decide
  obtain ⟨given, read, _, frames, _, parts⟩ := (ivf_file_gives_frames cutOffFile).2.2 long signed
  have two := frames (ivfSignature ++ [0, 0, 34, 0] ++ List.replicate 26 0)
    [⟨List.replicate 8 7, [0x82, 0x49, 0x83], rfl, by decide⟩,
      ⟨List.replicate 8 9, [], rfl, by decide⟩]
    ([2, 0, 0, 0] ++ List.replicate 8 0 ++ [0x86]) (by rw [size]; rfl) cutOff (by decide)
  subst two
  exact ⟨long, signed, size, cutOff, read, parts 48 (by decide)⟩

end VideoIngest.Container
