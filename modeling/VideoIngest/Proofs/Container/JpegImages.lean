import Mathlib.Data.List.Chain
import VideoIngest.Container.Chunks

/-!
Where the images of a file stand.

An image goes from the first start marker to the first end marker behind it. That cuts a file in one
way only, and what was cut out of it comes back however it is put together again:
`Container.images_stand_between_markers`.
-/

namespace VideoIngest.Container

/-! ### Markers -/

/-- The marker with this code stands nowhere in the bytes. -/
def Lacks (code : UInt8) (bytes : Bytes) : Prop := ¬[0xff, code] <:+: bytes

instance (code : UInt8) (bytes : Bytes) : Decidable (Lacks code bytes) :=
  inferInstanceAs (Decidable (¬_))

variable {code : UInt8} {data before after front back : Bytes}

theorem lacks_iff_isChain :
    Lacks code data ↔ data.IsChain fun byte next => byte = 0xff → next ≠ code := by
  rw [List.isChain_iff_forall_rel_of_append_cons_cons]
  constructor
  · rintro lacks byte next earlier later rfl rfl rfl
    exact lacks ⟨earlier, later, by simp⟩
  · rintro apart ⟨earlier, later, whole⟩
    exact apart (by simpa using whole.symm) rfl rfl

theorem lacks_nil (code : UInt8) : Lacks code [] := lacks_iff_isChain.mpr List.isChain_nil

theorem lacks_singleton (code byte : UInt8) : Lacks code [byte] :=
  lacks_iff_isChain.mpr (List.isChain_singleton byte)

theorem lacks_cons_cons {byte next : UInt8} :
    Lacks code (byte :: next :: data) ↔
      (byte = 0xff → next ≠ code) ∧ Lacks code (next :: data) := by
  rw [lacks_iff_isChain, lacks_iff_isChain, List.isChain_cons_cons]

theorem lacks_append :
    Lacks code (front ++ back) ↔
      Lacks code front ∧ Lacks code back ∧
        ∀ last ∈ front.getLast?, ∀ first ∈ back.head?, last = 0xff → first ≠ code := by
  rw [lacks_iff_isChain, lacks_iff_isChain, lacks_iff_isChain, List.isChain_append]

theorem cutAtMarker_eq_none_iff : cutAtMarker code data = none ↔ Lacks code data := by
  fun_induction cutAtMarker code data with
  | case1 => exact iff_of_true rfl (lacks_nil code)
  | case2 byte => exact iff_of_true rfl (lacks_singleton code byte)
  | case3 byte next rest marker =>
      refine iff_of_false (Option.some_ne_none _) ?_
      rw [lacks_cons_cons]
      exact fun lacks => lacks.1 marker.1 marker.2
  | case4 byte next rest noMarker ih =>
      rw [Option.map_eq_none_iff, ih, lacks_cons_cons, and_iff_right]
      exact fun isFill isCode => noMarker ⟨isFill, isCode⟩

private theorem lacks_of_cutAtMarker (found : cutAtMarker code data = some (before, after)) :
    Lacks code before := by
  fun_induction cutAtMarker code data generalizing before with
  | case1 => contradiction
  | case2 => contradiction
  | case3 byte next rest marker =>
      obtain ⟨rfl, rfl⟩ := Prod.mk.inj (Option.some.inj found)
      exact lacks_nil code
  | case4 byte next rest noMarker ih =>
      obtain ⟨⟨inner, outer⟩, cut, same⟩ := Option.map_eq_some_iff.mp found
      obtain ⟨rfl, rfl⟩ := Prod.mk.inj same
      have whole := append_eq_of_cutAtMarker cut
      cases inner with
      | nil => exact lacks_singleton code byte
      | cons head tail =>
          obtain ⟨rfl, _⟩ := List.cons.inj whole
          exact lacks_cons_cons.mpr ⟨fun isFill isCode => noMarker ⟨isFill, isCode⟩, ih cut⟩

theorem cutAtMarker_cons {byte : UInt8} (apart : byte = 0xff → data.head? ≠ some code)
    (found : cutAtMarker code data = some (before, after)) :
    cutAtMarker code (byte :: data) = some (byte :: before, after) := by
  cases data with
  | nil => contradiction
  | cons next rest =>
      have noMarker : ¬(byte = 0xff ∧ next = code) := by
        rintro ⟨isFill, rfl⟩
        exact apart isFill rfl
      rw [cutAtMarker, if_neg noMarker, found]
      rfl

/-- A code that is no fill byte makes a marker only with the byte in front of it. -/
theorem cutAtMarker_append (notFill : code ≠ 0xff) (lacks : Lacks code before) :
    cutAtMarker code (before ++ [0xff, code] ++ after) = some (before, after) := by
  induction before with
  | nil => simp [cutAtMarker]
  | cons byte rest ih =>
      cases rest with
      | nil =>
          refine cutAtMarker_cons ?_ (ih (lacks_nil code))
          intro _ isCode
          exact notFill (Option.some.inj isCode).symm
      | cons next more =>
          obtain ⟨apart, others⟩ := lacks_cons_cons.mp lacks
          refine cutAtMarker_cons ?_ (ih others)
          intro isFill isCode
          exact apart isFill (Option.some.inj isCode)

/-! ### Images -/

def jpegImage (inside : Bytes) : Bytes := [0xff, 0xd8] ++ inside ++ [0xff, 0xd9]

/-- An image that ends where it first can, and bytes in front of it in which none begins. -/
structure PlacedImage where
  gap : Bytes
  inside : Bytes
  noStart : Lacks 0xd8 gap
  noEnd : Lacks 0xd9 inside

namespace PlacedImage

def image (placed : PlacedImage) : Bytes := jpegImage placed.inside

def bytes (placed : PlacedImage) : Bytes := placed.gap ++ placed.image

end PlacedImage

/-- No image is complete: none begins, or the first one that does is not ended. -/
def IsUnfinished (tail : Bytes) : Prop :=
  Lacks 0xd8 tail ∨
    ∃ before after, tail = before ++ [0xff, 0xd8] ++ after ∧ Lacks 0xd8 before ∧ Lacks 0xd9 after

theorem jpegImages_eq_cons {gap afterStart inside rest : Bytes}
    (start : cutAtMarker 0xd8 data = some (gap, afterStart))
    (stop : cutAtMarker 0xd9 afterStart = some (inside, rest)) :
    jpegImages data = jpegImage inside :: jpegImages rest := by
  rw [jpegImages]
  split
  · simp_all
  · split <;> simp_all [jpegImage]

theorem jpegImages_eq_nil {gap afterStart : Bytes}
    (start : cutAtMarker 0xd8 data = some (gap, afterStart))
    (none : cutAtMarker 0xd9 afterStart = none) : jpegImages data = [] := by
  rw [jpegImages]
  split
  · rfl
  · split <;> simp_all

theorem jpegImages_bytes_append (placed : PlacedImage) (rest : Bytes) :
    jpegImages (placed.bytes ++ rest) = placed.image :: jpegImages rest := by
  have start : cutAtMarker 0xd8 (placed.bytes ++ rest) =
      some (placed.gap, placed.inside ++ [0xff, 0xd9] ++ rest) := by
    rw [← cutAtMarker_append (by decide) placed.noStart]
    simp [PlacedImage.bytes, PlacedImage.image, jpegImage]
  exact jpegImages_eq_cons start (cutAtMarker_append (by decide) placed.noEnd)

theorem jpegImages_append (pieces : List PlacedImage) (rest : Bytes) :
    jpegImages (pieces.flatMap PlacedImage.bytes ++ rest) =
      pieces.map PlacedImage.image ++ jpegImages rest := by
  induction pieces with
  | nil => rfl
  | cons placed others ih =>
      rw [List.flatMap_cons, List.append_assoc, jpegImages_bytes_append, ih]
      rfl

theorem jpegImages_of_isUnfinished {tail : Bytes} (unfinished : IsUnfinished tail) :
    jpegImages tail = [] := by
  rcases unfinished with lacks | ⟨before, after, rfl, noStart, noEnd⟩
  · rw [jpegImages]
    split
    · rfl
    · rename_i found
      simp [cutAtMarker_eq_none_iff.mpr lacks] at found
  · exact jpegImages_eq_nil (cutAtMarker_append (by decide) noStart)
      (cutAtMarker_eq_none_iff.mpr noEnd)

theorem exists_pieces (data : Bytes) :
    ∃ (pieces : List PlacedImage) (tail : Bytes),
      data = pieces.flatMap PlacedImage.bytes ++ tail ∧ IsUnfinished tail := by
  fun_induction jpegImages data with
  | case1 data none => exact ⟨[], data, rfl, .inl (cutAtMarker_eq_none_iff.mp none)⟩
  | case2 data gap afterStart start none =>
      refine ⟨[], data, rfl, .inr ⟨gap, afterStart, ?_, ?_, ?_⟩⟩
      · exact (append_eq_of_cutAtMarker start).symm
      · exact lacks_of_cutAtMarker start
      · exact cutAtMarker_eq_none_iff.mp none
  | case3 data gap afterStart start inside rest stop ih =>
      obtain ⟨pieces, tail, behind, unfinished⟩ := ih
      let placed : PlacedImage :=
        ⟨gap, inside, lacks_of_cutAtMarker start, lacks_of_cutAtMarker stop⟩
      refine ⟨placed :: pieces, tail, ?_, unfinished⟩
      have own : placed.bytes ++ rest = data := by
        rw [← append_eq_of_cutAtMarker start, ← append_eq_of_cutAtMarker stop]
        simp only [PlacedImage.bytes, PlacedImage.image, jpegImage, placed, List.append_assoc]
      rw [← own, behind, List.flatMap_cons, List.append_assoc]

/-! ### Images put together again -/

def interleave (gaps images : List Bytes) : Bytes :=
  (gaps.zip images).flatMap fun placed => placed.1 ++ placed.2

private theorem exists_pieces_of_interleave {gaps : List Bytes} (pieces : List PlacedImage)
    (each : gaps.length = pieces.length) (noStarts : ∀ gap ∈ gaps, Lacks 0xd8 gap) :
    ∃ others : List PlacedImage,
      others.map PlacedImage.image = pieces.map PlacedImage.image ∧
        others.flatMap PlacedImage.bytes = interleave gaps (pieces.map PlacedImage.image) := by
  induction pieces generalizing gaps with
  | nil => exact ⟨[], rfl, by rw [List.map_nil, interleave, List.zip_nil_right]; rfl⟩
  | cons placed rest ih =>
      cases gaps with
      | nil => contradiction
      | cons gap gaps =>
          obtain ⟨noStart, othersNoStart⟩ := List.forall_mem_cons.mp noStarts
          obtain ⟨others, images, bytes⟩ := ih (Nat.succ.inj each) othersNoStart
          refine ⟨{ placed with gap, noStart } :: others, ?_, ?_⟩
          · rw [List.map_cons, List.map_cons, images]
            rfl
          · rw [List.flatMap_cons, bytes]
            rfl

/-- The images of a file are cut out of it one behind the other, with what stands between them, in
the only way there is. With other bytes between them that begin none, or with nothing, the same
images come back. -/
theorem images_stand_between_markers (data : Bytes) :
    ∃ images, chunks .jpeg data = .ok images ∧
      (∃ (pieces : List PlacedImage) (tail : Bytes),
        pieces.map PlacedImage.image = images ∧
          data = pieces.flatMap PlacedImage.bytes ++ tail ∧ IsUnfinished tail) ∧
      (∀ (pieces : List PlacedImage) (tail : Bytes),
        data = pieces.flatMap PlacedImage.bytes ++ tail → IsUnfinished tail →
          pieces.map PlacedImage.image = images) ∧
      ∀ (gaps : List Bytes) (behind : Bytes), gaps.length = images.length →
        (∀ gap ∈ gaps, Lacks 0xd8 gap) → Lacks 0xd8 behind →
          chunks .jpeg (interleave gaps images ++ behind) = .ok images := by
  have cut : ∀ (pieces : List PlacedImage) (tail : Bytes), IsUnfinished tail →
      jpegImages (pieces.flatMap PlacedImage.bytes ++ tail) =
        pieces.map PlacedImage.image := by
    intro pieces tail unfinished
    rw [jpegImages_append, jpegImages_of_isUnfinished unfinished, List.append_nil]
  obtain ⟨pieces, tail, whole, unfinished⟩ := exists_pieces data
  have own : jpegImages data = pieces.map PlacedImage.image := by
    rw [whole, cut pieces tail unfinished]
  refine ⟨pieces.map PlacedImage.image, ?_, ⟨pieces, tail, rfl, whole, unfinished⟩, ?_, ?_⟩
  · rw [chunks, own]
  · intro others otherTail same otherUnfinished
    rw [← own, same, cut others otherTail otherUnfinished]
  · intro gaps behind each noStarts noStart
    rw [List.length_map] at each
    obtain ⟨others, images, bytes⟩ := exists_pieces_of_interleave pieces each noStarts
    rw [chunks, ← bytes, cut others behind (.inl noStart), images]

/-- An image with a start marker in it, fill bytes around its own markers, and an image behind it
that is not ended. -/
def nestedStart : Bytes :=
  [1, 0xff, 0xff, 0xd8, 0xd9, 0xff, 0xd8, 0xff, 0xff, 0xd9, 0xff, 0xd9, 0xff, 0xd8, 9]

theorem nested_start_comes_back :
    IsUnfinished [0xff, 0xd9, 0xff, 0xd8, 9] ∧ Lacks 0xd8 [0xff] ∧ Lacks 0xd8 [0xd8] ∧
      chunks .jpeg nestedStart = .ok [[0xff, 0xd8, 0xd9, 0xff, 0xd8, 0xff, 0xff, 0xd9]] ∧
      chunks .jpeg ([0xff] ++ [0xff, 0xd8, 0xd9, 0xff, 0xd8, 0xff, 0xff, 0xd9] ++ [0xd8]) =
        .ok [[0xff, 0xd8, 0xd9, 0xff, 0xd8, 0xff, 0xff, 0xd9]] := by
  have unfinished : IsUnfinished [0xff, 0xd9, 0xff, 0xd8, 9] :=
    .inr ⟨[0xff, 0xd9], [9], rfl, by decide, by decide⟩
  have gap : Lacks 0xd8 [0xff] := by decide
  have behind : Lacks 0xd8 [0xd8] := by decide
  obtain ⟨images, read, _, only, again⟩ := images_stand_between_markers nestedStart
  obtain rfl : [[0xff, 0xd8, 0xd9, 0xff, 0xd8, 0xff, 0xff, 0xd9]] = images :=
    only [⟨[1, 0xff], [0xd9, 0xff, 0xd8, 0xff], by decide, by decide⟩] _ rfl unfinished
  exact ⟨unfinished, gap, behind, read,
    again [[0xff]] [0xd8] rfl (List.forall_mem_singleton.mpr gap) behind⟩

end VideoIngest.Container
