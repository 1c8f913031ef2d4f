import VideoIngest.Jpeg.Marker
import VideoIngest.Proofs.Container.JpegImages

/-!
Whole JPEG files one behind the other.

Images are cut at their markers alone, whatever segment these stand in. So a file is cut short where
a segment holds the end marker, and only there: `Container.files_come_back_iff`.
-/

namespace VideoIngest.Container

/-! ### Files -/

def beginsSegment (marker : UInt8) : Bool :=
  2 ≤ marker && marker ≠ 0xff && !(0xd0 ≤ marker && marker ≤ 0xd9)

/-- Every fill byte in coded data is followed by a zero, or by the code of a restart marker. -/
structure IsStuffed (coded : Bytes) : Prop where
  inside : coded.IsChain fun byte next => byte = 0xff → next = 0 ∨ Jpeg.isRestart next = true
  last : coded.getLast? ≠ some 0xff

theorem isStuffed_nil : IsStuffed [] := ⟨List.isChain_nil, nofun⟩

/-- A segment of a file, and the coded data that stand behind it if it begins a scan. -/
structure JpegSegment where
  marker : UInt8
  payload : Bytes
  coded : Bytes
  begins : beginsSegment marker = true
  fits : payload.length + 2 < 0x10000
  onlyScan : marker ≠ Jpeg.startOfScan → coded = []
  stuffed : IsStuffed coded

namespace JpegSegment

/-- The length in two bytes, most significant first, which counts itself, and the payload. -/
def measured (segment : JpegSegment) : Bytes :=
  [.ofNat ((segment.payload.length + 2) / 0x100), .ofNat (segment.payload.length + 2)] ++
    segment.payload

def bytes (segment : JpegSegment) : Bytes :=
  [0xff, segment.marker] ++ segment.measured ++ segment.coded

end JpegSegment

structure JpegFile where
  segments : List JpegSegment
  hasScan : ∃ segment ∈ segments, segment.marker = Jpeg.startOfScan

namespace JpegFile

def body (file : JpegFile) : Bytes := file.segments.flatMap JpegSegment.bytes

def bytes (file : JpegFile) : Bytes := jpegImage file.body

end JpegFile

/-! ### Where the end marker may stand -/

private theorem IsStuffed.lacks {coded : Bytes} (stuffed : IsStuffed coded) : Lacks 0xd9 coded := by
  rw [lacks_iff_isChain]
  refine stuffed.inside.imp ?_
  rintro byte next follows isFill rfl
  rcases follows isFill with zero | restart
  · cases zero
  · cases restart

/-- Coded data hold no end marker, and may give it its code only with their first byte. -/
private theorem lacks_append_coded {front coded : Bytes} (stuffed : IsStuffed coded) :
    Lacks 0xd9 (front ++ coded) ↔ Lacks 0xd9 (front ++ coded.take 1) := by
  rw [lacks_append, lacks_append, and_iff_right stuffed.lacks]
  cases coded with
  | nil => rw [List.take_nil, and_iff_right (lacks_nil 0xd9)]
  | cons first rest => rw [List.take_one, List.head?_cons, Option.toList_some,
      and_iff_right (lacks_singleton 0xd9 first), List.head?_cons]

private theorem ne_of_beginsSegment {marker : UInt8} (begins : beginsSegment marker = true) :
    marker ≠ 0xff ∧ marker ≠ 0xd9 := by
  constructor
  · rintro rfl
    cases begins
  · rintro rfl
    cases begins

namespace JpegSegment

theorem lacks_bytes_iff (segment : JpegSegment) :
    Lacks 0xd9 segment.bytes ↔ Lacks 0xd9 (segment.measured ++ segment.coded.take 1) := by
  obtain ⟨notFill, notEnd⟩ := ne_of_beginsSegment segment.begins
  rw [← lacks_append_coded segment.stuffed, bytes, List.append_assoc]
  change Lacks 0xd9 (0xff :: segment.marker :: _ :: _) ↔ _
  rw [lacks_cons_cons, lacks_cons_cons, and_iff_right (fun _ => notEnd),
    and_iff_right (fun isFill => absurd isFill notFill)]
  rfl

end JpegSegment

theorem lacks_flatMap_bytes_iff (segments : List JpegSegment) :
    Lacks 0xd9 (segments.flatMap JpegSegment.bytes) ↔
      ∀ segment ∈ segments, Lacks 0xd9 segment.bytes := by
  induction segments with
  | nil => exact iff_of_true (lacks_nil 0xd9) (List.forall_mem_nil _)
  | cons segment rest ih =>
      -- The next segment begins with a fill byte, which is no code.
      have border : ∀ last ∈ segment.bytes.getLast?,
          ∀ first ∈ (rest.flatMap JpegSegment.bytes).head?, last = 0xff → first ≠ 0xd9 := by
        intro last _ first isFirst _
        cases rest with
        | nil => contradiction
        | cons next others =>
            obtain rfl : 0xff = first := Option.some.inj isFirst
            decide
      rw [List.flatMap_cons, lacks_append, ih, List.forall_mem_cons, and_iff_left border]

theorem lacks_body_iff (file : JpegFile) :
    Lacks 0xd9 file.body ↔
      ∀ segment ∈ file.segments, Lacks 0xd9 (segment.measured ++ segment.coded.take 1) := by
  rw [JpegFile.body, lacks_flatMap_bytes_iff]
  exact forall₂_congr fun segment _ => segment.lacks_bytes_iff

/-! ### Files that are cut apart again -/

theorem jpegImage_injective {inside other : Bytes} (same : jpegImage inside = jpegImage other) :
    inside = other := by
  unfold jpegImage at same
  exact List.append_cancel_left (List.append_cancel_right same)

private theorem lacks_of_jpegImages {data inside : Bytes}
    (member : jpegImage inside ∈ jpegImages data) : Lacks 0xd9 inside := by
  obtain ⟨pieces, tail, rfl, unfinished⟩ := exists_pieces data
  rw [jpegImages_append, jpegImages_of_isUnfinished unfinished, List.append_nil] at member
  obtain ⟨placed, _, same⟩ := List.mem_map.mp member
  rw [← jpegImage_injective same]
  exact placed.noEnd

theorem jpegImages_of_lacks {files : List JpegFile}
    (lacks : ∀ file ∈ files, Lacks 0xd9 file.body) :
    jpegImages (files.flatMap JpegFile.bytes) = files.map JpegFile.bytes := by
  induction files with
  | nil => exact jpegImages_of_isUnfinished (.inl (lacks_nil 0xd8))
  | cons file rest ih =>
      obtain ⟨own, others⟩ := List.forall_mem_cons.mp lacks
      have first := jpegImages_bytes_append ⟨[], file.body, lacks_nil 0xd8, own⟩
        (rest.flatMap JpegFile.bytes)
      rw [ih others] at first
      exact first

/-- Files one behind the other come back as they are just where no segment of theirs holds the end
marker in its length and payload, or ends in its first half where coded data begin with the other. -/
theorem files_come_back_iff (files : List JpegFile) :
    chunks .jpeg (files.flatMap JpegFile.bytes) = .ok (files.map JpegFile.bytes) ↔
      ∀ file ∈ files, ∀ segment ∈ file.segments,
        Lacks 0xd9 (segment.measured ++ segment.coded.take 1) := by
  rw [chunks, Except.ok.injEq]
  constructor
  · intro same file member
    rw [← lacks_body_iff]
    apply lacks_of_jpegImages
    rw [same]
    exact List.mem_map_of_mem member
  · intro lacks
    exact jpegImages_of_lacks fun file member => (lacks_body_iff file).mpr (lacks file member)

def scanOnly : JpegSegment where
  marker := Jpeg.startOfScan
  payload := [1, 1, 0, 0, 0x3f, 0]
  coded := [0x2a, 0xff, 0, 0xff, 0xd0, 7]
  begins := by decide
  fits := by decide
  onlyScan := fun isOther => absurd rfl isOther
  stuffed := ⟨by decide, by decide⟩

def commented (comment : Bytes) (fits : comment.length + 2 < 0x10000) : JpegFile where
  segments := [⟨0xfe, comment, [], by decide, fits, fun _ => rfl, isStuffed_nil⟩, scanOnly]
  hasScan := ⟨scanOnly, by simp, rfl⟩

theorem files_with_start_in_comment_come_back :
    (∀ file ∈ [commented [0xff, 0xd8] (by decide), commented [] (by decide)],
        ∀ segment ∈ file.segments, Lacks 0xd9 (segment.measured ++ segment.coded.take 1)) ∧
      chunks .jpeg ([commented [0xff, 0xd8] (by decide), commented [] (by decide)].flatMap
          JpegFile.bytes) =
        .ok [(commented [0xff, 0xd8] (by decide)).bytes, (commented [] (by decide)).bytes] := by
  have lacks : ∀ file ∈ [commented [0xff, 0xd8] (by decide), commented [] (by decide)],
      ∀ segment ∈ file.segments, Lacks 0xd9 (segment.measured ++ segment.coded.take 1) := by
    simp only [commented, List.forall_mem_cons]
    decide
  exact ⟨lacks, (files_come_back_iff _).mpr lacks⟩

/-- The file ends with its comment, and its scan is in no image. -/
theorem end_in_comment_cuts_file_short :
    (commented [0xff, 0xd9] (by decide)).bytes =
        [0xff, 0xd8, 0xff, 0xfe, 0, 4, 0xff, 0xd9, 0xff, 0xda, 0, 8, 1, 1, 0, 0, 0x3f, 0,
          0x2a, 0xff, 0, 0xff, 0xd0, 7, 0xff, 0xd9] ∧
      chunks .jpeg (commented [0xff, 0xd9] (by decide)).bytes =
        .ok [[0xff, 0xd8, 0xff, 0xfe, 0, 4, 0xff, 0xd9]] ∧
      ¬∀ files : List JpegFile, files ≠ [] →
        chunks .jpeg (files.flatMap JpegFile.bytes) = .ok (files.map JpegFile.bytes) := by
  have cut : jpegImages (commented [0xff, 0xd9] (by decide)).bytes =
      [[0xff, 0xd8, 0xff, 0xfe, 0, 4, 0xff, 0xd9]] := by
    have behind : jpegImages
        [0xff, 0xda, 0, 8, 1, 1, 0, 0, 0x3f, 0, 0x2a, 0xff, 0, 0xff, 0xd0, 7, 0xff, 0xd9] = [] :=
      jpegImages_of_isUnfinished (.inl (by decide))
    have first := jpegImages_bytes_append
      ⟨[], [0xff, 0xfe, 0, 4], lacks_nil 0xd8, by decide⟩
      [0xff, 0xda, 0, 8, 1, 1, 0, 0, 0x3f, 0, 0x2a, 0xff, 0, 0xff, 0xd0, 7, 0xff, 0xd9]
    rwa [behind] at first
  refine ⟨by decide, by rw [chunks, cut], ?_⟩
  intro comeBack
  have whole := comeBack [commented [0xff, 0xd9] (by decide)] (List.cons_ne_nil _ _)
  rw [List.flatMap_singleton, chunks, cut] at whole
  exact absurd whole (by decide)

end VideoIngest.Container
