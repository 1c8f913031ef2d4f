import Mathlib.Data.List.Induction
import VideoIngest.Assembler

/-! Every chunk of a stream for the decode engine comes to formats and coded frames. -/

namespace VideoIngest

def MediaItem.IsCoded : MediaItem → Prop
  | format _ => True
  | frame coded => coded.data ≠ []
  | picture _ => False

/-- The item is no frame without data. -/
def MediaItem.HasData : MediaItem → Prop
  | format _ => True
  | frame coded => coded.data ≠ []
  | picture _ => True

theorem MediaItem.IsCoded.hasData {item : MediaItem} (coded : item.IsCoded) : item.HasData := by
  cases item with
  | format announced => trivial
  | frame frame => exact coded
  | picture picture => trivial

def MediaItem.at (timestamp : Nat) : MediaItem → MediaItem
  | format announced => format announced
  | frame coded => frame { coded with timestamp }
  | picture shown => picture shown

private theorem MediaItem.timestamp_of_frame_eq_at {timestamp : Nat} {item : MediaItem}
    {coded : CodedFrame} (same : .frame coded = item.at timestamp) : coded.timestamp = timestamp := by
  cases item with
  | format announced => cases same
  | frame other =>
      obtain rfl := MediaItem.frame.inj same
      rfl
  | picture shown => cases same

theorem NalUnit.bytes_ne_nil (unit : NalUnit) : unit.bytes ≠ [] := by
  intro empty
  have noCode : unit.startCode.bytes = [] := (List.append_eq_nil_iff.mp empty).1
  cases code : unit.startCode with
  | short =>
      rw [code] at noCode
      contradiction
  | long =>
      rw [code] at noCode
      contradiction

namespace AnnexB

private theorem isCoded_onUnit {codec : NalCodec} {timestamp : Nat} {state : InChunk}
    {unit : NalUnit}
    {item : MediaItem} (emitted : (onUnit codec timestamp state unit).2 = some item) :
    item.IsCoded := by
  unfold onUnit at emitted
  cases role : codec.roleOfPayload unit.payload with
  | parameterSet kind =>
      rw [role] at emitted
      cases kind with
      | vps => contradiction
      | sps =>
          obtain rfl := Option.some.inj emitted
          trivial
      | pps => contradiction
  | key =>
      rw [role] at emitted
      obtain rfl := Option.some.inj emitted
      intro empty
      exact unit.bytes_ne_nil (List.append_eq_nil_iff.mp empty).2
  | delta =>
      rw [role] at emitted
      obtain rfl := Option.some.inj emitted
      exact unit.bytes_ne_nil
  | skip =>
      rw [role] at emitted
      contradiction

private theorem isCoded_onUnits {codec : NalCodec} {timestamp : Nat} {state : InChunk}
    {units : List NalUnit} :
    ∀ item ∈ (onUnits codec timestamp state units).2, item.IsCoded := by
  induction units generalizing state with
  | nil =>
      intro item member
      cases member
  | cons unit rest ih =>
      intro item member
      rcases List.mem_append.mp member with first | later
      · exact isCoded_onUnit (Option.mem_toList.mp first)
      · exact ih item later

/-! ### Timestamps -/

variable {codec : NalCodec}

private theorem onUnit_at (timestamp other : Nat) (state : InChunk) (unit : NalUnit) :
    onUnit codec timestamp state unit =
      ((onUnit codec other state unit).1,
        (onUnit codec other state unit).2.map (MediaItem.at timestamp)) := by
  unfold onUnit
  cases codec.roleOfPayload unit.payload with
  | parameterSet kind =>
      cases kind with
      | vps => rfl
      | pps => rfl
      | sps =>
          dsimp only
          cases onSps codec unit.payload state
          rfl
  | key => rfl
  | delta => rfl
  | skip => rfl

private theorem onUnits_at (timestamp other : Nat) (state : InChunk) (units : List NalUnit) :
    onUnits codec timestamp state units =
      ((onUnits codec other state units).1,
        (onUnits codec other state units).2.map (MediaItem.at timestamp)) := by
  induction units generalizing state with
  | nil => rfl
  | cons unit rest ih =>
      rw [onUnits, onUnits, onUnit_at timestamp other]
      dsimp only
      rw [ih, List.map_append]
      cases (onUnit codec other state unit).2 <;> rfl

theorem assemble_at (codec : NalCodec) (timestamp other : Nat) (kept : AnnexB) (chunk : Bytes) :
    kept.assemble codec chunk timestamp =
      ((kept.assemble codec chunk other).1,
        (kept.assemble codec chunk other).2.map (MediaItem.at timestamp)) := by
  unfold assemble
  rw [onUnits_at timestamp other]

end AnnexB

namespace Assembler

theorem codec_ofCodec (decoder : InlineDecoder) (codec : Codec) :
    (ofCodec decoder codec).codec = codec := by
  cases codec <;> rfl

def assembleAll : List (Bytes × Nat) → Assembler → Assembler × List MediaItem
  | [], assembler => (assembler, [])
  | (chunk, timestamp) :: rest, assembler =>
      match assembler.assemble chunk timestamp with
      | .error _ => assembleAll rest assembler
      | .ok (next, items) =>
          let (last, others) := assembleAll rest next
          (last, items ++ others)

theorem assembleAll_append_singleton {chunks : List (Bytes × Nat)} {chunk : Bytes}
    {timestamp : Nat} {assembler next : Assembler} {items : List MediaItem}
    (assembled : (assembler.assembleAll chunks).1.assemble chunk timestamp = .ok (next, items)) :
    assembler.assembleAll (chunks ++ [(chunk, timestamp)]) =
      (next, (assembler.assembleAll chunks).2 ++ items) := by
  induction chunks generalizing assembler with
  | nil =>
      have first : assembler.assemble chunk timestamp = .ok (next, items) := assembled
      simp [assembleAll, first]
  | cons head rest ih =>
      obtain ⟨bytes, time⟩ := head
      cases result : assembler.assemble bytes time with
      | error refusal =>
          simp only [assembleAll, result] at assembled
          simp only [List.cons_append, assembleAll, result]
          exact ih assembled
      | ok outcome =>
          obtain ⟨middle, own⟩ := outcome
          simp only [assembleAll, result] at assembled
          simp only [List.cons_append, assembleAll, result, ih assembled, List.append_assoc]

theorem assemble_of_usesEngine {assembler : Assembler}
    (usesEngine : assembler.codec.usesEngine = true) (chunk : Bytes) (timestamp : Nat) :
    ∃ next items, assembler.assemble chunk timestamp = .ok (next, items) ∧
      next.codec = assembler.codec ∧ ∀ item ∈ items, item.IsCoded := by
  cases assembler with
  | nal codec kept => exact ⟨_, _, rfl, rfl, AnnexB.isCoded_onUnits⟩
  | vp9 =>
      refine ⟨vp9, vp9Items chunk timestamp, rfl, rfl, ?_⟩
      intro item member
      unfold vp9Items at member
      cases chunk with
      | nil => cases member
      | cons byte rest =>
          rcases List.mem_cons.mp member with rfl | other
          · trivial
          · obtain rfl := List.mem_singleton.mp other
            exact List.cons_ne_nil byte rest
  | jpeg decoder => contradiction

theorem assembleAll_of_usesEngine {assembler : Assembler}
    (usesEngine : assembler.codec.usesEngine = true) (chunks : List (Bytes × Nat)) :
    (assembler.assembleAll chunks).1.codec = assembler.codec ∧
      ∀ item ∈ (assembler.assembleAll chunks).2, item.IsCoded := by
  induction chunks using List.reverseRecOn with
  | nil =>
      refine ⟨rfl, ?_⟩
      intro item member
      cases member
  | append_singleton chunks chunk ih =>
      obtain ⟨sameCodec, earlier⟩ := ih
      have stillEngine : (assembler.assembleAll chunks).1.codec.usesEngine = true := by
        rw [sameCodec]
        exact usesEngine
      obtain ⟨next, items, assembled, nextCodec, coded⟩ :=
        assemble_of_usesEngine stillEngine chunk.1 chunk.2
      rw [assembleAll_append_singleton assembled]
      refine ⟨nextCodec.trans sameCodec, ?_⟩
      intro item member
      rcases List.mem_append.mp member with before | new
      · exact earlier item before
      · exact coded item new

/-! ### JPEG -/

theorem assemble_jpeg (decoder : InlineDecoder) (chunk : Bytes) (timestamp : Nat) :
    (jpeg decoder).assemble chunk timestamp =
      match Jpeg.dimensions chunk with
      | .error cause => .error (.parse cause)
      | .ok (width, height) =>
          match decoder chunk width height with
          | .error failure => .error failure
          | .ok buffer => .ok (jpeg decoder, [.picture (.ofBuffer buffer width height timestamp)]) := by
  rw [assemble, jpegItems]
  cases Jpeg.dimensions chunk with
  | error cause => rfl
  | ok size =>
      obtain ⟨width, height⟩ := size
      change Except.map _ (decoder chunk width height >>= _) = _
      dsimp only
      cases decoder chunk width height <;> rfl

/-- A JPEG chunk is refused because of its header or by the decoder, or it is one picture. -/
theorem assemble_jpeg_cases (decoder : InlineDecoder) (chunk : Bytes) (timestamp : Nat) :
    (∃ cause, (jpeg decoder).assemble chunk timestamp = .error (.parse cause)) ∨
      (∃ width height failure, decoder chunk width height = .error failure ∧
        (jpeg decoder).assemble chunk timestamp = .error failure) ∨
      ∃ picture, (jpeg decoder).assemble chunk timestamp =
        .ok (jpeg decoder, [.picture picture]) := by
  rw [assemble_jpeg]
  cases Jpeg.dimensions chunk with
  | error cause => exact .inl ⟨cause, rfl⟩
  | ok size =>
      obtain ⟨width, height⟩ := size
      dsimp only
      cases decoded : decoder chunk width height with
      | error failure => exact .inr (.inl ⟨width, height, failure, decoded, rfl⟩)
      | ok buffer => exact .inr (.inr ⟨_, rfl⟩)

theorem hasData_assemble {assembler next : Assembler} {chunk : Bytes} {timestamp : Nat}
    {items : List MediaItem} (assembled : assembler.assemble chunk timestamp = .ok (next, items)) :
    ∀ item ∈ items, item.HasData := by
  cases usesEngine : assembler.codec.usesEngine with
  | true =>
      obtain ⟨_, others, same, _, coded⟩ := assemble_of_usesEngine usesEngine chunk timestamp
      rw [assembled] at same
      obtain ⟨_, rfl⟩ := Prod.mk.inj (Except.ok.inj same)
      intro item member
      exact (coded item member).hasData
  | false =>
      cases assembler with
      | nal codec kept => cases codec <;> contradiction
      | vp9 => contradiction
      | jpeg decoder =>
          rcases assemble_jpeg_cases decoder chunk timestamp with
            ⟨cause, refused⟩ | ⟨_, _, failure, _, refused⟩ | ⟨picture, decoded⟩
          · rw [refused] at assembled
            contradiction
          · rw [refused] at assembled
            contradiction
          · rw [decoded] at assembled
            obtain ⟨_, rfl⟩ := Prod.mk.inj (Except.ok.inj assembled)
            intro item member
            obtain rfl := List.mem_singleton.mp member
            trivial

theorem timestamp_of_frame_mem {assembler next : Assembler} {chunk : Bytes} {timestamp : Nat}
    {items : List MediaItem} (assembled : assembler.assemble chunk timestamp = .ok (next, items))
    {coded : CodedFrame} (member : .frame coded ∈ items) : coded.timestamp = timestamp := by
  cases assembler with
  | nal codec kept =>
      obtain ⟨_, rfl⟩ := Prod.mk.inj (Except.ok.inj assembled)
      rw [AnnexB.onUnits_at timestamp timestamp] at member
      obtain ⟨item, _, same⟩ := List.mem_map.mp member
      exact MediaItem.timestamp_of_frame_eq_at same.symm
  | vp9 =>
      obtain ⟨_, rfl⟩ := Prod.mk.inj (Except.ok.inj assembled)
      unfold vp9Items at member
      split at member
      · cases member
      · simp only [List.mem_cons, reduceCtorEq, MediaItem.frame.injEq, List.not_mem_nil,
          or_false, false_or] at member
        rw [member]
  | jpeg decoder =>
      rcases assemble_jpeg_cases decoder chunk timestamp with
        ⟨cause, refused⟩ | ⟨_, _, failure, _, refused⟩ | ⟨picture, decoded⟩
      · rw [refused] at assembled
        cases assembled
      · rw [refused] at assembled
        cases assembled
      · rw [decoded] at assembled
        obtain ⟨_, rfl⟩ := Prod.mk.inj (Except.ok.inj assembled)
        simp at member

/-! ### Refusals -/

/-- The assembler leaves pictures to no other decoder than this one. -/
def DecodesWith (decoder : InlineDecoder) : Assembler → Prop
  | nal _ _ => True
  | vp9 => True
  | jpeg own => own = decoder

theorem decodesWith_ofCodec (decoder : InlineDecoder) (codec : Codec) :
    (ofCodec decoder codec).DecodesWith decoder := by
  cases codec with
  | h264 => trivial
  | h265 => trivial
  | jpeg => rfl
  | vp9 => trivial

theorem DecodesWith.assemble {decoder : InlineDecoder} {assembler next : Assembler} {chunk : Bytes}
    {timestamp : Nat} {items : List MediaItem} (uses : assembler.DecodesWith decoder)
    (assembled : assembler.assemble chunk timestamp = .ok (next, items)) :
    next.DecodesWith decoder := by
  cases assembler with
  | nal codec kept =>
      obtain ⟨rfl, _⟩ := Prod.mk.inj (Except.ok.inj assembled)
      trivial
  | vp9 =>
      obtain ⟨rfl, _⟩ := Prod.mk.inj (Except.ok.inj assembled)
      trivial
  | jpeg own =>
      rcases assemble_jpeg_cases own chunk timestamp with
        ⟨cause, refused⟩ | ⟨_, _, failure, _, refused⟩ | ⟨picture, decoded⟩
      · rw [refused] at assembled
        contradiction
      · rw [refused] at assembled
        contradiction
      · rw [decoded] at assembled
        obtain ⟨rfl, _⟩ := Prod.mk.inj (Except.ok.inj assembled)
        exact uses

/-- A chunk is refused because of its header or by the decoder. -/
theorem DecodesWith.refusal {decoder : InlineDecoder} {assembler : Assembler} {chunk : Bytes}
    {timestamp : Nat} {failure : IngestError} (uses : assembler.DecodesWith decoder)
    (refused : assembler.assemble chunk timestamp = .error failure) :
    (∃ cause, failure = .parse cause) ∨
      ∃ width height, decoder chunk width height = .error failure := by
  cases assembler with
  | nal codec kept => contradiction
  | vp9 => contradiction
  | jpeg own =>
      obtain rfl : own = decoder := uses
      rcases assemble_jpeg_cases own chunk timestamp with
        ⟨cause, result⟩ | ⟨width, height, _, decoded, result⟩ | ⟨picture, result⟩
      · rw [result] at refused
        exact .inl ⟨cause, (Except.error.inj refused).symm⟩
      · rw [result] at refused
        obtain rfl := Except.error.inj refused
        exact .inr ⟨width, height, decoded⟩
      · rw [result] at refused
        contradiction

end Assembler
end VideoIngest
