import VideoIngest.Proofs.Assembler.Coded
import VideoIngest.Proofs.Assembler.KeyFrames
import VideoIngest.Proofs.Nal.PictureSize

/-!
The items that come out of a stream of NAL units, unit by unit.

Only sequence parameter sets and the parts of pictures come to items. The active format is the last
format with a known picture size among these items, so that it never runs ahead of what has been
announced.
-/

namespace VideoIngest

def MediaItem.known? : MediaItem → Option VideoFormat
  | format announced => if announced.isDegenerate then none else some announced
  | frame _ => none
  | picture _ => none

theorem VideoFormat.isDegenerate_eq_false {codec : Codec} {width height : Nat} (wide : 0 < width)
    (high : 0 < height) : (⟨codec, width, height⟩ : VideoFormat).isDegenerate = false := by
  unfold isDegenerate
  rw [beq_false_of_ne (Nat.ne_of_gt wide), beq_false_of_ne (Nat.ne_of_gt high)]
  rfl

private theorem MediaItem.known?_format_of_pos {codec : Codec} {width height : Nat}
    (wide : 0 < width) (high : 0 < height) :
    (MediaItem.format ⟨codec, width, height⟩).known? = some ⟨codec, width, height⟩ :=
  if_neg (Bool.eq_false_iff.mp (VideoFormat.isDegenerate_eq_false wide high))

namespace AnnexB

open StreamUnit

def isShown : NalRole → Bool
  | .parameterSet .sps => true
  | .parameterSet .vps => false
  | .parameterSet .pps => false
  | .key => true
  | .delta => true
  | .skip => false

def hasItem (codec : NalCodec) (unit : NalUnit) : Bool :=
  decide (codec.headerSize ≤ unit.payload.length) && isShown (codec.roleOfPayload unit.payload)

/-- The items that a unit may come to. What stands in front of a key unit is left open. -/
inductive ComesTo (codec : NalCodec) (timestamp : Nat) (unit : NalUnit) : MediaItem → Prop
  | known {width height : Nat} (role : codec.roleOfPayload unit.payload = .parameterSet .sps)
      (read : codec.pictureSize unit.payload = .ok (width, height))
      (wide : 0 < width) (high : 0 < height) :
      ComesTo codec timestamp unit (.format ⟨codec.codec, width, height⟩)
  | unknown {cause : ParseError} (role : codec.roleOfPayload unit.payload = .parameterSet .sps)
      (unreadable : codec.pictureSize unit.payload = .error cause) :
      ComesTo codec timestamp unit (.format (.unknown codec.codec))
  | key (front : Bytes) (role : codec.roleOfPayload unit.payload = .key) :
      ComesTo codec timestamp unit (.frame { data := front ++ unit.bytes, timestamp, kind := .key })
  | delta (role : codec.roleOfPayload unit.payload = .delta) :
      ComesTo codec timestamp unit (.frame { data := unit.bytes, timestamp, kind := .delta })

variable {codec : NalCodec} {timestamp : Nat} {state : InChunk} {unit : NalUnit}

/-- A sequence parameter set announces a degenerate format exactly where it cannot be read. -/
private theorem ComesTo.format_spec {format : VideoFormat}
    (comes : ComesTo codec timestamp unit (.format format)) :
    format.codec = codec.codec ∧
      (format.isDegenerate = true ↔ ∃ cause, codec.pictureSize unit.payload = .error cause) := by
  cases comes with
  | known role read wide high =>
      refine ⟨rfl, ?_⟩
      rw [VideoFormat.isDegenerate_eq_false wide high, read]
      constructor
      · intro impossible
        cases impossible
      · rintro ⟨cause, impossible⟩
        cases impossible
  | unknown role unreadable => exact ⟨rfl, fun _ => ⟨_, unreadable⟩, fun _ => rfl⟩

theorem headerSize_le_of_role {payload : Bytes} (role : codec.roleOfPayload payload ≠ .skip) :
    codec.headerSize ≤ payload.length := by
  apply Nat.le_of_not_lt
  intro short
  apply role
  unfold NalCodec.roleOfPayload
  rw [if_pos short]

private theorem hasItem_eq (codec : NalCodec) (unit : NalUnit) :
    hasItem codec unit = isShown (codec.roleOfPayload unit.payload) := by
  unfold hasItem
  by_cases skipped : codec.roleOfPayload unit.payload = .skip
  · rw [skipped]
    exact Bool.and_false _
  · rw [decide_eq_true (headerSize_le_of_role skipped), Bool.true_and]

/-! ### One unit -/

def itemBehind (codec : NalCodec) (timestamp : Nat) (sets : Bytes) (unit : NalUnit) :
    Option MediaItem :=
  match codec.roleOfPayload unit.payload with
  | .parameterSet .sps =>
      match codec.pictureSize unit.payload with
      | .error _ => some (.format (.unknown codec.codec))
      | .ok (width, height) => some (.format ⟨codec.codec, width, height⟩)
  | .parameterSet .vps => none
  | .parameterSet .pps => none
  | .key => some (.frame { data := sets ++ unit.bytes, timestamp, kind := .key })
  | .delta => some (.frame { data := unit.bytes, timestamp, kind := .delta })
  | .skip => none

theorem item_onUnit (codec : NalCodec) (timestamp : Nat) (state : InChunk) (unit : NalUnit) :
    (onUnit codec timestamp state unit).2 =
      itemBehind codec timestamp (state.kept.sets.snapshot.getD []) unit := by
  unfold onUnit itemBehind
  cases role : codec.roleOfPayload unit.payload with
  | parameterSet kind =>
      cases kind with
      | vps => rfl
      | sps =>
          unfold onSps
          cases codec.pictureSize unit.payload with
          | error cause => rfl
          | ok size => rfl
      | pps => rfl
  | key => rfl
  | delta => rfl
  | skip => rfl

private theorem item?_eq_itemBehind (codec : NalCodec) (earlier : List StreamUnit)
    (placed : StreamUnit) : item? codec earlier placed =
      itemBehind codec placed.timestamp (leadingSets codec earlier) placed.unit := by
  unfold item? itemBehind
  cases role : placed.role codec with
  | parameterSet kind =>
      rw [show codec.roleOfPayload placed.unit.payload = _ from role]
      cases kind with
      | vps => rfl
      | sps =>
          unfold format size?
          rw [set?_eq_some role]
          cases read : codec.pictureSize placed.unit.payload with
          | error cause => simp [read, Except.toOption]
          | ok size => simp [read, Except.toOption]
      | pps => rfl
  | key => rw [show codec.roleOfPayload placed.unit.payload = _ from role]
  | delta => rw [show codec.roleOfPayload placed.unit.payload = _ from role]
  | skip => rw [show codec.roleOfPayload placed.unit.payload = _ from role]

theorem comesTo_of_itemBehind {sets : Bytes} {item : MediaItem}
    (shown : itemBehind codec timestamp sets unit = some item) :
    hasItem codec unit = true ∧ ComesTo codec timestamp unit item := by
  rw [hasItem_eq]
  unfold itemBehind at shown
  cases role : codec.roleOfPayload unit.payload with
  | parameterSet kind =>
      rw [role] at shown
      cases kind with
      | vps => contradiction
      | sps =>
          refine ⟨rfl, ?_⟩
          cases read : codec.pictureSize unit.payload with
          | error cause =>
              rw [read] at shown
              obtain rfl := Option.some.inj shown
              exact .unknown role read
          | ok size =>
              rw [read] at shown
              obtain rfl := Option.some.inj shown
              obtain ⟨wide, high⟩ := NalCodec.size_pos_of_pictureSize read
              exact .known role read wide high
      | pps => contradiction
  | key =>
      rw [role] at shown
      obtain rfl := Option.some.inj shown
      exact ⟨rfl, .key sets role⟩
  | delta =>
      rw [role] at shown
      obtain rfl := Option.some.inj shown
      exact ⟨rfl, .delta role⟩
  | skip =>
      rw [role] at shown
      contradiction

theorem hasItem_of_itemBehind_eq_none {sets : Bytes}
    (hidden : itemBehind codec timestamp sets unit = none) : hasItem codec unit = false := by
  rw [hasItem_eq]
  unfold itemBehind at hidden
  cases role : codec.roleOfPayload unit.payload with
  | parameterSet kind =>
      cases kind with
      | vps => rfl
      | sps =>
          rw [role] at hidden
          cases read : codec.pictureSize unit.payload <;> rw [read] at hidden <;> contradiction
      | pps => rfl
  | key =>
      rw [role] at hidden
      contradiction
  | delta =>
      rw [role] at hidden
      contradiction
  | skip => rfl

private theorem active_announce (format : VideoFormat) (state : InChunk) :
    (announce format state).active = some format := by
  unfold announce
  cases active : state.kept.active with
  | none => rfl
  | some previous =>
      by_cases same : previous = format
      · rw [same] at active
        simp only [same, if_true]
        exact active
      · simp only [if_neg same]

/-- Only a format with a known picture size becomes the active one. -/
private theorem active_onUnit (codec : NalCodec) (timestamp : Nat) (state : InChunk)
    (unit : NalUnit) : (onUnit codec timestamp state unit).1.kept.active =
      ((onUnit codec timestamp state unit).2.bind MediaItem.known?).or state.kept.active := by
  unfold onUnit
  cases role : codec.roleOfPayload unit.payload with
  | parameterSet kind =>
      cases kind with
      | vps => rfl
      | sps =>
          unfold onSps
          cases read : codec.pictureSize unit.payload with
          | error cause => rfl
          | ok size =>
              obtain ⟨wide, high⟩ := NalCodec.size_pos_of_pictureSize read
              dsimp only [Option.bind_some, remember]
              rw [active_announce, MediaItem.known?_format_of_pos wide high]
              rfl
      | pps => rfl
  | key => rfl
  | delta => rfl
  | skip => rfl

/-! ### The units of a chunk -/

private theorem forall₂_filter_singleton {α β : Type} {relation : α → β → Prop} {keep : α → Bool}
    {entry : α} {value : Option β}
    (shown : ∀ found, value = some found → keep entry = true ∧ relation entry found)
    (hidden : value = none → keep entry = false) :
    List.Forall₂ relation ([entry].filter keep) value.toList := by
  cases value with
  | none =>
      rw [List.filter_cons_of_neg (by rw [hidden rfl]; exact Bool.false_ne_true)]
      exact .nil
  | some found =>
      obtain ⟨kept, related⟩ := shown found rfl
      rw [List.filter_cons_of_pos kept]
      exact .cons related .nil

private theorem forall₂_onUnits (codec : NalCodec) (timestamp : Nat) (state : InChunk)
    (units : List NalUnit) :
    List.Forall₂ (ComesTo codec timestamp) (units.filter (hasItem codec))
      (onUnits codec timestamp state units).2 := by
  induction units generalizing state with
  | nil => exact .nil
  | cons unit rest ih =>
      have first : List.Forall₂ (ComesTo codec timestamp) ([unit].filter (hasItem codec))
          (onUnit codec timestamp state unit).2.toList := by
        rw [item_onUnit]
        exact forall₂_filter_singleton (fun _ => comesTo_of_itemBehind)
          hasItem_of_itemBehind_eq_none
      rw [← List.singleton_append, List.filter_append]
      exact List.rel_append first (ih _)

private theorem active_onUnits (codec : NalCodec) (timestamp : Nat) (state : InChunk)
    (units : List NalUnit) :
    (onUnits codec timestamp state units).1.kept.active =
      (History.latest? MediaItem.known? (onUnits codec timestamp state units).2).or
        state.kept.active := by
  induction units generalizing state with
  | nil => rfl
  | cons unit rest ih =>
      change (onUnits codec timestamp (onUnit codec timestamp state unit).1 rest).1.kept.active = _
      rw [ih, active_onUnit, ← Option.or_assoc, ← History.latest?_toList, ← History.latest?_append]
      rfl

/-! ### The units of a stream -/

/-- A readable sequence parameter set is what a known format comes from. -/
private theorem known?_item? (codec : NalCodec) (earlier : List StreamUnit) (placed : StreamUnit) :
    (item? codec earlier placed).bind MediaItem.known? =
      (placed.size? codec).map fun size => ⟨codec.codec, size.1, size.2⟩ := by
  by_cases isSps : placed.role codec = .parameterSet .sps
  · have size : placed.size? codec = (codec.pictureSize placed.unit.payload).toOption := by
      rw [size?, set?_eq_some isSps]
      rfl
    unfold item? format
    rw [isSps, size]
    cases read : codec.pictureSize placed.unit.payload with
    | error cause => rfl
    | ok size =>
        obtain ⟨wide, high⟩ := NalCodec.size_pos_of_pictureSize read
        exact MediaItem.known?_format_of_pos wide high
  · rw [size?_eq_none isSps]
    unfold item?
    cases role : placed.role codec with
    | parameterSet kind =>
        cases kind with
        | vps => rfl
        | sps => exact absurd role isSps
        | pps => rfl
    | key => rfl
    | delta => rfl
    | skip => rfl

private theorem forall₂_collect (codec : NalCodec) (units : List StreamUnit) :
    List.Forall₂ (fun placed => ComesTo codec placed.timestamp placed.unit)
      (units.filter fun placed => hasItem codec placed.unit)
      (History.collect (item? codec) units) := by
  induction units using List.reverseRecOn with
  | nil => exact .nil
  | append_singleton units placed ih =>
      rw [List.filter_append, History.collect_append_singleton]
      apply List.rel_append ih
      rw [item?_eq_itemBehind]
      exact forall₂_filter_singleton (fun _ => comesTo_of_itemBehind) hasItem_of_itemBehind_eq_none

private theorem latest?_known?_collect (codec : NalCodec) (units : List StreamUnit) :
    History.latest? MediaItem.known? (History.collect (item? codec) units) =
      (History.latest? (size? codec) units).map fun size => ⟨codec.codec, size.1, size.2⟩ := by
  induction units using List.reverseRecOn with
  | nil => rfl
  | append_singleton units placed ih =>
      rw [History.collect_append_singleton, History.latest?_append, History.latest?_toList, ih,
        known?_item?, latestSize_append_singleton, Option.map_or]

/-- In front of the frame of a unit stand the items of the units in front of the unit. -/
private theorem exists_frame_of_stream {codec : NalCodec} {chunks : List (Bytes × Nat)}
    {before after : List StreamUnit} {placed : StreamUnit}
    (stream : streamUnits codec chunks = before ++ placed :: after)
    (isFrame : placed.role codec = .key ∨ placed.role codec = .delta) :
    ∃ coded later,
      (assembleAll codec chunks (.fresh codec)).2 =
          History.collect (item? codec) before ++ .frame coded :: later ∧
        ComesTo codec placed.timestamp placed.unit (.frame coded) := by
  obtain ⟨coded, shown⟩ : ∃ coded, item? codec before placed = some (.frame coded) := by
    unfold item?
    rcases isFrame with isKey | isDelta
    · rw [isKey]
      exact ⟨_, rfl⟩
    · rw [isDelta]
      exact ⟨_, rfl⟩
  rw [item?_eq_itemBehind] at shown
  refine ⟨coded, History.collect (fun later => item? codec (before ++ placed :: later)) after, ?_,
    (comesTo_of_itemBehind shown).2⟩
  rw [← (reflects_assembleAll codec chunks).2, stream, History.collect_append,
    History.collect_cons, List.append_nil, item?_eq_itemBehind, shown]
  rfl

/-- Every chunk comes to one item for each unit that has one, in the order of the units. Whatever the
chunks were, the active format is the last one with a known size that was announced; a frame stands
behind the format of the picture size that was current in the stream where its unit stood; and a
sequence parameter set that cannot be read leaves the active format alone. -/
theorem items_mirror_units (codec : NalCodec) :
    (∀ (kept : AnnexB) (chunk : Bytes) (timestamp : Nat), ∃ next items,
      (Assembler.nal codec kept).assemble chunk timestamp = .ok (.nal codec next, items) ∧
        List.Forall₂ (ComesTo codec timestamp) ((NalUnit.scan chunk).filter (hasItem codec)) items ∧
        next.active = (History.latest? MediaItem.known? items).or kept.active) ∧
      (∀ chunks : List (Bytes × Nat),
        (assembleAll codec chunks (.fresh codec)).1.active =
            History.latest? MediaItem.known? (assembleAll codec chunks (.fresh codec)).2 ∧
          ∀ before placed after, streamUnits codec chunks = before ++ placed :: after →
            placed.role codec = .key ∨ placed.role codec = .delta →
            ∃ earlier coded later,
              (assembleAll codec chunks (.fresh codec)).2 = earlier ++ .frame coded :: later ∧
                List.Forall₂ (fun other => ComesTo codec other.timestamp other.unit)
                  (before.filter fun other => hasItem codec other.unit) earlier ∧
                ComesTo codec placed.timestamp placed.unit (.frame coded) ∧
                History.latest? MediaItem.known? earlier =
                  (History.latest? (size? codec) before).map fun size =>
                    ⟨codec.codec, size.1, size.2⟩) ∧
      (∀ timestamp unit format, ComesTo codec timestamp unit (.format format) →
        format.codec = codec.codec ∧
          (format.isDegenerate = true ↔ ∃ cause, codec.pictureSize unit.payload = .error cause)) ∧
      ∀ (timestamp : Nat) (state : InChunk) (unit : NalUnit) (cause : ParseError),
        codec.roleOfPayload unit.payload = .parameterSet .sps →
        codec.pictureSize unit.payload = .error cause →
        (onUnit codec timestamp state unit).1.kept.active = state.kept.active := by
  refine ⟨?_, ?_, fun _ _ _ comes => comes.format_spec, ?_⟩
  · intro kept chunk timestamp
    exact ⟨_, _, rfl, forall₂_onUnits codec timestamp ⟨kept, none⟩ _, active_onUnits ..⟩
  · intro chunks
    obtain ⟨reflects, items⟩ := reflects_assembleAll codec chunks
    constructor
    · rw [reflects.active, ← items, latest?_known?_collect]
    · intro before placed after stream isFrame
      obtain ⟨coded, later, behind, comes⟩ := exists_frame_of_stream stream isFrame
      exact ⟨_, coded, later, behind, forall₂_collect codec before, comes,
        latest?_known?_collect codec before⟩
  · intro timestamp state unit cause role unreadable
    unfold onUnit onSps
    rw [role, unreadable]
    rfl

/-- A set that cannot be read comes between the change to 1920 × 1080 and the first frame behind it;
the change has been announced in front of the frame all the same. -/
theorem delta_frame_stands_behind_new_size :
    streamUnits .h264
        [(framed [0x67, 0x42, 0xc0, 0x1f, 0xf4, 0x02, 0x80, 0x2d, 0xc8], 0),
          (framed [0x67, 0x42, 0xc0, 0x28, 0xf4, 0x03, 0xc0, 0x11, 0x3f, 0x2a] ++
            framed [0x67, 0x42] ++ [0, 0, 1, 0x41, 3], 40)] =
      [⟨0, 0, .long, [0x67, 0x42, 0xc0, 0x1f, 0xf4, 0x02, 0x80, 0x2d, 0xc8]⟩,
        ⟨1, 40, .long, [0x67, 0x42, 0xc0, 0x28, 0xf4, 0x03, 0xc0, 0x11, 0x3f, 0x2a]⟩,
        ⟨1, 40, .long, [0x67, 0x42]⟩] ++ ⟨1, 40, .short, [0x41, 3]⟩ :: [] ∧
      role .h264 ⟨1, 40, .short, [0x41, 3]⟩ = .delta ∧
      ∃ earlier coded later,
        (assembleAll .h264
            [(framed [0x67, 0x42, 0xc0, 0x1f, 0xf4, 0x02, 0x80, 0x2d, 0xc8], 0),
              (framed [0x67, 0x42, 0xc0, 0x28, 0xf4, 0x03, 0xc0, 0x11, 0x3f, 0x2a] ++
                framed [0x67, 0x42] ++ [0, 0, 1, 0x41, 3], 40)] (.fresh .h264)).2 =
            earlier ++ .frame coded :: later ∧
          ComesTo .h264 40 ⟨.short, [0x41, 3]⟩ (.frame coded) ∧
          History.latest? MediaItem.known? earlier = some ⟨.h264, 1920, 1080⟩ := by
  have stream : streamUnits .h264
        [(framed [0x67, 0x42, 0xc0, 0x1f, 0xf4, 0x02, 0x80, 0x2d, 0xc8], 0),
          (framed [0x67, 0x42, 0xc0, 0x28, 0xf4, 0x03, 0xc0, 0x11, 0x3f, 0x2a] ++
            framed [0x67, 0x42] ++ [0, 0, 1, 0x41, 3], 40)] =
      [⟨0, 0, .long, [0x67, 0x42, 0xc0, 0x1f, 0xf4, 0x02, 0x80, 0x2d, 0xc8]⟩,
        ⟨1, 40, .long, [0x67, 0x42, 0xc0, 0x28, 0xf4, 0x03, 0xc0, 0x11, 0x3f, 0x2a]⟩,
        ⟨1, 40, .long, [0x67, 0x42]⟩] ++ ⟨1, 40, .short, [0x41, 3]⟩ :: [] := by
    decide +kernel
  have isDelta : role .h264 ⟨1, 40, .short, [0x41, 3]⟩ = .delta := by decide
  obtain ⟨earlier, coded, later, items, _, comes, known⟩ :=
    ((items_mirror_units .h264).2.1 _).2 _ _ _ stream (.inr isDelta)
  refine ⟨stream, isDelta, earlier, coded, later, items, comes, ?_⟩
  rw [known]
  decide +kernel

end AnnexB

/-- Whatever the codec, a session announces formats of its own codec only. -/
theorem Assembler.codec_of_format_mem {assembler next : Assembler} {chunk : Bytes}
    {timestamp : Nat} {items : List MediaItem} {format : VideoFormat}
    (assembled : assembler.assemble chunk timestamp = .ok (next, items))
    (member : .format format ∈ items) : format.codec = assembler.codec := by
  cases assembler with
  | nal codec kept =>
      obtain ⟨_, rfl⟩ := Prod.mk.inj (Except.ok.inj assembled)
      obtain ⟨⟨place, inside⟩, shown⟩ := List.mem_iff_get.mp member
      have comes := AnnexB.forall₂_onUnits codec timestamp ⟨kept, none⟩ (NalUnit.scan chunk)
      have atPlace := comes.get (comes.length_eq.symm ▸ inside) inside
      rw [shown] at atPlace
      exact atPlace.format_spec.1
  | vp9 =>
      obtain ⟨_, rfl⟩ := Prod.mk.inj (Except.ok.inj assembled)
      unfold vp9Items at member
      split at member
      · cases member
      · rcases List.mem_cons.mp member with first | second
        · obtain rfl := MediaItem.format.inj first
          rfl
        · cases List.mem_singleton.mp second
  | jpeg decoder =>
      rcases assemble_jpeg_cases decoder chunk timestamp with
        ⟨cause, refused⟩ | ⟨_, _, failure, _, refused⟩ | ⟨picture, decoded⟩
      · rw [refused] at assembled
        contradiction
      · rw [refused] at assembled
        contradiction
      · rw [decoded] at assembled
        obtain ⟨_, rfl⟩ := Prod.mk.inj (Except.ok.inj assembled)
        cases List.mem_singleton.mp member

end VideoIngest
