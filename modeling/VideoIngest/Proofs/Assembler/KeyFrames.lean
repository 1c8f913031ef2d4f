import VideoIngest.Proofs.Assembler.Stream

/-!
Key frames carry the parameter sets that a decoder needs to begin there.

The assembler keeps little of the stream. What it keeps is the part of the history that matters: the
size announced last and the latest sets for that size.
-/

namespace VideoIngest.AnnexB

open StreamUnit

def assembleAll (codec : NalCodec) : List (Bytes × Nat) → AnnexB → AnnexB × List MediaItem
  | [], kept => (kept, [])
  | (chunk, timestamp) :: rest, kept =>
      let (next, items) := kept.assemble codec chunk timestamp
      let (last, others) := assembleAll codec rest next
      (last, items ++ others)

theorem assembleAll_append_singleton (codec : NalCodec) (chunks : List (Bytes × Nat))
    (chunk : Bytes × Nat) (kept : AnnexB) :
    assembleAll codec (chunks ++ [chunk]) kept =
      (((assembleAll codec chunks kept).1.assemble codec chunk.1 chunk.2).1,
        (assembleAll codec chunks kept).2 ++
          ((assembleAll codec chunks kept).1.assemble codec chunk.1 chunk.2).2) := by
  induction chunks generalizing kept with
  | nil => simp [assembleAll]
  | cons first rest ih =>
      simp only [List.cons_append, assembleAll, ih, List.append_assoc]

/-! ### The sets -/

def setOf (kind : ParameterSetKind) (sets : ParameterSets) : Option Bytes :=
  match kind with
  | .vps => sets.vps
  | .sps => sets.sps
  | .pps => sets.pps

theorem setOf_observe (kind own : ParameterSetKind) (payload : Bytes) (sets : ParameterSets) :
    setOf kind (sets.observe own payload) =
      if kind = own then some (framed payload) else setOf kind sets := by
  cases kind <;> cases own <;> rfl

theorem requiresVps_observe (kind : ParameterSetKind) (payload : Bytes) (sets : ParameterSets) :
    (sets.observe kind payload).requiresVps = sets.requiresVps := by
  cases kind <;> rfl

/-- The sets that are kept after these units of a stream. -/
structure SetsReflect (codec : NalCodec) (earlier : List StreamUnit) (sets : ParameterSets) :
    Prop where
  requiresVps : sets.requiresVps = codec.requiresVps
  latest : ∀ kind, setOf kind sets = (latestSet codec earlier kind).map framed

variable {codec : NalCodec} {earlier : List StreamUnit} {sets : ParameterSets} {state : InChunk}
  {placed : StreamUnit}

theorem set?_eq_some {kind : ParameterSetKind} (role : placed.role codec = .parameterSet kind) :
    placed.set? codec kind = some placed.unit.payload := by
  rw [set?, role, if_pos rfl]

theorem set?_eq_none {kind : ParameterSetKind} (role : placed.role codec ≠ .parameterSet kind) :
    placed.set? codec kind = none := if_neg role

private theorem SetsReflect.observe {own : ParameterSetKind}
    (reflect : SetsReflect codec earlier sets) (sameSize : placed.changesSize codec earlier = false)
    (role : placed.role codec = .parameterSet own) :
    SetsReflect codec (earlier ++ [placed]) (sets.observe own placed.unit.payload) := by
  constructor
  · rw [requiresVps_observe, reflect.requiresVps]
  · intro kind
    rw [setOf_observe, latestSet_append_singleton sameSize, reflect.latest kind]
    by_cases same : kind = own
    · rw [if_pos same, same, set?_eq_some role]
      rfl
    · have other : placed.role codec ≠ .parameterSet kind := by
        rw [role]
        intro equal
        exact same (NalRole.parameterSet.inj equal).symm
      rw [if_neg same, set?_eq_none other, Option.none_or]

/-- A unit that is no parameter set leaves the sets as they are. -/
private theorem SetsReflect.pass (reflect : SetsReflect codec earlier sets)
    (sameSize : placed.changesSize codec earlier = false)
    (other : ∀ kind, placed.role codec ≠ .parameterSet kind) :
    SetsReflect codec (earlier ++ [placed]) sets := by
  refine ⟨reflect.requiresVps, ?_⟩
  intro kind
  rw [latestSet_append_singleton sameSize, set?_eq_none (other kind), Option.none_or]
  exact reflect.latest kind

/-- Only the video parameter set of the same chunk outlasts a change of the size. -/
private theorem SetsReflect.change (reflect : SetsReflect codec earlier state.kept.sets)
    (chunkVps : state.chunkVps = History.latest? (set? codec .vps) (inChunk placed.chunk earlier))
    (changes : placed.changesSize codec earlier = true)
    (role : placed.role codec = .parameterSet .sps) :
    SetsReflect codec (earlier ++ [placed])
      ((setsAfterChange state).observe .sps placed.unit.payload) := by
  have remaining : setsAfterChange state =
      ⟨codec.requiresVps, state.chunkVps.map framed, none, none⟩ := by
    unfold setsAfterChange
    rw [← reflect.requiresVps]
    cases state.chunkVps with
    | none => rfl
    | some vps => rfl
  rw [remaining, chunkVps]
  refine ⟨rfl, ?_⟩
  intro kind
  cases kind with
  | vps =>
      rw [latestSet, latestVps_append_singleton, changes]
      rfl
  | sps =>
      rw [latestSet, latestSps_append_singleton, set?_eq_some role]
      rfl
  | pps =>
      rw [latestSet, latestPps_append_singleton, changes]
      rfl

private theorem latestVps_h264 (earlier : List StreamUnit) : latestVps .h264 earlier = none := by
  have noSet : set? .h264 .vps = fun _ => none :=
    funext fun placed => set?_eq_none (NalCodec.roleOfPayload_h264_ne_vps placed.unit.payload)
  unfold latestVps History.latest?
  rw [noSet, List.filterMap_none, List.filterMap_none]
  rfl

/-- The kept sets are complete exactly where every set has come that the decoder needs. -/
private theorem SetsReflect.snapshot (reflect : SetsReflect codec earlier sets) :
    sets.snapshot.getD [] = leadingSets codec earlier := by
  unfold ParameterSets.snapshot ParameterSets.isComplete ParameterSets.bytes
  have vps : sets.vps = (latestVps codec earlier).map framed := reflect.latest .vps
  have sps : sets.sps = (latestSps codec earlier).map framed := reflect.latest .sps
  have pps : sets.pps = (latestPps codec earlier).map framed := reflect.latest .pps
  rw [reflect.requiresVps, vps, sps, pps]
  cases codec with
  | h264 =>
      unfold leadingSets
      rw [latestVps_h264]
      cases latestSps .h264 earlier <;> cases latestPps .h264 earlier <;> rfl
  | h265 =>
      unfold leadingSets
      cases latestVps .h265 earlier <;> cases latestSps .h265 earlier <;>
        cases latestPps .h265 earlier <;> rfl

/-! ### One unit -/

/-- What is known, within the chunk of this number, after these units of a stream. -/
structure Reflects (codec : NalCodec) (number : Nat) (earlier : List StreamUnit)
    (state : InChunk) : Prop where
  sets : SetsReflect codec earlier state.kept.sets
  active : state.kept.active =
    (History.latest? (size? codec) earlier).map fun size => ⟨codec.codec, size.1, size.2⟩
  chunkVps : state.chunkVps = History.latest? (set? codec .vps) (inChunk number earlier)

theorem reflects_fresh (codec : NalCodec) : Reflects codec 0 [] ⟨.fresh codec, none⟩ :=
  ⟨⟨rfl, fun kind => by cases kind <;> rfl⟩, rfl, rfl⟩

theorem latestSize_append_singleton (earlier : List StreamUnit) (placed : StreamUnit) :
    History.latest? (size? codec) (earlier ++ [placed]) =
      (placed.size? codec).or (History.latest? (size? codec) earlier) :=
  History.latest?_append_singleton _ _ _

theorem size?_eq_none (role : placed.role codec ≠ .parameterSet .sps) :
    placed.size? codec = none := by
  rw [size?, set?_eq_none role]
  rfl

theorem changesSize_eq_false (noSize : placed.size? codec = none) :
    placed.changesSize codec earlier = false := by
  unfold changesSize
  rw [noSize]
  cases History.latest? (size? codec) earlier <;> rfl

theorem Reflects.append {next : InChunk} (reflects : Reflects codec placed.chunk earlier state)
    (sets : SetsReflect codec (earlier ++ [placed]) next.kept.sets)
    (active : next.kept.active =
      ((placed.size? codec).map fun size => ⟨codec.codec, size.1, size.2⟩).or state.kept.active)
    (chunkVps : next.chunkVps = (placed.set? codec .vps).or state.chunkVps) :
    Reflects codec placed.chunk (earlier ++ [placed]) next := by
  refine ⟨sets, ?_, ?_⟩
  · rw [active, reflects.active, latestSize_append_singleton, Option.map_or]
  · have inSame : inChunk placed.chunk (earlier ++ [placed]) =
        inChunk placed.chunk earlier ++ [placed] := by
      unfold inChunk
      rw [List.filter_append]
      simp
    rw [chunkVps, reflects.chunkVps, inSame, History.latest?_append_singleton]

/-- The format of a sequence parameter set that can be read replaces the sets exactly where it
changes the size. -/
private theorem Reflects.announce {size : Nat × Nat}
    (reflects : Reflects codec placed.chunk earlier state)
    (hasSize : placed.size? codec = some size) :
    announce ⟨codec.codec, size.1, size.2⟩ state =
      { sets := if placed.changesSize codec earlier then setsAfterChange state else state.kept.sets
        active := some ⟨codec.codec, size.1, size.2⟩ } := by
  have active := reflects.active
  unfold AnnexB.announce changesSize
  cases last : History.latest? (size? codec) earlier with
  | none =>
      rw [last, Option.map_none] at active
      rw [active]
      rfl
  | some previous =>
      rw [last, Option.map_some] at active
      rw [active, hasSize]
      by_cases same : previous = size
      · simp only [same, if_true, bne_self_eq_false, Bool.false_eq_true, if_false]
        rw [← same, ← active]
      · have differs : (⟨codec.codec, previous.1, previous.2⟩ : VideoFormat) ≠
            ⟨codec.codec, size.1, size.2⟩ := by
          intro equal
          rw [VideoFormat.mk.injEq] at equal
          exact same (Prod.ext equal.2.1 equal.2.2)
        simp [same, differs]

private theorem Reflects.onSps (reflects : Reflects codec placed.chunk earlier state)
    (role : placed.role codec = .parameterSet .sps) :
    Reflects codec placed.chunk (earlier ++ [placed])
        { state with kept := (onSps codec placed.unit.payload state).1 } ∧
      (onSps codec placed.unit.payload state).2 = placed.format codec := by
  have vps : placed.set? codec .vps = none := set?_eq_none (by rw [role]; decide)
  have size : placed.size? codec = (codec.pictureSize placed.unit.payload).toOption := by
    rw [size?, set?_eq_some role]
    rfl
  unfold AnnexB.onSps format
  cases read : codec.pictureSize placed.unit.payload with
  | error fault =>
      have noSize : placed.size? codec = none := by
        rw [size, read]
        rfl
      constructor
      · apply reflects.append
        · exact reflects.sets.observe (changesSize_eq_false noSize) role
        · rw [noSize]
          rfl
        · rw [vps]
          rfl
      · rw [noSize]
  | ok found =>
      have hasSize : placed.size? codec = some found := by
        rw [size, read]
        rfl
      constructor
      · apply reflects.append
        · dsimp only [remember]
          rw [reflects.announce hasSize]
          cases changes : placed.changesSize codec earlier with
          | true => exact reflects.sets.change reflects.chunkVps changes role
          | false => exact reflects.sets.observe changes role
        · dsimp only [remember]
          rw [reflects.announce hasSize, hasSize]
          rfl
        · rw [vps]
          rfl
      · rw [hasSize]

private theorem Reflects.pass {other : NalRole}
    (reflects : Reflects codec placed.chunk earlier state)
    (role : placed.role codec = other) (noSet : ∀ kind, other ≠ .parameterSet kind) :
    Reflects codec placed.chunk (earlier ++ [placed]) state := by
  rw [← role] at noSet
  have noSize : placed.size? codec = none := size?_eq_none (noSet .sps)
  apply reflects.append
  · exact reflects.sets.pass (changesSize_eq_false noSize) noSet
  · rw [noSize]
    rfl
  · rw [set?_eq_none (noSet .vps)]
    rfl

private theorem Reflects.remember {kind : ParameterSetKind} {chunkVps : Option Bytes}
    (reflects : Reflects codec placed.chunk earlier state)
    (role : placed.role codec = .parameterSet kind) (notSps : kind ≠ .sps)
    (latestVps : chunkVps = (placed.set? codec .vps).or state.chunkVps) :
    Reflects codec placed.chunk (earlier ++ [placed])
      ⟨remember kind placed.unit.payload state.kept, chunkVps⟩ := by
  have otherRole : placed.role codec ≠ .parameterSet .sps := by
    rw [role]
    intro same
    exact notSps (NalRole.parameterSet.inj same)
  have noSize : placed.size? codec = none := size?_eq_none otherRole
  apply reflects.append
  · exact reflects.sets.observe (changesSize_eq_false noSize) role
  · rw [noSize]
    rfl
  · exact latestVps

/-- A unit comes to what its history says, and becomes part of the history. -/
private theorem Reflects.onUnit (reflects : Reflects codec placed.chunk earlier state) :
    Reflects codec placed.chunk (earlier ++ [placed])
        (onUnit codec placed.timestamp state placed.unit).1 ∧
      (onUnit codec placed.timestamp state placed.unit).2 = item? codec earlier placed := by
  have sameRole : codec.roleOfPayload placed.unit.payload = placed.role codec := rfl
  unfold AnnexB.onUnit item?
  rw [sameRole]
  cases role : placed.role codec with
  | parameterSet kind =>
      cases kind with
      | vps =>
          refine ⟨reflects.remember role (by decide) ?_, rfl⟩
          rw [set?_eq_some role]
          rfl
      | sps =>
          obtain ⟨kept, announced⟩ := reflects.onSps role
          refine ⟨kept, ?_⟩
          rw [← announced]
      | pps =>
          refine ⟨reflects.remember role (by decide) ?_, rfl⟩
          rw [set?_eq_none (by rw [role]; decide), Option.none_or]
  | key =>
      refine ⟨reflects.pass role fun _ => NalRole.noConfusion, ?_⟩
      dsimp only
      rw [keyFrameData, reflects.sets.snapshot]
  | delta => exact ⟨reflects.pass role fun _ => NalRole.noConfusion, rfl⟩
  | skip => exact ⟨reflects.pass role fun _ => NalRole.noConfusion, rfl⟩

/-! ### The units of a chunk -/

private theorem Reflects.onUnits {units : List StreamUnit} {number timestamp : Nat}
    (inChunk : ∀ placed ∈ units, placed.chunk = number ∧ placed.timestamp = timestamp)
    (reflects : Reflects codec number earlier state) :
    Reflects codec number (earlier ++ units)
        (onUnits codec timestamp state (units.map StreamUnit.unit)).1 ∧
      History.collect (item? codec) (earlier ++ units) =
        History.collect (item? codec) earlier ++
          (onUnits codec timestamp state (units.map StreamUnit.unit)).2 := by
  induction units generalizing earlier state with
  | nil =>
      rw [List.append_nil]
      exact ⟨reflects, (List.append_nil _).symm⟩
  | cons placed rest ih =>
      obtain ⟨rfl, rfl⟩ := inChunk placed List.mem_cons_self
      obtain ⟨next, item⟩ := reflects.onUnit
      obtain ⟨last, items⟩ := ih (fun other member => inChunk other (List.mem_cons_of_mem _ member)) next
      rw [List.append_cons]
      refine ⟨last, ?_⟩
      rw [items, History.collect_append_singleton, ← item, List.append_assoc]
      rfl

/-- Units without a full header go by unnoticed. -/
private theorem onUnits_filter (codec : NalCodec) (timestamp : Nat) (state : InChunk)
    (units : List NalUnit) :
    onUnits codec timestamp state
        (units.filter fun unit => codec.headerSize ≤ unit.payload.length) =
      onUnits codec timestamp state units := by
  induction units generalizing state with
  | nil => rfl
  | cons unit rest ih =>
      by_cases long : codec.headerSize ≤ unit.payload.length
      · rw [List.filter_cons_of_pos (by simpa using long)]
        simp only [onUnits, ih]
      · have skipped : AnnexB.onUnit codec timestamp state unit = (state, none) := by
          unfold AnnexB.onUnit NalCodec.roleOfPayload
          rw [if_pos (Nat.lt_of_not_le long)]
        rw [List.filter_cons_of_neg (by simpa using long), ih]
        simp only [onUnits, skipped, Option.toList_none, List.nil_append]

theorem Reflects.assemble {number : Nat} {kept : AnnexB} (chunk : Bytes × Nat)
    (reflects : Reflects codec number earlier ⟨kept, none⟩) :
    (∃ chunkVps, Reflects codec number (earlier ++ StreamUnit.ofChunk codec number chunk)
        ⟨(kept.assemble codec chunk.1 chunk.2).1, chunkVps⟩) ∧
      History.collect (item? codec) (earlier ++ StreamUnit.ofChunk codec number chunk) =
        History.collect (item? codec) earlier ++ (kept.assemble codec chunk.1 chunk.2).2 := by
  have inChunk : ∀ placed ∈ StreamUnit.ofChunk codec number chunk,
      placed.chunk = number ∧ placed.timestamp = chunk.2 := by
    intro placed member
    obtain ⟨unit, _, rfl⟩ := List.mem_map.mp member
    exact ⟨rfl, rfl⟩
  have units : (StreamUnit.ofChunk codec number chunk).map StreamUnit.unit =
      (NalUnit.scan chunk.1).filter fun unit => codec.headerSize ≤ unit.payload.length := by
    unfold StreamUnit.ofChunk
    rw [List.map_map]
    exact List.map_id _
  obtain ⟨last, items⟩ := reflects.onUnits inChunk
  rw [units, onUnits_filter] at last items
  exact ⟨⟨_, last⟩, items⟩

/-- At the end of a chunk its video parameter set is forgotten. -/
private theorem Reflects.nextChunk {number : Nat} (reflects : Reflects codec number earlier state)
    (next : Nat) (begins : ∀ placed ∈ earlier, placed.chunk < next) :
    Reflects codec next earlier ⟨state.kept, none⟩ := by
  refine ⟨reflects.sets, reflects.active, ?_⟩
  have noneYet : inChunk next earlier = [] := by
    unfold inChunk
    rw [List.filter_eq_nil_iff]
    intro placed member
    have before := begins placed member
    simpa using Nat.ne_of_lt before
  rw [noneYet]
  rfl

/-! ### The chunks of a stream -/

theorem reflects_assembleAll (codec : NalCodec) (chunks : List (Bytes × Nat)) :
    Reflects codec chunks.length (streamUnits codec chunks)
        ⟨(assembleAll codec chunks (.fresh codec)).1, none⟩ ∧
      History.collect (item? codec) (streamUnits codec chunks) =
        (assembleAll codec chunks (.fresh codec)).2 := by
  induction chunks using List.reverseRecOn with
  | nil => exact ⟨reflects_fresh codec, rfl⟩
  | append_singleton chunks chunk ih =>
      obtain ⟨reflects, items⟩ := ih
      obtain ⟨⟨chunkVps, last⟩, more⟩ := reflects.assemble chunk
      rw [← streamUnits_append_singleton] at last more
      rw [assembleAll_append_singleton]
      constructor
      · exact last.nextChunk _ fun placed member => chunk_lt_of_mem_streamUnits member
      · rw [more, items]

/-- Wherever a key unit stands in a stream, its frame is the unit as it stands, behind the sets that
its decoder needs: the latest sequence parameter set, and of the others the latest ones that are for
the same picture size. If one of them is missing the unit goes alone. -/
theorem key_frame_leads_with_sets (codec : NalCodec) (chunks : List (Bytes × Nat))
    {before after : List StreamUnit} {key : StreamUnit}
    (stream : streamUnits codec chunks = before ++ key :: after)
    (isKey : key.role codec = .key) :
    (assembleAll codec chunks (.fresh codec)).2 =
      History.collect (item? codec) before ++
        .frame { data := leadingSets codec before ++ key.unit.bytes
                 timestamp := key.timestamp
                 kind := .key } ::
          History.collect (fun later => item? codec (before ++ key :: later)) after := by
  obtain ⟨_, items⟩ := reflects_assembleAll codec chunks
  have atKey : item? codec (before ++ []) key =
      some (.frame { data := leadingSets codec before ++ key.unit.bytes
                     timestamp := key.timestamp
                     kind := .key }) := by
    unfold item?
    rw [isKey, List.append_nil]
  rw [← items, stream, History.collect_append, History.collect_cons, atKey]
  rfl

/-- A stream that changes from 1280 × 720 to 1920 × 1080: its key frame has the new sets in front. -/
theorem key_frame_leads_with_new_sets :
    streamUnits .h264
        [(framed [0x67, 0x42, 0xc0, 0x1f, 0xf4, 0x02, 0x80, 0x2d, 0xc8] ++ framed [0x68, 1], 0),
          (framed [0x67, 0x42, 0xc0, 0x28, 0xf4, 0x03, 0xc0, 0x11, 0x3f, 0x2a] ++
            framed [0x68, 2] ++ [0, 0, 1, 0x65, 3], 40)] =
      [⟨0, 0, .long, [0x67, 0x42, 0xc0, 0x1f, 0xf4, 0x02, 0x80, 0x2d, 0xc8]⟩,
        ⟨0, 0, .long, [0x68, 1]⟩,
        ⟨1, 40, .long, [0x67, 0x42, 0xc0, 0x28, 0xf4, 0x03, 0xc0, 0x11, 0x3f, 0x2a]⟩,
        ⟨1, 40, .long, [0x68, 2]⟩] ++ ⟨1, 40, .short, [0x65, 3]⟩ :: [] ∧
      role .h264 ⟨1, 40, .short, [0x65, 3]⟩ = .key ∧
      (assembleAll .h264
        [(framed [0x67, 0x42, 0xc0, 0x1f, 0xf4, 0x02, 0x80, 0x2d, 0xc8] ++ framed [0x68, 1], 0),
          (framed [0x67, 0x42, 0xc0, 0x28, 0xf4, 0x03, 0xc0, 0x11, 0x3f, 0x2a] ++
            framed [0x68, 2] ++ [0, 0, 1, 0x65, 3], 40)] (.fresh .h264)).2 =
        [.format ⟨.h264, 1280, 720⟩, .format ⟨.h264, 1920, 1080⟩,
          .frame
            { data := framed [0x67, 0x42, 0xc0, 0x28, 0xf4, 0x03, 0xc0, 0x11, 0x3f, 0x2a] ++
                framed [0x68, 2] ++ [0, 0, 1, 0x65, 3]
              timestamp := 40
              kind := .key }] := by
  refine ⟨by decide +kernel, by decide, ?_⟩
  rw [@key_frame_leads_with_sets .h264 _
    [⟨0, 0, .long, [0x67, 0x42, 0xc0, 0x1f, 0xf4, 0x02, 0x80, 0x2d, 0xc8]⟩,
      ⟨0, 0, .long, [0x68, 1]⟩,
      ⟨1, 40, .long, [0x67, 0x42, 0xc0, 0x28, 0xf4, 0x03, 0xc0, 0x11, 0x3f, 0x2a]⟩,
      ⟨1, 40, .long, [0x68, 2]⟩] [] ⟨1, 40, .short, [0x65, 3]⟩ (by decide +kernel) (by decide)]
  decide +kernel

end VideoIngest.AnnexB
