import VideoIngest.Proofs.Assembler.Items
import VideoIngest.Proofs.Assembler.StreamStart

/-!
Parameter sets that come ahead of the first picture.

Where a stream begins with one set of each kind it makes no difference in which chunks, in which
order and behind which start codes they come. They announce one format, and the first key frame has
them in front in the order in which decoders expect them.
-/

namespace VideoIngest

namespace NalCodec

/-- The kinds of the sets that a decoder needs, in the order in which it expects them. -/
def setKinds : NalCodec → List ParameterSetKind
  | h264 => [.sps, .pps]
  | h265 => [.vps, .sps, .pps]

def keyFrame (codec : NalCodec) (payload : ParameterSetKind → Bytes) (key : Bytes)
    (timestamp : Nat) : CodedFrame :=
  { data := (codec.setKinds.map payload).flatMap framed ++ framed key, timestamp, kind := .key }

/-- Among these units there is one set of each kind, with this payload, in whatever order. All other
units are skipped. -/
def AreSets (codec : NalCodec) (payload : ParameterSetKind → Bytes) (units : List Bytes) : Prop :=
  (units.filter fun unit => codec.roleOfPayload unit ≠ .skip).Perm (codec.setKinds.map payload)

end NalCodec

namespace AnnexB

open StreamUnit

/-- The units of a stream are one set of each kind, but for units that are skipped. -/
def Brings (codec : NalCodec) (payload : ParameterSetKind → Bytes) (units : List StreamUnit) :
    Prop :=
  codec.AreSets payload (units.map fun placed => placed.unit.payload)

variable {codec : NalCodec} {payload : ParameterSetKind → Bytes} {units : List StreamUnit}
  {placed : StreamUnit} {key : Bytes}

private theorem filter_setKinds {kind : ParameterSetKind} (needed : kind ∈ codec.setKinds) :
    (codec.setKinds.filter fun other => other = kind) = [kind] := by
  revert needed
  cases codec <;> cases kind <;> decide

private theorem filterMap_set? (kind : ParameterSetKind) (units : List StreamUnit) :
    units.filterMap (set? codec kind) =
      (units.map fun placed => placed.unit.payload).filter fun unit =>
        codec.roleOfPayload unit = .parameterSet kind := by
  induction units with
  | nil => rfl
  | cons placed rest ih =>
      by_cases isSet : codec.roleOfPayload placed.unit.payload = .parameterSet kind
      · rw [List.filterMap_cons_some (set?_eq_some isSet), List.map_cons,
          List.filter_cons_of_pos (by simpa using isSet), ih]
      · rw [List.filterMap_cons_none (set?_eq_none isSet), List.map_cons,
          List.filter_cons_of_neg (by simpa using isSet), ih]

private theorem Brings.filterMap_set? (brings : Brings codec payload units)
    (areSets : ∀ kind ∈ codec.setKinds, IsSet codec kind (payload kind)) {kind : ParameterSetKind}
    (needed : kind ∈ codec.setKinds) : units.filterMap (set? codec kind) = [payload kind] := by
  have sets : ((codec.setKinds.map payload).filter fun unit =>
      codec.roleOfPayload unit = .parameterSet kind) = [payload kind] := by
    rw [List.filter_map, ← List.map_singleton, ← filter_setKinds needed]
    congr 1
    apply List.filter_congr
    intro other member
    simp [(areSets other member).role]
  have shown := brings.filter fun unit => codec.roleOfPayload unit = .parameterSet kind
  rw [sets, List.perm_singleton, List.filter_filter] at shown
  rw [AnnexB.filterMap_set?, ← shown]
  apply List.filter_congr
  intro unit _
  by_cases isSet : codec.roleOfPayload unit = .parameterSet kind
  · simp [isSet]
  · simp [isSet]

/-- Such units are no parts of pictures. -/
private theorem Brings.role (brings : Brings codec payload units)
    (areSets : ∀ kind ∈ codec.setKinds, IsSet codec kind (payload kind)) (member : placed ∈ units) :
    placed.role codec = .skip ∨ ∃ kind, placed.role codec = .parameterSet kind := by
  by_cases skipped : placed.role codec = .skip
  · exact .inl skipped
  · have shown : placed.unit.payload ∈ (units.map fun placed => placed.unit.payload).filter
        fun unit => codec.roleOfPayload unit ≠ .skip :=
      List.mem_filter.mpr ⟨List.mem_map_of_mem member, decide_eq_true skipped⟩
    obtain ⟨kind, needed, same⟩ := List.mem_map.mp (brings.subset shown)
    refine .inr ⟨kind, ?_⟩
    unfold StreamUnit.role
    rw [← same, (areSets kind needed).role]

/-! ### What such units come to -/

private theorem sps_mem_setKinds (codec : NalCodec) : .sps ∈ codec.setKinds := by
  cases codec <;> decide

private theorem item?_of_no_picture
    (role : placed.role codec = .skip ∨ ∃ kind, placed.role codec = .parameterSet kind)
    (earlier : List StreamUnit) :
    item? codec earlier placed =
      (placed.set? codec .sps).map fun sps => .format (codec.announced sps) := by
  rcases role with skipped | ⟨kind, isSet⟩
  · have other : placed.role codec ≠ .parameterSet .sps := by
      rw [skipped]
      exact nofun
    rw [set?_eq_none other, item?, skipped]
    rfl
  · unfold item?
    rw [isSet]
    cases kind with
    | vps =>
        rw [set?_eq_none (by rw [isSet]; exact nofun)]
        rfl
    | sps =>
        unfold StreamUnit.format size? NalCodec.announced
        rw [set?_eq_some isSet]
        dsimp only [Option.bind_some, Option.map_some]
        cases codec.pictureSize placed.unit.payload <;> rfl
    | pps =>
        rw [set?_eq_none (by rw [isSet]; exact nofun)]
        rfl

/-- The sets announce their format, and that is all. -/
private theorem Brings.collect_item? (brings : Brings codec payload units)
    (areSets : ∀ kind ∈ codec.setKinds, IsSet codec kind (payload kind)) :
    History.collect (item? codec) units = [.format (codec.announced (payload .sps))] := by
  have items : History.collect (item? codec) units =
      History.collect (fun _ placed =>
        (placed.set? codec .sps).map fun sps => .format (codec.announced sps)) units := by
    apply History.collect_congr
    rintro earlier placed later rfl
    exact item?_of_no_picture (brings.role areSets (by simp)) earlier
  rw [items, History.collect_eq_filterMap, ← List.map_filterMap,
    brings.filterMap_set? areSets (sps_mem_setKinds codec)]
  rfl

/-- It takes two sequence parameter sets to change the picture size. -/
theorem lastChange_eq_none (few : (units.filterMap (set? codec .sps)).length ≤ 1) :
    lastChange codec units = none := by
  induction units using List.reverseRecOn with
  | nil => rfl
  | append_singleton units placed ih =>
      rw [List.filterMap_append, List.length_append] at few
      have same : placed.changesSize codec units = false := by
        unfold changesSize
        cases latest : History.latest? (size? codec) units with
        | none => rfl
        | some previous =>
            cases size : placed.size? codec with
            | none => rfl
            | some next =>
                obtain ⟨other, member, hasSize⟩ := History.exists_mem_of_latest? latest
                obtain ⟨first, isFirst, _⟩ := Option.bind_eq_some_iff.mp hasSize
                obtain ⟨second, isSecond, _⟩ := Option.bind_eq_some_iff.mp size
                have before : 0 < (units.filterMap (set? codec .sps)).length :=
                  List.length_pos_of_mem (List.mem_filterMap.mpr ⟨other, member, isFirst⟩)
                have behind : 0 < ([placed].filterMap (set? codec .sps)).length :=
                  List.length_pos_of_mem
                    (List.mem_filterMap.mpr ⟨placed, List.mem_singleton_self placed, isSecond⟩)
                omega
      rw [lastChange_append_singleton, same, if_neg Bool.false_ne_true]
      exact ih (Nat.le_of_add_right_le few)

private theorem Brings.latestSet (brings : Brings codec payload units)
    (areSets : ∀ kind ∈ codec.setKinds, IsSet codec kind (payload kind)) {kind : ParameterSetKind}
    (needed : kind ∈ codec.setKinds) : latestSet codec units kind = some (payload kind) := by
  have noChange : lastChange codec units = none := by
    apply lastChange_eq_none
    rw [brings.filterMap_set? areSets (sps_mem_setKinds codec), List.length_singleton]
  have since : sinceChange codec units = units := by
    unfold sinceChange
    rw [noChange]
  have latest : History.latest? (set? codec kind) units = some (payload kind) := by
    unfold History.latest?
    rw [brings.filterMap_set? areSets needed, List.getLast?_singleton]
  cases kind with
  | vps => rw [StreamUnit.latestSet, latestVps, since, latest, Option.some_or]
  | sps => exact latest
  | pps => rw [StreamUnit.latestSet, latestPps, since, latest]

private theorem Brings.leadingSets (brings : Brings codec payload units)
    (areSets : ∀ kind ∈ codec.setKinds, IsSet codec kind (payload kind)) :
    leadingSets codec units = (codec.setKinds.map payload).flatMap framed := by
  have latest : ∀ kind ∈ codec.setKinds,
      StreamUnit.latestSet codec units kind = some (payload kind) :=
    fun kind needed => brings.latestSet areSets needed
  unfold StreamUnit.leadingSets
  cases codec with
  | h264 =>
      have sps : latestSps .h264 units = _ := latest .sps (by decide)
      have pps : latestPps .h264 units = _ := latest .pps (by decide)
      simp [sps, pps, NalCodec.setKinds]
  | h265 =>
      have vps : latestVps .h265 units = _ := latest .vps (by decide)
      have sps : latestSps .h265 units = _ := latest .sps (by decide)
      have pps : latestPps .h265 units = _ := latest .pps (by decide)
      simp [vps, sps, pps, NalCodec.setKinds]

/-! ### Chunks -/

variable {chunks : List (Bytes × Nat)}

theorem items_of_brings (brings : Brings codec payload (streamUnits codec chunks))
    (areSets : ∀ kind ∈ codec.setKinds, IsSet codec kind (payload kind)) :
    (assembleAll codec chunks (.fresh codec)).2 = [.format (codec.announced (payload .sps))] := by
  rw [← (reflects_assembleAll codec chunks).2, brings.collect_item? areSets]

private theorem ofChunk_framed {unit : Bytes} (fits : IsPayload unit) (number timestamp : Nat) :
    ofChunk codec number (framed unit, timestamp) =
      if codec.headerSize ≤ unit.length then [⟨number, timestamp, .long, unit⟩] else [] := by
  have scanned : NalUnit.scan (framed unit) = [⟨.long, unit⟩] := by
    have units := @NalUnit.scan_payloads [] [unit] codeless_nil (by simpa using fits)
    simpa using units
  unfold ofChunk
  rw [scanned, List.filter_singleton]
  by_cases hasHeader : codec.headerSize ≤ unit.length
  · simp [hasHeader]
  · simp [hasHeader]

private theorem ofChunk_key (fits : IsPayload key) (isKey : codec.roleOfPayload key = .key)
    (number timestamp : Nat) :
    ofChunk codec number (framed key, timestamp) = [⟨number, timestamp, .long, key⟩] := by
  have hasHeader : codec.headerSize ≤ key.length := by
    apply headerSize_le_of_role
    rw [isKey]
    exact nofun
  rw [ofChunk_framed fits, if_pos hasHeader]

/-- The sets may come one by one. -/
theorem brings_framed {sets : List Bytes} (areSets : codec.AreSets payload sets)
    (fit : ∀ set ∈ sets, IsPayload set) (timestamp : Nat) :
    Brings codec payload (streamUnits codec (sets.map fun set => (framed set, timestamp))) := by
  have same : ((streamUnits codec (sets.map fun set => (framed set, timestamp))).map
        fun placed => placed.unit.payload).filter (fun unit => codec.roleOfPayload unit ≠ .skip) =
      sets.filter fun unit => codec.roleOfPayload unit ≠ .skip := by
    clear areSets
    induction sets using List.reverseRecOn with
    | nil => rfl
    | append_singleton sets set ih =>
        obtain ⟨before, last⟩ := List.forall_mem_append.mp fit
        have fits : IsPayload set := last set (List.mem_singleton_self set)
        rw [List.map_append, List.map_singleton, streamUnits_append_singleton, ofChunk_framed fits,
          List.map_append, List.filter_append, List.filter_append, ih before]
        by_cases hasHeader : codec.headerSize ≤ set.length
        · rw [if_pos hasHeader]
          rfl
        · have skipped : codec.roleOfPayload set = .skip := if_pos (Nat.lt_of_not_le hasHeader)
          rw [if_neg hasHeader]
          simp [skipped]
  unfold Brings NalCodec.AreSets
  rwa [same]

/-- The first key unit behind the sets comes to a frame with all of them in front. -/
theorem assemble_key_of_brings (brings : Brings codec payload (streamUnits codec chunks))
    (areSets : ∀ kind ∈ codec.setKinds, IsSet codec kind (payload kind)) (fits : IsPayload key)
    (isKey : codec.roleOfPayload key = .key) (timestamp : Nat) :
    ((assembleAll codec chunks (.fresh codec)).1.assemble codec (framed key) timestamp).2 =
      [.frame (codec.keyFrame payload key timestamp)] := by
  have before := (reflects_assembleAll codec chunks).2
  have behind := (reflects_assembleAll codec (chunks ++ [(framed key, timestamp)])).2
  have role : StreamUnit.role codec ⟨chunks.length, timestamp, .long, key⟩ = .key := isKey
  rw [streamUnits_append_singleton, ofChunk_key fits isKey, History.collect_append_singleton,
    assembleAll_append_singleton, before, item?, role, brings.leadingSets areSets] at behind
  exact (List.append_cancel_left behind).symm

theorem items_behind_key (brings : Brings codec payload (streamUnits codec chunks))
    (areSets : ∀ kind ∈ codec.setKinds, IsSet codec kind (payload kind)) (fits : IsPayload key)
    (isKey : codec.roleOfPayload key = .key) (timestamp : Nat) :
    (assembleAll codec (chunks ++ [(framed key, timestamp)]) (.fresh codec)).2 =
      [.format (codec.announced (payload .sps)),
        .frame (codec.keyFrame payload key timestamp)] := by
  rw [assembleAll_append_singleton, items_of_brings brings areSets,
    assemble_key_of_brings brings areSets fits isKey timestamp]
  rfl

end AnnexB
end VideoIngest
