import VideoIngest.ByteStream

/-!
Byte streams joined at a start code: each part is cut as if it stood alone.
-/

namespace VideoIngest

namespace ByteStream

/-- Behind `front`, the bytes of `back` begin with a start code of their own: a long one, or a short
one that no zero in front of it makes long. -/
def StartsUnit (front back : Bytes) : Prop :=
  StartCode.long.bytes <+: back ∨ (StartCode.short.bytes <+: back ∧ front.getLast? ≠ some 0)

def followedBy (stream : ByteStream) (units : List NalUnit) : ByteStream :=
  { stream with units := stream.units ++ units }

theorem prepend_ne_empty (byte : UInt8) (stream : ByteStream) : stream.prepend byte ≠ empty := by
  intro nothing
  have bytes := bytes_prepend byte stream
  rw [nothing] at bytes
  cases bytes

/-- Where a byte completes no start code and lengthens none, it joins those in front of them. -/
theorem prepend_eq_cons {byte : UInt8} {lead : Bytes} {units : List NalUnit}
    (completesNone : ∀ payload, byte = 0 → lead ≠ 0 :: 1 :: payload)
    (lengthensNone : ∀ payload others, byte = 0 → lead = [] → units ≠ ⟨.short, payload⟩ :: others) :
    prepend byte ⟨lead, units⟩ = ⟨byte :: lead, units⟩ := by
  unfold prepend
  split
  · rename_i payload others same
    obtain ⟨sameLead, _⟩ := ByteStream.mk.inj same
    exact absurd sameLead (completesNone payload rfl)
  · rename_i payload others same
    obtain ⟨sameLead, sameUnits⟩ := ByteStream.mk.inj same
    exact absurd sameUnits (lengthensNone payload others rfl sameLead)
  · rename_i own others _ _ same
    obtain ⟨rfl, rfl⟩ := ByteStream.mk.inj same
    rfl

/-- A byte in front of a stream reaches the units that follow it only where the stream is empty. -/
private theorem prepend_followedBy (byte : UInt8) (stream : ByteStream) (first : NalUnit)
    (others : List NalUnit) (apart : stream = empty → byte = 0 → first.startCode ≠ .short) :
    (stream.followedBy (first :: others)).prepend byte =
      (stream.prepend byte).followedBy (first :: others) := by
  conv => rhs; unfold prepend
  split
  · rfl
  · rfl
  · rename_i lead units completesNone lengthensNone
    refine prepend_eq_cons completesNone ?_
    intro payload behind zero noLead
    change lead = [] at noLead
    cases units with
    | nil =>
        intro sameFirst
        obtain ⟨isShort, _⟩ := List.cons.inj sameFirst
        rw [noLead] at apart
        exact apart rfl zero (congrArg NalUnit.startCode isShort)
    | cons unit rest =>
        intro sameUnits
        obtain ⟨isShort, _⟩ := List.cons.inj sameUnits
        exact lengthensNone payload rest zero noLead (by rw [isShort])

theorem ofBytes_cons (byte : UInt8) (rest : Bytes) :
    ofBytes (byte :: rest) = (ofBytes rest).prepend byte := rfl

private theorem ofBytes_short (payload : Bytes) :
    ofBytes (StartCode.short.bytes ++ payload) =
      ⟨[], ⟨.short, (ofBytes payload).lead⟩ :: (ofBytes payload).units⟩ := rfl

private theorem ofBytes_long (payload : Bytes) :
    ofBytes (StartCode.long.bytes ++ payload) =
      ⟨[], ⟨.long, (ofBytes payload).lead⟩ :: (ofBytes payload).units⟩ := rfl

/-- What stands in front of a stream that begins with a unit is cut on its own. -/
theorem ofBytes_append_of_units {front back : Bytes} {first : NalUnit} {others : List NalUnit}
    (cut : ofBytes back = ⟨[], first :: others⟩)
    (apart : front.getLast? = some 0 → first.startCode ≠ .short) :
    ofBytes (front ++ back) = (ofBytes front).followedBy (first :: others) := by
  -- Bytes are read from the back, so the last one of the front is the only one at the border.
  induction front with
  | nil => exact cut
  | cons byte rest ih =>
      rw [List.cons_append, ofBytes_cons]
      cases rest with
      | nil =>
          have joined : ofBytes ([] ++ back) = empty.followedBy (first :: others) := cut
          rw [joined]
          apply prepend_followedBy
          intro _ zero
          rw [zero] at apart
          exact apart rfl
      | cons next more =>
          rw [List.getLast?_cons_cons] at apart
          rw [ih apart]
          apply prepend_followedBy
          intro nothing
          exact absurd nothing (prepend_ne_empty next (ofBytes more))

theorem ofBytes_append {front back : Bytes} (starts : StartsUnit front back) :
    ofBytes (front ++ back) = (ofBytes front).followedBy (ofBytes back).units := by
  rcases starts with ⟨payload, rfl⟩ | ⟨⟨payload, rfl⟩, noZero⟩
  · refine ofBytes_append_of_units (ofBytes_long payload) ?_
    intro _
    exact StartCode.noConfusion
  · refine ofBytes_append_of_units (ofBytes_short payload) ?_
    intro zero
    exact absurd zero noZero

end ByteStream

theorem NalUnit.scan_append {front back : Bytes} (starts : ByteStream.StartsUnit front back) :
    scan (front ++ back) = scan front ++ scan back := by
  unfold scan
  rw [ByteStream.ofBytes_append starts, ByteStream.followedBy, List.filter_append]

/-- Behind a zero a short start code becomes a long one, and the unit in front loses the zero. -/
example : NalUnit.scan ([0, 0, 1, 5, 0] ++ [0, 0, 1, 7]) ≠
    NalUnit.scan [0, 0, 1, 5, 0] ++ NalUnit.scan [0, 0, 1, 7] := by decide

end VideoIngest
