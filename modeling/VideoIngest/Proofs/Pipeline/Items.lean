import VideoIngest.Proofs.Assembler.Coded
import VideoIngest.Proofs.DecodeLoop.Passthrough

/-!
What the items of a stream come to: the events that are sent for them, and the pictures that these
events come to where nothing fails.
-/

namespace VideoIngest

namespace MediaItem

def isFrameAfter (timestamp : Nat) : MediaItem → Bool
  | format _ => false
  | frame coded => timestamp < coded.timestamp
  | picture _ => false

/-- Whether a frame is dropped: one with a later timestamp came before. -/
def isRegressed (drops : Bool) (earlier : List MediaItem) (coded : CodedFrame) : Bool :=
  drops && earlier.any (isFrameAfter coded.timestamp)

def actionable? : MediaItem → Option VideoFormat
  | format announced => if announced.isActionable then some announced else none
  | frame _ => none
  | picture _ => none

def admitted? (drops : Bool) (earlier : List MediaItem) : MediaItem → Option CodedFrame
  | format _ => none
  | frame coded => if isRegressed drops earlier coded then none else some coded
  | picture _ => none

def picture? (drops : Bool) (earlier : List MediaItem) : MediaItem → Option Picture
  | format _ => none
  | frame coded =>
      if isRegressed drops earlier coded then none
      else (History.latest? actionable? earlier).map coded.shownAs
  | picture _ => none

def event? (id : String) (drops : Bool) (earlier : List MediaItem) : MediaItem → Option IngestEvent
  | format announced => some (.formatChange id announced)
  | frame coded => if isRegressed drops earlier coded then none else some (.frame coded)
  | picture _ => none

end MediaItem

def shown (drops : Bool) (items : List MediaItem) : List Picture :=
  History.collect (MediaItem.picture? drops) items

def admitted (drops : Bool) (items : List MediaItem) : List CodedFrame :=
  History.collect (MediaItem.admitted? drops) items

def reference (drops : Bool) (items : List MediaItem) : Option Nat :=
  (admitted drops items).getLast?.map CodedFrame.timestamp

def ingested (id : String) (drops : Bool) (items : List MediaItem) : List IngestEvent :=
  History.collect (MediaItem.event? id drops) items

variable {id : String} {drops : Bool}

theorem ingested_append_singleton (items : List MediaItem) (item : MediaItem) :
    ingested id drops (items ++ [item]) =
      ingested id drops items ++ (item.event? id drops items).toList :=
  History.collect_append_singleton _ _ _

theorem admitted_append_singleton (items : List MediaItem) (item : MediaItem) :
    admitted drops (items ++ [item]) = admitted drops items ++ (item.admitted? drops items).toList :=
  History.collect_append_singleton _ _ _

theorem reference_append_singleton (items : List MediaItem) (item : MediaItem) :
    reference drops (items ++ [item]) =
      ((item.admitted? drops items).map CodedFrame.timestamp).or (reference drops items) := by
  unfold reference
  rw [admitted_append_singleton, List.getLast?_append]
  cases item.admitted? drops items <;> rfl

theorem stop_not_mem_ingested (items : List MediaItem) :
    IngestEvent.stop ∉ ingested id drops items := by
  induction items using List.reverseRecOn with
  | nil => exact List.not_mem_nil
  | append_singleton items item ih =>
      rw [ingested_append_singleton, List.mem_append, not_or]
      refine ⟨ih, ?_⟩
      cases item with
      | format announced => simp [MediaItem.event?]
      | frame coded =>
          cases regressed : MediaItem.isRegressed drops items coded with
          | true => simp [MediaItem.event?, regressed]
          | false => simp [MediaItem.event?, regressed]
      | picture picture => simp [MediaItem.event?]

private theorem lastActionable_ingested (items : List MediaItem) :
    lastActionable (ingested id drops items) = History.latest? MediaItem.actionable? items := by
  induction items using List.reverseRecOn with
  | nil => rfl
  | append_singleton items item ih =>
      rw [ingested_append_singleton, History.latest?_append_singleton, ← ih]
      cases item with
      | format announced =>
          rw [MediaItem.event?, Option.toList_some, lastActionable_formatChange,
            MediaItem.actionable?]
          split <;> rfl
      | frame coded =>
          rw [MediaItem.event?, MediaItem.actionable?, Option.none_or]
          split
          · rw [Option.toList_none, List.append_nil]
          · exact lastActionable_frame _ coded
      | picture picture =>
          rw [MediaItem.event?, MediaItem.actionable?, Option.none_or, Option.toList_none,
            List.append_nil]

/-- The events that are sent lose no picture and add none. -/
theorem pictures_ingested {items : List MediaItem} (coded : ∀ item ∈ items, item.IsCoded) :
    History.collect IngestEvent.picture? (ingested id drops items) = shown drops items := by
  induction items using List.reverseRecOn with
  | nil => rfl
  | append_singleton items item ih =>
      have before := ih fun other member => coded other (List.mem_append_left _ member)
      have isCoded : item.IsCoded := coded item (List.mem_append_right _ List.mem_cons_self)
      unfold shown at before ⊢
      rw [ingested_append_singleton, History.collect_append_singleton, ← before]
      cases item with
      | format announced =>
          rw [MediaItem.event?, Option.toList_some, History.collect_append_singleton]
          rfl
      | frame frame =>
          have hasData : frame.data.isEmpty = false := List.isEmpty_eq_false_iff.mpr isCoded
          rw [MediaItem.event?, MediaItem.picture?]
          split
          · rw [Option.toList_none, List.append_nil, Option.toList_none, List.append_nil]
          · rw [Option.toList_some, History.collect_append_singleton, IngestEvent.picture?, hasData,
              lastActionable_ingested]
            rfl
      | picture picture => exact absurd isCoded not_false

/-! ### The newest timestamp -/

/-- Where regressions are dropped, this timestamp says of any other whether a frame of the stream had
a later one. -/
def IsNewest (drops : Bool) (last : Option Nat) (items : List MediaItem) : Prop :=
  drops = true → ∀ timestamp,
    items.any (MediaItem.isFrameAfter timestamp) = last.any fun newest => decide (timestamp < newest)

variable {last : Option Nat} {items : List MediaItem}

theorem isNewest_nil (drops : Bool) : IsNewest drops none [] := fun _ _ => rfl

theorem IsNewest.format (newest : IsNewest drops last items) (announced : VideoFormat) :
    IsNewest drops last (items ++ [.format announced]) := by
  intro isDropping timestamp
  rw [List.any_append, newest isDropping timestamp]
  exact Bool.or_false _

theorem IsNewest.refused {coded : CodedFrame} (newest : IsNewest drops last items)
    (regressed : MediaItem.isRegressed drops items coded = true) :
    IsNewest drops last (items ++ [.frame coded]) := by
  intro isDropping timestamp
  rw [MediaItem.isRegressed, isDropping, Bool.true_and, newest isDropping] at regressed
  rw [List.any_append, newest isDropping timestamp]
  cases last with
  | none => contradiction
  | some latest =>
      have later : coded.timestamp < latest := by simpa using regressed
      simp only [Option.any_some, List.any_cons, List.any_nil, Bool.or_false,
        MediaItem.isFrameAfter]
      rw [← Bool.decide_or, decide_eq_decide]
      omega

theorem IsNewest.accepted {coded : CodedFrame} (newest : IsNewest drops last items)
    (inOrder : MediaItem.isRegressed drops items coded = false) :
    IsNewest drops (some coded.timestamp) (items ++ [.frame coded]) := by
  intro isDropping timestamp
  rw [MediaItem.isRegressed, isDropping, Bool.true_and, newest isDropping] at inOrder
  rw [List.any_append, newest isDropping timestamp]
  cases last with
  | none => simp [MediaItem.isFrameAfter]
  | some latest =>
      have notLater : ¬coded.timestamp < latest := by simpa using inOrder
      simp only [Option.any_some, List.any_cons, List.any_nil, Bool.or_false,
        MediaItem.isFrameAfter]
      rw [← Bool.decide_or, decide_eq_decide]
      omega

private theorem IsNewest.picture (newest : IsNewest drops last items) (picture : Picture) :
    IsNewest drops last (items ++ [.picture picture]) := by
  intro isDropping timestamp
  rw [List.any_append, newest isDropping timestamp]
  exact Bool.or_false _

/-- Where regressions are dropped, the last frame that was admitted is also the latest of all. -/
theorem isNewest_reference (drops : Bool) (items : List MediaItem) :
    IsNewest drops (reference drops items) items := by
  induction items using List.reverseRecOn with
  | nil => exact isNewest_nil drops
  | append_singleton items item ih =>
      rw [reference_append_singleton]
      cases item with
      | format announced => exact ih.format announced
      | frame coded =>
          rw [MediaItem.admitted?]
          cases regressed : MediaItem.isRegressed drops items coded with
          | true => exact ih.refused regressed
          | false => exact ih.accepted regressed
      | picture picture => exact ih.picture picture

end VideoIngest
