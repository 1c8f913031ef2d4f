import VideoIngest.Proofs.Pipeline.Items
import VideoIngest.Proofs.Session.Streams

/-!
The items of several sessions in the order in which they are taken in, and the events that are sent
for them. Each session has its own newest timestamp; beyond that its items are treated as if the
others were not there.
-/

namespace VideoIngest

/-- An item that the assembler of a session has returned. -/
structure Emission where
  id : String
  handle : Nat
  item : MediaItem
  deriving DecidableEq

def itemsOf (handle : Nat) (emissions : List Emission) : List MediaItem :=
  (emissions.filter fun emission => emission.handle = handle).map Emission.item

namespace Emission

def event? (drops : Bool) (earlier : List Emission) (emission : Emission) : Option IngestEvent :=
  emission.item.event? emission.id drops (itemsOf emission.handle earlier)

/-- The frame, if it comes behind a later one of its session and is therefore dropped. -/
def refused? (drops : Bool) (earlier : List Emission) (emission : Emission) : Option CodedFrame :=
  match emission.item with
  | .frame coded =>
      if MediaItem.isRegressed drops (itemsOf emission.handle earlier) coded then some coded
      else none
  | .format _ => none
  | .picture _ => none

def picture? (emission : Emission) : Option Picture :=
  match emission.item with
  | .picture picture => some picture
  | .format _ => none
  | .frame _ => none

end Emission

def sentFor (drops : Bool) (emissions : List Emission) : List IngestEvent :=
  History.collect (Emission.event? drops) emissions

def refusedOf (drops : Bool) (emissions : List Emission) : List CodedFrame :=
  History.collect (Emission.refused? drops) emissions

variable {drops : Bool}

theorem itemsOf_append_singleton (handle : Nat) (emissions : List Emission) (emission : Emission) :
    itemsOf handle (emissions ++ [emission]) =
      itemsOf handle emissions ++ if emission.handle = handle then [emission.item] else [] := by
  unfold itemsOf
  rw [List.filter_append, List.map_append]
  congr 1
  by_cases own : emission.handle = handle
  · simp [own]
  · simp [own]

theorem itemsOf_eq_nil {handle : Nat} {emissions : List Emission}
    (others : ∀ emission ∈ emissions, emission.handle < handle) : itemsOf handle emissions = [] := by
  unfold itemsOf
  rw [List.map_eq_nil_iff, List.filter_eq_nil_iff]
  intro emission member
  have below := others emission member
  simp only [decide_eq_true_eq]
  omega

theorem sentFor_append_singleton (emissions : List Emission) (emission : Emission) :
    sentFor drops (emissions ++ [emission]) =
      sentFor drops emissions ++ (emission.event? drops emissions).toList :=
  History.collect_append_singleton _ _ _

theorem refusedOf_append_singleton (emissions : List Emission) (emission : Emission) :
    refusedOf drops (emissions ++ [emission]) =
      refusedOf drops emissions ++ (emission.refused? drops emissions).toList :=
  History.collect_append_singleton _ _ _

theorem stop_not_mem_sentFor (emissions : List Emission) :
    IngestEvent.stop ∉ sentFor drops emissions := by
  induction emissions using List.reverseRecOn with
  | nil => exact List.not_mem_nil
  | append_singleton emissions emission ih =>
      rw [sentFor_append_singleton, List.mem_append, not_or]
      refine ⟨ih, ?_⟩
      unfold Emission.event?
      cases emission.item with
      | format announced => simp [MediaItem.event?]
      | frame coded =>
          rw [MediaItem.event?]
          split
          · exact List.not_mem_nil
          · simp
      | picture picture => exact List.not_mem_nil

/-! ### What a session knows about its items -/

namespace Session

/-- A session that has returned these items. -/
structure Fits (decoder : InlineDecoder) (drops : Bool) (items : List MediaItem)
    (session : Session) : Prop where
  reference : session.lastTimestamp = VideoIngest.reference drops items
  decodes : session.assembler.DecodesWith decoder

variable {decoder : InlineDecoder} {drops : Bool} {items : List MediaItem} {session : Session}

theorem fits_start (decoder : InlineDecoder) (drops : Bool) (id media : String) (codec : Codec) :
    (start id media (.ofCodec decoder codec)).Fits decoder drops [] :=
  ⟨rfl, Assembler.decodesWith_ofCodec decoder codec⟩

theorem Fits.of_sameStream {other : Session} (fits : session.Fits decoder drops items)
    (same : session.SameStream other) : other.Fits decoder drops items := by
  constructor
  · rw [same.2, fits.reference]
  · rw [same.1]
    exact fits.decodes

theorem Fits.format (fits : session.Fits decoder drops items) (announced : VideoFormat) :
    session.Fits decoder drops (items ++ [.format announced]) := by
  refine ⟨?_, fits.decodes⟩
  rw [reference_append_singleton, fits.reference]
  rfl

theorem Fits.picture (fits : session.Fits decoder drops items) (picture : Picture) :
    session.Fits decoder drops (items ++ [.picture picture]) := by
  refine ⟨?_, fits.decodes⟩
  rw [reference_append_singleton, fits.reference]
  rfl

theorem Fits.isRegression (fits : session.Fits decoder drops items) (coded : CodedFrame) :
    (drops && session.isRegression coded.timestamp) = MediaItem.isRegressed drops items coded := by
  have newest := isNewest_reference drops items
  rw [← fits.reference] at newest
  unfold MediaItem.isRegressed Session.isRegression
  cases drops with
  | false => rfl
  | true =>
      rw [newest rfl]
      cases session.lastTimestamp <;> rfl

theorem Fits.acceptTimestamp (fits : session.Fits decoder drops items) (coded : CodedFrame) :
    (session.acceptTimestamp coded.timestamp drops).1.Fits decoder drops (items ++ [.frame coded]) ∧
      (session.acceptTimestamp coded.timestamp drops).2 =
        !MediaItem.isRegressed drops items coded := by
  have next := @reference_append_singleton drops items (.frame coded)
  rw [MediaItem.admitted?, ← fits.reference] at next
  unfold Session.acceptTimestamp
  rw [fits.isRegression coded]
  cases regressed : MediaItem.isRegressed drops items coded with
  | true =>
      rw [regressed] at next
      exact ⟨⟨next.symm, fits.decodes⟩, rfl⟩
  | false =>
      rw [regressed] at next
      exact ⟨⟨next.symm, fits.decodes⟩, rfl⟩

end Session
end VideoIngest
