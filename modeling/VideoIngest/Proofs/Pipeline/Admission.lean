import VideoIngest.Proofs.Pipeline.Bindings
import VideoIngest.Proofs.Pipeline.Intake

/-!
Which frames are refused because they come behind a later one of their session.

A session keeps the timestamp of the last frame that was admitted, and where regressions are dropped
that is the latest of all of them.
-/

namespace VideoIngest

/-! ### The frames that are admitted -/

def MediaItem.frame? : MediaItem → Option CodedFrame
  | format _ => none
  | frame coded => some coded
  | picture _ => none

private theorem MediaItem.admitted?_false (earlier : List MediaItem) (item : MediaItem) :
    item.admitted? false earlier = item.frame? := by
  cases item <;> rfl

/-- A frame that is refused is behind a later one, so it makes no difference to those behind it. -/
private theorem any_isFrameAfter (timestamp : Nat) (items : List MediaItem) :
    items.any (MediaItem.isFrameAfter timestamp) =
      (admitted true items).any fun coded => decide (timestamp < coded.timestamp) := by
  induction items using List.reverseRecOn generalizing timestamp with
  | nil => rfl
  | append_singleton items item ih =>
      rw [admitted_append_singleton, List.any_append, List.any_append, ih]
      cases item with
      | format announced => rfl
      | picture picture => rfl
      | frame coded =>
          rw [MediaItem.admitted?, MediaItem.isRegressed, Bool.true_and, ih coded.timestamp]
          split
          · rename_i regressed
            obtain ⟨later, member, isLater⟩ := List.any_eq_true.mp regressed
            rw [Bool.eq_iff_iff]
            simp only [List.any_cons, List.any_nil, MediaItem.isFrameAfter, Bool.or_false,
              Option.toList_none, Bool.or_eq_true, decide_eq_true_eq, List.any_eq_true]
              at isLater ⊢
            constructor
            · rintro (before | before)
              · exact before
              · exact ⟨later, member, by omega⟩
            · exact .inl
          · rfl

private theorem pairwise_admitted (items : List MediaItem) :
    (admitted true items).Pairwise fun first second => first.timestamp ≤ second.timestamp := by
  induction items using List.reverseRecOn with
  | nil => exact List.Pairwise.nil
  | append_singleton items item ih =>
      rw [admitted_append_singleton, List.pairwise_append]
      refine ⟨ih, ?_, ?_⟩
      · cases item.admitted? true items with
        | none => exact List.Pairwise.nil
        | some coded => exact List.pairwise_singleton _ _
      · intro first member second isLast
        cases item with
        | format announced => cases isLast
        | picture picture => cases isLast
        | frame coded =>
            obtain ⟨inOrder, same⟩ := Option.ite_none_left_eq_some.mp (Option.mem_toList.mp isLast)
            obtain rfl := Option.some.inj same
            rw [MediaItem.isRegressed, Bool.true_and, any_isFrameAfter] at inOrder
            simp only [List.any_eq_true, decide_eq_true_eq, not_exists, not_and, not_lt] at inOrder
            exact inOrder first member

/-! ### The latest of them -/

private theorem exists_lt_max? {timestamp : Nat} {timestamps : List Nat} :
    (∃ newest ∈ timestamps.max?, timestamp < newest) ↔ ∃ other ∈ timestamps, timestamp < other := by
  constructor
  · rintro ⟨newest, isNewest, later⟩
    exact ⟨newest, List.max?_mem isNewest, later⟩
  · rintro ⟨other, member, later⟩
    cases isNewest : timestamps.max? with
    | none =>
        rw [List.max?_eq_none_iff.mp isNewest] at member
        cases member
    | some newest =>
        have atMost := (List.max?_eq_some_iff.mp isNewest).2 other member
        exact ⟨newest, rfl, by omega⟩

theorem isRegressed_iff {drops : Bool} {items : List MediaItem} {coded : CodedFrame} :
    MediaItem.isRegressed drops items coded = true ↔
      drops = true ∧ ∃ newest ∈ ((admitted drops items).map CodedFrame.timestamp).max?,
        coded.timestamp < newest := by
  rw [exists_lt_max?]
  cases drops with
  | false => simp [MediaItem.isRegressed]
  | true => simp [MediaItem.isRegressed, any_isFrameAfter]

/-! ### The frames that are sent -/

def sentBy (handle : Nat) (intakes : List Intake) : List CodedFrame :=
  (intakes.filter fun intake => intake.emission.handle = handle).filterMap Intake.sentFrame?

def newestSent (handle : Nat) (intakes : List Intake) : Option Nat :=
  ((sentBy handle intakes).map CodedFrame.timestamp).max?

/-- The frame is to be refused. -/
def Intake.IsBehind (drops : Bool) (earlier : List Intake) (coded : CodedFrame) (intake : Intake) :
    Prop :=
  drops = true ∧ ∃ newest ∈ newestSent intake.emission.handle earlier, coded.timestamp < newest

instance (drops : Bool) (earlier : List Intake) (coded : CodedFrame) (intake : Intake) :
    Decidable (intake.IsBehind drops earlier coded) :=
  inferInstanceAs (Decidable (_ ∧ _))

theorem sentBy_append_singleton (handle : Nat) (intakes : List Intake) (intake : Intake) :
    sentBy handle (intakes ++ [intake]) =
      sentBy handle intakes ++
        if intake.emission.handle = handle then intake.sentFrame?.toList else [] := by
  unfold sentBy
  rw [List.filter_append, List.filterMap_append]
  congr 1
  by_cases own : intake.emission.handle = handle
  · rw [List.filter_singleton, decide_eq_true own, if_pos own]
    cases sent : intake.sentFrame? <;> simp [sent]
  · rw [List.filter_singleton, decide_eq_false own, if_neg own]
    rfl

/-- What a session sends is known from its own items. -/
private theorem sentBy_eq_admitted {drops : Bool} {intakes : List Intake}
    (follow : History.Always (fun earlier intake =>
      intake.Follows drops (earlier.map Intake.emission)) intakes) (handle : Nat) :
    sentBy handle intakes = admitted drops (itemsOf handle (intakes.map Intake.emission)) := by
  induction intakes using List.reverseRecOn with
  | nil => rfl
  | append_singleton intakes intake ih =>
      obtain ⟨before, follows⟩ := History.always_append_singleton_iff.mp follow
      rw [sentBy_append_singleton, ih before, List.map_append, List.map_singleton,
        itemsOf_append_singleton]
      by_cases own : intake.emission.handle = handle
      · rw [if_pos own, if_pos own, admitted_append_singleton, follows.sentFrame?_eq, own]
      · rw [if_neg own, if_neg own, List.append_nil, List.append_nil]

private theorem isRegressed_iff_isBehind {drops : Bool} {earlier : List Intake}
    (follow : History.Always (fun before intake =>
      intake.Follows drops (before.map Intake.emission)) earlier) (coded : CodedFrame)
    (intake : Intake) :
    MediaItem.isRegressed drops
        (itemsOf intake.emission.handle (earlier.map Intake.emission)) coded = true ↔
      intake.IsBehind drops earlier coded := by
  rw [isRegressed_iff, ← sentBy_eq_admitted follow]
  rfl

namespace PipelineRun

/-- The items of every run are taken in one by one, and no refusal keeps those behind it from being
taken in. Where regressions are dropped, a frame is refused just when it is behind the latest frame
that its session has sent; otherwise every frame is sent. What a session has sent depends on its own
items alone, and one that has just been opened has sent nothing. -/
theorem frames_admitted (run : PipelineRun) :
    run.intakes.map Intake.emission = run.emissions ∧
      History.Always (fun earlier intake => ∀ coded, intake.emission.item = .frame coded →
        if intake.IsBehind run.drops earlier coded then intake.IsRefusal
        else intake.IsAdmission coded) run.intakes ∧
      History.Always (fun earlier intake => ∃ session, intake.session? = some session ∧
        session.lastTimestamp =
          (sentBy intake.emission.handle earlier).getLast?.map CodedFrame.timestamp) run.intakes ∧
      (∀ handle, sentBy handle run.intakes = admitted run.drops (itemsOf handle run.emissions)) ∧
      (run.drops = true → ∀ handle, (sentBy handle run.intakes).Pairwise fun first second =>
        first.timestamp ≤ second.timestamp) ∧
      (run.drops = false → run.intakes.filterMap Intake.sentFrame? =
        run.emissions.filterMap fun emission => emission.item.frame?) ∧
      ∀ id media codecName description,
        (run.last.openSession id media codecName description).2 = .ok () →
          ∃ handle, (run.last.openSession id media codecName description).1.sessions.handle? id =
              some handle ∧
            run.last.sessions.session? handle = none ∧ sentBy handle run.intakes = [] := by
  obtain ⟨same, follow⟩ := run.intakes_follow
  have sent := sentBy_eq_admitted follow
  rw [same] at sent
  refine ⟨same, ?_, ?_, sent, ?_, ?_, ?_⟩
  · intro earlier intake later split coded isFrame
    rw [split] at follow
    have rule := (follow earlier intake later rfl).frame coded isFrame
    have regressed := isRegressed_iff_isBehind (History.always_of_append follow) coded intake
    by_cases behind : intake.IsBehind run.drops earlier coded
    · rw [if_pos behind]
      rwa [if_pos (regressed.mpr behind)] at rule
    · rw [if_neg behind]
      rwa [if_neg fun isRegressed => behind (regressed.mp isRegressed)] at rule
  · intro earlier intake later split
    rw [split] at follow
    have stands := (follow earlier intake later rfl).stands
    rwa [reference, ← sentBy_eq_admitted (History.always_of_append follow)] at stands
  · intro drops handle
    rw [sent, drops]
    exact pairwise_admitted _
  · intro forwards
    rw [← same, List.filterMap_map]
    apply List.filterMap_congr
    intro intake member
    obtain ⟨earlier, later, split⟩ := List.append_of_mem member
    rw [(follow earlier intake later split).sentFrame?_eq, forwards, MediaItem.admitted?_false]
    rfl
  · intro id media codecName description opened
    obtain ⟨course, tracks, takes⟩ := run.exists_course
    refine ⟨_, Pipeline.handle?_openSession opened, Array.getElem?_size, ?_⟩
    rw [sent, ← takes.emissions, itemsOf_eq_nil]
    · rfl
    · rw [tracks.opened]
      exact tracks.handles

/-- The hall sends two frames in one chunk, then two that come too late, behind a format that does
not. The door is opened again and begins anew. -/
def doorAndHallTurnBack : PipelineRun where
  config := { PipelineConfig.standard with policy := .drop }
  inlineDecoder := .jpeg
  engine := .passthrough
  audience := .empty
  turns :=
    [.request (.openSession "door" "video" "VP9" ""),
      .request (.openSession "hall" "video" "H264" ""),
      .request (.push "door" [0x82] 100),
      .request (.push "hall" [0, 0, 1, 0x41, 1, 0, 0, 1, 0x41, 2] 50),
      .request (.push "door" [0x82] 40),
      .request (.push "hall" [0, 0, 1, 0x67, 1, 0, 0, 1, 0x41, 3, 0, 0, 1, 0x41, 4] 30),
      .request (.push "door" [0x82] 120),
      .request (.openSession "door" "video" "VP9" ""),
      .request (.push "door" [0x82] 10)]

theorem door_and_hall_admitted :
    doorAndHallTurnBack.drops = true ∧
      ([0, 1, 2].map fun handle =>
        (sentBy handle doorAndHallTurnBack.intakes).map CodedFrame.timestamp) =
          [[100, 120], [50, 50], [10]] ∧
      doorAndHallTurnBack.last.stats.dropped = 3 ∧
      (∀ handle, (sentBy handle doorAndHallTurnBack.intakes).Pairwise fun first second =>
        first.timestamp ≤ second.timestamp) ∧
      ∃ handle, (doorAndHallTurnBack.last.openSession "hall" "video" "VP9"
          "").1.sessions.handle? "hall" = some handle ∧
        doorAndHallTurnBack.last.sessions.session? handle = none ∧
        sentBy handle doorAndHallTurnBack.intakes = [] := by
  have drops : doorAndHallTurnBack.drops = true := by decide
  have rule := frames_admitted doorAndHallTurnBack
  refine ⟨drops, by decide +kernel, by decide +kernel, rule.2.2.2.2.1 drops, ?_⟩
  exact rule.2.2.2.2.2.2 "hall" "video" "VP9" "" rfl

end PipelineRun
end VideoIngest
