import VideoIngest.Bits
import VideoIngest.Proofs.Nal.EscapedParts

/-!
Zeros behind the last byte of a unit that is not one: two of them are read as they stand, and a third
is refused.
-/

namespace VideoIngest

theorem Bits.ofBytes_zeros (count : Nat) :
    ofBytes (List.replicate count 0) = List.replicate (count * 8) false := by
  have zero : ofByte 0 = List.replicate 8 false := rfl
  rw [ofBytes, List.flatMap_replicate, zero, List.flatten_replicate_replicate]

variable {bytes : Bytes}

theorem getLast?_drop_ne_zero (last : bytes.getLast? ≠ some 0) (count : Nat) :
    (bytes.drop count).getLast? ≠ some 0 := by
  rw [List.getLast?_drop]
  split
  · exact nofun
  · exact last

namespace Escape

/-- No zero is pending behind bytes that do not end in one. -/
private theorem behind_of_getLast? (last : bytes.getLast? ≠ some 0) :
    State.clear.behind bytes = .clear ∨ State.clear.behind bytes = .escaped := by
  rcases List.eq_nil_or_concat bytes with rfl | ⟨front, byte, rfl⟩
  · exact .inl rfl
  · have nonzero : byte ≠ 0 := by simpa using last
    have step : State.clear.behind (front ++ [byte]) = (State.clear.behind front).next byte := by
      simp [State.behind]
    rw [List.concat_eq_append, step]
    cases State.clear.behind front with
    | clear => simp [State.next, State.afterKept, nonzero]
    | oneZero => simp [State.next, nonzero]
    | twoZeros =>
        by_cases three : byte = 3
        · simp [State.next, three]
        · simp [State.next, three]
    | escaped => simp [State.next, State.afterKept, nonzero]

private theorem removeFrom_zeros {state : State} (settled : state = .clear ∨ state = .escaped)
    (count : Nat) :
    removeFrom state (List.replicate count 0) =
      if count ≤ 2 then .ok (List.replicate count 0) else .error .thirdZero := by
  match count with
  | 0 => rcases settled with rfl | rfl <;> rfl
  | 1 => rcases settled with rfl | rfl <;> rfl
  | 2 => rcases settled with rfl | rfl <;> rfl
  | more + 3 =>
      rw [if_neg (by omega)]
      rcases settled with rfl | rfl <;> rfl

theorem remove_append_zeros (last : bytes.getLast? ≠ some 0) {count : Nat} (few : count ≤ 2) :
    remove (bytes ++ List.replicate count 0) =
      (remove bytes).map (· ++ List.replicate count 0) := by
  unfold remove
  rw [removeFrom_append, removeFrom_zeros (behind_of_getLast? last), if_pos few]
  cases removeFrom .clear bytes <;> rfl

theorem exists_remove_append_zeros_eq_error (last : bytes.getLast? ≠ some 0) {count : Nat}
    (many : 3 ≤ count) : ∃ cause, remove (bytes ++ List.replicate count 0) = .error cause := by
  unfold remove
  rw [removeFrom_append, removeFrom_zeros (behind_of_getLast? last), if_neg (by omega)]
  cases removeFrom .clear bytes with
  | error cause => exact ⟨cause, rfl⟩
  | ok kept => exact ⟨.thirdZero, rfl⟩

end Escape
end VideoIngest
