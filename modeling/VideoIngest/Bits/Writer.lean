import VideoIngest.Bits
import VideoIngest.Number.Word

/-!
Syntax elements written as bits, and bits packed into bytes.

What is written reads back, whatever follows it: `uint_ofNat` and `ue_ueCode`.
-/

namespace VideoIngest.Bits

/-! ### Numbers of a fixed length -/

@[simp] theorem length_ofNat (width value : Nat) : (ofNat width value).length = width := by
  induction width generalizing value with
  | zero => rfl
  | succ width ih => simp [ofNat, ih]

theorem toNat_append_singleton (bits : List Bool) (bit : Bool) :
    toNat (bits ++ [bit]) = 2 * toNat bits + bit.toNat := by
  simp [toNat]

theorem toNat_ofNat (width value : Nat) (fits : value < Nat.pow 2 width) :
    toNat (ofNat width value) = value := by
  induction width generalizing value with
  | zero =>
      have zero : value = 0 := by
        have one : Nat.pow 2 0 = 1 := rfl
        omega
      rw [zero]
      rfl
  | succ width ih =>
      have doubled : Nat.pow 2 (width + 1) = Nat.pow 2 width * 2 := rfl
      have half : value / 2 < Nat.pow 2 width := by omega
      rw [ofNat, toNat_append_singleton, ih (value / 2) half]
      cases parity : value % 2 == 1 with
      | true =>
          have odd : value % 2 = 1 := by simpa using parity
          simp only [Bool.toNat_true]
          omega
      | false =>
          have even : value % 2 ≠ 1 := by simpa using parity
          simp only [Bool.toNat_false]
          omega

theorem uint_ofNat (element : String) (width value : Nat) (rest : List Bool)
    (fits : value < Nat.pow 2 width) :
    BitReader.uint element width (ofNat width value ++ rest) = .ok (value, rest) := by
  have front : (ofNat width value ++ rest).take width = ofNat width value := by
    rw [List.take_append_of_le_length (by simp), List.take_of_length_le (by simp)]
  have back : (ofNat width value ++ rest).drop width = rest := by
    rw [List.drop_append_of_le_length (by simp), List.drop_of_length_le (by simp), List.nil_append]
  simp only [BitReader.uint, front, back, length_ofNat, if_true, toNat_ofNat width value fits]

/-! ### Exp-Golomb codes -/

/-- The unsigned code of a number: the number plus one, behind as many zeros as it has bits after
its first. -/
def ueCode (value : Nat) : List Bool :=
  let size := (value + 1).log2
  List.replicate size false ++ ofNat (size + 1) (value + 1)

theorem leadingZeros?_replicate (zeros : Nat) (rest : List Bool) :
    leadingZeros? (List.replicate zeros false ++ true :: rest) = some (zeros, rest) := by
  induction zeros with
  | zero => rfl
  | succ zeros ih => simp [List.replicate_succ, leadingZeros?, ih]

/-- A number with its highest bit at `size` begins with a one. -/
theorem ofNat_succ_of_highest (size value : Nat) (small : value < Nat.pow 2 size) :
    ofNat (size + 1) (Nat.pow 2 size + value) = true :: ofNat size value := by
  induction size generalizing value with
  | zero =>
      have zero : value = 0 := by
        have one : Nat.pow 2 0 = 1 := rfl
        omega
      rw [zero]
      rfl
  | succ size ih =>
      have doubled : Nat.pow 2 (size + 1) = Nat.pow 2 size * 2 := rfl
      have half : (Nat.pow 2 (size + 1) + value) / 2 = Nat.pow 2 size + value / 2 := by omega
      have parity : (Nat.pow 2 (size + 1) + value) % 2 = value % 2 := by omega
      rw [ofNat, half, parity, ih (value / 2) (by omega)]
      rfl

theorem ue_ueCode (element : String) (value : Nat) (rest : List Bool)
    (fits : value < Number.wordBound32 - 1) :
    BitReader.ue element (ueCode value ++ rest) = .ok (value, rest) := by
  have positive : value + 1 ≠ 0 := by omega
  have lower : Nat.pow 2 (value + 1).log2 ≤ value + 1 := Nat.log2_self_le positive
  have upper : value + 1 < Nat.pow 2 ((value + 1).log2 + 1) := Nat.lt_log2_self
  have short : (value + 1).log2 ≤ BitReader.longestRun := by
    have bound : value + 1 < 2 ^ 32 := by
      simp only [Number.wordBound32] at fits
      omega
    have below : (value + 1).log2 < 32 := (Nat.log2_lt positive).mpr bound
    simp only [BitReader.longestRun]
    omega
  have doubled : Nat.pow 2 ((value + 1).log2 + 1) = Nat.pow 2 (value + 1).log2 * 2 := rfl
  have remainder : value + 1 - Nat.pow 2 (value + 1).log2 < Nat.pow 2 (value + 1).log2 := by omega
  have split : value + 1 =
      Nat.pow 2 (value + 1).log2 + (value + 1 - Nat.pow 2 (value + 1).log2) := by omega
  have code : ueCode value = List.replicate (value + 1).log2 false ++
      true :: ofNat (value + 1).log2 (value + 1 - Nat.pow 2 (value + 1).log2) := by
    rw [← ofNat_succ_of_highest _ _ remainder, ← split]
    rfl
  rw [code, List.append_assoc, List.cons_append, BitReader.ue, leadingZeros?_replicate]
  simp only [Nat.not_lt.mpr short, if_false, uint_ofNat element _ _ rest remainder, Except.map]
  congr 2
  omega

/-! ### Bytes -/

/-- The bits packed into bytes. A last byte that is not full is filled up with zeros. -/
def toBytes : List Bool → Bytes
  | [] => []
  | a :: b :: c :: d :: e :: f :: g :: h :: rest =>
      UInt8.ofNat (toNat [a, b, c, d, e, f, g, h]) :: toBytes rest
  | bits => [UInt8.ofNat (toNat (bits ++ List.replicate (8 - bits.length) false))]

theorem ofByte_ofNat_toNat (a b c d e f g h : Bool) :
    ofByte (UInt8.ofNat (toNat [a, b, c, d, e, f, g, h])) = [a, b, c, d, e, f, g, h] := by
  cases a <;> cases b <;> cases c <;> cases d <;> cases e <;> cases f <;> cases g <;> cases h <;>
    rfl

end VideoIngest.Bits
