import VideoIngest.Bytes

/-!
Base 64 with the standard alphabet, read and written.

Padding is either complete or absent, and the bits that no byte uses are zero, so that a text
without padding has one form. What is written, in either form, reads back: `decode_encode` and
`decode_encodePadded`.
-/

namespace VideoIngest.Text.Base64

def span (first : Char) (count : Nat) : List Char :=
  (List.range count).map fun place => Char.ofNat (first.toNat + place)

def alphabet : List Char := span 'A' 26 ++ span 'a' 26 ++ span '0' 10 ++ ['+', '/']

def pad : Char := '='

/-! ### Reading -/

def bytesOfDigits : List Nat → Option Bytes
  | [] => some []
  | [_] => none
  | [a, b] => if b % 16 = 0 then some [UInt8.ofNat (a * 4 + b / 16)] else none
  | [a, b, c] =>
      if c % 4 = 0 then
        some [UInt8.ofNat (a * 4 + b / 16), UInt8.ofNat (b % 16 * 16 + c / 4)]
      else none
  | a :: b :: c :: d :: rest =>
      (bytesOfDigits rest).map fun bytes =>
        UInt8.ofNat (a * 4 + b / 16) :: UInt8.ofNat (b % 16 * 16 + c / 4) ::
          UInt8.ofNat (c % 4 * 64 + d) :: bytes

/-- Whether these are the pads that belong behind so many digits, or none at all. -/
def isPadding (digitCount : Nat) (tail : List Char) : Bool :=
  tail.isEmpty ||
    (tail.all (· == pad) && tail.length ≤ 2 && (digitCount + tail.length) % 4 == 0)

def digitValue? (digit : Char) : Option Nat := alphabet.idxOf? digit

def decode (text : List Char) : Option Bytes :=
  let digits := text.takeWhile (· != pad)
  if isPadding digits.length (text.dropWhile (· != pad)) then
    (digits.mapM digitValue?).bind bytesOfDigits
  else none

/-! ### Writing -/

def digitsOfBytes : Bytes → List Nat
  | [] => []
  | [a] => [a.toNat / 4, a.toNat % 4 * 16]
  | [a, b] => [a.toNat / 4, a.toNat % 4 * 16 + b.toNat / 16, b.toNat % 16 * 4]
  | a :: b :: c :: rest =>
      a.toNat / 4 :: (a.toNat % 4 * 16 + b.toNat / 16) :: (b.toNat % 16 * 4 + c.toNat / 64) ::
        (c.toNat % 64) :: digitsOfBytes rest

def digit (value : Nat) : Char := alphabet.getD value pad

def encode (bytes : Bytes) : List Char := (digitsOfBytes bytes).map digit

def padCount (bytes : Bytes) : Nat := (3 - bytes.length % 3) % 3

def encodePadded (bytes : Bytes) : List Char :=
  encode bytes ++ List.replicate (padCount bytes) pad

/-! ### What is written reads back -/

theorem bytesOfDigits_digitsOfBytes (bytes : Bytes) :
    bytesOfDigits (digitsOfBytes bytes) = some bytes := by
  fun_induction digitsOfBytes bytes with
  | case1 => rfl
  | case2 a =>
      have bound := a.toNat_lt
      have whole : a.toNat / 4 * 4 + a.toNat % 4 * 16 / 16 = a.toNat := by omega
      have spare : a.toNat % 4 * 16 % 16 = 0 := by omega
      simp only [bytesOfDigits, spare, if_true, whole, UInt8.ofNat_toNat]
  | case3 a b =>
      have boundA := a.toNat_lt
      have boundB := b.toNat_lt
      have first : a.toNat / 4 * 4 + (a.toNat % 4 * 16 + b.toNat / 16) / 16 = a.toNat := by omega
      have second : (a.toNat % 4 * 16 + b.toNat / 16) % 16 * 16 + b.toNat % 16 * 4 / 4 =
          b.toNat := by omega
      have spare : b.toNat % 16 * 4 % 4 = 0 := by omega
      simp only [bytesOfDigits, spare, if_true, first, second, UInt8.ofNat_toNat]
  | case4 a b c rest ih =>
      have boundA := a.toNat_lt
      have boundB := b.toNat_lt
      have boundC := c.toNat_lt
      have first : a.toNat / 4 * 4 + (a.toNat % 4 * 16 + b.toNat / 16) / 16 = a.toNat := by omega
      have second : (a.toNat % 4 * 16 + b.toNat / 16) % 16 * 16 +
          (b.toNat % 16 * 4 + c.toNat / 64) / 4 = b.toNat := by omega
      have third : (b.toNat % 16 * 4 + c.toNat / 64) % 4 * 64 + c.toNat % 64 = c.toNat := by omega
      simp only [bytesOfDigits, ih, Option.map_some, first, second, third, UInt8.ofNat_toNat]

theorem digitsOfBytes_lt (bytes : Bytes) : ∀ value ∈ digitsOfBytes bytes, value < 64 := by
  fun_induction digitsOfBytes bytes with
  | case1 => simp
  | case2 a =>
      have bound := a.toNat_lt
      simp only [List.mem_cons, List.not_mem_nil, or_false, forall_eq_or_imp, forall_eq]
      omega
  | case3 a b =>
      have boundA := a.toNat_lt
      have boundB := b.toNat_lt
      simp only [List.mem_cons, List.not_mem_nil, or_false, forall_eq_or_imp, forall_eq]
      omega
  | case4 a b c rest ih =>
      have boundA := a.toNat_lt
      have boundB := b.toNat_lt
      have boundC := c.toNat_lt
      simp only [List.mem_cons, forall_eq_or_imp]
      exact ⟨by omega, by omega, by omega, by omega, ih⟩

theorem length_digitsOfBytes (bytes : Bytes) :
    ((digitsOfBytes bytes).length + padCount bytes) % 4 = 0 := by
  fun_induction digitsOfBytes bytes with
  | case1 => rfl
  | case2 a => simp [padCount]
  | case3 a b => simp [padCount]
  | case4 a b c rest ih =>
      simp only [padCount, List.length_cons] at ih ⊢
      omega

theorem digitValue?_digit : ∀ value < 64, digitValue? (digit value) = some value := by decide

theorem digit_ne_pad : ∀ value < 64, (digit value != pad) = true := by decide

theorem mapM_digitValue? (values : List Nat) (small : ∀ value ∈ values, value < 64) :
    (values.map digit).mapM digitValue? = some values := by
  induction values with
  | nil => rfl
  | cons value rest ih =>
      have head := digitValue?_digit value (small value (by simp))
      have tail := ih fun other member => small other (by simp [member])
      simp [List.mapM_cons, head, tail]

theorem takeWhile_encode (bytes : Bytes) (tail : List Char) (pads : tail.all (· == pad) = true) :
    (encode bytes ++ tail).takeWhile (· != pad) = encode bytes := by
  have digits : ∀ c ∈ encode bytes, (c != pad) = true := by
    intro c member
    obtain ⟨value, inDigits, rfl⟩ := List.mem_map.mp member
    exact digit_ne_pad value (digitsOfBytes_lt bytes value inDigits)
  rw [List.takeWhile_append_of_pos digits]
  cases tail with
  | nil => simp
  | cons c rest => simp_all

theorem dropWhile_encode (bytes : Bytes) (tail : List Char) (pads : tail.all (· == pad) = true) :
    (encode bytes ++ tail).dropWhile (· != pad) = tail := by
  have both : (encode bytes ++ tail).takeWhile (· != pad) ++
      (encode bytes ++ tail).dropWhile (· != pad) = encode bytes ++ tail :=
    List.takeWhile_append_dropWhile
  rw [takeWhile_encode bytes tail pads] at both
  exact List.append_cancel_left both

theorem decode_encode_append (bytes : Bytes) (tail : List Char) (pads : tail.all (· == pad) = true)
    (padding : isPadding (encode bytes).length tail = true) :
    decode (encode bytes ++ tail) = some bytes := by
  unfold decode
  rw [takeWhile_encode bytes tail pads, dropWhile_encode bytes tail pads]
  have values : (encode bytes).mapM digitValue? = some (digitsOfBytes bytes) :=
    mapM_digitValue? _ (digitsOfBytes_lt bytes)
  simp only [padding, if_true, values, Option.bind_some, bytesOfDigits_digitsOfBytes]

theorem decode_encode (bytes : Bytes) : decode (encode bytes) = some bytes := by
  have read := decode_encode_append bytes [] (by rfl) (by rfl)
  rwa [List.append_nil] at read

theorem decode_encodePadded (bytes : Bytes) : decode (encodePadded bytes) = some bytes := by
  have whole := length_digitsOfBytes bytes
  have few : padCount bytes ≤ 2 := by unfold padCount; omega
  apply decode_encode_append
  · simp
  · simp [isPadding, encode, whole, few]

end VideoIngest.Text.Base64
