/-! Byte strings and the numbers of several bytes that headers hold. -/

namespace VideoIngest

abbrev Bytes := List UInt8

namespace Bytes

def bigEndian (bytes : Bytes) : Nat :=
  bytes.foldl (fun value byte => value * 256 + byte.toNat) 0

def littleEndian (bytes : Bytes) : Nat :=
  bytes.foldr (fun byte value => byte.toNat + 256 * value) 0

def takeExactly (count : Nat) (bytes : Bytes) : Option (Bytes × Bytes) :=
  let taken := bytes.take count
  if taken.length = count then some (taken, bytes.drop count) else none

theorem takeExactly_append (front rest : Bytes) :
    takeExactly front.length (front ++ rest) = some (front, rest) := by
  simp [takeExactly]

theorem append_eq_of_takeExactly_eq_some {count : Nat} {bytes front rest : Bytes}
    (taken : takeExactly count bytes = some (front, rest)) :
    front ++ rest = bytes ∧ front.length = count := by
  simp only [takeExactly] at taken
  split at taken
  · rename_i full
    obtain ⟨rfl, rfl⟩ := Prod.mk.inj (Option.some.inj taken)
    exact ⟨List.take_append_drop count bytes, full⟩
  · contradiction

end Bytes
end VideoIngest
