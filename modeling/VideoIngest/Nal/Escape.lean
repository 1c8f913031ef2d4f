import VideoIngest.Bytes

/-!
The payload of a NAL unit with and without its emulation prevention bytes.

Inside a unit a 03 stands after every two zeros that a byte of at most 3 follows, so that no start
code appears. Reading drops these bytes and writing puts them in; what was written reads back:
`remove_insert`.
-/

namespace VideoIngest.Escape

inductive State
  | clear
  | oneZero
  | twoZeros
  | escaped
  deriving DecidableEq, Repr

inductive Fault
  | thirdZero
  | needlessEscape (byte : UInt8)
  deriving DecidableEq, Repr

def hexDigits (byte : UInt8) : String :=
  String.ofList (Nat.toDigits 16 byte.toNat)

def Fault.message : Fault → String
  | thirdZero => "invalid RBSP byte 0x0 in state TwoZero"
  | needlessEscape byte => "invalid RBSP byte 0x" ++ hexDigits byte ++ " in state PostThree"

/-- The state after a byte that is kept and that no two zeros precede. -/
def State.afterKept (byte : UInt8) : State :=
  if byte = 0 then oneZero else clear

/-! ### Reading -/

def removeFrom : State → Bytes → Except Fault Bytes
  | _, [] => .ok []
  | .clear, byte :: rest =>
      (removeFrom (.afterKept byte) rest).map (byte :: ·)
  | .oneZero, byte :: rest =>
      (removeFrom (if byte = 0 then .twoZeros else .clear) rest).map (byte :: ·)
  | .twoZeros, byte :: rest =>
      if byte = 3 then removeFrom .escaped rest
      else if byte = 0 then .error .thirdZero
      else (removeFrom .clear rest).map (byte :: ·)
  | .escaped, byte :: rest =>
      if byte ≤ 3 then (removeFrom (.afterKept byte) rest).map (byte :: ·)
      else .error (.needlessEscape byte)

def remove (escaped : Bytes) : Except Fault Bytes := removeFrom .clear escaped

/-! ### Writing -/

def State.afterWritten (byte : UInt8) : State → State
  | oneZero => if byte = 0 then twoZeros else clear
  | _ => afterKept byte

def insertFrom : State → Bytes → Bytes
  | _, [] => []
  | .twoZeros, byte :: rest =>
      if byte ≤ 3 then 3 :: byte :: insertFrom (.afterKept byte) rest
      else byte :: insertFrom .clear rest
  | state, byte :: rest => byte :: insertFrom (state.afterWritten byte) rest

def insert (payload : Bytes) : Bytes := insertFrom .clear payload

theorem removeFrom_insertFrom (payload : Bytes) (state : State) (written : state ≠ .escaped) :
    removeFrom state (insertFrom state payload) = .ok payload := by
  induction payload generalizing state with
  | nil => cases state <;> rfl
  | cons byte rest ih =>
      have clear := ih .clear (by decide)
      have oneZero := ih .oneZero (by decide)
      have twoZeros := ih .twoZeros (by decide)
      have kept : removeFrom (.afterKept byte) (insertFrom (.afterKept byte) rest) = .ok rest := by
        unfold State.afterKept
        split
        · exact oneZero
        · exact clear
      cases state with
      | clear => simp only [insertFrom, State.afterWritten, removeFrom, kept, Except.map]
      | oneZero =>
          simp only [insertFrom, State.afterWritten, removeFrom]
          split
          · simp only [twoZeros, Except.map]
          · simp only [clear, Except.map]
      | twoZeros =>
          simp only [insertFrom]
          split
          · rename_i low
            simp only [removeFrom, if_true, low, kept, Except.map]
          · rename_i high
            have notThree : byte ≠ 3 := fun three => high (by simp [three])
            have notZero : byte ≠ 0 := fun zero => high (by simp [zero])
            simp only [removeFrom, notThree, notZero, if_false, clear, Except.map]
      | escaped => exact absurd rfl written

theorem remove_insert (payload : Bytes) : remove (insert payload) = .ok payload :=
  removeFrom_insertFrom payload .clear (by decide)

end VideoIngest.Escape
