/-!
The bits that have been read ahead from the coded bytes of a scan, in words of 64.

A number may take more bits than are left. The count of those that are left then starts over from
its top, and the bits that have been taken come round again.
-/

namespace VideoIngest.Jpeg

/-- The last bits that were read, the coming ones from the top of a word, and how many of them are
left. -/
structure BitBuffer where
  recent : UInt64
  coming : UInt64
  left : UInt8
  deriving DecidableEq, Repr

namespace BitBuffer

def empty : BitBuffer := { recent := 0, coming := 0, left := 0 }

/-- The buffer behind another byte, which does not come before the next `aligned`. -/
def push (byte : UInt8) (buffer : BitBuffer) : BitBuffer :=
  { buffer with recent := buffer.recent <<< 8 ||| byte.toUInt64, left := buffer.left + 8 }

def aligned (buffer : BitBuffer) : BitBuffer :=
  if buffer.left = 0 then buffer
  else { buffer with coming := buffer.recent <<< (64 - buffer.left).toUInt64 }

def append (buffer : BitBuffer) (bytes : List UInt8) : BitBuffer :=
  (bytes.foldl (fun buffer byte => buffer.push byte) buffer).aligned

def drop (count : Nat) (buffer : BitBuffer) : BitBuffer :=
  { buffer with
    coming := buffer.coming <<< UInt64.ofNat count
    left := UInt8.ofNat (buffer.left.toNat - count) }

def peek (skipped count : Nat) (buffer : BitBuffer) : Nat :=
  (buffer.coming <<< UInt64.ofNat skipped).toNat / Nat.pow 2 (64 - count)

/-- Takes the next `count` bits, of which there are up to sixteen, and puts them at the end. -/
def take (count : Nat) (buffer : BitBuffer) : Nat × BitBuffer :=
  (buffer.peek 0 count,
    { buffer with
      coming := buffer.coming <<< UInt64.ofNat count ||| buffer.coming >>> UInt64.ofNat (64 - count)
      left := buffer.left - UInt8.ofNat count })

end BitBuffer
end VideoIngest.Jpeg
