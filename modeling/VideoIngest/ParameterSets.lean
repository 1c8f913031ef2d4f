import VideoIngest.ByteStream
import VideoIngest.Nal.Kind

/-! The latest parameter sets of a stream, ready to be put in front of a key frame. -/

namespace VideoIngest

def framed (payload : Bytes) : Bytes := (NalUnit.mk .long payload).bytes

structure ParameterSets where
  requiresVps : Bool
  vps : Option Bytes
  sps : Option Bytes
  pps : Option Bytes
  deriving DecidableEq, Repr

namespace ParameterSets

def empty (requiresVps : Bool) : ParameterSets := ⟨requiresVps, none, none, none⟩

def observe (kind : ParameterSetKind) (payload : Bytes) (sets : ParameterSets) : ParameterSets :=
  match kind with
  | .vps => { sets with vps := some (framed payload) }
  | .sps => { sets with sps := some (framed payload) }
  | .pps => { sets with pps := some (framed payload) }

def clear (sets : ParameterSets) : ParameterSets := empty sets.requiresVps

def isComplete (sets : ParameterSets) : Bool :=
  (!sets.requiresVps || sets.vps.isSome) && sets.sps.isSome && sets.pps.isSome

def bytes (sets : ParameterSets) : Bytes :=
  sets.vps.getD [] ++ sets.sps.getD [] ++ sets.pps.getD []

def snapshot (sets : ParameterSets) : Option Bytes :=
  if sets.isComplete then some sets.bytes else none

end ParameterSets
end VideoIngest
