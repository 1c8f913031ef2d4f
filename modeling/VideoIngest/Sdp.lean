import VideoIngest.Codec
import VideoIngest.ParameterSets
import VideoIngest.Text.Base64

/-!
Parameter sets that a session description carries, as units to be read before the stream.

Either all of them can be used or none is.
-/

namespace VideoIngest.Sdp

open Text (trimChars)

def afterFirst (pattern : List Char) : List Char → Option (List Char)
  | [] => if pattern.isEmpty then some [] else none
  | c :: rest =>
      if pattern.isPrefixOf (c :: rest) then some ((c :: rest).drop pattern.length)
      else afterFirst pattern rest

def endsValue (c : Char) : Bool := [' ', ';', '\r', '\n'].contains c

/-- The value behind the first `name=` in the description. -/
def valueOf (name : String) (description : List Char) : Option (List Char) :=
  (afterFirst (name ++ "=").toList description).map fun rest =>
    rest.takeWhile fun c => !endsValue c

def splitAtCommas : List Char → List (List Char)
  | [] => [[]]
  | c :: rest =>
      if c = ',' then [] :: splitAtCommas rest
      else match splitAtCommas rest with
        | [] => [[c]]
        | first :: others => (c :: first) :: others

/-- A parameter set from its base 64 form. An empty one is none. -/
def parameterSet (text : List Char) : Option Bytes := do
  let payload ← Text.Base64.decode (trimChars text)
  guard (!payload.isEmpty)
  return payload

/-- The written forms of the parameter sets of a description, in the order in which they are
needed. -/
def writtenSets (codec : Codec) (description : List Char) : Option (List (List Char)) :=
  match codec with
  | .h264 =>
      (valueOf "sprop-parameter-sets" description).map fun value =>
        (splitAtCommas value).filter fun item => !item.isEmpty
  | .h265 => ["sprop-vps", "sprop-sps", "sprop-pps"].mapM fun name => valueOf name description
  | .jpeg | .vp9 => none

/-- The least number of sets that are of use. -/
def neededSets : Codec → Nat
  | .h264 => 2
  | _ => 0

def parameterSets (codec : Codec) (description : List Char) : Option (List Bytes) := do
  let sets ← (← writtenSets codec description).mapM parameterSet
  guard (neededSets codec ≤ sets.length)
  return sets

def initialUnits (codec : Codec) (description : String) : List Bytes :=
  ((parameterSets codec description.toList).getD []).map framed

end VideoIngest.Sdp
