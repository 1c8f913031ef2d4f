import VideoIngest.Error
import VideoIngest.Bits
import VideoIngest.Nal.Escape

/-!
The H.265 sequence parameter set, read as far as its conformance window.
-/

namespace VideoIngest.H265

open BitReader (uint flag ue skip)

inductive SpsFault
  | emptyUnit
  | escape (cause : Escape.Fault)
  | reader (cause : ReadError)
  | outOfRange (field : String)
  deriving DecidableEq, Repr

def SpsFault.toParseError : SpsFault → ParseError
  | emptyUnit => .invalidSps "empty NAL unit"
  | escape cause =>
      .invalidSps ("Custom \x7b kind: InvalidData, error: \"" ++ cause.message ++ "\" \x7d")
  | reader cause => .invalidSps cause.message
  | outOfRange field => .outOfRange field

instance : MonadLift (BitReader ReadError) (BitReader SpsFault) where
  monadLift reader := reader.mapError .reader

def atMost (limit : Nat) (field : String) (reader : BitReader ReadError Nat) :
    BitReader SpsFault Nat := do
  let value ← reader
  if limit < value then throw (.outOfRange field)
  return value

/-! ### Profile, tier and level -/

structure SubLayerFlags where
  hasProfile : Bool
  hasLevel : Bool
  deriving DecidableEq, Repr

def subLayerFlags : Nat → BitReader ReadError (List SubLayerFlags)
  | 0 => pure []
  | count + 1 => do
      let hasProfile ← flag "sub_layer_profile_present_flag"
      let hasLevel ← flag "sub_layer_level_present_flag"
      return { hasProfile, hasLevel } :: (← subLayerFlags count)

/-- Where there are sub-layers at all, the flags are padded to eight pairs. -/
def subLayerPadding (count : Nat) : BitReader ReadError Unit :=
  if count = 0 then pure () else skip "reserved_zero_2bits" (2 * (8 - count))

def skipSubLayer (flags : SubLayerFlags) : BitReader ReadError Unit := do
  if flags.hasProfile then skip "sub_layer_profile" 88
  if flags.hasLevel then skip "sub_layer_level_idc" 8

structure ProfileLevel where
  profileIdc : Nat
  levelIdc : Nat
  deriving DecidableEq, Repr

/-- The general profile and level, and the sub-layers' own behind them. -/
def profileTierLevel (subLayers : Nat) : BitReader ReadError ProfileLevel := do
  skip "general_profile_space" 3
  let profileIdc ← uint "general_profile_idc" 5
  skip "general_profile_compatibility_flag" 32
  skip "general_source_flags" 4
  skip "general_constraint_flags" 44
  let levelIdc ← uint "general_level_idc" 8
  let flags ← subLayerFlags subLayers
  subLayerPadding subLayers
  flags.forM skipSubLayer
  return { profileIdc, levelIdc }

/-! ### Conformance window -/

/-- The margins that are cut from the picture, in chroma units. -/
structure Window where
  left : Nat
  right : Nat
  top : Nat
  bottom : Nat
  deriving DecidableEq, Repr

def conformanceWindow : BitReader ReadError Window := do
  if ← flag "conformance_window_flag" then
    let left ← ue "conf_win_left_offset"
    let right ← ue "conf_win_right_offset"
    let top ← ue "conf_win_top_offset"
    let bottom ← ue "conf_win_bottom_offset"
    return { left, right, top, bottom }
  else
    return { left := 0, right := 0, top := 0, bottom := 0 }

/-- Luma samples per chroma sample, across and down. Planes coded apart have no chroma. -/
def chromaStep (chromaFormatIdc : Nat) (separatePlanes : Bool) : Nat × Nat :=
  if separatePlanes then (1, 1)
  else match chromaFormatIdc with
    | 1 => (2, 2)
    | 2 => (2, 1)
    | _ => (1, 1)

def remaining (extent step before after : Nat) : Except SpsFault Nat :=
  if step * (before + after) ≤ extent then .ok (extent - step * (before + after))
  else .error (.outOfRange "conf_win_offset")

/-! ### The set -/

structure SpsInfo where
  vpsId : Nat
  maxSubLayers : Nat
  profileIdc : Nat
  levelIdc : Nat
  id : Nat
  chromaFormatIdc : Nat
  width : Nat
  height : Nat
  deriving DecidableEq, Repr

def sequenceParameterSet : BitReader SpsFault SpsInfo := do
  let vpsId ← uint "sps_video_parameter_set_id" 4
  let subLayers ← atMost 6 "sps_max_sub_layers_minus1" (uint "sps_max_sub_layers_minus1" 3)
  skip "sps_temporal_id_nesting_flag" 1
  let general ← profileTierLevel subLayers
  let id ← atMost 15 "sps_seq_parameter_set_id" (ue "sps_seq_parameter_set_id")
  let chromaFormatIdc ← atMost 3 "chroma_format_idc" (ue "chroma_format_idc")
  let separatePlanes ←
    if chromaFormatIdc = 3 then (flag "separate_colour_plane_flag" : BitReader ReadError Bool)
    else pure false
  let codedWidth ← ue "pic_width_in_luma_samples"
  let codedHeight ← ue "pic_height_in_luma_samples"
  let window ← conformanceWindow
  let (stepX, stepY) := chromaStep chromaFormatIdc separatePlanes
  let width ← remaining codedWidth stepX window.left window.right
  let height ← remaining codedHeight stepY window.top window.bottom
  if width = 0 ∨ height = 0 then throw (.outOfRange "picture size")
  return { vpsId, maxSubLayers := subLayers + 1, profileIdc := general.profileIdc,
           levelIdc := general.levelIdc, id, chromaFormatIdc, width, height }

def spsOfUnit (unit : Bytes) : Except SpsFault SpsInfo := do
  if unit.length < 3 then throw .emptyUnit
  let payload ← (Escape.remove (unit.drop 2)).mapError .escape
  let (info, _) ← sequenceParameterSet (Bits.ofBytes payload)
  return info

def parseSps (unit : Bytes) : Except ParseError SpsInfo :=
  (spsOfUnit unit).mapError SpsFault.toParseError

end VideoIngest.H265
