import VideoIngest.Error
import VideoIngest.H264.SpsFault
import VideoIngest.Number.Word

/-!
The H.264 sequence parameter set: its syntax, and the picture size that it announces.

The syntax is read to its end, so that a set with any field out of range is refused as a whole.
-/

namespace VideoIngest.H264

open BitReader (uint flag ue se skip repeated)

structure Sps where
  profileIdc : Nat
  levelIdc : Nat
  id : Nat
  chromaFormatIdc : Nat
  widthInMbsMinus1 : Nat
  heightInMapUnitsMinus1 : Nat
  frameMbsOnly : Bool
  cropping : Option Cropping
  deriving DecidableEq, Repr

instance : MonadLift (BitReader ReadError) (BitReader ScalingFault) where
  monadLift reader := reader.mapError .reader

instance : MonadLift (BitReader ReadError) (BitReader PicOrderFault) where
  monadLift reader := reader.mapError .reader

instance : MonadLift (BitReader ReadError) (BitReader SpsFault) where
  monadLift reader := reader.mapError .reader

def demand {ε : Type} (condition : Prop) [Decidable condition] (fault : ε) : BitReader ε Unit :=
  if condition then pure () else throw fault

/-- Reads a flag and, where it is set, what it announces. Returns the flag. -/
def optional {ε : Type} [MonadLift (BitReader ReadError) (BitReader ε)] (element : String)
    (announced : BitReader ε Unit) : BitReader ε Bool := do
  let present ← flag element
  if present then announced
  return present

/-! ### Chroma and scaling -/

/-- The profiles whose parameter sets describe chroma, bit depth and scaling. -/
def highProfiles : List Nat := [100, 110, 122, 244, 44, 83, 86]

def nextScale (last delta : Int) : Int := (last + delta + 256) % 256

/-- The entries of a scaling list. A scale of zero ends the differences, not the list. -/
def scalingList : Nat → Int → Int → BitReader ScalingFault Unit
  | 0, _, _ => pure ()
  | count + 1, last, next =>
      if next = 0 then scalingList count last 0
      else do
        let delta ← se "delta_scale"
        demand (-128 ≤ delta ∧ delta ≤ 127) (.deltaOutOfRange delta)
        let next := nextScale last delta
        scalingList count (if next = 0 then last else next) next

/-- The sizes of the scaling lists: six of 4 × 4 entries, then those of 8 × 8. -/
def scalingListSizes (chromaFormatIdc : Nat) : List Nat :=
  List.replicate 6 16 ++ List.replicate (if chromaFormatIdc = 3 then 6 else 2) 64

def scalingMatrix (chromaFormatIdc : Nat) : BitReader ScalingFault Unit :=
  (scalingListSizes chromaFormatIdc).forM fun size => do
    let _ ← optional "seq_scaling_list_present_flag" (scalingList size 8 8)

def bitDepth : BitReader SpsFault Unit := do
  let depth ← ue "read_bit_depth_minus8"
  demand (depth ≤ 6) (.bitDepthOutOfRange depth)

def chromaInfo : BitReader SpsFault Nat := do
  let chroma ← ue "chroma_format_idc"
  if chroma = 3 then skip "separate_colour_plane_flag" 1
  bitDepth
  bitDepth
  skip "qpprime_y_zero_transform_bypass_flag" 1
  let _ ← optional "scaling_matrix_present_flag" ((scalingMatrix chroma).mapError .scalingMatrix)
  return chroma

/-! ### Picture order count -/

def picOrderCycle : BitReader PicOrderFault Unit := do
  skip "delta_pic_order_always_zero_flag" 1
  let _ ← se "offset_for_non_ref_pic"
  let _ ← se "offset_for_top_to_bottom_field"
  let length ← ue "num_ref_frames_in_pic_order_cnt_cycle"
  demand (length ≤ 255) (.cycleTooLong length)
  repeated (do let _ ← se "offset_for_ref_frame") length

def picOrder : BitReader PicOrderFault Unit := do
  match ← ue "pic_order_cnt_type" with
  | 0 =>
      let length ← ue "log2_max_pic_order_cnt_lsb_minus4"
      demand (length ≤ 12) (.lsbLengthOutOfRange length)
  | 1 => picOrderCycle
  | 2 => pure ()
  | other => throw (.unknownType other)

/-! ### Usability information -/

def aspectRatio : BitReader SpsFault Unit := do
  let ratio ← uint "aspect_ratio_idc" 8
  if ratio = 255 then
    skip "sar_width" 16
    skip "sar_height" 16

def colourDescription : BitReader SpsFault Unit := do
  skip "colour_primaries" 8
  skip "transfer_characteristics" 8
  skip "matrix_coefficients" 8

def videoSignalType : BitReader SpsFault Unit := do
  skip "video_format" 3
  skip "video_full_range_flag" 1
  let _ ← optional "colour_description_present_flag" colourDescription

def chromaLocation : BitReader SpsFault Unit := do
  let _ ← ue "chroma_sample_loc_type_top_field"
  let _ ← ue "chroma_sample_loc_type_bottom_field"

def timing : BitReader SpsFault Unit := do
  skip "num_units_in_tick" 32
  skip "time_scale" 32
  skip "fixed_frame_rate_flag" 1

def codedPictureBuffer : BitReader SpsFault Unit := do
  let _ ← ue "bit_rate_value_minus1"
  let _ ← ue "cpb_size_value_minus1"
  skip "cbr_flag" 1

def referenceDecoder : BitReader SpsFault Unit := do
  let count ← ue "cpb_cnt_minus1"
  demand (count ≤ 31) (.cpbCountOutOfRange count)
  skip "bit_rate_scale" 4
  skip "cpb_size_scale" 4
  repeated codedPictureBuffer (count + 1)
  skip "initial_cpb_removal_delay_length_minus1" 5
  skip "cpb_removal_delay_length_minus1" 5
  skip "dpb_output_delay_length_minus1" 5
  skip "time_offset_length" 5

def smallExponent (element : String) : BitReader SpsFault Unit := do
  let value ← ue element
  demand (value ≤ 16) (.valueTooLarge element value)

def bitstreamRestriction (maxRefFrames : Nat) : BitReader SpsFault Unit := do
  skip "motion_vectors_over_pic_boundaries_flag" 1
  smallExponent "max_bytes_per_pic_denom"
  smallExponent "max_bits_per_mb_denom"
  smallExponent "log2_max_mv_length_horizontal"
  smallExponent "log2_max_mv_length_vertical"
  let reordered ← ue "max_num_reorder_frames"
  let buffered ← ue "max_dec_frame_buffering"
  demand (reordered ≤ buffered) (.valueTooLarge "max_num_reorder_frames" reordered)
  demand (maxRefFrames ≤ buffered) (.valueTooSmall "max_dec_frame_buffering" buffered)

def usability (maxRefFrames : Nat) : BitReader SpsFault Unit := do
  let _ ← optional "aspect_ratio_info_present_flag" aspectRatio
  let _ ← optional "overscan_info_present_flag" (skip "overscan_appropriate_flag" 1)
  let _ ← optional "video_signal_type_present_flag" videoSignalType
  let _ ← optional "chroma_loc_info_present_flag" chromaLocation
  let _ ← optional "timing_info_present_flag" timing
  let nal ← optional "hrd_parameters_present_flag" referenceDecoder
  let vcl ← optional "hrd_parameters_present_flag" referenceDecoder
  if nal || vcl then skip "low_delay_hrd_flag" 1
  skip "pic_struct_present_flag" 1
  let _ ← optional "bitstream_restriction_flag" (bitstreamRestriction maxRefFrames)

/-! ### The whole set -/

def frameCropping : BitReader SpsFault (Option Cropping) := do
  if ← flag "frame_cropping_flag" then
    let left ← ue "left_offset"
    let right ← ue "right_offset"
    let top ← ue "top_offset"
    let bottom ← ue "bottom_offset"
    return some { left, right, top, bottom }
  else
    return none

/-- The stop bit, after which only zeros may follow. -/
def stopBit : BitReader SpsFault Unit
  | [] => .error (.reader (.endOfData "finish"))
  | stop :: rest =>
      if rest.any id then .error .trailingData
      else if stop then .ok ((), rest)
      else .error (.reader (.endOfData "finish"))

def sequenceParameterSet : BitReader SpsFault Sps := do
  let profileIdc ← uint "profile_idc" 8
  skip "constraint_flags" 8
  let levelIdc ← uint "level_idc" 8
  let id ← ue "seq_parameter_set_id"
  demand (id ≤ 31) (.idTooLarge id)
  let chromaFormatIdc ← if profileIdc ∈ highProfiles then chromaInfo else pure 1
  let frameNumLength ← ue "log2_max_frame_num_minus4"
  demand (frameNumLength ≤ 12) (.frameNumLengthOutOfRange frameNumLength)
  picOrder.mapError .picOrder
  let maxRefFrames ← ue "max_num_ref_frames"
  skip "gaps_in_frame_num_value_allowed_flag" 1
  let widthInMbsMinus1 ← ue "pic_width_in_mbs_minus1"
  let heightInMapUnitsMinus1 ← ue "pic_height_in_map_units_minus1"
  let frameMbsOnly ← flag "frame_mbs_only_flag"
  if !frameMbsOnly then skip "mb_adaptive_frame_field_flag" 1
  skip "direct_8x8_inference_flag" 1
  let cropping ← frameCropping
  let _ ← optional "vui_parameters_present_flag" (usability maxRefFrames)
  stopBit
  return { profileIdc, levelIdc, id, chromaFormatIdc, widthInMbsMinus1, heightInMapUnitsMinus1,
           frameMbsOnly, cropping }

/-! ### Picture size -/

/-- Sizes are 32-bit numbers. A larger one is blamed on the element it was computed from. -/
def within32 (element : String) (blamed value : Nat) : Except SpsFault Nat :=
  if value < Number.wordBound32 then .ok value else .error (.valueTooLarge element blamed)

namespace Sps

/-- How many rows of macroblocks a map unit stands for. -/
def rowsPerMapUnit (sps : Sps) : Nat := if sps.frameMbsOnly then 1 else 2

def cropStepX (sps : Sps) : Nat :=
  if sps.chromaFormatIdc = 1 ∨ sps.chromaFormatIdc = 2 then 2 else 1

def cropStepY (sps : Sps) : Nat :=
  if sps.chromaFormatIdc = 1 then 2 * sps.rowsPerMapUnit else sps.rowsPerMapUnit

def croppedSize (sps : Sps) (width height : Nat) (offsets : Cropping) :
    Except SpsFault (Nat × Nat) := do
  let left ← within32 "left_offset" offsets.left (offsets.left * sps.cropStepX)
  let right ← within32 "right_offset" offsets.right (offsets.right * sps.cropStepX)
  let top ← within32 "top_offset" offsets.top (offsets.top * sps.cropStepY)
  let bottom ← within32 "bottom_offset" offsets.bottom (offsets.bottom * sps.cropStepY)
  if left + right ≤ width ∧ top + bottom ≤ height then
    return (width - (left + right), height - (top + bottom))
  else
    throw (.cropping offsets)

def pictureSize (sps : Sps) : Except SpsFault (Nat × Nat) := do
  let width ← within32 "pic_width_in_mbs_minus1" sps.widthInMbsMinus1
    ((sps.widthInMbsMinus1 + 1) * 16)
  let height ← within32 "pic_height_in_map_units_minus1" sps.heightInMapUnitsMinus1
    ((sps.heightInMapUnitsMinus1 + 1) * 16 * sps.rowsPerMapUnit)
  match sps.cropping with
  | none => return (width, height)
  | some offsets => sps.croppedSize width height offsets

end Sps

structure SpsInfo where
  profileIdc : Nat
  levelIdc : Nat
  id : Nat
  width : Nat
  height : Nat
  deriving DecidableEq, Repr

def spsOfPayload (payload : Bytes) : Except SpsFault (Sps × Nat × Nat) := do
  if payload.length < 4 then throw (.shortPayload payload.length)
  let (sps, _) ← sequenceParameterSet (Bits.ofBytes payload)
  return (sps, ← sps.pictureSize)

def spsOfUnit (unit : Bytes) : Except SpsFault (Sps × Nat × Nat) := do
  if unit.length < 2 then throw .emptyUnit
  spsOfPayload (← (Escape.remove unit.tail).mapError .escape)

/-- Reads a unit, header byte included, as a sequence parameter set of pictures that are not
empty. -/
def parseSps (unit : Bytes) : Except ParseError SpsInfo :=
  match spsOfUnit unit with
  | .error fault => .error (.invalidSps fault.message)
  | .ok (sps, width, height) =>
      if width = 0 ∨ height = 0 then .error (.outOfRange "picture size")
      else .ok { profileIdc := sps.profileIdc, levelIdc := sps.levelIdc, id := sps.id,
                 width, height }

end VideoIngest.H264
