import VideoIngest.Nal.Codec
import VideoIngest.ParameterSets
import VideoIngest.Picture

/-!
From chunks of NAL units to formats and frames.

Each sequence parameter set announces a format. A key frame is sent with the parameter sets in front
of it, so that a decoder can start there; a set that changes the picture size invalidates the
parameter sets before it, except for a video parameter set of the same chunk.
-/

namespace VideoIngest

structure AnnexB where
  sets : ParameterSets
  active : Option VideoFormat
  deriving DecidableEq, Repr

namespace AnnexB

def fresh (codec : NalCodec) : AnnexB := ⟨.empty codec.requiresVps, none⟩

/-- What is known inside a chunk: besides the rest, the latest video parameter set in it. -/
structure InChunk where
  kept : AnnexB
  chunkVps : Option Bytes
  deriving DecidableEq, Repr

/-- The sets that outlast a change of the picture size. -/
def setsAfterChange (state : InChunk) : ParameterSets :=
  match state.chunkVps with
  | none => state.kept.sets.clear
  | some vps => state.kept.sets.clear.observe .vps vps

/-- Makes a format the active one. The first format of a stream is no change. -/
def announce (format : VideoFormat) (state : InChunk) : AnnexB :=
  match state.kept.active with
  | none => { state.kept with active := some format }
  | some previous =>
      if previous = format then state.kept
      else { sets := setsAfterChange state, active := some format }

def remember (kind : ParameterSetKind) (payload : Bytes) (kept : AnnexB) : AnnexB :=
  { kept with sets := kept.sets.observe kind payload }

def onSps (codec : NalCodec) (payload : Bytes) (state : InChunk) : AnnexB × VideoFormat :=
  match codec.pictureSize payload with
  | .error _ => (remember .sps payload state.kept, .unknown codec.codec)
  | .ok (width, height) =>
      let format : VideoFormat := ⟨codec.codec, width, height⟩
      (remember .sps payload (announce format state), format)

def keyFrameData (sets : ParameterSets) (unit : NalUnit) : Bytes :=
  sets.snapshot.getD [] ++ unit.bytes

def onUnit (codec : NalCodec) (timestamp : Nat) (state : InChunk) (unit : NalUnit) :
    InChunk × Option MediaItem :=
  match codec.roleOfPayload unit.payload with
  | .parameterSet .sps =>
      let (kept, format) := onSps codec unit.payload state
      ({ state with kept }, some (.format format))
  | .parameterSet .vps =>
      ({ kept := remember .vps unit.payload state.kept, chunkVps := some unit.payload }, none)
  | .parameterSet .pps => ({ state with kept := remember .pps unit.payload state.kept }, none)
  | .key =>
      (state, some (.frame { data := keyFrameData state.kept.sets unit, timestamp, kind := .key }))
  | .delta => (state, some (.frame { data := unit.bytes, timestamp, kind := .delta }))
  | .skip => (state, none)

def onUnits (codec : NalCodec) (timestamp : Nat) (state : InChunk) :
    List NalUnit → InChunk × List MediaItem
  | [] => (state, [])
  | unit :: rest =>
      let (next, item) := onUnit codec timestamp state unit
      let (last, items) := onUnits codec timestamp next rest
      (last, item.toList ++ items)

def assemble (kept : AnnexB) (codec : NalCodec) (chunk : Bytes) (timestamp : Nat) :
    AnnexB × List MediaItem :=
  let (state, items) := onUnits codec timestamp ⟨kept, none⟩ (NalUnit.scan chunk)
  (state.kept, items)

end AnnexB
end VideoIngest
