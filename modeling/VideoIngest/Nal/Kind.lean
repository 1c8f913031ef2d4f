import VideoIngest.Codec

/-! What the header byte of a NAL unit says about the unit, in H.264 and in H.265. -/

namespace VideoIngest

inductive ParameterSetKind
  | vps
  | sps
  | pps
  deriving DecidableEq, Repr

inductive NalRole
  | parameterSet (kind : ParameterSetKind)
  | key
  | delta
  | skip
  deriving DecidableEq, Repr

namespace H264

inductive NalType
  | slice
  | idr
  | sei
  | sps
  | pps
  | aud
  | other (code : Nat)
  deriving DecidableEq, Repr

namespace NalType

/-- The type code is in the low five bits. -/
def ofHeader (header : UInt8) : NalType :=
  match header.toNat % 32 with
  | 1 | 2 | 3 | 4 => slice
  | 5 => idr
  | 6 => sei
  | 7 => sps
  | 8 => pps
  | 9 => aud
  | code => other code

def role : NalType → NalRole
  | sps => .parameterSet .sps
  | pps => .parameterSet .pps
  | idr => .key
  | slice => .delta
  | sei | aud | other _ => .skip

end NalType
end H264

namespace H265

inductive NalType
  | slice
  | irap
  | vps
  | sps
  | pps
  | aud
  | sei
  | other (code : Nat)
  deriving DecidableEq, Repr

namespace NalType

/-- The type code is in the six bits below the highest one. -/
def ofHeader (header : UInt8) : NalType :=
  let code := header.toNat / 2 % 64
  if code ≤ 15 then slice
  else if code ≤ 21 then irap
  else match code with
    | 32 => vps
    | 33 => sps
    | 34 => pps
    | 35 => aud
    | 39 | 40 => sei
    | code => other code

def role : NalType → NalRole
  | vps => .parameterSet .vps
  | sps => .parameterSet .sps
  | pps => .parameterSet .pps
  | irap => .key
  | slice => .delta
  | aud | sei | other _ => .skip

end NalType
end H265
end VideoIngest
