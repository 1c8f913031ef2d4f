import VideoIngest.Codec

/-! Every way in which ingest can fail, and the one text of each. -/

namespace VideoIngest

inductive ParseError
  | invalidSps (reason : String)
  | outOfRange (field : String)
  | notJpeg
  | jpegHeader (reason : String)
  deriving DecidableEq, Repr

namespace ParseError

def message : ParseError → String
  | invalidSps reason => "invalid SPS: " ++ reason
  | outOfRange field => field ++ " out of range"
  | notJpeg => "missing JPEG SOI marker"
  | jpegHeader reason => "bad JPEG header: " ++ reason

end ParseError

inductive IngestError
  | io (text : String)
  | parse (cause : ParseError)
  | init (codec : Codec) (reason : String)
  | decode (reason : String)
  | noDecoder
  | inlineDecode (reason : String)
  | unknownSession (id : String)
  | unsupportedCodec (name : String)
  | unsupportedMedia (media : String)
  | stopped
  deriving DecidableEq, Repr

namespace IngestError

def message : IngestError → String
  | io text => "I/O error: " ++ text
  | parse cause => "parse error: " ++ cause.message
  | init codec reason => "cannot create " ++ codec.name ++ " decoder: " ++ reason
  | decode reason => "decode failed: " ++ reason
  | noDecoder => "no decoder"
  | inlineDecode reason => "inline decode failed: " ++ reason
  | unknownSession id => "unknown session: " ++ id
  | unsupportedCodec name => "unsupported codec: " ++ name
  | unsupportedMedia media => "unsupported media: " ++ media
  | stopped => "pipeline stopped"

def asInit (codec : Codec) : IngestError → IngestError
  | init own reason => init own reason
  | other => init codec other.message

def asDecode : IngestError → IngestError
  | decode reason => decode reason
  | other => decode other.message

end IngestError
end VideoIngest
