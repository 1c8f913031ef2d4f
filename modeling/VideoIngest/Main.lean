import VideoIngest.Tool.Run

/-! The command line of the tool. -/

open VideoIngest VideoIngest.Tool

def usage : String :=
  "Push an elementary video stream file through the live ingest pipeline\n\n" ++
  "Usage: video-ingest [OPTIONS] --input <INPUT> --codec <CODEC>\n\n" ++
  "Options:\n" ++
  "  -i, --input <INPUT>      Annex-B H.264/H.265, concatenated MJPEG or IVF VP9 file\n" ++
  "  -c, --codec <CODEC>      H264, H265, MJPEG or VP9\n" ++
  "      --fps <FPS>          Chunk rate of the simulated transport [default: 25]\n" ++
  "      --pace               Reproduce source cadence at playout\n" ++
  "      --drop-regressed     Always drop frames whose timestamp goes backwards\n" ++
  "      --forward-regressed  Never drop frames whose timestamp goes backwards\n" ++
  "  -h, --help               Print help"

def pictureLine (number : Nat) (picture : Picture) : String :=
  "picture n=" ++ toString number ++ " ts=" ++ toString picture.timestamp ++
    " width=" ++ toString picture.width ++ " height=" ++ toString picture.height ++
    " bytes=" ++ toString picture.buffer.size

def summaryLine (summary : Summary) : String :=
  "done chunks=" ++ toString summary.chunks ++ " rejected=" ++ toString summary.rejected ++
    " enqueued=" ++ toString summary.stats.enqueued ++
    " dropped=" ++ toString summary.stats.dropped ++
    " decode_errors=" ++ toString summary.stats.decodeErrors ++
    " decoders=" ++ toString summary.stats.decoders ++
    " delivered=" ++ toString summary.stats.delivered

def readInput (name : String) : IO (Option Bytes) := do
  try
    return some (← IO.FS.readBinFile name).toList
  catch _ =>
    return none

/-- Milliseconds are the precision of timestamps, so the start is told in them. -/
def startOfRun : IO Nat := do
  return (← IO.monoMsNow) * 1000000

def report (call : Call) : IO Unit :=
  match call with
  | .help => IO.println usage
  | .refused _ => IO.eprintln usage
  | .failed cause => IO.eprintln cause.message
  | .finished outcome => do
      for (picture, index) in outcome.pictures.zipIdx do
        IO.println (pictureLine (index + 1) picture)
      IO.println (summaryLine outcome.summary)

def main (arguments : List String) : IO UInt32 := do
  let content ← match Options.parse arguments with
    | .error _ => pure none
    | .ok options => readInput options.input
  let call := Call.ofArguments arguments (← startOfRun) fun _ => content
  report call
  return UInt32.ofNat call.exitCode
