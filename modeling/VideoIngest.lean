import VideoIngest.Bits.Writer
import VideoIngest.Fanout.Requests
import VideoIngest.IngestQueue.Requests
import VideoIngest.Main
import VideoIngest.Proofs.Assembler.ChunkBorder
import VideoIngest.Proofs.Assembler.Items
import VideoIngest.Proofs.Assembler.StreamStart
import VideoIngest.Proofs.Assembler.Stuffing
import VideoIngest.Proofs.ByteStream.Marks
import VideoIngest.Proofs.Container.Ivf
import VideoIngest.Proofs.Container.JpegFiles
import VideoIngest.Proofs.Container.Slices
import VideoIngest.Proofs.DecodeLoop.Worker
import VideoIngest.Proofs.Decoder.Failures
import VideoIngest.Proofs.Decoder.LifeCycle
import VideoIngest.Proofs.Fanout.FiniteMap
import VideoIngest.Proofs.IngestQueue.InOrder
import VideoIngest.Proofs.Picture.Conversion
import VideoIngest.Proofs.Pipeline.Accounting
import VideoIngest.Proofs.Pipeline.Admission
import VideoIngest.Proofs.Pipeline.DescribedSets
import VideoIngest.Proofs.Pipeline.InlineSessions
import VideoIngest.Proofs.Pipeline.Passthrough
import VideoIngest.Proofs.Pipeline.Regressions
import VideoIngest.Proofs.Pipeline.Rejections
import VideoIngest.Proofs.Pipeline.SessionState
import VideoIngest.Proofs.Pipeline.Stopped
import VideoIngest.Proofs.Playout.Cadence
import VideoIngest.Proofs.Playout.HeldBack
import VideoIngest.Proofs.Sdp.ParameterSets
import VideoIngest.Proofs.Session.Isolation
import VideoIngest.Proofs.Session.Terminal
import VideoIngest.Proofs.Tool.Schedule
