import OffloadCodec.Main
import OffloadCodec.CInterface
import OffloadCodec.Parallel
import OffloadCodec.Simulated.Library
import OffloadCodec.Proofs.WholeBlocks
import OffloadCodec.Proofs.CodecCalls
import OffloadCodec.Proofs.Stream.Transport
import OffloadCodec.Proofs.Stream.Emission
import OffloadCodec.Proofs.Stream.Collecting
import OffloadCodec.Proofs.Stream.WriterUse
import OffloadCodec.Proofs.Stream.CanonicalEncoding
import OffloadCodec.Proofs.Stream.Decoding
import OffloadCodec.Proofs.Stream.Splitting
import OffloadCodec.Proofs.Stream.Grammar
import OffloadCodec.Proofs.Stream.Serving
import OffloadCodec.Proofs.Stream.ReadingOut
import OffloadCodec.Proofs.Stream.RoundTrip
import OffloadCodec.Proofs.SimulatedLibrary
import OffloadCodec.Proofs.Parallel.SharedWork
import OffloadCodec.Proofs.Parallel.Compression
import OffloadCodec.Proofs.Parallel.Decompression
import OffloadCodec.Proofs.Stream.LostFrames
import OffloadCodec.Proofs.Stream.FailedWriter
import OffloadCodec.Proofs.Defaults.Updates
import OffloadCodec.Proofs.Defaults.Sharing
import OffloadCodec.Proofs.Defaults.Level
import OffloadCodec.Proofs.Calls.Streams
import OffloadCodec.Proofs.Calls.Reports
import OffloadCodec.Proofs.Files.Places
import OffloadCodec.Proofs.Files.Transfers
import OffloadCodec.Proofs.Resources.Programs
import OffloadCodec.Proofs.Process.Binding
import OffloadCodec.Proofs.Process.Facade
import OffloadCodec.Proofs.Process.CInterface
import OffloadCodec.Proofs.Levels.Latches
import OffloadCodec.Proofs.Levels.Interleaving
import OffloadCodec.Proofs.Calls.Lengths
import OffloadCodec.Proofs.Files.Prefixes
import OffloadCodec.Proofs.Files.Setups
import OffloadCodec.Proofs.Process.Lengths
import OffloadCodec.Proofs.Stream.Gaps
import OffloadCodec.Proofs.Sizes.Scanning
import OffloadCodec.Proofs.Defaults.Conversion
import OffloadCodec.Proofs.Sessions.Windows
import OffloadCodec.Proofs.Sessions.Vectors
import OffloadCodec.Proofs.Likeness.Buffers
import OffloadCodec.Proofs.Verbosity.Levels
import OffloadCodec.Proofs.Sizes.BlockSizes
import OffloadCodec.Proofs.Stream.Progress
import OffloadCodec.Proofs.Stream.ReadSteps
import OffloadCodec.Proofs.Stream.Cursors
