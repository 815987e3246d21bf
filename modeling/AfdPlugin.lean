import AfdPlugin.AsyncCam.Startup
import AfdPlugin.AsyncCam.StartupProtocol
import AfdPlugin.AsyncCam.Warmup
import AfdPlugin.Cam.Admission
import AfdPlugin.Cam.Announcements
import AfdPlugin.Cam.AttnSteps
import AfdPlugin.Cam.CallProgress
import AfdPlugin.Cam.Chunks
import AfdPlugin.Cam.CombineRecv
import AfdPlugin.Cam.CombineSend
import AfdPlugin.Cam.CombinedValues
import AfdPlugin.Cam.Counters
import AfdPlugin.Cam.Delivery
import AfdPlugin.Cam.DispatchRecv
import AfdPlugin.Cam.DispatchSend
import AfdPlugin.Cam.Dispatched
import AfdPlugin.Cam.Dispatches
import AfdPlugin.Cam.ExpertSums
import AfdPlugin.Cam.HandoffInvariant
import AfdPlugin.Cam.Interleavings
import AfdPlugin.Cam.Layout
import AfdPlugin.Cam.LayoutRoundTrip
import AfdPlugin.Cam.Machine
import AfdPlugin.Cam.MoeBarriers
import AfdPlugin.Cam.MoeRound
import AfdPlugin.Cam.MoeSearch
import AfdPlugin.Cam.MoeServe
import AfdPlugin.Cam.Promises
import AfdPlugin.Cam.ReceiveValues
import AfdPlugin.Cam.ReceiveWindow
import AfdPlugin.Cam.ReceivedChunks
import AfdPlugin.Cam.ReturnValues
import AfdPlugin.Cam.RoundProgress
import AfdPlugin.Cam.RoundTrip
import AfdPlugin.Cam.Routing
import AfdPlugin.Cam.SearchProgress
import AfdPlugin.Cam.SendStats
import AfdPlugin.Cam.SendValues
import AfdPlugin.Cam.SharedStats
import AfdPlugin.Cam.Tiling
import AfdPlugin.Cam.WindowFits
import AfdPlugin.Cam.WindowLayout
import AfdPlugin.Cam.WindowProtocol
import AfdPlugin.Cam.WindowSafety
import AfdPlugin.Compat.Mrv2Dispatch
import AfdPlugin.Compat.Mrv2Ubatching
import AfdPlugin.Compat.NpuFeatureValidation
import AfdPlugin.Compat.PeerFailure
import AfdPlugin.Compat.Turns
import AfdPlugin.Config
import AfdPlugin.Connectors.AsyncCam
import AfdPlugin.Connectors.Camp2p
import AfdPlugin.Connectors.Camp2pCounts
import AfdPlugin.Connectors.Camp2pEndpoints
import AfdPlugin.Connectors.Camp2pRoundTrip
import AfdPlugin.Connectors.Camp2pTransfer
import AfdPlugin.Connectors.Codec
import AfdPlugin.Connectors.ControlClose
import AfdPlugin.Connectors.ControlFrames
import AfdPlugin.Connectors.ControlPlane
import AfdPlugin.Connectors.DeepepM2n.Agreement
import AfdPlugin.Connectors.DeepepM2n.Capacity
import AfdPlugin.Connectors.DeepepM2n.Experts
import AfdPlugin.Connectors.DeepepM2n.Handshake
import AfdPlugin.Connectors.DeepepM2n.LaneOrder
import AfdPlugin.Connectors.DeepepM2n.LaneRuns
import AfdPlugin.Connectors.DeepepM2n.LaneStreams
import AfdPlugin.Connectors.DeepepM2n.ModelCheck
import AfdPlugin.Connectors.DeepepM2n.Network
import AfdPlugin.Connectors.DeepepM2n.PendingCombines
import AfdPlugin.Connectors.DeepepM2n.Plan
import AfdPlugin.Connectors.Metadata
import AfdPlugin.Connectors.P2p
import AfdPlugin.Connectors.P2pBuffers
import AfdPlugin.Connectors.P2pRows
import AfdPlugin.Connectors.P2pTransfer
import AfdPlugin.Distributed.Topology
import AfdPlugin.Kernels.A2e
import AfdPlugin.Kernels.Bounds
import AfdPlugin.Kernels.CoreOps
import AfdPlugin.Kernels.DataCopy
import AfdPlugin.Kernels.E2a
import AfdPlugin.Kernels.RankAgreement
import AfdPlugin.Kernels.WindowPlaces
import AfdPlugin.Kernels.WindowRounds
import AfdPlugin.Kernels.WindowSafety
import AfdPlugin.Kernels.WorkSplit
import AfdPlugin.Lib.Blocks
import AfdPlugin.Lib.Channels
import AfdPlugin.Lib.Collectives
import AfdPlugin.Lib.CyclicWalk
import AfdPlugin.Lib.Dict
import AfdPlugin.Lib.DottedPath
import AfdPlugin.Lib.Ends
import AfdPlugin.Lib.Fallible
import AfdPlugin.Lib.Gather
import AfdPlugin.Lib.GraphCache
import AfdPlugin.Lib.Grid
import AfdPlugin.Lib.Json
import AfdPlugin.Lib.JsonText
import AfdPlugin.Lib.Launches
import AfdPlugin.Lib.Loops
import AfdPlugin.Lib.Placement
import AfdPlugin.Lib.Regions
import AfdPlugin.Lib.Rendezvous
import AfdPlugin.Lib.Ring
import AfdPlugin.Lib.Rungs
import AfdPlugin.Lib.Runs
import AfdPlugin.Lib.Scopes
import AfdPlugin.Lib.SharedPhase
import AfdPlugin.Lib.StreamOrder
import AfdPlugin.Lib.Streams
import AfdPlugin.Lib.Strided
import AfdPlugin.Lib.WriteQueues
import AfdPlugin.Models.AsyncCamDbo
import AfdPlugin.Models.AsyncCamHandoff
import AfdPlugin.Models.LayeredExecutor
import AfdPlugin.Models.Qwen3RoleWeights
import AfdPlugin.Models.RemoteFfn
import AfdPlugin.Models.RoleWeights
import AfdPlugin.Models.RoutedMoe
import AfdPlugin.Models.RoutingSimulator
import AfdPlugin.Models.SharedExperts
import AfdPlugin.Worker.AsyncFfnTwoStream
import AfdPlugin.Worker.AttentionMetadata
import AfdPlugin.Worker.AttentionScopes
import AfdPlugin.Worker.Camp2pPadding
import AfdPlugin.Worker.CudaGraph
import AfdPlugin.Worker.FfnMetadata
import AfdPlugin.Worker.FfnModelRunner
import AfdPlugin.Worker.FfnWorker
import AfdPlugin.Worker.MlaGraph
import AfdPlugin.Worker.ModelTransactions
import AfdPlugin.Worker.NpuFfnCounts
import AfdPlugin.Worker.NpuFfnModelRunner
import AfdPlugin.Worker.RoutedFfn
import AfdPlugin.Worker.TwoStreamHost
import AfdPlugin.Worker.TwoStreamInvariant
import AfdPlugin.Worker.TwoStreamSafety
import AfdPlugin.Worker.UbatchMetadata
import AfdPlugin.Worker.WireAgreement
