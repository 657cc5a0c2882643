import SpoeForge.Library.Fallible
import SpoeForge.Library.OffsetReader
import SpoeForge.Library.Dict
import SpoeForge.Library.Runs
import SpoeForge.Library.Grammar
import SpoeForge.Library.Pieces
import SpoeForge.Library.Pool
import SpoeForge.Python
import SpoeForge.Constants
import SpoeForge.SpopTypes
import SpoeForge.Encoders.DataTypes
import SpoeForge.Encoders.Payloads
import SpoeForge.Decoders.DataTypes
import SpoeForge.Decoders.Payloads
import SpoeForge.Frame
import SpoeForge.Configuration
import SpoeForge.Handler
import SpoeForge.Connection
import SpoeForge.Registry
import SpoeForge.Cli
import SpoeForge.Indexing
import SpoeForge.Wire.Varint
import SpoeForge.Wire.TypedData
import SpoeForge.Wire.Payloads
import SpoeForge.Wire.Grammar
import SpoeForge.Wire.SelfDelimiting
import SpoeForge.Wire.VarintForms
import SpoeForge.Wire.TypedRoundTrip
import SpoeForge.Wire.SpopLists
import SpoeForge.Wire.Frames
import SpoeForge.Wire.FrameStream
import SpoeForge.Wire.EndOfStream
import SpoeForge.Wire.DecodeErrors
import SpoeForge.Wire.Bodies
import SpoeForge.Wire.NormalForm
import SpoeForge.Wire.Consumption
import SpoeForge.Wire.Identifiers
import SpoeForge.Library.FirstFit
import SpoeForge.Server.Salvage
import SpoeForge.Server.Steps
import SpoeForge.Server.Coherence
import SpoeForge.Server.History
import SpoeForge.Server.Negotiation
import SpoeForge.Server.Renegotiation
import SpoeForge.Server.Slots
import SpoeForge.Server.AckAccounting
import SpoeForge.Server.Gate
import SpoeForge.Server.Containment
import SpoeForge.Server.SalvageSpec
import SpoeForge.Server.FrameOrder
import SpoeForge.Server.SendErrors
import SpoeForge.Server.DisconnectSize
import SpoeForge.Server.Teardown
import SpoeForge.Server.SerialLoop
import SpoeForge.Server.SerialSteps
import SpoeForge.Server.SerialRefinement
import SpoeForge.Server.Termination
import SpoeForge.Server.Traffic
import SpoeForge.Server.Shutdown
import SpoeForge.Agent.Dispatch
import SpoeForge.Agent.Service
import SpoeForge.Agent.Healthcheck
import SpoeForge.Agent.HealthcheckLoop
import SpoeForge.Server.Arrival
import SpoeForge.Server.ArrivalRefinement
import SpoeForge.Agent.ServiceOnWire
