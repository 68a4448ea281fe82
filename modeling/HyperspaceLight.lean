import HyperspaceLight.Interaction.Interleaving
import HyperspaceLight.Primitives.Undelivered
import HyperspaceLight.Core.ReadyPackets
import HyperspaceLight.Core.TimeoutBound
import HyperspaceLight.Core.AckPaths
import HyperspaceLight.Core.Relay
import HyperspaceLight.Cosmos.Chain
import HyperspaceLight.Cosmos.ScannedClient
import HyperspaceLight.Cosmos.DelayedProofs
import HyperspaceLight.Relay.Steps
import HyperspaceLight.Relay.Translation
import HyperspaceLight.Relay.Flush
import HyperspaceLight.Relay.Cleared
import HyperspaceLight.Relay.Delivery
import HyperspaceLight.Cosmos.BlockEvents
import HyperspaceLight.Core.ImmediatePackets
import HyperspaceLight.Handshake.Channel
import HyperspaceLight.Handshake.StalledChannels
import HyperspaceLight.Handshake.Closing
import HyperspaceLight.Relay.AtMostOnce
import HyperspaceLight.Relay.Coverage
import HyperspaceLight.Relay.Delayed
import HyperspaceLight.Relay.ProofHeights
import HyperspaceLight.Cosmos.PacketEvents
import HyperspaceLight.Primitives.HeightSearch
import HyperspaceLight.Core.TimeoutSearch
import HyperspaceLight.Core.OneFate
import HyperspaceLight.Core.Batches
import HyperspaceLight.Core.Readiness
import HyperspaceLight.Core.AwaitedHeight
import HyperspaceLight.Core.EventAborts
import HyperspaceLight.Core.PacketAborts
import HyperspaceLight.Cosmos.DecodeAborts
import HyperspaceLight.Cosmos.EventStream
import HyperspaceLight.Relay.MandatoryUpdate
import HyperspaceLight.Relay.StaleHeader
import HyperspaceLight.Cosmos.Paging
import HyperspaceLight.Core.TimeoutCoverage
import HyperspaceLight.Cosmos.PacketDecoders
import HyperspaceLight.Relay.WireFlush
import HyperspaceLight.Cosmos.EventFields
import HyperspaceLight.Cosmos.StreamScan
import HyperspaceLight.Cosmos.Polling
import HyperspaceLight.Core.ClosedSink
import HyperspaceLight.Relay.Solicited
import HyperspaceLight.Primitives.SearchCost
import HyperspaceLight.Cosmos.PendingPackets
import HyperspaceLight.Core.StoreKeys
import HyperspaceLight.Core.EventBatches
import HyperspaceLight.Testsuite.Create
import HyperspaceLight.Testsuite.Setup
