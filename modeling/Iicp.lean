import Iicp.Client.Candidates
import Iicp.Client.NodeIds
import Iicp.Client.TrustedRoutes
import Iicp.Directory.Invalidation
import Iicp.Dispatch.Admission
import Iicp.Dispatch.TicketTrust
import Iicp.Dispatch.TrustStoreRuns
import Iicp.Http.Pinning
import Iicp.Lifecycle.BackendCancellation
import Iicp.Lifecycle.Cancel
import Iicp.Lifecycle.Equivalence
import Iicp.Lifecycle.ObserverBuffer
import Iicp.Lifecycle.Reads
import Iicp.Lifecycle.Replay
import Iicp.Mcp.Gateway
import Iicp.Native.CallIdentity
import Iicp.Native.Connection
import Iicp.Native.JsonTransport
import Iicp.Node.Binding
import Iicp.Node.HmacKey
import Iicp.Node.Log
import Iicp.Node.MetricBatches
import Iicp.Node.Receipts
import Iicp.Node.Refusals
import Iicp.Node.Semaphore
import Iicp.Node.Tokens
import Iicp.Peer.Hearsay
import Iicp.Peer.Replay
import Iicp.Proxy.Prompts
import Iicp.Relay.Calls
import Iicp.Relay.Capacity
import Iicp.Relay.Frames
