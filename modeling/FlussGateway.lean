import FlussGateway.Backend.LookupKey
import FlussGateway.Backend.PartitionErrors
import FlussGateway.Backend.ScanResult
import FlussGateway.Config.FailClosed
import FlussGateway.Lifecycle.Refinement
import FlussGateway.Resilience.ConcurrentRetries
import FlussGateway.Resilience.Random
import FlussGateway.Resilience.RetryAccounting
import FlussGateway.Resilience.RetryReturns
import FlussGateway.Resilience.Timeout
import FlussGateway.Rest.BodyLimit
import FlussGateway.Rest.ChangeTypes
import FlussGateway.Rest.ConcurrentReads
import FlussGateway.Rest.Dispatch
import FlussGateway.Rest.Health
import FlussGateway.Rest.Identity
import FlussGateway.Rest.Metrics
import FlussGateway.Rest.WriteKeys
