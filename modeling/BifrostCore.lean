import BifrostCore.Proxy
import BifrostCore.Correctness.RecordLog
import BifrostCore.Correctness.Ledger
import BifrostCore.Correctness.Conformance
import BifrostCore.Correctness.Accounts
import BifrostCore.Correctness.Observation
import BifrostCore.Correctness.Records
import BifrostCore.Correctness.Tunnels
import BifrostCore.Correctness.Requests
import BifrostCore.Correctness.Relay
import BifrostCore.Correctness.Lifecycle
import BifrostCore.Correctness.Answers
import BifrostCore.Correctness.Targets
import BifrostCore.Concurrency.Coupling
import BifrostCore.Callbacks
import BifrostCore.Correctness.Payload
import BifrostCore.Concurrency.MainTask
import BifrostCore.Correctness.Sampling
import BifrostCore.Concurrency.SharedMap
import BifrostCore.Correctness.DnsCache
import BifrostCore.Correctness.CertCache
import BifrostCore.Concurrency.Race
import BifrostCore.Interceptor.WebsocketRelay
import BifrostCore.Correctness.WebsocketRelay
import BifrostCore.Correctness.SelfTraffic
import BifrostCore.Correctness.UpgradeTarget
import BifrostCore.Text.Tokens
import BifrostCore.Correctness.Handshake
import BifrostCore.Correctness.UpgradeDetection
import BifrostCore.Correctness.RecordLife
import BifrostCore.Correctness.Bodies
import BifrostCore.Correctness.RecordStates
import BifrostCore.Correctness.HeadSizes
import BifrostCore.Correctness.ErrorBudget
import BifrostCore.Correctness.OrderlyClose
import BifrostCore.Correctness.Authorities
import BifrostCore.Correctness.Exchange
import BifrostCore.Correctness.Outcomes
import BifrostCore.Correctness.RecordContents
import BifrostCore.Correctness.Reports
import BifrostCore.Correctness.Connection
import BifrostCore.Main
import BifrostCore.Correctness.Startup
import BifrostCore.Concurrency.RwLock
import BifrostCore.LockedStore
import BifrostCore.Correctness.StoreLocks
import BifrostCore.Correctness.StoreSections
import BifrostCore.Correctness.StoreAtomicity
import BifrostCore.Correctness.TrafficReports
import BifrostCore.Correctness.Custody
import BifrostCore.Correctness.Panics
