import BifrostCore.Concurrency.Pool
import BifrostCore.Interceptor.Http
import BifrostCore.Interceptor.Https
import BifrostCore.Plugin.BifrostServer
import BifrostCore.Plugin.NetStorage
import BifrostCore.Plugin.TrafficStats

/-!
# The proxy

`main.rs` and `PluginManager::init`: the three plugins in their registration order, and the tasks
of the running proxy. A `Job` is what a task is started for; `system` is the proxy as a system of
interleaved tasks, and a run of it is any number of jobs in any interleaving of their operations.
-/

namespace Bifrost

open Concurrency

/-- `PluginManager::init`: the registered plugins. -/
def registeredPlugins (X : Externals) : PluginManager StoreSig :=
  ((PluginManager.empty.registerPlugin (BifrostServerPlugin.plugin X)).registerPlugin
    TrafficStatsPlugin.plugin).registerPlugin (NetStorage.plugin X)

namespace ProxyServer

variable {π : Sig} (X : Externals) (pm : PluginManager π) (fuel : ℕ)

/-- `ProxyServer::handle_connect`, followed by what it spawns. -/
def handleConnect (req : Request) : Prog (TaskSig π) Response := do
  let (result, spawned) ← HttpsInterceptor.handleConnect X pm fuel req
  -- The answer to the client performs no operation, so it may as well come last.
  spawned
  match result with
  | .ok response => return response.getD (.build 500 [] .empty)
  | .error _ => return .build 500 [] .empty

/-- `proxy_handler`. -/
def proxyHandler (req : Request) : Prog (TaskSig π) Response :=
  match req.method with
  | .connect => handleConnect X pm fuel req
  | _ => HttpInterceptor.handleHttp X pm req

theorem proxyHandler_of_connect {req : Request} (h : req.method = .connect) :
    proxyHandler X pm fuel req = handleConnect X pm fuel req := by
  rw [proxyHandler, h]

theorem proxyHandler_of_ne_connect {req : Request} (h : req.method ≠ .connect) :
    proxyHandler X pm fuel req = HttpInterceptor.handleHttp X pm req := by
  unfold proxyHandler
  split
  · next hconnect => exact absurd hconnect h
  · rfl

end ProxyServer

/-- The sampler task of `TrafficStatsPlugin::new`, unrolled `fuel` times. -/
def samplerLoop {π : Sig} : ℕ → UInt64 → UInt64 → Prog (TaskSig π) Unit
  | 0, _, _ => Task.outOfFuel
  | fuel + 1, lastBytesIn, lastBytesOut => do
    let (bytesIn, bytesOut) ← Task.direct (TrafficStatsPlugin.sample lastBytesIn lastBytesOut)
    Task.sleep
    samplerLoop fuel bytesIn bytesOut

/-- What a task of the proxy is started for. -/
inductive Job where
  /-- A request on the listening port. The loop of its tunnel is unrolled `fuel` times. -/
  | proxied (req : Request) (fuel : ℕ)
  /-- A request inside a terminated TLS connection. -/
  | intercepted (req : Request)
  /-- The sampler of the statistics, unrolled `fuel` times. -/
  | sampler (fuel : ℕ)

namespace Job

/-- The job is a CONNECT request. -/
def isConnect : Job → Bool
  | .proxied req _ => req.method = .connect
  | _ => false

/-- The job is the sampler. -/
def isSampler : Job → Bool
  | .sampler _ => true
  | _ => false

/-- The program of a job. -/
def program (X : Externals) : Job → Prog (TaskSig StoreSig) (Option Response)
  | .proxied req fuel => do
    return some (← ProxyServer.proxyHandler X (registeredPlugins X) fuel req)
  | .intercepted req => do
    return some (← HttpInterceptor.handleHttp X (registeredPlugins X) req)
  | .sampler fuel => do
    samplerLoop fuel 0 0
    return none

end Job

/-- The proxy as a system of interleaved tasks. -/
def system (X : Externals) : System (TaskSig StoreSig) Globals Job (Option Response) Oracle where
  program := Job.program X
  perform := perform

/-- A task of the running proxy. -/
abbrev ProxyTask := Thread (TaskSig StoreSig) Job (Option Response)

/-- The running proxy. -/
abbrev ProxyPool := Pool (TaskSig StoreSig) Globals Job (Option Response)

/-- The proxy after a run, from the state `Store::init` leaves. -/
def runProxy (X : Externals) (config : Config) (now : UInt64) (moves : List (Move Job Oracle)) :
    ProxyPool :=
  (system X).run (.init (.fresh config now)) moves

/-! ## A concrete proxy

Values to run the model with. -/

namespace Concrete

/-- Foreign functions to run the proxy with. -/
def externals : Externals where
  parseUri := Externals.parseAbsolute
  toValue _ := .error "not serialized"
  canonicalReason status := if status = 200 then some "OK" else none
  megabytes _ := "0.00"
  overflowChecks := true

/-- A configuration. -/
def config : Config where
  port := 8080
  certPath := "cert.pem"
  keyPath := "key.pem"
  enableHttps := false
  enableH2 := false
  maxNetworkRecords := 10000

/-- `http://example.com/`. -/
def uri : Uri where
  rawScheme := some "http"
  rawAuthority := "example.com"
  rawPath := "/"
  query := none
  scheme_chars := by decide
  authority_of_scheme := by decide
  authority_chars := by decide
  path_shape := by decide

/-- `http://authority/`. -/
def httpUri (authority : Str) (h : authority ≠ [] ∧ authority.all (! isDelimiter ·)) : Uri where
  rawScheme := some "http"
  rawAuthority := authority
  rawPath := "/"
  query := none
  scheme_chars := by decide
  authority_of_scheme := fun _ => h.1
  authority_chars := h.2
  path_shape := by decide

/-- `/`. -/
def originUri : Uri where
  rawScheme := none
  rawAuthority := []
  rawPath := "/"
  query := none
  scheme_chars := by decide
  authority_of_scheme := by decide
  authority_chars := by decide
  path_shape := by decide

/-- `GET http://example.com/`. -/
def request : Request where
  method := .get
  version := .http11
  uri
  headers := [(.host, HeaderValue.ofStr "example.com")]
  remoteAddr := none

/-- An environment in which everything succeeds. -/
def oracle (outcome : SelectOutcome) : Oracle where
  now := 0
  storeClock := 0
  lookupHost := .ok []
  clientRequest := .ok (.build 200 [] .incoming)
  connectAsync := .ok (.build 101 [] .empty)
  readFile := .ok []
  issueCertificate := .error "no certificate"
  tlsAcceptor := .ok ()
  tcpConnect := .ok ()
  upgrade := .ok ()
  select := outcome
  writeAll := .ok

/-- The state of the proxy when it starts. -/
def started : Globals := .init (.fresh config 0)

/-- A state in which a record carries the id that is drawn next, as it does once the counter has
wrapped around. -/
def wrapped : Globals :=
  .init { Store.fresh config 0 with networkRecords := [NetStorage.newRecord 0 request 0] }

/-- `handle_http` on the request, with the registered plugins. -/
def handled : Prog (TaskSig StoreSig) Response :=
  HttpInterceptor.handleHttp externals (registeredPlugins externals) request

/-- `CONNECT example.com:443`. -/
def connectRequest : Request where
  method := .connect
  version := .http11
  uri :=
    { rawScheme := none
      rawAuthority := "example.com:443"
      rawPath := []
      query := none
      scheme_chars := by decide
      authority_of_scheme := by decide
      authority_chars := by decide
      path_shape := by decide }
  headers := []
  remoteAddr := none

/-- A client that sends one byte. -/
def oneByte : SelectOutcome := .clientRead (.ok ⟨[1], by decide⟩)

/-- The proxy after one task was started and took one step for each outcome, which is what a
`select!` at that step gives. -/
def run (job : Job) (outcomes : List SelectOutcome) : ProxyPool :=
  runProxy externals config 0 (.spawn job :: outcomes.map fun outcome => .step 0 (oracle outcome))

/-- The proxy after a tunnel was opened, its client sent one byte, and it timed out. -/
def tunnelRun (steps : ℕ) : ProxyPool :=
  run (.proxied connectRequest 2)
    ((.replicate 7 .timeout ++ oneByte :: .replicate 6 .timeout : List SelectOutcome).take steps)

/-- The proxy after two requests ran one after the other. -/
def twoRequests (maxNetworkRecords : ℕ) : ProxyPool :=
  runProxy externals { config with maxNetworkRecords } 0
    ([.spawn (.intercepted request), .spawn (.intercepted request)] ++
      .replicate 13 (.step 0 (oracle .timeout)) ++ .replicate 13 (.step 1 (oracle .timeout)))

end Concrete

end Bifrost
