import Mathlib.Logic.Function.Basic
import BifrostCore.Concurrency.Protocol
import BifrostCore.Plugin.Basic

/-!
# Tasks

What a task of the proxy does besides computing: it runs plugin callbacks, draws request ids, uses
the DNS and certificate caches, and waits for the network. `TaskSig π` is the signature of these
operations for plugins over `π`; an operation performed by plugin code is tagged with the callback
it is performed in. `perform` is their effect on the state the tasks share, in which everything
the environment decides is read from an `Oracle`.

Two operations never come back: `panic`, an `unwrap` that failed, and `outOfFuel`, which stands at
the end of the unrolling of a loop that was not observed any further.
-/

namespace Bifrost

open Concurrency

/-- A `SocketAddr`. -/
structure SocketAddr where
  ip : Str
  port : UInt16
  deriving DecidableEq, Repr

/-- The two ends of a tunnel. -/
inductive Side where
  | client | target
  deriving DecidableEq, Repr

namespace Side

/-- Where the data read from a side is written. -/
def other : Side → Side
  | .client => .target
  | .target => .client

/-- The direction of the data read from a side. -/
def direction : Side → DataDirection
  | .client => .upstream
  | .target => .downstream

end Side

/-- What one `read` puts into a 32 KB buffer. The empty chunk is `Ok(0)`, the end of the stream. -/
structure Chunk where
  /-- The bytes read. -/
  bytes : List UInt8
  /-- They fit into the buffer. -/
  fits : bytes.length ≤ 32 * 1024
  deriving DecidableEq, Repr

/-- The branch a `select!` of a tunnel takes, with the result of its read. -/
inductive SelectOutcome where
  | clientRead (result : Result Chunk)
  | targetRead (result : Result Chunk)
  | timeout

/-- The result of a `write_all`. A failed one has written a prefix of its data. -/
inductive WriteResult where
  | ok
  | err (written : ℕ) (e : Str)

/-- A failed `client.request`, with the time it took as the answer shows it. -/
structure UpstreamError where
  message : Str
  elapsed : Str

/-- What is put into an issued certificate. -/
structure Certificate where
  commonName : Str
  subjectAltName : Str
  notBefore : SystemTime
  notAfter : SystemTime
  deriving DecidableEq, Repr

/-- `CachedCert`, without the private key. -/
structure CachedCert where
  cert : Certificate
  expiry : SystemTime
  deriving DecidableEq, Repr

/-! ## The signature -/

/-- The operations of a task. -/
inductive TaskOp (π : Sig) where
  /-- An operation of a plugin, inside a callback. -/
  | callback (cb : Callback) (o : π.Op)
  /-- An operation on the store outside any callback. -/
  | store (o : StoreOp)
  /-- `REQUEST_ID_COUNTER.fetch_add(1)`. -/
  | nextRequestId
  /-- `SystemTime::now()`. -/
  | now
  | dnsCacheGet (host : Str)
  | dnsCacheInsert (host : Str) (addrs : List SocketAddr) (timestamp : UInt64)
  | certCacheGet (domain : Str)
  | certCacheInsert (domain : Str) (cert : CachedCert)
  /-- `tokio::net::lookup_host`. -/
  | lookupHost (name : Str) (port : UInt16)
  /-- `client.request(req)`. -/
  | clientRequest (req : Request)
  /-- `tokio_tungstenite::connect_async(req)`. -/
  | connectAsync (req : Request)
  | readFile (path : Str)
  /-- The calls to `openssl` that build and sign a certificate valid for some days. -/
  | issueCertificate (certPem keyPem : List UInt8) (commonName subjectAltName : Str) (days : ℕ)
  /-- `ServerConfig::builder().with_single_cert(..)`. -/
  | tlsAcceptor (cert : CachedCert)
  /-- `TcpStream::connect`. -/
  | tcpConnect (addr : Str)
  /-- `hyper::upgrade::on`. -/
  | upgrade
  /-- The `select!` of a tunnel. -/
  | select
  /-- `write_all` towards one end of a tunnel. -/
  | writeAll (side : Side) (data : List UInt8)
  /-- `tokio::time::sleep`. -/
  | sleep
  /-- An `unwrap` that failed. -/
  | panic
  /-- A loop that is not observed any further. -/
  | outOfFuel

/-- The answer of an operation. -/
@[reducible]
def TaskOp.Res {π : Sig} : TaskOp π → Type
  | .callback _ o => π.Res o
  | .store o => o.Res
  | .nextRequestId => UInt64
  | .now => SystemTime
  | .dnsCacheGet _ => Option (List SocketAddr × UInt64)
  | .dnsCacheInsert _ _ _ => Unit
  | .certCacheGet _ => Option CachedCert
  | .certCacheInsert _ _ => Unit
  | .lookupHost _ _ => Result (List SocketAddr)
  | .clientRequest _ => Except UpstreamError Response
  | .connectAsync _ => Result Response
  | .readFile _ => Result (List UInt8)
  | .issueCertificate _ _ _ _ _ => Result Certificate
  | .tlsAcceptor _ => Result Unit
  | .tcpConnect _ => Result Unit
  | .upgrade => Result Unit
  | .select => SelectOutcome
  | .writeAll _ _ => WriteResult
  | .sleep => Unit
  | .panic => Empty
  | .outOfFuel => Empty

/-- The signature of the operations of a task, for plugins over `π`. -/
@[reducible]
def TaskSig (π : Sig) : Sig := ⟨TaskOp π, TaskOp.Res⟩

namespace Task

variable {π : Sig} {α : Type}

/-- Run plugin code inside a callback. -/
def callback (cb : Callback) (p : Prog π α) : Prog (TaskSig π) α :=
  p.embed (T := TaskSig π) (TaskOp.callback cb) fun _ r => r

/-- Plugin code performs operations of its callback only. -/
theorem callback_only (cb : Callback) (p : Prog π α) :
    (callback cb p).Only (fun o : TaskOp π => ∃ o', o = .callback cb o') fun _ => True :=
  p.only_true.embed _ _ fun o _ => ⟨o, rfl⟩

/-- Run code that uses the store outside any callback. -/
def direct (p : Prog StoreSig α) : Prog (TaskSig π) α :=
  p.embed (T := TaskSig π) TaskOp.store fun _ r => r

/-- `Option::unwrap`. -/
def unwrap : Option α → Prog (TaskSig π) α
  | some a => .ret a
  | none => .act (S := TaskSig π) TaskOp.panic fun r => nomatch r

/-- The end of the unrolling of a loop. -/
def outOfFuel : Prog (TaskSig π) α :=
  .act (S := TaskSig π) TaskOp.outOfFuel fun r => nomatch r

section Operations

abbrev getConfig : Prog (TaskSig π) Config :=
  .call (S := TaskSig π) (TaskOp.store .getConfig)

abbrev nextRequestId : Prog (TaskSig π) UInt64 := .call (S := TaskSig π) TaskOp.nextRequestId

abbrev now : Prog (TaskSig π) SystemTime := .call (S := TaskSig π) TaskOp.now

abbrev dnsCacheGet (host : Str) : Prog (TaskSig π) (Option (List SocketAddr × UInt64)) :=
  .call (S := TaskSig π) (TaskOp.dnsCacheGet host)

abbrev dnsCacheInsert (host : Str) (addrs : List SocketAddr) (timestamp : UInt64) :
    Prog (TaskSig π) Unit :=
  .call (S := TaskSig π) (TaskOp.dnsCacheInsert host addrs timestamp)

abbrev certCacheGet (domain : Str) : Prog (TaskSig π) (Option CachedCert) :=
  .call (S := TaskSig π) (TaskOp.certCacheGet domain)

abbrev certCacheInsert (domain : Str) (cert : CachedCert) : Prog (TaskSig π) Unit :=
  .call (S := TaskSig π) (TaskOp.certCacheInsert domain cert)

abbrev lookupHost (name : Str) (port : UInt16) : Prog (TaskSig π) (Result (List SocketAddr)) :=
  .call (S := TaskSig π) (TaskOp.lookupHost name port)

abbrev clientRequest (req : Request) : Prog (TaskSig π) (Except UpstreamError Response) :=
  .call (S := TaskSig π) (TaskOp.clientRequest req)

abbrev connectAsync (req : Request) : Prog (TaskSig π) (Result Response) :=
  .call (S := TaskSig π) (TaskOp.connectAsync req)

abbrev readFile (path : Str) : Prog (TaskSig π) (Result (List UInt8)) :=
  .call (S := TaskSig π) (TaskOp.readFile path)

abbrev issueCertificate (certPem keyPem : List UInt8) (commonName subjectAltName : Str)
    (days : ℕ) : Prog (TaskSig π) (Result Certificate) :=
  .call (S := TaskSig π) (TaskOp.issueCertificate certPem keyPem commonName subjectAltName days)

abbrev tlsAcceptor (cert : CachedCert) : Prog (TaskSig π) (Result Unit) :=
  .call (S := TaskSig π) (TaskOp.tlsAcceptor cert)

abbrev tcpConnect (addr : Str) : Prog (TaskSig π) (Result Unit) :=
  .call (S := TaskSig π) (TaskOp.tcpConnect addr)

abbrev upgrade : Prog (TaskSig π) (Result Unit) := .call (S := TaskSig π) TaskOp.upgrade

abbrev select : Prog (TaskSig π) SelectOutcome := .call (S := TaskSig π) TaskOp.select

abbrev writeAll (side : Side) (data : List UInt8) : Prog (TaskSig π) WriteResult :=
  .call (S := TaskSig π) (TaskOp.writeAll side data)

abbrev sleep : Prog (TaskSig π) Unit := .call (S := TaskSig π) TaskOp.sleep

end Operations

end Task

/-! ## The shared state -/

/-- The state all tasks share. -/
structure Globals where
  /-- `GLOBAL_CONTEXT`. -/
  store : Store
  /-- `REQUEST_ID_COUNTER`. -/
  requestIdCounter : UInt64
  /-- `DNS_CACHE`: addresses and time stamp by host. -/
  dnsCache : Str → Option (List SocketAddr × UInt64)
  /-- `HttpsInterceptor::cert_cache`. -/
  certCache : Str → Option CachedCert

namespace Globals

/-- The state when the proxy starts. -/
def init (store : Store) : Globals where
  store
  requestIdCounter := 0
  dnsCache _ := none
  certCache _ := none

end Globals

/-- What the environment answers at one step: one field for every kind of operation it decides. -/
structure Oracle where
  /-- The clock, as a task reads it. -/
  now : SystemTime
  /-- The clock, as plugin code reads it. -/
  storeClock : SystemTime
  lookupHost : Result (List SocketAddr)
  clientRequest : Except UpstreamError Response
  connectAsync : Result Response
  readFile : Result (List UInt8)
  issueCertificate : Result Certificate
  tlsAcceptor : Result Unit
  tcpConnect : Result Unit
  upgrade : Result Unit
  select : SelectOutcome
  writeAll : WriteResult

/-- The effect of an operation of a task on the shared state. -/
def perform (ω : Oracle) (o : TaskOp StoreSig) (g : Globals) : Option (o.Res × Globals) :=
  match o with
  | .callback _ o =>
    let x := g.store.perform ω.storeClock o
    some (x.1, { g with store := x.2 })
  | .store o =>
    let x := g.store.perform ω.storeClock o
    some (x.1, { g with store := x.2 })
  | .nextRequestId =>
    some (g.requestIdCounter, { g with requestIdCounter := g.requestIdCounter + 1 })
  | .now => some (ω.now, g)
  | .dnsCacheGet host => some (g.dnsCache host, g)
  | .dnsCacheInsert host addrs timestamp =>
    some ((), { g with dnsCache := Function.update g.dnsCache host (some (addrs, timestamp)) })
  | .certCacheGet domain => some (g.certCache domain, g)
  | .certCacheInsert domain cert =>
    some ((), { g with certCache := Function.update g.certCache domain (some cert) })
  | .lookupHost _ _ => some (ω.lookupHost, g)
  | .clientRequest _ => some (ω.clientRequest, g)
  | .connectAsync _ => some (ω.connectAsync, g)
  | .readFile _ => some (ω.readFile, g)
  | .issueCertificate _ _ _ _ _ => some (ω.issueCertificate, g)
  | .tlsAcceptor _ => some (ω.tlsAcceptor, g)
  | .tcpConnect _ => some (ω.tcpConnect, g)
  | .upgrade => some (ω.upgrade, g)
  | .select => some (ω.select, g)
  | .writeAll _ _ => some (ω.writeAll, g)
  | .sleep => some ((), g)
  -- The two operations without an answer.
  | .panic => none
  | .outOfFuel => none

/-- The operation on the store an operation of a task performs, if it does. -/
def TaskOp.storeOp : TaskOp StoreSig → Option StoreOp
  | .callback _ o | .store o => some o
  | _ => none

/-- What an operation has read from the clock. -/
def clockReading : (o : TaskOp StoreSig) → o.Res → Option SystemTime
  | .now, time => some time
  | _, _ => none

section Perform

variable {ω : Oracle} {o : TaskOp StoreSig} {r : o.Res} {g g' : Globals}

/-- The store after an operation. -/
theorem store_perform (h : perform ω o g = some (r, g')) :
    g'.store = o.storeOp.elim g.store fun o' => (g.store.perform ω.storeClock o').2 := by
  cases o <;> cases h <;> rfl

/-- The request id counter after an operation: only a draw moves it. -/
theorem requestIdCounter_perform (h : perform ω o g = some (r, g')) :
    g'.requestIdCounter =
      if o matches .nextRequestId then g.requestIdCounter + 1 else g.requestIdCounter := by
  cases o <;> cases h <;> rfl

end Perform

end Bifrost
