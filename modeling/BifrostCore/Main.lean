import BifrostCore.Proxy

/-!
# The process

`main.rs`, from the arguments to the tasks. `main` checks the files of the root certificate, sets
the two global cells, and then accepts connections; hyper starts a task for every request it reads
on one of them. A `Process` is the program `main` has left next to the tasks it has brought about.

* `main` — the start-up and the accept loop, over the operations `MainOp`.
* `Process` — the global cells, the tasks and the connections, next to `main`.
* `runProcess` — the process after any moves of `main`, of hyper and of the tasks.
-/

namespace Bifrost

open Concurrency

/-! ## The arguments -/

/-- `Args`, with the defaults of the command line. -/
structure Args where
  port : UInt16 := 8080
  enableHttps : Bool := false
  enableH2 : Bool := false
  maxNetworkRecords : ℕ := 1000
  deriving DecidableEq, Repr

/-- `cert_path` of `main`. -/
def rootCertPath : Str := "files/root.crt".toList

/-- `key_path` of `main`. -/
def rootKeyPath : Str := "files/root.key".toList

/-- The configuration `main` initializes the store with. -/
def Args.config (args : Args) : Config where
  port := args.port
  certPath := rootCertPath
  keyPath := rootKeyPath
  enableHttps := args.enableHttps
  enableH2 := args.enableH2
  maxNetworkRecords := args.maxNetworkRecords

/-! ## The program -/

/-- The operations of `main`. -/
inductive MainOp where
  /-- `Path::exists`. -/
  | pathExists (path : Str)
  /-- `std::process::exit`. -/
  | exit (code : ℕ)
  /-- `SystemTime::now()`. -/
  | now
  /-- `GLOBAL_CONTEXT.set`, which leaves a cell alone that is set. -/
  | setContext (store : Store)
  /-- `fs::read`. -/
  | readFile (path : Str)
  /-- `tokio::spawn` of the sampler, unrolled `fuel` times, by `TrafficStatsPlugin::new`. -/
  | spawnSampler (fuel : ℕ)
  /-- `PLUGIN_MANAGER.set`. -/
  | setPluginManager
  /-- `TcpListener::bind` to a port of all addresses. -/
  | bind (port : UInt16)
  /-- `listener.accept()`. -/
  | accept
  /-- `tokio::task::spawn` of the connection that was accepted. -/
  | spawnConnection
  /-- An `unwrap` or an `expect` that failed. -/
  | panic
  /-- The accept loop is not observed any further. -/
  | outOfFuel

/-- The answer of an operation of `main`. -/
@[reducible]
def MainOp.Res : MainOp → Type
  | .pathExists _ => Bool
  | .exit _ => Empty
  | .now => SystemTime
  | .setContext _ => Unit
  | .readFile _ => Result (List UInt8)
  | .spawnSampler _ => Unit
  | .setPluginManager => Unit
  | .bind _ => Result Unit
  | .accept => Result Unit
  | .spawnConnection => Unit
  | .panic => Empty
  | .outOfFuel => Empty

/-- The signature of the operations of `main`. -/
@[reducible]
def MainSig : Sig := ⟨MainOp, MainOp.Res⟩

namespace Main

variable {α : Type}

/-- An operation that ends the process. -/
def exit (code : ℕ) : Prog MainSig α := .act (S := MainSig) (.exit code) fun r => nomatch r

/-- `Option::unwrap`. -/
def unwrap : Option α → Prog MainSig α
  | some a => .ret a
  | none => .act (S := MainSig) .panic fun r => nomatch r

/-- `Result::unwrap` and `Result::expect`. -/
def expect : Result α → Prog MainSig α
  | .ok a => .ret a
  | .error _ => .act (S := MainSig) .panic fun r => nomatch r

section Operations

abbrev pathExists (path : Str) : Prog MainSig Bool := .call (S := MainSig) (.pathExists path)

abbrev now : Prog MainSig SystemTime := .call (S := MainSig) .now

abbrev setContext (store : Store) : Prog MainSig Unit := .call (S := MainSig) (.setContext store)

abbrev readFile (path : Str) : Prog MainSig (Result (List UInt8)) :=
  .call (S := MainSig) (.readFile path)

abbrev spawnSampler (fuel : ℕ) : Prog MainSig Unit := .call (S := MainSig) (.spawnSampler fuel)

abbrev setPluginManager : Prog MainSig Unit := .call (S := MainSig) .setPluginManager

abbrev bind (port : UInt16) : Prog MainSig (Result Unit) := .call (S := MainSig) (.bind port)

abbrev accept : Prog MainSig (Result Unit) := .call (S := MainSig) .accept

abbrev spawnConnection : Prog MainSig Unit := .call (S := MainSig) .spawnConnection

end Operations

/-- `!cert_path.exists() || !key_path.exists()`. -/
def filesMissing : Prog MainSig Bool := do
  if ← pathExists rootCertPath then
    let found ← pathExists rootKeyPath
    return ! found
  else return true

/-- `Store::init`. The clock is read by `TrafficStatsData::new`. -/
def initStore (args : Args) : Prog MainSig Unit := do
  let time ← now
  let seconds ← unwrap (SystemTime.unixSeconds time)
  setContext (Store.init args.port rootCertPath rootKeyPath args.enableHttps args.enableH2
    (some args.maxNetworkRecords) seconds)

/-- With `enable_https`, the files must be readable. What is read is used no further. -/
def loadRootCertificate : Prog MainSig Unit := do
  let cert ← readFile rootCertPath
  let _ ← expect cert
  let key ← readFile rootKeyPath
  let _ ← expect key

/-- `PluginManager::init`. The sampler starts before the plugin manager is set. -/
def initPlugins (samplerFuel : ℕ) : Prog MainSig Unit := do
  spawnSampler samplerFuel
  setPluginManager

/-- The loop over `listener.accept()`, unrolled `fuel` times. -/
def acceptLoop : ℕ → Prog MainSig Unit
  | 0 => .act (S := MainSig) .outOfFuel fun r => nomatch r
  | fuel + 1 => do
    let accepted ← accept
    expect accepted
    spawnConnection
    acceptLoop fuel

/-- `main`, once the arguments are parsed. -/
def main (args : Args) (samplerFuel fuel : ℕ) : Prog MainSig Unit := do
  if ← filesMissing then exit 1
  else
    initStore args
    if args.enableHttps then loadRootCertificate
    initPlugins samplerFuel
    let bound ← bind args.port
    expect bound
    acceptLoop fuel

end Main

/-! ## The process -/

/-- The process: what `main` has done and has left, and what it has brought about. -/
structure Process where
  /-- `main`. -/
  main : Thread MainSig Args Unit
  /-- The tasks and the state they share, once `GLOBAL_CONTEXT` is set. -/
  pool : Option ProxyPool
  /-- `PLUGIN_MANAGER` is set. -/
  pluginManager : Bool
  /-- The number of connections that were accepted. -/
  connections : ℕ
  /-- The process has ended. -/
  stopped : Bool
  /-- A task has asked for one of the two cells before it was set, and has panicked. -/
  unset : Bool

/-- What the environment answers to `main` at one step. -/
structure Setup where
  pathExists : Bool
  now : SystemTime
  readFile : Result (List UInt8)
  bind : Result Unit
  accept : Result Unit

/-- A move of the process. -/
inductive ProcessMove where
  /-- `main` performs its next operation. -/
  | main (ω : Setup)
  /-- A request is read on a connection. The loop of its tunnel is unrolled `fuel` times. -/
  | request (req : Request) (fuel : ℕ)
  /-- A request is read inside the TLS connection that the task with index `i` has opened. -/
  | intercepted (i : ℕ) (req : Request)
  /-- The task with index `i` performs its next operation. -/
  | task (i : ℕ) (ω : Oracle)

/-- The event is a certificate that serves. -/
def Serves : Event (TaskSig StoreSig) → Bool
  | ⟨.tlsAcceptor _, .ok _⟩ => true
  | _ => false

/-- The task has opened a TLS connection to its client. -/
def ProxyTask.servesTls (t : ProxyTask) : Bool := t.tag.isConnect && t.trace.any Serves

namespace Process

variable (X : Externals)

/-- A task is started. Without a store, it panics where it asks for one. -/
def spawn (p : Process) (job : Job) : Process :=
  match p.pool with
  | none => { p with unset := true }
  | some pool => { p with pool := some ((system X).move pool (.spawn job)) }

/-- The effect of an operation of `main`. -/
def performMain (ω : Setup) (p : Process) : (o : MainOp) → Option (o.Res × Process)
  | .pathExists _ => some (ω.pathExists, p)
  | .exit _ => none
  | .now => some (ω.now, p)
  | .setContext store => some ((), { p with pool := some (p.pool.getD ⟨.init store, [], []⟩) })
  | .readFile _ => some (ω.readFile, p)
  | .spawnSampler fuel => some ((), p.spawn X (.sampler fuel))
  | .setPluginManager => some ((), { p with pluginManager := true })
  | .bind _ => some (ω.bind, p)
  | .accept => some (ω.accept, p)
  | .spawnConnection => some ((), { p with connections := p.connections + 1 })
  | .panic => none
  | .outOfFuel => none

/-- `main` performs its next operation. The process ends with it. -/
def moveMain (p : Process) (ω : Setup) : Process :=
  match p.main.prog with
  | .ret _ => { p with stopped := true }
  | .act o k =>
    match performMain X ω p o with
    | some (r, p') => { p' with main := p.main.advance ⟨o, r⟩ (k r) }
    -- An accept loop that is not observed any further goes on.
    | none => { p with stopped := ! (o matches .outOfFuel) }

/-- The task performs an operation of a plugin next. -/
def asksForPlugins (t : ProxyTask) : Bool := t.nextOp.any (· matches .callback _ _)

/-- A task performs its next operation. Without a plugin manager, it panics where it asks for it. -/
def moveTask (p : Process) (i : ℕ) (ω : Oracle) : Process :=
  match p.pool with
  | none => p
  | some pool =>
    if ! p.pluginManager && pool.threads[i]?.any asksForPlugins then { p with unset := true }
    else { p with pool := some ((system X).move pool (.step i ω)) }

/-- The task with index `i` has opened a TLS connection to its client. -/
def servesTls (p : Process) (i : ℕ) : Bool :=
  (p.pool.bind fun pool => pool.threads[i]?).any ProxyTask.servesTls

/-- One move of the process. Nothing moves once it has ended. -/
def move (p : Process) (m : ProcessMove) : Process :=
  if p.stopped then p
  else
    match m with
    | .main ω => p.moveMain X ω
    | .request req fuel => if p.connections = 0 then p else p.spawn X (.proxied req fuel)
    | .intercepted i req => if p.servesTls i then p.spawn X (.intercepted req) else p
    | .task i ω => p.moveTask X i ω

/-- The process when it starts. -/
def started (args : Args) (samplerFuel fuel : ℕ) : Process where
  main := ⟨args, [], Main.main args samplerFuel fuel⟩
  pool := none
  pluginManager := false
  connections := 0
  stopped := false
  unset := false

end Process

/-- The process after a run. -/
def runProcess (X : Externals) (args : Args) (samplerFuel fuel : ℕ) (moves : List ProcessMove) :
    Process :=
  moves.foldl (Process.move X) (.started args samplerFuel fuel)

end Bifrost
