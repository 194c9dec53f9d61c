import BifrostCore.Correctness.Connection
import BifrostCore.Main

/-!
# The start-up of the process

The order in which `main` sets the process up, and what the tasks may rely on because of it.
`startup args` is the protocol of `main`; a `Boot` is how far it has come.

* `Boot.main_follows` — the code of `main` follows the protocol.
* `Process.standing` — what the process looks like at every point of the start-up, in every run.
* `started_up` — no task runs ahead of the start-up, and what the tasks then do is a run of the
  proxy with the configuration of the command line.
-/

namespace Bifrost

open Concurrency Prog

/-- The job is a request inside a terminated TLS connection. -/
def Job.isIntercepted : Job → Bool
  | .intercepted _ => true
  | _ => false

/-! ## The protocol of `main` -/

/-- How far `main` has come. -/
inductive Boot where
  /-- Nothing is checked yet. -/
  | start
  /-- The root certificate is there. -/
  | certFound
  /-- Its key is there, too. -/
  | found
  /-- The store is set. -/
  | initialized
  /-- With `enable_https`: the root certificate is read. -/
  | certRead
  /-- With `enable_https`: its key is read, too. -/
  | keyRead
  /-- The sampler runs. -/
  | sampling
  /-- The plugin manager is set. -/
  | registered
  /-- The port is bound. -/
  | listening
  /-- A connection is accepted. -/
  | accepted
  deriving DecidableEq

namespace Boot

/-- The point of the start-up after an operation. -/
def next : Boot → (o : MainOp) → o.Res → Boot
  | .start, .pathExists _, true => .certFound
  | .certFound, .pathExists _, true => .found
  | .found, .setContext _, _ => .initialized
  | .initialized, .readFile _, .ok _ => .certRead
  | .certRead, .readFile _, .ok _ => .keyRead
  | .initialized, .spawnSampler _, _ => .sampling
  | .keyRead, .spawnSampler _, _ => .sampling
  | .sampling, .setPluginManager, _ => .registered
  | .registered, .bind _, .ok _ => .listening
  | .listening, .accept, .ok _ => .accepted
  | .accepted, .spawnConnection, _ => .listening
  | q, _, _ => q

/-- The operations `main` may perform at a point of the start-up. -/
inductive Allows (args : Args) : Boot → MainOp → Prop
  | findCert : Allows args .start (.pathExists rootCertPath)
  | findKey : Allows args .certFound (.pathExists rootKeyPath)
  | time : Allows args .found .now
  | setStore (now : UInt64) : Allows args .found (.setContext (.fresh args.config now))
  | readCert : args.enableHttps = true → Allows args .initialized (.readFile rootCertPath)
  | readKey : args.enableHttps = true → Allows args .certRead (.readFile rootKeyPath)
  | sample {fuel : ℕ} : args.enableHttps = false → Allows args .initialized (.spawnSampler fuel)
  | sampleHttps {fuel : ℕ} : Allows args .keyRead (.spawnSampler fuel)
  | register : Allows args .sampling .setPluginManager
  | bind : Allows args .registered (.bind args.port)
  | accept : Allows args .listening .accept
  | connect : Allows args .accepted .spawnConnection
  | exit {q : Boot} {code : ℕ} : Allows args q (.exit code)
  | panic {q : Boot} : Allows args q .panic
  | unobserved {q : Boot} : Allows args q .outOfFuel

end Boot

/-- The protocol of `main`. -/
@[reducible]
def startup (args : Args) : Protocol MainSig where
  State := Boot
  Allows := Boot.Allows args
  next := Boot.next

/-! ## The code follows it -/

namespace Boot

open Main

variable {args : Args} {α : Type} {q : Boot}

theorem exit_follows (code : ℕ) (post : Boot → α → Prop) :
    (exit code : Prog MainSig α).Follows (startup args) q post :=
  ⟨.exit, fun r => nomatch r⟩

theorem unwrap_follows (x : Option α) :
    (unwrap x).Follows (startup args) q fun q' _ => q' = q := by
  cases x with
  | some a => rfl
  | none => exact ⟨.panic, fun r => nomatch r⟩

/-- What is expected holds at the point that its answer has led to. -/
theorem expect_follows {x : Result α} (q' : Boot) (h : ∀ a, x = .ok a → q = q') :
    (expect x).Follows (startup args) q fun q _ => q = q' := by
  cases x with
  | ok a => exact h a rfl
  | error e => exact ⟨.panic, fun r => nomatch r⟩

theorem filesMissing_follows :
    filesMissing.Follows (startup args) .start fun q missing => missing = false → q = .found := by
  refine ⟨.findCert, fun found => ?_⟩
  cases found with
  | false => exact fun h => nomatch h
  | true =>
    refine ⟨.findKey, fun found => ?_⟩
    cases found with
    | false => exact fun h => nomatch h
    | true => exact fun _ => rfl

theorem initStore_follows :
    (initStore args).Follows (startup args) .found fun q _ => q = .initialized := by
  refine ⟨.time, fun time => ?_⟩
  refine (unwrap_follows _).bind ?_
  rintro q seconds rfl
  exact ⟨.setStore seconds, fun _ => rfl⟩

theorem loadRootCertificate_follows (h : args.enableHttps = true) :
    loadRootCertificate.Follows (startup args) .initialized fun q _ => q = .keyRead := by
  refine ⟨.readCert h, fun cert => ?_⟩
  refine (expect_follows .certRead ?_).bind ?_
  · rintro _ rfl
    rfl
  rintro q _ rfl
  refine ⟨.readKey h, fun key => ?_⟩
  refine (expect_follows .keyRead ?_).bind fun q _ hq => hq
  rintro _ rfl
  rfl

theorem acceptLoop_follows (fuel : ℕ) :
    (acceptLoop fuel).Follows (startup args) .listening fun _ _ => False := by
  induction fuel with
  | zero => exact ⟨.unobserved, fun r => nomatch r⟩
  | succ fuel ih =>
    refine ⟨.accept, fun accepted => ?_⟩
    refine (expect_follows .accepted ?_).bind ?_
    · rintro _ rfl
      rfl
    rintro q _ rfl
    exact ⟨.connect, fun _ => ih⟩

/-- From the sampler on. -/
theorem serve_follows {samplerFuel fuel : ℕ}
    (hspawn : Allows args q (.spawnSampler samplerFuel))
    (hnext : next q (.spawnSampler samplerFuel) () = .sampling) :
    (do
      initPlugins samplerFuel
      let bound ← Main.bind args.port
      expect bound
      acceptLoop fuel).Follows (startup args) q fun _ _ => False := by
  refine ⟨hspawn, fun _ => ?_⟩
  rw [show (startup args).next q (.spawnSampler samplerFuel) _ = .sampling from hnext]
  refine ⟨.register, fun _ => ⟨.bind, fun bound => ?_⟩⟩
  refine (expect_follows .listening ?_).bind ?_
  · rintro _ rfl
    rfl
  rintro q _ rfl
  exact acceptLoop_follows fuel

/-- `main` follows the protocol. It never returns. -/
theorem main_follows (args : Args) (samplerFuel fuel : ℕ) :
    (main args samplerFuel fuel).Follows (startup args) .start fun _ _ => False := by
  refine filesMissing_follows.bind ?_
  rintro q missing hfound
  cases missing with
  | true => exact exit_follows 1 _
  | false =>
    obtain rfl := hfound rfl
    refine initStore_follows.bind ?_
    rintro q _ rfl
    cases hhttps : args.enableHttps with
    | false =>
      exact serve_follows (.sample hhttps) rfl
    | true =>
      refine (loadRootCertificate_follows hhttps).bind ?_
      rintro q _ rfl
      exact serve_follows .sampleHttps rfl

end Boot

/-! ## What `main` has seen -/

/-- The file was there when `main` looked for it. -/
def FileFound (tr : Trace MainSig) (path : Str) : Prop :=
  (⟨.pathExists path, true⟩ : Event MainSig) ∈ tr

/-- The file could be read. -/
def FileRead (tr : Trace MainSig) (path : Str) : Prop :=
  ∃ data, (⟨.readFile path, .ok data⟩ : Event MainSig) ∈ tr

/-- The files of the root certificate are fit for the mode. -/
structure FilesReady (args : Args) (tr : Trace MainSig) : Prop where
  /-- The certificate is there. -/
  cert : FileFound tr rootCertPath
  /-- Its key is there. -/
  key : FileFound tr rootKeyPath
  /-- With `enable_https` the certificate could be read. -/
  certRead : args.enableHttps = true → FileRead tr rootCertPath
  /-- With `enable_https` its key could be read. -/
  keyRead : args.enableHttps = true → FileRead tr rootKeyPath

/-- The port is bound. -/
def Bound (args : Args) (tr : Trace MainSig) : Prop :=
  (⟨.bind args.port, .ok ()⟩ : Event MainSig) ∈ tr

namespace Boot

variable {args : Args} {q : Boot} {tr : Trace MainSig}

/-- What `main` has seen at a point of the start-up. -/
def Seen (args : Args) : Boot → Trace MainSig → Prop
  | .start, _ => True
  | .certFound, tr => FileFound tr rootCertPath
  | .found, tr | .initialized, tr => FileFound tr rootCertPath ∧ FileFound tr rootKeyPath
  | .certRead, tr =>
    (FileFound tr rootCertPath ∧ FileFound tr rootKeyPath) ∧ FileRead tr rootCertPath
  | .keyRead, tr | .sampling, tr | .registered, tr => FilesReady args tr
  | .listening, tr | .accepted, tr => FilesReady args tr ∧ Bound args tr

/-- What was seen stays seen. -/
theorem Seen.mono {tr' : Trace MainSig} (h : Seen args q tr) (hsub : tr ⊆ tr') :
    Seen args q tr' := by
  have hread : ∀ {path}, FileRead tr path → FileRead tr' path := fun ⟨data, hmem⟩ =>
    ⟨data, hsub hmem⟩
  have hready : FilesReady args tr → FilesReady args tr' := fun h =>
    ⟨hsub h.cert, hsub h.key, fun hhttps => hread (h.certRead hhttps),
      fun hhttps => hread (h.keyRead hhttps)⟩
  cases q with
  | start => trivial
  | certFound => exact hsub h
  | found => exact ⟨hsub h.1, hsub h.2⟩
  | initialized => exact ⟨hsub h.1, hsub h.2⟩
  | certRead => exact ⟨⟨hsub h.1.1, hsub h.1.2⟩, hread h.2⟩
  | keyRead => exact hready h
  | sampling => exact hready h
  | registered => exact hready h
  | listening => exact ⟨hready h.1, hsub h.2⟩
  | accepted => exact ⟨hready h.1, hsub h.2⟩

theorem Seen.step {o : MainOp} (hallows : Allows args q o) (r : o.Res) (h : Seen args q tr) :
    Seen args (q.next o r) (tr ++ [⟨o, r⟩]) := by
  have hlast : (⟨o, r⟩ : Event MainSig) ∈ tr ++ [⟨o, r⟩] := by simp
  have hstay : Seen args q (tr ++ [⟨o, r⟩]) := h.mono (List.subset_append_left tr _)
  cases hallows with
  | findCert =>
    cases r with
    | false => trivial
    | true => exact hlast
  | findKey =>
    cases r with
    | false => exact hstay
    | true => exact ⟨hstay, hlast⟩
  | time => exact hstay
  | setStore now => exact hstay
  | readCert _ =>
    cases r with
    | error e => exact hstay
    | ok data => exact ⟨hstay, data, hlast⟩
  | readKey _ =>
    cases r with
    | error e => exact hstay
    | ok data => exact ⟨hstay.1.1, hstay.1.2, fun _ => hstay.2, fun _ => ⟨data, hlast⟩⟩
  | sample hplain =>
    -- Without `enable_https` there is nothing to read.
    have hnot : args.enableHttps ≠ true := by simp [hplain]
    exact ⟨hstay.1, hstay.2, fun h => absurd h hnot, fun h => absurd h hnot⟩
  | sampleHttps => exact hstay
  | register => exact hstay
  | bind =>
    cases r with
    | error e => exact hstay
    | ok u => exact ⟨hstay, hlast⟩
  | accept => cases r <;> exact hstay
  | connect => exact hstay
  | exit => exact nomatch r
  | panic => exact nomatch r
  | unobserved => exact nomatch r

end Boot

/-! ## The tasks at every point of the start-up -/

/-- The jobs the tasks of a pool were started for. -/
def ProxyPool.jobs (pool : ProxyPool) : List Job := pool.threads.map Thread.tag

/-- A place in the order of the start-up. -/
def Boot.rank : Boot → ℕ
  | .start => 0
  | .certFound => 1
  | .found => 2
  | .initialized => 3
  | .certRead => 4
  | .keyRead => 5
  | .sampling => 6
  | .registered => 7
  | .listening | .accepted => 8

/-- When connections are accepted, the files are ready and the port is bound. -/
theorem Boot.Seen.of_serving {args : Args} {q : Boot} {tr : Trace MainSig} (h : q.Seen args tr)
    (hrank : 8 ≤ q.rank) : FilesReady args tr ∧ Bound args tr := by
  cases q with
  | listening | accepted => exact h
  | _ => exact absurd hrank (by decide)

/-- The tasks, when `main` has come to `q`. -/
structure PoolAt (X : Externals) (args : Args) (q : Boot) (pool : ProxyPool) : Prop where
  /-- They are those of a run of the proxy. -/
  run : ∃ now moves, pool = runProxy X args.config now moves
  /-- There is one sampler at most, and none before it is started. -/
  samplers : (ProxyPool.jobs pool).countP Job.isSampler ≤ if 6 ≤ q.rank then 1 else 0
  /-- There is no request before the port is bound. -/
  alone : q.rank < 8 → ∀ job ∈ ProxyPool.jobs pool, job.isSampler = true
  /-- Requests inside of TLS connections come with `enable_https`. -/
  intercepted : ∀ job ∈ ProxyPool.jobs pool, job.isIntercepted = true → args.enableHttps = true

namespace PoolAt

variable {X : Externals} {args : Args} {q q' : Boot} {pool : ProxyPool}

/-- Further on in the start-up. -/
theorem mono (h : PoolAt X args q pool) (hrank : q.rank ≤ q'.rank) : PoolAt X args q' pool where
  run := h.run
  samplers := by
    refine h.samplers.trans ?_
    split_ifs <;> omega
  alone hlt := h.alone (hrank.trans_lt hlt)
  intercepted := h.intercepted

/-- The tasks before there are any. -/
theorem fresh (now : UInt64) : PoolAt X args q ⟨.init (.fresh args.config now), [], []⟩ where
  run := ⟨now, [], rfl⟩
  samplers := Nat.zero_le _
  alone := by simp [ProxyPool.jobs]
  intercepted := by simp [ProxyPool.jobs]

theorem jobs_spawn (job : Job) :
    ProxyPool.jobs ((system X).move pool (.spawn job)) = ProxyPool.jobs pool ++ [job] := by
  simp [ProxyPool.jobs, System.move, System.fresh]

/-- The sampler is started. -/
theorem spawn_sampler (h : PoolAt X args q pool) (hrank : q.rank < 6) (fuel : ℕ)
    (hrank' : q'.rank = 6) :
    PoolAt X args q' ((system X).move pool (.spawn (.sampler fuel))) where
  run := by
    obtain ⟨now, moves, rfl⟩ := h.run
    exact ⟨now, moves ++ [.spawn (.sampler fuel)], (System.run_snoc _ _ _ _).symm⟩
  samplers := by
    have hnone := h.samplers
    rw [if_neg (by omega)] at hnone
    rw [jobs_spawn, List.countP_append, if_pos (by omega)]
    simpa [Job.isSampler] using hnone
  alone _ job hjob := by
    rw [jobs_spawn, List.mem_append, List.mem_singleton] at hjob
    rcases hjob with hjob | rfl
    · exact h.alone (by omega) job hjob
    · rfl
  intercepted job hjob hintercepted := by
    rw [jobs_spawn, List.mem_append, List.mem_singleton] at hjob
    rcases hjob with hjob | rfl
    · exact h.intercepted job hjob hintercepted
    · cases hintercepted

/-- A request is started, once the port is bound. -/
theorem spawn_request (h : PoolAt X args q pool) (hrank : q.rank = 8) {job : Job}
    (hjob : job.isSampler = false) (hhttps : job.isIntercepted = true → args.enableHttps = true) :
    PoolAt X args q ((system X).move pool (.spawn job)) where
  run := by
    obtain ⟨now, moves, rfl⟩ := h.run
    exact ⟨now, moves ++ [.spawn job], (System.run_snoc _ _ _ _).symm⟩
  samplers := by
    rw [jobs_spawn, List.countP_append]
    simpa [hjob] using h.samplers
  alone hlt := by omega
  intercepted job' hjob' hintercepted := by
    rw [jobs_spawn, List.mem_append, List.mem_singleton] at hjob'
    rcases hjob' with hjob' | rfl
    · exact h.intercepted job' hjob' hintercepted
    · exact hhttps hintercepted

/-- A task performs an operation. -/
theorem step (h : PoolAt X args q pool) (i : ℕ) (ω : Oracle) :
    PoolAt X args q ((system X).move pool (.step i ω)) := by
  have hjobs : ProxyPool.jobs ((system X).move pool (.step i ω)) = ProxyPool.jobs pool :=
    (system X).tags_move_step pool i ω
  obtain ⟨now, moves, hrun⟩ := h.run
  refine ⟨⟨now, moves ++ [.step i ω], ?_⟩, hjobs ▸ h.samplers, hjobs ▸ h.alone,
    hjobs ▸ h.intercepted⟩
  rw [hrun]
  exact (System.run_snoc _ _ _ _).symm

/-- A task that serves a TLS connection does so with `enable_https`, and after the start-up. -/
theorem of_servesTls (h : PoolAt X args q pool) {t : ProxyTask} (ht : t ∈ pool.threads)
    (hserves : t.servesTls = true) : 8 ≤ q.rank ∧ args.enableHttps = true := by
  obtain ⟨hconnect, hany⟩ := Bool.and_eq_true_iff.mp hserves
  constructor
  · -- It is the task of a CONNECT request, and not a sampler.
    by_contra hlt
    have hsampler := h.alone (by omega) t.tag (List.mem_map_of_mem ht)
    generalize t.tag = job at hconnect hsampler
    cases job with
    | proxied => cases hsampler
    | _ => cases hconnect
  · obtain ⟨now, moves, rfl⟩ := h.run
    obtain ⟨e, he, hserve⟩ := List.any_eq_true.mp hany
    refine (task_mode ht he).2 ?_
    obtain ⟨o, r⟩ := e
    cases o <;> trivial

/-- Before the port is bound, no task asks for the plugin manager. -/
theorem not_asksForPlugins (h : PoolAt X args q pool) (hrank : q.rank < 8) {t : ProxyTask}
    (ht : t ∈ pool.threads) : Process.asksForPlugins t = false := by
  have hsampler := h.alone hrank t.tag (List.mem_map_of_mem ht)
  obtain ⟨now, moves, rfl⟩ := h.run
  have hfollows := System.follows ledger (Ledger.program_follows X) _ moves t ht
  have hflow : (phaseOf (t.tag, t.trace)).flow = (Ledger.start t.tag).flow :=
    Ledger.flow_after (System.permits ledger (Ledger.program_follows X) _ moves t ht)
  rw [Process.asksForPlugins, Thread.nextOp]
  cases hprog : t.prog with
  | ret a => rfl
  | act o k =>
    rw [hprog] at hfollows
    have hallows : Ledger.Allows (phaseOf (t.tag, t.trace)) o := hfollows.1
    generalize phaseOf (t.tag, t.trace) = phase at hflow hallows
    generalize t.tag = job at hflow hsampler
    cases job with
    | proxied req fuel => cases hsampler
    | intercepted req => cases hsampler
    | sampler fuel =>
      cases hallows with
      | sample_load => rfl
      | sample_store _ => rfl
      | sample_sleep => rfl
      | sample_unobserved => rfl
      | _ => cases hflow

end PoolAt

/-! ## The process at every point of the start-up -/

/-- The process, when `main` has come to `q`. -/
structure Process.Standing (X : Externals) (args : Args) (q : Boot) (p : Process) : Prop where
  /-- No task has asked for a cell before it was set. -/
  unset : p.unset = false
  /-- There are no tasks before the store is set. -/
  absent : q.rank < 3 → p.pool = none
  /-- From then on there is a pool of tasks. -/
  present : 3 ≤ q.rank → ∃ pool, p.pool = some pool ∧ PoolAt X args q pool
  /-- After the start-up the plugin manager is set. -/
  pluginManager : 7 ≤ q.rank → p.pluginManager = true
  /-- A connection was accepted on the bound port. -/
  connected : p.connections ≠ 0 → q.rank = 8

namespace Process.Standing

variable {X : Externals} {args : Args} {q : Boot} {p : Process}

theorem started (samplerFuel fuel : ℕ) :
    Standing X args .start (.started args samplerFuel fuel) where
  unset := rfl
  absent _ := rfl
  present hrank := absurd hrank (by decide)
  pluginManager hrank := absurd hrank (by decide)
  connected h := absurd rfl h

/-- The tasks of a pool are those of a point of the start-up at which the store is set. -/
theorem poolAt (h : Standing X args q p) {pool : ProxyPool} (hpool : p.pool = some pool) :
    3 ≤ q.rank ∧ PoolAt X args q pool := by
  by_cases hrank : q.rank < 3
  · rw [h.absent hrank] at hpool
    cases hpool
  · obtain ⟨pool', hpool', hat⟩ := h.present (by omega)
    rw [hpool] at hpool'
    cases hpool'
    exact ⟨by omega, hat⟩

/-- `main` performs an operation that changes nothing but where it stands, and sets no cell. -/
theorem advance (h : Standing X args q p) (q' : Boot) (hrank : q.rank ≤ q'.rank)
    (hstore : q'.rank < 3 ∨ 3 ≤ q.rank) (hmanager : q'.rank < 7 ∨ 7 ≤ q.rank)
    (e : Event MainSig) (prog : Prog MainSig Unit) :
    Standing X args q' { p with main := p.main.advance e prog } where
  unset := h.unset
  absent hlt := h.absent (by omega)
  present hle := by
    obtain ⟨pool, hpool, hat⟩ := h.present (by omega)
    exact ⟨pool, hpool, hat.mono hrank⟩
  pluginManager hle := h.pluginManager (by omega)
  connected hne := by
    have heq := h.connected hne
    have hmost : q'.rank ≤ 8 := by cases q' <;> decide
    omega

/-- `main` starts the sampler. -/
theorem sampler (h : Standing X args q p) (q' : Boot) (hstore : 3 ≤ q.rank) (hrank : q.rank < 6)
    (hrank' : q'.rank = 6) {fuel : ℕ} (e : Event MainSig) (prog : Prog MainSig Unit) :
    Standing X args q' { p.spawn X (.sampler fuel) with main := p.main.advance e prog } := by
  obtain ⟨pool, hpool, hat⟩ := h.present hstore
  rw [Process.spawn, hpool]
  exact ⟨h.unset, fun hlt => by omega, fun _ => ⟨_, rfl, hat.spawn_sampler hrank fuel hrank'⟩,
    fun hle => by omega, fun hne => absurd (h.connected hne) (by omega)⟩

/-- A request is started. -/
theorem request (h : Standing X args q p) (hrank : q.rank = 8) (job : Job)
    (hjob : job.isSampler = false) (hhttps : job.isIntercepted = true → args.enableHttps = true) :
    Standing X args q (p.spawn X job) := by
  obtain ⟨pool, hpool, hat⟩ := h.present (by omega)
  rw [Process.spawn, hpool]
  exact ⟨h.unset, fun hlt => by omega, fun _ => ⟨_, rfl, hat.spawn_request hrank hjob hhttps⟩,
    h.pluginManager, h.connected⟩

/-- A task performs an operation. -/
theorem task (h : Standing X args q p) (i : ℕ) (ω : Oracle) :
    Standing X args q (p.moveTask X i ω) := by
  rw [Process.moveTask]
  cases hpool : p.pool with
  | none => exact h
  | some pool =>
    obtain ⟨hrank, hat⟩ := h.poolAt hpool
    -- A task that asks for the plugin manager is a request, and then the plugin manager is set.
    have hset : (! p.pluginManager && pool.threads[i]?.any asksForPlugins) = false := by
      by_cases hserving : 7 ≤ q.rank
      · rw [h.pluginManager hserving]
        rfl
      · rw [Bool.and_eq_false_iff]
        right
        rw [Option.any_eq_false]
        intro t ht
        simp [hat.not_asksForPlugins (by omega) (List.mem_of_getElem? ht)]
    dsimp only
    rw [hset]
    exact ⟨h.unset, fun hlt => by omega, fun _ => ⟨_, rfl, hat.step i ω⟩, h.pluginManager,
      h.connected⟩

/-- `main` performs an operation. -/
theorem performMain (h : Standing X args q p) {o : MainOp} (hallows : Boot.Allows args q o)
    {ω : Setup} {r : o.Res} {p' : Process}
    (hperf : Process.performMain X ω p o = some (r, p')) (prog : Prog MainSig Unit) :
    Standing X args (q.next o r) { p' with main := p.main.advance ⟨o, r⟩ prog } := by
  cases hallows with
  | findCert =>
    cases hperf
    cases ω.pathExists with
    | false => exact h.advance .start (by decide) (by decide) (by decide) _ _
    | true => exact h.advance .certFound (by decide) (by decide) (by decide) _ _
  | findKey =>
    cases hperf
    cases ω.pathExists with
    | false => exact h.advance .certFound (by decide) (by decide) (by decide) _ _
    | true => exact h.advance .found (by decide) (by decide) (by decide) _ _
  | time =>
    cases hperf
    exact h.advance .found le_rfl (by decide) (by decide) _ _
  | setStore now =>
    cases hperf
    show Standing X args .initialized _
    have hnone := h.absent (by decide)
    refine ⟨h.unset, fun hlt => absurd hlt (by decide), fun _ => ⟨_, ?_, .fresh now⟩,
      fun hle => absurd hle (by decide), fun hne => absurd (h.connected hne) (by decide)⟩
    rw [hnone]
    rfl
  | readCert _ =>
    cases hperf
    cases ω.readFile with
    | error e => exact h.advance .initialized (by decide) (by decide) (by decide) _ _
    | ok data => exact h.advance .certRead (by decide) (by decide) (by decide) _ _
  | readKey _ =>
    cases hperf
    cases ω.readFile with
    | error e => exact h.advance .certRead (by decide) (by decide) (by decide) _ _
    | ok data => exact h.advance .keyRead (by decide) (by decide) (by decide) _ _
  | sample _ =>
    cases hperf
    exact h.sampler .sampling (by decide) (by decide) rfl _ _
  | sampleHttps =>
    cases hperf
    exact h.sampler .sampling (by decide) (by decide) rfl _ _
  | register =>
    cases hperf
    show Standing X args .registered _
    obtain ⟨pool, hpool, hat⟩ := h.present (by decide)
    exact ⟨h.unset, fun hlt => absurd hlt (by decide),
      fun _ => ⟨pool, hpool, hat.mono (by decide)⟩, fun _ => rfl,
      fun hne => absurd (h.connected hne) (by decide)⟩
  | bind =>
    cases hperf
    cases ω.bind with
    | error e => exact h.advance .registered (by decide) (by decide) (by decide) _ _
    | ok u => exact h.advance .listening (by decide) (by decide) (by decide) _ _
  | accept =>
    cases hperf
    cases ω.accept with
    | error e => exact h.advance .listening (by decide) (by decide) (by decide) _ _
    | ok u => exact h.advance .accepted (by decide) (by decide) (by decide) _ _
  | connect =>
    cases hperf
    show Standing X args .listening _
    obtain ⟨pool, hpool, hat⟩ := h.present (by decide)
    exact ⟨h.unset, fun hlt => absurd hlt (by decide),
      fun _ => ⟨pool, hpool, hat.mono (by decide)⟩, fun _ => h.pluginManager (by decide),
      fun _ => rfl⟩
  | exit => cases hperf
  | panic => cases hperf
  | unobserved => cases hperf

end Process.Standing

/-! ## Runs -/

/-- What `main` has left follows its protocol, and the process looks the part. -/
def Process.Sound (X : Externals) (args : Args) (p : Process) : Prop :=
  ∃ q, p.main.prog.Follows (startup args) q (fun _ _ => False) ∧ q.Seen args p.main.trace ∧
    p.Standing X args q

namespace Process

variable {X : Externals} {args : Args} {p : Process}

@[simp] theorem main_spawn (job : Job) : (p.spawn X job).main = p.main := by
  unfold spawn
  split <;> rfl

@[simp] theorem main_moveTask (i : ℕ) (ω : Oracle) : (p.moveTask X i ω).main = p.main := by
  unfold moveTask
  split
  · rfl
  · split <;> rfl

namespace Sound

/-- Where `main` stands still, it is enough to look at the rest of the process. -/
theorem of_main_eq {p' : Process} (h : Sound X args p) (hmain : p'.main = p.main)
    (hat : ∀ q, p.Standing X args q → p'.Standing X args q) : Sound X args p' := by
  obtain ⟨q, hfollows, hseen, hq⟩ := h
  refine ⟨q, ?_, ?_, hat q hq⟩
  · rwa [hmain]
  · rwa [hmain]

/-- `main` performs its next operation. -/
theorem moveMain (h : Sound X args p) (ω : Setup) : Sound X args (p.moveMain X ω) := by
  obtain ⟨q, hfollows, hseen, hat⟩ := h
  rw [Process.moveMain]
  cases hprog : p.main.prog with
  | ret a =>
    rw [hprog] at hfollows
    exact hfollows.elim
  | act o k =>
    rw [hprog] at hfollows
    dsimp only
    cases hperf : performMain X ω p o with
    | none =>
      refine ⟨q, ?_, hseen, hat.unset, hat.absent, hat.present, hat.pluginManager, hat.connected⟩
      rw [hprog]
      exact hfollows
    | some x =>
      exact ⟨q.next o x.1, hfollows.2 x.1, hseen.step hfollows.1 x.1,
        hat.performMain hfollows.1 hperf (k x.1)⟩

/-- A request is read inside a TLS connection. -/
theorem intercepted (h : Sound X args p) {i : ℕ} (hserves : p.servesTls i = true)
    (req : Request) : Sound X args (p.spawn X (.intercepted req)) := by
  refine h.of_main_eq (main_spawn _) fun q hq => ?_
  obtain ⟨t, ht, hserves⟩ := (Option.any_eq_true _ _).mp hserves
  obtain ⟨pool, hpool, hget⟩ := Option.bind_eq_some_iff.mp ht
  obtain ⟨hrank, hhttps⟩ :=
    (hq.poolAt hpool).2.of_servesTls (List.mem_of_getElem? hget) hserves
  have hmost : q.rank ≤ 8 := by cases q <;> decide
  exact hq.request (by omega) (.intercepted req) rfl fun _ => hhttps

/-- One move of the process. -/
theorem move (h : Sound X args p) (m : ProcessMove) : Sound X args (p.move X m) := by
  unfold Process.move
  split
  · exact h
  · cases m with
    | main ω => exact h.moveMain ω
    | request req fuel =>
      dsimp only
      split
      · exact h
      · next hconnected =>
        exact h.of_main_eq (main_spawn _) fun q hq =>
          hq.request (hq.connected hconnected) (.proxied req fuel) rfl nofun
    | intercepted i req =>
      dsimp only
      split
      · next hserves => exact h.intercepted hserves req
      · exact h
    | task i ω => exact h.of_main_eq (main_moveTask i ω) fun q hq => hq.task i ω

end Sound

/-- Every reachable process is sound. -/
theorem sound (X : Externals) (args : Args) (samplerFuel fuel : ℕ) (moves : List ProcessMove) :
    Sound X args (runProcess X args samplerFuel fuel moves) := by
  induction moves using List.reverseRecOn with
  | nil => exact ⟨.start, Boot.main_follows args samplerFuel fuel, trivial, .started _ _⟩
  | append_singleton moves m ih =>
    rw [runProcess, List.foldl_append]
    exact ih.move m

end Process

/-- The start-up of the process, in every run. No task asks for the store or for the plugin manager
before it is set. What the tasks do is a run of the proxy with the configuration of the command line
and one sampler at most. When there is any other task, the files of the root certificate were found,
and could be read with `--https`; the port is bound; and the plugin manager is set. Without
`--https`, no request comes from inside a TLS connection. -/
theorem started_up (X : Externals) (args : Args) (samplerFuel fuel : ℕ)
    (moves : List ProcessMove) :
    (runProcess X args samplerFuel fuel moves).unset = false ∧
      ∀ pool, (runProcess X args samplerFuel fuel moves).pool = some pool →
        (∃ now moves', pool = runProxy X args.config now moves') ∧
          (ProxyPool.jobs pool).countP Job.isSampler ≤ 1 ∧
          ∀ job ∈ ProxyPool.jobs pool, job.isSampler = false →
            FilesReady args (runProcess X args samplerFuel fuel moves).main.trace ∧
              Bound args (runProcess X args samplerFuel fuel moves).main.trace ∧
              (runProcess X args samplerFuel fuel moves).pluginManager = true ∧
              (job.isIntercepted = true → args.enableHttps = true) := by
  obtain ⟨q, -, hseen, hat⟩ := Process.sound X args samplerFuel fuel moves
  refine ⟨hat.unset, fun pool hpool => ?_⟩
  obtain ⟨-, hpoolAt⟩ := hat.poolAt hpool
  refine ⟨hpoolAt.run, hpoolAt.samplers.trans ?_, fun job hjob hrequest => ?_⟩
  · split_ifs <;> omega
  · -- Before the port is bound there is no task but the sampler.
    have hrank : 8 ≤ q.rank := by
      by_contra hlt
      rw [hpoolAt.alone (by omega) job hjob] at hrequest
      cases hrequest
    have hready := hseen.of_serving hrank
    exact ⟨hready.1, hready.2, hat.pluginManager (by omega), hpoolAt.intercepted job hjob⟩

namespace Concrete

/-- An environment in which the start-up goes through. -/
def setup : Setup where
  pathExists := true
  now := 0
  readFile := .ok []
  bind := .ok ()
  accept := .ok ()

/-- The process after its start-up, with one CONNECT request that has come to `steps` operations. -/
def serving (steps : ℕ) : Process :=
  runProcess externals {} 1 2
    (.replicate 9 (.main setup) ++ .request connectRequest 1 ::
      .replicate steps (.task 1 (oracle .timeout)))

end Concrete

/-- A request on the listening port comes after the start-up. -/
theorem started_up_serving : FilesReady {} (Concrete.serving 3).main.trace := by
  obtain ⟨pool, hpool⟩ : ∃ pool, (Concrete.serving 3).pool = some pool := ⟨_, rfl⟩
  have hjob : Job.proxied Concrete.connectRequest 1 ∈ pool.threads.map Thread.tag := by
    cases hpool
    exact List.mem_of_getElem? (i := 1) rfl
  exact (((started_up Concrete.externals {} 1 2 _).2 pool hpool).2.2 _ hjob rfl).1

end Bifrost
