import BifrostCore.Correctness.Conformance

/-!
# What a task has done

Observations on a task of the proxy: the callbacks it ran, what it did to a counter, the bytes it
read, and what it waits for. They are defined on the trace of the task and on its next operation,
so they mention neither the ledger nor the shared state. `Ledger.standing` is what ties them to the
ledger: the phase of a task determines each of them.

The computation that follows an operation belongs to it, so a task whose next operation is one of
a callback is inside that callback.
-/

namespace Bifrost

open Concurrency

/-! ## Observations -/

/-- The callback an operation belongs to. -/
def TaskOp.callbackOf {π : Sig} : TaskOp π → Option Callback
  | .callback cb _ => some cb
  | _ => none

/-- The operation sends a request upstream. -/
def TaskOp.isClientRequest {π : Sig} : TaskOp π → Bool
  | .clientRequest _ => true
  | _ => false

/-- The operation writes the counter. -/
def StoreOp.writes (c : Counter) : StoreOp → Bool
  | .store c' _ | .fetchAdd c' _ | .fetchSub c' _ => c' = c
  | _ => false

/-- The bytes that go in a direction and are read by a `select!`. -/
def SelectOutcome.bytesRead : DataDirection → SelectOutcome → ℕ
  | .upstream, .clientRead (.ok chunk) => chunk.bytes.length
  | .downstream, .targetRead (.ok chunk) => chunk.bytes.length
  | _, _ => 0

/-- The bytes that go in a direction and are read by an operation. -/
def TaskOp.bytesRead {π : Sig} (direction : DataDirection) : (o : TaskOp π) → o.Res → ℕ
  | .select, outcome => outcome.bytesRead direction
  | _, _ => 0

section Trace

variable (tr : Trace (TaskSig StoreSig))

/-- The task ran an operation of the callback. -/
def ran (cb : Callback) : Bool := tr.any fun e => e.op.callbackOf = some cb

/-- The task has sent a request upstream and got the result. -/
def forwarded : Bool := tr.any fun e => e.op.isClientRequest

/-- What the task did to a counter. -/
def writes (c : Counter) : List StoreOp :=
  tr.filterMap fun e => e.op.storeOp.filter (·.writes c)

/-- The bytes the task has read in a direction. -/
def bytesRead (direction : DataDirection) : ℕ :=
  (tr.map fun e => e.op.bytesRead direction e.res).sum

theorem ran_snoc (e : Event (TaskSig StoreSig)) (cb : Callback) :
    ran (tr ++ [e]) cb = (ran tr cb || decide (e.op.callbackOf = some cb)) := by
  simp [ran]

theorem forwarded_snoc (e : Event (TaskSig StoreSig)) :
    forwarded (tr ++ [e]) = (forwarded tr || e.op.isClientRequest) := by
  simp [forwarded]

end Trace

namespace ProxyTask

variable (t : ProxyTask)

/-- The task is inside a plugin callback. -/
def inCallback : Bool := t.nextOp.any fun o => o.callbackOf.isSome

/-- A request that passed the plugins and waits for the upstream server. -/
def awaitsUpstream : Bool := t.nextOp.any fun o => o.isClientRequest

/-- A tunnel that passed `handle_connect` and has not executed `handle_connect_close`. -/
def openTunnel : Bool := ran t.trace .handleConnect && ! ran t.trace .handleConnectClose

/-- A request that passed the plugins and came back from the upstream server. -/
def cameBack : Bool := forwarded t.trace

end ProxyTask

/-- No callback is midway. -/
def Quiescent (p : ProxyPool) : Prop := ∀ t ∈ p.threads, ProxyTask.inCallback t = false

instance (p : ProxyPool) : Decidable (Quiescent p) := by unfold Quiescent; infer_instance

/-! ## What the phase of a task says -/

namespace Phase

/-- A task in this phase has run `handle_connect`. -/
def ranConnect : Phase → Bool
  | .totalled .tunnel _ | .admitted .tunnel _ => true
  | .relaying _ | .metering _ _ _ | .noting _ | .closing _ | .closed _ => true
  | _ => false

/-- A task in this phase has run `handle_connect_close`. -/
def ranClose : Phase → Bool
  | .closing _ | .closed _ => true
  | _ => false

/-- A task in this phase came back from upstream. -/
def isAnswered : Phase → Bool
  | .answered _ => true
  | _ => false

/-- What a task in this phase did to `total_requests`. -/
def totalWrites : Phase → List StoreOp
  | .idle _ | .drawn _ _ | .sampling => []
  | _ => [.fetchAdd .totalRequests 1]

/-- What a task in this phase did to `current_requests`. -/
def gaugeWrites : Phase → List StoreOp
  | .idle _ | .drawn _ _ | .totalled _ _ | .sampling => []
  | .closing _ | .closed _ => [.fetchAdd .currentRequests 1, .fetchSub .currentRequests 1]
  | _ => [.fetchAdd .currentRequests 1]

/-- The flow a phase belongs to. -/
def flow : Phase → Option Flow
  | .idle flow | .drawn flow _ | .totalled flow _ | .admitted flow _ => some flow
  | .counted _ | .recorded _ | .upstream _ | .answered _ => some .request
  | .relaying _ | .metering _ _ _ | .noting _ | .closing _ | .closed _ => some .tunnel
  | .sampling => none

/-- The phases outside the callbacks. -/
def Calm : Phase → Prop
  | .idle _ | .drawn _ _ | .upstream _ | .answered _ | .relaying _ | .closed _ | .sampling => True
  | _ => False

end Phase

namespace TaskOp.Quiet

variable {o : TaskOp StoreSig} (h : o.Quiet)

include h

theorem callbackOf_ne (cb : Callback) (hcb : cb ≠ .handleRequest) : o.callbackOf ≠ some cb := by
  cases o with
  | callback cb' o =>
    obtain ⟨rfl, -⟩ := h
    exact fun heq => hcb (Option.some.inj heq).symm
  | _ => exact fun heq => nomatch heq

theorem not_clientRequest : o.isClientRequest = false := by
  cases o with
  | clientRequest req => cases h
  | _ => rfl

theorem not_writes (c : Counter) : o.storeOp.filter (·.writes c) = none := by
  rw [Option.filter_eq_none_iff]
  intro o' ho'
  have hread := h.readOnly o' ho'
  -- The three operations that write a counter are not reads.
  cases o' with
  | store | fetchAdd | fetchSub => cases hread
  | _ => exact Bool.false_ne_true

end TaskOp.Quiet

/-- The phase a view of a task stands in. -/
def phaseOf (v : Job × Trace (TaskSig StoreSig)) : Phase := ledger.after (Ledger.start v.1) v.2

namespace Ledger

/-- What the phase of a task says about its trace. -/
structure Standing (q : Phase) (tr : Trace (TaskSig StoreSig)) : Prop where
  connect : ran tr .handleConnect = q.ranConnect
  close : ran tr .handleConnectClose = q.ranClose
  forwarded : forwarded tr = q.isAnswered
  total : writes tr .totalRequests = q.totalWrites
  gauge : writes tr .currentRequests = q.gaugeWrites

/-- One more operation, in terms of what the phases before and after it say. -/
theorem Standing.snoc {q q' : Phase} {tr : Trace (TaskSig StoreSig)} (h : Standing q tr)
    {o : TaskOp StoreSig} {r : o.Res}
    (hconnect : q'.ranConnect = (q.ranConnect || decide (o.callbackOf = some .handleConnect)))
    (hclose : q'.ranClose = (q.ranClose || decide (o.callbackOf = some .handleConnectClose)))
    (hforwarded : q'.isAnswered = (q.isAnswered || o.isClientRequest))
    (htotal : q'.totalWrites =
      q.totalWrites ++ (o.storeOp.filter (·.writes .totalRequests)).toList)
    (hgauge : q'.gaugeWrites =
      q.gaugeWrites ++ (o.storeOp.filter (·.writes .currentRequests)).toList) :
    Standing q' (tr ++ [⟨o, r⟩]) where
  connect := by rw [hconnect, ← h.connect, ran_snoc]
  close := by rw [hclose, ← h.close, ran_snoc]
  forwarded := by rw [hforwarded, ← h.forwarded, forwarded_snoc]
  total := by
    rw [htotal, ← h.total]
    cases ho : o.storeOp.filter (·.writes .totalRequests) <;> simp [writes, ho]
  gauge := by
    rw [hgauge, ← h.gauge]
    cases ho : o.storeOp.filter (·.writes .currentRequests) <;> simp [writes, ho]

theorem Standing.quiet {q : Phase} {tr : Trace (TaskSig StoreSig)} (h : Standing q tr)
    {o : TaskOp StoreSig} {r : o.Res} (ho : o.Quiet) : Standing q (tr ++ [⟨o, r⟩]) := by
  refine h.snoc ?_ ?_ ?_ ?_ ?_
  · simp [ho.callbackOf_ne .handleConnect (by decide)]
  · simp [ho.callbackOf_ne .handleConnectClose (by decide)]
  · simp [ho.not_clientRequest]
  · simp [ho.not_writes]
  · simp [ho.not_writes]

/-- After a `select!` a tunnel meters the bytes it read, if it read any. -/
theorem afterSelect_cases (id : UInt64) (outcome : SelectOutcome) :
    (afterSelect id outcome = .relaying id ∧ ∀ direction, outcome.bytesRead direction = 0) ∨
      ∃ direction n, afterSelect id outcome = .metering id direction n ∧
        ∀ direction', outcome.bytesRead direction' = if direction = direction' then n else 0 := by
  -- Both reads, in terms of the direction of what is read.
  have hread : ∀ direction (result : Result Chunk) (bytes : DataDirection → ℕ),
      (∀ direction', bytes direction' =
        if direction = direction' then result.toOption.elim 0 (·.bytes.length) else 0) →
      (afterRead id direction result = .relaying id ∧ ∀ direction', bytes direction' = 0) ∨
        ∃ n, afterRead id direction result = .metering id direction n ∧
          ∀ direction', bytes direction' = if direction = direction' then n else 0 := by
    intro direction result bytes hbytes
    cases result with
    | error e => exact .inl ⟨rfl, fun d => by rw [hbytes d]; exact ite_self _⟩
    | ok chunk =>
      by_cases h : chunk.bytes = []
      · refine .inl ⟨if_pos h, fun d => ?_⟩
        rw [hbytes d]
        simp [Except.toOption, h]
      · exact .inr ⟨_, if_neg h, hbytes⟩
  cases outcome with
  | timeout => exact .inl ⟨rfl, fun d => by cases d <;> rfl⟩
  | clientRead result =>
    obtain h | ⟨n, h⟩ := hread .upstream result (SelectOutcome.bytesRead · (.clientRead result))
      (fun d => by cases d <;> cases result <;> rfl)
    · exact .inl h
    · exact .inr ⟨_, n, h⟩
  | targetRead result =>
    obtain h | ⟨n, h⟩ := hread .downstream result (SelectOutcome.bytesRead · (.targetRead result))
      (fun d => by cases d <;> cases result <;> rfl)
    · exact .inl h
    · exact .inr ⟨_, n, h⟩

/-- An operation the ledger allows keeps the agreement of phase and trace. -/
theorem Standing.step {q : Phase} {tr : Trace (TaskSig StoreSig)} {o : TaskOp StoreSig} (r : o.Res)
    (ho : Allows q o) (h : Standing q tr) : Standing (next q o r) (tr ++ [⟨o, r⟩]) := by
  cases ho with
  | quiet_idle ho =>
    rw [next_quiet_idle ho]
    exact h.quiet ho
  | quiet_drawn ho =>
    rw [next_quiet_drawn ho]
    exact h.quiet ho
  | @select id =>
    show Standing (afterSelect id r) _
    obtain ⟨hq, -⟩ | ⟨direction, n, hq, -⟩ := afterSelect_cases id r
    · rw [hq]
      exact h.snoc rfl rfl rfl rfl rfl
    · rw [hq]
      exact h.snoc rfl rfl rfl rfl rfl
  | @meter id direction n => cases direction <;> exact h.snoc rfl rfl rfl rfl rfl
  | @sample_store c v hs =>
    -- Neither of the two request counters is one the sampler owns.
    cases c with
    | totalRequests | currentRequests => exact absurd hs (by decide)
    | _ => exact h.snoc rfl rfl rfl rfl rfl
  | _ => exact h.snoc rfl rfl rfl rfl rfl

theorem Standing.start (job : Job) : Standing (start job) [] := by
  unfold Ledger.start
  split
  · split <;> exact ⟨rfl, rfl, rfl, rfl, rfl⟩
  · exact ⟨rfl, rfl, rfl, rfl, rfl⟩
  · exact ⟨rfl, rfl, rfl, rfl, rfl⟩

/-- A task stays in its flow. -/
theorem flow_next {q : Phase} {o : TaskOp StoreSig} (h : Allows q o) (r : o.Res) :
    (next q o r).flow = q.flow := by
  cases h with
  | quiet_idle ho => rw [next_quiet_idle ho]
  | quiet_drawn ho => rw [next_quiet_drawn ho]
  | @select id =>
    show (afterSelect id r).flow = some .tunnel
    obtain ⟨hafter, -⟩ | ⟨direction, n, hafter, -⟩ := afterSelect_cases id r
    · rw [hafter]; rfl
    · rw [hafter]; rfl
  | _ => rfl

theorem flow_after {job : Job} {tr : Trace (TaskSig StoreSig)}
    (h : ledger.Permits (start job) tr) : (phaseOf (job, tr)).flow = (start job).flow :=
  h.induction (R := fun (q : Phase) _ => q.flow = (start job).flow) rfl
    fun _ _ _ r hall ih => (flow_next hall r).trans ih

theorem flow_start_of_connect {job : Job} (h : job.isConnect = true) :
    (start job).flow = some .tunnel := by
  cases job with
  | proxied req fuel =>
    have hreq : req.method = .connect := of_decide_eq_true h
    show (if _ then _ else _ : Phase).flow = _
    rw [if_pos hreq]
    rfl
  | _ => cases h

theorem flow_start_of_not_connect {job : Job} (h : job.isConnect = false) :
    (start job).flow ≠ some .tunnel := by
  cases job with
  | proxied req fuel =>
    have hreq : ¬ req.method = .connect := of_decide_eq_false h
    show (if _ then _ else _ : Phase).flow ≠ _
    rw [if_neg hreq]
    decide
  | intercepted req => exact fun h => nomatch h
  | sampler fuel => exact fun h => nomatch h

end Ledger

namespace ProxyTask

/-- Where a task stands in the ledger. -/
def phase (t : ProxyTask) : Phase := phaseOf t.view

section Reachable

variable {X : Externals} {g : Globals} {moves : List (Move Job Oracle)} {t : ProxyTask}
  (ht : t ∈ ((system X).run g moves).threads)

include ht

/-- In every reachable pool, the phase of a task and its trace agree. -/
theorem standing : Ledger.Standing (phase t) t.trace :=
  (System.permits ledger (Ledger.program_follows X) g moves t ht).induction
    (Ledger.Standing.start t.tag) fun _ _ _ r hall h => h.step r hall

/-- A task performs next what the ledger allows in its phase. -/
theorem allows_nextOp {o : TaskOp StoreSig} (ho : t.nextOp = some o) :
    Ledger.Allows (phase t) o := by
  -- What the task has left conforms from its phase on, so its first operation is allowed there.
  have h := System.follows ledger (Ledger.program_follows X) g moves t ht
  unfold Thread.nextOp at ho
  split at ho
  next o' k hprog =>
    cases ho
    rw [hprog] at h
    exact h.1
  next => cases ho

/-- A task that has returned stands where a task may end. -/
theorem ended_of_returned (hr : t.nextOp = none) : Ledger.Ended (phase t) := by
  have h := System.follows ledger (Ledger.program_follows X) g moves t ht
  unfold Thread.nextOp at hr
  split at hr
  next => cases hr
  next a hprog =>
    rw [hprog] at h
    exact h

/-- The tasks that wait for an upstream server are those in the phase before it. -/
theorem awaitsUpstream_iff : awaitsUpstream t = true ↔ ∃ id, phase t = .upstream id := by
  cases hn : t.nextOp with
  | none =>
    have hend := ended_of_returned ht hn
    simp only [awaitsUpstream, hn, Option.any_none, Bool.false_eq_true, false_iff, not_exists]
    intro id hq
    rw [hq] at hend
    exact hend
  | some o =>
    have hall := allows_nextOp ht hn
    simp only [awaitsUpstream, hn, Option.any_some]
    constructor
    · intro hreq
      cases o with
      | clientRequest req =>
        -- Only one rule of the ledger allows a request upstream.
        generalize phase t = q at hall ⊢
        cases hall with
        | quiet_idle h => cases h
        | quiet_drawn h => cases h
        | @forward id => exact ⟨id, rfl⟩
      | _ => cases hreq
    · rintro ⟨id, hq⟩
      rw [hq] at hall
      cases hall
      rfl

/-- Between callbacks, a task stands in one of seven phases. -/
theorem calm_of_not_inCallback (h : inCallback t = false) : (phase t).Calm := by
  cases hn : t.nextOp with
  | none =>
    have hend := ended_of_returned ht hn
    generalize phase t = q at hend ⊢
    cases q with
    | idle | drawn | answered | closed | sampling => trivial
    | _ => exact hend.elim
  | some o =>
    have hall := allows_nextOp ht hn
    simp only [inCallback, hn, Option.any_some] at h
    -- In every other phase the next operation is one of a callback.
    generalize phase t = q at hall ⊢
    cases hall with
    | quiet_idle | draw | quiet_drawn | forward | select | write | unobserved => trivial
    | sample_load | sample_store | sample_sleep | sample_unobserved => trivial
    | request_total | tunnel_total | release => trivial
    | _ => cases h

end Reachable

end ProxyTask

end Bifrost
