import BifrostCore.Correctness.Accounts
import BifrostCore.Correctness.RecordContents

/-!
# What the built-in server reports

The reports of the running proxy about itself: a request to the proxy itself is answered from the
store, and what it is told is what the store held when it was read.

* `totals_reconcile` — between callbacks, the statistics and the records add up.
* `reports_exact` — `/config` shows the configuration the proxy was started with, and `/get_record`
  the newest requests that went upstream before it was read, the newest first.
-/

namespace Bifrost

open Concurrency Prog

/-! ## Statistics and records -/

section Reachable

variable (X : Externals) (config : Config) (now : UInt64) (moves : List (Move Job Oracle))

/-- There are as many entries as tasks that have given their id to a record. -/
theorem length_entries :
    (entries (runProxy X config now moves).log).length =
      (runProxy X config now moves).threads.countP fun t =>
        (ProxyTask.phase t).spent.isSome := by
  have hperm := (books X config now moves).added.length_eq
  rw [← map_snd_entries, List.length_map, List.length_map] at hperm
  rw [hperm, List.length_filterMap_eq_countP, List.countP_map]
  rfl

/-- The total of requests counts the tasks that have come to count themselves. -/
theorem totalRequests_eq_countP :
    (runProxy X config now moves).state.store.trafficStats.value .totalRequests =
      UInt64.ofNat ((runProxy X config now moves).threads.countP fun t =>
        ! (ProxyTask.phase t).totalWrites.isEmpty) := by
  rw [runProxy_counter X config now moves (by decide) rfl, countP_eq_sum, ← sum_ofNat]
  refine congrArg List.sum (List.map_congr_left fun t ht => ?_)
  rw [net_eq_writes, (ProxyTask.standing ht).total]
  cases ProxyTask.phase t <;> rfl

end Reachable

/-- Between callbacks, the statistics and the records add up: every request that was counted has a
record, or is a tunnel that ran `handle_connect`; and the store holds every record that was added,
until its bound. The tasks of a run are not dropped midway. -/
theorem totals_reconcile (X : Externals) (config : Config) (now : UInt64)
    (moves : List (Move Job Oracle)) :
    (Quiescent (runProxy X config now moves) →
      ((runProxy X config now moves).state.store.trafficStats.value .totalRequests).toNat =
        ((entries (runProxy X config now moves).log).length +
          (runProxy X config now moves).threads.countP fun t =>
            ran t.trace .handleConnect) % 2 ^ 64) ∧
      (runProxy X config now moves).state.store.networkRecords.length =
        min (entries (runProxy X config now moves).log).length
          (max config.maxNetworkRecords 1) := by
  constructor
  · intro hq
    rw [totalRequests_eq_countP, length_entries, UInt64.toNat_ofNat']
    congr 1
    rw [countP_eq_sum, countP_eq_sum, countP_eq_sum, ← List.sum_map_add]
    refine congrArg List.sum (List.map_congr_left fun t ht => ?_)
    -- Between callbacks, a task that was counted has its record or its tunnel.
    have hcalm := ProxyTask.calm_of_not_inCallback ht (hq t ht)
    rw [(ProxyTask.standing ht).connect]
    generalize ProxyTask.phase t = q at hcalm ⊢
    cases q with
    | idle | drawn | upstream | answered | relaying | closed | sampling => rfl
    | _ => cases hcalm
  · have h := books X config now moves
    rw [h.records, BoundedLog.length_run, appended_toLog, ← map_snd_entries, List.length_map]

namespace Concrete

/-- The proxy after a tunnel was opened and closed and a request went upstream, step by step in
turns. -/
def mixedRun : ProxyPool :=
  runProxy externals config 0
    ([.spawn (.proxied connectRequest 2), .spawn (.intercepted request)] ++
      (List.replicate 14 [.step 0 (oracle .timeout), .step 1 (oracle .timeout)]).flatten)

end Concrete

/-- A tunnel and a request were counted, and one record was added. -/
theorem totals_reconcile_mixed :
    (Concrete.mixedRun.state.store.trafficStats.value .totalRequests).toNat =
        ((entries Concrete.mixedRun.log).length +
          Concrete.mixedRun.threads.countP fun t => ran t.trace .handleConnect) % 2 ^ 64 ∧
      Concrete.mixedRun.state.store.networkRecords.length =
        min (entries Concrete.mixedRun.log).length (max Concrete.config.maxNetworkRecords 1) ∧
      (entries Concrete.mixedRun.log).length = 1 := by
  obtain ⟨hcounted, hkept⟩ := totals_reconcile Concrete.externals Concrete.config 0
    ([.spawn (.proxied Concrete.connectRequest 2), .spawn (.intercepted Concrete.request)] ++
      (List.replicate 14 [.step 0 (Concrete.oracle .timeout),
        .step 1 (Concrete.oracle .timeout)]).flatten)
  exact ⟨hcounted (show Quiescent Concrete.mixedRun by decide +kernel), hkept, by decide +kernel⟩

/-! ## Reports -/

/-- The records `/get_record` shows after a run with the given log. -/
def reported (config : Config) (log : List (ℕ × Event (TaskSig StoreSig))) :
    List NetworkRecord :=
  (contents log).reverse.take (min 10 (max config.maxNetworkRecords 1))

/-- The newest records of a window on a log are the newest ones of the log. -/
theorem take_reverse_window {α : Type} (l : List α) (n m : ℕ) :
    (l.drop (l.length - m)).reverse.take n = l.reverse.take (min n m) := by
  rw [List.reverse_drop, List.take_take, List.take_eq_take_iff, List.length_reverse]
  omega

namespace BifrostServerPlugin

variable {X : Externals} {req : Request} {shown : Trace StoreSig} {response : Response}
  (h : Steps (hostServer X req) shown (.ret (.ok response)))

include h

/-- What `/config` reads and answers. -/
theorem steps_config (hmethod : req.method ≠ .options) (hpath : req.uri.path = "/config".toList) :
    ∃ config : Config, shown = [⟨.getConfig, config⟩] ∧
      response = wrapResponse (.ok (.obj [("port", .num config.port.toNat),
        ("cert_path", .str config.certPath), ("key_path", .str config.keyPath),
        ("enable_https", .bool config.enableHttps)])) := by
  rw [hostServer, if_neg hmethod, if_neg (by rw [hpath]; decide), if_pos hpath] at h
  obtain ⟨config, rest, rfl, hrest⟩ := h.act_ret_inv
  obtain ⟨rfl, hret⟩ := hrest.ret_inv
  cases hret
  exact ⟨config, rfl, rfl⟩

/-- What `/get_record` reads and answers. -/
theorem steps_getRecord (hmethod : req.method ≠ .options)
    (hpath : req.uri.path = "/get_record".toList) :
    ∃ records : List NetworkRecord, shown = [⟨.getNetworkRecords, records⟩] ∧
      response = wrapResponse (((records.reverse.take 10).mapM (showRecord X)).map Json.arr) := by
  rw [hostServer, if_neg hmethod, if_neg (by rw [hpath]; decide), if_neg (by rw [hpath]; decide),
    if_pos hpath] at h
  obtain ⟨records, rest, rfl, hrest⟩ := h.act_ret_inv
  obtain ⟨rfl, hret⟩ := hrest.ret_inv
  cases hret
  exact ⟨records, rfl, rfl⟩

end BifrostServerPlugin

section Reachable

variable {X : Externals} {config : Config} {now : UInt64} {moves : List (Move Job Oracle)} {i : ℕ}
  {t : ProxyTask} (ht : (runProxy X config now moves).threads[i]? = some t)

include ht

/-- The records a task has read are those the store held at that point of the run. -/
theorem records_of_read
    (hdraws : RecordCall.draws (recordCalls (runProxy X config now moves).log) < 2 ^ 64)
    {records : List NetworkRecord} (h : ⟨.getNetworkRecords, records⟩ ∈ readBy t.trace) :
    ∃ before after, (runProxy X config now moves).log =
        before ++ (i, ⟨.callback .handleRequest .getNetworkRecords, records⟩) :: after ∧
      records = (contents before).drop
        ((contents before).length - max config.maxNetworkRecords 1) := by
  obtain ⟨e, he, hread⟩ := List.mem_filterMap.mp h
  obtain rfl := eq_of_readOf hread
  obtain ⟨before, after, hlog⟩ :=
    List.append_of_mem ((System.mem_log_iff _ moves i _).mpr ⟨t, ht, he⟩)
  obtain ⟨moves', ω, -, -, g, -, hbefore, -, -, hperf⟩ := System.log_origin _ _ hlog
  refine ⟨before, after, hlog, ?_⟩
  have hlt : RecordCall.draws (recordCalls before) < 2 ^ 64 := by
    rw [runProxy, hlog] at hdraws
    exact (draws_append_le before _).trans_lt hdraws
  have hexact := networkRecords_eq_contents X config now moves'
  rw [runProxy, hbefore] at hexact
  cases hperf
  exact hexact hlt

end Reachable

/-- What the proxy reports about itself, in every run. `/config` shows the configuration the proxy
was started with. `/get_record` shows the newest ten of the records added before it was read, as far
as the store keeps them, the newest first, as long as fewer than `2 ^ 64` ids are drawn. `OPTIONS`
requests are answered otherwise. -/
theorem reports_exact (X : Externals) (config : Config) (now : UInt64)
    (moves : List (Move Job Oracle))
    (hdraws : RecordCall.draws (recordCalls (runProxy X config now moves).log) < 2 ^ 64) {i : ℕ}
    {t : ProxyTask} (ht : (runProxy X config now moves).threads[i]? = some t)
    {req newReq : Request} (hreq : t.tag.request = some req)
    (hkept : KeptAs X req newReq config.port) (hmethod : newReq.method ≠ .options)
    {response : Response} (hret : t.prog = .ret (some response))
    (hupgrade : Websocket.isWebsocketUpgrade req = false) (hlookup : lookupFailed t.trace = false) :
    (newReq.uri.path = "/config".toList →
      response = BifrostServerPlugin.wrapResponse (.ok (.obj [("port", .num config.port.toNat),
        ("cert_path", .str config.certPath), ("key_path", .str config.keyPath),
        ("enable_https", .bool config.enableHttps)]))) ∧
    (newReq.uri.path = "/get_record".toList →
      ∃ before records after, (runProxy X config now moves).log =
          before ++ (i, ⟨.callback .handleRequest .getNetworkRecords, records⟩) :: after ∧
        response = BifrostServerPlugin.wrapResponse
          (((reported config before).mapM (BifrostServerPlugin.showRecord X)).map Json.arr)) := by
  obtain ⟨shown, hreads, hsteps⟩ :=
    builtin_of_kept (List.mem_of_getElem? ht) hreq hkept hret hupgrade hlookup
  constructor
  · intro hpath
    obtain ⟨c, rfl, rfl⟩ := BifrostServerPlugin.steps_config hsteps hmethod hpath
    obtain rfl : c = config := config_of_read (List.mem_of_getElem? ht) (by simp [hreads])
    rfl
  · intro hpath
    obtain ⟨records, rfl, rfl⟩ := BifrostServerPlugin.steps_getRecord hsteps hmethod hpath
    have hmem : (⟨.getNetworkRecords, records⟩ : Event StoreSig) ∈ readBy t.trace := by
      simp [hreads]
    obtain ⟨before, after, hlog, hrecords⟩ := records_of_read ht hdraws hmem
    refine ⟨before, records, after, hlog, ?_⟩
    rw [hrecords, take_reverse_window, reported]

namespace Concrete

/-- `GET http://127.0.0.1:8080/get_record`. -/
def reportRequest : Request :=
  { request with uri := { ownRequest.uri with
      rawPath := "/get_record"
      path_shape := fun _ => .inr rfl } }

/-- The proxy after a request that went upstream and then one that asks for the records. -/
def reportRun : ProxyPool :=
  runProxy externals config 0
    ([.spawn (.intercepted request), .spawn (.intercepted reportRequest)] ++
      .replicate 13 (.step 0 (oracle .timeout)) ++ .replicate 8 (.step 1 (oracle .timeout)))

end Concrete

/-- A report after one request: what it shows are the records before it was read. -/
theorem reports_exact_one :
    ∃ t response, Concrete.reportRun.threads[1]? = some t ∧ t.prog = .ret (some response) ∧
      ∃ before records after, Concrete.reportRun.log =
          before ++ (1, ⟨.callback .handleRequest .getNetworkRecords, records⟩) :: after ∧
        response = BifrostServerPlugin.wrapResponse (((reported Concrete.config before).mapM
          (BifrostServerPlugin.showRecord Concrete.externals)).map Json.arr) := by
  have hkept : KeptAs Concrete.externals Concrete.reportRequest
      (HttpInterceptor.newRequest Concrete.reportRequest Concrete.reportRequest.uri) 8080 :=
    ⟨⟨_, rfl, rfl⟩, by decide⟩
  refine ⟨_, _, rfl, rfl, ?_⟩
  exact (reports_exact Concrete.externals Concrete.config 0 _
    (show RecordCall.draws (recordCalls Concrete.reportRun.log) < 2 ^ 64 by decide) rfl rfl hkept
    (by decide) rfl rfl (by decide)).2 rfl

end Bifrost
