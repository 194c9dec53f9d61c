import BifrostCore.Correctness.Observation
import BifrostCore.Correctness.RecordLog

/-!
# The records of the running proxy

The record store in the reachable states of the proxy, where the calls on it come from tasks that
draw ids, add records and update them in any interleaving.

* `Books` — the invariant: the record calls of the run keep the discipline of `RecordLog`, and the
  ids of the added records and the unused ids are those the phases of the tasks account for.
* `runProxy_windowOn` — the record store of the proxy is a window on the log of its run.
* `not_retained_of_unspent` — no record carries the id of a tunnel.
-/

namespace Bifrost

open Concurrency

/-- The call on the record store an operation makes. -/
def TaskOp.recordCall (o : TaskOp StoreSig) : Option RecordCall :=
  match o with
  | .nextRequestId => some .draw
  | .callback _ o | .store o =>
    match o with
    | .addNetworkRecord record => some (.add record)
    | .updateNetworkRecordById requestId f => some (.update requestId f)
    | .getNetworkRecords => some .get
    | _ => none
  | _ => none

/-- The calls on the record store in the log of a run. -/
def recordCalls (log : List (ℕ × Event (TaskSig StoreSig))) : List RecordCall :=
  log.filterMap fun entry => entry.2.op.recordCall

namespace Phase

/-- The id a task in this phase has drawn and given to no record. -/
def unspent : Phase → Option UInt64
  | .drawn _ id | .totalled _ id | .admitted _ id | .counted id => some id
  | .relaying id | .metering id _ _ | .noting id | .closing id | .closed id => some id
  | _ => none

/-- The id a task in this phase has given to a record. -/
def spent : Phase → Option UInt64
  | .recorded id | .upstream id | .answered id => some id
  | _ => none

end Phase

/-! ## The invariant -/

/-- What ties the record store to the tasks: `vs` is what the tasks were started as and have done,
and `log` is the log of the run. -/
structure Books (config : Config) (g : Globals) (vs : List (Job × Trace (TaskSig StoreSig)))
    (log : List (ℕ × Event (TaskSig StoreSig))) : Prop where
  /-- The configuration is the initial one. -/
  config_eq : g.store.config = config
  /-- The deque has run the record calls of the log. -/
  records : g.store.networkRecords = BoundedLog.run NetworkRecord.id config.maxNetworkRecords
    ((recordCalls log).filterMap RecordCall.toLog)
  /-- The record calls keep the discipline. -/
  discipline : Discipline .init (recordCalls log)
  /-- The counter is that of the supply. -/
  counter : (IdSupply.init.run (recordCalls log)).counter = g.requestIdCounter
  /-- The unused ids are those of the tasks that have not added a record. -/
  unused : (IdSupply.init.run (recordCalls log)).unused.Perm
    (vs.filterMap fun v => (phaseOf v).unspent)
  /-- The ids of the added records are those of the tasks that have added one. -/
  added : ((RecordCall.added (recordCalls log)).map NetworkRecord.id).Perm
    (vs.filterMap fun v => (phaseOf v).spent)

section Perform

variable {ω : Oracle} {o : TaskOp StoreSig} {r : o.Res} {g g' : Globals}

/-- The configuration after an operation. -/
theorem config_perform (h : perform ω o g = some (r, g')) : g'.store.config = g.store.config := by
  rw [store_perform h]
  cases ho : o.storeOp with
  | none => rfl
  | some o' =>
    cases o' with
    | updateNetworkRecordById requestId f => exact (Store.update_frame _ requestId f).1
    | _ => rfl

/-- The records after an operation are those after the call it makes. -/
theorem networkRecords_perform (h : perform ω o g = some (r, g')) :
    g'.store.networkRecords = (o.recordCall.bind RecordCall.toLog).elim g.store.networkRecords
      (BoundedLog.step NetworkRecord.id g.store.config.maxNetworkRecords
        g.store.networkRecords) := by
  have hstore : ∀ o' : StoreOp, (g.store.perform ω.storeClock o').2.networkRecords =
      ((TaskOp.store o' : TaskOp StoreSig).recordCall.bind RecordCall.toLog).elim
        g.store.networkRecords (BoundedLog.step NetworkRecord.id g.store.config.maxNetworkRecords
          g.store.networkRecords) := by
    intro o'
    cases o' with
    | updateNetworkRecordById requestId f => exact Store.networkRecords_update _ _ _
    | _ => rfl
  rw [store_perform h]
  -- The store does not know whether an operation is made inside a callback.
  cases o with
  | callback cb o' => exact hstore o'
  | store o' => exact hstore o'
  | _ => rfl

end Perform

theorem Books.init (config : Config) (now : UInt64) :
    Books config (.init (.fresh config now)) [] [] where
  config_eq := rfl
  records := rfl
  discipline := trivial
  counter := rfl
  unused := .refl _
  added := .refl _

/-- A new task has not drawn an id. -/
theorem Books.spawn {config : Config} {g : Globals} {vs : List (Job × Trace (TaskSig StoreSig))}
    {log : List (ℕ × Event (TaskSig StoreSig))} (h : Books config g vs log) (job : Job) :
    Books config g (vs ++ [(job, [])]) log := by
  have hnone : (phaseOf (job, [])).unspent = none ∧ (phaseOf (job, [])).spent = none := by
    show (Ledger.start job).unspent = none ∧ (Ledger.start job).spent = none
    unfold Ledger.start
    split
    · split <;> exact ⟨rfl, rfl⟩
    · exact ⟨rfl, rfl⟩
    · exact ⟨rfl, rfl⟩
  refine { h with unused := ?_, added := ?_ }
  · simpa [hnone] using h.unused
  · simpa [hnone] using h.added

section Step

variable {config : Config} {ω : Oracle} {g g' : Globals}
  {l r : List (Job × Trace (TaskSig StoreSig))} {k : Job} {tr : Trace (TaskSig StoreSig)}
  {log : List (ℕ × Event (TaskSig StoreSig))} {o : TaskOp StoreSig} {a : o.Res}

theorem recordCalls_snoc (log : List (ℕ × Event (TaskSig StoreSig))) (i : ℕ)
    (e : Event (TaskSig StoreSig)) :
    recordCalls (log ++ [(i, e)]) = recordCalls log ++ e.op.recordCall.toList := by
  cases h : e.op.recordCall <;> simp [recordCalls, h]

/-- The supply after one more operation. -/
theorem supply_snoc (log : List (ℕ × Event (TaskSig StoreSig))) (i : ℕ)
    (e : Event (TaskSig StoreSig)) :
    IdSupply.init.run (recordCalls (log ++ [(i, e)])) =
      e.op.recordCall.elim (IdSupply.init.run (recordCalls log))
        (IdSupply.init.run (recordCalls log)).step := by
  rw [recordCalls_snoc]
  cases e.op.recordCall <;> simp [IdSupply.run]

/-- The records added with one more operation. -/
theorem added_snoc (log : List (ℕ × Event (TaskSig StoreSig))) (i : ℕ)
    (e : Event (TaskSig StoreSig)) :
    RecordCall.added (recordCalls (log ++ [(i, e)])) =
      RecordCall.added (recordCalls log) ++ RecordCall.added e.op.recordCall.toList := by
  rw [recordCalls_snoc]
  exact List.filterMap_append

/-- The ids the tasks account for, those of the acting task between those of the others. -/
theorem filterMap_views (f : Phase → Option UInt64) (v : Job × Trace (TaskSig StoreSig)) :
    (l ++ v :: r).filterMap (fun v => f (phaseOf v)) =
      l.filterMap (fun v => f (phaseOf v)) ++
        ((f (phaseOf v)).toList ++ r.filterMap fun v => f (phaseOf v)) := by
  rw [List.filterMap_append, List.filterMap_cons]
  cases f (phaseOf v) <;> rfl

/-- The record store keeps up with the log, whatever the operation. -/
theorem Books.records_step (h : Books config g (l ++ (k, tr) :: r) log)
    (hperf : perform ω o g = some (a, g')) (i : ℕ) :
    g'.store.networkRecords = BoundedLog.run NetworkRecord.id config.maxNetworkRecords
      ((recordCalls (log ++ [(i, ⟨o, a⟩)])).filterMap RecordCall.toLog) := by
  rw [networkRecords_perform hperf, h.config_eq, h.records, recordCalls_snoc,
    List.filterMap_append]
  cases hc : o.recordCall with
  | none => simp
  | some c =>
    -- Of the calls, only adds and updates are calls of the bounded log.
    cases hl : c.toLog with
    | none => simp [hl]
    | some d => simp [hl, BoundedLog.run_snoc]

/-- The books are kept by an operation whose call the supply permits, if the supply and the added
records after it are those the phases account for. -/
theorem Books.snoc (h : Books config g (l ++ (k, tr) :: r) log)
    (hperf : perform ω o g = some (a, g'))
    (hpermits : ∀ c ∈ o.recordCall, (IdSupply.init.run (recordCalls log)).Permits c)
    (hcounter : (o.recordCall.elim (IdSupply.init.run (recordCalls log))
      (IdSupply.init.run (recordCalls log)).step).counter = g'.requestIdCounter)
    (hunused : (o.recordCall.elim (IdSupply.init.run (recordCalls log))
        (IdSupply.init.run (recordCalls log)).step).unused.Perm
      (l.filterMap (fun v => (phaseOf v).unspent) ++
        ((Ledger.next (phaseOf (k, tr)) o a).unspent.toList ++
          r.filterMap fun v => (phaseOf v).unspent)))
    (hadded : ((RecordCall.added (recordCalls log) ++
        RecordCall.added o.recordCall.toList).map NetworkRecord.id).Perm
      (l.filterMap (fun v => (phaseOf v).spent) ++
        ((Ledger.next (phaseOf (k, tr)) o a).spent.toList ++
          r.filterMap fun v => (phaseOf v).spent))) :
    Books config g' (l ++ (k, tr ++ [⟨o, a⟩]) :: r) (log ++ [(l.length, ⟨o, a⟩)]) := by
  have hphase : phaseOf (k, tr ++ [⟨o, a⟩]) = Ledger.next (phaseOf (k, tr)) o a :=
    Protocol.after_snoc ledger _ tr ⟨o, a⟩
  refine
    { config_eq := (config_perform hperf).trans h.config_eq
      records := h.records_step hperf l.length
      discipline := ?_
      counter := by rw [supply_snoc, hcounter]
      unused := by rw [supply_snoc, filterMap_views, hphase]; exact hunused
      added := by rw [added_snoc, filterMap_views, hphase]; exact hadded }
  -- The calls so far follow the discipline, so only the new one is checked.
  rw [recordCalls_snoc]
  cases hc : o.recordCall with
  | none => simpa using h.discipline
  | some c => exact (discipline_snoc _ _ c).mpr ⟨h.discipline, hpermits c hc⟩

/-- A call that neither draws an id nor adds a record. -/
def RecordCall.Passive : RecordCall → Prop
  | .update _ f => NetworkRecord.KeepsId f
  | .get => True
  | .draw | .add _ => False

/-- A passive call leaves the supply and the added records as they are. -/
theorem RecordCall.Passive.same {c : RecordCall} (h : c.Passive) (s : IdSupply) :
    s.Permits c ∧ s.step c = s ∧ RecordCall.added [c] = [] := by
  cases c with
  | draw => cases h
  | add record => cases h
  | update requestId f => exact ⟨h, rfl, rfl⟩
  | get => exact ⟨trivial, rfl, rfl⟩

/-- An operation that neither draws an id nor adds a record keeps the books, if the task keeps what
it has drawn and spent. -/
theorem Books.keep (h : Books config g (l ++ (k, tr) :: r) log)
    (hperf : perform ω o g = some (a, g')) (hpassive : ∀ c ∈ o.recordCall, c.Passive)
    (hunspent : (Ledger.next (phaseOf (k, tr)) o a).unspent = (phaseOf (k, tr)).unspent)
    (hspent : (Ledger.next (phaseOf (k, tr)) o a).spent = (phaseOf (k, tr)).spent) :
    Books config g' (l ++ (k, tr ++ [⟨o, a⟩]) :: r) (log ++ [(l.length, ⟨o, a⟩)]) := by
  have hcounter : g'.requestIdCounter = g.requestIdCounter := by
    rw [requestIdCounter_perform hperf, if_neg]
    cases o with
    | nextRequestId => exact fun _ => hpassive .draw rfl
    | _ => simp
  have hunused := h.unused
  have hadded := h.added
  rw [filterMap_views] at hunused hadded
  -- Neither the supply nor the added records move, whether a call is made or none.
  have hsupply : o.recordCall.elim (IdSupply.init.run (recordCalls log))
      (IdSupply.init.run (recordCalls log)).step = IdSupply.init.run (recordCalls log) := by
    cases hc : o.recordCall with
    | none => rfl
    | some c => exact ((hpassive c hc).same _).2.1
  have hnone : RecordCall.added o.recordCall.toList = [] := by
    cases hc : o.recordCall with
    | none => rfl
    | some c => exact ((hpassive c hc).same .init).2.2
  refine h.snoc hperf (fun c hc => ((hpassive c hc).same _).1) ?_ ?_ ?_
  · rw [hsupply, h.counter, hcounter]
  · rw [hsupply, hunspent]
    exact hunused
  · rw [hnone, hspent, List.append_nil]
    exact hadded

/-- A draw puts an id into the supply. -/
theorem Books.draw (h : Books config g (l ++ (k, tr) :: r) log) {id : UInt64} {flow : Flow}
    (hq : phaseOf (k, tr) = .idle flow)
    (hperf : perform ω .nextRequestId g = some (id, g')) :
    Books config g' (l ++ (k, tr ++ [⟨.nextRequestId, id⟩]) :: r)
      (log ++ [(l.length, ⟨.nextRequestId, id⟩)]) := by
  have hunused := h.unused
  have hadded := h.added
  rw [filterMap_views, hq] at hunused hadded
  have hdraw := hperf
  obtain ⟨rfl, rfl⟩ : g.requestIdCounter = id ∧
      { g with requestIdCounter := g.requestIdCounter + 1 } = g' := by
    simpa [perform] using hdraw
  refine h.snoc hperf ?_ ?_ ?_ ?_
  · rintro c ⟨⟩
    trivial
  · show (IdSupply.init.run (recordCalls log)).counter + 1 = _
    rw [h.counter]
  · rw [hq]
    show (_ ++ [(IdSupply.init.run (recordCalls log)).counter]).Perm (_ ++ _ :: _)
    rw [h.counter]
    refine (hunused.append_right _).trans ?_
    -- The new id is moved from the end to the place of its task.
    rw [List.append_assoc]
    exact .append_left _ (List.perm_append_singleton _ _)
  · rw [hq]
    show ((RecordCall.added (recordCalls log) ++ []).map NetworkRecord.id).Perm _
    rw [List.append_nil]
    exact hadded

/-- An add takes the id of its record out of the supply. -/
theorem Books.add (h : Books config g (l ++ (k, tr) :: r) log) {record : NetworkRecord}
    {u : Unit} (hq : phaseOf (k, tr) = .counted record.id)
    (hperf : perform ω (.callback .handleRequest (.addNetworkRecord record)) g = some (u, g')) :
    Books config g'
      (l ++ (k, tr ++ [⟨.callback .handleRequest (.addNetworkRecord record), u⟩]) :: r)
      (log ++ [(l.length, ⟨.callback .handleRequest (.addNetworkRecord record), u⟩)]) := by
  have hcounter : g'.requestIdCounter = g.requestIdCounter := requestIdCounter_perform hperf
  have hunused := h.unused
  have hadded := h.added
  rw [filterMap_views, hq] at hunused hadded
  refine h.snoc hperf ?_ ?_ ?_ ?_
  · rintro c ⟨⟩
    exact hunused.mem_iff.mpr (List.mem_append_right _ List.mem_cons_self)
  · show (IdSupply.init.run (recordCalls log)).counter = _
    rw [h.counter, hcounter]
  · rw [hq]
    show ((IdSupply.init.run (recordCalls log)).unused.erase record.id).Perm _
    -- The id of the task is moved to the front, where the add takes it away.
    refine ((hunused.trans List.perm_middle).erase record.id).trans ?_
    rw [List.erase_cons_head]
    exact .refl _
  · rw [hq]
    show ((RecordCall.added (recordCalls log) ++ [record]).map NetworkRecord.id).Perm (_ ++ _ :: _)
    rw [List.map_append]
    refine (hadded.append_right _).trans ?_
    rw [List.append_assoc]
    exact .append_left _ (List.perm_append_singleton _ _)

/-- A quiet operation at most reads the records. -/
theorem TaskOp.Quiet.recordCall_eq (ho : o.Quiet) :
    o.recordCall = none ∨ o.recordCall = some .get := by
  cases o with
  | callback cb o' =>
    have hread := ho.2
    cases o' with
    | getNetworkRecords => exact .inr rfl
    | addNetworkRecord | updateNetworkRecordById => cases hread
    | _ => exact .inl rfl
  | store o' =>
    cases o' with
    | getNetworkRecords => exact .inr rfl
    | addNetworkRecord | updateNetworkRecordById => cases ho
    | _ => exact .inl rfl
  | nextRequestId => cases ho
  | _ => exact .inl rfl

theorem Books.quiet (h : Books config g (l ++ (k, tr) :: r) log)
    (hperf : perform ω o g = some (a, g')) (ho : o.Quiet)
    (hq : Ledger.next (phaseOf (k, tr)) o a = phaseOf (k, tr)) :
    Books config g' (l ++ (k, tr ++ [⟨o, a⟩]) :: r) (log ++ [(l.length, ⟨o, a⟩)]) := by
  refine h.keep hperf (fun c hc => ?_) (by rw [hq]) (by rw [hq])
  obtain hnone | hget := ho.recordCall_eq
  · rw [hnone] at hc
    cases hc
  · rw [hget] at hc
    cases hc
    trivial

/-- An operation the ledger allows keeps the books. -/
theorem Books.step (h : Books config g (l ++ (k, tr) :: r) log)
    (hall : Ledger.Allows (phaseOf (k, tr)) o) (hperf : perform ω o g = some (a, g')) :
    Books config g' (l ++ (k, tr ++ [⟨o, a⟩]) :: r) (log ++ [(l.length, ⟨o, a⟩)]) := by
  generalize hq : phaseOf (k, tr) = q at hall
  cases hall with
  | quiet_idle ho => exact h.quiet hperf ho (by rw [hq, Ledger.next_quiet_idle ho])
  | quiet_drawn ho => exact h.quiet hperf ho (by rw [hq, Ledger.next_quiet_drawn ho])
  | draw => exact h.draw hq hperf
  | add hid _ => exact h.add (hid ▸ hq) hperf
  -- The three updates of the plugins keep the id of the record they are applied to.
  | mark =>
    refine h.keep hperf ?_ (by rw [hq]; rfl) (by rw [hq]; rfl)
    rintro c ⟨⟩
    exact NetStorage.markSending_keepsId
  | note hf =>
    refine h.keep hperf ?_ (by rw [hq]; rfl) (by rw [hq]; rfl)
    rintro c ⟨⟩
    exact hf
  | cancel =>
    refine h.keep hperf ?_ (by rw [hq]; rfl) (by rw [hq]; rfl)
    rintro c ⟨⟩
    exact NetStorage.markClosed_keepsId
  | @select id =>
    have hselect : (Ledger.afterSelect id a).unspent = some id ∧
        (Ledger.afterSelect id a).spent = none := by
      obtain ⟨hafter, -⟩ | ⟨direction, n, hafter, -⟩ := Ledger.afterSelect_cases id a
      · rw [hafter]; exact ⟨rfl, rfl⟩
      · rw [hafter]; exact ⟨rfl, rfl⟩
    refine h.keep hperf (fun c hc => nomatch hc) ?_ ?_
    · rw [hq]; exact hselect.1
    · rw [hq]; exact hselect.2
  | _ => exact h.keep hperf (fun c hc => nomatch hc) (by rw [hq]; rfl) (by rw [hq]; rfl)

end Step

/-! ## The running proxy -/

section Reachable

variable (X : Externals) (config : Config) (now : UInt64) (moves : List (Move Job Oracle))

/-- The books are kept in every reachable state. -/
theorem books :
    Books config (runProxy X config now moves).state
      ((runProxy X config now moves).threads.map Thread.view)
      (runProxy X config now moves).log :=
  System.protocol_induction ledger (Ledger.program_follows X)
    (C := Books config) (Books.init config now) (fun _ _ _ job h => h.spawn job)
    (fun _ _ _ _ _ _ _ _ _ _ _ hall hperf h => h.step hall hperf) moves

/-- The record store of the running proxy is a window on the log of its calls. -/
theorem runProxy_windowOn
    (hdraws : RecordCall.draws (recordCalls (runProxy X config now moves).log) < 2 ^ 64) :
    WindowOn (runProxy X config now moves).state.store
      (RecordCall.log (recordCalls (runProxy X config now moves).log)) := by
  have h := books X config now moves
  refine windowOn_log ?_ h.discipline hdraws
  rw [h.config_eq]
  exact h.records

/-- With fewer than `2 ^ 64` draws, an id a task has not given to a record is the id of none. -/
theorem not_added_of_unspent
    (hdraws : RecordCall.draws (recordCalls (runProxy X config now moves).log) < 2 ^ 64)
    {t : ProxyTask} (ht : t ∈ (runProxy X config now moves).threads)
    {id : UInt64} (hid : (ProxyTask.phase t).unspent = some id) :
    id ∉ (RecordCall.added (recordCalls (runProxy X config now moves).log)).map
      NetworkRecord.id := by
  have h := books X config now moves
  -- The drawn ids are distinct, so an unused one is not the id of an added record.
  have hnodup := (perm_drawn h.discipline).2.nodup_iff.mpr (nodup_drawnIds hdraws.le)
  have hunused : id ∈ (IdSupply.init.run
      (recordCalls (runProxy X config now moves).log)).unused := by
    rw [h.unused.mem_iff, List.mem_filterMap]
    exact ⟨t.view, List.mem_map_of_mem ht, hid⟩
  exact fun hadded => (List.nodup_append.mp hnodup).2.2 id hadded id hunused rfl

/-- The id of a retained record is the id of an added one. -/
theorem added_of_retained
    (hdraws : RecordCall.draws (recordCalls (runProxy X config now moves).log) < 2 ^ 64)
    {r : NetworkRecord} (hr : r ∈ (runProxy X config now moves).state.store.networkRecords) :
    r.id ∈ (RecordCall.added (recordCalls (runProxy X config now moves).log)).map
      NetworkRecord.id := by
  have h := books X config now moves
  -- Retained records are in the log, whose ids are those of the added records.
  have hlog := (runProxy_windowOn X config now moves hdraws).suffix.subset hr
  have hid := List.mem_map_of_mem (f := NetworkRecord.id) hlog
  rwa [RecordCall.log, BoundedLog.map_key_history h.discipline.keepsKey, appended_toLog] at hid

/-- With fewer than `2 ^ 64` draws, no record carries an id that was not given to one: the id of a
tunnel, or that of a request which has not been recorded yet. -/
theorem not_retained_of_unspent
    (hdraws : RecordCall.draws (recordCalls (runProxy X config now moves).log) < 2 ^ 64)
    {t : ProxyTask} (ht : t ∈ (runProxy X config now moves).threads)
    {id : UInt64} (hid : (ProxyTask.phase t).unspent = some id) :
    ∀ r ∈ (runProxy X config now moves).state.store.networkRecords, r.id ≠ id :=
  fun _ hr heq => not_added_of_unspent X config now moves hdraws ht hid
    (heq ▸ added_of_retained X config now moves hdraws hr)

end Reachable

end Bifrost
