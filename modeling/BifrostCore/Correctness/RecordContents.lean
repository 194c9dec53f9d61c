import BifrostCore.Correctness.Outcomes

/-!
# What the record store holds

The contents of the record store in the reachable states of the proxy, record by record. A record
is added by the task of a request, as the request is sent upstream, and marked by the same task; no
other update ever reaches it. So the log of a run determines what the store holds.

* `entries`, `contents` — the records added in a run with the tasks that added them, and what has
  become of them.
* `log_eq_contents` — the append-only log of the record store is `contents`.
* `records_exact` — the store holds the newest part of it, as long as the bound allows, and every
  record in it is that of one request that went upstream.
-/

namespace Bifrost

open Concurrency

/-! ## Entries and marks -/

/-- The record an operation adds. -/
def TaskOp.adds (o : TaskOp StoreSig) : Option NetworkRecord :=
  o.recordCall.bind fun c => match c with
    | .add record => some record
    | _ => none

/-- The operation marks a record as sending. -/
def TaskOp.marks : TaskOp StoreSig → Bool
  | .callback .handleRequest (.updateNetworkRecordById _ _) => true
  | _ => false

section Log

variable (log : List (ℕ × Event (TaskSig StoreSig)))

/-- The records added in a run, each with the task that added it. -/
def entries : List (ℕ × NetworkRecord) :=
  log.filterMap fun x => x.2.op.adds.map fun record => (x.1, record)

/-- A task has marked its record. -/
def hasMarked (i : ℕ) : Bool := log.any fun x => x.1 = i && x.2.op.marks

/-- What has become of an added record. -/
def shownEntry (x : ℕ × NetworkRecord) : NetworkRecord :=
  if hasMarked log x.1 then NetStorage.markSending x.2 else x.2

/-- The added records, as they are now. -/
def contents : List NetworkRecord := (entries log).map (shownEntry log)

end Log

section Snoc

variable {log : List (ℕ × Event (TaskSig StoreSig))} {i : ℕ} {e : Event (TaskSig StoreSig)}

theorem entries_snoc : entries (log ++ [(i, e)]) =
    entries log ++ (e.op.adds.map fun record => (i, record)).toList := by
  cases h : e.op.adds <;> simp [entries, h]

theorem hasMarked_snoc (j : ℕ) :
    hasMarked (log ++ [(i, e)]) j = (hasMarked log j || (i = j && e.op.marks)) := by
  simp [hasMarked]

theorem shownEntry_id (log : List (ℕ × Event (TaskSig StoreSig))) (x : ℕ × NetworkRecord) :
    (shownEntry log x).id = x.2.id := by
  unfold shownEntry
  split <;> rfl

theorem shownEntry_snoc (x : ℕ × NetworkRecord) (hmarks : e.op.marks = false) :
    shownEntry (log ++ [(i, e)]) x = shownEntry log x := by
  rw [shownEntry, hasMarked_snoc, hmarks, Bool.and_false, Bool.or_false]
  rfl

/-- A longer run has drawn at least as many ids. -/
theorem draws_append_le (log log' : List (ℕ × Event (TaskSig StoreSig))) :
    RecordCall.draws (recordCalls log) ≤ RecordCall.draws (recordCalls (log ++ log')) := by
  rw [recordCalls, recordCalls, RecordCall.draws, RecordCall.draws, List.filterMap_append,
    List.countP_append]
  exact Nat.le_add_right _ _

/-- The added records are those of the record calls. -/
theorem map_snd_entries (log : List (ℕ × Event (TaskSig StoreSig))) :
    (entries log).map Prod.snd = RecordCall.added (recordCalls log) := by
  rw [entries, recordCalls, RecordCall.added, List.map_filterMap, List.filterMap_filterMap]
  refine List.filterMap_congr fun x _ => ?_
  unfold TaskOp.adds
  rcases x.2.op.recordCall with _ | c
  · rfl
  · cases c <;> rfl

end Snoc

/-! ## One more operation -/

section Step

variable {log : List (ℕ × Event (TaskSig StoreSig))} {i : ℕ} {e : Event (TaskSig StoreSig)}
  (h : RecordCall.log (recordCalls log) = contents log)

include h

/-- An operation off the log of the records. -/
theorem contents_keep (hcall : e.op.recordCall.bind RecordCall.toLog = none)
    (hadds : e.op.adds = none) (hmarks : e.op.marks = false) :
    RecordCall.log (recordCalls (log ++ [(i, e)])) = contents (log ++ [(i, e)]) := by
  have hlog : RecordCall.log (recordCalls (log ++ [(i, e)])) =
      RecordCall.log (recordCalls log) := by
    rw [recordCalls_snoc, RecordCall.log, List.filterMap_append]
    cases hc : e.op.recordCall with
    | none => simp [RecordCall.log]
    | some c =>
      rw [hc] at hcall
      have hnone : c.toLog = none := hcall
      simp [RecordCall.log, hnone]
  rw [hlog, h, contents, contents, entries_snoc, hadds]
  simp [shownEntry_snoc _ hmarks]

/-- A record that is added by a task that has marked none. -/
theorem contents_add {record : NetworkRecord}
    (hop : e.op = .callback .handleRequest (.addNetworkRecord record))
    (hmarked : hasMarked log i = false) :
    RecordCall.log (recordCalls (log ++ [(i, e)])) = contents (log ++ [(i, e)]) := by
  have hmarks : e.op.marks = false := by rw [hop]; rfl
  have hlog : RecordCall.log (recordCalls (log ++ [(i, e)])) =
      RecordCall.log (recordCalls log) ++ [record] := by
    rw [recordCalls_snoc, hop, RecordCall.log, List.filterMap_append]
    exact BoundedLog.history_append _ _
  have hadds : e.op.adds = some record := by rw [hop]; rfl
  have hold : ∀ x ∈ entries log, shownEntry (log ++ [(i, e)]) x = shownEntry log x :=
    fun x _ => shownEntry_snoc x hmarks
  have hnew : shownEntry (log ++ [(i, e)]) (i, record) = record := by
    rw [shownEntry_snoc _ hmarks, shownEntry, hmarked]
    rfl
  rw [hlog, h, contents, contents, entries_snoc, hadds, List.map_append, List.map_congr_left hold]
  simp [hnew]

/-- The log of the records after an update. -/
theorem log_update {id : UInt64} {f : NetworkRecord → NetworkRecord}
    (hcall : e.op.recordCall = some (.update id f)) :
    RecordCall.log (recordCalls (log ++ [(i, e)])) =
      (contents log).map (BoundedLog.touch NetworkRecord.id id f) := by
  rw [recordCalls_snoc, hcall, ← h, RecordCall.log, List.filterMap_append]
  exact BoundedLog.history_modify _ _ _

/-- A task marks its own record and no other. -/
theorem contents_mark {id : UInt64}
    (hop : e.op = .callback .handleRequest (.updateNetworkRecordById id NetStorage.markSending))
    (hmarked : hasMarked log i = false)
    (hown : ∀ x ∈ entries log, x.2.id = id ↔ x.1 = i) :
    RecordCall.log (recordCalls (log ++ [(i, e)])) = contents (log ++ [(i, e)]) := by
  have hadds : e.op.adds = none := by rw [hop]; rfl
  rw [log_update h (by rw [hop]; rfl), contents, contents, entries_snoc, hadds, List.map_map]
  simp only [Option.map_none, Option.toList_none, List.append_nil]
  refine List.map_congr_left fun x hx => ?_
  have hid := hown x hx
  rw [Function.comp_apply, BoundedLog.touch, shownEntry_id, shownEntry, shownEntry,
    hasMarked_snoc, hop]
  by_cases hi : x.1 = i
  · simp [hid, hi, hmarked, TaskOp.marks]
  · simp [hid, hi, Ne.symm hi]

/-- An update that is addressed to no added record. -/
theorem contents_miss {id : UInt64} {f : NetworkRecord → NetworkRecord}
    (hcall : e.op.recordCall = some (.update id f)) (hadds : e.op.adds = none)
    (hmarks : e.op.marks = false) (hmiss : ∀ x ∈ entries log, x.2.id ≠ id) :
    RecordCall.log (recordCalls (log ++ [(i, e)])) = contents (log ++ [(i, e)]) := by
  rw [log_update h hcall, contents, contents, entries_snoc, hadds, List.map_map]
  simp only [Option.map_none, Option.toList_none, List.append_nil]
  refine List.map_congr_left fun x hx => ?_
  rw [Function.comp_apply, shownEntry_snoc _ hmarks]
  exact BoundedLog.touch_of_ne (by rw [shownEntry_id]; exact hmiss x hx)

end Step

/-- A quiet operation does nothing to the log of the records. -/
theorem TaskOp.Quiet.off_log {o : TaskOp StoreSig} (h : o.Quiet) :
    o.recordCall.bind RecordCall.toLog = none ∧ o.adds = none ∧ o.marks = false := by
  cases o with
  | callback cb o =>
    obtain ⟨rfl, hread⟩ := h
    cases o with
    | getConfig | getNetworkRecords | load | now => exact ⟨rfl, rfl, rfl⟩
    | _ => cases hread
  | store o =>
    cases o with
    | getConfig | getNetworkRecords | load | now => exact ⟨rfl, rfl, rfl⟩
    | _ => cases h
  | _ => exact ⟨rfl, rfl, rfl⟩

/-! ## What the phase of a task says -/

/-- A request in this phase has marked its record. -/
def Phase.isMarked : Phase → Bool
  | .upstream _ | .answered _ => true
  | _ => false

/-- What the phase of a task says about the records it added and marked. -/
structure Recording (q : Phase) (tr : Trace (TaskSig StoreSig)) : Prop where
  added : (tr.filterMap fun e => e.op.adds).map NetworkRecord.id = q.spent.toList
  marked : tr.any (fun e => e.op.marks) = q.isMarked

namespace Recording

theorem start (job : Job) : Recording (Ledger.start job) [] := by
  unfold Ledger.start
  split
  · split <;> exact ⟨rfl, rfl⟩
  · exact ⟨rfl, rfl⟩
  · exact ⟨rfl, rfl⟩

theorem snoc {q q' : Phase} {tr : Trace (TaskSig StoreSig)} {e : Event (TaskSig StoreSig)}
    (h : Recording q tr) (hadded : q'.spent.toList =
      q.spent.toList ++ (e.op.adds.map NetworkRecord.id).toList)
    (hmarked : q'.isMarked = (q.isMarked || e.op.marks)) : Recording q' (tr ++ [e]) where
  added := by
    rw [hadded, ← h.added]
    cases ha : e.op.adds <;> simp [ha]
  marked := by rw [hmarked, ← h.marked]; simp

theorem quiet {q : Phase} {tr : Trace (TaskSig StoreSig)} {e : Event (TaskSig StoreSig)}
    (h : Recording q tr) (he : e.op.Quiet) : Recording q (tr ++ [e]) := by
  obtain ⟨-, hadds, hmarks⟩ := he.off_log
  exact h.snoc (by simp [hadds]) (by simp [hmarks])

theorem step {q : Phase} {tr : Trace (TaskSig StoreSig)} {o : TaskOp StoreSig} (r : o.Res)
    (ho : Ledger.Allows q o) (h : Recording q tr) :
    Recording (Ledger.next q o r) (tr ++ [⟨o, r⟩]) := by
  cases ho with
  | quiet_idle ho =>
    rw [Ledger.next_quiet_idle ho]
    exact h.quiet ho
  | quiet_drawn ho =>
    rw [Ledger.next_quiet_drawn ho]
    exact h.quiet ho
  | @select id =>
    show Recording (Ledger.afterSelect id r) _
    obtain ⟨hq, -⟩ | ⟨direction, n, hq, -⟩ := Ledger.afterSelect_cases id r
    · rw [hq]
      exact h.snoc rfl rfl
    · rw [hq]
      exact h.snoc rfl rfl
  | add hid _ =>
    subst hid
    exact h.snoc rfl rfl
  | _ => exact h.snoc rfl rfl

end Recording

/-- What an operation of a task does to the log of the records: nothing; or it adds or marks the
record of a request; or it is an update of a tunnel, addressed to an id no record carries. -/
theorem Ledger.log_cases {q : Phase} {o : TaskOp StoreSig} (h : Allows q o) :
    (o.recordCall.bind RecordCall.toLog = none ∧ o.adds = none ∧ o.marks = false) ∨
      (∃ record : NetworkRecord, q = .counted record.id ∧
        o = .callback .handleRequest (.addNetworkRecord record)) ∨
      (∃ id, q = .recorded id ∧
        o = .callback .handleRequest (.updateNetworkRecordById id NetStorage.markSending)) ∨
      ∃ id f, q.unspent = some id ∧ o.recordCall = some (.update id f) ∧ o.adds = none ∧
        o.marks = false := by
  cases h with
  | quiet_idle ho => exact .inl ho.off_log
  | quiet_drawn ho => exact .inl ho.off_log
  | add hid _ =>
    subst hid
    exact .inr (.inl ⟨_, rfl, rfl⟩)
  | mark => exact .inr (.inr (.inl ⟨_, rfl, rfl⟩))
  | note => exact .inr (.inr (.inr ⟨_, _, rfl, rfl, rfl, rfl⟩))
  | cancel => exact .inr (.inr (.inr ⟨_, _, rfl, rfl, rfl, rfl⟩))
  | _ => exact .inl ⟨rfl, rfl, rfl⟩

/-! ## The running proxy -/

section Reachable

variable (X : Externals) (config : Config) (now : UInt64) (moves : List (Move Job Oracle))
  {i : ℕ} {t : ProxyTask} (ht : (runProxy X config now moves).threads[i]? = some t)

/-- The ids of the entries are pairwise distinct. -/
theorem nodup_entries
    (hdraws : RecordCall.draws (recordCalls (runProxy X config now moves).log) < 2 ^ 64) :
    ((entries (runProxy X config now moves).log).map fun x => x.2.id).Nodup := by
  have hnodup := nodup_added (books X config now moves).discipline hdraws
  rwa [← map_snd_entries, List.map_map] at hnodup

include ht

theorem recording : Recording (ProxyTask.phase t) t.trace :=
  (System.permits ledger (Ledger.program_follows X) _ moves t (List.mem_of_getElem? ht)).induction
    (Recording.start t.tag) fun _ _ _ r hall h => h.step r hall

/-- The entries of a task are the records it has added. -/
theorem mem_entries_iff {record : NetworkRecord} :
    (i, record) ∈ entries (runProxy X config now moves).log ↔
      record ∈ t.trace.filterMap fun e => e.op.adds := by
  rw [System.trace_eq ht]
  simp only [entries, List.mem_filterMap, Option.map_eq_some_iff, Prod.mk.injEq,
    System.mem_logOf, runProxy]
  constructor
  · rintro ⟨⟨j, e⟩, he, r, hr, rfl, rfl⟩
    exact ⟨e, he, hr⟩
  · rintro ⟨e, he, hr⟩
    exact ⟨(i, e), he, record, hr, rfl, rfl⟩

/-- The record of an entry carries the id of its task. -/
theorem spent_of_entry {record : NetworkRecord}
    (h : (i, record) ∈ entries (runProxy X config now moves).log) :
    (ProxyTask.phase t).spent = some record.id := by
  have hid := List.mem_map_of_mem (f := NetworkRecord.id)
    ((mem_entries_iff X config now moves ht).mp h)
  rw [(recording X config now moves ht).added] at hid
  exact Option.mem_toList.mp hid

/-- A task that has given its id to a record has an entry. -/
theorem entry_of_spent {id : UInt64} (h : (ProxyTask.phase t).spent = some id) :
    ∃ record, (i, record) ∈ entries (runProxy X config now moves).log ∧ record.id = id := by
  have hid : id ∈ (t.trace.filterMap fun e => e.op.adds).map NetworkRecord.id := by
    rw [(recording X config now moves ht).added, h]
    exact List.mem_singleton_self id
  obtain ⟨record, hrecord, rfl⟩ := List.mem_map.mp hid
  exact ⟨record, (mem_entries_iff X config now moves ht).mpr hrecord, rfl⟩

/-- The phase of a task says whether it has marked its record. -/
theorem hasMarked_eq :
    hasMarked (runProxy X config now moves).log i = (ProxyTask.phase t).isMarked := by
  rw [← (recording X config now moves ht).marked, System.trace_eq ht, System.logOf, hasMarked,
    List.any_filterMap]
  refine congrArg (List.any _) (funext fun x => ?_)
  by_cases hx : x.1 = i <;> simp [hx]

end Reachable

section Reachable

variable (X : Externals) (config : Config) (now : UInt64) (moves : List (Move Job Oracle))

/-- An entry is of a task that has added it. -/
theorem task_of_entry {x : ℕ × NetworkRecord}
    (hx : x ∈ entries (runProxy X config now moves).log) :
    ∃ t, (runProxy X config now moves).threads[x.1]? = some t ∧
      ∃ e ∈ t.trace, e.op.adds = some x.2 := by
  obtain ⟨⟨i, e⟩, he, hadds⟩ := List.mem_filterMap.mp hx
  obtain ⟨record, hrecord, rfl⟩ := Option.map_eq_some_iff.mp hadds
  obtain ⟨t, hget, hmem⟩ := (System.mem_log_iff _ moves i e).mp he
  exact ⟨t, hget, e, hmem, hrecord⟩

/-- No task has two entries. -/
theorem nodup_fst_entries
    (hdraws : RecordCall.draws (recordCalls (runProxy X config now moves).log) < 2 ^ 64) :
    ((entries (runProxy X config now moves).log).map Prod.fst).Nodup := by
  have hnodup := nodup_entries X config now moves hdraws
  refine List.Nodup.map_on ?_ hnodup.of_map
  rintro ⟨i, record⟩ hx ⟨j, record'⟩ hy rfl
  -- Both records carry the one id the task has given to a record.
  obtain ⟨t, hget, -⟩ := task_of_entry X config now moves hx
  have hid := (spent_of_entry X config now moves hget hx).symm.trans
    (spent_of_entry X config now moves hget hy)
  exact List.inj_on_of_nodup_map hnodup hx hy (Option.some.inj hid)

end Reachable

/-- With fewer than `2 ^ 64` draws, the append-only log of the record store holds the added records,
each marked by its own task or not at all. -/
theorem log_eq_contents (X : Externals) (config : Config) (now : UInt64)
    (moves : List (Move Job Oracle))
    (hdraws : RecordCall.draws (recordCalls (runProxy X config now moves).log) < 2 ^ 64) :
    RecordCall.log (recordCalls (runProxy X config now moves).log) =
      contents (runProxy X config now moves).log := by
  induction moves using List.reverseRecOn with
  | nil => rfl
  | append_singleton moves m ih =>
    rw [runProxy, System.run_snoc, ← runProxy] at hdraws ⊢
    cases m with
    | spawn job => exact ih hdraws
    | step j ω =>
      obtain heq | ⟨l, t, r, o, k, a, g', hth, hlen, hprog, hperf, heq⟩ :=
        (system X).move_step_cases (runProxy X config now moves) j ω
      · rw [heq] at hdraws ⊢
        exact ih hdraws
      · rw [heq] at hdraws ⊢
        have hget : (runProxy X config now moves).threads[j]? = some t := by
          rw [hth, ← hlen]
          simp
        have hall : Ledger.Allows (ProxyTask.phase t) o :=
          ProxyTask.allows_nextOp (List.mem_of_getElem? hget) (by rw [Thread.nextOp, hprog])
        have hlt := (draws_append_le _ _).trans_lt hdraws
        have ih := ih hlt
        obtain ⟨hcall, hadds, hmarks⟩ | ⟨record, hq, rfl⟩ | ⟨id, hq, rfl⟩ |
          ⟨id, f, hid, hcall, hadds, hmarks⟩ := Ledger.log_cases hall
        · exact contents_keep ih hcall hadds hmarks
        · refine contents_add ih rfl ?_
          rw [hasMarked_eq X config now moves hget, hq]
          rfl
        · refine contents_mark ih rfl ?_ ?_
          · rw [hasMarked_eq X config now moves hget, hq]
            rfl
          · -- The ids of the entries are distinct, so the id of the task is that of its entry only.
            have hspent : (ProxyTask.phase t).spent = some id := by rw [hq]; rfl
            obtain ⟨record, hrecord, rfl⟩ := entry_of_spent X config now moves hget hspent
            rintro ⟨i, record'⟩ hx
            constructor
            · intro heq
              have hsame := List.inj_on_of_nodup_map (nodup_entries X config now moves hlt) hx
                hrecord heq
              exact congrArg Prod.fst hsame
            · rintro rfl
              have hspent' := spent_of_entry X config now moves hget hx
              exact Option.some.inj (hspent'.symm.trans hspent)
        · refine contents_miss ih hcall hadds hmarks ?_
          rintro ⟨i, record⟩ hx rfl
          refine not_added_of_unspent X config now moves hlt (List.mem_of_getElem? hget) hid ?_
          rw [← map_snd_entries]
          exact List.mem_map_of_mem (List.mem_map_of_mem hx)

/-- With fewer than `2 ^ 64` draws, the record store holds the newest added records, as long as its
bound allows. -/
theorem networkRecords_eq_contents (X : Externals) (config : Config) (now : UInt64)
    (moves : List (Move Job Oracle))
    (hdraws : RecordCall.draws (recordCalls (runProxy X config now moves).log) < 2 ^ 64) :
    (runProxy X config now moves).state.store.networkRecords =
      (contents (runProxy X config now moves).log).drop
        ((contents (runProxy X config now moves).log).length -
          max config.maxNetworkRecords 1) := by
  have h := books X config now moves
  have hnodup := nodup_added h.discipline hdraws
  rw [← appended_toLog] at hnodup
  rw [h.records, BoundedLog.run_eq_drop_history _ h.discipline.keepsKey hnodup,
    ← log_eq_contents X config now moves hdraws]
  rfl

/-! ## Whose record it is -/

/-- The record of a task: made from the request the task was started for, as it is rebuilt and sent,
with the id the task has drawn and the time it has read. -/
def RecordOf (X : Externals) (config : Config) (t : ProxyTask) (record : NetworkRecord) : Prop :=
  ∃ req newReq id time, t.tag.request = some req ∧ PassedAs X req newReq config.port ∧
    drawnBy t.trace = [id] ∧
    (⟨.callback .handleRequest .now, time⟩ : Event (TaskSig StoreSig)) ∈ t.trace ∧
    record = NetStorage.newRecord id newReq time

/-- Only the flow of a request adds records. -/
theorem Ledger.flow_of_adds {q : Phase} {o : TaskOp StoreSig} (h : Allows q o)
    (hadds : o.adds.isSome) : q.flow = some .request := by
  obtain ⟨-, hnone, -⟩ | ⟨record, rfl, -⟩ | ⟨id, rfl, -⟩ | ⟨id, f, -, -, hnone, -⟩ := log_cases h
  · simp [hnone] at hadds
  · rfl
  · rfl
  · simp [hnone] at hadds

/-- A request adds a record at one stage only, and the stage determines the record. -/
theorem Exchange.stamped_of_adds {X : Externals} {req : Request} {q : Stage} {o : TaskOp StoreSig}
    {record : NetworkRecord} (h : Allows X req q o) (hadds : o.adds = some record) :
    ∃ id port time newReq, q = .stamped id port time ∧ PassedAs X req newReq port ∧
      record = NetStorage.newRecord id newReq time := by
  cases h with
  | lookup ho => rw [ho.quiet.off_log.2.1] at hadds; cases hadds
  | read hshows _ _ =>
    have hquiet : TaskOp.Quiet (.callback .handleRequest _) := ⟨rfl, hshows.readOnly⟩
    rw [hquiet.off_log.2.1] at hadds
    cases hadds
  | add hpass => exact ⟨_, _, _, _, rfl, hpass, (Option.some.inj hadds).symm⟩
  | _ => cases hadds

theorem Job.request_isSome {job : Job} (h : (Ledger.start job).flow = some .request) :
    ∃ req, job.request = some req := by
  cases job with
  | proxied req fuel =>
    by_cases hreq : req.method = .connect
    · simp [Ledger.start, hreq, Phase.flow] at h
    · exact ⟨req, if_neg hreq⟩
  | intercepted req => exact ⟨req, rfl⟩
  | sampler fuel => cases h

section Reachable

variable {X : Externals} {config : Config} {now : UInt64} {moves : List (Move Job Oracle)}
  {t : ProxyTask} (ht : t ∈ (runProxy X config now moves).threads)

include ht

/-- The task that adds a record is that of a request, and the record is its own. -/
theorem recordOf_of_adds {e : Event (TaskSig StoreSig)} (he : e ∈ t.trace)
    {record : NetworkRecord} (hadds : e.op.adds = some record) : RecordOf X config t record := by
  obtain ⟨tr, tr', htrace⟩ := List.append_of_mem he
  have hledger := System.permits ledger (Ledger.program_follows X) _ moves t ht
  rw [htrace] at hledger
  obtain ⟨hbefore, hallows⟩ := hledger.split
  have hflow := (Ledger.flow_after hbefore).symm.trans
    (Ledger.flow_of_adds hallows (by rw [hadds]; rfl))
  obtain ⟨req, hreq⟩ := Job.request_isSome hflow
  -- The exchange of the request says which record it is.
  have hpermits := (Exchange.program_follows X hreq).permits (System.steps_of_run _ moves t ht)
  rw [htrace] at hpermits
  obtain ⟨hbefore, hallows⟩ := hpermits.split
  have hat := Exchange.at_of_permits hbefore
  obtain ⟨id, port, time, newReq, hq, hpass, rfl⟩ := Exchange.stamped_of_adds hallows hadds
  rw [hq] at hat
  obtain ⟨-, hdrawn, htime, newReq', -, c, hreads, rfl⟩ := hat
  have hsplit : ∀ {β : Type} (f : Event (TaskSig StoreSig) → Option β),
      t.trace.filterMap f = tr.filterMap f ++ (e :: tr').filterMap f := by
    rw [htrace]
    exact fun f => List.filterMap_append
  obtain rfl : c = config := config_of_read ht (by
    rw [readBy, hsplit, ← readBy, hreads]
    simp)
  refine ⟨req, newReq, id, time, hreq, hpass, ?_, ?_, rfl⟩
  · -- A task draws one id at most.
    have hone := (exchange_at ht hreq).length_drawnBy
    rw [drawnBy, hsplit, ← drawnBy, hdrawn, List.length_append, List.length_singleton] at hone
    have hrest : (e :: tr').filterMap drawOf = [] := List.eq_nil_of_length_eq_zero (by omega)
    rw [drawnBy, hsplit, ← drawnBy, hdrawn, hrest]
    rfl
  · rw [htrace]
    exact List.mem_append_left _ htime

end Reachable

/-- The record store of the running proxy, exactly. It holds the newest `max_network_records` of the
added records, or the newest one where that bound is 0, in the order they were added, each marked as
sending if its task has come to that. Each of them is the record of one request: no task adds two,
it is made from the request as it is sent upstream, and every request that has come back from
upstream has added one. -/
theorem records_exact (X : Externals) (config : Config) (now : UInt64)
    (moves : List (Move Job Oracle))
    (hdraws : RecordCall.draws (recordCalls (runProxy X config now moves).log) < 2 ^ 64) :
    (runProxy X config now moves).state.store.networkRecords =
        (contents (runProxy X config now moves).log).drop
          ((contents (runProxy X config now moves).log).length -
            max config.maxNetworkRecords 1) ∧
      ((entries (runProxy X config now moves).log).map Prod.fst).Nodup ∧
      (∀ x ∈ entries (runProxy X config now moves).log,
        ∃ t, (runProxy X config now moves).threads[x.1]? = some t ∧ RecordOf X config t x.2) ∧
      ∀ i t, (runProxy X config now moves).threads[i]? = some t → forwarded t.trace = true →
        i ∈ (entries (runProxy X config now moves).log).map Prod.fst := by
  refine ⟨networkRecords_eq_contents X config now moves hdraws,
    nodup_fst_entries X config now moves hdraws, ?_, ?_⟩
  · rintro ⟨i, record⟩ hx
    obtain ⟨t, hget, e, he, hadds⟩ := task_of_entry X config now moves hx
    exact ⟨t, hget, recordOf_of_adds (List.mem_of_getElem? hget) he hadds⟩
  · intro i t hget hforwarded
    obtain ⟨id, hid⟩ : ∃ id, (ProxyTask.phase t).spent = some id := by
      rw [(ProxyTask.standing (List.mem_of_getElem? hget)).forwarded] at hforwarded
      generalize ProxyTask.phase t = q at hforwarded ⊢
      cases q with
      | answered id => exact ⟨id, rfl⟩
      | _ => cases hforwarded
    obtain ⟨record, hrecord, -⟩ := entry_of_spent X config now moves hget hid
    exact List.mem_map_of_mem hrecord

/-- Two requests ran in a store that keeps one record: of the two that were added it holds one. -/
theorem records_exact_two :
    (entries (Concrete.twoRequests 1).log).map (fun x => (x.1, x.2.id)) = [(0, 0), (1, 1)] ∧
      (Concrete.twoRequests 1).state.store.networkRecords =
        (contents (Concrete.twoRequests 1).log).drop
          ((contents (Concrete.twoRequests 1).log).length - 1) := by
  refine ⟨by decide, ?_⟩
  exact (records_exact Concrete.externals { Concrete.config with maxNetworkRecords := 1 } 0 _
    (show RecordCall.draws (recordCalls (Concrete.twoRequests 1).log) < 2 ^ 64 by decide)).1

end Bifrost
