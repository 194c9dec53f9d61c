import BifrostCore.BoundedLog
import BifrostCore.Correctness.StoreLocks

/-!
# Operations of the store under its locks

What an operation of the store, carried out under the locks, makes of the records when no other
task comes between.

* `Section` — the big-step meaning of a program under the locks, and its rules.
* `LockedStore.implement_section` — it is what the atomic operation does.
* `implement_cases` — every operation of a task takes no lock and overlooks what is behind the
  locks, or is carried out under them with the effect of the atomic operation.
-/

namespace Bifrost

open Concurrency Prog

/-! ## Sections -/

/-- A task that was dropped: it drops its guards and does nothing else. -/
def Unwinds {α : Type} : LockedProg α → Prop
  | .act (.release _ _) k => Unwinds (k ())
  | .act .dropped _ => True
  | _ => False

/-- What a program makes of the records, which were `start` when it began, if no other task comes
between: the locks are granted, and `post` relates the value it returns to the records it leaves.
Where it may be dropped, it has changed nothing and drops its guards; and with the guard of the
records it returns. -/
def Section {α : Type} (config : Config) (start : List NetworkRecord)
    (post : α → List NetworkRecord → Prop) : LockedProg α → List NetworkRecord → Prop
  | .ret a, records => post a records
  | .act (.request _ _) k, records => ∀ ticket, Section config start post (k ticket) records
  | .act (.await _ _) k, records =>
    records = start ∧ Section config start post (k true) records ∧ Unwinds (k false)
  | .act (.release l _) k, records =>
    (l = .networkRecords → ∃ a, k () = .ret a) ∧ Section config start post (k ()) records
  | .act (.plain (.data o)) k, records =>
    Section config start post (k (o.run config records).1) (o.run config records).2
  | .act (.plain (.task _)) _, _ => False
  | .act .dropped _, _ => False

namespace Section

variable {α β : Type} {config : Config} {start records : List NetworkRecord}
  {post : β → List NetworkRecord → Prop}

theorem unwinds_bind {p : LockedProg α} (h : Unwinds p) (f : α → LockedProg β) :
    Unwinds (p.bind f) := by
  induction p with
  | ret a => exact h.elim
  | act o k ih =>
    cases o with
    | release l m => exact ih () h
    | dropped => trivial
    | _ => exact h.elim

theorem unwinds_drop (held : List (StoreLock × Mode)) : Unwinds (drop held : LockedProg α) := by
  induction held with
  | nil => trivial
  | cons x held ih => exact ih

/-- A lock is taken, before any change. -/
theorem acquire {l : StoreLock} {m : Mode} {held : List (StoreLock × Mode)}
    {f : Unit → LockedProg β} (h : Section config start post (f ()) start) :
    Section config start post ((Prog.acquire l m held).bind f) start :=
  fun _ => ⟨rfl, h, unwinds_bind (unwinds_drop held) f⟩

theorem data {o : DataOp} {f : o.Res → LockedProg β}
    (h : Section config start post (f (o.run config records).1) (o.run config records).2) :
    Section config start post ((LockedStore.data o).bind f) records := h

/-- The guard of the configuration is dropped. -/
theorem release_config {m : Mode} {f : Unit → LockedProg β}
    (h : Section config start post (f ()) records) :
    Section config start post ((Prog.release .config m).bind f) records := ⟨nofun, h⟩

/-- The guard of the records is dropped. -/
theorem release_networkRecords {m : Mode} {f : Unit → LockedProg β} {b : β} (hret : f () = .ret b)
    (h : post b records) :
    Section config start post ((Prog.release .networkRecords m).bind f) records := by
  refine ⟨fun _ => ⟨b, hret⟩, ?_⟩
  show Section config start post (f ()) records
  rw [hret]
  exact h

/-- The records are cloned one by one. -/
theorem collect {f : List NetworkRecord → LockedProg β} (n i : ℕ)
    (hlen : i + n = records.length)
    (h : Section config start post (f (records.drop i)) records) :
    Section config start post ((LockedStore.collect n i).bind f) records := by
  induction n generalizing i f with
  | zero =>
    rw [List.drop_eq_nil_of_le (by omega)] at h
    exact h
  | succ n ih =>
    have hi : i < records.length := by omega
    show Section config start post (Prog.bind (Prog.bind (Prog.plain (S := GuardedSig) _) _) f) _
    rw [bind_assoc]
    refine data ?_
    show Section config start post (Prog.bind _ f) records
    simp only [DataOp.run, List.getElem?_eq_getElem hi]
    show Section config start post (Prog.bind (Prog.bind (LockedStore.collect n (i + 1)) _) f) _
    rw [bind_assoc]
    refine ih (i + 1) (by omega) ?_
    rw [List.drop_eq_getElem_cons hi] at h
    exact h

/-- The records are searched one by one. -/
theorem find {f : Option ℕ → LockedProg β} (requestId : UInt64) (n i : ℕ)
    (hlen : i + n = records.length)
    (h : Section config start post
      (f (((records.drop i).findIdx? fun r => r.id = requestId).map (· + i))) records) :
    Section config start post ((LockedStore.find requestId n i).bind f) records := by
  induction n generalizing i with
  | zero =>
    rw [List.drop_eq_nil_of_le (by omega)] at h
    exact h
  | succ n ih =>
    have hi : i < records.length := by omega
    rw [List.drop_eq_getElem_cons hi, List.findIdx?_cons] at h
    show Section config start post (Prog.bind (Prog.bind (Prog.plain (S := GuardedSig) _) _) f) _
    rw [bind_assoc]
    refine data ?_
    show Section config start post (Prog.bind _ f) records
    simp only [DataOp.run, List.getElem?_eq_getElem hi]
    by_cases hid : records[i].id = requestId
    · rw [if_pos hid]
      simpa [hid] using h
    · rw [if_neg hid]
      refine ih (i + 1) (by omega) ?_
      simpa [hid, Function.comp_def, Nat.add_assoc, Nat.add_comm 1 i] using h

end Section

/-! ## The operations are what they stand for -/

/-- An operation on the store answers with `r` and leaves `records'`, when it finds `records`. -/
def Meets (config : Config) (o : TaskOp StoreSig) (records : List NetworkRecord) (r : o.Res)
    (records' : List NetworkRecord) : Prop :=
  ∀ ω g, g.store.config = config → g.store.networkRecords = records →
    perform ω o g = some (r, g.withRecords records')

namespace LockedStore

variable (config : Config) (records : List NetworkRecord)

/-- The answer of an operation and the records it leaves, as the atomic operation has them. -/
def Effect (o : StoreOp) (r : o.Res) (records' : List NetworkRecord) : Prop :=
  ∀ clock stats, Store.perform clock ⟨config, records, stats⟩ o = (r, ⟨config, records', stats⟩)

theorem getConfig_section :
    Section config records (Effect config records .getConfig) getConfig records := by
  refine Section.acquire (Section.data (Section.release_config ?_))
  intro clock stats
  rfl

theorem addNetworkRecord_section (record : NetworkRecord) :
    Section config records (Effect config records (.addNetworkRecord record))
      (addNetworkRecord record) records := by
  refine Section.acquire (Section.acquire (Section.data (Section.release_config
    (Section.data ?_))))
  show Section config records _ (if config.maxNetworkRecords ≤ records.length then _ else _) records
  by_cases hfull : config.maxNetworkRecords ≤ records.length
  · have heffect : Effect config records (.addNetworkRecord record) ()
        (records.tail ++ [record]) := by
      intro clock stats
      simp only [Store.perform, Store.addNetworkRecord]
      rw [if_pos hfull]
    rw [if_pos hfull]
    exact Section.data (Section.data (Section.release_networkRecords rfl heffect))
  · have heffect : Effect config records (.addNetworkRecord record) () (records ++ [record]) := by
      intro clock stats
      simp only [Store.perform, Store.addNetworkRecord]
      rw [if_neg hfull]
    rw [if_neg hfull]
    exact Section.data (Section.release_networkRecords rfl heffect)

theorem getNetworkRecords_section :
    Section config records (Effect config records .getNetworkRecords) getNetworkRecords
      records := by
  refine Section.acquire (Section.data (Section.collect _ 0 (Nat.zero_add _) ?_))
  exact Section.release_networkRecords rfl fun _ _ => rfl

theorem updateNetworkRecordById_section (requestId : UInt64)
    (f : NetworkRecord → NetworkRecord) :
    Section config records (Effect config records (.updateNetworkRecordById requestId f))
      (updateNetworkRecordById requestId f) records := by
  refine Section.acquire (Section.data (Section.find requestId _ 0 (Nat.zero_add _) ?_))
  have hfirst := BoundedLog.modifyFirst_eq_findIdx? (fun r => r.id = requestId) f records
  rw [show (DataOp.run config records .len).2 = records from rfl, List.drop_zero]
  cases hfound : records.findIdx? fun r => r.id = requestId with
  | none =>
    have heffect : Effect config records (.updateNetworkRecordById requestId f)
        (.error "Record not found") records := by
      intro clock stats
      simp only [Store.perform, Store.updateNetworkRecordById]
      rw [hfirst, hfound]
      rfl
    rw [Option.map_none]
    exact Section.release_networkRecords rfl heffect
  | some i =>
    have heffect : Effect config records (.updateNetworkRecordById requestId f) (.ok ())
        (records.modify i f) := by
      intro clock stats
      simp only [Store.perform, Store.updateNetworkRecordById]
      rw [hfirst, hfound]
      rfl
    rw [Option.map_some]
    exact Section.data (Section.release_networkRecords rfl heffect)

/-- What a program under the locks makes of the records is what the atomic operation does. -/
theorem implement_section {o : StoreOp} {p : LockedProg o.Res}
    (h : LockedStore.implement o = some p) :
    Section config records (Effect config records o) p records := by
  cases o with
  | getConfig =>
    cases h
    exact getConfig_section config records
  | addNetworkRecord record =>
    cases h
    exact addNetworkRecord_section config records record
  | getNetworkRecords =>
    cases h
    exact getNetworkRecords_section config records
  | updateNetworkRecordById requestId f =>
    cases h
    exact updateNetworkRecordById_section config records requestId f
  | _ => cases h

end LockedStore

/-! ## Operations with and without locks -/

/-- The operation touches neither the records nor the configuration, and does not depend on the
records. -/
structure TaskOp.Overlooks (o : TaskOp StoreSig) : Prop where
  perform_withRecords : ∀ ω g records,
    perform ω o (g.withRecords records) =
      (perform ω o g).map fun x => (x.1, x.2.withRecords records)
  keeps : ∀ ω g r g', perform ω o g = some (r, g') →
    g'.store.config = g.store.config ∧ g'.store.networkRecords = g.store.networkRecords

theorem StoreOp.overlooks {o : StoreOp} (h : LockedStore.implement o = none) (cb : Callback) :
    TaskOp.Overlooks (.callback cb o) ∧ TaskOp.Overlooks (.store o) := by
  cases o with
  | getConfig | getNetworkRecords | addNetworkRecord | updateNetworkRecordById => cases h
  -- The atomics and the clock.
  | _ =>
    exact ⟨⟨fun _ _ _ => rfl, by rintro ω g r g' hperf; cases hperf; exact ⟨rfl, rfl⟩⟩,
      ⟨fun _ _ _ => rfl, by rintro ω g r g' hperf; cases hperf; exact ⟨rfl, rfl⟩⟩⟩

theorem LockedStore.Effect.meets {config : Config} {records records' : List NetworkRecord}
    {o : StoreOp} {r : o.Res} (h : Effect config records o r records') (cb : Callback) :
    Meets config (.callback cb o) records r records' ∧
      Meets config (.store o) records r records' := by
  have hstore : ∀ (ω : Oracle) (g : Globals), g.store.config = config →
      g.store.networkRecords = records →
        g.store.perform ω.storeClock o = (r, (g.withRecords records').store) := by
    intro ω g hconfig hrecords
    have heffect := h ω.storeClock g.store.trafficStats
    rw [← hconfig, ← hrecords] at heffect
    exact heffect
  constructor <;> intro ω g hconfig hrecords
  · simp only [perform, hstore ω g hconfig hrecords]
    rfl
  · simp only [perform, hstore ω g hconfig hrecords]
    rfl

theorem Section.mono {α : Type} {config : Config} {start : List NetworkRecord}
    {post post' : α → List NetworkRecord → Prop} (himp : ∀ a records, post a records →
      post' a records) {p : LockedProg α} {records : List NetworkRecord}
    (h : Section config start post p records) : Section config start post' p records := by
  induction p generalizing records with
  | ret a => exact himp a records h
  | act o k ih =>
    rcases o with ⟨l, m⟩ | ⟨l, x⟩ | ⟨l, m⟩ | _ | o | o
    · exact fun ticket => ih ticket (h ticket)
    · exact ⟨h.1, ih true h.2.1, h.2.2⟩
    · exact ⟨h.1, ih () h.2⟩
    · exact h
    · exact ih _ h
    · exact h

/-- An operation takes no lock and overlooks what is behind them, or is carried out under them. -/
theorem implement_cases (o : TaskOp StoreSig) :
    (o.takesLock = false ∧ implement o = unlocked o ∧ o.Overlooks) ∨
      o.takesLock = true ∧ (∀ r, implement o ≠ .ret r) ∧ ∀ config records,
        Section config records (Meets config o records) (implement o) records := by
  have hunfinished : ∀ {o : StoreOp} {p : LockedProg o.Res}, LockedStore.implement o = some p →
      ∀ r, p ≠ .ret r := by
    intro o p hp
    cases o <;> cases hp <;> exact fun r => nofun
  cases o with
  | callback cb o =>
    cases hp : LockedStore.implement o with
    | none =>
      refine .inl ⟨?_, ?_, (StoreOp.overlooks hp cb).1⟩
      · simp [TaskOp.takesLock, hp]
      · simp [implement, hp]
    | some p =>
      have himpl : implement (.callback cb o) = p := by simp [implement, hp]
      rw [himpl]
      refine .inr ⟨by simp [TaskOp.takesLock, hp], hunfinished hp, fun config records => ?_⟩
      exact (LockedStore.implement_section config records hp).mono
        fun r records' heffect => (heffect.meets cb).1
  | store o =>
    cases hp : LockedStore.implement o with
    | none =>
      refine .inl ⟨?_, ?_, (StoreOp.overlooks hp .handleRequest).2⟩
      · simp [TaskOp.takesLock, hp]
      · simp [implement, hp]
    | some p =>
      have himpl : implement (.store o) = p := by simp [implement, hp]
      rw [himpl]
      refine .inr ⟨by simp [TaskOp.takesLock, hp], hunfinished hp, fun config records => ?_⟩
      exact (LockedStore.implement_section config records hp).mono
        fun r records' heffect => (heffect.meets .handleRequest).2
  | panic | outOfFuel =>
    refine .inl ⟨rfl, rfl, fun _ _ _ => rfl, ?_⟩
    intro ω g r
    exact r.elim
  | _ =>
    refine .inl ⟨rfl, rfl, fun _ _ _ => rfl, ?_⟩
    intro ω g r g' hperf
    cases hperf
    exact ⟨rfl, rfl⟩

end Bifrost
