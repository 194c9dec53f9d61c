import BifrostCore.Concurrency.Timeline
import BifrostCore.Correctness.StoreSections

/-!
# The store is atomic

The proxy under the locks of its store refines the proxy whose operations on the store are atomic.
The atomic operation happens where its program drops the last guard: until then no other task sees
its writes, and what it has read still stands.

* `Place` — where a task stands in the middle of an operation; `Amid.step` takes it one step on.
* `Match` — a task under the locks next to the task without them.
* `Refines` — the two proxies, task by task; `Refines.step` is the simulation.
* `locked_refines` — every run under the locks is, for the answers of the tasks and for the store, a
  run in which every operation on the store is atomic.
-/

namespace Bifrost

open Concurrency Prog

/-! ## In the middle of an operation -/

/-- The task holds the lock of the records. -/
def HoldsRecords (q : Holding StoreLock) : Prop := ∃ m, (StoreLock.networkRecords, m) ∈ q.held

/-- The task holds the lock of the records for writing. -/
def WritesRecords (q : Holding StoreLock) : Prop :=
  (StoreLock.networkRecords, Mode.write) ∈ q.held

/-- Where a task stands in the middle of the operation `o`, when `rest` is left of its program. The
records are `committed` as long as `o` has not happened; `records` is what the task has made of
them. -/
inductive Place (config : Config) (committed records : List NetworkRecord) (o : TaskOp StoreSig)
    (q : Holding StoreLock) (rest : LockedProg o.Res) : Prop
  /-- Without the lock of the records, which may become any `now`. -/
  | outside : ¬ HoldsRecords q → (∀ now, Section config now (Meets config o now) rest now) →
      Place config committed records o q rest
  /-- With the lock of the records. -/
  | inside : HoldsRecords q → (¬ WritesRecords q → records = committed) →
      Section config committed (Meets config o committed) rest records →
      Place config committed records o q rest
  /-- The task was dropped. -/
  | unwinding : (HoldsRecords q → records = committed) → Unwinds rest →
      Place config committed records o q rest

/-- A task in the middle of the operation `o`. -/
structure Amid (config : Config) (committed records : List NetworkRecord) (o : TaskOp StoreSig)
    (q : Holding StoreLock) (rest : LockedProg o.Res) : Prop where
  /-- The operation is carried out under the locks. -/
  takesLock : o.takesLock = true
  /-- It has not returned. -/
  unfinished : ∀ r, rest ≠ .ret r
  /-- What is left keeps to the order of the locks. -/
  follows : rest.Follows storeLocks q fun q' _ => q' = .nothing
  /-- Where it stands. -/
  place : Place config committed records o q rest

section Local

variable {config : Config} {committed committed' records records' : List NetworkRecord}
  {o : TaskOp StoreSig} {q : Holding StoreLock} {rest : LockedProg o.Res}

theorem not_ret_of_ne_nothing {α : Type} {p : LockedProg α}
    (h : p.Follows storeLocks q fun q' _ => q' = .nothing) (hne : q ≠ .nothing) (a : α) :
    p ≠ .ret a := by
  rintro rfl
  exact hne h

theorem HoldsRecords.ne_nothing (h : HoldsRecords q) : q ≠ .nothing := by
  rintro rfl
  obtain ⟨m, hm⟩ := h
  cases hm

/-- A task without the lock of the records does not mind what becomes of them. -/
theorem Place.of_not_holds (h : Place config committed records o q rest)
    (hholds : ¬ HoldsRecords q) : Place config committed' records' o q rest := by
  cases h with
  | outside _ hsection => exact .outside hholds hsection
  | inside hin _ _ => exact absurd hin hholds
  | unwinding _ hunwinds => exact .unwinding (fun hin => absurd hin hholds) hunwinds

theorem Amid.of_not_holds (h : Amid config committed records o q rest)
    (hholds : ¬ HoldsRecords q) : Amid config committed' records' o q rest :=
  ⟨h.takesLock, h.unfinished, h.follows, h.place.of_not_holds hholds⟩

end Local

/-- A task that was dropped does not return. -/
theorem Unwinds.not_ret {α : Type} {p : LockedProg α} (h : Unwinds p) (a : α) : p ≠ .ret a := by
  rintro rfl
  exact h

/-- What a step does to the state under the locks (`s` becomes `s'`) and to the state without them
(`g` becomes `g'`), when the task holds `q` before it and `q'` after it. -/
structure Keeps (q q' : Holding StoreLock) (s s' g g' : Globals) : Prop where
  /-- The states differ in the records at most. -/
  state : s' = g'.withRecords s'.store.networkRecords
  /-- The configuration stays. -/
  config : g'.store.config = g.store.config
  /-- The records change under the lock only. -/
  writes : (s'.store.networkRecords = s.store.networkRecords ∧
    g'.store.networkRecords = g.store.networkRecords) ∨ WritesRecords q
  /-- Who drops the lock leaves the records as the atomic operation does. -/
  settles : ¬ WritesRecords q' →
    (WritesRecords q ∨ s.store.networkRecords = g.store.networkRecords) →
    s'.store.networkRecords = g'.store.networkRecords

section Step

variable {s s' : LockedState StoreLock Globals} {g : Globals} {o : TaskOp StoreSig}
  {q : Holding StoreLock} {w : Bool × Oracle} {op : LockedOp StoreLock GuardedSig} {r : op.Res}
  {k : op.Res → LockedProg o.Res}

/-- A step that leaves the state behind the locks alone. -/
theorem Keeps.of_data {q' : Holding StoreLock}
    (hstate : s.data = g.withRecords s.data.store.networkRecords) (hdata : s'.data = s.data)
    (hwrites : ¬ WritesRecords q' → WritesRecords q →
      s.data.store.networkRecords = g.store.networkRecords) :
    Keeps q q' s.data s'.data g g := by
  rw [hdata]
  exact ⟨hstate, rfl, .inl ⟨rfl, rfl⟩, fun hq' hor => hor.elim (hwrites hq') id⟩

section Places

variable (hstate : s.data = g.withRecords s.data.store.networkRecords)
  (htakesLock : o.takesLock = true)
  (hfollows : (Prog.act op k).Follows storeLocks q fun q' _ => q' = .nothing)
  (hperf : LockedState.perform performGuarded w op s = some (r, s'))

/-- What becomes of an operation at a step: either the task is still in the middle of it, or the
atomic operation comes back with what the program returns. -/
def Advances (w : Oracle) (s' : LockedState StoreLock Globals) (g : Globals) (o : TaskOp StoreSig)
    (q' : Holding StoreLock) (rest : LockedProg o.Res) (g' : Globals) : Prop :=
  (g' = g ∧ Amid g.store.config g.store.networkRecords s'.data.store.networkRecords o q' rest) ∨
    ∃ a, rest = .ret a ∧ q' = .nothing ∧ perform w o g = some (a, g')

include hstate htakesLock hfollows hperf

theorem Place.step_outside
    (hsettled : (s.locks .networkRecords).writer = false →
      s.data.store.networkRecords = g.store.networkRecords)
    (hholds : ¬ HoldsRecords q)
    (hsection : ∀ now, Section g.store.config now (Meets g.store.config o now) (.act op k) now) :
    ∃ g', Keeps q (q.next op r) s.data s'.data g g' ∧
      Advances w.2 s' g o (q.next op r) (k r) g' := by
  obtain ⟨hallows, hrest⟩ := hfollows
  have hwrites : ∀ {P : Prop}, WritesRecords q → P := fun hq => absurd ⟨_, hq⟩ hholds
  cases hallows with
  | @request held l m hbefore =>
    have hdata := LockedState.data_eq hperf (by simp)
    refine ⟨g, .of_data hstate hdata fun _ => hwrites, .inl ⟨rfl, ?_⟩⟩
    exact ⟨htakesLock, not_ret_of_ne_nothing (hrest r) (by simp [Holding.next, Holding.nothing]),
      hrest r, .outside hholds fun now => hsection now r⟩
  | @await held l x =>
    have hdata := LockedState.data_eq hperf (by simp)
    refine ⟨g, .of_data hstate hdata fun _ => hwrites, .inl ⟨rfl, ?_⟩⟩
    cases r with
    | false =>
      have hunwinds : Unwinds (k false) := (hsection g.store.networkRecords).2.2
      exact ⟨htakesLock, hunwinds.not_ret, hrest false,
        .unwinding (fun hin => absurd hin hholds) hunwinds⟩
    | true =>
      refine ⟨htakesLock, not_ret_of_ne_nothing (hrest true)
        (by simp [Holding.next, Holding.nothing]), hrest true, ?_⟩
      cases l with
      | networkRecords =>
        have hadmits := LockedState.admits_of_await hperf
        rw [hdata, hsettled (RwLock.writer_of_admits hadmits)]
        exact .inside ⟨x.2, List.mem_cons_self⟩ (fun _ => rfl) (hsection _).2.1
      | config =>
        refine .outside ?_ fun now => (hsection now).2.1
        rintro ⟨m, hm⟩
        exact hholds ⟨m, by simpa [Holding.next] using hm⟩
  | @release held l m hmem =>
    have hdata := LockedState.data_eq hperf (by simp)
    have hnext : ¬ HoldsRecords ⟨none, held.erase (l, m)⟩ := by
      rintro ⟨m', hm'⟩
      exact hholds ⟨m', List.mem_of_mem_erase hm'⟩
    refine ⟨g, .of_data hstate hdata fun _ => hwrites, ?_⟩
    cases hk : k r with
    | ret a =>
      have hreturned := hrest r
      rw [hk] at hreturned
      refine .inr ⟨a, rfl, hreturned, ?_⟩
      have hmeets := (hsection g.store.networkRecords).2
      rw [show k () = .ret a from hk] at hmeets
      exact hmeets w.2 g rfl rfl
    | act op' k' =>
      refine .inl ⟨rfl, htakesLock, by simp, ?_, .outside hnext fun now => ?_⟩
      · rw [← hk]
        exact hrest r
      · rw [← hk]
        exact (hsection now).2
  | dropped => cases hperf
  | @plain held guarded hneeds =>
    cases guarded with
    | task o' => exact (hsection g.store.networkRecords).elim
    | data access =>
      cases access with
      | config =>
        cases hperf
        have hconfig : s.data.store.config = g.store.config := congrArg (·.store.config) hstate
        refine ⟨g, ⟨hstate, rfl, .inl ⟨rfl, rfl⟩, fun _ hor => hor.elim hwrites id⟩, .inl ⟨rfl, ?_⟩⟩
        refine ⟨htakesLock, not_ret_of_ne_nothing (hrest _) ?_, hrest _,
          .outside hholds fun now => ?_⟩
        · intro hnothing
          have hheld : held = [] := congrArg Holding.held hnothing
          rw [hheld] at hneeds
          cases hneeds
        · have hnow := hsection now
          rw [← hconfig] at hnow ⊢
          exact hnow
      | len | get i => exact absurd hneeds hholds
      | popFront | pushBack record | modify i f => exact absurd ⟨_, hneeds⟩ hholds

theorem Place.step_inside (hholds : HoldsRecords q)
    (hreads : ¬ WritesRecords q → s.data.store.networkRecords = g.store.networkRecords)
    (hsection : Section g.store.config g.store.networkRecords
      (Meets g.store.config o g.store.networkRecords) (.act op k) s.data.store.networkRecords) :
    ∃ g', Keeps q (q.next op r) s.data s'.data g g' ∧
      Advances w.2 s' g o (q.next op r) (k r) g' := by
  obtain ⟨hallows, hrest⟩ := hfollows
  cases hallows with
  | @request held l m hbefore =>
    have hdata := LockedState.data_eq hperf (by simp)
    refine ⟨g, .of_data hstate hdata fun hnot hwrites => absurd hwrites hnot, .inl ⟨rfl, ?_⟩⟩
    rw [hdata]
    exact ⟨htakesLock, not_ret_of_ne_nothing (hrest r) (by simp [Holding.next, Holding.nothing]),
      hrest r, .inside hholds hreads (hsection r)⟩
  | @await held l x =>
    have hdata := LockedState.data_eq hperf (by simp)
    obtain ⟨hequal, hgranted, hunwinds⟩ := hsection
    refine ⟨g, .of_data hstate hdata fun _ _ => hequal, .inl ⟨rfl, ?_⟩⟩
    rw [hdata]
    cases r with
    | false =>
      exact ⟨htakesLock, hunwinds.not_ret, hrest false, .unwinding (fun _ => hequal) hunwinds⟩
    | true =>
      obtain ⟨m, hm⟩ := hholds
      exact ⟨htakesLock,
        not_ret_of_ne_nothing (hrest true) (by simp [Holding.next, Holding.nothing]),
        hrest true, .inside ⟨m, List.mem_cons_of_mem _ hm⟩ (fun _ => hequal) hgranted⟩
  | @release held l m hmem =>
    have hdata := LockedState.data_eq hperf (by simp)
    obtain ⟨hreturns, hrestSection⟩ := hsection
    cases l with
    | networkRecords =>
      -- The last guard is dropped, and the atomic operation happens.
      obtain ⟨a, ha⟩ := hreturns rfl
      have hreturned := hrest r
      rw [show k r = .ret a from ha] at hreturned
      rw [show k () = .ret a from ha] at hrestSection
      refine ⟨g.withRecords s.data.store.networkRecords, ⟨?_, rfl, ?_, ?_⟩,
        .inr ⟨a, ha, hreturned, hrestSection w.2 g rfl rfl⟩⟩
      · rw [hdata]
        exact hstate
      · by_cases hwrites : WritesRecords ⟨none, held⟩
        · exact .inr hwrites
        · exact .inl ⟨by rw [hdata], hreads hwrites⟩
      · intro _ _
        rw [hdata]
        rfl
    | config =>
      have hnext : HoldsRecords ⟨none, held.erase (.config, m)⟩ := by
        obtain ⟨m', hm'⟩ := hholds
        exact ⟨m', (List.mem_erase_of_ne (by simp)).mpr hm'⟩
      have hsame : ¬ WritesRecords ⟨none, held.erase (.config, m)⟩ →
          s.data.store.networkRecords = g.store.networkRecords := fun hnot =>
        hreads fun hwrites => hnot ((List.mem_erase_of_ne (by simp)).mpr hwrites)
      refine ⟨g, .of_data hstate hdata fun hnot _ => hsame hnot, .inl ⟨rfl, ?_⟩⟩
      rw [hdata]
      exact ⟨htakesLock, not_ret_of_ne_nothing (hrest r) hnext.ne_nothing, hrest r,
        .inside hnext hsame hrestSection⟩
  | dropped => cases hperf
  | @plain held guarded hneeds =>
    cases guarded with
    | task o' => exact hsection.elim
    | data access =>
      have hconfig : s.data.store.config = g.store.config := congrArg (·.store.config) hstate
      have hdata : s'.data = s.data.withRecords
          (access.run g.store.config s.data.store.networkRecords).2 := by
        rw [← hconfig]
        cases hperf
        rfl
      have hanswer : r = (access.run g.store.config s.data.store.networkRecords).1 := by
        rw [← hconfig]
        cases hperf
        rfl
      have hsame : ¬ WritesRecords ⟨none, held⟩ → s'.data.store.networkRecords =
          s.data.store.networkRecords := by
        intro hnot
        rw [hdata]
        cases access with
        | config | len | get i => rfl
        | popFront | pushBack record | modify i f => exact absurd hneeds hnot
      refine ⟨g, ⟨?_, rfl, ?_, fun hnot _ => (hsame hnot).trans (hreads hnot)⟩, .inl ⟨rfl, ?_⟩⟩
      · rw [hdata, hstate]
        rfl
      · by_cases hwrites : WritesRecords ⟨none, held⟩
        · exact .inr hwrites
        · exact .inl ⟨hsame hwrites, rfl⟩
      · refine ⟨htakesLock, not_ret_of_ne_nothing (hrest r) hholds.ne_nothing, hrest r,
          .inside hholds (fun hnot => (hsame hnot).trans (hreads hnot)) ?_⟩
        rw [hdata, hanswer]
        exact hsection

theorem Place.step_unwinding
    (hequal : HoldsRecords q → s.data.store.networkRecords = g.store.networkRecords)
    (hunwinds : Unwinds (.act op k)) :
    ∃ g', Keeps q (q.next op r) s.data s'.data g g' ∧
      Advances w.2 s' g o (q.next op r) (k r) g' := by
  obtain ⟨hallows, hrest⟩ := hfollows
  cases hallows with
  | @release held l m hmem =>
    have hdata := LockedState.data_eq hperf (by simp)
    refine ⟨g, .of_data hstate hdata fun _ hwrites => hequal ⟨_, hwrites⟩, .inl ⟨rfl, ?_⟩⟩
    rw [hdata]
    exact ⟨htakesLock, Unwinds.not_ret hunwinds, hrest r,
      .unwinding (fun ⟨m', hm'⟩ => hequal ⟨m', List.mem_of_mem_erase hm'⟩) hunwinds⟩
  | dropped => cases hperf
  | request _ => exact hunwinds.elim
  | await => exact hunwinds.elim
  | plain _ => exact hunwinds.elim

end Places

/-- A task in the middle of an operation performs one more step of it. -/
theorem Amid.step (hstate : s.data = g.withRecords s.data.store.networkRecords)
    (hsettled : (s.locks .networkRecords).writer = false →
      s.data.store.networkRecords = g.store.networkRecords)
    (h : Amid g.store.config g.store.networkRecords s.data.store.networkRecords o q (.act op k))
    (hperf : LockedState.perform performGuarded w op s = some (r, s')) :
    ∃ g', Keeps q (q.next op r) s.data s'.data g g' ∧
      Advances w.2 s' g o (q.next op r) (k r) g' := by
  obtain ⟨htakesLock, -, hfollows, hplace⟩ := h
  cases hplace with
  | outside hholds hsection =>
    exact Place.step_outside hstate htakesLock hfollows hperf hsettled hholds hsection
  | inside hholds hreads hsection =>
    exact Place.step_inside hstate htakesLock hfollows hperf hholds hreads hsection
  | unwinding hequal hunwinds =>
    exact Place.step_unwinding hstate htakesLock hfollows hperf hequal hunwinds

end Step

/-! ## One task under the locks and without them -/

/-- The event of an operation that takes no lock. -/
def unlockedEvent : Event (Locked StoreLock GuardedSig) → Option (Event (TaskSig StoreSig))
  | ⟨.plain (.task o), r⟩ => some ⟨o, r⟩
  | _ => none

/-- In the middle of an operation, only locks and what is behind them are used. -/
theorem Amid.unlockedEvent_eq_none {config : Config} {committed records : List NetworkRecord}
    {o : TaskOp StoreSig} {q : Holding StoreLock} {op : LockedOp StoreLock GuardedSig}
    {k : op.Res → LockedProg o.Res} (h : Amid config committed records o q (.act op k))
    (r : op.Res) : unlockedEvent ⟨op, r⟩ = none := by
  rcases op with _ | _ | _ | _ | (_ | o')
  case plain.task =>
    cases h.place with
    | outside _ hsection => exact (hsection committed).elim
    | inside _ _ hsection => exact hsection.elim
    | unwinding _ hunwinds => exact hunwinds.elim
  all_goals rfl

/-- A task under the locks next to the task without them. -/
inductive Match {α : Type} (config : Config) (committed records : List NetworkRecord) :
    Holding StoreLock → LockedProg α → Prog (TaskSig StoreSig) α → Prop
  /-- Between two operations. -/
  | between (p : Prog (TaskSig StoreSig) α) :
      Match config committed records .nothing (p.expand implement) p
  /-- In the middle of an operation. -/
  | amid {o : TaskOp StoreSig} {q : Holding StoreLock} {rest : LockedProg o.Res}
      (k : o.Res → Prog (TaskSig StoreSig) α) : Amid config committed records o q rest →
      Match config committed records q (rest.bind fun r => (k r).expand implement) (.act o k)

section Match

variable {α : Type} {config : Config} {committed committed' records records' : List NetworkRecord}
  {q : Holding StoreLock} {p : LockedProg α} {pa : Prog (TaskSig StoreSig) α}

theorem Match.of_not_holds (h : Match config committed records q p pa) (hholds : ¬ HoldsRecords q) :
    Match config committed' records' q p pa := by
  cases h with
  | between pa => exact .between pa
  | amid k hamid => exact .amid k (hamid.of_not_holds hholds)

/-- Where a task has returned under the locks, it has without them. -/
theorem Match.returned {a : α} (h : Match config committed records q p pa) (hp : p = .ret a) :
    pa = .ret a := by
  cases h with
  | between pa =>
    cases pa with
    | ret b => exact congrArg Prog.ret (Prog.ret.inj hp)
    | act o k =>
      obtain ⟨-, himpl, -⟩ | ⟨-, hunfinished, -⟩ := implement_cases o
      · rw [expand_act, himpl] at hp
        cases hp
      · cases hrest : implement o with
        | ret r => exact absurd hrest (hunfinished r)
        | act op k =>
          rw [expand_act, hrest] at hp
          cases hp
  | @amid o q rest k hamid =>
    cases rest with
    | ret r => exact absurd rfl (hamid.unfinished r)
    | act op k => cases hp

variable {s s' : LockedState StoreLock Globals} {g g' : Globals} {w : Bool × Oracle}
  {op : LockedOp StoreLock GuardedSig} {r : op.Res} {k : op.Res → LockedProg α}

/-- What a step of a task under the locks is without them: nothing, or one operation. An operation
that takes no lock is itself. -/
def Mirrors (w : Oracle) (e : Event (Locked StoreLock GuardedSig)) (g g' : Globals)
    (pa pa' : Prog (TaskSig StoreSig) α) : Prop :=
  (g' = g ∧ pa' = pa ∧ unlockedEvent e = none) ∨
    ∃ o k a, pa = .act o k ∧ perform w o g = some (a, g') ∧ pa' = k a ∧
      unlockedEvent e = if o.takesLock then none else some ⟨o, a⟩

section Simulation

variable (hstate : s.data = g.withRecords s.data.store.networkRecords)
  (hsettled : (s.locks .networkRecords).writer = false →
    s.data.store.networkRecords = g.store.networkRecords)
  (hperf : LockedState.perform performGuarded w op s = some (r, s'))

include hstate hsettled hperf

theorem Match.step_amid {o : TaskOp StoreSig} {rest : LockedProg o.Res}
    (k' : o.Res → Prog (TaskSig StoreSig) α)
    (h : Amid g.store.config g.store.networkRecords s.data.store.networkRecords o q rest)
    (hp : (rest.bind fun r => (k' r).expand implement) = .act op k) :
    ∃ g' pa', Keeps q (q.next op r) s.data s'.data g g' ∧
      Match g.store.config g'.store.networkRecords s'.data.store.networkRecords (q.next op r) (k r)
        pa' ∧
      Mirrors w.2 ⟨op, r⟩ g g' (.act o k') pa' := by
  cases rest with
  | ret a => exact absurd rfl (h.unfinished a)
  | act op k₀ =>
    cases hp
    have hinner : unlockedEvent ⟨op, r⟩ = none := h.unlockedEvent_eq_none r
    obtain ⟨g', hkeeps, ⟨rfl, hamid⟩ | ⟨a, hk, hq, hperf'⟩⟩ := h.step hstate hsettled hperf
    · exact ⟨g', _, hkeeps, .amid k' hamid, .inl ⟨rfl, rfl, hinner⟩⟩
    · refine ⟨g', k' a, hkeeps, ?_, .inr ⟨o, k', a, rfl, hperf', rfl, ?_⟩⟩
      · show Match _ _ _ _ ((k₀ r).bind _) _
        rw [hk, hq]
        exact .between (k' a)
      · rw [hinner, if_pos h.takesLock]

/-- One step of a task under the locks. -/
theorem Match.step
    (h : Match g.store.config g.store.networkRecords s.data.store.networkRecords q p pa)
    (hp : p = .act op k) :
    ∃ g' pa', Keeps q (q.next op r) s.data s'.data g g' ∧
      Match g.store.config g'.store.networkRecords s'.data.store.networkRecords (q.next op r) (k r)
        pa' ∧
      Mirrors w.2 ⟨op, r⟩ g g' pa pa' := by
  cases h with
  | amid k' hamid => exact Match.step_amid hstate hsettled hperf k' hamid hp
  | between pa =>
    cases pa with
    | ret a => cases hp
    | act o k' =>
      obtain ⟨hfree, himpl, hoverlooks⟩ | ⟨htakesLock, hunfinished, hsection⟩ := implement_cases o
      · -- The operation takes no lock, and is one step on both sides.
        rw [expand_act, himpl] at hp
        cases hp
        obtain ⟨⟨r, data⟩, hbase, heq⟩ := Option.map_eq_some_iff.mp hperf
        cases heq
        have hbase : perform w.2 o s.data = some (r, data) := hbase
        rw [hstate, hoverlooks.perform_withRecords] at hbase
        obtain ⟨⟨r, g'⟩, hg, heq⟩ := Option.map_eq_some_iff.mp hbase
        cases heq
        obtain ⟨hconfig, hrecords⟩ := hoverlooks.keeps _ _ _ _ hg
        refine ⟨g', k' r, ⟨rfl, hconfig, .inl ⟨rfl, hrecords⟩, ?_⟩, .between (k' r),
          .inr ⟨o, k', r, rfl, hg, rfl, ?_⟩⟩
        · intro _ hor
          exact (hor.resolve_left List.not_mem_nil).trans hrecords.symm
        · rw [hfree]
          rfl
      · exact Match.step_amid hstate hsettled hperf k' ⟨htakesLock, hunfinished,
          implement_follows o, .outside (fun ⟨_, hm⟩ => List.not_mem_nil hm) (hsection _)⟩ hp

end Simulation

end Match

/-! ## The proxy under the locks and without them -/

/-- The entries of operations that take no lock, under the locks. -/
def unlockedEntries (log : List (ℕ × Event (Locked StoreLock GuardedSig))) :
    List (ℕ × Event (TaskSig StoreSig)) :=
  log.filterMap fun x => (unlockedEvent x.2).map fun e => (x.1, e)

/-- The entries of operations that take no lock, without them. -/
def lockFreeEntries (log : List (ℕ × Event (TaskSig StoreSig))) :
    List (ℕ × Event (TaskSig StoreSig)) :=
  log.filter fun x => ! x.2.op.takesLock

/-- The proxy under the locks next to the proxy whose store is atomic. -/
structure Refines (p : LockedPool) (a : ProxyPool) : Prop where
  /-- The states differ in the records at most. -/
  state : p.state.data = a.state.withRecords p.state.data.store.networkRecords
  /-- Where no task writes the records, they are the same. -/
  settled : (∀ t ∈ p.threads, ¬ WritesRecords t.holding) →
    p.state.data.store.networkRecords = a.state.store.networkRecords
  /-- There are as many tasks. -/
  length : a.threads.length = p.threads.length
  /-- The tasks stand at the same points. -/
  tasks : ∀ (i : ℕ) t u, p.threads[i]? = some t → a.threads[i]? = some u →
    u.tag = t.tag ∧ Match a.state.store.config a.state.store.networkRecords
      p.state.data.store.networkRecords t.holding t.prog u.prog
  /-- What takes no lock happens in the same order, with the same answers. -/
  log : unlockedEntries p.log = lockFreeEntries a.log

section Refines

variable {X : Externals} {config : Config} {now : UInt64} {moves : List (Move Job (Bool × Oracle))}

/-- A step under the locks is no move or one move without them. -/
theorem Mirrors.move {a : ProxyPool} {u : ProxyTask} {i : ℕ} {w : Oracle} {g' : Globals}
    {e : Event (Locked StoreLock GuardedSig)} {pa' : Prog (TaskSig StoreSig) (Option Response)}
    (h : Mirrors w e a.state g' u.prog pa') (hu : a.threads[i]? = some u) :
    ∃ (ms : List (Move Job Oracle)) (u' : ProxyTask), ms.length ≤ 1 ∧ u'.tag = u.tag ∧
      u'.prog = pa' ∧ (ms.foldl (system X).move a).state = g' ∧
      (ms.foldl (system X).move a).threads = a.threads.set i u' ∧
      lockFreeEntries (ms.foldl (system X).move a).log =
        lockFreeEntries a.log ++ ((unlockedEvent e).map fun e => (i, e)).toList := by
  obtain ⟨hlt, hget⟩ := List.getElem?_eq_some_iff.mp hu
  obtain ⟨rfl, rfl, hnone⟩ | ⟨o, k, r, hprog, hperf, rfl, hevent⟩ := h
  · refine ⟨[], u, by decide, rfl, rfl, rfl, ?_, ?_⟩
    · rw [← hget, List.set_getElem_self]
      rfl
    · rw [hnone]
      exact (List.append_nil _).symm
  · refine ⟨[.step i w], u.advance ⟨o, r⟩ (k r), le_rfl, rfl, rfl, ?_⟩
    rw [List.foldl_cons, List.foldl_nil, (system X).move_step_of_perform hu hprog hperf]
    refine ⟨rfl, rfl, ?_⟩
    rw [hevent, lockFreeEntries, lockFreeEntries, List.filter_append]
    cases htakesLock : o.takesLock <;> simp [htakesLock]

/-- Where the lock of the records has no writer, no task holds it for writing. -/
theorem not_writes_of_writer
    (hwriter : ((runLockedProxy X config now moves).state.locks .networkRecords).writer = false) :
    ∀ t ∈ (runLockedProxy X config now moves).threads, ¬ WritesRecords t.holding := by
  intro t ht hwrites
  have hholds : 1 ≤ ((runLockedProxy X config now moves).state.locks .networkRecords).holders
      .write := System.one_le_holders (Job.lockedProgram_follows X) ht hwrites
  rw [RwLock.holders, hwriter] at hholds
  exact absurd hholds (by decide)

theorem Refines.spawn {p : LockedPool} {a : ProxyPool} (h : Refines p a) (job : Job) :
    Refines ((System.locked (Job.lockedProgram X) performGuarded).move p (.spawn job))
      ((system X).move a (.spawn job)) where
  state := h.state
  settled hnone := h.settled fun t ht => hnone t (List.mem_append_left _ ht)
  length := by simp [System.move, h.length]
  tasks i t u ht hu := by
    simp only [System.move] at ht hu ⊢
    rcases Nat.lt_trichotomy i p.threads.length with hlt | rfl | hgt
    · rw [List.getElem?_append_left hlt] at ht
      rw [List.getElem?_append_left (by rwa [h.length])] at hu
      exact h.tasks i t u ht hu
    · rw [List.getElem?_concat_length] at ht
      rw [← h.length, List.getElem?_concat_length] at hu
      cases ht
      cases hu
      exact ⟨rfl, .between (job.program X)⟩
    · rw [List.getElem?_eq_none (by simp; omega)] at ht
      cases ht
  log := h.log

theorem holding_advance {κ α : Type} (t : Thread (Locked StoreLock GuardedSig) κ α)
    (e : Event (Locked StoreLock GuardedSig)) (p : LockedProg α) :
    (t.advance e p).holding = t.holding.next e.op e.res := by
  simp [Thread.holding]

/-- The simulation: one more move under the locks is no move or one move without them. -/
theorem Refines.move {a : ProxyPool} (h : Refines (runLockedProxy X config now moves) a)
    (m : Move Job (Bool × Oracle)) :
    ∃ ms : List (Move Job Oracle), ms.length ≤ 1 ∧
      Refines (runLockedProxy X config now (moves ++ [m])) (ms.foldl (system X).move a) := by
  have hsnoc : runLockedProxy X config now (moves ++ [m]) =
      (System.locked (Job.lockedProgram X) performGuarded).move
        (runLockedProxy X config now moves) m := System.run_snoc _ _ _ _
  cases m with
  | spawn job => exact ⟨[.spawn job], le_rfl, hsnoc ▸ h.spawn job⟩
  | step i w =>
    by_cases hstuck : ∀ t, (runLockedProxy X config now moves).threads[i]? = some t → ∀ o k,
        t.prog = .act o k → LockedState.perform performGuarded w o
          (runLockedProxy X config now moves).state = none
    · rw [System.move_step_stuck _ hstuck] at hsnoc
      exact ⟨[], by decide, hsnoc ▸ h⟩
    · push Not at hstuck
      obtain ⟨t, ht, op, k, hprog, hne⟩ := hstuck
      obtain ⟨⟨r, s'⟩, hperf⟩ := Option.ne_none_iff_exists'.mp hne
      rw [System.move_step_of_perform _ ht hprog hperf] at hsnoc
      -- The same task of the other proxy.
      have hi : i < (runLockedProxy X config now moves).threads.length :=
        (List.getElem?_eq_some_iff.mp ht).1
      have hlt : i < a.threads.length := h.length ▸ hi
      have hu : a.threads[i]? = some a.threads[i] := List.getElem?_eq_getElem hlt
      obtain ⟨htag, hmatch⟩ := h.tasks i t _ ht hu
      obtain ⟨g', pa', hkeeps, hmatch', hmirrors⟩ := Match.step h.state
        (fun hwriter => h.settled (not_writes_of_writer hwriter)) hperf hmatch hprog
      obtain ⟨ms, u', hlen, htag', hprog', hstate, hthreads, hlog⟩ := hmirrors.move hu
      refine ⟨ms, hlen, ?_⟩
      rw [hsnoc]
      refine ⟨?_, ?_, ?_, ?_, ?_⟩
      · rw [hstate]
        exact hkeeps.state
      · intro hnone
        rw [hstate]
        have hself := hnone (t.advance ⟨op, r⟩ (k r)) (List.mem_set hi _)
        rw [holding_advance] at hself
        refine hkeeps.settles hself ?_
        by_cases hwrites : WritesRecords t.holding
        · exact .inl hwrites
        · refine .inr (h.settled fun v hv => ?_)
          obtain ⟨j, hj⟩ := List.mem_iff_getElem?.mp hv
          by_cases hij : i = j
          · subst hij
            cases ht.symm.trans hj
            exact hwrites
          · exact hnone v (List.mem_of_getElem? ((List.getElem?_set_ne hij).trans hj))
      · rw [hthreads, List.length_set, List.length_set, h.length]
      · intro j v v' hv hv'
        rw [hthreads] at hv'
        rw [hstate, hkeeps.config]
        by_cases hij : i = j
        · subst hij
          rw [List.getElem?_set_self hi] at hv
          rw [List.getElem?_set_self hlt] at hv'
          cases hv
          cases hv'
          rw [holding_advance, hprog']
          exact ⟨htag'.trans htag, hmatch'⟩
        · rw [List.getElem?_set_ne hij] at hv hv'
          obtain ⟨hvtag, hvmatch⟩ := h.tasks j v v' hv hv'
          refine ⟨hvtag, ?_⟩
          obtain ⟨hrecords, hrecords'⟩ | hwrites := hkeeps.writes
          · rw [hrecords, hrecords']
            exact hvmatch
          · -- The records may have changed, but then no other task holds their lock.
            refine hvmatch.of_not_holds ?_
            rintro ⟨m, hm⟩
            exact System.exclusive (Job.lockedProgram_follows X) ht hv hij hwrites hm
      · rw [hlog, ← h.log, unlockedEntries, unlockedEntries, List.filterMap_append,
          List.filterMap_cons, List.filterMap_nil]
        cases unlockedEvent ⟨op, r⟩ <;> rfl

end Refines

/-- What the proxy under the locks and the proxy whose store is atomic have in common. -/
structure Agrees (p : LockedPool) (a : ProxyPool) : Prop where
  /-- They have started the same tasks. -/
  tags : p.threads.map Thread.tag = a.threads.map Thread.tag
  /-- What a task has returned under the locks, it has returned. -/
  answers : ∀ (i : ℕ) t r, p.threads[i]? = some t → t.prog = .ret r →
    ∃ u, a.threads[i]? = some u ∧ u.prog = .ret r
  /-- What takes no lock happens in the same order, with the same answers. -/
  log : unlockedEntries p.log = lockFreeEntries a.log
  /-- Where no task writes the records, the shared state is the same. -/
  state : (∀ t ∈ p.threads, ¬ WritesRecords t.holding) → p.state.data = a.state

theorem Refines.agrees {p : LockedPool} {a : ProxyPool} (h : Refines p a) : Agrees p a where
  tags := by
    refine List.ext_getElem? fun i => ?_
    rw [List.getElem?_map, List.getElem?_map]
    cases ht : p.threads[i]? with
    | none =>
      rw [List.getElem?_eq_none]
      · rfl
      · rw [h.length]
        exact List.getElem?_eq_none_iff.mp ht
    | some t =>
      have hlt : i < a.threads.length := h.length ▸ (List.getElem?_eq_some_iff.mp ht).1
      have hu : a.threads[i]? = some a.threads[i] := List.getElem?_eq_getElem hlt
      rw [hu, Option.map_some, Option.map_some, (h.tasks i t _ ht hu).1]
  answers i t r ht hret := by
    have hlt : i < a.threads.length := h.length ▸ (List.getElem?_eq_some_iff.mp ht).1
    have hu : a.threads[i]? = some a.threads[i] := List.getElem?_eq_getElem hlt
    exact ⟨_, hu, (h.tasks i t _ ht hu).2.returned hret⟩
  log := h.log
  state hnone := by
    rw [h.state, h.settled hnone]
    rfl

/-- The store is atomic. Every move of a run under the locks is at most one move of a run in which
the operations on the store are atomic, and after every one of them the two agree. -/
theorem locked_refines (X : Externals) (config : Config) (now : UInt64)
    (moves : List (Move Job (Bool × Oracle))) :
    ∃ chunks : List (List (Move Job Oracle)), chunks.length = moves.length ∧
      (∀ ms ∈ chunks, ms.length ≤ 1) ∧
      ∀ n, Agrees (runLockedProxy X config now (moves.take n))
        (runProxy X config now (chunks.take n).flatten) := by
  suffices h : ∃ chunks : List (List (Move Job Oracle)), chunks.length = moves.length ∧
      (∀ ms ∈ chunks, ms.length ≤ 1) ∧
      ∀ n, Refines (runLockedProxy X config now (moves.take n))
        (runProxy X config now (chunks.take n).flatten) by
    obtain ⟨chunks, hlength, hshort, hrefines⟩ := h
    exact ⟨chunks, hlength, hshort, fun n => (hrefines n).agrees⟩
  induction moves using List.reverseRecOn with
  | nil =>
    refine ⟨[], rfl, nofun, fun n => ?_⟩
    rw [List.take_nil, List.take_nil]
    refine ⟨rfl, fun _ => rfl, rfl, fun i t u ht => ?_, rfl⟩
    cases List.getElem?_nil.symm.trans ht
  | append_singleton moves m ih =>
    obtain ⟨chunks, hlength, hshort, hrefines⟩ := ih
    have hlast := hrefines moves.length
    rw [List.take_length, ← hlength, List.take_length] at hlast
    obtain ⟨ms, hms, hnext⟩ := hlast.move m
    refine ⟨chunks ++ [ms], by simp [hlength], ?_, fun n => ?_⟩
    · simpa [or_imp, forall_and] using ⟨hshort, hms⟩
    · by_cases hn : n ≤ moves.length
      · rw [List.take_append_of_le_length hn, List.take_append_of_le_length (hlength ▸ hn)]
        exact hrefines n
      · rw [List.take_of_length_le (by simp; omega), List.take_of_length_le (by simp; omega)]
        rw [List.flatten_append, List.flatten_singleton, runProxy, System.run, List.foldl_append]
        exact hnext

end Bifrost
