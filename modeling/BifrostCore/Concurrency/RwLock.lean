import Mathlib.Algebra.BigOperators.Group.List.Basic
import Mathlib.Algebra.Order.Group.Int
import BifrostCore.Concurrency.Pool

/-!
# Reader-writer locks

Tasks that take fair reader-writer locks around their operations. A lock has a queue: a task joins
it, waits until it is the first and the lock admits it, and leaves the lock again when its guard is
dropped. A task that waits may itself be dropped; it then drops its guards and never goes on.

The lock is that of an asynchronous runtime, `tokio::sync::RwLock`, whose code is not in the
repository. What is taken over of it is what it documents: any number of readers or one writer hold
it; the tasks that wait are served first in, first out, so that a reader waits behind a writer that
came before it; and a task that is dropped while it waits loses its place.

* `RwLock` — the state of one lock.
* `Locked L S` — the signature `S` with the operations on locks `L` around it.
* `LockedState.perform` — the effect of these operations.
* `RwLock.Change` — what an event does to the lock it is about.
* `System.locks_exclusive` — nobody holds a lock for writing while others hold it.
-/

namespace Concurrency

/-! ## One lock -/

/-- What a lock is taken for. -/
inductive Mode where
  | read | write
  deriving DecidableEq, Repr

/-- A reader-writer lock with a fair queue. -/
structure RwLock where
  /-- The ticket of the next task to join the queue. -/
  nextTicket : ℕ
  /-- The tasks that wait, by their tickets, the first first. -/
  queue : List (ℕ × Mode)
  /-- The number of tasks that hold it for reading. -/
  readers : ℕ
  /-- A task holds it for writing. -/
  writer : Bool

namespace RwLock

/-- A lock nobody holds or waits for. -/
def free : RwLock where
  nextTicket := 0
  queue := []
  readers := 0
  writer := false

/-- The lock may be taken now. -/
def admits (lock : RwLock) : Mode → Bool
  | .read => ! lock.writer
  | .write => ! lock.writer && lock.readers == 0

/-- A task joins the queue. -/
def enqueue (lock : RwLock) (m : Mode) : RwLock :=
  { lock with
    nextTicket := lock.nextTicket + 1
    queue := lock.queue ++ [(lock.nextTicket, m)] }

/-- The lock is taken. -/
def enter (lock : RwLock) : Mode → RwLock
  | .read => { lock with readers := lock.readers + 1 }
  | .write => { lock with writer := true }

/-- The first of the queue takes the lock, if it may. -/
def grant (lock : RwLock) (x : ℕ × Mode) : Option RwLock :=
  if lock.queue.head? = some x ∧ lock.admits x.2 = true then
    some ({ lock with queue := lock.queue.tail }.enter x.2)
  else none

/-- A task leaves the queue without the lock. -/
def withdraw (lock : RwLock) (x : ℕ × Mode) : Option RwLock :=
  if x ∈ lock.queue then some { lock with queue := lock.queue.erase x } else none

/-- A guard is dropped. -/
def leave (lock : RwLock) : Mode → Option RwLock
  | .read => if 0 < lock.readers then some { lock with readers := lock.readers - 1 } else none
  | .write => if lock.writer then some { lock with writer := false } else none

/-- The number of tasks that hold the lock in a mode. -/
def holders (lock : RwLock) : Mode → ℤ
  | .read => lock.readers
  | .write => if lock.writer then 1 else 0

/-- Who writes is alone. -/
def Exclusive (lock : RwLock) : Prop := lock.writer = true → lock.readers = 0

section

variable {lock lock' : RwLock} {m m' : Mode} {x : ℕ × Mode}

theorem grant_eq_some (h : lock.grant x = some lock') :
    lock.queue = x :: lock.queue.tail ∧ lock.admits x.2 = true ∧
      lock' = { lock with queue := lock.queue.tail }.enter x.2 := by
  unfold grant at h
  split at h
  · next hgrant =>
    cases h
    exact ⟨List.eq_cons_of_mem_head? hgrant.1, hgrant.2, rfl⟩
  · cases h

theorem withdraw_eq_some (h : lock.withdraw x = some lock') :
    x ∈ lock.queue ∧ lock' = { lock with queue := lock.queue.erase x } := by
  unfold withdraw at h
  split at h
  · next hmem =>
    cases h
    exact ⟨hmem, rfl⟩
  · cases h

/-- A lock admits no one next to a writer. -/
theorem writer_of_admits (h : lock.admits m = true) : lock.writer = false := by
  cases m <;> simp_all [admits]

theorem holders_enter (h : lock.admits m = true) :
    (lock.enter m).holders m' = lock.holders m' + if m' = m then 1 else 0 := by
  cases m <;> cases m' <;> simp_all [enter, holders, admits]

theorem holders_leave (h : lock.leave m = some lock') :
    lock'.holders m' = lock.holders m' - if m' = m then 1 else 0 := by
  cases m with
  | read =>
    rw [leave] at h
    split at h
    · next hpos =>
      cases h
      cases m' <;> simp [holders]
      omega
    · cases h
  | write =>
    rw [leave] at h
    split at h
    · next hwriter =>
      cases h
      cases m' <;> simp [holders, hwriter]
    · cases h

/-- A lock that is held can be left. -/
theorem isSome_leave (h : 1 ≤ lock.holders m) : (lock.leave m).isSome := by
  cases m with
  | read =>
    have hpos : 0 < lock.readers := by
      simp only [holders] at h
      omega
    simp [leave, hpos]
  | write =>
    cases hwriter : lock.writer with
    | true => simp [leave, hwriter]
    | false => simp [holders, hwriter] at h

@[simp] theorem queue_enter : (lock.enter m).queue = lock.queue := by
  cases m <;> rfl

theorem queue_leave (h : lock.leave m = some lock') : lock'.queue = lock.queue := by
  cases m <;> rw [leave] at h <;> split at h <;> cases h <;> rfl

theorem holders_write_le (lock : RwLock) : lock.holders .write ≤ 1 := by
  simp only [holders]
  split <;> decide

/-- Next to a writer there are no readers. -/
theorem Exclusive.holders_read (h : lock.Exclusive) (hwriter : 1 ≤ lock.holders .write) :
    lock.holders .read = 0 := by
  simp only [holders] at hwriter ⊢
  split at hwriter
  · next hset => simp [h hset]
  · exact absurd hwriter (by decide)

theorem Exclusive.enter (h : lock.Exclusive) (hadmits : lock.admits m = true) :
    (lock.enter m).Exclusive := by
  cases m <;> simp_all [Exclusive, RwLock.enter, admits]

theorem Exclusive.leave (h : lock.Exclusive) (hleave : lock.leave m = some lock') :
    lock'.Exclusive := by
  cases m <;> rw [RwLock.leave] at hleave <;> split at hleave <;> cases hleave
  · intro hwriter
    simp [h hwriter]
  · exact nofun

end

end RwLock

/-! ## The signature -/

/-- The operations of `S`, and those on locks. -/
inductive LockedOp (L : Type) (S : Sig) where
  /-- Join the queue of a lock. -/
  | request (l : L) (m : Mode)
  /-- Wait until the lock is taken, or until the task is dropped. -/
  | await (l : L) (x : ℕ × Mode)
  /-- Drop the guard of a lock. -/
  | release (l : L) (m : Mode)
  /-- The end of a task that was dropped. -/
  | dropped
  /-- An operation of `S`. -/
  | plain (o : S.Op)

/-- The answer of an operation: a ticket, whether the lock is taken, or that of `S`. -/
@[reducible]
def LockedOp.Res {L : Type} {S : Sig} : LockedOp L S → Type
  | .request _ _ => ℕ
  | .await _ _ => Bool
  | .release _ _ => Unit
  | .dropped => Empty
  | .plain o => S.Res o

/-- The signature `S` with locks around it. -/
@[reducible]
def Locked (L : Type) (S : Sig) : Sig := ⟨LockedOp L S, LockedOp.Res⟩

/-- Locks around a shared state. -/
structure LockedState (L σ : Type) where
  /-- The state of every lock. -/
  locks : L → RwLock
  /-- What they are around. -/
  data : σ

namespace LockedState

variable {L σ ω : Type} [DecidableEq L] {S : Sig}

/-- Nobody holds a lock or waits for one. -/
def free (data : σ) : LockedState L σ where
  locks _ := .free
  data

/-- One lock is replaced. -/
def setLock (s : LockedState L σ) (l : L) (lock : RwLock) : LockedState L σ :=
  { s with locks := Function.update s.locks l lock }

/-- The effect of an operation. At a wait, the environment may drop the task. -/
def perform (base : ω → Handler S σ) (w : Bool × ω) :
    Handler (Locked L S) (LockedState L σ)
  | .request l m, s => some ((s.locks l).nextTicket, s.setLock l ((s.locks l).enqueue m))
  | .await l x, s =>
    if w.1 then ((s.locks l).withdraw x).map fun lock => (false, s.setLock l lock)
    else ((s.locks l).grant x).map fun lock => (true, s.setLock l lock)
  | .release l m, s => ((s.locks l).leave m).map fun lock => ((), s.setLock l lock)
  | .dropped, _ => none
  | .plain o, s => (base w.2 o s.data).map fun x => (x.1, { s with data := x.2 })

end LockedState

/-! ## Programs -/

namespace Prog

variable {L : Type} {S : Sig} {α : Type}

/-- A task that is dropped drops its guards. -/
def drop : List (L × Mode) → Prog (Locked L S) α
  | [] => .act (S := Locked L S) .dropped fun r => nomatch r
  | (l, m) :: held => .act (S := Locked L S) (.release l m) fun _ => drop held

/-- `.read().await` and `.write().await`, when the guards of `held` are held. -/
def acquire (l : L) (m : Mode) (held : List (L × Mode)) : Prog (Locked L S) Unit :=
  .act (S := Locked L S) (.request l m) fun ticket =>
    .act (S := Locked L S) (.await l (ticket, m)) fun granted =>
      if granted then .ret () else drop held

/-- A guard is dropped. -/
def release (l : L) (m : Mode) : Prog (Locked L S) Unit := .call (S := Locked L S) (.release l m)

/-- An operation of `S`. -/
def plain (o : S.Op) : Prog (Locked L S) (S.Res o) := .call (S := Locked L S) (.plain o)

end Prog

/-! ## What an operation does to the locks -/

section Effect

variable {L : Type} [DecidableEq L] {S : Sig}

/-- The guards of a lock a task has taken, less those it has dropped. -/
def guardWeight (l : L) (m : Mode) : Event (Locked L S) → ℤ
  | ⟨.await l' x, true⟩ => if (l', x.2) = (l, m) then 1 else 0
  | ⟨.release l' m', _⟩ => if (l', m') = (l, m) then -1 else 0
  | _ => 0

/-- The times a task has joined the queue of a lock with a ticket, less the times it has left. -/
def queueWeight (l : L) (x : ℕ × Mode) : Event (Locked L S) → ℤ
  | ⟨.request l' m, ticket⟩ => if (l', ticket, m) = (l, x) then 1 else 0
  | ⟨.await l' x', _⟩ => if (l', x') = (l, x) then -1 else 0
  | _ => 0
/-- What an event does to the lock it is about. -/
inductive RwLock.Change {S : Sig} (l : L) : Event (Locked L S) → RwLock → RwLock → Prop
  | join {lock : RwLock} {m : Mode} :
      Change l ⟨.request l m, lock.nextTicket⟩ lock (lock.enqueue m)
  | withdraw {lock : RwLock} {x : ℕ × Mode} : x ∈ lock.queue →
      Change l ⟨.await l x, false⟩ lock { lock with queue := lock.queue.erase x }
  | take {lock : RwLock} {x : ℕ × Mode} {queue : List (ℕ × Mode)} : lock.queue = x :: queue →
      lock.admits x.2 = true →
      Change l ⟨.await l x, true⟩ lock ({ lock with queue }.enter x.2)
  | leave {lock lock' : RwLock} {m : Mode} : lock.leave m = some lock' →
      Change l ⟨.release l m, ()⟩ lock lock'

namespace RwLock.Change

variable {l l' : L} {e : Event (Locked L S)} {lock lock' : RwLock}

theorem holders (h : Change l e lock lock') (m : Mode) :
    lock'.holders m = lock.holders m + guardWeight l m e := by
  cases h with
  | join => cases m <;> exact (add_zero _).symm
  | withdraw _ => cases m <;> exact (add_zero _).symm
  | @take _ x queue _ hadmits =>
    have hadmits' : RwLock.admits { lock with queue } x.2 = true := by
      cases hx : x.2 <;> simpa [admits, hx] using hadmits
    show _ = _ + if (l, x.2) = (l, m) then (1 : ℤ) else 0
    rw [holders_enter hadmits']
    by_cases hm : m = x.2
    · simp only [hm, if_pos]
      cases x.2 <;> rfl
    · simp only [if_neg hm, Prod.mk.injEq, true_and, if_neg (Ne.symm hm)]
      cases m <;> rfl
  | @leave _ _ m' hleave =>
    show _ = _ + if (l, m') = (l, m) then (-1 : ℤ) else 0
    rw [holders_leave hleave]
    by_cases hm : m = m'
    · simp [hm]
      omega
    · simp [hm, Ne.symm hm]

theorem count_queue (h : Change l e lock lock') (x : ℕ × Mode) :
    (lock'.queue.count x : ℤ) = lock.queue.count x + queueWeight l x e := by
  cases h with
  | @join _ m =>
    by_cases hx : (lock.nextTicket, m) = x
    · simp [enqueue, queueWeight, hx]
    · simp [enqueue, queueWeight, hx]
  | @withdraw _ x' hmem =>
    by_cases hx : x' = x
    · have hpos : 0 < lock.queue.count x := List.count_pos_iff.mpr (hx ▸ hmem)
      simp only [queueWeight, hx, List.count_erase_self, if_pos]
      omega
    · simp [queueWeight, hx, List.count_erase_of_ne (Ne.symm hx)]
  | @take _ x' queue hqueue _ =>
    by_cases hx : x' = x
    · simp [queueWeight, hqueue, hx]
    · simp [queueWeight, hqueue, hx, List.count_cons_of_ne hx]
  | leave hleave =>
    rw [queue_leave hleave]
    simp [queueWeight]

omit [DecidableEq L] in
theorem exclusive (h : Change l e lock lock') (hexcl : lock.Exclusive) : lock'.Exclusive := by
  cases h with
  | join => exact hexcl
  | withdraw _ => exact hexcl
  | @take _ x queue _ hadmits =>
    have hdequeued : RwLock.Exclusive { lock with queue } := hexcl
    refine hdequeued.enter ?_
    cases hx : x.2 <;> simpa [admits, hx] using hadmits
  | leave hleave => exact RwLock.Exclusive.leave hexcl hleave

theorem guardWeight_of_ne (h : Change l e lock lock') (hne : l' ≠ l) (m : Mode) :
    guardWeight l' m e = 0 := by
  cases h <;> simp [guardWeight, Ne.symm hne]

theorem queueWeight_of_ne (h : Change l e lock lock') (hne : l' ≠ l) (x : ℕ × Mode) :
    queueWeight l' x e = 0 := by
  cases h <;> simp [queueWeight, Ne.symm hne]

end RwLock.Change

namespace LockedState

variable {σ ω : Type} {base : ω → Handler S σ} {w : Bool × ω} {o : LockedOp L S} {r : o.Res}
  {s s' : LockedState L σ}

theorem locks_setLock (s : LockedState L σ) (l l' : L) (lock : RwLock) :
    (s.setLock l lock).locks l' = if l' = l then lock else s.locks l' :=
  Function.update_apply _ _ _ _

/-- An operation is about one lock, or about no lock. -/
theorem perform_cases (h : perform base w o s = some (r, s')) :
    (∃ l lock, RwLock.Change l ⟨o, r⟩ (s.locks l) lock ∧ s' = s.setLock l lock) ∨
      s'.locks = s.locks ∧ ∃ o', o = .plain o' := by
  cases o with
  | request l m =>
    cases h
    exact .inl ⟨l, _, .join, rfl⟩
  | await l x =>
    rw [perform] at h
    split at h
    · obtain ⟨lock, hlock, heq⟩ := Option.map_eq_some_iff.mp h
      cases heq
      obtain ⟨hmem, rfl⟩ := RwLock.withdraw_eq_some hlock
      exact .inl ⟨l, _, .withdraw hmem, rfl⟩
    · obtain ⟨lock, hlock, heq⟩ := Option.map_eq_some_iff.mp h
      cases heq
      obtain ⟨hqueue, hadmits, rfl⟩ := RwLock.grant_eq_some hlock
      exact .inl ⟨l, _, .take hqueue hadmits, rfl⟩
  | release l m =>
    obtain ⟨lock, hlock, heq⟩ := Option.map_eq_some_iff.mp h
    cases heq
    exact .inl ⟨l, lock, .leave hlock, rfl⟩
  | dropped => cases h
  | plain o =>
    obtain ⟨x, -, heq⟩ := Option.map_eq_some_iff.mp h
    cases heq
    exact .inr ⟨rfl, o, rfl⟩

/-- The operations on locks leave alone what is behind the locks. -/
theorem data_eq (h : perform base w o s = some (r, s')) (hplain : ∀ o', o ≠ .plain o') :
    s'.data = s.data := by
  obtain ⟨l, lock, -, rfl⟩ | ⟨-, o', ho'⟩ := perform_cases h
  · rfl
  · exact absurd ho' (hplain o')

/-- A lock is taken when it admits it. -/
theorem admits_of_await {l : L} {x : ℕ × Mode}
    (h : perform base w (.await l x) s = some (true, s')) : (s.locks l).admits x.2 = true := by
  obtain ⟨l', lock, hchange, -⟩ | ⟨-, o', ho'⟩ := perform_cases h
  · cases hchange with
    | take _ hadmits => exact hadmits
  · cases ho'

/-- A quantity of a lock that the events about the lock move by their weight is moved so by all
operations. -/
theorem read_perform (read : RwLock → ℤ) (weight : L → Event (Locked L S) → ℤ)
    (hchange : ∀ l e lock lock', RwLock.Change l e lock lock' →
      read lock' = read lock + weight l e)
    (hother : ∀ l l' e lock lock', RwLock.Change l e lock lock' → l' ≠ l → weight l' e = 0)
    (hplain : ∀ l o r, weight l ⟨.plain o, r⟩ = 0)
    (h : perform base w o s = some (r, s')) (l : L) :
    read (s'.locks l) = read (s.locks l) + weight l ⟨o, r⟩ := by
  obtain ⟨l', lock, hlock, rfl⟩ | ⟨hlocks, o', rfl⟩ := perform_cases h
  · rw [locks_setLock]
    by_cases heq : l = l'
    · rw [if_pos heq, heq]
      exact hchange _ _ _ _ hlock
    · rw [if_neg heq, hother _ _ _ _ _ hlock heq, add_zero]
  · rw [hlocks, hplain, add_zero]

theorem exclusive_perform (h : perform base w o s = some (r, s'))
    (hexcl : ∀ l, (s.locks l).Exclusive) (l : L) : (s'.locks l).Exclusive := by
  obtain ⟨l', lock, hlock, rfl⟩ | ⟨hlocks, -⟩ := perform_cases h
  · rw [locks_setLock]
    split
    · exact hlock.exclusive (hexcl l')
    · exact hexcl l
  · rw [hlocks]
    exact hexcl l

end LockedState

/-! ## Pools of tasks -/

namespace System

variable {σ κ α ω : Type}

/-- Tasks with the given programs, around locks. -/
def locked (program : κ → Prog (Locked L S) α) (base : ω → Handler S σ) :
    System (Locked L S) (LockedState L σ) κ α (Bool × ω) where
  program
  perform := LockedState.perform base

/-- The pool a run leads to, when nobody holds a lock at its start. -/
abbrev lockedRun (program : κ → Prog (Locked L S) α) (base : ω → Handler S σ) (data : σ)
    (moves : List (Move κ (Bool × ω))) : Pool (Locked L S) (LockedState L σ) κ α :=
  (locked program base).run (.free data) moves

variable {program : κ → Prog (Locked L S) α} {base : ω → Handler S σ} {data : σ}
  {moves : List (Move κ (Bool × ω))} {t : Thread (Locked L S) κ α} {l : L} {m : Mode}
  {x : ℕ × Mode}

/-- Nobody holds a lock for writing while others hold it. -/
theorem locks_exclusive (l : L) :
    ((lockedRun program base data moves).state.locks l).Exclusive := by
  refine run_induction (C := fun (p : Pool _ (LockedState L σ) _ _) =>
    ∀ l, (p.state.locks l).Exclusive) (fun _ _ => rfl) (fun _ _ ih => ih) ?_ moves l
  intro s l t r log w o k a s' _ hperf ih
  exact LockedState.exclusive_perform hperf ih

end System

end Effect

end Concurrency
