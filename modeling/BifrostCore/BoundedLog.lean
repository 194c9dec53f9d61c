import Mathlib.Data.List.Infix
import Mathlib.Data.List.Induction
import Mathlib.Data.List.Nodup

/-!
# Bounded logs

A bounded log is a queue of keyed records: a record is appended at the end, and at the bound the
oldest one makes room; an update goes to the first record with a given key. Its purpose is that of
a window on an unbounded, append-only log in which every record collects the updates addressed to
its key.

* `push`, `modifyFirst` — the operations on the queue.
* `settled`, `history` — the append-only log: what each appended record has become.
* `run_suffix_history` — as long as no key is appended twice, the queue is a suffix of the log.
* `nodup_run` — the keys in the queue are then pairwise distinct.
* `length_run_le` — the queue holds no more than the bound, or one record where the bound is 0.
* `run_eq_drop_history` — the queue is the newest part of the log, as long as the bound allows.
* `slot_runFrom_suffix` — the record with a key, as long as it stays in the queue, is what the
  updates addressed to it have made of it.
-/

namespace BoundedLog

variable {ρ ι : Type}

/-- Update the first record that satisfies `p`; `none` when there is none. -/
def modifyFirst (p : ρ → Bool) (f : ρ → ρ) : List ρ → Option (List ρ)
  | [] => none
  | x :: xs => if p x then some (f x :: xs) else (modifyFirst p f xs).map (x :: ·)

/-- Append a record; at the bound, the oldest one makes room. -/
def push (cap : ℕ) (q : List ρ) (x : ρ) : List ρ :=
  (if cap ≤ q.length then q.tail else q) ++ [x]

/-- A call of a bounded log. -/
inductive Call (ρ ι : Type) where
  | append (x : ρ)
  | modify (i : ι) (f : ρ → ρ)

namespace Call

/-- The call does not change the key of a record. -/
def KeepsKey (key : ρ → ι) : Call ρ ι → Prop
  | .append _ => True
  | .modify _ f => ∀ x, key (f x) = key x

/-- The call appends a record that satisfies `p`, or keeps `p` of the record it updates. -/
def Keeps (p : ρ → Prop) : Call ρ ι → Prop
  | .append x => p x
  | .modify _ f => ∀ x, p x → p (f x)

/-- The record the call appends. -/
def appended : Call ρ ι → Option ρ
  | .append x => some x
  | .modify _ _ => none

end Call

/-! ## Updates -/

theorem modifyFirst_eq_none_iff {p : ρ → Bool} {f : ρ → ρ} {q : List ρ} :
    modifyFirst p f q = none ↔ ∀ x ∈ q, p x = false := by
  induction q with
  | nil => simp [modifyFirst]
  | cons x xs ih =>
    unfold modifyFirst
    by_cases hx : p x = true
    · simp [hx]
    · simp [hx, ih]

/-- An update only writes a record that satisfies `p`. -/
theorem modifyFirst_eq_some {p : ρ → Bool} {f : ρ → ρ} {q q' : List ρ}
    (h : modifyFirst p f q = some q') :
    ∃ l x r, q = l ++ x :: r ∧ (∀ y ∈ l, p y = false) ∧ p x = true ∧ q' = l ++ f x :: r := by
  induction q generalizing q' with
  | nil => cases h
  | cons x xs ih =>
    unfold modifyFirst at h
    by_cases hx : p x = true
    · rw [if_pos hx, Option.some.injEq] at h
      exact ⟨[], x, xs, rfl, by simp, hx, h.symm⟩
    · rw [if_neg hx, Option.map_eq_some_iff] at h
      obtain ⟨xs', hxs, rfl⟩ := h
      obtain ⟨l, y, r, rfl, hl, hy, rfl⟩ := ih hxs
      refine ⟨x :: l, y, r, rfl, ?_, hy, rfl⟩
      intro z hz
      rcases List.mem_cons.mp hz with rfl | hz
      · simpa using hx
      · exact hl z hz

/-- The update in two steps: the record is found, and it is updated where it is. -/
theorem modifyFirst_eq_findIdx? (p : ρ → Bool) (f : ρ → ρ) (q : List ρ) :
    modifyFirst p f q = (q.findIdx? p).map fun i => q.modify i f := by
  induction q with
  | nil => rfl
  | cons x q ih =>
    rw [modifyFirst, List.findIdx?_cons]
    by_cases hx : p x = true
    · simp [hx]
    · simp [hx, ih, Function.comp_def]

/-- An update passes over the records that do not satisfy `p`. -/
theorem modifyFirst_append {p : ρ → Bool} {f : ρ → ρ} {l : List ρ} {x : ρ}
    (hl : ∀ y ∈ l, p y = false) (hx : p x = true) (r : List ρ) :
    modifyFirst p f (l ++ x :: r) = some (l ++ f x :: r) := by
  induction l with
  | nil => simp [modifyFirst, hx]
  | cons y l ih =>
    have hy : p y = false := hl y (by simp)
    simp [modifyFirst, hy, ih fun z hz => hl z (by simp [hz])]

/-- An update only sees what it depends on: queues that look the same through `g` are updated alike
by updates that do the same to what is seen through `g`. -/
theorem map_modifyFirst_congr {τ : Type} {g : ρ → τ} {p : ρ → Bool} {f f' : ρ → ρ}
    (hp : ∀ x y, g x = g y → p x = p y) (hf : ∀ x y, g x = g y → g (f x) = g (f' y))
    {q q' : List ρ} (hq : q.map g = q'.map g) :
    (modifyFirst p f q).map (List.map g) = (modifyFirst p f' q').map (List.map g) := by
  induction q generalizing q' with
  | nil =>
    obtain rfl := List.map_eq_nil_iff.mp hq.symm
    rfl
  | cons x xs ih =>
    obtain ⟨y, ys, rfl, hxy, hrest⟩ := List.map_eq_cons_iff.mp hq.symm
    have ih := ih hrest.symm
    unfold modifyFirst
    rw [hp x y hxy.symm]
    split
    · simp [hf x y hxy.symm, hrest]
    · rw [Option.map_map, Option.map_map]
      have hcons : ∀ z : ρ, List.map g ∘ (z :: ·) = (g z :: ·) ∘ List.map g := fun _ => rfl
      rw [hcons, hcons, ← Option.map_map, ← Option.map_map, ih, hxy]

variable [DecidableEq ι] (key : ρ → ι)

/-- What an update addressed to `i` does to a record. -/
def touch (i : ι) (f : ρ → ρ) (x : ρ) : ρ := if key x = i then f x else x

variable {key}

theorem touch_of_ne {i : ι} {f : ρ → ρ} {x : ρ} (h : key x ≠ i) : touch key i f x = x :=
  if_neg h

theorem key_touch {i : ι} {f : ρ → ρ} (hf : ∀ x, key (f x) = key x) (x : ρ) :
    key (touch key i f x) = key x := by
  unfold touch
  split
  · exact hf x
  · rfl

theorem map_touch_of_notMem {i : ι} {f : ρ → ρ} {q : List ρ} (h : ∀ x ∈ q, key x ≠ i) :
    q.map (touch key i f) = q := by
  have hid : ∀ x ∈ q, touch key i f x = id x := fun x hx => touch_of_ne (h x hx)
  rw [List.map_congr_left hid, List.map_id]

/-- Where keys are distinct, an update touches exactly the record with its key. -/
theorem modifyFirst_eq_map {i : ι} {f : ρ → ρ} {q : List ρ} (hnodup : (q.map key).Nodup) :
    (modifyFirst (fun x => key x = i) f q).getD q = q.map (touch key i f) := by
  cases hq : modifyFirst (fun x => key x = i) f q with
  | none =>
    rw [modifyFirst_eq_none_iff] at hq
    exact (map_touch_of_notMem fun x hx => by simpa using hq x hx).symm
  | some q' =>
    -- The record that was updated stands between others, all of which have other keys.
    obtain ⟨l, x, r, rfl, hl, hx, rfl⟩ := modifyFirst_eq_some hq
    have hx : key x = i := by simpa using hx
    have hr : ∀ y ∈ r, key y ≠ i := by
      intro y hy heq
      rw [List.map_append, List.map_cons, List.nodup_append, List.nodup_cons] at hnodup
      exact hnodup.2.1.1 (List.mem_map.mpr ⟨y, hy, heq.trans hx.symm⟩)
    have hl : ∀ y ∈ l, key y ≠ i := fun y hy => by simpa using hl y hy
    rw [Option.getD_some, List.map_append, List.map_cons, map_touch_of_notMem hl,
      map_touch_of_notMem hr, touch, if_pos hx]

/-! ## The queue as a window on the log -/

variable (key)

/-- What a record has become after some calls: every update addressed to its key is applied to
it, in call order. -/
def settled (x : ρ) (calls : List (Call ρ ι)) : ρ :=
  calls.foldl (fun x c => match c with
    | .append _ => x
    | .modify i f => touch key i f x) x

/-- The append-only log: the appended records in order, each as the calls after it settled it. -/
def history : List (Call ρ ι) → List ρ
  | [] => []
  | .append x :: calls => settled key x calls :: history calls
  | .modify _ _ :: calls => history calls

/-- One call on the queue. -/
def step (cap : ℕ) (q : List ρ) : Call ρ ι → List ρ
  | .append x => push cap q x
  | .modify i f => (modifyFirst (fun x => key x = i) f q).getD q

/-- The queue after some calls, starting from the empty one. -/
def run (cap : ℕ) (calls : List (Call ρ ι)) : List ρ := calls.foldl (step key cap) []

variable {key}

omit [DecidableEq ι] in
/-- What makes room is the oldest record, if any. -/
theorem evict_suffix (cap : ℕ) (q : List ρ) :
    (if cap ≤ q.length then q.tail else q) <:+ q := by
  split
  · exact List.tail_suffix q
  · exact List.suffix_rfl

/-- What holds of every record in the queue, of an appended one, and is kept by an update holds of
every record after a call. -/
theorem forall_step {p : ρ → Prop} {cap : ℕ} {q : List ρ} {c : Call ρ ι} (hq : ∀ x ∈ q, p x)
    (hc : c.Keeps p) : ∀ x ∈ step key cap q c, p x := by
  cases c with
  | append y =>
    intro x hx
    rcases List.mem_append.mp hx with hx | hx
    · exact hq x ((evict_suffix cap q).subset hx)
    · rw [List.mem_singleton.mp hx]
      exact hc
  | modify i f =>
    intro x hx
    change x ∈ (modifyFirst (fun x => key x = i) f q).getD q at hx
    cases h : modifyFirst (fun x => key x = i) f q with
    | none =>
      rw [h] at hx
      exact hq x hx
    | some q' =>
      obtain ⟨l, y, r, rfl, -, -, rfl⟩ := modifyFirst_eq_some h
      rw [h, Option.getD_some, List.mem_append, List.mem_cons] at hx
      rcases hx with hx | rfl | hx
      · exact hq x (by simp [hx])
      · exact hc y (hq y (by simp))
      · exact hq x (by simp [hx])

theorem run_snoc (cap : ℕ) (calls : List (Call ρ ι)) (c : Call ρ ι) :
    run key cap (calls ++ [c]) = step key cap (run key cap calls) c := by
  simp [run]

theorem settled_snoc (x : ρ) (calls : List (Call ρ ι)) (i : ι) (f : ρ → ρ) :
    settled key x (calls ++ [.modify i f]) = touch key i f (settled key x calls) := by
  simp [settled]

theorem settled_append (x : ρ) (calls calls' : List (Call ρ ι)) :
    settled key x (calls ++ calls') = settled key (settled key x calls) calls' := by
  simp [settled]

theorem history_append (calls : List (Call ρ ι)) (x : ρ) :
    history key (calls ++ [.append x]) = history key calls ++ [x] := by
  induction calls with
  | nil => rfl
  | cons c calls ih =>
    cases c with
    | append y => simp [history, ih, settled]
    | modify i f => simp [history, ih]

theorem history_modify (calls : List (Call ρ ι)) (i : ι) (f : ρ → ρ) :
    history key (calls ++ [.modify i f]) = (history key calls).map (touch key i f) := by
  induction calls with
  | nil => rfl
  | cons c calls ih =>
    cases c with
    | append y => simp [history, ih, settled_snoc]
    | modify j g => simp [history, ih]

/-- The keys of the log are the appended ones. -/
theorem map_key_history {calls : List (Call ρ ι)} (hkeep : ∀ c ∈ calls, c.KeepsKey key) :
    (history key calls).map key = (calls.filterMap Call.appended).map key := by
  induction calls using List.reverseRecOn with
  | nil => rfl
  | append_singleton calls c ih =>
    have ih := ih fun c hc => hkeep c (by simp [hc])
    have hc := hkeep c (by simp)
    cases c with
    | append x => simp [history_append, ih, Call.appended]
    | modify i f =>
      have hkey : key ∘ touch key i f = key := funext (key_touch hc)
      rw [history_modify, List.map_map, hkey, ih]
      simp [Call.appended]

/-- Appending at the bound drops the oldest record, so a window stays a window. -/
theorem push_suffix {cap : ℕ} {q h : List ρ} (hq : q <:+ h) (x : ρ) :
    push cap q x <:+ h ++ [x] := by
  obtain ⟨t, rfl⟩ := (evict_suffix cap q).trans hq
  exact ⟨t, by simp [push]⟩

/-- As long as no key is appended twice, the queue is a contiguous suffix of the log. -/
theorem run_suffix_history (cap : ℕ) {calls : List (Call ρ ι)}
    (hkeep : ∀ c ∈ calls, c.KeepsKey key)
    (hnodup : ((calls.filterMap Call.appended).map key).Nodup) :
    run key cap calls <:+ history key calls := by
  induction calls using List.reverseRecOn with
  | nil => exact List.suffix_rfl
  | append_singleton calls c ih =>
    have hkeep' : ∀ c ∈ calls, c.KeepsKey key := fun c hc => hkeep c (by simp [hc])
    have hnodup' : ((calls.filterMap Call.appended).map key).Nodup := by
      rw [List.filterMap_append, List.map_append] at hnodup
      exact (List.nodup_append.mp hnodup).1
    have ih := ih hkeep' hnodup'
    rw [run_snoc]
    cases c with
    | append x =>
      rw [history_append]
      exact push_suffix ih x
    | modify i f =>
      -- With distinct keys, the first record an update finds is the only one the log touches.
      have hq : ((run key cap calls).map key).Nodup := by
        refine List.Nodup.sublist (ih.sublist.map key) ?_
        rw [map_key_history hkeep']
        exact hnodup'
      rw [history_modify, step, modifyFirst_eq_map hq]
      exact ih.map _

/-- The keys in the queue are then pairwise distinct. -/
theorem nodup_run (cap : ℕ) {calls : List (Call ρ ι)} (hkeep : ∀ c ∈ calls, c.KeepsKey key)
    (hnodup : ((calls.filterMap Call.appended).map key).Nodup) :
    ((run key cap calls).map key).Nodup := by
  refine List.Nodup.sublist ((run_suffix_history cap hkeep hnodup).sublist.map key) ?_
  rw [map_key_history hkeep]
  exact hnodup

/-! ## The bound -/

omit [DecidableEq ι] in
/-- The queue keeps within the bound once it holds a record, and a bound of 0 counts as 1. -/
theorem length_push_le {cap : ℕ} {q : List ρ} (hq : q.length ≤ max cap 1) (x : ρ) :
    (push cap q x).length ≤ max cap 1 := by
  rw [push, List.length_append, List.length_singleton]
  split
  · rw [List.length_tail]
    omega
  · omega

theorem length_modifyFirst (i : ι) (f : ρ → ρ) (q : List ρ) :
    ((modifyFirst (fun x => key x = i) f q).getD q).length = q.length := by
  cases h : modifyFirst (fun x => key x = i) f q with
  | none => rfl
  | some q' =>
    obtain ⟨l, x, r, rfl, -, -, rfl⟩ := modifyFirst_eq_some h
    simp

theorem length_run_le (cap : ℕ) (calls : List (Call ρ ι)) :
    (run key cap calls).length ≤ max cap 1 := by
  induction calls using List.reverseRecOn with
  | nil => exact Nat.zero_le _
  | append_singleton calls c ih =>
    rw [run_snoc]
    cases c with
    | append x => exact length_push_le ih x
    | modify i f => exact (length_modifyFirst i f _).trans_le ih

/-- The queue holds every appended record until it reaches the bound. -/
theorem length_run (cap : ℕ) (calls : List (Call ρ ι)) :
    (run key cap calls).length = min (calls.filterMap Call.appended).length (max cap 1) := by
  induction calls using List.reverseRecOn with
  | nil => exact (Nat.zero_min _).symm
  | append_singleton calls c ih =>
    rw [run_snoc, List.filterMap_append, List.length_append]
    cases c with
    | append x =>
      show (push cap _ x).length = min (_ + 1) _
      rw [push, List.length_append, List.length_singleton]
      split
      · rw [List.length_tail]
        omega
      · omega
    | modify i f => exact (length_modifyFirst i f _).trans ih

/-- As long as no key is appended twice, the queue is the newest part of the log. -/
theorem run_eq_drop_history (cap : ℕ) {calls : List (Call ρ ι)}
    (hkeep : ∀ c ∈ calls, c.KeepsKey key)
    (hnodup : ((calls.filterMap Call.appended).map key).Nodup) :
    run key cap calls =
      (history key calls).drop ((history key calls).length - max cap 1) := by
  have hlen : (history key calls).length = (calls.filterMap Call.appended).length := by
    have hkeys := congrArg List.length (map_key_history hkeep)
    rwa [List.length_map, List.length_map] at hkeys
  have hsuffix := List.suffix_iff_eq_drop.mp (run_suffix_history cap hkeep hnodup)
  rw [length_run, ← hlen] at hsuffix
  rw [hsuffix]
  congr 1
  omega

/-- Only the appends put records into the queue, and it never runs empty again. -/
theorem run_eq_nil_iff (cap : ℕ) (calls : List (Call ρ ι)) :
    run key cap calls = [] ↔ calls.filterMap Call.appended = [] := by
  induction calls using List.reverseRecOn with
  | nil => simp [run]
  | append_singleton calls c ih =>
    rw [run_snoc, List.filterMap_append, List.append_eq_nil_iff, ← ih]
    cases c with
    | append x => simp [step, push, Call.appended]
    | modify i f =>
      rw [← List.length_eq_zero_iff, step, length_modifyFirst, List.length_eq_zero_iff]
      simp [Call.appended]

/-! ## The record with a key -/

/-- The records with a key. -/
def slot (key : ρ → ι) (i : ι) (q : List ρ) : List ρ := q.filter fun x => key x = i

theorem mem_slot {i : ι} {q : List ρ} {x : ρ} : x ∈ slot key i q ↔ x ∈ q ∧ key x = i := by
  simp [slot]

theorem slot_append (i : ι) (l r : List ρ) : slot key i (l ++ r) = slot key i l ++ slot key i r :=
  List.filter_append l r

theorem slot_eq_nil {i : ι} {q : List ρ} (h : ∀ x ∈ q, key x ≠ i) : slot key i q = [] := by
  rw [slot, List.filter_eq_nil_iff]
  simpa using h

/-- An append of another key leaves the slot alone, or takes the oldest record out of it. -/
theorem slot_push_suffix {i : ι} {x : ρ} (hx : key x ≠ i) (cap : ℕ) (q : List ρ) :
    slot key i (push cap q x) <:+ slot key i q := by
  have hlast : slot key i [x] = [] := slot_eq_nil (by simpa using hx)
  rw [push, slot_append, hlast, List.append_nil]
  exact (evict_suffix cap q).filter _

theorem slot_cons (i : ι) (l : List ρ) (x : ρ) (r : List ρ) :
    slot key i (l ++ x :: r) = slot key i l ++ (slot key i [x] ++ slot key i r) := by
  rw [slot_append, ← List.singleton_append, slot_append]

/-- An update addressed to another key leaves the slot alone. -/
theorem slot_modify_of_ne {i j : ι} {f : ρ → ρ} {cap : ℕ} {q : List ρ}
    (hf : ∀ x, key (f x) = key x) (hij : j ≠ i) :
    slot key i (step key cap q (.modify j f)) = slot key i q := by
  show slot key i ((modifyFirst (fun x => key x = j) f q).getD q) = _
  cases h : modifyFirst (fun x => key x = j) f q with
  | none => rfl
  | some q' =>
    obtain ⟨l, y, r, rfl, -, hy, rfl⟩ := modifyFirst_eq_some h
    have hy : key y = j := by simpa using hy
    have hmiss : ∀ z : ρ, key z = j → slot key i [z] = [] := fun z hz =>
      slot_eq_nil (by simpa [hz] using hij)
    rw [Option.getD_some, slot_cons, slot_cons, hmiss y hy, hmiss (f y) ((hf y).trans hy)]

/-- An update addressed to the key of the slot writes the only record in it. -/
theorem slot_modify_self {i : ι} {f : ρ → ρ} {cap : ℕ} {q : List ρ}
    (hf : ∀ x, key (f x) = key x) (hone : (slot key i q).length ≤ 1) :
    slot key i (step key cap q (.modify i f)) = (slot key i q).map f := by
  show slot key i ((modifyFirst (fun x => key x = i) f q).getD q) = _
  cases h : modifyFirst (fun x => key x = i) f q with
  | none =>
    have hmiss : ∀ x ∈ q, key x ≠ i := fun x hx => by
      simpa using modifyFirst_eq_none_iff.mp h x hx
    rw [Option.getD_none, slot_eq_nil hmiss, List.map_nil]
  | some q' =>
    obtain ⟨l, y, r, rfl, -, hy, rfl⟩ := modifyFirst_eq_some h
    have hy : key y = i := by simpa using hy
    have hself : ∀ z : ρ, key z = i → slot key i [z] = [z] := fun z hz => by simp [slot, hz]
    rw [Option.getD_some, slot_cons, slot_cons, hself y hy, hself (f y) ((hf y).trans hy)]
    -- The record that is written fills the slot, so there is none beside it.
    rw [slot_cons, hself y hy, List.length_append, List.length_append,
      List.length_singleton] at hone
    have hleft : slot key i l = [] := List.length_eq_zero_iff.mp (by omega)
    have hright : slot key i r = [] := List.length_eq_zero_iff.mp (by omega)
    rw [hleft, hright]
    rfl

/-- An update touches the only record with its key. -/
theorem slot_modify {i j : ι} {f : ρ → ρ} {cap : ℕ} {q : List ρ} (hf : ∀ x, key (f x) = key x)
    (hone : (slot key i q).length ≤ 1) :
    slot key i (step key cap q (.modify j f)) = (slot key i q).map (touch key j f) := by
  have hkeys : ∀ x ∈ slot key i q, key x = i := fun x hx => (mem_slot.mp hx).2
  by_cases hij : j = i
  · subst hij
    rw [slot_modify_self hf hone]
    exact List.map_congr_left fun x hx => (if_pos (hkeys x hx)).symm
  · rw [slot_modify_of_ne hf hij]
    exact (map_touch_of_notMem fun x hx => (hkeys x hx).trans_ne (Ne.symm hij)).symm

/-- The queue after some calls, starting from any one. -/
def runFrom (key : ρ → ι) (cap : ℕ) (q : List ρ) (calls : List (Call ρ ι)) : List ρ :=
  calls.foldl (step key cap) q

theorem runFrom_append (cap : ℕ) (q : List ρ) (calls calls' : List (Call ρ ι)) :
    runFrom key cap q (calls ++ calls') = runFrom key cap (runFrom key cap q calls) calls' :=
  List.foldl_append

theorem runFrom_snoc (cap : ℕ) (q : List ρ) (calls : List (Call ρ ι)) (c : Call ρ ι) :
    runFrom key cap q (calls ++ [c]) = step key cap (runFrom key cap q calls) c :=
  runFrom_append cap q calls [c]

/-- The call appends no record with the key `i`, and keeps the keys of the others. -/
def Call.Spares (key : ρ → ι) (i : ι) : Call ρ ι → Prop
  | .append x => key x ≠ i
  | .modify _ f => ∀ x, key (f x) = key x

/-- Calls that spare a key leave of its record what the updates addressed to it make of it, or have
evicted it. -/
theorem slot_runFrom_suffix {i : ι} {cap : ℕ} {q : List ρ} {x : ρ}
    (hq : slot key i q <:+ [x]) {calls : List (Call ρ ι)}
    (hspare : ∀ c ∈ calls, c.Spares key i) :
    slot key i (runFrom key cap q calls) <:+ [settled key x calls] := by
  induction calls using List.reverseRecOn with
  | nil => exact hq
  | append_singleton calls c ih =>
    have ih := ih fun c hc => hspare c (by simp [hc])
    have hc := hspare c (by simp)
    rw [runFrom_snoc]
    cases c with
    | append y =>
      have hsettled : settled key x (calls ++ [.append y]) = settled key x calls := by
        simp [settled]
      rw [hsettled]
      exact (slot_push_suffix hc cap _).trans ih
    | modify j f =>
      rw [settled_snoc, slot_modify hc (ih.length_le.trans (by simp))]
      exact ih.map (touch key j f)

/-- A slot that is empty stays empty. -/
theorem slot_runFrom_eq_nil {i : ι} {cap : ℕ} {q : List ρ} (hq : slot key i q = [])
    {calls : List (Call ρ ι)} (hspare : ∀ c ∈ calls, c.Spares key i) :
    slot key i (runFrom key cap q calls) = [] := by
  induction calls using List.reverseRecOn with
  | nil => exact hq
  | append_singleton calls c ih =>
    have ih := ih fun c hc => hspare c (by simp [hc])
    have hc := hspare c (by simp)
    rw [runFrom_snoc]
    cases c with
    | append y =>
      have hslot := slot_push_suffix hc cap (runFrom key cap q calls)
      rw [ih] at hslot
      exact List.suffix_nil.mp hslot
    | modify j f =>
      rw [slot_modify hc (by simp [ih]), ih, List.map_nil]

end BoundedLog
