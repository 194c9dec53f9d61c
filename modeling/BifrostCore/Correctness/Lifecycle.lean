import BifrostCore.Correctness.Relay

/-!
# The lifecycle of a connection

Which plugins hear of a tunnel and which of its end, for plugins that answer every callback as they
like. The manager calls `handle_connect` and `handle_connect_close` of the registered plugins in
order, each until one of them stops; the two ends of a connection are paired exactly if both calls
get equally far.

* `foreign`, `foreignPlugins` — plugins nothing is known about, registered one after the other.
* `reached` — how far a sequence of calls gets.
* `balanced_iff` — when every plugin that was told of the connection is told of its end.
-/

namespace Bifrost

open Concurrency Prog

/-! ## Calls in order, until one stops -/

section CallUntil

variable {S : Sig} {α : Type}

/-- Perform `op i`, `op (i + 1)`, and so on, `m` operations at most, until the answer to one says
to stop. -/
def callUntil (op : ℕ → S.Op) (res : ∀ i, S.Res (op i) → α) (goesOn : α → Bool) (done : α)
    (i : ℕ) : ℕ → Prog S α
  | 0 => .ret done
  | m + 1 => .act (op i) fun r =>
    if goesOn (res i r) then callUntil op res goesOn done (i + 1) m else .ret (res i r)

/-- How many of `m` operations are performed from `i` on. -/
def reached (goesOn : ℕ → Bool) (i : ℕ) : ℕ → ℕ
  | 0 => 0
  | m + 1 => if goesOn i then reached goesOn (i + 1) m + 1 else 1

/-- The result, when `v i` is what the operation `i` answers. -/
def outcome (goesOn : α → Bool) (v : ℕ → α) (done : α) (i : ℕ) : ℕ → α
  | 0 => done
  | m + 1 => if goesOn (v i) then outcome goesOn v done (i + 1) m else v i

/-- A run to the end performs the operations in order, as far as it gets. -/
theorem callUntil_steps {op : ℕ → S.Op} {res : ∀ i, S.Res (op i) → α} {goesOn : α → Bool} {done : α}
    {v : ℕ → α} {G : (o : S.Op) → S.Res o → Prop} (hgood : ∀ j r, G (op j) r → res j r = v j)
    {i m : ℕ} {tr : Trace S} {a : α}
    (h : Steps (callUntil op res goesOn done i m) tr (.ret a))
    (hans : ∀ e ∈ tr, G e.op e.res) :
    a = outcome goesOn v done i m ∧
      tr.map Event.op = (List.range' i (reached (fun j => goesOn (v j)) i m)).map op := by
  induction m generalizing i tr with
  | zero =>
    obtain ⟨rfl, heq⟩ := h.ret_inv
    cases heq
    exact ⟨rfl, rfl⟩
  | succ m ih =>
    cases h with
    | @act _ _ r tr _ h =>
      have hr : res i r = v i := hgood i r (hans _ List.mem_cons_self)
      have h : Steps (if goesOn (res i r) then callUntil op res goesOn done (i + 1) m
        else .ret (res i r)) tr (.ret a) := h
      rw [hr] at h
      -- The run goes on exactly where the result and the number of calls do.
      unfold outcome reached
      by_cases hgo : goesOn (v i) = true
      · rw [if_pos hgo] at h
        obtain ⟨ha, htr⟩ := ih h fun e he => hans e (List.mem_cons_of_mem _ he)
        rw [if_pos hgo, if_pos hgo, List.range'_succ, List.map_cons, List.map_cons, htr]
        exact ⟨ha, rfl⟩
      · rw [if_neg hgo] at h
        obtain ⟨rfl, heq⟩ := h.ret_inv
        cases heq
        rw [if_neg hgo, if_neg hgo]
        exact ⟨rfl, rfl⟩

/-- An operation is performed once if it is reached. -/
theorem countP_of_map_op {tr : Trace S} {op : ℕ → S.Op} {i n : ℕ} {p : S.Op → Bool} {j : ℕ}
    (hp : ∀ j', p (op j') = decide (j' = j))
    (h : tr.map Event.op = (List.range' i n).map op) :
    (tr.countP fun e => p e.op) = if i ≤ j ∧ j < i + n then 1 else 0 := by
  have hcount : (tr.countP fun e => p e.op) = (List.range' i n).count j := by
    have hmap := List.countP_map (p := p) (f := Event.op) (l := tr)
    rw [h, List.countP_map] at hmap
    rw [List.count, ← show (p ∘ op) = (· == j) from funext fun j' => hp j']
    exact hmap.symm
  rw [hcount, List.count_range_1']

end CallUntil

/-! ## Plugins nothing is known about -/

/-- A callback of the plugin with index `i`. -/
inductive PluginCall where
  | handleRequest (i : ℕ) (requestId : UInt64) (req : Request)
  | handleResponse (i : ℕ) (requestId : UInt64) (req : Request) (resp : Response)
  | handleConnect (i : ℕ) (requestId : UInt64) (req : Request)
  | handleConnectClose (i : ℕ) (requestId : UInt64) (target : Str)
  | handleData (i : ℕ) (requestId : UInt64) (direction : DataDirection) (data : List UInt8)

/-- What a callback answers. -/
@[reducible]
def PluginCall.Res : PluginCall → Type
  | .handleRequest _ _ _ => Result (Bool × Option Response) × Request
  | .handleResponse _ _ _ _ => Result Bool × Response
  | .handleConnect _ _ _ => Result (Bool × Option Response)
  | .handleConnectClose _ _ _ => Result Bool
  | .handleData _ _ _ _ => Result Unit

/-- The signature of the callbacks. -/
@[reducible]
def PluginSig : Sig := ⟨PluginCall, PluginCall.Res⟩

/-- A plugin whose callbacks answer whatever they like. -/
def foreign (i : ℕ) : Plugin PluginSig where
  handleRequest requestId req := .call (S := PluginSig) (.handleRequest i requestId req)
  handleResponse requestId req resp :=
    .call (S := PluginSig) (.handleResponse i requestId req resp)
  handleConnect requestId req := .call (S := PluginSig) (.handleConnect i requestId req)
  handleConnectClose requestId target :=
    .call (S := PluginSig) (.handleConnectClose i requestId target)
  handleData requestId direction data :=
    .call (S := PluginSig) (.handleData i requestId direction data)

/-- A manager with `n` such plugins. -/
def foreignPlugins : ℕ → PluginManager PluginSig
  | 0 => .empty
  | n + 1 => (foreignPlugins n).registerPlugin (foreign n)

theorem plugins_foreignPlugins (n : ℕ) :
    (foreignPlugins n).plugins = (List.range' 0 n).map foreign := by
  induction n with
  | zero => rfl
  | succ n ih =>
    rw [List.range'_concat, List.map_append, ← ih]
    simp [foreignPlugins, PluginManager.registerPlugin]

/-! ## What a run does -/

/-- A call of `handle_connect` of the plugin `i`. -/
def TaskOp.isConnect (i : ℕ) : TaskOp PluginSig → Bool
  | .callback .handleConnect (.handleConnect j _ _) => j = i
  | _ => false

/-- A call of `handle_connect_close` of the plugin `i`. -/
def TaskOp.isClose (i : ℕ) : TaskOp PluginSig → Bool
  | .callback .handleConnectClose (.handleConnectClose j _ _) => j = i
  | _ => false

/-- How often the `handle_connect` of the plugin `i` was called. -/
def connects (tr : Trace (TaskSig PluginSig)) (i : ℕ) : ℕ := tr.countP fun e => e.op.isConnect i

/-- How often the `handle_connect_close` of the plugin `i` was called. -/
def closes (tr : Trace (TaskSig PluginSig)) (i : ℕ) : ℕ := tr.countP fun e => e.op.isClose i

/-- Every plugin whose `handle_connect` was called has received `handle_connect_close` exactly once,
and no other plugin has. -/
def Balanced (tr : Trace (TaskSig PluginSig)) : Prop :=
  ∀ i, (0 < connects tr i → closes tr i = 1) ∧ (connects tr i = 0 → closes tr i = 0)

/-- An answer of the plugins, where the plugin `i` answers `handle_connect` with `c i` and
`handle_connect_close` with `k i`. -/
def Answers (c : ℕ → Result (Bool × Option Response)) (k : ℕ → Result Bool) :
    (o : TaskOp PluginSig) → o.Res → Prop
  | .callback .handleConnect (.handleConnect i _ _), r => r = c i
  | .callback .handleConnectClose (.handleConnectClose i _ _), r => r = k i
  | _, _ => True

/-- A write failed. -/
def TaskOp.WriteFailed {π : Sig} : (o : TaskOp π) → o.Res → Prop
  | .writeAll _ _, .err _ _ => True
  | _, _ => False

/-- The run has ended: it has returned, or an `unwrap` failed. -/
def Finished {π : Sig} {α : Type} : Prog (TaskSig π) α → Prop
  | .ret _ => True
  | .act o _ => o = .panic

/-- The manager goes on after this answer to `handle_connect`. -/
def admits : Result (Bool × Option Response) → Bool
  | .ok (true, _) => true
  | _ => false

/-- The manager goes on after this answer to `handle_connect_close`. -/
def passes : Result Bool → Bool
  | .ok true => true
  | _ => false

/-- What the `handle_connect` of a manager with `n` plugins returns. -/
def connectResult (c : ℕ → Result (Bool × Option Response)) (n : ℕ) :
    Result (Bool × Option Response) :=
  outcome admits c (.ok (true, none)) 0 n

/-! ## The calls of the manager -/

section Manager

variable (id : UInt64) (req : Request) (target : Str)

/-- `handle_connect` of the manager calls the plugins until one does not let the connection
through. -/
theorem handleConnect_eq (i m : ℕ) :
    Task.callback .handleConnect (PluginManager.handleConnectLoop id req
        ((List.range' i m).map foreign)) =
      callUntil (S := TaskSig PluginSig)
        (fun i => .callback .handleConnect (.handleConnect i id req))
        (fun _ r => r) admits (.ok (true, none)) i m := by
  induction m generalizing i with
  | zero => rfl
  | succ m ih =>
    refine congrArg (Prog.act (S := TaskSig PluginSig)
      (.callback .handleConnect (.handleConnect i id req))) (funext fun r => ?_)
    rw [← ih]
    rcases r with e | ⟨_ | _, response⟩ <;> rfl

/-- `handle_connect_close` of the manager calls the plugins until one stops. -/
theorem handleConnectClose_eq (i m : ℕ) :
    Task.callback .handleConnectClose (PluginManager.handleConnectCloseLoop id target
        ((List.range' i m).map foreign)) =
      callUntil (S := TaskSig PluginSig)
        (fun i => .callback .handleConnectClose (.handleConnectClose i id target))
        (fun _ r => r) passes (.ok true) i m := by
  induction m generalizing i with
  | zero => rfl
  | succ m ih =>
    refine congrArg (Prog.act (S := TaskSig PluginSig)
      (.callback .handleConnectClose (.handleConnectClose i id target))) (funext fun r => ?_)
    rw [← ih]
    rcases r with e | _ | _ <;> rfl

variable {c : ℕ → Result (Bool × Option Response)} {k : ℕ → Result Bool}
  {tr : Trace (TaskSig PluginSig)} {n : ℕ}

/-- What `handle_connect` of the manager calls, and what it returns. -/
theorem handleConnect_steps {a : Result (Bool × Option Response)}
    (h : Steps (Task.callback .handleConnect ((foreignPlugins n).handleConnect id req)) tr (.ret a))
    (hans : ∀ e ∈ tr, Answers c k e.op e.res) :
    a = connectResult c n ∧ (∀ j, closes tr j = 0) ∧
      ∀ j, connects tr j = if j < reached (fun i => admits (c i)) 0 n then 1 else 0 := by
  rw [PluginManager.handleConnect, plugins_foreignPlugins, handleConnect_eq] at h
  obtain ⟨ha, hops⟩ := callUntil_steps (G := Answers c k) (v := c) (fun _ _ h => h) h hans
  refine ⟨ha, fun j => List.countP_eq_zero.mpr fun e he => ?_, fun j => ?_⟩
  · have hop := List.mem_map_of_mem (f := Event.op) he
    rw [hops, List.mem_map] at hop
    obtain ⟨i, -, hi⟩ := hop
    rw [← hi]
    exact Bool.false_ne_true
  · have hcount := countP_of_map_op (p := TaskOp.isConnect j) (j := j) (fun _ => rfl) hops
    rw [connects, hcount]
    simp

/-- What `handle_connect_close` of the manager calls. -/
theorem handleConnectClose_steps {a : Result Bool}
    (h : Steps (Task.callback .handleConnectClose
      ((foreignPlugins n).handleConnectClose id target)) tr (.ret a))
    (hans : ∀ e ∈ tr, Answers c k e.op e.res) :
    (∀ j, connects tr j = 0) ∧
      ∀ j, closes tr j = if j < reached (fun i => passes (k i)) 0 n then 1 else 0 := by
  rw [PluginManager.handleConnectClose, plugins_foreignPlugins, handleConnectClose_eq] at h
  obtain ⟨-, hops⟩ := callUntil_steps (G := Answers c k) (v := k) (fun _ _ h => h) h hans
  refine ⟨fun j => List.countP_eq_zero.mpr fun e he => ?_, fun j => ?_⟩
  · have hop := List.mem_map_of_mem (f := Event.op) he
    rw [hops, List.mem_map] at hop
    obtain ⟨i, -, hi⟩ := hop
    rw [← hi]
    exact Bool.false_ne_true
  · have hcount := countP_of_map_op (p := TaskOp.isClose j) (j := j) (fun _ => rfl) hops
    rw [closes, hcount]
    simp

end Manager

/-! ## The run of a tunnel -/

/-- An operation that tells no plugin of a connection or of its end. -/
def TaskOp.Between (o : TaskOp PluginSig) : Prop := ∀ i, o.isConnect i = false ∧ o.isClose i = false

theorem counts_between {tr : Trace (TaskSig PluginSig)} (h : ∀ e ∈ tr, e.op.Between) (i : ℕ) :
    connects tr i = 0 ∧ closes tr i = 0 := by
  refine ⟨List.countP_eq_zero.mpr fun e he => ?_, List.countP_eq_zero.mpr fun e he => ?_⟩
  · rw [(h e he i).1]
    exact Bool.false_ne_true
  · rw [(h e he i).2]
    exact Bool.false_ne_true

theorem Channel.Allows.between {q : Option (Side × List UInt8)} {o : TaskOp PluginSig}
    (h : Channel.Allows q o) : o.Between ∧ o ≠ .panic := by
  cases h <;> exact ⟨fun i => ⟨rfl, rfl⟩, by simp⟩

/-- Plugin code does not end a run. -/
theorem callback_not_finished {π : Sig} {α β : Type} {cb : Callback} {p : Prog π α} {o : TaskOp π}
    {k : o.Res → Prog (TaskSig π) α} {tr : Trace (TaskSig π)}
    (h : Steps (Task.callback cb p) tr (.act o k)) (f : o.Res → Prog (TaskSig π) β) :
    ¬ Finished (.act (S := TaskSig π) o f) := by
  obtain ⟨o', ho⟩ := ((Task.callback_only cb p).steps h).2.1
  intro hpanic
  have hpanic : o = .panic := hpanic
  rw [ho] at hpanic
  cases hpanic

/-- Plugin code writes nothing to the ends of the tunnel. -/
theorem callback_not_writeFailed {π : Sig} {α : Type} {cb : Callback} {p : Prog π α}
    {tr : Trace (TaskSig π)} {q : Prog (TaskSig π) α} (h : Steps (Task.callback cb p) tr q) :
    ∀ e ∈ tr, ¬ e.op.WriteFailed e.res := by
  rintro ⟨o, r⟩ he
  obtain ⟨o', rfl⟩ := ((Task.callback_only cb p).steps h).1 _ he
  exact id

/-- A plugin has stopped the connection with an answer that could not be written to the client. -/
def AnswerLost (admitted : Result (Bool × Option Response)) (tr : Trace (TaskSig PluginSig)) :
    Prop :=
  (∃ response, admitted = .ok (false, some response)) ∧ ∃ e ∈ tr, e.op.WriteFailed e.res

section Between

variable {X : Externals} {pm : PluginManager PluginSig} {fuel : ℕ} {id : UInt64}
  {admitted : Result (Bool × Option Response)} {tr : Trace (TaskSig PluginSig)}
  {q : Prog (TaskSig PluginSig) Unit}

/-- The answer of a plugin is one write, whose failure is unwrapped. -/
theorem onConnect_answer_steps {response : Response}
    (h : Steps (TunnelInterceptor.onConnect X pm fuel id (.ok (false, some response))) tr q) :
    (∀ e ∈ tr, e.op.Between) ∧
      (q = .ret () → ¬ AnswerLost (.ok (false, some response)) tr) ∧
      ∀ k, q = .act (S := TaskSig PluginSig) .panic k →
        AnswerLost (.ok (false, some response)) tr := by
  cases h with
  | refl => exact ⟨by simp, (nomatch ·), fun k hk => nomatch hk⟩
  | @act _ _ written tr _ h =>
    have hbetween : ∀ data, (TaskOp.writeAll .client data : TaskOp PluginSig).Between :=
      fun data i => ⟨rfl, rfl⟩
    cases written with
    | ok =>
      obtain ⟨rfl, rfl⟩ := h.ret_inv
      refine ⟨by simpa using hbetween _, fun _ ⟨_, e, he, hfailed⟩ => ?_, fun k hk => nomatch hk⟩
      obtain rfl := List.mem_singleton.mp he
      exact hfailed
    | err n e =>
      cases h with
      | refl =>
        refine ⟨by simpa using hbetween _, (nomatch ·), fun k _ => ?_⟩
        exact ⟨⟨response, rfl⟩, _, List.mem_singleton_self _, trivial⟩
      | @act _ _ r => exact nomatch r

/-- What happens between the two calls tells no plugin of the connection or of its end. It is cut
short exactly if the answer of a plugin to the client cannot be written. -/
theorem onConnect_steps (h : Steps (TunnelInterceptor.onConnect X pm fuel id admitted) tr q) :
    (∀ e ∈ tr, e.op.Between) ∧ (q = .ret () → ¬ AnswerLost admitted tr) ∧
      ∀ k, q = .act (S := TaskSig PluginSig) .panic k → AnswerLost admitted tr := by
  rcases admitted with e | ⟨_ | _, response⟩
  · obtain ⟨rfl, rfl⟩ := h.ret_inv
    exact ⟨by simp, fun _ ⟨_, e, he, _⟩ => absurd he List.not_mem_nil, fun k hk => nomatch hk⟩
  · cases response with
    | none =>
      obtain ⟨rfl, rfl⟩ := h.ret_inv
      exact ⟨by simp, fun _ ⟨_, e, he, _⟩ => absurd he List.not_mem_nil, fun k hk => nomatch hk⟩
    | some response => exact onConnect_answer_steps h
  · -- The loop performs nothing but what its protocol allows, which is none of the two calls.
    have hfollows := Channel.relay_follows pm id fuel 0
    refine ⟨fun e he => ?_, fun _ ⟨⟨_, hadm⟩, _⟩ => by simp at hadm, ?_⟩
    · obtain ⟨_, hall⟩ := Protocol.Permits.allows channel (hfollows.permits h) e he
      exact (Channel.Allows.between hall).1
    · rintro k rfl
      exact absurd rfl (Channel.Allows.between (hfollows.steps h).1).2

end Between

/-! ## Both ends -/

/-- With both calls made, the ends are paired exactly if the calls got equally far. -/
theorem balanced_iff_reached {tr : Trace (TaskSig PluginSig)} {m m' : ℕ}
    (hconnects : ∀ j, connects tr j = if j < m then 1 else 0)
    (hcloses : ∀ j, closes tr j = if j < m' then 1 else 0) : Balanced tr ↔ m = m' := by
  constructor
  · intro h
    -- The first plugin one of the calls did not reach was not reached by the other one.
    rcases Nat.lt_trichotomy m m' with hlt | heq | hlt
    · have hclose : closes tr m = 0 := (h m).2 (by rw [hconnects, if_neg (lt_irrefl m)])
      rw [hcloses, if_pos hlt] at hclose
      omega
    · exact heq
    · have hclose : closes tr m' = 1 := (h m').1 (by rw [hconnects, if_pos hlt]; exact Nat.one_pos)
      rw [hcloses, if_neg (lt_irrefl m')] at hclose
      omega
  · rintro rfl i
    rw [hconnects, hcloses]
    split_ifs <;> simp

@[simp] theorem connects_append (tr tr' : Trace (TaskSig PluginSig)) (i : ℕ) :
    connects (tr ++ tr') i = connects tr i + connects tr' i :=
  List.countP_append

@[simp] theorem closes_append (tr tr' : Trace (TaskSig PluginSig)) (i : ℕ) :
    closes (tr ++ tr') i = closes tr i + closes tr' i :=
  List.countP_append

/-- A plugin that stops the connection was told of it. -/
theorem reached_pos_of_stopped {c : ℕ → Result (Bool × Option Response)} {n : ℕ}
    {response : Response} (h : connectResult c n = .ok (false, some response)) :
    0 < reached (fun i => admits (c i)) 0 n := by
  cases n with
  | zero => cases h
  | succ n =>
    unfold reached
    split_ifs <;> omega

section Ended

variable (X : Externals) (n fuel : ℕ) (id : UInt64) (req : Request) (host : Str)
  (c : ℕ → Result (Bool × Option Response)) (k : ℕ → Result Bool)
  {tr : Trace (TaskSig PluginSig)} {q : Prog (TaskSig PluginSig) Unit}

/-- The calls of a run that has ended: both of the manager's calls get as far as the plugins let
them, but the second one is left out when the answer of a plugin could not be written. -/
theorem handleTunnel_calls
    (h : Steps (TunnelInterceptor.handleTunnel X (foreignPlugins n) fuel id req host) tr q)
    (hfinished : Finished q) (hans : ∀ e ∈ tr, Answers c k e.op e.res) :
    (∀ j, connects tr j = if j < reached (fun i => admits (c i)) 0 n then 1 else 0) ∧
      (AnswerLost (connectResult c n) tr ∧ (∀ j, closes tr j = 0) ∨
        ¬ AnswerLost (connectResult c n) tr ∧
          ∀ j, closes tr j = if j < reached (fun i => passes (k i)) 0 n then 1 else 0) := by
  -- The trace is cut where one of the three parts of `handle_tunnel` ends.
  obtain ⟨o, k', hcb, rfl⟩ | ⟨tr₁, tr', admitted, rfl, hconnect, h⟩ := h.bind_inv
  · exact absurd hfinished (callback_not_finished hcb _)
  obtain ⟨rfl, hcloses₁, hconnects₁⟩ := handleConnect_steps id req hconnect
    fun e he => hans e (List.mem_append_left _ he)
  have hnofail₁ := callback_not_writeFailed hconnect
  obtain ⟨o, k', hon, rfl⟩ | ⟨tr₂, tr₃, _, rfl, hon, h⟩ := h.bind_inv
  · -- The run ends between the two calls.
    obtain ⟨hbetween, -, hpanic⟩ := onConnect_steps hon
    obtain rfl : o = .panic := hfinished
    obtain ⟨hstopped, e, he, hfailed⟩ := hpanic _ rfl
    refine ⟨fun j => ?_, .inl ⟨⟨hstopped, e, List.mem_append_right _ he, hfailed⟩, fun j => ?_⟩⟩
    · rw [connects_append, hconnects₁, (counts_between hbetween j).1, Nat.add_zero]
    · rw [closes_append, hcloses₁, (counts_between hbetween j).2]
  obtain ⟨hbetween, hwritten, -⟩ := onConnect_steps hon
  obtain ⟨o, k', hcb, rfl⟩ | ⟨tr₃, tr₄, _, rfl, hclose, h⟩ := h.bind_inv
  · exact absurd hfinished (callback_not_finished hcb _)
  obtain ⟨rfl, rfl⟩ := h.ret_inv
  rw [List.append_nil] at hans ⊢
  obtain ⟨hconnects₃, hcloses₃⟩ := handleConnectClose_steps id host hclose
    fun e he => hans e (by simp [he])
  have hnofail₃ := callback_not_writeFailed hclose
  refine ⟨fun j => ?_, .inr ⟨?_, fun j => ?_⟩⟩
  · rw [connects_append, connects_append, hconnects₁, hconnects₃, (counts_between hbetween j).1]
    omega
  · rintro ⟨hstopped, e, he, hfailed⟩
    rw [List.mem_append, List.mem_append] at he
    rcases he with he | he | he
    · exact hnofail₁ e he hfailed
    · exact hwritten rfl ⟨hstopped, e, he, hfailed⟩
    · exact hnofail₃ e he hfailed
  · rw [closes_append, closes_append, hcloses₁, hcloses₃, (counts_between hbetween j).2]
    omega

/-- In every run of `handle_tunnel` that ends, for any plugins, any answers of them and any outcome
of the I/O: every plugin that was told of the connection is told of its end exactly once, and no
other one is, if and only if `handle_connect` and `handle_connect_close` get equally far along the
list of the plugins and it did not happen that one of them stopped the connection with a response
which could not be written to the client. -/
theorem balanced_iff
    (h : Steps (TunnelInterceptor.handleTunnel X (foreignPlugins n) fuel id req host) tr q)
    (hfinished : Finished q) (hans : ∀ e ∈ tr, Answers c k e.op e.res) :
    Balanced tr ↔
      reached (fun i => admits (c i)) 0 n = reached (fun i => passes (k i)) 0 n ∧
        ¬ ((∃ response, connectResult c n = .ok (false, some response)) ∧
          ∃ e ∈ tr, e.op.WriteFailed e.res) := by
  obtain ⟨hconnects, ⟨hfailed, hcloses⟩ | ⟨hfailed, hcloses⟩⟩ :=
    handleTunnel_calls X n fuel id req host c k h hfinished hans
  · -- Nobody is told of the end, but the plugin that stopped the connection was told of it.
    refine iff_of_false (fun hbalanced => ?_) fun hcond => hcond.2 hfailed
    obtain ⟨⟨response, hresult⟩, -⟩ := hfailed
    have hclose := (hbalanced 0).1 (by
      rw [hconnects, if_pos (reached_pos_of_stopped hresult)]
      exact Nat.one_pos)
    rw [hcloses] at hclose
    exact absurd hclose Nat.zero_ne_one
  · exact (balanced_iff_reached hconnects hcloses).trans (and_iff_left hfailed).symm

end Ended

namespace Concrete

/-- A call of `handle_connect` of a plugin on the example tunnel, with its answer. -/
def connectCall (i : ℕ) (r : Result (Bool × Option Response)) : Event (TaskSig PluginSig) :=
  ⟨.callback .handleConnect (.handleConnect i 0 connectRequest), r⟩

/-- A call of `handle_connect_close` of a plugin on the example tunnel, which goes on. -/
def closeCall (i : ℕ) : Event (TaskSig PluginSig) :=
  ⟨.callback .handleConnectClose (.handleConnectClose i 0 "example.com:443"), .ok true⟩

/-- What the plugin `i` answers when the last of two stops with a response. -/
def lastStops : ℕ → Result (Bool × Option Response)
  | 0 => .ok (true, none)
  | _ => .ok (false, some (.build 200 [] .empty))

/-- What the plugin `i` answers when the first one stops without a response. -/
def firstStops : ℕ → Result (Bool × Option Response)
  | 0 => .ok (false, none)
  | _ => .ok (true, none)

/-- A tunnel of two plugins, the last of which stops it with a response. -/
def lastStopsRun : Trace (TaskSig PluginSig) :=
  [connectCall 0 (lastStops 0), connectCall 1 (lastStops 1),
    ⟨.writeAll .client (HeaderValue.ofStr ("HTTP/1.1 ".toList ++
      TunnelInterceptor.statusText externals 200 ++ "\r\n\r\n".toList)), .ok⟩,
    closeCall 0, closeCall 1]

/-- A tunnel of two plugins, the first of which stops it. -/
def firstStopsRun : Trace (TaskSig PluginSig) :=
  [connectCall 0 (firstStops 0), closeCall 0, closeCall 1]

/-- The tunnel of `connectRequest` with two plugins. -/
def twoPluginTunnel : Prog (TaskSig PluginSig) Unit :=
  TunnelInterceptor.handleTunnel externals (foreignPlugins 2) 0 0 connectRequest "example.com:443"

theorem lastStopsRun_steps : Steps twoPluginTunnel lastStopsRun (.ret ()) :=
  .act (.act (.act (.act (.act (.refl _)))))

theorem firstStopsRun_steps : Steps twoPluginTunnel firstStopsRun (.ret ()) :=
  .act (.act (.act (.refl _)))

end Concrete

/-- Two plugins, the last of which stops the connection with a response that is written: both are
told of its end. -/
theorem balanced_iff_last_stops : Balanced Concrete.lastStopsRun := by
  have hanswers : ∀ e ∈ Concrete.lastStopsRun,
      Answers Concrete.lastStops (fun _ => .ok true) e.op e.res := by
    simp only [Concrete.lastStopsRun, List.forall_mem_cons]
    exact ⟨rfl, rfl, trivial, rfl, rfl, fun e he => nomatch he⟩
  have hwritten : ∀ e ∈ Concrete.lastStopsRun, ¬ e.op.WriteFailed e.res := by
    simp only [Concrete.lastStopsRun, List.forall_mem_cons]
    exact ⟨id, id, id, id, id, fun e he => nomatch he⟩
  exact (balanced_iff Concrete.externals 2 0 0 Concrete.connectRequest "example.com:443"
    Concrete.lastStops (fun _ => .ok true) Concrete.lastStopsRun_steps trivial hanswers).mpr
    ⟨by decide, fun ⟨_, e, he, hfailed⟩ => hwritten e he hfailed⟩

/-- Two plugins, the first of which stops the connection: the second one is told of the end of a
connection it never heard of. -/
theorem not_balanced_first_stops :
    Steps Concrete.twoPluginTunnel Concrete.firstStopsRun (.ret ()) ∧
      ¬ Balanced Concrete.firstStopsRun :=
  ⟨Concrete.firstStopsRun_steps, fun h => absurd ((h 1).2 (by decide)) (by decide)⟩

end Bifrost
