import BifrostCore.Proxy

/-!
# The bytes of a tunnel

The relay loop of a tunnel as two byte streams, for any registered plugins. `channel` is the
protocol of the loop: a chunk that was read is written to the other side before the next one is
read. What the loop does when a write fails halfway decides whether the streams are copied
faithfully.

* `readFrom`, `writtenTo` — the bytes read from a side and written to a side.
* `relay_follows_channel` — the loop follows the protocol.
* `relay_writes_prefix` — at every point of the loop the bytes written to a side are a prefix of
  those read from the other one, as long as nothing is written to it after a write that stopped
  halfway.
-/

namespace Bifrost

open Concurrency Prog

variable {π : Sig}

/-! ## The two streams -/

/-- The bytes a `select!` reads from a side. -/
def SelectOutcome.bytesFrom : Side → SelectOutcome → List UInt8
  | .client, .clientRead (.ok chunk) => chunk.bytes
  | .target, .targetRead (.ok chunk) => chunk.bytes
  | _, _ => []

/-- The bytes a `write_all` puts out. -/
def WriteResult.output (data : List UInt8) : WriteResult → List UInt8
  | .ok => data
  | .err written _ => data.take written

namespace TaskOp

/-- The bytes an operation reads from a side. -/
def readFrom (side : Side) : (o : TaskOp π) → o.Res → List UInt8
  | .select, outcome => outcome.bytesFrom side
  | _, _ => []

/-- The bytes an operation writes to a side. -/
def writtenTo (side : Side) : (o : TaskOp π) → o.Res → List UInt8
  | .writeAll side' data, result => if side' = side then result.output data else []
  | _, _ => []

/-- A write to a side that stopped halfway. -/
def CutShort (side : Side) : (o : TaskOp π) → o.Res → Prop
  | .writeAll side' data, result => side' = side ∧ result.output data ≠ data
  | _, _ => False

instance (side : Side) (o : TaskOp π) (r : o.Res) : Decidable (o.CutShort side r) := by
  unfold CutShort
  split <;> infer_instance

end TaskOp

/-- The bytes read from a side. -/
def readFrom (side : Side) (tr : Trace (TaskSig π)) : List UInt8 :=
  tr.flatMap fun e => e.op.readFrom side e.res

/-- The bytes written to a side. -/
def writtenTo (side : Side) (tr : Trace (TaskSig π)) : List UInt8 :=
  tr.flatMap fun e => e.op.writtenTo side e.res

/-- No byte is written to a side after a write to it that stopped halfway. -/
def QuietAfterCut (side : Side) : Trace (TaskSig π) → Prop
  | [] => True
  | e :: tr => (e.op.CutShort side e.res → writtenTo side tr = []) ∧ QuietAfterCut side tr

/-- Whether a trace is quiet after a cut is decidable. -/
def decidableQuietAfterCut (side : Side) :
    (tr : Trace (TaskSig π)) → Decidable (QuietAfterCut side tr)
  | [] => isTrue trivial
  | e :: tr =>
    have := decidableQuietAfterCut side tr
    inferInstanceAs (Decidable ((e.op.CutShort side e.res → writtenTo side tr = []) ∧ _))

instance (side : Side) : DecidablePred (QuietAfterCut (π := π) side) :=
  decidableQuietAfterCut side

@[simp] theorem readFrom_snoc (side : Side) (tr : Trace (TaskSig π)) (e : Event (TaskSig π)) :
    readFrom side (tr ++ [e]) = readFrom side tr ++ e.op.readFrom side e.res := by
  simp [readFrom]

@[simp] theorem writtenTo_snoc (side : Side) (tr : Trace (TaskSig π)) (e : Event (TaskSig π)) :
    writtenTo side (tr ++ [e]) = writtenTo side tr ++ e.op.writtenTo side e.res := by
  simp [writtenTo]

/-- One more operation writes nothing to a side that was cut. -/
theorem quietAfterCut_snoc {side : Side} {tr : Trace (TaskSig π)} {e : Event (TaskSig π)}
    (h : QuietAfterCut side (tr ++ [e])) :
    QuietAfterCut side tr ∧
      ((∃ d ∈ tr, d.op.CutShort side d.res) → e.op.writtenTo side e.res = []) := by
  induction tr with
  | nil => exact ⟨trivial, fun ⟨d, hd, _⟩ => nomatch hd⟩
  | cons d tr ih =>
    obtain ⟨hd, hrest⟩ : (d.op.CutShort side d.res → writtenTo side (tr ++ [e]) = []) ∧
      QuietAfterCut side (tr ++ [e]) := h
    obtain ⟨hquiet, hcut⟩ := ih hrest
    rw [writtenTo_snoc, List.append_eq_nil_iff] at hd
    refine ⟨⟨fun hc => (hd hc).1, hquiet⟩, ?_⟩
    rintro ⟨d', hmem, hc⟩
    rcases List.mem_cons.mp hmem with rfl | hmem
    · exact (hd hc).2
    · exact hcut ⟨d', hmem, hc⟩

/-! ## The protocol of the loop -/

namespace Channel

/-- The chunk a read leaves to be written, with the side it came from. -/
def ofRead (side : Side) : Result Chunk → Option (Side × List UInt8)
  | .ok chunk => if chunk.bytes = [] then none else some (side, chunk.bytes)
  | .error _ => none

/-- The chunk a `select!` leaves to be written. -/
def carried : SelectOutcome → Option (Side × List UInt8)
  | .clientRead result => ofRead .client result
  | .targetRead result => ofRead .target result
  | .timeout => none

/-- The operations of the loop, at its head or with a chunk to be written. -/
inductive Allows : Option (Side × List UInt8) → TaskOp π → Prop
  | read : Allows none .select
  | unobserved : Allows none .outOfFuel
  | observe {chunk : Side × List UInt8} {o : π.Op} :
      Allows (some chunk) (.callback .handleData o)
  | pass {side : Side} {data : List UInt8} :
      Allows (some (side, data)) (.writeAll side.other data)

/-- What is left to be written after an operation. -/
def next : Option (Side × List UInt8) → (o : TaskOp π) → o.Res → Option (Side × List UInt8)
  | _, .select, outcome => carried outcome
  | _, .writeAll _ _, _ => none
  | q, _, _ => q

end Channel

/-- The protocol of the relay loop. -/
@[reducible]
def channel : Protocol (TaskSig π) where
  State := Option (Side × List UInt8)
  Allows := Channel.Allows
  next := Channel.next

namespace Channel

variable (pm : PluginManager π) (id : UInt64)

theorem onRead_follows (side : Side) (errorCount : ℕ) (result : Result Chunk) :
    (TunnelInterceptor.onRead pm id side errorCount result).Follows channel (ofRead side result)
      fun q _ => q = none := by
  cases result with
  | error e => rfl
  | ok chunk =>
    show Follows channel (if _ then _ else _) (if _ then _ else _) _
    by_cases h : chunk.bytes = []
    · rw [if_pos h, if_pos h]
      rfl
    · rw [if_neg h, if_neg h]
      -- The plugins observe the chunk, and then it is passed on.
      have hdata := Task.callback_only .handleData (pm.handleData id side.direction chunk.bytes)
      refine (hdata.follows (P := channel) (q := some (side, chunk.bytes)) ?_ ?_).bind ?_
      · rintro o ⟨o', rfl⟩
        exact .observe
      · rintro o r ⟨o', rfl⟩
        rfl
      · rintro q r ⟨rfl, -⟩
        refine ⟨.pass, fun written => ?_⟩
        cases written <;> rfl

/-- The loop follows the protocol. -/
theorem relay_follows (fuel errorCount : ℕ) :
    (TunnelInterceptor.relay pm id fuel errorCount).Follows channel none
      fun q _ => q = none := by
  induction fuel generalizing errorCount with
  | zero => exact ⟨.unobserved, fun r => nomatch r⟩
  | succ fuel ih =>
    refine ⟨.read, fun outcome => ?_⟩
    have hselect : (TunnelInterceptor.onSelect pm id errorCount outcome).Follows channel
        (carried outcome) fun q _ => q = none := by
      cases outcome with
      | clientRead result => exact onRead_follows pm id .client errorCount result
      | targetRead result => exact onRead_follows pm id .target errorCount result
      | timeout => rfl
    refine hselect.bind ?_
    rintro q r rfl
    cases r with
    | none => rfl
    | some errorCount => exact ih errorCount

/-! ## Faithful copies -/

/-- The bytes that are left to be written to a side. -/
def pending (side : Side) : Option (Side × List UInt8) → List UInt8
  | some (side', data) => if side'.other = side then data else []
  | none => []

/-- What the streams of a direction have to do with each other: what was written is a prefix of
what was read, and unless a write stopped halfway only the pending chunk is missing. -/
def Copied (side : Side) (q : Option (Side × List UInt8)) (tr : Trace (TaskSig π)) : Prop :=
  QuietAfterCut side tr →
    writtenTo side tr <+: readFrom side.other tr ∧
      ((¬ ∃ e ∈ tr, e.op.CutShort side e.res) →
        writtenTo side tr ++ pending side q = readFrom side.other tr)

theorem output_isPrefix (data : List UInt8) (result : WriteResult) :
    result.output data <+: data := by
  cases result with
  | ok => exact List.prefix_rfl
  | err written e => exact List.take_prefix _ _

/-- The chunk a `select!` leaves for a side is what it read from the other one. -/
theorem pending_carried (side : Side) (outcome : SelectOutcome) :
    pending side (carried outcome) = outcome.bytesFrom side.other := by
  cases outcome with
  | timeout => cases side <;> rfl
  | clientRead result =>
    cases result with
    | error e => cases side <;> rfl
    | ok chunk => cases side <;> by_cases h : chunk.bytes = [] <;>
        simp [carried, ofRead, pending, SelectOutcome.bytesFrom, Side.other, h]
  | targetRead result =>
    cases result with
    | error e => cases side <;> rfl
    | ok chunk => cases side <;> by_cases h : chunk.bytes = [] <;>
        simp [carried, ofRead, pending, SelectOutcome.bytesFrom, Side.other, h]

/-- As long as no write was cut short, none was before the last operation either. -/
theorem not_cutShort_of_snoc {side : Side} {tr : Trace (TaskSig π)} {o : TaskOp π} {r : o.Res}
    (h : ¬ ∃ e ∈ tr ++ [⟨o, r⟩], e.op.CutShort side e.res) :
    ¬ o.CutShort side r ∧ ¬ ∃ e ∈ tr, e.op.CutShort side e.res :=
  ⟨fun hcut => h ⟨_, List.mem_append_right _ (List.mem_singleton_self _), hcut⟩,
    fun ⟨e, he, hcut⟩ => h ⟨e, List.mem_append_left _ he, hcut⟩⟩

/-- A write puts out a prefix of the pending chunk, and nothing after a cut. -/
theorem output_append_isPrefix {written read data : List UInt8} {result : WriteResult}
    {cut : Prop} (hwritten : written <+: read) (hexact : ¬ cut → written ++ data = read)
    (hcut : cut → result.output data = []) : written ++ result.output data <+: read := by
  by_cases hbroken : cut
  · rw [hcut hbroken, List.append_nil]
    exact hwritten
  · rw [← hexact hbroken]
    exact (List.prefix_append_right_inj _).mpr (output_isPrefix data result)

/-- An operation of the loop keeps the streams copied. -/
theorem Copied.step {side : Side} {q : Option (Side × List UInt8)} {tr : Trace (TaskSig π)}
    {o : TaskOp π} (r : o.Res) (hall : Allows q o) (h : Copied side q tr) :
    Copied side (next q o r) (tr ++ [⟨o, r⟩]) := by
  intro hquiet
  obtain ⟨hquiet, hcut⟩ := quietAfterCut_snoc hquiet
  obtain ⟨hwritten, hexact⟩ := h hquiet
  rw [writtenTo_snoc, readFrom_snoc]
  cases hall with
  | read =>
    -- What was read on the other side is now pending.
    show writtenTo side tr ++ [] <+: readFrom side.other tr ++ r.bytesFrom side.other ∧
      (_ → writtenTo side tr ++ [] ++ pending side (carried r) =
        readFrom side.other tr ++ r.bytesFrom side.other)
    rw [List.append_nil]
    refine ⟨hwritten.trans (List.prefix_append _ _), fun hno => ?_⟩
    rw [pending_carried, ← hexact (not_cutShort_of_snoc hno).2]
    exact congrArg (· ++ _) (List.append_nil _).symm
  | unobserved => cases r
  | @observe chunk o =>
    show writtenTo side tr ++ [] <+: readFrom side.other tr ++ [] ∧
      (_ → writtenTo side tr ++ [] ++ pending side (some chunk) = readFrom side.other tr ++ [])
    rw [List.append_nil, List.append_nil]
    exact ⟨hwritten, fun hno => hexact (not_cutShort_of_snoc hno).2⟩
  | @pass side' data =>
    show writtenTo side tr ++ (if side'.other = side then r.output data else []) <+:
        readFrom side.other tr ++ [] ∧
      (_ → writtenTo side tr ++ (if side'.other = side then r.output data else []) ++ [] =
        readFrom side.other tr ++ [])
    rw [List.append_nil, List.append_nil]
    by_cases hside : side'.other = side
    · -- The pending chunk is written, or a prefix of it.
      rw [if_pos hside]
      have hpending : pending side (some (side', data)) = data := if_pos hside
      rw [hpending] at hexact
      have hnothing : (∃ e ∈ tr, e.op.CutShort side e.res) → r.output data = [] :=
        fun hbroken => (if_pos hside).symm.trans (hcut hbroken)
      refine ⟨output_append_isPrefix hwritten hexact hnothing, fun hno => ?_⟩
      obtain ⟨hwhole, hno⟩ := not_cutShort_of_snoc hno
      have hout : r.output data = data := by
        by_contra hne
        exact hwhole ⟨hside, hne⟩
      rw [hout]
      exact hexact hno
    · rw [if_neg hside, List.append_nil]
      have hpending : pending side (some (side', data)) = [] := if_neg hside
      rw [hpending, List.append_nil] at hexact
      exact ⟨hwritten, fun hno => hexact (not_cutShort_of_snoc hno).2⟩

/-- The streams of a direction at any point of the loop. -/
theorem copied {fuel errorCount : ℕ} {tr : Trace (TaskSig π)} {q : Prog (TaskSig π) Unit}
    (h : Steps (TunnelInterceptor.relay pm id fuel errorCount) tr q) (side : Side) :
    Copied side (channel.after none tr) tr := by
  have hpermits := (relay_follows pm id fuel errorCount).permits h
  refine hpermits.induction (R := Copied side) (fun _ => ⟨List.prefix_rfl, fun _ => rfl⟩) ?_
  intro _ _ _ r hall ih
  exact ih.step r hall

end Channel

/-- At every point of the loop, for any plugins and any results of the reads and the writes, the
bytes written to a side are a prefix of the bytes read from the other side, as long as no byte is
written to it after a write to it that stopped halfway. -/
theorem relay_writes_prefix (pm : PluginManager π) (id : UInt64) (fuel errorCount : ℕ)
    {tr : Trace (TaskSig π)} {q : Prog (TaskSig π) Unit}
    (h : Steps (TunnelInterceptor.relay pm id fuel errorCount) tr q)
    (hclient : QuietAfterCut .client tr) (htarget : QuietAfterCut .target tr) :
    writtenTo .target tr <+: readFrom .client tr ∧
      writtenTo .client tr <+: readFrom .target tr := by
  have hcopied := Channel.copied pm id h
  exact ⟨(hcopied .target htarget).1, (hcopied .client hclient).1⟩

namespace Concrete

/-- Two rounds of the loop: the client sends two bytes and then one, and the writes to the target
end in the given ways. -/
def rounds (first second : WriteResult) : Trace (TaskSig StoreSig) :=
  [⟨.select, .clientRead (.ok ⟨[1, 2], by decide⟩)⟩,
    ⟨.callback .handleData (.fetchAdd .bytesOut 2), (0 : UInt64)⟩,
    ⟨.callback .handleData (.updateNetworkRecordById 0 (NetStorage.recordData .upstream [1, 2])),
      .error "Record not found"⟩,
    ⟨.writeAll .target [1, 2], first⟩,
    ⟨.select, .clientRead (.ok ⟨[3], by decide⟩)⟩,
    ⟨.callback .handleData (.fetchAdd .bytesOut 1), (2 : UInt64)⟩,
    ⟨.callback .handleData (.updateNetworkRecordById 0 (NetStorage.recordData .upstream [3])),
      .error "Record not found"⟩,
    ⟨.writeAll .target [3], second⟩]

theorem rounds_steps (first second : WriteResult) :
    ∃ q, Steps (TunnelInterceptor.relay (registeredPlugins externals) 0 2 0)
      (rounds first second) q := by
  cases first <;> cases second <;>
    exact ⟨_, .act (.act (.act (.act (.act (.act (.act (.act (.refl _))))))))⟩

end Concrete

/-- A tunnel whose second write fails at once. -/
theorem relay_writes_prefix_cut_last :
    writtenTo .target (Concrete.rounds .ok (.err 0 "broken pipe")) <+:
        readFrom .client (Concrete.rounds .ok (.err 0 "broken pipe")) ∧
      writtenTo .client (Concrete.rounds .ok (.err 0 "broken pipe")) <+:
        readFrom .target (Concrete.rounds .ok (.err 0 "broken pipe")) := by
  obtain ⟨q, h⟩ := Concrete.rounds_steps .ok (.err 0 "broken pipe")
  exact relay_writes_prefix _ _ _ _ h (by decide) (by decide)

/-- A tunnel whose first write fails at once and whose second one succeeds: the target gets the
third byte of the client as the first one. -/
theorem relay_writes_gap :
    (∃ q, Steps (TunnelInterceptor.relay (registeredPlugins Concrete.externals) 0 2 0)
      (Concrete.rounds (.err 0 "broken pipe") .ok) q) ∧
      writtenTo .target (Concrete.rounds (.err 0 "broken pipe") .ok) = [3] ∧
      readFrom .client (Concrete.rounds (.err 0 "broken pipe") .ok) = [1, 2, 3] ∧
      ¬ writtenTo .target (Concrete.rounds (.err 0 "broken pipe") .ok) <+:
        readFrom .client (Concrete.rounds (.err 0 "broken pipe") .ok) :=
  ⟨Concrete.rounds_steps _ _, by decide, by decide, by decide⟩

end Bifrost
