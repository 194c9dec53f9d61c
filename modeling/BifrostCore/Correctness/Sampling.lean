import BifrostCore.Concurrency.MainTask
import BifrostCore.Correctness.SamplerAccounts

/-!
# What the sampler makes of the counters

The sampler next to any number of callbacks, with every access to a counter a step of its own.

* `sampled_speeds` — between iterations the speeds add up to the bytes, and the peaks are maxima.
* `qps_samples_iff` — when no call is midway the samples add up to the requests, unless one was
  counted between a load of `requests_this_second` and its reset.
-/

namespace Bifrost

open Concurrency Prog

/-! ## The runs -/

/-- A call is at work: it has begun, and neither ended nor come to a pause. -/
def CallbackTask.midway (t : CallbackTask) : Bool := Thread.midway TaskOp.isPause t

/-- How many samplers a run has started. -/
def CallbackPool.samplers (p : CallbackPool) : ℕ := p.threads.countP fun t => t.tag.isSampler

/-- The induction over runs with one sampler, for a protocol its iterations follow. -/
theorem sampler_induction {P : Protocol (TaskSig StoreSig)} {Rest : P.State → Prop}
    (hpauses : PausesIn P Rest) {rest : UInt64 × UInt64 → P.State}
    (hsample : ∀ last : UInt64 × UInt64,
      (Task.direct (TrafficStatsPlugin.sample last.1 last.2)).Follows P (rest last)
        fun q r => q = rest r)
    (hrest : ∀ last, Rest (rest last)) {C : Globals → P.State → RunLog → Prop}
    (X : Externals) {config : Config} {now : UInt64}
    (h0 : C (.init (.fresh config now)) (rest (0, 0)) [])
    (hstep : ∀ g q log i ω o r g', P.Allows q o → perform ω o g = some (r, g') →
      C g q log → C g' (P.next q o r) (log ++ [(i, ⟨o, r⟩)]))
    (hpass : ∀ g q log i ω (o : TaskOp StoreSig) r g', o.Tallies → perform ω o g = some (r, g') →
      C g q log → C g' q (log ++ [(i, ⟨o, r⟩)]))
    (moves : List (Move Invocation Oracle))
    (hone : (runCallbacks X config now moves).samplers ≤ 1) :
    ∃ q, C (runCallbacks X config now moves).state q (runCallbacks X config now moves).log ∧
      (∀ t ∈ (runCallbacks X config now moves).threads, t.tag.isSampler = true →
        P.Permits (rest (0, 0)) t.trace ∧ P.after (rest (0, 0)) t.trace = q ∧
          (CallbackTask.midway t = false → Rest q)) ∧
        ((∀ t ∈ (runCallbacks X config now moves).threads, t.tag.isSampler = false) →
          q = rest (0, 0)) := by
  have hmain : ∀ call : Invocation, call.isSampler = true →
      ((callbacks X).program call).Follows P (rest (0, 0)) fun q _ => Rest q :=
    fun _ hcall => sampler_follows hpauses X hsample hrest hcall
  obtain ⟨q, hC, hq⟩ := System.main_induction hmain
    (fun _ hcall => Tally.program_tallies X hcall) h0 hstep hpass moves hone
  refine ⟨q, hC, fun t ht hsampler => ?_, hq.absent⟩
  have hsteps : (t.tag.program X).Steps t.trace t.prog := System.steps_of_run _ moves t ht
  have hpermits := (hmain t.tag hsampler).permits hsteps
  refine ⟨hpermits, hq.stands t ht hsampler, fun hmidway => ?_⟩
  -- A sampler that is not midway pauses, has not begun, or has ended.
  have hat := Thread.at_rest Rest (hrest (0, 0))
    (fun q o ho hallows => ⟨hpauses.rests q o ho hallows, fun r => hpauses.stays q o r ho⟩)
    hpermits ((hmain t.tag hsampler).steps hsteps) hmidway
  rwa [hq.stands t ht hsampler] at hat

/-- The value of a counter an operation of the sampler has loaded. -/
def loadedValue (c : Counter) : (o : TaskOp StoreSig) → o.Res → Option ℕ
  | .store (.load c'), v => if c' = c then some v.toNat else none
  | _, _ => none

/-- The value of a counter the sampler has loaded last, or 0. -/
def lastLoaded (c : Counter) (tr : Trace (TaskSig StoreSig)) : ℕ :=
  tr.foldl (fun n e => (loadedValue c e.op e.res).getD n) 0

theorem Reading.seen_eq_lastLoaded {bytes speed : Counter} {tr : Trace (TaskSig StoreSig)}
    (h : (speedProtocol bytes speed).Permits (Reading.resting 0) tr) :
    (Reading.seen ((speedProtocol bytes speed).after (Reading.resting 0) tr)).toNat =
      lastLoaded bytes tr := by
  refine h.induction (R := fun q tr => (Reading.seen q).toNat = lastLoaded bytes tr) rfl ?_
  intro q tr o r hallows hseen
  rw [lastLoaded, List.foldl_append, ← lastLoaded, ← hseen]
  show (Reading.seen (Reading.next bytes speed q o r)).toNat =
    (loadedValue bytes o r).getD q.seen.toNat
  -- Only a load of the byte counter moves either side.
  cases hallows with
  | load => simp [Reading.next, Reading.seen, loadedValue]
  | store => simp [Reading.next, Reading.seen, loadedValue]
  | @other _ o ho =>
    have hnext : Reading.next bytes speed q (.store o) r = q :=
      (speed_overlooks bytes speed).stays q o r ho
    rw [hnext]
    cases o with
    | load c =>
      have hne : c ≠ bytes := by
        rintro rfl
        simp [StoreOp.avoids] at ho
      simp [loadedValue, hne]
    | _ => rfl
  | pause ho => cases o <;> cases ho <;> rfl

namespace Concrete

/-- The steps of one task, in an environment where everything succeeds. -/
def steps (task n : ℕ) : List (Move Invocation Oracle) :=
  .replicate n (.step task (oracle .timeout))

/-- The sampler next to two tunnels that open, and a chunk that arrives for the first one. The
second tunnel is counted when the sampler has taken `taken` of the twelve steps of its first
iteration; the eighth loads `requests_this_second`, and the tenth clears it. -/
def sampledRun (taken : ℕ) : CallbackPool :=
  runCallbacks externals config 0
    ([.spawn (.sampler 2), .spawn (.handleConnect 0 connectRequest),
      .spawn (.handleData 0 .downstream [1, 2, 3]), .spawn (.handleConnect 1 connectRequest)] ++
      steps 1 3 ++ steps 2 2 ++ steps 0 taken ++ steps 3 3 ++ steps 0 (12 - taken))

theorem threads_sampledRun : (sampledRun 0).threads ≠ [] := by decide +kernel

/-- The sampler of the run in which nothing is counted during its iteration. -/
def sampledTask : CallbackTask := (sampledRun 0).threads.head threads_sampledRun

theorem midway_sampledRun : ∀ t ∈ (sampledRun 0).threads, CallbackTask.midway t = false := by
  decide +kernel

theorem log_sampledRun (d : DataDirection) :
    amountAdded (TrafficStatsPlugin.byteCounter d) (sampledRun 0).log < 2 ^ 64 := by
  cases d <;> decide +kernel

end Concrete

section Runs

variable (X : Externals) (config : Config) (now : UInt64) (moves : List (Move Invocation Oracle))
  (hone : (runCallbacks X config now moves).samplers ≤ 1)

include hone

/-- The speeds of a direction add up to the bytes, between iterations. -/
theorem speeds_add_up (d : DataDirection)
    (hbytes : amountAdded (TrafficStatsPlugin.byteCounter d)
      (runCallbacks X config now moves).log < 2 ^ 64)
    {t : CallbackTask} (ht : t ∈ (runCallbacks X config now moves).threads)
    (hsampler : t.tag.isSampler = true) (hmidway : t.midway = false) :
    (storedValues (speedCounter d) (runCallbacks X config now moves).log).sum =
        lastLoaded (TrafficStatsPlugin.byteCounter d) t.trace ∧
      lastLoaded (TrafficStatsPlugin.byteCounter d) t.trace ≤
        ((runCallbacks X config now moves).state.value
          (TrafficStatsPlugin.byteCounter d)).toNat := by
  have hne : speedCounter d ≠ TrafficStatsPlugin.byteCounter d := by cases d <;> decide
  have hgauge : TrafficStatsPlugin.byteCounter d ≠ .currentRequests := by cases d <;> decide
  have hzero : bytesOf d (0, 0) = 0 := by cases d <;> rfl
  have hmono : ∀ log i (e : Event (TaskSig StoreSig)),
      amountAdded (TrafficStatsPlugin.byteCounter d) (log ++ [(i, e)]) < 2 ^ 64 →
        amountAdded (TrafficStatsPlugin.byteCounter d) log < 2 ^ 64 := by
    intro log i e h
    rw [amountAdded_snoc] at h
    omega
  have hstart : Reading.Account (TrafficStatsPlugin.byteCounter d) (speedCounter d)
      (.init (.fresh config now)) (.resting (bytesOf d (0, 0))) [] := by
    rw [hzero]
    cases d <;> exact ⟨rfl, rfl, UInt64.le_refl _, UInt64.le_refl _⟩
  obtain ⟨q, hC, hq, -⟩ := sampler_induction (speed_pauses _ _) (sample_speed d)
    (fun last => ⟨_, rfl⟩)
    (C := fun g q log => amountAdded (TrafficStatsPlugin.byteCounter d) log < 2 ^ 64 →
      Reading.Account (TrafficStatsPlugin.byteCounter d) (speedCounter d) g q log)
    X (fun _ => hstart)
    (fun _ _ log i _ _ _ _ hallows hp h hlt => (h (hmono log i _ hlt)).step hne i hallows hp)
    (fun _ _ log i _ _ _ _ ho hp h hlt => (h (hmono log i _ hlt)).pass hgauge i ho hp hlt)
    moves hone
  obtain ⟨hpermits, hat, hrest⟩ := hq t ht hsampler
  obtain ⟨last, rfl⟩ := hrest hmidway
  obtain ⟨-, htotal, -, hbounded⟩ := hC hbytes
  -- Between iterations, the byte count loaded last is the one the next iteration starts from.
  have hseen : last.toNat = lastLoaded (TrafficStatsPlugin.byteCounter d) t.trace := by
    rw [hzero] at hpermits hat
    have h := Reading.seen_eq_lastLoaded hpermits
    rwa [hat] at h
  exact ⟨htotal.trans hseen, hseen ▸ UInt64.le_iff_toNat_le.mp hbounded⟩

/-- A peak is the greatest value shown, between iterations. -/
theorem peak_is_greatest {value peak : Counter} (hne : peak ≠ value)
    (hpeak : peak ∉ [.totalRequests, .currentRequests, .requestsThisSecond, .bytesIn, .bytesOut])
    (hzero : (TrafficStatsData.new now).value peak = 0)
    (hsample : ∀ last : UInt64 × UInt64,
      (Task.direct (TrafficStatsPlugin.sample last.1 last.2)).Follows (peakProtocol value peak)
        Crest.level fun q _ => q = Crest.level)
    {t : CallbackTask} (ht : t ∈ (runCallbacks X config now moves).threads)
    (hsampler : t.tag.isSampler = true) (hmidway : t.midway = false) :
    ((runCallbacks X config now moves).state.value peak).toNat =
      greatest (storedValues value (runCallbacks X config now moves).log) := by
  have hstart : Crest.Account value peak (.init (.fresh config now)) .level [] :=
    ⟨congrArg (fun v => max (UInt64.toNat v) 0) hzero, fun v hv => by cases hv⟩
  obtain ⟨q, hC, hq, -⟩ := sampler_induction (peak_pauses value peak)
    hsample (fun _ => rfl)
    (C := fun g q log => Crest.Account value peak g q log) X hstart
    (fun _ _ _ i _ _ _ _ hallows hp h => h.step hne i hallows hp)
    (fun _ _ _ i _ _ _ _ ho hp h => h.pass hpeak i ho hp) moves hone
  -- Between iterations no value waits to be compared with the peak.
  obtain rfl := (hq t ht hsampler).2.2 hmidway
  have h := hC.greatest
  rwa [Crest.pending, Nat.max_zero] at h

/-- In a run with one sampler, whenever it is not midway: the speeds it has stored for a direction
add up to the byte count its last iteration has loaded, which is at most the present one, as long
as the bytes of the direction stay below `2^64`; the greatest speed is the maximum of the speeds it
has stored, and the greatest rate the maximum of the rates. -/
theorem sampled_speeds (t : CallbackTask) (ht : t ∈ (runCallbacks X config now moves).threads)
    (hsampler : t.tag.isSampler = true) (hmidway : t.midway = false) :
    (∀ d : DataDirection,
      (amountAdded (TrafficStatsPlugin.byteCounter d)
          (runCallbacks X config now moves).log < 2 ^ 64 →
        (storedValues (speedCounter d) (runCallbacks X config now moves).log).sum =
            lastLoaded (TrafficStatsPlugin.byteCounter d) t.trace ∧
          lastLoaded (TrafficStatsPlugin.byteCounter d) t.trace ≤
            ((runCallbacks X config now moves).state.value
              (TrafficStatsPlugin.byteCounter d)).toNat) ∧
      ((runCallbacks X config now moves).state.value (maxSpeedCounter d)).toNat =
        greatest (storedValues (speedCounter d) (runCallbacks X config now moves).log)) ∧
    ((runCallbacks X config now moves).state.value .maxQps).toNat =
      greatest (storedValues .lastQps (runCallbacks X config now moves).log) := by
  refine ⟨fun d => ⟨fun hbytes => ?_, ?_⟩, ?_⟩
  · exact speeds_add_up X config now moves hone d hbytes ht hsampler hmidway
  · refine peak_is_greatest X config now moves hone ?_ ?_ ?_ (sample_peak d) ht hsampler hmidway
    · cases d <;> decide
    · cases d <;> decide
    · cases d <;> rfl
  · exact peak_is_greatest X config now moves hone (by decide) (by decide) rfl sample_peak_qps ht
      hsampler hmidway

end Runs

/-- One iteration after three bytes arrived: the theorem applies. -/
theorem sampled_speeds_one_iteration :
    (∀ d : DataDirection,
      ((storedValues (speedCounter d) (Concrete.sampledRun 0).log).sum =
            lastLoaded (TrafficStatsPlugin.byteCounter d) Concrete.sampledTask.trace ∧
          lastLoaded (TrafficStatsPlugin.byteCounter d) Concrete.sampledTask.trace ≤
            ((Concrete.sampledRun 0).state.value (TrafficStatsPlugin.byteCounter d)).toNat) ∧
      ((Concrete.sampledRun 0).state.value (maxSpeedCounter d)).toNat =
        greatest (storedValues (speedCounter d) (Concrete.sampledRun 0).log)) ∧
    ((Concrete.sampledRun 0).state.value .maxQps).toNat =
      greatest (storedValues .lastQps (Concrete.sampledRun 0).log) := by
  have h := sampled_speeds Concrete.externals Concrete.config 0 _ (by decide +kernel)
    Concrete.sampledTask (List.head_mem Concrete.threads_sampledRun) (by decide +kernel)
    (Concrete.midway_sampledRun _ (List.head_mem _))
  exact ⟨fun d => ⟨(h.1 d).1 (Concrete.log_sampledRun d), (h.1 d).2⟩, h.2⟩

/-- What the operations of a task have added to a counter. -/
def addedIn (c : Counter) (tr : Trace (TaskSig StoreSig)) : ℕ :=
  (tr.map fun e => e.op.addedTo c).sum

theorem addedIn_snoc (c : Counter) (tr : Trace (TaskSig StoreSig)) (e : Event (TaskSig StoreSig)) :
    addedIn c (tr ++ [e]) = addedIn c tr + e.op.addedTo c := by
  simp [addedIn]

/-- How many requests a callback has yet to count in `requests_this_second`. -/
def Tally.owed : Tally → ℕ
  | .even => 0
  | .owing => 1

theorem Tally.Neutral.addedTo_eq_zero {o : StoreOp} (h : Neutral o) (cb : Callback) {c : Counter}
    (hc : c ∉ [.currentRequests, .bytesIn, .bytesOut]) : (TaskOp.callback cb o).addedTo c = 0 := by
  cases o with
  | fetchAdd c' n =>
    refine if_neg ?_
    rintro rfl
    exact hc h
  | _ => rfl

/-- What a callback has counted in the one counter and not in the other is what it owes. -/
theorem Tally.addedIn_eq {tr : Trace (TaskSig StoreSig)} (h : tallyProtocol.Permits Tally.even tr) :
    addedIn .totalRequests tr =
      addedIn .requestsThisSecond tr + Tally.owed (tallyProtocol.after Tally.even tr) := by
  refine h.induction (R := fun q tr => addedIn .totalRequests tr =
    addedIn .requestsThisSecond tr + Tally.owed q) rfl ?_
  intro q tr o r hallows ih
  rw [addedIn_snoc, addedIn_snoc, ih]
  cases hallows with
  | @other _ cb o ho =>
    have hnext : tallyProtocol.next q (.callback cb o) r = q := next_neutral q cb ho
    rw [hnext, ho.addedTo_eq_zero cb (by decide), ho.addedTo_eq_zero cb (by decide), Nat.add_zero,
      Nat.add_zero]
  | total => rfl
  | second => rfl

/-- A callback that is not midway has counted as often in the one counter as in the other. -/
theorem addedIn_of_callback (X : Externals) {t : CallbackTask}
    (hsteps : (t.tag.program X).Steps t.trace t.prog) (hcall : t.tag.isSampler = false)
    (hmidway : t.midway = false) :
    addedIn .totalRequests t.trace = addedIn .requestsThisSecond t.trace := by
  have hfollows := Tally.program_follows X hcall
  have hpermits := hfollows.permits hsteps
  have heven : tallyProtocol.after Tally.even t.trace = Tally.even :=
    Thread.at_rest (· = Tally.even) rfl
      (fun q o ho hallows => by cases hallows <;> cases ho) hpermits (hfollows.steps hsteps) hmidway
  rw [Tally.addedIn_eq hpermits, heven]
  rfl

/-- The sampler has counted nothing. -/
theorem addedIn_of_sampler (X : Externals) {t : CallbackTask}
    (hsteps : (t.tag.program X).Steps t.trace t.prog) (hcall : t.tag.isSampler = true)
    (c : Counter) : addedIn c t.trace = 0 := by
  have hpermits := (sampler_follows swap_pauses X sample_swap (fun _ => rfl) hcall).permits hsteps
  refine List.sum_eq_zero fun n hn => ?_
  obtain ⟨e, he, rfl⟩ := List.mem_map.mp hn
  obtain ⟨q, hallows⟩ := Protocol.Permits.allows _ hpermits e he
  exact hallows.addedTo_eq_zero c

section Runs

variable (X : Externals) (config : Config) (now : UInt64) (moves : List (Move Invocation Oracle))
  (hone : (runCallbacks X config now moves).samplers ≤ 1)

/-- Whenever no call is midway, as many requests have been counted in `requests_this_second` as in
`total_requests`. -/
theorem amountAdded_second
    (hquiet : ∀ t ∈ (runCallbacks X config now moves).threads, CallbackTask.midway t = false) :
    amountAdded .requestsThisSecond (runCallbacks X config now moves).log =
      amountAdded .totalRequests (runCallbacks X config now moves).log := by
  have hsum : ∀ c, amountAdded c (runCallbacks X config now moves).log =
      ((runCallbacks X config now moves).threads.map fun t => addedIn c t.trace).sum :=
    fun c => System.sum_log (fun e : Event (TaskSig StoreSig) => e.op.addedTo c) _ _
  rw [hsum, hsum]
  congr 1
  refine List.map_congr_left fun t ht => ?_
  have hsteps : (t.tag.program X).Steps t.trace t.prog := System.steps_of_run _ moves t ht
  cases hcall : t.tag.isSampler with
  | true => rw [addedIn_of_sampler X hsteps hcall, addedIn_of_sampler X hsteps hcall]
  | false => exact (addedIn_of_callback X hsteps hcall (hquiet t ht)).symm

include hone

/-- In a run with one sampler, whenever no call is midway and fewer than `2^64` requests have been
counted: the samples and the requests of the present second add up to all requests if and only if
none was counted between a load of `requests_this_second` and its reset. -/
theorem qps_samples_iff
    (hquiet : ∀ t ∈ (runCallbacks X config now moves).threads, CallbackTask.midway t = false)
    (htotal : amountAdded .totalRequests (runCallbacks X config now moves).log < 2 ^ 64) :
    (storedValues .lastQps (runCallbacks X config now moves).log).sum +
          ((runCallbacks X config now moves).state.value .requestsThisSecond).toNat =
        ((runCallbacks X config now moves).state.value .totalRequests).toNat ↔
      Undisturbed (runCallbacks X config now moves).log := by
  have hstart : Swap.Account (.init (.fresh config now)) .idle [] :=
    ⟨rfl, rfl, fun _ => rfl⟩
  obtain ⟨q, hC, hq, hnone⟩ := sampler_induction swap_pauses sample_swap (fun _ => rfl)
    (C := fun g q log => Swap.Account g q log) X hstart
    (fun _ _ _ i _ _ _ _ hallows hp h => h.step i hallows hp)
    (fun _ _ _ i _ _ _ _ ho hp h => h.pass i ho hp) moves hone
  -- The sampler idles, if there is one.
  have hidle : q = Swap.idle := by
    by_cases h : ∃ t ∈ (runCallbacks X config now moves).threads, t.tag.isSampler = true
    · obtain ⟨t, ht, hsampler⟩ := h
      exact (hq t ht hsampler).2.2 (hquiet t ht)
    · push Not at h
      exact hnone fun t ht => by simpa using h t ht
  subst hidle
  obtain ⟨hvalue, -, hbalance⟩ := hC
  have hsecond := amountAdded_second X config now moves hquiet
  have htotal' : ((runCallbacks X config now moves).state.value .totalRequests).toNat =
      amountAdded .totalRequests (runCallbacks X config now moves).log := by
    rw [hvalue, UInt64.toNat_ofNat', Nat.mod_eq_of_lt htotal]
  -- What is missing from the samples is what was lost.
  have hsum := hbalance (hsecond ▸ htotal)
  rw [hsecond, Swap.held] at hsum
  rw [htotal', ← lostRequests_eq_zero_iff]
  omega

end Runs

/-- Nothing is counted during the iteration, and the samples add up. -/
theorem qps_samples_one_iteration :
    (storedValues .lastQps (Concrete.sampledRun 0).log).sum +
          ((Concrete.sampledRun 0).state.value .requestsThisSecond).toNat =
        ((Concrete.sampledRun 0).state.value .totalRequests).toNat ↔
      Undisturbed (Concrete.sampledRun 0).log :=
  qps_samples_iff Concrete.externals Concrete.config 0 _ (by decide +kernel)
    Concrete.midway_sampledRun (by decide +kernel)

/-- The second tunnel is counted between the load of `requests_this_second` and its reset: no call
is midway any more, two requests have been counted, and the samples and the present second show one
of them. -/
theorem qps_samples_lost :
    (Concrete.sampledRun 8).samplers = 1 ∧
      (∀ t ∈ (Concrete.sampledRun 8).threads, CallbackTask.midway t = false) ∧
        ((Concrete.sampledRun 8).state.value .totalRequests).toNat = 2 ∧
          (storedValues .lastQps (Concrete.sampledRun 8).log).sum +
            ((Concrete.sampledRun 8).state.value .requestsThisSecond).toNat ≠ 2 := by
  decide +kernel

end Bifrost
