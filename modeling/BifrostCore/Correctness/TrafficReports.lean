import BifrostCore.Correctness.Reports
import BifrostCore.Correctness.Sampling

/-!
# What `/traffic_stats` shows

The totals and the peaks of the statistics are loaded by any number of tasks, while others add to
them and the sampler raises them. Whoever looks later sees no less.

* `Rising` — the values loaded from a counter so far never fall, and are at most its present value.
* `readings_rise` — this holds of the totals and of the peaks; and between two iterations of the
  sampler a peak is at least every value of its gauge that was loaded so far.
* `traffic_reports_rise` — the later one of two reports shows no smaller totals and peaks.
-/

namespace Bifrost

open Concurrency Prog

/-! ## Readings of a counter -/

/-- The value of a counter an operation has loaded. -/
def TaskOp.reading (c : Counter) : (o : TaskOp StoreSig) → o.Res → Option ℕ
  | .callback _ (.load c'), v => if c' = c then some v.toNat else none
  | .store (.load c'), v => if c' = c then some v.toNat else none
  | _, _ => none

/-- The values the tasks have loaded from a counter, in the order of the run. -/
def readings (c : Counter) (log : RunLog) : List ℕ :=
  log.filterMap fun entry => entry.2.op.reading c entry.2.res

theorem readings_snoc (c : Counter) (log : RunLog) (i : ℕ) (e : Event (TaskSig StoreSig)) :
    readings c (log ++ [(i, e)]) = readings c log ++ (e.op.reading c e.res).toList := by
  rw [readings, List.filterMap_append]
  cases h : e.op.reading c e.res <;> simp [readings, h]

theorem mem_readings {c : Counter} {log : RunLog} {i : ℕ} {e : Event (TaskSig StoreSig)} {v : ℕ}
    (h : (i, e) ∈ log) (hv : e.op.reading c e.res = some v) : v ∈ readings c log :=
  List.mem_filterMap.mpr ⟨(i, e), h, hv⟩

/-- The values loaded from a counter so far never fall, and are at most its present value. -/
structure Rising (c : Counter) (g : Globals) (log : RunLog) : Prop where
  /-- Nobody has loaded less than somebody before. -/
  sorted : (readings c log).Pairwise (· ≤ ·)
  /-- The present value is the greatest. -/
  below : ∀ v ∈ readings c log, v ≤ (g.value c).toNat

section Step

variable {c : Counter} {ω : Oracle} {g g' : Globals} {o : TaskOp StoreSig} {r : o.Res}
  {log : RunLog}

/-- What is loaded is the present value. -/
theorem reading_eq (hp : perform ω o g = some (r, g')) {v : ℕ} (hv : o.reading c r = some v) :
    v = (g.value c).toNat := by
  unfold TaskOp.reading at hv
  split at hv
  · split at hv
    · next heq =>
      cases hv
      cases hp
      rw [heq]
      rfl
    · cases hv
  · split at hv
    · next heq =>
      cases hv
      cases hp
      rw [heq]
      rfl
    · cases hv
  · cases hv

/-- A counter that does not fall keeps rising. -/
theorem Rising.step (h : Rising c g log) (hp : perform ω o g = some (r, g'))
    (hle : (g.value c).toNat ≤ (g'.value c).toNat) (i : ℕ) :
    Rising c g' (log ++ [(i, ⟨o, r⟩)]) := by
  have hbelow : ∀ v ∈ readings c log ++ (o.reading c r).toList, v ≤ (g.value c).toNat := by
    intro v hv
    rcases List.mem_append.mp hv with hv | hv
    · exact h.below v hv
    · exact (reading_eq hp (Option.mem_toList.mp hv)).le
  refine ⟨?_, ?_⟩
  · rw [readings_snoc, List.pairwise_append]
    refine ⟨h.sorted, ?_, fun a ha b hb => ?_⟩
    · cases o.reading c r <;> simp
    · rw [reading_eq hp (Option.mem_toList.mp hb)]
      exact h.below a ha
  · rw [readings_snoc]
    exact fun v hv => (hbelow v hv).trans hle

theorem Rising.nil (c : Counter) (g : Globals) : Rising c g [] := ⟨.nil, by simp [readings]⟩

end Step

/-! ## What the tasks do to the counters -/

/-- The counters that are only ever added to. -/
def totals : List Counter := [.totalRequests, .bytesIn, .bytesOut]

theorem not_sampled_of_total : ∀ c ∈ totals, ¬ c.Sampled ∧ c ≠ .currentRequests := by decide

/-- The gauges the sampler writes, and their peaks. -/
def gauges : List (Counter × Counter) :=
  [(.currentSpeedIn, .maxSpeedIn), (.currentSpeedOut, .maxSpeedOut), (.lastQps, .maxQps)]

/-- The operation adds to counters, or leaves them alone. -/
def TaskOp.Adds (o : TaskOp StoreSig) : Prop := ∀ o' ∈ o.storeOp, o'.Tallies

/-- No task but the sampler overwrites a counter. -/
theorem Ledger.Allows.adds {q : Phase} {o : TaskOp StoreSig} (h : Ledger.Allows q o)
    (hq : q.flow ≠ none) : o.Adds := by
  have hquiet : o.Quiet → o.Adds := by
    intro ho o' ho'
    have hread := ho.readOnly o' ho'
    cases o' <;> trivial
  cases h with
  | quiet_idle ho => exact hquiet ho
  | quiet_drawn ho => exact hquiet ho
  | @meter id direction n =>
    rintro _ ⟨⟩
    cases direction <;> simp [StoreOp.Tallies, TrafficStatsPlugin.byteCounter]
  | sample_load => exact absurd rfl hq
  | sample_store _ => exact absurd rfl hq
  | _ => rintro _ ⟨⟩ <;> simp [StoreOp.Tallies]

theorem Job.program_adds (X : Externals) {job : Job} (hjob : job.isSampler = false) :
    (job.program X).Only TaskOp.Adds fun _ => True := by
  refine (Ledger.program_follows X job).only_of (fun q => q.flow ≠ none) ?_ ?_ ?_
  · cases job with
    | proxied req fuel =>
      show (if _ then _ else _ : Phase).flow ≠ none
      split <;> decide
    | intercepted req => exact Option.some_ne_none _
    | sampler fuel => cases hjob
  · intro q o r hallows hq
    exact (Ledger.flow_next hallows r).trans_ne hq
  · exact fun q o hallows hq => hallows.adds hq

/-- The sampler keeps each peak as its protocol says. -/
theorem Job.sampler_follows (X : Externals) {value peak : Counter} (h : (value, peak) ∈ gauges)
    {job : Job} (hjob : job.isSampler = true) :
    (job.program X).Follows (peakProtocol value peak) .level fun q _ => q = .level := by
  have hsample : ∀ last : UInt64 × UInt64,
      (Task.direct (π := StoreSig) (TrafficStatsPlugin.sample last.1 last.2)).Follows
        (peakProtocol value peak) .level fun q _ => q = .level := by
    simp only [gauges, List.mem_cons, Prod.mk.injEq, List.not_mem_nil, or_false] at h
    rcases h with ⟨rfl, rfl⟩ | ⟨rfl, rfl⟩ | ⟨rfl, rfl⟩
    · exact sample_peak .downstream
    · exact sample_peak .upstream
    · exact sample_peak_qps
  cases job with
  | sampler fuel =>
    exact (samplerLoop_follows (peak_pauses value peak) hsample (fun _ => rfl) fuel 0 0).bind
      fun _ _ hq => hq
  | _ => cases hjob

section Effect

variable {c : Counter} {ω : Oracle} {g g' : Globals} {o : TaskOp StoreSig} {r : o.Res}

/-- A counter after an operation that adds to counters. -/
theorem TaskOp.Adds.value (h : o.Adds) (hc : c ≠ .currentRequests)
    (hp : perform ω o g = some (r, g')) :
    g'.value c = g.value c + UInt64.ofNat (o.addedTo c) := by
  rw [Globals.value, store_perform hp, TaskOp.addedTo]
  cases ho : o.storeOp with
  | none => exact (add_zero _).symm
  | some o' => exact (h o' ho).value hc _ _

theorem TaskOp.Adds.storedIn (h : o.Adds) (c : Counter) :
    o.storeOp.bind (·.storedIn c) = none := by
  cases ho : o.storeOp with
  | none => rfl
  | some o' => exact (h o' ho).storedIn c

/-- A total after any operation of a task. -/
theorem Ledger.Allows.value_total {q : Phase} (h : Ledger.Allows q o) (hc : c ∈ totals)
    (hp : perform ω o g = some (r, g')) :
    g'.value c = g.value c + UInt64.ofNat (o.addedTo c) := by
  obtain ⟨hsampled, hgauge⟩ := not_sampled_of_total c hc
  by_cases hq : q.flow = none
  · -- The sampler leaves the totals alone.
    cases h with
    | sample_load =>
      obtain ⟨-, rfl⟩ := perform_load hp
      exact (add_zero _).symm
    | @sample_store c' v hc' =>
      have hne : c ≠ c' := by
        rintro rfl
        exact hsampled hc'
      rw [(perform_store hp).2 c hne]
      exact (add_zero _).symm
    | sample_sleep =>
      cases hp
      exact (add_zero _).symm
    | sample_unobserved => exact r.elim
    | _ => cases hq
  · exact (h.adds hq).value hgauge hp

end Effect

/-! ## Totals -/

section Reachable

variable (X : Externals) (config : Config) (now : UInt64) (moves : List (Move Job Oracle))

/-- A total is what was added to it, and rises, as long as this stays below `2^64`. -/
theorem total_rises {c : Counter} (hc : c ∈ totals)
    (hsum : amountAdded c (runProxy X config now moves).log < 2 ^ 64) :
    Rising c (runProxy X config now moves).state (runProxy X config now moves).log := by
  have hzero : (TrafficStatsData.new now).value c = 0 := by
    simp only [totals, List.mem_cons, List.not_mem_nil, or_false] at hc
    rcases hc with rfl | rfl | rfl <;> rfl
  refine (System.protocol_induction ledger (Ledger.program_follows X)
    (C := fun g _ log => amountAdded c log < 2 ^ 64 →
      (g.value c).toNat = amountAdded c log ∧ Rising c g log) ?_ ?_ ?_ moves hsum).2
  · intro _
    refine ⟨?_, .nil c _⟩
    show ((TrafficStatsData.new now).value c).toNat = 0
    rw [hzero]
    rfl
  · exact fun _ _ _ _ ih => ih
  · intro g before job tr after log ω o r g' _ hallows hperf ih hlt
    rw [amountAdded_snoc] at hlt ⊢
    obtain ⟨hvalue, hrising⟩ := ih (by omega)
    have hnew := toNat_value_add hvalue hlt
    rw [← hallows.value_total hc hperf] at hnew
    exact ⟨hnew, hrising.step hperf (by omega) _⟩

end Reachable

/-! ## Peaks -/

/-- What was loaded from a gauge is at most the greatest value that was stored in it. -/
structure Covered (value : Counter) (g : Globals) (log : RunLog) : Prop where
  /-- Of what was loaded. -/
  below : ∀ v ∈ readings value log, v ≤ greatest (storedValues value log)
  /-- Of what will be loaded next. -/
  present : (g.value value).toNat ≤ greatest (storedValues value log)

section Step

variable {value peak : Counter} {ω : Oracle} {g g' : Globals} {o : TaskOp StoreSig} {r : o.Res}
  {log : RunLog} {q : Crest}

theorem greatest_storedValues_le (c : Counter) (log : RunLog) (i : ℕ)
    (e : Event (TaskSig StoreSig)) :
    greatest (storedValues c log) ≤ greatest (storedValues c (log ++ [(i, e)])) := by
  rw [storedValues_snoc]
  cases e.op.storeOp.bind (·.storedIn c) with
  | none => simp
  | some v => simp

/-- A gauge stays, or its new value is stored. -/
theorem Covered.step (h : Covered value g log) (hp : perform ω o g = some (r, g')) {i : ℕ}
    (hvalue : g'.value value = g.value value ∨
      storedValues value (log ++ [(i, ⟨o, r⟩)]) =
        storedValues value log ++ [(g'.value value).toNat]) :
    Covered value g' (log ++ [(i, ⟨o, r⟩)]) := by
  have hgrows := greatest_storedValues_le value log i ⟨o, r⟩
  refine ⟨fun v hv => ?_, ?_⟩
  · rw [readings_snoc] at hv
    rcases List.mem_append.mp hv with hv | hv
    · exact (h.below v hv).trans hgrows
    · rw [reading_eq hp (Option.mem_toList.mp hv)]
      exact h.present.trans hgrows
  · rcases hvalue with hsame | hstored
    · rw [hsame]
      exact h.present.trans hgrows
    · rw [hstored, greatest_snoc]
      exact le_max_right _ _

/-- What an operation of the sampler does to a gauge. -/
theorem Crest.Allows.gauge (h : Crest.Allows value peak q o) (hne : peak ≠ value)
    (hp : perform ω o g = some (r, g')) (i : ℕ) :
    g'.value value = g.value value ∨ storedValues value (log ++ [(i, ⟨o, r⟩)]) =
      storedValues value log ++ [(g'.value value).toNat] := by
  cases h with
  | @put v =>
    obtain ⟨hself, -⟩ := perform_store hp
    right
    rw [storedValues_store, hself]
  | load =>
    obtain ⟨-, rfl⟩ := perform_load hp
    exact .inl rfl
  | raise => exact .inl ((perform_store hp).2 value (Ne.symm hne))
  | other ho => exact .inl (value_of_avoids ho (by simp) hp log i).1
  | pause ho =>
    obtain ⟨rfl, -⟩ := perform_pause ho hp log i
    exact .inl rfl

/-- The sampler lowers no peak. -/
theorem Crest.Allows.peak_le (h : Crest.Allows value peak q o) (hne : peak ≠ value)
    (habove : ∀ v, q = .raising v → g.value peak < v) (hp : perform ω o g = some (r, g')) :
    (g.value peak).toNat ≤ (g'.value peak).toNat := by
  cases h with
  | put => rw [(perform_store hp).2 peak hne]
  | load =>
    obtain ⟨-, rfl⟩ := perform_load hp
    exact le_rfl
  | @raise v =>
    rw [(perform_store hp).1]
    exact (UInt64.lt_iff_toNat_lt.mp (habove v rfl)).le
  | other ho => rw [(value_of_avoids ho (c := peak) (by simp) hp [] 0).1]
  | pause ho =>
    obtain ⟨rfl, -⟩ := perform_pause ho hp [] 0
    exact le_rfl

end Step

/-- The sampler is at work: it has begun an iteration, and neither ended nor come to a pause. -/
def ProxyTask.midway (t : ProxyTask) : Bool := Thread.midway TaskOp.isPause t

theorem gauges_apart : ∀ x ∈ gauges, x.2 ≠ x.1 ∧
    x.1 ∉ [.totalRequests, .currentRequests, .requestsThisSecond, .bytesIn, .bytesOut] ∧
      x.2 ∉ [.totalRequests, .currentRequests, .requestsThisSecond, .bytesIn, .bytesOut] := by
  decide

/-- Tasks that only add to counters leave the gauges and the peaks alone. -/
theorem TaskOp.Adds.value_eq {c : Counter} {ω : Oracle} {g g' : Globals} {o : TaskOp StoreSig}
    {r : o.Res} (h : o.Adds)
    (hc : c ∉ [.totalRequests, .currentRequests, .requestsThisSecond, .bytesIn, .bytesOut])
    (hp : perform ω o g = some (r, g')) : g'.value c = g.value c := by
  have hgauge : c ≠ .currentRequests := by
    rintro rfl
    simp at hc
  rw [h.value hgauge hp, TaskOp.addedTo]
  cases ho : o.storeOp with
  | none => exact add_zero _
  | some o' =>
    have hzero : (TaskOp.callback .handleRequest o').addedTo c = 0 :=
      TaskOp.Tallies.addedTo_eq_zero ⟨.handleRequest, o', rfl, h o' ho⟩ hc
    rw [show (some o').elim 0 (·.addedTo c) = 0 from hzero]
    exact add_zero _

/-- What holds of a gauge and its peak in every run with one sampler, which stands at `q`. -/
structure PeakBooks (value peak : Counter) (g : Globals) (q : Crest) (log : RunLog) : Prop where
  /-- The peak is kept as its protocol says. -/
  account : Crest.Account value peak g q log
  /-- The peak rises. -/
  rising : Rising peak g log
  /-- The gauge is below the greatest value that was stored in it. -/
  covered : Covered value g log

namespace PeakBooks

variable {value peak : Counter} {ω : Oracle} {g g' : Globals} {o : TaskOp StoreSig} {r : o.Res}
  {log : RunLog} {q : Crest}

/-- One operation of the sampler. -/
theorem step (h : PeakBooks value peak g q log) (hne : peak ≠ value) (i : ℕ)
    (hallows : Crest.Allows value peak q o) (hp : perform ω o g = some (r, g')) :
    PeakBooks value peak g' (Crest.next value peak q o r) (log ++ [(i, ⟨o, r⟩)]) where
  account := h.account.step hne i hallows hp
  rising := h.rising.step hp (hallows.peak_le hne h.account.above hp) i
  covered := h.covered.step hp (hallows.gauge hne hp i)

/-- One operation of another task. -/
theorem pass (h : PeakBooks value peak g q log) (hpair : (value, peak) ∈ gauges) (i : ℕ)
    (ho : o.Adds) (hp : perform ω o g = some (r, g')) :
    PeakBooks value peak g' q (log ++ [(i, ⟨o, r⟩)]) := by
  obtain ⟨-, hvalue, hpeak⟩ := gauges_apart _ hpair
  have hsame := ho.value_eq hpeak hp
  have hstored : storedValues value (log ++ [(i, ⟨o, r⟩)]) = storedValues value log := by
    rw [storedValues_snoc, ho.storedIn]
    exact List.append_nil _
  exact ⟨h.account.frame hsame hstored, h.rising.step hp (by rw [hsame]) i,
    h.covered.step hp (.inl (ho.value_eq hvalue hp))⟩

/-- The books when the proxy starts. -/
theorem start (config : Config) (now : UInt64) (hpair : (value, peak) ∈ gauges) :
    PeakBooks value peak (.init (.fresh config now)) .level [] := by
  have hzero : (TrafficStatsData.new now).value value = 0 ∧
      (TrafficStatsData.new now).value peak = 0 := by
    simp only [gauges, List.mem_cons, Prod.mk.injEq, List.not_mem_nil, or_false] at hpair
    rcases hpair with ⟨rfl, rfl⟩ | ⟨rfl, rfl⟩ | ⟨rfl, rfl⟩ <;> exact ⟨rfl, rfl⟩
  refine ⟨⟨congrArg (fun v => max (UInt64.toNat v) 0) hzero.2, ?_⟩, .nil peak _, ?_⟩
  · intro v hv
    cases hv
  · exact ⟨by simp [readings], (congrArg UInt64.toNat hzero.1).le⟩

end PeakBooks

section Reachable

variable (X : Externals) (config : Config) (now : UInt64) (moves : List (Move Job Oracle))

/-- A peak rises, with one sampler; and while that is not at work, the peak is at least what was
loaded from its gauge. -/
theorem peak_rises
    (hone : ((runProxy X config now moves).threads.countP fun t => t.tag.isSampler) ≤ 1)
    {value peak : Counter} (h : (value, peak) ∈ gauges) :
    Rising peak (runProxy X config now moves).state (runProxy X config now moves).log ∧
      ((∀ t ∈ (runProxy X config now moves).threads, t.tag.isSampler = true →
          ProxyTask.midway t = false) →
        ∀ v ∈ readings value (runProxy X config now moves).log,
          v ≤ ((runProxy X config now moves).state.value peak).toNat) := by
  obtain ⟨hne, -, -⟩ := gauges_apart _ h
  have hmain : ∀ job : Job, job.isSampler = true → ((system X).program job).Follows
      (peakProtocol value peak) .level fun q _ => q = .level :=
    fun _ hjob => Job.sampler_follows X h hjob
  obtain ⟨q, hbooks, hq⟩ := System.main_induction hmain (fun _ hjob => Job.program_adds X hjob)
    (PeakBooks.start config now h)
    (fun _ _ _ i _ _ _ _ hallows hp hbooks => hbooks.step hne i hallows hp)
    (fun _ _ _ i _ _ _ _ ho hp hbooks => hbooks.pass h i ho hp) moves hone
  refine ⟨hbooks.rising, fun hrest v hv => ?_⟩
  -- Between iterations the peak is the greatest value that was stored.
  have hlevel : q = .level := by
    by_cases hsampler : ∃ t ∈ (runProxy X config now moves).threads, t.tag.isSampler = true
    · obtain ⟨t, ht, hsampler⟩ := hsampler
      have hsteps := System.steps_of_run _ moves t ht
      have hat := Thread.at_rest (· = Crest.level) rfl
        (fun q o ho hallows => ⟨(peak_pauses value peak).rests q o ho hallows,
          fun r => (peak_pauses value peak).stays q o r ho⟩)
        ((hmain t.tag hsampler).permits hsteps) ((hmain t.tag hsampler).steps hsteps)
        (hrest t ht hsampler)
      rwa [hq.stands t ht hsampler] at hat
    · refine hq.absent fun t ht => ?_
      simpa using fun htrue => hsampler ⟨t, ht, htrue⟩
  have hgreatest := hbooks.account.greatest
  rw [hlevel, Crest.pending, Nat.max_zero] at hgreatest
  exact hgreatest ▸ hbooks.covered.below v hv

end Reachable

/-- In every run with one sampler, what the tasks load from the totals never falls, as long as these
stay below `2^64`, and neither does what they load from the peaks; and while the sampler is not at
work, no peak is below anything that was loaded from its gauge. -/
theorem readings_rise (X : Externals) (config : Config) (now : UInt64)
    (moves : List (Move Job Oracle))
    (hone : ((runProxy X config now moves).threads.countP fun t => t.tag.isSampler) ≤ 1) :
    (∀ c ∈ totals, amountAdded c (runProxy X config now moves).log < 2 ^ 64 →
      (readings c (runProxy X config now moves).log).Pairwise (· ≤ ·)) ∧
    ∀ x ∈ gauges, (readings x.2 (runProxy X config now moves).log).Pairwise (· ≤ ·) ∧
      ((∀ t ∈ (runProxy X config now moves).threads, t.tag.isSampler = true →
          ProxyTask.midway t = false) →
        ∀ v ∈ readings x.1 (runProxy X config now moves).log,
          v ≤ ((runProxy X config now moves).state.value x.2).toNat) := by
  refine ⟨fun c hc hsum => (total_rises X config now moves hc hsum).sorted, fun x hx => ?_⟩
  obtain ⟨hrising, hcovered⟩ := peak_rises X config now moves hone hx
  exact ⟨hrising.sorted, hcovered⟩

/-! ## Reports -/

namespace BifrostServerPlugin

/-- The counters `/traffic_stats` shows, in the order in which they are loaded. -/
def shownCounters : List Counter :=
  [.bytesIn, .bytesOut, .totalRequests, .currentRequests, .lastQps, .currentSpeedIn,
    .currentSpeedOut, .maxSpeedIn, .maxSpeedOut, .maxQps]

/-- Those that are loaded again for the formatted object. -/
def formattedCounters : List Counter :=
  [.bytesIn, .bytesOut, .currentSpeedIn, .currentSpeedOut, .maxSpeedIn, .maxSpeedOut]

/-- The loads of some counters. -/
def loads (v : Counter → UInt64) (cs : List Counter) : Trace StoreSig :=
  cs.map fun c => ⟨.load c, v c⟩

/-- The report with the values `v`, and the values `v'` in the formatted object. -/
def trafficReport (X : Externals) (v v' : Counter → UInt64) : Json :=
  .obj [("bytes_in", .num (v .bytesIn).toNat), ("bytes_out", .num (v .bytesOut).toNat),
    ("total_requests", .num (v .totalRequests).toNat),
    ("current_requests", .num (v .currentRequests).toNat), ("qps", .num (v .lastQps).toNat),
    ("speed_in", .num (v .currentSpeedIn).toNat), ("speed_out", .num (v .currentSpeedOut).toNat),
    ("max_speed_in", .num (v .maxSpeedIn).toNat), ("max_speed_out", .num (v .maxSpeedOut).toNat),
    ("max_qps", .num (v .maxQps).toNat),
    ("formatted", .obj [
      ("bytes_in", showMegabytes X (v' .bytesIn) " MB"),
      ("bytes_out", showMegabytes X (v' .bytesOut) " MB"),
      ("speed_in", showMegabytes X (v' .currentSpeedIn) " MB/s"),
      ("speed_out", showMegabytes X (v' .currentSpeedOut) " MB/s"),
      ("max_speed_in", showMegabytes X (v' .maxSpeedIn) " MB/s"),
      ("max_speed_out", showMegabytes X (v' .maxSpeedOut) " MB/s")])]

/-- The values of some counters, by their places. -/
def valueAt (cs : List Counter) (vs : List UInt64) (c : Counter) : UInt64 :=
  (vs[cs.idxOf c]?).getD 0

/-- What `/traffic_stats` reads and answers. -/
theorem steps_trafficStats {X : Externals} {req : Request} {shown : Trace StoreSig}
    {response : Response} (h : Steps (hostServer X req) shown (.ret (.ok response)))
    (hmethod : req.method ≠ .options) (hpath : req.uri.path = "/traffic_stats".toList) :
    ∃ v v' : Counter → UInt64, shown = loads v shownCounters ++ loads v' formattedCounters ∧
      response = wrapResponse (.ok (trafficReport X v v')) := by
  rw [hostServer, if_neg hmethod, if_neg (by rw [hpath]; decide), if_neg (by rw [hpath]; decide),
    if_neg (by rw [hpath]; decide), if_pos hpath] at h
  obtain ⟨bytesIn, _, rfl, h₁⟩ := h.act_ret_inv
  obtain ⟨bytesOut, _, rfl, h₂⟩ := h₁.act_ret_inv
  obtain ⟨totalRequests, _, rfl, h₃⟩ := h₂.act_ret_inv
  obtain ⟨currentRequests, _, rfl, h₄⟩ := h₃.act_ret_inv
  obtain ⟨qps, _, rfl, h₅⟩ := h₄.act_ret_inv
  obtain ⟨speedIn, _, rfl, h₆⟩ := h₅.act_ret_inv
  obtain ⟨speedOut, _, rfl, h₇⟩ := h₆.act_ret_inv
  obtain ⟨maxSpeedIn, _, rfl, h₈⟩ := h₇.act_ret_inv
  obtain ⟨maxSpeedOut, _, rfl, h₉⟩ := h₈.act_ret_inv
  obtain ⟨maxQps, _, rfl, h₁₀⟩ := h₉.act_ret_inv
  obtain ⟨bytesIn', _, rfl, h₁₁⟩ := h₁₀.act_ret_inv
  obtain ⟨bytesOut', _, rfl, h₁₂⟩ := h₁₁.act_ret_inv
  obtain ⟨speedIn', _, rfl, h₁₃⟩ := h₁₂.act_ret_inv
  obtain ⟨speedOut', _, rfl, h₁₄⟩ := h₁₃.act_ret_inv
  obtain ⟨maxSpeedIn', _, rfl, h₁₅⟩ := h₁₄.act_ret_inv
  obtain ⟨maxSpeedOut', _, rfl, h₁₆⟩ := h₁₅.act_ret_inv
  obtain ⟨rfl, hret⟩ := h₁₆.ret_inv
  cases hret
  exact ⟨valueAt shownCounters [bytesIn, bytesOut, totalRequests, currentRequests, qps, speedIn,
      speedOut, maxSpeedIn, maxSpeedOut, maxQps],
    valueAt formattedCounters [bytesIn', bytesOut', speedIn', speedOut', maxSpeedIn', maxSpeedOut'],
    rfl, rfl⟩

end BifrostServerPlugin

/-- The counters of which a later report shows no less. -/
def risingCounters : List Counter := totals ++ gauges.map Prod.snd

/-- The task has answered a request for `/traffic_stats`. -/
structure Reported (X : Externals) (config : Config) (t : ProxyTask) (response : Response) :
    Prop where
  /-- The built-in server keeps its request. -/
  kept : ∃ req newReq, t.tag.request = some req ∧ Websocket.isWebsocketUpgrade req = false ∧
    KeptAs X req newReq config.port ∧ newReq.method ≠ .options ∧
      newReq.uri.path = "/traffic_stats".toList
  /-- Its name was resolved. -/
  resolved : lookupFailed t.trace = false
  /-- It has returned. -/
  returned : t.prog = .ret (some response)

open BifrostServerPlugin in
/-- A report is made of what its task has loaded. -/
theorem Reported.loaded {X : Externals} {config : Config} {now : UInt64}
    {moves : List (Move Job Oracle)} {i : ℕ} {t : ProxyTask} {response : Response}
    (ht : (runProxy X config now moves).threads[i]? = some t) (h : Reported X config t response) :
    ∃ v v' : Counter → UInt64, response = wrapResponse (.ok (trafficReport X v v')) ∧
      (∀ c ∈ shownCounters, (i, ⟨.callback .handleRequest (.load c), v c⟩) ∈
        (runProxy X config now moves).log) ∧
      ∀ c ∈ formattedCounters, (i, ⟨.callback .handleRequest (.load c), v' c⟩) ∈
        (runProxy X config now moves).log := by
  obtain ⟨req, newReq, hreq, hupgrade, hkept, hmethod, hpath⟩ := h.kept
  obtain ⟨shown, hreads, hsteps⟩ := builtin_of_kept (List.mem_of_getElem? ht) hreq hkept
    h.returned hupgrade h.resolved
  obtain ⟨v, v', rfl, hresponse⟩ := steps_trafficStats hsteps hmethod hpath
  have hlog : ∀ d ∈ loads v shownCounters ++ loads v' formattedCounters,
      (i, ⟨.callback .handleRequest d.op, d.res⟩) ∈ (runProxy X config now moves).log := by
    intro d hd
    have hmem : d ∈ readBy t.trace := hreads ▸ List.mem_cons_of_mem _ hd
    obtain ⟨e, he, hread⟩ := List.mem_filterMap.mp hmem
    rw [← eq_of_readOf hread]
    exact (System.mem_log_iff _ moves i e).mpr ⟨t, ht, he⟩
  refine ⟨v, v', hresponse, fun c hc => ?_, fun c hc => ?_⟩
  · exact hlog ⟨.load c, v c⟩ (List.mem_append_left _ (List.mem_map_of_mem hc))
  · exact hlog ⟨.load c, v' c⟩ (List.mem_append_right _ (List.mem_map_of_mem hc))

/-- Of two loads of a rising counter the later one reads no less. -/
theorem Rising.le {c : Counter} {g : Globals} {before after : RunLog}
    (h : Rising c g (before ++ after)) {i j : ℕ} {v w : UInt64}
    (hv : (i, ⟨.callback .handleRequest (.load c), v⟩) ∈ before)
    (hw : (j, ⟨.callback .handleRequest (.load c), w⟩) ∈ after) : v ≤ w := by
  have hsorted := h.sorted
  rw [readings, List.filterMap_append] at hsorted
  have hfirst : v.toNat ∈ readings c before := mem_readings hv (if_pos rfl)
  have hsecond : w.toNat ∈ readings c after := mem_readings hw (if_pos rfl)
  exact UInt64.le_iff_toNat_le.mpr ((List.pairwise_append.mp hsorted).2.2 _ hfirst _ hsecond)

/-- Some counters were loaded by a task in a part of a run, with the values `v`. -/
def LoadedIn (part : RunLog) (i : ℕ) (cs : List Counter) (v : Counter → UInt64) : Prop :=
  ∀ c ∈ cs, (i, ⟨.callback .handleRequest (.load c), v c⟩) ∈ part

/-- A task loads nothing in a part of a run. -/
def LoadsNothingIn (part : RunLog) (i : ℕ) : Prop :=
  ∀ c v, (i, ⟨.callback .handleRequest (.load c), v⟩) ∉ part

/-- What a task has loaded it has loaded in the part of the run in which it loads. -/
theorem LoadedIn.left {i : ℕ} {cs : List Counter} {v : Counter → UInt64} {before after : RunLog}
    (h : LoadedIn (before ++ after) i cs v) (hafter : LoadsNothingIn after i) :
    LoadedIn before i cs v := fun c hc =>
  (List.mem_append.mp (h c hc)).resolve_right (hafter c (v c))

theorem LoadedIn.right {i : ℕ} {cs : List Counter} {v : Counter → UInt64} {before after : RunLog}
    (h : LoadedIn (before ++ after) i cs v) (hbefore : LoadsNothingIn before i) :
    LoadedIn after i cs v := fun c hc =>
  (List.mem_append.mp (h c hc)).resolve_left (hbefore c (v c))

open BifrostServerPlugin in
/-- Of two reports in a run with one sampler, of which the first was loaded before the second, each
shows what its task has loaded, and the second shows no smaller totals, as long as these stay below
`2^64`, and no smaller peaks. The tasks may overlap in everything else they do. -/
theorem traffic_reports_rise (X : Externals) (config : Config) (now : UInt64)
    (moves : List (Move Job Oracle))
    (hone : ((runProxy X config now moves).threads.countP fun t => t.tag.isSampler) ≤ 1)
    (hsums : ∀ c ∈ totals, amountAdded c (runProxy X config now moves).log < 2 ^ 64)
    {i j : ℕ} {t u : ProxyTask} (ht : (runProxy X config now moves).threads[i]? = some t)
    (hu : (runProxy X config now moves).threads[j]? = some u) {response response' : Response}
    (hreport : Reported X config t response) (hreport' : Reported X config u response')
    {before after : RunLog} (hlog : (runProxy X config now moves).log = before ++ after)
    (hfirst : LoadsNothingIn after i) (hsecond : LoadsNothingIn before j) :
    ∃ v v' w w' : Counter → UInt64, response = wrapResponse (.ok (trafficReport X v v')) ∧
      LoadedIn before i shownCounters v ∧ LoadedIn before i formattedCounters v' ∧
      response' = wrapResponse (.ok (trafficReport X w w')) ∧
      LoadedIn after j shownCounters w ∧ LoadedIn after j formattedCounters w' ∧
      ∀ c ∈ risingCounters, v c ≤ w c ∧ (c ∈ formattedCounters → v' c ≤ w' c) := by
  obtain ⟨v, v', hresponse, hv, hv'⟩ := hreport.loaded ht
  obtain ⟨w, w', hresponse', hw, hw'⟩ := hreport'.loaded hu
  have hrising : ∀ c ∈ risingCounters,
      Rising c (runProxy X config now moves).state (before ++ after) := by
    intro c hc
    rw [← hlog]
    rcases List.mem_append.mp hc with hc | hc
    · exact total_rises X config now moves hc (hsums c hc)
    · obtain ⟨x, hx, rfl⟩ := List.mem_map.mp hc
      exact (peak_rises X config now moves hone hx).1
  rw [hlog] at hv hv' hw hw'
  replace hv := LoadedIn.left hv hfirst
  replace hv' := LoadedIn.left hv' hfirst
  replace hw := LoadedIn.right hw hsecond
  replace hw' := LoadedIn.right hw' hsecond
  refine ⟨v, v', w, w', hresponse, hv, hv', hresponse', hw, hw', fun c hc => ?_⟩
  have hshown : c ∈ shownCounters := (by decide : ∀ c ∈ risingCounters, c ∈ shownCounters) c hc
  exact ⟨(hrising c hc).le (hv c hshown) (hw c hshown),
    fun hf => (hrising c hc).le (hv' c hf) (hw' c hf)⟩

namespace Concrete

/-- `GET http://127.0.0.1:8080/traffic_stats`. -/
def statsRequest : Request :=
  { request with uri := { ownRequest.uri with
      rawPath := "/traffic_stats"
      path_shape := fun _ => .inr rfl } }

/-- Two reports, the second of which is asked for before the first is read, and a request that goes
upstream and an iteration of the sampler between them. -/
def statsRun : ProxyPool :=
  runProxy externals config 0
    ([.spawn (.intercepted statsRequest), .spawn (.intercepted request), .spawn (.sampler 1),
        .spawn (.intercepted statsRequest)] ++ .replicate 5 (.step 3 (oracle .timeout)) ++
      .replicate 20 (.step 0 (oracle .timeout)) ++ .replicate 13 (.step 1 (oracle .timeout)) ++
      .replicate 11 (.step 2 (oracle .timeout)) ++ .replicate 17 (.step 3 (oracle .timeout)))

theorem kept_statsRequest : ∃ req newReq,
    (Job.intercepted statsRequest).request = some req ∧
      Websocket.isWebsocketUpgrade req = false ∧ KeptAs externals req newReq config.port ∧
        newReq.method ≠ .options ∧ newReq.uri.path = "/traffic_stats".toList :=
  ⟨statsRequest, HttpInterceptor.newRequest statsRequest statsRequest.uri, rfl, by decide,
    ⟨⟨_, rfl, rfl⟩, by decide⟩, by decide, rfl⟩

end Concrete

/-- The sampler has done its iteration: what was loaded rises, and no speed that was loaded is above
the greatest one that was kept. -/
theorem readings_rise_one :
    (readings .totalRequests Concrete.statsRun.log).Pairwise (· ≤ ·) ∧
      (readings .maxSpeedIn Concrete.statsRun.log).Pairwise (· ≤ ·) ∧
      ∀ v ∈ readings .currentSpeedIn Concrete.statsRun.log,
        v ≤ (Concrete.statsRun.state.value .maxSpeedIn).toNat := by
  obtain ⟨htotals, hgauges⟩ := readings_rise Concrete.externals Concrete.config 0 _
    (show (Concrete.statsRun.threads.countP fun t => t.tag.isSampler) ≤ 1 by decide +kernel)
  obtain ⟨hpeak, hcovered⟩ := hgauges (.currentSpeedIn, .maxSpeedIn) (by simp [gauges])
  refine ⟨htotals .totalRequests (by simp [totals]) ?_, hpeak, hcovered ?_⟩
  · show amountAdded .totalRequests Concrete.statsRun.log < 2 ^ 64
    decide +kernel
  · show ∀ t ∈ Concrete.statsRun.threads, t.tag.isSampler = true → ProxyTask.midway t = false
    decide +kernel

set_option maxRecDepth 4096 in
/-- The second report shows the request that went upstream after the first. -/
theorem traffic_reports_rise_one :
    ∃ v v' w w' : Counter → UInt64,
      (∃ t, Concrete.statsRun.threads[0]? = some t ∧ t.prog = .ret (some
        (BifrostServerPlugin.wrapResponse
          (.ok (BifrostServerPlugin.trafficReport Concrete.externals v v'))))) ∧
      (∃ u, Concrete.statsRun.threads[3]? = some u ∧ u.prog = .ret (some
        (BifrostServerPlugin.wrapResponse
          (.ok (BifrostServerPlugin.trafficReport Concrete.externals w w'))))) ∧
      ∀ c ∈ risingCounters, v c ≤ w c ∧
        (c ∈ BifrostServerPlugin.formattedCounters → v' c ≤ w' c) := by
  obtain ⟨t, response, ht, hreport⟩ : ∃ t response, Concrete.statsRun.threads[0]? = some t ∧
      Reported Concrete.externals Concrete.config t response :=
    ⟨_, _, rfl, Concrete.kept_statsRequest, rfl, rfl⟩
  obtain ⟨u, response', hu, hreport'⟩ : ∃ u response, Concrete.statsRun.threads[3]? = some u ∧
      Reported Concrete.externals Concrete.config u response :=
    ⟨_, _, rfl, Concrete.kept_statsRequest, rfl, rfl⟩
  -- What the second task does before the first one is done reads no counter.
  have hapart : (∀ x ∈ Concrete.statsRun.log.drop 25, x.1 = 0 → x.2.op.storeOp.isNone) ∧
      ∀ x ∈ Concrete.statsRun.log.take 25, x.1 = 3 → x.2.op.storeOp.isNone := by decide +kernel
  obtain ⟨v, v', w, w', rfl, -, -, rfl, -, -, hle⟩ := traffic_reports_rise Concrete.externals
    Concrete.config 0 _
    (show (Concrete.statsRun.threads.countP fun t => t.tag.isSampler) ≤ 1 by decide +kernel)
    (show ∀ c ∈ totals, amountAdded c Concrete.statsRun.log < 2 ^ 64 by decide +kernel) ht hu
    hreport hreport' (List.take_append_drop 25 Concrete.statsRun.log).symm
    (fun c v h => Bool.false_ne_true (hapart.1 _ h rfl))
    (fun c v h => Bool.false_ne_true (hapart.2 _ h rfl))
  exact ⟨v, v', w, w', ⟨t, ht, hreport.returned⟩, ⟨u, hu, hreport'.returned⟩, hle⟩

end Bifrost
