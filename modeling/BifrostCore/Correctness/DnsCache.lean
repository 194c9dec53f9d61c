import BifrostCore.Concurrency.SharedMap
import BifrostCore.Proxy

/-!
# The DNS cache

Any number of calls of `dns_lookup`, interleaved in any order, with a clock that may step back. A
call reads the clock once, looks into the cache, and resolves the host itself if the entry is
missing or too old; what it resolves it inserts under the time it read at its start, however long
ago that was.

* `lookupProtocol` — the course of a call, of which its trace is a function (`Lookup.trace_eq`).
* `dnsCache` — the cache as a map that the calls share.
* `dns_cache_coherent` — every answer is a resolution of the same host, not older than the cache
  duration.
-/

namespace Bifrost

open Concurrency Prog

/-! ## The calls -/

/-- The calls of `dns_lookup` as a system of interleaved tasks; a call is started for a host. -/
def dnsLookups (X : Externals) :
    System (TaskSig StoreSig) Globals Str (Result (List SocketAddr)) Oracle where
  program := HttpInterceptor.dnsLookup X
  perform := perform

/-- The calls of a run, with the state they share. -/
abbrev DnsPool := Pool (TaskSig StoreSig) Globals Str (Result (List SocketAddr))

/-- A call in a run. -/
abbrev DnsTask := Thread (TaskSig StoreSig) Str (Result (List SocketAddr))

/-- The calls after a run, from the state in which the proxy starts. -/
def runLookups (X : Externals) (store : Store) (moves : List (Move Str Oracle)) : DnsPool :=
  (dnsLookups X).run (.init store) moves

/-- The clock as the tasks of a run have read it, in the order of the run. -/
def clockReadings (log : List (ℕ × Event (TaskSig StoreSig))) : List SystemTime :=
  log.filterMap fun entry => clockReading entry.2.op entry.2.res

theorem mem_clockReadings {log : List (ℕ × Event (TaskSig StoreSig))} {i : ℕ} {time : SystemTime}
    (h : (i, ⟨.now, time⟩) ∈ log) : time ∈ clockReadings log :=
  List.mem_filterMap.mpr ⟨_, h, rfl⟩

/-- The name and the port `dns_lookup` resolves for a host. -/
def lookupTarget (host : Str) : Option (Str × UInt16) := do
  return (← (Text.split ':' host).head?, ← HttpInterceptor.lookupPort host)

/-! ## The course of a call -/

/-- Where a call stands. -/
inductive Lookup where
  | start
  /-- The clock is read. -/
  | timed (time : SystemTime)
  /-- The cache is read. -/
  | asked (time : SystemTime) (entry : Option (List SocketAddr × UInt64))
  /-- The resolver has answered. -/
  | answered (time : SystemTime) (entry : Option (List SocketAddr × UInt64))
      (target : Str × UInt16) (result : Result (List SocketAddr))
  /-- The answer is inserted. -/
  | stored (time : SystemTime) (entry : Option (List SocketAddr × UInt64))
      (target : Str × UInt16) (addrs : List SocketAddr) (timestamp : UInt64)

namespace Lookup

variable (host : Str)

/-- The operations of a call for `host`. -/
inductive Allows : Lookup → TaskOp StoreSig → Prop
  | clock : Allows .start .now
  | ask {time : SystemTime} : Allows (.timed time) (.dnsCacheGet host)
  | resolve {time : SystemTime} {entry : Option (List SocketAddr × UInt64)} {name : Str}
      {port : UInt16} : lookupTarget host = some (name, port) →
        Allows (.asked time entry) (.lookupHost name port)
  | store {time : SystemTime} {entry : Option (List SocketAddr × UInt64)} {target : Str × UInt16}
      {addrs : List SocketAddr} {timestamp : UInt64} :
        SystemTime.unixSeconds time = some timestamp →
          Allows (.answered time entry target (.ok addrs)) (.dnsCacheInsert host addrs timestamp)
  | panic {q : Lookup} : Allows q .panic

/-- The state after an operation. -/
def next : Lookup → (o : TaskOp StoreSig) → o.Res → Lookup
  | .start, .now, time => .timed time
  | .timed time, .dnsCacheGet _, entry => .asked time entry
  | .asked time entry, .lookupHost name port, result => .answered time entry (name, port) result
  | .answered time entry target (.ok addrs), .dnsCacheInsert _ _ timestamp, _ =>
    .stored time entry target addrs timestamp
  | q, _, _ => q

/-- What a call that stands there has done. -/
def trace : Lookup → Trace (TaskSig StoreSig)
  | .start => []
  | .timed time => [⟨.now, time⟩]
  | .asked time entry => [⟨.now, time⟩, ⟨.dnsCacheGet host, entry⟩]
  | .answered time entry target result =>
    [⟨.now, time⟩, ⟨.dnsCacheGet host, entry⟩, ⟨.lookupHost target.1 target.2, result⟩]
  | .stored time entry target addrs timestamp =>
    [⟨.now, time⟩, ⟨.dnsCacheGet host, entry⟩, ⟨.lookupHost target.1 target.2, .ok addrs⟩,
      ⟨.dnsCacheInsert host addrs timestamp, ()⟩]

/-- A call resolves the target of its host, and stores the time it has read. -/
def Proper : Lookup → Prop
  | .answered _ _ target _ => lookupTarget host = some target
  | .stored time _ target _ timestamp =>
    lookupTarget host = some target ∧ SystemTime.unixSeconds time = some timestamp
  | _ => True

/-- The entry a call has found is young enough for the time it has read. -/
def Hit (X : Externals) (time : SystemTime) (addrs : List SocketAddr)
    (entry : Option (List SocketAddr × UInt64)) : Prop :=
  ∃ now timestamp age, entry = some (addrs, timestamp) ∧
    SystemTime.unixSeconds time = some now ∧ X.subU64 now timestamp = some age ∧
      age < HttpInterceptor.cacheDuration

/-- Where a call stands when it has returned `r`. -/
def Returned (X : Externals) : Lookup → Result (List SocketAddr) → Prop
  | .asked time entry, .ok addrs => Hit X time addrs entry
  | .stored _ _ _ addrs _, .ok addrs' => addrs = addrs'
  | .answered _ _ _ (.error _), .error _ => True
  | _, _ => False

end Lookup

/-- The course of a call for `host`. -/
def lookupProtocol (host : Str) : Protocol (TaskSig StoreSig) :=
  ⟨Lookup, Lookup.Allows host, Lookup.next⟩

namespace Lookup

theorem resolveHost_follows (X : Externals) (host : Str) {time : SystemTime} {now : UInt64}
    {entry : Option (List SocketAddr × UInt64)}
    (hnow : SystemTime.unixSeconds time = some now) :
    (HttpInterceptor.resolveHost (π := StoreSig) host now).Follows (lookupProtocol host)
      (Lookup.asked time entry) (Returned X) := by
  unfold HttpInterceptor.resolveHost
  -- A host without a port that can be read ends in a panic.
  cases hname : (Text.split ':' host).head? with
  | none => exact ⟨.panic, fun r => nomatch r⟩
  | some name =>
    cases hport : HttpInterceptor.lookupPort host with
    | none => exact ⟨.panic, fun r => nomatch r⟩
    | some port =>
      have htarget : lookupTarget host = some (name, port) := by simp [lookupTarget, hname, hport]
      refine ⟨.resolve htarget, fun result => ?_⟩
      cases result with
      | error e => trivial
      | ok addrs => exact ⟨.store hnow, fun _ => rfl⟩

theorem dnsLookup_follows (X : Externals) (host : Str) :
    (HttpInterceptor.dnsLookup (π := StoreSig) X host).Follows (lookupProtocol host) Lookup.start
      (Returned X) := by
  refine ⟨.clock, fun time => ?_⟩
  show Follows _ _ (Prog.bind (Task.unwrap (SystemTime.unixSeconds time)) _) _
  -- A clock before 1970 ends in a panic, and so does an age below zero if overflows are checked.
  cases hnow : SystemTime.unixSeconds time with
  | none => exact ⟨.panic, fun r => nomatch r⟩
  | some now =>
    refine ⟨.ask, fun entry => ?_⟩
    cases entry with
    | none => exact resolveHost_follows X host hnow
    | some entry =>
      obtain ⟨addrs, timestamp⟩ := entry
      show Follows _ _ (Prog.bind (Task.unwrap (X.subU64 now timestamp)) _) _
      cases hage : X.subU64 now timestamp with
      | none => exact ⟨.panic, fun r => nomatch r⟩
      | some age =>
        show Follows _ _ (if _ then _ else _) _
        split
        · next hlt => exact ⟨now, timestamp, age, rfl, hnow, hage, hlt⟩
        · exact resolveHost_follows X host hnow

/-- The trace of a call is what a call that stands there has done. -/
theorem trace_eq {host : Str} {tr : Trace (TaskSig StoreSig)}
    (h : (lookupProtocol host).Permits Lookup.start tr) :
    tr = Lookup.trace host ((lookupProtocol host).after Lookup.start tr) ∧
      Lookup.Proper host ((lookupProtocol host).after Lookup.start tr) := by
  refine h.induction (R := fun q tr => tr = Lookup.trace host q ∧ Lookup.Proper host q) ?_ ?_
  · exact ⟨rfl, trivial⟩
  · rintro q tr o r hallows ⟨rfl, hproper⟩
    cases hallows with
    | clock => exact ⟨rfl, trivial⟩
    | ask => exact ⟨rfl, trivial⟩
    | resolve htarget => exact ⟨rfl, htarget⟩
    | store htime => exact ⟨rfl, hproper, htime⟩
    | panic => exact nomatch r

end Lookup

/-! ## The cache -/

/-- The entry an operation inserts into the DNS cache. -/
def TaskOp.dnsEntry : TaskOp StoreSig → Option (Str × (List SocketAddr × UInt64))
  | .dnsCacheInsert host addrs timestamp => some (host, (addrs, timestamp))
  | _ => none

/-- The DNS cache, shared by the calls. -/
def dnsCache (X : Externals) : SharedMap (dnsLookups X) Str (List SocketAddr × UInt64) where
  read g := g.dnsCache
  write := TaskOp.dnsEntry
  read_perform w o g a g' hp := by cases o <;> cases hp <;> rfl

/-- The only operation of a call that inserts anything is its last one. -/
theorem Lookup.stored_of_mem {key : Str} {q : Lookup} {e : Event (TaskSig StoreSig)}
    (he : e ∈ q.trace key) {host : Str} {addrs : List SocketAddr} {timestamp : UInt64}
    (hentry : e.op.dnsEntry = some (host, (addrs, timestamp))) :
    ∃ time entry target, q = .stored time entry target addrs timestamp ∧ host = key := by
  -- Wherever the call stands, its trace is known event by event.
  cases q with
  | start => cases he
  | timed time =>
    obtain rfl : e = ⟨.now, time⟩ := by simpa [trace] using he
    cases hentry
  | asked time entry =>
    obtain rfl | rfl : e = ⟨.now, time⟩ ∨ e = ⟨.dnsCacheGet key, entry⟩ := by
      simpa [trace] using he
    all_goals cases hentry
  | answered time entry target result =>
    obtain rfl | rfl | rfl : e = ⟨.now, time⟩ ∨ e = ⟨.dnsCacheGet key, entry⟩ ∨
        e = ⟨.lookupHost target.1 target.2, result⟩ := by
      simpa [trace] using he
    all_goals cases hentry
  | stored time entry target addrs' timestamp' =>
    obtain rfl | rfl | rfl | rfl : e = ⟨.now, time⟩ ∨ e = ⟨.dnsCacheGet key, entry⟩ ∨
        e = ⟨.lookupHost target.1 target.2, .ok addrs'⟩ ∨
          e = ⟨.dnsCacheInsert key addrs' timestamp', ()⟩ := by
      simpa [trace] using he
    all_goals cases hentry
    exact ⟨time, entry, target, rfl, rfl⟩

/-- A call that failed to resolve its host stands where it got the answer. -/
theorem Lookup.answered_of_mem {key : Str} {q : Lookup} {name : Str} {port : UInt16} {err : Str}
    (he : ⟨.lookupHost name port, .error err⟩ ∈ q.trace key) :
    ∃ time entry target, q = .answered time entry target (.error err) := by
  cases q with
  | answered time entry target result =>
    obtain ⟨name', port'⟩ := target
    simp only [trace, List.mem_cons, List.not_mem_nil, or_false] at he
    obtain h | h | h := he
    · cases h
    · cases h
    · cases h
      exact ⟨time, entry, _, rfl⟩
  | stored time entry target addrs timestamp =>
    obtain ⟨name', port'⟩ := target
    simp only [trace, List.mem_cons, List.not_mem_nil, or_false] at he
    obtain h | h | h | h := he <;> cases h
  | start => cases he
  | timed time =>
    simp only [trace, List.mem_cons, List.not_mem_nil, or_false] at he
    cases he
  | asked time entry =>
    simp only [trace, List.mem_cons, List.not_mem_nil, or_false] at he
    obtain h | h := he <;> cases h

section Coherence

variable {X : Externals} {store : Store} {moves : List (Move Str Oracle)}

/-- Where a call of a run stands. -/
def DnsTask.at (t : DnsTask) : Lookup := (lookupProtocol t.tag).after Lookup.start t.trace

/-- What is known of a call from where it stands. -/
theorem DnsTask.known {t : DnsTask} (ht : t ∈ (runLookups X store moves).threads) :
    t.trace = t.at.trace t.tag ∧ t.at.Proper t.tag ∧
      ∀ r, t.prog = .ret r → t.at.Returned X r := by
  have hsteps : (HttpInterceptor.dnsLookup X t.tag).Steps t.trace t.prog :=
    System.steps_of_run _ moves t ht
  have hfollows := Lookup.dnsLookup_follows X t.tag
  obtain ⟨htrace, hproper⟩ := Lookup.trace_eq (hfollows.permits hsteps)
  refine ⟨htrace, hproper, fun r hr => ?_⟩
  have hreturned := hfollows.steps hsteps
  rwa [hr] at hreturned

/-- A call that has inserted an entry has inserted it for its own host, and has resolved it under
the time it has read. -/
theorem DnsTask.inserted {t : DnsTask} (ht : t ∈ (runLookups X store moves).threads)
    {e : Event (TaskSig StoreSig)} (he : e ∈ t.trace) {host : Str} {addrs : List SocketAddr}
    {timestamp : UInt64} (hentry : e.op.dnsEntry = some (host, (addrs, timestamp))) :
    host = t.tag ∧ ∃ time name port, SystemTime.unixSeconds time = some timestamp ∧
      ⟨.now, time⟩ ∈ t.trace ∧ lookupTarget host = some (name, port) ∧
        ⟨.lookupHost name port, .ok addrs⟩ ∈ t.trace := by
  obtain ⟨htrace, hproper, -⟩ := DnsTask.known ht
  rw [htrace] at he ⊢
  obtain ⟨time, entry, target, hat, rfl⟩ := Lookup.stored_of_mem he hentry
  rw [hat] at hproper ⊢
  exact ⟨rfl, time, target.1, target.2, hproper.2, by simp [Lookup.trace], hproper.1,
    by simp [Lookup.trace]⟩

/-- The whole seconds of a clock reading below `2^63` seconds are below `2^63`. -/
theorem toNat_unixSeconds_lt {time : SystemTime} {seconds : UInt64}
    (h : SystemTime.unixSeconds time = some seconds) (hlt : time < 2 ^ 63 * 1000000000) :
    seconds.toNat < 2 ^ 63 := by
  simp only [SystemTime.unixSeconds, SystemTime.durationSince] at h
  split at h
  · obtain rfl := Option.some.inj h
    rw [UInt64.toNat_ofNat']
    refine lt_of_le_of_lt (Nat.mod_le _ _) ?_
    have hbound : ∀ n : ℤ, n < 2 ^ 63 * 1000000000 → (n - 0).toNat / 1000000000 < 2 ^ 63 := by
      omega
    exact hbound time hlt
  · cases h

/-- Where both times are below `2^63`, an age below the cache duration is a true age: the
subtraction has not wrapped around. -/
theorem age_of_subU64 {now timestamp age : UInt64} (h : X.subU64 now timestamp = some age)
    (hage : age < HttpInterceptor.cacheDuration) (hnow : now.toNat < 2 ^ 63)
    (htimestamp : timestamp.toNat < 2 ^ 63) :
    timestamp ≤ now ∧ now.toNat - timestamp.toNat < 300 := by
  have hsub : now - timestamp = age := by
    unfold Externals.subU64 at h
    split at h
    · cases h
    · exact Option.some.inj h
  have hlt : (now - timestamp).toNat < 300 := by
    rw [hsub]
    exact UInt64.lt_iff_toNat_lt.mp hage
  rw [UInt64.toNat_sub] at hlt
  rw [UInt64.le_iff_toNat_le]
  omega

/-- Before a point of a run, a call for `host` had read a time with the seconds `timestamp`, and had
got `addrs` for the name and the port of `host`. -/
def ResolvedBefore (p : DnsPool) (before : List (ℕ × Event (TaskSig StoreSig))) (host : Str)
    (addrs : List SocketAddr) (timestamp : UInt64) : Prop :=
  ∃ j t time name port, p.threads[j]? = some t ∧ t.tag = host ∧
    SystemTime.unixSeconds time = some timestamp ∧ (j, ⟨.now, time⟩) ∈ before ∧
      lookupTarget host = some (name, port) ∧ (j, ⟨.lookupHost name port, .ok addrs⟩) ∈ before

/-- What a call finds in the cache was resolved for its host before. -/
theorem resolvedBefore_of_get {before after : List (ℕ × Event (TaskSig StoreSig))} {i : ℕ}
    {host : Str} {addrs : List SocketAddr} {timestamp : UInt64}
    (hlog : (runLookups X store moves).log =
      before ++ (i, ⟨.dnsCacheGet host, some (addrs, timestamp)⟩) :: after) :
    ResolvedBefore (runLookups X store moves) before host addrs timestamp := by
  obtain ⟨moves', w, t, k, g', hpre, rfl, -, -, hp⟩ := System.log_origin _ _ hlog
  -- The entry was in the cache then, so a call had written it before.
  have hread : (dnsCache X).read (runLookups X store moves').state host =
      some (addrs, timestamp) := (Prod.mk.inj (Option.some.inj hp)).1
  obtain ⟨j, e, hmem, hentry⟩ := (dnsCache X).exists_write rfl moves' hread
  obtain ⟨u, hu, he⟩ := (System.mem_log_iff _ _ j e).mp hmem
  obtain ⟨rfl, time, name, port, htime, hnow, htarget, hlookup⟩ :=
    DnsTask.inserted (List.mem_of_getElem? hu) he hentry
  obtain ⟨u', hu', htag, -⟩ := System.thread_mono _ hpre hu
  exact ⟨j, u', time, name, port, hu', htag, htime,
    (System.mem_log_iff _ _ j _).mpr ⟨u, hu, hnow⟩, htarget,
    (System.mem_log_iff _ _ j _).mpr ⟨u, hu, hlookup⟩⟩

/-- An answer of a call is its own resolution, or that of a call for the same host, made before this
one looked into the cache, under a time that is not later than this call's and less than 300
seconds earlier. -/
def CoherentAnswer (p : DnsPool) (i : ℕ) (t : DnsTask) (addrs : List SocketAddr) : Prop :=
  (∃ name port, lookupTarget t.tag = some (name, port) ∧
    ⟨.lookupHost name port, .ok addrs⟩ ∈ t.trace) ∨
  ∃ before after time now timestamp,
    p.log = before ++ (i, ⟨.dnsCacheGet t.tag, some (addrs, timestamp)⟩) :: after ∧
      ResolvedBefore p before t.tag addrs timestamp ∧ ⟨.now, time⟩ ∈ t.trace ∧
        SystemTime.unixSeconds time = some now ∧ timestamp ≤ now ∧
          now.toNat - timestamp.toNat < 300

/-- A call that answers from the cache. -/
theorem coherentAnswer_of_hit
    (hclock : ∀ time ∈ clockReadings (runLookups X store moves).log, time < 2 ^ 63 * 1000000000)
    {i : ℕ} {t : DnsTask} (ht : (runLookups X store moves).threads[i]? = some t)
    {time : SystemTime} {entry : Option (List SocketAddr × UInt64)} {addrs : List SocketAddr}
    (htrace : t.trace = (Lookup.asked time entry).trace t.tag)
    (hhit : Lookup.Hit X time addrs entry) :
    CoherentAnswer (runLookups X store moves) i t addrs := by
  obtain ⟨now, timestamp, age, rfl, hnow, hage, hlt⟩ := hhit
  -- The call has found the entry, so another one had made it before.
  have hget : (i, ⟨.dnsCacheGet t.tag, some (addrs, timestamp)⟩) ∈
      (runLookups X store moves).log :=
    (System.mem_log_iff _ _ i _).mpr ⟨t, ht, by simp [htrace, Lookup.trace]⟩
  have htime : (i, ⟨.now, time⟩) ∈ (runLookups X store moves).log :=
    (System.mem_log_iff _ _ i _).mpr ⟨t, ht, by simp [htrace, Lookup.trace]⟩
  obtain ⟨before, after, hlog⟩ := List.append_of_mem hget
  have hresolved := resolvedBefore_of_get hlog
  have ⟨j, u, time', name, port, _, _, htime', hnow', _⟩ := hresolved
  have hbefore : before <+: (runLookups X store moves).log := hlog ▸ List.prefix_append _ _
  -- Both clock readings are small, so the age has not wrapped around.
  obtain ⟨hle, hlt⟩ := age_of_subU64 hage hlt
    (toNat_unixSeconds_lt hnow (hclock _ (mem_clockReadings htime)))
    (toNat_unixSeconds_lt htime' (hclock _ (mem_clockReadings (hbefore.subset hnow'))))
  exact .inr ⟨before, after, time, now, timestamp, hlog, hresolved,
    by simp [htrace, Lookup.trace], hnow, hle, hlt⟩

/-- A call that has failed to resolve its host has inserted nothing. -/
theorem DnsTask.not_inserted {t : DnsTask} (ht : t ∈ (runLookups X store moves).threads)
    {name : Str} {port : UInt16} {err : Str} (herr : ⟨.lookupHost name port, .error err⟩ ∈ t.trace)
    {e : Event (TaskSig StoreSig)} (he : e ∈ t.trace) {host : Str}
    {entry : List SocketAddr × UInt64} : e.op.dnsEntry ≠ some (host, entry) := by
  intro hentry
  rw [(DnsTask.known ht).1] at he herr
  obtain ⟨_, _, _, hanswered⟩ := Lookup.answered_of_mem herr
  obtain ⟨_, _, _, hstored, -⟩ := Lookup.stored_of_mem he hentry
  rw [hanswered] at hstored
  cases hstored

/-- In every run of `dns_lookup` calls whose clock stays below `2^63` seconds, all answers are
coherent; no step of a call changes the entry of another host, and no step of a call whose
resolution fails changes the cache at all. -/
theorem dns_cache_coherent (X : Externals) (store : Store) (moves : List (Move Str Oracle))
    (hclock : ∀ time ∈ clockReadings (runLookups X store moves).log, time < 2 ^ 63 * 1000000000)
    (i : ℕ) (t : DnsTask) (ht : (runLookups X store moves).threads[i]? = some t) :
    (∀ addrs, t.prog = .ret (.ok addrs) → CoherentAnswer (runLookups X store moves) i t addrs) ∧
    ∀ moves' w, moves' ++ [.step i w] <+: moves →
      (∀ host, host ≠ t.tag → (runLookups X store (moves' ++ [.step i w])).state.dnsCache host =
        (runLookups X store moves').state.dnsCache host) ∧
      ((∃ name port err, ⟨.lookupHost name port, .error err⟩ ∈ t.trace) →
        (runLookups X store (moves' ++ [.step i w])).state.dnsCache =
          (runLookups X store moves').state.dnsCache) := by
  have hmem := List.mem_of_getElem? ht
  obtain ⟨htrace, hproper, hreturned⟩ := DnsTask.known hmem
  refine ⟨fun addrs hret => ?_, fun moves' w hpre => ⟨fun host hne => ?_, ?_⟩⟩
  · have hans := hreturned _ hret
    -- It has answered from the cache, or with what it has stored.
    cases hat : t.at with
    | stored time entry target addrs' timestamp =>
      rw [hat] at hans hproper htrace
      obtain rfl : addrs' = addrs := hans
      exact .inl ⟨target.1, target.2, hproper.1, by simp [htrace, Lookup.trace]⟩
    | asked time entry =>
      rw [hat] at hans htrace
      exact coherentAnswer_of_hit hclock ht htrace hans
    | start => rw [hat] at hans; exact hans.elim
    | timed time => rw [hat] at hans; exact hans.elim
    | answered time entry target result =>
      rw [hat] at hans
      cases result <;> exact hans.elim
  · by_contra hchange
    obtain ⟨e, he, v, hentry⟩ := (dnsCache X).write_of_ne hpre ht hchange
    exact hne (DnsTask.inserted hmem he hentry).1
  · rintro ⟨name, port, err, herr⟩
    funext host
    by_contra hchange
    obtain ⟨e, he, v, hentry⟩ := (dnsCache X).write_of_ne hpre ht hchange
    exact DnsTask.not_inserted hmem herr he hentry

end Coherence

namespace Concrete

/-- A resolver that knows one address. -/
def resolver (now : SystemTime) : Oracle :=
  { oracle .timeout with now, lookupHost := .ok [⟨"93.184.216.34", 80⟩] }

/-- A call resolves a host, and a second one asks for the host ten seconds later. -/
def lookupRun : DnsPool :=
  runLookups externals (.fresh config 0)
    ([.spawn "example.com:80", .spawn "example.com:80"] ++ .replicate 4 (.step 0 (resolver 0)) ++
      .replicate 2 (.step 1 (resolver 10000000000)))

theorem length_lookupRun : 1 < lookupRun.threads.length := by decide +kernel

/-- The second call. -/
def cachedCall : DnsTask := lookupRun.threads.get ⟨1, length_lookupRun⟩

end Concrete

/-- The second call answers from the cache. -/
theorem dns_cache_coherent_cached :
    CoherentAnswer Concrete.lookupRun 1 Concrete.cachedCall [⟨"93.184.216.34", 80⟩] :=
  (dns_cache_coherent Concrete.externals (.fresh Concrete.config 0) _ (by decide +kernel) 1
    Concrete.cachedCall (List.getElem?_eq_getElem Concrete.length_lookupRun)).1 _ rfl

end Bifrost
