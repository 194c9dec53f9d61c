import BifrostCore.Concurrency.Timeline
import BifrostCore.Correctness.Exchange
import BifrostCore.Correctness.SelfTraffic

/-!
# Where answers come from

What the tasks of a run have said to the outside, read off their traces, and what it has to do with
their answers.

* `answered_of_returned` — in every run, the answer of a request has exactly one source: it is
  answered from its own exchange only, and nothing is sent twice.
* `selfAddressed_stays` — in every run, a request the built-in server keeps does not go around: it
  is neither counted nor recorded, there is no `client.request` for it, and the built-in server
  answers it.
-/

namespace Bifrost

open Concurrency Prog

/-! ## Observations -/

/-- A server a request has spoken to, with the request it was sent and what came of it. -/
inductive Contact where
  | upstream (req : Request) (answer : Except UpstreamError Response)
  | upgrade (req : Request) (answer : Result Response)

/-- The contact an operation makes. -/
def Contact.of : Event (TaskSig StoreSig) → Option Contact
  | ⟨.clientRequest req, answer⟩ => some (.upstream req answer)
  | ⟨.connectAsync req, answer⟩ => some (.upgrade req answer)
  | _ => none

/-- The id an operation draws. -/
def drawOf : Event (TaskSig StoreSig) → Option UInt64
  | ⟨.nextRequestId, id⟩ => some id
  | _ => none

/-- The operation changes the store or is a `client.request`. -/
def TaskOp.Touches (o : TaskOp StoreSig) : Prop :=
  o.isClientRequest = true ∨ ∃ o' ∈ o.storeOp, ¬ o'.ReadOnly

theorem TaskOp.Quiet.not_touches {o : TaskOp StoreSig} (h : o.Quiet) : ¬ o.Touches := by
  rintro (hsent | ⟨o', ho', hwrites⟩)
  · exact absurd (h.not_clientRequest.symm.trans hsent) Bool.false_ne_true
  · exact hwrites (h.readOnly o' ho')

/-- What an operation inside `handle_request` reads from the store. -/
def readOf : Event (TaskSig StoreSig) → Option (Event StoreSig)
  | ⟨.callback .handleRequest .getConfig, config⟩ => some ⟨.getConfig, config⟩
  | ⟨.callback .handleRequest .getNetworkRecords, records⟩ => some ⟨.getNetworkRecords, records⟩
  | ⟨.callback .handleRequest (.load c), value⟩ => some ⟨.load c, value⟩
  | _ => none

theorem eq_of_readOf {e : Event (TaskSig StoreSig)} {d : Event StoreSig} (h : readOf e = some d) :
    e = ⟨.callback .handleRequest d.op, d.res⟩ := by
  unfold readOf at h
  split at h <;> cases h <;> rfl

/-- The operation asks for a name that cannot be resolved. -/
def failsLookup : Event (TaskSig StoreSig) → Bool
  | ⟨.lookupHost _ _, .error _⟩ => true
  | _ => false

section Trace

variable (tr : Trace (TaskSig StoreSig))

/-- The servers a task has spoken to. -/
def contacts : List Contact := tr.filterMap Contact.of

/-- The ids a task has drawn. -/
def drawnBy : List UInt64 := tr.filterMap drawOf

/-- What a task has read from the store inside `handle_request`. -/
def readBy : Trace StoreSig := tr.filterMap readOf

/-- A name could not be resolved for the task. -/
def lookupFailed : Bool := tr.any failsLookup

end Trace

/-- Where the answer of a request comes from, when the proxy was started with `config`. Each source
says which servers the task has spoken to and how many ids it has drawn. -/
inductive Answered (X : Externals) (req : Request) (config : Config)
    (tr : Trace (TaskSig StoreSig)) : Response → Prop
  | unresolved : lookupFailed tr = true → contacts tr = [] → drawnBy tr = [] →
      Answered X req config tr (HttpInterceptor.build502Error
        ("DNS Lookup Failed: [".toList ++ HttpInterceptor.getHost req ++ "]".toList))
  | upgraded {target answer : _} : Websocket.isWebsocketUpgrade req = true →
      Websocket.targetRequest X req = some target →
      contacts tr = [.upgrade target (.ok answer)] → drawnBy tr = [] →
      Answered X req config tr (.build answer.status answer.headers .empty)
  | refused {target : Request} {e : Str} : Websocket.isWebsocketUpgrade req = true →
      Websocket.targetRequest X req = some target →
      contacts tr = [.upgrade target (.error e)] → drawnBy tr = [] →
      Answered X req config tr (.build 502 [] (.text ("Bad Gateway: ".toList ++ e)))
  | rejected {id : UInt64} : (∀ newReq, ¬ RebuiltAs X req newReq) → contacts tr = [] →
      drawnBy tr = [id] →
      Answered X req config tr (.build 500 [] (.text "Internal Server Error"))
  | builtin {id : UInt64} {newReq : Request} {shown : Trace StoreSig} {response : Response} :
      KeptAs X req newReq config.port → contacts tr = [] → drawnBy tr = [id] →
      readBy tr = ⟨.getConfig, config⟩ :: shown →
      Steps (BifrostServerPlugin.hostServer X newReq) shown (.ret (.ok response)) →
      Answered X req config tr response
  | relayed {id : UInt64} {newReq : Request} {response : Response} :
      PassedAs X req newReq config.port →
      contacts tr = [.upstream newReq (.ok response)] → drawnBy tr = [id] →
      Answered X req config tr response
  | unreachable {id : UInt64} {newReq : Request} {e : UpstreamError} :
      PassedAs X req newReq config.port →
      contacts tr = [.upstream newReq (.error e)] → drawnBy tr = [id] →
      Answered X req config tr (HttpInterceptor.build502Error
        ("Service Unavailable. Can't Connect to Target Server [".toList ++
          HttpInterceptor.getHost req ++ "], [Time: ".toList ++ e.elapsed ++ "]".toList))

/-! ## What the stage of a request says -/

/-- The configuration by which the built-in server has let the request pass. -/
def Judged (X : Externals) (req : Request) (tr : Trace (TaskSig StoreSig)) (port : UInt16)
    (newReq : Request) : Prop :=
  PassedAs X req newReq port ∧ ∃ config, readBy tr = [⟨.getConfig, config⟩] ∧ config.port = port

namespace Exchange

/-- What the stage of a request says about its trace. -/
def At (X : Externals) (req : Request) : Stage → Trace (TaskSig StoreSig) → Prop
  | .waiting, tr => contacts tr = [] ∧ drawnBy tr = [] ∧ readBy tr = []
  | .unresolved, tr => lookupFailed tr = true ∧ contacts tr = [] ∧ drawnBy tr = []
  | .upgraded target answer, tr => Websocket.isWebsocketUpgrade req = true ∧
      Websocket.targetRequest X req = some target ∧ contacts tr = [.upgrade target answer] ∧
      drawnBy tr = []
  | .drawn id, tr => contacts tr = [] ∧ drawnBy tr = [id] ∧ readBy tr = []
  | .asked id port shown, tr => contacts tr = [] ∧ drawnBy tr = [id] ∧
      ∃ config, readBy tr = ⟨.getConfig, config⟩ :: shown ∧ config.port = port
  | .stamped id port time, tr => contacts tr = [] ∧ drawnBy tr = [id] ∧
      (⟨.callback .handleRequest .now, time⟩ : Event (TaskSig StoreSig)) ∈ tr ∧
      ∃ newReq, Judged X req tr port newReq
  | .sent newReq port answer, tr => contacts tr = [.upstream newReq answer] ∧
      (∃ id, drawnBy tr = [id]) ∧ Judged X req tr port newReq

section Snoc

variable {tr : Trace (TaskSig StoreSig)} {e : Event (TaskSig StoreSig)}

theorem contacts_snoc : contacts (tr ++ [e]) = contacts tr ++ (Contact.of e).toList := by
  cases h : Contact.of e <;> simp [contacts, h]

theorem drawnBy_snoc : drawnBy (tr ++ [e]) = drawnBy tr ++ (drawOf e).toList := by
  cases h : drawOf e <;> simp [drawnBy, h]

theorem readBy_snoc : readBy (tr ++ [e]) = readBy tr ++ (readOf e).toList := by
  cases h : readOf e <;> simp [readBy, h]

end Snoc

variable {X : Externals} {req : Request}

/-- An operation that speaks to nobody, draws nothing and reads nothing keeps what is known. -/
theorem At.silent {q : Stage} {tr : Trace (TaskSig StoreSig)} {e : Event (TaskSig StoreSig)}
    (h : At X req q tr) (hcontact : Contact.of e = none) (hdraw : drawOf e = none)
    (hread : readOf e = none) : At X req q (tr ++ [e]) := by
  have hcontacts : contacts (tr ++ [e]) = contacts tr := by simp [contacts_snoc, hcontact]
  have hdrawn : drawnBy (tr ++ [e]) = drawnBy tr := by simp [drawnBy_snoc, hdraw]
  have hreads : readBy (tr ++ [e]) = readBy tr := by simp [readBy_snoc, hread]
  cases q with
  | unresolved =>
    obtain ⟨hfailed, hrest⟩ := h
    refine ⟨?_, by rwa [hcontacts, hdrawn]⟩
    rw [lookupFailed, List.any_append, ← lookupFailed, hfailed]
    rfl
  | stamped id port time =>
    obtain ⟨hcontact, hdraw, htime, hjudged⟩ := h
    refine ⟨by rwa [hcontacts], by rwa [hdrawn], List.mem_append_left _ htime, ?_⟩
    simpa only [Judged, hreads] using hjudged
  | _ => simpa only [At, Judged, hcontacts, hdrawn, hreads] using h

/-- An operation the protocol allows keeps the agreement of stage and trace. -/
theorem At.step {q : Stage} {tr : Trace (TaskSig StoreSig)} {o : TaskOp StoreSig} (r : o.Res)
    (ho : Allows X req q o) (h : At X req q tr) : At X req (next q o r) (tr ++ [⟨o, r⟩]) := by
  cases ho with
  | lookup ho =>
    cases o with
    | lookupHost name port =>
      cases r with
      | ok addrs => exact At.silent h rfl rfl rfl
      | error e =>
        refine ⟨by simp [lookupFailed, failsLookup], ?_, ?_⟩
        · simp [contacts_snoc, Contact.of, h.1]
        · simp [drawnBy_snoc, drawOf, h.2.1]
    | now => exact At.silent h rfl rfl rfl
    | dnsCacheGet host => exact At.silent h rfl rfl rfl
    | dnsCacheInsert host addrs timestamp => exact At.silent h rfl rfl rfl
    | panic => exact nomatch r
    | _ => cases ho
  | upgrade hupgrade htarget =>
    refine ⟨hupgrade, htarget, ?_, ?_⟩
    · simp [contacts_snoc, Contact.of, h.1]
    · simp [drawnBy_snoc, drawOf, h.2.1]
  | draw hupgrade =>
    refine ⟨?_, ?_, ?_⟩
    · simp [contacts_snoc, Contact.of, h.1]
    · simp [drawnBy_snoc, drawOf, h.2.1]
    · simp [readBy_snoc, readOf, h.2.2]
  | ask =>
    refine ⟨?_, ?_, r, ?_, rfl⟩
    · simp [contacts_snoc, Contact.of, h.1]
    · simp [drawnBy_snoc, drawOf, h.2.1]
    · simp [readBy_snoc, readOf, h.2.2]
  | @read id port shown newReq o k hshows hkept hsteps =>
    obtain ⟨hcontacts, hdrawn, config, hreads, hport⟩ := h
    -- Each of the reads goes into what is shown.
    have hnext : next (.asked id port shown) (.callback .handleRequest o) r =
          .asked id port (shown ++ [⟨o, r⟩]) ∧
        readOf ⟨.callback .handleRequest o, r⟩ = some ⟨o, r⟩ := by
      cases o with
      | getConfig | getNetworkRecords | load => exact ⟨rfl, rfl⟩
      | _ => cases hshows
    rw [hnext.1]
    refine ⟨?_, ?_, config, ?_, hport⟩
    · simp [contacts_snoc, Contact.of, hcontacts]
    · simp [drawnBy_snoc, drawOf, hdrawn]
    · simp [readBy_snoc, hnext.2, hreads]
  | count _ _ => exact At.silent h rfl rfl rfl
  | clock hpass =>
    obtain ⟨hcontacts, hdrawn, config, hreads, hport⟩ := h
    refine ⟨?_, ?_, by simp, _, hpass, config, ?_, hport⟩
    · simp [contacts_snoc, Contact.of, hcontacts]
    · simp [drawnBy_snoc, drawOf, hdrawn]
    · simp [readBy_snoc, readOf, hreads]
  | add _ => exact At.silent h rfl rfl rfl
  | mark => exact At.silent h rfl rfl rfl
  | @send id port time newReq hpass =>
    obtain ⟨hcontacts, hdrawn, -, -, -, config, hreads, hport⟩ := h
    refine ⟨?_, ⟨id, ?_⟩, hpass, config, ?_, hport⟩
    · simp [contacts_snoc, Contact.of, hcontacts]
    · simpa [drawnBy_snoc, drawOf] using hdrawn
    · simp [readBy_snoc, readOf, hreads]

/-- The stages at which an operation may change the store or go upstream are behind the built-in
server. -/
theorem At.passed_of_touches {q : Stage} {tr : Trace (TaskSig StoreSig)} {o : TaskOp StoreSig}
    (h : At X req q tr) (hallows : Allows X req q o) (htouches : o.Touches) {config : Config}
    (hconfig : ∀ c, (⟨.getConfig, c⟩ : Event StoreSig) ∈ readBy tr → c = config) :
    ∃ newReq, PassedAs X req newReq config.port := by
  have hport : ∀ {id port shown}, At X req (.asked id port shown) tr → port = config.port := by
    rintro id port shown ⟨-, -, c, hreads, rfl⟩
    rw [hconfig c (by simp [hreads])]
  have hport' : ∀ {id port time}, At X req (.stamped id port time) tr →
      ∃ newReq, PassedAs X req newReq config.port := by
    rintro id port time ⟨-, -, -, newReq, hpass, c, hreads, rfl⟩
    rw [hconfig c (by simp [hreads])] at hpass
    exact ⟨newReq, hpass⟩
  cases hallows with
  | lookup ho => exact absurd htouches ho.quiet.not_touches
  | upgrade _ _ => exact absurd htouches (TaskOp.Quiet.not_touches trivial)
  | draw _ => rcases htouches with hsent | ⟨o', ho', -⟩ <;> contradiction
  | ask => exact absurd htouches (TaskOp.Quiet.not_touches ⟨rfl, trivial⟩)
  | read hshows _ _ => exact absurd htouches (TaskOp.Quiet.not_touches ⟨rfl, hshows.readOnly⟩)
  | count _ hpass => exact ⟨_, hport h ▸ hpass⟩
  | clock hpass => exact ⟨_, hport h ▸ hpass⟩
  | _ => exact hport' h

/-- At every stage at most one id is drawn. -/
theorem At.length_drawnBy {q : Stage} {tr : Trace (TaskSig StoreSig)} (h : At X req q tr) :
    (drawnBy tr).length ≤ 1 := by
  cases q with
  | waiting => simp [h.2.1]
  | unresolved => simp [h.2.2]
  | upgraded target answer => simp [h.2.2.2]
  | drawn id => simp [h.2.1]
  | asked id port shown => simp [h.2.1]
  | stamped id port time => simp [h.2.1]
  | sent newReq port answer =>
    obtain ⟨id, hdrawn⟩ := h.2.1
    simp [hdrawn]

/-- The stage and the trace agree along any run of the request. -/
theorem at_of_permits {tr : Trace (TaskSig StoreSig)}
    (h : (exchange X req).Permits .waiting tr) :
    At X req ((exchange X req).after .waiting tr) tr :=
  h.induction (R := At X req) ⟨rfl, rfl, rfl⟩ fun _ _ _ r ho h => h.step r ho

end Exchange

/-! ## The running proxy -/

section Reachable

variable {X : Externals} {config : Config} {now : UInt64} {moves : List (Move Job Oracle)}
  {t : ProxyTask} (ht : t ∈ (runProxy X config now moves).threads)

include ht

/-- What a task has done it did in a state of the run. -/
theorem performed_in_run {e : Event (TaskSig StoreSig)} (he : e ∈ t.trace) :
    ∃ moves' ω g, moves' <+: moves ∧
      perform ω e.op (runProxy X config now moves').state = some (e.res, g) := by
  obtain ⟨i, hi⟩ := List.mem_iff_getElem?.mp ht
  obtain ⟨before, after, hlog⟩ :=
    List.append_of_mem ((System.mem_log_iff _ moves i e).mpr ⟨t, hi, he⟩)
  obtain ⟨moves', ω, -, -, g, hpre, -, -, -, hperf⟩ := System.log_origin _ _ hlog
  exact ⟨moves', ω, g, hpre, hperf⟩

/-- Every reading of the configuration shows the one the proxy was started with. -/
theorem config_of_read {c : Config} (h : ⟨.getConfig, c⟩ ∈ readBy t.trace) : c = config := by
  obtain ⟨e, he, hread⟩ := List.mem_filterMap.mp h
  obtain rfl := eq_of_readOf hread
  obtain ⟨moves', ω, g, -, hperf⟩ := performed_in_run ht he
  cases hperf
  exact (books X config now moves').config_eq

variable {req : Request} (hreq : t.tag.request = some req)

include hreq

/-- Where a request stands in its exchange. -/
theorem exchange_at : Exchange.At X req ((exchange X req).after .waiting t.trace) t.trace :=
  Exchange.at_of_permits
    ((Exchange.program_follows X hreq).permits (System.steps_of_run _ moves t ht))

/-- What changes the store or goes upstream was let pass by the built-in server. -/
theorem passed_of_touches {e : Event (TaskSig StoreSig)} (he : e ∈ t.trace)
    (htouches : e.op.Touches) : ∃ newReq, PassedAs X req newReq config.port := by
  obtain ⟨tr, tr', htrace⟩ := List.append_of_mem he
  have hpermits := (Exchange.program_follows X hreq).permits (System.steps_of_run _ moves t ht)
  rw [htrace] at hpermits
  obtain ⟨hbefore, hallows⟩ := hpermits.split
  have hat := Exchange.at_of_permits hbefore
  -- What was read before the operation was read by the task.
  have hconfig : ∀ c, (⟨.getConfig, c⟩ : Event StoreSig) ∈ readBy tr → c = config := by
    intro c hc
    refine config_of_read ht ?_
    rw [htrace, readBy, List.filterMap_append]
    exact List.mem_append_left _ hc
  exact hat.passed_of_touches hallows htouches hconfig

/-- The answer of the request. -/
theorem answered {response : Response} (hret : t.prog = .ret (some response)) :
    Answered X req config t.trace response := by
  have hat := exchange_at ht hreq
  have hfollows := (Exchange.program_follows X hreq).steps (System.steps_of_run _ moves t ht)
  rw [hret] at hfollows
  obtain ⟨response', heq, hanswer⟩ := hfollows
  obtain rfl := Option.some.inj heq
  have hconfig : ∀ {shown : Trace StoreSig} {c : Config},
      readBy t.trace = ⟨.getConfig, c⟩ :: shown → c = config :=
    fun h => config_of_read ht (by simp [h])
  -- The stage at the end says where the answer is from.
  generalize (exchange X req).after .waiting t.trace = q at hat hanswer
  cases q with
  | waiting => exact hanswer.elim
  | unresolved =>
    obtain rfl : response = _ := hanswer
    exact .unresolved hat.1 hat.2.1 hat.2.2
  | upgraded target answer =>
    obtain ⟨hupgrade, htarget, hcontacts, hdrawn⟩ := hat
    cases answer with
    | ok answer =>
      obtain rfl : response = _ := hanswer
      exact .upgraded hupgrade htarget hcontacts hdrawn
    | error e =>
      obtain rfl : response = _ := hanswer
      exact .refused hupgrade htarget hcontacts hdrawn
  | drawn id =>
    obtain ⟨hnot, rfl⟩ := hanswer
    exact .rejected hnot hat.1 hat.2.1
  | asked id port shown =>
    obtain ⟨hcontacts, hdrawn, c, hreads, rfl⟩ := hat
    obtain rfl := hconfig hreads
    obtain ⟨newReq, hkept, hsteps⟩ := hanswer
    exact .builtin hkept hcontacts hdrawn hreads hsteps
  | stamped id port time => exact hanswer.elim
  | sent newReq port answer =>
    obtain ⟨hcontacts, ⟨id, hdrawn⟩, hpass, c, hreads, rfl⟩ := hat
    obtain rfl := hconfig hreads
    cases answer with
    | ok answer =>
      obtain rfl : response = answer := hanswer
      exact .relayed hpass hcontacts hdrawn
    | error e =>
      obtain rfl : response = _ := hanswer
      exact .unreachable hpass hcontacts hdrawn

/-- A request the built-in server keeps speaks to no server, unless it asks for an upgrade. -/
theorem contacts_of_kept {newReq : Request} (hkept : KeptAs X req newReq config.port)
    (hupgrade : Websocket.isWebsocketUpgrade req = false) : contacts t.trace = [] := by
  have hat := exchange_at ht hreq
  generalize (exchange X req).after .waiting t.trace = q at hat
  cases q with
  | upgraded target answer => exact absurd (hupgrade.symm.trans hat.1) Bool.false_ne_true
  | sent newReq' port answer =>
    -- What was sent was let pass, under the port the request is kept for.
    obtain ⟨-, -, hpass, c, hreads, rfl⟩ := hat
    rw [config_of_read ht (c := c) (by simp [hreads])] at hpass
    exact absurd hpass hkept.not_passed
  -- Before these two, nobody is spoken to.
  | unresolved => exact hat.2.1
  | waiting => exact hat.1
  | drawn id => exact hat.1
  | asked id port shown => exact hat.1
  | stamped id port time => exact hat.1

/-- A request the built-in server keeps is answered by it. -/
theorem builtin_of_kept {newReq : Request} {response : Response}
    (hkept : KeptAs X req newReq config.port) (hret : t.prog = .ret (some response))
    (hupgrade : Websocket.isWebsocketUpgrade req = false) (hlookup : lookupFailed t.trace = false) :
    ∃ shown, readBy t.trace = ⟨.getConfig, config⟩ :: shown ∧
      Steps (BifrostServerPlugin.hostServer X newReq) shown (.ret (.ok response)) := by
  cases answered ht hreq hret with
  | unresolved hfailed _ _ => exact absurd (hlookup.symm.trans hfailed) Bool.false_ne_true
  | upgraded h _ _ _ => exact absurd (hupgrade.symm.trans h) Bool.false_ne_true
  | refused h _ _ _ => exact absurd (hupgrade.symm.trans h) Bool.false_ne_true
  | rejected hnot _ _ => exact absurd hkept.rebuilt (hnot newReq)
  | builtin hkept' _ _ hreads hsteps =>
    obtain rfl := hkept.rebuilt.unique hkept'.rebuilt
    exact ⟨_, hreads, hsteps⟩
  | relayed hpass _ _ => exact absurd hpass hkept.not_passed
  | unreachable hpass _ _ => exact absurd hpass hkept.not_passed

end Reachable

/-- The answer of a request, in every run, has exactly one source, and that source is the request's
own exchange. A request speaks to at most one server, and to that one once; what the upstream server
or the target of an upgrade says is handed on; and the rebuilt request is sent only if the built-in
server lets it pass under the configuration the proxy was started with. -/
theorem answered_of_returned (X : Externals) (config : Config) (now : UInt64)
    (moves : List (Move Job Oracle)) :
    ∀ t ∈ (runProxy X config now moves).threads, ∀ req, t.tag.request = some req →
      ∀ response, t.prog = .ret (some response) →
        Answered X req config t.trace response :=
  fun _ ht _ hreq _ hret => answered ht hreq hret

/-- A request that went upstream: the answer is the upstream server's. -/
theorem answered_of_returned_relayed :
    ∃ t ∈ (Concrete.run (.intercepted Concrete.request) (.replicate 13 .timeout)).threads,
      Answered Concrete.externals Concrete.request Concrete.config t.trace
        (.build 200 [] .incoming) := by
  have ht := List.mem_of_getElem?
    (l := (Concrete.run (.intercepted Concrete.request) (.replicate 13 .timeout)).threads)
    (i := 0) rfl
  exact ⟨_, ht, answered_of_returned _ _ _ _ _ ht _ rfl _ rfl⟩

/-- A request to the proxy itself, which is one that `is_bifrost_host` takes for one, does not go
around, in any run. Its task changes nothing in the store and makes no `client.request`; unless it
asks for an upgrade, for which the target is connected to whatever it is, it speaks to no server at
all; and unless it asks for one or its name cannot be resolved, it returns what the built-in server
makes of what it reads. -/
theorem selfAddressed_stays (X : Externals) (config : Config) (now : UInt64)
    (moves : List (Move Job Oracle)) :
    ∀ t ∈ (runProxy X config now moves).threads, ∀ req newReq, t.tag.request = some req →
      KeptAs X req newReq config.port →
        (∀ e ∈ t.trace, ¬ e.op.Touches) ∧
        (Websocket.isWebsocketUpgrade req = false → contacts t.trace = []) ∧
        ∀ response, t.prog = .ret (some response) → Websocket.isWebsocketUpgrade req = false →
          lookupFailed t.trace = false → ∃ shown, readBy t.trace = ⟨.getConfig, config⟩ :: shown ∧
            Steps (BifrostServerPlugin.hostServer X newReq) shown (.ret (.ok response)) := by
  intro t ht req newReq hreq hkept
  refine ⟨?_, contacts_of_kept ht hreq hkept, ?_⟩
  · intro e he htouches
    obtain ⟨newReq', hpass⟩ := passed_of_touches ht hreq he htouches
    exact hkept.not_passed hpass
  · exact fun response hret hupgrade hlookup => builtin_of_kept ht hreq hkept hret hupgrade hlookup

/-- A request to the proxy itself, answered without a trace. -/
theorem selfAddressed_stays_home :
    ∃ t ∈ (Concrete.run (.intercepted Concrete.ownRequest) (.replicate 7 .timeout)).threads,
      t.returned = true ∧ (∀ e ∈ t.trace, ¬ e.op.Touches) ∧ contacts t.trace = [] := by
  have ht := List.mem_of_getElem?
    (l := (Concrete.run (.intercepted Concrete.ownRequest) (.replicate 7 .timeout)).threads)
    (i := 0) rfl
  have hkept : KeptAs Concrete.externals Concrete.ownRequest
      (HttpInterceptor.newRequest Concrete.ownRequest Concrete.ownRequest.uri) 8080 :=
    ⟨⟨_, rfl, rfl⟩, by decide⟩
  obtain ⟨hstays, hcontacts, -⟩ := selfAddressed_stays _ _ _ _ _ ht _ _ rfl hkept
  exact ⟨_, ht, by decide, hstays, hcontacts (by decide)⟩

end Bifrost
