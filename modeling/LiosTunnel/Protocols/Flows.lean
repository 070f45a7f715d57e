import LiosTunnel.Lib.Runs
import LiosTunnel.Lib.Semaphore
import LiosTunnel.Protocols.Shadowsocks

/-!
# Shadowsocks flows and their permits

Everything that can be under way on one `ShadowsocksTunnel`: calls of `open_flow` that wait for a
permit or connect to the server, and the `CountingStream`s they returned. An event is what happens
between two points where a call waits, so a run is an interleaving of the calls, the timers, the
server's answers and the drops of calls and streams. The tunnel's part of an event is the stage of
`open_flow` it belongs to.

* `Flows`, `FlowEvent`, `Flows.step`: the machine. `Flows.openFlow_of_acquired` and its neighbours
  run one call of it from end to end and find `ShadowsocksTunnel.openFlow`.
* `Flows.Conserved`: where the permits are, and what the counters count.
* `flows_conserved`: every run keeps it, and no event of one pool touches the other.
-/

namespace LiosTunnel.Protocols

/-- `MAX_CONCURRENT_FLOWS`. -/
def MAX_CONCURRENT_FLOWS : ℕ := 64

/-- `MAX_CONCURRENT_DNS_FLOWS`. -/
def MAX_CONCURRENT_DNS_FLOWS : ℕ := 8

/-- The two allowances: `flow_limit`, which `open_tcp_stream` draws from, and `dns_flow_limit`,
which `open_dns_stream` draws from. -/
inductive FlowPool
  | general
  | dns
  deriving DecidableEq, Repr

def FlowPool.size : FlowPool → ℕ
  | .general => MAX_CONCURRENT_FLOWS
  | .dns => MAX_CONCURRENT_DNS_FLOWS

/-- A call of `open_flow` that has read the session. -/
structure Attempt where
  cfg : ServerConfig
  ctx : Context
  dest : SocketAddr
  deriving DecidableEq, Repr

/-- How a call of `open_flow` ends. -/
inductive AttemptEnd
  | opened
  | notConnected
  | permitTimeout
  | connectError
  | connectTimeout
  | cancelled
  deriving DecidableEq, Repr

/-- The ends that count as failed flows. -/
def AttemptEnd.failed : AttemptEnd → Bool
  | .permitTimeout | .connectError | .connectTimeout => true
  | .opened | .notConnected | .cancelled => false

/-- The end of a call by the server's answer. -/
def RelayConnect.ends : RelayConnect → AttemptEnd
  | .connected => .opened
  | .failed _ => .connectError
  | .timedOut => .connectTimeout

/-- A tunnel with what is under way on it. -/
structure Flows where
  tunnel : ShadowsocksTunnel
  pools : FlowPool → PermitPool Attempt SocketAddr
  /-- How the calls so far ended, the last one first. -/
  ended : List (FlowPool × AttemptEnd)

/-- What can happen. Calls and streams are named by their place in their pool's lists. -/
inductive FlowEvent
  /-- `open_tcp_stream` or `open_dns_stream` is called. -/
  | openFlow (p : FlowPool) (dest : SocketAddr)
  /-- A call that a permit was handed to goes on. -/
  | wake (p : FlowPool) (i : ℕ)
  /-- The timer of a call's wait for a permit fires. A permit can be handed to the call between its
  last look at the semaphore and the timer. -/
  | permitTimeout (p : FlowPool) (stage : PermitPool.Stage) (i : ℕ)
  /-- The connection of a call is there, fails, or runs out of time. -/
  | relay (p : FlowPool) (i : ℕ) (answer : RelayConnect)
  /-- A call is dropped. -/
  | cancel (p : FlowPool) (stage : PermitPool.Stage) (i : ℕ)
  /-- A stream is dropped. -/
  | dropStream (p : FlowPool) (i : ℕ)
  /-- `connect` or `disconnect` writes the session. -/
  | setSession (server : Option ServerConfig) (context : Option Context) (peer : Option SocketAddr)
    (state : ConnectionState)

/-- The pool an event is about. -/
def FlowEvent.pool : FlowEvent → Option FlowPool
  | openFlow p _ | wake p _ | permitTimeout p _ _ | relay p _ _ | cancel p _ _ | dropStream p _ =>
    some p
  | setSession _ _ _ _ => none

namespace Flows

/-- `ShadowsocksTunnel::new`. -/
def new : Flows := ⟨.new, fun p => .new p.size, []⟩

/-- No call borrows the tunnel. -/
def Idle (s : Flows) : Prop :=
  ∀ p, (s.pools p).limit.waiters = [] ∧ (s.pools p).granted = [] ∧ (s.pools p).working = []

instance (s : Flows) : Decidable s.Idle :=
  decidable_of_iff
    (((s.pools .general).limit.waiters = [] ∧ (s.pools .general).granted = [] ∧
        (s.pools .general).working = []) ∧
      (s.pools .dns).limit.waiters = [] ∧ (s.pools .dns).granted = [] ∧ (s.pools .dns).working = [])
    ⟨fun h p => by cases p; exacts [h.1, h.2], fun h => ⟨h .general, h .dns⟩⟩

/-- One pool, the tunnel and one more end. -/
def update (s : Flows) (p : FlowPool) (pool : PermitPool Attempt SocketAddr)
    (tunnel : ShadowsocksTunnel) (ended : List AttemptEnd) : Flows :=
  ⟨tunnel, Function.update s.pools p pool, ended.map (p, ·) ++ s.ended⟩

/-- One event, `none` where it cannot happen. -/
def step (s : Flows) : FlowEvent → Option Flows
  | .openFlow p dest =>
    match s.tunnel.session with
    | .error _ => some (s.update p (s.pools p) s.tunnel [.notConnected])
    | .ok (cfg, ctx) => some (s.update p ((s.pools p).request ⟨cfg, ctx, dest⟩) s.tunnel [])
  | .wake p i =>
    ((s.pools p).wake i).map fun pool => s.update p pool (s.tunnel.afterPermit .acquired).2 []
  | .permitTimeout p stage i =>
    if stage = .working then none
    else ((s.pools p).leave stage i).map fun pool =>
      s.update p pool (s.tunnel.afterPermit .timedOut).2 [.permitTimeout]
  | .relay p i answer =>
    match s.tunnel.afterRelay answer with
    | (.ok (), tunnel) =>
      ((s.pools p).keep i Attempt.dest).map fun pool => s.update p pool tunnel [answer.ends]
    | (.error _, tunnel) =>
      ((s.pools p).leave .working i).map fun pool => s.update p pool tunnel [answer.ends]
  | .cancel p stage i =>
    ((s.pools p).leave stage i).map fun pool => s.update p pool s.tunnel [.cancelled]
  | .dropStream p i =>
    ((s.pools p).dropGuard i).map fun pool => s.update p pool s.tunnel.dropStream []
  | .setSession server context peer state =>
    -- both take the tunnel by `&mut self`
    if s.Idle then
      some { s with tunnel := { s.tunnel with server, context, peer, state } }
    else none

/-- The streams that have not been dropped. -/
def live (s : Flows) : ℕ := (s.pools .general).guards.length + (s.pools .dns).guards.length

/-- The calls that ended in a failure that counts. -/
def failures (s : Flows) : ℕ := s.ended.countP fun e => e.2.failed

/-- **Where the permits are and what the counters count.** -/
structure Conserved (s : Flows) : Prop where
  permits : ∀ p, (s.pools p).total = p.size
  busy : ∀ p, (s.pools p).Busy
  active : s.tunnel.counters.active = s.live
  failed : s.tunnel.counters.failed = s.failures

variable {s s' : Flows}

/-! ## One pool at a time -/

@[simp] theorem pools_update_self (p : FlowPool) (pool : PermitPool Attempt SocketAddr)
    (tunnel : ShadowsocksTunnel) (ended : List AttemptEnd) :
    (s.update p pool tunnel ended).pools p = pool := Function.update_self _ _ _

theorem pools_update_of_ne {p q : FlowPool} (hq : q ≠ p) (pool : PermitPool Attempt SocketAddr)
    (tunnel : ShadowsocksTunnel) (ended : List AttemptEnd) :
    (s.update p pool tunnel ended).pools q = s.pools q := Function.update_of_ne hq _ _

theorem live_update (p : FlowPool) (pool : PermitPool Attempt SocketAddr)
    (tunnel : ShadowsocksTunnel) (ended : List AttemptEnd) :
    (s.update p pool tunnel ended).live + (s.pools p).guards.length =
      s.live + pool.guards.length := by
  cases p with
  | general =>
    have hdns : FlowPool.dns ≠ .general := by decide
    rw [live, live, pools_update_self, pools_update_of_ne hdns]
    omega
  | dns =>
    have hgeneral : FlowPool.general ≠ .dns := by decide
    rw [live, live, pools_update_self, pools_update_of_ne hgeneral]
    omega

theorem failures_update (p : FlowPool) (pool : PermitPool Attempt SocketAddr)
    (tunnel : ShadowsocksTunnel) (ended : List AttemptEnd) :
    (s.update p pool tunnel ended).failures = ended.countP AttemptEnd.failed + s.failures := by
  rw [failures, update, List.countP_append, List.countP_map]
  rfl

/-- What an event has to do for the books to stay right. -/
theorem Conserved.update (h : s.Conserved) {p : FlowPool} {pool : PermitPool Attempt SocketAddr}
    {tunnel : ShadowsocksTunnel} {ended : List AttemptEnd} (htotal : pool.total = (s.pools p).total)
    (hbusy : pool.Busy)
    (hactive : tunnel.counters.active + (s.pools p).guards.length =
      s.tunnel.counters.active + pool.guards.length)
    (hfailed : tunnel.counters.failed =
      ended.countP AttemptEnd.failed + s.tunnel.counters.failed) :
    (s.update p pool tunnel ended).Conserved := by
  refine ⟨fun q => ?_, fun q => ?_, ?_, ?_⟩
  · by_cases hq : q = p
    · obtain rfl := hq
      rw [pools_update_self, htotal, h.permits]
    · rw [pools_update_of_ne hq, h.permits]
  · by_cases hq : q = p
    · obtain rfl := hq
      rw [pools_update_self]
      exact hbusy
    · rw [pools_update_of_ne hq]
      exact h.busy q
  · have hlive := live_update (s := s) p pool tunnel ended
    have hbefore := h.active
    change tunnel.counters.active = _
    omega
  · rw [failures_update, ← h.failed]
    exact hfailed

/-- A call that goes with no stream left behind. -/
theorem Conserved.leave (h : s.Conserved) {p : FlowPool} {stage : PermitPool.Stage} {i : ℕ}
    {pool : PermitPool Attempt SocketAddr} {tunnel : ShadowsocksTunnel} {ended : List AttemptEnd}
    (hpool : (s.pools p).leave stage i = some pool)
    (hactive : tunnel.counters.active = s.tunnel.counters.active)
    (hfailed : tunnel.counters.failed =
      ended.countP AttemptEnd.failed + s.tunnel.counters.failed) :
    (s.update p pool tunnel ended).Conserved := by
  refine h.update (PermitPool.total_leave hpool) ((h.busy p).leave hpool) ?_ hfailed
  rw [PermitPool.guards_leave hpool, hactive]

theorem new_conserved : new.Conserved where
  permits _ := PermitPool.total_new _
  busy _ := PermitPool.Busy.new _
  active := rfl
  failed := rfl

/-- A pool has no more streams than the tunnel counts. -/
theorem Conserved.guards_le (h : s.Conserved) (p : FlowPool) :
    (s.pools p).guards.length ≤ s.tunnel.counters.active := by
  rw [h.active, live]
  cases p with
  | general => exact Nat.le_add_right _ _
  | dns => exact Nat.le_add_left _ _

/-- **One event keeps the books right.** -/
theorem Conserved.step (h : s.Conserved) {e : FlowEvent} (hs : s.step e = some s') :
    s'.Conserved := by
  cases e with
  | openFlow p dest =>
    rw [Flows.step] at hs
    split at hs
    · obtain rfl := Option.some.inj hs
      exact h.update rfl (h.busy p) rfl (Nat.zero_add _).symm
    · obtain rfl := Option.some.inj hs
      refine h.update (PermitPool.total_request _) ((h.busy p).request _) ?_ (Nat.zero_add _).symm
      rw [PermitPool.guards_request]
  | wake p i =>
    obtain ⟨pool, hpool, rfl⟩ := Option.map_eq_some_iff.1 hs
    refine h.update (PermitPool.total_wake hpool) ((h.busy p).wake hpool) ?_ (Nat.zero_add _).symm
    rw [PermitPool.guards_wake hpool]
    rfl
  | permitTimeout p stage i =>
    rw [Flows.step] at hs
    split at hs
    · cases hs
    · obtain ⟨pool, hpool, rfl⟩ := Option.map_eq_some_iff.1 hs
      exact h.leave hpool rfl (Nat.add_comm _ _)
  | relay p i answer =>
    cases answer with
    | connected =>
      obtain ⟨pool, hpool, rfl⟩ := Option.map_eq_some_iff.1 hs
      refine h.update (PermitPool.total_keep hpool) ((h.busy p).keep hpool) ?_ (Nat.zero_add _).symm
      rw [PermitPool.length_guards_keep hpool]
      change s.tunnel.counters.active + 1 + _ = _
      omega
    | failed e =>
      obtain ⟨pool, hpool, rfl⟩ := Option.map_eq_some_iff.1 hs
      exact h.leave hpool rfl (Nat.add_comm _ _)
    | timedOut =>
      obtain ⟨pool, hpool, rfl⟩ := Option.map_eq_some_iff.1 hs
      exact h.leave hpool rfl (Nat.add_comm _ _)
  | cancel p stage i =>
    obtain ⟨pool, hpool, rfl⟩ := Option.map_eq_some_iff.1 hs
    exact h.leave hpool rfl (Nat.zero_add _).symm
  | dropStream p i =>
    obtain ⟨pool, hpool, rfl⟩ := Option.map_eq_some_iff.1 hs
    refine h.update (PermitPool.total_dropGuard hpool) ((h.busy p).dropGuard hpool) ?_
      (Nat.zero_add _).symm
    -- the stream is counted, so the decrement does not stop at zero
    have hlen := PermitPool.length_guards_dropGuard hpool
    have hle := h.guards_le p
    change s.tunnel.counters.active - 1 + _ = _
    omega
  | setSession server context peer state =>
    rw [Flows.step] at hs
    split at hs
    · obtain rfl := Option.some.inj hs
      exact ⟨h.permits, h.busy, h.active, h.failed⟩
    · cases hs

theorem conserved_of_run {es : List FlowEvent} (h : Runs.run Flows.step .new es = some s) :
    s.Conserved :=
  Runs.run_invariant_of_step (fun _ _ _ hs he => Conserved.step hs he) new_conserved h

/-- An event of one pool leaves the other as it is. -/
theorem pools_of_step {e : FlowEvent} (hs : s.step e = some s') {q : FlowPool}
    (hq : e.pool ≠ some q) : s'.pools q = s.pools q := by
  have hupdate : ∀ {p pool tunnel ended}, some p ≠ some q →
      (s.update p pool tunnel ended).pools q = s.pools q := by
    intro p pool tunnel ended hne
    exact pools_update_of_ne (fun heq => hne (congrArg some heq.symm)) _ _ _
  cases e with
  | openFlow p dest =>
    rw [Flows.step] at hs
    split at hs <;> (obtain rfl := Option.some.inj hs; exact hupdate hq)
  | wake p i =>
    obtain ⟨pool, -, rfl⟩ := Option.map_eq_some_iff.1 hs
    exact hupdate hq
  | permitTimeout p stage i =>
    rw [Flows.step] at hs
    split at hs
    · cases hs
    · obtain ⟨pool, -, rfl⟩ := Option.map_eq_some_iff.1 hs
      exact hupdate hq
  | relay p i answer =>
    rw [Flows.step] at hs
    split at hs <;> (obtain ⟨pool, -, rfl⟩ := Option.map_eq_some_iff.1 hs; exact hupdate hq)
  | cancel p stage i =>
    obtain ⟨pool, -, rfl⟩ := Option.map_eq_some_iff.1 hs
    exact hupdate hq
  | dropStream p i =>
    obtain ⟨pool, -, rfl⟩ := Option.map_eq_some_iff.1 hs
    exact hupdate hq
  | setSession server context peer state =>
    rw [Flows.step] at hs
    split at hs
    · obtain rfl := Option.some.inj hs
      rfl
    · cases hs

/-! ## One call from end to end -/

section Alone

variable {p : FlowPool} {dest : SocketAddr} {net : FlowNet} {cfg : ServerConfig} {ctx : Context}

/-- A call without a session is through at once. -/
theorem openFlow_of_no_session {e : TunnelError} (hs : s.tunnel.session = .error e) :
    ∃ s', s.step (.openFlow p dest) = some s' ∧ s'.tunnel = (s.tunnel.openFlow dest net).2 := by
  refine ⟨s.update p (s.pools p) s.tunnel [.notConnected], ?_, ?_⟩
  · rw [Flows.step, hs]
  · rw [ShadowsocksTunnel.openFlow, hs]
    rfl

theorem step_openFlow (hs : s.tunnel.session = .ok (cfg, ctx)) :
    s.step (.openFlow p dest) =
      some (s.update p ((s.pools p).request ⟨cfg, ctx, dest⟩) s.tunnel []) := by
  rw [Flows.step, hs]

/-- **A call that finds a permit**, with nothing else happening before the server answers, does to
the tunnel what `ShadowsocksTunnel.openFlow` says. -/
theorem openFlow_of_acquired (hs : s.tunnel.session = .ok (cfg, ctx))
    (havail : 0 < (s.pools p).limit.available) (hnet : net.permit = .acquired) :
    ∃ s', Runs.run step s [.openFlow p dest,
        .relay p (s.pools p).working.length (net.relay cfg ctx dest)] = some s' ∧
      s'.tunnel = (s.tunnel.openFlow dest net).2 := by
  have htunnel : (s.tunnel.openFlow dest net).2 =
      (s.tunnel.afterRelay (net.relay cfg ctx dest)).2 := by
    rw [ShadowsocksTunnel.openFlow, hs, hnet]
    rfl
  have hworking : ((s.pools p).request ⟨cfg, ctx, dest⟩).working[(s.pools p).working.length]? =
      some ⟨cfg, ctx, dest⟩ := by
    rw [PermitPool.working_request _ havail, List.getElem?_concat_length]
  rw [htunnel, Runs.run_cons, step_openFlow hs, Option.bind_some, Runs.run_cons, Flows.step,
    pools_update_self]
  cases net.relay cfg ctx dest with
  | connected =>
    simp only [ShadowsocksTunnel.afterRelay, PermitPool.keep, hworking]
    exact ⟨_, rfl, rfl⟩
  | failed e =>
    simp only [ShadowsocksTunnel.afterRelay, PermitPool.leave, hworking]
    exact ⟨_, rfl, rfl⟩
  | timedOut =>
    simp only [ShadowsocksTunnel.afterRelay, PermitPool.leave, hworking]
    exact ⟨_, rfl, rfl⟩

/-- **A call that finds none** and is not handed one in time. -/
theorem openFlow_of_timedOut (hs : s.tunnel.session = .ok (cfg, ctx))
    (hfull : (s.pools p).limit.available = 0) (hnet : net.permit = .timedOut) :
    ∃ s', Runs.run step s [.openFlow p dest,
        .permitTimeout p .waiting (s.pools p).limit.waiters.length] = some s' ∧
      s'.tunnel = (s.tunnel.openFlow dest net).2 := by
  have htunnel : (s.tunnel.openFlow dest net).2 = s.tunnel.countFailed := by
    rw [ShadowsocksTunnel.openFlow, hs, hnet]
    rfl
  have hwaiting : ((s.pools p).request ⟨cfg, ctx, dest⟩).limit.waiters[
      (s.pools p).limit.waiters.length]? = some ⟨cfg, ctx, dest⟩ := by
    rw [PermitPool.waiters_request _ hfull, List.getElem?_concat_length]
  rw [htunnel, Runs.run_cons, step_openFlow hs, Option.bind_some, Runs.run_cons, Flows.step,
    if_neg (by decide), pools_update_self, PermitPool.leave, hwaiting]
  exact ⟨_, rfl, rfl⟩

end Alone

end Flows

/-- **No flow waits for nothing**: while a call waits for a permit its pool has none to give. -/
theorem flows_busy {es : List FlowEvent} {s : Flows} (h : Runs.run Flows.step .new es = some s)
    (p : FlowPool) : (s.pools p).Busy :=
  (Flows.conserved_of_run h).busy p

/-- **Flow permits are conserved**: after any interleaving of calls of both pools, of their ends and
of dropped streams, the permits of each pool that are available, that calls hold and that streams
hold are all there are, the counters count the live streams and the calls that failed, and the next
event of one pool leaves the other as it is. -/
theorem flows_conserved {es : List FlowEvent} {s : Flows}
    (h : Runs.run Flows.step .new es = some s) :
    (∀ p, (s.pools p).limit.available + (s.pools p).holding + (s.pools p).guards.length = p.size) ∧
      s.tunnel.counters.active = s.live ∧ s.tunnel.counters.failed = s.failures ∧
      ∀ e s' q, s.step e = some s' → e.pool ≠ some q → s'.pools q = s.pools q := by
  have hs := Flows.conserved_of_run h
  exact ⟨hs.permits, hs.active, hs.failed, fun _ _ _ he hq => Flows.pools_of_step he hq⟩

/-- A flow is opened and dropped, a query fails, and a flow is given up while it connects. -/
def someFlows : List FlowEvent :=
  [.setSession (some ⟨⟨.ofOctets 198 51 100 7, 8388⟩, "pw", "aes-256-gcm"⟩)
    (some {}) none .connected,
    .openFlow .general ⟨.ofOctets 203 0 113 7, 443⟩, .openFlow .dns ⟨.ofOctets 1 1 1 1, 53⟩,
    .relay .general 0 .connected, .relay .dns 0 .timedOut,
    .openFlow .general ⟨.ofOctets 203 0 113 8, 443⟩, .cancel .general .working 0,
    .dropStream .general 0]

theorem flows_conserved_someFlows :
    ∃ s, Runs.run Flows.step .new someFlows = some s ∧ s.tunnel.counters.failed = 1 ∧
      (s.pools .dns).limit.available + (s.pools .dns).holding + (s.pools .dns).guards.length =
        8 := by
  have hrun : Runs.run Flows.step .new someFlows = some _ := rfl
  exact ⟨_, hrun, rfl, (flows_conserved hrun).1 .dns⟩

end LiosTunnel.Protocols
