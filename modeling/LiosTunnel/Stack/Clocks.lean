import LiosTunnel.Stack.Moves
import LiosTunnel.Stack.Pending

/-!
# Shutdown clocks

A connection that only waits for its peer, and one whose stream is gone while its socket may still
send, has a clock, started by `observe_flow_states`. At its deadline, which the last byte moved puts
off, `abort_expired_flows` aborts the connection. A listener has its deadline from the start, and is
swept while it still listens. The loop sleeps until the first deadline.

* `nextSweepDeadline`, `pollDelay`: the first deadline, and how long to sleep for it.
* `Stamped`, `Timely`: the clocks run exactly where they should, and no deadline has passed.
* `clocks_of_run`: both after every step, and a connection past its deadline goes in that step.
-/

namespace LiosTunnel.Stack

open Runs

variable {S : Type} (api : TcpApi S)

/-- `next_sweep_deadline`. -/
def StackCore.nextSweepDeadline (s : StackCore S) : Option ℕ :=
  let listeners := s.pending.entries.filterMap fun e =>
    if s.stateIs api e.1 (· == .listen) then some (e.2.injectedAt + HANDSHAKE_TIMEOUT) else none
  let windingDown := s.flows.entries.filterMap fun e => e.2.shutdownDeadline
  (listeners ++ windingDown).min?

/-- `poll_delay`, where smoltcp's own delay is given. -/
def StackCore.pollDelay (s : StackCore S) (smoltcp : Option ℕ) (now : ℕ) : Option ℕ :=
  let sweep := (s.nextSweepDeadline api).map fun at_ => if now < at_ then at_ - now else 0
  match smoltcp, sweep with
  | some a, some b => some (min a b)
  | a, none => a
  | none, b => b

/-- What the stack relies on in sockets that are closed: an abort closes one, and nothing but
`listen` opens one again or lets it send. -/
structure StaysClosed : Prop where
  abort : ∀ sk, api.state (api.abort sk) = .closed
  maySend : ∀ sk, api.state sk = .closed → api.maySend sk = false
  sendSlice : ∀ sk data n sk', api.sendSlice sk data = some (n, sk') → api.state sk = .closed →
    api.state sk' = .closed
  recvAdvance : ∀ sk n, api.state sk = .closed → api.state (api.recvAdvance sk n) = .closed
  close : ∀ sk, api.state sk = .closed → api.state (api.close sk) = .closed

/-- A poll opens no closed socket. -/
def KeepsClosed (l : Loop S) : Event S → Prop
  | .poll p => ∀ h sk, l.core.sockets.get h = some sk → api.state sk = .closed →
      ∀ sk', (l.core.poll api p).sockets.get h = some sk' → api.state sk' = .closed
  | _ => True

/-- The condition for a clock. -/
def Cell.windsDown (c : Cell S) : Bool :=
  awaitsPeer (api.state c.socket) || (c.flow.link.outbound.isClosed && api.maySend c.socket)

/-- Every clock runs exactly where its condition holds. -/
def Stamped (s : StackCore S) : Prop :=
  ∀ k c, s.cell k = some c → (c.flow.windingDownSince.isSome ↔ c.windsDown api = true)

/-- No deadline has passed. -/
structure Timely (s : StackCore S) : Prop where
  flows : ∀ k f at_, s.flows.lookup k = some f → f.shutdownDeadline = some at_ → s.lastStep < at_
  listeners : ∀ k p, s.pending.lookup k = some p → s.stateIs api k (· == .listen) = true →
    s.lastStep < p.injectedAt + HANDSHAKE_TIMEOUT
  next : ∀ at_, s.nextSweepDeadline api = some at_ → s.lastStep < at_

variable {api} {wire : Wire} {now : ℕ}

/-! ## The clock of a connection -/

/-- The deadline of a flow is ahead. -/
def Flow.Ahead (now : ℕ) (f : Flow) : Prop := ∀ at_, f.shutdownDeadline = some at_ → now < at_

/-- A flow that has just moved a byte has time. -/
theorem Flow.ahead_of_active {f : Flow} (h : f.lastActivity = now) : f.Ahead now := by
  intro at_ hat
  obtain ⟨since, -, rfl⟩ := Option.map_eq_some_iff.1 hat
  have hmax := le_max_right since f.lastActivity
  have hpos : 0 < SHUTDOWN_TIMEOUT := by decide
  omega

/-- So does one whose clock was started just now, or is not running. -/
theorem Flow.ahead_of_since {f : Flow}
    (h : ∀ since, f.windingDownSince = some since → now ≤ since) :
    f.Ahead now := by
  intro at_ hat
  obtain ⟨since, hsince, rfl⟩ := Option.map_eq_some_iff.1 hat
  have hle := h since hsince
  have hmax := le_max_left since f.lastActivity
  have hpos : 0 < SHUTDOWN_TIMEOUT := by decide
  omega

/-- A connection in the middle of a step is closed or has time. -/
def Cell.Spared (api : TcpApi S) (now : ℕ) (c : Cell S) : Prop :=
  api.state c.socket = .closed ∨ c.flow.Ahead now

/-- The same, phase by phase: before the aborts nothing is known, and past `observe_flow_states`
only time counts. -/
def Cell.OnTime (api : TcpApi S) (phase : Phase) (now : ℕ) (c : Cell S) : Prop :=
  match phase with
  | .abort => True
  | .idle | .reap => c.flow.Ahead now
  | _ => c.Spared api now

namespace Cell.Spared

variable {c c' : Cell S}

theorem abortExpired (hapi : StaysClosed api) (now : ℕ) (c : Cell S) :
    (c.abortExpired api now).Spared api now := by
  rw [Cell.abortExpired]
  split
  · exact Or.inl (hapi.abort _)
  · rename_i hnot
    refine Or.inr fun at_ hat => ?_
    simpa [hat] using hnot

theorem outflow (hapi : StaysClosed api) (h : c.Spared api now) (hmove : c.Outflow api now c') :
    c'.Spared api now := by
  cases hmove with
  | resume => exact Or.inr (Flow.ahead_of_active rfl)
  | push => exact Or.inr (Flow.ahead_of_active rfl)
  | fail => exact h
  | setAside => exact h
  | close => exact h.imp (hapi.close _) id

theorem inflow (hapi : StaysClosed api) (h : c.Spared api now) (hmove : c.Inflow api now c') :
    c'.Spared api now := by
  cases hmove with
  | take => exact Or.inr (Flow.ahead_of_active rfl)
  | skip => exact h.imp (hapi.recvAdvance _ _) id
  | close => exact h.imp (hapi.close _) id
  | release => exact h

/-- `observe_flow_states` stops the clock of a closed connection, and starts others only now. -/
theorem observe (hapi : StaysClosed api) (h : c.Spared api now) :
    (c.observe api now).flow.Ahead now := by
  rw [Cell.observe]
  dsimp only
  split
  · rename_i hwinds
    obtain hclosed | hahead := h
    · rw [hclosed, hapi.maySend _ hclosed, Bool.and_false] at hwinds
      cases hwinds
    · cases hsince : c.flow.windingDownSince with
      | none => exact Flow.ahead_of_since fun since heq => (Option.some.inj heq).le
      | some since =>
        intro at_ hat
        refine hahead at_ ?_
        rw [Flow.shutdownDeadline, hsince]
        exact hat
  · exact Flow.ahead_of_since fun since heq => (by cases heq)

end Cell.Spared

/-- What the task does with its stream does not touch the clock. -/
theorem Flow.shutdownDeadline_useStream (f : Flow) (n : ℕ) (op : StreamOp) :
    (f.useStream n op).shutdownDeadline = f.shutdownDeadline := by
  rw [useStream]
  split <;> rfl

/-- Nor does it abort anything. -/
theorem Flow.aborted_useStream (f : Flow) (n : ℕ) (op : StreamOp) :
    (f.useStream n op).link.trace.aborted = f.link.trace.aborted := by
  rw [useStream]
  split
  · obtain ⟨_, _, _, htrace⟩ := f.link.trace_apply op
    rw [htrace]
  · rfl

theorem onTime_rules (hapi : StaysClosed api) :
    FlowRules api (KeepsClosed api) (Cell.OnTime api) (fun _ => True) where
  start _ _ _ _ := trivial
  quiet _ _ := ⟨id, id, id⟩
  abort now c _ := Cell.Spared.abortExpired hapi now c
  pumpOutbound l _ _ k c _ h :=
    Cell.pumpOutbound_keeps (P := Cell.Spared api l.core.lastStep) (fun _ _ hc => hc.outflow hapi) h
  poll l p _ hg k sk sk' fl hc hsk' h :=
    h.imp (fun hclosed => hg k sk (StackCore.cell_eq_some.1 hc).1 hclosed sk' hsk') id
  promote l _ _ k sk src dst n now depth _ _ _ _ _ _ :=
    Or.inr (Flow.ahead_of_since fun since heq => (by cases heq))
  pumpInbound l _ _ _ c _ h :=
    Cell.pumpInbound_keeps (P := Cell.Spared api l.core.lastStep) (fun _ _ hc => hc.inflow hapi) h
  observe now c h := Cell.Spared.observe hapi h
  reap _ _ _ _ := trivial
  stream l n op _ k c _ h := by
    have hahead : c.flow.Ahead l.core.lastStep → (c.useStream n op).flow.Ahead l.core.lastStep :=
      fun hc at_ hat => hc at_ ((c.flow.shutdownDeadline_useStream n op).symm.trans hat)
    revert h
    cases l.phase with
    | abort => exact id
    | idle => exact hahead
    | reap => exact hahead
    | _ => exact Or.imp id hahead
  streamRetired _ _ _ _ _ _ _ := trivial

/-! ## The deadline of a listener -/

/-- A listener, phase by phase: once the sweep is through it has time, if it listens. -/
def Pending.OnTime (api : TcpApi S) (phase : Phase) (now : ℕ) (p : Pending) (sk : S) : Prop :=
  match phase with
  | .promote | .pumpInbound | .observe | .reap | .idle =>
    api.state sk = .listen → now < p.injectedAt + HANDSHAKE_TIMEOUT
  | _ => True

theorem pendingOnTime_rules :
    PendingRules api (fun _ _ => True) (Pending.OnTime api) where
  fresh n now src dst sk _ _ := Nat.lt_add_of_pos_right (by decide)
  start _ _ _ _ _ := trivial
  quiet _ _ _ := ⟨id, id, id, id, id, id⟩
  poll _ _ _ _ _ _ _ _ _ _ _ := trivial
  sweep _ _ _ _ h := h

/-- Between two steps no deadline has passed. -/
theorem timely_of_onTime {l : Loop S} (hp : l.phase = .idle)
    (hflows : FlowInv (Cell.OnTime api l.phase l.core.lastStep) (fun _ => True) l.core)
    (hpending : PendingInv (fun _ => Pending.OnTime api l.phase l.core.lastStep) l.core) :
    Timely api l.core := by
  rw [hp] at hflows hpending
  have hflow : ∀ k f at_, l.core.flows.lookup k = some f → f.shutdownDeadline = some at_ →
      l.core.lastStep < at_ := by
    intro k f at_ hf
    obtain ⟨_, sk, -, hsk⟩ := hflows.accounted.exists_flow
      (AList.lookup_isSome.1 (Option.isSome_of_eq_some hf))
    exact hflows.live k ⟨sk, f⟩ (StackCore.cell_eq_some.2 ⟨hsk, hf⟩) at_
  have hlistener : ∀ k p, l.core.pending.lookup k = some p →
      l.core.stateIs api k (· == .listen) = true →
        l.core.lastStep < p.injectedAt + HANDSHAKE_TIMEOUT := by
    intro k p hkp hlisten
    obtain ⟨sk, hsk, hstate⟩ := (Option.any_eq_true _ _).1 hlisten
    exact hpending.holds k p sk hkp hsk (by simpa using hstate)
  refine ⟨hflow, hlistener, fun at_ hnext => ?_⟩
  obtain hmem | hmem := List.mem_append.1 (List.min?_mem hnext)
  · obtain ⟨⟨k, p⟩, he, hat⟩ := List.mem_filterMap.1 hmem
    split at hat
    · rename_i hlisten
      obtain rfl := Option.some.inj hat
      exact hlistener k p (AList.mem_lookup_iff.2 he) hlisten
    · cases hat
  · obtain ⟨⟨k, f⟩, he, hat⟩ := List.mem_filterMap.1 hmem
    exact hflow k f at_ (AList.mem_lookup_iff.2 he) hat

/-- The loop never sleeps for nothing on account of a sweep. -/
theorem Timely.pollDelay {s : StackCore S} (h : Timely api s) {smoltcp : Option ℕ} {d : ℕ}
    (hd : s.pollDelay api smoltcp s.lastStep = some d) : smoltcp = some d ∨ 0 < d := by
  cases hsweep : s.nextSweepDeadline api with
  | none =>
    simp only [StackCore.pollDelay, hsweep, Option.map_none] at hd
    exact Or.inl hd
  | some at_ =>
    have hlt := h.next at_ hsweep
    simp only [StackCore.pollDelay, hsweep, Option.map_some, hlt, if_true] at hd
    cases smoltcp with
    | none =>
      obtain rfl := Option.some.inj hd
      exact Or.inr (Nat.sub_pos_of_lt hlt)
    | some a =>
      obtain rfl := Option.some.inj hd
      obtain hle | hle := le_total a (at_ - s.lastStep)
      · exact Or.inl (congrArg some (min_eq_left hle).symm)
      · rw [min_eq_right hle]
        exact Or.inr (Nat.sub_pos_of_lt hlt)

/-! ## The end of a step -/

/-- `observe_flow_states` leaves every clock as it should be, and `reap_closed` touches none. -/
theorem stamped_of_observed {s : StackCore S} (hs : Accounted s) :
    Stamped api ((s.observeFlowStates api).reapClosed api) := by
  have hobserve : ∀ c : Cell S, (c.observe api s.lastStep).flow.windingDownSince.isSome ↔
      (c.observe api s.lastStep).windsDown api = true := by
    intro c
    rw [Cell.observe]
    dsimp only
    split
    · rename_i hwinds
      exact iff_of_true rfl hwinds
    · rename_i hnot
      exact iff_of_false (by simp) hnot
  have hinv : FlowInv (fun _ : Cell S => True) (fun _ => True) s :=
    ⟨hs, fun _ _ _ => trivial, fun _ _ => trivial⟩
  have hobserved : FlowInv
      (fun c : Cell S => c.flow.windingDownSince.isSome ↔ c.windsDown api = true) (fun _ => True)
      (s.observeFlowStates api) := hinv.forFlows fun _ c _ _ => hobserve c
  exact (hobserved.reapClosed fun _ _ _ => trivial).live

/-- The events of a step after its begin. -/
def Event.inStep : Event S → Bool
  | .pass | .poll _ | .stream _ _ => true
  | _ => false

/-- The time of a step is that of its begin. -/
theorem lastStep_next {l l' : Loop S} {e : Event S} (hin : e.inStep = true)
    (hn : l.next wire api e = some l') : l'.core.lastStep = l.core.lastStep := by
  revert hin
  exact Loop.next_elim hn (fun packet _ _ => lastStep_ingest l.core packet)
    (fun _ _ hin => (by cases hin)) (fun _ _ => rfl) (fun _ _ => rfl) (fun _ _ _ => rfl)
    (fun _ _ => lastStep_sweepStaleListeners l.core) (fun _ _ => lastStep_promoteAccepted l.core)
    (fun _ _ => rfl) (fun _ _ => rfl) (fun _ _ => lastStep_reapClosed l.core) (fun _ _ _ => rfl)
    (fun _ _ => rfl)

/-- The connection of stream `n`, aborted. -/
def Cell.Shut (api : TcpApi S) (n : ℕ) (c : Cell S) : Prop :=
  c.flow.stream = n ∧ api.state c.socket = .closed ∧ c.flow.link.trace.aborted = true

namespace Cell.Shut

variable {c c' : Cell S} {n : ℕ}

theorem outflow (hapi : StaysClosed api) (h : c.Shut api n) (hmove : c.Outflow api now c') :
    c'.Shut api n := by
  cases hmove with
  | resume _ _ hslice => exact ⟨h.1, hapi.sendSlice _ _ _ _ hslice h.2.1, h.2.2⟩
  | push _ _ _ hslice => exact ⟨h.1, hapi.sendSlice _ _ _ _ hslice h.2.1, h.2.2⟩
  | fail => exact h
  | setAside => exact h
  | close => exact ⟨h.1, hapi.close _ h.2.1, h.2.2⟩

theorem inflow (hapi : StaysClosed api) (h : c.Shut api n) (hmove : c.Inflow api now c') :
    c'.Shut api n := by
  cases hmove with
  | take => exact ⟨h.1, hapi.recvAdvance _ _ h.2.1, h.2.2⟩
  | skip => exact ⟨h.1, hapi.recvAdvance _ _ h.2.1, h.2.2⟩
  | close => exact ⟨h.1, hapi.close _ h.2.1, h.2.2⟩
  | release => exact h

theorem observe (h : c.Shut api n) : (c.observe api now).Shut api n := by
  obtain ⟨_, hobserve⟩ := c.observe_changes api now
  rw [hobserve]
  exact h

theorem useStream (h : c.Shut api n) (m : ℕ) (op : StreamOp) : (c.useStream m op).Shut api n :=
  ⟨(c.flow.stream_useStream m op).trans h.1, h.2.1, (c.flow.aborted_useStream m op).trans h.2.2⟩

end Cell.Shut

/-- A connection of stream `n` that has passed its deadline, phase by phase: it is aborted by
`abort_expired_flows`, and gone after `reap_closed`. -/
def Expiring (api : TcpApi S) (k n : ℕ) (l : Loop S) : Prop :=
  match l.phase with
  | .abort => ∃ c, l.core.cell k = some c ∧ c.flow.stream = n ∧
      ∃ at_, c.flow.shutdownDeadline = some at_ ∧ at_ ≤ l.core.lastStep
  | .idle => k ∉ l.core.flows ∧ ∃ f ∈ l.core.retired, f.stream = n ∧ f.link.trace.aborted = true
  | _ => ∃ c, l.core.cell k = some c ∧ c.Shut api n

/-- What the task of a stream does stops no connection from expiring. -/
theorem Expiring.stream {l : Loop S} {k n : ℕ} (h : Expiring api k n l) (m : ℕ) (op : StreamOp) :
    Expiring api k n ⟨l.core.stream m op, l.phase⟩ := by
  have hcell : ∀ c, l.core.cell k = some c →
      (l.core.stream m op).cell k = some (c.useStream m op) := fun c hc => by
    rw [StackCore.cell_stream, hc, Option.map_some]
  have hopen : (∃ c, l.core.cell k = some c ∧ c.Shut api n) →
      ∃ c, (l.core.stream m op).cell k = some c ∧ c.Shut api n :=
    fun ⟨c, hc, hshut⟩ => ⟨_, hcell c hc, hshut.useStream m op⟩
  unfold Expiring at h ⊢
  revert h
  dsimp only
  cases l.phase with
  | idle =>
    rintro ⟨hk, f, hf, hn, haborted⟩
    refine ⟨fun hmem => hk (HandleMap.mem_mapVal.1 hmem), f.useStream m op, ?_, ?_, ?_⟩
    · exact List.mem_map.2 ⟨f, hf, rfl⟩
    · exact (f.stream_useStream m op).trans hn
    · exact (f.aborted_useStream m op).trans haborted
  | abort =>
    rintro ⟨c, hc, hn, at_, hat, hle⟩
    refine ⟨_, hcell c hc, (c.flow.stream_useStream m op).trans hn, at_, ?_, hle⟩
    exact (c.flow.shutdownDeadline_useStream m op).trans hat
  | _ => exact hopen

/-- One event of the step takes an expiring connection on. -/
theorem expiring_next (hapi : StaysClosed api) {l l' : Loop S} {e : Event S} {k n : ℕ}
    (hacc : Accounted l.core) (h : Expiring api k n l) (hin : e.inStep = true)
    (hg : KeepsClosed api l e) (hn : l.next wire api e = some l') : Expiring api k n l' := by
  have hpass : ∀ f : Cell S → Cell S, (∀ c, c.Shut api n → (f c).Shut api n) →
      (∃ c, l.core.cell k = some c ∧ c.Shut api n) →
        ∃ c, (l.core.forFlows f).cell k = some c ∧ c.Shut api n := by
    rintro f hf ⟨c, hc, hshut⟩
    exact ⟨f c, by rw [StackCore.cell_forFlows, hc]; rfl, hf c hshut⟩
  revert hin hg
  unfold Expiring at h
  refine Loop.next_elim hn (fun packet hp hin hg => ?_) (fun now hp hin hg => ?_)
    (fun hp hin hg => ?_) (fun hp hin hg => ?_) (fun p hp hin hg => ?_) (fun hp hin hg => ?_)
    (fun hp hin hg => ?_) (fun hp hin hg => ?_) (fun hp hin hg => ?_) (fun hp hin hg => ?_)
    (fun m op hin hg => ?_) (fun hp hin hg => ?_)
  · cases hin
  · cases hin
  · rw [hp] at h
    obtain ⟨c, hc, hstream, at_, hat, hle⟩ := h
    refine ⟨c.abortExpired api l.core.lastStep, ?_, ?_⟩
    · show (l.core.forFlows _).cell k = _
      rw [StackCore.cell_forFlows, hc]
      rfl
    · rw [Cell.abortExpired, hat, Option.any_some, decide_eq_true hle, if_pos rfl]
      exact ⟨hstream, hapi.abort _, rfl⟩
  · rw [hp] at h
    exact hpass _ (fun c hc => Cell.pumpOutbound_keeps (P := Cell.Shut api n)
      (fun _ _ hc => hc.outflow hapi) hc) h
  · rw [hp] at h
    obtain ⟨c, hc, hshut⟩ := h
    obtain ⟨sk', hsk', hc'⟩ := hacc.cell_poll p hc
    exact ⟨_, hc', hshut.1,
      hg k c.socket (StackCore.cell_eq_some.1 hc).1 hshut.2.1 sk' hsk', hshut.2.2⟩
  · rw [hp] at h
    obtain ⟨c, hc, hshut⟩ := h
    exact ⟨c, (hacc.cell_sweepStaleListeners k).trans hc, hshut⟩
  · rw [hp] at h
    obtain ⟨c, hc, hshut⟩ := h
    exact ⟨c, hacc.cell_promoteAccepted hc, hshut⟩
  · rw [hp] at h
    exact hpass _ (fun c hc => Cell.pumpInbound_keeps (P := Cell.Shut api n)
      (fun _ _ hc => hc.inflow hapi) hc) h
  · rw [hp] at h
    exact hpass _ (fun c hc => hc.observe) h
  · rw [hp] at h
    obtain ⟨c, hc, hshut⟩ := h
    exact ⟨hacc.notMem_flows_reapClosed hc hshut.2.1, _,
      hacc.mem_retired_reapClosed hc hshut.2.1, hshut.1, hshut.2.2⟩
  · exact Expiring.stream h m op
  · cases hin

/-- The events of the step in a row. -/
theorem expiring_of_run (hapi : StaysClosed api) {l l' : Loop S} {k n : ℕ} {es : List (Event S)}
    (hacc : Accounted l.core) (h : Expiring api k n l)
    (hg : Guarded (Loop.next wire api) (fun l e => KeepsClosed api l e ∧ e.inStep = true) l es)
    (hrun : run (Loop.next wire api) l es = some l') : Expiring api k n l' := by
  have hkeep : ∀ (l : Loop S) e l', Accounted l.core ∧ Expiring api k n l →
      (KeepsClosed api l e ∧ e.inStep = true) → l.next wire api e = some l' →
        Accounted l'.core ∧ Expiring api k n l' :=
    fun l e l' hl hg hn => ⟨accounted_next hl.1 hn, expiring_next hapi hl.1 hl.2 hg.2 hg.1 hn⟩
  exact (run_invariant hkeep ⟨hacc, h⟩ hg hrun).2

/-- A connection whose deadline comes with a step is aborted and retired in it. -/
theorem retired_of_expired (hapi : StaysClosed api) {l l' : Loop S} (hacc : Accounted l.core)
    (hp : l.phase = .idle) {k at_ now : ℕ} {c : Cell S} (hc : l.core.cell k = some c)
    (hat : c.flow.shutdownDeadline = some at_) (hle : at_ ≤ now) {es : List (Event S)}
    (hin : ∀ e ∈ es, e.inStep = true)
    (hg : Guarded (Loop.next wire api) (KeepsClosed api) l (.begin now :: es))
    (h : run (Loop.next wire api) l (.begin now :: es) = some l') (hp' : l'.phase = .idle) :
    k ∉ l'.core.flows ∧
      ∃ f ∈ l'.core.retired, f.stream = c.flow.stream ∧ f.link.trace.aborted = true := by
  have hbegin : l.next wire api (.begin now) = some ⟨{ l.core with lastStep := now }, .abort⟩ := by
    simp only [Loop.next, hp, if_true]
  rw [run_cons, hbegin, Option.bind_some] at h
  have hstart : Expiring api k c.flow.stream ⟨{ l.core with lastStep := now }, .abort⟩ :=
    ⟨c, hc, rfl, at_, hat, hle⟩
  have hexpired : Expiring api k c.flow.stream l' :=
    expiring_of_run hapi (accounted_begin hacc now) hstart ((hg.2 _ hbegin).and_forall hin) h
  rw [Expiring, hp'] at hexpired
  exact hexpired

/-- **The clocks are right after every step.** Where `observe_flow_states` and `reap_closed` end a
step, a clock runs exactly if its connection waits for its peer, or its stream is gone while its
socket may send; between two steps no deadline has passed; and a connection whose deadline comes
with the next step is retired in that step, whatever the streams are used for meanwhile. -/
theorem clocks_of_run
    (hapi : StaysClosed api) {cfg : StackConfig} {es : List (Event S)} {l : Loop S}
    (hes : Guarded (Loop.next wire api) (KeepsClosed api) (.start cfg) es)
    (h : run (Loop.next wire api) (.start cfg) es = some l) :
    (l.phase = .observe → Stamped api ((l.core.observeFlowStates api).reapClosed api)) ∧
    (l.phase = .idle → Timely api l.core) ∧
    (l.phase = .idle → ∀ k c at_ now es' l', l.core.cell k = some c →
      c.flow.shutdownDeadline = some at_ → at_ ≤ now → (∀ e ∈ es', e.inStep = true) →
        Guarded (Loop.next wire api) (KeepsClosed api) l (.begin now :: es') →
          run (Loop.next wire api) l (.begin now :: es') = some l' → l'.phase = .idle →
            k ∉ l'.core.flows ∧ ∃ f ∈ l'.core.retired, f.stream = c.flow.stream) := by
  have hflows := (onTime_rules hapi).flowInv_of_run hes h
  have hpending :
      PendingInv (fun _ => Pending.OnTime api l.phase l.core.lastStep) l.core :=
    pendingOnTime_rules.pendingInv_of_run (guarded_trivial _ es) h
  refine ⟨fun _ => stamped_of_observed hflows.accounted,
    fun hp => timely_of_onTime hp hflows hpending, ?_⟩
  intro hp k c at_ now es' l' hc hat hle hin hg h' hp'
  obtain ⟨hgone, f, hf, hstream, -⟩ :=
    retired_of_expired hapi hflows.accounted hp hc hat hle hin hg h' hp'
  exact ⟨hgone, f, hf, hstream⟩

theorem Reference.staysClosed : StaysClosed Reference.api where
  abort _ := rfl
  maySend sk h := by
    have hstate : sk.state = .closed := h
    simp [Reference.api, Reference.Sock.maySend, hstate]
  sendSlice sk data n sk' hslice h := by
    simp only [Reference.api, Reference.Sock.sendSlice] at hslice
    split at hslice
    · obtain ⟨rfl, rfl⟩ := Prod.mk.inj (Option.some.inj hslice)
      exact h
    · cases hslice
  recvAdvance _ _ h := h
  close sk h := by
    have hstate : sk.state = .closed := h
    simp [Reference.api, Reference.Sock.close, hstate]

instance (l : Loop S) : (e : Event S) → Decidable (KeepsClosed api l e)
  | .poll p => inferInstanceAs (Decidable (∀ h sk, l.core.sockets.get h = some sk →
      api.state sk = .closed → ∀ sk', (l.core.poll api p).sockets.get h = some sk' →
        api.state sk' = .closed))
  | .ingest _ | .begin _ | .pass | .stream _ _ | .drain => .isTrue trivial

/-- A stream is dropped, and the application does not answer the FIN. -/
def unanswered : List (Event Reference.Sock) :=
  Reference.handshake ++ [.stream 0 .drop] ++ Loop.stepEvents 30000 Reference.poll

theorem isSome_runs_unanswered : (Reference.runs Reference.cfg unanswered).isSome = true := by
  decide +kernel

/-- The clocks of a connection that waits for its peer. -/
theorem clocks_of_run_unanswered :
    let l := (Reference.runs Reference.cfg unanswered).get isSome_runs_unanswered
    (l.phase = .observe →
      Stamped Reference.api ((l.core.observeFlowStates Reference.api).reapClosed Reference.api)) ∧
    (l.phase = .idle → Timely Reference.api l.core) ∧
    (l.phase = .idle → ∀ k c at_ now es' l', l.core.cell k = some c →
      c.flow.shutdownDeadline = some at_ → at_ ≤ now → (∀ e ∈ es', e.inStep = true) →
        Guarded (Loop.next Reference.wire Reference.api) (KeepsClosed Reference.api) l
            (.begin now :: es') →
          run (Loop.next Reference.wire Reference.api) l (.begin now :: es') = some l' →
            l'.phase = .idle →
              k ∉ l'.core.flows ∧ ∃ f ∈ l'.core.retired, f.stream = c.flow.stream) :=
  clocks_of_run Reference.staysClosed (by decide +kernel)
    (Option.some_get isSome_runs_unanswered).symm

example : (Reference.runs Reference.cfg unanswered).any (fun l =>
    l.core.nextSweepDeadline Reference.api == some (30000 + SHUTDOWN_TIMEOUT)) = true := by
  decide +kernel

end LiosTunnel.Stack
