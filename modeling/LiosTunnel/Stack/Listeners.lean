import LiosTunnel.Stack.Flows
import LiosTunnel.Stack.Moves

/-!
# A listener for every SYN

`ingest` injects a listener for a SYN whose pair is not armed, and queues the SYN behind it. smoltcp
matches listeners by destination only, so the listener of one client may serve another. What counts
is how many there are: as many sockets listening on a destination as SYNs with an injected listener
to it are still queued (`Enough`). A SYN queued for an armed pair brings no listener with it, and
where it takes one that a SYN behind it needs, that SYN is refused.

* `Matches`: how smoltcp matches segments and sockets.
* `refused`: the SYNs of a poll that find neither a listener nor a connection of their own.
* `Spares`: a SYN without a listener of its own takes none that is owed.
* `refused_eq_nil_of_spares`: a poll that spares the listeners refuses no SYN.
-/

namespace LiosTunnel.Stack

open Runs

variable {S : Type}

/-- What the stack does to a connection leaves it past its handshake. -/
structure Persists (api : TcpApi S) : Prop where
  setTimeout : ∀ sk t, (api.state sk).connected = true →
    (api.state (api.setTimeout sk t)).connected = true
  sendSlice : ∀ sk data n sk', api.sendSlice sk data = some (n, sk') →
    (api.state sk).connected = true → (api.state sk').connected = true
  recvAdvance : ∀ sk n, (api.state sk).connected = true →
    (api.state (api.recvAdvance sk n)).connected = true
  close : ∀ sk, (api.state sk).connected = true → (api.state (api.close sk)).connected = true
  abort : ∀ sk, (api.state sk).connected = true → (api.state (api.abort sk)).connected = true

/-- How smoltcp matches segments and sockets; `listenEnd` is a socket's `listen_endpoint`. A socket
in Listen accepts the SYNs to its endpoint, any other open socket exactly its own pair. What is not
a SYN leaves a listening socket listening, and a connection never goes back before its handshake. -/
structure Matches (wire : Wire) (api : TcpApi S) (listenEnd : S → Option SocketAddr)
    (i : Ingress S) : Prop where
  acceptsListen : ∀ sk packet src dst, inspect wire packet = .tcpSyn src dst →
    api.state sk = .listen → (i.accepts sk packet = true ↔ listenEnd sk = some dst)
  acceptsOpen : ∀ sk packet src dst, inspect wire packet = .tcpSyn src dst →
    api.state sk ≠ .listen → (i.accepts sk packet = true ↔ api.state sk ≠ .closed ∧
      api.remoteEndpoint sk = some src ∧ api.localEndpoint sk = some dst)
  processListen : ∀ sk packet, (∀ src dst, inspect wire packet ≠ .tcpSyn src dst) →
    i.accepts sk packet = true → api.state sk = .listen →
      api.state (i.process sk packet) = .listen ∧
        listenEnd (i.process sk packet) = listenEnd sk
  processConnected : ∀ sk packet, (api.state sk).connected = true →
    (api.state (i.process sk packet)).connected = true
  listen : ∀ n dst sk, api.listen (api.new n) dst = some sk → ∀ t,
    api.state (api.setTimeout sk t) = .listen ∧ listenEnd (api.setTimeout sk t) = some dst
  listens : ∀ n dst, dst.port ≠ 0 → (api.listen (api.new n) dst).isSome = true

/-- A timer leaves listening sockets listening and connections connected. -/
def Idles (api : TcpApi S) (listenEnd : S → Option SocketAddr) (f : S → S) : Prop :=
  ∀ sk, (api.state sk = .listen → api.state (f sk) = .listen ∧ listenEnd (f sk) = listenEnd sk) ∧
    ((api.state sk).connected = true → (api.state (f sk)).connected = true)

/-- The destination of a SYN. -/
def synTo (wire : Wire) (packet : Bytes) : Option SocketAddr :=
  match inspect wire packet with
  | .tcpSyn _ dst => some dst
  | _ => none

section

variable (wire : Wire) (api : TcpApi S) (listenEnd : S → Option SocketAddr) (i : Ingress S)

/-- A socket in Listen on a destination. -/
def listensOn (dst : SocketAddr) (sk : S) : Bool :=
  api.state sk == .listen && listenEnd sk == some dst

/-- How many sockets are in Listen on a destination. -/
def listening (dst : SocketAddr) (set : SocketSet S) : ℕ := set.count (listensOn api listenEnd dst)

/-- How many SYNs to a destination are queued behind a listener injected for them. -/
def owed (dst : SocketAddr) (rx : List Queued) : ℕ :=
  rx.countP fun q => q.injected && synTo wire q.packet == some dst

/-- There are as many listeners as SYNs to need them. -/
def Enough (rx : List Queued) (set : SocketSet S) : Prop :=
  ∀ dst, owed wire dst rx ≤ listening api listenEnd dst set

/-- A SYN belongs to an open connection. -/
def belongs (packet : Bytes) (set : SocketSet S) : Bool :=
  match inspect wire packet with
  | .tcpSyn src dst => set.any fun o => o.any fun sk =>
      api.state sk != .listen && api.state sk != .closed &&
        api.remoteEndpoint sk == some src && api.localEndpoint sk == some dst
  | _ => false

/-- The SYNs of a poll that, when they are processed, belong to no open connection and find no
socket in Listen on their destination. -/
def refused : List Queued → (ℕ → S → S) → SocketSet S → List Queued
  | [], _, _ => []
  | q :: rx, tick, set =>
    let set := Ingress.tickAll (tick 0) set
    let rest := refused rx (fun n => tick (n + 1)) (i.deliver q.packet set)
    match synTo wire q.packet with
    | none => rest
    | some dst =>
      if belongs wire api q.packet set || listening api listenEnd dst set != 0 then rest
      else q :: rest

/-- The socket that takes a packet. -/
def taker (packet : Bytes) : SocketSet S → Option S
  | [] => none
  | none :: set => taker packet set
  | some sk :: set => if i.accepts sk packet then some sk else taker packet set

/-- Every SYN that was queued without a listener is, when it is processed, taken by its own
connection, or there are more sockets listening on its destination than SYNs behind it that are owed
one. -/
def Spares : List Queued → (ℕ → S → S) → SocketSet S → Prop
  | [], _, _ => True
  | q :: rx, tick, set =>
    (∀ dst, synTo wire q.packet = some dst → q.injected = false →
      (taker i q.packet (Ingress.tickAll (tick 0) set)).any (api.state · != .listen) = true ∨
        owed wire dst rx < listening api listenEnd dst (Ingress.tickAll (tick 0) set)) ∧
    Spares rx (fun n => tick (n + 1)) (i.deliver q.packet (Ingress.tickAll (tick 0) set))

end

section

variable {wire : Wire} {api : TcpApi S} {listenEnd : S → Option SocketAddr} {i : Ingress S}
  {packet : Bytes} {src dst : SocketAddr} {set : SocketSet S}

theorem listensOn_iff {sk : S} :
    listensOn api listenEnd dst sk = true ↔ api.state sk = .listen ∧ listenEnd sk = some dst := by
  simp [listensOn]

theorem synTo_eq_some : synTo wire packet = some dst ↔
    ∃ src, inspect wire packet = .tcpSyn src dst := by
  rw [synTo]
  cases inspect wire packet <;> simp

theorem owed_cons (q : Queued) (rx : List Queued) : owed wire dst (q :: rx) =
    owed wire dst rx + if q.injected && synTo wire q.packet == some dst then 1 else 0 := by
  rw [owed, List.countP_cons]
  rfl

/-! ## One packet -/

theorem listening_tickAll {f : S → S} (hf : Idles api listenEnd f) (set : SocketSet S) :
    listening api listenEnd dst set ≤ listening api listenEnd dst (Ingress.tickAll f set) := by
  refine SocketSet.count_le_of_forall fun h sk hg hq => ⟨f sk, ?_, ?_⟩
  · rw [Ingress.get_tickAll, hg]
    rfl
  · rw [listensOn_iff] at hq ⊢
    obtain ⟨hstate, hend⟩ := (hf sk).1 hq.1
    exact ⟨hstate, hend.trans hq.2⟩

/-- A packet takes at most one listener away, the one that takes it. -/
theorem listening_deliver (set : SocketSet S) :
    listening api listenEnd dst set ≤ listening api listenEnd dst (i.deliver packet set) +
      if (taker i packet set).any fun sk => listensOn api listenEnd dst sk &&
        !listensOn api listenEnd dst (i.process sk packet) then 1 else 0 := by
  induction set with
  | nil => exact Nat.zero_le _
  | cons o set ih =>
    cases o with
    | none =>
      rw [Ingress.deliver, taker, listening, listening, SocketSet.count_cons, SocketSet.count_cons]
      exact ih
    | some sk =>
      rw [Ingress.deliver, taker]
      split
      · rw [listening, listening, SocketSet.count_cons, SocketSet.count_cons]
        by_cases hbefore : listensOn api listenEnd dst sk = true
        · by_cases hafter : listensOn api listenEnd dst (i.process sk packet) = true <;>
            simp [hbefore, hafter]
        · simp only [Option.any_some, hbefore, if_false, Bool.false_eq_true]
          omega
      · rw [listening, listening, SocketSet.count_cons, SocketSet.count_cons]
        simp only [listening] at ih
        omega

theorem taker_eq_some {sk : S} (h : taker i packet set = some sk) :
    some sk ∈ set ∧ i.accepts sk packet = true := by
  induction set with
  | nil => cases h
  | cons o set ih =>
    cases o with
    | none =>
      rw [taker] at h
      exact ⟨List.mem_cons_of_mem _ (ih h).1, (ih h).2⟩
    | some sk' =>
      rw [taker] at h
      split at h
      · obtain rfl := Option.some.inj h
        exact ⟨List.mem_cons_self, ‹_›⟩
      · exact ⟨List.mem_cons_of_mem _ (ih h).1, (ih h).2⟩

/-- A listener that a packet takes away was on the destination of that SYN. -/
theorem synTo_of_taken (hm : Matches wire api listenEnd i) {sk : S}
    (hacc : i.accepts sk packet = true) (hbefore : listensOn api listenEnd dst sk = true)
    (hafter : listensOn api listenEnd dst (i.process sk packet) = false) :
    synTo wire packet = some dst := by
  obtain ⟨hstate, hend⟩ := listensOn_iff.1 hbefore
  by_contra hnot
  by_cases hsyn : ∃ src' dst', inspect wire packet = .tcpSyn src' dst'
  · obtain ⟨src', dst', hsyn⟩ := hsyn
    have hend' := (hm.acceptsListen sk packet src' dst' hsyn hstate).1 hacc
    obtain rfl := Option.some.inj (hend'.symm.trans hend)
    exact hnot (synTo_eq_some.2 ⟨src', hsyn⟩)
  · have hkept := hm.processListen sk packet (fun src' dst' h => hsyn ⟨src', dst', h⟩) hacc hstate
    have hlisten := listensOn_iff.2 ⟨hkept.1, hkept.2.trans hend⟩
    rw [hafter] at hlisten
    cases hlisten

/-- A SYN that a connection takes belongs to it. -/
theorem belongs_of_taken (hm : Matches wire api listenEnd i) (hto : synTo wire packet = some dst)
    {sk : S} (hsk : taker i packet set = some sk) (hopen : api.state sk ≠ .listen) :
    belongs wire api packet set = true := by
  obtain ⟨src, hsyn⟩ := synTo_eq_some.1 hto
  obtain ⟨hmem, hacc⟩ := taker_eq_some hsk
  obtain ⟨hclosed, hremote, hlocal⟩ := (hm.acceptsOpen sk packet src dst hsyn hopen).1 hacc
  rw [belongs, hsyn]
  exact List.any_eq_true.2 ⟨some sk, hmem, by simp [hopen, hclosed, hremote, hlocal]⟩

/-- **A poll that spares the listeners refuses no SYN.** -/
theorem refused_eq_nil (hm : Matches wire api listenEnd i) {rx : List Queued} {tick : ℕ → S → S}
    (htick : ∀ n, Idles api listenEnd (tick n)) (henough : Enough wire api listenEnd rx set)
    (hsp : Spares wire api listenEnd i rx tick set) :
    refused wire api listenEnd i rx tick set = [] := by
  induction rx generalizing tick set with
  | nil => rfl
  | cons q rx ih =>
    obtain ⟨hq, hsp⟩ := hsp
    have henough' : ∀ dst, owed wire dst (q :: rx) ≤
        listening api listenEnd dst (Ingress.tickAll (tick 0) set) :=
      fun dst => (henough dst).trans (listening_tickAll (htick 0) set)
    simp only [refused]
    generalize Ingress.tickAll (tick 0) set = set' at hq hsp henough' ⊢
    have hnext : Enough wire api listenEnd rx (i.deliver q.packet set') := by
      intro dst
      have hone := @listening_deliver S api listenEnd i q.packet dst set'
      have hlist := henough' dst
      rw [owed_cons] at hlist
      split at hone
      · rename_i hlost
        obtain ⟨sk, hsk, hlost⟩ := (Option.any_eq_true _ _).1 hlost
        rw [Bool.and_eq_true, Bool.not_eq_true'] at hlost
        have hto := synTo_of_taken hm (taker_eq_some hsk).2 hlost.1 hlost.2
        cases hinj : q.injected with
        | true =>
          simp only [hinj, hto, Bool.true_and, beq_self_eq_true, if_true] at hlist
          omega
        | false =>
          obtain hopen | hspare := hq dst hto hinj
          · rw [hsk, Option.any_some, bne_iff_ne] at hopen
            exact absurd (listensOn_iff.1 hlost.1).1 hopen
          · omega
      · omega
    rw [ih (fun n => htick (n + 1)) hnext hsp]
    split
    · rfl
    · rename_i dst hto
      refine if_pos ?_
      rw [Bool.or_eq_true, bne_iff_ne]
      have hlist := henough' dst
      rw [owed_cons] at hlist
      cases hinj : q.injected with
      | true =>
        simp only [hinj, hto, Bool.true_and, beq_self_eq_true, if_true] at hlist
        exact Or.inr (by omega)
      | false =>
        obtain hopen | hspare := hq dst hto hinj
        · obtain ⟨sk, hsk, hopen⟩ := (Option.any_eq_true _ _).1 hopen
          exact Or.inl (belongs_of_taken hm hto hsk (bne_iff_ne.1 hopen))
        · exact Or.inr (by omega)

/-! ## Connections stay connections -/

namespace Persists

variable {c : Cell S} {now : ℕ}

theorem outflow {c' : Cell S} (hapi : Persists api) (h : (api.state c.socket).connected = true)
    (hmove : c.Outflow api now c') : (api.state c'.socket).connected = true := by
  cases hmove with
  | resume hp hcan hslice => exact hapi.sendSlice _ _ _ _ hslice h
  | push hp hcan hq hslice => exact hapi.sendSlice _ _ _ _ hslice h
  | fail hcan hq hslice => exact h
  | setAside hp hq => exact h
  | close hp hq hclosed => exact hapi.close _ h

theorem inflow {c' : Cell S} (hapi : Persists api) (h : (api.state c.socket).connected = true)
    (hmove : c.Inflow api now c') : (api.state c'.socket).connected = true := by
  cases hmove with
  | take hheld hkept hdata hne => exact hapi.recvAdvance _ _ h
  | skip => exact hapi.recvAdvance _ _ h
  | close hheld hcan hgone => exact hapi.close _ h
  | release => exact h

theorem pumpOutbound (hapi : Persists api) (h : (api.state c.socket).connected = true) :
    (api.state (c.pumpOutbound api now).socket).connected = true :=
  Cell.pumpOutbound_keeps (P := fun c => (api.state c.socket).connected = true)
    (fun _ _ => hapi.outflow) h

theorem pumpInbound (hapi : Persists api) (h : (api.state c.socket).connected = true) :
    (api.state (c.pumpInbound api now).socket).connected = true :=
  Cell.pumpInbound_keeps (P := fun c => (api.state c.socket).connected = true)
    (fun _ _ => hapi.inflow) h

end Persists

/-! ## Runs -/

/-- A poll delivers the packets in order, with timers that idle. -/
def Delivers (api : TcpApi S) (listenEnd : S → Option SocketAddr) (i : Ingress S) (l : Loop S)
    (p : Poll S) (tick : ℕ → S → S) : Prop :=
  (l.core.poll api p).sockets = i.pass (l.core.rx.map Queued.packet) tick l.core.sockets ∧
    ∀ n, Idles api listenEnd (tick n)

/-- What the environment is taken to do: the polls deliver, no socket is connected from this side,
and no SYN is to port zero. -/
def Fair (wire : Wire) (api : TcpApi S) (listenEnd : S → Option SocketAddr) (i : Ingress S)
    (l : Loop S) : Event S → Prop
  | .poll p => ∃ tick, Delivers api listenEnd i l p tick
  | .ingest packet => ∀ dst, synTo wire packet = some dst → dst.port ≠ 0
  | e => NeverDials api l e

theorem connected_rules (hapi : Persists api) (hm : Matches wire api listenEnd i) :
    FlowRules api (Fair wire api listenEnd i)
      (fun _ _ c => (api.state c.socket).connected = true) (fun _ => True) where
  start _ _ _ := id
  quiet _ _ := ⟨id, id, id⟩
  abort now c h := by
    rw [Cell.abortExpired]
    split
    · exact hapi.abort _ h
    · exact h
  pumpOutbound l _ _ k c _ h := hapi.pumpOutbound h
  poll l p _ hg k sk sk' fl hc hsk' h := by
    obtain ⟨tick, hpass, htick⟩ := hg
    have hev : Evolves (fun a b => (api.state a).connected = true → (api.state b).connected = true)
        l.core.sockets (i.pass (l.core.rx.map Queued.packet) tick l.core.sockets) :=
      Ingress.evolves_pass (fun _ => id) (fun _ _ _ h₁ h₂ h => h₂ (h₁ h))
        (fun n sk => (htick n sk).2) (fun packet _ sk _ => hm.processConnected sk packet) _
    obtain ⟨sk'', hsk'', hconn⟩ := hev.get_some (StackCore.cell_eq_some.1 hc).1
    rw [hpass] at hsk'
    obtain rfl := Option.some.inj (hsk''.symm.trans hsk')
    exact hconn h
  promote l hp hg k sk src dst n now depth _ hsk hlisten hsyn _ _ :=
    hapi.setTimeout _ _ (NeverDials.connected hg hp hsk hlisten hsyn)
  pumpInbound l _ _ k c _ h := hapi.pumpInbound h
  observe now c h := by
    obtain ⟨_, hobserve⟩ := c.observe_changes api now
    rw [hobserve]
    exact h
  reap _ _ _ _ := trivial
  stream l n op _ k c _ h := h
  streamRetired _ _ _ _ _ _ _ := trivial

theorem owed_append (rx rx' : List Queued) :
    owed wire dst (rx ++ rx') = owed wire dst rx + owed wire dst rx' := List.countP_append

theorem enough_nil (set : SocketSet S) : Enough wire api listenEnd [] set := fun _ => Nat.zero_le _

/-- Queueing a packet without a listener. -/
theorem Enough.queue {rx : List Queued} (h : Enough wire api listenEnd rx set) (packet : Bytes) :
    Enough wire api listenEnd (rx ++ [⟨packet, false⟩]) set := by
  intro dst
  rw [owed_append]
  exact h dst

/-- Queueing a SYN behind a listener for it. -/
theorem Enough.inject {rx : List Queued} (h : Enough wire api listenEnd rx set)
    (hto : synTo wire packet = some dst) {sk : S} (hsk : listensOn api listenEnd dst sk = true) :
    Enough wire api listenEnd (rx ++ [⟨packet, true⟩]) (set.add sk) := by
  intro dst'
  have hone : owed wire dst' [⟨packet, true⟩] = if dst = dst' then 1 else 0 := by
    simp [owed, hto, List.countP_cons]
  rw [owed_append, hone, listening, SocketSet.count_add]
  have hmore := h dst'
  rw [listening] at hmore
  split
  · rename_i heq
    rw [← heq] at hmore ⊢
    rw [if_pos hsk]
    omega
  · omega

theorem enough_ingest (hm : Matches wire api listenEnd i) {s : StackCore S}
    (h : Enough wire api listenEnd s.rx s.sockets) (packet : Bytes) :
    Enough wire api listenEnd (s.ingest api wire packet).rx (s.ingest api wire packet).sockets := by
  refine StackCore.ingest_elim (motive := fun s' => Enough wire api listenEnd s'.rx s'.sockets)
    api s packet (fun _ _ _ _ => ?_) (fun _ _ _ _ _ => ?_) (fun src dst hp _ _ => ?_)
    (fun _ _ _ => ?_) (fun _ _ _ _ _ => ?_) (fun _ _ _ _ _ => ?_) (fun _ => ?_)
  · exact h.queue packet
  · exact h
  · rw [StackCore.injectListener]
    cases hlisten : api.listen (api.new s.cfg.tcpBufferBytes) dst with
    | none => exact h.queue packet
    | some sk =>
      exact h.inject (synTo_eq_some.2 ⟨src, hp⟩) (listensOn_iff.2 (hm.listen _ _ _ hlisten _))
  · exact h.queue packet
  · exact h
  · exact h
  · exact h

/-- A SYN that is queued has a listener injected for it unless its pair was armed already. -/
theorem rx_ingest_of_syn (hm : Matches wire api listenEnd i) (s : StackCore S)
    (hsyn : inspect wire packet = .tcpSyn src dst) (hport : dst.port ≠ 0)
    (hroom : HandleMap.len s.pending < MAX_PENDING_LISTENERS) :
    (s.ingest api wire packet).rx = s.rx ++ [⟨packet, !s.nat.isArmed src dst⟩] := by
  have hinject : ∀ (nat : NatTable) src dst,
      ({ s with nat := nat }.injectListener api src dst).rx = s.rx := by
    intro nat src dst
    obtain ⟨_, _, _, h⟩ := { s with nat := nat }.injectListener_changes api src dst
    rw [h]
  refine StackCore.ingest_elim
    (motive := fun s' => s'.rx = s.rx ++ [⟨packet, !s.nat.isArmed src dst⟩]) api s packet
    (fun _ _ hp harmed => ?_) (fun _ _ _ _ hfull => ?_) (fun _ _ hp hnew _ => ?_)
    (fun _ _ hp => ?_) (fun _ _ _ hp _ => ?_) (fun _ _ _ hp _ => ?_) (fun hp => ?_)
  · cases hsyn.symm.trans hp
    rw [harmed]
    rfl
  · exact absurd hroom (not_lt.2 hfull)
  · cases hsyn.symm.trans hp
    rw [hnew, StackCore.pushRx, hinject, hm.listens _ dst hport]
    rfl
  all_goals cases hsyn.symm.trans hp

/-- The pumps touch no listener. -/
theorem enough_forFlows {s : StackCore S}
    (hconn : ∀ k c, s.cell k = some c → (api.state c.socket).connected = true)
    {rx : List Queued} (h : Enough wire api listenEnd rx s.sockets) (f : Cell S → Cell S) :
    Enough wire api listenEnd rx (s.forFlows f).sockets := by
  refine fun dst => (h dst).trans (SocketSet.count_le_of_forall fun k sk hg hq => ?_)
  rw [StackCore.get_forFlows, hg]
  cases hfl : s.flows.lookup k with
  | none => exact ⟨sk, rfl, hq⟩
  | some fl =>
    have hcell := hconn k ⟨sk, fl⟩ (StackCore.cell_eq_some.2 ⟨hg, hfl⟩)
    rw [(listensOn_iff.1 hq).1] at hcell
    cases hcell

theorem rx_dropPending (s : StackCore S) (k : ℕ) : (s.dropPending k).rx = s.rx := by
  obtain ⟨_, _, _, _, h⟩ := s.dropPending_changes k
  rw [h]

theorem rx_promote (s : StackCore S) (k : ℕ) : (s.promote api k).rx = s.rx := by
  obtain ⟨_, _, _, _, _, _, _, h⟩ := s.promote_changes api k
  rw [h]

theorem rx_retireFlow (s : StackCore S) (k : ℕ) : (s.retireFlow api k).rx = s.rx := by
  obtain ⟨_, _, _, _, _, h⟩ := s.retireFlow_changes api k
  rw [h]

/-- The passes after the poll. -/
def Phase.polled : Phase → Bool
  | .sweep | .promote | .pumpInbound | .observe | .reap => true
  | _ => false

/-- Between two polls there are listeners for the SYNs queued, and after the poll there are none. -/
structure Stocked (wire : Wire) (api : TcpApi S) (listenEnd : S → Option SocketAddr)
    (l : Loop S) : Prop where
  flows : FlowInv (fun c => (api.state c.socket).connected = true) (fun _ => True) l.core
  drained : l.phase.polled = true → l.core.rx = []
  enough : Enough wire api listenEnd l.core.rx l.core.sockets

theorem stocked_next (hapi : Persists api) (hm : Matches wire api listenEnd i) {l l' : Loop S}
    {e : Event S} (hl : Stocked wire api listenEnd l) (hg : Fair wire api listenEnd i l e)
    (h : l.next wire api e = some l') : Stocked wire api listenEnd l' := by
  have hflows := (connected_rules hapi hm).flowInv_next hl.flows hg h
  have hafter : ∀ s' : StackCore S, s'.rx = l.core.rx → l.phase.polled = true →
      s'.rx = [] ∧ Enough wire api listenEnd s'.rx s'.sockets := by
    intro s' hrx hp
    rw [hrx, hl.drained hp]
    exact ⟨rfl, enough_nil _⟩
  suffices hrest : (l'.phase.polled = true → l'.core.rx = []) ∧
      Enough wire api listenEnd l'.core.rx l'.core.sockets from ⟨hflows, hrest.1, hrest.2⟩
  clear hflows hg
  refine Loop.next_elim h (fun packet _ => ?_) (fun now _ => ?_) (fun _ => ?_) (fun _ => ?_)
    (fun p _ => ?_) (fun hp => ?_) (fun hp => ?_) (fun hp => ?_) (fun hp => ?_) (fun hp => ?_)
    (fun n op => ?_) (fun _ => ?_)
  · exact ⟨fun hp => (by cases hp), enough_ingest hm hl.enough packet⟩
  · exact ⟨fun hp => (by cases hp), hl.enough⟩
  · exact ⟨fun hp => (by cases hp), enough_forFlows hl.flows.live hl.enough _⟩
  · exact ⟨fun hp => (by cases hp), enough_forFlows hl.flows.live hl.enough _⟩
  · exact ⟨fun _ => rfl, enough_nil _⟩
  · obtain ⟨hnil, hen⟩ := hafter (l.core.sweepStaleListeners api)
      (foldl_keeps rx_dropPending _ _) (by rw [hp]; rfl)
    exact ⟨fun _ => hnil, hen⟩
  · obtain ⟨hnil, hen⟩ := hafter (l.core.promoteAccepted api)
      (foldl_keeps rx_promote _ _) (by rw [hp]; rfl)
    exact ⟨fun _ => hnil, hen⟩
  · obtain ⟨hnil, hen⟩ := hafter (l.core.pumpInbound api) rfl (by rw [hp]; rfl)
    exact ⟨fun _ => hnil, hen⟩
  · obtain ⟨hnil, hen⟩ := hafter (l.core.observeFlowStates api) rfl (by rw [hp]; rfl)
    exact ⟨fun _ => hnil, hen⟩
  · obtain ⟨hnil, hen⟩ := hafter (l.core.reapClosed api)
      (foldl_keeps rx_retireFlow _ _) (by rw [hp]; rfl)
    exact ⟨fun _ => hnil, hen⟩
  · exact ⟨hl.drained, hl.enough⟩
  · exact ⟨fun hp => (by cases hp), hl.enough⟩

/-- **No queued SYN is refused** by a poll that spares the listeners, after any fair run. -/
theorem refused_eq_nil_of_spares (hapi : Persists api) (hm : Matches wire api listenEnd i)
    {cfg : StackConfig} {es : List (Event S)} {l : Loop S}
    (hes : Guarded (Loop.next wire api) (Fair wire api listenEnd i) (.start cfg) es)
    (h : run (Loop.next wire api) (.start cfg) es = some l) {tick : ℕ → S → S}
    (htick : ∀ n, Idles api listenEnd (tick n))
    (hsp : Spares wire api listenEnd i l.core.rx tick l.core.sockets) :
    refused wire api listenEnd i l.core.rx tick l.core.sockets = [] := by
  have hstart : Stocked wire api listenEnd (.start cfg : Loop S) :=
    ⟨(connected_rules hapi hm).flowInv_start cfg, fun hp => (by cases hp), enough_nil _⟩
  have hstocked : Stocked wire api listenEnd l :=
    run_invariant (fun _ _ _ hl hg hn => stocked_next hapi hm hl hg hn) hstart hes h
  exact refused_eq_nil hm htick hstocked.enough hsp

end

/-! ## The reference socket -/

theorem Reference.persists : Persists Reference.api where
  setTimeout _ _ h := h
  sendSlice sk data n sk' hslice h := by
    simp only [Reference.api, Reference.Sock.sendSlice] at hslice
    split at hslice <;> cases hslice
    exact h
  recvAdvance _ _ h := h
  close sk h := by
    obtain ⟨state, _⟩ := sk
    cases state <;> rfl
  abort _ _ := rfl

theorem Reference.process_connected (sk : Reference.Sock) (seg : Reference.Segment)
    (h : sk.state.connected = true) : (Reference.process sk seg).state.connected = true := by
  have hreset : ∀ state : TcpState, state.connected = true →
      (Reference.afterReset state).connected = true := by
    intro state hstate
    cases state <;> first | rfl | cases hstate
  have hack : ∀ a b (state : TcpState), state.connected = true →
      (Reference.afterAck a b state).connected = true := by
    intro a b state hstate
    cases state <;> cases a <;> cases b <;> first | rfl | cases hstate
  rw [Reference.process]
  split
  · exact hreset _ h
  · split
    · rename_i hlisten
      rw [hlisten] at h
      cases h
    · split
      · exact h
      · exact hack _ _ _ h

theorem Reference.segment_of_syn {packet : Bytes} {src dst : SocketAddr}
    (hsyn : inspect Reference.wire packet = .tcpSyn src dst) :
    ∃ seg, Reference.segment packet = some seg ∧ seg.src = src ∧ seg.dst = dst ∧
      seg.syn = true ∧ seg.ack = false ∧ seg.rst = false := by
  simp only [Reference.segment, hsyn]
  exact ⟨_, rfl, rfl, rfl, rfl, rfl, rfl⟩

theorem Reference.syn_of_segment {packet : Bytes} {seg : Reference.Segment}
    (hseg : Reference.segment packet = some seg)
    (hnot : ∀ src dst, inspect Reference.wire packet ≠ .tcpSyn src dst) : seg.syn = false := by
  rw [Reference.segment] at hseg
  dsimp only at hseg
  split at hseg
  · exact absurd ‹_› (hnot _ _)
  · cases hseg
    rfl
  · cases hseg

theorem Reference.matches : Matches Reference.wire Reference.api Reference.Sock.localEnd
    Reference.ingress where
  acceptsListen sk packet src dst hsyn hstate := by
    obtain ⟨seg, hseg, -, rfl, -, hack, hrst⟩ := Reference.segment_of_syn hsyn
    have hstate : sk.state = .listen := hstate
    simp [Reference.ingress, hseg, Reference.accepts, hstate, hack, hrst]
  acceptsOpen sk packet src dst hsyn hstate := by
    obtain ⟨seg, hseg, rfl, rfl, -, -, -⟩ := Reference.segment_of_syn hsyn
    obtain ⟨state, _⟩ := sk
    cases state <;> simp_all [Reference.ingress, Reference.accepts, Reference.api, and_comm]
  processListen sk packet hnot hacc hstate := by
    have hstate : sk.state = .listen := hstate
    obtain ⟨seg, hseg, hacc⟩ := (Option.any_eq_true _ _).1 hacc
    simp only [Reference.accepts, hstate, Bool.and_eq_true, Bool.not_eq_true'] at hacc
    have hsame : Reference.ingress.process sk packet = sk := by
      simp [Reference.ingress, hseg, Reference.process, hacc.1.2, hstate,
        Reference.syn_of_segment hseg hnot]
    rw [hsame]
    exact ⟨hstate, rfl⟩
  processConnected sk packet h := by
    simp only [Reference.ingress]
    cases Reference.segment packet with
    | none => exact h
    | some seg => exact Reference.process_connected sk seg h
  listen n dst sk hlisten t := by
    simp only [Reference.api, Reference.Sock.listen] at hlisten
    split at hlisten <;> cases hlisten
    exact ⟨rfl, rfl⟩
  listens n dst hport := by
    have hopen : ¬ (dst.port = 0 ∨ TcpState.closed ≠ .closed) := by
      rintro (h | h)
      · exact hport h
      · exact h rfl
    exact congrArg Option.isSome (if_neg hopen)

theorem Reference.idles : Idles Reference.api Reference.Sock.localEnd fun sk => sk :=
  fun _ => ⟨fun h => ⟨h, rfl⟩, id⟩

instance decidableSpares (wire : Wire) (api : TcpApi S) (listenEnd : S → Option SocketAddr)
    (i : Ingress S) : (rx : List Queued) → (tick : ℕ → S → S) → (set : SocketSet S) →
      Decidable (Spares wire api listenEnd i rx tick set)
  | [], _, _ => .isTrue trivial
  | q :: rx, tick, set =>
    haveI := decidableSpares wire api listenEnd i rx (fun n => tick (n + 1))
      (i.deliver q.packet (Ingress.tickAll (tick 0) set))
    inferInstanceAs (Decidable ((∀ dst, synTo wire q.packet = some dst → _) ∧ _))

namespace Reference

/-- The polls have no timers; the destination ports are not zero. -/
def Plain (l : Loop Sock) : Event Sock → Prop
  | .poll p => (l.core.poll api p).sockets =
      ingress.pass (l.core.rx.map Queued.packet) (fun _ sk => sk) l.core.sockets
  | .ingest packet => ∀ dst, synTo wire packet = some dst → dst.port ≠ 0
  | e => NeverDials api l e

instance (l : Loop Sock) : (e : Event Sock) → Decidable (Plain l e)
  | .poll p => inferInstanceAs (Decidable ((l.core.poll api p).sockets =
      ingress.pass (l.core.rx.map Queued.packet) (fun _ sk => sk) l.core.sockets))
  | .ingest packet => inferInstanceAs (Decidable (∀ dst, synTo wire packet = some dst →
      dst.port ≠ 0))
  | .pass => inferInstanceAs (Decidable (NeverDials api l .pass))
  | .begin _ | .stream _ _ | .drain => .isTrue trivial

theorem fair_of_plain (l : Loop Sock) (e : Event Sock) (h : Plain l e) :
    Fair wire api Sock.localEnd ingress l e := by
  cases e with
  | poll p => exact ⟨fun _ sk => sk, h, fun _ => idles⟩
  | pass => exact h
  | ingest packet => exact h
  | _ => trivial

/-- A client sends its SYN again before its handshake is over, and another sends its first, up to
the poll. -/
def second : List (Event Sock) :=
  [.ingest (syn app)] ++ Loop.stepEvents 10000 poll ++
    [.ingest (syn app), .ingest (syn other), .begin 20000, .pass, .pass]

/-- A connection in its handshake is completed, reset and opened again, and another is opened, in
one batch, up to the poll. -/
def batch : List (Event Sock) :=
  [.ingest (syn app)] ++ Loop.stepEvents 10000 poll ++
    [.ingest (ack app 1 []), .ingest (rst app), .ingest (syn app), .ingest (syn other),
      .begin 20000, .pass, .pass]

theorem isSome_runs_second : (runs cfg second).isSome = true := by decide +kernel

end Reference

/-- The SYN that is sent again has no listener and needs none, and the other client's finds its
own. -/
theorem refused_eq_nil_of_spares_second :
    let l := (Reference.runs Reference.cfg Reference.second).get Reference.isSome_runs_second
    l.core.rx.map Queued.injected = [false, true] ∧
      refused Reference.wire Reference.api Reference.Sock.localEnd Reference.ingress l.core.rx
        (fun _ sk => sk) l.core.sockets = [] :=
  ⟨by decide +kernel, refused_eq_nil_of_spares Reference.persists Reference.matches
    (Guarded.mono Reference.fair_of_plain (by decide +kernel))
    (Option.some_get Reference.isSome_runs_second).symm (fun _ => Reference.idles)
    (by decide +kernel)⟩

/-- **A listener that is taken away**: the pair of the first client is still armed when its second
SYN comes, which takes the listener injected for the other client, whose SYN is refused. -/
theorem exists_refused_batch :
    ¬ ∀ (S : Type) (wire : Wire) (api : TcpApi S) (listenEnd : S → Option SocketAddr)
      (i : Ingress S), Persists api → Matches wire api listenEnd i → ∀ cfg es l,
        Guarded (Loop.next wire api) (Fair wire api listenEnd i) (.start cfg) es →
          run (Loop.next wire api) (.start cfg) es = some l →
            ∀ tick : ℕ → S → S, (∀ n, Idles api listenEnd (tick n)) →
              ∀ q ∈ refused wire api listenEnd i l.core.rx tick l.core.sockets,
                q.injected = false := by
  intro h
  have hrun : (Reference.runs Reference.cfg Reference.batch).any (fun l =>
      (refused Reference.wire Reference.api Reference.Sock.localEnd Reference.ingress l.core.rx
        (fun _ sk => sk) l.core.sockets).any Queued.injected) = true := by decide +kernel
  obtain ⟨l, hl, hrun⟩ := (Option.any_eq_true _ _).1 hrun
  obtain ⟨q, hq, hinj⟩ := List.any_eq_true.1 hrun
  have hfair := Guarded.mono Reference.fair_of_plain
    (show Guarded (Loop.next Reference.wire Reference.api) Reference.Plain
      (.start Reference.cfg) Reference.batch by decide +kernel)
  have hnot := h _ _ _ _ _ Reference.persists Reference.matches _ _ l hfair hl
    (fun _ sk => sk) (fun _ => Reference.idles) q hq
  rw [hinj] at hnot
  cases hnot

end LiosTunnel.Stack
