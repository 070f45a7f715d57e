import LiosTunnel.Engine.Handover
import LiosTunnel.Stack.Datagram

/-!
# A DNS query and its reply

A query is a packet of an application for port 53. `ingest` surfaces it, the stack's thread hands it
to the engine, `spawn_dns_query` gives it a task, `resolve_one` asks the resolver, and the answer
goes back through a channel, a bridging task and `inject_datagram` to the device. Any of these steps
may drop the query, as its sender asks again; none of them may answer it twice or answer another.

* `Queries`, `Queries.next`: the tasks and the way back, around the thread and the engine.
* `Handover.line`: the queries on their way to the engine.
* `Kept`: what holds between events, with `Kept.next`.
* `answered_of_run`: what the applications are told.
-/

namespace LiosTunnel.Engine

open Runs Stack Dns

/-- A reply on its way to the device. Which query it answers is a ghost. -/
structure Reply where
  query : ℕ
  dg : Datagram
  deriving DecidableEq, Repr

/-- The reply of `resolve_one`: from the address that was asked to the one that asks. -/
def replyTo (query : Datagram) (answer : Bytes) : Datagram := ⟨query.dst, query.src, answer⟩

/-- Where the task of a query is. -/
inductive QueryTask
  | spawned
  /-- In `resolver.query`. -/
  | asking
  /-- In `out.send`. -/
  | replying (answer : Bytes)
  /-- Over, with the answer that it sent, if it sent one. -/
  | over (sent : Option Bytes)
  /-- Dropped before its first step. -/
  | dropped
  deriving DecidableEq, Repr

/-- The task has counted its query. -/
def QueryTask.counted : QueryTask → Bool
  | .spawned | .dropped => false
  | .asking | .replying _ | .over _ => true

/-- The thread and the engine with the queries' tasks, one for each query spawned, and the way back
of the replies. The last three fields are ghosts: the packets ingested, the replies injected and the
packets they became. -/
structure Queries (S : Type) where
  handover : Handover S
  tasks : List QueryTask
  outbound : Channel Reply
  bridge : List Reply
  dnsQueries : ℕ
  ingested : List Bytes
  injected : List Reply
  packets : List Bytes

/-- One thing that happens. -/
inductive QueriesEvent (S : Type)
  | handover (e : HandoverEvent S)
  /-- The task of a query takes its first step. -/
  | «begin» (n : ℕ)
  /-- The resolver is done with it. -/
  | answered (n : ℕ) (r : Except TunnelError Bytes)
  /-- `out.send` is done. -/
  | sent (n : ℕ)
  /-- The task is aborted. -/
  | cancel (n : ℕ)
  /-- The bridging task takes a reply; it ends where the thread is gone. -/
  | bridge (gone : Bool)
  /-- The thread injects the next reply. -/
  | inject

/-- The packet an event ingests. -/
def HandoverEvent.packet {S : Type} : HandoverEvent S → Option Bytes
  | .stack e => e.packet
  | _ => none

namespace Queries

variable {S : Type}

/-- After `SmoltcpStack::start`. -/
def start (cfg : StackConfig) : Queries S :=
  ⟨.start cfg, [], .new cfg.channelDepth, [], 0, [], [], []⟩

/-- The thread and the engine have gone on; each query the engine has taken gets a task. -/
def observe (q : Queries S) (p : Handover S) (packet : Option Bytes) : Queries S :=
  { q with
    handover := p
    tasks := q.tasks ++
      List.replicate (p.queriesSpawned.length - q.handover.queriesSpawned.length) .spawned
    ingested := q.ingested ++ packet.toList }

/-- The task of a query goes on. -/
def setTask (q : Queries S) (n : ℕ) (t : QueryTask) : Queries S :=
  { q with tasks := q.tasks.set n t }

/-- `out.send` of `resolve_one`; it waits where the channel is full. -/
def send (q : Queries S) (n : ℕ) (query : Datagram) (answer : Bytes) : Option (Queries S) :=
  match q.outbound.tryReserve with
  | .permit =>
    some { q.setTask n (.over (some answer)) with
      outbound := q.outbound.send ⟨n, replyTo query answer⟩ }
  | .closed => some (q.setTask n (.over none))
  | .full => none

/-- `core.inject_datagram` of the oldest reply. -/
def inject (set : Setters) (mtu : ℕ) (q : Queries S) (r : Reply) (rest : List Reply) : Queries S :=
  let core := StackCore.injectDatagram set mtu q.handover.stack.core r.dg
  { q with
    handover := { q.handover with stack := { q.handover.stack with core := core } }
    bridge := rest
    injected := q.injected ++ [r]
    packets := q.packets ++ core.tx.drop q.handover.stack.core.tx.length }

/-- The queries, one event at a time. -/
def next (wire : Wire) (set : Setters) (api : TcpApi S) (mtu : ℕ) (q : Queries S) :
    QueriesEvent S → Option (Queries S)
  | .handover e => (q.handover.next wire api e).map fun p => q.observe p e.packet
  | .begin n =>
    match q.tasks[n]? with
    | some .spawned => some { q.setTask n .asking with dnsQueries := q.dnsQueries + 1 }
    | _ => none
  | .answered n r =>
    match q.tasks[n]? with
    | some .asking =>
      match r with
      | .ok answer => some (q.setTask n (.replying answer))
      -- no reply: the application asks again
      | .error _ => some (q.setTask n (.over none))
    | _ => none
  | .sent n =>
    match q.tasks[n]?, q.handover.queriesSpawned[n]? with
    | some (.replying answer), some query => q.send n query answer
    | _, _ => none
  | .cancel n =>
    match q.tasks[n]? with
    | some .spawned => some (q.setTask n .dropped)
    | some .asking | some (.replying _) => some (q.setTask n (.over none))
    | _ => none
  | .bridge gone =>
    match q.outbound.tryRecv with
    | (.item r, outbound) =>
      if gone then
        if q.handover.position = .exited then some { q with outbound := outbound.dropReceiver }
        else none
      else some { q with outbound := outbound, bridge := q.bridge ++ [r] }
    | _ => none
  | .inject =>
    match q.handover.position, q.bridge with
    | .reading, r :: rest => some (q.inject set mtu r rest)
    | _, _ => none

end Queries

/-! ## On the way to the engine -/

/-- The datagrams the thread holds. -/
def Position.rest : Position → List Datagram
  | .datagrams rest => rest
  | _ => []

/-- The queries that were handed over, are being handed over or wait for the end of the step. -/
def Handover.line {S : Type} (p : Handover S) : List Datagram :=
  p.datagramsQueued ++ p.position.rest ++ p.stack.core.datagrams

section

variable {S : Type} {wire : Wire} {api : TcpApi S}

/-- A packet surfaces its datagram, and nothing else does. -/
theorem datagrams_of_next {l l' : Loop S} {e : Event S} (he : e ≠ .drain)
    (hn : l.next wire api e = some l') :
    l'.core.datagrams = l.core.datagrams ++ e.packet.elim [] (datagramOf wire) := by
  have hdrop (s : StackCore S) (k : ℕ) : (s.dropPending k).datagrams = s.datagrams := by
    obtain ⟨_, _, _, _, h⟩ := s.dropPending_changes k
    rw [h]
  have hpromote (s : StackCore S) (k : ℕ) : (s.promote api k).datagrams = s.datagrams := by
    obtain ⟨_, _, _, _, _, _, _, h⟩ := s.promote_changes api k
    rw [h]
  have hretire (s : StackCore S) (k : ℕ) : (s.retireFlow api k).datagrams = s.datagrams := by
    obtain ⟨_, _, _, _, _, h⟩ := s.retireFlow_changes api k
    rw [h]
  revert he
  refine Loop.next_elim hn (fun packet _ _ => ?_) (fun now _ _ => ?_) (fun _ _ => ?_)
    (fun _ _ => ?_) (fun p _ _ => ?_) (fun _ _ => ?_) (fun _ _ => ?_) (fun _ _ => ?_)
    (fun _ _ => ?_) (fun _ _ => ?_) (fun n op _ => ?_) (fun _ he => absurd rfl he)
  case refine_1 => exact (ingest_met l.core packet).datagrams
  all_goals simp only [Event.packet, Option.elim_none, List.append_nil]
  case refine_6 => exact foldl_keeps hdrop _ _
  case refine_7 => exact foldl_keeps hpromote _ _
  case refine_10 => exact foldl_keeps hretire _ _
  all_goals rfl

variable {p p' : Handover S}

/-- **No query is invented or repeated on its way**: an event adds what its packet surfaces, and may
drop some of what is there. -/
theorem line_of_next {e : HandoverEvent S} (hn : p.next wire api e = some p') :
    p'.line.Sublist (p.line ++ e.packet.elim [] (datagramOf wire)) := by
  have hobserve (position : Position) {e : Event S} {l : Loop S} (he : e ≠ .drain)
      (hl : p.stack.next wire api e = some l) (hrest : position.rest = p.position.rest) :
      ({ p.observe l with position := position } : Handover S).line.Sublist
        (p.line ++ e.packet.elim [] (datagramOf wire)) := by
    have hdatagrams := datagrams_of_next he hl
    simp only [Handover.line, Handover.observe, hrest, hdatagrams, List.append_assoc]
    exact List.Sublist.refl _
  have hsame (h : p'.line = p.line) : p'.line.Sublist (p.line ++ []) := by
    rw [h, List.append_nil]
  cases e with
  | stack e =>
    simp only [Handover.next] at hn
    split at hn
    case h_5 =>
      rename_i hp
      obtain ⟨l, hl, rfl⟩ := Option.map_eq_some_iff.1 hn
      exact hobserve _ (by simp) hl (by rw [hp]; rfl)
    case h_6 => cases hn
    all_goals
      obtain ⟨l, hl, rfl⟩ := Option.map_eq_some_iff.1 hn
      exact hobserve p.position (by simp) hl rfl
  | advance =>
    refine (?_ : p'.line.Sublist p.line).trans (List.sublist_append_left _ _)
    simp only [Handover.next] at hn
    split at hn
    · rename_i hp
      obtain rfl := Option.some.inj hn
      split <;> simp [Handover.line, Handover.exit, Position.rest, hp]
    · rename_i hp
      split at hn
      · obtain rfl := Option.some.inj hn
        simp [Handover.line, Handover.takeAccepts, Position.rest, hp]
      · cases hn
    · rename_i hp
      obtain rfl := Option.some.inj hn
      have htake : p.takeDatagrams.line.Sublist p.line := by
        simp [Handover.line, Handover.takeDatagrams, Position.rest, hp]
      rw [Handover.sendFlow]
      split
      · exact htake
      · split
        · exact List.Sublist.refl _
        · exact htake
        · simp [Handover.line, Handover.exit, Position.rest, hp]
    · rename_i rest hp
      obtain rfl := Option.some.inj hn
      cases rest with
      | nil => simp [Handover.line, Handover.sendDatagram, Position.rest, hp]
      | cons dg rest =>
        have hdropped : ({ p with position := .waiting } : Handover S).line.Sublist p.line := by
          simp [Handover.line, Position.rest, hp]
        rw [Handover.sendDatagram]
        split
        · simp [Handover.line, Position.rest, hp]
        · exact hdropped
        · exact hdropped
    · cases hn
  | wait failed =>
    refine hsame ?_
    simp only [Handover.next] at hn
    split at hn
    · rename_i hp
      obtain rfl := Option.some.inj hn
      split <;> simp [Handover.line, Handover.exit, Position.rest, hp]
    · cases hn
  | _ =>
    refine hsame ?_
    simp only [Handover.next] at hn
    repeat' split at hn
    all_goals cases hn
    all_goals rfl

/-- The engine takes the queries one by one. -/
theorem queriesSpawned_of_next {e : HandoverEvent S} (hn : p.next wire api e = some p') :
    p.queriesSpawned <+: p'.queriesSpawned := by
  have hsame (h : p'.queriesSpawned = p.queriesSpawned) :
      p.queriesSpawned <+: p'.queriesSpawned := by
    rw [h]
  cases e with
  | recvDatagram =>
    simp only [Handover.next] at hn
    split at hn
    · split at hn <;> cases hn
      · exact List.prefix_append _ _
      · exact List.prefix_rfl
    · cases hn
  | advance =>
    refine hsame ?_
    simp only [Handover.next] at hn
    split at hn
    · obtain rfl := Option.some.inj hn
      split <;> rfl
    · split at hn <;> cases hn
      rfl
    · obtain rfl := Option.some.inj hn
      rw [Handover.sendFlow]
      repeat' split
      all_goals rfl
    · obtain rfl := Option.some.inj hn
      rename_i rest _
      cases rest with
      | nil => rfl
      | cons dg rest =>
        rw [Handover.sendDatagram]
        split <;> rfl
    · cases hn
  | stack e =>
    refine hsame ?_
    simp only [Handover.next] at hn
    split at hn
    case h_6 => cases hn
    all_goals
      obtain ⟨l, hl, rfl⟩ := Option.map_eq_some_iff.1 hn
      rfl
  | wait failed =>
    refine hsame ?_
    simp only [Handover.next] at hn
    split at hn
    · obtain rfl := Option.some.inj hn
      split <;> rfl
    · cases hn
  | _ =>
    refine hsame ?_
    simp only [Handover.next] at hn
    repeat' split at hn
    all_goals cases hn
    all_goals rfl

end

/-! ## On the way back -/

/-- A packet carries a datagram to the device: whole, or where it does not fit, truncated. -/
structure Carries (wire : Wire) (mtu : ℕ) (packet : Bytes) (dg : Datagram) : Prop where
  length : packet.length ≤ mtu
  reads : ∃ payload, inspect wire packet = .udp dg.src dg.dst payload ∧
    (28 + dg.payload.length ≤ mtu → payload = dg.payload) ∧
    (mtu < 28 + dg.payload.length → IsTruncated dg.payload payload)

/-- The endpoints of a query are of the family that is inspected. -/
theorem isIpv4_of_mem_datagramOf {wire : Wire} {packet : Bytes} {dg : Datagram}
    (h : dg ∈ datagramOf wire packet) : dg.IsIpv4 ∧ dg.dst.port = 53 := by
  unfold datagramOf at h
  split at h
  · rename_i src dst payload hinspect
    split at h
    · rename_i hport
      obtain rfl := List.mem_singleton.1 h
      refine ⟨?_, hport⟩
      unfold inspect at hinspect
      repeat' split at hinspect
      all_goals cases hinspect
      exact ⟨rfl, rfl⟩
    · cases h
  · cases h

section

variable {S : Type} {wire : Wire} {set : Setters} {mtu : ℕ}

/-- What a reply between IPv4 endpoints becomes. -/
theorem injectDatagram_of_isIpv4 (h : Standard wire set) (core : StackCore S) (hmin : 40 ≤ mtu)
    (hmax : mtu ≤ 65535) {dg : Datagram} (hdg : dg.IsIpv4) :
    ∃ packet, StackCore.injectDatagram set mtu core dg = core.pushTx packet ∧
      Carries wire mtu packet dg := by
  obtain ⟨⟨srcIp, srcPort⟩, ⟨dstIp, dstPort⟩, answer⟩ := dg
  obtain ⟨hsrc, hdst⟩ := hdg
  cases srcIp with
  | v6 a => cases hsrc
  | v4 src =>
    cases dstIp with
    | v6 a => cases hdst
    | v4 dst =>
      obtain ⟨reply, hreply⟩ : ∃ reply, reply = StackCore.replyPayload mtu answer := ⟨_, rfl⟩
      have hcases := replyPayload_cases hmin answer
      rw [← hreply] at hcases
      have hfits : 28 + reply.length ≤ mtu := by
        rcases hcases with ⟨hle, rfl⟩ | ⟨-, htrunc⟩
        · exact hle
        · rw [htrunc.length]
          omega
      obtain ⟨packet, hbuild, hlen, hinspect⟩ := inspect_buildUdpPacket src dst srcPort dstPort h
        (show reply.length ≤ MAX_UDP_PAYLOAD by rw [MAX_UDP_PAYLOAD]; omega)
      refine ⟨packet, by rw [StackCore.injectDatagram, ← hreply, hbuild], by omega, reply, hinspect,
        fun hle => ?_, fun hlt => ?_⟩
      · rcases hcases with ⟨-, heq⟩ | ⟨hlt, -⟩
        · exact heq
        · exact absurd hlt (Nat.not_lt.2 hle)
      · rcases hcases with ⟨hle, -⟩ | ⟨-, htrunc⟩
        · exact absurd hlt (Nat.not_lt.2 hle)
        · exact htrunc

end

namespace Queries

variable {S : Type}

/-- The replies sent so far, from the first injected to the last sent. -/
def replies (q : Queries S) : List Reply := q.injected ++ q.bridge ++ q.outbound.queue

/-- A reply answers the query it is sent for, with what that query's task has sent. -/
def Answers (q : Queries S) (r : Reply) : Prop :=
  ∃ query answer, q.handover.queriesSpawned[r.query]? = some query ∧
    q.tasks[r.query]? = some (.over (some answer)) ∧ r.dg = replyTo query answer

end Queries

/-- What holds between events. -/
structure Kept {S : Type} (wire : Wire) (mtu : ℕ) (q : Queries S) : Prop where
  conserved : Conserved q.handover
  tasks : q.tasks.length = q.handover.queriesSpawned.length
  counted : q.dnsQueries = q.tasks.countP QueryTask.counted
  line : q.handover.line.Sublist (q.ingested.flatMap (datagramOf wire))
  once : (q.replies.map Reply.query).Nodup
  answers : ∀ r ∈ q.replies, q.Answers r
  wired : List.Forall₂ (fun packet r => Carries wire mtu packet r.dg) q.packets q.injected

/-- What is there stays where it is when a list grows. -/
theorem getElem?_append_of_some {α : Type} {l : List α} {n : ℕ} {x : α} (h : l[n]? = some x)
    (more : List α) : (l ++ more)[n]? = some x :=
  (List.getElem?_append_left (List.getElem?_eq_some_iff.1 h).1).trans h

namespace Kept

variable {S : Type} {wire : Wire} {set : Setters} {api : TcpApi S} {mtu : ℕ} {q q' : Queries S}

theorem start (cfg : StackConfig) : Kept wire mtu (.start cfg : Queries S) where
  conserved := .start cfg
  tasks := rfl
  counted := rfl
  line := List.Sublist.refl _
  once := List.nodup_nil
  answers _ h := nomatch h
  wired := .nil

/-- What was spawned was surfaced. -/
theorem spawned (h : Kept wire mtu q) :
    q.handover.queriesSpawned.Sublist (q.ingested.flatMap (datagramOf wire)) := by
  refine List.Sublist.trans ?_ h.line
  rw [Handover.line, List.append_assoc]
  exact h.conserved.datagrams.inOrder.sublist.trans (List.sublist_append_left _ _)

theorem isIpv4_of_mem (h : Kept wire mtu q) {query : Datagram}
    (hquery : query ∈ q.handover.queriesSpawned) : query.IsIpv4 := by
  obtain ⟨packet, -, hdg⟩ := List.mem_flatMap.1 (h.spawned.subset hquery)
  exact (isIpv4_of_mem_datagramOf hdg).1

/-- A task that has sent nothing yet goes on, and may count its query. -/
theorem setTask (h : Kept wire mtu q) {n : ℕ} {t u : QueryTask} (ht : q.tasks[n]? = some t)
    (hnot : ∀ sent, t ≠ .over (some sent)) {k : ℕ}
    (hk : k + t.counted.toNat = q.dnsQueries + u.counted.toNat) :
    Kept wire mtu { q.setTask n u with dnsQueries := k } where
  conserved := h.conserved
  tasks := by
    rw [Queries.setTask, List.length_set]
    exact h.tasks
  counted := by
    obtain ⟨hn, rfl⟩ := List.getElem?_eq_some_iff.1 ht
    have hone : (q.tasks[n]).counted.toNat ≤ q.tasks.countP QueryTask.counted := by
      cases hc : (q.tasks[n]).counted
      · exact Nat.zero_le _
      · exact List.countP_pos_iff.2 ⟨_, List.getElem_mem hn, hc⟩
    have hset : (q.tasks.set n u).countP QueryTask.counted =
        q.tasks.countP QueryTask.counted - (q.tasks[n]).counted.toNat + u.counted.toNat := by
      rw [List.countP_set hn]
      cases (q.tasks[n]).counted <;> cases u.counted <;> rfl
    have hcounted := h.counted
    show k = (q.tasks.set n u).countP QueryTask.counted
    omega
  line := h.line
  once := h.once
  answers r hr := by
    obtain ⟨query, answer, hquery, htask, hdg⟩ := h.answers r hr
    refine ⟨query, answer, hquery, ?_, hdg⟩
    have hne : n ≠ r.query := by
      rintro rfl
      exact hnot answer (Option.some.inj (ht.symm.trans htask))
    exact (List.getElem?_set_ne hne).trans htask
  wired := h.wired

theorem observe (h : Kept wire mtu q) {p : Handover S} {e : HandoverEvent S}
    (hn : q.handover.next wire api e = some p) : Kept wire mtu (q.observe p e.packet) where
  conserved := h.conserved.next hn
  tasks := by
    have hle := (queriesSpawned_of_next hn).length_le
    rw [Queries.observe, List.length_append, List.length_replicate, h.tasks]
    exact Nat.add_sub_cancel' hle
  counted := by
    rw [Queries.observe, List.countP_append]
    exact h.counted.trans (by simp [QueryTask.counted])
  line := by
    refine (line_of_next hn).trans ?_
    have hone : e.packet.elim [] (datagramOf wire) = e.packet.toList.flatMap (datagramOf wire) := by
      cases e.packet <;> simp
    rw [Queries.observe, List.flatMap_append, hone]
    exact h.line.append (List.Sublist.refl _)
  once := h.once
  answers r hr := by
    obtain ⟨query, answer, hquery, htask, hdg⟩ := h.answers r hr
    refine ⟨query, answer, ?_, ?_, hdg⟩
    · obtain ⟨more, hmore⟩ := queriesSpawned_of_next hn
      exact hmore ▸ getElem?_append_of_some hquery more
    · exact getElem?_append_of_some htask _
  wired := h.wired

/-- `out.send` of a task that has an answer: the task is over, and its query has one reply more. -/
theorem send (h : Kept wire mtu q) {n : ℕ} {query : Datagram} {answer : Bytes}
    (htask : q.tasks[n]? = some (.replying answer))
    (hquery : q.handover.queriesSpawned[n]? = some query) (hs : q.send n query answer = some q') :
    Kept wire mtu q' := by
  have hnot : ∀ sent, QueryTask.replying answer ≠ .over (some sent) := fun _ h => nomatch h
  unfold Queries.send at hs
  split at hs
  · obtain rfl := Option.some.inj hs
    have hset := h.setTask (u := .over (some answer)) htask hnot rfl
    have hreplies : ∀ r ∈ q.replies, r.query ≠ n := by
      rintro r hr rfl
      obtain ⟨_, _, -, hover, -⟩ := h.answers r hr
      exact hnot _ (Option.some.inj (htask.symm.trans hover))
    have hself : (q.tasks.set n (.over (some answer)))[n]? = some (.over (some answer)) :=
      List.getElem?_set_self (List.getElem?_eq_some_iff.1 htask).1
    refine ⟨hset.conserved, hset.tasks, hset.counted, hset.line, ?_, ?_, hset.wired⟩
    · have honce : ((q.replies ++ [Reply.mk n (replyTo query answer)]).map Reply.query).Nodup := by
        rw [List.map_append]
        refine List.nodup_append.2 ⟨h.once, List.nodup_singleton _, ?_⟩
        intro m hm k hk
        obtain ⟨r, hr, rfl⟩ := List.mem_map.1 hm
        rw [List.mem_singleton.1 hk]
        exact hreplies r hr
      simpa [Queries.replies, Queries.setTask, Channel.send] using honce
    · intro r hr
      have hr : r ∈ q.replies ++ [Reply.mk n (replyTo query answer)] := by
        simpa [Queries.replies, Queries.setTask, Channel.send] using hr
      rcases List.mem_append.1 hr with hr | hr
      · exact hset.answers r hr
      · obtain rfl := List.mem_singleton.1 hr
        exact ⟨query, answer, hquery, hself, rfl⟩
  · obtain rfl := Option.some.inj hs
    exact h.setTask htask hnot rfl
  · cases hs

/-- The replies on their way are fewer or further on. -/
theorem shift (h : Kept wire mtu q) {outbound : Channel Reply} {bridge : List Reply}
    (hsub : (q.injected ++ bridge ++ outbound.queue).Sublist q.replies) :
    Kept wire mtu { q with outbound := outbound, bridge := bridge } :=
  ⟨h.conserved, h.tasks, h.counted, h.line, h.once.sublist (hsub.map _),
    fun r hr => h.answers r (hsub.subset hr), h.wired⟩

theorem inject (h : Kept wire mtu q) (hstandard : Standard wire set) (hmin : 40 ≤ mtu)
    (hmax : mtu ≤ 65535) {r : Reply} {rest : List Reply} (hbridge : q.bridge = r :: rest) :
    Kept wire mtu (q.inject set mtu r rest) := by
  have hmem : r ∈ q.replies := by simp [Queries.replies, hbridge]
  obtain ⟨query, answer, hquery, -, hdg⟩ := h.answers r hmem
  have hipv4 : r.dg.IsIpv4 := by
    obtain ⟨hsrc, hdst⟩ := h.isIpv4_of_mem (List.mem_of_getElem? hquery)
    rw [hdg]
    exact ⟨hdst, hsrc⟩
  obtain ⟨packet, hinject, hcarries⟩ :=
    injectDatagram_of_isIpv4 hstandard q.handover.stack.core hmin hmax hipv4
  have hreplies : (q.inject set mtu r rest).replies = q.replies := by
    simp [Queries.inject, Queries.replies, hbridge]
  have hpackets : (q.inject set mtu r rest).packets = q.packets ++ [packet] := by
    simp [Queries.inject, hinject, StackCore.pushTx]
  have hc := h.conserved
  refine ⟨?_, h.tasks, h.counted, ?_, ?_, fun r' hr' => h.answers r' (hreplies ▸ hr'), ?_⟩
  · simp only [Queries.inject, hinject, StackCore.pushTx]
    exact ⟨hc.numbered, hc.inOrder, hc.held, hc.flows, hc.datagrams, hc.returned, hc.exits⟩
  · simp only [Queries.inject, hinject, StackCore.pushTx]
    exact h.line
  · rw [hreplies]
    exact h.once
  · rw [hpackets]
    exact List.rel_append h.wired (.cons hcarries .nil)

/-- **One event keeps what holds.** -/
theorem next (h : Kept wire mtu q) (hstandard : Standard wire set) (hmin : 40 ≤ mtu)
    (hmax : mtu ≤ 65535) {e : QueriesEvent S} (hn : q.next wire set api mtu e = some q') :
    Kept wire mtu q' := by
  cases e with
  | handover e =>
    obtain ⟨p, hp, rfl⟩ := Option.map_eq_some_iff.1 hn
    exact h.observe hp
  | «begin» n =>
    simp only [Queries.next] at hn
    split at hn
    · rename_i htask
      obtain rfl := Option.some.inj hn
      exact h.setTask htask (fun _ h => nomatch h) rfl
    · cases hn
  | answered n r =>
    simp only [Queries.next] at hn
    split at hn
    · rename_i htask
      split at hn <;> obtain rfl := Option.some.inj hn <;>
        exact h.setTask htask (fun _ h => nomatch h) rfl
    · cases hn
  | sent n =>
    simp only [Queries.next] at hn
    split at hn
    · rename_i htask hquery
      exact h.send htask hquery hn
    · cases hn
  | cancel n =>
    simp only [Queries.next] at hn
    split at hn
    · rename_i htask
      obtain rfl := Option.some.inj hn
      exact h.setTask htask (fun _ h => nomatch h) rfl
    · rename_i htask
      obtain rfl := Option.some.inj hn
      exact h.setTask htask (fun _ h => nomatch h) rfl
    · rename_i htask
      obtain rfl := Option.some.inj hn
      exact h.setTask htask (fun _ h => nomatch h) rfl
    · cases hn
  | bridge gone =>
    simp only [Queries.next] at hn
    split at hn
    · rename_i r outbound hrecv
      obtain ⟨queue, hqueue, rfl⟩ := Channel.tryRecv_eq_item.1 hrecv
      split at hn
      · split at hn
        · obtain rfl := Option.some.inj hn
          refine h.shift ?_
          simp [Queries.replies, Channel.dropReceiver]
        · cases hn
      · obtain rfl := Option.some.inj hn
        refine h.shift ?_
        simp [Queries.replies, hqueue]
    · cases hn
  | inject =>
    simp only [Queries.next] at hn
    split at hn
    · rename_i hbridge
      obtain rfl := Option.some.inj hn
      exact h.inject hstandard hmin hmax hbridge
    · cases hn

end Kept

/-- **What the applications are told**: after any events of the thread, the engine, the resolver,
the queries' tasks and the bridge, in any order, the queries that were given a task are among the
packets for port 53, in their order and each at most once; every packet that was injected is read
back as the answer to one of them, from the address it asked to the one that asked, and no query has
two; and `dns_queries` counts the tasks that have begun. -/
theorem answered_of_run {S : Type} {wire : Wire} {set : Setters} {api : TcpApi S} {mtu : ℕ}
    {cfg : StackConfig} {q : Queries S} {es : List (QueriesEvent S)}
    (hstandard : Standard wire set) (hmin : 40 ≤ mtu) (hmax : mtu ≤ 65535)
    (hrun : run (Queries.next wire set api mtu) (.start cfg) es = some q) :
    q.handover.queriesSpawned.Sublist (q.ingested.flatMap (datagramOf wire)) ∧
      (q.injected.map Reply.query).Nodup ∧
      List.Forall₂ (fun packet r => ∃ query answer,
        q.handover.queriesSpawned[r.query]? = some query ∧
        q.tasks[r.query]? = some (.over (some answer)) ∧
        Carries wire mtu packet (replyTo query answer)) q.packets q.injected ∧
      q.dnsQueries = q.tasks.countP QueryTask.counted := by
  have h : Kept wire mtu q := run_invariant_of_step
    (fun _ _ _ h hn => Kept.next h hstandard hmin hmax hn) (.start cfg) hrun
  refine ⟨h.spawned, ?_, ?_, h.counted⟩
  · have honce := h.once
    rw [Queries.replies, List.append_assoc, List.map_append] at honce
    exact honce.of_append_left
  · obtain ⟨hlength, hcarries⟩ := List.forall₂_iff_zip.1 h.wired
    refine List.forall₂_iff_zip.2 ⟨hlength, fun {packet r} hzip => ?_⟩
    have hr : r ∈ q.replies := by simp [Queries.replies, (List.of_mem_zip hzip).2]
    obtain ⟨query, answer, hquery, htask, hdg⟩ := h.answers r hr
    exact ⟨query, answer, hquery, htask, hdg ▸ hcarries hzip⟩

/-- An application's query, from 10.90.0.2 to port 53 of 10.90.0.1. -/
def queryPacket : Bytes :=
  [69, 0, 0, 30, 0, 0, 64, 0, 64, 17, 38, 25, 10, 90, 0, 2, 10, 90, 0, 1, 200, 34, 0, 53, 0, 10,
    118, 254, 171, 205]

/-- A pass of the thread's loop in which it arrives and is handed over. -/
def queryPass : List (HandoverEvent Reference.Sock) :=
  [.advance, .stack (.ingest queryPacket)] ++ (Loop.stepEvents 1 Reference.poll).map .stack ++
    [.advance, .advance, .advance, .advance, .recvDatagram]

/-- It is resolved, and its reply is injected in the next pass. -/
def lookUp : List (QueriesEvent Reference.Sock) :=
  queryPass.map .handover ++
    [.begin 0, .answered 0 (.ok [171, 205, 129, 128]), .sent 0, .bridge false,
      .handover (.wait false), .handover .advance, .inject]

/-- Where it leads. -/
abbrev lookedUp : Option (Queries Reference.Sock) :=
  run (Queries.next Layout.wire Layout.setters Reference.api 1500) (.start ⟨4096, 1⟩) lookUp

theorem isSome_lookedUp : lookedUp.isSome = true := by decide +kernel

theorem answered_of_run_lookUp :
    let q := lookedUp.get isSome_lookedUp
    q.packets.length = 1 ∧ (q.injected.map Reply.query).Nodup ∧
      List.Forall₂ (fun packet r => ∃ query answer,
        q.handover.queriesSpawned[r.query]? = some query ∧
        q.tasks[r.query]? = some (.over (some answer)) ∧
        Carries Layout.wire 1500 packet (replyTo query answer)) q.packets q.injected := by
  intro q
  have hrun : lookedUp = some q := (Option.some_get isSome_lookedUp).symm
  obtain ⟨-, honce, hcarries, -⟩ :=
    answered_of_run Layout.standard (show 40 ≤ 1500 by omega) (by omega) hrun
  exact ⟨by decide +kernel, honce, hcarries⟩

end LiosTunnel.Engine
