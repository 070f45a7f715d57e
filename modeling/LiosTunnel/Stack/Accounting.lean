import LiosTunnel.Stack.Reference

/-!
# The accounting of sockets, listeners and packets

Four collections of the core are updated by several operations: the socket set, the armed set, the
pending listeners and the flows. `Accounted` says how they agree: the handles in use are the
pending listeners' and the flows', apart from each other, and the armed pairs are the pending ones',
each once. It holds after any events, whatever the polls do.

* `Accounted`: the invariant, kept by every operation.
* `Fate`, `StackCore.fate`, `StackCore.count`: what becomes of a packet, and where it is counted.
* `accounted_of_run`: the collections agree after every run, and every packet ingested is counted
  once.
-/

namespace LiosTunnel.Stack

open Runs

variable {S : Type} {api : TcpApi S} {wire : Wire} {s : StackCore S} {k : ℕ}

/-- How the collections of the core agree. -/
structure Accounted (s : StackCore S) : Prop where
  occupied : ∀ h, (s.sockets.get h).isSome ↔ h ∈ s.pending ∨ h ∈ s.flows
  disjoint : ∀ h, h ∈ s.pending → h ∉ s.flows
  armed : ∀ pair, pair ∈ s.nat.armed ↔ ∃ h p, s.pending.lookup h = some p ∧ (p.src, p.dst) = pair
  unique : ∀ h h' p p', s.pending.lookup h = some p → s.pending.lookup h' = some p' →
    (p.src, p.dst) = (p'.src, p'.dst) → h = h'
  bounded : HandleMap.len s.pending ≤ MAX_PENDING_LISTENERS
  calm : s.panicked = false

theorem accounted_new (cfg : StackConfig) : Accounted (StackCore.new cfg : StackCore S) := by
  refine ⟨?_, ?_, ?_, ?_, ?_, rfl⟩ <;> simp [StackCore.new, HandleMap.len]

namespace Accounted

theorem exists_pending (h : Accounted s) (hk : k ∈ s.pending) :
    ∃ p sk, s.pending.lookup k = some p ∧ s.sockets.get k = some sk := by
  obtain ⟨p, hp⟩ := Option.isSome_iff_exists.1 (AList.lookup_isSome.2 hk)
  obtain ⟨sk, hsk⟩ := Option.isSome_iff_exists.1 ((h.occupied k).2 (Or.inl hk))
  exact ⟨p, sk, hp, hsk⟩

theorem exists_flow (h : Accounted s) (hk : k ∈ s.flows) :
    ∃ f sk, s.flows.lookup k = some f ∧ s.sockets.get k = some sk := by
  obtain ⟨f, hf⟩ := Option.isSome_iff_exists.1 (AList.lookup_isSome.2 hk)
  obtain ⟨sk, hsk⟩ := Option.isSome_iff_exists.1 ((h.occupied k).2 (Or.inr hk))
  exact ⟨f, sk, hf, hsk⟩

/-- The handles the code looks up are there. -/
theorem touch_eq (h : Accounted s) {hs : List ℕ} (hhs : ∀ k ∈ hs, k ∈ s.pending ∨ k ∈ s.flows) :
    s.touch hs = s := by
  have hany : (hs.any fun k => (s.sockets.get k).isNone) = false := by
    rw [List.any_eq_false]
    intro k hk
    obtain ⟨sk, hsk⟩ := Option.isSome_iff_exists.1 ((h.occupied k).2 (hhs k hk))
    simp [hsk]
  rw [StackCore.touch, hany, Bool.or_false]

theorem touch_pending (h : Accounted s) : s.touch s.pending.keys = s :=
  h.touch_eq fun _ hk => Or.inl (AList.mem_keys.2 hk)

theorem touch_flows (h : Accounted s) : s.touch s.flows.keys = s :=
  h.touch_eq fun _ hk => Or.inr (AList.mem_keys.2 hk)

/-- The pair of a pending listener is armed by no other. -/
theorem notMem_armed_erase (h : Accounted s) {p : Pending} (hp : s.pending.lookup k = some p)
    (pair : SocketAddr × SocketAddr) :
    pair ∈ s.nat.armed.erase (p.src, p.dst) ↔
      ∃ h' p', (s.pending.erase k).lookup h' = some p' ∧ (p'.src, p'.dst) = pair := by
  simp only [Finset.mem_erase, h.armed, HandleMap.lookup_erase_eq_some]
  constructor
  · rintro ⟨hne, h', p', hp', rfl⟩
    refine ⟨h', p', ⟨?_, hp'⟩, rfl⟩
    rintro rfl
    obtain rfl := Option.some.inj (hp.symm.trans hp')
    exact hne rfl
  · rintro ⟨h', p', ⟨hk', hp'⟩, rfl⟩
    exact ⟨fun heq => hk' (h.unique h' k p' p hp' hp heq), h', p', hp', rfl⟩

/-- The pending listeners left when one goes still have a pair each. -/
theorem unique_erase (h : Accounted s) (k h' h'' : ℕ) (p' p'' : Pending)
    (hp' : (s.pending.erase k).lookup h' = some p')
    (hp'' : (s.pending.erase k).lookup h'' = some p'')
    (heq : (p'.src, p'.dst) = (p''.src, p''.dst)) : h' = h'' :=
  h.unique h' h'' p' p'' (HandleMap.lookup_erase_eq_some.1 hp').2
    (HandleMap.lookup_erase_eq_some.1 hp'').2 heq

/-- The handle of the next socket is no one's. -/
theorem firstFree_notMem (h : Accounted s) :
    s.sockets.firstFree ∉ s.pending ∧ s.sockets.firstFree ∉ s.flows := by
  have hnone := (h.occupied s.sockets.firstFree).not
  rw [SocketSet.get_firstFree, not_or] at hnone
  exact hnone.1 (by simp)

end Accounted

/-! ## The passes -/

theorem accounted_forFlows (h : Accounted s) (f : Cell S → Cell S) :
    Accounted (s.forFlows f) := by
  refine ⟨fun a => ?_, fun a ha => ?_, h.armed, h.unique, h.bounded, ?_⟩
  · rw [StackCore.get_forFlows, Option.isSome_map, h.occupied]
    exact or_congr_right HandleMap.mem_mapVal.symm
  · exact fun hf => h.disjoint a ha (HandleMap.mem_mapVal.1 hf)
  · show (s.touch s.flows.keys).panicked = false
    rw [h.touch_flows]
    exact h.calm

theorem accounted_poll (h : Accounted s) (p : Poll S) : Accounted (s.poll api p) := by
  refine ⟨fun a => ?_, fun a ha => ?_, h.armed, h.unique, h.bounded, h.calm⟩
  · refine (Bool.eq_iff_iff.1 (p.isSome_get _ _ a)).trans ((h.occupied a).trans ?_)
    exact or_congr_right HandleMap.mem_mapVal.symm
  · exact fun hf => h.disjoint a ha (HandleMap.mem_mapVal.1 hf)

theorem mem_pending_dropPending (h : Accounted s) (hk : k ∈ s.pending) (a : ℕ) :
    a ∈ (s.dropPending k).pending ↔ a ≠ k ∧ a ∈ s.pending := by
  obtain ⟨p, sk, hp, -⟩ := h.exists_pending hk
  rw [StackCore.dropPending, hp]
  exact AList.mem_erase

theorem accounted_dropPending (h : Accounted s) (hk : k ∈ s.pending) :
    Accounted (s.dropPending k) := by
  obtain ⟨p, sk, hp, hsk⟩ := h.exists_pending hk
  have hcore : s.dropPending k = { s with
      pending := s.pending.erase k
      nat := s.nat.disarm p.src p.dst
      sockets := s.sockets.remove k } := by
    rw [StackCore.dropPending, hp, h.touch_eq fun a ha => Or.inl (List.mem_singleton.1 ha ▸ hk)]
  rw [hcore]
  refine ⟨fun a => ?_, fun a ha => ?_, h.notMem_armed_erase hp, h.unique_erase k, ?_, h.calm⟩
  · show ((s.sockets.remove k).get a).isSome ↔ a ∈ s.pending.erase k ∨ a ∈ s.flows
    rw [SocketSet.get_remove, AList.mem_erase]
    by_cases ha : a = k
    · subst ha
      simp [h.disjoint a hk]
    · simp [ha, h.occupied]
  · exact h.disjoint a (AList.mem_erase.1 ha).2
  · exact (HandleMap.len_erase_le s.pending k).trans h.bounded

theorem mem_pending_promote (h : Accounted s) (hk : k ∈ s.pending) (a : ℕ) :
    a ∈ (s.promote api k).pending ↔ a ≠ k ∧ a ∈ s.pending := by
  obtain ⟨p, sk, hp, hsk⟩ := h.exists_pending hk
  rw [StackCore.promote, hp, hsk]
  dsimp only
  split
  · exact AList.mem_erase
  · exact mem_pending_dropPending h hk a

theorem accounted_promote (h : Accounted s) (hk : k ∈ s.pending) :
    Accounted (s.promote api k) := by
  obtain ⟨p, sk, hp, hsk⟩ := h.exists_pending hk
  rw [StackCore.promote, hp, hsk]
  dsimp only
  split
  · refine ⟨fun a => ?_, fun a ha hf => ?_, h.notMem_armed_erase hp, h.unique_erase k, ?_, h.calm⟩
    · rw [SocketSet.get_put hsk, AList.mem_erase, AList.mem_insert]
      by_cases ha : a = k
      · simp [ha]
      · simp [ha, h.occupied]
    · have hak := AList.mem_erase.1 ha
      exact h.disjoint a hak.2 ((AList.mem_insert _).1 hf |>.resolve_left hak.1)
    · exact (HandleMap.len_erase_le s.pending k).trans h.bounded
  · exact accounted_dropPending h hk

theorem mem_flows_retireFlow (h : Accounted s) (hk : k ∈ s.flows) (a : ℕ) :
    a ∈ (s.retireFlow api k).flows ↔ a ≠ k ∧ a ∈ s.flows := by
  obtain ⟨f, sk, hf, hsk⟩ := h.exists_flow hk
  rw [StackCore.retireFlow, hf, hsk]
  exact AList.mem_erase

theorem accounted_retireFlow (h : Accounted s) (hk : k ∈ s.flows) :
    Accounted (s.retireFlow api k) := by
  obtain ⟨f, sk, hf, hsk⟩ := h.exists_flow hk
  rw [StackCore.retireFlow, hf, hsk]
  refine ⟨fun a => ?_, fun a ha hf => ?_, h.armed, h.unique, h.bounded, h.calm⟩
  · rw [SocketSet.get_remove, AList.mem_erase]
    by_cases ha : a = k
    · subst ha
      have hnot : a ∉ s.pending := fun hp => h.disjoint a hp hk
      simp [hnot]
    · simp [ha, h.occupied]
  · exact h.disjoint a ha (AList.mem_erase.1 hf).2

/-- A pass over some of the pending listeners, each of which it takes out. -/
theorem accounted_foldl_pending {f : StackCore S → ℕ → StackCore S}
    (hf : ∀ s k, Accounted s → k ∈ s.pending → Accounted (f s k))
    (hmem : ∀ s k a, Accounted s → k ∈ s.pending → (a ∈ (f s k).pending ↔ a ≠ k ∧ a ∈ s.pending))
    (h : Accounted s) (q : ℕ → Bool) : Accounted ((s.pending.keys.filter q).foldl f s) := by
  refine foldl_rule (Q := fun k s => k ∈ s.pending) hf (fun s a b hab hs ha hb => ?_)
    (s.pending.keys_nodup.filter q) h fun k hk => AList.mem_keys.2 (List.mem_of_mem_filter hk)
  exact (hmem s a b hs ha).2 ⟨hab.symm, hb⟩

theorem accounted_sweepStaleListeners (h : Accounted s) :
    Accounted (s.sweepStaleListeners api) := by
  rw [StackCore.sweepStaleListeners, h.touch_pending]
  exact accounted_foldl_pending (fun _ _ => accounted_dropPending)
    (fun _ _ a hs hk => mem_pending_dropPending hs hk a) h _

theorem accounted_promoteAccepted (h : Accounted s) : Accounted (s.promoteAccepted api) := by
  rw [StackCore.promoteAccepted, h.touch_pending]
  exact accounted_foldl_pending (fun _ _ => accounted_promote)
    (fun _ _ a hs hk => mem_pending_promote hs hk a) h _

theorem accounted_reapClosed (h : Accounted s) : Accounted (s.reapClosed api) := by
  rw [StackCore.reapClosed, h.touch_flows]
  refine foldl_rule (Q := fun k s => k ∈ s.flows) (fun _ _ => accounted_retireFlow)
    (fun s a b hab hs ha hb => ?_) (s.flows.keys_nodup.filter _) h
    fun k hk => AList.mem_keys.2 (List.mem_of_mem_filter hk)
  exact (mem_flows_retireFlow hs ha b).2 ⟨hab.symm, hb⟩

theorem accounted_stream (h : Accounted s) (n : ℕ) (op : StreamOp) :
    Accounted (s.stream n op) := by
  refine ⟨fun a => ?_, fun a ha hf => ?_, h.armed, h.unique, h.bounded, h.calm⟩
  · exact (h.occupied a).trans (or_congr_right HandleMap.mem_mapVal.symm)
  · exact h.disjoint a ha (HandleMap.mem_mapVal.1 hf)

theorem accounted_begin (h : Accounted s) (now : ℕ) : Accounted { s with lastStep := now } :=
  ⟨h.occupied, h.disjoint, h.armed, h.unique, h.bounded, h.calm⟩

theorem accounted_drain (h : Accounted s) :
    Accounted { s with tx := [], accepts := [], datagrams := [] } :=
  ⟨h.occupied, h.disjoint, h.armed, h.unique, h.bounded, h.calm⟩

/-! ## Packets -/

theorem accounted_pushRx (h : Accounted s) (packet : Bytes) (injected : Bool) :
    Accounted (s.pushRx packet injected) :=
  ⟨h.occupied, h.disjoint, h.armed, h.unique, h.bounded, h.calm⟩

/-- A socket that listens for a pair that has no listener. -/
theorem accounted_add (h : Accounted s) {src dst : SocketAddr} (hnew : (src, dst) ∉ s.nat.armed)
    (hroom : HandleMap.len s.pending < MAX_PENDING_LISTENERS) (sk : S) (now : ℕ) :
    Accounted { s with
      sockets := s.sockets.add sk
      nat := ⟨insert (src, dst) s.nat.armed⟩
      pending := s.pending.insert s.sockets.firstFree ⟨src, dst, now⟩ } := by
  obtain ⟨hpending, hflows⟩ := h.firstFree_notMem
  have hother : ∀ a p, s.pending.lookup a = some p → (p.src, p.dst) ≠ (src, dst) := by
    intro a p hp heq
    exact hnew ((h.armed _).2 ⟨a, p, hp, heq⟩)
  refine ⟨fun a => ?_, fun a ha => ?_, fun pair => ?_, fun a b p q hp hq heq => ?_, ?_, h.calm⟩
  · rw [SocketSet.get_add, AList.mem_insert]
    by_cases ha : a = s.sockets.firstFree
    · simp [ha]
    · simp [ha, h.occupied]
  · obtain rfl | ha := (AList.mem_insert _).1 ha
    · exact hflows
    · exact h.disjoint a ha
  · simp only [Finset.mem_insert, h.armed, HandleMap.lookup_insert_eq_some hpending]
    constructor
    · rintro (rfl | ⟨a, p, hp, rfl⟩)
      · exact ⟨_, _, Or.inl ⟨rfl, rfl⟩, rfl⟩
      · exact ⟨a, p, Or.inr hp, rfl⟩
    · rintro ⟨a, p, ⟨rfl, rfl⟩ | hp, rfl⟩
      · exact Or.inl rfl
      · exact Or.inr ⟨a, p, hp, rfl⟩
  · obtain ⟨rfl, rfl⟩ | hp := (HandleMap.lookup_insert_eq_some hpending).1 hp <;>
      obtain ⟨rfl, rfl⟩ | hq := (HandleMap.lookup_insert_eq_some hpending).1 hq
    · rfl
    · exact absurd heq.symm (hother b q hq)
    · exact absurd heq (hother a p hp)
    · exact h.unique a b p q hp hq heq
  · show HandleMap.len (s.pending.insert _ _) ≤ _
    rw [HandleMap.len_insert hpending]
    exact hroom

/-- Arming a pair that has no listener and injecting one, whether or not `listen` succeeds. -/
theorem accounted_injectListener (h : Accounted s) {src dst : SocketAddr}
    (hnew : s.nat.isArmed src dst = false)
    (hroom : HandleMap.len s.pending < MAX_PENDING_LISTENERS) :
    Accounted ({ s with nat := (s.nat.arm src dst).2 }.injectListener api src dst) := by
  have hnot : (src, dst) ∉ s.nat.armed := of_decide_eq_false hnew
  rw [StackCore.injectListener]
  split
  · refine ⟨h.occupied, h.disjoint, fun pair => ?_, h.unique, h.bounded, h.calm⟩
    show pair ∈ (insert (src, dst) s.nat.armed).erase (src, dst) ↔ _
    rw [Finset.erase_insert hnot, h.armed]
  · exact accounted_add h hnot hroom _ _

theorem accounted_ingest (h : Accounted s) (packet : Bytes) :
    Accounted (s.ingest api wire packet) := by
  have hcount : ∀ n m k, Accounted { s with
      synDropped := n, udpDropped := m, malformedDropped := k } := fun _ _ _ =>
    ⟨h.occupied, h.disjoint, h.armed, h.unique, h.bounded, h.calm⟩
  refine StackCore.ingest_elim api s packet (fun _ _ _ _ => ?_) (fun _ _ _ _ _ => ?_)
    (fun src dst _ hnew hroom => ?_) (fun _ _ _ => ?_) (fun _ _ _ _ _ => ?_)
    (fun _ _ _ _ _ => ?_) (fun _ => ?_)
  · exact accounted_pushRx h packet false
  · exact hcount _ _ _
  · exact accounted_pushRx (accounted_injectListener h hnew hroom) packet _
  · exact accounted_pushRx h packet false
  · exact ⟨h.occupied, h.disjoint, h.armed, h.unique, h.bounded, h.calm⟩
  · exact hcount _ _ _
  · exact hcount _ _ _

/-- What becomes of a packet. -/
inductive Fate
  /-- Queued to the device. -/
  | queued
  /-- Surfaced as a datagram. -/
  | surfaced
  | synDropped
  | udpDropped
  | malformedDropped
  deriving DecidableEq, Repr

/-- Where the packets of a fate are counted. -/
def StackCore.count (s : StackCore S) : Fate → ℕ
  | .queued => s.queued
  | .surfaced => s.surfaced
  | .synDropped => s.synDropped
  | .udpDropped => s.udpDropped
  | .malformedDropped => s.malformedDropped

/-- What `ingest` does with a packet. -/
def StackCore.fate (wire : Wire) (s : StackCore S) (packet : Bytes) : Fate :=
  match inspect wire packet with
  | .tcpSyn src dst =>
    if s.nat.isArmed src dst = false ∧ MAX_PENDING_LISTENERS ≤ HandleMap.len s.pending then
      .synDropped
    else .queued
  | .tcpOther _ _ => .queued
  | .udp _ dst _ => if dst.port = 53 then .surfaced else .udpDropped
  | .ignored => .malformedDropped

/-- The datagram of a packet, where it is one for port 53. -/
def datagramOf (wire : Wire) (packet : Bytes) : List Datagram :=
  match inspect wire packet with
  | .udp src dst payload => if dst.port = 53 then [⟨src, dst, payload⟩] else []
  | _ => []

/-- A packet takes the core from `s` to `s'` with fate `f`: one counter counts it, and the device's
queue and the datagrams gain what the fate says. -/
structure Met (wire : Wire) (packet : Bytes) (s s' : StackCore S) (f : Fate) : Prop where
  count : ∀ g, s'.count g = s.count g + if g = f then 1 else 0
  rx : s'.rx.map Queued.packet = s.rx.map Queued.packet ++ if f = .queued then [packet] else []
  datagrams : s'.datagrams = s.datagrams ++ datagramOf wire packet
  once : (datagramOf wire packet).length = if f = .surfaced then 1 else 0

theorem met_pushRx {packet : Bytes} {s' : StackCore S} (injected : Bool)
    (hcount : s'.count = s.count) (hrx : s'.rx = s.rx) (hdatagrams : s'.datagrams = s.datagrams)
    (hnone : datagramOf wire packet = []) :
    Met wire packet s (s'.pushRx packet injected) .queued := by
  refine ⟨fun g => ?_, ?_, ?_, ?_⟩
  · rw [← hcount]
    cases g <;> rfl
  · simp [StackCore.pushRx, hrx]
  · simp [StackCore.pushRx, hdatagrams, hnone]
  · simp [hnone]

/-- **Every packet has one fate.** -/
theorem ingest_met (s : StackCore S) (packet : Bytes) :
    Met wire packet s (s.ingest api wire packet) (s.fate wire packet) := by
  refine StackCore.ingest_elim (motive := fun s' => Met wire packet s s' (s.fate wire packet))
    api s packet (fun src dst hp harmed => ?_) (fun src dst hp hnew hfull => ?_)
    (fun src dst hp hnew hroom => ?_) (fun src dst hp => ?_)
    (fun src dst payload hp hport => ?_) (fun src dst payload hp hport => ?_) (fun hp => ?_)
  · have hfate : s.fate wire packet = .queued := by simp [StackCore.fate, hp, harmed]
    rw [hfate]
    exact met_pushRx false rfl rfl rfl (by rw [datagramOf, hp])
  · have hfate : s.fate wire packet = .synDropped := by simp [StackCore.fate, hp, hnew, hfull]
    have hnone : datagramOf wire packet = [] := by rw [datagramOf, hp]
    rw [hfate]
    exact ⟨fun g => by cases g <;> rfl, by simp, by simp [hnone], by simp [hnone]⟩
  · have hfate : s.fate wire packet = .queued := by simp [StackCore.fate, hp, hroom]
    obtain ⟨sockets, nat, pending, hinject⟩ :=
      { s with nat := (s.nat.arm src dst).2 }.injectListener_changes api src dst
    rw [hfate, hinject]
    refine met_pushRx _ ?_ rfl rfl (by rw [datagramOf, hp])
    exact funext fun g => by cases g <;> rfl
  · have hfate : s.fate wire packet = .queued := by simp [StackCore.fate, hp]
    rw [hfate]
    exact met_pushRx false rfl rfl rfl (by rw [datagramOf, hp])
  · have hfate : s.fate wire packet = .surfaced := by
      rw [StackCore.fate, hp]
      exact if_pos hport
    have hone : datagramOf wire packet = [⟨src, dst, payload⟩] := by
      rw [datagramOf, hp]
      exact if_pos hport
    rw [hfate]
    exact ⟨fun g => by cases g <;> rfl, by simp, by simp [hone], by simp [hone]⟩
  · have hfate : s.fate wire packet = .udpDropped := by
      rw [StackCore.fate, hp]
      exact if_neg hport
    have hnone : datagramOf wire packet = [] := by
      rw [datagramOf, hp]
      exact if_neg hport
    rw [hfate]
    exact ⟨fun g => by cases g <;> rfl, by simp, by simp [hnone], by simp [hnone]⟩
  · have hfate : s.fate wire packet = .malformedDropped := by simp [StackCore.fate, hp]
    have hnone : datagramOf wire packet = [] := by rw [datagramOf, hp]
    rw [hfate]
    exact ⟨fun g => by cases g <;> rfl, by simp, by simp [hnone], by simp [hnone]⟩

/-! ## Runs -/

/-- The packet an event ingests. -/
def Event.packet : Event S → Option Bytes
  | .ingest packet => some packet
  | _ => none

theorem count_dropPending (s : StackCore S) (k : ℕ) : (s.dropPending k).count = s.count := by
  obtain ⟨_, _, _, _, h⟩ := s.dropPending_changes k
  rw [h]
  exact funext fun g => by cases g <;> rfl

theorem count_promote (s : StackCore S) (k : ℕ) : (s.promote api k).count = s.count := by
  obtain ⟨_, _, _, _, _, _, _, h⟩ := s.promote_changes api k
  rw [h]
  exact funext fun g => by cases g <;> rfl

theorem count_retireFlow (s : StackCore S) (k : ℕ) : (s.retireFlow api k).count = s.count := by
  obtain ⟨_, _, _, _, _, h⟩ := s.retireFlow_changes api k
  rw [h]
  exact funext fun g => by cases g <;> rfl

/-- An event counts the packet it ingests, and nothing else. -/
theorem next_count {l l' : Loop S} {e : Event S} (h : l.next wire api e = some l') (g : Fate) :
    l'.core.count g = l.core.count g +
      e.packet.elim 0 fun packet => if g = l.core.fate wire packet then 1 else 0 := by
  refine Loop.next_elim h (fun packet _ => ?_) (fun now _ => ?_) (fun _ => ?_) (fun _ => ?_)
    (fun p _ => ?_) (fun _ => ?_) (fun _ => ?_) (fun _ => ?_) (fun _ => ?_) (fun _ => ?_)
    (fun n op => ?_) (fun _ => ?_)
  case refine_1 => exact (ingest_met l.core packet).count g
  case refine_6 =>
    refine (congrFun (foldl_keeps count_dropPending _ _) g).trans ?_
    cases g <;> rfl
  case refine_7 =>
    refine (congrFun (foldl_keeps count_promote _ _) g).trans ?_
    cases g <;> rfl
  case refine_10 =>
    refine (congrFun (foldl_keeps count_retireFlow _ _) g).trans ?_
    cases g <;> rfl
  all_goals cases g <;> rfl

theorem accounted_next {l l' : Loop S} {e : Event S} (hl : Accounted l.core)
    (h : l.next wire api e = some l') : Accounted l'.core := by
  refine Loop.next_elim h (fun packet _ => ?_) (fun now _ => ?_) (fun _ => ?_) (fun _ => ?_)
    (fun p _ => ?_) (fun _ => ?_) (fun _ => ?_) (fun _ => ?_) (fun _ => ?_) (fun _ => ?_)
    (fun n op => ?_) (fun _ => ?_)
  · exact accounted_ingest hl packet
  · exact accounted_begin hl now
  · exact accounted_forFlows hl _
  · exact accounted_forFlows hl _
  · exact accounted_poll hl p
  · exact accounted_sweepStaleListeners hl
  · exact accounted_promoteAccepted hl
  · exact accounted_forFlows hl _
  · exact accounted_forFlows hl _
  · exact accounted_reapClosed hl
  · exact accounted_stream hl n op
  · exact accounted_drain hl

/-- The packets of a run, each with its fate. -/
theorem exists_fates_of_run {l l' : Loop S} {es : List (Event S)}
    (h : run (Loop.next wire api) l es = some l') :
    ∃ fates : List (Bytes × Fate), fates.map Prod.fst = es.filterMap Event.packet ∧
      ∀ g, l'.core.count g = l.core.count g + fates.countP fun f => f.2 = g := by
  induction es generalizing l with
  | nil =>
    obtain rfl := Option.some.inj h
    exact ⟨[], rfl, fun g => rfl⟩
  | cons e es ih =>
    rw [run_cons, Option.bind_eq_some_iff] at h
    obtain ⟨l₁, h₁, h⟩ := h
    obtain ⟨fates, hpackets, hcount⟩ := ih h
    have hstep := next_count h₁
    cases hp : e.packet with
    | none =>
      refine ⟨fates, by rw [hpackets, List.filterMap_cons_none hp], fun g => ?_⟩
      rw [hcount, hstep, hp]
      rfl
    | some packet =>
      refine ⟨(packet, l.core.fate wire packet) :: fates, ?_, fun g => ?_⟩
      · rw [List.map_cons, hpackets, List.filterMap_cons_some hp]
      · rw [hcount, hstep, hp, List.countP_cons]
        simp only [Option.elim_some, decide_eq_true_eq, eq_comm (a := g)]
        omega

/-- **The accounting is exact after every run**, whatever the polls do: the collections agree, and
each packet ingested so far, and each that comes next, has one fate and is counted there. -/
theorem accounted_of_run {cfg : StackConfig} {es : List (Event S)} {l : Loop S}
    (h : run (Loop.next wire api) (.start cfg) es = some l) :
    Accounted l.core ∧
      (∃ fates : List (Bytes × Fate), fates.map Prod.fst = es.filterMap Event.packet ∧
        ∀ g, l.core.count g = fates.countP fun f => f.2 = g) ∧
      ∀ packet, ∃ f, Met wire packet l.core (l.core.ingest api wire packet) f := by
  refine ⟨?_, ?_, fun packet => ⟨_, ingest_met l.core packet⟩⟩
  · have hkeep : ∀ (l : Loop S) e l', Accounted l.core → l.next wire api e = some l' →
        Accounted l'.core := fun _ _ _ => accounted_next
    exact run_invariant_of_step hkeep (accounted_new cfg) h
  · obtain ⟨fates, hpackets, hcount⟩ := exists_fates_of_run h
    refine ⟨fates, hpackets, fun g => (hcount g).trans ?_⟩
    have hzero : (Loop.start cfg : Loop S).core.count g = 0 := by cases g <;> rfl
    rw [hzero, zero_add]

/-- The accounting of an accepted connection. -/
theorem accounted_of_run_handshake :
    let l := (Reference.runs Reference.cfg Reference.handshake).get Reference.isSome_runs_handshake
    Accounted l.core ∧
      (∃ fates : List (Bytes × Fate),
        fates.map Prod.fst = Reference.handshake.filterMap Event.packet ∧
          ∀ g, l.core.count g = fates.countP fun f => f.2 = g) ∧
      ∀ packet, ∃ f, Met Reference.wire packet l.core
        (l.core.ingest Reference.api Reference.wire packet) f :=
  accounted_of_run (Option.some_get Reference.isSome_runs_handshake).symm

end LiosTunnel.Stack
