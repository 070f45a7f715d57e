import LiosTunnel.Stack.Flows

/-!
# What holds of every pending listener

A listener that is injected and not yet promoted has a `Pending` and a socket. The stack leaves the
socket alone until it promotes the listener or gives it up, so a property of the two survives
whenever a new listener has it and a poll keeps it.

* `PendingInv`: a property of the pending listeners with their sockets.
* `PendingInv.ingest`, `PendingInv.poll`: where it has to be shown.
* `PendingInv.forFlows`, `PendingInv.sweepStaleListeners`, `PendingInv.promoteAccepted`,
  `PendingInv.reapClosed`, `PendingInv.stream`: where it is kept.
* `PendingRules`, `PendingRules.pendingInv_of_run`: what a property must survive to hold after every
  run.
-/

namespace LiosTunnel.Stack

open Runs

variable {S : Type} {api : TcpApi S} {wire : Wire} {s : StackCore S}

/-- A property of the pending listeners. -/
structure PendingInv (Q : ℕ → Pending → S → Prop) (s : StackCore S) : Prop where
  accounted : Accounted s
  holds : ∀ k p sk, s.pending.lookup k = some p → s.sockets.get k = some sk → Q k p sk

namespace PendingInv

variable {Q Q' : ℕ → Pending → S → Prop}

theorem mono (h : PendingInv Q s) (hQ : ∀ k p sk, Q k p sk → Q' k p sk) : PendingInv Q' s :=
  ⟨h.accounted, fun k p sk hp hsk => hQ k p sk (h.holds k p sk hp hsk)⟩

theorem ingest (h : PendingInv Q s) (packet : Bytes)
    (hfresh : ∀ src dst sk, api.listen (api.new s.cfg.tcpBufferBytes) dst = some sk →
      Q s.sockets.firstFree ⟨src, dst, s.lastStep⟩ (api.setTimeout sk (some HANDSHAKE_TIMEOUT))) :
    PendingInv Q (s.ingest api wire packet) := by
  refine ⟨accounted_ingest h.accounted packet, ?_⟩
  have hinject : ∀ (nat : NatTable) src dst k p sk,
      ({ s with nat := nat }.injectListener api src dst).pending.lookup k = some p →
      ({ s with nat := nat }.injectListener api src dst).sockets.get k = some sk → Q k p sk := by
    intro nat src dst k p sk
    rw [StackCore.injectListener]
    split
    · exact h.holds k p sk
    · rename_i sock hlisten
      intro hp hsk
      obtain ⟨hpending, -⟩ := h.accounted.firstFree_notMem
      obtain ⟨rfl, rfl⟩ | hp := (HandleMap.lookup_insert_eq_some hpending).1 hp
      · rw [SocketSet.get_add, if_pos rfl] at hsk
        obtain rfl := Option.some.inj hsk
        exact hfresh src dst sock hlisten
      · have hne : k ≠ s.sockets.firstFree := by
          rintro rfl
          exact hpending (AList.lookup_isSome.1 (Option.isSome_of_eq_some hp))
        rw [SocketSet.get_add, if_neg hne] at hsk
        exact h.holds k p sk hp hsk
  exact StackCore.ingest_elim
    (motive := fun s' => ∀ k p sk, s'.pending.lookup k = some p →
      s'.sockets.get k = some sk → Q k p sk)
    api s packet (fun _ _ _ _ => h.holds) (fun _ _ _ _ _ => h.holds)
    (fun src dst _ _ _ => hinject _ src dst) (fun _ _ _ => h.holds) (fun _ _ _ _ _ => h.holds)
    (fun _ _ _ _ _ => h.holds) (fun _ => h.holds)

/-- The flows' sockets are not the listeners'. -/
theorem forFlows (h : PendingInv Q s) (f : Cell S → Cell S) : PendingInv Q (s.forFlows f) := by
  refine ⟨accounted_forFlows h.accounted f, fun k p sk hp hsk => ?_⟩
  have hmem : k ∈ s.pending := AList.lookup_isSome.1 (Option.isSome_of_eq_some hp)
  rw [StackCore.get_forFlows, AList.lookup_eq_none.2 (h.accounted.disjoint k hmem),
    Option.map_id'] at hsk
  exact h.holds k p sk hp hsk

theorem poll (h : PendingInv Q s) {p : Poll S}
    (hp : ∀ k p' sk sk', s.pending.lookup k = some p' → s.sockets.get k = some sk →
      (s.poll api p).sockets.get k = some sk' → Q k p' sk → Q' k p' sk') :
    PendingInv Q' (s.poll api p) := by
  refine ⟨accounted_poll h.accounted p, fun k p' sk' hp' hsk' => ?_⟩
  have hmem : k ∈ s.pending := AList.lookup_isSome.1 (Option.isSome_of_eq_some hp')
  obtain ⟨_, sk, -, hsk⟩ := h.accounted.exists_pending hmem
  exact hp k p' sk sk' hp' hsk hsk' (h.holds k p' sk hp' hsk)

theorem dropPending (h : PendingInv Q s) {a : ℕ} (ha : a ∈ s.pending) :
    PendingInv Q (s.dropPending a) := by
  obtain ⟨p₀, _, hp₀, -⟩ := h.accounted.exists_pending ha
  refine ⟨accounted_dropPending h.accounted ha, fun k p sk => ?_⟩
  rw [StackCore.dropPending, hp₀]
  intro hp hsk
  obtain ⟨hne, hp⟩ := HandleMap.lookup_erase_eq_some.1 hp
  have hkept : (s.sockets.remove a).get k = s.sockets.get k := by
    rw [SocketSet.get_remove, if_neg hne]
  exact h.holds k p sk hp (hkept.symm.trans hsk)

theorem promote (h : PendingInv Q s) {a : ℕ} (ha : a ∈ s.pending) :
    PendingInv Q (s.promote api a) := by
  refine ⟨accounted_promote h.accounted ha, fun k p sk hp hsk => ?_⟩
  have hmem : k ∈ (s.promote api a).pending := AList.lookup_isSome.1 (Option.isSome_of_eq_some hp)
  obtain ⟨hne, -⟩ := (mem_pending_promote h.accounted ha k).1 hmem
  rw [h.accounted.get_promote_ne ha hne] at hsk
  obtain ⟨p₀, sk₀, hp₀, hsk₀⟩ := h.accounted.exists_pending ha
  have hpending : (s.promote api a).pending = s.pending.erase a := by
    simp only [StackCore.promote, StackCore.dropPending, hp₀, hsk₀]
    split <;> rfl
  rw [hpending, HandleMap.lookup_erase_eq_some] at hp
  exact h.holds k p sk hp.2 hsk

theorem retireFlow (h : PendingInv Q s) {a : ℕ} (ha : a ∈ s.flows) :
    PendingInv Q (s.retireFlow api a) := by
  refine ⟨accounted_retireFlow h.accounted ha, fun k p sk => ?_⟩
  obtain ⟨f, sk₀, hf, hsk₀⟩ := h.accounted.exists_flow ha
  rw [StackCore.retireFlow, hf, hsk₀]
  intro hp hsk
  have hne : k ≠ a := by
    rintro rfl
    exact h.accounted.disjoint k (AList.lookup_isSome.1 (Option.isSome_of_eq_some hp)) ha
  have hkept : (s.sockets.remove a).get k = s.sockets.get k := by
    rw [SocketSet.get_remove, if_neg hne]
  exact h.holds k p sk hp (hkept.symm.trans hsk)

/-- After the sweep no listener that is left has expired. -/
theorem sweepStaleListeners (h : PendingInv Q s) : PendingInv (fun k p sk => Q k p sk ∧
    (api.state sk = .listen → s.lastStep < p.injectedAt + HANDSHAKE_TIMEOUT))
    (s.sweepStaleListeners api) := by
  have hnodup : (s.staleListeners api).Nodup := s.pending.keys_nodup.filter _
  have hmem : ∀ k ∈ s.staleListeners api, k ∈ s.pending :=
    fun k hk => AList.mem_keys.2 (List.mem_of_mem_filter hk)
  have hdrop : ∀ (s : StackCore S) a b, a ≠ b → Accounted s → a ∈ s.pending → b ∈ s.pending →
      b ∈ (s.dropPending a).pending :=
    fun s a b hab hs ha hb => (mem_pending_dropPending hs ha b).2 ⟨hab.symm, hb⟩
  -- a listener that is left is one of those before, with its socket
  let Old := fun k p sk => Q k p sk ∧ s.pending.lookup k = some p ∧ s.sockets.get k = some sk
  have hkept : PendingInv Old (s.sweepStaleListeners api) := by
    rw [StackCore.sweepStaleListeners, h.accounted.touch_pending]
    refine foldl_rule (P := PendingInv Old) (Q := fun k s => k ∈ s.pending)
      (fun s a hs ha => hs.dropPending ha) (fun s a b hab hs => hdrop s a b hab hs.accounted)
      hnodup ?_ hmem
    exact ⟨h.accounted, fun k p sk hp hsk => ⟨h.holds k p sk hp hsk, hp, hsk⟩⟩
  -- and it was not stale
  have hgone : ∀ k ∈ s.staleListeners api, k ∉ (s.sweepStaleListeners api).pending := by
    intro k hk
    rw [StackCore.sweepStaleListeners, h.accounted.touch_pending]
    refine foldl_reaches (P := Accounted) (Q := fun k s => k ∈ s.pending)
      (R := fun s => k ∉ s.pending) (fun _ _ => accounted_dropPending) hdrop
      (fun s hs hin hk => ?_) (fun s b hs hb hout hin => ?_) hnodup hk h.accounted hmem
    · exact ((mem_pending_dropPending hs hin k).1 hk).1 rfl
    · exact hout ((mem_pending_dropPending hs hb k).1 hin).2
  refine ⟨hkept.accounted, fun k p sk hp hsk => ?_⟩
  obtain ⟨hq, hp₀, hsk₀⟩ := hkept.holds k p sk hp hsk
  refine ⟨hq, fun hlisten => ?_⟩
  by_contra hle
  have hin : k ∈ (s.sweepStaleListeners api).pending :=
    AList.lookup_isSome.1 (Option.isSome_of_eq_some hp)
  have hin₀ : k ∈ s.pending := AList.lookup_isSome.1 (Option.isSome_of_eq_some hp₀)
  have hstale : k ∈ s.staleListeners api := by
    refine List.mem_filter.2 ⟨AList.mem_keys.2 hin₀, ?_⟩
    rw [StackCore.stateIs, hsk₀, hp₀, Option.any_some, Option.any_some, hlisten]
    simpa using hle
  exact hgone k hstale hin

theorem promoteAccepted (h : PendingInv Q s) : PendingInv Q (s.promoteAccepted api) := by
  rw [StackCore.promoteAccepted, h.accounted.touch_pending]
  refine foldl_rule (P := PendingInv Q) (Q := fun k s => k ∈ s.pending)
    (fun _ _ hs => hs.promote) (fun s a b hab hs ha hb => ?_) (s.pending.keys_nodup.filter _) h
    fun k hk => AList.mem_keys.2 (List.mem_of_mem_filter hk)
  exact (mem_pending_promote hs.accounted ha b).2 ⟨hab.symm, hb⟩

theorem reapClosed (h : PendingInv Q s) : PendingInv Q (s.reapClosed api) := by
  rw [StackCore.reapClosed, h.accounted.touch_flows]
  refine foldl_rule (P := PendingInv Q) (Q := fun k s => k ∈ s.flows)
    (fun _ _ hs => hs.retireFlow) (fun s a b hab hs ha hb => ?_) (s.flows.keys_nodup.filter _) h
    fun k hk => AList.mem_keys.2 (List.mem_of_mem_filter hk)
  exact (mem_flows_retireFlow hs.accounted ha b).2 ⟨hab.symm, hb⟩

theorem stream (h : PendingInv Q s) (n : ℕ) (op : StreamOp) : PendingInv Q (s.stream n op) :=
  ⟨accounted_stream h.accounted n op, h.holds⟩

end PendingInv

/-! ## Obligations -/

/-- What a property of the pending listeners, one for each phase and time of the last step, must
survive under a guard. -/
structure PendingRules (api : TcpApi S) (guard : Loop S → Event S → Prop)
    (Q : Phase → ℕ → Pending → S → Prop) : Prop where
  fresh : ∀ n now src dst sk, api.listen (api.new n) dst = some sk →
    Q .idle now ⟨src, dst, now⟩ (api.setTimeout sk (some HANDSHAKE_TIMEOUT))
  start : ∀ now now' p sk, Q .idle now p sk → Q .abort now' p sk
  /-- The passes that leave the listeners alone. -/
  quiet : ∀ now p sk, (Q .abort now p sk → Q .pumpOutbound now p sk) ∧
    (Q .pumpOutbound now p sk → Q .poll now p sk) ∧
    (Q .promote now p sk → Q .pumpInbound now p sk) ∧
    (Q .pumpInbound now p sk → Q .observe now p sk) ∧
    (Q .observe now p sk → Q .reap now p sk) ∧ (Q .reap now p sk → Q .idle now p sk)
  poll : ∀ l p, l.phase = .poll → guard l (.poll p) → ∀ h p' sk sk',
    l.core.sockets.get h = some sk → (l.core.poll api p).sockets.get h = some sk' →
      Q .poll l.core.lastStep p' sk → Q .sweep l.core.lastStep p' sk'
  sweep : ∀ now p sk, Q .sweep now p sk →
    (api.state sk = .listen → now < p.injectedAt + HANDSHAKE_TIMEOUT) → Q .promote now p sk

namespace PendingRules

variable {guard : Loop S → Event S → Prop} {Q : Phase → ℕ → Pending → S → Prop}

/-- One event keeps a property that meets its obligations. -/
theorem pendingInv_next (hr : PendingRules api guard Q) {l l' : Loop S} {e : Event S}
    (h : PendingInv (fun _ => Q l.phase l.core.lastStep) l.core) (hg : guard l e)
    (hn : l.next wire api e = some l') :
    PendingInv (fun _ => Q l'.phase l'.core.lastStep) l'.core := by
  revert hg
  refine Loop.next_elim hn (fun packet hp hg => ?_) (fun now hp hg => ?_) (fun hp hg => ?_)
    (fun hp hg => ?_) (fun p hp hg => ?_) (fun hp hg => ?_) (fun hp hg => ?_) (fun hp hg => ?_)
    (fun hp hg => ?_) (fun hp hg => ?_) (fun n op hg => ?_) (fun hp hg => ?_)
  · rw [hp] at h
    dsimp only
    rw [lastStep_ingest]
    exact h.ingest packet fun src dst sk => hr.fresh _ _ src dst sk
  · rw [hp] at h
    have hmono := h.mono fun k p sk => hr.start l.core.lastStep now p sk
    exact ⟨accounted_begin hmono.accounted now, hmono.holds⟩
  · exact ((hp ▸ h).mono fun k p sk => (hr.quiet _ p sk).1).forFlows _
  · exact ((hp ▸ h).mono fun k p sk => (hr.quiet _ p sk).2.1).forFlows _
  · exact (hp ▸ h).poll fun k p' sk sk' _ => hr.poll l p hp hg k p' sk sk'
  · dsimp only
    rw [lastStep_sweepStaleListeners]
    exact (hp ▸ h).sweepStaleListeners.mono fun k p sk hq => hr.sweep _ p sk hq.1 hq.2
  · dsimp only
    rw [lastStep_promoteAccepted]
    exact ((hp ▸ h).mono fun k p sk => (hr.quiet _ p sk).2.2.1).promoteAccepted
  · exact ((hp ▸ h).mono fun k p sk => (hr.quiet _ p sk).2.2.2.1).forFlows _
  · exact ((hp ▸ h).mono fun k p sk => (hr.quiet _ p sk).2.2.2.2.1).forFlows _
  · dsimp only
    rw [lastStep_reapClosed]
    exact ((hp ▸ h).mono fun k p sk => (hr.quiet _ p sk).2.2.2.2.2).reapClosed
  · exact h.stream n op
  · rw [hp] at h
    exact ⟨accounted_drain h.accounted, h.holds⟩

/-- There is no listener at the start. -/
theorem pendingInv_start (_ : PendingRules api guard Q) (cfg : StackConfig) :
    PendingInv (fun _ => Q (Loop.start cfg : Loop S).phase (Loop.start cfg : Loop S).core.lastStep)
      (Loop.start cfg : Loop S).core :=
  ⟨accounted_new cfg, fun k p sk hp => absurd hp (by simp [Loop.start, StackCore.new])⟩

/-- **A property that meets its obligations holds after every guarded run.** -/
theorem pendingInv_of_run (hr : PendingRules api guard Q) {cfg : StackConfig} {es : List (Event S)}
    {l : Loop S} (hes : Guarded (Loop.next wire api) guard (.start cfg) es)
    (h : run (Loop.next wire api) (.start cfg) es = some l) :
    PendingInv (fun _ => Q l.phase l.core.lastStep) l.core := by
  have hkeep : ∀ (l : Loop S) e l', PendingInv (fun _ => Q l.phase l.core.lastStep) l.core →
      guard l e → l.next wire api e = some l' →
        PendingInv (fun _ => Q l'.phase l'.core.lastStep) l'.core :=
    fun _ _ _ hl hg hn => hr.pendingInv_next hl hg hn
  exact run_invariant hkeep (hr.pendingInv_start cfg) hes h

end PendingRules

end LiosTunnel.Stack
