import LiosTunnel.Stack.Accounting

/-!
# What holds of every connection

Most properties of the stack are about one connection at a time: its flow and its socket, a `Cell`.
The events reach a cell in few ways, one for each pass, the poll and the operations of its stream;
`FlowRules` lists them as obligations, and a property that meets them holds of every connection
after every guarded run, retired ones included.

* `StackCore.cell`: a flow with its socket, and what each operation makes of it.
* `FlowInv`, `FlowRules`: a property of the cells in each phase, and what it must survive.
* `Promotes`: the connections a part of the loop has accepted, by their streams' numbers.
* `FlowRules.flowInv_of_run`: it holds in every state reached.
-/

namespace LiosTunnel.Stack

open Runs

variable {S : Type} {api : TcpApi S} {wire : Wire} {s : StackCore S}

/-- The flow of a handle with its socket. -/
def StackCore.cell (s : StackCore S) (h : ℕ) : Option (Cell S) :=
  match s.sockets.get h, s.flows.lookup h with
  | some sk, some fl => some ⟨sk, fl⟩
  | _, _ => none

namespace StackCore

theorem cell_eq_some {h : ℕ} {c : Cell S} :
    s.cell h = some c ↔ s.sockets.get h = some c.socket ∧ s.flows.lookup h = some c.flow := by
  rw [cell]
  cases s.sockets.get h with
  | none => simp
  | some sk =>
    cases s.flows.lookup h with
    | none => simp
    | some fl =>
      simp only [Option.some.injEq]
      constructor
      · rintro rfl
        exact ⟨rfl, rfl⟩
      · rintro ⟨rfl, rfl⟩
        rfl

theorem cell_congr {s s' : StackCore S} {h : ℕ} (hsk : s'.sockets.get h = s.sockets.get h)
    (hfl : s'.flows.lookup h = s.flows.lookup h) : s'.cell h = s.cell h := by
  rw [cell, cell, hsk, hfl]

theorem cell_forFlows (f : Cell S → Cell S) (h : ℕ) :
    (s.forFlows f).cell h = (s.cell h).map f := by
  rw [cell, cell, get_forFlows, lookup_forFlows]
  cases s.sockets.get h with
  | none => rfl
  | some sk => cases s.flows.lookup h <;> rfl

theorem cell_of_notMem {h : ℕ} (hh : h ∉ s.flows) : s.cell h = none := by
  cases hc : s.cell h with
  | none => rfl
  | some c =>
    have hl := (cell_eq_some.1 hc).2
    exact absurd (AList.lookup_isSome.1 (hl ▸ rfl)) hh

/-- What is claimed of all cells can be decided, as they are finitely many. -/
instance (Q : ℕ → Cell S → Prop) [∀ h c, Decidable (Q h c)] :
    Decidable (∀ h c, s.cell h = some c → Q h c) :=
  decidable_of_iff (∀ h ∈ s.flows.keys, ∀ c, s.cell h = some c → Q h c)
    ⟨fun hall h c hc => hall h (AList.mem_keys.2 (AList.lookup_isSome.1
      (Option.isSome_of_eq_some (cell_eq_some.1 hc).2))) c hc, fun hall h _ => hall h⟩

end StackCore

namespace Accounted

theorem cell_ingest (hs : Accounted s) (packet : Bytes) (h : ℕ) :
    (s.ingest api wire packet).cell h = s.cell h := by
  have hinject : ∀ (nat : NatTable) src dst,
      ({ s with nat := nat }.injectListener api src dst).cell h = s.cell h := by
    intro nat src dst
    rw [StackCore.injectListener]
    split
    · rfl
    · by_cases hh : h = s.sockets.firstFree
      · subst hh
        rw [StackCore.cell_of_notMem hs.firstFree_notMem.2]
        exact StackCore.cell_of_notMem hs.firstFree_notMem.2
      · refine StackCore.cell_congr ?_ rfl
        show (s.sockets.add _).get h = _
        rw [SocketSet.get_add, if_neg hh]
  exact StackCore.ingest_elim (motive := fun s' => s'.cell h = s.cell h) api s packet
    (fun _ _ _ _ => rfl) (fun _ _ _ _ _ => rfl) (fun src dst _ _ _ => hinject _ src dst)
    (fun _ _ _ => rfl) (fun _ _ _ _ _ => rfl) (fun _ _ _ _ _ => rfl) (fun _ => rfl)

/-- A connection after a poll, and what it was before. -/
theorem exists_of_cell_poll (hs : Accounted s) {p : Poll S} {h : ℕ} {c : Cell S}
    (hc : (s.poll api p).cell h = some c) : ∃ sk sk' fl, s.cell h = some ⟨sk, fl⟩ ∧
      (s.poll api p).sockets.get h = some sk' ∧ c = ⟨sk', fl.polled api sk sk'⟩ := by
  obtain ⟨sk', fl'⟩ := c
  obtain ⟨hsk', hfl'⟩ := StackCore.cell_eq_some.1 hc
  have hmem : h ∈ s.flows :=
    HandleMap.mem_mapVal.1 (AList.lookup_isSome.1 (Option.isSome_of_eq_some hfl'))
  obtain ⟨fl, sk, hfl, hsk⟩ := hs.exists_flow hmem
  refine ⟨sk, sk', fl, StackCore.cell_eq_some.2 ⟨hsk, hfl⟩, hsk', ?_⟩
  have hget : SocketSet.get (p.run (s.rx.map Queued.packet) s.sockets).1 h = some sk' := hsk'
  simp only [StackCore.poll, HandleMap.lookup_mapVal, hfl, hsk, hget, Option.map_some] at hfl'
  rw [Option.some.inj hfl']

/-- What becomes of a connection in a poll. -/
theorem cell_poll (hs : Accounted s) (p : Poll S) {h : ℕ} {c : Cell S} (hc : s.cell h = some c) :
    ∃ sk', (s.poll api p).sockets.get h = some sk' ∧
      (s.poll api p).cell h = some ⟨sk', c.flow.polled api c.socket sk'⟩ := by
  obtain ⟨hsk, hfl⟩ := StackCore.cell_eq_some.1 hc
  have hmem : h ∈ s.flows := AList.lookup_isSome.1 (Option.isSome_of_eq_some hfl)
  have hs' : Accounted (s.poll api p) := accounted_poll hs p
  obtain ⟨fl', sk', hfl', hsk'⟩ := hs'.exists_flow (HandleMap.mem_mapVal.2 hmem)
  have hc' : (s.poll api p).cell h = some ⟨sk', fl'⟩ := StackCore.cell_eq_some.2 ⟨hsk', hfl'⟩
  obtain ⟨sk, sk'', fl, hcell, hsk'', hpolled⟩ := hs.exists_of_cell_poll hc'
  obtain rfl := Option.some.inj (hc.symm.trans hcell)
  exact ⟨sk'', hsk'', hpolled ▸ hc'⟩

theorem cell_dropPending (hs : Accounted s) {k : ℕ} (hk : k ∈ s.pending) (h : ℕ) :
    (s.dropPending k).cell h = s.cell h := by
  obtain ⟨p, sk, hp, -⟩ := hs.exists_pending hk
  rw [StackCore.dropPending, hp]
  by_cases hh : h = k
  · subst hh
    rw [StackCore.cell_of_notMem (hs.disjoint h hk)]
    exact StackCore.cell_of_notMem (hs.disjoint h hk)
  · refine StackCore.cell_congr ?_ rfl
    show (s.sockets.remove k).get h = _
    rw [SocketSet.get_remove, if_neg hh]

/-- A promotion makes one new cell, if any. -/
theorem cell_promote (hs : Accounted s) {k : ℕ} (hk : k ∈ s.pending) {h : ℕ} {c : Cell S}
    (hc : (s.promote api k).cell h = some c) :
    s.cell h = some c ∨ ∃ sk src dst, s.sockets.get k = some sk ∧ api.isActive sk = true ∧ h = k ∧
      c = ⟨api.setTimeout sk none, src, dst, s.nextStream, none, s.lastStep, none,
        (localStreamPair s.cfg.channelDepth).accept
          (api.recvBuffer (api.setTimeout sk none))⟩ := by
  obtain ⟨p, sk, hp, hsk⟩ := hs.exists_pending hk
  simp only [StackCore.promote, hp, hsk] at hc
  split at hc
  · rename_i hactive
    rw [StackCore.cell_eq_some, SocketSet.get_put hsk] at hc
    by_cases hh : h = k
    · subst hh
      rw [if_pos rfl, AList.lookup_insert] at hc
      obtain ⟨sock, flow⟩ := c
      obtain rfl := Option.some.inj hc.1
      obtain rfl := Option.some.inj hc.2
      exact Or.inr ⟨sk, _, _, hsk, hactive, rfl, rfl⟩
    · rw [if_neg hh, AList.lookup_insert_ne hh] at hc
      exact Or.inl (StackCore.cell_eq_some.2 hc)
  · exact Or.inl ((hs.cell_dropPending hk h).symm.trans hc)

theorem cell_retireFlow (hs : Accounted s) {k : ℕ} (hk : k ∈ s.flows) (h : ℕ) :
    (s.retireFlow api k).cell h = if h = k then none else s.cell h := by
  obtain ⟨f, sk, hf, hsk⟩ := hs.exists_flow hk
  rw [StackCore.retireFlow, hf, hsk]
  by_cases hh : h = k
  · subst hh
    rw [if_pos rfl]
    exact StackCore.cell_of_notMem fun hmem => (AList.mem_erase.1 hmem).1 rfl
  · rw [if_neg hh]
    refine StackCore.cell_congr ?_ (AList.lookup_erase_ne hh)
    show (s.sockets.remove k).get h = _
    rw [SocketSet.get_remove, if_neg hh]

theorem cell_sweepStaleListeners (hs : Accounted s) (h : ℕ) :
    (s.sweepStaleListeners api).cell h = s.cell h := by
  rw [StackCore.sweepStaleListeners, hs.touch_pending]
  have hrounds : Accounted ((s.staleListeners api).foldl StackCore.dropPending s) ∧
      ((s.staleListeners api).foldl StackCore.dropPending s).cell h = s.cell h := by
    refine foldl_rule (P := fun s' => Accounted s' ∧ s'.cell h = s.cell h)
      (Q := fun k s' => k ∈ s'.pending) (fun s' k hs' hk => ?_) (fun s' a b hab hs' ha hb => ?_)
      (s.pending.keys_nodup.filter _) ⟨hs, rfl⟩
      fun k hk => AList.mem_keys.2 (List.mem_of_mem_filter hk)
    · exact ⟨accounted_dropPending hs'.1 hk, (hs'.1.cell_dropPending hk h).trans hs'.2⟩
    · exact (mem_pending_dropPending hs'.1 ha b).2 ⟨hab.symm, hb⟩
  exact hrounds.2

theorem get_promote_ne (hs : Accounted s) {k : ℕ} (hk : k ∈ s.pending) {h : ℕ} (hh : h ≠ k) :
    (s.promote api k).sockets.get h = s.sockets.get h := by
  obtain ⟨p, sk, hp, hsk⟩ := hs.exists_pending hk
  simp only [StackCore.promote, hp, hsk]
  split
  · exact (SocketSet.get_put hsk h _).trans (if_neg hh)
  · rw [StackCore.dropPending, hp]
    exact (SocketSet.get_remove _ _ _).trans (if_neg hh)

/-- A connection outlives the promotions of others. -/
theorem cell_promoteAccepted (hs : Accounted s) {h : ℕ} {c : Cell S} (hc : s.cell h = some c) :
    (s.promoteAccepted api).cell h = some c := by
  rw [StackCore.promoteAccepted, hs.touch_pending]
  have hrounds : Accounted ((s.readyListeners api).foldl (StackCore.promote api) s) ∧
      ((s.readyListeners api).foldl (StackCore.promote api) s).cell h = some c := by
    refine foldl_rule (P := fun s' => Accounted s' ∧ s'.cell h = some c)
      (Q := fun k s' => k ∈ s'.pending) (fun s' k hs' hk => ?_) (fun s' a b hab hs' ha hb => ?_)
      (s.pending.keys_nodup.filter _) ⟨hs, hc⟩
      fun k hk => AList.mem_keys.2 (List.mem_of_mem_filter hk)
    · refine ⟨accounted_promote hs'.1 hk, ?_⟩
      have hne : h ≠ k := by
        rintro rfl
        exact absurd hs'.2 (by simp [StackCore.cell_of_notMem (hs'.1.disjoint h hk)])
      obtain ⟨p, sk, hp, hsk⟩ := hs'.1.exists_pending hk
      refine (StackCore.cell_congr (hs'.1.get_promote_ne hk hne) ?_).trans hs'.2
      simp only [StackCore.promote, StackCore.dropPending, hp, hsk]
      split
      · exact AList.lookup_insert_ne hne
      · rfl
    · exact (mem_pending_promote hs'.1 ha b).2 ⟨hab.symm, hb⟩
  exact hrounds.2

theorem retired_retireFlow (hs : Accounted s) {k : ℕ} (hk : k ∈ s.flows) {f : Flow}
    (hf : f ∈ (s.retireFlow api k).retired) :
    f ∈ s.retired ∨ ∃ c, s.cell k = some c ∧ f = c.flow.retire (api.recvBuffer c.socket) := by
  obtain ⟨fl, sk, hfl, hsk⟩ := hs.exists_flow hk
  simp only [StackCore.retireFlow, hfl, hsk, List.mem_append, List.mem_singleton] at hf
  refine hf.imp_right fun hf => ⟨⟨sk, fl⟩, StackCore.cell_eq_some.2 ⟨hsk, hfl⟩, hf⟩

/-- A connection whose socket is closed is retired. -/
theorem mem_retired_reapClosed (hs : Accounted s) {k : ℕ} {c : Cell S} (hc : s.cell k = some c)
    (hclosed : api.state c.socket = .closed) :
    c.flow.retire (api.recvBuffer c.socket) ∈ (s.reapClosed api).retired := by
  obtain ⟨hsk, hfl⟩ := StackCore.cell_eq_some.1 hc
  have hmem : k ∈ s.flows := AList.lookup_isSome.1 (Option.isSome_of_eq_some hfl)
  rw [StackCore.reapClosed, hs.touch_flows]
  refine foldl_reaches (P := Accounted) (Q := fun a s' => a ∈ s'.flows ∧ s'.cell a = s.cell a)
    (R := fun s' => c.flow.retire (api.recvBuffer c.socket) ∈ s'.retired)
    (fun s' a hs ha => accounted_retireFlow hs ha.1) (fun s' a b hab hs ha hb => ?_)
    (fun s' hs hk => ?_) (fun s' a hs ha hret => ?_) (s.flows.keys_nodup.filter _)
    (List.mem_filter.2 ⟨AList.mem_keys.1 hmem, ?_⟩) hs
    fun a ha => ⟨AList.mem_keys.2 (List.mem_of_mem_filter ha), rfl⟩
  · refine ⟨(mem_flows_retireFlow hs ha.1 b).2 ⟨hab.symm, hb.1⟩, ?_⟩
    rw [hs.cell_retireFlow ha.1, if_neg hab.symm, hb.2]
  · obtain ⟨hsk', hfl'⟩ := StackCore.cell_eq_some.1 (hk.2.trans hc)
    simp only [StackCore.retireFlow, hfl', hsk', List.mem_append, List.mem_singleton, or_true]
  · obtain ⟨f, sk, hf, hsk'⟩ := hs.exists_flow ha.1
    simp only [StackCore.retireFlow, hf, hsk']
    exact List.mem_append_left _ hret
  · simp [StackCore.stateIs, hsk, hclosed]

/-- And it is no connection any more. -/
theorem notMem_flows_reapClosed (hs : Accounted s) {k : ℕ} {c : Cell S} (hc : s.cell k = some c)
    (hclosed : api.state c.socket = .closed) : k ∉ (s.reapClosed api).flows := by
  obtain ⟨hsk, hfl⟩ := StackCore.cell_eq_some.1 hc
  have hmem : k ∈ s.flows := AList.lookup_isSome.1 (Option.isSome_of_eq_some hfl)
  rw [StackCore.reapClosed, hs.touch_flows]
  refine foldl_reaches (P := Accounted) (Q := fun a s' => a ∈ s'.flows)
    (R := fun s' => k ∉ s'.flows) (fun s' a hs' ha => accounted_retireFlow hs' ha)
    (fun s' a b hab hs' ha hb => (mem_flows_retireFlow hs' ha b).2 ⟨hab.symm, hb⟩)
    (fun s' hs' hk hin => ((mem_flows_retireFlow hs' hk k).1 hin).1 rfl)
    (fun s' a hs' ha hout hin => hout ((mem_flows_retireFlow hs' ha k).1 hin).2)
    (s.flows.keys_nodup.filter _) (List.mem_filter.2 ⟨AList.mem_keys.2 hmem, ?_⟩) hs
    fun a ha => AList.mem_keys.2 (List.mem_of_mem_filter ha)
  simp [StackCore.stateIs, hsk, hclosed]

/-- A connection that is left was one before, and is not closed. -/
theorem cell_reapClosed (hs : Accounted s) {k : ℕ} {c : Cell S}
    (hc : (s.reapClosed api).cell k = some c) :
    s.cell k = some c ∧ api.state c.socket ≠ .closed := by
  have hrounds : Accounted (s.reapClosed api) ∧
      ∀ c, (s.reapClosed api).cell k = some c → s.cell k = some c := by
    rw [StackCore.reapClosed, hs.touch_flows]
    refine foldl_rule (P := fun s' => Accounted s' ∧ ∀ c, s'.cell k = some c → s.cell k = some c)
      (Q := fun a s' => a ∈ s'.flows) (fun s' a hs' ha => ?_)
      (fun s' a b hab hs' ha hb => (mem_flows_retireFlow hs'.1 ha b).2 ⟨hab.symm, hb⟩)
      (s.flows.keys_nodup.filter _) ⟨hs, fun _ => id⟩
      fun a ha => AList.mem_keys.2 (List.mem_of_mem_filter ha)
    refine ⟨accounted_retireFlow hs'.1 ha, fun c hc => ?_⟩
    rw [hs'.1.cell_retireFlow ha] at hc
    split at hc
    · cases hc
    · exact hs'.2 c hc
  have hbefore := hrounds.2 c hc
  refine ⟨hbefore, fun hclosed => hs.notMem_flows_reapClosed hbefore hclosed ?_⟩
  exact AList.lookup_isSome.1 (Option.isSome_of_eq_some (StackCore.cell_eq_some.1 hc).2)

end Accounted

/-- No socket is in SYN-SENT when listeners are promoted: the stack connects none from its side. -/
def NeverDials (api : TcpApi S) (l : Loop S) : Event S → Prop
  | .pass => l.phase = .promote → ∀ h sk, l.core.sockets.get h = some sk → api.state sk ≠ .synSent
  | _ => True

instance (l : Loop S) : (e : Event S) → Decidable (NeverDials api l e)
  | .pass => inferInstanceAs (Decidable (l.phase = .promote →
      ∀ h sk, l.core.sockets.get h = some sk → api.state sk ≠ .synSent))
  | .ingest _ | .begin _ | .poll _ | .stream _ _ | .drain => .isTrue trivial

/-- A listener that is ready is connected. -/
theorem NeverDials.connected {l : Loop S} (h : NeverDials api l .pass) (hp : l.phase = .promote)
    {k : ℕ} {sk : S} (hsk : l.core.sockets.get k = some sk) (hlisten : api.state sk ≠ .listen)
    (hsyn : api.state sk ≠ .synReceived) : (api.state sk).connected = true := by
  have hsent := h hp k sk hsk
  cases hstate : api.state sk with
  | listen => exact absurd hstate hlisten
  | synReceived => exact absurd hstate hsyn
  | synSent => exact absurd hstate hsent
  | _ => rfl

/-! ## Times and numbers -/

theorem lastStep_dropPending (s : StackCore S) (k : ℕ) :
    (s.dropPending k).lastStep = s.lastStep := by
  obtain ⟨_, _, _, _, h⟩ := s.dropPending_changes k
  rw [h]

theorem lastStep_promote (s : StackCore S) (k : ℕ) :
    (s.promote api k).lastStep = s.lastStep := by
  obtain ⟨_, _, _, _, _, _, _, h⟩ := s.promote_changes api k
  rw [h]

theorem lastStep_retireFlow (s : StackCore S) (k : ℕ) :
    (s.retireFlow api k).lastStep = s.lastStep := by
  obtain ⟨_, _, _, _, _, h⟩ := s.retireFlow_changes api k
  rw [h]

theorem lastStep_ingest (s : StackCore S) (packet : Bytes) :
    (s.ingest api wire packet).lastStep = s.lastStep := by
  have hinject : ∀ (nat : NatTable) src dst,
      ({ s with nat := nat }.injectListener api src dst).lastStep = s.lastStep := by
    intro nat src dst
    obtain ⟨_, _, _, h⟩ := { s with nat := nat }.injectListener_changes api src dst
    rw [h]
  exact StackCore.ingest_elim (motive := fun s' => s'.lastStep = s.lastStep) api s packet
    (fun _ _ _ _ => rfl) (fun _ _ _ _ _ => rfl) (fun src dst _ _ _ => hinject _ src dst)
    (fun _ _ _ => rfl) (fun _ _ _ _ _ => rfl) (fun _ _ _ _ _ => rfl) (fun _ => rfl)

theorem lastStep_sweepStaleListeners (s : StackCore S) :
    (s.sweepStaleListeners api).lastStep = s.lastStep := foldl_keeps lastStep_dropPending _ _

theorem lastStep_promoteAccepted (s : StackCore S) :
    (s.promoteAccepted api).lastStep = s.lastStep := foldl_keeps lastStep_promote _ _

theorem lastStep_reapClosed (s : StackCore S) : (s.reapClosed api).lastStep = s.lastStep :=
  foldl_keeps lastStep_retireFlow _ _

/-! ## Promoted connections -/

/-- What a part of the loop appends to `accepts` is numbered on from before. -/
def Promotes (s s' : StackCore S) : Prop :=
  ∃ fs : List TcpFlow, s'.accepts = s.accepts ++ fs ∧
    fs.map TcpFlow.stream = List.range' s.nextStream fs.length ∧
      s'.nextStream = s.nextStream + fs.length

namespace Promotes

variable {s s₁ s₂ : StackCore S}

/-- Nothing is promoted. -/
theorem of_eq (haccepts : s₁.accepts = s.accepts) (hnext : s₁.nextStream = s.nextStream) :
    Promotes s s₁ :=
  ⟨[], by rw [haccepts, List.append_nil], rfl, hnext⟩

theorem trans (h : Promotes s s₁) (h' : Promotes s₁ s₂) : Promotes s s₂ := by
  obtain ⟨fs, haccepts, hstreams, hnext⟩ := h
  obtain ⟨fs', haccepts', hstreams', hnext'⟩ := h'
  refine ⟨fs ++ fs', ?_, ?_, ?_⟩
  · rw [haccepts', haccepts, List.append_assoc]
  · rw [List.map_append, hstreams, hstreams', hnext, List.length_append, List.range'_append_1]
  · rw [hnext', hnext, List.length_append, Nat.add_assoc]

theorem le (h : Promotes s s₁) : s.nextStream ≤ s₁.nextStream := by
  obtain ⟨fs, -, -, hnext⟩ := h
  omega

theorem promote (s : StackCore S) (k : ℕ) : Promotes s (s.promote api k) := by
  rw [StackCore.promote]
  split
  · split
    · exact ⟨[_], rfl, rfl, rfl⟩
    · obtain ⟨_, _, _, _, h⟩ := s.dropPending_changes k
      rw [h]
      exact of_eq rfl rfl
  · exact of_eq rfl rfl

/-- A loop over the handles. -/
theorem foldl {f : StackCore S → ℕ → StackCore S} (hf : ∀ s k, Promotes s (f s k))
    (ks : List ℕ) (s : StackCore S) : Promotes s (ks.foldl f s) := by
  induction ks generalizing s with
  | nil => exact of_eq rfl rfl
  | cons k ks ih => exact (hf s k).trans (ih _)

theorem ingest (s : StackCore S) (packet : Bytes) : Promotes s (s.ingest api wire packet) := by
  refine StackCore.ingest_elim (motive := Promotes s) api s packet (fun _ _ _ _ => of_eq rfl rfl)
    (fun _ _ _ _ _ => of_eq rfl rfl) (fun src dst _ _ _ => ?_) (fun _ _ _ => of_eq rfl rfl)
    (fun _ _ _ _ _ => of_eq rfl rfl) (fun _ _ _ _ _ => of_eq rfl rfl) fun _ => of_eq rfl rfl
  obtain ⟨_, _, _, h⟩ :=
    { s with nat := (s.nat.arm src dst).2 }.injectListener_changes api src dst
  rw [h]
  exact of_eq rfl rfl

/-- What the loop takes out is not counted. -/
theorem next {l l' : Loop S} {e : Event S} (he : e ≠ .drain) (hn : l.next wire api e = some l') :
    Promotes l.core l'.core := by
  revert he
  have hdrop : ∀ (s : StackCore S) k, Promotes s (s.dropPending k) := by
    intro s k
    obtain ⟨_, _, _, _, h⟩ := s.dropPending_changes k
    rw [h]
    exact of_eq rfl rfl
  have hretire : ∀ (s : StackCore S) k, Promotes s (s.retireFlow api k) := by
    intro s k
    obtain ⟨_, _, _, _, _, h⟩ := s.retireFlow_changes api k
    rw [h]
    exact of_eq rfl rfl
  exact Loop.next_elim hn (fun packet _ _ => ingest l.core packet)
    (fun _ _ _ => of_eq rfl rfl) (fun _ _ => of_eq rfl rfl) (fun _ _ => of_eq rfl rfl)
    (fun _ _ _ => of_eq rfl rfl)
    (fun _ _ => foldl hdrop (l.core.staleListeners api) (l.core.touch l.core.pending.keys))
    (fun _ _ => foldl promote (l.core.readyListeners api) (l.core.touch l.core.pending.keys))
    (fun _ _ => of_eq rfl rfl) (fun _ _ => of_eq rfl rfl)
    (fun _ _ => foldl hretire (l.core.deadFlows api) (l.core.touch l.core.flows.keys))
    (fun _ _ _ => of_eq rfl rfl) (fun _ he => absurd rfl he)

end Promotes

theorem nextStream_next {l l' : Loop S} {e : Event S} (hn : l.next wire api e = some l') :
    l.core.nextStream ≤ l'.core.nextStream := by
  by_cases he : e = .drain
  · subst he
    simp only [Loop.next] at hn
    split at hn
    · obtain rfl := Option.some.inj hn
      exact le_rfl
    · cases hn
  · exact (Promotes.next he hn).le

/-! ## Obligations -/

/-- A property of the connections: `P` of the live ones, `R` of the retired ones. -/
structure FlowInv (P : Cell S → Prop) (R : Flow → Prop) (s : StackCore S) : Prop where
  accounted : Accounted s
  live : ∀ h c, s.cell h = some c → P c
  retired : ∀ f ∈ s.retired, R f

/-- A cell through an operation of the stream numbered `n`. -/
def Cell.useStream (n : ℕ) (op : StreamOp) (c : Cell S) : Cell S :=
  { c with flow := c.flow.useStream n op }

/-- What a stream is used for reaches its connection. -/
theorem StackCore.cell_stream (s : StackCore S) (n : ℕ) (op : StreamOp) (h : ℕ) :
    (s.stream n op).cell h = (s.cell h).map (Cell.useStream n op) := by
  have hlookup : (s.stream n op).flows.lookup h = (s.flows.lookup h).map (Flow.useStream n op) :=
    HandleMap.lookup_mapVal _ _ _
  have hget : (s.stream n op).sockets.get h = s.sockets.get h := rfl
  rw [cell, cell, hlookup, hget]
  cases s.sockets.get h with
  | none => rfl
  | some sk => cases s.flows.lookup h <;> rfl

/-- What a property of the connections, one for each phase and time of the last step, must survive
under a guard. -/
structure FlowRules (api : TcpApi S) (guard : Loop S → Event S → Prop)
    (P : Phase → ℕ → Cell S → Prop) (R : Flow → Prop) : Prop where
  start : ∀ now now' c, P .idle now c → P .abort now' c
  /-- The passes that leave the connections alone. -/
  quiet : ∀ now c, (P .sweep now c → P .promote now c) ∧
    (P .promote now c → P .pumpInbound now c) ∧ (P .reap now c → P .idle now c)
  abort : ∀ now c, P .abort now c → P .pumpOutbound now (c.abortExpired api now)
  pumpOutbound : ∀ l, l.phase = .pumpOutbound → guard l .pass → ∀ h c, l.core.cell h = some c →
    P .pumpOutbound l.core.lastStep c →
      P .poll l.core.lastStep (c.pumpOutbound api l.core.lastStep)
  poll : ∀ l p, l.phase = .poll → guard l (.poll p) → ∀ h sk sk' fl, l.core.cell h = some ⟨sk, fl⟩ →
    (l.core.poll api p).sockets.get h = some sk' → P .poll l.core.lastStep ⟨sk, fl⟩ →
      P .sweep l.core.lastStep ⟨sk', fl.polled api sk sk'⟩
  promote : ∀ l, l.phase = .promote → guard l .pass → ∀ h sk src dst n now depth,
    h ∈ l.core.pending → l.core.sockets.get h = some sk → api.state sk ≠ .listen →
      api.state sk ≠ .synReceived → api.isActive sk = true → l.core.nextStream ≤ n →
        P .pumpInbound l.core.lastStep
          ⟨api.setTimeout sk none, src, dst, n, none, now, none,
            (localStreamPair depth).accept (api.recvBuffer (api.setTimeout sk none))⟩
  pumpInbound : ∀ l, l.phase = .pumpInbound → guard l .pass → ∀ h c, l.core.cell h = some c →
    P .pumpInbound l.core.lastStep c →
      P .observe l.core.lastStep (c.pumpInbound api l.core.lastStep)
  observe : ∀ now c, P .observe now c → P .reap now (c.observe api now)
  reap : ∀ now c, P .reap now c → api.state c.socket = .closed →
    R (c.flow.retire (api.recvBuffer c.socket))
  stream : ∀ l n op, guard l (.stream n op) → ∀ h c, l.core.cell h = some c →
    P l.phase l.core.lastStep c → P l.phase l.core.lastStep (c.useStream n op)
  streamRetired : ∀ l n op, guard l (.stream n op) → ∀ f ∈ l.core.retired, R f →
    R (f.useStream n op)

namespace FlowInv

variable {P P' : Cell S → Prop} {R : Flow → Prop}

theorem mono (h : FlowInv P R s) (hP : ∀ c, P c → P' c) : FlowInv P' R s :=
  ⟨h.accounted, fun k c hc => hP c (h.live k c hc), h.retired⟩

theorem forFlows (h : FlowInv P R s) {f : Cell S → Cell S}
    (hf : ∀ k c, s.cell k = some c → P c → P' (f c)) : FlowInv P' R (s.forFlows f) := by
  refine ⟨accounted_forFlows h.accounted f, fun k c hc => ?_, h.retired⟩
  rw [StackCore.cell_forFlows, Option.map_eq_some_iff] at hc
  obtain ⟨c, hc, rfl⟩ := hc
  exact hf k c hc (h.live k c hc)

theorem poll (h : FlowInv P R s) {p : Poll S}
    (hp : ∀ k sk sk' fl, s.cell k = some ⟨sk, fl⟩ → (s.poll api p).sockets.get k = some sk' →
      P ⟨sk, fl⟩ → P' ⟨sk', fl.polled api sk sk'⟩) : FlowInv P' R (s.poll api p) := by
  refine ⟨accounted_poll h.accounted p, fun k c hc => ?_, h.retired⟩
  obtain ⟨sk, sk', fl, hcell, hsk', rfl⟩ := h.accounted.exists_of_cell_poll hc
  exact hp k sk sk' fl hcell hsk' (h.live k _ hcell)

theorem ingest (h : FlowInv P R s) (packet : Bytes) : FlowInv P R (s.ingest api wire packet) := by
  refine ⟨accounted_ingest h.accounted packet, fun k c hc => ?_, ?_⟩
  · exact h.live k c ((h.accounted.cell_ingest packet k).symm.trans hc)
  · have hinject : ∀ (nat : NatTable) src dst,
        ({ s with nat := nat }.injectListener api src dst).retired = s.retired := by
      intro nat src dst
      obtain ⟨_, _, _, h⟩ := { s with nat := nat }.injectListener_changes api src dst
      rw [h]
    have hretired : (s.ingest api wire packet).retired = s.retired :=
      StackCore.ingest_elim (motive := fun s' => s'.retired = s.retired) api s packet
        (fun _ _ _ _ => rfl) (fun _ _ _ _ _ => rfl) (fun src dst _ _ _ => hinject _ src dst)
        (fun _ _ _ => rfl) (fun _ _ _ _ _ => rfl) (fun _ _ _ _ _ => rfl) (fun _ => rfl)
    rw [hretired]
    exact h.retired

theorem sweepStaleListeners (h : FlowInv P R s) : FlowInv P R (s.sweepStaleListeners api) := by
  rw [StackCore.sweepStaleListeners, h.accounted.touch_pending]
  refine foldl_rule (P := FlowInv P R) (Q := fun k s => k ∈ s.pending) (fun s k hs hk => ?_)
    (fun s a b hab hs ha hb => (mem_pending_dropPending hs.accounted ha b).2 ⟨hab.symm, hb⟩)
    (s.pending.keys_nodup.filter _) h fun k hk => AList.mem_keys.2 (List.mem_of_mem_filter hk)
  refine ⟨accounted_dropPending hs.accounted hk, fun h c hc => ?_, ?_⟩
  · exact hs.live h c ((hs.accounted.cell_dropPending hk h).symm.trans hc)
  · obtain ⟨_, _, _, _, hchanges⟩ := s.dropPending_changes k
    rw [hchanges]
    exact hs.retired

theorem promoteAccepted (h : FlowInv P R s)
    (hfresh : ∀ k sk src dst n now depth, k ∈ s.pending → s.sockets.get k = some sk →
      api.state sk ≠ .listen → api.state sk ≠ .synReceived → api.isActive sk = true →
        s.nextStream ≤ n →
          P ⟨api.setTimeout sk none, src, dst, n, none, now, none,
            (localStreamPair depth).accept (api.recvBuffer (api.setTimeout sk none))⟩) :
    FlowInv P R (s.promoteAccepted api) := by
  rw [StackCore.promoteAccepted, h.accounted.touch_pending]
  have hrounds : FlowInv P R ((s.readyListeners api).foldl (StackCore.promote api) s) ∧
      s.nextStream ≤ ((s.readyListeners api).foldl (StackCore.promote api) s).nextStream := by
    refine foldl_rule (P := fun s' => FlowInv P R s' ∧ s.nextStream ≤ s'.nextStream)
      (Q := fun k s' => k ∈ s'.pending ∧ s'.sockets.get k = s.sockets.get k ∧ k ∈ s.pending ∧
        s.stateIs api k fun st => st != .listen && st != .synReceived)
      (fun s' k hs hk => ?_) (fun s' a b hab hs ha hb => ?_)
      (s.pending.keys_nodup.filter _) ⟨h, le_rfl⟩ fun k hk => ?_
    · obtain ⟨hs, hle⟩ := hs
      obtain ⟨hk, hget, hmem, hready⟩ := hk
      refine ⟨⟨accounted_promote hs.accounted hk, fun a c hc => ?_, ?_⟩, ?_⟩
      · obtain hc | ⟨sk, src, dst, hsk, hactive, rfl, rfl⟩ := hs.accounted.cell_promote hk hc
        · exact hs.live a c hc
        · rw [hget] at hsk
          simp only [StackCore.stateIs, hsk, Option.any_some, Bool.and_eq_true, bne_iff_ne]
            at hready
          exact hfresh a sk src dst _ _ _ hmem hsk hready.1 hready.2 hactive hle
      · obtain ⟨_, _, _, _, _, _, _, hchanges⟩ := s'.promote_changes api k
        rw [hchanges]
        exact hs.retired
      · exact hle.trans (Promotes.promote s' k).le
    · refine ⟨(mem_pending_promote hs.1.accounted ha.1 b).2 ⟨hab.symm, hb.1⟩, ?_, hb.2.2⟩
      rw [hs.1.accounted.get_promote_ne ha.1 hab.symm, hb.2.1]
    · obtain ⟨hk, hready⟩ := List.mem_filter.1 hk
      exact ⟨AList.mem_keys.2 hk, rfl, AList.mem_keys.2 hk, hready⟩
  exact hrounds.1

theorem reapClosed (h : FlowInv P R s)
    (hreap : ∀ c, P c → api.state c.socket = .closed →
      R (c.flow.retire (api.recvBuffer c.socket))) : FlowInv P R (s.reapClosed api) := by
  rw [StackCore.reapClosed, h.accounted.touch_flows]
  refine foldl_rule (P := FlowInv P R)
    (Q := fun k s' => k ∈ s'.flows ∧ s'.cell k = s.cell k ∧ s.stateIs api k (· == .closed))
    (fun s' k hs hk => ?_) (fun s' a b hab hs ha hb => ?_) (s.flows.keys_nodup.filter _) h
    fun k hk => ?_
  · obtain ⟨hk, hcell, hclosed⟩ := hk
    refine ⟨accounted_retireFlow hs.accounted hk, fun a c hc => ?_, fun f hf => ?_⟩
    · rw [hs.accounted.cell_retireFlow hk] at hc
      split at hc
      · cases hc
      · exact hs.live a c hc
    · obtain hf | ⟨c, hc, rfl⟩ := hs.accounted.retired_retireFlow hk hf
      · exact hs.retired f hf
      · refine hreap c (hs.live k c hc) ?_
        rw [hcell] at hc
        simpa [StackCore.stateIs, (StackCore.cell_eq_some.1 hc).1] using hclosed
  · refine ⟨(mem_flows_retireFlow hs.accounted ha.1 b).2 ⟨hab.symm, hb.1⟩, ?_, hb.2.2⟩
    rw [hs.accounted.cell_retireFlow ha.1, if_neg hab.symm, hb.2.1]
  · obtain ⟨hk, hclosed⟩ := List.mem_filter.1 hk
    exact ⟨AList.mem_keys.2 hk, rfl, hclosed⟩

theorem stream (h : FlowInv P R s) {n : ℕ} {op : StreamOp}
    (hlive : ∀ k c, s.cell k = some c → P c → P' (c.useStream n op))
    (hretired : ∀ f ∈ s.retired, R f → R (f.useStream n op)) : FlowInv P' R (s.stream n op) := by
  refine ⟨accounted_stream h.accounted n op, fun k c hc => ?_, fun f hf => ?_⟩
  · rw [StackCore.cell_stream, Option.map_eq_some_iff] at hc
    obtain ⟨c, hc, rfl⟩ := hc
    exact hlive k c hc (h.live k c hc)
  · obtain ⟨g, hg, rfl⟩ := List.mem_map.1 hf
    exact hretired g hg (h.retired g hg)

end FlowInv

namespace FlowRules

variable {guard : Loop S → Event S → Prop} {P : Phase → ℕ → Cell S → Prop} {R : Flow → Prop}

/-- One event keeps a property that meets its obligations. -/
theorem flowInv_next (hr : FlowRules api guard P R) {l l' : Loop S} {e : Event S}
    (h : FlowInv (P l.phase l.core.lastStep) R l.core) (hg : guard l e)
    (hn : l.next wire api e = some l') : FlowInv (P l'.phase l'.core.lastStep) R l'.core := by
  revert hg
  refine Loop.next_elim hn (fun packet hp hg => ?_) (fun now hp hg => ?_) (fun hp hg => ?_)
    (fun hp hg => ?_) (fun p hp hg => ?_) (fun hp hg => ?_) (fun hp hg => ?_) (fun hp hg => ?_)
    (fun hp hg => ?_) (fun hp hg => ?_) (fun n op hg => ?_) (fun hp hg => ?_)
  · dsimp only
    rw [lastStep_ingest]
    exact (hp ▸ h).ingest packet
  · have hmono := (hp ▸ h).mono fun c => hr.start l.core.lastStep now c
    exact ⟨accounted_begin hmono.accounted now, hmono.live, hmono.retired⟩
  · exact (hp ▸ h).forFlows fun k c _ => hr.abort _ c
  · exact (hp ▸ h).forFlows fun k c hc => hr.pumpOutbound l hp hg k c hc
  · exact (hp ▸ h).poll fun k sk sk' fl hc hsk' => hr.poll l p hp hg k sk sk' fl hc hsk'
  · dsimp only
    rw [lastStep_sweepStaleListeners]
    exact ((hp ▸ h).sweepStaleListeners).mono fun c => (hr.quiet _ c).1
  · dsimp only
    rw [lastStep_promoteAccepted]
    refine ((hp ▸ h).mono fun c => (hr.quiet _ c).2.1).promoteAccepted ?_
    exact hr.promote l hp hg
  · exact (hp ▸ h).forFlows fun k c hc => hr.pumpInbound l hp hg k c hc
  · exact (hp ▸ h).forFlows fun k c _ => hr.observe _ c
  · dsimp only
    rw [lastStep_reapClosed]
    exact ((hp ▸ h).reapClosed (hr.reap _)).mono fun c => (hr.quiet _ c).2.2
  · exact h.stream (fun k c hc => hr.stream l n op hg k c hc)
      (fun f hf => hr.streamRetired l n op hg f hf)
  · rw [hp] at h
    exact ⟨accounted_drain h.accounted, h.live, h.retired⟩

/-- There is no connection at the start. -/
theorem flowInv_start (_ : FlowRules api guard P R) (cfg : StackConfig) :
    FlowInv (P (Loop.start cfg : Loop S).phase (Loop.start cfg : Loop S).core.lastStep) R
      (Loop.start cfg : Loop S).core := by
  refine ⟨accounted_new cfg, fun k c hc => ?_, fun f hf => ?_⟩
  · exact absurd hc (by simp [Loop.start, StackCore.new, StackCore.cell])
  · exact absurd hf (by simp [Loop.start, StackCore.new])

/-- **A property that meets its obligations holds after every guarded run.** -/
theorem flowInv_of_run (hr : FlowRules api guard P R) {cfg : StackConfig} {es : List (Event S)}
    {l : Loop S} (hes : Guarded (Loop.next wire api) guard (.start cfg) es)
    (h : run (Loop.next wire api) (.start cfg) es = some l) :
    FlowInv (P l.phase l.core.lastStep) R l.core := by
  have hkeep : ∀ (l : Loop S) e l', FlowInv (P l.phase l.core.lastStep) R l.core → guard l e →
      l.next wire api e = some l' → FlowInv (P l'.phase l'.core.lastStep) R l'.core :=
    fun _ _ _ hl hg hn => hr.flowInv_next hl hg hn
  exact run_invariant hkeep (hr.flowInv_start cfg) hes h

end FlowRules

end LiosTunnel.Stack
