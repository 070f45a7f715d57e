import LiosTunnel.Lib.Timed
import LiosTunnel.Protocols.Shadowsocks

/-!
# The probe and its time

`ShadowsocksTunnel::probe` and `probe_once` of `shadowsocks.rs` with the clock: each resolver has an
equal share of the time, and the attempt at it ends within its share or is given up. A resolver may
answer at any time, fail at any time, or hang.

* `ShadowsocksTunnel.probeOnce`, `ShadowsocksTunnel.probeTimed`.
* `probeOnce_shares`: which resolvers are tried, and what comes of it.
* `probeTimed_eq_probeOnce`: the deadline over all of them is not met before the last share is used.
* `probe_eq_probeOnce`: the same without the clock is `ShadowsocksTunnel.probe`.
-/

namespace LiosTunnel.Protocols

open Config Timed

namespace ShadowsocksTunnel

/-- `PROBE_TIMEOUT`, in nanoseconds. -/
def PROBE_TIMEOUT : ℕ := 8 * 10 ^ 9

/-- `u32::MAX`. -/
def U32_MAX : ℕ := 4294967295

/-- `Duration / u32`; `none` is a panic. -/
def divDuration (d n : ℕ) : Option ℕ := if n = 0 then none else some (d / n)

/-- `u32::try_from(dns.servers.len()).unwrap_or(u32::MAX)`. -/
def serverCount (servers : List IpAddr) : ℕ :=
  if servers.length ≤ U32_MAX then servers.length else U32_MAX

/-- What `probe_once` makes of the end of an attempt: an answer of its own, or the error of one more
resolver that failed. -/
def settle : Option (Except TunnelError Unit) → Except TunnelError Unit ⊕ TunnelError
  | some (.ok ()) => .inl (.ok ())
  -- the same for every resolver, so the next one is not asked
  | some (.error (.config field reason)) => .inl (.error (.config field reason))
  | some (.error e) => .inr e
  | none => .inr probeTimedOut

/-- One round of `probe_once`'s loop, with what its resolver answers. -/
def probeAttempt (each : ℕ) (outcomes : ℕ → Answer (Except TunnelError Unit))
    (server : IpAddr × ℕ) : Timed IpAddr (Except TunnelError Unit ⊕ TunnelError) :=
  emit server.1 <| ((outcomes server.2).wait.timeout each).bind fun r => done (settle r)

/-- `probe_once`; what it emits are the resolvers it tries, and `none` is a panic. -/
def probeOnce (probeTimeout : ℕ) (servers : List IpAddr)
    (outcomes : ℕ → Answer (Except TunnelError Unit)) :
    Option (Timed IpAddr (Except TunnelError Unit)) :=
  let n := serverCount servers
  if n = 0 then some (done (.error (.config "dns.servers" [.lit "must not be empty"])))
  else
    (divDuration probeTimeout n).map fun each =>
      (firstOf (probeAttempt each outcomes) none servers.zipIdx).bind fun
        | .inl answer => done answer
        | .inr last => done (.error (last.getD probeTimedOut))

/-- `probe`. -/
def probeTimed (probeTimeout : ℕ) (servers : List IpAddr)
    (outcomes : ℕ → Answer (Except TunnelError Unit)) :
    Option (Timed IpAddr (Except TunnelError Unit)) :=
  (probeOnce probeTimeout servers outcomes).map fun p =>
    (p.timeout probeTimeout).bind fun
      | some r => done r
      | none => done (.error probeTimedOut)

/-! ## What an attempt comes to -/

/-- The time that each resolver has. -/
def share (probeTimeout : ℕ) (servers : List IpAddr) : ℕ := probeTimeout / serverCount servers

/-- The resolver answers within its share. -/
def Succeeds (each : ℕ) (outcome : Answer (Except TunnelError Unit)) : Prop :=
  ∃ t ≤ each, outcome = some (t, .ok ())

/-- The attempt ends in a `Config` error within its share. -/
def Misconfigured (each : ℕ) (outcome : Answer (Except TunnelError Unit)) : Prop :=
  ∃ t ≤ each, ∃ field reason, outcome = some (t, .error (.config field reason))

/-- What an attempt that does not succeed fails with. -/
def attemptFailure (each : ℕ) : Answer (Except TunnelError Unit) → TunnelError
  | some (t, .error e) => if t ≤ each then e else probeTimedOut
  | _ => probeTimedOut

variable {each : ℕ} {outcomes : ℕ → Answer (Except TunnelError Unit)}

/-- The three ways an attempt ends. -/
theorem probeAttempt_cases (each : ℕ) (outcomes : ℕ → Answer (Except TunnelError Unit))
    (server : IpAddr × ℕ) :
    (Succeeds each (outcomes server.2) ∧ ¬Misconfigured each (outcomes server.2) ∧
      (probeAttempt each outcomes server).result = some (.inl (.ok ()))) ∨
    (Misconfigured each (outcomes server.2) ∧ ¬Succeeds each (outcomes server.2) ∧
      (probeAttempt each outcomes server).result =
        some (.inl (.error (attemptFailure each (outcomes server.2))))) ∨
    (¬Succeeds each (outcomes server.2) ∧ ¬Misconfigured each (outcomes server.2) ∧
      (probeAttempt each outcomes server).result =
        some (.inr (attemptFailure each (outcomes server.2)))) := by
  rw [probeAttempt, result, result_bind, result_timeout]
  rcases houtcome : outcomes server.2 with _ | ⟨t, r⟩
  · refine Or.inr (Or.inr ⟨?_, ?_, ?_⟩)
    · rintro ⟨_, _, ⟨⟩⟩
    · rintro ⟨_, _, _, _, ⟨⟩⟩
    · split <;> rfl
  · by_cases ht : t ≤ each
    · rw [if_pos (show (Answer.wait (some (t, r)) : Timed IpAddr _).time ≤ each from ht)]
      rcases r with e | ⟨⟩
      · have hfailure : attemptFailure each (some (t, .error e)) = e := if_pos ht
        rw [hfailure]
        cases e with
        | config field reason =>
          refine Or.inr (Or.inl ⟨⟨t, ht, field, reason, rfl⟩, ?_, rfl⟩)
          rintro ⟨_, _, ⟨⟩⟩
        | _ =>
          refine Or.inr (Or.inr ⟨?_, ?_, rfl⟩)
          · rintro ⟨_, _, ⟨⟩⟩
          · rintro ⟨_, _, _, _, ⟨⟩⟩
      · refine Or.inl ⟨⟨t, ht, rfl⟩, ?_, rfl⟩
        rintro ⟨_, _, _, _, ⟨⟩⟩
    · rw [if_neg (show ¬(Answer.wait (some (t, r)) : Timed IpAddr _).time ≤ each from ht)]
      refine Or.inr (Or.inr ⟨?_, ?_, ?_⟩)
      · rintro ⟨_, ht', ⟨⟩⟩
        exact ht ht'
      · rintro ⟨_, ht', _, _, ⟨⟩⟩
        exact ht ht'
      · cases r with
        | error e => rw [attemptFailure, if_neg ht]; rfl
        | ok u => rfl

/-- An attempt tries its resolver and no other. -/
theorem trace_probeAttempt (each : ℕ) (outcomes : ℕ → Answer (Except TunnelError Unit))
    (server : IpAddr × ℕ) : (probeAttempt each outcomes server).trace = [server.1] := by
  have hwait : ((outcomes server.2).wait : Timed IpAddr (Except TunnelError Unit)).trace = [] := by
    rcases outcomes server.2 with _ | ⟨t, r⟩
    · rfl
    · rfl
  have hnil := List.prefix_nil.1 (hwait ▸ trace_timeout_prefix (T := each) (outcomes server.2).wait)
  rw [probeAttempt, trace, trace_bind, hnil, result_timeout]
  rfl

/-- An attempt keeps to its share. -/
theorem time_probeAttempt_le (each : ℕ) (outcomes : ℕ → Answer (Except TunnelError Unit))
    (server : IpAddr × ℕ) : (probeAttempt each outcomes server).time ≤ each := by
  rw [probeAttempt, time, time_bind, result_timeout]
  exact time_timeout_le _

/-! ## The loop -/

variable {probeTimeout : ℕ} {servers : List IpAddr}

theorem serverCount_ne_zero (h : servers ≠ []) : serverCount servers ≠ 0 := by
  have hpos := List.length_pos_iff.2 h
  rw [serverCount, U32_MAX]
  split <;> omega

theorem probeOnce_of_ne (probeTimeout : ℕ) (outcomes : ℕ → Answer (Except TunnelError Unit))
    (h : servers ≠ []) : probeOnce probeTimeout servers outcomes =
      some ((firstOf (probeAttempt (share probeTimeout servers) outcomes) none
        servers.zipIdx).bind fun
          | .inl answer => done answer
          | .inr last => done (.error (last.getD probeTimedOut))) := by
  have hne := serverCount_ne_zero h
  rw [probeOnce, if_neg hne, divDuration, if_neg hne]
  rfl

/-- The shares of the resolvers, as many as a `u32` counts, are no more than the time there is. -/
theorem shares_le (probeTimeout : ℕ) (h : servers.length ≤ U32_MAX) :
    servers.length * share probeTimeout servers ≤ probeTimeout := by
  rw [share, serverCount, if_pos h]
  exact Nat.mul_div_le probeTimeout servers.length

/-- Of two places in a list, one whose item does not stand before the other's. -/
theorem eq_or_mem_of_split {α : Type} {before after before' after' : List α} {x y : α}
    (h : before ++ x :: after = before' ++ y :: after') (hy : y ∉ before) :
    y = x ∨ x ∈ before' := by
  obtain ⟨c, rfl, hc⟩ | ⟨c, rfl, hc⟩ := List.append_eq_append_iff.1 h
  · cases c with
    | nil => exact Or.inl (List.cons.inj hc).1.symm
    | cons z c =>
      rw [List.cons_append] at hc
      obtain ⟨rfl, -⟩ := List.cons.inj hc
      exact Or.inr (List.mem_append_right _ List.mem_cons_self)
  · cases c with
    | nil => exact Or.inl (List.cons.inj hc).1
    | cons z c =>
      rw [List.cons_append] at hc
      obtain ⟨rfl, -⟩ := List.cons.inj hc
      exact absurd (List.mem_append_right _ List.mem_cons_self) hy

/-- **Which resolvers are tried**: all up to the first that succeeds or ends in a `Config` error.
With no resolver the probe fails, and the shares of no more than a `u32` counts fit in the time. -/
theorem probeOnce_shares (probeTimeout : ℕ) (servers : List IpAddr)
    (outcomes : ℕ → Answer (Except TunnelError Unit)) :
    ∃ p each, probeOnce probeTimeout servers outcomes = some p ∧ each = share probeTimeout servers ∧
      (servers = [] → p.trace = [] ∧
        p.result = some (.error (.config "dns.servers" [.lit "must not be empty"]))) ∧
      (servers ≠ [] → ∃ before last after, servers.zipIdx = before ++ last :: after ∧
        p.trace = (before ++ [last]).map Prod.fst ∧
        (∀ s ∈ before, ¬Succeeds each (outcomes s.2) ∧ ¬Misconfigured each (outcomes s.2)) ∧
        (after = [] ∨ Succeeds each (outcomes last.2) ∨ Misconfigured each (outcomes last.2)) ∧
        (p.result = some (.ok ()) ∨
          p.result = some (.error (attemptFailure each (outcomes last.2))))) ∧
      (p.result = some (.ok ()) ↔ ∃ before s after, servers.zipIdx = before ++ s :: after ∧
        Succeeds each (outcomes s.2) ∧ ∀ b ∈ before, ¬Misconfigured each (outcomes b.2)) ∧
      (servers.length ≤ U32_MAX → servers.length * each ≤ probeTimeout) := by
  by_cases hservers : servers = []
  · subst hservers
    refine ⟨_, _, rfl, rfl, fun _ => ⟨rfl, rfl⟩, fun h => absurd rfl h, ?_, fun _ => ?_⟩
    · refine ⟨fun h => (nomatch h), ?_⟩
      rintro ⟨before, s, after, h, -⟩
      cases before <;> cases h
    · rw [List.length_nil, Nat.zero_mul]
      exact Nat.zero_le _
  · obtain ⟨each, heach⟩ : ∃ each, each = share probeTimeout servers := ⟨_, rfl⟩
    refine ⟨_, each, probeOnce_of_ne probeTimeout outcomes hservers, heach,
      fun h => absurd h hservers, ?_⟩
    rw [← heach, trace_bind, result_bind]
    have hshares : servers.length ≤ U32_MAX → servers.length * each ≤ probeTimeout :=
      fun h => heach ▸ shares_le probeTimeout h
    have hends : ∀ server ∈ servers.zipIdx, (probeAttempt each outcomes server).result =
        some ((probeAttempt each outcomes server).result.getD (.inr probeTimedOut)) :=
      fun server _ => by
        obtain ⟨-, -, h⟩ | ⟨-, -, h⟩ | ⟨-, -, h⟩ := probeAttempt_cases each outcomes server
        · rw [h, Option.getD_some]
        · rw [h, Option.getD_some]
        · rw [h, Option.getD_some]
    have hfails : ∀ server e,
        (probeAttempt each outcomes server).result.getD (.inr probeTimedOut) = .inr e →
        ¬Succeeds each (outcomes server.2) ∧ ¬Misconfigured each (outcomes server.2) ∧
          e = attemptFailure each (outcomes server.2) := fun server e he => by
      obtain ⟨-, -, h⟩ | ⟨-, -, h⟩ | ⟨hs, hm, h⟩ := probeAttempt_cases each outcomes server
      · rw [h] at he
        cases he
      · rw [h] at he
        cases he
      · rw [h] at he
        cases he
        exact ⟨hs, hm, rfl⟩
    have htraces : ∀ l : List (IpAddr × ℕ),
        l.flatMap (fun server => (probeAttempt each outcomes server).trace) = l.map Prod.fst :=
      fun l => by
        rw [show (fun server => (probeAttempt each outcomes server).trace) = fun server =>
          [server.1] from funext (trace_probeAttempt each outcomes)]
        exact List.map_eq_flatMap.symm
    obtain ⟨before, last, after, answer, hzip, hbefore, hlast, hresult, htrace⟩ |
      ⟨hall, htrace, failure, hresult, -, hlast⟩ := firstOf_cases none hends
    · -- the loop ends at `last`
      have hother : ∀ s ∈ before, ¬Succeeds each (outcomes s.2) ∧
          ¬Misconfigured each (outcomes s.2) := fun s hs => by
        obtain ⟨e, he⟩ := hbefore s hs
        exact ⟨(hfails s e he).1, (hfails s e he).2.1⟩
      rw [hresult, htrace, htraces]
      obtain ⟨hs, -, h⟩ | ⟨hm, hs, h⟩ | ⟨-, -, h⟩ := probeAttempt_cases each outcomes last
      · rw [h] at hlast
        cases hlast
        exact ⟨fun _ => ⟨before, last, after, hzip, List.append_nil _,
          hother, Or.inr (Or.inl hs), Or.inl rfl⟩,
          ⟨fun _ => ⟨before, last, after, hzip, hs, fun s hs => (hother s hs).2⟩, fun _ => rfl⟩,
          hshares⟩
      · rw [h] at hlast
        cases hlast
        refine ⟨fun _ => ⟨before, last, after, hzip, List.append_nil _,
          hother, Or.inr (Or.inr hm), Or.inr rfl⟩,
          ⟨fun h => (nomatch h), ?_⟩, hshares⟩
        -- a resolver that would succeed comes after it
        rintro ⟨before', s, after', hzip', hs', hbefore'⟩
        obtain rfl | hmem := eq_or_mem_of_split (hzip.symm.trans hzip')
          (fun hmem => (hother s hmem).1 hs')
        · exact absurd hs' hs
        · exact absurd hm (hbefore' last hmem)
      · rw [h] at hlast
        cases hlast
    · have hother : ∀ s ∈ servers.zipIdx, ¬Succeeds each (outcomes s.2) ∧
          ¬Misconfigured each (outcomes s.2) := fun s hs => by
        obtain ⟨e, he⟩ := hall s hs
        exact ⟨(hfails s e he).1, (hfails s e he).2.1⟩
      rw [hresult, htrace, htraces]
      obtain ⟨before, last, hzip⟩ : ∃ before last, servers.zipIdx = before ++ [last] := by
        have hne : servers.zipIdx ≠ [] := fun h => hservers (List.zipIdx_eq_nil_iff.1 h)
        exact ⟨_, _, (List.dropLast_append_getLast hne).symm⟩
      have hmem : ∀ s ∈ before, s ∈ servers.zipIdx := fun s hs =>
        hzip ▸ List.mem_append_left _ hs
      obtain ⟨e, he, rfl⟩ := hlast last (by rw [hzip, List.getLast?_concat]; rfl)
      refine ⟨fun _ => ⟨before, last, [], hzip, by rw [hzip]; exact List.append_nil _,
        fun s hs => hother s (hmem s hs), Or.inl rfl,
        Or.inr (by rw [← (hfails last e he).2.2]; rfl)⟩, ⟨fun h => (nomatch h), ?_⟩, hshares⟩
      rintro ⟨before', s, after', hzip', hs', -⟩
      have hs : s ∈ servers.zipIdx := hzip' ▸ List.mem_append_right _ List.mem_cons_self
      exact absurd hs' (hother s hs).1

/-- The count of the resolvers saturates, so more of them than a `u32` counts have more than the
time among them: with the timeout as it is, one nanosecond each. -/
theorem shares_exceed :
    let servers := List.replicate 8000000001 (IpAddr.ofOctets 1 1 1 1)
    PROBE_TIMEOUT < servers.length * share PROBE_TIMEOUT servers := by
  intro servers
  have hlen : servers.length = 8000000001 := List.length_replicate
  rw [share, serverCount, hlen, if_neg (by decide)]
  decide

/-- With no more resolvers than that, the deadline over the whole probe changes nothing. -/
theorem probeTimed_eq_probeOnce (probeTimeout : ℕ)
    (outcomes : ℕ → Answer (Except TunnelError Unit)) (h : servers.length ≤ U32_MAX) :
    (probeTimed probeTimeout servers outcomes).bind result =
      (probeOnce probeTimeout servers outcomes).bind result := by
  by_cases hservers : servers = []
  · subst hservers
    rfl
  · obtain ⟨p, each, hp, -, -, hends, -, -⟩ := probeOnce_shares probeTimeout servers outcomes
    obtain ⟨r, hr⟩ : ∃ r, p.result = some r := by
      obtain ⟨_, _, _, _, _, _, _, hr | hr⟩ := hends hservers
      · exact ⟨_, hr⟩
      · exact ⟨_, hr⟩
    have htime : p.time ≤ probeTimeout := by
      have hloop := time_firstOf_le none (fun s (_ : s ∈ servers.zipIdx) =>
        time_probeAttempt_le (share probeTimeout servers) outcomes s)
      rw [List.length_zipIdx] at hloop
      have hshares := shares_le probeTimeout h
      rw [probeOnce_of_ne probeTimeout outcomes hservers] at hp
      cases hp
      rw [time_bind]
      rcases (firstOf (probeAttempt (share probeTimeout servers) outcomes) none
        servers.zipIdx).result with _ | (answer | last)
      · exact hloop.trans hshares
      · exact hloop.trans hshares
      · exact hloop.trans hshares
    rw [probeTimed, hp]
    change ((p.timeout probeTimeout).bind _).result = p.result
    rw [result_bind, result_timeout, if_pos htime, hr]
    rfl

/-! ## Without the clock -/

section Untimed

variable {t t' : ShadowsocksTunnel} (build : Build) (dns : DnsConfig)

theorem openFlow_congr (h : SameSession t t') (dest : SocketAddr) (net : FlowNet) :
    (t.openFlow dest net).1 = (t'.openFlow dest net).1 := by
  obtain ⟨counters, rfl⟩ := h
  have hsession : ({ t with counters } : ShadowsocksTunnel).session = t.session := rfl
  rw [openFlow, openFlow, hsession]
  cases t.session with
  | error e => rfl
  | ok s =>
    cases net.permit with
    | acquired =>
        cases hrelay : net.relay s.1 s.2 dest <;> simp only [afterPermit, hrelay, afterRelay]
    | closed => rfl
    | timedOut => rfl

theorem probeResolver_congr (h : SameSession t t') (server : IpAddr) (net : RoundTrip) :
    (t.probeResolver build dns server net).1 = (t'.probeResolver build dns server net).1 := by
  rw [probeResolver, probeResolver]
  cases dns.mode with
  | tcp =>
    dsimp only
    have hflow := openFlow_congr h ⟨server, 53⟩ net.flow
    rw [probeOverDns, probeOverDns]
    generalize t.openFlow ⟨server, 53⟩ net.flow = x at hflow ⊢
    generalize t'.openFlow ⟨server, 53⟩ net.flow = y at hflow ⊢
    obtain ⟨r, t₁⟩ := x
    obtain ⟨r', t₂⟩ := y
    obtain rfl : r = r' := hflow
    cases r <;> rfl
  | https =>
    dsimp only
    unfold probeOverTls
    split
    · rfl
    split
    · rfl
    split
    · rfl
    have hflow := openFlow_congr h ⟨server, 443⟩ net.flow
    generalize t.openFlow ⟨server, 443⟩ net.flow = x at hflow ⊢
    generalize t'.openFlow ⟨server, 443⟩ net.flow = y at hflow ⊢
    obtain ⟨r, t₁⟩ := x
    obtain ⟨r', t₂⟩ := y
    obtain rfl : r = r' := hflow
    cases r with
    | error e => rfl
    | ok u => rcases net.tls with (_ | _) | _ <;> rfl

variable {build dns} {nets : ℕ → RoundTrip} {times : ℕ → ℕ} {each : ℕ}

/-- The loop of `probe_once` with the clock and without: a resolver is in time if what it takes is
no more than its share. -/
theorem probeLoop_eq_firstOf (hsame : SameSession t t') (last : Option TunnelError)
    {servers : List (IpAddr × ℕ)}
    (htime : ∀ s ∈ servers, (nets s.2).inTime = decide (times s.2 ≤ each))
    (houtcome : ∀ s ∈ servers, outcomes s.2 =
      some (times s.2, (t.probeResolver build dns s.1 (nets s.2)).1)) :
    (firstOf (probeAttempt each outcomes) last servers).result =
      some (probeLoop build dns t' last (servers.map fun (server, i) => (server, nets i))).1 := by
  induction servers generalizing t' last with
  | nil => rfl
  | cons s servers ih =>
    have hin := htime s List.mem_cons_self
    have hout := houtcome s List.mem_cons_self
    have htail := fun t' hsame last => @ih t' hsame last
      (fun s hs => htime s (List.mem_cons_of_mem _ hs))
      (fun s hs => houtcome s (List.mem_cons_of_mem _ hs))
    have hresult : (probeAttempt each outcomes s).result =
        some (settle (if times s.2 ≤ each then
          some (t.probeResolver build dns s.1 (nets s.2)).1 else none)) := by
      rw [probeAttempt, hout, result, result_bind, result_timeout]
      rfl
    rw [List.map_cons, probeLoop, hin, firstOf, result_bind, hresult]
    by_cases ht : times s.2 ≤ each
    · rw [if_pos ht, decide_eq_true ht, if_neg (by decide), probeResolver_congr build dns hsame]
      have hone := t'.probeResolver_same build dns s.1 (nets s.2)
      rcases hr : t'.probeResolver build dns s.1 (nets s.2) with ⟨e | ⟨⟩, t₁⟩
      · cases e with
        | config field reason => rfl
        | _ => exact htail _ (hsame.trans (hone.of_eq hr)) _
      · rfl
    · rw [if_neg ht, decide_eq_false ht, if_pos (by decide)]
      exact htail _ hsame _

/-- **Without the clock it is the probe** that `connect` makes. -/
theorem probe_eq_probeOnce (t : ShadowsocksTunnel) (build : Build) (dns : DnsConfig)
    (nets : ℕ → RoundTrip) (times : ℕ → ℕ) (probeTimeout : ℕ)
    (htime : ∀ i, (nets i).inTime = decide (times i ≤ share probeTimeout dns.servers)) :
    (probeOnce probeTimeout dns.servers fun i => dns.servers[i]?.map fun server =>
      (times i, (t.probeResolver build dns server (nets i)).1)).bind result =
        some (t.probe build dns nets none).1 := by
  rw [probe]
  by_cases hservers : dns.servers = []
  · rw [if_pos hservers, hservers]
    rfl
  · rw [if_neg hservers, probeOnce_of_ne probeTimeout _ hservers, Option.bind_some, result_bind,
      probeLoop_eq_firstOf (SameSession.refl t) none (fun s _ => htime s.2) fun s hs => by
        rw [List.mem_zipIdx_iff_getElem?.1 hs]
        rfl]
    dsimp only [Option.bind_some]
    generalize probeLoop build dns t none _ = x
    obtain ⟨answer | last, t'⟩ := x
    · rfl
    · rfl

end Untimed

end ShadowsocksTunnel

end LiosTunnel.Protocols
