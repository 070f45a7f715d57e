import LiosTunnel.Protocols.Ssh
import LiosTunnel.Protocols.Shadowsocks

/-!
# What the tunnels show between calls

Whether a tunnel shows what it has after every list of calls. The Shadowsocks tunnel does. The SSH
tunnel does as long as it is not disconnected while it names an address, which it goes on naming,
and is not asked to connect with a profile of another kind while it has a session, which it then
keeps.

* `shadowsocks_truthful_of_run`, `SshTunnel.Coherent`: the invariants.
* `SshTunnel.Clean`: the calls after which the SSH tunnel still shows what it has.
* `sessions_truthful_iff`: both tunnels together.
-/

namespace LiosTunnel.Protocols

open Config

/-! ## Shadowsocks -/

/-- A Shadowsocks tunnel between calls: a whole session, or nothing. -/
def ShadowsocksTunnel.Coherent (s : Session ShadowsocksTunnel) : Prop :=
  (s.ended = false ∧ s.tunnel.state = .connected ∧ s.tunnel.server.isSome = true ∧
    s.tunnel.context.isSome = true ∧ s.tunnel.peer.isSome = true) ∨
  (s.tunnel.state ≠ .connected ∧ s.tunnel.server = none ∧ s.tunnel.context = none ∧
    s.tunnel.peer = none)

theorem ShadowsocksTunnel.Coherent.truthful {s : Session ShadowsocksTunnel}
    (h : ShadowsocksTunnel.Coherent s) : shadowsocks.Truthful s := by
  obtain ⟨hended, hstate, hserver, hcontext, hpeer⟩ | ⟨hstate, hserver, hcontext, hpeer⟩ := h
  · constructor
    · simp [shadowsocks, hstate, hserver, hcontext]
    · simp [shadowsocks, hserver, hcontext, hpeer]
    · intro h
      rw [hended] at h
      cases h
    · intro h
      rw [hended] at h
      cases h
  · constructor
    · simp [shadowsocks, hstate, hserver]
    · simp [shadowsocks, hserver, hpeer]
    · simp [shadowsocks, hserver, hcontext, hpeer]
    · intro _ dest answer
      simp [shadowsocks, ShadowsocksTunnel.openFlow, ShadowsocksTunnel.session, hserver]

/-- One call on a Shadowsocks tunnel, whatever it was before. -/
theorem ShadowsocksTunnel.coherent_next {s s' : Session ShadowsocksTunnel}
    {call : Call ShadowsocksTunnel.Net} (h : shadowsocks.next s call = some s') :
    ShadowsocksTunnel.Coherent s' := by
  cases call with
  | connect profile store net =>
    obtain ⟨server, context, peer, counters, hconnect⟩ | ⟨e, counters, hconnect⟩ :=
      shadowsocks_connect_cases s.tunnel profile store net
    · simp only [Tunnel.next, shadowsocks, hconnect, Option.some.injEq] at h
      subst h
      exact Or.inl ⟨rfl, rfl, rfl, rfl, rfl⟩
    · simp only [Tunnel.next, shadowsocks, hconnect, Option.some.injEq] at h
      subst h
      exact Or.inr ⟨ConnectionState.noConfusion, rfl, rfl, rfl⟩
  | disconnect net =>
    obtain rfl := Option.some.inj h
    exact Or.inr ⟨ConnectionState.noConfusion, rfl, rfl, rfl⟩

/-- **A Shadowsocks tunnel shows what it has**, after every list of calls. -/
theorem shadowsocks_truthful_of_run {calls : List (Call ShadowsocksTunnel.Net)}
    {s : Session ShadowsocksTunnel}
    (h : Runs.run shadowsocks.next shadowsocks.start calls = some s) : shadowsocks.Truthful s := by
  have hstart : ShadowsocksTunnel.Coherent shadowsocks.start :=
    Or.inr ⟨ConnectionState.noConfusion, rfl, rfl, rfl⟩
  exact (Runs.run_invariant_of_step (fun _ _ _ _ => ShadowsocksTunnel.coherent_next) hstart
    h).truthful

/-! ## SSH -/

variable {H : Type}

/-- An SSH tunnel between calls: a session with its address, or nothing. -/
def SshTunnel.Coherent (s : Session (SshTunnel H)) : Prop :=
  (s.ended = false ∧ s.tunnel.state = .connected ∧ s.tunnel.handle.isSome = true ∧
    s.tunnel.peerAddr.isSome = true) ∨
  (s.tunnel.state ≠ .connected ∧ s.tunnel.handle = none ∧ s.tunnel.peerAddr = none)

/-- The calls that leave no session half there: no `disconnect` while the tunnel names an address,
and no `connect` with a profile of another kind while it has a session. -/
def SshTunnel.Clean (s : Session (SshTunnel H)) : Call (SshNet H) → Prop
  | .connect profile _ _ => profile.protocol = .ssh ∨ s.tunnel.handle = none
  | .disconnect _ => s.tunnel.peerAddr = none

theorem SshTunnel.Coherent.truthful {s : Session (SshTunnel H)} (h : SshTunnel.Coherent s) :
    ssh.Truthful s := by
  obtain ⟨hended, hstate, hhandle, hpeer⟩ | ⟨hstate, hhandle, hpeer⟩ := h
  · constructor
    · simp [ssh, hstate, hhandle]
    · simp [ssh, hhandle, hpeer]
    · intro h
      rw [hended] at h
      cases h
    · intro h
      rw [hended] at h
      cases h
  · constructor
    · simp [ssh, hstate, hhandle]
    · simp [ssh, hhandle, hpeer]
    · simp [ssh, hhandle, hpeer]
    · intro _ dest answer
      simp [ssh, SshTunnel.openChannel, hhandle]

/-- A clean call. -/
theorem SshTunnel.coherent_next {s s' : Session (SshTunnel H)} {call : Call (SshNet H)}
    (hs : SshTunnel.Coherent s) (hclean : SshTunnel.Clean s call) (h : ssh.next s call = some s') :
    SshTunnel.Coherent s' := by
  cases call with
  | connect profile store net =>
    obtain ⟨hkind, e, hconnect⟩ | ⟨-, ⟨handle, addr, hconnect⟩ | ⟨e, hconnect⟩⟩ :=
      ssh_connect_cases s.tunnel profile store net
    · -- refused at once: there was no session to keep
      have hnone : s.tunnel.handle = none := hclean.resolve_left hkind
      simp only [Tunnel.next, ssh, hconnect, Option.some.injEq] at h
      subst h
      obtain ⟨-, -, hhandle, -⟩ | hempty := hs
      · rw [hnone] at hhandle
        cases hhandle
      · exact Or.inr hempty
    · simp only [Tunnel.next, ssh, hconnect, Option.some.injEq] at h
      subst h
      exact Or.inl ⟨rfl, rfl, rfl, rfl⟩
    · simp only [Tunnel.next, ssh, hconnect, Option.some.injEq] at h
      subst h
      exact Or.inr ⟨ConnectionState.noConfusion, rfl, rfl⟩
  | disconnect net =>
    obtain rfl := Option.some.inj h
    exact Or.inr ⟨ConnectionState.noConfusion, rfl, hclean⟩

/-- Any other call shows what is not there or keeps what should be gone. -/
theorem SshTunnel.not_truthful_next {s : Session (SshTunnel H)} {call : Call (SshNet H)}
    (hdirty : ¬ SshTunnel.Clean s call) : ∃ s', ssh.next s call = some s' ∧ ¬ ssh.Truthful s' := by
  cases call with
  | connect profile store net =>
    obtain ⟨hkind, hheld⟩ := not_or.1 hdirty
    obtain ⟨-, e, hconnect⟩ | ⟨hssh, -⟩ := ssh_connect_cases s.tunnel profile store net
    · refine ⟨⟨s.tunnel, true⟩, by simp only [Tunnel.next, ssh, hconnect], fun htrue => hheld ?_⟩
      have hcleared := htrue.cleared rfl
      simp only [ssh, Bool.and_eq_true, Option.isNone_iff_eq_none] at hcleared
      exact hcleared.1
    · exact absurd hssh hkind
  | disconnect net =>
    refine ⟨_, rfl, fun htrue => hdirty ?_⟩
    have hcleared := htrue.cleared rfl
    simp only [ssh, SshTunnel.disconnect, Bool.and_eq_true, Option.isNone_iff_eq_none] at hcleared
    exact hcleared.2

/-- **What the tunnels show**: the Shadowsocks tunnel shows what it has after every list of calls,
and the SSH tunnel does all along a list of calls if and only if each of them is clean. -/
theorem sessions_truthful_iff :
    (∀ calls s, Runs.run shadowsocks.next shadowsocks.start calls = some s →
      shadowsocks.Truthful s) ∧
    ∀ calls : List (Call (SshNet H)),
      (∀ calls' s, calls' <+: calls → Runs.run ssh.next ssh.start calls' = some s →
        ssh.Truthful s) ↔ Runs.Guarded ssh.next SshTunnel.Clean ssh.start calls := by
  refine ⟨fun calls s h => shadowsocks_truthful_of_run h, fun calls => ?_⟩
  have hstart : SshTunnel.Coherent (ssh (H := H)).start :=
    Or.inr ⟨ConnectionState.noConfusion, rfl, rfl⟩
  exact (Runs.guarded_iff (fun s (h : SshTunnel.Coherent s) => h.truthful)
    (fun s call s' hs _ hclean h => SshTunnel.coherent_next hs hclean h)
    (fun s call _ _ hdirty => SshTunnel.not_truthful_next hdirty) hstart
    (Runs.guarded_trivial _ calls)).symm

/-- A session over SSH that is ended: its address stays. -/
theorem not_ssh_truthful : ∃ (calls : List (Call (SshNet Unit))) (s : Session (SshTunnel Unit)),
    Runs.run ssh.next ssh.start calls = some s ∧ ¬ ssh.Truthful s := by
  let profile : ServerProfile := ⟨0, "home", .ssh, "198.51.100.7", 22, .password (.env "PW"),
    ⟨.tcp, [.ofOctets 1 1 1 1], none⟩, .allTraffic, false⟩
  let net : SshNet Unit := ⟨.ok [⟨.ofOctets 198 51 100 7, 22⟩], .ok (), .ok (),
    fun _ _ => .error [], fun _ _ => .ok (), fun _ => .ok none, .ok ()⟩
  let store : SecretStore := ⟨fun _ _ => .ok "secret"⟩
  refine ⟨[.connect profile store net, .disconnect net], ⟨⟨none, _, .disconnected⟩, true⟩, rfl,
    fun htrue => ?_⟩
  exact absurd (htrue.cleared rfl) (by decide)

end LiosTunnel.Protocols
