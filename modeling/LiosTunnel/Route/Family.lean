import LiosTunnel.Route.Inverse

/-!
# The address family of a BSD route command

BSD `route` is told an IPv6 destination's family by `-inet6`. The pin decides it with `family_flag`
and the IPv6 halves carry it as a literal; the commands of test mode, for its prefixes and for its
resolvers, carry none whatever the destination is.

* `carriesInet6`, `RightFamily`: the flag, and when it is the right one.
* `RouteMode.Ipv4Only`: test mode without an IPv6 destination, or default mode.
* `rightFamily_iff`: the plans whose commands all have the right one, in both directions.
-/

namespace LiosTunnel.Route

open KeyedStore

/-- Test mode asks for no IPv6 destination. -/
def RouteMode.Ipv4Only (dnsServers : List IpAddr) : RouteMode → Prop
  | .test cidrs captureDns =>
    (∀ c ∈ cidrs, c.addr.isIpv4 = true) ∧ (captureDns = true → ∀ a ∈ dnsServers, a.isIpv4 = true)
  | .default => True

namespace MacOs

/-- The command has `-inet6` where BSD `route` takes its family. -/
def carriesInet6 (c : RouteCommand) : Bool :=
  match c.args with
  | _ :: _ :: flag :: _ => flag = .lit "-inet6"
  | _ => false

/-- A route command carries `-inet6` if and only if its destination is IPv6. -/
def RightFamily (c : RouteCommand) : Prop :=
  ∀ op, routeOp c = some op → (carriesInet6 c = true ↔ op.key.family = .v6)

/-! ## One command -/

/-- The two things BSD `route` is asked to do here. -/
def IsVerb (verb : String) : Prop := verb = "add" ∨ verb = "delete"

variable {verb : String}

/-- A command is judged by the destination it is about, whatever it does there. -/
theorem rightFamily_of_verb (hverb : IsVerb verb) {c : RouteCommand} {d : Dest} {hop : Hop}
    (hc : routeOp c = bsdVerbOp verb d hop) :
    RightFamily c ↔ (carriesInet6 c = true ↔ d.family = .v6) := by
  obtain ⟨op, hread, hkey⟩ : ∃ op, routeOp c = some op ∧ op.key = d := by
    rcases hverb with rfl | rfl
    · exact ⟨.add d hop, hc, rfl⟩
    · exact ⟨.del d, hc, rfl⟩
  constructor
  · intro hright
    rw [← hkey]
    exact hright op hread
  · intro hright op' hread'
    obtain rfl := Option.some.inj (hread.symm.trans hread')
    rw [hkey]
    exact hright

theorem family_eq_v6_iff {a : IpAddr} : a.family = .v6 ↔ a.isIpv6 = true := by
  cases a <;> simp [IpAddr.family, IpAddr.isIpv6]

theorem isIpv4_iff {a : IpAddr} : a.isIpv4 = true ↔ ¬ a.family = .v6 := by
  cases a <;> simp [IpAddr.family, IpAddr.isIpv4]

/-- The commands of test mode are right for IPv4 alone. -/
theorem rightFamily_netCommand (hverb : IsVerb verb) (n : IpNet) (i : String) :
    RightFamily (netCommand verb n i) ↔ n.addr.isIpv4 = true := by
  have hflag : carriesInet6 (netCommand verb n i) = false := rfl
  rw [rightFamily_of_verb (d := n.dest) hverb rfl, hflag, isIpv4_iff]
  simp [IpNet.dest]

theorem rightFamily_hostCommand (hverb : IsVerb verb) (a : IpAddr) (i : String) :
    RightFamily (hostCommand verb a i) ↔ a.isIpv4 = true := by
  have hflag : carriesInet6 (hostCommand verb a i) = false := rfl
  rw [rightFamily_of_verb (d := a.host) hverb rfl, hflag, isIpv4_iff]
  simp [IpAddr.host]

theorem rightFamily_net6Command (hverb : IsVerb verb) {n : IpNet} (hn : n.addr.isIpv6 = true)
    (i : String) : RightFamily (net6Command verb n i) := by
  have hflag : carriesInet6 (net6Command verb n i) = true := rfl
  have hfamily : n.dest.family = .v6 := family_eq_v6_iff.2 hn
  exact (rightFamily_of_verb (d := n.dest) hverb rfl).2 (iff_of_true hflag hfamily)

/-- The pin is right for either family. -/
theorem rightFamily_pinCommand (hverb : IsVerb verb) (a g : IpAddr) :
    RightFamily (pinCommand verb a g) := by
  have hop : routeOp (pinCommand verb a g) = bsdVerbOp verb a.host (.via g) := by
    cases a <;> rfl
  have hflag : carriesInet6 (pinCommand verb a g) = true ↔ a.host.family = .v6 := by
    rw [IpAddr.host, family_eq_v6_iff]
    cases a with
    | v4 a => exact iff_of_false Bool.false_ne_true Bool.false_ne_true
    | v6 a => exact iff_of_true rfl rfl
  exact (rightFamily_of_verb hverb hop).2 hflag

theorem rightFamily_setDns (ds : List IpAddr) : RightFamily (setDns ds) := by
  intro op hop
  rw [routeOp_setDns] at hop
  cases hop

theorem rightFamily_clearDns : RightFamily clearDns := by
  intro op hop
  rw [routeOp_clearDns] at hop
  cases hop

/-! ## A list of commands -/

/-- A resolver left out because a prefix covers it is of that prefix's family. -/
theorem isIpv4_dnsServers_iff {cidrs : List IpNet} (hcidrs : ∀ c ∈ cidrs, c.addr.isIpv4 = true)
    {dnsServers : List IpAddr} :
    (∀ a ∈ dnsServersNeedingHostRoutes cidrs dnsServers, a.isIpv4 = true) ↔
      ∀ a ∈ dnsServers, a.isIpv4 = true := by
  constructor
  · intro h a ha
    by_cases hfree : ∀ c ∈ cidrs, ¬c.dest.Covers a
    · exact h a (mem_dnsServersNeedingHostRoutes.2 ⟨ha, hfree⟩)
    · push Not at hfree
      obtain ⟨c, hc, hcovers⟩ := hfree
      have hfamily : c.addr.family = a.family := hcovers.1
      rw [isIpv4_iff, ← hfamily, ← isIpv4_iff]
      exact hcidrs c hc
  · intro h a ha
    exact h a (mem_dnsServersNeedingHostRoutes.1 ha).1

/-- Test mode's list, for either verb. -/
theorem rightFamily_test_iff (hverb : IsVerb verb) {cidrs : List IpNet} {captureDns : Bool}
    {dnsServers : List IpAddr} {i : String} :
    (∀ c ∈ cidrs.map (fun cidr => netCommand verb cidr i) ++
        if captureDns then
          (dnsServersNeedingHostRoutes cidrs dnsServers).map fun dns => hostCommand verb dns i
        else [], RightFamily c) ↔ (RouteMode.test cidrs captureDns).Ipv4Only dnsServers := by
  rw [forall_mem_test_iff, RouteMode.Ipv4Only]
  simp only [rightFamily_netCommand hverb, rightFamily_hostCommand hverb]
  exact and_congr_right fun hcidrs => imp_congr_right fun _ => isIpv4_dnsServers_iff hcidrs

theorem isIpv4_of_mem_v4Halves : ∀ n ∈ v4Halves, n.addr.isIpv4 = true := by decide

theorem isIpv6_of_mem_v6Halves : ∀ n ∈ v6Halves, n.addr.isIpv6 = true := by decide

/-- The half routes, for either verb. -/
theorem rightFamily_halves (hverb : IsVerb verb) (plan : RoutePlan) :
    (∀ c ∈ v4Halves.map fun half => netCommand verb half plan.interface, RightFamily c) ∧
      ∀ c ∈ (if plan.ipv6Available then
        v6Halves.map fun half => net6Command verb half plan.interface else []), RightFamily c := by
  refine ⟨List.forall_mem_map.2 fun n hn => ?_, ?_⟩
  · exact (rightFamily_netCommand hverb n _).2 (isIpv4_of_mem_v4Halves n hn)
  · split
    · exact List.forall_mem_map.2 fun n hn =>
        rightFamily_net6Command hverb (isIpv6_of_mem_v6Halves n hn) _
    · exact List.forall_mem_nil _

/-- Default mode's lists are right for every plan. -/
theorem rightFamily_default {plan : RoutePlan} (hm : plan.mode = .default) {cs : List RouteCommand}
    (h : applyCommands plan = .ok cs ∨ revertCommands plan = .ok cs) : ∀ c ∈ cs, RightFamily c := by
  rcases h with h | h
  · rw [applyCommands, hm] at h
    obtain rfl := Except.ok.inj h
    obtain ⟨h4, h6⟩ := rightFamily_halves (Or.inl rfl : IsVerb "add") plan
    have hpin := rightFamily_pinCommand (Or.inl rfl : IsVerb "add") plan.serverIp
      plan.originalGateway
    have hdns := rightFamily_setDns plan.dnsServers
    simp only [List.forall_mem_append, List.forall_mem_singleton]
    exact ⟨⟨⟨hpin, h4⟩, h6⟩, hdns⟩
  · rw [revertCommands, hm] at h
    obtain rfl := Except.ok.inj h
    obtain ⟨h4, h6⟩ := rightFamily_halves (Or.inr rfl : IsVerb "delete") plan
    have hpin := rightFamily_pinCommand (Or.inr rfl : IsVerb "delete") plan.serverIp
      plan.originalGateway
    simp only [List.forall_mem_append, List.forall_mem_cons]
    exact ⟨⟨h6, h4⟩, hpin, rightFamily_clearDns, List.forall_mem_nil _⟩

end MacOs

open MacOs

/-- **The family flag is right exactly where no IPv6 destination comes from test mode**: every
command of both lists carries `-inet6` if and only if its destination is IPv6, the plans that are
refused aside, in default mode, and in test mode if and only if the prefixes and, where DNS is
captured, the resolvers are IPv4. -/
theorem rightFamily_iff (plan : RoutePlan) :
    (∀ cs, macOsRoutes.applyCommands plan = .ok cs ∨ macOsRoutes.revertCommands plan = .ok cs →
      ∀ c ∈ cs, RightFamily c) ↔ (plan.mode.Bounded → plan.mode.Ipv4Only plan.dnsServers) := by
  rcases hm : plan.mode with ⟨cidrs, captureDns⟩ | _
  · constructor
    · intro h hbounded
      refine (rightFamily_test_iff (i := plan.interface) (Or.inl rfl)).1 (h _ (Or.inl ?_))
      simp only [macOsRoutes, applyCommands, hm]
      exact bind_reject_of_bounded hbounded
    · intro h cs hcs
      rcases hcs with hcs | hcs
      · simp only [macOsRoutes, applyCommands, hm] at hcs
        obtain ⟨hbounded, hcs⟩ := bind_reject hcs
        obtain rfl := Except.ok.inj hcs
        exact (rightFamily_test_iff (Or.inl rfl)).2 (h hbounded)
      · simp only [macOsRoutes, revertCommands, hm] at hcs
        obtain ⟨hbounded, hcs⟩ := bind_reject hcs
        obtain rfl := Except.ok.inj hcs
        exact (rightFamily_test_iff (Or.inr rfl)).2 (h hbounded)
  · exact iff_of_true (fun cs hcs => rightFamily_default hm hcs) fun _ => trivial

/-- `mixedPlan` lists an IPv6 prefix. -/
theorem apply_mixedPlan_without_inet6 :
    ∃ cs, macOsRoutes.applyCommands mixedPlan = .ok cs ∧
      ∃ c ∈ cs, ∃ op, routeOp c = some op ∧ op.key.family = .v6 ∧ carriesInet6 c = false := by
  refine ⟨_, rfl, netCommand "add" ⟨.v6 1, 64, by decide⟩ "utun7", ?_, _, rfl, rfl, rfl⟩
  exact List.mem_cons_of_mem _ List.mem_cons_self

end LiosTunnel.Route
