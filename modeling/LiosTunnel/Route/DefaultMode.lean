import LiosTunnel.Route.Inverse

/-!
# Default mode, command by command

In default mode the server is pinned through its original gateway and the two halves of each
captured family are sent into the TUN. The pin is installed first and removed last, so after any
number of apply commands, and after any number of revert commands, the server still leaves through
its gateway (`default_mode_routing`): before the pin there is only the default route, and with the
pin no half route can win. Once everything is installed every other address of a captured family
matches a half.

* `defaultRoutes`: a table with at most one default route per family.
* `nextHop_of_pin`, `nextHop_of_half`: the two ways a lookup ends in default mode.
-/

namespace LiosTunnel.Route

open KeyedStore

/-- The table with only a default route per family, through the family's gateway. -/
def defaultRoutes (gateways : Family → Option IpAddr) : RouteTable :=
  fun d => if d.bits = [] then (gateways d.family).map .via else none

variable {gateways : Family → Option IpAddr} {plan : RoutePlan}

@[simp] theorem defaultRoutes_nil (f : Family) :
    defaultRoutes gateways ⟨f, []⟩ = (gateways f).map .via := rfl

theorem defaultRoutes_of_ne {d : Dest} (h : d.bits ≠ []) : defaultRoutes gateways d = none :=
  if_neg h

theorem nextHop_defaultRoutes (a : IpAddr) :
    (defaultRoutes gateways).nextHop a = (gateways a.family).map .via := by
  unfold RouteTable.nextHop
  have hnone : ∀ q, q ≠ [] → defaultRoutes gateways ⟨a.family, q⟩ = none :=
    fun q hq => defaultRoutes_of_ne hq
  rcases hg : gateways a.family with _ | g
  · refine PrefixTable.lookup_eq_none_iff.2 fun q _ => ?_
    rcases eq_or_ne q [] with rfl | hq
    · simp [hg]
    · exact hnone q hq
  · refine PrefixTable.lookup_eq_some_iff.2 ⟨[], List.nil_prefix, by simp [hg], fun q _ hlen => ?_⟩
    exact hnone q (by rintro rfl; simp at hlen)

/-- A host route decides its own address. -/
theorem nextHop_of_pin {t : RouteTable} {a : IpAddr} {hop : Hop} (h : t a.host = some hop) :
    t.nextHop a = some hop :=
  PrefixTable.lookup_of_full h

/-- A half route decides every address of its half that has no longer entry. -/
theorem nextHop_of_half {t : RouteTable} {a : IpAddr} {b : Bool} {w : List Bool} {hop : Hop}
    (ha : a.bits = b :: w) (h : t ⟨a.family, [b]⟩ = some hop)
    (hlong : ∀ q, q <+: a.bits → 1 < q.length → t ⟨a.family, q⟩ = none) :
    t.nextHop a = some hop := by
  refine PrefixTable.lookup_eq_some_iff.2 ⟨[b], ?_, h, hlong⟩
  rw [ha]
  exact List.cons_prefix_cons.2 ⟨rfl, List.nil_prefix⟩

/-! ## The entries of a default-mode plan -/

theorem mem_halves_dest {d : Dest} : d ∈ plan.halves.map IpNet.dest ↔
    (∃ b, d = ⟨.v4, [b]⟩) ∨ plan.ipv6Available = true ∧ ∃ b, d = ⟨.v6, [b]⟩ := by
  rw [RoutePlan.halves, List.map_append, v4Halves_dest]
  cases plan.ipv6Available <;> simp [v6Halves_dest, Bool.exists_bool, or_assoc]

theorem entries_default (h : plan.mode = .default) :
    plan.entries = (plan.serverIp.host, .via plan.originalGateway) ::
      (plan.halves.map IpNet.dest).map fun d => (d, .dev plan.interface) := by
  rw [RoutePlan.entries, h, List.map_map]
  rfl

theorem host_notMem_halves (a : IpAddr) : a.host ∉ plan.halves.map IpNet.dest := by
  intro h
  obtain ⟨n, hn, heq⟩ := List.mem_map.1 h
  have hlen := n.length_dest_bits
  rw [heq, RoutePlan.prefixLen_of_mem_halves hn, IpAddr.host, a.length_bits] at hlen
  cases a <;> cases hlen

theorem nodup_halves : (plan.halves.map IpNet.dest).Nodup := by
  rw [RoutePlan.halves, List.map_append, v4Halves_dest]
  cases plan.ipv6Available <;> simp [v6Halves_dest]

theorem nodup_entries_default (h : plan.mode = .default) :
    (plan.entries.map Prod.fst).Nodup := by
  rw [entries_default h, List.map_cons, List.map_map, List.nodup_cons]
  exact ⟨by simpa [Function.comp_def] using host_notMem_halves plan.serverIp,
    by simpa [Function.comp_def] using nodup_halves⟩

theorem defaultRoutes_of_mem_entries (h : plan.mode = .default) {e : Dest × Hop}
    (he : e ∈ plan.entries) : defaultRoutes gateways e.1 = none :=
  defaultRoutes_of_ne (RoutePlan.bits_ne_nil_of_mem_entries (by rw [h]; trivial) he)

/-! ## Every step of a connect -/

/-- A table to which some of the plan's entries, from the first on, have been added sends the
server through its gateway. -/
theorem nextHop_server_of_adds (hmode : plan.mode = .default)
    (hgw : gateways plan.serverIp.family = some plan.originalGateway) {es : List (Dest × Hop)}
    (hes : es <+: plan.entries) {t : RouteTable}
    (ht : runAll (defaultRoutes gateways) (adds es) = some t) :
    t.nextHop plan.serverIp = some (.via plan.originalGateway) := by
  rcases es with _ | ⟨e, es⟩
  · obtain rfl := Option.some.inj ht
    rw [nextHop_defaultRoutes, hgw]
    rfl
  · rw [entries_default hmode, List.cons_prefix_cons] at hes
    obtain ⟨rfl, -⟩ := hes
    exact nextHop_of_pin ((runAll_adds ht).2.1 _ List.mem_cons_self).2

/-- A table from which some of the plan's destinations, in the order of reverting, have been
deleted sends the server through its gateway. -/
theorem nextHop_server_of_dels (hmode : plan.mode = .default)
    (hgw : gateways plan.serverIp.family = some plan.originalGateway) {t t' : RouteTable}
    (ht : runAll (defaultRoutes gateways) (adds plan.entries) = some t) {ks : List Dest}
    (hks : ks <+: plan.revertOrder) (ht' : runAll t (dels ks) = some t') :
    t'.nextHop plan.serverIp = some (.via plan.originalGateway) := by
  have hperm := RoutePlan.revertOrder_perm hmode
  have hnodup : plan.revertOrder.Nodup := hperm.nodup_iff.2 (nodup_entries_default hmode)
  have hpresent : ∀ k ∈ ks, (t k).isSome := by
    intro k hk
    obtain ⟨e, he, rfl⟩ := List.mem_map.1 (hperm.mem_iff.1 (hks.subset hk))
    rw [((runAll_adds ht).2.1 e he).2, Option.isSome_some]
  -- the pin is the last destination, so it goes only when everything has gone
  rcases List.prefix_concat_iff.1 hks with rfl | hks'
  · rw [← List.concat_eq_append, List.concat_eq_append] at ht'
    rw [Option.some.inj (ht'.symm.trans (runAll_dels_of_adds ht hperm)), nextHop_defaultRoutes, hgw]
    rfl
  · have hpin : plan.serverIp.host ∉ ks := by
      intro hmem
      rw [RoutePlan.revertOrder, List.nodup_append] at hnodup
      exact hnodup.2.2 _ (hks'.subset hmem) _ (List.mem_singleton.2 rfl) rfl
    rw [runAll_dels (hks.sublist.nodup hnodup) hpresent] at ht'
    obtain rfl := Option.some.inj ht'
    refine nextHop_of_pin ?_
    simp only [hpin, if_false]
    have hmem : (plan.serverIp.host, Hop.via plan.originalGateway) ∈ plan.entries := by
      rw [entries_default hmode]
      exact List.mem_cons_self
    exact ((runAll_adds ht).2.1 _ hmem).2

/-- With every entry of the plan installed, any other address of a captured family goes into the
TUN. -/
theorem nextHop_tun (hmode : plan.mode = .default) {t : RouteTable}
    (ht : runAll (defaultRoutes gateways) (adds plan.entries) = some t) {a : IpAddr}
    (ha : a ≠ plan.serverIp) (hf : a.family = .v4 ∨ plan.ipv6Available = true) :
    t.nextHop a = some (.dev plan.interface) := by
  obtain ⟨-, hentries, hrest⟩ := runAll_adds ht
  obtain ⟨b, w, hbits⟩ := a.exists_bits_cons
  have hhalf : (⟨a.family, [b]⟩ : Dest) ∈ plan.halves.map IpNet.dest := by
    refine mem_halves_dest.2 ?_
    rcases hfam : a.family
    · exact Or.inl ⟨b, rfl⟩
    · exact Or.inr ⟨hf.resolve_left (by simp [hfam]), b, rfl⟩
  refine nextHop_of_half hbits ?_ fun q hq hlen => ?_
  · refine (hentries (⟨a.family, [b]⟩, .dev plan.interface) ?_).2
    rw [entries_default hmode]
    exact List.mem_cons_of_mem _ (List.mem_map_of_mem hhalf)
  · rw [hrest, defaultRoutes_of_ne]
    · rintro rfl
      simp at hlen
    · -- a longer entry would be the server's own, or another half
      rw [entries_default hmode, List.map_cons, List.map_map, List.mem_cons, not_or]
      constructor
      · intro heq
        have hhost : plan.serverIp.host = ⟨a.family, q⟩ := heq.symm
        have hcov : plan.serverIp.host.Covers a := by
          rw [hhost]
          exact ⟨rfl, hq⟩
        exact ha (IpAddr.host_covers_iff.1 hcov).symm
      · intro hmem
        have hmem' : (⟨a.family, q⟩ : Dest) ∈ plan.halves.map IpNet.dest := by
          simpa [Function.comp_def] using hmem
        rcases mem_halves_dest.1 hmem' with ⟨c, hc⟩ | ⟨-, c, hc⟩ <;>
          · simp only [Dest.mk.injEq] at hc
            rw [hc.2] at hlen
            simp at hlen

/-- **Default mode is right at every step.** From a table with only a default route per family,
where the server's family goes through the plan's original gateway: every beginning of the apply
commands succeeds and sends the server through that gateway; the whole of them sends every other
IPv4 address into the TUN, and every other IPv6 address when IPv6 is available; and from there
every beginning of the revert commands succeeds and sends the server through its gateway. -/
theorem default_mode_routing {p : Platform} {plan : RoutePlan} {gateways : Family → Option IpAddr}
    (hmode : plan.mode = .default)
    (hgw : gateways plan.serverIp.family = some plan.originalGateway) :
    ∃ cs rs, ∃ t : RouteTable, p.manager.applyCommands plan = .ok cs ∧
      p.manager.revertCommands plan = .ok rs ∧
      (∀ n, ∃ t' : RouteTable, runAll (defaultRoutes gateways) (routeOps (cs.take n)) = some t' ∧
        t'.nextHop plan.serverIp = some (.via plan.originalGateway)) ∧
      runAll (defaultRoutes gateways) (routeOps cs) = some t ∧
      (∀ a, a ≠ plan.serverIp → a.family = .v4 ∨ plan.ipv6Available = true →
        t.nextHop a = some (.dev plan.interface)) ∧
      ∀ n, ∃ t' : RouteTable, runAll t (routeOps (rs.take n)) = some t' ∧
        t'.nextHop plan.serverIp = some (.via plan.originalGateway) := by
  have hbounded : plan.mode.Bounded := by rw [hmode]; trivial
  obtain ⟨cs, hcs⟩ := (applyCommands_ok_iff p plan).2 hbounded
  obtain ⟨rs, hrs⟩ := (revertCommands_ok_iff p plan).2 hbounded
  have hadds := routeOps_apply hcs
  have hdels := routeOps_revert_default hmode hrs
  have hnodup := nodup_entries_default hmode
  have hfree : ∀ e ∈ plan.entries, defaultRoutes gateways e.1 = none :=
    fun e he => defaultRoutes_of_mem_entries hmode he
  obtain ⟨t, ht⟩ := exists_runAll_adds hnodup hfree
  refine ⟨cs, rs, t, hcs, hrs, fun n => ?_, by rw [hadds, ht], fun a => nextHop_tun hmode ht,
    fun n => ?_⟩
  · obtain ⟨es, hes, heq⟩ := List.prefix_map_iff.1 (hadds ▸ routeOps_take cs n)
    have hsub := hes.sublist.map Prod.fst
    obtain ⟨t', ht'⟩ := exists_runAll_adds (hsub.nodup hnodup) fun e he => hfree e (hes.subset he)
    rw [← adds] at heq
    exact ⟨t', by rw [heq, ht'], nextHop_server_of_adds hmode hgw hes ht'⟩
  · obtain ⟨ks, hks, heq⟩ := List.prefix_map_iff.1 (hdels ▸ routeOps_take rs n)
    rw [← dels] at heq
    have hperm := RoutePlan.revertOrder_perm hmode
    have hpresent : ∀ k ∈ ks, (t k).isSome := by
      intro k hk
      obtain ⟨e, he, rfl⟩ := List.mem_map.1 (hperm.mem_iff.1 (hks.subset hk))
      rw [((runAll_adds ht).2.1 e he).2, Option.isSome_some]
    have ht' := runAll_dels (hks.sublist.nodup (hperm.nodup_iff.2 hnodup)) hpresent
    exact ⟨_, by rw [heq, ht'], nextHop_server_of_dels hmode hgw ht hks ht'⟩

/-- A plan in default mode for an IPv6 server, with the IPv6 halves captured too. -/
def defaultPlan : RoutePlan where
  interface := "utun7"
  mode := .default
  serverIp := .v6 0x20010db8000000000000000000000007
  originalGateway := .v6 0xfe800000000000000000000000000001
  dnsServers := [.ofOctets 1 1 1 1]
  ipv6Available := true

theorem default_mode_routing_defaultPlan :
    ∃ cs, ∃ t : RouteTable, Platform.linux.manager.applyCommands defaultPlan = .ok cs ∧
      runAll (defaultRoutes fun _ => some defaultPlan.originalGateway) (routeOps cs) = some t ∧
      t.nextHop (.v6 1) = some (.dev defaultPlan.interface) := by
  obtain ⟨cs, -, t, hcs, -, -, ht, htun, -⟩ :=
    @default_mode_routing .linux defaultPlan (fun _ => some defaultPlan.originalGateway) rfl rfl
  exact ⟨cs, t, hcs, ht, htun _ (by decide) (Or.inr rfl)⟩

end LiosTunnel.Route
