import LiosTunnel.Route.DefaultMode

/-!
# Prefixes that are added twice

`dns_servers_needing_host_routes` leaves out a resolver that a listed prefix covers, so that no
resolver's route collides with a prefix's. Neither the prefixes nor the resolvers are compared among
themselves.

* `addedDests`: the destinations a list of commands adds, as masked networks.
* `RouteMode.Distinct`: no listed prefix is there twice, and no resolver that gets a route.
* `apply_adds_distinct_iff`: no two commands add the same prefix, and on a table without these
  prefixes none is refused, exactly for such plans.
-/

namespace LiosTunnel.Route

open KeyedStore

/-- The destination an operation adds. -/
def addedDest : Op Dest Hop → Option Dest
  | .add d _ => some d
  | .del _ => none

/-- The destinations that the add commands of a list name. -/
def addedDests (cs : List RouteCommand) : List Dest := (routeOps cs).filterMap addedDest

/-- No prefix is listed twice, compared as masked networks; where DNS is captured, no resolver that
lies in none of them is listed twice. -/
def RouteMode.Distinct (dnsServers : List IpAddr) : RouteMode → Prop
  | .test cidrs captureDns =>
    (cidrs.map IpNet.dest).Nodup ∧
      (captureDns = true →
        ∀ a ∈ dnsServers, (∀ c ∈ cidrs, ¬c.dest.Covers a) → dnsServers.count a = 1)
  | .default => True

/-! ## One source with another -/

theorem host_injective : Function.Injective IpAddr.host := by
  intro a b h
  have hcovers : a.host.Covers b := h ▸ IpAddr.host_covers_iff.2 rfl
  exact IpAddr.host_covers_iff.1 hcovers

/-- A resolver that still needs its route has it at no listed prefix. -/
theorem host_ne_dest {cidrs : List IpNet} {dnsServers : List IpAddr} {c : IpNet} {a : IpAddr}
    (hc : c ∈ cidrs) (ha : a ∈ dnsServersNeedingHostRoutes cidrs dnsServers) :
    c.dest ≠ a.host := by
  intro h
  have hcovers : c.dest.Covers a := h ▸ IpAddr.host_covers_iff.2 rfl
  exact (mem_dnsServersNeedingHostRoutes.1 ha).2 c hc hcovers

/-! ## One source with itself -/

theorem nodup_dnsServersNeedingHostRoutes_iff {cidrs : List IpNet} {dnsServers : List IpAddr} :
    (dnsServersNeedingHostRoutes cidrs dnsServers).Nodup ↔
      ∀ a ∈ dnsServers, (∀ c ∈ cidrs, ¬c.dest.Covers a) → dnsServers.count a = 1 := by
  have hcount : ∀ a ∈ dnsServersNeedingHostRoutes cidrs dnsServers,
      (dnsServersNeedingHostRoutes cidrs dnsServers).count a = dnsServers.count a := by
    intro a ha
    exact List.count_filter (List.mem_filter.1 ha).2
  rw [List.nodup_iff_count_eq_one]
  constructor
  · intro h a ha hfree
    have hmem := mem_dnsServersNeedingHostRoutes.2 ⟨ha, hfree⟩
    rw [← hcount a hmem]
    exact h a hmem
  · intro h a hmem
    obtain ⟨ha, hfree⟩ := mem_dnsServersNeedingHostRoutes.1 hmem
    rw [hcount a hmem]
    exact h a ha hfree

theorem nodup_capturedDns_iff {captureDns : Bool} {cidrs : List IpNet} {dnsServers : List IpAddr} :
    (capturedDns captureDns cidrs dnsServers).Nodup ↔ (captureDns = true →
      ∀ a ∈ dnsServers, (∀ c ∈ cidrs, ¬c.dest.Covers a) → dnsServers.count a = 1) := by
  cases captureDns with
  | true => simp [capturedDns, nodup_dnsServersNeedingHostRoutes_iff]
  | false => simp [capturedDns]

/-- The prefixes a plan asks for are distinct exactly when its lists are. -/
theorem nodup_entries_iff (plan : RoutePlan) :
    (plan.entries.map Prod.fst).Nodup ↔ plan.mode.Distinct plan.dnsServers := by
  rcases hm : plan.mode with ⟨cidrs, captureDns⟩ | _
  · rw [RoutePlan.entries, hm, List.map_map,
      show Prod.fst ∘ (fun d => (d, Hop.dev plan.interface)) = id from rfl,
      List.map_id, List.nodup_append, List.nodup_map_iff host_injective, nodup_capturedDns_iff,
      RouteMode.Distinct]
    -- the two sources have no destination in common
    have hapart : ∀ d ∈ cidrs.map IpNet.dest,
        ∀ d' ∈ (capturedDns captureDns cidrs plan.dnsServers).map IpAddr.host, d ≠ d' := by
      intro d hd d' hd'
      obtain ⟨c, hc, rfl⟩ := List.mem_map.1 hd
      obtain ⟨a, ha, rfl⟩ := List.mem_map.1 hd'
      rw [capturedDns] at ha
      split at ha
      · exact host_ne_dest hc ha
      · cases ha
    exact ⟨fun h => ⟨h.1, h.2.1⟩, fun h => ⟨h.1, h.2, hapart⟩⟩
  · exact iff_of_true (nodup_entries_default hm) trivial

/-! ## The commands -/

theorem addedDests_apply {p : Platform} {plan : RoutePlan} {cs : List RouteCommand}
    (h : p.manager.applyCommands plan = .ok cs) : addedDests cs = plan.entries.map Prod.fst := by
  rw [addedDests, routeOps_apply h, adds, List.filterMap_map]
  exact congrFun List.filterMap_eq_map plan.entries

/-- **Apply adds no prefix twice, exactly for plans that list none twice**: the plans the back ends
refuse aside, the added prefixes are distinct, and no add is refused on a table that has none of
them, if and only if the listed prefixes are and the resolvers that get a route of their own are. -/
theorem apply_adds_distinct_iff (p : Platform) (plan : RoutePlan) :
    (∀ cs, p.manager.applyCommands plan = .ok cs → (addedDests cs).Nodup ∧
      ∀ t : RouteTable, (∀ d ∈ addedDests cs, t d = none) →
        ∃ t', runAll t (routeOps cs) = some t') ↔
    (plan.mode.Bounded → plan.mode.Distinct plan.dnsServers) := by
  constructor
  · intro h hbounded
    obtain ⟨cs, hcs⟩ := (applyCommands_ok_iff p plan).2 hbounded
    have hnodup := (h cs hcs).1
    rw [addedDests_apply hcs] at hnodup
    exact (nodup_entries_iff plan).1 hnodup
  · intro h cs hcs
    have hdistinct := h ((applyCommands_ok_iff p plan).1 ⟨cs, hcs⟩)
    rw [addedDests_apply hcs, routeOps_apply hcs]
    have hnodup := (nodup_entries_iff plan).2 hdistinct
    refine ⟨hnodup, fun t hfree => ?_⟩
    exact exists_runAll_adds hnodup fun e he => hfree e.1 (List.mem_map_of_mem he)

/-- A plan whose profile names one resolver twice. -/
def resolverTwicePlan : RoutePlan where
  interface := "tun0"
  mode := .test [⟨.ofOctets 93 184 216 0, 24, le_width_listed⟩] true
  serverIp := .ofOctets 198 51 100 7
  originalGateway := .ofOctets 192 168 1 1
  dnsServers := [.ofOctets 1 1 1 1, .ofOctets 1 1 1 1]
  ipv6Available := false

theorem apply_resolverTwicePlan_adds_twice :
    ∃ cs, Platform.linux.manager.applyCommands resolverTwicePlan = .ok cs ∧
      ¬ (addedDests cs).Nodup ∧ runAll (fun _ => none) (routeOps cs) = none := by
  refine ⟨_, rfl, by decide +kernel, rfl⟩

end LiosTunnel.Route
