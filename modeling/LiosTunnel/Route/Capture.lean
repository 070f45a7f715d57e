import LiosTunnel.Route.Inverse

/-!
# Which requests capture the tunnel's own server

The two `parse_route_mode` functions turn the strings of a request into a `RouteMode`, and the back
ends turn the mode into routes. In default mode the server is pinned. In test mode it is not, and
neither function compares the listed prefixes, or the resolvers that get a host route, with the
server's address: the helper refuses lengths zero and one, the CLI length zero. So the server's own
packets go into the TUN exactly when a listed prefix covers it or it is a captured resolver
(`accepted_spares_server_iff`).

* `Helper.parseRouteMode`, `Cli.parseRouteMode`: the two validators.
* `RoutePlan.SparesServer`: the condition on a plan.
* `nextHop_of_uniform_adds`: longest-prefix match after routes to one interface.
-/

namespace LiosTunnel

open Route KeyedStore

section Parse

-- `parse` is `str::parse::<ipnet::IpNet>`, with the `Display` of its error
variable (parse : String → Except Text IpNet)

/-- `liostunnel-helper`'s `parse_route_mode`. -/
def Helper.parseRouteMode (routeMode : String) (cidrs : List String) (captureDns : Bool) :
    Except Helper.StartError RouteMode :=
  if routeMode = "test" then do
    let parsed ← cidrs.mapM fun c =>
      (parse c).mapError fun _ => .badRouteMode [.lit "cidr is not valid: ", .lit c]
    if parsed.isEmpty then .error (.badRouteMode [.lit "test route mode needs at least one prefix"])
    else do
      (rejectFullDefaultPrefixes parsed).mapError .tunnel
      match parsed.find? fun c => decide (c.prefixLen ≤ 1) with
      | some bad =>
        .error (.badRouteMode [.net bad, .lit (" is too broad for test mode, which installs no " ++
          "route to the server itself; use default mode to capture everything")])
      | none => return .test parsed captureDns
  else if routeMode = "default" then .ok .default
  else .error (.badRouteMode [.lit "expected `test` or `default`, got `", .lit routeMode, .lit "`"])

/-- `liostunnel-cli`'s `parse_route_mode`. -/
def Cli.parseRouteMode (routeMode : String) (cidrs : List String) (captureDns : Bool) :
    Except TunnelError RouteMode :=
  if routeMode = "test" then do
    let parsed ← cidrs.mapM fun c => (parse c).mapError fun e => .config "--cidr" e
    if parsed.isEmpty then
      .error (.config "--cidr" [.lit "test route mode needs at least one prefix"])
    else do
      rejectFullDefaultPrefixes parsed
      return .test parsed captureDns
  else if routeMode = "default" then .ok .default
  else .error (.config "--route-mode"
    [.lit "expected `test` or `default`, got `", .lit routeMode, .lit "`"])

/-- One of the two front ends accepts the request and means `m` by it. -/
def Accepted (routeMode : String) (cidrs : List String) (captureDns : Bool) (m : RouteMode) :
    Prop :=
  Helper.parseRouteMode parse routeMode cidrs captureDns = .ok m ∨
    Cli.parseRouteMode parse routeMode cidrs captureDns = .ok m

end Parse

namespace Route

/-! ## What the validators accept -/

/-- Neither front end lets a zero-length prefix through. -/
theorem bounded_of_accepted {parse : String → Except Text IpNet} {routeMode : String}
    {cidrs : List String} {captureDns : Bool} {m : RouteMode}
    (h : Accepted parse routeMode cidrs captureDns m) : m.Bounded := by
  rcases h with h | h
  · unfold Helper.parseRouteMode at h
    split at h
    · obtain ⟨parsed, -, h⟩ := bind_eq_ok h
      split at h
      · cases h
      obtain ⟨_, hreject, h⟩ := bind_eq_ok h
      split at h
      · cases h
      · obtain rfl := Except.ok.inj h
        exact rejectFullDefaultPrefixes_eq_ok.1 (mapError_eq_ok hreject)
    · split at h
      · obtain rfl := Except.ok.inj h
        trivial
      · cases h
  · unfold Cli.parseRouteMode at h
    split at h
    · obtain ⟨parsed, -, h⟩ := bind_eq_ok h
      split at h
      · cases h
      obtain ⟨_, hreject, h⟩ := bind_eq_ok h
      obtain rfl := Except.ok.inj h
      exact rejectFullDefaultPrefixes_eq_ok.1 hreject
    · split at h
      · obtain rfl := Except.ok.inj h
        trivial
      · cases h

/-! ## Longest-prefix match after the routes are in -/

/-- The only entry of the table that an address can match is a default route to `hop`. -/
def OnlyDefault (t : RouteTable) (a : IpAddr) (hop : Hop) : Prop :=
  t a.family.default = some hop ∧ ∀ p, p <+: a.bits → p ≠ [] → t ⟨a.family, p⟩ = none

/-- Where an address matches a default route alone, adding routes to one interface captures the
address exactly when one of them covers it. -/
theorem nextHop_of_uniform_adds {t : RouteTable} {a : IpAddr} {hop : Hop} {interface : String}
    (ht : OnlyDefault t a hop) (hhop : hop ≠ .dev interface) {ks : List Dest}
    (hks : ∀ k ∈ ks, k.bits ≠ []) :
    RouteTable.nextHop (attemptAll t (adds (ks.map fun k => (k, .dev interface)))) a =
        some (.dev interface) ↔ ∃ k ∈ ks, k.Covers a := by
  have hentry : ∀ p, p <+: a.bits → p ≠ [] → ∀ hop',
      attemptAll t (adds (ks.map fun k => (k, .dev interface))) ⟨a.family, p⟩ = some hop' ↔
        ⟨a.family, p⟩ ∈ ks ∧ hop' = .dev interface := by
    intro p hp hne hop'
    rw [attemptAll_adds_const, ht.2 p hp hne]
    by_cases hmem : (⟨a.family, p⟩ : Dest) ∈ ks
    · simp [hmem, eq_comm]
    · simp [hmem]
  have hnil : attemptAll t (adds (ks.map fun k => (k, .dev interface))) ⟨a.family, []⟩ =
      some hop := attemptAll_adds_of_some ht.1 _
  have huniform : ∀ p, p <+: a.bits → p ≠ [] → ∀ hop',
      attemptAll t (adds (ks.map fun k => (k, .dev interface))) ⟨a.family, p⟩ = some hop' →
        hop' = .dev interface := fun p hp hne hop' h => ((hentry p hp hne hop').1 h).2
  refine (PrefixTable.lookup_eq_iff_of_uniform hhop hnil huniform).trans ?_
  constructor
  · rintro ⟨p, hp, hne, h⟩
    exact ⟨_, ((hentry p hp hne _).1 h).1, rfl, hp⟩
  · rintro ⟨⟨f, p⟩, hmem, hf, hp⟩
    obtain rfl : f = a.family := hf
    have hne : p ≠ [] := hks _ hmem
    exact ⟨p, hp, hne, (hentry p hp hne _).2 ⟨hmem, rfl⟩⟩

/-! ## The server -/

/-- The plan keeps its own server out of the TUN: default mode, which pins it; or test mode with no
prefix that contains it and no resolver that is the server itself. -/
def RoutePlan.SparesServer (plan : RoutePlan) : Prop :=
  match plan.mode with
  | .default => True
  | .test cidrs captureDns =>
    (∀ c ∈ cidrs, c.contains plan.serverIp = false) ∧
      (captureDns = true → plan.serverIp ∉ plan.dnsServers)

/-- In test mode a route covers the server exactly when the plan does not spare it. -/
theorem exists_covers_server_iff {plan : RoutePlan} {cidrs : List IpNet} {captureDns : Bool}
    (hm : plan.mode = .test cidrs captureDns) :
    (∃ k ∈ cidrs.map IpNet.dest ++
        (capturedDns captureDns cidrs plan.dnsServers).map IpAddr.host, k.Covers plan.serverIp) ↔
      ¬plan.SparesServer := by
  have hspares : plan.SparesServer ↔ (∀ c ∈ cidrs, ¬c.dest.Covers plan.serverIp) ∧
      (captureDns = true → plan.serverIp ∉ plan.dnsServers) := by
    simp only [RoutePlan.SparesServer, hm, ← IpNet.contains_iff, Bool.not_eq_true]
  rw [hspares]
  constructor
  · rintro ⟨k, hk, hcov⟩ ⟨hcidrs, hdns⟩
    rcases List.mem_append.1 hk with hk | hk
    · obtain ⟨c, hc, rfl⟩ := List.mem_map.1 hk
      exact hcidrs c hc hcov
    · obtain ⟨a, ha, rfl⟩ := List.mem_map.1 hk
      obtain rfl := IpAddr.host_covers_iff.1 hcov
      cases captureDns with
      | false => cases ha
      | true => exact hdns rfl (mem_dnsServersNeedingHostRoutes.1 ha).1
  · intro hnot
    by_cases hcidrs : ∀ c ∈ cidrs, ¬c.dest.Covers plan.serverIp
    · -- no prefix covers the server, so as a captured resolver it gets a host route of its own
      have hdns : captureDns = true ∧ plan.serverIp ∈ plan.dnsServers := by
        by_contra hdns
        exact hnot ⟨hcidrs, fun hc hmem => hdns ⟨hc, hmem⟩⟩
      refine ⟨plan.serverIp.host, List.mem_append_right _ (List.mem_map_of_mem ?_),
        IpAddr.host_covers_iff.2 rfl⟩
      rw [capturedDns, if_pos hdns.1]
      exact mem_dnsServersNeedingHostRoutes.2 ⟨hdns.2, hcidrs⟩
    · obtain ⟨c, hc, hcov⟩ : ∃ c ∈ cidrs, c.dest.Covers plan.serverIp := by
        simpa only [not_forall, not_not, exists_prop] using hcidrs
      exact ⟨c.dest, List.mem_append_left _ (List.mem_map_of_mem hc), hcov⟩

/-- **When the tunnel does not capture its own server**: for an accepted request, from a table in
which the server matches only a default route through the original gateway, the apply commands
leave the server off the TUN exactly when the plan spares it. -/
theorem accepted_spares_server_iff {parse : String → Except Text IpNet} {routeMode : String}
    {cidrs : List String} {captureDns : Bool} {plan : RoutePlan} (p : Platform) {k : Kernel}
    (haccepted : Accepted parse routeMode cidrs captureDns plan.mode)
    (hk : OnlyDefault k.routes plan.serverIp (.via plan.originalGateway)) :
    ∃ cs, p.manager.applyCommands plan = .ok cs ∧
      ((k.attemptAll cs).routes.nextHop plan.serverIp ≠ some (.dev plan.interface) ↔
        plan.SparesServer) := by
  obtain ⟨cs, hcs⟩ := (applyCommands_ok_iff p plan).2 (bounded_of_accepted haccepted)
  refine ⟨cs, hcs, ?_⟩
  rw [Kernel.attemptAll_routes, routeOps_apply hcs]
  rcases hm : plan.mode with ⟨nets, captureDns'⟩ | _
  · have hentries : plan.entries = (nets.map IpNet.dest ++ (capturedDns captureDns' nets
        plan.dnsServers).map IpAddr.host).map fun d => (d, .dev plan.interface) := by
      rw [RoutePlan.entries, hm]
    have hbits : ∀ d ∈ nets.map IpNet.dest ++ (capturedDns captureDns' nets
        plan.dnsServers).map IpAddr.host, d.bits ≠ [] := by
      intro d hd
      refine RoutePlan.bits_ne_nil_of_mem_entries (bounded_of_accepted haccepted)
        (e := (d, .dev plan.interface)) ?_
      rw [hentries]
      exact List.mem_map_of_mem hd
    rw [hentries, ne_eq, nextHop_of_uniform_adds hk (by simp) hbits, exists_covers_server_iff hm,
      not_not]
  · have hspares : plan.SparesServer := by rw [RoutePlan.SparesServer, hm]; trivial
    have hfree : k.routes plan.serverIp.host = none := by
      obtain ⟨b, w, hbits⟩ := plan.serverIp.exists_bits_cons
      exact hk.2 _ List.prefix_rfl (by simp [hbits])
    have hpin : attemptAll k.routes (adds plan.entries) plan.serverIp.host =
        some (.via plan.originalGateway) := by
      have hfirst : attempt k.routes (.add plan.serverIp.host (.via plan.originalGateway))
          plan.serverIp.host = some (.via plan.originalGateway) := by
        rw [attempt_add, if_pos rfl, hfree, Option.none_or]
      rw [RoutePlan.entries, hm]
      exact attemptAll_adds_of_some hfirst _
    rw [iff_true_right hspares, RouteTable.nextHop, PrefixTable.lookup_of_full hpin]
    simp

/-- A plan whose one prefix is the server's own address. -/
def serverPlan : RoutePlan where
  interface := "utun7"
  mode := .test [.host (.ofOctets 203 0 113 7)] false
  serverIp := .ofOctets 203 0 113 7
  originalGateway := .ofOctets 192 168 1 1
  dnsServers := []
  ipv6Available := false

/-- The machine before: a default route and nothing else. -/
def plainKernel : Kernel where
  routes := fun d => if d = Family.v4.default then some (.via (.ofOctets 192 168 1 1)) else none
  resolvConf := some []
  backup := none
  wifiDns := []

theorem onlyDefault_plainKernel :
    OnlyDefault plainKernel.routes serverPlan.serverIp (.via serverPlan.originalGateway) := by
  refine ⟨rfl, fun p _ hne => if_neg ?_⟩
  intro heq
  exact hne (Dest.mk.inj heq).2

/-- Both front ends accept a request for the server's own `/32`, and the server is captured. -/
theorem accepted_captures_server :
    (∀ parse : String → Except Text IpNet,
      parse "203.0.113.7/32" = .ok (.host (.ofOctets 203 0 113 7)) →
        Helper.parseRouteMode parse "test" ["203.0.113.7/32"] false = .ok serverPlan.mode ∧
        Cli.parseRouteMode parse "test" ["203.0.113.7/32"] false = .ok serverPlan.mode) ∧
      OnlyDefault plainKernel.routes serverPlan.serverIp (.via serverPlan.originalGateway) ∧
      ∃ cs, linuxRoutes.applyCommands serverPlan = .ok cs ∧
        (plainKernel.attemptAll cs).routes.nextHop serverPlan.serverIp =
          some (.dev serverPlan.interface) := by
  refine ⟨fun parse h => ?_, onlyDefault_plainKernel, _, rfl, by decide +kernel⟩
  constructor
  · simp only [Helper.parseRouteMode, if_true, List.mapM_cons, List.mapM_nil, h]
    rfl
  · simp only [Cli.parseRouteMode, if_true, List.mapM_cons, List.mapM_nil, h]
    rfl

theorem accepted_spares_server_iff_serverPlan :
    ∃ cs, linuxRoutes.applyCommands serverPlan = .ok cs ∧
      ((plainKernel.attemptAll cs).routes.nextHop serverPlan.serverIp ≠
        some (.dev serverPlan.interface) ↔ serverPlan.SparesServer) := by
  have haccepted : Accepted (fun _ => .ok (.host (.ofOctets 203 0 113 7))) "test"
      ["203.0.113.7/32"] false serverPlan.mode := Or.inl rfl
  exact accepted_spares_server_iff .linux haccepted onlyDefault_plainKernel

end Route

end LiosTunnel
