import LiosTunnel.Error

/-!
# Route plans and route commands

`route/mod.rs`: the plan a session is given, the command values the platform back ends build from
it, and the two checks every back end makes first. Building commands is pure; what a command does
to a machine is `Route.Kernel`.

* `RoutePlan`, `RouteMode`, `RouteCommand`: the data of `route/mod.rs`.
* `rejectFullDefaultPrefixes`: refuses a `/0` in test mode.
* `dnsServersNeedingHostRoutes`: the resolvers no listed prefix covers.
* `RouteManager`: a back end, a pair of command lists for every plan.
-/

namespace LiosTunnel.Route

/-- `route::RouteMode`. -/
inductive RouteMode
  /-- Route only these prefixes. -/
  | test (cidrs : List IpNet) (captureDns : Bool)
  /-- Full default-route override. -/
  | default
  deriving DecidableEq, Repr

/-- `route::RoutePlan`. -/
structure RoutePlan where
  interface : String
  mode : RouteMode
  serverIp : IpAddr
  originalGateway : IpAddr
  dnsServers : List IpAddr
  ipv6Available : Bool
  deriving DecidableEq, Repr

/-- `route::RouteCommand`: a program, its arguments, and the text piped to it, if any. -/
structure RouteCommand where
  program : String
  args : List Piece
  stdin : Option Text
  deriving DecidableEq, Repr

namespace RouteCommand

def new (program : String) (args : List Piece) : RouteCommand := ⟨program, args, none⟩

def withStdin (program : String) (args : List Piece) (stdin : Text) : RouteCommand :=
  ⟨program, args, some stdin⟩

end RouteCommand

/-- Rejects a full-default prefix (`0.0.0.0/0` or `::/0`). -/
def rejectFullDefaultPrefixes (cidrs : List IpNet) : Except TunnelError Unit :=
  match cidrs.find? fun c => c.prefixLen == 0 with
  | some cidr =>
    .error (.config "route.test.cidrs"
      [.lit "`", .net cidr, .lit ("` is a full-default prefix (/0); test mode only routes " ++
        "explicit, bounded prefixes")])
  | none => .ok ()

/-- Which resolver addresses still need their own host route in test mode. -/
def dnsServersNeedingHostRoutes (cidrs : List IpNet) (dnsServers : List IpAddr) : List IpAddr :=
  dnsServers.filter fun dns => !(cidrs.any fun c => c.contains dns)

/-- `route::RouteManager`, without the methods that ask the system (`detect_gateway` and
`ipv6_available`): their answers are fields of the plan. -/
structure RouteManager where
  applyCommands : RoutePlan → Except TunnelError (List RouteCommand)
  revertCommands : RoutePlan → Except TunnelError (List RouteCommand)

theorem rejectFullDefaultPrefixes_eq_ok {cidrs : List IpNet} {u : Unit} :
    rejectFullDefaultPrefixes cidrs = .ok u ↔ ∀ c ∈ cidrs, c.prefixLen ≠ 0 := by
  unfold rejectFullDefaultPrefixes
  split
  · rename_i cidr hfind
    have hmem := List.mem_of_find?_eq_some hfind
    have hzero : cidr.prefixLen = 0 := by simpa using List.find?_some hfind
    simp only [reduceCtorEq, false_iff, not_forall]
    exact ⟨cidr, hmem, fun h => h hzero⟩
  · rename_i hfind
    simpa using hfind

theorem mem_dnsServersNeedingHostRoutes {cidrs : List IpNet} {dnsServers : List IpAddr}
    {a : IpAddr} : a ∈ dnsServersNeedingHostRoutes cidrs dnsServers ↔
      a ∈ dnsServers ∧ ∀ c ∈ cidrs, ¬c.dest.Covers a := by
  simp [dnsServersNeedingHostRoutes, ← IpNet.contains_iff]

/-! ## What a plan installs -/

/-- Where a route sends what it matches. -/
inductive Hop
  /-- Out of the named interface. -/
  | dev (interface : String)
  /-- To the gateway. -/
  | via (gateway : IpAddr)
  deriving DecidableEq, Repr

/-- The halves of the IPv4 address space, `0.0.0.0/1` and `128.0.0.0/1`. -/
def v4Halves : List IpNet :=
  [⟨.v4 0, 1, by decide⟩, ⟨.v4 0x80000000, 1, by decide⟩]

/-- The halves of the IPv6 address space, `::/1` and `8000::/1`. -/
def v6Halves : List IpNet :=
  [⟨.v6 0, 1, by decide⟩, ⟨.v6 0x80000000000000000000000000000000, 1, by decide⟩]

/-- The half routes a plan in default mode installs, of both families. -/
def RoutePlan.halves (plan : RoutePlan) : List IpNet :=
  v4Halves ++ if plan.ipv6Available then v6Halves else []

/-- The resolvers that get a host route in test mode. -/
def capturedDns (captureDns : Bool) (cidrs : List IpNet) (dnsServers : List IpAddr) :
    List IpAddr :=
  if captureDns then dnsServersNeedingHostRoutes cidrs dnsServers else []

/-- **The routes a plan asks for**, in the order they are installed. This is the purpose of a back
end's command lists, stated once for both platforms; `Route.Linux` and `Route.MacOs` prove that
their lists install and remove exactly these. -/
def RoutePlan.entries (plan : RoutePlan) : List (Dest × Hop) :=
  match plan.mode with
  | .test cidrs captureDns =>
    (cidrs.map IpNet.dest ++ (capturedDns captureDns cidrs plan.dnsServers).map IpAddr.host).map
      fun d => (d, .dev plan.interface)
  | .default =>
    (plan.serverIp.host, .via plan.originalGateway) ::
      plan.halves.map fun n => (n.dest, .dev plan.interface)

/-- The mode lists no zero-length prefix; the back ends refuse it otherwise. -/
def RouteMode.Bounded : RouteMode → Prop
  | .test cidrs _ => ∀ c ∈ cidrs, c.prefixLen ≠ 0
  | .default => True

theorem v4Halves_dest : v4Halves.map IpNet.dest = [⟨.v4, [false]⟩, ⟨.v4, [true]⟩] := by decide

theorem v6Halves_dest : v6Halves.map IpNet.dest = [⟨.v6, [false]⟩, ⟨.v6, [true]⟩] := by
  decide +kernel

theorem RoutePlan.prefixLen_of_mem_halves {plan : RoutePlan} {n : IpNet} (h : n ∈ plan.halves) :
    n.prefixLen = 1 := by
  rcases List.mem_append.1 h with h | h
  · exact (by decide : ∀ n ∈ v4Halves, n.prefixLen = 1) n h
  · split at h
    · exact (by decide : ∀ n ∈ v6Halves, n.prefixLen = 1) n h
    · cases h

/-- No plan that the back ends accept asks for a default route. -/
theorem RoutePlan.bits_ne_nil_of_mem_entries {plan : RoutePlan} (h : plan.mode.Bounded)
    {e : Dest × Hop} (he : e ∈ plan.entries) : e.1.bits ≠ [] := by
  unfold RoutePlan.entries at he
  rcases hm : plan.mode with ⟨cidrs, captureDns⟩ | _ <;> rw [hm] at h he
  · simp only [List.map_append, List.map_map, List.mem_append, List.mem_map,
      Function.comp_apply] at he
    rcases he with ⟨c, hc, rfl⟩ | ⟨a, -, rfl⟩
    · intro hnil
      exact h c hc (by rw [← c.length_dest_bits, hnil, List.length_nil])
    · obtain ⟨b, w, hbits⟩ := a.exists_bits_cons
      simp [IpAddr.host, hbits]
  · rcases List.mem_cons.1 he with rfl | he
    · obtain ⟨b, w, hbits⟩ := plan.serverIp.exists_bits_cons
      simp [IpAddr.host, hbits]
    · obtain ⟨n, hn, rfl⟩ := List.mem_map.1 he
      intro hnil
      have hlen := n.length_dest_bits
      rw [hnil, RoutePlan.prefixLen_of_mem_halves hn] at hlen
      cases hlen

end LiosTunnel.Route
