import LiosTunnel.Route.Kernel

/-!
# Reverting undoes applying

Both back ends write the same routes: `routeOps_apply` says that the commands a back end builds for
a plan add exactly `RoutePlan.entries`, in that order, and `routeOps_revert` that its revert
commands delete exactly those destinations, in an order of their own. With
`KeyedStore.runAll_dels_of_adds` the second list is the inverse of the first on every routing table
on which the first succeeds.
-/

namespace LiosTunnel.Route

open KeyedStore

/-- The platforms `platform_manager` chooses between. -/
inductive Platform
  | linux
  | macos
  deriving DecidableEq, Repr

/-- `route::platform_manager`. -/
def Platform.manager : Platform → RouteManager
  | .linux => linuxRoutes
  | .macos => macOsRoutes

/-- The commands that manage resolvers rather than routes. -/
def RouteCommand.isDns (c : RouteCommand) : Bool :=
  c.program = "cp" || c.program = "dd" || c.program = "networksetup"

namespace RouteCommand

@[simp] theorem isDns_backUp : Linux.backUp.isDns = true := rfl

@[simp] theorem isDns_overwrite (ds : List IpAddr) : (Linux.overwrite ds).isDns = true := rfl

@[simp] theorem isDns_restore : Linux.restore.isDns = true := rfl

@[simp] theorem isDns_setDns (ds : List IpAddr) : (MacOs.setDns ds).isDns = true := rfl

@[simp] theorem isDns_clearDns : MacOs.clearDns.isDns = true := rfl

end RouteCommand

/-! ## One command -/

@[simp] theorem routeOp_addDev (n : IpNet) (i : String) :
    routeOp (Linux.addDev n i) = some (.add n.dest (.dev i)) := rfl

@[simp] theorem routeOp_delDev (n : IpNet) (i : String) :
    routeOp (Linux.delDev n i) = some (.del n.dest) := rfl

@[simp] theorem routeOp_netCommand_add (n : IpNet) (i : String) :
    routeOp (MacOs.netCommand "add" n i) = some (.add n.dest (.dev i)) := rfl

@[simp] theorem routeOp_netCommand_delete (n : IpNet) (i : String) :
    routeOp (MacOs.netCommand "delete" n i) = some (.del n.dest) := rfl

@[simp] theorem routeOp_net6Command_add (n : IpNet) (i : String) :
    routeOp (MacOs.net6Command "add" n i) = some (.add n.dest (.dev i)) := rfl

@[simp] theorem routeOp_net6Command_delete (n : IpNet) (i : String) :
    routeOp (MacOs.net6Command "delete" n i) = some (.del n.dest) := rfl

@[simp] theorem routeOp_hostCommand_add (a : IpAddr) (i : String) :
    routeOp (MacOs.hostCommand "add" a i) = some (.add a.host (.dev i)) := rfl

@[simp] theorem routeOp_hostCommand_delete (a : IpAddr) (i : String) :
    routeOp (MacOs.hostCommand "delete" a i) = some (.del a.host) := rfl

@[simp] theorem routeOp_pinCommand_add (a g : IpAddr) :
    routeOp (MacOs.pinCommand "add" a g) = some (.add a.host (.via g)) := by
  cases a <;> rfl

@[simp] theorem routeOp_pinCommand_delete (a g : IpAddr) :
    routeOp (MacOs.pinCommand "delete" a g) = some (.del a.host) := by
  cases a <;> rfl

@[simp] theorem Linux.routeOp_pinAdd (a g : IpAddr) :
    routeOp (.new "ip" [.lit "route", .lit "add", .net (hostNet a), .lit "via", .addr g]) =
      some (.add a.host (.via g)) := by
  rw [← hostNet_dest]
  rfl

@[simp] theorem Linux.routeOp_pinDel (a : IpAddr) :
    routeOp (.new "ip" [.lit "route", .lit "del", .net (hostNet a)]) = some (.del a.host) := by
  rw [← hostNet_dest]
  rfl

@[simp] theorem Linux.routeOp_backUp : routeOp backUp = none := rfl

@[simp] theorem Linux.routeOp_overwrite (ds : List IpAddr) : routeOp (overwrite ds) = none := rfl

@[simp] theorem Linux.routeOp_restore : routeOp restore = none := rfl

@[simp] theorem MacOs.routeOp_setDns (ds : List IpAddr) : routeOp (setDns ds) = none := rfl

@[simp] theorem MacOs.routeOp_clearDns : routeOp clearDns = none := rfl

theorem routeOp_of_isDns {c : RouteCommand} (h : c.isDns = true) : routeOp c = none := by
  simp only [RouteCommand.isDns, Bool.or_eq_true, decide_eq_true_eq] at h
  unfold routeOp
  rcases h with (h | h) | h <;> simp [h]

/-! ## A list of commands -/

theorem routeOps_append (cs cs' : List RouteCommand) :
    routeOps (cs ++ cs') = routeOps cs ++ routeOps cs' := List.filterMap_append

/-- The operations of a beginning of a command list are a beginning of its operations. -/
theorem routeOps_take (cs : List RouteCommand) (n : ℕ) : routeOps (cs.take n) <+: routeOps cs :=
  (List.take_prefix n cs).filterMap routeOp

theorem routeOps_map {γ : Type*} {f : γ → RouteCommand} {g : γ → Op Dest Hop}
    (h : ∀ x, routeOp (f x) = some (g x)) (l : List γ) : routeOps (l.map f) = l.map g := by
  induction l with
  | nil => rfl
  | cons x l ih => simp [routeOps_cons, h, ih]

/-- The order in which default mode's routes are removed, on either platform: the IPv6 halves, the
IPv4 halves, and the pin last. -/
def RoutePlan.revertOrder (plan : RoutePlan) : List Dest :=
  (if plan.ipv6Available then v6Halves.map IpNet.dest else []) ++ v4Halves.map IpNet.dest ++
    [plan.serverIp.host]

theorem RoutePlan.revertOrder_perm {plan : RoutePlan} (h : plan.mode = .default) :
    plan.revertOrder.Perm (plan.entries.map Prod.fst) := by
  have hentries : plan.entries.map Prod.fst = plan.serverIp.host :: (v4Halves.map IpNet.dest ++
      if plan.ipv6Available then v6Halves.map IpNet.dest else []) := by
    rw [RoutePlan.entries, h]
    cases h6 : plan.ipv6Available <;> simp [RoutePlan.halves, h6, Function.comp_def]
  rw [hentries, RoutePlan.revertOrder]
  refine (List.perm_append_singleton _ _).trans ?_
  exact (List.perm_append_comm).cons _

theorem bind_reject {cidrs : List IpNet} {f : Unit → Except TunnelError (List RouteCommand)}
    {cs : List RouteCommand} (h : (rejectFullDefaultPrefixes cidrs >>= f) = .ok cs) :
    (∀ c ∈ cidrs, c.prefixLen ≠ 0) ∧ f () = .ok cs := by
  obtain ⟨u, hr, h⟩ := bind_eq_ok h
  exact ⟨rejectFullDefaultPrefixes_eq_ok.1 hr, h⟩

theorem bind_reject_of_bounded {cidrs : List IpNet}
    {f : Unit → Except TunnelError (List RouteCommand)} (h : ∀ c ∈ cidrs, c.prefixLen ≠ 0) :
    (rejectFullDefaultPrefixes cidrs >>= f) = f () := by
  rw [(rejectFullDefaultPrefixes_eq_ok (u := ())).2 h]
  rfl

theorem exists_bind_reject_iff {cidrs : List IpNet} {cs : List RouteCommand} :
    (∃ cs', (rejectFullDefaultPrefixes cidrs >>= fun _ => pure cs) = .ok cs') ↔
      ∀ c ∈ cidrs, c.prefixLen ≠ 0 := by
  constructor
  · rintro ⟨_, h⟩
    exact (bind_reject h).1
  · intro h
    exact ⟨cs, bind_reject_of_bounded h⟩

/-- Test mode's list, whatever a command of it is for. -/
theorem forall_mem_test_iff {P : RouteCommand → Prop} {cidrs : List IpNet} {captureDns : Bool}
    {dnsServers : List IpAddr} {net : IpNet → RouteCommand} {host : IpAddr → RouteCommand} :
    (∀ c ∈ cidrs.map net ++ if captureDns then dnsServers.map host else [], P c) ↔
      (∀ n ∈ cidrs, P (net n)) ∧ (captureDns = true → ∀ a ∈ dnsServers, P (host a)) := by
  rw [List.forall_mem_append, List.forall_mem_map]
  cases captureDns with
  | true => simp
  | false => simp

/-- The back ends accept the same plans in both directions: those with no zero-length prefix. -/
theorem applyCommands_ok_iff (p : Platform) (plan : RoutePlan) :
    (∃ cs, p.manager.applyCommands plan = .ok cs) ↔ plan.mode.Bounded := by
  rcases hm : plan.mode with ⟨cidrs, captureDns⟩ | _ <;> cases p <;>
    simp only [Platform.manager, linuxRoutes, macOsRoutes, Linux.applyCommands,
      MacOs.applyCommands, hm, RouteMode.Bounded]
  · exact exists_bind_reject_iff
  · exact exists_bind_reject_iff
  · exact ⟨fun _ => trivial, fun _ => ⟨_, rfl⟩⟩
  · exact ⟨fun _ => trivial, fun _ => ⟨_, rfl⟩⟩

theorem revertCommands_ok_iff (p : Platform) (plan : RoutePlan) :
    (∃ cs, p.manager.revertCommands plan = .ok cs) ↔ plan.mode.Bounded := by
  rcases hm : plan.mode with ⟨cidrs, captureDns⟩ | _ <;> cases p <;>
    simp only [Platform.manager, linuxRoutes, macOsRoutes, Linux.revertCommands,
      MacOs.revertCommands, hm, RouteMode.Bounded]
  · exact exists_bind_reject_iff
  · exact exists_bind_reject_iff
  · exact ⟨fun _ => trivial, fun _ => ⟨_, rfl⟩⟩
  · exact ⟨fun _ => trivial, fun _ => ⟨_, rfl⟩⟩

/-- **Applying installs the plan's entries**, on either platform and in the plan's order. -/
theorem routeOps_apply {p : Platform} {plan : RoutePlan} {cs : List RouteCommand}
    (h : p.manager.applyCommands plan = .ok cs) : routeOps cs = adds plan.entries := by
  rcases hm : plan.mode with ⟨cidrs, captureDns⟩ | _ <;> cases p <;>
    simp only [Platform.manager, linuxRoutes, macOsRoutes, Linux.applyCommands,
      MacOs.applyCommands, hm] at h
  · obtain ⟨-, h⟩ := bind_reject h
    obtain rfl := Except.ok.inj h
    rw [routeOps_append, routeOps_map fun n => routeOp_addDev n plan.interface]
    cases captureDns <;>
      simp [routeOps_map fun a => routeOp_addDev (Linux.hostNet a) plan.interface, adds,
        RoutePlan.entries, hm, capturedDns, Function.comp_def]
  · obtain ⟨-, h⟩ := bind_reject h
    obtain rfl := Except.ok.inj h
    rw [routeOps_append, routeOps_map fun n => routeOp_netCommand_add n plan.interface]
    cases captureDns <;>
      simp [routeOps_map fun a => routeOp_hostCommand_add a plan.interface, adds,
        RoutePlan.entries, hm, capturedDns, Function.comp_def]
  · obtain rfl := Except.ok.inj h
    simp only [routeOps_append, routeOps_map fun n => routeOp_addDev n plan.interface]
    cases h6 : plan.ipv6Available <;>
      simp [routeOps_cons, adds, RoutePlan.entries, RoutePlan.halves, hm, h6, Function.comp_def,
        routeOps_map fun n => routeOp_addDev n plan.interface, Linux.routeOp_pinAdd]
  · obtain rfl := Except.ok.inj h
    simp only [routeOps_append, routeOps_map fun n => routeOp_netCommand_add n plan.interface]
    cases h6 : plan.ipv6Available <;>
      simp [routeOps_cons, adds, RoutePlan.entries, RoutePlan.halves, hm, h6, Function.comp_def,
        routeOps_map fun n => routeOp_net6Command_add n plan.interface]

/-- In default mode the routes are removed in `RoutePlan.revertOrder`, on either platform. -/
theorem routeOps_revert_default {p : Platform} {plan : RoutePlan} {cs : List RouteCommand}
    (hm : plan.mode = .default) (h : p.manager.revertCommands plan = .ok cs) :
    routeOps cs = dels plan.revertOrder := by
  cases p <;>
    simp only [Platform.manager, linuxRoutes, macOsRoutes, Linux.revertCommands,
      MacOs.revertCommands, hm] at h
  · obtain rfl := Except.ok.inj h
    simp only [routeOps_append, routeOps_map fun n => routeOp_delDev n plan.interface]
    cases h6 : plan.ipv6Available <;>
      simp [routeOps_cons, dels, RoutePlan.revertOrder, h6, Function.comp_def,
        routeOps_map fun n => routeOp_delDev n plan.interface, Linux.routeOp_pinDel]
  · obtain rfl := Except.ok.inj h
    simp only [routeOps_append, routeOps_map fun n => routeOp_netCommand_delete n plan.interface]
    cases h6 : plan.ipv6Available <;>
      simp [routeOps_cons, dels, RoutePlan.revertOrder, h6, Function.comp_def,
        routeOps_map fun n => routeOp_net6Command_delete n plan.interface]

/-- **Reverting removes the plan's entries**, each once, in an order of the back end's own. -/
theorem routeOps_revert {p : Platform} {plan : RoutePlan} {cs : List RouteCommand}
    (h : p.manager.revertCommands plan = .ok cs) :
    ∃ ks, routeOps cs = dels ks ∧ ks.Perm (plan.entries.map Prod.fst) := by
  rcases hm : plan.mode with ⟨cidrs, captureDns⟩ | _
  · refine ⟨plan.entries.map Prod.fst, ?_, List.Perm.refl _⟩
    cases p <;>
      simp only [Platform.manager, linuxRoutes, macOsRoutes, Linux.revertCommands,
        MacOs.revertCommands, hm] at h
    · obtain ⟨-, h⟩ := bind_reject h
      obtain rfl := Except.ok.inj h
      rw [routeOps_append, routeOps_map fun n => routeOp_delDev n plan.interface]
      cases captureDns <;>
        simp [routeOps_map fun a => routeOp_delDev (Linux.hostNet a) plan.interface, dels,
          RoutePlan.entries, hm, capturedDns, Function.comp_def]
    · obtain ⟨-, h⟩ := bind_reject h
      obtain rfl := Except.ok.inj h
      rw [routeOps_append, routeOps_map fun n => routeOp_netCommand_delete n plan.interface]
      cases captureDns <;>
        simp [routeOps_map fun a => routeOp_hostCommand_delete a plan.interface, dels,
          RoutePlan.entries, hm, capturedDns, Function.comp_def]
  · exact ⟨plan.revertOrder, routeOps_revert_default hm h, plan.revertOrder_perm hm⟩

/-- Test mode has no resolver command. -/
theorem routeOp_of_apply_test {p : Platform} {plan : RoutePlan} {cidrs : List IpNet}
    {captureDns : Bool} (hm : plan.mode = .test cidrs captureDns) {cs : List RouteCommand}
    (h : p.manager.applyCommands plan = .ok cs) : ∀ c ∈ cs, (routeOp c).isSome := by
  cases p <;>
    simp only [Platform.manager, linuxRoutes, macOsRoutes, Linux.applyCommands,
      MacOs.applyCommands, hm] at h
  · obtain ⟨-, h⟩ := bind_reject h
    obtain rfl := Except.ok.inj h
    exact forall_mem_test_iff.2 ⟨fun n _ => by simp, fun _ a _ => by simp⟩
  · obtain ⟨-, h⟩ := bind_reject h
    obtain rfl := Except.ok.inj h
    exact forall_mem_test_iff.2 ⟨fun n _ => by simp, fun _ a _ => by simp⟩

theorem routeOp_of_revert_test {p : Platform} {plan : RoutePlan} {cidrs : List IpNet}
    {captureDns : Bool} (hm : plan.mode = .test cidrs captureDns) {cs : List RouteCommand}
    (h : p.manager.revertCommands plan = .ok cs) : ∀ c ∈ cs, (routeOp c).isSome := by
  cases p <;>
    simp only [Platform.manager, linuxRoutes, macOsRoutes, Linux.revertCommands,
      MacOs.revertCommands, hm] at h
  · obtain ⟨-, h⟩ := bind_reject h
    obtain rfl := Except.ok.inj h
    exact forall_mem_test_iff.2 ⟨fun n _ => by simp, fun _ a _ => by simp⟩
  · obtain ⟨-, h⟩ := bind_reject h
    obtain rfl := Except.ok.inj h
    exact forall_mem_test_iff.2 ⟨fun n _ => by simp, fun _ a _ => by simp⟩

/-- Default mode's routes come first and its resolver commands last. -/
theorem Linux.applyCommands_default {plan : RoutePlan} (hm : plan.mode = .default) :
    ∃ rs, linuxRoutes.applyCommands plan = .ok (rs ++ [backUp, overwrite plan.dnsServers]) ∧
      (∀ c ∈ rs, (routeOp c).isSome) ∧ rs.length = plan.halves.length + 1 := by
  simp only [linuxRoutes, applyCommands, hm]
  refine ⟨_, rfl, ?_, ?_⟩
  · cases plan.ipv6Available <;> simp [or_imp, forall_and]
  · cases h6 : plan.ipv6Available <;> simp [RoutePlan.halves, h6]

theorem Linux.revertCommands_default {plan : RoutePlan} (hm : plan.mode = .default) :
    ∃ rs, linuxRoutes.revertCommands plan = .ok (rs ++ [restore]) ∧
      ∀ c ∈ rs, (routeOp c).isSome := by
  simp only [linuxRoutes, revertCommands, hm]
  refine ⟨
    (if plan.ipv6Available then v6Halves.map fun half => delDev half plan.interface else []) ++
    v4Halves.map (fun half => delDev half plan.interface) ++
    [.new "ip" [.lit "route", .lit "del", .net (hostNet plan.serverIp)]], ?_, ?_⟩
  · simp only [List.append_assoc, List.cons_append, List.nil_append]
  · cases plan.ipv6Available <;> simp [or_imp, forall_and]

theorem MacOs.applyCommands_default {plan : RoutePlan} (hm : plan.mode = .default) :
    ∃ rs, macOsRoutes.applyCommands plan = .ok (rs ++ [setDns plan.dnsServers]) ∧
      ∀ c ∈ rs, (routeOp c).isSome := by
  simp only [macOsRoutes, applyCommands, hm]
  refine ⟨_, rfl, ?_⟩
  cases plan.ipv6Available <;> simp [or_imp, forall_and]

theorem MacOs.revertCommands_default {plan : RoutePlan} (hm : plan.mode = .default) :
    ∃ rs, macOsRoutes.revertCommands plan = .ok (rs ++ [clearDns]) ∧
      ∀ c ∈ rs, (routeOp c).isSome := by
  simp only [macOsRoutes, revertCommands, hm]
  refine ⟨(if plan.ipv6Available then
      v6Halves.map fun half => net6Command "delete" half plan.interface else []) ++
    v4Halves.map (fun half => netCommand "delete" half plan.interface) ++
    [pinCommand "delete" plan.serverIp plan.originalGateway], ?_, ?_⟩
  · simp only [List.append_assoc, List.cons_append, List.nil_append]
  · cases plan.ipv6Available <;> simp [or_imp, forall_and]

/-- A list with its resolver commands last. -/
theorem isDns_or_routeOp_of_append {rs ds : List RouteCommand} (hrs : ∀ c ∈ rs, (routeOp c).isSome)
    (hds : ∀ c ∈ ds, c.isDns = true) : ∀ c ∈ rs ++ ds, c.isDns = true ∨ (routeOp c).isSome := by
  intro c hc
  rcases List.mem_append.1 hc with hc | hc
  · exact Or.inr (hrs c hc)
  · exact Or.inl (hds c hc)

/-- A command of either list is a resolver command or a route command. -/
theorem routeOp_or_isDns {p : Platform} {plan : RoutePlan} {cs : List RouteCommand}
    (h : p.manager.applyCommands plan = .ok cs ∨ p.manager.revertCommands plan = .ok cs) :
    ∀ c ∈ cs, c.isDns = true ∨ (routeOp c).isSome := by
  rcases hm : plan.mode with ⟨cidrs, captureDns⟩ | _
  · intro c hc
    rcases h with h | h
    · exact Or.inr (routeOp_of_apply_test hm h c hc)
    · exact Or.inr (routeOp_of_revert_test hm h c hc)
  · cases p with
    | linux =>
      obtain ⟨as, has, hroute, -⟩ := Linux.applyCommands_default hm
      obtain ⟨bs, hbs, hroute'⟩ := Linux.revertCommands_default hm
      rcases h with h | h
      · obtain rfl := Except.ok.inj (has.symm.trans h)
        exact isDns_or_routeOp_of_append hroute (by simp)
      · obtain rfl := Except.ok.inj (hbs.symm.trans h)
        exact isDns_or_routeOp_of_append hroute' (by simp)
    | macos =>
      obtain ⟨as, has, hroute⟩ := MacOs.applyCommands_default hm
      obtain ⟨bs, hbs, hroute'⟩ := MacOs.revertCommands_default hm
      rcases h with h | h
      · obtain rfl := Except.ok.inj (has.symm.trans h)
        exact isDns_or_routeOp_of_append hroute (by simp)
      · obtain rfl := Except.ok.inj (hbs.symm.trans h)
        exact isDns_or_routeOp_of_append hroute' (by simp)

/-! ## The inverse -/

/-- **Revert is the exact inverse of apply on the routing table**: on every table on which the
commands of a plan all succeed, the revert commands all succeed in turn and give the table back.
No command of either list is about a default route. -/
theorem revert_inverts_apply {p : Platform} {plan : RoutePlan} {cs : List RouteCommand}
    (happly : p.manager.applyCommands plan = .ok cs) :
    ∃ rs, p.manager.revertCommands plan = .ok rs ∧
      (∀ t t' : RouteTable, runAll t (routeOps cs) = some t' → runAll t' (routeOps rs) = some t) ∧
      (∃ ks, routeOps rs = dels ks) ∧
      ∀ c ∈ cs ++ rs, c.isDns = true ∨ ∃ op, routeOp c = some op ∧ op.key.bits ≠ [] := by
  have hbounded := (applyCommands_ok_iff p plan).1 ⟨cs, happly⟩
  obtain ⟨rs, hrevert⟩ := (revertCommands_ok_iff p plan).2 hbounded
  obtain ⟨ks, hks, hperm⟩ := routeOps_revert hrevert
  refine ⟨rs, hrevert, fun t t' ht => ?_, ⟨ks, hks⟩, fun c hc => ?_⟩
  · rw [routeOps_apply happly] at ht
    rw [hks]
    exact runAll_dels_of_adds ht hperm
  · -- a route command's operation is one of the two lists', whose keys are the plan's
    have hkey : ∀ op ∈ routeOps cs ++ routeOps rs, op.key ∈ plan.entries.map Prod.fst := by
      rw [routeOps_apply happly, hks]
      intro op hop
      rcases List.mem_append.1 hop with hop | hop
      · obtain ⟨e, he, rfl⟩ := List.mem_map.1 hop
        exact List.mem_map_of_mem he
      · obtain ⟨k, hk, rfl⟩ := List.mem_map.1 hop
        exact hperm.mem_iff.1 hk
    have hsome : c.isDns = true ∨ (routeOp c).isSome := by
      rcases List.mem_append.1 hc with hc | hc
      · exact routeOp_or_isDns (.inl happly) c hc
      · exact routeOp_or_isDns (.inr hrevert) c hc
    refine hsome.imp_right fun h => ?_
    obtain ⟨op, hop⟩ := Option.isSome_iff_exists.1 h
    have hmem : op ∈ routeOps cs ++ routeOps rs := by
      rw [← routeOps_append]
      exact List.mem_filterMap.2 ⟨c, hc, hop⟩
    obtain ⟨e, he, heq⟩ := List.mem_map.1 (hkey op hmem)
    exact ⟨op, hop, heq ▸ RoutePlan.bits_ne_nil_of_mem_entries hbounded he⟩

theorem le_width_listed : 24 ≤ (IpAddr.ofOctets 93 184 216 0).family.width := by decide

/-- A plan in test mode with an IPv6 prefix and a resolver that needs a host route. -/
def mixedPlan : RoutePlan where
  interface := "utun7"
  mode := .test [⟨.ofOctets 93 184 216 0, 24, by decide⟩, ⟨.v6 1, 64, by decide⟩] true
  serverIp := .ofOctets 198 51 100 7
  originalGateway := .ofOctets 192 168 1 1
  dnsServers := [.ofOctets 1 1 1 1]
  ipv6Available := true

theorem revert_inverts_apply_mixedPlan :
    ∃ cs rs t', Platform.macos.manager.applyCommands mixedPlan = .ok cs ∧
      Platform.macos.manager.revertCommands mixedPlan = .ok rs ∧
      runAll (fun _ => none) (routeOps cs) = some t' ∧
      runAll t' (routeOps rs) = some fun _ => none := by
  have hcs : Platform.macos.manager.applyCommands mixedPlan = .ok _ := rfl
  obtain ⟨rs, hrs, hinv, -⟩ := revert_inverts_apply hcs
  exact ⟨_, rs, _, rfl, hrs, rfl, hinv _ _ rfl⟩

end LiosTunnel.Route
