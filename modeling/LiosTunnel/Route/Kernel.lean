import LiosTunnel.Lib.KeyedStore
import LiosTunnel.Route.Linux
import LiosTunnel.Route.MacOs

/-!
# What the commands do to a machine

The routing table is a store of destinations, in which an addition is refused when the exact
destination is there already and a deletion when it is not; `routeOp` reads a `RouteCommand` as an
operation on it, the way `ip` and BSD `route` read their arguments. The other commands are about
resolvers: the two files under `/etc` and the Wi-Fi service's setting.

* `Kernel.effect`: what one command does, `none` when it is refused.
* `Kernel.runAll`: a list of commands, stopping at the first refusal.
* `Kernel.attemptAll`: the same list with refusals ignored, as a revert runs it.
* `Kernel.nextHop`: longest-prefix match in the routing table.
-/

namespace LiosTunnel.Route

open KeyedStore

abbrev RouteTable := Dest → Option Hop

/-- Longest-prefix match of an address. -/
def RouteTable.nextHop (t : RouteTable) (a : IpAddr) : Option Hop :=
  PrefixTable.lookup (fun w => t ⟨a.family, w⟩) a.bits

/-- `ip route`, for the argument lists the Linux back end builds. -/
def ipRouteOp : List Piece → Option (Op Dest Hop)
  | [.lit "route", .lit "add", .net n, .lit "dev", .lit i] => some (.add n.dest (.dev i))
  | [.lit "route", .lit "add", .net n, .lit "via", .addr g] => some (.add n.dest (.via g))
  | [.lit "route", .lit "del", .net n, .lit "dev", .lit _] => some (.del n.dest)
  | [.lit "route", .lit "del", .net n] => some (.del n.dest)
  | _ => none

/-- What BSD `route`'s verb does with a destination. -/
def bsdVerbOp (verb : String) (d : Dest) (hop : Hop) : Option (Op Dest Hop) :=
  if verb = "add" then some (.add d hop) else if verb = "delete" then some (.del d) else none

/-- The destination part of BSD `route`'s arguments. -/
def bsdTargetOp (verb : String) : List Piece → Option (Op Dest Hop)
  | [.lit "-net", .net n, .lit "-interface", .lit i] => bsdVerbOp verb n.dest (.dev i)
  | [.lit "-host", .addr a, .lit "-interface", .lit i] => bsdVerbOp verb a.host (.dev i)
  | [.lit "-host", .addr a, .addr g] => bsdVerbOp verb a.host (.via g)
  | _ => none

/-- BSD `route`. The family flag does not change which destination is meant. -/
def bsdRouteOp : List Piece → Option (Op Dest Hop)
  | .lit "-n" :: .lit verb :: .lit "-inet6" :: target => bsdTargetOp verb target
  | .lit "-n" :: .lit verb :: target => bsdTargetOp verb target
  | _ => none

/-- The operation on the routing table a command stands for, `none` for a resolver command. -/
def routeOp (c : RouteCommand) : Option (Op Dest Hop) :=
  if c.program = "ip" then ipRouteOp c.args
  else if c.program = "route" then bsdRouteOp c.args
  else none

/-- The operations on the routing table of a list of commands. -/
def routeOps (cs : List RouteCommand) : List (Op Dest Hop) := cs.filterMap routeOp

/-- The state the commands act on. -/
structure Kernel where
  routes : RouteTable
  /-- The content of `/etc/resolv.conf`, if it exists. -/
  resolvConf : Option Text
  /-- The content of `/etc/resolv.conf.liostunnel-backup`, if it exists. -/
  backup : Option Text
  /-- What `networksetup -setdnsservers Wi-Fi` was last given. -/
  wifiDns : List Piece

/-- The routing table and the DNS configuration; the backup file is neither. -/
def Kernel.config (k : Kernel) : RouteTable × Option Text × List Piece :=
  (k.routes, k.resolvConf, k.wifiDns)

/-- The resolver commands. `cp` is refused when its source is missing. -/
def Kernel.resolverEffect (k : Kernel) (c : RouteCommand) : Option Kernel :=
  if c = Linux.backUp then k.resolvConf.map fun t => { k with backup := some t }
  else if c = Linux.restore then k.backup.map fun t => { k with resolvConf := some t }
  else if c.program = "dd" then
    if c.args = [.lit ("of=" ++ Linux.resolvConf)] then
      some { k with resolvConf := some (c.stdin.getD []) }
    else none
  else if c.program = "networksetup" then
    match c.args with
    | .lit "-setdnsservers" :: .lit "Wi-Fi" :: servers => some { k with wifiDns := servers }
    | _ => none
  else none

/-- What one command does, `none` when the machine refuses it. -/
def Kernel.effect (k : Kernel) (c : RouteCommand) : Option Kernel :=
  match routeOp c with
  | some op => (op.run k.routes).map fun t => { k with routes := t }
  | none => k.resolverEffect c

/-- A list of commands, `none` when one of them is refused. -/
def Kernel.runAll (k : Kernel) : List RouteCommand → Option Kernel
  | [] => some k
  | c :: cs => (k.effect c).bind fun k' => k'.runAll cs

/-- A list of commands, a refused one changing nothing. -/
def Kernel.attemptAll (k : Kernel) (cs : List RouteCommand) : Kernel :=
  cs.foldl (fun k c => (k.effect c).getD k) k

theorem Kernel.runAll_cons (k : Kernel) (c : RouteCommand) (cs : List RouteCommand) :
    k.runAll (c :: cs) = (k.effect c).bind fun k' => k'.runAll cs := rfl

theorem Kernel.runAll_append (k : Kernel) (cs cs' : List RouteCommand) :
    k.runAll (cs ++ cs') = (k.runAll cs).bind fun k' => k'.runAll cs' := by
  induction cs generalizing k with
  | nil => rfl
  | cons c cs ih =>
    rw [List.cons_append, Kernel.runAll_cons, Kernel.runAll_cons]
    cases k.effect c with
    | none => rfl
    | some k' => exact ih k'

theorem Kernel.attemptAll_append (k : Kernel) (cs cs' : List RouteCommand) :
    k.attemptAll (cs ++ cs') = (k.attemptAll cs).attemptAll cs' := List.foldl_append

theorem Kernel.attemptAll_cons (k : Kernel) (c : RouteCommand) (cs : List RouteCommand) :
    k.attemptAll (c :: cs) = ((k.effect c).getD k).attemptAll cs := rfl

/-- A resolver command leaves the routing table alone. -/
theorem Kernel.resolverEffect_routes {k k' : Kernel} {c : RouteCommand}
    (h : k.resolverEffect c = some k') : k'.routes = k.routes := by
  unfold Kernel.resolverEffect at h
  split at h
  · obtain ⟨t, -, rfl⟩ := Option.map_eq_some_iff.1 h; rfl
  · split at h
    · obtain ⟨t, -, rfl⟩ := Option.map_eq_some_iff.1 h; rfl
    · split at h
      · split at h
        · obtain rfl := Option.some.inj h; rfl
        · cases h
      · split at h
        · split at h
          · obtain rfl := Option.some.inj h; rfl
          · cases h
        · cases h

/-- A route command leaves the resolver files alone. -/
theorem Kernel.effect_of_routeOp {k k' : Kernel} {c : RouteCommand} (hc : (routeOp c).isSome)
    (h : k.effect c = some k') : k'.resolvConf = k.resolvConf ∧ k'.backup = k.backup := by
  obtain ⟨op, hop⟩ := Option.isSome_iff_exists.1 hc
  rw [Kernel.effect, hop, Option.map_eq_some_iff] at h
  obtain ⟨t, -, rfl⟩ := h
  exact ⟨rfl, rfl⟩

/-- **One command, seen at the routing table**: its operation, or nothing. -/
theorem Kernel.effect_routes {k k' : Kernel} {c : RouteCommand} (h : k.effect c = some k') :
    KeyedStore.runAll k.routes (routeOp c).toList = some k'.routes := by
  unfold Kernel.effect at h
  split at h
  · rename_i op hop
    obtain ⟨t, ht, rfl⟩ := Option.map_eq_some_iff.1 h
    simp [hop, KeyedStore.runAll_cons, ht]
  · rename_i hop
    simp [hop, Kernel.resolverEffect_routes h]

@[simp] theorem routeOps_nil : routeOps [] = [] := rfl

theorem routeOps_cons (c : RouteCommand) (cs : List RouteCommand) :
    routeOps (c :: cs) = (routeOp c).toList ++ routeOps cs := by
  cases h : routeOp c <;> simp [routeOps, h]

/-- **A run of commands, seen at the routing table**: the run of their operations. -/
theorem Kernel.runAll_routes {k k' : Kernel} {cs : List RouteCommand} (h : k.runAll cs = some k') :
    KeyedStore.runAll k.routes (routeOps cs) = some k'.routes := by
  induction cs generalizing k with
  | nil => obtain rfl := Option.some.inj h; rfl
  | cons c cs ih =>
    rw [Kernel.runAll_cons, Option.bind_eq_some_iff] at h
    obtain ⟨k₁, h₁, h⟩ := h
    rw [routeOps_cons, KeyedStore.runAll_append, Kernel.effect_routes h₁, Option.bind_some]
    exact ih h

/-- Attempted commands, seen at the routing table. -/
theorem Kernel.attemptAll_routes (k : Kernel) (cs : List RouteCommand) :
    (k.attemptAll cs).routes = KeyedStore.attemptAll k.routes (routeOps cs) := by
  induction cs generalizing k with
  | nil => rfl
  | cons c cs ih =>
    rw [Kernel.attemptAll_cons, ih, routeOps_cons, KeyedStore.attemptAll, KeyedStore.attemptAll,
      List.foldl_append]
    congr 1
    cases hop : routeOp c with
    | none =>
      cases h : k.resolverEffect c with
      | none => simp [Kernel.effect, hop, h]
      | some k' => simp [Kernel.effect, hop, h, Kernel.resolverEffect_routes h]
    | some op => cases h : op.run k.routes <;> simp [Kernel.effect, hop, h, KeyedStore.attempt]

end LiosTunnel.Route
