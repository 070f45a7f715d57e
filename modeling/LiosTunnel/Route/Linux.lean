import LiosTunnel.Route.Command

/-!
# The Linux back end

`route/linux.rs`: the `ip route` commands of a plan, and in default mode the copy that backs
`/etc/resolv.conf` up and the `dd` that replaces it. The two lists are built in the order the
source builds them; nothing is shared between applying and reverting, as in the source.
-/

namespace LiosTunnel.Route

namespace Linux

/-- Single-host prefix length for a route: 32 bits for IPv4, 128 for IPv6. -/
def hostPrefixLen (addr : IpAddr) : ℕ := if addr.isIpv4 then 32 else 128

theorem hostPrefixLen_eq (addr : IpAddr) : hostPrefixLen addr = addr.family.width := by
  cases addr <;> rfl

/-- What `format!("{addr}/{}", host_prefix_len(addr))` prints. -/
def hostNet (addr : IpAddr) : IpNet := ⟨addr, hostPrefixLen addr, (hostPrefixLen_eq addr).le⟩

@[simp] theorem hostNet_dest (addr : IpAddr) : (hostNet addr).dest = addr.host := by
  rw [← IpNet.dest_host]
  simp only [IpNet.dest, hostNet, IpNet.host, hostPrefixLen_eq]

def resolvConf : String := "/etc/resolv.conf"

def resolvConfBackup : String := "/etc/resolv.conf.liostunnel-backup"

/-- The full replacement body for `/etc/resolv.conf` in default mode: one `nameserver` line per
configured resolver. -/
def resolvConfBody (dnsServers : List IpAddr) : Text :=
  .lit "# written by liostunnel (default route mode)\n" ::
    dnsServers.flatMap fun server => [.lit "nameserver ", .addr server, .lit "\n"]

/-- `ip route add NET dev INTERFACE`. -/
def addDev (net : IpNet) (interface : String) : RouteCommand :=
  .new "ip" [.lit "route", .lit "add", .net net, .lit "dev", .lit interface]

/-- `ip route del NET dev INTERFACE`. -/
def delDev (net : IpNet) (interface : String) : RouteCommand :=
  .new "ip" [.lit "route", .lit "del", .net net, .lit "dev", .lit interface]

/-- The copy of the current resolver configuration. -/
def backUp : RouteCommand := .new "cp" [.lit resolvConf, .lit resolvConfBackup]

/-- The write of the new resolver configuration. -/
def overwrite (dnsServers : List IpAddr) : RouteCommand :=
  .withStdin "dd" [.lit ("of=" ++ resolvConf)] (resolvConfBody dnsServers)

/-- The copy of the backup over the resolver configuration. -/
def restore : RouteCommand := .new "cp" [.lit resolvConfBackup, .lit resolvConf]

/-- `LinuxRoutes::apply_commands`. -/
def applyCommands (plan : RoutePlan) : Except TunnelError (List RouteCommand) :=
  match plan.mode with
  | .test cidrs captureDns => do
    rejectFullDefaultPrefixes cidrs
    return cidrs.map (fun cidr => addDev cidr plan.interface) ++
      if captureDns then
        (dnsServersNeedingHostRoutes cidrs plan.dnsServers).map fun dns =>
          addDev (hostNet dns) plan.interface
      else []
  | .default =>
    -- the server pin comes first
    .ok <| [.new "ip" [.lit "route", .lit "add", .net (hostNet plan.serverIp), .lit "via",
        .addr plan.originalGateway]] ++
      v4Halves.map (fun half => addDev half plan.interface) ++
      (if plan.ipv6Available then v6Halves.map fun half => addDev half plan.interface else []) ++
      [backUp, overwrite plan.dnsServers]

/-- `LinuxRoutes::revert_commands`. -/
def revertCommands (plan : RoutePlan) : Except TunnelError (List RouteCommand) :=
  match plan.mode with
  | .test cidrs captureDns => do
    rejectFullDefaultPrefixes cidrs
    return cidrs.map (fun cidr => delDev cidr plan.interface) ++
      if captureDns then
        (dnsServersNeedingHostRoutes cidrs plan.dnsServers).map fun dns =>
          delDev (hostNet dns) plan.interface
      else []
  | .default =>
    .ok <|
      (if plan.ipv6Available then v6Halves.map fun half => delDev half plan.interface else []) ++
      v4Halves.map (fun half => delDev half plan.interface) ++
      [.new "ip" [.lit "route", .lit "del", .net (hostNet plan.serverIp)], restore]

end Linux

/-- `linux::LinuxRoutes`. -/
def linuxRoutes : RouteManager := ⟨Linux.applyCommands, Linux.revertCommands⟩

end LiosTunnel.Route
