import LiosTunnel.Route.Command

/-!
# The macOS back end

`route/macos.rs`: the BSD `route` commands of a plan, and in default mode the `networksetup` call
that overrides the resolvers of the Wi-Fi service. BSD `route` takes the address family of an IPv6
destination as a flag of its own; `familyFlag` decides it for the pin, the IPv6 halves carry it as
a literal, and the routes of test mode carry none.
-/

namespace LiosTunnel.Route

namespace MacOs

/-- BSD `route`'s address-family flag, needed explicitly for IPv6 destinations. -/
def familyFlag (addr : IpAddr) : Option String := if addr.isIpv6 then some "-inet6" else none

/-- Builds the server-pin route command (`add` or `delete`). -/
def pinCommand (verb : String) (serverIp originalGateway : IpAddr) : RouteCommand :=
  .new "route" <| [.lit "-n", .lit verb] ++ ((familyFlag serverIp).toList.map .lit) ++
    [.lit "-host", .addr serverIp, .addr originalGateway]

/-- `route -n VERB -net NET -interface INTERFACE`. -/
def netCommand (verb : String) (net : IpNet) (interface : String) : RouteCommand :=
  .new "route" [.lit "-n", .lit verb, .lit "-net", .net net, .lit "-interface", .lit interface]

/-- `route -n VERB -inet6 -net NET -interface INTERFACE`. -/
def net6Command (verb : String) (net : IpNet) (interface : String) : RouteCommand :=
  .new "route" [.lit "-n", .lit verb, .lit "-inet6", .lit "-net", .net net, .lit "-interface",
    .lit interface]

/-- `route -n VERB -host ADDR -interface INTERFACE`. -/
def hostCommand (verb : String) (addr : IpAddr) (interface : String) : RouteCommand :=
  .new "route" [.lit "-n", .lit verb, .lit "-host", .addr addr, .lit "-interface", .lit interface]

/-- The override of the Wi-Fi service's resolvers. -/
def setDns (dnsServers : List IpAddr) : RouteCommand :=
  .new "networksetup" ([.lit "-setdnsservers", .lit "Wi-Fi"] ++ dnsServers.map .addr)

/-- The Wi-Fi service's resolvers set back to automatic. -/
def clearDns : RouteCommand :=
  .new "networksetup" [.lit "-setdnsservers", .lit "Wi-Fi", .lit "Empty"]

/-- `MacOsRoutes::apply_commands`. -/
def applyCommands (plan : RoutePlan) : Except TunnelError (List RouteCommand) :=
  match plan.mode with
  | .test cidrs captureDns => do
    rejectFullDefaultPrefixes cidrs
    return cidrs.map (fun cidr => netCommand "add" cidr plan.interface) ++
      if captureDns then
        (dnsServersNeedingHostRoutes cidrs plan.dnsServers).map fun dns =>
          hostCommand "add" dns plan.interface
      else []
  | .default =>
    -- the server pin comes first
    .ok <| [pinCommand "add" plan.serverIp plan.originalGateway] ++
      v4Halves.map (fun half => netCommand "add" half plan.interface) ++
      (if plan.ipv6Available then v6Halves.map fun half => net6Command "add" half plan.interface
        else []) ++
      [setDns plan.dnsServers]

/-- `MacOsRoutes::revert_commands`. -/
def revertCommands (plan : RoutePlan) : Except TunnelError (List RouteCommand) :=
  match plan.mode with
  | .test cidrs captureDns => do
    rejectFullDefaultPrefixes cidrs
    return cidrs.map (fun cidr => netCommand "delete" cidr plan.interface) ++
      if captureDns then
        (dnsServersNeedingHostRoutes cidrs plan.dnsServers).map fun dns =>
          hostCommand "delete" dns plan.interface
      else []
  | .default =>
    .ok <| (if plan.ipv6Available then
        v6Halves.map fun half => net6Command "delete" half plan.interface else []) ++
      v4Halves.map (fun half => netCommand "delete" half plan.interface) ++
      [pinCommand "delete" plan.serverIp plan.originalGateway, clearDns]

end MacOs

/-- `macos::MacOsRoutes`. -/
def macOsRoutes : RouteManager := ⟨MacOs.applyCommands, MacOs.revertCommands⟩

end LiosTunnel.Route
