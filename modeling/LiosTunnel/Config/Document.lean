import LiosTunnel.Config.Texts
import LiosTunnel.Lib.Json

/-!
# The document of a profile

What `serde_json::to_string_pretty` writes of a profile, by the `Serialize` that `config/profile.rs`
and `config/secret.rs` derive. A path is UTF-8, so nothing of it fails.

* `ServerProfile.toJson`, `ServerProfile.toStringPretty`: the value and its text.
* `ServerProfile.toJson_injective`: a value is of one profile.
* `ServerProfile.eq_of_prefix`: **a document is of one profile**, and none begins another.
-/

namespace LiosTunnel.Config

/-! ## Values -/

def jsonText (s : String) : Json := .text s.toList

/-- An object, its fields in order. -/
def jsonObject (fields : List (String × Json)) : Json :=
  .object (fields.map fun f => (f.1.toList, f.2))

def SecretRef.toJson : SecretRef → Json
  | .file path => jsonObject [("source", jsonText "file"), ("path", jsonText path)]
  | .env var => jsonObject [("source", jsonText "env"), ("var", jsonText var)]

def ProtocolKind.toJson : ProtocolKind → Json
  | .ssh => jsonText "ssh"
  | .wireGuard => jsonText "wireguard"
  | .shadowsocks => jsonText "shadowsocks"

def AuthMethod.toJson : AuthMethod → Json
  | .password pw => jsonObject [("type", jsonText "password"), ("password", pw.toJson)]
  | .privateKey key none =>
    jsonObject [("type", jsonText "private_key"), ("private_key", key.toJson)]
  | .privateKey key (some passphrase) =>
    jsonObject [("type", jsonText "private_key"), ("private_key", key.toJson),
      ("passphrase", passphrase.toJson)]
  | .presharedKey key peerPublicKey =>
    jsonObject [("type", jsonText "preshared_key"), ("private_key", key.toJson),
      ("peer_public_key", jsonText peerPublicKey)]
  | .shadowsocks method pw =>
    jsonObject [("type", jsonText "shadowsocks"), ("method", jsonText method),
      ("password", pw.toJson)]

def DnsMode.toJson : DnsMode → Json
  | .tcp => jsonText "tcp"
  | .https => jsonText "https"

def DohConfig.toJson (doh : DohConfig) : Json :=
  jsonObject [("sni", jsonText doh.sni), ("path", jsonText doh.path)]

def SplitTunnelRule.toJson : SplitTunnelRule → Json
  | .allTraffic => jsonObject [("type", jsonText "all_traffic")]
  | .excludeApps apps =>
    jsonObject [("type", jsonText "exclude_apps"), ("apps", .array (apps.map jsonText))]
  | .includeOnly apps =>
    jsonObject [("type", jsonText "include_only"), ("apps", .array (apps.map jsonText))]

variable (texts : Texts)

def DnsConfig.toJson (dns : DnsConfig) : Json :=
  jsonObject [("mode", dns.mode.toJson),
    ("servers", .array (dns.servers.map fun server => jsonText (texts.ip server))),
    ("https", dns.https.elim .null DohConfig.toJson)]

def ServerProfile.toJson (p : ServerProfile) : Json :=
  jsonObject [("id", jsonText (texts.uuid p.id)), ("name", jsonText p.name),
    ("protocol", p.protocol.toJson), ("host", jsonText p.host), ("port", .number p.port.toNat),
    ("auth", p.auth.toJson), ("dns", p.dns.toJson texts), ("split_tunnel", p.splitTunnel.toJson),
    ("kill_switch", .bool p.killSwitch)]

/-- `serde_json::to_string_pretty`. -/
def ServerProfile.toStringPretty (p : ServerProfile) : String := .ofList ((p.toJson texts).pretty 0)

/-! ## One profile -/

theorem jsonText_inj {s s' : String} : jsonText s = jsonText s' ↔ s = s' := by
  simp [jsonText, String.toList_inj]

theorem SecretRef.toJson_injective : Function.Injective SecretRef.toJson := by
  intro r r' h
  cases r <;> cases r' <;> simp_all [toJson, jsonObject, jsonText_inj]

theorem ProtocolKind.toJson_injective : Function.Injective ProtocolKind.toJson := by
  intro kind kind' h
  cases kind <;> cases kind' <;> simp_all [toJson, jsonText_inj]

theorem AuthMethod.toJson_injective : Function.Injective AuthMethod.toJson := by
  intro a a' h
  rcases a with _ | ⟨_, _ | _⟩ | _ | _ <;> rcases a' with _ | ⟨_, _ | _⟩ | _ | _ <;>
    simp_all [toJson, jsonObject, jsonText_inj, SecretRef.toJson_injective.eq_iff]

theorem DnsMode.toJson_injective : Function.Injective DnsMode.toJson := by
  intro mode mode' h
  cases mode <;> cases mode' <;> simp_all [toJson, jsonText_inj]

theorem DohConfig.toJson_injective : Function.Injective DohConfig.toJson := by
  rintro ⟨sni, path⟩ ⟨sni', path'⟩ h
  simpa [toJson, jsonObject, jsonText_inj] using h

theorem SplitTunnelRule.toJson_injective : Function.Injective SplitTunnelRule.toJson := by
  have happs : Function.Injective (List.map jsonText) :=
    List.map_injective_iff.2 fun _ _ => jsonText_inj.1
  intro rule rule' h
  cases rule <;> cases rule' <;> simp_all [toJson, jsonObject, jsonText_inj, happs.eq_iff]

variable {texts}

/-- Resolvers whose texts are read back are told by them. -/
theorem servers_of_map {servers servers' : List IpAddr}
    (hservers : ∀ server ∈ servers, texts.parseIp (texts.ip server) = some server)
    (hservers' : ∀ server ∈ servers', texts.parseIp (texts.ip server) = some server)
    (h : servers.map texts.ip = servers'.map texts.ip) : servers = servers' := by
  have hread {servers : List IpAddr}
      (hservers : ∀ server ∈ servers, texts.parseIp (texts.ip server) = some server) :
      (servers.map texts.ip).map texts.parseIp = servers.map some := by
    rw [List.map_map]
    exact List.map_congr_left hservers
  have heq := congrArg (List.map texts.parseIp) h
  rw [hread hservers, hread hservers'] at heq
  exact (List.map_injective_iff.2 (Option.some_injective _)) heq

theorem DnsConfig.toJson_injective {dns dns' : DnsConfig}
    (hservers : ∀ server ∈ dns.servers, texts.parseIp (texts.ip server) = some server)
    (hservers' : ∀ server ∈ dns'.servers, texts.parseIp (texts.ip server) = some server)
    (h : dns.toJson texts = dns'.toJson texts) : dns = dns' := by
  have hhttps :
      Function.Injective fun https : Option DohConfig => https.elim .null DohConfig.toJson := by
    rintro (_ | doh) (_ | doh') h
    · rfl
    · cases h
    · cases h
    · exact congrArg some (DohConfig.toJson_injective h)
  have htexts : Function.Injective (List.map jsonText) :=
    List.map_injective_iff.2 fun _ _ => jsonText_inj.1
  simp only [toJson, jsonObject, List.map_cons, List.map_nil, Json.object.injEq, List.cons.injEq,
    Prod.mk.injEq, Json.array.injEq, true_and, and_true] at h
  obtain ⟨hmode, hip, hdoh⟩ := h
  have hip :
      (dns.servers.map texts.ip).map jsonText = (dns'.servers.map texts.ip).map jsonText := by
    rw [List.map_map, List.map_map]
    exact hip
  cases dns
  cases dns'
  simp only [DnsConfig.mk.injEq]
  exact ⟨DnsMode.toJson_injective hmode,
    servers_of_map hservers hservers' (htexts hip), hhttps hdoh⟩

/-- **A value is of one profile.** -/
theorem ServerProfile.toJson_injective {p q : ServerProfile} (hp : texts.ReadsBack p)
    (hq : texts.ReadsBack q) (h : p.toJson texts = q.toJson texts) : p = q := by
  simp only [toJson, jsonObject, List.map_cons, List.map_nil, Json.object.injEq, List.cons.injEq,
    Prod.mk.injEq, Json.number.injEq, Json.bool.injEq, jsonText_inj, true_and, and_true] at h
  obtain ⟨hid, hname, hprotocol, hhost, hport, hauth, hdns, hsplit, hkill⟩ := h
  have hid : p.id = q.id := by
    have hread := hp.id
    rw [hid, hq.id] at hread
    exact (Option.some.inj hread).symm
  have hprotocol := ProtocolKind.toJson_injective hprotocol
  have hport := BitVec.eq_of_toNat_eq hport
  have hauth := AuthMethod.toJson_injective hauth
  have hdns := DnsConfig.toJson_injective hp.servers hq.servers hdns
  have hsplit := SplitTunnelRule.toJson_injective hsplit
  cases p
  cases q
  simp_all only

/-- **A document is of one profile**, and none begins another. -/
theorem ServerProfile.eq_of_prefix {p q : ServerProfile} (hp : texts.ReadsBack p)
    (hq : texts.ReadsBack q)
    (h : (p.toStringPretty texts).toList <+: (q.toStringPretty texts).toList) : p = q := by
  rw [toStringPretty, toStringPretty, String.toList_ofList, String.toList_ofList] at h
  exact toJson_injective hp hq (congrArg Json.object (Json.eq_of_prefix h))

example : String.ofList (Json.pretty (AuthMethod.toJson (.privateKey (.file "/k") none)) 0) =
    "\x7b\n  \"type\": \"private_key\",\n  \"private_key\": \x7b\n    \"source\": \"file\",\n" ++
      "    \"path\": \"/k\"\n  \x7d\n\x7d" := by
  decide +kernel

end LiosTunnel.Config

