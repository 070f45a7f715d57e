import LiosTunnel.Protocols.Links

/-!
# Copying a profile as a link

`export_ss_uri` of `api/config.rs` checks a profile and renders it as an `ss://` link. Its guard
lets through some profiles whose link is not read back: a cipher with a colon, or a host with one of
the delimiters that end it, is rendered as it stands.

* `exportSsUri`: the guard and the rendering.
* `exportSsUri_eq_ok`: what the guard lets through.
* `parse_exported_iff`: which exported links are read as the profile they are of.
-/

namespace LiosTunnel.Ffi

open Protocols Protocols.Link

/-- `ProfileDto`, as far as `export_ss_uri` reads it. -/
structure ProfileDto where
  name : Str
  protocol : Str
  host : Str
  port : BitVec 16
  authKind : Str
  cipher : Option Str
  deriving DecidableEq, Repr

/-- `export_ss_uri`. -/
def exportSsUri (crate : Base64Crate) (dto : ProfileDto) (password : Str) : Except String Str :=
  if dto.authKind ≠ "shadowsocks".toList ∨ dto.protocol ≠ "shadowsocks".toList then
    .error "only a shadowsocks profile can be rendered as an ss:// link"
  else
    match dto.cipher.filter (· ≠ []) with
    | none => .error "a shadowsocks profile without a cipher cannot be rendered"
    | some method =>
      if password = [] then .error "a link needs the profile's password, and this one is empty"
      else if dto.host = [] then .error "a link needs a host, and this profile has none"
      else if ':' ∈ dto.host ∨ '[' ∈ dto.host then
        .error "an IPv6 host cannot be written as an ss:// link this build reads"
      else if dto.port = 0 then .error "a link needs a port, and this profile's is zero"
      else .ok (renderSsUri crate method password dto.host dto.port (some dto.name))

/-- The server a profile is of. -/
def ProfileDto.server (dto : ProfileDto) (cipher password : Str) : SsUri :=
  ⟨dto.host, dto.port, cipher, password, some dto.name⟩

variable {crate : Base64Crate} {dto : ProfileDto} {password link : Str}

/-- **The guard**: what it lets through is a Shadowsocks profile that can be named but for a colon
in its cipher. -/
theorem exportSsUri_eq_ok (h : exportSsUri crate dto password = .ok link) :
    ∃ cipher, dto.cipher = some cipher ∧ link = renderSsUri crate cipher password dto.host dto.port
      (some dto.name) ∧ (':' ∉ cipher → Nameable (dto.server cipher password)) := by
  rw [exportSsUri] at h
  split at h
  · cases h
  split at h
  · cases h
  next method hcipher =>
    split at h
    · cases h
    split at h
    · cases h
    split at h
    · cases h
    split at h
    · cases h
    next hpassword hhost hv6 hport =>
      obtain ⟨hsome, hne⟩ := Option.filter_eq_some_iff.1 hcipher
      obtain ⟨hcolon, hbracket⟩ := not_or.1 hv6
      exact ⟨method, hsome, (Except.ok.inj h).symm, fun hmethod =>
        ⟨of_decide_eq_true hne, hmethod, hpassword, hhost, hcolon, hbracket, hport⟩⟩

/-- **Which links come back**: an exported link is read as the profile's server, an empty name as no
tag, exactly if the cipher has no colon and the host none of the delimiters that end it. -/
theorem parse_exported_iff (hcrate : crate.Rfc4648) {cipher : Str}
    (hcipher : dto.cipher = some cipher)
    (h : exportSsUri crate dto password = .ok link) :
    parseSsUri crate link = .ok ⟨dto.host, dto.port, cipher, password, readTag (some dto.name)⟩ ↔
      ':' ∉ cipher ∧ '@' ∉ dto.host ∧ '#' ∉ dto.host ∧ '?' ∉ dto.host := by
  obtain ⟨cipher', hcipher', rfl, hname⟩ := exportSsUri_eq_ok h
  obtain rfl : cipher = cipher' := Option.some.inj (hcipher.symm.trans hcipher')
  refine (parse_render_iff hcrate (dto.server cipher password)).trans ?_
  constructor
  · rintro ⟨hnameable, hhost⟩
    exact ⟨hnameable.method_colon, hhost⟩
  · rintro ⟨hcolon, hhost⟩
    exact ⟨hname hcolon, hhost⟩

/-- A profile whose host has a user name before it. -/
def mailedProfile : ProfileDto :=
  ⟨"Home".toList, "shadowsocks".toList, "me@example.com".toList, 8388, "shadowsocks".toList,
    some "aes-256-gcm".toList⟩

theorem parse_exported_iff_mailed :
    ∃ link, exportSsUri codecs mailedProfile "pw".toList = .ok link ∧
      parseSsUri codecs link ≠
        .ok ⟨"me@example.com".toList, 8388, "aes-256-gcm".toList, "pw".toList,
        some "Home".toList⟩ := by
  have hexport : exportSsUri codecs mailedProfile "pw".toList = .ok (renderSsUri codecs
      "aes-256-gcm".toList "pw".toList mailedProfile.host 8388 (some "Home".toList)) := rfl
  refine ⟨_, hexport, fun h => ?_⟩
  exact absurd ((parse_exported_iff codecs_rfc4648 rfl hexport).1 h) (by decide)

/-- The link of a profile with a user name before its host is not read at all. -/
theorem exported_not_parsed :
    ∃ link, exportSsUri codecs mailedProfile "pw".toList = .ok link ∧
      parseSsUri codecs link =
        .error (.config "ss uri" [.lit "the encoded section is not valid base64"]) :=
  ⟨_, rfl, by decide +kernel⟩

end LiosTunnel.Ffi
