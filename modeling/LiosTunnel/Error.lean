import LiosTunnel.Net.Addr

/-!
# Texts and errors

A text the program composes is kept as its pieces: literal words and the addresses and networks
printed between them. `Display` of an address is the standard library's; no function here reads a
printed address back out of a text, so the pieces are enough.
-/

namespace LiosTunnel

/-- A piece of a text. -/
inductive Piece
  | lit (s : String)
  /-- An address as `IpAddr`'s `Display` prints it. -/
  | addr (a : IpAddr)
  /-- A network as `IpNet`'s `Display` prints it: the address as written, a slash, the length. -/
  | net (n : IpNet)
  deriving DecidableEq, Repr

abbrev Text := List Piece

/-- `error::TunnelError`. -/
inductive TunnelError
  | config (field : String) (reason : Text)
  | auth (reason : Text)
  | hostKey (reason : Text)
  | transport (reason : Text)
  | protocol (reason : Text)
  | unsupported (what : String)
  | dns (reason : Text)
  | route (reason : Text)
  | tun (reason : Text)
  deriving DecidableEq, Repr

/-- `TunnelError`'s `Display`. -/
def TunnelError.display : TunnelError → Text
  | config field reason => [.lit "config error at `", .lit field, .lit "`: "] ++ reason
  | auth reason => .lit "authentication failed: " :: reason
  | hostKey reason => .lit "host key verification failed: " :: reason
  | transport reason => .lit "transport error: " :: reason
  | protocol reason => .lit "protocol error: " :: reason
  | unsupported what => [.lit what, .lit " is not supported in this build"]
  | dns reason => .lit "dns error: " :: reason
  | route reason => .lit "route error: " :: reason
  | tun reason => .lit "tun device error: " :: reason

/-! ## The helper's errors -/

/-- `auth::AuthError`. -/
inductive Helper.AuthError
  | peerCred (reason : Text)
  | wrongUid (expected actual : ℕ)
  | secretNotOwned (path : String) (uid : ℕ)
  | secretRejected (path : String) (reason : Text)
  deriving DecidableEq, Repr

/-- `AuthError`'s `Display`. -/
def Helper.AuthError.display : Helper.AuthError → Text
  | peerCred reason => .lit "cannot read peer credentials: " :: reason
  | wrongUid expected actual =>
    [.lit "connection from uid ", .lit (toString actual), .lit " refused; only uid ",
      .lit (toString expected), .lit " is authorized"]
  | secretNotOwned path uid =>
    [.lit "secret file ", .lit path, .lit " is not owned by uid ", .lit (toString uid)]
  | secretRejected path reason => [.lit "secret file ", .lit path, .lit ": "] ++ reason

/-- `session::StartError`. -/
inductive Helper.StartError
  | badProfile (reason : String)
  | badRouteMode (reason : Text)
  | badTunAddress
  | envSecretNotAllowed
  | secretNotPermitted (e : Helper.AuthError)
  /-- A core error, converted by `?`. -/
  | tunnel (e : TunnelError)
  deriving DecidableEq, Repr

/-- `StartError`'s `Display`. -/
def Helper.StartError.display : Helper.StartError → Text
  | badProfile reason => [.lit reason]
  | badRouteMode reason => reason
  | badTunAddress => [.lit "tun address is not a valid IPv4 address"]
  | envSecretNotAllowed => [.lit "env-var secrets are not available through the helper"]
  | secretNotPermitted e => e.display
  | tunnel e => e.display

/-! ## Fallible functions -/

theorem bind_eq_ok {ε α β : Type} {x : Except ε α} {f : α → Except ε β} {b : β}
    (h : (x >>= f) = .ok b) : ∃ a, x = .ok a ∧ f a = .ok b := by
  cases x with
  | error e => cases h
  | ok a => exact ⟨a, rfl, h⟩

theorem bind_eq_error {ε α β : Type} {x : Except ε α} {f : α → Except ε β} {e : ε}
    (h : (x >>= f) = .error e) : x = .error e ∨ ∃ a, x = .ok a ∧ f a = .error e := by
  cases x with
  | error e' => exact Or.inl (congrArg Except.error (Except.error.inj h))
  | ok a => exact Or.inr ⟨a, rfl, h⟩

theorem mapError_eq_error {ε δ α : Type} {x : Except ε α} {f : ε → δ} {d : δ}
    (h : x.mapError f = .error d) : ∃ e, x = .error e ∧ f e = d := by
  cases x with
  | error e => exact ⟨e, rfl, Except.error.inj h⟩
  | ok a => cases h

/-- A loop fails as one of its rounds does. -/
theorem mapM_eq_error {ε α β : Type} {f : α → Except ε β} {l : List α} {e : ε}
    (h : l.mapM f = .error e) : ∃ a ∈ l, f a = .error e := by
  induction l with
  | nil => cases h
  | cons a l ih =>
    rw [List.mapM_cons] at h
    obtain ha | ⟨b, -, h⟩ := bind_eq_error h
    · exact ⟨a, List.mem_cons_self, ha⟩
    · obtain hl | ⟨bs, -, h⟩ := bind_eq_error h
      · obtain ⟨a', ha', he⟩ := ih hl
        exact ⟨a', List.mem_cons_of_mem _ ha', he⟩
      · cases h

theorem mapError_eq_ok {ε δ α : Type} {x : Except ε α} {f : ε → δ} {a : α}
    (h : x.mapError f = .ok a) : x = .ok a := by
  cases x with
  | error e => cases h
  | ok b => cases h; rfl

end LiosTunnel
