import LiosTunnel.Error

/-!
# Profiles and the secrets they refer to

`config/profile.rs` and `config/secret.rs`: a profile names its secrets, and a store reads them.
What the file system answers is the environment's: an open gives a descriptor, which tells what
`fstat` and a read of it give.

* `SecretRef`, `AuthMethod.secretRefs`, `ServerProfile`: the profile.
* `FileSystem`, `SecretStore`: what a store may look at.
* `stripOneTrailingLineEnding`: what a secret file's content stands for.
-/

namespace LiosTunnel.Config

/-! ## References -/

/-- A `PathBuf` read from JSON, which is UTF-8. -/
abbrev PathBuf := String

/-- `Path::components`: whether the path is absolute, and its segments without empty ones and
without `.`, which counts at the beginning of a relative path alone. -/
def PathBuf.components (path : PathBuf) : Bool × List (List Char) :=
  let segments := path.toList.splitOn '/'
  let hasRoot := path.toList.head? == some '/'
  let curDir := !hasRoot && segments.head? == some ['.']
  (hasRoot, (if curDir then [['.']] else []) ++
    segments.filter fun segment => segment != [] && segment != ['.'])

/-- `SecretRef`. -/
inductive SecretRef
  | file (path : PathBuf)
  | env (var : String)
  deriving DecidableEq, Repr

/-- `==` of references, which compares paths by their components. -/
def SecretRef.same : SecretRef → SecretRef → Bool
  | file path, file path' => path.components == path'.components
  | env var, env var' => var == var'
  | _, _ => false

@[simp] theorem SecretRef.same_self (r : SecretRef) : r.same r = true := by
  cases r <;> exact beq_self_eq_true _

/-! ## Profiles -/

/-- `ProtocolKind`. -/
inductive ProtocolKind
  | ssh
  | wireGuard
  | shadowsocks
  deriving DecidableEq, Repr

/-- `AuthMethod`. -/
inductive AuthMethod
  | password (password : SecretRef)
  | privateKey (privateKey : SecretRef) (passphrase : Option SecretRef)
  | presharedKey (privateKey : SecretRef) (peerPublicKey : String)
  | shadowsocks (method : String) (password : SecretRef)
  deriving DecidableEq, Repr

/-- `AuthMethod::secret_refs`. -/
def AuthMethod.secretRefs : AuthMethod → List SecretRef
  | .password pw => [pw]
  | .privateKey key passphrase => key :: passphrase.toList
  | .presharedKey key _ => [key]
  | .shadowsocks _ pw => [pw]

/-- `DnsMode`. -/
inductive DnsMode
  | tcp
  | https
  deriving DecidableEq, Repr

/-- `DohConfig`. -/
structure DohConfig where
  sni : String
  path : String
  deriving DecidableEq, Repr

/-- `DnsConfig`. -/
structure DnsConfig where
  mode : DnsMode
  servers : List IpAddr
  https : Option DohConfig
  deriving DecidableEq, Repr

/-- `SplitTunnelRule`. -/
inductive SplitTunnelRule
  | allTraffic
  | excludeApps (apps : List String)
  | includeOnly (apps : List String)
  deriving DecidableEq, Repr

/-- `ServerProfile`. -/
structure ServerProfile where
  id : BitVec 128
  name : String
  protocol : ProtocolKind
  host : String
  port : BitVec 16
  auth : AuthMethod
  dns : DnsConfig
  splitTunnel : SplitTunnelRule
  killSwitch : Bool
  deriving DecidableEq, Repr

/-! ## Stores -/

/-- What `fstat` tells of an open file. -/
structure Metadata where
  isFile : Bool
  mode : ℕ
  uid : ℕ
  len : ℕ
  deriving DecidableEq, Repr

/-- An open file: what `fstat` and `read_to_string` answer, errors by their `Display`. -/
structure Descriptor where
  metadata : Except Text Metadata
  body : Except Text String
  deriving DecidableEq

/-- What opening a path gives, at one moment. -/
abbrev FileSystem := PathBuf → Except Text Descriptor

/-- `SecretStore`, asked while the file system is as given. -/
structure SecretStore where
  resolve : FileSystem → SecretRef → Except TunnelError String

/-- `strip_one_trailing_line_ending`. -/
def stripOneTrailingLineEnding (body : String) : String :=
  match body.toList.reverse with
  | '\n' :: '\r' :: rest => .ofList rest.reverse
  | '\n' :: rest => .ofList rest.reverse
  | _ => body

/-- At most one line ending is missing. -/
theorem eq_stripOneTrailingLineEnding (body : String) :
    body = stripOneTrailingLineEnding body ∨ body = stripOneTrailingLineEnding body ++ "\n" ∨
      body = stripOneTrailingLineEnding body ++ "\r\n" := by
  have hback : ∀ ending {rest : List Char}, body.toList.reverse = ending ++ rest →
      body = .ofList rest.reverse ++ .ofList ending.reverse := by
    intro ending rest h
    rw [← String.ofList_append, ← List.reverse_append, ← h, List.reverse_reverse,
      String.ofList_toList]
  rw [stripOneTrailingLineEnding]
  split
  · rename_i rest h
    exact Or.inr (Or.inr (hback ['\n', '\r'] h))
  · rename_i rest _ h
    exact Or.inr (Or.inl (hback ['\n'] h))
  · exact Or.inl rfl

end LiosTunnel.Config
