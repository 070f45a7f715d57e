import LiosTunnel.Lib.Base64
import LiosTunnel.Lib.Split
import LiosTunnel.Error

/-!
# `ss://` links

`ss_uri.rs`: a link names a Shadowsocks server with its credentials, in one of two forms, and
`parse_ss_uri` reads both. The base 64 engines are another crate's; they are parameters, assumed to
be codecs without padding in the two alphabets (`Base64Crate.Rfc4648`). A text is the list of its
characters.

* `decode`, `splitCreds`, `splitHostPort`, `encodeTag`, `decodeTag`, `parseSsUri`, `renderSsUri`.
* `decode_encoded`, `decodeTag_encodeTag`, `parseU16_displayPort`: what is written is read back.
* `splitCreds_eq_ok`, `splitHostPort_eq_ok`: what the splits accept.
-/

namespace LiosTunnel.Protocols.Link

open Split

/-- A `str`. -/
abbrev Str := List Char

/-! ## Bytes of a text -/

/-- `str::as_bytes`. -/
def asBytes (s : Str) : List UInt8 := s.flatMap String.utf8EncodeChar

/-- `String::from_utf8`. -/
def fromUtf8 (bytes : List UInt8) : Option Str := bytes.toByteArray.utf8Decode?.map Array.toList

@[simp] theorem fromUtf8_asBytes (s : Str) : fromUtf8 (asBytes s) = some s := by
  have h : (asBytes s).toByteArray = s.utf8Encode := rfl
  rw [fromUtf8, h, List.utf8Decode?_utf8Encode]
  rfl

theorem asBytes_ne_nil {s : Str} (h : s ≠ []) : asBytes s ≠ [] := by
  intro hnil
  have hsome := fromUtf8_asBytes s
  rw [hnil] at hsome
  exact h (Option.some.inj (hsome.symm.trans (fromUtf8_asBytes [])))

/-! ## The functions -/

/-- An engine of the `base64` crate. -/
structure Engine where
  encode : List UInt8 → Str
  decode : Str → Option (List UInt8)

/-- `base64::engine::general_purpose`. -/
structure Base64Crate where
  urlSafeNoPad : Engine
  standardNoPad : Engine

/-- An engine is the codec of RFC 4648 in an alphabet, without padding. -/
structure Engine.Rfc4648 (e : Engine) (alphabet : Base64.Sextet → Char) : Prop where
  encode : ∀ bytes, e.encode bytes = Base64.encode alphabet bytes
  decode : ∀ s bytes, e.decode s = some bytes ↔ e.encode bytes = s

/-- The two engines are the codecs they are named for. -/
structure Base64Crate.Rfc4648 (crate : Base64Crate) : Prop where
  urlSafe : crate.urlSafeNoPad.Rfc4648 Base64.urlSafe
  standard : crate.standardNoPad.Rfc4648 Base64.standard

/-- `SsUri`. -/
structure SsUri where
  host : Str
  port : BitVec 16
  method : Str
  password : Str
  tag : Option Str
  deriving DecidableEq, Repr

/-- `bad`. -/
def bad {α : Type} (reason : String) : Except TunnelError α :=
  .error (.config "ss uri" [.lit reason])

/-- `decode`. -/
def decode (crate : Base64Crate) (s : Str) : Except TunnelError Str :=
  let trimmed := s.rdropWhile (· == '=')
  match (crate.urlSafeNoPad.decode trimmed).or (crate.standardNoPad.decode trimmed) with
  | none => bad "the encoded section is not valid base64"
  | some bytes =>
    match fromUtf8 bytes with
    | some text => .ok text
    | none => bad "the encoded section is not text"

/-- `split_creds`. -/
def splitCreds (s : Str) : Except TunnelError (Str × Str) :=
  match splitOnce ':' s with
  | some (m, p) => if m ≠ [] ∧ p ≠ [] then .ok (m, p) else bad "expected method:password"
  | none => bad "expected method:password"

/-- `str::parse::<u16>`. -/
def parseU16 (s : Str) : Option (BitVec 16) :=
  let digits :=
    match s with
    | '+' :: rest => rest
    | _ => s
  if digits ≠ [] ∧ digits.all Char.isDigit = true ∧ Nat.ofDigitChars 10 digits 0 < 2 ^ 16 then
    some (.ofNat 16 (Nat.ofDigitChars 10 digits 0))
  else none

/-- `split_host_port`. -/
def splitHostPort (s : Str) : Except TunnelError (Str × BitVec 16) :=
  match rsplitOnce ':' s with
  | none => bad "expected host:port"
  | some (h, p) =>
    match parseU16 p with
    | none => bad "the port is not a number"
    | some port =>
      if h = [] then bad "the host is empty"
      else if port = 0 then bad "the port is zero"
      else if ':' ∈ h ∨ '[' ∈ h then
        bad "IPv6 hosts are not supported; this build only speaks IPv4"
      else .ok (h, port)

/-- A digit of `{:02X}`. -/
def hexDigit (n : ℕ) : Char := .ofNat (if n < 10 then n + 48 else n + 55)

/-- What one byte is written as. -/
def encodeByte (b : UInt8) : Str :=
  let c := Char.ofNat b.toNat
  if ('A' ≤ c ∧ c ≤ 'Z') ∨ ('a' ≤ c ∧ c ≤ 'z') ∨ ('0' ≤ c ∧ c ≤ '9') ∨ c = '-' ∨ c = '.' ∨ c = '_' ∨
      c = '~' then [c]
  else ['%', hexDigit (b.toNat / 16), hexDigit (b.toNat % 16)]

/-- `encode_tag`. -/
def encodeTag (tag : Str) : Str := (asBytes tag).flatMap encodeByte

/-- `char::to_digit(16)` of a byte. -/
def toDigit16 (b : UInt8) : Option ℕ :=
  let n := b.toNat
  if 48 ≤ n ∧ n ≤ 57 then some (n - 48)
  else if 65 ≤ n ∧ n ≤ 70 then some (n - 55)
  else if 97 ≤ n ∧ n ≤ 102 then some (n - 87)
  else none

/-- The loop of `decode_tag`. -/
def decodeBytes : List UInt8 → List UInt8
  | [] => []
  | [b] => [b]
  | [b, b'] => [b, b']
  | b :: hi :: lo :: rest =>
    if b = 0x25 then
      match toDigit16 hi, toDigit16 lo with
      | some h, some l => .ofNat (h * 16 + l) :: decodeBytes rest
      | _, _ => b :: decodeBytes (hi :: lo :: rest)
    else b :: decodeBytes (hi :: lo :: rest)

/-- `decode_tag`. -/
def decodeTag (tag : Str) : Str := (fromUtf8 (decodeBytes (asBytes tag))).getD tag

/-- `char::is_whitespace`. -/
def isWhitespace (c : Char) : Bool :=
  let n := c.toNat
  (9 ≤ n && n ≤ 13) || n == 0x20 || n == 0x85 || n == 0xA0 || n == 0x1680 ||
    (0x2000 ≤ n && n ≤ 0x200A) || n == 0x2028 || n == 0x2029 || n == 0x202F || n == 0x205F ||
    n == 0x3000

/-- `strip_suffix('/')`, or all of it. -/
def stripSlash (s : Str) : Str := if s.getLast? = some '/' then s.dropLast else s

/-- The part of a link before its fragment, and the tag. -/
def splitTag (rest : Str) : Str × Option Str :=
  match splitOnce '#' rest with
  | some (b, t) => (b, if t ≠ [] then some (decodeTag t) else none)
  | none => (rest, none)

/-- The part of a body before its query. -/
def dropQuery (body : Str) : Str := upTo '?' body

/-- What is left of a link, in either form. -/
def parseBody (crate : Base64Crate) (body : Str) (tag : Option Str) : Except TunnelError SsUri :=
  match rsplitOnce '@' body with
  | some (creds, hostport) => do
    let text ← decode crate creds
    let (method, password) ← splitCreds text
    let (host, port) ← splitHostPort (stripSlash hostport)
    return ⟨host, port, method, password, tag⟩
  | none => do
    let all ← decode crate body
    match rsplitOnce '@' all with
    | none => bad "expected method:password@host:port"
    | some (creds, hostport) => do
      let (method, password) ← splitCreds creds
      let (host, port) ← splitHostPort hostport
      return ⟨host, port, method, password, tag⟩

/-- `parse_ss_uri`. -/
def parseSsUri (crate : Base64Crate) (uri : Str) : Except TunnelError SsUri :=
  match (trim isWhitespace uri).dropPrefix? "ss://".toList with
  | none => bad "not an ss:// link"
  | some rest => parseBody crate (dropQuery (splitTag rest).1) (splitTag rest).2

/-- `Display` of a port. -/
def displayPort (port : BitVec 16) : Str := Nat.toDigits 10 port.toNat

/-- The fragment `render_ss_uri` writes. -/
def fragment (tag : Option Str) : Str :=
  match tag with
  | some t => if t ≠ [] then '#' :: encodeTag t else []
  | none => []

/-- `render_ss_uri`. -/
def renderSsUri (crate : Base64Crate) (method password host : Str) (port : BitVec 16)
    (tag : Option Str) : Str :=
  let creds := crate.urlSafeNoPad.encode (asBytes (method ++ ':' :: password))
  "ss://".toList ++ creds ++ '@' :: host ++ ':' :: displayPort port ++ fragment tag

/-! ## The tag -/

/-- What a byte is written as, in the bytes of the text. -/
theorem asBytes_encodeByte (b : UInt8) :
    (b ≠ 0x25 ∧ asBytes (encodeByte b) = [b]) ∨
    ∃ hi lo, asBytes (encodeByte b) = [0x25, hi, lo] ∧ toDigit16 hi = some (b.toNat / 16) ∧
      toDigit16 lo = some (b.toNat % 16) := by
  have hall : ∀ n < 256, (UInt8.ofNat n ≠ 0x25 ∧ asBytes (encodeByte (.ofNat n)) = [.ofNat n]) ∨
      (asBytes (encodeByte (.ofNat n)) = [0x25, (asBytes [hexDigit (n / 16)]).headD 0,
          (asBytes [hexDigit (n % 16)]).headD 0] ∧
        toDigit16 ((asBytes [hexDigit (n / 16)]).headD 0) = some (n / 16) ∧
        toDigit16 ((asBytes [hexDigit (n % 16)]).headD 0) = some (n % 16)) := by
    decide +kernel
  obtain h | ⟨h, hhi, hlo⟩ := hall b.toNat b.toNat_lt
  · rw [UInt8.ofNat_toNat] at h
    exact Or.inl h
  · rw [UInt8.ofNat_toNat] at h
    exact Or.inr ⟨_, _, h, hhi, hlo⟩

/-- A byte that begins no escape is read as it is. -/
theorem decodeBytes_cons_of_ne {b : UInt8} (hb : b ≠ 0x25) (rest : List UInt8) :
    decodeBytes (b :: rest) = b :: decodeBytes rest := by
  match rest with
  | [] => rfl
  | [b'] => rfl
  | hi :: lo :: rest => rw [decodeBytes, if_neg hb]

theorem decodeBytes_escape {hi lo : UInt8} {h l : ℕ} (hhi : toDigit16 hi = some h)
    (hlo : toDigit16 lo = some l) (rest : List UInt8) :
    decodeBytes (0x25 :: hi :: lo :: rest) = .ofNat (h * 16 + l) :: decodeBytes rest := by
  rw [decodeBytes, if_pos rfl, hhi, hlo]

theorem asBytes_append (s t : Str) : asBytes (s ++ t) = asBytes s ++ asBytes t :=
  List.flatMap_append

/-- One byte through both loops. -/
theorem decodeBytes_encodeByte (b : UInt8) (rest : List UInt8) :
    decodeBytes (asBytes (encodeByte b) ++ rest) = b :: decodeBytes rest := by
  obtain ⟨hb, h⟩ | ⟨hi, lo, h, hhi, hlo⟩ := asBytes_encodeByte b
  · rw [h]
    exact decodeBytes_cons_of_ne hb rest
  · have hvalue : UInt8.ofNat (b.toNat / 16 * 16 + b.toNat % 16) = b := by
      rw [Nat.div_add_mod', UInt8.ofNat_toNat]
    rw [h]
    change decodeBytes (0x25 :: hi :: lo :: rest) = _
    rw [decodeBytes_escape hhi hlo, hvalue]

theorem decodeBytes_encode (bytes : List UInt8) :
    decodeBytes (asBytes (bytes.flatMap encodeByte)) = bytes := by
  induction bytes with
  | nil => rfl
  | cons b bytes ih => rw [List.flatMap_cons, asBytes_append, decodeBytes_encodeByte, ih]

/-- **A tag is read as it was.** -/
@[simp] theorem decodeTag_encodeTag (tag : Str) : decodeTag (encodeTag tag) = tag := by
  rw [decodeTag, encodeTag, decodeBytes_encode, fromUtf8_asBytes, Option.getD_some]

theorem encodeTag_ne_nil {tag : Str} (h : tag ≠ []) : encodeTag tag ≠ [] := by
  intro hnil
  have hback := decodeTag_encodeTag tag
  rw [hnil] at hback
  exact h (hback.symm.trans rfl)

theorem not_isWhitespace_encodeTag {tag : Str} {c : Char} (hc : c ∈ encodeTag tag) :
    isWhitespace c = false := by
  have hall : ∀ n < 256, (encodeByte (.ofNat n)).all (fun c => !isWhitespace c) = true := by
    decide +kernel
  obtain ⟨b, -, hb⟩ := List.mem_flatMap.1 hc
  have hbyte := hall b.toNat b.toNat_lt
  rw [UInt8.ofNat_toNat, List.all_eq_true] at hbyte
  simpa using hbyte c hb

/-! ## The encoded section -/

theorem alphabet_ne_of_mem {alphabet : Base64.Sextet → Char}
    (h : alphabet = Base64.urlSafe ∨ alphabet = Base64.standard) {bytes : List UInt8} {c : Char}
    (hc : c ∈ Base64.encode alphabet bytes) :
    c ≠ '=' ∧ c ≠ '@' ∧ c ≠ '#' ∧ c ≠ '?' ∧ isWhitespace c = false := by
  have hall : ∀ d, (Base64.urlSafe d ≠ '=' ∧ Base64.urlSafe d ≠ '@' ∧ Base64.urlSafe d ≠ '#' ∧
      Base64.urlSafe d ≠ '?' ∧ isWhitespace (Base64.urlSafe d) = false) ∧
      (Base64.standard d ≠ '=' ∧ Base64.standard d ≠ '@' ∧ Base64.standard d ≠ '#' ∧
      Base64.standard d ≠ '?' ∧ isWhitespace (Base64.standard d) = false) := by
    decide +kernel
  obtain ⟨d, rfl⟩ := Base64.mem_encode hc
  obtain rfl | rfl := h
  · exact (hall d).1
  · exact (hall d).2

/-- One of the two engines. -/
inductive Alphabet
  | urlSafe
  | standard
  deriving DecidableEq, Repr

def Base64Crate.engine (crate : Base64Crate) : Alphabet → Engine
  | .urlSafe => crate.urlSafeNoPad
  | .standard => crate.standardNoPad

variable {crate : Base64Crate}

/-- A text as a link carries it: in an alphabet, with some padding. -/
def encoded (crate : Base64Crate) (a : Alphabet) (padding : ℕ) (s : Str) : Str :=
  (crate.engine a).encode (asBytes s) ++ List.replicate padding '='

/-- What stands in an encoded text. -/
theorem mem_encoded (hcrate : crate.Rfc4648) {a : Alphabet} {padding : ℕ} {s : Str} {c : Char}
    (hc : c ∈ encoded crate a padding s) :
    c ≠ '@' ∧ c ≠ '#' ∧ c ≠ '?' ∧ isWhitespace c = false := by
  obtain hc | hc := List.mem_append.1 hc
  · cases a with
    | urlSafe =>
      rw [Base64Crate.engine, hcrate.urlSafe.encode] at hc
      exact (alphabet_ne_of_mem (Or.inl rfl) hc).2
    | standard =>
      rw [Base64Crate.engine, hcrate.standard.encode] at hc
      exact (alphabet_ne_of_mem (Or.inr rfl) hc).2
  · obtain rfl := List.eq_of_mem_replicate hc
    decide

theorem engine_encode_not_mem (hcrate : crate.Rfc4648) {a : Alphabet} {bytes : List UInt8}
    {c : Char}
    (hc : c ∈ (crate.engine a).encode bytes) : c ≠ '=' := by
  cases a with
  | urlSafe =>
    rw [Base64Crate.engine, hcrate.urlSafe.encode] at hc
    exact (alphabet_ne_of_mem (Or.inl rfl) hc).1
  | standard =>
    rw [Base64Crate.engine, hcrate.standard.encode] at hc
    exact (alphabet_ne_of_mem (Or.inr rfl) hc).1

/-- The engine that comes first reads nothing else out of what the other wrote. -/
theorem find_decode (hcrate : crate.Rfc4648) (a : Alphabet) (bytes : List UInt8) :
    (crate.urlSafeNoPad.decode ((crate.engine a).encode bytes)).or
      (crate.standardNoPad.decode ((crate.engine a).encode bytes)) = some bytes := by
  cases a with
  | urlSafe =>
    have h : crate.urlSafeNoPad.decode (crate.urlSafeNoPad.encode bytes) = some bytes :=
      (hcrate.urlSafe.decode _ _).2 rfl
    rw [Base64Crate.engine, h, Option.some_or]
  | standard =>
    have h : crate.standardNoPad.decode (crate.standardNoPad.encode bytes) = some bytes :=
      (hcrate.standard.decode _ _).2 rfl
    rw [Base64Crate.engine, h]
    cases hfirst : crate.urlSafeNoPad.decode (crate.standardNoPad.encode bytes) with
    | none => rfl
    | some bytes' =>
      have heq := (hcrate.urlSafe.decode _ _).1 hfirst
      rw [hcrate.urlSafe.encode, hcrate.standard.encode] at heq
      rw [Base64.encode_inj_of_agree Base64.urlSafe_standard_agree heq]
      rfl

/-- **An encoded section is read as it was**, in either alphabet and with any padding. -/
theorem decode_encoded (hcrate : crate.Rfc4648) (a : Alphabet) (padding : ℕ) (s : Str) :
    decode crate (encoded crate a padding s) = .ok s := by
  have htrim : (encoded crate a padding s).rdropWhile (· == '=') =
      (crate.engine a).encode (asBytes s) := by
    rw [encoded, rdropWhile_append_of_all fun c hc => by rw [List.eq_of_mem_replicate hc]; rfl,
      List.rdropWhile_eq_self_iff]
    intro hne hlast
    exact engine_encode_not_mem hcrate (List.getLast_mem hne) (beq_iff_eq.1 hlast)
  rw [decode, htrim, find_decode hcrate]
  dsimp only
  rw [fromUtf8_asBytes]

/-! ## The splits -/

theorem splitCreds_eq_ok {s m p : Str} :
    splitCreds s = .ok (m, p) ↔ s = m ++ ':' :: p ∧ ':' ∉ m ∧ m ≠ [] ∧ p ≠ [] := by
  rw [splitCreds]
  constructor
  · intro h
    split at h
    · next m' p' hsplit =>
      split at h
      · next hne =>
        obtain ⟨rfl, rfl⟩ := Prod.mk.inj (Except.ok.inj h)
        obtain ⟨hs, hnot⟩ := splitOnce_eq_some_iff.1 hsplit
        exact ⟨hs, hnot, hne⟩
      · cases h
    · cases h
  · rintro ⟨hs, hnot, hne⟩
    rw [splitOnce_eq_some_iff.2 ⟨hs, hnot⟩]
    exact if_pos hne

theorem splitHostPort_eq_ok {s h : Str} {port : BitVec 16} :
    splitHostPort s = .ok (h, port) ↔ ∃ digits, s = h ++ ':' :: digits ∧ ':' ∉ digits ∧
      parseU16 digits = some port ∧ h ≠ [] ∧ port ≠ 0 ∧ ':' ∉ h ∧ '[' ∉ h := by
  rw [splitHostPort]
  constructor
  · intro heq
    split at heq
    · cases heq
    · next h' digits hsplit =>
      obtain ⟨hs, hnot⟩ := rsplitOnce_eq_some_iff.1 hsplit
      split at heq
      · cases heq
      · next port' hport =>
        split at heq
        · cases heq
        split at heq
        · cases heq
        split at heq
        · cases heq
        next hne hzero hv6 =>
          obtain ⟨rfl, rfl⟩ := Prod.mk.inj (Except.ok.inj heq)
          obtain ⟨hcolon, hbracket⟩ := not_or.1 hv6
          exact ⟨digits, hs, hnot, hport, hne, hzero, hcolon, hbracket⟩
  · rintro ⟨digits, hs, hnot, hport, hne, hzero, hcolon, hbracket⟩
    rw [rsplitOnce_eq_some_iff.2 ⟨hs, hnot⟩]
    dsimp only
    rw [hport]
    dsimp only
    rw [if_neg hne, if_neg hzero, if_neg (not_or.2 ⟨hcolon, hbracket⟩)]

theorem isDigit_of_mem_displayPort {port : BitVec 16} {c : Char} (hc : c ∈ displayPort port) :
    c.isDigit = true :=
  Nat.isDigit_of_mem_toDigits (by decide) le_rfl hc

/-- **A port is read as it is displayed.** -/
theorem parseU16_displayPort (port : BitVec 16) : parseU16 (displayPort port) = some port := by
  have hdigits : (match displayPort port with | '+' :: rest => rest | _ => displayPort port) =
      displayPort port := by
    split
    · next rest h =>
      have hplus : '+' ∈ displayPort port := by
        rw [h]
        exact List.mem_cons_self
      exact absurd (isDigit_of_mem_displayPort hplus) (by decide)
    · rfl
  have hvalue : Nat.ofDigitChars 10 (displayPort port) 0 = port.toNat :=
    Nat.ofDigitChars_ten_toDigits
  unfold parseU16
  dsimp only
  rw [hdigits, hvalue, if_pos, BitVec.ofNat_toNat, BitVec.setWidth_eq]
  exact ⟨Nat.toDigits_ne_nil, List.all_eq_true.2 fun _ hc => isDigit_of_mem_displayPort hc,
    port.isLt⟩

/-- What stands in a displayed port. -/
theorem ne_of_mem_displayPort {port : BitVec 16} {c : Char} (hc : c ∈ displayPort port) {d : Char}
    (hd : d.isDigit = false) : c ≠ d := by
  rintro rfl
  rw [isDigit_of_mem_displayPort hc] at hd
  cases hd

theorem not_mem_displayPort {port : BitVec 16} {d : Char} (hd : d.isDigit = false) :
    d ∉ displayPort port :=
  fun h => ne_of_mem_displayPort h hd rfl

end LiosTunnel.Protocols.Link
