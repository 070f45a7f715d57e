import LiosTunnel.Config.Profile

/-!
# Identifiers and addresses as texts

`Display` and `FromStr` of `uuid::Uuid` and `std::net::IpAddr`, parameters here.

* `Texts`: the four functions.
* `Texts.ReadsIds`, `Texts.ReadsBack`: a text is read back as what it is of.
* `Reference.texts`: identifiers in hyphenated hexadecimal, IPv4 addresses in dotted decimal.
-/

namespace LiosTunnel.Config

/-- How identifiers and addresses are written and read. -/
structure Texts where
  uuid : BitVec 128 → String
  parseUuid : String → Option (BitVec 128)
  ip : IpAddr → String
  parseIp : String → Option IpAddr

/-- An identifier's text is read back, and names no directory. -/
structure Texts.ReadsIds (texts : Texts) : Prop where
  parse : ∀ id, texts.parseUuid (texts.uuid id) = some id
  relative : ∀ id, '/' ∉ (texts.uuid id).toList

/-- The texts of a profile's identifier and resolvers are read back. -/
structure Texts.ReadsBack (texts : Texts) (p : ServerProfile) : Prop where
  id : texts.parseUuid (texts.uuid p.id) = some p.id
  servers : ∀ server ∈ p.dns.servers, texts.parseIp (texts.ip server) = some server

/-- Different identifiers have different texts. -/
theorem Texts.ReadsIds.injective {texts : Texts} (h : texts.ReadsIds) {id id' : BitVec 128}
    (heq : texts.uuid id = texts.uuid id') : id = id' := by
  have hid := h.parse id
  rw [heq, h.parse] at hid
  exact (Option.some.inj hid).symm

/-! ## Texts to run with -/

namespace Reference

def HEX : List Char := "0123456789abcdef".toList

/-- The last `n` digits of a number to a base, the most significant first. -/
def digits (base : ℕ) : ℕ → ℕ → List Char
  | 0, _ => []
  | n + 1, x => digits base n (x / base) ++ [HEX.getD (x % base) '0']

/-- The number that some digits stand for. -/
def number (base : ℕ) (s : List Char) : ℕ := s.foldl (fun n c => n * base + HEX.idxOf c) 0

/-- A hyphen after the first `n` characters. -/
def hyphenAt (n : ℕ) (s : List Char) : List Char := s.take n ++ '-' :: s.drop n

/-- `8-4-4-4-12` digits. -/
def uuid (id : BitVec 128) : String :=
  .ofList (hyphenAt 8 (hyphenAt 12 (hyphenAt 16 (hyphenAt 20 (digits 16 32 id.toNat)))))

def parseUuid (s : String) : Option (BitVec 128) :=
  let hex := s.toList.filter (· != '-')
  if hex.length = 32 then some (.ofNat 128 (number 16 hex)) else none

/-- A number below 1000 in decimal. -/
def decimal (n : ℕ) : List Char :=
  if n < 10 then digits 10 1 n else if n < 100 then digits 10 2 n else digits 10 3 n

/-- Dotted decimal, or the digits of an IPv6 address in one. -/
def ip : IpAddr → String
  | .v4 a =>
    let octet (i : ℕ) := decimal (a.toNat / 256 ^ i % 256)
    .ofList (octet 3 ++ '.' :: octet 2 ++ '.' :: octet 1 ++ '.' :: octet 0)
  | .v6 a => .ofList (digits 16 32 a.toNat)

def parseIp (s : String) : Option IpAddr :=
  match s.toList.splitOn '.' with
  | [a, b, c, d] =>
    some (.v4
      (.ofNat 32 (((number 10 a * 256 + number 10 b) * 256 + number 10 c) * 256 + number 10 d)))
  | [hex] => some (.v6 (.ofNat 128 (number 16 hex)))
  | _ => none

def texts : Texts := ⟨uuid, parseUuid, ip, parseIp⟩

@[simp] theorem length_digits (base n x : ℕ) : (digits base n x).length = n := by
  induction n generalizing x with
  | zero => rfl
  | succ n ih => rw [digits, List.length_append, ih, List.length_singleton]

theorem getD_hex : ∀ d < 16, HEX.idxOf (HEX.getD d '0') = d ∧ HEX.getD d '0' ∈ HEX := by decide

theorem mem_digits {n x : ℕ} {c : Char} (h : c ∈ digits 16 n x) : c ∈ HEX := by
  induction n generalizing x with
  | zero => cases h
  | succ n ih =>
    rw [digits, List.mem_append, List.mem_singleton] at h
    obtain h | rfl := h
    · exact ih h
    · exact (getD_hex (x % 16) (Nat.mod_lt x (by decide))).2

theorem number_digits {n x : ℕ} (h : x < 16 ^ n) : number 16 (digits 16 n x) = x := by
  induction n generalizing x with
  | zero => exact (Nat.lt_one_iff.1 h).symm
  | succ n ih =>
    have hdiv : x / 16 < 16 ^ n := Nat.div_lt_of_lt_mul (by rwa [Nat.pow_succ'] at h)
    have hrest :
        (digits 16 n (x / 16)).foldl (fun n c => n * 16 + HEX.idxOf c) 0 = x / 16 := ih hdiv
    rw [number, digits, List.foldl_append, hrest, List.foldl_cons, List.foldl_nil,
      (getD_hex (x % 16) (Nat.mod_lt x (by decide))).1]
    omega

theorem filter_hyphenAt (n : ℕ) (s : List Char) :
    (hyphenAt n s).filter (· != '-') = s.filter (· != '-') := by
  rw [hyphenAt, List.filter_append, List.filter_cons_of_neg (by decide), ← List.filter_append,
    List.take_append_drop]

theorem filter_uuid (id : BitVec 128) :
    (uuid id).toList.filter (· != '-') = digits 16 32 id.toNat := by
  rw [uuid, String.toList_ofList, filter_hyphenAt, filter_hyphenAt, filter_hyphenAt,
    filter_hyphenAt, List.filter_eq_self]
  refine fun c hc => bne_iff_ne.2 ?_
  rintro rfl
  exact absurd (mem_digits hc) (by decide)

theorem parseUuid_uuid (id : BitVec 128) : parseUuid (uuid id) = some id := by
  have hlt : id.toNat < 16 ^ 32 := id.isLt.trans_le (by norm_num)
  rw [parseUuid, filter_uuid, if_pos (length_digits 16 32 _), number_digits hlt,
    BitVec.ofNat_toNat, BitVec.setWidth_eq]

theorem slash_notMem_uuid (id : BitVec 128) : '/' ∉ (uuid id).toList := by
  intro h
  have hmem : '/' ∈ (uuid id).toList.filter (· != '-') := List.mem_filter.2 ⟨h, by decide⟩
  rw [filter_uuid] at hmem
  exact absurd (mem_digits hmem) (by decide)

theorem readsIds : texts.ReadsIds where
  parse id := by
    dsimp only [texts]
    exact parseUuid_uuid id
  relative id := by
    dsimp only [texts]
    exact slash_notMem_uuid id

theorem number_decimal : ∀ n < 256, number 10 (decimal n) = n ∧ '.' ∉ decimal n := by decide +kernel

theorem parseIp_ip (a : IpAddr) : parseIp (ip a) = some a := by
  cases a with
  | v4 a =>
    have hlt := a.isLt
    have hoctet (i : ℕ) := number_decimal (a.toNat / 256 ^ i % 256) (Nat.mod_lt _ (by decide))
    have hsplit : (ip (.v4 a)).toList.splitOn '.' = [decimal (a.toNat / 256 ^ 3 % 256),
        decimal (a.toNat / 256 ^ 2 % 256), decimal (a.toNat / 256 ^ 1 % 256),
        decimal (a.toNat / 256 ^ 0 % 256)] := by
      simp only [ip, String.toList_ofList, List.cons_append, List.append_assoc]
      rw [List.splitOn_append_cons_self_of_not_mem (hoctet 3).2,
        List.splitOn_append_cons_self_of_not_mem (hoctet 2).2,
        List.splitOn_append_cons_self_of_not_mem (hoctet 1).2,
        List.splitOn_eq_singleton (hoctet 0).2]
    have hnat : ((a.toNat / 256 ^ 3 % 256 * 256 + a.toNat / 256 ^ 2 % 256) * 256 +
        a.toNat / 256 ^ 1 % 256) * 256 + a.toNat / 256 ^ 0 % 256 = a.toNat := by
      norm_num
      omega
    rw [parseIp, hsplit]
    dsimp only
    rw [(hoctet 0).1, (hoctet 1).1, (hoctet 2).1, (hoctet 3).1, hnat, BitVec.ofNat_toNat,
      BitVec.setWidth_eq]
  | v6 a =>
    have hlt : a.toNat < 16 ^ 32 := a.isLt.trans_le (by norm_num)
    have hdot : '.' ∉ digits 16 32 a.toNat := fun h => absurd (mem_digits h) (by decide)
    have hsplit : (ip (.v6 a)).toList.splitOn '.' = [digits 16 32 a.toNat] := by
      rw [ip, String.toList_ofList, List.splitOn_eq_singleton hdot]
    rw [parseIp, hsplit]
    dsimp only
    rw [number_digits hlt, BitVec.ofNat_toNat, BitVec.setWidth_eq]

/-- **Every profile's texts are read back.** -/
theorem readsBack (p : ServerProfile) : texts.ReadsBack p where
  id := readsIds.parse p.id
  servers server _ := by
    dsimp only [texts]
    exact parseIp_ip server

end Reference

end LiosTunnel.Config
