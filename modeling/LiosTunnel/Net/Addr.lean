import LiosTunnel.Lib.PrefixTable
import Mathlib.Data.BitVec

/-!
# Addresses, networks and what they cover

`std::net::IpAddr` and `SocketAddr`, and `ipnet::IpNet`, as far as the route layer and the packet
stack read them. An address is its bits; a network is an address with a length, kept as it was
written, so its host bits may be set: what it denotes is its `dest`, the first `prefixLen` bits.

* `IpAddr.bits`: the bits of an address, most significant first; injective within a family.
* `Dest`: a destination of a route, a family with the leading bits every address it covers shares.
* `IpNet.contains_iff`: `ipnet`'s containment is `Dest.Covers`.
-/

namespace LiosTunnel

/-- The two address families. -/
inductive Family
  | v4
  | v6
  deriving DecidableEq, Repr

/-- The number of bits of an address of the family. -/
def Family.width : Family → ℕ
  | .v4 => 32
  | .v6 => 128

/-- `std::net::IpAddr`. -/
inductive IpAddr
  | v4 (a : BitVec 32)
  | v6 (a : BitVec 128)
  deriving DecidableEq, Repr

/-- `std::net::SocketAddr`; the port is a `u16`. -/
structure SocketAddr where
  ip : IpAddr
  port : BitVec 16
  deriving DecidableEq, Repr

namespace IpAddr

/-- The dotted address `a.b.c.d`. -/
def ofOctets (a b c d : BitVec 8) : IpAddr := .v4 (a ++ b ++ c ++ d)

def family : IpAddr → Family
  | .v4 _ => .v4
  | .v6 _ => .v6

def isIpv4 : IpAddr → Bool
  | .v4 _ => true
  | .v6 _ => false

def isIpv6 : IpAddr → Bool
  | .v4 _ => false
  | .v6 _ => true

/-- The bits of an address, the most significant first. -/
def bits : IpAddr → List Bool
  | .v4 a => (List.range 32).map a.getMsbD
  | .v6 a => (List.range 128).map a.getMsbD

@[simp] theorem length_bits (a : IpAddr) : a.bits.length = a.family.width := by
  cases a <;> simp [bits, family, Family.width]

theorem getMsbD_map_injective {w : ℕ} {a b : BitVec w}
    (h : (List.range w).map a.getMsbD = (List.range w).map b.getMsbD) : a = b := by
  refine BitVec.eq_of_getMsbD_eq fun i hi => ?_
  exact List.map_inj_left.1 h i (List.mem_range.2 hi)

/-- Two addresses of one family with the same bits are the same address. -/
theorem eq_of_bits {a b : IpAddr} (hf : a.family = b.family) (h : a.bits = b.bits) : a = b := by
  cases a <;> cases b <;> simp only [family, reduceCtorEq] at hf
  · rw [getMsbD_map_injective h]
  · rw [getMsbD_map_injective h]

/-- The first bit of an address is one of the two halves' bits. -/
theorem exists_bits_cons (a : IpAddr) : ∃ b w, a.bits = b :: w := by
  rcases h : a.bits with _ | ⟨b, w⟩
  · have hlen := a.length_bits
    rw [h] at hlen
    cases a <;> simp [family, Family.width] at hlen
  · exact ⟨b, w, rfl⟩

end IpAddr

/-- The destination of a route: every address of the family whose bits start with `bits`. -/
structure Dest where
  family : Family
  bits : List Bool
  deriving DecidableEq, Repr

/-- The destination covers the address. -/
def Dest.Covers (d : Dest) (a : IpAddr) : Prop := d.family = a.family ∧ d.bits <+: a.bits

instance (d : Dest) (a : IpAddr) : Decidable (d.Covers a) :=
  inferInstanceAs (Decidable (_ ∧ _))

/-- The destination of one address alone. -/
def IpAddr.host (a : IpAddr) : Dest := ⟨a.family, a.bits⟩

/-- The destination of every address of a family: the default route's. -/
def Family.default (f : Family) : Dest := ⟨f, []⟩

/-- A destination as long as an address covers no other address. -/
theorem IpAddr.host_covers_iff {a b : IpAddr} : a.host.Covers b ↔ a = b := by
  constructor
  · rintro ⟨hf, hbits⟩
    have hlen : a.bits.length = b.bits.length := by
      rw [a.length_bits, b.length_bits]
      exact congrArg Family.width hf
    exact IpAddr.eq_of_bits hf (hbits.eq_of_length hlen)
  · rintro rfl
    exact ⟨rfl, List.prefix_rfl⟩

/-- `ipnet::IpNet`: an address with a length that its family allows. The address is the one that
was written, host bits and all. -/
structure IpNet where
  addr : IpAddr
  prefixLen : ℕ
  len_le : prefixLen ≤ addr.family.width
  deriving DecidableEq, Repr

namespace IpNet

/-- The network, its host bits masked away. -/
def dest (n : IpNet) : Dest := ⟨n.addr.family, n.addr.bits.take n.prefixLen⟩

/-- `IpNet::contains` for an address. -/
def contains (n : IpNet) (a : IpAddr) : Bool :=
  decide (n.addr.family = a.family) && (n.addr.bits.take n.prefixLen).isPrefixOf a.bits

theorem contains_iff {n : IpNet} {a : IpAddr} : n.contains a = true ↔ n.dest.Covers a := by
  simp [contains, Dest.Covers, dest]

@[simp] theorem length_dest_bits (n : IpNet) : n.dest.bits.length = n.prefixLen := by
  simp [dest, n.len_le]

/-- The network of one address alone, which prints as the address with `/32` or `/128`. -/
def host (a : IpAddr) : IpNet := ⟨a, a.family.width, le_rfl⟩

@[simp] theorem dest_host (a : IpAddr) : (host a).dest = a.host := by
  simp only [host, dest, IpAddr.host, Dest.mk.injEq, true_and]
  exact List.take_of_length_le a.length_bits.le

end IpNet

end LiosTunnel
