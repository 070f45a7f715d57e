import LiosTunnel.Lib.Runs
import LiosTunnel.Net.Addr
import LiosTunnel.Net.LocalStream
import Mathlib.Data.List.AList

/-!
# Sockets, as the stack uses them

smoltcp is not part of the repository, so its TCP socket is a parameter: a type of sockets with the
operations `core.rs` calls. What a proof relies on is a named assumption where it is used. A
`SocketSet` is smoltcp's list of slots: a socket keeps its handle, and a new one takes the first
empty slot. The stack's own maps from handles are `HandleMap`s.

* `TcpState`, `TcpApi`: the states and the operations of a socket.
* `SocketSet`: the slots, with `add`, `get`, `put` and `remove`.
* `HandleMap`: a `HashMap` keyed by `SocketHandle`.
-/

namespace LiosTunnel.Stack

open Runs

/-- `smoltcp::socket::tcp::State`. -/
inductive TcpState
  | closed
  | listen
  | synSent
  | synReceived
  | established
  | finWait1
  | finWait2
  | closeWait
  | closing
  | lastAck
  | timeWait
  deriving DecidableEq, Repr

/-- States past the handshake. -/
def TcpState.connected : TcpState → Bool
  | .listen | .synSent | .synReceived => false
  | _ => true

/-- States after the local side has sent its FIN. -/
def TcpState.finSent : TcpState → Bool
  | .finWait1 | .finWait2 | .closing | .lastAck | .timeWait => true
  | _ => false

/-- States in which `close` sends a FIN. -/
def TcpState.finishes : TcpState → Bool
  | .synReceived | .established | .closeWait => true
  | _ => false

/-- The operations of `smoltcp::socket::tcp::Socket` that the stack calls. -/
structure TcpApi (S : Type) where
  /-- `Socket::new` with two buffers of the given size. -/
  new : ℕ → S
  /-- `listen`; `none` is an error. -/
  listen : S → SocketAddr → Option S
  /-- `set_timeout`, in microseconds. -/
  setTimeout : S → Option ℕ → S
  state : S → TcpState
  isActive : S → Bool
  canSend : S → Bool
  maySend : S → Bool
  canRecv : S → Bool
  mayRecv : S → Bool
  /-- `send_slice`: how many bytes were taken; `none` is an error. -/
  sendSlice : S → Bytes → Option (ℕ × S)
  /-- What `recv` gives its closure; `none` is an error. -/
  recvData : S → Option Bytes
  /-- `recv`, after its closure has taken so many bytes. -/
  recvAdvance : S → ℕ → S
  close : S → S
  abort : S → S
  /-- `send_queue`: the bytes accepted and not acknowledged. -/
  sendQueue : S → ℕ
  remoteEndpoint : S → Option SocketAddr
  localEndpoint : S → Option SocketAddr
  /-- The content of the receive buffer. The stack does not look at it; statements do. -/
  recvBuffer : S → Bytes

/-! ## Socket sets -/

/-- `SocketSet`: its slots, a handle being an index. -/
abbrev SocketSet (S : Type) := List (Option S)

namespace SocketSet

variable {S : Type}

/-- The socket of a handle; `get` and `get_mut` panic where there is none. -/
def get (set : SocketSet S) (h : ℕ) : Option S := (set[h]?).join

/-- The socket of a handle replaced, as through `get_mut`. -/
def put (set : SocketSet S) (h : ℕ) (sk : S) : SocketSet S := set.set h (some sk)

/-- `SocketSet::remove`. -/
def remove (set : SocketSet S) (h : ℕ) : SocketSet S := set.set h none

/-- The handle the next socket gets. -/
def firstFree : SocketSet S → ℕ
  | [] => 0
  | none :: _ => 0
  | some _ :: set => firstFree set + 1

/-- `SocketSet::add`, which fills the slot `firstFree`. -/
def add : SocketSet S → S → SocketSet S
  | [], sk => [some sk]
  | none :: set, sk => some sk :: set
  | some sk' :: set, sk => some sk' :: add set sk

@[simp] theorem get_nil (h : ℕ) : get ([] : SocketSet S) h = none := by simp [get]

@[simp] theorem get_cons_zero (o : Option S) (set : SocketSet S) : get (o :: set) 0 = o := by
  simp [get]

@[simp] theorem get_cons_succ (o : Option S) (set : SocketSet S) (h : ℕ) :
    get (o :: set) (h + 1) = get set h := by simp [get]

theorem get_firstFree (set : SocketSet S) : set.get set.firstFree = none := by
  induction set with
  | nil => rfl
  | cons o set ih =>
    cases o with
    | none => rfl
    | some sk => rw [firstFree, get_cons_succ, ih]

theorem get_add (set : SocketSet S) (sk : S) (h : ℕ) :
    (set.add sk).get h = if h = set.firstFree then some sk else set.get h := by
  induction set generalizing h with
  | nil => cases h <;> simp [add, firstFree]
  | cons o set ih => cases o <;> cases h <;> simp [add, firstFree, ih]

theorem lt_length_of_get {set : SocketSet S} {h : ℕ} {sk : S} (hg : set.get h = some sk) :
    h < set.length := by
  by_contra hle
  simp [get, List.getElem?_eq_none (not_lt.1 hle)] at hg

/-- What is claimed of all sockets can be decided, as they are finitely many. -/
instance (set : SocketSet S) (Q : ℕ → S → Prop) [∀ h sk, Decidable (Q h sk)] :
    Decidable (∀ h sk, set.get h = some sk → Q h sk) :=
  decidable_of_iff (∀ h ∈ List.range set.length, ∀ sk, set.get h = some sk → Q h sk)
    ⟨fun hall h sk hg => hall h (List.mem_range.2 (lt_length_of_get hg)) sk hg,
      fun hall h _ => hall h⟩

theorem get_put {set : SocketSet S} {h : ℕ} {sk : S} (hg : set.get h = some sk) (h' : ℕ)
    (sk' : S) : (set.put h sk').get h' = if h' = h then some sk' else set.get h' := by
  have hlt := lt_length_of_get hg
  by_cases heq : h' = h
  · subst heq
    simp [put, get, hlt]
  · simp [put, get, heq, List.getElem?_set_ne (Ne.symm heq)]

theorem get_remove (set : SocketSet S) (h h' : ℕ) :
    (set.remove h).get h' = if h' = h then none else set.get h' := by
  by_cases heq : h' = h
  · subst heq
    by_cases hlt : h' < set.length
    · simp [remove, get, hlt]
    · have hnone : (List.set set h' none)[h']? = none :=
        List.getElem?_eq_none (by simpa using hlt)
      simp [remove, get, hnone]
  · simp [remove, get, heq, List.getElem?_set_ne (Ne.symm heq)]

/-- How many sockets meet a condition. -/
def count (q : S → Bool) (set : SocketSet S) : ℕ := set.countP fun o => o.any q

theorem count_cons (q : S → Bool) (o : Option S) (set : SocketSet S) :
    count q (o :: set) = count q set + if o.any q then 1 else 0 := by
  rw [count, List.countP_cons]
  rfl

theorem count_add (q : S → Bool) (set : SocketSet S) (sk : S) :
    count q (set.add sk) = count q set + if q sk then 1 else 0 := by
  induction set with
  | nil => exact count_cons q (some sk) []
  | cons o set ih =>
    cases o with
    | none => exact count_cons q (some sk) set
    | some sk' =>
      rw [add, count_cons, count_cons, ih]
      omega

/-- Where every socket that meets the condition goes on meeting it, none is lost. -/
theorem count_le_of_forall {q : S → Bool} {set set' : SocketSet S}
    (hall : ∀ h sk, set.get h = some sk → q sk = true →
      ∃ sk', set'.get h = some sk' ∧ q sk' = true) :
    count q set ≤ count q set' := by
  induction set generalizing set' with
  | nil => exact Nat.zero_le _
  | cons o set ih =>
    cases set' with
    | nil =>
      have htail : count q set ≤ count q [] := ih fun h sk hg hq => by
        obtain ⟨sk', hg', -⟩ := hall (h + 1) sk (by simpa using hg) hq
        simp at hg'
      have hhead : o.any q = false := by
        by_contra hany
        obtain ⟨sk, ho, hq⟩ := (Option.any_eq_true _ _).1 (by simpa using hany)
        obtain ⟨sk', hg', -⟩ := hall 0 sk (by simpa using ho) hq
        simp at hg'
      rw [count_cons, hhead]
      exact htail
    | cons o' set' =>
      have htail : count q set ≤ count q set' := ih fun h sk hg hq => by
        obtain ⟨sk', hg', hq'⟩ := hall (h + 1) sk (by simpa using hg) hq
        exact ⟨sk', by simpa using hg', hq'⟩
      have hhead : o.any q = true → o'.any q = true := by
        intro hany
        obtain ⟨sk, ho, hq⟩ := (Option.any_eq_true _ _).1 hany
        obtain ⟨sk', hg', hq'⟩ := hall 0 sk (by simpa using ho) hq
        exact (Option.any_eq_true _ _).2 ⟨sk', by simpa using hg', hq'⟩
      rw [count_cons, count_cons]
      cases ho : o.any q with
      | false =>
        simp only [Bool.false_eq_true, if_false]
        omega
      | true =>
        rw [hhead ho]
        omega

end SocketSet

/-! ## Maps from handles -/

/-- `HashMap<SocketHandle, V>`. Its order is arbitrary in the source. -/
abbrev HandleMap (V : Type) := AList fun _ : ℕ => V

namespace HandleMap

variable {V : Type}

/-- Maps are compared by their entries, which evaluates. -/
instance [DecidableEq V] : DecidableEq (HandleMap V) := fun m m' =>
  decidable_of_iff (m.entries = m'.entries) AList.ext_iff.symm

/-- Every value replaced, as through `iter_mut`. -/
def mapVal (f : ℕ → V → V) (m : HandleMap V) : HandleMap V :=
  ⟨m.entries.map fun e => ⟨e.1, f e.1 e.2⟩, m.nodupKeys.map₂ f⟩

/-- `len`. -/
def len (m : HandleMap V) : ℕ := m.entries.length

@[simp] theorem lookup_mapVal (f : ℕ → V → V) (m : HandleMap V) (h : ℕ) :
    (mapVal f m).lookup h = (m.lookup h).map (f h) := by
  exact List.dlookup_map₂ h

@[simp] theorem mem_mapVal {f : ℕ → V → V} {m : HandleMap V} {h : ℕ} :
    h ∈ mapVal f m ↔ h ∈ m := by
  rw [← AList.lookup_isSome, ← AList.lookup_isSome, lookup_mapVal, Option.isSome_map]

theorem lookup_erase_eq_some {m : HandleMap V} {h h' : ℕ} {v : V} :
    (m.erase h).lookup h' = some v ↔ h' ≠ h ∧ m.lookup h' = some v := by
  by_cases heq : h' = h
  · subst heq
    simp
  · simp [AList.lookup_erase_ne heq, heq]

/-- An entry of a map with a new handle is the new one or an old one. -/
theorem lookup_insert_eq_some {m : HandleMap V} {h : ℕ} (hm : h ∉ m) {h' : ℕ} {v v' : V} :
    (m.insert h v).lookup h' = some v' ↔ h' = h ∧ v' = v ∨ m.lookup h' = some v' := by
  by_cases heq : h' = h
  · subst heq
    simp [AList.lookup_eq_none.2 hm, eq_comm]
  · simp [AList.lookup_insert_ne heq, heq]

theorem len_insert {m : HandleMap V} {h : ℕ} (hm : h ∉ m) (v : V) :
    len (m.insert h v) = len m + 1 := by
  rw [len, AList.entries_insert_of_notMem hm, List.length_cons, len]

theorem len_erase_le (m : HandleMap V) (h : ℕ) : len (m.erase h) ≤ len m := by
  have hkeys := congrArg List.length (AList.keys_erase h m)
  have hle := List.length_erase_le (a := h) (l := m.keys)
  simp only [AList.keys, List.keys, List.length_map] at hkeys hle
  simp only [len]
  omega

end HandleMap

end LiosTunnel.Stack
