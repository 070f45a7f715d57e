import LiosTunnel.Stack.Core

/-!
# Polls that deliver packet by packet

`Interface::poll` hands each packet to the first socket of the set that accepts it; before each
packet, and after the last, it lets every socket act on its timers. A packet no socket accepts is
answered without one.

* `Ingress`: what a socket accepts and what a packet does to it.
* `Ingress.deliver`, `Ingress.pass`, `Ingress.poll`: one packet, the queue, and the `Poll`.
* `Evolves`, `evolves_pass`: what a packet and a timer may do to a socket, the poll may.
-/

namespace LiosTunnel.Stack

variable {S : Type}

/-- Every slot keeps its socket, changed by `R`. -/
def Evolves (R : S → S → Prop) (set set' : SocketSet S) : Prop :=
  ∀ h, Option.Rel R (set.get h) (set'.get h)

namespace Evolves

variable {R : S → S → Prop} {set set' set'' : SocketSet S}

theorem refl (hR : ∀ a, R a a) (set : SocketSet S) : Evolves R set set := by
  intro h
  cases set.get h with
  | none => exact .none
  | some a => exact .some (hR a)

theorem trans (hR : ∀ a b c, R a b → R b c → R a c) (h₁ : Evolves R set set')
    (h₂ : Evolves R set' set'') : Evolves R set set'' := by
  intro h
  have h₁ := h₁ h
  have h₂ := h₂ h
  revert h₁ h₂
  generalize set.get h = x, set'.get h = y, set''.get h = z
  rintro (hab | -) (hbc | -)
  · exact .some (hR _ _ _ hab hbc)
  · exact .none

theorem isSome_get (h : Evolves R set set') (k : ℕ) :
    (set'.get k).isSome = (set.get k).isSome := by
  have h := h k
  revert h
  generalize set.get k = x, set'.get k = y
  rintro (- | -) <;> rfl

theorem get_some (h : Evolves R set set') {k : ℕ} {a : S} (hk : set.get k = some a) :
    ∃ b, set'.get k = some b ∧ R a b := by
  have h := h k
  rw [hk] at h
  generalize hb : set'.get k = y at h
  cases h with
  | some hab => exact ⟨_, rfl, hab⟩

theorem cons {o o' : Option S} (ho : Option.Rel R o o') (h : Evolves R set set') :
    Evolves R (o :: set) (o' :: set') := by
  intro k
  cases k with
  | zero => simpa using ho
  | succ k => simpa using h k

end Evolves

/-- How the sockets meet the packets. -/
structure Ingress (S : Type) where
  /-- `accepts`. -/
  accepts : S → Bytes → Bool
  /-- `process`. -/
  process : S → Bytes → S

namespace Ingress

variable (i : Ingress S)

/-- A packet goes to the first socket that accepts it. -/
def deliver (packet : Bytes) : SocketSet S → SocketSet S
  | [] => []
  | none :: set => none :: deliver packet set
  | some sk :: set =>
    if i.accepts sk packet then some (i.process sk packet) :: set
    else some sk :: deliver packet set

/-- Every socket acts on its timers. -/
def tickAll (f : S → S) (set : SocketSet S) : SocketSet S := set.map (Option.map f)

/-- The packets in order; `tick` says what the timers do before each of them and after the last. -/
def pass : List Bytes → (ℕ → S → S) → SocketSet S → SocketSet S
  | [], tick, set => tickAll (tick 0) set
  | packet :: packets, tick, set =>
    pass packets (fun n => tick (n + 1)) (i.deliver packet (tickAll (tick 0) set))

variable {i} {R : S → S → Prop}

theorem get_tickAll (f : S → S) (set : SocketSet S) (h : ℕ) :
    (tickAll f set).get h = (set.get h).map f := by
  simp only [tickAll, SocketSet.get, List.getElem?_map]
  cases set[h]? <;> rfl

theorem evolves_tickAll {f : S → S} (hf : ∀ sk, R sk (f sk)) (set : SocketSet S) :
    Evolves R set (tickAll f set) := by
  intro h
  rw [get_tickAll]
  cases set.get h with
  | none => exact .none
  | some sk => exact .some (hf sk)

theorem evolves_deliver {packet : Bytes} (hrefl : ∀ a, R a a)
    (hprocess : ∀ sk, i.accepts sk packet → R sk (i.process sk packet)) (set : SocketSet S) :
    Evolves R set (i.deliver packet set) := by
  induction set with
  | nil => exact .refl hrefl []
  | cons o set ih =>
    cases o with
    | none => exact .cons .none ih
    | some sk =>
      rw [deliver]
      split
      · exact .cons (.some (hprocess sk ‹_›)) (.refl hrefl set)
      · exact .cons (.some (hrefl sk)) ih

/-- **What a packet and a timer may do to a socket, a pass may.** -/
theorem evolves_pass (hrefl : ∀ a, R a a) (htrans : ∀ a b c, R a b → R b c → R a c)
    {packets : List Bytes} {tick : ℕ → S → S} (htick : ∀ n sk, R sk (tick n sk))
    (hprocess : ∀ packet ∈ packets, ∀ sk, i.accepts sk packet → R sk (i.process sk packet))
    (set : SocketSet S) : Evolves R set (i.pass packets tick set) := by
  induction packets generalizing tick set with
  | nil => exact evolves_tickAll (htick 0) set
  | cons packet packets ih =>
    refine .trans htrans (evolves_tickAll (htick 0) set) (.trans htrans ?_ (ih ?_ ?_ _))
    · exact evolves_deliver hrefl (hprocess packet List.mem_cons_self) _
    · exact fun n => htick (n + 1)
    · exact fun p hp => hprocess p (List.mem_cons_of_mem _ hp)

/-- The poll, transmitting `tx`. -/
def poll (i : Ingress S) (tick : ℕ → S → S) (tx : List Bytes) : Poll S where
  run rx set := (i.pass rx tick set, tx)
  isSome_get _ set h :=
    (evolves_pass (R := fun _ _ => True) (fun _ => trivial) (fun _ _ _ _ _ => trivial)
      (fun _ _ => trivial) (fun _ _ _ _ => trivial) set).isSome_get h

end Ingress

end LiosTunnel.Stack
