import Mathlib.Logic.Function.Basic
import Mathlib.Data.List.Basic
import Mathlib.Tactic

/-!
# Trust on first use

A book keeps what is recorded under each name. Something presented under a name is accepted if it is
recorded there, or if nothing at all is, and then it becomes the one entry; otherwise it is refused
and the book stays as it is.

* `Step`, `Trace`: one presentation with its answer, and a list of them.
* `Trace.pinned`: a name that has entries keeps exactly these, and accepts nothing else.
-/

namespace FirstUse

variable {κ α : Type*} [DecidableEq κ]

/-- Something presented under a name, and whether it was accepted. -/
structure Presented (κ α : Type*) where
  name : κ
  item : α
  accepted : Bool

/-- One presentation. -/
inductive Step (b : κ → List α) : Presented κ α → (κ → List α) → Prop
  | known {k : κ} {x : α} (h : x ∈ b k) : Step b ⟨k, x, true⟩ b
  | first {k : κ} {x : α} (h : b k = []) : Step b ⟨k, x, true⟩ (Function.update b k [x])
  | refused {k : κ} {x : α} : Step b ⟨k, x, false⟩ b

/-- Presentations one after another. -/
inductive Trace : (κ → List α) → List (Presented κ α) → (κ → List α) → Prop
  | nil {b : κ → List α} : Trace b [] b
  | cons {b b₁ b' : κ → List α} {e : Presented κ α} {es : List (Presented κ α)} (h : Step b e b₁)
    (hs : Trace b₁ es b') : Trace b (e :: es) b'

namespace Step

variable {b b' : κ → List α} {e : Presented κ α}

/-- A presentation under one name is nothing to the others. -/
theorem frame (h : Step b e b') {k : κ} (hk : k ≠ e.name) : b' k = b k := by
  cases h with
  | known => rfl
  | first => exact Function.update_of_ne hk _ _
  | refused => rfl

theorem eq_of_ne_nil (h : Step b e b') {k : κ} (hk : b k ≠ []) : b' k = b k := by
  by_cases hname : k = e.name
  · subst hname
    cases h with
    | known => rfl
    | first hnil => exact absurd hnil hk
    | refused => rfl
  · exact h.frame hname

theorem mem_of_accepted (h : Step b e b') (he : e.accepted = true) (hne : b e.name ≠ []) :
    e.item ∈ b e.name := by
  cases h with
  | known hmem => exact hmem
  | first hnil => exact absurd hnil hne
  | refused => cases he

end Step

/-- **What is recorded stays**: a name with entries keeps them through every list of presentations,
and nothing is accepted there that is not among them. -/
theorem Trace.pinned {b b' : κ → List α} {es : List (Presented κ α)} (h : Trace b es b') {k : κ}
    (hk : b k ≠ []) :
    b' k = b k ∧ ∀ e ∈ es, e.name = k → e.accepted = true → e.item ∈ b k := by
  induction h with
  | nil => exact ⟨rfl, fun e he => (nomatch he)⟩
  | @cons b b₁ b' e es hstep _ ih =>
    have hkeep : b₁ k = b k := hstep.eq_of_ne_nil hk
    obtain ⟨hend, hrest⟩ := ih (hkeep ▸ hk)
    refine ⟨hend.trans hkeep, fun e' he' hname hacc => ?_⟩
    obtain rfl | he' := List.mem_cons.1 he'
    · subst hname
      exact hstep.mem_of_accepted hacc hk
    · exact hkeep ▸ hrest e' he' hname hacc

end FirstUse
