import Mathlib.Data.List.Basic

/-!
# Programs that may raise

A program that takes a state and returns another, or raises, is a function into `Except`.  `Ends P r` says
that it does not raise and that the state it returns has the property `P`; the rules follow the way such
programs are put together.

* `Ends.ok`, `Ends.bind`, `Ends.ite` — one program after the other, and either of two.
* `Ends.foldlM` — a loop over a list.
-/

set_option autoImplicit false

namespace Outcomes

universe u

variable {ε ι : Type*} {σ τ : Type u} {P : σ → Prop} {Q : τ → Prop}

/-- The program returns a state with the property. -/
def Ends (P : σ → Prop) (r : Except ε σ) : Prop := ∃ s, r = .ok s ∧ P s

theorem Ends.ok {s : σ} (h : P s) : Ends P (.ok s : Except ε σ) := ⟨s, rfl, h⟩

theorem Ends.bind {r : Except ε σ} {f : σ → Except ε τ} (hr : Ends P r) (hf : ∀ s, P s → Ends Q (f s)) :
    Ends Q (r >>= f) := by
  obtain ⟨s, rfl, hs⟩ := hr
  exact hf s hs

theorem Ends.ite {c : Prop} [Decidable c] {r r' : Except ε σ} (hpos : c → Ends P r) (hneg : ¬c → Ends P r') :
    Ends P (if c then r else r') := by
  split_ifs with hc
  · exact hpos hc
  · exact hneg hc

/-- **Loop rule.**  A property that every round of a loop keeps without raising holds at its end. -/
theorem Ends.foldlM {step : σ → ι → Except ε σ} {is : List ι} (hstep : ∀ s, ∀ i ∈ is, P s → Ends P (step s i)) :
    ∀ s, P s → Ends P (is.foldlM step s) := by
  induction is with
  | nil => intro s hs; exact .ok hs
  | cons i is ih =>
    intro s hs
    rw [List.foldlM_cons]
    refine Ends.bind (hstep s i List.mem_cons_self hs) fun s' hs' => ?_
    exact ih (fun s j hj => hstep s j (List.mem_cons_of_mem _ hj)) s' hs'

end Outcomes
