import RiscvDbg.Lib.Runs

/-!
# One-place registers

A register that holds at most one value: an input may put a value, or clear it, or leave it.  The
outstanding request of a pipelined protocol is kept in such a register.

* `Slot.step` — one input.
* `Slot.HeldAt` — the value put by one input is still there when another one comes.
* `Slot.run_take_iff` — the register holds a value exactly if it is held by that definition.
-/

set_option autoImplicit false

namespace Slot

variable {ι α : Type*}

/-- One input: it puts a value, clears the register or leaves it. -/
def step (put : ι → Option α) (clear : ι → Bool) (slot : Option α) (i : ι) : Option α :=
  match put i with
  | some v => some v
  | none => if clear i then none else slot

/-- Input number `j` puts `v`, and no input after it and before number `k` touches the register. -/
def HeldAt (put : ι → Option α) (clear : ι → Bool) (is : List ι) (j k : Nat) (v : α) : Prop :=
  j < k ∧ (∃ i, is[j]? = some i ∧ put i = some v) ∧
    ∀ l i, j < l → l < k → is[l]? = some i → put i = none ∧ clear i = false

variable {put : ι → Option α} {clear : ι → Bool} {is : List ι}

/-- The register holds the value of one input only. -/
theorem HeldAt.unique {j j' k : Nat} {v v' : α} (h : HeldAt put clear is j k v)
    (h' : HeldAt put clear is j' k v') : j = j' := by
  -- the later of the two inputs would have been seen to put nothing
  have key : ∀ {j j' : Nat} {v v' : α}, HeldAt put clear is j k v → HeldAt put clear is j' k v' →
      ¬ j < j' := by
    rintro j j' v v' ⟨-, -, hkeep⟩ ⟨hjk', ⟨i, hi, hput⟩, -⟩ hlt
    rw [(hkeep j' i hlt hjk' hi).1] at hput
    cases hput
  have h₁ := key h h'
  have h₂ := key h' h
  omega

theorem heldAt_succ {i : ι} {k : Nat} (hk : is[k]? = some i) (j : Nat) (v : α) :
    HeldAt put clear is j (k + 1) v ↔
      (j = k ∧ put i = some v) ∨ (HeldAt put clear is j k v ∧ put i = none ∧ clear i = false) := by
  constructor
  · rintro ⟨hlt, ⟨i', hi', hput⟩, hkeep⟩
    by_cases hjk : j = k
    · subst hjk
      rw [hk, Option.some.injEq] at hi'
      exact Or.inl ⟨rfl, hi' ▸ hput⟩
    · refine Or.inr ⟨⟨by omega, ⟨i', hi', hput⟩, ?_⟩, hkeep k i (by omega) (by omega) hk⟩
      intro l m hjl hlk hm
      exact hkeep l m hjl (by omega) hm
  · rintro (⟨rfl, hput⟩ | ⟨⟨hlt, hput, hkeep⟩, hkept⟩)
    · refine ⟨by omega, ⟨i, hk, hput⟩, ?_⟩
      intro l m hjl hlk
      omega
    · refine ⟨by omega, hput, ?_⟩
      intro l m hjl hlk hm
      by_cases hl : l = k
      · subst hl
        rw [hk, Option.some.injEq] at hm
        exact hm ▸ hkept
      · exact hkeep l m hjl (by omega) hm

/-- **The register follows the inputs.** -/
theorem run_take_iff (put : ι → Option α) (clear : ι → Bool) (is : List ι) :
    ∀ k, k ≤ is.length → ∀ v,
      (Runs.run (step put clear) none (is.take k) = some v ↔ ∃ j, HeldAt put clear is j k v) := by
  intro k
  induction k with
  | zero =>
    intro _ v
    refine iff_of_false nofun ?_
    rintro ⟨j, hlt, -⟩
    omega
  | succ k ih =>
    intro hk v
    obtain ⟨i, hi⟩ : ∃ i, is[k]? = some i := ⟨_, List.getElem?_eq_getElem (by omega)⟩
    have htake : is.take (k + 1) = is.take k ++ [i] := by rw [List.take_add_one, hi]; rfl
    rw [htake, Runs.run_concat, step]
    simp only [heldAt_succ hi]
    cases hput : put i with
    | some w =>
      rw [Option.some.injEq]
      constructor
      · rintro rfl
        exact ⟨k, Or.inl ⟨rfl, rfl⟩⟩
      · rintro ⟨j, (⟨-, hv⟩ | ⟨-, hno, -⟩)⟩
        · exact hv
        · cases hno
    | none =>
      cases hclear : clear i with
      | true =>
        rw [if_pos rfl]
        refine iff_of_false nofun ?_
        rintro ⟨j, (⟨-, hno⟩ | ⟨-, -, hno⟩)⟩ <;> cases hno
      | false =>
        rw [if_neg Bool.false_ne_true, ih (by omega) v]
        constructor
        · rintro ⟨j, h⟩
          exact ⟨j, Or.inr ⟨h, rfl, rfl⟩⟩
        · rintro ⟨j, (⟨-, hno⟩ | ⟨h, -⟩)⟩
          · cases hno
          · exact ⟨j, h⟩

end Slot
