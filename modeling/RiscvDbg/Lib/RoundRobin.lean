import Mathlib.Data.List.Basic
import Mathlib.Order.Basic

/-!
# Rotating priority

A round-robin choice among `n` requesters that starts its search at a pointer, and the pointer that
moves behind whoever was chosen.

* `dist` — how far a requester is from the pointer, going up and around.
* `pick` — the first requester from the pointer on; `pick_spec` says it is the nearest one.
* `next` — the pointer after a choice.
* `dist_lt_of_picked`, `dist_lt_next` — the requester just chosen is the farthest of all, and a nearer one
  stays nearer until it is chosen itself.
* `Run.picked_between` — **between two choices of one requester, any other that keeps asking is chosen.**
-/

set_option autoImplicit false

namespace RoundRobin

variable {n : Nat}

/-- The distance of `k` from the pointer `r`. -/
def dist (n r k : Nat) : Nat := if r ≤ k then k - r else n + k - r

/-- The requester `i` places from the pointer. -/
def place (n r i : Nat) : Nat := (r + i) % n

/-- The first requester from the pointer on. -/
def pick (n r : Nat) (req : Nat → Bool) : Option Nat := ((List.range n).map (place n r)).find? req

/-- The pointer after a choice. -/
def next (n r : Nat) : Option Nat → Nat
  | none => r
  | some w => if w = n - 1 then 0 else w + 1

theorem place_eq {r i : Nat} (hr : r < n) (hi : i < n) :
    place n r i = if r + i < n then r + i else r + i - n := by
  unfold place
  split_ifs with h
  · exact Nat.mod_eq_of_lt h
  · rw [Nat.mod_eq_sub_mod (by omega), Nat.mod_eq_of_lt (by omega)]

theorem place_lt {r i : Nat} (hn : 0 < n) : place n r i < n := Nat.mod_lt _ hn

theorem dist_lt {r k : Nat} (hr : r < n) (hk : k < n) : dist n r k < n := by
  unfold dist
  split_ifs <;> omega

theorem dist_place {r i : Nat} (hr : r < n) (hi : i < n) : dist n r (place n r i) = i := by
  rw [place_eq hr hi]
  unfold dist
  split_ifs <;> omega

theorem place_dist {r k : Nat} (hr : r < n) (hk : k < n) : place n r (dist n r k) = k := by
  rw [place_eq hr (dist_lt hr hk)]
  unfold dist
  split_ifs <;> omega

theorem eq_of_dist_eq {r j k : Nat} (hr : r < n) (hj : j < n) (hk : k < n) (h : dist n r j = dist n r k) :
    j = k := by
  rw [← place_dist hr hj, h, place_dist hr hk]

/-- The choice is the nearest requester. -/
theorem pick_spec {r w : Nat} {req : Nat → Bool} (hr : r < n) (h : pick n r req = some w) :
    w < n ∧ req w = true ∧ ∀ k < n, req k = true → dist n r w ≤ dist n r k := by
  obtain ⟨hreq, before, after, hsplit, hnone⟩ := List.find?_eq_some_iff_append.mp h
  have hw : w < n := by
    obtain ⟨i, hi, rfl⟩ := List.mem_map.mp (List.mem_of_find?_eq_some h)
    exact place_lt (by omega)
  refine ⟨hw, hreq, ?_⟩
  intro k hk hreqk
  -- the requesters before the choice are the places below `before.length`
  have hlen : before.length < n := by
    have hl := congrArg List.length hsplit
    simp only [List.length_map, List.length_range, List.length_append, List.length_cons] at hl
    omega
  have hget : ∀ i < n, ((List.range n).map (place n r))[i]? = some (place n r i) := by
    intro i hi
    rw [List.getElem?_map, List.getElem?_range hi]
    rfl
  have hplace : place n r before.length = w := by
    have hi := hget before.length hlen
    rw [hsplit, List.getElem?_append_right (Nat.le_refl _), Nat.sub_self] at hi
    exact (Option.some.inj hi).symm
  have hdw : dist n r w = before.length := by rw [← hplace, dist_place hr hlen]
  rw [hdw]
  by_contra hlt
  have hdk : dist n r k < before.length := by omega
  have hi := hget (dist n r k) (by omega)
  rw [hsplit, List.getElem?_append_left hdk, place_dist hr hk] at hi
  have hno := hnone k (List.mem_of_getElem? hi)
  rw [hreqk] at hno
  exact absurd hno (by decide)

theorem pick_eq_none_iff {r : Nat} {req : Nat → Bool} (hr : r < n) :
    pick n r req = none ↔ ∀ k < n, req k = false := by
  unfold pick
  rw [List.find?_eq_none]
  constructor
  · intro h k hk
    have hmem : k ∈ (List.range n).map (place n r) :=
      List.mem_map.mpr ⟨dist n r k, List.mem_range.mpr (dist_lt hr hk), place_dist hr hk⟩
    simpa using h k hmem
  · intro h k hk
    obtain ⟨i, -, rfl⟩ := List.mem_map.mp hk
    simp [h (place n r i) (place_lt (by omega))]

theorem next_lt {r : Nat} {req : Nat → Bool} (hr : r < n) : next n r (pick n r req) < n := by
  cases h : pick n r req with
  | none => exact hr
  | some w =>
    have hw := (pick_spec hr h).1
    unfold next
    dsimp only
    split_ifs <;> omega

/-- Behind the pointer, whoever was chosen is the farthest. -/
theorem dist_lt_of_picked {r j k : Nat} (hj : j < n) (hk : k < n) (hne : j ≠ k) :
    dist n (next n r (some k)) j < dist n (next n r (some k)) k := by
  unfold next dist
  dsimp only
  split_ifs <;> omega

/-- A requester nearer than `k` is chosen before it, or stays nearer. -/
theorem dist_lt_next {r j k : Nat} {req : Nat → Bool} (hr : r < n) (hj : j < n) (hk : k < n)
    (hlt : dist n r j < dist n r k) (hreq : req j = true) (hnot : pick n r req ≠ some j) :
    pick n r req ≠ some k ∧ dist n (next n r (pick n r req)) j < dist n (next n r (pick n r req)) k := by
  cases h : pick n r req with
  | none => exact absurd hreq (by rw [(pick_eq_none_iff hr).mp h j hj]; decide)
  | some w =>
    obtain ⟨hw, -, hnear⟩ := pick_spec hr h
    have hwj := hnear j hj hreq
    have hne : w ≠ j := fun heq => hnot (heq ▸ h)
    have hlt' : dist n r w < dist n r j := by
      rcases Nat.lt_or_eq_of_le hwj with hlt' | heq
      · exact hlt'
      · exact absurd (eq_of_dist_eq hr hw hj heq) hne
    refine ⟨fun heq => ?_, ?_⟩
    · rw [Option.some.inj heq] at hlt'
      omega
    · unfold next dist at *
      dsimp only
      split_ifs at * <;> omega

/-! ## Runs -/

/-- A run: the pointer and the requests of every round. -/
structure Run (n : Nat) where
  pointer : Nat → Nat
  req : Nat → Nat → Bool
  pointer_lt : pointer 0 < n
  step : ∀ t, pointer (t + 1) = next n (pointer t) (pick n (pointer t) (req t))

namespace Run

variable (run : Run n)

/-- Who is chosen in round `t`. -/
def picked (t : Nat) : Option Nat := pick n (run.pointer t) (run.req t)

theorem lt (t : Nat) : run.pointer t < n := by
  induction t with
  | zero => exact run.pointer_lt
  | succ t ih =>
    rw [run.step]
    exact next_lt ih

/-- Between two choices of `k`, any other requester that keeps asking is chosen. -/
theorem picked_between {t₁ t₂ j k : Nat} (ht : t₁ < t₂) (hj : j < n) (hne : j ≠ k)
    (h₁ : run.picked t₁ = some k) (h₂ : run.picked t₂ = some k)
    (hreq : ∀ t, t₁ < t → t ≤ t₂ → run.req t j = true) :
    ∃ t, t₁ < t ∧ t < t₂ ∧ run.picked t = some j := by
  have hk : k < n := (pick_spec (run.lt t₁) h₁).1
  by_contra hno
  -- as long as `j` is not chosen it stays nearer than `k`
  have hnear : ∀ d, t₁ + 1 + d ≤ t₂ → dist n (run.pointer (t₁ + 1 + d)) j < dist n (run.pointer (t₁ + 1 + d)) k := by
    intro d
    induction d with
    | zero =>
      intro _
      have hstep := run.step t₁
      rw [show pick n (run.pointer t₁) (run.req t₁) = some k from h₁] at hstep
      rw [Nat.add_zero, hstep]
      exact dist_lt_of_picked hj hk hne
    | succ d ih =>
      intro hle
      have hstep := run.step (t₁ + 1 + d)
      rw [show t₁ + 1 + (d + 1) = t₁ + 1 + d + 1 by omega, hstep]
      refine (dist_lt_next (run.lt _) hj hk (ih (by omega)) (hreq _ (by omega) (by omega)) ?_).2
      intro hpick
      exact hno ⟨t₁ + 1 + d, by omega, by omega, hpick⟩
  have hlast := hnear (t₂ - t₁ - 1) (by omega)
  rw [show t₁ + 1 + (t₂ - t₁ - 1) = t₂ by omega] at hlast
  obtain ⟨-, -, hmin⟩ := pick_spec (run.lt t₂) h₂
  have hle := hmin j hj (hreq t₂ ht (Nat.le_refl t₂))
  omega

end Run

end RoundRobin
