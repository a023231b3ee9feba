import Mathlib.Data.List.Basic

/-!
# Cutting out nested blocks

A program that cuts the blocks between an opening and a closing bracket out of a text by counting brackets.

* `blocks` — the blocks of a text, up to a stop mark outside of all of them.
* `Balanced` — the brackets of a text close one another; counting them only adds the text to the block.
* `blocks_block` — **a block with a balanced body is cut out whole.**
-/

set_option autoImplicit false

namespace Blocks

variable {α : Type*} [DecidableEq α] (op cl stop : α)

/-- The blocks of a text, if `depth` brackets are open and `start` is what the block has so far. -/
def blocksFrom (depth : Int) (start : Option (List α)) : List α → List (List α)
  | [] => []
  | c :: cs =>
    if c = op then
      let start := if depth = 0 then some [] else start
      blocksFrom (depth + 1) (start.map (· ++ [c])) cs
    else if c = cl then
      match start with
      | some s =>
        if depth - 1 = 0 then (s ++ [c]) :: blocksFrom 0 none cs else blocksFrom (depth - 1) (some (s ++ [c])) cs
      | none => blocksFrom (depth - 1) none cs
    else if c = stop ∧ depth = 0 then []
    else blocksFrom depth (start.map (· ++ [c])) cs

/-- The blocks of a text. -/
def blocks (s : List α) : List (List α) := blocksFrom op cl stop 0 none s

/-- How many brackets are open after a text, if none is closed that was not opened. -/
def depthAfter (n : Nat) : List α → Option Nat
  | [] => some n
  | c :: cs =>
    if c = op then depthAfter (n + 1) cs
    else if c = cl then
      match n with
      | 0 => none
      | n + 1 => depthAfter n cs
    else depthAfter n cs

/-- The brackets of a text close one another. -/
def Balanced (s : List α) : Prop := depthAfter op cl 0 s = some 0

instance (s : List α) : Decidable (Balanced op cl s) := inferInstanceAs (Decidable (depthAfter op cl 0 s = some 0))

variable {op cl stop}

theorem depthAfter_append : ∀ (s t : List α) (n : Nat),
    depthAfter op cl n (s ++ t) = (depthAfter op cl n s).bind fun m => depthAfter op cl m t := by
  intro s
  induction s with
  | nil => intro t n; rfl
  | cons c s ih =>
    intro t n
    simp only [List.cons_append, depthAfter]
    split_ifs
    · exact ih t _
    · cases n with
      | zero => rfl
      | succ n => exact ih t n
    · exact ih t n

theorem Balanced.append {s t : List α} (hs : Balanced op cl s) (ht : Balanced op cl t) : Balanced op cl (s ++ t) := by
  unfold Balanced at *
  rw [depthAfter_append, hs, Option.bind_some, ht]

/-- A text without brackets. -/
theorem balanced_of_not_mem {s : List α} (hop : op ∉ s) (hcl : cl ∉ s) : Balanced op cl s := by
  unfold Balanced
  induction s with
  | nil => rfl
  | cons c s ih =>
    obtain ⟨hc, hs⟩ := not_or.mp (List.mem_cons.not.mp hop)
    obtain ⟨hc', hs'⟩ := not_or.mp (List.mem_cons.not.mp hcl)
    rw [depthAfter, if_neg (Ne.symm hc), if_neg (Ne.symm hc'), ih hs hs']

/-- Inside a block, a text whose brackets are closed again is added to the block. -/
theorem blocksFrom_inside (t : List α) :
    ∀ (s : List α) (n m : Nat) (acc : List α), depthAfter op cl n s = some m →
      blocksFrom op cl stop (n + 1) (some acc) (s ++ t) = blocksFrom op cl stop (m + 1) (some (acc ++ s)) t := by
  intro s
  induction s with
  | nil =>
    intro n m acc h
    rw [depthAfter, Option.some.injEq] at h
    rw [h, List.nil_append, List.append_nil]
  | cons c s ih =>
    intro n m acc h
    have hacc : acc ++ c :: s = (acc ++ [c]) ++ s := by
      simp
    have hpos : ¬ ((n : Int) + 1 = 0) := by omega
    simp only [List.cons_append, blocksFrom, depthAfter] at h ⊢
    split_ifs at h ⊢ with hop hcl hclose hstop
    · have hrest := ih (n + 1) m (acc ++ [c]) h
      rw [hacc, ← hrest]
      rfl
    · cases n with
      | zero => cases h
      | succ n => omega
    · cases n with
      | zero => cases h
      | succ n =>
        have hrest := ih n m (acc ++ [c]) h
        have hdepth : ((n + 1 : Nat) : Int) + 1 - 1 = n + 1 := by omega
        rw [hacc, ← hrest, hdepth]
    · exact absurd hstop.2 hpos
    · rw [hacc]
      exact ih n m (acc ++ [c]) h

/-- **A block is cut out whole.** -/
theorem blocks_block (hne : op ≠ cl) {s : List α} (hs : Balanced op cl s) (t : List α) :
    blocks op cl stop (op :: (s ++ cl :: t)) = (op :: (s ++ [cl])) :: blocks op cl stop t := by
  have hinside : blocksFrom op cl stop ((0 : Nat) + 1) (some [op]) (s ++ cl :: t) =
      blocksFrom op cl stop ((0 : Nat) + 1) (some ([op] ++ s)) (cl :: t) := blocksFrom_inside (cl :: t) s 0 0 [op] hs
  have hclose : blocksFrom op cl stop ((0 : Nat) + 1) (some ([op] ++ s)) (cl :: t) =
      ([op] ++ s ++ [cl]) :: blocksFrom op cl stop 0 none t := by
    rw [blocksFrom, if_neg (Ne.symm hne), if_pos rfl]
    simp
  rw [blocks, blocksFrom, if_pos rfl]
  dsimp only
  rw [if_pos rfl, Option.map_some, List.nil_append]
  exact (hinside.trans hclose).trans rfl

/-- Text between blocks is passed over. -/
theorem blocks_skip {s : List α} (hop : op ∉ s) (hcl : cl ∉ s) (hstop : stop ∉ s) (t : List α) :
    blocks op cl stop (s ++ t) = blocks op cl stop t := by
  induction s with
  | nil => rfl
  | cons c s ih =>
    obtain ⟨hc, hs⟩ := not_or.mp (List.mem_cons.not.mp hop)
    obtain ⟨hc', hs'⟩ := not_or.mp (List.mem_cons.not.mp hcl)
    obtain ⟨hc'', hs''⟩ := not_or.mp (List.mem_cons.not.mp hstop)
    rw [List.cons_append, blocks, blocksFrom, if_neg (Ne.symm hc), if_neg (Ne.symm hc'),
      if_neg (fun h => hc'' h.1.symm)]
    exact ih hs hs' hs''

/-- The stop mark ends the search. -/
theorem blocks_stop (hop : stop ≠ op) (hcl : stop ≠ cl) (t : List α) : blocks op cl stop (stop :: t) = [] := by
  rw [blocks, blocksFrom, if_neg hop, if_neg hcl, if_pos ⟨rfl, rfl⟩]

end Blocks
