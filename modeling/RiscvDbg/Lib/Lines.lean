import Mathlib.Data.List.Basic

/-!
# Lines, fields and hexadecimal numbers

A text is a list of characters.

* `Lines.lines` — the lines of a text, each ended by a break; `lines_flatMap` reads back what was written.
* `flatMap_splitOn`, `not_mem_of_mem_splitOn` — the pieces between the breaks.
* `Lines.fields` — the maximal runs without separators; `fields_intercalate` reads back words.
* `Hex.pad` — a number in base sixteen, with leading zeros; `Hex.read?_pad` reads it back.
-/

set_option autoImplicit false

namespace Lines

variable {α : Type*}

/-- The lines of a text; a last line without a break counts if it is not empty. -/
def lines (brk : α → Bool) (s : List α) : List (List α) :=
  let ls := s.splitOnP brk
  match ls.getLast? with
  | some [] => ls.dropLast
  | _ => ls

/-- The maximal runs without separators. -/
def fields (sep : α → Bool) (s : List α) : List (List α) := (s.splitOnP sep).filter (!·.isEmpty)

variable {p : α → Bool} {d : α}

theorem free_of_any {s : List α} (h : s.any p = false) : ∀ c ∈ s, p c = false :=
  fun c hc => Bool.eq_false_iff.mpr (List.any_eq_false.mp h c hc)

theorem lines_append_cons {l : List α} (hl : ∀ c ∈ l, p c = false) (hd : p d = true) (s : List α) :
    lines p (l ++ d :: s) = l :: lines p s := by
  unfold lines
  rw [List.splitOnP_append_cons_of_forall_mem hl d hd]
  dsimp only
  obtain ⟨x, xs, hx⟩ := List.exists_cons_of_ne_nil (List.splitOnP_ne_nil p s)
  rw [hx, List.getLast?_cons_cons]
  split <;> rfl

/-- Lines that are written with their breaks are read back. -/
theorem lines_flatMap (hd : p d = true) :
    ∀ ls : List (List α), (∀ l ∈ ls, ∀ c ∈ l, p c = false) → lines p (ls.flatMap (· ++ [d])) = ls := by
  intro ls
  induction ls with
  | nil => intro _; rfl
  | cons l ls ih =>
    intro h
    have hrest := ih fun l' hl' => h l' (List.mem_cons_of_mem l hl')
    rw [List.flatMap_cons, List.append_assoc, List.singleton_append,
      lines_append_cons (h l List.mem_cons_self) hd, hrest]

/-- The pieces between the breaks, each ended by a break. -/
theorem flatMap_splitOn [DecidableEq α] (brk : α) (s : List α) :
    (s.splitOn brk).flatMap (· ++ [brk]) = s ++ [brk] := by
  have hjoin : ∀ ls : List (List α), ls ≠ [] → ls.flatMap (· ++ [brk]) = [brk].intercalate ls ++ [brk] := by
    intro ls
    induction ls with
    | nil => intro h; exact absurd rfl h
    | cons l ls ih =>
      intro _
      by_cases hne : ls = []
      · subst hne
        simp
      · rw [List.flatMap_cons, ih hne, List.intercalate_cons_of_ne_nil hne]
        simp only [List.append_assoc]
  rw [hjoin _ (List.splitOn_ne_nil brk s), List.intercalate_splitOn]

/-- No piece between the breaks holds a break. -/
theorem not_mem_of_mem_splitOn [DecidableEq α] {brk : α} {s l : List α} (hl : l ∈ s.splitOn brk) : brk ∉ l := by
  induction s generalizing l with
  | nil =>
    rw [List.splitOn_nil, List.mem_singleton] at hl
    subst hl
    exact List.not_mem_nil
  | cons c s ih =>
    rw [List.splitOn_cons_eq_if_modifyHead] at hl
    split at hl
    next =>
      rcases List.mem_cons.mp hl with rfl | hl
      · exact List.not_mem_nil
      · exact ih hl
    next hc =>
      obtain ⟨x, xs, hx⟩ := List.exists_cons_of_ne_nil (List.splitOn_ne_nil brk s)
      rw [hx] at ih hl
      rcases List.mem_cons.mp hl with rfl | hl
      · have hne : brk ≠ c := fun h => hc (by simp [h])
        simpa [hne] using ih List.mem_cons_self
      · exact ih (List.mem_cons_of_mem _ hl)

theorem fields_append_cons {w : List α} (hne : w ≠ []) (hw : ∀ c ∈ w, p c = false) (hd : p d = true)
    (s : List α) : fields p (w ++ d :: s) = w :: fields p s := by
  unfold fields
  rw [List.splitOnP_append_cons_of_forall_mem hw d hd, List.filter_cons_of_pos]
  simpa using hne

theorem fields_word {w : List α} (hne : w ≠ []) (hw : ∀ c ∈ w, p c = false) : fields p w = [w] := by
  unfold fields
  rw [List.splitOnP_eq_singleton hw, List.filter_cons_of_pos (by simpa using hne), List.filter_nil]

/-- Words that are written with separators between them are read back. -/
theorem fields_intercalate (hd : p d = true) :
    ∀ ws : List (List α), (∀ w ∈ ws, w ≠ [] ∧ ∀ c ∈ w, p c = false) →
      fields p ([d].intercalate ws) = ws := by
  intro ws
  induction ws with
  | nil => intro _; rfl
  | cons w ws ih =>
    intro h
    obtain ⟨hne, hw⟩ := h w List.mem_cons_self
    have hrest := ih fun w' hw' => h w' (List.mem_cons_of_mem w hw')
    cases ws with
    | nil => rw [List.intercalate_singleton, fields_word hne hw]
    | cons w' ws =>
      rw [List.intercalate_cons_cons, List.append_assoc, List.singleton_append, fields_append_cons hne hw hd,
        hrest]

theorem forall_mem_intercalate {P : α → Prop} (hd : P d) :
    ∀ ws : List (List α), (∀ w ∈ ws, ∀ c ∈ w, P c) → ∀ c ∈ [d].intercalate ws, P c := by
  intro ws
  induction ws with
  | nil => intro _ c hc; cases hc
  | cons w ws ih =>
    intro h
    have hw := h w List.mem_cons_self
    have hrest := ih fun w' hw' => h w' (List.mem_cons_of_mem w hw')
    cases ws with
    | nil => rwa [List.intercalate_singleton]
    | cons w' ws =>
      intro c hc
      rw [List.intercalate_cons_cons, List.append_assoc, List.singleton_append, List.mem_append,
        List.mem_cons] at hc
      rcases hc with hc | rfl | hc
      · exact hw c hc
      · exact hd
      · exact hrest c hc

end Lines

namespace Hex

/-- The value of a digit, in either case. -/
def value? (c : Char) : Option Nat :=
  if 48 ≤ c.toNat ∧ c.toNat ≤ 57 then some (c.toNat - 48)
  else if 97 ≤ c.toNat ∧ c.toNat ≤ 102 then some (c.toNat - 87)
  else if 65 ≤ c.toNat ∧ c.toNat ≤ 70 then some (c.toNat - 55)
  else none

/-- The number after `n` and the digits of a text. -/
def readFrom (n : Nat) (s : List Char) : Option Nat := s.foldlM (fun n c => (value? c).map (16 * n + ·)) n

/-- The number a text of digits stands for. -/
def read? (s : List Char) : Option Nat := if s.isEmpty then none else readFrom 0 s

/-- At least `w` digits, in lower case. -/
def pad (w n : Nat) : List Char := (Nat.toDigits 16 n).leftpad w '0'

theorem value?_digitChar : ∀ d < 16, value? (Nat.digitChar d) = some d := by decide

theorem readFrom_append (n : Nat) (s t : List Char) :
    readFrom n (s ++ t) = (readFrom n s).bind fun m => readFrom m t := List.foldlM_append

theorem readFrom_digitChar (n : Nat) {d : Nat} (hd : d < 16) : readFrom n [Nat.digitChar d] = some (16 * n + d) := by
  simp [readFrom, value?_digitChar d hd]

theorem readFrom_zeros (w : Nat) : readFrom 0 (List.replicate w '0') = some 0 := by
  induction w with
  | zero => rfl
  | succ w ih =>
    rw [List.replicate_succ', readFrom_append, ih]
    rfl

theorem readFrom_toDigits (n : Nat) : readFrom 0 (Nat.toDigits 16 n) = some n := by
  induction n using Nat.strongRecOn with
  | ind n ih =>
    rw [Nat.toDigits_eq_if (by decide)]
    split
    · rename_i hlt
      rw [readFrom_digitChar 0 hlt, Nat.mul_zero, Nat.zero_add]
    · rename_i hge
      rw [readFrom_append, ih (n / 16) (by omega), Option.bind_some, readFrom_digitChar _ (by omega)]
      exact congrArg some (by omega)

theorem pad_ne_nil (w n : Nat) : pad w n ≠ [] := by simp [pad, List.leftpad]

/-- **Round trip.** -/
theorem read?_pad (w n : Nat) : read? (pad w n) = some n := by
  rw [read?, if_neg (by simpa using pad_ne_nil w n), pad, List.leftpad, readFrom_append, readFrom_zeros,
    Option.bind_some, readFrom_toDigits]

/-- What can be read has digits only. -/
theorem value?_of_readFrom {s : List Char} :
    ∀ {n m : Nat}, readFrom n s = some m → ∀ c ∈ s, (value? c).isSome = true := by
  induction s with
  | nil => intro n m _ c hc; cases hc
  | cons c s ih =>
    intro n m h c' hc'
    unfold readFrom at h
    rw [List.foldlM_cons] at h
    obtain ⟨k, hk, hrest⟩ := Option.bind_eq_some_iff.mp h
    rcases List.mem_cons.mp hc' with rfl | hmem
    · cases hv : value? c' with
      | none => simp [hv] at hk
      | some d => rfl
    · exact ih hrest c' hmem

theorem value?_of_mem_pad {w n : Nat} {c : Char} (h : c ∈ pad w n) : (value? c).isSome = true := by
  have hread := read?_pad w n
  rw [read?, if_neg (by simpa using pad_ne_nil w n)] at hread
  exact value?_of_readFrom hread c h

end Hex
