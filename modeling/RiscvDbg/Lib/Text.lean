import Mathlib.Data.List.Basic

/-!
# Text on a stream

What programs do with delimited text that arrives on a stream.

* `chunks` — a reader with a buffer: a chunk ends after the delimiter, or when the buffer is full.
  `chunks_eq_singleton_iff` says when a line is read in one piece.
* `after` — the text after the first occurrence of a pattern.  `Skips` says of a piece of text that no
  occurrence starts in it, whatever follows; a text is searched piece by piece.
-/

set_option autoImplicit false

namespace Text

variable {α : Type*} [DecidableEq α]

/-! ## Reading with a buffer -/

/-- The chunks of a stream, if the buffer, which takes `cap` items, has room for `room` more; `d` ends a
chunk before it is full. -/
def chunksFrom (cap : Nat) (d : α) (room : Nat) : List α → List (List α)
  | [] => []
  | c :: cs =>
    if c = d ∨ room ≤ 1 then [c] :: chunksFrom cap d cap cs
    else
      match chunksFrom cap d (room - 1) cs with
      | [] => [[c]]
      | l :: ls => (c :: l) :: ls

/-- The chunks of a stream. -/
def chunks (cap : Nat) (d : α) (s : List α) : List (List α) := chunksFrom cap d cap s

variable {cap : Nat} {d : α}

theorem flatten_chunksFrom (cap : Nat) (d : α) (s : List α) :
    ∀ room, (chunksFrom cap d room s).flatten = s := by
  induction s with
  | nil => intro room; rfl
  | cons c cs ih =>
    intro room
    have hrest := ih (room - 1)
    rw [chunksFrom]
    split_ifs
    · rw [List.flatten_cons, ih, List.singleton_append]
    · cases h : chunksFrom cap d (room - 1) cs with
      | nil =>
        rw [h] at hrest
        rw [← hrest]
        rfl
      | cons l ls =>
        rw [h, List.flatten_cons] at hrest
        rw [← hrest]
        rfl

/-- No chunk is larger than the buffer. -/
theorem length_le_of_mem_chunksFrom (hcap : 0 < cap) (s : List α) :
    ∀ room, 0 < room → room ≤ cap → ∀ l ls, chunksFrom cap d room s = l :: ls →
      l.length ≤ room ∧ ∀ l' ∈ ls, l'.length ≤ cap := by
  induction s with
  | nil =>
    intro room _ _ l ls h
    exact absurd h (List.cons_ne_nil l ls).symm
  | cons c cs ih =>
    intro room hroom hle l ls h
    have hall : ∀ r, 0 < r → r ≤ cap → ∀ l' ∈ chunksFrom cap d r cs, l'.length ≤ cap := by
      intro r hr hrcap l' hl'
      cases hc : chunksFrom cap d r cs with
      | nil =>
        rw [hc] at hl'
        exact absurd hl' List.not_mem_nil
      | cons k ks =>
        obtain ⟨hk, hks⟩ := ih r hr hrcap k ks hc
        rw [hc] at hl'
        rcases List.mem_cons.mp hl' with rfl | htail
        · omega
        · exact hks l' htail
    rw [chunksFrom] at h
    split_ifs at h with hend
    · obtain ⟨rfl, rfl⟩ := List.cons.inj h
      exact ⟨hroom, hall cap hcap (Nat.le_refl cap)⟩
    · have hmore : 0 < room - 1 := by omega
      cases hc : chunksFrom cap d (room - 1) cs with
      | nil =>
        rw [hc] at h
        obtain ⟨rfl, rfl⟩ := List.cons.inj h
        exact ⟨hroom, fun l' hl' => absurd hl' List.not_mem_nil⟩
      | cons k ks =>
        obtain ⟨hk, hks⟩ := ih (room - 1) hmore (by omega) k ks hc
        rw [hc] at h
        obtain ⟨rfl, rfl⟩ := List.cons.inj h
        exact ⟨by rw [List.length_cons]; omega, hks⟩

/-- A line that fits into the buffer is one chunk. -/
theorem chunksFrom_line {s : List α} (hs : d ∉ s) :
    ∀ room, s.length + 1 ≤ room → chunksFrom cap d room (s ++ [d]) = [s ++ [d]] := by
  induction s with
  | nil =>
    intro room _
    simp [chunksFrom]
  | cons c cs ih =>
    intro room hlen
    rw [List.length_cons] at hlen
    obtain ⟨hc, hcs⟩ := not_or.mp (List.mem_cons.not.mp hs)
    have hmore : ¬(c = d ∨ room ≤ 1) := by
      rintro (rfl | hfull)
      · exact hc rfl
      · omega
    rw [List.cons_append, chunksFrom, if_neg hmore, ih hcs (room - 1) (by omega)]

/-- A line is read in one piece exactly if it fits into the buffer with its delimiter. -/
theorem chunks_eq_singleton_iff {s : List α} (hcap : 0 < cap) (hs : d ∉ s) :
    (∃ l, chunks cap d (s ++ [d]) = [l]) ↔ s.length + 1 ≤ cap := by
  constructor
  · rintro ⟨l, hl⟩
    have hflat := flatten_chunksFrom cap d (s ++ [d]) cap
    change (chunks cap d (s ++ [d])).flatten = _ at hflat
    rw [hl, List.flatten_singleton] at hflat
    have hle := (length_le_of_mem_chunksFrom hcap (s ++ [d]) cap hcap (Nat.le_refl cap) l [] hl).1
    rw [hflat, List.length_append, List.length_singleton] at hle
    exact hle
  · intro hlen
    exact ⟨s ++ [d], chunksFrom_line hs cap hlen⟩

/-! ## Searching -/

/-- What follows the first occurrence of `pat`. -/
def after (pat : List α) : List α → Option (List α)
  | [] => if pat = [] then some [] else none
  | c :: cs => if pat.isPrefixOf (c :: cs) then some ((c :: cs).drop pat.length) else after pat cs

/-- No occurrence of `pat` starts in `s`, whatever follows `s`. -/
def Skips (pat s : List α) : Prop := ∀ t, after pat (s ++ t) = after pat t

variable {pat : List α} {q : α}

theorem after_cons_of_ne {c : α} (h : c ≠ q) (cs : List α) : after (q :: pat) (c :: cs) = after (q :: pat) cs := by
  have hno : (q :: pat).isPrefixOf (c :: cs) = false := by
    rw [List.isPrefixOf_cons_cons, beq_eq_false_iff_ne.mpr (Ne.symm h), Bool.false_and]
  rw [after, hno, if_neg Bool.false_ne_true]

theorem after_cons_self (cs : List α) :
    after (q :: pat) (q :: cs) =
      if pat.isPrefixOf cs then some (cs.drop pat.length) else after (q :: pat) cs := by
  rw [after, List.isPrefixOf_cons_cons, beq_self_eq_true, Bool.true_and, List.length_cons, List.drop_succ_cons]

theorem skips_of_not_mem {s : List α} (h : q ∉ s) : Skips (q :: pat) s := by
  intro t
  induction s with
  | nil => rfl
  | cons c cs ih =>
    obtain ⟨hc, hcs⟩ := not_or.mp (List.mem_cons.not.mp h)
    rw [List.cons_append, after_cons_of_ne (Ne.symm hc), ih hcs]

/-- A text that starts with the pattern. -/
theorem after_pattern (hpat : pat ≠ []) (t : List α) : after pat (pat ++ t) = some t := by
  cases pat with
  | nil => exact absurd rfl hpat
  | cons q pat =>
    have hyes : pat.isPrefixOf (pat ++ t) = true := List.isPrefixOf_iff_prefix.mpr (List.prefix_append pat t)
    rw [List.cons_append, after_cons_self, hyes, if_pos rfl, List.drop_left]

theorem suffix_of_after {s t : List α} (h : after pat s = some t) : t <:+ s := by
  induction s with
  | nil =>
    rw [after] at h
    split_ifs at h
    exact (Option.some.inj h) ▸ List.suffix_refl _
  | cons c cs ih =>
    rw [after] at h
    split_ifs at h
    · exact (Option.some.inj h) ▸ List.drop_suffix _ _
    · exact (ih h).trans (List.suffix_cons c cs)

end Text
