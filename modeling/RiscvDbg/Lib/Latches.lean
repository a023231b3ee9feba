import Mathlib.Data.List.Basic
import Mathlib.Data.List.Induction

/-!
# Latches

A register that some entries of a history set, others clear, and the rest leave alone.

* `value` — what the register holds after a history.
* `exists_set` — what it holds was set by an entry that nothing has cleared since.
* `value_of_set` — and it stays, if whatever else is set after that entry is the same.
* `Kept` — every entry that comes after a set one and before a clearing one agrees with it; `kept_concat` checks
  this entry by entry, against the register.
-/

set_option autoImplicit false

namespace Latches

variable {ε α : Type*} (sets : ε → Option α) (clears : ε → Bool)

/-- One more entry. -/
def latch (held : Option α) (e : ε) : Option α :=
  if (sets e).isSome then sets e else if clears e then none else held

/-- The register after a history, oldest entry first. -/
def value (es : List ε) : Option α := es.foldl (latch sets clears) none

theorem value_concat (es : List ε) (e : ε) :
    value sets clears (es ++ [e]) = latch sets clears (value sets clears es) e := List.foldl_concat _ _ _ _

variable {sets clears}

theorem exists_set {es : List ε} {v : α} (h : value sets clears es = some v) :
    ∃ pre e mid, es = pre ++ e :: mid ∧ sets e = some v ∧ ∀ m ∈ mid, clears m = false := by
  induction es using List.reverseRecOn with
  | nil => cases h
  | append_singleton es e ih =>
    rw [value_concat, latch] at h
    split_ifs at h with hset hclear
    · exact ⟨es, e, [], rfl, h, by simp⟩
    · obtain ⟨pre, e', mid, rfl, he', hmid⟩ := ih h
      refine ⟨pre, e', mid ++ [e], by simp, he', ?_⟩
      intro m hm
      rcases List.mem_append.mp hm with hm | hm
      · exact hmid m hm
      · rw [List.mem_singleton.mp hm]
        exact Bool.eq_false_iff.mpr hclear

theorem value_of_set {pre : List ε} {e : ε} {v : α} (he : sets e = some v) :
    ∀ {mid : List ε}, (∀ m ∈ mid, clears m = false ∧ ∀ w, sets m = some w → w = v) →
      value sets clears (pre ++ e :: mid) = some v := by
  intro mid
  induction mid using List.reverseRecOn with
  | nil =>
    intro _
    rw [value_concat, latch, he]
    rfl
  | append_singleton mid m ih =>
    intro hmid
    have hbefore := ih fun m' hm' => hmid m' (List.mem_append_left _ hm')
    obtain ⟨hclear, hsame⟩ := hmid m (by simp)
    have hsplit : pre ++ e :: (mid ++ [m]) = (pre ++ e :: mid) ++ [m] := by simp
    rw [hsplit, value_concat, latch, hbefore, hclear]
    cases hm : sets m with
    | none => rfl
    | some w => rw [hsame w hm]; rfl

variable (sets clears) (agrees : ε → α → Bool)

/-- Every entry between a set one and the next clearing one agrees with it, the clearing one included. -/
def Kept (es : List ε) : Prop :=
  ∀ pre e mid t post v, es = pre ++ e :: mid ++ t :: post → sets e = some v → (∀ m ∈ mid, clears m = false) →
    agrees t v = true

variable {sets clears agrees}

theorem Kept.of_append {es post : List ε} (h : Kept sets clears agrees (es ++ post)) :
    Kept sets clears agrees es := by
  intro pre e mid t post' v hes
  exact h pre e mid t (post' ++ post) v (by simp [hes])

/-- **The register is the check.**  Nothing but the register is needed to check one entry more, if an entry that
agrees with a value can set no other. -/
theorem kept_concat (hsets : ∀ e v w, agrees e v = true → sets e = some w → w = v) (es : List ε) (t : ε) :
    Kept sets clears agrees (es ++ [t]) ↔
      Kept sets clears agrees es ∧ ∀ v, value sets clears es = some v → agrees t v = true := by
  constructor
  · intro h
    refine ⟨h.of_append, ?_⟩
    intro v hv
    obtain ⟨pre, e, mid, rfl, he, hmid⟩ := exists_set hv
    exact h pre e mid t [] v (by simp) he hmid
  · rintro ⟨hes, ht⟩ pre e mid t' post v heq he hmid
    rcases List.eq_nil_or_concat post with rfl | ⟨post, last, rfl⟩
    · -- the entry is the last one: what the register holds is what `e` set, since all between agree with it
      obtain ⟨rfl, hlast⟩ := List.append_inj' heq rfl
      cases hlast
      apply ht
      apply value_of_set he
      intro m hm
      refine ⟨hmid m hm, ?_⟩
      obtain ⟨before, after, rfl⟩ := List.append_of_mem hm
      intro w hw
      refine hsets m v w ?_ hw
      exact hes pre e before m after v (by simp) he fun x hx => hmid x (List.mem_append_left _ hx)
    · have hlong : es ++ [t] = (pre ++ e :: mid ++ t' :: post) ++ [last] := by rw [heq]; simp
      obtain ⟨rfl, -⟩ := List.append_inj' hlong rfl
      exact hes pre e mid t' post v rfl he hmid

end Latches
