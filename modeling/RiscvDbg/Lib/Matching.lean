import Mathlib.Data.List.Forall2

/-!
# Matching two queues

Requests wait in one queue and what was observed waits in another.  The request at the head takes the first
observation it accepts; both leave their queues, and the next request has its turn.  If no observation is
acceptable yet, nothing behind the head is looked at.

* `push` — a queue of bounded depth, which loses its oldest entry when it is full; `push_recent` — not one of
  the recent ones.
* `drain` — the matching: what is left of both queues, and the pairs.
* `drain_in_order` — if the observations of the kind asked for have come in the order of the requests, every
  request is paired with its own.
* `drain_paired` — if under every key the waiting requests and observations agree one by one, every pair that
  is made agrees, and so do the queues that are left.
-/

set_option autoImplicit false

namespace Matching

variable {α ρ β κ : Type*}

/-- Append to a queue of at most `depth` entries; the oldest entry leaves a full one. -/
def push (depth : Nat) (q : List α) (a : α) : List α :=
  if (q ++ [a]).length > depth then (q ++ [a]).tail else q ++ [a]

theorem push_of_lt {depth : Nat} {q : List α} (h : q.length < depth) (a : α) : push depth q a = q ++ [a] := by
  rw [push, if_neg (by simp; omega)]

/-- The recent entries of a queue stay, if they are fewer than its depth: an old one leaves. -/
theorem push_recent {depth : Nat} (old : List α) {new : List α} (h : new.length < depth) (a : α) :
    ∃ old', (∀ e ∈ old', e ∈ old) ∧ push depth (old ++ new) a = old' ++ (new ++ [a]) := by
  unfold push
  split
  · rename_i hfull
    cases old with
    | nil =>
      simp only [List.nil_append, List.length_append, List.length_singleton] at hfull
      omega
    | cons e old =>
      refine ⟨old, fun e' he' => List.mem_cons_of_mem e he', ?_⟩
      rw [List.append_assoc]
      rfl
  · exact ⟨old, fun e he => he, List.append_assoc old new [a]⟩

/-- Match the requests with the observations. -/
def drain (accepts : ρ → β → Bool) : List ρ → List β → List ρ × List β × List (ρ × β)
  | [], bs => ([], bs, [])
  | r :: rs, bs =>
    match bs.find? (accepts r) with
    | none => (r :: rs, bs, [])
    | some b =>
      let rest := drain accepts rs (bs.eraseP (accepts r))
      (rest.1, rest.2.1, (r, b) :: rest.2.2)

variable {accepts : ρ → β → Bool}

theorem drain_cons_of_none {r : ρ} {bs : List β} (h : bs.find? (accepts r) = none) (rs : List ρ) :
    drain accepts (r :: rs) bs = (r :: rs, bs, []) := by
  rw [drain, h]

theorem drain_cons_of_some {r : ρ} {b : β} {bs : List β} (h : bs.find? (accepts r) = some b) (rs : List ρ) :
    drain accepts (r :: rs) bs =
      ((drain accepts rs (bs.eraseP (accepts r))).1, (drain accepts rs (bs.eraseP (accepts r))).2.1,
        (r, b) :: (drain accepts rs (bs.eraseP (accepts r))).2.2) := by
  rw [drain, h]

/-! ## The first entry of a kind -/

/-- Where only entries of one kind are accepted and the first of that kind is, that one is found; without
it, one entry of the kind is missing. -/
theorem find_first {f q : β → Bool} (hq : ∀ b, f b = true → q b = true) {b : β} {bs B : List β}
    (hB : bs.filter q = b :: B) (hb : f b = true) :
    bs.find? f = some b ∧ (bs.eraseP f).filter q = B ∧
      ∀ q' : β → Bool, q' b = false → (bs.eraseP f).filter q' = bs.filter q' := by
  have hfind : bs.find? f = some b := by
    have hfilter : (bs.filter q).find? f = bs.find? f := by
      rw [List.find?_filter]
      congr 1
      funext a
      by_cases hf : f a = true
      · simp [hf, hq a hf]
      · simp [hf]
    rw [← hfilter, hB, List.find?_cons, hb]
  obtain ⟨-, l₁, l₂, rfl, hl₁⟩ := List.find?_eq_some_iff_append.mp hfind
  have herase : (l₁ ++ b :: l₂).eraseP f = l₁ ++ l₂ := by
    rw [List.eraseP_append_right _ (fun a ha => by simpa using hl₁ a ha), List.eraseP_cons_of_pos hb]
  refine ⟨hfind, ?_, ?_⟩
  · rw [herase]
    rw [List.filter_append, List.filter_cons_of_pos (hq b hb)] at hB
    -- nothing of the kind stands before the entry that is found
    cases hfirst : l₁.filter q with
    | nil =>
      rw [hfirst, List.nil_append, List.cons.injEq] at hB
      rw [List.filter_append, hfirst, List.nil_append, hB.2]
    | cons a as =>
      rw [hfirst, List.cons_append, List.cons.injEq] at hB
      have ha : a ∈ l₁ := (List.mem_filter.mp (hfirst ▸ List.mem_cons_self)).1
      have hnot := hl₁ a ha
      rw [hB.1, hb] at hnot
      cases hnot
  · intro q' hq'
    rw [herase, List.filter_append, List.filter_append, List.filter_cons_of_neg (by simp [hq'])]

/-! ## Observations in the order of the requests -/

theorem filter_not_of_filter_eq_nil {q : β → Bool} {bs : List β} (h : bs.filter q = []) :
    bs.filter (fun b => !q b) = bs := by
  rw [List.filter_eq_self]
  intro b hb
  have hnot := List.filter_eq_nil_iff.mp h b hb
  simpa using hnot

/-- Requests that have no observation yet do not count. -/
theorem zip_append_later {rs : List ρ} {bs : List β} (h : rs.length = bs.length) (later : List ρ) :
    (rs ++ later).zip bs = rs.zip bs := by
  have hzip : (rs ++ later).zip (bs ++ []) = rs.zip bs ++ later.zip [] := List.zip_append h
  rwa [List.append_nil, List.zip_nil_right, List.append_nil] at hzip

theorem forall_zip_of_forall₂ {R : ρ → β → Prop} {rs : List ρ} {bs : List β} (h : List.Forall₂ R rs bs)
    (later : List ρ) : ∀ p ∈ (rs ++ later).zip bs, R p.1 p.2 := by
  intro p hp
  rw [zip_append_later h.length_eq] at hp
  exact (List.forall₂_iff_zip.mp h).2 hp

/-- **Every request finds its own.**  Let the requests accept only observations of one kind.  If those that
have come, `B`, are acceptable to the first requests one by one, these requests are paired with them, the
other requests wait, and all observations of another kind stay. -/
theorem drain_in_order {q : β → Bool} :
    ∀ (rs : List ρ) (bs B : List β), (∀ r ∈ rs, ∀ b, accepts r b = true → q b = true) → bs.filter q = B →
      B.length ≤ rs.length → (∀ p ∈ rs.zip B, accepts p.1 p.2 = true) →
      drain accepts rs bs = (rs.drop B.length, bs.filter (fun b => !q b), rs.zip B) := by
  intro rs
  induction rs with
  | nil =>
    intro bs B _ hB hlen _
    have hnil : B = [] := List.eq_nil_of_length_eq_zero (by simpa using hlen)
    subst hnil
    rw [filter_not_of_filter_eq_nil hB]
    rfl
  | cons r rs ih =>
    intro bs B hq hB hlen hacc
    rw [List.forall_mem_cons] at hq
    cases B with
    | nil =>
      have hnone : bs.find? (accepts r) = none := by
        rw [List.find?_eq_none]
        intro b hb hrb
        exact List.filter_eq_nil_iff.mp hB b hb (hq.1 b hrb)
      rw [drain_cons_of_none hnone, filter_not_of_filter_eq_nil hB]
      rfl
    | cons b B =>
      rw [List.zip_cons_cons, List.forall_mem_cons] at hacc
      obtain ⟨hfind, hrest, hothers⟩ := find_first hq.1 hB hacc.1
      have hqb : q b = true := hq.1 b hacc.1
      rw [drain_cons_of_some hfind, ih _ B hq.2 hrest (by simpa using hlen) hacc.2,
        hothers (fun b => !q b) (by simp [hqb])]
      rfl

/-! ## Agreement key by key -/

section
variable [DecidableEq κ] (keyR : ρ → κ) (keyB : β → κ) (watched : κ → Prop) (agree : ρ → β → Prop)

/-- Under every watched key the waiting requests and observations agree one by one, as far as both go. -/
def Paired (rs : List ρ) (bs : List β) : Prop :=
  ∀ k, watched k → ∀ p ∈ (rs.filter (keyR · = k)).zip (bs.filter (keyB · = k)), agree p.1 p.2

variable {keyR keyB watched agree}

/-- Only the keys of requests count. -/
theorem paired_iff {rs : List ρ} {bs : List β} :
    Paired keyR keyB watched agree rs bs ↔ ∀ r ∈ rs, watched (keyR r) →
      ∀ p ∈ (rs.filter (keyR · = keyR r)).zip (bs.filter (keyB · = keyR r)), agree p.1 p.2 := by
  constructor
  · intro h r _ hw
    exact h (keyR r) hw
  · intro h k hw p hp
    have hmem := List.mem_filter.mp (List.of_mem_zip hp).1
    have hk : keyR p.1 = k := of_decide_eq_true hmem.2
    subst hk
    exact h p.1 hmem.1 hw p hp

instance [∀ k, Decidable (watched k)] [∀ r b, Decidable (agree r b)] (rs : List ρ) (bs : List β) :
    Decidable (Paired keyR keyB watched agree rs bs) := decidable_of_iff _ paired_iff.symm

/-- Requests whose observations have come one by one agree with them under every key. -/
theorem paired_of_forall₂ {R : ρ → β → Prop} (hR : ∀ r b, R r b → keyR r = keyB b ∧ agree r b)
    {rs : List ρ} {bs : List β} (h : List.Forall₂ R rs bs) (later : List ρ) :
    Paired keyR keyB watched agree (rs ++ later) bs := by
  intro k _
  have hfilter : List.Forall₂ agree (rs.filter (keyR · = k)) (bs.filter (keyB · = k)) := by
    induction h with
    | nil => exact List.Forall₂.nil
    | @cons r b rs bs hrb _ ih =>
      obtain ⟨hkey, hagree⟩ := hR r b hrb
      by_cases hk : keyR r = k
      · have hk' : keyB b = k := hkey.symm.trans hk
        rw [List.filter_cons_of_pos (by simp [hk]), List.filter_cons_of_pos (by simp [hk'])]
        exact List.Forall₂.cons hagree ih
      · have hk' : ¬ keyB b = k := fun h => hk (hkey.trans h)
        rw [List.filter_cons_of_neg (by simp [hk]), List.filter_cons_of_neg (by simp [hk'])]
        exact ih
  rw [List.filter_append]
  exact forall_zip_of_forall₂ hfilter _

/-- **Matching keeps agreement.**  If requests accept only observations of their own key, and what agrees is
acceptable, all pairs made under a watched key agree and so do the queues that are left. -/
theorem drain_paired (hkey : ∀ r b, accepts r b = true → keyR r = keyB b)
    (hagree : ∀ r b, keyR r = keyB b → agree r b → accepts r b = true) :
    ∀ (rs : List ρ) (bs : List β), Paired keyR keyB watched agree rs bs →
      (∀ p ∈ (drain accepts rs bs).2.2, watched (keyR p.1) → agree p.1 p.2) ∧
      Paired keyR keyB watched agree (drain accepts rs bs).1 (drain accepts rs bs).2.1 := by
  intro rs
  induction rs with
  | nil => intro bs hp; exact ⟨fun p h => (by cases h), hp⟩
  | cons r rs ih =>
    intro bs hp
    cases hfind : bs.find? (accepts r) with
    | none =>
      rw [drain_cons_of_none hfind]
      exact ⟨fun p h => (by cases h), hp⟩
    | some b =>
      have hrb : accepts r b = true := List.find?_some hfind
      have hkb : keyB b = keyR r := (hkey r b hrb).symm
      have hkind : ∀ b', accepts r b' = true → decide (keyB b' = keyR r) = true :=
        fun b' hb' => decide_eq_true (hkey r b' hb').symm
      -- the observations under the key of `r`, of which `b` is one
      obtain ⟨b₀, B, hB⟩ : ∃ b₀ B, bs.filter (keyB · = keyR r) = b₀ :: B := by
        refine List.exists_cons_of_ne_nil ?_
        exact List.ne_nil_of_mem (List.mem_filter.mpr ⟨List.mem_of_find?_eq_some hfind, decide_eq_true hkb⟩)
      have hhead : watched (keyR r) → agree r b₀ ∧ ∀ p ∈ (rs.filter (keyR · = keyR r)).zip B, agree p.1 p.2 := by
        intro hw
        have hpairs := hp (keyR r) hw
        rw [List.filter_cons_of_pos (by simp), hB, List.zip_cons_cons, List.forall_mem_cons] at hpairs
        exact hpairs
      have hfirst : watched (keyR r) → b = b₀ ∧ (bs.eraseP (accepts r)).filter (keyB · = keyR r) = B := by
        intro hw
        have hkey₀ : keyB b₀ = keyR r :=
          of_decide_eq_true (List.mem_filter.mp (hB ▸ List.mem_cons_self : b₀ ∈ bs.filter _)).2
        obtain ⟨hfound, hrest, -⟩ := find_first hkind hB (hagree r b₀ hkey₀.symm (hhead hw).1)
        exact ⟨Option.some.inj (hfind.symm.trans hfound), hrest⟩
      have herase : ∀ k, k ≠ keyR r →
          (bs.eraseP (accepts r)).filter (keyB · = k) = bs.filter (keyB · = k) := by
        intro k hk
        obtain ⟨-, l₁, l₂, rfl, hl₁⟩ := List.find?_eq_some_iff_append.mp hfind
        rw [List.eraseP_append_right _ (fun a ha => by simpa using hl₁ a ha), List.eraseP_cons_of_pos hrb,
          List.filter_append, List.filter_append, List.filter_cons_of_neg (by simp [hkb, Ne.symm hk])]
      have hpaired : Paired keyR keyB watched agree rs (bs.eraseP (accepts r)) := by
        intro k hw
        by_cases hk : k = keyR r
        · subst hk
          rw [(hfirst hw).2]
          exact (hhead hw).2
        · rw [herase k hk]
          have hpairs := hp k hw
          rwa [List.filter_cons_of_neg (by simp [Ne.symm hk])] at hpairs
      obtain ⟨hmade, hleft⟩ := ih _ hpaired
      rw [drain_cons_of_some hfind]
      refine ⟨List.forall_mem_cons.mpr ⟨?_, hmade⟩, hleft⟩
      intro hw
      rw [(hfirst hw).1]
      exact (hhead hw).1

end

end Matching
