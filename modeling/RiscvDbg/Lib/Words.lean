import Mathlib.Data.List.Chain
import Mathlib.Data.Nat.Bitwise

/-!
# Bit fields of words

Register words occur twice: as unbounded natural numbers that are shifted and masked, and as
bit vectors whose slices are read and assigned.  This file gives both readings of a bit field
and the lemmas that relate them.

* `clear`, `extract`, `insert` — `word & ~mask`, `(word >> lsb) & ones` and the replacement of a
  field, on `Nat`; `testBit_extract` and `testBit_insert` describe them bit by bit.
* `testBit_foldl_setBits` — a word whose bits are set one after the other.
* `assemble` — a word built from disjoint fields, highest first; `foldl_insert_eq_assemble` says that
  inserting the fields one after the other gives the same word.
* `setSlice` — the slice assignment `w[lsb + k - 1 : lsb] = x` on bit vectors;
  `toNat_setSlice` says that it is `insert` on the underlying numbers.
-/

set_option autoImplicit false

namespace Words

/-- `word & ~mask`. -/
def clear (word mask : Nat) : Nat := word ^^^ (word &&& mask)

theorem testBit_clear (word mask i : Nat) :
    (clear word mask).testBit i = (word.testBit i && !mask.testBit i) := by
  simp only [clear, Nat.testBit_xor, Nat.testBit_and]
  cases word.testBit i <;> cases mask.testBit i <;> rfl

/-- `(1 << width) - 1`. -/
def ones (width : Nat) : Nat := (1 <<< width) - 1

@[simp] theorem testBit_ones (width i : Nat) : (ones width).testBit i = decide (i < width) := by
  rw [ones, Nat.one_shiftLeft, Nat.testBit_two_pow_sub_one]

theorem and_ones (n width : Nat) : n &&& ones width = n % 2 ^ width := by
  rw [ones, Nat.one_shiftLeft, Nat.and_two_pow_sub_one_eq_mod]

@[simp] theorem toNat_and_ones_one (b : Bool) : b.toNat &&& ones 1 = b.toNat := by
  cases b <;> rfl

/-- `(word >> lsb) & ((1 << width) - 1)`. -/
def extract (lsb width word : Nat) : Nat := (word >>> lsb) &&& ones width

theorem testBit_extract (lsb width word i : Nat) :
    (extract lsb width word).testBit i = (word.testBit (lsb + i) && decide (i < width)) := by
  simp [extract]

/-- A one-bit field is nonzero exactly when its bit is set. -/
theorem extract_one_ne_zero (lsb word : Nat) :
    (extract lsb 1 word != 0) = word.testBit lsb := by
  rw [extract, and_ones, Nat.testBit_eq_decide_div_mod_eq, Nat.shiftRight_eq_div_pow]
  rcases Nat.mod_two_eq_zero_or_one (word / 2 ^ lsb) with h | h <;> simp [h]

/-- `(word & ~mask) | ((value & ones) << lsb)` with `mask = ones << lsb`. -/
def insert (lsb width word value : Nat) : Nat :=
  clear word (ones width <<< lsb) ||| ((value &&& ones width) <<< lsb)

theorem testBit_insert (lsb width word value i : Nat) :
    (insert lsb width word value).testBit i =
      if lsb ≤ i ∧ i < lsb + width then value.testBit (i - lsb) else word.testBit i := by
  simp only [insert, Nat.testBit_or, testBit_clear, Nat.testBit_shiftLeft, Nat.testBit_and,
    testBit_ones]
  by_cases h : lsb ≤ i
  · by_cases h' : i < lsb + width
    · have : i - lsb < width := by omega
      simp [h, h', this]
    · have : ¬ i - lsb < width := by omega
      simp [h, h', this]
  · simp [h]

theorem testBit_insert_bit (lsb word i : Nat) (b : Bool) :
    (insert lsb 1 word b.toNat).testBit i = if i = lsb then b else word.testBit i := by
  rw [testBit_insert]
  by_cases h : i = lsb
  · subst h
    rw [if_pos (by omega), if_pos rfl, Nat.sub_self]
    cases b <;> rfl
  · rw [if_neg (by omega), if_neg h]

/-- Fields at disjoint places may be inserted in either order. -/
theorem insert_comm {l₁ w₁ l₂ w₂ : Nat} (h : l₁ + w₁ ≤ l₂) (word v₁ v₂ : Nat) :
    insert l₁ w₁ (insert l₂ w₂ word v₂) v₁ = insert l₂ w₂ (insert l₁ w₁ word v₁) v₂ := by
  apply Nat.eq_of_testBit_eq
  intro i
  simp only [testBit_insert]
  by_cases h₁ : l₁ ≤ i ∧ i < l₁ + w₁
  · rw [if_pos h₁, if_neg (by omega), if_pos h₁]
  · rw [if_neg h₁, if_neg h₁]

/-- A word whose bits `f h` are set for the elements `h` of a list that satisfy `p`. -/
theorem testBit_foldl_setBits {α : Type*} (p : α → Bool) (f : α → Nat) (hs : List α) (j : Nat) :
    ∀ word, (hs.foldl (fun word h => if p h then word ||| (1 <<< f h) else word) word).testBit j =
      (word.testBit j || hs.any fun h => p h && f h == j) := by
  induction hs with
  | nil => intro word; simp
  | cons h hs ih =>
    intro word
    rw [List.foldl_cons, List.any_cons, ih]
    cases p h with
    | false => simp
    | true =>
      rw [if_pos rfl, Nat.testBit_or, Nat.one_shiftLeft, Nat.testBit_two_pow, Bool.true_and,
        Bool.or_assoc]
      rfl

/-! ## Words built from disjoint fields -/

/-- The fields `(lsb, width, value)`, shifted to their places. -/
def assemble (fs : List (Nat × Nat × Nat)) : Nat :=
  fs.foldl (fun word f => word ||| ((f.2.2 &&& ones f.2.1) <<< f.1)) 0

/-- The low `n` bits of the word are 0. -/
def LowZero (n word : Nat) : Prop := ∀ i < n, word.testBit i = false

theorem LowZero.insert_eq {lsb width word : Nat} (h : LowZero (lsb + width) word) (value : Nat) :
    insert lsb width word value = word ||| ((value &&& ones width) <<< lsb) := by
  apply Nat.eq_of_testBit_eq
  intro i
  rw [testBit_insert, Nat.testBit_or, Nat.testBit_shiftLeft, Nat.testBit_and, testBit_ones]
  by_cases hi : lsb ≤ i ∧ i < lsb + width
  · have hw : i - lsb < width := by omega
    simp [hi, h i hi.2, hw]
  · rw [if_neg hi]
    by_cases hle : lsb ≤ i
    · have hw : ¬ i - lsb < width := by omega
      simp [hw]
    · simp [hle]

theorem LowZero.or {n word : Nat} (h : LowZero n word) (value : Nat) {lsb : Nat} (hle : lsb ≤ n) :
    LowZero lsb (word ||| (value <<< lsb)) := by
  intro i hi
  have hlow : ¬ lsb ≤ i := by omega
  rw [Nat.testBit_or, Nat.testBit_shiftLeft, h i (by omega)]
  simp [hlow]

theorem foldl_insert_eq (fs : List (Nat × Nat × Nat)) :
    ∀ word, (∀ f ∈ fs.head?, LowZero (f.1 + f.2.1) word) →
      fs.IsChain (fun f g => g.1 + g.2.1 ≤ f.1) →
      fs.foldl (fun word f => insert f.1 f.2.1 word f.2.2) word =
        fs.foldl (fun word f => word ||| ((f.2.2 &&& ones f.2.1) <<< f.1)) word := by
  induction fs with
  | nil => intro word _ _; rfl
  | cons f fs ih =>
    intro word hlow hchain
    have hf := hlow f rfl
    rw [List.foldl_cons, List.foldl_cons, hf.insert_eq]
    refine ih _ ?_ hchain.tail
    intro g hg i hi
    -- the next field lies below the one just inserted
    have hle := hchain.rel_head? hg
    exact hf.or _ (show f.1 ≤ f.1 + f.2.1 by omega) i (by omega)

/-- **Fields inserted from the highest to the lowest.** -/
theorem foldl_insert_eq_assemble {fs : List (Nat × Nat × Nat)}
    (h : fs.IsChain fun f g => g.1 + g.2.1 ≤ f.1) :
    fs.foldl (fun word f => insert f.1 f.2.1 word f.2.2) 0 = assemble fs :=
  foldl_insert_eq fs 0 (fun _ _ i _ => Nat.zero_testBit i) h

/-! ## Slice assignments on bit vectors -/

/-- The slice assignment `w[lsb + k - 1 : lsb] = x`. -/
def setSlice {n k : Nat} (w : BitVec n) (lsb : Nat) (x : BitVec k) : BitVec n :=
  (w &&& ~~~((BitVec.allOnes k).setWidth n <<< lsb)) ||| (x.setWidth n <<< lsb)

theorem toNat_setSlice {n k lsb : Nat} (h : lsb + k ≤ n) (w : BitVec n) (x : BitVec k) :
    (setSlice w lsb x).toNat = insert lsb k w.toNat x.toNat := by
  apply Nat.eq_of_testBit_eq
  intro i
  rw [testBit_insert, BitVec.testBit_toNat, BitVec.testBit_toNat, BitVec.testBit_toNat]
  simp only [setSlice, BitVec.getLsbD_or, BitVec.getLsbD_and, BitVec.getLsbD_not,
    BitVec.getLsbD_shiftLeft, BitVec.getLsbD_setWidth, BitVec.getLsbD_allOnes]
  by_cases hin : lsb ≤ i ∧ i < lsb + k
  · have h₁ : i < n := by omega
    have h₂ : i - lsb < k := by omega
    have h₃ : i - lsb < n := by omega
    have h₄ : ¬ i < lsb := by omega
    simp [hin, h₁, h₂, h₃, h₄]
  · rw [if_neg hin]
    by_cases h₁ : i < n
    · by_cases h₄ : i < lsb
      · simp [h₁, h₄]
      · have h₂ : ¬ i - lsb < k := by omega
        have h₃ : x.getLsbD (i - lsb) = false := BitVec.getLsbD_of_ge _ _ (by omega)
        simp [h₁, h₂, h₃]
    · have h₂ : w.getLsbD i = false := BitVec.getLsbD_of_ge _ _ (by omega)
      simp [h₁, h₂]

/-- The assignment of a single bit, `w[i] = b`. -/
def setBit {n : Nat} (w : BitVec n) (i : Nat) (b : Bool) : BitVec n := setSlice w i (BitVec.ofBool b)

theorem toNat_setBit_true {n i : Nat} (h : i < n) (w : BitVec n) :
    (setBit w i true).toNat = w.toNat ||| (1 <<< i) := by
  rw [setBit, toNat_setSlice (by omega)]
  apply Nat.eq_of_testBit_eq
  intro j
  rw [show (BitVec.ofBool true).toNat = true.toNat from rfl, testBit_insert_bit, Nat.testBit_or,
    Nat.one_shiftLeft, Nat.testBit_two_pow]
  by_cases hj : j = i
  · simp [hj]
  · simp [hj, Ne.symm hj]

theorem toNat_setBit {n i : Nat} (h : i < n) (w : BitVec n) (b : Bool) :
    (setBit w i b).toNat = insert i 1 w.toNat b.toNat := by
  rw [setBit, toNat_setSlice (by omega), BitVec.toNat_ofBool]

end Words
