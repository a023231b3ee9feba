import Mathlib.Data.List.Basic

/-!
# Four-state words

A word of a hardware simulator in which a bit is 0, 1 or not known.

* `FourState` — the known value and the mask of the bits that are not known.
* `toBits` — the conversion to two states, which reads an unknown bit as 0.
* `bit?`, `neZero?` — a bit and a comparison, `none` when they are not known.
* `ne` — whether an inequality is known to hold, which is when a conditional takes its branch.
-/

set_option autoImplicit false

/-- A word of `n` bits, some of which may be unknown. -/
@[ext] structure FourState (n : Nat) where
  value : BitVec n
  unknown : BitVec n
  deriving DecidableEq, Repr

namespace FourState

variable {n : Nat}

/-- A word whose bits are all known. -/
def ofBits (v : BitVec n) : FourState n := ⟨v, 0⟩

/-- The word of a variable that was never assigned. -/
def x : FourState n := ⟨0, BitVec.allOnes n⟩

/-- Conversion to two states: an unknown bit becomes 0. -/
def toBits (w : FourState n) : BitVec n := w.value &&& ~~~w.unknown

/-- Bit `i`, if it is known. -/
def bit? (w : FourState n) (i : Nat) : Option Bool :=
  if w.unknown.getLsbD i then none else some (w.value.getLsbD i)

/-- Bit `i` as a condition: an unknown bit is not true. -/
def isTrue (w : FourState n) (i : Nat) : Bool := w.bit? i == some true

/-- The bits `lo` to `lo + width - 1`. -/
def extract (w : FourState n) (lo width : Nat) : FourState width :=
  ⟨w.value.extractLsb' lo width, w.unknown.extractLsb' lo width⟩

/-- Logical shift to the right; known zeros come in. -/
def shiftRight (w : FourState n) (k : Nat) : FourState n := ⟨w.value >>> k, w.unknown >>> k⟩

/-- Whether the word differs from 0, if that is known. -/
def neZero? (w : FourState n) : Option Bool :=
  if w.toBits ≠ 0 then some true else if w.unknown = 0 then some false else none

/-- Whether the word is known to differ from `v`. -/
def ne (w : FourState n) (v : BitVec n) : Bool := (w.value ^^^ v) &&& ~~~w.unknown != 0

/-- Whether every bit is known. -/
def known (w : FourState n) : Bool := w.unknown == 0

/-- Whether the word is known to be `v`, bit by bit. -/
def caseEq (w : FourState n) (v : BitVec n) : Bool := w.known && w.value == v

@[simp] theorem toBits_ofBits (v : BitVec n) : (ofBits v).toBits = v := by
  simp [toBits, ofBits]

@[simp] theorem bit?_ofBits (v : BitVec n) (i : Nat) : (ofBits v).bit? i = some (v.getLsbD i) := by
  simp [bit?, ofBits]

@[simp] theorem isTrue_ofBits (v : BitVec n) (i : Nat) : (ofBits v).isTrue i = v.getLsbD i := by
  rw [isTrue, bit?_ofBits]
  cases v.getLsbD i <;> rfl

@[simp] theorem extract_ofBits (v : BitVec n) (lo width : Nat) :
    (ofBits v).extract lo width = ofBits (v.extractLsb' lo width) := by
  simp [extract, ofBits]

@[simp] theorem neZero?_ofBits (v : BitVec n) : (ofBits v).neZero? = some (v != 0) := by
  rw [neZero?, toBits_ofBits]
  by_cases h : v = 0
  · simp [h, ofBits]
  · rw [if_pos h, bne_iff_ne.mpr h]

@[simp] theorem ne_ofBits (v w : BitVec n) : (ofBits v).ne w = (v != w) := by
  have hmask : (v ^^^ w) &&& ~~~(0 : BitVec n) = v ^^^ w := by simp
  rw [ne, ofBits, hmask, Bool.eq_iff_iff, bne_iff_ne, bne_iff_ne, ne_eq, ne_eq]
  exact not_congr BitVec.xor_eq_zero_iff

/-- Nothing is known to differ from an unassigned word. -/
@[simp] theorem ne_x (v : BitVec n) : (x : FourState n).ne v = false := by
  simp [ne, x]

end FourState
