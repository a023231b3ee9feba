import Mathlib.Data.BitVec
import Mathlib.Logic.Function.Basic

/-!
# Dictionaries

A dictionary is the function that sends a key to its value, if it has one.  Nothing that uses
dictionaries here iterates over them, so insertion order is not part of the model.

`Tracks` says that the entries agree with a store; recording what is stored, or nothing, keeps it.
`toNat` reads a dictionary over bit vectors as one over numbers; it commutes with every
operation, which is how the two kinds of dictionary are compared.
-/

set_option autoImplicit false

/-- A dictionary from `K` to `V`. -/
def Dict (K V : Type*) : Type _ := K → Option V

namespace Dict

variable {K V : Type*}

/-- The empty dictionary. -/
def empty : Dict K V := fun _ => none

/-- `d.get(k)`. -/
def get? (d : Dict K V) (k : K) : Option V := d k

/-- `d.get(k, dflt)`. -/
def getD (d : Dict K V) (k : K) (dflt : V) : V := (d.get? k).getD dflt

/-- `k in d`. -/
def contains (d : Dict K V) (k : K) : Bool := (d.get? k).isSome

/-- `d[k] = v`. -/
def set [DecidableEq K] (d : Dict K V) (k : K) (v : V) : Dict K V :=
  fun k' => if k' = k then some v else d k'

/-- `d.pop(k, None)`. -/
def pop [DecidableEq K] (d : Dict K V) (k : K) : Dict K V :=
  fun k' => if k' = k then none else d k'

@[ext] theorem ext {d e : Dict K V} (h : ∀ k, d.get? k = e.get? k) : d = e := funext h

@[simp] theorem get?_empty (k : K) : (empty : Dict K V).get? k = none := rfl

section
variable [DecidableEq K]

theorem get?_set (d : Dict K V) (k : K) (v : V) (k' : K) :
    (d.set k v).get? k' = if k' = k then some v else d.get? k' := rfl

theorem get?_pop (d : Dict K V) (k k' : K) :
    (d.pop k).get? k' = if k' = k then none else d.get? k' := rfl

@[simp] theorem get?_set_self (d : Dict K V) (k : K) (v : V) : (d.set k v).get? k = some v := by
  rw [get?_set, if_pos rfl]

@[simp] theorem get?_pop_self (d : Dict K V) (k : K) : (d.pop k).get? k = none := by
  rw [get?_pop, if_pos rfl]

theorem get?_set_of_ne {k k' : K} (h : k' ≠ k) (d : Dict K V) (v : V) :
    (d.set k v).get? k' = d.get? k' := by
  rw [get?_set, if_neg h]

theorem get?_pop_of_ne {k k' : K} (h : k' ≠ k) (d : Dict K V) : (d.pop k).get? k' = d.get? k' := by
  rw [get?_pop, if_neg h]

end

/-! ## Change of keys and values -/

section
variable {n : Nat} {m : Nat}

/-- A dictionary over bit vectors as a dictionary over numbers. -/
def toNat (d : Dict (BitVec n) (BitVec m)) : Dict Nat Nat :=
  fun k => if k < 2 ^ n then (d.get? (BitVec.ofNat n k)).map BitVec.toNat else none

@[simp] theorem get?_toNat (d : Dict (BitVec n) (BitVec m)) (k : BitVec n) :
    d.toNat.get? k.toNat = (d.get? k).map BitVec.toNat := by
  simp [toNat, get?, k.isLt]

theorem get?_toNat_of_le (d : Dict (BitVec n) (BitVec m)) {k : Nat} (h : 2 ^ n ≤ k) :
    d.toNat.get? k = none := by
  simp [toNat, get?, Nat.not_lt.mpr h]

/-- Two dictionaries of numbers agree if they agree on the keys that fit and are empty beyond. -/
theorem toNat_eq_of {d : Dict (BitVec n) (BitVec m)} {e : Dict Nat Nat}
    (h : ∀ k : BitVec n, (d.get? k).map BitVec.toNat = e.get? k.toNat)
    (hbig : ∀ k, 2 ^ n ≤ k → e.get? k = none) : d.toNat = e := by
  ext1 k
  by_cases hk : k < 2 ^ n
  · have := h (BitVec.ofNat n k)
    rw [BitVec.toNat_ofNat, Nat.mod_eq_of_lt hk] at this
    rw [← this]
    simp [toNat, get?, hk]
  · rw [get?_toNat_of_le d (by omega), hbig k (by omega)]

@[simp] theorem toNat_empty : (empty : Dict (BitVec n) (BitVec m)).toNat = empty :=
  toNat_eq_of (fun _ => rfl) (fun _ _ => rfl)

@[simp] theorem toNat_set (d : Dict (BitVec n) (BitVec m)) (k : BitVec n) (v : BitVec m) :
    (d.set k v).toNat = d.toNat.set k.toNat v.toNat := by
  apply toNat_eq_of
  · intro k'
    rw [get?_set, get?_set, get?_toNat]
    by_cases h : k' = k
    · simp [h]
    · rw [if_neg h, if_neg (fun e => h (BitVec.eq_of_toNat_eq e))]
  · intro k' hk'
    have := k.isLt
    rw [get?_set_of_ne (by omega), get?_toNat_of_le _ hk']

@[simp] theorem toNat_pop (d : Dict (BitVec n) (BitVec m)) (k : BitVec n) :
    (d.pop k).toNat = d.toNat.pop k.toNat := by
  apply toNat_eq_of
  · intro k'
    rw [get?_pop, get?_pop, get?_toNat]
    by_cases h : k' = k
    · simp [h]
    · rw [if_neg h, if_neg (fun e => h (BitVec.eq_of_toNat_eq e))]
  · intro k' hk'
    have := k.isLt
    rw [get?_pop_of_ne (by omega), get?_toNat_of_le _ hk']

end

/-! ## Dictionaries that follow a store -/

/-- Every entry whose key satisfies `P` is what the store `f` holds there. -/
def Tracks (P : K → Prop) (d : Dict K V) (f : K → V) : Prop :=
  ∀ k v, P k → d.get? k = some v → f k = v

section
variable {P : K → Prop} {d : Dict K V} {f : K → V}

theorem tracks_empty (P : K → Prop) (f : K → V) : Tracks P empty f := by
  intro k v _ h
  simp at h

/-- The same value recorded and stored. -/
theorem Tracks.set [DecidableEq K] (h : Tracks P d f) {k : K} {v w : V} (hv : P k → v = w) :
    Tracks P (d.set k v) (Function.update f k w) := by
  intro k' v' hk' hget
  by_cases hkk : k' = k
  · subst hkk
    rw [get?_set_self, Option.some.injEq] at hget
    rw [Function.update_self, ← hget, hv hk']
  · rw [get?_set_of_ne hkk] at hget
    rw [Function.update_of_ne hkk]
    exact h k' v' hk' hget

/-- Nothing recorded of what is stored. -/
theorem Tracks.pop [DecidableEq K] (h : Tracks P d f) (k : K) (w : V) :
    Tracks P (d.pop k) (Function.update f k w) := by
  intro k' v' hk' hget
  by_cases hkk : k' = k
  · subst hkk
    rw [get?_pop_self] at hget
    exact absurd hget (by simp)
  · rw [get?_pop_of_ne hkk] at hget
    rw [Function.update_of_ne hkk]
    exact h k' v' hk' hget

end

end Dict
