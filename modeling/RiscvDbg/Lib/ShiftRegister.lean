import Mathlib.Data.List.Induction
import RiscvDbg.Lib.FourState

/-!
# Shift registers filled from the top

A register of `n + 1` bits that a serial line fills least significant bit first: every bit enters at
the top and pushes the others down, so that `k` bits stand in the top `k` places, to be aligned to the
right by a shift.

* `shiftIn` — one bit enters.
* `setBit` — the other way to collect a serial line: bit `i` is written into place `i`.
* `Holds` — the top `k` places hold the low `k` bits of a word.
* `Holds.shiftRight` — aligned to the right, a register that holds `k` bits of `v` is the low `k` bits
  of `v`, whatever was in it before.
* `SameTop` — two registers agree in the top `k` places, as they do after the same `k` bits whatever was in them.
* `fill` — a cleared register after a list of bits; `getLsbD_fill` says which bit stands in which place,
  however many there were.
-/

set_option autoImplicit false

namespace ShiftRegister

variable {n : Nat}

/-- One bit enters at the top. -/
def shiftIn (w : BitVec (n + 1)) (b : Bool) : BitVec (n + 1) := BitVec.cons b (w.extractLsb' 1 n)

/-- Bit `i` is written; a bit beyond the word is lost. -/
def setBit {m : Nat} (w : BitVec m) (i : Nat) (b : Bool) : BitVec m :=
  if b then w ||| BitVec.twoPow m i else w &&& ~~~BitVec.twoPow m i

/-- The low `k` bits of a word. -/
def lowBits {m : Nat} (k : Nat) (v : BitVec m) : BitVec m := (v.setWidth k).setWidth m

/-- The top `k` places of `w` hold the low `k` bits of `v`. -/
def Holds (w : BitVec (n + 1)) (k : Nat) (v : BitVec (n + 1)) : Prop :=
  ∀ i < k, w.getLsbD (n + 1 - k + i) = v.getLsbD i

theorem getLsbD_shiftIn (w : BitVec (n + 1)) (b : Bool) (i : Nat) :
    (shiftIn w b).getLsbD i = if i = n then b else decide (i < n) && w.getLsbD (i + 1) := by
  rw [shiftIn, BitVec.getLsbD_cons, BitVec.getLsbD_extractLsb', Nat.add_comm 1 i]

theorem getLsbD_setBit {m : Nat} (w : BitVec m) (i : Nat) (b : Bool) (j : Nat) :
    (setBit w i b).getLsbD j = if j = i ∧ j < m then b else w.getLsbD j := by
  unfold setBit
  by_cases hj : j < m
  · cases b <;> by_cases hji : i = j <;> simp [hj, hji, eq_comm]
  · have hge : m ≤ j := by omega
    rw [BitVec.getLsbD_of_ge _ _ hge, if_neg (fun h => hj h.2), BitVec.getLsbD_of_ge _ _ hge]

theorem getLsbD_lowBits {m : Nat} (k : Nat) (v : BitVec m) (i : Nat) :
    (lowBits k v).getLsbD i = (decide (i < k) && v.getLsbD i) := by
  rw [lowBits, BitVec.getLsbD_setWidth, BitVec.getLsbD_setWidth]
  by_cases hi : i < m
  · simp [hi]
  · simp [hi, BitVec.getLsbD_of_ge v i (by omega)]

theorem lowBits_zero : lowBits 0 (0 : BitVec n) = 0 := by
  apply BitVec.eq_of_getLsbD_eq
  intro i _
  rw [getLsbD_lowBits]
  simp

/-- A word without bits from `k` on has none from `k + 1` on after bit `k` is written. -/
theorem lowBits_setBit {v : BitVec n} {k : Nat} (h : lowBits k v = v) (b : Bool) :
    lowBits (k + 1) (setBit v k b) = setBit v k b := by
  apply BitVec.eq_of_getLsbD_eq
  intro i _
  rw [getLsbD_lowBits, getLsbD_setBit]
  rcases Nat.lt_or_ge i (k + 1) with hlt | hge
  · rw [decide_eq_true hlt, Bool.true_and]
  · have hi := congrArg (fun u => u.getLsbD i) h
    rw [getLsbD_lowBits, decide_eq_false (by omega), Bool.false_and] at hi
    rw [if_neg (by omega), ← hi, Bool.and_false]

theorem holds_zero (w v : BitVec (n + 1)) : Holds w 0 v := by
  intro i hi
  omega

/-- The next bit of `v` enters: the register holds one bit more. -/
theorem Holds.shiftIn {w v : BitVec (n + 1)} {k : Nat} (h : Holds w k v) (hk : k ≤ n) :
    Holds (shiftIn w (v.getLsbD k)) (k + 1) v := by
  intro i hi
  rw [getLsbD_shiftIn]
  rcases Nat.lt_or_ge i k with hlt | hge
  · have hold := h i hlt
    have hplace : n + 1 - (k + 1) + i + 1 = n + 1 - k + i := by omega
    rw [if_neg (by omega), hplace, hold, decide_eq_true (by omega), Bool.true_and]
  · have hlast : i = k := by omega
    subst hlast
    rw [if_pos (by omega)]

/-- Only the low `k` bits of the word matter. -/
theorem Holds.congr {w v v' : BitVec (n + 1)} {k : Nat} (h : Holds w k v)
    (hv : ∀ i < k, v'.getLsbD i = v.getLsbD i) : Holds w k v' := by
  intro i hi
  rw [h i hi, hv i hi]

/-- **Alignment.**  Whatever the register held before. -/
theorem Holds.shiftRight {w v : BitVec (n + 1)} {k : Nat} (h : Holds w k v) (hk : k ≤ n + 1) :
    w >>> (n + 1 - k) = lowBits k v := by
  apply BitVec.eq_of_getLsbD_eq
  intro i _
  rw [BitVec.getLsbD_ushiftRight, getLsbD_lowBits]
  rcases Nat.lt_or_ge i k with hlt | hge
  · rw [h i hlt, decide_eq_true hlt, Bool.true_and]
  · rw [BitVec.getLsbD_of_ge _ _ (by omega), decide_eq_false (by omega), Bool.false_and]

/-- A word collected bit by bit agrees with its former self below the bit written. -/
theorem Holds.setBit {w v : BitVec (n + 1)} {k : Nat} (h : Holds w k v) (b : Bool) :
    Holds w k (setBit v k b) := by
  apply h.congr
  intro i hi
  rw [getLsbD_setBit, if_neg (by omega)]

/-! ## Two registers on one line -/

/-- The top `k` places of the two registers hold the same. -/
def SameTop (w : BitVec (n + 1)) (k : Nat) (w' : BitVec (n + 1)) : Prop :=
  ∀ i ≤ n, n + 1 ≤ i + k → w.getLsbD i = w'.getLsbD i

theorem sameTop_zero (w w' : BitVec (n + 1)) : SameTop w 0 w' := by
  intro i hi hle
  omega

/-- A bit enters both. -/
theorem SameTop.shiftIn {w w' : BitVec (n + 1)} {k : Nat} (h : SameTop w k w') (b : Bool) :
    SameTop (shiftIn w b) (k + 1) (ShiftRegister.shiftIn w' b) := by
  intro i hi hle
  rw [getLsbD_shiftIn, getLsbD_shiftIn]
  split_ifs with htop
  · rfl
  · rw [h (i + 1) (by omega) (by omega)]

/-- Aligned to the right they are the same. -/
theorem SameTop.shiftRight {w w' : BitVec (n + 1)} {k s : Nat} (h : SameTop w k w') (hs : n + 1 ≤ s + k) :
    w >>> s = w' >>> s := by
  apply BitVec.eq_of_getLsbD_eq
  intro i hi
  rw [BitVec.getLsbD_ushiftRight, BitVec.getLsbD_ushiftRight]
  rcases Nat.lt_or_ge n (s + i) with hgt | hle
  · rw [BitVec.getLsbD_of_ge _ _ (by omega), BitVec.getLsbD_of_ge _ _ (by omega)]
  · exact h (s + i) hle (by omega)

theorem SameTop.eq {w w' : BitVec (n + 1)} {k : Nat} (h : SameTop w k w') (hk : n + 1 ≤ k) : w = w' := by
  apply BitVec.eq_of_getLsbD_eq
  intro i hi
  exact h i (by omega) (by omega)

/-! ## Lists of bits -/

/-- A cleared register after the bits have entered, the first of the list first. -/
def fill (bits : List Bool) : BitVec (n + 1) := bits.foldl shiftIn 0

@[simp] theorem fill_nil : (fill [] : BitVec (n + 1)) = 0 := rfl

theorem fill_concat (bits : List Bool) (b : Bool) :
    (fill (bits ++ [b]) : BitVec (n + 1)) = shiftIn (fill bits) b := List.foldl_concat _ _ _ _

/-- Place `i` holds the bit that `n - i` others followed; it is clear if there were not so many. -/
theorem getLsbD_fill (bits : List Bool) (i : Nat) :
    (fill bits : BitVec (n + 1)).getLsbD i = (decide (i ≤ n) && (bits.reverse[n - i]?).getD false) := by
  induction bits using List.reverseRecOn generalizing i with
  | nil => simp
  | append_singleton bits b ih =>
    rw [fill_concat, getLsbD_shiftIn, List.reverse_concat]
    rcases Nat.lt_trichotomy i n with hlt | rfl | hgt
    · obtain ⟨k, hk⟩ : ∃ k, n - i = k + 1 := ⟨n - i - 1, by omega⟩
      have hnext : n - (i + 1) = k := by omega
      rw [if_neg (by omega), ih, hk, List.getElem?_cons_succ, hnext]
      simp [hlt, Nat.le_of_lt hlt, Nat.succ_le_of_lt hlt]
    · simp
    · rw [if_neg (by omega), decide_eq_false (by omega), decide_eq_false (by omega), Bool.false_and, Bool.false_and]

/-- A register filled with the bits of a word is the word. -/
theorem fill_bits (v : BitVec (n + 1)) : fill ((List.range (n + 1)).map v.getLsbD) = v := by
  apply BitVec.eq_of_getLsbD_eq
  intro i hi
  rw [getLsbD_fill, decide_eq_true (by omega), Bool.true_and,
    List.getElem?_reverse (by rw [List.length_map, List.length_range]; omega), List.length_map, List.length_range,
    List.getElem?_map, List.getElem?_range (by omega), Option.map_some, Option.getD_some]
  congr 1
  omega

end ShiftRegister

/-! ## Four states -/

namespace FourState

variable {n : Nat}

/-- The bit `b`, known or not, enters at the top. -/
def shiftIn (w : FourState (n + 1)) (b : FourState 1) : FourState (n + 1) :=
  ⟨ShiftRegister.shiftIn w.value (b.value.getLsbD 0),
    ShiftRegister.shiftIn w.unknown (b.unknown.getLsbD 0)⟩

/-- A cleared register after a list of bits, known or not. -/
def fill (bits : List (FourState 1)) : FourState (n + 1) := bits.foldl shiftIn (ofBits 0)

theorem fill_concat (bits : List (FourState 1)) (b : FourState 1) :
    (fill (bits ++ [b]) : FourState (n + 1)) = (fill bits).shiftIn b := List.foldl_concat _ _ _ _

theorem value_fill (bits : List (FourState 1)) :
    (fill bits : FourState (n + 1)).value = ShiftRegister.fill (bits.map fun b => b.value.getLsbD 0) := by
  induction bits using List.reverseRecOn with
  | nil => rfl
  | append_singleton bits b ih =>
    rw [fill_concat, List.map_append, List.map_singleton, ShiftRegister.fill_concat, ← ih]
    rfl

theorem unknown_fill (bits : List (FourState 1)) :
    (fill bits : FourState (n + 1)).unknown = ShiftRegister.fill (bits.map fun b => b.unknown.getLsbD 0) := by
  induction bits using List.reverseRecOn with
  | nil => rfl
  | append_singleton bits b ih =>
    rw [fill_concat, List.map_append, List.map_singleton, ShiftRegister.fill_concat, ← ih]
    rfl

/-- A register filled to the brim holds the bits in their order. -/
theorem bit?_fill {bits : List (FourState 1)} (hlen : bits.length = n + 1) {i : Nat} (hi : i ≤ n) :
    (fill bits : FourState (n + 1)).bit? i = bits[i]?.bind (·.bit? 0) := by
  have hplace : ∀ f : FourState 1 → Bool,
      (ShiftRegister.fill (bits.map f) : BitVec (n + 1)).getLsbD i = (bits[i]?.map f).getD false := by
    intro f
    rw [ShiftRegister.getLsbD_fill, decide_eq_true hi, Bool.true_and,
      List.getElem?_reverse (by rw [List.length_map]; omega), List.length_map, List.getElem?_map]
    congr 3
    omega
  rw [bit?, value_fill, unknown_fill, hplace, hplace]
  obtain ⟨b, hb⟩ : ∃ b, bits[i]? = some b := ⟨_, List.getElem?_eq_getElem (by omega)⟩
  rw [hb]
  rfl

/-- The bit `b`, known or not, is written into place `i`. -/
def setBit (w : FourState n) (i : Nat) (b : FourState 1) : FourState n :=
  ⟨ShiftRegister.setBit w.value i (b.value.getLsbD 0),
    ShiftRegister.setBit w.unknown i (b.unknown.getLsbD 0)⟩

/-- The top `k` places of `w` hold the word `v`, which has no other bits. -/
structure Holds (w : FourState (n + 1)) (k : Nat) (v : FourState (n + 1)) : Prop where
  value : ShiftRegister.Holds w.value k v.value
  unknown : ShiftRegister.Holds w.unknown k v.unknown
  value_low : ShiftRegister.lowBits k v.value = v.value
  unknown_low : ShiftRegister.lowBits k v.unknown = v.unknown

theorem holds_zero (w : FourState (n + 1)) : Holds w 0 (ofBits 0) :=
  ⟨ShiftRegister.holds_zero _ _, ShiftRegister.holds_zero _ _, ShiftRegister.lowBits_zero,
    ShiftRegister.lowBits_zero⟩

/-- The two ways to collect a serial line keep step. -/
theorem Holds.shiftIn {w v : FourState (n + 1)} {k : Nat} (h : Holds w k v) (hk : k ≤ n)
    (b : FourState 1) : Holds (w.shiftIn b) (k + 1) (v.setBit k b) := by
  have step : ∀ {w v : BitVec (n + 1)} (c : Bool), ShiftRegister.Holds w k v →
      ShiftRegister.Holds (ShiftRegister.shiftIn w c) (k + 1) (ShiftRegister.setBit v k c) := by
    intro w v c hw
    have hbit : (ShiftRegister.setBit v k c).getLsbD k = c := by
      rw [ShiftRegister.getLsbD_setBit, if_pos ⟨rfl, by omega⟩]
    have := (hw.setBit c).shiftIn hk
    rwa [hbit] at this
  exact ⟨step _ h.value, step _ h.unknown, ShiftRegister.lowBits_setBit h.value_low _,
    ShiftRegister.lowBits_setBit h.unknown_low _⟩

/-- **Alignment.**  The register aligned to the right is the word collected bit by bit. -/
theorem Holds.shiftRight {w v : FourState (n + 1)} {k : Nat} (h : Holds w k v) (hk : k ≤ n + 1) :
    w.shiftRight (n + 1 - k) = v := by
  rw [FourState.shiftRight, h.value.shiftRight hk, h.unknown.shiftRight hk, h.value_low, h.unknown_low]

/-- The top `k` places of the two registers hold the same, known or not. -/
structure SameTop (w : FourState (n + 1)) (k : Nat) (w' : FourState (n + 1)) : Prop where
  value : ShiftRegister.SameTop w.value k w'.value
  unknown : ShiftRegister.SameTop w.unknown k w'.unknown

theorem sameTop_zero (w w' : FourState (n + 1)) : SameTop w 0 w' :=
  ⟨ShiftRegister.sameTop_zero _ _, ShiftRegister.sameTop_zero _ _⟩

theorem SameTop.shiftIn {w w' : FourState (n + 1)} {k : Nat} (h : SameTop w k w') (b : FourState 1) :
    SameTop (w.shiftIn b) (k + 1) (w'.shiftIn b) := ⟨h.value.shiftIn _, h.unknown.shiftIn _⟩

theorem SameTop.shiftRight {w w' : FourState (n + 1)} {k s : Nat} (h : SameTop w k w') (hs : n + 1 ≤ s + k) :
    w.shiftRight s = w'.shiftRight s := by
  rw [FourState.shiftRight, FourState.shiftRight, h.value.shiftRight hs, h.unknown.shiftRight hs]

end FourState
