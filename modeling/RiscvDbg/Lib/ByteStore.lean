import Mathlib.Data.List.TakeWhile
import RiscvDbg.Lib.Dicts

/-!
# Byte-addressed stores and logs of range writes

* `Range` — a write of `width` bytes at `addr`; `Range.store` performs it on a memory.
* `last`, `since` — in a log listed newest first, the last entry with a key and the entries after it.
* `replay` — the memory a log leaves; `replay_of_last` reads a byte range back from the last entry
  with a key, if no entry since has touched it.
* `record` — the dictionary that keeps one value for each key of a log; `get?_record` looks it up.
-/

set_option autoImplicit false

namespace ByteStore

/-- A write of the bytes `data 0`, …, `data (width - 1)` at `addr`. -/
structure Range where
  addr : Nat
  width : Nat
  data : Nat → Nat

namespace Range

/-- The memory after the write. -/
def store (r : Range) (mem : Nat → Nat) : Nat → Nat := fun b =>
  if r.addr ≤ b ∧ b < r.addr + r.width then r.data (b - r.addr) else mem b

/-- The write touches no byte of `[a, a + n)`. -/
def Avoids (r : Range) (a n : Nat) : Prop := r.addr + r.width ≤ a ∨ a + n ≤ r.addr

instance (r : Range) (a n : Nat) : Decidable (r.Avoids a n) :=
  inferInstanceAs (Decidable (r.addr + r.width ≤ a ∨ a + n ≤ r.addr))

theorem store_inside (r : Range) (mem : Nat → Nat) {k : Nat} (h : k < r.width) :
    r.store mem (r.addr + k) = r.data k := by
  rw [store, if_pos (by omega), Nat.add_sub_cancel_left]

theorem store_of_avoids {r : Range} {a n : Nat} (h : r.Avoids a n) (mem : Nat → Nat) {k : Nat}
    (hk : k < n) : r.store mem (a + k) = mem (a + k) := by
  rw [store, if_neg (by rcases h with h | h <;> omega)]

end Range

section
variable {α K : Type} [DecidableEq K] (key : α → K)

/-- The last entry with key `k` of a log listed newest first. -/
def last (k : K) (log : List α) : Option α := (log.dropWhile fun e => key e != k).head?

/-- The entries after the last one with key `k`. -/
def since (k : K) (log : List α) : List α := log.takeWhile fun e => key e != k

variable {key} {k : K} {e : α} {log : List α}

theorem last_cons_of_eq (h : key e = k) : last key k (e :: log) = some e := by
  simp [last, h]

theorem last_cons_of_ne (h : key e ≠ k) : last key k (e :: log) = last key k log := by
  simp [last, h]

theorem mem_of_last (h : last key k log = some e) : e ∈ log :=
  (List.dropWhile_sublist _).subset (List.mem_of_mem_head? h)

theorem since_cons_of_ne (h : key e ≠ k) : since key k (e :: log) = e :: since key k log := by
  simp [since, h]

/-- The memory a log leaves, from `mem`. -/
def replay (range : α → Range) (mem : Nat → Nat) (log : List α) : Nat → Nat :=
  log.foldr (fun e m => (range e).store m) mem

/-- **Last writer.**  A range that the last entry with key `k` has written, and none since has
touched, holds what that entry wrote. -/
theorem replay_of_last {range : α → Range} (mem : Nat → Nat) {a n : Nat} (hl : last key k log = some e)
    (haddr : (range e).addr = a) (hwidth : n ≤ (range e).width)
    (hsince : ∀ v ∈ since key k log, (range v).Avoids a n) {i : Nat} (hi : i < n) :
    replay range mem log (a + i) = (range e).data i := by
  induction log with
  | nil => simp [last] at hl
  | cons v log ih =>
    by_cases hv : key v = k
    · rw [last_cons_of_eq hv, Option.some.injEq] at hl
      subst hl
      rw [← haddr]
      exact Range.store_inside _ _ (by omega)
    · rw [last_cons_of_ne hv] at hl
      rw [since_cons_of_ne hv] at hsince
      have hav := hsince v List.mem_cons_self
      rw [← ih hl fun u hu => hsince u (List.mem_cons_of_mem _ hu)]
      exact Range.store_of_avoids hav _ hi

/-- The dictionary of the last value recorded for each key. -/
def record {V : Type} (key : α → K) (value : α → V) (log : List α) : Dict K V :=
  log.foldr (fun e d => d.set (key e) (value e)) .empty

theorem get?_record {V : Type} (value : α → V) (k : K) (log : List α) :
    (record key value log).get? k = (last key k log).map value := by
  induction log with
  | nil => rfl
  | cons e log ih =>
    by_cases he : key e = k
    · rw [last_cons_of_eq he, ← he]
      exact Dict.get?_set_self _ _ _
    · rw [last_cons_of_ne he, ← ih]
      exact Dict.get?_set_of_ne (Ne.symm he) _ _

end

end ByteStore
