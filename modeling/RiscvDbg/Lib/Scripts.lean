import Mathlib.Data.List.Range

/-!
# Scripts that may raise

A script works on a state and returns a value or raises; what it did to the state before it raised stays
done.  Rules of pre- and postconditions for such scripts.

* `Script` — a script, with `call` for one operation and `attempt` for `try`.
* `Script.Returns` — the script does not raise, and the value and the state have the property.
* `Script.Raises` — the script raises.
* `Returns.bind` — one script after the other; `Raises.after` — the second of two scripts raises.
-/

set_option autoImplicit false

/-- A script on a state. -/
def Script (ε σ α : Type) : Type := σ → Except ε α × σ

namespace Script

variable {ε σ α β : Type}

/-- The outcome of a script, and the state it leaves. -/
def run (m : Script ε σ α) (s : σ) : Except ε α × σ := m s

/-- One operation. -/
def call (f : σ → Except ε α × σ) : Script ε σ α := f

/-- An operation that does not raise. -/
def perform (f : σ → α × σ) : Script ε σ α := fun s => (.ok (f s).1, (f s).2)

/-- An operation that changes the state and returns nothing. -/
def modify (f : σ → σ) : Script ε σ Unit := fun s => (.ok (), f s)

/-- A look at the state. -/
def look (f : σ → α) : Script ε σ α := fun s => (.ok (f s), s)

/-- `try`: what is raised becomes the value. -/
def attempt (m : Script ε σ α) : Script ε σ (Except ε α) := fun s => (.ok (m s).1, (m s).2)

instance : Monad (Script ε σ) where
  pure a := fun s => (.ok a, s)
  bind m f := fun s =>
    match m s with
    | (.ok a, s) => f a s
    | (.error e, s) => (.error e, s)

/-- `m`, from a state with `P`, returns, and as `Q` says. -/
def Returns (P : σ → Prop) (m : Script ε σ α) (Q : α → σ → Prop) : Prop :=
  ∀ s, P s → ∃ a s', m.run s = (.ok a, s') ∧ Q a s'

/-- `m`, from a state with `P`, raises. -/
def Raises (P : σ → Prop) (m : Script ε σ α) : Prop := ∀ s, P s → ∃ e s', m.run s = (.error e, s')

/-! ## Rules -/

variable {P P' : σ → Prop} {m : Script ε σ α} {f : α → Script ε σ β}

theorem run_bind_of_ok {s s' : σ} {a : α} (h : m.run s = (.ok a, s')) : (m >>= f).run s = (f a).run s' := by
  show (match m.run s with | (.ok a, s) => f a s | (.error e, s) => (.error e, s)) = _
  rw [h]
  rfl

theorem run_bind_of_error {s s' : σ} {e : ε} (h : m.run s = (.error e, s')) :
    (m >>= f).run s = (.error e, s') := by
  show (match m.run s with | (.ok a, s) => f a s | (.error e, s) => (.error e, s)) = _
  rw [h]

theorem Returns.pre {Q : α → σ → Prop} (hm : Returns P m Q) (h : ∀ s, P' s → P s) : Returns P' m Q :=
  fun s hs => hm s (h s hs)

theorem Returns.post {Q Q' : α → σ → Prop} (hm : Returns P m Q) (h : ∀ a s, Q a s → Q' a s) :
    Returns P m Q' := by
  intro s hs
  obtain ⟨a, s', heq, hq⟩ := hm s hs
  exact ⟨a, s', heq, h a s' hq⟩

theorem Returns.pure {a : α} {Q : α → σ → Prop} (h : ∀ s, P s → Q a s) :
    Returns P (Pure.pure a : Script ε σ α) Q := fun s hs => ⟨a, s, rfl, h s hs⟩

/-- **One script after the other.** -/
theorem Returns.bind {R : α → σ → Prop} {Q : β → σ → Prop} (hm : Returns P m R)
    (hf : ∀ a, Returns (R a) (f a) Q) : Returns P (m >>= f) Q := by
  intro s hs
  obtain ⟨a, s', heq, hr⟩ := hm s hs
  obtain ⟨b, t, heq', hq⟩ := hf a s' hr
  exact ⟨b, t, (run_bind_of_ok heq).trans heq', hq⟩

theorem Returns.modify {f : σ → σ} {Q : Unit → σ → Prop} (h : ∀ s, P s → Q () (f s)) :
    Returns P (Script.modify f : Script ε σ Unit) Q := fun s hs => ⟨(), f s, rfl, h s hs⟩

theorem Returns.perform {f : σ → α × σ} {Q : α → σ → Prop} (h : ∀ s, P s → Q (f s).1 (f s).2) :
    Returns P (Script.perform f : Script ε σ α) Q := fun s hs => ⟨_, _, rfl, h s hs⟩

theorem Returns.look {f : σ → α} {Q : α → σ → Prop} (h : ∀ s, P s → Q (f s) s) :
    Returns P (Script.look f : Script ε σ α) Q := fun s hs => ⟨_, _, rfl, h s hs⟩

/-- What is raised does not get past `try`. -/
theorem Returns.attempt {Q : α → σ → Prop} (hm : Returns P m Q) :
    Returns P m.attempt fun r s => ∃ a, r = .ok a ∧ Q a s := by
  intro s hs
  obtain ⟨a, s', heq, hq⟩ := hm s hs
  refine ⟨.ok a, s', ?_, a, rfl, hq⟩
  show (Except.ok (m.run s).1, (m.run s).2) = _
  rw [heq]

/-- A fact about what has been read is one about the rest of the script. -/
theorem Returns.given {φ : Prop} {Q : α → σ → Prop} (h : φ → Returns P m Q) :
    Returns (fun s => φ ∧ P s) m Q := fun s hs => h hs.1 s hs.2

/-- A script that returns from each of several states. -/
theorem Returns.some {ι : Type*} {R : ι → σ → Prop} {Q : α → σ → Prop} (h : ∀ i, Returns (R i) m Q) :
    Returns (fun s => ∃ i, R i s) m Q := fun s hs => hs.elim fun i hi => h i s hi

theorem Raises.bind (hm : Raises P m) : Raises P (m >>= f) := by
  intro s hs
  obtain ⟨e, s', heq⟩ := hm s hs
  exact ⟨e, s', run_bind_of_error heq⟩

/-- The second of two scripts raises. -/
theorem Raises.after {R : α → σ → Prop} (hm : Returns P m R) (hf : ∀ a, Raises (R a) (f a)) :
    Raises P (m >>= f) := by
  intro s hs
  obtain ⟨a, s', heq, hr⟩ := hm s hs
  obtain ⟨e, t, heq'⟩ := hf a s' hr
  exact ⟨e, t, (run_bind_of_ok heq).trans heq'⟩

end Script
