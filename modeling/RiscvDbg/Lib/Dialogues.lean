import Mathlib.Data.List.Basic

/-!
# Dialogues with a device

A program that puts one request after the other to a device and goes on with each response.  What it does
is a matter of the responses alone; the device and its state decide which these are.

* `Dialogue` — a program; `item` — one request.
* `run`, `transcript` — a program at a device: its value and the state it leaves, and what was exchanged.
* `Says` — the transcripts a program can have, whatever the device, with its value for each.
* `says_run` — at a device a program has one of its transcripts; `says_bind` — the transcripts of two
  programs one after the other.
* `Asks` — a property of every request a program can make; `run_transcript` — **the invariant rule**, with the
  transcript so far in the invariant.
-/

set_option autoImplicit false

/-- A program that asks for responses of type `ω` with requests of type `ρ`. -/
inductive Dialogue (ρ ω α : Type) where
  | done (a : α)
  | ask (q : ρ) (k : ω → Dialogue ρ ω α)

namespace Dialogue

variable {ρ ω σ α β : Type}

/-- One program after the other. -/
def bind : Dialogue ρ ω α → (α → Dialogue ρ ω β) → Dialogue ρ ω β
  | done a, f => f a
  | ask q k, f => ask q fun w => (k w).bind f

instance : Monad (Dialogue ρ ω) where
  pure := done
  bind := Dialogue.bind

/-- One request; the value is the response. -/
def item (q : ρ) : Dialogue ρ ω ω := ask q done

/-! ## At a device -/

/-- The value of a program and the state it leaves the device in. -/
def run (device : σ → ρ → ω × σ) : Dialogue ρ ω α → σ → α × σ
  | done a, s => (a, s)
  | ask q k, s => (k (device s q).1).run device (device s q).2

/-- The requests of a program with the responses they got. -/
def transcript (device : σ → ρ → ω × σ) : Dialogue ρ ω α → σ → List (ρ × ω)
  | done _, _ => []
  | ask q k, s => (q, (device s q).1) :: (k (device s q).1).transcript device (device s q).2

/-! ## Transcripts -/

/-- With this transcript the program has this value. -/
inductive Says : Dialogue ρ ω α → List (ρ × ω) → α → Prop where
  | done (a : α) : Says (done a) [] a
  | ask {q : ρ} {k : ω → Dialogue ρ ω α} {w : ω} {tr : List (ρ × ω)} {a : α} (h : Says (k w) tr a) :
    Says (ask q k) ((q, w) :: tr) a

variable {p : Dialogue ρ ω α} {f : α → Dialogue ρ ω β} {tr : List (ρ × ω)}

theorem says_run (device : σ → ρ → ω × σ) (p : Dialogue ρ ω α) :
    ∀ s, Says p (p.transcript device s) (p.run device s).1 := by
  induction p with
  | done a => intro s; exact .done a
  | ask q k ih => intro s; exact .ask (ih (device s q).1 (device s q).2)

theorem says_pure {a b : α} : Says (pure a : Dialogue ρ ω α) tr b ↔ tr = [] ∧ b = a := by
  refine ⟨fun h => ?_, ?_⟩
  · cases h
    exact ⟨rfl, rfl⟩
  · rintro ⟨rfl, rfl⟩
    exact .done _

theorem says_ask {q : ρ} {k : ω → Dialogue ρ ω α} {a : α} :
    Says (ask q k) tr a ↔ ∃ w tr', tr = (q, w) :: tr' ∧ Says (k w) tr' a := by
  refine ⟨fun h => ?_, ?_⟩
  · cases h with
    | @ask _ _ w tr' _ h => exact ⟨w, tr', rfl, h⟩
  · rintro ⟨w, tr', rfl, h⟩
    exact .ask h

/-- **One program after the other**: its transcript is the two in a row. -/
theorem says_bind {b : β} :
    Says (p >>= f) tr b ↔ ∃ tr₁ tr₂ a, tr = tr₁ ++ tr₂ ∧ Says p tr₁ a ∧ Says (f a) tr₂ b := by
  induction p generalizing tr with
  | done a =>
    refine ⟨fun h => ⟨[], tr, a, rfl, .done a, h⟩, ?_⟩
    rintro ⟨tr₁, tr₂, a', rfl, h₁, h₂⟩
    cases h₁
    exact h₂
  | ask q k ih =>
    refine says_ask.trans ⟨?_, ?_⟩
    · rintro ⟨w, tr', rfl, h⟩
      obtain ⟨tr₁, tr₂, a, rfl, h₁, h₂⟩ := (ih w).mp h
      exact ⟨(q, w) :: tr₁, tr₂, a, rfl, .ask h₁, h₂⟩
    · rintro ⟨tr₁, tr₂, a, rfl, h₁, h₂⟩
      obtain ⟨w, tr', rfl, h⟩ := says_ask.mp h₁
      exact ⟨w, tr' ++ tr₂, rfl, (ih w).mpr ⟨tr', tr₂, a, rfl, h, h₂⟩⟩

/-- A request and what the program does with the response. -/
theorem says_item {f : ω → Dialogue ρ ω β} {q : ρ} {b : β} :
    Says (item q >>= f) tr b ↔ ∃ w tr', tr = (q, w) :: tr' ∧ Says (f w) tr' b := says_ask

/-! ## Requests -/

/-- Every request the program can make has the property. -/
def Asks (P : ρ → Prop) : Dialogue ρ ω α → Prop
  | done _ => True
  | ask q k => P q ∧ ∀ w, (k w).Asks P

variable {P : ρ → Prop}

theorem Asks.pure (a : α) : Asks P (Pure.pure a : Dialogue ρ ω α) := trivial

theorem Asks.item {q : ρ} (hq : P q) : Asks P (Dialogue.item q : Dialogue ρ ω ω) :=
  ⟨hq, fun _ => trivial⟩

theorem Asks.bind (hp : p.Asks P) (hf : ∀ a, (f a).Asks P) : (p >>= f).Asks P := by
  induction p with
  | done a => exact hf a
  | ask q k ih => exact ⟨hp.1, fun w => ih w (hp.2 w)⟩

/-- **Invariant rule.**  What holds of the transcript so far and the state, and is kept by every request of
the program, holds at its end. -/
theorem run_transcript {device : σ → ρ → ω × σ} {I : List (ρ × ω) → σ → Prop}
    (hstep : ∀ h s q, P q → I h s → I (h ++ [(q, (device s q).1)]) (device s q).2) :
    ∀ h s, p.Asks P → I h s → I (h ++ p.transcript device s) (p.run device s).2 := by
  induction p with
  | done a =>
    intro h s _ hI
    rw [transcript, List.append_nil]
    exact hI
  | ask q k ih =>
    intro h s hp hI
    have hrest := ih (device s q).1 (h ++ [(q, (device s q).1)]) (device s q).2 (hp.2 _) (hstep h s q hp.1 hI)
    rw [List.append_assoc, List.singleton_append] at hrest
    exact hrest

end Dialogue
