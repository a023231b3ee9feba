import RiscvDbg.NativeTrigger.Counting

/-!
# Re-entrancy protection and less privileged code

Two models with the same triggers and any two protection schemes, on events of S-mode and U-mode that agree
but for the protection inputs `mie` and `mte`.

* `Slot.reacts` — the event does something to the trigger; `scan_eq_self_iff` — the loop does nothing exactly
  if no trigger reacts.
* `Alike` — the two models report the same and keep the same triggers, at every event.
* `hidden` — the event is kept from the triggers although it is not one of M-mode: `_suppressed` does not ask
  for the mode where the scheme is `TCONTROL`.
* `alike_iff` — the two models are alike exactly if, wherever some trigger reacts, the event is hidden from
  both or from neither.
-/

set_option autoImplicit false

namespace RiscvDbg.NativeTrigger

namespace Slot

variable {sl : Slot} {e : Occurrence}

/-- The event makes the trigger fire or count. -/
def reacts (sl : Slot) (e : Occurrence) : Bool :=
  sl.trigger.action = TRIGGER_ACTION_BREAKPOINT && sl.trigger.enabledIn e.prv &&
    match sl.trigger.kind with
    | some .mcontrol6 => (wanted e.kind).any (·.test sl.trigger.tdata1) && matched e = sl.trigger.tdata2
    | some .icount => e.kind = .retire && (0 < sl.trigger.count || sl.pending)
    | some .itrigger => e.kind = .interrupt && sl.trigger.tdata2.testBit e.cause
    | some .etrigger => e.kind = .exception && sl.trigger.tdata2.testBit e.cause
    | none => false

theorem oneMcontrol6_isSome :
    (sl.oneMcontrol6 e).isSome = (sl.trigger.enabledIn e.prv &&
      ((wanted e.kind).any (·.test sl.trigger.tdata1) && matched e = sl.trigger.tdata2)) := by
  unfold oneMcontrol6
  cases wanted e.kind with
  | none => simp
  | some want =>
    cases hw : want.test sl.trigger.tdata1 <;> cases hen : sl.trigger.enabledIn e.prv <;>
      by_cases hm : matched e = sl.trigger.tdata2 <;> simp [hw, hm]

theorem oneTrap_isSome (want : Event) (name : String) :
    (sl.oneTrap e want name).isSome =
      (sl.trigger.enabledIn e.prv && (e.kind = want && sl.trigger.tdata2.testBit e.cause)) := by
  unfold oneTrap
  by_cases hk : e.kind = want <;> cases hen : sl.trigger.enabledIn e.prv <;>
    cases hc : sl.trigger.tdata2.testBit e.cause <;> simp [hk]

/-- An icount trigger is left alone exactly if it does not react. -/
theorem oneIcount_eq_self_iff :
    sl.oneIcount e = (none, sl) ↔
      (sl.trigger.enabledIn e.prv && (e.kind = .retire && (0 < sl.trigger.count || sl.pending))) = false := by
  unfold oneIcount
  by_cases hk : e.kind = .retire
  · cases hen : sl.trigger.enabledIn e.prv with
    | false => simp [hk]
    | true =>
      simp only [hk, ne_eq, not_true_eq_false, if_false, Bool.not_true, Bool.false_eq_true]
      by_cases hc : 0 < sl.trigger.count
      · -- the count goes down, so the trigger is not the same
        have hdown : sl.countDown.trigger.count = sl.trigger.count - 1 := by
          rw [countDown, if_pos hc]
          exact counted_count
        have hne : ∀ b, { sl.countDown with pending := b } ≠ sl := by
          intro b heq
          have hcount := congrArg (fun s : Slot => s.trigger.count) heq
          dsimp only at hcount
          omega
        have hne' : sl.countDown ≠ sl := hne sl.countDown.pending
        split
        · simp [hc, hne']
        · simp [hc]
      · have hsame : sl.countDown = sl := by rw [countDown, if_neg hc]
        rw [hsame]
        cases hp : sl.pending with
        | true => simp
        | false => simp [hc]
  · simp [hk]

theorem none_iff {o : Option Fire} : (o, sl) = (none, sl) ↔ o.isSome = false := by
  cases o <;> simp

/-- **A trigger is left alone exactly if it does not react.** -/
theorem one_eq_self_iff : sl.one e = (none, sl) ↔ sl.reacts e = false := by
  unfold one reacts
  by_cases ha : sl.trigger.action = TRIGGER_ACTION_BREAKPOINT
  · rw [if_neg (not_not.mpr ha), decide_eq_true ha, Bool.true_and]
    cases hk : sl.trigger.kind with
    | none => simp
    | some k =>
      cases k with
      | mcontrol6 => rw [none_iff, oneMcontrol6_isSome]
      | icount => exact oneIcount_eq_self_iff
      | itrigger => rw [none_iff, oneTrap_isSome]
      | etrigger => rw [none_iff, oneTrap_isSome]
  · rw [if_pos ha, decide_eq_false ha]
    simp

end Slot

/-- The loop does nothing exactly if no trigger reacts. -/
theorem scan_eq_self_iff (e : Occurrence) (slots : List Slot) :
    scan e slots = (none, slots) ↔ ∀ sl ∈ slots, sl.reacts e = false := by
  induction slots with
  | nil => simp [scan]
  | cons sl rest ih =>
    rw [List.forall_mem_cons, ← ih, ← Slot.one_eq_self_iff]
    cases hf : sl.fires e with
    | true =>
      obtain ⟨fire, hfire⟩ := Option.isSome_iff_exists.mp hf
      rw [scan_cons_of_fires e hf]
      refine iff_of_false ?_ ?_
      · intro heq
        have hfst := congrArg Prod.fst heq
        rw [show ((sl.one e).1, (sl.one e).2 :: rest).1 = some fire from hfire] at hfst
        cases hfst
      · rintro ⟨heq, -⟩
        rw [heq] at hfire
        cases hfire
    | false =>
      have hnone : (sl.one e).1 = none := Option.not_isSome_iff_eq_none.mp (by rw [← Slot.fires, hf]; decide)
      rw [scan_cons_of_not_fires e hf]
      constructor
      · intro heq
        obtain ⟨h₁, h₂⟩ := Prod.mk.inj heq
        obtain ⟨h₃, h₄⟩ := List.cons.inj h₂
        exact ⟨Prod.ext hnone h₃, Prod.ext h₁ h₄⟩
      · rintro ⟨h₁, h₂⟩
        rw [h₁, h₂]

/-! ## Two models -/

/-- The same event but for the protection inputs. -/
def SameButProtection (p : Occurrence × Occurrence) : Prop := p.2 = { p.1 with mie := p.2.mie, mte := p.2.mte }

/-- The triggers do not look at the protection inputs. -/
theorem scan_of_sameButProtection {p : Occurrence × Occurrence} (h : SameButProtection p) (slots : List Slot) :
    scan p.2 slots = scan p.1 slots := by
  rw [h]
  induction slots with
  | nil => rfl
  | cons sl rest ih =>
    have hone : sl.one { p.1 with mie := p.2.mie, mte := p.2.mte } = sl.one p.1 := rfl
    rw [scan, scan, hone, ih]

/-- The event is hidden from the triggers by the scheme, whatever its mode. -/
def hidden (reentrancy : Reentrancy) (e : Occurrence) : Bool := reentrancy = .tcontrol && !e.mte

namespace NativeTriggerModel

variable {m m' : NativeTriggerModel} {p : Occurrence × Occurrence}

/-- The models report the same on the events so far, and have the same triggers after them. -/
def Alike (m m' : NativeTriggerModel) (ps : List (Occurrence × Occurrence)) : Prop :=
  ∀ qs, qs <+: ps → m.fires (qs.map Prod.fst) = m'.fires (qs.map Prod.snd) ∧
    (Runs.run step m (qs.map Prod.fst)).slots = (Runs.run step m' (qs.map Prod.snd)).slots

/-- The event is hidden from both models or from neither, or no trigger reacts to it. -/
def HiddenAlike (reentrancy' : Reentrancy) (m : NativeTriggerModel) (p : Occurrence × Occurrence) : Prop :=
  hidden m.reentrancy p.1 = hidden reentrancy' p.2 ∨ ∀ sl ∈ m.slots, sl.reacts p.1 = false

instance (reentrancy' : Reentrancy) (m : NativeTriggerModel) (p : Occurrence × Occurrence) :
    Decidable (HiddenAlike reentrancy' m p) := by
  unfold HiddenAlike; infer_instance

/-- Outside M-mode only `TCONTROL` suppresses anything. -/
theorem suppressed_eq_hidden {e : Occurrence} (h : e.prv ≠ .m) : m.suppressed e = hidden m.reentrancy e := by
  unfold suppressed hidden
  cases m.reentrancy <;> simp [h]

theorem event_step (m : NativeTriggerModel) (e : Occurrence) :
    (m.event e, (m.step e).slots) = if m.suppressed e then (none, m.slots) else scan e m.slots := by
  show (if m.suppressed e then none else (scan e m.slots).1,
      if m.suppressed e then m.slots else (scan e m.slots).2) = _
  cases m.suppressed e <;> rfl

/-- **The step.** -/
theorem alike_step (hsame : m.slots = m'.slots) (hp : SameButProtection p) (hlow : p.1.prv ≠ .m) :
    (m.event p.1 = m'.event p.2 ∧ (m.step p.1).slots = (m'.step p.2).slots) ↔
      HiddenAlike m'.reentrancy m p := by
  have hlow' : p.2.prv ≠ .m := by rw [hp]; exact hlow
  rw [← Prod.mk.injEq, event_step, event_step, suppressed_eq_hidden hlow, suppressed_eq_hidden hlow',
    scan_of_sameButProtection hp, ← hsame, HiddenAlike, ← scan_eq_self_iff]
  cases hidden m.reentrancy p.1 <;> cases hidden m'.reentrancy p.2 <;> simp [eq_comm]

theorem alike_cons (p : Occurrence × Occurrence) (ps : List (Occurrence × Occurrence)) :
    m.Alike m' (p :: ps) ↔ m.slots = m'.slots ∧
      (m.event p.1 = m'.event p.2 ∧ (m.step p.1).slots = (m'.step p.2).slots) ∧
      (m.step p.1).Alike (m'.step p.2) ps := by
  constructor
  · intro h
    refine ⟨(h [] List.nil_prefix).2, ?_, ?_⟩
    · obtain ⟨h₁, h₂⟩ := h [p] (List.cons_prefix_cons.mpr ⟨rfl, List.nil_prefix⟩)
      exact ⟨(List.cons.inj h₁).1, h₂⟩
    · intro qs hqs
      obtain ⟨h₁, h₂⟩ := h (p :: qs) (List.cons_prefix_cons.mpr ⟨rfl, hqs⟩)
      exact ⟨(List.cons.inj h₁).2, h₂⟩
  · rintro ⟨hsame, ⟨hevent, -⟩, hrest⟩ qs hqs
    cases qs with
    | nil => exact ⟨rfl, hsame⟩
    | cons q qs =>
      obtain ⟨rfl, htail⟩ := List.cons_prefix_cons.mp hqs
      obtain ⟨h₁, h₂⟩ := hrest qs htail
      exact ⟨List.cons_eq_cons.mpr ⟨hevent, h₁⟩, h₂⟩

end NativeTriggerModel

open NativeTriggerModel in
/-- **Re-entrancy suppression concerns M-mode only**: two models with the same triggers are alike on events of
S-mode and U-mode that agree but for `mie` and `mte`, exactly if every event that some trigger reacts to is
hidden from both or from neither, that is, unless `TCONTROL` with `mte = False` hides it from one only. -/
theorem alike_iff (m m' : NativeTriggerModel) (hsame : m.slots = m'.slots)
    (ps : List (Occurrence × Occurrence)) (hps : ∀ p ∈ ps, SameButProtection p)
    (hlow : ∀ p ∈ ps, p.1.prv ≠ .m) :
    m.Alike m' ps ↔ Runs.Always (fun m p => m.step p.1) (HiddenAlike m'.reentrancy) m ps := by
  induction ps generalizing m m' with
  | nil =>
    refine iff_of_true ?_ trivial
    intro qs hqs
    obtain rfl := List.prefix_nil.mp hqs
    exact ⟨rfl, hsame⟩
  | cons p ps ih =>
    rw [List.forall_mem_cons] at hps hlow
    rw [alike_cons, Runs.always_cons, alike_step hsame hps.1 hlow.1, and_iff_right hsame]
    refine and_congr_right ?_
    intro hok
    have hstep := ((alike_step hsame hps.1 hlow.1).mpr hok).2
    exact ih (m.step p.1) (m'.step p.2) hstep hps.2 hlow.2

/-- An mcontrol6 trigger on the execution of an address in U-mode. -/
def executeInU (address : Nat) : Trigger :=
  ⟨(TRIGGER_TYPE_MCONTROL6 <<< 60) ||| (1 <<< 3) ||| (1 <<< 2), address, 64⟩

/-- `MIE_GATE` with `mie` clear and `TCONTROL` with `mte` set report the same breakpoint of user code. -/
theorem alike_user_breakpoint :
    let e : Occurrence := { kind := .execute, prv := .u, pc := 0x100 }
    let ps := [({ e with mie := false }, e), ({ e with pc := 0x104, mte := false }, { e with pc := 0x104 })]
    (NativeTriggerModel.configured .mieGate [(0, executeInU 0x100)]).Alike
      (NativeTriggerModel.configured .tcontrol [(0, executeInU 0x100)]) ps := by
  intro e ps
  have hsame : ∀ p ∈ ps, SameButProtection p := by simp [ps, SameButProtection]
  refine (alike_iff (.configured .mieGate [(0, executeInU 0x100)]) (.configured .tcontrol [(0, executeInU 0x100)])
    rfl ps hsame (by decide)).mpr ?_
  decide

/-- A breakpoint of user code that a model with `MIE_GATE` reports and one with `TCONTROL` and `mte` clear
does not. -/
theorem tcontrol_hides_user_breakpoint :
    let e : Occurrence := { kind := .execute, prv := .u, pc := 0x100 }
    let m := NativeTriggerModel.configured .mieGate [(0, executeInU 0x100)]
    let m' := NativeTriggerModel.configured .tcontrol [(0, executeInU 0x100)]
    (m.event e).isSome = true ∧ m'.event { e with mte := false } = none ∧
      ¬ m.Alike m' [(e, { e with mte := false })] := by
  intro e m m'
  have hfires : (m.event e).isSome = true := by decide
  have hnone : m'.event { e with mte := false } = none := by decide
  refine ⟨hfires, hnone, fun halike => ?_⟩
  have hsame := (halike [(e, { e with mte := false })] (List.prefix_refl _)).1
  have hevent : m.event e = m'.event { e with mte := false } := (List.cons.inj hsame).1
  rw [hevent, hnone] at hfires
  cases hfires

end RiscvDbg.NativeTrigger
