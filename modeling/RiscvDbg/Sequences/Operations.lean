import RiscvDbg.Api.ReadYourWrites
import RiscvDbg.Sequences.Harts
import RiscvDbg.Sequences.Session

/-!
# The operations of a sequence

The steps of the sequences in `sequences/` are scripts over `RISCVDebug` on the model-backed mock, whose
transport carries the predictor.

* `DebugScript` — such a script, with the operations of the API by name.
* `checkStep`, `actionStep` — a step of a session whose function returns a result, or nothing.
* `DebugScript.halt_returns`, `DebugScript.halt_raises` and their kind — what each operation does while the session works on a hart.
-/

set_option autoImplicit false

namespace RiscvDbg

/-! ## Texts -/

/-- `str` of a truth value. -/
def pyBool (b : Bool) : String := if b then "True" else "False"

/-- `f"{n:0{width}x}"`. -/
def pyHex (width : Nat) (n : Int) : String :=
  if n < 0 then "-" ++ String.ofList (Hex.pad (width - 1) n.natAbs) else String.ofList (Hex.pad width n.natAbs)

/-- `f"{n:#010x}"`. -/
def pyHexWord (n : Int) : String :=
  if n < 0 then "-0x" ++ String.ofList (Hex.pad 7 n.natAbs) else "0x" ++ String.ofList (Hex.pad 8 n.natAbs)

/-- `str` of an exception of the API, with the default timeout. -/
def DebugError.text : DebugError → String
  | .versionZero => "DM version=0 — Debug Module not present or not responding"
  | .cmderr error => s!"Abstract command error cmderr={error}"
  | .sberror error => s!"System bus error sberror={error}"
  | .timeout msg register last =>
    s!"Timeout (2.0s) waiting for {msg} (last read from reg 0x{pyHex 2 register} = 0x{pyHex 8 last})"

/-! ## The operations as scripts -/

/-- A script over the debug API. -/
abbrev DebugScript := Script DebugError RISCVDebug

namespace DebugScript

def activate : DebugScript Unit := .call (·.activate)
def selectHart (hartsel : Int) : DebugScript Unit := .modify (·.selectHart hartsel)
def halt (polls : Nat) : DebugScript Unit := .call (·.halt polls)
def resume (polls : Nat) : DebugScript Unit := .call (·.resume polls)
def ndmreset (assertReset : Bool) : DebugScript Unit := .modify (·.ndmreset assertReset)
def hartreset (assertReset : Bool) : DebugScript Unit := .modify (·.hartreset assertReset)
def ackhavereset : DebugScript Unit := .modify (·.ackhavereset)
def ackunavail : DebugScript Unit := .modify (·.ackunavail)
def writeDmcontrol (others : DmcontrolArgs) : DebugScript Nat := .perform (·.writeDmcontrol { others := others })
def isHalted : DebugScript Bool := .look (·.isHalted)
def readGpr (polls : Nat) (regno : Int) : DebugScript Int :=
  .call fun d => (RiscvDbg.readGpr polls d.t regno).map id fun t => { d with t := t }
def readDmstatus : DebugScript Int := .look (·.dmstatus)
def readDmcontrol : DebugScript Int := .look (·.readDmcontrol)

/-- `expect(DMI.DMSTATUS)` of the predictor, which always models it. -/
def expectDmstatus : DebugScript Int := .look fun d => d.t.predictor.predict DMSTATUS.address

end DebugScript

/-- A step whose function returns a result. -/
def checkStep {σ : Type} (name : String) (fn : Script DebugError σ StepResult) : SessionStep DebugError σ where
  name := name
  fn := do
    let r ← fn
    return .result r

/-- A step whose function returns nothing. -/
def actionStep {σ : Type} (name : String) (fn : Script DebugError σ Unit) : SessionStep DebugError σ where
  name := name
  fn := do
    fn
    return .nothing

/-! ## What the operations do to the hart -/

/-- On the mock no command is ever seen to run or fail, whether or not the register is predicted. -/
theorem MockTransport.waitAbstractcs (t : MockTransport) (polls : Nat) : waitAbstractcs polls t = .ok () := by
  cases h : t.predictor.hasModel ADDR_ABSTRACTCS with
  | true => exact waitAbstractcs_of_predicted (by rw [MockTransport.read, h]; rfl) polls
  | false =>
    refine pollUntil_ok ?_ _ _
    rw [MockTransport.read, h]
    rfl

namespace DebugScript

open RISCVDebug (Working)

variable {p : Params} {l : Lane} (polls : Nat)

theorem halt_returns (h : (l.write p { haltreq := true }).hart.halted = true) :
    (halt polls).Returns (Working p l) fun _ => Working p ((l.write p { haltreq := true }).write p {}) := by
  intro d hw
  have hsent := hw.send { dmactive := true, haltreq := true, hartsel := d.hartsel } rfl rfl
  refine ⟨(), _, d.requestAndWait_of_true polls (hsent.shows.allhalted.trans h), ?_⟩
  exact hsent.send { dmactive := true, haltreq := false, hartsel := d.hartsel } rfl rfl

theorem halt_raises (h : (l.write p { haltreq := true }).hart.halted = false) :
    (halt polls).Raises (Working p l) := by
  intro d hw
  have hsent := hw.send { dmactive := true, haltreq := true, hartsel := d.hartsel } rfl rfl
  exact ⟨_, _, d.requestAndWait_of_false polls (hsent.shows.allhalted.trans h)⟩

theorem resume_returns (h : (l.write p { resumereq := true }).hart.halted = false) :
    (resume polls).Returns (Working p l) fun _ => Working p ((l.write p { resumereq := true }).write p {}) := by
  intro d hw
  have hsent := hw.send { dmactive := true, resumereq := true, hartsel := d.hartsel } rfl rfl
  have hrunning : (!(l.write p { resumereq := true }).hart.halted) = true := by rw [h, Bool.not_false]
  refine ⟨(), _, d.requestAndWait_of_true polls (hsent.shows.allrunning.trans hrunning), ?_⟩
  exact hsent.send { dmactive := true, resumereq := false, hartsel := d.hartsel } rfl rfl

theorem resume_raises (h : (l.write p { resumereq := true }).hart.halted = true) :
    (resume polls).Raises (Working p l) := by
  intro d hw
  have hsent := hw.send { dmactive := true, resumereq := true, hartsel := d.hartsel } rfl rfl
  have hrunning : (!(l.write p { resumereq := true }).hart.halted) = false := by rw [h, Bool.not_true]
  exact ⟨_, _, d.requestAndWait_of_false polls (hsent.shows.allrunning.trans hrunning)⟩

/-- With a step armed a halted hart halts again at once. -/
theorem resume_raises_of_armed : (resume polls).Raises (RISCVDebug.HartOut p true true) := by
  rintro d ⟨v, hv, hb, hw⟩
  have hagain : ((Lane.out v true).write p { resumereq := true }).hart.halted = true := by
    rw [Lane.write_out hv rfl rfl]
    simp [Lane.out, HartView.answer, hb]
  exact resume_raises polls hagain d hw

theorem ndmreset_returns (assertReset : Bool) :
    (ndmreset assertReset).Returns (Working p l) fun _ => Working p (l.write p { ndmreset := assertReset }) :=
  .modify fun d hw => hw.send { dmactive := true, ndmreset := assertReset, hartsel := d.hartsel } rfl rfl

theorem writeDmcontrol_returns (a : DmcontrolArgs) :
    (writeDmcontrol a).Returns (Working p l) fun _ => Working p (l.write p a) :=
  .perform fun d hw => hw.send { a with dmactive := true, hartsel := d.hartsel } rfl rfl

theorem hartreset_returns (assertReset : Bool) :
    (hartreset assertReset).Returns (Working p l) fun _ => Working p (l.write p { hartreset := assertReset }) :=
  .modify fun d hw => hw.send { dmactive := true, hartreset := assertReset, hartsel := d.hartsel } rfl rfl

theorem ackhavereset_returns :
    ackhavereset.Returns (Working p l) fun _ => Working p (l.write p { ackhavereset := true }) :=
  .modify fun d hw => hw.send { dmactive := true, ackhavereset := true, hartsel := d.hartsel } rfl rfl

theorem ackunavail_returns :
    ackunavail.Returns (Working p l) fun _ => Working p (l.write p { ackunavail := true }) :=
  .modify fun d hw => hw.send { dmactive := true, ackunavail := true, hartsel := d.hartsel } rfl rfl

theorem readDmcontrol_returns :
    readDmcontrol.Returns (Working p l) fun word d =>
      (dmcontrolHartreset word = (l.hartresetLevel && p.supportsHartreset) ∧ dmcontrolDmactive word = true) ∧
        Working p l d := by
  refine .look fun d hw => ⟨⟨?_, ?_⟩, hw⟩
  · rw [d.hartreset_readDmcontrol, hw.sees.hartresetLevel, hw.params]
  · rw [d.dmactive_readDmcontrol, hw.dmactive]

theorem isHalted_returns :
    isHalted.Returns (Working p l) fun b d => b = l.hart.halted ∧ Working p l d :=
  .look fun _ hw => ⟨hw.shows.allhalted, hw⟩

/-- An abstract command never fails on the mock, and leaves the hart alone. -/
theorem readGpr_returns (regno : Int) :
    (readGpr polls regno).Returns (Working p l) fun _ d => ∃ armed, Working p { l with stepArmed := armed } d := by
  intro d hw
  let t := d.t.write ADDR_COMMAND (accessRegister 2 false regno)
  have hne : ADDR_COMMAND ≠ DMCONTROL.address := by decide
  have hrc : t.predictor.rc = d.t.predictor.rc := RISCVDebug.write_rc_of_ne d.t hne _
  have hwait : waitAbstractcs polls t = .ok () := t.waitAbstractcs polls
  refine ⟨t.read ADDR_DATA0, { d with t := t }, ?_, RISCVDebug.stepArmed { d with t := t }, ?_⟩
  · show ((do waitAbstractcs polls t; return t.read ADDR_DATA0 : Except DebugError Int), { d with t := t }) = _
    rw [hwait]
    rfl
  · refine ⟨(d.t.predictor.onWrite_static ADDR_COMMAND _).1.trans hw.params, ⟨?_, ?_, ?_, ?_, rfl⟩, ?_, ?_⟩
    · exact DMPredictor.onWrite_wellFormed hw.sees.wellFormed _ _
    · exact (congrArg (fun rc : RunControl => rc.harts[d.target]?) hrc).trans hw.sees.hart
    · exact (congrArg RunControl.ndmreset hrc).trans hw.sees.ndmreset
    · exact (congrArg RunControl.hartresetLevel hrc).trans hw.sees.hartresetLevel
    · exact (congrArg RunControl.hartsel hrc).trans hw.selected
    · exact (congrArg RunControl.dmactive hrc).trans hw.dmactive

theorem readDmstatus_returns :
    readDmstatus.Returns (Working p l) fun word d => ShowsLane p l word ∧ Working p l d :=
  .look fun _ hw => ⟨hw.shows, hw⟩

theorem expectDmstatus_returns :
    expectDmstatus.Returns (Working p l) fun word d => ShowsLane p l word ∧ Working p l d :=
  .look fun _ hw => ⟨hw.shows, hw⟩

end DebugScript

/-! ## The verdict on a session -/

namespace DebugSession

open RISCVDebug (Working)

section
variable {σ : Type} {P R : σ → Prop} {name : String} {fn : Script DebugError σ StepResult} {φ : Prop}
  (steps : List (SessionStep DebugError σ)) {s : σ}

/-- All steps pass. -/
def Passes (steps : List (SessionStep DebugError σ)) (s : σ) : Prop :=
  allPassed (verdicts DebugError.text steps s) = true

theorem passes_nil : Passes [] s := rfl

theorem passes_cons (step : SessionStep DebugError σ) :
    Passes (step :: steps) s ↔
      (invoke DebugError.text step.fn s).1.ok = true ∧ Passes steps (invoke DebugError.text step.fn s).2 := by
  show allPassed (_ :: _) = true ↔ _
  unfold allPassed
  rw [List.all_cons, Bool.and_eq_true]
  exact Iff.rfl

/-- The result of a check is what its function returns. -/
theorem invoke_check {Q : StepResult → σ → Prop} (h : fn.Returns P Q) (hs : P s) :
    ∃ r, (invoke DebugError.text (checkStep name fn).fn s).1 = r ∧
      Q r (invoke DebugError.text (checkStep name fn).fn s).2 := by
  obtain ⟨r, hr, hQ⟩ := @invoke_of_returns _ _ DebugError.text _ _ _ StepReturn.result _ h _ hs
  exact ⟨r, hr, hQ⟩

/-- A check with a verdict of its own. -/
theorem passes_check_iff (h : fn.Returns P fun r s => (r.ok = true ↔ φ) ∧ R s) (hs : P s) :
    ∃ s', R s' ∧ (Passes (checkStep name fn :: steps) s ↔ φ ∧ Passes steps s') := by
  obtain ⟨r, hr, hok, hR⟩ := invoke_check h hs
  refine ⟨_, hR, ?_⟩
  rw [passes_cons]
  exact and_congr_left fun _ => (iff_of_eq (congrArg (StepResult.ok · = true) hr)).trans hok

/-- A check that passes. -/
theorem passes_check (h : fn.Returns P fun r s => r.ok = true ∧ R s) (hs : P s) :
    ∃ s', R s' ∧ (Passes (checkStep name fn :: steps) s ↔ Passes steps s') := by
  have hiff : fn.Returns P fun r s => (r.ok = true ↔ True) ∧ R s :=
    h.post fun r s hr => ⟨iff_true_intro hr.1, hr.2⟩
  have hcheck : ∃ s', R s' ∧ (Passes (checkStep name fn :: steps) s ↔ True ∧ Passes steps s') :=
    passes_check_iff steps hiff hs
  obtain ⟨s', hR, hpass⟩ := hcheck
  exact ⟨s', hR, hpass.trans (iff_of_eq (true_and _))⟩

/-- A check, whatever its verdict. -/
theorem passes_tail (h : fn.Returns P fun _ => R) (hs : P s) (hpass : Passes (checkStep name fn :: steps) s) :
    ∃ s', R s' ∧ Passes steps s' := by
  obtain ⟨r, -, hR⟩ := invoke_check h hs
  exact ⟨_, hR, ((passes_cons steps _).mp hpass).2⟩

/-- A check that raises fails the session. -/
theorem not_passes_of_raises (h : fn.Raises P) (hs : P s) : ¬Passes (checkStep name fn :: steps) s := by
  have hraises : (checkStep name fn).fn.Raises P := h.bind
  rw [passes_cons, invoke_of_raises hraises hs]
  exact fun hpass => Bool.false_ne_true hpass.1

/-- An action passes unless it raises. -/
theorem passes_action {fn : Script DebugError σ Unit} {s' : σ} (h : fn.run s = (.ok (), s')) :
    Passes (actionStep name fn :: steps) s ↔ Passes steps s' := by
  have hrun : (actionStep name fn).fn.run s = (.ok .nothing, s') := Script.run_bind_of_ok h
  rw [passes_cons]
  unfold invoke
  rw [hrun]
  exact ⟨fun h => h.2, fun h => ⟨rfl, h⟩⟩

theorem not_passes_action {fn : Script DebugError σ Unit} {s' : σ} {e : DebugError}
    (h : fn.run s = (.error e, s')) : ¬Passes (actionStep name fn :: steps) s := by
  have hrun : (actionStep name fn).fn.run s = (.error e, s') := Script.run_bind_of_error h
  rw [passes_cons]
  unfold invoke
  rw [hrun]
  exact fun hpass => Bool.false_ne_true hpass.1

end

variable {name : String} (steps : List (SessionStep DebugError RISCVDebug)) {d : RISCVDebug}

/-- The step that activates the DM. -/
theorem passes_activate :
    Passes (actionStep name DebugScript.activate :: steps) d ↔
      d.params.version % 16 ≠ 0 ∧ Passes steps d.activate.2 := by
  have hrun : DebugScript.activate.run d = d.activate := rfl
  have heq : d.activate.1 = if d.params.version % 16 = 0 then .error .versionZero else .ok () := by
    rw [d.activate_eq]
  by_cases hversion : d.params.version % 16 = 0
  · rw [if_pos hversion] at heq
    exact iff_of_false (not_passes_action steps (hrun.trans (Prod.ext heq rfl))) fun h => h.1 hversion
  · rw [if_neg hversion] at heq
    rw [passes_action steps (hrun.trans (Prod.ext heq rfl))]
    exact (and_iff_right hversion).symm

/-- The step that selects a hart. -/
theorem passes_selectHart (hartsel : Int) :
    Passes (actionStep name (DebugScript.selectHart hartsel) :: steps) d ↔ Passes steps (d.selectHart hartsel) :=
  passes_action steps rfl

/-- A session over hart `hartsel` starts with these steps. -/
theorem passes_start (select : String) (hartsel : Int) :
    Passes ([actionStep name DebugScript.activate]
        ++ (if hartsel ≠ 0 then [actionStep select (DebugScript.selectHart hartsel)] else []) ++ steps) d ↔
      d.params.version % 16 ≠ 0 ∧ Passes steps (d.start hartsel) := by
  unfold RISCVDebug.start
  by_cases h : hartsel = 0
  · rw [if_neg (not_not_intro h), if_neg (not_not_intro h)]
    exact passes_activate steps
  · rw [if_pos h, if_pos h]
    exact (passes_activate _).trans (and_congr_right fun _ => passes_selectHart steps hartsel)

end DebugSession

end RiscvDbg
