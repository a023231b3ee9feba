import Mathlib.Data.Rat.Init
import Mathlib.Algebra.Order.Ring.Rat
import Mathlib.Tactic.NormNum
import RiscvDbg.Sequences.Operations

/-!
# The run-control sequence

Model of `sequences/run_control_sequence.py` on the model-backed mock, whose transport carries the predictor,
with the operations of `RISCVDebug` as scripts.

* `buildRunControlSequence` — the session, with one definition for each of its steps.
* `run_control_passes_iff` — **after any traffic, the sequence passes exactly if the DM reports a version, the
  hart is there, is not left in `hartreset` and has no step armed, and both latencies are under the bound.**

The latencies are what `clock() - t0` gives; `ms` writes one of them in milliseconds.
-/

set_option autoImplicit false

namespace RiscvDbg

/-! ## The steps -/

section
open DebugScript

/-- The read before the DM is activated. -/
def baseline : DebugScript StepResult := do
  let word ← readDmstatus
  return ⟨true, s!"pre-activation dmstatus={pyHexWord word}"⟩

variable (polls : Nat)

def tcRc001 : DebugScript StepResult := do
  halt polls
  let word ← readDmstatus
  let observed := anyhalted word && allhalted word && !anyrunning word
  let predicted ← expectDmstatus
  let observed := observed && (anyhalted predicted && allhalted predicted)
  return ⟨observed, s!"TC-RC-001: dmstatus after haltreq — anyhalted={pyBool (anyhalted word)} "
    ++ s!"allhalted={pyBool (allhalted word)} anyrunning={pyBool (anyrunning word)}"⟩

def tcRc002 : DebugScript StepResult := do
  let before ← readDmstatus
  let _ ← writeDmcontrol { haltreq := true }
  let after ← readDmstatus
  let noChange := allhalted after == allhalted before && anyhalted after == anyhalted before
    && allresumeack after == allresumeack before
  let _ ← writeDmcontrol { haltreq := false }
  return ⟨noChange && allhalted after, "TC-RC-002: re-asserting haltreq on an already-halted hart left "
    ++ s!"allhalted={pyBool (allhalted after)} unchanged, resume ack unchanged"⟩

def tcRc003 : DebugScript StepResult := do
  resume polls
  let word ← readDmstatus
  let observed := anyrunning word && allrunning word && !anyhalted word && allresumeack word && anyresumeack word
  let predicted ← expectDmstatus
  let observed := observed && allrunning predicted && allresumeack predicted
  return ⟨observed, s!"TC-RC-003: dmstatus after resumereq — allrunning={pyBool (allrunning word)} "
    ++ s!"allresumeack={pyBool (allresumeack word)} anyhalted={pyBool (anyhalted word)}"⟩

def tcRc004 : DebugScript StepResult := do
  let _ ← writeDmcontrol { resumereq := true }
  let word ← readDmstatus
  let observed := allrunning word && !anyhalted word && !anyresumeack word
  let _ ← writeDmcontrol { resumereq := false }
  return ⟨observed, s!"TC-RC-004: resumereq on a running hart — allrunning={pyBool (allrunning word)} "
    ++ s!"(unchanged), anyresumeack={pyBool (anyresumeack word)} (cleared, per #3.5's "
    ++ "resume-ack-cleared-for-every-selected-hart rule)"⟩

def tcRc005 : DebugScript StepResult := do
  let before ← readDmstatus
  let ackBefore := anyresumeack before
  let _ ← writeDmcontrol { haltreq := true, resumereq := true }
  let after ← readDmstatus
  let observed := anyhalted after && !anyrunning after && anyresumeack after == ackBefore
  let _ ← writeDmcontrol { haltreq := false }
  return ⟨observed, s!"TC-RC-005: haltreq=1,resumereq=1 in one write — anyhalted={pyBool (anyhalted after)} "
    ++ s!"(haltreq wins), anyresumeack unchanged ({pyBool ackBefore} -> {pyBool (anyresumeack after)})"⟩

/-- What the clock shows between the request and the return of `halt` and of `resume`, in seconds. -/
structure ResponseLatencies where
  halt : ℚ
  resume : ℚ

/-- `HALT_RESUME_RESPONSE_BOUND_S`. -/
def HALT_RESUME_RESPONSE_BOUND_S : ℚ := 1

def tcRc006 (clockName : String) (ms : ℚ → String) (latency : ResponseLatencies) : DebugScript StepResult := do
  halt polls
  resume polls
  let ok := decide (latency.halt < HALT_RESUME_RESPONSE_BOUND_S)
    && decide (latency.resume < HALT_RESUME_RESPONSE_BOUND_S)
  return ⟨ok, s!"TC-RC-006: {clockName} halt latency={ms latency.halt}ms, "
    ++ s!"resume latency={ms latency.resume}ms (spec bound: <1.0s, #3.5)"⟩

def tcRc007 : DebugScript StepResult := do
  ndmreset true
  let _ ← readDmstatus
  let _ ← writeDmcontrol { resumereq := true, ndmreset := true }
  let word ← readDmstatus
  let noSpuriousHalt := !anyhalted word && !anyresumeack word
  let _ ← writeDmcontrol { resumereq := false, ndmreset := true }
  ndmreset false
  return ⟨noSpuriousHalt, "TC-RC-007: resumereq written while in ndmreset — "
    ++ s!"anyhalted={pyBool (anyhalted word)} anyresumeack={pyBool (anyresumeack word)} "
    ++ "(expected both False: resumereq only affects a HALTED hart, "
    ++ "#3.5; this hart was never halted while in reset, #3.2)"⟩

/-- The steps of the sequence once a hart is selected. -/
def runControlChecks (ms : ℚ → String) (latency : ResponseLatencies) : List (SessionStep DebugError RISCVDebug) :=
  [checkStep "TC-RC-001: halt request on a running hart (write dmcontrol.haltreq=1)" (tcRc001 polls),
    checkStep "TC-RC-002: haltreq ignored once already halted (spec #3.5)" tcRc002,
    checkStep "TC-RC-003: resume request on a halted hart (write dmcontrol.resumereq=1)" (tcRc003 polls),
    checkStep "TC-RC-004: resumereq ignored on a running hart (spec #3.5)" tcRc004,
    checkStep "TC-RC-005: resumereq ignored when haltreq set in the same write (spec #3.14.2)" tcRc005,
    checkStep "TC-RC-006: halt/resume response latency under spec's 1s bound (#3.5)"
      (tcRc006 polls "wall-clock" ms latency),
    checkStep "TC-RC-007: resumereq while the hart is in reset (spec #3.2)" tcRc007]

/-- `build_run_control_sequence`. -/
def buildRunControlSequence (ms : ℚ → String) (latency : ResponseLatencies) (mode : SessionMode) (hartsel : Int) :
    DebugSession DebugError RISCVDebug where
  mode := mode
  stopOnError := false
  steps :=
    checkStep "Read dmstatus before DM activation (dmactive=0 baseline, spec #3.13/#3.14.2)" baseline ::
      ([actionStep "Activate Debug Module (write dmcontrol.dmactive=1)" DebugScript.activate]
        ++ (if hartsel ≠ 0 then
            [actionStep s!"Select hart {hartsel} (write dmcontrol.hartsel)" (selectHart hartsel)] else [])
        ++ runControlChecks polls ms latency)

end

/-! ## What the steps do -/

section
open DebugScript RISCVDebug Lane

variable {p : Params} {v : HartView} {armed : Bool} (polls : Nat)

/-- A halt out of reset. -/
theorem write_haltreq (hv : v.hartReset = false) (a : DmcontrolArgs) (ha : a.ndmreset = false)
    (ha' : a.hartreset = false) (hh : a.haltreq = true) :
    (out v armed).write p a = out (v.answer p a armed) armed := by
  rw [write_out hv ha ha', hh]
  simp

/-- A write that asks for nothing. -/
theorem write_nothing (hv : v.hartReset = false) :
    (out v armed).write p {} = out (v.answer p {} armed) armed := by
  rw [write_out hv rfl rfl]
  simp

theorem tcRc001_passes (halted : Bool) :
    (tcRc001 polls).Returns (HartOut p halted armed) fun r d => r.ok = true ∧ HartOut p true armed d := by
  rintro d ⟨v, hv, -, hw⟩
  have hsent : (out v armed).write p { haltreq := true } = out (v.answer p { haltreq := true } armed) armed :=
    write_haltreq hv _ rfl rfl rfl
  revert d
  refine Script.Returns.bind (halt_returns polls (by rw [hsent]; rfl)) fun _ => ?_
  rw [hsent, write_nothing rfl]
  refine readDmstatus_returns.bind fun word => .given fun hword => ?_
  refine expectDmstatus_returns.bind fun predicted => .given fun hpredicted => ?_
  refine .pure fun d hw => ⟨?_, _, rfl, rfl, hw⟩
  simp only [hword.anyhalted, hword.allhalted, hword.anyrunning, hpredicted.anyhalted, hpredicted.allhalted]
  rfl

/-- A hart that does not halt fails the first check. -/
theorem tcRc001_raises {l : Lane} (h : (l.write p { haltreq := true }).hart.halted = false) :
    (tcRc001 polls).Raises (Working p l) := (halt_raises polls h).bind

theorem tcRc002_passes :
    tcRc002.Returns (HartOut p true armed) fun r d => r.ok = true ∧ HartOut p true armed d := by
  rintro d ⟨v, hv, hb, hw⟩
  have hsent : (out v armed).write p { haltreq := true } = out (v.answer p { haltreq := true } armed) armed :=
    write_haltreq hv _ rfl rfl rfl
  revert d
  refine Script.Returns.bind readDmstatus_returns fun before => .given fun hbefore => ?_
  refine (writeDmcontrol_returns _).bind fun _ => ?_
  rw [hsent]
  refine readDmstatus_returns.bind fun after => .given fun hafter => ?_
  refine (writeDmcontrol_returns _).bind fun _ => ?_
  rw [write_nothing rfl]
  refine .pure fun d hw => ⟨?_, _, rfl, rfl, hw⟩
  simp only [hbefore.anyhalted, hbefore.allhalted, hbefore.allresumeack, hafter.anyhalted, hafter.allhalted,
    hafter.allresumeack]
  simp [out, HartView.state, HartView.answer, hb]

/-- A request out of reset, with no step armed. -/
theorem write_unarmed (hv : v.hartReset = false) (a : DmcontrolArgs) (ha : a.ndmreset = false)
    (ha' : a.hartreset = false) : (out v false).write p a = out (v.answer p a false) false := by
  rw [write_out hv ha ha', Bool.false_and]

theorem tcRc003_passes :
    (tcRc003 polls).Returns (HartOut p true false) fun r d => r.ok = true ∧ HartOut p false false d := by
  rintro d ⟨v, hv, hb, hw⟩
  have hsent := write_unarmed (p := p) hv { resumereq := true } rfl rfl
  have hrun : (v.answer p { resumereq := true } false).halted = false := by simp [HartView.answer]
  revert d
  refine Script.Returns.bind (resume_returns polls (by rw [hsent]; exact hrun)) fun _ => ?_
  rw [hsent, write_nothing rfl]
  refine readDmstatus_returns.bind fun word => .given fun hword => ?_
  refine expectDmstatus_returns.bind fun predicted => .given fun hpredicted => ?_
  refine .pure fun d hw => ⟨?_, _, rfl, by simp [HartView.answer], hw⟩
  simp only [hword.anyrunning, hword.allrunning, hword.anyhalted, hword.allresumeack, hword.anyresumeack,
    hpredicted.allrunning, hpredicted.allresumeack]
  simp [out, HartView.state, HartView.answer, hb]

theorem tcRc003_raises : (tcRc003 polls).Raises (HartOut p true true) := (resume_raises_of_armed polls).bind

theorem tcRc004_passes :
    tcRc004.Returns (HartOut p false false) fun r d => r.ok = true ∧ HartOut p false false d := by
  rintro d ⟨v, hv, hb, hw⟩
  have hsent := write_unarmed (p := p) hv { resumereq := true } rfl rfl
  revert d
  refine Script.Returns.bind (writeDmcontrol_returns _) fun _ => ?_
  rw [hsent]
  refine readDmstatus_returns.bind fun word => .given fun hword => ?_
  refine (writeDmcontrol_returns _).bind fun _ => ?_
  rw [write_nothing rfl]
  refine .pure fun d hw => ⟨?_, _, rfl, by simp [HartView.answer], hw⟩
  simp only [hword.allrunning, hword.anyhalted, hword.anyresumeack]
  simp [out, HartView.state, HartView.answer, hb]

theorem tcRc005_passes :
    tcRc005.Returns (HartOut p false false) fun r d => r.ok = true ∧ HartOut p true false d := by
  rintro d ⟨v, hv, hb, hw⟩
  have hsent := write_unarmed (p := p) hv { haltreq := true, resumereq := true } rfl rfl
  revert d
  refine Script.Returns.bind readDmstatus_returns fun before => .given fun hbefore => ?_
  refine (writeDmcontrol_returns _).bind fun _ => ?_
  rw [hsent]
  refine readDmstatus_returns.bind fun after => .given fun hafter => ?_
  refine (writeDmcontrol_returns _).bind fun _ => ?_
  rw [write_nothing rfl]
  refine .pure fun d hw => ⟨?_, _, rfl, by simp [HartView.answer], hw⟩
  simp only [hbefore.anyresumeack, hafter.anyhalted, hafter.anyrunning, hafter.anyresumeack]
  simp [out, HartView.state, HartView.answer]

theorem tcRc006_returns (clockName : String) (ms : ℚ → String) (latency : ResponseLatencies) (halted : Bool) :
    (tcRc006 polls clockName ms latency).Returns (HartOut p halted false) fun r d =>
      (r.ok = true ↔ latency.halt < HALT_RESUME_RESPONSE_BOUND_S ∧ latency.resume < HALT_RESUME_RESPONSE_BOUND_S) ∧
        HartOut p false false d := by
  rintro d ⟨v, hv, -, hw⟩
  have hhalt := write_unarmed (p := p) hv { haltreq := true } rfl rfl
  have hresume : ∀ v : HartView, v.hartReset = false →
      (out v false).write p { resumereq := true } = out (v.answer p { resumereq := true } false) false :=
    fun v hv => write_unarmed hv _ rfl rfl
  revert d
  refine Script.Returns.bind (halt_returns polls (by rw [hhalt]; rfl)) fun _ => ?_
  rw [hhalt, write_nothing rfl]
  refine (resume_returns polls ?_).bind fun _ => ?_
  · rw [hresume _ rfl]
    simp [out, HartView.answer]
  rw [hresume _ rfl, write_nothing rfl]
  refine .pure fun d hw => ⟨?_, _, rfl, by simp [HartView.answer], hw⟩
  rw [Bool.and_eq_true, decide_eq_true_eq, decide_eq_true_eq]

theorem tcRc007_passes : tcRc007.Returns (HartOut p false false) fun r _ => r.ok = true := by
  rintro d ⟨v, hv, hb, hw⟩
  revert d
  refine Script.Returns.bind (ndmreset_returns true) fun _ => ?_
  rw [write_assert hv rfl rfl]
  refine readDmstatus_returns.bind fun _ => .given fun _ => ?_
  refine (writeDmcontrol_returns _).bind fun _ => ?_
  rw [write_held rfl rfl rfl rfl]
  refine readDmstatus_returns.bind fun word => .given fun hword => ?_
  refine (writeDmcontrol_returns _).bind fun _ => ?_
  refine (ndmreset_returns false).bind fun _ => ?_
  refine .pure fun d hw => ?_
  simp only [hword.anyhalted, hword.anyresumeack]
  rfl

/-- A hart that is not there does not answer. -/
theorem tcRc001_raises_of_none :
    (tcRc001 polls).Raises fun d => d.harts[d.target]? = none := by
  refine Script.Raises.bind fun d hnone => ?_
  have hsent := RISCVDebug.dmstatus_showsHart
    (d.writeControl { dmactive := true, haltreq := true, hartsel := d.hartsel })
  rw [(writeControl_levels d (a := { dmactive := true, haltreq := true, hartsel := d.hartsel }) rfl).2.2.1,
    writeControl_hart d rfl, show d.harts[lowBits 20 d.hartsel]? = none from hnone] at hsent
  exact ⟨_, _, d.requestAndWait_of_false polls hsent.allhalted⟩

end

section
open DebugSession RISCVDebug

variable (polls : Nat) (ms : ℚ → String) (latency : ResponseLatencies) {p : Params} {d : RISCVDebug}

/-- With no step armed, only the latencies can fail. -/
theorem runControlChecks_unarmed {halted : Bool} (hd : HartOut p halted false d) :
    Passes (runControlChecks polls ms latency) d ↔
      latency.halt < HALT_RESUME_RESPONSE_BOUND_S ∧ latency.resume < HALT_RESUME_RESPONSE_BOUND_S := by
  obtain ⟨d₁, hd₁, h₁⟩ := passes_check _ (tcRc001_passes polls halted) hd
  obtain ⟨d₂, hd₂, h₂⟩ := passes_check _ tcRc002_passes hd₁
  obtain ⟨d₃, hd₃, h₃⟩ := passes_check _ (tcRc003_passes polls) hd₂
  obtain ⟨d₄, hd₄, h₄⟩ := passes_check _ tcRc004_passes hd₃
  obtain ⟨d₅, hd₅, h₅⟩ := passes_check _ tcRc005_passes hd₄
  obtain ⟨d₆, hd₆, h₆⟩ := passes_check_iff _ (tcRc006_returns polls "wall-clock" ms latency true) hd₅
  obtain ⟨d₇, -, h₇⟩ := passes_check (R := fun _ => True) _ (tcRc007_passes.post fun _ _ h => ⟨h, trivial⟩) hd₆
  have hlast : Passes [checkStep "TC-RC-007: resumereq while the hart is in reset (spec #3.2)" tcRc007] d₆ :=
    h₇.mpr passes_nil
  refine h₁.trans (h₂.trans (h₃.trans (h₄.trans (h₅.trans (h₆.trans ?_)))))
  exact and_iff_left hlast

/-- With a step armed the resume is not seen. -/
theorem not_passes_of_armed {halted : Bool} (hd : HartOut p halted true d) :
    ¬Passes (runControlChecks polls ms latency) d := by
  obtain ⟨d₁, hd₁, h₁⟩ := passes_check _ (tcRc001_passes polls halted) hd
  obtain ⟨d₂, hd₂, h₂⟩ := passes_check _ tcRc002_passes hd₁
  exact fun h => not_passes_of_raises _ (tcRc003_raises polls) hd₂ (h₂.mp (h₁.mp h))

/-- The read before activation changes nothing and cannot fail. -/
theorem passes_baseline (name : String) (steps : List (SessionStep DebugError RISCVDebug)) :
    Passes (checkStep name baseline :: steps) d ↔ Passes steps d := by
  have hbaseline : baseline.Returns (· = d) fun r s => r.ok = true ∧ s = d := by
    refine Script.Returns.bind (R := fun _ s => s = d) (.look fun _ hs => hs) fun word => ?_
    exact .pure fun _ hs => ⟨rfl, hs⟩
  have hcheck : ∃ d', d' = d ∧ (Passes (checkStep name baseline :: steps) d ↔ Passes steps d') :=
    passes_check steps hbaseline rfl
  obtain ⟨d', rfl, h⟩ := hcheck
  exact h

end

/-- What the run-control sequence needs of the state it is started in. -/
structure RISCVDebug.RunControlReady (d : RISCVDebug) (hartsel : Int) : Prop where
  version : d.params.version % 16 ≠ 0
  there : lowBits 20 hartsel < d.params.numHarts
  released : d.leftInHartreset (lowBits 20 hartsel) = false
  unarmed : d.stepArmed = false

/-- **The run-control sequence**, started after any writes to a model that declares a hart, passes exactly if
the DM reports a version, the hart is there, is not left in `hartreset` and has no step armed, and both
latencies are under the bound. -/
theorem run_control_passes_iff (polls : Nat) (ms : ℚ → String) (pyRepr : String → String)
    (latency : ResponseLatencies) (hartsel tracked : Int) {boot : DMPredictor} (hboot : boot.Booted)
    (hharts : 1 ≤ boot.params.numHarts) (earlier : List (Nat × Int)) :
    let d : RISCVDebug := ⟨MockTransport.afterWrites ⟨boot, .empty⟩ earlier, tracked⟩
    let session := buildRunControlSequence polls ms latency .batch hartsel
    allPassed (session.run DebugError.text pyRepr [] d).results = true ↔
      d.RunControlReady hartsel ∧
        latency.halt < HALT_RESUME_RESPONSE_BOUND_S ∧ latency.resume < HALT_RESUME_RESPONSE_BOUND_S := by
  intro d session
  have hwf : d.t.predictor.WellFormed :=
    MockTransport.afterWrites_wellFormed (t := ⟨boot, .empty⟩) (hboot.wellFormed hharts) earlier
  rw [DebugSession.run_results DebugError.text pyRepr rfl rfl]
  refine (passes_baseline _ _).trans ((DebugSession.passes_start _ _ hartsel).trans ?_)
  by_cases hthere : lowBits 20 hartsel < d.params.numHarts
  · obtain ⟨v, hw, hv, -⟩ := RISCVDebug.working_start hwf hthere
    cases hleft : d.leftInHartreset (lowBits 20 hartsel) with
    | true =>
      have hstays : ((Lane.out v d.stepArmed).write d.params { haltreq := true }).hart.halted = false :=
        Lane.write_haltreq_inReset (hv.trans hleft)
      have hraises := tcRc001_raises polls hstays
      refine iff_of_false (fun h => DebugSession.not_passes_of_raises _ hraises hw h.2) ?_
      exact fun h => by simpa [hleft] using h.1.released
    | false =>
      have hout : RISCVDebug.HartOut d.params v.halted d.stepArmed (d.start hartsel) :=
        ⟨v, hv.trans hleft, rfl, hw⟩
      cases harmed : d.stepArmed with
      | true =>
        rw [harmed] at hout
        refine iff_of_false (fun h => not_passes_of_armed polls ms latency hout h.2) ?_
        exact fun h => by simpa [harmed] using h.1.unarmed
      | false =>
        rw [harmed] at hout
        rw [runControlChecks_unarmed polls ms latency hout]
        exact ⟨fun h => ⟨⟨h.1, hthere, hleft, harmed⟩, h.2⟩, fun h => ⟨h.1.version, h.2⟩⟩
  · have hnone := RISCVDebug.target_start_none hwf (Nat.not_lt.mp hthere)
    refine iff_of_false (fun h => DebugSession.not_passes_of_raises _ (tcRc001_raises_of_none polls) hnone h.2) ?_
    exact fun h => hthere h.1.there

/-- The second of two harts of a fresh model. -/
theorem run_control_passes_two_harts :
    let boot := DMPredictor.init { numHarts := 2 }
    allPassed ((buildRunControlSequence 3 toString ⟨0, 1 / 2⟩ .batch 1).run DebugError.text id []
      ⟨MockTransport.afterWrites ⟨boot, .empty⟩ [], 0⟩).results = true := by
  refine (run_control_passes_iff 3 toString id ⟨0, 1 / 2⟩ 1 0 (.constructed { numHarts := 2 }) (by decide) []).mpr
    ⟨⟨by decide, by decide, by decide, by decide⟩, ?_, ?_⟩
  · exact zero_lt_one
  · show (1 / 2 : ℚ) < 1
    norm_num

end RiscvDbg
