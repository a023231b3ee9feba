import RiscvDbg.Sequences.Operations

/-!
# The reset-control sequence

Model of `sequences/reset_ctrl_sequence.py` on the model-backed mock, whose transport carries the predictor.

* `buildResetCtrlSequence` — the session, with one definition for each of its steps.
* `RISCVDebug.Unreset`, `Held`, `Released` — what a step finds of the hart and leaves; `tcRst001Assert_passes`
  and its kind take one to the other.
* `RISCVDebug.Deaf` — the hart is not there or left in `hartreset`; the steps keep that until a halt fails.
* `reset_control_passes_iff` — **after any traffic, the sequence passes exactly if the DM reports a version, the
  hart is there, is neither left in `hartreset` nor asked to halt on reset, and `hartreset` is supported or no
  step is armed.**
-/

set_option autoImplicit false

namespace RiscvDbg

/-! ## The steps -/

section
open DebugScript

variable (polls : Nat)

/-- `"cmderr=" in str(e)`. -/
def namesCmderr (e : DebugError) : Bool := decide ("cmderr=".toList <:+: e.text.toList)

def tcRst001Assert : DebugScript StepResult := do
  ndmreset true
  let word ← readDmstatus
  let mutexOk := !(anyhalted word && anyrunning word)
  let declared ← Script.look fun d : RISCVDebug => d.params.version
  let predicted ← expectDmstatus
  let modelPending := ndmresetpending predicted
  let dutPending := ndmresetpending word
  let expected := decide (DMSTATUS_VERSION_1_0 ≤ declared)
  let note := if expected && dutPending != modelPending then
      s!" [divergence: DUT ndmresetpending={dutPending.toNat} vs model={modelPending.toNat} — some "
        ++ "v1.0-reporting dm_pkg forks still lack a routed ndmresetpending field, #3.14.1]" else ""
  let ok := if expected then mutexOk && modelPending && dutPending else mutexOk
  return ⟨ok, s!"TC-RST-001: ndmreset asserted, dmstatus={pyHexWord word}{note}"⟩

def tcRst001Deassert : DebugScript StepResult := do
  ndmreset false
  let word ← readDmstatus
  return ⟨!anyhalted word, s!"TC-RST-001: ndmreset deasserted, anyhalted={pyBool (anyhalted word)} "
    ++ "(expected False — no halt request was raised)"⟩

/-- The loop that reads `dmstatus` until the hart is halted or the time is up. -/
def pollHalted : Nat → DebugScript Bool
  | 0 => isHalted
  | polls + 1 => do
    let halted ← isHalted
    if halted then return true else pollHalted polls

def tcRst001HaltreqDuringReset : DebugScript StepResult := do
  ndmreset true
  let _ ← writeDmcontrol { haltreq := true, ndmreset := true }
  let word ← readDmstatus
  let stillInReset := !anyhalted word
  let _ ← writeDmcontrol { haltreq := true, ndmreset := false }
  let haltedOnRelease ← pollHalted polls
  return ⟨stillInReset && haltedOnRelease, "TC-RST-001 (cont'd): haltreq written while ndmreset asserted — "
    ++ s!"still not halted mid-reset={pyBool stillInReset}, halted on release={pyBool haltedOnRelease} "
    ++ "(spec #3.5: a pending halt request takes effect the moment reset deasserts)"⟩

def tcRst002 : DebugScript StepResult := do
  halt polls
  hartreset true
  let readback ← readDmcontrol
  if !dmcontrolHartreset readback then
    hartreset false
    resume polls
    return ⟨true, "TC-RST-002: dmcontrol.hartreset read back 0 after being written 1 — not implemented on this "
      ++ "DUT (WARL tied 0, spec #3.14.2 hartreset). N/A per the spec's own discovery mechanism, not a failure "
      ++ "(matches CVA6 dm_csrs.sv:511)."⟩
  else
    let _ ← readDmstatus
    hartreset false
    let after ← readDmstatus
    return ⟨!anyhalted after, "TC-RST-002: hartreset supported on this DUT — halted, reset-asserted, then "
      ++ s!"released; anyhalted after release={pyBool (anyhalted after)}"⟩

/-- What a cause of reset showed; nothing if the DUT does not have it. -/
def causeText (cause : String × Option Bool) : String :=
  cause.1 ++ "=" ++ match cause.2 with
    | some true => "set"
    | none => "N/A"
    | some false => "NOT SET"

def tcRst003 : DebugScript StepResult := do
  ndmreset true
  ndmreset false
  let word ← readDmstatus
  let byNdmreset := some (anyhavereset word && allhavereset word)
  ackhavereset
  hartreset true
  let readback ← readDmcontrol
  let byHartreset ← (
    if dmcontrolHartreset readback then do
      hartreset false
      let word ← readDmstatus
      ackhavereset
      return some (anyhavereset word && allhavereset word)
    else do
      hartreset false
      return none : DebugScript (Option Bool))
  let results := [("ndmreset", byNdmreset), ("hartreset", byHartreset)]
  let detail := ", ".intercalate (results.map causeText)
  return ⟨results.all fun cause => cause.2 != some false,
    s!"TC-RST-003: havereset observed per reset cause — {detail} "
      ++ "(spec #3.2: 'must be set regardless of the cause of the reset')"⟩

def tcRst004 : DebugScript StepResult := do
  ndmreset true
  ndmreset false
  let before ← readDmstatus
  let wasSet := anyhavereset before && allhavereset before
  ackhavereset
  let after ← readDmstatus
  let cleared := !anyhavereset after && !allhavereset after
  return ⟨wasSet && cleared, s!"TC-RST-004: havereset was_set={pyBool wasSet} before ack, "
    ++ s!"cleared={pyBool cleared} after ackhavereset (spec #3.14.2)"⟩

def tcRst005 : DebugScript StepResult := do
  ndmreset true
  let outcome ← (DebugScript.readGpr polls 0x1000).attempt
  let survived := match outcome with
    | .ok _ => true
    | .error e => namesCmderr e
  ndmreset false
  let post ← readDmcontrol
  let dmAlive := dmcontrolDmactive post
  return ⟨survived && dmAlive, s!"TC-RST-005: DMI access during ndmreset survived={pyBool survived}, DM alive "
    ++ s!"afterward (dmactive={pyBool dmAlive}) — the specific read-back value is UNSPECIFIED per #3.2 and not "
    ++ "checked"⟩

def tcRst006 : DebugScript StepResult := do
  ackhavereset
  let before ← readDmstatus
  let alreadyClear := !anyhavereset before && !allhavereset before
  ackhavereset
  let after ← readDmstatus
  let stillClear := !anyhavereset after && !allhavereset after
  return ⟨alreadyClear && stillClear, "TC-RST-006: ackhavereset written with havereset already clear "
    ++ s!"(before={pyBool alreadyClear}, after={pyBool stillClear}) — no-op, no error (#3.14.2)"⟩

def tcDhs006Probe : DebugScript StepResult := do
  ackunavail
  let readback ← readDmcontrol
  let alive := dmcontrolDmactive readback
  return ⟨alive, "TC-DHS-006 (write-only half): wrote dmcontrol.ackunavail=1 — DM alive afterward "
    ++ s!"(dmactive={pyBool alive}). Full conditional-clear semantics (#3.14.2: clears only "
    ++ "currently-available harts) not checked here -- needs hart-availability transition modeling, a later "
    ++ "slice."⟩

def tcKa001 : DebugScript StepResult := do
  let _ ← writeDmcontrol { setkeepalive := true }
  let afterSet ← readDmcontrol
  let _ ← writeDmcontrol { clrkeepalive := true }
  let afterClr ← readDmcontrol
  let alive := dmcontrolDmactive afterClr
  return ⟨alive, s!"TC-KA-001: wrote setkeepalive=1 (readback=0x{pyHex 8 afterSet}), then clrkeepalive=1 "
    ++ s!"(readback=0x{pyHex 8 afterClr}) — DM alive throughout (dmactive={pyBool alive}). keepalive cannot be "
    ++ "read back (#3.14.2), so this is discovery-only, same as resethaltreq."⟩

/-- The steps of the sequence once a hart is selected. -/
def resetControlChecks : List (SessionStep DebugError RISCVDebug) :=
  [checkStep "TC-RST-001: assert dmcontrol.ndmreset=1 (spec #3.2)" tcRst001Assert,
    checkStep "TC-RST-001: deassert dmcontrol.ndmreset=0" tcRst001Deassert,
    checkStep "TC-RST-001 (cont'd): haltreq asserted while a hart is in ndmreset (spec #3.5)"
      (tcRst001HaltreqDuringReset polls),
    checkStep "TC-RST-002: discover/exercise dmcontrol.hartreset (spec #3.14.2)" (tcRst002 polls),
    checkStep "TC-RST-003: havereset set regardless of reset cause (spec #3.2)" tcRst003,
    checkStep "TC-RST-004: ackhavereset clears the sticky havereset bit (spec #3.14.2)" tcRst004,
    checkStep "TC-RST-005: DMI access restrictions while ndmreset asserted (spec #3.2)" (tcRst005 polls),
    checkStep "TC-RST-006: ackhavereset is a no-op when havereset is already clear (spec #3.14.2)" tcRst006,
    checkStep "TC-DHS-006 (write-only half): ackunavail discovery probe (spec #3.14.2)" tcDhs006Probe,
    checkStep "TC-KA-001: setkeepalive/clrkeepalive discovery probe (spec #3.14.2)" tcKa001]

/-- `build_reset_ctrl_sequence`. -/
def buildResetCtrlSequence (mode : SessionMode) (hartsel : Int) : DebugSession DebugError RISCVDebug where
  mode := mode
  stopOnError := false
  steps :=
    [actionStep "Activate Debug Module" DebugScript.activate]
      ++ (if hartsel ≠ 0 then [actionStep s!"Select hart {hartsel}" (selectHart hartsel)] else [])
      ++ resetControlChecks polls

end

/-! ## What the steps do -/

namespace RISCVDebug

/-- The session works on a hart in no reset, which halts on the next one if `onReset`. -/
def Unreset (p : Params) (onReset armed : Bool) (d : RISCVDebug) : Prop :=
  ∃ v : HartView, v.hartReset = false ∧ v.resetHaltreq = onReset ∧ Working p (.out v armed) d

/-- The same with the hart held in `ndmreset`. -/
def Held (p : Params) (onReset armed : Bool) (d : RISCVDebug) : Prop :=
  ∃ v : HartView, v.hartReset = false ∧ v.halted = false ∧ v.haltRequest = false ∧ v.resetHaltreq = onReset ∧
    Working p (.held v armed) d

/-- The same as `Unreset`, with what is known of the hart. -/
def UnresetWith (p : Params) (onReset armed : Bool) (φ : HartView → Prop) (d : RISCVDebug) : Prop :=
  ∃ v : HartView, v.hartReset = false ∧ φ v ∧ v.resetHaltreq = onReset ∧ Working p (.out v armed) d

/-- A hart that has just come out of reset. -/
def Released (p : Params) (onReset armed : Bool) : RISCVDebug → Prop :=
  UnresetWith p onReset armed fun v => v.halted = onReset ∧ v.havereset = true

variable {p : Params} {onReset armed : Bool} {φ ψ : HartView → Prop} {d : RISCVDebug}

theorem UnresetWith.unreset (h : d.UnresetWith p onReset armed φ) : d.Unreset p onReset armed := by
  obtain ⟨v, hv, -, hr, hw⟩ := h
  exact ⟨v, hv, hr, hw⟩

theorem UnresetWith.mono (h : d.UnresetWith p onReset armed φ) (hφ : ∀ v, φ v → ψ v) :
    d.UnresetWith p onReset armed ψ := by
  obtain ⟨v, hv, hv', hr, hw⟩ := h
  exact ⟨v, hv, hφ v hv', hr, hw⟩

theorem UnresetWith.hartOut (h : d.UnresetWith p onReset armed (·.halted = true)) : d.HartOut p true armed := by
  obtain ⟨v, hv, hb, -, hw⟩ := h
  exact ⟨v, hv, hb, hw⟩

end RISCVDebug

section
open DebugScript Lane
open RISCVDebug (Working HartOut Unreset UnresetWith Held Released)

variable {p : Params} {v : HartView} {onReset armed : Bool} (polls : Nat)

/-- The hart enters `ndmreset`. -/
theorem ndmreset_holds : (ndmreset true).Returns (Unreset p onReset armed) fun _ => Held p onReset armed := by
  refine .some fun v => .given fun hv => .given fun hr => ?_
  refine (ndmreset_returns true).post fun _ d hw => ?_
  rw [write_assert hv rfl rfl] at hw
  exact ⟨_, rfl, rfl, rfl, by simp [HartView.answer, hr], hw⟩

/-- It leaves it, and halts if that was asked for. -/
theorem ndmreset_releases : (ndmreset false).Returns (Held p onReset armed) fun _ => Released p onReset armed := by
  refine .some fun v => .given fun hv => .given fun hb => .given fun hq => .given fun hr => ?_
  refine (ndmreset_returns false).post fun _ d hw => ?_
  rw [write_release hv rfl rfl, write_out (v := v.released) hv rfl rfl] at hw
  simp only [Bool.false_and, Bool.not_false, Bool.and_true] at hw
  exact ⟨_, rfl, ⟨by simp [HartView.answer, HartView.released, hq, hr], rfl⟩,
    by simp [HartView.answer, HartView.released, hr], hw⟩

theorem tcRst001Assert_passes :
    tcRst001Assert.Returns (Unreset p onReset armed) fun r d => r.ok = true ∧ Held p onReset armed d := by
  refine ndmreset_holds.bind fun _ => ?_
  refine .some fun v => .given fun hv => .given fun hb => .given fun hq => .given fun hr => ?_
  refine readDmstatus_returns.bind fun word => .given fun hword => ?_
  refine Script.Returns.bind (R := fun declared d => declared = p.version ∧ Working p (.held v armed) d)
    (.look fun d hw => ⟨congrArg Params.version hw.params, hw⟩) fun declared => .given fun hdeclared => ?_
  refine expectDmstatus_returns.bind fun predicted => .given fun hpredicted => ?_
  refine .pure fun d hw => ⟨?_, v, hv, hb, hq, hr, hw⟩
  rw [hdeclared, hword.anyhalted, hword.ndmresetpending, hpredicted.ndmresetpending]
  by_cases hversion : DMSTATUS_VERSION_1_0 ≤ p.version <;> simp [held, HartView.state, hb, hversion]

theorem tcRst001Deassert_returns :
    tcRst001Deassert.Returns (Held p onReset armed) fun r d =>
      (r.ok = true ↔ onReset = false) ∧ Unreset p onReset armed d := by
  refine ndmreset_releases.bind fun _ => ?_
  refine .some fun v => .given fun hv => .given fun hreleased => .given fun hr => ?_
  refine readDmstatus_returns.bind fun word => .given fun hword => ?_
  refine .pure fun d hw => ⟨?_, v, hv, hr, hw⟩
  rw [hword.anyhalted]
  simp [out, HartView.state, hreleased.1]

theorem pollHalted_returns {l : Lane} :
    (pollHalted polls).Returns (Working p l) fun b d => b = l.hart.halted ∧ Working p l d := by
  induction polls with
  | zero => exact isHalted_returns
  | succ polls ih =>
    refine isHalted_returns.bind fun b => .given fun hb => ?_
    cases hl : l.hart.halted with
    | true =>
      rw [hb, hl]
      exact .pure fun d hw => ⟨rfl, hw⟩
    | false =>
      rw [hb, hl]
      rw [hl] at ih
      exact ih

theorem tcRst001HaltreqDuringReset_passes :
    (tcRst001HaltreqDuringReset polls).Returns (Unreset p onReset armed) fun r d =>
      r.ok = true ∧ Unreset p onReset armed d := by
  refine ndmreset_holds.bind fun _ => ?_
  refine .some fun v => .given fun hv => .given fun hb => .given fun _ => .given fun hr => ?_
  refine (writeDmcontrol_returns _).bind fun _ => ?_
  rw [write_held hv hb rfl rfl]
  refine readDmstatus_returns.bind fun word => .given fun hword => ?_
  refine (writeDmcontrol_returns _).bind fun _ => ?_
  rw [write_release rfl rfl rfl, write_out (v := HartView.released _) rfl rfl rfl]
  refine (pollHalted_returns polls).bind fun halted => .given fun hhalted => ?_
  simp only [Bool.not_true, Bool.and_false, Bool.false_and, Bool.not_false, Bool.and_true] at hhalted ⊢
  refine .pure fun d hw => ⟨?_, _, rfl, by simp [HartView.answer, HartView.released, hr], hw⟩
  rw [hword.anyhalted, hhalted]
  rfl

/-- A write out of reset that asks for neither a resume nor a change of the halt-on-reset request. -/
theorem unreset_of_write {d : RISCVDebug} {a : DmcontrolArgs} (hv : v.hartReset = false)
    (hr : v.resetHaltreq = onReset) (ha : a.ndmreset = false) (ha' : a.hartreset = false)
    (hq : a.resumereq = false) (hs : a.setresethaltreq = false) (hc : a.clrresethaltreq = false)
    (hw : Working p ((out v armed).write p a) d) : Unreset p onReset armed d := by
  rw [write_out hv ha ha', hq, Bool.false_and, Bool.false_and, Bool.not_false, Bool.and_true] at hw
  exact ⟨_, rfl, by simp [HartView.answer, hr, hs, hc], hw⟩

/-- A hart out of reset halts. -/
theorem halt_unreset :
    (halt polls).Returns (Unreset p onReset armed) fun _ => UnresetWith p onReset armed (·.halted = true) := by
  refine .some fun v => .given fun hv => .given fun hr => ?_
  have hhalt : (out v armed).write p { haltreq := true } = out (v.answer p { haltreq := true } armed) armed := by
    rw [write_out hv rfl rfl]
    simp
  refine (halt_returns polls (by rw [hhalt]; rfl)).post fun _ d hw => ?_
  rw [hhalt, write_out rfl rfl rfl] at hw
  simp only [Bool.false_and, Bool.not_false, Bool.and_true] at hw
  exact ⟨_, rfl, rfl, by simp [HartView.answer, hr], hw⟩

/-- The session works on a hart held in `hartreset`. -/
def RISCVDebug.HeldAlone (p : Params) (onReset armed : Bool) (d : RISCVDebug) : Prop :=
  ∃ v : HartView, v.haltRequest = false ∧ v.resetHaltreq = onReset ∧ Working p ⟨v, false, true, armed⟩ d

/-- With `hartreset` supported the hart enters it. -/
theorem hartreset_holds (hp : p.supportsHartreset = true) :
    (hartreset true).Returns (Unreset p onReset armed) fun _ => RISCVDebug.HeldAlone p onReset armed := by
  refine .some fun v => .given fun hv => .given fun hr => ?_
  refine (hartreset_returns true).post fun _ d hw => ?_
  rw [write_hartreset (by rw [hp]; rfl) rfl rfl rfl] at hw
  exact ⟨_, rfl, by simp [out, ndmEdge, HartView.requested, hartWrite, hr], hw⟩

/-- It leaves it, and halts if that was asked for. -/
theorem hartreset_releases :
    (hartreset false).Returns (RISCVDebug.HeldAlone p onReset armed) fun _ => Released p onReset armed := by
  refine .some fun v => .given fun hq => .given fun hr => ?_
  refine (hartreset_returns false).post fun _ d hw => ?_
  rw [write_endHartreset rfl rfl, write_out rfl rfl rfl] at hw
  simp only [Bool.false_and, Bool.not_false, Bool.and_true] at hw
  exact ⟨_, rfl, ⟨by simp [HartView.answer, HartView.released, hq, hr], rfl⟩,
    by simp [HartView.answer, HartView.released, hr], hw⟩

/-- Without it, `hartreset` is a write that asks for nothing. -/
theorem hartreset_ignored (hp : p.supportsHartreset = false) (assertReset : Bool) :
    (hartreset assertReset).Returns (Unreset p onReset armed) fun _ => Unreset p onReset armed := by
  refine .some fun v => .given fun hv => .given fun hr => ?_
  refine (hartreset_returns assertReset).post fun _ d hw => ?_
  rw [write_unsupported hp] at hw
  exact unreset_of_write hv hr rfl rfl rfl rfl rfl hw

theorem readDmcontrol_hartreset :
    readDmcontrol.Returns (Unreset p onReset armed) fun word d =>
      dmcontrolHartreset word = false ∧ Unreset p onReset armed d := by
  refine .some fun v => .given fun hv => .given fun hr => ?_
  refine readDmcontrol_returns.post fun word d hw => ⟨?_, v, hv, hr, hw.2⟩
  rw [hw.1.1]
  rfl

theorem readDmcontrol_heldAlone (hp : p.supportsHartreset = true) :
    readDmcontrol.Returns (RISCVDebug.HeldAlone p onReset armed) fun word d =>
      dmcontrolHartreset word = true ∧ d.HeldAlone p onReset armed := by
  refine .some fun v => .given fun hq => .given fun hr => ?_
  refine readDmcontrol_returns.post fun word d hw => ⟨?_, v, hq, hr, hw.2⟩
  rw [hw.1.1, hp]
  rfl

/-- With `hartreset` supported the hart comes out of it as it was asked to. -/
theorem tcRst002_supported (hp : p.supportsHartreset = true) :
    (tcRst002 polls).Returns (Unreset p onReset armed) fun r d =>
      (r.ok = true ↔ onReset = false) ∧ Unreset p onReset armed d := by
  refine (halt_unreset polls).bind fun _ => ?_
  refine ((hartreset_holds hp).pre fun _ hd => hd.unreset).bind fun _ => ?_
  refine (readDmcontrol_heldAlone hp).bind fun readback => .given fun hreadback => ?_
  rw [hreadback]
  refine Script.Returns.bind (R := fun _ => RISCVDebug.HeldAlone p onReset armed) (.look fun _ hd => hd) fun _ => ?_
  refine hartreset_releases.bind fun _ => ?_
  refine .some fun v => .given fun hv => .given fun hreleased => .given fun hr => ?_
  refine readDmstatus_returns.bind fun after => .given fun hafter => ?_
  refine .pure fun d hw => ⟨?_, v, hv, hr, hw⟩
  rw [hafter.anyhalted]
  simp [out, HartView.state, hreleased.1]

theorem resume_unreset :
    (resume polls).Returns (Unreset p onReset false) fun _ => Unreset p onReset false := by
  refine .some fun v => .given fun hv => .given fun hr => ?_
  have hresume : (out v false).write p { resumereq := true } =
      out (v.answer p { resumereq := true } false) false := by
    rw [write_out hv rfl rfl, Bool.false_and]
  have hrun : (v.answer p { resumereq := true } false).halted = false := by simp [HartView.answer]
  refine (resume_returns polls (by rw [hresume]; exact hrun)).post fun _ d hw => ?_
  rw [hresume] at hw
  exact unreset_of_write rfl (by simp [HartView.answer, hr]) rfl rfl rfl rfl rfl hw

/-- Without it the hart is resumed. -/
theorem tcRst002_unsupported (hp : p.supportsHartreset = false) :
    (tcRst002 polls).Returns (Unreset p onReset false) fun r d => r.ok = true ∧ Unreset p onReset false d := by
  refine Script.Returns.bind (R := fun _ => Unreset p onReset false)
    ((halt_unreset polls).post fun _ _ hd => hd.unreset) fun _ => ?_
  refine (hartreset_ignored hp true).bind fun _ => ?_
  refine readDmcontrol_hartreset.bind fun readback => .given fun hreadback => ?_
  rw [hreadback]
  refine (hartreset_ignored hp false).bind fun _ => ?_
  refine (resume_unreset polls).bind fun _ => ?_
  exact .pure fun d hd => ⟨rfl, hd⟩

/-- With a step armed the resume is not seen. -/
theorem tcRst002_raises (hp : p.supportsHartreset = false) : (tcRst002 polls).Raises (Unreset p onReset true) := by
  have hignored : ∀ assertReset, (hartreset assertReset).Returns (HartOut p true true) fun _ => HartOut p true true := by
    intro assertReset
    refine .some fun v => .given fun hv => .given fun hb => ?_
    refine (hartreset_returns assertReset).post fun _ d hw => ?_
    rw [write_unsupported hp, write_out hv rfl rfl, Bool.false_and, Bool.false_and, Bool.not_false,
      Bool.and_true] at hw
    exact ⟨_, rfl, by simp [HartView.answer, hb], hw⟩
  refine .after (R := fun _ => HartOut p true true)
    ((halt_unreset polls).post fun _ _ hd => hd.hartOut) fun _ => ?_
  refine .after (hignored true) fun _ => ?_
  refine .after (R := fun word d => dmcontrolHartreset word = false ∧ HartOut p true true d) ?_ fun readback => ?_
  · refine .some fun v => .given fun hv => .given fun hb => ?_
    refine readDmcontrol_returns.post fun word d hw => ⟨?_, v, hv, hb, hw.2⟩
    rw [hw.1.1]
    rfl
  · rintro d ⟨hreadback, hd⟩
    rw [hreadback]
    exact (Script.Raises.after (hignored false) fun _ => (resume_raises_of_armed polls).bind) d hd

theorem ackhavereset_clears :
    ackhavereset.Returns (Unreset p onReset armed) fun _ => UnresetWith p onReset armed (·.havereset = false) := by
  refine .some fun v => .given fun hv => .given fun hr => ?_
  refine ackhavereset_returns.post fun _ d hw => ?_
  rw [write_out hv rfl rfl, Bool.false_and, Bool.false_and, Bool.not_false, Bool.and_true] at hw
  exact ⟨_, rfl, by simp [HartView.answer], by simp [HartView.answer, hr], hw⟩

theorem ackhavereset_unreset :
    ackhavereset.Returns (Unreset p onReset armed) fun _ => Unreset p onReset armed :=
  ackhavereset_clears.post fun _ _ hd => hd.unreset

/-- `havereset` shows in `dmstatus`. -/
theorem readDmstatus_havereset {b : Bool} :
    readDmstatus.Returns (UnresetWith p onReset armed (·.havereset = b)) fun word d =>
      (anyhavereset word = b ∧ allhavereset word = b) ∧ Unreset p onReset armed d := by
  refine .some fun v => .given fun hv => .given fun hb => .given fun hr => ?_
  refine readDmstatus_returns.post fun word d hw => ⟨⟨?_, ?_⟩, v, hv, hr, hw.2⟩
  · exact hw.1.anyhavereset.trans hb
  · exact hw.1.allhavereset.trans hb

/-- It is set after a reset. -/
theorem readDmstatus_released :
    readDmstatus.Returns (Released p onReset armed) fun word d =>
      (anyhavereset word = true ∧ allhavereset word = true) ∧ Unreset p onReset armed d :=
  readDmstatus_havereset.pre fun _ hd => hd.mono fun _ hv => hv.2

theorem tcRst003_passes :
    tcRst003.Returns (Unreset p onReset armed) fun r d => r.ok = true ∧ Unreset p onReset armed d := by
  refine ndmreset_holds.bind fun _ => ndmreset_releases.bind fun _ => ?_
  refine readDmstatus_released.bind fun word => .given fun hword => ?_
  refine ackhavereset_unreset.bind fun _ => ?_
  cases hp : p.supportsHartreset with
  | true =>
    refine (hartreset_holds hp).bind fun _ => ?_
    refine (readDmcontrol_heldAlone hp).bind fun readback => .given fun hreadback => ?_
    rw [hreadback]
    refine Script.Returns.bind (R := fun byHartreset d => byHartreset = some true ∧ Unreset p onReset armed d)
      ?_ fun byHartreset => .given fun hby => ?_
    · refine hartreset_releases.bind fun _ => ?_
      refine readDmstatus_released.bind fun word => .given fun hword => ?_
      refine ackhavereset_unreset.bind fun _ => ?_
      exact .pure fun d hd => ⟨by rw [hword.1, hword.2]; rfl, hd⟩
    · refine .pure fun d hd => ⟨?_, hd⟩
      rw [hword.1, hword.2, hby]
      rfl
  | false =>
    refine (hartreset_ignored hp true).bind fun _ => ?_
    refine readDmcontrol_hartreset.bind fun readback => .given fun hreadback => ?_
    rw [hreadback]
    refine Script.Returns.bind (R := fun byHartreset d => byHartreset = none ∧ Unreset p onReset armed d)
      ?_ fun byHartreset => .given fun hby => ?_
    · refine (hartreset_ignored hp false).bind fun _ => ?_
      exact .pure fun d hd => ⟨rfl, hd⟩
    · refine .pure fun d hd => ⟨?_, hd⟩
      rw [hword.1, hword.2, hby]
      rfl

theorem tcRst004_passes :
    tcRst004.Returns (Unreset p onReset armed) fun r d => r.ok = true ∧ Unreset p onReset armed d := by
  refine ndmreset_holds.bind fun _ => ndmreset_releases.bind fun _ => ?_
  refine readDmstatus_released.bind fun before => .given fun hbefore => ?_
  refine ackhavereset_clears.bind fun _ => ?_
  refine readDmstatus_havereset.bind fun after => .given fun hafter => ?_
  refine .pure fun d hd => ⟨?_, hd⟩
  rw [hbefore.1, hbefore.2, hafter.1, hafter.2]
  rfl

/-- What shows that the DM is alive. -/
theorem readDmcontrol_alive :
    readDmcontrol.Returns (Unreset p onReset armed) fun word d =>
      dmcontrolDmactive word = true ∧ Unreset p onReset armed d := by
  refine .some fun v => .given fun hv => .given fun hr => ?_
  exact readDmcontrol_returns.post fun word d hw => ⟨hw.1.2, v, hv, hr, hw.2⟩

theorem tcRst005_passes :
    (tcRst005 polls).Returns (Unreset p onReset armed) fun r d =>
      r.ok = true ∧ ∃ armed, Unreset p onReset armed d := by
  refine ndmreset_holds.bind fun _ => ?_
  refine .some fun v => .given fun hv => .given fun hb => .given fun hq => .given fun hr => ?_
  refine (readGpr_returns polls 0x1000).attempt.bind fun outcome => .some fun value => .given fun houtcome => ?_
  rw [houtcome]
  refine .some fun armed => ?_
  refine (ndmreset_releases.pre fun d hw => ⟨v, hv, hb, hq, hr, hw⟩).bind fun _ => ?_
  refine (readDmcontrol_alive.pre fun _ hd => UnresetWith.unreset hd).bind fun post => .given fun hpost => ?_
  exact .pure fun d hd => ⟨hpost, armed, hd⟩

theorem tcRst006_passes :
    tcRst006.Returns (Unreset p onReset armed) fun r d => r.ok = true ∧ Unreset p onReset armed d := by
  refine ackhavereset_clears.bind fun _ => ?_
  refine readDmstatus_havereset.bind fun before => .given fun hbefore => ?_
  refine ackhavereset_clears.bind fun _ => ?_
  refine readDmstatus_havereset.bind fun after => .given fun hafter => ?_
  refine .pure fun d hd => ⟨?_, hd⟩
  rw [hbefore.1, hbefore.2, hafter.1, hafter.2]
  rfl

theorem tcDhs006Probe_passes :
    tcDhs006Probe.Returns (Unreset p onReset armed) fun r d => r.ok = true ∧ Unreset p onReset armed d := by
  refine Script.Returns.bind (R := fun _ => Unreset p onReset armed) ?_ fun _ => ?_
  · refine .some fun v => .given fun hv => .given fun hr => ?_
    exact ackunavail_returns.post fun _ d hw => unreset_of_write hv hr rfl rfl rfl rfl rfl hw
  · refine readDmcontrol_alive.bind fun readback => .given fun hreadback => ?_
    exact .pure fun d hd => ⟨hreadback, hd⟩

theorem tcKa001_passes :
    tcKa001.Returns (Unreset p onReset armed) fun r _ => r.ok = true := by
  have hwrite : ∀ a : DmcontrolArgs, a.ndmreset = false → a.hartreset = false → a.resumereq = false →
      a.setresethaltreq = false → a.clrresethaltreq = false →
      (writeDmcontrol a).Returns (Unreset p onReset armed) fun _ => Unreset p onReset armed := by
    intro a ha ha' hq hs hc
    refine .some fun v => .given fun hv => .given fun hr => ?_
    exact (writeDmcontrol_returns a).post fun _ d hw => unreset_of_write hv hr ha ha' hq hs hc hw
  refine (hwrite { setkeepalive := true } rfl rfl rfl rfl rfl).bind fun _ => ?_
  refine readDmcontrol_alive.bind fun afterSet => .given fun _ => ?_
  refine (hwrite { clrkeepalive := true } rfl rfl rfl rfl rfl).bind fun _ => ?_
  refine readDmcontrol_alive.bind fun afterClr => .given fun hafterClr => ?_
  exact .pure fun d _ => hafterClr

end

/-! ## A hart that does not answer -/

section
open DebugScript
open RISCVDebug (Deaf)

variable (polls : Nat)

theorem ndmreset_deaf (assertReset : Bool) : (ndmreset assertReset).Returns Deaf fun _ => Deaf :=
  .modify fun _ hd => hd.send _ rfl rfl

theorem writeDmcontrol_deaf (a : DmcontrolArgs) (ha : a.hartreset = false) :
    (writeDmcontrol a).Returns Deaf fun _ => Deaf := .perform fun _ hd => hd.send _ rfl ha

theorem look_deaf {α : Type} (f : RISCVDebug → α) : (Script.look f : DebugScript α).Returns Deaf fun _ => Deaf :=
  .look fun _ hd => hd

theorem tcRst001Assert_deaf : tcRst001Assert.Returns Deaf fun _ => Deaf := by
  refine (ndmreset_deaf true).bind fun _ => (look_deaf _).bind fun _ => (look_deaf _).bind fun _ => ?_
  exact (look_deaf _).bind fun _ => .pure fun _ hd => hd

theorem tcRst001Deassert_deaf : tcRst001Deassert.Returns Deaf fun _ => Deaf :=
  (ndmreset_deaf false).bind fun _ => (look_deaf _).bind fun _ => .pure fun _ hd => hd

theorem pollHalted_deaf : (pollHalted polls).Returns Deaf fun _ => Deaf := by
  induction polls with
  | zero => exact look_deaf _
  | succ polls ih =>
    refine (look_deaf _).bind fun halted => ?_
    split
    · exact .pure fun _ hd => hd
    · exact ih

theorem tcRst001HaltreqDuringReset_deaf : (tcRst001HaltreqDuringReset polls).Returns Deaf fun _ => Deaf := by
  refine (ndmreset_deaf true).bind fun _ => (writeDmcontrol_deaf _ rfl).bind fun _ => (look_deaf _).bind fun _ => ?_
  exact (writeDmcontrol_deaf _ rfl).bind fun _ => (pollHalted_deaf polls).bind fun _ => .pure fun _ hd => hd

theorem halt_deaf : (halt polls).Raises Deaf :=
  fun d hd => ⟨_, _, d.requestAndWait_of_false polls (hd.allhalted _ rfl rfl rfl)⟩

end

/-! ## The sequence -/

section
open DebugSession
open RISCVDebug (Deaf Unreset)

variable (polls : Nat) {p : Params} {onReset armed : Bool} {d : RISCVDebug}

/-- On a hart that does not answer the sequence fails. -/
theorem not_passes_of_deaf (hd : Deaf d) : ¬Passes (resetControlChecks polls) d := by
  intro h₁
  obtain ⟨d₁, hd₁, h₂⟩ := passes_tail _ tcRst001Assert_deaf hd h₁
  obtain ⟨d₂, hd₂, h₃⟩ := passes_tail _ tcRst001Deassert_deaf hd₁ h₂
  obtain ⟨d₃, hd₃, h₄⟩ := passes_tail _ (tcRst001HaltreqDuringReset_deaf polls) hd₂ h₃
  exact not_passes_of_raises _ (halt_deaf polls).bind hd₃ h₄

/-- The checks after the second cannot fail. -/
theorem passes_fromCauses (hd : d.Unreset p onReset armed) : Passes ((resetControlChecks polls).drop 4) d := by
  obtain ⟨d₁, hd₁, h₁⟩ := passes_check _ tcRst003_passes hd
  obtain ⟨d₂, hd₂, h₂⟩ := passes_check _ tcRst004_passes hd₁
  obtain ⟨d₃, ⟨armed', hd₃⟩, h₃⟩ := passes_check _ (tcRst005_passes polls) hd₂
  obtain ⟨d₄, hd₄, h₄⟩ := passes_check _ tcRst006_passes hd₃
  obtain ⟨d₅, hd₅, h₅⟩ := passes_check _ tcDhs006Probe_passes hd₄
  obtain ⟨d₆, -, h₆⟩ := passes_check (R := fun _ => True) _ (tcKa001_passes.post fun _ _ h => ⟨h, trivial⟩) hd₅
  exact h₁.mpr (h₂.mpr (h₃.mpr (h₄.mpr (h₅.mpr (h₆.mpr passes_nil)))))

/-- On a hart that answers, it passes unless the hart is to halt on reset, or cannot be resumed. -/
theorem resetControlChecks_unreset (hd : d.Unreset p onReset armed) :
    Passes (resetControlChecks polls) d ↔ onReset = false ∧ (p.supportsHartreset = true ∨ armed = false) := by
  obtain ⟨d₁, hd₁, h₁⟩ := passes_check _ tcRst001Assert_passes hd
  obtain ⟨d₂, hd₂, h₂⟩ := passes_check_iff _ tcRst001Deassert_returns hd₁
  obtain ⟨d₃, hd₃, h₃⟩ := passes_check _ (tcRst001HaltreqDuringReset_passes polls) hd₂
  refine h₁.trans (h₂.trans (and_congr_right fun hreset => h₃.trans ?_))
  cases hp : p.supportsHartreset with
  | true =>
    obtain ⟨d₄, hd₄, h₄⟩ := passes_check_iff _ (tcRst002_supported polls hp) hd₃
    exact iff_of_true (h₄.mpr ⟨hreset, passes_fromCauses polls hd₄⟩) (Or.inl rfl)
  | false =>
    cases harmed : armed with
    | true =>
      rw [harmed] at hd₃
      exact iff_of_false (not_passes_of_raises _ (tcRst002_raises polls hp) hd₃) (by simp)
    | false =>
      rw [harmed] at hd₃
      obtain ⟨d₄, hd₄, h₄⟩ := passes_check _ (tcRst002_unsupported polls hp) hd₃
      exact iff_of_true (h₄.mpr (passes_fromCauses polls hd₄)) (Or.inr rfl)

end

/-- What the reset-control sequence needs of the state it is started in. -/
structure RISCVDebug.ResetControlReady (d : RISCVDebug) (hartsel : Int) : Prop where
  version : d.params.version % 16 ≠ 0
  there : lowBits 20 hartsel < d.params.numHarts
  notLeft : d.leftInHartreset (lowBits 20 hartsel) = false
  runsOnReset : d.haltsOnReset (lowBits 20 hartsel) = false
  resumable : d.params.supportsHartreset = true ∨ d.stepArmed = false

/-- **The reset-control sequence**, started after any writes to a model that declares a hart, passes exactly if
the DM reports a version, the hart is there, is neither left in `hartreset` nor asked to halt on reset, and
`hartreset` is supported or no step is armed. -/
theorem reset_control_passes_iff (polls : Nat) (pyRepr : String → String) (hartsel tracked : Int)
    {boot : DMPredictor} (hboot : boot.Booted) (hharts : 1 ≤ boot.params.numHarts) (earlier : List (Nat × Int)) :
    let d : RISCVDebug := ⟨MockTransport.afterWrites ⟨boot, .empty⟩ earlier, tracked⟩
    let session := buildResetCtrlSequence polls .batch hartsel
    allPassed (session.run DebugError.text pyRepr [] d).results = true ↔ d.ResetControlReady hartsel := by
  intro d session
  have hwf : d.t.predictor.WellFormed :=
    MockTransport.afterWrites_wellFormed (t := ⟨boot, .empty⟩) (hboot.wellFormed hharts) earlier
  rw [DebugSession.run_results DebugError.text pyRepr rfl rfl]
  refine (DebugSession.passes_start _ _ hartsel).trans ?_
  by_cases hleft : lowBits 20 hartsel < d.params.numHarts → d.leftInHartreset (lowBits 20 hartsel) = true
  · refine iff_of_false (fun h => not_passes_of_deaf polls (RISCVDebug.deaf_start hwf hleft) h.2) fun h => ?_
    exact Bool.false_ne_true (h.notLeft.symm.trans (hleft h.there))
  · rw [Classical.not_imp, Bool.not_eq_true] at hleft
    obtain ⟨hthere, hout⟩ := hleft
    obtain ⟨v, hw, hv, hr⟩ := RISCVDebug.working_start hwf hthere
    rw [resetControlChecks_unreset polls ⟨v, hv.trans hout, hr, hw⟩]
    exact ⟨fun h => ⟨h.1, hthere, hout, h.2.1, h.2.2⟩, fun h => ⟨h.version, h.runsOnReset, h.resumable⟩⟩

/-- The second of two harts of a fresh model. -/
theorem reset_control_passes_two_harts :
    let boot := DMPredictor.init { numHarts := 2 }
    allPassed ((buildResetCtrlSequence 3 .batch 1).run DebugError.text id []
      ⟨MockTransport.afterWrites ⟨boot, .empty⟩ [], 0⟩).results = true :=
  (reset_control_passes_iff 3 id 1 0 (.constructed { numHarts := 2 }) (by decide) []).mpr
    ⟨by decide, by decide, by decide, by decide, by decide⟩

end RiscvDbg
