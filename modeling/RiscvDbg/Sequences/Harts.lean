import RiscvDbg.Api.RunControl
import RiscvDbg.HartresetLevel
import RiscvDbg.Lib.Scripts
import RiscvDbg.RegisterCodecs

/-!
# The harts of a session

What the steps of a sequence can do to a hart of the model and see of it, in terms of one hart and the two
reset levels.

* `HartView` — a hart that is there: halted or running, and its flags.
* `Lane` — a hart, the levels of `ndmreset` and `hartreset`, and whether a step is armed; `Lane.write` is
  what a write of `dmcontrol` makes of it.
* `RISCVDebug.Sees` — hart `i` of the session and the levels are those of a lane.  `Sees.write` and
  `Sees.writeOther` carry it through writes that select the hart and that select another one.
* `dmstatus_*`, `dmcontrol_*` — what the registers show of a lane.
-/

set_option autoImplicit false

namespace RiscvDbg

/-! ## One hart -/

/-- A hart that is there and available. -/
structure HartView where
  halted : Bool
  resumeAck : Bool
  havereset : Bool
  haltRequest : Bool
  resetHaltreq : Bool
  hartReset : Bool
  deriving DecidableEq, Repr

/-- The hart as the model keeps it. -/
def HartView.state (v : HartView) : HartState where
  haltRequest := v.haltRequest
  resumeAck := v.resumeAck
  resetHaltreq := v.resetHaltreq
  hartReset := v.hartReset
  halted := v.halted
  running := !v.halted
  havereset := v.havereset

/-- What the model keeps of a hart that is there. -/
def HartState.toView (h : HartState) : HartView :=
  ⟨h.halted, h.resumeAck, h.havereset, h.haltRequest, h.resetHaltreq, h.hartReset⟩

theorem HartState.WellFormed.state_toView {h : HartState} {ndmreset : Bool} (hw : h.WellFormed ndmreset)
    (hx : h.nonexistent = false) : h.toView.state = h := by
  obtain ⟨ha, hu, hr, -, -⟩ := hw
  cases h
  simp only [HartState.toView, HartView.state]
  simp only at ha hu hr hx
  rw [ha, hu, hr, hx]

/-! ### The stages of a write on a hart that is there -/

namespace HartView

variable (w : HartWrite) (v : HartView)

/-- A hart that comes out of reset halts if that was asked for. -/
def released : HartView := { v with halted := v.resetHaltreq || v.haltRequest, havereset := true }

theorem releaseFromReset_state : v.state.releaseFromReset = v.released.state := by
  unfold HartState.releaseFromReset released state
  cases v.resetHaltreq <;> cases v.haltRequest <;> rfl

/-- The halt-on-reset request after a write. -/
def requested : Bool := if w.hasresethaltreq then !w.clrReq && (w.setReq || v.resetHaltreq) else v.resetHaltreq

/-- The two stages that do not look at `running`. -/
theorem acknowledge_requestResethalt (running : Bool) :
    (({ v.state with running := running } : HartState).requestResethalt w).acknowledge w =
      { ({ v with
            resetHaltreq := v.requested w
            havereset := v.havereset && !w.ackhavereset } : HartView).state with
        running := running } := by
  unfold HartState.requestResethalt HartState.acknowledge requested state
  cases w.hasresethaltreq <;> cases w.clrReq <;> cases w.setReq <;> cases w.ackhavereset <;>
    cases w.ackunavail <;> cases v.havereset <;> rfl

theorem requestHalt_state :
    v.state.requestHalt w = { v with haltRequest := w.haltreq, halted := w.haltreq || v.halted }.state := by
  unfold HartState.requestHalt state
  cases w.haltreq <;> cases hv : v.halted <;> rfl

theorem respondResume_state (armed : Bool) :
    v.state.respondResume armed = { v with resumeAck := v.halted, halted := v.halted && armed }.state := by
  unfold HartState.respondResume state
  cases hv : v.halted <;> rfl

theorem settle_state (ndmreset : Bool) :
    v.state.settle ndmreset = { v with halted := v.halted && !(ndmreset || v.hartReset) }.state := by
  unfold HartState.settle state
  cases ndmreset <;> cases v.hartReset <;> cases v.halted <;> rfl

theorem toView_state : v.state.toView = v := rfl

/-- The hart after a request that finds it out of reset: it halts on `haltreq`, which hides `resumereq`, and
acknowledges a resume exactly if it was halted. -/
def answer (p : Params) (a : DmcontrolArgs) (armed : Bool) (v : HartView) : HartView where
  halted := a.haltreq || v.halted && (!a.resumereq || armed)
  resumeAck := if a.resumereq && !a.haltreq then v.halted else v.resumeAck
  havereset := v.havereset && !a.ackhavereset
  haltRequest := a.haltreq
  resetHaltreq :=
    if p.hasresethaltreq then !a.clrresethaltreq && (a.setresethaltreq || v.resetHaltreq) else v.resetHaltreq
  hartReset := false

end HartView

/-- A hart, the reset levels, and the step bit of the shadowed `dcsr`. -/
structure Lane where
  hart : HartView
  ndmreset : Bool
  hartresetLevel : Bool
  stepArmed : Bool
  deriving DecidableEq, Repr

namespace Lane

variable (p : Params) (selected : Bool) (l : Lane) (a : DmcontrolArgs)

/-- What the hart notices of a write. -/
def hartWrite : HartWrite where
  selected := selected
  nonexistent := false
  ndmWas := l.ndmreset
  ndmNow := a.ndmreset
  levelWas := l.hartresetLevel
  levelNow := a.hartreset && p.supportsHartreset
  setReq := a.setresethaltreq
  clrReq := a.clrresethaltreq
  ackhavereset := a.ackhavereset
  ackunavail := a.ackunavail
  haltreq := a.haltreq
  resumereq := a.resumereq
  stepArmed := l.stepArmed
  hasresethaltreq := p.hasresethaltreq
  resumeackReset := p.resumeackReset

/-- A write of `dmcontrol` that selects the hart. -/
def write : Lane where
  hart := (l.hart.state.afterWrite (l.hartWrite p true a)).toView
  ndmreset := a.ndmreset
  hartresetLevel := a.hartreset && p.supportsHartreset
  stepArmed := l.stepArmed && !l.hart.state.resumes (l.hartWrite p true a)

/-- A write of `dmcontrol` that selects another hart. -/
def writeOther : Lane :=
  { l with
    hart := (l.hart.state.afterWrite (l.hartWrite p false a)).toView
    ndmreset := a.ndmreset
    hartresetLevel := a.hartreset && p.supportsHartreset }

variable {p l a}

/-- The edges of `ndmreset`. -/
def ndmEdge (p : Params) (l : Lane) (a : DmcontrolArgs) : HartView :=
  if a.ndmreset && !l.ndmreset then
    { l.hart with halted := false, havereset := true, resumeAck := p.resumeackReset }
  else if !a.ndmreset && l.ndmreset then l.hart.released
  else l.hart

theorem beforeSelected_state :
    l.hart.state.beforeSelected (l.hartWrite p selected a) = (l.ndmEdge p a).state := by
  show HartState.ndmEdge (l.hartWrite p selected a) l.hart.state = _
  unfold HartState.ndmEdge ndmEdge
  rw [HartView.releaseFromReset_state]
  show (if (a.ndmreset && !l.ndmreset) = true then _ else if (!a.ndmreset && l.ndmreset) = true then _ else _) = _
  split
  · rfl
  · split <;> rfl

/-- The hart up to the resume request, in a write that does not raise `hartreset`. -/
def beforeResume (p : Params) (l : Lane) (a : DmcontrolArgs) : HartView :=
  let v := l.ndmEdge p a
  let v := if l.hartresetLevel then { v with hartReset := false }.released else v
  { v with
    resetHaltreq := v.requested (l.hartWrite p true a)
    havereset := v.havereset && !a.ackhavereset
    haltRequest := a.haltreq
    halted := a.haltreq || v.halted }

theorem beforeResume_state (ha : (a.hartreset && p.supportsHartreset) = false) :
    l.hart.state.beforeResume (l.hartWrite p true a) = (l.beforeResume p a).state := by
  have hlevel : ∀ v : HartView, v.state.levelEdge (l.hartWrite p true a) =
      (if l.hartresetLevel then { v with hartReset := false }.released else v).state := by
    intro v
    unfold HartState.levelEdge
    rw [show (l.hartWrite p true a).levelNow = false from ha]
    cases hl : l.hartresetLevel with
    | false => simp [hartWrite, hl]
    | true =>
      simp only [hartWrite, hl, Bool.false_and, Bool.false_eq_true, Bool.not_false, Bool.and_self, if_true, if_false]
      exact HartView.releaseFromReset_state { v with hartReset := false }
  unfold HartState.beforeResume beforeResume
  rw [beforeSelected_state, hlevel]
  let w := l.hartWrite p true a
  let v := if l.hartresetLevel then { l.ndmEdge p a with hartReset := false }.released else l.ndmEdge p a
  have hstages := HartView.acknowledge_requestResethalt w v (!v.halted)
  exact (congrArg (HartState.requestHalt w) hstages).trans
    (HartView.requestHalt_state w { v with
      resetHaltreq := v.requested w, havereset := v.havereset && !w.ackhavereset })

/-- **A write that selects the hart**, and does not raise `hartreset`: a resume, which `haltreq` hides, is
acknowledged exactly if the hart was halted, and a hart in reset does not halt. -/
theorem write_eq (ha : (a.hartreset && p.supportsHartreset) = false) :
    l.write p a =
      let v := l.beforeResume p a
      let resume := a.resumereq && !a.haltreq
      { hart :=
          { v with
            resumeAck := if resume then v.halted else v.resumeAck
            halted := v.halted && (!resume || l.stepArmed) && !(a.ndmreset || v.hartReset) }
        ndmreset := a.ndmreset
        hartresetLevel := false
        stepArmed := l.stepArmed && !(resume && v.halted) } := by
  have hbefore := beforeResume_state (l := l) ha
  have hunavail : (l.beforeResume p a).state.unavail = false := rfl
  have hwire : (l.hartWrite p true a).resumereq = a.resumereq ∧ (l.hartWrite p true a).haltreq = a.haltreq ∧
      (l.hartWrite p true a).selected = true ∧ (l.hartWrite p true a).ndmNow = a.ndmreset ∧
      (l.hartWrite p true a).stepArmed = l.stepArmed := ⟨rfl, rfl, rfl, rfl, rfl⟩
  obtain ⟨h₁, h₂, h₃, h₄, h₅⟩ := hwire
  have hnonexistent : (l.beforeResume p a).state.nonexistent = false := rfl
  have hhalted : (l.beforeResume p a).state.halted = (l.beforeResume p a).halted := rfl
  unfold write HartState.afterWrite HartState.resumes
  rw [hbefore, hunavail, hnonexistent, hhalted, ha, h₁, h₂, h₃, h₄, h₅]
  cases hq : a.resumereq <;> cases hh : a.haltreq <;>
    simp [HartView.respondResume_state, HartView.settle_state, HartView.toView_state]

/-- A write that raises `hartreset` over the hart. -/
theorem write_hartreset (ha : (a.hartreset && p.supportsHartreset) = true) (hl : l.hartresetLevel = false)
    (hr : a.resumereq = false) (hh : a.haltreq = false) :
    l.write p a =
      let v := l.ndmEdge p a
      { hart :=
          { v with
            halted := false
            resumeAck := p.resumeackReset
            havereset := v.havereset && !a.ackhavereset
            haltRequest := false
            resetHaltreq := v.requested (l.hartWrite p true a)
            hartReset := true }
        ndmreset := a.ndmreset
        hartresetLevel := true
        stepArmed := l.stepArmed } := by
  have hwire : (l.hartWrite p true a).resumereq = a.resumereq ∧ (l.hartWrite p true a).haltreq = a.haltreq ∧
      (l.hartWrite p true a).levelNow = (a.hartreset && p.supportsHartreset) ∧
      (l.hartWrite p true a).levelWas = l.hartresetLevel := ⟨rfl, rfl, rfl, rfl⟩
  obtain ⟨h₁, h₂, h₃, h₄⟩ := hwire
  have hlevel : ∀ v : HartView, v.state.levelEdge (l.hartWrite p true a) =
      { ({ v with halted := false, resumeAck := p.resumeackReset, hartReset := true } : HartView).state with
        running := false } := by
    intro v
    unfold HartState.levelEdge
    rw [h₃, h₄, ha, hl]
    rfl
  have hresumes : l.hart.state.resumes (l.hartWrite p true a) = false :=
    HartState.resumes_eq_false _ _ (by rw [h₁, hr, Bool.false_and])
  unfold write HartState.afterWrite
  rw [hresumes, ha, h₁, hr]
  unfold HartState.beforeResume
  rw [beforeSelected_state, hlevel, HartView.acknowledge_requestResethalt]
  unfold HartState.requestHalt HartState.settle
  rw [h₂, hh]
  simp [HartState.toView, HartView.state, hartWrite, HartView.requested]

/-- A write that selects another hart. -/
theorem writeOther_eq :
    l.writeOther p a =
      { hart :=
          { l.ndmEdge p a with
            halted := (l.ndmEdge p a).halted && !(a.ndmreset || (l.ndmEdge p a).hartReset) }
        ndmreset := a.ndmreset
        hartresetLevel := a.hartreset && p.supportsHartreset
        stepArmed := l.stepArmed } := by
  have hwire : (l.hartWrite p false a).selected = false ∧ (l.hartWrite p false a).ndmNow = a.ndmreset := ⟨rfl, rfl⟩
  obtain ⟨h₁, h₂⟩ := hwire
  unfold writeOther HartState.afterWrite
  rw [h₁, h₂, beforeSelected_state]
  simp [HartView.settle_state, HartView.toView_state]

/-- The lane of a hart that is in no reset. -/
def out (v : HartView) (armed : Bool) : Lane := ⟨v, false, false, armed⟩

/-- The lane of a hart held in `ndmreset`. -/
def held (v : HartView) (armed : Bool) : Lane := ⟨v, true, false, armed⟩

variable {v : HartView} {armed : Bool}

/-- A request out of reset. -/
theorem write_out (hv : v.hartReset = false) (ha : a.ndmreset = false) (ha' : a.hartreset = false) :
    (out v armed).write p a =
      out (v.answer p a armed) (armed && !(a.resumereq && !a.haltreq && v.halted)) := by
  rw [write_eq (by rw [ha', Bool.false_and])]
  cases hq : a.resumereq <;> cases hh : a.haltreq <;> cases hb : v.halted <;>
    simp [out, HartView.answer, beforeResume, ndmEdge, hartWrite, HartView.requested, ha, hv, hq, hh, hb]

/-- A hart enters `ndmreset`. -/
theorem write_assert (hv : v.hartReset = false) (ha : a.ndmreset = true) (ha' : a.hartreset = false) :
    (out v armed).write p a =
      held { ({ v with halted := false, havereset := true, resumeAck := p.resumeackReset } : HartView).answer
        p a armed with halted := false } armed := by
  rw [write_eq (by rw [ha', Bool.false_and])]
  cases hq : a.resumereq <;> cases hh : a.haltreq <;>
    simp [out, held, HartView.answer, beforeResume, ndmEdge, hartWrite, HartView.requested, ha, hv, hq, hh]

/-- A request to a hart held in `ndmreset`. -/
theorem write_held (hv : v.hartReset = false) (hb : v.halted = false) (ha : a.ndmreset = true)
    (ha' : a.hartreset = false) :
    (held v armed).write p a = held { v.answer p a armed with halted := false } armed := by
  rw [write_eq (by rw [ha', Bool.false_and])]
  cases hq : a.resumereq <;> cases hh : a.haltreq <;>
    simp [held, HartView.answer, beforeResume, ndmEdge, hartWrite, HartView.requested, ha, hv, hq, hh, hb]

/-- A hart leaves `ndmreset`. -/
theorem write_release (hv : v.hartReset = false) (ha : a.ndmreset = false) (ha' : a.hartreset = false) :
    (held v armed).write p a = (out v.released armed).write p a := by
  have hlevel : (a.hartreset && p.supportsHartreset) = false := by rw [ha', Bool.false_and]
  rw [write_eq hlevel, write_eq hlevel]
  simp [held, out, beforeResume, ndmEdge, hartWrite, HartView.requested, HartView.released, ha, hv]

/-- A write that holds no hart in reset leaves the hart out of `ndmreset`, and ends the `hartreset` it was
held in. -/
theorem write_lowers (ha : a.ndmreset = false) (ha' : a.hartreset = false) (hr : a.resumereq = false) :
    l.write p a = out (l.write p a).hart l.stepArmed ∧
      (l.write p a).hart.hartReset = (l.hart.hartReset && !l.hartresetLevel) := by
  rw [write_eq (by rw [ha', Bool.false_and])]
  refine ⟨?_, ?_⟩
  · simp [out, ha, hr]
  · cases hl : l.hartresetLevel <;> cases hn : l.ndmreset <;>
      simp [beforeResume, ndmEdge, HartView.released, ha, hl, hn]

/-- One that selects another hart does not end the `hartreset`. -/
theorem writeOther_lowers (ha : a.ndmreset = false) (ha' : a.hartreset = false) :
    l.writeOther p a = out (l.writeOther p a).hart l.stepArmed ∧
      (l.writeOther p a).hart.hartReset = l.hart.hartReset := by
  rw [writeOther_eq]
  refine ⟨?_, ?_⟩
  · simp [out, ha, ha']
  · cases hn : l.ndmreset <;> simp [ndmEdge, HartView.released, ha, hn]

/-- A write that asks for nothing, whether or not the hart is in `hartreset`. -/
theorem write_none :
    (out v armed).write p {} =
      out { v with haltRequest := false, halted := v.halted && !v.hartReset } armed := by
  rw [write_eq (Bool.false_and _)]
  simp [out, beforeResume, ndmEdge, hartWrite, HartView.requested]

/-- The halt-on-reset request is left alone by writes that do not name it. -/
theorem write_resetHaltreq (ha : a.hartreset = false) (hs : a.setresethaltreq = false)
    (hc : a.clrresethaltreq = false) : (l.write p a).hart.resetHaltreq = l.hart.resetHaltreq := by
  rw [write_eq (by rw [ha, Bool.false_and])]
  cases hl : l.hartresetLevel <;> cases hn : l.ndmreset <;> cases hb : a.ndmreset <;>
    simp [beforeResume, ndmEdge, HartView.released, HartView.requested, hartWrite, hs, hc, hl, hn, hb]

theorem writeOther_resetHaltreq : (l.writeOther p a).hart.resetHaltreq = l.hart.resetHaltreq := by
  rw [writeOther_eq]
  cases hn : l.ndmreset <;> cases hb : a.ndmreset <;> simp [ndmEdge, HartView.released, hn, hb]

/-- Without support for it, `hartreset` is not there. -/
theorem write_unsupported (hp : p.supportsHartreset = false) :
    l.write p a = l.write p { a with hartreset := false } := by
  unfold write hartWrite
  rw [hp]
  simp only [Bool.and_false]

/-- The write that ends `hartreset`. -/
theorem write_endHartreset (ha : a.ndmreset = false) (ha' : a.hartreset = false) :
    (⟨v, false, true, armed⟩ : Lane).write p a = (out { v with hartReset := false }.released armed).write p a := by
  have hlevel : (a.hartreset && p.supportsHartreset) = false := by rw [ha', Bool.false_and]
  rw [write_eq hlevel, write_eq hlevel]
  simp [out, beforeResume, ndmEdge, hartWrite, HartView.requested, HartView.released, ha]

/-- A hart left in `hartreset` does not halt. -/
theorem write_haltreq_inReset (hv : v.hartReset = true) :
    ((out v armed).write p { haltreq := true }).hart.halted = false := by
  rw [write_eq (Bool.false_and _)]
  simp [out, beforeResume, ndmEdge, hartWrite, hv]

end Lane

/-- The transport after writes to any addresses. -/
def MockTransport.afterWrites (t : MockTransport) (writes : List (Nat × Int)) : MockTransport :=
  Runs.run (fun t w => t.write w.1 w.2) t writes

theorem MockTransport.afterWrites_wellFormed {t : MockTransport} (ht : t.predictor.WellFormed)
    (writes : List (Nat × Int)) : (t.afterWrites writes).predictor.WellFormed :=
  Runs.run_invariant (P := fun t : MockTransport => t.predictor.WellFormed)
    (fun _ _ h _ => DMPredictor.onWrite_wellFormed h _ _) writes t ht (Runs.always_true writes t)

/-! ## The hart of a session -/

namespace RISCVDebug

variable (d : RISCVDebug)

/-- The harts of the model. -/
def harts : List HartState := d.t.predictor.rc.harts

/-- The parameters of the model. -/
def params : Params := d.t.predictor.params

/-- The hart a request would go to. -/
def target : Nat := lowBits 20 d.hartsel

/-- The step bit of the shadowed `dcsr`. -/
def stepArmed : Bool := RunControl.stepArmed d.t.predictor.ac

/-- Hart `i` and the levels are those of the lane. -/
structure Sees (i : Nat) (l : Lane) : Prop where
  wellFormed : d.t.predictor.WellFormed
  hart : d.harts[i]? = some l.hart.state
  ndmreset : d.t.predictor.rc.ndmreset = l.ndmreset
  hartresetLevel : d.t.predictor.rc.hartresetLevel = l.hartresetLevel
  stepArmed : d.stepArmed = l.stepArmed

/-! ### Writes -/

section
variable (a : DmcontrolArgs)

theorem testBit_dmcontrol_low {i : Nat} (h : i < 6) :
    (dmcontrol a).testBit i =
      (decide (i = 0) && a.dmactive || decide (i = 1) && a.ndmreset || decide (i = 2) && a.clrresethaltreq
        || decide (i = 3) && a.setresethaltreq || decide (i = 4) && a.clrkeepalive
        || decide (i = 5) && a.setkeepalive) := by
  rw [testBit_dmcontrol]
  simp (disch := omega) only [decide_eq_false, Bool.false_and, Bool.or_false]

theorem testBit_dmcontrol_high {i : Nat} (h : 26 ≤ i) :
    (dmcontrol a).testBit i =
      (decide (i = 26) && a.hasel || decide (i = 27) && a.ackunavail || decide (i = 28) && a.ackhavereset
        || decide (i = 29) && a.hartreset || decide (i = 30) && a.resumereq || decide (i = 31) && a.haltreq) := by
  rw [testBit_dmcontrol]
  simp (disch := omega) only [testBit_lowBits_of_le, decide_eq_false, Bool.false_and, Bool.and_false,
    Bool.or_false, Bool.false_or]

/-- What a hart notices of a write that keeps the DM active. -/
theorem hartWrite_dmcontrol (p : Params) (rc : RunControl) (ac : AbstractCommand) (i : Nat) :
    rc.hartWrite p ac (dmcontrol a) i =
      { selected := i == lowBits 20 a.hartsel
        nonexistent := p.numHarts ≤ i
        ndmWas := rc.ndmreset
        ndmNow := a.ndmreset
        levelWas := rc.hartresetLevel
        levelNow := a.hartreset && p.supportsHartreset
        setReq := a.setresethaltreq
        clrReq := a.clrresethaltreq
        ackhavereset := a.ackhavereset
        ackunavail := a.ackunavail
        haltreq := a.haltreq
        resumereq := a.resumereq
        stepArmed := RunControl.stepArmed ac
        hasresethaltreq := p.hasresethaltreq
        resumeackReset := p.resumeackReset } := by
  unfold RunControl.hartWrite
  rw [hartselOf_dmcontrol, testBit_dmcontrol_ndmreset, testBit_dmcontrol_high a (by decide : 26 ≤ 29),
    testBit_dmcontrol_low a (by decide : 3 < 6), testBit_dmcontrol_low a (by decide : 2 < 6),
    testBit_dmcontrol_high a (by decide : 26 ≤ 28), testBit_dmcontrol_high a (by decide : 26 ≤ 27),
    testBit_dmcontrol_high a (by decide : 26 ≤ 31), testBit_dmcontrol_high a (by decide : 26 ≤ 30)]
  simp

variable {a}

/-- A write that keeps the DM active. -/
theorem writeControl_predictor (ha : a.dmactive = true) :
    (d.writeControl a).t.predictor =
      { d.t.predictor with
        rc := (d.t.predictor.rc.writeActive d.params d.t.predictor.ac (dmcontrol a)).1
        ac := (d.t.predictor.rc.writeActive d.params d.t.predictor.ac (dmcontrol a)).2 } := by
  show d.t.predictor.onWrite DMCONTROL.address (lowBits 32 (dmcontrol a)) = _
  rw [lowBits_natCast (dmcontrol_lt a), DMPredictor.onWrite_dmcontrol,
    DMPredictor.writeDmcontrol_active _ ((testBit_dmcontrol_dmactive a).trans ha)]
  rfl

theorem writeControl_params : (d.writeControl a).params = d.params :=
  (d.t.predictor.onWrite_static DMCONTROL.address _).1

theorem writeControl_hart (ha : a.dmactive = true) (i : Nat) :
    (d.writeControl a).harts[i]? =
      (d.harts[i]?).map (HartState.afterWrite
        (d.t.predictor.rc.hartWrite d.params d.t.predictor.ac (dmcontrol a) i)) := by
  unfold harts
  rw [writeControl_predictor d ha]
  exact RunControl.writeActive_harts _ _ _ _ i

theorem stepArmed_clearShadow (ac : AbstractCommand) : RunControl.stepArmed ac.clearShadow = false :=
  Nat.zero_testBit DCSR_STEP_BIT

theorem writeControl_stepArmed (ha : a.dmactive = true) :
    (d.writeControl a).stepArmed =
      (d.stepArmed && !d.t.predictor.rc.resumesSelected d.params d.t.predictor.ac (dmcontrol a)) := by
  unfold stepArmed
  rw [writeControl_predictor d ha]
  dsimp only
  rw [RunControl.writeActive_snd]
  split
  next h => rw [h, stepArmed_clearShadow, Bool.not_true, Bool.and_false]
  next h => rw [Bool.not_eq_true] at h; rw [h, Bool.not_false, Bool.and_true]

/-- A write without `resumereq` resumes no hart. -/
theorem resumesSelected_of_noRequest (hr : a.resumereq = false) :
    d.t.predictor.rc.resumesSelected d.params d.t.predictor.ac (dmcontrol a) = false := by
  unfold RunControl.resumesSelected
  rw [hartWrite_dmcontrol]
  cases d.t.predictor.rc.harts[hartselOf (dmcontrol a)]? with
  | none => rfl
  | some h => exact HartState.resumes_eq_false _ _ (by rw [hr, Bool.false_and])

theorem writeControl_levels (ha : a.dmactive = true) :
    (d.writeControl a).t.predictor.rc.ndmreset = a.ndmreset ∧
      (d.writeControl a).t.predictor.rc.hartresetLevel = (a.hartreset && d.params.supportsHartreset) ∧
      (d.writeControl a).t.predictor.rc.hartsel = lowBits 20 a.hartsel ∧
      (d.writeControl a).t.predictor.rc.dmactive = true := by
  rw [writeControl_predictor d ha]
  dsimp only
  rw [RunControl.writeActive_fst, hartselOf_dmcontrol, testBit_dmcontrol_ndmreset,
    testBit_dmcontrol_high a (by decide : 26 ≤ 29)]
  simp

end

variable {d} {a : DmcontrolArgs} {i : Nat} {l : Lane}

theorem Sees.lt (hs : d.Sees i l) : i < d.params.numHarts := by
  have hlt := (List.getElem?_eq_some_iff.mp hs.hart).1
  rwa [harts, hs.wellFormed.length] at hlt

/-- What the hart notices of a write. -/
theorem Sees.hartWrite (hs : d.Sees i l) (a : DmcontrolArgs) :
    d.t.predictor.rc.hartWrite d.params d.t.predictor.ac (dmcontrol a) i =
      l.hartWrite d.params (i == lowBits 20 a.hartsel) a := by
  have hx : decide (d.params.numHarts ≤ i) = false := by
    have hlt := hs.lt
    simp [hlt]
  have harmed : RunControl.stepArmed d.t.predictor.ac = l.stepArmed := hs.stepArmed
  rw [hartWrite_dmcontrol, hx, hs.ndmreset, hs.hartresetLevel, harmed]
  rfl

theorem Sees.wellFormed_writeControl (hs : d.Sees i l) (a : DmcontrolArgs) :
    (d.writeControl a).t.predictor.WellFormed := DMPredictor.onWrite_wellFormed hs.wellFormed _ _

/-- The hart after a write is again one of a lane. -/
theorem Sees.hart_writeControl (hs : d.Sees i l) (ha : a.dmactive = true) :
    (d.writeControl a).harts[i]? =
      some (l.hart.state.afterWrite (l.hartWrite d.params (i == lowBits 20 a.hartsel) a)).toView.state := by
  have hafter := d.writeControl_hart ha i
  rw [hs.hart, Option.map_some, hs.hartWrite] at hafter
  obtain ⟨hw, hx⟩ := (hs.wellFormed_writeControl a).harts _ (List.mem_of_getElem? hafter)
  rw [hafter, hw.state_toView hx]

/-- **A write that selects the hart.** -/
theorem Sees.write (hs : d.Sees i l) (ha : a.dmactive = true) (hi : lowBits 20 a.hartsel = i) :
    (d.writeControl a).Sees i (l.write d.params a) := by
  obtain ⟨hndm, hlevel, -, -⟩ := d.writeControl_levels ha
  have hself : (i == lowBits 20 a.hartsel) = true := by simp [hi]
  refine ⟨hs.wellFormed_writeControl a, ?_, hndm, hlevel, ?_⟩
  · rw [hs.hart_writeControl ha, hself]
    rfl
  · have hres : d.t.predictor.rc.resumesSelected d.params d.t.predictor.ac (dmcontrol a) =
        l.hart.state.resumes (l.hartWrite d.params true a) := by
      unfold RunControl.resumesSelected
      rw [hartselOf_dmcontrol, hi, hs.hartWrite, hself]
      show (d.harts[i]?).any _ = _
      rw [hs.hart]
      rfl
    rw [writeControl_stepArmed d ha, hres, hs.stepArmed]
    rfl

/-- **A write that selects another hart.** -/
theorem Sees.writeOther (hs : d.Sees i l) (ha : a.dmactive = true) (hi : lowBits 20 a.hartsel ≠ i)
    (harmed : l.stepArmed = false ∨ a.resumereq = false) : (d.writeControl a).Sees i (l.writeOther d.params a) := by
  obtain ⟨hndm, hlevel, -, -⟩ := d.writeControl_levels ha
  have hother : (i == lowBits 20 a.hartsel) = false := by simp [Ne.symm hi]
  refine ⟨hs.wellFormed_writeControl a, ?_, hndm, hlevel, ?_⟩
  · rw [hs.hart_writeControl ha, hother]
    rfl
  · rw [writeControl_stepArmed d ha, hs.stepArmed]
    show _ = l.stepArmed
    rcases harmed with harmed | hresume
    · rw [harmed, Bool.false_and]
    · rw [resumesSelected_of_noRequest d hresume, Bool.not_false, Bool.and_true]

end RISCVDebug

/-! ## What the registers show -/

/-- The `dmstatus` word summarises the selected hart. -/
structure ShowsHart (word : Int) (h : Option HartState) : Prop where
  allhalted : allhalted word = h.any (·.halted)
  anyhalted : anyhalted word = h.any (·.halted)
  allrunning : allrunning word = h.any (·.running)
  anyrunning : anyrunning word = h.any (·.running)
  allresumeack : allresumeack word = h.any (·.resumeAck)
  anyresumeack : anyresumeack word = h.any (·.resumeAck)
  allhavereset : allhavereset word = h.any (·.havereset)
  anyhavereset : anyhavereset word = h.any (·.havereset)

/-- The `dmstatus` word shows the selected hart of a lane, and what it shows of the DM. -/
structure ShowsLane (p : Params) (l : Lane) (word : Int) : Prop extends ShowsHart word (some l.hart.state) where
  version : version word = p.version % 16
  hasresethaltreq : hasresethaltreq word = p.hasresethaltreq
  ndmresetpending : ndmresetpending word = (decide (DMSTATUS_VERSION_1_0 ≤ p.version) && l.ndmreset)

namespace RISCVDebug

variable (d : RISCVDebug)

/-- A read of `dmstatus`. -/
def dmstatus : Int := d.t.read DMSTATUS.address

/-- A read of `dmcontrol`. -/
def readDmcontrol : Int := d.t.read DMCONTROL.address

theorem dmstatus_eq : d.dmstatus = d.t.predictor.expectDmstatus := by
  show ((d.t.predictor.predict DMSTATUS.address : Nat) : Int) = _
  rw [DMPredictor.predict_dmstatus]

theorem readDmcontrol_eq : d.readDmcontrol = d.t.predictor.expectDmcontrol := by
  show ((d.t.predictor.predict DMCONTROL.address : Nat) : Int) = _
  rw [DMPredictor.predict_dmcontrol]

/-- The `dmstatus` word as a whole. -/
theorem dmstatus_showsHart : ShowsHart d.dmstatus d.harts[d.t.predictor.rc.hartsel]? := by
  have hwidth : ∀ q ∈ flagAccessors, q.2.width = 1 := by decide
  have hall : ∀ q ∈ flagAccessors, ∀ pred : HartState → Bool,
      (q.2, d.t.predictor.allSelected pred) ∈ d.t.predictor.dmstatusValues →
      q.1 d.dmstatus = (d.harts[d.t.predictor.rc.hartsel]?).any pred := by
    intro q hq pred hm
    rw [dmstatus_eq, flagAccessors_eq hq]
    exact DMPredictor.test_of_allSelected pred (hwidth q hq) hm
  have hany : ∀ q ∈ flagAccessors, ∀ pred : HartState → Bool,
      (q.2, d.t.predictor.anySelected pred) ∈ d.t.predictor.dmstatusValues →
      q.1 d.dmstatus = (d.harts[d.t.predictor.rc.hartsel]?).any pred := by
    intro q hq pred hm
    rw [dmstatus_eq, flagAccessors_eq hq]
    exact DMPredictor.test_of_anySelected pred (hwidth q hq) hm
  constructor
  · exact hall (RiscvDbg.allhalted, DMSTATUS.allhalted) (by simp [flagAccessors]) (·.halted)
      (by simp [DMPredictor.dmstatusValues])
  · exact hany (RiscvDbg.anyhalted, DMSTATUS.anyhalted) (by simp [flagAccessors]) (·.halted)
      (by simp [DMPredictor.dmstatusValues])
  · exact hall (RiscvDbg.allrunning, DMSTATUS.allrunning) (by simp [flagAccessors]) (·.running)
      (by simp [DMPredictor.dmstatusValues])
  · exact hany (RiscvDbg.anyrunning, DMSTATUS.anyrunning) (by simp [flagAccessors]) (·.running)
      (by simp [DMPredictor.dmstatusValues])
  · exact hall (RiscvDbg.allresumeack, DMSTATUS.allresumeack) (by simp [flagAccessors]) (·.resumeAck)
      (by simp [DMPredictor.dmstatusValues])
  · exact hany (RiscvDbg.anyresumeack, DMSTATUS.anyresumeack) (by simp [flagAccessors]) (·.resumeAck)
      (by simp [DMPredictor.dmstatusValues])
  · exact hall (RiscvDbg.allhavereset, DMSTATUS.allhavereset) (by simp [flagAccessors]) (·.havereset)
      (by simp [DMPredictor.dmstatusValues])
  · exact hany (RiscvDbg.anyhavereset, DMSTATUS.anyhavereset) (by simp [flagAccessors]) (·.havereset)
      (by simp [DMPredictor.dmstatusValues])

theorem version_dmstatus : version d.dmstatus = d.params.version % 16 := by
  have hmem : (version, DMSTATUS.version) ∈ valueAccessors := by simp [valueAccessors]
  rw [dmstatus_eq]
  exact (valueAccessors_eq hmem _).trans
    (DMPredictor.extract_expectDmstatus (by simp [DMPredictor.dmstatusValues, params]))

theorem hasresethaltreq_dmstatus : hasresethaltreq d.dmstatus = d.params.hasresethaltreq := by
  have hmem : (hasresethaltreq, DMSTATUS.hasresethaltreq) ∈ flagAccessors := by simp [flagAccessors]
  rw [dmstatus_eq]
  exact (flagAccessors_eq hmem _).trans
    (DMPredictor.test_expectDmstatus rfl (by simp [DMPredictor.dmstatusValues, params]))

theorem ndmresetpending_dmstatus :
    ndmresetpending d.dmstatus =
      (decide (DMSTATUS_VERSION_1_0 ≤ d.params.version) && d.t.predictor.rc.ndmreset) := by
  have hmem : (ndmresetpending, DMSTATUS.ndmresetpending) ∈ flagAccessors := by simp [flagAccessors]
  rw [dmstatus_eq]
  refine (flagAccessors_eq hmem _).trans (DMPredictor.test_expectDmstatus rfl ?_)
  by_cases h : DMSTATUS_VERSION_1_0 ≤ d.t.predictor.params.version <;>
    simp [DMPredictor.dmstatusValues, params, h]

theorem hartreset_readDmcontrol :
    dmcontrolHartreset d.readDmcontrol = (d.t.predictor.rc.hartresetLevel && d.params.supportsHartreset) := by
  rw [readDmcontrol_eq, dmcontrolHartreset, wordBit_natCast]
  exact DMPredictor.testBit_expectDmcontrol _

theorem dmactive_readDmcontrol : dmcontrolDmactive d.readDmcontrol = d.t.predictor.rc.dmactive := by
  rw [readDmcontrol_eq, dmcontrolDmactive, wordBit_natCast]
  exact DMPredictor.testBit_expectDmcontrol_dmactive _

/-! ### Requests that wait -/

variable (polls : Nat) {check : Int → Bool} {register : Nat} {msg : String}

theorem pollUntil_of_true {t : MockTransport} (h : check (t.read register) = true) :
    pollUntil t (fun v => return check v) register msg polls = .ok () := by
  cases polls <;> rw [pollUntil] <;> simp [h] <;> rfl

theorem pollUntil_of_false {t : MockTransport} (h : check (t.read register) = false) :
    pollUntil t (fun v => return check v) register msg polls =
      .error (.timeout msg register (t.read register)) := by
  induction polls with
  | zero => rw [pollUntil]; simp [h]; rfl
  | succ polls ih => rw [pollUntil]; simp [h]; exact ih

variable {request release : DmcontrolArgs}

/-- The request is answered. -/
theorem requestAndWait_of_true (h : check (d.writeControl request).dmstatus = true) :
    d.requestAndWait polls request release check msg =
      (.ok (), (d.writeControl request).writeControl release) := by
  unfold requestAndWait
  simp only
  rw [pollUntil_of_true polls h]

/-- The request is not answered. -/
theorem requestAndWait_of_false (h : check (d.writeControl request).dmstatus = false) :
    d.requestAndWait polls request release check msg =
      (.error (.timeout msg DMSTATUS.address (d.writeControl request).dmstatus), d.writeControl request) := by
  unfold requestAndWait
  simp only
  rw [pollUntil_of_false polls h]
  rfl

/-! ### The hart that is worked on -/

/-- A session that works on a hart: its requests go to the selected hart, and that and the levels are those
of the lane. -/
structure Working (p : Params) (l : Lane) (d : RISCVDebug) : Prop where
  params : d.params = p
  sees : d.Sees d.target l
  selected : d.t.predictor.rc.hartsel = d.target
  dmactive : d.t.predictor.rc.dmactive = true

namespace Working

variable {p : Params} {l : Lane} {d : RISCVDebug}

/-- A request to the hart. -/
theorem send (hw : Working p l d) (a : DmcontrolArgs) (ha : a.dmactive = true) (ht : a.hartsel = d.hartsel) :
    Working p (l.write p a) (d.writeControl a) := by
  obtain ⟨-, -, hsel, hactive⟩ := d.writeControl_levels ha
  have htarget : lowBits 20 a.hartsel = d.target := by rw [ht]; rfl
  refine ⟨(d.writeControl_params).trans hw.params, ?_, hsel.trans htarget, hactive⟩
  rw [← hw.params]
  exact hw.sees.write ha htarget

theorem shows (hw : Working p l d) : ShowsLane p l d.dmstatus := by
  have hshows := d.dmstatus_showsHart
  rw [hw.selected, hw.sees.hart] at hshows
  refine ⟨hshows, ?_, ?_, ?_⟩
  · rw [d.version_dmstatus, hw.params]
  · rw [d.hasresethaltreq_dmstatus, hw.params]
  · rw [d.ndmresetpending_dmstatus, hw.params, hw.sees.ndmreset]

end Working

/-! ### Starting to work on a hart -/

section
variable (d : RISCVDebug)

/-- `activate` is a write of `dmcontrol` that selects hart 0, and fails on a version of 0. -/
theorem activate_eq :
    d.activate =
      (if d.params.version % 16 = 0 then .error .versionZero else .ok (),
        { d with hartsel := 0 }.writeControl { dmactive := true, ackhavereset := true }) := by
  have hword : ((1 ||| 1 <<< 28 : Nat) : Int) = dmcontrol { dmactive := true, ackhavereset := true } := by decide
  let d₁ := { d with hartsel := 0 }.writeControl { dmactive := true, ackhavereset := true }
  have hversion : d₁.dmstatus % 16 = 0 ↔ d.params.version % 16 = 0 := by
    have hread := d₁.version_dmstatus
    rw [show d₁.params = d.params from writeControl_params _] at hread
    have hcast := lowBits_cast 4 d₁.dmstatus
    rw [show lowBits 4 d₁.dmstatus = d.params.version % 16 from hread] at hcast
    omega
  show ((if (d.t.write DMCONTROL.address _).read DMSTATUS.address % 16 = 0 then _ else _), _) = _
  rw [hword]
  exact Prod.ext (if_congr hversion rfl rfl) rfl

/-- The session once it works on hart `hartsel`: the DM active and, unless it is hart 0, the hart selected. -/
def start (hartsel : Int) : RISCVDebug :=
  if hartsel ≠ 0 then d.activate.2.selectHart hartsel else d.activate.2

/-- Hart `i` is held in `hartreset`, and activating the DM does not release it. -/
def leftInHartreset (i : Nat) : Bool :=
  (d.harts[i]?).any (·.hartReset) && !(i == 0 && d.t.predictor.rc.hartresetLevel)

/-- Hart `i` is to halt on the next reset. -/
def haltsOnReset (i : Nat) : Bool := (d.harts[i]?).any (·.resetHaltreq)

variable {d} {i : Nat}

theorem sees_of_wellFormed (hwf : d.t.predictor.WellFormed) (hi : i < d.params.numHarts) :
    ∃ v : HartView, d.Sees i ⟨v, d.t.predictor.rc.ndmreset, d.t.predictor.rc.hartresetLevel, d.stepArmed⟩ := by
  have hlt : i < d.harts.length := by rwa [harts, hwf.length]
  obtain ⟨hw, hx⟩ := hwf.harts _ (List.getElem_mem hlt)
  refine ⟨d.harts[i].toView, hwf, ?_, rfl, rfl, rfl⟩
  rw [hw.state_toView hx]
  exact List.getElem?_eq_getElem hlt

/-- Activation takes the hart out of `ndmreset`, and out of `hartreset` if it is hart 0. -/
theorem sees_activate (hwf : d.t.predictor.WellFormed) (hi : i < d.params.numHarts) :
    ∃ v : HartView, d.activate.2.Sees i (.out v d.stepArmed) ∧ v.hartReset = d.leftInHartreset i ∧
      v.resetHaltreq = d.haltsOnReset i := by
  obtain ⟨v, hs⟩ := sees_of_wellFormed hwf hi
  have hrequest : d.haltsOnReset i = v.resetHaltreq := by
    unfold haltsOnReset
    rw [hs.hart]
    rfl
  have hleft : d.leftInHartreset i = (v.hartReset && !(i == 0 && d.t.predictor.rc.hartresetLevel)) := by
    unfold leftInHartreset
    rw [hs.hart]
    rfl
  have hs' : ({ d with hartsel := 0 } : RISCVDebug).Sees i _ :=
    ⟨hs.wellFormed, hs.hart, hs.ndmreset, hs.hartresetLevel, hs.stepArmed⟩
  have hzero : lowBits 20 0 = 0 := by decide
  rw [activate_eq, hleft, hrequest]
  by_cases h₀ : i = 0
  · subst h₀
    have hwrite := hs'.write (a := { dmactive := true, ackhavereset := true }) rfl hzero
    obtain ⟨hlane, hreset⟩ := Lane.write_lowers (p := d.params) (a := { dmactive := true, ackhavereset := true })
      (l := ⟨v, d.t.predictor.rc.ndmreset, d.t.predictor.rc.hartresetLevel, d.stepArmed⟩) rfl rfl rfl
    exact ⟨_, hlane ▸ hwrite, by rw [hreset]; simp, Lane.write_resetHaltreq rfl rfl rfl⟩
  · have hwrite := hs'.writeOther (a := { dmactive := true, ackhavereset := true }) rfl
      (by rw [hzero]; exact Ne.symm h₀) (Or.inr rfl)
    obtain ⟨hlane, hreset⟩ := Lane.writeOther_lowers (p := d.params)
      (a := { dmactive := true, ackhavereset := true })
      (l := ⟨v, d.t.predictor.rc.ndmreset, d.t.predictor.rc.hartresetLevel, d.stepArmed⟩) rfl rfl
    exact ⟨_, hlane ▸ hwrite, by rw [hreset]; simp [h₀], Lane.writeOther_resetHaltreq⟩

/-- **The hart the session works on from then on.** -/
theorem working_start (hwf : d.t.predictor.WellFormed) {hartsel : Int}
    (hi : lowBits 20 hartsel < d.params.numHarts) :
    ∃ v : HartView, Working d.params (.out v d.stepArmed) (d.start hartsel) ∧
      v.hartReset = d.leftInHartreset (lowBits 20 hartsel) ∧
      v.resetHaltreq = d.haltsOnReset (lowBits 20 hartsel) := by
  obtain ⟨v, hs, hv⟩ := sees_activate hwf hi
  have hparams : d.activate.2.params = d.params := by
    rw [activate_eq]
    exact writeControl_params _
  unfold start
  by_cases h : hartsel = 0
  · subst h
    rw [if_neg (not_not_intro rfl)]
    refine ⟨v, ⟨hparams, ?_, ?_, ?_⟩, hv⟩
    · exact hs
    · rw [activate_eq]
      exact (writeControl_levels _ rfl).2.2.1
    · rw [activate_eq]
      exact (writeControl_levels _ rfl).2.2.2
  · rw [if_pos h]
    have hs' : ({ d.activate.2 with hartsel := hartsel } : RISCVDebug).Sees (lowBits 20 hartsel) _ :=
      ⟨hs.wellFormed, hs.hart, hs.ndmreset, hs.hartresetLevel, hs.stepArmed⟩
    have hwrite : (d.activate.2.selectHart hartsel).Sees (lowBits 20 hartsel)
        ((Lane.out v d.stepArmed).write d.activate.2.params {}) :=
      hs'.write (a := { dmactive := true, hartsel := hartsel }) rfl rfl
    rw [Lane.write_none] at hwrite
    obtain ⟨-, -, hsel, hactive⟩ := writeControl_levels ({ d.activate.2 with hartsel := hartsel } : RISCVDebug)
      (a := { dmactive := true, hartsel := hartsel }) rfl
    refine ⟨_, ⟨?_, hwrite, hsel, hactive⟩, hv⟩
    exact (writeControl_params _).trans hparams

/-- A hart that is not there is not there afterwards. -/
theorem target_start_none (hwf : d.t.predictor.WellFormed) {hartsel : Int}
    (hi : d.params.numHarts ≤ lowBits 20 hartsel) : (d.start hartsel).harts[(d.start hartsel).target]? = none := by
  have hnone : d.harts[lowBits 20 hartsel]? = none := by
    rw [List.getElem?_eq_none_iff, harts, hwf.length]
    exact hi
  have hactivated : d.activate.2.harts[lowBits 20 hartsel]? = none := by
    rw [activate_eq, writeControl_hart _ rfl]
    show (d.harts[lowBits 20 hartsel]?).map _ = none
    rw [hnone]
    rfl
  unfold start
  by_cases h : hartsel = 0
  · subst h
    rw [if_neg (not_not_intro rfl)]
    exact hactivated
  · rw [if_pos h]
    show (writeControl _ _).harts[lowBits 20 hartsel]? = none
    rw [writeControl_hart _ rfl]
    show (d.activate.2.harts[lowBits 20 hartsel]?).map _ = none
    rw [hactivated]
    rfl

end

/-! ### A hart that does not answer -/

/-- The hart requests go to is not there, or left in `hartreset`. -/
structure Deaf (d : RISCVDebug) : Prop where
  wellFormed : d.t.predictor.WellFormed
  left : ∀ h ∈ d.harts[d.target]?, h.hartReset = true ∧ d.t.predictor.rc.hartresetLevel = false

namespace Deaf

variable {d : RISCVDebug}

/-- It stays so until `hartreset` is asserted again. -/
theorem send (hd : Deaf d) (a : DmcontrolArgs) (ha : a.dmactive = true) (hr : a.hartreset = false) :
    Deaf (d.writeControl a) := by
  refine ⟨DMPredictor.onWrite_wellFormed hd.wellFormed _ _, ?_⟩
  intro h hget
  have hafter : (d.harts[d.target]?).map _ = some h := (d.writeControl_hart ha d.target).symm.trans hget
  obtain ⟨h₀, hget₀, rfl⟩ := Option.map_eq_some_iff.mp hafter
  obtain ⟨hreset, hlevel⟩ := hd.left h₀ hget₀
  have hlow : (a.hartreset && d.params.supportsHartreset) = false := by rw [hr, Bool.false_and]
  constructor
  · rw [HartState.afterWrite_hartReset, hartWrite_dmcontrol, hlevel, hlow]
    simp [hreset]
  · rw [(d.writeControl_levels ha).2.1, hlow]

/-- No request halts it. -/
theorem allhalted (hd : Deaf d) (a : DmcontrolArgs) (ha : a.dmactive = true) (ht : a.hartsel = d.hartsel)
    (hr : a.hartreset = false) : allhalted (d.writeControl a).dmstatus = false := by
  have hsent := hd.send a ha hr
  have htarget : lowBits 20 a.hartsel = d.target := by rw [ht]; rfl
  rw [(d.writeControl a).dmstatus_showsHart.allhalted, (d.writeControl_levels ha).2.2.1, htarget]
  cases hget : (d.writeControl a).harts[d.target]? with
  | none => rfl
  | some h =>
    have hw := (hsent.wellFormed.harts h (List.mem_of_getElem? hget)).1
    exact hw.hartReset_not_halted (hsent.left h hget).1

end Deaf

/-- A session that starts on such a hart. -/
theorem deaf_start {d : RISCVDebug} (hwf : d.t.predictor.WellFormed) {hartsel : Int}
    (h : lowBits 20 hartsel < d.params.numHarts → d.leftInHartreset (lowBits 20 hartsel) = true) :
    Deaf (d.start hartsel) := by
  by_cases hthere : lowBits 20 hartsel < d.params.numHarts
  · obtain ⟨v, hw, hv, -⟩ := working_start hwf hthere
    refine ⟨hw.sees.wellFormed, ?_⟩
    intro h' hget
    rw [hw.sees.hart, Option.mem_some_iff] at hget
    rw [← hget]
    exact ⟨hv.trans (h hthere), hw.sees.hartresetLevel⟩
  · refine ⟨?_, ?_⟩
    · have hactivated : d.activate.2.t.predictor.WellFormed := by
        rw [activate_eq]
        exact DMPredictor.onWrite_wellFormed hwf _ _
      unfold start
      split
      · exact DMPredictor.onWrite_wellFormed hactivated _ _
      · exact hactivated
    · rw [target_start_none hwf (Nat.not_lt.mp hthere)]
      exact fun h' hget => nomatch hget

/-- The session works on a hart that is in no reset. -/
def HartOut (p : Params) (halted armed : Bool) (d : RISCVDebug) : Prop :=
  ∃ v : HartView, v.hartReset = false ∧ v.halted = halted ∧ Working p (.out v armed) d

end RISCVDebug

end RiscvDbg
