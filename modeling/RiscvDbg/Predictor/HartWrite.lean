import RiscvDbg.Predictor.RunControl

/-!
# A dmcontrol write seen from one hart

`RunControl.writeActive` runs its stages over all harts or over the selected one.  Here the same
write is described hart by hart.

* `HartWrite` — everything one hart can notice of an active write: whether it is selected, both
  edges of both reset levels, the request bits, and the step bit of the shadowed `dcsr`.
* `HartState.afterWrite` — what the write makes of the hart.
* `writeActive_fst`, `writeActive_snd` — **the write acts on every hart separately**, through
  `afterWrite`, and clears the register shadow exactly when the selected hart resumes.

Every later result about harts is a case analysis of `afterWrite`.
-/

set_option autoImplicit false

namespace RiscvDbg

/-- What one hart can notice of an active `dmcontrol` write. -/
structure HartWrite where
  selected : Bool
  nonexistent : Bool
  ndmWas : Bool
  ndmNow : Bool
  levelWas : Bool
  levelNow : Bool
  setReq : Bool
  clrReq : Bool
  ackhavereset : Bool
  ackunavail : Bool
  haltreq : Bool
  resumereq : Bool
  stepArmed : Bool
  hasresethaltreq : Bool
  resumeackReset : Bool

namespace HartState

variable (w : HartWrite)

/-- The edges of `ndmreset`. -/
def ndmEdge (h : HartState) : HartState :=
  if w.ndmNow && !w.ndmWas then h.enterNdmreset w.resumeackReset
  else if !w.ndmNow && w.ndmWas then h.releaseFromReset
  else h

/-- The edges of the `hartreset` level, on the selected hart. -/
def levelEdge (h : HartState) : HartState :=
  if w.levelNow && !w.levelWas then h.enterHartreset w.resumeackReset
  else if !w.levelNow && w.levelWas then releaseFromReset { h with hartReset := false }
  else h

/-- The halt-on-reset request of the selected hart. -/
def requestResethalt (h : HartState) : HartState :=
  if w.hasresethaltreq then
    if w.clrReq then { h with resetHaltreq := false }
    else if w.setReq then { h with resetHaltreq := true }
    else h
  else h

/-- The acknowledgements of the selected hart. -/
def acknowledge (h : HartState) : HartState :=
  let h := if w.ackhavereset then { h with havereset := false } else h
  if w.ackunavail then if h.available then { h with unavailSticky := false } else h else h

/-- The halt request of the selected hart and its response. -/
def requestHalt (h : HartState) : HartState :=
  let h := { h with haltRequest := w.haltreq }
  if w.haltreq then h.respondHalt else h

/-- Every hart up to the stages that concern only the selected one. -/
def beforeSelected (h : HartState) : HartState := ndmEdge w { h with nonexistent := w.nonexistent }

/-- The selected hart up to the resume request. -/
def beforeResume (h : HartState) : HartState :=
  ((((h.beforeSelected w).levelEdge w).requestResethalt w).acknowledge w).requestHalt w

/-- Whether the write resumes this hart. -/
def resumes (h : HartState) : Bool :=
  w.selected && w.resumereq && !w.haltreq &&
    (!((h.beforeResume w).nonexistent || (h.beforeResume w).unavail) && (h.beforeResume w).halted)

theorem resumes_eq_false (h : HartState) (hreq : (w.resumereq && !w.haltreq) = false) :
    h.resumes w = false := by
  rw [resumes, Bool.and_assoc w.selected, hreq, Bool.and_false, Bool.false_and]

/-- The hart after the write. -/
def afterWrite (h : HartState) : HartState :=
  let h :=
    if w.selected then
      if w.resumereq && !w.haltreq then (h.beforeResume w).respondResume w.stepArmed
      else h.beforeResume w
    else h.beforeSelected w
  h.settle w.ndmNow

end HartState

namespace RunControl

variable (p : Params) (rc : RunControl) (ac : AbstractCommand) (value : Nat)

/-- An active write of `value`, as hart `i` notices it. -/
def hartWrite (i : Nat) : HartWrite where
  selected := i == hartselOf value
  nonexistent := p.numHarts ≤ i
  ndmWas := rc.ndmreset
  ndmNow := value.testBit 1
  levelWas := rc.hartresetLevel
  levelNow := value.testBit 29 && p.supportsHartreset
  setReq := value.testBit 3
  clrReq := value.testBit 2
  ackhavereset := value.testBit 28
  ackunavail := value.testBit 27
  haltreq := value.testBit 31
  resumereq := value.testBit 30
  stepArmed := stepArmed ac
  hasresethaltreq := p.hasresethaltreq
  resumeackReset := p.resumeackReset

/-- Whether an active write of `value` resumes the hart it selects. -/
def resumesSelected : Bool :=
  (rc.harts[hartselOf value]?).any (HartState.resumes (rc.hartWrite p ac value (hartselOf value)))

/-! ## The stages as updates of the hart list -/

theorem forSelected_eq (f : HartState → HartState) :
    rc.forSelected f = { rc with harts := rc.harts.modify rc.hartsel f } := rfl

theorem modify_self_of_eq {α : Type} {f : α → α} (h : ∀ a, f a = a) (l : List α) (i : Nat) :
    l.modify i f = l := by
  apply List.ext_getElem?
  intro j
  rw [List.getElem?_modify]
  cases l[j]? <;> simp [h]

variable {w : HartWrite}

theorem applyNdmreset_eq (hw : w.ndmWas = rc.ndmreset) (hr : w.resumeackReset = p.resumeackReset) :
    rc.applyNdmreset p w.ndmNow =
      { rc with ndmreset := w.ndmNow, harts := rc.harts.map (HartState.ndmEdge w) } := by
  unfold applyNdmreset
  have hedge : HartState.ndmEdge w = fun h =>
      if w.ndmNow && !rc.ndmreset then h.enterNdmreset p.resumeackReset
      else if !w.ndmNow && rc.ndmreset then h.releaseFromReset else h := by
    funext h; rw [HartState.ndmEdge, hw, hr]
  rw [hedge]
  cases hn : w.ndmNow <;> cases hold : rc.ndmreset <;> simp [forHarts]
  all_goals rw [← hold]

theorem applyHartreset_eq (hw : w.levelWas = rc.hartresetLevel)
    (hr : w.resumeackReset = p.resumeackReset) :
    rc.applyHartreset p w.levelNow =
      { rc with
        hartresetLevel := w.levelNow
        harts := rc.harts.modify rc.hartsel (HartState.levelEdge w) } := by
  unfold applyHartreset
  have hedge : HartState.levelEdge w = fun h =>
      if w.levelNow && !rc.hartresetLevel then h.enterHartreset p.resumeackReset
      else if !w.levelNow && rc.hartresetLevel then
        HartState.releaseFromReset { h with hartReset := false }
      else h := by
    funext h; rw [HartState.levelEdge, hw, hr]
  rw [hedge]
  cases hn : w.levelNow <;> cases hold : rc.hartresetLevel <;> simp [forSelected_eq]
  all_goals rw [modify_self_of_eq (fun _ => rfl), ← hold]

theorem applyResethaltreq_eq (hw : w.hasresethaltreq = p.hasresethaltreq) :
    rc.applyResethaltreq p w.setReq w.clrReq =
      { rc with harts := rc.harts.modify rc.hartsel (HartState.requestResethalt w) } := by
  unfold applyResethaltreq
  have hreq : HartState.requestResethalt w = fun h =>
      if p.hasresethaltreq then
        if w.clrReq then { h with resetHaltreq := false }
        else if w.setReq then { h with resetHaltreq := true } else h
      else h := by
    funext h; rw [HartState.requestResethalt, hw]
  rw [hreq]
  cases p.hasresethaltreq <;> cases w.setReq <;> cases w.clrReq <;>
    simp [forSelected_eq, modify_self_of_eq]

theorem applyAcks_eq :
    (rc.applyAckhavereset w.ackhavereset).applyAckunavail w.ackunavail =
      { rc with harts := rc.harts.modify rc.hartsel (HartState.acknowledge w) } := by
  have hack : HartState.acknowledge w = fun h =>
      let h := if w.ackhavereset then { h with havereset := false } else h
      if w.ackunavail then if h.available then { h with unavailSticky := false } else h else h := rfl
  rw [hack]
  unfold applyAckhavereset applyAckunavail
  cases w.ackhavereset <;> cases w.ackunavail <;>
    simp [forSelected_eq, modify_self_of_eq, List.modify_modify_eq, Function.comp_def]

theorem applyHaltreq_eq :
    rc.applyHaltreq w.haltreq =
      { rc with harts := rc.harts.modify rc.hartsel (HartState.requestHalt w) } := by
  have hreq : HartState.requestHalt w = fun h =>
      if w.haltreq then HartState.respondHalt { h with haltRequest := w.haltreq }
      else { h with haltRequest := w.haltreq } := rfl
  rw [hreq]
  unfold applyHaltreq
  cases w.haltreq <;> simp [forSelected_eq, List.modify_modify_eq, Function.comp_def]

theorem applyResumereq_eq :
    rc.applyResumereq ac =
      ({ rc with harts := rc.harts.modify rc.hartsel (HartState.respondResume (stepArmed ac)) },
        match rc.harts[rc.hartsel]? with
        | some h => if !(h.nonexistent || h.unavail) && h.halted then ac.clearShadow else ac
        | none => ac) := by
  simp only [applyResumereq, selectedIndices, List.foldl_cons, List.foldl_nil]
  cases hh : rc.harts[rc.hartsel]? with
  | none =>
    simp only [List.getElem?_eq_none_iff] at hh
    rw [List.modify_eq_self hh]
  | some h =>
    have hset : rc.harts.modify rc.hartsel (HartState.respondResume (stepArmed ac)) =
        rc.harts.set rc.hartsel (h.respondResume (stepArmed ac)) := by
      rw [List.modify_eq_set]; simp [hh]
    simp only [hset]
    split <;> rfl

/-! ## The whole write -/

/-- The harts after the stages before the resume request. -/
def hartsBeforeResume : List HartState :=
  ((rc.harts.mapIdx fun i h => { h with nonexistent := p.numHarts ≤ i }).map
    (HartState.ndmEdge (rc.hartWrite p ac value 0))).modify (hartselOf value) fun h =>
      ((((h.levelEdge (rc.hartWrite p ac value 0)).requestResethalt (rc.hartWrite p ac value 0)).acknowledge
        (rc.hartWrite p ac value 0)).requestHalt (rc.hartWrite p ac value 0))

/-- The run-control state after the stages before the resume request. -/
def stateBeforeResume : RunControl where
  dmactive := true
  ndmreset := value.testBit 1
  hartsel := hartselOf value
  hasel := p.supportsHasel && value.testBit 26
  hartresetLevel := value.testBit 29 && p.supportsHartreset
  harts := rc.hartsBeforeResume p ac value

theorem writeActive_eq :
    rc.writeActive p ac value =
      let st :=
        if value.testBit 30 && !value.testBit 31 then
          (rc.stateBeforeResume p ac value).applyResumereq ac
        else (rc.stateBeforeResume p ac value, ac)
      (st.1.settleResetState, st.2) := by
  have hsel : (if p.supportsHasel = true then value.testBit 26 else false) =
      (p.supportsHasel && value.testBit 26) := by cases p.supportsHasel <;> rfl
  have key : ((((((({ rc with
        dmactive := true
        hartsel := hartselOf value
        hasel := p.supportsHasel && value.testBit 26 } : RunControl).markNonexistent p).applyNdmreset p
          (rc.hartWrite p ac value 0).ndmNow).applyHartreset p
          (rc.hartWrite p ac value 0).levelNow).applyResethaltreq p (rc.hartWrite p ac value 0).setReq
          (rc.hartWrite p ac value 0).clrReq).applyAckhavereset
          (rc.hartWrite p ac value 0).ackhavereset).applyAckunavail
          (rc.hartWrite p ac value 0).ackunavail).applyHaltreq (rc.hartWrite p ac value 0).haltreq =
        rc.stateBeforeResume p ac value := by
    rw [applyNdmreset_eq p _ rfl rfl, applyHartreset_eq p _ rfl rfl, applyResethaltreq_eq p _ rfl,
      applyAcks_eq, applyHaltreq_eq]
    simp only [List.modify_modify_eq]
    rfl
  simp only [hartWrite] at key
  simp only [writeActive, DMCONTROL.test_hasel, DMCONTROL.test_ndmreset, DMCONTROL.test_hartreset,
    DMCONTROL.test_setresethaltreq, DMCONTROL.test_clrresethaltreq, DMCONTROL.test_ackhavereset,
    DMCONTROL.test_ackunavail, DMCONTROL.test_haltreq, DMCONTROL.test_resumereq, hsel, key]

theorem hartsBeforeResume_getElem? (i : Nat) :
    (rc.hartsBeforeResume p ac value)[i]? = (rc.harts[i]?).map fun h =>
      if i = hartselOf value then h.beforeResume (rc.hartWrite p ac value i)
      else h.beforeSelected (rc.hartWrite p ac value i) := by
  simp only [hartsBeforeResume, List.getElem?_modify, List.getElem?_map, List.getElem?_mapIdx]
  cases rc.harts[i]? with
  | none => simp
  | some h =>
    by_cases hi : i = hartselOf value
    · subst hi
      simp only [Option.map_some, if_pos]
      rfl
    · simp only [Option.map_some, if_neg hi, if_neg (Ne.symm hi)]
      rfl

/-- **An active write acts on every hart separately**, through `afterWrite`. -/
theorem writeActive_harts (i : Nat) :
    (rc.writeActive p ac value).1.harts[i]? =
      (rc.harts[i]?).map (HartState.afterWrite (rc.hartWrite p ac value i)) := by
  rw [writeActive_eq]
  have hget := rc.hartsBeforeResume_getElem? p ac value i
  by_cases hres : (value.testBit 30 && !value.testBit 31) = true
  · simp only [hres, if_true, applyResumereq_eq, settleResetState, forHarts, List.getElem?_map,
      List.getElem?_modify, stateBeforeResume, hget]
    cases rc.harts[i]? with
    | none => simp
    | some h =>
      by_cases hi : i = hartselOf value
      · subst hi
        simp [HartState.afterWrite, hartWrite, hres]
      · simp [HartState.afterWrite, hartWrite, hi, Ne.symm hi]
  · rw [Bool.not_eq_true] at hres
    simp only [hres, Bool.false_eq_true, if_false, settleResetState, forHarts, List.getElem?_map,
      stateBeforeResume, hget]
    cases rc.harts[i]? with
    | none => simp
    | some h =>
      by_cases hi : i = hartselOf value
      · subst hi
        simp [HartState.afterWrite, hartWrite, hres]
      · simp [HartState.afterWrite, hartWrite, hi]

/-- The scalar run-control state after an active write, and the harts as a whole. -/
theorem writeActive_fst :
    (rc.writeActive p ac value).1 =
      { dmactive := true
        ndmreset := value.testBit 1
        hartsel := hartselOf value
        hasel := p.supportsHasel && value.testBit 26
        hartresetLevel := value.testBit 29 && p.supportsHartreset
        harts := rc.harts.mapIdx fun i h => h.afterWrite (rc.hartWrite p ac value i) } := by
  have hharts : (rc.writeActive p ac value).1.harts =
      rc.harts.mapIdx fun i h => h.afterWrite (rc.hartWrite p ac value i) := by
    apply List.ext_getElem?
    intro i
    rw [writeActive_harts, List.getElem?_mapIdx]
  rw [← hharts, writeActive_eq]
  cases value.testBit 30 && !value.testBit 31 <;>
    simp [applyResumereq_eq, settleResetState, forHarts, stateBeforeResume]

/-- **The register shadow is cleared exactly when the write resumes the hart it selects.** -/
theorem writeActive_snd :
    (rc.writeActive p ac value).2 =
      if rc.resumesSelected p ac value then ac.clearShadow else ac := by
  rw [writeActive_eq]
  have hget := rc.hartsBeforeResume_getElem? p ac value (hartselOf value)
  unfold resumesSelected
  by_cases hres : (value.testBit 30 && !value.testBit 31) = true
  · simp only [hres, if_true, applyResumereq_eq, stateBeforeResume, hget]
    simp only [Bool.and_eq_true, Bool.not_eq_true'] at hres
    cases rc.harts[hartselOf value]? with
    | none => simp
    | some h => simp [HartState.resumes, hartWrite, hres]
  · simp only [Bool.not_eq_true] at hres
    cases rc.harts[hartselOf value]? with
    | none => simp [hres]
    | some h =>
      have : h.resumes (rc.hartWrite p ac value (hartselOf value)) = false :=
        h.resumes_eq_false _ hres
      simp [hres, this]

end RunControl

end RiscvDbg
