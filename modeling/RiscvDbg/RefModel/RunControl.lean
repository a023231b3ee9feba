import RiscvDbg.Predictor.HartWrite
import RiscvDbg.RefModel.Model

/-!
# Run control of the two reference models

`HartStateS.abs` and `RunControlS.abs` read the SystemVerilog run-control state as the Python one.
Each stage of a `dmcontrol` write commutes with them.

* `resetDm_abs` — a DM reset, as long as the array of harts keeps its size.
* `writeActive_abs` — an active write.  The two models differ in one place: `apply_hartreset` returns
  before it moves the level when the selected hart is not there (`HartresetAgrees`).
-/

set_option autoImplicit false

namespace RiscvDbg

/-! ## Reading the state -/

def HartStateS.abs (h : HartStateS) : HartState where
  haltRequest := h.haltRequest
  resumeAck := h.resumeAck.get
  resetHaltreq := h.resetHaltreq
  hartReset := h.hartReset
  halted := h.halted.get
  running := h.running.get
  havereset := h.havereset
  available := h.available
  unavailSticky := h.unavailSticky
  nonexistent := h.nonexistent

def RunControlS.abs (rc : RunControlS) : RunControl where
  dmactive := rc.dmactive
  ndmreset := rc.ndmreset
  hartsel := rc.hartsel.toNat
  hasel := rc.hasel
  hartresetLevel := rc.hartresetLevel
  harts := rc.harts.map HartStateS.abs

def AbstractCommandS.abs (ac : AbstractCommandS) : AbstractCommand where
  abstractauto := ac.abstractauto.toNat
  shadowRegs := ac.shadowRegs.toNat
  shadowHi := ac.shadowHi.toNat
  stagedData0 := ac.stagedData0.toNat
  stagedData1 := ac.stagedData1.toNat
  data0PendingValid := ac.data0PendingValid
  data0PendingValue := ac.data0PendingValue.toNat
  dataQ := ac.dataQ.map BitVec.toNat
  dataKnown := ac.dataKnown
  progbufQ := ac.progbufQ.map BitVec.toNat
  lastCommand := ac.lastCommand.toNat

/-! ## Words -/

theorem getLsbD_eq (value : BitVec 32) (i : Nat) : value.getLsbD i = value.toNat.testBit i :=
  (BitVec.testBit_toNat value).symm

theorem toNat_hartsel (value : BitVec 32) :
    (value.extractLsb' 6 10 ++ value.extractLsb' 16 10).toNat = hartselOf value.toNat := by
  rw [BitVec.toNat_append, BitVec.extractLsb'_toNat, BitVec.extractLsb'_toNat]
  simp only [hartselOf, Field.extract, Words.extract, Words.and_ones, DMCONTROL.hartselhi,
    DMCONTROL.hartsello]

/-! ## One hart -/

namespace HartStateS

variable (h : HartStateS)

theorem releaseFromReset_abs : h.releaseFromReset.abs = h.abs.releaseFromReset := by
  unfold releaseFromReset HartState.releaseFromReset
  show (if h.nonexistent then h else _ : HartStateS).abs = if h.nonexistent then _ else _
  split
  · rfl
  · show (if h.resetHaltreq || h.haltRequest then _ else _ : HartStateS).abs =
      if h.resetHaltreq || h.haltRequest then _ else _
    split <;> rfl

theorem enterNdmreset_abs (b : Bool) : (h.enterNdmreset b).abs = h.abs.enterNdmreset b := rfl

theorem enterHartreset_abs (b : Bool) : (h.enterHartreset b).abs = h.abs.enterHartreset b := rfl

theorem settle_abs (b : Bool) : (h.settle b).abs = h.abs.settle b := by
  unfold settle HartState.settle
  show (if b || (h.hartReset && !h.nonexistent) then _ else _ : HartStateS).abs =
    if b || (h.hartReset && !h.nonexistent) then _ else _
  split <;> rfl

theorem requestResethalt_abs (set clr : Bool) :
    (h.requestResethalt set clr).abs =
      let g := if set && !clr then { h.abs with resetHaltreq := true } else h.abs
      if clr then { g with resetHaltreq := false } else g := by
  cases set <;> cases clr <;> rfl

/-- The response to the halt request, the last stage of `acknowledgeAndHalt`. -/
theorem respondHalt_abs :
    (if !h.nonexistent && !(h.unavailSticky || !h.available) then
      if h.running.get && !h.halted.get then
        { h with halted := h.halted.set true, running := h.running.set false }
      else h
    else h : HartStateS).abs = h.abs.respondHalt := by
  unfold HartState.respondHalt
  have hgate : (!h.nonexistent && !(h.unavailSticky || !h.available)) = !(h.abs.nonexistent || h.abs.unavail) := by
    rw [Bool.or_comm h.unavailSticky]
    exact (Bool.not_or h.nonexistent (!h.available || h.unavailSticky)).symm
  rw [hgate]
  cases h.abs.nonexistent || h.abs.unavail with
  | true => rfl
  | false =>
    show (if h.running.get && !h.halted.get then _ else h : HartStateS).abs = if h.running.get && !h.halted.get then _ else _
    split <;> rfl

theorem acknowledgeAndHalt_abs (ackhavereset ackunavail haltreq : Bool) :
    (h.acknowledgeAndHalt ackhavereset ackunavail haltreq).abs =
      let g := if ackhavereset then { h.abs with havereset := false } else h.abs
      let g := if ackunavail then if g.available then { g with unavailSticky := false } else g else g
      let g := { g with haltRequest := haltreq }
      if haltreq then g.respondHalt else g := by
  obtain ⟨_, _, _, _, _, _, _, available, _, _⟩ := h
  cases haltreq with
  | false => cases ackhavereset <;> cases ackunavail <;> cases available <;> rfl
  | true => cases ackhavereset <;> cases ackunavail <;> cases available <;> exact respondHalt_abs _

end HartStateS

/-! ## All harts -/

/-- Only the element at the index matters. -/
theorem map_modify_of_comm {α β : Type} {g : α → β} {f : α → α} {f' : β → β} {l : List α} {i : Nat}
    (h : ∀ a ∈ l[i]?, g (f a) = f' (g a)) : (l.modify i f).map g = (l.map g).modify i f' := by
  apply List.ext_getElem?
  intro j
  rw [List.getElem?_map, List.getElem?_modify, List.getElem?_modify, List.getElem?_map]
  by_cases hj : i = j
  · subst hj
    cases hl : l[i]? with
    | none => simp
    | some a => simp [h a hl]
  · cases l[j]? <;> simp [hj]

namespace RunControlS

variable (p : ParamsS) (rc : RunControlS)

theorem update_abs {f : HartStateS → HartStateS} {f' : HartState → HartState} {i : Nat}
    (h : ∀ a ∈ rc.harts[i]?, (f a).abs = f' a.abs) :
    (rc.update i f).abs = { rc.abs with harts := rc.abs.harts.modify i f' } := by
  unfold update abs
  rw [map_modify_of_comm h]

theorem forHarts_abs {f : HartStateS → HartStateS} {f' : HartState → HartState}
    (h : ∀ a, (f a).abs = f' a.abs) : (rc.forHarts f).abs = rc.abs.forHarts f' := by
  unfold forHarts abs RunControl.forHarts
  simp only [List.map_map, Function.comp_def, h]

/-- An index that is not in the array is not updated. -/
theorem modify_of_not_exists {sel : Nat} (h : rc.hartExists sel = false) (f : HartState → HartState) :
    rc.abs.harts.modify sel f = rc.abs.harts := by
  apply List.modify_eq_self
  simpa [hartExists, abs] using h

theorem markNonexistent_abs : (rc.markNonexistent p).abs = rc.abs.markNonexistent p.abs := by
  have hharts : (rc.markNonexistent p).abs.harts = (rc.abs.markNonexistent p.abs).harts := by
    apply List.ext_getElem?
    intro i
    simp only [markNonexistent, RunControl.markNonexistent, abs, List.getElem?_map, List.getElem?_mapIdx]
    cases rc.harts[i]? <;> rfl
  show { rc.abs with harts := (rc.markNonexistent p).abs.harts } = rc.abs.markNonexistent p.abs
  rw [hharts]
  rfl

theorem applyNdmreset_abs (b : Bool) :
    (rc.applyNdmreset p b).abs = rc.abs.applyNdmreset p.abs b := by
  unfold applyNdmreset RunControl.applyNdmreset
  show (if b && !rc.ndmreset then _ else _ : RunControlS).abs = if b && !rc.ndmreset then _ else _
  split
  · exact forHarts_abs _ fun h => h.enterNdmreset_abs p.resumeackReset
  · show (if !b && rc.ndmreset then _ else _ : RunControlS).abs = if !b && rc.ndmreset then _ else _
    split
    · exact forHarts_abs _ fun h => h.releaseFromReset_abs
    · rfl

/-- The models agree on the `hartreset` stage: the selected hart is there, or the level stays. -/
def HartresetAgrees (b : Bool) : Prop := rc.hartExists rc.selectedIndex = true ∨ b = rc.hartresetLevel

theorem applyHartreset_abs {b : Bool} (h : rc.HartresetAgrees b) :
    (rc.applyHartreset p b).abs = rc.abs.applyHartreset p.abs b := by
  have hsame : b = rc.hartresetLevel → rc.abs.applyHartreset p.abs b = rc.abs := by
    rintro rfl
    unfold RunControl.applyHartreset
    show (if rc.hartresetLevel && !rc.hartresetLevel then _
      else if !rc.hartresetLevel && rc.hartresetLevel then _ else rc.abs) = rc.abs
    cases rc.hartresetLevel <;> rfl
  unfold applyHartreset
  dsimp only
  cases hx : rc.hartExists rc.selectedIndex with
  | false =>
    rcases h with h | h
    · exact absurd h (by simp [hx])
    · rw [hsame h]; rfl
  | true =>
    unfold RunControl.applyHartreset
    rw [if_neg (by simp)]
    show (if b && !rc.hartresetLevel then _ else _ : RunControlS).abs =
      if b && !rc.hartresetLevel then _ else _
    split
    · exact update_abs _ fun h _ => h.enterHartreset_abs p.resumeackReset
    · show (if !b && rc.hartresetLevel then _ else _ : RunControlS).abs =
        if !b && rc.hartresetLevel then _ else _
      split
      · exact update_abs _ fun h _ => HartStateS.releaseFromReset_abs { h with hartReset := false }
      · rfl

/-- The halt-on-reset stage. -/
theorem applyResethaltreq_abs (set clr : Bool) :
    (if p.hasresethaltreq && rc.hartExists rc.selectedIndex then
        rc.update rc.selectedIndex (·.requestResethalt set clr)
      else rc).abs = rc.abs.applyResethaltreq p.abs set clr := by
  have hpy : rc.abs.applyResethaltreq p.abs set clr =
      if p.hasresethaltreq then
        { rc.abs with harts := rc.abs.harts.modify rc.selectedIndex fun h =>
            let g := if set && !clr then { h with resetHaltreq := true } else h
            if clr then { g with resetHaltreq := false } else g }
      else rc.abs := by
    unfold RunControl.applyResethaltreq
    show (if p.hasresethaltreq then _ else _) = _
    split
    · cases set <;> cases clr <;>
        simp only [Bool.not_true, Bool.not_false, Bool.and_true, Bool.and_false, Bool.false_eq_true,
          if_false, if_true, RunControl.forSelected_eq, RunControl.modify_self_of_eq (fun _ => rfl)] <;> rfl
    · rfl
  rw [hpy]
  cases p.hasresethaltreq with
  | false => rfl
  | true =>
    rw [Bool.true_and, if_pos rfl]
    split
    · exact update_abs _ fun h _ => h.requestResethalt_abs set clr
    · rename_i hx
      rw [modify_of_not_exists _ (by simpa using hx)]

/-- The acknowledgements and the halt request, on the Python side as one update. -/
theorem applyAcksAndHalt_eq (r : RunControl) (ackhavereset ackunavail haltreq : Bool) :
    ((r.applyAckhavereset ackhavereset).applyAckunavail ackunavail).applyHaltreq haltreq =
      { r with harts := r.harts.modify r.hartsel fun h =>
          let g := if ackhavereset then { h with havereset := false } else h
          let g := if ackunavail then if g.available then { g with unavailSticky := false } else g else g
          let g := { g with haltRequest := haltreq }
          if haltreq then g.respondHalt else g } := by
  unfold RunControl.applyHaltreq RunControl.applyAckunavail RunControl.applyAckhavereset
  cases ackhavereset <;> cases ackunavail <;> cases haltreq <;>
    simp only [Bool.false_eq_true, if_false, if_true, RunControl.forSelected_eq, List.modify_modify_eq,
      Function.comp_def]

/-- The step bit of the shadowed `dcsr`. -/
theorem stepArmed_abs (ac : AbstractCommandS) :
    RunControl.stepArmed ac.abs =
      (ac.shadowRegs.get? (BitVec.ofNat 16 DCSR_REGNO)).any (·.getLsbD DCSR_STEP_BIT) := by
  have hkey := Dict.get?_toNat ac.shadowRegs (BitVec.ofNat 16 DCSR_REGNO)
  unfold RunControl.stepArmed Dict.getD
  show ((ac.shadowRegs.toNat.get? (BitVec.ofNat 16 DCSR_REGNO).toNat).getD 0).testBit DCSR_STEP_BIT = _
  rw [hkey]
  cases ac.shadowRegs.get? (BitVec.ofNat 16 DCSR_REGNO) with
  | none => simp
  | some v => exact BitVec.testBit_toNat v

/-- The resume request of a hart that is there. -/
theorem applyResumereq_abs (ac : AbstractCommandS) :
    ((rc.applyResumereq ac rc.selectedIndex).1.abs, (rc.applyResumereq ac rc.selectedIndex).2.abs) =
      rc.abs.applyResumereq ac.abs := by
  have hget : rc.abs.harts[rc.abs.hartsel]? = (rc.harts[rc.selectedIndex]?).map HartStateS.abs :=
    List.getElem?_map
  rw [RunControl.applyResumereq_eq, hget]
  unfold applyResumereq
  cases hh : rc.harts[rc.selectedIndex]? with
  | none =>
    have hx : rc.hartExists rc.selectedIndex = false := by
      rw [List.getElem?_eq_none_iff] at hh
      simpa [hartExists] using hh
    have hself := rc.modify_of_not_exists hx (HartState.respondResume (RunControl.stepArmed ac.abs))
    exact Prod.ext (by rw [show rc.abs.hartsel = rc.selectedIndex from rfl, hself]; rfl) rfl
  | some h =>
    have hun : h.abs.unavail = (h.unavailSticky || !h.available) := Bool.or_comm _ _
    -- the hart that is updated is `h`, so the guards are known in every branch
    have hat : ∀ a ∈ rc.harts[rc.selectedIndex]?, a = h := by
      intro a ha
      rw [hh] at ha
      exact (Option.some.inj ha).symm
    dsimp only [Option.map_some]
    rw [← stepArmed_abs, hun]
    cases hno : h.nonexistent || h.unavailSticky || !h.available with
    | true =>
      have hno' : (h.abs.nonexistent || (h.unavailSticky || !h.available)) = true := by
        rw [← hno, Bool.or_assoc]; rfl
      rw [if_pos rfl, hno', Bool.not_true, Bool.false_and, if_neg (by simp)]
      refine Prod.ext ?_ rfl
      have hid : rc.abs = (rc.update rc.selectedIndex id).abs := by
        rw [update, List.modify_id]
      refine hid.trans (update_abs _ fun a ha => ?_)
      rw [hat a ha, HartState.respondResume, hun, if_pos hno']
      rfl
    | false =>
      have hno' : (h.abs.nonexistent || (h.unavailSticky || !h.available)) = false := by
        rw [← hno, Bool.or_assoc]; rfl
      rw [if_neg (by simp), hno', Bool.not_false, Bool.true_and]
      cases hhalt : h.halted.get with
      | true =>
        have hhalt' : h.abs.halted = true := hhalt
        rw [if_pos rfl, if_pos hhalt']
        refine Prod.ext (update_abs _ fun a ha => ?_) ?_
        · rw [hat a ha, HartState.respondResume, hun, hno', if_neg (by simp), if_pos hhalt']
          rfl
        · show ({ ac with shadowRegs := .empty, shadowHi := .empty } : AbstractCommandS).abs = _
          unfold AbstractCommandS.abs AbstractCommand.clearShadow
          rw [Dict.toNat_empty]
      | false =>
        have hhalt' : ¬ h.abs.halted = true := by
          rw [show h.abs.halted = h.halted.get from rfl, hhalt]
          simp
        rw [if_neg (by simp), if_neg hhalt']
        refine Prod.ext (update_abs _ fun a ha => ?_) rfl
        rw [hat a ha, HartState.respondResume, hun, hno', if_neg (by simp), if_neg hhalt']
        rfl

theorem settleResetState_abs : rc.settleResetState.abs = rc.abs.settleResetState :=
  forHarts_abs rc fun h => h.settle_abs rc.ndmreset

/-- The stages that concern the selected hart only. -/
theorem selectedStages_abs (ac : AbstractCommandS) (ackhavereset ackunavail haltreq resumereq : Bool) :
    let st :=
      if rc.hartExists rc.selectedIndex then
        let rc' := rc.update rc.selectedIndex (·.acknowledgeAndHalt ackhavereset ackunavail haltreq)
        if resumereq && !haltreq then rc'.applyResumereq ac rc.selectedIndex else (rc', ac)
      else (rc, ac)
    (st.1.abs, st.2.abs) =
      let r := ((rc.abs.applyAckhavereset ackhavereset).applyAckunavail ackunavail).applyHaltreq haltreq
      if resumereq && !haltreq then r.applyResumereq ac.abs else (r, ac.abs) := by
  have hupd : (rc.update rc.selectedIndex (·.acknowledgeAndHalt ackhavereset ackunavail haltreq)).abs =
      ((rc.abs.applyAckhavereset ackhavereset).applyAckunavail ackunavail).applyHaltreq haltreq := by
    rw [applyAcksAndHalt_eq]
    exact update_abs _ fun h _ => h.acknowledgeAndHalt_abs ackhavereset ackunavail haltreq
  dsimp only
  rw [← hupd]
  cases hx : rc.hartExists rc.selectedIndex with
  | true =>
    rw [if_pos rfl]
    split
    · exact applyResumereq_abs
        (rc.update rc.selectedIndex (·.acknowledgeAndHalt ackhavereset ackunavail haltreq)) ac
    · rfl
  | false =>
    -- nothing is selected: the updates and the resume request do nothing
    have hsame : rc.update rc.selectedIndex
        (·.acknowledgeAndHalt ackhavereset ackunavail haltreq) = rc := by
      have hlen : rc.harts.length ≤ rc.selectedIndex := by simpa [hartExists] using hx
      rw [update, List.modify_eq_self hlen]
    have hres : (rc.abs, ac.abs) = rc.abs.applyResumereq ac.abs := by
      have hget : rc.harts[rc.selectedIndex]? = none := by
        simpa [hartExists] using hx
      rw [← applyResumereq_abs, applyResumereq, hget]
    rw [hsame, if_neg (by simp), ← hres, ite_self]

/-- The stages before `apply_hartreset` leave the selection and the level alone. -/
theorem frame_ndmreset (asserted : Bool) :
    ((rc.markNonexistent p).applyNdmreset p asserted).selectedIndex = rc.selectedIndex ∧
      ((rc.markNonexistent p).applyNdmreset p asserted).hartresetLevel = rc.hartresetLevel ∧
      ((rc.markNonexistent p).applyNdmreset p asserted).harts.length = rc.harts.length := by
  unfold applyNdmreset forHarts markNonexistent
  dsimp only
  repeat' split
  all_goals exact ⟨rfl, rfl, by simp⟩

/-- **An active write.** -/
theorem writeActive_abs (ac : AbstractCommandS) (value : BitVec 32)
    (h : rc.harts.length ≤ hartselOf value.toNat →
      (value.getLsbD 29 && p.supportsHartreset) = rc.hartresetLevel) :
    ((rc.writeActive p ac value).1.abs, (rc.writeActive p ac value).2.abs) =
      rc.abs.writeActive p.abs ac.abs value.toNat := by
  let rc₁ : RunControlS := { rc with
    dmactive := true
    hartsel := value.extractLsb' 6 10 ++ value.extractLsb' 16 10
    hasel := if p.supportsHasel then value.getLsbD 26 else false }
  let rc₃ := (rc₁.markNonexistent p).applyNdmreset p (value.getLsbD 1)
  have h₁ : rc₁.abs = { rc.abs with
      dmactive := true
      hartsel := hartselOf value.toNat
      hasel := if p.abs.supportsHasel then DMCONTROL.hasel.test value.toNat else false } := by
    rw [DMCONTROL.test_hasel, ← getLsbD_eq, ← toNat_hartsel]
    rfl
  have h₃ : rc₃.abs = ((rc₁.abs.markNonexistent p.abs).applyNdmreset p.abs
      (DMCONTROL.ndmreset.test value.toNat)) := by
    rw [DMCONTROL.test_ndmreset, ← getLsbD_eq, ← markNonexistent_abs, ← applyNdmreset_abs]
  have hagree : rc₃.HartresetAgrees (value.getLsbD 29 && p.supportsHartreset) := by
    obtain ⟨hsel, hlevel, hlen⟩ := rc₁.frame_ndmreset p (value.getLsbD 1)
    unfold HartresetAgrees hartExists
    rw [hsel, hlevel, hlen, decide_eq_true_iff]
    show (value.extractLsb' 6 10 ++ value.extractLsb' 16 10).toNat < rc.harts.length ∨
      _ = rc.hartresetLevel
    rw [toNat_hartsel]
    by_cases hlt : hartselOf value.toNat < rc.harts.length
    · exact .inl hlt
    · exact .inr (h (by omega))
  let rc₄ := rc₃.applyHartreset p (value.getLsbD 29 && p.supportsHartreset)
  have h₄ : rc₄.abs = rc₃.abs.applyHartreset p.abs
      (DMCONTROL.hartreset.test value.toNat && p.abs.supportsHartreset) := by
    rw [DMCONTROL.test_hartreset, ← getLsbD_eq]
    exact applyHartreset_abs p rc₃ hagree
  let rc₅ :=
    if p.hasresethaltreq && rc₄.hartExists rc₄.selectedIndex then
      rc₄.update rc₄.selectedIndex (·.requestResethalt (value.getLsbD 3) (value.getLsbD 2))
    else rc₄
  have h₅ : rc₅.abs = rc₄.abs.applyResethaltreq p.abs (DMCONTROL.setresethaltreq.test value.toNat)
      (DMCONTROL.clrresethaltreq.test value.toNat) := by
    rw [DMCONTROL.test_setresethaltreq, DMCONTROL.test_clrresethaltreq, ← getLsbD_eq, ← getLsbD_eq]
    exact applyResethaltreq_abs p rc₄ _ _
  have hsel : rc₄.selectedIndex = rc₅.selectedIndex := by
    unfold rc₅
    split <;> rfl
  have h₆ := rc₅.selectedStages_abs ac (value.getLsbD 28) (value.getLsbD 27) (value.getLsbD 31)
    (value.getLsbD 30)
  have hpy : rc.abs.writeActive p.abs ac.abs value.toNat =
      let r := ((rc₅.abs.applyAckhavereset (value.getLsbD 28)).applyAckunavail
        (value.getLsbD 27)).applyHaltreq (value.getLsbD 31)
      let st := if value.getLsbD 30 && !value.getLsbD 31 then r.applyResumereq ac.abs else (r, ac.abs)
      (st.1.settleResetState, st.2) := by
    rw [h₅, h₄, h₃, h₁]
    simp only [RunControl.writeActive, DMCONTROL.test_ackhavereset, DMCONTROL.test_ackunavail,
      DMCONTROL.test_haltreq, DMCONTROL.test_resumereq, getLsbD_eq]
  have hsv : rc.writeActive p ac value =
      let st :=
        if rc₅.hartExists rc₅.selectedIndex then
          let rc' := rc₅.update rc₅.selectedIndex
            (·.acknowledgeAndHalt (value.getLsbD 28) (value.getLsbD 27) (value.getLsbD 31))
          if value.getLsbD 30 && !value.getLsbD 31 then rc'.applyResumereq ac rc₅.selectedIndex
          else (rc', ac)
        else (rc₅, ac)
      (st.1.settleResetState, st.2) := by
    rw [← hsel]
    rfl
  rw [hpy, hsv]
  dsimp only at h₆ ⊢
  rw [← h₆, settleResetState_abs]

/-- A write that selects no hart leaves the level of `hartreset` as it is. -/
theorem writeActive_hartresetLevel (ac : AbstractCommandS) (value : BitVec 32)
    (h : rc.harts.length ≤ hartselOf value.toNat) :
    (rc.writeActive p ac value).1.hartresetLevel = rc.hartresetLevel := by
  let rc₁ : RunControlS := { rc with
    dmactive := true
    hartsel := value.extractLsb' 6 10 ++ value.extractLsb' 16 10
    hasel := if p.supportsHasel then value.getLsbD 26 else false }
  let rc₃ := (rc₁.markNonexistent p).applyNdmreset p (value.getLsbD 1)
  obtain ⟨hsel, hlevel, hlen⟩ := rc₁.frame_ndmreset p (value.getLsbD 1)
  have hno : rc₃.hartExists rc₃.selectedIndex = false := by
    rw [hartExists, decide_eq_false_iff_not, hsel, hlen]
    show ¬ (value.extractLsb' 6 10 ++ value.extractLsb' 16 10).toNat < rc.harts.length
    rw [toNat_hartsel]
    omega
  have hkept : rc₃.applyHartreset p (value.getLsbD 29 && p.supportsHartreset) = rc₃ := by
    rw [applyHartreset, hno]
    rfl
  have hwrite : rc.writeActive p ac value = (rc₃.settleResetState, ac) := by
    unfold writeActive
    dsimp only
    rw [hkept, hno, Bool.and_false, if_neg Bool.false_ne_true, hno, if_neg Bool.false_ne_true]
  rw [hwrite]
  exact hlevel

/-- A DM reset.  A hart new to the array would get another `havereset` in each model; there is none as
long as the array keeps its size. -/
theorem resetDm_abs (powerOn : Bool)
    (h : powerOn = false → rc.harts.length = max p.numHarts.toNat 1) :
    (rc.resetDm p powerOn).abs = rc.abs.resetDm p.abs powerOn := by
  have hmax : (if p.numHarts.toNat > 0 then p.numHarts.toNat else 1) = max p.numHarts.toNat 1 := by
    split <;> omega
  have hharts : (rc.resetDm p powerOn).abs.harts = (rc.abs.resetDm p.abs powerOn).harts := by
    simp only [resetDm, RunControl.resetDm, abs, hmax, List.map_map]
    refine List.map_congr_left fun i hi => ?_
    rw [List.mem_range] at hi
    rw [Function.comp_apply, List.getElem?_map]
    unfold resetHart RunControl.resetHart
    cases powerOn with
    | true => rfl
    | false =>
      have hlt : i < rc.harts.length := by rw [h rfl]; exact hi
      rw [List.getElem?_eq_getElem hlt]
      rfl
  show { rc.abs.resetDm p.abs powerOn with harts := (rc.resetDm p powerOn).abs.harts } = _
  rw [hharts]

theorem syncObservedHartSignals_abs (r : BitVec 32) :
    (rc.syncObservedHartSignals r).abs = rc.abs.syncObservedHartSignals r.toNat := by
  unfold syncObservedHartSignals RunControl.syncObservedHartSignals
  dsimp only
  split
  · rename_i hx
    have hno : rc.hartExists rc.selectedIndex = false := by simpa using hx
    have hself := rc.modify_of_not_exists hno fun h =>
      { h with
        halted := r.toNat.testBit 9
        running := r.toNat.testBit 11
        resumeAck := r.toNat.testBit 17 }
    rw [show rc.abs.hartsel = rc.selectedIndex from rfl, hself]
    rfl
  · refine update_abs _ fun h _ => ?_
    rw [getLsbD_eq, getLsbD_eq, getLsbD_eq]
    rfl

end RunControlS

end RiscvDbg
