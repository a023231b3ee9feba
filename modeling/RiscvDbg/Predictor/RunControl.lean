import RiscvDbg.Predictor.AbstractCommand

/-!
# Run control in the Python reference model

Model of the dmcontrol/dmstatus half of `DMPredictor`: the harts, the reset levels, the selection,
and the effects of a `dmcontrol` write.

* `HartState` — the state kept for one hart.
* `RunControl.writeActive` — a `dmcontrol` write with `dmactive = 1`, as the sequence of stages of
  `_write_dmcontrol`: selection, both reset levels, halt-on-reset requests, acknowledgements, halt,
  resume, settle.  A resume also clears the register shadow, so the abstract-command state is
  threaded through it.
* `RunControl.resetDm`, `RunControl.syncObservedHartSignals` — the other operations on harts.
-/

set_option autoImplicit false

namespace RiscvDbg

/-- State the DM tracks for, and observes from, one hart. -/
structure HartState where
  haltRequest : Bool := false
  resumeAck : Bool := false
  resetHaltreq : Bool := false
  hartReset : Bool := false
  halted : Bool := false
  running : Bool := true
  havereset : Bool := false
  available : Bool := true
  unavailSticky : Bool := false
  nonexistent : Bool := false
  deriving DecidableEq, Repr, Inhabited

namespace HartState

/-- The value `dmstatus.any/allunavail` reflects for this hart. -/
def unavail (h : HartState) : Bool := !h.available || h.unavailSticky

/-- `_release_from_reset`: a hart coming out of reset. -/
def releaseFromReset (h : HartState) : HartState :=
  if h.nonexistent then h
  else if h.resetHaltreq || h.haltRequest then
    { h with havereset := true, halted := true, running := false }
  else { h with havereset := true, halted := false, running := true }

/-- One hart of `_apply_ndmreset` on the asserting edge. -/
def enterNdmreset (resumeackReset : Bool) (h : HartState) : HartState :=
  { h with
    halted := false
    running := !(h.unavailSticky || !h.available)
    havereset := true
    resumeAck := resumeackReset }

/-- One hart of `_apply_hartreset` on the asserting edge. -/
def enterHartreset (resumeackReset : Bool) (h : HartState) : HartState :=
  { h with hartReset := true, halted := false, running := false, resumeAck := resumeackReset }

/-- The response of a hart to its halt request bit. -/
def respondHalt (h : HartState) : HartState :=
  if h.nonexistent || h.unavail then h
  else if h.running && !h.halted then { h with halted := true, running := false }
  else h

/-- One hart of `_apply_resumereq`; `stepArmed` is the step bit of the shadowed `dcsr`. -/
def respondResume (stepArmed : Bool) (h : HartState) : HartState :=
  if h.nonexistent || h.unavail then h
  else if h.halted then { h with resumeAck := true, halted := stepArmed, running := !stepArmed }
  else { h with resumeAck := false }

/-- One hart of `_settle_reset_state`. -/
def settle (ndmreset : Bool) (h : HartState) : HartState :=
  if ndmreset || (h.hartReset && !h.nonexistent) then
    { h with halted := false, running := !(h.unavailSticky || !h.available) }
  else h

end HartState

/-- DM-wide run-control state. -/
structure RunControl where
  dmactive : Bool
  ndmreset : Bool
  hartsel : Nat
  hasel : Bool
  hartresetLevel : Bool
  harts : List HartState

namespace RunControl

/-- The state at construction, before the power-on reset. -/
def init : RunControl := ⟨false, false, 0, false, false, []⟩

/-- The hart that `reset_dm` builds at an index where `prev` stood before. -/
def resetHart (p : Params) (powerOn : Bool) (prev : Option HartState) : HartState :=
  let h : HartState :=
    { haltRequest := false, resumeAck := p.resumeackReset, resetHaltreq := false, hartReset := false }
  if powerOn then { h with halted := false, running := true, havereset := p.haveresetPoweron }
  else
    match prev with
    | some q => { h with halted := q.halted, running := q.running, havereset := q.havereset }
    | none => { h with halted := false, running := true, havereset := false }

/-- The run-control part of `reset_dm`. -/
def resetDm (p : Params) (powerOn : Bool) (rc : RunControl) : RunControl where
  dmactive := false
  ndmreset := false
  hartsel := 0
  hasel := false
  hartresetLevel := false
  harts := (List.range (max p.numHarts 1)).map fun i => resetHart p powerOn rc.harts[i]?

def selectedIndices (rc : RunControl) : List Nat := [rc.hartsel]

/-- Update every selected hart: `for h in self._selected(): ...`. -/
def forSelected (rc : RunControl) (f : HartState → HartState) : RunControl :=
  { rc with harts := rc.selectedIndices.foldl (fun hs i => hs.modify i f) rc.harts }

/-- Update every hart: `for h in self.harts: ...`. -/
def forHarts (rc : RunControl) (f : HartState → HartState) : RunControl :=
  { rc with harts := rc.harts.map f }

/-- `h.nonexistent = self._is_nonexistent(i)` for every hart. -/
def markNonexistent (p : Params) (rc : RunControl) : RunControl :=
  { rc with harts := rc.harts.mapIdx fun i h => { h with nonexistent := p.numHarts ≤ i } }

/-- `_apply_ndmreset`. -/
def applyNdmreset (p : Params) (asserted : Bool) (rc : RunControl) : RunControl :=
  if asserted && !rc.ndmreset then
    { rc with ndmreset := true }.forHarts (·.enterNdmreset p.resumeackReset)
  else if !asserted && rc.ndmreset then
    { rc with ndmreset := false }.forHarts (·.releaseFromReset)
  else rc

/-- `_apply_hartreset`. -/
def applyHartreset (p : Params) (asserted : Bool) (rc : RunControl) : RunControl :=
  if asserted && !rc.hartresetLevel then
    { rc with hartresetLevel := true }.forSelected (·.enterHartreset p.resumeackReset)
  else if !asserted && rc.hartresetLevel then
    { rc with hartresetLevel := false }.forSelected fun h =>
      HartState.releaseFromReset { h with hartReset := false }
  else rc

/-- The halt-on-reset request bits; `clr` wins over a simultaneous `set`. -/
def applyResethaltreq (p : Params) (set clr : Bool) (rc : RunControl) : RunControl :=
  if p.hasresethaltreq then
    let rc := if set && !clr then rc.forSelected fun h => { h with resetHaltreq := true } else rc
    if clr then rc.forSelected fun h => { h with resetHaltreq := false } else rc
  else rc

def applyAckhavereset (ack : Bool) (rc : RunControl) : RunControl :=
  if ack then rc.forSelected fun h => { h with havereset := false } else rc

def applyAckunavail (ack : Bool) (rc : RunControl) : RunControl :=
  if ack then rc.forSelected fun h => if h.available then { h with unavailSticky := false } else h
  else rc

/-- Record the halt request of every selected hart, then let it respond. -/
def applyHaltreq (haltreq : Bool) (rc : RunControl) : RunControl :=
  let rc := rc.forSelected fun h => { h with haltRequest := haltreq }
  if haltreq then rc.forSelected (·.respondHalt) else rc

/-- The step bit of the last `dcsr` written through an abstract command. -/
def stepArmed (ac : AbstractCommand) : Bool := (ac.shadowRegs.getD DCSR_REGNO 0).testBit DCSR_STEP_BIT

/-- `_apply_resumereq`: a resumed hart runs code the shadow cannot follow. -/
def applyResumereq (rc : RunControl) (ac : AbstractCommand) : RunControl × AbstractCommand :=
  rc.selectedIndices.foldl
    (fun (st : RunControl × AbstractCommand) i =>
      match st.1.harts[i]? with
      | none => st
      | some h =>
        let rc := { st.1 with harts := st.1.harts.set i (h.respondResume (stepArmed st.2)) }
        if !(h.nonexistent || h.unavail) && h.halted then (rc, st.2.clearShadow) else (rc, st.2))
    (rc, ac)

/-- `_settle_reset_state`. -/
def settleResetState (rc : RunControl) : RunControl := rc.forHarts (·.settle rc.ndmreset)

/-- `_write_dmcontrol` with `dmactive = 1`. -/
def writeActive (p : Params) (rc : RunControl) (ac : AbstractCommand) (value : Nat) :
    RunControl × AbstractCommand :=
  let rc := { rc with
    dmactive := true
    hartsel := hartselOf value
    hasel := if p.supportsHasel then DMCONTROL.hasel.test value else false }
  let rc := rc.markNonexistent p
  let rc := rc.applyNdmreset p (DMCONTROL.ndmreset.test value)
  let rc := rc.applyHartreset p (DMCONTROL.hartreset.test value && p.supportsHartreset)
  let rc := rc.applyResethaltreq p (DMCONTROL.setresethaltreq.test value)
    (DMCONTROL.clrresethaltreq.test value)
  let rc := rc.applyAckhavereset (DMCONTROL.ackhavereset.test value)
  let rc := rc.applyAckunavail (DMCONTROL.ackunavail.test value)
  let haltreq := DMCONTROL.haltreq.test value
  let rc := rc.applyHaltreq haltreq
  let (rc, ac) :=
    if DMCONTROL.resumereq.test value && !haltreq then rc.applyResumereq ac else (rc, ac)
  (rc.settleResetState, ac)

/-- `sync_observed_hart_signals`. -/
def syncObservedHartSignals (rc : RunControl) (dmstatusWord : Nat) : RunControl :=
  { rc with harts := rc.harts.modify rc.hartsel fun h =>
      { h with
        halted := dmstatusWord.testBit 9
        running := dmstatusWord.testBit 11
        resumeAck := dmstatusWord.testBit 17 } }

end RunControl

end RiscvDbg
