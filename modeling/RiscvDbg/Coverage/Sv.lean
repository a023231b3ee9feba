import RiscvDbg.Coverage.Bins
import RiscvDbg.Lib.Dicts
import RiscvDbg.Lib.Runs
import RiscvDbg.RefModel.Config

/-!
# The SystemVerilog coverage model

Model of `debug_coverage` (`sv/fcov/covergroups.sv`): the subscriber that turns the records of the
monitor into bins.

* `cg*` — the bins one sample of a covergroup hits.  An unknown value hits none.
* `DebugCoverage.write` — one record: first the response of the outstanding read, then the request.
* `DebugCoverage.sampleAccess` — one whole access; `run_performs` says the shifts of an access do just
  that, so a stream of accesses can be followed access by access (`after_carries`).

The field `reads` is not in the source.  It lists the responses sampled, with their registers.
-/

set_option autoImplicit false

namespace RiscvDbg

/-! ## Covergroups -/

/-- `cp_regno_class`: the register numbers of the two namespaces. -/
def regnoClassOf (regno : BitVec 16) : Option RegnoClass :=
  if 0x1000#16 ≤ regno ∧ regno ≤ 0x101F#16 then some .gpr
  else if regno ≤ 0x0FFF#16 then some .csr
  else none

/-- `cg_command_write`. -/
def cgCommandWrite (w : BitVec 32) : List ExtBin :=
  .commandWrite (w.getLsbD 16) :: ((regnoClassOf (w.extractLsb' 0 16)).map .regnoClass).toList

/-- `cg_abstractcs_read`. -/
def cgAbstractcsRead (r : FourState 32) : List ExtBin :=
  (r.bit? 12).toList.map .abstractcsBusy ++
    ((if (r.extract 24 5).neZero? = some true then [.hasProgbuf] else []) ++
      (if (r.extract 0 4).neZero? = some true then [.hasData] else []))

/-- `cg_progbuf`. -/
def cgProgbuf (wrote executed : Bool) : List ExtBin :=
  (if wrote then [.progbufWritten] else []) ++ (if executed then [.progbufExecuted] else [])

/-- `cg_sbcs`. -/
def cgSbcs (w : FourState 32) (isWrite : Bool) : List ExtBin :=
  (w.bit? 20).toList.map .readonaddr ++
    (if isWrite = false ∧ w.bit? 21 = some false then [.sbbusyIdle] else [])

/-- `cg_sb_access`; reading the address back is ignored. -/
def cgSbAccess (addr : BitVec 7) (op : BitVec 2) : List ExtBin :=
  match addr == DM_ADDR_SBDATA0, op == DMI_WRITE with
  | false, true => [.sbAccess .addrWrite]
  | true, true => [.sbAccess .dataWrite]
  | true, false => [.sbAccess .dataRead]
  | false, false => []

/-- `cg_dmcs2_write`. -/
def cgDmcs2Write (w : BitVec 32) : List ExtBin :=
  [.hgselect (w.getLsbD 0), .grouptype (w.getLsbD 11), .group (w.extractLsb' 2 5 != 0)]

/-- `cg_hartinfo_read`. -/
def cgHartinfoRead (r : FourState 32) : List ExtBin := (r.bit? 16).toList.map fun _ => .dataaccess

/-- `cg_haltsum0_read`. -/
def cgHaltsum0Read (r : FourState 32) : List ExtBin := r.neZero?.toList.map .haltsum0

/-- `cg_data0_access`. -/
def cgData0Access (op : BitVec 2) : List ExtBin :=
  if op = DMI_READ then [.data0Access false] else if op = DMI_WRITE then [.data0Access true] else []

/-- The trigger registers (`CSR_TSELECT` … `CSR_TINFO`). -/
def triggerCsrOf (regno : BitVec 16) : Option TriggerCsr :=
  if regno = 0x07A0#16 then some .tselect
  else if regno = 0x07A1#16 then some .tdata1
  else if regno = 0x07A2#16 then some .tdata2
  else if regno = 0x07A3#16 then some .tdata3
  else if regno = 0x07A4#16 then some .tinfo
  else none

/-- The trigger types that are binned (`TRIG_MCONTROL` … `TRIG_TMEXTTRIGGER`). -/
def triggerTypeOf (ttype : BitVec 4) : Option TriggerType :=
  if ttype = 2#4 then some .mcontrol
  else if ttype = 3#4 then some .icount
  else if ttype = 4#4 then some .itrigger
  else if ttype = 5#4 then some .etrigger
  else if ttype = 6#4 then some .mcontrol6
  else if ttype = 7#4 then some .tmexttrigger
  else none

/-- `cg_trigger`. -/
def cgTrigger (regno : BitVec 16) (isTdata1Write : Bool) (ttype : BitVec 4) : List ExtBin :=
  ((triggerCsrOf regno).map .triggerCsr).toList ++
    (if isTdata1Write then ((triggerTypeOf ttype).map .triggerType).toList else [])

/-! ## The subscriber -/

/-- State of `debug_coverage`, with the bins hit so far. -/
structure DebugCoverage where
  curState : HartObs := .unknown
  hartsel : BitVec 20 := 0
  stateHartsel : BitVec 20 := 0
  stateValid : Bool := false
  havereset : Bool := false
  haveresetValid : Bool := false
  ndmreset : Bool := false
  ndmresetReleasePending : Bool := false
  pendingReadValid : Bool := false
  pendingReadAddr : BitVec 7 := 0
  resetHaltreq : Dict (BitVec 20) Bool := .empty
  lastData0Wr : BitVec 32 := 0
  lastData1Wr : BitVec 32 := 0
  extHits : List ExtBin := []
  ctxHits : List ContextBin := []
  reads : List (BitVec 7 × FourState 32) := []

namespace DebugCoverage

/-- Sample an external-debug covergroup. -/
def hit (c : DebugCoverage) (bins : List ExtBin) : DebugCoverage := { c with extHits := c.extHits ++ bins }

/-- Sample the context coverpoints; an ignored bin does not count. -/
def hitContext (c : DebugCoverage) (bins : List ContextBin) : DebugCoverage :=
  { c with ctxHits := c.ctxHits ++ bins.filter (!·.excluded) }

/-- `resumereq` against the state last seen. -/
def resumereqCtx : HartObs → Option ResumereqCtx
  | .halted => some .whenHalted
  | .running => some .whenRunning
  | .inReset => some .whenInReset
  | _ => none

/-- `cur_resumereq_ctx` and `cur_havereset_ctx` of a write. -/
def requestContexts (c : DebugCoverage) (w : BitVec 32) (selectionChanged : Bool) : List ContextBin :=
  let curResumereqCtx :=
    if w.getLsbD 30 && !selectionChanged && c.stateValid then resumereqCtx c.curState else none
  let curHaveresetCtx :=
    if c.haveresetValid && !selectionChanged then
      if w.getLsbD 28 then some (if c.havereset then HaveresetCtx.ackWhenSet else .ackWhenClear)
      else if c.havereset then some .noackWhenSet
      else none
    else none
  (curResumereqCtx.map ContextBin.resumereq).toList ++ (curHaveresetCtx.map ContextBin.havereset).toList

/-- `cur_ndmreset_ctx` of a write. -/
def ndmresetContexts (c : DebugCoverage) (w : BitVec 32) : List ContextBin :=
  let rhr := c.resetHaltreq.getD c.hartsel false
  if w.getLsbD 1 && !c.ndmreset then [.ndmreset true rhr]
  else if !w.getLsbD 1 && c.ndmreset then [.ndmreset false rhr]
  else []

/-- `sample_dmcontrol_write`, as far as the context coverpoints go. -/
def sampleDmcontrolWrite (c : DebugCoverage) (w : BitVec 32) : DebugCoverage :=
  let newHartsel : BitVec 20 := w.extractLsb' 6 10 ++ w.extractLsb' 16 10
  let selectionChanged := newHartsel != c.hartsel
  let bins := c.requestContexts w selectionChanged
  let c :=
    { c with
      ndmresetReleasePending := false
      havereset :=
        if c.haveresetValid && !selectionChanged && w.getLsbD 28 then false else c.havereset
      hartsel := newHartsel }
  if w.getLsbD 0 = false then
    let c :=
      { c with
        resetHaltreq := .empty, ndmreset := false, stateValid := false, curState := .unknown,
        haveresetValid := false }
    c.hitContext bins
  else
    let c :=
      { c with
        resetHaltreq :=
          if w.getLsbD 2 then c.resetHaltreq.set c.hartsel false
          else if w.getLsbD 3 then c.resetHaltreq.set c.hartsel true
          else c.resetHaltreq }
    let edge := c.ndmresetContexts w
    let c :=
      { c with
        -- armed by a release with a halt request pending
        ndmresetReleasePending := !w.getLsbD 1 && c.ndmreset && w.getLsbD 31
        ndmreset := w.getLsbD 1 }
    c.hitContext (bins ++ edge)

/-- `decode_hart_state`. -/
def decodeHartState (c : DebugCoverage) (r : FourState 32) : HartObs :=
  if r.isTrue 14 then .nonexistent
  else if r.isTrue 12 then .unavail
  else if r.isTrue 8 then .halted
  else if r.isTrue 10 && (c.ndmreset || c.ndmresetReleasePending) then .inReset
  else if r.isTrue 10 then .running
  else .inReset

/-- The transition between two states; none into or out of unavailable or nonexistent. -/
def transitionOf : HartObs → HartObs → Option Transition
  | .running, .halted => some .runningToHalted
  | .halted, .running => some .haltedToRunning
  | .running, .inReset => some .runningToInReset
  | .halted, .inReset => some .haltedToInReset
  | .inReset, .running => some .inResetToRunning
  | .inReset, .halted => some .inResetToHalted
  | _, _ => none

/-- `sample_dmstatus_read`, as far as the transition goes. -/
def sampleDmstatusRead (c : DebugCoverage) (r : FourState 32) : DebugCoverage :=
  let c := { c with havereset := r.toBits.getLsbD 18, haveresetValid := true }
  let prevState := c.curState
  let prevHartsel := c.stateHartsel
  let prevValid := c.stateValid
  let c := { c with curState := c.decodeHartState r, stateHartsel := c.hartsel, stateValid := true }
  if !prevValid || prevHartsel != c.hartsel then c
  else if prevState = c.curState then c
  else c.hitContext ((transitionOf prevState c.curState).map .transition).toList

/-- The registers whose reads are sampled. -/
def tracked (addr : BitVec 7) : Bool :=
  addr == DM_ADDR_DMSTATUS || addr == DM_ADDR_ABSTRACTCS || addr == DM_ADDR_HARTINFO ||
    addr == DM_ADDR_HALTSUM0 || addr == DM_ADDR_SBCS

/-- The response of the outstanding read. -/
def sampleRead (c : DebugCoverage) (r : FourState 32) : DebugCoverage :=
  let addr := c.pendingReadAddr
  let c := if tracked addr then { c with reads := c.reads ++ [(addr, r)] } else c
  if addr = DM_ADDR_DMSTATUS then c.sampleDmstatusRead r
  else if addr = DM_ADDR_ABSTRACTCS then c.hit (cgAbstractcsRead r)
  else if addr = DM_ADDR_HARTINFO then c.hit (cgHartinfoRead r)
  else if addr = DM_ADDR_HALTSUM0 then c.hit (cgHaltsum0Read r)
  else if addr = DM_ADDR_SBCS then c.hit (cgSbcs r false)
  else c

/-- Step 1 of `write`. -/
def resolveRead (c : DebugCoverage) (t : JtagTxn) : DebugCoverage :=
  if c.pendingReadValid && t.dmiStatus.ne DMI_STAT_BUSY then
    { c.sampleRead t.dmiRdata with pendingReadValid := false }
  else c

/-- A read becomes the outstanding one. -/
def latchRead (c : DebugCoverage) (addr : BitVec 7) : DebugCoverage :=
  { c with pendingReadAddr := addr, pendingReadValid := true }

/-- The operand the type of a trigger is taken from: `data1` in a 64-bit transfer. -/
def triggerOperand (c : DebugCoverage) (w : BitVec 32) : BitVec 32 :=
  if w.extractLsb' 20 3 = 3#3 then c.lastData1Wr else c.lastData0Wr

/-- A write of `command`. -/
def sampleCommand (c : DebugCoverage) (w : BitVec 32) : DebugCoverage :=
  let regno := w.extractLsb' 0 16
  let c := c.hit (cgCommandWrite w)
  let c := if w.getLsbD 18 then c.hit (cgProgbuf false true) else c
  if w.getLsbD 17 && (triggerCsrOf regno).isSome then
    c.hit (cgTrigger regno (regno == 0x07A1#16 && w.getLsbD 16)
      ((c.triggerOperand w).extractLsb' 28 4))
  else c

/-- Step 2 of `write`. -/
def sampleRequest (c : DebugCoverage) (t : JtagTxn) : DebugCoverage :=
  let isWrite := t.dmiOp == DMI_WRITE
  let isRead := t.dmiOp == DMI_READ
  if t.dmiAddr = DM_ADDR_DMCONTROL ∧ isWrite then c.sampleDmcontrolWrite t.dmiWdata
  else if t.dmiAddr = DM_ADDR_DMSTATUS ∧ isRead then c.latchRead DM_ADDR_DMSTATUS
  else if t.dmiAddr = DM_ADDR_COMMAND ∧ isWrite then c.sampleCommand t.dmiWdata
  else if t.dmiAddr = DM_ADDR_ABSTRACTCS ∧ isRead then c.latchRead DM_ADDR_ABSTRACTCS
  else if t.dmiAddr = DM_ADDR_HARTINFO ∧ isRead then c.latchRead DM_ADDR_HARTINFO
  else if (DM_ADDR_DATA0 ≤ t.dmiAddr ∧ t.dmiAddr ≤ DM_ADDR_DATA11) ∧ (isRead || isWrite) then
    let c := c.hit (cgData0Access t.dmiOp)
    let c := if t.dmiAddr = DM_ADDR_DATA0 ∧ isWrite then { c with lastData0Wr := t.dmiWdata } else c
    if t.dmiAddr = DM_ADDR_DATA0 + 1 ∧ isWrite then { c with lastData1Wr := t.dmiWdata } else c
  else if (DM_ADDR_PROGBUF0 ≤ t.dmiAddr ∧ t.dmiAddr ≤ DM_ADDR_PROGBUF15) ∧ isWrite then
    c.hit (cgProgbuf true false)
  else if t.dmiAddr = DM_ADDR_SBCS ∧ isWrite then c.hit (cgSbcs (.ofBits t.dmiWdata) true)
  else if t.dmiAddr = DM_ADDR_SBCS ∧ isRead then c.latchRead DM_ADDR_SBCS
  else if (t.dmiAddr = DM_ADDR_SBADDRESS0 ∨ t.dmiAddr = DM_ADDR_SBDATA0) ∧ (isRead || isWrite) then
    c.hit (cgSbAccess t.dmiAddr t.dmiOp)
  else if t.dmiAddr = DM_ADDR_DMCS2 ∧ isWrite then c.hit (cgDmcs2Write t.dmiWdata)
  else if t.dmiAddr = DM_ADDR_HALTSUM0 ∧ isRead then c.latchRead DM_ADDR_HALTSUM0
  else c

/-- `write`: one record of the monitor. -/
def write (c : DebugCoverage) (t : JtagTxn) : DebugCoverage := (c.resolveRead t).sampleRequest t

/-- The coverage after the records `ts`. -/
def after (ts : List JtagTxn) : DebugCoverage := Runs.run write {} ts

theorem after_concat (ts : List JtagTxn) (t : JtagTxn) : after (ts ++ [t]) = (after ts).write t :=
  Runs.run_concat _ _ _ _

/-! ## The read pipeline -/

/-- The outstanding read. -/
def outstanding (c : DebugCoverage) : Option (BitVec 7) :=
  if c.pendingReadValid then some c.pendingReadAddr else none

/-- The part of the state that follows the reads. -/
def pipeline (c : DebugCoverage) : Bool × BitVec 7 × List (BitVec 7 × FourState 32) :=
  (c.pendingReadValid, c.pendingReadAddr, c.reads)

variable {c : DebugCoverage}

theorem sampleDmcontrolWrite_pipeline (w : BitVec 32) : (c.sampleDmcontrolWrite w).pipeline = c.pipeline := by
  unfold sampleDmcontrolWrite
  simp only
  split <;> rfl

theorem sampleDmstatusRead_pipeline (r : FourState 32) : (c.sampleDmstatusRead r).pipeline = c.pipeline := by
  unfold sampleDmstatusRead
  simp only
  repeat' split
  all_goals rfl

theorem sampleCommand_pipeline (w : BitVec 32) : (c.sampleCommand w).pipeline = c.pipeline := by
  unfold sampleCommand
  simp only
  repeat' split
  all_goals rfl

/-- A sampled response is recorded, and the register is left alone. -/
theorem sampleRead_pipeline (r : FourState 32) :
    (c.sampleRead r).pipeline =
      (c.pendingReadValid, c.pendingReadAddr,
        if tracked c.pendingReadAddr then c.reads ++ [(c.pendingReadAddr, r)] else c.reads) := by
  unfold sampleRead
  simp only
  split
  · rw [sampleDmstatusRead_pipeline]
    split <;> rfl
  · repeat' split
    all_goals rfl

/-- A request touches the register only if it asks for a read of a register that is sampled. -/
theorem sampleRequest_pipeline (t : JtagTxn) :
    (c.sampleRequest t).pipeline =
      if t.dmiOp = DMI_READ ∧ tracked t.dmiAddr = true then (true, t.dmiAddr, c.reads) else c.pipeline := by
  by_cases hop : t.dmiOp = DMI_READ
  · have hw : (DMI_READ == DMI_WRITE) = false := by decide
    simp only [sampleRequest, hop, hw, tracked, beq_self_eq_true, Bool.false_eq_true, and_false,
      and_true, if_false, Bool.or_false, Bool.or_eq_true, beq_iff_eq, true_and]
    by_cases h₁ : t.dmiAddr = DM_ADDR_DMSTATUS
    · simp [h₁, latchRead, pipeline]
    by_cases h₂ : t.dmiAddr = DM_ADDR_ABSTRACTCS
    · simp [h₂, latchRead, pipeline, DM_ADDR_ABSTRACTCS, DM_ADDR_DMSTATUS]
    by_cases h₃ : t.dmiAddr = DM_ADDR_HARTINFO
    · simp [h₃, latchRead, pipeline, DM_ADDR_ABSTRACTCS, DM_ADDR_DMSTATUS, DM_ADDR_HARTINFO]
    by_cases h₄ : t.dmiAddr = DM_ADDR_HALTSUM0
    · rw [h₄]; rfl
    by_cases h₅ : t.dmiAddr = DM_ADDR_SBCS
    · rw [h₅]; rfl
    simp only [h₁, h₂, h₃, h₄, h₅, if_false, or_self]
    repeat' split
    all_goals rfl
  · have hr : (t.dmiOp == DMI_READ) = false := beq_eq_false_iff_ne.mpr hop
    simp only [sampleRequest, hop, hr, Bool.false_eq_true, and_false, if_false, false_and, Bool.false_or]
    split
    · exact sampleDmcontrolWrite_pipeline _
    split
    · exact sampleCommand_pipeline _
    repeat' split
    all_goals rfl

/-- The response of a record that does not report busy is taken. -/
theorem resolveRead_of_ne {t : JtagTxn} (h : t.dmiStatus.ne DMI_STAT_BUSY = true) :
    (c.resolveRead t).outstanding = none ∧
      (c.resolveRead t).reads =
        c.reads ++ (c.outstanding.filter tracked).toList.map (fun addr => (addr, t.dmiRdata)) := by
  unfold resolveRead
  cases hv : c.pendingReadValid with
  | false => simp [outstanding, hv]
  | true =>
    have hpipe := sampleRead_pipeline (c := c) t.dmiRdata
    simp only [pipeline, Prod.mk.injEq] at hpipe
    cases ht : tracked c.pendingReadAddr <;> simp [outstanding, hv, h, hpipe.2.2, ht, Option.filter]

theorem resolveRead_of_busy {t : JtagTxn} (h : t.dmiStatus.ne DMI_STAT_BUSY = false) :
    c.resolveRead t = c := by
  rw [resolveRead, h, Bool.and_false, if_neg Bool.false_ne_true]

/-- The read that is outstanding after a record. -/
theorem write_outstanding (t : JtagTxn) :
    (c.write t).outstanding =
      if t.dmiOp = DMI_READ ∧ tracked t.dmiAddr = true then some t.dmiAddr
      else if t.dmiStatus.ne DMI_STAT_BUSY then none
      else c.outstanding := by
  have hpipe := sampleRequest_pipeline (c := c.resolveRead t) t
  have hout : ∀ d : DebugCoverage, d.outstanding = if d.pipeline.1 then some d.pipeline.2.1 else none :=
    fun _ => rfl
  rw [write, hout, hpipe]
  split
  · rfl
  · rw [← hout]
    cases hb : t.dmiStatus.ne DMI_STAT_BUSY with
    | true => rw [if_pos rfl, (resolveRead_of_ne hb).1]
    | false => rw [if_neg Bool.false_ne_true, resolveRead_of_busy hb]

/-- The response a record makes the model sample. -/
theorem write_reads (t : JtagTxn) :
    (c.write t).reads =
      c.reads ++
        if t.dmiStatus.ne DMI_STAT_BUSY then
          (c.outstanding.filter tracked).toList.map fun addr => (addr, t.dmiRdata)
        else [] := by
  have hpipe := congrArg (fun p => p.2.2) (sampleRequest_pipeline (c := c.resolveRead t) t)
  have hreads : (c.write t).reads = (c.resolveRead t).reads := by
    rw [write]
    refine hpipe.trans ?_
    split <;> rfl
  rw [hreads]
  cases hb : t.dmiStatus.ne DMI_STAT_BUSY with
  | true => rw [if_pos rfl, (resolveRead_of_ne hb).2]
  | false => rw [if_neg Bool.false_ne_true, resolveRead_of_busy hb, List.append_nil]

/-! ## Whole accesses -/

/-- One access: its request, and for a read the response. -/
def sampleAccess (c : DebugCoverage) : DmiAccess → DebugCoverage
  | .write addr data => c.sampleRequest { dmiOp := DMI_WRITE, dmiAddr := addr, dmiWdata := data }
  | .read addr word =>
    (c.sampleRequest { dmiOp := DMI_READ, dmiAddr := addr }).resolveRead
      { dmiStatus := .ofBits DMI_STAT_SUCCESS, dmiRdata := .ofBits word }

/-- The coverage after a stream of accesses. -/
def afterAccesses (as : List DmiAccess) : DebugCoverage := Runs.run sampleAccess {} as

theorem afterAccesses_concat (as : List DmiAccess) (a : DmiAccess) :
    afterAccesses (as ++ [a]) = (afterAccesses as).sampleAccess a := Runs.run_concat _ _ _ _

/-- The response to a read that was just requested. -/
theorem resolveRead_latchRead (addr : BitVec 7) (r : BitVec 32) :
    (c.latchRead addr).resolveRead { dmiStatus := .ofBits DMI_STAT_SUCCESS, dmiRdata := .ofBits r } =
      { (c.latchRead addr).sampleRead (.ofBits r) with pendingReadValid := false } := by
  have hne : (FourState.ofBits DMI_STAT_SUCCESS).ne DMI_STAT_BUSY = true := by decide
  rw [resolveRead, hne]
  rfl

theorem sampleAccess_dmstatus (r : BitVec 32) :
    c.sampleAccess (.read DM_ADDR_DMSTATUS r) =
      { (c.latchRead DM_ADDR_DMSTATUS).sampleRead (.ofBits r) with pendingReadValid := false } :=
  resolveRead_latchRead _ r

/-- Of a request only the operation and the address count, and of a write the data. -/
theorem sampleRequest_congr {t t' : JtagTxn} (hop : t.dmiOp = t'.dmiOp) (haddr : t.dmiAddr = t'.dmiAddr)
    (hdata : t'.dmiOp = DMI_WRITE → t.dmiWdata = t'.dmiWdata) : c.sampleRequest t = c.sampleRequest t' := by
  unfold sampleRequest
  rw [hop, haddr]
  by_cases hw : t'.dmiOp = DMI_WRITE
  · rw [hdata hw]
  · simp only [beq_eq_false_iff_ne.mpr hw, Bool.false_eq_true, and_false, if_false]

/-- A NOP asks for nothing. -/
theorem sampleRequest_nop {t : JtagTxn} (h : t.dmiOp = DMI_NOP) : c.sampleRequest t = c := by
  have hw : (DMI_NOP == DMI_WRITE) = false := by decide
  have hr : (DMI_NOP == DMI_READ) = false := by decide
  simp only [sampleRequest, h, hw, hr, Bool.or_self, Bool.false_eq_true, and_false, if_false]

/-- Nothing is taken from a shift while no read is outstanding. -/
theorem resolveRead_of_idle (h : c.pendingReadValid = false) (t : JtagTxn) : c.resolveRead t = c := by
  rw [resolveRead, h, Bool.false_and, if_neg Bool.false_ne_true]

theorem resolveRead_pendingReadValid {t : JtagTxn} (h : t.dmiStatus.ne DMI_STAT_BUSY = true) :
    (c.resolveRead t).pendingReadValid = false := by
  unfold resolveRead
  cases hv : c.pendingReadValid with
  | false => simpa using hv
  | true => rw [h, Bool.and_self, if_pos rfl]

/-- A busy poll changes nothing. -/
theorem run_polls {polls : List JtagTxn} (h : ∀ p ∈ polls, p.IsShift DMI_NOP DMI_STAT_BUSY) :
    Runs.run write c polls = c := by
  induction polls with
  | nil => rfl
  | cons p polls ih =>
    have hp := h p List.mem_cons_self
    have hbusy : p.dmiStatus.ne DMI_STAT_BUSY = false := by rw [hp.status, FourState.ne_ofBits]; rfl
    rw [Runs.run_cons, write, resolveRead_of_busy hbusy, sampleRequest_nop hp.op]
    exact ih fun q hq => h q (List.mem_cons_of_mem _ hq)

/-- **The shifts of an access.**  Between accesses no read is outstanding, and the shifts of one do what
the access does. -/
theorem run_performs {a : DmiAccess} {shifts : List JtagTxn} (h : Performs a shifts)
    (hc : c.pendingReadValid = false) :
    Runs.run write c shifts = c.sampleAccess a ∧ (c.sampleAccess a).pendingReadValid = false := by
  cases h with
  | @write t ht =>
    have heq : c.write t = c.sampleAccess (.write t.dmiAddr t.dmiWdata) := by
      rw [DebugCoverage.write, resolveRead_of_idle hc]
      exact sampleRequest_congr ht.op rfl fun _ => rfl
    refine ⟨heq, ?_⟩
    have hpipe := sampleRequest_pipeline (c := c)
      { dmiOp := DMI_WRITE, dmiAddr := t.dmiAddr, dmiWdata := t.dmiWdata }
    have hne : ¬ DMI_WRITE = DMI_READ := by decide
    rw [if_neg fun h => hne h.1] at hpipe
    exact (congrArg Prod.fst hpipe).trans hc
  | @read req resp polls word hreq hpolls hresp hword =>
    refine ⟨?_, resolveRead_pendingReadValid (by rw [FourState.ne_ofBits]; rfl)⟩
    have hwrite : c.write req = c.sampleRequest { dmiOp := DMI_READ, dmiAddr := req.dmiAddr } := by
      have hne : ¬ DMI_READ = DMI_WRITE := by decide
      rw [DebugCoverage.write, resolveRead_of_idle hc]
      exact sampleRequest_congr hreq.op rfl fun hop => absurd hop hne
    rw [Runs.run_cons, Runs.run_concat, hwrite, run_polls hpolls, DebugCoverage.write,
      sampleRequest_nop hresp.op, sampleAccess, resolveRead, resolveRead, hresp.status, hword]

/-- A stream of accesses can be followed access by access. -/
theorem after_carries {as : List DmiAccess} {ts : List JtagTxn} (h : Carries as ts) :
    after ts = afterAccesses as ∧ (afterAccesses as).pendingReadValid = false := by
  induction h with
  | nil => exact ⟨rfl, rfl⟩
  | @snoc as a ts shifts _ ha ih =>
    obtain ⟨hrun, hidle⟩ := run_performs ha ih.2
    rw [afterAccesses_concat]
    refine ⟨?_, hidle⟩
    rw [after, Runs.run_append, ← hrun, ← ih.1]
    rfl

end DebugCoverage

end RiscvDbg
