import RiscvDbg.Coverage.Bins
import RiscvDbg.Lib.Dicts
import RiscvDbg.Lib.Runs
import RiscvDbg.Registers

/-!
# The Python coverage model

Model of `DebugCoverageModel` (`model/coverage.py`): the external-debug bins of
`_sample_external_debug` and the context crosses of `_sample_dmcontrol_write` and
`_sample_dmstatus_read`.

* `DebugCoverageModel.sample` — one access, as an observer of the transport reports it.
* `DebugCoverageModel.after` — a stream of accesses.
-/

set_option autoImplicit false

namespace RiscvDbg

/-- State of `DebugCoverageModel`, with the bins hit so far. -/
structure DebugCoverageModel where
  state : HartObs := .unknown
  stateHartsel : Option Nat := none
  hartsel : Nat := 0
  havereset : Option Bool := none
  resetHaltreq : Dict Nat Bool := .empty
  ndmreset : Bool := false
  stagedData0 : Nat := 0
  stagedData1 : Nat := 0
  extHits : List ExtBin := []
  ctxHits : List ContextBin := []
  excludedHits : List ContextBin := []

/-- `OP_READ`, `OP_WRITE` of the observer. -/
inductive ObserverOp where
  | read
  | write
  deriving DecidableEq, Repr

namespace DebugCoverageModel

/-! ## Hits -/

/-- `_hit`, for bins of an external-debug group. -/
def hit (c : DebugCoverageModel) (bins : List ExtBin) : DebugCoverageModel :=
  { c with extHits := c.extHits ++ bins }

/-- `_hit`, for a context bin; an excluded one is kept apart. -/
def hitContext (c : DebugCoverageModel) (bin : ContextBin) : DebugCoverageModel :=
  if bin.excluded then { c with excludedHits := c.excludedHits ++ [bin] }
  else { c with ctxHits := c.ctxHits ++ [bin] }

/-! ## External debug -/

/-- `_TRIGGER_CSRS.get`. -/
def triggerCsr? (regno : Nat) : Option TriggerCsr :=
  if regno = 0x07A0 then some .tselect
  else if regno = 0x07A1 then some .tdata1
  else if regno = 0x07A2 then some .tdata2
  else if regno = 0x07A3 then some .tdata3
  else if regno = 0x07A4 then some .tinfo
  else none

/-- `_TRIGGER_TYPES.get`. -/
def triggerType? (ttype : Nat) : Option TriggerType :=
  if ttype = 2 then some .mcontrol
  else if ttype = 3 then some .icount
  else if ttype = 4 then some .itrigger
  else if ttype = 5 then some .etrigger
  else if ttype = 6 then some .mcontrol6
  else if ttype = 7 then some .tmexttrigger
  else none

/-- `cp_regno_class`. -/
def regnoClass? (regno : Nat) : Option RegnoClass :=
  if regno ≤ 0x0FFF then some .csr
  else if 0x1000 ≤ regno ∧ regno ≤ 0x101F then some .gpr
  else none

/-- The bins of a write of `command`. -/
def commandBins (c : DebugCoverageModel) (w : Nat) : List ExtBin :=
  let transfer := w.testBit 17
  let write := w.testBit 16
  let regno := w &&& 0xFFFF
  let aarsize := w >>> 20 &&& 0x7
  (if transfer then
    .commandWrite write :: (((regnoClass? regno).map .regnoClass).toList ++
      (((triggerCsr? regno).map .triggerCsr).toList ++
        (if (triggerCsr? regno).isSome ∧ regno = 0x07A1 ∧ write then
          let operand := if aarsize = 3 then c.stagedData1 else c.stagedData0
          ((triggerType? (operand >>> 28 &&& 0xF)).map .triggerType).toList
        else [])))
  else []) ++
  (if w.testBit 18 then [.progbufExecuted] else [])

/-- The operand registers a command is decoded against. -/
def stage (c : DebugCoverageModel) (op : ObserverOp) (addr w : Nat) : DebugCoverageModel :=
  if op = .write ∧ addr = 0x04 then { c with stagedData0 := w }
  else if op = .write ∧ addr = 0x04 + 1 then { c with stagedData1 := w }
  else c

/-- The bins of an access, by its address. -/
def externalBins (c : DebugCoverageModel) (op : ObserverOp) (addr w r : Nat) : List ExtBin :=
  if 0x04 ≤ addr ∧ addr ≤ 0x0F then [.data0Access (op = .write)]
  else if op = .write ∧ addr = 0x17 then c.commandBins w
  else if op = .read ∧ addr = 0x16 then
    .abstractcsBusy (r.testBit 12) ::
      ((if r >>> 24 &&& 0x1F ≠ 0 then [.hasProgbuf] else []) ++
        (if r >>> 0 &&& 0xF ≠ 0 then [.hasData] else []))
  else if op = .write ∧ 0x20 ≤ addr ∧ addr ≤ 0x2F then [.progbufWritten]
  else if addr = 0x38 then
    let word := if op = .write then w else r
    .readonaddr (word.testBit 20) :: (if op = .read ∧ r.testBit 21 = false then [.sbbusyIdle] else [])
  else if addr = 0x39 ∧ op = .write then [.sbAccess .addrWrite]
  else if addr = 0x3C then [.sbAccess (if op = .write then .dataWrite else .dataRead)]
  else if op = .write ∧ addr = 0x32 then
    [.hgselect (w.testBit 2), .grouptype (w.testBit 11), .group (w >>> 2 &&& 0x1F != 0)]
  else if op = .read ∧ addr = 0x12 then [.dataaccess]
  else if op = .read ∧ addr = 0x40 then [.haltsum0 (r != 0)]
  else []

/-- `_sample_external_debug`. -/
def sampleExternalDebug (c : DebugCoverageModel) (op : ObserverOp) (addr w r : Nat) : DebugCoverageModel :=
  let c := c.stage op addr w
  c.hit (c.externalBins op addr w r)

/-! ## Run control -/

/-- The cross of `resumereq` with the state last seen. -/
def sampleResumereq (c : DebugCoverageModel) (word : Nat) (selectionChanged : Bool) : DebugCoverageModel :=
  if DMCONTROL.resumereq.test word && !selectionChanged then
    match c.state with
    | .halted => c.hitContext (.resumereq .whenHalted)
    | .running => c.hitContext (.resumereq .whenRunning)
    | .inReset => c.hitContext (.resumereq .whenInReset)
    | _ => c
  else c

/-- The cross of `havereset` with `ackhavereset`. -/
def sampleHavereset (c : DebugCoverageModel) (word : Nat) (selectionChanged : Bool) : DebugCoverageModel :=
  match c.havereset with
  | none => c
  | some havereset =>
    if selectionChanged then c
    else
      let ack := DMCONTROL.ackhavereset.test word
      let c :=
        if ack then c.hitContext (.havereset (if havereset then .ackWhenSet else .ackWhenClear))
        else if havereset then c.hitContext (.havereset .noackWhenSet)
        else c
      if ack then { c with havereset := some false } else c

/-- The cross of the edges of `ndmreset` with the shadow of the halt-on-reset request. -/
def sampleNdmreset (c : DebugCoverageModel) (word hartsel : Nat) : DebugCoverageModel :=
  let ndmreset := DMCONTROL.ndmreset.test word
  let rhr := c.resetHaltreq.getD hartsel false
  let c :=
    if ndmreset && !c.ndmreset then c.hitContext (.ndmreset true rhr)
    else if !ndmreset && c.ndmreset then c.hitContext (.ndmreset false rhr)
    else c
  { c with ndmreset := ndmreset }

/-- `_sample_dmcontrol_write`, as far as the context crosses go. -/
def sampleDmcontrolWrite (c : DebugCoverageModel) (word : Nat) : DebugCoverageModel :=
  let hartsel := hartselOf word
  let selectionChanged := hartsel != c.hartsel
  let c := { c with hartsel := hartsel }
  let c := c.sampleResumereq word selectionChanged
  let c := c.sampleHavereset word selectionChanged
  let c :=
    if DMCONTROL.clrresethaltreq.test word then
      { c with resetHaltreq := c.resetHaltreq.set hartsel false }
    else if DMCONTROL.setresethaltreq.test word then
      { c with resetHaltreq := c.resetHaltreq.set hartsel true }
    else c
  if DMCONTROL.dmactive.test word = false then
    { c with resetHaltreq := .empty, ndmreset := false, state := .unknown, havereset := none }
  else c.sampleNdmreset word hartsel

/-- `_state_from_dmstatus`. -/
def stateFromDmstatus (word : Nat) (ndmreset : Bool) : HartObs :=
  if DMSTATUS.anynonexistent.test word then .nonexistent
  else if DMSTATUS.anyunavail.test word then .unavail
  else if DMSTATUS.anyhalted.test word then .halted
  else if DMSTATUS.anyrunning.test word && ndmreset then .inReset
  else if DMSTATUS.anyrunning.test word then .running
  else .inReset

/-- The bin `{prev}_to_{state}`, for two states between which transitions are counted. -/
def transition? : HartObs → HartObs → Option Transition
  | .running, .halted => some .runningToHalted
  | .running, .inReset => some .runningToInReset
  | .halted, .running => some .haltedToRunning
  | .halted, .inReset => some .haltedToInReset
  | .inReset, .running => some .inResetToRunning
  | .inReset, .halted => some .inResetToHalted
  | _, _ => none

/-- `_sample_dmstatus_read`, as far as the context crosses go. -/
def sampleDmstatusRead (c : DebugCoverageModel) (word : Nat) : DebugCoverageModel :=
  let c := { c with havereset := some (DMSTATUS.anyhavereset.test word) }
  let state := stateFromDmstatus word c.ndmreset
  let prev := c.state
  let prevHartsel := c.stateHartsel
  let c := { c with state := state, stateHartsel := some c.hartsel }
  if prevHartsel ≠ some c.hartsel then c
  else
    match transition? prev state with
    | some t => c.hitContext (.transition t)
    | none => c

/-! ## Streams -/

/-- `sample`. -/
def sample (c : DebugCoverageModel) (op : ObserverOp) (addr data readback : Nat) : DebugCoverageModel :=
  if op = .write ∧ addr = DMCONTROL.address then c.sampleDmcontrolWrite data
  else if op = .read ∧ addr = DMCONTROL.address then c
  else if op = .read ∧ addr = DMSTATUS.address then c.sampleDmstatusRead readback
  else if op = .write ∧ addr = DMSTATUS.address then c
  else c.sampleExternalDebug op addr data readback

/-- One access of the debugger; the word of the other direction is absent and counts as 0. -/
def sampleAccess (c : DebugCoverageModel) : DmiAccess → DebugCoverageModel
  | .write addr data => c.sample .write addr.toNat data.toNat 0
  | .read addr word => c.sample .read addr.toNat 0 word.toNat

/-- The coverage after a stream of accesses. -/
def after (as : List DmiAccess) : DebugCoverageModel := Runs.run sampleAccess {} as

theorem after_concat (as : List DmiAccess) (a : DmiAccess) :
    after (as ++ [a]) = (after as).sampleAccess a := Runs.run_concat _ _ _ _

/-! ## Run control leaves the external-debug part alone -/

/-- The part of the state the external-debug groups are sampled from and into. -/
def external (c : DebugCoverageModel) : Nat × Nat × List ExtBin := (c.stagedData0, c.stagedData1, c.extHits)

variable (c : DebugCoverageModel)

@[simp] theorem hitContext_external (bin : ContextBin) : (c.hitContext bin).external = c.external := by
  unfold hitContext
  split <;> rfl

theorem sampleResumereq_external (word : Nat) (changed : Bool) :
    (c.sampleResumereq word changed).external = c.external := by
  unfold sampleResumereq
  repeat' split
  all_goals simp

theorem sampleHavereset_external (word : Nat) (changed : Bool) :
    (c.sampleHavereset word changed).external = c.external := by
  have hset : ∀ (d : DebugCoverageModel) (v : Option Bool), { d with havereset := v }.external = d.external :=
    fun _ _ => rfl
  unfold sampleHavereset
  simp only
  repeat' split
  all_goals simp [hset]

theorem sampleNdmreset_external (word hartsel : Nat) :
    (c.sampleNdmreset word hartsel).external = c.external := by
  have hset : ∀ (d : DebugCoverageModel) (v : Bool), { d with ndmreset := v }.external = d.external :=
    fun _ _ => rfl
  unfold sampleNdmreset
  simp only [hset]
  repeat' split
  all_goals simp

theorem sampleDmcontrolWrite_external (word : Nat) : (c.sampleDmcontrolWrite word).external = c.external := by
  have hrhr : ∀ (d : DebugCoverageModel) (v : Dict Nat Bool), { d with resetHaltreq := v }.external = d.external :=
    fun _ _ => rfl
  have hreq : ∀ changed : Bool,
      ((({ c with hartsel := hartselOf word }).sampleResumereq word changed).sampleHavereset word
        changed).external = c.external := by
    intro changed
    rw [sampleHavereset_external, sampleResumereq_external]
    rfl
  unfold sampleDmcontrolWrite
  simp only
  split
  · show DebugCoverageModel.external (if _ then _ else _) = _
    split_ifs
    · exact hreq _
    · exact hreq _
    · exact hreq _
  · rw [sampleNdmreset_external]
    split_ifs
    · exact hreq _
    · exact hreq _
    · exact hreq _

theorem sampleDmstatusRead_external (word : Nat) : (c.sampleDmstatusRead word).external = c.external := by
  unfold sampleDmstatusRead
  simp only
  split
  · rfl
  · split
    · rw [hitContext_external]
      rfl
    · rfl

end DebugCoverageModel

end RiscvDbg
