import Mathlib.Data.List.AList
import RiscvDbg.Coverage.Declared
import RiscvDbg.Coverage.Python
import RiscvDbg.Lib.Outcomes

/-!
# The books of the coverage model

Model of `DebugCoverageModel` (`model/coverage.py`) with all its bins: `_add`, `_exclude` and `_hit`, the
sampling functions with the names they build, and `report`.  The dictionaries are association lists; where
the source iterates over one it sorts the keys, so that their order does not matter.

* `Books` — the declared bins and exclusions with their counts; `sampled` records the keys that were hit.
* `Books.hit` — `_hit`, which raises for a key that is not declared.
* `CoverageModel.sample` — one call of the observer.
* `Books.report` — the populations of `report`.
-/

set_option autoImplicit false

namespace RiscvDbg

/-! ## Hits -/

/-- A bin or an exclusion, without its texts. -/
structure Bin where
  group : String
  name : String
  deriving DecidableEq, Repr

def Bin.key (b : Bin) : String := binKey b.group b.name

/-- `_bins` and `_counts`, `_excluded` and `_excluded_hits`, and the keys hit so far. -/
structure Books where
  bins : AList (fun _ : String => Bin)
  counts : AList (fun _ : String => Nat)
  excluded : AList (fun _ : String => Bin)
  excludedHits : AList (fun _ : String => Nat)
  sampled : List String

namespace Books

def empty : Books := ⟨∅, ∅, ∅, ∅, []⟩

/-- `_add`. -/
def add (b : Books) (group name : String) : Books :=
  let bin : Bin := ⟨group, name⟩
  { b with bins := b.bins.insert bin.key bin, counts := b.counts.insert bin.key 0 }

/-- `_exclude`. -/
def exclude (b : Books) (group name : String) : Books :=
  let bin : Bin := ⟨group, name⟩
  { b with excluded := b.excluded.insert bin.key bin, excludedHits := b.excludedHits.insert bin.key 0 }

/-- A declaration. -/
def declare (b : Books) : BinDeclaration → Books
  | .bin group name => b.add group name
  | .exclusion group name => b.exclude group name

/-- The books after `_build_bins`. -/
def declared (supportsStickyunavail : Bool) : Books := (buildBins supportsStickyunavail).foldl declare empty

/-- `_hit`: the log line of an excluded bin looks up its reason. -/
def hit (b : Books) (group name : String) : Except String Books :=
  let key := binKey group name
  let b := { b with sampled := b.sampled ++ [key] }
  match b.counts.lookup key with
  | some n => .ok { b with counts := b.counts.insert key (n + 1) }
  | none =>
    match b.excludedHits.lookup key, b.excluded.lookup key with
    | some n, some _ => .ok { b with excludedHits := b.excludedHits.insert key (n + 1) }
    | some _, none => .error key
    | none, _ => .error ("coverage: no bin or exclusion declared for '" ++ key ++ "'")

end Books

/-! ## The model -/

/-- `DebugCoverageModel`, with its inferred state. -/
structure CoverageModel extends Books where
  numHarts : Int
  state : HartObs := .unknown
  stateHartsel : Option Nat := none
  hartsel : Nat := 0
  havereset : Option Bool := none
  resetHaltreq : Dict Nat Bool := .empty
  ndmreset : Bool := false
  stagedData0 : Nat := 0
  stagedData1 : Nat := 0

/-- The texts of `ST_*`. -/
def HartObs.text : HartObs → String
  | .unknown => "unknown"
  | .halted => "halted"
  | .running => "running"
  | .inReset => "in_reset"
  | .unavail => "unavailable"
  | .nonexistent => "nonexistent"

def DMSTATUS_VERSION_0_11 : Nat := 1
def DMSTATUS_VERSION_CUSTOM : Nat := 15
def HARTSEL_MAX_WIDTH : Nat := 20

namespace CoverageModel

/-- `DebugCoverageModel(num_harts, supports_stickyunavail)`. -/
def init (numHarts : Int) (supportsStickyunavail : Bool) : CoverageModel :=
  { Books.declared supportsStickyunavail with numHarts := numHarts }

/-- `_hit`. -/
def hit (m : CoverageModel) (group name : String) : Except String CoverageModel := do
  let books ← m.toBooks.hit group name
  return { m with toBooks := books }

/-- `_hit` under a condition. -/
def hitIf (m : CoverageModel) (c : Bool) (group name : String) : Except String CoverageModel :=
  if c then m.hit group name else .ok m

/-- The one-bit fields of a word. -/
def hitFields (m : CoverageModel) (pre : String) (r : Register) (word : Nat) : Except String CoverageModel :=
  (r.decode word).foldlM (fun m fv =>
    if fv.1.width ≠ 1 then .ok m else m.hit (pre ++ fv.1.name) (toString fv.2)) m

/-! ## External debug -/

/-- The transfer of a `command`, by the register it is about. -/
def sampleTransfer (m : CoverageModel) (write regno aarsize : Nat) : Except String CoverageModel := do
  let m ← m.hit "cg_command_write" (if write ≠ 0 then "cp_write.write" else "cp_write.read")
  let m ← (if regno ≤ 0x0FFF then m.hit "cg_command_write" "cp_regno_class.csr"
    else m.hitIf (0x1000 ≤ regno ∧ regno ≤ 0x101F) "cg_command_write" "cp_regno_class.gpr")
  match TRIGGER_CSRS.lookup regno with
  | none => .ok m
  | some csr =>
    let m ← m.hit "cg_trigger" ("cp_trigger_csr." ++ csr)
    if regno = 0x07A1 ∧ write ≠ 0 then
      let operand := if aarsize = 3 then m.stagedData1 else m.stagedData0
      match TRIGGER_TYPES.lookup (operand >>> 28 &&& 0xF) with
      | some name => m.hit "cg_trigger" ("cp_trigger_type." ++ name)
      | none => .ok m
    else .ok m

/-- A write of `command`. -/
def sampleCommand (m : CoverageModel) (w : Nat) : Except String CoverageModel := do
  let transfer := w >>> 17 &&& 1
  let write := w >>> 16 &&& 1
  let regno := w &&& 0xFFFF
  let aarsize := w >>> 20 &&& 0x7
  let m ← (if transfer ≠ 0 then m.sampleTransfer write regno aarsize else .ok m)
  m.hitIf (w >>> 18 &&& 1 ≠ 0) "cg_progbuf" "cp_executed.executed"

/-- A read of `abstractcs`. -/
def sampleAbstractcs (m : CoverageModel) (r : Nat) : Except String CoverageModel := do
  let m ← m.hit "cg_abstractcs_read" (if r >>> 12 &&& 1 ≠ 0 then "cp_busy.busy" else "cp_busy.idle")
  let m ← m.hitIf (r >>> 24 &&& 0x1F ≠ 0) "cg_abstractcs_read" "cp_has_progbuf.present"
  m.hitIf (r >>> 0 &&& 0xF ≠ 0) "cg_abstractcs_read" "cp_has_data.present"

/-- An access of `sbcs`, in either direction. -/
def sampleSbcs (m : CoverageModel) (op : Option ObserverOp) (w r : Nat) : Except String CoverageModel := do
  let word := if op = some .write then w else r
  let m ← m.hit "cg_sbcs" (if word >>> 20 &&& 1 ≠ 0 then "cp_readonaddr.on" else "cp_readonaddr.off")
  m.hitIf (op = some .read ∧ ¬(r >>> 21 &&& 1 ≠ 0)) "cg_sbcs" "cp_sbbusy.idle"

/-- A write of `dmcs2`. -/
def sampleDmcs2 (m : CoverageModel) (w : Nat) : Except String CoverageModel := do
  let m ← m.hit "cg_dmcs2_write" (if w >>> 2 &&& 1 ≠ 0 then "cp_hgselect.resume_group" else "cp_hgselect.halt_group")
  let m ← m.hit "cg_dmcs2_write" (if w >>> 11 &&& 1 ≠ 0 then "cp_grouptype.ext_trigger" else "cp_grouptype.halt")
  m.hit "cg_dmcs2_write" (if w >>> 2 &&& 0x1F ≠ 0 then "cp_group.grouped" else "cp_group.ungrouped")

/-- `_sample_external_debug`; an operation that is neither a read nor a write is `none`. -/
def sampleExternalDebug (m : CoverageModel) (op : Option ObserverOp) (addr : Int) (data readback : Option Nat) :
    Except String CoverageModel :=
  let w := data.getD 0
  let r := readback.getD 0
  let m :=
    if op = some .write ∧ addr = 0x04 then { m with stagedData0 := w }
    else if op = some .write ∧ addr = 0x04 + 1 then { m with stagedData1 := w }
    else m
  if (0x04 ≤ addr ∧ addr ≤ 0x0F) ∧ op.isSome then
    m.hit "cg_data0_access" (if op = some .write then "cp_op.write" else "cp_op.read")
  else if op = some .write ∧ addr = 0x17 then m.sampleCommand w
  else if op = some .read ∧ addr = 0x16 then m.sampleAbstractcs r
  else if op = some .write ∧ 0x20 ≤ addr ∧ addr ≤ 0x2F then m.hit "cg_progbuf" "cp_written.written"
  else if addr = 0x38 then m.sampleSbcs op w r
  else if addr = 0x39 ∧ op = some .write then m.hit "cg_sb_access" "cp_access.addr_write"
  else if addr = 0x3C ∧ op.isSome then
    m.hit "cg_sb_access" (if op = some .write then "cp_access.data_write" else "cp_access.data_read")
  else if op = some .write ∧ addr = 0x32 then m.sampleDmcs2 w
  else if op = some .read ∧ addr = 0x12 then m.hit "cg_hartinfo_read" "cp_dataaccess.observed"
  else if op = some .read ∧ addr = 0x40 then
    m.hit "cg_haltsum0_read" (if r ≠ 0 then "cp_haltsum0.some_halted" else "cp_haltsum0.none_halted")
  else .ok m

/-! ## Run control -/

/-- The index a write of `dmcontrol` selects. -/
def hitHartsel (m : CoverageModel) (hartsel : Nat) : Except String CoverageModel := do
  let m ← m.hit "dmcontrol.hartsel" (if hartsel = 0 then "zero" else "nonzero")
  let m ← m.hitIf (hartsel = m.numHarts - 1) "dmcontrol.hartsel" "max_implemented"
  let m ← m.hitIf (m.numHarts ≤ hartsel) "dmcontrol.hartsel" "nonexistent"
  let m ← m.hitIf (0x3FF < hartsel) "dmcontrol.hartsel" "hartselhi_nonzero"
  m.hitIf (hartsel = (1 <<< HARTSEL_MAX_WIDTH) - 1) "dmcontrol.hartsel" "all_ones"

/-- The cross of `resumereq` with the state last seen. -/
def hitResumereq (m : CoverageModel) (word : Nat) (selectionChanged : Bool) : Except String CoverageModel :=
  if DMCONTROL.resumereq.extract word ≠ 0 ∧ selectionChanged = false then
    match m.state with
    | .halted => m.hit "cross.resumereq_x_prior_state" "resumereq_when_halted"
    | .running => m.hit "cross.resumereq_x_prior_state" "resumereq_when_running"
    | .inReset => m.hit "cross.resumereq_x_prior_state" "resumereq_when_in_reset"
    | _ => .ok m
  else .ok m

/-- The cross of `havereset` with `ackhavereset`. -/
def hitHavereset (m : CoverageModel) (word : Nat) (selectionChanged : Bool) : Except String CoverageModel :=
  match m.havereset, selectionChanged with
  | some havereset, false => do
    let ack := DMCONTROL.ackhavereset.extract word
    let m ← (if ack ≠ 0 then
        m.hit "cross.havereset_x_ackhavereset" (if havereset then "ack_when_set" else "ack_when_clear")
      else m.hitIf havereset "cross.havereset_x_ackhavereset" "noack_when_set")
    return if ack ≠ 0 then { m with havereset := some false } else m
  | _, _ => .ok m

/-- The cross of the edges of `ndmreset` with the shadow of the halt-on-reset request. -/
def hitNdmreset (m : CoverageModel) (word hartsel : Nat) : Except String CoverageModel := do
  let ndmreset := DMCONTROL.ndmreset.test word
  let rhr := (m.resetHaltreq.getD hartsel false).toNat
  let m ← (if ndmreset && !m.ndmreset then m.hit "cross.ndmreset_x_reset_haltreq" ("assert_rhr" ++ toString rhr)
    else m.hitIf (!ndmreset && m.ndmreset) "cross.ndmreset_x_reset_haltreq" ("deassert_rhr" ++ toString rhr))
  return { m with ndmreset := ndmreset }

/-- `_sample_dmcontrol_write`. -/
def sampleDmcontrolWrite (m : CoverageModel) (word : Nat) : Except String CoverageModel := do
  let m ← m.hitFields "dmcontrol." DMCONTROL word
  let hartsel := hartselOf word
  let m ← m.hitHartsel hartsel
  let m ← m.hit "cross.haltreq_x_resumereq"
    ("h" ++ toString (DMCONTROL.haltreq.extract word) ++ "_r" ++ toString (DMCONTROL.resumereq.extract word))
  let nMutex : Nat := (DMCONTROL_MUTEX_BITS.map (·.extract word)).sum
  let m ← m.hit "cross.dmcontrol_mutex_bits"
    (if nMutex = 0 then "none" else if nMutex = 1 then "one" else "multiple")
  let selectionChanged := hartsel != m.hartsel
  let m := { m with hartsel := hartsel }
  let m ← m.hitResumereq word selectionChanged
  let m ← m.hitHavereset word selectionChanged
  let m :=
    if DMCONTROL.clrresethaltreq.extract word ≠ 0 then
      { m with resetHaltreq := m.resetHaltreq.set hartsel false }
    else if DMCONTROL.setresethaltreq.extract word ≠ 0 then
      { m with resetHaltreq := m.resetHaltreq.set hartsel true }
    else m
  if DMCONTROL.dmactive.extract word = 0 then
    return { m with resetHaltreq := .empty, ndmreset := false, state := .unknown, havereset := none }
  else m.hitNdmreset word hartsel

/-- The names of the versions. -/
def versionBin? (version : Nat) : Option String :=
  [(DMSTATUS_VERSION_NONE, "none"), (DMSTATUS_VERSION_0_11, "v0_11"), (DMSTATUS_VERSION_0_13, "v0_13"),
    (DMSTATUS_VERSION_1_0, "v1_0"), (DMSTATUS_VERSION_CUSTOM, "custom")].lookup version

/-- The bin of a version, if it has one. -/
def hitVersion (m : CoverageModel) (version : Nat) : Except String CoverageModel :=
  match versionBin? version with
  | some name => m.hit "dmstatus.version" name
  | none => .ok m

/-- The pairs of a word of `dmstatus`. -/
def hitAllAny (m : CoverageModel) (word : Nat) : Except String CoverageModel :=
  DMSTATUS_ALL_ANY_PAIRS.foldlM (fun m pair =>
    m.hit (allAnyGroup pair.1)
      ("all" ++ toString (pair.1.extract word) ++ "_any" ++ toString (pair.2.extract word))) m

/-- `_sample_dmstatus_read`. -/
def sampleDmstatusRead (m : CoverageModel) (word : Nat) : Except String CoverageModel := do
  let m ← m.hitFields "dmstatus." DMSTATUS word
  let m ← m.hitVersion (DMSTATUS.version.extract word)
  let m ← m.hitAllAny word
  let m := { m with havereset := some (DMSTATUS.anyhavereset.test word) }
  let state := DebugCoverageModel.stateFromDmstatus word m.ndmreset
  let prev := m.state
  let prevHartsel := m.stateHartsel
  let m := { m with state := state, stateHartsel := some m.hartsel }
  if prevHartsel ≠ some m.hartsel then return m
  else if prev ∈ [.unknown, .unavail, .nonexistent] ∨ state ∈ [.unknown, .unavail, .nonexistent] then return m
  else if prev ≠ state then m.hit "cross.hart_state_transition" (prev.text ++ "_to_" ++ state.text)
  else return m

/-! ## Calls -/

/-- A call of `sample`: the operation is `none` if it is neither `OP_READ` nor `OP_WRITE`. -/
structure SampleCall where
  op : Option ObserverOp
  addr : Int
  data : Option Nat
  readback : Option Nat

/-- `sample`. -/
def sample (m : CoverageModel) (c : SampleCall) : Except String CoverageModel :=
  if c.op = some .write ∧ c.addr = DMCONTROL.address then do
    let m ← m.hit "dmi_access" "write:dmcontrol"
    m.sampleDmcontrolWrite (c.data.getD 0)
  else if c.op = some .read ∧ c.addr = DMCONTROL.address then m.hit "dmi_access" "read:dmcontrol"
  else if c.op = some .read ∧ c.addr = DMSTATUS.address then do
    let m ← m.hit "dmi_access" "read:dmstatus"
    m.sampleDmstatusRead (c.readback.getD 0)
  else if c.op = some .write ∧ c.addr = DMSTATUS.address then m.hit "dmi_access" "write:dmstatus"
  else m.sampleExternalDebug c.op c.addr c.data c.readback

/-- A sequence of calls. -/
def sampleAll (m : CoverageModel) (calls : List SampleCall) : Except String CoverageModel := calls.foldlM sample m

end CoverageModel

/-! ## The report -/

/-- The populations of `report`, and the numbers of its summary. -/
structure CoverageReport where
  counts : List (String × Nat)
  hit : List (String × Nat)
  unhit : List String
  excluded : List String
  excludedHits : List String
  deriving DecidableEq, Repr

namespace Books

/-- `sorted(d.items())`. -/
def sortedItems {β : Type} (d : AList (fun _ : String => β)) : List (String × β) :=
  (d.entries.map fun e => (e.1, e.2)).mergeSort fun a b => decide (a.1 ≤ b.1)

/-- The bins whose count is 0, with the lookup `self._counts[k]`. -/
def unhitOf (b : Books) : List String → Except String (List String)
  | [] => .ok []
  | k :: ks =>
    match b.counts.lookup k with
    | none => .error k
    | some n => do
      let rest ← b.unhitOf ks
      return if n = 0 then k :: rest else rest

/-- `report`, without the texts of the bins and the percentage. -/
def report (b : Books) : Except String CoverageReport := do
  let unhit ← b.unhitOf ((sortedItems b.bins).map Prod.fst)
  return {
    counts := sortedItems b.counts
    hit := (sortedItems b.counts).filter fun e => decide (0 < e.2)
    unhit := unhit
    excluded := (sortedItems b.excluded).map Prod.fst
    excludedHits := ((sortedItems b.excludedHits).filter fun e => decide (0 < e.2)).map Prod.fst }

end Books

end RiscvDbg
