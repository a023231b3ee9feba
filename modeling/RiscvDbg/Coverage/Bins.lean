import Mathlib.Data.List.Induction
import RiscvDbg.Jtag.Records

/-!
# Coverage bins

The bins the two coverage models have in common: the external-debug covergroups (`cg_*`) and the
run-control contexts, and the accesses both models sample.

* `ExtBin`, `ContextBin` — a bin, named by its covergroup and coverpoint.
* `DmiAccess` — one successful access of the debugger, as the Python model is told about it; `writesTo`
  are the words written to one register.
* `Performs`, `Carries` — the shifts an access consists of, as the monitor reports them.
-/

set_option autoImplicit false

namespace RiscvDbg

/-! ## Bins -/

/-- What one `dmstatus` read shows of the selected hart (`ST_*`). -/
inductive HartObs where
  | halted
  | running
  | inReset
  | unavail
  | nonexistent
  | unknown
  deriving DecidableEq, Repr

/-- `cg_command_write.cp_regno_class`. -/
inductive RegnoClass where
  | gpr
  | csr
  deriving DecidableEq, Repr

/-- `cg_sb_access.cp_access`. -/
inductive SbAccess where
  | addrWrite
  | dataWrite
  | dataRead
  deriving DecidableEq, Repr

/-- `cg_trigger.cp_trigger_csr`. -/
inductive TriggerCsr where
  | tselect
  | tdata1
  | tdata2
  | tdata3
  | tinfo
  deriving DecidableEq, Repr

/-- `cg_trigger.cp_trigger_type`. -/
inductive TriggerType where
  | mcontrol
  | icount
  | itrigger
  | etrigger
  | mcontrol6
  | tmexttrigger
  deriving DecidableEq, Repr

/-- The bins of the external-debug covergroups.  A flag tells the two bins of a coverpoint apart. -/
inductive ExtBin where
  /-- `cg_command_write.cp_write.{read,write}` -/
  | commandWrite (write : Bool)
  /-- `cg_command_write.cp_regno_class.*` -/
  | regnoClass (c : RegnoClass)
  /-- `cg_abstractcs_read.cp_busy.{idle,busy}` -/
  | abstractcsBusy (busy : Bool)
  /-- `cg_abstractcs_read.cp_has_progbuf.present` -/
  | hasProgbuf
  /-- `cg_abstractcs_read.cp_has_data.present` -/
  | hasData
  /-- `cg_progbuf.cp_written.written` -/
  | progbufWritten
  /-- `cg_progbuf.cp_executed.executed` -/
  | progbufExecuted
  /-- `cg_sbcs.cp_readonaddr.{off,on}` -/
  | readonaddr (on : Bool)
  /-- `cg_sbcs.cp_sbbusy.idle` -/
  | sbbusyIdle
  /-- `cg_sb_access.cp_access.*` -/
  | sbAccess (a : SbAccess)
  /-- `cg_dmcs2_write.cp_hgselect.{halt_group,resume_group}` -/
  | hgselect (resume : Bool)
  /-- `cg_dmcs2_write.cp_grouptype.{halt,ext_trigger}` -/
  | grouptype (extTrigger : Bool)
  /-- `cg_dmcs2_write.cp_group.{ungrouped,grouped}` -/
  | group (grouped : Bool)
  /-- `cg_hartinfo_read.cp_dataaccess.observed` -/
  | dataaccess
  /-- `cg_haltsum0_read.cp_haltsum0.{none_halted,some_halted}` -/
  | haltsum0 (someHalted : Bool)
  /-- `cg_data0_access.cp_op.{read,write}` -/
  | data0Access (write : Bool)
  /-- `cg_trigger.cp_trigger_csr.*` -/
  | triggerCsr (c : TriggerCsr)
  /-- `cg_trigger.cp_trigger_type.*` -/
  | triggerType (t : TriggerType)
  deriving DecidableEq, Repr

/-- A change of the selected hart's state between two reads. -/
inductive Transition where
  | runningToHalted
  | haltedToRunning
  | runningToInReset
  | haltedToInReset
  | inResetToRunning
  | inResetToHalted
  deriving DecidableEq, Repr

/-- `resumereq` against the state last seen. -/
inductive ResumereqCtx where
  | whenHalted
  | whenRunning
  | whenInReset
  deriving DecidableEq, Repr

/-- `havereset` against `ackhavereset`. -/
inductive HaveresetCtx where
  | ackWhenSet
  | ackWhenClear
  | noackWhenSet
  deriving DecidableEq, Repr

/-- The context bins of run control. -/
inductive ContextBin where
  | transition (t : Transition)
  | resumereq (c : ResumereqCtx)
  | havereset (c : HaveresetCtx)
  /-- An edge of `ndmreset`, with the shadow of the halt-on-reset request. -/
  | ndmreset (assert rhr : Bool)
  deriving DecidableEq, Repr

/-- The one bin both models declare unreachable and do not count. -/
def ContextBin.excluded : ContextBin → Bool
  | .transition .haltedToInReset => true
  | _ => false

/-! ## Accesses -/

/-- A successful access: the word written, or the word read. -/
inductive DmiAccess where
  | write (addr : BitVec 7) (data : BitVec 32)
  | read (addr : BitVec 7) (word : BitVec 32)
  deriving DecidableEq, Repr

/-- The words written to a register, in order. -/
def writesTo (as : List DmiAccess) (addr : BitVec 7) : List (BitVec 32) :=
  as.filterMap fun
    | .write a w => if a = addr then some w else none
    | .read .. => none

theorem mem_writesTo {as : List DmiAccess} {addr : BitVec 7} {w : BitVec 32} :
    w ∈ writesTo as addr ↔ DmiAccess.write addr w ∈ as := by
  rw [writesTo, List.mem_filterMap]
  constructor
  · rintro ⟨a, ha, hw⟩
    cases a with
    | write a v =>
      obtain ⟨rfl, rfl⟩ : a = addr ∧ v = w := by simpa using hw
      exact ha
    | read a v => cases hw
  · intro h
    exact ⟨_, h, by simp⟩

/-- A DMI shift with this operation and status. -/
structure JtagTxn.IsShift (t : JtagTxn) (op status : BitVec 2) : Prop where
  ir : t.irVal = JTAG_DMI
  op : t.dmiOp = op
  status : t.dmiStatus = .ofBits status

/-- The shifts of one access.  A write is one shift (`jtag_dmi_write_seq`); a read is its request,
some polls that meet busy, and the poll that brings the word (`jtag_dmi_read_seq`). -/
inductive Performs : DmiAccess → List JtagTxn → Prop
  | write {t : JtagTxn} (h : t.IsShift DMI_WRITE DMI_STAT_SUCCESS) :
      Performs (.write t.dmiAddr t.dmiWdata) [t]
  | read {req resp : JtagTxn} {polls : List JtagTxn} {word : BitVec 32}
      (hreq : req.IsShift DMI_READ DMI_STAT_SUCCESS)
      (hpolls : ∀ p ∈ polls, p.IsShift DMI_NOP DMI_STAT_BUSY)
      (hresp : resp.IsShift DMI_NOP DMI_STAT_SUCCESS) (hword : resp.dmiRdata = .ofBits word) :
      Performs (.read req.dmiAddr word) (req :: (polls ++ [resp]))

/-- The shifts of a stream of accesses, one after the other. -/
inductive Carries : List DmiAccess → List JtagTxn → Prop
  | nil : Carries [] []
  | snoc {as : List DmiAccess} {a : DmiAccess} {ts shifts : List JtagTxn} (h : Carries as ts)
      (ha : Performs a shifts) : Carries (as ++ [a]) (ts ++ shifts)

/-- A DMI shift that reports success. -/
def dmiShift (op : BitVec 2) (addr : BitVec 7) (data word : BitVec 32) : JtagTxn where
  irVal := JTAG_DMI
  dmiOp := op
  dmiAddr := addr
  dmiWdata := data
  dmiStatus := .ofBits DMI_STAT_SUCCESS
  dmiRdata := .ofBits word

theorem dmiShift_isShift (op : BitVec 2) (addr : BitVec 7) (data word : BitVec 32) :
    (dmiShift op addr data word).IsShift op DMI_STAT_SUCCESS := ⟨rfl, rfl, rfl⟩

/-- The shifts of an access that meets no busy. -/
def DmiAccess.shifts : DmiAccess → List JtagTxn
  | .write addr data => [dmiShift DMI_WRITE addr data 0]
  | .read addr word => [dmiShift DMI_READ addr 0 0, dmiShift DMI_NOP 0 0 word]

theorem DmiAccess.performs_shifts (a : DmiAccess) : Performs a a.shifts := by
  cases a with
  | write addr data => exact .write (dmiShift_isShift DMI_WRITE addr data 0)
  | read addr word =>
    have hpolls : ∀ p ∈ ([] : List JtagTxn), p.IsShift DMI_NOP DMI_STAT_BUSY := nofun
    exact .read (dmiShift_isShift DMI_READ addr 0 0) hpolls (dmiShift_isShift DMI_NOP 0 0 word) rfl

/-- Every stream of accesses is carried by some shifts. -/
theorem carries_shifts (as : List DmiAccess) : Carries as (as.flatMap DmiAccess.shifts) := by
  induction as using List.reverseRecOn with
  | nil => exact .nil
  | append_singleton as a ih =>
    rw [List.flatMap_append, List.flatMap_singleton]
    exact .snoc ih a.performs_shifts

end RiscvDbg
