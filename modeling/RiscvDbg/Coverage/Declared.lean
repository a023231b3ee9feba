import RiscvDbg.Coverage.Bins
import RiscvDbg.Registers

/-!
# Declared bins

The bins and exclusions `DebugCoverageModel` declares (`_build_bins` in `model/coverage.py`).

* `BinDeclaration` — a call of `_add` or `_exclude`, without the texts that go with it.
* `buildBins` — the declarations in their order; they depend on the configuration only in whether
  `stickyunavail` can be 1.
* `declaredBins`, `declaredExclusions` — the keys.
* `declared_disjoint` — **no key is declared both ways.**
-/

set_option autoImplicit false

namespace RiscvDbg

/-- `f"{group}.{name}"`. -/
def binKey (group name : String) : String := group ++ "." ++ name

/-- A call of `_add` or `_exclude`. -/
inductive BinDeclaration where
  | bin (group name : String)
  | exclusion (group name : String)
  deriving DecidableEq, Repr

/-- The key of a bin. -/
def BinDeclaration.bin? : BinDeclaration → Option String
  | .bin group name => some (binKey group name)
  | .exclusion _ _ => none

/-- The key of an exclusion. -/
def BinDeclaration.exclusion? : BinDeclaration → Option String
  | .bin _ _ => none
  | .exclusion group name => some (binKey group name)

/-- Several bins of one group. -/
def addBins (group : String) (names : List String) : List BinDeclaration := names.map (.bin group)

@[simp] theorem bin_mem_addBins {group group' name : String} {names : List String} :
    .bin group' name ∈ addBins group names ↔ group' = group ∧ name ∈ names := by
  simp [addBins, eq_comm, and_comm]

@[simp] theorem exclusion_not_mem_addBins {group group' name : String} {names : List String} :
    .exclusion group' name ∉ addBins group names := by
  simp [addBins]

/-- `str.removeprefix`. -/
def removeprefix (pre s : String) : String :=
  if pre.toList.isPrefixOf s.toList then String.ofList (s.toList.drop pre.length) else s

/-! ## Run control -/

def buildDmiAccessBins : List BinDeclaration :=
  [.bin "dmi_access" "read:dmcontrol", .bin "dmi_access" "write:dmcontrol", .bin "dmi_access" "read:dmstatus",
    .exclusion "dmi_access" "write:dmstatus"]

def buildDmcontrolFieldBins : List BinDeclaration :=
  (DMCONTROL.fields.filter (·.width = 1)).flatMap fun f =>
    [.bin ("dmcontrol." ++ f.name) "0", .bin ("dmcontrol." ++ f.name) "1"]

def buildHartselBins : List BinDeclaration :=
  addBins "dmcontrol.hartsel" ["zero", "nonzero", "max_implemented", "nonexistent", "hartselhi_nonzero", "all_ones"]

/-- `out_of_slice`: values of fields that no run-control stimulus can bring about. -/
def outOfSlice : List (String × String) :=
  [("impebreak", "1"), ("authenticated", "0"), ("authbusy", "1"), ("confstrptrvalid", "1"), ("allunavail", "1"),
    ("anyunavail", "1")]

/-- One value of a field of `dmstatus`. -/
def dmstatusFieldBin (supportsStickyunavail : Bool) (f : Field) (val : String) : BinDeclaration :=
  if (f.name, val) ∈ outOfSlice then .exclusion ("dmstatus." ++ f.name) val
  else if f.name = "stickyunavail" ∧ val = "1" ∧ supportsStickyunavail = false then
    .exclusion ("dmstatus." ++ f.name) "1"
  else .bin ("dmstatus." ++ f.name) val

def buildDmstatusFieldBins (supportsStickyunavail : Bool) : List BinDeclaration :=
  ((DMSTATUS.fields.filter (·.width = 1)).flatMap fun f =>
    ["0", "1"].map (dmstatusFieldBin supportsStickyunavail f)) ++
  [.exclusion "dmstatus.version" "none", .bin "dmstatus.version" "v0_13", .bin "dmstatus.version" "v1_0",
    .exclusion "dmstatus.version" "v0_11", .exclusion "dmstatus.version" "custom"]

/-- The group of a pair of `dmstatus` fields. -/
def allAnyGroup (all : Field) : String := "dmstatus.all_any." ++ removeprefix "all" all.name

def buildAllAnyBins : List BinDeclaration :=
  DMSTATUS_ALL_ANY_PAIRS.flatMap fun (all, _) =>
    [.bin (allAnyGroup all) "all0_any0",
      if removeprefix "all" all.name = "unavail" then .exclusion (allAnyGroup all) "all1_any1"
      else .bin (allAnyGroup all) "all1_any1",
      .exclusion (allAnyGroup all) "all0_any1", .exclusion (allAnyGroup all) "all1_any0"]

def buildCrossBins : List BinDeclaration := List.flatten
  [addBins "cross.haltreq_x_resumereq" ["h0_r0", "h1_r0", "h0_r1", "h1_r1"],
    addBins "cross.hart_state_transition" ["running_to_halted", "halted_to_running", "running_to_in_reset"],
    [.exclusion "cross.hart_state_transition" "halted_to_in_reset"],
    addBins "cross.hart_state_transition" ["in_reset_to_running", "in_reset_to_halted"],
    addBins "cross.havereset_x_ackhavereset" ["ack_when_set", "ack_when_clear", "noack_when_set"],
    addBins "cross.ndmreset_x_reset_haltreq" ["assert_rhr0", "assert_rhr1", "deassert_rhr0", "deassert_rhr1"],
    addBins "cross.resumereq_x_prior_state"
      ["resumereq_when_halted", "resumereq_when_running", "resumereq_when_in_reset"],
    addBins "cross.dmcontrol_mutex_bits" ["none", "one", "multiple"]]

/-! ## External debug -/

/-- `_TRIGGER_CSRS`. -/
def TRIGGER_CSRS : List (Nat × String) :=
  [(0x07A0, "tselect"), (0x07A1, "tdata1"), (0x07A2, "tdata2"), (0x07A3, "tdata3"), (0x07A4, "tinfo")]

/-- `_TRIGGER_TYPES`. -/
def TRIGGER_TYPES : List (Nat × String) :=
  [(2, "mcontrol"), (3, "icount"), (4, "itrigger"), (5, "etrigger"), (6, "mcontrol6"), (7, "tmexttrigger")]

def buildExternalDebugBins : List BinDeclaration := List.flatten
  [addBins "cg_command_write" ["cp_write.read", "cp_write.write"],
    addBins "cg_command_write" ["cp_regno_class.gpr", "cp_regno_class.csr"],
    addBins "cg_abstractcs_read" ["cp_busy.idle", "cp_busy.busy"],
    addBins "cg_abstractcs_read" ["cp_has_progbuf.present", "cp_has_data.present"],
    addBins "cg_progbuf" ["cp_written.written", "cp_executed.executed"],
    addBins "cg_sbcs" ["cp_readonaddr.off", "cp_readonaddr.on"],
    addBins "cg_sbcs" ["cp_sbbusy.idle"],
    addBins "cg_sb_access" ["cp_access.addr_write", "cp_access.data_write", "cp_access.data_read"],
    addBins "cg_dmcs2_write" ["cp_hgselect.halt_group", "cp_hgselect.resume_group", "cp_grouptype.halt",
      "cp_grouptype.ext_trigger", "cp_group.ungrouped", "cp_group.grouped"],
    addBins "cg_hartinfo_read" ["cp_dataaccess.observed"],
    addBins "cg_haltsum0_read" ["cp_haltsum0.none_halted", "cp_haltsum0.some_halted"],
    addBins "cg_data0_access" ["cp_op.read", "cp_op.write"],
    addBins "cg_trigger" (TRIGGER_CSRS.map fun c => "cp_trigger_csr." ++ c.2),
    addBins "cg_trigger" (TRIGGER_TYPES.map fun t => "cp_trigger_type." ++ t.2),
    ["cg_abstract_cmd", "cg_sba", "cg_debug_entry", "cg_step_external", "cg_hart_mode"].map
      (.exclusion · "(whole covergroup)")]

/-! ## All of them -/

def buildBins (supportsStickyunavail : Bool) : List BinDeclaration := List.flatten
  [buildDmiAccessBins, buildDmcontrolFieldBins, buildHartselBins, buildDmstatusFieldBins supportsStickyunavail,
    buildAllAnyBins, buildCrossBins, buildExternalDebugBins]

/-- The keys of `_bins`. -/
def declaredBins (supportsStickyunavail : Bool) : List String :=
  (buildBins supportsStickyunavail).filterMap BinDeclaration.bin?

/-- The keys of `_excluded`. -/
def declaredExclusions (supportsStickyunavail : Bool) : List String :=
  (buildBins supportsStickyunavail).filterMap BinDeclaration.exclusion?

/-- **No key is declared both ways.** -/
theorem declared_disjoint (supportsStickyunavail : Bool) :
    ∀ k ∈ declaredBins supportsStickyunavail, k ∉ declaredExclusions supportsStickyunavail := by
  cases supportsStickyunavail <;> decide +kernel

end RiscvDbg
