import RiscvDbg.Registers

/-!
# Declared configuration of the Python reference model

Model of `DeclaredConfig` and of the constructor arguments of `DMPredictor`
(`model/predictor.py`), with the DMI addresses that module names.

`Params` are the run-control parameters: the constructor sets them and `set_config` overwrites
them from the declared configuration (`DeclaredConfig.params`).
-/

set_option autoImplicit false

namespace RiscvDbg

/-! ## DMI addresses beyond dmcontrol and dmstatus -/

def ADDR_DATA0 : Nat := 0x04
def ADDR_DATA11 : Nat := 0x0F
def ADDR_HARTINFO : Nat := 0x12
def ADDR_HAWINDOWSEL : Nat := 0x14
def ADDR_ABSTRACTCS : Nat := 0x16
def ADDR_COMMAND : Nat := 0x17
def ADDR_ABSTRACTAUTO : Nat := 0x18
def ADDR_NEXTDM : Nat := 0x1D
def ADDR_PROGBUF0 : Nat := 0x20
def ADDR_PROGBUF15 : Nat := 0x2F
def ADDR_SBCS : Nat := 0x38
def ADDR_SBADDRESS0 : Nat := 0x39
def ADDR_SBDATA0 : Nat := 0x3C
def ADDR_HALTSUM0 : Nat := 0x40
def ADDR_HALTSUM1 : Nat := 0x13
def ADDR_HALTSUM2 : Nat := 0x34
def ADDR_HALTSUM3 : Nat := 0x35
def ADDR_HAWINDOW : Nat := 0x15
def ADDR_AUTHDATA : Nat := 0x30
def ADDR_DMCS2 : Nat := 0x32
def ADDR_SBADDRESS1 : Nat := 0x3A
def ADDR_SBADDRESS2 : Nat := 0x3B
def ADDR_SBADDRESS3 : Nat := 0x37
def ADDR_SBDATA1 : Nat := 0x3D
def ADDR_SBDATA2 : Nat := 0x3E
def ADDR_SBDATA3 : Nat := 0x3F

/-- Register number of GPR x0. -/
def GPR_X0_REGNO : Nat := 0x1000
/-- Register number of `dcsr`. -/
def DCSR_REGNO : Nat := 0x07B0
def DCSR_STEP_BIT : Nat := 2

def MASK32 : Nat := 0xFFFF_FFFF

theorem and_MASK32 (n : Nat) : n &&& MASK32 = n % 2 ^ 32 := Nat.and_two_pow_sub_one_eq_mod n 32

/-- The trigger CSRs (0x7A0-0x7AF) legalize what is written to them, so the last write is not a
prediction. -/
def readsBackAsWritten (regno : Nat) : Bool := !(0x07A0 ≤ regno && regno ≤ 0x07AF)

/-! ## Configurations -/

/-- Run-control parameters of `DMPredictor`, with the constructor's defaults. -/
structure Params where
  numHarts : Nat := 1
  version : Nat := DMSTATUS_VERSION_0_13
  authenticated : Bool := true
  impebreak : Bool := false
  hasresethaltreq : Bool := true
  supportsHartreset : Bool := true
  supportsHasel : Bool := false
  resumeackReset : Bool := false
  stickyunavail : Bool := false
  haveresetPoweron : Bool := false
  deriving DecidableEq, Repr

/-- The declared implementation, field for field `dm_cfg_t`. -/
structure DeclaredConfig where
  sbaEnable : Bool := false
  abstractautoEnable : Bool := false
  hartarrayEnable : Bool := false
  authenticationEnable : Bool := false
  haltgroupsEnable : Bool := false
  progbufReadable : Bool := false
  haltsumGroupsPresent : Bool := false
  numHarts : Nat := 1
  version : Nat := DMSTATUS_VERSION_0_13
  authenticated : Bool := false
  impebreak : Bool := false
  hasresethaltreq : Bool := false
  stickyunavail : Bool := false
  haveresetPoweron : Bool := false
  supportsHartreset : Bool := false
  supportsHasel : Bool := false
  resumeackReset : Bool := false
  progbufsize : Nat := 0
  datacount : Nat := 0
  relaxedprivReset : Bool := false
  nscratch : Nat := 0
  dataaccess : Bool := false
  datasize : Nat := 0
  dataaddr : Nat := 0
  sbversion : Nat := 0
  sbasize : Nat := 0
  sbaccessReset : Nat := 0
  sbaccessWritable : Bool := false
  sbaccess128 : Bool := false
  sbaccess64 : Bool := false
  sbaccess32 : Bool := false
  sbaccess16 : Bool := false
  sbaccess8 : Bool := false
  nextdm : Nat := 0

/-- The run-control parameters a declared configuration carries. -/
def DeclaredConfig.params (c : DeclaredConfig) : Params where
  numHarts := c.numHarts
  version := c.version
  authenticated := c.authenticated
  impebreak := c.impebreak
  hasresethaltreq := c.hasresethaltreq
  supportsHartreset := c.supportsHartreset
  supportsHasel := c.supportsHasel
  resumeackReset := c.resumeackReset
  stickyunavail := c.stickyunavail
  haveresetPoweron := c.haveresetPoweron

/-- Every number fits the width `dm_cfg_t` gives its field. -/
structure DeclaredConfig.FitsWidths (c : DeclaredConfig) : Prop where
  numHarts : c.numHarts < 2 ^ 32
  version : c.version < 2 ^ 4
  progbufsize : c.progbufsize < 2 ^ 5
  datacount : c.datacount < 2 ^ 4
  nscratch : c.nscratch < 2 ^ 4
  datasize : c.datasize < 2 ^ 4
  dataaddr : c.dataaddr < 2 ^ 12
  sbversion : c.sbversion < 2 ^ 3
  sbasize : c.sbasize < 2 ^ 7
  sbaccessReset : c.sbaccessReset < 2 ^ 3
  nextdm : c.nextdm < 2 ^ 32

end RiscvDbg
