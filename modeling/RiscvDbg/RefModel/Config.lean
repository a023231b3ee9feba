import RiscvDbg.Lib.Dicts
import RiscvDbg.Predictor.Config

/-!
# Declared configuration of the SystemVerilog reference model

Model of `dm_cfg_t` (`sv/model/dm_config.sv`), of the constructor arguments of `dm_ref_model`, and of
the DMI addresses of `dm_defines_pkg`.

* `DmCfg` — the struct, with a bit vector for every packed field.
* `DmCfg.ofDeclared` / `DmCfg.declared` — to and from the configuration of the Python model;
  `declared_ofDeclared` says that nothing is lost when every field fits its width.
* `ParamsS` — the run-control parameters kept outside the struct.
-/

set_option autoImplicit false

namespace RiscvDbg

/-! ## DMI addresses -/

def DM_ADDR_DATA0 : BitVec 7 := 0x04#7
def DM_ADDR_DATA11 : BitVec 7 := 0x0f#7
def DM_ADDR_DMCONTROL : BitVec 7 := 0x10#7
def DM_ADDR_DMSTATUS : BitVec 7 := 0x11#7
def DM_ADDR_HARTINFO : BitVec 7 := 0x12#7
def DM_ADDR_HAWINDOWSEL : BitVec 7 := 0x14#7
def DM_ADDR_HAWINDOW : BitVec 7 := 0x15#7
def DM_ADDR_ABSTRACTCS : BitVec 7 := 0x16#7
def DM_ADDR_COMMAND : BitVec 7 := 0x17#7
def DM_ADDR_ABSTRACTAUTO : BitVec 7 := 0x18#7
def DM_ADDR_NEXTDM : BitVec 7 := 0x1d#7
def DM_ADDR_PROGBUF0 : BitVec 7 := 0x20#7
def DM_ADDR_PROGBUF15 : BitVec 7 := 0x2f#7
def DM_ADDR_AUTHDATA : BitVec 7 := 0x30#7
def DM_ADDR_DMCS2 : BitVec 7 := 0x32#7
def DM_ADDR_SBCS : BitVec 7 := 0x38#7
def DM_ADDR_SBADDRESS0 : BitVec 7 := 0x39#7
def DM_ADDR_SBDATA0 : BitVec 7 := 0x3c#7
def DM_ADDR_HALTSUM0 : BitVec 7 := 0x40#7
def A_HALTSUM1 : BitVec 7 := 0x13#7
def A_HALTSUM2 : BitVec 7 := 0x34#7
def A_HALTSUM3 : BitVec 7 := 0x35#7
def A_SBADDRESS1 : BitVec 7 := 0x3A#7
def A_SBADDRESS2 : BitVec 7 := 0x3B#7
def A_SBADDRESS3 : BitVec 7 := 0x37#7
def A_SBDATA1 : BitVec 7 := 0x3D#7
def A_SBDATA2 : BitVec 7 := 0x3E#7
def A_SBDATA3 : BitVec 7 := 0x3F#7

/-- `VERSION_1_0`. -/
def VERSION_1_0 : BitVec 4 := 3#4

/-! ## Configurations -/

/-- `dm_cfg_t`; a struct that is not assigned is all zero. -/
structure DmCfg where
  sbaEnable : Bool := false
  abstractautoEnable : Bool := false
  hartarrayEnable : Bool := false
  authenticationEnable : Bool := false
  haltgroupsEnable : Bool := false
  progbufReadable : Bool := false
  haltsumGroupsPresent : Bool := false
  numHarts : BitVec 32 := 0
  version : BitVec 4 := 0
  authenticated : Bool := false
  impebreak : Bool := false
  hasresethaltreq : Bool := false
  stickyunavail : Bool := false
  haveresetPoweron : Bool := false
  supportsHartreset : Bool := false
  supportsHasel : Bool := false
  resumeackReset : Bool := false
  progbufsize : BitVec 5 := 0
  datacount : BitVec 4 := 0
  relaxedprivReset : Bool := false
  nscratch : BitVec 4 := 0
  dataaccess : Bool := false
  datasize : BitVec 4 := 0
  dataaddr : BitVec 12 := 0
  sbversion : BitVec 3 := 0
  sbasize : BitVec 7 := 0
  sbaccessReset : BitVec 3 := 0
  sbaccessWritable : Bool := false
  sbaccess128 : Bool := false
  sbaccess64 : Bool := false
  sbaccess32 : Bool := false
  sbaccess16 : Bool := false
  sbaccess8 : Bool := false
  nextdm : BitVec 32 := 0

namespace DmCfg

/-- The configuration the Python model is given for the same implementation. -/
def declared (c : DmCfg) : DeclaredConfig where
  sbaEnable := c.sbaEnable
  abstractautoEnable := c.abstractautoEnable
  hartarrayEnable := c.hartarrayEnable
  authenticationEnable := c.authenticationEnable
  haltgroupsEnable := c.haltgroupsEnable
  progbufReadable := c.progbufReadable
  haltsumGroupsPresent := c.haltsumGroupsPresent
  numHarts := c.numHarts.toNat
  version := c.version.toNat
  authenticated := c.authenticated
  impebreak := c.impebreak
  hasresethaltreq := c.hasresethaltreq
  stickyunavail := c.stickyunavail
  haveresetPoweron := c.haveresetPoweron
  supportsHartreset := c.supportsHartreset
  supportsHasel := c.supportsHasel
  resumeackReset := c.resumeackReset
  progbufsize := c.progbufsize.toNat
  datacount := c.datacount.toNat
  relaxedprivReset := c.relaxedprivReset
  nscratch := c.nscratch.toNat
  dataaccess := c.dataaccess
  datasize := c.datasize.toNat
  dataaddr := c.dataaddr.toNat
  sbversion := c.sbversion.toNat
  sbasize := c.sbasize.toNat
  sbaccessReset := c.sbaccessReset.toNat
  sbaccessWritable := c.sbaccessWritable
  sbaccess128 := c.sbaccess128
  sbaccess64 := c.sbaccess64
  sbaccess32 := c.sbaccess32
  sbaccess16 := c.sbaccess16
  sbaccess8 := c.sbaccess8
  nextdm := c.nextdm.toNat

/-- The struct for a configuration of the Python model. -/
def ofDeclared (c : DeclaredConfig) : DmCfg where
  sbaEnable := c.sbaEnable
  abstractautoEnable := c.abstractautoEnable
  hartarrayEnable := c.hartarrayEnable
  authenticationEnable := c.authenticationEnable
  haltgroupsEnable := c.haltgroupsEnable
  progbufReadable := c.progbufReadable
  haltsumGroupsPresent := c.haltsumGroupsPresent
  numHarts := .ofNat 32 c.numHarts
  version := .ofNat 4 c.version
  authenticated := c.authenticated
  impebreak := c.impebreak
  hasresethaltreq := c.hasresethaltreq
  stickyunavail := c.stickyunavail
  haveresetPoweron := c.haveresetPoweron
  supportsHartreset := c.supportsHartreset
  supportsHasel := c.supportsHasel
  resumeackReset := c.resumeackReset
  progbufsize := .ofNat 5 c.progbufsize
  datacount := .ofNat 4 c.datacount
  relaxedprivReset := c.relaxedprivReset
  nscratch := .ofNat 4 c.nscratch
  dataaccess := c.dataaccess
  datasize := .ofNat 4 c.datasize
  dataaddr := .ofNat 12 c.dataaddr
  sbversion := .ofNat 3 c.sbversion
  sbasize := .ofNat 7 c.sbasize
  sbaccessReset := .ofNat 3 c.sbaccessReset
  sbaccessWritable := c.sbaccessWritable
  sbaccess128 := c.sbaccess128
  sbaccess64 := c.sbaccess64
  sbaccess32 := c.sbaccess32
  sbaccess16 := c.sbaccess16
  sbaccess8 := c.sbaccess8
  nextdm := .ofNat 32 c.nextdm

/-- A configuration that fits the struct is carried over unchanged. -/
theorem declared_ofDeclared {c : DeclaredConfig} (hc : c.FitsWidths) : (ofDeclared c).declared = c := by
  obtain ⟨h₁, h₂, h₃, h₄, h₅, h₆, h₇, h₈, h₉, h₁₀, h₁₁⟩ := hc
  unfold declared ofDeclared
  simp only [BitVec.toNat_ofNat]
  rw [Nat.mod_eq_of_lt h₁, Nat.mod_eq_of_lt h₂, Nat.mod_eq_of_lt h₃, Nat.mod_eq_of_lt h₄,
    Nat.mod_eq_of_lt h₅, Nat.mod_eq_of_lt h₆, Nat.mod_eq_of_lt h₇, Nat.mod_eq_of_lt h₈,
    Nat.mod_eq_of_lt h₉, Nat.mod_eq_of_lt h₁₀, Nat.mod_eq_of_lt h₁₁]

end DmCfg

/-- The run-control parameters of `dm_ref_model`, with the constructor's defaults. -/
structure ParamsS where
  numHarts : BitVec 32 := 1#32
  version : BitVec 4 := 2#4
  authenticated : Bool := true
  impebreak : Bool := false
  hasresethaltreq : Bool := true
  supportsHartreset : Bool := true
  supportsHasel : Bool := false
  resumeackReset : Bool := false
  stickyunavail : Bool := false
  haveresetPoweron : Bool := false

/-- The parameters `set_config` copies out of the struct. -/
def DmCfg.params (c : DmCfg) : ParamsS where
  numHarts := c.numHarts
  version := c.version
  authenticated := c.authenticated
  impebreak := c.impebreak
  hasresethaltreq := c.hasresethaltreq
  supportsHartreset := c.supportsHartreset
  supportsHasel := c.supportsHasel
  resumeackReset := c.resumeackReset
  stickyunavail := c.stickyunavail
  haveresetPoweron := c.haveresetPoweron

/-- The parameters as the Python model holds them. -/
def ParamsS.abs (p : ParamsS) : Params where
  numHarts := p.numHarts.toNat
  version := p.version.toNat
  authenticated := p.authenticated
  impebreak := p.impebreak
  hasresethaltreq := p.hasresethaltreq
  supportsHartreset := p.supportsHartreset
  supportsHasel := p.supportsHasel
  resumeackReset := p.resumeackReset
  stickyunavail := p.stickyunavail
  haveresetPoweron := p.haveresetPoweron

end RiscvDbg
