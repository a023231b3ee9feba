import RiscvDbg.Lib.Dicts
import RiscvDbg.Predictor.Config

/-!
# System Bus Access in the Python reference model

Model of the system-bus half of `DMPredictor`: the `sbcs` fields, `sbaddress0/1`, `sbdata0/1` and
the shadow of the words written to memory, which is keyed by `sbaddress0` alone.
-/

set_option autoImplicit false

namespace RiscvDbg

/-- The system-bus registers and the memory shadow. -/
structure SystemBus where
  sbreadonaddr : Bool
  sbaccess : Nat
  sbautoincrement : Bool
  sbreadondata : Bool
  shadowMem : Dict Nat Nat
  sbaddress0 : Nat
  sbaddress1 : Nat
  /-- The `sbreadonaddr` bit of the last `sbcs` write. -/
  sbcsReadOnAddrArmed : Bool
  sbdata0PendingValid : Bool
  sbdata0PendingValue : Nat
  sbdata1 : Nat
  sbdata1Known : Bool

namespace SystemBus

/-- The registers at construction, before the power-on reset. -/
def init : SystemBus where
  sbreadonaddr := false
  sbaccess := 0
  sbautoincrement := false
  sbreadondata := false
  shadowMem := .empty
  sbaddress0 := 0
  sbaddress1 := 0
  sbcsReadOnAddrArmed := false
  sbdata0PendingValid := false
  sbdata0PendingValue := 0
  sbdata1 := 0
  sbdata1Known := true

/-- The system-bus part of `_reset_declared_regs`; the memory shadow survives, and so does
`sbcs_read_on_addr_armed`. -/
def resetDeclaredRegs (cfg : DeclaredConfig) (sb : SystemBus) : SystemBus :=
  { sb with
    sbreadonaddr := false
    sbaccess := cfg.sbaccessReset
    sbautoincrement := false
    sbreadondata := false
    sbaddress0 := 0
    sbaddress1 := 0
    sbdata0PendingValid := true
    sbdata0PendingValue := 0
    sbdata1 := 0
    sbdata1Known := true }

/-- `_write_sbcs`. -/
def writeSbcs (cfg : DeclaredConfig) (sb : SystemBus) (value : Nat) : SystemBus :=
  { sb with
    sbcsReadOnAddrArmed := value.testBit 20
    sbreadonaddr := value.testBit 20
    sbaccess := if cfg.sbaccessWritable then (value >>> 17) &&& 0x7 else sb.sbaccess
    sbautoincrement := value.testBit 16
    sbreadondata := value.testBit 15 }

/-- `_sba_autoincrement`. -/
def sbaAutoincrement (cfg : DeclaredConfig) (sb : SystemBus) : SystemBus :=
  if !sb.sbautoincrement then sb
  else
    let a := ((sb.sbaddress1 <<< 32) ||| sb.sbaddress0) + (1 <<< sb.sbaccess)
    { sb with
      sbaddress0 := a &&& MASK32
      sbaddress1 := if cfg.sbasize > 32 then (a >>> 32) &&& MASK32 else sb.sbaddress1 }

/-- `_sba_arm_read`. -/
def sbaArmRead (sb : SystemBus) (address : Nat) : SystemBus :=
  match sb.shadowMem.get? address with
  | some v =>
    { sb with sbdata1Known := false, sbdata0PendingValid := true, sbdata0PendingValue := v }
  | none => { sb with sbdata1Known := false, sbdata0PendingValid := false }

/-- `_write_sbaddress0`. -/
def writeSbaddress0 (cfg : DeclaredConfig) (sb : SystemBus) (value : Nat) : SystemBus :=
  let sb := { sb with sbaddress0 := value }
  if sb.sbcsReadOnAddrArmed then (sb.sbaArmRead value).sbaAutoincrement cfg else sb

/-- `_write_sbdata0`. -/
def writeSbdata0 (cfg : DeclaredConfig) (sb : SystemBus) (value : Nat) : SystemBus :=
  sbaAutoincrement cfg { sb with shadowMem := sb.shadowMem.set sb.sbaddress0 value }

/-- A write of `sbdata1`. -/
def writeSbdata1 (sb : SystemBus) (value : Nat) : SystemBus :=
  { sb with sbdata1 := value, sbdata1Known := true }

/-- `_sbdata0_read_effects`. -/
def sbdata0ReadEffects (cfg : DeclaredConfig) (sb : SystemBus) : SystemBus :=
  if sb.sbreadondata then (sb.sbaArmRead sb.sbaddress0).sbaAutoincrement cfg else sb

end SystemBus

end RiscvDbg
