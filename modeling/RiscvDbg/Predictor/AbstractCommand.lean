import RiscvDbg.Lib.Dicts
import RiscvDbg.Predictor.Config

/-!
# Abstract commands in the Python reference model

Model of the abstract-command half of `DMPredictor`: the `data*`, `progbuf*` and `abstractauto`
registers, the last command, and the shadow of the registers that commands have written.

* `executeCommand` — one execution of an Access Register command: the upper word of a 64-bit
  transfer, the lower word, then the effect of `postexec` on the shadow.
* `writeBuffer`, `observeRead`, `writeCommand` — the accesses that may run a command.

The value last written to `data0` (`stagedData0`) and the value a read of `data0` is predicted
to return (`data0PendingValue`) are separate variables, as in the source.
-/

set_option autoImplicit false

namespace RiscvDbg

def isData (addr : Nat) : Bool := ADDR_DATA0 ≤ addr && addr ≤ ADDR_DATA11

def isProgbuf (addr : Nat) : Bool := ADDR_PROGBUF0 ≤ addr && addr ≤ ADDR_PROGBUF15

theorem isData_iff (addr : Nat) : isData addr = true ↔ 4 ≤ addr ∧ addr ≤ 15 := by
  rw [isData, Bool.and_eq_true, decide_eq_true_iff, decide_eq_true_iff]
  rfl

theorem isProgbuf_iff (addr : Nat) : isProgbuf addr = true ↔ 32 ≤ addr ∧ addr ≤ 47 := by
  rw [isProgbuf, Bool.and_eq_true, decide_eq_true_iff, decide_eq_true_iff]
  rfl

/-! ## Fields of a command word -/

namespace Command

def cmdtype (value : Nat) : Nat := (value >>> 24) &&& 0xFF
def aarsize (value : Nat) : Nat := (value >>> 20) &&& 0x7
def postexec (value : Nat) : Bool := value.testBit 18
def transfer (value : Nat) : Bool := value.testBit 17
def write (value : Nat) : Bool := value.testBit 16
def regno (value : Nat) : Nat := value &&& 0xFFFF

/-- The commands `_execute_command` does not return from at once. -/
def accepted (value : Nat) : Bool := cmdtype value == 0 && aarsize value ≤ 3

end Command

/-- The abstract-command registers and the register shadow. -/
structure AbstractCommand where
  abstractauto : Nat
  shadowRegs : Dict Nat Nat
  shadowHi : Dict Nat Nat
  stagedData0 : Nat
  stagedData1 : Nat
  data0PendingValid : Bool
  data0PendingValue : Nat
  /-- `data1` to `data11`; entry 0 is not used. -/
  dataQ : List Nat
  dataKnown : List Bool
  progbufQ : List Nat
  lastCommand : Nat

namespace AbstractCommand

/-- The registers at construction, before the power-on reset. -/
def init : AbstractCommand where
  abstractauto := 0
  shadowRegs := .empty
  shadowHi := .empty
  stagedData0 := 0
  stagedData1 := 0
  data0PendingValid := false
  data0PendingValue := 0
  dataQ := List.replicate 12 0
  dataKnown := List.replicate 12 true
  progbufQ := List.replicate 16 0
  lastCommand := 0

/-- The abstract-command part of `_reset_declared_regs`; the shadow survives. -/
def resetDeclaredRegs (ac : AbstractCommand) : AbstractCommand :=
  { ac with
    abstractauto := 0
    stagedData0 := 0
    stagedData1 := 0
    data0PendingValid := true
    data0PendingValue := 0
    dataQ := List.replicate 12 0
    dataKnown := List.replicate 12 true
    progbufQ := List.replicate 16 0
    lastCommand := 0 }

/-- Upper word of a transfer: moved only by a 64-bit command. -/
def transferHi (write : Bool) (regno aarsize : Nat) (ac : AbstractCommand) : AbstractCommand :=
  if aarsize == 3 then
    if write then { ac with shadowHi := ac.shadowHi.set regno ac.stagedData1 }
    else if regno == GPR_X0_REGNO then
      { ac with dataQ := ac.dataQ.set 1 0, dataKnown := ac.dataKnown.set 1 true }
    else
      match ac.shadowHi.get? regno, readsBackAsWritten regno with
      | some v, true => { ac with dataQ := ac.dataQ.set 1 v, dataKnown := ac.dataKnown.set 1 true }
      | _, _ => { ac with dataKnown := ac.dataKnown.set 1 false }
  else if write then { ac with shadowHi := ac.shadowHi.pop regno }
  else ac

/-- Lower word of a transfer. -/
def transferLo (write : Bool) (regno : Nat) (ac : AbstractCommand) : AbstractCommand :=
  if write then { ac with shadowRegs := ac.shadowRegs.set regno ac.stagedData0 }
  else if regno == GPR_X0_REGNO then
    { ac with data0PendingValid := true, data0PendingValue := 0 }
  else
    match ac.shadowRegs.get? regno, readsBackAsWritten regno with
    | some v, true => { ac with data0PendingValid := true, data0PendingValue := v }
    | _, _ => { ac with data0PendingValid := false }

/-- The hart has run code the shadow cannot follow. -/
def clearShadow (ac : AbstractCommand) : AbstractCommand :=
  { ac with shadowRegs := .empty, shadowHi := .empty }

/-- `_execute_command`. -/
def executeCommand (ac : AbstractCommand) (value : Nat) : AbstractCommand :=
  if Command.cmdtype value != 0 || Command.aarsize value > 3 then ac
  else
    let ac :=
      if Command.transfer value then
        (ac.transferHi (Command.write value) (Command.regno value) (Command.aarsize value)).transferLo
          (Command.write value) (Command.regno value)
      else ac
    if Command.postexec value then ac.clearShadow else ac

/-- `_autoexec_armed`. -/
def autoexecArmed (cfg : DeclaredConfig) (busy : Bool) (ac : AbstractCommand) (addr : Nat) : Bool :=
  if !cfg.abstractautoEnable || busy then false
  else if isData addr then ac.abstractauto.testBit (addr - ADDR_DATA0)
  else ac.abstractauto.testBit (16 + addr - ADDR_PROGBUF0)

/-- Re-run the last command if `addr` is armed. -/
def autoexec (cfg : DeclaredConfig) (busy : Bool) (ac : AbstractCommand) (addr : Nat) :
    AbstractCommand :=
  if ac.autoexecArmed cfg busy addr then ac.executeCommand ac.lastCommand else ac

/-- The store a write to a data word performs. -/
def storeData (ac : AbstractCommand) (i value : Nat) : AbstractCommand :=
  if i == 0 then
    { ac with stagedData0 := value, data0PendingValid := true, data0PendingValue := value }
  else
    { ac with
      dataQ := ac.dataQ.set i value
      dataKnown := ac.dataKnown.set i true
      stagedData1 := if i == 1 then value else ac.stagedData1 }

/-- `_write_buffer`: a write to `data*` or `progbuf*`. -/
def writeBuffer (cfg : DeclaredConfig) (busy : Bool) (ac : AbstractCommand) (addr value : Nat) :
    AbstractCommand :=
  if isData addr then
    let i := addr - ADDR_DATA0
    if cfg.datacount ≤ i then ac else (ac.storeData i value).autoexec cfg busy addr
  else
    let i := addr - ADDR_PROGBUF0
    if cfg.progbufsize ≤ i then ac
    else AbstractCommand.autoexec cfg busy { ac with progbufQ := ac.progbufQ.set i value } addr

/-- Whether `addr` is an implemented data or program-buffer word. -/
def implemented (cfg : DeclaredConfig) (addr : Nat) : Bool :=
  (isData addr && addr - ADDR_DATA0 < cfg.datacount)
    || (isProgbuf addr && addr - ADDR_PROGBUF0 < cfg.progbufsize)

/-- The abstract-command part of `observe_read`. -/
def observeRead (cfg : DeclaredConfig) (busy : Bool) (ac : AbstractCommand) (addr : Nat) :
    AbstractCommand :=
  if implemented cfg addr then ac.autoexec cfg busy addr else ac

/-- `_write_command`. -/
def writeCommand (ac : AbstractCommand) (value : Nat) : AbstractCommand :=
  { ac with lastCommand := value }.executeCommand value

end AbstractCommand

end RiscvDbg
