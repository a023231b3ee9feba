import Mathlib.Data.Int.Bitwise
import RiscvDbg.Predictor.Model

/-!
# The debug API on the model-backed mock

Model of `ModelBackedMockTransport` (`model/mock_transport.py`) and of the register and memory
operations of `RISCVDebug` (`api/riscv_dm.py`) on it.

* `MockTransport` — the predictor and the values last written to each address; a read is the predictor's
  claim, or a canned value where it makes none.
* `pollUntil`, `waitAbstractcs`, `waitSbus` — the polling helpers.  How often a register can be read
  before the deadline is a parameter.
* `readGpr`, `writeGpr`, `readReg64`, `writeReg64`, `readMem32`, `writeMem32`, `activate` — the operations.
* `ApiCall`, `ApiCall.perform` — the six operations as calls of a session.

Numbers are Python's, of any size and sign; `lowBits` is what a mask leaves of one.
-/

set_option autoImplicit false

namespace RiscvDbg

/-- `n & (2 ** width - 1)`. -/
def lowBits (width : Nat) (n : Int) : Nat := (n % 2 ^ width).toNat

theorem lowBits_cast (width : Nat) (n : Int) : (lowBits width n : Int) = n % 2 ^ width := by
  have hpos : (0 : Int) < 2 ^ width := Int.pow_pos (by decide)
  exact Int.toNat_of_nonneg (Int.emod_nonneg n (by omega))

theorem lowBits_lt (width : Nat) (n : Int) : lowBits width n < 2 ^ width := by
  have hpos : (0 : Int) < 2 ^ width := Int.pow_pos (by decide)
  have hlt := Int.emod_lt_of_pos n hpos
  have hcast : ((2 ^ width : Nat) : Int) = 2 ^ width := by push_cast; rfl
  have hlow := lowBits_cast width n
  omega

theorem lowBits_and_MASK32 (n : Int) : lowBits 32 n &&& MASK32 = lowBits 32 n := by
  rw [and_MASK32, Nat.mod_eq_of_lt (lowBits_lt 32 n)]

/-- A mask leaves a number that is in range as it is. -/
theorem lowBits_natCast {width n : Nat} (h : n < 2 ^ width) : lowBits width (n : Int) = n := by
  have hcast : ((2 ^ width : Nat) : Int) = 2 ^ width := by push_cast; rfl
  have hlow := lowBits_cast width (n : Int)
  rw [← hcast, ← Int.natCast_emod, Nat.mod_eq_of_lt h] at hlow
  omega

/-! ## The transport -/

/-- `ModelBackedMockTransport`. -/
structure MockTransport where
  predictor : DMPredictor
  regfile : Dict Nat Int

namespace MockTransport

variable (t : MockTransport)

/-- `_canned`. -/
def canned (addr : Nat) : Int :=
  if addr = ADDR_ABSTRACTCS then 0x0100_0000
  else if addr = ADDR_DATA0 then t.regfile.getD ADDR_DATA0 0xDEAD_BEEF
  else if addr = ADDR_SBCS then 0x2004_0000
  else if addr = ADDR_SBDATA0 then t.regfile.getD ADDR_SBDATA0 0xCAFE_0000
  else t.regfile.getD addr 0

/-- `write`; `on_write` masks what it is given. -/
def write (addr : Nat) (data : Int) : MockTransport where
  regfile := t.regfile.set addr data
  predictor := t.predictor.onWrite addr (lowBits 32 data)

/-- `read`. -/
def read (addr : Nat) : Int :=
  if t.predictor.hasModel addr then t.predictor.predict addr else t.canned addr

end MockTransport

/-! ## Polling -/

/-- What the operations raise. -/
inductive DebugError where
  | versionZero
  | cmderr (error : Int)
  | sberror (error : Int)
  | timeout (msg : String) (register : Nat) (last : Int)
  deriving DecidableEq, Repr

/-- Address of `data1`. -/
def ADDR_DATA1 : Nat := 0x05

section
variable (polls : Nat) (t : MockTransport)

/-- `_poll_until`: the register is read at least once, and `polls` times more before the deadline. -/
def pollUntil (check : Int → Except DebugError Bool) (register : Nat) (msg : String) :
    Nat → Except DebugError Unit
  | 0 => do
    if ← check (t.read register) then return ()
    throw (.timeout msg register (t.read register))
  | polls + 1 => do
    if ← check (t.read register) then return ()
    pollUntil check register msg polls

/-- The check of the two helpers: an error is raised, else the busy bit decides. -/
def checkStatus (busyBit errorBit : Nat) (raise : Int → DebugError) (v : Int) : Except DebugError Bool :=
  let busy := v / 2 ^ busyBit % 2
  let error := v / 2 ^ errorBit % 8
  if error ≠ 0 then throw (raise error) else return busy == 0

/-- `_wait_abstractcs`. -/
def waitAbstractcs : Except DebugError Unit :=
  pollUntil t (checkStatus 12 8 .cmderr) ADDR_ABSTRACTCS "abstractcs.busy=0" polls

/-- `_wait_sbus`. -/
def waitSbus : Except DebugError Unit :=
  pollUntil t (checkStatus 21 12 .sberror) ADDR_SBCS "sbcs.sbbusy=0" polls

/-! ## Operations -/

/-- The command word of a register access. -/
def accessRegister (aarsize : Nat) (write : Bool) (regno : Int) : Nat :=
  (aarsize <<< 20 ||| 1 <<< 17 ||| write.toNat <<< 16) ||| lowBits 16 regno

/-- `read_gpr`. -/
def readGpr (regno : Int) : Except DebugError Int × MockTransport :=
  let t := t.write ADDR_COMMAND (accessRegister 2 false regno)
  (do waitAbstractcs polls t; return t.read ADDR_DATA0, t)

/-- `write_gpr`. -/
def writeGpr (regno value : Int) : Except DebugError Unit × MockTransport :=
  let t := t.write ADDR_DATA0 value
  let t := t.write ADDR_COMMAND (accessRegister 2 true regno)
  (waitAbstractcs polls t, t)

/-- `read_reg64`: `data1` above `data0`. -/
def readReg64 (regno : Int) : Except DebugError Int × MockTransport :=
  let t := t.write ADDR_COMMAND (accessRegister 3 false regno)
  (do waitAbstractcs polls t; return Int.lor (t.read ADDR_DATA1 * 2 ^ 32) (t.read ADDR_DATA0), t)

/-- `write_reg64`. -/
def writeReg64 (regno value : Int) : Except DebugError Unit × MockTransport :=
  let t := t.write ADDR_DATA0 (lowBits 32 value)
  let t := t.write ADDR_DATA1 (lowBits 32 (value / 2 ^ 32))
  let t := t.write ADDR_COMMAND (accessRegister 3 true regno)
  (waitAbstractcs polls t, t)

/-- `read_mem32`: `sbreadonaddr` and an access size of 32 bits. -/
def readMem32 (addr : Int) : Except DebugError Int × MockTransport :=
  let t := t.write ADDR_SBCS ((1 <<< 20 ||| 2 <<< 17 : Nat) : Int)
  let t := t.write ADDR_SBADDRESS0 addr
  (do waitSbus polls t; return t.read ADDR_SBDATA0, t)

/-- `write_mem32`. -/
def writeMem32 (addr data : Int) : Except DebugError Unit × MockTransport :=
  let t := t.write ADDR_SBCS ((2 <<< 17 : Nat) : Int)
  let t := t.write ADDR_SBADDRESS0 addr
  let t := t.write ADDR_SBDATA0 data
  (waitSbus polls t, t)

/-- `activate`: `dmactive` and `ackhavereset`. -/
def activate : Except DebugError Unit × MockTransport :=
  let t := t.write DMCONTROL.address ((1 ||| 1 <<< 28 : Nat) : Int)
  (if t.read DMSTATUS.address % 16 = 0 then throw .versionZero else return (), t)

end

/-! ## Sessions -/

/-- A call of a register or memory operation. -/
inductive ApiCall where
  | writeGpr (regno value : Int)
  | readGpr (regno : Int)
  | writeReg64 (regno value : Int)
  | readReg64 (regno : Int)
  | writeMem32 (addr data : Int)
  | readMem32 (addr : Int)
  deriving DecidableEq, Repr

/-- A call: what it returns, if anything, or raises. -/
def ApiCall.perform (polls : Nat) (t : MockTransport) : ApiCall → Except DebugError (Option Int) × MockTransport
  | .writeGpr regno value =>
    let (result, t) := RiscvDbg.writeGpr polls t regno value
    (result.map fun _ => none, t)
  | .readGpr regno =>
    let (result, t) := RiscvDbg.readGpr polls t regno
    (result.map some, t)
  | .writeReg64 regno value =>
    let (result, t) := RiscvDbg.writeReg64 polls t regno value
    (result.map fun _ => none, t)
  | .readReg64 regno =>
    let (result, t) := RiscvDbg.readReg64 polls t regno
    (result.map some, t)
  | .writeMem32 addr data =>
    let (result, t) := RiscvDbg.writeMem32 polls t addr data
    (result.map fun _ => none, t)
  | .readMem32 addr =>
    let (result, t) := RiscvDbg.readMem32 polls t addr
    (result.map some, t)

/-- The transport after a list of calls. -/
def afterCalls (polls : Nat) (t : MockTransport) (calls : List ApiCall) : MockTransport :=
  Runs.run (fun t call => (call.perform polls t).2) t calls

/-- A transport on a predictor with a declared configuration, after `activate`. -/
def activated (p : Params) (c : DeclaredConfig) : MockTransport :=
  (activate ⟨(DMPredictor.init p).setConfig c, .empty⟩).2

end RiscvDbg
