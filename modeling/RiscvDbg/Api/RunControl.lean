import RiscvDbg.Api.Debug
import RiscvDbg.Predictor.Steps

/-!
# Run control of the debug API

Model of the rest of `RISCVDebug` (`api/riscv_dm.py`): the helpers that write `dmcontrol`, each of which
encodes the whole register from its own arguments and the tracked `_hartsel`, and the calls that leave
`dmcontrol` alone.

* `dmcontrol` — the encoder; `hartselOf_dmcontrol` and `testBit_dmcontrol_*` read it back.
* `RISCVDebug` — the transport and the tracked selection; `DebugCall.perform` — one call.
* `SessionView` — what the API tracks and what the DM has; `view_after` says once for every call what it
  makes of them.
-/

set_option autoImplicit false

namespace RiscvDbg

/-! ## The encoder -/

/-- The keyword arguments of `dmcontrol`, with their defaults. -/
structure DmcontrolArgs where
  dmactive : Bool := false
  hartreset : Bool := false
  resumereq : Bool := false
  haltreq : Bool := false
  ackhavereset : Bool := false
  hartsel : Int := 0
  ndmreset : Bool := false
  setresethaltreq : Bool := false
  clrresethaltreq : Bool := false
  ackunavail : Bool := false
  hasel : Bool := false
  setkeepalive : Bool := false
  clrkeepalive : Bool := false
  deriving DecidableEq, Repr

/-- `dmcontrol`. -/
def dmcontrol (a : DmcontrolArgs) : Nat :=
  a.dmactive.toNat
    ||| a.ndmreset.toNat <<< 1
    ||| a.clrresethaltreq.toNat <<< 2
    ||| a.setresethaltreq.toNat <<< 3
    ||| a.clrkeepalive.toNat <<< 4
    ||| a.setkeepalive.toNat <<< 5
    ||| lowBits 10 (a.hartsel / 2 ^ 10) <<< 6
    ||| lowBits 10 a.hartsel <<< 16
    ||| a.hasel.toNat <<< 26
    ||| a.ackunavail.toNat <<< 27
    ||| a.ackhavereset.toNat <<< 28
    ||| a.hartreset.toNat <<< 29
    ||| a.resumereq.toNat <<< 30
    ||| a.haltreq.toNat <<< 31

/-- One flag at its place. -/
theorem testBit_flag (b : Bool) (k i : Nat) :
    (b.toNat <<< k).testBit i = (decide (i = k) && b) := by
  rw [Nat.testBit_shiftLeft, Nat.testBit_bool_toNat]
  rcases Nat.lt_trichotomy i k with h | h | h
  · have h₁ : ¬ i ≥ k := by omega
    have h₂ : i ≠ k := by omega
    simp [h₁, h₂]
  · simp [h]
  · have h₁ : i - k ≠ 0 := by omega
    have h₂ : i ≠ k := by omega
    simp [h₁, h₂]

/-- One of the two fields of the hart index at its place. -/
theorem testBit_index (n : Int) (k i : Nat) :
    (lowBits 10 n <<< k).testBit i = (decide (k ≤ i) && (lowBits 10 n).testBit (i - k)) :=
  Nat.testBit_shiftLeft _

theorem testBit_lowBits_of_le {width i : Nat} (h : width ≤ i) (n : Int) : (lowBits width n).testBit i = false :=
  Nat.testBit_lt_two_pow (Nat.lt_of_lt_of_le (lowBits_lt width n) (Nat.pow_le_pow_right (by decide) h))

variable (a : DmcontrolArgs)

theorem testBit_dmcontrol (i : Nat) :
    (dmcontrol a).testBit i =
      (decide (i = 0) && a.dmactive || decide (i = 1) && a.ndmreset || decide (i = 2) && a.clrresethaltreq
        || decide (i = 3) && a.setresethaltreq || decide (i = 4) && a.clrkeepalive
        || decide (i = 5) && a.setkeepalive
        || decide (6 ≤ i) && (lowBits 10 (a.hartsel / 2 ^ 10)).testBit (i - 6)
        || decide (16 ≤ i) && (lowBits 10 a.hartsel).testBit (i - 16)
        || decide (i = 26) && a.hasel || decide (i = 27) && a.ackunavail || decide (i = 28) && a.ackhavereset
        || decide (i = 29) && a.hartreset || decide (i = 30) && a.resumereq || decide (i = 31) && a.haltreq) := by
  simp only [dmcontrol, Nat.testBit_or, Nat.testBit_bool_toNat, testBit_flag, testBit_index]

theorem testBit_dmcontrol_dmactive : (dmcontrol a).testBit 0 = a.dmactive := by
  rw [testBit_dmcontrol]
  simp

theorem testBit_dmcontrol_ndmreset : (dmcontrol a).testBit 1 = a.ndmreset := by
  rw [testBit_dmcontrol]
  simp

theorem dmcontrol_lt : dmcontrol a < 2 ^ 32 := by
  apply Nat.lt_pow_two_of_testBit
  intro i hi
  rw [testBit_dmcontrol]
  simp (disch := omega) only [testBit_lowBits_of_le, decide_eq_false, Bool.false_and, Bool.and_false, Bool.or_false]

/-- The two fields of the hart index are its low 20 bits. -/
theorem hartselOf_dmcontrol : hartselOf (dmcontrol a) = lowBits 20 a.hartsel := by
  have hcast := lowBits_cast 20 a.hartsel
  have hlo : lowBits 10 a.hartsel = lowBits 20 a.hartsel % 2 ^ 10 := by
    have h := lowBits_cast 10 a.hartsel
    omega
  have hhi : lowBits 10 (a.hartsel / 2 ^ 10) = lowBits 20 a.hartsel / 2 ^ 10 := by
    have h := lowBits_cast 10 (a.hartsel / 2 ^ 10)
    omega
  apply Nat.eq_of_testBit_eq
  intro i
  rw [testBit_hartselOf]
  split_ifs with h₁ h₂
  · rw [testBit_dmcontrol]
    simp (disch := omega) only [testBit_lowBits_of_le, decide_eq_false, decide_eq_true, Bool.and_false,
      Bool.false_and, Bool.or_false, Bool.false_or, Bool.true_and, Nat.add_sub_cancel_left]
    rw [hlo, Nat.testBit_mod_two_pow]
    simp [h₁]
  · rw [testBit_dmcontrol]
    simp (disch := omega) only [decide_eq_false, decide_eq_true, Bool.or_false, Bool.false_or, Bool.true_and,
      Bool.false_and, Nat.add_sub_cancel_left]
    rw [hhi, Nat.testBit_div_two_pow]
    congr 1
    omega
  · exact (testBit_lowBits_of_le (by omega) _).symm

/-- The keyword arguments of `dmcs2`. -/
structure Dmcs2Args where
  hgselect : Bool := false
  hgwrite : Bool := false
  group : Int := 0
  dmexttrigger : Int := 0
  grouptype : Bool := false
  deriving DecidableEq, Repr

/-- `dmcs2`. -/
def dmcs2 (a : Dmcs2Args) : Nat :=
  a.hgselect.toNat ||| a.hgwrite.toNat <<< 1 ||| lowBits 5 a.group <<< 2 ||| lowBits 4 a.dmexttrigger <<< 7
    ||| a.grouptype.toNat <<< 11

/-- `allhalted`. -/
def allhalted (dmstatus : Int) : Bool := dmstatus / 2 ^ 9 % 2 != 0

/-- `allrunning`. -/
def allrunning (dmstatus : Int) : Bool := dmstatus / 2 ^ 11 % 2 != 0

/-! ## The calls -/

/-- `RISCVDebug`: the transport and `_hartsel`. -/
structure RISCVDebug where
  t : MockTransport
  hartsel : Int := 0

/-- The fields named in a call of `write_dmcontrol`.  `dmactive` and `hartsel` have defaults of their own
there, so those of `others` do not count. -/
structure DmcontrolOverrides where
  dmactive : Option Bool := none
  hartsel : Option Int := none
  others : DmcontrolArgs := {}
  deriving DecidableEq, Repr

/-- The arguments `write_dmcontrol` encodes. -/
def DmcontrolOverrides.args (fields : DmcontrolOverrides) (tracked : Int) : DmcontrolArgs :=
  { fields.others with dmactive := fields.dmactive.getD true, hartsel := fields.hartsel.getD tracked }

namespace RISCVDebug

variable (polls : Nat) (d : RISCVDebug)

/-- A write of `dmcontrol`. -/
def writeControl (a : DmcontrolArgs) : RISCVDebug := { d with t := d.t.write DMCONTROL.address (dmcontrol a) }

/-- `activate`. -/
def activate : Except DebugError Unit × RISCVDebug :=
  let (result, t) := RiscvDbg.activate d.t
  (result, ⟨t, 0⟩)

/-- `deactivate`. -/
def deactivate : RISCVDebug := { d.writeControl { dmactive := false } with hartsel := 0 }

/-- `select_hart`. -/
def selectHart (hartsel : Int) : RISCVDebug :=
  { d with hartsel := hartsel }.writeControl { dmactive := true, hartsel := hartsel }

/-- What `halt` and `resume` have in common: a request, the wait for `dmstatus`, and a second write once
it has been seen. -/
def requestAndWait (request release : DmcontrolArgs) (check : Int → Bool) (msg : String) :
    Except DebugError Unit × RISCVDebug :=
  let d := d.writeControl request
  match pollUntil d.t (fun v => return check v) DMSTATUS.address msg polls with
  | .error e => (.error e, d)
  | .ok () => (.ok (), d.writeControl release)

/-- `halt`. -/
def halt : Except DebugError Unit × RISCVDebug :=
  d.requestAndWait polls { dmactive := true, haltreq := true, hartsel := d.hartsel }
    { dmactive := true, haltreq := false, hartsel := d.hartsel } allhalted "allhalted"

/-- `resume`. -/
def resume : Except DebugError Unit × RISCVDebug :=
  d.requestAndWait polls { dmactive := true, resumereq := true, hartsel := d.hartsel }
    { dmactive := true, resumereq := false, hartsel := d.hartsel } allrunning "allrunning"

/-- `resume_no_wait`. -/
def resumeNoWait : RISCVDebug :=
  let d := d.writeControl { dmactive := true, resumereq := true, hartsel := d.hartsel }
  d.writeControl { dmactive := true, resumereq := false, hartsel := d.hartsel }

/-- `ndmreset`. -/
def ndmreset (assertReset : Bool) : RISCVDebug :=
  d.writeControl { dmactive := true, ndmreset := assertReset, hartsel := d.hartsel }

/-- `hartreset`. -/
def hartreset (assertReset : Bool) : RISCVDebug :=
  d.writeControl { dmactive := true, hartreset := assertReset, hartsel := d.hartsel }

/-- `ackhavereset`. -/
def ackhavereset : RISCVDebug :=
  d.writeControl { dmactive := true, ackhavereset := true, hartsel := d.hartsel }

/-- `ackunavail`. -/
def ackunavail : RISCVDebug := d.writeControl { dmactive := true, ackunavail := true, hartsel := d.hartsel }

/-- `set_reset_haltreq`. -/
def setResetHaltreq : RISCVDebug :=
  d.writeControl { dmactive := true, setresethaltreq := true, hartsel := d.hartsel }

/-- `clr_reset_haltreq`. -/
def clrResetHaltreq : RISCVDebug :=
  d.writeControl { dmactive := true, clrresethaltreq := true, hartsel := d.hartsel }

/-- `write_dmcontrol`: the word written and the state; `_hartsel` stays. -/
def writeDmcontrol (fields : DmcontrolOverrides) : Nat × RISCVDebug :=
  (dmcontrol (fields.args d.hartsel), d.writeControl (fields.args d.hartsel))

/-- `is_halted`. -/
def isHalted : Bool := allhalted (d.t.read DMSTATUS.address)

/-- `is_running`. -/
def isRunning : Bool := allrunning (d.t.read DMSTATUS.address)

/-- `clear_cmderr`. -/
def clearCmderr : RISCVDebug := { d with t := d.t.write ADDR_ABSTRACTCS ((0x7 <<< 8 : Nat) : Int) }

/-- `write_progbuf`. -/
def writeProgbuf (index : Nat) (instruction : Int) : RISCVDebug :=
  { d with t := d.t.write (ADDR_PROGBUF0 + index) instruction }

/-- `execute_progbuf`. -/
def executeProgbuf : Except DebugError Unit × RISCVDebug :=
  let d := { d with t := d.t.write ADDR_COMMAND ((1 <<< 18 : Nat) : Int) }
  (waitAbstractcs polls d.t, d)

/-- `set_step`: one bit of `dcsr`. -/
def setStep (enable : Bool) : Except DebugError Unit × RISCVDebug :=
  match readGpr polls d.t DCSR_REGNO with
  | (.error e, t) => (.error e, { d with t := t })
  | (.ok dcsr, t) =>
    let dcsr := if enable then Int.lor dcsr 4 else Int.land dcsr (Int.lnot 4)
    let (result, t) := writeGpr polls t DCSR_REGNO dcsr
    (result, { d with t := t })

/-- `write_dmcs2`. -/
def writeDmcs2 (fields : Dmcs2Args) : Nat × RISCVDebug :=
  (dmcs2 fields, { d with t := d.t.write ADDR_DMCS2 (dmcs2 fields) })

end RISCVDebug

/-- The registers that are read raw: `read_dmstatus` and its kind. -/
inductive RawRead where
  | dmstatus
  | dmcontrol
  | hartinfo
  | haltsum0
  | abstractcs
  | progbuf (index : Nat)
  | dmcs2
  deriving DecidableEq, Repr

/-- The address a raw read goes to. -/
def RawRead.addr : RawRead → Nat
  | .dmstatus => DMSTATUS.address
  | .dmcontrol => DMCONTROL.address
  | .hartinfo => ADDR_HARTINFO
  | .haltsum0 => ADDR_HALTSUM0
  | .abstractcs => ADDR_ABSTRACTCS
  | .progbuf index => ADDR_PROGBUF0 + index
  | .dmcs2 => ADDR_DMCS2

/-- A call of `RISCVDebug`. -/
inductive DebugCall where
  | activate
  | deactivate
  | selectHart (hartsel : Int)
  | halt
  | resume
  | resumeNoWait
  | ndmreset (assertReset : Bool)
  | hartreset (assertReset : Bool)
  | ackhavereset
  | ackunavail
  | setResetHaltreq
  | clrResetHaltreq
  | writeDmcontrol (fields : DmcontrolOverrides)
  | isHalted
  | isRunning
  | read (register : RawRead)
  | access (call : ApiCall)
  | clearCmderr
  | writeProgbuf (index : Nat) (instruction : Int)
  | executeProgbuf
  | setStep (enable : Bool)
  | writeDmcs2 (fields : Dmcs2Args)
  deriving DecidableEq, Repr

/-- One call: what it returns, if anything, or raises. -/
def DebugCall.perform (polls : Nat) (d : RISCVDebug) :
    DebugCall → Except DebugError (Option Int) × RISCVDebug
  | .activate => d.activate.map (·.map fun _ => none) id
  | .deactivate => (.ok none, d.deactivate)
  | .selectHart hartsel => (.ok none, d.selectHart hartsel)
  | .halt => (d.halt polls).map (·.map fun _ => none) id
  | .resume => (d.resume polls).map (·.map fun _ => none) id
  | .resumeNoWait => (.ok none, d.resumeNoWait)
  | .ndmreset assertReset => (.ok none, d.ndmreset assertReset)
  | .hartreset assertReset => (.ok none, d.hartreset assertReset)
  | .ackhavereset => (.ok none, d.ackhavereset)
  | .ackunavail => (.ok none, d.ackunavail)
  | .setResetHaltreq => (.ok none, d.setResetHaltreq)
  | .clrResetHaltreq => (.ok none, d.clrResetHaltreq)
  | .writeDmcontrol fields => (d.writeDmcontrol fields).map (fun word => .ok (some (word : Nat))) id
  | .isHalted => (.ok (some d.isHalted.toNat), d)
  | .isRunning => (.ok (some d.isRunning.toNat), d)
  | .read register => (.ok (some (d.t.read register.addr)), d)
  | .access call => (call.perform polls d.t).map id fun t => { d with t := t }
  | .clearCmderr => (.ok none, d.clearCmderr)
  | .writeProgbuf index instruction => (.ok none, d.writeProgbuf index instruction)
  | .executeProgbuf => (d.executeProgbuf polls).map (·.map fun _ => none) id
  | .setStep enable => (d.setStep polls enable).map (·.map fun _ => none) id
  | .writeDmcs2 fields => (d.writeDmcs2 fields).map (fun word => .ok (some (word : Nat))) id

/-- The state a call leaves. -/
def DebugCall.after (polls : Nat) (d : RISCVDebug) (call : DebugCall) : RISCVDebug := (call.perform polls d).2

/-- The call returns. -/
def DebugCall.returns (polls : Nat) (d : RISCVDebug) (call : DebugCall) : Bool :=
  match (call.perform polls d).1 with
  | .ok _ => true
  | .error _ => false

/-! ## What a call makes of the selection and the reset level -/

/-- The selection the API tracks, and the DM's selection and reset level. -/
structure SessionView where
  tracked : Int
  selected : Nat
  ndmreset : Bool
  deriving DecidableEq, Repr

/-- The view of a session. -/
def RISCVDebug.view (d : RISCVDebug) : SessionView where
  tracked := d.hartsel
  selected := d.t.predictor.rc.hartsel
  ndmreset := d.t.predictor.rc.ndmreset

/-- The view after `dmcontrol` has been written. -/
def SessionView.write (v : SessionView) (a : DmcontrolArgs) : SessionView :=
  { v with
    selected := if a.dmactive then lowBits 20 a.hartsel else 0
    ndmreset := a.dmactive && a.ndmreset }

/-- The calls whose every `dmcontrol` word keeps the DM active, repeats the tracked selection and leaves
`ndmreset` 0. -/
def DebugCall.repeatsSelection : DebugCall → Bool
  | .halt | .resume | .resumeNoWait | .hartreset _ | .ackhavereset | .ackunavail | .setResetHaltreq
  | .clrResetHaltreq => true
  | _ => false

/-- The view after a call. -/
def SessionView.next (v : SessionView) (call : DebugCall) : SessionView :=
  match call with
  | .activate | .deactivate => ⟨0, 0, false⟩
  | .selectHart hartsel => ⟨hartsel, lowBits 20 hartsel, false⟩
  | .ndmreset assertReset => ⟨v.tracked, lowBits 20 v.tracked, assertReset⟩
  | .writeDmcontrol fields => v.write (fields.args v.tracked)
  | call => if call.repeatsSelection then ⟨v.tracked, lowBits 20 v.tracked, false⟩ else v

namespace RISCVDebug

variable (polls : Nat) (d : RISCVDebug)

/-- A write of another register. -/
theorem write_rc_of_ne (t : MockTransport) {addr : Nat} (h : addr ≠ DMCONTROL.address) (data : Int) :
    (t.write addr data).predictor.rc = t.predictor.rc := t.predictor.onWrite_rc_of_ne h _

/-- **A write of `dmcontrol`.** -/
theorem writeControl_view (a : DmcontrolArgs) : (d.writeControl a).view = d.view.write a := by
  have hrc : (d.writeControl a).t.predictor.rc = (d.t.predictor.writeDmcontrol (dmcontrol a)).rc := by
    show (d.t.predictor.onWrite DMCONTROL.address (lowBits 32 (dmcontrol a))).rc = _
    rw [lowBits_natCast (dmcontrol_lt a), DMPredictor.onWrite_dmcontrol]
  have hactive := testBit_dmcontrol_dmactive a
  have hndmreset := testBit_dmcontrol_ndmreset a
  unfold view SessionView.write
  rw [hrc]
  cases h : a.dmactive with
  | false =>
    rw [h] at hactive
    rw [DMPredictor.writeDmcontrol_inactive _ hactive]
    rfl
  | true =>
    rw [h] at hactive
    rw [DMPredictor.writeDmcontrol_active _ hactive, RunControl.writeActive_fst]
    simp only [hartselOf_dmcontrol, hndmreset, if_true, Bool.true_and]
    rfl

/-- A request and its release differ in nothing the view shows. -/
theorem requestAndWait_view (request release : DmcontrolArgs) (check : Int → Bool) (msg : String)
    (hsame : ∀ v : SessionView, (v.write request).write release = v.write request) :
    (d.requestAndWait polls request release check msg).2.view = d.view.write request := by
  unfold requestAndWait
  simp only
  split
  · exact d.writeControl_view request
  · rw [writeControl_view, writeControl_view, hsame]

/-- The register and memory operations leave run control alone. -/
theorem access_rc (t : MockTransport) (call : ApiCall) :
    (call.perform polls t).2.predictor.rc = t.predictor.rc := by
  have hne : ADDR_COMMAND ≠ DMCONTROL.address ∧ ADDR_DATA0 ≠ DMCONTROL.address ∧
      ADDR_DATA1 ≠ DMCONTROL.address ∧ ADDR_SBCS ≠ DMCONTROL.address ∧
      ADDR_SBADDRESS0 ≠ DMCONTROL.address ∧ ADDR_SBDATA0 ≠ DMCONTROL.address := by decide
  obtain ⟨h₁, h₂, h₃, h₄, h₅, h₆⟩ := hne
  cases call <;>
    simp only [ApiCall.perform, RiscvDbg.writeGpr, RiscvDbg.readGpr, RiscvDbg.writeReg64, RiscvDbg.readReg64,
      RiscvDbg.writeMem32, RiscvDbg.readMem32, write_rc_of_ne _ h₁, write_rc_of_ne _ h₂, write_rc_of_ne _ h₃,
      write_rc_of_ne _ h₄, write_rc_of_ne _ h₅, write_rc_of_ne _ h₆]

theorem setStep_rc (enable : Bool) :
    (d.setStep polls enable).2.t.predictor.rc = d.t.predictor.rc ∧
      (d.setStep polls enable).2.hartsel = d.hartsel := by
  have hread := access_rc polls d.t (.readGpr DCSR_REGNO)
  change (RiscvDbg.readGpr polls d.t DCSR_REGNO).2.predictor.rc = _ at hread
  unfold setStep
  generalize RiscvDbg.readGpr polls d.t DCSR_REGNO = result at hread
  rcases result with ⟨e | dcsr, t⟩
  · exact ⟨hread, rfl⟩
  · refine ⟨?_, rfl⟩
    exact (access_rc polls t (.writeGpr DCSR_REGNO _)).trans hread

/-- A call that changes the transport without touching run control. -/
theorem view_of_rc {d d' : RISCVDebug} (hrc : d'.t.predictor.rc = d.t.predictor.rc)
    (hsel : d'.hartsel = d.hartsel) : d'.view = d.view := by
  unfold view
  rw [hrc, hsel]

/-- **What a call can do.** -/
theorem view_after (call : DebugCall) : (call.after polls d).view = d.view.next call := by
  have hquiet : ∀ {addr : Nat} (data : Int), addr ≠ DMCONTROL.address →
      ({ d with t := d.t.write addr data } : RISCVDebug).view = d.view := by
    intro addr data hne
    exact view_of_rc (write_rc_of_ne d.t hne data) rfl
  cases call with
  | activate =>
    have hword : ((1 ||| 1 <<< 28 : Nat) : Int) = dmcontrol { dmactive := true, ackhavereset := true } := by decide
    have hview := writeControl_view { d with hartsel := 0 } { dmactive := true, ackhavereset := true }
    rw [writeControl, ← hword] at hview
    exact hview
  | deactivate => exact congrArg (fun v : SessionView => { v with tracked := 0 }) (d.writeControl_view _)
  | selectHart hartsel => exact writeControl_view { d with hartsel := hartsel } _
  | halt => exact d.requestAndWait_view polls _ _ _ _ fun _ => rfl
  | resume => exact d.requestAndWait_view polls _ _ _ _ fun _ => rfl
  | resumeNoWait =>
    show (writeControl _ _).view = _
    rw [writeControl_view, writeControl_view]
    rfl
  | ndmreset assertReset => exact d.writeControl_view _
  | hartreset assertReset => exact d.writeControl_view _
  | ackhavereset => exact d.writeControl_view _
  | ackunavail => exact d.writeControl_view _
  | setResetHaltreq => exact d.writeControl_view _
  | clrResetHaltreq => exact d.writeControl_view _
  | writeDmcontrol fields => exact d.writeControl_view _
  | isHalted => rfl
  | isRunning => rfl
  | read register => rfl
  | access call => exact view_of_rc (access_rc polls d.t call) rfl
  | clearCmderr => exact hquiet _ (by decide)
  | writeProgbuf index instruction =>
    refine hquiet _ ?_
    show 32 + index ≠ 16
    omega
  | executeProgbuf => exact hquiet _ (by decide)
  | setStep enable => exact view_of_rc (d.setStep_rc polls enable).1 (d.setStep_rc polls enable).2
  | writeDmcs2 fields => exact hquiet _ (by decide)

end RISCVDebug

end RiscvDbg
