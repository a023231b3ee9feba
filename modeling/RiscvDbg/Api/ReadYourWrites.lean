import RiscvDbg.Api.Debug
import RiscvDbg.Predictor.Commands

/-!
# Read your writes

What the register and memory operations return on the model-backed mock.

* `Ledger` — what was last written to each register, and how wide, and to each memory word.
* `Ledger.Answers` — what a call should return, given the ledger: no call raises, `x0` reads 0, and a
  register or a word reads as it was last written, as far as it was written that wide.
* `Ready` — the predictor takes commands and has nothing armed, so that polling ends at once.
* `KeepsRegs`, `Keeps` — its register and memory shadows are the ledger; `Keeps.perform` is one call.
* `read_your_writes` — in every session of calls after `activate`, each call is answered so.

The predictor's shadows are staged and claimed through registers that all operations share, `data0`,
`data1`, `sbcs` and `sbaddress0`.  Each operation sets all of those it uses before it uses them, which
is why nothing of an earlier call is left.
-/

set_option autoImplicit false

namespace RiscvDbg

/-! ## The ledger -/

/-- The last write of a register. -/
inductive RegWrite where
  | gpr (value : Int)
  | reg64 (value : Int)

/-- The lower word of what was written. -/
def RegWrite.lo : RegWrite → Nat
  | .gpr value => lowBits 32 value
  | .reg64 value => lowBits 32 value

/-- The upper word, if it was written. -/
def RegWrite.hi? : RegWrite → Option Nat
  | .gpr _ => none
  | .reg64 value => some (lowBits 32 (value / 2 ^ 32))

/-- What was last written where; registers are numbered by 16 bits, words addressed by 32. -/
structure Ledger where
  reg : Nat → Option RegWrite
  mem : Nat → Option Int

namespace Ledger

/-- Nothing was written yet. -/
def blank : Ledger := ⟨fun _ => none, fun _ => none⟩

/-- The ledger after a call. -/
def record (l : Ledger) : ApiCall → Ledger
  | .writeGpr regno value => { l with reg := Function.update l.reg (lowBits 16 regno) (some (.gpr value)) }
  | .writeReg64 regno value => { l with reg := Function.update l.reg (lowBits 16 regno) (some (.reg64 value)) }
  | .writeMem32 addr data => { l with mem := Function.update l.mem (lowBits 32 addr) (some data) }
  | .readGpr _ | .readReg64 _ | .readMem32 _ => l

/-- The ledger after a list of calls. -/
def after (calls : List ApiCall) : Ledger := Runs.run record blank calls

/-- The trigger CSRs, which legalize what is written to them. -/
def Trigger (regno : Nat) : Prop := 0x7A0 ≤ regno ∧ regno ≤ 0x7AF

instance (regno : Nat) : Decidable (Trigger regno) := inferInstanceAs (Decidable (_ ∧ _))

/-- What a call should return. -/
def Answers (l : Ledger) (result : Except DebugError (Option Int)) : ApiCall → Prop
  | .writeGpr _ _ | .writeReg64 _ _ | .writeMem32 _ _ => result = .ok none
  | .readGpr regno => ∃ v, result = .ok (some v) ∧
    (lowBits 16 regno = GPR_X0_REGNO → v = 0) ∧
    (lowBits 16 regno ≠ GPR_X0_REGNO → ¬Trigger (lowBits 16 regno) →
      (∀ x, l.reg (lowBits 16 regno) = some (.gpr x) → v = x % 2 ^ 32) ∧
      (∀ x, l.reg (lowBits 16 regno) = some (.reg64 x) → v = x % 2 ^ 32))
  | .readReg64 regno => ∃ v, result = .ok (some v) ∧
    (lowBits 16 regno = GPR_X0_REGNO → v = 0) ∧
    (lowBits 16 regno ≠ GPR_X0_REGNO → ¬Trigger (lowBits 16 regno) →
      ∀ x, l.reg (lowBits 16 regno) = some (.reg64 x) → v = x % 2 ^ 64)
  | .readMem32 addr => ∃ v, result = .ok (some v) ∧ ∀ x, l.mem (lowBits 32 addr) = some x → v = x % 2 ^ 32

end Ledger

theorem readsBackAsWritten_of_not_trigger {regno : Nat} (h : ¬Ledger.Trigger regno) :
    readsBackAsWritten regno = true := by
  rw [Ledger.Trigger] at h
  simp only [readsBackAsWritten, Bool.not_eq_true', Bool.and_eq_false_iff, decide_eq_false_iff_not]
  omega

/-! ## Numbers -/

/-- A 64-bit number in two words. -/
theorem two_words (x : Int) : x / 2 ^ 32 % 2 ^ 32 * 2 ^ 32 + x % 2 ^ 32 = x % 2 ^ 64 := by
  omega

/-- Two words joined by `<< 32` and `|`. -/
theorem lor_words (a : Nat) {b : Nat} (hb : b < 2 ^ 32) : Int.lor ((a : Int) * 2 ^ 32) b = a * 2 ^ 32 + b := by
  have hcast : (a : Int) * (2 : Int) ^ 32 = ((a <<< 32 : Nat) : Int) := by
    rw [Nat.shiftLeft_eq]
    push_cast
    rfl
  have hor : Int.lor ((a <<< 32 : Nat) : Int) b = ((a <<< 32 ||| b : Nat) : Int) := rfl
  rw [hcast, hor, ← Nat.shiftLeft_add_eq_or_of_lt hb]
  push_cast
  rfl

theorem testBit_of_lt {n k i : Nat} (h : n < 2 ^ k) (hi : k ≤ i) : n.testBit i = false :=
  Nat.testBit_lt_two_pow (Nat.lt_of_lt_of_le h (Nat.pow_le_pow_right (by decide) hi))

/-! ## Command words -/

namespace Command

/-- The fields of a command word, with the register number or'ed in. -/
theorem fields_or {c r : Nat} (hc : Command.regno c = 0) (hr : r < 2 ^ 16) :
    Command.cmdtype (c ||| r) = Command.cmdtype c ∧ Command.aarsize (c ||| r) = Command.aarsize c ∧
      Command.postexec (c ||| r) = Command.postexec c ∧ Command.transfer (c ||| r) = Command.transfer c ∧
      Command.write (c ||| r) = Command.write c ∧ Command.regno (c ||| r) = r := by
  have hshift : ∀ k, 16 ≤ k → r >>> k = 0 := by
    intro k hk
    rw [Nat.shiftRight_eq_div_pow]
    exact Nat.div_eq_of_lt (Nat.lt_of_lt_of_le hr (Nat.pow_le_pow_right (by omega) hk))
  have hbit : ∀ k, 16 ≤ k → r.testBit k = false := fun k => testBit_of_lt hr
  have hlow : r &&& 0xFFFF = r := by
    rw [show (0xFFFF : Nat) = 2 ^ 16 - 1 from rfl, Nat.and_two_pow_sub_one_eq_mod, Nat.mod_eq_of_lt hr]
  refine ⟨?_, ?_, ?_, ?_, ?_, ?_⟩
  · rw [cmdtype, Nat.shiftRight_or_distrib, hshift 24 (by omega), Nat.or_zero, cmdtype]
  · rw [aarsize, Nat.shiftRight_or_distrib, hshift 20 (by omega), Nat.or_zero, aarsize]
  · rw [postexec, Nat.testBit_or, hbit 18 (by omega), Bool.or_false, postexec]
  · rw [transfer, Nat.testBit_or, hbit 17 (by omega), Bool.or_false, transfer]
  · rw [write, Nat.testBit_or, hbit 16 (by omega), Bool.or_false, write]
  · rw [regno] at hc
    rw [regno, Nat.and_or_distrib_right, hc, Nat.zero_or, hlow]

end Command

theorem accessRegister_lt {aarsize : Nat} (ha : aarsize ≤ 3) (write : Bool) (regno : Int) :
    accessRegister aarsize write regno < 2 ^ 32 := by
  have hr : lowBits 16 regno < 2 ^ 32 := Nat.lt_of_lt_of_le (lowBits_lt 16 regno) (by decide)
  have hc : aarsize <<< 20 ||| 1 <<< 17 ||| write.toNat <<< 16 < 2 ^ 32 := by
    have hall : ∀ a ≤ 3, ∀ w : Bool, a <<< 20 ||| 1 <<< 17 ||| w.toNat <<< 16 < 2 ^ 32 := by decide
    exact hall aarsize ha write
  exact Nat.or_lt_two_pow hc hr

/-- What a register access makes of the abstract-command registers. -/
def AbstractCommand.accessed (aarsize : Nat) (write : Bool) (regno : Int) (ac : AbstractCommand) :
    AbstractCommand :=
  (AbstractCommand.transferHi write (lowBits 16 regno) aarsize
    { ac with lastCommand := accessRegister aarsize write regno }).transferLo write (lowBits 16 regno)

/-- A register access moves the register, of either width, and nothing else. -/
theorem executeCommand_accessRegister (ac : AbstractCommand) {aarsize : Nat} (ha : aarsize ≤ 3)
    (write : Bool) (regno : Int) :
    ac.executeCommand (accessRegister aarsize write regno) =
      (ac.transferHi write (lowBits 16 regno) aarsize).transferLo write (lowBits 16 regno) := by
  let c := aarsize <<< 20 ||| 1 <<< 17 ||| write.toNat <<< 16
  have hconst : Command.regno c = 0 ∧ Command.cmdtype c = 0 ∧ Command.aarsize c = aarsize ∧
      Command.postexec c = false ∧ Command.transfer c = true ∧ Command.write c = write := by
    have hall : ∀ a ≤ 3, ∀ w : Bool, Command.regno (a <<< 20 ||| 1 <<< 17 ||| w.toNat <<< 16) = 0 ∧
        Command.cmdtype (a <<< 20 ||| 1 <<< 17 ||| w.toNat <<< 16) = 0 ∧
        Command.aarsize (a <<< 20 ||| 1 <<< 17 ||| w.toNat <<< 16) = a ∧
        Command.postexec (a <<< 20 ||| 1 <<< 17 ||| w.toNat <<< 16) = false ∧
        Command.transfer (a <<< 20 ||| 1 <<< 17 ||| w.toNat <<< 16) = true ∧
        Command.write (a <<< 20 ||| 1 <<< 17 ||| w.toNat <<< 16) = w := by
      decide
    exact hall aarsize ha write
  obtain ⟨h₀, h₁, h₂, h₃, h₄, h₅⟩ := hconst
  obtain ⟨k₁, k₂, k₃, k₄, k₅, k₆⟩ := Command.fields_or h₀ (lowBits_lt 16 regno)
  have hacc : Command.accepted (accessRegister aarsize write regno) = true := by
    change (Command.cmdtype (c ||| lowBits 16 regno) == 0 && Command.aarsize (c ||| lowBits 16 regno) ≤ 3) = true
    rw [k₁, h₁, k₂, h₂]
    simpa using ha
  rw [ac.executeCommand_of_accepted hacc]
  change (let ac' := if Command.transfer (c ||| lowBits 16 regno) then _ else ac
    if Command.postexec (c ||| lowBits 16 regno) then _ else ac') = _
  rw [k₃, h₃, k₄, h₄]
  change (ac.transferHi (Command.write (c ||| _)) (Command.regno (c ||| _))
    (Command.aarsize (c ||| _))).transferLo (Command.write (c ||| _)) (Command.regno (c ||| _)) = _
  rw [k₅, h₅, k₆, k₂, h₂]

/-! ## A predictor that takes commands -/

/-- Configured, active and idle, with no access set to run a command again. -/
structure Ready (c : DeclaredConfig) (s : DMPredictor) : Prop where
  cfg : s.cfg = c
  cfgValid : s.cfgValid = true
  active : s.rc.dmactive = true
  idle : s.observedCmdbusy = false
  autoexec : s.ac.abstractauto = 0

namespace Ready

variable {c : DeclaredConfig} {s : DMPredictor}

/-- A write of `data0` or `data1` stages its value. -/
theorem onWrite_data (hs : Ready c s) (hdata : 2 ≤ c.datacount) {i : Nat} (hi : i < 2) (n : Int) :
    s.onWrite (ADDR_DATA0 + i) (lowBits 32 n) = { s with ac := s.ac.storeData i (lowBits 32 n) } := by
  have hisData : isData (ADDR_DATA0 + i) = true := by
    rw [isData_iff, ADDR_DATA0]
    omega
  have hstored : ((s.ac.storeData i (lowBits 32 n)).autoexec c false (ADDR_DATA0 + i)) =
      s.ac.storeData i (lowBits 32 n) := by
    obtain ⟨hauto, hlast, -⟩ := DMPredictor.storeData_kept s.ac i (lowBits 32 n)
    rw [DMPredictor.autoexec_eq _ _ hauto hlast, AbstractCommand.autoexecArmed, hs.autoexec]
    simp
  have hsub : ADDR_DATA0 + i - ADDR_DATA0 = i := by omega
  simp only [DMPredictor.onWrite, hs.idle, Bool.false_and, Bool.false_eq_true, if_false, hisData,
    Bool.true_or, if_true, AbstractCommand.writeBuffer, hs.cfg, hsub, if_neg (show ¬c.datacount ≤ i by omega),
    lowBits_and_MASK32, hstored]

/-- A write of `command` with a register access moves the register. -/
theorem onWrite_accessRegister (hs : Ready c s) {aarsize : Nat} (ha : aarsize ≤ 3) (write : Bool)
    (regno : Int) :
    s.onWrite ADDR_COMMAND (lowBits 32 (accessRegister aarsize write regno : Nat)) =
      { s with ac := s.ac.accessed aarsize write regno } := by
  rw [lowBits_natCast (accessRegister_lt ha write regno), AbstractCommand.accessed,
    ← executeCommand_accessRegister _ ha]
  have hword : accessRegister aarsize write regno &&& MASK32 = accessRegister aarsize write regno := by
    rw [and_MASK32, Nat.mod_eq_of_lt (accessRegister_lt ha write regno)]
  have hwrite : s.onWrite ADDR_COMMAND (accessRegister aarsize write regno) =
      if s.observedCmdbusy && DMPredictor.guardedWhileBusy ADDR_COMMAND then s
      else { s with ac := s.ac.writeCommand (accessRegister aarsize write regno &&& MASK32) } := rfl
  rw [hwrite, hs.idle, Bool.false_and, if_neg Bool.false_ne_true, hword]
  rfl

end Ready

/-! ## Polling -/

theorem pollUntil_ok {t : MockTransport} {check : Int → Except DebugError Bool} {register : Nat}
    (h : check (t.read register) = .ok true) (msg : String) (polls : Nat) :
    pollUntil t check register msg polls = .ok () := by
  cases polls with
  | zero => rw [pollUntil, h]; rfl
  | succ polls => rw [pollUntil, h]; rfl

/-- A field of a word whose bits are all clear. -/
theorem field_eq_zero {n i k : Nat} (h : ∀ j < k, n.testBit (i + j) = false) : n / 2 ^ i % 2 ^ k = 0 := by
  apply Nat.eq_of_testBit_eq
  intro j
  rw [Nat.testBit_mod_two_pow, Nat.testBit_div_two_pow, Nat.zero_testBit, Nat.add_comm j i]
  by_cases hj : j < k
  · rw [h j hj, Bool.and_false]
  · rw [decide_eq_false hj, Bool.false_and]

/-- A check whose error bits and busy bit are clear. -/
theorem checkStatus_ok {n busyBit errorBit : Nat} (raise : Int → DebugError)
    (herror : ∀ j < 3, n.testBit (errorBit + j) = false) (hbusy : n.testBit busyBit = false) :
    checkStatus busyBit errorBit raise n = .ok true := by
  have hbit : ∀ j < 1, n.testBit (busyBit + j) = false := by
    intro j hj
    rwa [show busyBit + j = busyBit by omega]
  have h₁ : (n : Int) / 2 ^ errorBit % 8 = 0 := by exact_mod_cast field_eq_zero herror
  have h₂ : (n : Int) / 2 ^ busyBit % 2 = 0 := by exact_mod_cast field_eq_zero hbit
  rw [checkStatus, h₁, h₂]
  rfl

/-- The predicted `abstractcs` shows neither a running command nor an error. -/
theorem waitAbstractcs_of_predicted {t : MockTransport}
    (hread : t.read ADDR_ABSTRACTCS = t.predictor.expectAbstractcs) (polls : Nat) :
    waitAbstractcs polls t = .ok () := by
  have hbit : ∀ i, i ∈ [8, 9, 10, 12] → t.predictor.expectAbstractcs.testBit i = false := by
    have hdatacount : ∀ i, 4 ≤ i → Nat.testBit 15 i = false := fun i => testBit_of_lt (by decide)
    intro i hi
    simp only [List.mem_cons, List.not_mem_nil, or_false] at hi
    rcases hi with rfl | rfl | rfl | rfl
    all_goals simp [DMPredictor.expectAbstractcs, Nat.testBit_bool_toNat, hdatacount]
  refine pollUntil_ok ?_ _ _
  rw [hread]
  refine checkStatus_ok _ ?_ (hbit 12 (by simp))
  intro j hj
  refine hbit _ ?_
  simp only [List.mem_cons, List.not_mem_nil, or_false]
  omega

namespace Ready

variable {c : DeclaredConfig} {t : MockTransport}

/-- What is read of a register the predictor has a value for. -/
theorem read_eq (hs : Ready c t.predictor) {addr : Nat} {value : Nat} (known : Bool)
    (hmodel : t.predictor.hasModel addr =
      if !t.predictor.cfgValid then false else if !t.predictor.rc.dmactive then false else known)
    (hvalue : t.predictor.predict addr = value) (hknown : known = true) : t.read addr = value := by
  rw [MockTransport.read, hmodel, hs.cfgValid, hs.active, hvalue, hknown]
  rfl

theorem waitAbstractcs (hs : Ready c t.predictor) (polls : Nat) : waitAbstractcs polls t = .ok () :=
  waitAbstractcs_of_predicted (hs.read_eq true rfl rfl rfl) polls

/-- `sbcs` shows neither a bus access nor an error. -/
theorem waitSbus (hs : Ready c t.predictor) (polls : Nat) : waitSbus polls t = .ok () := by
  have hread : t.read ADDR_SBCS = t.predictor.expectSbcs := hs.read_eq true rfl rfl rfl
  have hbit : ∀ i, i ∈ [12, 13, 14, 21] → t.predictor.expectSbcs.testBit i = false := by
    have hsbaccess : ∀ i, 3 ≤ i → Nat.testBit 7 i = false := fun i => testBit_of_lt (by decide)
    have hsbasize : ∀ i, 7 ≤ i → Nat.testBit 127 i = false := fun i => testBit_of_lt (by decide)
    intro i hi
    rw [DMPredictor.expectSbcs]
    split
    · exact Nat.zero_testBit i
    · simp only [List.mem_cons, List.not_mem_nil, or_false] at hi
      rcases hi with rfl | rfl | rfl | rfl
      all_goals simp [Nat.testBit_bool_toNat, hsbaccess, hsbasize]
  refine pollUntil_ok ?_ _ _
  rw [hread]
  refine checkStatus_ok _ ?_ (hbit 21 (by simp))
  intro j hj
  refine hbit _ ?_
  simp only [List.mem_cons, List.not_mem_nil, or_false]
  omega

end Ready

/-! ## The shadows are the ledger -/

theorem AbstractCommand.transferLo_read_data (ac : AbstractCommand) (r : Nat) :
    (ac.transferLo false r).dataQ = ac.dataQ ∧ (ac.transferLo false r).dataKnown = ac.dataKnown := by
  rw [AbstractCommand.transferLo_read_eq]
  repeat' split
  all_goals exact ⟨rfl, rfl⟩

/-- The register shadows hold what was written, and the upper word only after a 64-bit write. -/
structure KeepsRegs (reg : Nat → Option RegWrite) (ac : AbstractCommand) : Prop where
  lo : ∀ r, ac.shadowRegs.get? r = (reg r).map RegWrite.lo
  hi : ∀ r, ac.shadowHi.get? r = (reg r).bind RegWrite.hi?
  lengthQ : ac.dataQ.length = 12
  lengthKnown : ac.dataKnown.length = 12

namespace KeepsRegs

variable {reg : Nat → Option RegWrite} {ac : AbstractCommand}

theorem lastCommand (h : KeepsRegs reg ac) (n : Nat) : KeepsRegs reg { ac with lastCommand := n } :=
  ⟨h.lo, h.hi, h.lengthQ, h.lengthKnown⟩

/-- A staged value is in no shadow yet. -/
theorem storeData (h : KeepsRegs reg ac) (i value : Nat) : KeepsRegs reg (ac.storeData i value) := by
  unfold AbstractCommand.storeData
  split
  · exact ⟨h.lo, h.hi, h.lengthQ, h.lengthKnown⟩
  · exact ⟨h.lo, h.hi, by simpa using h.lengthQ, by simpa using h.lengthKnown⟩

theorem readHi (h : KeepsRegs reg ac) (r aarsize : Nat) : KeepsRegs reg (ac.transferHi false r aarsize) := by
  unfold AbstractCommand.transferHi
  simp only [Bool.false_eq_true, if_false]
  repeat' split
  · exact ⟨h.lo, h.hi, by simpa using h.lengthQ, by simpa using h.lengthKnown⟩
  · exact ⟨h.lo, h.hi, by simpa using h.lengthQ, by simpa using h.lengthKnown⟩
  · exact ⟨h.lo, h.hi, h.lengthQ, by simpa using h.lengthKnown⟩
  · exact h

theorem readLo (h : KeepsRegs reg ac) (r : Nat) : KeepsRegs reg (ac.transferLo false r) := by
  rw [AbstractCommand.transferLo_read_eq]
  repeat' split
  all_goals exact ⟨h.lo, h.hi, h.lengthQ, h.lengthKnown⟩

/-- A register write puts the staged words into the shadows; a 32-bit one forgets the upper word. -/
theorem write (h : KeepsRegs reg ac) (r : Nat) (w : RegWrite) {aarsize : Nat}
    (hlo : w.lo = ac.stagedData0) (hhi : w.hi? = if aarsize = 3 then some ac.stagedData1 else none) :
    KeepsRegs (Function.update reg r (some w)) ((ac.transferHi true r aarsize).transferLo true r) := by
  have hregs : ∀ r', (ac.shadowRegs.set r ac.stagedData0).get? r' =
      (Function.update reg r (some w) r').map RegWrite.lo := by
    intro r'
    by_cases hr : r' = r
    · subst hr
      rw [Dict.get?_set_self, Function.update_self, Option.map_some, hlo]
    · rw [Dict.get?_set_of_ne hr, Function.update_of_ne hr, h.lo]
  unfold AbstractCommand.transferHi AbstractCommand.transferLo
  by_cases ha : aarsize = 3
  · rw [if_pos ha] at hhi
    rw [beq_iff_eq.mpr ha]
    refine ⟨hregs, ?_, h.lengthQ, h.lengthKnown⟩
    intro r'
    by_cases hr : r' = r
    · subst hr
      rw [Function.update_self, Option.bind_some, hhi]
      exact Dict.get?_set_self _ _ _
    · rw [Function.update_of_ne hr, ← h.hi]
      exact Dict.get?_set_of_ne hr _ _
  · rw [if_neg ha] at hhi
    rw [beq_eq_false_iff_ne.mpr ha]
    refine ⟨hregs, ?_, h.lengthQ, h.lengthKnown⟩
    intro r'
    by_cases hr : r' = r
    · subst hr
      rw [Function.update_self, Option.bind_some, hhi]
      exact Dict.get?_pop_self _ _
    · rw [Function.update_of_ne hr, ← h.hi]
      exact Dict.get?_pop_of_ne hr _

theorem read (h : KeepsRegs reg ac) (aarsize : Nat) (regno : Int) :
    KeepsRegs reg (ac.accessed aarsize false regno) :=
  ((h.lastCommand _).readHi _ _).readLo _

theorem claim_transferLo (h : KeepsRegs reg ac) {r : Nat} {w : RegWrite} (hr : r ≠ GPR_X0_REGNO)
    (ht : ¬Ledger.Trigger r) (hw : reg r = some w) :
    (ac.transferLo false r).data0PendingValid = true ∧
      (ac.transferLo false r).data0PendingValue = w.lo := by
  have hget : ac.shadowRegs.get? r = some w.lo := by rw [h.lo, hw, Option.map_some]
  have hvalid : (ac.transferLo false r).data0PendingValid = true := by
    rw [(ac.transferLo_read r).1, Dict.contains, hget, readsBackAsWritten_of_not_trigger ht]
    simp
  refine ⟨hvalid, ?_⟩
  rw [(ac.transferLo_read r).2 hvalid, if_neg hr, Dict.getD, hget, Option.getD_some]

/-- What a register read claims of `data0`. -/
theorem claim_lo (h : KeepsRegs reg ac) (aarsize : Nat) {regno : Int} {w : RegWrite}
    (hr : lowBits 16 regno ≠ GPR_X0_REGNO) (ht : ¬Ledger.Trigger (lowBits 16 regno))
    (hw : reg (lowBits 16 regno) = some w) :
    (ac.accessed aarsize false regno).data0PendingValid = true ∧
      (ac.accessed aarsize false regno).data0PendingValue = w.lo :=
  ((h.lastCommand _).readHi _ _).claim_transferLo hr ht hw

/-- What a 64-bit register read claims of `data1`. -/
theorem claim_hi (h : KeepsRegs reg ac) {regno : Int} {x : Int}
    (hr : lowBits 16 regno ≠ GPR_X0_REGNO) (ht : ¬Ledger.Trigger (lowBits 16 regno))
    (hw : reg (lowBits 16 regno) = some (.reg64 x)) :
    (ac.accessed 3 false regno).dataKnown[1]? = some true ∧
      (ac.accessed 3 false regno).dataQ[1]? = some (lowBits 32 (x / 2 ^ 32)) := by
  have hget : ac.shadowHi.get? (lowBits 16 regno) = some (lowBits 32 (x / 2 ^ 32)) := by
    rw [h.hi, hw, Option.bind_some, RegWrite.hi?]
  have hx0 : (lowBits 16 regno == GPR_X0_REGNO) = false := beq_eq_false_iff_ne.mpr hr
  obtain ⟨hq, hknown⟩ := AbstractCommand.transferLo_read_data (AbstractCommand.transferHi false
    (lowBits 16 regno) 3 { ac with lastCommand := accessRegister 3 false regno }) (lowBits 16 regno)
  rw [AbstractCommand.accessed, hq, hknown, AbstractCommand.transferHi, hget,
    readsBackAsWritten_of_not_trigger ht, hx0]
  exact ⟨List.getElem?_set_self (by rw [h.lengthKnown]; decide),
    List.getElem?_set_self (by rw [h.lengthQ]; decide)⟩

/-- `x0` is claimed to be 0, in both words if both are read. -/
theorem claim_x0 (h : KeepsRegs reg ac) (aarsize : Nat) {regno : Int}
    (hr : lowBits 16 regno = GPR_X0_REGNO) :
    (ac.accessed aarsize false regno).data0PendingValid = true ∧
      (ac.accessed aarsize false regno).data0PendingValue = 0 ∧
      (aarsize = 3 → (ac.accessed aarsize false regno).dataKnown[1]? = some true ∧
        (ac.accessed aarsize false regno).dataQ[1]? = some 0) := by
  rw [AbstractCommand.accessed, hr]
  refine ⟨rfl, rfl, ?_⟩
  rintro rfl
  exact ⟨List.getElem?_set_self (by rw [h.lengthKnown]; decide),
    List.getElem?_set_self (by rw [h.lengthQ]; decide)⟩

end KeepsRegs

/-! ## Reads -/

namespace Ready

variable {c : DeclaredConfig} {t : MockTransport}

theorem read_data0 (hs : Ready c t.predictor) (hdata : 2 ≤ c.datacount)
    (hvalid : t.predictor.ac.data0PendingValid = true) :
    t.read ADDR_DATA0 = t.predictor.ac.data0PendingValue := by
  have hpredict : t.predictor.predict ADDR_DATA0 = t.predictor.ac.data0PendingValue := by
    change (if t.predictor.cfg.datacount ≤ 0 then 0 else t.predictor.ac.data0PendingValue) = _
    rw [hs.cfg, if_neg (by omega)]
  exact hs.read_eq t.predictor.ac.data0PendingValid rfl hpredict hvalid

theorem read_data1 (hs : Ready c t.predictor) (hdata : 2 ≤ c.datacount) {v : Nat}
    (hknown : t.predictor.ac.dataKnown[1]? = some true) (hv : t.predictor.ac.dataQ[1]? = some v) :
    t.read ADDR_DATA1 = v := by
  have hpredict : t.predictor.predict ADDR_DATA1 = v := by
    change (if t.predictor.cfg.datacount ≤ 1 then 0 else (t.predictor.ac.dataQ[1]?).getD 0) = _
    rw [hs.cfg, if_neg (by omega), hv, Option.getD_some]
  refine hs.read_eq (if decide (1 < t.predictor.cfg.datacount) = true then
    (t.predictor.ac.dataKnown[1]?).getD false else true) rfl hpredict ?_
  rw [hknown]
  split <;> rfl

theorem read_sbdata0 (hs : Ready c t.predictor) (hsba : c.sbaEnable = true)
    (hvalid : t.predictor.sb.sbdata0PendingValid = true) :
    t.read ADDR_SBDATA0 = t.predictor.sb.sbdata0PendingValue := by
  have hpredict : t.predictor.predict ADDR_SBDATA0 = t.predictor.sb.sbdata0PendingValue := by
    change (if t.predictor.cfg.sbaEnable then t.predictor.sb.sbdata0PendingValue else 0) = _
    rw [hs.cfg, if_pos hsba]
  refine hs.read_eq (!t.predictor.cfg.sbaEnable || t.predictor.sb.sbdata0PendingValid) rfl hpredict ?_
  rw [hvalid, Bool.or_true]

end Ready

/-! ## One call -/

/-- The predictor takes commands, and its shadows hold what the ledger says was written. -/
structure Keeps (c : DeclaredConfig) (l : Ledger) (s : DMPredictor) : Prop where
  ready : Ready c s
  regs : KeepsRegs l.reg s.ac
  mem : ∀ a, s.sb.shadowMem.get? a = (l.mem a).map (lowBits 32)

namespace Keeps

variable {c : DeclaredConfig} {l : Ledger} {s : DMPredictor}

/-- A write of `data0` or `data1`. -/
theorem stage (hs : Keeps c l s) (hdata : 2 ≤ c.datacount) {i : Nat} (hi : i < 2) (n : Int) :
    Keeps c l (s.onWrite (ADDR_DATA0 + i) (lowBits 32 n)) := by
  obtain ⟨h₁, h₂, h₃, h₄, h₅⟩ := hs.ready
  have hauto : (s.ac.storeData i (lowBits 32 n)).abstractauto = 0 :=
    (DMPredictor.storeData_kept s.ac i _).1.trans h₅
  rw [hs.ready.onWrite_data hdata hi]
  exact ⟨⟨h₁, h₂, h₃, h₄, hauto⟩, hs.regs.storeData i _, hs.mem⟩

/-- A register access, whatever it leaves in the register shadows. -/
theorem access (hs : Keeps c l s) {aarsize : Nat} (ha : aarsize ≤ 3) (write : Bool) (regno : Int)
    {reg : Nat → Option RegWrite}
    (hregs : KeepsRegs reg (s.ac.accessed aarsize write regno)) :
    Keeps c { l with reg := reg }
      (s.onWrite ADDR_COMMAND (lowBits 32 (accessRegister aarsize write regno : Nat))) := by
  obtain ⟨h₁, h₂, h₃, h₄, h₅⟩ := hs.ready
  rw [hs.ready.onWrite_accessRegister ha]
  refine ⟨⟨h₁, h₂, h₃, h₄, ?_⟩, hregs, hs.mem⟩
  obtain ⟨-, hhi, -⟩ := AbstractCommand.transferHi_shadowRegs
    { s.ac with lastCommand := accessRegister aarsize write regno } write (lowBits 16 regno) aarsize
  exact (AbstractCommand.transferLo_staged _ write _).1.trans (hhi.trans h₅)

/-- A write of a System Bus register, whatever it leaves in the memory shadow. -/
theorem bus (hs : Keeps c l s) {addr : Nat} (haddr : addr ∈ [ADDR_SBCS, ADDR_SBADDRESS0, ADDR_SBDATA0])
    (value : Nat) {mem : Nat → Option Int}
    (hmem : ∀ a, (s.onWrite addr value).sb.shadowMem.get? a = (mem a).map (lowBits 32)) :
    Keeps c { l with mem := mem } (s.onWrite addr value) := by
  obtain ⟨h₁, h₂, h₃, h₄, h₅⟩ := hs.ready
  obtain ⟨-, hcfg, hvalid, hidle⟩ := s.onWrite_static addr value
  have hne : addr ≠ DMCONTROL.address := by
    rintro rfl
    revert haddr
    decide
  have hac : (s.onWrite addr value).ac = s.ac := by
    simp only [List.mem_cons, List.not_mem_nil, or_false] at haddr
    rw [s.onWrite_ac, h₄]
    rcases haddr with rfl | rfl | rfl
    all_goals rfl
  refine ⟨⟨hcfg.trans h₁, hvalid.trans h₂, ?_, hidle.trans h₄, by rw [hac]; exact h₅⟩, ?_, hmem⟩
  · rw [s.onWrite_rc_of_ne hne]
    exact h₃
  · rw [hac]
    exact hs.regs

section
variable {t : MockTransport} (hs : Keeps c l t.predictor) (hdata : 2 ≤ c.datacount) (polls : Nat)
include hs hdata

theorem writeGpr (regno value : Int) :
    let result := RiscvDbg.writeGpr polls t regno value
    Keeps c (l.record (.writeGpr regno value)) result.2.predictor ∧ result.1 = .ok () := by
  intro result
  have hstage := hs.stage hdata (i := 0) (by decide) value
  have hkeep : Keeps c (l.record (.writeGpr regno value)) result.2.predictor := by
    refine hstage.access (by decide) true regno ?_
    refine (hstage.regs.lastCommand _).write _ (.gpr value) ?_ rfl
    rw [hs.ready.onWrite_data hdata (by decide)]
    rfl
  exact ⟨hkeep, hkeep.ready.waitAbstractcs polls⟩

theorem writeReg64 (regno value : Int) :
    let result := RiscvDbg.writeReg64 polls t regno value
    Keeps c (l.record (.writeReg64 regno value)) result.2.predictor ∧ result.1 = .ok () := by
  intro result
  have hlo := lowBits_natCast (lowBits_lt 32 value)
  have hhi := lowBits_natCast (lowBits_lt 32 (value / 2 ^ 32))
  have hstage₀ := hs.stage hdata (i := 0) (by decide) (lowBits 32 value)
  have hstage₁ := hstage₀.stage hdata (i := 1) (by decide) (lowBits 32 (value / 2 ^ 32))
  have hkeep : Keeps c (l.record (.writeReg64 regno value)) result.2.predictor := by
    refine hstage₁.access (by decide) true regno ?_
    refine (hstage₁.regs.lastCommand _).write _ (.reg64 value) ?_ ?_
    · rw [hstage₀.ready.onWrite_data hdata (by decide), hs.ready.onWrite_data hdata (by decide), hlo]
      rfl
    · rw [hstage₀.ready.onWrite_data hdata (by decide), hhi]
      rfl
  exact ⟨hkeep, hkeep.ready.waitAbstractcs polls⟩

/-- The transport after a register read. -/
theorem readRegister (aarsize : Nat) (ha : aarsize ≤ 3) (regno : Int) :
    let t' := t.write ADDR_COMMAND (accessRegister aarsize false regno : Nat)
    Keeps c l t'.predictor ∧
      (lowBits 16 regno = GPR_X0_REGNO →
        t'.read ADDR_DATA0 = 0 ∧ (aarsize = 3 → t'.read ADDR_DATA1 = 0)) ∧
      (lowBits 16 regno ≠ GPR_X0_REGNO → ¬Ledger.Trigger (lowBits 16 regno) →
        (∀ w, l.reg (lowBits 16 regno) = some w → t'.read ADDR_DATA0 = w.lo) ∧
        (∀ x, aarsize = 3 → l.reg (lowBits 16 regno) = some (.reg64 x) →
          t'.read ADDR_DATA1 = lowBits 32 (x / 2 ^ 32))) := by
  intro t'
  have hkeep : Keeps c l t'.predictor := hs.access ha false regno (hs.regs.read aarsize regno)
  have hac : t'.predictor.ac = t.predictor.ac.accessed aarsize false regno :=
    congrArg DMPredictor.ac (hs.ready.onWrite_accessRegister ha false regno)
  refine ⟨hkeep, ?_, ?_⟩
  · intro hx0
    obtain ⟨hvalid, hvalue, hupper⟩ := hs.regs.claim_x0 aarsize hx0
    rw [← hac] at hvalid hvalue hupper
    refine ⟨?_, ?_⟩
    · rw [hkeep.ready.read_data0 hdata hvalid, hvalue]
      rfl
    · intro ha
      exact hkeep.ready.read_data1 hdata (hupper ha).1 (hupper ha).2
  · intro hr ht
    refine ⟨?_, ?_⟩
    · intro w hw
      obtain ⟨hvalid, hvalue⟩ := hs.regs.claim_lo aarsize hr ht hw
      rw [← hac] at hvalid hvalue
      rw [hkeep.ready.read_data0 hdata hvalid, hvalue]
    · rintro x rfl hx
      obtain ⟨hknown, hvalue⟩ := hs.regs.claim_hi hr ht hx
      rw [← hac] at hknown hvalue
      exact hkeep.ready.read_data1 hdata hknown hvalue

theorem readGpr (regno : Int) :
    let result := RiscvDbg.readGpr polls t regno
    Keeps c l result.2.predictor ∧ l.Answers (result.1.map some) (.readGpr regno) := by
  intro result
  obtain ⟨hkeep, hx0, hreg⟩ := hs.readRegister hdata 2 (by decide) regno
  have hwait : RiscvDbg.waitAbstractcs polls result.2 = .ok () := hkeep.ready.waitAbstractcs polls
  have hresult : result.1 = .ok (result.2.read ADDR_DATA0) := by
    change (do RiscvDbg.waitAbstractcs polls result.2; return result.2.read ADDR_DATA0) = _
    rw [hwait]
    rfl
  refine ⟨hkeep, result.2.read ADDR_DATA0, by rw [hresult]; rfl, fun hr => (hx0 hr).1, ?_⟩
  intro hr ht
  obtain ⟨hlo, -⟩ := hreg hr ht
  refine ⟨?_, ?_⟩
  · intro x hx
    rw [← lowBits_cast]
    exact hlo _ hx
  · intro x hx
    rw [← lowBits_cast]
    exact hlo _ hx

theorem readReg64 (regno : Int) :
    let result := RiscvDbg.readReg64 polls t regno
    Keeps c l result.2.predictor ∧ l.Answers (result.1.map some) (.readReg64 regno) := by
  intro result
  obtain ⟨hkeep, hx0, hreg⟩ := hs.readRegister hdata 3 (by decide) regno
  have hwait : RiscvDbg.waitAbstractcs polls result.2 = .ok () := hkeep.ready.waitAbstractcs polls
  have hresult : result.1 = .ok (Int.lor (result.2.read ADDR_DATA1 * 2 ^ 32) (result.2.read ADDR_DATA0)) := by
    change (do RiscvDbg.waitAbstractcs polls result.2; return _) = _
    rw [hwait]
    rfl
  refine ⟨hkeep, _, by rw [hresult]; rfl, ?_, ?_⟩
  · intro hr
    have h₀ : result.2.read ADDR_DATA0 = 0 := (hx0 hr).1
    have h₁ : result.2.read ADDR_DATA1 = 0 := (hx0 hr).2 rfl
    rw [h₀, h₁]
    rfl
  · intro hr ht x hx
    have h₀ : result.2.read ADDR_DATA0 = lowBits 32 x := (hreg hr ht).1 _ hx
    have h₁ : result.2.read ADDR_DATA1 = lowBits 32 (x / 2 ^ 32) := (hreg hr ht).2 x rfl hx
    rw [h₀, h₁, lor_words _ (lowBits_lt 32 x), lowBits_cast, lowBits_cast, two_words]

end

/-! ### Memory -/

theorem shadowMem_sbaAutoincrement (cfg : DeclaredConfig) (sb : SystemBus) :
    (sb.sbaAutoincrement cfg).shadowMem = sb.shadowMem := by
  unfold SystemBus.sbaAutoincrement
  split <;> rfl

/-- A bus read leaves the memory shadow. -/
theorem shadowMem_writeSbaddress0 (cfg : DeclaredConfig) (sb : SystemBus) (a : Nat) :
    (sb.writeSbaddress0 cfg a).shadowMem = sb.shadowMem := by
  unfold SystemBus.writeSbaddress0
  dsimp only
  split
  · rw [shadowMem_sbaAutoincrement]
    unfold SystemBus.sbaArmRead
    split <;> rfl
  · rfl

/-- The bus part of a word read: `sbcs` with `sbreadonaddr`, then the address. -/
theorem bus_read (cfg : DeclaredConfig) (sb : SystemBus) {a v : Nat} (hv : sb.shadowMem.get? a = some v) :
    let sb' := (sb.writeSbcs cfg (1 <<< 20 ||| 2 <<< 17)).writeSbaddress0 cfg a
    sb'.sbdata0PendingValid = true ∧ sb'.sbdata0PendingValue = v := by
  intro sb'
  let addressed := { sb.writeSbcs cfg (1 <<< 20 ||| 2 <<< 17) with sbaddress0 := a }
  have hget : addressed.shadowMem.get? a = some v := hv
  have hsb : sb' = (addressed.sbaArmRead a).sbaAutoincrement cfg := rfl
  rw [hsb, SystemBus.sbaArmRead, hget]
  exact ⟨rfl, rfl⟩

/-- `sbcs`, and then `sbaddress0`. -/
theorem address (hs : Keeps c l s) (value : Nat) (addr : Int) :
    let s' := (s.onWrite ADDR_SBCS value).onWrite ADDR_SBADDRESS0 (lowBits 32 addr)
    Keeps c l s' ∧
      s'.sb = (s.sb.writeSbcs c (value &&& MASK32)).writeSbaddress0 c (lowBits 32 addr) := by
  intro s'
  have hsb₁ : (s.onWrite ADDR_SBCS value).sb = s.sb.writeSbcs c (value &&& MASK32) := by
    rw [s.onWrite_sb (by decide), hs.ready.cfg]
    rfl
  have hs₁ : Keeps c l (s.onWrite ADDR_SBCS value) := by
    refine hs.bus (by decide) value ?_
    rw [hsb₁]
    exact hs.mem
  have hsb₂ : s'.sb = (s.sb.writeSbcs c (value &&& MASK32)).writeSbaddress0 c (lowBits 32 addr) := by
    rw [DMPredictor.onWrite_sb _ (by decide), hs₁.ready.cfg, lowBits_and_MASK32, hsb₁]
    rfl
  refine ⟨hs₁.bus (by decide) _ ?_, hsb₂⟩
  rw [hsb₂, shadowMem_writeSbaddress0]
  exact hs.mem

section
variable {t : MockTransport} (hs : Keeps c l t.predictor) (polls : Nat)
include hs

theorem writeMem32 (addr data : Int) :
    let result := RiscvDbg.writeMem32 polls t addr data
    Keeps c (l.record (.writeMem32 addr data)) result.2.predictor ∧ result.1 = .ok () := by
  intro result
  obtain ⟨haddr, hsb⟩ := hs.address (2 <<< 17) addr
  have hmem : result.2.predictor.sb.shadowMem =
      t.predictor.sb.shadowMem.set (lowBits 32 addr) (lowBits 32 data) := by
    change (((t.predictor.onWrite ADDR_SBCS (2 <<< 17)).onWrite ADDR_SBADDRESS0 (lowBits 32 addr)).onWrite
      ADDR_SBDATA0 (lowBits 32 data)).sb.shadowMem = _
    rw [DMPredictor.onWrite_sb _ (by decide), lowBits_and_MASK32, haddr.ready.cfg, hsb]
    rfl
  have hkeep : Keeps c (l.record (.writeMem32 addr data)) result.2.predictor := by
    refine haddr.bus (by decide) _ ?_
    intro a
    refine (congrArg (Dict.get? · a) hmem).trans ?_
    by_cases ha : a = lowBits 32 addr
    · subst ha
      rw [Dict.get?_set_self, Function.update_self, Option.map_some]
    · rw [Dict.get?_set_of_ne ha, Function.update_of_ne ha]
      exact hs.mem a
  exact ⟨hkeep, hkeep.ready.waitSbus polls⟩

theorem readMem32 (hsba : c.sbaEnable = true) (addr : Int) :
    let result := RiscvDbg.readMem32 polls t addr
    Keeps c l result.2.predictor ∧ l.Answers (result.1.map some) (.readMem32 addr) := by
  intro result
  obtain ⟨hkeep, hsb⟩ := hs.address (1 <<< 20 ||| 2 <<< 17) addr
  have hwait : RiscvDbg.waitSbus polls result.2 = .ok () := hkeep.ready.waitSbus polls
  have hresult : result.1 = .ok (result.2.read ADDR_SBDATA0) := by
    change (do RiscvDbg.waitSbus polls result.2; return result.2.read ADDR_SBDATA0) = _
    rw [hwait]
    rfl
  refine ⟨hkeep, result.2.read ADDR_SBDATA0, by rw [hresult]; rfl, ?_⟩
  intro x hx
  have hget : t.predictor.sb.shadowMem.get? (lowBits 32 addr) = some (lowBits 32 x) := by
    rw [hs.mem, hx, Option.map_some]
  obtain ⟨hvalid, hvalue⟩ := bus_read c t.predictor.sb hget
  change result.2.predictor.sb = _ at hsb
  rw [hkeep.ready.read_sbdata0 hsba (by rw [hsb]; exact hvalid), ← lowBits_cast, ← hvalue]
  exact congrArg (fun sb : SystemBus => (sb.sbdata0PendingValue : Int)) hsb

end

/-- **One call** answers as the ledger says, and its writes are recorded. -/
theorem perform {t : MockTransport} (hs : Keeps c l t.predictor) (hsba : c.sbaEnable = true)
    (hdata : 2 ≤ c.datacount) (polls : Nat) (call : ApiCall) :
    Keeps c (l.record call) (call.perform polls t).2.predictor ∧
      l.Answers (call.perform polls t).1 call := by
  cases call with
  | writeGpr regno value =>
    obtain ⟨hkeep, hok⟩ := hs.writeGpr hdata polls regno value
    exact ⟨hkeep, congrArg (Except.map fun _ => none) hok⟩
  | readGpr regno => exact hs.readGpr hdata polls regno
  | writeReg64 regno value =>
    obtain ⟨hkeep, hok⟩ := hs.writeReg64 hdata polls regno value
    exact ⟨hkeep, congrArg (Except.map fun _ => none) hok⟩
  | readReg64 regno => exact hs.readReg64 hdata polls regno
  | writeMem32 addr data =>
    obtain ⟨hkeep, hok⟩ := hs.writeMem32 polls addr data
    exact ⟨hkeep, congrArg (Except.map fun _ => none) hok⟩
  | readMem32 addr => exact hs.readMem32 polls hsba addr

end Keeps

/-! ## Sessions -/

/-- After `activate` nothing is in the shadows. -/
theorem keeps_activated (p : Params) (c : DeclaredConfig) : Keeps c .blank (activated p c).predictor := by
  let s := (DMPredictor.init p).setConfig c
  have hpredictor : (activated p c).predictor = s.writeDmcontrol (1 ||| 1 <<< 28) :=
    s.onWrite_dmcontrol (1 ||| 1 <<< 28)
  have hac : (s.rc.writeActive s.params s.ac (1 ||| 1 <<< 28)).2 = s.ac := by
    rw [RunControl.writeActive_snd]
    split <;> rfl
  rw [hpredictor, s.writeDmcontrol_active (by decide), hac, RunControl.writeActive_fst]
  refine ⟨⟨rfl, rfl, rfl, rfl, rfl⟩, ⟨?_, ?_, rfl, rfl⟩, ?_⟩
  all_goals
    intro k
    rfl

/-- In every session the shadows are what its writes leave in the ledger. -/
theorem keeps_afterCalls (p : Params) {c : DeclaredConfig} (hsba : c.sbaEnable = true)
    (hdata : 2 ≤ c.datacount) (polls : Nat) (calls : List ApiCall) :
    Keeps c (Ledger.after calls) (afterCalls polls (activated p c) calls).predictor := by
  refine Runs.run_related (R := fun l (t : MockTransport) => Keeps c l t.predictor) ?_ calls .blank
    (activated p c) (keeps_activated p c) (Runs.always_true calls _)
  intro l t call hs _
  exact (hs.perform hsba hdata polls call).1

/-- **Read your writes.**  For every declared configuration with `sba_enable` and two data words, and
after every session of register and memory calls that follows `activate`: no call raises; `x0` reads 0;
any other register that is no trigger CSR reads as it was last written, `read_gpr` its lower word and
`read_reg64`, after a 64-bit write, both; and a memory word reads as it was last written. -/
theorem read_your_writes (p : Params) (c : DeclaredConfig) (hsba : c.sbaEnable = true)
    (hdata : 2 ≤ c.datacount) (polls : Nat) (calls : List ApiCall) (call : ApiCall) :
    (Ledger.after calls).Answers (call.perform polls (afterCalls polls (activated p c) calls)).1 call :=
  ((keeps_afterCalls p hsba hdata polls calls).perform hsba hdata polls call).2

/-- A 64-bit register read back after a 32-bit write of another one and a memory write, which use the
same registers. -/
theorem read_your_writes_reg64 :
    let c : DeclaredConfig := { sbaEnable := true, datacount := 2 }
    let calls : List ApiCall := [.writeReg64 0x1005 (-2), .writeGpr 0x1006 7, .writeMem32 0x100 5]
    (ApiCall.perform 0 (afterCalls 0 (activated {} c) calls) (.readReg64 0x1005)).1 =
      .ok (some (2 ^ 64 - 2)) := by
  intro c calls
  obtain ⟨v, hv, -, hreg⟩ := read_your_writes {} c rfl (by decide) 0 calls (.readReg64 0x1005)
  rw [hv, hreg (by decide) (by decide) (-2) rfl]
  rfl

end RiscvDbg
