import RiscvDbg.Api.Debug
import RiscvDbg.BusRegisters
import RiscvDbg.Predictor.Commands

/-!
# Reads on the model-backed mock

`ModelBackedMockTransport.read` asks the predictor for its claim and returns it.  It never calls
`observe_read`, so the mock stays where it was while the checker's model moves on.

* `MockCall` — a call on the transport; `MockCall.dmi` — the access the model makes of it.
* `SystemBus.Settled`, `AbstractCommand.Repeats` — the read-ahead, and the re-execution of a command, that
  find everything already in place: `sbdata0ReadEffects_eq_self_iff`, `executeCommand_eq_self_iff`.
* `DMPredictor.ReadInert` — a read that starts nothing or only such.
* `mock_is_model_iff` — **the mock is the model exactly as long as every read is inert.**
-/

set_option autoImplicit false

namespace RiscvDbg

/-! ## The read-ahead of the system bus -/

theorem add_two_pow_mod_eq_iff {a w k : Nat} (ha : a < 2 ^ w) : (a + 2 ^ k) % 2 ^ w = a ↔ w ≤ k := by
  constructor
  · intro heq
    by_contra hk
    have hlt : 2 ^ k < 2 ^ w := Nat.pow_lt_pow_right (by decide) (by omega)
    have hpos : 0 < 2 ^ k := Nat.two_pow_pos k
    by_cases hsum : a + 2 ^ k < 2 ^ w
    · rw [Nat.mod_eq_of_lt hsum] at heq
      omega
    · rw [Nat.mod_eq_sub_mod (by omega), Nat.mod_eq_of_lt (by omega)] at heq
      omega
  · intro hk
    obtain ⟨d, rfl⟩ := Nat.exists_eq_add_of_le hk
    rw [Nat.pow_add, Nat.add_mul_mod_self_left, Nat.mod_eq_of_lt ha]

namespace SystemBus

variable {cfg : DeclaredConfig} {sb : SystemBus}

/-- Both address words are words. -/
def Fits (sb : SystemBus) : Prop := sb.sbaddress0 < 2 ^ 32 ∧ sb.sbaddress1 < 2 ^ 32

/-- How many address bits the increment reaches. -/
def addressBits (cfg : DeclaredConfig) : Nat := if cfg.sbasize > 32 then 64 else 32

/-- The next read-ahead finds what the last one found: no prediction for `sbdata1`, the recorded word
for `sbdata0`, and an address that stays where it is. -/
structure Settled (cfg : DeclaredConfig) (sb : SystemBus) : Prop where
  sbdata1 : sb.sbdata1Known = false
  valid : sb.sbdata0PendingValid = (sb.shadowMem.get? sb.sbaddress0).isSome
  value : ∀ v ∈ sb.shadowMem.get? sb.sbaddress0, sb.sbdata0PendingValue = v
  address : sb.sbautoincrement = true → addressBits cfg ≤ sb.sbaccess

/-- A stride of at least 2 ^ 32 goes to the upper word whole. -/
theorem carry (hfits : sb.Fits) (d : Nat) : (sb.address + 2 ^ (32 + d)) / 2 ^ 32 = sb.sbaddress1 + 2 ^ d := by
  have hlt := hfits.1
  have hpow : 2 ^ (32 + d) = 2 ^ 32 * 2 ^ d := Nat.pow_add 2 32 d
  rw [address, hpow]
  omega

theorem sbaAutoincrement_eq_self_iff (hfits : sb.Fits) :
    sb.sbaAutoincrement cfg = sb ↔ (sb.sbautoincrement = true → addressBits cfg ≤ sb.sbaccess) := by
  cases hinc : sb.sbautoincrement with
  | false => simp [sbaAutoincrement, hinc]
  | true =>
    rw [sbaAutoincrement_eq cfg sb hinc hfits.1]
    have hlow := add_two_pow_mod_eq_iff (k := sb.sbaccess) hfits.1
    constructor
    · intro heq _
      have h₀ := hlow.mp (congrArg SystemBus.sbaddress0 heq)
      unfold addressBits
      split
      · rename_i hwide
        -- the carry into the upper word is at least 1, and only a multiple of 2 ^ 32 is lost
        have h₁ := congrArg SystemBus.sbaddress1 heq
        dsimp only at h₁
        rw [if_pos hwide] at h₁
        obtain ⟨d, hd⟩ := Nat.exists_eq_add_of_le h₀
        rw [hd, carry hfits] at h₁
        have hbits := (add_two_pow_mod_eq_iff hfits.2).mp h₁
        omega
      · exact h₀
    · intro hbits
      have hle := hbits rfl
      unfold addressBits at hle
      have h₀ : (sb.sbaddress0 + 2 ^ sb.sbaccess) % 2 ^ 32 = sb.sbaddress0 :=
        hlow.mpr (by split at hle <;> omega)
      by_cases hwide : cfg.sbasize > 32
      · rw [if_pos hwide] at hle
        obtain ⟨d, hd⟩ := Nat.exists_eq_add_of_le (show 32 ≤ sb.sbaccess by omega)
        have h₁ : (sb.address + 2 ^ sb.sbaccess) / 2 ^ 32 % 2 ^ 32 = sb.sbaddress1 := by
          rw [hd, carry hfits]
          exact (add_two_pow_mod_eq_iff hfits.2).mpr (by omega)
        simp only [h₀, if_pos hwide, h₁]
      · simp only [h₀, if_neg hwide]

theorem sbaArmRead_eq (a : Nat) :
    sb.sbaArmRead a =
      { sb with
        sbdata1Known := false
        sbdata0PendingValid := (sb.shadowMem.get? a).isSome
        sbdata0PendingValue := (sb.shadowMem.get? a).getD sb.sbdata0PendingValue } := by
  unfold sbaArmRead
  cases sb.shadowMem.get? a <;> rfl

/-- The read-ahead changes nothing exactly if it is settled. -/
theorem armRead_autoincrement_eq_self_iff (hfits : sb.Fits) :
    (sb.sbaArmRead sb.sbaddress0).sbaAutoincrement cfg = sb ↔ sb.Settled cfg := by
  have hkeep : ∀ sb' : SystemBus, (sb'.sbaAutoincrement cfg).sbdata1Known = sb'.sbdata1Known ∧
      (sb'.sbaAutoincrement cfg).sbdata0PendingValid = sb'.sbdata0PendingValid ∧
      (sb'.sbaAutoincrement cfg).sbdata0PendingValue = sb'.sbdata0PendingValue := by
    intro sb'
    unfold sbaAutoincrement
    split <;> exact ⟨rfl, rfl, rfl⟩
  have hsame : sb.sbdata1Known = false → sb.sbdata0PendingValid = (sb.shadowMem.get? sb.sbaddress0).isSome →
      (∀ v ∈ sb.shadowMem.get? sb.sbaddress0, sb.sbdata0PendingValue = v) →
      sb.sbaArmRead sb.sbaddress0 = sb := by
    intro h₁ h₂ h₃
    rw [sbaArmRead_eq, ← h₁, ← h₂]
    cases hget : sb.shadowMem.get? sb.sbaddress0 with
    | none => rfl
    | some v => rw [Option.getD_some, ← h₃ v hget]
  constructor
  · intro heq
    obtain ⟨hk₁, hk₂, hk₃⟩ := hkeep (sb.sbaArmRead sb.sbaddress0)
    rw [heq, sbaArmRead_eq] at hk₁ hk₂ hk₃
    have hvalue : ∀ v ∈ sb.shadowMem.get? sb.sbaddress0, sb.sbdata0PendingValue = v := by
      intro v hv
      rw [Option.mem_def.mp hv] at hk₃
      exact hk₃
    refine ⟨hk₁, hk₂, hvalue, ?_⟩
    rw [hsame hk₁ hk₂ hvalue] at heq
    exact (sbaAutoincrement_eq_self_iff hfits).mp heq
  · rintro ⟨h₁, h₂, h₃, h₄⟩
    rw [hsame h₁ h₂ h₃]
    exact (sbaAutoincrement_eq_self_iff hfits).mpr h₄

theorem sbdata0ReadEffects_eq_self_iff (hfits : sb.Fits) :
    sb.sbdata0ReadEffects cfg = sb ↔ (sb.sbreadondata = true → sb.Settled cfg) := by
  unfold sbdata0ReadEffects
  cases sb.sbreadondata with
  | false => simp
  | true => simpa using armRead_autoincrement_eq_self_iff hfits

theorem word_lt (n : Nat) : n &&& MASK32 < 2 ^ 32 := by
  rw [and_MASK32]
  exact Nat.mod_lt n (by decide)

theorem Fits.sbaAutoincrement (hfits : sb.Fits) : (sb.sbaAutoincrement cfg).Fits := by
  unfold SystemBus.sbaAutoincrement
  split
  · exact hfits
  · refine ⟨word_lt _, ?_⟩
    dsimp only
    split
    · exact word_lt _
    · exact hfits.2

theorem Fits.sbaArmRead (hfits : sb.Fits) (a : Nat) : (sb.sbaArmRead a).Fits := by
  rw [sbaArmRead_eq]; exact hfits

theorem Fits.sbdata0ReadEffects (hfits : sb.Fits) : (sb.sbdata0ReadEffects cfg).Fits := by
  unfold SystemBus.sbdata0ReadEffects
  split
  · exact (hfits.sbaArmRead _).sbaAutoincrement
  · exact hfits

theorem Fits.writeSbaddress0 (hfits : sb.Fits) (value : Nat) :
    (sb.writeSbaddress0 cfg (value &&& MASK32)).Fits := by
  have hset : ({ sb with sbaddress0 := value &&& MASK32 } : SystemBus).Fits := ⟨word_lt value, hfits.2⟩
  unfold SystemBus.writeSbaddress0
  dsimp only
  split
  · exact (hset.sbaArmRead _).sbaAutoincrement
  · exact hset

theorem Fits.access (hfits : sb.Fits) (d : Dmi) : (sb.access cfg d).Fits := by
  cases d with
  | read addr =>
    show (if addr = ADDR_SBDATA0 then sb.sbdata0ReadEffects cfg else sb).Fits
    split
    · exact hfits.sbdata0ReadEffects
    · exact hfits
  | write addr value =>
    simp only [SystemBus.access]
    repeat' split
    · exact ⟨hfits.1, word_lt value⟩
    · exact hfits
    · exact hfits
    · exact hfits.writeSbaddress0 value
    · -- the memory is no part of the condition
      refine Fits.sbaAutoincrement ?_
      exact hfits
    · exact hfits

end SystemBus

namespace DMPredictor

variable {s : DMPredictor}

theorem resetDm_fits (powerOn : Bool) : (s.resetDm powerOn).sb.Fits :=
  ⟨Nat.two_pow_pos 32, Nat.two_pow_pos 32⟩

theorem apply_fits (hs : s.sb.Fits) (d : Dmi) : (d.apply s).sb.Fits := by
  by_cases hd : d.SparesDmcontrol
  · rw [apply_sb hd]
    exact hs.access d
  · unfold Dmi.SparesDmcontrol at hd
    push Not at hd
    obtain ⟨value, rfl⟩ := hd
    show (s.onWrite DMCONTROL.address value).sb.Fits
    rw [onWrite_dmcontrol]
    cases hv : value.testBit 0 with
    | false => rw [writeDmcontrol_inactive s hv]; exact resetDm_fits false
    | true => rw [writeDmcontrol_active s hv]; exact hs

/-- The address words fit after every input. -/
theorem Booted.run_fits (hs : s.Booted) (is : List Input) : (s.run is).sb.Fits := by
  have hfits : s.sb.Fits := by
    cases hs with
    | constructed p => exact resetDm_fits true
    | configured p c => exact resetDm_fits true
  refine Runs.run_invariant (P := fun t : DMPredictor => t.sb.Fits) ?_ is s hfits (Runs.always_true is s)
  intro t i ht _
  cases i with
  | setConfig c => exact resetDm_fits true
  | resetDm powerOn => exact resetDm_fits powerOn
  | setObservedCmdbusy busy => exact ht
  | onWrite addr value => exact apply_fits ht (.write addr value)
  | observeRead addr => exact apply_fits ht (.read addr)
  | observeSbdata0Read =>
    have hread : (t.sb.access t.cfg (.read ADDR_SBDATA0)).Fits := ht.access _
    exact hread
  | syncObservedHartSignals w => exact ht

end DMPredictor

/-! ## Running a command again -/

namespace AbstractCommand

variable {ac : AbstractCommand} {value : Nat}

/-- What a read of register `r` finds in a shadow. -/
def found (shadow : Dict Nat Nat) (r : Nat) : Option Nat :=
  if r = GPR_X0_REGNO then some 0 else if readsBackAsWritten r then shadow.get? r else none

theorem transferLo_found (r : Nat) :
    ac.transferLo false r =
      { ac with
        data0PendingValid := (found ac.shadowRegs r).isSome
        data0PendingValue := (found ac.shadowRegs r).getD ac.data0PendingValue } := by
  unfold transferLo found
  by_cases hx : r = GPR_X0_REGNO
  · simp [hx]
  · simp only [Bool.false_eq_true, if_false, beq_iff_eq, hx]
    cases ac.shadowRegs.get? r with
    | none => cases readsBackAsWritten r <;> rfl
    | some v => cases readsBackAsWritten r <;> rfl

theorem transferHi_found (r : Nat) :
    ac.transferHi false r 3 =
      { ac with
        dataQ := ((found ac.shadowHi r).map (ac.dataQ.set 1)).getD ac.dataQ
        dataKnown := ac.dataKnown.set 1 (found ac.shadowHi r).isSome } := by
  unfold transferHi found
  by_cases hx : r = GPR_X0_REGNO
  · simp [hx]
  · simp only [beq_self_eq_true, Bool.false_eq_true, if_true, if_false, beq_iff_eq, hx]
    cases ac.shadowHi.get? r with
    | none => cases readsBackAsWritten r <;> rfl
    | some v => cases readsBackAsWritten r <;> rfl

theorem transferHi_read_of_ne {size : Nat} (h : size ≠ 3) (r : Nat) : ac.transferHi false r size = ac := by
  simp [transferHi, h]

/-- A command that finds everything as it would leave it. -/
@[mk_iff]
structure Repeats (ac : AbstractCommand) (value : Nat) : Prop where
  /-- A register write that no `postexec` undoes is recorded already, in both words. -/
  written : Command.transfer value = true → Command.write value = true → Command.postexec value = false →
    ac.shadowRegs.get? (Command.regno value) = some ac.stagedData0 ∧
    ac.shadowHi.get? (Command.regno value) = if Command.aarsize value = 3 then some ac.stagedData1 else none
  /-- What a register read finds is predicted for `data0` already, and for `data1` if it is that wide. -/
  read : Command.transfer value = true → Command.write value = false →
    (ac.data0PendingValid = (found ac.shadowRegs (Command.regno value)).isSome ∧
      ∀ v ∈ found ac.shadowRegs (Command.regno value), ac.data0PendingValue = v) ∧
    (Command.aarsize value = 3 →
      (∀ b ∈ ac.dataKnown[1]?, b = (found ac.shadowHi (Command.regno value)).isSome) ∧
      ∀ v ∈ found ac.shadowHi (Command.regno value), ∀ x ∈ ac.dataQ[1]?, x = v)
  /-- There is no shadow for `postexec` to clear. -/
  cleared : Command.postexec value = true → ac.shadowRegs = .empty ∧ ac.shadowHi = .empty

theorem set_eq_self_iff {α : Type} (l : List α) (i : Nat) (a : α) : l.set i a = l ↔ ∀ x ∈ l[i]?, x = a := by
  constructor
  · intro heq x hx
    have hlt : i < l.length := (List.getElem?_eq_some_iff.mp (Option.mem_def.mp hx)).1
    have hget := List.getElem?_set_self (a := a) hlt
    rw [heq, Option.mem_def.mp hx, Option.some.injEq] at hget
    exact hget
  · intro h
    apply List.ext_getElem?
    intro j
    rw [List.getElem?_set]
    split
    · rename_i hij
      subst hij
      split
      · rename_i hlt
        rw [List.getElem?_eq_getElem hlt, ← h _ (List.getElem?_eq_getElem hlt)]
      · rename_i hge
        rw [List.getElem?_eq_none (by omega)]
    · rfl

theorem dict_set_eq_self_iff (d : Dict Nat Nat) (k v : Nat) : d.set k v = d ↔ d.get? k = some v := by
  constructor
  · intro heq
    rw [← heq, Dict.get?_set_self]
  · intro h
    ext k'
    rw [Dict.get?_set]
    split
    · rename_i hk; rw [hk, h]
    · rfl

theorem dict_pop_eq_self_iff (d : Dict Nat Nat) (k : Nat) : d.pop k = d ↔ d.get? k = none := by
  constructor
  · intro heq
    rw [← heq, Dict.get?_pop_self]
  · intro h
    ext k'
    rw [Dict.get?_pop]
    split
    · rename_i hk; rw [hk, h]
    · rfl

attribute [ext] AbstractCommand

/-- A register write changes nothing exactly if both words are recorded. -/
theorem transfer_write_eq (r size : Nat) :
    (ac.transferHi true r size).transferLo true r =
      { ac with
        shadowHi := if size = 3 then ac.shadowHi.set r ac.stagedData1 else ac.shadowHi.pop r
        shadowRegs := ac.shadowRegs.set r ac.stagedData0 } := by
  by_cases hsize : size = 3
  · simp [transferHi, transferLo, hsize]
  · simp [transferHi, transferLo, hsize]

theorem transfer_read_eq (r size : Nat) :
    (ac.transferHi false r size).transferLo false r =
      { ac with
        dataQ := if size = 3 then ((found ac.shadowHi r).map (ac.dataQ.set 1)).getD ac.dataQ else ac.dataQ
        dataKnown := if size = 3 then ac.dataKnown.set 1 (found ac.shadowHi r).isSome else ac.dataKnown
        data0PendingValid := (found ac.shadowRegs r).isSome
        data0PendingValue := (found ac.shadowRegs r).getD ac.data0PendingValue } := by
  rw [transferLo_found]
  by_cases hsize : size = 3
  · subst hsize
    rw [transferHi_found]
    rfl
  · rw [transferHi_read_of_ne hsize]
    simp only [if_neg hsize]

theorem getD_eq_self_iff {α : Type} (o : Option α) (a : α) : o.getD a = a ↔ ∀ v ∈ o, a = v := by
  cases o with
  | none => simp
  | some v => simp [eq_comm]

theorem map_set_eq_self_iff (o : Option Nat) (l : List Nat) (i : Nat) :
    (o.map (l.set i)).getD l = l ↔ ∀ v ∈ o, ∀ x ∈ l[i]?, x = v := by
  cases o with
  | none => simp
  | some v => simpa using set_eq_self_iff l i v

theorem clearShadow_eq_self_iff :
    ac.clearShadow = ac ↔ ac.shadowRegs = .empty ∧ ac.shadowHi = .empty := by
  simp [clearShadow, AbstractCommand.ext_iff, eq_comm]

/-- An accepted command changes nothing exactly if it repeats. -/
theorem executeCommand_eq_self_iff (h : Command.accepted value = true) :
    ac.executeCommand value = ac ↔ ac.Repeats value := by
  rw [executeCommand_of_accepted ac h, repeats_iff]
  cases ht : Command.transfer value with
  | false =>
    cases hp : Command.postexec value with
    | false => simp
    | true => simpa using clearShadow_eq_self_iff
  | true =>
    cases hw : Command.write value with
    | true =>
      simp only [transfer_write_eq, if_true]
      cases hp : Command.postexec value with
      | true => simp [clearShadow, AbstractCommand.ext_iff, eq_comm (a := Dict.empty)]
      | false =>
        by_cases hsize : Command.aarsize value = 3
        · simp [AbstractCommand.ext_iff, hsize, dict_set_eq_self_iff]
        · simp [AbstractCommand.ext_iff, hsize, dict_set_eq_self_iff, dict_pop_eq_self_iff]
    | false =>
      simp only [transfer_read_eq, if_true]
      rw [eq_comm (a := ac.data0PendingValid)]
      cases hp : Command.postexec value with
      | true =>
        by_cases hsize : Command.aarsize value = 3
        · simp only [clearShadow, AbstractCommand.ext_iff, hsize, if_true, map_set_eq_self_iff]
          simp [set_eq_self_iff, getD_eq_self_iff, eq_comm (a := Dict.empty)]
          tauto
        · simp [clearShadow, AbstractCommand.ext_iff, hsize, getD_eq_self_iff, eq_comm (a := Dict.empty)]
          tauto
      | false =>
        by_cases hsize : Command.aarsize value = 3
        · simp only [Bool.false_eq_true, if_false, AbstractCommand.ext_iff, hsize, if_true, map_set_eq_self_iff]
          simp [set_eq_self_iff, getD_eq_self_iff]
          tauto
        · simp [AbstractCommand.ext_iff, hsize, getD_eq_self_iff]

end AbstractCommand

/-! ## The mock -/

namespace DMPredictor

variable {s : DMPredictor} {addr : Nat}

/-- A read that starts no bus read and runs no command, or only such as find everything in place. -/
structure ReadInert (s : DMPredictor) (addr : Nat) : Prop where
  readAhead : addr = ADDR_SBDATA0 → s.sb.sbreadondata = true → s.sb.Settled s.cfg
  command : AbstractCommand.implemented s.cfg addr = true →
    s.ac.autoexecArmed s.cfg s.observedCmdbusy addr = true →
    Command.accepted s.ac.lastCommand = true → s.ac.Repeats s.ac.lastCommand

theorem observeRead_ac_eq_self_iff :
    s.ac.observeRead s.cfg s.observedCmdbusy addr = s.ac ↔
      (AbstractCommand.implemented s.cfg addr = true →
        s.ac.autoexecArmed s.cfg s.observedCmdbusy addr = true →
        Command.accepted s.ac.lastCommand = true → s.ac.Repeats s.ac.lastCommand) := by
  unfold AbstractCommand.observeRead AbstractCommand.autoexec
  cases AbstractCommand.implemented s.cfg addr with
  | false => simp
  | true =>
    cases s.ac.autoexecArmed s.cfg s.observedCmdbusy addr with
    | false => simp
    | true =>
      cases hacc : Command.accepted s.ac.lastCommand with
      | false => simp [s.ac.executeCommand_of_not_accepted hacc]
      | true => simpa using AbstractCommand.executeCommand_eq_self_iff hacc

/-- `observe_read` changes nothing exactly if the read is inert. -/
theorem observeRead_eq_self_iff (hs : s.sb.Fits) : s.observeRead addr = s ↔ s.ReadInert addr := by
  constructor
  · intro heq
    have hsb := s.observeRead_sb addr
    have hac := s.observeRead_ac addr
    rw [heq] at hsb hac
    refine ⟨?_, observeRead_ac_eq_self_iff.mp hac.symm⟩
    intro haddr
    rw [if_pos haddr] at hsb
    exact (SystemBus.sbdata0ReadEffects_eq_self_iff hs).mp hsb.symm
  · rintro ⟨hahead, hcommand⟩
    have hac := observeRead_ac_eq_self_iff.mpr hcommand
    by_cases haddr : addr = ADDR_SBDATA0
    · have hsb := (SystemBus.sbdata0ReadEffects_eq_self_iff hs).mpr (hahead haddr)
      simp only [observeRead, if_pos haddr, hsb, hac]
    · simp only [observeRead, if_neg haddr, hac]

end DMPredictor

/-- A call on the transport. -/
inductive MockCall where
  | read (addr : Nat)
  | write (addr : Nat) (data : Int)

namespace MockCall

/-- The transport after the call: a read leaves it as it is. -/
def perform (t : MockTransport) : MockCall → MockTransport
  | .read _ => t
  | .write addr data => t.write addr data

/-- The access the model makes of the call. -/
def dmi : MockCall → Dmi
  | .read addr => .read addr
  | .write addr data => .write addr (lowBits 32 data)

/-- The call is no read, or an inert one. -/
def Inert (t : MockTransport) : MockCall → Prop
  | .read addr => t.predictor.ReadInert addr
  | .write _ _ => True

end MockCall

/-- After every call the predictor is where `on_write` and `observe_read` lead it. -/
def MockTransport.IsModel (t : MockTransport) (calls : List MockCall) : Prop :=
  ∀ js, js <+: calls →
    (Runs.run MockCall.perform t js).predictor = Runs.run Dmi.apply t.predictor (js.map MockCall.dmi)

namespace MockTransport

variable {t : MockTransport}

/-- The step: a call keeps the mock and the model together exactly if it is inert. -/
theorem perform_eq_apply_iff (ht : t.predictor.sb.Fits) (call : MockCall) :
    (call.perform t).predictor = call.dmi.apply t.predictor ↔ call.Inert t := by
  cases call with
  | read addr => exact eq_comm.trans (DMPredictor.observeRead_eq_self_iff ht)
  | write addr data => exact iff_of_true rfl trivial

theorem perform_fits (ht : t.predictor.sb.Fits) (call : MockCall) : (call.perform t).predictor.sb.Fits := by
  cases call with
  | read addr => exact ht
  | write addr data => exact DMPredictor.apply_fits ht (.write addr (lowBits 32 data))

theorem isModel_cons (call : MockCall) (calls : List MockCall) :
    t.IsModel (call :: calls) ↔
      (call.perform t).predictor = call.dmi.apply t.predictor ∧ (call.perform t).IsModel calls := by
  constructor
  · intro h
    have hfirst : (call.perform t).predictor = call.dmi.apply t.predictor :=
      h [call] (List.cons_prefix_cons.mpr ⟨rfl, List.nil_prefix⟩)
    refine ⟨hfirst, ?_⟩
    intro js hjs
    rw [hfirst]
    exact h (call :: js) (List.cons_prefix_cons.mpr ⟨rfl, hjs⟩)
  · rintro ⟨hfirst, hrest⟩ js hjs
    cases js with
    | nil => rfl
    | cons j js =>
      obtain ⟨rfl, htail⟩ := List.cons_prefix_cons.mp hjs
      rw [List.map_cons, Runs.run_cons, Runs.run_cons, ← hfirst]
      exact hrest js htail

end MockTransport

/-- **The mock transport is the model** along any calls, from any state the predictor can be in, exactly if
every read among them is inert in the state it is made in. -/
theorem mock_is_model_iff {s : DMPredictor} (hs : s.Booted) (is : List Input) (regfile : Dict Nat Int)
    (calls : List MockCall) :
    MockTransport.IsModel ⟨s.run is, regfile⟩ calls ↔
      Runs.Always MockCall.perform MockCall.Inert ⟨s.run is, regfile⟩ calls := by
  have hall : ∀ (calls : List MockCall) (t : MockTransport), t.predictor.sb.Fits →
      (t.IsModel calls ↔ Runs.Always MockCall.perform MockCall.Inert t calls) := by
    intro calls
    induction calls with
    | nil =>
      intro t _
      refine iff_of_true ?_ trivial
      intro js hjs
      rw [List.prefix_nil.mp hjs]
      rfl
    | cons call calls ih =>
      intro t ht
      rw [MockTransport.isModel_cons, Runs.always_cons, MockTransport.perform_eq_apply_iff ht,
        ih _ (MockTransport.perform_fits ht call)]
  exact hall calls ⟨s.run is, regfile⟩ (hs.run_fits is)

/-- With `sbreadondata` clear and nothing armed, reads of `sbdata0` and `data0` start nothing. -/
theorem mock_is_model_single_reads :
    MockTransport.IsModel ⟨(DMPredictor.declared { sbaEnable := true, datacount := 2 }).run [], .empty⟩
      [.write 0x10 1, .write 0x38 0x140000, .write 0x39 0x80, .read 0x3C, .write 0x04 7, .read 0x04] := by
  refine (mock_is_model_iff (.configured {} { sbaEnable := true, datacount := 2 }) [] .empty _).mpr ?_
  refine ⟨trivial, trivial, trivial, ?_, trivial, ?_, trivial⟩
  · exact ⟨fun _ hondata => absurd hondata (by decide), fun himpl => absurd himpl (by decide)⟩
  · exact ⟨fun haddr => absurd haddr (by decide), fun _ harmed => absurd harmed (by decide)⟩

/-- A burst of two reads with `sbreadondata` and `sbautoincrement`: the model reads ahead and moves on, the
mock stays at the first address. -/
theorem mock_burst_read_stands_still :
    let t : MockTransport := ⟨(DMPredictor.declared { sbaEnable := true, sbaccessReset := 2 }).run [], .empty⟩
    let calls : List MockCall :=
      [.write 0x10 1, .write 0x38 0x58000, .write 0x39 0x100, .read 0x3C, .read 0x3C]
    (Runs.run MockCall.perform t calls).predictor.sb.sbaddress0 = 0x100 ∧
      (Runs.run Dmi.apply t.predictor (calls.map MockCall.dmi)).sb.sbaddress0 = 0x108 ∧
      ¬ t.IsModel calls := by
  intro t calls
  have hmock : (Runs.run MockCall.perform t calls).predictor.sb.sbaddress0 = 0x100 := by decide
  have hmodel : (Runs.run Dmi.apply t.predictor (calls.map MockCall.dmi)).sb.sbaddress0 = 0x108 := by decide
  refine ⟨hmock, hmodel, fun hsame => ?_⟩
  rw [hsame calls (List.prefix_refl _), hmodel] at hmock
  exact absurd hmock (by decide)

end RiscvDbg
