import RiscvDbg.HartWellFormed
import RiscvDbg.Predictor.Commands

/-!
# Isolation of one hart's predictions from another's registers

Two runs take the same inputs except that, while a hart other than `j` is selected, the values written
to `data0` and `data1` and the register numbers of commands may differ.  All harts share one register
shadow, so what the other hart does can reach the predictions about hart `j`.

* `TwinInput`, `Twin` — a pair of inputs and a pair of runs, with a note whether `data0` and
  `data1` have been written since hart `j` was last selected.
* `Disciplined` — the assumption on every pair of inputs; `NoForeignWrite` — the condition: a command
  executed for another hart puts nothing into the shadow that differs between the runs.
* `Agree` — the invariant, kept by `Agree.step`.
* `isolated_of_no_foreign_write` — whole runs.
-/

set_option autoImplicit false

namespace RiscvDbg

/-! ## Pairs of runs -/

/-- An input of both runs. -/
inductive TwinInput where
  | same (i : Input)
  /-- A write of `addr` with different values. -/
  | differ (addr value value' : Nat)

namespace TwinInput

def first : TwinInput → Input
  | .same i => i
  | .differ addr value _ => .onWrite addr value

def second : TwinInput → Input
  | .same i => i
  | .differ addr _ value' => .onWrite addr value'

end TwinInput

/-- The command an input executes, if any. -/
def DMPredictor.executes (s : DMPredictor) : Input → Option Nat
  | .onWrite addr value => s.command (.write addr value)
  | .observeRead addr => s.command (.read addr)
  | _ => none

/-- The input is a write of data word `i` that is not refused. -/
def DMPredictor.storesData (s : DMPredictor) (i : Nat) : Input → Bool
  | .onWrite addr _ => addr == ADDR_DATA0 + i && !s.observedCmdbusy && i < s.cfg.datacount
  | _ => false

/-- Two runs side by side. -/
structure Twin where
  first : DMPredictor
  second : DMPredictor
  /-- `data0` has been written since hart `j` was last selected. -/
  staged0 : Bool
  /-- `data1` has been written since hart `j` was last selected. -/
  staged1 : Bool

namespace Twin

/-- Both runs start from the same declared model. -/
def init (c : DeclaredConfig) : Twin := ⟨.declared c, .declared c, false, false⟩

/-- One input of each run. -/
def step (j : Nat) (t : Twin) (p : TwinInput) : Twin where
  first := t.first.step p.first
  second := t.second.step p.second
  staged0 := (t.first.step p.first).rc.hartsel == j && (t.staged0 || t.first.storesData 0 p.first)
  staged1 := (t.first.step p.first).rc.hartsel == j && (t.staged1 || t.first.storesData 1 p.first)

end Twin

/-- The inputs differ only while another hart is selected, and only in the value of a data word or in
the register number of an Access Register command. -/
def TwinInput.Paired (j : Nat) (s : DMPredictor) : TwinInput → Prop
  | .same _ => True
  | .differ addr value value' =>
    s.rc.hartsel ≠ j ∧
      (addr = ADDR_DATA0 ∨ addr = ADDR_DATA0 + 1 ∨
        (addr = ADDR_COMMAND ∧ value >>> 16 = value' >>> 16 ∧ Command.cmdtype value = 0))

instance (j : Nat) (s : DMPredictor) (p : TwinInput) : Decidable (p.Paired j s) := by
  cases p <;> unfold TwinInput.Paired <;> infer_instance

def Input.setsAbstractauto : Input → Bool
  | .onWrite addr value => addr == ADDR_ABSTRACTAUTO && value &&& MASK32 != 0
  | _ => false

/-- The assumptions on one pair of inputs: `abstractauto` is never set, and a register of hart `j` is
written only after `data0` and `data1` have been. -/
def Disciplined (j : Nat) (t : Twin) (p : TwinInput) : Prop :=
  p.Paired j t.first ∧ p.first.setsAbstractauto = false ∧
    (t.first.rc.hartsel = j → ∀ cmd ∈ t.first.executes p.first, Command.moves true cmd = true →
      t.staged0 = true ∧ t.staged1 = true)

instance (j : Nat) (t : Twin) (p : TwinInput) : Decidable (Disciplined j t p) :=
  inferInstanceAs (Decidable (_ ∧ _ ∧ (_ → ∀ cmd ∈ t.first.executes p.first, _)))

/-- The condition on one pair of inputs: a command that writes a register while another hart is
selected runs the program buffer too, or writes the same register with the same value in both runs. -/
def NoForeignWrite (j : Nat) (t : Twin) (p : TwinInput) : Prop :=
  t.first.rc.hartsel ≠ j → ∀ cmd ∈ t.first.executes p.first, Command.moves true cmd = true →
    Command.postexec cmd = false →
      (∀ cmd' ∈ t.second.executes p.second, Command.regno cmd' = Command.regno cmd) ∧
        t.second.ac.stagedData0 = t.first.ac.stagedData0

instance (j : Nat) (t : Twin) (p : TwinInput) : Decidable (NoForeignWrite j t p) :=
  inferInstanceAs (Decidable (_ → ∀ cmd ∈ t.first.executes p.first, _ → _ →
    (∀ cmd' ∈ t.second.executes p.second, _) ∧ _))

/-- While hart `j` is selected, the two runs predict the same `dmstatus` word, and the same of `data0`
after every command that reads a register. -/
def Isolated (j : Nat) (t : Twin) : Prop :=
  t.first.rc.hartsel = j →
    t.first.predict DMSTATUS.address = t.second.predict DMSTATUS.address ∧
      ∀ value, t.first.observedCmdbusy = false → Command.moves false (value &&& MASK32) = true →
        let s := t.first.onWrite ADDR_COMMAND value
        let s' := t.second.onWrite ADDR_COMMAND value
        s.hasModel ADDR_DATA0 = s'.hasModel ADDR_DATA0 ∧
          (s.hasModel ADDR_DATA0 = true → s.predict ADDR_DATA0 = s'.predict ADDR_DATA0)

/-! ## The invariant -/

/-- What the two runs share. -/
structure Agree (j : Nat) (t : Twin) : Prop where
  params : t.second.params = t.first.params
  cfg : t.second.cfg = t.first.cfg
  cfgValid : t.second.cfgValid = t.first.cfgValid
  busy : t.second.observedCmdbusy = t.first.observedCmdbusy
  rc : t.second.rc = t.first.rc
  shadowRegs : t.second.ac.shadowRegs = t.first.ac.shadowRegs
  unarmed : t.first.ac.abstractauto = 0
  unarmed' : t.second.ac.abstractauto = 0
  staged : t.staged0 = true →
    t.first.rc.hartsel = j ∧ t.second.ac.stagedData0 = t.first.ac.stagedData0

/-! ## One predictor with nothing armed -/

section
variable {s : DMPredictor}

theorem autoexecArmed_zero {ac : AbstractCommand} (h : ac.abstractauto = 0) (c : DeclaredConfig)
    (busy : Bool) (addr : Nat) : ac.autoexecArmed c busy addr = false := by
  unfold AbstractCommand.autoexecArmed
  rw [h]
  repeat' split
  all_goals simp

theorem command_write_of_unarmed (h : s.ac.abstractauto = 0) (addr value : Nat) :
    s.command (.write addr value) =
      if addr = ADDR_COMMAND ∧ s.observedCmdbusy = false then some (value &&& MASK32) else none := by
  unfold DMPredictor.command
  dsimp only
  rw [autoexecArmed_zero h, Bool.and_false]
  by_cases hc : addr = ADDR_COMMAND
  · subst hc
    cases s.observedCmdbusy <;> rfl
  · simp [hc]

theorem command_read_of_unarmed (h : s.ac.abstractauto = 0) (addr : Nat) :
    s.command (.read addr) = none := by
  unfold DMPredictor.command
  dsimp only
  rw [autoexecArmed_zero h, Bool.and_false]
  rfl

theorem beforeCommand_stagedData0 (addr value : Nat) :
    (s.beforeCommand (.write addr value)).stagedData0 =
      if s.storesData 0 (.onWrite addr value) then value &&& MASK32 else s.ac.stagedData0 := by
  by_cases h0 : addr = ADDR_DATA0
  · subst h0
    have hg : DMPredictor.guardedWhileBusy ADDR_DATA0 = true := by decide
    have hd : isData ADDR_DATA0 = true := by decide
    have hp : isProgbuf ADDR_DATA0 = false := by decide
    have hc : ADDR_DATA0 ≠ ADDR_COMMAND ∧ ADDR_DATA0 ≠ ADDR_ABSTRACTAUTO := by decide
    unfold DMPredictor.beforeCommand DMPredictor.storesData
    cases s.observedCmdbusy with
    | true => simp [hg]
    | false =>
      by_cases hlt : 0 < s.cfg.datacount
      · simp [hd, hlt, AbstractCommand.storeData]
      · simp [hd, hlt, hp, hc.1, hc.2]
  · have hst : s.storesData 0 (.onWrite addr value) = false := by simp [DMPredictor.storesData, h0]
    rw [hst, if_neg (by simp)]
    unfold DMPredictor.beforeCommand
    dsimp only
    repeat' split
    all_goals first
      | rfl
      | skip
    rename_i hd
    have hi : (addr - ADDR_DATA0 == 0) = false := by
      rw [Bool.and_eq_true, isData_iff] at hd
      simp only [ADDR_DATA0] at h0 ⊢
      simp only [beq_eq_false_iff_ne]
      omega
    rw [AbstractCommand.storeData, hi]
    rfl

theorem beforeCommand_abstractauto {addr value : Nat} (h : s.ac.abstractauto = 0)
    (hset : (Input.onWrite addr value).setsAbstractauto = false) :
    (s.beforeCommand (.write addr value)).abstractauto = 0 := by
  unfold DMPredictor.beforeCommand
  dsimp only
  repeat' split
  all_goals first
    | exact h
    | exact (DMPredictor.storeData_kept _ _ _).1.trans h
    | skip
  rename_i ha
  simpa [Input.setsAbstractauto, ha] using hset

/-- A write of anything but `dmcontrol`, with nothing armed before. -/
theorem onWrite_unarmed {addr value : Nat} (hdm : addr ≠ DMCONTROL.address)
    (h : s.ac.abstractauto = 0) (hset : (Input.onWrite addr value).setsAbstractauto = false) :
    (s.onWrite addr value).ac.abstractauto = 0 ∧
      (s.onWrite addr value).ac.stagedData0 =
        (if s.storesData 0 (.onWrite addr value) then value &&& MASK32 else s.ac.stagedData0) ∧
      (s.onWrite addr value).ac.shadowRegs =
        (s.command (.write addr value)).elim s.ac.shadowRegs fun cmd =>
          if Command.accepted cmd && Command.postexec cmd then .empty
          else if Command.moves true cmd then s.ac.shadowRegs.set (Command.regno cmd) s.ac.stagedData0
          else s.ac.shadowRegs := by
  have hd : ∀ v, Dmi.write addr value ≠ .write DMCONTROL.address v := by
    intro v hv
    injection hv with ha
    exact hdm ha
  have hac := DMPredictor.apply_ac (s := s) hd
  have hauto := beforeCommand_abstractauto h hset
  have hstaged := beforeCommand_stagedData0 (s := s) addr value
  rw [Dmi.apply] at hac
  rw [hac]
  cases hc : s.command (.write addr value) with
  | none =>
    refine ⟨hauto, hstaged, ?_⟩
    rw [Option.elim_none, Option.elim_none, DMPredictor.beforeCommand_shadowRegs]
  | some cmd =>
    obtain ⟨h₁, h₂, -⟩ := (s.beforeCommand (.write addr value)).executeCommand_staged cmd
    refine ⟨h₁.trans hauto, h₂.trans hstaged, ?_⟩
    -- the access is the write of a command, which leaves the staged word alone
    have hcmd : addr = ADDR_COMMAND := by
      rw [command_write_of_unarmed h] at hc
      by_contra hne
      simp [hne] at hc
    have hst : s.storesData 0 (.onWrite addr value) = false := by
      rw [DMPredictor.storesData, hcmd]
      rfl
    rw [hst, if_neg (by simp)] at hstaged
    rw [Option.elim_some, Option.elim_some, AbstractCommand.executeCommand_shadowRegs,
      DMPredictor.beforeCommand_shadowRegs, hstaged]

/-- Only the shadow links run control to the abstract commands. -/
theorem writeDmcontrol_congr {t : DMPredictor} (hp : t.params = s.params) (hrc : t.rc = s.rc)
    (hregs : t.ac.shadowRegs = s.ac.shadowRegs) (value : Nat) :
    (t.writeDmcontrol value).rc = (s.writeDmcontrol value).rc ∧
      (t.writeDmcontrol value).ac.shadowRegs = (s.writeDmcontrol value).ac.shadowRegs := by
  cases hv : value.testBit 0 with
  | false =>
    rw [t.writeDmcontrol_inactive hv, s.writeDmcontrol_inactive hv]
    refine ⟨?_, hregs⟩
    show RunControl.resetDm t.params false t.rc = RunControl.resetDm s.params false s.rc
    rw [hp, hrc]
  | true =>
    have hwrite : ∀ i, t.rc.hartWrite t.params t.ac value i = s.rc.hartWrite s.params s.ac value i := by
      intro i
      rw [RunControl.hartWrite, RunControl.hartWrite, RunControl.stepArmed, RunControl.stepArmed, hp,
        hrc, hregs]
    rw [t.writeDmcontrol_active hv, s.writeDmcontrol_active hv]
    dsimp only
    rw [RunControl.writeActive_fst, RunControl.writeActive_fst, RunControl.writeActive_snd,
      RunControl.writeActive_snd]
    refine ⟨?_, ?_⟩
    · simp only [hwrite]
      rw [hp, hrc]
    · rw [RunControl.resumesSelected, RunControl.resumesSelected, hwrite, hrc]
      split
      · rfl
      · exact hregs

/-- The staged word and the arming bits after a `dmcontrol` write. -/
theorem writeDmcontrol_staged (value : Nat) :
    (s.writeDmcontrol value).ac.abstractauto =
        (if value.testBit 0 then s.ac.abstractauto else 0) ∧
      (s.writeDmcontrol value).ac.stagedData0 = if value.testBit 0 then s.ac.stagedData0 else 0 := by
  cases hv : value.testBit 0 with
  | false => rw [s.writeDmcontrol_inactive hv]; exact ⟨rfl, rfl⟩
  | true =>
    rw [s.writeDmcontrol_active hv]
    dsimp only
    rw [RunControl.writeActive_snd]
    split <;> exact ⟨rfl, rfl⟩

end

/-! ## One pair of inputs -/

namespace Agree

variable {j : Nat} {t : Twin}

/-- The command register numbers apart, the two commands are the same. -/
theorem command_congr {value value' : Nat} (h : value >>> 16 = value' >>> 16) :
    Command.accepted (value' &&& MASK32) = Command.accepted (value &&& MASK32) ∧
      Command.postexec (value' &&& MASK32) = Command.postexec (value &&& MASK32) ∧
      Command.moves true (value' &&& MASK32) = Command.moves true (value &&& MASK32) := by
  have hbit : ∀ i, 16 ≤ i → value'.testBit i = value.testBit i := by
    intro i hi
    have h₁ : (value' >>> 16).testBit (i - 16) = (value >>> 16).testBit (i - 16) := by rw [h]
    rwa [Nat.testBit_shiftRight, Nat.testBit_shiftRight, show 16 + (i - 16) = i by omega] at h₁
  have hmask : ∀ i, 16 ≤ i → (value' &&& MASK32).testBit i = (value &&& MASK32).testBit i := by
    intro i hi
    rw [Nat.testBit_and, Nat.testBit_and, hbit i hi]
  have hshift : ∀ n, 16 ≤ n → (value' &&& MASK32) >>> n = (value &&& MASK32) >>> n := by
    intro n hn
    apply Nat.eq_of_testBit_eq
    intro i
    rw [Nat.testBit_shiftRight, Nat.testBit_shiftRight, hmask _ (by omega)]
  have hacc : Command.accepted (value' &&& MASK32) = Command.accepted (value &&& MASK32) := by
    have htype : Command.cmdtype (value' &&& MASK32) = Command.cmdtype (value &&& MASK32) := by
      rw [Command.cmdtype, Command.cmdtype, hshift 24 (by omega)]
    have hsize : Command.aarsize (value' &&& MASK32) = Command.aarsize (value &&& MASK32) := by
      rw [Command.aarsize, Command.aarsize, hshift 20 (by omega)]
    rw [Command.accepted, Command.accepted, htype, hsize]
  refine ⟨hacc, hmask 18 (by omega), ?_⟩
  simp only [Command.moves, Command.transfer, Command.write, hacc, hmask 17 (by omega),
    hmask 16 (by omega)]

/-- A `dmcontrol` write with the same value. -/
theorem writeDmcontrol (ha : Agree j t) (value : Nat) :
    Agree j (t.step j (.same (.onWrite DMCONTROL.address value))) := by
  obtain ⟨hrc, hregs⟩ := writeDmcontrol_congr ha.params ha.rc ha.shadowRegs value
  obtain ⟨h₁, h₂, h₃, h₄⟩ := t.first.writeDmcontrol_static value
  obtain ⟨k₁, k₂, k₃, k₄⟩ := t.second.writeDmcontrol_static value
  obtain ⟨hauto, hst⟩ := writeDmcontrol_staged (s := t.first) value
  obtain ⟨hauto', hst'⟩ := writeDmcontrol_staged (s := t.second) value
  have hfirst : (t.step j (.same (.onWrite DMCONTROL.address value))).first =
      t.first.writeDmcontrol value := t.first.onWrite_dmcontrol value
  have hsecond : (t.step j (.same (.onWrite DMCONTROL.address value))).second =
      t.second.writeDmcontrol value := t.second.onWrite_dmcontrol value
  refine ⟨?_, ?_, ?_, ?_, ?_, ?_, ?_, ?_, ?_⟩
  · rw [hfirst, hsecond, h₁, k₁, ha.params]
  · rw [hfirst, hsecond, h₂, k₂, ha.cfg]
  · rw [hfirst, hsecond, h₃, k₃, ha.cfgValid]
  · rw [hfirst, hsecond, h₄, k₄, ha.busy]
  · rw [hfirst, hsecond, hrc]
  · rw [hfirst, hsecond, hregs]
  · rw [hfirst, hauto, ha.unarmed, ite_self]
  · rw [hsecond, hauto', ha.unarmed', ite_self]
  · intro hs
    simp only [Twin.step, TwinInput.first, Bool.and_eq_true, beq_iff_eq] at hs
    have hold : t.staged0 = true := by simpa [DMPredictor.storesData, DMCONTROL, ADDR_DATA0] using hs.2
    refine ⟨hs.1, ?_⟩
    rw [hfirst, hsecond, hst, hst', (ha.staged hold).2]

/-- What the values of one write of another address have to satisfy. -/
structure WriteOk (j : Nat) (t : Twin) (addr value value' : Nat) : Prop where
  unset : (Input.onWrite addr value).setsAbstractauto = false
  unset' : (Input.onWrite addr value').setsAbstractauto = false
  /-- A different value reaches `data0` only while another hart is selected. -/
  data0 : addr = ADDR_DATA0 → t.first.rc.hartsel = j → value = value'
  /-- The commands leave the same shadow. -/
  command : addr = ADDR_COMMAND → t.first.observedCmdbusy = false →
    Command.accepted (value' &&& MASK32) = Command.accepted (value &&& MASK32) ∧
      Command.postexec (value' &&& MASK32) = Command.postexec (value &&& MASK32) ∧
      Command.moves true (value' &&& MASK32) = Command.moves true (value &&& MASK32) ∧
      (Command.moves true (value &&& MASK32) = true → Command.postexec (value &&& MASK32) = false →
        Command.regno (value' &&& MASK32) = Command.regno (value &&& MASK32) ∧
          t.second.ac.stagedData0 = t.first.ac.stagedData0)

/-- **A write of any other address.** -/
theorem onWrite (ha : Agree j t) {p : TwinInput} {addr value value' : Nat}
    (hp : p.first = .onWrite addr value) (hp' : p.second = .onWrite addr value')
    (hdm : addr ≠ DMCONTROL.address) (hok : WriteOk j t addr value value') : Agree j (t.step j p) := by
  obtain ⟨hunset, hunset', hdata, hcmd⟩ := hok
  obtain ⟨h₁, h₂, h₃, h₄⟩ := t.first.onWrite_static addr value
  obtain ⟨k₁, k₂, k₃, k₄⟩ := t.second.onWrite_static addr value'
  obtain ⟨hauto, hst, hregs⟩ := onWrite_unarmed hdm ha.unarmed hunset
  obtain ⟨hauto', hst', hregs'⟩ := onWrite_unarmed hdm ha.unarmed' hunset'
  have hrc := t.first.onWrite_rc_of_ne hdm value
  have hrc' := t.second.onWrite_rc_of_ne hdm value'
  have hfirst : (t.step j p).first = t.first.onWrite addr value := by rw [Twin.step, hp]; rfl
  have hsecond : (t.step j p).second = t.second.onWrite addr value' := by rw [Twin.step, hp']; rfl
  refine ⟨?_, ?_, ?_, ?_, ?_, ?_, ?_, ?_, ?_⟩
  · rw [hfirst, hsecond, h₁, k₁, ha.params]
  · rw [hfirst, hsecond, h₂, k₂, ha.cfg]
  · rw [hfirst, hsecond, h₃, k₃, ha.cfgValid]
  · rw [hfirst, hsecond, h₄, k₄, ha.busy]
  · rw [hfirst, hsecond, hrc, hrc', ha.rc]
  · rw [hfirst, hsecond, hregs, hregs', command_write_of_unarmed ha.unarmed,
      command_write_of_unarmed ha.unarmed', ha.busy, ha.shadowRegs]
    split
    · rename_i hc
      obtain ⟨hacc, hpost, hmoves, hsame⟩ := hcmd hc.1 hc.2
      rw [Option.elim_some, Option.elim_some, hacc, hpost, hmoves]
      split
      · rfl
      · rename_i hnot
        split
        · rename_i hm
          have haccepted : Command.accepted (value &&& MASK32) = true := by
            simp only [Command.moves, Bool.and_eq_true] at hm
            exact hm.1.1
          obtain ⟨hreg, hstaged⟩ := hsame hm (by simpa [haccepted] using hnot)
          rw [hreg, hstaged]
        · rfl
    · rfl
  · rw [hfirst]; exact hauto
  · rw [hsecond]; exact hauto'
  · intro hs
    have hsel : t.first.rc.hartsel = j ∧
        (t.staged0 || t.first.storesData 0 (.onWrite addr value)) = true := by
      rw [← hrc, ← hfirst]
      rw [Twin.step, hp, Bool.and_eq_true, beq_iff_eq] at hs
      rw [hfirst]
      exact hs
    refine ⟨by rw [hfirst, hrc]; exact hsel.1, ?_⟩
    have hstores : t.second.storesData 0 (.onWrite addr value') =
        t.first.storesData 0 (.onWrite addr value) := by
      simp only [DMPredictor.storesData, ha.busy, ha.cfg]
    rw [hfirst, hsecond, hst, hst', hstores]
    split
    · rename_i hd
      have haddr : addr = ADDR_DATA0 := by
        simp only [DMPredictor.storesData, Bool.and_eq_true, beq_iff_eq] at hd
        exact hd.1.1
      rw [hdata haddr hsel.1]
    · rename_i hd
      rw [Bool.not_eq_true] at hd
      rw [hd, Bool.or_false] at hsel
      exact (ha.staged hsel.2).2

/-- The commands of two writes that are allowed to differ. -/
theorem writeOk_differ (ha : Agree j t) {addr value value' : Nat}
    (hd : Disciplined j t (.differ addr value value'))
    (hn : NoForeignWrite j t (.differ addr value value')) : WriteOk j t addr value value' := by
  obtain ⟨⟨hsel, haddr⟩, hunset, -⟩ := hd
  have hne : addr ≠ ADDR_ABSTRACTAUTO := by
    simp only [ADDR_DATA0, ADDR_COMMAND] at haddr
    simp only [ADDR_ABSTRACTAUTO]
    omega
  refine ⟨hunset, by simp [Input.setsAbstractauto, hne], fun _ h => absurd h hsel, ?_⟩
  rintro rfl hidle
  have hshift : value >>> 16 = value' >>> 16 := by
    simp only [ADDR_DATA0, ADDR_COMMAND] at haddr
    omega
  obtain ⟨h₁, h₂, h₃⟩ := command_congr hshift
  refine ⟨h₁, h₂, h₃, fun hm hpost => ?_⟩
  have hfirst : t.first.executes (.onWrite ADDR_COMMAND value) = some (value &&& MASK32) := by
    rw [DMPredictor.executes, command_write_of_unarmed ha.unarmed, if_pos ⟨rfl, hidle⟩]
  have hsecond : t.second.executes (.onWrite ADDR_COMMAND value') = some (value' &&& MASK32) := by
    rw [DMPredictor.executes, command_write_of_unarmed ha.unarmed', ha.busy, if_pos ⟨rfl, hidle⟩]
  obtain ⟨hreg, hstaged⟩ := hn hsel _ hfirst hm hpost
  exact ⟨hreg _ hsecond, hstaged⟩

/-- The commands of two equal writes. -/
theorem writeOk_same (ha : Agree j t) {addr value : Nat}
    (hd : Disciplined j t (.same (.onWrite addr value)))
    (hn : NoForeignWrite j t (.same (.onWrite addr value))) : WriteOk j t addr value value := by
  obtain ⟨-, hunset, hstaged⟩ := hd
  refine ⟨hunset, hunset, fun _ _ => rfl, ?_⟩
  rintro rfl hidle
  refine ⟨rfl, rfl, rfl, fun hm hpost => ⟨rfl, ?_⟩⟩
  have hcmd : t.first.executes (.onWrite ADDR_COMMAND value) = some (value &&& MASK32) := by
    rw [DMPredictor.executes, command_write_of_unarmed ha.unarmed, if_pos ⟨rfl, hidle⟩]
  by_cases hsel : t.first.rc.hartsel = j
  · exact (ha.staged (hstaged hsel _ hcmd hm).1).2
  · exact (hn hsel _ hcmd hm hpost).2

/-- Equal inputs that are no writes. -/
theorem step_same (ha : Agree j t) {i : Input} (hi : ∀ addr value, i ≠ .onWrite addr value) :
    Agree j (t.step j (.same i)) := by
  obtain ⟨h₁, h₂, h₃, h₄, h₅, h₆, h₇, h₈, h₉⟩ := ha
  have hstaged : (t.step j (.same i)).staged0 = true →
      (t.step j (.same i)).first.rc.hartsel = j ∧ t.staged0 = true := by
    intro hs
    have hno : t.first.storesData 0 i = false := by
      cases i with
      | onWrite addr value => exact absurd rfl (hi addr value)
      | _ => rfl
    simpa [Twin.step, TwinInput.first, hno] using hs
  cases i with
  | onWrite addr value => exact absurd rfl (hi addr value)
  | setConfig c =>
    refine ⟨rfl, rfl, rfl, h₄, ?_, h₆, rfl, rfl, fun hs => ⟨(hstaged hs).1, rfl⟩⟩
    show RunControl.resetDm c.params true t.second.rc = RunControl.resetDm c.params true t.first.rc
    rw [h₅]
  | resetDm powerOn =>
    refine ⟨h₁, h₂, h₃, h₄, ?_, h₆, rfl, rfl, fun hs => ⟨(hstaged hs).1, rfl⟩⟩
    show RunControl.resetDm t.second.params powerOn t.second.rc =
      RunControl.resetDm t.first.params powerOn t.first.rc
    rw [h₁, h₅]
  | setObservedCmdbusy busy =>
    exact ⟨h₁, h₂, h₃, rfl, h₅, h₆, h₇, h₈, fun hs => ⟨(hstaged hs).1, (h₉ (hstaged hs).2).2⟩⟩
  | observeRead addr =>
    have hac : (t.first.observeRead addr).ac = t.first.ac := by
      have := DMPredictor.apply_ac (s := t.first) (d := .read addr) nofun
      rwa [command_read_of_unarmed h₇] at this
    have hac' : (t.second.observeRead addr).ac = t.second.ac := by
      have := DMPredictor.apply_ac (s := t.second) (d := .read addr) nofun
      rwa [command_read_of_unarmed h₈] at this
    obtain ⟨e₁, e₂, e₃, e₄⟩ := t.first.observeRead_static addr
    obtain ⟨k₁, k₂, k₃, k₄⟩ := t.second.observeRead_static addr
    refine ⟨?_, ?_, ?_, ?_, ?_, ?_, ?_, ?_, fun hs => ⟨(hstaged hs).1, ?_⟩⟩
    · exact k₁.trans (h₁.trans e₁.symm)
    · exact k₂.trans (h₂.trans e₂.symm)
    · exact k₃.trans (h₃.trans e₃.symm)
    · exact k₄.trans (h₄.trans e₄.symm)
    · exact (t.second.observeRead_rc addr).trans (h₅.trans (t.first.observeRead_rc addr).symm)
    · show (t.second.observeRead addr).ac.shadowRegs = (t.first.observeRead addr).ac.shadowRegs
      rw [hac, hac', h₆]
    · show (t.first.observeRead addr).ac.abstractauto = 0
      rw [hac, h₇]
    · show (t.second.observeRead addr).ac.abstractauto = 0
      rw [hac', h₈]
    · show (t.second.observeRead addr).ac.stagedData0 = (t.first.observeRead addr).ac.stagedData0
      rw [hac, hac', (h₉ (hstaged hs).2).2]
  | observeSbdata0Read =>
    exact ⟨h₁, h₂, h₃, h₄, h₅, h₆, h₇, h₈, fun hs => ⟨(hstaged hs).1, (h₉ (hstaged hs).2).2⟩⟩
  | syncObservedHartSignals w =>
    refine ⟨h₁, h₂, h₃, h₄, ?_, h₆, h₇, h₈, fun hs => ⟨(hstaged hs).1, (h₉ (hstaged hs).2).2⟩⟩
    show t.second.rc.syncObservedHartSignals w = t.first.rc.syncObservedHartSignals w
    rw [h₅]

/-- **One pair of inputs keeps the runs in agreement.** -/
theorem step (ha : Agree j t) {p : TwinInput} (hd : Disciplined j t p) (hn : NoForeignWrite j t p) :
    Agree j (t.step j p) := by
  cases p with
  | differ addr value value' =>
    refine ha.onWrite rfl rfl ?_ (ha.writeOk_differ hd hn)
    have haddr := hd.1.2
    simp only [ADDR_DATA0, ADDR_COMMAND] at haddr
    simp only [DMCONTROL]
    omega
  | same i =>
    by_cases hi : ∃ addr value, i = .onWrite addr value
    · obtain ⟨addr, value, rfl⟩ := hi
      by_cases hdm : addr = DMCONTROL.address
      · subst hdm
        exact ha.writeDmcontrol value
      · exact ha.onWrite rfl rfl hdm (ha.writeOk_same hd hn)
    · exact ha.step_same fun addr value h => hi ⟨addr, value, h⟩

/-! ## What agreement means -/

theorem predict_dmstatus_congr (ha : Agree j t) :
    t.first.predict DMSTATUS.address = t.second.predict DMSTATUS.address := by
  rw [DMPredictor.predict_dmstatus, DMPredictor.predict_dmstatus]
  exact (DMPredictor.expectDmstatus_congr ha.rc ha.params).symm

/-- A command that reads a register takes its claim from the shared part of the state. -/
theorem read_congr (ha : Agree j t) {value : Nat} (hidle : t.first.observedCmdbusy = false)
    (hread : Command.moves false (value &&& MASK32) = true) :
    let s := t.first.onWrite ADDR_COMMAND value
    let s' := t.second.onWrite ADDR_COMMAND value
    s.hasModel ADDR_DATA0 = s'.hasModel ADDR_DATA0 ∧
      (s.hasModel ADDR_DATA0 = true → s.predict ADDR_DATA0 = s'.predict ADDR_DATA0) := by
  intro s s'
  have hd : ∀ v, Dmi.write ADDR_COMMAND value ≠ .write DMCONTROL.address v := by
    intro v hv
    injection hv with h
    exact absurd h (by decide)
  have hac : s.ac =
      (t.first.beforeCommand (.write ADDR_COMMAND value)).executeCommand (value &&& MASK32) := by
    have := DMPredictor.apply_ac (s := t.first) hd
    rwa [command_write_of_unarmed ha.unarmed, if_pos ⟨rfl, hidle⟩, Option.elim_some] at this
  have hac' : s'.ac =
      (t.second.beforeCommand (.write ADDR_COMMAND value)).executeCommand (value &&& MASK32) := by
    have := DMPredictor.apply_ac (s := t.second) hd
    rwa [command_write_of_unarmed ha.unarmed', ha.busy, if_pos ⟨rfl, hidle⟩, Option.elim_some] at this
  obtain ⟨hvalid, hvalue⟩ :=
    (t.first.beforeCommand (.write ADDR_COMMAND value)).executeCommand_read hread
  obtain ⟨hvalid', hvalue'⟩ :=
    (t.second.beforeCommand (.write ADDR_COMMAND value)).executeCommand_read hread
  rw [← hac, DMPredictor.beforeCommand_shadowRegs] at hvalid hvalue
  rw [← hac', DMPredictor.beforeCommand_shadowRegs, ha.shadowRegs] at hvalid' hvalue'
  obtain ⟨-, h₂, h₃, -⟩ := t.first.onWrite_static ADDR_COMMAND value
  obtain ⟨-, k₂, k₃, -⟩ := t.second.onWrite_static ADDR_COMMAND value
  have hcfg : s'.cfg = s.cfg := k₂.trans (ha.cfg.trans h₂.symm)
  have hcfgValid : s'.cfgValid = s.cfgValid := k₃.trans (ha.cfgValid.trans h₃.symm)
  have hrc : s'.rc = s.rc :=
    (t.second.onWrite_rc_of_ne (by decide) value).trans
      (ha.rc.trans (t.first.onWrite_rc_of_ne (by decide) value).symm)
  have hmodel : ∀ u : DMPredictor, u.hasModel ADDR_DATA0 =
      if !u.cfgValid then false else if !u.rc.dmactive then false else u.ac.data0PendingValid :=
    fun _ => rfl
  have hpredict : ∀ u : DMPredictor, u.predict ADDR_DATA0 =
      if u.cfg.datacount ≤ 0 then 0 else u.ac.data0PendingValue := fun _ => rfl
  have hpending : s'.ac.data0PendingValid = s.ac.data0PendingValid := by rw [hvalid, hvalid']
  refine ⟨by rw [hmodel, hmodel, hcfgValid, hrc, hpending], fun hm => ?_⟩
  have hclaimed : s.ac.data0PendingValid = true := by
    rw [hmodel] at hm
    split at hm
    · exact absurd hm (by simp)
    · split at hm
      · exact absurd hm (by simp)
      · exact hm
  rw [hpredict, hpredict, hcfg, hvalue hclaimed, hvalue' (hpending.trans hclaimed)]

theorem isolated (ha : Agree j t) : Isolated j t := fun _ =>
  ⟨ha.predict_dmstatus_congr, fun _ hidle hread => ha.read_congr hidle hread⟩

end Agree

/-! ## Whole runs -/

/-- **Isolation.**  If the inputs of two runs differ only while another hart is selected, only in data
words and register numbers, and no command executed for another hart puts anything into the register
shadow that differs between the runs, then the runs predict the same of hart `j`. -/
theorem isolated_of_no_foreign_write (c : DeclaredConfig) (j : Nat) (ps : List TwinInput)
    (hps : Runs.Always (Twin.step j) (fun t p => Disciplined j t p ∧ NoForeignWrite j t p)
      (.init c) ps) :
    Isolated j (Runs.run (Twin.step j) (.init c) ps) := by
  have hinit : Agree j (.init c) := ⟨rfl, rfl, rfl, rfl, rfl, rfl, rfl, rfl, nofun⟩
  have hrun := Runs.run_invariant (P := Agree j) (fun _ _ ha hp => ha.step hp.1 hp.2) ps _ hinit hps
  exact hrun.isolated

/-- Hart 0 writes and reads `x8` while different data words are written for hart 1. -/
theorem isolated_of_no_foreign_write_round_trip :
    let c : DeclaredConfig := { numHarts := 2, datacount := 2 }
    let ps : List TwinInput := [.same (.onWrite 0x10 0x8000_0001), .same (.onWrite 0x04 5),
      .same (.onWrite 0x05 0), .same (.onWrite 0x17 0x0023_1008), .same (.onWrite 0x10 0x8001_0001),
      .differ 0x04 7 9, .differ 0x17 0x0022_1008 0x0022_1009, .same (.onWrite 0x10 0x8000_0001)]
    Isolated 0 (Runs.run (Twin.step 0) (.init c) ps) := by
  intro c ps
  exact isolated_of_no_foreign_write c 0 ps (by decide)

/-- Without the condition the harts are not isolated: 7 in one run and 9 in the other is written to
`x8` of hart 1, and claimed when `x8` of hart 0 is read. -/
theorem not_isolated_from_foreign_write :
    ¬ ∀ (c : DeclaredConfig) (j : Nat) (ps : List TwinInput), 2 ≤ c.numHarts → 2 ≤ c.datacount →
      j < c.numHarts → Runs.Always (Twin.step j) (Disciplined j) (.init c) ps →
      Isolated j (Runs.run (Twin.step j) (.init c) ps) := by
  intro h
  have := ((h { numHarts := 2, datacount := 2 } 0
    [.same (.onWrite 0x10 0x8001_0001), .differ 0x04 7 9, .same (.onWrite 0x17 0x0023_1008),
      .same (.onWrite 0x10 0x8000_0001)]
    (by decide) (by decide) (by decide) (by decide) (by decide)).2 0x0022_1008 (by decide) (by decide)).2
    (by decide)
  revert this
  decide

end RiscvDbg
