import RiscvDbg.Coverage.Python
import RiscvDbg.Coverage.Sv

/-!
# The external-debug bins of the two models

The two coverage models sample the same accesses.  Most bins are counted alike; what is not is set
apart here.

* `SharedCoverage` — the operands staged for a command, and the bins both models count alike.
* `svDrift`, `pyDrift` — the bins the models take from an access differently: the direction and the class
  of a command that transfers nothing, and the group selection of `dmcs2`.
* `external_bins_iff` — the streams on which both models hit the same bins.
-/

set_option autoImplicit false

namespace RiscvDbg

/-! ## What both models count -/

/-- The operands staged for a command, and the bins hit so far. -/
structure SharedCoverage where
  data0 : BitVec 32 := 0
  data1 : BitVec 32 := 0
  bins : List ExtBin := []

namespace SharedCoverage

/-- The trigger register a command reaches, and the type it configures. -/
def triggerBins (s : SharedCoverage) (w : BitVec 32) : List ExtBin :=
  let regno := w.extractLsb' 0 16
  if w.getLsbD 17 && (triggerCsrOf regno).isSome then
    cgTrigger regno (regno == 0x07A1#16 && w.getLsbD 16)
      ((if w.extractLsb' 20 3 = 3#3 then s.data1 else s.data0).extractLsb' 28 4)
  else []

/-- The bins of a write. -/
def writeBins (s : SharedCoverage) (addr : BitVec 7) (w : BitVec 32) : List ExtBin :=
  if addr = DM_ADDR_COMMAND then (if w.getLsbD 18 then [.progbufExecuted] else []) ++ s.triggerBins w
  else if DM_ADDR_DATA0 ≤ addr ∧ addr ≤ DM_ADDR_DATA11 then [.data0Access true]
  else if DM_ADDR_PROGBUF0 ≤ addr ∧ addr ≤ DM_ADDR_PROGBUF15 then [.progbufWritten]
  else if addr = DM_ADDR_SBCS then [.readonaddr (w.getLsbD 20)]
  else if addr = DM_ADDR_SBADDRESS0 then [.sbAccess .addrWrite]
  else if addr = DM_ADDR_SBDATA0 then [.sbAccess .dataWrite]
  else if addr = DM_ADDR_DMCS2 then [.grouptype (w.getLsbD 11), .group (w.extractLsb' 2 5 != 0)]
  else []

/-- The bins of a read. -/
def readBins (addr : BitVec 7) (r : BitVec 32) : List ExtBin :=
  if addr = DM_ADDR_ABSTRACTCS then cgAbstractcsRead (.ofBits r)
  else if addr = DM_ADDR_HARTINFO then [.dataaccess]
  else if DM_ADDR_DATA0 ≤ addr ∧ addr ≤ DM_ADDR_DATA11 then [.data0Access false]
  else if addr = DM_ADDR_SBCS then cgSbcs (.ofBits r) false
  else if addr = DM_ADDR_SBDATA0 then [.sbAccess .dataRead]
  else if addr = DM_ADDR_HALTSUM0 then [.haltsum0 (r != 0)]
  else []

/-- The bins of an access. -/
def accessBins (s : SharedCoverage) : DmiAccess → List ExtBin
  | .write addr w => s.writeBins addr w
  | .read addr r => readBins addr r

/-- One access. -/
def step (s : SharedCoverage) (a : DmiAccess) : SharedCoverage where
  data0 := match a with
    | .write addr w => if addr = DM_ADDR_DATA0 then w else s.data0
    | .read .. => s.data0
  data1 := match a with
    | .write addr w => if addr = DM_ADDR_DATA0 + 1 then w else s.data1
    | .read .. => s.data1
  bins := s.bins ++ s.accessBins a

/-- After a stream of accesses. -/
def after (as : List DmiAccess) : SharedCoverage := Runs.run step {} as

theorem after_concat (as : List DmiAccess) (a : DmiAccess) : after (as ++ [a]) = (after as).step a :=
  Runs.run_concat _ _ _ _

end SharedCoverage

theorem cgSbcs_write (w : BitVec 32) : cgSbcs (.ofBits w) true = [.readonaddr (w.getLsbD 20)] := by
  simp [cgSbcs]

/-! ## What they count differently -/

/-- The bins of a command word and the `hgselect` bin of a `dmcs2` word. -/
def drift (command : BitVec 32 → List ExtBin) (hgselect : BitVec 32 → Bool) : DmiAccess → List ExtBin
  | .write addr w =>
    if addr = DM_ADDR_COMMAND then command w
    else if addr = DM_ADDR_DMCS2 then [.hgselect (hgselect w)]
    else []
  | .read .. => []

/-- What `covergroups.sv` takes: every command, and bit 0. -/
def svDrift : DmiAccess → List ExtBin := drift cgCommandWrite (·.getLsbD 0)

/-- What `coverage.py` takes: the commands that transfer, and bit 2. -/
def pyDrift : DmiAccess → List ExtBin :=
  drift (fun w => if w.getLsbD 17 then cgCommandWrite w else []) (·.getLsbD 2)

namespace DebugCoverage

variable {c : DebugCoverage} {s : SharedCoverage}

theorem sampleDmcontrolWrite_external (w : BitVec 32) :
    (c.sampleDmcontrolWrite w).extHits = c.extHits ∧ (c.sampleDmcontrolWrite w).lastData0Wr = c.lastData0Wr ∧
      (c.sampleDmcontrolWrite w).lastData1Wr = c.lastData1Wr := by
  unfold sampleDmcontrolWrite
  simp only
  split <;> exact ⟨rfl, rfl, rfl⟩

theorem sampleDmstatusRead_external (r : FourState 32) :
    (c.sampleDmstatusRead r).extHits = c.extHits ∧ (c.sampleDmstatusRead r).lastData0Wr = c.lastData0Wr ∧
      (c.sampleDmstatusRead r).lastData1Wr = c.lastData1Wr := by
  unfold sampleDmstatusRead
  simp only
  repeat' split
  all_goals exact ⟨rfl, rfl, rfl⟩

/-- A write of any register but `dmcontrol` and `command`. -/
theorem sampleAccess_write (s : SharedCoverage) (w : BitVec 32) {addr : BitVec 7}
    (h : addr ≠ DM_ADDR_DMCONTROL) (hc : addr ≠ DM_ADDR_COMMAND) :
    c.sampleAccess (.write addr w) =
      { c with
        extHits := c.extHits ++ (svDrift (.write addr w) ++ s.writeBins addr w)
        lastData0Wr := if addr = DM_ADDR_DATA0 then w else c.lastData0Wr
        lastData1Wr := if addr = DM_ADDR_DATA0 + 1 then w else c.lastData1Wr } := by
  have hr : (DMI_WRITE == DMI_READ) = false := by decide
  have hwin : ∀ a : BitVec 7, (DM_ADDR_DATA0 ≤ a ∧ a ≤ DM_ADDR_DATA11) ∨
      (a ≠ DM_ADDR_DATA0 ∧ a ≠ DM_ADDR_DATA0 + 1) := by decide
  simp only [sampleAccess, sampleRequest, hr, beq_self_eq_true, Bool.false_eq_true, and_false, and_true,
    if_false, Bool.or_true, h, hc, SharedCoverage.writeBins, svDrift, drift]
  by_cases h₁ : DM_ADDR_DATA0 ≤ addr ∧ addr ≤ DM_ADDR_DATA11
  · have hne : addr ≠ DM_ADDR_DMCS2 := by rintro rfl; exact absurd h₁ (by decide)
    simp only [h₁, hne, and_self, if_true, if_false]
    split_ifs <;> rfl
  obtain ⟨hd0, hd1⟩ := (hwin addr).resolve_left h₁
  simp only [h₁, hd0, hd1, if_false]
  by_cases h₂ : DM_ADDR_PROGBUF0 ≤ addr ∧ addr ≤ DM_ADDR_PROGBUF15
  · have hne : addr ≠ DM_ADDR_DMCS2 := by rintro rfl; exact absurd h₂ (by decide)
    simp only [h₂, hne, and_self, if_true, if_false]
    rfl
  by_cases h₃ : addr = DM_ADDR_SBCS
  · subst h₃
    rw [cgSbcs_write]
    rfl
  by_cases h₄ : addr = DM_ADDR_SBADDRESS0
  · subst h₄
    rfl
  by_cases h₅ : addr = DM_ADDR_SBDATA0
  · subst h₅
    rfl
  by_cases h₆ : addr = DM_ADDR_DMCS2
  · subst h₆
    rfl
  simp only [h₂, h₃, h₄, h₅, h₆, if_false, or_self, List.append_nil]

/-- The state shared with the other model, between accesses. -/
structure Stages (c : DebugCoverage) (s : SharedCoverage) : Prop where
  data0 : c.lastData0Wr = s.data0
  data1 : c.lastData1Wr = s.data1
  idle : c.pendingReadValid = false

theorem sampleCommand_extHits (h : c.Stages s) (w : BitVec 32) :
    (c.sampleCommand w).extHits =
      c.extHits ++ (svDrift (.write DM_ADDR_COMMAND w) ++ s.writeBins DM_ADDR_COMMAND w) := by
  have hdrift : svDrift (.write DM_ADDR_COMMAND w) = cgCommandWrite w := rfl
  have hbins : s.writeBins DM_ADDR_COMMAND w =
      (if w.getLsbD 18 then [.progbufExecuted] else []) ++ s.triggerBins w := rfl
  rw [hdrift, hbins, SharedCoverage.triggerBins, ← h.data0, ← h.data1]
  have hexec : cgProgbuf false true = [.progbufExecuted] := rfl
  simp only [sampleCommand, triggerOperand, hit, hexec]
  split_ifs <;> simp

/-- A read of any register but `dmstatus`. -/
theorem sampleAccess_read (h : c.pendingReadValid = false) (r : BitVec 32) {addr : BitVec 7}
    (hs : addr ≠ DM_ADDR_DMSTATUS) :
    (c.sampleAccess (.read addr r)).extHits = c.extHits ++ SharedCoverage.readBins addr r ∧
      (c.sampleAccess (.read addr r)).lastData0Wr = c.lastData0Wr ∧
      (c.sampleAccess (.read addr r)).lastData1Wr = c.lastData1Wr := by
  have hw : (DMI_READ == DMI_WRITE) = false := by decide
  have hidle : ∀ (bins : List ExtBin) (t : JtagTxn), (c.hit bins).resolveRead t = c.hit bins :=
    fun bins t => resolveRead_of_idle (c := c.hit bins) h t
  simp only [sampleAccess, sampleRequest, hw, beq_self_eq_true, Bool.false_eq_true, and_false, and_true,
    if_false, Bool.or_false, hs, SharedCoverage.readBins]
  by_cases h₁ : addr = DM_ADDR_ABSTRACTCS
  · subst h₁
    rw [if_pos rfl, if_pos rfl, resolveRead_latchRead]
    exact ⟨rfl, rfl, rfl⟩
  by_cases h₂ : addr = DM_ADDR_HARTINFO
  · subst h₂
    rw [if_neg h₁, if_pos rfl, if_neg h₁, if_pos rfl, resolveRead_latchRead]
    refine ⟨?_, rfl, rfl⟩
    show c.extHits ++ cgHartinfoRead (.ofBits r) = _
    rw [cgHartinfoRead, FourState.bit?_ofBits]
    rfl
  simp only [h₁, h₂, if_false]
  by_cases h₃ : DM_ADDR_DATA0 ≤ addr ∧ addr ≤ DM_ADDR_DATA11
  · simp only [h₃, and_self, if_true, hidle]
    exact ⟨rfl, rfl, rfl⟩
  by_cases h₄ : addr = DM_ADDR_SBCS
  · subst h₄
    rw [if_neg h₃, if_pos rfl, if_neg h₃, if_pos rfl, resolveRead_latchRead]
    exact ⟨rfl, rfl, rfl⟩
  by_cases h₅ : addr = DM_ADDR_SBADDRESS0
  · subst h₅
    rw [if_neg h₃, if_neg h₄, if_pos (Or.inl rfl), hidle]
    exact ⟨rfl, rfl, rfl⟩
  by_cases h₆ : addr = DM_ADDR_SBDATA0
  · subst h₆
    rw [if_neg h₃, if_neg h₄, if_pos (Or.inr rfl), hidle]
    exact ⟨rfl, rfl, rfl⟩
  by_cases h₇ : addr = DM_ADDR_HALTSUM0
  · subst h₇
    rw [if_neg h₃, if_neg h₄, if_neg (by decide), if_pos rfl, resolveRead_latchRead]
    refine ⟨?_, rfl, rfl⟩
    show c.extHits ++ cgHaltsum0Read (.ofBits r) = _
    rw [cgHaltsum0Read, FourState.neZero?_ofBits]
    rfl
  simp only [h₃, h₄, h₅, h₆, h₇, if_false, or_self, List.append_nil, resolveRead_of_idle h, and_self]

/-- **One access.**  The operands are staged, and the bins are the shared ones and those that drift. -/
theorem Stages.sampleAccess (h : c.Stages s) (a : DmiAccess) :
    (c.sampleAccess a).Stages (s.step a) ∧
      ∀ b, b ∈ (c.sampleAccess a).extHits ↔ b ∈ c.extHits ∨ b ∈ s.accessBins a ∨ b ∈ svDrift a := by
  cases a with
  | write addr w =>
    by_cases h₁ : addr = DM_ADDR_DMCONTROL
    · subst h₁
      obtain ⟨hext, hd0, hd1⟩ := sampleDmcontrolWrite_external (c := c) w
      refine ⟨⟨hd0.trans h.data0, hd1.trans h.data1, ?_⟩, ?_⟩
      · exact (congrArg Prod.fst (sampleDmcontrolWrite_pipeline w)).trans h.idle
      · intro b
        show b ∈ (c.sampleDmcontrolWrite w).extHits ↔ _
        rw [hext]
        exact (or_iff_left (by rintro (hb | hb) <;> cases hb)).symm
    by_cases h₂ : addr = DM_ADDR_COMMAND
    · subst h₂
      have hpipe := sampleCommand_pipeline (c := c) w
      have hkept : (c.sampleCommand w).lastData0Wr = c.lastData0Wr ∧
          (c.sampleCommand w).lastData1Wr = c.lastData1Wr := by
        simp only [sampleCommand]
        split_ifs <;> exact ⟨rfl, rfl⟩
      refine ⟨⟨hkept.1.trans h.data0, hkept.2.trans h.data1, (congrArg Prod.fst hpipe).trans h.idle⟩, ?_⟩
      intro b
      show b ∈ (c.sampleCommand w).extHits ↔ _
      rw [sampleCommand_extHits h, List.mem_append, List.mem_append, or_comm (a := b ∈ svDrift _)]
      rfl
    rw [sampleAccess_write s w h₁ h₂]
    refine ⟨⟨?_, ?_, h.idle⟩, ?_⟩
    · show (if _ then w else c.lastData0Wr) = _
      rw [h.data0]
      rfl
    · show (if _ then w else c.lastData1Wr) = _
      rw [h.data1]
      rfl
    · intro b
      show b ∈ c.extHits ++ _ ↔ _
      rw [List.mem_append, List.mem_append, or_comm (a := b ∈ svDrift _)]
      rfl
  | read addr r =>
    have hidle : (c.sampleAccess (.read addr r)).pendingReadValid = false :=
      resolveRead_pendingReadValid (by rw [FourState.ne_ofBits]; rfl)
    have hdrift : ∀ b, b ∉ svDrift (.read addr r) := fun b hb => by cases hb
    by_cases h₁ : addr = DM_ADDR_DMSTATUS
    · subst h₁
      obtain ⟨hext, hd0, hd1⟩ := sampleDmstatusRead_external
        (c := { c.latchRead DM_ADDR_DMSTATUS with reads := c.reads ++ [(DM_ADDR_DMSTATUS, .ofBits r)] })
        (.ofBits r)
      rw [sampleAccess_dmstatus]
      refine ⟨⟨hd0.trans h.data0, hd1.trans h.data1, rfl⟩, ?_⟩
      intro b
      rw [or_iff_left (hdrift b)]
      have hbins : s.accessBins (.read DM_ADDR_DMSTATUS r) = [] := rfl
      rw [hbins, or_iff_left (List.not_mem_nil)]
      exact Iff.of_eq (congrArg (b ∈ ·) hext)
    obtain ⟨hext, hd0, hd1⟩ := sampleAccess_read h.idle r h₁
    refine ⟨⟨hd0.trans h.data0, hd1.trans h.data1, hidle⟩, ?_⟩
    intro b
    rw [or_iff_left (hdrift b), hext, List.mem_append]
    rfl

end DebugCoverage

/-! ## The Python model -/

/-- A field, as Python masks it out of the word. -/
theorem toNat_field (w : BitVec 32) (lo n : Nat) :
    w.toNat >>> lo &&& (2 ^ n - 1) = (w.extractLsb' lo n).toNat := by
  rw [BitVec.extractLsb'_toNat, Nat.and_two_pow_sub_one_eq_mod]

namespace DebugCoverageModel

theorem regnoClass?_toNat (v : BitVec 16) : regnoClass? v.toNat = regnoClassOf v := by
  have hlo : 0x1000#16 ≤ v ↔ 0x1000 ≤ v.toNat := Iff.rfl
  have hhi : v ≤ 0x101F#16 ↔ v.toNat ≤ 0x101F := Iff.rfl
  have hcsr : v ≤ 0x0FFF#16 ↔ v.toNat ≤ 0x0FFF := Iff.rfl
  simp only [regnoClass?, regnoClassOf, hlo, hhi, hcsr]
  split_ifs
  · omega
  · rfl
  · rfl
  · rfl

theorem triggerCsr?_toNat (v : BitVec 16) : triggerCsr? v.toNat = triggerCsrOf v := by
  simp only [triggerCsr?, triggerCsrOf, ← BitVec.toNat_inj]
  rfl

theorem triggerType?_toNat (v : BitVec 4) : triggerType? v.toNat = triggerTypeOf v := by
  simp only [triggerType?, triggerTypeOf, ← BitVec.toNat_inj]
  rfl

variable {c : DebugCoverageModel} {s : SharedCoverage}

/-- The state shared with the other model. -/
structure Stages (c : DebugCoverageModel) (s : SharedCoverage) : Prop where
  data0 : c.stagedData0 = s.data0.toNat
  data1 : c.stagedData1 = s.data1.toNat

/-- The bins of a command. -/
theorem mem_commandBins (h : c.Stages s) (w : BitVec 32) (b : ExtBin) :
    b ∈ c.commandBins w.toNat ↔
      b ∈ s.writeBins DM_ADDR_COMMAND w ∨ b ∈ pyDrift (.write DM_ADDR_COMMAND w) := by
  have hregno : w.toNat &&& 0xFFFF = (w.extractLsb' 0 16).toNat := toNat_field w 0 16
  have hsize : w.toNat >>> 20 &&& 0x7 = 3 ↔ w.extractLsb' 20 3 = 3#3 := by
    have haar : w.toNat >>> 20 &&& 0x7 = (w.extractLsb' 20 3).toNat := toNat_field w 20 3
    rw [haar, ← BitVec.toNat_inj]
    rfl
  have htype : ∀ v : BitVec 32, triggerType? (v.toNat >>> 28 &&& 0xF) = triggerTypeOf (v.extractLsb' 28 4) := by
    intro v
    have hfield : v.toNat >>> 28 &&& 0xF = (v.extractLsb' 28 4).toNat := toNat_field v 28 4
    rw [hfield, triggerType?_toNat]
  have htdata1 : (w.extractLsb' 0 16).toNat = 0x07A1 ↔ w.extractLsb' 0 16 = 0x07A1#16 := by
    rw [← BitVec.toNat_inj]
    rfl
  have hwrite : s.writeBins DM_ADDR_COMMAND w =
      (if w.getLsbD 18 then [.progbufExecuted] else []) ++ s.triggerBins w := rfl
  have hdrift : pyDrift (.write DM_ADDR_COMMAND w) = if w.getLsbD 17 then cgCommandWrite w else [] := rfl
  have hbit : ∀ i, w.toNat.testBit i = w.getLsbD i := fun i => BitVec.testBit_toNat w
  rw [hwrite, hdrift]
  simp only [commandBins, hregno, hsize, hbit, regnoClass?_toNat, triggerCsr?_toNat, htdata1,
    SharedCoverage.triggerBins, cgCommandWrite, cgTrigger, h.data0, h.data1, ← apply_ite BitVec.toNat,
    htype, List.mem_append]
  have hreorder : ∀ A B C D E : Prop, (A ∨ B ∨ C ∨ D) ∨ E ↔ (E ∨ C ∨ D) ∨ A ∨ B := by
    intro A B C D E
    rw [or_comm (b := E), ← or_assoc (a := A), or_comm (b := C ∨ D), ← or_assoc (a := E)]
  cases ht : w.getLsbD 17 with
  | false => simp
  | true =>
    cases hc : triggerCsrOf (w.extractLsb' 0 16) with
    | none =>
      simp only [Option.isSome_none, Bool.false_eq_true, Bool.and_false, false_and, if_true, if_false,
        Option.map_none, Option.toList_none, List.mem_cons, List.mem_append, List.not_mem_nil, or_false]
      rw [or_comm (b := b = _ ∨ _)]
    | some csr =>
      simp only [Option.isSome_some, Bool.true_and, Bool.and_eq_true, beq_iff_eq, true_and, if_true,
        List.mem_cons, List.mem_append]
      exact hreorder _ _ _ _ _

/-- The addresses both models compare with, as numbers. -/
theorem toNat_addr_iff (addr a : BitVec 7) : addr.toNat = a.toNat ↔ addr = a := BitVec.toNat_inj

/-- `stage` follows the operands. -/
theorem Stages.stage_write (h : c.Stages s) (addr : BitVec 7) (w : BitVec 32) :
    (c.stage .write addr.toNat w.toNat).Stages (s.step (.write addr w)) := by
  have h0 : addr.toNat = 0x04 ↔ addr = DM_ADDR_DATA0 := toNat_addr_iff addr DM_ADDR_DATA0
  have h1 : addr.toNat = 0x04 + 1 ↔ addr = DM_ADDR_DATA0 + 1 := toNat_addr_iff addr (DM_ADDR_DATA0 + 1)
  have hne : ¬ DM_ADDR_DATA0 = DM_ADDR_DATA0 + 1 := by decide
  simp only [stage, h0, h1, true_and, SharedCoverage.step]
  by_cases hd0 : addr = DM_ADDR_DATA0
  · subst hd0
    simp only [hne, if_true, if_false]
    exact ⟨rfl, h.data1⟩
  · by_cases hd1 : addr = DM_ADDR_DATA0 + 1
    · subst hd1
      simp only [hd0, if_true, if_false]
      exact ⟨h.data0, rfl⟩
    · simp only [hd0, hd1, if_false]
      exact ⟨h.data0, h.data1⟩

/-- The accesses `sample` passes on. -/
theorem sampleAccess_write_eq (w : BitVec 32) {addr : BitVec 7} (hc : addr ≠ DM_ADDR_DMCONTROL)
    (hs : addr ≠ DM_ADDR_DMSTATUS) :
    c.sampleAccess (.write addr w) = c.sampleExternalDebug .write addr.toNat w.toNat 0 := by
  have hdmcontrol : addr.toNat ≠ DMCONTROL.address := fun e => hc (BitVec.toNat_inj.mp e)
  have hdmstatus : addr.toNat ≠ DMSTATUS.address := fun e => hs (BitVec.toNat_inj.mp e)
  simp only [sampleAccess, sample, hdmcontrol, hdmstatus, and_false, if_false]

theorem sampleAccess_read_eq (r : BitVec 32) {addr : BitVec 7} (hc : addr ≠ DM_ADDR_DMCONTROL)
    (hs : addr ≠ DM_ADDR_DMSTATUS) :
    c.sampleAccess (.read addr r) = c.sampleExternalDebug .read addr.toNat 0 r.toNat := by
  have hdmcontrol : addr.toNat ≠ DMCONTROL.address := fun e => hc (BitVec.toNat_inj.mp e)
  have hdmstatus : addr.toNat ≠ DMSTATUS.address := fun e => hs (BitVec.toNat_inj.mp e)
  simp only [sampleAccess, sample, hdmcontrol, hdmstatus, and_false, if_false]

theorem stage_extHits (op : ObserverOp) (addr w : Nat) : (c.stage op addr w).extHits = c.extHits := by
  unfold stage
  split_ifs <;> rfl

/-- A write of any register but `dmcontrol`. -/
theorem mem_sampleAccess_write (h : c.Stages s) (w : BitVec 32) {addr : BitVec 7}
    (hc : addr ≠ DM_ADDR_DMCONTROL) (b : ExtBin) :
    b ∈ (c.sampleAccess (.write addr w)).extHits ↔
      b ∈ c.extHits ∨ b ∈ s.writeBins addr w ∨ b ∈ pyDrift (.write addr w) := by
  have hbit : ∀ i, w.toNat.testBit i = w.getLsbD i := fun i => BitVec.testBit_toNat w
  by_cases h₁ : addr = DM_ADDR_COMMAND
  · subst h₁
    have hhits : (c.sampleAccess (.write DM_ADDR_COMMAND w)).extHits = c.extHits ++ c.commandBins w.toNat := rfl
    rw [hhits, List.mem_append, mem_commandBins h]
  by_cases h₂ : addr = DM_ADDR_SBCS
  · subst h₂
    have hhits : (c.sampleAccess (.write DM_ADDR_SBCS w)).extHits =
        c.extHits ++ [ExtBin.readonaddr (w.toNat.testBit 20)] := rfl
    have hdrift : pyDrift (.write DM_ADDR_SBCS w) = [] := rfl
    rw [hhits, hbit, hdrift, List.mem_append, or_iff_left List.not_mem_nil]
    rfl
  by_cases h₃ : addr = DM_ADDR_SBADDRESS0
  · subst h₃
    have hhits : (c.sampleAccess (.write DM_ADDR_SBADDRESS0 w)).extHits =
        c.extHits ++ [ExtBin.sbAccess .addrWrite] := rfl
    have hdrift : pyDrift (.write DM_ADDR_SBADDRESS0 w) = [] := rfl
    rw [hhits, hdrift, List.mem_append, or_iff_left List.not_mem_nil]
    rfl
  by_cases h₄ : addr = DM_ADDR_SBDATA0
  · subst h₄
    have hhits : (c.sampleAccess (.write DM_ADDR_SBDATA0 w)).extHits =
        c.extHits ++ [ExtBin.sbAccess .dataWrite] := rfl
    have hdrift : pyDrift (.write DM_ADDR_SBDATA0 w) = [] := rfl
    rw [hhits, hdrift, List.mem_append, or_iff_left List.not_mem_nil]
    rfl
  by_cases h₅ : addr = DM_ADDR_DMCS2
  · subst h₅
    have hgroup : w.toNat >>> 2 &&& 0x1F = (w.extractLsb' 2 5).toNat := toNat_field w 2 5
    have hne : ((w.extractLsb' 2 5).toNat != 0) = (w.extractLsb' 2 5 != 0) := by
      rw [Bool.eq_iff_iff, bne_iff_ne, bne_iff_ne, ne_eq, ne_eq, ← BitVec.toNat_inj]
      rfl
    have hhits : (c.sampleAccess (.write DM_ADDR_DMCS2 w)).extHits =
        c.extHits ++ [ExtBin.hgselect (w.toNat.testBit 2), ExtBin.grouptype (w.toNat.testBit 11),
          ExtBin.group (w.toNat >>> 2 &&& 0x1F != 0)] := rfl
    have hbins : s.writeBins DM_ADDR_DMCS2 w =
        [.grouptype (w.getLsbD 11), .group (w.extractLsb' 2 5 != 0)] := rfl
    have hdrift : pyDrift (.write DM_ADDR_DMCS2 w) = [.hgselect (w.getLsbD 2)] := rfl
    rw [hhits, hbins, hdrift, hbit, hbit, hgroup, hne]
    simp only [List.mem_append, List.mem_cons, List.not_mem_nil, or_false]
    rw [or_comm (a := b = .hgselect _)]
  -- what is left are the two windows, and addresses neither model looks at
  have hdrift : pyDrift (.write addr w) = [] := by simp [pyDrift, drift, h₁, h₅]
  rw [hdrift, or_iff_left List.not_mem_nil]
  by_cases h₆ : addr = DM_ADDR_DMSTATUS
  · subst h₆
    exact (or_iff_left (by intro hb; cases hb)).symm
  have hn : ∀ {a : BitVec 7}, addr ≠ a → addr.toNat ≠ a.toNat := fun hne e => hne (BitVec.toNat_inj.mp e)
  have hcmd : addr.toNat ≠ 0x17 := hn h₁
  have hsbcs : addr.toNat ≠ 0x38 := hn h₂
  have hsbaddr : addr.toNat ≠ 0x39 := hn h₃
  have hsbdata : addr.toNat ≠ 0x3C := hn h₄
  have hdmcs2 : addr.toNat ≠ 0x32 := hn h₅
  have hdata : (0x04 ≤ addr.toNat ∧ addr.toNat ≤ 0x0F) ↔ (DM_ADDR_DATA0 ≤ addr ∧ addr ≤ DM_ADDR_DATA11) :=
    Iff.rfl
  have hprogbuf : (0x20 ≤ addr.toNat ∧ addr.toNat ≤ 0x2F) ↔
      (DM_ADDR_PROGBUF0 ≤ addr ∧ addr ≤ DM_ADDR_PROGBUF15) := Iff.rfl
  have hbins : (c.stage .write addr.toNat w.toNat).externalBins .write addr.toNat w.toNat 0 =
      s.writeBins addr w := by
    simp only [externalBins, SharedCoverage.writeBins, hcmd, hsbcs, hsbaddr, hsbdata, hdmcs2, hdata, hprogbuf,
      h₁, h₂, h₃, h₄, h₅, true_and, false_and, and_false, reduceCtorEq, if_false, decide_true]
  rw [sampleAccess_write_eq w hc h₆, sampleExternalDebug, hit, hbins, stage_extHits, List.mem_append]

/-- A read of any register but `dmstatus`. -/
theorem sampleAccess_read_extHits (r : BitVec 32) {addr : BitVec 7} (hs : addr ≠ DM_ADDR_DMSTATUS) :
    (c.sampleAccess (.read addr r)).extHits = c.extHits ++ SharedCoverage.readBins addr r := by
  have hbit : ∀ i, r.toNat.testBit i = r.getLsbD i := fun i => BitVec.testBit_toNat r
  by_cases h₁ : addr = DM_ADDR_ABSTRACTCS
  · subst h₁
    have hpb : r.toNat >>> 24 &&& 0x1F = (r.extractLsb' 24 5).toNat := toNat_field r 24 5
    have hdc : r.toNat >>> 0 &&& 0xF = (r.extractLsb' 0 4).toNat := toNat_field r 0 4
    have hhits : (c.sampleAccess (.read DM_ADDR_ABSTRACTCS r)).extHits =
        c.extHits ++ (ExtBin.abstractcsBusy (r.toNat.testBit 12) ::
          ((if r.toNat >>> 24 &&& 0x1F ≠ 0 then [ExtBin.hasProgbuf] else []) ++
            (if r.toNat >>> 0 &&& 0xF ≠ 0 then [ExtBin.hasData] else []))) := rfl
    have hbins : SharedCoverage.readBins DM_ADDR_ABSTRACTCS r = cgAbstractcsRead (.ofBits r) := rfl
    have hnz : ∀ {n : Nat} (v : BitVec n), (some (v != 0) = some true) ↔ v.toNat ≠ 0 := by
      intro n v
      rw [Option.some.injEq, bne_iff_ne, ne_eq, ne_eq, ← BitVec.toNat_inj]
      rfl
    rw [hhits, hbins, hbit, hpb, hdc, cgAbstractcsRead]
    simp only [FourState.bit?_ofBits, FourState.extract_ofBits, FourState.neZero?_ofBits, hnz]
    rfl
  by_cases h₂ : addr = DM_ADDR_HARTINFO
  · subst h₂
    rfl
  by_cases h₃ : addr = DM_ADDR_SBCS
  · subst h₃
    have hhits : (c.sampleAccess (.read DM_ADDR_SBCS r)).extHits =
        c.extHits ++ (ExtBin.readonaddr (r.toNat.testBit 20) ::
          (if ObserverOp.read = .read ∧ r.toNat.testBit 21 = false then [ExtBin.sbbusyIdle] else [])) := rfl
    have hbins : SharedCoverage.readBins DM_ADDR_SBCS r = cgSbcs (.ofBits r) false := rfl
    rw [hhits, hbins, hbit, hbit, cgSbcs]
    simp only [FourState.bit?_ofBits, Option.some.injEq, true_and]
    rfl
  by_cases h₄ : addr = DM_ADDR_SBDATA0
  · subst h₄
    rfl
  by_cases h₅ : addr = DM_ADDR_HALTSUM0
  · subst h₅
    have hne : (r.toNat != 0) = (r != 0) := by
      rw [Bool.eq_iff_iff, bne_iff_ne, bne_iff_ne, ne_eq, ne_eq, ← BitVec.toNat_inj]
      rfl
    have hhits : (c.sampleAccess (.read DM_ADDR_HALTSUM0 r)).extHits = c.extHits ++ [ExtBin.haltsum0 (r.toNat != 0)] :=
      rfl
    rw [hhits, hne]
    rfl
  by_cases h₆ : addr = DM_ADDR_DMCONTROL
  · subst h₆
    exact (List.append_nil _).symm
  have hn : ∀ {a : BitVec 7}, addr ≠ a → addr.toNat ≠ a.toNat := fun hne e => hne (BitVec.toNat_inj.mp e)
  have habs : addr.toNat ≠ 0x16 := hn h₁
  have hinfo : addr.toNat ≠ 0x12 := hn h₂
  have hsbcs : addr.toNat ≠ 0x38 := hn h₃
  have hsbdata : addr.toNat ≠ 0x3C := hn h₄
  have hsum : addr.toNat ≠ 0x40 := hn h₅
  have hdata : (0x04 ≤ addr.toNat ∧ addr.toNat ≤ 0x0F) ↔ (DM_ADDR_DATA0 ≤ addr ∧ addr ≤ DM_ADDR_DATA11) :=
    Iff.rfl
  have hbins : (c.stage .read addr.toNat 0).externalBins .read addr.toNat 0 r.toNat =
      SharedCoverage.readBins addr r := by
    simp only [externalBins, SharedCoverage.readBins, habs, hinfo, hsbcs, hsbdata, hsum, hdata, h₁, h₂, h₃, h₄,
      h₅, false_and, and_false, reduceCtorEq, if_false, decide_false]
  rw [sampleAccess_read_eq r h₆ hs, sampleExternalDebug, hit, hbins, stage_extHits]

/-- The operands are staged by writes of their own registers only. -/
theorem Stages.step (h : c.Stages s) (a : DmiAccess) : (c.sampleAccess a).Stages (s.step a) := by
  have hkeep : ∀ d : DebugCoverageModel, d.external = c.external → d.Stages s := by
    intro d hd
    simp only [external, Prod.mk.injEq] at hd
    exact ⟨hd.1.trans h.data0, hd.2.1.trans h.data1⟩
  cases a with
  | write addr w =>
    by_cases h₁ : addr = DM_ADDR_DMCONTROL
    · subst h₁
      have hd := hkeep _ (sampleDmcontrolWrite_external c w.toNat)
      exact ⟨hd.data0, hd.data1⟩
    by_cases h₂ : addr = DM_ADDR_DMSTATUS
    · subst h₂
      exact ⟨h.data0, h.data1⟩
    have hstage := h.stage_write addr w
    rw [sampleAccess_write_eq w h₁ h₂]
    exact ⟨hstage.data0, hstage.data1⟩
  | read addr r =>
    have hstep : ∀ {d : DebugCoverageModel}, d.Stages s → d.Stages (s.step (.read addr r)) :=
      fun hd => ⟨hd.data0, hd.data1⟩
    refine hstep ?_
    by_cases h₁ : addr = DM_ADDR_DMCONTROL
    · subst h₁
      exact h
    by_cases h₂ : addr = DM_ADDR_DMSTATUS
    · subst h₂
      exact hkeep _ (sampleDmstatusRead_external c r.toNat)
    have hstage : c.stage .read addr.toNat 0 = c := by simp [stage]
    rw [sampleAccess_read_eq r h₁ h₂, sampleExternalDebug, hstage]
    exact ⟨h.data0, h.data1⟩

/-- **One access.**  The bins are the shared ones and those that drift. -/
theorem Stages.mem_sampleAccess (h : c.Stages s) (a : DmiAccess) (b : ExtBin) :
    b ∈ (c.sampleAccess a).extHits ↔ b ∈ c.extHits ∨ b ∈ s.accessBins a ∨ b ∈ pyDrift a := by
  cases a with
  | write addr w =>
    by_cases h₁ : addr = DM_ADDR_DMCONTROL
    · subst h₁
      have hext : (c.sampleDmcontrolWrite w.toNat).extHits = c.extHits :=
        congrArg (fun e => e.2.2) (sampleDmcontrolWrite_external c w.toNat)
      show b ∈ (c.sampleDmcontrolWrite w.toNat).extHits ↔ _
      rw [hext]
      exact (or_iff_left (by rintro (hb | hb) <;> cases hb)).symm
    · exact mem_sampleAccess_write h w h₁ b
  | read addr r =>
    have hdrift : b ∉ pyDrift (.read addr r) := fun hb => by cases hb
    rw [or_iff_left hdrift]
    by_cases h₁ : addr = DM_ADDR_DMSTATUS
    · subst h₁
      have hext : (c.sampleDmstatusRead r.toNat).extHits = c.extHits :=
        congrArg (fun e => e.2.2) (sampleDmstatusRead_external c r.toNat)
      show b ∈ (c.sampleDmstatusRead r.toNat).extHits ↔ _
      rw [hext]
      exact (or_iff_left (by intro hb; cases hb)).symm
    · rw [sampleAccess_read_extHits r h₁, List.mem_append]
      rfl

end DebugCoverageModel

/-! ## Whole streams -/

/-- The bins of `covergroups.sv` after a stream. -/
theorem DebugCoverage.mem_extHits (as : List DmiAccess) :
    (DebugCoverage.afterAccesses as).Stages (SharedCoverage.after as) ∧
      ∀ b, b ∈ (DebugCoverage.afterAccesses as).extHits ↔
        b ∈ (SharedCoverage.after as).bins ∨ ∃ a ∈ as, b ∈ svDrift a := by
  induction as using List.reverseRecOn with
  | nil => exact ⟨⟨rfl, rfl, rfl⟩, fun b => by simp [afterAccesses, SharedCoverage.after]⟩
  | append_singleton as a ih =>
    obtain ⟨hstages, hmem⟩ := ih.1.sampleAccess a
    rw [afterAccesses_concat, SharedCoverage.after_concat]
    refine ⟨hstages, ?_⟩
    intro b
    rw [hmem, ih.2]
    simp only [SharedCoverage.step, List.mem_append, List.mem_singleton, or_and_right, exists_or,
      exists_eq_left]
    exact or_or_or_comm

/-- The bins of `coverage.py` after a stream. -/
theorem DebugCoverageModel.mem_extHits (as : List DmiAccess) :
    (DebugCoverageModel.after as).Stages (SharedCoverage.after as) ∧
      ∀ b, b ∈ (DebugCoverageModel.after as).extHits ↔
        b ∈ (SharedCoverage.after as).bins ∨ ∃ a ∈ as, b ∈ pyDrift a := by
  induction as using List.reverseRecOn with
  | nil => exact ⟨⟨rfl, rfl⟩, fun b => by simp [after, SharedCoverage.after]⟩
  | append_singleton as a ih =>
    rw [after_concat, SharedCoverage.after_concat]
    refine ⟨ih.1.step a, ?_⟩
    intro b
    rw [ih.1.mem_sampleAccess a, ih.2]
    simp only [SharedCoverage.step, List.mem_append, List.mem_singleton, or_and_right, exists_or,
      exists_eq_left]
    exact or_or_or_comm

/-- The bins the models take differently. -/
def ExtBin.drifts : ExtBin → Bool
  | .commandWrite _ | .regnoClass _ | .hgselect _ => true
  | _ => false

theorem cgTrigger_drifts (regno : BitVec 16) (isTdata1Write : Bool) (ttype : BitVec 4) :
    ∀ b ∈ cgTrigger regno isTdata1Write ttype, b.drifts = false := by
  intro b hb
  simp only [cgTrigger, List.mem_append] at hb
  obtain hb | hb := hb
  · simp only [Option.mem_toList, Option.map_eq_some_iff] at hb
    obtain ⟨csr, -, rfl⟩ := hb
    rfl
  · split at hb
    · simp only [Option.mem_toList, Option.map_eq_some_iff] at hb
      obtain ⟨ty, -, rfl⟩ := hb
      rfl
    · cases hb

namespace SharedCoverage

theorem writeBins_drifts (s : SharedCoverage) (addr : BitVec 7) (w : BitVec 32) :
    ∀ b ∈ s.writeBins addr w, b.drifts = false := by
  have htrigger : ∀ b ∈ s.triggerBins w, b.drifts = false := by
    intro b hb
    simp only [triggerBins] at hb
    by_cases hreach : (w.getLsbD 17 && (triggerCsrOf (w.extractLsb' 0 16)).isSome) = true
    · rw [if_pos hreach] at hb
      exact cgTrigger_drifts _ _ _ b hb
    · rw [if_neg hreach] at hb
      cases hb
  unfold writeBins
  split
  · intro b hb
    obtain hb | hb := List.mem_append.mp hb
    · split at hb
      · rw [List.mem_singleton.mp hb]
        rfl
      · cases hb
    · exact htrigger b hb
  · split_ifs <;> simp [ExtBin.drifts]

theorem readBins_drifts (addr : BitVec 7) (r : BitVec 32) : ∀ b ∈ readBins addr r, b.drifts = false := by
  simp only [readBins, cgAbstractcsRead, cgSbcs, FourState.bit?_ofBits, Option.toList_some,
    List.map_singleton]
  split_ifs <;> simp [ExtBin.drifts]

/-- No drifting bin is counted alike. -/
theorem bins_drifts (as : List DmiAccess) : ∀ b ∈ (after as).bins, b.drifts = false := by
  induction as using List.reverseRecOn with
  | nil => intro b hb; cases hb
  | append_singleton as a ih =>
    intro b hb
    rw [after_concat] at hb
    obtain hb | hb := List.mem_append.mp hb
    · exact ih b hb
    · cases a with
      | write addr w => exact writeBins_drifts _ addr w b hb
      | read addr r => exact readBins_drifts addr r b hb

end SharedCoverage

section
variable (as : List DmiAccess)

/-- Every value of `hgselect` (bit 0) written to `dmcs2` is also the value of bit 2 of such a write, and
the other way round. -/
def HgselectCovered : Prop :=
  ∀ w ∈ writesTo as DM_ADDR_DMCS2,
    (∃ v ∈ writesTo as DM_ADDR_DMCS2, v.getLsbD 2 = w.getLsbD 0) ∧
    ∃ v ∈ writesTo as DM_ADDR_DMCS2, v.getLsbD 0 = w.getLsbD 2

/-- The direction and the register class of a command that transfers nothing are also those of commands
that transfer. -/
def CommandsCovered : Prop :=
  ∀ w ∈ writesTo as DM_ADDR_COMMAND, w.getLsbD 17 = false →
    (∃ v ∈ writesTo as DM_ADDR_COMMAND, v.getLsbD 17 = true ∧ v.getLsbD 16 = w.getLsbD 16) ∧
    ∀ cls, regnoClassOf (w.extractLsb' 0 16) = some cls →
      ∃ v ∈ writesTo as DM_ADDR_COMMAND, v.getLsbD 17 = true ∧ regnoClassOf (v.extractLsb' 0 16) = some cls

variable {as}

theorem exists_drift_iff (command : BitVec 32 → List ExtBin) (hgselect : BitVec 32 → Bool) (b : ExtBin) :
    (∃ a ∈ as, b ∈ drift command hgselect a) ↔
      (∃ w ∈ writesTo as DM_ADDR_COMMAND, b ∈ command w) ∨
      ∃ w ∈ writesTo as DM_ADDR_DMCS2, b = .hgselect (hgselect w) := by
  simp only [mem_writesTo]
  constructor
  · rintro ⟨a, ha, hb⟩
    cases a with
    | read addr r => cases hb
    | write addr w =>
      simp only [drift] at hb
      split_ifs at hb with h₁ h₂
      · exact Or.inl ⟨w, h₁ ▸ ha, hb⟩
      · exact Or.inr ⟨w, h₂ ▸ ha, List.mem_singleton.mp hb⟩
      · cases hb
  · rintro (⟨w, hw, hb⟩ | ⟨w, hw, rfl⟩)
    · exact ⟨_, hw, hb⟩
    · exact ⟨_, hw, List.mem_singleton.mpr rfl⟩

theorem mem_cgCommandWrite {w : BitVec 32} {b : ExtBin} :
    b ∈ cgCommandWrite w ↔
      b = .commandWrite (w.getLsbD 16) ∨
      ∃ cls, regnoClassOf (w.extractLsb' 0 16) = some cls ∧ b = .regnoClass cls := by
  simp [cgCommandWrite, eq_comm]

/-- Each drifting bin in `covergroups.sv`. -/
theorem exists_svDrift_iff (as : List DmiAccess) :
    (∀ x, (∃ a ∈ as, ExtBin.hgselect x ∈ svDrift a) ↔ ∃ w ∈ writesTo as DM_ADDR_DMCS2, w.getLsbD 0 = x) ∧
    (∀ d, (∃ a ∈ as, ExtBin.commandWrite d ∈ svDrift a) ↔
      ∃ w ∈ writesTo as DM_ADDR_COMMAND, w.getLsbD 16 = d) ∧
    ∀ cls, (∃ a ∈ as, ExtBin.regnoClass cls ∈ svDrift a) ↔
      ∃ w ∈ writesTo as DM_ADDR_COMMAND, regnoClassOf (w.extractLsb' 0 16) = some cls := by
  simp only [svDrift, exists_drift_iff, mem_cgCommandWrite]
  refine ⟨?_, ?_, ?_⟩
  · intro x
    simp [eq_comm (a := x)]
  · intro d
    simp [eq_comm (a := d)]
  · intro cls
    simp

/-- Each drifting bin in `coverage.py`. -/
theorem exists_pyDrift_iff (as : List DmiAccess) :
    (∀ x, (∃ a ∈ as, ExtBin.hgselect x ∈ pyDrift a) ↔ ∃ w ∈ writesTo as DM_ADDR_DMCS2, w.getLsbD 2 = x) ∧
    (∀ d, (∃ a ∈ as, ExtBin.commandWrite d ∈ pyDrift a) ↔
      ∃ w ∈ writesTo as DM_ADDR_COMMAND, w.getLsbD 17 = true ∧ w.getLsbD 16 = d) ∧
    ∀ cls, (∃ a ∈ as, ExtBin.regnoClass cls ∈ pyDrift a) ↔
      ∃ w ∈ writesTo as DM_ADDR_COMMAND, w.getLsbD 17 = true ∧ regnoClassOf (w.extractLsb' 0 16) = some cls := by
  have hif : ∀ (w : BitVec 32) (b : ExtBin), (b ∈ if w.getLsbD 17 then cgCommandWrite w else []) ↔
      w.getLsbD 17 = true ∧ b ∈ cgCommandWrite w := by
    intro w b
    cases w.getLsbD 17 <;> simp
  simp only [pyDrift, exists_drift_iff, hif, mem_cgCommandWrite]
  refine ⟨?_, ?_, ?_⟩
  · intro x
    simp [eq_comm (a := x)]
  · intro d
    simp [eq_comm (a := d)]
  · intro cls
    simp

/-- Only drifting bins drift. -/
theorem drifts_of_mem_drift {command : BitVec 32 → List ExtBin} {hgselect : BitVec 32 → Bool}
    (hcommand : ∀ w, ∀ b ∈ command w, b ∈ cgCommandWrite w) {a : DmiAccess} {b : ExtBin}
    (hb : b ∈ drift command hgselect a) : b.drifts = true := by
  cases a with
  | read addr r => cases hb
  | write addr w =>
    simp only [drift] at hb
    split_ifs at hb
    · obtain rfl | ⟨cls, -, rfl⟩ := mem_cgCommandWrite.mp (hcommand w b hb)
      · rfl
      · rfl
    · rw [List.mem_singleton.mp hb]
      rfl
    · cases hb

end

/-- **When the external-debug bins agree.**  On the shifts of any stream of successful accesses the two
models hit the same bins if and only if the stream covers what only one of them counts. -/
theorem external_bins_iff (as : List DmiAccess) (ts : List JtagTxn) (h : Carries as ts) :
    (∀ b, b ∈ (DebugCoverageModel.after as).extHits ↔ b ∈ (DebugCoverage.after ts).extHits) ↔
      HgselectCovered as ∧ CommandsCovered as := by
  rw [(DebugCoverage.after_carries h).1]
  simp only [(DebugCoverageModel.mem_extHits as).2, (DebugCoverage.mem_extHits as).2]
  obtain ⟨hsvHg, hsvDir, hsvCls⟩ := exists_svDrift_iff as
  obtain ⟨hpyHg, hpyDir, hpyCls⟩ := exists_pyDrift_iff as
  have hpySv : ∀ w, ∀ b ∈ (if w.getLsbD 17 then cgCommandWrite w else []), b ∈ cgCommandWrite w := by
    intro w b hb
    split at hb
    · exact hb
    · cases hb
  constructor
  · intro hall
    -- a drifting bin is not among the shared ones
    have hiff : ∀ b, b.drifts = true → ((∃ a ∈ as, b ∈ pyDrift a) ↔ ∃ a ∈ as, b ∈ svDrift a) := by
      intro b hb
      have hnot : b ∉ (SharedCoverage.after as).bins := by
        intro hmem
        rw [SharedCoverage.bins_drifts as b hmem] at hb
        cases hb
      simpa only [hnot, false_or] using hall b
    constructor
    · intro w hw
      have hHg := fun x => (hpyHg x).symm.trans ((hiff (.hgselect x) rfl).trans (hsvHg x))
      exact ⟨(hHg _).mpr ⟨w, hw, rfl⟩, (hHg _).mp ⟨w, hw, rfl⟩⟩
    · intro w hw _
      have hDir := fun d => (hpyDir d).symm.trans ((hiff (.commandWrite d) rfl).trans (hsvDir d))
      have hCls := fun cls => (hpyCls cls).symm.trans ((hiff (.regnoClass cls) rfl).trans (hsvCls cls))
      exact ⟨(hDir _).mpr ⟨w, hw, rfl⟩, fun cls hcls => (hCls cls).mpr ⟨w, hw, hcls⟩⟩
  · rintro ⟨hg, hcmd⟩ b
    refine or_congr_right ?_
    -- by the kind of bin
    cases b with
    | hgselect x =>
      rw [hpyHg, hsvHg]
      constructor
      · rintro ⟨w, hw, rfl⟩
        exact (hg w hw).2
      · rintro ⟨w, hw, rfl⟩
        exact (hg w hw).1
    | commandWrite d =>
      rw [hpyDir, hsvDir]
      constructor
      · rintro ⟨w, hw, -, hd⟩
        exact ⟨w, hw, hd⟩
      · rintro ⟨w, hw, rfl⟩
        cases ht : w.getLsbD 17 with
        | true => exact ⟨w, hw, ht, rfl⟩
        | false => exact (hcmd w hw ht).1
    | regnoClass cls =>
      rw [hpyCls, hsvCls]
      constructor
      · rintro ⟨w, hw, -, hcls⟩
        exact ⟨w, hw, hcls⟩
      · rintro ⟨w, hw, hcls⟩
        cases ht : w.getLsbD 17 with
        | true => exact ⟨w, hw, ht, hcls⟩
        | false => exact (hcmd w hw ht).2 cls hcls
    | _ =>
      refine iff_of_false ?_ ?_
      · rintro ⟨a, -, hb⟩
        cases drifts_of_mem_drift hpySv hb
      · rintro ⟨a, -, hb⟩
        cases drifts_of_mem_drift (fun _ _ hb => hb) hb

/-- Two writes of `dmcs2` that swap the two bits, and a command that transfers. -/
theorem external_bins_iff_swapped :
    let as : List DmiAccess :=
      [.write DM_ADDR_DMCS2 1#32, .write DM_ADDR_DMCS2 4#32, .write DM_ADDR_COMMAND 0x00221008#32,
       .read DM_ADDR_HARTINFO 0#32]
    let ts := as.flatMap DmiAccess.shifts
    Carries as ts ∧ (HgselectCovered as ∧ CommandsCovered as) ∧
      ∀ b, b ∈ (DebugCoverageModel.after as).extHits ↔ b ∈ (DebugCoverage.after ts).extHits := by
  intro as ts
  have hcarries : Carries as ts := carries_shifts as
  have hcond : HgselectCovered as ∧ CommandsCovered as := by
    constructor
    · intro w hw
      have h1 : (1#32) ∈ writesTo as DM_ADDR_DMCS2 := List.mem_cons_self
      have h4 : (4#32) ∈ writesTo as DM_ADDR_DMCS2 := List.mem_cons_of_mem _ List.mem_cons_self
      obtain rfl | hw := List.mem_cons.mp hw
      · exact ⟨⟨4#32, h4, by decide⟩, 4#32, h4, by decide⟩
      · obtain rfl := List.mem_singleton.mp hw
        exact ⟨⟨1#32, h1, by decide⟩, 1#32, h1, by decide⟩
    · intro w hw ht
      obtain rfl : w = 0x00221008#32 := List.mem_singleton.mp hw
      exact absurd ht (by decide)
  exact ⟨hcarries, hcond, (external_bins_iff as ts hcarries).mpr hcond⟩

/-- A write of `dmcs2` with `hgselect = 1`, and a command that only executes the Program Buffer: the
models disagree about both. -/
theorem external_bins_differ :
    let as : List DmiAccess := [.write DM_ADDR_DMCS2 1#32, .write DM_ADDR_COMMAND 0x00040000#32]
    let ts := as.flatMap DmiAccess.shifts
    Carries as ts ∧
      (ExtBin.hgselect true ∈ (DebugCoverage.after ts).extHits ∧
        ExtBin.hgselect true ∉ (DebugCoverageModel.after as).extHits) ∧
      (ExtBin.commandWrite false ∈ (DebugCoverage.after ts).extHits ∧
        ExtBin.commandWrite false ∉ (DebugCoverageModel.after as).extHits) := by
  intro as ts
  exact ⟨carries_shifts as, by decide, by decide⟩

end RiscvDbg
