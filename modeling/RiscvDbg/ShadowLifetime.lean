import RiscvDbg.HartRelease
import RiscvDbg.Predictor.Commands

/-!
# How long a shadowed register lives

The shadow of a hart register is only good as long as the hart cannot have changed it.  The predictor
drops the shadow when a hart resumes and after `postexec`, and nowhere else.

* `DMPredictor.exposed` — a hart is running or held in reset, so its registers may change.
* `KeepsFresh` — the condition on one access: a register is written only while nothing is exposed
  (or with `postexec`), and no reset is asserted while the shadow holds it.
* `Guarded` — the invariant: a register in the shadow is one of a hart that is not exposed.
* `register_shadow_expires` — whole runs.
-/

set_option autoImplicit false

namespace RiscvDbg

/-! ## Harts under a write -/

namespace HartState

variable {h : HartState} {w : HartWrite}

/-- A halted hart stays halted in a write that neither resets nor resumes it. -/
theorem afterWrite_halted (ho : h.Out true) (hx : w.nonexistent = false) (hr : h.hartReset = false)
    (hwas : w.ndmWas = false) (hnow : w.ndmNow = false) (hlwas : w.levelWas = false)
    (hlevel : w.levelNow = false) (hres : h.resumes w = false) : (h.afterWrite w).Out true := by
  cases hsel : w.selected with
  | false =>
    have hb := ho.beforeSelected hx hnow
    rw [hwas, if_neg (by simp)] at hb
    have hafter : h.afterWrite w = (h.beforeSelected w).settle false := by simp [afterWrite, hsel, hnow]
    rw [hafter]
    exact hb.settle_of_released (by rw [HartState.beforeSelected, ndmEdge_hartReset]; exact hr)
  | true =>
    have hb := beforeResume_out ho hx hnow hlevel
    rw [hwas, hlwas, Bool.false_or, if_neg (by simp), Bool.true_or] at hb
    have hreq : (w.resumereq && !w.haltreq) = false := by
      unfold HartState.resumes HartState.unavail at hres
      rw [hsel, hb.nonexistent, hb.available, hb.notSticky, hb.halted] at hres
      simpa using hres
    rw [afterWrite_of_selected hsel hreq, hnow]
    exact hb.settle_of_released (by rw [beforeResume_hartReset hlevel, hr, Bool.and_false])

/-- A resume request without a step leaves no hart halted. -/
theorem afterWrite_resumed (hs : h.Settling) (hx : w.nonexistent = false) (hsel : w.selected = true)
    (hres : w.resumereq = true) (hhalt : w.haltreq = false) (hstep : w.stepArmed = false) :
    (h.afterWrite w).halted = false := by
  have hun := (hs.beforeResume hx).unavail
  have hresume : ((h.beforeResume w).respondResume false).halted = false := by
    unfold HartState.respondResume
    rw [beforeResume_nonexistent, hx, hun]
    cases (h.beforeResume w).halted <;> simp
  rw [afterWrite_of_resume hsel hres hhalt, hstep]
  unfold HartState.settle
  split
  · rfl
  · exact hresume

end HartState

/-! ## The condition -/

/-- A hart is predicted running, or a reset is asserted. -/
def DMPredictor.exposed (s : DMPredictor) : Bool :=
  s.rc.harts.any (·.running) || s.rc.ndmreset || s.rc.hartresetLevel

/-- The access executes a command that writes register `r`. -/
def DMPredictor.writesReg (r : Nat) (s : DMPredictor) (d : Dmi) : Bool :=
  (s.command d).any (Command.writesReg r)

/-- The access is an active `dmcontrol` write with `ndmreset` or an implemented `hartreset`. -/
def Dmi.assertsReset (p : Params) : Dmi → Bool
  | .write addr value =>
    addr == DMCONTROL.address && value.testBit 0 &&
      (value.testBit 1 || (value.testBit 29 && p.supportsHartreset))
  | .read _ => false

/-- The condition on one access, for register `r`; a trigger CSR is never claimed and needs none. -/
def KeepsFresh (r : Nat) (s : DMPredictor) (d : Dmi) : Prop :=
  readsBackAsWritten r = true →
    (∀ cmd ∈ s.command d, Command.writesReg r cmd = true → Command.postexec cmd = false →
        s.exposed = false) ∧
      (d.assertsReset s.params = true → s.ac.shadowRegs.get? r = none)

instance (r : Nat) (s : DMPredictor) (d : Dmi) : Decidable (KeepsFresh r s d) :=
  inferInstanceAs (Decidable (_ → (∀ cmd ∈ s.command d, _) ∧ _))

/-- The invariant for register `r`. -/
structure Guarded (r : Nat) (s : DMPredictor) : Prop where
  wellFormed : s.WellFormed
  guarded : s.ac.shadowRegs.get? r ≠ none → s.exposed = false

theorem not_exposed_iff {s : DMPredictor} (hs : s.WellFormed) :
    s.exposed = false ↔
      (∀ h ∈ s.rc.harts, h.halted = true) ∧ s.rc.ndmreset = false ∧ s.rc.hartresetLevel = false := by
  unfold DMPredictor.exposed
  rw [Bool.or_eq_false_iff, Bool.or_eq_false_iff, and_assoc, List.any_eq_false]
  refine and_congr_left fun _ => forall₂_congr fun h hh => ?_
  rw [(hs.harts h hh).1.signals]
  cases h.halted <;> simp

/-! ## One access -/

section
variable {r : Nat} {s : DMPredictor} {d : Dmi}

theorem exposed_congr {t : DMPredictor} (h : t.rc = s.rc) : t.exposed = s.exposed := by
  rw [DMPredictor.exposed, h]; rfl

theorem apply_wellFormed (hs : s.WellFormed) (d : Dmi) : (d.apply s).WellFormed := by
  cases d with
  | read addr => exact hs.of_static (s.observeRead_static addr) (s.observeRead_rc addr)
  | write addr value => exact DMPredictor.onWrite_wellFormed hs addr value

theorem apply_rc (hd : ∀ value, d ≠ .write DMCONTROL.address value) : (d.apply s).rc = s.rc := by
  cases d with
  | read addr => exact s.observeRead_rc addr
  | write addr value =>
    refine s.onWrite_rc_of_ne ?_ value
    rintro rfl
    exact hd value rfl

/-- The shadow entry of `r` after an access other than a `dmcontrol` write. -/
theorem apply_get? (hd : ∀ value, d ≠ .write DMCONTROL.address value) :
    (d.apply s).ac.shadowRegs.get? r = none ∨
      (d.apply s).ac.shadowRegs.get? r = s.ac.shadowRegs.get? r ∨
      ∃ cmd ∈ s.command d, Command.writesReg r cmd = true ∧ Command.postexec cmd = false := by
  rw [DMPredictor.apply_ac hd]
  cases hc : s.command d with
  | none => exact .inr (.inl (by rw [Option.elim_none, DMPredictor.beforeCommand_shadowRegs]))
  | some cmd =>
    rw [Option.elim_some, AbstractCommand.executeCommand_shadowRegs,
      DMPredictor.beforeCommand_shadowRegs]
    split
    · exact .inl rfl
    · rename_i hpost
      split
      · rename_i hmoves
        have hacc : Command.accepted cmd = true := by
          simp only [Command.moves, Bool.and_eq_true] at hmoves
          exact hmoves.1.1
        by_cases hr : r = Command.regno cmd
        · refine .inr (.inr ⟨cmd, rfl, ?_, ?_⟩)
          · simp [Command.writesReg, hmoves, hr]
          · simpa [hacc] using hpost
        · exact .inr (.inl (Dict.get?_set_of_ne hr _ _))
      · exact .inr (.inl rfl)

/-- A `dmcontrol` write empties the shadow or leaves it. -/
theorem writeDmcontrol_shadowRegs (value : Nat) :
    (s.writeDmcontrol value).ac.shadowRegs =
      if value.testBit 0 && s.rc.resumesSelected s.params s.ac value then .empty
      else s.ac.shadowRegs := by
  cases hv : value.testBit 0 with
  | false => rw [s.writeDmcontrol_inactive hv]; rfl
  | true =>
    rw [s.writeDmcontrol_active hv]
    dsimp only
    rw [RunControl.writeActive_snd, Bool.true_and]
    split <;> rfl

/-- A DM reset leaves halted harts halted. -/
theorem resetDm_not_exposed (hs : s.WellFormed) (he : s.exposed = false) :
    (s.resetDm false).exposed = false := by
  have hw := DMPredictor.resetDm_wellFormed hs.one_le false fun _ => hs
  rw [not_exposed_iff hs] at he
  rw [not_exposed_iff hw]
  refine ⟨fun h hh => ?_, rfl, rfl⟩
  simp only [DMPredictor.resetDm, RunControl.resetDm, List.mem_map, List.mem_range] at hh
  obtain ⟨i, hi, rfl⟩ := hh
  have hone := hs.one_le
  have hlt : i < s.rc.harts.length := by rw [hs.length]; omega
  have hget : s.rc.harts[i]? = some s.rc.harts[i] := List.getElem?_eq_getElem hlt
  rw [hget]
  exact he.1 s.rc.harts[i] (List.getElem_mem hlt)

/-- An active write that asserts no reset and resumes no hart leaves halted harts halted. -/
theorem writeActive_not_exposed (hs : s.WellFormed) (he : s.exposed = false) {value : Nat}
    (hv : value.testBit 0 = true) (hndm : value.testBit 1 = false)
    (hlevel : (value.testBit 29 && s.params.supportsHartreset) = false)
    (hres : s.rc.resumesSelected s.params s.ac value = false) :
    (s.writeDmcontrol value).exposed = false := by
  have hw := DMPredictor.writeDmcontrol_wellFormed hs value
  rw [not_exposed_iff hs] at he
  rw [not_exposed_iff hw, s.writeDmcontrol_active hv]
  obtain ⟨hhalted, hndmWas, hlevelWas⟩ := he
  refine ⟨fun h' hh' => ?_, ?_, ?_⟩
  · obtain ⟨i, hi⟩ := List.mem_iff_getElem?.mp hh'
    rw [RunControl.writeActive_harts] at hi
    obtain ⟨h, hget, rfl⟩ := Option.map_eq_some_iff.mp hi
    have hmem := List.mem_of_getElem? hget
    obtain ⟨hwf, hx⟩ := hs.harts h hmem
    have ho : h.Out true := by
      have := hwf.out hx
      rwa [hhalted h hmem] at this
    have hlt : i < s.params.numHarts := by
      rw [← hs.length]; exact (List.getElem?_eq_some_iff.mp hget).1
    have hnres : h.resumes (s.rc.hartWrite s.params s.ac value i) = false := by
      by_cases hsel : i = hartselOf value
      · subst hsel
        simpa [RunControl.resumesSelected, hget] using hres
      · simp [HartState.resumes, RunControl.hartWrite, hsel]
    refine (HartState.afterWrite_halted ho ?_ ?_ hndmWas hndm hlevelWas hlevel hnres).halted
    · simp [RunControl.hartWrite, hlt]
    · exact (hwf.not_reset_of_halted (hhalted h hmem)).2
  · rw [RunControl.writeActive_fst]; exact hndm
  · rw [RunControl.writeActive_fst]; exact hlevel

theorem dmcontrol_or_not (d : Dmi) :
    (∃ value, d = .write DMCONTROL.address value) ∨ ∀ value, d ≠ .write DMCONTROL.address value := by
  by_cases h : ∃ value, d = .write DMCONTROL.address value
  · exact .inl h
  · exact .inr fun value hd => h ⟨value, hd⟩

/-- A `dmcontrol` write executes no command. -/
theorem command_dmcontrol (value : Nat) : s.command (.write DMCONTROL.address value) = none := by
  have himpl : AbstractCommand.implemented s.cfg DMCONTROL.address = false := by
    simp [AbstractCommand.implemented, isData, isProgbuf, DMCONTROL, ADDR_DATA0, ADDR_DATA11,
      ADDR_PROGBUF0, ADDR_PROGBUF15]
  have hne : DMCONTROL.address ≠ ADDR_COMMAND := by decide
  simp [DMPredictor.command, himpl, hne]

/-- **The invariant is kept by one access.** -/
theorem Guarded.apply (hs : Guarded r s) (hback : readsBackAsWritten r = true)
    (hf : KeepsFresh r s d) : Guarded r (d.apply s) := by
  refine ⟨apply_wellFormed hs.wellFormed d, fun hget => ?_⟩
  obtain ⟨hwrite, hreset⟩ := hf hback
  rcases dmcontrol_or_not d with ⟨value, rfl⟩ | hd
  · rw [Dmi.apply, DMPredictor.onWrite_dmcontrol] at hget ⊢
    rw [writeDmcontrol_shadowRegs] at hget
    split at hget
    · exact absurd rfl hget
    · rename_i hkept
      cases hv : value.testBit 0 with
      | false =>
        rw [s.writeDmcontrol_inactive hv]
        exact resetDm_not_exposed hs.wellFormed (hs.guarded hget)
      | true =>
        rw [hv, Bool.true_and, Bool.not_eq_true] at hkept
        have hquiet : (value.testBit 1 || (value.testBit 29 && s.params.supportsHartreset)) = false := by
          rw [← Bool.not_eq_true]
          intro hor
          exact hget (hreset (by simp only [Dmi.assertsReset, beq_self_eq_true, hv, hor, Bool.and_self]))
        rw [Bool.or_eq_false_iff] at hquiet
        exact writeActive_not_exposed hs.wellFormed (hs.guarded hget) hv hquiet.1 hquiet.2 hkept
  · rw [exposed_congr (apply_rc hd)]
    rcases apply_get? (r := r) (s := s) hd with hnone | hsame | ⟨cmd, hcmd, hreg, hpost⟩
    · exact absurd hnone hget
    · exact hs.guarded (by rwa [← hsame])
    · exact hwrite cmd hcmd hreg hpost

/-- A marked access writes `r` while nothing is exposed, or forgets it at once. -/
theorem forgotten_of_written (hback : readsBackAsWritten r = true) (hf : KeepsFresh r s d)
    (hm : s.writesReg r d = true) (he : (s.exposed || (d.apply s).exposed) = true) :
    (d.apply s).ac.shadowRegs.get? r = none := by
  have hd : ∀ value, d ≠ .write DMCONTROL.address value := by
    rintro value rfl
    rw [DMPredictor.writesReg, command_dmcontrol] at hm
    exact absurd hm (by simp)
  rw [exposed_congr (apply_rc hd), Bool.or_self] at he
  rw [DMPredictor.writesReg, Option.any_eq_true] at hm
  obtain ⟨cmd, hcmd, hreg⟩ := hm
  have hpost : Command.postexec cmd = true := by
    rw [← Bool.not_eq_false]
    intro hpost
    exact absurd ((hf hback).1 cmd hcmd hreg hpost) (by simp [he])
  have hacc : Command.accepted cmd = true := by
    simp only [Command.writesReg, Command.moves, Bool.and_eq_true] at hreg
    exact hreg.1.1.1
  rw [DMPredictor.apply_ac hd, hcmd, Option.elim_some, AbstractCommand.executeCommand_shadowRegs, hacc,
    hpost]
  rfl

/-- A register that is not in the shadow enters it only by being written. -/
theorem forgotten_of_not_written (hm : s.writesReg r d = false)
    (hs : s.ac.shadowRegs.get? r = none) : (d.apply s).ac.shadowRegs.get? r = none := by
  rcases dmcontrol_or_not d with ⟨value, rfl⟩ | hd
  · rw [Dmi.apply, DMPredictor.onWrite_dmcontrol, writeDmcontrol_shadowRegs]
    split
    · rfl
    · exact hs
  · rcases apply_get? (r := r) (s := s) hd with hnone | hsame | ⟨cmd, hcmd, hreg, -⟩
    · exact hnone
    · exact hsame.trans hs
    · have : s.writesReg r d = true := by
        rw [DMPredictor.writesReg, Option.any_eq_true]
        exact ⟨cmd, hcmd, hreg⟩
      exact absurd this (by simp [hm])

/-! ## What a forgotten register means -/

/-- Nothing is claimed about `data0` after a read of a register that is not in the shadow, or is a
trigger CSR. -/
theorem hasModel_of_forgotten (hx : r ≠ GPR_X0_REGNO)
    (hs : readsBackAsWritten r = true → s.ac.shadowRegs.get? r = none) {cmd : Nat}
    (hcmd : s.command d = some cmd) (hreads : Command.readsReg r cmd = true) :
    (d.apply s).hasModel ADDR_DATA0 = false := by
  have hd : ∀ value, d ≠ .write DMCONTROL.address value := by
    rintro value rfl
    rw [command_dmcontrol] at hcmd
    exact absurd hcmd (by simp)
  simp only [Command.readsReg, Bool.and_eq_true, beq_iff_eq] at hreads
  obtain ⟨hmoves, hreg⟩ := hreads
  have hvalid : (d.apply s).ac.data0PendingValid = false := by
    rw [DMPredictor.apply_ac hd, hcmd, Option.elim_some]
    obtain ⟨hread, -⟩ := (s.beforeCommand d).executeCommand_read hmoves
    rw [hread, hreg, DMPredictor.beforeCommand_shadowRegs, Dict.contains]
    cases hb : readsBackAsWritten r with
    | false => simp [hx]
    | true => simp [hx, hs hb]
  have hmodel : (d.apply s).hasModel ADDR_DATA0 =
      if !(d.apply s).cfgValid then false else if !(d.apply s).rc.dmactive then false
      else (d.apply s).ac.data0PendingValid := rfl
  rw [hmodel, hvalid]
  repeat' split
  all_goals rfl

/-- A halted hart resumes, and does not step, if `dcsr` is not in the shadow. -/
theorem runs_of_forgotten (hs : s.WellFormed) (hforgot : s.ac.shadowRegs.get? DCSR_REGNO = none)
    {value : Nat} (hv : value.testBit 0 = true) (hres : value.testBit 30 = true)
    (hhalt : value.testBit 31 = false) {h : HartState} (hget : s.rc.harts[hartselOf value]? = some h) :
    ∃ h', (s.onWrite DMCONTROL.address value).rc.harts[hartselOf value]? = some h' ∧
      h'.running = true ∧ h'.halted = false := by
  have hlt : hartselOf value < s.params.numHarts := by
    rw [← hs.length]; exact (List.getElem?_eq_some_iff.mp hget).1
  have hx : (s.rc.hartWrite s.params s.ac value (hartselOf value)).nonexistent = false := by
    simp [RunControl.hartWrite, hlt]
  have hwf := (hs.harts h (List.mem_of_getElem? hget)).1
  have hstep : RunControl.stepArmed s.ac = false := by
    simp [RunControl.stepArmed, Dict.getD, hforgot]
  have hhalted : (h.afterWrite (s.rc.hartWrite s.params s.ac value (hartselOf value))).halted = false :=
    HartState.afterWrite_resumed hwf.settling hx (by simp [RunControl.hartWrite]) hres hhalt hstep
  have hafter := HartState.afterWrite_wellFormed
    (w := s.rc.hartWrite s.params s.ac value (hartselOf value)) hwf hx
  rw [DMPredictor.onWrite_dmcontrol, s.writeDmcontrol_active hv]
  refine ⟨h.afterWrite (s.rc.hartWrite s.params s.ac value (hartselOf value)), ?_, ?_, hhalted⟩
  · dsimp only
    rw [RunControl.writeActive_harts, hget]
    rfl
  · rw [hafter.signals, hhalted]
    rfl

end

/-! ## Whole runs -/

/-- Along a run that keeps `r` fresh: once the hart has been exposed at or after the last command that
wrote `r`, the shadow holds `r` no more. -/
theorem forgotten_of_exposed {r : Nat} (hback : readsBackAsWritten r = true) {s : DMPredictor}
    (hs : Guarded r s) {ds : List Dmi} (hds : Runs.Always Dmi.apply (KeepsFresh r) s ds) :
    let m := Runs.run (Runs.sinceLast Dmi.apply (DMPredictor.writesReg r) DMPredictor.exposed) (s, none) ds
    Guarded r m.1 ∧ (m.2 = some true → m.1.ac.shadowRegs.get? r = none) := by
  refine Runs.sinceLast_invariant (P := fun s => s.ac.shadowRegs.get? r = none)
    (fun s d hs hf => hs.apply hback hf) ?_ ?_ ?_ ds s hs hds
  · intro s d _ hf hm he
    exact forgotten_of_written hback hf hm he
  · intro s d hs hf _ he
    by_contra hget
    exact absurd ((hs.apply hback hf).guarded hget) (by simp [he])
  · intro s d _ _ hm hp
    exact forgotten_of_not_written hm hp

theorem declared_guarded {c : DeclaredConfig} (hn : c.numHarts = 1) (r : Nat) :
    Guarded r (DMPredictor.declared c) := by
  refine ⟨DMPredictor.Booted.wellFormed (.configured {} c) ?_, fun hget => absurd rfl hget⟩
  show 1 ≤ c.numHarts
  omega

/-- **A shadowed register does not survive what can change it.**  In a run of a one-hart predictor that
writes `r` only while the hart is halted and out of reset (or with `postexec`), and asserts no reset
while the shadow holds `r`: if at or after the last command that wrote `r` the hart was running or a
reset was asserted, then a command that reads `r` leaves nothing claimed about `data0`, and for `dcsr`
a resume request on the halted hart leaves it running. -/
theorem register_shadow_expires (c : DeclaredConfig) (hn : c.numHarts = 1) (r : Nat)
    (hr : r ≠ GPR_X0_REGNO) (ds : List Dmi)
    (hds : Runs.Always Dmi.apply (KeepsFresh r) (DMPredictor.declared c) ds) :
    let m := Runs.run (Runs.sinceLast Dmi.apply (DMPredictor.writesReg r) DMPredictor.exposed)
      (DMPredictor.declared c, none) ds
    m.2 = some true →
      (∀ d cmd, m.1.command d = some cmd → Command.readsReg r cmd = true →
        (d.apply m.1).hasModel ADDR_DATA0 = false) ∧
      (r = DCSR_REGNO → ∀ value h, value.testBit 0 = true → hartselOf value = 0 →
        value.testBit 30 = true → value.testBit 31 = false → m.1.rc.harts[0]? = some h →
        h.halted = true →
        ∃ h', (m.1.onWrite DMCONTROL.address value).rc.harts[0]? = some h' ∧
          h'.running = true ∧ h'.halted = false) := by
  intro m hexposed
  have hmain := fun hback => forgotten_of_exposed hback (declared_guarded hn r) hds
  refine ⟨fun d cmd hcmd hreads => ?_, ?_⟩
  · exact hasModel_of_forgotten hr (fun hback => (hmain hback).2 hexposed) hcmd hreads
  · rintro rfl value h hv hsel hres hhalt hget -
    obtain ⟨hguard, hforgot⟩ := hmain rfl
    rw [← hsel] at hget ⊢
    exact runs_of_forgotten hguard.wellFormed (hforgot hexposed) hv hres hhalt hget

/-- `x8` written on the halted hart, then resumed and halted again. -/
theorem register_shadow_expires_resume :
    let c : DeclaredConfig := { datacount := 2 }
    let ds : List Dmi := [.write 0x10 0x8000_0001, .write 0x04 5, .write 0x17 0x0023_1008,
      .write 0x10 0x4000_0001, .write 0x10 0x8000_0001]
    let m := Runs.run (Runs.sinceLast Dmi.apply (DMPredictor.writesReg 0x1008) DMPredictor.exposed)
      (DMPredictor.declared c, none) ds
    m.2 = some true ∧
      ((Dmi.write 0x17 0x0022_1008).apply m.1).hasModel ADDR_DATA0 = false := by
  intro c ds m
  have hm : m.2 = some true := by decide
  exact ⟨hm, (register_shadow_expires c rfl 0x1008 (by decide) ds (by decide) hm).1 _ 0x0022_1008
    (by decide) (by decide)⟩

/-- Without the condition the shadow outlives a reset: `x8` is written on the halted hart, the hart is
reset and halts again, and the old value is claimed when `x8` is read. -/
theorem register_shadow_survives_ndmreset :
    ¬ ∀ (c : DeclaredConfig) (r : Nat) (ds : List Dmi), c.numHarts = 1 → r ≠ GPR_X0_REGNO →
      let m := Runs.run (Runs.sinceLast Dmi.apply (DMPredictor.writesReg r) DMPredictor.exposed)
        (DMPredictor.declared c, none) ds
      m.2 = some true →
        (∀ d cmd, m.1.command d = some cmd → Command.readsReg r cmd = true →
          (d.apply m.1).hasModel ADDR_DATA0 = false) ∧
        (r = DCSR_REGNO → ∀ value h, value.testBit 0 = true → hartselOf value = 0 →
          value.testBit 30 = true → value.testBit 31 = false → m.1.rc.harts[0]? = some h →
          h.halted = true →
          ∃ h', (m.1.onWrite DMCONTROL.address value).rc.harts[0]? = some h' ∧
            h'.running = true ∧ h'.halted = false) := by
  intro hall
  have := (hall { datacount := 2 } 0x1008
    [.write 0x10 0x8000_0001, .write 0x04 5, .write 0x17 0x0023_1008, .write 0x10 0x8000_0003,
      .write 0x10 0x8000_0001]
    rfl (by decide) (by decide)).1 (.write 0x17 0x0022_1008) 0x0022_1008 (by decide) (by decide)
  revert this
  decide

end RiscvDbg
