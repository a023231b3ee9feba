import RiscvDbg.Predictor.Steps

/-!
# Hart state is always well formed

`halted` and `running` are separate booleans that one `dmcontrol` write may update in six stages,
some of which leave a hart with neither.  The invariant is restored by the last stage.

* `HartState.Settling` — what holds between the stages: a hart has exactly one of the two signals,
  or it is held in reset and has none.
* `HartState.WellFormed` — what holds between writes; `afterWrite_wellFormed` is the step.
* `DMPredictor.WellFormed` — all harts of a model; `step_wellFormed` is the step for every input but
  `sync_observed_hart_signals`, which copies arbitrary signals from outside.
* `hart_state_well_formed` — the run: the hart signals and the predicted `dmstatus` word.
-/

set_option autoImplicit false

namespace RiscvDbg

namespace HartState

/-- Between the stages of a write. -/
structure Settling (h : HartState) : Prop where
  available : h.available = true
  notSticky : h.unavailSticky = false
  signals : h.running = !h.halted ∨ (h.hartReset = true ∧ h.halted = false ∧ h.running = false)

/-- Between writes. -/
structure WellFormed (ndmreset : Bool) (h : HartState) : Prop where
  available : h.available = true
  notSticky : h.unavailSticky = false
  signals : h.running = !h.halted
  ndmreset_not_halted : ndmreset = true → h.halted = false
  hartReset_not_halted : h.hartReset = true → h.halted = false

theorem WellFormed.settling {h : HartState} {ndmreset : Bool} (hw : h.WellFormed ndmreset) :
    h.Settling := ⟨hw.available, hw.notSticky, Or.inl hw.signals⟩

/-- A halted hart is in neither reset. -/
theorem WellFormed.not_reset_of_halted {h : HartState} {ndmreset : Bool} (hw : h.WellFormed ndmreset)
    (hb : h.halted = true) : ndmreset = false ∧ h.hartReset = false := by
  constructor
  · by_contra hn
    have hnot := hw.ndmreset_not_halted (by simpa using hn)
    rw [hb] at hnot
    cases hnot
  · by_contra hr
    have hnot := hw.hartReset_not_halted (by simpa using hr)
    rw [hb] at hnot
    cases hnot

theorem Settling.unavail {h : HartState} (hs : h.Settling) : h.unavail = false := by
  simp [HartState.unavail, hs.available, hs.notSticky]

variable {h : HartState}

theorem Settling.releaseFromReset (hs : h.Settling) : h.releaseFromReset.Settling := by
  obtain ⟨ha, hu, hr⟩ := hs
  unfold HartState.releaseFromReset
  split
  · exact ⟨ha, hu, hr⟩
  · split <;> exact ⟨ha, hu, Or.inl rfl⟩

theorem Settling.ndmEdge (hs : h.Settling) (w : HartWrite) : (h.ndmEdge w).Settling := by
  unfold HartState.ndmEdge
  split
  · exact ⟨hs.available, hs.notSticky, Or.inl (by simp [enterNdmreset, hs.available, hs.notSticky])⟩
  · split
    · exact hs.releaseFromReset
    · exact hs

theorem Settling.levelEdge (hs : h.Settling) (hx : h.nonexistent = false) (w : HartWrite) :
    (h.levelEdge w).Settling := by
  unfold HartState.levelEdge
  split
  · exact ⟨hs.available, hs.notSticky, Or.inr ⟨rfl, rfl, rfl⟩⟩
  · split
    · -- the release re-evaluates both signals, so losing `hartReset` does no harm
      unfold HartState.releaseFromReset
      rw [if_neg (by simp [hx])]
      split <;> exact ⟨hs.available, hs.notSticky, Or.inl rfl⟩
    · exact hs

theorem Settling.requestResethalt (hs : h.Settling) (w : HartWrite) :
    (h.requestResethalt w).Settling := by
  unfold HartState.requestResethalt
  repeat' split
  all_goals exact ⟨hs.available, hs.notSticky, hs.signals⟩

theorem Settling.acknowledge (hs : h.Settling) (w : HartWrite) : (h.acknowledge w).Settling := by
  unfold HartState.acknowledge
  dsimp only
  repeat' split
  all_goals first
    | exact ⟨hs.available, hs.notSticky, hs.signals⟩
    | exact ⟨hs.available, rfl, hs.signals⟩

theorem Settling.requestHalt (hs : h.Settling) (w : HartWrite) : (h.requestHalt w).Settling := by
  have hr : HartState.Settling { h with haltRequest := w.haltreq } :=
    ⟨hs.available, hs.notSticky, hs.signals⟩
  unfold HartState.requestHalt
  dsimp only
  split
  · unfold HartState.respondHalt
    repeat' split
    all_goals first | exact hr | exact ⟨hs.available, hs.notSticky, Or.inl rfl⟩
  · exact hr

theorem Settling.respondResume (hs : h.Settling) (b : Bool) : (h.respondResume b).Settling := by
  unfold HartState.respondResume
  repeat' split
  all_goals first
    | exact hs
    | exact ⟨hs.available, hs.notSticky, Or.inl rfl⟩
    | exact ⟨hs.available, hs.notSticky, hs.signals⟩

/-- The last stage turns `Settling` into `WellFormed`. -/
theorem Settling.settle (hs : h.Settling) (hx : h.nonexistent = false) (ndmreset : Bool) :
    (h.settle ndmreset).WellFormed ndmreset := by
  unfold HartState.settle
  split
  · refine ⟨hs.available, hs.notSticky, ?_, fun _ => rfl, fun _ => rfl⟩
    simp [hs.available, hs.notSticky]
  · rename_i hnot
    simp only [hx, Bool.not_false, Bool.and_true, Bool.or_eq_true, not_or, Bool.not_eq_true] at hnot
    have hsig : h.running = !h.halted := by
      rcases hs.signals with hsig | ⟨hr, _⟩
      · exact hsig
      · rw [hr] at hnot; exact absurd hnot.2 (by simp)
    refine ⟨hs.available, hs.notSticky, hsig, ?_, ?_⟩
    · intro hn; rw [hn] at hnot; exact absurd hnot.1 (by simp)
    · intro hr; rw [hr] at hnot; exact absurd hnot.2 (by simp)

/-! ### No stage changes whether a hart exists -/

section
variable (w : HartWrite)

@[simp] theorem releaseFromReset_nonexistent : h.releaseFromReset.nonexistent = h.nonexistent := by
  unfold HartState.releaseFromReset; repeat' split
  all_goals rfl

@[simp] theorem ndmEdge_nonexistent : (h.ndmEdge w).nonexistent = h.nonexistent := by
  unfold HartState.ndmEdge; repeat' split
  all_goals first | rfl | simp

@[simp] theorem levelEdge_nonexistent : (h.levelEdge w).nonexistent = h.nonexistent := by
  unfold HartState.levelEdge; repeat' split
  all_goals first | rfl | simp

@[simp] theorem requestResethalt_nonexistent :
    (h.requestResethalt w).nonexistent = h.nonexistent := by
  unfold HartState.requestResethalt; repeat' split
  all_goals rfl

@[simp] theorem acknowledge_nonexistent : (h.acknowledge w).nonexistent = h.nonexistent := by
  unfold HartState.acknowledge; dsimp only; repeat' split
  all_goals rfl

@[simp] theorem requestHalt_nonexistent : (h.requestHalt w).nonexistent = h.nonexistent := by
  unfold HartState.requestHalt HartState.respondHalt; dsimp only; repeat' split
  all_goals rfl

@[simp] theorem respondResume_nonexistent (b : Bool) :
    (h.respondResume b).nonexistent = h.nonexistent := by
  unfold HartState.respondResume; repeat' split
  all_goals rfl

@[simp] theorem settle_nonexistent (b : Bool) : (h.settle b).nonexistent = h.nonexistent := by
  unfold HartState.settle; split <;> rfl

@[simp] theorem beforeSelected_nonexistent : (h.beforeSelected w).nonexistent = w.nonexistent := by
  simp [beforeSelected]

@[simp] theorem beforeResume_nonexistent : (h.beforeResume w).nonexistent = w.nonexistent := by
  simp [beforeResume]

@[simp] theorem afterWrite_nonexistent : (h.afterWrite w).nonexistent = w.nonexistent := by
  unfold afterWrite; dsimp only; repeat' split
  all_goals simp

end

theorem Settling.beforeSelected (hs : h.Settling) (w : HartWrite) :
    (h.beforeSelected w).Settling := by
  have hs' : Settling { h with nonexistent := w.nonexistent } :=
    ⟨hs.available, hs.notSticky, hs.signals⟩
  exact hs'.ndmEdge w

theorem Settling.beforeResume (hs : h.Settling) {w : HartWrite} (hx : w.nonexistent = false) :
    (h.beforeResume w).Settling :=
  ((((hs.beforeSelected w).levelEdge (by simp [hx]) w).requestResethalt w).acknowledge w).requestHalt w

/-- **One active write keeps an existing hart well formed**, whichever hart it selects. -/
theorem afterWrite_wellFormed {w : HartWrite} (hw : h.WellFormed w.ndmWas)
    (hx : w.nonexistent = false) : (h.afterWrite w).WellFormed w.ndmNow := by
  unfold afterWrite
  dsimp only
  split
  · split
    · exact ((hw.settling.beforeResume hx).respondResume _).settle (by simp [hx]) _
    · exact (hw.settling.beforeResume hx).settle (by simp [hx]) _
  · exact (hw.settling.beforeSelected w).settle (by simp [hx]) _

end HartState

/-! ## The whole model -/

/-- Every hart is well formed, exists, and there are as many as declared. -/
structure DMPredictor.WellFormed (s : DMPredictor) : Prop where
  one_le : 1 ≤ s.params.numHarts
  length : s.rc.harts.length = s.params.numHarts
  harts : ∀ h ∈ s.rc.harts, h.WellFormed s.rc.ndmreset ∧ h.nonexistent = false

namespace DMPredictor

variable {s : DMPredictor}

theorem WellFormed.of_static {t : DMPredictor} (hs : s.WellFormed) (hst : SameStatic s t)
    (hrc : t.rc = s.rc) : t.WellFormed := by
  obtain ⟨hp, -, -, -⟩ := hst
  exact ⟨by rw [hp]; exact hs.one_le, by rw [hp, hrc]; exact hs.length, by rw [hrc]; exact hs.harts⟩

theorem resetDm_wellFormed (hn : 1 ≤ s.params.numHarts) (powerOn : Bool)
    (hprev : powerOn = false → s.WellFormed) : (s.resetDm powerOn).WellFormed := by
  have hmax : max s.params.numHarts 1 = s.params.numHarts := by omega
  refine ⟨hn, ?_, ?_⟩
  · simp [resetDm, RunControl.resetDm, resetDeclaredRegs, hmax]
  · intro h hh
    simp only [resetDm, RunControl.resetDm, List.mem_map, List.mem_range] at hh
    obtain ⟨i, hi, rfl⟩ := hh
    unfold RunControl.resetHart
    cases powerOn with
    | true => exact ⟨⟨rfl, rfl, rfl, nofun, nofun⟩, rfl⟩
    | false =>
      dsimp only
      rw [if_neg (by simp)]
      split
      · rename_i q hq
        have hq' := ((hprev rfl).harts q (List.mem_of_getElem? hq)).1
        exact ⟨⟨rfl, rfl, hq'.signals, nofun, nofun⟩, rfl⟩
      · exact ⟨⟨rfl, rfl, rfl, nofun, nofun⟩, rfl⟩

theorem writeDmcontrol_wellFormed (hs : s.WellFormed) (value : Nat) :
    (s.writeDmcontrol value).WellFormed := by
  cases hv : value.testBit 0 with
  | false =>
    rw [writeDmcontrol_inactive s hv]
    exact resetDm_wellFormed hs.one_le false fun _ => hs
  | true =>
    rw [writeDmcontrol_active s hv]
    refine ⟨hs.one_le, ?_, ?_⟩
    · simp [RunControl.writeActive_fst, hs.length]
    · intro h hh
      obtain ⟨i, hi⟩ := List.mem_iff_getElem?.mp hh
      rw [RunControl.writeActive_harts] at hi
      obtain ⟨h₀, h₀mem, rfl⟩ := Option.map_eq_some_iff.mp hi
      have hlt : i < s.params.numHarts := by
        rw [← hs.length]; exact (List.getElem?_eq_some_iff.mp h₀mem).1
      have hx : (s.rc.hartWrite s.params s.ac value i).nonexistent = false := by
        simp [RunControl.hartWrite, hlt]
      refine ⟨?_, by simp [hx]⟩
      rw [RunControl.writeActive_fst]
      exact HartState.afterWrite_wellFormed (hs.harts _ (List.mem_of_getElem? h₀mem)).1 hx

theorem onWrite_wellFormed (hs : s.WellFormed) (addr value : Nat) : (s.onWrite addr value).WellFormed := by
  by_cases ha : addr = DMCONTROL.address
  · rw [ha, onWrite_dmcontrol]; exact writeDmcontrol_wellFormed hs value
  · exact hs.of_static (s.onWrite_static addr value) (s.onWrite_rc_of_ne ha value)

end DMPredictor

/-- The inputs that keep hart state well formed: all but the copying of observed signals, with
configurations that declare a hart. -/
def Input.KeepsHarts : Input → Prop
  | .setConfig c => 1 ≤ c.numHarts
  | .syncObservedHartSignals _ => False
  | _ => True

instance (i : Input) : Decidable i.KeepsHarts := by
  cases i <;> unfold Input.KeepsHarts <;> infer_instance

namespace DMPredictor

variable {s : DMPredictor}

theorem init_wellFormed {p : Params} (hp : 1 ≤ p.numHarts) : (init p).WellFormed :=
  resetDm_wellFormed hp true nofun

theorem Booted.wellFormed (hs : s.Booted) (hn : 1 ≤ s.params.numHarts) : s.WellFormed := by
  cases hs with
  | constructed p => exact init_wellFormed hn
  | configured p c =>
    exact resetDm_wellFormed (s := { init p with cfg := c, cfgValid := true, params := c.params }) hn
      true nofun

theorem step_wellFormed (hs : s.WellFormed) {i : Input} (hi : i.KeepsHarts) :
    (s.step i).WellFormed := by
  cases i with
  | setConfig c =>
    exact resetDm_wellFormed (s := { s with cfg := c, cfgValid := true, params := c.params }) hi true nofun
  | resetDm powerOn => exact resetDm_wellFormed hs.one_le powerOn fun _ => hs
  | setObservedCmdbusy busy => exact ⟨hs.one_le, hs.length, hs.harts⟩
  | onWrite addr value => exact onWrite_wellFormed hs addr value
  | observeRead addr => exact hs.of_static (s.observeRead_static addr) (s.observeRead_rc addr)
  | observeSbdata0Read => exact ⟨hs.one_le, hs.length, hs.harts⟩
  | syncObservedHartSignals w => exact hi.elim

theorem run_wellFormed (hs : s.WellFormed) {is : List Input} (his : ∀ i ∈ is, i.KeepsHarts) :
    (s.run is).WellFormed :=
  Runs.run_invariant (P := WellFormed) (fun _ _ hs hi => step_wellFormed hs hi) is s hs
    (Runs.Always.of_forall (fun _ _ hi => hi) is s his)

/-! ## The predicted dmstatus word -/

theorem dmstatusValues_fields (s : DMPredictor) :
    s.dmstatusValues.map Prod.fst = DMSTATUS.fields := rfl

theorem dmstatus_fields_disjoint : DMSTATUS.fields.Pairwise Field.Disjoint := by decide

/-- A field of the predicted word holds the value encoded for it. -/
theorem extract_expectDmstatus {f : Field} {v : Nat} (hm : (f, v) ∈ s.dmstatusValues) :
    f.extract s.expectDmstatus = v % 2 ^ f.width :=
  Register.extract_encode (by rw [dmstatusValues_fields]; exact dmstatus_fields_disjoint) hm

theorem test_expectDmstatus {f : Field} {b : Bool} (hw : f.width = 1)
    (hm : (f, b.toNat) ∈ s.dmstatusValues) : f.test s.expectDmstatus = b := by
  rw [Field.test, extract_expectDmstatus hm, hw]
  cases b <;> rfl

theorem selected_eq (s : DMPredictor) : s.selected = (s.rc.harts[s.rc.hartsel]?).toList := by
  rw [selected, RunControl.selectedIndices, List.filterMap_cons]
  cases s.rc.harts[s.rc.hartsel]? <;> rfl

theorem anySelected_eq (s : DMPredictor) (pred : HartState → Bool) :
    s.anySelected pred = ((s.rc.harts[s.rc.hartsel]?).any pred).toNat := by
  rw [anySelected, selected_eq]
  cases s.rc.harts[s.rc.hartsel]? <;> simp

/-- One hart is selected, or none: `all*` and `any*` cannot differ. -/
theorem allSelected_eq (s : DMPredictor) (pred : HartState → Bool) :
    s.allSelected pred = ((s.rc.harts[s.rc.hartsel]?).any pred).toNat := by
  rw [allSelected, selected_eq]
  cases s.rc.harts[s.rc.hartsel]? <;> simp

theorem test_of_allSelected {f : Field} (pred : HartState → Bool) (hw : f.width = 1)
    (hm : (f, s.allSelected pred) ∈ s.dmstatusValues) :
    f.test s.expectDmstatus = (s.rc.harts[s.rc.hartsel]?).any pred := by
  rw [allSelected_eq] at hm
  exact test_expectDmstatus hw hm

theorem test_of_anySelected {f : Field} (pred : HartState → Bool) (hw : f.width = 1)
    (hm : (f, s.anySelected pred) ∈ s.dmstatusValues) :
    f.test s.expectDmstatus = (s.rc.harts[s.rc.hartsel]?).any pred := by
  rw [anySelected_eq] at hm
  exact test_expectDmstatus hw hm

theorem test_allnonexistent (s : DMPredictor) :
    DMSTATUS.allnonexistent.test s.expectDmstatus = decide (s.params.numHarts ≤ s.rc.hartsel) :=
  test_expectDmstatus rfl (by simp [dmstatusValues, RunControl.selectedIndices, isNonexistent])

theorem test_anynonexistent (s : DMPredictor) :
    DMSTATUS.anynonexistent.test s.expectDmstatus = decide (s.params.numHarts ≤ s.rc.hartsel) :=
  test_expectDmstatus rfl (by simp [dmstatusValues, RunControl.selectedIndices, isNonexistent])

theorem all_eq_any (s : DMPredictor) {q : Field × Field} (hq : q ∈ DMSTATUS_ALL_ANY_PAIRS) :
    q.1.test s.expectDmstatus = q.2.test s.expectDmstatus := by
  simp only [DMSTATUS_ALL_ANY_PAIRS, List.mem_cons, List.not_mem_nil, or_false] at hq
  rcases hq with rfl | rfl | rfl | rfl | rfl | rfl
  · rw [test_of_allSelected (·.havereset) rfl (by simp [dmstatusValues]),
      test_of_anySelected (·.havereset) rfl (by simp [dmstatusValues])]
  · rw [test_of_allSelected (·.resumeAck) rfl (by simp [dmstatusValues]),
      test_of_anySelected (·.resumeAck) rfl (by simp [dmstatusValues])]
  · rw [test_allnonexistent, test_anynonexistent]
  · rw [test_of_allSelected (·.unavail) rfl (by simp [dmstatusValues]),
      test_of_anySelected (·.unavail) rfl (by simp [dmstatusValues])]
  · rw [test_of_allSelected (·.running) rfl (by simp [dmstatusValues]),
      test_of_anySelected (·.running) rfl (by simp [dmstatusValues])]
  · rw [test_of_allSelected (·.halted) rfl (by simp [dmstatusValues]),
      test_of_anySelected (·.halted) rfl (by simp [dmstatusValues])]

/-- Exactly one of the three summary bits is set. -/
theorem WellFormed.one_summary (hs : s.WellFormed) :
    [DMSTATUS.allnonexistent, DMSTATUS.allhalted, DMSTATUS.allrunning].countP
      (·.test s.expectDmstatus) = 1 := by
  have hh : DMSTATUS.allhalted.test s.expectDmstatus = (s.rc.harts[s.rc.hartsel]?).any (·.halted) :=
    test_of_allSelected _ rfl (by simp [dmstatusValues])
  have hr : DMSTATUS.allrunning.test s.expectDmstatus = (s.rc.harts[s.rc.hartsel]?).any (·.running) :=
    test_of_allSelected _ rfl (by simp [dmstatusValues])
  simp only [List.countP_cons, List.countP_nil, hh, hr, test_allnonexistent]
  cases hsel : s.rc.harts[s.rc.hartsel]? with
  | none =>
    have hle := List.getElem?_eq_none_iff.mp hsel
    rw [hs.length] at hle
    simp [hle]
  | some h =>
    have hlt := (List.getElem?_eq_some_iff.mp hsel).1
    rw [hs.length] at hlt
    have hsig := (hs.harts h (List.mem_of_getElem? hsel)).1.signals
    cases hx : h.halted <;> simp [hsig, hx, hlt]

/-- The `dmstatus` word is a function of run control and the parameters. -/
theorem expectDmstatus_congr {s t : DMPredictor} (hrc : t.rc = s.rc) (hp : t.params = s.params) :
    t.expectDmstatus = s.expectDmstatus := by
  have hx : t.isNonexistent = s.isNonexistent := by funext i; rw [isNonexistent, isNonexistent, hp]
  simp only [expectDmstatus, dmstatusValues, allSelected, anySelected, selected, hx, hrc, hp]

/-- The field values `_expect_dmcontrol` encodes, but for the hart index. -/
def dmcontrolValues (s : DMPredictor) : List (Field × Nat) :=
  [(DMCONTROL.dmactive, s.rc.dmactive.toNat), (DMCONTROL.ndmreset, s.rc.ndmreset.toNat),
    (DMCONTROL.hasel, s.rc.hasel.toNat),
    (DMCONTROL.hartreset, (s.rc.hartresetLevel && s.params.supportsHartreset).toNat)]

/-- A flag of the `dmcontrol` word. -/
theorem testBit_of_dmcontrolValues {f : Field} {b : Bool} (hw : f.width = 1) (hf : f.lsb < 6 ∨ 26 ≤ f.lsb)
    (hm : (f, b.toNat) ∈ s.dmcontrolValues) : s.expectDmcontrol.testBit f.lsb = b := by
  have hdisj : (s.dmcontrolValues.map Prod.fst).Pairwise Field.Disjoint := by
    show [DMCONTROL.dmactive, DMCONTROL.ndmreset, DMCONTROL.hasel, DMCONTROL.hartreset].Pairwise _
    decide
  show (withHartsel (Register.encode s.dmcontrolValues) s.rc.hartsel).testBit f.lsb = b
  rw [testBit_withHartsel, if_neg (by omega), if_neg (by omega), ← Field.test_eq_testBit hw, Field.test,
    Register.extract_encode hdisj hm, hw]
  cases b <;> rfl

/-- Bit 29 of the `dmcontrol` word shows the level of `hartreset`. -/
theorem testBit_expectDmcontrol (s : DMPredictor) :
    s.expectDmcontrol.testBit 29 = (s.rc.hartresetLevel && s.params.supportsHartreset) :=
  testBit_of_dmcontrolValues (f := DMCONTROL.hartreset) rfl (by decide) (by simp [dmcontrolValues])

/-- Bit 0 of the `dmcontrol` word shows whether the DM is active. -/
theorem testBit_expectDmcontrol_dmactive (s : DMPredictor) : s.expectDmcontrol.testBit 0 = s.rc.dmactive :=
  testBit_of_dmcontrolValues (f := DMCONTROL.dmactive) rfl (by decide) (by simp [dmcontrolValues])

theorem predict_dmcontrol (s : DMPredictor) : s.predict DMCONTROL.address = s.expectDmcontrol := by
  have hdata : isData DMCONTROL.address = false := by decide
  have hprogbuf : isProgbuf DMCONTROL.address = false := by decide
  simp [predict, hdata, hprogbuf]

theorem predict_dmstatus (s : DMPredictor) : s.predict DMSTATUS.address = s.expectDmstatus := by
  have hdata : isData DMSTATUS.address = false := by decide
  have hprogbuf : isProgbuf DMSTATUS.address = false := by decide
  simp only [predict, hdata, hprogbuf]
  simp [DMSTATUS, DMCONTROL]

end DMPredictor

/-- **Hart state is always well formed.**  In every state reached from a constructed model by any
inputs but `sync_observed_hart_signals`, every hart has exactly one of `halted` and `running`, no
hart in reset is halted, and the predicted `dmstatus` word summarises the selection consistently. -/
theorem hart_state_well_formed {p : Params} (hp : 1 ≤ p.numHarts) (is : List Input)
    (his : ∀ i ∈ is, i.KeepsHarts) :
    let s := (DMPredictor.init p).run is
    (∀ h ∈ s.rc.harts, h.running = !h.halted ∧ (s.rc.ndmreset = true → h.halted = false) ∧
      (h.hartReset = true → h.halted = false)) ∧
    (∀ q ∈ DMSTATUS_ALL_ANY_PAIRS,
      q.1.test (s.predict DMSTATUS.address) = q.2.test (s.predict DMSTATUS.address)) ∧
    [DMSTATUS.allnonexistent, DMSTATUS.allhalted, DMSTATUS.allrunning].countP
      (·.test (s.predict DMSTATUS.address)) = 1 ∧
    (DMSTATUS.allnonexistent.test (s.predict DMSTATUS.address) = true ↔
      s.params.numHarts ≤ s.rc.hartsel) := by
  have hs := DMPredictor.run_wellFormed (DMPredictor.init_wellFormed hp) his
  dsimp only
  rw [DMPredictor.predict_dmstatus]
  refine ⟨?_, fun q hq => DMPredictor.all_eq_any _ hq, hs.one_summary, ?_⟩
  · intro h hh
    obtain ⟨hw, -⟩ := hs.harts h hh
    exact ⟨hw.signals, hw.ndmreset_not_halted, hw.hartReset_not_halted⟩
  · rw [DMPredictor.test_allnonexistent, decide_eq_true_eq]

/-- Two harts: the second is halted, then both are held in reset and released. -/
theorem hart_state_well_formed_two_harts :
    let s := (DMPredictor.init {}).run
      [.setConfig { numHarts := 2 }, .onWrite 0x10 0x80010001, .onWrite 0x10 0x00000003]
    (∀ h ∈ s.rc.harts, h.running = !h.halted ∧ (s.rc.ndmreset = true → h.halted = false) ∧
      (h.hartReset = true → h.halted = false)) ∧ s.rc.ndmreset = true ∧ s.rc.harts.length = 2 :=
  ⟨(hart_state_well_formed (p := {}) (by decide)
    [.setConfig { numHarts := 2 }, .onWrite 0x10 0x80010001, .onWrite 0x10 0x00000003]
    (by decide)).1, by decide, by decide⟩

end RiscvDbg
