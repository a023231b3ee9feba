import RiscvDbg.Crosscheck.Trace
import RiscvDbg.RefModel.Agreement

/-!
# Replay of a trace

Model of `replay` (`mk/model_crosscheck.py`): the inputs of a trace are fed to the Python model and its
predictions are compared with the recorded ones.

* `DutConfig` — a declared configuration that `load_dut_config` accepts; `declaredConfig` gives it a number
  of harts.  Reading the file is a parameter, `load`.
* `replay` — the whole function, with its tallies, its divergences and what it raises.
* `ModelsAgree` — the SystemVerilog model and a Python model agree at every recorded read.
* `replay_traceText` — the replay of a recorded trace is the comparison with a Python model of one hart.

`dm_checker` builds its model with the number of harts of the test bench: `replay_agrees_iff`.
-/

set_option autoImplicit false

namespace RiscvDbg

/-! ## The configuration -/

/-- A declared configuration.  `load_dut_config` refuses an unknown version. -/
structure DutConfig where
  declared : DeclaredConfig
  version_known : declared.version = DMSTATUS_VERSION_0_13 ∨ declared.version = DMSTATUS_VERSION_1_0

/-- `declared_config`. -/
def DutConfig.declaredConfig (d : DutConfig) (numHarts : Nat) : DeclaredConfig :=
  { d.declared with numHarts := numHarts }

/-! ## The replay -/

namespace Crosscheck

/-- `Tally`. -/
structure Tally where
  reads : Nat := 0
  claimed : Nat := 0
  agree : Nat := 0
  svVsRtl : Nat := 0
  pyVsRtl : Nat := 0
  deriving DecidableEq, Repr

/-- A divergence: the line, the register and the kind of the record, and why. -/
structure Divergence where
  lineno : Nat
  key : Nat × TraceKind
  why : String
  deriving DecidableEq, Repr

/-- `Result`. -/
structure ReplayResult where
  tallies : Dict (Nat × TraceKind) Tally := .empty
  divergences : List Divergence := []
  inputs : Nat := 0

/-- What `replay` raises. -/
inductive ReplayError where
  | fileNotFound (note : List Char)
  | unknownRecord (lineno : Nat) (line : List Char)
  | indexError
  | valueError
  deriving DecidableEq, Repr

/-- `f"{n:08x}"`. -/
def hex8 (n : Nat) : String := String.ofList (Hex.pad 8 n)

/-- The reason of a divergence, if there is one. -/
def divergence? (svHas : Bool) (svMask svPred : Nat) (pyHas : Bool) (pyMask pyPred : Nat) : Option String :=
  if svHas != pyHas then
    some ("has_model sv=" ++ toString svHas.toNat ++ " py=" ++ toString pyHas.toNat)
  else if svHas then
    if svMask != pyMask then some ("mask sv=" ++ hex8 svMask ++ " py=" ++ hex8 pyMask)
    else if svPred &&& svMask != pyPred &&& pyMask then
      some ("prediction sv=" ++ hex8 (svPred &&& svMask) ++ " py=" ++ hex8 (pyPred &&& pyMask) ++
        " (bits " ++ hex8 ((svPred ^^^ pyPred) &&& svMask) ++ ")")
    else none
  else none

/-- The tally after a read record. -/
def Tally.count (t : Tally) (rtl : Nat) (svHas : Bool) (svMask svPred : Nat) (pyHas : Bool) (pyMask pyPred : Nat) :
    Tally :=
  let t := { t with reads := t.reads + 1 }
  if svHas == pyHas && svHas then
    { t with
      agree := t.agree + (svMask == pyMask && svPred &&& svMask == pyPred &&& pyMask).toNat
      claimed := t.claimed + 1
      svVsRtl := t.svVsRtl + (svPred &&& svMask != rtl &&& svMask).toNat
      pyVsRtl := t.pyVsRtl + (pyPred &&& pyMask != rtl &&& pyMask).toNat }
  else t

/-- `args[i]`. -/
def argument (args : List (List Char)) (i : Nat) : Except ReplayError (List Char) :=
  match args[i]? with
  | some w => .ok w
  | none => .error .indexError

/-- `int(args[i], 16)`, of a word of digits. -/
def number (args : List (List Char)) (i : Nat) : Except ReplayError Nat := do
  match Hex.read? (← argument args i) with
  | some n => .ok n
  | none => .error .valueError

/-- The branch of the read records. -/
def replayRead (kind : TraceKind) (lineno : Nat) (args : List (List Char)) (model : DMPredictor)
    (res : ReplayResult) : Except ReplayError (DMPredictor × ReplayResult) := do
  let addr ← number args 0
  let rtl ← number args 1
  let svHas := (← argument args 2) == ['1']
  let svMask ← number args 3
  let svPred ← number args 4
  let pyHas := model.hasModel addr
  let pyMask := DMPredictor.predictMask addr
  let pyPred := model.predict addr
  let key := (addr, kind)
  let t := (res.tallies.getD key {}).count rtl svHas svMask svPred pyHas pyMask pyPred
  let diverges := match divergence? svHas svMask svPred pyHas pyMask pyPred with
    | some why => [⟨lineno, key, why⟩]
    | none => []
  return (model, { res with
    tallies := res.tallies.set key t
    divergences := res.divergences ++ diverges })

/-- The input a record stands for. -/
def replayInput (kind : List Char) (lineno : Nat) (line : List Char) (args : List (List Char)) :
    Except ReplayError Input :=
  if kind = ['B'] then return .setObservedCmdbusy ((← argument args 0) == ['1'])
  else if kind = ['W'] then return .onWrite (← number args 0) (← number args 1)
  else if kind = ['S'] then return .syncObservedHartSignals (← number args 0)
  else if kind = ['O'] then return .observeSbdata0Read
  else if kind = ['A'] then return .observeRead (← number args 0)
  else throw (.unknownRecord lineno line)

section
variable (load : List Char → Option DutConfig)

/-- The body of the loop over the lines. -/
def replayLine (lineno : Nat) (line : List Char) (model : DMPredictor) (res : ReplayResult) :
    Except ReplayError (DMPredictor × ReplayResult) :=
  match Lines.fields isSeparator line with
  | [] => return (model, res)
  | kind :: args =>
    if kind = ['C'] then
      -- the configuration is always that of one hart
      match load ([' '].intercalate args) with
      | none => throw (.fileNotFound ([' '].intercalate args))
      | some cfg => return (model.setConfig (cfg.declaredConfig 1), res)
    else if kind = ['R'] then replayRead .R lineno args model res
    else if kind = ['V'] then replayRead .V lineno args model res
    else do
      let input ← replayInput kind lineno line args
      return (model.step input, { res with inputs := res.inputs + 1 })

/-- The loop over the lines. -/
def replayLines (lineno : Nat) (model : DMPredictor) (res : ReplayResult) :
    List (List Char) → Except ReplayError ReplayResult
  | [] => return res
  | line :: rest => do
    let (model, res) ← replayLine load lineno line model res
    replayLines (lineno + 1) model res rest

/-- `replay`, of the text of a trace. -/
def replay (text : List Char) : Except ReplayError ReplayResult :=
  replayLines load 1 (.init {}) {} (Lines.lines breaksLine (universalNewlines text))

/-! ## Replay of a recorded trace -/

/-- Both models driven by a call. -/
def bothStep (p : DmRefModel × DMPredictor) : Recorded → DmRefModel × DMPredictor
  | .input i => (p.1.step i, p.2.step i.toInput)
  | .read _ _ _ => p

/-- At a read, both models claim the address or neither does, and then the same bits with the same
values. -/
def SameRead (p : DmRefModel × DMPredictor) : Recorded → Prop
  | .input _ => True
  | .read _ addr _ =>
    p.1.hasModel addr = p.2.hasModel addr.toNat ∧
      (p.1.hasModel addr = true →
        (DmRefModel.predictMask addr).toNat = DMPredictor.predictMask addr.toNat ∧
          (p.1.predict addr).toNat &&& (DmRefModel.predictMask addr).toNat =
            p.2.predict addr.toNat &&& DMPredictor.predictMask addr.toNat)

/-- The two models agree at every read of a run. -/
def ModelsAgree (m : DmRefModel) (s : DMPredictor) (calls : List Recorded) : Prop :=
  Runs.Always bothStep SameRead (m, s) calls

theorem divergence?_eq_none_iff (svHas : Bool) (svMask svPred : Nat) (pyHas : Bool) (pyMask pyPred : Nat) :
    divergence? svHas svMask svPred pyHas pyMask pyPred = none ↔
      svHas = pyHas ∧ (svHas = true → svMask = pyMask ∧ svPred &&& svMask = pyPred &&& pyMask) := by
  unfold divergence?
  by_cases hhas : svHas = pyHas
  · cases svHas with
    | false => simp [← hhas]
    | true =>
      by_cases hmask : svMask = pyMask
      · by_cases hpred : svPred &&& svMask = pyPred &&& pyMask <;> simp_all
      · simp [← hhas, hmask]
  · simp [hhas]

@[simp] theorem ok_bind {α β : Type} (a : α) (f : α → Except ReplayError β) : (Except.ok a >>= f) = f a := rfl

@[simp] theorem pure_eq_ok {α : Type} (a : α) : (pure a : Except ReplayError α) = .ok a := rfl

theorem number_pad {args : List (List Char)} {i w n : Nat} (h : args[i]? = some (Hex.pad w n)) :
    number args i = .ok n := by
  unfold number argument
  rw [h]
  simp [Hex.read?_pad]

theorem bitText_beq (b : Bool) : (bitText b == ['1']) = b := by
  cases b <;> decide

/-- **A line of an input** is fed to the model. -/
theorem replayLine_input (lineno : Nat) (i : InputS) (s : DMPredictor) (res : ReplayResult) :
    replayLine load lineno (lineOf i.words) s res = .ok (s.step i.toInput, { res with inputs := res.inputs + 1 }) := by
  unfold replayLine
  rw [fields_lineOf i.isWord]
  cases i with
  | setObservedCmdbusy busy => simp [InputS.words, replayInput, argument, bitText_beq, InputS.toInput]
  | onWrite addr value =>
    have haddr : number [Hex.pad 2 addr.toNat, Hex.pad 8 value.toNat] 0 = .ok addr.toNat := number_pad rfl
    have hvalue : number [Hex.pad 2 addr.toNat, Hex.pad 8 value.toNat] 1 = .ok value.toNat := number_pad rfl
    simp [InputS.words, replayInput, haddr, hvalue, InputS.toInput]
  | observeRead addr =>
    have haddr : number [Hex.pad 2 addr.toNat] 0 = .ok addr.toNat := number_pad rfl
    simp [InputS.words, replayInput, haddr, InputS.toInput]
  | observeSbdata0Read => simp [InputS.words, replayInput, InputS.toInput]
  | syncObservedHartSignals r =>
    have hword : number [Hex.pad 8 r.toNat] 0 = .ok r.toNat := number_pad rfl
    simp [InputS.words, replayInput, hword, InputS.toInput]

/-- **A line of a read** is compared with the model. -/
theorem replayLine_read (lineno : Nat) (m : DmRefModel) (kind : TraceKind) (addr : BitVec 7) (actual : BitVec 32)
    (s : DMPredictor) (res : ReplayResult) :
    ∃ res', replayLine load lineno (lineOf (m.traceRead kind addr actual)) s res = .ok (s, res') ∧
      (res'.divergences = [] ↔ res.divergences = [] ∧ SameRead (m, s) (.read kind addr actual)) := by
  have hline : replayLine load lineno (lineOf (m.traceRead kind addr actual)) s res =
      replayRead kind lineno (m.traceRead kind addr actual).tail s res := by
    unfold replayLine
    rw [fields_lineOf (m.isWord_traceRead kind addr actual)]
    cases kind <;> simp [DmRefModel.traceRead, TraceKind.name]
  have haddr : number (m.traceRead kind addr actual).tail 0 = .ok addr.toNat := number_pad rfl
  have hrtl : number (m.traceRead kind addr actual).tail 1 = .ok actual.toNat := number_pad rfl
  have hhas : argument (m.traceRead kind addr actual).tail 2 = .ok (bitText (m.hasModel addr)) := rfl
  have hmask : number (m.traceRead kind addr actual).tail 3 = .ok (DmRefModel.predictMask addr).toNat :=
    number_pad rfl
  have hpred : number (m.traceRead kind addr actual).tail 4 = .ok (m.predict addr).toNat := number_pad rfl
  have hnone := divergence?_eq_none_iff (m.hasModel addr) (DmRefModel.predictMask addr).toNat
    (m.predict addr).toNat (s.hasModel addr.toNat) (DMPredictor.predictMask addr.toNat) (s.predict addr.toNat)
  rw [hline]
  unfold replayRead
  simp only [haddr, hrtl, hhas, hmask, hpred, ok_bind, pure_eq_ok, bitText_beq]
  refine ⟨_, rfl, ?_⟩
  show _ ++ _ = [] ↔ _
  rw [List.append_eq_nil_iff]
  refine and_congr_right fun _ => Iff.trans ?_ hnone
  split
  · rename_i why heq
    simp [heq]
  · rename_i heq
    simp [heq]

/-- **The lines of a run.** -/
theorem replayLines_outputs (calls : List Recorded) : ∀ (lineno : Nat) (m : DmRefModel) (s : DMPredictor)
    (res : ReplayResult), ∃ res',
      replayLines load lineno s res (Runs.outputs DmRefModel.record m calls) = .ok res' ∧
        (res'.divergences = [] ↔ res.divergences = [] ∧ ModelsAgree m s calls) := by
  unfold ModelsAgree
  induction calls with
  | nil => intro lineno m s res; exact ⟨res, rfl, by simp⟩
  | cons call calls ih =>
    intro lineno m s res
    cases call with
    | input i =>
      obtain ⟨res', hrun, hiff⟩ := ih (lineno + 1) (m.step i) (s.step i.toInput) { res with inputs := res.inputs + 1 }
      refine ⟨res', ?_, ?_⟩
      · show (replayLine load lineno (lineOf i.words) s res >>= fun p => _) = _
        rw [replayLine_input]
        exact hrun
      · rw [hiff, Runs.always_cons]
        exact and_congr_right fun _ => ⟨fun h => ⟨trivial, h⟩, fun h => h.2⟩
    | read kind addr actual =>
      obtain ⟨res₁, hline, hiff₁⟩ := replayLine_read load lineno m kind addr actual s res
      obtain ⟨res', hrun, hiff⟩ := ih (lineno + 1) m s res₁
      refine ⟨res', ?_, ?_⟩
      · show (replayLine load lineno (lineOf (m.traceRead kind addr actual)) s res >>= fun p => _) = _
        rw [hline]
        exact hrun
      · rw [hiff, hiff₁, Runs.always_cons, and_assoc]
        rfl

/-- **The replay of a trace** compares the recorded predictions with those of a Python model of one hart. -/
theorem replay_traceText {path : List Char} (hpath : ∀ c ∈ path, breaksLine c = false) {d : DutConfig}
    (hload : load ([' '].intercalate (Lines.fields isSeparator path)) = some d) (m : DmRefModel)
    (calls : List Recorded) :
    ∃ res, replay load (traceText path m calls) = .ok res ∧
      (res.divergences = [] ↔ ModelsAgree m (.declared (d.declaredConfig 1)) calls) := by
  obtain ⟨res, hrun, hiff⟩ := replayLines_outputs load calls 2 m (.declared (d.declaredConfig 1)) {}
  refine ⟨res, ?_, by simpa using hiff⟩
  have hnote : replayLine load 1 (noteLine path) (.init {}) {} = .ok (.declared (d.declaredConfig 1), {}) := by
    unfold replayLine
    rw [fields_noteLine]
    simp only [if_true, hload]
    rfl
  unfold replay
  rw [lines_traceText hpath]
  show (replayLine load 1 (noteLine path) (.init {}) {} >>= fun p => _) = _
  rw [hnote]
  exact hrun

end

/-! ## The number of harts -/

/-- Hart 1 is selected and `dmstatus` is read. -/
def readSecondHart (actual : BitVec 32) : List Recorded :=
  [.input (.onWrite DM_ADDR_DMCONTROL 0x0001_0001#32), .read .R DM_ADDR_DMSTATUS actual]

/-- A Python model after the selection of hart 1. -/
def secondSelected (c : DeclaredConfig) : DMPredictor :=
  (DMPredictor.declared c).onWrite DMCONTROL.address (0x0001_0001#32).toNat

theorem secondSelected_eq (c : DeclaredConfig) :
    secondSelected c =
      { DMPredictor.declared c with
        rc := ((DMPredictor.declared c).rc.writeActive c.params (DMPredictor.declared c).ac 0x0001_0001).1
        ac := ((DMPredictor.declared c).rc.writeActive c.params (DMPredictor.declared c).ac 0x0001_0001).2 } := by
  unfold secondSelected
  rw [DMPredictor.onWrite_dmcontrol, DMPredictor.writeDmcontrol_active _ (by decide)]
  rfl

/-- Whether the selected hart is there shows in `dmstatus`. -/
theorem testBit_secondSelected (c : DeclaredConfig) :
    (secondSelected c).expectDmstatus.testBit 15 = decide (c.numHarts ≤ 1) := by
  have hparams : (secondSelected c).params = c.params := by
    rw [secondSelected_eq]
    rfl
  have hhartsel : (secondSelected c).rc.hartsel = 1 := by
    rw [secondSelected_eq]
    dsimp only
    rw [RunControl.writeActive_fst]
    show hartselOf 0x0001_0001 = 1
    decide
  have htest := DMPredictor.test_allnonexistent (secondSelected c)
  rw [Field.test_eq_testBit rfl, hparams, hhartsel] at htest
  exact htest

/-- `dmstatus` depends on the run-control parameters of the configuration alone. -/
theorem expectDmstatus_secondSelected {c c' : DeclaredConfig} (h : c.params = c'.params) :
    (secondSelected c).expectDmstatus = (secondSelected c').expectDmstatus := by
  have hrc : (DMPredictor.declared c).rc = (DMPredictor.declared c').rc := by
    show (DMPredictor.init {}).rc.resetDm c.params true = (DMPredictor.init {}).rc.resetDm c'.params true
    rw [h]
  have hac : (DMPredictor.declared c).ac = (DMPredictor.declared c').ac := rfl
  rw [secondSelected_eq, secondSelected_eq]
  refine DMPredictor.expectDmstatus_congr ?_ h
  dsimp only
  rw [hrc, hac, h]

/-- The parameters survive the widths of `dm_cfg_t`. -/
theorem params_ofDeclared (d : DutConfig) {n : Nat} (hn : n < 2 ^ 32) :
    (DmCfg.ofDeclared (d.declaredConfig n)).declared.params = (d.declaredConfig n).params := by
  have hversion : d.declared.version < 2 ^ 4 := by
    rcases d.version_known with h | h <;> rw [h] <;> decide
  simp only [DmCfg.declared, DmCfg.ofDeclared, DeclaredConfig.params, DutConfig.declaredConfig, BitVec.toNat_ofNat,
    Nat.mod_eq_of_lt hn, Nat.mod_eq_of_lt hversion]

/-- The two models predict the same `dmstatus` for hart 1. -/
theorem predict_secondSelected (d : DutConfig) {n : Nat} (hone : 1 ≤ n) (hn : n < 2 ^ 32) :
    ((DmRefModel.declared (.ofDeclared (d.declaredConfig n))).onWrite DM_ADDR_DMCONTROL 0x0001_0001#32
        |>.predict DM_ADDR_DMSTATUS).toNat
      = (secondSelected (d.declaredConfig n)).predict DMSTATUS.address := by
  set c := d.declaredConfig n with hc
  set m := DmRefModel.declared (.ofDeclared c) with hm
  have hparams : (DmCfg.ofDeclared c).declared.params = c.params := params_ofDeclared d hn
  have hnum : (DmCfg.ofDeclared c).declared.numHarts = n := congrArg Params.numHarts hparams
  have habs : m.abs = .declared (DmCfg.ofDeclared c).declared := DmRefModel.declared_abs _
  have hpresent : m.abs.HartsPresent := by
    rw [habs]
    exact declared_hartsPresent (by omega)
  have hlevel : m.rc.hartresetLevel = false := congrArg (fun s : DMPredictor => s.rc.hartresetLevel) habs
  have hagree : m.HartresetAgrees 0x0001_0001#32 := by
    intro _ _
    rw [hlevel]
    rfl
  have hstep : (m.step (.onWrite DM_ADDR_DMCONTROL 0x0001_0001#32)).abs
      = m.abs.step (InputS.onWrite DM_ADDR_DMCONTROL 0x0001_0001#32).toInput :=
    DmRefModel.step_abs (m.hartsPresent_iff.mp hpresent) fun _ => hagree
  have hpresent' : (m.step (.onWrite DM_ADDR_DMCONTROL 0x0001_0001#32)).HartsPresent := by
    rw [← DmRefModel.hartsPresent_iff, hstep]
    exact hpresent.step _
  calc _ = (m.step (.onWrite DM_ADDR_DMCONTROL 0x0001_0001#32)).abs.predict DMSTATUS.address :=
        DmRefModel.predict_abs _ hpresent' DM_ADDR_DMSTATUS
    _ = (secondSelected (DmCfg.ofDeclared c).declared).predict DMSTATUS.address := by
        rw [hstep, habs]
        rfl
    _ = (secondSelected c).predict DMSTATUS.address := by
        rw [DMPredictor.predict_dmstatus, DMPredictor.predict_dmstatus, expectDmstatus_secondSelected hparams]

/-- At the read of the second hart, the recorded prediction is compared with the one of `c`. -/
theorem modelsAgree_readSecondHart (d : DutConfig) {n : Nat} (hone : 1 ≤ n) (hn : n < 2 ^ 32) (c : DeclaredConfig)
    (actual : BitVec 32) :
    ModelsAgree (.declared (.ofDeclared (d.declaredConfig n))) (.declared c) (readSecondHart actual) ↔
      (secondSelected (d.declaredConfig n)).expectDmstatus &&& MASK32 = (secondSelected c).expectDmstatus &&& MASK32 := by
  set m := (DmRefModel.declared (.ofDeclared (d.declaredConfig n))).onWrite DM_ADDR_DMCONTROL 0x0001_0001#32 with hm
  have hhas : m.hasModel DM_ADDR_DMSTATUS = true := by simp [DmRefModel.hasModel]
  have hhas' : (secondSelected c).hasModel DMSTATUS.address = true := by simp [DMPredictor.hasModel]
  have hread : ModelsAgree (.declared (.ofDeclared (d.declaredConfig n))) (.declared c) (readSecondHart actual) ↔
      m.hasModel DM_ADDR_DMSTATUS = (secondSelected c).hasModel DMSTATUS.address ∧
        (m.hasModel DM_ADDR_DMSTATUS = true → MASK32 = MASK32 ∧
          (m.predict DM_ADDR_DMSTATUS).toNat &&& MASK32 = (secondSelected c).predict DMSTATUS.address &&& MASK32) := by
    unfold ModelsAgree readSecondHart
    rw [Runs.always_cons, Runs.always_cons]
    exact ⟨fun h => h.2.1, fun h => ⟨trivial, h, trivial⟩⟩
  rw [hread, hhas, hhas', predict_secondSelected d hone hn, DMPredictor.predict_dmstatus, DMPredictor.predict_dmstatus]
  simp

/-- For a model of one hart the second one does not exist. -/
theorem not_modelsAgree_one_hart (d : DutConfig) {n : Nat} (htwo : 2 ≤ n) (hn : n < 2 ^ 32) (actual : BitVec 32) :
    ¬ ModelsAgree (.declared (.ofDeclared (d.declaredConfig n))) (.declared (d.declaredConfig 1))
      (readSecondHart actual) := by
  rw [modelsAgree_readSecondHart d (by omega) hn]
  intro hword
  have hmask : MASK32.testBit 15 = true := by decide
  have hbit := congrArg (Nat.testBit · 15) hword
  simp only [Nat.testBit_and, testBit_secondSelected, hmask, Bool.and_true, decide_eq_decide] at hbit
  have hle : n ≤ 1 := hbit.mpr (Nat.le_refl 1)
  omega

/-- **Replay and the number of harts.**  The checker builds its model with `n` harts.  Every trace of a run
on which the two models of `n` harts agree is replayed without a divergence exactly if `n` is 1. -/
theorem replay_agrees_iff (load : List Char → Option DutConfig) {path : List Char}
    (hpath : ∀ c ∈ path, breaksLine c = false) {d : DutConfig}
    (hload : load ([' '].intercalate (Lines.fields isSeparator path)) = some d) {n : Nat} (hone : 1 ≤ n)
    (hn : n < 2 ^ 32) :
    (∀ calls : List Recorded,
      ModelsAgree (.declared (.ofDeclared (d.declaredConfig n))) (.declared (d.declaredConfig n)) calls →
      ∃ res, replay load (traceText path (.declared (.ofDeclared (d.declaredConfig n))) calls) = .ok res ∧
        res.divergences = []) ↔ n = 1 := by
  constructor
  · intro hall
    by_contra hne
    have hagree := (modelsAgree_readSecondHart d hone hn (d.declaredConfig n) 0).mpr rfl
    obtain ⟨res, hres, hnil⟩ := hall (readSecondHart 0) hagree
    obtain ⟨res', hres', hiff⟩ := replay_traceText load hpath hload
      (.declared (.ofDeclared (d.declaredConfig n))) (readSecondHart 0)
    obtain rfl : res = res' := Except.ok.inj (hres.symm.trans hres')
    exact not_modelsAgree_one_hart d (by omega) hn 0 (hiff.mp hnil)
  · rintro rfl calls hagree
    obtain ⟨res, hres, hiff⟩ := replay_traceText load hpath hload
      (.declared (.ofDeclared (d.declaredConfig 1))) calls
    exact ⟨res, hres, hiff.mpr hagree⟩

/-- One hart: the read of hart 1, which does not exist, is replayed without a divergence. -/
theorem replay_agrees_iff_one_hart :
    let d : DutConfig := ⟨{}, .inl rfl⟩
    ∃ res, replay (fun _ => some d) (traceText "dut_configs/ibex.json".toList
        (.declared (.ofDeclared (d.declaredConfig 1))) (readSecondHart 0xC082)) = .ok res ∧
      res.divergences = [] := by
  intro d
  refine (replay_agrees_iff (fun _ => some d) (Lines.free_of_any (by decide)) rfl (Nat.le_refl 1) (by decide)).mpr rfl
    (readSecondHart 0xC082) ?_
  exact (modelsAgree_readSecondHart d (Nat.le_refl 1) (by decide) (d.declaredConfig 1) _).mpr rfl

/-- Two harts: the models agree on the read of hart 1 and the replay reports a divergence. -/
theorem second_hart_diverges :
    let d : DutConfig := ⟨{}, .inl rfl⟩
    let m : DmRefModel := .declared (.ofDeclared (d.declaredConfig 2))
    ModelsAgree m (.declared (d.declaredConfig 2)) (readSecondHart 0xC82) ∧
      ∃ res, replay (fun _ => some d) (traceText "dut_configs/cva6.json".toList m (readSecondHart 0xC82)) = .ok res ∧
        res.divergences ≠ [] := by
  intro d m
  refine ⟨(modelsAgree_readSecondHart d (by decide) (by decide) (d.declaredConfig 2) _).mpr rfl, ?_⟩
  have hpath : ∀ c ∈ "dut_configs/cva6.json".toList, breaksLine c = false :=
    Lines.free_of_any (by decide)
  obtain ⟨res, hres, hiff⟩ := replay_traceText (fun _ => some d) hpath rfl m (readSecondHart 0xC82)
  refine ⟨res, hres, fun hnil => ?_⟩
  exact not_modelsAgree_one_hart d (Nat.le_refl 2) (by decide) _ (hiff.mp hnil)

end Crosscheck

end RiscvDbg
