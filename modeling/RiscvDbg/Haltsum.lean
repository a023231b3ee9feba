import RiscvDbg.ReleaseRules

/-!
# The tree of halt summaries

`haltsum1` to `haltsum3` are computed by one function, for the window of harts that `hartsel` names.
`haltsum0` has a loop of its own, which does not look at `hartsel` and always shows harts 0 to 31.

* `haltsumAddr` — the registers of the tree, by level.
* `SummarisesHarts` — the bits of one level; `SummarisesBlocks` — one level against the next.
* `haltsum_iff` — both hold above level 0; at level 0 they hold exactly if the selected window looks
  like harts 0 to 31.
-/

set_option autoImplicit false

namespace RiscvDbg

/-- `HALTSUM_LEVELS`. -/
def haltsumAddr : Nat → Nat
  | 0 => ADDR_HALTSUM0
  | 1 => ADDR_HALTSUM1
  | 2 => ADDR_HALTSUM2
  | _ => ADDR_HALTSUM3

namespace DMPredictor

variable (s : DMPredictor)

/-- The same state with another hart selected. -/
def selecting (hartsel : Nat) : DMPredictor := { s with rc := { s.rc with hartsel := hartsel } }

/-- Bit `j` of level `n` is set exactly if a halted hart of the window that `hartsel` names at this
level has index `j` there. -/
def SummarisesHarts (n : Nat) : Prop :=
  ∀ j < 32, (s.predict (haltsumAddr n)).testBit j = true ↔
    ∃ h < s.params.numHarts, s.hartHalted h = true ∧ (h >>> (5 * n)) % 32 = j ∧
      (n < 3 → h >>> (5 * n + 5) = s.rc.hartsel >>> (5 * n + 5))

/-- Bit `j` of level `n + 1` is set exactly if level `n` is not zero when `hartsel` selects block `j`
of the window of level `n + 1`. -/
def SummarisesBlocks (n : Nat) : Prop :=
  ∀ j < 32, ∀ hartsel < 2 ^ 20, (hartsel >>> (5 * (n + 1))) % 32 = j →
    (n + 1 < 3 → hartsel >>> (5 * (n + 1) + 5) = s.rc.hartsel >>> (5 * (n + 1) + 5)) →
    ((s.predict (haltsumAddr (n + 1))).testBit j = true ↔
      (s.selecting hartsel).predict (haltsumAddr n) ≠ 0)

/-- The 32 harts of the window that `hartsel` names are halted as harts 0 to 31 are. -/
def WindowLikeFirst : Prop :=
  ∀ j < 32, s.hartHalted (32 * (s.rc.hartsel / 32) + j) = s.hartHalted j

/-- In each block of 32 harts of the 1024 around `hartsel`, some hart is halted exactly if one of harts
0 to 31 is. -/
def BlocksLikeFirst : Prop :=
  ∀ j < 32, (∃ i < 32, s.hartHalted (1024 * (s.rc.hartsel / 1024) + 32 * j + i) = true) ↔
    ∃ i < 32, s.hartHalted i = true

/-! ## The bits of each level -/

theorem predict_haltsum0 : s.predict (haltsumAddr 0) = s.expectHaltsum0 := rfl

theorem predict_haltsum {n : Nat} (h₁ : 1 ≤ n) (h₃ : n ≤ 3) :
    s.predict (haltsumAddr n) = s.expectHaltsum n := by
  obtain rfl | rfl | rfl : n = 1 ∨ n = 2 ∨ n = 3 := by omega
  · rfl
  · rfl
  · rfl

/-- A hart of the model that is halted is a declared one. -/
theorem hartHalted_lt (hsized : s.Sized) (hn : 1 ≤ s.params.numHarts) {h : Nat}
    (hh : s.hartHalted h = true) : h < s.params.numHarts := by
  unfold hartHalted at hh
  unfold Sized at hsized
  rcases Nat.lt_or_ge h s.rc.harts.length with hlt | hge
  · omega
  · rw [List.getElem?_eq_none hge] at hh
    cases hh

theorem testBit_expectHaltsum0 (hsized : s.Sized) (hn : 1 ≤ s.params.numHarts) (j : Nat) :
    s.expectHaltsum0.testBit j = true ↔ j < 32 ∧ s.hartHalted j = true := by
  rw [expectHaltsum0, Words.testBit_foldl_setBits s.hartHalted (fun i => i)]
  simp only [Nat.zero_testBit, Bool.false_or, List.any_eq_true, List.mem_range, Bool.and_eq_true, beq_iff_eq]
  constructor
  · rintro ⟨i, hi, hhalted, rfl⟩
    exact ⟨by omega, hhalted⟩
  · rintro ⟨hj, hhalted⟩
    have hlt := s.hartHalted_lt hsized hn hhalted
    unfold Sized at hsized
    exact ⟨j, by omega, hhalted, rfl⟩

theorem testBit_expectHaltsum (hgroups : s.cfg.haltsumGroupsPresent = true) (hsized : s.Sized) (n j : Nat) :
    (s.expectHaltsum n).testBit j = true ↔
      ∃ h < s.params.numHarts, s.hartHalted h = true ∧ (h >>> (5 * n)) % 32 = j ∧
        (n < 3 → h >>> (5 * n + 5) = s.rc.hartsel >>> (5 * n + 5)) := by
  have hbody : (fun word h =>
      if !s.hartHalted h then word
      else if n < 3 && (h >>> (5 * n + 5)) != (s.rc.hartsel >>> (5 * n + 5)) then word
      else word ||| (1 <<< ((h >>> (5 * n)) &&& 31))) =
      fun word h =>
        if s.hartHalted h && !(n < 3 && (h >>> (5 * n + 5)) != (s.rc.hartsel >>> (5 * n + 5))) then
          word ||| (1 <<< ((h >>> (5 * n)) &&& 31))
        else word := by
    funext word h
    cases s.hartHalted h <;>
      cases (decide (n < 3) && (h >>> (5 * n + 5)) != (s.rc.hartsel >>> (5 * n + 5))) <;> rfl
  have hmod : ∀ h : Nat, h &&& 31 = h % 32 := fun h => Nat.and_two_pow_sub_one_eq_mod h 5
  have hmin : min s.params.numHarts s.rc.harts.length = s.params.numHarts := by
    unfold Sized at hsized
    omega
  rw [expectHaltsum, hgroups]
  simp only [Bool.not_true, Bool.false_eq_true, if_false]
  rw [hbody, Words.testBit_foldl_setBits
    (fun h => s.hartHalted h && !(n < 3 && (h >>> (5 * n + 5)) != (s.rc.hartsel >>> (5 * n + 5))))
    (fun h => (h >>> (5 * n)) &&& 31)]
  simp only [hmin, hmod, Nat.zero_testBit, Bool.false_or, List.any_eq_true, List.mem_range,
    Bool.and_eq_true, beq_iff_eq, Bool.not_eq_true', Bool.and_eq_false_iff, decide_eq_false_iff_not,
    bne_eq_false_iff_eq, ← imp_iff_not_or, and_assoc]
  refine exists_congr fun h => and_congr_right fun _ => and_congr_right fun _ => ?_
  exact and_comm

/-! ## One level -/

theorem ne_zero_iff_testBit (word : Nat) : word ≠ 0 ↔ ∃ j, word.testBit j = true := by
  constructor
  · exact Nat.exists_testBit_of_ne_zero
  · rintro ⟨j, hj⟩ rfl
    rw [Nat.zero_testBit] at hj
    cases hj

theorem summarisesHarts_of_pos (hgroups : s.cfg.haltsumGroupsPresent = true) (hsized : s.Sized) {n : Nat}
    (h₁ : 1 ≤ n) (h₃ : n ≤ 3) : s.SummarisesHarts n := by
  intro j _
  rw [s.predict_haltsum h₁ h₃]
  exact s.testBit_expectHaltsum hgroups hsized n j

theorem summarisesHarts_zero_iff (hsized : s.Sized) (hn : 1 ≤ s.params.numHarts) :
    s.SummarisesHarts 0 ↔ s.WindowLikeFirst := by
  -- the one hart of the window with index `j`
  have hwindow : ∀ j < 32, (∃ h < s.params.numHarts, s.hartHalted h = true ∧ (h >>> (5 * 0)) % 32 = j ∧
      (0 < 3 → h >>> (5 * 0 + 5) = s.rc.hartsel >>> (5 * 0 + 5))) ↔
      s.hartHalted (32 * (s.rc.hartsel / 32) + j) = true := by
    intro j hj
    simp only [Nat.shiftRight_eq_div_pow, Nat.mul_zero, Nat.pow_zero, Nat.div_one, Nat.zero_add,
      Nat.reducePow, Nat.zero_lt_succ, forall_const]
    constructor
    · rintro ⟨h, -, hhalted, hmod, hdiv⟩
      have heq : h = 32 * (s.rc.hartsel / 32) + j := by omega
      rwa [← heq]
    · intro hhalted
      exact ⟨_, s.hartHalted_lt hsized hn hhalted, hhalted, by omega, by omega⟩
  refine forall_congr' fun j => forall_congr' fun hj => ?_
  rw [s.predict_haltsum0, s.testBit_expectHaltsum0 hsized hn, hwindow j hj, and_iff_right hj,
    ← Bool.eq_iff_iff]
  exact eq_comm

/-! ## Two levels -/

/-- Above level 0, the level is not zero exactly if a hart of the selected block is halted. -/
theorem selecting_haltsum_ne_zero (hgroups : s.cfg.haltsumGroupsPresent = true) (hsized : s.Sized)
    {n : Nat} (h₁ : 1 ≤ n) (h₃ : n < 3) (hartsel : Nat) :
    (s.selecting hartsel).predict (haltsumAddr n) ≠ 0 ↔
      ∃ h < s.params.numHarts, s.hartHalted h = true ∧ h >>> (5 * n + 5) = hartsel >>> (5 * n + 5) := by
  rw [ne_zero_iff_testBit, predict_haltsum _ h₁ (by omega)]
  constructor
  · rintro ⟨j, hj⟩
    obtain ⟨h, hlt, hhalted, -, hblock⟩ := ((s.selecting hartsel).testBit_expectHaltsum hgroups hsized n j).mp hj
    exact ⟨h, hlt, hhalted, hblock h₃⟩
  · rintro ⟨h, hlt, hhalted, hblock⟩
    exact ⟨_, ((s.selecting hartsel).testBit_expectHaltsum hgroups hsized n _).mpr
      ⟨h, hlt, hhalted, rfl, fun _ => hblock⟩⟩

theorem summarisesBlocks_of_pos (hgroups : s.cfg.haltsumGroupsPresent = true) (hsized : s.Sized)
    (hmax : s.params.numHarts ≤ 2 ^ 20) {n : Nat} (h₁ : 1 ≤ n) (h₃ : n < 3) : s.SummarisesBlocks n := by
  intro j hj hartsel hlt hindex hwindow
  rw [s.selecting_haltsum_ne_zero hgroups hsized h₁ h₃, s.predict_haltsum (by omega) (by omega),
    s.testBit_expectHaltsum hgroups hsized]
  -- a block is the window and the index in it
  have hblock : ∀ h < 2 ^ 20, ((h >>> (5 * (n + 1))) % 32 = j ∧
      (n + 1 < 3 → h >>> (5 * (n + 1) + 5) = s.rc.hartsel >>> (5 * (n + 1) + 5))) ↔
      h >>> (5 * n + 5) = hartsel >>> (5 * n + 5) := by
    intro h hh
    obtain rfl | rfl : n = 1 ∨ n = 2 := by omega
    · simp only [Nat.shiftRight_eq_div_pow, Nat.reduceAdd, Nat.reduceMul, Nat.reducePow] at hindex hwindow ⊢
      omega
    · simp only [Nat.shiftRight_eq_div_pow, Nat.reduceAdd, Nat.reduceMul, Nat.reducePow] at hh hlt hindex ⊢
      omega
  refine exists_congr fun h => and_congr_right fun hlt => and_congr_right fun _ => ?_
  exact hblock h (by omega)

theorem summarisesBlocks_zero_iff (hgroups : s.cfg.haltsumGroupsPresent = true) (hsized : s.Sized)
    (hn : 1 ≤ s.params.numHarts) (hsel : s.rc.hartsel < 2 ^ 20) :
    s.SummarisesBlocks 0 ↔ s.BlocksLikeFirst := by
  have hfirst : ∀ hartsel, (s.selecting hartsel).predict (haltsumAddr 0) ≠ 0 ↔
      ∃ i < 32, s.hartHalted i = true := by
    intro hartsel
    rw [ne_zero_iff_testBit, predict_haltsum0]
    exact exists_congr fun j => (s.selecting hartsel).testBit_expectHaltsum0 hsized hn j
  have hbit : ∀ j < 32, (s.predict (haltsumAddr (0 + 1))).testBit j = true ↔
      ∃ i < 32, s.hartHalted (1024 * (s.rc.hartsel / 1024) + 32 * j + i) = true := by
    intro j hj
    rw [s.predict_haltsum (by omega) (by omega), s.testBit_expectHaltsum hgroups hsized]
    simp only [Nat.shiftRight_eq_div_pow, Nat.reduceAdd, Nat.reduceMul, Nat.reducePow, Nat.reduceLT,
      forall_const]
    constructor
    · rintro ⟨h, -, hhalted, hindex, hwindow⟩
      refine ⟨h % 32, by omega, ?_⟩
      have heq : 1024 * (s.rc.hartsel / 1024) + 32 * j + h % 32 = h := by omega
      rwa [heq]
    · rintro ⟨i, hi, hhalted⟩
      exact ⟨_, s.hartHalted_lt hsized hn hhalted, hhalted, by omega, by omega⟩
  constructor
  · intro hblocks j hj
    rw [← hbit j hj, ← hfirst (1024 * (s.rc.hartsel / 1024) + 32 * j)]
    refine hblocks j hj _ (by omega) ?_ fun _ => ?_
    · simp only [Nat.shiftRight_eq_div_pow, Nat.reduceAdd, Nat.reduceMul, Nat.reducePow]
      omega
    · simp only [Nat.shiftRight_eq_div_pow, Nat.reduceAdd, Nat.reduceMul, Nat.reducePow]
      omega
  · intro hlike j hj hartsel _ _ _
    rw [hbit j hj, hfirst, hlike j hj]

/-! ## Reachable states -/

theorem step_hartsel_lt {s : DMPredictor} (hs : s.rc.hartsel < 2 ^ 20) (i : Input) :
    (s.step i).rc.hartsel < 2 ^ 20 := by
  cases i with
  | setConfig c => exact Nat.two_pow_pos 20
  | resetDm powerOn => exact Nat.two_pow_pos 20
  | setObservedCmdbusy busy => exact hs
  | onWrite addr value =>
    rw [step]
    by_cases ha : addr = DMCONTROL.address
    · rw [ha, onWrite_dmcontrol]
      cases hv : value.testBit 0 with
      | false => rw [writeDmcontrol_inactive s hv]; exact Nat.two_pow_pos 20
      | true =>
        rw [writeDmcontrol_active s hv, RunControl.writeActive_fst]
        exact hartselOf_lt value
    · rw [onWrite_rc_of_ne s ha]
      exact hs
  | observeRead addr => rw [step, observeRead_rc]; exact hs
  | observeSbdata0Read => exact hs
  | syncObservedHartSignals w => exact hs

theorem Booted.run_hartsel_lt {s : DMPredictor} (hs : s.Booted) (is : List Input) :
    (s.run is).rc.hartsel < 2 ^ 20 := by
  refine Runs.run_invariant (P := fun s => s.rc.hartsel < 2 ^ 20) (fun _ i hs _ => step_hartsel_lt hs i) is s ?_
    (Runs.always_true is s)
  cases hs with
  | constructed p => exact Nat.two_pow_pos 20
  | configured p c => exact Nat.two_pow_pos 20

end DMPredictor

open DMPredictor in
/-- **The tree of halt summaries.**  In every reached state, a level above 0 shows exactly the halted
harts of its window and summarises the level below.  Level 0 does so exactly if the window `hartsel`
names looks like harts 0 to 31 and, where level 1 is there, so does every block it summarises. -/
theorem haltsum_iff {s₀ : DMPredictor} (h₀ : s₀.Booted) (is : List Input) {n : Nat} (h₃ : n ≤ 3)
    (hn : 1 ≤ (s₀.run is).params.numHarts) (hmax : (s₀.run is).params.numHarts ≤ 2 ^ 20)
    (hpresent : 1 ≤ n → (s₀.run is).cfg.haltsumGroupsPresent = true) :
    let s := s₀.run is
    s.SummarisesHarts n ∧ (n < 3 → s.cfg.haltsumGroupsPresent = true → s.SummarisesBlocks n) ↔
      (n = 0 → s.WindowLikeFirst ∧ (s.cfg.haltsumGroupsPresent = true → s.BlocksLikeFirst)) := by
  intro s
  have hsized : s.Sized := h₀.run_sized is
  rcases Nat.eq_zero_or_pos n with rfl | hpos
  · rw [s.summarisesHarts_zero_iff hsized hn]
    simp only [Nat.zero_lt_succ, forall_const]
    refine and_congr_right fun _ => forall_congr' fun hgroups => ?_
    exact s.summarisesBlocks_zero_iff hgroups hsized hn (h₀.run_hartsel_lt is)
  · refine iff_of_true ⟨s.summarisesHarts_of_pos (hpresent hpos) hsized hpos h₃, ?_⟩ (by omega)
    intro hlt hgroups
    exact s.summarisesBlocks_of_pos hgroups hsized hmax hpos hlt

/-- Two harts, the second one halted: `haltsum1` shows it in bit 0. -/
theorem haltsum_iff_two_harts :
    let s := ((DMPredictor.init {}).setConfig { haltsumGroupsPresent := true, numHarts := 2 }).run
      [.onWrite DMCONTROL.address 0x80010001]
    s.SummarisesHarts 1 ∧ s.SummarisesBlocks 1 ∧ (s.predict (haltsumAddr 1)).testBit 0 = true := by
  intro s
  have hboth := (haltsum_iff (.configured {} { haltsumGroupsPresent := true, numHarts := 2 })
    [.onWrite DMCONTROL.address 0x80010001] (n := 1) (by decide) (by decide) (by decide) (fun _ => rfl)).mpr
    (fun h => absurd h (by decide))
  exact ⟨hboth.1, hboth.2 (by decide) rfl, by decide⟩

/-- Thirty-three harts, the last one selected and halted: `haltsum0` reads 0. -/
theorem haltsum0_ignores_hartsel :
    let s := ((DMPredictor.init {}).setConfig { numHarts := 33 }).run [.onWrite DMCONTROL.address 0x80200001]
    s.hartHalted 32 = true ∧ s.rc.hartsel = 32 ∧ s.predict (haltsumAddr 0) = 0 ∧ ¬ s.SummarisesHarts 0 := by
  intro s
  have hhalted : s.hartHalted 32 = true := by decide
  have hsel : s.rc.hartsel = 32 := by decide
  have hzero : s.predict (haltsumAddr 0) = 0 := by decide
  refine ⟨hhalted, hsel, hzero, fun hsum => ?_⟩
  have hbit := (hsum 0 (by decide)).mpr ⟨32, by decide, hhalted, by decide, fun _ => by rw [hsel]⟩
  rw [hzero] at hbit
  exact absurd hbit (by decide)

end RiscvDbg
