import RiscvDbg.DmcontrolFrame

/-!
# The hartreset level and the harts held in reset

`dmcontrol.hartreset` is one level for the whole DM.  `_apply_hartreset` acts on its edges only, and
only on the hart selected at that moment, so the level and the `hart_reset` bits of the harts are two
records of one thing.

* `HartState.afterWrite_hartReset` — what one write makes of the `hart_reset` bit of a hart.
* `Holds` — the two records agree: the level is high exactly if one hart is held, and no other is.
* `DeassertsCleanly` — a write that deasserts the level leaves no hart held and touches no hart that
  was not.
* `SelectsHeld` — the writes that end the level select the hart it was asserted for.
* `hartreset_bookkeeping_iff` — **the records agree all the time exactly if every write does so.**
-/

set_option autoImplicit false

namespace RiscvDbg

/-! ## One hart -/

namespace HartState

variable {h : HartState} {w : HartWrite}

/-- The level sets the bit on its rising edge and clears it on its falling edge. -/
theorem levelEdge_hartReset_eq :
    (h.levelEdge w).hartReset = if w.levelNow = w.levelWas then h.hartReset else w.levelNow := by
  cases hnow : w.levelNow with
  | false =>
    rw [levelEdge_hartReset hnow]
    cases w.levelWas <;> rfl
  | true =>
    unfold HartState.levelEdge
    rw [hnow]
    cases w.levelWas <;> rfl

/-- The `hart_reset` bit after a write: an edge of the level moves it on the selected hart. -/
theorem afterWrite_hartReset :
    (h.afterWrite w).hartReset =
      if w.selected = true ∧ w.levelNow ≠ w.levelWas then w.levelNow else h.hartReset := by
  have hbefore : (h.beforeResume w).hartReset =
      if w.levelNow = w.levelWas then h.hartReset else w.levelNow := by
    rw [beforeResume, requestHalt_hartReset, acknowledge_hartReset, requestResethalt_hartReset,
      levelEdge_hartReset_eq, beforeSelected, ndmEdge_hartReset]
  cases hsel : w.selected with
  | false =>
    rw [(afterWrite_sameRequests hsel).hartReset]
    simp
  | true =>
    unfold afterWrite
    dsimp only
    rw [settle_hartReset, hsel, if_pos rfl]
    by_cases hedge : w.levelNow = w.levelWas
    · rw [if_pos hedge] at hbefore
      split
      · simp [respondResume_hartReset, hbefore, hedge]
      · simp [hbefore, hedge]
    · rw [if_neg hedge] at hbefore
      split
      · simp [respondResume_hartReset, hbefore, hedge]
      · simp [hbefore, hedge]

/-- A hart the write does not select does not notice the level. -/
theorem afterWrite_levelWas (hsel : w.selected = false) (b : Bool) :
    h.afterWrite { w with levelWas := b } = h.afterWrite w := by
  rw [afterWrite_of_unselected hsel, afterWrite_of_unselected (w := { w with levelWas := b }) hsel]
  rfl

end HartState

/-! ## The whole model -/

namespace DMPredictor

/-- A write of `dmcontrol`. -/
def dmcontrolWrite (s : DMPredictor) (value : Nat) : DMPredictor := s.onWrite DMCONTROL.address value

/-- The state with the level already low, so that there is nothing to deassert. -/
def withoutLevel (s : DMPredictor) : DMPredictor := { s with rc := { s.rc with hartresetLevel := false } }

/-- `dmcontrol.hartreset` reads 1 exactly if some hart has `hart_reset` set. -/
def ReadsBackHeld (s : DMPredictor) : Prop :=
  (s.predict DMCONTROL.address).testBit 29 = true ↔ ∃ h ∈ s.rc.harts, h.hartReset = true

/-- The write ends a high level: it has `hartreset = 0`, or deactivates the DM. -/
def Deasserts (s : DMPredictor) (value : Nat) : Prop :=
  s.rc.hartresetLevel = true ∧ (value.testBit 0 && value.testBit 29) = false

/-- What a deasserting write is to do. -/
structure DeassertsCleanly (s : DMPredictor) (value : Nat) : Prop where
  /-- A hart that was not held is not released: the write leaves it as if the level had been low. -/
  others : ∀ (i : Nat) (h : HartState), s.rc.harts[i]? = some h → h.hartReset = false →
    (s.dmcontrolWrite value).rc.harts[i]? = (s.withoutLevel.dmcontrolWrite value).rc.harts[i]?
  /-- No hart stays held. -/
  none_held : ∀ h ∈ (s.dmcontrolWrite value).rc.harts, h.hartReset = false

/-- An active write that ends a high level selects a hart that is held. -/
def SelectsHeld (s : DMPredictor) (value : Nat) : Prop :=
  s.rc.hartresetLevel = true → value.testBit 0 = true → value.testBit 29 = false →
    (s.rc.harts[hartselOf value]?).any (·.hartReset) = true

instance (s : DMPredictor) (value : Nat) : Decidable (s.SelectsHeld value) := by
  unfold SelectsHeld; infer_instance

/-- The level is high exactly if there is a hart held, and then only that one is. -/
structure Holds (s : DMPredictor) (held : Option Nat) : Prop where
  supported : s.params.supportsHartreset = true
  length : s.rc.harts.length = s.params.numHarts
  level : s.rc.hartresetLevel = held.isSome
  exists_held : ∀ i, held = some i → i < s.rc.harts.length
  bits : ∀ (i : Nat) (h : HartState), s.rc.harts[i]? = some h → h.hartReset = decide (held = some i)

variable {s : DMPredictor} {held : Option Nat} {value : Nat}

theorem Holds.readsBackHeld (hs : s.Holds held) : s.ReadsBackHeld := by
  unfold ReadsBackHeld
  rw [predict_dmcontrol, testBit_expectDmcontrol, hs.supported, Bool.and_true, hs.level,
    Option.isSome_iff_exists]
  constructor
  · rintro ⟨i, hi⟩
    have hlt := hs.exists_held i hi
    refine ⟨s.rc.harts[i], List.getElem_mem hlt, ?_⟩
    rw [hs.bits i _ (List.getElem?_eq_getElem hlt)]
    exact decide_eq_true hi
  · rintro ⟨h, hh, hreset⟩
    obtain ⟨i, hi⟩ := List.mem_iff_getElem?.mp hh
    rw [hs.bits i h hi] at hreset
    exact ⟨i, of_decide_eq_true hreset⟩

theorem resetDm_hartReset {powerOn : Bool} {h : HartState} (hh : h ∈ (s.resetDm powerOn).rc.harts) :
    h.hartReset = false := by
  simp only [resetDm, RunControl.resetDm, List.mem_map] at hh
  obtain ⟨i, -, rfl⟩ := hh
  unfold RunControl.resetHart
  dsimp only
  repeat' split
  all_goals rfl

theorem resetDm_holds {powerOn : Bool} (hp : s.params.supportsHartreset = true)
    (hn : 1 ≤ s.params.numHarts) : (s.resetDm powerOn).Holds none := by
  have hmax : max s.params.numHarts 1 = s.params.numHarts := by omega
  refine ⟨hp, ?_, rfl, nofun, ?_⟩
  · simp [resetDm, RunControl.resetDm, resetDeclaredRegs, hmax]
  · intro i h hget
    rw [resetDm_hartReset (List.mem_of_getElem? hget)]
    rfl

theorem Booted.holds (hs : s.Booted) (hp : s.params.supportsHartreset = true)
    (hn : 1 ≤ s.params.numHarts) : s.Holds none := by
  cases hs with
  | constructed p => exact resetDm_holds hp hn
  | configured p c => exact resetDm_holds hp hn

/-! ## One write -/

theorem dmcontrolWrite_active (hv : value.testBit 0 = true) :
    (s.dmcontrolWrite value).rc = (s.rc.writeActive s.params s.ac value).1 := by
  rw [dmcontrolWrite, onWrite_dmcontrol, writeDmcontrol_active s hv]

theorem dmcontrolWrite_inactive (hv : value.testBit 0 = false) :
    s.dmcontrolWrite value = s.resetDm false := by
  rw [dmcontrolWrite, onWrite_dmcontrol, writeDmcontrol_inactive s hv]

/-- The hart held after a write: the one held before, or else the selected one, while `hartreset` is
written 1. -/
def heldAfter (held : Option Nat) (value : Nat) : Option Nat :=
  if value.testBit 0 && value.testBit 29 then some (held.getD (hartselOf value)) else none

/-- The bit of one hart after an active write. -/
theorem hartReset_after_active (hs : s.Holds held) (hv : value.testBit 0 = true) {i : Nat} {h : HartState}
    (hget : (s.dmcontrolWrite value).rc.harts[i]? = some h) :
    ∃ h₀, s.rc.harts[i]? = some h₀ ∧ h.hartReset =
      if i = hartselOf value ∧ value.testBit 29 ≠ held.isSome then value.testBit 29 else h₀.hartReset := by
  rw [dmcontrolWrite_active hv, RunControl.writeActive_harts] at hget
  obtain ⟨h₀, hget₀, rfl⟩ := Option.map_eq_some_iff.mp hget
  refine ⟨h₀, hget₀, ?_⟩
  rw [HartState.afterWrite_hartReset]
  simp only [RunControl.hartWrite, hs.supported, Bool.and_true, beq_iff_eq, hs.level]

/-- **The step.**  A write of an existing hart that meets `SelectsHeld` keeps the records together. -/
theorem Holds.dmcontrolWrite (hs : s.Holds held) (hn : 1 ≤ s.params.numHarts)
    (hsel : hartselOf value < s.params.numHarts) (hok : s.SelectsHeld value) :
    (s.dmcontrolWrite value).Holds (heldAfter held value) := by
  cases hv : value.testBit 0 with
  | false =>
    rw [dmcontrolWrite_inactive hv, heldAfter, hv, Bool.false_and, if_neg Bool.false_ne_true]
    exact resetDm_holds hs.supported hn
  | true =>
    have hparams : (s.dmcontrolWrite value).params = s.params := (s.onWrite_static _ value).1
    have hlen : (s.dmcontrolWrite value).rc.harts.length = s.rc.harts.length := by
      rw [dmcontrolWrite_active hv]; simp [RunControl.writeActive_fst]
    have hafter : heldAfter held value =
        if value.testBit 29 then some (held.getD (hartselOf value)) else none := by
      rw [heldAfter, hv, Bool.true_and]
    rw [hafter]
    refine ⟨by rw [hparams]; exact hs.supported, by rw [hlen, hparams]; exact hs.length, ?_, ?_, ?_⟩
    · rw [dmcontrolWrite_active hv, RunControl.writeActive_fst]
      cases value.testBit 29 <;> simp [hs.supported]
    · intro i hi
      rw [hlen]
      cases hbit : value.testBit 29 with
      | false => rw [hbit, if_neg Bool.false_ne_true] at hi; cases hi
      | true =>
        rw [hbit, if_pos rfl, Option.some.injEq] at hi
        cases held with
        | none => rw [hs.length, ← hi]; exact hsel
        | some j => rw [← hi]; exact hs.exists_held j rfl
    · intro i h hget
      obtain ⟨h₀, hget₀, hbit₀⟩ := hartReset_after_active hs hv hget
      have hold := hs.bits i h₀ hget₀
      rw [hbit₀, hold]
      cases hbit : value.testBit 29 with
      | true =>
        cases held with
        | none => simp [eq_comm]
        | some j => simp
      | false =>
        cases held with
        | none => simp
        | some j =>
          -- the selected hart is held, so it is the held one
          have hjsel : hartselOf value = j := by
            have hany := hok hs.level hv hbit
            cases hgets : s.rc.harts[hartselOf value]? with
            | none => rw [hgets] at hany; cases hany
            | some g =>
              rw [hgets, Option.any_some, hs.bits _ g hgets, decide_eq_true_eq, Option.some.injEq] at hany
              exact hany.symm
          simp only [hjsel, Option.isSome_some, Option.some.injEq]
          by_cases hi : i = j
          · simp [hi]
          · simp [hi, Ne.symm hi]

/-- What the level does to a hart that the write does not select. -/
theorem harts_withoutLevel {i : Nat} (hi : i ≠ hartselOf value) :
    (s.dmcontrolWrite value).rc.harts[i]? = (s.withoutLevel.dmcontrolWrite value).rc.harts[i]? := by
  cases hv : value.testBit 0 with
  | false => rw [dmcontrolWrite_inactive hv, dmcontrolWrite_inactive hv]; rfl
  | true =>
    rw [dmcontrolWrite_active hv, dmcontrolWrite_active hv, RunControl.writeActive_harts,
      RunControl.writeActive_harts]
    have hsel : (s.rc.hartWrite s.params s.ac value i).selected = false := by
      simp [RunControl.hartWrite, hi]
    exact congrArg (fun f => (s.rc.harts[i]?).map f)
      (funext fun h => (HartState.afterWrite_levelWas (h := h) hsel false).symm)

/-- A deasserting write does its work exactly if it selects the held hart. -/
theorem Holds.deasserts_iff (hs : s.Holds held) (hn : 1 ≤ s.params.numHarts)
    (hsel : hartselOf value < s.params.numHarts) :
    (s.Deasserts value → s.DeassertsCleanly value) ↔ s.SelectsHeld value := by
  constructor
  · intro hclean hlevel hv hbit
    obtain ⟨j, hj⟩ := Option.isSome_iff_exists.mp (hs.level.symm.trans hlevel)
    have hnone := (hclean ⟨hlevel, by rw [hbit, Bool.and_false]⟩).none_held
    -- were the held hart another one, it would stay held
    by_contra hnot
    have hne : j ≠ hartselOf value := by
      rintro rfl
      have hlt := hs.exists_held _ hj
      rw [List.getElem?_eq_getElem hlt, Option.any_some, hs.bits _ _ (List.getElem?_eq_getElem hlt)] at hnot
      exact hnot (decide_eq_true hj)
    have hlen : j < (s.dmcontrolWrite value).rc.harts.length := by
      rw [dmcontrolWrite_active hv, RunControl.writeActive_fst, List.length_mapIdx]
      exact hs.exists_held j hj
    obtain ⟨h₀, hget₀, hbit₀⟩ := hartReset_after_active hs hv (List.getElem?_eq_getElem hlen)
    rw [if_neg (fun h => hne h.1), hs.bits j h₀ hget₀, hnone _ (List.getElem_mem hlen)] at hbit₀
    exact of_decide_eq_false hbit₀.symm hj
  · intro hok hdeasserts
    have hafter := hs.dmcontrolWrite hn hsel hok
    have hnone : heldAfter held value = none := by
      rw [heldAfter, hdeasserts.2, if_neg Bool.false_ne_true]
    rw [hnone] at hafter
    refine ⟨?_, ?_⟩
    · intro i h hget hfree
      by_cases hi : i = hartselOf value
      · -- an active write would have selected a held hart
        cases hv : value.testBit 0 with
        | false => rw [dmcontrolWrite_inactive hv, dmcontrolWrite_inactive hv]; rfl
        | true =>
          have hbit : value.testBit 29 = false := by
            have h2 := hdeasserts.2
            rwa [hv, Bool.true_and] at h2
          have hany := hok hdeasserts.1 hv hbit
          rw [← hi, hget, Option.any_some, hfree] at hany
          cases hany
      · exact harts_withoutLevel hi
    · intro h hh
      obtain ⟨i, hi⟩ := List.mem_iff_getElem?.mp hh
      exact (hafter.bits i h hi).trans rfl

end DMPredictor

/-! ## Runs -/

open DMPredictor in
/-- **Hart-reset bookkeeping.**  Along `dmcontrol` writes that select existing harts, the read-back of
`hartreset` shows in every state whether a hart is held and every deasserting write releases held harts
only and leaves none held, exactly if every write that ends the level selects a held hart. -/
theorem hartreset_bookkeeping_iff {s : DMPredictor} (hs : s.Booted)
    (hp : s.params.supportsHartreset = true) (hn : 1 ≤ s.params.numHarts) (values : List Nat)
    (hsel : ∀ value ∈ values, hartselOf value < s.params.numHarts) :
    Runs.Throughout dmcontrolWrite ReadsBackHeld s values ∧
      Runs.Always dmcontrolWrite (fun s value => s.Deasserts value → s.DeassertsCleanly value) s values ↔
    Runs.Always dmcontrolWrite SelectsHeld s values := by
  let n := s.params.numHarts
  let Inv : DMPredictor → Prop := fun t => t.params.numHarts = n ∧ ∃ held, t.Holds held
  have hstep : ∀ t value, Inv t → hartselOf value < n → t.SelectsHeld value →
      Inv (t.dmcontrolWrite value) := by
    rintro t value ⟨ht, held, hheld⟩ hlt hok
    refine ⟨?_, _, hheld.dmcontrolWrite (by rw [ht]; exact hn) (by rw [ht]; exact hlt) hok⟩
    rw [dmcontrolWrite, (t.onWrite_static _ value).1, ht]
  have hinit : Inv s := ⟨rfl, none, hs.holds hp hn⟩
  have hlegal : Runs.Always dmcontrolWrite (fun _ value => hartselOf value < n) s values :=
    Runs.Always.of_forall (fun _ _ h => h) values s hsel
  have hiff := Runs.always_iff (P := Inv) hstep
    (fun t value ⟨ht, held, hheld⟩ hlt =>
      hheld.deasserts_iff (by rw [ht]; exact hn) (by rw [ht]; exact hlt)) values s hinit hlegal
  rw [hiff]
  refine ⟨And.right, fun hok => ⟨?_, hok⟩⟩
  intro js hjs
  obtain ⟨ks, rfl⟩ := hjs
  have hboth : Runs.Always dmcontrolWrite (fun t value => t.SelectsHeld value ∧ hartselOf value < n) s js :=
    Runs.Always.and_forall js s ((Runs.always_append js ks s).mp hok).1
      fun value hv => hsel value (List.mem_append_left ks hv)
  obtain ⟨-, held, hheld⟩ := Runs.run_invariant (P := Inv)
    (fun t value ht hok => hstep t value ht hok.2 hok.1) js s hinit hboth
  exact hheld.readsBackHeld

/-- Hart 1 of two is held while hart 0 is selected, and released. -/
theorem hartreset_bookkeeping_reselected :
    let s := DMPredictor.declared { numHarts := 2, supportsHartreset := true }
    let values := [0x20010001, 0x20000001, 0x00010001]
    Runs.Throughout DMPredictor.dmcontrolWrite DMPredictor.ReadsBackHeld s values ∧
      Runs.Always DMPredictor.dmcontrolWrite
        (fun s value => s.Deasserts value → s.DeassertsCleanly value) s values :=
  (hartreset_bookkeeping_iff (.configured {} { numHarts := 2, supportsHartreset := true }) rfl
    (by decide) [0x20010001, 0x20000001, 0x00010001] (by decide)).mpr (by decide)

/-- Hart 0 is put in reset, then `select_hart(1)` writes `hartreset = 0`: hart 0 stays held for ever and
hart 1, which was never in reset, reports one. -/
theorem hartreset_released_for_other_hart :
    let s := DMPredictor.declared { numHarts := 2, supportsHartreset := true }
    let t := (s.dmcontrolWrite 0x20000001).dmcontrolWrite 0x00010001
    (t.predict DMCONTROL.address).testBit 29 = false ∧
      t.rc.harts.map (·.hartReset) = [true, false] ∧ t.rc.harts.map (·.havereset) = [false, true] ∧
      ¬ (Runs.Throughout DMPredictor.dmcontrolWrite DMPredictor.ReadsBackHeld s [0x20000001, 0x00010001] ∧
        Runs.Always DMPredictor.dmcontrolWrite
          (fun s value => s.Deasserts value → s.DeassertsCleanly value) s [0x20000001, 0x00010001]) := by
  intro s t
  have hbit : (t.predict DMCONTROL.address).testBit 29 = false := by decide
  have hheld : t.rc.harts.map (·.hartReset) = [true, false] := by decide
  refine ⟨hbit, hheld, by decide, ?_⟩
  rintro ⟨hread, -⟩
  have hlast : t.ReadsBackHeld := hread [0x20000001, 0x00010001] (List.prefix_refl _)
  have hsome : ∃ h ∈ t.rc.harts, h.hartReset = true := by
    have hmem : true ∈ t.rc.harts.map (·.hartReset) := by rw [hheld]; exact List.mem_cons_self
    obtain ⟨h, hh, heq⟩ := List.mem_map.mp hmem
    exact ⟨h, hh, heq⟩
  rw [hlast.mpr hsome] at hbit
  cases hbit

end RiscvDbg
