import RiscvDbg.HartWellFormed
import RiscvDbg.RefModel.Shadows

/-!
# The predictions of the two reference models

`DmRefModel.abs` reads the whole SystemVerilog state as the Python one.  Both models then predict the
same words: the Python model shifts and combines numbers, or encodes a register by its field table; the
SystemVerilog one assigns slices.

* `DmRefModel.HartsPresent` — the harts in the array are the declared ones, and all exist.
* `expectDmstatus_abs`, `expectDmcontrol_abs`, … — one lemma for each predicted word.
* `hasModel_abs`, `predict_abs`, `predictMask_abs` — every address.
-/

set_option autoImplicit false

namespace RiscvDbg

/-- The state as the Python model holds it. -/
def DmRefModel.abs (m : DmRefModel) : DMPredictor where
  params := m.params.abs
  cfg := m.cfg.declared
  cfgValid := m.cfgValid
  rc := m.rc.abs
  ac := m.ac.abs
  sb := m.sb.abs
  hawindowsel := m.hawindowsel.toNat
  authdata := m.authdata.toNat
  relaxedpriv := m.relaxedpriv
  hawindow := m.hawindowQ.toNat
  observedCmdbusy := m.observedCmdbusy

/-- The array holds the declared harts, at least one, and all exist. -/
structure DmRefModel.HartsPresent (m : DmRefModel) : Prop where
  one_le : 1 ≤ m.params.numHarts.toNat
  length : m.rc.harts.length = m.params.numHarts.toNat
  exist : ∀ h ∈ m.rc.harts, h.nonexistent = false

namespace DmRefModel

variable (m : DmRefModel)

/-! ## Words built field by field -/

theorem expectHartinfo_abs (c : DmCfg) :
    (expectHartinfo c).toNat = DMPredictor.expectHartinfo c.declared := by
  have hfold : (expectHartinfo c).toNat =
      [(20, 4, c.nscratch.toNat), (16, 1, c.dataaccess.toNat), (12, 4, c.datasize.toNat),
        (0, 12, c.dataaddr.toNat)].foldl (fun w f => Words.insert f.1 f.2.1 w f.2.2) 0 := by
    unfold expectHartinfo
    simp (disch := decide) only [Words.toNat_setSlice, Words.toNat_setBit]
    rfl
  rw [hfold, Words.foldl_insert_eq_assemble (by simp)]
  simp only [Words.assemble, List.foldl_cons, List.foldl_nil, Nat.zero_or, Words.toNat_and_ones_one,
    Nat.shiftLeft_zero]
  rfl

theorem expectAbstractcs_abs : m.expectAbstractcs.toNat = m.abs.expectAbstractcs := by
  have hfold : m.expectAbstractcs.toNat =
      [(24, 5, m.cfg.progbufsize.toNat), (11, 1, m.relaxedpriv.toNat),
        (0, 4, m.cfg.datacount.toNat)].foldl (fun w f => Words.insert f.1 f.2.1 w f.2.2) 0 := by
    unfold expectAbstractcs
    simp (disch := decide) only [Words.toNat_setSlice, Words.toNat_setBit]
    rfl
  rw [hfold, Words.foldl_insert_eq_assemble (by simp)]
  simp only [Words.assemble, List.foldl_cons, List.foldl_nil, Nat.zero_or, Words.toNat_and_ones_one,
    Nat.shiftLeft_zero]
  rfl

theorem expectSbcs_abs : (if m.cfg.sbaEnable then m.expectSbcs else 0).toNat = m.abs.expectSbcs := by
  have hfold : m.expectSbcs.toNat =
      [(29, 3, m.cfg.sbversion.toNat), (20, 1, m.sb.sbreadonaddr.toNat), (17, 3, m.sb.sbaccess.toNat),
        (16, 1, m.sb.sbautoincrement.toNat), (15, 1, m.sb.sbreadondata.toNat),
        (5, 7, m.cfg.sbasize.toNat), (4, 1, m.cfg.sbaccess128.toNat), (3, 1, m.cfg.sbaccess64.toNat),
        (2, 1, m.cfg.sbaccess32.toNat), (1, 1, m.cfg.sbaccess16.toNat),
        (0, 1, m.cfg.sbaccess8.toNat)].foldl (fun w f => Words.insert f.1 f.2.1 w f.2.2) 0 := by
    unfold expectSbcs
    simp (disch := decide) only [Words.toNat_setSlice, Words.toNat_setBit]
    rfl
  unfold DMPredictor.expectSbcs
  show (if m.cfg.sbaEnable then m.expectSbcs else 0).toNat = if !m.cfg.sbaEnable then 0 else _
  cases m.cfg.sbaEnable with
  | false => rfl
  | true =>
    rw [if_pos rfl, if_neg (by simp), hfold, Words.foldl_insert_eq_assemble (by simp)]
    simp only [Words.assemble, List.foldl_cons, List.foldl_nil, Nat.zero_or, Words.toNat_and_ones_one,
      Nat.shiftLeft_zero]
    rfl

/-- A mask of `n` low bits, computed in 32 bits. -/
theorem toNat_lowMask {n : Nat} (h : n < 32) : ((1#32 <<< n) - 1#32).toNat = (1 <<< n) - 1 := by
  have hlt : 2 ^ n < 2 ^ 32 := Nat.pow_lt_pow_right (by decide) h
  have hpos := Nat.two_pow_pos n
  rw [BitVec.toNat_sub, BitVec.toNat_shiftLeft, BitVec.toNat_ofNat, Nat.one_mod, Nat.one_shiftLeft,
    Nat.mod_eq_of_lt hlt]
  omega

/-- A slice of `abstractauto`, cut to the words there are. -/
theorem toNat_maskedSlice {k n : Nat} (hk : k ≤ 32) (hn : n < 32) (x : BitVec k) :
    ((x.setWidth 32 &&& ((1#32 <<< n) - 1#32)).setWidth k).toNat = x.toNat &&& ((1 <<< n) - 1) := by
  have hx : x.toNat % 2 ^ 32 = x.toNat :=
    Nat.mod_eq_of_lt (Nat.lt_of_lt_of_le x.isLt (Nat.pow_le_pow_right (by decide) hk))
  rw [BitVec.toNat_setWidth, BitVec.toNat_and, BitVec.toNat_setWidth, toNat_lowMask hn, hx]
  exact Nat.mod_eq_of_lt (Nat.lt_of_le_of_lt Nat.and_le_left x.isLt)

theorem expectAbstractauto_abs :
    (if m.cfg.abstractautoEnable then m.expectAbstractauto else 0).toNat = m.abs.expectAbstractauto := by
  have hprog : m.cfg.progbufsize.toNat < 32 := m.cfg.progbufsize.isLt
  have hcount : m.cfg.datacount.toNat < 32 := by
    have := m.cfg.datacount.isLt
    omega
  have hhi : (m.ac.abstractauto.extractLsb' 16 16).toNat = m.ac.abstractauto.toNat >>> 16 := by
    have := m.ac.abstractauto.isLt
    rw [BitVec.extractLsb'_toNat, Nat.shiftRight_eq_div_pow]
    exact Nat.mod_eq_of_lt (by omega)
  have hlo : (m.ac.abstractauto.extractLsb' 0 12).toNat = m.ac.abstractauto.toNat &&& 0xFFF :=
    toNat_extractLsb' m.ac.abstractauto 0 12
  have hfold : m.expectAbstractauto.toNat =
      [(16, 16, m.ac.abstractauto.toNat >>> 16 &&& ((1 <<< m.cfg.progbufsize.toNat) - 1)),
        (0, 12, m.ac.abstractauto.toNat &&& 0xFFF &&& ((1 <<< m.cfg.datacount.toNat) - 1))].foldl
          (fun w f => Words.insert f.1 f.2.1 w f.2.2) 0 := by
    unfold expectAbstractauto
    simp (disch := decide) only [Words.toNat_setSlice]
    rw [toNat_maskedSlice (by decide) hprog, toNat_maskedSlice (by decide) hcount, hhi, hlo]
    rfl
  unfold DMPredictor.expectAbstractauto
  show (if m.cfg.abstractautoEnable then m.expectAbstractauto else 0).toNat =
    if !m.cfg.abstractautoEnable then 0 else _
  cases m.cfg.abstractautoEnable with
  | false => rfl
  | true =>
    rw [if_pos rfl, if_neg (by simp)]
    -- the sum of the two slices needs no masking: it is a 32-bit word
    have hmask : m.expectAbstractauto.toNat &&& MASK32 = m.expectAbstractauto.toNat := by
      rw [and_MASK32]
      exact Nat.mod_eq_of_lt m.expectAbstractauto.isLt
    have hcut : ∀ x w y : Nat, x < 2 ^ w → (x &&& y) &&& Words.ones w = x &&& y := by
      intro x w y hx
      rw [Words.and_ones]
      exact Nat.mod_eq_of_lt (Nat.lt_of_le_of_lt Nat.and_le_left hx)
    have hhilt : m.ac.abstractauto.toNat >>> 16 < 2 ^ 16 := by
      rw [← hhi]; exact (m.ac.abstractauto.extractLsb' 16 16).isLt
    have hlolt : m.ac.abstractauto.toNat &&& 0xFFF < 2 ^ 12 := by
      rw [← hlo]; exact (m.ac.abstractauto.extractLsb' 0 12).isLt
    rw [← hmask, hfold, Words.foldl_insert_eq_assemble (by simp)]
    simp only [Words.assemble, List.foldl_cons, List.foldl_nil, Nat.zero_or, hcut _ _ _ hhilt,
      hcut _ _ _ hlolt, Nat.shiftLeft_zero]
    rfl

/-! ## dmcontrol and dmstatus -/

theorem expectDmcontrol_abs : m.expectDmcontrol.toNat = m.abs.expectDmcontrol := by
  have hlo : (m.rc.hartsel.extractLsb' 0 10).toNat = m.rc.hartsel.toNat &&& 0x3FF :=
    toNat_extractLsb' m.rc.hartsel 0 10
  have hhi : (m.rc.hartsel.extractLsb' 10 10).toNat = (m.rc.hartsel.toNat >>> 10) &&& 0x3FF :=
    toNat_extractLsb' m.rc.hartsel 10 10
  unfold expectDmcontrol
  simp (disch := decide) only [Words.toNat_setSlice, Words.toNat_setBit]
  -- the two halves of `hartsel` are inserted in the other order
  rw [hlo, hhi, ← Words.insert_comm (by decide)]
  rfl

theorem predict_dmcontrol (m : DmRefModel) : m.predict DM_ADDR_DMCONTROL = m.expectDmcontrol := by
  have hdata : isDataS DM_ADDR_DMCONTROL = false := by decide
  have hprogbuf : isProgbufS DM_ADDR_DMCONTROL = false := by decide
  rw [predict, hdata, hprogbuf]
  rfl

theorem selectedSignals_abs (hm : m.HartsPresent) :
    m.selectedSignals =
      let any (f : HartState → Bool) := (m.abs.rc.harts[m.abs.rc.hartsel]?).any f
      (any (·.halted), any (·.running), any (·.havereset), any (·.resumeAck),
        m.abs.isNonexistent m.abs.rc.hartsel, any (·.unavail)) := by
  have hget : m.abs.rc.harts[m.abs.rc.hartsel]? =
      (m.rc.harts[m.rc.selectedIndex]?).map HartStateS.abs := List.getElem?_map
  have hnon : m.abs.isNonexistent m.abs.rc.hartsel = decide (m.rc.harts.length ≤ m.rc.selectedIndex) := by
    rw [hm.length]
    rfl
  unfold selectedSignals
  rw [hget, hnon]
  cases hh : m.rc.harts[m.rc.selectedIndex]? with
  | none =>
    rw [List.getElem?_eq_none_iff] at hh
    simp [hh]
  | some h =>
    have hlt : ¬ m.rc.harts.length ≤ m.rc.selectedIndex := by
      have := (List.getElem?_eq_some_iff.mp hh).1
      omega
    have hun : h.abs.unavail = (h.unavailSticky || !h.available) := Bool.or_comm _ _
    simp only [Option.map_some, Option.any_some, hun, hm.exist h (List.mem_of_getElem? hh), hlt,
      decide_false]
    rfl

theorem expectDmstatus_abs (hm : m.HartsPresent) : m.expectDmstatus.toNat = m.abs.expectDmstatus := by
  have hpending : (if m.params.version ≥ VERSION_1_0 then m.rc.ndmreset else false).toNat =
      if DMSTATUS_VERSION_1_0 ≤ m.abs.params.version then m.abs.rc.ndmreset.toNat else 0 := by
    rw [apply_ite Bool.toNat]
    rfl
  have hone : ∀ b : Bool, (!([b].isEmpty) && [b].all id) = b ∧ [b].any id = b := by decide
  unfold expectDmstatus DMPredictor.expectDmstatus DMPredictor.dmstatusValues
  rw [m.selectedSignals_abs hm]
  simp (disch := decide) only [Words.toNat_setSlice, Words.toNat_setBit, hpending,
    DMPredictor.allSelected_eq, DMPredictor.anySelected_eq, RunControl.selectedIndices, List.map_cons,
    List.map_nil, (hone _).1, (hone _).2]
  rfl

/-! ## Loops over harts -/

/-- A loop that sets bits, step by step the same on numbers. -/
theorem toNat_foldl {α : Type} {f : BitVec 32 → α → BitVec 32} {g : Nat → α → Nat} :
    ∀ (l : List α) (w : BitVec 32), (∀ w, ∀ a ∈ l, (f w a).toNat = g w.toNat a) →
      (l.foldl f w).toNat = l.foldl g w.toNat := by
  intro l
  induction l with
  | nil => intro w _; rfl
  | cons a l ih =>
    intro w h
    rw [List.foldl_cons, List.foldl_cons, ← h w a List.mem_cons_self]
    refine ih _ ?_
    intro w b hb
    exact h w b (List.mem_cons_of_mem _ hb)

theorem hartHalted_abs (i : Nat) : m.abs.hartHalted i = m.hartHalted i := by
  unfold DMPredictor.hartHalted hartHalted
  show ((m.rc.harts.map HartStateS.abs)[i]?).any _ = _
  rw [List.getElem?_map]
  cases m.rc.harts[i]? <;> rfl

theorem expectHaltsum0_abs (hm : m.HartsPresent) : m.expectHaltsum0.toNat = m.abs.expectHaltsum0 := by
  have hrange : min (min m.abs.params.numHarts 32) m.abs.rc.harts.length =
      min m.params.numHarts.toNat 32 := by
    show min (min m.params.numHarts.toNat 32) (m.rc.harts.map HartStateS.abs).length = _
    rw [List.length_map, hm.length]
    omega
  unfold expectHaltsum0 DMPredictor.expectHaltsum0
  rw [hrange]
  refine toNat_foldl _ _ fun w i hi => ?_
  rw [List.mem_range] at hi
  rw [hartHalted_abs]
  split
  · exact Words.toNat_setBit_true (by omega) w
  · rfl

theorem expectHaltsum_abs (hm : m.HartsPresent) (n : Nat) :
    (m.expectHaltsum n).toNat = m.abs.expectHaltsum n := by
  have hrange : min m.abs.params.numHarts m.abs.rc.harts.length = m.params.numHarts.toNat := by
    show min m.params.numHarts.toNat (m.rc.harts.map HartStateS.abs).length = _
    rw [List.length_map, hm.length, Nat.min_self]
  unfold expectHaltsum DMPredictor.expectHaltsum
  rw [hrange]
  show (if !m.cfg.haltsumGroupsPresent then 0 else _ : BitVec 32).toNat =
    if !m.cfg.haltsumGroupsPresent then 0 else _
  split
  · rfl
  · refine toNat_foldl _ _ fun w h _ => ?_
    rw [hartHalted_abs]
    show (if !m.hartHalted h then w
      else if n < 3 && (h >>> (5 * n + 5)) != (m.rc.hartsel.toNat >>> (5 * n + 5)) then w else _).toNat =
      if !m.hartHalted h then w.toNat
      else if n < 3 && (h >>> (5 * n + 5)) != (m.rc.hartsel.toNat >>> (5 * n + 5)) then w.toNat else _
    split
    · rfl
    · split
      · rfl
      · have hlt : (h >>> (5 * n)) &&& 31 < 32 := by
          rw [show (31 : Nat) = Words.ones 5 from rfl, Words.and_ones]
          exact Nat.mod_lt _ (by decide)
        exact Words.toNat_setBit_true hlt w

theorem hawindowImplemented_abs (sel : BitVec 15) :
    (m.hawindowImplemented sel).toNat = m.abs.hawindowImplemented sel.toNat := by
  unfold hawindowImplemented DMPredictor.hawindowImplemented
  refine toNat_foldl _ _ fun w h hh => ?_
  rw [List.mem_range'_1] at hh
  have hmin : min m.params.numHarts.toNat (32 * (sel.toNat + 1)) ≤ 32 * (sel.toNat + 1) :=
    Nat.min_le_right _ _
  exact Words.toNat_setBit_true (by omega) w

/-! ## Every address -/

theorem ite_addr {α : Type} (addr k : BitVec 7) (x y : α) :
    (if addr = k then x else y) = if addr.toNat = k.toNat then x else y := by
  simp only [BitVec.toNat_inj]

theorem ite_addr_or {α : Type} (addr k k' : BitVec 7) (x y : α) :
    (if addr = k ∨ addr = k' then x else y) =
      if addr.toNat = k.toNat ∨ addr.toNat = k'.toNat then x else y := by
  simp only [BitVec.toNat_inj]

/-- **The same addresses are claimed.** -/
theorem hasModel_abs (addr : BitVec 7) : m.hasModel addr = m.abs.hasModel addr.toNat := by
  unfold hasModel
  simp only [ite_addr, ite_addr_or, isDataS_eq]
  rfl

theorem predictMask_abs (addr : BitVec 7) :
    (predictMask addr).toNat = DMPredictor.predictMask addr.toNat := by
  unfold predictMask
  simp only [ite_addr, apply_ite BitVec.toNat]
  rfl

theorem toNat_getElem?_getD (l : List (BitVec 32)) (i : Nat) :
    ((l[i]?).getD 0).toNat = ((l.map BitVec.toNat)[i]?).getD 0 := by
  rw [List.getElem?_map]
  cases l[i]? <;> rfl

/-- **The same word is predicted at every address.** -/
theorem predict_abs (hm : m.HartsPresent) (addr : BitVec 7) :
    (m.predict addr).toNat = m.abs.predict addr.toNat := by
  have hwindow : ((m.hawindowQ.get? m.hawindowsel).getD 0).toNat =
      m.abs.hawindow.getD m.abs.hawindowsel 0 := by
    unfold Dict.getD
    show _ = (m.hawindowQ.toNat.get? m.hawindowsel.toNat).getD 0
    rw [Dict.get?_toNat]
    cases m.hawindowQ.get? m.hawindowsel <;> rfl
  have hsel : (0#17 ++ m.hawindowsel : BitVec 32).toNat = m.abs.hawindowsel &&& 0x7FFF := by
    rw [BitVec.toNat_append, show (0x7FFF : Nat) = Words.ones 15 from rfl, Words.and_ones]
    show 0 <<< 15 ||| m.hawindowsel.toNat = m.hawindowsel.toNat % 2 ^ 15
    rw [Nat.mod_eq_of_lt m.hawindowsel.isLt, Nat.zero_shiftLeft, Nat.zero_or]
  have hnext : m.cfg.nextdm.toNat = m.abs.cfg.nextdm &&& MASK32 := by
    rw [and_MASK32]
    exact (Nat.mod_eq_of_lt m.cfg.nextdm.isLt).symm
  have hauto : (if m.cfg.abstractautoEnable = true then m.expectAbstractauto.toNat else
      (0 : BitVec 32).toNat) = m.abs.expectAbstractauto := by
    rw [← apply_ite BitVec.toNat]
    exact m.expectAbstractauto_abs
  have hsbcs : (if m.cfg.sbaEnable = true then m.expectSbcs.toNat else (0 : BitVec 32).toNat) =
      m.abs.expectSbcs := by
    rw [← apply_ite BitVec.toNat]
    exact m.expectSbcs_abs
  unfold predict
  simp only [ite_addr, apply_ite BitVec.toNat, isDataS_eq, isProgbufS_eq, toNat_getElem?_getD,
    expectDmcontrol_abs, expectDmstatus_abs m hm, expectHartinfo_abs, expectAbstractcs_abs,
    expectHaltsum0_abs m hm, expectHaltsum_abs m hm, hwindow, hsel, hnext, hauto, hsbcs]
  rfl

end DmRefModel

end RiscvDbg
