import RiscvDbg.Predictor.Steps

/-!
# The System Bus registers as a debugger uses them

* `SystemBus.access` — the bus half of an access; `run_apply_sb` lifts it to runs of accesses that
  leave `dmcontrol` alone.
* `sba_burst_round_trip` — a burst of writes with `sbautoincrement`, and the burst of reads with
  `sbreadonaddr` and `sbreadondata` that returns it.
* `sbdata0_reads_back_iff` — when `sbdata0` reads back what was written to it.
-/

set_option autoImplicit false

namespace RiscvDbg

/-! ## Bus accesses -/

/-- The bus half of an access other than a write of `dmcontrol`. -/
def SystemBus.access (cfg : DeclaredConfig) (sb : SystemBus) : Dmi → SystemBus
  | .write addr value =>
    if addr = ADDR_SBADDRESS1 then { sb with sbaddress1 := value &&& MASK32 }
    else if addr = ADDR_SBDATA1 then sb.writeSbdata1 (value &&& MASK32)
    else if addr = ADDR_SBCS then sb.writeSbcs cfg (value &&& MASK32)
    else if addr = ADDR_SBADDRESS0 then sb.writeSbaddress0 cfg (value &&& MASK32)
    else if addr = ADDR_SBDATA0 then sb.writeSbdata0 cfg (value &&& MASK32)
    else sb
  | .read addr => if addr = ADDR_SBDATA0 then sb.sbdata0ReadEffects cfg else sb

/-- The access is not a write of `dmcontrol`. -/
def Dmi.SparesDmcontrol (d : Dmi) : Prop := ∀ value, d ≠ .write DMCONTROL.address value

theorem Dmi.spares_write {addr : Nat} (h : addr ≠ DMCONTROL.address) (value : Nat) :
    (Dmi.write addr value).SparesDmcontrol := by
  rintro v heq
  exact h (Dmi.write.inj heq).1

theorem Dmi.spares_read (addr : Nat) : (Dmi.read addr).SparesDmcontrol := by
  intro value heq
  cases heq

namespace DMPredictor

variable {s : DMPredictor}

theorem apply_static (d : Dmi) : SameStatic s (d.apply s) := by
  cases d with
  | write addr value => exact s.onWrite_static addr value
  | read addr => exact s.observeRead_static addr

theorem apply_rc_of_spares {d : Dmi} (hd : d.SparesDmcontrol) : (d.apply s).rc = s.rc := by
  cases d with
  | write addr value => exact s.onWrite_rc_of_ne (fun h => hd value (h ▸ rfl)) value
  | read addr => exact s.observeRead_rc addr

theorem apply_sb {d : Dmi} (hd : d.SparesDmcontrol) : (d.apply s).sb = s.sb.access s.cfg d := by
  cases d with
  | write addr value => exact s.onWrite_sb (fun h => hd value (h ▸ rfl)) value
  | read addr => exact s.observeRead_sb addr

/-- **A run of bus accesses**: the bus registers follow `SystemBus.access`, the rest that decides what is
predicted stays. -/
theorem run_apply_sb {ds : List Dmi} (hds : ∀ d ∈ ds, d.SparesDmcontrol) :
    let t := Runs.run Dmi.apply s ds
    t.sb = Runs.run (SystemBus.access s.cfg) s.sb ds ∧ SameStatic s t ∧ t.rc = s.rc := by
  have hstep : ∀ (t : DMPredictor) sb (d : Dmi), (t.sb = sb ∧ SameStatic s t ∧ t.rc = s.rc) →
      d.SparesDmcontrol →
      (d.apply t).sb = sb.access s.cfg d ∧ SameStatic s (d.apply t) ∧ (d.apply t).rc = s.rc := by
    rintro t sb d ⟨rfl, ⟨hp, hc, hv, hb⟩, hrc⟩ hd
    obtain ⟨hp', hc', hv', hb'⟩ := t.apply_static d
    refine ⟨by rw [apply_sb hd, hc], ⟨hp'.trans hp, hc'.trans hc, hv'.trans hv, hb'.trans hb⟩, ?_⟩
    rw [apply_rc_of_spares hd, hrc]
  exact Runs.run_related hstep ds s s.sb ⟨rfl, ⟨rfl, rfl, rfl, rfl⟩, rfl⟩
    (Runs.Always.of_forall (fun _ _ h => h) ds s hds)

end DMPredictor

/-! ## A burst of writes -/

namespace SystemBus

/-- The two address words as one number. -/
def address (sb : SystemBus) : Nat := sb.sbaddress1 * 2 ^ 32 + sb.sbaddress0

theorem sbaAutoincrement_eq (cfg : DeclaredConfig) (sb : SystemBus) (hinc : sb.sbautoincrement = true)
    (hlt : sb.sbaddress0 < 2 ^ 32) :
    sb.sbaAutoincrement cfg =
      { sb with
        sbaddress0 := (sb.sbaddress0 + 2 ^ sb.sbaccess) % 2 ^ 32
        sbaddress1 :=
          if cfg.sbasize > 32 then (sb.address + 2 ^ sb.sbaccess) / 2 ^ 32 % 2 ^ 32 else sb.sbaddress1 } := by
  have hsum : (sb.sbaddress1 <<< 32 ||| sb.sbaddress0) + 1 <<< sb.sbaccess =
      sb.address + 2 ^ sb.sbaccess := by
    rw [← Nat.shiftLeft_add_eq_or_of_lt hlt, Nat.shiftLeft_eq, Nat.one_shiftLeft, address]
  have hlow : (sb.address + 2 ^ sb.sbaccess) % 2 ^ 32 = (sb.sbaddress0 + 2 ^ sb.sbaccess) % 2 ^ 32 := by
    rw [address, Nat.add_assoc, Nat.mul_add_mod']
  unfold sbaAutoincrement
  simp only [hinc, Bool.not_true, Bool.false_eq_true, if_false, hsum, and_MASK32,
    Nat.shiftRight_eq_div_pow, hlow]

/-- The bus registers after the words `ws` have been written to `sbdata0` one after the other. -/
structure AfterBurst (cfg : DeclaredConfig) (sb₀ : SystemBus) (ws : List (BitVec 32)) (sb : SystemBus) :
    Prop where
  sbaddress0 : sb.sbaddress0 = (sb₀.sbaddress0 + ws.length * 2 ^ sb₀.sbaccess) % 2 ^ 32
  sbaddress1 : sb.sbaddress1 =
    if cfg.sbasize > 32 then (sb₀.address + ws.length * 2 ^ sb₀.sbaccess) / 2 ^ 32 % 2 ^ 32
    else sb₀.sbaddress1
  sbaccess : sb.sbaccess = sb₀.sbaccess
  sbautoincrement : sb.sbautoincrement = true
  words : ∀ i w, ws[i]? = some w →
    sb.shadowMem.get? ((sb₀.sbaddress0 + i * 2 ^ sb₀.sbaccess) % 2 ^ 32) = some w.toNat

variable {cfg : DeclaredConfig} {sb₀ sb : SystemBus} {ws : List (BitVec 32)}

/-- Two words of a burst that fits 32 address bits are stored under different keys. -/
theorem burst_keys_ne {a i n stride : Nat} (hfit : (n + 1) * stride ≤ 2 ^ 32) (hi : i < n)
    (hstride : 0 < stride) : (a + i * stride) % 2 ^ 32 ≠ (a + n * stride) % 2 ^ 32 := by
  intro heq
  have hgap : (a + n * stride - (a + i * stride)) % 2 ^ 32 = 0 :=
    Nat.sub_mod_eq_zero_of_mod_eq heq.symm
  have hlt : i * stride + stride ≤ n * stride := by
    rw [← Nat.succ_mul]
    exact Nat.mul_le_mul_right stride hi
  have hbound : n * stride + stride ≤ 2 ^ 32 := by rw [← Nat.succ_mul]; exact hfit
  rw [Nat.mod_eq_of_lt (by omega)] at hgap
  omega

/-- **One more word.** -/
theorem AfterBurst.concat (h : AfterBurst cfg sb₀ ws sb) (w : BitVec 32)
    (hfit : (ws.length + 1) * 2 ^ sb₀.sbaccess ≤ 2 ^ 32) :
    AfterBurst cfg sb₀ (ws ++ [w]) (sb.writeSbdata0 cfg w.toNat) := by
  have hlt : sb.sbaddress0 < 2 ^ 32 := by rw [h.sbaddress0]; exact Nat.mod_lt _ (by decide)
  have hlen : (ws ++ [w]).length * 2 ^ sb₀.sbaccess =
      ws.length * 2 ^ sb₀.sbaccess + 2 ^ sb₀.sbaccess := by
    rw [List.length_append, List.length_singleton, Nat.succ_mul]
  have heq := sbaAutoincrement_eq cfg { sb with shadowMem := sb.shadowMem.set sb.sbaddress0 w.toNat }
    h.sbautoincrement hlt
  rw [writeSbdata0, heq]
  refine ⟨?_, ?_, h.sbaccess, h.sbautoincrement, ?_⟩
  · show (sb.sbaddress0 + 2 ^ sb.sbaccess) % 2 ^ 32 = _
    rw [h.sbaddress0, h.sbaccess, hlen, Nat.mod_add_mod, Nat.add_assoc]
  · show (if cfg.sbasize > 32 then (sb.address + 2 ^ sb.sbaccess) / 2 ^ 32 % 2 ^ 32 else sb.sbaddress1) = _
    rw [h.sbaddress1, hlen]
    by_cases hwide : cfg.sbasize > 32
    · rw [if_pos hwide, if_pos hwide, address, h.sbaddress0, h.sbaddress1, if_pos hwide, h.sbaccess, address]
      generalize ws.length * 2 ^ sb₀.sbaccess = m
      generalize 2 ^ sb₀.sbaccess = p
      omega
    · rw [if_neg hwide, if_neg hwide, if_neg hwide]
  · intro i v hv
    show (sb.shadowMem.set sb.sbaddress0 w.toNat).get? _ = some v.toNat
    rcases Nat.lt_or_ge i ws.length with hi | hi
    · rw [List.getElem?_append_left hi] at hv
      rw [Dict.get?_set_of_ne, h.words i v hv]
      rw [h.sbaddress0]
      exact burst_keys_ne hfit hi (Nat.two_pow_pos _)
    · rw [List.getElem?_append_right hi] at hv
      obtain ⟨hi', rfl⟩ : i - ws.length = 0 ∧ w = v := by
        rcases hk : i - ws.length with _ | k
        · rw [hk] at hv
          exact ⟨rfl, Option.some.inj hv⟩
        · rw [hk] at hv
          cases hv
      obtain rfl : i = ws.length := by omega
      rw [h.sbaddress0, Dict.get?_set_self]

/-- The writes of a burst. -/
def burst (ws : List (BitVec 32)) : List Dmi := ws.map fun w => .write ADDR_SBDATA0 w.toNat

theorem and_MASK32_toNat (w : BitVec 32) : w.toNat &&& MASK32 = w.toNat := by
  rw [and_MASK32, Nat.mod_eq_of_lt w.isLt]

theorem access_sbdata0 (w : BitVec 32) :
    sb.access cfg (.write ADDR_SBDATA0 w.toNat) = sb.writeSbdata0 cfg w.toNat := by
  show sb.writeSbdata0 cfg (w.toNat &&& MASK32) = _
  rw [and_MASK32_toNat]

/-- **A whole burst.** -/
theorem afterBurst (hinc : sb₀.sbautoincrement = true) (hlow : sb₀.sbaddress0 < 2 ^ 32)
    (hhigh : cfg.sbasize > 32 → sb₀.sbaddress1 < 2 ^ 32)
    (hfit : ws.length * 2 ^ sb₀.sbaccess ≤ 2 ^ 32) :
    AfterBurst cfg sb₀ ws (Runs.run (access cfg) sb₀ (burst ws)) := by
  induction ws using List.reverseRecOn with
  | nil =>
    refine ⟨?_, ?_, rfl, hinc, nofun⟩
    · show sb₀.sbaddress0 = (sb₀.sbaddress0 + 0 * 2 ^ sb₀.sbaccess) % 2 ^ 32
      rw [Nat.zero_mul, Nat.add_zero, Nat.mod_eq_of_lt hlow]
    · by_cases hwide : cfg.sbasize > 32
      · have hh := hhigh hwide
        rw [if_pos hwide]
        show sb₀.sbaddress1 = (sb₀.address + 0 * 2 ^ sb₀.sbaccess) / 2 ^ 32 % 2 ^ 32
        rw [address]
        omega
      · rw [if_neg hwide]
        rfl
  | append_singleton ws w ih =>
    rw [List.length_append, List.length_singleton] at hfit
    have hless : ws.length * 2 ^ sb₀.sbaccess ≤ 2 ^ 32 := by
      rw [Nat.succ_mul] at hfit
      exact Nat.le_trans (Nat.le_add_right _ _) hfit
    rw [burst, List.map_append, List.map_singleton, Runs.run_concat, access_sbdata0]
    exact (ih hless).concat w hfit

/-! ## A burst of reads -/

/-- The bus registers when the word at `key i` is the next one `sbdata0` returns. -/
structure ReadingAt (mem : Dict Nat Nat) (key : Nat → Nat) (i : Nat) (sb : SystemBus) : Prop where
  shadowMem : sb.shadowMem = mem
  sbreadondata : sb.sbreadondata = true
  sbautoincrement : sb.sbautoincrement = true
  sbaddress0 : sb.sbaddress0 = key (i + 1)
  claim : ∀ v, mem.get? (key i) = some v →
    sb.sbdata0PendingValid = true ∧ sb.sbdata0PendingValue = v

/-- A bus read followed by the increment. -/
theorem readingAt_armRead (cfg : DeclaredConfig) {mem : Dict Nat Nat} {start i : Nat}
    (hmem : sb.shadowMem = mem) (hdata : sb.sbreadondata = true) (hinc : sb.sbautoincrement = true)
    (haddr : sb.sbaddress0 = (start + i * 2 ^ sb.sbaccess) % 2 ^ 32) :
    ReadingAt mem (fun j => (start + j * 2 ^ sb.sbaccess) % 2 ^ 32) i
      ((sb.sbaArmRead sb.sbaddress0).sbaAutoincrement cfg) ∧
      ((sb.sbaArmRead sb.sbaddress0).sbaAutoincrement cfg).sbaccess = sb.sbaccess := by
  have hlt : sb.sbaddress0 < 2 ^ 32 := by rw [haddr]; exact Nat.mod_lt _ (by decide)
  have hnext : (sb.sbaddress0 + 2 ^ sb.sbaccess) % 2 ^ 32 = (start + (i + 1) * 2 ^ sb.sbaccess) % 2 ^ 32 := by
    rw [haddr, Nat.mod_add_mod, Nat.succ_mul, Nat.add_assoc]
  unfold sbaArmRead
  cases hget : sb.shadowMem.get? sb.sbaddress0 with
  | none =>
    have heq := sbaAutoincrement_eq cfg { sb with sbdata1Known := false, sbdata0PendingValid := false } hinc hlt
    dsimp only
    rw [heq]
    refine ⟨⟨hmem, hdata, hinc, hnext, ?_⟩, rfl⟩
    intro v hv
    rw [← haddr, ← hmem, hget] at hv
    cases hv
  | some u =>
    have heq := sbaAutoincrement_eq cfg
      { sb with sbdata1Known := false, sbdata0PendingValid := true, sbdata0PendingValue := u } hinc hlt
    dsimp only
    rw [heq]
    refine ⟨⟨hmem, hdata, hinc, hnext, ?_⟩, rfl⟩
    intro v hv
    rw [← haddr, ← hmem, hget] at hv
    exact ⟨rfl, Option.some.inj hv⟩

end SystemBus

namespace DMPredictor

/-- `n` reads of `sbdata0`: whether each has a prediction, and which. -/
def readSbdata0 : Nat → DMPredictor → List (Bool × Nat)
  | 0, _ => []
  | n + 1, s =>
    (s.hasModel ADDR_SBDATA0, s.predict ADDR_SBDATA0) :: readSbdata0 n (s.observeRead ADDR_SBDATA0)

theorem hasModel_sbdata0 {s : DMPredictor} (hcfg : s.cfgValid = true) (hactive : s.rc.dmactive = true)
    (hsba : s.cfg.sbaEnable = true) : s.hasModel ADDR_SBDATA0 = s.sb.sbdata0PendingValid := by
  have hmodel : s.hasModel ADDR_SBDATA0 =
      if !s.cfgValid then false else if !s.rc.dmactive then false
      else !s.cfg.sbaEnable || s.sb.sbdata0PendingValid := rfl
  rw [hmodel, hcfg, hactive, hsba]
  rfl

theorem predict_sbdata0_enabled {s : DMPredictor} (hsba : s.cfg.sbaEnable = true) :
    s.predict ADDR_SBDATA0 = s.sb.sbdata0PendingValue := if_pos hsba

open SystemBus in
/-- **The reads of a burst**, from the word at place `i` on. -/
theorem readSbdata0_eq {mem : Dict Nat Nat} {start k : Nat} :
    ∀ (ws : List (BitVec 32)) (i : Nat) (s : DMPredictor), s.cfgValid = true → s.rc.dmactive = true →
      s.cfg.sbaEnable = true → s.sb.sbaccess = k →
      ReadingAt mem (fun j => (start + j * 2 ^ k) % 2 ^ 32) i s.sb →
      (∀ j w, ws[j]? = some w → mem.get? ((start + (i + j) * 2 ^ k) % 2 ^ 32) = some w.toNat) →
      readSbdata0 ws.length s = ws.map fun w => (true, w.toNat) := by
  intro ws
  induction ws with
  | nil => intro i s _ _ _ _ _ _; rfl
  | cons w ws ih =>
    intro i s hcfg hactive hsba hacc hread hwords
    obtain ⟨hvalid, hvalue⟩ := hread.claim w.toNat (hwords 0 w rfl)
    rw [List.length_cons, readSbdata0, hasModel_sbdata0 hcfg hactive hsba, predict_sbdata0_enabled hsba,
      hvalid, hvalue, List.map_cons]
    obtain ⟨-, hstatic, hvalid', -⟩ := s.observeRead_static ADDR_SBDATA0
    have hsb : (s.observeRead ADDR_SBDATA0).sb = (s.sb.sbaArmRead s.sb.sbaddress0).sbaAutoincrement s.cfg := by
      rw [observeRead_sb, if_pos rfl, sbdata0ReadEffects, if_pos hread.sbreadondata]
    have haddr : s.sb.sbaddress0 = (start + (i + 1) * 2 ^ s.sb.sbaccess) % 2 ^ 32 := by
      rw [hacc]
      exact hread.sbaddress0
    have hnext := readingAt_armRead s.cfg hread.shadowMem hread.sbreadondata hread.sbautoincrement haddr
    rw [hacc] at hnext
    congr 1
    refine ih (i + 1) _ (by rw [hvalid', hcfg]) (by rw [observeRead_rc, hactive]) (by rw [hstatic, hsba])
      (by rw [hsb]; exact hnext.2) (by rw [hsb]; exact hnext.1) ?_
    intro j v hv
    have hplace : i + 1 + j = i + (j + 1) := by omega
    rw [hplace]
    exact hwords (j + 1) v hv

end DMPredictor

/-! ## The round trip -/

/-- The writes that set the bus address; `sbaddress1` is there on wide buses only. -/
def setAddress (cfg : DeclaredConfig) (hi lo : BitVec 32) : List Dmi :=
  (if cfg.sbasize > 32 then [.write ADDR_SBADDRESS1 hi.toNat] else []) ++ [.write ADDR_SBADDRESS0 lo.toNat]

namespace SystemBus

variable {cfg : DeclaredConfig} {sb : SystemBus}

/-- The registers with a bus address in them. -/
def atAddress (cfg : DeclaredConfig) (sb : SystemBus) (hi lo : BitVec 32) : SystemBus :=
  { sb with
    sbaddress0 := lo.toNat
    sbaddress1 := if cfg.sbasize > 32 then hi.toNat else sb.sbaddress1 }

theorem run_setAddress (hi lo : BitVec 32) :
    Runs.run (access cfg) sb (setAddress cfg hi lo) =
      let sb' := sb.atAddress cfg hi lo
      if sb.sbcsReadOnAddrArmed then (sb'.sbaArmRead sb'.sbaddress0).sbaAutoincrement cfg else sb' := by
  have hlast : ∀ sb : SystemBus, sb.access cfg (.write ADDR_SBADDRESS0 lo.toNat) =
      sb.writeSbaddress0 cfg lo.toNat := by
    intro sb
    show sb.writeSbaddress0 cfg (lo.toNat &&& MASK32) = _
    rw [and_MASK32_toNat]
  rw [setAddress, Runs.run_append, Runs.run_cons, Runs.run_nil, hlast, atAddress]
  by_cases hwide : cfg.sbasize > 32
  · rw [if_pos hwide, Runs.run_cons, Runs.run_nil]
    have hfirst : sb.access cfg (.write ADDR_SBADDRESS1 hi.toNat) = { sb with sbaddress1 := hi.toNat } := by
      show { sb with sbaddress1 := hi.toNat &&& MASK32 } = _
      rw [and_MASK32_toNat]
    rw [hfirst, writeSbaddress0]
    simp only [if_pos hwide]
  · rw [if_neg hwide, Runs.run_nil, writeSbaddress0]
    simp only [if_neg hwide]

theorem access_sbcs (word : BitVec 32) :
    sb.access cfg (.write ADDR_SBCS word.toNat) = sb.writeSbcs cfg word.toNat := by
  show sb.writeSbcs cfg (word.toNat &&& MASK32) = _
  rw [and_MASK32_toNat]

end SystemBus

theorem spares_setAddress (cfg : DeclaredConfig) (hi lo : BitVec 32) :
    ∀ d ∈ setAddress cfg hi lo, d.SparesDmcontrol := by
  intro d hd
  unfold setAddress at hd
  rcases List.mem_append.mp hd with hd | hd
  · split_ifs at hd
    · rw [List.mem_singleton.mp hd]
      exact Dmi.spares_write (by decide) hi.toNat
    · cases hd
  · rw [List.mem_singleton.mp hd]
    exact Dmi.spares_write (by decide) lo.toNat

theorem spares_burst (ws : List (BitVec 32)) : ∀ d ∈ SystemBus.burst ws, d.SparesDmcontrol := by
  intro d hd
  obtain ⟨w, -, rfl⟩ := List.mem_map.mp hd
  exact Dmi.spares_write (by decide) w.toNat

namespace DMPredictor

open SystemBus

variable (s : DMPredictor)

/-- A write of `sbcs`. -/
theorem onWrite_sbcs (word : BitVec 32) :
    (s.onWrite ADDR_SBCS word.toNat).sb = s.sb.writeSbcs s.cfg word.toNat := by
  have hspares : (Dmi.write ADDR_SBCS word.toNat).SparesDmcontrol := Dmi.spares_write (by decide) _
  have heq := apply_sb (s := s) hspares
  rwa [access_sbcs] at heq

/-- The writes of a burst, from the write of `sbcs` on. -/
theorem run_burst (sbcs hi lo : BitVec 32) (ws : List (BitVec 32)) (hinc : sbcs.getLsbD 16 = true)
    (hoff : sbcs.getLsbD 20 = false)
    (hfit : ws.length * 2 ^ (s.onWrite ADDR_SBCS sbcs.toNat).sb.sbaccess ≤ 2 ^ 32) :
    let t := Runs.run Dmi.apply s (.write ADDR_SBCS sbcs.toNat :: (setAddress s.cfg hi lo ++ burst ws))
    AfterBurst s.cfg ((s.sb.writeSbcs s.cfg sbcs.toNat).atAddress s.cfg hi lo) ws t.sb ∧
      SameStatic s t ∧ t.rc = s.rc := by
  have hspares : ∀ d ∈ (Dmi.write ADDR_SBCS sbcs.toNat :: (setAddress s.cfg hi lo ++ burst ws)),
      d.SparesDmcontrol := by
    refine List.forall_mem_cons.mpr ⟨Dmi.spares_write (by decide) _, ?_⟩
    exact List.forall_mem_append.mpr ⟨spares_setAddress s.cfg hi lo, spares_burst ws⟩
  obtain ⟨hsb, hrest⟩ := run_apply_sb (s := s) hspares
  refine ⟨?_, hrest⟩
  have hunarmed : (s.sb.writeSbcs s.cfg sbcs.toNat).sbcsReadOnAddrArmed = false := by
    show sbcs.toNat.testBit 20 = false
    rw [BitVec.testBit_toNat, hoff]
  rw [onWrite_sbcs] at hfit
  rw [hsb, Runs.run_cons, access_sbcs, Runs.run_append, run_setAddress]
  simp only [hunarmed, Bool.false_eq_true, if_false]
  refine afterBurst ?_ lo.isLt (fun hwide => ?_) hfit
  · show sbcs.toNat.testBit 16 = true
    rw [BitVec.testBit_toNat, hinc]
  · show (if s.cfg.sbasize > 32 then hi.toNat else _) < 2 ^ 32
    rw [if_pos hwide]
    exact hi.isLt

/-- The reads of a burst, from the write of `sbcs` on, of words that the shadow holds. -/
theorem run_readBack (hcfg : s.cfgValid = true) (hactive : s.rc.dmactive = true)
    (hsba : s.cfg.sbaEnable = true) (sbcs hi lo : BitVec 32) (ws : List (BitVec 32))
    (hon : sbcs.getLsbD 20 = true ∧ sbcs.getLsbD 16 = true ∧ sbcs.getLsbD 15 = true)
    (hwords : ∀ i w, ws[i]? = some w →
      s.sb.shadowMem.get? ((lo.toNat + i * 2 ^ (s.onWrite ADDR_SBCS sbcs.toNat).sb.sbaccess) % 2 ^ 32) =
        some w.toNat) :
    let u := Runs.run Dmi.apply s (.write ADDR_SBCS sbcs.toNat :: setAddress s.cfg hi lo)
    u.readSbdata0 ws.length = ws.map fun w => (true, w.toNat) := by
  have hspares : ∀ d ∈ (Dmi.write ADDR_SBCS sbcs.toNat :: setAddress s.cfg hi lo), d.SparesDmcontrol :=
    List.forall_mem_cons.mpr ⟨Dmi.spares_write (by decide) _, spares_setAddress s.cfg hi lo⟩
  intro u
  obtain ⟨hsb, ⟨-, hucfg, huvalid, -⟩, hurc⟩ := run_apply_sb (s := s) hspares
  rw [onWrite_sbcs] at hwords
  set sb₀ := (s.sb.writeSbcs s.cfg sbcs.toNat).atAddress s.cfg hi lo with hsb₀
  have harmed : u.sb = (sb₀.sbaArmRead sb₀.sbaddress0).sbaAutoincrement s.cfg := by
    have hon' : (s.sb.writeSbcs s.cfg sbcs.toNat).sbcsReadOnAddrArmed = true := by
      show sbcs.toNat.testBit 20 = true
      rw [BitVec.testBit_toNat, hon.1]
    rw [hsb, Runs.run_cons, access_sbcs, run_setAddress]
    simp only [hon', if_true]
    rfl
  have hdata : sb₀.sbreadondata = true := by
    show sbcs.toNat.testBit 15 = true
    rw [BitVec.testBit_toNat, hon.2.2]
  have hinc : sb₀.sbautoincrement = true := by
    show sbcs.toNat.testBit 16 = true
    rw [BitVec.testBit_toNat, hon.2.1]
  have hstart : sb₀.sbaddress0 = (lo.toNat + 0 * 2 ^ sb₀.sbaccess) % 2 ^ 32 := by
    rw [Nat.zero_mul, Nat.add_zero, Nat.mod_eq_of_lt lo.isLt]
    rfl
  have hfirst := readingAt_armRead s.cfg rfl hdata hinc hstart
  rw [← harmed] at hfirst
  refine readSbdata0_eq ws 0 u (huvalid.trans hcfg) (hurc ▸ hactive) (hucfg ▸ hsba) hfirst.2 hfirst.1 ?_
  intro j w hw
  rw [Nat.zero_add]
  exact hwords j w hw

end DMPredictor

open SystemBus in
/-- **A burst and back.**  In any active state of a model with a system bus: set `sbautoincrement`
without `sbreadonaddr`, set the address and write `ws` to `sbdata0`.  The address has advanced by the
bytes written, across both words on a wide bus and in the low word otherwise.  Set `sbreadonaddr`,
`sbreadondata` and `sbautoincrement` with the same `sbaccess`, set the address again and read `sbdata0`
once for each word: every read has a prediction, and they are `ws`. -/
theorem sba_burst_round_trip (s : DMPredictor) (hcfg : s.cfgValid = true) (hactive : s.rc.dmactive = true)
    (hsba : s.cfg.sbaEnable = true) (sbcs sbcs' hi lo : BitVec 32) (ws : List (BitVec 32))
    (hinc : sbcs.getLsbD 16 = true) (hoff : sbcs.getLsbD 20 = false)
    (hon : sbcs'.getLsbD 20 = true ∧ sbcs'.getLsbD 16 = true ∧ sbcs'.getLsbD 15 = true)
    (hsame : (s.onWrite ADDR_SBCS sbcs'.toNat).sb.sbaccess = (s.onWrite ADDR_SBCS sbcs.toNat).sb.sbaccess)
    (hfit : ws.length * 2 ^ (s.onWrite ADDR_SBCS sbcs.toNat).sb.sbaccess ≤ 2 ^ 32) :
    let k := (s.onWrite ADDR_SBCS sbcs.toNat).sb.sbaccess
    let t := Runs.run Dmi.apply s (.write ADDR_SBCS sbcs.toNat :: (setAddress s.cfg hi lo ++ burst ws))
    let u := Runs.run Dmi.apply t (.write ADDR_SBCS sbcs'.toNat :: setAddress s.cfg hi lo)
    (if s.cfg.sbasize > 32 then
      t.sb.address = (hi.toNat * 2 ^ 32 + lo.toNat + ws.length * 2 ^ k) % 2 ^ 64
    else
      t.sb.sbaddress0 = (lo.toNat + ws.length * 2 ^ k) % 2 ^ 32 ∧ t.sb.sbaddress1 = s.sb.sbaddress1) ∧
    u.readSbdata0 ws.length = ws.map fun w => (true, w.toNat) := by
  intro k t u
  obtain ⟨hburst, ⟨-, htcfg, htvalid, -⟩, htrc⟩ := s.run_burst sbcs hi lo ws hinc hoff hfit
  have hk : k = ((s.sb.writeSbcs s.cfg sbcs.toNat).atAddress s.cfg hi lo).sbaccess := by
    show (s.onWrite ADDR_SBCS sbcs.toNat).sb.sbaccess = _
    rw [s.onWrite_sbcs]
    rfl
  constructor
  · have haddr0 : t.sb.sbaddress0 = (lo.toNat + ws.length * 2 ^ k) % 2 ^ 32 := by
      rw [hk]
      exact hburst.sbaddress0
    have haddr1 := hburst.sbaddress1
    rw [← hk] at haddr1
    by_cases hwide : s.cfg.sbasize > 32
    · rw [if_pos hwide] at haddr1 ⊢
      rw [address, atAddress, if_pos hwide] at haddr1
      rw [address, haddr0]
      generalize ws.length * 2 ^ k = m at haddr1 ⊢
      change t.sb.sbaddress1 = (hi.toNat * 2 ^ 32 + lo.toNat + m) / 2 ^ 32 % 2 ^ 32 at haddr1
      omega
    · rw [if_neg hwide] at haddr1 ⊢
      rw [atAddress, if_neg hwide] at haddr1
      exact ⟨haddr0, haddr1⟩
  · -- the second write of `sbcs` puts the same `sbaccess` in force as the first
    have hk' : (t.onWrite ADDR_SBCS sbcs'.toNat).sb.sbaccess = k := by
      have hacc : t.sb.sbaccess = k := by
        rw [hk]
        exact hburst.sbaccess
      have hforce : (s.onWrite ADDR_SBCS sbcs'.toNat).sb.sbaccess =
          if s.cfg.sbaccessWritable then (sbcs'.toNat >>> 17) &&& 0x7 else s.sb.sbaccess := by
        rw [s.onWrite_sbcs]
        rfl
      rw [t.onWrite_sbcs]
      show (if t.cfg.sbaccessWritable then (sbcs'.toNat >>> 17) &&& 0x7 else t.sb.sbaccess) = k
      rw [htcfg, hacc]
      split_ifs with hwritable
      · rw [if_pos hwritable] at hforce
        rw [← hforce, hsame]
      · rfl
    have hread := t.run_readBack (htvalid.trans hcfg) (htrc ▸ hactive) (htcfg ▸ hsba) sbcs' hi lo ws hon ?_
    · rw [htcfg] at hread
      exact hread
    · intro i w hw
      rw [hk', hk]
      exact hburst.words i w hw

/-- Two words at the top of a 32-bit bus: the second one goes to address 0. -/
theorem sba_burst_round_trip_wraps :
    let c : DeclaredConfig := { sbaEnable := true, sbasize := 32, sbaccessWritable := true }
    let s := (DMPredictor.declared c).onWrite DMCONTROL.address 1
    let ws : List (BitVec 32) := [0x11#32, 0x22#32]
    let t := Runs.run Dmi.apply s
      (.write ADDR_SBCS 0x50000 :: (setAddress c 0#32 0xFFFFFFFC#32 ++ SystemBus.burst ws))
    let u := Runs.run Dmi.apply t (.write ADDR_SBCS 0x158000 :: setAddress c 0#32 0xFFFFFFFC#32)
    t.sb.sbaddress0 = 4 ∧ u.readSbdata0 2 = [(true, 0x11), (true, 0x22)] := by
  intro c s ws t u
  obtain ⟨haddr, hread⟩ := sba_burst_round_trip s rfl rfl rfl 0x50000#32 0x158000#32 0#32 0xFFFFFFFC#32 ws
    (by decide) (by decide) (by decide) rfl (by decide)
  exact ⟨haddr.1.trans (by decide), hread⟩

/-! ## Reading `sbdata0` back -/

/-- The access starts a bus read. -/
def SystemBus.startsRead (sb : SystemBus) : Dmi → Bool
  | .write addr _ => addr == ADDR_SBADDRESS0 && sb.sbcsReadOnAddrArmed
  | .read addr => addr == ADDR_SBDATA0 && sb.sbreadondata

/-- The input starts a bus read. -/
def DMPredictor.startsBusRead (s : DMPredictor) : Input → Bool
  | .onWrite addr value => s.sb.startsRead (.write addr value)
  | .observeRead addr => s.sb.startsRead (.read addr)
  | .observeSbdata0Read => s.sb.startsRead (.read ADDR_SBDATA0)
  | _ => false

/-- The input writes `sbdata0`. -/
def Input.writesSbdata0 : Input → Bool
  | .onWrite addr _ => addr == ADDR_SBDATA0
  | _ => false

/-- The input resets the DM. -/
def Input.resetsModule : Input → Bool
  | .setConfig _ | .resetDm _ => true
  | .onWrite addr value => addr == DMCONTROL.address && !value.testBit 0
  | _ => false

namespace DMPredictor

/-- The input neither starts a bus read nor writes `sbdata0` nor resets the DM. -/
def LeavesSbdata0 (s : DMPredictor) (i : Input) : Prop :=
  s.startsBusRead i = false ∧ i.writesSbdata0 = false ∧ i.resetsModule = false

/-- After a write of `v` to `sbdata0`, and for as long as nothing else is put there, a read of `sbdata0`
has no prediction or is predicted to return `v`. -/
def Sbdata0ReadsBack (s : DMPredictor) (v : BitVec 32) : Prop :=
  ∀ is, Runs.Always step LeavesSbdata0 (s.onWrite ADDR_SBDATA0 v.toNat) is →
    let t := (s.onWrite ADDR_SBDATA0 v.toNat).run is
    t.hasModel ADDR_SBDATA0 = false ∨ t.predict ADDR_SBDATA0 = v.toNat

/-- What a read of `sbdata0` depends on. -/
def sbdata0View (s : DMPredictor) : (Bool × Bool × Bool) × Bool × Nat :=
  ((s.cfg.sbaEnable, s.cfgValid, s.rc.dmactive), s.sb.sbdata0PendingValid, s.sb.sbdata0PendingValue)

variable {s : DMPredictor}

theorem sbaAutoincrement_pending (cfg : DeclaredConfig) (sb : SystemBus) :
    (sb.sbaAutoincrement cfg).sbdata0PendingValid = sb.sbdata0PendingValid ∧
      (sb.sbaAutoincrement cfg).sbdata0PendingValue = sb.sbdata0PendingValue := by
  unfold SystemBus.sbaAutoincrement
  split <;> exact ⟨rfl, rfl⟩

/-- No access changes what `sbdata0` returns but one that starts a bus read. -/
theorem access_pending (cfg : DeclaredConfig) {sb : SystemBus} {d : Dmi} (hd : sb.startsRead d = false) :
    (sb.access cfg d).sbdata0PendingValid = sb.sbdata0PendingValid ∧
      (sb.access cfg d).sbdata0PendingValue = sb.sbdata0PendingValue := by
  cases d with
  | write addr value =>
    simp only [SystemBus.access]
    split_ifs with h₁ h₂ h₃ h₄ h₅
    · exact ⟨rfl, rfl⟩
    · exact ⟨rfl, rfl⟩
    · exact ⟨rfl, rfl⟩
    · have hoff : sb.sbcsReadOnAddrArmed = false := by simpa [SystemBus.startsRead, h₄] using hd
      simp only [SystemBus.writeSbaddress0, hoff, Bool.false_eq_true, if_false, and_self]
    · exact sbaAutoincrement_pending cfg _
    · exact ⟨rfl, rfl⟩
  | read addr =>
    simp only [SystemBus.access]
    split_ifs with h
    · have hoff : sb.sbreadondata = false := by simpa [SystemBus.startsRead, h] using hd
      simp only [SystemBus.sbdata0ReadEffects, hoff, Bool.false_eq_true, if_false, and_self]
    · exact ⟨rfl, rfl⟩

/-- An access that spares `dmcontrol` and starts no bus read. -/
theorem apply_sbdata0View {d : Dmi} (hspares : d.SparesDmcontrol) (hd : s.sb.startsRead d = false) :
    (d.apply s).sbdata0View = s.sbdata0View := by
  obtain ⟨-, hcfg, hvalid, -⟩ := s.apply_static d
  obtain ⟨h₁, h₂⟩ := access_pending s.cfg hd
  unfold sbdata0View
  rw [apply_sb hspares, hcfg, hvalid, apply_rc_of_spares hspares, h₁, h₂]

/-- **One step.** -/
theorem step_sbdata0View (hactive : s.rc.dmactive = true) {i : Input} (hi : s.LeavesSbdata0 i) :
    (s.step i).sbdata0View = s.sbdata0View := by
  obtain ⟨hread, -, hreset⟩ := hi
  cases i with
  | setConfig c => cases hreset
  | resetDm powerOn => cases hreset
  | setObservedCmdbusy busy => rfl
  | onWrite addr value =>
    by_cases hdm : addr = DMCONTROL.address
    · have hbit : value.testBit 0 = true := by simpa [Input.resetsModule, hdm] using hreset
      rw [step, hdm, onWrite_dmcontrol, writeDmcontrol_active s hbit, RunControl.writeActive_fst]
      unfold sbdata0View
      rw [hactive]
    · exact apply_sbdata0View (Dmi.spares_write hdm value) hread
  | observeRead addr => exact apply_sbdata0View (Dmi.spares_read addr) hread
  | observeSbdata0Read =>
    have hoff : s.sb.sbreadondata = false := hread
    rw [step, observeSbdata0Read, SystemBus.sbdata0ReadEffects, hoff]
    rfl
  | syncObservedHartSignals w => rfl

/-- **A run.** -/
theorem run_sbdata0View {is : List Input} (hactive : s.rc.dmactive = true)
    (his : Runs.Always step LeavesSbdata0 s is) : (s.run is).sbdata0View = s.sbdata0View := by
  have hstep : ∀ (t : DMPredictor) (i : Input), t.sbdata0View = s.sbdata0View → t.LeavesSbdata0 i →
      (t.step i).sbdata0View = s.sbdata0View := by
    intro t i ht hi
    have htactive : t.rc.dmactive = true := by
      have hview := congrArg (fun v => v.1.2.2) ht
      exact hview.trans hactive
    rw [step_sbdata0View htactive hi, ht]
  exact Runs.run_invariant hstep is s rfl his

/-- The write itself leaves the slot as it was. -/
theorem onWrite_sbdata0View (value : Nat) : (s.onWrite ADDR_SBDATA0 value).sbdata0View = s.sbdata0View :=
  apply_sbdata0View (Dmi.spares_write (by decide) value) rfl

end DMPredictor

open DMPredictor in
/-- **When `sbdata0` reads back.**  In any active state of a model with a system bus, what is written to
`sbdata0` is what it is predicted to return, until something else is put there, exactly if the slot that
holds the prediction was invalid or held this value before. -/
theorem sbdata0_reads_back_iff (s : DMPredictor) (hcfg : s.cfgValid = true) (hactive : s.rc.dmactive = true)
    (hsba : s.cfg.sbaEnable = true) (v : BitVec 32) :
    s.Sbdata0ReadsBack v ↔ s.sb.sbdata0PendingValid = false ∨ s.sb.sbdata0PendingValue = v.toNat := by
  have hrun : ∀ is, Runs.Always step LeavesSbdata0 (s.onWrite ADDR_SBDATA0 v.toNat) is →
      let t := (s.onWrite ADDR_SBDATA0 v.toNat).run is
      t.hasModel ADDR_SBDATA0 = s.sb.sbdata0PendingValid ∧
        t.predict ADDR_SBDATA0 = s.sb.sbdata0PendingValue := by
    intro is his t
    have hwritten : (s.onWrite ADDR_SBDATA0 v.toNat).rc.dmactive = true := by
      rw [s.onWrite_rc_of_ne (by decide)]
      exact hactive
    have hview : t.sbdata0View = s.sbdata0View := (run_sbdata0View hwritten his).trans (onWrite_sbdata0View _)
    simp only [sbdata0View, Prod.mk.injEq] at hview
    obtain ⟨⟨hcfg', hvalid', hactive'⟩, hvalid, hvalue⟩ := hview
    rw [hasModel_sbdata0 (hvalid'.trans hcfg) (hactive'.trans hactive) (hcfg'.trans hsba),
      predict_sbdata0_enabled (hcfg'.trans hsba)]
    exact ⟨hvalid, hvalue⟩
  constructor
  · intro hback
    obtain ⟨hmodel, hpredict⟩ := hrun [] trivial
    rw [← hmodel, ← hpredict]
    exact hback [] trivial
  · intro hcond is his
    obtain ⟨hmodel, hpredict⟩ := hrun is his
    simp only [hmodel, hpredict]
    exact hcond

/-- After 7 was written to address 0x100 and read from there again, 7 reads back and 5 does not. -/
theorem sbdata0_reads_back_iff_bus_read :
    let s := (DMPredictor.declared { sbaEnable := true }).run
      [.onWrite DMCONTROL.address 1, .onWrite ADDR_SBADDRESS0 0x100, .onWrite ADDR_SBDATA0 7,
        .onWrite ADDR_SBCS 0x100000, .onWrite ADDR_SBADDRESS0 0x100]
    s.Sbdata0ReadsBack 7#32 ∧ ¬ s.Sbdata0ReadsBack 5#32 := by
  intro s
  have hslot : s.sb.sbdata0PendingValid = true ∧ s.sb.sbdata0PendingValue = 7 := by decide
  refine ⟨(sbdata0_reads_back_iff s rfl rfl rfl 7#32).mpr (.inr hslot.2), fun hback => ?_⟩
  rcases (sbdata0_reads_back_iff s rfl rfl rfl 5#32).mp hback with hinvalid | hvalue
  · exact absurd (hinvalid.symm.trans hslot.1) (by decide)
  · exact absurd (hvalue.symm.trans hslot.2) (by decide)

/-- After a reset, 5 is written to `sbdata0`: the model predicts that 0 is read. -/
theorem sbdata0_predicts_stale :
    let s := (DMPredictor.declared { sbaEnable := true }).onWrite DMCONTROL.address 1
    let t := s.onWrite ADDR_SBDATA0 5
    s.rc.dmactive = true ∧ t.hasModel ADDR_SBDATA0 = true ∧ t.predict ADDR_SBDATA0 = 0 ∧
      ¬ s.Sbdata0ReadsBack 5#32 := by
  intro s t
  refine ⟨rfl, rfl, rfl, fun hback => ?_⟩
  rcases hback [] trivial with hmodel | hpredict
  · exact absurd hmodel (by decide)
  · exact absurd hpredict (by decide)

end RiscvDbg
