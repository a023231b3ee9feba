import RiscvDbg.Lib.ByteStore
import RiscvDbg.Predictor.Steps

/-!
# Soundness of the System Bus Access shadow

The predictor's claims about `sbdata0` are compared with a machine that has a byte-addressed memory.

* `BusMachine` — the memory, the `sb*` registers with `sbdata` as bytes, and a log of the bus writes
  so far, which no operation reads.
* `BusMachine.Current` — the condition under which the two agree.  The shadow is keyed by
  `sbaddress0` alone and forgets widths: the last bus write under that key must have been at the same
  full address and at least as wide, and no bus write since may have touched the bytes read.
* `FollowsBus` — the invariant; `FollowsBus.busRead` and `FollowsBus.busWrite` are its steps.
* `bus_shadow_sound` — whole runs.
-/

set_option autoImplicit false

namespace RiscvDbg

open ByteStore

/-! ## The reference machine -/

/-- Byte `k` of a word. -/
def wordByte (word k : Nat) : Nat := word / 2 ^ (8 * k) % 256

/-- One bus write: the `sbaddress0` and `sbdata0` it was made with, and the bytes it stored. -/
structure BusWrite where
  key : Nat
  word : Nat
  range : Range

/-- Memory and System Bus registers. -/
structure BusMachine where
  sbreadonaddr : Bool
  sbaccess : Nat
  sbautoincrement : Bool
  sbreadondata : Bool
  sbaddress0 : Nat
  sbaddress1 : Nat
  /-- The bytes of `sbdata`, lowest first. -/
  sbdata : Nat → Nat
  mem : Nat → Nat
  /-- The bus writes so far, newest first. -/
  log : List BusWrite
  /-- The number of bytes of the last bus access, if it was a read. -/
  lastRead : Option Nat

namespace BusMachine

/-- After a DM reset, with any memory content. -/
def init (c : DeclaredConfig) (mem : Nat → Nat) : BusMachine where
  sbreadonaddr := false
  sbaccess := c.sbaccessReset
  sbautoincrement := false
  sbreadondata := false
  sbaddress0 := 0
  sbaddress1 := 0
  sbdata := fun _ => 0
  mem := mem
  log := []
  lastRead := none

/-- The full address; `sbaddress1` is ignored when addresses have at most 32 bits. -/
def address (c : DeclaredConfig) (m : BusMachine) : Nat :=
  if c.sbasize > 32 then m.sbaddress1 * 2 ^ 32 + m.sbaddress0 else m.sbaddress0

def autoincrement (c : DeclaredConfig) (m : BusMachine) : BusMachine :=
  if !m.sbautoincrement then m
  else
    let a := m.address c + 2 ^ m.sbaccess
    { m with
      sbaddress0 := a % 2 ^ 32
      sbaddress1 := if c.sbasize > 32 then a / 2 ^ 32 % 2 ^ 32 else m.sbaddress1 }

/-- A bus read. -/
def busRead (c : DeclaredConfig) (m : BusMachine) : BusMachine :=
  autoincrement c
    { m with
      sbdata := fun k => if k < 2 ^ m.sbaccess then m.mem (m.address c + k) else m.sbdata k
      lastRead := some (2 ^ m.sbaccess) }

/-- A bus write of the low bytes of `sbdata`. -/
def busWrite (c : DeclaredConfig) (m : BusMachine) (word : Nat) : BusMachine :=
  let r : Range := ⟨m.address c, 2 ^ m.sbaccess, m.sbdata⟩
  autoincrement c
    { m with mem := r.store m.mem, log := ⟨m.sbaddress0, word, r⟩ :: m.log, lastRead := none }

/-- `word` in the four bytes of `sbdata` from byte `4 * i` on. -/
def setWord (m : BusMachine) (i word : Nat) : BusMachine :=
  { m with
    sbdata := fun k => if 4 * i ≤ k ∧ k < 4 * i + 4 then wordByte word (k - 4 * i) else m.sbdata k }

/-- The machine as an access leaves it before the bus read it makes, if it makes one. -/
def reading (m : BusMachine) : Dmi → Option BusMachine
  | .write addr value =>
    if addr = ADDR_SBADDRESS0 && m.sbreadonaddr then some { m with sbaddress0 := value &&& MASK32 }
    else none
  | .read addr => if addr = ADDR_SBDATA0 && m.sbreadondata then some m else none

/-- One access. -/
def step (c : DeclaredConfig) (m : BusMachine) (d : Dmi) : BusMachine :=
  match m.reading d with
  | some m' => m'.busRead c
  | none =>
    match d with
    | .read _ => m
    | .write addr value =>
      let word := value &&& MASK32
      if addr = ADDR_SBCS then
        { m with
          sbreadonaddr := word.testBit 20
          sbaccess := if c.sbaccessWritable then (word >>> 17) &&& 0x7 else m.sbaccess
          sbautoincrement := word.testBit 16
          sbreadondata := word.testBit 15 }
      else if addr = ADDR_SBADDRESS0 then { m with sbaddress0 := word }
      else if addr = ADDR_SBADDRESS1 then { m with sbaddress1 := word }
      else if addr = ADDR_SBDATA0 then (m.setWord 0 word).busWrite c word
      else if addr = ADDR_SBDATA1 then m.setWord 1 word
      else m

/-- The bytes of `sbdata0` a bus read transfers. -/
def readWidth (m : BusMachine) : Nat := min (2 ^ m.sbaccess) 4

/-- What the shadow holds under `sbaddress0`, if anything, is what memory holds at the full address. -/
def Current (c : DeclaredConfig) (m : BusMachine) : Prop :=
  ∀ w ∈ last BusWrite.key m.sbaddress0 m.log,
    w.range.addr = m.address c ∧ m.readWidth ≤ w.range.width ∧
      ∀ v ∈ since BusWrite.key m.sbaddress0 m.log, v.range.Avoids (m.address c) m.readWidth

instance (c : DeclaredConfig) (m : BusMachine) : Decidable (m.Current c) :=
  inferInstanceAs (Decidable (∀ w ∈ last BusWrite.key m.sbaddress0 m.log, _ ∧ _ ∧ _))

/-- The condition on one access: the bus read it makes, if any, is `Current`. -/
def ReadsCurrent (c : DeclaredConfig) (m : BusMachine) (d : Dmi) : Prop :=
  ∀ m' ∈ m.reading d, m'.Current c

instance (c : DeclaredConfig) (m : BusMachine) (d : Dmi) : Decidable (m.ReadsCurrent c d) :=
  inferInstanceAs (Decidable (∀ m' ∈ m.reading d, m'.Current c))

end BusMachine

/-- The accesses considered: writes of the System Bus registers and reads of `sbdata0`. -/
def Dmi.SystemBus : Dmi → Prop
  | .write addr _ =>
    addr = ADDR_SBCS ∨ addr = ADDR_SBADDRESS0 ∨ addr = ADDR_SBADDRESS1 ∨ addr = ADDR_SBDATA0 ∨
      addr = ADDR_SBDATA1
  | .read addr => addr = ADDR_SBDATA0

instance (d : Dmi) : Decidable d.SystemBus := by
  cases d <;> unfold Dmi.SystemBus <;> infer_instance

/-! ## The invariant -/

/-- The predictor's registers are the machine's; its shadow and the machine's memory are what the
log of bus writes leaves; and its claim after a bus read is true. -/
structure FollowsBus (mem : Nat → Nat) (sb : SystemBus) (m : BusMachine) : Prop where
  sbreadonaddr : sb.sbcsReadOnAddrArmed = m.sbreadonaddr
  sbaccess : sb.sbaccess = m.sbaccess
  sbautoincrement : sb.sbautoincrement = m.sbautoincrement
  sbreadondata : sb.sbreadondata = m.sbreadondata
  sbaddress0 : sb.sbaddress0 = m.sbaddress0
  sbaddress1 : sb.sbaddress1 = m.sbaddress1
  address_lt : m.sbaddress0 < 2 ^ 32
  shadow : sb.shadowMem = record BusWrite.key BusWrite.word m.log
  memory : m.mem = replay BusWrite.range mem m.log
  words : ∀ w ∈ m.log, ∀ k < 4, w.range.data k = wordByte w.word k
  claim : ∀ n ∈ m.lastRead, sb.sbdata0PendingValid = true →
    ∀ k < min n 4, wordByte sb.sbdata0PendingValue k = m.sbdata k

namespace FollowsBus

variable {c : DeclaredConfig} {mem : Nat → Nat} {sb : SystemBus} {m : BusMachine}

theorem autoincrement (hf : FollowsBus mem sb m) :
    FollowsBus mem (sb.sbaAutoincrement c) (m.autoincrement c) := by
  obtain ⟨h₁, h₂, h₃, h₄, h₅, h₆, h₇, h₈, h₉, h₁₀, h₁₁⟩ := hf
  unfold SystemBus.sbaAutoincrement BusMachine.autoincrement
  rw [h₃]
  cases hinc : m.sbautoincrement with
  | false => exact ⟨h₁, h₂, h₃, h₄, h₅, h₆, h₇, h₈, h₉, h₁₀, h₁₁⟩
  | true =>
    -- the source joins the two address words by shifting; below 2 ^ 32 that is addition
    have hsum : (sb.sbaddress1 <<< 32 ||| sb.sbaddress0) + 1 <<< sb.sbaccess =
        m.sbaddress1 * 2 ^ 32 + m.sbaddress0 + 2 ^ m.sbaccess := by
      rw [h₅, h₆, h₂, ← Nat.shiftLeft_add_eq_or_of_lt h₇, Nat.shiftLeft_eq, Nat.one_shiftLeft]
    rw [if_neg (by simp), if_neg (by simp)]
    simp only [hsum, and_MASK32, Nat.shiftRight_eq_div_pow, BusMachine.address]
    by_cases hwide : c.sbasize > 32
    · simp only [if_pos hwide]
      exact ⟨h₁, h₂, rfl, h₄, rfl, rfl, Nat.mod_lt _ (by decide), h₈, h₉, h₁₀, h₁₁⟩
    · simp only [if_neg hwide]
      refine ⟨h₁, h₂, rfl, h₄, ?_, h₆, Nat.mod_lt _ (by decide), h₈, h₉, h₁₀, h₁₁⟩
      show (m.sbaddress1 * 2 ^ 32 + m.sbaddress0 + 2 ^ m.sbaccess) % 2 ^ 32 =
        (m.sbaddress0 + 2 ^ m.sbaccess) % 2 ^ 32
      rw [Nat.add_assoc, Nat.mul_add_mod']

/-- **A bus read.** -/
theorem busRead (hf : FollowsBus mem sb m) (hc : m.Current c) :
    FollowsBus mem ((sb.sbaArmRead sb.sbaddress0).sbaAutoincrement c) (m.busRead c) := by
  refine FollowsBus.autoincrement ?_
  obtain ⟨h₁, h₂, h₃, h₄, h₅, h₆, h₇, h₈, h₉, h₁₀, -⟩ := hf
  have hget : sb.shadowMem.get? sb.sbaddress0 =
      (last BusWrite.key m.sbaddress0 m.log).map BusWrite.word := by
    rw [h₈, h₅, get?_record]
  unfold SystemBus.sbaArmRead
  rw [hget]
  cases hl : last BusWrite.key m.sbaddress0 m.log with
  | none => exact ⟨h₁, h₂, h₃, h₄, h₅, h₆, h₇, h₈, h₉, h₁₀, fun _ _ hv => absurd hv (by simp)⟩
  | some w =>
    obtain ⟨haddr, hwidth, hsince⟩ := hc w hl
    refine ⟨h₁, h₂, h₃, h₄, h₅, h₆, h₇, h₈, h₉, h₁₀, ?_⟩
    rintro n ⟨rfl⟩ - k hk
    have hbyte := replay_of_last mem hl haddr hwidth hsince hk
    have hk' : k < 2 ^ m.sbaccess ∧ k < 4 := by omega
    simp only [hk'.1, if_true]
    rw [h₉, hbyte, h₁₀ w (mem_of_last hl) k hk'.2]
    rfl

/-- **A bus write.** -/
theorem busWrite (hf : FollowsBus mem sb m) (word : Nat) :
    FollowsBus mem (sb.writeSbdata0 c word) ((m.setWord 0 word).busWrite c word) := by
  refine FollowsBus.autoincrement ?_
  obtain ⟨h₁, h₂, h₃, h₄, h₅, h₆, h₇, h₈, h₉, h₁₀, -⟩ := hf
  refine ⟨h₁, h₂, h₃, h₄, h₅, h₆, h₇, ?_, ?_, ?_, nofun⟩
  · dsimp only [BusMachine.setWord]
    rw [h₈, h₅]
    rfl
  · dsimp only [BusMachine.setWord]
    rw [h₉]
    rfl
  · intro w hw k hk
    rcases List.mem_cons.mp hw with rfl | hw
    · simp [BusMachine.setWord, hk]
    · exact h₁₀ w hw k hk

/-- A write of `sbdata1` leaves the bytes of `sbdata0`. -/
theorem writeSbdata1 (hf : FollowsBus mem sb m) (word : Nat) :
    FollowsBus mem (sb.writeSbdata1 word) (m.setWord 1 word) := by
  obtain ⟨h₁, h₂, h₃, h₄, h₅, h₆, h₇, h₈, h₉, h₁₀, h₁₁⟩ := hf
  refine ⟨h₁, h₂, h₃, h₄, h₅, h₆, h₇, h₈, h₉, h₁₀, fun n hn hv k hk => ?_⟩
  show wordByte sb.sbdata0PendingValue k =
    if 4 * 1 ≤ k ∧ k < 4 * 1 + 4 then wordByte word (k - 4 * 1) else m.sbdata k
  rw [if_neg (by omega)]
  exact h₁₁ n hn hv k hk

theorem writeSbcs (hf : FollowsBus mem sb m) (value : Nat) :
    FollowsBus mem (sb.writeSbcs c (value &&& MASK32)) (m.step c (.write ADDR_SBCS value)) := by
  obtain ⟨-, h₂, -, -, h₅, h₆, h₇, h₈, h₉, h₁₀, h₁₁⟩ := hf
  refine ⟨rfl, ?_, rfl, rfl, h₅, h₆, h₇, h₈, h₉, h₁₀, h₁₁⟩
  show (if c.sbaccessWritable then _ else sb.sbaccess) = if c.sbaccessWritable then _ else m.sbaccess
  rw [h₂]

theorem writeSbaddress1 (hf : FollowsBus mem sb m) (value : Nat) :
    FollowsBus mem { sb with sbaddress1 := value &&& MASK32 }
      (m.step c (.write ADDR_SBADDRESS1 value)) := by
  obtain ⟨h₁, h₂, h₃, h₄, h₅, -, h₇, h₈, h₉, h₁₀, h₁₁⟩ := hf
  exact ⟨h₁, h₂, h₃, h₄, h₅, rfl, h₇, h₈, h₉, h₁₀, h₁₁⟩

/-- A write of `sbaddress0` may be followed by a bus read. -/
theorem writeSbaddress0 (hf : FollowsBus mem sb m) (value : Nat)
    (hc : m.ReadsCurrent c (.write ADDR_SBADDRESS0 value)) :
    FollowsBus mem (sb.writeSbaddress0 c (value &&& MASK32))
      (m.step c (.write ADDR_SBADDRESS0 value)) := by
  have hlt : value &&& MASK32 < 2 ^ 32 := by
    rw [and_MASK32]
    exact Nat.mod_lt _ (by decide)
  have hf' : FollowsBus mem { sb with sbaddress0 := value &&& MASK32 }
      { m with sbaddress0 := value &&& MASK32 } := by
    obtain ⟨h₁, h₂, h₃, h₄, -, h₆, -, h₈, h₉, h₁₀, h₁₁⟩ := hf
    exact ⟨h₁, h₂, h₃, h₄, rfl, h₆, hlt, h₈, h₉, h₁₀, h₁₁⟩
  have harmed : sb.sbcsReadOnAddrArmed = m.sbreadonaddr := hf.sbreadonaddr
  unfold SystemBus.writeSbaddress0 BusMachine.step
  dsimp only
  by_cases hr : m.sbreadonaddr = true
  · have hsome : m.reading (.write ADDR_SBADDRESS0 value) =
        some { m with sbaddress0 := value &&& MASK32 } := by simp [BusMachine.reading, hr]
    rw [if_pos (harmed.trans hr), hsome]
    exact hf'.busRead (hc _ hsome)
  · have hnone : m.reading (.write ADDR_SBADDRESS0 value) = none := by simp [BusMachine.reading, hr]
    rw [if_neg (by rw [harmed]; exact hr), hnone]
    exact hf'

/-- A read of `sbdata0` may be followed by a bus read. -/
theorem readSbdata0 (hf : FollowsBus mem sb m) (hc : m.ReadsCurrent c (.read ADDR_SBDATA0)) :
    FollowsBus mem (sb.sbdata0ReadEffects c) (m.step c (.read ADDR_SBDATA0)) := by
  have harmed : sb.sbreadondata = m.sbreadondata := hf.sbreadondata
  unfold SystemBus.sbdata0ReadEffects BusMachine.step
  by_cases hr : m.sbreadondata = true
  · have hsome : m.reading (.read ADDR_SBDATA0) = some m := by simp [BusMachine.reading, hr]
    rw [if_pos (harmed.trans hr), hsome]
    exact hf.busRead (hc _ hsome)
  · have hnone : m.reading (.read ADDR_SBDATA0) = none := by simp [BusMachine.reading, hr]
    rw [if_neg (by rw [harmed]; exact hr), hnone]
    exact hf

end FollowsBus

/-! ## Whole runs -/

/-- The predictor is active and configured, and follows the machine. -/
structure BusShadows (c : DeclaredConfig) (mem : Nat → Nat) (s : DMPredictor) (m : BusMachine) :
    Prop where
  cfg : s.cfg = c
  cfgValid : s.cfgValid = true
  active : s.rc.dmactive = true
  follows : FollowsBus mem s.sb m

namespace BusShadows

variable {c : DeclaredConfig} {mem : Nat → Nat} {s : DMPredictor} {m : BusMachine}

theorem onWrite (hs : BusShadows c mem s m) {addr : Nat} (h : addr ≠ DMCONTROL.address) (value : Nat)
    {m' : BusMachine} (hf : FollowsBus mem (s.onWrite addr value).sb m') :
    BusShadows c mem (s.onWrite addr value) m' := by
  obtain ⟨-, h₂, h₃, -⟩ := s.onWrite_static addr value
  refine ⟨h₂.trans hs.cfg, h₃.trans hs.cfgValid, ?_, hf⟩
  rw [s.onWrite_rc_of_ne h]
  exact hs.active

/-- **One access keeps the predictor's claim true.** -/
theorem apply (hs : BusShadows c mem s m) {d : Dmi} (hd : d.SystemBus) (hc : m.ReadsCurrent c d) :
    BusShadows c mem (d.apply s) (m.step c d) := by
  cases d with
  | read addr =>
    obtain ⟨-, h₂, h₃, -⟩ := s.observeRead_static addr
    refine ⟨h₂.trans hs.cfg, h₃.trans hs.cfgValid, ?_, ?_⟩
    · rw [Dmi.apply, s.observeRead_rc]
      exact hs.active
    · cases (show addr = ADDR_SBDATA0 from hd)
      rw [Dmi.apply, s.observeRead_sb, if_pos rfl, hs.cfg]
      exact hs.follows.readSbdata0 hc
  | write addr value =>
    rcases hd with rfl | rfl | rfl | rfl | rfl
    · refine hs.onWrite (by decide) value ?_
      rw [s.onWrite_sb (by decide), hs.cfg]
      exact hs.follows.writeSbcs value
    · refine hs.onWrite (by decide) value ?_
      rw [s.onWrite_sb (by decide), hs.cfg]
      exact hs.follows.writeSbaddress0 value hc
    · refine hs.onWrite (by decide) value ?_
      rw [s.onWrite_sb (by decide)]
      exact hs.follows.writeSbaddress1 value
    · refine hs.onWrite (by decide) value ?_
      rw [s.onWrite_sb (by decide), hs.cfg]
      exact hs.follows.busWrite _
    · refine hs.onWrite (by decide) value ?_
      rw [s.onWrite_sb (by decide)]
      exact hs.follows.writeSbdata1 _

/-- The predictor just after it is activated. -/
theorem activated (c : DeclaredConfig) {w : Nat} (hw : w.testBit 0 = true) (mem : Nat → Nat) :
    BusShadows c mem ((DMPredictor.declared c).onWrite DMCONTROL.address w) (.init c mem) := by
  rw [DMPredictor.onWrite_dmcontrol, DMPredictor.writeDmcontrol_active _ hw]
  refine ⟨rfl, rfl, ?_, ?_⟩
  · rw [RunControl.writeActive_fst]
  · refine ⟨rfl, rfl, rfl, rfl, rfl, rfl, Nat.two_pow_pos 32, rfl, rfl, ?_, nofun⟩
    intro w hw
    exact absurd hw List.not_mem_nil

/-- What the predictor claims about `sbdata0` after a bus read. -/
theorem predict_sbdata0 (hs : BusShadows c mem s m) (hsba : c.sbaEnable = true) {n : Nat}
    (hn : m.lastRead = some n) (hm : s.hasModel ADDR_SBDATA0 = true) :
    ∀ k < min n 4, wordByte (s.predict ADDR_SBDATA0) k = m.sbdata k := by
  have hmodel : s.hasModel ADDR_SBDATA0 =
      if !s.cfgValid then false else if !s.rc.dmactive then false
      else !s.cfg.sbaEnable || s.sb.sbdata0PendingValid := rfl
  have hpredict : s.predict ADDR_SBDATA0 = if s.cfg.sbaEnable then s.sb.sbdata0PendingValue else 0 := rfl
  rw [hmodel, hs.cfgValid, hs.active, hs.cfg, hsba] at hm
  rw [hpredict, hs.cfg, hsba]
  exact hs.follows.claim n hn hm

end BusShadows

/-- **Soundness of the System Bus Access shadow.**  Start from an active predictor and a machine with
any memory, and let both take the same accesses.  If every bus read finds the last bus write made with
its `sbaddress0` at its own full address, wide enough and not overwritten since, then after every bus
read that the predictor makes a claim about, the claim is right on the bytes transferred. -/
theorem bus_shadow_sound (c : DeclaredConfig) (hsba : c.sbaEnable = true) (w : Nat)
    (hw : w.testBit 0 = true) (mem : Nat → Nat) (ds : List Dmi)
    (hds : Runs.Always (BusMachine.step c) (fun m d => d.SystemBus ∧ m.ReadsCurrent c d) (.init c mem) ds) :
    let s := Runs.run Dmi.apply ((DMPredictor.declared c).onWrite DMCONTROL.address w) ds
    let m := Runs.run (BusMachine.step c) (.init c mem) ds
    ∀ n ∈ m.lastRead, s.hasModel ADDR_SBDATA0 = true →
      ∀ k < min n 4, wordByte (s.predict ADDR_SBDATA0) k = m.sbdata k := by
  have hstep : ∀ (m : BusMachine) (s : DMPredictor) (d : Dmi), BusShadows c mem s m →
      d.SystemBus ∧ m.ReadsCurrent c d → BusShadows c mem (d.apply s) (m.step c d) := by
    intro m s d hs hd
    exact hs.apply hd.1 hd.2
  have hs := Runs.run_related hstep ds _ _ (BusShadows.activated c hw mem) hds
  intro s m n hn hm
  exact hs.predict_sbdata0 hsba hn hm

/-- A word written and read back at the same address. -/
theorem bus_shadow_sound_round_trip :
    let c : DeclaredConfig := { sbaEnable := true, sbasize := 32, sbaccessReset := 2 }
    let ds : List Dmi := [.write ADDR_SBADDRESS0 0x100, .write ADDR_SBDATA0 0xABCD,
      .write ADDR_SBCS 0x0010_0000, .write ADDR_SBADDRESS0 0x100]
    let s := Runs.run Dmi.apply ((DMPredictor.declared c).onWrite DMCONTROL.address 1) ds
    let m := Runs.run (BusMachine.step c) (.init c fun _ => 0) ds
    s.hasModel ADDR_SBDATA0 = true ∧ m.lastRead = some 4 ∧
      ∀ k < 4, wordByte (s.predict ADDR_SBDATA0) k = m.sbdata k := by
  intro c ds s m
  have hm : s.hasModel ADDR_SBDATA0 = true := by decide
  have hn : m.lastRead = some 4 := by decide
  exact ⟨hm, hn, bus_shadow_sound c rfl 1 (by decide) (fun _ => 0) ds (by decide) 4 hn hm⟩

/-- The bus access that `d` makes, if any, is naturally aligned. -/
def BusMachine.Aligned (c : DeclaredConfig) (m : BusMachine) (d : Dmi) : Prop :=
  (∀ m' ∈ m.reading d, m'.address c % 2 ^ m'.sbaccess = 0) ∧
    (d.addr = ADDR_SBDATA0 → m.address c % 2 ^ m.sbaccess = 0)

instance (c : DeclaredConfig) (m : BusMachine) (d : Dmi) : Decidable (m.Aligned c d) :=
  inferInstanceAs (Decidable ((∀ m' ∈ m.reading d, m'.address c % 2 ^ m'.sbaccess = 0) ∧ _))

/-- The access selects no width above 64 bits. -/
def Dmi.AtMost64 : Dmi → Prop
  | .write addr value => addr = ADDR_SBCS → (value >>> 17) &&& 0x7 ≤ 3
  | .read _ => True

instance (d : Dmi) : Decidable d.AtMost64 := by
  cases d <;> unfold Dmi.AtMost64 <;> infer_instance

/-- Without the condition the claim can be wrong, with aligned accesses too: after an 8-bit write of
0x12345678 to a zero memory the shadow holds the whole word, and a 32-bit read of that address, which
returns 0x78, is claimed to return 0x12345678. -/
theorem bus_shadow_ignores_width :
    ¬ ∀ (c : DeclaredConfig) (w : Nat) (mem : Nat → Nat) (ds : List Dmi),
      c.sbaEnable = true → w.testBit 0 = true →
      Runs.Always (BusMachine.step c) (fun m d => d.SystemBus ∧ d.AtMost64 ∧ m.Aligned c d)
        (.init c mem) ds →
      let s := Runs.run Dmi.apply ((DMPredictor.declared c).onWrite DMCONTROL.address w) ds
      let m := Runs.run (BusMachine.step c) (.init c mem) ds
      ∀ n ∈ m.lastRead, s.hasModel ADDR_SBDATA0 = true →
        ∀ k < min n 4, wordByte (s.predict ADDR_SBDATA0) k = m.sbdata k := by
  intro h
  have := h { sbaEnable := true, sbasize := 32, sbaccessReset := 2, sbaccessWritable := true } 1
    (fun _ => 0)
    [.write ADDR_SBCS 0, .write ADDR_SBADDRESS0 0x100, .write ADDR_SBDATA0 0x12345678,
      .write ADDR_SBCS 0x0014_0000, .write ADDR_SBADDRESS0 0x100]
    rfl (by decide) (by decide) 4 (by decide) (by decide) 1 (by decide)
  revert this
  decide

end RiscvDbg
