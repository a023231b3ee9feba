import Mathlib.Data.Int.Bitwise
import Mathlib.Logic.Function.Basic
import Mathlib.Tactic.IntervalCases

/-!
# The constant bits of the abstract command ROM

Model of `mk/dm_abstract_cmd_bits.py`, which runs a transcription of the program generator of `dm_mem.sv` on
sampled command words and reports the bits that never vary.  Toggle exclusions are made from its report.

* `gen` — the program of a command word: eight slots of two instructions.
* `programs` — the programs of the sample; `constantBits` — the bits that hold one value in all of them.
* `gen_sampled` — **at each slot and bit, every program has the value of some sampled program**: the same
  program, or, for a CSR, one whose number has only the bit in question.
* `constant_bits_sound` — so a bit that the sample never changes never changes.
-/

set_option autoImplicit false

namespace RiscvDbg

namespace AbstractCmd

/-! ## The encoders -/

def load (sz d b o : Nat) : Nat := (o <<< 20) ||| (b <<< 15) ||| (sz <<< 12) ||| (d <<< 7) ||| 0x03
def store (sz s b o : Nat) : Nat :=
  ((o >>> 5) <<< 25) ||| (s <<< 20) ||| (b <<< 15) ||| (sz <<< 12) ||| ((o &&& 0x1f) <<< 7) ||| 0x23
def fload (sz d b o : Nat) : Nat := (o <<< 20) ||| (b <<< 15) ||| (sz <<< 12) ||| (d <<< 7) ||| 0x07
def fstore (sz s b o : Nat) : Nat :=
  ((o >>> 5) <<< 25) ||| (s <<< 20) ||| (b <<< 15) ||| (sz <<< 12) ||| ((o &&& 0x1f) <<< 7) ||| 0x27
def csrw (c r : Nat) : Nat := (c <<< 20) ||| (r <<< 15) ||| (1 <<< 12) ||| 0x73
def csrr (c d : Nat) : Nat := (c <<< 20) ||| (2 <<< 12) ||| (d <<< 7) ||| 0x73
def auipc (rd _imm : Nat) : Nat := (rd <<< 7) ||| 0x17
def srli (rd rs sh : Nat) : Nat := (sh <<< 20) ||| (rs <<< 15) ||| (5 <<< 12) ||| (rd <<< 7) ||| 0x13
def slli (rd rs sh : Nat) : Nat := (sh <<< 20) ||| (rs <<< 15) ||| (1 <<< 12) ||| (rd <<< 7) ||| 0x13

def EBREAK : Nat := 0x00100073
def NOP : Nat := 0x13
def ILLEGAL : Nat := 0
def DS0 : Nat := 0x7b2
def DS1 : Nat := 0x7b3
def LB : Nat := 10
def DA : Nat := 0x380

def w (lo hi : Nat) : Nat := (hi <<< 32) ||| lo

/-! ## The generator -/

/-- The slots of a program. -/
abbrev Program := Fin 8 → Nat

/-- `setlo`. -/
def Program.setlo (s : Program) (i : Fin 8) (v : Nat) : Program := Function.update s i (((s i >>> 32) <<< 32) ||| v)

/-- `sethi`. -/
def Program.sethi (s : Program) (i : Fin 8) (v : Nat) : Program :=
  Function.update s i ((v <<< 32) ||| (s i &&& 0xffffffff))

/-- The slots at first. -/
def start : Program
  | 0 => w ILLEGAL (auipc 10 0)
  | 1 => w (srli 10 10 12) (slli 10 10 12)
  | 2 => w NOP NOP
  | 3 => w NOP NOP
  | 4 => w (csrr DS1 10) EBREAK
  | _ => 0

/-- A command word. -/
structure Command where
  cmdtype : Nat
  size : Nat
  transfer : Bool
  write : Bool
  postexec : Bool
  postinc : Bool
  regno : Nat
  deriving DecidableEq, Repr

namespace Command

variable (c : Command)

def r12 : Nat := (c.regno >>> 12) &&& 1
def r5 : Nat := (c.regno >>> 5) &&& 1
def r4 : Nat := c.regno &&& 0x1f

/-- The slots of a transfer that writes. -/
def genWrite : Program × Bool :=
  let s := start.setlo 0 (csrw DS1 10)
  if c.regno >>> 14 ≠ 0 then (s.setlo 0 EBREAK, true)
  else if c.r12 ≠ 0 ∧ c.r5 = 0 ∧ c.r4 = 10 then
    ((((s.setlo 2 (csrw DS0 8)).sethi 2 (load c.size 8 LB DA)).setlo 3 (csrw DS1 8)).sethi 3 (csrr DS0 8), false)
  else if c.r12 ≠ 0 then (s.setlo 2 ((if c.r5 ≠ 0 then fload else load) c.size c.r4 LB DA), false)
  else
    ((((s.setlo 2 (csrw DS0 8)).sethi 2 (load c.size 8 LB DA)).setlo 3 (csrw (c.regno &&& 0xfff) 8)).sethi 3
      (csrr DS0 8), false)

/-- The slots of a transfer that reads. -/
def genRead : Program × Bool :=
  let s := start.setlo 0 (csrw DS1 LB)
  if c.regno >>> 14 ≠ 0 then (s.setlo 0 EBREAK, true)
  else if c.r12 ≠ 0 ∧ c.r5 = 0 ∧ c.r4 = 10 then
    ((((s.setlo 2 (csrw DS0 8)).sethi 2 (csrr DS1 8)).setlo 3 (store c.size 8 LB DA)).sethi 3 (csrr DS0 8), false)
  else if c.r12 ≠ 0 then (s.setlo 2 ((if c.r5 ≠ 0 then fstore else store) c.size c.r4 LB DA), false)
  else
    ((((s.setlo 2 (csrw DS0 8)).sethi 2 (csrr (c.regno &&& 0xfff) 8)).setlo 3 (store c.size 8 LB DA)).sethi 3
      (csrr DS0 8), false)

/-- The slots of an access to a register, and whether it is unsupported. -/
def genAccess : Program × Bool :=
  if c.size < 4 ∧ c.transfer ∧ c.write then c.genWrite
  else if c.size < 4 ∧ c.transfer ∧ ¬ c.write then c.genRead
  else if 4 ≤ c.size ∨ c.postinc then (start.setlo 0 EBREAK, true)
  else (start, false)

/-- `gen`. -/
def gen : Program :=
  if c.cmdtype = 0 then
    let (s, uns) := c.genAccess
    if c.postexec ∧ ¬ uns then s.sethi 4 NOP else s
  else start.setlo 0 EBREAK

end Command

/-! ## The sample -/

/-- The register numbers of the sample. -/
def regnos : List Nat :=
  ((List.range 4).flatMap fun top => [0, 1].flatMap fun b12 => [0, 1].flatMap fun b5 =>
    (List.range 32).flatMap fun low5 => [0, 0x7c0, 0x1c0, 0x440].map fun mid =>
      (top <<< 14) ||| (b12 <<< 12) ||| (b5 <<< 5) ||| low5 ||| (mid &&& 0xffdf &&& 0xfc0)) ++
  (List.range 16).map (1 <<< ·) ++ [0xfff, 0x0]

/-- The command words of the sample. -/
def commands : List Command :=
  [0, 1].flatMap fun cmdtype => (List.range 8).flatMap fun size =>
    [false, true].flatMap fun transfer => [false, true].flatMap fun write =>
      [false, true].flatMap fun postexec => [false, true].flatMap fun postinc =>
        regnos.map fun regno => ⟨cmdtype, size, transfer, write, postexec, postinc, regno⟩

/-- `programs`. -/
def programs : List Program := commands.map Command.gen

/-- `ones`: the bits set in all values. -/
def ones (vs : List Nat) : Int := vs.foldl (fun (a : Int) (v : Nat) => Int.land a v) (-1)

/-- `zeros`: the bits clear in all values. -/
def zeros (vs : List Nat) : Int := vs.foldl (fun (a : Int) (v : Nat) => Int.land a (Int.lnot v)) (-1)

/-- `constant_bits`. -/
def constantBits (i : Fin 8) : List Nat :=
  let seen := programs.map (· i)
  (List.range 64).filter fun b => (ones seen).testBit b || (zeros seen).testBit b

/-! ## Constant bits -/

theorem testBit_minus_one (b : Nat) : (-1 : Int).testBit b = true := by
  change (!Nat.testBit 0 b) = true
  simp

theorem testBit_ones (vs : List Nat) (b : Nat) : (ones vs).testBit b = vs.all (·.testBit b) := by
  have hfold : ∀ (vs : List Nat) (a : Int), (vs.foldl (fun (a : Int) (v : Nat) => Int.land a v) a).testBit b =
      (a.testBit b && vs.all (·.testBit b)) := by
    intro vs
    induction vs with
    | nil => intro a; simp
    | cons v vs ih =>
      intro a
      rw [List.foldl_cons, ih, Int.testBit_land, List.all_cons, Bool.and_assoc]
      rfl
  rw [ones, hfold, testBit_minus_one, Bool.true_and]

theorem testBit_zeros (vs : List Nat) (b : Nat) : (zeros vs).testBit b = vs.all (!·.testBit b) := by
  have hfold : ∀ (vs : List Nat) (a : Int),
      (vs.foldl (fun (a : Int) (v : Nat) => Int.land a (Int.lnot v)) a).testBit b =
        (a.testBit b && vs.all (!·.testBit b)) := by
    intro vs
    induction vs with
    | nil => intro a; simp
    | cons v vs ih =>
      intro a
      rw [List.foldl_cons, ih, Int.testBit_land, Int.testBit_lnot, List.all_cons, Bool.and_assoc]
      rfl
  rw [zeros, hfold, testBit_minus_one, Bool.true_and]

/-- The bits that `constant_bits` reports: set in all programs of the sample, or clear in all of them. -/
theorem mem_constantBits {i : Fin 8} {b : Nat} : b ∈ constantBits i ↔
    b < 64 ∧ ((∀ p ∈ programs, (p i).testBit b = true) ∨ ∀ p ∈ programs, (p i).testBit b = false) := by
  simp only [constantBits, List.mem_filter, List.mem_range, Bool.or_eq_true, testBit_ones, testBit_zeros,
    List.all_eq_true, List.forall_mem_map, Bool.not_eq_true']

/-! ## Programs that agree at a bit -/

/-- The two programs have the same bit `b` in every slot. -/
def AgreeAt (b : Nat) (p q : Program) : Prop := ∀ i, (p i).testBit b = (q i).testBit b

section
variable {b : Nat} {p q : Program} (h : AgreeAt b p q) (i : Fin 8)
include h

theorem AgreeAt.setlo {v v' : Nat} (hv : v.testBit b = v'.testBit b) : AgreeAt b (p.setlo i v) (q.setlo i v') := by
  intro j
  by_cases hj : j = i
  · subst hj
    simp only [Program.setlo, Function.update_self, Nat.testBit_or, Nat.testBit_shiftLeft, Nat.testBit_shiftRight, hv]
    by_cases hb : 32 ≤ b
    · rw [Nat.add_sub_cancel' hb, h j]
    · simp [hb]
  · simp only [Program.setlo, Function.update_of_ne hj]
    exact h j

theorem AgreeAt.sethi {v v' : Nat} (hv : v.testBit (b - 32) = v'.testBit (b - 32)) :
    AgreeAt b (p.sethi i v) (q.sethi i v') := by
  intro j
  by_cases hj : j = i
  · subst hj
    simp only [Program.sethi, Function.update_self, Nat.testBit_or, Nat.testBit_shiftLeft, Nat.testBit_and, hv, h j]
  · simp only [Program.sethi, Function.update_of_ne hj]
    exact h j

end

theorem AgreeAt.refl (b : Nat) (p : Program) : AgreeAt b p p := fun _ => rfl

theorem testBit_csrw {c c' b : Nat} (h : c.testBit (b - 20) = c'.testBit (b - 20)) (r : Nat) :
    (csrw c r).testBit b = (csrw c' r).testBit b := by
  simp only [csrw, Nat.testBit_or, Nat.testBit_shiftLeft, h]

theorem testBit_csrr {c c' b : Nat} (h : c.testBit (b - 20) = c'.testBit (b - 20)) (d : Nat) :
    (csrr c d).testBit b = (csrr c' d).testBit b := by
  simp only [csrr, Nat.testBit_or, Nat.testBit_shiftLeft, h]

/-! ## The sample covers every program -/

/-- What `gen` looks at of a register number that is not a CSR. -/
structure SameClass (regno regno' : Nat) : Prop where
  top : regno' >>> 14 = regno >>> 14
  r12 : (regno' >>> 12) &&& 1 = (regno >>> 12) &&& 1
  r5 : (regno' >>> 5) &&& 1 = (regno >>> 5) &&& 1
  r4 : regno' &&& 0x1f = regno &&& 0x1f

/-- Every class of register numbers is in the sample. -/
theorem exists_sameClass {regno : Nat} (h : regno < 2 ^ 16) : ∃ r ∈ regnos, SameClass regno r := by
  have hclass : ∀ (top : Fin 4) (b12 b5 : Fin 2) (low5 : Fin 32),
      let r := (top.1 <<< 14) ||| (b12.1 <<< 12) ||| (b5.1 <<< 5) ||| low5.1 ||| (0 &&& 0xffdf &&& 0xfc0)
      r >>> 14 = top ∧ (r >>> 12) &&& 1 = b12 ∧ (r >>> 5) &&& 1 = b5 ∧ r &&& 0x1f = low5 := by
    decide +kernel
  have htop : regno >>> 14 < 4 := by
    rw [Nat.shiftRight_eq_div_pow]
    omega
  have hbit : ∀ n : Nat, n &&& 1 < 2 := by
    intro n
    rw [Nat.and_one_is_mod]
    omega
  have hlow : regno &&& 0x1f < 32 := Nat.and_lt_two_pow regno (show 0x1f < 2 ^ 5 by decide)
  obtain ⟨h₁, h₂, h₃, h₄⟩ := hclass ⟨_, htop⟩ ⟨_, hbit (regno >>> 12)⟩ ⟨_, hbit (regno >>> 5)⟩ ⟨_, hlow⟩
  refine ⟨_, ?_, h₁, h₂, h₃, h₄⟩
  have hmem : ∀ {n : Nat}, n < 2 → n ∈ [0, 1] := by
    intro n hn
    interval_cases n <;> decide
  refine List.mem_append_left _ (List.mem_append_left _ ?_)
  refine List.mem_flatMap.mpr ⟨_, List.mem_range.mpr htop, List.mem_flatMap.mpr ⟨_, hmem (hbit (regno >>> 12)), ?_⟩⟩
  refine List.mem_flatMap.mpr ⟨_, hmem (hbit (regno >>> 5)), List.mem_flatMap.mpr ⟨_, List.mem_range.mpr hlow, ?_⟩⟩
  exact List.mem_map.mpr ⟨0, List.mem_cons_self, rfl⟩

/-- For each bit of a CSR number there is a CSR in the sample that has the same. -/
theorem exists_csr (csr j : Nat) (h : csr < 2 ^ 12) :
    ∃ r ∈ regnos, r >>> 14 = 0 ∧ (r >>> 12) &&& 1 = 0 ∧ (r &&& 0xfff).testBit j = csr.testBit j := by
  cases hj : csr.testBit j with
  | false =>
    refine ⟨0, ?_, rfl, rfl, by simp⟩
    exact List.mem_append_right _ (by simp)
  | true =>
    have hlt : j < 12 := by
      by_contra hge
      rw [Nat.testBit_lt_two_pow (Nat.lt_of_lt_of_le h (Nat.pow_le_pow_right (by decide) (by omega)))] at hj
      cases hj
    have hpower : ∀ j : Fin 12, (1 <<< j.1) >>> 14 = 0 ∧ ((1 <<< j.1) >>> 12) &&& 1 = 0 ∧
        ((1 <<< j.1) &&& 0xfff).testBit j = true := by
      decide
    refine ⟨1 <<< j, ?_, hpower ⟨j, hlt⟩⟩
    refine List.mem_append_left _ (List.mem_append_right _ ?_)
    exact List.mem_map.mpr ⟨j, List.mem_range.mpr (by omega), rfl⟩

theorem mem_commands {c : Command} (htype : c.cmdtype ∈ [0, 1]) (hsize : c.size < 8) (hregno : c.regno ∈ regnos) :
    c ∈ commands := by
  have hbool : ∀ b : Bool, b ∈ [false, true] := by
    decide
  refine List.mem_flatMap.mpr ⟨_, htype, List.mem_flatMap.mpr ⟨_, List.mem_range.mpr hsize, ?_⟩⟩
  refine List.mem_flatMap.mpr ⟨c.transfer, hbool _, List.mem_flatMap.mpr ⟨c.write, hbool _, ?_⟩⟩
  refine List.mem_flatMap.mpr ⟨c.postexec, hbool _, List.mem_flatMap.mpr ⟨c.postinc, hbool _, ?_⟩⟩
  exact List.mem_map.mpr ⟨c.regno, hregno, rfl⟩

namespace Command

variable {c : Command} {r b : Nat}

/-- The rest of `gen` does not look at the register number. -/
theorem gen_agree (hslots : AgreeAt b c.genAccess.1 ({ c with regno := r } : Command).genAccess.1)
    (huns : c.genAccess.2 = ({ c with regno := r } : Command).genAccess.2) :
    AgreeAt b c.gen ({ c with regno := r } : Command).gen := by
  unfold gen
  split
  · dsimp only
    rw [← huns]
    split
    · exact hslots.sethi 4 rfl
    · exact hslots
  · exact AgreeAt.refl b _

/-- Register numbers of one class, and no CSRs: the same program. -/
theorem genAccess_of_class (hclass : SameClass c.regno r) (hno : ¬ (c.regno >>> 14 = 0 ∧ c.r12 = 0)) :
    c.genAccess = ({ c with regno := r } : Command).genAccess := by
  have h12 : ({ c with regno := r } : Command).r12 = c.r12 := hclass.r12
  have h5 : ({ c with regno := r } : Command).r5 = c.r5 := hclass.r5
  have h4 : ({ c with regno := r } : Command).r4 = c.r4 := hclass.r4
  have hwrite : c.genWrite = ({ c with regno := r } : Command).genWrite := by
    unfold genWrite
    rw [h12, h5, h4, hclass.top]
    split_ifs
    · rfl
    · rfl
    · rfl
    · rfl
    · simp_all
  have hread : c.genRead = ({ c with regno := r } : Command).genRead := by
    unfold genRead
    rw [h12, h5, h4, hclass.top]
    split_ifs
    · rfl
    · rfl
    · rfl
    · rfl
    · simp_all
  unfold genAccess
  rw [hwrite, hread]

/-- Two CSRs: the same program but for the bits of the CSR number. -/
theorem genAccess_of_csr (hc : c.regno >>> 14 = 0 ∧ c.r12 = 0) (hr : r >>> 14 = 0 ∧ (r >>> 12) &&& 1 = 0)
    (hbit : ∀ j, j = (if c.write then b - 20 else b - 32 - 20) →
      (r &&& 0xfff).testBit j = (c.regno &&& 0xfff).testBit j) :
    AgreeAt b c.genAccess.1 ({ c with regno := r } : Command).genAccess.1 ∧
      c.genAccess.2 = ({ c with regno := r } : Command).genAccess.2 := by
  have h12 : ({ c with regno := r } : Command).r12 = 0 := hr.2
  unfold genAccess
  dsimp only
  split_ifs with hwrite hread
  · have hcsr := hbit _ (if_pos hwrite.2.2).symm
    simp only [genWrite, hc.1, hc.2, hr.1, h12, ne_eq, not_true_eq_false, false_and, if_false]
    exact ⟨((AgreeAt.refl b _).setlo 3 (testBit_csrw hcsr.symm 8)).sethi 3 rfl, trivial⟩
  · have hcsr := hbit _ (if_neg hread.2.2).symm
    simp only [genRead, hc.1, hc.2, hr.1, h12, ne_eq, not_true_eq_false, false_and, if_false]
    exact ⟨(((AgreeAt.refl b _).sethi 2 (testBit_csrr hcsr.symm 8)).setlo 3 rfl).sethi 3 rfl, trivial⟩
  · exact ⟨AgreeAt.refl b _, rfl⟩
  · exact ⟨AgreeAt.refl b _, rfl⟩

end Command

/-- **At each bit, every program has the values of a sampled program.** -/
theorem gen_sampled {c : Command} (hregno : c.regno < 2 ^ 16) (hsize : c.size < 8) (b : Nat) :
    ∃ c' ∈ commands, AgreeAt b c.gen c'.gen := by
  by_cases htype : c.cmdtype = 0
  · have hmem : ∀ {r : Nat}, r ∈ regnos → ({ c with regno := r } : Command) ∈ commands :=
      fun hr => mem_commands (by simp [htype]) hsize hr
    by_cases hcsr : c.regno >>> 14 = 0 ∧ c.r12 = 0
    · have hlt : c.regno &&& 0xfff < 2 ^ 12 := Nat.and_lt_two_pow _ (by decide)
      obtain ⟨r, hr, htop, h12, hbit⟩ := exists_csr (c.regno &&& 0xfff) (if c.write then b - 20 else b - 32 - 20) hlt
      obtain ⟨hslots, huns⟩ := Command.genAccess_of_csr hcsr ⟨htop, h12⟩ (fun j hj => by rw [hj, hbit])
      exact ⟨_, hmem hr, Command.gen_agree hslots huns⟩
    · obtain ⟨r, hr, hclass⟩ := exists_sameClass hregno
      have hsame := Command.genAccess_of_class hclass hcsr
      exact ⟨_, hmem hr, Command.gen_agree (fun i => by rw [← hsame]) (by rw [← hsame])⟩
  · refine ⟨{ c with cmdtype := 1, regno := 0 }, ?_, ?_⟩
    · exact mem_commands (by simp) hsize (List.mem_append_right _ (by simp))
    · intro i
      simp [Command.gen, htype]

/-- **What the sample never changes, no command word changes**: a bit that `constant_bits` reports has the value of
the sampled programs in the program of every command word, so it is the same for any two of them. -/
theorem constant_bits_sound (cmdtype cmdtype' : BitVec 8) (size size' : BitVec 3) (regno regno' : BitVec 16)
    (transfer transfer' write write' postexec postexec' postinc postinc' : Bool) (i : Fin 8) (b : Nat)
    (hb : b ∈ constantBits i) :
    (∀ p ∈ programs,
      (Command.gen ⟨cmdtype.toNat, size.toNat, transfer, write, postexec, postinc, regno.toNat⟩ i).testBit b =
        (p i).testBit b) ∧
    (Command.gen ⟨cmdtype.toNat, size.toNat, transfer, write, postexec, postinc, regno.toNat⟩ i).testBit b =
      (Command.gen ⟨cmdtype'.toNat, size'.toNat, transfer', write', postexec', postinc', regno'.toNat⟩ i).testBit b := by
  -- all sampled programs have one value at this bit
  obtain ⟨v, hv⟩ : ∃ v, ∀ p ∈ programs, (p i).testBit b = v := by
    obtain ⟨-, h | h⟩ := mem_constantBits.mp hb
    · exact ⟨true, h⟩
    · exact ⟨false, h⟩
  have hgen : ∀ c : Command, c.regno < 2 ^ 16 → c.size < 8 → (c.gen i).testBit b = v := by
    intro c hregno hsize
    obtain ⟨c', hc', hagree⟩ := gen_sampled hregno hsize b
    rw [hagree i]
    exact hv _ (List.mem_map_of_mem hc')
  refine ⟨?_, ?_⟩
  · intro p hp
    rw [hgen _ regno.isLt size.isLt, hv p hp]
  · rw [hgen _ regno.isLt size.isLt, hgen _ regno'.isLt size'.isLt]

/-! ### A bit of slot 3 -/

section
variable (s : Program) {i : Fin 8} (v : Nat)

theorem Program.setlo_of_ne {j : Fin 8} (h : j ≠ i) : s.setlo i v j = s j := Function.update_of_ne h _ s

theorem Program.sethi_of_ne {j : Fin 8} (h : j ≠ i) : s.sethi i v j = s j := Function.update_of_ne h _ s

theorem Program.testBit_setlo : (s.setlo i v i).testBit 0 = v.testBit 0 := by
  simp only [Program.setlo, Function.update_self, Nat.testBit_or, Nat.testBit_shiftLeft]
  simp

theorem Program.testBit_sethi : (s.sethi i v i).testBit 0 = (s i).testBit 0 := by
  simp only [Program.sethi, Function.update_self, Nat.testBit_or, Nat.testBit_shiftLeft, Nat.testBit_and]
  simp

end

/-- The instruction in the lower half of slot 3 may be a `nop`, a write of a CSR or a store: its first bit is set. -/
theorem testBit_gen_three (c : Command) : (c.gen 3).testBit 0 = true := by
  have hstart : (start 3).testBit 0 = true := by decide
  have hcsrw : ∀ n r : Nat, (csrw n r).testBit 0 = true := fun n r => by
    simp [csrw]
  have hstore : ∀ sz r b o : Nat, (store sz r b o).testBit 0 = true := fun sz r b o => by
    simp [store]
  have haccess : (c.genAccess.1 3).testBit 0 = true := by
    unfold Command.genAccess Command.genWrite Command.genRead
    dsimp only
    split_ifs <;>
      simp (disch := decide) only [Program.testBit_sethi, Program.testBit_setlo, Program.setlo_of_ne, hstart, hcsrw,
        hstore]
  unfold Command.gen
  dsimp only
  split_ifs
  · rw [Program.sethi_of_ne _ _ (by decide), haccess]
  · exact haccess
  · rw [Program.setlo_of_ne _ _ (by decide), hstart]

/-- A bit of slot 3 is reported: a write and a read of `dcsr` have different instructions there that agree at it. -/
theorem constant_bits_sound_dcsr :
    let write := Command.gen ⟨(0 : BitVec 8).toNat, (2 : BitVec 3).toNat, true, true, false, false,
      (0x7b0 : BitVec 16).toNat⟩
    let read := Command.gen ⟨(0 : BitVec 8).toNat, (2 : BitVec 3).toNat, true, false, false, false,
      (0x7b0 : BitVec 16).toNat⟩
    0 ∈ constantBits 3 ∧ write 3 ≠ read 3 ∧ (write 3).testBit 0 = (read 3).testBit 0 := by
  have hmem : 0 ∈ constantBits 3 := by
    refine mem_constantBits.mpr ⟨by decide, .inl ?_⟩
    intro p hp
    obtain ⟨c, -, rfl⟩ := List.mem_map.mp hp
    exact testBit_gen_three c
  exact ⟨hmem, by decide,
    (constant_bits_sound 0 0 2 2 0x7b0 0x7b0 true true true false false false false false 3 0 hmem).2⟩

end AbstractCmd

end RiscvDbg
