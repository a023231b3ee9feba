import RiscvDbg.Lib.Words

/-!
# Register and field definitions of the run-control slice

Model of `model/registers.py` as far as the reference models use it: `Field`, `Register`, and the
`dmcontrol` and `dmstatus` layouts.

* `Field.extract` / `Field.insert` — pull a field out of a word, replace it in a word.
* `Field.test` — the truth value Python gives a decoded field.
* `Register.decode` / `Register.encode` — split a word into its fields and build a word from field
  values; `Register.extract_encode` reads an encoded field back.  A field is named by its definition
  (`DMCONTROL.haltreq`) where the source looks it up by its name, so the `KeyError` of a misspelt name
  has no counterpart here.
* `hartselOf` / `withHartsel` — the 20-bit hart index kept in two fields of `dmcontrol`.

`DMCONTROL.test_*` read each one-bit field off the bit of the word; `testBit_hartselOf` and
`testBit_withHartsel` give the same for the hart index.
-/

set_option autoImplicit false

namespace RiscvDbg

/-- Access types of the register tables. -/
inductive Access where
  | r
  | rw
  | w1
  | w1c
  | warl
  | warz
  deriving DecidableEq, Repr

/-- The text of an access type, as it appears in messages. -/
def Access.text : Access → String
  | .r => "R"
  | .rw => "R/W"
  | .w1 => "W1"
  | .w1c => "W1C"
  | .warl => "WARL"
  | .warz => "WARZ"

/-- Membership in `ACCESS_READS_ZERO`. -/
def Access.readsZero : Access → Bool
  | .w1 | .warz => true
  | _ => false

/-- One named bit field of a DMI register. -/
structure Field where
  name : String
  lsb : Nat
  width : Nat
  access : Access
  spec : String
  /-- Reset value, `none` where the specification leaves it open. -/
  reset : Option Nat := none
  deriving DecidableEq, Repr

namespace Field

def readsZero (f : Field) : Bool := f.access.readsZero

def extract (f : Field) (word : Nat) : Nat := Words.extract f.lsb f.width word

def insert (f : Field) (word value : Nat) : Nat := Words.insert f.lsb f.width word value

/-- The truth value of a decoded field. -/
def test (f : Field) (word : Nat) : Bool := f.extract word != 0

theorem test_eq_testBit {f : Field} (h : f.width = 1) (word : Nat) :
    f.test word = word.testBit f.lsb := by
  rw [test, extract, h, Words.extract_one_ne_zero]

/-- Two fields that share no bit. -/
def Disjoint (f g : Field) : Prop := f.lsb + f.width ≤ g.lsb ∨ g.lsb + g.width ≤ f.lsb

instance (f g : Field) : Decidable (f.Disjoint g) :=
  inferInstanceAs (Decidable (f.lsb + f.width ≤ g.lsb ∨ g.lsb + g.width ≤ f.lsb))

theorem extract_insert_self (f : Field) (word value : Nat) :
    f.extract (f.insert word value) = value % 2 ^ f.width := by
  apply Nat.eq_of_testBit_eq
  intro i
  rw [extract, insert, Words.testBit_extract, Words.testBit_insert, Nat.testBit_mod_two_pow]
  by_cases h : i < f.width
  · rw [if_pos (by omega), Nat.add_sub_cancel_left, Bool.and_comm]
  · simp [h]

theorem extract_insert_of_disjoint {f g : Field} (h : f.Disjoint g) (word value : Nat) :
    f.extract (g.insert word value) = f.extract word := by
  apply Nat.eq_of_testBit_eq
  intro i
  rw [extract, insert, extract, Words.testBit_extract, Words.testBit_extract, Words.testBit_insert]
  by_cases hi : i < f.width
  · rw [if_neg (by rcases h with h | h <;> omega)]
  · simp [hi]

end Field

/-- A DMI register: an address and its fields. -/
structure Register where
  name : String
  address : Nat
  spec : String
  fields : List Field

namespace Register

/-- Split a register word into its fields. -/
def decode (r : Register) (word : Nat) : List (Field × Nat) :=
  r.fields.map fun f => (f, f.extract word)

/-- Build a register word from field values; fields that are not named are 0. -/
def encode (values : List (Field × Nat)) : Nat :=
  values.foldl (fun word fv => fv.1.insert word fv.2) 0

theorem extract_foldl_of_disjoint {f : Field} :
    ∀ (values : List (Field × Nat)) (word : Nat), (∀ g ∈ values.map Prod.fst, f.Disjoint g) →
      f.extract (values.foldl (fun word fv => fv.1.insert word fv.2) word) = f.extract word := by
  intro values
  induction values with
  | nil => intro word _; rfl
  | cons fv values ih =>
    intro word h
    rw [List.map_cons, List.forall_mem_cons] at h
    rw [List.foldl_cons, ih _ h.2]
    exact Field.extract_insert_of_disjoint h.1 word fv.2

/-- **A field of an encoded word holds the value encoded for it**, cut to the field's width. -/
theorem extract_encode {values : List (Field × Nat)}
    (hd : (values.map Prod.fst).Pairwise Field.Disjoint) {f : Field} {v : Nat}
    (hm : (f, v) ∈ values) : f.extract (encode values) = v % 2 ^ f.width := by
  unfold encode
  generalize (0 : Nat) = word
  induction values generalizing word with
  | nil => simp at hm
  | cons fv values ih =>
    rw [List.map_cons, List.pairwise_cons] at hd
    rw [List.foldl_cons]
    rcases List.mem_cons.mp hm with rfl | hm
    · rw [extract_foldl_of_disjoint values _ hd.1, Field.extract_insert_self]
    · exact ih hd.2 hm _

end Register

/-! ## dmcontrol (0x10) -/

namespace DMCONTROL

def haltreq : Field := ⟨"haltreq", 31, 1, .warz, "#3.14.2 haltreq", none⟩
def resumereq : Field := ⟨"resumereq", 30, 1, .w1, "#3.14.2 resumereq", none⟩
def hartreset : Field := ⟨"hartreset", 29, 1, .warl, "#3.14.2 hartreset", some 0⟩
def ackhavereset : Field := ⟨"ackhavereset", 28, 1, .w1, "#3.14.2 ackhavereset", none⟩
def ackunavail : Field := ⟨"ackunavail", 27, 1, .w1, "#3.14.2 ackunavail", none⟩
def hasel : Field := ⟨"hasel", 26, 1, .warl, "#3.14.2 hasel", some 0⟩
def hartsello : Field := ⟨"hartsello", 16, 10, .warl, "#3.14.2 hartsello", some 0⟩
def hartselhi : Field := ⟨"hartselhi", 6, 10, .warl, "#3.14.2 hartselhi", some 0⟩
def setkeepalive : Field := ⟨"setkeepalive", 5, 1, .w1, "#3.14.2 setkeepalive", none⟩
def clrkeepalive : Field := ⟨"clrkeepalive", 4, 1, .w1, "#3.14.2 clrkeepalive", none⟩
def setresethaltreq : Field := ⟨"setresethaltreq", 3, 1, .w1, "#3.14.2 setresethaltreq", none⟩
def clrresethaltreq : Field := ⟨"clrresethaltreq", 2, 1, .w1, "#3.14.2 clrresethaltreq", none⟩
def ndmreset : Field := ⟨"ndmreset", 1, 1, .rw, "#3.14.2 ndmreset", some 0⟩
def dmactive : Field := ⟨"dmactive", 0, 1, .rw, "#3.14.2 dmactive", some 0⟩

variable (w : Nat)

@[simp] theorem test_haltreq : haltreq.test w = w.testBit 31 := Field.test_eq_testBit rfl w
@[simp] theorem test_resumereq : resumereq.test w = w.testBit 30 := Field.test_eq_testBit rfl w
@[simp] theorem test_hartreset : hartreset.test w = w.testBit 29 := Field.test_eq_testBit rfl w
@[simp] theorem test_ackhavereset : ackhavereset.test w = w.testBit 28 := Field.test_eq_testBit rfl w
@[simp] theorem test_ackunavail : ackunavail.test w = w.testBit 27 := Field.test_eq_testBit rfl w
@[simp] theorem test_hasel : hasel.test w = w.testBit 26 := Field.test_eq_testBit rfl w
@[simp] theorem test_setresethaltreq : setresethaltreq.test w = w.testBit 3 :=
  Field.test_eq_testBit rfl w
@[simp] theorem test_clrresethaltreq : clrresethaltreq.test w = w.testBit 2 :=
  Field.test_eq_testBit rfl w
@[simp] theorem test_ndmreset : ndmreset.test w = w.testBit 1 := Field.test_eq_testBit rfl w
@[simp] theorem test_dmactive : dmactive.test w = w.testBit 0 := Field.test_eq_testBit rfl w

end DMCONTROL

open DMCONTROL in
def DMCONTROL : Register where
  name := "dmcontrol"
  address := 0x10
  spec := "#3.14.2"
  fields := [haltreq, resumereq, hartreset, ackhavereset, ackunavail, hasel, hartsello, hartselhi,
    setkeepalive, clrkeepalive, setresethaltreq, clrresethaltreq, ndmreset, dmactive]

/-- The fields of which a debugger may write 1 to at most one in any single write. -/
def DMCONTROL_MUTEX_BITS : List Field :=
  [DMCONTROL.resumereq, DMCONTROL.hartreset, DMCONTROL.ackhavereset, DMCONTROL.setresethaltreq,
    DMCONTROL.clrresethaltreq]

/-! ## dmstatus (0x11) -/

namespace DMSTATUS

def ndmresetpending : Field := ⟨"ndmresetpending", 24, 1, .r, "#3.14.1 ndmresetpending", none⟩
def stickyunavail : Field := ⟨"stickyunavail", 23, 1, .r, "#3.14.1 stickyunavail", none⟩
def impebreak : Field := ⟨"impebreak", 22, 1, .r, "#3.14.1 impebreak", none⟩
def allhavereset : Field := ⟨"allhavereset", 19, 1, .r, "#3.14.1 allhavereset", none⟩
def anyhavereset : Field := ⟨"anyhavereset", 18, 1, .r, "#3.14.1 anyhavereset", none⟩
def allresumeack : Field := ⟨"allresumeack", 17, 1, .r, "#3.14.1 allresumeack", none⟩
def anyresumeack : Field := ⟨"anyresumeack", 16, 1, .r, "#3.14.1 anyresumeack", none⟩
def allnonexistent : Field := ⟨"allnonexistent", 15, 1, .r, "#3.14.1 allnonexistent", none⟩
def anynonexistent : Field := ⟨"anynonexistent", 14, 1, .r, "#3.14.1 anynonexistent", none⟩
def allunavail : Field := ⟨"allunavail", 13, 1, .r, "#3.14.1 allunavail", none⟩
def anyunavail : Field := ⟨"anyunavail", 12, 1, .r, "#3.14.1 anyunavail", none⟩
def allrunning : Field := ⟨"allrunning", 11, 1, .r, "#3.14.1 allrunning", none⟩
def anyrunning : Field := ⟨"anyrunning", 10, 1, .r, "#3.14.1 anyrunning", none⟩
def allhalted : Field := ⟨"allhalted", 9, 1, .r, "#3.14.1 allhalted", none⟩
def anyhalted : Field := ⟨"anyhalted", 8, 1, .r, "#3.14.1 anyhalted", none⟩
def authenticated : Field := ⟨"authenticated", 7, 1, .r, "#3.14.1 authenticated", none⟩
def authbusy : Field := ⟨"authbusy", 6, 1, .r, "#3.14.1 authbusy", none⟩
def hasresethaltreq : Field := ⟨"hasresethaltreq", 5, 1, .r, "#3.14.1 hasresethaltreq", none⟩
def confstrptrvalid : Field := ⟨"confstrptrvalid", 4, 1, .r, "#3.14.1 confstrptrvalid", none⟩
def version : Field := ⟨"version", 0, 4, .r, "#3.14.1 version", some 3⟩

end DMSTATUS

open DMSTATUS in
def DMSTATUS : Register where
  name := "dmstatus"
  address := 0x11
  spec := "#3.14.1"
  fields := [ndmresetpending, stickyunavail, impebreak, allhavereset, anyhavereset, allresumeack,
    anyresumeack, allnonexistent, anynonexistent, allunavail, anyunavail, allrunning, anyrunning,
    allhalted, anyhalted, authenticated, authbusy, hasresethaltreq, confstrptrvalid, version]

def DMSTATUS_VERSION_NONE : Nat := 0
def DMSTATUS_VERSION_0_13 : Nat := 2
def DMSTATUS_VERSION_1_0 : Nat := 3

/-- The `(all*, any*)` pairs: `all_x` implies `any_x` for every non-empty selection. -/
def DMSTATUS_ALL_ANY_PAIRS : List (Field × Field) :=
  [(DMSTATUS.allhavereset, DMSTATUS.anyhavereset), (DMSTATUS.allresumeack, DMSTATUS.anyresumeack),
    (DMSTATUS.allnonexistent, DMSTATUS.anynonexistent), (DMSTATUS.allunavail, DMSTATUS.anyunavail),
    (DMSTATUS.allrunning, DMSTATUS.anyrunning), (DMSTATUS.allhalted, DMSTATUS.anyhalted)]

/-! ## hartsel -/

/-- Assemble the 20-bit hart index from its two `dmcontrol` fields. -/
def hartselOf (dmcontrolWord : Nat) : Nat :=
  let hi := DMCONTROL.hartselhi.extract dmcontrolWord
  let lo := DMCONTROL.hartsello.extract dmcontrolWord
  (hi <<< 10) ||| lo

/-- The word with the hart index split across `hartselhi` and `hartsello`. -/
def withHartsel (dmcontrolWord hartsel : Nat) : Nat :=
  let word := DMCONTROL.hartsello.insert dmcontrolWord (hartsel &&& 0x3FF)
  DMCONTROL.hartselhi.insert word ((hartsel >>> 10) &&& 0x3FF)

theorem testBit_hartselOf (word i : Nat) :
    (hartselOf word).testBit i =
      if i < 10 then word.testBit (16 + i) else if i < 20 then word.testBit (6 + (i - 10)) else false := by
  simp only [hartselOf, Field.extract, DMCONTROL.hartselhi, DMCONTROL.hartsello, Nat.testBit_or,
    Nat.testBit_shiftLeft, Words.testBit_extract]
  by_cases h : i < 10
  · have : ¬ 10 ≤ i := by omega
    simp [h, this]
  · have h₁ : 10 ≤ i := by omega
    by_cases h₂ : i < 20
    · have : i - 10 < 10 := by omega
      simp [h, h₁, h₂, this]
    · have : ¬ i - 10 < 10 := by omega
      simp [h, h₁, h₂, this]

theorem hartselOf_lt (word : Nat) : hartselOf word < 2 ^ 20 := by
  apply Nat.lt_pow_two_of_testBit
  intro i hi
  rw [testBit_hartselOf, if_neg (by omega), if_neg (by omega)]

theorem testBit_withHartsel (word hartsel i : Nat) :
    (withHartsel word hartsel).testBit i =
      if 6 ≤ i ∧ i < 16 then hartsel.testBit (10 + (i - 6))
      else if 16 ≤ i ∧ i < 26 then hartsel.testBit (i - 16) else word.testBit i := by
  have hmask : (0x3FF : Nat) = Words.ones 10 := rfl
  simp only [withHartsel, Field.insert, DMCONTROL.hartselhi, DMCONTROL.hartsello,
    Words.testBit_insert, hmask, Nat.testBit_and, Nat.testBit_shiftRight, Words.testBit_ones]
  by_cases h₁ : 6 ≤ i ∧ i < 16
  · have : i - 6 < 10 := by omega
    rw [if_pos h₁, if_pos h₁]
    simp [this]
  · rw [if_neg h₁, if_neg h₁]
    by_cases h₂ : 16 ≤ i ∧ i < 26
    · have : i - 16 < 10 := by omega
      rw [if_pos h₂, if_pos h₂]
      simp [this]
    · rw [if_neg h₂, if_neg h₂]

end RiscvDbg
