import Mathlib.Tactic.IntervalCases
import RiscvDbg.RegisterTable
import RiscvDbg.Api.RunControl

/-!
# The register codecs and their copies in the debug API

`Register.encode` and `Register.decode` of `model/registers.py` by field name, and the shift
expressions of `api/riscv_dm.py` that repeat two of the layouts to keep out of an import cycle.

* `Register.field`, `encodeNamed`, `decodeNamed` — the lookups by name; a misspelt name is the `KeyError`.
* `Register.LaidOut` — what makes the codec work: disjoint fields inside 32 bits, under distinct names.
* `decodeNamed_encodeNamed`, `encodeNamed_decodeNamed` — the two round trips of a laid-out register.
* `hartselOf_withHartsel`, `withHartsel_hartselOf` — the hart index in its two fields.
* `encodeNamed_dmcontrol`, `encodeNamed_dmcs2` — **the encoders of the API are those of the tables.**
-/

set_option autoImplicit false

namespace RiscvDbg

namespace Field

/-- Bit `i` lies in the field. -/
def Covers (f : Field) (i : Nat) : Prop := f.lsb ≤ i ∧ i < f.lsb + f.width

instance instDecidableCovers (f : Field) (i : Nat) : Decidable (f.Covers i) :=
  inferInstanceAs (Decidable (f.lsb ≤ i ∧ i < f.lsb + f.width))

theorem Disjoint.symm {f g : Field} (h : f.Disjoint g) : g.Disjoint f := Or.symm h

theorem testBit_of_covers {f : Field} {i : Nat} (h : f.Covers i) (word : Nat) :
    word.testBit i = (f.extract word).testBit (i - f.lsb) := by
  obtain ⟨hle, hlt⟩ := h
  rw [extract, Words.testBit_extract, decide_eq_true (by omega), Nat.add_sub_cancel' hle]
  simp

theorem testBit_mask (f : Field) (i : Nat) : f.mask.testBit i = decide (f.Covers i) := by
  rw [mask, Nat.testBit_shiftLeft, Words.testBit_ones, Bool.eq_iff_iff]
  simp only [ge_iff_le, Bool.and_eq_true, decide_eq_true_eq]
  constructor
  · rintro ⟨hle, hlt⟩
    exact ⟨hle, by omega⟩
  · rintro ⟨hle, hlt⟩
    exact ⟨hle, by omega⟩

theorem testBit_insert_of_not_covers {f : Field} {i : Nat} (h : ¬ f.Covers i) (word value : Nat) :
    (f.insert word value).testBit i = word.testBit i := by
  rw [insert, Words.testBit_insert]
  exact if_neg h

theorem extract_zero (f : Field) : f.extract 0 = 0 := by
  rw [extract, Words.extract, Nat.zero_shiftRight, Nat.zero_and]

theorem extract_lt (f : Field) (word : Nat) : f.extract word < 2 ^ f.width := by
  rw [extract, Words.extract, Words.and_ones]
  exact Nat.mod_lt _ (Nat.two_pow_pos _)

/-- A one-bit field, read as a number. -/
theorem extract_eq_toNat {f : Field} (h : f.width = 1) (word : Nat) :
    f.extract word = (word.testBit f.lsb).toNat := by
  apply Nat.eq_of_testBit_eq
  intro i
  rw [extract, Words.testBit_extract, h, Nat.testBit_bool_toNat]
  by_cases hi : i = 0
  · simp [hi]
  · have hge : ¬ i < 1 := by omega
    simp [hi, hge]

end Field

namespace Register

/-! ## The codec by field name -/

/-- `Register.field`; `none` is the `KeyError`. -/
def field (r : Register) (name : String) : Option Field := r.fields.find? fun f => f.name == name

/-- `Register.encode` with its keyword arguments. -/
def encodeNamed (r : Register) (values : List (String × Int)) : Option Nat :=
  values.foldlM (fun word nv => (r.field nv.1).map fun f => f.insert word (lowBits f.width nv.2)) 0

/-- `Register.decode`. -/
def decodeNamed (r : Register) (word : Nat) : List (String × Nat) :=
  r.fields.map fun f => (f.name, f.extract word)

/-- The bits that belong to a field. -/
def mask (r : Register) : Nat := r.fields.foldl (fun m f => m ||| f.mask) 0

/-- What a register's table has to satisfy. -/
structure LaidOut (r : Register) : Prop where
  disjoint : r.fields.Pairwise Field.Disjoint
  within : ∀ f ∈ r.fields, f.lsb + f.width ≤ 32
  names : (r.fields.map Field.name).Nodup

theorem laidOut_iff (r : Register) :
    r.LaidOut ↔ r.fields.Pairwise Field.Disjoint ∧ (∀ f ∈ r.fields, f.lsb + f.width ≤ 32) ∧
      (r.fields.map Field.name).Nodup :=
  ⟨fun h => ⟨h.disjoint, h.within, h.names⟩, fun h => ⟨h.1, h.2.1, h.2.2⟩⟩

instance instDecidableLaidOut (r : Register) : Decidable r.LaidOut := decidable_of_iff' _ r.laidOut_iff

variable {r : Register}

theorem field_name {name : String} {f : Field} (h : r.field name = some f) : f ∈ r.fields ∧ f.name = name :=
  ⟨List.mem_of_find?_eq_some h, by simpa using List.find?_some h⟩

theorem field_of_mem_names {name : String} (h : name ∈ r.fields.map Field.name) :
    ∃ f, r.field name = some f := by
  obtain ⟨f, hf, rfl⟩ := List.mem_map.mp h
  exact Option.isSome_iff_exists.mp (List.find?_isSome.mpr ⟨f, hf, by simp⟩)

theorem LaidOut.eq_of_name (h : r.LaidOut) {f g : Field} (hf : f ∈ r.fields) (hg : g ∈ r.fields)
    (hn : f.name = g.name) : f = g :=
  List.inj_on_of_nodup_map h.names hf hg hn

theorem LaidOut.disjoint_of_ne (h : r.LaidOut) {f g : Field} (hf : f ∈ r.fields) (hg : g ∈ r.fields)
    (hn : f.name ≠ g.name) : f.Disjoint g := by
  have hsymm : Std.Symm Field.Disjoint := ⟨fun _ _ => Field.Disjoint.symm⟩
  exact h.disjoint.forall hf hg fun heq => hn (by rw [heq])

/-- Encoding over a word that already holds something: each field ends with the value named for it, or
with what the word held. -/
theorem LaidOut.extract_foldlM (h : r.LaidOut) {f : Field} (hf : f ∈ r.fields) :
    ∀ (values : List (String × Int)) (word : Nat), (values.map Prod.fst).Nodup →
      (∀ n ∈ values.map Prod.fst, n ∈ r.fields.map Field.name) →
      ∃ w, values.foldlM (fun word nv => (r.field nv.1).map fun g => g.insert word (lowBits g.width nv.2)) word
          = some w ∧
        f.extract w = ((values.lookup f.name).map (lowBits f.width)).getD (f.extract word) := by
  intro values
  induction values with
  | nil => intro word _ _; exact ⟨word, rfl, rfl⟩
  | cons nv values ih =>
    intro word hnd hnames
    obtain ⟨n, v⟩ := nv
    rw [List.map_cons, List.nodup_cons] at hnd
    rw [List.map_cons, List.forall_mem_cons] at hnames
    obtain ⟨g, hg⟩ := field_of_mem_names hnames.1
    obtain ⟨hgm, hgn⟩ := field_name hg
    obtain ⟨w, hw, hext⟩ := ih (g.insert word (lowBits g.width v)) hnd.2 hnames.2
    refine ⟨w, ?_, ?_⟩
    · rw [List.foldlM_cons, hg]
      exact hw
    · rw [hext, List.lookup_cons]
      by_cases heq : f.name = n
      · -- the field named here is not named again
        have hfg : f = g := h.eq_of_name hf hgm (heq.trans hgn.symm)
        have hnone : values.lookup f.name = none := by
          rw [List.lookup_eq_none_iff]
          intro p hp
          rw [bne_iff_ne, heq]
          intro hn
          exact hnd.1 (List.mem_map.mpr ⟨p, hp, hn.symm⟩)
        rw [hnone, heq, beq_self_eq_true, ← hfg, Field.extract_insert_self,
          Nat.mod_eq_of_lt (lowBits_lt _ _)]
        rfl
      · have hdis : f.Disjoint g := h.disjoint_of_ne hf hgm (by rw [hgn]; exact heq)
        rw [beq_false_of_ne heq, Field.extract_insert_of_disjoint hdis]

/-- No bit outside the fields is ever set. -/
theorem testBit_foldlM_of_not_covers {i : Nat} (hi : ∀ f ∈ r.fields, ¬ f.Covers i) :
    ∀ (values : List (String × Int)) (word w : Nat),
      values.foldlM (fun word nv => (r.field nv.1).map fun g => g.insert word (lowBits g.width nv.2)) word
        = some w → w.testBit i = word.testBit i := by
  intro values
  induction values with
  | nil =>
    intro word w h
    obtain rfl : word = w := by simpa using h
    rfl
  | cons nv values ih =>
    intro word w h
    rw [List.foldlM_cons] at h
    obtain ⟨word', hstep, hrest⟩ := Option.bind_eq_some_iff.mp h
    obtain ⟨g, hg, rfl⟩ := Option.map_eq_some_iff.mp hstep
    rw [ih _ _ hrest, Field.testBit_insert_of_not_covers (hi g (field_name hg).1)]

theorem LaidOut.lt_of_encodeNamed (h : r.LaidOut) {values : List (String × Int)} {w : Nat}
    (hw : r.encodeNamed values = some w) : w < 2 ^ 32 := by
  apply Nat.lt_pow_two_of_testBit
  intro i hi
  rw [testBit_foldlM_of_not_covers _ values 0 w hw, Nat.zero_testBit]
  intro f hf hc
  have hle := h.within f hf
  have hlt := hc.2
  omega

/-- **Decoding an encoded word** gives each field the value named for it, cut to its width, and 0 to the
fields that were not named. -/
theorem LaidOut.decodeNamed_encodeNamed (h : r.LaidOut) (values : List (String × Int))
    (hnd : (values.map Prod.fst).Nodup) (hnames : ∀ n ∈ values.map Prod.fst, n ∈ r.fields.map Field.name) :
    ∃ w, r.encodeNamed values = some w ∧
      r.decodeNamed w = r.fields.map fun f => (f.name, lowBits f.width ((values.lookup f.name).getD 0)) := by
  -- any one field shows that the encoding succeeds; a register without fields takes no values
  have hsome : ∃ w, r.encodeNamed values = some w := by
    rcases values with _ | ⟨⟨n, v⟩, values⟩
    · exact ⟨0, rfl⟩
    · obtain ⟨f, hf, -⟩ := List.mem_map.mp (hnames n (by simp))
      obtain ⟨w, hw, -⟩ := h.extract_foldlM hf _ 0 hnd hnames
      exact ⟨w, hw⟩
  obtain ⟨w, hw⟩ := hsome
  refine ⟨w, hw, List.map_congr_left fun f hf => ?_⟩
  obtain ⟨w', hw', hext⟩ := h.extract_foldlM hf values 0 hnd hnames
  obtain rfl : w = w' := Option.some.inj (hw.symm.trans hw')
  rw [hext, Field.extract_zero]
  rcases values.lookup f.name with _ | v
  · simp [lowBits]
  · rfl

theorem testBit_mask (r : Register) (i : Nat) : r.mask.testBit i = decide (∃ f ∈ r.fields, f.Covers i) := by
  have hfold : ∀ (fs : List Field) (m : Nat), (fs.foldl (fun m f => m ||| f.mask) m).testBit i =
      (m.testBit i || decide (∃ f ∈ fs, f.Covers i)) := by
    intro fs
    induction fs with
    | nil => intro m; simp
    | cons f fs ih =>
      intro m
      rw [List.foldl_cons, ih, Nat.testBit_or, Field.testBit_mask, Bool.or_assoc]
      congr 1
      rw [Bool.eq_iff_iff]
      simp
  rw [mask, hfold, Nat.zero_testBit, Bool.false_or]

/-- The decoded fields, as keyword arguments. -/
def decodedValues (r : Register) (word : Nat) : List (String × Int) :=
  (r.decodeNamed word).map fun nv => (nv.1, (nv.2 : Int))

theorem map_fst_decodedValues (r : Register) (word : Nat) :
    (r.decodedValues word).map Prod.fst = r.fields.map Field.name := by
  rw [decodedValues, decodeNamed, List.map_map, List.map_map]
  rfl

/-- Looking up a field of a table whose names are distinct. -/
theorem lookup_map_name {β : Type} (val : Field → β) {f : Field} :
    ∀ fs : List Field, (fs.map Field.name).Nodup → f ∈ fs →
      (fs.map fun g => (g.name, val g)).lookup f.name = some (val f) := by
  intro fs
  induction fs with
  | nil => intro _ hf; simp at hf
  | cons g fs ih =>
    intro hnd hf
    rw [List.map_cons, List.nodup_cons] at hnd
    rw [List.map_cons, List.lookup_cons]
    rcases List.mem_cons.mp hf with rfl | hf
    · rw [beq_self_eq_true]
    · have hne : f.name ≠ g.name := fun heq => hnd.1 (heq ▸ List.mem_map_of_mem hf)
      rw [beq_false_of_ne hne]
      exact ih hnd.2 hf

theorem LaidOut.lookup_decodedValues (h : r.LaidOut) {f : Field} (hf : f ∈ r.fields) (word : Nat) :
    (r.decodedValues word).lookup f.name = some (f.extract word : Int) := by
  rw [decodedValues, decodeNamed, List.map_map]
  exact lookup_map_name (fun g => (g.extract word : Int)) r.fields h.names hf

/-- **Encoding a decoded word** gives its bits in the fields. -/
theorem LaidOut.encodeNamed_decodedValues (h : r.LaidOut) (word : Nat) :
    r.encodeNamed (r.decodedValues word) = some (word &&& r.mask) := by
  have hnd : ((r.decodedValues word).map Prod.fst).Nodup := by
    rw [map_fst_decodedValues]
    exact h.names
  have hnames : ∀ n ∈ (r.decodedValues word).map Prod.fst, n ∈ r.fields.map Field.name := by
    rw [map_fst_decodedValues]
    exact fun n hn => hn
  obtain ⟨w, hw, -⟩ := h.decodeNamed_encodeNamed _ hnd hnames
  rw [hw]
  congr 1
  apply Nat.eq_of_testBit_eq
  intro i
  rw [Nat.testBit_and, testBit_mask]
  by_cases hi : ∃ f ∈ r.fields, f.Covers i
  · obtain ⟨f, hf, hc⟩ := hi
    obtain ⟨w', hw', hext⟩ := h.extract_foldlM hf _ 0 hnd hnames
    obtain rfl : w = w' := Option.some.inj (hw.symm.trans hw')
    rw [h.lookup_decodedValues hf, Option.map_some, Option.getD_some, lowBits_natCast (f.extract_lt word)] at hext
    rw [Field.testBit_of_covers hc w, hext, ← Field.testBit_of_covers hc word,
      decide_eq_true ⟨f, hf, hc⟩, Bool.and_true]
  · have hno : ∀ f ∈ r.fields, ¬ f.Covers i := fun f hf hc => hi ⟨f, hf, hc⟩
    rw [testBit_foldlM_of_not_covers hno _ 0 w hw, Nat.zero_testBit, decide_eq_false hi, Bool.and_false]

/-- A word is the encoding of given values when its fields hold them and it has no other bit. -/
theorem LaidOut.encodeNamed_eq (h : r.LaidOut) {values : List (String × Int)} {word : Nat}
    (hnd : (values.map Prod.fst).Nodup) (hnames : ∀ n ∈ values.map Prod.fst, n ∈ r.fields.map Field.name)
    (hext : ∀ f ∈ r.fields, f.extract word = lowBits f.width ((values.lookup f.name).getD 0))
    (hmask : word &&& r.mask = word) : r.encodeNamed values = some word := by
  obtain ⟨w, hw, hdec⟩ := h.decodeNamed_encodeNamed values hnd hnames
  have hfield : ∀ f ∈ r.fields, f.extract w = f.extract word := by
    intro f hf
    rw [hext f hf]
    have := List.map_inj_left.mp hdec f hf
    exact (Prod.mk.inj this).2
  rw [hw]
  congr 1
  apply Nat.eq_of_testBit_eq
  intro i
  by_cases hi : ∃ f ∈ r.fields, f.Covers i
  · obtain ⟨f, hf, hc⟩ := hi
    rw [Field.testBit_of_covers hc w, hfield f hf, ← Field.testBit_of_covers hc word]
  · have hno : ∀ f ∈ r.fields, ¬ f.Covers i := fun f hf hc => hi ⟨f, hf, hc⟩
    rw [testBit_foldlM_of_not_covers hno values 0 w hw, Nat.zero_testBit, ← hmask, Nat.testBit_and,
      testBit_mask, decide_eq_false hi, Bool.and_false]

end Register

/-- **Every register of the file is laid out.** -/
theorem laidOut_of_declared : ∀ r ∈ declaredRegisters, r.LaidOut := by
  decide +kernel

/-! ## The hart index -/

theorem hartselOf_withHartsel (word : Nat) {hartsel : Nat} (h : hartsel < 2 ^ 20) :
    hartselOf (withHartsel word hartsel) = hartsel := by
  apply Nat.eq_of_testBit_eq
  intro i
  rw [testBit_hartselOf]
  split_ifs with h₁ h₂
  · rw [testBit_withHartsel, if_neg (by omega), if_pos (by omega), Nat.add_sub_cancel_left]
  · rw [testBit_withHartsel, if_pos (by omega)]
    congr 1
    omega
  · exact (Nat.testBit_lt_two_pow (Nat.lt_of_lt_of_le h (Nat.pow_le_pow_right (by decide) (by omega)))).symm

theorem withHartsel_hartselOf (word : Nat) : withHartsel word (hartselOf word) = word := by
  apply Nat.eq_of_testBit_eq
  intro i
  rw [testBit_withHartsel]
  split_ifs with h₁ h₂
  · rw [testBit_hartselOf, if_neg (by omega), if_pos (by omega)]
    congr 1
    omega
  · rw [testBit_hartselOf, if_pos (by omega)]
    congr 1
    omega
  · rfl

/-! ## The accessors of the debug API -/

/-- `bool((word >> k) & 1)`. -/
def wordBit (word : Int) (k : Nat) : Bool := word / 2 ^ k % 2 != 0

/-- `dmcontrol_hartsel`. -/
def dmcontrolHartsel (word : Int) : Nat :=
  let hi := lowBits 10 (word / 2 ^ 6)
  let lo := lowBits 10 (word / 2 ^ 16)
  (hi <<< 10) ||| lo

/-- `dmcontrol_dmactive`. -/
def dmcontrolDmactive (word : Int) : Bool := wordBit word 0

/-- `dmcontrol_ndmreset`. -/
def dmcontrolNdmreset (word : Int) : Bool := wordBit word 1

/-- `dmcontrol_hartreset`. -/
def dmcontrolHartreset (word : Int) : Bool := wordBit word 29

/-- `dmcontrol_hasel`. -/
def dmcontrolHasel (word : Int) : Bool := wordBit word 26

/-- `anyhalted`. -/
def anyhalted (dmstatus : Int) : Bool := wordBit dmstatus 8

/-- `anyrunning`. -/
def anyrunning (dmstatus : Int) : Bool := wordBit dmstatus 10

/-- `anyunavail`. -/
def anyunavail (dmstatus : Int) : Bool := wordBit dmstatus 12

/-- `allresumeack`. -/
def allresumeack (dmstatus : Int) : Bool := wordBit dmstatus 17

/-- `anyresumeack`. -/
def anyresumeack (dmstatus : Int) : Bool := wordBit dmstatus 16

/-- `allhavereset`. -/
def allhavereset (dmstatus : Int) : Bool := wordBit dmstatus 19

/-- `anyhavereset`. -/
def anyhavereset (dmstatus : Int) : Bool := wordBit dmstatus 18

/-- `allnonexistent`. -/
def allnonexistent (dmstatus : Int) : Bool := wordBit dmstatus 15

/-- `anynonexistent`. -/
def anynonexistent (dmstatus : Int) : Bool := wordBit dmstatus 14

/-- `hasresethaltreq`. -/
def hasresethaltreq (dmstatus : Int) : Bool := wordBit dmstatus 5

/-- `ndmresetpending`. -/
def ndmresetpending (dmstatus : Int) : Bool := wordBit dmstatus 24

/-- `version`. -/
def version (dmstatus : Int) : Nat := lowBits 4 dmstatus

/-- `dmcs2_hgselect`. -/
def dmcs2Hgselect (word : Int) : Bool := wordBit word 0

/-- `dmcs2_group`. -/
def dmcs2Group (word : Int) : Nat := lowBits 5 (word / 2 ^ 2)

/-- `dmcs2_dmexttrigger`. -/
def dmcs2Dmexttrigger (word : Int) : Nat := lowBits 4 (word / 2 ^ 7)

/-- `dmcs2_grouptype`. -/
def dmcs2Grouptype (word : Int) : Bool := wordBit word 11

/-- The flag accessors of `api/riscv_dm.py`, each beside the field it re-derives. -/
def flagAccessors : List ((Int → Bool) × Field) :=
  [(dmcontrolDmactive, DMCONTROL.dmactive), (dmcontrolNdmreset, DMCONTROL.ndmreset),
    (dmcontrolHartreset, DMCONTROL.hartreset), (dmcontrolHasel, DMCONTROL.hasel),
    (allhalted, DMSTATUS.allhalted), (anyhalted, DMSTATUS.anyhalted),
    (allrunning, DMSTATUS.allrunning), (anyrunning, DMSTATUS.anyrunning),
    (anyunavail, DMSTATUS.anyunavail),
    (allresumeack, DMSTATUS.allresumeack), (anyresumeack, DMSTATUS.anyresumeack),
    (allhavereset, DMSTATUS.allhavereset), (anyhavereset, DMSTATUS.anyhavereset),
    (allnonexistent, DMSTATUS.allnonexistent), (anynonexistent, DMSTATUS.anynonexistent),
    (hasresethaltreq, DMSTATUS.hasresethaltreq), (ndmresetpending, DMSTATUS.ndmresetpending),
    (dmcs2Hgselect, DMCS2.hgselect), (dmcs2Grouptype, DMCS2.grouptype)]

/-- The accessors that return a number. -/
def valueAccessors : List ((Int → Nat) × Field) :=
  [(version, DMSTATUS.version), (dmcs2Group, DMCS2.group), (dmcs2Dmexttrigger, DMCS2.dmexttrigger)]

theorem wordBit_natCast (word k : Nat) : wordBit word k = word.testBit k := by
  rw [wordBit, Nat.testBit_eq_decide_div_mod_eq, Bool.eq_iff_iff, bne_iff_ne, decide_eq_true_eq]
  have hcast : (word : Int) / 2 ^ k = ((word / 2 ^ k : Nat) : Int) := by push_cast; rfl
  rw [hcast]
  omega

theorem lowBits_shift (word k width : Nat) :
    lowBits width ((word : Int) / 2 ^ k) = Words.extract k width word := by
  have hcast : (word : Int) / 2 ^ k % 2 ^ width = ((word / 2 ^ k % 2 ^ width : Nat) : Int) := by
    push_cast
    rfl
  rw [lowBits, hcast, Int.toNat_natCast, Words.extract, Words.and_ones, Nat.shiftRight_eq_div_pow]

theorem flagAccessors_eq {q : (Int → Bool) × Field} (hq : q ∈ flagAccessors) (word : Nat) :
    q.1 word = q.2.test word := by
  -- every accessor is a shift by its field's position, and every field has one bit
  have hshape : ∀ q ∈ flagAccessors, q.2.width = 1 ∧ q.1 = fun w => wordBit w q.2.lsb := by
    simp only [flagAccessors, List.forall_mem_cons]
    refine ⟨⟨rfl, rfl⟩, ⟨rfl, rfl⟩, ⟨rfl, rfl⟩, ⟨rfl, rfl⟩, ⟨rfl, rfl⟩, ⟨rfl, rfl⟩, ⟨rfl, rfl⟩, ⟨rfl, rfl⟩,
      ⟨rfl, rfl⟩, ⟨rfl, rfl⟩, ⟨rfl, rfl⟩, ⟨rfl, rfl⟩, ⟨rfl, rfl⟩, ⟨rfl, rfl⟩, ⟨rfl, rfl⟩, ⟨rfl, rfl⟩,
      ⟨rfl, rfl⟩, ⟨rfl, rfl⟩, ⟨rfl, rfl⟩, by simp⟩
  obtain ⟨hw, hacc⟩ := hshape q hq
  rw [hacc, Field.test_eq_testBit hw]
  exact wordBit_natCast word q.2.lsb

theorem valueAccessors_eq {q : (Int → Nat) × Field} (hq : q ∈ valueAccessors) (word : Nat) :
    q.1 word = q.2.extract word := by
  simp only [valueAccessors, List.mem_cons, List.not_mem_nil, or_false] at hq
  rcases hq with rfl | rfl | rfl
  · have h := lowBits_shift word 0 4
    rw [pow_zero, Int.ediv_one] at h
    exact h
  · exact lowBits_shift word 2 5
  · exact lowBits_shift word 7 4

theorem dmcontrolHartsel_eq (word : Nat) : dmcontrolHartsel word = hartselOf word := by
  unfold dmcontrolHartsel hartselOf
  rw [lowBits_shift, lowBits_shift]
  rfl

/-! ## The encoders of the debug API -/

/-- The keyword arguments of `DMCONTROL.encode` that say what the arguments of `dmcontrol` say. -/
def DmcontrolArgs.fieldValues (a : DmcontrolArgs) : List (String × Int) :=
  [("haltreq", a.haltreq.toNat), ("resumereq", a.resumereq.toNat), ("hartreset", a.hartreset.toNat),
    ("ackhavereset", a.ackhavereset.toNat), ("ackunavail", a.ackunavail.toNat), ("hasel", a.hasel.toNat),
    ("hartsello", a.hartsel), ("hartselhi", a.hartsel / 2 ^ 10),
    ("setkeepalive", a.setkeepalive.toNat), ("clrkeepalive", a.clrkeepalive.toNat),
    ("setresethaltreq", a.setresethaltreq.toNat), ("clrresethaltreq", a.clrresethaltreq.toNat),
    ("ndmreset", a.ndmreset.toNat), ("dmactive", a.dmactive.toNat)]

/-- The keyword arguments of `DMCS2.encode` for the arguments of `dmcs2`. -/
def Dmcs2Args.fieldValues (a : Dmcs2Args) : List (String × Int) :=
  [("grouptype", a.grouptype.toNat), ("dmexttrigger", a.dmexttrigger), ("group", a.group),
    ("hgwrite", a.hgwrite.toNat), ("hgselect", a.hgselect.toNat)]

theorem lowBits_one_toNat (b : Bool) : lowBits 1 (b.toNat : Int) = b.toNat := by
  cases b <;> rfl

/-- A flag field of a word that has the flag at its place. -/
theorem Field.extract_flag {f : Field} {word : Nat} {b : Bool} (hw : f.width = 1)
    (hb : word.testBit f.lsb = b) : f.extract word = lowBits f.width (b.toNat : Int) := by
  rw [Field.extract_eq_toNat hw, hb, hw, lowBits_one_toNat]

theorem extract_hartsello_dmcontrol (a : DmcontrolArgs) :
    DMCONTROL.hartsello.extract (dmcontrol a) = lowBits 10 a.hartsel := by
  apply Nat.eq_of_testBit_eq
  intro i
  rw [Field.extract, DMCONTROL.hartsello, Words.testBit_extract]
  by_cases hi : i < 10
  · rw [testBit_dmcontrol]
    simp (disch := omega) only [testBit_lowBits_of_le, decide_eq_false, decide_eq_true, Bool.and_false,
      Bool.false_and, Bool.or_false, Bool.false_or, Bool.true_and, Bool.and_true, Nat.add_sub_cancel_left]
  · have hlow : (lowBits 10 a.hartsel).testBit i = false := testBit_lowBits_of_le (by omega) _
    simp [hi, hlow]

theorem extract_hartselhi_dmcontrol (a : DmcontrolArgs) :
    DMCONTROL.hartselhi.extract (dmcontrol a) = lowBits 10 (a.hartsel / 2 ^ 10) := by
  apply Nat.eq_of_testBit_eq
  intro i
  rw [Field.extract, DMCONTROL.hartselhi, Words.testBit_extract]
  by_cases hi : i < 10
  · rw [testBit_dmcontrol]
    simp (disch := omega) only [decide_eq_false, decide_eq_true, Bool.or_false, Bool.false_or, Bool.true_and,
      Bool.false_and, Bool.and_true, Nat.add_sub_cancel_left]
  · have hlow : (lowBits 10 (a.hartsel / 2 ^ 10)).testBit i = false := testBit_lowBits_of_le (by omega) _
    rw [hlow, decide_eq_false hi, Bool.and_false]

/-- The flag that `dmcontrol` shifts to bit `i`. -/
def DmcontrolArgs.flagAt (a : DmcontrolArgs) : Nat → Bool
  | 0 => a.dmactive
  | 1 => a.ndmreset
  | 2 => a.clrresethaltreq
  | 3 => a.setresethaltreq
  | 4 => a.clrkeepalive
  | 5 => a.setkeepalive
  | 26 => a.hasel
  | 27 => a.ackunavail
  | 28 => a.ackhavereset
  | 29 => a.hartreset
  | 30 => a.resumereq
  | 31 => a.haltreq
  | _ => false

theorem testBit_dmcontrol_flagAt (a : DmcontrolArgs) {i : Nat} (h : i < 6 ∨ 26 ≤ i ∧ i < 32) :
    (dmcontrol a).testBit i = a.flagAt i := by
  rw [testBit_dmcontrol]
  rcases h with h | ⟨h, hlt⟩
  · interval_cases i <;> simp [DmcontrolArgs.flagAt]
  · simp (disch := omega) only [testBit_lowBits_of_le, Bool.and_false, Bool.or_false]
    interval_cases i <;> simp [DmcontrolArgs.flagAt]

theorem extract_dmcontrol (a : DmcontrolArgs) : ∀ f ∈ DMCONTROL.fields,
    f.extract (dmcontrol a) = lowBits f.width ((a.fieldValues.lookup f.name).getD 0) := by
  have flag : ∀ f : Field, f.width = 1 → (f.lsb < 6 ∨ 26 ≤ f.lsb ∧ f.lsb < 32) →
      a.fieldValues.lookup f.name = some ((a.flagAt f.lsb).toNat : Int) →
      f.extract (dmcontrol a) = lowBits f.width ((a.fieldValues.lookup f.name).getD 0) := by
    intro f hw hlsb hlook
    rw [hlook, Option.getD_some]
    exact Field.extract_flag hw (testBit_dmcontrol_flagAt a hlsb)
  simp only [DMCONTROL, List.forall_mem_cons]
  exact ⟨flag _ rfl (by decide) rfl, flag _ rfl (by decide) rfl, flag _ rfl (by decide) rfl,
    flag _ rfl (by decide) rfl, flag _ rfl (by decide) rfl, flag _ rfl (by decide) rfl,
    extract_hartsello_dmcontrol a, extract_hartselhi_dmcontrol a,
    flag _ rfl (by decide) rfl, flag _ rfl (by decide) rfl, flag _ rfl (by decide) rfl,
    flag _ rfl (by decide) rfl, flag _ rfl (by decide) rfl, flag _ rfl (by decide) rfl, by simp⟩

theorem mask_dmcontrol : DMCONTROL.mask = 2 ^ 32 - 1 := by decide +kernel

/-- **`dmcontrol` of the API is `DMCONTROL.encode`.** -/
theorem encodeNamed_dmcontrol (a : DmcontrolArgs) : DMCONTROL.encodeNamed a.fieldValues = some (dmcontrol a) := by
  have hlaid : DMCONTROL.LaidOut := laidOut_of_declared _ (by simp [declaredRegisters])
  have hnames : a.fieldValues.map Prod.fst = DMCONTROL.fields.map Field.name := rfl
  refine hlaid.encodeNamed_eq ?_ ?_ (extract_dmcontrol a) ?_
  · rw [hnames]
    exact hlaid.names
  · rw [hnames]
    exact fun n hn => hn
  · rw [mask_dmcontrol, Nat.and_two_pow_sub_one_eq_mod, Nat.mod_eq_of_lt (dmcontrol_lt a)]

/-! ### dmcs2 -/

theorem testBit_dmcs2 (a : Dmcs2Args) (i : Nat) :
    (dmcs2 a).testBit i =
      (decide (i = 0) && a.hgselect || decide (i = 1) && a.hgwrite
        || decide (2 ≤ i) && (lowBits 5 a.group).testBit (i - 2)
        || decide (7 ≤ i) && (lowBits 4 a.dmexttrigger).testBit (i - 7)
        || decide (i = 11) && a.grouptype) := by
  simp only [dmcs2, Nat.testBit_or, Nat.testBit_bool_toNat, testBit_flag]
  rw [Nat.testBit_shiftLeft, Nat.testBit_shiftLeft]

theorem dmcs2_lt (a : Dmcs2Args) : dmcs2 a < 2 ^ 12 := by
  apply Nat.lt_pow_two_of_testBit
  intro i hi
  rw [testBit_dmcs2]
  simp (disch := omega) only [testBit_lowBits_of_le, decide_eq_false, Bool.false_and, Bool.and_false, Bool.or_false]

theorem extract_group_dmcs2 (a : Dmcs2Args) : DMCS2.group.extract (dmcs2 a) = lowBits 5 a.group := by
  apply Nat.eq_of_testBit_eq
  intro i
  rw [Field.extract, DMCS2.group, Words.testBit_extract]
  by_cases hi : i < 5
  · rw [testBit_dmcs2]
    simp (disch := omega) only [decide_eq_false, decide_eq_true, Bool.false_and, Bool.or_false, Bool.false_or,
      Bool.true_and, Bool.and_true, Nat.add_sub_cancel_left]
  · have hlow : (lowBits 5 a.group).testBit i = false := testBit_lowBits_of_le (by omega) _
    simp [hi, hlow]

theorem extract_dmexttrigger_dmcs2 (a : Dmcs2Args) :
    DMCS2.dmexttrigger.extract (dmcs2 a) = lowBits 4 a.dmexttrigger := by
  apply Nat.eq_of_testBit_eq
  intro i
  rw [Field.extract, DMCS2.dmexttrigger, Words.testBit_extract]
  by_cases hi : i < 4
  · rw [testBit_dmcs2]
    simp (disch := omega) only [testBit_lowBits_of_le, decide_eq_false, decide_eq_true, Bool.false_and,
      Bool.and_false, Bool.or_false, Bool.false_or, Bool.true_and, Bool.and_true, Nat.add_sub_cancel_left]
  · have hlow : (lowBits 4 a.dmexttrigger).testBit i = false := testBit_lowBits_of_le (by omega) _
    simp [hi, hlow]

theorem extract_dmcs2 (a : Dmcs2Args) : ∀ f ∈ DMCS2.fields,
    f.extract (dmcs2 a) = lowBits f.width ((a.fieldValues.lookup f.name).getD 0) := by
  have hselect : (dmcs2 a).testBit 0 = a.hgselect := by
    rw [testBit_dmcs2]
    simp
  have hwrite : (dmcs2 a).testBit 1 = a.hgwrite := by
    rw [testBit_dmcs2]
    simp
  have htype : (dmcs2 a).testBit 11 = a.grouptype := by
    rw [testBit_dmcs2]
    simp (disch := omega) [testBit_lowBits_of_le]
  simp only [DMCS2, List.forall_mem_cons]
  exact ⟨Field.extract_flag rfl htype, extract_dmexttrigger_dmcs2 a, extract_group_dmcs2 a,
    Field.extract_flag rfl hwrite, Field.extract_flag rfl hselect, by simp⟩

theorem mask_dmcs2 : DMCS2.mask = 2 ^ 12 - 1 := by decide +kernel

/-- **`dmcs2` of the API is `DMCS2.encode`.** -/
theorem encodeNamed_dmcs2 (a : Dmcs2Args) : DMCS2.encodeNamed a.fieldValues = some (dmcs2 a) := by
  have hlaid : DMCS2.LaidOut := laidOut_of_declared _ (by simp [declaredRegisters])
  have hnames : a.fieldValues.map Prod.fst = DMCS2.fields.map Field.name := rfl
  refine hlaid.encodeNamed_eq ?_ ?_ (extract_dmcs2 a) ?_
  · rw [hnames]
    exact hlaid.names
  · rw [hnames]
    exact fun n hn => hn
  · rw [mask_dmcs2, Nat.and_two_pow_sub_one_eq_mod, Nat.mod_eq_of_lt (dmcs2_lt a)]

/-- **The register codecs agree.**  Every declared register is laid out, so that its codec round-trips
in both directions; the hart index does so in its two fields; and the encoders and accessors of the debug
API are those of the tables, for every combination of arguments and every word. -/
theorem register_codecs_agree :
    (∀ r ∈ declaredRegisters,
      (r.fields.Pairwise Field.Disjoint ∧ ∀ f ∈ r.fields, f.lsb + f.width ≤ 32) ∧
      (∀ values : List (String × Int), (values.map Prod.fst).Nodup →
        (∀ n ∈ values.map Prod.fst, n ∈ r.fields.map Field.name) →
        ∃ w, r.encodeNamed values = some w ∧ w < 2 ^ 32 ∧
          r.decodeNamed w =
            r.fields.map fun f => (f.name, lowBits f.width ((values.lookup f.name).getD 0))) ∧
      ∀ word : Nat, r.encodeNamed ((r.decodeNamed word).map fun nv => (nv.1, (nv.2 : Int))) =
        some (word &&& r.mask)) ∧
    (∀ word hartsel : Nat, hartsel < 2 ^ 20 → hartselOf (withHartsel word hartsel) = hartsel) ∧
    (∀ word : Nat, withHartsel word (hartselOf word) = word) ∧
    (∀ word hartsel i : Nat, ¬ DMCONTROL.hartselhi.Covers i → ¬ DMCONTROL.hartsello.Covers i →
      (withHartsel word hartsel).testBit i = word.testBit i) ∧
    (∀ a : DmcontrolArgs, DMCONTROL.encodeNamed a.fieldValues = some (dmcontrol a)) ∧
    (∀ a : Dmcs2Args, DMCS2.encodeNamed a.fieldValues = some (dmcs2 a)) ∧
    (∀ word : Nat, dmcontrolHartsel word = hartselOf word) ∧
    (∀ q ∈ flagAccessors, ∀ word : Nat, q.1 word = q.2.test word) ∧
    ∀ q ∈ valueAccessors, ∀ word : Nat, q.1 word = q.2.extract word := by
  refine ⟨fun r hr => ?_, fun word hartsel h => hartselOf_withHartsel word h, withHartsel_hartselOf,
    fun word hartsel i hhi hlo => ?_, encodeNamed_dmcontrol, encodeNamed_dmcs2, dmcontrolHartsel_eq,
    fun q hq => flagAccessors_eq hq, fun q hq => valueAccessors_eq hq⟩
  · have hlaid := laidOut_of_declared r hr
    refine ⟨⟨hlaid.disjoint, hlaid.within⟩, fun values hnd hnames => ?_, hlaid.encodeNamed_decodedValues⟩
    obtain ⟨w, hw, hdec⟩ := hlaid.decodeNamed_encodeNamed values hnd hnames
    exact ⟨w, hw, hlaid.lt_of_encodeNamed hw, hdec⟩
  · rw [withHartsel, Field.testBit_insert_of_not_covers hhi, Field.testBit_insert_of_not_covers hlo]

/-- A command word from a type too wide for its field and a negative control value. -/
theorem register_codecs_agree_command :
    ∃ w, COMMAND.encodeNamed [("control", -1), ("cmdtype", 258)] = some w ∧ w < 2 ^ 32 ∧
      COMMAND.decodeNamed w = [("cmdtype", 2), ("control", 0xFFFFFF)] :=
  (register_codecs_agree.1 COMMAND (by simp [declaredRegisters])).2.1 [("control", -1), ("cmdtype", 258)]
    (by decide) (by decide)

end RiscvDbg
