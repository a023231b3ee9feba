import RiscvDbg.DutConfig.Model

/-!
# Where the two readers of a declaration agree

`dut_config_reader` finds a key as the first place where its name stands between two quotes, and takes what
follows the next colon, on the same line, for its value.

* `KeyFirst` — the first literal in which a search for the key ends is the key itself.
* `rawValue_of_keyFirst` — then `raw_value` cuts the value out of the right item.
* `getBool_keyFirst`, `getString_keyFirst` — what `get_bool` and `get_string` accept is what is written there.
* `PlainNumber` — an integer whose text starts on the line of its colon, in plain digits.
* `getInt_plain` — `get_int` reads those as Python does; it reads everything else as some number, too.
* `dut_config_agree` — **the two configurations agree if every key comes first and every number is plain.**
-/

set_option autoImplicit false

namespace RiscvDbg

open JsonText (Space Literal Member Scalar IsKey)

/-! ## Cutting out a value -/

/-- White space before a value: blanks only, or what is left after the blanks starts with a line end. -/
theorem dropWhile_space (a : Space) (t : List Char) :
    (∀ c ∈ a.1, isBlank c = true) ∧ (a.1 ++ t).dropWhile isBlank = t.dropWhile isBlank ∨
      ∃ c u, (a.1 ++ t).dropWhile isBlank = c :: u ∧ JsonText.isSpace c = true := by
  obtain ⟨a, ha⟩ := a
  induction a with
  | nil => exact .inl ⟨(fun c hc => by cases hc), rfl⟩
  | cons c a ih =>
    obtain ⟨hc, hrest⟩ := List.forall_mem_cons.mp ha
    cases hb : isBlank c with
    | false =>
      refine .inr ⟨c, a ++ t, ?_, hc⟩
      exact List.dropWhile_cons_of_neg (by simp [hb])
    | true =>
      have hdrop : ((c :: a) ++ t).dropWhile isBlank = (a ++ t).dropWhile isBlank :=
        List.dropWhile_cons_of_pos hb
      rw [hdrop]
      obtain ⟨hall, heq⟩ | hspace := ih hrest
      · exact .inl ⟨List.forall_mem_cons.mpr ⟨hb, hall⟩, heq⟩
      · exact .inr hspace

theorem isBlank_of_isPunct {c : Char} (h : JsonText.isPunct c = false) : isBlank c = false ∧ endsValue c = false := by
  simp only [JsonText.isPunct, JsonText.isSpace, Bool.or_eq_false_iff] at h
  simp [isBlank, endsValue, h]

theorem dropWhile_of_not_blank {c : Char} (h : isBlank c = false) (t : List Char) :
    (c :: t).dropWhile isBlank = c :: t := List.dropWhile_cons_of_neg (by simp [h])

theorem cutValue_isPrefix (s : List Char) : cutValue s <+: s.dropWhile isBlank :=
  (List.rdropWhile_prefix _ _).trans (List.takeWhile_prefix _)

/-- The value text starts with the value, or with white space. -/
theorem cutValue_scalar (a : Space) (v : Scalar) (t : List Char) {c : Char} {u : List Char}
    (h : cutValue (a.1 ++ (v.text ++ t)) = c :: u) (hc : JsonText.isSpace c = false) :
    c :: u <+: v.text ++ t := by
  have hstart := cutValue_isPrefix (a.1 ++ (v.text ++ t))
  rw [h] at hstart
  obtain ⟨-, hdrop⟩ | ⟨c', u', hdrop, hspace⟩ := dropWhile_space a (v.text ++ t)
  · obtain ⟨c', u', hv, hpunct, -⟩ := v.text_eq_cons
    rw [hdrop, hv, List.cons_append, dropWhile_of_not_blank (isBlank_of_isPunct hpunct).1, ← List.cons_append,
      ← hv] at hstart
    exact hstart
  · rw [hdrop, List.cons_prefix_cons] at hstart
    rw [hstart.1, hspace] at hc
    cases hc

/-- What is left of the white space behind a value stays white space. -/
theorem rdropWhile_append {p : Char → Bool} {s : List Char} (hs : ∀ c ∈ s, p c = false) :
    ∀ t : List Char, ∃ w, w <+: t ∧ (s ++ t).rdropWhile p = s ++ w := by
  intro t
  induction t using List.reverseRecOn with
  | nil =>
    refine ⟨[], List.prefix_refl _, ?_⟩
    rw [List.append_nil, List.rdropWhile_eq_self_iff]
    intro hne
    simp [hs _ (List.getLast_mem hne)]
  | append_singleton t c ih =>
    obtain ⟨w, hw, heq⟩ := ih
    rw [← List.append_assoc]
    cases hc : p c with
    | true => exact ⟨w, hw.trans (List.prefix_append t [c]), by rw [List.rdropWhile_concat_pos _ _ _ hc, heq]⟩
    | false =>
      refine ⟨t ++ [c], List.prefix_refl _, ?_⟩
      rw [List.rdropWhile_concat_neg _ _ _ (by simp [hc]), List.append_assoc]

/-- A token on the line of its colon is cut out with some white space behind it. -/
theorem cutValue_token {a : List Char} (ha : ∀ c ∈ a, isBlank c = true) {s : List Char} (hne : s ≠ [])
    (hs : ∀ c ∈ s, JsonText.isPunct c = false) (b : Space) {d : Char} (hd : endsValue d = true) (t : List Char) :
    ∃ w : List Char, (∀ c ∈ w, JsonText.isSpace c = true) ∧ cutValue (a ++ (s ++ (b.1 ++ d :: t))) = s ++ w := by
  have hdrop : (a ++ (s ++ (b.1 ++ d :: t))).dropWhile isBlank = s ++ (b.1 ++ d :: t) := by
    rw [List.dropWhile_append_of_pos ha]
    obtain ⟨c, u, rfl⟩ := List.exists_cons_of_ne_nil hne
    exact dropWhile_of_not_blank (isBlank_of_isPunct (hs c List.mem_cons_self)).1 _
  have htake : (s ++ (b.1 ++ d :: t)).takeWhile (!endsValue ·) = s ++ b.1.takeWhile (!endsValue ·) := by
    rw [List.takeWhile_append_of_pos (fun c hc => by simp [(isBlank_of_isPunct (hs c hc)).2])]
    congr 1
    induction b.1 with
    | nil => simp [hd]
    | cons c b ih =>
      rw [List.cons_append, List.takeWhile_cons, List.takeWhile_cons, ih]
  obtain ⟨w, hw, heq⟩ := rdropWhile_append (p := isBlank) (fun c hc => (isBlank_of_isPunct (hs c hc)).1)
    (b.1.takeWhile (!endsValue ·))
  refine ⟨w, ?_, ?_⟩
  · intro c hc
    exact b.2 c ((List.takeWhile_prefix _).subset (hw.subset hc))
  · rw [cutValue, hdrop, htake, heq]

/-! ## Finding the key -/

namespace DutDoc

/-- The first item in which the search for the key ends. -/
def firstHit? (d : DutDoc) (key : List Char) : Option (Member Scalar) := JsonText.firstHit? d.members key

/-- The search for the key ends at the key itself. -/
def KeyFirst (d : DutDoc) (key : List Char) : Prop := ∃ m ∈ d.firstHit? key, JsonText.text m.key = key

variable {d : DutDoc} {key : List Char}

/-- **If the key comes first, its value text is cut out of its item.** -/
theorem rawValue_of_keyFirst (hkey : IsKey key) {m : Member Scalar} (hm : m ∈ d.firstHit? key)
    (htext : JsonText.text m.key = key) :
    ∃ c u, endsValue c = true ∧
      rawValue d.text key = some (cutValue (m.afterColon.1 ++ (m.value.text ++ (m.afterValue.1 ++ c :: u)))) := by
  obtain ⟨post, hobject⟩ := JsonText.after_objectText_of_firstHit hkey hm htext d.inner d.trail.1
  obtain ⟨c, u, hfollow, hc⟩ := JsonText.follow_eq_cons post d.trail.1
  refine ⟨c, u, ?_, ?_⟩
  · rcases hc with rfl | rfl <;> decide
  · have hafter : Text.after (JsonText.quoted key) d.text = some (m.rest ++ c :: u) := by
      rw [text, JsonText.after_of_quote_not_mem (JsonText.quote_not_mem_space _), hobject, hfollow]
    simp only [rawValue, hafter, JsonText.after_colon, Option.getD_some]
    rfl

/-- Python finds the same item. -/
theorem get?_of_keyFirst (hdup : d.NoDuplicates) (hkey : IsKey key) {m : Member Scalar} (hm : m ∈ d.firstHit? key)
    (htext : JsonText.text m.key = key) : d.get? key = some m.value := JsonText.lookup_of_firstHit hkey hdup hm htext

/-! ## Truth values and texts -/

/-- What `get_bool` accepts is a truth value. -/
theorem getBool_of_keyFirst (hkey : IsKey key) {m : Member Scalar} (hm : m ∈ d.firstHit? key)
    (htext : JsonText.text m.key = key) {b : Bool} (h : getBool d.text key = some b) : m.value = .bool b := by
  obtain ⟨c, u, -, hraw⟩ := rawValue_of_keyFirst hkey hm htext
  rw [getBool, hraw, Option.bind_some] at h
  obtain ⟨c', u', htok, -, htrue, hfalse, -⟩ := m.value.text_eq_cons
  split at h
  · rename_i hv
    have hstart := cutValue_scalar m.afterColon m.value _ hv (by decide)
    rw [htok, List.cons_append, List.cons_prefix_cons] at hstart
    rw [← Option.some.inj h]
    exact htrue hstart.1.symm
  · split at h
    · rename_i hv
      have hstart := cutValue_scalar m.afterColon m.value _ hv (by decide)
      rw [htok, List.cons_append, List.cons_prefix_cons] at hstart
      rw [← Option.some.inj h]
      exact hfalse hstart.1.symm
    · cases h

/-- A text of at least two characters, the first and the last a quote. -/
theorem eq_quoted {v : List Char} (hlen : 2 ≤ v.length) (hhead : v.head? = some JsonText.quote)
    (hlast : v.getLast? = some JsonText.quote) : v = JsonText.quoted v.tail.dropLast := by
  obtain ⟨t, rfl⟩ := List.head?_eq_some_iff.mp hhead
  cases t using List.reverseRecOn with
  | nil => simp at hlen
  | append_singleton t c =>
    have hc : c = JsonText.quote := by
      rw [← List.cons_append, List.getLast?_concat] at hlast
      exact Option.some.inj hlast
    subst hc
    simp [JsonText.quoted]

/-- What `get_string` returns is the literal, if there is nothing to escape in it. -/
theorem getString_of_keyFirst (hkey : IsKey key) {m : Member Scalar} (hm : m ∈ d.firstHit? key)
    (htext : JsonText.text m.key = key) {s : List Char} (h : getString d.text key = some s)
    (hs : ∀ c ∈ s, c ≠ JsonText.quote ∧ c ≠ JsonText.backslash) : ∃ l, m.value = .string l ∧ JsonText.text l = s := by
  obtain ⟨c, u, -, hraw⟩ := rawValue_of_keyFirst hkey hm htext
  rw [getString, hraw, Option.bind_some] at h
  split at h
  · rename_i hv
    have hquoted := eq_quoted hv.1 hv.2.1 hv.2.2
    rw [Option.some.inj h] at hquoted
    have hstart := cutValue_scalar m.afterColon m.value _ hquoted (by decide)
    obtain ⟨c', u', htok, -, -, -, hstring⟩ := m.value.text_eq_cons
    have hhead : c' = JsonText.quote := by
      rw [htok, List.cons_append, List.cons_prefix_cons] at hstart
      exact hstart.1.symm
    obtain ⟨l, hl⟩ := hstring hhead
    refine ⟨l, hl, ?_⟩
    have hlit := JsonText.isPrefixOf_literal s hs l (m.afterValue.1 ++ c :: u)
    rw [List.isPrefixOf_iff_prefix.mpr] at hlit
    · exact of_decide_eq_true hlit.symm
    · rw [hl] at hstart
      simpa [Scalar.text, JsonText.quoted, List.cons_prefix_cons] using hstart
  · cases h

end DutDoc

/-! ## Integers -/

/-- Digits of a number that Python and the reader understand in the same way. -/
def PlainDigits (s : List Char) : Prop :=
  (s ≠ [] ∧ ∀ c ∈ s, c.isDigit = true) ∨
    ∃ x ds, s = '0' :: x :: ds ∧ (x = 'x' ∨ x = 'X') ∧ ds ≠ [] ∧ ∀ c ∈ ds, JsonText.isHexDigit c = true

/-- An integer that starts on the line of its colon: a number, `false`, or a text of plain digits. -/
def PlainNumber (m : Member Scalar) : Prop :=
  (∀ c ∈ m.afterColon.1, isBlank c = true) ∧
    match m.value with
    | .bool b => b = false
    | .number _ _ => True
    | .string l => PlainDigits (JsonText.text l)

theorem isHexDigit_of_isDigit {c : Char} (h : c.isDigit = true) : JsonText.isHexDigit c = true := by
  simp only [Char.isDigit, Bool.and_eq_true, decide_eq_true_eq] at h
  simp only [JsonText.isHexDigit, Bool.or_eq_true, Bool.and_eq_true, decide_eq_true_eq]
  exact .inl (.inl h)

theorem toNat_of_isHexDigit {c : Char} (h : JsonText.isHexDigit c = true) :
    (0x30 ≤ c.toNat ∧ c.toNat ≤ 0x39) ∨ (0x61 ≤ c.toNat ∧ c.toNat ≤ 0x66) ∨ (0x41 ≤ c.toNat ∧ c.toNat ≤ 0x46) := by
  simp only [JsonText.isHexDigit, Bool.or_eq_true, Bool.and_eq_true, decide_eq_true_eq, Char.le_def,
    UInt32.le_iff_toNat_le] at h
  have hdigits : '0'.val.toNat = 0x30 ∧ '9'.val.toNat = 0x39 := ⟨rfl, rfl⟩
  have hlower : 'a'.val.toNat = 0x61 ∧ 'f'.val.toNat = 0x66 := ⟨rfl, rfl⟩
  have hupper : 'A'.val.toNat = 0x41 ∧ 'F'.val.toNat = 0x46 := ⟨rfl, rfl⟩
  have hval : c.toNat = c.val.toNat := rfl
  omega

theorem isPunct_of_isHexDigit {c : Char} (h : JsonText.isHexDigit c = true) : JsonText.isPunct c = false := by
  cases hp : JsonText.isPunct c with
  | false => rfl
  | true =>
    simp only [JsonText.isPunct, JsonText.isSpace, Bool.or_eq_true, beq_iff_eq] at hp
    rcases hp with ((((((rfl | rfl) | rfl) | rfl) | rfl) | rfl) | rfl) | rfl <;> revert h <;> decide

theorem isPyWhite_of_toNat {c : Char} (h : 0x30 ≤ c.toNat ∧ c.toNat ≤ 0x7e) : isPyWhite c = false := by
  simp [isPyWhite]
  omega

/-! ### The Python side -/

theorem underscored_of_not_mem {b : Nat} {s : List Char} (hs : '_' ∉ s) {n : Nat} (h : underscored b s = some n) :
    n = JsonText.readDigits b 0 s := by
  unfold underscored at h
  rw [List.splitOn_eq_singleton hs] at h
  dsimp only at h
  split at h
  · rw [List.flatten_singleton] at h
    exact (Option.some.inj h).symm
  · cases h

theorem not_mem_of_isHexDigit {c : Char} (hc : JsonText.isHexDigit c = false) {s : List Char}
    (hs : ∀ c ∈ s, JsonText.isHexDigit c = true) : c ∉ s := by
  intro h
  rw [hs c h] at hc
  cases hc

/-- Decimal digits stand for their value, if for anything. -/
theorem intLiteral_digits {s : List Char} (hs : ∀ c ∈ s, c.isDigit = true) {n : Nat} (h : intLiteral s = some n) :
    n = JsonText.readDigits 10 0 s := by
  have hunder : '_' ∉ s := not_mem_of_isHexDigit (by decide) (fun c hc => isHexDigit_of_isDigit (hs c hc))
  have hdecimal : ∀ {n}, unprefixed s = some n → n = JsonText.readDigits 10 0 s := by
    intro n hn
    unfold unprefixed at hn
    split at hn
    · rename_i m hm
      split at hn
      · cases hn
      · rw [← Option.some.inj hn]
        exact underscored_of_not_mem hunder hm
    · cases hn
  unfold intLiteral at h
  split at h
  · rename_i c ds
    have hdigit : c.isDigit = true := hs c (by simp)
    have hno : ∀ x : Char, x.isDigit = false → c ≠ x := by
      rintro x hx rfl
      rw [hx] at hdigit
      cases hdigit
    simp only [hno 'x' rfl, hno 'X' rfl, hno 'o' rfl, hno 'O' rfl, hno 'b' rfl, hno 'B' rfl, or_self, if_false] at h
    exact hdecimal h
  · exact hdecimal h

/-- So do hexadecimal digits behind `0x`. -/
theorem intLiteral_hex {x : Char} (hx : x = 'x' ∨ x = 'X') {ds : List Char}
    (hds : ∀ c ∈ ds, JsonText.isHexDigit c = true) {n : Nat} (h : intLiteral ('0' :: x :: ds) = some n) :
    n = JsonText.readDigits 16 0 ds := by
  have hunder : '_' ∉ ds := not_mem_of_isHexDigit (by decide) hds
  simp only [intLiteral, if_pos hx] at h
  unfold prefixed at h
  split at h
  · exact absurd List.mem_cons_self hunder
  · exact underscored_of_not_mem hunder h

/-- A text of plain characters is read as it is. -/
theorem intBase0_plain {s : List Char} (hne : s ≠ []) (hs : ∀ c ∈ s, 0x30 ≤ c.toNat ∧ c.toNat ≤ 0x7e) :
    intBase0 (codes s) = (intLiteral s).map Int.ofNat := by
  have hmap : (codes s).map Char.ofNat = s := by
    simp [codes, Function.comp_def]
  have hwhite : ∀ c ∈ s, isPyWhite c = false := fun c hc => isPyWhite_of_toNat (hs c hc)
  obtain ⟨c, t, rfl⟩ := List.exists_cons_of_ne_nil hne
  have hdrop : (c :: t).dropWhile isPyWhite = c :: t :=
    List.dropWhile_cons_of_neg (by simp [hwhite c List.mem_cons_self])
  have hrdrop : (c :: t).rdropWhile isPyWhite = c :: t := by
    rw [List.rdropWhile_eq_self_iff]
    intro hne'
    simp [hwhite _ (List.getLast_mem hne')]
  have hc := hs c List.mem_cons_self
  have hsign : c ≠ '-' ∧ c ≠ '+' := by
    constructor <;> rintro rfl <;> revert hc <;> decide
  rw [intBase0, hmap, hdrop, hrdrop]
  split
  · rename_i heq
    exact absurd (List.cons.inj heq).1 hsign.1
  · rename_i heq
    exact absurd (List.cons.inj heq).1 hsign.2
  · rfl

/-! ### The SystemVerilog side -/

/-- The digits end here. -/
def Halts (y : List Char) : Prop :=
  ∀ c ∈ y.head?, JsonText.isHexDigit c = false ∧ c ≠ '_' ∧ c ≠ 'x' ∧ c ≠ 'X'

theorem halts_of_space {w : List Char} (hw : ∀ c ∈ w, JsonText.isSpace c = true) : Halts w := by
  intro c hc
  have hspace := hw c (List.mem_of_mem_head? hc)
  simp only [JsonText.isSpace, Bool.or_eq_true, beq_iff_eq] at hspace
  rcases hspace with ((rfl | rfl) | rfl) | rfl <;> decide

theorem takeWhile_of_halts {p : Char → Bool} {s y : List Char} (hs : ∀ c ∈ s, p c = true)
    (hy : ∀ c ∈ y.head?, p c = false) : (s ++ y).takeWhile p = s := by
  rw [List.takeWhile_append_of_pos hs]
  cases y with
  | nil => simp
  | cons c y => simp [hy c rfl]

theorem isDigit_of_not_isHexDigit {c : Char} (h : JsonText.isHexDigit c = false) : c.isDigit = false := by
  cases hd : c.isDigit with
  | false => rfl
  | true => rw [isHexDigit_of_isDigit hd] at h; cases h

/-- `atoi` reads the decimal digits. -/
theorem atoi_digits {s y : List Char} (hs : ∀ c ∈ s, c.isDigit = true) (hy : Halts y) :
    atoi (s ++ y) = .ofNat 32 (JsonText.readDigits 10 0 s) := by
  have htake : (s ++ y).takeWhile (fun c => c.isDigit || c == '_') = s := by
    refine takeWhile_of_halts (fun c hc => by simp [hs c hc]) ?_
    intro c hc
    simp [isDigit_of_not_isHexDigit (hy c hc).1, (hy c hc).2.1]
  rw [atoi, htake, List.filter_eq_self.mpr hs]

theorem isHexText_digits {s y : List Char} (hs : ∀ c ∈ s, c.isDigit = true) (hy : Halts y) :
    s ≠ [] → isHexText (s ++ y) = false := by
  have hdigit : ∀ {c : Char}, c.isDigit = true → c ≠ 'x' ∧ c ≠ 'X' := by
    intro c hc
    constructor <;> rintro rfl <;> revert hc <;> decide
  intro hne
  match s, y with
  | [], _ => exact absurd rfl hne
  | [c], [] => simp [isHexText]
  | [c], [c'] => simp [isHexText]
  | [c], c' :: c'' :: y =>
    have hc' := hy c' rfl
    simp only [List.singleton_append, isHexText]
    split
    · simp_all
    · rfl
  | c :: c' :: s, y =>
    have hc' := hdigit (hs c' (by simp))
    simp only [List.cons_append, isHexText]
    split
    · simp_all
    · rfl

theorem stripQuotes_of_ne {v : List Char} (h : v.head? ≠ some JsonText.quote) : stripQuotes v = v :=
  if_neg (fun hv => h hv.2)

/-- Between the quotes, and perhaps the closing quote and some white space, too. -/
theorem stripQuotes_quoted (s w : List Char) : ∃ y, Halts y ∧ stripQuotes (JsonText.quoted s ++ w) = s ++ y := by
  refine ⟨(JsonText.quote :: w).dropLast, ?_, ?_⟩
  · intro c hc
    cases w with
    | nil => cases hc
    | cons c' w =>
      have hquote : c = JsonText.quote := by
        simpa [List.dropLast_cons_of_ne_nil] using hc.symm
      subst hquote
      decide
  · have hshape : JsonText.quoted s ++ w = JsonText.quote :: (s ++ JsonText.quote :: w) := by
      simp [JsonText.quoted]
    rw [hshape, stripQuotes, if_pos ⟨by simp; omega, rfl⟩, List.tail_cons, List.dropLast_append_of_ne_nil (by simp)]

theorem intValue_digits {s y v : List Char} (hv : stripQuotes v = s ++ y) (hne : s ≠ [])
    (hs : ∀ c ∈ s, c.isDigit = true) (hy : Halts y) : intValue v = .ofNat 32 (JsonText.readDigits 10 0 s) := by
  rw [intValue, hv, isHexText_digits hs hy hne, if_neg Bool.false_ne_true, atoi_digits hs hy]

theorem intValue_hex {x : Char} {ds y v : List Char} (hx : x = 'x' ∨ x = 'X') (hne : ds ≠ [])
    (hds : ∀ c ∈ ds, JsonText.isHexDigit c = true) (hy : Halts y) (hv : stripQuotes v = '0' :: x :: ds ++ y) :
    intValue v = .ofNat 32 (JsonText.readDigits 16 0 ds) := by
  have htext : isHexText ('0' :: x :: ds ++ y) = true := by
    obtain ⟨d, ds, rfl⟩ := List.exists_cons_of_ne_nil hne
    rcases hx with rfl | rfl <;> rfl
  have htake : (ds ++ y).takeWhile JsonText.isHexDigit = ds := takeWhile_of_halts hds (fun c hc => (hy c hc).1)
  rw [intValue, hv, htext, if_pos rfl, atohexDigits]
  exact congrArg _ (congrArg _ htake)

/-- A text that does not start with a digit is read as 0. -/
theorem intValue_of_not_digit {c : Char} (hc : c ≠ JsonText.quote ∧ c ≠ '_' ∧ c.isDigit = false) (t : List Char) :
    intValue (c :: t) = 0 := by
  have hzero : c ≠ '0' := by
    rintro rfl
    exact absurd hc.2.2 (by decide)
  have hhex : isHexText (c :: t) = false := by
    unfold isHexText
    split
    · rename_i heq
      exact absurd (List.cons.inj heq).1 hzero
    · rfl
  have htake : (c :: t).takeWhile (fun c => c.isDigit || c == '_') = [] :=
    List.takeWhile_cons_of_neg (by simp [hc])
  rw [intValue, stripQuotes_of_ne (by simp [hc.1]), hhex, if_neg Bool.false_ne_true, atoi, htake]
  rfl

theorem codes_text {l : Literal} (h : ∀ c ∈ JsonText.text l, c ≠ JsonText.backslash) :
    JsonText.decode l = codes (JsonText.text l) :=
  JsonText.decode_of_backslash_not_mem l (fun hmem => h _ hmem rfl)

/-- A text of plain digits. -/
theorem intValue_string {l : Literal} (hl : PlainDigits (JsonText.text l)) {z : Int}
    (hz : num (.string l) = some z) (w : List Char) :
    intValue (JsonText.quoted (JsonText.text l) ++ w) = .ofNat 32 z.toNat := by
  obtain ⟨y, hy, hstrip⟩ := stripQuotes_quoted (JsonText.text l) w
  have hback : ∀ {c : Char}, JsonText.isHexDigit c = true → c ≠ JsonText.backslash := by
    rintro c hc rfl
    exact absurd hc (by decide)
  have hrange : ∀ {c : Char}, JsonText.isHexDigit c = true → 0x30 ≤ c.toNat ∧ c.toNat ≤ 0x7e := by
    intro c hc
    have hbound := toNat_of_isHexDigit hc
    omega
  obtain ⟨hne, hdigits⟩ | ⟨x, ds, htext, hx, hne, hds⟩ := hl
  · have hhex : ∀ c ∈ JsonText.text l, JsonText.isHexDigit c = true := fun c hc => isHexDigit_of_isDigit (hdigits c hc)
    rw [num, codes_text (fun c hc => hback (hhex c hc)), intBase0_plain hne (fun c hc => hrange (hhex c hc)),
      Option.map_eq_some_iff] at hz
    obtain ⟨n, hn, rfl⟩ := hz
    rw [intValue_digits hstrip hne hdigits hy, Int.ofNat_eq_natCast, Int.toNat_natCast, intLiteral_digits hdigits hn]
  · have hstart : ∀ c ∈ JsonText.text l, c ≠ JsonText.backslash ∧ 0x30 ≤ c.toNat ∧ c.toNat ≤ 0x7e := by
      rw [htext, List.forall_mem_cons, List.forall_mem_cons]
      refine ⟨by decide, ?_, fun c hc => ⟨hback (hds c hc), hrange (hds c hc)⟩⟩
      rcases hx with rfl | rfl <;> decide
    rw [num, codes_text (fun c hc => (hstart c hc).1), intBase0_plain (by simp [htext]) (fun c hc => (hstart c hc).2),
      Option.map_eq_some_iff] at hz
    obtain ⟨n, hn, rfl⟩ := hz
    rw [htext] at hn hstrip ⊢
    rw [intValue_hex hx hne hds hy hstrip, Int.ofNat_eq_natCast, Int.toNat_natCast, intLiteral_hex hx hds hn]

/-- **`get_int` reads a plain number as Python does.** -/
theorem intValue_plain {m : Member Scalar} (hm : PlainNumber m) {c : Char} (hc : endsValue c = true) (u : List Char)
    {z : Int} (hz : num m.value = some z) (h0 : 0 ≤ z) :
    intValue (cutValue (m.afterColon.1 ++ (m.value.text ++ (m.afterValue.1 ++ c :: u)))) = .ofNat 32 z.toNat := by
  obtain ⟨hblank, hvalue⟩ := hm
  cases hv : m.value with
  | bool b =>
    rw [hv] at hvalue hz
    dsimp only at hvalue
    subst hvalue
    obtain ⟨w, -, hcut⟩ := cutValue_token hblank (s := Scalar.text (.bool false)) (by decide) (by decide)
      m.afterValue hc u
    rw [hcut, ← Option.some.inj hz]
    exact intValue_of_not_digit (by decide) _
  | number negative n =>
    rw [hv] at hz
    have hdigits : ∀ c ∈ Nat.toDigits 10 n, c.isDigit = true := fun c hc => Scalar.isDigit_of_mem_toDigits hc
    have hpunct : ∀ c ∈ Nat.toDigits 10 n, JsonText.isPunct c = false :=
      fun c hc => isPunct_of_isHexDigit (isHexDigit_of_isDigit (hdigits c hc))
    cases negative with
    | true =>
      -- a number that is not negative: minus zero
      obtain ⟨w, -, hcut⟩ := cutValue_token hblank (s := '-' :: Nat.toDigits 10 n) (by simp)
        (List.forall_mem_cons.mpr ⟨by decide, hpunct⟩) m.afterValue hc u
      have hzero : z.toNat = 0 := by
        simp only [num, if_true, Option.some.injEq] at hz
        omega
      rw [Scalar.text, hcut, hzero]
      exact intValue_of_not_digit (by decide) _
    | false =>
      obtain ⟨w, hw, hcut⟩ := cutValue_token hblank Nat.toDigits_ne_nil hpunct m.afterValue hc u
      have hstrip : stripQuotes (Nat.toDigits 10 n ++ w) = Nat.toDigits 10 n ++ w := by
        refine stripQuotes_of_ne ?_
        obtain ⟨d, ds, hds⟩ := List.exists_cons_of_ne_nil (Nat.toDigits_ne_nil (b := 10) (n := n))
        have hd : d.isDigit = true := hdigits d (hds ▸ List.mem_cons_self)
        have hne : d ≠ JsonText.quote := by
          rintro rfl
          exact absurd hd (by decide)
        simp [hds, hne]
      rw [Scalar.text, hcut, intValue_digits hstrip Nat.toDigits_ne_nil hdigits (halts_of_space hw),
        JsonText.readDigits_toDigits]
      simp only [num, Bool.false_eq_true, if_false, Option.some.injEq] at hz
      rw [← hz, Int.toNat_natCast]
  | string l =>
    rw [hv] at hvalue hz
    have hpunct : ∀ c ∈ JsonText.quoted (JsonText.text l), JsonText.isPunct c = false := by
      have hinner : ∀ c ∈ JsonText.text l, JsonText.isPunct c = false := by
        obtain ⟨-, hdigits⟩ | ⟨x, ds, htext, hx, -, hds⟩ := hvalue
        · exact fun c hc => isPunct_of_isHexDigit (isHexDigit_of_isDigit (hdigits c hc))
        · rw [htext, List.forall_mem_cons, List.forall_mem_cons]
          refine ⟨by decide, ?_, fun c hc => isPunct_of_isHexDigit (hds c hc)⟩
          rcases hx with rfl | rfl <;> decide
      rw [JsonText.quoted, List.forall_mem_cons, List.forall_mem_append]
      exact ⟨by decide, hinner, by decide⟩
    obtain ⟨w, -, hcut⟩ := cutValue_token hblank (by simp [JsonText.quoted]) hpunct m.afterValue hc u
    rw [Scalar.text, hcut]
    exact intValue_string hvalue hz w

/-! ## The whole configuration -/

theorem FlagKey.mem_all (k : FlagKey) : k ∈ FlagKey.all := by
  cases k <;> decide

theorem NumberKey.mem_all (k : NumberKey) : k ∈ NumberKey.all := by
  cases k <;> decide

theorem FlagKey.isKey (k : FlagKey) : IsKey k.name := by
  cases k <;> decide

theorem NumberKey.isKey (k : NumberKey) : IsKey k.name := by
  cases k <;> decide

theorem collect_eq_some {κ α : Type} {keys : List κ} {f : κ → Option α} {unused : α} {g : κ → α}
    (h : collect keys f unused = some g) : ∀ k ∈ keys, f k = some (g k) := by
  unfold collect at h
  split at h
  · rename_i hall
    intro k hk
    obtain ⟨a, ha⟩ := Option.isSome_iff_exists.mp (List.all_eq_true.mp hall k hk)
    rw [← Option.some.inj h]
    simp [ha]
  · cases h

namespace DutDoc

/-- Every key comes first, and every integer is plain. -/
structure Readable (d : DutDoc) : Prop where
  version : d.KeyFirst versionKey
  flags : ∀ k : FlagKey, d.KeyFirst k.name
  numbers : ∀ k : NumberKey, ∃ m ∈ d.firstHit? k.name, JsonText.text m.key = k.name ∧ PlainNumber m

variable {d : DutDoc} (hdup : d.NoDuplicates) (hread : d.Readable)

include hdup hread

theorem flag_agree (k : FlagKey) {b b' : Bool} (hsv : getBool d.text k.name = some b)
    (hpy : (d.get? k.name).map truthy = some b') : b = b' := by
  obtain ⟨m, hm, htext⟩ := hread.flags k
  rw [get?_of_keyFirst hdup k.isKey hm htext, getBool_of_keyFirst k.isKey hm htext hsv] at hpy
  exact Option.some.inj hpy

theorem number_agree (k : NumberKey) {x : BitVec 32} {z : Int} (hsv : getInt d.text k.name = some x)
    (hpy : (d.get? k.name).bind num = some z) (h0 : 0 ≤ z) : x = .ofNat 32 z.toNat := by
  obtain ⟨m, hm, htext, hplain⟩ := hread.numbers k
  obtain ⟨c, u, hc, hraw⟩ := rawValue_of_keyFirst k.isKey hm htext
  rw [get?_of_keyFirst hdup k.isKey hm htext, Option.bind_some] at hpy
  rw [getInt, hraw] at hsv
  rw [← Option.some.inj hsv, intValue_plain hplain hc u hpy h0]

theorem version_agree {v : BitVec 4} {n : Nat} (hsv : getVersion d.text = some v)
    (hpy : (d.get? versionKey).bind versionOf = some n) : v.toNat = n := by
  obtain ⟨m, hm, htext⟩ := hread.version
  have hkey : IsKey versionKey := by decide
  rw [get?_of_keyFirst hdup hkey hm htext, Option.bind_some] at hpy
  obtain ⟨s, hs, hv⟩ := Option.bind_eq_some_iff.mp hsv
  -- the two texts that `get_version` knows have no escapes, so the literal is the same text
  have hcase : ∀ t : List Char, s = t → (∀ c ∈ t, c ≠ JsonText.quote ∧ c ≠ JsonText.backslash) →
      ∃ l, m.value = .string l ∧ JsonText.decode l = codes t := by
    rintro t rfl ht
    obtain ⟨l, hl, hlt⟩ := getString_of_keyFirst hkey hm htext hs ht
    refine ⟨l, hl, ?_⟩
    rw [codes_text (fun c hc => (ht c (hlt ▸ hc)).2), hlt]
  split at hv
  · rename_i hst
    obtain ⟨l, hl, hdecode⟩ := hcase _ hst (by decide)
    rw [hl, versionOf, if_pos hdecode] at hpy
    rw [← Option.some.inj hv, ← Option.some.inj hpy]
    rfl
  · split at hv
    · rename_i hst
      obtain ⟨l, hl, hdecode⟩ := hcase _ hst (by decide)
      rw [hl, versionOf, if_neg (by rw [hdecode]; decide), if_pos hdecode] at hpy
      rw [← Option.some.inj hv, ← Option.some.inj hpy]
      rfl
    · cases hv

end DutDoc

/-- A number that fits a field is not changed by it. -/
theorem toNat_setWidth_ofNat {z : Int} {w : Nat} (hw : w ≤ 32) (h : 0 ≤ z ∧ z < 2 ^ w) :
    ((BitVec.ofNat 32 z.toNat).setWidth w).toNat = z.toNat := by
  have hlt : z.toNat < 2 ^ w := by
    have hcast : ((2 ^ w : Nat) : Int) = 2 ^ w := by
      simp
    omega
  have hle : 2 ^ w ≤ 2 ^ 32 := Nat.pow_le_pow_right (by omega) hw
  have hmod : z.toNat % 2 ^ 32 = z.toNat := Nat.mod_eq_of_lt (by omega)
  rw [BitVec.toNat_setWidth, BitVec.toNat_ofNat, hmod, Nat.mod_eq_of_lt hlt]

/-- **Both languages read the same declaration**, if no key is given twice, each key comes first and each
integer is plain. -/
theorem dut_config_agree (d : DutDoc) (hdup : d.NoDuplicates) (hread : d.Readable) (n : Nat) (decl : Declaration)
    (hpy : loadDutConfig d = some decl) (hfits : decl.Fits n) (c : DmCfg)
    (hsv : readCfg d.text (.ofNat 32 n) = some c) : c.declared = decl.declaredConfig n := by
  simp only [loadDutConfig, Option.bind_eq_bind, Option.bind_eq_some_iff, Option.pure_def, Option.some.injEq] at hpy
  obtain ⟨version, hversion, -, -, flags, hflags, numbers, hnumbers, rfl⟩ := hpy
  simp only [readCfg, Option.bind_eq_bind, Option.bind_eq_some_iff, Option.pure_def, Option.some.injEq] at hsv
  obtain ⟨version', hversion', flags', hflags', numbers', hnumbers', rfl⟩ := hsv
  have hv : version'.toNat = version := d.version_agree hdup hread hversion' (Option.bind_eq_some_iff.mpr hversion)
  have hf : flags' = flags := by
    funext k
    exact d.flag_agree hdup hread k (collect_eq_some hflags' k k.mem_all) (collect_eq_some hflags k k.mem_all)
  have hn : ∀ k, numbers' k = .ofNat 32 (numbers k).toNat := by
    intro k
    exact d.number_agree hdup hread k (collect_eq_some hnumbers' k k.mem_all) (collect_eq_some hnumbers k k.mem_all)
      (hfits.2 k).1
  subst hf hv
  have hharts : (BitVec.ofNat 32 n).toNat = n := by
    rw [BitVec.toNat_ofNat, Nat.mod_eq_of_lt hfits.1]
  have hfield : ∀ k : NumberKey, ((numbers' k).setWidth k.width).toNat = (numbers k).toNat := by
    intro k
    rw [hn k, toNat_setWidth_ofNat (by cases k <;> decide) (hfits.2 k)]
  have hreset : ((numbers' .sbaccessReset).extractLsb' 0 3).toNat = (numbers .sbaccessReset).toNat := by
    rw [← hfield .sbaccessReset, BitVec.extractLsb'_toNat, BitVec.toNat_setWidth]
    rfl
  have hnextdm : (numbers' .nextdm).toNat = (numbers .nextdm).toNat := by
    rw [← hfield .nextdm, NumberKey.width, BitVec.setWidth_eq]
  unfold DmCfg.declared Declaration.declaredConfig
  rw [DeclaredConfig.mk.injEq]
  refine ⟨rfl, rfl, rfl, rfl, rfl, rfl, rfl, hharts, rfl, rfl, rfl, rfl, rfl, rfl, rfl, rfl, rfl, hfield .progbufsize,
    hfield .datacount, rfl, hfield .nscratch, rfl, hfield .datasize, hfield .dataaddr, hfield .sbversion,
    hfield .sbasize, hreset, rfl, rfl, rfl, rfl, rfl, rfl, hnextdm⟩

/-! ## A declaration in two layouts -/

/-- The literal of a text without escapes. -/
def literalOf (s : List Char) : Literal :=
  s.filterMap fun c =>
    if h : c ≠ JsonText.quote ∧ c ≠ JsonText.backslash ∧ 0x20 ≤ c.toNat then some (.plain c h) else none

/-- An item without white space, but for `afterColon`. -/
def itemOf {τ : Type} (key : List Char) (afterColon : Space) (value : τ) : Member τ where
  before := .none
  key := literalOf key
  afterKey := .none
  afterColon := afterColon
  value := value
  afterValue := .none

/-- A line end and the indentation of the next line. -/
def newLine : Space := ⟨JsonText.newline :: "    ".toList, by decide⟩

/-- An item on a line of its own. -/
def ownLine {τ : Type} (key : List Char) (afterColon : Space) (value : τ) : Member τ :=
  { itemOf key afterColon value with before := newLine }

def oneBlank : Space := ⟨[' '], by decide⟩

/-- The flags that `cva6.json` sets. -/
def cva6Flags : List FlagKey :=
  [.authenticated, .stickyunavail, .haveresetPoweron, .sbaEnable, .abstractautoEnable, .haltsumGroupsPresent,
    .dataaccess, .sbaccess64]

/-- The numbers of `cva6.json`. -/
def cva6Number : NumberKey → Scalar
  | .progbufsize => .number false 8
  | .datacount | .nscratch | .datasize => .number false 2
  | .dataaddr => .string (literalOf "0x380".toList)
  | .nextdm => .string (literalOf "0x0".toList)
  | .sbversion => .number false 1
  | .sbasize => .number false 64
  | .sbaccessReset => .number false 3

/-- `cva6.json` with one of its notes, and with this white space before the value of `progbufsize`. -/
def cva6Doc (gap : Space) : DutDoc where
  lead := .none
  inner := .none
  members :=
    ownLine dutKey oneBlank (.string (literalOf "cva6".toList)) ::
      ownLine versionKey oneBlank (.string (literalOf "1.0".toList)) ::
      ownLine "_read_behaviour_note".toList oneBlank
        (.string (literalOf "progbuf_readable: whether progbuf0-15 read back what was written".toList)) ::
      (FlagKey.all.map fun k => ownLine k.name oneBlank (.bool (cva6Flags.contains k))) ++
      NumberKey.all.map fun k => ownLine k.name (if k = .progbufsize then gap else oneBlank) (cva6Number k)
  trail := ⟨[JsonText.newline], by decide⟩

def oneLine : DutDoc := cva6Doc oneBlank

def twoLines : DutDoc := cva6Doc ⟨[JsonText.newline], by decide⟩

theorem cva6Doc_noDuplicates (gap : Space) : (cva6Doc gap).NoDuplicates := by
  have hkeys : (cva6Doc gap).members.map (fun m => JsonText.decode m.key) =
      oneLine.members.map fun m => JsonText.decode m.key := rfl
  rw [DutDoc.NoDuplicates, hkeys]
  decide +kernel

theorem cva6Doc_fits {gap : Space} {decl : Declaration} (h : loadDutConfig (cva6Doc gap) = some decl) :
    decl.Fits 1 := by
  simp only [loadDutConfig, Option.bind_eq_bind, Option.bind_eq_some_iff, Option.pure_def, Option.some.injEq] at h
  obtain ⟨version, -, -, -, flags, -, numbers, hnumbers, rfl⟩ := h
  refine ⟨by omega, ?_⟩
  intro k
  have hk := collect_eq_some hnumbers k k.mem_all
  have hnum : ((cva6Doc gap).get? k.name).bind num = num (cva6Number k) := by
    cases k <;> rfl
  rw [hnum] at hk
  have hfits : ∀ k : NumberKey, ∀ z ∈ num (cva6Number k), 0 ≤ z ∧ z < 2 ^ k.width := by
    intro k
    cases k <;> decide +kernel
  exact hfits k _ hk

theorem oneLine_readable : oneLine.Readable where
  version := ⟨_, rfl, by decide⟩
  flags k := by
    cases k <;> exact ⟨_, rfl, by decide⟩
  numbers k := by
    refine ⟨ownLine k.name oneBlank (cva6Number k), ?_, ?_, ?_⟩
    · cases k <;> rfl
    · cases k <;> decide
    · refine ⟨show ∀ c ∈ oneBlank.1, isBlank c = true by decide, ?_⟩
      cases k <;> first | trivial | exact .inr ⟨'x', _, rfl, .inl rfl, by decide, by decide⟩

/-- The declaration of `cva6.json` is read as it is. -/
theorem dut_config_agree_oneLine :
    ∃ decl c, loadDutConfig oneLine = some decl ∧ readCfg oneLine.text 1 = some c ∧
      c.declared = decl.declaredConfig 1 := by
  obtain ⟨decl, hdecl⟩ := Option.isSome_iff_exists.mp (show (loadDutConfig oneLine).isSome = true by decide +kernel)
  obtain ⟨c, hc⟩ := Option.isSome_iff_exists.mp (show (readCfg oneLine.text 1).isSome = true by decide +kernel)
  exact ⟨decl, c, hdecl, hc,
    dut_config_agree oneLine (cva6Doc_noDuplicates _) oneLine_readable 1 decl hdecl (cva6Doc_fits hdecl) c hc⟩

/-- The number on the line behind its colon is taken for 0: the one model expects no program buffer where the
other expects eight words. -/
theorem progbufsize_on_next_line :
    twoLines.NoDuplicates ∧ ∃ decl c, loadDutConfig twoLines = some decl ∧ decl.Fits 1 ∧
      readCfg twoLines.text 1 = some c ∧ (decl.declaredConfig 1).progbufsize = 8 ∧ c.declared.progbufsize = 0 := by
  have hpy : (loadDutConfig twoLines).map (fun decl => (decl.declaredConfig 1).progbufsize) = some 8 := by
    decide +kernel
  have hsv : (readCfg twoLines.text 1).map (fun c => c.declared.progbufsize) = some 0 := by
    decide +kernel
  obtain ⟨decl, hdecl, height⟩ := Option.map_eq_some_iff.mp hpy
  obtain ⟨c, hc, hzero⟩ := Option.map_eq_some_iff.mp hsv
  exact ⟨cva6Doc_noDuplicates _, decl, c, hdecl, cva6Doc_fits hdecl, hc, height, hzero⟩

end RiscvDbg
