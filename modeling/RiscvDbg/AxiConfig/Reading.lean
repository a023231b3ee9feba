import RiscvDbg.AxiConfig.Model
import RiscvDbg.DutConfig.Agreement

/-!
# Where the tap configuration is read by structure

`dbg_axi_cfg_reader` slices objects by counting braces, finds a key as the first place where its name stands
between two quotes, and takes the text up to the next comma or closing brace for its value.

* `WellFormedTap` — the documented keys have values of the documented kinds.
* `ReadableTap` — the layout does not mislead the reader: each key is found where it is, no value is cut short,
  decimal addresses fit a signed 32-bit number, and braces are balanced item by item.
* `valueIn_clear` — what `value_in` finds for a key.
* `parseRegions_readable`, `parseRanges_readable`, `parseTap_readable` — the parts of a tap.
* `get_taps_reads` — **every readable file is read as its JSON says**, one configuration for each tap, in order.
-/

set_option autoImplicit false

namespace RiscvDbg

open JsonText (Space Literal Member Element Scalar IsKey)

/-! ## Texts without white space at their ends -/

/-- A text that `trim` leaves alone. -/
structure Solid (t : List Char) : Prop where
  head : ∃ c u, t = c :: u ∧ JsonText.isSpace c = false
  last : ∀ c ∈ t.getLast?, JsonText.isSpace c = false

theorem isSpace_of_isPunct {c : Char} (h : JsonText.isPunct c = false) : JsonText.isSpace c = false := by
  simp only [JsonText.isPunct, Bool.or_eq_false_iff] at h
  exact h.1.1.1.1

theorem solid_of_isPunct {t : List Char} (hne : t ≠ []) (h : ∀ c ∈ t, JsonText.isPunct c = false) : Solid t := by
  refine ⟨?_, ?_⟩
  · obtain ⟨c, u, rfl⟩ := List.exists_cons_of_ne_nil hne
    exact ⟨c, u, rfl, isSpace_of_isPunct (h c List.mem_cons_self)⟩
  · intro c hc
    exact isSpace_of_isPunct (h c (List.mem_of_getLast? hc))

theorem solid_quoted (t : List Char) : Solid (JsonText.quoted t) where
  head := ⟨JsonText.quote, t ++ [JsonText.quote], rfl, by decide⟩
  last := by
    intro c hc
    rw [JsonText.quoted, ← List.cons_append, List.getLast?_concat] at hc
    rw [← Option.some.inj hc]
    decide

theorem isPunct_toDigits (n : Nat) : ∀ c ∈ Nat.toDigits 10 n, JsonText.isPunct c = false :=
  fun _ hc => isPunct_of_isHexDigit (isHexDigit_of_isDigit (Scalar.isDigit_of_mem_toDigits hc))

theorem solid_scalar (v : Scalar) : Solid v.text := by
  cases v with
  | bool b => cases b <;> exact solid_of_isPunct (by decide) (by decide)
  | string l => exact solid_quoted _
  | number negative n =>
    cases negative with
    | false => exact solid_of_isPunct Nat.toDigits_ne_nil (isPunct_toDigits n)
    | true => exact solid_of_isPunct (by simp [Scalar.text]) (List.forall_mem_cons.mpr ⟨by decide, isPunct_toDigits n⟩)

/-- `trim` takes the white space off. -/
theorem trim_solid {t : List Char} (ht : Solid t) (a b : Space) : trim (a.1 ++ (t ++ b.1)) = t := by
  have hdrop : (a.1 ++ (t ++ b.1)).dropWhile JsonText.isSpace = t ++ b.1 := by
    obtain ⟨c, u, rfl, hc⟩ := ht.head
    rw [List.dropWhile_append_of_pos a.2]
    exact List.dropWhile_cons_of_neg (by simp [hc])
  have hself : t.rdropWhile JsonText.isSpace = t := by
    rw [List.rdropWhile_eq_self_iff]
    intro hne
    simp [ht.last _ (List.getLast?_eq_some_getLast hne)]
  have hspaces : ∀ s : List Char, (∀ c ∈ s, JsonText.isSpace c = true) →
      (t ++ s).rdropWhile JsonText.isSpace = t.rdropWhile JsonText.isSpace := by
    intro s
    induction s using List.reverseRecOn with
    | nil => intro _; rw [List.append_nil]
    | append_singleton s c ih =>
      intro hs
      rw [List.forall_mem_append] at hs
      rw [← List.append_assoc, List.rdropWhile_concat_pos _ _ _ (hs.2 c (by simp)), ih hs.1]
  rw [trim, hdrop, hspaces b.1 b.2, hself]

/-! ## What `value_in` finds -/

section
variable {τ : Type} [JsonText.Written τ] [∀ (k : List Char) (v : τ), Decidable (JsonText.Written.hides k v)]
variable {k : List Char} {ms : List (Member τ)}

/-- The search for the key ends at the key itself, or the key is absent and the search finds nothing. -/
def Clear (ms : List (Member τ)) (k : List Char) : Prop :=
  match JsonText.firstHit? ms k with
  | some m => JsonText.text m.key = k
  | none => JsonText.lookup ms k = none

theorem isSpace_not_ends {c : Char} (h : JsonText.isSpace c = true) : endsTapValue c = false := by
  simp only [JsonText.isSpace, Bool.or_eq_true, beq_iff_eq] at h
  rcases h with ((rfl | rfl) | rfl) | rfl <;> decide

/-- The value text of an item is cut out and trimmed, if it does not end too early. -/
theorem valueIn_of_hit (hk : IsKey k) {m : Member τ} (hm : m ∈ JsonText.firstHit? ms k)
    (htext : JsonText.text m.key = k) (hsolid : Solid (JsonText.Written.text m.value))
    (huncut : ∀ c ∈ JsonText.Written.text m.value, endsTapValue c = false) (inner : Space) :
    valueIn (JsonText.objectText inner ms) k = JsonText.Written.text m.value := by
  obtain ⟨post, hafter⟩ := JsonText.after_objectText_of_firstHit hk hm htext inner []
  obtain ⟨c, u, hfollow, hc⟩ := JsonText.follow_eq_cons post []
  have hends : endsTapValue c = true := by
    rcases hc with rfl | rfl <;> decide
  have htake : (m.afterColon.1 ++ (JsonText.Written.text m.value ++ (m.afterValue.1 ++ c :: u))).takeWhile
      (!endsTapValue ·) = m.afterColon.1 ++ (JsonText.Written.text m.value ++ m.afterValue.1) := by
    rw [List.takeWhile_append_of_pos (fun c hc => by simp [isSpace_not_ends (m.afterColon.2 c hc)]),
      List.takeWhile_append_of_pos (fun c hc => by simp [huncut c hc]),
      List.takeWhile_append_of_pos (fun c hc => by simp [isSpace_not_ends (m.afterValue.2 c hc)]),
      List.takeWhile_cons_of_neg (by simp [hends]), List.append_nil]
  rw [List.append_nil] at hafter
  rw [valueIn, hafter, hfollow, Option.bind_some, JsonText.after_colon]
  dsimp only
  rw [htake, trim_solid hsolid]

/-- The search finds nothing. -/
theorem after_of_none (hk : IsKey k) (hms : JsonText.firstHit? ms k = none) (inner : Space) :
    Text.after (JsonText.quoted k) (JsonText.objectText inner ms) = none := by
  have hafter := JsonText.after_objectText hk
    (fun m hm => by simpa using List.find?_eq_none.mp hms m hm) inner []
  rw [List.append_nil] at hafter
  rw [hafter]
  rfl

theorem valueIn_of_none (hk : IsKey k) (hms : JsonText.firstHit? ms k = none) (inner : Space) :
    valueIn (JsonText.objectText inner ms) k = [] := by
  rw [valueIn, after_of_none hk hms]
  rfl

/-- **What `value_in` finds for a clear key**: nothing if it is absent, else its value text. -/
theorem valueIn_clear (hk : IsKey k) (hdup : (ms.map fun m => JsonText.decode m.key).Nodup) (hclear : Clear ms k)
    (inner : Space) :
    (JsonText.lookup ms k = none ∧ valueIn (JsonText.objectText inner ms) k = []) ∨
      ∃ v, JsonText.lookup ms k = some v ∧ (Solid (JsonText.Written.text v) →
        (∀ c ∈ JsonText.Written.text v, endsTapValue c = false) →
          valueIn (JsonText.objectText inner ms) k = JsonText.Written.text v) := by
  unfold Clear at hclear
  split at hclear
  · rename_i m hm
    exact .inr ⟨m.value, JsonText.lookup_of_firstHit hk hdup hm hclear,
      fun hsolid huncut => valueIn_of_hit hk hm hclear hsolid huncut inner⟩
  · rename_i hnone
    exact .inl ⟨hclear, valueIn_of_none hk hnone inner⟩

end

/-! ## Reading the value texts -/

theorem unquote_quoted (s : List Char) : unquote (JsonText.quoted s) = s := by
  have hlast : (JsonText.quoted s).getLast? = some JsonText.quote := by
    rw [JsonText.quoted, ← List.cons_append, List.getLast?_concat]
  rw [unquote, if_pos ⟨by simp [JsonText.quoted], rfl, hlast⟩, JsonText.quoted, List.tail_cons, List.dropLast_concat]

theorem unquote_of_head {s : List Char} (h : s.head? ≠ some JsonText.quote) : unquote s = s :=
  if_neg (fun hs => h hs.2.1)

/-- A text without quotes is not unquoted. -/
theorem unquote_of_not_mem {s : List Char} (h : JsonText.quote ∉ s) : unquote s = s :=
  unquote_of_head (fun hs => h (List.mem_of_mem_head? hs))

/-- A literal without escapes stands for its text. -/
theorem stringOf_text {l : Literal} (h : JsonText.backslash ∉ JsonText.text l) : stringOf l = JsonText.text l := by
  rw [stringOf, JsonText.decode_of_backslash_not_mem l h, List.map_map, List.map_congr_left (fun c _ => c.ofNat_toNat),
    List.map_id']

/-- A literal without escapes has no quote in it. -/
theorem quote_not_mem_text {l : Literal} (h : JsonText.backslash ∉ JsonText.text l) :
    JsonText.quote ∉ JsonText.text l := by
  induction l with
  | nil => simp
  | cons p l ih =>
    rw [JsonText.text_cons, List.mem_append, not_or] at h ⊢
    refine ⟨?_, ih h.2⟩
    cases p with
    | plain c hc => simpa [JsonText.Piece.text] using Ne.symm hc.1
    | escape c hc => exact absurd (by simp [JsonText.Piece.text]) h.1
    | unicode a b c d hx => exact absurd (by simp [JsonText.Piece.text]) h.1

/-- The two forms of a number in a text. -/
theorem textNumber_eq_some {t : List Char} {n : Nat} (h : textNumber t = some n) :
    (isHexText t = true ∧ (∀ c ∈ t.drop 2, JsonText.isHexDigit c = true) ∧ n = JsonText.readDigits 16 0 (t.drop 2)) ∨
      (isHexText t = false ∧ t ≠ [] ∧ (∀ c ∈ t, c.isDigit = true) ∧ n = JsonText.readDigits 10 0 t) := by
  unfold textNumber at h
  split_ifs at h with hhex hall hdec
  · exact .inl ⟨hhex, List.all_eq_true.mp hall, (Option.some.inj h).symm⟩
  · exact .inr ⟨by simpa using hhex, hdec.1, List.all_eq_true.mp hdec.2, (Option.some.inj h).symm⟩

theorem isHexText_cons {t : List Char} (h : isHexText t = true) :
    ∃ x u, t = '0' :: x :: u ∧ u ≠ [] ∧ (x = 'x' ∨ x = 'X') := by
  unfold isHexText at h
  split at h
  · rename_i x c u
    exact ⟨x, c :: u, rfl, by simp, by simpa using h⟩
  · cases h

/-- A number in a text is not cut short. -/
theorem textNumber_uncut {t : List Char} {n : Nat} (h : textNumber t = some n) : ∀ c ∈ t, endsTapValue c = false := by
  have hpunct : ∀ {c : Char}, JsonText.isPunct c = false → endsTapValue c = false := by
    intro c hc
    simp only [JsonText.isPunct, Bool.or_eq_false_iff] at hc
    simp [endsTapValue, hc]
  obtain ⟨hhex, hall, -⟩ | ⟨-, -, hall, -⟩ := textNumber_eq_some h
  · obtain ⟨x, u, rfl, -, hx⟩ := isHexText_cons hhex
    refine List.forall_mem_cons.mpr ⟨by decide, List.forall_mem_cons.mpr ⟨?_, ?_⟩⟩
    · rcases hx with rfl | rfl <;> decide
    · exact fun c hc => hpunct (isPunct_of_isHexDigit (hall c hc))
  · exact fun c hc => hpunct (isPunct_of_isHexDigit (isHexDigit_of_isDigit (hall c hc)))

theorem signExtend_ofNat {n : Nat} (h : n < 2 ^ 31) : (BitVec.ofNat 32 n).signExtend 64 = BitVec.ofNat 64 n := by
  have hmsb : (BitVec.ofNat 32 n).msb = false := by
    rw [BitVec.msb_eq_false_iff_two_mul_lt, BitVec.toNat_ofNat]
    omega
  rw [BitVec.signExtend_eq_setWidth_of_msb_false hmsb, BitVec.setWidth_ofNat_of_le_of_lt (by omega) (by omega)]

/-- A number that `to_u64` reads: hexadecimal, or decimal and below `2 ^ 31`. -/
def ReadableNumber (t : List Char) : Prop := isHexText t = true ∨ ∀ n ∈ textNumber t, n < 2 ^ 31

/-- **`to_u64` reads a readable number.** -/
theorem toU64_number {s t : List Char} (hs : unquote s = t) {n : Nat} (hn : textNumber t = some n)
    (hread : ReadableNumber t) (dflt : BitVec 64) : toU64 s dflt = .ofNat 64 n := by
  obtain ⟨hhex, hall, rfl⟩ | ⟨hhex, hne, hall, hval⟩ := textNumber_eq_some hn
  · have hne : t ≠ [] := by
      obtain ⟨x, u, rfl, -⟩ := isHexText_cons hhex
      simp
    rw [toU64, hs, if_neg hne, if_pos hhex, List.takeWhile_eq_self_iff.mpr hall]
  · have hsmall : n < 2 ^ 31 := by
      obtain hhex' | hsmall := hread
      · rw [hhex] at hhex'
        cases hhex'
      · exact hsmall n hn
    have hatoi : atoi t = .ofNat 32 n := by
      rw [hval, ← atoi_digits hall (y := []) (fun c hc => by cases hc), List.append_nil]
    rw [toU64, hs, if_neg hne, if_neg (by simp [hhex]), hatoi, signExtend_ofNat hsmall]

/-! ## The files and their layout -/

section
variable (e : Element Scalar) (t : Tap)

/-- A value that is an address. -/
def IsAddress (v : Scalar) : Prop := ∃ n, addressOf v = some n ∧ n < 2 ^ 64

/-- A name: no quotes and no escapes. -/
def IsName (l : Literal) : Prop := JsonText.backslash ∉ JsonText.text l

/-- An item of `regions`: an address and a name. -/
structure IsRegion (r : Member Scalar) : Prop where
  key : ∃ n, textNumber (stringOf r.key) = some n ∧ n < 2 ^ 64
  value : ∃ l, r.value = .string l ∧ IsName l

/-- An entry of `region_ranges` with values of the documented kinds. -/
structure WellFormedRange : Prop where
  noDuplicates : (e.members.map fun m => JsonText.decode m.key).Nodup
  address : ∀ k ∈ ["lo".toList, "hi".toList], ∀ v ∈ JsonText.lookup e.members k, IsAddress v
  name : ∃ l, JsonText.lookup e.members "name".toList = some (.string l) ∧ IsName l

/-- The names of `uvm_verbosity`. -/
def verbosities : List (List Char) :=
  ["UVM_NONE".toList, "UVM_LOW".toList, "UVM_MEDIUM".toList, "UVM_HIGH".toList, "UVM_FULL".toList]

/-- A tap whose documented keys have values of the documented kinds.  Other keys are free. -/
structure WellFormedTap : Prop where
  noDuplicates : (t.members.map fun m => JsonText.decode m.key).Nodup
  name : ∃ l, JsonText.lookup t.members "name".toList = some (.scalar (.string l)) ∧ IsName l
  logLevel : ∀ v ∈ JsonText.lookup t.members "log_level".toList, ∃ l, v = .scalar (.string l) ∧ stringOf l ∈ verbosities
  monitor : ∀ k ∈ ["monitor_reads".toList, "monitor_writes".toList], ∀ v ∈ JsonText.lookup t.members k,
    ∃ b, v = .scalar (.bool b)
  address : ∀ k ∈ ["addr_lo".toList, "addr_hi".toList], ∀ v ∈ JsonText.lookup t.members k,
    ∃ s, v = .scalar s ∧ IsAddress s
  regions : ∀ v ∈ JsonText.lookup t.members "regions".toList, ∃ inner rs, v = .regions inner rs ∧ ∀ r ∈ rs, IsRegion r
  ranges : ∀ v ∈ JsonText.lookup t.members "region_ranges".toList,
    ∃ inner es, v = .ranges inner es ∧ ∀ e ∈ es, WellFormedRange e

/-- An address without escapes that `to_u64` reads. -/
def ReadableAddress : Scalar → Prop
  | .bool _ => True
  | .number _ n => n < 2 ^ 31
  | .string l => JsonText.backslash ∉ JsonText.text l ∧ ReadableNumber (JsonText.text l)

/-- A name that is there and is not cut short. -/
def ReadableName (l : Literal) : Prop := JsonText.text l ≠ [] ∧ ∀ c ∈ JsonText.text l, endsTapValue c = false

/-- The braces of the items close one another, those in texts counted as well. -/
def BracesMatch {τ : Type} [JsonText.Written τ] (ms : List (Member τ)) : Prop :=
  Blocks.Balanced JsonText.openBrace JsonText.closeBrace (JsonText.membersText ms)

/-- An entry whose layout does not mislead the reader. -/
structure ReadableRange : Prop where
  clear : ∀ k ∈ ["lo".toList, "hi".toList, "name".toList], Clear e.members k
  address : ∀ k ∈ ["lo".toList, "hi".toList], ∀ v ∈ JsonText.lookup e.members k, ReadableAddress v
  name : ∀ l, JsonText.lookup e.members "name".toList = some (.string l) → ReadableName l
  braces : BracesMatch e.members

/-- An item of `regions` that the reader finds: no escapes in its key, no closing brace in it. -/
structure ReadableRegion (r : Member Scalar) : Prop where
  key : JsonText.backslash ∉ JsonText.text r.key ∧ ReadableNumber (JsonText.text r.key)
  noBrace : JsonText.closeBrace ∉ r.text

/-- The documented keys of a tap. -/
def tapKeys : List (List Char) :=
  ["name".toList, "log_level".toList, "monitor_reads".toList, "monitor_writes".toList, "addr_lo".toList,
    "addr_hi".toList, "regions".toList, "region_ranges".toList]

/-- A tap whose layout does not mislead the reader: each key is found where it is, no value is cut short, no number
is too large and the braces match. -/
structure ReadableTap : Prop where
  clear : ∀ k ∈ tapKeys, Clear t.members k
  name : ∀ l, JsonText.lookup t.members "name".toList = some (.scalar (.string l)) → ReadableName l
  logLevel : ∀ l, JsonText.lookup t.members "log_level".toList = some (.scalar (.string l)) →
    JsonText.backslash ∉ JsonText.text l
  address : ∀ k ∈ ["addr_lo".toList, "addr_hi".toList], ∀ s, JsonText.lookup t.members k = some (.scalar s) →
    ReadableAddress s
  regions : ∀ inner rs, JsonText.lookup t.members "regions".toList = some (.regions inner rs) →
    ∀ r ∈ rs, ReadableRegion r
  ranges : ∀ inner es, JsonText.lookup t.members "region_ranges".toList = some (.ranges inner es) →
    ∀ e ∈ es, ReadableRange e
  braces : BracesMatch t.members

end

/-! ## The scalar fields -/

/-- A value text that is not cut short. -/
def Uncut (v : Scalar) : Prop := ∀ c ∈ v.text, endsTapValue c = false

theorem uncut_quoted {t : List Char} (h : ∀ c ∈ t, endsTapValue c = false) :
    ∀ c ∈ JsonText.quoted t, endsTapValue c = false := by
  rw [JsonText.quoted, List.forall_mem_cons, List.forall_mem_append]
  exact ⟨by decide, h, by decide⟩

theorem textNumber_toDigits (n : Nat) : textNumber (Nat.toDigits 10 n) = some n := by
  have hdigits : ∀ c ∈ Nat.toDigits 10 n, c.isDigit = true := fun _ hc => Scalar.isDigit_of_mem_toDigits hc
  have hhex : isHexText (Nat.toDigits 10 n) = false := by
    rw [← List.append_nil (Nat.toDigits 10 n)]
    exact isHexText_digits hdigits (fun c hc => by cases hc) Nat.toDigits_ne_nil
  rw [textNumber, if_neg (by simp [hhex]), if_pos ⟨Nat.toDigits_ne_nil, List.all_eq_true.mpr hdigits⟩,
    JsonText.readDigits_toDigits]

/-- The text of a readable address: it is not cut short, and `to_u64` reads it. -/
theorem readableAddress {v : Scalar} {n : Nat} (hv : addressOf v = some n) (hread : ReadableAddress v) :
    Uncut v ∧ ∀ dflt, toU64 v.text dflt = .ofNat 64 n := by
  cases v with
  | bool b => cases hv
  | string l =>
    obtain ⟨hback, hnumber⟩ := hread
    rw [addressOf, stringOf_text hback] at hv
    exact ⟨uncut_quoted (textNumber_uncut hv), toU64_number (unquote_quoted _) hv hnumber⟩
  | number negative m =>
    cases negative with
    | true => cases hv
    | false =>
      obtain rfl := Option.some.inj hv
      have htext := textNumber_toDigits m
      have hquote : unquote (Nat.toDigits 10 m) = Nat.toDigits 10 m :=
        unquote_of_not_mem (Scalar.quote_not_mem_toDigits m)
      refine ⟨textNumber_uncut htext, toU64_number hquote htext (.inr ?_)⟩
      intro k hk
      rw [htext] at hk
      rwa [← Option.some.inj hk]

section
variable {τ : Type} [JsonText.Written τ] [∀ (k : List Char) (v : τ), Decidable (JsonText.Written.hides k v)]
variable {k : List Char} {ms : List (Member τ)}

/-- The value text of a clear key. -/
theorem valueIn_some (hk : IsKey k) (hdup : (ms.map fun m => JsonText.decode m.key).Nodup) (hclear : Clear ms k) {v : τ}
    (hv : JsonText.lookup ms k = some v) {s : Scalar} (hs : JsonText.Written.text v = s.text) (huncut : Uncut s)
    (inner : Space) : valueIn (JsonText.objectText inner ms) k = s.text := by
  obtain ⟨hnone, -⟩ | ⟨v', hv', hvalue⟩ := valueIn_clear hk hdup hclear inner
  · rw [hnone] at hv
    cases hv
  · rw [hv, Option.some.injEq] at hv'
    subst hv'
    rw [hs] at hvalue
    exact hvalue (solid_scalar s) huncut

theorem valueIn_absent (hk : IsKey k) (hdup : (ms.map fun m => JsonText.decode m.key).Nodup) (hclear : Clear ms k)
    (hv : JsonText.lookup ms k = none) (inner : Space) : valueIn (JsonText.objectText inner ms) k = [] := by
  obtain ⟨-, hvalue⟩ | ⟨v', hv', -⟩ := valueIn_clear hk hdup hclear inner
  · exact hvalue
  · rw [hv] at hv'
    cases hv'

/-- **An address field is read as the JSON says.** -/
theorem toU64_valueIn (hk : IsKey k) (hdup : (ms.map fun m => JsonText.decode m.key).Nodup) (hclear : Clear ms k)
    {scalar? : τ → Option Scalar}
    (hv : ∀ v ∈ JsonText.lookup ms k, ∃ s, scalar? v = some s ∧ JsonText.Written.text v = s.text ∧
      IsAddress s ∧ ReadableAddress s) (inner : Space) (dflt : BitVec 64) :
    toU64 (valueIn (JsonText.objectText inner ms) k) dflt = addressAt ((JsonText.lookup ms k).bind scalar?) dflt := by
  cases hlookup : JsonText.lookup ms k with
  | none =>
    rw [valueIn_absent hk hdup hclear hlookup]
    rfl
  | some v =>
    obtain ⟨s, hs, htext, ⟨n, hn, -⟩, hread⟩ := hv v hlookup
    obtain ⟨huncut, hvalue⟩ := readableAddress hn hread
    rw [valueIn_some hk hdup hclear hlookup htext huncut, hvalue, Option.bind_some, hs, addressAt, hn, Option.getD_some]

/-- **A name is read as the JSON says.** -/
theorem unquote_valueIn (hk : IsKey k) (hdup : (ms.map fun m => JsonText.decode m.key).Nodup) (hclear : Clear ms k)
    {v : τ} (hv : JsonText.lookup ms k = some v) {l : Literal}
    (hl : JsonText.Written.text v = (Scalar.string l).text) (hname : IsName l) (hread : ReadableName l)
    (inner : Space) :
    unquote (valueIn (JsonText.objectText inner ms) k) = stringOf l ∧ stringOf l ≠ [] := by
  rw [valueIn_some hk hdup hclear hv hl (uncut_quoted hread.2), stringOf_text hname]
  exact ⟨unquote_quoted _, hread.1⟩

end

theorem isKey_of_mem_tapKeys : ∀ k ∈ tapKeys, IsKey k := by
  decide

section
variable {t : Tap} (hwf : WellFormedTap t) (hread : ReadableTap t)
include hwf hread

/-- `addr_lo` and `addr_hi`. -/
theorem address_readable {k : List Char} (hk : k ∈ ["addr_lo".toList, "addr_hi".toList]) (dflt : BitVec 64) :
    toU64 (valueIn t.object k) dflt = addressAt (scalarAt t k) dflt := by
  have hmem : k ∈ tapKeys := by
    revert hk k
    decide
  refine toU64_valueIn (isKey_of_mem_tapKeys k hmem) hwf.noDuplicates (hread.clear k hmem) ?_ t.inner dflt
  intro v hv
  obtain ⟨s, rfl, haddress⟩ := hwf.address k hk v hv
  exact ⟨s, rfl, rfl, haddress, hread.address k hk s hv⟩

/-- `monitor_reads` and `monitor_writes`. -/
theorem monitor_readable {k : List Char} (hk : k ∈ ["monitor_reads".toList, "monitor_writes".toList]) :
    toBool (valueIn t.object k) true = ((scalarAt t k).bind boolOf).getD true := by
  have hmem : k ∈ tapKeys := by
    revert hk k
    decide
  have hkey := isKey_of_mem_tapKeys k hmem
  have hclear := hread.clear k hmem
  rw [JsonText.Element.object, scalarAt]
  cases hlookup : JsonText.lookup t.members k with
  | none =>
    rw [valueIn_absent hkey hwf.noDuplicates hclear hlookup]
    rfl
  | some v =>
    obtain ⟨b, rfl⟩ := hwf.monitor k hk v hlookup
    have huncut : Uncut (.bool b) := by
      unfold Uncut
      cases b <;> decide
    rw [valueIn_some hkey hwf.noDuplicates hclear hlookup rfl huncut]
    cases b <;> rfl

/-- `log_level`. -/
theorem logLevel_readable : toVerbosity (valueIn t.object "log_level".toList) .medium = (configOf t).logLevel := by
  have hkey : IsKey "log_level".toList := by decide
  have hclear := hread.clear "log_level".toList (by decide)
  rw [JsonText.Element.object]
  unfold configOf scalarAt
  dsimp only
  cases hlookup : JsonText.lookup t.members "log_level".toList with
  | none =>
    rw [valueIn_absent hkey hwf.noDuplicates hclear hlookup]
    rfl
  | some v =>
    obtain ⟨l, rfl, hname⟩ := hwf.logLevel v hlookup
    have hstring := stringOf_text (hread.logLevel l hlookup)
    have huncut : Uncut (.string l) := by
      refine uncut_quoted ?_
      rw [← hstring]
      revert hname
      generalize stringOf l = s
      revert s
      decide
    rw [valueIn_some hkey hwf.noDuplicates hclear hlookup rfl huncut, toVerbosity]
    change verbosityOf (unquote (JsonText.quoted (JsonText.text l))) .medium = verbosityOf (stringOf l) .medium
    rw [unquote_quoted, hstring]

/-- `bus_name`. -/
theorem busName_readable :
    .ofList (unquote (valueIn t.object "name".toList)) = (configOf t).busName ∧
      unquote (valueIn t.object "name".toList) ≠ [] := by
  obtain ⟨l, hlookup, hname⟩ := hwf.name
  have hbus : (configOf t).busName = .ofList (stringOf l) := by
    change String.ofList (((scalarAt t "name".toList).bind nameOf).getD []) = _
    rw [scalarAt, hlookup]
    rfl
  obtain ⟨hvalue, hne⟩ := unquote_valueIn (by decide) hwf.noDuplicates (hread.clear _ (by decide)) hlookup rfl hname
    (hread.name l hlookup) t.inner
  rw [hbus, JsonText.Element.object, hvalue]
  exact ⟨rfl, hne⟩

end

/-! ## Regions -/

/-- The text behind the mark that opens a value. -/
theorem after_open {τ : Type} [JsonText.Written τ] (m : Member τ) {c : Char} {u : List Char}
    (hv : JsonText.Written.text m.value = c :: u) (hc : JsonText.isSpace c = false) (hcolon : c ≠ ':') (t : List Char) :
    Text.after [c] (m.rest ++ t) = some (u ++ (m.afterValue.1 ++ t)) := by
  have hspace : ∀ s : Space, c ∉ s.1 := by
    intro s hmem
    rw [s.2 c hmem] at hc
    cases hc
  have hskip : Text.Skips [c] (m.afterKey.1 ++ ':' :: m.afterColon.1) := by
    refine Text.skips_of_not_mem ?_
    simp only [List.mem_append, List.mem_cons, not_or]
    exact ⟨hspace _, hcolon, hspace _⟩
  have hshape : m.rest ++ t = (m.afterKey.1 ++ ':' :: m.afterColon.1) ++ ([c] ++ (u ++ (m.afterValue.1 ++ t))) := by
    simp [Member.rest, hv]
  rw [hshape, hskip, Text.after_pattern (by simp)]

/-- The quoted texts among items are their keys and values. -/
theorem quotedPairs_members : ∀ (rs : List (Member Scalar)) (p : List Char), JsonText.quote ∉ p →
    (∀ r ∈ rs, IsRegion r ∧ JsonText.backslash ∉ JsonText.text r.key) →
      quotedPairs ((p ++ JsonText.membersText rs).splitOn JsonText.quote) =
        rs.map fun r => (JsonText.text r.key, (nameOf r.value).getD []) := by
  intro rs
  induction rs with
  | nil =>
    intro p hp _
    rw [JsonText.membersText_nil, List.append_nil, List.splitOn_eq_singleton hp]
    rfl
  | cons r rs ih =>
    intro p hp h
    obtain ⟨⟨hr, hkey⟩, hrs⟩ := List.forall_mem_cons.mp h
    obtain ⟨l, hl, hname⟩ := hr.value
    have hsep : JsonText.quote ∉ r.afterKey.1 ++ ':' :: r.afterColon.1 := by
      simp only [List.mem_append, List.mem_cons, not_or]
      exact ⟨JsonText.quote_not_mem_space _, by decide, JsonText.quote_not_mem_space _⟩
    have hlead : JsonText.quote ∉ p ++ r.before.1 := by
      rw [List.mem_append, not_or]
      exact ⟨hp, JsonText.quote_not_mem_space _⟩
    -- What follows the value: white space, and the other items behind a comma.
    obtain ⟨q, hq, hfollow⟩ : ∃ q, JsonText.quote ∉ q ∧
        r.afterValue.1 ++ JsonText.follow rs [] = q ++ JsonText.membersText rs := by
      cases rs with
      | nil => exact ⟨r.afterValue.1, JsonText.quote_not_mem_space _, rfl⟩
      | cons r' rs =>
        refine ⟨r.afterValue.1 ++ [','], ?_, by simp [JsonText.follow]⟩
        rw [List.mem_append, not_or]
        exact ⟨JsonText.quote_not_mem_space _, by decide⟩
    have hshape : p ++ JsonText.membersText (r :: rs) =
        (p ++ r.before.1) ++ JsonText.quote :: (JsonText.text r.key ++ JsonText.quote ::
          ((r.afterKey.1 ++ ':' :: r.afterColon.1) ++
          JsonText.quote :: (JsonText.text l ++ JsonText.quote :: (q ++ JsonText.membersText rs)))) := by
      have hcons := JsonText.membersText_cons r rs []
      rw [List.append_nil] at hcons
      have hvalue : JsonText.Written.text r.value = JsonText.quoted (JsonText.text l) := by
        rw [hl]
        rfl
      rw [hcons, ← hfollow]
      simp [Member.text, Member.rest, hvalue, JsonText.quoted]
    have hpair : (nameOf r.value).getD [] = JsonText.text l := by
      rw [hl, nameOf, Option.getD_some, stringOf_text hname]
    rw [hshape, List.splitOn_append_cons_self_of_not_mem hlead,
      List.splitOn_append_cons_self_of_not_mem (quote_not_mem_text hkey),
      List.splitOn_append_cons_self_of_not_mem hsep,
      List.splitOn_append_cons_self_of_not_mem (quote_not_mem_text hname),
      List.map_cons, hpair, ← ih q hq hrs]
    obtain ⟨s, rest, hrest⟩ :=
      List.exists_cons_of_ne_nil (List.splitOn_ne_nil JsonText.quote (q ++ JsonText.membersText rs))
    rw [hrest, quotedPairs]

/-- No closing brace in the items, none in their text. -/
theorem closeBrace_not_mem_members : ∀ {rs : List (Member Scalar)}, (∀ r ∈ rs, JsonText.closeBrace ∉ r.text) →
    JsonText.closeBrace ∉ JsonText.membersText rs := by
  intro rs
  induction rs with
  | nil => intro _; simp
  | cons r rs ih =>
    intro h
    obtain ⟨hr, hrs⟩ := List.forall_mem_cons.mp h
    have hcons := JsonText.membersText_cons r rs []
    rw [List.append_nil] at hcons
    rw [hcons, List.mem_append, not_or]
    refine ⟨hr, ?_⟩
    cases rs with
    | nil => simp [JsonText.follow]
    | cons r' rs =>
      rw [JsonText.follow, List.append_nil, List.mem_cons, not_or]
      exact ⟨by decide, ih hrs⟩

/-- The loop of `parse_regions` over the items. -/
theorem addRegions_readable {rs : List (Member Scalar)} (hrs : ∀ r ∈ rs, IsRegion r ∧ ReadableRegion r) :
    addRegions (rs.map fun r => (JsonText.text r.key, (nameOf r.value).getD [])) .empty = regionsOf rs := by
  rw [addRegions, regionsOf, List.foldl_map]
  refine List.foldl_ext _ _ _ ?_
  intro d r hr
  obtain ⟨⟨n, hn, -⟩, hback, hread⟩ := And.intro (hrs r hr).1.key (hrs r hr).2.key
  rw [hn, Option.getD_some]
  rw [stringOf_text hback] at hn
  rw [toU64_number (unquote_of_not_mem (quote_not_mem_text hback)) hn hread]

/-- **`parse_regions` reads the regions of a tap.** -/
theorem parseRegions_readable {t : Tap} (hwf : WellFormedTap t) (hread : ReadableTap t) :
    (parseRegions t.object).get? = (configOf t).regionName := by
  have hkey : IsKey "regions".toList := by decide
  have hclear := hread.clear "regions".toList (by decide)
  unfold Clear at hclear
  unfold configOf
  dsimp only
  split at hclear
  · rename_i m hm
    have hlookup := JsonText.lookup_of_firstHit hkey hwf.noDuplicates hm hclear
    obtain ⟨inner, rs, hregions, hrs⟩ := hwf.regions _ hlookup
    rw [hregions] at hlookup
    have hreadable := hread.regions inner rs hlookup
    obtain ⟨post, hafter⟩ := JsonText.after_objectText_of_firstHit hkey hm hclear t.inner []
    have hopen : JsonText.Written.text m.value =
        JsonText.openBrace :: (inner.1 ++ (JsonText.membersText rs ++ [JsonText.closeBrace])) := by
      rw [hregions]
      rfl
    have hbody : JsonText.closeBrace ∉ inner.1 ++ JsonText.membersText rs := by
      rw [List.mem_append, not_or]
      refine ⟨?_, closeBrace_not_mem_members (fun r hr => (hreadable r hr).noBrace)⟩
      intro hmem
      have hspace := inner.2 _ hmem
      revert hspace
      decide
    have htake : ∀ u : List Char, ((inner.1 ++ JsonText.membersText rs) ++ JsonText.closeBrace :: u).takeWhile
        (· != JsonText.closeBrace) = inner.1 ++ JsonText.membersText rs := by
      intro u
      refine takeWhile_of_halts (fun c hc => ?_) (fun c hc => ?_)
      · simp only [bne_iff_ne, ne_eq]
        rintro rfl
        exact hbody hc
      · rw [← Option.some.inj hc]
        decide
    have hshape : ∀ u : List Char, (inner.1 ++ (JsonText.membersText rs ++ [JsonText.closeBrace])) ++ u =
        (inner.1 ++ JsonText.membersText rs) ++ JsonText.closeBrace :: u := by
      intro u
      simp
    rw [List.append_nil] at hafter
    rw [hlookup, parseRegions, JsonText.Element.object, hafter, Option.bind_some,
      after_open m hopen (by decide) (by decide), hshape]
    dsimp only
    rw [if_pos (by simp), htake, quotedPairs_members rs inner.1 (JsonText.quote_not_mem_space _)
      (fun r hr => ⟨hrs r hr, (hreadable r hr).key.1⟩),
      addRegions_readable (fun r hr => ⟨hrs r hr, hreadable r hr⟩)]
  · rename_i hnone
    rw [hclear, parseRegions, JsonText.Element.object, after_of_none hkey hnone]
    rfl

/-! ## Arrays of objects -/

section
variable {τ : Type} [JsonText.Written τ]

theorem objectsOf_space (s : Space) (t : List Char) : objectsOf (s.1 ++ t) = objectsOf t := by
  have hnot : ∀ c : Char, JsonText.isSpace c = false → c ∉ s.1 := by
    intro c hc hmem
    rw [s.2 c hmem] at hc
    cases hc
  exact Blocks.blocks_skip (hnot _ (by decide)) (hnot _ (by decide)) (hnot _ (by decide)) t

/-- One object is cut out, with the white space around it passed over. -/
theorem objectsOf_element {e : Element τ} (he : BracesMatch e.members) (t : List Char) :
    objectsOf (e.text ++ t) = e.object :: objectsOf t := by
  have hinner : Blocks.Balanced JsonText.openBrace JsonText.closeBrace
      (e.inner.1 ++ JsonText.membersText e.members) := by
    refine Blocks.Balanced.append (Blocks.balanced_of_not_mem ?_ ?_) he <;>
    · intro hmem
      have hspace := e.inner.2 _ hmem
      revert hspace
      decide
  have hshape : e.object ++ (e.after.1 ++ t) = JsonText.openBrace ::
      ((e.inner.1 ++ JsonText.membersText e.members) ++ JsonText.closeBrace :: (e.after.1 ++ t)) := by
    simp [JsonText.Element.object, JsonText.objectText]
  have hobject : e.object = JsonText.openBrace ::
      ((e.inner.1 ++ JsonText.membersText e.members) ++ [JsonText.closeBrace]) := by
    simp [JsonText.Element.object, JsonText.objectText]
  rw [JsonText.Element.text, List.append_assoc, List.append_assoc, objectsOf_space, hshape, objectsOf,
    Blocks.blocks_block (by decide) hinner, ← hobject, ← objectsOf, objectsOf_space]

/-- **The objects of an array**, one after the other, up to the bracket that closes it. -/
theorem objectsOf_elements (t : List Char) : ∀ es : List (Element τ), (∀ e ∈ es, BracesMatch e.members) →
    objectsOf (JsonText.elementsText es (']' :: t)) = es.map Element.object
  | [], _ => Blocks.blocks_stop (by decide) (by decide) t
  | [e], h => by
    rw [JsonText.elementsText, objectsOf_element (h e List.mem_cons_self), objectsOf,
      Blocks.blocks_stop (by decide) (by decide)]
    rfl
  | e :: e' :: es, h => by
    obtain ⟨he, hes⟩ := List.forall_mem_cons.mp h
    have hcomma : ∀ u : List Char, objectsOf (',' :: u) = objectsOf u :=
      Blocks.blocks_skip (s := [',']) (by decide) (by decide) (by decide)
    rw [JsonText.elementsText, objectsOf_element he, hcomma, objectsOf_elements t (e' :: es) hes]
    · rfl
    · simp

end

/-- An entry of `region_ranges` is read as the JSON says, and has a name. -/
theorem parseRange_readable {e : Element Scalar} (hwf : WellFormedRange e) (hread : ReadableRange e) :
    parseRange e.object = rangeOf e ∧ (rangeOf e).name ≠ "" := by
  have haddress : ∀ k ∈ ["lo".toList, "hi".toList],
      toU64 (valueIn e.object k) 0 = addressAt (JsonText.lookup e.members k) 0 := by
    intro k hk
    have hkey : IsKey k := by
      revert hk k
      decide
    have hmem : k ∈ ["lo".toList, "hi".toList, "name".toList] := by
      revert hk k
      decide
    rw [← Option.bind_fun_some (JsonText.lookup e.members k)]
    exact toU64_valueIn hkey hwf.noDuplicates (hread.clear k hmem)
      (fun v hv => ⟨v, rfl, rfl, hwf.address k hk v hv, hread.address k hk v hv⟩) e.inner 0
  obtain ⟨l, hlookup, hname⟩ := hwf.name
  obtain ⟨hvalue, hne⟩ := unquote_valueIn (by decide) hwf.noDuplicates (hread.clear _ (by decide)) hlookup rfl hname
    (hread.name l hlookup) e.inner
  have hstring : (rangeOf e).name = .ofList (stringOf l) := by
    change String.ofList (((JsonText.lookup e.members "name".toList).bind nameOf).getD []) = _
    rw [hlookup]
    rfl
  constructor
  · rw [parseRange, haddress _ (by decide), haddress _ (by decide)]
    unfold rangeOf at hstring ⊢
    rw [RegionRange.mk.injEq]
    exact ⟨rfl, rfl, (congrArg String.ofList hvalue).trans hstring.symm⟩
  · rw [hstring, ← String.ofList_nil]
    exact fun h => hne (String.ofList_injective h)

/-- **`parse_ranges` reads the ranges of a tap.** -/
theorem parseRanges_readable {t : Tap} (hwf : WellFormedTap t) (hread : ReadableTap t) :
    parseRanges t.object = (configOf t).regionRanges := by
  have hkey : IsKey "region_ranges".toList := by decide
  have hclear := hread.clear "region_ranges".toList (by decide)
  unfold Clear at hclear
  unfold configOf
  dsimp only
  split at hclear
  · rename_i m hm
    have hlookup := JsonText.lookup_of_firstHit hkey hwf.noDuplicates hm hclear
    obtain ⟨inner, es, hranges, hes⟩ := hwf.ranges _ hlookup
    rw [hranges] at hlookup
    have hreadable := hread.ranges inner es hlookup
    obtain ⟨post, hafter⟩ := JsonText.after_objectText_of_firstHit hkey hm hclear t.inner []
    have hopen : JsonText.Written.text m.value = '[' :: (inner.1 ++ JsonText.elementsText es [']']) := by
      rw [hranges]
      rfl
    have hobjects : ∀ u : List Char, objectsOf ((inner.1 ++ JsonText.elementsText es [']']) ++ u) =
        es.map Element.object := by
      intro u
      rw [List.append_assoc, objectsOf_space, JsonText.elementsText_append, List.singleton_append,
        objectsOf_elements u es (fun e he => (hreadable e he).braces)]
    have hparse : ∀ e ∈ es, parseRange e.object = rangeOf e ∧ (rangeOf e).name ≠ "" :=
      fun e he => parseRange_readable (hes e he) (hreadable e he)
    rw [List.append_nil] at hafter
    rw [hlookup, parseRanges, JsonText.Element.object, hafter, Option.bind_some,
      after_open m hopen (by decide) (by decide)]
    dsimp only
    have hmap : es.map (parseRange ∘ Element.object) = es.map rangeOf :=
      List.map_congr_left (fun e he => (hparse e he).1)
    rw [hobjects, List.map_map, hmap, List.filter_eq_self]
    intro r hr
    obtain ⟨e, he, rfl⟩ := List.mem_map.mp hr
    simpa using (hparse e he).2
  · rename_i hnone
    rw [hclear, parseRanges, JsonText.Element.object, after_of_none hkey hnone]
    rfl

/-! ## Taps and files -/

/-- **`parse_tap` reads a tap as the JSON says.** -/
theorem parseTap_readable {t : Tap} (hwf : WellFormedTap t) (hread : ReadableTap t) :
    parseTap t.object = some (configOf t) := by
  obtain ⟨hname, hne⟩ := busName_readable hwf hread
  rw [parseTap, if_neg hne, hname, logLevel_readable hwf hread, monitor_readable hwf hread (by decide),
    monitor_readable hwf hread (by decide), address_readable hwf hread (by decide),
    address_readable hwf hread (by decide), parseRegions_readable hwf hread, parseRanges_readable hwf hread]
  rfl

/-- The taps, one by one. -/
theorem mapM_parseTap : ∀ {ts : List Tap}, (∀ t ∈ ts, WellFormedTap t) → (∀ t ∈ ts, ReadableTap t) →
    (ts.map Element.object).mapM parseTap = some (ts.map configOf) := by
  intro ts
  induction ts with
  | nil => intro _ _; rfl
  | cons t ts ih =>
    intro hwf hread
    obtain ⟨hwf, hwfs⟩ := List.forall_mem_cons.mp hwf
    obtain ⟨hread, hreads⟩ := List.forall_mem_cons.mp hread
    rw [List.map_cons, List.mapM_cons, parseTap_readable hwf hread, ih hwfs hreads]
    rfl

/-- **Every readable file is read as its JSON says**: one configuration for each tap, in order, with the values of
the JSON and the defaults for absent keys. -/
theorem get_taps_reads (d : TapDoc) (hbefore : Text.Skips (JsonText.quoted "axi_taps".toList) d.before)
    (hwf : ∀ t ∈ d.taps, WellFormedTap t) (hread : ∀ t ∈ d.taps, ReadableTap t) :
    getTaps d.text = some (d.taps.map configOf) := by
  have hspace : Text.Skips ['['] (d.afterKey.1 ++ ':' :: d.afterColon.1) := by
    refine Text.skips_of_not_mem ?_
    have hnot : ∀ s : Space, '[' ∉ s.1 := by
      intro s hmem
      have h := s.2 _ hmem
      revert h
      decide
    simp only [List.mem_append, List.mem_cons, not_or]
    exact ⟨hnot _, by decide, hnot _⟩
  have hshape : d.afterKey.1 ++ ':' :: (d.afterColon.1 ++ (JsonText.arrayText d.inner d.taps ++ d.rest)) =
      (d.afterKey.1 ++ ':' :: d.afterColon.1) ++ (['['] ++
        (d.inner.1 ++ JsonText.elementsText d.taps (']' :: d.rest))) := by
    simp [JsonText.arrayText, JsonText.elementsText_append]
  rw [getTaps, TapDoc.text, hbefore, Text.after_pattern (by simp [JsonText.quoted]), Option.bind_some, hshape, hspace,
    Text.after_pattern (by simp)]
  dsimp only
  rw [objectsOf_space, objectsOf_elements d.rest d.taps (fun t ht => (hread t ht).braces)]
  exact mapM_parseTap hwf hread

/-! ## Two taps, and one with its name behind a range -/

theorem forall_mem_pair {α : Type} {P : α → Prop} {a b : α} : (∀ x ∈ [a, b], P x) ↔ P a ∧ P b := by
  rw [List.forall_mem_cons, List.forall_mem_singleton]

/-- A string item of an entry without white space. -/
def rangeItem (key value : List Char) : Member Scalar := itemOf key .none (.string (literalOf value))

def debugRom : Element Scalar where
  before := .none
  inner := .none
  members :=
    [rangeItem "lo".toList "0x800".toList, rangeItem "hi".toList "0x9FF".toList,
      rangeItem "name".toList "DebugROM".toList]
  after := .none

theorem debugRom_wellFormed : WellFormedRange debugRom where
  noDuplicates := by decide
  address := by
    refine forall_mem_pair.mpr ⟨?_, ?_⟩
    · rintro v ⟨⟩
      exact ⟨0x800, by decide⟩
    · rintro v ⟨⟩
      exact ⟨0x9FF, by decide⟩
  name := ⟨literalOf "DebugROM".toList, rfl, by unfold IsName; decide⟩

theorem debugRom_readable : ReadableRange debugRom where
  clear := by
    simp only [List.forall_mem_cons, List.not_mem_nil, false_imp_iff, implies_true, and_true]
    exact ⟨rfl, rfl, rfl⟩
  address := by
    refine forall_mem_pair.mpr ⟨?_, ?_⟩ <;>
    · rintro v ⟨⟩
      exact ⟨by decide, .inl rfl⟩
  name := by
    rintro l ⟨⟩
    exact ⟨by decide, by decide⟩
  braces := by
    unfold BracesMatch
    decide

/-- A text item of a tap on a line of its own. -/
def tapLine (key value : List Char) : Member TapValue := ownLine key oneBlank (.scalar (.string (literalOf value)))

/-- The tap `dm_sba` of `cva6_axi.json`. -/
def dmSba : Tap where
  before := newLine
  inner := .none
  members :=
    [tapLine "name".toList "dm_sba".toList,
      tapLine "description".toList "Debug Module System Bus Access master".toList,
      tapLine "log_level".toList "UVM_MEDIUM".toList,
      ownLine "monitor_reads".toList oneBlank (.scalar (.bool true)),
      ownLine "monitor_writes".toList oneBlank (.scalar (.bool true)),
      tapLine "addr_lo".toList "0x0".toList,
      tapLine "addr_hi".toList "0xFFFFFFFFFFFFFFFF".toList,
      ownLine "regions".toList oneBlank (.regions newLine [])]
  after := .none

/-- The tap `dm_slave` of `cva6_axi.json`, with one of its ranges and two of its regions. -/
def dmSlave : Tap where
  before := newLine
  inner := .none
  members :=
    [tapLine "name".toList "dm_slave".toList,
      tapLine "log_level".toList "UVM_HIGH".toList,
      tapLine "_layout_note".toList "Offsets are dm_mem.sv's, DM-relative".toList,
      ownLine "region_ranges".toList oneBlank (.ranges newLine [debugRom]),
      ownLine "regions".toList oneBlank (.regions .none
        [ownLine "0x100".toList oneBlank (.string (literalOf "HaltedAddr".toList)),
          ownLine "0x104".toList oneBlank (.string (literalOf "GoingAddr".toList))])]
  after := newLine

/-- The comment in front of the taps. -/
def commentItem : Member Scalar :=
  ownLine "_comment".toList oneBlank (.string (literalOf "AXI tap settings for the CVA6 SoC.".toList))

def cva6Axi : TapDoc where
  before := JsonText.openBrace :: (commentItem.text ++ ',' :: newLine.1)
  afterKey := .none
  afterColon := oneBlank
  inner := .none
  taps := [dmSba, dmSlave]
  rest := [JsonText.newline, JsonText.closeBrace]

theorem cva6Axi_before : Text.Skips (JsonText.quoted "axi_taps".toList) cva6Axi.before := by
  intro t
  have hopen : Text.Skips (JsonText.quoted "axi_taps".toList) [JsonText.openBrace] :=
    Text.skips_of_not_mem (by decide)
  have hgap : Text.Skips (JsonText.quoted "axi_taps".toList) (',' :: newLine.1) :=
    Text.skips_of_not_mem (by decide)
  have hshape : cva6Axi.before ++ t = [JsonText.openBrace] ++ (commentItem.text ++ ((',' :: newLine.1) ++ t)) := by
    simp [cva6Axi]
  have hcomment : Text.after (JsonText.quoted "axi_taps".toList) (commentItem.text ++ ((',' :: newLine.1) ++ t)) =
      Text.after (JsonText.quoted "axi_taps".toList) ((',' :: newLine.1) ++ t) :=
    JsonText.Member.after_text_of_not_hides (by decide) (JsonText.stops_cons (by decide) _) (by decide)
  rw [hshape, hopen, hcomment, hgap]

theorem dmSba_wellFormed : WellFormedTap dmSba where
  noDuplicates := by decide
  name := ⟨_, rfl, by unfold IsName; decide⟩
  logLevel := by
    rintro v ⟨⟩
    exact ⟨_, rfl, by decide⟩
  monitor := by
    refine forall_mem_pair.mpr ⟨?_, ?_⟩ <;>
    · rintro v ⟨⟩
      exact ⟨_, rfl⟩
  address := by
    refine forall_mem_pair.mpr ⟨?_, ?_⟩
    · rintro v ⟨⟩
      exact ⟨_, rfl, 0, by decide⟩
    · rintro v ⟨⟩
      exact ⟨_, rfl, 0xFFFFFFFFFFFFFFFF, by decide⟩
  regions := by
    rintro v ⟨⟩
    exact ⟨_, [], rfl, by simp⟩
  ranges := by
    rintro v ⟨⟩

theorem dmSba_readable : ReadableTap dmSba where
  clear := by
    simp only [tapKeys, List.forall_mem_cons, List.not_mem_nil, false_imp_iff, implies_true, and_true]
    exact ⟨rfl, rfl, rfl, rfl, rfl, rfl, rfl, rfl⟩
  name := by
    rintro l ⟨⟩
    exact ⟨by decide, by decide⟩
  logLevel := by
    rintro l ⟨⟩
    decide
  address := by
    refine forall_mem_pair.mpr ⟨?_, ?_⟩ <;>
    · rintro s ⟨⟩
      exact ⟨by decide, .inl rfl⟩
  regions := by
    rintro inner rs ⟨⟩
    simp
  ranges := by
    rintro inner es ⟨⟩
  braces := by
    unfold BracesMatch
    decide +kernel

theorem dmSlave_wellFormed : WellFormedTap dmSlave where
  noDuplicates := by decide
  name := ⟨_, rfl, by unfold IsName; decide⟩
  logLevel := by
    rintro v ⟨⟩
    exact ⟨_, rfl, by decide⟩
  monitor := by
    refine forall_mem_pair.mpr ⟨?_, ?_⟩ <;> rintro v ⟨⟩
  address := by
    refine forall_mem_pair.mpr ⟨?_, ?_⟩ <;> rintro v ⟨⟩
  regions := by
    rintro v ⟨⟩
    refine ⟨_, _, rfl, forall_mem_pair.mpr ⟨?_, ?_⟩⟩
    · exact ⟨⟨0x100, by decide⟩, _, rfl, by unfold IsName; decide⟩
    · exact ⟨⟨0x104, by decide⟩, _, rfl, by unfold IsName; decide⟩
  ranges := by
    rintro v ⟨⟩
    exact ⟨_, [debugRom], rfl, List.forall_mem_singleton.mpr debugRom_wellFormed⟩

theorem dmSlave_readable : ReadableTap dmSlave where
  clear := by
    simp only [tapKeys, List.forall_mem_cons, List.not_mem_nil, false_imp_iff, implies_true, and_true]
    exact ⟨rfl, rfl, rfl, rfl, rfl, rfl, rfl, rfl⟩
  name := by
    rintro l ⟨⟩
    exact ⟨by decide, by decide⟩
  logLevel := by
    rintro l ⟨⟩
    decide
  address := by
    refine forall_mem_pair.mpr ⟨?_, ?_⟩ <;> rintro s ⟨⟩
  regions := by
    rintro inner rs ⟨⟩
    refine forall_mem_pair.mpr ⟨?_, ?_⟩ <;>
    · exact ⟨⟨by decide, .inl rfl⟩, by decide⟩
  ranges := by
    rintro inner es ⟨⟩
    exact List.forall_mem_singleton.mpr debugRom_readable
  braces := by
    unfold BracesMatch
    decide +kernel

/-- The two taps of `cva6_axi.json` are read as its JSON says. -/
theorem get_taps_reads_cva6 : getTaps cva6Axi.text = some [configOf dmSba, configOf dmSlave] :=
  get_taps_reads cva6Axi cva6Axi_before
    (forall_mem_pair.mpr ⟨dmSba_wellFormed, dmSlave_wellFormed⟩)
    (forall_mem_pair.mpr ⟨dmSba_readable, dmSlave_readable⟩)

/-- A tap with its name behind its ranges. -/
def nameLast : Tap where
  before := .none
  inner := .none
  members :=
    [itemOf "region_ranges".toList .none (.ranges .none [debugRom]),
      itemOf "name".toList .none (.scalar (.string (literalOf "dm".toList)))]
  after := .none

def docOf (t : Tap) : TapDoc where
  before := [JsonText.openBrace]
  afterKey := .none
  afterColon := .none
  inner := .none
  taps := [t]
  rest := [JsonText.closeBrace]

theorem docOf_before (t : Tap) : Text.Skips (JsonText.quoted "axi_taps".toList) (docOf t).before :=
  Text.skips_of_not_mem (show JsonText.quote ∉ [JsonText.openBrace] by decide)

theorem nameLast_wellFormed : WellFormedTap nameLast where
  noDuplicates := by decide
  name := ⟨literalOf "dm".toList, rfl, by unfold IsName; decide⟩
  logLevel := by
    rintro v ⟨⟩
  monitor := by
    refine forall_mem_pair.mpr ⟨?_, ?_⟩ <;> rintro v ⟨⟩
  address := by
    refine forall_mem_pair.mpr ⟨?_, ?_⟩ <;> rintro v ⟨⟩
  regions := by
    rintro v ⟨⟩
  ranges := by
    rintro v ⟨⟩
    exact ⟨_, [debugRom], rfl, List.forall_mem_singleton.mpr debugRom_wellFormed⟩

/-- With the ranges before the name, the name of the first range is taken for the name of the tap. -/
theorem range_name_taken_for_tap :
    Text.Skips (JsonText.quoted "axi_taps".toList) (docOf nameLast).before ∧
      (∀ t ∈ (docOf nameLast).taps, WellFormedTap t) ∧
      (configOf nameLast).busName = "dm" ∧
      (getTaps (docOf nameLast).text).map (List.map TapCfg.busName) = some ["DebugROM"] ∧
      getTaps (docOf nameLast).text ≠ some ((docOf nameLast).taps.map configOf) := by
  have hread : (getTaps (docOf nameLast).text).map (List.map TapCfg.busName) = some ["DebugROM"] := by
    decide +kernel
  have hname : (configOf nameLast).busName = "dm" := by
    decide
  refine ⟨docOf_before _, List.forall_mem_singleton.mpr nameLast_wellFormed, hname, hread, ?_⟩
  intro h
  rw [h] at hread
  have hsame : (configOf nameLast).busName = "DebugROM" :=
    List.head_eq_of_cons_eq (Option.some.inj hread)
  rw [hname] at hsame
  revert hsame
  decide

end RiscvDbg
