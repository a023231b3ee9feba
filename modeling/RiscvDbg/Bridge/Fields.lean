import RiscvDbg.Bridge.Transport

/-!
# What the server reads from a request line

`handle_request` does not parse its line; it takes the first occurrence of a quoted key.  This module
says what it finds in a line that `json.dumps` has written.

* `newline_not_mem_body` — the line holds no newline of its own, whatever the text.
* `jsonGetStr_body` — the operation is always the one the client meant: it comes first.
* `JsonValue.masksId` — a text that reads, with the quote that closes it, as the key `id`.
* `jsonGetInt_body` — the id is the one the client sent unless such a text comes before it.
-/

set_option autoImplicit false

namespace RiscvDbg

open Text

/-! ## Characters of a line -/

theorem toNat_ofNat_printable {n : Nat} (h : n ≤ 0x7e) : (Char.ofNat n).toNat = n := by
  have hall : ∀ k ≤ 0x7e, (Char.ofNat k).toNat = k := by decide
  exact hall n h

theorem digitChar_hex {d : Nat} (h : d < 16) : Nat.digitChar d ≠ quote ∧ Nat.digitChar d ≠ newline := by
  have hall : ∀ k < 16, Nat.digitChar k ≠ quote ∧ Nat.digitChar k ≠ newline := by decide
  exact hall d h

/-- The characters of a number. -/
theorem mem_decimal {n : Int} {c : Char} (h : c ∈ decimal n) : c = '-' ∨ c.isDigit = true := by
  have hdigit : ∀ {m : Nat}, c ∈ Nat.toDigits 10 m → c.isDigit = true := fun hm =>
    Nat.isDigit_of_mem_toDigits (by omega) (by omega) hm
  unfold decimal at h
  split_ifs at h
  · rcases List.mem_cons.mp h with rfl | hm
    · exact Or.inl rfl
    · exact Or.inr (hdigit hm)
  · exact Or.inr (hdigit h)

theorem not_mem_decimal {c : Char} (hminus : c ≠ '-') (hdigit : c.isDigit = false) (n : Int) :
    c ∉ decimal n := by
  intro h
  rcases mem_decimal h with hm | hd
  · exact hminus hm
  · rw [hdigit] at hd
    exact absurd hd Bool.false_ne_true

theorem newline_not_mem_decimal (n : Int) : newline ∉ decimal n := not_mem_decimal (by decide) (by decide) n

theorem mem_unicodeEscape {n : Nat} {c : Char} (h : c ∈ unicodeEscape n) : c ≠ quote ∧ c ≠ newline := by
  simp only [unicodeEscape, List.mem_cons, List.not_mem_nil, or_false] at h
  rcases h with rfl | rfl | rfl | rfl | rfl | rfl
  · decide
  · decide
  all_goals exact digitChar_hex (Nat.mod_lt _ (by omega))

/-- Every code point is written as a backslash and more, or as itself. -/
theorem escapeChar_cases (n : Nat) :
    (∃ cs, escapeChar n = backslash :: cs ∧ newline ∉ cs ∧ (n ≠ 0x22 → quote ∉ cs)) ∨
    (escapeChar n = [Char.ofNat n] ∧ 0x20 ≤ n ∧ n ≤ 0x7e ∧ n ≠ 0x22) := by
  have hunicode : ∀ m, newline ∉ unicodeEscape m ∧ quote ∉ unicodeEscape m := fun m =>
    ⟨fun h => (mem_unicodeEscape h).2 rfl, fun h => (mem_unicodeEscape h).1 rfl⟩
  by_cases h₁ : n = 0x22
  · subst h₁; exact Or.inl ⟨[quote], rfl, by decide, fun h => absurd rfl h⟩
  by_cases h₂ : n = 0x5c
  · subst h₂; exact Or.inl ⟨[backslash], rfl, by decide, fun _ => by decide⟩
  by_cases h₃ : n = 0x0a
  · subst h₃; exact Or.inl ⟨['n'], rfl, by decide, fun _ => by decide⟩
  by_cases h₄ : n = 0x0d
  · subst h₄; exact Or.inl ⟨['r'], rfl, by decide, fun _ => by decide⟩
  by_cases h₅ : n = 0x09
  · subst h₅; exact Or.inl ⟨['t'], rfl, by decide, fun _ => by decide⟩
  by_cases h₆ : n = 0x0c
  · subst h₆; exact Or.inl ⟨['f'], rfl, by decide, fun _ => by decide⟩
  by_cases h₇ : n = 0x08
  · subst h₇; exact Or.inl ⟨['b'], rfl, by decide, fun _ => by decide⟩
  rw [escapeChar, if_neg h₁, if_neg h₂, if_neg h₃, if_neg h₄, if_neg h₅, if_neg h₆, if_neg h₇]
  by_cases h₈ : 0x20 ≤ n ∧ n ≤ 0x7e
  · rw [if_pos h₈]
    exact Or.inr ⟨rfl, h₈.1, h₈.2, h₁⟩
  rw [if_neg h₈]
  by_cases h₉ : n < 0x10000
  · rw [if_pos h₉]
    refine Or.inl ⟨(unicodeEscape n).tail, rfl, ?_, fun _ => ?_⟩
    · exact fun h => (hunicode n).1 (List.mem_of_mem_tail h)
    · exact fun h => (hunicode n).2 (List.mem_of_mem_tail h)
  · rw [if_neg h₉]
    generalize 0xd800 ||| (((n - 0x10000) >>> 10) &&& 0x3ff) = hi
    generalize 0xdc00 ||| ((n - 0x10000) &&& 0x3ff) = lo
    refine Or.inl ⟨(unicodeEscape hi).tail ++ unicodeEscape lo, rfl, ?_, fun _ => ?_⟩
    · intro h
      rcases List.mem_append.mp h with h | h
      · exact (hunicode hi).1 (List.mem_of_mem_tail h)
      · exact (hunicode lo).1 h
    · intro h
      rcases List.mem_append.mp h with h | h
      · exact (hunicode hi).2 (List.mem_of_mem_tail h)
      · exact (hunicode lo).2 h

theorem newline_not_mem_escape (s : List Nat) : newline ∉ escape s := by
  intro h
  obtain ⟨n, _, hn⟩ := List.mem_flatMap.mp h
  rcases escapeChar_cases n with ⟨cs, heq, hnl, _⟩ | ⟨heq, hlo, hhi, _⟩
  · rw [heq] at hn
    rcases List.mem_cons.mp hn with hb | hcs
    · exact absurd hb (by decide)
    · exact hnl hcs
  · rw [heq, List.mem_singleton] at hn
    have hcode := congrArg Char.toNat hn
    rw [toNat_ofNat_printable hhi] at hcode
    change 10 = n at hcode
    omega

theorem quote_not_mem_escapeChar {n : Nat} (h : n ≠ 0x22) : quote ∉ escapeChar n := by
  intro hq
  rcases escapeChar_cases n with ⟨cs, heq, _, hquote⟩ | ⟨heq, _, hhi, hne⟩
  · rw [heq] at hq
    rcases List.mem_cons.mp hq with hb | hcs
    · exact absurd hb (by decide)
    · exact hquote h hcs
  · rw [heq, List.mem_singleton] at hq
    have hcode := congrArg Char.toNat hq
    rw [toNat_ofNat_printable hhi] at hcode
    exact hne hcode.symm

/-! ## The shape of a line -/

theorem intercalate_concat (sep : List Char) (ls : List (List Char)) (l : List Char) :
    sep.intercalate (ls ++ [l]) = ls.flatMap (· ++ sep) ++ l := by
  induction ls with
  | nil => simp
  | cons x ls ih =>
    have hsplit : sep.intercalate (x :: (ls ++ [l])) = x ++ sep ++ sep.intercalate (ls ++ [l]) := by
      cases ls <;> simp [List.intercalate_cons_cons]
    rw [List.cons_append, hsplit, ih, List.flatMap_cons]
    simp only [List.append_assoc]

/-- The items before the id, each with the separator after it. -/
def itemsText (fields : List (JsonKey × JsonValue)) : List Char :=
  fields.flatMap (fun f => dumpsItem f ++ [',', ' '])

/-- The items of a request before the id. -/
def Payload.items (p : Payload) : List (JsonKey × JsonValue) :=
  (.op, .str (p.op.name.map Char.toNat)) :: p.args

theorem body_eq (p : Payload) (id : Nat) :
    p.body id =
      openBrace :: (itemsText p.items ++ (quoted JsonKey.id.name ++ ([':', ' '] ++ decimal id ++ [closeBrace]))) := by
  have hfields : p.fields id = p.items ++ [(.id, .int id)] := rfl
  rw [Payload.body, hfields, dumps, List.map_append, List.map_singleton, intercalate_concat, List.flatMap_map]
  simp [itemsText, dumpsItem, JsonValue.dumps, List.append_assoc]

theorem newline_not_mem_dumpsItem (f : JsonKey × JsonValue) : newline ∉ dumpsItem f := by
  have hkey : ∀ k : JsonKey, newline ∉ quoted k.name ++ [':', ' '] := by
    intro k
    cases k <;> decide
  intro h
  rcases List.mem_append.mp h with hk | hv
  · exact hkey f.1 hk
  · cases hf : f.2 with
    | int n =>
      rw [hf] at hv
      exact newline_not_mem_decimal n hv
    | str s =>
      rw [hf, JsonValue.dumps, quoted, List.mem_cons, List.mem_append, List.mem_singleton] at hv
      rcases hv with hq | hs | hq
      · exact absurd hq (by decide)
      · exact newline_not_mem_escape s hs
      · exact absurd hq (by decide)

theorem newline_not_mem_body (p : Payload) (id : Nat) : newline ∉ p.body id := by
  have hitems : newline ∉ itemsText p.items := by
    intro h
    obtain ⟨f, _, hf⟩ := List.mem_flatMap.mp h
    rcases List.mem_append.mp hf with hf | hsep
    · exact newline_not_mem_dumpsItem f hf
    · exact absurd hsep (by decide)
  have hdigits : newline ∉ decimal id := newline_not_mem_decimal id
  rw [body_eq]
  simp only [List.mem_cons, List.mem_append, List.not_mem_nil, or_false, not_or]
  exact ⟨by decide, hitems, by decide, ⟨⟨by decide, by decide⟩, hdigits⟩, by decide⟩

/-- The operation comes first, so that its key is found before any text. -/
theorem jsonGetStr_body (p : Payload) (id : Nat) : jsonGetStr (p.body id) .op 32 = p.op.name := by
  obtain ⟨op, args⟩ := p
  rw [body_eq]
  cases op <;> rfl

/-! ## The id -/

/-- The key `id` as the server looks for it. -/
def idKey : List Char := quoted JsonKey.id.name

/-- A text that ends as the key `id` does, if the quotes around it count: the text `id` itself, or one
that ends in a quote and `id`. -/
def masksId (s : List Nat) : Prop := s = [0x69, 0x64] ∨ [0x22, 0x69, 0x64] <:+ s

instance (s : List Nat) : Decidable (masksId s) :=
  inferInstanceAs (Decidable (s = [0x69, 0x64] ∨ [0x22, 0x69, 0x64] <:+ s))

/-- A code point other than `k` is not written with the character `k` first. -/
theorem isPrefixOf_escapeChar {k n : Nat} (hk : k ≤ 0x7e) (hback : k ≠ 0x5c) (hne : n ≠ k)
    (u rest : List Char) : (Char.ofNat k :: u).isPrefixOf (escapeChar n ++ rest) = false := by
  rcases escapeChar_cases n with ⟨cs, heq, _, _⟩ | ⟨heq, _, hhi, _⟩
  · rw [heq, List.cons_append, List.isPrefixOf_cons_cons, Bool.and_eq_false_iff]
    refine Or.inl (beq_eq_false_iff_ne.mpr ?_)
    intro h
    have hcode := congrArg Char.toNat h
    rw [toNat_ofNat_printable hk] at hcode
    exact hback hcode
  · rw [heq, List.singleton_append, List.isPrefixOf_cons_cons, Bool.and_eq_false_iff]
    refine Or.inl (beq_eq_false_iff_ne.mpr ?_)
    intro h
    have hcode := congrArg Char.toNat h
    rw [toNat_ofNat_printable hk, toNat_ofNat_printable hhi] at hcode
    exact hne hcode.symm

/-- `i` and `d` come first, and then the closing quote: the text is `id`. -/
theorem isPrefixOf_escape (s : List Nat) (t : List Char) :
    ['i', 'd', quote].isPrefixOf (escape s ++ quote :: t) = decide (s = [0x69, 0x64]) := by
  match s with
  | [] => rfl
  | n :: s =>
    rw [escape, List.flatMap_cons, List.append_assoc]
    by_cases hn : n = 0x69
    · subst hn
      change ['d', quote].isPrefixOf (escape s ++ quote :: t) = _
      match s with
      | [] => rfl
      | m :: s =>
        rw [escape, List.flatMap_cons, List.append_assoc]
        by_cases hm : m = 0x64
        · subst hm
          change [quote].isPrefixOf (escape s ++ quote :: t) = _
          match s with
          | [] => rfl
          | l :: s =>
            -- a quote in the text is written with a backslash before it
            have hquote : [quote].isPrefixOf (escape (l :: s) ++ quote :: t) = false := by
              rw [escape, List.flatMap_cons, List.append_assoc]
              by_cases hl : l = 0x22
              · subst hl; rfl
              · exact isPrefixOf_escapeChar (by omega) (by omega) hl [] _
            refine hquote.trans ?_
            simp
        · refine (isPrefixOf_escapeChar (by omega) (by omega) hm [quote] _).trans ?_
          simp [hm]
    · refine (isPrefixOf_escapeChar (by omega) (by omega) hn ['d', quote] _).trans ?_
      simp [hn]

/-- The search at a quote before a text: the text may be `id`. -/
theorem after_quote_escape (s : List Nat) (t : List Char) :
    after idKey (quote :: (escape s ++ quote :: ',' :: t)) =
      if s = [0x69, 0x64] then some (',' :: t) else after idKey (escape s ++ quote :: ',' :: t) := by
  change after (quote :: ['i', 'd', quote]) _ = _
  rw [after_cons_self, isPrefixOf_escape]
  by_cases hs : s = [0x69, 0x64]
  · subst hs; rfl
  · rw [decide_eq_false hs, if_neg Bool.false_ne_true, if_neg hs]
    rfl

/-- The search through a text and the quote that closes it. -/
theorem after_escape (s : List Nat) (t : List Char) :
    after idKey (escape s ++ quote :: ',' :: t) =
      if [0x22, 0x69, 0x64] <:+ s then some (',' :: t) else after idKey t := by
  induction s with
  | nil => rfl
  | cons n s ih =>
    have hsuffix : [0x22, 0x69, 0x64] <:+ (n :: s) ↔
        (n = 0x22 ∧ s = [0x69, 0x64]) ∨ [0x22, 0x69, 0x64] <:+ s := by
      rw [List.suffix_cons_iff, List.cons.injEq, eq_comm, @eq_comm _ s]
    rw [escape, List.flatMap_cons, List.append_assoc]
    change after idKey (escapeChar n ++ (escape s ++ quote :: ',' :: t)) = _
    by_cases hn : n = 0x22
    · subst hn
      have hback : after idKey (escapeChar 0x22 ++ (escape s ++ quote :: ',' :: t)) =
          after idKey (quote :: (escape s ++ quote :: ',' :: t)) :=
        after_cons_of_ne (by decide) _
      rw [hback, after_quote_escape, ih]
      by_cases hs : s = [0x69, 0x64]
      · rw [if_pos hs, if_pos (hsuffix.mpr (Or.inl ⟨rfl, hs⟩))]
      · simp only [hsuffix, hs, and_false, false_or, if_false]
    · have hskip : Skips idKey (escapeChar n) := skips_of_not_mem (quote_not_mem_escapeChar hn)
      rw [hskip, ih]
      simp only [hsuffix, hn, false_and, false_or]

theorem after_quoted (s : List Nat) (t : List Char) :
    after idKey (quoted (escape s) ++ ',' :: t) =
      if masksId s then some (',' :: t) else after idKey t := by
  have hshape : quoted (escape s) ++ ',' :: t = quote :: (escape s ++ quote :: ',' :: t) := by
    simp [quoted]
  rw [hshape, after_quote_escape, after_escape]
  by_cases hs : s = [0x69, 0x64]
  · have hmasks : masksId s := Or.inl hs
    rw [if_pos hs, if_pos hmasks]
  · simp only [masksId, hs, false_or, if_false]

/-- A value that hides the id. -/
def JsonValue.masksId : JsonValue → Prop
  | .int _ => False
  | .str s => RiscvDbg.masksId s

instance (v : JsonValue) : Decidable v.masksId := by
  cases v with
  | int n => exact instDecidableFalse
  | str s => exact inferInstanceAs (Decidable (RiscvDbg.masksId s))

theorem after_dumpsItem {f : JsonKey × JsonValue} (hkey : f.1 ≠ .id) (t : List Char) :
    after idKey (dumpsItem f ++ ',' :: t) = if f.2.masksId then some (',' :: t) else after idKey t := by
  have hskip : ∀ u, after idKey (quoted f.1.name ++ [':', ' '] ++ u) = after idKey u := by
    intro u
    cases hk : f.1 with
    | id => exact absurd hk hkey
    | _ => rfl
  rw [dumpsItem, List.append_assoc, hskip]
  cases hv : f.2 with
  | int n =>
    have hnum : Skips idKey (decimal n ++ [',']) := by
      apply skips_of_not_mem
      rw [List.mem_append, List.mem_singleton, not_or]
      exact ⟨not_mem_decimal (by decide) (by decide) n, by decide⟩
    have hsplit : decimal n ++ ',' :: t = (decimal n ++ [',']) ++ t := by simp
    rw [JsonValue.dumps, hsplit, hnum, if_neg (show ¬(JsonValue.int n).masksId from fun h => h)]
  | str s => exact after_quoted s t

/-- The search through the items before the id: it stops at the first text that hides the id. -/
theorem after_itemsText {fields : List (JsonKey × JsonValue)} (hkeys : ∀ f ∈ fields, f.1 ≠ .id)
    (t : List Char) :
    if ∃ f ∈ fields, f.2.masksId then ∃ u, after idKey (itemsText fields ++ t) = some (',' :: u)
    else after idKey (itemsText fields ++ t) = after idKey t := by
  induction fields with
  | nil => simp [itemsText]
  | cons f fields ih =>
    have hrest := ih (fun g hg => hkeys g (List.mem_cons_of_mem f hg))
    have hsplit : itemsText (f :: fields) ++ t = dumpsItem f ++ ',' :: (' ' :: (itemsText fields ++ t)) := by
      simp [itemsText]
    have hblank : after idKey (' ' :: (itemsText fields ++ t)) = after idKey (itemsText fields ++ t) :=
      after_cons_of_ne (by decide) _
    rw [hsplit, after_dumpsItem (hkeys f List.mem_cons_self), hblank]
    by_cases hf : f.2.masksId
    · rw [if_pos ⟨f, List.mem_cons_self, hf⟩, if_pos hf]
      exact ⟨_, rfl⟩
    · rw [if_neg hf]
      have hiff : (∃ g ∈ f :: fields, g.2.masksId) ↔ ∃ g ∈ fields, g.2.masksId := by
        simp [hf]
      simp only [hiff]
      exact hrest

/-- `strtoll` of a number that something else follows. -/
theorem strtoll_decimal (n : Nat) {c : Char} (hc : c.isDigit = false) (t : List Char) :
    strtoll (decimal n ++ c :: t) = clampLongLong n := by
  have hdec : decimal n = Nat.toDigits 10 n := by
    rw [decimal, if_neg (by omega), Int.natAbs_natCast]
  have hdigits : ∀ d ∈ Nat.toDigits 10 n, d.isDigit = true := fun d hd =>
    Nat.isDigit_of_mem_toDigits (by omega) (by omega) hd
  have htake : (Nat.toDigits 10 n ++ c :: t).takeWhile Char.isDigit = Nat.toDigits 10 n := by
    rw [List.takeWhile_append_of_pos hdigits, List.takeWhile_cons_of_neg (by rw [hc]; exact Bool.false_ne_true),
      List.append_nil]
  have hvalue : strtollDigits false (Nat.toDigits 10 n ++ c :: t) = clampLongLong n := by
    rw [strtollDigits, htake, Nat.ofDigitChars_ten_toDigits, if_neg Bool.false_ne_true]
  rw [hdec]
  cases hl : Nat.toDigits 10 n with
  | nil => exact absurd hl Nat.toDigits_ne_nil
  | cons d ds =>
    rw [hl] at hvalue hdigits
    have hd := hdigits d List.mem_cons_self
    have hspace : isSpace d = false := by
      cases h : isSpace d with
      | false => rfl
      | true =>
        simp only [isSpace, Bool.or_eq_true, beq_iff_eq] at h
        rcases h with ((((rfl | rfl) | rfl) | rfl) | rfl) | rfl <;> exact absurd hd (by decide)
    rw [← hvalue, strtoll, List.cons_append,
      List.dropWhile_cons_of_neg (by rw [hspace]; exact Bool.false_ne_true)]
    split
    · next h => rw [(List.cons.inj h).1] at hd; exact absurd hd (by decide)
    · next h => rw [(List.cons.inj h).1] at hd; exact absurd hd (by decide)
    · rfl

/-- A request one of whose texts hides the id. -/
def Payload.masksId (p : Payload) : Prop := ∃ f ∈ p.args, f.2.masksId

instance (p : Payload) : Decidable p.masksId := inferInstanceAs (Decidable (∃ f ∈ p.args, _))

/-- No name of an operation hides the id. -/
theorem items_masksId (p : Payload) : (∃ f ∈ p.items, f.2.masksId) ↔ p.masksId := by
  have hop : ¬RiscvDbg.masksId (p.op.name.map Char.toNat) := by
    cases p.op <;> decide
  constructor
  · rintro ⟨f, hf, hm⟩
    rcases List.mem_cons.mp hf with rfl | hargs
    · exact absurd hm hop
    · exact ⟨f, hargs, hm⟩
  · rintro ⟨f, hf, hm⟩
    exact ⟨f, List.mem_cons_of_mem _ hf, hm⟩

/-- The id the server finds: the client's, as far as it fits into a `long long`, or 0 if a text before
it hides it. -/
theorem jsonGetInt_body {p : Payload} (hkeys : ∀ f ∈ p.args, f.1 ≠ .id) (id : Nat) :
    jsonGetInt (p.body id) .id (-1) = if p.masksId then 0 else clampLongLong id := by
  have hitems : ∀ f ∈ p.items, f.1 ≠ .id := by
    intro f hf
    rcases List.mem_cons.mp hf with rfl | hargs
    · exact JsonKey.noConfusion
    · exact hkeys f hargs
  let tail := quoted JsonKey.id.name ++ ([':', ' '] ++ decimal id ++ [closeBrace])
  have hsearch := after_itemsText hitems tail
  have hbrace : strstrKey (p.body id) .id = after idKey (itemsText p.items ++ tail) := by
    rw [body_eq]
    exact after_cons_of_ne (by decide) _
  by_cases hm : p.masksId
  · rw [if_pos ((items_masksId p).mpr hm)] at hsearch
    obtain ⟨u, hu⟩ := hsearch
    rw [if_pos hm, jsonGetInt, hbrace, hu]
    rfl
  · rw [if_neg (fun h => hm ((items_masksId p).mp h))] at hsearch
    have hkey : after idKey tail = some ([':', ' '] ++ decimal id ++ [closeBrace]) :=
      after_pattern (List.cons_ne_nil _ _) _
    have hskip : skipColon ([':', ' '] ++ decimal id ++ [closeBrace]) = decimal id ++ [closeBrace] := by
      have hhead : ∀ d ∈ decimal (id : Int), (d == ':' || d == ' ') = false := by
        intro d hd
        rw [Bool.or_eq_false_iff, beq_eq_false_iff_ne, beq_eq_false_iff_ne]
        exact ⟨fun h => not_mem_decimal (by decide) (by decide) id (h ▸ hd),
          fun h => not_mem_decimal (by decide) (by decide) id (h ▸ hd)⟩
      cases hl : decimal (id : Int) with
      | nil => rfl
      | cons d ds =>
        have hd := hhead d (by rw [hl]; exact List.mem_cons_self)
        change (d :: ds ++ [closeBrace]).dropWhile (fun c => c == ':' || c == ' ') = _
        rw [List.cons_append, List.dropWhile_cons_of_neg (by rw [hd]; exact Bool.false_ne_true)]
    rw [if_neg hm, jsonGetInt, hbrace, hsearch, hkey]
    change strtoll (skipColon _) = _
    rw [hskip]
    exact strtoll_decimal id (by decide) []

end RiscvDbg
