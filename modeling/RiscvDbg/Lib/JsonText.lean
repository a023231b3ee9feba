import Mathlib.Data.List.Nodup
import RiscvDbg.Lib.Text

/-!
# JSON as it is written

JSON text with its layout, for programs that look for quoted keys in it instead of parsing it.

* `Space` — white space; `Literal` — a string as it is written between its quotes, with escapes; `decode` is
  the text it stands for.
* `Hides` — the literals in which a search for the quoted text `k` ends: the literal is `k`, or it ends in a quote
  and `k`.
* `after_literal` — **the search for a quoted text, at a literal**: it ends there or goes on behind it.
* `Member` — an item of an object, with any values that are `Written`; `after_members_key` — the search for a key
  among the items of an object.
* `readDigits` — the value of digits in any base.
* `Scalar` — the values that are not nested.
-/

set_option autoImplicit false

namespace JsonText

open Text

def quote : Char := Char.ofNat 0x22
def backslash : Char := Char.ofNat 0x5c
def tab : Char := Char.ofNat 0x09
def newline : Char := Char.ofNat 0x0a
def carriageReturn : Char := Char.ofNat 0x0d
def openBrace : Char := Char.ofNat 0x7b
def closeBrace : Char := Char.ofNat 0x7d

/-- A property of the characters of a text is decided on the text, not on all characters that there are. -/
instance (priority := high) decidableForallMemText (p : Char → Prop) [DecidablePred p] (s : List Char) : Decidable (∀ c ∈ s, p c) :=
  List.decidableBAll p s

/-- A text between quotes. -/
def quoted (s : List Char) : List Char := quote :: (s ++ [quote])

/-! ## White space -/

def isSpace (c : Char) : Bool := c == ' ' || c == tab || c == newline || c == carriageReturn

/-- White space between tokens. -/
def Space : Type := { s : List Char // ∀ c ∈ s, isSpace c = true }

/-- No white space. -/
def Space.none : Space := ⟨[], by simp⟩

/-- What can stand after a token: white space or punctuation. -/
def isPunct (c : Char) : Bool := isSpace c || c == ':' || c == ',' || c == ']' || c == closeBrace

/-- The text goes on with white space or punctuation. -/
def Stops (t : List Char) : Prop := ∃ c u, t = c :: u ∧ isPunct c = true

theorem stops_cons {c : Char} (h : isPunct c = true) (t : List Char) : Stops (c :: t) := ⟨c, t, rfl, h⟩

theorem Stops.space {t : List Char} (h : Stops t) (s : Space) : Stops (s.1 ++ t) := by
  obtain ⟨s, hs⟩ := s
  cases s with
  | nil => exact h
  | cons c s =>
    refine stops_cons ?_ _
    simp [isPunct, hs c List.mem_cons_self]

theorem quote_not_mem_space (s : Space) : quote ∉ s.1 := by
  intro h
  have hspace := s.2 quote h
  revert hspace
  decide

/-! ## String literals -/

def isHexDigit (c : Char) : Bool :=
  ('0' ≤ c && c ≤ '9') || ('a' ≤ c && c ≤ 'f') || ('A' ≤ c && c ≤ 'F')

/-- The value of a digit, up to base sixteen. -/
def digitValue (c : Char) : Nat :=
  if '0' ≤ c ∧ c ≤ '9' then c.toNat - 0x30
  else if 'a' ≤ c ∧ c ≤ 'f' then c.toNat - 0x61 + 10
  else c.toNat - 0x41 + 10

/-- A piece of a literal: a character, an escape, or an escape of four digits. -/
inductive Piece where
  | plain (c : Char) (h : c ≠ quote ∧ c ≠ backslash ∧ 0x20 ≤ c.toNat)
  | escape (c : Char) (h : c ∈ [quote, backslash, '/', 'b', 'f', 'n', 'r', 't'])
  | unicode (a b c d : Char) (h : isHexDigit a && isHexDigit b && isHexDigit c && isHexDigit d)

/-- A literal, without its quotes. -/
abbrev Literal := List Piece

def Piece.text : Piece → List Char
  | .plain c _ => [c]
  | .escape c _ => [backslash, c]
  | .unicode a b c d _ => [backslash, 'u', a, b, c, d]

def text (l : Literal) : List Char := l.flatMap Piece.text

@[simp] theorem text_nil : text [] = [] := rfl

@[simp] theorem text_cons (p : Piece) (l : Literal) : text (p :: l) = p.text ++ text l := List.flatMap_cons

/-- The code of an escape. -/
def escapeCode (c : Char) : Nat :=
  if c = 'b' then 0x08 else if c = 'f' then 0x0c else if c = 'n' then 0x0a else if c = 'r' then 0x0d
  else if c = 't' then 0x09 else c.toNat

/-- The code of an escape of four digits. -/
def unicodeCode (a b c d : Char) : Nat :=
  ((digitValue a * 16 + digitValue b) * 16 + digitValue c) * 16 + digitValue d

def Piece.code : Piece → Nat
  | .plain c _ => c.toNat
  | .escape c _ => escapeCode c
  | .unicode a b c d _ => unicodeCode a b c d

def Piece.isUnicode : Piece → Bool
  | .unicode _ _ _ _ _ => true
  | _ => false

/-- The code points a literal stands for: two escapes that are a surrogate pair stand for one. -/
def decode : Literal → List Nat
  | [] => []
  | [p] => [p.code]
  | p :: q :: l =>
    if p.isUnicode && q.isUnicode && (0xd800 ≤ p.code && p.code ≤ 0xdbff) && (0xdc00 ≤ q.code && q.code ≤ 0xdfff) then
      (0x10000 + (p.code - 0xd800) * 0x400 + (q.code - 0xdc00)) :: decode l
    else p.code :: decode (q :: l)

theorem hexDigit_ne_quote {c : Char} (h : isHexDigit c = true) : c ≠ quote := by
  rintro rfl
  revert h
  decide

/-- A literal without a backslash stands for itself. -/
theorem decode_of_backslash_not_mem : ∀ l : Literal, backslash ∉ text l → decode l = (text l).map Char.toNat
  | [], _ => rfl
  | [p], h => by
    cases p with
    | plain c _ => rfl
    | escape c _ => exact absurd (by simp [Piece.text]) h
    | unicode a b c d _ => exact absurd (by simp [Piece.text]) h
  | p :: q :: l, h => by
    cases p with
    | plain c _ =>
      have hrest : backslash ∉ text (q :: l) := by
        intro hmem
        exact h (List.mem_append_right _ hmem)
      rw [decode, if_neg (by simp [Piece.isUnicode]), decode_of_backslash_not_mem (q :: l) hrest]
      rfl
    | escape c _ => exact absurd (by simp [Piece.text]) h
    | unicode a b c d _ => exact absurd (by simp [Piece.text]) h

/-! ## Looking for a quoted text -/

/-- A text that can be a key: no quote, no backslash, nothing that can stand after a token. -/
def IsKey (k : List Char) : Prop := k ≠ [] ∧ ∀ c ∈ k, c ≠ quote ∧ c ≠ backslash ∧ isPunct c = false

instance (k : List Char) : Decidable (IsKey k) :=
  inferInstanceAs (Decidable (k ≠ [] ∧ ∀ c ∈ k, c ≠ quote ∧ c ≠ backslash ∧ isPunct c = false))

/-- The search for the quoted text `k` ends in this literal. -/
def Hides (k : List Char) (l : Literal) : Prop := text l = k ∨ quote :: k <:+ text l

instance (k : List Char) (l : Literal) : Decidable (Hides k l) :=
  inferInstanceAs (Decidable (text l = k ∨ quote :: k <:+ text l))

variable {k : List Char}

/-- `k` and a quote come first: the literal is `k`. -/
theorem isPrefixOf_literal : ∀ (k : List Char), (∀ c ∈ k, c ≠ quote ∧ c ≠ backslash) → ∀ (l : Literal) (t : List Char),
    (k ++ [quote]).isPrefixOf (text l ++ quote :: t) = decide (text l = k) := by
  intro k
  induction k with
  | nil =>
    intro _ l t
    cases l with
    | nil => simp [List.isPrefixOf]
    | cons p l =>
      cases p with
      | plain c h => simp [Piece.text, List.isPrefixOf, Ne.symm h.1]
      | escape c h => simp +decide [Piece.text, List.isPrefixOf]
      | unicode a b c d h => simp +decide [Piece.text, List.isPrefixOf]
  | cons c k ih =>
    intro hk l t
    obtain ⟨hc, hk⟩ := List.forall_mem_cons.mp hk
    cases l with
    | nil => simp [List.isPrefixOf, hc.1]
    | cons p l =>
      cases p with
      | plain c' h =>
        by_cases hcc : c = c'
        · subst hcc
          have hrest := ih hk l t
          simp only [text_cons, Piece.text, List.cons_append, List.nil_append, List.isPrefixOf_cons_cons,
            beq_self_eq_true, Bool.true_and, List.cons.injEq, true_and]
          exact hrest
        · simp [Piece.text, List.isPrefixOf, hcc, Ne.symm hcc]
      | escape c' h => simp [Piece.text, List.isPrefixOf, hc.2, Ne.symm hc.2]
      | unicode a b c' d h => simp [Piece.text, List.isPrefixOf, hc.2, Ne.symm hc.2]

/-- No key starts where a text stops. -/
theorem isPrefixOf_of_stops (hk : IsKey k) {t : List Char} (ht : Stops t) (u : List Char) :
    (k ++ u).isPrefixOf t = false := by
  obtain ⟨c, v, rfl, hc⟩ := ht
  obtain ⟨hne, hk⟩ := hk
  cases k with
  | nil => exact absurd rfl hne
  | cons c' k =>
    have hne : c' ≠ c := by
      rintro rfl
      rw [(hk c' List.mem_cons_self).2.2] at hc
      cases hc
    simp [List.isPrefixOf, hne]

/-- The search through the rest of a literal and the quote that closes it. -/
theorem after_text (hk : IsKey k) {t : List Char} (ht : Stops t) :
    ∀ l : Literal, after (quoted k) (text l ++ quote :: t) =
      if quote :: k <:+ text l then some t else after (quoted k) t := by
  have hchars : ∀ c ∈ k, c ≠ quote ∧ c ≠ backslash := fun c hc => ⟨(hk.2 c hc).1, (hk.2 c hc).2.1⟩
  intro l
  induction l with
  | nil =>
    rw [text_nil, List.nil_append, quoted, after_cons_self, isPrefixOf_of_stops hk ht,
      if_neg Bool.false_ne_true, if_neg (by simp)]
  | cons p l ih =>
    cases p with
    | plain c h =>
      have hsuffix : quote :: k <:+ text (.plain c h :: l) ↔ quote :: k <:+ text l := by
        change quote :: k <:+ c :: text l ↔ _
        simp [List.suffix_cons_iff, Ne.symm h.1]
      simp only [hsuffix, ← ih]
      exact after_cons_of_ne h.1 _
    | unicode a b c d h =>
      have hd : ∀ x ∈ (Piece.unicode a b c d h).text, x ≠ quote := by
        simp only [Bool.and_eq_true] at h
        simp only [Piece.text, List.forall_mem_cons]
        exact ⟨by decide, by decide, hexDigit_ne_quote h.1.1.1, hexDigit_ne_quote h.1.1.2, hexDigit_ne_quote h.1.2,
          hexDigit_ne_quote h.2, fun x hx => by cases hx⟩
      have hskip : Skips (quoted k) (Piece.unicode a b c d h).text :=
        skips_of_not_mem (fun hmem => hd quote hmem rfl)
      have hsuffix : quote :: k <:+ text (.unicode a b c d h :: l) ↔ quote :: k <:+ text l := by
        simp only [Piece.text, List.forall_mem_cons] at hd
        obtain ⟨h₁, h₂, h₃, h₄, h₅, h₆, -⟩ := hd
        change quote :: k <:+ backslash :: 'u' :: a :: b :: c :: d :: text l ↔ _
        simp [List.suffix_cons_iff, Ne.symm h₁, Ne.symm h₂, Ne.symm h₃, Ne.symm h₄, Ne.symm h₅, Ne.symm h₆]
      rw [text_cons, List.append_assoc, hskip, ih]
      simp only [← text_cons, hsuffix]
    | escape c h =>
      have hback : backslash ≠ quote := by decide
      have hstep : after (quoted k) (text (.escape c h :: l) ++ quote :: t) =
          after (quoted k) (c :: (text l ++ quote :: t)) := after_cons_of_ne hback _
      have hsuffix : quote :: k <:+ text (.escape c h :: l) ↔
          (c = quote ∧ text l = k) ∨ quote :: k <:+ text l := by
        change quote :: k <:+ backslash :: c :: text l ↔ _
        simp only [List.suffix_cons_iff, List.cons.injEq, Ne.symm hback, false_and, false_or, @eq_comm _ quote c,
          @eq_comm _ k (text l)]
      rw [hstep]
      by_cases hc : c = quote
      · subst hc
        rw [quoted, after_cons_self, isPrefixOf_literal k hchars]
        by_cases hl : text l = k
        · rw [decide_eq_true hl, if_pos rfl, if_pos (hsuffix.mpr (.inl ⟨rfl, hl⟩)), hl]
          simp
        · rw [decide_eq_false hl, if_neg Bool.false_ne_true]
          simp only [hsuffix, hl, and_false, false_or]
          exact ih
      · rw [quoted, after_cons_of_ne hc]
        simp only [hsuffix, hc, false_and, false_or]
        exact ih

/-- **The search at a literal** ends there, with the rest of the text, or goes on with it. -/
theorem after_literal (hk : IsKey k) {t : List Char} (ht : Stops t) (l : Literal) :
    after (quoted k) (quoted (text l) ++ t) = if Hides k l then some t else after (quoted k) t := by
  have hchars : ∀ c ∈ k, c ≠ quote ∧ c ≠ backslash := fun c hc => ⟨(hk.2 c hc).1, (hk.2 c hc).2.1⟩
  have hshape : quoted (text l) ++ t = quote :: (text l ++ quote :: t) := by
    simp [quoted]
  rw [hshape]
  by_cases hl : text l = k
  · rw [if_pos (.inl hl), quoted, after_cons_self, isPrefixOf_literal k hchars, decide_eq_true hl, if_pos rfl, hl]
    simp
  · have hsearch := after_text hk ht l
    rw [quoted] at hsearch ⊢
    rw [after_cons_self, isPrefixOf_literal k hchars, decide_eq_false hl, if_neg Bool.false_ne_true, hsearch]
    simp [Hides, hl]

/-- Text in which no key can start is passed over. -/
theorem after_of_quote_not_mem {s : List Char} (h : quote ∉ s) (t : List Char) :
    after (quoted k) (s ++ t) = after (quoted k) t := skips_of_not_mem h t

/-! ## Objects -/

/-- Values that are written in a text: where a search for a quoted key ends in one. -/
class Written (τ : Type) where
  text : τ → List Char
  hides : List Char → τ → Prop
  after_text : ∀ {k : List Char}, IsKey k → ∀ {t : List Char}, Stops t → ∀ v, ¬ hides k v →
    after (quoted k) (text v ++ t) = after (quoted k) t

/-- One item of an object, with the white space around its parts. -/
structure Member (τ : Type) where
  before : Space
  key : Literal
  afterKey : Space
  afterColon : Space
  value : τ
  afterValue : Space

variable {τ : Type} [Written τ]

namespace Member

/-- What is written behind the key. -/
def rest (m : Member τ) : List Char :=
  m.afterKey.1 ++ ':' :: (m.afterColon.1 ++ (Written.text m.value ++ m.afterValue.1))

def text (m : Member τ) : List Char := m.before.1 ++ (quoted (JsonText.text m.key) ++ m.rest)

/-- The search for the quoted `k` ends in this item. -/
def Hides (k : List Char) (m : Member τ) : Prop := JsonText.Hides k m.key ∨ Written.hides k m.value

instance (k : List Char) [∀ v : τ, Decidable (Written.hides k v)] (m : Member τ) : Decidable (m.Hides k) :=
  inferInstanceAs (Decidable (JsonText.Hides k m.key ∨ Written.hides k m.value))

theorem stops_rest (m : Member τ) (t : List Char) : Stops (m.rest ++ t) := by
  rw [rest, List.append_assoc]
  exact Stops.space (stops_cons (by decide) _) m.afterKey

/-- The search ends at the key. -/
theorem after_text_key (hk : IsKey k) {m : Member τ} (hm : JsonText.text m.key = k) (t : List Char) :
    after (quoted k) (m.text ++ t) = some (m.rest ++ t) := by
  rw [text, List.append_assoc, List.append_assoc, after_of_quote_not_mem (quote_not_mem_space _),
    after_literal hk (m.stops_rest t), if_pos (.inl hm)]

/-- The search goes on behind the item. -/
theorem after_text_of_not_hides (hk : IsKey k) {t : List Char} (ht : Stops t) {m : Member τ} (hm : ¬ m.Hides k) :
    after (quoted k) (m.text ++ t) = after (quoted k) t := by
  obtain ⟨hkey, hvalue⟩ := not_or.mp hm
  have hcolon : quote ∉ m.afterKey.1 ++ ':' :: m.afterColon.1 := by
    simp only [List.mem_append, List.mem_cons, not_or]
    exact ⟨quote_not_mem_space _, by decide, quote_not_mem_space _⟩
  have hshape : m.rest ++ t =
      (m.afterKey.1 ++ ':' :: m.afterColon.1) ++ (Written.text m.value ++ (m.afterValue.1 ++ t)) := by
    simp [rest]
  rw [text, List.append_assoc, List.append_assoc, after_of_quote_not_mem (quote_not_mem_space _),
    after_literal hk (m.stops_rest t), if_neg hkey, hshape, after_of_quote_not_mem hcolon,
    Written.after_text hk (ht.space _) _ hvalue, after_of_quote_not_mem (quote_not_mem_space _)]

end Member

/-- The items of an object, separated by commas. -/
def membersText (ms : List (Member τ)) : List Char := List.intercalate [','] (ms.map Member.text)

/-- What stands behind an item: the other items, and the text behind them. -/
def follow (ms : List (Member τ)) (t : List Char) : List Char :=
  match ms with
  | [] => t
  | m :: ms => ',' :: (membersText (m :: ms) ++ t)

@[simp] theorem membersText_nil : membersText ([] : List (Member τ)) = [] := rfl

theorem membersText_cons (m : Member τ) (ms : List (Member τ)) (t : List Char) :
    membersText (m :: ms) ++ t = m.text ++ follow ms t := by
  cases ms with
  | nil => simp [membersText, follow]
  | cons n ms => simp [membersText, follow, List.intercalate_cons_cons]

theorem stops_follow (ms : List (Member τ)) {t : List Char} (ht : Stops t) : Stops (follow ms t) := by
  cases ms with
  | nil => exact ht
  | cons m ms => exact stops_cons (by decide) _

/-- A comma or the closing brace stands behind an item. -/
theorem follow_eq_cons (ms : List (Member τ)) (t : List Char) :
    ∃ c u, follow ms (closeBrace :: t) = c :: u ∧ (c = ',' ∨ c = closeBrace) := by
  cases ms with
  | nil => exact ⟨_, _, rfl, .inr rfl⟩
  | cons m ms => exact ⟨_, _, rfl, .inl rfl⟩

/-- The next colon behind a key is the one of its item. -/
theorem after_colon (m : Member τ) (t : List Char) :
    after [':'] (m.rest ++ t) = some (m.afterColon.1 ++ (Written.text m.value ++ (m.afterValue.1 ++ t))) := by
  have hspace : Skips [':'] m.afterKey.1 := by
    refine skips_of_not_mem ?_
    intro hmem
    have hspace := m.afterKey.2 _ hmem
    revert hspace
    decide
  have hrest : m.rest ++ t =
      m.afterKey.1 ++ ([':'] ++ (m.afterColon.1 ++ (Written.text m.value ++ (m.afterValue.1 ++ t)))) := by
    simp [Member.rest]
  rw [hrest, hspace, after_pattern (by simp)]

/-- The search goes on behind items in which it does not end. -/
theorem after_members (hk : IsKey k) {t : List Char} (ht : Stops t) :
    ∀ ms : List (Member τ), (∀ m ∈ ms, ¬ m.Hides k) → after (quoted k) (membersText ms ++ t) = after (quoted k) t := by
  intro ms
  induction ms with
  | nil => intro _; rfl
  | cons m ms ih =>
    intro h
    obtain ⟨hm, hms⟩ := List.forall_mem_cons.mp h
    rw [membersText_cons, Member.after_text_of_not_hides hk (stops_follow ms ht) hm]
    cases ms with
    | nil => rfl
    | cons n ms =>
      have hcomma : after (quoted k) (',' :: (membersText (n :: ms) ++ t)) =
          after (quoted k) (membersText (n :: ms) ++ t) := after_cons_of_ne (by decide) _
      exact hcomma.trans (ih hms)

/-- **The search for a key among items ends at the item with that key**, unless it ends in one before it. -/
theorem after_members_key (hk : IsKey k) {t : List Char} (ht : Stops t) {m : Member τ} (hm : text m.key = k)
    (post : List (Member τ)) :
    ∀ pre : List (Member τ), (∀ m' ∈ pre, ¬ m'.Hides k) →
      after (quoted k) (membersText (pre ++ m :: post) ++ t) = some (m.rest ++ follow post t) := by
  intro pre
  induction pre with
  | nil =>
    intro _
    rw [List.nil_append, membersText_cons, Member.after_text_key hk hm]
  | cons n pre ih =>
    intro h
    obtain ⟨hn, hpre⟩ := List.forall_mem_cons.mp h
    have hcomma : follow (pre ++ m :: post) t = ',' :: (membersText (pre ++ m :: post) ++ t) := by
      cases pre with
      | nil => rfl
      | cons n' pre => rfl
    rw [List.cons_append, membersText_cons,
      Member.after_text_of_not_hides hk (stops_follow _ ht) hn, hcomma]
    exact (after_cons_of_ne (by decide) _).trans (ih hpre)

/-- The text of an object. -/
def objectText (inner : Space) (ms : List (Member τ)) : List Char :=
  openBrace :: (inner.1 ++ (membersText ms ++ [closeBrace]))

/-- The search goes on behind an object in whose items it does not end. -/
theorem after_objectText (hk : IsKey k) {ms : List (Member τ)} (hms : ∀ m ∈ ms, ¬ m.Hides k) (inner : Space)
    (t : List Char) : after (quoted k) (objectText inner ms ++ t) = after (quoted k) t := by
  have hopen : quote ∉ openBrace :: inner.1 := by
    rw [List.mem_cons, not_or]
    exact ⟨by decide, quote_not_mem_space _⟩
  have hshape : objectText inner ms ++ t = (openBrace :: inner.1) ++ (membersText ms ++ closeBrace :: t) := by
    simp [objectText]
  rw [hshape, after_of_quote_not_mem hopen, after_members hk (stops_cons (by decide) _) ms hms]
  exact after_cons_of_ne (by decide) _

/-! ### Arrays of objects -/

/-- One object of an array, with the white space around it. -/
structure Element (τ : Type) where
  before : Space
  inner : Space
  members : List (Member τ)
  after : Space

namespace Element

/-- The object without the white space around it. -/
def object (e : Element τ) : List Char := objectText e.inner e.members

def text (e : Element τ) : List Char := e.before.1 ++ (e.object ++ e.after.1)

def Hides (k : List Char) (e : Element τ) : Prop := ∃ m ∈ e.members, m.Hides k

theorem after_text (hk : IsKey k) {e : Element τ} (he : ¬ e.Hides k) (t : List Char) :
    Text.after (quoted k) (e.text ++ t) = Text.after (quoted k) t := by
  have hms : ∀ m ∈ e.members, ¬ m.Hides k := fun m hm h => he ⟨m, hm, h⟩
  rw [text, List.append_assoc, List.append_assoc, after_of_quote_not_mem (quote_not_mem_space _), object,
    after_objectText hk hms, after_of_quote_not_mem (quote_not_mem_space _)]

end Element

/-- The elements of an array, separated by commas, and what follows them. -/
def elementsText : List (Element τ) → List Char → List Char
  | [], t => t
  | [e], t => e.text ++ t
  | e :: es, t => e.text ++ ',' :: elementsText es t

/-- The text of an array of objects. -/
def arrayText (inner : Space) (es : List (Element τ)) : List Char := '[' :: (inner.1 ++ elementsText es [']'])

theorem elementsText_append : ∀ (es : List (Element τ)) (s t : List Char),
    elementsText es s ++ t = elementsText es (s ++ t)
  | [], s, t => rfl
  | [e], s, t => by simp [elementsText]
  | e :: e' :: es, s, t => by
    have hrest := elementsText_append (e' :: es) s t
    simp [elementsText, ← hrest]

theorem after_elementsText (hk : IsKey k) : ∀ (es : List (Element τ)) (t : List Char), (∀ e ∈ es, ¬ e.Hides k) →
    after (quoted k) (elementsText es t) = after (quoted k) t
  | [], t, _ => rfl
  | [e], t, h => e.after_text hk (h e List.mem_cons_self) t
  | e :: e' :: es, t, h => by
    obtain ⟨he, hes⟩ := List.forall_mem_cons.mp h
    rw [elementsText, e.after_text hk he]
    · exact (after_cons_of_ne (by decide) _).trans (after_elementsText hk (e' :: es) t hes)
    · simp

/-- The search goes on behind an array in whose objects it does not end. -/
theorem after_arrayText (hk : IsKey k) (inner : Space) {es : List (Element τ)} (hes : ∀ e ∈ es, ¬ e.Hides k)
    (t : List Char) : after (quoted k) (arrayText inner es ++ t) = after (quoted k) t := by
  have hopen : quote ∉ '[' :: inner.1 := by
    rw [List.mem_cons, not_or]
    exact ⟨by decide, quote_not_mem_space _⟩
  have hshape : arrayText inner es ++ t = ('[' :: inner.1) ++ elementsText es (']' :: t) := by
    simp [arrayText, elementsText_append]
  rw [hshape, after_of_quote_not_mem hopen, after_elementsText hk es _ hes]
  exact after_cons_of_ne (by decide) _

/-! ### Looking up a key -/

section
variable [∀ (k : List Char) (v : τ), Decidable (Written.hides k v)]

/-- The value that an object has for a key. -/
def lookup (ms : List (Member τ)) (k : List Char) : Option τ :=
  (ms.find? fun m => decode m.key = k.map Char.toNat).map Member.value

/-- The first item in which the search for the quoted `k` ends. -/
def firstHit? (ms : List (Member τ)) (k : List Char) : Option (Member τ) := ms.find? (·.Hides k)

/-- The search for a key in an object that has it first. -/
theorem after_objectText_of_firstHit (hk : IsKey k) {ms : List (Member τ)} {m : Member τ} (hm : m ∈ firstHit? ms k)
    (htext : text m.key = k) (inner : Space) (t : List Char) :
    ∃ post : List (Member τ),
      after (quoted k) (objectText inner ms ++ t) = some (m.rest ++ follow post (closeBrace :: t)) := by
  obtain ⟨-, pre, post, hms, hpre⟩ := List.find?_eq_some_iff_append.mp hm
  refine ⟨post, ?_⟩
  have hopen : quote ∉ openBrace :: inner.1 := by
    rw [List.mem_cons, not_or]
    exact ⟨by decide, quote_not_mem_space _⟩
  have hshape : objectText inner ms ++ t =
      (openBrace :: inner.1) ++ (membersText (pre ++ m :: post) ++ closeBrace :: t) := by
    simp [objectText, hms]
  rw [hshape, after_of_quote_not_mem hopen,
    after_members_key hk (stops_cons (by decide) _) htext post pre (fun m' hm' => by simpa using hpre m' hm')]

/-- An item with a key that comes first is the value of the key. -/
theorem lookup_of_firstHit (hk : IsKey k) {ms : List (Member τ)} (hdup : (ms.map fun m => decode m.key).Nodup)
    {m : Member τ} (hm : m ∈ firstHit? ms k) (htext : text m.key = k) : lookup ms k = some m.value := by
  have hmem : m ∈ ms := List.mem_of_find?_eq_some hm
  have hback : backslash ∉ text m.key := by
    rw [htext]
    intro h
    exact (hk.2 _ h).2.1 rfl
  have hdecode : decode m.key = k.map Char.toNat := by
    rw [decode_of_backslash_not_mem _ hback, htext]
  have hsome : (ms.find? fun m => decode m.key = k.map Char.toNat).isSome = true :=
    List.find?_isSome.mpr ⟨m, hmem, decide_eq_true hdecode⟩
  obtain ⟨m', hm'⟩ := Option.isSome_iff_exists.mp hsome
  have hsame : m' = m := by
    refine List.inj_on_of_nodup_map hdup (List.mem_of_find?_eq_some hm') hmem ?_
    have hfound := List.find?_some hm'
    rw [hdecode]
    exact of_decide_eq_true hfound
  rw [lookup, hm', hsame]
  rfl

end

/-! ## Numbers -/

/-- The value of a sequence of digits in base `b`, put behind the digits of `n`. -/
def readDigits (b : Nat) (n : Nat) (cs : List Char) : Nat := cs.foldl (fun n c => b * n + digitValue c) n

theorem digitValue_eq_of_isDigit {c : Char} (h : c.isDigit = true) : digitValue c = c.toNat - '0'.toNat := by
  simp only [Char.isDigit, Bool.and_eq_true, decide_eq_true_eq] at h
  exact if_pos h

/-- Decimal digits, as `Nat.ofDigitChars` reads them. -/
theorem readDigits_ten : ∀ (cs : List Char) (n : Nat), (∀ c ∈ cs, c.isDigit = true) →
    readDigits 10 n cs = Nat.ofDigitChars 10 cs n := by
  intro cs
  induction cs with
  | nil => intro n _; rfl
  | cons c cs ih =>
    intro n h
    obtain ⟨hc, hcs⟩ := List.forall_mem_cons.mp h
    have hrest := ih (10 * n + digitValue c) hcs
    rw [readDigits] at hrest
    rw [readDigits, List.foldl_cons, hrest, Nat.ofDigitChars_cons, digitValue_eq_of_isDigit hc]

/-- A number is read back from its decimal digits. -/
theorem readDigits_toDigits (n : Nat) : readDigits 10 0 (Nat.toDigits 10 n) = n := by
  rw [readDigits_ten _ _ (fun c hc => Nat.isDigit_of_mem_toDigits (by omega) (by omega) hc),
    Nat.ofDigitChars_ten_toDigits]

/-! ## Scalars -/

/-- A value that is not nested: a truth value, an integer, a string. -/
inductive Scalar where
  | bool (b : Bool)
  | number (negative : Bool) (n : Nat)
  | string (l : Literal)

namespace Scalar

def text : Scalar → List Char
  | .bool true => ['t', 'r', 'u', 'e']
  | .bool false => ['f', 'a', 'l', 's', 'e']
  | .number true n => '-' :: Nat.toDigits 10 n
  | .number false n => Nat.toDigits 10 n
  | .string l => quoted (JsonText.text l)

def Hides (k : List Char) : Scalar → Prop
  | .string l => JsonText.Hides k l
  | _ => False

instance (k : List Char) : (v : Scalar) → Decidable (v.Hides k)
  | .string l => inferInstanceAs (Decidable (JsonText.Hides k l))
  | .bool _ => inferInstanceAs (Decidable False)
  | .number _ _ => inferInstanceAs (Decidable False)

theorem isDigit_of_mem_toDigits {n : Nat} {c : Char} (h : c ∈ Nat.toDigits 10 n) : c.isDigit = true :=
  Nat.isDigit_of_mem_toDigits (by omega) (by omega) h

theorem quote_not_mem_toDigits (n : Nat) : quote ∉ Nat.toDigits 10 n := by
  intro h
  have hdigit := isDigit_of_mem_toDigits h
  revert hdigit
  decide

theorem after_text (hk : IsKey k) {t : List Char} (ht : Stops t) (v : Scalar) (hv : ¬ v.Hides k) :
    after (quoted k) (v.text ++ t) = after (quoted k) t := by
  cases v with
  | bool b => cases b <;> exact after_of_quote_not_mem (by decide) t
  | number negative n =>
    cases negative with
    | false => exact after_of_quote_not_mem (quote_not_mem_toDigits n) t
    | true =>
      refine after_of_quote_not_mem ?_ t
      simp only [text, List.mem_cons, not_or]
      exact ⟨by decide, quote_not_mem_toDigits n⟩
  | string l => exact (after_literal hk ht l).trans (if_neg hv)

/-- What a scalar starts with tells what it is. -/
theorem text_eq_cons (v : Scalar) : ∃ c u, v.text = c :: u ∧ isPunct c = false ∧
    (c = 't' → v = .bool true) ∧ (c = 'f' → v = .bool false) ∧ (c = quote → ∃ l, v = .string l) := by
  cases v with
  | bool b => cases b <;> exact ⟨_, _, rfl, by decide, by simp +decide, by simp +decide, by simp +decide⟩
  | string l => exact ⟨quote, _, rfl, by decide, by simp +decide, by simp +decide, fun _ => ⟨l, rfl⟩⟩
  | number negative n =>
    cases negative with
    | true => exact ⟨'-', _, rfl, by decide, by simp +decide, by simp +decide, by simp +decide⟩
    | false =>
      obtain ⟨c, u, hcu⟩ := List.exists_cons_of_ne_nil (Nat.toDigits_ne_nil (b := 10) (n := n))
      have hdigit : c.isDigit = true := isDigit_of_mem_toDigits (hcu ▸ List.mem_cons_self)
      refine ⟨c, u, hcu, ?_, ?_, ?_, ?_⟩
      · cases hp : isPunct c with
        | false => rfl
        | true =>
          simp only [isPunct, isSpace, Bool.or_eq_true, beq_iff_eq] at hp
          rcases hp with ((((((rfl | rfl) | rfl) | rfl) | rfl) | rfl) | rfl) | rfl <;> revert hdigit <;> decide
      · rintro rfl; exact absurd hdigit (by decide)
      · rintro rfl; exact absurd hdigit (by decide)
      · rintro rfl; exact absurd hdigit (by decide)

end Scalar

instance : Written Scalar where
  text := Scalar.text
  hides := Scalar.Hides
  after_text := Scalar.after_text

instance (k : List Char) (v : Scalar) : Decidable (Written.hides k v) := inferInstanceAs (Decidable (v.Hides k))

end JsonText
