import RiscvDbg.Bridge.Pairing

/-!
# The text of a log line

What `emit_log` makes of a text, and what `handle_request` hands to the simulator as `g_req_text`.

* `utf8` — the encoding the simulator expects; a lone surrogate has none.
* `Exchange.texts` — the texts the server extracted from the requests of a call.
* `mem_jsonGetStrEsc` — `json_get_str_esc` yields printable ASCII, tabs and newlines only: it knows no
  `\u` escape and drops the backslash of every one.
* `log_text_delivered_iff` — **exactly the texts of printable ASCII and tabs arrive as they were sent.**
-/

set_option autoImplicit false

namespace RiscvDbg

open Text

/-- `text.encode("utf-8")`; `none` where Python raises. -/
def utf8 (text : List Nat) : Option (List UInt8) :=
  if ∀ n ∈ text, n.isValidChar then some (text.flatMap fun n => String.utf8EncodeChar (Char.ofNat n)) else none

/-- The bytes of a C string. -/
def cBytes (s : List Char) : List UInt8 := s.map fun c => UInt8.ofNat c.toNat

/-- The text that a line makes `handle_request` hand on. -/
def handedText (line : List Char) : Option (List UInt8) :=
  match ReqOp.ofName (jsonGetStr line .op 32) with
  | some .log => some (cBytes (request line .log).text)
  | _ => none

/-- The texts of the log requests in a call. -/
def Exchange.texts (e : Exchange) : List (List UInt8) := e.handled.filterMap handedText

/-! ## Printable characters -/

/-- Printable ASCII. -/
def Printable (c : Char) : Prop := 0x20 ≤ c.toNat ∧ c.toNat ≤ 0x7e

instance instDecidablePrintable (c : Char) : Decidable (Printable c) :=
  inferInstanceAs (Decidable (0x20 ≤ c.toNat ∧ c.toNat ≤ 0x7e))

theorem printable_of_isDigit {c : Char} (h : c.isDigit = true) : Printable c := by
  obtain ⟨hlo, hhi⟩ := Char.isDigit_iff_toNat.mp h
  change 48 ≤ c.toNat at hlo
  change c.toNat ≤ 57 at hhi
  exact ⟨by omega, by omega⟩

theorem printable_unicodeEscape {n : Nat} {c : Char} (h : c ∈ unicodeEscape n) : Printable c := by
  have hdigit : ∀ k < 16, Printable (Nat.digitChar k) := by decide
  simp only [unicodeEscape, List.mem_cons, List.not_mem_nil, or_false] at h
  rcases h with rfl | rfl | rfl | rfl | rfl | rfl
  · decide
  · decide
  all_goals exact hdigit _ (Nat.mod_lt _ (by omega))

theorem printable_escapeChar {n : Nat} {c : Char} (h : c ∈ escapeChar n) : Printable c := by
  have hpair : ∀ {d : Char}, Printable d → c ∈ [backslash, d] → Printable c := by
    intro d hd hc
    simp only [List.mem_cons, List.not_mem_nil, or_false] at hc
    rcases hc with rfl | rfl
    · decide
    · exact hd
  unfold escapeChar at h
  split_ifs at h with h₁ h₂ h₃ h₄ h₅ h₆ h₇ h₈ h₉
  · exact hpair (by decide) h
  · exact hpair (by decide) h
  · exact hpair (by decide) h
  · exact hpair (by decide) h
  · exact hpair (by decide) h
  · exact hpair (by decide) h
  · exact hpair (by decide) h
  · rw [List.mem_singleton.mp h, Printable, toNat_ofNat_printable h₈.2]
    exact h₈
  · exact printable_unicodeEscape h
  · rcases List.mem_append.mp h with h | h
    · exact printable_unicodeEscape h
    · exact printable_unicodeEscape h

theorem printable_key (k : JsonKey) {c : Char} (h : c ∈ quoted k.name ++ [':', ' ']) : Printable c := by
  have hall : (quoted k.name ++ [':', ' ']).all (fun c => decide (Printable c)) = true := by
    cases k <;> decide
  exact of_decide_eq_true (List.all_eq_true.mp hall c h)

theorem printable_dumpsItem {f : JsonKey × JsonValue} {c : Char} (h : c ∈ dumpsItem f) : Printable c := by
  rw [dumpsItem, List.mem_append] at h
  rcases h with h | h
  · exact printable_key f.1 h
  · cases hf : f.2 with
    | int n =>
      rw [hf] at h
      rcases mem_decimal h with rfl | hd
      · decide
      · exact printable_of_isDigit hd
    | str s =>
      rw [hf, JsonValue.dumps, quoted, List.mem_cons, List.mem_append, List.mem_singleton] at h
      rcases h with rfl | h | rfl
      · decide
      · obtain ⟨n, -, hn⟩ := List.mem_flatMap.mp h
        exact printable_escapeChar hn
      · decide

theorem printable_body {p : Payload} {id : Nat} {c : Char} (h : c ∈ p.body id) : Printable c := by
  rw [body_eq] at h
  simp only [List.mem_cons, List.mem_append, List.not_mem_nil, or_false] at h
  rcases h with rfl | h | h | ((rfl | rfl) | h) | rfl
  · decide
  · obtain ⟨f, -, hf⟩ := List.mem_flatMap.mp h
    rcases List.mem_append.mp hf with hf | hsep
    · exact printable_dumpsItem hf
    · simp only [List.mem_cons, List.not_mem_nil, or_false] at hsep
      rcases hsep with rfl | rfl <;> decide
  · exact printable_key .id (List.mem_append_left _ h)
  · decide
  · decide
  · rcases mem_decimal h with rfl | hd
    · decide
    · exact printable_of_isDigit hd
  · decide

/-! ## What comes out of `json_get_str_esc` -/

/-- Printable, a tab or a newline. -/
def Delivered (c : Char) : Prop := Printable c ∨ c = Char.ofNat 0x09 ∨ c = newline

theorem mem_unescape {left : Nat} {p : List Char} (hp : ∀ c ∈ p, Printable c) {c : Char}
    (h : c ∈ unescape left p) : Delivered c := by
  fun_induction unescape left p with
  | case1 => exact absurd h List.not_mem_nil
  | case2 => exact absurd h List.not_mem_nil
  | case3 left ih =>
    rcases List.mem_cons.mp h with rfl | h
    · exact Or.inl (by decide)
    · exact ih (by simp) h
  | case4 left p ih =>
    rcases List.mem_cons.mp h with rfl | h
    · exact Or.inr (Or.inr rfl)
    · exact ih (fun d hd => hp d (by simp [hd])) h
  | case5 left p _ ih =>
    rcases List.mem_cons.mp h with rfl | h
    · exact Or.inr (Or.inl rfl)
    · exact ih (fun d hd => hp d (by simp [hd])) h
  | case6 left p _ _ ih => exact ih (fun d hd => hp d (by simp [hd])) h
  | case7 left e p _ _ _ ih =>
    rcases List.mem_cons.mp h with rfl | h
    · exact Or.inl (hp _ (by simp))
    · exact ih (fun d hd => hp d (by simp [hd])) h
  | case8 => exact absurd h List.not_mem_nil
  | case9 d p left _ _ ih =>
    rcases List.mem_cons.mp h with rfl | h
    · exact Or.inl (hp _ List.mem_cons_self)
    · exact ih (fun d hd => hp d (List.mem_cons_of_mem _ hd)) h

theorem mem_jsonGetStrEsc {json : List Char} (hjson : ∀ c ∈ json, Printable c) {key : JsonKey} {bufLen : Nat}
    {c : Char} (h : c ∈ jsonGetStrEsc json key bufLen) : Delivered c := by
  unfold jsonGetStrEsc at h
  split at h
  · exact absurd h List.not_mem_nil
  · rename_i p hp
    have hsuf : skipColon p <:+ json := (List.dropWhile_suffix _).trans (suffix_of_after hp)
    split at h
    · exact absurd h List.not_mem_nil
    · rename_i d q hq
      split_ifs at h
      · refine mem_unescape (fun c hc => hjson c (hsuf.mem ?_)) h
        rw [hq]
        exact List.mem_cons_of_mem d hc
      · exact absurd h List.not_mem_nil

/-! ## UTF-8 -/

theorem utf8EncodeChar_of_le {n : Nat} (h : n ≤ 0x7e) :
    String.utf8EncodeChar (Char.ofNat n) = [UInt8.ofNat n] := by
  have hcode : (Char.ofNat n).val.toNat = n := toNat_ofNat_printable h
  rw [String.utf8EncodeChar]
  rw [hcode, if_pos (by omega)]

/-- A character all of whose bytes are ASCII is one byte. -/
theorem le_of_utf8EncodeChar {n : Nat} (hvalid : n.isValidChar)
    (h : ∀ b ∈ String.utf8EncodeChar (Char.ofNat n), b.toNat < 0x80) :
    n ≤ 0x7f ∧ String.utf8EncodeChar (Char.ofNat n) = [UInt8.ofNat n] := by
  have hcode : (Char.ofNat n).val.toNat = n := by
    rw [Char.ofNat, dif_pos hvalid]
    rfl
  rw [String.utf8EncodeChar] at h ⊢
  rw [hcode] at h ⊢
  split_ifs at h with h₁ h₂ h₃
  · exact ⟨h₁, if_pos h₁⟩
  · have hb := h _ List.mem_cons_self
    rw [UInt8.toNat_ofNat'] at hb
    omega
  · have hb := h _ List.mem_cons_self
    rw [UInt8.toNat_ofNat'] at hb
    omega
  · have hb := h _ List.mem_cons_self
    rw [UInt8.toNat_ofNat'] at hb
    omega

/-! ## Texts that arrive -/

/-- A printable code point or a tab. -/
def PlainCode (n : Nat) : Prop := n = 0x09 ∨ (0x20 ≤ n ∧ n ≤ 0x7e)

instance instDecidablePlainCode (n : Nat) : Decidable (PlainCode n) :=
  inferInstanceAs (Decidable (n = 0x09 ∨ (0x20 ≤ n ∧ n ≤ 0x7e)))

theorem PlainCode.le {n : Nat} (h : PlainCode n) : n ≤ 0x7e := by
  rcases h with rfl | h <;> omega

theorem unescape_pair (left : Nat) (e : Char) (p : List Char) :
    unescape (left + 1) (backslash :: e :: p) =
      if e = 'n' then newline :: unescape left p
      else if e = 't' then Char.ofNat 0x09 :: unescape left p
      else if e = 'r' then unescape (left + 1) p
      else e :: unescape left p := by
  rw [unescape.eq_def]
  dsimp only
  rw [if_pos rfl]

theorem unescape_char {c : Char} (hb : c ≠ backslash) (hq : c ≠ quote) (left : Nat) (p : List Char) :
    unescape (left + 1) (c :: p) = c :: unescape left p := by
  rw [unescape.eq_def]
  dsimp only
  rw [if_neg hb, if_neg hq]

theorem unescape_quote (left : Nat) (p : List Char) : unescape left (quote :: p) = [] := by
  rw [unescape.eq_def]
  cases left with
  | zero => rfl
  | succ left =>
    dsimp only
    rw [if_neg (by decide), if_pos rfl]

/-- The escape of a plain code point is undone. -/
theorem unescape_escapeChar {n : Nat} (h : PlainCode n) (left : Nat) (t : List Char) :
    unescape (left + 1) (escapeChar n ++ t) = Char.ofNat n :: unescape left t := by
  by_cases hq : n = 0x22
  · subst hq
    exact unescape_pair left quote t
  by_cases hb : n = 0x5c
  · subst hb
    exact unescape_pair left backslash t
  by_cases ht : n = 0x09
  · subst ht
    exact unescape_pair left 't' t
  have hrange : 0x20 ≤ n ∧ n ≤ 0x7e := h.resolve_left ht
  have hesc : escapeChar n = [Char.ofNat n] := by
    rw [escapeChar, if_neg hq, if_neg hb, if_neg (by omega), if_neg (by omega), if_neg ht, if_neg (by omega),
      if_neg (by omega), if_pos hrange]
  have hne : ∀ k ≤ 0x7e, n ≠ k → Char.ofNat n ≠ Char.ofNat k := by
    intro k hk hnk heq
    have hcode := congrArg Char.toNat heq
    rw [toNat_ofNat_printable hrange.2, toNat_ofNat_printable hk] at hcode
    exact hnk hcode
  rw [hesc, List.singleton_append]
  exact unescape_char (hne 0x5c (by omega) hb) (hne 0x22 (by omega) hq) left t

theorem unescape_escape {text : List Nat} (h : ∀ n ∈ text, PlainCode n) (t : List Char) :
    ∀ left, text.length ≤ left → unescape left (escape text ++ quote :: t) = text.map Char.ofNat := by
  induction text with
  | nil =>
    intro left _
    exact unescape_quote left t
  | cons n text ih =>
    intro left hlen
    obtain ⟨left, rfl⟩ : ∃ k, left = k + 1 := ⟨left - 1, by simp at hlen; omega⟩
    rw [List.forall_mem_cons] at h
    rw [escape, List.flatMap_cons, List.append_assoc, unescape_escapeChar h.1, List.map_cons]
    exact congrArg _ (ih h.2 left (by simpa using hlen))

/-- A text without line breaks is one line. -/
theorem splitlinesFrom_plain {text : List Nat} (h : ∀ n ∈ text, PlainCode n) :
    ∀ cur : List Nat, cur ++ text ≠ [] → splitlinesFrom cur text = [cur.reverse ++ text] := by
  induction text with
  | nil =>
    intro cur hne
    rw [splitlinesFrom, if_neg (by simpa using hne), List.append_nil]
  | cons n text ih =>
    intro cur _
    rw [List.forall_mem_cons] at h
    have hbreak : isLineBreak n = false := by
      have hall : ∀ k ≤ 0x7e, PlainCode k → isLineBreak k = false := by decide
      exact hall n h.1.le h.1
    have hcr : n ≠ 0x0d := by
      rintro rfl
      exact absurd h.1 (by decide)
    rw [splitlinesFrom, hbreak, if_neg Bool.false_ne_true, ih h.2 (n :: cur) (by simp)]
    · simp
    · intro cs hn _
      exact hcr hn

theorem payloads_plain {text : List Nat} (h : ∀ n ∈ text, PlainCode n) (verbosity : Int) :
    (Operation.emitLog text verbosity).payloads = [logPayload verbosity text] := by
  rw [Operation.payloads]
  rcases text with _ | ⟨n, text⟩
  · rfl
  · have hline : splitlines (n :: text) = [n :: text] := splitlinesFrom_plain h [] (by simp)
    rw [hline, if_neg (by simp), List.map_singleton]

/-- What stands before and after the text in the line of a log request. -/
theorem body_logPayload (verbosity : Int) (chunk : List Nat) (id : Nat) :
    ∃ t, (logPayload verbosity chunk).body id =
      openBrace :: "\"op\": \"log\", \"text\": \"".toList ++ (escape chunk ++ quote :: t) := by
  refine ⟨[',', ' '] ++ (dumpsItem (.data, .int verbosity) ++ [',', ' '] ++
    (quoted JsonKey.id.name ++ ([':', ' '] ++ decimal id ++ [closeBrace]))), ?_⟩
  rw [body_eq]
  have hop : dumpsItem (.op, .str (ReqOp.log.name.map Char.toNat)) = "\"op\": \"log\"".toList := by decide
  have hitems : (logPayload verbosity chunk).items =
      [(.op, .str (ReqOp.log.name.map Char.toNat)), (.text, .str chunk), (.data, .int verbosity)] := rfl
  have htext : dumpsItem (.text, .str chunk) = "\"text\": \"".toList ++ (escape chunk ++ [quote]) := rfl
  have hhead : "\"op\": \"log\", \"text\": \"".toList =
      "\"op\": \"log\"".toList ++ [',', ' '] ++ "\"text\": \"".toList := by decide
  rw [hitems, itemsText, hhead]
  simp only [List.flatMap_cons, List.flatMap_nil, hop, htext, List.append_assoc, List.cons_append, List.nil_append,
    List.append_nil]

theorem jsonGetStrEsc_head (u : List Char) :
    jsonGetStrEsc (openBrace :: "\"op\": \"log\", \"text\": \"".toList ++ u) .text 2048 = unescape 2047 u :=
  rfl

theorem length_le_escape (chunk : List Nat) : chunk.length ≤ (escape chunk).length := by
  induction chunk with
  | nil => exact Nat.le_refl 0
  | cons n chunk ih =>
    have hpos : 1 ≤ (escapeChar n).length := by
      rcases escapeChar_cases n with ⟨cs, heq, -, -⟩ | ⟨heq, -, -, -⟩
      · rw [heq, List.length_cons]
        omega
      · rw [heq]
        exact Nat.le_refl 1
    rw [escape, List.flatMap_cons, List.length_append, List.length_cons]
    have hrest : chunk.length ≤ (chunk.flatMap escapeChar).length := ih
    omega

/-- A plain text is read back from its line, if the line fits. -/
theorem jsonGetStrEsc_plain {chunk : List Nat} (h : ∀ n ∈ chunk, PlainCode n) (verbosity : Int) (id : Nat)
    (hfits : ((logPayload verbosity chunk).body id).length ≤ 2047) :
    jsonGetStrEsc ((logPayload verbosity chunk).body id) .text 2048 = chunk.map Char.ofNat := by
  obtain ⟨t, ht⟩ := body_logPayload verbosity chunk id
  have hlen := length_le_escape chunk
  rw [ht, jsonGetStrEsc_head, unescape_escape h]
  rw [ht] at hfits
  simp only [List.length_append, List.length_cons] at hfits
  omega

theorem utf8_plain {text : List Nat} (h : ∀ n ∈ text, PlainCode n) :
    utf8 text = some (cBytes (text.map Char.ofNat)) := by
  have hvalid : ∀ n ∈ text, n.isValidChar := fun n hn => Or.inl (Nat.lt_of_le_of_lt (h n hn).le (by decide))
  rw [utf8, if_pos hvalid, cBytes, List.map_map, List.map_eq_flatMap]
  congr 1
  refine List.flatMap_congr fun n hn => ?_
  rw [utf8EncodeChar_of_le (h n hn).le, Function.comp_apply, toNat_ofNat_printable (h n hn).le]

/-- Only a plain text can be encoded by bytes that are printable, tabs or newlines, if it has no newline. -/
theorem plain_of_utf8 {text : List Nat} {s : List Char} (hnl : 0x0a ∉ text) (hs : ∀ c ∈ s, Delivered c)
    (h : utf8 text = some (cBytes s)) : ∀ n ∈ text, PlainCode n := by
  rw [utf8] at h
  split_ifs at h with hvalid
  have hbytes := Option.some.inj h
  have hcode : ∀ c ∈ s, c.toNat = 0x0a ∨ PlainCode c.toNat := by
    intro c hc
    rcases hs c hc with hp | rfl | rfl
    · exact Or.inr (Or.inr hp)
    · exact Or.inr (Or.inl rfl)
    · exact Or.inl rfl
  have hbyte : ∀ b ∈ cBytes s, b.toNat < 0x80 ∧ (b.toNat = 0x0a ∨ PlainCode b.toNat) := by
    intro b hb
    obtain ⟨c, hc, rfl⟩ := List.mem_map.mp hb
    have hle : c.toNat ≤ 0x7e := by
      rcases hcode c hc with h | h
      · omega
      · exact h.le
    rw [UInt8.toNat_ofNat', Nat.mod_eq_of_lt (by omega)]
    exact ⟨by omega, hcode c hc⟩
  intro n hn
  have hmem : ∀ b ∈ String.utf8EncodeChar (Char.ofNat n), b ∈ cBytes s := by
    intro b hb
    rw [← hbytes]
    exact List.mem_flatMap.mpr ⟨n, hn, hb⟩
  obtain ⟨hle, hone⟩ := le_of_utf8EncodeChar (hvalid n hn) fun b hb => (hbyte b (hmem b hb)).1
  have hn' := (hbyte (UInt8.ofNat n) (hmem _ (by rw [hone]; exact List.mem_singleton_self _))).2
  rw [UInt8.toNat_ofNat', Nat.mod_eq_of_lt (by omega)] at hn'
  rcases hn' with rfl | hplain
  · exact absurd hn hnl
  · exact hplain

/-! ## Calls of `emit_log` -/

section
variable {σ : Type} (sim : Simulator σ)

/-- The text of a call whose line fits. -/
theorem transact_texts (b : Bridge σ) (p : Payload) (hfits : (transact sim b p).2.Fits) :
    (transact sim b p).2.texts =
      if p.op = .log then [cBytes (jsonGetStrEsc (p.body (b.idCounter + 1)) .text 2048)] else [] := by
  have hrecv : recvLines (p.body (b.idCounter + 1) ++ [newline]) = [p.body (b.idCounter + 1)] :=
    (recvLines_eq_singleton_iff (newline_not_mem_body _ _)).mpr hfits
  rw [Exchange.texts, transact_handled, hrecv, List.filterMap_cons, List.filterMap_nil, handedText, jsonGetStr_body,
    ReqOp.ofName_name]
  cases p.op <;> rfl

/-- An operation with one request is one call. -/
theorem perform_one (b : Bridge σ) {op : Operation} {p : Payload} (h : op.payloads = [p]) :
    (perform sim b op).2 = [(transact sim b p).2] := by
  rw [perform, h, emitLines]
  dsimp only
  split_ifs <;> rfl

/-- **Log texts.**  A text without newlines whose lines fit is handed to the simulator as one text, its
UTF-8 encoding, exactly if it consists of printable ASCII and tabs. -/
theorem log_text_delivered_iff (b : Bridge σ) (text : List Nat) (verbosity : Int) (hnl : 0x0a ∉ text)
    (hfits : ∀ e ∈ (perform sim b (.emitLog text verbosity)).2, e.Fits) :
    (∃ bytes, utf8 text = some bytes ∧
      (perform sim b (.emitLog text verbosity)).2.flatMap Exchange.texts = [bytes]) ↔
    ∀ n ∈ text, PlainCode n := by
  constructor
  · rintro ⟨bytes, hutf8, htexts⟩
    have hmem : bytes ∈ (perform sim b (.emitLog text verbosity)).2.flatMap Exchange.texts := by
      rw [htexts]
      exact List.mem_singleton_self bytes
    obtain ⟨e, he, hbytes⟩ := List.mem_flatMap.mp hmem
    obtain ⟨b', p, rfl⟩ := mem_emitLines sim he
    rw [transact_texts sim b' p (hfits _ he)] at hbytes
    split_ifs at hbytes
    · rw [List.mem_singleton] at hbytes
      subst hbytes
      refine plain_of_utf8 hnl (fun c hc => mem_jsonGetStrEsc ?_ hc) hutf8
      exact fun c hc => printable_body hc
    · exact absurd hbytes List.not_mem_nil
  · intro hplain
    have hone := perform_one sim b (payloads_plain hplain verbosity)
    have hfit := hfits (transact sim b (logPayload verbosity text)).2 (by rw [hone]; exact List.mem_singleton_self _)
    have hlen : ((logPayload verbosity text).body (b.idCounter + 1)).length ≤ 2047 := by
      rw [Exchange.Fits, Exchange.line, transact_payload, transact_id, List.length_append] at hfit
      omega
    refine ⟨_, utf8_plain hplain, ?_⟩
    have hlog : (logPayload verbosity text).op = .log := rfl
    rw [hone, List.flatMap_singleton, transact_texts sim b _ hfit, if_pos hlog, jsonGetStrEsc_plain hplain _ _ hlen]

end

/-- A simulator that answers everything with 0. -/
def quietSimulator : Simulator Unit := ⟨fun s _ => (s, 0, 0)⟩

/-- A tab, a quote and a backslash arrive. -/
theorem log_text_delivered_escapes :
    ∃ bytes, utf8 [0x09, 0x22, 0x5c, 0x41] = some bytes ∧
      (perform quietSimulator (.connected ()) (.emitLog [0x09, 0x22, 0x5c, 0x41] 200)).2.flatMap
        Exchange.texts = [bytes] :=
  (log_text_delivered_iff quietSimulator (.connected ()) [0x09, 0x22, 0x5c, 0x41] 200 (by decide)
    (show ∀ e ∈ _, (Exchange.line e).length ≤ 1023 by decide +kernel)).mpr (by decide)

/-- The escape that `json.dumps` writes for a dash, as `json_get_str_esc` reads it. -/
theorem jsonGetStrEsc_dash (id : Nat) :
    jsonGetStrEsc ((logPayload 200 [0x2014]).body id) .text 2048 = "u2014".toList := by
  obtain ⟨t, ht⟩ := body_logPayload 200 [0x2014] id
  have hesc : escape [0x2014] = [backslash, 'u', '2', '0', '1', '4'] := by decide
  rw [ht, jsonGetStrEsc_head, hesc]
  simp only [List.cons_append, List.nil_append]
  rw [unescape_pair, if_neg (by decide), if_neg (by decide), if_neg (by decide),
    unescape_char (by decide) (by decide), unescape_char (by decide) (by decide),
    unescape_char (by decide) (by decide), unescape_char (by decide) (by decide), unescape_quote]
  decide

/-- A dash, which is three bytes in UTF-8, arrives as the five letters of its escape. -/
theorem log_text_dash :
    let calls := (perform quietSimulator (.connected ()) (.emitLog [0x2014] 200)).2
    (∀ e ∈ calls, e.Fits) ∧ utf8 [0x2014] = some [0xe2, 0x80, 0x94] ∧
      calls.flatMap Exchange.texts = [[0x75, 0x32, 0x30, 0x31, 0x34]] ∧
      ¬∃ bytes, utf8 [0x2014] = some bytes ∧ calls.flatMap Exchange.texts = [bytes] := by
  intro calls
  have hfits : ∀ e ∈ calls, e.line.length ≤ 1023 := by decide +kernel
  have hutf8 : utf8 [0x2014] = some [0xe2, 0x80, 0x94] := by decide
  have hone : calls = [(transact quietSimulator (.connected ()) (logPayload 200 [0x2014])).2] :=
    perform_one quietSimulator _ rfl
  have htexts : calls.flatMap Exchange.texts = [[0x75, 0x32, 0x30, 0x31, 0x34]] := by
    rw [hone, List.flatMap_singleton, transact_texts _ _ _ (hfits _ (by rw [hone]; exact List.mem_singleton_self _)),
      if_pos (show (logPayload 200 [0x2014]).op = .log from rfl), jsonGetStrEsc_dash]
    decide
  refine ⟨hfits, hutf8, htexts, ?_⟩
  rw [hutf8, htexts]
  rintro ⟨bytes, hb, ht⟩
  rw [← Option.some.inj hb] at ht
  exact absurd ht (by decide)

end RiscvDbg
