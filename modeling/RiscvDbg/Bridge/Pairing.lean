import RiscvDbg.Bridge.Fields

/-!
# Requests and their responses

Whether a call of `_transact` gets the response to its own request.

* `Exchange.Paired` — the server handled the line as one request and answered it with one line, and that
  is the response the client took.
* `Exchange.Fits` — the line fits into the server's buffer with its newline.
* `paired_iff_fits` — in a session on a simulator of any behaviour, every call is paired exactly if
  every line fits; and every call also returns its response, which it recognises by the id, exactly if
  moreover no text hides the id and the ids are within the range of `long long`.
-/

set_option autoImplicit false

namespace RiscvDbg

open Text

/-- The server handled the line as one request and answered with one line, which the client took. -/
structure Exchange.Paired (e : Exchange) : Prop where
  handled : e.handled = [e.payload.body e.id]
  oneLine : e.answered.count newline = 1
  received : e.answers = e.received.toList

/-- The line fits into the buffer of the server, which keeps one byte for the terminating NUL. -/
def Exchange.Fits (e : Exchange) : Prop := e.line.length ≤ 1023

/-- The request is read back as it was sent: its line fits, no text hides the id, and the id is in the
range of `long long`. -/
structure Payload.Clear (p : Payload) (id : Nat) : Prop where
  fits : (p.body id).length + 1 ≤ 1023
  unmasked : ¬p.masksId
  range : id < 2 ^ 63

/-- The requests of a list of operations with the ids they get, if none is given up. -/
def requests (ops : List Operation) : List (Payload × Nat) := (ops.flatMap Operation.payloads).zipIdx 1

/-! ## One line -/

theorem stripNewline_concat (s : List Char) : stripNewline (s ++ [newline]) = s := by
  rw [stripNewline, List.getLast?_concat, if_pos rfl, List.dropLast_concat]

/-- The server finds one request in a line, and the one that was sent, exactly if the line fits. -/
theorem recvLines_eq_singleton_iff {s : List Char} (hs : newline ∉ s) :
    recvLines (s ++ [newline]) = [s] ↔ (s ++ [newline]).length ≤ 1023 := by
  rw [List.length_append, List.length_singleton]
  constructor
  · intro h
    obtain ⟨l, hl, _⟩ := List.map_eq_singleton_iff.mp h
    exact (chunks_eq_singleton_iff (by decide) hs).mp ⟨l, hl⟩
  · intro hlen
    have hone : chunks (RECV_BUF_SZ - 1) newline (s ++ [newline]) = [s ++ [newline]] :=
      chunksFrom_line hs _ hlen
    rw [recvLines, hone, List.map_singleton, stripNewline_concat]

theorem newline_not_mem_text {r : Response} (h : r.isOk = true) : newline ∉ r.status.text := by
  cases hs : r.status with
  | ok => exact (by decide : newline ∉ ",\"status\":\"ok\"".toList)
  | okData data xmask =>
    change newline ∉ ",\"status\":\"ok\",\"data\":".toList ++ decimal data.toNat ++ ",\"xmask\":".toList ++
      decimal xmask.toNat
    rw [List.mem_append, List.mem_append, List.mem_append, not_or, not_or, not_or]
    exact ⟨⟨⟨by decide, newline_not_mem_decimal _⟩, by decide⟩, newline_not_mem_decimal _⟩
  | err op => rw [Response.isOk, hs] at h; exact absurd h Bool.false_ne_true

/-- A response that is no error is one line. -/
theorem count_newline_line {r : Response} (h : r.isOk = true) : r.line.count newline = 1 := by
  have hid : newline ∉ "\"id\":".toList := by decide
  have hend : [closeBrace, newline].count newline = 1 := by decide
  rw [Response.line, List.count_cons_of_ne (by decide), List.count_append, List.count_append,
    List.count_append, hend, List.count_eq_zero.mpr hid, List.count_eq_zero.mpr (newline_not_mem_decimal r.id),
    List.count_eq_zero.mpr (newline_not_mem_text h)]

section
variable {σ : Type} (sim : Simulator σ)

/-- The response to a request as the client sent it. -/
theorem handleRequest_body (s : σ) (p : Payload) (id : Nat) :
    (handleRequest sim s (p.body id)).2.isOk = true ∧
      (handleRequest sim s (p.body id)).2.id = jsonGetInt (p.body id) .id (-1) := by
  have hop : ReqOp.ofName (jsonGetStr (p.body id) .op 32) = some p.op := by
    rw [jsonGetStr_body, ReqOp.ofName_name]
  rw [handleRequest, hop]
  cases hdata : p.op.returnsData <;> simp [Response.isOk, hdata]

/-! ## One call -/

theorem Exchange.Paired.fits {e : Exchange} {b : Bridge σ} {p : Payload} (he : e = (transact sim b p).2)
    (h : e.Paired) : e.Fits := by
  subst he
  have hhandled := h.handled
  rw [transact_handled, transact_payload, transact_id] at hhandled
  rw [Exchange.Fits, Exchange.line, transact_payload, transact_id]
  exact (recvLines_eq_singleton_iff (newline_not_mem_body _ _)).mp hhandled

/-- With nothing left over from earlier calls, a line that fits is answered by what the client takes. -/
theorem transact_of_fits {b : Bridge σ} (hb : b.pending = []) {p : Payload}
    (hfits : (transact sim b p).2.Fits) :
    (transact sim b p).1.pending = [] ∧
      (transact sim b p).2.received = some (handleRequest sim b.state (p.body (b.idCounter + 1))).2 ∧
      (transact sim b p).2.Paired := by
  let line := p.body (b.idCounter + 1)
  have hrecv : recvLines (line ++ [newline]) = [line] :=
    (recvLines_eq_singleton_iff (newline_not_mem_body _ _)).mpr hfits
  have hserve : (serve sim b.state (line ++ [newline])).2 = [(handleRequest sim b.state line).2] := by
    rw [serve, hrecv]
    rfl
  have hone := count_newline_line (handleRequest_body sim b.state p (b.idCounter + 1)).1
  refine ⟨?_, ?_, hrecv, ?_, ?_⟩
  · change (b.pending ++ (serve sim b.state (line ++ [newline])).2).tail = []
    rw [hb, hserve]
    rfl
  · change (b.pending ++ (serve sim b.state (line ++ [newline])).2).head? = _
    rw [hb, hserve]
    rfl
  · change ((serve sim b.state (line ++ [newline])).2.flatMap Response.line).count newline = 1
    rw [hserve, List.flatMap_singleton]
    exact hone
  · change (serve sim b.state (line ++ [newline])).2 =
      (b.pending ++ (serve sim b.state (line ++ [newline])).2).head?.toList
    rw [hb, hserve]
    rfl

/-- An id within the range of `long long` is its own conversion, and only such an id. -/
theorem clampLongLong_eq_iff (id : Nat) : clampLongLong id = id ↔ id < 2 ^ 63 := by
  unfold clampLongLong
  omega

/-- A call that is paired returns exactly if the server found the id. -/
theorem accepted_iff {b : Bridge σ} (hb : b.pending = []) {p : Payload} (hkeys : ∀ f ∈ p.args, f.1 ≠ .id)
    (hfits : (transact sim b p).2.Fits) :
    (transact sim b p).2.accepted = true ↔ ¬p.masksId ∧ b.idCounter + 1 < 2 ^ 63 := by
  obtain ⟨hok, hid⟩ := handleRequest_body sim b.state p (b.idCounter + 1)
  have hreceived := (transact_of_fits sim hb hfits).2.1
  have hexchange : (transact sim b p).2.id = b.idCounter + 1 := rfl
  rw [Exchange.accepted, hreceived]
  dsimp only
  rw [hok, hid, hexchange, Bool.and_true, beq_iff_eq, jsonGetInt_body hkeys]
  by_cases hm : p.masksId
  · rw [if_pos hm]
    refine iff_of_false ?_ (fun h => h.1 hm)
    omega
  · rw [if_neg hm, clampLongLong_eq_iff]
    exact ⟨fun h => ⟨hm, h⟩, fun h => h.2⟩

/-! ## Sessions -/

theorem payloads_keys {op : Operation} {p : Payload} (hp : p ∈ op.payloads) : ∀ f ∈ p.args, f.1 ≠ .id := by
  have hlog : ∀ verbosity chunk, ∀ f ∈ (logPayload verbosity chunk).args, f.1 ≠ .id := by
    intro verbosity chunk f hf
    simp only [logPayload, List.mem_cons, List.not_mem_nil, or_false] at hf
    rcases hf with rfl | rfl <;> exact JsonKey.noConfusion
  cases op with
  | emitLog text verbosity =>
    obtain ⟨chunk, _, rfl⟩ := List.mem_map.mp hp
    exact hlog verbosity chunk
  | jtagScan ir drLen data pause =>
    rw [Operation.payloads] at hp
    split_ifs at hp
    · rw [List.mem_singleton.mp hp]; simp
    · exact absurd hp List.not_mem_nil
  | tmsWalk tms =>
    rw [Operation.payloads] at hp
    split_ifs at hp
    · rw [List.mem_singleton.mp hp]; simp
    · exact absurd hp List.not_mem_nil
  | _ => rw [List.mem_singleton.mp hp]; simp

/-- The calls of an operation are calls, in one state of the bridge or another. -/
theorem mem_emitLines {e : Exchange} {ps : List Payload} :
    ∀ {b : Bridge σ}, e ∈ (emitLines sim b ps).2 → ∃ b' p, e = (transact sim b' p).2 := by
  induction ps with
  | nil => intro b he; exact absurd he List.not_mem_nil
  | cons p ps ih =>
    intro b he
    rw [emitLines] at he
    dsimp only at he
    split_ifs at he
    · rcases List.mem_cons.mp he with rfl | hrest
      · exact ⟨b, p, rfl⟩
      · exact ih hrest
    · rw [List.mem_singleton.mp he]
      exact ⟨b, p, rfl⟩

theorem mem_session {e : Exchange} {ops : List Operation} :
    ∀ {b : Bridge σ}, e ∈ session sim b ops → ∃ b' p, e = (transact sim b' p).2 := by
  induction ops with
  | nil => intro b he; exact absurd he List.not_mem_nil
  | cons op ops ih =>
    intro b he
    rcases List.mem_append.mp he with hfirst | hrest
    · exact mem_emitLines sim hfirst
    · exact ih hrest

/-- If all its lines fit, an operation leaves nothing behind and finds nothing left before any of its
calls. -/
theorem emitLines_of_fits {ps : List Payload} : ∀ {b : Bridge σ}, b.pending = [] →
    (∀ e ∈ (emitLines sim b ps).2, e.Fits) →
    (emitLines sim b ps).1.pending = [] ∧
      ∀ e ∈ (emitLines sim b ps).2, ∃ b', b'.pending = [] ∧ ∃ p ∈ ps, e = (transact sim b' p).2 := by
  induction ps with
  | nil => intro b hb _; exact ⟨hb, fun e he => absurd he List.not_mem_nil⟩
  | cons p ps ih =>
    intro b hb hfits
    rw [emitLines] at hfits ⊢
    dsimp only at hfits ⊢
    split_ifs with hacc
    · rw [if_pos hacc] at hfits
      have hfirst := (transact_of_fits sim hb (hfits _ List.mem_cons_self)).1
      obtain ⟨hend, hrest⟩ := ih hfirst (fun e he => hfits e (List.mem_cons_of_mem _ he))
      refine ⟨hend, ?_⟩
      intro e he
      rcases List.mem_cons.mp he with rfl | htail
      · exact ⟨b, hb, p, List.mem_cons_self, rfl⟩
      · obtain ⟨b', hb', p', hp', heq⟩ := hrest e htail
        exact ⟨b', hb', p', List.mem_cons_of_mem p hp', heq⟩
    · rw [if_neg hacc] at hfits
      refine ⟨(transact_of_fits sim hb (hfits _ (List.mem_singleton_self _))).1, ?_⟩
      intro e he
      rw [List.mem_singleton.mp he]
      exact ⟨b, hb, p, List.mem_cons_self, rfl⟩

theorem session_of_fits {ops : List Operation} : ∀ {b : Bridge σ}, b.pending = [] →
    (∀ e ∈ session sim b ops, e.Fits) → ∀ e ∈ session sim b ops,
      ∃ b', b'.pending = [] ∧ ∃ p, (∀ f ∈ p.args, f.1 ≠ .id) ∧ e = (transact sim b' p).2 := by
  induction ops with
  | nil => intro b _ _ e he; exact absurd he List.not_mem_nil
  | cons op ops ih =>
    intro b hb hfits e he
    obtain ⟨hend, hfirst⟩ := emitLines_of_fits sim hb (fun e he => hfits e (List.mem_append_left _ he))
    rcases List.mem_append.mp he with hhead | hrest
    · obtain ⟨b', hb', p, hp, heq⟩ := hfirst e hhead
      exact ⟨b', hb', p, payloads_keys hp, heq⟩
    · exact ih hend (fun e he => hfits e (List.mem_append_right _ he)) e hrest

/-! ## Sessions in which every call returns -/

/-- The request of a call and its id. -/
def Exchange.numbered (e : Exchange) : Payload × Nat := (e.payload, e.id)

theorem transact_of_clear {b : Bridge σ} (hb : b.pending = []) {p : Payload}
    (hkeys : ∀ f ∈ p.args, f.1 ≠ .id) (hclear : p.Clear (b.idCounter + 1)) :
    (transact sim b p).1.pending = [] ∧ (transact sim b p).2.Paired ∧
      (transact sim b p).2.accepted = true := by
  have hfits : (transact sim b p).2.Fits := by
    rw [Exchange.Fits, Exchange.line, List.length_append, List.length_singleton]
    exact hclear.fits
  obtain ⟨hend, _, hpaired⟩ := transact_of_fits sim hb hfits
  exact ⟨hend, hpaired, (accepted_iff sim hb hkeys hfits).mpr ⟨hclear.unmasked, hclear.range⟩⟩

theorem emitLines_of_clear {ps : List Payload} (hkeys : ∀ p ∈ ps, ∀ f ∈ p.args, f.1 ≠ .id) :
    ∀ {b : Bridge σ}, b.pending = [] → (∀ r ∈ ps.zipIdx (b.idCounter + 1), r.1.Clear r.2) →
    (emitLines sim b ps).1.pending = [] ∧ (emitLines sim b ps).1.idCounter = b.idCounter + ps.length ∧
      ∀ e ∈ (emitLines sim b ps).2, e.Paired ∧ e.accepted = true := by
  induction ps with
  | nil => intro b hb _; exact ⟨hb, rfl, fun e he => absurd he List.not_mem_nil⟩
  | cons p ps ih =>
    intro b hb hclear
    rw [List.zipIdx_cons] at hclear
    obtain ⟨hend, hpaired, hacc⟩ :=
      transact_of_clear sim hb (hkeys p List.mem_cons_self) (hclear _ List.mem_cons_self)
    obtain ⟨hpend, hcount, hrest⟩ := ih (fun q hq => hkeys q (List.mem_cons_of_mem p hq)) hend
      (fun r hr => hclear r (List.mem_cons_of_mem _ hr))
    rw [emitLines]
    dsimp only
    rw [if_pos hacc]
    refine ⟨hpend, ?_, ?_⟩
    · rw [hcount, List.length_cons]
      change b.idCounter + 1 + ps.length = _
      omega
    · intro e he
      rcases List.mem_cons.mp he with rfl | htail
      · exact ⟨hpaired, hacc⟩
      · exact hrest e htail

theorem session_of_clear {ops : List Operation} : ∀ {b : Bridge σ}, b.pending = [] →
    (∀ r ∈ (ops.flatMap Operation.payloads).zipIdx (b.idCounter + 1), r.1.Clear r.2) →
    ∀ e ∈ session sim b ops, e.Paired ∧ e.accepted = true := by
  induction ops with
  | nil => intro b _ _ e he; exact absurd he List.not_mem_nil
  | cons op ops ih =>
    intro b hb hclear e he
    rw [List.flatMap_cons, List.zipIdx_append] at hclear
    obtain ⟨hpend, hcount, hfirst⟩ := emitLines_of_clear sim (fun p hp => payloads_keys hp) hb
      (fun r hr => hclear r (List.mem_append_left _ hr))
    rcases List.mem_append.mp he with hhead | hrest
    · exact hfirst e hhead
    · refine ih hpend ?_ e hrest
      intro r hr
      change r ∈ List.zipIdx _ ((emitLines sim b op.payloads).1.idCounter + 1) at hr
      rw [hcount] at hr
      refine hclear r (List.mem_append_right _ ?_)
      rwa [show b.idCounter + 1 + op.payloads.length = b.idCounter + op.payloads.length + 1 by omega]

/-- A session in which no call raises carries out every request. -/
theorem emitLines_numbered {ps : List Payload} : ∀ {b : Bridge σ},
    (∀ e ∈ (emitLines sim b ps).2, e.accepted = true) →
    (emitLines sim b ps).2.map Exchange.numbered = ps.zipIdx (b.idCounter + 1) ∧
      (emitLines sim b ps).1.idCounter = b.idCounter + ps.length := by
  induction ps with
  | nil => intro b _; exact ⟨rfl, rfl⟩
  | cons p ps ih =>
    intro b hall
    rw [emitLines] at hall ⊢
    dsimp only at hall ⊢
    have hacc : (transact sim b p).2.accepted = true := by
      by_contra hno
      rw [if_neg hno] at hall
      exact hno (hall _ (List.mem_singleton_self _))
    rw [if_pos hacc] at hall ⊢
    obtain ⟨hnum, hcount⟩ := ih (fun e he => hall e (List.mem_cons_of_mem _ he))
    refine ⟨?_, ?_⟩
    · rw [List.map_cons, hnum, List.zipIdx_cons]
      rfl
    · rw [hcount, List.length_cons]
      change b.idCounter + 1 + ps.length = _
      omega

theorem session_numbered {ops : List Operation} : ∀ {b : Bridge σ},
    (∀ e ∈ session sim b ops, e.accepted = true) →
    (session sim b ops).map Exchange.numbered =
      (ops.flatMap Operation.payloads).zipIdx (b.idCounter + 1) := by
  induction ops with
  | nil => intro b _; rfl
  | cons op ops ih =>
    intro b hall
    obtain ⟨hnum, hcount⟩ := emitLines_numbered sim (fun e he => hall e (List.mem_append_left _ he))
    have hrest := ih (fun e he => hall e (List.mem_append_right _ he))
    change ((emitLines sim b op.payloads).2 ++ session sim (emitLines sim b op.payloads).1 ops).map _ = _
    rw [List.map_append, hnum]
    refine (congrArg _ hrest).trans ?_
    rw [hcount, List.flatMap_cons, List.zipIdx_append,
      show b.idCounter + 1 + op.payloads.length = b.idCounter + op.payloads.length + 1 by omega]

/-- **Pairing.**  Every call gets the one response to its one request exactly if every line the client
sends fits into the server's buffer.  Every call also returns it, the id being the one it sent, exactly
if every request is clear. -/
theorem request_response_paired_iff (s : σ) (ops : List Operation) :
    ((∀ e ∈ session sim (.connected s) ops, e.Paired) ↔ ∀ e ∈ session sim (.connected s) ops, e.Fits) ∧
    ((∀ e ∈ session sim (.connected s) ops, e.Paired ∧ e.accepted = true) ↔
      ∀ r ∈ requests ops, r.1.Clear r.2) := by
  refine ⟨⟨?_, ?_⟩, ⟨?_, ?_⟩⟩
  · intro hall e he
    obtain ⟨b, p, heq⟩ := mem_session sim he
    exact (hall e he).fits sim heq
  · intro hfits e he
    obtain ⟨b, hb, p, _, rfl⟩ := session_of_fits sim rfl hfits e he
    exact (transact_of_fits sim hb (hfits _ he)).2.2
  · intro hall r hr
    have hfits : ∀ e ∈ session sim (.connected s) ops, e.Fits := by
      intro e he
      obtain ⟨b, p, heq⟩ := mem_session sim he
      exact (hall e he).1.fits sim heq
    have hnum := session_numbered sim (fun e he => (hall e he).2)
    rw [requests, show (1 : Nat) = (Bridge.connected s).idCounter + 1 from rfl, ← hnum] at hr
    obtain ⟨e, he, rfl⟩ := List.mem_map.mp hr
    obtain ⟨b, hb, p, hkeys, rfl⟩ := session_of_fits sim rfl hfits e he
    obtain ⟨hmask, hrange⟩ := (accepted_iff sim hb hkeys (hfits _ he)).mp (hall _ he).2
    have hlen := hfits _ he
    rw [Exchange.Fits, Exchange.line, List.length_append, List.length_singleton] at hlen
    exact ⟨hlen, hmask, hrange⟩
  · intro hclear
    exact session_of_clear sim rfl hclear

end

/-- A text of a thousand letters: the server finds two requests in the line and answers both, and the
`read` that follows is given the second answer, an error with the id of the line before. -/
theorem long_log_line_shifts_responses :
    let sim : Simulator Unit := ⟨fun _ _ => ((), 0x382, 0)⟩
    let es := session sim (.connected ()) [.emitLog (List.replicate 1000 0x61) 200, .read 0x11]
    ¬(∀ e ∈ es, e.Paired) ∧
      es.map (fun e => (e.handled.length, e.answers.map Response.id, e.received.map Response.id)) =
        [(2, [-1, 1], some (-1)), (1, [2], some 1)] := by
  intro sim es
  have hseen : es.map (fun e => (e.handled.length, e.answers.map Response.id, e.received.map Response.id)) =
      [(2, [-1, 1], some (-1)), (1, [2], some 1)] := by
    decide +kernel
  clear_value es
  refine ⟨?_, hseen⟩
  intro hall
  have hfirst : (2, [-1, 1], some (-1)) ∈
      es.map (fun e => (e.handled.length, e.answers.map Response.id, e.received.map Response.id)) := by
    rw [hseen]
    exact List.mem_cons_self
  obtain ⟨e, he, heq⟩ := List.mem_map.mp hfirst
  have hlen : e.handled.length = 2 := congrArg Prod.fst heq
  rw [(hall e he).handled, List.length_singleton] at hlen
  omega

end RiscvDbg
