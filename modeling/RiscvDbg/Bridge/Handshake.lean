import RiscvDbg.Bridge.Arguments
import RiscvDbg.Lib.Runs

/-!
# The handshake of the bridge

The client, the server thread and the polling loop of the simulator as three parties that take their steps
in any order: the requests of the client go through the socket to `handle_request`, from there through the
single slot of `dpi_bridge_get_req` to `serve` (`py_bridge.sv`), and the answers go back through
`dpi_bridge_put_rsp_x` and the socket.

* `Operation.result` — what the operation makes of its response; `Operation.outcome` — what it is to return
  for what the simulator put.
* `Link` — the three parties and what is on the way between them; the last three fields record what the
  simulator took, what it put for it, and what the calls returned.
* `Link.step` — one step; a party that has nothing to do is left as it is.
* `Reached` — the six stages of a call.
* `bridge_fields_survive` — **in every interleaving the simulator takes each operation once, in order and
  with its arguments, and each call returns what was put for it.**
-/

set_option autoImplicit false

namespace RiscvDbg

/-! ## What a call returns -/

/-- The ways a call ends without a value. -/
inductive Raised where
  | outOfRange
  | idMismatch
  | remoteError
  | noData
  | unknownBits (xmask : BitVec 32)
  deriving DecidableEq, Repr

/-- What a call returns, `none` if it returns nothing. -/
abbrev Returned := Except Raised (Option Nat)

/-- `resp.get("data", 0)`. -/
def Response.data (r : Response) : Nat :=
  match r.status with
  | .okData data _ => data.toNat
  | _ => 0

/-- What an operation makes of the response to its request; `sim_time_s` in nanoseconds. -/
def Operation.result : Operation → Response → Returned
  | .read _, r =>
    match r.status with
    | .okData data xmask => if xmask = 0 then .ok (some data.toNat) else .error (.unknownBits xmask)
    | _ => .error .noData
  | .dtmcs _, r => .ok (some r.data)
  | .dmiScan _ _ _, r => .ok (some (r.data &&& 0x3))
  | .jtagScan _ drLen _ _, r => .ok (some (r.data &&& ((1 <<< drLen.toNat) - 1)))
  | .simTime, r => .ok (some r.data)
  | .write _ _, _ | .reset, _ | .tmsWalk _, _ | .emitLog _ _, _ => .ok none

/-- What an operation raises if `_transact` does: `emit_log` gives up in silence. -/
def Operation.raised : Operation → Raised → Returned
  | .emitLog _ _, _ => .ok none
  | _, e => .error e

/-- The checks of `_transact`. -/
def checkResponse (id : Nat) (r : Response) : Except Raised Response :=
  if r.id ≠ id then .error .idMismatch
  else if r.isOk then .ok r
  else .error .remoteError

/-- What an operation is to return for what the simulator put: the value, masked as the operation
documents, or for a `read` with unknown bits an error. -/
def Operation.outcome : Operation → BitVec 32 × BitVec 32 → Returned
  | .read _, (data, xmask) => if xmask = 0 then .ok (some data.toNat) else .error (.unknownBits xmask)
  | .dtmcs _, (data, _) => .ok (some data.toNat)
  | .dmiScan _ _ _, (data, _) => .ok (some (data.toNat % 2 ^ 2))
  | .jtagScan _ drLen _ _, (data, _) => .ok (some (data.toNat % 2 ^ drLen.toNat))
  | .simTime, (data, _) => .ok (some data.toNat)
  | .write _ _, _ | .reset, _ | .tmsWalk _, _ | .emitLog _ _, _ => .ok none

/-! ## The parties -/

/-- The client, the server thread and the simulator. -/
structure Link where
  /-- The operations still to be called. -/
  ops : List Operation
  idCounter : Nat
  /-- The call that waits for its response: its id, and the requests it has still to make. -/
  client : Option (Operation × Nat × List Payload)
  /-- What the server has not read. -/
  requests : List (List Char)
  /-- The request `handle_request` waits with: its id and operation. -/
  server : Option (Int × ReqOp)
  /-- `g_req_op`, `g_req_addr` and `g_req_data`, if `g_req_valid`. -/
  req : Option Request
  /-- `g_rsp_data` and `g_rsp_xmask`, if `g_rsp_valid`. -/
  rsp : Option (BitVec 32 × BitVec 32)
  /-- The request whose sequence runs. -/
  serving : Option Request
  /-- What the client has not read. -/
  responses : List Response
  taken : List Request
  puts : List (Request × (BitVec 32 × BitVec 32))
  returned : List Returned
  deriving DecidableEq

/-- The steps: of the client, of the server thread at either end of its wait, and of the simulator, whose
sequence ends with a value and the mask of its unknown bits. -/
inductive Action where
  | call
  | receive
  | poll
  | put (data xmask : BitVec 32)
  | wake
  | reply
  deriving DecidableEq, Repr

/-- Before the first call. -/
def Link.connected (ops : List Operation) : Link :=
  ⟨ops, 0, none, [], none, none, none, none, [], [], [], []⟩

/-- The first half of `_transact`. -/
def Link.send (s : Link) (op : Operation) (p : Payload) (rest : List Payload) : Link :=
  let id := s.idCounter + 1
  { s with
    idCounter := id
    client := some (op, id, rest)
    requests := s.requests ++ recvLines (p.body id ++ [newline]) }

/-- What `serve` passes to `dpi_bridge_put_rsp_x` or `dpi_bridge_put_rsp` when a sequence has ended. -/
def ReqOp.put (op : ReqOp) (data xmask : BitVec 32) : BitVec 32 × BitVec 32 :=
  match op with
  | .read => (data, xmask)
  | .dtmcs | .dmiScan | .jtagScan | .simTime => (data, 0)
  | .write | .reset | .shutdown | .log | .tmsWalk => (0, 0)

/-- One step. -/
def Link.step (s : Link) : Action → Link
  | .call =>
    match s.client, s.ops with
    | none, op :: ops =>
      match op.payloads with
      | [] => { s with ops := ops, returned := s.returned ++ [.error .outOfRange] }
      | p :: rest => { s with ops := ops }.send op p rest
    | _, _ => s
  | .receive =>
    match s.server, s.requests with
    | none, line :: lines =>
      let id := jsonGetInt line .id (-1)
      let name := jsonGetStr line .op 32
      match ReqOp.ofName name with
      | some op => { s with requests := lines, server := some (id, op), req := some (request line op), rsp := none }
      | none => { s with requests := lines, responses := s.responses ++ [⟨id, .err name⟩] }
    | _, _ => s
  | .poll =>
    match s.serving, s.req with
    | none, some r => { s with req := none, serving := some r, taken := s.taken ++ [r] }
    | _, _ => s
  | .put data xmask =>
    match s.serving with
    | some r =>
      let answer := r.op.put data xmask
      { s with serving := none, rsp := some answer, puts := s.puts ++ [(r, answer)] }
    | none => s
  | .wake =>
    match s.server, s.rsp with
    | some (id, op), some (data, xmask) =>
      let status := if op.returnsData then .okData data xmask else .ok
      { s with server := none, responses := s.responses ++ [⟨id, status⟩] }
    | _, _ => s
  | .reply =>
    match s.client, s.responses with
    | some (op, id, rest), r :: rs =>
      match checkResponse id r, rest with
      | .error e, _ => { s with client := none, responses := rs, returned := s.returned ++ [op.raised e] }
      | .ok r, [] => { s with client := none, responses := rs, returned := s.returned ++ [op.result r] }
      | .ok _, p :: rest => { s with responses := rs }.send op p rest
    | _, _ => s

/-- All calls have returned. -/
def Link.Finished (s : Link) : Prop := s.ops = [] ∧ s.client = none

/-! ## One call -/

/-- A call gets its value from the response. -/
theorem result_of_status {op : Operation} (hb : op.Bridged) {p : Payload} (hp : op.payloads = [p]) (n : Int)
    (a : BitVec 32 × BitVec 32) :
    op.result ⟨n, if p.op.returnsData then .okData a.1 a.2 else .ok⟩ = op.outcome a := by
  have hmask : ∀ n k : Nat, n &&& ((1 <<< k) - 1) = n % 2 ^ k := by
    intro n k
    rw [Nat.shiftLeft_eq, Nat.one_mul, Nat.and_two_pow_sub_one_eq_mod]
  cases op with
  | jtagScan ir drLen data pause =>
    rw [Operation.payloads, if_pos hb.2.1] at hp
    rw [← List.singleton_inj.mp hp]
    exact congrArg (fun n => Except.ok (some n)) (hmask a.1.toNat drLen.toNat)
  | dmiScan op addr data =>
    rw [← List.singleton_inj.mp hp]
    exact congrArg (fun n => Except.ok (some n)) (hmask a.1.toNat 2)
  | tmsWalk tms => rfl
  | emitLog text verbosity => exact absurd hb id
  | _ =>
    rw [← List.singleton_inj.mp hp]
    rfl

/-- A request finds its response. -/
theorem checkResponse_self (id : Nat) (returnsData : Bool) (a : BitVec 32 × BitVec 32) :
    checkResponse id ⟨id, if returnsData then .okData a.1 a.2 else .ok⟩ =
      .ok ⟨id, if returnsData then .okData a.1 a.2 else .ok⟩ := by
  cases returnsData <;> simp [checkResponse, Response.isOk]

/-! ## The stages of a call -/

/-- What has been taken, put and returned for the operations that are done. -/
structure History (done : List Operation) (taken : List Request) (puts : List (Request × (BitVec 32 × BitVec 32)))
    (returned : List Returned) : Prop where
  commands : taken.map (fun r => some (unpack r)) = done.map Operation.command
  answered : puts.map Prod.fst = taken
  outcomes : returned = List.zipWith Operation.outcome done (puts.map Prod.snd)

theorem History.nil : History [] [] [] [] := ⟨rfl, rfl, rfl⟩

section
variable {done : List Operation} {taken : List Request} {puts : List (Request × (BitVec 32 × BitVec 32))}
  {returned : List Returned} (h : History done taken puts returned)
include h

theorem History.length_taken : taken.length = done.length := by
  have hlen := congrArg List.length h.commands
  rwa [List.length_map, List.length_map] at hlen

theorem History.length_puts : done.length = (puts.map Prod.snd).length := by
  rw [← h.length_taken, ← h.answered, List.length_map, List.length_map]

theorem History.length_returned : returned.length = done.length := by
  rw [h.outcomes, List.length_zipWith, ← h.length_puts, Nat.min_self]

theorem History.snoc {op : Operation} {r : Request} (hr : some (unpack r) = op.command) (a : BitVec 32 × BitVec 32) :
    History (done ++ [op]) (taken ++ [r]) (puts ++ [(r, a)]) (returned ++ [op.outcome a]) := by
  refine ⟨?_, ?_, ?_⟩
  · rw [List.map_append, List.map_append, h.commands, List.map_singleton, List.map_singleton, hr]
  · rw [List.map_append, h.answered, List.map_singleton]
  · rw [List.map_append, List.zipWith_append h.length_puts, ← h.outcomes, List.map_singleton]
    rfl

end

/-- The stages of a session: the operations `done` are over, those in `rest` have not been called, and
between them there may be one that is under way. -/
inductive Reached (ops : List Operation) : Link → Prop where
  | ready {done rest taken puts returned rsp} (hops : ops = done ++ rest) (h : History done taken puts returned) :
    Reached ops ⟨rest, done.length, none, [], none, none, rsp, none, [], taken, puts, returned⟩
  | sent {done op rest p taken puts returned rsp} (hops : ops = done ++ op :: rest) (hp : op.payloads = [p])
    (h : History done taken puts returned) :
    Reached ops ⟨rest, done.length + 1, some (op, done.length + 1, []), [p.body (done.length + 1)], none, none, rsp,
      none, [], taken, puts, returned⟩
  | posted {done op rest p taken puts returned} (hops : ops = done ++ op :: rest) (hp : op.payloads = [p])
    (h : History done taken puts returned) :
    Reached ops ⟨rest, done.length + 1, some (op, done.length + 1, []), [], some ((done.length + 1 : Nat), p.op),
      some (request (p.body (done.length + 1)) p.op), none, none, [], taken, puts, returned⟩
  | serving {done op rest p taken puts returned} (hops : ops = done ++ op :: rest) (hp : op.payloads = [p])
    (h : History done taken puts returned) :
    Reached ops ⟨rest, done.length + 1, some (op, done.length + 1, []), [], some ((done.length + 1 : Nat), p.op), none,
      none, some (request (p.body (done.length + 1)) p.op), [], taken ++ [request (p.body (done.length + 1)) p.op], puts,
      returned⟩
  | answered {done op rest p taken puts returned a} (hops : ops = done ++ op :: rest) (hp : op.payloads = [p])
    (h : History done taken puts returned) :
    Reached ops ⟨rest, done.length + 1, some (op, done.length + 1, []), [], some ((done.length + 1 : Nat), p.op), none,
      some a, none, [], taken ++ [request (p.body (done.length + 1)) p.op],
      puts ++ [(request (p.body (done.length + 1)) p.op, a)], returned⟩
  | responded {done op rest p taken puts returned a} (hops : ops = done ++ op :: rest) (hp : op.payloads = [p])
    (h : History done taken puts returned) :
    Reached ops ⟨rest, done.length + 1, some (op, done.length + 1, []), [], none, none, some a, none,
      [⟨(done.length + 1 : Nat), if p.op.returnsData then .okData a.1 a.2 else .ok⟩],
      taken ++ [request (p.body (done.length + 1)) p.op], puts ++ [(request (p.body (done.length + 1)) p.op, a)],
      returned⟩

/-- What the bridge promises of every state of a session: the simulator has taken the operations from the
first on, each once and with its arguments, what it put are answers to what it took, what the calls returned
are the outcomes of these, and there is no operation left out when all calls have returned. -/
structure Link.Delivers (ops : List Operation) (s : Link) : Prop where
  taken : s.taken.map (fun r => some (unpack r)) <+: ops.map Operation.command
  puts : s.puts.map Prod.fst <+: s.taken
  returned : s.returned <+: List.zipWith Operation.outcome ops (s.puts.map Prod.snd)
  oneAtATime : s.taken.length ≤ s.returned.length + 1
  complete : s.Finished → s.taken.length = ops.length ∧ s.returned.length = ops.length

/-- The history of the operations that are done, what has been taken and put for the one that is not, and
the operations that follow make up a state that delivers. -/
theorem History.delivers {ops done tl : List Operation} {taken more : List Request}
    {puts answers : List (Request × (BitVec 32 × BitVec 32))} {returned : List Returned}
    (h : History done taken puts returned) (hops : ops = done ++ tl) {s : Link} (ht : s.taken = taken ++ more)
    (hp : s.puts = puts ++ answers) (hr : s.returned = returned)
    (hmore : more.map (fun r => some (unpack r)) <+: tl.map Operation.command)
    (hanswers : answers.map Prod.fst <+: more) (hone : more.length ≤ 1) (hend : s.Finished → tl = []) :
    s.Delivers ops := by
  refine ⟨?_, ?_, ?_, ?_, ?_⟩
  · rw [ht, hops, List.map_append, List.map_append, h.commands]
    exact (List.prefix_append_right_inj _).mpr hmore
  · rw [ht, hp, List.map_append, h.answered]
    exact (List.prefix_append_right_inj _).mpr hanswers
  · rw [hr, hp, hops, List.map_append, List.zipWith_append h.length_puts, ← h.outcomes]
    exact List.prefix_append _ _
  · rw [ht, hr, List.length_append, h.length_taken, h.length_returned]
    omega
  · intro hfin
    obtain rfl := hend hfin
    obtain rfl : more = [] := by simpa using hmore.length_le
    rw [ht, hr, hops, List.append_nil, List.append_nil]
    exact ⟨h.length_taken, h.length_returned⟩

/-- What is left to be done. -/
def Link.rank (s : Link) : Nat :=
  6 * s.ops.length + 5 * s.requests.length + 4 * s.req.toList.length + 3 * s.serving.toList.length +
    2 * (if s.server.isSome && s.rsp.isSome then 1 else 0) + s.responses.length

section
variable {ops done rest : List Operation} {op : Operation} {p : Payload} {taken : List Request}
  {puts : List (Request × (BitVec 32 × BitVec 32))} {returned : List Returned}

/-- The client sends the line of an operation, which the server will read as one. -/
theorem step_call {n : Nat} (hp : op.payloads = [p]) (hclear : p.Clear (n + 1)) (rsp : Option (BitVec 32 × BitVec 32)) :
    Link.step ⟨op :: rest, n, none, [], none, none, rsp, none, [], taken, puts, returned⟩ .call =
      ⟨rest, n + 1, some (op, n + 1, []), [p.body (n + 1)], none, none, rsp, none, [], taken, puts, returned⟩ := by
  have hline : recvLines (p.body (n + 1) ++ [newline]) = [p.body (n + 1)] := by
    refine (recvLines_eq_singleton_iff (newline_not_mem_body p _)).mpr ?_
    rw [List.length_append, List.length_singleton]
    exact hclear.fits
  simp [Link.step, hp, Link.send, hline]

/-- The server finds the operation and the id in the line, and posts the request. -/
theorem step_receive {n id : Nat} (hp : p.Numeric) (hclear : p.Clear id) (client : Option (Operation × Nat × List Payload))
    (rsp : Option (BitVec 32 × BitVec 32)) :
    Link.step ⟨rest, n, client, [p.body id], none, none, rsp, none, [], taken, puts, returned⟩ .receive =
      ⟨rest, n, client, [], some (id, p.op), some (request (p.body id) p.op), none, none, [], taken, puts, returned⟩ := by
  have hop : ReqOp.ofName (jsonGetStr (p.body id) .op 32) = some p.op := by
    rw [jsonGetStr_body, ReqOp.ofName_name]
  have hid : jsonGetInt (p.body id) .id (-1) = id := by
    rw [jsonGetInt_body fun f hf => (hp.numbers f hf).1, if_neg hclear.unmasked]
    exact (clampLongLong_eq_iff id).mpr hclear.range
  simp [Link.step, hop, hid]

/-- The client takes the response to its request. -/
theorem step_reply {n id : Nat} (hb : op.Bridged) (hp : op.payloads = [p]) (a : BitVec 32 × BitVec 32)
    (rsp : Option (BitVec 32 × BitVec 32)) :
    Link.step ⟨rest, n, some (op, id, []), [], none, none, rsp, none,
        [⟨id, if p.op.returnsData then .okData a.1 a.2 else .ok⟩], taken, puts, returned⟩ .reply =
      ⟨rest, n, none, [], none, none, rsp, none, [], taken, puts, returned ++ [op.outcome a]⟩ := by
  simp [Link.step, checkResponse_self, result_of_status hb hp]

variable (hops : ∀ op ∈ ops, op.Bridged ∧ op.Survives) (hlen : ops.length < 2 ^ 63)
include hops hlen

/-- An operation of the session, its request and what becomes of it. -/
theorem clear_of_ops (heq : ops = done ++ op :: rest) (hp : op.payloads = [p]) :
    op.Bridged ∧ p.Numeric ∧ p.Clear (done.length + 1) ∧
      some (unpack (request (p.body (done.length + 1)) p.op)) = op.command := by
  obtain ⟨hb, hs⟩ := hops op (by rw [heq]; simp)
  obtain ⟨q, hq, hcommand⟩ := unpack_request hb hs
  obtain rfl : q = p := List.singleton_inj.mp (hq.symm.trans hp)
  have hnumeric := payloads_numeric hb q (by rw [hp]; exact List.mem_singleton_self q)
  refine ⟨hb, hnumeric, hnumeric.clear ?_, hcommand _⟩
  rw [heq, List.length_append, List.length_cons] at hlen
  omega

/-- **A step** goes on to the next stage or does nothing. -/
theorem Reached.step {s : Link} (hs : Reached ops s) (a : Action) :
    Reached ops (s.step a) ∧ ((s.step a).rank < s.rank ∨ s.step a = s) := by
  cases hs with
  | @ready done rest taken puts returned rsp heq h =>
    cases a with
    | call =>
      cases rest with
      | nil => exact ⟨.ready heq h, Or.inr rfl⟩
      | cons op rest =>
        obtain ⟨hb, hs⟩ := hops op (by rw [heq]; simp)
        obtain ⟨p, hp, _⟩ := unpack_request hb hs
        obtain ⟨_, _, hclear, _⟩ := clear_of_ops hops hlen heq hp
        rw [step_call hp hclear]
        refine ⟨.sent heq hp h, Or.inl ?_⟩
        simp [Link.rank]
        omega
    | _ => exact ⟨.ready heq h, Or.inr rfl⟩
  | @sent done op rest p taken puts returned rsp heq hp h =>
    cases a with
    | receive =>
      obtain ⟨_, hnumeric, hclear, _⟩ := clear_of_ops hops hlen heq hp
      rw [step_receive hnumeric hclear]
      exact ⟨.posted heq hp h, Or.inl (by simp [Link.rank])⟩
    | _ => exact ⟨.sent heq hp h, Or.inr rfl⟩
  | @posted done op rest p taken puts returned heq hp h =>
    cases a with
    | poll => exact ⟨.serving heq hp h, Or.inl (by simp [Link.step, Link.rank])⟩
    | _ => exact ⟨.posted heq hp h, Or.inr rfl⟩
  | @serving done op rest p taken puts returned heq hp h =>
    cases a with
    | put data xmask => exact ⟨.answered heq hp h, Or.inl (by simp [Link.step, Link.rank])⟩
    | _ => exact ⟨.serving heq hp h, Or.inr rfl⟩
  | @answered done op rest p taken puts returned answer heq hp h =>
    cases a with
    | wake => exact ⟨.responded heq hp h, Or.inl (by simp [Link.step, Link.rank])⟩
    | _ => exact ⟨.answered heq hp h, Or.inr rfl⟩
  | @responded done op rest p taken puts returned answer heq hp h =>
    cases a with
    | reply =>
      obtain ⟨hb, _, _, hcommand⟩ := clear_of_ops hops hlen heq hp
      rw [step_reply hb hp]
      have hdone : ops = (done ++ [op]) ++ rest := by rw [heq, List.append_assoc, List.singleton_append]
      have hcount : done.length + 1 = (done ++ [op]).length := by rw [List.length_append, List.length_singleton]
      refine ⟨?_, Or.inl (by simp [Link.rank])⟩
      rw [hcount]
      rw [hcount] at hcommand
      exact .ready hdone (h.snoc hcommand answer)
    | _ => exact ⟨.responded heq hp h, Or.inr rfl⟩

/-- Every stage delivers. -/
theorem Reached.delivers {s : Link} (hs : Reached ops s) : s.Delivers ops := by
  cases hs with
  | ready heq h =>
    exact h.delivers heq (List.append_nil _).symm (List.append_nil _).symm rfl List.nil_prefix List.nil_prefix
      (Nat.zero_le 1) fun hfin => hfin.1
  | sent heq hp h =>
    exact h.delivers heq (List.append_nil _).symm (List.append_nil _).symm rfl List.nil_prefix List.nil_prefix
      (Nat.zero_le 1) fun hfin => absurd hfin.2 (Option.some_ne_none _)
  | posted heq hp h =>
    exact h.delivers heq (List.append_nil _).symm (List.append_nil _).symm rfl List.nil_prefix List.nil_prefix
      (Nat.zero_le 1) fun hfin => absurd hfin.2 (Option.some_ne_none _)
  | serving heq hp h =>
    obtain ⟨_, _, _, hcommand⟩ := clear_of_ops hops hlen heq hp
    exact h.delivers heq rfl (List.append_nil _).symm rfl (by simp [hcommand]) List.nil_prefix
      (Nat.le_refl 1) fun hfin => absurd hfin.2 (Option.some_ne_none _)
  | answered heq hp h =>
    obtain ⟨_, _, _, hcommand⟩ := clear_of_ops hops hlen heq hp
    exact h.delivers heq rfl rfl rfl (by simp [hcommand]) List.prefix_rfl
      (Nat.le_refl 1) fun hfin => absurd hfin.2 (Option.some_ne_none _)
  | responded heq hp h =>
    obtain ⟨_, _, _, hcommand⟩ := clear_of_ops hops hlen heq hp
    exact h.delivers heq rfl rfl rfl (by simp [hcommand]) List.prefix_rfl
      (Nat.le_refl 1) fun hfin => absurd hfin.2 (Option.some_ne_none _)

end

theorem Reached.finished {ops : List Operation} {s : Link} (hs : Reached ops s) (hrank : s.rank = 0) : s.Finished := by
  cases hs with
  | ready =>
    simp [Link.rank] at hrank
    exact ⟨hrank, rfl⟩
  | _ => simp [Link.rank] at hrank

/-! ## Sessions -/

/-- Every party takes a step in the round, and the sequence of the simulator ends in it. -/
structure Fair (round : List Action) : Prop where
  call : .call ∈ round
  receive : .receive ∈ round
  poll : .poll ∈ round
  put : ∃ data xmask, .put data xmask ∈ round
  wake : .wake ∈ round
  reply : .reply ∈ round

section
variable {ops : List Operation} (hops : ∀ op ∈ ops, op.Bridged ∧ op.Survives) (hlen : ops.length < 2 ^ 63)
include hops hlen

/-- Some party can take a step as long as the session is not over. -/
theorem Reached.next {s : Link} (hs : Reached ops s) (hrank : s.rank ≠ 0) {round : List Action} (hfair : Fair round) :
    ∃ a ∈ round, s.step a ≠ s := by
  cases hs with
  | @ready done rest taken puts returned rsp heq h =>
    cases rest with
    | nil => simp [Link.rank] at hrank
    | cons op rest =>
      obtain ⟨hb, hs⟩ := hops op (by rw [heq]; simp)
      obtain ⟨p, hp, _⟩ := unpack_request hb hs
      obtain ⟨_, _, hclear, _⟩ := clear_of_ops hops hlen heq hp
      refine ⟨.call, hfair.call, ?_⟩
      rw [step_call hp hclear]
      simp
  | sent heq hp h =>
    obtain ⟨_, hnumeric, hclear, _⟩ := clear_of_ops hops hlen heq hp
    refine ⟨.receive, hfair.receive, ?_⟩
    rw [step_receive hnumeric hclear]
    simp
  | posted heq hp h => exact ⟨.poll, hfair.poll, by simp [Link.step]⟩
  | serving heq hp h =>
    obtain ⟨data, xmask, hput⟩ := hfair.put
    exact ⟨.put data xmask, hput, by simp [Link.step]⟩
  | answered heq hp h => exact ⟨.wake, hfair.wake, by simp [Link.step]⟩
  | responded heq hp h =>
    obtain ⟨hb, _, _, _⟩ := clear_of_ops hops hlen heq hp
    refine ⟨.reply, hfair.reply, ?_⟩
    rw [step_reply hb hp]
    simp

/-- **The bridge.**  In every interleaving of the client, the server thread and the simulator, the simulator
takes the operations in order, each once and with its arguments masked to their fields, and each call
returns what was put for it; and every interleaving in which each party keeps taking steps comes to the end. -/
theorem bridge_fields_survive :
    (∀ actions, (Runs.run Link.step (.connected ops) actions).Delivers ops) ∧
      ∀ rounds : List (List Action), (∀ round ∈ rounds, Fair round) → 6 * ops.length ≤ rounds.length →
        (Runs.run Link.step (.connected ops) rounds.flatten).Finished := by
  have hinit : Reached ops (.connected ops) := .ready rfl .nil
  refine ⟨fun actions => ?_, fun rounds hrounds hmany => ?_⟩
  · refine Reached.delivers hops hlen ?_
    exact Runs.run_invariant (P := Reached ops) (fun s a h _ => (Reached.step hops hlen h a).1) actions _ hinit
      (Runs.always_true actions _)
  · obtain ⟨hend, hrank⟩ := Runs.run_rounds (fun s a h => (Reached.step hops hlen h a).1)
      (fun s a h => (Reached.step hops hlen h a).2) (fun s round h hne hfair => h.next hops hlen hne hfair)
      rounds _ hinit hrounds
    refine hend.finished ?_
    have hstart : (Link.connected ops).rank = 6 * ops.length := by simp [Link.connected, Link.rank]
    omega

end

/-- A read, a scan and a walk: the simulator is given them, and the second call returns two bits. -/
theorem bridge_fields_survive_scan :
    let ops := [.read 0x111, .dmiScan 6 (-1) 0x1_0000_0005, .jtagScan 0x21 32 (-1) true, .tmsWalk [1, 0, 1]]
    (∀ actions, (Runs.run Link.step (.connected ops) actions).Delivers ops) ∧
      ops.map Operation.command = [some (.dmiRead 0x11), some (.dmiScan 2 0x7F 5),
        some (.jtagScan 1 32 1 0xFFFFFFFF), some (.tmsWalk 3 5)] := by
  intro ops
  have hops : ∀ op ∈ ops, op.Bridged ∧ op.Survives := by decide
  exact ⟨(bridge_fields_survive hops (by decide)).1, by decide⟩

/-- A walk with a large last value: its sum is beyond a `long long`, and the simulator is given the low word of
the end of the range in place of zeros. -/
theorem walk_clamped :
    let ops := [.tmsWalk (List.replicate 31 0 ++ [2 ^ 62])]
    let s := Runs.run Link.step (.connected ops) [.call, .receive, .poll]
    (∀ op ∈ ops, op.Bridged) ∧ s.taken.map unpack = [.tmsWalk 32 0xFFFFFFFF] ∧
      ops.map Operation.command = [some (.tmsWalk 32 0)] ∧ ¬s.Delivers ops := by
  intro ops s
  have htaken : s.taken.map unpack = [.tmsWalk 32 0xFFFFFFFF] := by decide +kernel
  have hcommand : ops.map Operation.command = [some (.tmsWalk 32 0)] := by decide
  refine ⟨by decide, htaken, hcommand, fun hs => ?_⟩
  have hprefix := hs.taken
  have hseen : s.taken.map (fun r => some (unpack r)) = [some (.tmsWalk 32 0xFFFFFFFF)] := by
    have hmap := congrArg (List.map some) htaken
    rwa [List.map_map, List.map_singleton] at hmap
  rw [hseen, hcommand] at hprefix
  exact absurd hprefix (by decide)

end RiscvDbg
