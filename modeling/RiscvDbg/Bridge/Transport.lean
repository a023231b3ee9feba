import RiscvDbg.Bridge.Server

/-!
# The client of the bridge

Model of `UVMTransport` (`api/uvm_transport.py`) and of a session with the server.

* `Operation` — the operations of the transport; `payload?` is the request an operation makes, if its
  arguments are in range, and `emit_log` makes one request for each line of its text.
* `Bridge` — the two ends between two calls of `_transact`: the id counter, the simulator, and the
  response lines the server has written and the client has not read.
* `transact` — one call: the line is sent, the server reads it and answers, and the client takes the
  oldest response there is.
* `Exchange` — what happened in a call.
* `session` — a list of operations.

The client waits for a response before it sends again, and the server reads its stream in order, so
that whether the server has answered everything or only enough for the client makes no difference to
what either of them sees.
-/

set_option autoImplicit false

namespace RiscvDbg

/-! ## Operations and their requests -/

/-- A request before it gets its id. -/
structure Payload where
  op : ReqOp
  args : List (JsonKey × JsonValue)
  deriving DecidableEq, Repr

/-- The operations; `tms` and the numbers are whatever integers the caller has. -/
inductive Operation where
  | read (addr : Int)
  | write (addr data : Int)
  | reset
  | dtmcs (wdata : Int)
  | dmiScan (op addr data : Int)
  | jtagScan (ir drLen data : Int) (pause : Bool)
  | simTime
  | tmsWalk (tms : List Int)
  | emitLog (text : List Nat) (verbosity : Int)
  deriving DecidableEq, Repr

/-- `sum(int(b) << i for i, b in enumerate(tms))`. -/
def tmsBits : List Int → Int
  | [] => 0
  | b :: tms => b + 2 * tmsBits tms

/-- A line of a log. -/
def logPayload (verbosity : Int) (chunk : List Nat) : Payload :=
  ⟨.log, [(.text, .str chunk), (.data, .int verbosity)]⟩

/-- The requests an operation makes, in order.  `jtag_scan` and `tms_walk` make none if they are called
out of range. -/
def Operation.payloads : Operation → List Payload
  | .read addr => [⟨.read, [(.addr, .int addr)]⟩]
  | .write addr data => [⟨.write, [(.addr, .int addr), (.data, .int data)]⟩]
  | .reset => [⟨.reset, []⟩]
  | .dtmcs wdata => [⟨.dtmcs, [(.data, .int (wdata % 2 ^ 32))]⟩]
  | .dmiScan op addr data =>
    [⟨.dmiScan, [(.dmiop, .int (op % 2 ^ 2)), (.addr, .int (addr % 2 ^ 7)), (.data, .int (data % 2 ^ 32))]⟩]
  | .jtagScan ir drLen data pause =>
    if 1 ≤ drLen ∧ drLen ≤ 32 then
      [⟨.jtagScan, [(.ir, .int (ir % 2 ^ 5)), (.drlen, .int drLen), (.pause, .int pause.toNat),
        (.data, .int (data % 2 ^ 32))]⟩]
    else []
  | .simTime => [⟨.simTime, []⟩]
  | .tmsWalk tms =>
    if 1 ≤ tms.length ∧ tms.length ≤ 32 then
      [⟨.tmsWalk, [(.addr, .int tms.length), (.data, .int (tmsBits tms))]⟩]
    else []
  | .emitLog text verbosity =>
    (if splitlines text = [] then [[]] else splitlines text).map (logPayload verbosity)

/-- The object that is sent: the id is the last key to be inserted. -/
def Payload.fields (p : Payload) (id : Nat) : List (JsonKey × JsonValue) :=
  (.op, .str (p.op.name.map Char.toNat)) :: p.args ++ [(.id, .int id)]

/-- The line of a request, without its newline. -/
def Payload.body (p : Payload) (id : Nat) : List Char := dumps (p.fields id)

/-! ## Calls -/

/-- The two ends of the bridge between two calls. -/
structure Bridge (σ : Type) where
  idCounter : Nat
  state : σ
  pending : List Response

/-- One call of `_transact`: the request and the id it was given, the requests the server found in the
line and its answers to them, and the response the client took. -/
structure Exchange where
  payload : Payload
  id : Nat
  handled : List (List Char)
  answers : List Response
  received : Option Response

/-- The line the client sent, with its newline. -/
def Exchange.line (e : Exchange) : List Char := e.payload.body e.id ++ [newline]

/-- What the server wrote while it handled the line. -/
def Exchange.answered (e : Exchange) : List Char := e.answers.flatMap Response.line

/-- Whether `_transact` returns the response instead of raising. -/
def Exchange.accepted (e : Exchange) : Bool :=
  match e.received with
  | none => false
  | some r => r.id == e.id && r.isOk

section
variable {σ : Type} (sim : Simulator σ)

/-- `_transact`. -/
def transact (b : Bridge σ) (p : Payload) : Bridge σ × Exchange :=
  let id := b.idCounter + 1
  let line := p.body id ++ [newline]
  let (s, answers) := serve sim b.state line
  let waiting := b.pending ++ answers
  (⟨id, s, waiting.tail⟩, ⟨p, id, recvLines line, answers, waiting.head?⟩)

@[simp] theorem transact_handled (b : Bridge σ) (p : Payload) :
    (transact sim b p).2.handled = recvLines (p.body (b.idCounter + 1) ++ [newline]) := rfl

@[simp] theorem transact_payload (b : Bridge σ) (p : Payload) : (transact sim b p).2.payload = p := rfl

@[simp] theorem transact_id (b : Bridge σ) (p : Payload) : (transact sim b p).2.id = b.idCounter + 1 := rfl

/-- The loop of `emit_log`, which gives up at the first call that raises. -/
def emitLines (b : Bridge σ) : List Payload → Bridge σ × List Exchange
  | [] => (b, [])
  | p :: ps =>
    let (b, e) := transact sim b p
    if e.accepted then
      let (b, es) := emitLines b ps
      (b, e :: es)
    else (b, [e])

/-- An operation. -/
def perform (b : Bridge σ) (op : Operation) : Bridge σ × List Exchange := emitLines sim b op.payloads

/-- A list of operations; one that raises does not keep the caller from the next. -/
def session (b : Bridge σ) : List Operation → List Exchange
  | [] => []
  | op :: ops =>
    let (b, es) := perform sim b op
    es ++ session b ops

/-- The bridge after `connect`. -/
def Bridge.connected (s : σ) : Bridge σ := ⟨0, s, []⟩

end

end RiscvDbg
