import RiscvDbg.Bridge.Json

/-!
# The bridge server

Model of `handle_request` and of the receive loop of `server_thread` (`c_bridge/uvm_bridge.c`).

* `ReqOp`, `Request` — what is handed to the simulator.
* `Simulator` — the other side of the handshake: it serves each request it is handed once, and answers
  with a value and the mask of its unknown bits.
* `Response`, `Response.line` — a response and the line that is written for it.
* `handleRequest` — one request.
* `recvLines` — what `fgets` makes of the bytes it is sent, with a buffer of `RECV_BUF_SZ`.
* `serve` — the receive loop on a piece of the stream.
-/

set_option autoImplicit false

namespace RiscvDbg

/-! ## Requests and responses -/

/-- The op codes shared with the SystemVerilog side. -/
inductive ReqOp where
  | read
  | write
  | reset
  | shutdown
  | log
  | dtmcs
  | dmiScan
  | jtagScan
  | tmsWalk
  | simTime
  deriving DecidableEq, Repr

/-- The word for an op code in a request. -/
def ReqOp.name : ReqOp → List Char
  | .read => "read".toList
  | .write => "write".toList
  | .reset => "reset".toList
  | .shutdown => "shutdown".toList
  | .log => "log".toList
  | .dtmcs => "dtmcs".toList
  | .dmiScan => "dmi_scan".toList
  | .jtagScan => "jtag_scan".toList
  | .tmsWalk => "tms_walk".toList
  | .simTime => "sim_time".toList

def ReqOp.all : List ReqOp :=
  [.shutdown, .read, .write, .reset, .dtmcs, .dmiScan, .jtagScan, .tmsWalk, .simTime, .log]

/-- The comparisons of `handle_request` with the words it knows. -/
def ReqOp.ofName (name : List Char) : Option ReqOp := ReqOp.all.find? (fun op => op.name == name)

theorem ReqOp.ofName_name (op : ReqOp) : ofName op.name = some op := by
  cases op <;> rfl

/-- `g_req_op`, `g_req_addr`, `g_req_data` and `g_req_text`. -/
structure Request where
  op : ReqOp
  addr : BitVec 32 := 0
  data : BitVec 32 := 0
  text : List Char := []
  deriving DecidableEq, Repr

/-- The simulator: its state, and what serving a request does and answers. -/
structure Simulator (σ : Type) where
  serve : σ → Request → σ × (BitVec 32 × BitVec 32)

/-- What a response says besides the id. -/
inductive Status where
  | ok
  | okData (data xmask : BitVec 32)
  | err (op : List Char)
  deriving DecidableEq, Repr

/-- A response. -/
structure Response where
  id : Int
  status : Status
  deriving DecidableEq, Repr

/-- The part of a response line after the id. -/
def Status.text : Status → List Char
  | .ok => ",\"status\":\"ok\"".toList
  | .okData data xmask =>
    ",\"status\":\"ok\",\"data\":".toList ++ decimal data.toNat ++ ",\"xmask\":".toList ++ decimal xmask.toNat
  | .err op => ",\"status\":\"err\",\"msg\":\"unknown op: ".toList ++ op ++ [quote]

/-- The line `snprintf` writes; the buffer of `SEND_BUF_SZ` is large enough for every one. -/
def Response.line (r : Response) : List Char :=
  openBrace :: ("\"id\":".toList ++ decimal r.id ++ r.status.text ++ [closeBrace, newline])

/-- `resp.get("status") == "ok"`. -/
def Response.isOk (r : Response) : Bool :=
  match r.status with
  | .err _ => false
  | _ => true

/-! ## One request -/

section
variable {σ : Type} (sim : Simulator σ)

/-- `g_req_addr`, with the conversion to `int`. -/
def reqAddr (line : List Char) : ReqOp → BitVec 32
  | .read | .write => BitVec.ofInt 32 (jsonGetInt line .addr (-1))
  | .tmsWalk => BitVec.ofInt 32 (jsonGetInt line .addr (-1)) &&& 0x3F
  | .jtagScan =>
    (BitVec.ofInt 32 (jsonGetInt line .ir 0) &&& 0x1F) |||
      ((BitVec.ofInt 32 (jsonGetInt line .drlen 0) &&& 0x3F) <<< 5) |||
      ((BitVec.ofInt 32 (jsonGetInt line .pause 0) &&& 1) <<< 11)
  | .dmiScan =>
    (BitVec.ofInt 32 (jsonGetInt line .addr (-1)) &&& 0x7F) |||
      ((BitVec.ofInt 32 (jsonGetInt line .dmiop 0) &&& 3) <<< 7)
  | .reset | .shutdown | .log | .dtmcs | .simTime => 0

/-- `g_req_data`, with the conversion to `unsigned int`. -/
def reqData (line : List Char) : ReqOp → BitVec 32
  | .read | .reset | .simTime => 0
  | .write | .dtmcs | .tmsWalk | .jtagScan | .dmiScan | .shutdown | .log =>
    BitVec.ofInt 32 (jsonGetInt line .data 0)

/-- What `handle_request` hands to the simulator; `g_req_text` has room for 2048 characters. -/
def request (line : List Char) (op : ReqOp) : Request where
  op := op
  addr := reqAddr line op
  data := reqData line op
  text := if op = .log then jsonGetStrEsc line .text 2048 else []

/-- Whether the response carries what the simulator answered. -/
def ReqOp.returnsData : ReqOp → Bool
  | .read | .dtmcs | .dmiScan | .jtagScan | .simTime => true
  | _ => false

/-- `handle_request`. -/
def handleRequest (s : σ) (line : List Char) : σ × Response :=
  let id := jsonGetInt line .id (-1)
  let op := jsonGetStr line .op 32
  match ReqOp.ofName op with
  | some op =>
    let (s, data, xmask) := sim.serve s (request line op)
    (s, ⟨id, if op.returnsData then .okData data xmask else .ok⟩)
  | none => (s, ⟨id, .err op⟩)

/-! ## The receive loop -/

def RECV_BUF_SZ : Nat := 1024

/-- Strip the trailing newline. -/
def stripNewline (chunk : List Char) : List Char :=
  if chunk.getLast? = some newline then chunk.dropLast else chunk

/-- The requests that the loop around `fgets` finds in a piece of the stream: `fgets` leaves room for
the terminating NUL, and its chunks are not empty. -/
def recvLines (bytes : List Char) : List (List Char) :=
  (Text.chunks (RECV_BUF_SZ - 1) newline bytes).map stripNewline

/-- The requests, one after the other. -/
def handleAll (s : σ) : List (List Char) → σ × List Response
  | [] => (s, [])
  | line :: lines =>
    let (s, r) := handleRequest sim s line
    let (s, rs) := handleAll s lines
    (s, r :: rs)

/-- The receive loop on the bytes of one `sendall`. -/
def serve (s : σ) (bytes : List Char) : σ × List Response := handleAll sim s (recvLines bytes)

end

end RiscvDbg
