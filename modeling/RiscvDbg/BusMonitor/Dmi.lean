import RiscvDbg.Lib.Runs
import RiscvDbg.Jtag.Records

/-!
# The DMI monitor

Model of `dbg_dmi_monitor` (`sv/agents/dmi/dbg_dmi_monitor.sv`): one process on the rising edge of the DMI
clock, which pairs requests with responses through one slot.

* `DmiCycle` — what the tap shows at one edge.  Out of reset the handshake signals are 0 or 1.
* `DmiMonitor.posedge` — the body of the loop: the slot after the edge and what is written to `ap`.
* `DmiCycle.InTurn` — the DM answers one access at a time, in a later cycle.
* `answered` — the accesses in order, each with the response of the same number.

At an edge that carries a request and the previous response the request is taken into the slot first, and
the response goes to it: `dmi_pairing_iff`.
-/

set_option autoImplicit false

namespace RiscvDbg

/-- What `dbg_dmi_if` shows at a rising edge at `time`. -/
structure DmiCycle where
  time : Nat
  rstN : Bool := true
  reqValid : Bool := false
  reqReady : Bool := false
  reqAddr : BitVec 7 := 0
  reqOp : BitVec 2 := 0
  reqData : BitVec 32 := 0
  respValid : Bool := false
  respReady : Bool := false
  respData : BitVec 32 := 0
  respStatus : BitVec 2 := 0
  deriving DecidableEq, Repr

/-- `dbg_dmi_txn`. -/
structure DmiTxn where
  addr : BitVec 7
  op : BitVec 2
  wdata : BitVec 32
  rdata : BitVec 32 := 0
  status : BitVec 2 := 0
  hasResp : Bool := false
  tReq : Nat
  tResp : Nat := 0
  deriving DecidableEq, Repr

namespace DmiCycle

variable (c : DmiCycle)

/-- A request is accepted. -/
def requested : Bool := c.reqValid && c.reqReady

/-- A response is accepted. -/
def responded : Bool := c.respValid && c.respReady

/-- The record the monitor makes of the request. -/
def request : DmiTxn where
  addr := c.reqAddr
  op := c.reqOp
  wdata := c.reqData
  tReq := c.time

end DmiCycle

/-- The record with the response. -/
def DmiTxn.answer (txn : DmiTxn) (c : DmiCycle) : DmiTxn :=
  { txn with rdata := c.respData, status := c.respStatus, hasResp := true, tResp := c.time }

/-! ## The monitor -/

namespace DmiMonitor

/-- "Request accepted": the slot and what is written. -/
def takeRequest (pending : Option DmiTxn) (c : DmiCycle) : Option DmiTxn × List DmiTxn :=
  if c.requested then
    -- a nop is written at once and leaves the slot empty
    if c.reqOp = DMI_NOP then (none, [c.request]) else (some c.request, [])
  else (pending, [])

/-- "Response accepted". -/
def takeResponse (pending : Option DmiTxn) (c : DmiCycle) : Option DmiTxn × List DmiTxn :=
  match pending with
  | some txn => if c.responded then (none, [txn.answer c]) else (some txn, [])
  | none => (none, [])

/-- The body of `run_phase`'s loop. -/
def posedge (pending : Option DmiTxn) (c : DmiCycle) : Option DmiTxn × List DmiTxn :=
  if !c.rstN then (none, [])
  else
    let (pending, nops) := takeRequest pending c
    let (pending, pairs) := takeResponse pending c
    (pending, nops ++ pairs)

/-- The records written along the cycles. -/
def records (cs : List DmiCycle) : List DmiTxn := Runs.outputs posedge none cs

end DmiMonitor

/-! ## The bus -/

/-- A read or a write. -/
def DmiTxn.isAccess (txn : DmiTxn) : Bool := txn.op == DMI_READ || txn.op == DMI_WRITE

namespace DmiCycle

/-- An access that is accepted. -/
def access? (c : DmiCycle) : Option DmiTxn := if c.requested && c.request.isAccess then some c.request else none

/-- Whether an access waits for its response after the cycle. -/
def awaitsAfter (outstanding : Bool) (c : DmiCycle) : Bool :=
  c.access?.isSome || (outstanding && !c.responded)

/-- Out of reset, a response answers an access of an earlier cycle, and a request comes no earlier than the
response it may have to wait for. -/
structure InTurn (outstanding : Bool) (c : DmiCycle) : Prop where
  outOfReset : c.rstN = true
  answers : c.responded = true → outstanding = true
  waits : c.requested = true → outstanding = true → c.responded = true

instance (outstanding : Bool) (c : DmiCycle) : Decidable (c.InTurn outstanding) :=
  decidable_of_iff (c.rstN = true ∧ (c.responded = true → outstanding = true) ∧
      (c.requested = true → outstanding = true → c.responded = true))
    ⟨fun h => ⟨h.1, h.2.1, h.2.2⟩, fun h => ⟨h.outOfReset, h.answers, h.waits⟩⟩

/-- The cycle carries a request and a response. -/
def collides (c : DmiCycle) : Bool := c.requested && c.responded

end DmiCycle

/-- The accesses in order. -/
def accesses (cs : List DmiCycle) : List DmiTxn := cs.filterMap DmiCycle.access?

/-- The answered accesses: the DM answers in order, so that the responses belong to the accesses of the
same number. -/
def answered (cs : List DmiCycle) : List DmiTxn :=
  List.zipWith DmiTxn.answer (accesses cs) (cs.filter DmiCycle.responded)

/-! ## Pairing -/

/-- The records that are not those of nops. -/
def DmiTxn.isReport (txn : DmiTxn) : Bool := txn.op != DMI_NOP

/-- The slot holds the access that waits, if one does. -/
inductive DmiMonitor.Holds : Option DmiTxn → Bool → List DmiTxn → Prop
  | free (pending : Option DmiTxn) : Holds pending false []
  | waiting (txn : DmiTxn) (h : txn.isReport = true) : Holds (some txn) true [txn]

namespace DmiMonitor

variable {pending : Option DmiTxn} {outstanding : Bool} {waiting : List DmiTxn} {c : DmiCycle}

theorem isReport_of_isAccess {txn : DmiTxn} (h : txn.isAccess = true) : txn.isReport = true := by
  unfold DmiTxn.isAccess at h
  unfold DmiTxn.isReport
  rcases Bool.or_eq_true_iff.mp h with h | h <;> rw [eq_of_beq h] <;> rfl

/-- **One cycle.**  Without a collision the monitor writes what the cycle answers, and the slot holds what
waits afterwards. -/
theorem Holds.posedge (h : Holds pending outstanding waiting) (hturn : c.InTurn outstanding)
    (hc : c.collides = false) :
    ∃ waiting', Holds (posedge pending c).1 (c.awaitsAfter outstanding) waiting' ∧
      (∀ txn ∈ waiting', txn ∈ waiting ∨ txn.tReq = c.time) ∧
      ∀ later resps, (DmiMonitor.posedge pending c).2.filter DmiTxn.isReport ++
          List.zipWith DmiTxn.answer (waiting' ++ later) resps =
        List.zipWith DmiTxn.answer (waiting ++ (accesses [c] ++ later))
          ([c].filter DmiCycle.responded ++ resps) := by
  have hrst := hturn.outOfReset
  cases hreq : c.requested with
  | true =>
    -- a request without a response: nothing waits before it
    have hresp : c.responded = false := by simpa [DmiCycle.collides, hreq] using hc
    have hout : outstanding = false := by
      cases houtstanding : outstanding with
      | false => rfl
      | true => exact absurd (hturn.waits hreq houtstanding) (by simp [hresp])
    subst hout
    cases h
    cases hacc : c.request.isAccess with
    | true =>
      have hreport := isReport_of_isAccess hacc
      have hop : c.reqOp ≠ DMI_NOP := by simpa [DmiTxn.isReport, DmiCycle.request] using hreport
      have hedge : DmiMonitor.posedge pending c = (some c.request, []) := by
        simp [DmiMonitor.posedge, takeRequest, takeResponse, hrst, hreq, hresp, hop]
      refine ⟨[c.request], ?_, ?_, ?_⟩
      · rw [hedge]
        simpa [DmiCycle.awaitsAfter, DmiCycle.access?, hreq, hacc] using Holds.waiting c.request hreport
      · intro txn htxn
        rw [List.mem_singleton.mp htxn]
        exact .inr rfl
      · intro later resps
        simp [hedge, accesses, DmiCycle.access?, hreq, hacc, hresp]
    | false =>
      have hnone : c.access? = none := by simp [DmiCycle.access?, hacc]
      have hfilter : (DmiMonitor.posedge pending c).2.filter DmiTxn.isReport = [] := by
        by_cases hop : c.reqOp = DMI_NOP
        · simp [DmiMonitor.posedge, takeRequest, takeResponse, hrst, hreq, hop, DmiTxn.isReport,
            DmiCycle.request]
        · simp [DmiMonitor.posedge, takeRequest, takeResponse, hrst, hreq, hresp, hop]
      refine ⟨[], ?_, by simp, ?_⟩
      · simpa [DmiCycle.awaitsAfter, hnone] using Holds.free _
      · intro later resps
        simp [hfilter, accesses, hnone, hresp]
  | false =>
    have hnone : c.access? = none := by simp [DmiCycle.access?, hreq]
    cases hresp : c.responded with
    | true =>
      -- a response: the access it answers is in the slot
      have hout := hturn.answers hresp
      subst hout
      cases h with
      | waiting txn hreport =>
        have hedge : DmiMonitor.posedge (some txn) c = (none, [txn.answer c]) := by
          simp [DmiMonitor.posedge, takeRequest, takeResponse, hrst, hreq, hresp]
        have hkept : (txn.answer c).isReport = true := hreport
        refine ⟨[], ?_, by simp, ?_⟩
        · simpa [DmiCycle.awaitsAfter, hnone, hresp] using Holds.free _
        · intro later resps
          simp [hedge, hkept, accesses, hnone, hresp]
    | false =>
      have hedge : DmiMonitor.posedge pending c = (pending, []) := by
        cases pending <;> simp [DmiMonitor.posedge, takeRequest, takeResponse, hrst, hreq, hresp]
      refine ⟨waiting, ?_, fun txn htxn => .inl htxn, ?_⟩
      · rw [hedge]
        simpa [DmiCycle.awaitsAfter, hnone, hresp] using h
      · intro later resps
        simp [hedge, accesses, hnone, hresp]

/-- What is in the slot and what is written are requests from `time` on. -/
def From (time : Nat) (r : Option DmiTxn × List DmiTxn) : Prop :=
  (∀ txn ∈ r.1, time ≤ txn.tReq) ∧ ∀ txn ∈ r.2, time ≤ txn.tReq

theorem from_takeRequest {time : Nat} (hpending : ∀ txn ∈ pending, time ≤ txn.tReq) (hc : time ≤ c.time) :
    From time (takeRequest pending c) := by
  have hrequest : time ≤ c.request.tReq := hc
  unfold takeRequest From
  split_ifs
  · simpa using hrequest
  · simpa using hrequest
  · simpa using hpending

theorem from_takeResponse {time : Nat} (hpending : ∀ txn ∈ pending, time ≤ txn.tReq) :
    From time (takeResponse pending c) := by
  unfold takeResponse From
  cases pending with
  | none => simp
  | some txn =>
    have htxn : time ≤ (txn.answer c).tReq := hpending txn rfl
    dsimp only
    split_ifs
    · simpa using htxn
    · simpa using hpending

/-- What a cycle leaves in the slot or writes was in the slot or is requested in the cycle. -/
theorem from_posedge {time : Nat} (hpending : ∀ txn ∈ pending, time ≤ txn.tReq) (hc : time ≤ c.time) :
    From time (posedge pending c) := by
  obtain ⟨hslot, hnops⟩ := from_takeRequest hpending hc
  obtain ⟨hslot', hpairs⟩ := from_takeResponse (c := c) hslot
  unfold posedge
  cases c.rstN with
  | false => simp [From]
  | true => exact ⟨hslot', List.forall_mem_append.mpr ⟨hnops, hpairs⟩⟩

/-- What is written from a slot without older requests is of requests from then on. -/
theorem tReq_of_mem_outputs {time : Nat} (cs : List DmiCycle) (hcs : ∀ c ∈ cs, time ≤ c.time)
    (hpending : ∀ txn ∈ pending, time ≤ txn.tReq) :
    ∀ txn ∈ Runs.outputs posedge pending cs, time ≤ txn.tReq := by
  have halways : Runs.Always (fun pending c => (posedge pending c).1) (fun _ c => time ≤ c.time) pending cs :=
    Runs.Always.of_forall (fun _ _ h => h) cs _ hcs
  refine Runs.forall_outputs (P := fun pending => ∀ txn ∈ pending, time ≤ txn.tReq) ?_ cs pending hpending halways
  intro pending c hp hc
  exact from_posedge hp hc

/-- A request pushes out what is in the slot. -/
theorem posedge_of_requested (hreq : c.requested = true) : posedge pending c = posedge none c := by
  unfold posedge takeRequest
  simp [hreq]

/-- **A collision.**  The access it answers is not reported any more. -/
theorem outputs_ne_of_collides {txn : DmiTxn} {cs : List DmiCycle} (hc : c.collides = true)
    (htxn : txn.tReq < c.time) (hcs : ∀ c' ∈ cs, c.time ≤ c'.time) (accs : List DmiTxn)
    (resps : List DmiCycle) :
    (Runs.outputs posedge (some txn) (c :: cs)).filter DmiTxn.isReport ≠
      List.zipWith DmiTxn.answer (txn :: accs) (c :: resps) := by
  intro heq
  have hreq : c.requested = true := (Bool.and_eq_true_iff.mp hc).1
  have hmem : txn.answer c ∈ Runs.outputs posedge none (c :: cs) := by
    have hfilter : txn.answer c ∈ (Runs.outputs posedge (some txn) (c :: cs)).filter DmiTxn.isReport := by
      rw [heq]
      exact List.mem_cons_self
    rw [Runs.outputs_cons, posedge_of_requested hreq] at hfilter
    exact List.mem_of_mem_filter hfilter
  have hlate : c.time ≤ (txn.answer c).tReq :=
    tReq_of_mem_outputs (c :: cs) (by simpa using hcs) (by simp) _ hmem
  have htReq : (txn.answer c).tReq = txn.tReq := rfl
  omega

/-- **Runs.**  From a slot that holds what waits, the reports are the answered accesses exactly if no cycle
collides. -/
theorem reports_iff (cs : List DmiCycle) : ∀ {pending outstanding waiting},
    Holds pending outstanding waiting → (∀ txn ∈ waiting, ∀ c ∈ cs, txn.tReq < c.time) →
    cs.Pairwise (fun c c' => c.time < c'.time) → Runs.Always DmiCycle.awaitsAfter (fun o c => c.InTurn o) outstanding cs →
    ((Runs.outputs posedge pending cs).filter DmiTxn.isReport =
        List.zipWith DmiTxn.answer (waiting ++ accesses cs) (cs.filter DmiCycle.responded) ↔
      ∀ c ∈ cs, c.collides = false) := by
  induction cs with
  | nil => intro pending outstanding waiting _ _ _ _; simp
  | cons c cs ih =>
    rintro pending outstanding waiting hholds holder hpair ⟨hturn, hbus⟩
    obtain ⟨hfirst, hpair⟩ := List.pairwise_cons.mp hpair
    cases hc : c.collides with
    | true =>
      obtain ⟨hreq, hresp⟩ := Bool.and_eq_true_iff.mp hc
      cases hturn.answers hresp
      cases hholds with
      | waiting txn hreport =>
        have hne := outputs_ne_of_collides hc (holder txn List.mem_cons_self c List.mem_cons_self)
          (fun c' hc' => Nat.le_of_lt (hfirst c' hc')) (accesses (c :: cs)) (cs.filter DmiCycle.responded)
        rw [List.filter_cons_of_pos hresp]
        refine iff_of_false hne ?_
        intro hnone
        have hfalse := hnone c List.mem_cons_self
        rw [hc] at hfalse
        cases hfalse
    | false =>
      obtain ⟨waiting', hholds', holder', hedge⟩ := hholds.posedge hturn hc
      have hlater : ∀ txn ∈ waiting', ∀ c' ∈ cs, txn.tReq < c'.time := by
        intro txn htxn c' hc'
        rcases holder' txn htxn with hold | hnew
        · exact holder txn hold c' (List.mem_cons_of_mem c hc')
        · rw [hnew]
          exact hfirst c' hc'
      have hrest := ih hholds' hlater hpair hbus
      have haccs : accesses (c :: cs) = accesses [c] ++ accesses cs := List.filterMap_append (l := [c])
      have hresps : (c :: cs).filter DmiCycle.responded
          = [c].filter DmiCycle.responded ++ cs.filter DmiCycle.responded := List.filter_append [c] cs
      rw [haccs, hresps, ← hedge (accesses cs), Runs.outputs_cons, List.filter_append,
        List.append_right_inj, hrest]
      simp [hc]

end DmiMonitor

/-- **Pairing.**  On a bus that answers one access at a time, the reports of the monitor are the answered
accesses, each with its own response, exactly if no request is accepted in the cycle of a response. -/
theorem dmi_pairing_iff (cs : List DmiCycle) (htime : cs.Pairwise (fun c c' => c.time < c'.time))
    (hbus : Runs.Always DmiCycle.awaitsAfter (fun outstanding c => c.InTurn outstanding) false cs) :
    (DmiMonitor.records cs).filter DmiTxn.isReport = answered cs ↔ ∀ c ∈ cs, c.collides = false :=
  DmiMonitor.reports_iff cs (.free none) (by simp) htime hbus

/-- A read and a write, each answered before the next request. -/
theorem dmi_pairing_iff_in_turn :
    let cs : List DmiCycle :=
      [{ time := 10, reqValid := true, reqReady := true, reqAddr := 0x11, reqOp := DMI_READ },
        { time := 20, respValid := true, respReady := true, respData := 0x382 },
        { time := 30, reqValid := true, reqReady := true, reqAddr := 0x10, reqOp := DMI_WRITE, reqData := 1 },
        { time := 40, respValid := true, respReady := true }]
    (DmiMonitor.records cs).filter DmiTxn.isReport = answered cs ∧ (answered cs).length = 2 := by
  intro cs
  exact ⟨(dmi_pairing_iff cs (by decide) (by decide)).mpr (by decide), by decide⟩

/-- The write of `dmcontrol` is accepted with the response of the read of `dmstatus`: the response is
reported as the write's and the read is lost. -/
theorem response_given_to_next_request :
    let cs : List DmiCycle :=
      [{ time := 10, reqValid := true, reqReady := true, reqAddr := 0x11, reqOp := DMI_READ },
        { time := 20, reqValid := true, reqReady := true, reqAddr := 0x10, reqOp := DMI_WRITE, reqData := 1,
          respValid := true, respReady := true, respData := 0x382 },
        { time := 30, respValid := true, respReady := true }]
    Runs.Always DmiCycle.awaitsAfter (fun outstanding c => c.InTurn outstanding) false cs ∧
      (DmiMonitor.records cs).map (fun txn => (txn.addr, txn.rdata)) = [(0x10, 0x382)] ∧
      (answered cs).map (fun txn => (txn.addr, txn.rdata)) = [(0x11, 0x382), (0x10, 0)] := by
  decide

end RiscvDbg
