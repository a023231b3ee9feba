import RiscvDbg.Bridge.Handshake
import RiscvDbg.Jtag.Sequences

/-!
# From the calls to the pins

The client, the bridge and the JTAG agent together: what the calls of a session do to the DTM and what they
return of it, as far as the monitor on the pins can tell.

* `Command.sequence` — the sequence `serve` starts for a request, with the value it passes on.
* `Stack` — the three parties of the bridge, the driver, and what the monitor has reported while each of the
  sequences ran.
* `Command.Requests`, `Requested` — the requests to the DM that a command, and a session, are to make.
* `Stack.Served` — the invariant: the answers that were put are those of the sequences, and so are the records.
* `requests_in_order` — **in every interleaving, and whatever comes back on TDO, the pins show the requests of
  the calls, in order, each as often as it should.**
* `reads_fresh` — **what a read returns is what the last scan of its own captured, and with a DTM behind the
  pins the answer to a read that this very call started.**

A `tms_walk` may take the TAP anywhere and is left out.
-/

set_option autoImplicit false

namespace RiscvDbg

open Dialogue

/-! ## What `serve` does with a request -/

/-- The sequence of a command, and the value that is passed on when it has ended; `now` is the simulated time in
nanoseconds. -/
def Command.sequence (now : BitVec 32) : Command → JtagSequence (FourState 32)
  | .dmiRead addr => do
    let p ← jtagDmiReadSeq addr
    pure p.1.dmiRdata
  | .dmiWrite addr data => do
    jtagDmiWriteSeq addr data
    pure (.ofBits 0)
  | .tapReset => do
    jtagTapResetSeq
    pure (.ofBits 0)
  | .dtmcs wdata => jtagDtmcsSeq wdata
  | .dmiScan op addr data => do
    let status ← jtagDmiScanSeq op addr data
    pure ⟨status.value.setWidth 32, status.unknown.setWidth 32⟩
  | .jtagScan ir drLen pause wdata => jtagScanSeq ir drLen.toNat wdata (pause == 1)
  | .tmsWalk count bits => do
    jtagTmsWalkSeq count.toNat bits
    pure (.ofBits 0)
  | .simTime => pure (.ofBits now)
  | .shutdown _ | .log _ _ => pure (.ofBits 0)

/-- The client, the server thread, the polling loop and the driver; the last field records what the monitor
reported while each of the sequences ran. -/
structure Stack where
  link : Link
  driver : JtagDriver
  blocks : List (List JtagTxn)

/-- Before the first call, after the initial reset of the driver. -/
def Stack.connected (tdo : Nat → FourState 1) (ops : List Operation) : Stack :=
  ⟨.connected ops, .initialReset tdo, []⟩

/-- One step.  The sequence runs as a whole when its value is put; of the value given with the action only the
simulated time counts. -/
def Stack.step (tdo : Nat → FourState 1) (s : Stack) : Action → Stack
  | .put now _ =>
    match s.link.serving with
    | some r =>
      let p := ((unpack r).sequence now).run (JtagDriver.device tdo) s.driver
      { link := s.link.step (.put p.1.toBits p.1.unknown)
        driver := p.2
        blocks := s.blocks ++ [p.2.seen.records.drop s.driver.seen.records.length] }
    | none => s
  | a => { s with link := s.link.step a }

/-! ## What the pins should show -/

namespace Command

/-- The instruction that stands after a command. -/
def latched (ir : BitVec 5) : Command → BitVec 5
  | .dmiRead _ | .dmiWrite _ _ => JTAG_DMI
  | .dtmcs _ => JTAG_DTMCS
  | .jtagScan ir _ _ _ => ir
  | .tapReset => JTAG_IDCODE
  | _ => ir

/-- A request to the DM, if a scan under the instruction makes it. -/
def scanned (ir : BitVec 5) (o : DmiRequest) : List DmiRequest :=
  if ir = JTAG_DMI ∧ o.op ≠ DMI_NOP then [o] else []

/-- The requests to the DM that a command may make if `ir` stands before it: a write is made once, a read up to
five times, and nothing else of the two. -/
def Requests (ir : BitVec 5) : Command → List DmiRequest → Prop
  | .dmiRead addr, os => ∃ k, (1 ≤ k ∧ k ≤ 5) ∧ os = List.replicate k ⟨DMI_READ, addr, 0⟩
  | .dmiWrite addr data, os => os = [⟨DMI_WRITE, addr, data⟩]
  | .dmiScan op addr data, os => os = scanned ir ⟨op, addr, data⟩
  | .jtagScan ir drLen _ wdata, os =>
    let bits := ShiftRegister.lowBits drLen.toNat (0#32 ++ wdata : BitVec 64)
    os = scanned ir ⟨bits.extractLsb' 0 2, bits.extractLsb' 34 7, bits.extractLsb' 2 32⟩
  | _, os => os = []

end Command

/-- The requests to the DM that commands may make one after the other. -/
inductive Requested : BitVec 5 → List Command → List DmiRequest → Prop where
  | nil (ir : BitVec 5) : Requested ir [] []
  | cons {ir : BitVec 5} {c : Command} {cs : List Command} {os os' : List DmiRequest} (h : c.Requests ir os)
    (hrest : Requested (c.latched ir) cs os') : Requested ir (c :: cs) (os ++ os')

theorem Requested.concat {ir : BitVec 5} {cs : List Command} {os os' : List DmiRequest} (h : Requested ir cs os)
    {c : Command} (hc : c.Requests (cs.foldl Command.latched ir) os') : Requested ir (cs ++ [c]) (os ++ os') := by
  induction h with
  | nil ir =>
    have hone := Requested.cons hc (.nil _)
    rwa [List.append_nil] at hone
  | cons h _ ih =>
    rw [List.cons_append, List.append_assoc]
    exact .cons h (ih hc)

/-! ## One command -/

section
variable {ir : BitVec 5} {tr : List (JtagTxn × JtagTxn)} {v : FourState 32} {now : BitVec 32}

/-- What a scan asks of the DM, if `o` is how its record reads under DMI. -/
theorem dmiRequests_scanRecords (ir : BitVec 5) {r : JtagTxn} {o : DmiRequest} (hscans : r.scansDr = true)
    (ho : (r.scanRecord JTAG_DMI).dmiRequest? = if o.op ≠ DMI_NOP then some o else none) :
    dmiRequests (r.scanRecords ir) = Command.scanned ir o := by
  rw [JtagTxn.scanRecords, Command.scanned]
  by_cases hdmi : ir = JTAG_DMI
  · rw [if_pos ⟨hscans, .inl hdmi⟩, hdmi, dmiRequests, List.filterMap_cons, ho]
    by_cases hop : o.op = DMI_NOP
    · rw [if_neg (not_not.mpr hop), if_neg fun h => h.2 hop]
      rfl
    · rw [if_pos hop, if_pos ⟨rfl, hop⟩]
      rfl
  · rw [if_neg (c := ir = JTAG_DMI ∧ o.op ≠ DMI_NOP) fun h => hdmi h.1]
    by_cases hdtmcs : ir = JTAG_DTMCS
    · have hrecord : (r.scanRecord ir).dmiRequest? = none := by
        rw [JtagTxn.scanRecord, if_neg hdmi]
        exact if_neg fun h => hdmi h.1
      rw [if_pos ⟨hscans, .inr hdtmcs⟩, dmiRequests, List.filterMap_cons, hrecord]
      rfl
    · rw [if_neg fun h => not_or.mpr ⟨hdmi, hdtmcs⟩ h.2]
      rfl

/-- A sequence of one item: what it asks of the DM, and the instruction it leaves. -/
theorem says_single (ir : BitVec 5) {α : Type} {q : JtagTxn} {f : JtagTxn → α} {a : α}
    (h : Says (item q >>= fun w => pure (f w)) tr a) (htr : Completed tr) :
    ∃ r, tr = [(q, r)] ∧ r.Completes q ∧ a = f r ∧ reported ir tr = r.scanRecords (q.latched ir) ∧
      standing ir tr = q.latched ir := by
  obtain ⟨r, tr', rfl, hrest⟩ := says_item.mp h
  obtain ⟨rfl, rfl⟩ := says_pure.mp hrest
  have hr := (completed_cons.mp htr).1
  have hlatched := JtagDriver.latched_of_request hr.request ir
  refine ⟨r, rfl, hr, rfl, ?_, hlatched⟩
  rw [← hlatched]
  simp [reported, expected]

/-- **What a command asks of the DM**, and the instruction that stands after it. -/
theorem Command.sequence_requests {c : Command} (h : Says (c.sequence now) tr v) (htr : Completed tr) :
    c.Requests ir (dmiRequests (reported ir tr)) ∧ standing ir tr = c.latched ir := by
  cases c with
  | dmiRead addr =>
    obtain ⟨tr₁, tr₂, p, rfl, hread, hrest⟩ := says_bind.mp h
    obtain ⟨rfl, -⟩ := says_pure.mp hrest
    rw [List.append_nil] at htr ⊢
    exact ⟨jtagDmiReadSeq_requests hread htr, (jtagDmiReadSeq_last ir hread htr).1⟩
  | dmiWrite addr data =>
    obtain ⟨tr₁, tr₂, _, rfl, hwrite, hrest⟩ := says_bind.mp h
    obtain ⟨rfl, -⟩ := says_pure.mp hrest
    rw [List.append_nil] at htr ⊢
    obtain ⟨r, -, hr, -, hreported, hstanding⟩ := says_single ir hwrite htr
    have hpacks : (JtagTxn.packDmi { phase := .irThenDr, dmiAddr := addr, dmiWdata := data, dmiOp := DMI_WRITE }).Packs
        ⟨DMI_WRITE, addr, data⟩ := ⟨rfl, rfl, rfl⟩
    have hrequest := dmiRequests_scanRecords JTAG_DMI
      ((JtagDriver.scansDr_of_request hr.request).trans rfl) (hpacks.dmiRequest? hr)
    refine ⟨?_, hstanding⟩
    rw [hreported]
    exact hrequest
  | tapReset =>
    obtain ⟨tr₁, tr₂, _, rfl, hreset, hrest⟩ := says_bind.mp h
    obtain ⟨rfl, -⟩ := says_pure.mp hrest
    rw [List.append_nil] at htr ⊢
    obtain ⟨r, -, hr, -, hreported, hstanding⟩ := says_single ir hreset htr
    refine ⟨?_, hstanding⟩
    have hno : r.scansDr = false := (JtagDriver.scansDr_of_request hr.request).trans rfl
    rw [hreported, JtagTxn.scanRecords, if_neg (by simp [hno])]
    rfl
  | dtmcs wdata =>
    obtain ⟨r, rfl, hr, -, -, hstanding⟩ := says_single ir h htr
    refine ⟨?_, hstanding⟩
    exact JtagDmiReadSeq.dmiRequests_dtmcs rfl rfl hr
  | dmiScan op addr data =>
    obtain ⟨tr₁, tr₂, _, rfl, hscan, hrest⟩ := says_bind.mp h
    obtain ⟨rfl, -⟩ := says_pure.mp hrest
    rw [List.append_nil] at htr ⊢
    obtain ⟨r, -, hr, -, hreported, hstanding⟩ := says_single ir hscan htr
    have hpacks : JtagTxn.Packs
        { JtagTxn.packDmi { dmiAddr := addr, dmiWdata := data, dmiOp := op } with phase := .drOnly }
        ⟨op, addr, data⟩ := ⟨rfl, rfl, rfl⟩
    refine ⟨?_, hstanding⟩
    rw [hreported]
    exact dmiRequests_scanRecords ir ((JtagDriver.scansDr_of_request hr.request).trans rfl) (hpacks.dmiRequest? hr)
  | jtagScan ir' drLen pause wdata =>
    obtain ⟨r, -, hr, -, hreported, hstanding⟩ := says_single ir h htr
    have hlen : r.drLen = drLen.toNat := (congrArg JtagTxn.drLen hr.request :)
    have hin : r.drDataIn = (0#32 ++ wdata : BitVec 64) := (congrArg JtagTxn.drDataIn hr.request :)
    refine ⟨?_, hstanding⟩
    rw [hreported]
    refine dmiRequests_scanRecords _ ((JtagDriver.scansDr_of_request hr.request).trans rfl) ?_
    rw [JtagTxn.scanRecord, if_pos rfl, JtagTxn.dmiRequest?, hlen, hin]
    simp
  | tmsWalk count bits =>
    obtain ⟨tr₁, tr₂, _, rfl, hwalk, hrest⟩ := says_bind.mp h
    obtain ⟨rfl, -⟩ := says_pure.mp hrest
    rw [List.append_nil] at htr ⊢
    obtain ⟨r, -, hr, -, hreported, hstanding⟩ := says_single ir hwalk htr
    refine ⟨?_, hstanding⟩
    have hno : r.scansDr = false := (JtagDriver.scansDr_of_request hr.request).trans rfl
    rw [hreported, JtagTxn.scanRecords, if_neg (by simp [hno])]
    rfl
  | simTime | shutdown | log =>
    obtain ⟨rfl, -⟩ := says_pure.mp h
    exact ⟨rfl, rfl⟩

/-- The records are those of a read of `addr` with the value `v`: the last one captured it, and if a DTM accounts
for the records and the last status is success, it is the answer to a read that was started among them. -/
def FreshRead (addr : BitVec 7) (block : List JtagTxn) (v : FourState 32) : Prop :=
  ∃ rs t, block = rs ++ [t] ∧ t.irVal = JTAG_DMI ∧ t.dmiRdata = v ∧
    ∀ dm d d', Dtm.Explains dm d block d' → t.dmiStatus = .ofBits DMI_STAT_SUCCESS →
      ∃ n, d.started.length ≤ n ∧ d'.started[n]? = some ⟨DMI_READ, addr, 0⟩ ∧ (dm.answer n).failed = false ∧
        v = .ofBits (dm.answer n).data

theorem Command.sequence_read {addr : BitVec 7} (h : Says ((Command.dmiRead addr).sequence now) tr v)
    (htr : Completed tr) : FreshRead addr (reported ir tr) v := by
  obtain ⟨tr₁, tr₂, p, rfl, hread, hrest⟩ := says_bind.mp h
  obtain ⟨rfl, rfl⟩ := says_pure.mp hrest
  rw [List.append_nil] at htr ⊢
  obtain ⟨-, rs, t, hblock, hir, hstatus, hrdata⟩ := jtagDmiReadSeq_last ir hread htr
  refine ⟨rs, t, hblock, hir, hrdata, fun dm d d' hd hsuccess => ?_⟩
  obtain ⟨rfl, hbrings, herror⟩ := jtagDmiReadSeq_explained hread htr hd
  have hcaptured : (JtagDmiReadSeq.body dm addr d).txn.dmiStatus = DMI_STAT_SUCCESS := by
    have hvalue := congrArg FourState.value (hbrings.dmiStatus.symm.trans (hstatus.symm.trans hsuccess))
    exact hvalue
  have hnone : (JtagDmiReadSeq.body dm addr d).error = false := by
    rw [← herror]
    by_contra hsome
    have hbusy := jtagDmiReadSeq_gaveUp hread (Bool.not_eq_false _ ▸ hsome)
    rw [← hstatus, hsuccess] at hbusy
    exact absurd hbusy (by decide)
  obtain ⟨n, hn, hstarted, hfailed, hdata⟩ := JtagDmiReadSeq.attempts_fresh JtagDmiReadSeq.MaxBusyResets _ _ _
    (JtagDmiReadSeq.started_le_issueRead d) (JtagDmiReadSeq.issueRead_issued (Nat.le_refl _)) hnone hcaptured
  refine ⟨n, hn, hstarted, hfailed, ?_⟩
  rw [hbrings.dmiRdata]
  exact congrArg FourState.ofBits hdata

end

/-! ## Commands the driver can carry out -/

/-- Not a `tms_walk`. -/
def Operation.Scans (op : Operation) : Prop := op.Bridged ∧ ∀ tms, op ≠ .tmsWalk tms

theorem Operation.Scans.survives {op : Operation} (h : op.Scans) : op.Survives := by
  cases op with
  | tmsWalk tms => exact absurd rfl (h.2 tms)
  | _ => trivial

theorem scan_ne_walk : TxnPhase.irThenDr ≠ .tmsWalk ∧ TxnPhase.drOnly ≠ .tmsWalk := by decide

/-- A scan of `n` bits can be driven. -/
theorem JtagTxn.drivable_of_scan {q : JtagTxn} {phase : TxnPhase} (n : Nat) (hphase : q.phase = phase)
    (hwalk : phase ≠ .tmsWalk) (hir : q.irLen = 5) (hlen : q.drLen = n) (hn : 1 ≤ n ∧ n ≤ 64) : q.Drivable :=
  ⟨hphase ▸ hwalk, hir, fun _ => hlen ▸ hn⟩

namespace JtagDmiReadSeq

theorem drivable_readItem (addr : BitVec 7) : (readItem addr).Drivable :=
  JtagTxn.drivable_of_scan 41 rfl scan_ne_walk.1 rfl rfl (by decide)

theorem drivable_nopItem : nopItem.Drivable := ⟨by decide, rfl, by decide⟩

theorem drivable_dmiresetItem : dmiresetItem.Drivable := ⟨by decide, rfl, by decide⟩

theorem issueRead_asks (addr : BitVec 7) : (issueReadItem addr).Asks JtagTxn.Drivable :=
  (Asks.item (drivable_readItem addr)).bind fun _ => .pure _

theorem polls_asks : ∀ (n : Nat) (txn : JtagTxn), (pollItems n txn).Asks JtagTxn.Drivable := by
  intro n
  induction n with
  | zero => intro txn; exact .pure _
  | succ n ih =>
    intro txn
    refine (Asks.item drivable_nopItem).bind fun txn => ?_
    split_ifs
    · exact .pure _
    · exact ih txn

theorem drains_asks : ∀ n : Nat, (drainItems n).Asks JtagTxn.Drivable := by
  intro n
  induction n with
  | zero => exact .pure _
  | succ n ih => exact (Asks.item drivable_nopItem).bind fun _ => ih

theorem attempts_asks (addr : BitVec 7) :
    ∀ (resets : Nat) (i : JtagTxn × Bool), (attemptItems addr resets i).Asks JtagTxn.Drivable := by
  intro resets
  induction resets with
  | zero => intro i; exact (polls_asks _ _).bind fun _ => .pure _
  | succ resets ih =>
    intro i
    refine (polls_asks _ _).bind fun p => ?_
    split_ifs
    · exact .pure _
    · refine (Asks.item drivable_dmiresetItem).bind fun _ => (drains_asks _).bind fun _ => ?_
      exact (issueRead_asks addr).bind ih

end JtagDmiReadSeq

/-- Every item of the sequence can be driven. -/
theorem Operation.Scans.asks {op : Operation} (h : op.Scans) {c : Command} (hc : op.command = some c)
    (now : BitVec 32) : (c.sequence now).Asks JtagTxn.Drivable := by
  cases op with
  | read addr =>
    cases hc
    exact ((JtagDmiReadSeq.issueRead_asks _).bind (JtagDmiReadSeq.attempts_asks _ _)).bind fun _ => .pure _
  | write addr data =>
    cases hc
    refine ((Asks.item ?_).bind fun _ => .pure _).bind fun _ => .pure _
    exact JtagTxn.drivable_of_scan 41 rfl scan_ne_walk.1 rfl rfl (by decide)
  | dtmcs wdata =>
    cases hc
    refine (Asks.item ?_).bind fun _ => .pure _
    exact JtagTxn.drivable_of_scan 32 rfl scan_ne_walk.1 rfl rfl (by decide)
  | dmiScan op addr data =>
    cases hc
    refine ((Asks.item ?_).bind fun _ => .pure _).bind fun _ => .pure _
    exact JtagTxn.drivable_of_scan 41 rfl scan_ne_walk.2 rfl rfl (by decide)
  | jtagScan ir drLen data pause =>
    cases hc
    obtain ⟨-, hlen, -⟩ := h.1
    refine (Asks.item ?_).bind fun _ => .pure _
    have hnat : (BitVec.ofInt 6 drLen).toNat = drLen.toNat := by
      rw [BitVec.toNat_ofInt]
      omega
    exact JtagTxn.drivable_of_scan drLen.toNat rfl scan_ne_walk.1 rfl hnat (by omega)
  | tmsWalk tms => exact absurd rfl (h.2 tms)
  | reset =>
    cases hc
    exact ((Asks.item ⟨by decide, rfl, by decide⟩).bind fun _ => .pure _).bind fun _ => .pure _
  | simTime =>
    cases hc
    exact .pure _
  | emitLog text verbosity => cases hc

/-! ## Sessions -/

theorem getElem?_of_prefix {α : Type} {xs ys : List α} (h : xs <+: ys) {i : Nat} {a : α} (ha : xs[i]? = some a) :
    ys[i]? = some a := by
  obtain ⟨hi, rfl⟩ := List.getElem?_eq_some_iff.mp ha
  exact List.getElem?_eq_some_iff.mpr ⟨_, (h.getElem hi).symm⟩

/-- The simulator serves an operation of the session. -/
theorem Reached.serving_command {ops : List Operation} (hops : ∀ op ∈ ops, op.Bridged ∧ op.Survives)
    (hlen : ops.length < 2 ^ 63) {s : Link} (hs : Reached ops s) {r : Request} (hr : s.serving = some r) :
    ∃ op ∈ ops, op.command = some (unpack r) := by
  cases hs with
  | @serving done op rest p taken puts returned heq hp h =>
    cases hr
    obtain ⟨-, -, -, hcommand⟩ := clear_of_ops hops hlen heq hp
    exact ⟨op, by rw [heq]; simp, hcommand.symm⟩
  | _ => cases hr

/-- Nothing is put but by `put`. -/
theorem Link.step_puts (s : Link) {a : Action} (ha : ∀ data xmask, a ≠ .put data xmask) :
    (s.step a).puts = s.puts := by
  cases a with
  | put data xmask => exact absurd rfl (ha data xmask)
  | call =>
    simp only [Link.step]
    split
    · split <;> rfl
    · rfl
  | receive =>
    simp only [Link.step]
    split
    · split <;> rfl
    · rfl
  | poll =>
    simp only [Link.step]
    split <;> rfl
  | wake =>
    simp only [Link.step]
    split <;> rfl
  | reply =>
    simp only [Link.step]
    split
    · split <;> rfl
    · rfl

namespace Stack

/-- The answers that were put are the values of sequences, and the blocks are what the monitor reports of these,
one after the other from the instruction of the initial reset on. -/
inductive Served : List (Request × (BitVec 32 × BitVec 32)) → BitVec 5 → List (List JtagTxn) → Prop where
  | nil : Served [] JTAG_IDCODE []
  | concat {puts : List (Request × (BitVec 32 × BitVec 32))} {ir : BitVec 5} {blocks : List (List JtagTxn)}
    {r : Request} {now : BitVec 32} {tr : List (JtagTxn × JtagTxn)} {v : FourState 32} (h : Served puts ir blocks)
    (hasked : Says ((unpack r).sequence now) tr v) (htr : Completed tr) :
    Served (puts ++ [(r, r.op.put v.toBits v.unknown)]) (standing ir tr) (blocks ++ [reported ir tr])

theorem Served.length {puts : List (Request × (BitVec 32 × BitVec 32))} {ir : BitVec 5}
    {blocks : List (List JtagTxn)} (h : Served puts ir blocks) : puts.length = blocks.length := by
  induction h with
  | nil => rfl
  | concat _ _ _ ih => rw [List.length_append, List.length_append, ih]; rfl

/-- The pins show the requests of the commands that were served. -/
theorem Served.requested {puts : List (Request × (BitVec 32 × BitVec 32))} {ir : BitVec 5}
    {blocks : List (List JtagTxn)} (h : Served puts ir blocks) :
    Requested JTAG_IDCODE (puts.map fun p => unpack p.1) (dmiRequests blocks.flatten) ∧
      ir = (puts.map fun p => unpack p.1).foldl Command.latched JTAG_IDCODE := by
  induction h with
  | nil => exact ⟨.nil _, rfl⟩
  | concat h hasked htr ih =>
    obtain ⟨hrequested, hir⟩ := ih
    obtain ⟨hc, hstanding⟩ := Command.sequence_requests hasked htr
    rw [List.map_append, List.flatten_append, dmiRequests_append, List.map_singleton, List.flatten_singleton]
    refine ⟨hrequested.concat (hir ▸ hc), ?_⟩
    rw [List.foldl_concat, ← hir, hstanding]

/-- The block of a read is that of a fresh one. -/
theorem Served.fresh {puts : List (Request × (BitVec 32 × BitVec 32))} {ir : BitVec 5}
    {blocks : List (List JtagTxn)} (h : Served puts ir blocks) {k : Nat} {r : Request}
    {answer : BitVec 32 × BitVec 32} (hk : puts[k]? = some (r, answer)) {addr : BitVec 7}
    (hr : unpack r = .dmiRead addr) :
    ∃ block v, blocks[k]? = some block ∧ FreshRead addr block v ∧ answer = (v.toBits, v.unknown) := by
  induction h with
  | nil => cases hk
  | @concat puts ir blocks r' now tr v h hasked htr ih =>
    rcases Nat.lt_or_ge k puts.length with hlt | hge
    · rw [List.getElem?_append_left hlt] at hk
      rw [List.getElem?_append_left (h.length ▸ hlt)]
      exact ih hk
    · rw [List.getElem?_append_right hge] at hk
      obtain ⟨hzero, hput⟩ := List.getElem?_eq_some_iff.mp hk
      have hlast : k = puts.length := by
        rw [List.length_singleton] at hzero
        omega
      rw [List.getElem_singleton, Prod.mk.injEq] at hput
      obtain ⟨rfl, rfl⟩ := hput
      rw [hr] at hasked
      have hop : r'.op = .read := by
        unfold unpack at hr
        cases hop : r'.op <;> simp [hop] at hr
        rfl
      refine ⟨reported ir tr, v, ?_, Command.sequence_read hasked htr, ?_⟩
      · rw [hlast, h.length, List.getElem?_append_right (Nat.le_refl _), Nat.sub_self]
        rfl
      · rw [hop]
        rfl

/-- What a state of a session promises: the monitor has reported what it reported while the sequences ran, these
are the requests of the calls from the first on, and at most one of these has not returned. -/
structure Shows (ops : List Operation) (s : Stack) : Prop where
  records : s.driver.seen.records = s.blocks.flatten
  requests : Requested JTAG_IDCODE ((ops.take s.blocks.length).filterMap Operation.command)
    (dmiRequests s.driver.seen.records)
  returned : s.link.returned.length ≤ s.blocks.length ∧ s.blocks.length ≤ s.link.returned.length + 1

/-- The state of a session, between the sequences as the driver sees it. -/
structure Inv (ops : List Operation) (s : Stack) : Prop where
  reached : Reached ops s.link
  pins : ∃ ir, Served s.link.puts ir s.blocks ∧ s.driver.Idle ir s.blocks.flatten

variable (tdo : Nat → FourState 1) {ops : List Operation}

theorem inv_connected : Inv ops (.connected tdo ops) :=
  ⟨.ready rfl .nil, JTAG_IDCODE, .nil, JtagDriver.initialReset_idle tdo⟩

theorem step_other (s : Stack) {a : Action} (ha : ∀ now xmask, a ≠ .put now xmask) :
    s.step tdo a = { s with link := s.link.step a } := by
  cases a with
  | put now xmask => exact absurd rfl (ha now xmask)
  | _ => rfl

/-- A sequence of the session: what it puts, and what the monitor reports of it. -/
theorem step_put {s : Stack} {ir : BitVec 5} (hserved : Served s.link.puts ir s.blocks)
    (hidle : s.driver.Idle ir s.blocks.flatten) {r : Request} (hr : s.link.serving = some r) {now : BitVec 32}
    (hasks : ((unpack r).sequence now).Asks JtagTxn.Drivable) (xmask : BitVec 32) :
    ∃ data xmask', (s.step tdo (.put now xmask)).link = s.link.step (.put data xmask') ∧
      ∃ ir', Served (s.step tdo (.put now xmask)).link.puts ir' (s.step tdo (.put now xmask)).blocks ∧
        (s.step tdo (.put now xmask)).driver.Idle ir' (s.step tdo (.put now xmask)).blocks.flatten := by
  have hasked := says_run (JtagDriver.device tdo) ((unpack r).sequence now) s.driver
  obtain ⟨hend, hcompleted⟩ := hidle.run tdo hasks
  let p := ((unpack r).sequence now).run (JtagDriver.device tdo) s.driver
  let tr := ((unpack r).sequence now).transcript (JtagDriver.device tdo) s.driver
  have hstep : s.step tdo (.put now xmask) =
      { link := s.link.step (.put p.1.toBits p.1.unknown), driver := p.2
        blocks := s.blocks ++ [p.2.seen.records.drop s.driver.seen.records.length] } := by
    simp only [Stack.step, hr]
    rfl
  have hputs : (s.link.step (.put p.1.toBits p.1.unknown)).puts =
      s.link.puts ++ [(r, r.op.put p.1.toBits p.1.unknown)] := by
    simp only [Link.step, hr]
  have hblock : p.2.seen.records.drop s.driver.seen.records.length = reported ir tr := by
    rw [hend.records, hidle.records, List.drop_left]
  rw [hstep]
  refine ⟨_, _, rfl, standing ir tr, ?_, ?_⟩
  · rw [hputs, hblock]
    exact .concat hserved hasked hcompleted
  · rw [hblock, List.flatten_append, List.flatten_singleton]
    exact hend

section
variable (hops : ∀ op ∈ ops, op.Scans) (hlen : ops.length < 2 ^ 63)
include hops hlen

/-- **A step** of the session, which goes on or does nothing. -/
theorem Inv.step {s : Stack} (h : Inv ops s) (a : Action) :
    Inv ops (s.step tdo a) ∧ ((s.step tdo a).link.rank < s.link.rank ∨ s.step tdo a = s) := by
  have hbridged : ∀ op ∈ ops, op.Bridged ∧ op.Survives := fun op hop => ⟨(hops op hop).1, (hops op hop).survives⟩
  obtain ⟨ir, hserved, hidle⟩ := h.pins
  by_cases hput : ∃ now xmask, a = .put now xmask
  · obtain ⟨now, xmask, rfl⟩ := hput
    cases hr : s.link.serving with
    | none =>
      have hstep : s.step tdo (.put now xmask) = s := by simp only [Stack.step, hr]
      rw [hstep]
      exact ⟨h, .inr rfl⟩
    | some r =>
      obtain ⟨op, hop, hcommand⟩ := h.reached.serving_command hbridged hlen hr
      obtain ⟨data, xmask', hlink, ir', hserved', hidle'⟩ :=
        step_put tdo hserved hidle hr ((hops op hop).asks hcommand now) xmask
      obtain ⟨hreached, hrank⟩ := h.reached.step hbridged hlen (.put data xmask')
      rw [← hlink] at hreached hrank
      refine ⟨⟨hreached, ir', hserved', hidle'⟩, .inl (hrank.resolve_right fun hsame => ?_)⟩
      have hnone : (s.link.step (.put data xmask')).serving = none := by simp only [Link.step, hr]
      rw [← hlink, hsame, hr] at hnone
      cases hnone
  · have hother : ∀ now xmask, a ≠ .put now xmask := fun now xmask h => hput ⟨now, xmask, h⟩
    obtain ⟨hreached, hrank⟩ := h.reached.step hbridged hlen a
    rw [step_other tdo s hother]
    refine ⟨⟨hreached, ir, ?_, hidle⟩, hrank.imp id fun hsame => ?_⟩
    · rw [Link.step_puts s.link hother]
      exact hserved
    · rw [hsame]

/-- The commands that were served are those of the first operations. -/
theorem Inv.commands {s : Stack} (h : Inv ops s) :
    (s.link.puts.map fun p => some (unpack p.1)) <+: ops.map Operation.command := by
  have hdelivers := h.reached.delivers
    (fun op hop => ⟨(hops op hop).1, (hops op hop).survives⟩) hlen
  have hputs := hdelivers.puts.map fun r => some (unpack r)
  rw [List.map_map] at hputs
  exact hputs.trans hdelivers.taken

theorem Inv.shows {s : Stack} (h : Inv ops s) : s.Shows ops := by
  obtain ⟨ir, hserved, hidle⟩ := h.pins
  have hdelivers := h.reached.delivers
    (fun op hop => ⟨(hops op hop).1, (hops op hop).survives⟩) hlen
  have htake : (s.link.puts.map fun p => unpack p.1) =
      (ops.take s.blocks.length).filterMap Operation.command := by
    have heq := congrArg (List.filterMap id) (List.prefix_iff_eq_take.mp (h.commands hops hlen))
    rw [List.length_map, hserved.length, ← List.map_take, List.filterMap_map, List.filterMap_map] at heq
    rw [← List.filterMap_eq_map]
    exact heq
  have hreturned := hdelivers.returned.length_le
  have hputs := hdelivers.puts.length_le
  rw [List.length_zipWith, List.length_map, hserved.length] at hreturned
  rw [List.length_map, hserved.length] at hputs
  refine ⟨hidle.records, ?_, ?_⟩
  · rw [hidle.records, ← htake]
    exact hserved.requested.1
  · have hone := hdelivers.oneAtATime
    omega

/-- What a read that has returned saw. -/
theorem Inv.fresh {s : Stack} (h : Inv ops s) {k : Nat} {addr : Int} {n : Nat} (hk : ops[k]? = some (.read addr))
    (hn : s.link.returned[k]? = some (.ok (some n))) :
    ∃ block data, s.blocks[k]? = some block ∧ data.toNat = n ∧
      FreshRead (BitVec.ofInt 7 addr) block (.ofBits data) := by
  obtain ⟨ir, hserved, -⟩ := h.pins
  have hdelivers := h.reached.delivers
    (fun op hop => ⟨(hops op hop).1, (hops op hop).survives⟩) hlen
  have houtcome := getElem?_of_prefix hdelivers.returned hn
  rw [List.getElem?_zipWith, hk, List.getElem?_map] at houtcome
  cases hput : s.link.puts[k]? with
  | none => simp [hput] at houtcome
  | some p =>
    obtain ⟨r, answer⟩ := p
    have hcommand : (Operation.read addr).command = some (unpack r) := by
      have hserve : (s.link.puts.map fun p => some (unpack p.1))[k]? = some (some (unpack r)) := by
        rw [List.getElem?_map, hput]
        rfl
      have hget := getElem?_of_prefix (h.commands hops hlen) hserve
      rw [List.getElem?_map, hk] at hget
      exact Option.some_inj.mp hget
    obtain ⟨block, v, hblock, hfresh, rfl⟩ := hserved.fresh hput (Option.some_inj.mp hcommand).symm
    rw [hput] at houtcome
    have hvalue : Operation.outcome (.read addr) (v.toBits, v.unknown) = .ok (some n) := by simpa using houtcome
    simp only [Operation.outcome] at hvalue
    split_ifs at hvalue with hknown
    have hv : v = .ofBits v.value := FourState.ext rfl hknown
    refine ⟨block, v.value, hblock, ?_, hv ▸ hfresh⟩
    rw [hv] at hvalue
    simpa using hvalue

/-- Some party can take a step as long as the session is not over. -/
theorem Inv.next {s : Stack} (h : Inv ops s) (hrank : s.link.rank ≠ 0) {round : List Action} (hfair : Fair round) :
    ∃ a ∈ round, s.step tdo a ≠ s := by
  obtain ⟨a, ha, hmoves⟩ :=
    h.reached.next (fun op hop => ⟨(hops op hop).1, (hops op hop).survives⟩) hlen hrank hfair
  refine ⟨a, ha, fun hsame => hmoves ?_⟩
  by_cases hput : ∃ now xmask, a = .put now xmask
  · obtain ⟨now, xmask, rfl⟩ := hput
    cases hr : s.link.serving with
    | none => simp only [Link.step, hr]
    | some r =>
      have hserving : (s.step tdo (.put now xmask)).link.serving = none := by
        simp only [Stack.step, hr, Link.step]
      rw [hsame, hr] at hserving
      cases hserving
  · rw [step_other tdo s fun now xmask h => hput ⟨now, xmask, h⟩] at hsame
    exact congrArg Stack.link hsame

theorem inv_run (actions : List Action) : Inv ops (Runs.run (Stack.step tdo) (.connected tdo ops) actions) :=
  Runs.run_invariant (P := Inv ops) (fun _ a h _ => (h.step tdo hops hlen a).1) actions _ (inv_connected tdo)
    (Runs.always_true actions _)

end

end Stack

section
variable {ops : List Operation} (hops : ∀ op ∈ ops, op.Scans) (hlen : ops.length < 2 ^ 63) (tdo : Nat → FourState 1)
include hops hlen

/-- **Requests on the pins.**  In every interleaving of the client, the server thread and the simulator, and
whatever comes back on TDO, the requests to the DM that the monitor reports are those of the calls, in order:
for a write this write, once; for a read of an address from one to five reads of it; for a raw scan the request
it carries, if DMI stands; and none besides.  If every party keeps taking steps all calls return. -/
theorem requests_in_order :
    (∀ actions, (Runs.run (Stack.step tdo) (.connected tdo ops) actions).Shows ops) ∧
      ∀ rounds : List (List Action), (∀ round ∈ rounds, Fair round) → 6 * ops.length ≤ rounds.length →
        let s := Runs.run (Stack.step tdo) (.connected tdo ops) rounds.flatten
        s.link.returned.length = ops.length ∧
          Requested JTAG_IDCODE (ops.filterMap Operation.command) (dmiRequests s.driver.seen.records) := by
  refine ⟨fun actions => (Stack.inv_run tdo hops hlen actions).shows hops hlen, fun rounds hrounds hmany => ?_⟩
  obtain ⟨hend, hrank⟩ := @Runs.run_rounds _ _ (Stack.step tdo) (Stack.Inv ops) (fun s => s.link.rank)
    (fun _ a h => (h.step tdo hops hlen a).1) (fun _ a h => (h.step tdo hops hlen a).2) Fair
    (fun _ _ h hne hfair => h.next tdo hops hlen hne hfair) rounds _ (Stack.inv_connected tdo) hrounds
  have hstart : (Stack.connected tdo ops).link.rank = 6 * ops.length := by
    simp [Stack.connected, Link.connected, Link.rank]
  have hfinished := hend.reached.finished (by omega)
  have hdelivers := hend.reached.delivers (fun op hop => ⟨(hops op hop).1, (hops op hop).survives⟩) hlen
  obtain ⟨-, hreturned⟩ := hdelivers.complete hfinished
  have hshows := hend.shows hops hlen
  refine ⟨hreturned, ?_⟩
  have hrequests := hshows.requests
  rwa [List.take_of_length_le (by rw [← hreturned]; exact hshows.returned.1)] at hrequests

end

/-- A write, a read and a raw scan, with nothing driving TDO: what the three calls are served as. -/
theorem requests_in_order_three :
    let ops := [.write 0x10 1, .read 0x111, .dmiScan 2 4 7]
    (∀ actions, (Runs.run (Stack.step fun _ => .x) (.connected (fun _ => .x) ops) actions).Shows ops) ∧
      ops.filterMap Operation.command = [.dmiWrite 0x10 1, .dmiRead 0x11, .dmiScan 2 4 7] := by
  intro ops
  have hops : ∀ op ∈ ops, op.Scans := by
    intro op hop
    simp only [ops, List.mem_cons, List.not_mem_nil, or_false] at hop
    rcases hop with rfl | rfl | rfl <;> exact ⟨by decide, by simp⟩
  exact ⟨(requests_in_order hops (by decide) fun _ => .x).1, by decide⟩

section
variable {ops : List Operation} (hops : ∀ op ∈ ops, op.Scans) (hlen : ops.length < 2 ^ 63) (tdo : Nat → FourState 1)
include hops hlen

/-- **Reads are fresh.**  In every interleaving, and whatever comes back on TDO: a call of `read` that returns a
number returns what the last of its own scans captured, and if some DTM and DM account for what was captured
while it was served, and the last status is success, the number is the answer of the DM to a read of the
address that was started for this very call. -/
theorem reads_fresh (actions : List Action) {k : Nat} {addr : Int} {n : Nat} (hk : ops[k]? = some (.read addr)) :
    let s := Runs.run (Stack.step tdo) (.connected tdo ops) actions
    s.link.returned[k]? = some (.ok (some n)) →
      s.driver.seen.records = s.blocks.flatten ∧
        ∃ block data, s.blocks[k]? = some block ∧ data.toNat = n ∧
          FreshRead (BitVec.ofInt 7 addr) block (.ofBits data) := by
  intro s hn
  have hinv := Stack.inv_run tdo hops hlen actions
  exact ⟨(hinv.shows hops hlen).records, hinv.fresh hops hlen hk hn⟩

end

/-- Two bits of the poll are set: the call returns 5, and a DM that answers 5 at once accounts for what was
captured. -/
theorem reads_fresh_five :
    let tdo : Nat → FourState 1 := fun n => .ofBits (if n = 79 ∨ n = 81 then 1 else 0)
    let s := Runs.run (Stack.step tdo) (.connected tdo [.read 0x111]) [.call, .receive, .poll, .put 0 0, .wake, .reply]
    s.link.returned = [.ok (some 5)] ∧
      ∃ block data, s.blocks[0]? = some block ∧ data.toNat = 5 ∧ FreshRead 0x11 block (.ofBits data) ∧
        ∃ dm d', Dtm.Explains dm {} block d' := by
  intro tdo s
  have hops : ∀ op ∈ [Operation.read 0x111], op.Scans := by
    intro op hop
    rw [List.mem_singleton] at hop
    rw [hop]
    exact ⟨by decide, by simp⟩
  have hreturned : s.link.returned = [.ok (some 5)] := by decide +kernel
  obtain ⟨-, block, data, hblock, hdata, hfresh⟩ :=
    reads_fresh hops (by decide) tdo [.call, .receive, .poll, .put 0 0, .wake, .reply] (k := 0) rfl
      (by rw [hreturned]; rfl)
  refine ⟨hreturned, block, data, hblock, hdata, hfresh, ⟨fun _ => some 0, fun _ => ⟨false, 5⟩⟩, ?_⟩
  have hrecords : s.blocks = [[
      { irVal := JTAG_DMI, drDataIn := 0x4400000001, drDataOut := .ofBits 0, drLen := 41, dmiAddr := 0x11, dmiOp := 1,
        dmiRdata := .ofBits 0, dmiStatus := .ofBits 0, phase := .drOnly },
      { irVal := JTAG_DMI, drDataOut := .ofBits 20, drLen := 41,
        dmiRdata := .ofBits 5, dmiStatus := .ofBits 0, phase := .drOnly }]] := by decide +kernel
  change s.blocks[0]? = some block at hblock
  rw [hrecords] at hblock
  cases hblock
  exact ⟨_, fun _ => ⟨rfl, rfl⟩, fun _ => ⟨rfl, rfl⟩, rfl⟩

end RiscvDbg
