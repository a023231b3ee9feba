import RiscvDbg.Bridge.EndToEnd
import RiscvDbg.Checker.Model

/-!
# What the checker sees of a session

The register checker knows nothing of the calls: it has the records of the monitor, in which a response comes
one shift late, a read may be started again, and shifts of `dtmcs` come in between.  Here it is put behind the
stack of `EndToEnd`.

* `DmAccess` — an access to the DM, with what a read brought.
* `CheckerEvent.access`, `Operation.accesses` — the accesses the checker commits and checks, and those of the calls.
* `Handles` — what the checker makes of records: the read that waits before and after, and the accesses.
* `checker_sees_calls` — **as long as every read ends with success, the checker commits and checks the accesses of
  the calls, each once and in order, what it checks is what the call returned, and its counters count the reads,
  those with unknown bits and those that differ from the model.**
-/

set_option autoImplicit false

namespace RiscvDbg

open Dialogue

/-! ## Accesses -/

/-- An access to the DM; a read with its status, the bits it brought and the mask of those that are unknown. -/
inductive DmAccess where
  | write (addr : BitVec 7) (data : BitVec 32)
  | read (addr : BitVec 7) (status : FourState 2) (answer : BitVec 32 × BitVec 32)
  deriving DecidableEq, Repr

def DmAccess.isRead : DmAccess → Bool
  | .write _ _ => false
  | .read _ _ _ => true

/-- A read that brought an unknown bit. -/
def DmAccess.hasUnknown : DmAccess → Bool
  | .write _ _ => false
  | .read _ _ answer => answer.2 != 0

/-- The access of an event. -/
def CheckerEvent.access : CheckerEvent → DmAccess
  | .write addr data _ => .write addr data
  | .check addr raw status _ => .read addr status (raw.toBits, raw.unknown)

/-- The accesses of a command, if `answer` was put for it; a read has succeeded. -/
def Command.accesses (answer : BitVec 32 × BitVec 32) : Command → List DmAccess
  | .dmiWrite addr data => [.write addr data]
  | .dmiRead addr => [.read addr (.ofBits DMI_STAT_SUCCESS) answer]
  | _ => []

/-- The accesses of a call. -/
def Operation.accesses (op : Operation) (answer : BitVec 32 × BitVec 32) : List DmAccess :=
  op.command.toList.flatMap (Command.accesses answer)

/-- The accesses of the events. -/
def accessesOf (log : List CheckerEvent) : List DmAccess := log.map CheckerEvent.access

/-! ## Records -/

/-- From any state in which the read `w` waits, the records leave the read `w'` waiting and add the accesses. -/
def Handles (w : Option (BitVec 7)) (rs : List JtagTxn) (w' : Option (BitVec 7)) (as : List DmAccess) : Prop :=
  ∀ (c : DmChecker) (ss : List Sample), c.waiting = w → ss.map Sample.txn = rs →
    (Runs.run DmChecker.getDtmTxn c ss).waiting = w' ∧
      accessesOf (Runs.run DmChecker.getDtmTxn c ss).log = accessesOf c.log ++ as

section
variable {w w' w'' : Option (BitVec 7)} {rs rs' : List JtagTxn} {as as' : List DmAccess} {r : JtagTxn}

theorem Handles.nil : Handles w [] w [] := by
  intro c ss hw hss
  rw [List.map_eq_nil_iff.mp hss]
  exact ⟨hw, (List.append_nil _).symm⟩

theorem Handles.append (h : Handles w rs w' as) (h' : Handles w' rs' w'' as') :
    Handles w (rs ++ rs') w'' (as ++ as') := by
  intro c ss hw hss
  obtain ⟨ss₁, ss₂, rfl, h₁, h₂⟩ := List.map_eq_append_iff.mp hss
  obtain ⟨hw₁, hlog₁⟩ := h c ss₁ hw h₁
  obtain ⟨hw₂, hlog₂⟩ := h' _ ss₂ hw₁ h₂
  rw [Runs.run_append]
  exact ⟨hw₂, by rw [hlog₂, hlog₁, List.append_assoc]⟩

theorem Handles.cons (h : Handles w [r] w' as) (h' : Handles w' rs w'' as') : Handles w (r :: rs) w'' (as ++ as') :=
  h.append h'

/-- One record. -/
theorem handles_single (w : Option (BitVec 7)) (r : JtagTxn) :
    let s : Sample := ⟨r, none⟩
    Handles w [r]
      (if s.isRead then some r.dmiAddr else if s.isWrite || s.answers || s.resetsDtm then none else w)
      ((if s.answers then w.toList.map fun addr => .read addr r.dmiStatus (r.dmiRdata.toBits, r.dmiRdata.unknown)
        else []) ++
        if s.isWrite then [.write r.dmiAddr r.dmiWdata] else []) := by
  intro s c ss hw hss
  obtain ⟨⟨txn, busy⟩, rfl, hs⟩ := List.map_eq_singleton_iff.mp hss
  obtain rfl : txn = r := hs
  refine ⟨?_, ?_⟩
  · rw [Runs.run_cons, Runs.run_nil, DmChecker.getDtmTxn_waiting, hw]
    rfl
  · rw [Runs.run_cons, Runs.run_nil, DmChecker.getDtmTxn_log, DmChecker.checks, Sample.writes, hw]
    simp only [accessesOf, List.map_append]
    congr 2
    · change (if s.answers = true then _ else _ : List CheckerEvent).map _ = _
      split_ifs
      · rw [List.map_map]
        rfl
      · rfl
    · change (if s.isWrite = true then _ else _ : List CheckerEvent).map _ = _
      split_ifs <;> rfl

/-- What a response adds, if the read `w` waits for it. -/
def collected (w : Option (BitVec 7)) (r : JtagTxn) : List DmAccess :=
  w.toList.map fun addr => .read addr r.dmiStatus (r.dmiRdata.toBits, r.dmiRdata.unknown)

theorem collected_none (r : JtagTxn) : collected none r = [] := rfl

/-- A request to the DM in 41 bits. -/
theorem handles_packed {q : JtagTxn} {o : DmiRequest} (hq : q.Packs o) (hr : r.Completes q)
    (w : Option (BitVec 7)) :
    Handles w [r.scanRecord JTAG_DMI]
      (if o.op = DMI_READ then some o.addr
        else if o.op = DMI_WRITE ∨ r.dmiStatus.ne DMI_STAT_BUSY = true then none else w)
      ((if r.dmiStatus.ne DMI_STAT_BUSY then collected w r else []) ++
        if o.op = DMI_WRITE then [.write o.addr o.data] else []) := by
  obtain ⟨hir, hfields, hstatus, hrdata⟩ := hq.scanRecord hr
  have hop : (r.scanRecord JTAG_DMI).dmiOp = o.op := congrArg DmiRequest.op hfields
  have haddr : (r.scanRecord JTAG_DMI).dmiAddr = o.addr := congrArg DmiRequest.addr hfields
  have hdata : (r.scanRecord JTAG_DMI).dmiWdata = o.data := congrArg DmiRequest.data hfields
  have hsingle := handles_single w (r.scanRecord JTAG_DMI)
  have hreset : (⟨r.scanRecord JTAG_DMI, none⟩ : Sample).resetsDtm = false :=
    Sample.not_resetsDtm_of_isDmi (by simp [Sample.isDmi, hir])
  simpa [Sample.isRead, Sample.isWrite, Sample.answers, Sample.isDmi, hir, hop, haddr, hdata, hstatus, hrdata, hreset,
    collected] using hsingle

section
variable {q : JtagTxn} {o : DmiRequest} (hq : q.Packs o) (hr : r.Completes q)
include hq hr

theorem handles_nop_ready (hop : o.op = DMI_NOP) (hready : r.dmiStatus.ne DMI_STAT_BUSY = true)
    (w : Option (BitVec 7)) : Handles w [r.scanRecord JTAG_DMI] none (collected w r) := by
  have hone := handles_packed hq hr w
  rw [hop, if_neg (by decide), if_pos (.inr hready), if_pos hready, if_neg (by decide), List.append_nil] at hone
  exact hone

theorem handles_nop_busy (hop : o.op = DMI_NOP) (hbusy : r.dmiStatus.ne DMI_STAT_BUSY = false)
    (w : Option (BitVec 7)) : Handles w [r.scanRecord JTAG_DMI] w [] := by
  have hone := handles_packed hq hr w
  rw [hop, hbusy, if_neg (by decide), if_neg (by decide), if_neg (by decide), if_neg (by decide)] at hone
  exact hone

theorem handles_nop_idle (hop : o.op = DMI_NOP) : Handles none [r.scanRecord JTAG_DMI] none [] := by
  cases hready : r.dmiStatus.ne DMI_STAT_BUSY with
  | true => exact handles_nop_ready hq hr hop hready none
  | false => exact handles_nop_busy hq hr hop hready none

theorem handles_read (hop : o.op = DMI_READ) : Handles none [r.scanRecord JTAG_DMI] (some o.addr) [] := by
  have hone := handles_packed hq hr none
  rw [collected_none, ite_self ([] : List DmAccess), hop, if_pos rfl, if_neg (by decide)] at hone
  exact hone

theorem handles_write (hop : o.op = DMI_WRITE) :
    Handles none [r.scanRecord JTAG_DMI] none [.write o.addr o.data] := by
  have hone := handles_packed hq hr none
  rw [collected_none, ite_self ([] : List DmAccess), hop, if_neg (by decide), if_pos (.inl rfl), if_pos rfl] at hone
  exact hone

end

/-- A scan of DTMCS; with one of the reset bits the read that waits is dropped. -/
theorem handles_dtmcs {q : JtagTxn} (hr : r.Completes q) (hlen : q.drLen = 32) (w : Option (BitVec 7)) :
    Handles w [r.scanRecord JTAG_DTMCS] (if q.drDataIn.extractLsb' 16 2 ≠ 0 then none else w) [] := by
  have hbits : (r.scanRecord JTAG_DTMCS).drDataIn.extractLsb' 16 2 = q.drDataIn.extractLsb' 16 2 := by
    have hlen' : r.drLen = 32 := (congrArg JtagTxn.drLen hr.request :).trans hlen
    have hin : r.drDataIn = q.drDataIn := (congrArg JtagTxn.drDataIn hr.request :)
    change (ShiftRegister.lowBits r.drLen r.drDataIn).extractLsb' 16 2 = _
    rw [hlen', hin]
    apply BitVec.eq_of_getLsbD_eq
    intro i hi
    simp only [BitVec.getLsbD_extractLsb', ShiftRegister.getLsbD_lowBits]
    have hin : 16 + i < 32 := by omega
    simp [hin]
  have hir : (r.scanRecord JTAG_DTMCS).irVal = JTAG_DTMCS := by
    rw [JtagTxn.scanRecord, if_neg (by decide)]
  have hsingle := handles_single w (r.scanRecord JTAG_DTMCS)
  have hdmi : (JTAG_DTMCS == JTAG_DMI) = false := by decide
  simpa [Sample.isRead, Sample.isWrite, Sample.answers, Sample.isDmi, Sample.resetsDtm, hir, hdmi, hbits] using hsingle

end

/-! ## The sequences -/

namespace JtagDmiReadSeq

variable {addr : BitVec 7} {ir : BitVec 5}

/-- The poll that captures something answers the read, and no other does. -/
theorem polls_handles (addr : BitVec 7) : ∀ (ir : BitVec 5) (n : Nat) {txn : JtagTxn} {tr : List (JtagTxn × JtagTxn)}
    {res : JtagTxn × Bool}, Says (pollItems n txn) tr res → Completed tr →
    Handles (some addr) (reported ir tr) (if res.2 then none else some addr)
      (if res.2 then collected (some addr) res.1 else []) := by
  intro ir n
  induction n generalizing ir with
  | zero =>
    intro txn tr res h _
    obtain ⟨rfl, rfl⟩ := says_pure.mp h
    exact .nil
  | succ n ih =>
    intro txn tr res h htr
    obtain ⟨r, tr', rfl, hrest⟩ := says_item.mp h
    obtain ⟨hr, htr'⟩ := completed_cons.mp htr
    rw [reported_cons_of_select rfl (.inl rfl) hr]
    split_ifs at hrest with hcaptured
    · obtain ⟨rfl, rfl⟩ := says_pure.mp hrest
      exact handles_nop_ready nopItem_packs hr rfl hcaptured _
    · exact (handles_nop_busy nopItem_packs hr rfl (Bool.not_eq_true _ ▸ hcaptured) _).cons (ih _ hrest htr')

theorem drains_handles : ∀ (n : Nat) {ir : BitVec 5} {tr : List (JtagTxn × JtagTxn)} {res : Unit},
    Says (drainItems n) tr res → Completed tr → Handles none (reported ir tr) none [] := by
  intro n
  induction n with
  | zero =>
    intro ir tr res h _
    obtain ⟨rfl, -⟩ := says_pure.mp h
    exact .nil
  | succ n ih =>
    intro ir tr res h htr
    obtain ⟨r, tr', rfl, hrest⟩ := says_item.mp h
    obtain ⟨hr, htr'⟩ := completed_cons.mp htr
    rw [reported_cons_of_select rfl (.inl rfl) hr]
    exact (handles_nop_idle nopItem_packs hr rfl).cons (ih hrest htr')

theorem issueRead_handles {tr : List (JtagTxn × JtagTxn)} {res : JtagTxn × Bool}
    (h : Says (issueReadItem addr) tr res) (htr : Completed tr) :
    Handles none (reported ir tr) (some addr) [] := by
  obtain ⟨r, tr', rfl, hrest⟩ := says_item.mp h
  obtain ⟨rfl, -⟩ := says_pure.mp hrest
  have hr := (completed_cons.mp htr).1
  rw [reported_cons_of_select rfl (.inl rfl) hr]
  exact handles_read (readItem_packs addr) hr rfl

/-- However often the read is started again, it is collected once, or it gives up. -/
theorem attempts_handles : ∀ (resets : Nat) {i : JtagTxn × Bool} {ir : BitVec 5} {tr : List (JtagTxn × JtagTxn)}
    {res : JtagTxn × Bool}, Says (attemptItems addr resets i) tr res → Completed tr → res.2 = false →
    Handles (some addr) (reported ir tr) none (collected (some addr) res.1) := by
  intro resets
  induction resets with
  | zero =>
    intro i ir tr res h htr herror
    obtain ⟨tr₁, tr₂, p, rfl, hpolls, hrest⟩ := says_bind.mp h
    obtain ⟨rfl, rfl⟩ := says_pure.mp hrest
    have hcaptured : p.2 = true := by simpa using herror
    have hone := polls_handles addr ir _ hpolls (completed_append.mp htr).1
    rw [hcaptured] at hone
    rw [List.append_nil]
    exact hone
  | succ resets ih =>
    intro i ir tr res h htr herror
    obtain ⟨tr₁, tr₂, p, rfl, hpolls, hrest⟩ := says_bind.mp h
    obtain ⟨htr₁, htr₂⟩ := completed_append.mp htr
    have hone := polls_handles addr ir _ hpolls htr₁
    split_ifs at hrest with hcaptured
    · obtain ⟨rfl, rfl⟩ := says_pure.mp hrest
      rw [hcaptured] at hone
      rw [List.append_nil]
      exact hone
    · obtain ⟨r, tr₃, rfl, hagain⟩ := says_item.mp hrest
      obtain ⟨tr₄, tr₅, _, rfl, hdrains, hissues⟩ := says_bind.mp hagain
      obtain ⟨tr₆, tr₇, j, rfl, hissue, hattempts⟩ := says_bind.mp hissues
      obtain ⟨hr, htr₃⟩ := completed_cons.mp htr₂
      obtain ⟨htr₄, htr₅⟩ := completed_append.mp htr₃
      obtain ⟨htr₆, htr₇⟩ := completed_append.mp htr₅
      rw [if_neg hcaptured, if_neg hcaptured] at hone
      -- the reset drops the read that waits, and the next request puts it back
      have hdrop : Handles (some addr) [r.scanRecord JTAG_DTMCS] none [] := handles_dtmcs hr rfl _
      rw [reported_append, reported_cons_of_select rfl (.inr rfl) hr, reported_append, reported_append]
      exact hone.append (hdrop.cons ((drains_handles _ hdrains htr₄).append
        ((issueRead_handles hissue htr₆).append (ih hattempts htr₇ herror))))

end JtagDmiReadSeq

/-- A call of the API: no walk and no raw scan. -/
def Operation.Plain (op : Operation) : Prop :=
  op.Scans ∧ (∀ op' addr data, op ≠ .dmiScan op' addr data) ∧ ∀ ir drLen data pause, op ≠ .jtagScan ir drLen data pause

/-- A read succeeds: its last record says so. -/
def Command.Succeeded : Command → List JtagTxn → Prop
  | .dmiRead _, block => ∀ t, block.getLast? = some t → t.dmiStatus = .ofBits DMI_STAT_SUCCESS
  | _, _ => True

/-- The same of a call. -/
def Operation.Succeeded (op : Operation) (block : List JtagTxn) : Prop :=
  ∀ c, op.command = some c → c.Succeeded block

/-- **What the checker makes of a call.** -/
theorem Operation.Plain.handles {op : Operation} (hop : op.Plain) {c : Command} (hc : op.command = some c)
    {now : BitVec 32} {tr : List (JtagTxn × JtagTxn)} {v : FourState 32} {ir : BitVec 5}
    (h : Says (c.sequence now) tr v) (htr : Completed tr) (hsucceeded : c.Succeeded (reported ir tr)) :
    Handles none (reported ir tr) none (c.accesses (v.toBits, v.unknown)) := by
  cases op with
  | read addr =>
    cases hc
    obtain ⟨tr₁, tr₂, p, rfl, hread, hrest⟩ := says_bind.mp h
    obtain ⟨rfl, rfl⟩ := says_pure.mp hrest
    rw [List.append_nil] at htr hsucceeded ⊢
    obtain ⟨-, rs, t, hblock, -, hstatus, -⟩ := jtagDmiReadSeq_last ir hread htr
    have hlast : p.1.dmiStatus = .ofBits DMI_STAT_SUCCESS := by
      rw [← hstatus]
      exact hsucceeded t (by rw [hblock, List.getLast?_concat])
    have hdone : p.2 = false := by
      by_contra herror
      have hbusy := jtagDmiReadSeq_gaveUp hread (Bool.not_eq_false _ ▸ herror)
      rw [hlast] at hbusy
      cases hbusy
    obtain ⟨tr₃, tr₄, i, rfl, hissue, hattempts⟩ := says_bind.mp hread
    obtain ⟨htr₃, htr₄⟩ := completed_append.mp htr
    have haccesses : (Command.dmiRead (BitVec.ofInt 7 addr)).accesses (p.1.dmiRdata.toBits, p.1.dmiRdata.unknown) =
        collected (some (BitVec.ofInt 7 addr)) p.1 := by
      rw [collected, hlast]
      rfl
    rw [reported_append, haccesses]
    exact (JtagDmiReadSeq.issueRead_handles hissue htr₃).append
      (JtagDmiReadSeq.attempts_handles _ hattempts htr₄ hdone)
  | write addr data =>
    cases hc
    obtain ⟨tr₁, tr₂, _, rfl, hwrite, hrest⟩ := says_bind.mp h
    obtain ⟨rfl, -⟩ := says_pure.mp hrest
    rw [List.append_nil] at htr ⊢
    obtain ⟨r, rfl, hr, -, -, -⟩ := says_single ir hwrite htr
    rw [reported_cons_of_select rfl (.inl rfl) hr]
    exact handles_write (o := ⟨DMI_WRITE, BitVec.ofInt 7 addr, BitVec.ofInt 32 data⟩) ⟨rfl, rfl, rfl⟩ hr rfl
  | dtmcs wdata =>
    cases hc
    obtain ⟨r, rfl, hr, -, -, -⟩ := says_single ir h htr
    rw [reported_cons_of_select rfl (.inr rfl) hr]
    have hone := handles_dtmcs hr rfl none
    rw [ite_self] at hone
    exact hone
  | reset =>
    cases hc
    obtain ⟨tr₁, tr₂, _, rfl, hreset, hrest⟩ := says_bind.mp h
    obtain ⟨rfl, -⟩ := says_pure.mp hrest
    rw [List.append_nil] at htr ⊢
    obtain ⟨r, -, hr, -, hreported, -⟩ := says_single ir hreset htr
    have hno : r.scansDr = false := (JtagDriver.scansDr_of_request hr.request).trans rfl
    rw [hreported, JtagTxn.scanRecords, if_neg (by simp [hno])]
    exact .nil
  | simTime =>
    cases hc
    obtain ⟨rfl, -⟩ := says_pure.mp h
    exact .nil
  | dmiScan op' addr data => exact absurd rfl (hop.2.1 op' addr data)
  | jtagScan ir' drLen data pause => exact absurd rfl (hop.2.2 ir' drLen data pause)
  | tmsWalk tms => exact absurd rfl (hop.1.2 tms)
  | emitLog text verbosity => cases hc

/-! ## Sessions -/

/-- What is put for a read is its value. -/
theorem accesses_put (r : Request) (data xmask : BitVec 32) :
    (unpack r).accesses (r.op.put data xmask) = (unpack r).accesses (data, xmask) := by
  unfold unpack
  cases r.op <;> rfl

theorem Stack.Served.handles {puts : List (Request × (BitVec 32 × BitVec 32))} {ir : BitVec 5}
    {blocks : List (List JtagTxn)} (h : Served puts ir blocks)
    (hplain : ∀ p ∈ puts, ∃ op : Operation, op.Plain ∧ op.command = some (unpack p.1))
    (hsucceeded : ∀ e ∈ puts.zip blocks, (unpack e.1.1).Succeeded e.2) :
    Handles none blocks.flatten none (puts.flatMap fun p => (unpack p.1).accesses p.2) := by
  induction h with
  | nil => exact .nil
  | @concat puts ir blocks r now tr v h hasked htr ih =>
    rw [List.zip_append h.length] at hsucceeded
    obtain ⟨op, hop, hcommand⟩ := hplain _ (List.mem_append_right _ (List.mem_singleton_self _))
    have hlast := hop.handles hcommand hasked htr
      (hsucceeded ((r, _), _) (List.mem_append_right _ (List.mem_singleton_self _)))
    rw [List.flatten_append, List.flatten_singleton, List.flatMap_append, List.flatMap_singleton, accesses_put]
    exact (ih (fun p hp => hplain p (List.mem_append_left _ hp))
      (fun e he => hsucceeded e (List.mem_append_left _ he))).append hlast

/-- The accesses of the commands that were served are those of the first operations. -/
theorem accesses_of_commands {puts : List (Request × (BitVec 32 × BitVec 32))} {ops : List Operation}
    (h : (puts.map fun p => some (unpack p.1)) <+: ops.map Operation.command) :
    (puts.flatMap fun p => (unpack p.1).accesses p.2) =
      (List.zipWith Operation.accesses ops (puts.map Prod.snd)).flatten := by
  induction puts generalizing ops with
  | nil => simp
  | cons p puts ih =>
    cases ops with
    | nil => simp at h
    | cons op ops =>
      rw [List.map_cons, List.map_cons, List.cons_prefix_cons] at h
      obtain ⟨hcommand, hrest⟩ := h
      rw [List.flatMap_cons, List.map_cons, List.zipWith_cons_cons, List.flatten_cons, ih hrest, Operation.accesses,
        ← hcommand]
      simp

/-- Every read of a call has succeeded. -/
theorem Operation.status_of_mem_accesses {op : Operation} {answer answer' : BitVec 32 × BitVec 32} {addr : BitVec 7}
    {status : FourState 2} (h : .read addr status answer' ∈ op.accesses answer) :
    status = .ofBits DMI_STAT_SUCCESS := by
  obtain ⟨c, -, hc⟩ := List.mem_flatMap.mp h
  cases c with
  | dmiRead a => cases List.mem_singleton.mp hc; rfl
  | dmiWrite a d => cases List.mem_singleton.mp hc
  | _ => cases hc

/-- What an event counts for, if it is of no read or of one that has succeeded. -/
theorem CheckerEvent.counts_of_success {e : CheckerEvent}
    (h : ∀ addr status answer, e.access = .read addr status answer → status = .ofBits DMI_STAT_SUCCESS) :
    e.counts = e.access.isRead ∧ (e.counts && e.hasUnknown) = e.access.hasUnknown ∧
      (e.counts && decide e.Differs) = decide e.Differs := by
  cases e with
  | write addr data busy => exact ⟨rfl, rfl, (decide_eq_false not_false).symm⟩
  | check addr raw status before =>
    obtain rfl := h addr status _ rfl
    have hcounts : (CheckerEvent.check addr raw (.ofBits DMI_STAT_SUCCESS) before).counts = true := rfl
    have hknown : (FourState.ofBits DMI_STAT_SUCCESS).known = true := rfl
    refine ⟨rfl, ?_, ?_⟩
    · rw [hcounts, Bool.true_and, hasUnknown, hknown, Bool.not_true, Bool.or_false]
      rfl
    · rw [hcounts, Bool.true_and]

/-- **The counters, read off the accesses**, if every read has succeeded. -/
theorem DmChecker.counters_of_accesses (m : DmRefModel) (ss : List Sample)
    (h : ∀ addr status answer, .read addr status answer ∈ accessesOf (DmChecker.after m ss).log →
      status = .ofBits DMI_STAT_SUCCESS) :
    let c := DmChecker.after m ss
    c.totalChecked = (accessesOf c.log).countP DmAccess.isRead ∧
      c.totalUnknown = (accessesOf c.log).countP DmAccess.hasUnknown ∧
      c.totalMismatches = c.log.countP fun e => decide e.Differs := by
  intro c
  have hone : ∀ e ∈ c.log, _ := fun e he => CheckerEvent.counts_of_success fun addr status answer haccess =>
    h addr status answer (haccess ▸ List.mem_map_of_mem he)
  obtain ⟨hchecked, hunknown, hmismatches⟩ := DmChecker.after_counters m ss
  rw [Nat.zero_add] at hchecked hunknown hmismatches
  refine ⟨?_, ?_, ?_⟩
  · rw [accessesOf, List.countP_map, hchecked]
    exact List.countP_congr fun e he => by rw [(hone e he).1]; rfl
  · rw [accessesOf, List.countP_map, hunknown]
    exact List.countP_congr fun e he => by rw [(hone e he).2.1]; rfl
  · rw [hmismatches]
    exact List.countP_congr fun e he => by rw [(hone e he).2.2]

section
variable {ops : List Operation} (hops : ∀ op ∈ ops, op.Plain) (hlen : ops.length < 2 ^ 63) (tdo : Nat → FourState 1)
include hops hlen

/-- **The checker sees the calls.**  In every interleaving of the client, the server thread and the simulator,
whatever comes back on TDO and whatever the backdoor shows of busy: as long as every read ends with success, the
events of the checker are the accesses of the calls, each once and in order, however often a read was started again,
and the bits it checks for a read are those the call returned or will return.  Its counters are the number of the
reads, of those that brought an unknown bit, and of those that differ from the prediction of the model, each compared
with what the events before it have made of the first model. -/
theorem checker_sees_calls (m : DmRefModel) (actions : List Action) (ss : List Sample) :
    let s := Runs.run (Stack.step tdo) (.connected tdo ops) actions
    ss.map Sample.txn = s.driver.seen.records →
      (∀ (k : Nat) op block, ops[k]? = some op → s.blocks[k]? = some block → Operation.Succeeded op block) →
        ∃ answers, answers.length ≤ s.link.returned.length + 1 ∧
          s.link.returned <+: List.zipWith Operation.outcome ops answers ∧
          let accesses := (List.zipWith Operation.accesses ops answers).flatten
          let c := DmChecker.after m ss
          accessesOf c.log = accesses ∧
            c.totalChecked = accesses.countP DmAccess.isRead ∧
            c.totalUnknown = accesses.countP DmAccess.hasUnknown ∧
            c.totalMismatches = (c.log.countP fun e => decide e.Differs) ∧
            ∀ (k : Nat) addr raw status before, c.log[k]? = some (.check addr raw status before) →
              before = replay m (c.log.take k) := by
  intro s hss hsucceeded
  have hscans : ∀ op ∈ ops, op.Scans := fun op hop => (hops op hop).1
  have hinv := Stack.inv_run tdo hscans hlen actions
  obtain ⟨ir, hserved, hidle⟩ := hinv.pins
  have hdelivers := hinv.reached.delivers (fun op hop => ⟨(hscans op hop).1, (hscans op hop).survives⟩) hlen
  have hcommands := hinv.commands hscans hlen
  have hat : ∀ (k : Nat) (p : Request × (BitVec 32 × BitVec 32)), s.link.puts[k]? = some p →
      ∃ op, ops[k]? = some op ∧ op.command = some (unpack p.1) := by
    intro k p hp
    have hserve : (s.link.puts.map fun p => some (unpack p.1))[k]? = some (some (unpack p.1)) := by
      rw [List.getElem?_map, hp]
      rfl
    have hget := getElem?_of_prefix hcommands hserve
    rw [List.getElem?_map, Option.map_eq_some_iff] at hget
    exact hget
  have hhandles := hserved.handles
    (fun p hp => by
      obtain ⟨k, hk⟩ := List.mem_iff_getElem?.mp hp
      obtain ⟨op, hop, hcommand⟩ := hat k p hk
      exact ⟨op, hops op (List.mem_of_getElem? hop), hcommand⟩)
    (fun e he => by
      obtain ⟨k, hk⟩ := List.mem_iff_getElem?.mp he
      obtain ⟨hput, hblock⟩ := List.getElem?_zip_eq_some.mp hk
      obtain ⟨op, hop, hcommand⟩ := hat k e.1 hput
      exact hsucceeded k op e.2 hop hblock _ hcommand)
  have hlog : accessesOf (DmChecker.after m ss).log =
      (List.zipWith Operation.accesses ops (s.link.puts.map Prod.snd)).flatten := by
    obtain ⟨-, hlog⟩ := hhandles { model := m } ss rfl (hss.trans hidle.records)
    rw [← accesses_of_commands hcommands]
    exact hlog
  have hcounters := DmChecker.counters_of_accesses m ss (fun addr status answer hmem => by
    rw [hlog, List.mem_flatten] at hmem
    obtain ⟨as, has, hmem⟩ := hmem
    obtain ⟨n, hn, rfl⟩ := List.mem_iff_getElem.mp has
    rw [List.getElem_zipWith] at hmem
    exact Operation.status_of_mem_accesses hmem)
  refine ⟨s.link.puts.map Prod.snd, ?_, hdelivers.returned, hlog, ?_, ?_, hcounters.2.2, ?_⟩
  · rw [List.length_map]
    have hshows := (hinv.shows hscans hlen).returned.2
    rwa [← hserved.length] at hshows
  · rw [hcounters.1, hlog]
  · rw [hcounters.2.1, hlog]
  · intro k addr raw status before hk
    exact DmChecker.before_of_check m ss hk

end

/-- A write and a read that brings 5, which `dmstatus` should not be. -/
theorem checker_sees_calls_write_read :
    let tdo : Nat → FourState 1 := fun n => .ofBits (if n = 136 ∨ n = 138 then 1 else 0)
    let call : List Action := [.call, .receive, .poll, .put 0 0, .wake, .reply]
    let s := Runs.run (Stack.step tdo) (.connected tdo [.write 0x10 1, .read 0x11]) (call ++ call)
    let ss : List Sample := s.driver.seen.records.map fun t => ⟨t, some false⟩
    let c := DmChecker.after (DmRefModel.declared {}) ss
    s.link.returned = [.ok none, .ok (some 5)] ∧
      accessesOf c.log = [.write 0x10 1, .read 0x11 (.ofBits DMI_STAT_SUCCESS) (5, 0)] ∧
      c.totalChecked = 1 ∧ c.totalUnknown = 0 ∧ c.totalMismatches = 1 := by
  intro tdo call s ss c
  have hops : ∀ op ∈ [Operation.write 0x10 1, .read 0x11], op.Plain := by
    intro op hop
    simp only [List.mem_cons, List.not_mem_nil, or_false] at hop
    rcases hop with rfl | rfl <;> exact ⟨⟨by decide, by simp⟩, by simp, by simp⟩
  have hreturned : s.link.returned = [.ok none, .ok (some 5)] := by decide +kernel
  have hlast : s.blocks.map (fun block => block.getLast?.map JtagTxn.dmiStatus) =
      [some (.ofBits DMI_STAT_SUCCESS), some (.ofBits DMI_STAT_SUCCESS)] := by decide +kernel
  have hsucceeded : ∀ (k : Nat) op block, [Operation.write 0x10 1, .read 0x11][k]? = some op →
      s.blocks[k]? = some block → Operation.Succeeded op block := by
    intro k op block _ hblock c _
    cases c with
    | dmiRead addr =>
      intro t ht
      have hmem : some t.dmiStatus ∈ s.blocks.map (fun block => block.getLast?.map JtagTxn.dmiStatus) :=
        List.mem_map.mpr ⟨block, List.mem_of_getElem? hblock, by rw [ht]; rfl⟩
      rw [hlast] at hmem
      simpa using hmem
    | _ => trivial
  have hss : ss.map Sample.txn = s.driver.seen.records := by
    rw [List.map_map]
    exact List.map_id _
  obtain ⟨answers, -, -, hlog, hchecked, hunknown, -, -⟩ :=
    checker_sees_calls hops (by decide) tdo (DmRefModel.declared {}) (call ++ call) ss hss hsucceeded
  have haccesses : accessesOf c.log = [.write 0x10 1, .read 0x11 (.ofBits DMI_STAT_SUCCESS) (5, 0)] := by
    decide +kernel
  rw [← hlog, haccesses] at hchecked hunknown
  exact ⟨hreturned, haccesses, hchecked, hunknown, by decide +kernel⟩

end RiscvDbg
