import Mathlib.Data.List.Basic
import RiscvDbg.Lib.Runs

/-!
# The AXI monitor

Model of `dbg_axi_monitor` (`sv/agents/axi/dbg_axi_monitor.sv`) with the configuration and the
transactions of the same directory: two processes on the rising edge of the bus clock, one for each
direction.  The waits inside a loop body become the states of a process.

* `AxiCycle` — what the tap shows at one edge.  Out of reset the handshake signals are 0 or 1.
* `monitorWrites`, `monitorReads` — one edge: the state of the process and what is written to `ap`.
* `WriteLegal`, `ReadLegal` — one transaction at a time in each direction, its beats and its response in
  order.  That a burst has `AxLEN + 1` beats is not needed.
* `completedWrites`, `completedReads` — the transactions: addresses, bursts and responses of the same number.

`monitor_writes` looks for the first beat at the edge after the address and for the next address at the edge
after the response, and so does `monitor_reads`.  The transactions are reassembled if nothing falls on the
edge before: `axi_reassembly`.
-/

set_option autoImplicit false

namespace RiscvDbg

/-- What `dbg_axi_if` shows at a rising edge at `time`. -/
structure AxiCycle (addrW dataW idW : Nat) where
  time : Nat
  rstN : Bool := true
  awId : BitVec idW := 0
  awAddr : BitVec addrW := 0
  awLen : BitVec 8 := 0
  awSize : BitVec 3 := 0
  awBurst : BitVec 2 := 0
  awValid : Bool := false
  awReady : Bool := false
  wData : BitVec dataW := 0
  wStrb : BitVec (dataW / 8) := 0
  wLast : Bool := false
  wValid : Bool := false
  wReady : Bool := false
  bResp : BitVec 2 := 0
  bValid : Bool := false
  bReady : Bool := false
  arId : BitVec idW := 0
  arAddr : BitVec addrW := 0
  arLen : BitVec 8 := 0
  arSize : BitVec 3 := 0
  arBurst : BitVec 2 := 0
  arValid : Bool := false
  arReady : Bool := false
  rData : BitVec dataW := 0
  rResp : BitVec 2 := 0
  rLast : Bool := false
  rValid : Bool := false
  rReady : Bool := false
  deriving DecidableEq, Repr

/-- `dir_e`. -/
inductive AxiDir where
  | read
  | write
  deriving DecidableEq, Repr

/-- `dbg_axi_txn`. -/
structure AxiTxn (addrW dataW idW : Nat) where
  dir : AxiDir
  addr : BitVec addrW
  len : BitVec 8
  size : BitVec 3
  burst : BitVec 2
  id : BitVec idW
  data : List (BitVec dataW) := []
  strb : List (BitVec (dataW / 8)) := []
  resp : BitVec 2 := 0
  region : String := ""
  tStart : Nat
  tEnd : Nat := 0
  deriving DecidableEq, Repr

/-- `region_range_t`. -/
structure RegionRange where
  lo : BitVec 64
  hi : BitVec 64
  name : String

/-- `dbg_axi_cfg`, without the name and the verbosity of the log lines. -/
structure AxiCfg where
  monitorWrites : Bool := true
  monitorReads : Bool := true
  addrLo : BitVec 64 := 0
  addrHi : BitVec 64 := BitVec.allOnes 64
  regionName : BitVec 64 → Option String := fun _ => none
  regionRanges : List RegionRange := []

namespace AxiCfg

variable (cfg : AxiCfg)

/-- The name of an address in a range, with its offset. -/
def rangeName (addr : BitVec 64) (r : RegionRange) : String :=
  if addr = r.lo then r.name
  else r.name ++ "+0x" ++ String.ofList (Nat.toDigits 16 (addr - r.lo).toNat)

/-- `annotate`. -/
def annotate (addr : BitVec 64) : String :=
  match cfg.regionName addr with
  | some name => name
  | none =>
    match cfg.regionName (addr &&& ~~~3#64) with
    | some name => name
    | none =>
      match cfg.regionName (addr &&& ~~~7#64) with
      | some name => name
      | none =>
        match cfg.regionRanges.find? fun r => r.lo ≤ addr && addr ≤ r.hi with
        | some r => rangeName addr r
        | none => ""

/-- `in_window`. -/
def inWindow (addr : BitVec 64) : Bool := cfg.addrLo ≤ addr && addr ≤ cfg.addrHi

end AxiCfg

section
variable {addrW dataW idW : Nat}

namespace AxiTxn

variable (cfg : AxiCfg) (txn : AxiTxn addrW dataW idW)

/-- The address lies in the window. -/
def inWindow : Bool := cfg.inWindow (txn.addr.setWidth 64)

/-- The transaction with the name of its region. -/
def annotated : AxiTxn addrW dataW idW := { txn with region := cfg.annotate (txn.addr.setWidth 64) }

/-- `report_txn`: what is written to `ap`. -/
def report : List (AxiTxn addrW dataW idW) := if !txn.inWindow cfg then [] else [txn.annotated cfg]

end AxiTxn

namespace AxiCycle

variable (c : AxiCycle addrW dataW idW)

/-- The handshakes of the five channels. -/
def awShake : Bool := c.awValid && c.awReady
def wShake : Bool := c.wValid && c.wReady
def bShake : Bool := c.bValid && c.bReady
def arShake : Bool := c.arValid && c.arReady
def rShake : Bool := c.rValid && c.rReady

/-- The transaction made of an AW handshake. -/
def writeTxn : AxiTxn addrW dataW idW where
  dir := .write
  addr := c.awAddr
  len := c.awLen
  size := c.awSize
  burst := c.awBurst
  id := c.awId
  tStart := c.time

/-- The transaction made of an AR handshake. -/
def readTxn : AxiTxn addrW dataW idW where
  dir := .read
  addr := c.arAddr
  len := c.arLen
  size := c.arSize
  burst := c.arBurst
  id := c.arId
  tStart := c.time

end AxiCycle

/-! ## The monitor -/

/-- Where `monitor_writes` waits: for an address, for the last beat or for the response. -/
inductive WriteWait (addrW dataW idW : Nat) where
  | address
  | beats (txn : AxiTxn addrW dataW idW)
  | response (txn : AxiTxn addrW dataW idW)
  deriving DecidableEq, Repr

/-- `monitor_writes`, one edge. -/
def monitorWrites (cfg : AxiCfg) (s : WriteWait addrW dataW idW) (c : AxiCycle addrW dataW idW) :
    WriteWait addrW dataW idW × List (AxiTxn addrW dataW idW) :=
  match s with
  | .address =>
    if !c.rstN then (.address, [])
    else if c.awShake then (.beats c.writeTxn, [])
    else (.address, [])
  | .beats txn =>
    let txn := if c.wShake then { txn with data := txn.data ++ [c.wData], strb := txn.strb ++ [c.wStrb] } else txn
    if c.wShake && c.wLast then (.response txn, []) else (.beats txn, [])
  | .response txn =>
    if c.bShake then (.address, AxiTxn.report cfg { txn with resp := c.bResp, tEnd := c.time })
    else (.response txn, [])

/-- Where `monitor_reads` waits: for an address or for the last beat. -/
inductive ReadWait (addrW dataW idW : Nat) where
  | address
  | beats (txn : AxiTxn addrW dataW idW)
  deriving DecidableEq, Repr

/-- `monitor_reads`, one edge. -/
def monitorReads (cfg : AxiCfg) (s : ReadWait addrW dataW idW) (c : AxiCycle addrW dataW idW) :
    ReadWait addrW dataW idW × List (AxiTxn addrW dataW idW) :=
  match s with
  | .address =>
    if !c.rstN then (.address, [])
    else if c.arShake then (.beats c.readTxn, [])
    else (.address, [])
  | .beats txn =>
    -- the last beat's response wins
    let txn := if c.rShake then { txn with data := txn.data ++ [c.rData], resp := c.rResp } else txn
    if c.rShake && c.rLast then (.address, AxiTxn.report cfg { txn with tEnd := c.time }) else (.beats txn, [])

/-- `run_phase`: what is reported of the writes. -/
def reportedWrites (cfg : AxiCfg) (cs : List (AxiCycle addrW dataW idW)) : List (AxiTxn addrW dataW idW) :=
  if cfg.monitorWrites then Runs.outputs (monitorWrites cfg) .address cs else []

/-- `run_phase`: what is reported of the reads. -/
def reportedReads (cfg : AxiCfg) (cs : List (AxiCycle addrW dataW idW)) : List (AxiTxn addrW dataW idW) :=
  if cfg.monitorReads then Runs.outputs (monitorReads cfg) .address cs else []

/-! ## The bus -/

/-- What a direction of the bus waits for. -/
inductive AxiPhase where
  | idle
  | data
  | resp
  deriving DecidableEq, Repr

namespace AxiCycle

/-- The write phase after a cycle.  A response ends the transaction before, an address begins the next. -/
def writePhase (p : AxiPhase) (c : AxiCycle addrW dataW idW) : AxiPhase :=
  let p := if c.bShake then .idle else p
  let p := if c.awShake then .data else p
  if c.wShake && c.wLast then .resp else p

/-- Out of reset, one write at a time: its beats in the cycle of the address or later, its response after
the last beat, the next address no earlier than the response. -/
structure WriteLegal (p : AxiPhase) (c : AxiCycle addrW dataW idW) : Prop where
  outOfReset : c.rstN = true
  aw : c.awShake = true → p = .idle ∨ p = .resp ∧ c.bShake = true
  w : c.wShake = true → p = .data ∨ c.awShake = true
  b : c.bShake = true → p = .resp

instance (p : AxiPhase) (c : AxiCycle addrW dataW idW) : Decidable (c.WriteLegal p) :=
  decidable_of_iff (c.rstN = true ∧ (c.awShake = true → p = .idle ∨ p = .resp ∧ c.bShake = true) ∧
      (c.wShake = true → p = .data ∨ c.awShake = true) ∧ (c.bShake = true → p = .resp))
    ⟨fun h => ⟨h.1, h.2.1, h.2.2.1, h.2.2.2⟩, fun h => ⟨h.outOfReset, h.aw, h.w, h.b⟩⟩

/-- The read phase after a cycle. -/
def readPhase (p : AxiPhase) (c : AxiCycle addrW dataW idW) : AxiPhase :=
  let p := if c.rShake && c.rLast then .idle else p
  if c.arShake then .data else p

/-- Out of reset, one read at a time: its beats after the address, the next address no earlier than the
last beat. -/
structure ReadLegal (p : AxiPhase) (c : AxiCycle addrW dataW idW) : Prop where
  outOfReset : c.rstN = true
  ar : c.arShake = true → p = .idle ∨ c.rShake = true ∧ c.rLast = true
  r : c.rShake = true → p = .data

instance (p : AxiPhase) (c : AxiCycle addrW dataW idW) : Decidable (c.ReadLegal p) :=
  decidable_of_iff (c.rstN = true ∧ (c.arShake = true → p = .idle ∨ c.rShake = true ∧ c.rLast = true) ∧
      (c.rShake = true → p = .data))
    ⟨fun h => ⟨h.1, h.2.1, h.2.2⟩, fun h => ⟨h.outOfReset, h.ar, h.r⟩⟩

/-- No beat falls on the address of its write, and no address on the response to the write before it. -/
structure WriteStaggered (c : AxiCycle addrW dataW idW) : Prop where
  beat : c.awShake = true → c.wShake = false
  response : c.awShake = true → c.bShake = false

instance (c : AxiCycle addrW dataW idW) : Decidable c.WriteStaggered :=
  decidable_of_iff ((c.awShake = true → c.wShake = false) ∧ (c.awShake = true → c.bShake = false))
    ⟨fun h => ⟨h.1, h.2⟩, fun h => ⟨h.beat, h.response⟩⟩

/-- No address falls on the last beat of the read before it. -/
def ReadStaggered (c : AxiCycle addrW dataW idW) : Prop := c.arShake = true → c.rShake = false

instance (c : AxiCycle addrW dataW idW) : Decidable c.ReadStaggered :=
  inferInstanceAs (Decidable (c.arShake = true → c.rShake = false))

end AxiCycle

/-- The bursts that a list of beats completes, after the beats `acc` of the one that has begun. -/
def burstsFrom {β : Type} (last : β → Bool) (acc : List β) : List β → List (List β)
  | [] => []
  | b :: bs => if last b then (acc ++ [b]) :: burstsFrom last [] bs else burstsFrom last (acc ++ [b]) bs

/-- A write with its beats. -/
def AxiTxn.withBeats (aw : AxiCycle addrW dataW idW) (beats : List (AxiCycle addrW dataW idW)) :
    AxiTxn addrW dataW idW :=
  { aw.writeTxn with data := beats.map (·.wData), strb := beats.map (·.wStrb) }

/-- A write of an address, its beats and its response. -/
def AxiTxn.ofWrite (write : AxiCycle addrW dataW idW × List (AxiCycle addrW dataW idW))
    (b : AxiCycle addrW dataW idW) : AxiTxn addrW dataW idW :=
  { AxiTxn.withBeats write.1 write.2 with resp := b.bResp, tEnd := b.time }

/-- The completed writes: the addresses, the bursts and the responses of the same number. -/
def completedWrites (cs : List (AxiCycle addrW dataW idW)) : List (AxiTxn addrW dataW idW) :=
  List.zipWith AxiTxn.ofWrite
    ((cs.filter (·.awShake)).zip (burstsFrom (·.wLast) [] (cs.filter (·.wShake)))) (cs.filter (·.bShake))

/-- A read with its beats; the last one carries the response. -/
def AxiTxn.ofRead (ar : AxiCycle addrW dataW idW) (beats : List (AxiCycle addrW dataW idW)) :
    AxiTxn addrW dataW idW :=
  { ar.readTxn with
    data := beats.map (·.rData)
    resp := (beats.getLast?.map (·.rResp)).getD 0
    tEnd := (beats.getLast?.map (·.time)).getD 0 }

/-- The completed reads: the addresses and the bursts of the same number. -/
def completedReads (cs : List (AxiCycle addrW dataW idW)) : List (AxiTxn addrW dataW idW) :=
  List.zipWith AxiTxn.ofRead (cs.filter (·.arShake)) (burstsFrom (·.rLast) [] (cs.filter (·.rShake)))

/-! ## Reassembly -/

/-- What is to be reported of the transactions. -/
def AxiTxn.reports (cfg : AxiCfg) (txns : List (AxiTxn addrW dataW idW)) : List (AxiTxn addrW dataW idW) :=
  (txns.filter (·.inWindow cfg)).map (·.annotated cfg)

theorem AxiTxn.reports_cons (cfg : AxiCfg) (txn : AxiTxn addrW dataW idW) (txns : List (AxiTxn addrW dataW idW)) :
    reports cfg (txn :: txns) = txn.report cfg ++ reports cfg txns := by
  unfold reports report
  cases h : txn.inWindow cfg <;> simp [h]

/-- `monitor_writes` waits for what the bus does, and has the address and the beats that are there. -/
inductive WriteWait.Follows :
    WriteWait addrW dataW idW → AxiPhase → List (AxiCycle addrW dataW idW) →
      List (List (AxiCycle addrW dataW idW)) → List (AxiCycle addrW dataW idW) → Prop
  | address : Follows .address .idle [] [] []
  | beats (aw : AxiCycle addrW dataW idW) (acc : List (AxiCycle addrW dataW idW)) :
      Follows (.beats (AxiTxn.withBeats aw acc)) .data [aw] [] acc
  | response (aw : AxiCycle addrW dataW idW) (burst : List (AxiCycle addrW dataW idW)) :
      Follows (.response (AxiTxn.withBeats aw burst)) .resp [aw] [burst] []

/-- The writes that the handshakes complete, after those that have been seen. -/
def writesAfter (aws : List (AxiCycle addrW dataW idW)) (bursts : List (List (AxiCycle addrW dataW idW)))
    (acc : List (AxiCycle addrW dataW idW)) (cs : List (AxiCycle addrW dataW idW)) :
    List (AxiTxn addrW dataW idW) :=
  List.zipWith AxiTxn.ofWrite
    ((aws ++ cs.filter (·.awShake)).zip (bursts ++ burstsFrom (·.wLast) acc (cs.filter (·.wShake))))
    (cs.filter (·.bShake))

namespace AxiCycle

variable {c : AxiCycle addrW dataW idW} {p : AxiPhase}

theorem WriteLegal.no_b (h : c.WriteLegal p) (hp : p ≠ .resp) : c.bShake = false :=
  Bool.eq_false_iff.mpr fun hb => hp (h.b hb)

theorem WriteLegal.no_aw (h : c.WriteLegal p) (hp : p ≠ .idle) (hb : c.bShake = false) : c.awShake = false := by
  refine Bool.eq_false_iff.mpr fun haw => ?_
  rcases h.aw haw with hidle | ⟨-, hshake⟩
  · exact hp hidle
  · simp [hb] at hshake

theorem WriteLegal.no_w (h : c.WriteLegal p) (hp : p ≠ .data) (haw : c.awShake = false) : c.wShake = false := by
  refine Bool.eq_false_iff.mpr fun hw => ?_
  rcases h.w hw with hdata | hshake
  · exact hp hdata
  · simp [haw] at hshake

theorem ReadLegal.no_r (h : c.ReadLegal p) (hp : p ≠ .data) : c.rShake = false :=
  Bool.eq_false_iff.mpr fun hr => hp (h.r hr)

theorem ReadLegal.no_ar (h : c.ReadLegal p) (hp : p ≠ .idle) (hlast : (c.rShake && c.rLast) = false) :
    c.arShake = false := by
  refine Bool.eq_false_iff.mpr fun har => ?_
  rcases h.ar har with hidle | hshake
  · exact hp hidle
  · simp [hshake] at hlast

end AxiCycle

/-- **One edge of `monitor_writes`.** -/
theorem WriteWait.Follows.edge (cfg : AxiCfg) {s : WriteWait addrW dataW idW} {p : AxiPhase}
    {aws : List (AxiCycle addrW dataW idW)} {bursts : List (List (AxiCycle addrW dataW idW))}
    {acc : List (AxiCycle addrW dataW idW)} {c : AxiCycle addrW dataW idW} (h : s.Follows p aws bursts acc)
    (hlegal : c.WriteLegal p) (hc : c.WriteStaggered) :
    ∃ aws' bursts' acc', (monitorWrites cfg s c).1.Follows (c.writePhase p) aws' bursts' acc' ∧
      ∀ cs, AxiTxn.reports cfg (writesAfter aws bursts acc (c :: cs)) =
        (monitorWrites cfg s c).2 ++ AxiTxn.reports cfg (writesAfter aws' bursts' acc' cs) := by
  cases h with
  | address =>
    have hb := hlegal.no_b nofun
    cases haw : c.awShake with
    | true =>
      have hw := hc.beat haw
      have hbegun : Follows (.beats c.writeTxn) .data [c] [] [] := .beats c []
      refine ⟨[c], [], [], ?_, ?_⟩
      · simpa [monitorWrites, AxiCycle.writePhase, hlegal.outOfReset, haw, hw] using hbegun
      · intro cs
        simp [monitorWrites, writesAfter, hlegal.outOfReset, haw, hw, hb]
    | false =>
      have hw := hlegal.no_w nofun haw
      refine ⟨[], [], [], ?_, ?_⟩
      · simpa [monitorWrites, AxiCycle.writePhase, haw, hw, hb] using Follows.address
      · intro cs
        simp [monitorWrites, writesAfter, haw, hw, hb]
  | beats aw acc =>
    have hb := hlegal.no_b nofun
    have haw := hlegal.no_aw nofun hb
    cases hw : c.wShake with
    | false =>
      refine ⟨[aw], [], acc, ?_, ?_⟩
      · simpa [monitorWrites, AxiCycle.writePhase, haw, hw, hb] using Follows.beats aw acc
      · intro cs
        simp [monitorWrites, writesAfter, haw, hw, hb]
    | true =>
      cases hlast : c.wLast with
      | false =>
        refine ⟨[aw], [], acc ++ [c], ?_, ?_⟩
        · simpa [monitorWrites, AxiCycle.writePhase, haw, hw, hb, hlast, AxiTxn.withBeats]
            using Follows.beats aw (acc ++ [c])
        · intro cs
          simp [monitorWrites, writesAfter, haw, hw, hb, hlast, burstsFrom]
      | true =>
        refine ⟨[aw], [acc ++ [c]], [], ?_, ?_⟩
        · simpa [monitorWrites, AxiCycle.writePhase, haw, hw, hb, hlast, AxiTxn.withBeats]
            using Follows.response aw (acc ++ [c])
        · intro cs
          simp [monitorWrites, writesAfter, haw, hw, hb, hlast, burstsFrom]
  | response aw burst =>
    cases hb : c.bShake with
    | true =>
      have haw : c.awShake = false := Bool.eq_false_iff.mpr fun haw => by simpa [hb] using hc.response haw
      have hw := hlegal.no_w nofun haw
      refine ⟨[], [], [], ?_, ?_⟩
      · simpa [monitorWrites, AxiCycle.writePhase, haw, hw, hb] using Follows.address
      · intro cs
        simp [monitorWrites, writesAfter, haw, hw, hb, AxiTxn.reports_cons, AxiTxn.ofWrite]
    | false =>
      have haw := hlegal.no_aw nofun hb
      have hw := hlegal.no_w nofun haw
      refine ⟨[aw], [burst], [], ?_, ?_⟩
      · simpa [monitorWrites, AxiCycle.writePhase, haw, hw, hb] using Follows.response aw burst
      · intro cs
        simp [monitorWrites, writesAfter, haw, hw, hb]

/-- **Runs of `monitor_writes`.** -/
theorem WriteWait.Follows.outputs (cfg : AxiCfg) (cs : List (AxiCycle addrW dataW idW)) :
    ∀ {s : WriteWait addrW dataW idW} {p aws bursts acc}, s.Follows p aws bursts acc →
      Runs.Always AxiCycle.writePhase (fun p c => c.WriteLegal p ∧ c.WriteStaggered) p cs →
      Runs.outputs (monitorWrites cfg) s cs = AxiTxn.reports cfg (writesAfter aws bursts acc cs) := by
  induction cs with
  | nil => intro s p aws bursts acc _ _; simp [writesAfter, AxiTxn.reports]
  | cons c cs ih =>
    rintro s p aws bursts acc h ⟨⟨hlegal, hc⟩, hcs⟩
    obtain ⟨aws', bursts', acc', h', hedge⟩ := h.edge cfg hlegal hc
    rw [Runs.outputs_cons, ih h' hcs, hedge]

/-- `monitor_reads` waits for what the bus does. -/
inductive ReadWait.Follows :
    ReadWait addrW dataW idW → AxiPhase → List (AxiCycle addrW dataW idW) → List (AxiCycle addrW dataW idW) → Prop
  | address : Follows .address .idle [] []
  | beats (ar : AxiCycle addrW dataW idW) (acc : List (AxiCycle addrW dataW idW)) :
      Follows (.beats { AxiTxn.ofRead ar acc with tEnd := 0 }) .data [ar] acc

/-- The reads that the handshakes complete, after those that have been seen. -/
def readsAfter (ars acc cs : List (AxiCycle addrW dataW idW)) : List (AxiTxn addrW dataW idW) :=
  List.zipWith AxiTxn.ofRead (ars ++ cs.filter (·.arShake)) (burstsFrom (·.rLast) acc (cs.filter (·.rShake)))

/-- **One edge of `monitor_reads`.** -/
theorem ReadWait.Follows.edge (cfg : AxiCfg) {s : ReadWait addrW dataW idW} {p : AxiPhase}
    {ars acc : List (AxiCycle addrW dataW idW)} {c : AxiCycle addrW dataW idW} (h : s.Follows p ars acc)
    (hlegal : c.ReadLegal p) (hc : c.ReadStaggered) :
    ∃ ars' acc', (monitorReads cfg s c).1.Follows (c.readPhase p) ars' acc' ∧
      ∀ cs, AxiTxn.reports cfg (readsAfter ars acc (c :: cs)) =
        (monitorReads cfg s c).2 ++ AxiTxn.reports cfg (readsAfter ars' acc' cs) := by
  cases h with
  | address =>
    have hr := hlegal.no_r nofun
    cases har : c.arShake with
    | true =>
      have hbegun : Follows (.beats c.readTxn) .data [c] [] := .beats c []
      refine ⟨[c], [], ?_, ?_⟩
      · simpa [monitorReads, AxiCycle.readPhase, hlegal.outOfReset, har, hr] using hbegun
      · intro cs
        simp [monitorReads, readsAfter, hlegal.outOfReset, har, hr]
    | false =>
      refine ⟨[], [], ?_, ?_⟩
      · simpa [monitorReads, AxiCycle.readPhase, har, hr] using Follows.address
      · intro cs
        simp [monitorReads, readsAfter, har, hr]
  | beats ar acc =>
    cases hr : c.rShake with
    | false =>
      have har := hlegal.no_ar nofun (by simp [hr])
      refine ⟨[ar], acc, ?_, ?_⟩
      · simpa [monitorReads, AxiCycle.readPhase, har, hr] using Follows.beats ar acc
      · intro cs
        simp [monitorReads, readsAfter, har, hr]
    | true =>
      have har : c.arShake = false := Bool.eq_false_iff.mpr fun har => by simpa [hr] using hc har
      cases hlast : c.rLast with
      | false =>
        refine ⟨[ar], acc ++ [c], ?_, ?_⟩
        · simpa [monitorReads, AxiCycle.readPhase, har, hr, hlast, AxiTxn.ofRead]
            using Follows.beats ar (acc ++ [c])
        · intro cs
          simp [monitorReads, readsAfter, har, hr, hlast, burstsFrom]
      | true =>
        refine ⟨[], [], ?_, ?_⟩
        · simpa [monitorReads, AxiCycle.readPhase, har, hr, hlast] using Follows.address
        · intro cs
          simp [monitorReads, readsAfter, har, hr, hlast, burstsFrom, AxiTxn.reports_cons, AxiTxn.ofRead]

/-- **Runs of `monitor_reads`.** -/
theorem ReadWait.Follows.outputs (cfg : AxiCfg) (cs : List (AxiCycle addrW dataW idW)) :
    ∀ {s : ReadWait addrW dataW idW} {p ars acc}, s.Follows p ars acc →
      Runs.Always AxiCycle.readPhase (fun p c => c.ReadLegal p ∧ c.ReadStaggered) p cs →
      Runs.outputs (monitorReads cfg) s cs = AxiTxn.reports cfg (readsAfter ars acc cs) := by
  induction cs with
  | nil => intro s p ars acc _ _; simp [readsAfter, burstsFrom, AxiTxn.reports]
  | cons c cs ih =>
    rintro s p ars acc h ⟨⟨hlegal, hc⟩, hcs⟩
    obtain ⟨ars', acc', h', hedge⟩ := h.edge cfg hlegal hc
    rw [Runs.outputs_cons, ih h' hcs, hedge]

/-- **Reassembly.**  A monitored direction in which the bus has one transaction at a time reports the completed
transactions in the window, in order: the writes if no beat falls on its address and no address on the response
before, the reads if no address falls on the last beat before.  The other direction may do what it likes. -/
theorem axi_reassembly (cfg : AxiCfg) (cs : List (AxiCycle addrW dataW idW)) :
    (cfg.monitorWrites = true → Runs.Always AxiCycle.writePhase (fun p c => c.WriteLegal p) .idle cs →
      (∀ c ∈ cs, c.WriteStaggered) →
        reportedWrites cfg cs = ((completedWrites cs).filter (·.inWindow cfg)).map (·.annotated cfg)) ∧
    (cfg.monitorReads = true → Runs.Always AxiCycle.readPhase (fun p c => c.ReadLegal p) .idle cs →
      (∀ c ∈ cs, c.ReadStaggered) →
        reportedReads cfg cs = ((completedReads cs).filter (·.inWindow cfg)).map (·.annotated cfg)) := by
  constructor
  · intro hon hlegal hstaggered
    rw [reportedWrites, if_pos hon]
    exact WriteWait.Follows.address.outputs cfg cs (hlegal.and_forall cs _ hstaggered)
  · intro hon hlegal hstaggered
    rw [reportedReads, if_pos hon]
    exact ReadWait.Follows.address.outputs cfg cs (hlegal.and_forall cs _ hstaggered)

end

/-- A write of two beats and a read in the cycles of the write, in the window and out of it. -/
theorem axi_reassembly_overlapping :
    let cfg : AxiCfg := { addrHi := 0xfff }
    let cs : List (AxiCycle 64 64 4) :=
      [{ time := 10, awValid := true, awReady := true, awAddr := 0x100, awLen := 1, arValid := true,
          arReady := true, arAddr := 0x8000 },
        { time := 20, wValid := true, wReady := true, wData := 1, rValid := true, rReady := true, rLast := true },
        { time := 30, wValid := true, wReady := true, wData := 2, wLast := true },
        { time := 40, bValid := true, bReady := true }]
    (reportedWrites cfg cs).map (fun txn => (txn.addr, txn.data)) = [(0x100, [1, 2])] ∧
      reportedReads cfg cs = [] := by
  intro cfg cs
  obtain ⟨hwrites, hreads⟩ := axi_reassembly cfg cs
  rw [hwrites rfl (by decide) (by decide), hreads rfl (by decide) (by decide)]
  decide

/-- Nothing is reported of a write whose beat comes with its address, nor of the second of two writes or
reads when its address comes with the end of the first. -/
theorem same_cycle_handshakes_missed :
    let aw : AxiCycle 64 64 4 := { time := 10, awValid := true, awReady := true }
    let w : AxiCycle 64 64 4 := { time := 20, wValid := true, wReady := true, wLast := true }
    let b : AxiCycle 64 64 4 := { time := 30, bValid := true, bReady := true }
    let ar : AxiCycle 64 64 4 := { time := 10, arValid := true, arReady := true }
    let r : AxiCycle 64 64 4 := { time := 20, rValid := true, rReady := true, rLast := true }
    let beat := [{ aw with wValid := true, wReady := true, wLast := true }, b]
    let writes := [aw, w, { b with awValid := true, awReady := true }, { w with time := 40 }, { b with time := 50 }]
    let reads := [ar, { r with arValid := true, arReady := true }, { r with time := 30 }]
    (∀ cs ∈ [beat, writes, reads], Runs.Always AxiCycle.writePhase (fun p c => c.WriteLegal p) .idle cs ∧
      Runs.Always AxiCycle.readPhase (fun p c => c.ReadLegal p) .idle cs) ∧
    ((reportedWrites {} beat).length, (completedWrites beat).length) = (0, 1) ∧
    ((reportedWrites {} writes).length, (completedWrites writes).length) = (1, 2) ∧
    ((reportedReads {} reads).length, (completedReads reads).length) = (1, 2) := by
  decide

end RiscvDbg
