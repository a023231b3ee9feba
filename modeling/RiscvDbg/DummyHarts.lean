import Mathlib.Algebra.Group.Nat.Defs
import Mathlib.Data.Nat.Log
import RiscvDbg.Lib.RoundRobin

/-!
# Dummy harts on the debug module's slave port

Model of `dbg_dummy_hart` and `dbg_hart_arbiter` (`sv/agents/hart/`), clock by clock: `NrHarts` run-control
state machines ask for the one memory slave of the debug module, the arbiter lets one of them through and
hands it the read data of the cycle after.

* `Hart.access`, `Hart.next` — the combinational outputs of a hart and its next state.
* `arbitrate` — the loop that looks for the next hart; `grant`, `slave`, `rdata` — the arbiter's outputs.
* `System.step`, `stateAt` — one clock, and the state at a cycle after reset.
* `arbitrate_eq` — the loop is the round-robin choice of the library.
* `SlaveShared` — what a run has to satisfy; `dummy_harts_share_slave` — **every run does.**

Hart `i` is instance `i` of the testbench's generate loop, so that its `HartId` is `i`; widths are those of
`BusWidth` 64.  Parameters are of any size, except that an id is cut to the 32 bits of its type.
-/

set_option autoImplicit false

namespace RiscvDbg

namespace DummyHart

/-! ## The hart -/

def HaltedAddr : BitVec 12 := 0x100
def ResumingAddr : BitVec 12 := 0x108
def FlagsBaseAddr : BitVec 12 := 0x400

/-- `state_e`. -/
inductive State where
  | running
  | reportHalt
  | halted
  | pollWait
  | reportResume
  deriving DecidableEq, Repr

/-- `state_q` and `poll_q`. -/
structure Hart where
  state : State := .running
  poll : Nat := 0
  deriving DecidableEq, Repr

/-- An access: `req`, `we`, `addr`, `wdata` and `be`. -/
structure Access where
  req : Bool
  we : Bool
  addr : BitVec 64
  wdata : BitVec 64
  be : BitVec 8
  deriving DecidableEq, Repr

def Access.idle : Access := ⟨false, false, 0, 0, 0⟩

/-- The parameter `HartId`, an `int unsigned`. -/
def hartId (i : Nat) : BitVec 32 := BitVec.ofNat 32 i

/-- A write of the hart's id. -/
def Access.report (addr : BitVec 12) (id : BitVec 32) : Access :=
  ⟨true, true, addr.setWidth 64, id.setWidth 64, BitVec.allOnes 8⟩

/-- The read of the hart's flags. -/
def Access.flags (id : BitVec 32) : Access :=
  ⟨true, false, (FlagsBaseAddr.setWidth 32 + id).setWidth 64, 0, BitVec.allOnes 8⟩

/-- What the hart asks for. -/
def Hart.access (id : BitVec 32) (h : Hart) : Access :=
  match h.state with
  | .running => .idle
  | .reportHalt => .report HaltedAddr id
  | .halted => if h.poll = 0 then .flags id else .idle
  | .pollWait => .idle
  | .reportResume => .report ResumingAddr id

/-- `resume_seen`. -/
def resumeSeen (id : BitVec 32) (rdata : BitVec 64) : Bool := rdata.getLsbD (id.toNat % 8 * 8 + 1)

/-- `state_d`. -/
def Hart.nextState (id : BitVec 32) (h : Hart) (debugReq gnt : Bool) (rdata : BitVec 64) : State :=
  match h.state with
  | .running => if debugReq then .reportHalt else .running
  | .reportHalt => if gnt then .halted else .reportHalt
  | .halted => if h.poll = 0 then if gnt then .pollWait else .halted else .halted
  | .pollWait => if resumeSeen id rdata then .reportResume else .halted
  | .reportResume => if gnt then .running else .reportResume

/-- The width of `poll_q`. -/
def pollWidth (pollPeriod : Nat) : Nat := Nat.clog 2 (pollPeriod + 1)

/-- The free-running divider. -/
def nextPoll (pollPeriod poll : Nat) : Nat :=
  if poll = pollPeriod % 2 ^ pollWidth pollPeriod then 0 else (poll + 1) % 2 ^ pollWidth pollPeriod

/-- The hart after a clock. -/
def Hart.next (pollPeriod : Nat) (id : BitVec 32) (h : Hart) (debugReq gnt : Bool) (rdata : BitVec 64) : Hart :=
  ⟨h.nextState id debugReq gnt rdata, nextPoll pollPeriod h.poll⟩

/-! ## The arbiter -/

section
variable (n : Nat)

def idxWidth : Nat := if 1 < n then Nat.clog 2 n else 1

/-- The loop of the arbiter: `winner` and `any_req`. -/
def arbitrate (rotate : Nat) (req : Nat → Bool) : Nat × Bool :=
  (List.range n).foldl
    (fun acc i =>
      let cand := (rotate + i) % n
      if !acc.2 && req cand then (cand % 2 ^ idxWidth n, true) else acc)
    (rotate, false)

/-- `rotate_q` after a clock. -/
def nextRotate (rotate : Nat) (req : Nat → Bool) : Nat :=
  let (winner, anyReq) := arbitrate n rotate req
  if anyReq then if winner = (n - 1) % 2 ^ idxWidth n then 0 else (winner + 1) % 2 ^ idxWidth n else rotate

/-! ## The harts behind the arbiter -/

/-- The registers of the harts and of the arbiter. -/
structure System where
  harts : Nat → Hart
  rotate : Nat
  granted : Nat → Bool

/-- After reset. -/
def System.reset : System := ⟨fun _ => {}, 0, fun _ => false⟩

/-- What the harts and the arbiter are given in a cycle. -/
structure Input where
  debugReq : Nat → Bool
  slaveRdata : BitVec 64

namespace System

variable (s : System)

/-- The access hart `i` asks for. -/
def access (i : Nat) : Access := (s.harts i).access (hartId i)

def req (i : Nat) : Bool := (s.access i).req

/-- `gnt_o`. -/
def grant (i : Nat) : Bool :=
  let (winner, anyReq) := arbitrate n s.rotate s.req
  anyReq && i == winner

/-- The access on the slave port. -/
def slave : Access :=
  let (winner, anyReq) := arbitrate n s.rotate s.req
  if anyReq then { s.access winner with req := true } else .idle

/-- `rdata_o`. -/
def rdata (inp : Input) (i : Nat) : BitVec 64 := if s.granted i then inp.slaveRdata else 0

/-- One clock. -/
def step (pollPeriod : Nat) (inp : Input) : System where
  harts i := (s.harts i).next pollPeriod (hartId i) (inp.debugReq i) (s.grant n i) (s.rdata inp i)
  rotate := nextRotate n s.rotate s.req
  granted := s.grant n

end System

variable (pollPeriod : Nat) (input : Nat → Input)

/-- The state in cycle `t`. -/
def stateAt : Nat → System
  | 0 => .reset
  | t + 1 => (stateAt t).step n pollPeriod (input t)

/-- Whether hart `i` is granted in cycle `t`. -/
def grantAt (t i : Nat) : Bool := (stateAt n pollPeriod input t).grant n i

/-- Whether hart `i` asks in cycle `t`. -/
def reqAt (t i : Nat) : Bool := (stateAt n pollPeriod input t).req i

/-- The write of hart `i` that is granted in cycle `t`: its address and data. -/
def grantedWrite (i t : Nat) : Option (BitVec 64 × BitVec 64) :=
  if grantAt n pollPeriod input t i && ((stateAt n pollPeriod input t).access i).we then
    some (((stateAt n pollPeriod input t).access i).addr, ((stateAt n pollPeriod input t).access i).wdata)
  else none

/-- The granted writes of hart `i` before cycle `t`. -/
def grantedWrites (i t : Nat) : List (BitVec 64 × BitVec 64) :=
  (List.range t).filterMap (grantedWrite n pollPeriod input i)

/-- The `k`-th write that is due of a hart: it has halted, it resumes, and so on. -/
def dueWrite (i k : Nat) : BitVec 64 × BitVec 64 :=
  ((if k % 2 = 0 then HaltedAddr else ResumingAddr).setWidth 64, (hartId i).setWidth 64)

/-- **The harts share the slave without mixing.** -/
structure SlaveShared : Prop where
  rotate_lt : ∀ t, (stateAt n pollPeriod input t).rotate < n
  /-- at most one hart is granted -/
  grant_unique : ∀ t i j, grantAt n pollPeriod input t i = true → grantAt n pollPeriod input t j = true → i = j
  /-- only a hart that asks is granted, and the slave carries its access -/
  grant_slave : ∀ t i, grantAt n pollPeriod input t i = true → i < n ∧ reqAt n pollPeriod input t i = true ∧
    (stateAt n pollPeriod input t).slave n = (stateAt n pollPeriod input t).access i
  /-- without a grant the slave carries nothing -/
  slave_idle : ∀ t, (∀ i, grantAt n pollPeriod input t i = false) → (stateAt n pollPeriod input t).slave n = .idle
  /-- a hart in `POLL_WAIT` has read its flags in the cycle before, and it alone gets the answer -/
  poll_answer : ∀ t j, j < n → ((stateAt n pollPeriod input t).harts j).state = .pollWait →
    (∃ u, t = u + 1 ∧ grantAt n pollPeriod input u j = true ∧
      (stateAt n pollPeriod input u).slave n = .flags (hartId j)) ∧
    (stateAt n pollPeriod input t).rdata (input t) j = (input t).slaveRdata ∧
    ∀ i, i ≠ j → (stateAt n pollPeriod input t).rdata (input t) i = 0
  /-- the granted writes are those due, in order -/
  writes : ∀ i t, i < n → grantedWrites n pollPeriod input i t =
    (List.range (grantedWrites n pollPeriod input i t).length).map (dueWrite i)
  /-- a hart granted twice leaves no hart behind that has been asking since the first time -/
  fair : ∀ t₁ t₂ j k, t₁ < t₂ → j < n → j ≠ k → grantAt n pollPeriod input t₁ k = true →
    grantAt n pollPeriod input t₂ k = true →
    (∀ t, t₁ < t → t ≤ t₂ → reqAt n pollPeriod input t j = true) →
    ∃ t, t₁ < t ∧ t < t₂ ∧ grantAt n pollPeriod input t j = true

end

/-! ## The arbiter is a round robin -/

open RoundRobin

section
variable {n : Nat}

theorem le_two_pow_idxWidth (n : Nat) : n ≤ 2 ^ idxWidth n := by
  unfold idxWidth
  split_ifs
  · exact Nat.le_pow_clog (by omega) n
  · omega

/-- The loop over any list of candidates finds the first that asks. -/
theorem foldl_arbitrate (f : Nat → Nat) (m : Nat) (req : Nat → Bool) :
    ∀ (is : List Nat) (w : Nat),
      is.foldl (fun acc i => if !acc.2 && req (f i) then (f i % m, true) else acc) (w, true) = (w, true) ∧
      is.foldl (fun acc i => if !acc.2 && req (f i) then (f i % m, true) else acc) (w, false) =
        ((is.map f).find? req).elim (w, false) (fun v => (v % m, true)) := by
  intro is
  induction is with
  | nil => intro w; exact ⟨rfl, rfl⟩
  | cons i is ih =>
    intro w
    refine ⟨?_, ?_⟩
    · rw [List.foldl_cons]
      exact (ih w).1
    · rw [List.foldl_cons, List.map_cons, List.find?_cons]
      cases hreq : req (f i) with
      | true => exact (ih _).1
      | false => exact (ih w).2

theorem arbitrate_eq {r : Nat} (hr : r < n) (req : Nat → Bool) :
    arbitrate n r req = (pick n r req).elim (r, false) (fun w => (w, true)) := by
  have hloop := (foldl_arbitrate (place n r) (2 ^ idxWidth n) req (List.range n) r).2
  refine Eq.trans hloop ?_
  change (pick n r req).elim _ _ = _
  cases h : pick n r req with
  | none => rfl
  | some w =>
    have hw := (pick_spec hr h).1
    have hle := le_two_pow_idxWidth n
    rw [Option.elim_some, Option.elim_some, Nat.mod_eq_of_lt (by omega)]

theorem nextRotate_eq {r : Nat} (hr : r < n) (req : Nat → Bool) :
    nextRotate n r req = next n r (pick n r req) := by
  unfold nextRotate
  rw [arbitrate_eq hr]
  cases h : pick n r req with
  | none => rfl
  | some w =>
    have hw := (pick_spec hr h).1
    have hle := le_two_pow_idxWidth n
    rw [Option.elim_some, next]
    dsimp only
    rw [if_pos rfl, Nat.mod_eq_of_lt (show n - 1 < 2 ^ idxWidth n by omega)]
    split_ifs with hlast
    · rfl
    · rw [Nat.mod_eq_of_lt (by omega)]

theorem System.grant_iff {s : System} (hr : s.rotate < n) (i : Nat) :
    s.grant n i = true ↔ pick n s.rotate s.req = some i := by
  unfold System.grant
  rw [arbitrate_eq hr]
  cases pick n s.rotate s.req with
  | none => simp
  | some w =>
    simp only [Option.elim_some, Bool.true_and, beq_iff_eq, Option.some.injEq]
    exact eq_comm

end

/-! ## One hart -/

/-- The hart has reported that it halted, and not yet that it resumes. -/
def State.inDebug : State → Bool
  | .running | .reportHalt => false
  | .halted | .pollWait | .reportResume => true

/-- A granted write is the report that is due, and only such a write takes the hart in or out. -/
theorem Hart.report_step (id : BitVec 32) (h : Hart) (debugReq gnt : Bool) (rdata : BitVec 64) :
    if gnt && (h.access id).we then
      h.access id = .report (if h.state.inDebug then ResumingAddr else HaltedAddr) id ∧
        (h.nextState id debugReq gnt rdata).inDebug = !h.state.inDebug
    else (h.nextState id debugReq gnt rdata).inDebug = h.state.inDebug := by
  obtain ⟨state, poll⟩ := h
  cases state with
  | running => cases debugReq <;> simp [Hart.access, Hart.nextState, Access.idle, State.inDebug]
  | reportHalt => cases gnt <;> simp [Hart.access, Hart.nextState, Access.report, State.inDebug]
  | halted =>
    by_cases hpoll : poll = 0
    · cases gnt <;> simp [Hart.access, Hart.nextState, Access.flags, State.inDebug, hpoll]
    · simp [Hart.access, Hart.nextState, Access.idle, State.inDebug, hpoll]
  | pollWait =>
    cases hseen : resumeSeen id rdata <;>
      simp [Hart.access, Hart.nextState, Access.idle, State.inDebug, hseen]
  | reportResume => cases gnt <;> simp [Hart.access, Hart.nextState, Access.report, State.inDebug]

/-- A hart comes to wait for its flags only by reading them. -/
theorem Hart.flags_of_pollWait {id : BitVec 32} {h : Hart} {debugReq gnt : Bool} {rdata : BitVec 64}
    (hnext : h.nextState id debugReq gnt rdata = .pollWait) : gnt = true ∧ h.access id = .flags id := by
  obtain ⟨state, poll⟩ := h
  cases state with
  | running => cases debugReq <;> simp [Hart.nextState] at hnext
  | reportHalt => cases gnt <;> simp [Hart.nextState] at hnext
  | halted =>
    by_cases hpoll : poll = 0
    · cases gnt with
      | false => simp [Hart.nextState, hpoll] at hnext
      | true => exact ⟨rfl, by simp [Hart.access, hpoll]⟩
    · simp [Hart.nextState, hpoll] at hnext
  | pollWait => cases hseen : resumeSeen id rdata <;> simp [Hart.nextState, hseen] at hnext
  | reportResume => cases gnt <;> simp [Hart.nextState] at hnext

/-! ## Every run -/

section
variable {n : Nat} (pollPeriod : Nat) (input : Nat → Input)

theorem stateAt_rotate_lt (hn : 0 < n) (t : Nat) : (stateAt n pollPeriod input t).rotate < n := by
  induction t with
  | zero => exact hn
  | succ t ih =>
    change nextRotate n _ _ < n
    rw [nextRotate_eq ih]
    exact next_lt ih

/-- The pointer and the requests of a run. -/
def pointerRun (hn : 0 < n) : Run n where
  pointer t := (stateAt n pollPeriod input t).rotate
  req t := (stateAt n pollPeriod input t).req
  pointer_lt := hn
  step t := nextRotate_eq (stateAt_rotate_lt pollPeriod input hn t) _

theorem grantAt_iff (hn : 0 < n) (t i : Nat) :
    grantAt n pollPeriod input t i = true ↔ (pointerRun pollPeriod input hn).picked t = some i :=
  System.grant_iff (stateAt_rotate_lt pollPeriod input hn t) i

/-- Who is granted asks, and is on the slave. -/
theorem slave_of_grant (hn : 0 < n) {t i : Nat} (h : grantAt n pollPeriod input t i = true) :
    i < n ∧ reqAt n pollPeriod input t i = true ∧
      (stateAt n pollPeriod input t).slave n = (stateAt n pollPeriod input t).access i := by
  have hr := stateAt_rotate_lt pollPeriod input hn t
  have hpick := (System.grant_iff hr i).mp h
  obtain ⟨hi, hreq, -⟩ := pick_spec hr hpick
  refine ⟨hi, hreq, ?_⟩
  unfold System.slave
  rw [arbitrate_eq hr, hpick, Option.elim_some]
  dsimp only
  rw [if_pos rfl]
  have hself : ((stateAt n pollPeriod input t).access i).req = true := hreq
  rw [← hself]

theorem slave_idle_of_no_grant (hn : 0 < n) {t : Nat} (h : ∀ i, grantAt n pollPeriod input t i = false) :
    (stateAt n pollPeriod input t).slave n = .idle := by
  have hr := stateAt_rotate_lt pollPeriod input hn t
  unfold System.slave
  rw [arbitrate_eq hr]
  cases hpick : pick n (stateAt n pollPeriod input t).rotate (stateAt n pollPeriod input t).req with
  | none => rfl
  | some w =>
    have hw := h w
    rw [grantAt, (System.grant_iff hr w).mpr hpick] at hw
    cases hw

theorem grant_unique_of_run (hn : 0 < n) {t i j : Nat} (hi : grantAt n pollPeriod input t i = true)
    (hj : grantAt n pollPeriod input t j = true) : i = j := by
  rw [grantAt_iff pollPeriod input hn] at hi hj
  exact Option.some.inj (hi.symm.trans hj)

/-- The read data is the grantee's. -/
theorem rdata_of_grant (hn : 0 < n) {t j : Nat} (h : grantAt n pollPeriod input t j = true) (i : Nat) :
    (stateAt n pollPeriod input (t + 1)).rdata (input (t + 1)) i =
      if i = j then (input (t + 1)).slaveRdata else 0 := by
  unfold System.rdata
  have hgranted : (stateAt n pollPeriod input (t + 1)).granted i = grantAt n pollPeriod input t i := rfl
  rw [hgranted]
  by_cases hij : i = j
  · rw [hij, h, if_pos rfl, if_pos rfl]
  · have hno : ¬ grantAt n pollPeriod input t i = true := fun hi => hij (grant_unique_of_run pollPeriod input hn hi h)
    rw [if_neg hno, if_neg hij]

theorem poll_answered (hn : 0 < n) {t j : Nat}
    (h : ((stateAt n pollPeriod input t).harts j).state = .pollWait) :
    (∃ u, t = u + 1 ∧ grantAt n pollPeriod input u j = true ∧
      (stateAt n pollPeriod input u).slave n = .flags (hartId j)) ∧
    (stateAt n pollPeriod input t).rdata (input t) j = (input t).slaveRdata ∧
    ∀ i, i ≠ j → (stateAt n pollPeriod input t).rdata (input t) i = 0 := by
  cases t with
  | zero => cases h
  | succ u =>
    obtain ⟨hgnt, hflags⟩ := Hart.flags_of_pollWait h
    refine ⟨⟨u, rfl, hgnt, ?_⟩, ?_, ?_⟩
    · exact (slave_of_grant pollPeriod input hn hgnt).2.2.trans hflags
    · rw [rdata_of_grant pollPeriod input hn hgnt, if_pos rfl]
    · intro i hi
      rw [rdata_of_grant pollPeriod input hn hgnt, if_neg hi]

theorem grantedWrites_succ (i t : Nat) :
    grantedWrites n pollPeriod input i (t + 1) =
      grantedWrites n pollPeriod input i t ++ (grantedWrite n pollPeriod input i t).toList := by
  rw [grantedWrites, List.range_succ, List.filterMap_append, List.filterMap_cons, List.filterMap_nil]
  cases grantedWrite n pollPeriod input i t <;> rfl

/-- The writes so far are those due, and their number tells whether the hart is in debug mode. -/
theorem grantedWrites_due (i t : Nat) :
    grantedWrites n pollPeriod input i t =
        (List.range (grantedWrites n pollPeriod input i t).length).map (dueWrite i) ∧
      (grantedWrites n pollPeriod input i t).length % 2 =
        ((stateAt n pollPeriod input t).harts i).state.inDebug.toNat := by
  induction t with
  | zero => exact ⟨rfl, rfl⟩
  | succ t ih =>
    obtain ⟨hdue, hparity⟩ := ih
    have hstep := Hart.report_step (hartId i) ((stateAt n pollPeriod input t).harts i) ((input t).debugReq i)
      (grantAt n pollPeriod input t i) ((stateAt n pollPeriod input t).rdata (input t) i)
    have hstate : ((stateAt n pollPeriod input (t + 1)).harts i).state =
        ((stateAt n pollPeriod input t).harts i).nextState (hartId i) ((input t).debugReq i)
          (grantAt n pollPeriod input t i) ((stateAt n pollPeriod input t).rdata (input t) i) := rfl
    have haccess : Hart.access (hartId i) ((stateAt n pollPeriod input t).harts i) =
        (stateAt n pollPeriod input t).access i := rfl
    rw [haccess] at hstep
    rw [grantedWrites_succ, hstate]
    by_cases hw : (grantAt n pollPeriod input t i && ((stateAt n pollPeriod input t).access i).we) = true
    · rw [if_pos hw] at hstep
      obtain ⟨hreport, hnext⟩ := hstep
      have hwrite : grantedWrite n pollPeriod input i t =
          some (dueWrite i (grantedWrites n pollPeriod input i t).length) := by
        rw [grantedWrite, if_pos hw, hreport, dueWrite, hparity]
        cases ((stateAt n pollPeriod input t).harts i).state.inDebug <;> rfl
      rw [hwrite, hnext, Option.toList_some, List.length_append, List.length_singleton]
      refine ⟨?_, ?_⟩
      · rw [List.range_succ, List.map_append, ← hdue]
        rfl
      · rw [Nat.add_mod, hparity]
        cases ((stateAt n pollPeriod input t).harts i).state.inDebug <;> rfl
    · rw [if_neg hw] at hstep
      rw [grantedWrite, if_neg hw, hstep, Option.toList_none, List.append_nil]
      exact ⟨hdue, hparity⟩

end

/-- **Several dummy harts on one slave**, for any number of harts and any poll period: whatever the debug
requests and the read data, the accesses are not mixed and no hart is left behind. -/
theorem dummy_harts_share_slave (n : Nat) (hn : 1 ≤ n) (pollPeriod : Nat) (input : Nat → Input) :
    SlaveShared n pollPeriod input where
  rotate_lt := stateAt_rotate_lt pollPeriod input hn
  grant_unique := fun _ _ _ => grant_unique_of_run pollPeriod input hn
  grant_slave := fun _ _ => slave_of_grant pollPeriod input hn
  slave_idle := fun _ => slave_idle_of_no_grant pollPeriod input hn
  poll_answer := fun _ _ _ => poll_answered pollPeriod input hn
  writes := fun i t _ => (grantedWrites_due pollPeriod input i t).1
  fair := by
    intro t₁ t₂ j k ht hj hne h₁ h₂ hreq
    rw [grantAt_iff pollPeriod input hn] at h₁ h₂
    obtain ⟨t, hlo, hhi, hpicked⟩ := (pointerRun pollPeriod input hn).picked_between ht hj hne h₁ h₂ hreq
    exact ⟨t, hlo, hhi, (grantAt_iff pollPeriod input hn t j).mpr hpicked⟩

/-- Three harts that are all asked to halt and to resume all the time: hart 1 reports in cycle 2, and hart 0, the
first to read its flags, gets the answer alone in cycle 5. -/
theorem dummy_harts_share_slave_three :
    let input : Nat → Input := fun _ => ⟨fun _ => true, BitVec.allOnes 64⟩
    SlaveShared 3 3 input ∧ grantedWrite 3 3 input 1 2 = some (0x100, 1) ∧
      ((stateAt 3 3 input 5).harts 0).state = .pollWait ∧
      (stateAt 3 3 input 5).rdata (input 5) 0 = BitVec.allOnes 64 ∧ (stateAt 3 3 input 5).rdata (input 5) 1 = 0 := by
  intro input
  have hshared : SlaveShared 3 3 input := dummy_harts_share_slave 3 (by decide) 3 input
  have hwrite : grantedWrite 3 3 input 1 2 = some (0x100, 1) := by decide +kernel
  have hwait : ((stateAt 3 3 input 5).harts 0).state = .pollWait := by decide +kernel
  obtain ⟨-, hanswer, hothers⟩ := hshared.poll_answer 5 0 (by decide) hwait
  exact ⟨hshared, hwrite, hwait, hanswer, hothers 1 (by decide)⟩

end DummyHart

end RiscvDbg
