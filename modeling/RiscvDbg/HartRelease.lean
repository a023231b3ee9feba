import RiscvDbg.HartWellFormed

/-!
# What one write leaves of a hart

Field by field consequences of `HartState.afterWrite`, for a hart that exists.

* `afterWrite_requests` — the two request bits: replaced on the selected hart, kept on the others.
* `Out` — a hart with exactly one of its two signals; `beforeResume_out` gives the signals of the
  selected hart just before the resume request when no reset is asserted, and
  `afterWrite_released` those of any hart after a write that releases `ndmreset`.
* `afterWrite_havereset` — `havereset` is sticky but for an acknowledgement.
-/

set_option autoImplicit false

namespace RiscvDbg

/-! ## The request bits under one write -/

namespace HartState

variable {h : HartState} (w : HartWrite)

/-- The requests of a hart, which the reset stages do not touch. -/
def requests (h : HartState) : Bool × Bool := (h.resetHaltreq, h.haltRequest)

@[simp] theorem releaseFromReset_requests : h.releaseFromReset.requests = h.requests := by
  unfold HartState.releaseFromReset; repeat' split
  all_goals rfl

@[simp] theorem ndmEdge_requests : (h.ndmEdge w).requests = h.requests := by
  unfold HartState.ndmEdge; repeat' split
  all_goals first | rfl | simp

@[simp] theorem levelEdge_requests : (h.levelEdge w).requests = h.requests := by
  unfold HartState.levelEdge; repeat' split
  all_goals first | rfl | (simp; rfl)

@[simp] theorem acknowledge_requests : (h.acknowledge w).requests = h.requests := by
  unfold HartState.acknowledge; dsimp only; repeat' split
  all_goals rfl

@[simp] theorem respondHalt_requests : h.respondHalt.requests = h.requests := by
  unfold HartState.respondHalt; repeat' split
  all_goals rfl

@[simp] theorem respondResume_requests (b : Bool) : (h.respondResume b).requests = h.requests := by
  unfold HartState.respondResume; repeat' split
  all_goals rfl

@[simp] theorem settle_requests (b : Bool) : (h.settle b).requests = h.requests := by
  unfold HartState.settle; split <;> rfl

@[simp] theorem beforeSelected_requests : (h.beforeSelected w).requests = h.requests := by
  rw [beforeSelected, ndmEdge_requests]; rfl

theorem requestResethalt_requests :
    (h.requestResethalt w).requests =
      (if w.hasresethaltreq && (w.setReq || w.clrReq) then !w.clrReq else h.requests.1,
        h.requests.2) := by
  unfold HartState.requestResethalt requests
  cases w.hasresethaltreq <;> cases w.clrReq <;> cases w.setReq <;> rfl

theorem requestHalt_requests : (h.requestHalt w).requests = (h.requests.1, w.haltreq) := by
  unfold HartState.requestHalt
  dsimp only
  split
  · rw [respondHalt_requests]; rfl
  · rfl

theorem beforeResume_requests :
    (h.beforeResume w).requests =
      (if w.hasresethaltreq && (w.setReq || w.clrReq) then !w.clrReq else h.requests.1,
        w.haltreq) := by
  rw [beforeResume, requestHalt_requests, acknowledge_requests, requestResethalt_requests,
    levelEdge_requests, beforeSelected_requests]

/-- A write replaces the requests of the hart it selects and of no other. -/
theorem afterWrite_requests :
    (h.afterWrite w).requests =
      if w.selected then
        (if w.hasresethaltreq && (w.setReq || w.clrReq) then !w.clrReq else h.requests.1, w.haltreq)
      else h.requests := by
  unfold afterWrite
  dsimp only
  rw [settle_requests]
  split
  · split
    · rw [respondResume_requests, beforeResume_requests]
    · rw [beforeResume_requests]
  · rw [beforeSelected_requests]

/-! ## Signals when no reset is asserted -/

/-- An existing, available hart, halted exactly if `b` and running otherwise. -/
structure Out (b : Bool) (h : HartState) : Prop where
  available : h.available = true
  notSticky : h.unavailSticky = false
  nonexistent : h.nonexistent = false
  halted : h.halted = b
  running : h.running = !b

variable {b : Bool} {w}

theorem out_releaseFromReset (ha : h.available = true) (hu : h.unavailSticky = false)
    (hx : h.nonexistent = false) : h.releaseFromReset.Out (h.requests.1 || h.requests.2) := by
  unfold HartState.releaseFromReset requests
  rw [if_neg (by simp [hx])]
  split
  · rename_i hreq
    exact ⟨ha, hu, hx, hreq.symm, by rw [hreq]; rfl⟩
  · rename_i hreq
    rw [Bool.not_eq_true] at hreq
    exact ⟨ha, hu, hx, hreq.symm, by rw [hreq]; rfl⟩

theorem WellFormed.out {n : Bool} (hw : h.WellFormed n) (hx : h.nonexistent = false) :
    h.Out h.halted := ⟨hw.available, hw.notSticky, hx, rfl, hw.signals⟩

/-- The `ndmreset` stage without an asserting edge. -/
theorem Out.beforeSelected (ho : h.Out b) (hx : w.nonexistent = false) (hnow : w.ndmNow = false) :
    (h.beforeSelected w).Out (if w.ndmWas then h.requests.1 || h.requests.2 else b) := by
  have ho' : Out b { h with nonexistent := w.nonexistent } :=
    ⟨ho.available, ho.notSticky, hx, ho.halted, ho.running⟩
  unfold HartState.beforeSelected HartState.ndmEdge
  rw [hnow]
  cases w.ndmWas with
  | false => exact ho'
  | true => exact out_releaseFromReset ho'.available ho'.notSticky hx

/-- The `hartreset` stage without an asserting edge. -/
theorem Out.levelEdge (ho : h.Out b) (hlevel : w.levelNow = false) :
    (h.levelEdge w).Out (if w.levelWas then h.requests.1 || h.requests.2 else b) := by
  unfold HartState.levelEdge
  rw [hlevel]
  cases w.levelWas with
  | false => exact ho
  | true =>
    exact out_releaseFromReset (h := { h with hartReset := false }) ho.available ho.notSticky
      ho.nonexistent

theorem Out.requestResethalt (ho : h.Out b) : (h.requestResethalt w).Out b := by
  obtain ⟨h₁, h₂, h₃, h₄, h₅⟩ := ho
  unfold HartState.requestResethalt
  repeat' split
  all_goals exact ⟨h₁, h₂, h₃, h₄, h₅⟩

theorem Out.acknowledge (ho : h.Out b) : (h.acknowledge w).Out b := by
  obtain ⟨h₁, h₂, h₃, h₄, h₅⟩ := ho
  unfold HartState.acknowledge
  dsimp only
  repeat' split
  all_goals first
    | exact ⟨h₁, h₂, h₃, h₄, h₅⟩
    | exact ⟨h₁, rfl, h₃, h₄, h₅⟩

theorem Out.requestHalt (ho : h.Out b) : (h.requestHalt w).Out (b || w.haltreq) := by
  obtain ⟨h₁, h₂, h₃, h₄, h₅⟩ := ho
  unfold HartState.requestHalt HartState.respondHalt HartState.unavail
  cases hh : w.haltreq with
  | false => rw [Bool.or_false]; exact ⟨h₁, h₂, h₃, h₄, h₅⟩
  | true =>
    cases b with
    | false => simp only [h₁, h₂, h₃, h₄, h₅]; exact ⟨rfl, rfl, rfl, rfl, rfl⟩
    | true => simp only [h₁, h₂, h₃, h₄, h₅]; exact ⟨rfl, rfl, rfl, rfl, rfl⟩

/-- A hart held in `hartreset` reads as running whatever the stages before left. -/
theorem Out.settle (ho : h.Out b) : (h.settle false).Out (b && !h.hartReset) := by
  unfold HartState.settle
  rw [ho.nonexistent, ho.available, ho.notSticky]
  cases hr : h.hartReset with
  | false => rw [Bool.not_false, Bool.and_true]; exact ho
  | true => rw [Bool.not_true, Bool.and_false]; exact ⟨rfl, rfl, rfl, rfl, rfl⟩

/-- A hart that is in neither reset keeps its signals in the last stage. -/
theorem Out.settle_of_released (ho : h.Out b) (hr : h.hartReset = false) : (h.settle false).Out b := by
  have hset := ho.settle
  rwa [hr, Bool.not_false, Bool.and_true] at hset

/-- The selected hart just before the resume request, when the write leaves both resets deasserted:
a release re-evaluates the pending requests, and a halt request halts. -/
theorem beforeResume_out (ho : h.Out b) (hx : w.nonexistent = false) (hnow : w.ndmNow = false)
    (hlevel : w.levelNow = false) :
    (h.beforeResume w).Out
      ((if w.ndmWas || w.levelWas then h.requests.1 || h.requests.2 else b) || w.haltreq) := by
  have hsel := ho.beforeSelected hx hnow
  have hlev := hsel.levelEdge hlevel
  rw [beforeSelected_requests] at hlev
  have hb : (if w.levelWas = true then h.requests.1 || h.requests.2
        else if w.ndmWas = true then h.requests.1 || h.requests.2 else b) =
      if (w.ndmWas || w.levelWas) = true then h.requests.1 || h.requests.2 else b := by
    cases w.ndmWas <;> cases w.levelWas <;> rfl
  rw [hb] at hlev
  exact hlev.requestResethalt.acknowledge.requestHalt

/-! ## The reset a hart is held in -/

theorem ndmEdge_hartReset : (h.ndmEdge w).hartReset = h.hartReset := by
  unfold HartState.ndmEdge HartState.releaseFromReset
  repeat' split
  all_goals rfl

theorem releaseFromReset_hartReset : h.releaseFromReset.hartReset = h.hartReset := by
  unfold HartState.releaseFromReset; repeat' split
  all_goals rfl

theorem levelEdge_hartReset (hlevel : w.levelNow = false) :
    (h.levelEdge w).hartReset = (!w.levelWas && h.hartReset) := by
  unfold HartState.levelEdge
  rw [hlevel]
  cases w.levelWas with
  | false => rfl
  | true => exact releaseFromReset_hartReset

theorem requestResethalt_hartReset : (h.requestResethalt w).hartReset = h.hartReset := by
  unfold HartState.requestResethalt; repeat' split
  all_goals rfl

theorem acknowledge_hartReset : (h.acknowledge w).hartReset = h.hartReset := by
  unfold HartState.acknowledge; dsimp only; repeat' split
  all_goals rfl

theorem requestHalt_hartReset : (h.requestHalt w).hartReset = h.hartReset := by
  unfold HartState.requestHalt HartState.respondHalt; dsimp only; repeat' split
  all_goals rfl

theorem beforeResume_hartReset (hlevel : w.levelNow = false) :
    (h.beforeResume w).hartReset = (!w.levelWas && h.hartReset) := by
  rw [beforeResume, requestHalt_hartReset, acknowledge_hartReset, requestResethalt_hartReset,
    levelEdge_hartReset hlevel, beforeSelected, ndmEdge_hartReset]

/-- **One releasing write.**  A hart with no `hartreset` held halts exactly if a request of its own
is pending, or the write selects it and asks it to halt. -/
theorem afterWrite_released (ho : h.Out b) (hx : w.nonexistent = false) (hr : h.hartReset = false)
    (hwas : w.ndmWas = true) (hnow : w.ndmNow = false) (hlevel : w.levelNow = false)
    (hres : (w.selected && (w.resumereq && !w.haltreq)) = false) :
    (h.afterWrite w).Out (h.requests.1 || h.requests.2 || (w.selected && w.haltreq)) := by
  unfold afterWrite
  dsimp only
  rw [hnow]
  cases hw : w.selected with
  | false =>
    have hsel := ho.beforeSelected hx hnow
    rw [hwas, if_pos rfl] at hsel
    rw [Bool.false_and, Bool.or_false, if_neg (by simp)]
    exact hsel.settle_of_released (by rw [HartState.beforeSelected, ndmEdge_hartReset]; exact hr)
  | true =>
    have hbr := beforeResume_out ho hx hnow hlevel
    rw [hwas, Bool.true_or, if_pos rfl] at hbr
    rw [hw, Bool.true_and] at hres
    rw [Bool.true_and, if_pos rfl, hres, if_neg (by simp)]
    exact hbr.settle_of_released (by rw [beforeResume_hartReset hlevel, hr, Bool.and_false])

/-! ## The sticky reset flag -/

theorem ndmEdge_havereset (hh : h.havereset = true) : (h.ndmEdge w).havereset = true := by
  unfold HartState.ndmEdge HartState.releaseFromReset; repeat' split
  all_goals first | rfl | exact hh

theorem levelEdge_havereset (hh : h.havereset = true) : (h.levelEdge w).havereset = true := by
  unfold HartState.levelEdge HartState.releaseFromReset; dsimp only; repeat' split
  all_goals first | rfl | exact hh

theorem requestResethalt_havereset : (h.requestResethalt w).havereset = h.havereset := by
  unfold HartState.requestResethalt; repeat' split
  all_goals rfl

theorem acknowledge_havereset :
    (h.acknowledge w).havereset = (!w.ackhavereset && h.havereset) := by
  unfold HartState.acknowledge
  cases w.ackhavereset <;> dsimp only <;> repeat' split
  all_goals first | rfl | contradiction

theorem requestHalt_havereset : (h.requestHalt w).havereset = h.havereset := by
  unfold HartState.requestHalt HartState.respondHalt; dsimp only; repeat' split
  all_goals rfl

theorem respondResume_havereset (b : Bool) : (h.respondResume b).havereset = h.havereset := by
  unfold HartState.respondResume; repeat' split
  all_goals rfl

theorem settle_havereset (b : Bool) : (h.settle b).havereset = h.havereset := by
  unfold HartState.settle; split <;> rfl

/-- The selected hart's flag is the one it had after the reset stages, unless acknowledged. -/
theorem beforeResume_havereset :
    (h.beforeResume w).havereset =
      (!w.ackhavereset && ((h.beforeSelected w).levelEdge w).havereset) := by
  rw [beforeResume, requestHalt_havereset, acknowledge_havereset, requestResethalt_havereset]

theorem afterWrite_havereset :
    (h.afterWrite w).havereset =
      if w.selected then (h.beforeResume w).havereset else (h.beforeSelected w).havereset := by
  unfold afterWrite
  dsimp only
  rw [settle_havereset]
  repeat' split
  · rw [respondResume_havereset]
  · rfl
  · rfl

/-- **`havereset` is sticky**: only an acknowledgement that names the hart clears it. -/
theorem afterWrite_havereset_sticky (hh : h.havereset = true)
    (hack : (w.selected && w.ackhavereset) = false) : (h.afterWrite w).havereset = true := by
  have hsel : (h.beforeSelected w).havereset = true := ndmEdge_havereset hh
  rw [afterWrite_havereset]
  cases hw : w.selected with
  | false => exact hsel
  | true =>
    rw [hw, Bool.true_and] at hack
    rw [if_pos rfl, beforeResume_havereset, hack, levelEdge_havereset hsel]
    rfl

theorem afterWrite_havereset_acked (hw : w.selected = true) (hack : w.ackhavereset = true) :
    (h.afterWrite w).havereset = false := by
  rw [afterWrite_havereset, hw, if_pos rfl, beforeResume_havereset, hack]
  rfl

/-! ## The resume acknowledgement -/

theorem releaseFromReset_resumeAck : h.releaseFromReset.resumeAck = h.resumeAck := by
  unfold HartState.releaseFromReset; repeat' split
  all_goals rfl

theorem ndmEdge_resumeAck (hnow : w.ndmNow = false) : (h.ndmEdge w).resumeAck = h.resumeAck := by
  unfold HartState.ndmEdge
  rw [hnow]
  cases w.ndmWas with
  | false => rfl
  | true => exact releaseFromReset_resumeAck

theorem levelEdge_resumeAck (hlevel : w.levelNow = false) :
    (h.levelEdge w).resumeAck = h.resumeAck := by
  unfold HartState.levelEdge
  rw [hlevel]
  cases w.levelWas with
  | false => rfl
  | true => exact releaseFromReset_resumeAck

theorem requestResethalt_resumeAck : (h.requestResethalt w).resumeAck = h.resumeAck := by
  unfold HartState.requestResethalt; repeat' split
  all_goals rfl

theorem acknowledge_resumeAck : (h.acknowledge w).resumeAck = h.resumeAck := by
  unfold HartState.acknowledge; dsimp only; repeat' split
  all_goals rfl

theorem requestHalt_resumeAck : (h.requestHalt w).resumeAck = h.resumeAck := by
  unfold HartState.requestHalt HartState.respondHalt; dsimp only; repeat' split
  all_goals rfl

/-- No stage before the resume request touches the acknowledgement when no reset is asserted. -/
theorem beforeResume_resumeAck (hnow : w.ndmNow = false) (hlevel : w.levelNow = false) :
    (h.beforeResume w).resumeAck = h.resumeAck := by
  rw [beforeResume, requestHalt_resumeAck, acknowledge_resumeAck, requestResethalt_resumeAck,
    levelEdge_resumeAck hlevel, beforeSelected, ndmEdge_resumeAck hnow]

theorem settle_resumeAck (b : Bool) : (h.settle b).resumeAck = h.resumeAck := by
  unfold HartState.settle; split <;> rfl

/-! ## The resume request -/

theorem respondResume_resumeAck (ho : h.Out b) (step : Bool) :
    (h.respondResume step).resumeAck = b := by
  unfold HartState.respondResume HartState.unavail
  rw [ho.nonexistent, ho.available, ho.notSticky, if_neg (by simp), ho.halted]
  cases b <;> rfl

theorem respondResume_out (ho : h.Out b) (step : Bool) : (h.respondResume step).Out (b && step) := by
  unfold HartState.respondResume HartState.unavail
  rw [ho.nonexistent, ho.available, ho.notSticky, if_neg (by simp), ho.halted]
  cases b with
  | false => exact ⟨rfl, rfl, rfl, rfl, ho.running⟩
  | true => exact ⟨rfl, rfl, rfl, rfl, rfl⟩

theorem respondResume_hartReset (step : Bool) : (h.respondResume step).hartReset = h.hartReset := by
  unfold HartState.respondResume; repeat' split
  all_goals rfl

theorem afterWrite_of_resume (hsel : w.selected = true) (hres : w.resumereq = true)
    (hhalt : w.haltreq = false) :
    h.afterWrite w = ((h.beforeResume w).respondResume w.stepArmed).settle w.ndmNow := by
  simp [afterWrite, hsel, hres, hhalt]

theorem afterWrite_of_selected (hsel : w.selected = true) (hres : (w.resumereq && !w.haltreq) = false) :
    h.afterWrite w = (h.beforeResume w).settle w.ndmNow := by
  simp only [afterWrite, hsel, hres, if_true, Bool.false_eq_true, if_false]

section
variable (ho : h.Out b) (hx : w.nonexistent = false) (hnow : w.ndmNow = false)
  (hlevel : w.levelNow = false) (hsel : w.selected = true)

include ho hx hnow hlevel hsel

/-- The signals and the acknowledgement of a selected hart after a resume request: it is answered
if the hart is halted once the reset stages of the same write are over. -/
theorem afterWrite_resume (hres : w.resumereq = true) (hhalt : w.haltreq = false) :
    (h.afterWrite w).Out
        ((if w.ndmWas || w.levelWas then h.requests.1 || h.requests.2 else b) && w.stepArmed &&
          !(!w.levelWas && h.hartReset)) ∧
      (h.afterWrite w).resumeAck =
        (if w.ndmWas || w.levelWas then h.requests.1 || h.requests.2 else b) := by
  have hbr := beforeResume_out ho hx hnow hlevel
  rw [hhalt, Bool.or_false] at hbr
  rw [afterWrite_of_resume hsel hres hhalt, hnow]
  refine ⟨?_, ?_⟩
  · have := (respondResume_out hbr w.stepArmed).settle
    rwa [respondResume_hartReset, beforeResume_hartReset hlevel] at this
  · rw [settle_resumeAck, respondResume_resumeAck hbr]

/-- A selected hart after a halt request: halted unless held in `hartreset`. -/
theorem afterWrite_halt (hhalt : w.haltreq = true) :
    (h.afterWrite w).Out (!(!w.levelWas && h.hartReset)) ∧
      (h.afterWrite w).resumeAck = h.resumeAck := by
  have hbr := beforeResume_out ho hx hnow hlevel
  rw [hhalt, Bool.or_true] at hbr
  rw [afterWrite_of_selected hsel (by simp [hhalt]), hnow]
  refine ⟨?_, ?_⟩
  · have := hbr.settle
    rwa [Bool.true_and, beforeResume_hartReset hlevel] at this
  · rw [settle_resumeAck, beforeResume_resumeAck hnow hlevel]

end

end HartState

/-- A DM reset withdraws every request. -/
theorem DMPredictor.resetDm_requests {s : DMPredictor} {powerOn : Bool} {h : HartState}
    (hh : h ∈ (s.resetDm powerOn).rc.harts) : h.requests = (false, false) := by
  simp only [resetDm, RunControl.resetDm, List.mem_map] at hh
  obtain ⟨i, -, rfl⟩ := hh
  unfold RunControl.resetHart
  dsimp only
  repeat' split
  all_goals rfl

end RiscvDbg
