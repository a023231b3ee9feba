import RiscvDbg.HaltOnReset

/-!
# What a dmcontrol write leaves alone

An active `dmcontrol` write runs six stages, over the selected hart or over all of them.  A hart the
write does not select passes only through the marking of missing harts, the edges of `ndmreset` and
the last, settling stage.

* `HartState.SameRequests`, `HartState.SameSignals` — what such a hart keeps.
* `HartState.settle_marked` — the settling stage does not move a well-formed hart, since a hart that is
  held in reset already has the signals the stage gives it.
* `dmcontrol_write_frame` — the frame of one write in every state that writes can reach.

A model of no harts still keeps one placeholder hart, at index 0, and a write with `hartsel = 0` acts
on it (`dmcontrol_write_touches_placeholder`).
-/

set_option autoImplicit false

namespace RiscvDbg

namespace HartState

/-- The requests and the reset held for the hart are the same. -/
structure SameRequests (h h' : HartState) : Prop where
  haltRequest : h'.haltRequest = h.haltRequest
  resetHaltreq : h'.resetHaltreq = h.resetHaltreq
  hartReset : h'.hartReset = h.hartReset

/-- The signals of the hart are the same. -/
structure SameSignals (h h' : HartState) : Prop where
  halted : h'.halted = h.halted
  running : h'.running = h.running
  resumeAck : h'.resumeAck = h.resumeAck
  havereset : h'.havereset = h.havereset

variable {h : HartState} {w : HartWrite}

theorem afterWrite_of_unselected (hsel : w.selected = false) :
    h.afterWrite w = (h.beforeSelected w).settle w.ndmNow := by
  rw [afterWrite, hsel, if_neg Bool.false_ne_true]

theorem settle_hartReset (b : Bool) : (h.settle b).hartReset = h.hartReset := by
  unfold HartState.settle; split <;> rfl

theorem afterWrite_sameRequests (hsel : w.selected = false) : h.SameRequests (h.afterWrite w) := by
  have hreq : (h.afterWrite w).requests = h.requests := by
    rw [afterWrite_requests, hsel, if_neg Bool.false_ne_true]
  refine ⟨congrArg Prod.snd hreq, congrArg Prod.fst hreq, ?_⟩
  rw [afterWrite_of_unselected hsel, settle_hartReset, beforeSelected, ndmEdge_hartReset]

theorem beforeSelected_of_level (hwas : w.ndmWas = false) (hnow : w.ndmNow = false) :
    h.beforeSelected w = { h with nonexistent := w.nonexistent } := by
  simp [beforeSelected, ndmEdge, hwas, hnow]

/-- A well-formed hart is a fixed point of the settling stage, whatever its mark. -/
theorem settle_marked {n : Bool} (hw : h.WellFormed n) (x : Bool) :
    HartState.settle false { h with nonexistent := x } = { h with nonexistent := x } := by
  unfold HartState.settle
  split
  · rename_i hheld
    rw [Bool.false_or, Bool.and_eq_true] at hheld
    -- the reset it is held in already shows in both signals
    have hnot : h.halted = false := hw.hartReset_not_halted hheld.1
    have hrun : h.running = true := by rw [hw.signals, hnot]; rfl
    simp [hw.available, hw.notSticky, hnot, hrun]
  · rfl

theorem afterWrite_sameSignals (hsel : w.selected = false) (hwas : w.ndmWas = false)
    (hnow : w.ndmNow = false) (hfix : w.nonexistent = true ∨ ∃ n, h.WellFormed n) :
    h.SameSignals (h.afterWrite w) := by
  have hkeep : h.afterWrite w = { h with nonexistent := w.nonexistent } := by
    rw [afterWrite_of_unselected hsel, beforeSelected_of_level hwas hnow, hnow]
    obtain hx | ⟨n, hw⟩ := hfix
    · simp [HartState.settle, hx]
    · exact settle_marked hw w.nonexistent
  rw [hkeep]
  exact ⟨rfl, rfl, rfl, rfl⟩

end HartState

namespace DMPredictor

/-- From `s` to `t` the hart at index `i` keeps its requests, and its signals too if `ndmreset` is
deasserted on both sides. -/
def KeepsHart (s t : DMPredictor) (i : Nat) : Prop :=
  ∀ h, s.rc.harts[i]? = some h →
    ∃ h', t.rc.harts[i]? = some h' ∧ h.SameRequests h' ∧
      (s.rc.ndmreset = false → t.rc.ndmreset = false → h.SameSignals h')

variable {s : DMPredictor}

/-- The frame of one active write, in a state whose declared harts are well formed. -/
theorem writeDmcontrol_keepsHart {value : Nat} (hv : value.testBit 0 = true) {i : Nat}
    (hi : i ≠ hartselOf value) (hwf : i < s.params.numHarts → s.WellFormed) :
    s.KeepsHart (s.writeDmcontrol value) i := by
  intro h hh
  rw [writeDmcontrol_active s hv]
  have hsel : (s.rc.hartWrite s.params s.ac value i).selected = false := by
    simp [RunControl.hartWrite, hi]
  refine ⟨h.afterWrite (s.rc.hartWrite s.params s.ac value i), ?_, ?_, ?_⟩
  · rw [RunControl.writeActive_harts, hh, Option.map_some]
  · exact HartState.afterWrite_sameRequests hsel
  · intro hwas hnow
    rw [RunControl.writeActive_fst] at hnow
    refine HartState.afterWrite_sameSignals hsel hwas hnow ?_
    by_cases hlt : i < s.params.numHarts
    · exact Or.inr ⟨s.rc.ndmreset, ((hwf hlt).harts h (List.mem_of_getElem? hh)).1⟩
    · exact Or.inl (decide_eq_true (Nat.le_of_not_lt hlt))

end DMPredictor

/-- **A `dmcontrol` write touches only the hart it selects.**  In every state that writes can reach,
an active write keeps every hart but the one at the new `hartsel`, so every hart if `hartsel` is beyond
the declared ones, and a write of any other address keeps all of them. -/
theorem dmcontrol_write_frame {s : DMPredictor} (hs : s.Booted) (ws : List (Nat × Nat)) :
    (∀ value, value.testBit 0 = true → ∀ i,
      i ≠ hartselOf value ∨ (1 ≤ s.params.numHarts ∧ s.params.numHarts ≤ hartselOf value) →
      (s.writes ws).KeepsHart ((s.writes ws).onWrite DMCONTROL.address value) i) ∧
    ∀ addr value, addr ≠ DMCONTROL.address →
      ((s.writes ws).onWrite addr value).rc.harts = (s.writes ws).rc.harts := by
  have hwf : 1 ≤ s.params.numHarts → (s.writes ws).WellFormed := by
    intro hn
    exact DMPredictor.writes_wellFormed (hs.wellFormed hn) ws
  constructor
  · intro value hv i hi
    rw [DMPredictor.onWrite_dmcontrol]
    by_cases hne : i = hartselOf value
    · -- no hart of the model stands at an index beyond the declared ones
      obtain hne' | ⟨hn, hle⟩ := hi
      · exact absurd hne hne'
      · intro h hh
        have hlt := (List.getElem?_eq_some_iff.mp hh).1
        rw [(hwf hn).length, DMPredictor.writes_params] at hlt
        omega
    · refine DMPredictor.writeDmcontrol_keepsHart hv hne ?_
      intro hlt
      rw [DMPredictor.writes_params] at hlt
      exact hwf (by omega)
  · intro addr value ha
    rw [DMPredictor.onWrite_rc_of_ne _ ha]

/-- Two harts, the first halted; a write that selects the second and asks it to halt. -/
theorem dmcontrol_write_frame_second_hart :
    ((DMPredictor.init { numHarts := 2 }).writes [(0x10, 0x80000001)]).KeepsHart
      (((DMPredictor.init { numHarts := 2 }).writes [(0x10, 0x80000001)]).onWrite DMCONTROL.address
        0x80010001) 0 :=
  (dmcontrol_write_frame (.constructed { numHarts := 2 }) [(0x10, 0x80000001)]).1 0x80010001 (by decide)
    0 (Or.inl (by decide))

/-- With no hart declared, a write with `hartsel = 0` sets the halt request of the placeholder hart,
though `hartsel` is not below the number of harts. -/
theorem dmcontrol_write_touches_placeholder :
    (DMPredictor.init { numHarts := 0 }).params.numHarts ≤ hartselOf 0x80000001 ∧
      ¬ (DMPredictor.init { numHarts := 0 }).KeepsHart
        ((DMPredictor.init { numHarts := 0 }).onWrite DMCONTROL.address 0x80000001) 0 := by
  refine ⟨by decide, ?_⟩
  intro hkeep
  have hbefore : (DMPredictor.init { numHarts := 0 }).rc.harts[0]? = some ({} : HartState) := by decide
  have hafter : (((DMPredictor.init { numHarts := 0 }).onWrite DMCONTROL.address 0x80000001).rc.harts[0]?).map
      (·.haltRequest) = some true := by decide
  obtain ⟨h', hh', hreq, -⟩ := hkeep {} hbefore
  rw [hh', Option.map_some, Option.some.injEq, hreq.haltRequest] at hafter
  cases hafter

end RiscvDbg
