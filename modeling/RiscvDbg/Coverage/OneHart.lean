import RiscvDbg.Coverage.RunControl

/-!
# The crosses and the selected hart

`_sample_dmcontrol_write` crosses a request with the state and the `havereset` of the last `dmstatus`
read.  It checks that the write itself does not move `hartsel`; it does not check that the read was of
the same hart, as `_sample_dmstatus_read` does for a transition.  The hart it tracks is the one of the
last word, also when that word resets the DM and hart 0 is selected.

* `SelectionView` — the hart the DM selects, and the one it selected at the last `dmstatus` read.
* `OneHart` — every hit of a cross is between an access and a read of one hart.
* `one_hart_iff` — where the reads are tracked, the streams for which this holds.
-/

set_option autoImplicit false

namespace RiscvDbg

/-- The bins of `cross.resumereq_x_prior_state`, `cross.havereset_x_ackhavereset` and
`cross.hart_state_transition`. -/
def ContextBin.isHartCross : ContextBin → Bool
  | .transition _ | .resumereq _ | .havereset _ => true
  | .ndmreset .. => false

/-! ## The DM's selection -/

/-- The hart selected in the DM after a write of `dmcontrol`. -/
def selectedBy (word : Nat) : Nat := if word.testBit 0 then hartselOf word else 0

/-- The hart selected in the DM, and the one that was selected at the last read of `dmstatus`. -/
structure SelectionView where
  selected : Nat := 0
  observed : Option Nat := none
  deriving DecidableEq, Repr

/-- One access of the debugger. -/
def SelectionView.step (v : SelectionView) : DmiAccess → SelectionView
  | .write addr w => if addr = DM_ADDR_DMCONTROL then { v with selected := selectedBy w.toNat } else v
  | .read addr _ => if addr = DM_ADDR_DMSTATUS then { v with observed := some v.selected } else v

/-- The view after a stream of accesses. -/
def SelectionView.after (as : List DmiAccess) : SelectionView := Runs.run step {} as

/-- Only run control moves it. -/
theorem SelectionView.step_of_not_isRunControl (v : SelectionView) {a : DmiAccess}
    (ha : a.isRunControl = false) : v.step a = v := by
  cases a with
  | write addr w => exact if_neg (by simpa [DmiAccess.isRunControl] using ha)
  | read addr r => exact if_neg (by simpa [DmiAccess.isRunControl] using ha)

theorem SelectionView.after_concat (as : List DmiAccess) (a : DmiAccess) :
    SelectionView.after (as ++ [a]) = (SelectionView.after as).step a := Runs.run_concat _ _ _ _

/-! ## What one access hits -/

namespace DebugCoverageModel

variable (c : DebugCoverageModel)

/-- The access hits the bin: it is counted once more, or once more as excluded. -/
def Hits (a : DmiAccess) (b : ContextBin) : Prop :=
  c.ctxHits.count b < (c.sampleAccess a).ctxHits.count b ∨
    c.excludedHits.count b < (c.sampleAccess a).excludedHits.count b

/-- A word that does not move the tracked `hartsel` and is crossed with what the last read showed. -/
def crossed (word : Nat) : Bool :=
  hartselOf word == c.hartsel &&
    ((word.testBit 30 && (c.state == .halted || c.state == .running || c.state == .inReset)) ||
      c.havereset.any fun havereset => word.testBit 28 || havereset)

/-- What the crosses are sampled from and into, apart from the last state and `havereset`. -/
def crossPart : List ContextBin × List ContextBin × Nat × Option Nat :=
  (c.ctxHits, c.excludedHits, c.hartsel, c.stateHartsel)

theorem sampleExternalDebug_crossPart (op : ObserverOp) (addr w r : Nat) :
    (c.sampleExternalDebug op addr w r).crossPart = c.crossPart := by
  unfold sampleExternalDebug stage
  split_ifs <;> rfl

theorem sampleAccess_dmcontrol (w : BitVec 32) :
    c.sampleAccess (.write DM_ADDR_DMCONTROL w) = c.sampleDmcontrolWrite w.toNat := rfl

theorem sampleAccess_read_dmstatus (r : BitVec 32) :
    c.sampleAccess (.read DM_ADDR_DMSTATUS r) = c.sampleDmstatusRead r.toNat := rfl

/-- Any other access leaves the crosses alone. -/
theorem sampleAccess_crossPart {a : DmiAccess} (ha : a.isRunControl = false) :
    (c.sampleAccess a).crossPart = c.crossPart := by
  cases a with
  | write addr w =>
    have hne : addr.toNat ≠ DMCONTROL.address := by
      intro h
      obtain rfl : addr = DM_ADDR_DMCONTROL := BitVec.eq_of_toNat_eq h
      exact Bool.noConfusion ha
    simp only [sampleAccess, sample, reduceCtorEq, false_and, true_and, hne, if_false]
    split_ifs
    · rfl
    · exact c.sampleExternalDebug_crossPart ..
  | read addr r =>
    have hne : addr.toNat ≠ DMSTATUS.address := by
      intro h
      obtain rfl : addr = DM_ADDR_DMSTATUS := BitVec.eq_of_toNat_eq h
      exact Bool.noConfusion ha
    simp only [sampleAccess, sample, reduceCtorEq, false_and, true_and, hne, if_false]
    split_ifs
    · rfl
    · exact c.sampleExternalDebug_crossPart ..

/-- An access that appends bins hits exactly these. -/
theorem hits_iff_of_append {a : DmiAccess} {ctx excluded : List ContextBin}
    (hctx : (c.sampleAccess a).ctxHits = c.ctxHits ++ ctx)
    (hexcluded : (c.sampleAccess a).excludedHits = c.excludedHits ++ excluded) (b : ContextBin) :
    c.Hits a b ↔ b ∈ ctx ∨ b ∈ excluded := by
  unfold Hits
  rw [hctx, hexcluded, List.count_append, List.count_append, Nat.lt_add_right_iff_pos,
    Nat.lt_add_right_iff_pos, List.count_pos_iff, List.count_pos_iff]

/-- The crosses of a word. -/
theorem mem_requestBins_iff (word : Nat) :
    (∃ b, b ∈ c.resumereqBins word (hartselOf word != c.hartsel) ++
      c.haveresetBins word (hartselOf word != c.hartsel)) ↔ c.crossed word = true := by
  unfold crossed resumereqBins haveresetBins
  have hsel : (hartselOf word != c.hartsel) = !(hartselOf word == c.hartsel) := rfl
  rw [hsel]
  cases hartselOf word == c.hartsel with
  | false => cases c.havereset <;> simp
  | true =>
    cases c.havereset with
    | none => cases word.testBit 30 <;> cases c.state <;> simp [DebugCoverage.resumereqCtx]
    | some havereset =>
      cases word.testBit 30 <;> cases word.testBit 28 <;> cases havereset <;> cases c.state <;>
        simp [DebugCoverage.resumereqCtx]

theorem isHartCross_requestBins (word : Nat) (changed : Bool) :
    ∀ b ∈ c.resumereqBins word changed ++ c.haveresetBins word changed, b.isHartCross = true := by
  refine List.forall_mem_append.mpr ⟨?_, ?_⟩
  · unfold resumereqBins
    split
    · cases c.state <;> simp [DebugCoverage.resumereqCtx, ContextBin.isHartCross]
    · simp
  · unfold haveresetBins
    split
    · simp
    · split_ifs <;> simp [ContextBin.isHartCross]

theorem isHartCross_ndmresetBins (word hartsel : Nat) :
    ∀ b ∈ c.ndmresetBins word hartsel, b.isHartCross = false := by
  unfold ndmresetBins
  split_ifs <;> simp [ContextBin.isHartCross]

/-- A write of `dmcontrol` hits a cross exactly if its word is crossed. -/
theorem write_hits_cross_iff (w : BitVec 32) :
    (∃ b, b.isHartCross = true ∧ c.Hits (.write DM_ADDR_DMCONTROL w) b) ↔ c.crossed w.toNat = true := by
  set bins := c.resumereqBins w.toNat (hartselOf w.toNat != c.hartsel) ++
    c.haveresetBins w.toNat (hartselOf w.toNat != c.hartsel) with hbins
  -- the edge of `ndmreset` comes after the crosses, and is none of them
  obtain ⟨edge, hedge, hctx⟩ : ∃ edge : List ContextBin, (∀ b ∈ edge, b.isHartCross = false) ∧
      (c.sampleAccess (.write DM_ADDR_DMCONTROL w)).ctxHits = c.ctxHits ++ (bins ++ edge) := by
    rw [sampleAccess_dmcontrol, sampleDmcontrolWrite_eq]
    by_cases hactive : w.toNat.testBit 0 = false
    · refine ⟨[], List.forall_mem_nil _, ?_⟩
      simp only [if_pos hactive, List.append_nil]
      rfl
    · simp only [if_neg hactive]
      exact ⟨_, isHartCross_ndmresetBins _ _ _, rfl⟩
  have hexcluded : (c.sampleAccess (.write DM_ADDR_DMCONTROL w)).excludedHits = c.excludedHits ++ [] := by
    rw [sampleAccess_dmcontrol, sampleDmcontrolWrite_eq, List.append_nil]
    simp only
    split_ifs <;> rfl
  rw [← c.mem_requestBins_iff]
  constructor
  · rintro ⟨b, hcross, hhit⟩
    rcases (c.hits_iff_of_append hctx hexcluded b).mp hhit with hb | hb
    · rcases List.mem_append.mp hb with hb | hb
      · exact ⟨b, hb⟩
      · exact absurd hcross (by rw [hedge b hb]; decide)
    · cases hb
  · rintro ⟨b, hb⟩
    exact ⟨b, c.isHartCross_requestBins _ _ b hb,
      (c.hits_iff_of_append hctx hexcluded b).mpr (.inl (List.mem_append_left _ hb))⟩

/-- A read of `dmstatus` hits a bin only if the last one was made with the same tracked `hartsel`. -/
theorem stateHartsel_of_read_hits {r : BitVec 32} {b : ContextBin}
    (h : c.Hits (.read DM_ADDR_DMSTATUS r) b) : c.stateHartsel = some c.hartsel := by
  have heq := c.sampleDmstatusRead_eq r.toNat
  rw [← sampleAccess_read_dmstatus] at heq
  have hmem : b ∈ c.transitionBins (stateFromDmstatus r.toNat c.ndmreset) := by
    rcases (c.hits_iff_of_append (by rw [heq]) (by rw [heq]) b).mp h with hb | hb
    · exact (List.mem_filter.mp hb).1
    · exact (List.mem_filter.mp hb).1
  unfold transitionBins at hmem
  split_ifs at hmem with hsel
  · exact hsel
  · cases hmem

/-- No other access hits anything. -/
theorem not_hits_of_not_isRunControl {a : DmiAccess} (ha : a.isRunControl = false) (b : ContextBin) :
    ¬ c.Hits a b := by
  have hpart := c.sampleAccess_crossPart ha
  simp only [crossPart, Prod.mk.injEq] at hpart
  unfold Hits
  rw [hpart.1, hpart.2.1]
  omega

end DebugCoverageModel

/-! ## Streams -/

/-- Each hit of a cross relates an access to a read of `dmstatus` at which the DM had the same hart
selected. -/
def OneHart (as : List DmiAccess) : Prop :=
  ∀ before a, before ++ [a] <+: as → ∀ b, b.isHartCross = true → (DebugCoverageModel.after before).Hits a b →
    (SelectionView.after before).observed = some (SelectionView.after (before ++ [a])).selected

/-- At every read of `dmstatus` the tracked `hartsel` is the hart the DM has selected: the last word of
`dmcontrol` kept the DM active, or it named hart 0. -/
def ReadsTracked (as : List DmiAccess) : Prop :=
  ∀ before r, before ++ [.read DM_ADDR_DMSTATUS r] <+: as →
    (DebugCoverageModel.after before).hartsel = (SelectionView.after before).selected

/-- A word that is crossed selects the hart of `_state_hartsel`. -/
def CrossedWithOwn (as : List DmiAccess) : Prop :=
  ∀ before w, before ++ [.write DM_ADDR_DMCONTROL w] <+: as →
    (DebugCoverageModel.after before).crossed w.toNat = true →
      (DebugCoverageModel.after before).stateHartsel = some (selectedBy w.toNat)

/-- Where the reads are tracked, `_state_hartsel` is the hart observed last. -/
theorem stateHartsel_eq_observed {as : List DmiAccess} (hreads : ReadsTracked as) :
    (DebugCoverageModel.after as).stateHartsel = (SelectionView.after as).observed := by
  induction as using List.reverseRecOn with
  | nil => rfl
  | append_singleton as a ih =>
    have hbefore : ReadsTracked as := by
      intro before r hpre
      exact hreads before r (hpre.trans (List.prefix_append as [a]))
    rw [DebugCoverageModel.after_concat, SelectionView.after_concat]
    cases ha : a.isRunControl with
    | false =>
      have hpart := (DebugCoverageModel.after as).sampleAccess_crossPart ha
      simp only [DebugCoverageModel.crossPart, Prod.mk.injEq] at hpart
      rw [hpart.2.2.2, ih hbefore, SelectionView.step_of_not_isRunControl _ ha]
    | true =>
      cases a with
      | write addr w =>
        obtain rfl : addr = DM_ADDR_DMCONTROL := eq_of_beq ha
        rw [DebugCoverageModel.sampleAccess_dmcontrol, DebugCoverageModel.sampleDmcontrolWrite_eq,
          SelectionView.step, if_pos rfl, ← ih hbefore]
        simp only
        split_ifs <;> rfl
      | read addr r =>
        obtain rfl : addr = DM_ADDR_DMSTATUS := eq_of_beq ha
        rw [DebugCoverageModel.sampleAccess_read_dmstatus, DebugCoverageModel.sampleDmstatusRead_eq,
          SelectionView.step, if_pos rfl, ← hreads as r List.prefix_rfl]

/-- **Crosses of one hart.**  For every stream whose `dmstatus` reads are all made with the tracked
`hartsel` equal to the DM's, no cross mixes harts exactly if every crossed word selects the hart that
`_state_hartsel` names. -/
theorem one_hart_iff (as : List DmiAccess) (hreads : ReadsTracked as) : OneHart as ↔ CrossedWithOwn as := by
  have hobserved : ∀ before a, before ++ [a] <+: as →
      (DebugCoverageModel.after before).stateHartsel = (SelectionView.after before).observed := by
    intro before a hpre
    refine stateHartsel_eq_observed ?_
    intro earlier r hearlier
    exact hreads earlier r (hearlier.trans ((List.prefix_append before [a]).trans hpre))
  have hselected : ∀ before w, (SelectionView.after (before ++ [.write DM_ADDR_DMCONTROL w])).selected =
      selectedBy w.toNat := by
    intro before w
    rw [SelectionView.after_concat, SelectionView.step, if_pos rfl]
  constructor
  · intro hone before w hpre hcrossed
    obtain ⟨b, hcross, hhit⟩ := ((DebugCoverageModel.after before).write_hits_cross_iff w).mpr hcrossed
    rw [hobserved before _ hpre, ← hselected before w]
    exact hone before _ hpre b hcross hhit
  · intro hown before a hpre b hcross hhit
    rw [← hobserved before a hpre]
    cases ha : a.isRunControl with
    | false => exact absurd hhit (DebugCoverageModel.not_hits_of_not_isRunControl _ ha b)
    | true =>
      cases a with
      | write addr w =>
        obtain rfl : addr = DM_ADDR_DMCONTROL := eq_of_beq ha
        rw [hselected before w]
        exact hown before w hpre (((DebugCoverageModel.after before).write_hits_cross_iff w).mp ⟨b, hcross, hhit⟩)
      | read addr r =>
        obtain rfl : addr = DM_ADDR_DMSTATUS := eq_of_beq ha
        rw [SelectionView.after_concat, SelectionView.step, if_pos rfl, ← hreads before r hpre]
        exact DebugCoverageModel.stateHartsel_of_read_hits _ hhit

/-- A DM that is never reset has every read tracked. -/
theorem hartsel_eq_selected {as : List DmiAccess}
    (hactive : ∀ w ∈ writesTo as DM_ADDR_DMCONTROL, w.getLsbD 0 = true) :
    (DebugCoverageModel.after as).hartsel = (SelectionView.after as).selected := by
  induction as using List.reverseRecOn with
  | nil => rfl
  | append_singleton as a ih =>
    have hbefore : ∀ w ∈ writesTo as DM_ADDR_DMCONTROL, w.getLsbD 0 = true := by
      intro w hw
      exact hactive w (mem_writesTo.mpr (List.mem_append_left _ (mem_writesTo.mp hw)))
    rw [DebugCoverageModel.after_concat, SelectionView.after_concat]
    cases ha : a.isRunControl with
    | false =>
      have hpart := (DebugCoverageModel.after as).sampleAccess_crossPart ha
      simp only [DebugCoverageModel.crossPart, Prod.mk.injEq] at hpart
      rw [hpart.2.2.1, ih hbefore, SelectionView.step_of_not_isRunControl _ ha]
    | true =>
      cases a with
      | write addr w =>
        obtain rfl : addr = DM_ADDR_DMCONTROL := eq_of_beq ha
        have hw : w.toNat.testBit 0 = true := by
          rw [BitVec.testBit_toNat]
          exact hactive w (mem_writesTo.mpr (List.mem_append_right _ List.mem_cons_self))
        rw [DebugCoverageModel.sampleAccess_dmcontrol, DebugCoverageModel.sampleDmcontrolWrite_eq,
          SelectionView.step, if_pos rfl, selectedBy, if_pos hw]
        simp only [hw, Bool.true_eq_false, if_false]
      | read addr r =>
        obtain rfl : addr = DM_ADDR_DMSTATUS := eq_of_beq ha
        rw [DebugCoverageModel.sampleAccess_read_dmstatus, DebugCoverageModel.sampleDmstatusRead_eq,
          SelectionView.step, if_pos rfl]
        exact ih hbefore

theorem readsTracked_of_active {as : List DmiAccess}
    (hactive : ∀ w ∈ writesTo as DM_ADDR_DMCONTROL, w.getLsbD 0 = true) : ReadsTracked as := by
  intro before r hpre
  refine hartsel_eq_selected ?_
  intro w hw
  exact hactive w (mem_writesTo.mpr (hpre.subset (List.mem_append_left _ (mem_writesTo.mp hw))))

/-- Hart 1 is selected, read and resumed. -/
theorem one_hart_iff_resume :
    let as : List DmiAccess :=
      [.write DM_ADDR_DMCONTROL 0x10001#32, .read DM_ADDR_DMSTATUS 0x300#32,
       .write DM_ADDR_DMCONTROL 0x40010001#32]
    ReadsTracked as ∧ OneHart as ∧ ContextBin.resumereq .whenHalted ∈ (DebugCoverageModel.after as).ctxHits := by
  intro as
  have hreads : ReadsTracked as := readsTracked_of_active (by simp [as, writesTo])
  refine ⟨hreads, (one_hart_iff as hreads).mpr ?_, by decide⟩
  intro before w hpre hcrossed
  have hw : before = [] ∨ before = as.take 2 ∧ w = 0x40010001#32 := by
    rcases before with _ | ⟨x, _ | ⟨y, _ | ⟨z, rest⟩⟩⟩
    · exact .inl rfl
    · simp [as, List.cons_prefix_cons] at hpre
    · simp only [as, List.cons_append, List.nil_append, List.cons_prefix_cons, DmiAccess.write.injEq] at hpre
      obtain ⟨rfl, rfl, ⟨-, rfl⟩, -⟩ := hpre
      exact .inr ⟨rfl, rfl⟩
    · simp [as, List.cons_prefix_cons] at hpre
  rcases hw with rfl | ⟨rfl, rfl⟩
  · exact absurd hcrossed (by simp [DebugCoverageModel.crossed, DebugCoverageModel.after])
  · decide

/-- Hart 0 reads halted, hart 1 is selected, and a second word resumes hart 1: the request is crossed
with the state of hart 0. -/
theorem resumereq_crossed_with_other_hart :
    let as : List DmiAccess :=
      [.read DM_ADDR_DMSTATUS 0x300#32, .write DM_ADDR_DMCONTROL 0x10001#32,
       .write DM_ADDR_DMCONTROL 0x40010001#32]
    ReadsTracked as ∧ ¬ OneHart as := by
  intro as
  refine ⟨readsTracked_of_active (by simp [as, writesTo]), fun hone => ?_⟩
  have hmixed := hone (as.take 2) _ List.prefix_rfl (.resumereq .whenHalted) rfl (.inl (by decide))
  exact absurd hmixed (by decide)

end RiscvDbg
