import RiscvDbg.Coverage.Python
import RiscvDbg.Coverage.Sv
import RiscvDbg.RefModel.RunControl

/-!
# The context bins of the two models

Both models infer the selected hart's state from `dmcontrol` writes and `dmstatus` reads, and cross it
with what is written.  `covergroups.sv` has one rule more: after a release of `ndmreset` with a halt
request, and until the next `dmcontrol` write, a hart that reads running counts as still in reset.

* `Twins` — the simulation relation between the two states.
* `heldRelease`, `ReleaseSettled` — the last `dmcontrol` write released the reset with a halt request; no
  `dmstatus` read reports a running hart then.
* `context_bins_agree` — on such streams the models hit the same context bins.
-/

set_option autoImplicit false

namespace RiscvDbg

/-! ## Streams -/

/-- A write of `dmcontrol` or a read of `dmstatus`. -/
def DmiAccess.isRunControl : DmiAccess → Bool
  | .write addr _ => addr == DM_ADDR_DMCONTROL
  | .read addr _ => addr == DM_ADDR_DMSTATUS

/-- The level of `ndmreset` after the `dmcontrol` words `ws`. -/
def ndmresetLevel (ws : List (BitVec 32)) : Bool :=
  match ws.reverse with
  | v :: _ => v.getLsbD 0 && v.getLsbD 1
  | [] => false

/-- The last of the words released `ndmreset`, with `haltreq` set and the DM active. -/
def heldRelease (ws : List (BitVec 32)) : Bool :=
  match ws.reverse with
  | w :: v :: _ => (v.getLsbD 0 && v.getLsbD 1) && (w.getLsbD 0 && !w.getLsbD 1 && w.getLsbD 31)
  | _ => false

/-- A `dmstatus` word that shows an existing, available hart running and not halted. -/
def reportsRunning (r : BitVec 32) : Bool :=
  !r.getLsbD 14 && !r.getLsbD 12 && !r.getLsbD 8 && r.getLsbD 10

/-- No read reports a running hart while the last write released the reset with a halt request. -/
def ReleaseSettled (as : List DmiAccess) : Prop :=
  ∀ before r, before ++ [.read DM_ADDR_DMSTATUS r] <+: as →
    heldRelease (writesTo before DM_ADDR_DMCONTROL) = true → reportsRunning r = false

theorem ndmresetLevel_concat (ws : List (BitVec 32)) (w : BitVec 32) :
    ndmresetLevel (ws ++ [w]) = (w.getLsbD 0 && w.getLsbD 1) := by
  rw [ndmresetLevel, List.reverse_concat]

theorem heldRelease_concat (ws : List (BitVec 32)) (w : BitVec 32) :
    heldRelease (ws ++ [w]) = (ndmresetLevel ws && (w.getLsbD 0 && !w.getLsbD 1 && w.getLsbD 31)) := by
  rw [heldRelease, ndmresetLevel, List.reverse_concat]
  cases ws.reverse <;> rfl

/-- A held release needs a word with `haltreq`. -/
theorem exists_haltreq_of_heldRelease {ws : List (BitVec 32)} (h : heldRelease ws = true) :
    ∃ w ∈ ws, w.getLsbD 31 = true := by
  unfold heldRelease at h
  split at h
  · next w v vs hws =>
    refine ⟨w, List.mem_reverse.mp (hws ▸ List.mem_cons_self), ?_⟩
    exact (Bool.and_eq_true_iff.mp (Bool.and_eq_true_iff.mp h).2).2
  · cases h

/-! ## The Python model, stage by stage -/

namespace DebugCoverageModel

variable (p : DebugCoverageModel) (word : Nat)

/-- The `resumereq` context a write hits. -/
def resumereqBins (changed : Bool) : List ContextBin :=
  if word.testBit 30 && !changed then
    ((DebugCoverage.resumereqCtx p.state).map ContextBin.resumereq).toList
  else []

/-- The `havereset` context a write hits. -/
def haveresetBins (changed : Bool) : List ContextBin :=
  match p.havereset with
  | none => []
  | some havereset =>
    if changed then []
    else if word.testBit 28 then [.havereset (if havereset then .ackWhenSet else .ackWhenClear)]
    else if havereset then [.havereset .noackWhenSet]
    else []

/-- The `ndmreset` edge a write hits. -/
def ndmresetBins (hartsel : Nat) : List ContextBin :=
  if word.testBit 1 && !p.ndmreset then [.ndmreset true (p.resetHaltreq.getD hartsel false)]
  else if !word.testBit 1 && p.ndmreset then [.ndmreset false (p.resetHaltreq.getD hartsel false)]
  else []

theorem sampleResumereq_eq (changed : Bool) :
    p.sampleResumereq word changed = { p with ctxHits := p.ctxHits ++ p.resumereqBins word changed } := by
  unfold sampleResumereq resumereqBins
  rw [DMCONTROL.test_resumereq]
  obtain ⟨state⟩ := p
  cases word.testBit 30 && !changed with
  | false => simp
  | true => cases state <;> simp [hitContext, ContextBin.excluded, DebugCoverage.resumereqCtx]

theorem sampleHavereset_eq (changed : Bool) :
    p.sampleHavereset word changed =
      { p with
        ctxHits := p.ctxHits ++ p.haveresetBins word changed
        havereset := p.havereset.map fun h => if !changed && word.testBit 28 then false else h } := by
  unfold sampleHavereset haveresetBins
  rw [DMCONTROL.test_ackhavereset]
  obtain ⟨-, -, -, havereset⟩ := p
  cases havereset with
  | none => simp
  | some h =>
    cases changed with
    | true => simp
    | false => cases word.testBit 28 <;> cases h <;> simp [hitContext, ContextBin.excluded]

theorem sampleNdmreset_eq (hartsel : Nat) :
    p.sampleNdmreset word hartsel =
      { p with ctxHits := p.ctxHits ++ p.ndmresetBins word hartsel, ndmreset := word.testBit 1 } := by
  unfold sampleNdmreset ndmresetBins
  rw [DMCONTROL.test_ndmreset]
  cases word.testBit 1 <;> cases p.ndmreset <;> simp [hitContext, ContextBin.excluded]

/-- The shadow of the halt-on-reset requests after a write. -/
def shadow (hartsel : Nat) : Dict Nat Bool :=
  if word.testBit 2 then p.resetHaltreq.set hartsel false
  else if word.testBit 3 then p.resetHaltreq.set hartsel true
  else p.resetHaltreq

/-- A whole write of `dmcontrol`. -/
theorem sampleDmcontrolWrite_eq :
    p.sampleDmcontrolWrite word =
      let hartsel := hartselOf word
      let changed := hartsel != p.hartsel
      let bins := p.resumereqBins word changed ++ p.haveresetBins word changed
      if word.testBit 0 = false then
        { p with
          hartsel := hartsel, ctxHits := p.ctxHits ++ bins, resetHaltreq := .empty, ndmreset := false,
          state := .unknown, havereset := none }
      else
        { p with
          hartsel := hartsel
          ctxHits := p.ctxHits ++
            (bins ++ { p with resetHaltreq := p.shadow word hartsel }.ndmresetBins word hartsel)
          havereset := p.havereset.map fun h => if !changed && word.testBit 28 then false else h
          resetHaltreq := p.shadow word hartsel
          ndmreset := word.testBit 1 } := by
  simp only [sampleDmcontrolWrite, sampleResumereq_eq, sampleHavereset_eq, sampleNdmreset_eq,
    DMCONTROL.test_clrresethaltreq, DMCONTROL.test_setresethaltreq, DMCONTROL.test_dmactive, shadow]
  cases word.testBit 0 <;> cases word.testBit 2 <;> cases word.testBit 3
  all_goals
    simp only [Bool.false_eq_true, reduceCtorEq, if_true, if_false, List.append_assoc]
    rfl

end DebugCoverageModel

namespace DebugCoverageModel

theorem transition?_eq (a b : HartObs) : transition? a b = DebugCoverage.transitionOf a b := by
  cases a <;> cases b <;> rfl

theorem hitContext_eq (p : DebugCoverageModel) (b : ContextBin) :
    p.hitContext b =
      { p with
        ctxHits := p.ctxHits ++ [b].filter (!·.excluded)
        excludedHits := p.excludedHits ++ [b].filter (·.excluded) } := by
  unfold hitContext
  cases hb : b.excluded <;> simp [hb]

/-- The transition a read of `dmstatus` shows. -/
def transitionBins (p : DebugCoverageModel) (state : HartObs) : List ContextBin :=
  if p.stateHartsel = some p.hartsel then
    ((DebugCoverage.transitionOf p.state state).map ContextBin.transition).toList
  else []

/-- A whole read of `dmstatus`. -/
theorem sampleDmstatusRead_eq (p : DebugCoverageModel) (word : Nat) :
    p.sampleDmstatusRead word =
      let state := stateFromDmstatus word p.ndmreset
      { p with
        havereset := some (DMSTATUS.anyhavereset.test word)
        state := state
        stateHartsel := some p.hartsel
        ctxHits := p.ctxHits ++ (p.transitionBins state).filter (!·.excluded)
        excludedHits := p.excludedHits ++ (p.transitionBins state).filter (·.excluded) } := by
  unfold sampleDmstatusRead transitionBins
  simp only [transition?_eq, hitContext_eq]
  by_cases hsel : p.stateHartsel = some p.hartsel
  · simp only [hsel, ne_eq, not_true_eq_false, if_true, if_false]
    cases DebugCoverage.transitionOf p.state (stateFromDmstatus word p.ndmreset) <;> simp
  · simp [hsel]

end DebugCoverageModel

namespace DebugCoverage

/-- The transition a read of `dmstatus` shows. -/
def transitionBins (c : DebugCoverage) (state : HartObs) : List ContextBin :=
  if c.stateValid && c.stateHartsel == c.hartsel then
    ((transitionOf c.curState state).map ContextBin.transition).toList
  else []

theorem transitionOf_self (s : HartObs) : transitionOf s s = none := by
  cases s <;> rfl

/-- A whole read of `dmstatus`. -/
theorem sampleDmstatusRead_eq (c : DebugCoverage) (r : FourState 32) :
    c.sampleDmstatusRead r =
      let state := c.decodeHartState r
      { c with
        havereset := r.toBits.getLsbD 18
        haveresetValid := true
        curState := state
        stateHartsel := c.hartsel
        stateValid := true
        ctxHits := c.ctxHits ++ (c.transitionBins state).filter (!·.excluded) } := by
  have hdecode : ({ c with havereset := r.toBits.getLsbD 18, haveresetValid := true } : DebugCoverage).decodeHartState
      r = c.decodeHartState r := rfl
  unfold sampleDmstatusRead transitionBins
  simp only [hdecode, hitContext]
  cases c.stateValid with
  | false => simp
  | true =>
    by_cases hsel : c.stateHartsel = c.hartsel
    · by_cases hsame : c.curState = c.decodeHartState r
      · simp [hsel, ← hsame, transitionOf_self]
      · simp [hsel, hsame]
    · simp [hsel]

end DebugCoverage

/-! ## The simulation relation -/

/-- The two models have inferred the same from the bus. -/
structure Twins (p : DebugCoverageModel) (c : DebugCoverage) : Prop where
  hartsel : c.hartsel.toNat = p.hartsel
  ndmreset : c.ndmreset = p.ndmreset
  havereset : p.havereset = if c.haveresetValid then some c.havereset else none
  state : p.state = if c.stateValid then c.curState else .unknown
  stateHartsel : c.stateValid = true → p.stateHartsel = some c.stateHartsel.toNat
  resetHaltreq : ∀ k : BitVec 20, p.resetHaltreq.getD k.toNat false = c.resetHaltreq.getD k false
  hits : p.ctxHits = c.ctxHits

namespace Twins

variable {p : DebugCoverageModel} {c : DebugCoverage}

/-- The contexts of a request are the same. -/
theorem requestContexts (h : Twins p c) (w : BitVec 32) (changed : Bool) :
    p.resumereqBins w.toNat changed ++ p.haveresetBins w.toNat changed = c.requestContexts w changed := by
  have hbit : ∀ i, w.toNat.testBit i = w.getLsbD i := fun i => BitVec.testBit_toNat w
  unfold DebugCoverage.requestContexts DebugCoverageModel.resumereqBins DebugCoverageModel.haveresetBins
  rw [h.state, h.havereset, hbit, hbit]
  congr 1
  · cases c.stateValid with
    | true => simp only [Bool.and_true, if_true]; split <;> rfl
    | false => simp [DebugCoverage.resumereqCtx]
  · cases c.haveresetValid with
    | false => rfl
    | true => cases changed <;> cases w.getLsbD 28 <;> cases c.havereset <;> rfl

/-- None of them is excluded. -/
theorem filter_requestContexts (c : DebugCoverage) (w : BitVec 32) (changed : Bool) :
    (c.requestContexts w changed).filter (!·.excluded) = c.requestContexts w changed := by
  rw [List.filter_eq_self]
  intro b hb
  obtain hb | hb := List.mem_append.mp hb
  · simp only [Option.mem_toList, Option.map_eq_some_iff] at hb
    obtain ⟨x, -, rfl⟩ := hb
    rfl
  · simp only [Option.mem_toList, Option.map_eq_some_iff] at hb
    obtain ⟨x, -, rfl⟩ := hb
    rfl

theorem filter_ndmresetContexts (c : DebugCoverage) (w : BitVec 32) :
    (c.ndmresetContexts w).filter (!·.excluded) = c.ndmresetContexts w := by
  unfold DebugCoverage.ndmresetContexts
  simp only
  split_ifs <;> rfl

/-- The shadows stay alike. -/
theorem shadow (h : Twins p c) (w : BitVec 32) (hs : BitVec 20) (k : BitVec 20) :
    (p.shadow w.toNat hs.toNat).getD k.toNat false =
      (if w.getLsbD 2 then c.resetHaltreq.set hs false
        else if w.getLsbD 3 then c.resetHaltreq.set hs true
        else c.resetHaltreq).getD k false := by
  have hset : ∀ v, (p.resetHaltreq.set hs.toNat v).getD k.toNat false = (c.resetHaltreq.set hs v).getD k false := by
    intro v
    have hk := h.resetHaltreq k
    unfold Dict.getD at hk ⊢
    rw [Dict.get?_set, Dict.get?_set]
    by_cases he : k = hs
    · rw [if_pos he, if_pos (congrArg BitVec.toNat he)]
    · rw [if_neg he, if_neg fun e => he (BitVec.toNat_inj.mp e), hk]
  unfold DebugCoverageModel.shadow
  rw [BitVec.testBit_toNat, BitVec.testBit_toNat]
  split_ifs
  · exact hset false
  · exact hset true
  · exact h.resetHaltreq k

/-- **A write of `dmcontrol`** keeps the relation. -/
theorem sampleDmcontrolWrite (h : Twins p c) (w : BitVec 32) :
    Twins (p.sampleDmcontrolWrite w.toNat) (c.sampleDmcontrolWrite w) := by
  have hsel : hartselOf w.toNat = (w.extractLsb' 6 10 ++ w.extractLsb' 16 10 : BitVec 20).toNat :=
    (toNat_hartsel w).symm
  have hchanged : (hartselOf w.toNat != p.hartsel) =
      ((w.extractLsb' 6 10 ++ w.extractLsb' 16 10 : BitVec 20) != c.hartsel) := by
    rw [hsel, ← h.hartsel, Bool.eq_iff_iff, bne_iff_ne, bne_iff_ne, ne_eq, ne_eq, BitVec.toNat_inj]
  rw [DebugCoverageModel.sampleDmcontrolWrite_eq, DebugCoverage.sampleDmcontrolWrite]
  simp only [BitVec.testBit_toNat, hchanged, h.requestContexts]
  split
  · refine ⟨hsel.symm, rfl, rfl, rfl, fun hv => absurd hv Bool.false_ne_true, fun _ => rfl, ?_⟩
    show p.ctxHits ++ _ = c.ctxHits ++ _
    rw [h.hits, filter_requestContexts]
  · refine ⟨hsel.symm, rfl, ?_, h.state, h.stateHartsel, ?_, ?_⟩
    · show p.havereset.map _ = if c.haveresetValid then some _ else none
      rw [h.havereset]
      cases c.haveresetValid <;> rfl
    · intro k
      rw [hsel]
      exact h.shadow w _ k
    · show p.ctxHits ++ _ = c.ctxHits ++ List.filter _ _
      rw [h.hits, List.filter_append, filter_requestContexts, filter_ndmresetContexts]
      unfold DebugCoverageModel.ndmresetBins DebugCoverage.ndmresetContexts
      simp only [BitVec.testBit_toNat, hsel, h.ndmreset, h.shadow w]

/-- The window after a held release matters for a hart that reads running only. -/
theorem window_irrelevant (nonexistent unavail halted running ndmreset pending : Bool)
    (hok : pending = true → (!nonexistent && !unavail && !halted && running) = false) :
    (if nonexistent then HartObs.nonexistent
      else if unavail then .unavail
      else if halted then .halted
      else if running && (ndmreset || pending) then .inReset
      else if running then .running
      else .inReset) =
    if nonexistent then HartObs.nonexistent
      else if unavail then .unavail
      else if halted then .halted
      else if running && ndmreset then .inReset
      else if running then .running
      else .inReset := by
  cases pending with
  | false => rw [Bool.or_false]
  | true =>
    have hno := hok rfl
    cases nonexistent with
    | true => rfl
    | false =>
      cases unavail with
      | true => rfl
      | false =>
        cases halted with
        | true => rfl
        | false =>
          obtain rfl : running = false := by simpa using hno
          rfl

/-- The state read from `dmstatus` is the same unless a held release is still settling. -/
theorem decodeHartState (h : Twins p c) {r : BitVec 32}
    (hok : c.ndmresetReleasePending = true → reportsRunning r = false) :
    c.decodeHartState (.ofBits r) = DebugCoverageModel.stateFromDmstatus r.toNat p.ndmreset := by
  have htest : ∀ f : Field, f.width = 1 → f.test r.toNat = r.getLsbD f.lsb := by
    intro f hf
    rw [Field.test_eq_testBit hf, BitVec.testBit_toNat]
  unfold DebugCoverage.decodeHartState DebugCoverageModel.stateFromDmstatus
  rw [htest _ rfl, htest _ rfl, htest _ rfl, htest _ rfl, ← h.ndmreset]
  simp only [FourState.isTrue_ofBits]
  exact window_irrelevant _ _ _ _ _ _ hok

/-- The transition shown is the same. -/
theorem transitionBins (h : Twins p c) (state : HartObs) :
    p.transitionBins state = c.transitionBins state := by
  unfold DebugCoverageModel.transitionBins DebugCoverage.transitionBins
  cases hv : c.stateValid with
  | false =>
    have hunknown : p.state = .unknown := by rw [h.state, hv]; rfl
    have hnone : DebugCoverage.transitionOf .unknown state = none := by cases state <;> rfl
    rw [hunknown, hnone]
    simp
  | true =>
    have hstate : p.state = c.curState := by rw [h.state, hv]; rfl
    rw [hstate, h.stateHartsel hv, ← h.hartsel]
    simp only [Option.some.injEq, BitVec.toNat_inj, Bool.true_and, beq_iff_eq]

/-- **A read of `dmstatus`** keeps the relation, unless it finds a held release still settling. -/
theorem sampleDmstatusRead (h : Twins p c) {r : BitVec 32}
    (hok : c.ndmresetReleasePending = true → reportsRunning r = false) :
    Twins (p.sampleDmstatusRead r.toNat) (c.sampleDmstatusRead (.ofBits r)) := by
  have hhave : DMSTATUS.anyhavereset.test r.toNat = r.getLsbD 18 := by
    rw [Field.test_eq_testBit rfl, BitVec.testBit_toNat]
    rfl
  rw [DebugCoverageModel.sampleDmstatusRead_eq, DebugCoverage.sampleDmstatusRead_eq, ← h.decodeHartState hok]
  simp only [h.transitionBins, hhave, FourState.toBits_ofBits]
  refine ⟨h.hartsel, h.ndmreset, rfl, rfl, ?_, h.resetHaltreq, ?_⟩
  · intro _
    exact congrArg some h.hartsel.symm
  · show p.ctxHits ++ _ = c.ctxHits ++ _
    rw [h.hits]

end Twins

/-! ## Whole streams -/

theorem writesTo_concat_write (as : List DmiAccess) (addr : BitVec 7) (w : BitVec 32) :
    writesTo (as ++ [.write addr w]) addr = writesTo as addr ++ [w] := by
  simp [writesTo]

theorem writesTo_concat_read (as : List DmiAccess) (addr a : BitVec 7) (r : BitVec 32) :
    writesTo (as ++ [.read a r]) addr = writesTo as addr := by
  simp [writesTo]

theorem ReleaseSettled.of_concat {as : List DmiAccess} {a : DmiAccess} (h : ReleaseSettled (as ++ [a])) :
    ReleaseSettled as := by
  intro before r hpre
  exact h before r (hpre.trans (List.prefix_append as [a]))

/-- **The run.**  The states stay related, and the window is open exactly after a held release. -/
theorem twins_after {as : List DmiAccess} (hrc : ∀ a ∈ as, a.isRunControl = true) (hok : ReleaseSettled as) :
    Twins (DebugCoverageModel.after as) (DebugCoverage.afterAccesses as) ∧
      (DebugCoverage.afterAccesses as).ndmreset = ndmresetLevel (writesTo as DM_ADDR_DMCONTROL) ∧
      (DebugCoverage.afterAccesses as).ndmresetReleasePending =
        heldRelease (writesTo as DM_ADDR_DMCONTROL) := by
  induction as using List.reverseRecOn with
  | nil => exact ⟨⟨rfl, rfl, rfl, rfl, nofun, fun _ => rfl, rfl⟩, rfl, rfl⟩
  | append_singleton as a ih =>
    obtain ⟨htwins, hlevel, hheld⟩ := ih (fun b hb => hrc b (List.mem_append_left _ hb)) hok.of_concat
    have ha : a.isRunControl = true := hrc a (by simp)
    rw [DebugCoverageModel.after_concat, DebugCoverage.afterAccesses_concat]
    cases a with
    | write addr w =>
      obtain rfl : addr = DM_ADDR_DMCONTROL := eq_of_beq ha
      refine ⟨htwins.sampleDmcontrolWrite w, ?_, ?_⟩
      · rw [writesTo_concat_write, ndmresetLevel_concat]
        show ((DebugCoverage.afterAccesses as).sampleDmcontrolWrite w).ndmreset = _
        unfold DebugCoverage.sampleDmcontrolWrite
        cases w.getLsbD 0 <;> rfl
      · rw [writesTo_concat_write, heldRelease_concat, ← hlevel]
        show ((DebugCoverage.afterAccesses as).sampleDmcontrolWrite w).ndmresetReleasePending = _
        unfold DebugCoverage.sampleDmcontrolWrite
        generalize (DebugCoverage.afterAccesses as).ndmreset = level
        cases w.getLsbD 0 <;> cases w.getLsbD 1 <;> cases level <;> rfl
    | read addr r =>
      obtain rfl : addr = DM_ADDR_DMSTATUS := eq_of_beq ha
      have hsettled := hok as r List.prefix_rfl
      rw [← hheld] at hsettled
      rw [writesTo_concat_read, DebugCoverage.sampleAccess_dmstatus]
      set c := DebugCoverage.afterAccesses as
      set c' : DebugCoverage :=
        { c.latchRead DM_ADDR_DMSTATUS with reads := c.reads ++ [(DM_ADDR_DMSTATUS, .ofBits r)] }
      have hlatched : Twins (DebugCoverageModel.after as) c' :=
        ⟨htwins.hartsel, htwins.ndmreset, htwins.havereset, htwins.state, htwins.stateHartsel,
          htwins.resetHaltreq, htwins.hits⟩
      have hread := hlatched.sampleDmstatusRead hsettled
      refine ⟨⟨hread.hartsel, hread.ndmreset, hread.havereset, hread.state, hread.stateHartsel,
        hread.resetHaltreq, hread.hits⟩, ?_, ?_⟩
      · show (c'.sampleDmstatusRead (.ofBits r)).ndmreset = _
        rw [DebugCoverage.sampleDmstatusRead_eq]
        exact hlevel
      · show (c'.sampleDmstatusRead (.ofBits r)).ndmresetReleasePending = _
        rw [DebugCoverage.sampleDmstatusRead_eq]
        exact hheld

/-- **Where the context bins agree.**  On the shifts of any stream of `dmcontrol` writes and `dmstatus`
reads in which no read reports a running hart while a release of `ndmreset` with a halt request is the
last write, both models hit the same context bins. -/
theorem context_bins_agree (as : List DmiAccess) (ts : List JtagTxn) (h : Carries as ts)
    (hrc : ∀ a ∈ as, a.isRunControl = true) (hok : ReleaseSettled as) (b : ContextBin) :
    b ∈ (DebugCoverageModel.after as).ctxHits ↔ b ∈ (DebugCoverage.after ts).ctxHits := by
  rw [(DebugCoverage.after_carries h).1, (twins_after hrc hok).1.hits]

/-- A reset released without a halt request: the hart reads in reset, then running. -/
theorem context_bins_agree_release :
    let as : List DmiAccess :=
      [.write DM_ADDR_DMCONTROL 0x3#32, .read DM_ADDR_DMSTATUS 0xC00#32, .write DM_ADDR_DMCONTROL 0x1#32,
       .read DM_ADDR_DMSTATUS 0xC00#32]
    let ts := as.flatMap DmiAccess.shifts
    (∀ a ∈ as, a.isRunControl = true) ∧ ReleaseSettled as ∧
      ContextBin.transition .inResetToRunning ∈ (DebugCoverageModel.after as).ctxHits ∧
      ContextBin.transition .inResetToRunning ∈ (DebugCoverage.after ts).ctxHits := by
  intro as ts
  have hrc : ∀ a ∈ as, a.isRunControl = true := by decide
  have hok : ReleaseSettled as := by
    -- no word of the stream has `haltreq`
    intro before r hpre hheld
    obtain ⟨w, hw, hreq⟩ := exists_haltreq_of_heldRelease hheld
    have hmem : DmiAccess.write DM_ADDR_DMCONTROL w ∈ as :=
      hpre.subset (List.mem_append_left _ (mem_writesTo.mp hw))
    have hwords : w = 0x3#32 ∨ w = 0x1#32 := by simpa [as] using hmem
    obtain rfl | rfl := hwords
    · exact absurd hreq (by decide)
    · exact absurd hreq (by decide)
  have hmem : ContextBin.transition .inResetToRunning ∈ (DebugCoverageModel.after as).ctxHits := by decide
  exact ⟨hrc, hok, hmem, (context_bins_agree as ts (carries_shifts as) hrc hok _).mp hmem⟩

/-- A reset released with a halt request, and a read before the hart has halted: `coverage.py` counts a
transition to running that `covergroups.sv` does not, and then misses the transition to halted. -/
theorem held_release_bins_differ :
    let as : List DmiAccess :=
      [.write DM_ADDR_DMCONTROL 0x3#32, .read DM_ADDR_DMSTATUS 0xC00#32,
       .write DM_ADDR_DMCONTROL 0x80000001#32, .read DM_ADDR_DMSTATUS 0xC00#32,
       .read DM_ADDR_DMSTATUS 0x300#32]
    let ts := as.flatMap DmiAccess.shifts
    (∀ a ∈ as, a.isRunControl = true) ∧ Carries as ts ∧
      (ContextBin.transition .inResetToRunning ∈ (DebugCoverageModel.after as).ctxHits ∧
        ContextBin.transition .inResetToRunning ∉ (DebugCoverage.after ts).ctxHits) ∧
      (ContextBin.transition .inResetToHalted ∈ (DebugCoverage.after ts).ctxHits ∧
        ContextBin.transition .inResetToHalted ∉ (DebugCoverageModel.after as).ctxHits) := by
  intro as ts
  exact ⟨by decide, carries_shifts as, by decide, by decide⟩

end RiscvDbg
