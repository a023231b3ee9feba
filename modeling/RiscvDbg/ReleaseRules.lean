import RiscvDbg.FalseAlarms

/-!
# When the reset-release rules can fire

`_inv_reset_release` recognises a release by a hart that was neither halted nor running before the
write.  The model reports a hart held in reset as running, so that pattern does not occur in the
states it reaches by itself.

* `Reports` — the checker reports a rule for a hart.
* `reports_release_iff` — of all the rules only `_inv_reset_release` reports a release, and it does
  so exactly on the pattern.
* `run_sound` — the states reached without copying observed signals; `not_inReset_of_sound`.
* `release_rules_report_iff` — both together, for every reachable state and every post-state.
-/

set_option autoImplicit false

namespace RiscvDbg

/-- The list holds a violation of `rule` for hart `i`. -/
def Reports (vs : List Violation) (rule : Rule) (i : Nat) : Prop :=
  ∃ v ∈ vs, v.rule = rule ∧ v.hart = some i

instance (vs : List Violation) (rule : Rule) (i : Nat) : Decidable (Reports vs rule i) :=
  inferInstanceAs (Decidable (∃ v ∈ vs, v.rule = rule ∧ v.hart = some i))

/-- The list holds violations of the rules in `rules` only. -/
def Only (rules : List Rule) (vs : List Violation) : Prop := ∀ v ∈ vs, v.rule ∈ rules

theorem only_nil (rules : List Rule) : Only rules [] := fun _ h => absurd h List.not_mem_nil

theorem only_reportIf {rules : List Rule} {b : Bool} {v : Violation} (hv : v.rule ∈ rules) :
    Only rules (reportIf b v) := by
  cases b with
  | false => exact only_nil rules
  | true => intro u hu; rw [List.mem_singleton.mp hu]; exact hv

theorem Only.append {rules : List Rule} {vs us : List Violation} (hv : Only rules vs)
    (hu : Only rules us) : Only rules (vs ++ us) := by
  intro v h
  rcases List.mem_append.mp h with h | h
  · exact hv v h
  · exact hu v h

theorem only_flatMap {α : Type} {rules : List Rule} {l : List α} {f : α → List Violation}
    (hf : ∀ a, Only rules (f a)) : Only rules (l.flatMap f) := by
  intro v h
  obtain ⟨a, -, ha⟩ := List.mem_flatMap.mp h
  exact hf a v ha

theorem only_forSelectedHarts {rules : List Rule} {prev : Option Snapshot} {post : DMPredictor}
    {rule : Nat → HartSnapshot → HartSnapshot → List Violation}
    (hr : ∀ i was now, Only rules (rule i was now)) :
    Only rules (forSelectedHarts prev post rule) := by
  refine only_flatMap fun i => ?_
  split
  · split
    · exact only_nil _
    · exact hr _ _ _
  · exact only_nil _

/-! ## The rules each check can report -/

/-- The rules of the checks other than `_inv_reset_release`. -/
def otherRules : List Rule :=
  [.haltRunMutex, .allImpliesAny, .versionNonzero, .ndmresetpending, .stimDmcontrolMutex,
    .stimDmiDuringNdmreset, .resumereqIgnoredWhenHaltreq, .haltedIgnoresHaltreq,
    .resumereqResumesHalted, .runningIgnoresResumereq, .resumereqClearsAck, .haveresetSticky,
    .ackhaveresetClears, .resethaltreqPerHart, .dmResetState]

section
variable (prev : Option Snapshot) (value : Nat) (post : DMPredictor)

theorem only_invDmiAccess (addr : Nat) : Only otherRules (invDmiAccessDuringNdmreset addr post) := by
  unfold invDmiAccessDuringNdmreset
  exact only_reportIf (by simp [otherRules])

theorem only_invHaltedRunningMutex : Only otherRules (invHaltedRunningMutex post) := by
  unfold invHaltedRunningMutex
  exact only_flatMap fun _ => only_reportIf (by simp [otherRules])

theorem only_checkDmstatusWord (word : Nat) (source : String) :
    Only otherRules (checkDmstatusWord word post source) := by
  unfold checkDmstatusWord
  refine Only.append (Only.append ?_ (only_reportIf (by simp [otherRules])))
    (only_reportIf (by simp [otherRules]))
  split
  · exact only_nil _
  · exact only_flatMap fun _ => only_reportIf (by simp [otherRules])

theorem only_invHaveresetSticky (fields : Option Nat) :
    Only otherRules (invHaveresetSticky prev fields post) := by
  unfold invHaveresetSticky
  split
  · exact only_nil _
  · refine Only.append (only_flatMap fun ⟨now, i⟩ => ?_)
      (only_flatMap fun _ => only_reportIf (by simp [otherRules]))
    dsimp only
    split
    · exact only_nil _
    · exact only_reportIf (by simp [otherRules])

theorem only_invMutexBits : Only otherRules (invMutexBits value) := by
  unfold invMutexBits
  exact only_reportIf (by simp [otherRules])

theorem only_invDmResetState : Only otherRules (invDmResetState value post) := by
  unfold invDmResetState
  split
  · exact only_nil _
  · refine Only.append (only_flatMap fun _ => ?_) (only_flatMap fun _ =>
      Only.append (only_reportIf (by simp [otherRules, survivedReset]))
        (only_reportIf (by simp [otherRules, survivedReset])))
    split
    · exact only_nil _
    · split
      · exact only_nil _
      · exact only_reportIf (by simp [otherRules])

theorem only_invResumereqIgnoredWhenHaltreq :
    Only otherRules (invResumereqIgnoredWhenHaltreq prev value post) := by
  unfold invResumereqIgnoredWhenHaltreq
  repeat' split
  · exact only_nil _
  · exact only_nil _
  · exact only_forSelectedHarts fun _ _ _ => only_reportIf (by simp [otherRules])

theorem only_invHaltedIgnoresHaltreq :
    Only otherRules (invHaltedIgnoresHaltreq prev value post) := by
  unfold invHaltedIgnoresHaltreq
  repeat' split
  · exact only_nil _
  · exact only_nil _
  · refine only_forSelectedHarts fun _ _ _ => ?_
    split
    · exact only_nil _
    · exact Only.append (only_reportIf (by simp [otherRules])) (only_reportIf (by simp [otherRules]))

theorem only_resumereqOnHart (i : Nat) (was now : HartSnapshot) :
    Only otherRules (resumereqOnHart i was now) := by
  unfold resumereqOnHart
  split
  · split
    · intro v hv
      rw [List.mem_singleton.mp hv]
      simp [otherRules]
    · exact only_reportIf (by simp [otherRules])
  · split
    · exact Only.append (only_reportIf (by simp [otherRules])) (only_reportIf (by simp [otherRules]))
    · exact only_nil _

theorem only_invResumereq : Only otherRules (invResumereq prev value post) := by
  unfold invResumereq
  repeat' split
  · exact only_nil _
  · exact only_nil _
  · exact only_nil _
  · exact only_forSelectedHarts only_resumereqOnHart

theorem only_invResethaltreqPerHart :
    Only otherRules (invResethaltreqPerHart prev value post) := by
  unfold invResethaltreqPerHart
  split
  · exact only_nil _
  split
  · exact only_nil _
  refine only_flatMap fun ⟨now, i⟩ => ?_
  dsimp only
  split
  · exact only_nil _
  · split
    · exact only_nil _
    · exact only_reportIf (by simp [otherRules])

/-- Of a `dmcontrol` write's checks only `_inv_reset_release` reports a rule outside `otherRules`. -/
theorem reports_checkAll_iff {rule : Rule} (hr : rule ∉ otherRules) (i : Nat) :
    Reports (checkAll prev (.write (some value)) DMCONTROL.address post) rule i ↔
      Reports (invResetRelease prev value post) rule i := by
  constructor
  · rintro ⟨v, hv, rfl, hh⟩
    refine ⟨v, ?_, rfl, hh⟩
    simp only [checkAll, if_pos, List.mem_append, List.not_mem_nil, or_false] at hv
    rcases hv with (((h | h) | h) | h) | ((((((h | h) | h) | h) | h) | h) | h)
    · exact absurd (only_invDmiAccess _ _ v h) hr
    · exact absurd (only_invHaltedRunningMutex _ v h) hr
    · exact absurd (only_checkDmstatusWord _ _ _ v h) hr
    · exact absurd (only_invHaveresetSticky _ _ _ v h) hr
    · exact absurd (only_invMutexBits _ v h) hr
    · exact absurd (only_invDmResetState _ _ v h) hr
    · exact absurd (only_invResumereqIgnoredWhenHaltreq _ _ _ v h) hr
    · exact absurd (only_invHaltedIgnoresHaltreq _ _ _ v h) hr
    · exact absurd (only_invResumereq _ _ _ v h) hr
    · exact h
    · exact absurd (only_invResethaltreqPerHart _ _ _ v h) hr
  · rintro ⟨v, hv, hrule, hh⟩
    refine ⟨v, ?_, hrule, hh⟩
    simp only [checkAll, if_pos, List.mem_append]
    tauto

end

/-! ## The release rule on one hart -/

theorem reports_reportIf {b : Bool} {v : Violation} {rule : Rule} {i : Nat} :
    Reports (reportIf b v) rule i ↔ b = true ∧ v.rule = rule ∧ v.hart = some i := by
  cases b <;> simp [Reports, reportIf]

theorem reports_append {vs us : List Violation} {rule : Rule} {i : Nat} :
    Reports (vs ++ us) rule i ↔ Reports vs rule i ∨ Reports us rule i := by
  simp only [Reports, List.mem_append, or_and_right, exists_or]

theorem reports_haltOnReset {i j : Nat} {was now : HartSnapshot} :
    Reports (releaseOnHart j was now) .haltOnReset i ↔
      (wantsHalt was now && !now.halted) = true ∧ j = i := by
  simp [releaseOnHart, reports_append, reports_reportIf]

theorem reports_haveresetSetOnReset {i j : Nat} {was now : HartSnapshot} :
    Reports (releaseOnHart j was now) .haveresetSetOnReset i ↔ now.havereset = false ∧ j = i := by
  simp [releaseOnHart, reports_append, reports_reportIf]

/-- A release is reported for hart `i` exactly if the pattern is there and the hart's own check
fails. -/
theorem reports_invResetRelease {r : Rule} {i : Nat} {s post : DMPredictor} {value : Nat}
    (hv : value.testBit 0 = true) {was now : HartState} (hwas : s.rc.harts[i]? = some was)
    (hnow : post.rc.harts[i]? = some now) (hx : now.nonexistent = false) {bad : Prop}
    (hbad : ∀ j was' now', Reports (releaseOnHart j was' now') r i → j = i)
    (hiff : Reports (releaseOnHart i was.snapshot now.snapshot) r i ↔ bad) :
    Reports (invResetRelease (some s.snapshot) value post) r i ↔
      was.snapshot.inReset = true ∧ now.snapshot.inReset = false ∧ bad := by
  have hactive : (!DMCONTROL.dmactive.test value) = false := by rw [DMCONTROL.test_dmactive, hv]; rfl
  unfold invResetRelease
  rw [hactive, if_neg (by simp)]
  constructor
  · rintro ⟨v, hm, hrule, hhart⟩
    obtain ⟨⟨now', j⟩, hj, hm⟩ := List.mem_flatMap.mp hm
    dsimp only at hm
    have hget := List.mem_zipIdx_iff_getElem?.mp hj
    simp only [DMPredictor.snapshot, List.getElem?_map, Option.map_eq_some_iff] at hget
    obtain ⟨h, hh, rfl⟩ := hget
    split at hm
    · simp at hm
    · rename_i was' hwas'
      split at hm
      · simp at hm
      · split at hm
        · simp at hm
        · rename_i hedge
          obtain rfl := hbad j _ _ ⟨v, hm, hrule, hhart⟩
          rw [hnow, Option.some.injEq] at hh
          subst hh
          rw [snapshotHart_snapshot, hwas, Option.map_some, Option.some.injEq] at hwas'
          subst hwas'
          rw [Bool.not_eq_true, Bool.not_eq_false', Bool.and_eq_true, Bool.not_eq_true'] at hedge
          exact ⟨hedge.1, hedge.2, hiff.mp ⟨v, hm, hrule, hhart⟩⟩
  · rintro ⟨hin, hout, hb⟩
    obtain ⟨v, hm, hrule, hhart⟩ := hiff.mpr hb
    refine ⟨v, List.mem_flatMap.mpr ⟨(now.snapshot, i), ?_, ?_⟩, hrule, hhart⟩
    · exact List.mem_zipIdx_iff_getElem?.mpr (by simp [DMPredictor.snapshot, hnow])
    · have hx' : now.snapshot.nonexistent = false := hx
      simp only [snapshotHart_snapshot, hwas, Option.map_some, hx', hin, hout]
      exact hm

/-! ## Reachable states -/

namespace DMPredictor

variable {s : DMPredictor}

theorem step_sound (hs : s.Sound) {i : Input} (hi : ∀ w, i ≠ .syncObservedHartSignals w) :
    (s.step i).Sound := by
  have hreset : ∀ t : DMPredictor, ∀ b : Bool, (b = false → t.Sound) → (t.resetDm b).Sound := by
    intro t b ht
    rcases Nat.eq_zero_or_pos t.params.numHarts with hn | hn
    · refine Or.inr (resetDm_hartless hn b fun hb => (ht hb).resolve_left fun hw => ?_)
      have := hw.one_le
      omega
    · refine Or.inl (resetDm_wellFormed hn b fun hb => (ht hb).resolve_right fun hw => ?_)
      have := hw.none_declared
      omega
  cases i with
  | setConfig c => exact hreset _ true nofun
  | resetDm powerOn => exact hreset s powerOn fun _ => hs
  | setObservedCmdbusy busy =>
    rcases hs with hs | hs
    · exact Or.inl ⟨hs.one_le, hs.length, hs.harts⟩
    · exact Or.inr ⟨hs.none_declared, hs.one_kept, hs.harts⟩
  | onWrite addr value => exact hs.apply (.write addr value)
  | observeRead addr => exact hs.apply (.read addr)
  | observeSbdata0Read =>
    rcases hs with hs | hs
    · exact Or.inl ⟨hs.one_le, hs.length, hs.harts⟩
    · exact Or.inr ⟨hs.none_declared, hs.one_kept, hs.harts⟩
  | syncObservedHartSignals w => exact absurd rfl (hi w)

theorem run_sound (hs : s.Sound) {is : List Input}
    (his : ∀ i ∈ is, ∀ w, i ≠ .syncObservedHartSignals w) : (s.run is).Sound :=
  Runs.run_invariant (P := Sound) (fun _ _ hs hi => step_sound hs hi) is s hs
    (Runs.Always.of_forall (fun _ _ hi => hi) is s his)

/-- The model itself never shows a declared hart as neither halted nor running. -/
theorem Sound.not_inReset (hs : s.Sound) {i : Nat} (hi : i < s.params.numHarts) {h : HartState}
    (hh : s.rc.harts[i]? = some h) : h.snapshot.inReset = false := by
  rcases hs with hs | hs
  · have hsig := (hs.harts h (List.mem_of_getElem? hh)).1.signals
    simp only [HartSnapshot.inReset, HartState.snapshot, hsig]
    cases h.halted <;> rfl
  · have := hs.none_declared
    omega

/-- There are as many harts as declared, and at least one. -/
def Sized (s : DMPredictor) : Prop := s.rc.harts.length = max s.params.numHarts 1

theorem resetDm_sized (s : DMPredictor) (b : Bool) : (s.resetDm b).Sized := by
  simp [Sized, resetDm, RunControl.resetDm, resetDeclaredRegs]

theorem step_sized (hs : s.Sized) (i : Input) : (s.step i).Sized := by
  unfold Sized at hs ⊢
  cases i with
  | setConfig c => exact resetDm_sized _ true
  | resetDm powerOn => exact resetDm_sized _ powerOn
  | setObservedCmdbusy busy => exact hs
  | onWrite addr value =>
    rw [step, (s.onWrite_static addr value).1]
    by_cases ha : addr = DMCONTROL.address
    · rw [ha, onWrite_dmcontrol]
      cases hv : value.testBit 0 with
      | false => rw [writeDmcontrol_inactive s hv]; exact resetDm_sized s false
      | true => rw [writeDmcontrol_active s hv, RunControl.writeActive_fst]; simpa using hs
    · rw [onWrite_rc_of_ne s ha]; exact hs
  | observeRead addr => rw [step, observeRead_rc, (s.observeRead_static addr).1]; exact hs
  | observeSbdata0Read => exact hs
  | syncObservedHartSignals w =>
    simpa [step, syncObservedHartSignals, RunControl.syncObservedHartSignals] using hs

theorem Booted.run_sized (hs : s.Booted) (is : List Input) : (s.run is).Sized := by
  refine Runs.run_invariant (P := Sized) (fun _ i hs _ => step_sized hs i) is s ?_
    (Runs.always_true is s)
  cases hs with
  | constructed p => exact resetDm_sized _ true
  | configured p c => exact resetDm_sized _ true

end DMPredictor

/-- **The reset-release rules fire exactly on a pattern the model does not produce.**  Take any
reached state, in particular one with `ndmreset` asserted, an active write, in particular one that
deasserts it, and any post-state in which the declared hart `i` exists.

If the hart should have halted and runs, `INV-HALT-ON-RESET` is reported for it exactly if it was
neither halted nor running before the write; if its `havereset` is clear without an acknowledgement,
`INV-HAVERESET-SET-ON-RESET` is reported exactly if, besides, it is halted or running after it.
Unless a run copies observed signals into the model, no declared hart is neither halted nor running,
so neither rule is ever reported. -/
theorem release_rules_report_iff {s₀ : DMPredictor} (h₀ : s₀.Booted) (is : List Input) (value i : Nat)
    (hactive : value.testBit 0 = true) (hi : i < (s₀.run is).params.numHarts)
    (post : DMPredictor) (now : HartState) (hnow : post.rc.harts[i]? = some now)
    (hx : now.nonexistent = false) :
    let prev := (s₀.run is).snapshot
    let reports := Reports (checkAll (some prev) (.write (some value)) DMCONTROL.address post)
    let wasInReset := (snapshotHart (some prev) i).any (·.inReset) = true
    ((now.resetHaltreq || now.haltRequest) = true → now.running = true → now.halted = false →
      (reports .haltOnReset i ↔ wasInReset)) ∧
    (now.havereset = false →
      (reports .haveresetSetOnReset i ↔ wasInReset ∧ (now.halted || now.running) = true)) ∧
    ((∀ j ∈ is, ∀ w, j ≠ .syncObservedHartSignals w) →
      ¬ reports .haltOnReset i ∧ ¬ reports .haveresetSetOnReset i) := by
  intro prev reports wasInReset
  obtain ⟨was, hwas⟩ : ∃ was, (s₀.run is).rc.harts[i]? = some was := by
    rw [← Option.isSome_iff_exists, isSome_getElem?, h₀.run_sized is]
    omega
  have hin : wasInReset ↔ was.snapshot.inReset = true := by
    simp [wasInReset, prev, snapshotHart_snapshot, hwas]
  have hhalt := reports_invResetRelease (r := .haltOnReset) hactive hwas hnow hx
    (fun _ _ _ h => (reports_haltOnReset.mp h).2) reports_haltOnReset
  have hhave := reports_invResetRelease (r := .haveresetSetOnReset) hactive hwas hnow hx
    (fun _ _ _ h => (reports_haveresetSetOnReset.mp h).2) reports_haveresetSetOnReset
  have hcheck : ∀ rule, rule ∉ otherRules →
      (reports rule i ↔ Reports (invResetRelease (some prev) value post) rule i) :=
    fun rule hr => reports_checkAll_iff _ _ _ hr i
  rw [hcheck _ (by decide), hcheck _ (by decide), hin]
  refine ⟨?_, ?_, ?_⟩
  · intro hreq hrun hnot
    rw [hhalt]
    have hwants : wantsHalt was.snapshot now.snapshot = true := by
      simp only [wantsHalt, HartState.snapshot]
      cases was.resetHaltreq <;> simp_all
    have hout : now.snapshot.inReset = false := by
      simp [HartSnapshot.inReset, HartState.snapshot, hrun]
    have hhalted : now.snapshot.halted = false := hnot
    simp [hwants, hout, hhalted]
  · intro hclear
    rw [hhave]
    simp only [HartSnapshot.inReset, HartState.snapshot, hclear]
    cases now.halted <;> cases now.running <;> simp
  · intro hsync
    have hnever := (DMPredictor.run_sound h₀.sound hsync).not_inReset hi hwas
    rw [hhalt, hhave, hnever]
    simp

/-- The writes that ask for halt on reset and then assert `ndmreset`. -/
def holdInReset : List Input := [.onWrite 0x10 0x00000009, .onWrite 0x10 0x00000003]

/-- A released model whose only hart runs although it was asked to halt. -/
def runningAfterRelease : DMPredictor :=
  let s := DMPredictor.declared { version := 2, hasresethaltreq := true }
  { s with rc := { s.rc with dmactive := true, harts := [{ resetHaltreq := true }] } }

/-- Observed signals that read as neither halted nor running make the rules fire; the model's own
signals do not. -/
theorem release_rules_report_iff_running_hart :
    let s := DMPredictor.declared { version := 2, hasresethaltreq := true }
    (Reports (checkAll (some (s.run (holdInReset ++ [.syncObservedHartSignals 0])).snapshot)
      (.write (some 1)) DMCONTROL.address runningAfterRelease) .haltOnReset 0) ∧
    ¬ Reports (checkAll (some (s.run holdInReset).snapshot)
      (.write (some 1)) DMCONTROL.address runningAfterRelease) .haltOnReset 0 := by
  have hboot : (DMPredictor.declared { version := 2, hasresethaltreq := true }).Booted :=
    .configured {} { version := 2, hasresethaltreq := true }
  constructor
  · have h := (release_rules_report_iff hboot (holdInReset ++ [.syncObservedHartSignals 0]) 1 0
      (by decide) (by decide) runningAfterRelease { resetHaltreq := true } rfl rfl).1 rfl rfl rfl
    exact h.mpr (by decide)
  · exact ((release_rules_report_iff hboot holdInReset 1 0
      (by decide) (by decide) runningAfterRelease { resetHaltreq := true } rfl rfl).2.2
      (by simp [holdInReset])).1

/-- Neither rule detects what it is written for, from the states the model reaches: after
`holdInReset`, a release that leaves the hart running, or its `havereset` clear, goes unreported. -/
theorem release_rules_miss :
    ¬ (∀ (c : DeclaredConfig) (is : List Input) (value i : Nat) (post : DMPredictor) (now : HartState),
      ((DMPredictor.declared c).run is).rc.ndmreset = true → value.testBit 0 = true →
      value.testBit 1 = false → value.testBit 29 = false → post.rc.ndmreset = false →
      i < c.numHarts → post.rc.harts[i]? = some now → now.nonexistent = false →
      (now.resetHaltreq || now.haltRequest) = true → now.running = true → now.halted = false →
      Reports (checkAll (some ((DMPredictor.declared c).run is).snapshot) (.write (some value))
        DMCONTROL.address post) .haltOnReset i) ∧
    ¬ (∀ (c : DeclaredConfig) (is : List Input) (value i : Nat) (post : DMPredictor) (now : HartState),
      ((DMPredictor.declared c).run is).rc.ndmreset = true → value.testBit 0 = true →
      value.testBit 1 = false → value.testBit 29 = false → value.testBit 28 = false →
      post.rc.ndmreset = false → i < c.numHarts → post.rc.harts[i]? = some now →
      now.nonexistent = false → now.havereset = false →
      Reports (checkAll (some ((DMPredictor.declared c).run is).snapshot) (.write (some value))
        DMCONTROL.address post) .haveresetSetOnReset i) := by
  constructor
  · intro h
    have := h { version := 2, hasresethaltreq := true } holdInReset 1 0 runningAfterRelease
      { resetHaltreq := true } (by decide) (by decide) (by decide) (by decide) (by decide) (by decide)
      rfl rfl rfl rfl rfl
    revert this
    decide
  · intro h
    have := h { version := 2, hasresethaltreq := true } holdInReset 1 0 runningAfterRelease
      { resetHaltreq := true } (by decide) (by decide) (by decide) (by decide) (by decide) (by decide)
      (by decide) rfl rfl rfl
    revert this
    decide

end RiscvDbg
