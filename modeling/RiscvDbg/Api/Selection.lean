import RiscvDbg.Api.RunControl

/-!
# Selection and reset level over sessions

`dmcontrol` holds the selection, the reset level and the one-shot requests in one word, and every helper
of the API writes the whole word.  Two laws of sessions follow or fail from what each helper puts into the
fields it is not about.

* `SelectionTracked` — after every call that returns, `_hartsel` is the hart the DM has selected.
  `write_dmcontrol` sends a selection without recording it: `selection_tracked_iff`.
* `LevelMovedByResetCalls`, `HaltOnResetTakesEffect` — only the reset calls move `ndmreset`, and a
  halt-on-reset request made during the reset is honoured.  The other helpers send `ndmreset = 0`:
  `reset_level_iff`.
-/

set_option autoImplicit false

namespace RiscvDbg

/-! ## The selection -/

/-- After every call that returns, `_hartsel` is the predictor's `hartsel`. -/
def SelectionTracked (polls : Nat) (d : RISCVDebug) (calls : List DebugCall) : Prop :=
  Runs.Always (DebugCall.after polls)
    (fun d call => call.returns polls d = true →
      (call.after polls d).hartsel = (call.after polls d).t.predictor.rc.hartsel) d calls

/-- A `write_dmcontrol` that keeps the DM active names no hart or, up to 20 bits, the one tracked; one that
resets the DM finds hart 0 tracked. -/
def RISCVDebug.KeepsSelection (d : RISCVDebug) : DebugCall → Prop
  | .writeDmcontrol fields =>
    if fields.dmactive.getD true then ∀ hartsel ∈ fields.hartsel, (lowBits 20 hartsel : Int) = d.hartsel
    else d.hartsel = 0
  | _ => True

/-- The two selections agree, on a 20-bit index. -/
def SessionView.Agrees (v : SessionView) : Prop := v.tracked = v.selected ∧ v.selected < 2 ^ 20

/-- The indices given to `select_hart` have 20 bits. -/
def DebugCall.IndexFits : DebugCall → Prop
  | .selectHart hartsel => 0 ≤ hartsel ∧ hartsel < 2 ^ 20
  | _ => True

namespace SessionView

variable {v : SessionView}

theorem lowBits_of_fits {n : Int} (h₀ : 0 ≤ n) (h : n < 2 ^ 20) : (lowBits 20 n : Int) = n := by
  rw [lowBits_cast]
  omega

theorem Agrees.lowBits_tracked (hv : v.Agrees) : (lowBits 20 v.tracked : Int) = v.tracked := by
  obtain ⟨heq, hlt⟩ := hv
  exact lowBits_of_fits (by omega) (by omega)

/-- **One call.**  From agreeing selections, every call but `write_dmcontrol` leaves agreeing ones. -/
theorem Agrees.next (hv : v.Agrees) {call : DebugCall} (hfits : call.IndexFits)
    (hcall : ∀ fields, call ≠ .writeDmcontrol fields) : (v.next call).Agrees := by
  have hself := hv.lowBits_tracked
  have hlow : lowBits 20 v.tracked < 2 ^ 20 := lowBits_lt 20 _
  cases call with
  | activate => exact ⟨rfl, Nat.two_pow_pos 20⟩
  | deactivate => exact ⟨rfl, Nat.two_pow_pos 20⟩
  | selectHart hartsel => exact ⟨(lowBits_of_fits hfits.1 hfits.2).symm, lowBits_lt 20 _⟩
  | writeDmcontrol fields => exact absurd rfl (hcall fields)
  | halt => exact ⟨hself.symm, hlow⟩
  | resume => exact ⟨hself.symm, hlow⟩
  | resumeNoWait => exact ⟨hself.symm, hlow⟩
  | ndmreset assertReset => exact ⟨hself.symm, hlow⟩
  | hartreset assertReset => exact ⟨hself.symm, hlow⟩
  | ackhavereset => exact ⟨hself.symm, hlow⟩
  | ackunavail => exact ⟨hself.symm, hlow⟩
  | setResetHaltreq => exact ⟨hself.symm, hlow⟩
  | clrResetHaltreq => exact ⟨hself.symm, hlow⟩
  | isHalted => exact hv
  | isRunning => exact hv
  | read register => exact hv
  | access call => exact hv
  | clearCmderr => exact hv
  | writeProgbuf index instruction => exact hv
  | executeProgbuf => exact hv
  | setStep enable => exact hv
  | writeDmcs2 fields => exact hv

/-- A `write_dmcontrol` keeps the agreement exactly if it keeps the selection. -/
theorem Agrees.write_iff {d : RISCVDebug} (hv : d.view.Agrees) (fields : DmcontrolOverrides) :
    d.hartsel = (d.view.next (.writeDmcontrol fields)).selected ↔
      d.KeepsSelection (.writeDmcontrol fields) := by
  have hself : (lowBits 20 d.hartsel : Int) = d.hartsel := hv.lowBits_tracked
  show d.hartsel = ((if fields.dmactive.getD true then lowBits 20 (fields.hartsel.getD d.hartsel) else 0 : Nat) : Int) ↔
    if fields.dmactive.getD true then ∀ hartsel ∈ fields.hartsel, (lowBits 20 hartsel : Int) = d.hartsel
    else d.hartsel = 0
  cases fields.dmactive.getD true with
  | false => exact Iff.rfl
  | true =>
    simp only [if_true]
    cases fields.hartsel with
    | none =>
      refine iff_of_true hself.symm ?_
      intro hartsel h
      cases h
    | some hartsel =>
      simp only [Option.getD_some, Option.mem_some_iff, forall_eq']
      exact eq_comm

theorem write_selected_lt (a : DmcontrolArgs) : (v.write a).selected < 2 ^ 20 := by
  unfold write
  split
  · exact lowBits_lt 20 _
  · exact Nat.two_pow_pos 20

end SessionView

namespace RISCVDebug

variable (polls : Nat) {d : RISCVDebug} {call : DebugCall}

/-- Every call but `write_dmcontrol` keeps the agreement, whether it returns or raises. -/
theorem agrees_after_of_ne (hd : d.view.Agrees) (hfits : call.IndexFits)
    (hcall : ∀ fields, call ≠ .writeDmcontrol fields) :
    (call.after polls d).view.Agrees ∧ d.KeepsSelection call := by
  refine ⟨?_, ?_⟩
  · rw [d.view_after]
    exact hd.next hfits hcall
  · cases call with
    | writeDmcontrol fields => exact absurd rfl (hcall fields)
    | _ => trivial

/-- A `write_dmcontrol` keeps the agreement exactly if it keeps the selection. -/
theorem agrees_after_write_iff (hd : d.view.Agrees) (fields : DmcontrolOverrides) :
    (DebugCall.after polls d (.writeDmcontrol fields)).view.Agrees ↔ d.KeepsSelection (.writeDmcontrol fields) := by
  have hiff := hd.write_iff fields
  have hlt : (d.view.next (.writeDmcontrol fields)).selected < 2 ^ 20 := SessionView.write_selected_lt _
  rw [d.view_after]
  exact ⟨fun h => hiff.mp h.1, fun h => ⟨hiff.mpr h, hlt⟩⟩

/-- **One call.**  From agreeing selections, what the law asks of a call is that it keeps the selection, and
such a call leaves agreeing selections. -/
theorem tracked_after_iff (hd : d.view.Agrees) (hfits : call.IndexFits) :
    (d.KeepsSelection call → (call.after polls d).view.Agrees) ∧
      ((call.returns polls d = true →
        (call.after polls d).hartsel = (call.after polls d).t.predictor.rc.hartsel) ↔ d.KeepsSelection call) := by
  by_cases hw : ∃ fields, call = .writeDmcontrol fields
  · obtain ⟨fields, rfl⟩ := hw
    have hiff := agrees_after_write_iff polls hd fields
    have heq : (DebugCall.after polls d (.writeDmcontrol fields)).hartsel = d.hartsel := rfl
    refine ⟨hiff.mpr, ?_, fun h _ => (hiff.mpr h).1⟩
    intro htracked
    refine (hd.write_iff fields).mp ?_
    rw [← d.view_after polls, ← heq]
    exact htracked rfl
  · obtain ⟨hagrees, hkeeps⟩ := agrees_after_of_ne polls hd hfits fun fields h => hw ⟨fields, h⟩
    exact ⟨fun _ => hagrees, iff_of_true (fun _ => hagrees.1) hkeeps⟩

/-- A session on a fresh transport starts with hart 0 on both sides. -/
theorem agrees_of_booted {t : MockTransport} (ht : t.predictor.Booted) : (⟨t, 0⟩ : RISCVDebug).view.Agrees := by
  have hzero : t.predictor.rc.hartsel = 0 := by
    generalize t.predictor = s at ht
    cases ht with
    | constructed p => rfl
    | configured p c => rfl
  exact ⟨by rw [view, hzero]; rfl, by rw [view, hzero]; exact Nat.two_pow_pos 20⟩

end RISCVDebug

open RISCVDebug in
/-- **The tracked selection.**  On a fresh transport, and with 20-bit indices given to `select_hart`,
`_hartsel` is the DM's selection after every call that returns exactly if every `write_dmcontrol` keeps the
selection. -/
theorem selection_tracked_iff (polls : Nat) (t : MockTransport) (ht : t.predictor.Booted)
    (calls : List DebugCall) (hfits : ∀ call ∈ calls, call.IndexFits) :
    SelectionTracked polls ⟨t, 0⟩ calls ↔
      Runs.Always (DebugCall.after polls) KeepsSelection ⟨t, 0⟩ calls := by
  refine Runs.always_iff (P := fun d : RISCVDebug => d.view.Agrees) ?_ ?_ calls ⟨t, 0⟩ (agrees_of_booted ht)
    (Runs.Always.of_forall (fun _ _ h => h) calls _ hfits)
  · intro d call hd hlegal hok
    exact (tracked_after_iff polls hd hlegal).1 hok
  · intro d call hd hlegal
    exact (tracked_after_iff polls hd hlegal).2

/-- Hart 3 of four is selected and then named by nobody. -/
theorem selection_tracked_iff_unnamed :
    let t : MockTransport := ⟨.init { numHarts := 4 }, .empty⟩
    let calls : List DebugCall :=
      [.activate, .selectHart 3, .writeDmcontrol { others := { haltreq := true } }, .ackhavereset]
    SelectionTracked 0 ⟨t, 0⟩ calls ∧
      (Runs.run (DebugCall.after 0) ⟨t, 0⟩ calls).t.predictor.rc.hartsel = 3 := by
  intro t calls
  have hfits : ∀ call ∈ calls, call.IndexFits := by
    simp [calls, DebugCall.IndexFits]
  refine ⟨(selection_tracked_iff 0 t (.constructed _) calls hfits).mpr ?_, by decide⟩
  refine ⟨trivial, trivial, ?_, trivial, trivial⟩
  show ∀ hartsel ∈ (none : Option Int), _
  intro hartsel h
  cases h

/-- `write_dmcontrol` selects hart 1 and the API still tracks hart 0. -/
theorem write_dmcontrol_selects_untracked :
    let t : MockTransport := ⟨.init { numHarts := 2 }, .empty⟩
    let calls : List DebugCall := [.activate, .writeDmcontrol { hartsel := some 1 }]
    let d := Runs.run (DebugCall.after 0) ⟨t, 0⟩ calls
    d.hartsel = 0 ∧ d.t.predictor.rc.hartsel = 1 ∧ ¬ SelectionTracked 0 ⟨t, 0⟩ calls := by
  intro t calls d
  have hselected : d.t.predictor.rc.hartsel = 1 := by decide
  refine ⟨rfl, hselected, fun htracked => ?_⟩
  have heq : d.hartsel = d.t.predictor.rc.hartsel := htracked.2.1 rfl
  rw [hselected] at heq
  exact absurd heq (by decide)

/-! ## The reset level -/

/-- The calls that are there to move `ndmreset`. -/
def DebugCall.controlsReset : DebugCall → Bool
  | .ndmreset _ | .deactivate | .activate | .writeDmcontrol _ => true
  | _ => false

/-- The helpers that write `dmcontrol` for another purpose, with `ndmreset = 0`. -/
def DebugCall.dropsReset : DebugCall → Bool
  | .selectHart _ => true
  | call => call.repeatsSelection

/-- No call but the reset calls changes the DM's `ndmreset`. -/
def LevelMovedByResetCalls (polls : Nat) (d : RISCVDebug) (calls : List DebugCall) : Prop :=
  Runs.Always (DebugCall.after polls)
    (fun d call => call.controlsReset = false →
      (call.after polls d).t.predictor.rc.ndmreset = d.t.predictor.rc.ndmreset) d calls

/-- The calls that end the reset or revoke what was asked for during it. -/
def DebugCall.endsReset : DebugCall → Bool
  | .clrResetHaltreq | .deactivate | .activate | .selectHart _ | .writeDmcontrol _ | .ndmreset false => true
  | _ => false

/-- A `set_reset_haltreq` between `ndmreset(True)` and `ndmreset(False)`, with the calls `xs` before it and
`ys` after it. -/
def haltOnResetCalls (xs ys : List DebugCall) : List DebugCall :=
  DebugCall.ndmreset true :: (xs ++ DebugCall.setResetHaltreq :: (ys ++ [DebugCall.ndmreset false]))

/-- Where nothing between `ndmreset(True)` and `ndmreset(False)` ends the reset or revokes the request, the
hart is halted after `ndmreset(False)`. -/
def HaltOnResetTakesEffect (polls : Nat) (d : RISCVDebug) (calls : List DebugCall) : Prop :=
  ∀ before xs ys, before ++ haltOnResetCalls xs ys <+: calls →
    (∀ call ∈ xs ++ ys, call.endsReset = false) →
    (Runs.run (DebugCall.after polls) d (before ++ haltOnResetCalls xs ys)).isHalted = true

/-- A helper that is called finds the DM out of reset. -/
def RISCVDebug.OutOfReset (d : RISCVDebug) (call : DebugCall) : Prop :=
  call.dropsReset = true → d.t.predictor.rc.ndmreset = false

namespace SessionView

variable (v : SessionView)

/-- The helpers leave the reset released. -/
theorem next_ndmreset_of_dropsReset {call : DebugCall} (h : call.dropsReset = true) :
    (v.next call).ndmreset = false := by
  cases call with
  | selectHart hartsel => rfl
  | halt => rfl
  | resume => rfl
  | resumeNoWait => rfl
  | hartreset assertReset => rfl
  | ackhavereset => rfl
  | ackunavail => rfl
  | setResetHaltreq => rfl
  | clrResetHaltreq => rfl
  | _ => exact absurd h (by simp [DebugCall.dropsReset, DebugCall.repeatsSelection])

/-- The calls that write no `dmcontrol` leave it as it is. -/
theorem next_ndmreset_of_neither {call : DebugCall} (h : call.controlsReset = false)
    (hdrops : call.dropsReset = false) : (v.next call).ndmreset = v.ndmreset := by
  cases call <;> first | rfl | exact Bool.noConfusion h | exact Bool.noConfusion hdrops

theorem controlsReset_of_dropsReset {call : DebugCall} (h : call.dropsReset = true) :
    call.controlsReset = false := by
  cases call <;> first | rfl | exact Bool.noConfusion h

/-- In reset, a call that ends nothing and moves the level only if it may leaves the level up. -/
theorem next_ndmreset_of_inReset {call : DebugCall} (hv : v.ndmreset = true) (hends : call.endsReset = false)
    (hlevel : call.controlsReset = false → (v.next call).ndmreset = v.ndmreset) :
    (v.next call).ndmreset = true := by
  cases hcontrols : call.controlsReset with
  | false => rw [hlevel hcontrols, hv]
  | true =>
    cases call with
    | ndmreset assertReset =>
      cases assertReset with
      | false => exact Bool.noConfusion hends
      | true => rfl
    | _ => first | exact Bool.noConfusion hends | exact Bool.noConfusion hcontrols

end SessionView

open RISCVDebug in
/-- The level is moved by the reset calls alone exactly if the helpers are called out of reset. -/
theorem levelMoved_iff (polls : Nat) (d : RISCVDebug) (calls : List DebugCall) :
    LevelMovedByResetCalls polls d calls ↔ Runs.Always (DebugCall.after polls) OutOfReset d calls := by
  refine Runs.always_iff (P := fun _ => True) (fun _ _ _ _ _ => trivial) ?_ calls d trivial
    (Runs.always_true calls d)
  intro d call _ _
  have hview : (call.after polls d).t.predictor.rc.ndmreset = (d.view.next call).ndmreset := by
    rw [← d.view_after polls call]
    rfl
  rw [hview]
  cases hdrops : call.dropsReset with
  | false =>
    refine iff_of_true ?_ ?_
    · intro hcontrols
      exact d.view.next_ndmreset_of_neither hcontrols hdrops
    · intro h
      exact absurd (hdrops.symm.trans h) Bool.false_ne_true
  | true =>
    have hcontrols := SessionView.controlsReset_of_dropsReset hdrops
    unfold OutOfReset
    rw [d.view.next_ndmreset_of_dropsReset hdrops]
    simp only [hcontrols, hdrops, forall_const]
    exact eq_comm

/-- The law about the level leaves no room for a request during the reset: the request itself moves it. -/
theorem haltOnReset_of_levelMoved (polls : Nat) (d : RISCVDebug) (calls : List DebugCall)
    (hlevel : LevelMovedByResetCalls polls d calls) : HaltOnResetTakesEffect polls d calls := by
  rintro before xs ys ⟨rest, rfl⟩ hquiet
  exfalso
  unfold LevelMovedByResetCalls at hlevel
  rw [List.append_assoc, Runs.always_append, haltOnResetCalls, List.cons_append, Runs.always_cons,
    List.append_assoc, Runs.always_append, List.cons_append, Runs.always_cons] at hlevel
  obtain ⟨-, -, hxs, hset, -⟩ := hlevel
  set d₀ := (DebugCall.ndmreset true).after polls (Runs.run (DebugCall.after polls) d before) with hd₀
  set d₁ := Runs.run (DebugCall.after polls) d₀ xs with hd₁
  -- the level is up after `ndmreset(True)` and stays up until the request
  have hup : d₁.view.ndmreset = true := by
    refine Runs.run_invariant (P := fun d : RISCVDebug => d.view.ndmreset = true) ?_ xs d₀ ?_
      (hxs.and_forall (p := fun call => call.endsReset = false) xs d₀ ?_)
    · rintro d call hd ⟨hkeep, hends⟩
      rw [d.view_after]
      refine d.view.next_ndmreset_of_inReset hd hends ?_
      intro hcontrols
      rw [← d.view_after polls call]
      exact hkeep hcontrols
    · rw [hd₀, RISCVDebug.view_after]
      rfl
    · intro call hcall
      exact hquiet call (List.mem_append_left ys hcall)
  have hdown : (DebugCall.setResetHaltreq.after polls d₁).view.ndmreset = false := by
    rw [d₁.view_after]
    rfl
  have hsame : (DebugCall.setResetHaltreq.after polls d₁).view.ndmreset = d₁.view.ndmreset := hset rfl
  rw [hup, hdown] at hsame
  cases hsame

open RISCVDebug in
/-- **The reset level.**  In every session the two laws hold exactly if no helper that writes `dmcontrol`
for another purpose is called while `ndmreset` is up. -/
theorem reset_level_iff (polls : Nat) (d : RISCVDebug) (calls : List DebugCall) :
    LevelMovedByResetCalls polls d calls ∧ HaltOnResetTakesEffect polls d calls ↔
      Runs.Always (DebugCall.after polls) OutOfReset d calls := by
  rw [← levelMoved_iff]
  constructor
  · intro h
    exact h.1
  · intro hlevel
    exact ⟨hlevel, haltOnReset_of_levelMoved polls d calls hlevel⟩

/-- `set_reset_haltreq` during the reset releases it, and the hart runs. -/
theorem set_reset_haltreq_releases_reset :
    let d : RISCVDebug := ⟨⟨.init { hasresethaltreq := true }, .empty⟩, 0⟩
    let calls : List DebugCall := [.activate, .ndmreset true, .setResetHaltreq, .ndmreset false]
    ¬ LevelMovedByResetCalls 0 d calls ∧ ¬ HaltOnResetTakesEffect 0 d calls := by
  intro d calls
  constructor
  · intro hlevel
    have hmoved : ((Runs.run (DebugCall.after 0) d (calls.take 3)).t.predictor.rc.ndmreset,
        (Runs.run (DebugCall.after 0) d (calls.take 2)).t.predictor.rc.ndmreset) = (false, true) := by decide
    have hkept : (Runs.run (DebugCall.after 0) d (calls.take 3)).t.predictor.rc.ndmreset
        = (Runs.run (DebugCall.after 0) d (calls.take 2)).t.predictor.rc.ndmreset := hlevel.2.2.1 rfl
    simp [hkept] at hmoved
  · intro heffect
    have hhalted := heffect [.activate] [] [] (List.prefix_refl _) (by simp)
    exact absurd hhalted (by decide)

end RiscvDbg
