import Mathlib.Data.List.DropRight
import RiscvDbg.HartRelease

/-!
# Halt on reset over whole runs

Whether a hart halts when `ndmreset` is released depends on requests made long before, each with
its own selection.  The requests are read off the history of `dmcontrol` writes.

* `sinceReset` — the `dmcontrol` words written since the last DM reset.
* `lastResethaltreq`, `lastHaltreq` — what those words left pending for one hart.
* `Remembers` — the hart's two request bits are these; `writes_remembers` is the run.
* `halt_on_reset_iff` — the run and the write together.
-/

set_option autoImplicit false

namespace RiscvDbg

/-! ## The history of dmcontrol writes -/

/-- The words written to `dmcontrol`, oldest first. -/
def dmcontrolWords (ws : List (Nat × Nat)) : List Nat :=
  (ws.filter fun w => w.1 == DMCONTROL.address).map Prod.snd

/-- The words written to `dmcontrol` since the last DM reset. -/
def sinceReset (ws : List (Nat × Nat)) : List Nat :=
  (dmcontrolWords ws).rtakeWhile fun v => v.testBit 0

/-- The write selects hart `i`. -/
def selects (i value : Nat) : Bool := hartselOf value == i

/-- Of the words that select hart `i` with `setresethaltreq` or `clrresethaltreq`, the last one has
`clrresethaltreq = 0`. -/
def lastResethaltreq (i : Nat) (words : List Nat) : Bool :=
  ((words.filter fun v => selects i v && (v.testBit 3 || v.testBit 2)).getLast?).any
    fun v => !v.testBit 2

/-- The last word that selects hart `i` has `haltreq = 1`. -/
def lastHaltreq (i : Nat) (words : List Nat) : Bool :=
  ((words.filter (selects i)).getLast?).any fun v => v.testBit 31

theorem sinceReset_concat_dmcontrol (ws : List (Nat × Nat)) (value : Nat) :
    sinceReset (ws ++ [(DMCONTROL.address, value)]) =
      if value.testBit 0 then sinceReset ws ++ [value] else [] := by
  have hwords : dmcontrolWords (ws ++ [(DMCONTROL.address, value)]) = dmcontrolWords ws ++ [value] := by
    simp [dmcontrolWords]
  rw [sinceReset, hwords, List.rtakeWhile_concat]
  rfl

theorem sinceReset_concat_of_ne (ws : List (Nat × Nat)) {addr : Nat} (h : addr ≠ DMCONTROL.address)
    (value : Nat) : sinceReset (ws ++ [(addr, value)]) = sinceReset ws := by
  simp [sinceReset, dmcontrolWords, h]

theorem lastResethaltreq_concat (i : Nat) (words : List Nat) (v : Nat) :
    lastResethaltreq i (words ++ [v]) =
      if selects i v && (v.testBit 3 || v.testBit 2) then !v.testBit 2 else lastResethaltreq i words := by
  unfold lastResethaltreq
  rw [List.filter_append, List.filter_cons, List.filter_nil]
  split
  · simp
  · simp

theorem lastHaltreq_concat (i : Nat) (words : List Nat) (v : Nat) :
    lastHaltreq i (words ++ [v]) = if selects i v then v.testBit 31 else lastHaltreq i words := by
  unfold lastHaltreq
  rw [List.filter_append, List.filter_cons, List.filter_nil]
  split
  · simp
  · simp

/-! ## Runs of writes -/

namespace DMPredictor

/-- The state after the DMI writes `ws`, address and value. -/
def writes (s : DMPredictor) (ws : List (Nat × Nat)) : DMPredictor :=
  Runs.run (fun s w => s.onWrite w.1 w.2) s ws

theorem writes_concat (s : DMPredictor) (ws : List (Nat × Nat)) (w : Nat × Nat) :
    s.writes (ws ++ [w]) = (s.writes ws).onWrite w.1 w.2 := Runs.run_concat _ _ _ _

variable {s : DMPredictor}

/-- The request bits of every hart are what the writes `ws` left pending. -/
def Remembers (s : DMPredictor) (ws : List (Nat × Nat)) : Prop :=
  ∀ i h, s.rc.harts[i]? = some h →
    h.requests = (s.params.hasresethaltreq && lastResethaltreq i (sinceReset ws),
      lastHaltreq i (sinceReset ws))

theorem resetDm_remembers {powerOn : Bool} {ws : List (Nat × Nat)} (h : sinceReset ws = []) :
    (s.resetDm powerOn).Remembers ws := by
  intro i hart hh
  rw [resetDm_requests (List.mem_of_getElem? hh), h]
  simp [lastResethaltreq, lastHaltreq]

theorem Booted.remembers (hs : s.Booted) : s.Remembers [] := by
  cases hs with
  | constructed p => exact resetDm_remembers rfl
  | configured p c => exact resetDm_remembers rfl

/-- The step: one more write. -/
theorem onWrite_remembers {ws : List (Nat × Nat)} (hs : s.Remembers ws) (w : Nat × Nat) :
    (s.onWrite w.1 w.2).Remembers (ws ++ [w]) := by
  obtain ⟨addr, value⟩ := w
  by_cases ha : addr = DMCONTROL.address
  · subst ha
    rw [onWrite_dmcontrol]
    cases hv : value.testBit 0 with
    | false =>
      rw [writeDmcontrol_inactive s hv]
      exact resetDm_remembers (by rw [sinceReset_concat_dmcontrol, hv]; rfl)
    | true =>
      rw [writeDmcontrol_active s hv]
      intro i h hh
      rw [RunControl.writeActive_harts] at hh
      obtain ⟨h₀, hget, rfl⟩ := Option.map_eq_some_iff.mp hh
      have hold := hs i h₀ hget
      rw [sinceReset_concat_dmcontrol, hv, if_pos rfl, lastResethaltreq_concat, lastHaltreq_concat,
        HartState.afterWrite_requests, hold]
      -- the write selects this hart in its history exactly when it selects it in the model
      have hsel : (s.rc.hartWrite s.params s.ac value i).selected = selects i value := by
        simp [RunControl.hartWrite, selects, eq_comm]
      rw [hsel]
      cases selects i value with
      | false => rfl
      | true =>
        simp only [RunControl.hartWrite, Bool.true_and, if_true]
        by_cases hq : s.params.hasresethaltreq = true
        · simp [hq]
        · simp [hq]
  · intro i h hh
    rw [onWrite_rc_of_ne s ha] at hh
    rw [sinceReset_concat_of_ne ws ha, (s.onWrite_static addr value).1]
    exact hs i h hh

theorem writes_params (s : DMPredictor) (ws : List (Nat × Nat)) : (s.writes ws).params = s.params := by
  induction ws using List.reverseRecOn with
  | nil => rfl
  | append_singleton ws w ih => rw [writes_concat, (onWrite_static _ _ _).1, ih]

theorem writes_wellFormed (hs : s.WellFormed) (ws : List (Nat × Nat)) : (s.writes ws).WellFormed := by
  induction ws using List.reverseRecOn with
  | nil => exact hs
  | append_singleton ws w ih => rw [writes_concat]; exact onWrite_wellFormed ih _ _

theorem Booted.writes_remembers (hs : s.Booted) (ws : List (Nat × Nat)) : (s.writes ws).Remembers ws := by
  induction ws using List.reverseRecOn with
  | nil => exact hs.remembers
  | append_singleton ws w ih => rw [writes_concat]; exact onWrite_remembers ih w

end DMPredictor

/-- **Halt on reset.**  After any writes `ws`, a `dmcontrol` write that releases `ndmreset`, without
asserting `hartreset` and with none held on hart `i`, and that does not resume hart `i`, leaves it
halted exactly if (a) its last halt-on-reset request was not cleared, or (b) the last write that
selected it asked it to halt, or (c) this write does. -/
theorem halt_on_reset_iff {s : DMPredictor} (hs : s.Booted) {i : Nat} (hi : i < s.params.numHarts)
    (ws : List (Nat × Nat)) {value : Nat} (hactive : value.testBit 0 = true)
    (hwas : (s.writes ws).rc.ndmreset = true) (hnow : value.testBit 1 = false)
    (hlevel : (value.testBit 29 && s.params.supportsHartreset) = false)
    (hheld : ((s.writes ws).rc.harts[i]?).any (·.hartReset) = false)
    (hres : (selects i value && (value.testBit 30 && !value.testBit 31)) = false) :
    ((s.writes ws).onWrite DMCONTROL.address value).hartHalted i = true ↔
      (s.params.hasresethaltreq = true ∧ lastResethaltreq i (sinceReset ws) = true) ∨
      lastHaltreq i (sinceReset ws) = true ∨
      (selects i value = true ∧ value.testBit 31 = true) := by
  have hn : 1 ≤ s.params.numHarts := by omega
  have hw := DMPredictor.writes_wellFormed (hs.wellFormed hn) ws
  have hp := s.writes_params ws
  obtain ⟨h, hget⟩ : ∃ h, (s.writes ws).rc.harts[i]? = some h := by
    rw [← Option.isSome_iff_exists, isSome_getElem?, hw.length, hp]
    exact hi
  rw [hget] at hheld
  have hreq := hs.writes_remembers ws i h hget
  have hsel : ((s.writes ws).rc.hartWrite s.params (s.writes ws).ac value i).selected =
      selects i value := by
    simp [RunControl.hartWrite, selects, eq_comm]
  have hout := HartState.afterWrite_released
    (w := (s.writes ws).rc.hartWrite s.params (s.writes ws).ac value i)
    ((hw.harts h (List.mem_of_getElem? hget)).1.out (hw.harts h (List.mem_of_getElem? hget)).2)
    (by simpa [RunControl.hartWrite] using hi) hheld hwas hnow hlevel (by rw [hsel]; exact hres)
  rw [DMPredictor.onWrite_dmcontrol, DMPredictor.writeDmcontrol_active _ hactive,
    DMPredictor.hartHalted, RunControl.writeActive_harts, hget, hp]
  rw [Option.map_some, Option.any_some, hout.halted, hreq, hsel, hp]
  simp [RunControl.hartWrite, or_assoc]

/-- Hart 1 of two asks for halt on reset, hart 0 withdraws its own request, then both are reset. -/
theorem halt_on_reset_iff_second_hart :
    let s := DMPredictor.declared { numHarts := 2, hasresethaltreq := true }
    let ws := [(0x10, 0x00010009), (0x10, 0x00000005), (0x10, 0x00000003)]
    ((s.writes ws).onWrite DMCONTROL.address 1).hartHalted 1 = true ∧
      ((s.writes ws).onWrite DMCONTROL.address 1).hartHalted 0 = false :=
  ⟨(halt_on_reset_iff (.configured {} { numHarts := 2, hasresethaltreq := true }) (by decide)
      [(0x10, 0x00010009), (0x10, 0x00000005), (0x10, 0x00000003)] (by decide) (by decide)
      (by decide) (by decide) (by decide) (by decide)).mpr (Or.inl (by decide)),
    by decide⟩

end RiscvDbg
