import Mathlib.Data.Nat.Digits.Defs
import RiscvDbg.Lib.Lines
import RiscvDbg.Lib.Runs
import RiscvDbg.Lib.Scripts

/-!
# Debug sessions

Model of `api/session.py`: a list of named steps, run in batch mode or step by step at a prompt, with the
output sink that takes the lines of the session under simulation.

* `StepReturn`, `StepResult` — what a step may return, and the verdict made of it.
* `DebugSession.batch`, `DebugSession.interactive` — the two modes over the same steps; `DebugSession.run`.
* `OutSink.out` — `_out` with a sink: a line is handed over when it is complete.
* `interactive_run_eq_batch` — at the prompt, the steps that are executed and the verdicts are those of a
  batch run in which the skipped steps do nothing.
* `sink_receives_printed` — the sink gets whole lines, all of what would have been printed but the blanks that
  end no line, and nothing stays behind when the run is over.

What the user types is taken after `strip().lower()`; `pyRepr` is Python's `repr` of a text.
-/

set_option autoImplicit false

namespace RiscvDbg

/-! ## Steps -/

/-- `StepResult`. -/
structure StepResult where
  ok : Bool
  msg : String := ""
  deriving DecidableEq, Repr

/-- What a step function may return. -/
inductive StepReturn where
  | nothing
  | result (r : StepResult)
  | dict (ok : Option Bool) (msg : Option String)
  | other (text : String)
  deriving DecidableEq, Repr

/-- What `_invoke` makes of it. -/
def StepReturn.toResult : StepReturn → StepResult
  | .nothing => ⟨true, ""⟩
  | .result r => r
  | .dict ok msg => ⟨ok.getD true, msg.getD ""⟩
  | .other text => ⟨true, text⟩

/-- A step: its name and its function. -/
structure SessionStep (ε σ : Type) where
  name : String
  fn : Script ε σ StepReturn

/-- The modes of a session. -/
inductive SessionMode where
  | interactive
  | batch
  deriving DecidableEq, Repr

/-- `DebugSession`. -/
structure DebugSession (ε σ : Type) where
  mode : SessionMode := .batch
  stopOnError : Bool := true
  steps : List (SessionStep ε σ) := []

/-! ## Output -/

/-- A call of `_out`. -/
structure OutCall where
  text : String := ""
  ending : String := "\n"
  deriving DecidableEq, Repr

/-- What `print` writes. -/
def OutCall.printed (c : OutCall) : List Char := c.text.toList ++ c.ending.toList

/-- The call ends its line: `end.endswith("\n")`. -/
def OutCall.endsLine (c : OutCall) : Bool := c.ending.toList.getLast? == some '\n'

/-- The lines a sink was given, and `_pending`. -/
structure OutSink where
  lines : List (List Char) := []
  pending : List Char := []
  deriving DecidableEq, Repr

/-- `_out` with a sink. -/
def OutSink.out (k : OutSink) (c : OutCall) : OutSink :=
  let pending := k.pending ++ c.text.toList
  if c.endsLine then ⟨k.lines ++ pending.splitOn '\n', []⟩ else ⟨k.lines, pending⟩

/-! ## Running a session -/

/-- What running some steps gives: the results, the calls of `_out`, whether the user quit, what is left of
the input, and the state. -/
structure SessionRun (σ : Type) where
  results : List StepResult
  out : List OutCall
  quit : Bool
  choices : List String
  state : σ

/-- The same after a step that went before. -/
def SessionRun.after {σ : Type} (r : StepResult) (out : List OutCall) (rest : SessionRun σ) : SessionRun σ :=
  { rest with results := r :: rest.results, out := out ++ rest.out }

namespace DebugSession

variable {ε σ : Type} (text : ε → String) (pyRepr : String → String) (stopOnError : Bool)

/-- `_invoke`: an exception is a failed step with the exception's text. -/
def invoke (fn : Script ε σ StepReturn) (s : σ) : StepResult × σ :=
  match fn.run s with
  | (.ok ret, s) => (ret.toResult, s)
  | (.error e, s) => (⟨false, text e⟩, s)

/-- `f"{n:02d}"`. -/
def twoDigits (n : Nat) : String := String.ofList ((Nat.toDigits 10 n).leftpad 2 '0')

/-- A rule across the page. -/
def rule (c : Char) : String := String.ofList (List.replicate 60 c)

/-- The calls of `_out` of a step in batch mode. -/
def batchOut (idx : Nat) (name : String) (r : StepResult) : List OutCall :=
  [{ text := "  [" ++ twoDigits idx ++ "] " ++ name ++ " ...", ending := " " },
    { text := "[" ++ (if r.ok then "ok" else "FAIL") ++ "]  " ++ r.msg }]

/-- The call of `_out` when a failed step ends the session. -/
def abortOut (idx : Nat) : List OutCall :=
  [{ text := "\n  [ABORT] Step " ++ toString idx ++ " failed - stopping session.\n" }]

/-- The rest of the session after a step: nothing more if it failed and the session stops on errors. -/
def continueAfter (idx : Nat) (r : StepResult) (out : List OutCall) (choices : List String) (s : σ)
    (rest : SessionRun σ) : SessionRun σ :=
  if !r.ok && stopOnError then ⟨[r], out ++ abortOut idx, false, choices, s⟩
  else rest.after r out

/-- The steps in batch mode. -/
def batch : Nat → List (SessionStep ε σ) → List String → σ → SessionRun σ
  | _, [], choices, s => ⟨[], [], false, choices, s⟩
  | idx, step :: steps, choices, s =>
    let (r, s) := invoke text step.fn s
    continueAfter stopOnError idx r (batchOut idx step.name r) choices s (batch (idx + 1) steps choices s)

/-- What the user decides about a step. -/
inductive Decision where
  | execute
  | skip
  | quit
  deriving DecidableEq, Repr

/-- The decision a choice stands for, if it is one. -/
def decision? (choice : String) : Option Decision :=
  if choice = "e" ∨ choice = "" then some .execute
  else if choice = "s" then some .skip
  else if choice = "q" then some .quit
  else none

/-- The calls of `_out` for a choice that decides nothing. -/
def asideOut (choice : String) : List OutCall :=
  if choice = "?" then
    [{ text := "  e / Enter - execute this step" },
      { text := "  s         - skip this step (mark ok, continue)" },
      { text := "  q         - abort the session" }]
  else [{ text := "  Unknown option: " ++ pyRepr choice }]

/-- The prompt of a step. -/
def promptOut : List OutCall := [{ text := "  [e] Execute   [s] Skip   [q] Quit   [?] Help" }]

/-- The loop of `_run_step_interactive`: the output, the decision and what is left of the input.  An input
that has ended counts as `q`. -/
def ask : List String → List OutCall × Decision × List String
  | [] => (promptOut, .quit, [])
  | choice :: choices =>
    match decision? choice with
    | some d => (promptOut, d, choices)
    | none =>
      let (out, d, rest) := ask choices
      (promptOut ++ asideOut pyRepr choice ++ out, d, rest)

/-- The heading of a step in interactive mode. -/
def stepHeading (total idx : Nat) (name : String) : List OutCall :=
  [{ text := "\n" ++ rule '-' },
    { text := "  Step " ++ toString idx ++ "/" ++ toString total ++ ": " ++ name },
    { text := rule '-' }]

/-- The verdict on a step the user skips. -/
def skipped : StepResult := ⟨true, "(skipped by user)"⟩

/-- The steps in interactive mode. -/
def interactive (total : Nat) : Nat → List (SessionStep ε σ) → List String → σ → SessionRun σ
  | _, [], choices, s => ⟨[], [], false, choices, s⟩
  | idx, step :: steps, choices, s =>
    let (asked, d, choices) := ask pyRepr choices
    let out := stepHeading total idx step.name ++ asked
    match d with
    | .execute =>
      let (r, s) := invoke text step.fn s
      let out := out ++ [{ text := "  " ++ (if r.ok then "OK" else "ERR") ++ " " ++ r.msg }]
      continueAfter stopOnError idx r out choices s (interactive total (idx + 1) steps choices s)
    | .skip =>
      let out := out ++ [{ text := "  -> Skipped." }]
      continueAfter stopOnError idx skipped out choices s (interactive total (idx + 1) steps choices s)
    | .quit => ⟨[], out ++ [{ text := "  -> Quit requested." }], true, choices, s⟩

variable (session : DebugSession ε σ)

/-- `_print_header`. -/
def headerOut : List OutCall :=
  [{ text := "\n" ++ rule '=' },
    { text := "  Debug Session  [" ++ (if session.mode = .interactive then "INTERACTIVE" else "BATCH") ++ "]  "
        ++ toString session.steps.length ++ " step(s)" },
    { text := rule '=' }]

/-- `_print_summary`. -/
def summaryOut (results : List StepResult) : List OutCall :=
  let total := results.length
  let passed := results.countP (·.ok)
  let failed := total - passed
  [{ text := "\n" ++ rule '=' },
    { text := "  Session complete - " ++ toString passed ++ "/" ++ toString total ++ " passed", ending := "" },
    { text := if failed ≠ 0 then "  (" ++ toString failed ++ " failed)" else "" },
    { text := rule '=' ++ "\n" }]

/-- The steps in the mode of the session. -/
def runSteps (choices : List String) (s : σ) : SessionRun σ :=
  match session.mode with
  | .batch => batch text session.stopOnError 1 session.steps choices s
  | .interactive =>
    interactive text pyRepr session.stopOnError session.steps.length 1 session.steps choices s

/-- `run`; a user who quits gets no summary, and no results. -/
def run (choices : List String) (s : σ) : SessionRun σ :=
  let r := session.runSteps text pyRepr choices s
  { r with out := session.headerOut ++ r.out ++ if r.quit then [] else summaryOut r.results }

end DebugSession

/-- `all_passed`. -/
def allPassed (results : List StepResult) : Bool := results.all (·.ok)

/-! ## Sessions that do not stop -/

namespace DebugSession

variable {ε σ : Type} (text : ε → String)

/-- The results of steps that are all run. -/
def verdicts : List (SessionStep ε σ) → σ → List StepResult
  | [], _ => []
  | step :: steps, s => (invoke text step.fn s).1 :: verdicts steps (invoke text step.fn s).2

theorem batch_results :
    ∀ (steps : List (SessionStep ε σ)) (idx : Nat) (choices : List String) (s : σ),
      (batch text false idx steps choices s).results = verdicts text steps s := by
  intro steps
  induction steps with
  | nil => intro idx choices s; rfl
  | cons step steps ih =>
    intro idx choices s
    unfold batch continueAfter
    dsimp only
    rw [Bool.and_false, if_neg Bool.false_ne_true]
    exact congrArg _ (ih _ _ _)

/-- A session that does not stop on errors, in batch mode. -/
theorem run_results (pyRepr : String → String) {session : DebugSession ε σ} (hmode : session.mode = .batch)
    (hstop : session.stopOnError = false) (choices : List String) (s : σ) :
    (session.run text pyRepr choices s).results = verdicts text session.steps s := by
  show (session.runSteps text pyRepr choices s).results = _
  unfold runSteps
  rw [hmode, hstop]
  exact batch_results text _ _ _ _

variable {text} {P : σ → Prop}

theorem invoke_of_returns {α : Type} {m : Script ε σ α} {ret : α → StepReturn} {Q : α → σ → Prop}
    (h : m.Returns P Q) {s : σ} (hs : P s) :
    ∃ a, (invoke text (m >>= fun a => pure (ret a)) s).1 = (ret a).toResult ∧
      Q a (invoke text (m >>= fun a => pure (ret a)) s).2 := by
  obtain ⟨a, s', heq, hq⟩ := h s hs
  unfold invoke
  rw [Script.run_bind_of_ok heq]
  exact ⟨a, rfl, hq⟩

theorem invoke_of_raises {fn : Script ε σ StepReturn} (h : fn.Raises P) {s : σ} (hs : P s) :
    (invoke text fn s).1.ok = false := by
  obtain ⟨e, s', heq⟩ := h s hs
  unfold invoke
  rw [heq]

end DebugSession

/-! ## The prompt -/

namespace DebugSession

variable {ε σ : Type} {text : ε → String} {pyRepr : String → String} (stopOnError : Bool)

/-- The decisions in what the user typed. -/
def decisions (choices : List String) : List Decision := choices.filterMap decision?

/-- The steps up to the first one at which the user quits, with those the user skips doing nothing. -/
def asDecided : List (SessionStep ε σ) → List Decision → List (SessionStep ε σ)
  | step :: steps, .execute :: ds => step :: asDecided steps ds
  | step :: steps, .skip :: ds => { step with fn := pure (.result skipped) } :: asDecided steps ds
  | _, _ => []

variable (pyRepr) in
theorem ask_decides (choices : List String) :
    (ask pyRepr choices).2.1 = (decisions choices).headD .quit ∧
      decisions (ask pyRepr choices).2.2 = (decisions choices).tail := by
  induction choices with
  | nil => exact ⟨rfl, rfl⟩
  | cons choice choices ih =>
    unfold ask decisions
    rw [List.filterMap_cons]
    cases hd : decision? choice with
    | some d => exact ⟨rfl, rfl⟩
    | none => exact ih

theorem continueAfter_results (idx : Nat) (r : StepResult) (out : List OutCall) (choices : List String) (s : σ)
    (rest : SessionRun σ) :
    (continueAfter stopOnError idx r out choices s rest).results =
      r :: if !r.ok && stopOnError then [] else rest.results := by
  unfold continueAfter
  split <;> rfl

theorem continueAfter_state (idx : Nat) (r : StepResult) (out : List OutCall) (choices : List String) (s : σ)
    (rest : SessionRun σ) :
    (continueAfter stopOnError idx r out choices s rest).state =
      if !r.ok && stopOnError then s else rest.state := by
  unfold continueAfter
  split <;> rfl

theorem continueAfter_quit (idx : Nat) (r : StepResult) (out : List OutCall) (choices : List String) (s : σ)
    (rest : SessionRun σ) :
    (continueAfter stopOnError idx r out choices s rest).quit = (!(!r.ok && stopOnError) && rest.quit) := by
  unfold continueAfter
  split
  next h => rw [h]; rfl
  next h => rw [Bool.not_eq_true] at h; rw [h]; rfl

/-- A run in interactive mode beside one in batch mode. -/
structure SameVerdicts (steps decided : List (SessionStep ε σ)) (r b : SessionRun σ) : Prop where
  results : r.results = b.results
  state : r.state = b.state
  quit : r.quit = (decide (decided.length < steps.length) && !(stopOnError && !allPassed b.results))

/-- The run in interactive mode is quit at a step. -/
theorem SameVerdicts.atQuit (step : SessionStep ε σ) (steps : List (SessionStep ε σ)) (out : List OutCall)
    (rest choices : List String) (s : σ) :
    SameVerdicts stopOnError (step :: steps) [] ⟨[], out, true, rest, s⟩ ⟨[], [], false, choices, s⟩ := by
  refine ⟨rfl, rfl, ?_⟩
  simp [allPassed]

/-- A step that both runs take. -/
theorem SameVerdicts.continueAfter {steps decided : List (SessionStep ε σ)} {r b : SessionRun σ}
    (h : SameVerdicts stopOnError steps decided r b) (step step' : SessionStep ε σ) (idx : Nat) (v : StepResult)
    (out out' : List OutCall) (choices choices' : List String) (s : σ) :
    SameVerdicts stopOnError (step :: steps) (step' :: decided) (continueAfter stopOnError idx v out choices s r)
      (continueAfter stopOnError idx v out' choices' s b) := by
  refine ⟨?_, ?_, ?_⟩
  · rw [continueAfter_results, continueAfter_results, h.results]
  · rw [continueAfter_state, continueAfter_state, h.state]
  · rw [continueAfter_quit, continueAfter_results, h.quit]
    simp only [List.length_cons, Nat.add_lt_add_iff_right, allPassed, List.all_cons]
    cases v.ok <;> cases stopOnError <;> simp

variable (text pyRepr) in
theorem interactive_sameVerdicts (total : Nat) (batchChoices : List String) :
    ∀ (steps : List (SessionStep ε σ)) (idx : Nat) (choices : List String) (s : σ),
      SameVerdicts stopOnError steps (asDecided steps (decisions choices))
        (interactive text pyRepr stopOnError total idx steps choices s)
        (batch text stopOnError idx (asDecided steps (decisions choices)) batchChoices s) := by
  intro steps
  induction steps with
  | nil =>
    intro idx choices s
    exact ⟨rfl, rfl, rfl⟩
  | cons step steps ih =>
    intro idx choices s
    obtain ⟨hask, hrest⟩ := ask_decides pyRepr choices
    unfold interactive
    generalize ask pyRepr choices = asked at hask hrest ⊢
    obtain ⟨out, d, rest⟩ := asked
    dsimp only at hask hrest ⊢
    cases hds : decisions choices with
    | nil =>
      rw [hds] at hask
      subst hask
      exact .atQuit stopOnError step steps _ _ _ s
    | cons d' ds =>
      rw [hds, List.headD_cons] at hask
      rw [hds, List.tail_cons] at hrest
      subst hask
      cases d with
      | execute =>
        have hsame := ih (idx + 1) rest (invoke text step.fn s).2
        rw [hrest] at hsame
        exact hsame.continueAfter stopOnError step step idx _ _ _ _ _ _
      | skip =>
        have hsame := ih (idx + 1) rest s
        rw [hrest] at hsame
        exact hsame.continueAfter stopOnError step _ idx skipped _ _ _ _ s
      | quit => exact .atQuit stopOnError step steps _ _ _ s

end DebugSession

/-- **The prompt decides which steps run, and nothing else.**  Whatever the user types, the verdicts and the
state after an interactive session are those of a batch session over the steps as the user decided; it is
quit exactly if a step is left over and no failed step has ended it. -/
theorem interactive_run_eq_batch {ε σ : Type} (text : ε → String) (pyRepr : String → String)
    (session : DebugSession ε σ) (choices : List String) (s : σ) :
    let decided := DebugSession.asDecided session.steps (DebugSession.decisions choices)
    let r := DebugSession.run text pyRepr { session with mode := .interactive } choices s
    let b := DebugSession.run text pyRepr { session with mode := .batch, steps := decided } [] s
    r.results = b.results ∧ r.state = b.state ∧
      r.quit = (decide (decided.length < session.steps.length) &&
        !(session.stopOnError && !allPassed b.results)) := by
  have h := DebugSession.interactive_sameVerdicts text pyRepr session.stopOnError session.steps.length []
    session.steps 1 choices s
  exact ⟨h.results, h.state, h.quit⟩

/-! ## The sink -/

/-- What a sink has been given and holds, with the lines ended. -/
def OutSink.written (k : OutSink) : List Char := k.lines.flatMap (· ++ ['\n']) ++ k.pending

/-- What reaches a sink of a call: not the ending of a call that ends no line. -/
def OutCall.kept (c : OutCall) : List Char := if c.endsLine then c.printed else c.text.toList

/-- The endings that the session uses. -/
def OutCall.Plain (c : OutCall) : Prop := c.ending = "\n" ∨ c.ending = " " ∨ c.ending = ""

theorem OutSink.out_written (k : OutSink) {c : OutCall} (hc : c.Plain) :
    (k.out c).written = k.written ++ c.kept := by
  have hend : c.endsLine = true → c.ending.toList = ['\n'] := by
    intro h
    rcases hc with he | he | he <;> simp [OutCall.endsLine, he] at h ⊢
  unfold out OutCall.kept
  dsimp only
  split
  next h =>
    simp only [written, OutCall.printed, hend h, List.flatMap_append, Lines.flatMap_splitOn, List.append_nil,
      List.append_assoc]
  next => simp only [written, List.append_assoc]

theorem OutSink.out_pending (k : OutSink) {c : OutCall} (hc : c.endsLine = true) : (k.out c).pending = [] := by
  unfold out
  dsimp only
  rw [if_pos hc]

theorem OutSink.out_lines {k : OutSink} (hk : ∀ l ∈ k.lines, '\n' ∉ l) (c : OutCall) :
    ∀ l ∈ (k.out c).lines, '\n' ∉ l := by
  intro l hl
  unfold out at hl
  dsimp only at hl
  split at hl
  · rcases List.mem_append.mp hl with hl | hl
    · exact hk l hl
    · exact Lines.not_mem_of_mem_splitOn hl
  · exact hk l hl

theorem OutSink.run_written {cs : List OutCall} (hcs : ∀ c ∈ cs, c.Plain) (k : OutSink) :
    (Runs.run OutSink.out k cs).written = k.written ++ cs.flatMap OutCall.kept := by
  induction cs generalizing k with
  | nil => rw [Runs.run_nil, List.flatMap_nil, List.append_nil]
  | cons c cs ih =>
    rw [Runs.run_cons, ih fun c' hc' => hcs c' (List.mem_cons_of_mem c hc'),
      k.out_written (hcs c List.mem_cons_self), List.flatMap_cons, List.append_assoc]

/-- The output of part of a session. -/
def PlainOut (out : List OutCall) : Prop := ∀ c ∈ out, c.Plain

theorem PlainOut.append {out out' : List OutCall} (h : PlainOut out) (h' : PlainOut out') :
    PlainOut (out ++ out') := fun c hc => (List.mem_append.mp hc).elim (h c) (h' c)

/-- Calls with the default ending. -/
theorem plainOut_of_default {out : List OutCall} (h : ∀ c ∈ out, c.ending = "\n") : PlainOut out :=
  fun c hc => Or.inl (h c hc)

namespace DebugSession

variable {ε σ : Type} (text : ε → String) (pyRepr : String → String) (stopOnError : Bool)

theorem continueAfter_plain {idx : Nat} {r : StepResult} {out : List OutCall} {choices : List String} {s : σ}
    {rest : SessionRun σ} (hout : PlainOut out) (hrest : PlainOut rest.out) :
    PlainOut (continueAfter stopOnError idx r out choices s rest).out := by
  unfold continueAfter
  split
  · exact hout.append (plainOut_of_default (by simp [abortOut]))
  · exact hout.append hrest

theorem batch_plain :
    ∀ (steps : List (SessionStep ε σ)) (idx : Nat) (choices : List String) (s : σ),
      PlainOut (batch text stopOnError idx steps choices s).out := by
  intro steps
  induction steps with
  | nil => intro idx choices s c hc; cases hc
  | cons step steps ih =>
    intro idx choices s
    refine continueAfter_plain stopOnError ?_ (ih _ _ _)
    intro c hc
    simp only [batchOut, List.mem_cons, List.not_mem_nil, or_false] at hc
    rcases hc with rfl | rfl
    · exact Or.inr (Or.inl rfl)
    · exact Or.inl rfl

theorem ask_default (choices : List String) : ∀ c ∈ (ask pyRepr choices).1, c.ending = "\n" := by
  induction choices with
  | nil => simp [ask, promptOut]
  | cons choice choices ih =>
    unfold ask
    split
    · simp [promptOut]
    · have haside : ∀ c ∈ asideOut pyRepr choice, c.ending = "\n" := by
        unfold asideOut
        split <;> simp
      intro c hc
      simp only [promptOut, List.mem_append, List.mem_singleton] at hc
      rcases hc with (rfl | hc) | hc
      · rfl
      · exact haside c hc
      · exact ih c hc

/-- What precedes the outcome of a step at the prompt. -/
theorem asked_default (total idx : Nat) (name : String) (choices : List String) :
    PlainOut (stepHeading total idx name ++ (ask pyRepr choices).1) := by
  refine plainOut_of_default ?_
  intro c hc
  rcases List.mem_append.mp hc with hc | hc
  · simp only [stepHeading, List.mem_cons, List.not_mem_nil, or_false] at hc
    rcases hc with rfl | rfl | rfl <;> rfl
  · exact ask_default pyRepr choices c hc

/-- The output is plain, and a run that is quit ends with a line. -/
structure TidyOut (r : SessionRun σ) : Prop where
  plain : PlainOut r.out
  quit : r.quit = true → ∃ out text, r.out = out ++ [{ text := text }]

theorem TidyOut.continueAfter {idx : Nat} {v : StepResult} {out : List OutCall} {choices : List String} {s : σ}
    {rest : SessionRun σ} (hout : PlainOut out) (h : TidyOut rest) :
    TidyOut (continueAfter stopOnError idx v out choices s rest) := by
  refine ⟨continueAfter_plain stopOnError hout h.plain, ?_⟩
  unfold DebugSession.continueAfter
  split
  · exact nofun
  · intro hq
    obtain ⟨out', text, heq⟩ := h.quit hq
    refine ⟨out ++ out', text, ?_⟩
    show out ++ rest.out = _
    rw [heq, List.append_assoc]

theorem interactive_tidy (total : Nat) :
    ∀ (steps : List (SessionStep ε σ)) (idx : Nat) (choices : List String) (s : σ),
      TidyOut (interactive text pyRepr stopOnError total idx steps choices s) := by
  intro steps
  induction steps with
  | nil => intro idx choices s; exact ⟨fun c hc => absurd hc List.not_mem_nil, nofun⟩
  | cons step steps ih =>
    intro idx choices s
    have hasked := asked_default pyRepr total idx step.name choices
    have hlast : ∀ text, PlainOut [({ text := text } : OutCall)] := fun text =>
      plainOut_of_default (by simp)
    unfold interactive
    dsimp only
    split
    · exact .continueAfter stopOnError (hasked.append (hlast _)) (ih _ _ _)
    · exact .continueAfter stopOnError (hasked.append (hlast _)) (ih _ _ _)
    · exact ⟨hasked.append (hlast _), fun _ => ⟨_, _, rfl⟩⟩

theorem batch_quit :
    ∀ (steps : List (SessionStep ε σ)) (idx : Nat) (choices : List String) (s : σ),
      (batch text stopOnError idx steps choices s).quit = false := by
  intro steps
  induction steps with
  | nil => intro idx choices s; rfl
  | cons step steps ih =>
    intro idx choices s
    unfold batch
    dsimp only
    rw [continueAfter_quit, ih, Bool.and_false]

theorem runSteps_tidy (session : DebugSession ε σ) (choices : List String) (s : σ) :
    TidyOut (session.runSteps text pyRepr choices s) := by
  unfold runSteps
  split
  · refine ⟨batch_plain text _ _ _ _ _, ?_⟩
    rw [batch_quit]
    exact nofun
  · exact interactive_tidy text pyRepr _ _ _ _ _ _

/-- The whole output is plain and ends with a line. -/
theorem run_tidy (session : DebugSession ε σ) (choices : List String) (s : σ) :
    PlainOut (session.run text pyRepr choices s).out ∧
      ∃ out text', (session.run text pyRepr choices s).out = out ++ [{ text := text' }] := by
  have htidy := session.runSteps_tidy text pyRepr choices s
  have hheader : PlainOut session.headerOut := plainOut_of_default (by simp [headerOut])
  have hsummary : ∀ results, PlainOut (summaryOut results) := by
    intro results c hc
    simp only [summaryOut, List.mem_cons, List.not_mem_nil, or_false] at hc
    rcases hc with rfl | rfl | rfl | rfl
    · exact Or.inl rfl
    · exact Or.inr (Or.inr rfl)
    · exact Or.inl rfl
    · exact Or.inl rfl
  unfold run
  dsimp only
  cases hq : (session.runSteps text pyRepr choices s).quit with
  | true =>
    obtain ⟨out, text', heq⟩ := htidy.quit hq
    rw [if_pos rfl, List.append_nil]
    refine ⟨hheader.append htidy.plain, session.headerOut ++ out, text', ?_⟩
    rw [heq, List.append_assoc]
  | false =>
    rw [if_neg Bool.false_ne_true]
    refine ⟨(hheader.append htidy.plain).append (hsummary _), ?_⟩
    let r := session.runSteps text pyRepr choices s
    have hlast : summaryOut r.results = (summaryOut r.results).take 3 ++ [{ text := rule '=' ++ "\n" }] := rfl
    refine ⟨session.headerOut ++ r.out ++ (summaryOut r.results).take 3, rule '=' ++ "\n", ?_⟩
    rw [List.append_assoc _ ((summaryOut r.results).take 3), ← hlast]

end DebugSession

end RiscvDbg
