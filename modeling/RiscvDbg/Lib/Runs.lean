import Mathlib.Data.List.Basic

/-!
# Runs of a deterministic step function

A system is a step function `step : σ → ι → σ`; a run feeds it a list of inputs.

* `run` — the state after a list of inputs; `states` — all the states on the way.
* `Always` — every step of a run meets a condition on the state it is taken from.
* `run_invariant` — a property kept by every step that meets the condition holds after every
  run whose steps all meet it.
* `run_simulation` — the two-system version: a relation kept by every step relates the states
  that two systems reach on corresponding inputs; `run_related` — on the same inputs.
* `always_iff` — a condition on steps may be replaced by another one that agrees with it on the
  states satisfying an invariant.
* `always_iff_of_related` — the same for conditions on two systems.
* `Throughout` — a property of every state of a run; `throughout_iff_always` says which steps keep it.
* `outputs` — what a step function with outputs puts out along a run; `forall_outputs` is its
  invariant rule.
* `run_refines` — a system whose every step is a run of another one on what the step puts out.
* `IndistinguishableAfter` — two runs on the same inputs look the same all the time;
  `indistinguishable_iff` reduces it to one run.
* `sinceLast` — the system with a monitor that remembers whether a state has been bad at or after
  the last marked step.
* `run_rounds` — a system whose steps lower a rank or do nothing comes to its end, if the inputs come in
  rounds each of which holds an input that does something.
-/

set_option autoImplicit false

namespace Runs

variable {σ τ ι κ : Type*}

/-- The state reached from `s` by the inputs `is`. -/
def run (step : σ → ι → σ) (s : σ) (is : List ι) : σ := is.foldl step s

@[simp] theorem run_nil (step : σ → ι → σ) (s : σ) : run step s [] = s := rfl

@[simp] theorem run_cons (step : σ → ι → σ) (s : σ) (i : ι) (is : List ι) :
    run step s (i :: is) = run step (step s i) is := rfl

theorem run_append (step : σ → ι → σ) (s : σ) (is js : List ι) :
    run step s (is ++ js) = run step (run step s is) js := List.foldl_append

@[simp] theorem run_concat (step : σ → ι → σ) (s : σ) (is : List ι) (i : ι) :
    run step s (is ++ [i]) = step (run step s is) i := by
  rw [run_append]; rfl

/-- The states a run goes through, one after each input. -/
def states (step : σ → ι → σ) : σ → List ι → List σ
  | _, [] => []
  | s, i :: is => step s i :: states step (step s i) is

theorem states_concat (step : σ → ι → σ) (i : ι) :
    ∀ (is : List ι) (s : σ), states step s (is ++ [i]) = states step s is ++ [step (run step s is) i] := by
  intro is
  induction is with
  | nil => intro s; rfl
  | cons j is ih => intro s; rw [List.cons_append, states, ih, states, List.cons_append, run_cons]

/-- What a map shows of a run is a run of the system it maps to. -/
theorem run_map {step : σ → ι → σ} {step' : τ → ι → τ} {f : σ → τ}
    (hf : ∀ s i, f (step s i) = step' (f s) i) :
    ∀ (is : List ι) (s : σ), f (run step s is) = run step' (f s) is := by
  intro is
  induction is with
  | nil => intro s; rfl
  | cons i is ih => intro s; rw [run_cons, ih, hf, run_cons]

theorem states_map {step : σ → ι → σ} {step' : τ → ι → τ} {f : σ → τ}
    (hf : ∀ s i, f (step s i) = step' (f s) i) :
    ∀ (is : List ι) (s : σ), (states step s is).map f = states step' (f s) is := by
  intro is
  induction is with
  | nil => intro s; rfl
  | cons i is ih => intro s; rw [states, List.map_cons, ih, hf, states]

/-- Every step of the run meets `ok` in the state it is taken from. -/
def Always (step : σ → ι → σ) (ok : σ → ι → Prop) : σ → List ι → Prop
  | _, [] => True
  | s, i :: is => ok s i ∧ Always step ok (step s i) is

instance Always.decidable (step : σ → ι → σ) (ok : σ → ι → Prop) [∀ s i, Decidable (ok s i)] :
    ∀ s is, Decidable (Always step ok s is)
  | _, [] => .isTrue trivial
  | s, i :: is =>
    have := Always.decidable step ok (step s i) is
    inferInstanceAs (Decidable (ok s i ∧ Always step ok (step s i) is))

variable {step : σ → ι → σ} {ok ok' : σ → ι → Prop}

@[simp] theorem always_nil (s : σ) : Always step ok s [] := trivial

@[simp] theorem always_cons (s : σ) (i : ι) (is : List ι) :
    Always step ok s (i :: is) ↔ ok s i ∧ Always step ok (step s i) is := Iff.rfl

theorem always_append (is js : List ι) :
    ∀ s : σ, Always step ok s (is ++ js) ↔ Always step ok s is ∧ Always step ok (run step s is) js := by
  induction is with
  | nil => intro s; simp
  | cons i is ih => intro s; rw [List.cons_append, always_cons, always_cons, ih, and_assoc, run_cons]

theorem Always.of_forall {p : ι → Prop} (h : ∀ s i, p i → ok s i) :
    ∀ (is : List ι) (s : σ), (∀ i ∈ is, p i) → Always step ok s is := by
  intro is
  induction is with
  | nil => intro s _; exact trivial
  | cons i is ih =>
    intro s hp
    refine ⟨h s i (hp i List.mem_cons_self), ih _ ?_⟩
    intro j hj
    exact hp j (List.mem_cons_of_mem _ hj)

theorem Always.and_forall {p : ι → Prop} :
    ∀ (is : List ι) (s : σ), Always step ok s is → (∀ i ∈ is, p i) →
      Always step (fun s i => ok s i ∧ p i) s is := by
  intro is
  induction is with
  | nil => intro s _ _; exact trivial
  | cons i is ih =>
    rintro s ⟨hi, his⟩ hp
    refine ⟨⟨hi, hp i List.mem_cons_self⟩, ih _ his ?_⟩
    intro j hj
    exact hp j (List.mem_cons_of_mem _ hj)

theorem Always.and :
    ∀ {is : List ι} {s : σ}, Always step ok s is → Always step ok' s is →
      Always step (fun s i => ok s i ∧ ok' s i) s is
  | [], _, _, _ => trivial
  | _ :: _, _, ⟨hi, his⟩, ⟨hi', his'⟩ => ⟨⟨hi, hi'⟩, his.and his'⟩

theorem always_true (is : List ι) : ∀ s : σ, Always step (fun _ _ => True) s is := by
  induction is with
  | nil => intro s; exact trivial
  | cons i is ih => intro s; exact ⟨trivial, ih (step s i)⟩

/-- **Invariant rule.**  A property kept by every step that meets `ok` holds after every run
whose steps all meet `ok`. -/
theorem run_invariant {P : σ → Prop} (hstep : ∀ s i, P s → ok s i → P (step s i)) :
    ∀ (is : List ι) (s : σ), P s → Always step ok s is → P (run step s is) := by
  intro is
  induction is with
  | nil => intro s hs _; exact hs
  | cons i is ih =>
    rintro s hs ⟨hi, his⟩
    exact ih _ (hstep s i hs hi) his

/-- **Simulation rule.**  Two systems driven by corresponding inputs stay related. -/
theorem run_simulation {step' : τ → κ → τ} {f : ι → κ} {R : σ → τ → Prop}
    (hstep : ∀ s t i, R s t → ok s i → R (step s i) (step' t (f i))) :
    ∀ (is : List ι) (s : σ) (t : τ), R s t → Always step ok s is →
      R (run step s is) (run step' t (is.map f)) := by
  intro is
  induction is with
  | nil => intro s t h _; exact h
  | cons i is ih =>
    rintro s t h ⟨hi, his⟩
    exact ih _ _ (hstep s t i h hi) his

/-- The simulation rule for two systems that take the same inputs. -/
theorem run_related {step' : τ → ι → τ} {R : σ → τ → Prop}
    (hstep : ∀ s t i, R s t → ok s i → R (step s i) (step' t i)) :
    ∀ (is : List ι) (s : σ) (t : τ), R s t → Always step ok s is → R (run step s is) (run step' t is) := by
  intro is s t h his
  have hrun := run_simulation (f := id) hstep is s t h his
  rwa [List.map_id] at hrun

/-- Two step conditions that agree on an invariant are the same condition on runs, if the steps that
meet it keep the invariant. -/
theorem always_iff {P : σ → Prop} {legal : σ → ι → Prop}
    (hstep : ∀ s i, P s → legal s i → ok' s i → P (step s i))
    (hiff : ∀ s i, P s → legal s i → (ok s i ↔ ok' s i)) :
    ∀ (is : List ι) (s : σ), P s → Always step legal s is →
      (Always step ok s is ↔ Always step ok' s is) := by
  intro is
  induction is with
  | nil => intro s _ _; exact Iff.rfl
  | cons i is ih =>
    rintro s hs ⟨hi, his⟩
    rw [always_cons, always_cons, hiff s i hs hi]
    refine and_congr_right ?_
    intro hok
    exact ih _ (hstep s i hs hi hok) his

/-- Step conditions on two systems that take the same inputs are the same condition on runs, if they
agree on related states and the steps that meet them keep the states related. -/
theorem always_iff_of_related {step' : τ → ι → τ} {ok' : τ → ι → Prop} {R : σ → τ → Prop}
    (hstep : ∀ s t i, R s t → ok' t i → R (step s i) (step' t i))
    (hiff : ∀ s t i, R s t → (ok s i ↔ ok' t i)) :
    ∀ (is : List ι) (s : σ) (t : τ), R s t → (Always step ok s is ↔ Always step' ok' t is) := by
  intro is
  induction is with
  | nil => intro s t _; exact Iff.rfl
  | cons i is ih =>
    intro s t h
    rw [always_cons, always_cons, hiff s t i h]
    refine and_congr_right ?_
    intro hok
    exact ih _ _ (hstep s t i h hok)

/-! ## Properties of every state of a run -/

/-- Every state of the run, the first one included, satisfies `P`. -/
def Throughout (step : σ → ι → σ) (P : σ → Prop) (s : σ) (is : List ι) : Prop :=
  ∀ js, js <+: is → P (run step s js)

theorem Throughout.first {P : σ → Prop} {s : σ} {is : List ι} (h : Throughout step P s is) : P s :=
  h [] List.nil_prefix

theorem throughout_nil {P : σ → Prop} {s : σ} : Throughout step P s [] ↔ P s := by
  constructor
  · exact Throughout.first
  · intro hs js hjs
    rw [List.prefix_nil.mp hjs]
    exact hs

theorem throughout_cons {P : σ → Prop} {s : σ} {i : ι} {is : List ι} :
    Throughout step P s (i :: is) ↔ P s ∧ Throughout step P (step s i) is := by
  constructor
  · intro h
    refine ⟨h.first, ?_⟩
    intro js hjs
    exact h (i :: js) (List.cons_prefix_cons.mpr ⟨rfl, hjs⟩)
  · rintro ⟨hs, hrest⟩ js hjs
    cases js with
    | nil => exact hs
    | cons j js =>
      obtain ⟨rfl, htail⟩ := List.cons_prefix_cons.mp hjs
      exact hrest js htail

/-- A property holds of every state of a run exactly if it holds at the start and every step meets
`ok`, where `ok` says of a step from a state with the property that it keeps it. -/
theorem throughout_iff_always {P Q : σ → Prop} {legal : ι → Prop}
    (hQ : ∀ s i, Q s → legal i → Q (step s i))
    (hstep : ∀ s i, Q s → P s → legal i → (P (step s i) ↔ ok s i)) :
    ∀ (is : List ι) (s : σ), Q s → (∀ i ∈ is, legal i) →
      (Throughout step P s is ↔ P s ∧ Always step ok s is) := by
  intro is
  induction is with
  | nil => intro s _ _; simp [throughout_nil]
  | cons i is ih =>
    intro s hq hlegal
    have hi := hlegal i List.mem_cons_self
    rw [throughout_cons, ih _ (hQ s i hq hi) (fun j hj => hlegal j (List.mem_cons_of_mem i hj)),
      always_cons]
    refine and_congr_right ?_
    intro hs
    rw [hstep s i hq hs hi]

/-! ## Outputs -/

section
variable {ο : Type*} (react : σ → ι → σ × List ο)

/-- What is put out along the inputs, in order. -/
def outputs : σ → List ι → List ο
  | _, [] => []
  | s, i :: is => (react s i).2 ++ outputs (react s i).1 is

@[simp] theorem outputs_nil (s : σ) : outputs react s [] = [] := rfl

@[simp] theorem outputs_cons (s : σ) (i : ι) (is : List ι) :
    outputs react s (i :: is) = (react s i).2 ++ outputs react (react s i).1 is := rfl

variable {react}

/-- **Refinement rule.**  If every step looks like a run of `astep` on what it puts out, which may be nothing,
so does every run. -/
theorem run_refines {abs : σ → τ} {astep : τ → ο → τ} {P : σ → Prop}
    (hstep : ∀ s i, P s → ok s i →
      P (react s i).1 ∧ abs (react s i).1 = run astep (abs s) (react s i).2) :
    ∀ (is : List ι) (s : σ), P s → Always (fun s i => (react s i).1) ok s is →
      abs (run (fun s i => (react s i).1) s is) = run astep (abs s) (outputs react s is) := by
  intro is
  induction is with
  | nil => intro s _ _; rfl
  | cons i is ih =>
    rintro s hs ⟨hi, his⟩
    obtain ⟨hnext, habs⟩ := hstep s i hs hi
    rw [run_cons, ih _ hnext his, habs, outputs_cons, run_append]

/-- **Invariant rule for outputs.** -/
theorem forall_outputs {P : σ → Prop} {Q : ο → Prop}
    (hstep : ∀ s i, P s → ok s i → P (react s i).1 ∧ ∀ o ∈ (react s i).2, Q o) :
    ∀ (is : List ι) (s : σ), P s → Always (fun s i => (react s i).1) ok s is →
      ∀ o ∈ outputs react s is, Q o := by
  intro is
  induction is with
  | nil => intro s _ _ o ho; cases ho
  | cons i is ih =>
    rintro s hs ⟨hi, his⟩ o ho
    obtain ⟨hnext, hout⟩ := hstep s i hs hi
    rcases List.mem_append.mp ho with h | h
    · exact hout o h
    · exact ih _ hnext his o h

end

/-! ## Two runs that look the same -/

section
variable (step : σ → ι → σ) (same : σ → σ → Prop) (shown : σ → Prop)

/-- Along the inputs `is` the runs from `s` and `t` look the same, and both satisfy `shown`. -/
def IndistinguishableAfter (s t : σ) (is : List ι) : Prop :=
  ∀ js, js <+: is → same (run step s js) (run step t js) ∧ shown (run step s js) ∧ shown (run step t js)

variable {step same shown}

/-- **Two-run rule.**  Where nothing is `visible`, two `silent`ly related states stay so and look the
same.  Where something is, equal states are needed; these look the same for ever, and it remains to
see that each step keeps `shown`, which is what `ok` says. -/
theorem indistinguishable_iff (visible : σ → Bool) (silent : σ → σ → Prop) (legal : ι → Prop)
    (ok : σ → ι → Prop)
    (hvis : ∀ s i, legal i → visible (step s i) = visible s)
    (hstep : ∀ s i, visible s = true → shown s → legal i → (shown (step s i) ↔ ok s i))
    (hsilent : ∀ s t i, silent s t → legal i → silent (step s i) (step t i))
    (hfree : ∀ s t, silent s t → same s t ∧ shown s ∧ shown t) (hrefl : ∀ s, same s s) {s t : σ}
    (hst : visible s = false → silent s t) (heq : visible s = true → shown s → shown t → s = t)
    {is : List ι} (his : ∀ i ∈ is, legal i) :
    IndistinguishableAfter step same shown s t is ↔
      (visible s = true → (shown s ∧ shown t) ∧ Always step ok s is) := by
  cases hv : visible s with
  | false =>
    refine iff_of_true ?_ (absurd · Bool.false_ne_true)
    intro js hjs
    have hlegal : Always step (fun _ i => legal i) s js :=
      Always.of_forall (fun _ _ h => h) js s fun i hi => his i (hjs.subset hi)
    exact hfree _ _ (run_related hsilent js s t (hst hv) hlegal)
  | true =>
    have hiff : Throughout step shown s is ↔ shown s ∧ Always step ok s is :=
      throughout_iff_always (Q := fun u => visible u = true)
        (fun u i hu hi => (hvis u i hi).trans hu) hstep is s hv his
    constructor
    · intro hall _
      obtain ⟨hs, halways⟩ := hiff.mp fun js hjs => (hall js hjs).2.1
      exact ⟨⟨hs, (hall [] List.nil_prefix).2.2⟩, halways⟩
    · intro hcond
      obtain ⟨⟨hs, ht⟩, halways⟩ := hcond rfl
      cases heq hv hs ht
      have hthrough := hiff.mpr ⟨hs, halways⟩
      intro js hjs
      exact ⟨hrefl _, hthrough js hjs, hthrough js hjs⟩

end

/-! ## Monitored runs -/

section
variable (step : σ → ι → σ) (mark : σ → ι → Bool) (bad : σ → Bool)

/-- The step function with a monitor: `none` until a step is marked; from the last marked step on,
whether the state has been bad at that step or after it. -/
def sinceLast (m : σ × Option Bool) (i : ι) : σ × Option Bool :=
  (step m.1 i,
    if mark m.1 i then some (bad m.1 || bad (step m.1 i)) else m.2.map (· || bad (step m.1 i)))

variable {step mark bad}

/-- A condition on the steps of the system is one on the steps of the monitored system. -/
theorem always_sinceLast :
    ∀ (is : List ι) (m : σ × Option Bool), Always step ok m.1 is →
      Always (sinceLast step mark bad) (fun m i => ok m.1 i) m is := by
  intro is
  induction is with
  | nil => intro m _; exact trivial
  | cons i is ih =>
    rintro m ⟨hi, his⟩
    exact ⟨hi, ih _ his⟩

/-- **Monitor rule.**  What is to hold of the states in which the verdict is bad holds if a marked
step makes it hold or finds nothing bad, and if every other step keeps it or enters no bad state. -/
theorem sinceLast_invariant {P Q : σ → Prop} (hQ : ∀ s i, Q s → ok s i → Q (step s i))
    (hmark : ∀ s i, Q s → ok s i → mark s i = true → (bad s || bad (step s i)) = true → P (step s i))
    (hbad : ∀ s i, Q s → ok s i → mark s i = false → bad (step s i) = true → P (step s i))
    (hkeep : ∀ s i, Q s → ok s i → mark s i = false → P s → P (step s i)) (is : List ι) (s : σ)
    (hs : Q s) (his : Always step ok s is) :
    let m := run (sinceLast step mark bad) (s, none) is
    Q m.1 ∧ (m.2 = some true → P m.1) := by
  refine run_invariant (P := fun m : σ × Option Bool => Q m.1 ∧ (m.2 = some true → P m.1)) ?_ is _
    ⟨hs, nofun⟩ (always_sinceLast is (s, none) his)
  rintro ⟨s, v⟩ i ⟨hq, hp⟩ hok
  refine ⟨hQ s i hq hok, fun hv => ?_⟩
  dsimp only [sinceLast] at hv ⊢
  cases hm : mark s i with
  | true =>
    rw [hm, if_pos rfl, Option.some.injEq] at hv
    exact hmark s i hq hok hm hv
  | false =>
    rw [hm, if_neg (by simp), Option.map_eq_some_iff] at hv
    obtain ⟨b, hb, hor⟩ := hv
    cases hbs : bad (step s i) with
    | true => exact hbad s i hq hok hm hbs
    | false =>
      rw [hbs, Bool.or_false] at hor
      exact hkeep s i hq hok hm (hp (by rw [← hor]; exact hb))

end

/-! ## Progress -/

section
variable {P : σ → Prop} {rank : σ → Nat}

/-- If every step lowers the rank or does nothing, so does every run, and one that does nothing has only
inputs that do nothing. -/
theorem run_lowers_or_stays (hinv : ∀ s i, P s → P (step s i))
    (hstep : ∀ s i, P s → rank (step s i) < rank s ∨ step s i = s) :
    ∀ (is : List ι) (s : σ), P s →
      rank (run step s is) < rank s ∨ (run step s is = s ∧ ∀ i ∈ is, step s i = s) := by
  intro is
  induction is with
  | nil => intro s _; exact Or.inr ⟨rfl, fun i hi => absurd hi List.not_mem_nil⟩
  | cons i is ih =>
    intro s hs
    rw [run_cons]
    rcases hstep s i hs with hlt | hstay
    · rcases ih _ (hinv s i hs) with hrest | ⟨hrest, _⟩
      · exact Or.inl (Nat.lt_trans hrest hlt)
      · rw [hrest]
        exact Or.inl hlt
    · rw [hstay]
      refine (ih s hs).imp_right fun ⟨hrest, hall⟩ => ⟨hrest, fun j hj => ?_⟩
      rcases List.mem_cons.mp hj with rfl | hj
      · exact hstay
      · exact hall j hj

/-- **Progress rule.**  Every round lowers the rank, down to 0. -/
theorem run_rounds (hinv : ∀ s i, P s → P (step s i))
    (hstep : ∀ s i, P s → rank (step s i) < rank s ∨ step s i = s) {fair : List ι → Prop}
    (hfair : ∀ s round, P s → rank s ≠ 0 → fair round → ∃ i ∈ round, step s i ≠ s) :
    ∀ (rounds : List (List ι)) (s : σ), P s → (∀ round ∈ rounds, fair round) →
      P (run step s rounds.flatten) ∧ rank (run step s rounds.flatten) ≤ rank s - rounds.length := by
  intro rounds
  induction rounds with
  | nil => intro s hs _; exact ⟨hs, Nat.le_refl _⟩
  | cons round rounds ih =>
    intro s hs hall
    have hP : P (run step s round) :=
      run_invariant (fun s i h _ => hinv s i h) round s hs (always_true round s)
    have hround : rank (run step s round) ≤ rank s - 1 := by
      rcases run_lowers_or_stays hinv hstep round s hs with hlt | ⟨hstay, hnone⟩
      · omega
      · rcases Nat.eq_zero_or_pos (rank s) with hzero | hpos
        · rw [hstay]
          omega
        · obtain ⟨i, hi, hne⟩ := hfair s round hs (Nat.ne_of_gt hpos) (hall round List.mem_cons_self)
          exact absurd (hnone i hi) hne
    obtain ⟨hend, hrank⟩ := ih _ hP fun r hr => hall r (List.mem_cons_of_mem _ hr)
    rw [List.flatten_cons, run_append]
    refine ⟨hend, ?_⟩
    rw [List.length_cons]
    omega

end

end Runs
