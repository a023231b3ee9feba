import RiscvDbg.Bridge.Json
import RiscvDbg.Lib.Lines
import RiscvDbg.Lib.Runs
import RiscvDbg.RefModel.Model

/-!
# The model-input trace

Model of the recorder in `dm_ref_model` (`sv/model/dm_ref_model.sv`, `+DM_MODEL_TRACE`): one line for every
input of the model and for every prediction the checker asks for, after a note with the path of the
declared configuration.

* `Recorded` — a call that writes a line; `DmRefModel.record` — the model after it and the line.
* `traceText` — the file.
* `fields_line` — the words of a line are read back.
-/

set_option autoImplicit false

namespace RiscvDbg

/-- The kind of a read record: before or after the hart signals have been synced. -/
inductive TraceKind where
  | R
  | V
  deriving DecidableEq, Repr

/-- The name of a read record. -/
def TraceKind.name : TraceKind → List Char
  | .R => ['R']
  | .V => ['V']

/-- The calls of `dm_ref_model` that write a line. -/
inductive Recorded where
  | input (i : InputS)
  | read (kind : TraceKind) (addr : BitVec 7) (actual : BitVec 32)

/-- A bit in `%0d`. -/
def bitText (b : Bool) : List Char := if b then ['1'] else ['0']

/-- The words of the line an input writes. -/
def InputS.words : InputS → List (List Char)
  | .setObservedCmdbusy busy => [['B'], bitText busy]
  | .onWrite addr value => [['W'], Hex.pad 2 addr.toNat, Hex.pad 8 value.toNat]
  | .observeRead addr => [['A'], Hex.pad 2 addr.toNat]
  | .observeSbdata0Read => [['O']]
  | .syncObservedHartSignals r => [['S'], Hex.pad 8 r.toNat]

/-- `trace_read`: the words of the line. -/
def DmRefModel.traceRead (m : DmRefModel) (kind : TraceKind) (addr : BitVec 7) (actual : BitVec 32) :
    List (List Char) :=
  [kind.name, Hex.pad 2 addr.toNat, Hex.pad 8 actual.toNat, bitText (m.hasModel addr),
    Hex.pad 8 (DmRefModel.predictMask addr).toNat, Hex.pad 8 (m.predict addr).toNat]

/-- Words in a line. -/
def lineOf (words : List (List Char)) : List Char := [' '].intercalate words

/-- A call: the model after it and the line it writes.  Reads change nothing. -/
def DmRefModel.record (m : DmRefModel) : Recorded → DmRefModel × List (List Char)
  | .input i => (m.step i, [lineOf i.words])
  | .read kind addr actual => (m, [lineOf (m.traceRead kind addr actual)])

/-- `trace_note`. -/
def noteLine (path : List Char) : List Char := ['C', ' '] ++ path

/-- The trace of a model: the note and a line for each call. -/
def traceText (path : List Char) (m : DmRefModel) (calls : List Recorded) : List Char :=
  (noteLine path :: Runs.outputs DmRefModel.record m calls).flatMap (· ++ ['\n'])

/-! ## Reading the lines back -/

/-- What `read_text` makes of the ends of lines. -/
def universalNewlines : List Char → List Char
  | [] => []
  | '\r' :: '\n' :: cs => '\n' :: universalNewlines cs
  | c :: cs => (if c = '\r' then '\n' else c) :: universalNewlines cs

/-- The characters `str.splitlines` breaks a line at. -/
def breaksLine (c : Char) : Bool := isLineBreak c.toNat

/-- The characters `str.split` takes for separators. -/
def isSeparator (c : Char) : Bool :=
  let n := c.toNat
  (0x09 ≤ n && n ≤ 0x0d) || (0x1c ≤ n && n ≤ 0x20) || n == 0x85 || n == 0xa0 || n == 0x1680
    || (0x2000 ≤ n && n ≤ 0x200a) || n == 0x2028 || n == 0x2029 || n == 0x202f || n == 0x205f || n == 0x3000

theorem isSeparator_of_breaksLine {c : Char} (h : breaksLine c = true) : isSeparator c = true := by
  have hmem := List.contains_iff_mem.mp h
  simp only [List.mem_cons, List.not_mem_nil, or_false] at hmem
  simp only [isSeparator, Bool.or_eq_true, Bool.and_eq_true, decide_eq_true_eq, beq_iff_eq]
  omega

/-- The words of the recorder: not empty, without separators. -/
def IsWord (w : List Char) : Prop := w ≠ [] ∧ ∀ c ∈ w, isSeparator c = false

theorem isWord_pad (w n : Nat) : IsWord (Hex.pad w n) := by
  refine ⟨Hex.pad_ne_nil w n, fun c hc => ?_⟩
  have hvalue := Hex.value?_of_mem_pad hc
  unfold Hex.value? at hvalue
  simp only [isSeparator, Bool.or_eq_false_iff, Bool.and_eq_false_iff, decide_eq_false_iff_not, beq_eq_false_iff_ne]
  split_ifs at hvalue
  · omega
  · omega
  · omega
  · cases hvalue

theorem isWord_bitText (b : Bool) : IsWord (bitText b) := by
  cases b <;> exact ⟨by decide, Lines.free_of_any (by decide)⟩

theorem isWord_kind (kind : TraceKind) : IsWord kind.name := by
  cases kind <;> exact ⟨by decide, Lines.free_of_any (by decide)⟩

theorem InputS.isWord (i : InputS) : ∀ w ∈ i.words, IsWord w := by
  have hletter : ∀ c ∈ ['B', 'W', 'A', 'O', 'S'], IsWord [c] := by
    intro c hc
    refine ⟨by simp, ?_⟩
    rw [List.forall_mem_singleton]
    exact Lines.free_of_any (by decide) c hc
  cases i <;> simp [words, hletter, isWord_pad, isWord_bitText]

theorem DmRefModel.isWord_traceRead (m : DmRefModel) (kind : TraceKind) (addr : BitVec 7) (actual : BitVec 32) :
    ∀ w ∈ m.traceRead kind addr actual, IsWord w := by
  simp [traceRead, isWord_kind, isWord_pad, isWord_bitText]

/-- The words of a line are read back. -/
theorem fields_lineOf {words : List (List Char)} (h : ∀ w ∈ words, IsWord w) :
    Lines.fields isSeparator (lineOf words) = words :=
  Lines.fields_intercalate (by decide) words h

/-- A line of words has no line break. -/
theorem breaksLine_of_mem_lineOf {words : List (List Char)} (h : ∀ w ∈ words, IsWord w) :
    ∀ c ∈ lineOf words, breaksLine c = false := by
  refine Lines.forall_mem_intercalate (P := fun c => breaksLine c = false) (by decide) words ?_
  intro w hw c hc
  refine Bool.eq_false_iff.mpr fun hbreak => ?_
  have hspace := (h w hw).2 c hc
  rw [isSeparator_of_breaksLine hbreak] at hspace
  cases hspace

/-- No line of the recorder has a line break. -/
theorem breaksLine_of_mem_recorded (m : DmRefModel) (calls : List Recorded) :
    ∀ l ∈ Runs.outputs DmRefModel.record m calls, ∀ c ∈ l, breaksLine c = false := by
  refine Runs.forall_outputs (P := fun _ => True) ?_ calls m trivial (Runs.always_true calls m)
  intro m call _ _
  refine ⟨trivial, ?_⟩
  cases call with
  | input i =>
    intro l hl
    rw [List.mem_singleton.mp hl]
    exact breaksLine_of_mem_lineOf i.isWord
  | read kind addr actual =>
    intro l hl
    rw [List.mem_singleton.mp hl]
    exact breaksLine_of_mem_lineOf (m.isWord_traceRead kind addr actual)

theorem universalNewlines_eq_self {s : List Char} (h : '\r' ∉ s) : universalNewlines s = s := by
  fun_induction universalNewlines s with
  | case1 => rfl
  | case2 cs ih => simp at h
  | case3 c cs _ ih =>
    rw [List.mem_cons, not_or] at h
    rw [if_neg fun hc => h.1 hc.symm, ih h.2]

/-- **The lines of a trace are read back.** -/
theorem lines_traceText {path : List Char} (hpath : ∀ c ∈ path, breaksLine c = false) (m : DmRefModel)
    (calls : List Recorded) :
    Lines.lines breaksLine (universalNewlines (traceText path m calls))
      = noteLine path :: Runs.outputs DmRefModel.record m calls := by
  have hletter : ∀ c ∈ ['C', ' '], breaksLine c = false := Lines.free_of_any (by decide)
  have hlines : ∀ l ∈ noteLine path :: Runs.outputs DmRefModel.record m calls, ∀ c ∈ l, breaksLine c = false := by
    refine List.forall_mem_cons.mpr ⟨?_, breaksLine_of_mem_recorded m calls⟩
    intro c hc
    rcases List.mem_append.mp hc with hc | hc
    · exact hletter c hc
    · exact hpath c hc
  have hcr : '\r' ∉ traceText path m calls := by
    intro hmem
    obtain ⟨l, hl, hc⟩ := List.mem_flatMap.mp hmem
    rcases List.mem_append.mp hc with hc | hc
    · exact absurd (hlines l hl _ hc) (by decide)
    · exact absurd (List.mem_singleton.mp hc) (by decide)
  rw [universalNewlines_eq_self hcr]
  exact Lines.lines_flatMap (by decide) _ hlines

/-- The words of the note. -/
theorem fields_noteLine (path : List Char) :
    Lines.fields isSeparator (noteLine path) = ['C'] :: Lines.fields isSeparator path :=
  Lines.fields_append_cons (w := ['C']) (by simp) (Lines.free_of_any (by decide)) (by decide) path

end RiscvDbg
