import RiscvDbg.Jtag.Assertions

/-!
# The sticky status of the DTM, as the assertions see it

What `a_sticky_status_persists` (`sv/assertions/dmi_assertions.sv`) amounts to on whole runs: the module holds one
status and compares one scan with it, and that is the rule of the specification for all pairs of scans.

* `PinEntry.repeats` — a DMI scan reports the given status.
* `sticky_status_persists` — the assertion stays silent on a sequence of pins exactly if every failing status in it
  is repeated by every later DMI scan, up to the next `dmireset`, `dtmhardreset` or reset of the TAP.
* `scan_registers_read` — where the module finds the status and the two reset bits in a scan, by its length.
-/

set_option autoImplicit false

namespace RiscvDbg

open TapState

/-- The entry is no DMI scan, or it reports the status `v`. -/
def PinEntry.repeats (e : PinEntry) (v : BitVec 2) : Bool :=
  match e with
  | .scan s => !s.isDmi || s.registers.dmiStatusOut.caseEq v
  | .trst => true

/-- The rule of the specification for a history of scans and resets. -/
def StickyKept (es : List PinEntry) : Prop := Latches.Kept PinEntry.failure PinEntry.clears PinEntry.repeats es

/-- A scan that reports `v` can fail with no other status. -/
theorem PinEntry.failure_of_repeats (e : PinEntry) (v w : BitVec 2) (hv : e.repeats v = true)
    (hw : e.failure = some w) : w = v := by
  cases e with
  | trst => cases hw
  | scan s =>
    simp only [failure, DrScan.failure, Bool.and_eq_true] at hw
    split_ifs at hw with hfail
    simp only [repeats, hfail.1, Bool.not_true, Bool.false_or, FourState.caseEq, Bool.and_eq_true, beq_iff_eq] at hv
    rw [← Option.some.inj hw, hv.2]

namespace PinLog

variable (l : PinLog)

/-- What an event adds to the entries. -/
def added (e : PinEvent) : List PinEntry :=
  match e with
  | .trstFalls => [.trst]
  | .posedge c _ => if !c.trstN then [.trst] else if l.state = updateDr then [.scan ⟨l.ir, l.drBits⟩] else []

theorem entries_step (e : PinEvent) : (l.step e).entries = l.entries ++ l.added e := by
  cases e with
  | trstFalls => rfl
  | posedge c tdo =>
    cases hc : c.trstN with
    | false => simp [step, added, hc, reset]
    | true => cases hs : l.state <;> simp [step, added, act, hc, hs]

/-- The assertion stays silent at an event exactly if the entry it adds repeats the sticky status. -/
theorem stickyPersists_iff (e : PinEvent) :
    l.checker.fails e .stickyPersists = false ↔
      ∀ x ∈ l.added e, ∀ v, l.sticky = some v → x.repeats v = true := by
  cases e with
  | trstFalls => simp [DmiAssertions.fails, added, PinEntry.repeats]
  | posedge c tdo =>
    cases hc : c.trstN with
    | false => simp [DmiAssertions.fails, added, hc, PinEntry.repeats]
    | true =>
      by_cases hs : l.state = updateDr
      · let s : DrScan := ⟨l.ir, l.drBits⟩
        have hupdate : l.checker.dmiUpdate = s.isDmi := by
          change (l.state == updateDr && _ && _) = _
          rw [hs]
          rfl
        have hadded : l.added (.posedge c tdo) = [.scan s] := by simp [added, hc, hs, s]
        rw [hadded, List.forall_mem_singleton]
        change (c.trstN && (l.checker.dmiUpdate && l.sticky.isSome &&
          !s.registers.dmiStatusOut.caseEq (l.sticky.getD 0))) = false ↔ _
        rw [hc, hupdate]
        cases l.sticky with
        | none => simp
        | some v =>
          simp only [Option.some.injEq, forall_eq', PinEntry.repeats, Option.isSome_some, Option.getD_some]
          cases s.isDmi <;> simp
      · have hupdate : l.checker.dmiUpdate = false := by
          change (l.state == updateDr && _ && _) = _
          rw [beq_eq_false_iff_ne.mpr hs]
          rfl
        simp [DmiAssertions.fails, added, hc, hs, hupdate]

end PinLog

/-- **Sticky status.**  One register and one comparison per scan check the rule for every pair of scans. -/
theorem sticky_status_persists (events : List PinEvent) :
    Runs.Always DmiAssertions.step (fun a e => a.fails e .stickyPersists = false) {} events ↔
      StickyKept (PinLog.after events).entries := by
  induction events using List.reverseRecOn with
  | nil =>
    refine iff_of_true trivial ?_
    intro pre e mid t post v hnil
    have hlength := congrArg List.length hnil
    simp [PinLog.after] at hlength
  | append_singleton events e ih =>
    have hafter : PinLog.after (events ++ [e]) = (PinLog.after events).step e := Runs.run_concat _ _ _ _
    have hregisters : Runs.run DmiAssertions.step {} events = (PinLog.after events).checker := run_eq_checker events
    rw [Runs.always_append, ih, hafter, PinLog.entries_step, Runs.always_cons, hregisters,
      PinLog.stickyPersists_iff, and_iff_left (Runs.always_nil _)]
    -- an event adds at most one entry
    cases hadded : (PinLog.after events).added e with
    | nil => simp
    | cons x rest =>
      have hone : rest = [] := by
        cases e with
        | trstFalls => cases hadded; rfl
        | posedge c tdo =>
          simp only [PinLog.added] at hadded
          split_ifs at hadded <;> cases hadded <;> rfl
      rw [hone, List.forall_mem_singleton]
      exact (Latches.kept_concat PinEntry.failure_of_repeats _ x).symm

/-! ## Where the module looks in a scan -/

namespace DrScan

variable (s : DrScan)

/-- The `i`-th bit driven on TDI. -/
def tdi (i : Nat) : Bool := (s.bits[i]?.map Prod.fst).getD false

theorem registers_drBits (hlen : s.bits.length < 2 ^ 32) : s.registers.drBits.toNat = s.bits.length := by
  change (BitVec.ofNat 32 s.bits.length).toNat = _
  rw [BitVec.toNat_ofNat, Nat.mod_eq_of_lt hlen]

/-- Place `i` of `dr_in` holds the bit that `40 - i` others followed. -/
theorem getLsbD_drIn (i : Nat) (hi : i ≤ 40) (hlen : 41 - s.bits.length ≤ i) :
    s.registers.drIn.getLsbD i = s.tdi (s.bits.length + i - 41) := by
  change (ShiftRegister.fill (s.bits.map Prod.fst) : BitVec 41).getLsbD i = _
  rw [ShiftRegister.getLsbD_fill, decide_eq_true hi, Bool.true_and, List.getElem?_reverse (by rw [List.length_map]; omega),
    List.length_map, List.getElem?_map, tdi]
  congr 3
  omega

theorem getLsbD_dmiOpIn (hlen : s.bits.length = 41) (i : Nat) (hi : i < 2) :
    s.registers.dmiOpIn.getLsbD i = s.tdi i := by
  rw [DmiAssertions.dmiOpIn, BitVec.getLsbD_extractLsb', decide_eq_true hi, Bool.true_and, Nat.zero_add,
    s.getLsbD_drIn i (by omega) (by omega)]
  congr 1
  omega

/-- A scan of up to 41 bits is aligned bit for bit. -/
theorem getLsbD_drInAligned (hpos : 1 ≤ s.bits.length) (hlen : s.bits.length ≤ 41) (i : Nat) (hi : i ≤ 40) :
    s.registers.drInAligned.getLsbD i = s.tdi i := by
  have hcount := s.registers_drBits (by omega)
  have hne : (s.registers.drBits == 0) = false := by
    rw [beq_eq_false_iff_ne, ne_eq, ← BitVec.toNat_inj, hcount]
    change ¬ s.bits.length = 0
    omega
  have hshift : (41#32 - s.registers.drBits).toNat = 41 - s.bits.length := by
    rw [BitVec.toNat_sub_of_le (by rw [BitVec.le_def, hcount]; exact hlen), hcount]
    rfl
  rw [DmiAssertions.drInAligned, hne, if_neg Bool.false_ne_true, BitVec.getLsbD_ushiftRight, hshift]
  rcases Nat.lt_or_ge i s.bits.length with hlt | hge
  · rw [getLsbD_drIn _ _ (by omega) (by omega)]
    congr 1
    omega
  · rw [BitVec.getLsbD_of_ge _ _ (by omega), tdi, List.getElem?_eq_none hge]
    rfl

/-- A longer scan shifts the register by an amount that has wrapped around, and nothing is left. -/
theorem drInAligned_eq_zero (hlong : 41 < s.bits.length) (hlen : s.bits.length < 2 ^ 32) :
    s.registers.drInAligned = 0 := by
  have hcount := s.registers_drBits hlen
  have hbound : 41 ≤ (41#32 - s.registers.drBits).toNat := by
    rw [BitVec.toNat_sub, hcount]
    change 41 ≤ (2 ^ 32 - s.bits.length + 41) % 2 ^ 32
    rw [Nat.mod_eq_of_lt (by omega)]
    omega
  rw [DmiAssertions.drInAligned]
  split_ifs
  · rfl
  · exact BitVec.ushiftRight_eq_zero hbound

end DrScan

/-- **Where the fields are.**  In a scan of 41 bits the operation and the status are its first two bits.  The two
reset bits of `dtmcs` are bits 16 and 17 of a scan of any length up to 41 bits, and a longer one is taken for a
write of zero. -/
theorem scan_registers_read (s : DrScan) :
    (s.bits.length = 41 → ∀ i < 2, s.registers.dmiOpIn.getLsbD i = s.tdi i ∧
      s.registers.dmiStatusOut.bit? i = (s.bits[i]?.map Prod.snd).bind (·.bit? 0)) ∧
    (1 ≤ s.bits.length → s.bits.length ≤ 41 →
      s.clears = (s.ir == JTAG_DTMCS && (s.tdi 16 || s.tdi 17))) ∧
    (41 < s.bits.length → s.bits.length < 2 ^ 32 → s.clears = false) := by
  refine ⟨?_, ?_, ?_⟩
  · intro hlen i hi
    constructor
    · exact s.getLsbD_dmiOpIn hlen i hi
    · have hbit : s.registers.dmiStatusOut.bit? i = s.registers.drOut.bit? i := by
        simp [DmiAssertions.dmiStatusOut, FourState.extract, FourState.bit?, hi]
      have hfill : (FourState.fill (s.bits.map Prod.snd) : FourState 41).bit? i = _ :=
        FourState.bit?_fill (by rw [List.length_map, hlen]) (by omega)
      rw [hbit, ← List.getElem?_map]
      exact hfill
  · intro hpos hlen
    have hcount := s.registers_drBits (by omega)
    have hne : (s.registers.drBits != 0) = true := by
      rw [bne_iff_ne, ne_eq, ← BitVec.toNat_inj, hcount]
      change ¬ s.bits.length = 0
      omega
    change (s.ir == JTAG_DTMCS && s.registers.drBits != 0 && s.registers.dtmcsClears) = _
    rw [hne, Bool.and_true, DmiAssertions.dtmcsClears, DTMCS_DMIRESET_BIT, DTMCS_DTMHARDRESET_BIT,
      s.getLsbD_drInAligned hpos hlen 16 (by decide), s.getLsbD_drInAligned hpos hlen 17 (by decide)]
  · intro hlong hlen
    rw [DrScan.clears, DmiAssertions.dtmcsClears, s.drInAligned_eq_zero hlong hlen]
    simp

end RiscvDbg
