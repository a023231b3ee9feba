import RiscvDbg.Lib.Runs
import RiscvDbg.Registers

/-!
# Native triggers

Model of `NativeTriggerModel` (`model/native_trigger.py`): which trigger with `action = 0` fires on what
the hart does, and what the breakpoint looks like.

* `Trigger` — a `tdata1`/`tdata2` pair, decoded by its type; `Slot` — a trigger with its `pending` flag.
* `NativeTriggerModel` — the re-entrancy scheme and the slots.  The source keeps two dictionaries and walks
  over `sorted(self.triggers)`; here the slots are a list in that order, which the structure carries.
* `one` — what one event does to one trigger; `scan` — the loop of `event`, which ends at the first trigger
  that fires; `event`, `step`, `configure`.
* `scan_fst`, `scan_getElem?` — **the loop reports the first trigger that fires, and moves exactly the
  triggers up to that one.**

An event names one of three privilege modes; the `KeyError` for any other number has no counterpart.
-/

set_option autoImplicit false

namespace RiscvDbg

/-- The mask of a field in its register position. -/
def Field.mask (f : Field) : Nat := Words.ones f.width <<< f.lsb

namespace NativeTrigger

/-! ## Trigger types and their fields -/

def TRIGGER_TYPE_ICOUNT : Nat := 3
def TRIGGER_TYPE_ITRIGGER : Nat := 4
def TRIGGER_TYPE_ETRIGGER : Nat := 5
def TRIGGER_TYPE_MCONTROL6 : Nat := 6

def TRIGGER_ACTION_BREAKPOINT : Nat := 0

def CAUSE_BREAKPOINT : Nat := 3

def TDATA1_TYPE_LSB_RV32 : Nat := 28
def TDATA1_TYPE_LSB_RV64 : Nat := 60

/-- `tdata1_type`. -/
def tdata1Type (word xlen : Nat) : Nat :=
  let lsb := if xlen = 64 then TDATA1_TYPE_LSB_RV64 else TDATA1_TYPE_LSB_RV32
  (word >>> lsb) &&& 0xF

namespace MCONTROL6

def action : Field := ⟨"action", 12, 4, .warl, "Sdtrig 5.7.12 action", some 0⟩
def m : Field := ⟨"m", 6, 1, .warl, "Sdtrig 5.7.12 m", some 0⟩
def s : Field := ⟨"s", 4, 1, .warl, "Sdtrig 5.7.12 s", some 0⟩
def u : Field := ⟨"u", 3, 1, .warl, "Sdtrig 5.7.12 u", some 0⟩
def execute : Field := ⟨"execute", 2, 1, .warl, "Sdtrig 5.7.12 execute", some 0⟩
def store : Field := ⟨"store", 1, 1, .warl, "Sdtrig 5.7.12 store", some 0⟩
def load : Field := ⟨"load", 0, 1, .warl, "Sdtrig 5.7.12 load", some 0⟩

end MCONTROL6

namespace ICOUNT

def count : Field := ⟨"count", 10, 14, .warl, "Sdtrig 5.7.13 count", some 1⟩
def m : Field := ⟨"m", 9, 1, .warl, "Sdtrig 5.7.13 m", some 0⟩
def s : Field := ⟨"s", 7, 1, .warl, "Sdtrig 5.7.13 s", some 0⟩
def u : Field := ⟨"u", 6, 1, .warl, "Sdtrig 5.7.13 u", some 0⟩
def action : Field := ⟨"action", 0, 6, .warl, "Sdtrig 5.7.13 action", some 0⟩

end ICOUNT

namespace ITRIGGER

def m : Field := ⟨"m", 9, 1, .warl, "Sdtrig 5.7.14 m", some 0⟩
def s : Field := ⟨"s", 7, 1, .warl, "Sdtrig 5.7.14 s", some 0⟩
def u : Field := ⟨"u", 6, 1, .warl, "Sdtrig 5.7.14 u", some 0⟩
def action : Field := ⟨"action", 0, 6, .warl, "Sdtrig 5.7.14 action", some 0⟩

end ITRIGGER

namespace ETRIGGER

def m : Field := ⟨"m", 9, 1, .warl, "Sdtrig 5.7.15 m", some 0⟩
def s : Field := ⟨"s", 7, 1, .warl, "Sdtrig 5.7.15 s", some 0⟩
def u : Field := ⟨"u", 6, 1, .warl, "Sdtrig 5.7.15 u", some 0⟩
def action : Field := ⟨"action", 0, 6, .warl, "Sdtrig 5.7.15 action", some 0⟩

end ETRIGGER

/-- The privilege modes: `PRV_U`, `PRV_S`, `PRV_M`. -/
inductive Prv where
  | u
  | s
  | m
  deriving DecidableEq, Repr

/-- How the hart keeps an `action = 0` trigger out of its own trap handler. -/
inductive Reentrancy where
  | mieGate
  | tcontrol
  | none
  deriving DecidableEq, Repr

/-- The kinds of event a native trigger can fire on. -/
inductive Event where
  | execute
  | load
  | store
  | retire
  | exception
  | interrupt
  deriving DecidableEq, Repr

/-- The trigger types with a layout. -/
inductive TriggerType where
  | mcontrol6
  | icount
  | itrigger
  | etrigger
  deriving DecidableEq, Repr

namespace TriggerType

/-- The type with the given code. -/
def ofCode (code : Nat) : Option TriggerType :=
  if code = TRIGGER_TYPE_MCONTROL6 then some .mcontrol6
  else if code = TRIGGER_TYPE_ICOUNT then some .icount
  else if code = TRIGGER_TYPE_ITRIGGER then some .itrigger
  else if code = TRIGGER_TYPE_ETRIGGER then some .etrigger
  else none

/-- The `action` field of the layout. -/
def action : TriggerType → Field
  | .mcontrol6 => MCONTROL6.action
  | .icount => ICOUNT.action
  | .itrigger => ITRIGGER.action
  | .etrigger => ETRIGGER.action

/-- The field of the layout that enables the trigger in a mode. -/
def mode : TriggerType → Prv → Field
  | .mcontrol6, .m => MCONTROL6.m
  | .mcontrol6, .s => MCONTROL6.s
  | .mcontrol6, .u => MCONTROL6.u
  | .icount, .m => ICOUNT.m
  | .icount, .s => ICOUNT.s
  | .icount, .u => ICOUNT.u
  | .itrigger, .m => ITRIGGER.m
  | .itrigger, .s => ITRIGGER.s
  | .itrigger, .u => ITRIGGER.u
  | .etrigger, .m => ETRIGGER.m
  | .etrigger, .s => ETRIGGER.s
  | .etrigger, .u => ETRIGGER.u

end TriggerType

/-! ## One trigger -/

/-- One trigger: its `tdata1` word and `tdata2`, decoded on demand. -/
structure Trigger where
  tdata1 : Nat
  tdata2 : Nat := 0
  xlen : Nat := 64
  deriving DecidableEq, Repr

namespace Trigger

variable (t : Trigger)

def type : Nat := tdata1Type t.tdata1 t.xlen

/-- The layout of the trigger, if its type has one. -/
def kind : Option TriggerType := TriggerType.ofCode t.type

/-- `f.get("action", TRIGGER_ACTION_BREAKPOINT)`. -/
def action : Nat :=
  match t.kind with
  | some k => k.action.extract t.tdata1
  | none => TRIGGER_ACTION_BREAKPOINT

/-- `enabled_in`. -/
def enabledIn (prv : Prv) : Bool :=
  match t.kind with
  | some k => (k.mode prv).test t.tdata1
  | none => false

/-- The `count` field of an icount trigger. -/
def count : Nat := ICOUNT.count.extract t.tdata1

/-- The trigger with another `count`. -/
def setCount (n : Nat) : Trigger :=
  { t with tdata1 := ICOUNT.count.insert (Words.clear t.tdata1 ICOUNT.count.mask) n }

end Trigger

/-- What a firing trigger does to the hart, as a trap handler would see it. -/
structure Fire where
  trigger : Nat
  cause : Nat := CAUSE_BREAKPOINT
  epc : Nat := 0
  tval : Nat := 0
  why : String := ""
  deriving DecidableEq, Repr

/-- The arguments of `event`. -/
structure Occurrence where
  kind : Event
  prv : Prv
  pc : Nat := 0
  address : Nat := 0
  cause : Nat := 0
  handler : Nat := 0
  nextPc : Nat := 0
  mie : Bool := true
  mte : Bool := true
  deriving DecidableEq, Repr

/-- A configured trigger: its index, the trigger, and its `pending` flag. -/
structure Slot where
  index : Nat
  trigger : Trigger
  pending : Bool := false
  deriving DecidableEq, Repr

namespace Slot

variable (sl : Slot) (e : Occurrence)

/-- The field of an mcontrol6 trigger that an event needs. -/
def wanted : Event → Option Field
  | .execute => some MCONTROL6.execute
  | .load => some MCONTROL6.load
  | .store => some MCONTROL6.store
  | _ => none

/-- The value an mcontrol6 trigger compares with `tdata2`. -/
def matched : Nat := if e.kind = .execute then e.pc else e.address

/-- `_one` for an mcontrol6 trigger. -/
def oneMcontrol6 : Option Fire :=
  match wanted e.kind with
  | none => none
  | some want =>
    if !want.test sl.trigger.tdata1 || !sl.trigger.enabledIn e.prv then none
    else if matched e ≠ sl.trigger.tdata2 then none
    else
      some
        { trigger := sl.index
          epc := e.pc
          tval := matched e
          why := "mcontrol6 " ++ want.name ++ " match on 0x" ++ String.ofList (Nat.toDigits 16 (matched e)) }

/-- The decrement of an icount trigger, which sets `pending` as it reaches 0. -/
def countDown : Slot :=
  if sl.trigger.count > 0 then
    { sl with
      trigger := sl.trigger.setCount (sl.trigger.count - 1)
      pending := if sl.trigger.count - 1 = 0 then true else sl.pending }
  else sl

/-- `_one` for an icount trigger. -/
def oneIcount : Option Fire × Slot :=
  if e.kind ≠ .retire then (none, sl)
  else if !sl.trigger.enabledIn e.prv then (none, sl)
  else
    let sl := sl.countDown
    if !sl.pending then (none, sl)
    else
      (some { trigger := sl.index, epc := e.nextPc, tval := 0, why := "icount reached 0" },
        { sl with pending := false })

/-- `_one` for an itrigger or etrigger, which wants the event `want`. -/
def oneTrap (want : Event) (name : String) : Option Fire :=
  if e.kind ≠ want || !sl.trigger.enabledIn e.prv then none
  else if !sl.trigger.tdata2.testBit e.cause then none
  else
    some
      { trigger := sl.index
        epc := e.handler
        tval := 0
        why := name ++ " on cause " ++ toString e.cause }

/-- `_one`. -/
def one : Option Fire × Slot :=
  if sl.trigger.action ≠ TRIGGER_ACTION_BREAKPOINT then (none, sl)
  else
    match sl.trigger.kind with
    | some .mcontrol6 => (sl.oneMcontrol6 e, sl)
    | some .icount => sl.oneIcount e
    | some .itrigger => (sl.oneTrap e .interrupt "itrigger", sl)
    | some .etrigger => (sl.oneTrap e .exception "etrigger", sl)
    | none => (none, sl)

theorem countDown_index : sl.countDown.index = sl.index := by
  unfold countDown; split <;> rfl

theorem one_index : (sl.one e).2.index = sl.index := by
  unfold one oneIcount
  dsimp only
  repeat' split
  all_goals first | rfl | exact sl.countDown_index

/-- The report names the trigger. -/
theorem one_trigger {fire : Fire} (h : (sl.one e).1 = some fire) : fire.trigger = sl.index := by
  have hnone : ∀ {p : Prop}, (none : Option Fire) = some fire → p := nofun
  unfold one at h
  split at h
  · exact hnone h
  · split at h
    · unfold oneMcontrol6 at h
      split at h
      · exact hnone h
      · split at h
        · exact hnone h
        · split at h
          · exact hnone h
          · cases h; rfl
    · unfold oneIcount at h
      dsimp only at h
      split at h
      · exact hnone h
      · split at h
        · exact hnone h
        · split at h
          · exact hnone h
          · cases h; exact sl.countDown_index
    · unfold oneTrap at h
      split at h
      · exact hnone h
      · split at h
        · exact hnone h
        · cases h; rfl
    · unfold oneTrap at h
      split at h
      · exact hnone h
      · split at h
        · exact hnone h
        · cases h; rfl
    · exact hnone h

/-- The trigger fires on the event. -/
def fires : Bool := (sl.one e).1.isSome

end Slot

/-! ## The loop -/

/-- The loop of `event`. -/
def scan (e : Occurrence) : List Slot → Option Fire × List Slot
  | [] => (none, [])
  | sl :: rest =>
    match sl.one e with
    | (some fire, sl') => (some fire, sl' :: rest)
    | (none, sl') => ((scan e rest).1, sl' :: (scan e rest).2)

section
variable (e : Occurrence)

theorem scan_cons_of_fires {sl : Slot} (h : sl.fires e = true) (rest : List Slot) :
    scan e (sl :: rest) = ((sl.one e).1, (sl.one e).2 :: rest) := by
  obtain ⟨fire, hfire⟩ := Option.isSome_iff_exists.mp h
  rw [scan]
  split
  · rename_i heq; rw [heq]
  · rename_i heq; rw [heq] at hfire; cases hfire

theorem scan_cons_of_not_fires {sl : Slot} (h : sl.fires e = false) (rest : List Slot) :
    scan e (sl :: rest) = ((scan e rest).1, (sl.one e).2 :: (scan e rest).2) := by
  have hnone : (sl.one e).1 = none := Option.not_isSome_iff_eq_none.mp (by rw [← Slot.fires, h]; decide)
  rw [scan]
  split
  · rename_i heq; rw [heq] at hnone; cases hnone
  · rename_i heq; rw [heq]

/-- The report of the loop is that of the first trigger that fires. -/
theorem scan_fst (slots : List Slot) : (scan e slots).1 = slots.findSome? fun sl => (sl.one e).1 := by
  induction slots with
  | nil => rfl
  | cons sl rest ih =>
    cases h : sl.fires e with
    | true =>
      obtain ⟨fire, hfire⟩ := Option.isSome_iff_exists.mp h
      rw [scan_cons_of_fires e h, List.findSome?_cons, hfire]
    | false =>
      have hnone : (sl.one e).1 = none :=
        Option.not_isSome_iff_eq_none.mp (by rw [← Slot.fires, h]; decide)
      rw [scan_cons_of_not_fires e h, List.findSome?_cons, hnone, ih]

/-- The loop moves the triggers up to the first one that fires and leaves the others as they are. -/
theorem scan_getElem? (slots : List Slot) (k : Nat) :
    (scan e slots).2[k]? = (slots[k]?).map fun sl =>
      if (slots.take k).any (·.fires e) then sl else (sl.one e).2 := by
  induction slots generalizing k with
  | nil => rfl
  | cons sl rest ih =>
    cases h : sl.fires e with
    | true =>
      rw [scan_cons_of_fires e h]
      cases k with
      | zero => simp
      | succ k => simp [h]
    | false =>
      rw [scan_cons_of_not_fires e h]
      cases k with
      | zero => simp
      | succ k => simp [h, ih]

theorem scan_length (slots : List Slot) : (scan e slots).2.length = slots.length := by
  induction slots with
  | nil => rfl
  | cons sl rest ih =>
    cases h : sl.fires e with
    | true => rw [scan_cons_of_fires e h]; rfl
    | false => rw [scan_cons_of_not_fires e h, List.length_cons, ih, List.length_cons]

/-- The loop keeps every trigger at its index. -/
theorem scan_indices (slots : List Slot) : (scan e slots).2.map (·.index) = slots.map (·.index) := by
  induction slots with
  | nil => rfl
  | cons sl rest ih =>
    cases h : sl.fires e with
    | true => rw [scan_cons_of_fires e h, List.map_cons, sl.one_index, List.map_cons]
    | false => rw [scan_cons_of_not_fires e h, List.map_cons, ih, sl.one_index, List.map_cons]

end

/-! ## The model -/

/-- The trigger module of one hart: the configured triggers in the order of their indices. -/
structure NativeTriggerModel where
  reentrancy : Reentrancy
  slots : List Slot
  sorted : (slots.map (·.index)).Pairwise (· < ·)

namespace NativeTriggerModel

variable (m : NativeTriggerModel) (e : Occurrence)

/-- No trigger configured. -/
def empty (reentrancy : Reentrancy) : NativeTriggerModel := ⟨reentrancy, [], List.Pairwise.nil⟩

/-- Put a slot where its index belongs, in place of one with the same index. -/
def insertSlot (sl : Slot) : List Slot → List Slot
  | [] => [sl]
  | s :: rest =>
    if sl.index < s.index then sl :: s :: rest
    else if sl.index = s.index then sl :: rest
    else s :: insertSlot sl rest

theorem mem_insertSlot {sl s : Slot} {slots : List Slot} (h : s ∈ insertSlot sl slots) : s = sl ∨ s ∈ slots := by
  induction slots with
  | nil => exact .inl (List.mem_singleton.mp h)
  | cons s₀ rest ih =>
    rw [insertSlot] at h
    split at h
    · exact List.mem_cons.mp h
    · split at h
      · rcases List.mem_cons.mp h with rfl | h
        · exact .inl rfl
        · exact .inr (List.mem_cons_of_mem _ h)
      · rcases List.mem_cons.mp h with rfl | h
        · exact .inr List.mem_cons_self
        · rcases ih h with rfl | h
          · exact .inl rfl
          · exact .inr (List.mem_cons_of_mem _ h)

theorem insertSlot_sorted (sl : Slot) {slots : List Slot} (h : (slots.map (·.index)).Pairwise (· < ·)) :
    ((insertSlot sl slots).map (·.index)).Pairwise (· < ·) := by
  rw [List.pairwise_map] at h ⊢
  induction slots with
  | nil => exact List.pairwise_singleton _ _
  | cons s rest ih =>
    obtain ⟨hs, hrest⟩ := List.pairwise_cons.mp h
    rw [insertSlot]
    split
    · rename_i hlt
      refine List.pairwise_cons.mpr ⟨?_, h⟩
      intro s' hs'
      rcases List.mem_cons.mp hs' with rfl | hs'
      · exact hlt
      · exact Nat.lt_trans hlt (hs s' hs')
    · split
      · rename_i heq
        refine List.pairwise_cons.mpr ⟨?_, hrest⟩
        intro s' hs'
        rw [heq]
        exact hs s' hs'
      · rename_i hnlt hne
        refine List.pairwise_cons.mpr ⟨?_, ih hrest⟩
        intro s' hs'
        rcases mem_insertSlot hs' with rfl | hs'
        · omega
        · exact hs s' hs'

/-- `configure`. -/
def configure (index : Nat) (trigger : Trigger) : NativeTriggerModel where
  reentrancy := m.reentrancy
  slots := insertSlot { index := index, trigger := trigger, pending := false } m.slots
  sorted := insertSlot_sorted _ m.sorted

/-- The model after a list of `configure` calls. -/
def configured (reentrancy : Reentrancy) (triggers : List (Nat × Trigger)) : NativeTriggerModel :=
  triggers.foldl (fun m c => m.configure c.1 c.2) (empty reentrancy)

/-- `_suppressed`. -/
def suppressed : Bool :=
  match m.reentrancy with
  | .mieGate => e.prv = .m && !e.mie
  | .tcontrol => !e.mte
  | .none => false

/-- What `event` returns: the first trigger that fires, or nothing. -/
def event : Option Fire := if m.suppressed e then none else (scan e m.slots).1

/-- The model after `event`. -/
def step : NativeTriggerModel where
  reentrancy := m.reentrancy
  slots := if m.suppressed e then m.slots else (scan e m.slots).2
  sorted := by
    split
    · exact m.sorted
    · rw [scan_indices]; exact m.sorted

/-- What `event` returns along a list of events. -/
def fires : NativeTriggerModel → List Occurrence → List (Option Fire)
  | _, [] => []
  | m, e :: es => m.event e :: fires (m.step e) es

theorem configured_pending (reentrancy : Reentrancy) (triggers : List (Nat × Trigger)) :
    ∀ sl ∈ (configured reentrancy triggers).slots, sl.pending = false := by
  unfold configured
  induction triggers using List.reverseRecOn with
  | nil => intro sl h; cases h
  | append_singleton triggers c ih =>
    intro sl h
    rw [List.foldl_append] at h
    rcases mem_insertSlot h with rfl | h
    · rfl
    · exact ih sl h

end NativeTriggerModel

end NativeTrigger

end RiscvDbg
