import RiscvDbg.Predictor.Model

/-!
# The invariant checker

Model of `model/invariants.py`: the architectural rules of the run-control slice, each as the list
of violations it reports for one DMI operation, and `checkAll`, which runs them all.

A rule sees the snapshot before the operation, the operation, and the predictor after it.  The
decoded fields of a `dmcontrol` write are read off the written word, `DMCONTROL.haltreq.test word`
for `fields["haltreq"]`.
-/

set_option autoImplicit false

namespace RiscvDbg

/-! ## Violations -/

/-- The stable identifiers of the rules. -/
inductive Rule where
  | haltRunMutex
  | allImpliesAny
  | versionNonzero
  | ndmresetpending
  | dmcontrolReadsZero
  | stimDmcontrolMutex
  | stimDmiDuringNdmreset
  | resumereqIgnoredWhenHaltreq
  | haltedIgnoresHaltreq
  | resumereqResumesHalted
  | runningIgnoresResumereq
  | resumereqClearsAck
  | haveresetSticky
  | ackhaveresetClears
  | haveresetSetOnReset
  | haltOnReset
  | noHaltWithoutRequest
  | resethaltreqPerHart
  | dmResetState
  deriving DecidableEq, Repr

/-- The identifier as reports print it. -/
def Rule.text : Rule → String
  | .haltRunMutex => "INV-HALT-RUN-MUTEX"
  | .allImpliesAny => "INV-ALL-IMPLIES-ANY"
  | .versionNonzero => "INV-VERSION-NONZERO"
  | .ndmresetpending => "INV-NDMRESETPENDING"
  | .dmcontrolReadsZero => "INV-DMCONTROL-READS-ZERO"
  | .stimDmcontrolMutex => "INV-STIM-DMCONTROL-MUTEX"
  | .stimDmiDuringNdmreset => "INV-STIM-DMI-DURING-NDMRESET"
  | .resumereqIgnoredWhenHaltreq => "INV-RESUMEREQ-IGNORED-WHEN-HALTREQ"
  | .haltedIgnoresHaltreq => "INV-HALTED-IGNORES-HALTREQ"
  | .resumereqResumesHalted => "INV-RESUMEREQ-RESUMES-HALTED"
  | .runningIgnoresResumereq => "INV-RUNNING-IGNORES-RESUMEREQ"
  | .resumereqClearsAck => "INV-RESUMEREQ-CLEARS-ACK"
  | .haveresetSticky => "INV-HAVERESET-STICKY"
  | .ackhaveresetClears => "INV-ACKHAVERESET-CLEARS"
  | .haveresetSetOnReset => "INV-HAVERESET-SET-ON-RESET"
  | .haltOnReset => "INV-HALT-ON-RESET"
  | .noHaltWithoutRequest => "INV-NO-HALT-WITHOUT-REQUEST"
  | .resethaltreqPerHart => "INV-RESETHALTREQ-PER-HART"
  | .dmResetState => "INV-DM-RESET-STATE"

/-- What a violation quotes as observed or expected. -/
inductive Evidence where
  | bool (b : Bool)
  | num (n : Nat)
  | text (t : String)
  | names (ns : List String)
  | bits (fs : List (String × Nat))
  | flags (fs : List (String × Bool))
  deriving DecidableEq, Repr

/-- One architectural rule, broken. -/
structure Violation where
  rule : Rule
  message : String
  tcIds : List String
  spec : String
  observed : Evidence
  expected : Evidence
  hart : Option Nat := none
  /-- The stimulus was illegal, not the device wrong. -/
  stimulusLegality : Bool := false
  deriving DecidableEq, Repr

/-- Report `v` if `b`. -/
def reportIf (b : Bool) (v : Violation) : List Violation := if b then [v] else []

/-! ## Helpers over snapshots -/

/-- `_hart`: the hart at `index` of a snapshot, if there is a snapshot and such a hart. -/
def snapshotHart (state : Option Snapshot) (index : Nat) : Option HartSnapshot :=
  state.bind fun st => st.harts[index]?

/-- `_in_reset`. -/
def HartSnapshot.inReset (h : HartSnapshot) : Bool := !h.halted && !h.running

/-- The `{"halted": ..., "running": ...}` a violation quotes. -/
def HartSnapshot.runState (h : HartSnapshot) : Evidence :=
  .flags [("halted", h.halted), ("running", h.running)]

/-- `_is_reset_write`. -/
def isResetWrite (word : Nat) (post : DMPredictor) : Bool :=
  ((DMCONTROL.ndmreset.test word || post.rc.ndmreset) || DMCONTROL.hartreset.test word)
    || post.rc.hartresetLevel

/-- The loop of the transition rules: every selected hart that has a state before and after the
operation and was neither nonexistent nor unavailable. -/
def forSelectedHarts (prev : Option Snapshot) (post : DMPredictor)
    (rule : Nat → HartSnapshot → HartSnapshot → List Violation) : List Violation :=
  post.rc.selectedIndices.flatMap fun i =>
    match snapshotHart prev i, snapshotHart (some post.snapshot) i with
    | some was, some now => if was.nonexistent || was.unavail then [] else rule i was now
    | _, _ => []

/-! ## Rules about one state -/

/-- `_inv_halted_running_mutex`. -/
def invHaltedRunningMutex (post : DMPredictor) : List Violation :=
  post.snapshot.harts.zipIdx.flatMap fun (h, i) =>
    reportIf (h.halted && h.running)
      { rule := .haltRunMutex
        message := "hart reports halted and running simultaneously"
        tcIds := ["TC-RC-001", "TC-RC-002", "TC-RC-003", "TC-RC-004", "TC-RC-005", "TC-RST-001",
          "TC-RST-002", "TC-RST-003", "TC-HOR-002", "TC-HOR-003", "TC-HOR-004"]
        spec := "#3.5 Run Control"
        observed := .flags [("halted", true), ("running", true)]
        expected := .text "at most one of halted/running asserted"
        hart := some i }

/-- The check of one `(all*, any*)` pair. -/
def allImpliesAny (word : Nat) (source : String) (q : Field × Field) : List Violation :=
  reportIf (q.1.test word && !q.2.test word)
    { rule := .allImpliesAny
      message := q.1.name ++ "=1 but " ++ q.2.name ++ "=0 (" ++ source ++ ")"
      tcIds := ["TC-RC-001", "TC-RC-003", "TC-RST-003", "TC-RST-004"]
      spec := "#3.14.1 " ++ q.1.name ++ "/" ++ q.2.name
      observed := .bits [(q.1.name, 1), (q.2.name, 0)]
      expected := .text (q.1.name ++ "=1 implies " ++ q.2.name ++ "=1") }

/-- `_check_dmstatus_word`. -/
def checkDmstatusWord (word : Nat) (post : DMPredictor) (source : String) : List Violation :=
  (if post.rc.selectedIndices.isEmpty then []
    else DMSTATUS_ALL_ANY_PAIRS.flatMap (allImpliesAny word source)) ++
  reportIf ((post.rc.dmactive && !post.rc.ndmreset)
      && DMSTATUS.version.extract word == DMSTATUS_VERSION_NONE)
    { rule := .versionNonzero
      message := "dmstatus.version=0 while dmactive=1 and ndmreset=0 (" ++ source ++ ")"
      tcIds := ["TC-RST-001", "TC-RST-005", "TC-HOR-001"]
      spec := "#3.14.1 version / #3.13 Version Detection"
      observed := .num 0
      expected := .text "non-zero" } ++
  reportIf ((DMSTATUS_VERSION_1_0 ≤ post.params.version && post.rc.ndmreset)
      && !DMSTATUS.ndmresetpending.test word)
    { rule := .ndmresetpending
      message := "ndmreset asserted but dmstatus.ndmresetpending=0 (" ++ source ++ ")"
      tcIds := ["TC-RST-001", "TC-RST-005"]
      spec := "#3.14.1 ndmresetpending / #3.2 Reset"
      observed := .num 0
      expected := .num 1 }

/-- `_inv_dmcontrol_reads_zero`. -/
def invDmcontrolReadsZero (readback : Nat) : List Violation :=
  DMCONTROL.fields.flatMap fun fld =>
    reportIf (fld.readsZero && fld.test readback)
      { rule := .dmcontrolReadsZero
        message := "dmcontrol." ++ fld.name ++ " (" ++ fld.access.text ++ ") read back non-zero"
        tcIds := ["TC-RC-001", "TC-RC-002", "TC-RC-005", "TC-RST-004", "TC-HOR-002", "TC-HOR-003",
          "TC-HOR-005"]
        spec := fld.spec
        observed := .num (fld.extract readback)
        expected := .num 0 }

/-! ## Rules about the stimulus -/

/-- The mutually exclusive action bits that a `dmcontrol` word sets. -/
def assertedMutexBits (word : Nat) : List Field := DMCONTROL_MUTEX_BITS.filter (·.test word)

/-- `_inv_mutex_bits`. -/
def invMutexBits (word : Nat) : List Violation :=
  reportIf (1 < (assertedMutexBits word).length)
    { rule := .stimDmcontrolMutex
      message := "more than one mutually-exclusive dmcontrol bit written 1 in one access"
      tcIds := ["TC-HOR-005"]
      spec := "#3.14.2 dmcontrol"
      observed := .names ((assertedMutexBits word).map (·.name))
      expected := .text ("at most one of " ++ ", ".intercalate (DMCONTROL_MUTEX_BITS.map (·.name)))
      stimulusLegality := true }

/-- `f"0x{addr:02x}"`. -/
def hexAddr (addr : Nat) : String :=
  "0x" ++ (if addr < 16 then "0" else "") ++ String.ofList (Nat.toDigits 16 addr)

/-- `_inv_dmi_access_during_ndmreset`. -/
def invDmiAccessDuringNdmreset (addr : Nat) (post : DMPredictor) : List Violation :=
  reportIf (post.rc.ndmreset && !(addr == DMCONTROL.address || addr == DMSTATUS.address))
    { rule := .stimDmiDuringNdmreset
      message := "DMI access to " ++ hexAddr addr ++
        " while ndmreset asserted; behaviour is UNSPECIFIED"
      tcIds := ["TC-RST-005"]
      spec := "#3.2 Reset"
      observed := .text (hexAddr addr)
      expected := .text "dmcontrol read/write or dmstatus (ndmresetpending) read only"
      stimulusLegality := true }

/-! ## Rules about a transition -/

/-- `_inv_resumereq_ignored_when_haltreq`. -/
def invResumereqIgnoredWhenHaltreq (prev : Option Snapshot) (word : Nat) (post : DMPredictor) :
    List Violation :=
  if !(DMCONTROL.haltreq.test word && DMCONTROL.resumereq.test word) then []
  else if !DMCONTROL.dmactive.test word || isResetWrite word post then []
  else forSelectedHarts prev post fun i was now =>
    reportIf (was.halted && !now.halted)
      { rule := .resumereqIgnoredWhenHaltreq
        message := "halted hart resumed on a write with both haltreq=1 and resumereq=1"
        tcIds := ["TC-RC-005"]
        spec := "#3.14.2 resumereq"
        observed := now.runState
        expected := .flags [("halted", true), ("running", false)]
        hart := some i }

/-- `_inv_halted_ignores_haltreq`. -/
def invHaltedIgnoresHaltreq (prev : Option Snapshot) (word : Nat) (post : DMPredictor) :
    List Violation :=
  if !DMCONTROL.haltreq.test word || !DMCONTROL.dmactive.test word then []
  else if isResetWrite word post then []
  else forSelectedHarts prev post fun i was now =>
    if !was.halted then []
    else
      reportIf (!now.halted || now.running)
        { rule := .haltedIgnoresHaltreq
          message := "already-halted hart changed run state on a haltreq=1 write"
          tcIds := ["TC-RC-002"]
          spec := "#3.5 Run Control"
          observed := now.runState
          expected := .flags [("halted", true), ("running", false)]
          hart := some i } ++
      reportIf (now.resumeAck != was.resumeAck)
        { rule := .haltedIgnoresHaltreq
          message := "already-halted hart's resume ack changed on a haltreq=1 write"
          tcIds := ["TC-RC-002"]
          spec := "#3.5 Run Control"
          observed := .bool now.resumeAck
          expected := .bool was.resumeAck
          hart := some i }

/-- The body of `_inv_resumereq` for one hart. -/
def resumereqOnHart (i : Nat) (was now : HartSnapshot) : List Violation :=
  if was.halted then
    if now.halted || !now.running then
      [{ rule := .resumereqResumesHalted
         message := "selected halted hart did not resume on resumereq=1"
         tcIds := ["TC-RC-003"]
         spec := "#3.5 Run Control"
         observed := now.runState
         expected := .flags [("halted", false), ("running", true)]
         hart := some i }]
    else
      reportIf (!now.resumeAck)
        { rule := .resumereqResumesHalted
          message := "hart resumed but resume ack was not set"
          tcIds := ["TC-RC-003"]
          spec := "#3.5 Run Control"
          observed := .bool false
          expected := .bool true
          hart := some i }
  else if was.running then
    reportIf (now.halted || !now.running)
      { rule := .runningIgnoresResumereq
        message := "running hart changed run state on resumereq=1"
        tcIds := ["TC-RC-004"]
        spec := "#3.5 Run Control"
        observed := now.runState
        expected := .flags [("halted", false), ("running", true)]
        hart := some i } ++
    reportIf now.resumeAck
      { rule := .resumereqClearsAck
        message := "resume ack still set on a running hart after resumereq=1; " ++
          "#3.5 clears ack for every selected hart and only halted harts re-set it"
        tcIds := ["TC-RC-004"]
        spec := "#3.5 Run Control"
        observed := .bool true
        expected := .bool false
        hart := some i }
  else []

/-- `_inv_resumereq`. -/
def invResumereq (prev : Option Snapshot) (word : Nat) (post : DMPredictor) : List Violation :=
  if !DMCONTROL.resumereq.test word || !DMCONTROL.dmactive.test word then []
  else if DMCONTROL.haltreq.test word then []
  else if isResetWrite word post then []
  else forSelectedHarts prev post resumereqOnHart

/-- `_inv_havereset_sticky`; `fields` is the written word if the operation writes `dmcontrol`. -/
def invHaveresetSticky (prev : Option Snapshot) (fields : Option Nat) (post : DMPredictor) :
    List Violation :=
  if fields.any fun word => !DMCONTROL.dmactive.test word then []
  else
    let acked := if fields.any DMCONTROL.ackhavereset.test then post.rc.selectedIndices else []
    (post.snapshot.harts.zipIdx.flatMap fun (now, i) =>
      match snapshotHart prev i with
      | none => []
      | some was =>
        reportIf ((was.havereset && !now.havereset) && !acked.contains i)
          { rule := .haveresetSticky
            message := "havereset cleared without an ackhavereset naming this hart"
            tcIds := ["TC-RST-003", "TC-RST-004"]
            spec := "#3.2 Reset / #3.14.2 ackhavereset"
            observed := .bool false
            expected := .bool true
            hart := some i }) ++
    acked.flatMap fun i =>
      reportIf ((snapshotHart (some post.snapshot) i).any (·.havereset))
        { rule := .ackhaveresetClears
          message := "ackhavereset=1 did not clear havereset for a selected hart"
          tcIds := ["TC-RST-004"]
          spec := "#3.14.2 ackhavereset"
          observed := .bool true
          expected := .bool false
          hart := some i }

/-- The request that must bring a hart out of reset halted. -/
def wantsHalt (was now : HartSnapshot) : Bool :=
  (was.resetHaltreq || now.resetHaltreq) || now.haltRequest

/-- The body of `_inv_reset_release` for one hart released from reset. -/
def releaseOnHart (i : Nat) (was now : HartSnapshot) : List Violation :=
  reportIf (!now.havereset)
    { rule := .haveresetSetOnReset
      message := "hart came out of reset without havereset being set"
      tcIds := ["TC-RST-001", "TC-RST-002", "TC-RST-003"]
      spec := "#3.2 Reset"
      observed := .bool false
      expected := .bool true
      hart := some i } ++
  reportIf (wantsHalt was now && !now.halted)
    { rule := .haltOnReset
      message := "hart released from reset with halt-on-reset (or haltreq) set " ++
        "but did not enter Debug Mode"
      tcIds := ["TC-HOR-002", "TC-HOR-004"]
      spec := "#3.5 Run Control / #3.2 Reset"
      observed := now.runState
      expected := .flags [("halted", true), ("running", false)]
      hart := some i } ++
  reportIf (!wantsHalt was now && now.halted)
    { rule := .noHaltWithoutRequest
      message := "hart halted out of reset with no halt-on-reset or halt request set"
      tcIds := ["TC-HOR-003"]
      spec := "#3.5 Run Control / #3.2 Reset"
      observed := .flags [("halted", true)]
      expected := .flags [("halted", false)]
      hart := some i }

/-- `_inv_reset_release`. -/
def invResetRelease (prev : Option Snapshot) (word : Nat) (post : DMPredictor) : List Violation :=
  if !DMCONTROL.dmactive.test word then []
  else post.snapshot.harts.zipIdx.flatMap fun (now, i) =>
    match snapshotHart prev i with
    | none => []
    | some was =>
      if now.nonexistent then []
      else if !(was.inReset && !now.inReset) then []
      else releaseOnHart i was now

/-- `_inv_resethaltreq_per_hart`. -/
def invResethaltreqPerHart (prev : Option Snapshot) (word : Nat) (post : DMPredictor) :
    List Violation :=
  if !DMCONTROL.dmactive.test word then []
  else if !(DMCONTROL.setresethaltreq.test word || DMCONTROL.clrresethaltreq.test word) then []
  else post.snapshot.harts.zipIdx.flatMap fun (now, i) =>
    match snapshotHart prev i with
    | none => []
    | some was =>
      if post.rc.selectedIndices.contains i then []
      else
        reportIf (now.resetHaltreq != was.resetHaltreq)
          { rule := .resethaltreqPerHart
            message := "set/clrresethaltreq changed the halt-on-reset bit of an unselected hart"
            tcIds := ["TC-HOR-004"]
            spec := "#3.5 Run Control / #3.14.2 setresethaltreq"
            observed := .bool now.resetHaltreq
            expected := .bool was.resetHaltreq
            hart := some i }

/-- A per-hart bit that survived a DM reset. -/
def survivedReset (i : Nat) (bit : String) : Violation :=
  { rule := .dmResetState
    message := "per-hart " ++ bit ++ " not cleared by DM reset (dmactive=0)"
    tcIds := ["TC-RST-005", "TC-HOR-003"]
    spec := "#3.5 Run Control / #3.14.2 dmactive"
    observed := .bool true
    expected := .bool false
    hart := some i }

/-- `_inv_dm_reset_state`. -/
def invDmResetState (word : Nat) (post : DMPredictor) : List Violation :=
  if DMCONTROL.dmactive.test word then []
  else
    (DMCONTROL.fields.flatMap fun fld =>
      match fld.reset with
      | none => []
      | some reset =>
        if fld.name == "dmactive" || fld.readsZero then []
        else
          reportIf (fld.extract (post.predict DMCONTROL.address) != reset)
            { rule := .dmResetState
              message := "dmcontrol." ++ fld.name ++ " not at its reset value after dmactive=0"
              tcIds := ["TC-RST-005", "TC-HOR-003"]
              spec := "#3.14.2 dmactive / " ++ fld.spec
              observed := .num (fld.extract (post.predict DMCONTROL.address))
              expected := .num reset }) ++
    post.snapshot.harts.zipIdx.flatMap fun (h, i) =>
      reportIf h.haltRequest (survivedReset i "halt_request") ++
      reportIf h.resetHaltreq (survivedReset i "reset_haltreq")

/-! ## Entry point -/

/-- A DMI operation as the checker is told of it: `data` is the word written, `readback` the word
read. -/
inductive DmiOp where
  | write (data : Option Nat)
  | read (readback : Option Nat)
  deriving DecidableEq, Repr

/-- `check_all`. -/
def checkAll (prev : Option Snapshot) (op : DmiOp) (addr : Nat) (post : DMPredictor) :
    List Violation :=
  let fields : Option Nat :=
    match op with
    | .write data => if addr = DMCONTROL.address then data else none
    | .read _ => none
  let statusWord : Option Nat :=
    match op with
    | .read readback => if addr = DMSTATUS.address then readback else none
    | .write _ => none
  let controlWord : Option Nat :=
    match op with
    | .read readback => if addr = DMCONTROL.address then readback else none
    | .write _ => none
  invDmiAccessDuringNdmreset addr post ++
  invHaltedRunningMutex post ++
  (match statusWord with
    | some word => checkDmstatusWord word post "dmstatus read-back"
    | none => checkDmstatusWord (post.predict DMSTATUS.address) post "predicted") ++
  (match controlWord with
    | some word => invDmcontrolReadsZero word
    | none => []) ++
  invHaveresetSticky prev fields post ++
  (match fields with
    | some word =>
      invMutexBits word ++
      invDmResetState word post ++
      invResumereqIgnoredWhenHaltreq prev word post ++
      invHaltedIgnoresHaltreq prev word post ++
      invResumereq prev word post ++
      invResetRelease prev word post ++
      invResethaltreqPerHart prev word post
    | none => [])

end RiscvDbg
