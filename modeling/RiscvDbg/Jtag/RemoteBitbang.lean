import RiscvDbg.Jtag.Tap

/-!
# The remote bitbang port

Model of `c_bridge/remote_bitbang.c` and of `jtag_bitbang.sv`, which calls it at the rising edges of its clock:
a client sends one character a command over a socket, at its own pace, and the device behind the port sees
the pins change with the clock.

* `BitbangServer` — the server; `rbsTick` reads at most one character.
* `JtagBitbang` — the module, with its registered pins; `Bench` — the module and a device on its pins.
* `Bitbanged` — the device with its pins set command after command, without clock, socket or server.
* `bitbang_refines` — **whatever the clock, the arrival of the characters and the connections do, the device
  and the replies are those of the commands that were read.**
* `tap_over_bitbang` — a TAP steps once for each command that raises TCK.
* `served_after_quit` — **after a `Q` no connection gets more than one command.**
-/

set_option autoImplicit false

namespace RiscvDbg

/-! ## The server -/

/-- The pins a client drives. -/
structure JtagPins where
  tck : Bool
  tms : Bool
  tdi : Bool
  trstn : Bool
  deriving DecidableEq, Repr

/-- What `read` finds on the socket of the client: nothing yet, the end, or a character. -/
inductive Recv where
  | again
  | eof
  | char (command : Char)
  deriving DecidableEq, Repr

/-- The variables of the server; `connected` is `client_fd > 0`. -/
structure BitbangServer where
  connected : Bool
  pins : JtagPins
  tdo : Bool
  quit : Bool
  deriving DecidableEq, Repr

namespace BitbangServer

variable (s : BitbangServer)

/-- `rbs_init`. -/
def rbsInit : BitbangServer := { s with connected := false, pins := ⟨true, true, true, true⟩, quit := false }

/-- `rbs_set_pins`. -/
def rbsSetPins (tck tms tdi : Bool) : BitbangServer :=
  { s with pins := { s.pins with tck := tck, tms := tms, tdi := tdi } }

/-- `rbs_reset`. -/
def rbsReset : BitbangServer := s

/-- The `switch` of `rbs_execute_command`, with what is to be sent. -/
def command : Char → BitbangServer × Option Char
  | 'B' | 'b' => (s, none)
  | 'r' | 's' | 't' | 'u' => (s.rbsReset, none)
  | '0' => (s.rbsSetPins false false false, none)
  | '1' => (s.rbsSetPins false false true, none)
  | '2' => (s.rbsSetPins false true false, none)
  | '3' => (s.rbsSetPins false true true, none)
  | '4' => (s.rbsSetPins true false false, none)
  | '5' => (s.rbsSetPins true false true, none)
  | '6' => (s.rbsSetPins true true false, none)
  | '7' => (s.rbsSetPins true true true, none)
  | 'R' => (s, some (if s.tdo then '1' else '0'))
  | 'Q' => ({ s with quit := true }, none)
  | _ => (s, none)

/-- `rbs_execute_command`. -/
def rbsExecuteCommand : Recv → BitbangServer × Option Char
  | .again => (s, none)
  | .eof => ({ s with connected := false }, none)
  | .char c =>
    let (s, reply) := s.command c
    (if s.quit then { s with connected := false } else s, reply)

/-- `rbs_accept`: whether a client is waiting. -/
def rbsAccept (waiting : Bool) : BitbangServer := { s with connected := waiting }

/-- `rbs_tick`. -/
def rbsTick (tdo waiting : Bool) (recv : Recv) : BitbangServer × Option Char :=
  if s.connected then { s with tdo := tdo }.rbsExecuteCommand recv else (s.rbsAccept waiting, none)

/-- The command a tick reads, if it reads one. -/
def reads : Recv → Option Char
  | .char c => if s.connected then some c else none
  | _ => none

end BitbangServer

/-! ## The module -/

/-- A rising edge of the clock: the two control inputs, and what the socket has at that moment. -/
structure ClockEdge where
  rstN : Bool := true
  enable : Bool := true
  waiting : Bool := false
  recv : Recv := .again
  deriving DecidableEq, Repr

/-- `jtag_bitbang`: the server behind it and its registers. -/
structure JtagBitbang where
  server : BitbangServer
  out : JtagPins
  quit : Bool
  initialized : Bool
  deriving DecidableEq, Repr

namespace JtagBitbang

variable (m : JtagBitbang) (e : ClockEdge)

/-- One rising edge of the clock, and what is sent to the client. -/
def posedge (tdo : Bool) : JtagBitbang × Option Char :=
  if !e.rstN then ({ m with out := ⟨false, false, false, false⟩, quit := false }, none)
  else if e.enable then
    if !m.initialized then ({ m with server := m.server.rbsInit, initialized := true }, none)
    else
      let (server, reply) := m.server.rbsTick tdo e.waiting e.recv
      ({ m with server := server, out := server.pins, quit := server.quit }, reply)
  else (m, none)

/-- The command the edge reads, if it reads one. -/
def reads : Option Char := if e.rstN && e.enable && m.initialized then m.server.reads e.recv else none

/-- The edge accepts a client. -/
def accepts : Bool := e.rstN && e.enable && m.initialized && !m.server.connected && e.waiting

/-- The server is up and its pins are out. -/
structure Serving : Prop where
  initialized : m.initialized = true
  out : m.out = m.server.pins

end JtagBitbang

/-! ## A device on the pins -/

/-- A device that notices changes of its pins only, the old pins before the new. -/
structure PinDevice (δ : Type*) where
  react : δ → JtagPins → JtagPins → δ
  tdo : δ → Bool
  react_self : ∀ d pins, react d pins pins = d

variable {δ : Type*}

/-- The module, the device on its pins, and what the client has been sent. -/
structure Bench (δ : Type*) where
  port : JtagBitbang
  device : δ
  replies : List Char

namespace Bench

variable (D : PinDevice δ) (b : Bench δ)

/-- One rising edge of the clock: the port samples TDO and the device sees the new pins after it. -/
def posedge (e : ClockEdge) : Bench δ :=
  let (port, reply) := b.port.posedge e (D.tdo b.device)
  { port := port, device := D.react b.device b.port.out port.out, replies := b.replies ++ reply.toList }

/-- The same, with the command that is read. -/
def react (e : ClockEdge) : Bench δ × List Char := (b.posedge D e, (b.port.reads e).toList)

/-- The state after the edges. -/
def run (edges : List ClockEdge) : Bench δ := Runs.run (posedge D) b edges

/-- The commands read along the edges. -/
def executed (edges : List ClockEdge) : List Char := Runs.outputs (react D) b edges

/-- How many clients are accepted along the edges. -/
def connections : Bench δ → List ClockEdge → Nat
  | _, [] => 0
  | b, e :: edges => (b.port.accepts e).toNat + connections (b.posedge D e) edges

end Bench

/-! ## The device without the port -/

/-- A device with its pins, and what has been read of it. -/
structure Bitbanged (δ : Type*) where
  pins : JtagPins
  device : δ
  replies : List Char
  deriving DecidableEq

/-- The pins after a command: a digit holds TCK, TMS and TDI, from bit 2 down. -/
def JtagPins.command (pins : JtagPins) (c : Char) : JtagPins :=
  if '0' ≤ c ∧ c ≤ '7' then
    { pins with tck := c.toNat.testBit 2, tms := c.toNat.testBit 1, tdi := c.toNat.testBit 0 }
  else pins

/-- A command: it sets the pins, or reads TDO. -/
def Bitbanged.command (D : PinDevice δ) (b : Bitbanged δ) (c : Char) : Bitbanged δ where
  pins := b.pins.command c
  device := D.react b.device b.pins (b.pins.command c)
  replies := if c = 'R' then b.replies ++ [if D.tdo b.device then '1' else '0'] else b.replies

/-- What the client can know of the bench. -/
def Bench.bitbanged (b : Bench δ) : Bitbanged δ := ⟨b.port.out, b.device, b.replies⟩

/-! ## The commands -/

/-- The digits that set the pins. -/
theorem digit_cases {c : Char} (h : '0' ≤ c ∧ c ≤ '7') :
    c = '0' ∨ c = '1' ∨ c = '2' ∨ c = '3' ∨ c = '4' ∨ c = '5' ∨ c = '6' ∨ c = '7' := by
  have hlo : 48 ≤ c.toNat := h.1
  have hhi : c.toNat ≤ 55 := h.2
  have hcode : c.toNat = 48 ∨ c.toNat = 49 ∨ c.toNat = 50 ∨ c.toNat = 51 ∨ c.toNat = 52 ∨ c.toNat = 53 ∨
      c.toNat = 54 ∨ c.toNat = 55 := by omega
  rw [← Char.ofNat_toNat c]
  rcases hcode with h | h | h | h | h | h | h | h <;> rw [h] <;> decide

namespace BitbangServer

variable (s : BitbangServer)

/-- **The commands, as the client sees them.** -/
theorem command_eq (c : Char) :
    s.command c =
      ({ s with pins := s.pins.command c, quit := s.quit || c == 'Q' },
        if c = 'R' then some (if s.tdo then '1' else '0') else none) := by
  have hquit : ∀ b : Bool, b = false → (s.quit || b) = s.quit := fun b hb => by rw [hb, Bool.or_false]
  by_cases hdigit : '0' ≤ c ∧ c ≤ '7'
  · have hother : (c == 'Q') = false ∧ c ≠ 'R' := by
      rcases digit_cases hdigit with rfl | rfl | rfl | rfl | rfl | rfl | rfl | rfl <;> decide
    rw [hquit _ hother.1, if_neg hother.2]
    rcases digit_cases hdigit with rfl | rfl | rfl | rfl | rfl | rfl | rfl | rfl <;> rfl
  · have hpins : s.pins.command c = s.pins := if_neg hdigit
    rw [hpins]
    unfold command
    split
    case h_16 => simp
    case h_17 =>
      have hR : c ≠ 'R' := by assumption
      have hQ : c ≠ 'Q' := by assumption
      rw [hquit _ (beq_eq_false_iff_ne.mpr hQ), if_neg hR]
    all_goals first
      | exact absurd (by decide) hdigit
      | rw [hquit _ (by decide)]; rfl

/-- What is sent for a command. -/
def answer (tdo : Bool) (c : Char) : Option Char := if c = 'R' then some (if tdo then '1' else '0') else none

/-- **A tick**: the pins and the reply are those of the command it reads, if it reads one. -/
theorem rbsTick_reads (tdo waiting : Bool) (recv : Recv) :
    (s.rbsTick tdo waiting recv).1.pins = Runs.run JtagPins.command s.pins (s.reads recv).toList ∧
      (s.rbsTick tdo waiting recv).2 = (s.reads recv).bind (answer tdo) := by
  unfold rbsTick reads
  cases hs : s.connected with
  | false => cases recv <;> exact ⟨rfl, rfl⟩
  | true =>
    cases recv with
    | again => exact ⟨rfl, rfl⟩
    | eof => exact ⟨rfl, rfl⟩
    | char c =>
      simp only [rbsExecuteCommand, command_eq, if_true]
      refine ⟨?_, rfl⟩
      split <;> rfl

end BitbangServer

/-! ## The module and the device -/

namespace JtagBitbang

variable {m : JtagBitbang} (e : ClockEdge) (tdo : Bool)

/-- From the first tick on the pins of the server are out. -/
theorem posedge_serving (hinit : m.initialized = true) (hrst : e.rstN = true) (henable : e.enable = true) :
    (m.posedge e tdo).1.Serving := by
  unfold posedge
  rw [hrst, henable, hinit]
  exact ⟨rfl, rfl⟩

/-- **One edge out of reset**: the pins and the reply are those of the command it reads, if it reads one. -/
theorem Serving.posedge (hm : m.Serving) (hrst : e.rstN = true) :
    (m.posedge e tdo).1.Serving ∧
      (m.posedge e tdo).1.out = Runs.run JtagPins.command m.out (m.reads e).toList ∧
      (m.posedge e tdo).2 = (m.reads e).bind (BitbangServer.answer tdo) := by
  cases henable : e.enable with
  | false =>
    unfold JtagBitbang.posedge reads
    rw [hrst, henable]
    exact ⟨hm, rfl, rfl⟩
  | true =>
    refine ⟨posedge_serving e tdo hm.initialized hrst henable, ?_⟩
    obtain ⟨hpins, hreply⟩ := m.server.rbsTick_reads tdo e.waiting e.recv
    unfold JtagBitbang.posedge reads
    rw [hrst, henable, hm.initialized, hm.out]
    exact ⟨hpins, hreply⟩

end JtagBitbang

section
variable {δ : Type*} (D : PinDevice δ)

/-- One edge of the bench is one command on the device, or none. -/
theorem Bench.posedge_bitbanged {b : Bench δ} (hb : b.port.Serving) {e : ClockEdge} (hrst : e.rstN = true) :
    (b.posedge D e).port.Serving ∧
      (b.posedge D e).bitbanged = Runs.run (Bitbanged.command D) b.bitbanged (b.port.reads e).toList := by
  obtain ⟨hserving, hout, hreply⟩ := hb.posedge e (D.tdo b.device) hrst
  refine ⟨hserving, ?_⟩
  show (⟨(b.port.posedge e (D.tdo b.device)).1.out, D.react b.device b.port.out
    (b.port.posedge e (D.tdo b.device)).1.out, b.replies ++ (b.port.posedge e (D.tdo b.device)).2.toList⟩ :
    Bitbanged δ) = _
  rw [hout, hreply]
  cases b.port.reads e with
  | none =>
    rw [Option.toList_none, Runs.run_nil, D.react_self]
    exact congrArg (Bitbanged.mk _ _) (List.append_nil _)
  | some c =>
    refine congrArg (Bitbanged.mk _ _) ?_
    show b.replies ++ (BitbangServer.answer _ c).toList = if c = 'R' then _ else _
    unfold BitbangServer.answer
    split
    · rfl
    · exact List.append_nil _

/-- A run of the bench out of reset is one of the commands that are read. -/
theorem Bench.run_bitbanged {b : Bench δ} (hb : b.port.Serving) {edges : List ClockEdge}
    (hrst : ∀ e ∈ edges, e.rstN = true) :
    (b.run D edges).bitbanged = Runs.run (Bitbanged.command D) b.bitbanged (b.executed D edges) := by
  let ok : Bench δ → ClockEdge → Prop := fun _ e => e.rstN = true
  have hstep : ∀ (b : Bench δ) (e : ClockEdge), b.port.Serving → ok b e →
      (b.react D e).1.port.Serving ∧
        (b.react D e).1.bitbanged = Runs.run (Bitbanged.command D) b.bitbanged (b.react D e).2 :=
    fun _ _ hb hrst => Bench.posedge_bitbanged D hb hrst
  have hok : Runs.Always (fun b e => (Bench.react D b e).1) ok b edges :=
    Runs.Always.of_forall (fun _ _ h => h) edges b hrst
  exact @Runs.run_refines _ _ _ ok _ (Bench.react D) Bench.bitbanged (Bitbanged.command D) (·.port.Serving)
    hstep edges b hb hok

/-- A TAP controller on the pins: it steps at the rising edges of TCK, and TRST resets it. -/
def tapDevice (tdo : TapState → Bool) : PinDevice TapState where
  react s old new :=
    if old.trstn && !new.trstn then .testLogicReset
    else if !old.tck && new.tck && new.trstn then tapNextState s new.tms
    else s
  tdo := tdo
  react_self s pins := by
    cases pins.tck <;> cases pins.trstn <;> rfl

/-- TMS at the rising edges of TCK in a list of commands. -/
def risingTms : JtagPins → List Char → List Bool
  | _, [] => []
  | pins, c :: cs =>
    (if !pins.tck && (pins.command c).tck then [(pins.command c).tms] else []) ++ risingTms (pins.command c) cs

theorem JtagPins.command_trstn (pins : JtagPins) (c : Char) : (pins.command c).trstn = pins.trstn := by
  unfold command
  split <;> rfl

theorem tap_bitbanged (tdo : TapState → Bool) :
    ∀ (cs : List Char) (b : Bitbanged TapState), b.pins.trstn = true →
      (Runs.run (Bitbanged.command (tapDevice tdo)) b cs).device =
        Runs.run tapNextState b.device (risingTms b.pins cs) := by
  intro cs
  induction cs with
  | nil => intro b _; rfl
  | cons c cs ih =>
    intro b hb
    have hkept : (b.pins.command c).trstn = true := (b.pins.command_trstn c).trans hb
    have hdevice : (b.command (tapDevice tdo) c).device = Runs.run tapNextState b.device
        (if !b.pins.tck && (b.pins.command c).tck then [(b.pins.command c).tms] else []) := by
      show (if b.pins.trstn && !(b.pins.command c).trstn then _ else if _ then _ else _) = _
      rw [hkept, hb, Bool.and_true]
      split <;> rename_i h
      · exact absurd h (by decide)
      · split <;> rfl
    rw [Runs.run_cons, ih _ hkept, risingTms, Runs.run_append, hdevice]
    rfl

/-- **A TAP behind the port** steps once for each command that raises TCK, whatever the clock and the socket do. -/
theorem tap_over_bitbang (tdo : TapState → Bool) {b : Bench TapState} (hb : b.port.Serving)
    (htrst : b.port.out.trstn = true) {edges : List ClockEdge} (hrst : ∀ e ∈ edges, e.rstN = true) :
    (b.run (tapDevice tdo) edges).device =
      Runs.run tapNextState b.device (risingTms b.port.out (b.executed (tapDevice tdo) edges)) := by
  have hrefines := Bench.run_bitbanged (tapDevice tdo) hb hrst
  exact (congrArg Bitbanged.device hrefines).trans (tap_bitbanged tdo _ b.bitbanged htrst)

end

/-! ## After a `Q` -/

namespace BitbangServer

variable (s : BitbangServer) (tdo waiting : Bool) (recv : Recv)

theorem rbsTick_quit : (s.rbsTick tdo waiting recv).1.quit = (s.quit || s.reads recv == some 'Q') := by
  unfold rbsTick reads
  cases hs : s.connected with
  | false => cases recv <;> exact (Bool.or_false _).symm
  | true =>
    cases recv with
    | again => exact (Bool.or_false _).symm
    | eof => exact (Bool.or_false _).symm
    | char c =>
      simp only [rbsExecuteCommand, command_eq, if_true]
      split <;> simp

/-- Once a `Q` has been read, a connection ends with the command it brings. -/
theorem rbsTick_connected (hquit : (s.rbsTick tdo waiting recv).1.quit = true) :
    (s.reads recv).toList.length + (s.rbsTick tdo waiting recv).1.connected.toNat ≤
      s.connected.toNat + (!s.connected && waiting).toNat := by
  unfold rbsTick at hquit ⊢
  unfold reads
  cases hs : s.connected with
  | false => cases recv <;> simp [rbsAccept]
  | true =>
    rw [hs] at hquit
    cases recv with
    | again => simp [rbsExecuteCommand]
    | eof => simp [rbsExecuteCommand]
    | char c =>
      simp only [rbsExecuteCommand, command_eq, if_true] at hquit ⊢
      split at hquit
      next h => simp [h]
      next h => exact absurd hquit h

end BitbangServer

namespace JtagBitbang

variable {m : JtagBitbang} (e : ClockEdge) (tdo : Bool)

/-- The server of a module that is up ticks at the enabled edges out of reset. -/
theorem posedge_server (hinit : m.initialized = true) :
    (m.posedge e tdo).1.initialized = true ∧
      (m.posedge e tdo).1.server =
        if e.rstN && e.enable then (m.server.rbsTick tdo e.waiting e.recv).1 else m.server := by
  unfold posedge
  rw [hinit]
  cases e.rstN <;> cases e.enable <;> first | exact ⟨rfl, rfl⟩ | exact ⟨hinit, rfl⟩

/-- The server is up, and a `Q` has been read. -/
structure HasQuit (m : JtagBitbang) : Prop where
  initialized : m.initialized = true
  quit : m.server.quit = true

theorem HasQuit.posedge (hm : m.HasQuit) : (m.posedge e tdo).1.HasQuit := by
  obtain ⟨hinit, hserver⟩ := posedge_server e tdo hm.initialized
  refine ⟨hinit, ?_⟩
  rw [hserver]
  split
  · rw [BitbangServer.rbsTick_quit, hm.quit, Bool.true_or]
  · exact hm.quit

theorem hasQuit_of_reads (h : m.reads e = some 'Q') : (m.posedge e tdo).1.HasQuit := by
  unfold reads at h
  split at h
  next hticks =>
    simp only [Bool.and_eq_true] at hticks
    obtain ⟨⟨hrst, henable⟩, hinit⟩ := hticks
    obtain ⟨hinit', hserver⟩ := posedge_server e tdo hinit
    refine ⟨hinit', ?_⟩
    rw [hserver, hrst, henable, Bool.and_self, if_pos rfl, BitbangServer.rbsTick_quit, h]
    simp
  next => exact nomatch h

/-- From then on a command needs a connection of its own. -/
theorem HasQuit.reads_le (hm : m.HasQuit) :
    (m.reads e).toList.length + (m.posedge e tdo).1.server.connected.toNat ≤
      m.server.connected.toNat + (m.accepts e).toNat := by
  have hquit := (hm.posedge e tdo).quit
  obtain ⟨-, hserver⟩ := posedge_server e tdo hm.initialized
  rw [hserver] at hquit ⊢
  unfold reads accepts
  rw [hm.initialized, Bool.and_true]
  cases hticks : e.rstN && e.enable with
  | false => simp
  | true =>
    rw [hticks, if_pos rfl] at hquit
    have hconnected := m.server.rbsTick_connected tdo e.waiting e.recv hquit
    simpa using hconnected

end JtagBitbang

section
variable {δ : Type*} (D : PinDevice δ)

theorem Bench.run_hasQuit {b : Bench δ} (hb : b.port.HasQuit) (edges : List ClockEdge) :
    (b.run D edges).port.HasQuit :=
  Runs.run_invariant (P := fun b : Bench δ => b.port.HasQuit)
    (fun b e hb _ => hb.posedge e (D.tdo b.device)) edges b hb (Runs.always_true edges b)

/-- A `Q` among the commands. -/
theorem Bench.hasQuit_of_executed :
    ∀ (edges : List ClockEdge) (b : Bench δ), 'Q' ∈ b.executed D edges → (b.run D edges).port.HasQuit := by
  intro edges
  induction edges with
  | nil => intro b hq; cases hq
  | cons e edges ih =>
    intro b hq
    rcases List.mem_append.mp hq with hnow | hlater
    · have hreads : b.port.reads e = some 'Q' := Option.mem_toList.mp hnow
      exact Bench.run_hasQuit D (JtagBitbang.hasQuit_of_reads e _ hreads) edges
    · exact ih _ hlater

/-- The commands of a run after a `Q`, counted by the connections. -/
theorem Bench.executed_le_of_hasQuit :
    ∀ (edges : List ClockEdge) (b : Bench δ), b.port.HasQuit →
      (b.executed D edges).length + (b.run D edges).port.server.connected.toNat ≤
        b.port.server.connected.toNat + b.connections D edges := by
  intro edges
  induction edges with
  | nil => intro b _; exact Nat.le_of_eq (Nat.zero_add _)
  | cons e edges ih =>
    intro b hb
    have hstep := hb.reads_le e (D.tdo b.device)
    have hrest := ih (b.posedge D e) (hb.posedge e _)
    have hlength : (b.executed D (e :: edges)).length =
        (b.port.reads e).toList.length + ((b.posedge D e).executed D edges).length := List.length_append
    have hrun : b.run D (e :: edges) = (b.posedge D e).run D edges := rfl
    have hcount : b.connections D (e :: edges) =
        (b.port.accepts e).toNat + (b.posedge D e).connections D edges := rfl
    have hport : (b.posedge D e).port = (b.port.posedge e (D.tdo b.device)).1 := rfl
    rw [hport] at hrest
    rw [hlength, hrun, hcount]
    omega

/-- **Service ends with a `Q`.**  Once one has been read, whatever happens afterwards, resets included, the
commands that are still executed are at most one for each connection, and `quit_o` is high after every tick. -/
theorem served_after_quit {b : Bench δ} {before : List ClockEdge} (hq : 'Q' ∈ b.executed D before)
    (after : List ClockEdge) :
    let b' := b.run D before
    (b'.executed D after).length ≤ b'.port.server.connected.toNat + b'.connections D after ∧
      ∀ e : ClockEdge, e.rstN = true → e.enable = true → ((b'.run D after).posedge D e).port.quit = true := by
  intro b'
  have hquit : b'.port.HasQuit := Bench.hasQuit_of_executed D before b hq
  refine ⟨Nat.le_of_add_right_le (Bench.executed_le_of_hasQuit D after b' hquit), ?_⟩
  intro e hrst henable
  have hlast := Bench.run_hasQuit D hquit after
  show ((b'.run D after).port.posedge e (D.tdo (b'.run D after).device)).1.quit = true
  unfold JtagBitbang.posedge
  rw [hrst, henable, hlast.initialized]
  show (BitbangServer.rbsTick _ _ _ _).1.quit = true
  rw [BitbangServer.rbsTick_quit, hlast.quit, Bool.true_or]

/-- A client that comes after the `Q` and sends two commands. -/
theorem served_after_quit_second_client :
    let D := tapDevice fun _ => false
    let b : Bench TapState :=
      ⟨⟨⟨true, ⟨true, true, true, true⟩, false, false⟩, ⟨true, true, true, true⟩, false, true⟩, .runTestIdle, []⟩
    let b' := b.run D [{ recv := .char 'Q' }]
    (b'.executed D [{ waiting := true }, { recv := .char '2' }, { recv := .char '6' }]).length ≤ 1 := by
  intro D b b'
  have hq : 'Q' ∈ b.executed D [{ recv := .char 'Q' }] := by decide
  exact (served_after_quit D hq [{ waiting := true }, { recv := .char '2' }, { recv := .char '6' }]).1

end

end RiscvDbg
