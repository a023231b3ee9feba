import RiscvDbg.Lib.Runs
import RiscvDbg.Lib.FourState
import RiscvDbg.Lib.Slots
import RiscvDbg.Lib.ShiftRegister
import RiscvDbg.Lib.Text
import RiscvDbg.Lib.Lines
import RiscvDbg.Lib.Words
import RiscvDbg.Lib.Dicts
import RiscvDbg.Lib.ByteStore
import RiscvDbg.Registers
import RiscvDbg.Predictor.Config
import RiscvDbg.Predictor.AbstractCommand
import RiscvDbg.Predictor.SystemBus
import RiscvDbg.Predictor.RunControl
import RiscvDbg.Predictor.HartWrite
import RiscvDbg.Predictor.Model
import RiscvDbg.Predictor.Steps
import RiscvDbg.Predictor.Commands
import RiscvDbg.HartWellFormed
import RiscvDbg.HartRelease
import RiscvDbg.HaltOnReset
import RiscvDbg.Invariants
import RiscvDbg.FalseAlarms
import RiscvDbg.ReleaseRules
import RiscvDbg.RegisterShadow
import RiscvDbg.BusShadow
import RiscvDbg.BusRegisters
import RiscvDbg.ShadowLifetime
import RiscvDbg.Isolation
import RiscvDbg.Haltsum
import RiscvDbg.Autoexec
import RiscvDbg.RefModel.Config
import RiscvDbg.RefModel.Model
import RiscvDbg.RefModel.RunControl
import RiscvDbg.RefModel.Shadows
import RiscvDbg.RefModel.Predictions
import RiscvDbg.RefModel.Agreement
import RiscvDbg.DmcontrolFrame
import RiscvDbg.DmReset
import RiscvDbg.HartresetLevel
import RiscvDbg.Jtag.Records
import RiscvDbg.Jtag.Tap
import RiscvDbg.Jtag.Driver
import RiscvDbg.Jtag.Monitor
import RiscvDbg.Jtag.RoundTrip
import RiscvDbg.Checker.Model
import RiscvDbg.Checker.ReadPipeline
import RiscvDbg.Checker.RefusedWrites
import RiscvDbg.Coverage.Bins
import RiscvDbg.Coverage.Sv
import RiscvDbg.Coverage.Responses
import RiscvDbg.Coverage.Python
import RiscvDbg.Coverage.ExternalDebug
import RiscvDbg.Coverage.RunControl
import RiscvDbg.Coverage.OneHart
import RiscvDbg.Bridge.Json
import RiscvDbg.Bridge.Server
import RiscvDbg.Bridge.Transport
import RiscvDbg.Bridge.Fields
import RiscvDbg.Bridge.Pairing
import RiscvDbg.Bridge.LogText
import RiscvDbg.Bridge.Handshake
import RiscvDbg.Api.Debug
import RiscvDbg.Api.ReadYourWrites
import RiscvDbg.Api.RunControl
import RiscvDbg.Api.Selection
import RiscvDbg.Api.MockReads
import RiscvDbg.BusMonitor.Dmi
import RiscvDbg.BusMonitor.Axi
import RiscvDbg.Crosscheck.Trace
import RiscvDbg.Crosscheck.Replay
import RiscvDbg.NativeTrigger.Model
import RiscvDbg.NativeTrigger.Counting
import RiscvDbg.NativeTrigger.Reentrancy
import RiscvDbg.Lib.Matching
import RiscvDbg.Checker.Correlators
import RiscvDbg.Checker.DtmCorrelator
import RiscvDbg.Lib.JsonText
import RiscvDbg.Lib.Blocks
import RiscvDbg.Checker.SbaCorrelator
import RiscvDbg.Sequences.DmiRead
import RiscvDbg.DutConfig.Model
import RiscvDbg.DutConfig.Agreement
import RiscvDbg.AxiConfig.Model
import RiscvDbg.AxiConfig.Reading
import RiscvDbg.Coverage.AbstractCmdBits
import RiscvDbg.Coverage.Closed
import RiscvDbg.RegisterTable
import RiscvDbg.RegisterCodecs
import RiscvDbg.ElfLoader
import RiscvDbg.Lib.RoundRobin
import RiscvDbg.DummyHarts
import RiscvDbg.VcdAnalyze
import RiscvDbg.Lib.Latches
import RiscvDbg.Jtag.Assertions
import RiscvDbg.Jtag.StickyStatus
import RiscvDbg.Jtag.DriverLegality
import RiscvDbg.Jtag.MonitorAgreement
import RiscvDbg.Lib.Scripts
import RiscvDbg.Sequences.Session
import RiscvDbg.Sequences.Harts
import RiscvDbg.Sequences.RunControl
import RiscvDbg.Sequences.Operations
import RiscvDbg.Sequences.ResetControl
import RiscvDbg.Jtag.RemoteBitbang
import RiscvDbg.Lib.Dialogues
import RiscvDbg.Jtag.Sequences
import RiscvDbg.Bridge.EndToEnd
import RiscvDbg.Checker.Session
