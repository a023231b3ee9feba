import RiscvDbg.NativeTrigger.Model

/-!
# The register tables

The registers of `model/registers.py` that the run-control slice has no use for: the rest of the debug
module's, then those a hart keeps (`dcsr`, the trigger registers).  `declaredRegisters` is the whole
file in its order.  The four `tdata1` layouts share their fields with the trigger model.
-/

set_option autoImplicit false

namespace RiscvDbg

/-! ## The other registers of the debug module -/

def HARTINFO : Register where
  name := "hartinfo"
  address := 0x12
  spec := "#3.14.11"
  fields := [⟨"nscratch", 20, 4, .r, "#3.14.11 nscratch", none⟩,
    ⟨"dataaccess", 16, 1, .r, "#3.14.11 dataaccess", none⟩,
    ⟨"datasize", 12, 4, .r, "#3.14.11 datasize", none⟩,
    ⟨"dataaddr", 0, 12, .r, "#3.14.11 dataaddr", none⟩]

def HAWINDOWSEL : Register where
  name := "hawindowsel"
  address := 0x14
  spec := "#3.14.4"
  fields := [⟨"hawindowsel", 0, 15, .warl, "#3.14.4 hawindowsel", some 0⟩]

def HAWINDOW : Register where
  name := "hawindow"
  address := 0x15
  spec := "#3.14.5"
  fields := [⟨"maskdata", 0, 32, .warl, "#3.14.5 maskdata", some 0⟩]

def ABSTRACTCS : Register where
  name := "abstractcs"
  address := 0x16
  spec := "#3.14.6"
  fields := [⟨"progbufsize", 24, 5, .r, "#3.14.6 progbufsize", none⟩,
    ⟨"busy", 12, 1, .r, "#3.14.6 busy", some 0⟩,
    ⟨"relaxedpriv", 11, 1, .warl, "#3.14.6 relaxedpriv", none⟩,
    ⟨"cmderr", 8, 3, .w1c, "#3.14.6 cmderr", some 0⟩,
    ⟨"datacount", 0, 4, .r, "#3.14.6 datacount", none⟩]

def COMMAND : Register where
  name := "command"
  address := 0x17
  spec := "#3.14.7"
  fields := [⟨"cmdtype", 24, 8, .warl, "#3.14.7 cmdtype", none⟩,
    ⟨"control", 0, 24, .warl, "#3.14.7 control", none⟩]

def ACCESS_REGISTER : Register where
  name := "command.access_register"
  address := 0x17
  spec := "#3.14.7.1"
  fields := [⟨"aarsize", 20, 3, .warl, "#3.14.7.1 aarsize", none⟩,
    ⟨"aarpostincrement", 19, 1, .warl, "#3.14.7.1 aarpostincrement", none⟩,
    ⟨"postexec", 18, 1, .warl, "#3.14.7.1 postexec", none⟩,
    ⟨"transfer", 17, 1, .warl, "#3.14.7.1 transfer", none⟩,
    ⟨"write", 16, 1, .warl, "#3.14.7.1 write", none⟩,
    ⟨"regno", 0, 16, .warl, "#3.14.7.1 regno", none⟩]

def ACCESS_MEMORY : Register where
  name := "command.access_memory"
  address := 0x17
  spec := "#3.14.7.3"
  fields := [⟨"aamvirtual", 23, 1, .warl, "#3.14.7.3 aamvirtual", none⟩,
    ⟨"aamsize", 20, 3, .warl, "#3.14.7.3 aamsize", none⟩,
    ⟨"aampostincrement", 19, 1, .warl, "#3.14.7.3 aampostincrement", none⟩,
    ⟨"write", 16, 1, .warl, "#3.14.7.3 write", none⟩,
    ⟨"target_specific", 14, 2, .warl, "#3.14.7.3 target-specific", none⟩]

def ABSTRACTAUTO : Register where
  name := "abstractauto"
  address := 0x18
  spec := "#3.14.8"
  fields := [⟨"autoexecprogbuf", 16, 16, .warl, "#3.14.8 autoexecprogbuf", some 0⟩,
    ⟨"autoexecdata", 0, 12, .warl, "#3.14.8 autoexecdata", some 0⟩]

/-! ## dmcs2 (0x32) -/

namespace DMCS2

def grouptype : Field := ⟨"grouptype", 11, 1, .warl, "#3.14.3 grouptype", some 0⟩
def dmexttrigger : Field := ⟨"dmexttrigger", 7, 4, .warl, "#3.14.3 dmexttrigger", some 0⟩
def group : Field := ⟨"group", 2, 5, .warl, "#3.14.3 group", some 0⟩
def hgwrite : Field := ⟨"hgwrite", 1, 1, .w1, "#3.14.3 hgwrite", none⟩
def hgselect : Field := ⟨"hgselect", 0, 1, .warl, "#3.14.3 hgselect", some 0⟩

end DMCS2

open DMCS2 in
def DMCS2 : Register where
  name := "dmcs2"
  address := 0x32
  spec := "#3.14.3"
  fields := [grouptype, dmexttrigger, group, hgwrite, hgselect]

/-! ## The halt summaries -/

def HALTSUM0 : Register where
  name := "haltsum0"
  address := 0x40
  spec := "#3.14.10"
  fields := [⟨"haltsum0", 0, 32, .r, "#3.14.10 haltsum0", none⟩]

def HALTSUM1 : Register where
  name := "haltsum1"
  address := 0x13
  spec := "#3.14.10"
  fields := [⟨"haltsum1", 0, 32, .r, "#3.14.10 haltsum1", none⟩]

def HALTSUM2 : Register where
  name := "haltsum2"
  address := 0x34
  spec := "#3.14.10"
  fields := [⟨"haltsum2", 0, 32, .r, "#3.14.10 haltsum2", none⟩]

def HALTSUM3 : Register where
  name := "haltsum3"
  address := 0x35
  spec := "#3.14.10"
  fields := [⟨"haltsum3", 0, 32, .r, "#3.14.10 haltsum3", none⟩]

/-! ## Hart-side registers -/

def DCSR : Register where
  name := "dcsr"
  address := 0x7B0
  spec := "Sdext 4.9.1"
  fields := [⟨"debugver", 28, 4, .r, "Sdext 4.9.1 debugver", some 4⟩,
    ⟨"ebreakvs", 17, 1, .warl, "Sdext 4.9.1 ebreakvs", some 0⟩,
    ⟨"ebreakvu", 16, 1, .warl, "Sdext 4.9.1 ebreakvu", some 0⟩,
    ⟨"ebreakm", 15, 1, .rw, "Sdext 4.9.1 ebreakm", some 0⟩,
    ⟨"ebreaks", 13, 1, .warl, "Sdext 4.9.1 ebreaks", some 0⟩,
    ⟨"ebreaku", 12, 1, .warl, "Sdext 4.9.1 ebreaku", some 0⟩,
    ⟨"stepie", 11, 1, .warl, "Sdext 4.9.1 stepie", some 0⟩,
    ⟨"stopcount", 10, 1, .warl, "Sdext 4.9.1 stopcount", none⟩,
    ⟨"stoptime", 9, 1, .warl, "Sdext 4.9.1 stoptime", none⟩,
    ⟨"cause", 6, 3, .r, "Sdext 4.9.1 cause", none⟩,
    ⟨"v", 5, 1, .warl, "Sdext 4.9.1 v", some 0⟩,
    ⟨"mprven", 4, 1, .warl, "Sdext 4.9.1 mprven", none⟩,
    ⟨"nmip", 3, 1, .r, "Sdext 4.9.1 nmip", none⟩,
    ⟨"step", 2, 1, .rw, "Sdext 4.9.1 step", some 0⟩,
    ⟨"prv", 0, 2, .warl, "Sdext 4.9.1 prv", none⟩]

def DPC : Register where
  name := "dpc"
  address := 0x7B1
  spec := "Sdext 4.9.2"
  fields := []

def DSCRATCH0 : Register where
  name := "dscratch0"
  address := 0x7B2
  spec := "Sdext 4.9.3"
  fields := []

def DSCRATCH1 : Register where
  name := "dscratch1"
  address := 0x7B3
  spec := "Sdext 4.9.3"
  fields := []

def TSELECT : Register where
  name := "tselect"
  address := 0x7A0
  spec := "Sdtrig 5.7.1"
  fields := []

def MCONTROL6 : Register where
  name := "mcontrol6"
  address := 0x7A1
  spec := "Sdtrig 5.7.12"
  fields := [⟨"uncertain", 26, 1, .warl, "Sdtrig 5.7.12 uncertain", some 0⟩,
    ⟨"hit1", 25, 1, .warl, "Sdtrig 5.7.12 hit1", some 0⟩,
    ⟨"vs", 24, 1, .warl, "Sdtrig 5.7.12 vs", some 0⟩,
    ⟨"vu", 23, 1, .warl, "Sdtrig 5.7.12 vu", some 0⟩,
    ⟨"hit0", 22, 1, .warl, "Sdtrig 5.7.12 hit0", some 0⟩,
    ⟨"select", 21, 1, .warl, "Sdtrig 5.7.12 select", some 0⟩,
    ⟨"size", 16, 3, .warl, "Sdtrig 5.7.12 size", some 0⟩,
    NativeTrigger.MCONTROL6.action,
    ⟨"chain", 11, 1, .warl, "Sdtrig 5.7.12 chain", some 0⟩,
    ⟨"match", 7, 4, .warl, "Sdtrig 5.7.12 match", some 0⟩,
    NativeTrigger.MCONTROL6.m,
    ⟨"uncertainen", 5, 1, .warl, "Sdtrig 5.7.12 uncertainen", some 0⟩,
    NativeTrigger.MCONTROL6.s, NativeTrigger.MCONTROL6.u, NativeTrigger.MCONTROL6.execute,
    NativeTrigger.MCONTROL6.store, NativeTrigger.MCONTROL6.load]

def ICOUNT : Register where
  name := "icount"
  address := 0x7A1
  spec := "Sdtrig 5.7.13"
  fields := [⟨"vs", 26, 1, .warl, "Sdtrig 5.7.13 vs", some 0⟩,
    ⟨"vu", 25, 1, .warl, "Sdtrig 5.7.13 vu", some 0⟩,
    ⟨"hit", 24, 1, .warl, "Sdtrig 5.7.13 hit", some 0⟩,
    NativeTrigger.ICOUNT.count, NativeTrigger.ICOUNT.m,
    ⟨"pending", 8, 1, .rw, "Sdtrig 5.7.13 pending", some 0⟩,
    NativeTrigger.ICOUNT.s, NativeTrigger.ICOUNT.u, NativeTrigger.ICOUNT.action]

def ITRIGGER : Register where
  name := "itrigger"
  address := 0x7A1
  spec := "Sdtrig 5.7.14"
  fields := [⟨"hit", 24, 1, .warl, "Sdtrig 5.7.14 hit", some 0⟩,
    ⟨"vs", 12, 1, .warl, "Sdtrig 5.7.14 vs", some 0⟩,
    ⟨"vu", 11, 1, .warl, "Sdtrig 5.7.14 vu", some 0⟩,
    ⟨"nmi", 10, 1, .warl, "Sdtrig 5.7.14 nmi", some 0⟩,
    NativeTrigger.ITRIGGER.m, NativeTrigger.ITRIGGER.s, NativeTrigger.ITRIGGER.u,
    NativeTrigger.ITRIGGER.action]

def ETRIGGER : Register where
  name := "etrigger"
  address := 0x7A1
  spec := "Sdtrig 5.7.15"
  fields := [⟨"hit", 24, 1, .warl, "Sdtrig 5.7.15 hit", some 0⟩,
    ⟨"vs", 12, 1, .warl, "Sdtrig 5.7.15 vs", some 0⟩,
    ⟨"vu", 11, 1, .warl, "Sdtrig 5.7.15 vu", some 0⟩,
    NativeTrigger.ETRIGGER.m, NativeTrigger.ETRIGGER.s, NativeTrigger.ETRIGGER.u,
    NativeTrigger.ETRIGGER.action]

def TDATA2 : Register where
  name := "tdata2"
  address := 0x7A2
  spec := "Sdtrig 5.7.3"
  fields := []

def TDATA3 : Register where
  name := "tdata3"
  address := 0x7A3
  spec := "Sdtrig 5.7.4"
  fields := []

def TINFO : Register where
  name := "tinfo"
  address := 0x7A4
  spec := "Sdtrig 5.7.6"
  fields := [⟨"version", 24, 8, .r, "Sdtrig 5.7.6 version", none⟩,
    ⟨"info", 0, 16, .r, "Sdtrig 5.7.6 info", none⟩]

/-- Every `Register` the file declares. -/
def declaredRegisters : List Register :=
  [DMCONTROL, DMSTATUS, HARTINFO, HAWINDOWSEL, HAWINDOW, ABSTRACTCS, COMMAND, ACCESS_REGISTER,
    ACCESS_MEMORY, ABSTRACTAUTO, DMCS2, HALTSUM0, HALTSUM1, HALTSUM2, HALTSUM3, DCSR, DPC, DSCRATCH0,
    DSCRATCH1, TSELECT, MCONTROL6, ICOUNT, ITRIGGER, ETRIGGER, TDATA2, TDATA3, TINFO]

end RiscvDbg
