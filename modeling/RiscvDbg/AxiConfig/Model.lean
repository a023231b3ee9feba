import Mathlib.Data.List.DropRight
import RiscvDbg.BusMonitor.Axi
import RiscvDbg.DutConfig.Model
import RiscvDbg.Lib.Blocks
import RiscvDbg.Lib.Dicts

/-!
# The configuration of the AXI taps

Model of `dbg_axi_cfg_reader` (`sv/agents/axi/dbg_axi_cfg_reader.sv`), which reads `axi_configs/<dut>_axi.json`
into one `dbg_axi_cfg` for each tap, and of the JSON it reads.

* `TapCfg` — `dbg_axi_cfg` whole: what the monitor uses, the name of the tap and the verbosity.
* `valueIn`, `toU64`, `toBool`, `toVerbosity`, `parseRegions`, `parseRanges`, `parseTap`, `getTaps` — the reader;
  `none` is `uvm_fatal`.  The loop that slices objects is `Blocks.blocks`.
* `TapDoc` — the text of such a file with its layout: one tap after the other in the array `axi_taps`.
* `configOf` — what the JSON says, key by key, with the defaults of `dbg_axi_cfg` for absent keys.
-/

set_option autoImplicit false

namespace RiscvDbg

open JsonText (Space Literal Member Element Scalar)

/-- `uvm_verbosity`. -/
inductive UvmVerbosity where
  | none
  | low
  | medium
  | high
  | full
  deriving DecidableEq, Repr

/-- `dbg_axi_cfg`, with its name and the verbosity of its log lines. -/
structure TapCfg extends AxiCfg where
  busName : String
  logLevel : UvmVerbosity := .medium

/-! ## The reader -/

/-- `trim`. -/
def trim (s : List Char) : List Char := (s.dropWhile JsonText.isSpace).rdropWhile JsonText.isSpace

/-- The characters at which a value ends. -/
def endsTapValue (c : Char) : Bool := c == ',' || c == JsonText.closeBrace

/-- `value_in`: the value text behind the first quoted `key`; empty if there is none. -/
def valueIn (blk key : List Char) : List Char :=
  match (Text.after (JsonText.quoted key) blk).bind (Text.after [':']) with
  | none => []
  | some rest => trim (rest.takeWhile (!endsTapValue ·))

/-- `unquote`. -/
def unquote (s : List Char) : List Char :=
  if 2 ≤ s.length ∧ s.head? = some JsonText.quote ∧ s.getLast? = some JsonText.quote then s.tail.dropLast else s

/-- `to_u64`.  Both branches of its last line are `atoi`, a signed 32-bit number. -/
def toU64 (s : List Char) (dflt : BitVec 64) : BitVec 64 :=
  let t := unquote s
  if t = [] then dflt
  else if isHexText t then .ofNat 64 (JsonText.readDigits 16 0 ((t.drop 2).takeWhile JsonText.isHexDigit))
  else (atoi t).signExtend 64

/-- `to_bool`. -/
def toBool (s : List Char) (dflt : Bool) : Bool :=
  let t := unquote s
  if t = "true".toList then true else if t = "false".toList then false else dflt

/-- The names of the verbosities. -/
def verbosityOf (t : List Char) (dflt : UvmVerbosity) : UvmVerbosity :=
  if t = "UVM_NONE".toList then .none
  else if t = "UVM_LOW".toList then .low
  else if t = "UVM_MEDIUM".toList then .medium
  else if t = "UVM_HIGH".toList then .high
  else if t = "UVM_FULL".toList then .full
  else dflt

/-- `to_verbosity`. -/
def toVerbosity (s : List Char) (dflt : UvmVerbosity) : UvmVerbosity := verbosityOf (unquote s) dflt

/-- The pairs of quoted texts in the pieces between quotes. -/
def quotedPairs : List (List Char) → List (List Char × List Char)
  | _ :: key :: _ :: val :: s :: rest => (key, val) :: quotedPairs (s :: rest)
  | _ => []

/-- The loop of `parse_regions`. -/
def addRegions (pairs : List (List Char × List Char)) (d : Dict (BitVec 64) String) : Dict (BitVec 64) String :=
  pairs.foldl (fun d p => d.set (toU64 p.1 0) (.ofList p.2)) d

/-- `parse_regions`. -/
def parseRegions (blk : List Char) : Dict (BitVec 64) String :=
  match (Text.after (JsonText.quoted "regions".toList) blk).bind (Text.after [JsonText.openBrace]) with
  | none => .empty
  | some rest =>
    if JsonText.closeBrace ∈ rest then
      addRegions (quotedPairs ((rest.takeWhile (· != JsonText.closeBrace)).splitOn JsonText.quote)) .empty
    else .empty

/-- The objects of an array, sliced by counting braces. -/
def objectsOf (s : List Char) : List (List Char) := Blocks.blocks JsonText.openBrace JsonText.closeBrace ']' s

/-- One entry of `region_ranges`. -/
def parseRange (entry : List Char) : RegionRange where
  lo := toU64 (valueIn entry "lo".toList) 0
  hi := toU64 (valueIn entry "hi".toList) 0
  name := .ofList (unquote (valueIn entry "name".toList))

/-- `parse_ranges`. -/
def parseRanges (blk : List Char) : List RegionRange :=
  match (Text.after (JsonText.quoted "region_ranges".toList) blk).bind (Text.after ['[']) with
  | none => []
  | some rest => ((objectsOf rest).map parseRange).filter (·.name != "")

/-- `parse_tap`. -/
def parseTap (blk : List Char) : Option TapCfg :=
  let busName := unquote (valueIn blk "name".toList)
  if busName = [] then none
  else some
    { busName := .ofList busName
      logLevel := toVerbosity (valueIn blk "log_level".toList) .medium
      monitorReads := toBool (valueIn blk "monitor_reads".toList) true
      monitorWrites := toBool (valueIn blk "monitor_writes".toList) true
      addrLo := toU64 (valueIn blk "addr_lo".toList) 0
      addrHi := toU64 (valueIn blk "addr_hi".toList) 0xFFFF_FFFF_FFFF_FFFF
      regionName := (parseRegions blk).get?
      regionRanges := parseRanges blk }

/-- `get_taps`. -/
def getTaps (content : List Char) : Option (List TapCfg) :=
  match (Text.after (JsonText.quoted "axi_taps".toList) content).bind (Text.after ['[']) with
  | none => some []
  | some rest => (objectsOf rest).mapM parseTap

/-! ## The text -/

/-- The values of a tap: a scalar, the object `regions`, the array `region_ranges`. -/
inductive TapValue where
  | scalar (v : Scalar)
  | regions (inner : Space) (rs : List (Member Scalar))
  | ranges (inner : Space) (es : List (Element Scalar))

namespace TapValue

def text : TapValue → List Char
  | .scalar v => v.text
  | .regions inner rs => JsonText.objectText inner rs
  | .ranges inner es => JsonText.arrayText inner es

def Hides (k : List Char) : TapValue → Prop
  | .scalar v => v.Hides k
  | .regions _ rs => ∃ r ∈ rs, r.Hides k
  | .ranges _ es => ∃ e ∈ es, ∃ m ∈ e.members, m.Hides k

instance (k : List Char) : (v : TapValue) → Decidable (v.Hides k)
  | .scalar v => inferInstanceAs (Decidable (v.Hides k))
  | .regions _ rs => inferInstanceAs (Decidable (∃ r ∈ rs, r.Hides k))
  | .ranges _ es => inferInstanceAs (Decidable (∃ e ∈ es, ∃ m ∈ e.members, m.Hides k))

theorem after_text {k : List Char} (hk : JsonText.IsKey k) {t : List Char} (ht : JsonText.Stops t) (v : TapValue)
    (hv : ¬ v.Hides k) : Text.after (JsonText.quoted k) (v.text ++ t) = Text.after (JsonText.quoted k) t := by
  cases v with
  | scalar v => exact v.after_text hk ht hv
  | regions inner rs => exact JsonText.after_objectText hk (fun r hr h => hv ⟨r, hr, h⟩) inner t
  | ranges inner es => exact JsonText.after_arrayText hk inner (fun e he h => hv ⟨e, he, h⟩) t

end TapValue

instance : JsonText.Written TapValue where
  text := TapValue.text
  hides := TapValue.Hides
  after_text := TapValue.after_text

instance (k : List Char) (v : TapValue) : Decidable (JsonText.Written.hides k v) :=
  inferInstanceAs (Decidable (v.Hides k))

/-- One tap: an object of the array `axi_taps`. -/
abbrev Tap := Element TapValue

/-- A file: the text before the key `axi_taps`, the array, and the text behind it. -/
structure TapDoc where
  before : List Char
  afterKey : Space
  afterColon : Space
  inner : Space
  taps : List Tap
  rest : List Char

/-- `content`. -/
def TapDoc.text (d : TapDoc) : List Char :=
  d.before ++ (JsonText.quoted "axi_taps".toList ++ (d.afterKey.1 ++ ':' ::
    (d.afterColon.1 ++ (JsonText.arrayText d.inner d.taps ++ d.rest))))

/-! ## What the JSON says -/

/-- The text a literal stands for. -/
def stringOf (l : Literal) : List Char := (JsonText.decode l).map Char.ofNat

/-- A number in a text: decimal digits, or `0x` and hexadecimal digits. -/
def textNumber (t : List Char) : Option Nat :=
  if isHexText t then
    if (t.drop 2).all JsonText.isHexDigit then some (JsonText.readDigits 16 0 (t.drop 2)) else none
  else if t ≠ [] ∧ t.all Char.isDigit then some (JsonText.readDigits 10 0 t)
  else none

/-- The address that a scalar stands for. -/
def addressOf : Scalar → Option Nat
  | .number false n => some n
  | .string l => textNumber (stringOf l)
  | _ => none

def nameOf : Scalar → Option (List Char)
  | .string l => some (stringOf l)
  | _ => none

/-- The address at a key; the default if the key is absent. -/
def addressAt (v : Option Scalar) (dflt : BitVec 64) : BitVec 64 :=
  match v with
  | some v => .ofNat 64 ((addressOf v).getD 0)
  | none => dflt

/-- An entry of `region_ranges`. -/
def rangeOf (e : Element Scalar) : RegionRange where
  lo := addressAt (JsonText.lookup e.members "lo".toList) 0
  hi := addressAt (JsonText.lookup e.members "hi".toList) 0
  name := .ofList (((JsonText.lookup e.members "name".toList).bind nameOf).getD [])

def TapValue.scalar? : TapValue → Option Scalar
  | .scalar v => some v
  | _ => none

/-- The scalar at a key of a tap. -/
def scalarAt (t : Tap) (key : List Char) : Option Scalar := (JsonText.lookup t.members key).bind TapValue.scalar?

def boolOf : Scalar → Option Bool
  | .bool b => some b
  | _ => none

/-- The names of the regions, by address. -/
def regionsOf (rs : List (Member Scalar)) : Dict (BitVec 64) String :=
  rs.foldl (fun d r =>
    d.set (.ofNat 64 ((textNumber (stringOf r.key)).getD 0)) (.ofList ((nameOf r.value).getD []))) .empty

/-- The configuration of a tap, read by structure. -/
def configOf (t : Tap) : TapCfg where
  busName := .ofList (((scalarAt t "name".toList).bind nameOf).getD [])
  monitorWrites := ((scalarAt t "monitor_writes".toList).bind boolOf).getD true
  monitorReads := ((scalarAt t "monitor_reads".toList).bind boolOf).getD true
  logLevel :=
    match (scalarAt t "log_level".toList).bind nameOf with
    | some s => verbosityOf s .medium
    | none => .medium
  addrLo := addressAt (scalarAt t "addr_lo".toList) 0
  addrHi := addressAt (scalarAt t "addr_hi".toList) 0xFFFF_FFFF_FFFF_FFFF
  regionName :=
    match JsonText.lookup t.members "regions".toList with
    | some (.regions _ rs) => (regionsOf rs).get?
    | _ => fun _ => none
  regionRanges :=
    match JsonText.lookup t.members "region_ranges".toList with
    | some (.ranges _ es) => es.map rangeOf
    | _ => []

end RiscvDbg
