import Mathlib.Data.List.DropRight
import RiscvDbg.Lib.JsonText
import RiscvDbg.RefModel.Config

/-!
# Two readers of one declaration

Model of the two programs that read `dut_configs/<name>.json`: `load_dut_config` and `declared_config`
(`model/dut_config.py`), which use a JSON parser, and `dut_config_reader` (`sv/model/dut_config_reader.sv`) with
`read_cfg` (`sv/env/dm_checker.sv`), which look for quoted keys in the text.

* `FlagKey`, `NumberKey` — the keys whose values are truth values and integers.
* `DutDoc` — the text of a flat JSON object with its layout.
* `DutDoc.get?`, `intBase0`, `loadDutConfig` — the Python side.
* `rawValue`, `getInt`, `getBool`, `getString`, `getVersion`, `readCfg` — the SystemVerilog side; `none` is
  `uvm_fatal`.

The Python side is given the object that the text stands for: `json.loads` is standard JSON.
-/

set_option autoImplicit false

namespace RiscvDbg

open JsonText (Space Literal Member Scalar)

/-! ## The keys -/

inductive FlagKey where
  | authenticated
  | impebreak
  | hasresethaltreq
  | stickyunavail
  | haveresetPoweron
  | supportsHartreset
  | supportsHasel
  | resumeackReset
  | sbaEnable
  | abstractautoEnable
  | hartarrayEnable
  | authenticationEnable
  | haltgroupsEnable
  | progbufReadable
  | haltsumGroupsPresent
  | relaxedprivReset
  | dataaccess
  | sbaccessWritable
  | sbaccess128
  | sbaccess64
  | sbaccess32
  | sbaccess16
  | sbaccess8
  deriving DecidableEq, Repr

def FlagKey.all : List FlagKey :=
  [.authenticated, .impebreak, .hasresethaltreq, .stickyunavail, .haveresetPoweron, .supportsHartreset,
    .supportsHasel, .resumeackReset, .sbaEnable, .abstractautoEnable, .hartarrayEnable, .authenticationEnable,
    .haltgroupsEnable, .progbufReadable, .haltsumGroupsPresent, .relaxedprivReset, .dataaccess, .sbaccessWritable,
    .sbaccess128, .sbaccess64, .sbaccess32, .sbaccess16, .sbaccess8]

def FlagKey.name : FlagKey → List Char
  | .authenticated => "authenticated".toList
  | .impebreak => "impebreak".toList
  | .hasresethaltreq => "hasresethaltreq".toList
  | .stickyunavail => "stickyunavail".toList
  | .haveresetPoweron => "havereset_poweron".toList
  | .supportsHartreset => "supports_hartreset".toList
  | .supportsHasel => "supports_hasel".toList
  | .resumeackReset => "resumeack_reset".toList
  | .sbaEnable => "sba_enable".toList
  | .abstractautoEnable => "abstractauto_enable".toList
  | .hartarrayEnable => "hartarray_enable".toList
  | .authenticationEnable => "authentication_enable".toList
  | .haltgroupsEnable => "haltgroups_enable".toList
  | .progbufReadable => "progbuf_readable".toList
  | .haltsumGroupsPresent => "haltsum_groups_present".toList
  | .relaxedprivReset => "relaxedpriv_reset".toList
  | .dataaccess => "dataaccess".toList
  | .sbaccessWritable => "sbaccess_writable".toList
  | .sbaccess128 => "sbaccess128".toList
  | .sbaccess64 => "sbaccess64".toList
  | .sbaccess32 => "sbaccess32".toList
  | .sbaccess16 => "sbaccess16".toList
  | .sbaccess8 => "sbaccess8".toList

inductive NumberKey where
  | progbufsize
  | datacount
  | nscratch
  | datasize
  | dataaddr
  | sbversion
  | sbasize
  | sbaccessReset
  | nextdm
  deriving DecidableEq, Repr

def NumberKey.all : List NumberKey :=
  [.progbufsize, .datacount, .nscratch, .datasize, .dataaddr, .sbversion, .sbasize, .sbaccessReset, .nextdm]

def NumberKey.name : NumberKey → List Char
  | .progbufsize => "progbufsize".toList
  | .datacount => "datacount".toList
  | .nscratch => "nscratch".toList
  | .datasize => "datasize".toList
  | .dataaddr => "dataaddr".toList
  | .sbversion => "sbversion".toList
  | .sbasize => "sbasize".toList
  | .sbaccessReset => "sbaccess_reset".toList
  | .nextdm => "nextdm".toList

/-- The width of the field of `dm_cfg_t`. -/
def NumberKey.width : NumberKey → Nat
  | .progbufsize => 5
  | .datacount => 4
  | .nscratch => 4
  | .datasize => 4
  | .dataaddr => 12
  | .sbversion => 3
  | .sbasize => 7
  | .sbaccessReset => 3
  | .nextdm => 32

def versionKey : List Char := "version".toList

def dutKey : List Char := "dut".toList

/-! ## The text -/

/-- A flat JSON object as it is written: white space, items, white space. -/
structure DutDoc where
  lead : Space
  inner : Space
  members : List (Member Scalar)
  trail : Space

namespace DutDoc

/-- `content`: the text of the file. -/
def text (d : DutDoc) : List Char :=
  d.lead.1 ++ (JsonText.objectText d.inner d.members ++ d.trail.1)

/-- No key is given twice. -/
def NoDuplicates (d : DutDoc) : Prop := (d.members.map fun m => JsonText.decode m.key).Nodup

end DutDoc

/-! ## The Python side -/

/-- A text as Python has it. -/
def codes (s : List Char) : List Nat := s.map Char.toNat

/-- `raw[key]`, where `raw` is `json.loads(text)`. -/
def DutDoc.get? (d : DutDoc) (key : List Char) : Option Scalar := JsonText.lookup d.members key

/-- `bool(v)`. -/
def truthy : Scalar → Bool
  | .bool b => b
  | .number _ n => n != 0
  | .string l => !l.isEmpty

/-- The white space that `int` strips. -/
def isPyWhite (c : Char) : Bool :=
  [0x09, 0x0a, 0x0b, 0x0c, 0x0d, 0x1c, 0x1d, 0x1e, 0x1f, 0x20, 0x85, 0xa0, 0x1680, 0x2028, 0x2029, 0x202f, 0x205f,
    0x3000].contains c.toNat || (0x2000 ≤ c.toNat && c.toNat ≤ 0x200a)

/-- Digits in base `b`, with single underscores between them. -/
def underscored (b : Nat) (cs : List Char) : Option Nat :=
  let groups := cs.splitOn '_'
  if groups.all (fun g => g != [] && g.all fun c => JsonText.isHexDigit c && JsonText.digitValue c < b) then
    some (JsonText.readDigits b 0 groups.flatten)
  else none

/-- Digits behind a base prefix, where one underscore may stand first. -/
def prefixed (b : Nat) : List Char → Option Nat
  | '_' :: cs => underscored b cs
  | cs => underscored b cs

/-- A decimal number, without leading zeros unless it is zero. -/
def unprefixed (cs : List Char) : Option Nat :=
  match underscored 10 cs with
  | some n => if cs.head? = some '0' ∧ n ≠ 0 then none else some n
  | none => none

/-- A number as in Python source. -/
def intLiteral (cs : List Char) : Option Nat :=
  match cs with
  | '0' :: c :: ds =>
    if c = 'x' ∨ c = 'X' then prefixed 16 ds
    else if c = 'o' ∨ c = 'O' then prefixed 8 ds
    else if c = 'b' ∨ c = 'B' then prefixed 2 ds
    else unprefixed cs
  | _ => unprefixed cs

/-- `int(v, 0)` of a text. -/
def intBase0 (s : List Nat) : Option Int :=
  let cs := ((s.map Char.ofNat).dropWhile isPyWhite).rdropWhile isPyWhite
  match cs with
  | '-' :: ds => (intLiteral ds).map fun n : Nat => -(n : Int)
  | '+' :: ds => (intLiteral ds).map Int.ofNat
  | ds => (intLiteral ds).map Int.ofNat

/-- `num`: `int(v, 0)` of a text, `int(v)` of anything else. -/
def num : Scalar → Option Int
  | .string l => intBase0 (JsonText.decode l)
  | .bool b => some (if b then 1 else 0)
  | .number negative n => some (if negative then -(n : Int) else n)

/-- `_VERSION_STRINGS`. -/
def versionOf : Scalar → Option Nat
  | .string l =>
    if JsonText.decode l = codes "0.13".toList then some DMSTATUS_VERSION_0_13
    else if JsonText.decode l = codes "1.0".toList then some DMSTATUS_VERSION_1_0
    else none
  | _ => none

/-- All the values of a table of keys, if there is one for each key. -/
def collect {κ α : Type} (keys : List κ) (f : κ → Option α) (unused : α) : Option (κ → α) :=
  if keys.all (fun k => (f k).isSome) then some fun k => (f k).getD unused else none

/-- What `load_dut_config` and `declared_config` read. -/
structure Declaration where
  version : Nat
  flags : FlagKey → Bool
  numbers : NumberKey → Int

/-- `load_dut_config(...)`, with what `declared_config` takes from `raw`. -/
def loadDutConfig (d : DutDoc) : Option Declaration := do
  let version ← (d.get? versionKey).bind versionOf
  let _ ← d.get? dutKey
  let flags ← collect FlagKey.all (fun k => (d.get? k.name).map truthy) false
  let numbers ← collect NumberKey.all (fun k => (d.get? k.name).bind num) 0
  pure ⟨version, flags, numbers⟩

/-- `declared_config(num_harts)`. -/
def Declaration.declaredConfig (d : Declaration) (numHarts : Nat) : DeclaredConfig where
  sbaEnable := d.flags .sbaEnable
  abstractautoEnable := d.flags .abstractautoEnable
  hartarrayEnable := d.flags .hartarrayEnable
  authenticationEnable := d.flags .authenticationEnable
  haltgroupsEnable := d.flags .haltgroupsEnable
  progbufReadable := d.flags .progbufReadable
  haltsumGroupsPresent := d.flags .haltsumGroupsPresent
  numHarts := numHarts
  version := d.version
  authenticated := d.flags .authenticated
  impebreak := d.flags .impebreak
  hasresethaltreq := d.flags .hasresethaltreq
  stickyunavail := d.flags .stickyunavail
  haveresetPoweron := d.flags .haveresetPoweron
  supportsHartreset := d.flags .supportsHartreset
  supportsHasel := d.flags .supportsHasel
  resumeackReset := d.flags .resumeackReset
  progbufsize := (d.numbers .progbufsize).toNat
  datacount := (d.numbers .datacount).toNat
  relaxedprivReset := d.flags .relaxedprivReset
  nscratch := (d.numbers .nscratch).toNat
  dataaccess := d.flags .dataaccess
  datasize := (d.numbers .datasize).toNat
  dataaddr := (d.numbers .dataaddr).toNat
  sbversion := (d.numbers .sbversion).toNat
  sbasize := (d.numbers .sbasize).toNat
  sbaccessReset := (d.numbers .sbaccessReset).toNat
  sbaccessWritable := d.flags .sbaccessWritable
  sbaccess128 := d.flags .sbaccess128
  sbaccess64 := d.flags .sbaccess64
  sbaccess32 := d.flags .sbaccess32
  sbaccess16 := d.flags .sbaccess16
  sbaccess8 := d.flags .sbaccess8
  nextdm := (d.numbers .nextdm).toNat

/-- The values fit the fields of `dm_cfg_t`. -/
def Declaration.Fits (d : Declaration) (numHarts : Nat) : Prop :=
  numHarts < 2 ^ 32 ∧ ∀ k : NumberKey, 0 ≤ d.numbers k ∧ d.numbers k < 2 ^ k.width

/-! ## The SystemVerilog side -/

/-- A blank or a tab. -/
def isBlank (c : Char) : Bool := c == ' ' || c == JsonText.tab

/-- The characters at which a value ends. -/
def endsValue (c : Char) : Bool := c == ',' || c == JsonText.closeBrace || c == JsonText.newline

/-- The value text that starts here: blanks before and behind it do not count. -/
def cutValue (s : List Char) : List Char := ((s.dropWhile isBlank).takeWhile (!endsValue ·)).rdropWhile isBlank

/-- `raw_value`.  If no colon follows the key, the index of the colon is -1 and the value is taken from the
start of the text. -/
def rawValue (content key : List Char) : Option (List Char) :=
  match Text.after (JsonText.quoted key) content with
  | none => none
  | some rest => some (cutValue ((Text.after [':'] rest).getD content))

/-- `atoi`: the leading digits and underscores, as a 32-bit number. -/
def atoi (v : List Char) : BitVec 32 :=
  .ofNat 32 (JsonText.readDigits 10 0 ((v.takeWhile fun c => c.isDigit || c == '_').filter Char.isDigit))

/-- The leading hexadecimal digits, as a 32-bit number. -/
def atohexDigits (v : List Char) : BitVec 32 := .ofNat 32 (JsonText.readDigits 16 0 (v.takeWhile JsonText.isHexDigit))

/-- The text has the form `0x…`. -/
def isHexText (v : List Char) : Bool :=
  match v with
  | '0' :: c :: _ :: _ => c == 'x' || c == 'X'
  | _ => false

/-- The text without its first and last character, if a quote comes first. -/
def stripQuotes (v : List Char) : List Char :=
  if 2 ≤ v.length ∧ v.head? = some JsonText.quote then v.tail.dropLast else v

/-- What `get_int` makes of a value text. -/
def intValue (v : List Char) : BitVec 32 :=
  if isHexText (stripQuotes v) then atohexDigits ((stripQuotes v).drop 2) else atoi (stripQuotes v)

/-- `get_int`. -/
def getInt (content key : List Char) : Option (BitVec 32) := (rawValue content key).map intValue

/-- `get_bool`. -/
def getBool (content key : List Char) : Option Bool :=
  (rawValue content key).bind fun v =>
    if v = "true".toList then some true else if v = "false".toList then some false else none

/-- `get_string`. -/
def getString (content key : List Char) : Option (List Char) :=
  (rawValue content key).bind fun v =>
    if 2 ≤ v.length ∧ v.head? = some JsonText.quote ∧ v.getLast? = some JsonText.quote then some v.tail.dropLast
    else none

/-- `get_version`. -/
def getVersion (content : List Char) : Option (BitVec 4) :=
  (getString content versionKey).bind fun v =>
    if v = "0.13".toList then some 2 else if v = "1.0".toList then some 3 else none

/-- `read_cfg`. -/
def readCfg (content : List Char) (nharts : BitVec 32) : Option DmCfg := do
  let version ← getVersion content
  let flags ← collect FlagKey.all (fun k => getBool content k.name) false
  let numbers ← collect NumberKey.all (fun k => getInt content k.name) 0
  pure
    { numHarts := nharts
      version := version
      authenticated := flags .authenticated
      impebreak := flags .impebreak
      hasresethaltreq := flags .hasresethaltreq
      stickyunavail := flags .stickyunavail
      haveresetPoweron := flags .haveresetPoweron
      supportsHartreset := flags .supportsHartreset
      supportsHasel := flags .supportsHasel
      resumeackReset := flags .resumeackReset
      sbaEnable := flags .sbaEnable
      abstractautoEnable := flags .abstractautoEnable
      hartarrayEnable := flags .hartarrayEnable
      authenticationEnable := flags .authenticationEnable
      haltgroupsEnable := flags .haltgroupsEnable
      progbufReadable := flags .progbufReadable
      haltsumGroupsPresent := flags .haltsumGroupsPresent
      progbufsize := (numbers .progbufsize).setWidth 5
      datacount := (numbers .datacount).setWidth 4
      relaxedprivReset := flags .relaxedprivReset
      nscratch := (numbers .nscratch).setWidth 4
      dataaccess := flags .dataaccess
      datasize := (numbers .datasize).setWidth 4
      dataaddr := (numbers .dataaddr).setWidth 12
      sbversion := (numbers .sbversion).setWidth 3
      sbasize := (numbers .sbasize).setWidth 7
      sbaccessReset := (numbers .sbaccessReset).extractLsb' 0 3
      sbaccessWritable := flags .sbaccessWritable
      sbaccess128 := flags .sbaccess128
      sbaccess64 := flags .sbaccess64
      sbaccess32 := flags .sbaccess32
      sbaccess16 := flags .sbaccess16
      sbaccess8 := flags .sbaccess8
      nextdm := numbers .nextdm }

end RiscvDbg
