import Mathlib.Algebra.Group.Int.Defs
import Mathlib.Algebra.Group.Nat.Defs
import RiscvDbg.Lib.Text

/-!
# The text of the bridge protocol

What the two ends of the bridge do with a line of JSON: how `json.dumps` and `str.splitlines` write it
on the Python side (`api/uvm_transport.py`), and how the helpers of `c_bridge/uvm_bridge.c` read it.

* `JsonKey`, `JsonValue`, `dumps` — a flat object of integers and strings, keys in the order of their
  insertion, with everything outside printable ASCII escaped.
* `splitlines` — the lines of a text, without their ends.
* `strstr`, `strtoll`, `jsonGetInt`, `jsonGetStr`, `jsonGetStrEsc` — the C side, which does not parse
  JSON but looks for the first occurrence of a quoted key.

A Python text is a list of code points, a line on the wire a list of ASCII characters; C's terminating
NUL is the end of the list.
-/

set_option autoImplicit false

namespace RiscvDbg

/-! ## Characters with a meaning -/

def quote : Char := Char.ofNat 0x22
def backslash : Char := Char.ofNat 0x5c
def newline : Char := Char.ofNat 0x0a
def openBrace : Char := Char.ofNat 0x7b
def closeBrace : Char := Char.ofNat 0x7d

/-- A text between quotes. -/
def quoted (s : List Char) : List Char := quote :: (s ++ [quote])

/-! ## The Python side -/

/-- The keys of a request. -/
inductive JsonKey where
  | id
  | op
  | addr
  | data
  | dmiop
  | ir
  | drlen
  | pause
  | text
  deriving DecidableEq, Repr

def JsonKey.name : JsonKey → List Char
  | .id => "id".toList
  | .op => "op".toList
  | .addr => "addr".toList
  | .data => "data".toList
  | .dmiop => "dmiop".toList
  | .ir => "ir".toList
  | .drlen => "drlen".toList
  | .pause => "pause".toList
  | .text => "text".toList

/-- A value of a request: an integer, or a text as code points. -/
inductive JsonValue where
  | int (n : Int)
  | str (s : List Nat)
  deriving DecidableEq, Repr

/-- An integer in decimal. -/
def decimal (n : Int) : List Char :=
  if n < 0 then '-' :: Nat.toDigits 10 n.natAbs else Nat.toDigits 10 n.natAbs

/-- `\uXXXX`. -/
def unicodeEscape (n : Nat) : List Char :=
  [backslash, 'u', Nat.digitChar (n / 0x1000 % 16), Nat.digitChar (n / 0x100 % 16),
    Nat.digitChar (n / 0x10 % 16), Nat.digitChar (n % 16)]

/-- A code point in a string written by `json.dumps`; beyond 16 bits, a surrogate pair. -/
def escapeChar (n : Nat) : List Char :=
  if n = 0x22 then [backslash, quote]
  else if n = 0x5c then [backslash, backslash]
  else if n = 0x0a then [backslash, 'n']
  else if n = 0x0d then [backslash, 'r']
  else if n = 0x09 then [backslash, 't']
  else if n = 0x0c then [backslash, 'f']
  else if n = 0x08 then [backslash, 'b']
  else if 0x20 ≤ n ∧ n ≤ 0x7e then [Char.ofNat n]
  else if n < 0x10000 then unicodeEscape n
  else unicodeEscape (0xd800 ||| (((n - 0x10000) >>> 10) &&& 0x3ff)) ++
    unicodeEscape (0xdc00 ||| ((n - 0x10000) &&& 0x3ff))

def escape (s : List Nat) : List Char := s.flatMap escapeChar

def JsonValue.dumps : JsonValue → List Char
  | .int n => decimal n
  | .str s => quoted (escape s)

/-- One item of an object. -/
def dumpsItem (f : JsonKey × JsonValue) : List Char := quoted f.1.name ++ [':', ' '] ++ f.2.dumps

/-- `json.dumps` of a flat object. -/
def dumps (fields : List (JsonKey × JsonValue)) : List Char :=
  openBrace :: (List.intercalate [',', ' '] (fields.map dumpsItem) ++ [closeBrace])

/-- The code points at which `str.splitlines` ends a line. -/
def isLineBreak (c : Nat) : Bool :=
  [0x0a, 0x0b, 0x0c, 0x0d, 0x1c, 0x1d, 0x1e, 0x85, 0x2028, 0x2029].contains c

/-- `str.splitlines`, if `cur` is what the line has so far, the last code point first. -/
def splitlinesFrom (cur : List Nat) : List Nat → List (List Nat)
  | [] => if cur = [] then [] else [cur.reverse]
  | 0x0d :: 0x0a :: cs => cur.reverse :: splitlinesFrom [] cs
  | c :: cs => if isLineBreak c then cur.reverse :: splitlinesFrom [] cs else splitlinesFrom (c :: cur) cs

/-- `str.splitlines`. -/
def splitlines (text : List Nat) : List (List Nat) := splitlinesFrom [] text

/-! ## The C side -/

/-- The text after the first occurrence of the quoted key. -/
def strstrKey (json : List Char) (key : JsonKey) : Option (List Char) := Text.after (quoted key.name) json

/-- `while (*p == ':' || *p == ' ') p++`. -/
def skipColon (p : List Char) : List Char := p.dropWhile (fun c => c == ':' || c == ' ')

def isSpace (c : Char) : Bool :=
  c == ' ' || c == Char.ofNat 0x09 || c == newline || c == Char.ofNat 0x0b || c == Char.ofNat 0x0c ||
    c == Char.ofNat 0x0d

/-- The range of `long long`. -/
def clampLongLong (n : Int) : Int := max (-2 ^ 63) (min n (2 ^ 63 - 1))

/-- The digits `strtoll` reads, and what it makes of them: 0 if there are none. -/
def strtollDigits (negative : Bool) (s : List Char) : Int :=
  let value : Int := Nat.ofDigitChars 10 (s.takeWhile Char.isDigit) 0
  clampLongLong (if negative then -value else value)

/-- `strtoll` in base 10. -/
def strtoll (s : List Char) : Int :=
  match s.dropWhile isSpace with
  | '-' :: t => strtollDigits true t
  | '+' :: t => strtollDigits false t
  | t => strtollDigits false t

/-- `json_get_int`, with the value the variable had before: it is overwritten as soon as the key is
found. -/
def jsonGetInt (json : List Char) (key : JsonKey) (before : Int) : Int :=
  match strstrKey json key with
  | none => before
  | some p => strtoll (skipColon p)

/-- `json_get_str` into a buffer of `bufLen`. -/
def jsonGetStr (json : List Char) (key : JsonKey) (bufLen : Nat) : List Char :=
  match strstrKey json key with
  | none => []
  | some p =>
    match skipColon p with
    | [] => []
    | c :: p => if c = quote then (p.takeWhile (· != quote)).take (bufLen - 1) else []

/-- The loop of `json_get_str_esc`, with room for `left` characters. -/
def unescape (left : Nat) : List Char → List Char
  | [] => []
  | c :: p =>
    match left with
    | 0 => []
    | left + 1 =>
      if c = backslash then
        match p with
        | [] => c :: unescape left p
        | e :: p =>
          if e = 'n' then newline :: unescape left p
          else if e = 't' then Char.ofNat 0x09 :: unescape left p
          else if e = 'r' then unescape (left + 1) p
          else e :: unescape left p
      else if c = quote then []
      else c :: unescape left p

/-- `json_get_str_esc` into a buffer of `bufLen`. -/
def jsonGetStrEsc (json : List Char) (key : JsonKey) (bufLen : Nat) : List Char :=
  match strstrKey json key with
  | none => []
  | some p =>
    match skipColon p with
    | [] => []
    | c :: p => if c = quote then unescape (bufLen - 1) p else []

end RiscvDbg
