import Mathlib.Tactic.IntervalCases
import RiscvDbg.Bridge.Pairing

/-!
# The arguments of a request

How the integer arguments of an operation reach the sequences of `py_bridge.sv`: written by `json.dumps`,
read by `json_get_int`, packed into `g_req_addr` and `g_req_data` by `handle_request`, unpacked by `serve`.

* `Command`, `unpack` — what `serve` starts for a request.
* `Operation.command` — the operation with its arguments masked to the widths of the fields.
* `Operation.Bridged` — the operations in question, with arguments they accept.
* `jsonGetInt_arg` — an argument is read back, as far as it fits into a `long long`.
* `Operation.Survives` — the arguments that survive: all but the sum of a `tms_walk` beyond a `long long`.
* `unpack_request` — **the simulator is given the operation and its masked arguments.**
-/

set_option autoImplicit false

namespace RiscvDbg

open Text

/-! ## What `serve` unpacks -/

/-- The sequences of `serve`, with the fields it sets. -/
inductive Command where
  | dmiRead (addr : BitVec 7)
  | dmiWrite (addr : BitVec 7) (data : BitVec 32)
  | tapReset
  | shutdown (failed : BitVec 32)
  | log (verbosity : BitVec 32) (text : List Char)
  | dtmcs (wdata : BitVec 32)
  | dmiScan (op : BitVec 2) (addr : BitVec 7) (data : BitVec 32)
  | jtagScan (ir : BitVec 5) (drLen : BitVec 6) (pause : BitVec 1) (wdata : BitVec 32)
  | tmsWalk (count bits : BitVec 32)
  | simTime
  deriving DecidableEq, Repr

/-- The dispatch of `serve`. -/
def unpack (r : Request) : Command :=
  match r.op with
  | .read => .dmiRead (r.addr.extractLsb' 0 7)
  | .write => .dmiWrite (r.addr.extractLsb' 0 7) r.data
  | .reset => .tapReset
  | .shutdown => .shutdown r.data
  | .log => .log r.data r.text
  | .dtmcs => .dtmcs r.data
  | .dmiScan => .dmiScan (r.addr.extractLsb' 7 2) (r.addr.extractLsb' 0 7) r.data
  | .jtagScan => .jtagScan (r.addr.extractLsb' 0 5) (r.addr.extractLsb' 5 6) (r.addr.extractLsb' 11 1) r.data
  | .tmsWalk => .tmsWalk r.addr r.data
  | .simTime => .simTime

/-- An operation with its arguments masked to their fields. -/
def Operation.command : Operation → Option Command
  | .read addr => some (.dmiRead (BitVec.ofInt 7 addr))
  | .write addr data => some (.dmiWrite (BitVec.ofInt 7 addr) (BitVec.ofInt 32 data))
  | .dtmcs wdata => some (.dtmcs (BitVec.ofInt 32 wdata))
  | .dmiScan op addr data => some (.dmiScan (BitVec.ofInt 2 op) (BitVec.ofInt 7 addr) (BitVec.ofInt 32 data))
  | .jtagScan ir drLen data pause =>
    some (.jtagScan (BitVec.ofInt 5 ir) (BitVec.ofInt 6 drLen) (BitVec.ofBool pause) (BitVec.ofInt 32 data))
  | .tmsWalk tms => some (.tmsWalk (BitVec.ofNat 32 tms.length) (BitVec.ofInt 32 (tmsBits tms)))
  | .reset => some .tapReset
  | .simTime => some .simTime
  | .emitLog _ _ => none

/-- An integer of magnitude below 2^63. -/
def IntArg (n : Int) : Prop := -2 ^ 63 < n ∧ n < 2 ^ 63

instance instDecidableIntArg (n : Int) : Decidable (IntArg n) :=
  inferInstanceAs (Decidable (-2 ^ 63 < n ∧ n < 2 ^ 63))

/-- The operations other than `emit_log`, with arguments they accept. -/
def Operation.Bridged : Operation → Prop
  | .read addr => IntArg addr
  | .write addr data => IntArg addr ∧ IntArg data
  | .dtmcs wdata => IntArg wdata
  | .dmiScan op addr data => IntArg op ∧ IntArg addr ∧ IntArg data
  | .jtagScan ir drLen data _ => IntArg ir ∧ (1 ≤ drLen ∧ drLen ≤ 32) ∧ IntArg data
  | .tmsWalk tms => (1 ≤ tms.length ∧ tms.length ≤ 32) ∧ ∀ b ∈ tms, IntArg b
  | .reset | .simTime => True
  | .emitLog _ _ => False

/-- The values of a `tms_walk`, shifted and added, are in the range of `long long`, or its nearest end has the
same low word.  The other operations mask what they send. -/
def Operation.Survives : Operation → Prop
  | .tmsWalk tms =>
    (-2 ^ 63 ≤ tmsBits tms ∧ tmsBits tms < 2 ^ 63) ∨ (2 ^ 63 ≤ tmsBits tms ∧ tmsBits tms % 2 ^ 32 = 2 ^ 32 - 1) ∨
      (tmsBits tms < -2 ^ 63 ∧ tmsBits tms % 2 ^ 32 = 0)
  | _ => True

instance instDecidableBridged : ∀ op : Operation, Decidable op.Bridged
  | .read addr => inferInstanceAs (Decidable (IntArg addr))
  | .write addr data => inferInstanceAs (Decidable (IntArg addr ∧ IntArg data))
  | .dtmcs wdata => inferInstanceAs (Decidable (IntArg wdata))
  | .dmiScan op addr data => inferInstanceAs (Decidable (IntArg op ∧ IntArg addr ∧ IntArg data))
  | .jtagScan ir drLen data _ => inferInstanceAs (Decidable (IntArg ir ∧ (1 ≤ drLen ∧ drLen ≤ 32) ∧ IntArg data))
  | .tmsWalk tms => inferInstanceAs (Decidable ((1 ≤ tms.length ∧ tms.length ≤ 32) ∧ ∀ b ∈ tms, IntArg b))
  | .reset | .simTime => inferInstanceAs (Decidable True)
  | .emitLog _ _ => inferInstanceAs (Decidable False)

instance instDecidableSurvives : ∀ op : Operation, Decidable op.Survives
  | .tmsWalk tms => inferInstanceAs (Decidable ((-2 ^ 63 ≤ tmsBits tms ∧ tmsBits tms < 2 ^ 63) ∨
      (2 ^ 63 ≤ tmsBits tms ∧ tmsBits tms % 2 ^ 32 = 2 ^ 32 - 1) ∨
      (tmsBits tms < -2 ^ 63 ∧ tmsBits tms % 2 ^ 32 = 0)))
  | .read _ | .write _ _ | .dtmcs _ | .dmiScan _ _ _ | .jtagScan _ _ _ _ | .reset | .simTime | .emitLog _ _ =>
    inferInstanceAs (Decidable True)

/-! ## Reading a number back -/

/-- `strtoll` of a number of either sign that something else follows. -/
theorem strtoll_decimal_int (n : Int) {c : Char} (hc : c.isDigit = false) (t : List Char) :
    strtoll (decimal n ++ c :: t) = clampLongLong n := by
  by_cases hn : n < 0
  · have hdigits : ∀ d ∈ Nat.toDigits 10 n.natAbs, d.isDigit = true := fun d hd =>
      Nat.isDigit_of_mem_toDigits (by omega) (by omega) hd
    have htake : (Nat.toDigits 10 n.natAbs ++ c :: t).takeWhile Char.isDigit = Nat.toDigits 10 n.natAbs := by
      rw [List.takeWhile_append_of_pos hdigits,
        List.takeWhile_cons_of_neg (by rw [hc]; exact Bool.false_ne_true), List.append_nil]
    have hread : strtoll ('-' :: (Nat.toDigits 10 n.natAbs ++ c :: t)) =
        strtollDigits true (Nat.toDigits 10 n.natAbs ++ c :: t) := rfl
    rw [decimal, if_pos hn, List.cons_append, hread, strtollDigits, htake, Nat.ofDigitChars_ten_toDigits, if_pos rfl]
    congr 1
    omega
  · obtain ⟨m, rfl⟩ := Int.eq_ofNat_of_zero_le (Int.not_lt.mp hn)
    exact strtoll_decimal m hc t

theorem skipColon_decimal (n : Int) (t : List Char) : skipColon ([':', ' '] ++ (decimal n ++ t)) = skipColon (decimal n ++ t) := rfl

theorem skipColon_decimal_self (n : Int) {c : Char} (hc : (c == ':' || c == ' ') = false) (t : List Char) :
    skipColon (decimal n ++ c :: t) = decimal n ++ c :: t := by
  cases hl : decimal n with
  | nil => rw [List.nil_append, skipColon, List.dropWhile_cons_of_neg (by rw [hc]; exact Bool.false_ne_true)]
  | cons d ds =>
    have hd : (d == ':' || d == ' ') = false := by
      rw [Bool.or_eq_false_iff, beq_eq_false_iff_ne, beq_eq_false_iff_ne]
      have hmem : d ∈ decimal n := by rw [hl]; exact List.mem_cons_self
      exact ⟨fun h => not_mem_decimal (by decide) (by decide) n (h ▸ hmem),
        fun h => not_mem_decimal (by decide) (by decide) n (h ▸ hmem)⟩
    rw [List.cons_append, skipColon, List.dropWhile_cons_of_neg (by rw [hd]; exact Bool.false_ne_true)]

/-! ## Finding an argument -/

/-- The search for a key goes past a number under another key. -/
theorem after_number {k k' : JsonKey} (hne : k' ≠ k) (n : Int) (t : List Char) :
    after (quoted k.name) (dumpsItem (k', .int n) ++ [',', ' '] ++ t) = after (quoted k.name) t := by
  have hkey : ∀ u, after (quoted k.name) (quoted k'.name ++ [':', ' '] ++ u) = after (quoted k.name) u := by
    intro u
    cases k <;> cases k' <;> first | rfl | exact absurd rfl hne
  have hnum : Skips (quoted k.name) (decimal n ++ [',', ' ']) := by
    apply skips_of_not_mem
    simp only [List.mem_append, List.mem_cons, List.not_mem_nil, or_false, not_or]
    exact ⟨not_mem_decimal (by decide) (by decide) n, by decide, by decide⟩
  have hshape : dumpsItem (k', .int n) ++ [',', ' '] ++ t =
      quoted k'.name ++ [':', ' '] ++ ((decimal n ++ [',', ' ']) ++ t) := by
    simp [dumpsItem, JsonValue.dumps]
  rw [hshape, hkey, hnum]

/-- The search for a key goes past the name of the operation. -/
theorem after_op {k : JsonKey} (hne : k ≠ .op) (op : ReqOp) (t : List Char) :
    after (quoted k.name) (openBrace :: (dumpsItem (.op, .str (op.name.map Char.toNat)) ++ [',', ' '] ++ t)) =
      after (quoted k.name) t := by
  cases k <;> cases op <;> first | rfl | exact absurd rfl hne

/-- The arguments before one under the key `k`. -/
def NumbersBefore (k : JsonKey) (pre : List (JsonKey × JsonValue)) : Prop :=
  ∀ f ∈ pre, f.1 ≠ k ∧ ∃ n, f.2 = .int n

theorem after_numbers {k : JsonKey} {pre : List (JsonKey × JsonValue)} (h : NumbersBefore k pre) (t : List Char) :
    after (quoted k.name) (itemsText pre ++ t) = after (quoted k.name) t := by
  induction pre with
  | nil => rfl
  | cons f pre ih =>
    obtain ⟨k', v⟩ := f
    obtain ⟨hne, n, rfl⟩ := h _ List.mem_cons_self
    have hshape : itemsText ((k', .int n) :: pre) ++ t =
        dumpsItem (k', .int n) ++ [',', ' '] ++ (itemsText pre ++ t) := by
      simp [itemsText]
    rw [hshape, after_number hne, ih fun f hf => h f (List.mem_cons_of_mem _ hf)]

/-- **An argument is read back**, as far as it fits into a `long long`. -/
theorem jsonGetInt_arg {p : Payload} {k : JsonKey} {n : Int} {pre post : List (JsonKey × JsonValue)}
    (hargs : p.args = pre ++ (k, .int n) :: post) (hpre : NumbersBefore k pre) (hk : k ≠ .op) (id : Nat)
    (before : Int) : jsonGetInt (p.body id) k before = clampLongLong n := by
  have hbody : ∃ t, p.body id = openBrace :: (dumpsItem (.op, .str (p.op.name.map Char.toNat)) ++ [',', ' '] ++
      (itemsText pre ++ (quoted k.name ++ ([':', ' '] ++ (decimal n ++ ',' :: t))))) := by
    refine ⟨' ' :: (itemsText post ++
      (quoted JsonKey.id.name ++ ([':', ' '] ++ decimal id ++ [closeBrace]))), ?_⟩
    rw [body_eq, Payload.items, hargs]
    simp [itemsText, dumpsItem, JsonValue.dumps]
  obtain ⟨t, ht⟩ := hbody
  have hfind : strstrKey (p.body id) k = some ([':', ' '] ++ (decimal n ++ ',' :: t)) := by
    rw [strstrKey, ht, after_op hk, after_numbers hpre]
    exact after_pattern (List.cons_ne_nil _ _) _
  rw [jsonGetInt, hfind]
  dsimp only
  rw [skipColon_decimal, skipColon_decimal_self n (by decide)]
  exact strtoll_decimal_int n (by decide) t

/-- The arguments of a request are a few numbers, none under the key of the id and none very long. -/
structure Payload.Numeric (p : Payload) : Prop where
  few : p.args.length ≤ 4
  numbers : ∀ f ∈ p.args, f.1 ≠ .id ∧ ∃ n, f.2 = .int n ∧ n.natAbs < 10 ^ 40

/-- A number among the arguments is read back under its key. -/
theorem jsonGetInt_lookup {p : Payload} (hp : p.Numeric) {k : JsonKey} {n : Int}
    (hlookup : p.args.lookup k = some (.int n)) (hk : k ≠ .op) (id : Nat) (before : Int) :
    jsonGetInt (p.body id) k before = clampLongLong n := by
  obtain ⟨pre, post, hargs, hfirst⟩ := List.lookup_eq_some_iff.mp hlookup
  refine jsonGetInt_arg hargs (fun f hf => ?_) hk id before
  have hne : (k == f.1) = false := by simpa using hfirst f hf
  obtain ⟨n, hn, _⟩ := (hp.numbers f (by rw [hargs]; exact List.mem_append_left _ hf)).2
  exact ⟨fun h => by simp [h] at hne, n, hn⟩

/-! ## Words and their fields -/

/-- A masked number, zero-extended. -/
theorem ofInt_emod {w k : Nat} (h : w ≤ k) (n : Int) :
    BitVec.ofInt k (n % 2 ^ w) = (BitVec.ofInt w n).setWidth k := by
  have hpos : (0 : Int) < 2 ^ w := by exact_mod_cast Nat.two_pow_pos w
  have hlo := Int.emod_nonneg n (Int.ne_of_gt hpos)
  have hhi := Int.emod_lt_of_pos n hpos
  have hle : (2 : Int) ^ w ≤ 2 ^ k := by exact_mod_cast Nat.pow_le_pow_right (by decide) h
  apply BitVec.eq_of_toNat_eq
  rw [BitVec.toNat_setWidth, BitVec.toNat_ofInt, BitVec.toNat_ofInt]
  push_cast
  rw [Int.emod_eq_of_lt hlo (Int.lt_of_lt_of_le hhi hle), Nat.mod_eq_of_lt]
  have hlt : ((n % 2 ^ w).toNat : Int) < 2 ^ k := by
    rw [Int.toNat_of_nonneg hlo]
    exact Int.lt_of_lt_of_le hhi hle
  exact_mod_cast hlt

theorem extractLsb'_ofInt {k : Nat} (h : k ≤ 32) (n : Int) :
    (BitVec.ofInt 32 n).extractLsb' 0 k = BitVec.ofInt k n := by
  apply BitVec.eq_of_toNat_eq
  rw [BitVec.extractLsb'_toNat, BitVec.toNat_ofInt, BitVec.toNat_ofInt, Nat.shiftRight_zero]
  have hdvd : (2 ^ k : Int) ∣ 2 ^ 32 := by exact_mod_cast Nat.pow_dvd_pow 2 h
  have hpos : (0 : Int) ≤ n % 2 ^ 32 := Int.emod_nonneg n (by decide)
  have hk : ((2 ^ k : Nat) : Int) = 2 ^ k := Int.natCast_pow 2 k
  have h32 : ((2 ^ 32 : Nat) : Int) = 2 ^ 32 := rfl
  rw [hk, h32, ← Int.emod_emod_of_dvd n hdvd]
  obtain ⟨m, hm⟩ := Int.eq_ofNat_of_zero_le hpos
  rw [hm, ← hk]
  exact (Int.toNat_natCast _).symm

theorem ofInt_congr {a b : Int} (h : a % 2 ^ 32 = b % 2 ^ 32) : BitVec.ofInt 32 a = BitVec.ofInt 32 b := by
  apply BitVec.eq_of_toNat_eq
  rw [BitVec.toNat_ofInt, BitVec.toNat_ofInt]
  exact congrArg Int.toNat h

/-- The fields of a packed `dmi_scan`. -/
theorem extract_dmiScan (addr : BitVec 7) (op : BitVec 2) :
    ((addr.setWidth 32 &&& 0x7F) ||| ((op.setWidth 32 &&& 3) <<< 7)).extractLsb' 0 7 = addr ∧
      ((addr.setWidth 32 &&& 0x7F) ||| ((op.setWidth 32 &&& 3) <<< 7)).extractLsb' 7 2 = op := by
  constructor
  · ext i hi
    interval_cases i <;> simp
  · ext i hi
    interval_cases i <;> simp

/-- The fields of a packed `jtag_scan`. -/
theorem extract_jtagScan (ir : BitVec 5) (drLen : BitVec 6) (pause : BitVec 1) :
    let packed := (ir.setWidth 32 &&& 0x1F) ||| ((drLen.setWidth 32 &&& 0x3F) <<< 5) |||
      ((pause.setWidth 32 &&& 1) <<< 11)
    packed.extractLsb' 0 5 = ir ∧ packed.extractLsb' 5 6 = drLen ∧ packed.extractLsb' 11 1 = pause := by
  refine ⟨?_, ?_, ?_⟩
  · ext i hi
    interval_cases i <;> simp
  · ext i hi
    interval_cases i <;> simp
  · ext i hi
    interval_cases i
    simp

/-! ## Requests -/

theorem clampLongLong_of_range {n : Int} (hlo : -2 ^ 63 ≤ n) (hhi : n < 2 ^ 63) : clampLongLong n = n := by
  unfold clampLongLong
  omega

theorem clampLongLong_emod {w : Nat} (hw : w ≤ 32) (n : Int) : clampLongLong (n % 2 ^ w) = n % 2 ^ w := by
  have hpos : (0 : Int) < 2 ^ w := by exact_mod_cast Nat.two_pow_pos w
  have hlo := Int.emod_nonneg n (Int.ne_of_gt hpos)
  have hhi := Int.emod_lt_of_pos n hpos
  have hle : (2 : Int) ^ w ≤ 2 ^ 32 := by exact_mod_cast Nat.pow_le_pow_right (by decide) hw
  exact clampLongLong_of_range (by omega) (by omega)

/-- The sum of a `tms_walk` that survives keeps its low word. -/
theorem clampLongLong_survives {tms : List Int} (h : (Operation.tmsWalk tms).Survives) :
    BitVec.ofInt 32 (clampLongLong (tmsBits tms)) = BitVec.ofInt 32 (tmsBits tms) := by
  apply ofInt_congr
  unfold clampLongLong
  rcases h with ⟨hlo, hhi⟩ | ⟨hge, hmod⟩ | ⟨hlt, hmod⟩
  · congr 1
    omega
  · omega
  · omega

theorem ofInt_emod_self (n : Int) : BitVec.ofInt 32 (n % 2 ^ 32) = BitVec.ofInt 32 n :=
  ofInt_congr (Int.emod_emod_of_dvd n (Int.dvd_refl _))

section
variable {line : List Char}

theorem unpack_read {addr : Int} (haddr : jsonGetInt line .addr (-1) = addr) :
    unpack (request line .read) = .dmiRead (BitVec.ofInt 7 addr) := by
  rw [← extractLsb'_ofInt (by decide), ← haddr]
  rfl

theorem unpack_write {addr data : Int} (haddr : jsonGetInt line .addr (-1) = addr)
    (hdata : jsonGetInt line .data 0 = data) :
    unpack (request line .write) = .dmiWrite (BitVec.ofInt 7 addr) (BitVec.ofInt 32 data) := by
  rw [← extractLsb'_ofInt (by decide), ← haddr, ← hdata]
  rfl

theorem unpack_dtmcs {wdata : Int} (hdata : jsonGetInt line .data 0 = wdata % 2 ^ 32) :
    unpack (request line .dtmcs) = .dtmcs (BitVec.ofInt 32 wdata) := by
  rw [← ofInt_emod_self, ← hdata]
  rfl

theorem unpack_dmiScan {op addr data : Int} (hop : jsonGetInt line .dmiop 0 = op % 2 ^ 2)
    (haddr : jsonGetInt line .addr (-1) = addr % 2 ^ 7) (hdata : jsonGetInt line .data 0 = data % 2 ^ 32) :
    unpack (request line .dmiScan) =
      .dmiScan (BitVec.ofInt 2 op) (BitVec.ofInt 7 addr) (BitVec.ofInt 32 data) := by
  obtain ⟨haddrf, hopf⟩ := extract_dmiScan (BitVec.ofInt 7 addr) (BitVec.ofInt 2 op)
  rw [← ofInt_emod (by decide), ← ofInt_emod (by decide), ← haddr, ← hop] at haddrf hopf
  rw [← ofInt_emod_self data, ← hdata, ← haddrf, ← hopf]
  rfl

theorem unpack_jtagScan {ir drLen data : Int} {pause : Bool} (hir : jsonGetInt line .ir 0 = ir % 2 ^ 5)
    (hrange : 1 ≤ drLen ∧ drLen ≤ 32) (hlen : jsonGetInt line .drlen 0 = drLen)
    (hpause : jsonGetInt line .pause 0 = pause.toNat) (hdata : jsonGetInt line .data 0 = data % 2 ^ 32) :
    unpack (request line .jtagScan) =
      .jtagScan (BitVec.ofInt 5 ir) (BitVec.ofInt 6 drLen) (BitVec.ofBool pause) (BitVec.ofInt 32 data) := by
  subst hlen
  have hlen6 : (BitVec.ofInt 6 (jsonGetInt line .drlen 0)).setWidth 32 =
      BitVec.ofInt 32 (jsonGetInt line .drlen 0) := by
    rw [← ofInt_emod (by decide), Int.emod_eq_of_lt (by omega) (by omega)]
  have hpause1 : (BitVec.ofBool pause).setWidth 32 = BitVec.ofInt 32 pause.toNat := by
    cases pause <;> rfl
  obtain ⟨hirf, hlenf, hpausef⟩ :=
    extract_jtagScan (BitVec.ofInt 5 ir) (BitVec.ofInt 6 (jsonGetInt line .drlen 0)) (BitVec.ofBool pause)
  rw [← ofInt_emod (by decide), hlen6, hpause1, ← hir, ← hpause] at hirf hlenf hpausef
  rw [← ofInt_emod_self data, ← hdata, ← hirf, ← hlenf, ← hpausef]
  rfl

/-- The count of a walk is within its six bits. -/
theorem ofInt_count {n : Nat} (h : n ≤ 32) : BitVec.ofInt 32 n &&& 0x3F = BitVec.ofNat 32 n := by
  interval_cases n <;> rfl

theorem unpack_tmsWalk {tms : List Int} (hs : (Operation.tmsWalk tms).Survives) (hlen : tms.length ≤ 32)
    (hcount : jsonGetInt line .addr (-1) = tms.length)
    (hbits : jsonGetInt line .data 0 = clampLongLong (tmsBits tms)) :
    unpack (request line .tmsWalk) = .tmsWalk (BitVec.ofNat 32 tms.length) (BitVec.ofInt 32 (tmsBits tms)) := by
  rw [← clampLongLong_survives hs, ← hbits, ← ofInt_count hlen, ← hcount]
  rfl

end

theorem IntArg.clampLongLong_eq {n : Int} (h : IntArg n) : clampLongLong n = n :=
  clampLongLong_of_range (Int.le_of_lt h.1) h.2

/-- The sum of a `tms_walk` is not very long. -/
theorem natAbs_tmsBits_le (tms : List Int) (h : ∀ b ∈ tms, IntArg b) :
    (tmsBits tms).natAbs + 2 ^ 63 ≤ 2 ^ 63 * 2 ^ tms.length := by
  induction tms with
  | nil => exact Nat.le_refl _
  | cons b tms ih =>
    have hb := h b List.mem_cons_self
    have htms := ih fun b hb => h b (List.mem_cons_of_mem _ hb)
    rw [tmsBits, List.length_cons, Nat.pow_succ]
    unfold IntArg at hb
    omega

theorem natAbs_emod_lt {w : Nat} (hw : w ≤ 32) (n : Int) : (n % 2 ^ w).natAbs < 10 ^ 40 := by
  have hpos : (0 : Int) < 2 ^ w := by exact_mod_cast Nat.two_pow_pos w
  have hlo := Int.emod_nonneg n (Int.ne_of_gt hpos)
  have hhi := Int.emod_lt_of_pos n hpos
  have hle : (2 : Int) ^ w ≤ 2 ^ 32 := by exact_mod_cast Nat.pow_le_pow_right (by decide) hw
  omega

theorem IntArg.natAbs_lt {n : Int} (h : IntArg n) : n.natAbs < 10 ^ 40 := by
  unfold IntArg at h
  omega

/-- The arguments of the operations are numbers. -/
theorem payloads_numeric {op : Operation} (hb : op.Bridged) : ∀ p ∈ op.payloads, p.Numeric := by
  intro p hp
  cases op with
  | read addr =>
    rw [List.mem_singleton.mp hp]
    exact ⟨by simp, by simpa using IntArg.natAbs_lt hb⟩
  | write addr data =>
    rw [List.mem_singleton.mp hp]
    exact ⟨by simp, by simpa using ⟨hb.1.natAbs_lt, hb.2.natAbs_lt⟩⟩
  | reset =>
    rw [List.mem_singleton.mp hp]
    exact ⟨by simp, by simp⟩
  | dtmcs wdata =>
    rw [List.mem_singleton.mp hp]
    have hdata : (wdata % 2 ^ 32).natAbs < 10 ^ 40 := natAbs_emod_lt (by decide) wdata
    exact ⟨by simp, by simpa using hdata⟩
  | dmiScan op addr data =>
    rw [List.mem_singleton.mp hp]
    have hop : (op % 2 ^ 2).natAbs < 10 ^ 40 := natAbs_emod_lt (by decide) op
    have haddr : (addr % 2 ^ 7).natAbs < 10 ^ 40 := natAbs_emod_lt (by decide) addr
    have hdata : (data % 2 ^ 32).natAbs < 10 ^ 40 := natAbs_emod_lt (by decide) data
    exact ⟨by simp, by simpa using ⟨hop, haddr, hdata⟩⟩
  | jtagScan ir drLen data pause =>
    rw [Operation.payloads, if_pos hb.2.1] at hp
    rw [List.mem_singleton.mp hp]
    have hlen : drLen.natAbs < 10 ^ 40 := by
      have := hb.2.1
      omega
    have hir : (ir % 2 ^ 5).natAbs < 10 ^ 40 := natAbs_emod_lt (by decide) ir
    have hpause : (pause.toNat : Int).natAbs < 10 ^ 40 := by cases pause <;> decide
    have hdata : (data % 2 ^ 32).natAbs < 10 ^ 40 := natAbs_emod_lt (by decide) data
    exact ⟨by simp, by simpa using ⟨hir, hlen, hpause, hdata⟩⟩
  | simTime =>
    rw [List.mem_singleton.mp hp]
    exact ⟨by simp, by simp⟩
  | tmsWalk tms =>
    rw [Operation.payloads, if_pos hb.1] at hp
    rw [List.mem_singleton.mp hp]
    have hlen : tms.length < 10 ^ 40 := by
      have := hb.1
      omega
    have hbits : (tmsBits tms).natAbs < 10 ^ 40 := by
      have hsum := natAbs_tmsBits_le tms hb.2
      have hpow : 2 ^ tms.length ≤ 2 ^ 32 := Nat.pow_le_pow_right (by decide) hb.1.2
      omega
    exact ⟨by simp, by simpa using ⟨hlen, hbits⟩⟩
  | emitLog text verbosity => exact absurd hb id

/-- **The simulator is given the operation and its arguments**, masked to the widths of their fields. -/
theorem unpack_request {op : Operation} (hb : op.Bridged) (hs : op.Survives) :
    ∃ p, op.payloads = [p] ∧ ∀ id, some (unpack (request (p.body id) p.op)) = op.command := by
  have hnumeric := payloads_numeric hb
  cases op with
  | read addr =>
    have hp := hnumeric _ (List.mem_singleton_self _)
    refine ⟨_, rfl, fun id => congrArg some (unpack_read ?_)⟩
    rw [jsonGetInt_lookup hp rfl (by decide), IntArg.clampLongLong_eq hb]
  | write addr data =>
    have hp := hnumeric _ (List.mem_singleton_self _)
    refine ⟨_, rfl, fun id => congrArg some (unpack_write ?_ ?_)⟩
    · rw [jsonGetInt_lookup hp rfl (by decide), hb.1.clampLongLong_eq]
    · rw [jsonGetInt_lookup hp rfl (by decide), hb.2.clampLongLong_eq]
  | reset => exact ⟨_, rfl, fun id => rfl⟩
  | dtmcs wdata =>
    have hp := hnumeric _ (List.mem_singleton_self _)
    refine ⟨_, rfl, fun id => congrArg some (unpack_dtmcs ?_)⟩
    rw [jsonGetInt_lookup hp rfl (by decide), clampLongLong_emod (by decide)]
  | dmiScan op addr data =>
    have hp := hnumeric _ (List.mem_singleton_self _)
    refine ⟨_, rfl, fun id => congrArg some (unpack_dmiScan ?_ ?_ ?_)⟩
    all_goals rw [jsonGetInt_lookup hp rfl (by decide), clampLongLong_emod (by decide)]
  | jtagScan ir drLen data pause =>
    obtain ⟨-, hrange, -⟩ := hb
    rw [Operation.payloads, if_pos hrange] at hnumeric
    have hp := hnumeric _ (List.mem_singleton_self _)
    refine ⟨_, if_pos hrange, fun id => congrArg some (unpack_jtagScan ?_ hrange ?_ ?_ ?_)⟩
    · rw [jsonGetInt_lookup hp rfl (by decide), clampLongLong_emod (by decide)]
    · rw [jsonGetInt_lookup hp rfl (by decide), clampLongLong_of_range (by omega) (by omega)]
    · rw [jsonGetInt_lookup hp rfl (by decide)]
      cases pause <;> rfl
    · rw [jsonGetInt_lookup hp rfl (by decide), clampLongLong_emod (by decide)]
  | simTime => exact ⟨_, rfl, fun id => rfl⟩
  | tmsWalk tms =>
    obtain ⟨hrange, -⟩ := hb
    rw [Operation.payloads, if_pos hrange] at hnumeric
    have hp := hnumeric _ (List.mem_singleton_self _)
    refine ⟨_, if_pos hrange, fun id => congrArg some (unpack_tmsWalk hs hrange.2 ?_ ?_)⟩
    · rw [jsonGetInt_lookup hp rfl (by decide), clampLongLong_of_range (by omega) (by omega)]
    · rw [jsonGetInt_lookup hp rfl (by decide)]
  | emitLog text verbosity => exact absurd hb id

/-! ## The line of a request -/

theorem length_decimal_le {n : Int} (h : n.natAbs < 10 ^ 40) : (decimal n).length ≤ 41 := by
  have hdigits := (Nat.length_toDigits_le_iff (b := 10) (by decide) (by decide)).mpr h
  unfold decimal
  split_ifs
  · rw [List.length_cons]
    omega
  · omega

theorem length_dumpsItem_le {f : JsonKey × JsonValue} {n : Int} (hf : f.2 = .int n) (h : n.natAbs < 10 ^ 40) :
    (dumpsItem f).length ≤ 60 := by
  have hn := length_decimal_le h
  have hkey : (quoted f.1.name).length ≤ 10 := by
    cases f.1 <;> decide
  rw [dumpsItem, hf, JsonValue.dumps, List.length_append, List.length_append]
  simp only [List.length_cons, List.length_nil]
  omega

theorem length_itemsText_le {fields : List (JsonKey × JsonValue)}
    (h : ∀ f ∈ fields, ∃ n, f.2 = .int n ∧ n.natAbs < 10 ^ 40) : (itemsText fields).length ≤ 62 * fields.length := by
  induction fields with
  | nil => exact Nat.le_refl 0
  | cons f fields ih =>
    obtain ⟨n, hf, hn⟩ := h f List.mem_cons_self
    have hitem := length_dumpsItem_le hf hn
    have hrest := ih fun f hf => h f (List.mem_cons_of_mem _ hf)
    rw [itemsText, List.flatMap_cons, List.length_append, List.length_append, List.length_cons]
    simp only [itemsText, List.length_cons, List.length_nil] at *
    omega

/-- **The line of a request fits**, its id is read back, and no argument hides it. -/
theorem Payload.Numeric.clear {p : Payload} (hp : p.Numeric) {id : Nat} (hid : id < 2 ^ 63) : p.Clear id := by
  refine ⟨?_, ?_, hid⟩
  · have hop : (dumpsItem (.op, .str (p.op.name.map Char.toNat))).length ≤ 40 := by
      cases p.op <;> decide
    have hargs := length_itemsText_le fun f hf => (hp.numbers f hf).2
    have hdigits := length_decimal_le (n := id) (by omega)
    have hfew := hp.few
    have hkey : (quoted JsonKey.id.name).length = 4 := rfl
    rw [body_eq, Payload.items, itemsText, List.flatMap_cons]
    simp only [List.length_cons, List.length_append, List.length_nil, hkey]
    rw [itemsText] at hargs
    omega
  · rintro ⟨f, hf, hmask⟩
    obtain ⟨-, n, hn, -⟩ := hp.numbers f hf
    rw [hn] at hmask
    exact hmask

end RiscvDbg
