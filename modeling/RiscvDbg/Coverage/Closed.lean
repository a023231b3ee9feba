import RiscvDbg.Coverage.Bookkeeping

/-!
# The books are closed

Every name a sampling function builds is a declared one, whatever the words and the inferred state.

* `Declares` — a group and a name that some declaration is about.
* `Closed` — the books: the declarations are those of `_build_bins`, every key hit is one of them, and the
  counts are the numbers of hits.
* `hit_closed` — a hit of a declared key keeps the books; the lemmas after it follow the sampling functions.
* `coverage_closed` — **after any sequence of calls the books are closed, and the report splits the bins.**
-/

set_option autoImplicit false

namespace RiscvDbg

open Outcomes

/-! ## Declared books -/

section
variable {β : Type} {k : String}

/-- The keys of a dictionary that the declarations with a key are entered in. -/
theorem mem_foldl_declare (dict : Books → AList (fun _ : String => β)) (key? : BinDeclaration → Option String)
    (hdict : ∀ b d, k ∈ dict (b.declare d) ↔ key? d = some k ∨ k ∈ dict b) (ds : List BinDeclaration) :
    ∀ b, k ∈ dict (ds.foldl Books.declare b) ↔ k ∈ ds.filterMap key? ∨ k ∈ dict b := by
  induction ds with
  | nil => intro b; simp
  | cons d ds ih =>
    intro b
    rw [List.foldl_cons, ih, hdict, List.mem_filterMap, List.mem_filterMap]
    simp only [List.mem_cons, exists_eq_or_imp]
    rw [or_left_comm, or_assoc]

/-- The counts in a dictionary that the declarations with a key are entered in with 0. -/
theorem lookup_foldl_declare (dict : Books → AList (fun _ : String => Nat)) (key? : BinDeclaration → Option String)
    (hdict : ∀ b d, (dict (b.declare d)).lookup k = if key? d = some k then some 0 else (dict b).lookup k)
    (ds : List BinDeclaration) : ∀ b, (dict (ds.foldl Books.declare b)).lookup k =
      if k ∈ ds.filterMap key? then some 0 else (dict b).lookup k := by
  induction ds with
  | nil => intro b; simp
  | cons d ds ih =>
    intro b
    have hmem : k ∈ (d :: ds).filterMap key? ↔ key? d = some k ∨ k ∈ ds.filterMap key? := by
      rw [List.mem_filterMap, List.mem_filterMap]
      simp only [List.mem_cons, exists_eq_or_imp]
    rw [List.foldl_cons, ih, hdict]
    by_cases hd : key? d = some k
    · rw [if_pos hd, ite_self, if_pos (hmem.mpr (Or.inl hd))]
    · rw [if_neg hd]
      refine if_congr ?_ rfl rfl
      rw [hmem, or_iff_right hd]

end

section
variable (sticky : Bool) (k : String)

theorem mem_declared_bins : k ∈ (Books.declared sticky).bins ↔ k ∈ declaredBins sticky := by
  rw [Books.declared, mem_foldl_declare Books.bins BinDeclaration.bin?]
  · simp [Books.empty, declaredBins]
  · intro b d
    cases d <;> simp [Books.declare, Books.add, Books.exclude, BinDeclaration.bin?, Bin.key, eq_comm]

theorem mem_declared_excluded : k ∈ (Books.declared sticky).excluded ↔ k ∈ declaredExclusions sticky := by
  rw [Books.declared, mem_foldl_declare Books.excluded BinDeclaration.exclusion?]
  · simp [Books.empty, declaredExclusions]
  · intro b d
    cases d <;> simp [Books.declare, Books.add, Books.exclude, BinDeclaration.exclusion?, Bin.key, eq_comm]

theorem lookup_insert_zero (d : AList (fun _ : String => Nat)) (key : String) :
    (d.insert key 0).lookup k = if some key = some k then some 0 else d.lookup k := by
  split_ifs with hk
  · rw [Option.some_inj.mp hk, AList.lookup_insert]
  · exact AList.lookup_insert_ne fun h => hk (congrArg some h.symm)

theorem lookup_declared_counts :
    (Books.declared sticky).counts.lookup k = if k ∈ declaredBins sticky then some 0 else none := by
  refine lookup_foldl_declare Books.counts BinDeclaration.bin? (fun b d => ?_) _ _
  cases d with
  | bin group name => exact lookup_insert_zero k b.counts (binKey group name)
  | exclusion group name => rfl

theorem lookup_declared_excludedHits :
    (Books.declared sticky).excludedHits.lookup k = if k ∈ declaredExclusions sticky then some 0 else none := by
  refine lookup_foldl_declare Books.excludedHits BinDeclaration.exclusion? (fun b d => ?_) _ _
  cases d with
  | bin group name => rfl
  | exclusion group name => exact lookup_insert_zero k b.excludedHits (binKey group name)

end

/-! ## Closed books -/

/-- The declarations are those of `_build_bins`, every key hit is one of them, and the counts of the bins and of
the exclusions are the numbers of hits. -/
structure Books.Closed (sticky : Bool) (b : Books) : Prop where
  bins : b.bins = (Books.declared sticky).bins
  excluded : b.excluded = (Books.declared sticky).excluded
  counts : ∀ k, b.counts.lookup k = if k ∈ declaredBins sticky then some (b.sampled.count k) else none
  excludedHits : ∀ k, b.excludedHits.lookup k =
    if k ∈ declaredExclusions sticky then some (b.sampled.count k) else none
  sampled : ∀ k ∈ b.sampled, k ∈ declaredBins sticky ∨ k ∈ declaredExclusions sticky

theorem declared_closed (sticky : Bool) : (Books.declared sticky).Closed sticky := by
  have hsampled : (Books.declared sticky).sampled = [] := by
    have hdeclare : ∀ (ds : List BinDeclaration) (b : Books), (ds.foldl Books.declare b).sampled = b.sampled := by
      intro ds
      induction ds with
      | nil => intro b; rfl
      | cons d ds ih =>
        intro b
        rw [List.foldl_cons, ih]
        cases d <;> rfl
    exact hdeclare _ _
  refine ⟨rfl, rfl, ?_, ?_, ?_⟩
  · intro k
    rw [lookup_declared_counts, hsampled, List.count_nil]
  · intro k
    rw [lookup_declared_excludedHits, hsampled, List.count_nil]
  · intro k hk
    rw [hsampled] at hk
    exact absurd hk List.not_mem_nil

/-- A declaration of one of the seven parts is a declaration. -/
theorem mem_buildBins {sticky : Bool} {d : BinDeclaration} {part : List BinDeclaration} (hd : d ∈ part)
    (hpart : part ∈ [buildDmiAccessBins, buildDmcontrolFieldBins, buildHartselBins, buildDmstatusFieldBins sticky,
      buildAllAnyBins, buildCrossBins, buildExternalDebugBins]) : d ∈ buildBins sticky :=
  List.mem_flatten.mpr ⟨part, hpart, hd⟩

/-- A bin or an exclusion is declared under the group and the name. -/
def Declares (sticky : Bool) (group name : String) : Prop :=
  .bin group name ∈ buildBins sticky ∨ .exclusion group name ∈ buildBins sticky

theorem Declares.key {sticky : Bool} {group name : String} (h : Declares sticky group name) :
    binKey group name ∈ declaredBins sticky ∨ binKey group name ∈ declaredExclusions sticky :=
  h.imp (fun hb => List.mem_filterMap.mpr ⟨_, hb, rfl⟩) (fun he => List.mem_filterMap.mpr ⟨_, he, rfl⟩)

theorem count_concat_of_ne {k key : String} (h : k ≠ key) (sampled : List String) :
    (sampled ++ [key]).count k = sampled.count k := by
  have hnone : [key].count k = 0 := List.count_eq_zero_of_not_mem (by simpa using h)
  rw [List.count_append, hnone, Nat.add_zero]

/-- The counts after one more hit of `key`, among the keys of `ks`. -/
theorem lookup_insert_count {ks sampled : List String} {d : AList (fun _ : String => Nat)} {key : String}
    (hd : ∀ k, d.lookup k = if k ∈ ks then some (sampled.count k) else none) (hkey : key ∈ ks) (k : String) :
    (d.insert key (sampled.count key + 1)).lookup k =
      if k ∈ ks then some ((sampled ++ [key]).count k) else none := by
  by_cases hk : k = key
  · subst hk
    rw [AList.lookup_insert, if_pos hkey, List.count_append, List.count_singleton_self]
  · rw [AList.lookup_insert_ne hk, hd, count_concat_of_ne hk]

/-- The counts after a hit of a key that is not among those of `ks`. -/
theorem lookup_count_of_notMem {ks sampled : List String} {d : AList (fun _ : String => Nat)} {key : String}
    (hd : ∀ k, d.lookup k = if k ∈ ks then some (sampled.count k) else none) (hkey : key ∉ ks) (k : String) :
    d.lookup k = if k ∈ ks then some ((sampled ++ [key]).count k) else none := by
  by_cases hk : k ∈ ks
  · have hne : k ≠ key := fun h => hkey (h ▸ hk)
    rw [hd, if_pos hk, if_pos hk, count_concat_of_ne hne]
  · rw [hd, if_neg hk, if_neg hk]

theorem hit_bin {b : Books} {group name : String} {n : Nat} (h : b.counts.lookup (binKey group name) = some n) :
    b.hit group name = .ok { b with
      sampled := b.sampled ++ [binKey group name]
      counts := b.counts.insert (binKey group name) (n + 1) } := by
  simp only [Books.hit, h]

theorem hit_exclusion {b : Books} {group name : String} {n : Nat} {e : Bin}
    (hbin : b.counts.lookup (binKey group name) = none) (hhits : b.excludedHits.lookup (binKey group name) = some n)
    (hreason : b.excluded.lookup (binKey group name) = some e) :
    b.hit group name = .ok { b with
      sampled := b.sampled ++ [binKey group name]
      excludedHits := b.excludedHits.insert (binKey group name) (n + 1) } := by
  simp only [Books.hit, hbin, hhits, hreason]

/-- **A hit** of a declared key does not raise, and keeps the books closed. -/
theorem hit_closed {sticky : Bool} {b : Books} (h : b.Closed sticky) {group name : String}
    (hkey : Declares sticky group name) : Ends (Books.Closed sticky) (b.hit group name) := by
  have hsampled : ∀ k ∈ b.sampled ++ [binKey group name], k ∈ declaredBins sticky ∨ k ∈ declaredExclusions sticky := by
    intro k hk
    rcases List.mem_append.mp hk with hold | hnew
    · exact h.sampled k hold
    · rw [List.mem_singleton.mp hnew]
      exact hkey.key
  by_cases hbin : binKey group name ∈ declaredBins sticky
  · have hlookup := h.counts (binKey group name)
    rw [if_pos hbin] at hlookup
    refine ⟨_, hit_bin hlookup, h.bins, h.excluded, ?_, ?_, hsampled⟩
    · exact lookup_insert_count h.counts hbin
    · exact lookup_count_of_notMem h.excludedHits (declared_disjoint sticky _ hbin)
  · have hexcl := hkey.key.resolve_left hbin
    have hlookup := h.counts (binKey group name)
    have hhits := h.excludedHits (binKey group name)
    rw [if_neg hbin] at hlookup
    rw [if_pos hexcl] at hhits
    obtain ⟨e, hreason⟩ : ∃ e, b.excluded.lookup (binKey group name) = some e := by
      rw [← Option.isSome_iff_exists, AList.lookup_isSome, h.excluded, mem_declared_excluded]
      exact hexcl
    refine ⟨_, hit_exclusion hlookup hhits hreason, h.bins, h.excluded, ?_, ?_, hsampled⟩
    · exact lookup_count_of_notMem h.counts hbin
    · exact lookup_insert_count h.excludedHits hexcl

/-! ## Sampling -/

/-- The call does not raise, and keeps the books closed. -/
abbrev KeepsBooks (sticky : Bool) (r : Except String CoverageModel) : Prop := Ends (fun m => m.toBooks.Closed sticky) r

section
variable {sticky : Bool} {m : CoverageModel}

theorem keeps_hit (h : m.toBooks.Closed sticky) {group name : String} (hkey : Declares sticky group name) :
    KeepsBooks sticky (m.hit group name) := by
  refine (hit_closed h hkey).bind fun b hb => ?_
  exact .ok hb

theorem keeps_bind {r : Except String CoverageModel} {f : CoverageModel → Except String CoverageModel}
    (hr : KeepsBooks sticky r) (hf : ∀ m : CoverageModel, m.toBooks.Closed sticky → KeepsBooks sticky (f m)) :
    KeepsBooks sticky (r >>= f) := hr.bind hf

theorem keeps_hitIf (h : m.toBooks.Closed sticky) (c : Bool) {group name : String}
    (hkey : Declares sticky group name) : KeepsBooks sticky (m.hitIf c group name) :=
  Ends.ite (fun _ => keeps_hit h hkey) fun _ => .ok h

/-! ### External debug -/

theorem declares_external {group name : String} (h : .bin group name ∈ buildExternalDebugBins) :
    Declares sticky group name := Or.inl (mem_buildBins h (by simp))

/-- One of two names, by a condition. -/
theorem declares_external_ite {c : Prop} [Decidable c] {group name name' : String}
    (h : .bin group name ∈ buildExternalDebugBins) (h' : .bin group name' ∈ buildExternalDebugBins) :
    Declares sticky group (if c then name else name') := by
  split_ifs
  · exact declares_external h
  · exact declares_external h'

theorem mem_of_lookup {table : List (Nat × String)} {code : Nat} {name : String} (h : table.lookup code = some name) :
    (code, name) ∈ table := by
  obtain ⟨pre, post, rfl, _⟩ := List.lookup_eq_some_iff.mp h
  exact List.mem_append_right _ List.mem_cons_self

theorem declares_triggerCsr {regno : Nat} {csr : String} (h : TRIGGER_CSRS.lookup regno = some csr) :
    Declares sticky "cg_trigger" ("cp_trigger_csr." ++ csr) := by
  have hname : "cp_trigger_csr." ++ csr ∈ TRIGGER_CSRS.map fun c => "cp_trigger_csr." ++ c.2 :=
    List.mem_map.mpr ⟨(regno, csr), mem_of_lookup h, rfl⟩
  exact declares_external (List.mem_flatten.mpr ⟨_, by simp, bin_mem_addBins.mpr ⟨rfl, hname⟩⟩)

theorem declares_triggerType {ttype : Nat} {name : String} (h : TRIGGER_TYPES.lookup ttype = some name) :
    Declares sticky "cg_trigger" ("cp_trigger_type." ++ name) := by
  have hname : "cp_trigger_type." ++ name ∈ TRIGGER_TYPES.map fun t => "cp_trigger_type." ++ t.2 :=
    List.mem_map.mpr ⟨(ttype, name), mem_of_lookup h, rfl⟩
  exact declares_external (List.mem_flatten.mpr ⟨_, by simp, bin_mem_addBins.mpr ⟨rfl, hname⟩⟩)

theorem keeps_sampleTransfer (h : m.toBooks.Closed sticky) (write regno aarsize : Nat) :
    KeepsBooks sticky (m.sampleTransfer write regno aarsize) := by
  unfold CoverageModel.sampleTransfer
  refine keeps_bind (keeps_hit h ?_) fun m hm => ?_
  · exact declares_external_ite (by simp [buildExternalDebugBins]) (by simp [buildExternalDebugBins])
  refine keeps_bind ?_ fun m hm => ?_
  · refine Ends.ite (fun _ => keeps_hit hm ?_) fun _ => keeps_hitIf hm _ ?_
    · exact declares_external (by simp [buildExternalDebugBins])
    · exact declares_external (by simp [buildExternalDebugBins])
  split
  · exact .ok hm
  · rename_i csr hcsr
    refine keeps_bind (keeps_hit hm (declares_triggerCsr hcsr)) fun m hm => ?_
    refine Ends.ite (fun _ => ?_) fun _ => .ok hm
    dsimp only
    split
    · rename_i name hname
      exact keeps_hit hm (declares_triggerType hname)
    · exact .ok hm

theorem keeps_sampleCommand (h : m.toBooks.Closed sticky) (w : Nat) : KeepsBooks sticky (m.sampleCommand w) := by
  unfold CoverageModel.sampleCommand
  refine keeps_bind ?_ fun m hm => ?_
  · exact Ends.ite (fun _ => keeps_sampleTransfer h _ _ _) fun _ => .ok h
  · exact keeps_hitIf hm _ (declares_external (by simp [buildExternalDebugBins]))

theorem keeps_sampleAbstractcs (h : m.toBooks.Closed sticky) (r : Nat) : KeepsBooks sticky (m.sampleAbstractcs r) := by
  refine keeps_bind (keeps_hit h ?_) fun m hm => keeps_bind (keeps_hitIf hm _ ?_) fun m hm => keeps_hitIf hm _ ?_
  · exact declares_external_ite (by simp [buildExternalDebugBins]) (by simp [buildExternalDebugBins])
  · exact declares_external (by simp [buildExternalDebugBins])
  · exact declares_external (by simp [buildExternalDebugBins])

theorem keeps_sampleSbcs (h : m.toBooks.Closed sticky) (op : Option ObserverOp) (w r : Nat) :
    KeepsBooks sticky (m.sampleSbcs op w r) := by
  refine keeps_bind (keeps_hit h ?_) fun m hm => keeps_hitIf hm _ ?_
  · exact declares_external_ite (by simp [buildExternalDebugBins]) (by simp [buildExternalDebugBins])
  · exact declares_external (by simp [buildExternalDebugBins])

theorem keeps_sampleDmcs2 (h : m.toBooks.Closed sticky) (w : Nat) : KeepsBooks sticky (m.sampleDmcs2 w) := by
  refine keeps_bind (keeps_hit h ?_) fun m hm => keeps_bind (keeps_hit hm ?_) fun m hm => keeps_hit hm ?_
  · exact declares_external_ite (by simp [buildExternalDebugBins]) (by simp [buildExternalDebugBins])
  · exact declares_external_ite (by simp [buildExternalDebugBins]) (by simp [buildExternalDebugBins])
  · exact declares_external_ite (by simp [buildExternalDebugBins]) (by simp [buildExternalDebugBins])

theorem keeps_sampleExternalDebug (h : m.toBooks.Closed sticky) (op : Option ObserverOp) (addr : Int)
    (data readback : Option Nat) : KeepsBooks sticky (m.sampleExternalDebug op addr data readback) := by
  -- Staging an operand does not touch the books.
  have hstaged : ∀ w, CoverageModel.toBooks
      (if op = some .write ∧ addr = 0x04 then { m with stagedData0 := w }
        else if op = some .write ∧ addr = 0x04 + 1 then { m with stagedData1 := w }
        else m) = m.toBooks := by
    intro w
    split_ifs <;> rfl
  unfold CoverageModel.sampleExternalDebug
  dsimp only
  specialize hstaged (data.getD 0)
  revert hstaged
  generalize (if op = some .write ∧ addr = 0x04 then { m with stagedData0 := data.getD 0 }
    else if op = some .write ∧ addr = 0x04 + 1 then { m with stagedData1 := data.getD 0 } else m) = m'
  intro hstaged
  replace h : m'.toBooks.Closed sticky := by rwa [hstaged]
  refine Ends.ite (fun _ => keeps_hit h ?_) fun _ => ?_
  · exact declares_external_ite (by simp [buildExternalDebugBins]) (by simp [buildExternalDebugBins])
  refine Ends.ite (fun _ => keeps_sampleCommand h _) fun _ => ?_
  refine Ends.ite (fun _ => keeps_sampleAbstractcs h _) fun _ => ?_
  refine Ends.ite (fun _ => keeps_hit h ?_) fun _ => ?_
  · exact declares_external (by simp [buildExternalDebugBins])
  refine Ends.ite (fun _ => keeps_sampleSbcs h _ _ _) fun _ => ?_
  refine Ends.ite (fun _ => keeps_hit h ?_) fun _ => ?_
  · exact declares_external (by simp [buildExternalDebugBins])
  refine Ends.ite (fun _ => keeps_hit h ?_) fun _ => ?_
  · exact declares_external_ite (by simp [buildExternalDebugBins]) (by simp [buildExternalDebugBins])
  refine Ends.ite (fun _ => keeps_sampleDmcs2 h _) fun _ => ?_
  refine Ends.ite (fun _ => keeps_hit h ?_) fun _ => ?_
  · exact declares_external (by simp [buildExternalDebugBins])
  refine Ends.ite (fun _ => keeps_hit h ?_) fun _ => .ok h
  exact declares_external_ite (by simp [buildExternalDebugBins]) (by simp [buildExternalDebugBins])

/-! ### Run control -/

/-- The text of a one-bit field. -/
theorem toString_extract {f : Field} (hf : f.width = 1) (word : Nat) :
    toString (f.extract word) = "0" ∨ toString (f.extract word) = "1" := by
  have hvalue : f.extract word = 0 ∨ f.extract word = 1 := by
    rw [Field.extract, Words.extract, hf, Words.and_ones]
    omega
  rcases hvalue with hv | hv
  · rw [hv]
    exact Or.inl rfl
  · rw [hv]
    exact Or.inr rfl

/-- The fields of a register whose values are all declared. -/
theorem keeps_hitFields (h : m.toBooks.Closed sticky) {pre : String} {r : Register}
    (hdeclares : ∀ f ∈ r.fields, f.width = 1 → Declares sticky (pre ++ f.name) "0" ∧ Declares sticky (pre ++ f.name) "1")
    (word : Nat) : KeepsBooks sticky (m.hitFields pre r word) := by
  refine Ends.foldlM (fun m fv hfv hm => ?_) m h
  obtain ⟨f, hf, rfl⟩ := List.mem_map.mp hfv
  refine Ends.ite (fun _ => .ok hm) fun hwidth => keeps_hit hm ?_
  rw [not_not] at hwidth
  obtain ⟨hzero, hone⟩ := hdeclares f hf hwidth
  dsimp only
  rcases toString_extract hwidth word with hv | hv
  · rw [hv]
    exact hzero
  · rw [hv]
    exact hone

theorem declares_dmcontrol {f : Field} (hf : f ∈ DMCONTROL.fields) (hwidth : f.width = 1) :
    Declares sticky ("dmcontrol." ++ f.name) "0" ∧ Declares sticky ("dmcontrol." ++ f.name) "1" := by
  have hmem : f ∈ DMCONTROL.fields.filter (·.width = 1) := List.mem_filter.mpr ⟨hf, by simpa using hwidth⟩
  have hin : ∀ v ∈ ["0", "1"], .bin ("dmcontrol." ++ f.name) v ∈ buildDmcontrolFieldBins := by
    intro v hv
    refine List.mem_flatMap.mpr ⟨f, hmem, ?_⟩
    simpa using hv
  exact ⟨Or.inl (mem_buildBins (hin "0" (by simp)) (by simp)), Or.inl (mem_buildBins (hin "1" (by simp)) (by simp))⟩

theorem declares_dmstatus {f : Field} (hf : f ∈ DMSTATUS.fields) (hwidth : f.width = 1) :
    Declares sticky ("dmstatus." ++ f.name) "0" ∧ Declares sticky ("dmstatus." ++ f.name) "1" := by
  have hmem : f ∈ DMSTATUS.fields.filter (·.width = 1) := List.mem_filter.mpr ⟨hf, by simpa using hwidth⟩
  have hin : ∀ v ∈ ["0", "1"], dmstatusFieldBin sticky f v ∈ buildBins sticky := by
    intro v hv
    have hfield : dmstatusFieldBin sticky f v ∈ buildDmstatusFieldBins sticky :=
      List.mem_append_left _ (List.mem_flatMap.mpr ⟨f, hmem, List.mem_map.mpr ⟨v, hv, rfl⟩⟩)
    exact mem_buildBins hfield (by simp)
  have hshape : ∀ v ∈ ["0", "1"], Declares sticky ("dmstatus." ++ f.name) v := by
    intro v hv
    have hbin := hin v hv
    unfold dmstatusFieldBin at hbin
    split_ifs at hbin with hslice hsticky
    · exact Or.inr hbin
    · rw [hsticky.2.1]
      exact Or.inr hbin
    · exact Or.inl hbin
  exact ⟨hshape "0" (by simp), hshape "1" (by simp)⟩

theorem declares_hartsel {name : String} (h : .bin "dmcontrol.hartsel" name ∈ buildHartselBins) :
    Declares sticky "dmcontrol.hartsel" name := Or.inl (mem_buildBins h (by simp))

theorem keeps_hitHartsel (h : m.toBooks.Closed sticky) (hartsel : Nat) : KeepsBooks sticky (m.hitHartsel hartsel) := by
  refine keeps_bind (keeps_hit h ?_) fun m hm => keeps_bind (keeps_hitIf hm _ ?_) fun m hm =>
    keeps_bind (keeps_hitIf hm _ ?_) fun m hm => keeps_bind (keeps_hitIf hm _ ?_) fun m hm => keeps_hitIf hm _ ?_
  · split_ifs
    · exact declares_hartsel (by simp [buildHartselBins])
    · exact declares_hartsel (by simp [buildHartselBins])
  · exact declares_hartsel (by simp [buildHartselBins])
  · exact declares_hartsel (by simp [buildHartselBins])
  · exact declares_hartsel (by simp [buildHartselBins])
  · exact declares_hartsel (by simp [buildHartselBins])

theorem declares_cross {group name : String} (h : .bin group name ∈ buildCrossBins) : Declares sticky group name :=
  Or.inl (mem_buildBins h (by simp))

theorem keeps_hitResumereq (h : m.toBooks.Closed sticky) (word : Nat) (changed : Bool) :
    KeepsBooks sticky (m.hitResumereq word changed) := by
  refine Ends.ite (fun _ => ?_) fun _ => .ok h
  split
  · exact keeps_hit h (declares_cross (by simp [buildCrossBins]))
  · exact keeps_hit h (declares_cross (by simp [buildCrossBins]))
  · exact keeps_hit h (declares_cross (by simp [buildCrossBins]))
  · exact .ok h

theorem keeps_hitHavereset (h : m.toBooks.Closed sticky) (word : Nat) (changed : Bool) :
    KeepsBooks sticky (m.hitHavereset word changed) := by
  unfold CoverageModel.hitHavereset
  split
  · refine keeps_bind ?_ fun m hm => ?_
    · refine Ends.ite (fun _ => keeps_hit h ?_) fun _ => keeps_hitIf h _ ?_
      · split_ifs
        · exact declares_cross (by simp [buildCrossBins])
        · exact declares_cross (by simp [buildCrossBins])
      · exact declares_cross (by simp [buildCrossBins])
    · refine .ok ?_
      split_ifs
      · exact hm
      · exact hm
  · exact .ok h

theorem keeps_hitNdmreset (h : m.toBooks.Closed sticky) (word hartsel : Nat) :
    KeepsBooks sticky (m.hitNdmreset word hartsel) := by
  have hdeclares : ∀ rhr : Bool, Declares sticky "cross.ndmreset_x_reset_haltreq" ("assert_rhr" ++ toString rhr.toNat) ∧
      Declares sticky "cross.ndmreset_x_reset_haltreq" ("deassert_rhr" ++ toString rhr.toNat) := by
    intro rhr
    have htext : toString rhr.toNat = "0" ∨ toString rhr.toNat = "1" := by
      cases rhr
      · exact Or.inl rfl
      · exact Or.inr rfl
    rcases htext with ht | ht
    · rw [ht]
      exact ⟨declares_cross (by simp [buildCrossBins]), declares_cross (by simp [buildCrossBins])⟩
    · rw [ht]
      exact ⟨declares_cross (by simp [buildCrossBins]), declares_cross (by simp [buildCrossBins])⟩
  refine keeps_bind ?_ fun m hm => ?_
  · exact Ends.ite (fun _ => keeps_hit h (hdeclares _).1) fun _ => keeps_hitIf h _ (hdeclares _).2
  · exact .ok hm

theorem declares_haltreq_x_resumereq (word : Nat) : Declares sticky "cross.haltreq_x_resumereq"
    ("h" ++ toString (DMCONTROL.haltreq.extract word) ++ "_r" ++ toString (DMCONTROL.resumereq.extract word)) := by
  have hh := toString_extract (f := DMCONTROL.haltreq) rfl word
  have hr := toString_extract (f := DMCONTROL.resumereq) rfl word
  rcases hh with hh | hh <;> rcases hr with hr | hr <;> rw [hh, hr]
  all_goals exact declares_cross (by simp [buildCrossBins])

theorem keeps_sampleDmcontrolWrite (h : m.toBooks.Closed sticky) (word : Nat) :
    KeepsBooks sticky (m.sampleDmcontrolWrite word) := by
  unfold CoverageModel.sampleDmcontrolWrite
  refine keeps_bind (keeps_hitFields h (fun f hf hw => declares_dmcontrol hf hw) word) fun m hm => ?_
  refine keeps_bind (keeps_hitHartsel hm _) fun m hm => ?_
  refine keeps_bind (keeps_hit hm (declares_haltreq_x_resumereq word)) fun m hm => ?_
  refine keeps_bind (keeps_hit hm ?_) fun m hm => ?_
  · split_ifs
    · exact declares_cross (by simp [buildCrossBins])
    · exact declares_cross (by simp [buildCrossBins])
    · exact declares_cross (by simp [buildCrossBins])
  have hselected : (CoverageModel.toBooks { m with hartsel := hartselOf word }).Closed sticky := hm
  refine keeps_bind (keeps_hitResumereq hselected _ _) fun m hm => ?_
  refine keeps_bind (keeps_hitHavereset hm _ _) fun m hm => ?_
  refine Ends.ite (fun _ => .ok ?_) fun _ => keeps_hitNdmreset ?_ _ _
  · split_ifs
    · exact hm
    · exact hm
    · exact hm
  · split_ifs
    · exact hm
    · exact hm
    · exact hm

theorem declares_version {version : Nat} {name : String} (h : CoverageModel.versionBin? version = some name) :
    Declares sticky "dmstatus.version" name := by
  have hbins : ∀ {d}, d ∈ buildDmstatusFieldBins sticky → d ∈ buildBins sticky := fun hd => mem_buildBins hd (by simp)
  have hmem := mem_of_lookup h
  simp only [List.mem_cons, List.not_mem_nil, or_false, Prod.mk.injEq] at hmem
  rcases hmem with ⟨-, rfl⟩ | ⟨-, rfl⟩ | ⟨-, rfl⟩ | ⟨-, rfl⟩ | ⟨-, rfl⟩
  · exact Or.inr (hbins (List.mem_append_right _ (by simp)))
  · exact Or.inr (hbins (List.mem_append_right _ (by simp)))
  · exact Or.inl (hbins (List.mem_append_right _ (by simp)))
  · exact Or.inl (hbins (List.mem_append_right _ (by simp)))
  · exact Or.inr (hbins (List.mem_append_right _ (by simp)))

theorem keeps_hitVersion (h : m.toBooks.Closed sticky) (version : Nat) : KeepsBooks sticky (m.hitVersion version) := by
  unfold CoverageModel.hitVersion
  split
  · rename_i name hname
    exact keeps_hit h (declares_version hname)
  · exact .ok h

theorem declares_allAny {pair : Field × Field} (hpair : pair ∈ DMSTATUS_ALL_ANY_PAIRS) (word : Nat) :
    Declares sticky (allAnyGroup pair.1)
      ("all" ++ toString (pair.1.extract word) ++ "_any" ++ toString (pair.2.extract word)) := by
  have hbins : ∀ {d}, d ∈ buildAllAnyBins → d ∈ buildBins sticky := fun hd => mem_buildBins hd (by simp)
  have hwidths : ∀ p ∈ DMSTATUS_ALL_ANY_PAIRS, p.1.width = 1 ∧ p.2.width = 1 := by decide
  have hall := toString_extract (hwidths pair hpair).1 word
  have hany := toString_extract (hwidths pair hpair).2 word
  rcases hall with hall | hall <;> rcases hany with hany | hany <;> rw [hall, hany]
  · exact Or.inl (hbins (List.mem_flatMap.mpr ⟨pair, hpair, by simp⟩))
  · exact Or.inr (hbins (List.mem_flatMap.mpr ⟨pair, hpair, by simp⟩))
  · exact Or.inr (hbins (List.mem_flatMap.mpr ⟨pair, hpair, by simp⟩))
  · by_cases hunavail : removeprefix "all" pair.1.name = "unavail"
    · exact Or.inr (hbins (List.mem_flatMap.mpr ⟨pair, hpair, by simp [hunavail]⟩))
    · exact Or.inl (hbins (List.mem_flatMap.mpr ⟨pair, hpair, by simp [hunavail]⟩))

theorem keeps_hitAllAny (h : m.toBooks.Closed sticky) (word : Nat) : KeepsBooks sticky (m.hitAllAny word) :=
  Ends.foldlM (fun _ _ hpair hm => keeps_hit hm (declares_allAny hpair word)) m h

/-- Every change between two states that are told apart is declared. -/
theorem declares_transition {prev state : HartObs} (hprev : prev ∉ [.unknown, .unavail, .nonexistent])
    (hstate : state ∉ [.unknown, .unavail, .nonexistent]) (hne : prev ≠ state) :
    Declares sticky "cross.hart_state_transition" (prev.text ++ "_to_" ++ state.text) := by
  have hcross : .exclusion "cross.hart_state_transition" "halted_to_in_reset" ∈ buildCrossBins := by
    simp [buildCrossBins]
  have hexcluded : .exclusion "cross.hart_state_transition" "halted_to_in_reset" ∈ buildBins sticky :=
    mem_buildBins hcross (by simp)
  cases prev with
  | halted =>
    cases state with
    | halted => exact absurd rfl hne
    | running => exact declares_cross (by simp [buildCrossBins, HartObs.text])
    | inReset => exact Or.inr hexcluded
    | _ => exact absurd (by simp) hstate
  | running =>
    cases state with
    | running => exact absurd rfl hne
    | halted => exact declares_cross (by simp [buildCrossBins, HartObs.text])
    | inReset => exact declares_cross (by simp [buildCrossBins, HartObs.text])
    | _ => exact absurd (by simp) hstate
  | inReset =>
    cases state with
    | inReset => exact absurd rfl hne
    | halted => exact declares_cross (by simp [buildCrossBins, HartObs.text])
    | running => exact declares_cross (by simp [buildCrossBins, HartObs.text])
    | _ => exact absurd (by simp) hstate
  | _ => exact absurd (by simp) hprev

theorem keeps_sampleDmstatusRead (h : m.toBooks.Closed sticky) (word : Nat) :
    KeepsBooks sticky (m.sampleDmstatusRead word) := by
  unfold CoverageModel.sampleDmstatusRead
  refine keeps_bind (keeps_hitFields h (fun f hf hw => declares_dmstatus hf hw) word) fun m hm => ?_
  refine keeps_bind (keeps_hitVersion hm _) fun m hm => ?_
  refine keeps_bind (keeps_hitAllAny hm word) fun m hm => ?_
  refine Ends.ite (fun _ => .ok hm) fun _ => ?_
  refine Ends.ite (fun _ => .ok hm) fun hseen => ?_
  rw [not_or] at hseen
  refine Ends.ite (fun hne => ?_) fun _ => .ok hm
  refine keeps_hit ?_ (declares_transition hseen.1 hseen.2 hne)
  exact hm

/-! ### Calls -/

/-- **A call** of `sample` does not raise, and keeps the books closed. -/
theorem keeps_sample (h : m.toBooks.Closed sticky) (c : CoverageModel.SampleCall) : KeepsBooks sticky (m.sample c) := by
  have haccess : ∀ {d}, d ∈ buildDmiAccessBins → d ∈ buildBins sticky := fun hd => mem_buildBins hd (by simp)
  refine Ends.ite (fun _ => ?_) fun _ => ?_
  · refine keeps_bind (keeps_hit h (Or.inl (haccess ?_))) fun m hm => keeps_sampleDmcontrolWrite hm _
    simp [buildDmiAccessBins]
  refine Ends.ite (fun _ => ?_) fun _ => ?_
  · exact keeps_hit h (Or.inl (haccess (by simp [buildDmiAccessBins])))
  refine Ends.ite (fun _ => ?_) fun _ => ?_
  · refine keeps_bind (keeps_hit h (Or.inl (haccess ?_))) fun m hm => keeps_sampleDmstatusRead hm _
    simp [buildDmiAccessBins]
  refine Ends.ite (fun _ => ?_) fun _ => ?_
  · exact keeps_hit h (Or.inr (haccess (by simp [buildDmiAccessBins])))
  · exact keeps_sampleExternalDebug h _ _ _ _

/-- **A sequence of calls** does not raise either. -/
theorem keeps_sampleAll (numHarts : Int) (sticky : Bool) (calls : List CoverageModel.SampleCall) :
    KeepsBooks sticky ((CoverageModel.init numHarts sticky).sampleAll calls) :=
  Ends.foldlM (fun _ c _ hm => keeps_sample hm c) _ (declared_closed sticky)

end

/-! ## The report -/

section
variable {β : Type} (d : AList (fun _ : String => β))

theorem keys_sortedItems : ((Books.sortedItems d).map Prod.fst).Perm d.keys := by
  have hperm := (List.mergeSort_perm (d.entries.map fun e => (e.1, e.2)) fun a b => decide (a.1 ≤ b.1)).map Prod.fst
  rw [List.map_map] at hperm
  exact hperm

theorem nodup_sortedItems : ((Books.sortedItems d).map Prod.fst).Nodup :=
  (keys_sortedItems d).nodup_iff.mpr d.keys_nodup

theorem mem_sortedItems {k : String} {v : β} : (k, v) ∈ Books.sortedItems d ↔ d.lookup k = some v := by
  rw [Books.sortedItems, List.mem_mergeSort, List.mem_map]
  constructor
  · rintro ⟨e, he, heq⟩
    obtain ⟨rfl, rfl⟩ := Prod.mk.inj heq
    exact AList.mem_lookup_iff.mpr he
  · intro h
    exact ⟨⟨k, v⟩, AList.mem_lookup_iff.mp h, rfl⟩

end

theorem unhitOf_eq {b : Books} {count : String → Nat} {ks : List String}
    (h : ∀ k ∈ ks, b.counts.lookup k = some (count k)) :
    b.unhitOf ks = .ok (ks.filter fun k => decide (count k = 0)) := by
  induction ks with
  | nil => rfl
  | cons k ks ih =>
    rw [Books.unhitOf, h k List.mem_cons_self]
    dsimp only
    rw [ih fun k hk => h k (List.mem_cons_of_mem _ hk)]
    by_cases hk : count k = 0 <;> simp [hk]

/-- The hit bins and the others make up the bins, each once. -/
def CoverageReport.Splits (r : CoverageReport) (bins : List String) : Prop :=
  (r.hit.map Prod.fst ++ r.unhit).Nodup ∧ ∀ k, k ∈ r.hit.map Prod.fst ++ r.unhit ↔ k ∈ bins

/-- The report on closed books. -/
theorem report_splits {sticky : Bool} {b : Books} (h : b.Closed sticky) :
    ∃ r, b.report = .ok r ∧ r.Splits (declaredBins sticky) := by
  have hkeys : ∀ k, k ∈ (Books.sortedItems b.bins).map Prod.fst ↔ k ∈ declaredBins sticky := by
    intro k
    rw [(keys_sortedItems b.bins).mem_iff, ← AList.mem_keys, h.bins, mem_declared_bins]
  have hunhit : b.unhitOf ((Books.sortedItems b.bins).map Prod.fst) =
      .ok (((Books.sortedItems b.bins).map Prod.fst).filter fun k => decide (b.sampled.count k = 0)) := by
    refine unhitOf_eq fun k hk => ?_
    rw [h.counts, if_pos ((hkeys k).mp hk)]
  have hhit : ∀ k, k ∈ ((Books.sortedItems b.counts).filter fun e => decide (0 < e.2)).map Prod.fst ↔
      k ∈ declaredBins sticky ∧ 0 < b.sampled.count k := by
    intro k
    rw [List.mem_map]
    constructor
    · rintro ⟨⟨k, n⟩, hmem, rfl⟩
      obtain ⟨hitem, hpos⟩ := List.mem_filter.mp hmem
      have hlookup := (mem_sortedItems b.counts).mp hitem
      rw [h.counts] at hlookup
      split_ifs at hlookup with hk
      rw [Option.some_inj.mp hlookup]
      exact ⟨hk, of_decide_eq_true hpos⟩
    · rintro ⟨hk, hpos⟩
      have hlookup := h.counts k
      rw [if_pos hk] at hlookup
      exact ⟨_, List.mem_filter.mpr ⟨(mem_sortedItems b.counts).mpr hlookup, decide_eq_true hpos⟩, rfl⟩
  refine ⟨_, by rw [Books.report, hunhit]; rfl, ?_, ?_⟩
  · refine List.nodup_append'.mpr ⟨?_, (nodup_sortedItems b.bins).filter _, ?_⟩
    · exact (nodup_sortedItems b.counts).sublist (List.filter_sublist.map Prod.fst)
    · intro k hk hk'
      have hpos := ((hhit k).mp hk).2
      have hzero := of_decide_eq_true (List.mem_filter.mp hk').2
      omega
  · intro k
    rw [List.mem_append, List.mem_filter, hkeys]
    refine ⟨fun hk => hk.elim (fun hk => ((hhit k).mp hk).1) And.left, fun hk => ?_⟩
    rcases Nat.eq_zero_or_pos (b.sampled.count k) with hzero | hpos
    · exact Or.inr ⟨hk, decide_eq_true hzero⟩
    · exact Or.inl ((hhit k).mpr ⟨hk, hpos⟩)

/-! ## Any sequence of calls -/

theorem mem_iff_of_lookup {d : AList (fun _ : String => Nat)} {ks : List String} {count : String → Nat}
    (h : ∀ k, d.lookup k = if k ∈ ks then some (count k) else none) (k : String) : k ∈ d ↔ k ∈ ks := by
  rw [← AList.lookup_isSome, h]
  split_ifs with hk
  · exact iff_of_true rfl hk
  · exact iff_of_false Bool.false_ne_true hk

/-- **The books are closed.**  No sequence of calls raises, whatever the operations, addresses, words and hart
count; each key that is hit is a declared bin or a declared exclusion and not both; the declarations stay what
they were; hits of a bin are counted for it and hits of an exclusion only apart; and the report splits the
declared bins into the hit ones and the others. -/
theorem coverage_closed (numHarts : Int) (supportsStickyunavail : Bool) (calls : List CoverageModel.SampleCall) :
    ∃ m r, (CoverageModel.init numHarts supportsStickyunavail).sampleAll calls = .ok m ∧ m.toBooks.report = .ok r ∧
      (∀ k ∈ m.sampled, Xor (k ∈ declaredBins supportsStickyunavail) (k ∈ declaredExclusions supportsStickyunavail)) ∧
      ((∀ k, k ∈ m.bins ↔ k ∈ declaredBins supportsStickyunavail) ∧
        (∀ k, k ∈ m.counts ↔ k ∈ declaredBins supportsStickyunavail) ∧
        (∀ k, k ∈ m.excluded ↔ k ∈ declaredExclusions supportsStickyunavail) ∧
        ∀ k, k ∈ m.excludedHits ↔ k ∈ declaredExclusions supportsStickyunavail) ∧
      ((∀ k ∈ declaredBins supportsStickyunavail, m.counts.lookup k = some (m.sampled.count k)) ∧
        ∀ k ∈ declaredExclusions supportsStickyunavail, m.excludedHits.lookup k = some (m.sampled.count k) ∧
          m.counts.lookup k = none ∧ k ∉ r.hit.map Prod.fst) ∧
      r.Splits (declaredBins supportsStickyunavail) := by
  obtain ⟨m, hm, hclosed⟩ := keeps_sampleAll numHarts supportsStickyunavail calls
  obtain ⟨r, hr, hsplits⟩ := report_splits hclosed
  have hboth : ∀ k ∈ declaredExclusions supportsStickyunavail, k ∉ declaredBins supportsStickyunavail :=
    fun k hexcl hbin => declared_disjoint _ k hbin hexcl
  refine ⟨m, r, hm, hr, ?_, ⟨?_, ?_, ?_, ?_⟩, ⟨?_, ?_⟩, hsplits⟩
  · intro k hk
    rcases hclosed.sampled k hk with hbin | hexcl
    · exact Or.inl ⟨hbin, declared_disjoint _ k hbin⟩
    · exact Or.inr ⟨hexcl, hboth k hexcl⟩
  · intro k
    rw [hclosed.bins, mem_declared_bins]
  · exact mem_iff_of_lookup hclosed.counts
  · intro k
    rw [hclosed.excluded, mem_declared_excluded]
  · exact mem_iff_of_lookup hclosed.excludedHits
  · intro k hk
    rw [hclosed.counts, if_pos hk]
  · intro k hk
    refine ⟨?_, ?_, ?_⟩
    · rw [hclosed.excludedHits, if_pos hk]
    · rw [hclosed.counts, if_neg (hboth k hk)]
    · intro hhit
      exact hboth k hk ((hsplits.2 k).mp (List.mem_append_left _ hhit))

end RiscvDbg
