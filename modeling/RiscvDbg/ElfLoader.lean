import Mathlib.Algebra.Group.Nat.Defs
import Mathlib.Data.List.Forall2

/-!
# The ELF loader

Model of `c_bridge/elfloader.c`: `read_elf` copies the loadable segments of a file into a table of
`MAX_SECTIONS` entries, `get_section` hands out their addresses and lengths one by one, and
`read_section_sv` copies a segment, looked up by address, into a buffer of the caller.

* `ElfLayout` — the offsets of the C structs that the loader reads, for either ELF class; the two branches
  of `read_elf` differ in nothing else.
* `readElf`, `Loader.getSection`, `Loader.readSectionSv` — the three DPI functions.  `none` is a failed
  assertion or an access outside the file or the buffer.
* `Loader.preload` — the loop of the testbenches around them.
* `ElfFile` — a well-formed file with its program headers; `ElfFile.segments` — what it asks to load.
* `ElfFile.load_eq_segments_iff` — **when the loop delivers exactly the segments.**
-/

set_option autoImplicit false

namespace RiscvDbg

namespace Elf

def ELFCLASS32 : UInt8 := 1
def ELFCLASS64 : UInt8 := 2
def PT_LOAD : Nat := 1
def MAX_SECTIONS : Nat := 64

/-- The magic number the loader compares: `0x7f`, `E`, `L`, `F`. -/
def magic : List UInt8 := [0x7f, 0x45, 0x4c, 0x46]

/-! ## Reading the file -/

/-- The little-endian number in some bytes. -/
def leValue (bytes : List UInt8) : Nat := bytes.foldr (fun b acc => b.toNat + 256 * acc) 0

/-- `n` bytes of the file. -/
def slice (file : List UInt8) (off n : Nat) : Option (List UInt8) :=
  if off + n ≤ file.length then some ((file.drop off).take n) else none

/-- An unsigned field of `n` bytes. -/
def readLE (file : List UInt8) (off n : Nat) : Option Nat := (slice file off n).map leValue

/-- Where the loader's structs keep the fields it reads.  `p_type` is the first field of both. -/
structure ElfLayout where
  eiClass : UInt8
  /-- `sizeof` of the file header and of a program header -/
  ehdrSize : Nat
  phdrSize : Nat
  /-- bytes of an offset, an address or a size -/
  word : Nat
  e_phoff : Nat
  e_phentsize : Nat
  e_phnum : Nat
  p_offset : Nat
  p_paddr : Nat
  p_filesz : Nat

/-- `Elf64_Ehdr` and `Elf64_Phdr`. -/
def elf64 : ElfLayout where
  eiClass := ELFCLASS64
  ehdrSize := 64
  phdrSize := 56
  word := 8
  e_phoff := 32
  e_phentsize := 54
  e_phnum := 56
  p_offset := 8
  p_paddr := 24
  p_filesz := 32

/-- `Elf32_Ehdr` and `Elf32_Phdr`. -/
def elf32 : ElfLayout where
  eiClass := ELFCLASS32
  ehdrSize := 52
  phdrSize := 32
  word := 4
  e_phoff := 28
  e_phentsize := 42
  e_phnum := 44
  p_offset := 4
  p_paddr := 12
  p_filesz := 16

/-- The fields of a program header that the loader reads. -/
structure Phdr where
  type : Nat
  offset : Nat
  paddr : BitVec 64
  filesz : Nat
  deriving DecidableEq, Repr

/-- The condition of `read_elf` on a program header. -/
def Phdr.loadable (ph : Phdr) : Bool := ph.type == PT_LOAD && decide (0 < ph.filesz)

/-- `section_t`. -/
structure Section where
  address : BitVec 64
  length : Nat
  data : List UInt8
  deriving DecidableEq, Repr

variable (file : List UInt8) (l : ElfLayout)

/-- The program header at `off`. -/
def readPhdr (off : Nat) : Option Phdr := do
  let type ← readLE file off 4
  let offset ← readLE file (off + l.p_offset) l.word
  let paddr ← readLE file (off + l.p_paddr) l.word
  let filesz ← readLE file (off + l.p_filesz) l.word
  return ⟨type, offset, BitVec.ofNat 64 paddr, filesz⟩

/-- The loop of `read_elf` from header `i`, with the sections stored so far. -/
def loadLoop (table : Nat) : (remaining i : Nat) → List Section → Option (List Section)
  | 0, _, sections => some sections
  | n + 1, i, sections =>
    if sections.length < MAX_SECTIONS then
      (readPhdr file l (table + i * l.phdrSize)).bind fun ph =>
        if ph.loadable then
          (slice file ph.offset ph.filesz).bind fun data =>
            loadLoop table n (i + 1) (sections ++ [⟨ph.paddr, ph.filesz, data⟩])
        else loadLoop table n (i + 1) sections
    else some sections

/-- The state of the loader: the used entries of the table and `section_index`. -/
structure Loader where
  sections : List Section
  sectionIndex : Nat

/-- One of the two branches of `read_elf`. -/
def readSegments : Option Loader := do
  let table ← readLE file l.e_phoff l.word
  let phnum ← readLE file l.e_phnum 2
  let sections ← loadLoop file l table phnum 0 []
  return ⟨sections, 0⟩

/-- `read_elf`. -/
def readElf : Option Loader :=
  -- `sizeof(Elf64_Ehdr)`, whatever the class
  if file.length < elf64.ehdrSize then none
  else if file.take 4 != magic then none
  else if file[4]? = some ELFCLASS64 then readSegments file elf64
  else if file[4]? = some ELFCLASS32 then readSegments file elf32
  else none

namespace Loader

variable (s : Loader)

/-- `get_section`; `none` is the 0 that ends the caller's loop. -/
def getSection : Option ((BitVec 64 × Nat) × Loader) :=
  match s.sections[s.sectionIndex]? with
  | some sec => some ((sec.address, sec.length), { s with sectionIndex := s.sectionIndex + 1 })
  | none => none

/-- `read_section_sv`: the buffer after the copy. -/
def readSectionSv (address : BitVec 64) (buffer : List UInt8) : Option (List UInt8) :=
  match s.sections.find? fun sec => sec.address == address with
  | some sec =>
    if sec.length ≤ buffer.length then some (sec.data.take sec.length ++ buffer.drop sec.length) else none
  | none => none

theorem getSection_eq_some {a : BitVec 64 × Nat} {s' : Loader} (h : s.getSection = some (a, s')) :
    ∃ sec, s.sections[s.sectionIndex]? = some sec ∧ a = (sec.address, sec.length) ∧
      s' = ⟨s.sections, s.sectionIndex + 1⟩ := by
  unfold getSection at h
  split at h
  · rename_i sec hsec
    obtain ⟨rfl, rfl⟩ : (sec.address, sec.length) = a ∧ ⟨s.sections, s.sectionIndex + 1⟩ = s' := by
      simpa using h
    exact ⟨sec, hsec, rfl, rfl⟩
  · cases h

/-- The testbench's loop: `alloc len` is the size of the fresh buffer for a section of `len` bytes, of
which the first `len` are the section's. -/
def preload (alloc : Nat → Nat) (s : Loader) : Option (List Section) :=
  match _hs : s.getSection with
  | none => some []
  | some ((address, len), s') =>
    (s'.readSectionSv address (List.replicate (alloc len) 0)).bind fun buffer =>
      (preload alloc s').map fun rest => ⟨address, len, buffer.take len⟩ :: rest
termination_by s.sections.length - s.sectionIndex
decreasing_by
  obtain ⟨sec, hsec, -, rfl⟩ := s.getSection_eq_some _hs
  have hlt := (List.getElem?_eq_some_iff.mp hsec).1
  simp only
  omega

end Loader

/-- `read_elf` and the loop after it. -/
def load (alloc : Nat → Nat) : Option (List Section) := (readElf file).bind (Loader.preload alloc)

/-! ## Well-formed files -/

/-- The layout of a file, by its class. -/
inductive ElfClass where
  | elf32
  | elf64
  deriving DecidableEq, Repr

def ElfClass.layout : ElfClass → ElfLayout
  | .elf32 => Elf.elf32
  | .elf64 => Elf.elf64

/-- **A well-formed little-endian file** with its program headers: the file header is there and says what
the file is, the program headers lie where it says, and so do the bytes of every segment to load. -/
structure ElfFile where
  bytes : List UInt8
  cls : ElfClass
  phoff : Nat
  phdrs : List Phdr
  header : cls.layout.ehdrSize ≤ bytes.length
  ident : bytes.take 4 = magic
  eiClass : bytes[4]? = some cls.layout.eiClass
  /-- `ELFDATA2LSB` -/
  eiData : bytes[5]? = some 1
  phoffAt : readLE bytes cls.layout.e_phoff cls.layout.word = some phoff
  phentsize : phdrs ≠ [] → readLE bytes cls.layout.e_phentsize 2 = some cls.layout.phdrSize
  phnum : readLE bytes cls.layout.e_phnum 2 = some phdrs.length
  headers : ∀ i ph, phdrs[i]? = some ph →
    readPhdr bytes cls.layout (phoff + i * cls.layout.phdrSize) = some ph
  inFile : ∀ ph ∈ phdrs, ph.loadable = true → ph.offset + ph.filesz ≤ bytes.length

namespace ElfFile

variable (f : ElfFile)

/-- The segment of a program header: its physical address and its bytes in the file. -/
def segment (ph : Phdr) : Section := ⟨ph.paddr, ph.filesz, (f.bytes.drop ph.offset).take ph.filesz⟩

/-- The loadable segments that have bytes in the file, in the order of the headers. -/
def segments : List Section := (f.phdrs.filter Phdr.loadable).map f.segment

theorem length_data {sec : Section} (h : sec ∈ f.segments) : sec.data.length = sec.length := by
  obtain ⟨ph, hph, rfl⟩ := List.mem_map.mp h
  rw [List.mem_filter] at hph
  have hin := f.inFile ph hph.1 hph.2
  simp only [segment, List.length_take, List.length_drop]
  omega

end ElfFile

/-! ## What `read_elf` stores -/

/-- The loop stores the segments in order and stops when the table is full. -/
theorem ElfFile.loadLoop_eq (f : ElfFile) :
    ∀ (remaining i : Nat) (sections : List Section), i + remaining = f.phdrs.length →
      sections.length ≤ MAX_SECTIONS →
      loadLoop f.bytes f.cls.layout f.phoff remaining i sections =
        some ((sections ++ ((f.phdrs.drop i).filter Phdr.loadable).map f.segment).take MAX_SECTIONS) := by
  intro remaining
  induction remaining with
  | zero =>
    intro i sections hi hlen
    rw [List.drop_eq_nil_of_le (by omega), loadLoop, List.filter_nil, List.map_nil, List.append_nil,
      List.take_of_length_le hlen]
  | succ n ih =>
    intro i sections hi hlen
    have hlt : i < f.phdrs.length := by omega
    have hdrop : f.phdrs.drop i = f.phdrs[i] :: f.phdrs.drop (i + 1) := List.drop_eq_getElem_cons hlt
    rw [loadLoop]
    by_cases hfull : sections.length < MAX_SECTIONS
    · rw [if_pos hfull, f.headers i f.phdrs[i] (List.getElem?_eq_getElem hlt), Option.bind_some, hdrop]
      by_cases hload : f.phdrs[i].loadable = true
      · have hin := f.inFile _ (List.getElem_mem hlt) hload
        rw [if_pos hload, slice, if_pos hin, Option.bind_some,
          ih (i + 1) _ (by omega) (by rw [List.length_append]; exact hfull), List.filter_cons_of_pos hload, List.map_cons,
          List.append_assoc]
        rfl
      · rw [if_neg hload, ih (i + 1) _ (by omega) hlen, List.filter_cons_of_neg hload]
    · have heq : sections.length = MAX_SECTIONS := by omega
      rw [if_neg hfull, List.take_append_of_le_length (by omega), List.take_of_length_le (by omega)]

theorem ElfFile.readSegments_eq (f : ElfFile) :
    readSegments f.bytes f.cls.layout = some ⟨f.segments.take MAX_SECTIONS, 0⟩ := by
  have hloop := f.loadLoop_eq f.phdrs.length 0 [] (by omega) (by decide)
  rw [List.nil_append, List.drop_zero] at hloop
  unfold readSegments
  rw [f.phoffAt, f.phnum]
  simp only [Option.bind_eq_bind, Option.bind_some]
  rw [hloop]
  rfl

/-- `read_elf` wants room for the larger of the two file headers. -/
theorem ElfFile.readElf_eq (f : ElfFile) :
    readElf f.bytes = if f.bytes.length < 64 then none else some ⟨f.segments.take MAX_SECTIONS, 0⟩ := by
  have hsize : elf64.ehdrSize = 64 := rfl
  rw [readElf, hsize, f.ident]
  by_cases hlen : f.bytes.length < 64
  · rw [if_pos hlen, if_pos hlen]
  · rw [if_neg hlen, if_neg hlen, if_neg (by simp), ← f.readSegments_eq, f.eiClass]
    cases f.cls with
    | elf32 =>
      rw [if_neg (by decide)]
      exact if_pos rfl
    | elf64 => exact if_pos rfl

/-! ## What the loop around the loader delivers -/

/-- What one turn of the loop reads for a section: the bytes of the first section at its address. -/
def Loader.deliver (s : Loader) (alloc : Nat → Nat) (sec : Section) : Option Section :=
  (s.readSectionSv sec.address (List.replicate (alloc sec.length) 0)).map fun buffer =>
    ⟨sec.address, sec.length, buffer.take sec.length⟩

/-- The loop goes through the table from `section_index` on. -/
theorem Loader.preload_eq_some_iff (alloc : Nat → Nat) (s : Loader) (r : List Section) :
    s.preload alloc = some r ↔
      List.Forall₂ (fun sec d => s.deliver alloc sec = some d) (s.sections.drop s.sectionIndex) r := by
  induction s using Loader.preload.induct generalizing r with
  | case1 s h =>
    have hend : s.sections.drop s.sectionIndex = [] := by
      rw [List.drop_eq_nil_iff, ← List.getElem?_eq_none_iff]
      unfold Loader.getSection at h
      split at h
      · cases h
      · assumption
    rw [Loader.preload, hend, List.forall₂_nil_left_iff]
    split
    · simp [eq_comm]
    · rename_i h'
      rw [h] at h'
      cases h'
  | case2 s a len s' h ih =>
    obtain ⟨sec, hsec, hal, rfl⟩ := s.getSection_eq_some h
    obtain ⟨rfl, rfl⟩ := Prod.mk.inj hal
    obtain ⟨hlt, rfl⟩ := List.getElem?_eq_some_iff.mp hsec
    have hdeliver : ∀ sec, (⟨s.sections, s.sectionIndex + 1⟩ : Loader).deliver alloc sec = s.deliver alloc sec :=
      fun _ => rfl
    simp only [hdeliver] at ih
    rw [List.drop_eq_getElem_cons hlt, List.forall₂_cons_left_iff, Loader.preload]
    split
    · rename_i h'
      rw [h] at h'
      cases h'
    · rename_i a' len' s'' h'
      rw [h] at h'
      obtain ⟨⟨rfl, rfl⟩, rfl⟩ : (a' = _ ∧ len' = _) ∧ s'' = _ := by
        simpa [eq_comm] using h'
      constructor
      · intro hr
        obtain ⟨buffer, hb, hr⟩ := Option.bind_eq_some_iff.mp hr
        obtain ⟨rest, hrest, rfl⟩ := Option.map_eq_some_iff.mp hr
        refine ⟨_, rest, ?_, (ih rest).mp hrest, rfl⟩
        exact Option.map_eq_some_iff.mpr ⟨buffer, hb, rfl⟩
      · rintro ⟨d, rest, hd, hrest, rfl⟩
        obtain ⟨buffer, hb, rfl⟩ := Option.map_eq_some_iff.mp hd
        exact Option.bind_eq_some_iff.mpr
          ⟨buffer, hb, Option.map_eq_some_iff.mpr ⟨rest, (ih rest).mpr hrest, rfl⟩⟩

/-- Reading `first` into a buffer for `sec` gives the bytes of `sec`: it fits in the buffer, and its bytes
with the zeros after them start with those of `sec`. -/
def Section.ReadsAs (alloc : Nat → Nat) (first sec : Section) : Prop :=
  first.length ≤ alloc sec.length ∧
    (first.data ++ List.replicate (alloc sec.length - first.length) 0).take sec.length = sec.data

instance instDecidableReadsAs (alloc : Nat → Nat) (first sec : Section) :
    Decidable (Section.ReadsAs alloc first sec) :=
  inferInstanceAs (Decidable (_ ∧ _))

/-- One turn delivers the section itself exactly when the first section at its address reads as it. -/
theorem Loader.deliver_eq_self_iff {s : Loader} {alloc : Nat → Nat} {sec : Section} (hmem : sec ∈ s.sections)
    (hdata : ∀ sec ∈ s.sections, sec.data.length = sec.length) :
    s.deliver alloc sec = some sec ↔
      ∀ first, s.sections.find? (fun x => x.address == sec.address) = some first →
        Section.ReadsAs alloc first sec := by
  obtain ⟨first, hfirst⟩ : ∃ first, s.sections.find? (fun x => x.address == sec.address) = some first :=
    Option.isSome_iff_exists.mp (List.find?_isSome.mpr ⟨sec, hmem, by simp⟩)
  have hlen := hdata first (List.mem_of_find?_eq_some hfirst)
  have honly : (∀ x, s.sections.find? (fun x => x.address == sec.address) = some x →
      Section.ReadsAs alloc x sec) ↔ Section.ReadsAs alloc first sec := by
    rw [hfirst]
    simp
  rw [honly, Loader.deliver, Loader.readSectionSv, hfirst]
  simp only [List.length_replicate]
  by_cases hfit : first.length ≤ alloc sec.length
  · rw [if_pos hfit, Option.map_some, Option.some.injEq, List.take_of_length_le (Nat.le_of_eq hlen), List.drop_replicate]
    constructor
    · intro heq
      exact ⟨hfit, congrArg Section.data heq⟩
    · rintro ⟨-, heq⟩
      rw [heq]
  · rw [if_neg hfit, Option.map_none]
    constructor
    · intro h
      cases h
    · intro h
      exact absurd h.1 hfit

/-- **When the loop delivers exactly the loadable segments**: the file is not shorter than an ELF64
header, the table has room for the segments, and each of them reads as the first one at its address, which
is itself unless the address is repeated. -/
theorem ElfFile.load_eq_segments_iff (f : ElfFile) (alloc : Nat → Nat) :
    load f.bytes alloc = some f.segments ↔
      64 ≤ f.bytes.length ∧ f.segments.length ≤ MAX_SECTIONS ∧
        ∀ sec ∈ f.segments, ∀ first, f.segments.find? (fun x => x.address == sec.address) = some first →
          Section.ReadsAs alloc first sec := by
  rw [load, f.readElf_eq]
  by_cases hsize : f.bytes.length < 64
  · rw [if_pos hsize]
    constructor
    · intro h
      cases h
    · rintro ⟨h, -⟩
      omega
  · rw [if_neg hsize, Option.bind_some, Loader.preload_eq_some_iff, List.drop_zero]
    by_cases hroom : f.segments.length ≤ MAX_SECTIONS
    · rw [List.take_of_length_le hroom, List.forall₂_same]
      have hturn : (∀ sec ∈ f.segments, (⟨f.segments, 0⟩ : Loader).deliver alloc sec = some sec) ↔
          ∀ sec ∈ f.segments, ∀ first, f.segments.find? (fun x => x.address == sec.address) = some first →
            Section.ReadsAs alloc first sec :=
        forall₂_congr fun sec hsec =>
          Loader.deliver_eq_self_iff (s := ⟨f.segments, 0⟩) hsec fun sec h => f.length_data h
      rw [hturn]
      exact ⟨fun h => ⟨by omega, hroom, h⟩, fun h => h.2.2⟩
    · constructor
      · intro h
        have hlen := h.length_eq
        rw [List.length_take] at hlen
        omega
      · rintro ⟨-, h, -⟩
        exact absurd h hroom

/-! ### Two segments at one address -/

/-- The little-endian bytes of a number. -/
def leBytes (n v : Nat) : List UInt8 := (List.range n).map fun i => UInt8.ofNat (v / 256 ^ i)

/-- A program header of an ELF64 file for `filesz` bytes at `offset`, to be loaded at `paddr`. -/
def phdr64Bytes (offset vaddr paddr filesz : Nat) : List UInt8 :=
  leBytes 4 PT_LOAD ++ leBytes 4 5 ++ leBytes 8 offset ++ leBytes 8 vaddr ++ leBytes 8 paddr ++ leBytes 8 filesz
    ++ leBytes 8 filesz ++ leBytes 8 1

/-- An executable whose two one-byte segments are overlays: linked at different virtual addresses, loaded
at the same physical one. -/
def overlayBytes : List UInt8 :=
  magic ++ [ELFCLASS64, 1, 1] ++ List.replicate 9 0 ++ leBytes 2 2 ++ leBytes 2 0xF3 ++ leBytes 4 1
    ++ leBytes 8 0x80000000 ++ leBytes 8 64 ++ leBytes 8 0 ++ leBytes 4 0 ++ leBytes 2 64 ++ leBytes 2 56
    ++ leBytes 2 2 ++ leBytes 2 0 ++ leBytes 2 0 ++ leBytes 2 0
    ++ phdr64Bytes 176 0x80000000 0x80000000 1 ++ phdr64Bytes 177 0x90000000 0x80000000 1 ++ [0x13, 0x73]

def overlayPhdrs : List Phdr := [⟨1, 176, 0x80000000, 1⟩, ⟨1, 177, 0x80000000, 1⟩]

theorem overlay_headers (i : Nat) (ph : Phdr) (h : overlayPhdrs[i]? = some ph) :
    readPhdr overlayBytes ElfClass.elf64.layout (64 + i * ElfClass.elf64.layout.phdrSize) = some ph := by
  have hall : ∀ j < overlayPhdrs.length,
      readPhdr overlayBytes ElfClass.elf64.layout (64 + j * ElfClass.elf64.layout.phdrSize) = overlayPhdrs[j]? := by
    decide +kernel
  rw [hall i (List.getElem?_eq_some_iff.mp h).1, h]

def overlayFile : ElfFile where
  bytes := overlayBytes
  cls := .elf64
  phoff := 64
  phdrs := overlayPhdrs
  header := by decide +kernel
  ident := by decide +kernel
  eiClass := by decide +kernel
  eiData := by decide +kernel
  phoffAt := by decide +kernel
  phentsize := fun _ => by decide +kernel
  phnum := by decide +kernel
  headers := overlay_headers
  inFile := by decide +kernel

/-- The buffer of the CVA6 testbench: whole 64-bit words. -/
def wordBuffer (len : Nat) : Nat := (len + 7) / 8 * 8

/-- The second of the two segments comes out with the byte of the first. -/
theorem overlay_read_as_first :
    overlayFile.segments = [⟨0x80000000, 1, [0x13]⟩, ⟨0x80000000, 1, [0x73]⟩] ∧
      load overlayFile.bytes wordBuffer = some [⟨0x80000000, 1, [0x13]⟩, ⟨0x80000000, 1, [0x13]⟩] ∧
      load overlayFile.bytes wordBuffer ≠ some overlayFile.segments := by
  have hsegs : overlayFile.segments = [⟨0x80000000, 1, [0x13]⟩, ⟨0x80000000, 1, [0x73]⟩] := by decide +kernel
  have hload : load overlayFile.bytes wordBuffer = some [⟨0x80000000, 1, [0x13]⟩, ⟨0x80000000, 1, [0x13]⟩] := by
    rw [load, overlayFile.readElf_eq, if_neg (by decide +kernel), Option.bind_some, Loader.preload_eq_some_iff,
      hsegs]
    exact .cons (by decide) (.cons (by decide) .nil)
  refine ⟨hsegs, hload, ?_⟩
  rw [hload, hsegs]
  decide

end Elf

end RiscvDbg
