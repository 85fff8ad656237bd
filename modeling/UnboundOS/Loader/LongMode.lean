import UnboundOS.Loader.Survival
import UnboundOS.Memory.HardwareWalk
import UnboundOS.X86.Modes

/-!
From the boot sector to 64-bit mode. Stage 1 reads Stage 2 to 0x8000, and with
it the descriptor table and the page tables that the assembler has laid out in
the file. Stage 2 then loads the kernel, asks for the memory map and switches
modes. Nothing it has stored by then touches its tables, so the switch goes
through, and the page tables map the first two megabytes to themselves and
nothing else. The switch itself marks the descriptors that it loads; what the
processor marks in the page tables is left out.
-/

namespace UnboundOS.Loader

open X86 X86.Memory X86.ModeProcessor

/-! ### Stage 1 -/

/-- The disk address packet of Stage 1. -/
def dap : DiskPacket := ⟨32#16, 0x8000#16, 0#16, 1#32, 0#32⟩

/-- `load_stage2`; `none` is `disk_error`. -/
def loadStage2 (disk : DiskPacket → Option (List U8)) (memory : Memory) : Option Memory :=
  (disk dap).map fun bytes => memory.writeBytes (physical dap.segment dap.offset) bytes

/-- From some address on, a file is where it is assembled for. -/
def LoadedFrom (first : Nat) (file : List U8) (memory : Memory) : Prop :=
  ∀ index < file.length, first ≤ 0x8000 + index →
    file[index]? = some (memory (0x8000#64 + BitVec.ofNat 64 index))

/-- Stage 1 gets the file that the image builder was given. -/
theorem loadStage2_spec {stage1 stage2 kernel image : List U8}
    (hbuilt : buildImage stage1 stage2 kernel = .ok image) {disk : DiskPacket → Option (List U8)}
    (hdisk : CopiesSectors disk image) (memory : Memory) :
    stage2.length ≤ 0x4000 ∧
      ∃ loaded, loadStage2 disk memory = some loaded ∧ ∀ first, LoadedFrom first stage2 loaded := by
  rw [buildImage] at hbuilt
  cases hchecked : checkFiles stage1 stage2 kernel with
  | error error =>
      rw [hchecked] at hbuilt
      cases hbuilt
  | ok _ =>
      rw [hchecked] at hbuilt
      cases hbuilt
      obtain ⟨_, hlength, _, _⟩ := checkFiles_ok hchecked
      have hlayout := layout_spec hchecked
      have hsize : stage2Sectors * sectorSize = 0x4000 := by decide
      have hread := hdisk dap
      refine ⟨by omega, _, by rw [loadStage2, hread]; rfl, ?_⟩
      intro first index hindex _
      have hbyte : (readSectors (layout stage1 stage2 kernel) 1 32)[index]? = stage2[index]? := by
        rw [readSectors_getElem _ _ (by simp only [sectorSize]; omega), Nat.one_mul]
        exact hlayout.stage2_at index hindex
      rw [List.getElem?_eq_getElem hindex] at hbyte ⊢
      have hsame := writeBytes_inside memory 0x8000#64 (by omega) hbyte
      exact congrArg some hsame.symm

/-! ### What the assembler lays out -/

/-- The labels of Stage 2 that the switch uses. -/
structure Stage2Labels where
  gdtStart : Nat
  gdtDescriptor : Nat
  pml4 : Nat
  pdpt : Nat
  pageDirectory : Nat
  protectedModeEntry : Nat
  longModeEntry : Nat

/-- `gdt_null`, `gdt_code32`, `gdt_data` and `gdt_code64`. -/
def gdtWords : List U64 :=
  [0#64, 0x00CF9A000000FFFF#64, 0x00CF92000000FFFF#64, 0x00AF9A000000FFFF#64]

/-- `dq` of one entry and `times 511 dq 0`. -/
def tableWords (entry : U64) : List U64 := entry :: List.replicate 511 0#64

def dataWords (words : List U64) : List U8 := words.flatMap (littleEndian 8)

/-- The bytes stand at a label of a file assembled for 0x8000. -/
structure AtLabel (file : List U8) (label : Nat) (bytes : List U8) : Prop where
  start : 0x8000 ≤ label
  bytes : ∀ index < bytes.length, file[label - 0x8000 + index]? = bytes[index]?

/-- The tables in the file of Stage 2. -/
structure Assembled (labels : Stage2Labels) (stage2 : List U8) : Prop where
  gdt : AtLabel stage2 labels.gdtStart (dataWords gdtWords)
  order : labels.gdtStart + 32 ≤ labels.gdtDescriptor ∧ labels.gdtStart + 32 ≤ labels.pml4 ∧
    labels.gdtStart + 32 ≤ labels.pdpt ∧ labels.gdtStart + 32 ≤ labels.pageDirectory
  descriptor : AtLabel stage2 labels.gdtDescriptor
    (littleEndian 2 31#64 ++ littleEndian 4 (BitVec.ofNat 64 labels.gdtStart))
  pml4 : AtLabel stage2 labels.pml4 (dataWords (tableWords (BitVec.ofNat 64 (labels.pdpt + 3))))
  pdpt : AtLabel stage2 labels.pdpt
    (dataWords (tableWords (BitVec.ofNat 64 (labels.pageDirectory + 3))))
  pageDirectory : AtLabel stage2 labels.pageDirectory (dataWords (tableWords 0x83#64))
  pml4_aligned : labels.pml4 % 4096 = 0
  pdpt_aligned : labels.pdpt % 4096 = 0
  pageDirectory_aligned : labels.pageDirectory % 4096 = 0
  protectedModeEntry : labels.protectedModeEntry < 0xC000
  longModeEntry : labels.longModeEntry < 0xC000

section AtLabel

variable {file : List U8} {memory : Memory} {first label : Nat}

/-- A placed byte in memory. -/
theorem AtLabel.loaded {bytes : List U8} (hlabel : AtLabel file label bytes)
    (hloaded : LoadedFrom first file memory) (hfirst : first ≤ label) {index : Nat} {byte : U8}
    (hbyte : bytes[index]? = some byte) :
    memory (BitVec.ofNat 64 label + BitVec.ofNat 64 index) = byte := by
  obtain ⟨hindex, _⟩ := List.getElem?_eq_some_iff.mp hbyte
  have hfile := hlabel.bytes index hindex
  rw [hbyte] at hfile
  obtain ⟨hinside, _⟩ := List.getElem?_eq_some_iff.mp hfile
  have hstart := hlabel.start
  have hmemory := hloaded _ hinside (by omega)
  rw [hfile] at hmemory
  have haddress : BitVec.ofNat 64 label + BitVec.ofNat 64 index =
      0x8000#64 + BitVec.ofNat 64 (label - 0x8000 + index) := by
    rw [← BitVec.ofNat_add, ← BitVec.ofNat_add]
    congr 1
    omega
  rw [haddress]
  exact (Option.some.inj hmemory).symm

theorem AtLabel.left {first second : List U8} (hlabel : AtLabel file label (first ++ second)) :
    AtLabel file label first := by
  refine ⟨hlabel.start, fun index hindex => ?_⟩
  rw [hlabel.bytes index (by rw [List.length_append]; omega), List.getElem?_append_left hindex]

theorem AtLabel.right {first second : List U8} (hlabel : AtLabel file label (first ++ second)) :
    AtLabel file (label + first.length) second := by
  have hstart := hlabel.start
  refine ⟨by omega, fun index hindex => ?_⟩
  have hbyte := hlabel.bytes (first.length + index) (by rw [List.length_append]; omega)
  rw [List.getElem?_append_right (by omega), Nat.add_sub_cancel_left] at hbyte
  have hsame : label + first.length - 0x8000 + index =
      label - 0x8000 + (first.length + index) := by
    omega
  rw [hsame, hbyte]

/-- Words of the file are words of memory. -/
theorem AtLabel.holds {words : List U64} (hlabel : AtLabel file label (dataWords words))
    (hloaded : LoadedFrom first file memory) (hfirst : first ≤ label) :
    memory.Holds (BitVec.ofNat 64 label) words := by
  induction words generalizing label with
  | nil => trivial
  | cons word rest ih =>
      constructor
      · apply read64_of_bytes
        intro offset hoffset
        exact AtLabel.loaded hlabel.left hloaded hfirst (littleEndian_getElem hoffset word)
      · have hrest := ih hlabel.right (by omega)
        rwa [littleEndian_length, BitVec.ofNat_add] at hrest

/-- Words of a file that fits into its sectors are below 0xC000. -/
theorem AtLabel.low {word : U64} {rest : List U64}
    (hlabel : AtLabel file label (dataWords (word :: rest))) (hlength : file.length ≤ 0x4000) :
    label < 0xC000 := by
  have hstart := hlabel.start
  have hbyte := (hlabel.left.bytes 0 (by rw [littleEndian_length]; omega)).trans
    (littleEndian_getElem (by omega) word)
  obtain ⟨hindex, _⟩ := List.getElem?_eq_some_iff.mp hbyte
  omega

theorem LoadedFrom.mono {later : Nat} (hloaded : LoadedFrom first file memory)
    (hlater : first ≤ later) : LoadedFrom later file memory :=
  fun index hindex hfirst => hloaded index hindex (hlater.trans hfirst)

/-- Stores elsewhere leave the file. -/
theorem LoadedFrom.outside {region : Set U64} {after : Memory}
    (hloaded : LoadedFrom first file memory) (hlength : file.length ≤ 0x4000)
    (hsame : SameOutside region memory after)
    (hregion : ∀ address ∈ region, address.toNat < first ∨ 0xC000 ≤ address.toNat) :
    LoadedFrom first file after := by
  intro index hindex hfirst
  have haddress : (0x8000#64 + BitVec.ofNat 64 index).toNat = 0x8000 + index := by
    rw [BitVec.toNat_add, BitVec.toNat_ofNat, BitVec.toNat_ofNat]
    omega
  rw [hloaded index hindex hfirst, hsame _ fun hmem => ?_]
  rcases hregion _ hmem with hbelow | habove <;> omega

end AtLabel

/-! ### The page tables -/

section Walk

open UnboundOS.Memory.HardwareWalk

variable {memory : X86.Memory}

/-- Only the first entry of such a table is present. -/
theorem entryAt_tableWords {table entry : U64} (hholds : memory.Holds table (tableWords entry))
    (index : Fin 512) : entryAt memory table index = if index.val = 0 then entry else 0#64 := by
  apply hholds.getElem
  rw [tableWords]
  obtain ⟨index, hindex⟩ := index
  cases index with
  | zero => rfl
  | succ index =>
      rw [List.getElem?_cons_succ, List.getElem?_replicate_of_lt (by omega)]
      rfl

/-- Flags below an aligned table do not count. -/
theorem tableBase_aligned {table flags : Nat} (haligned : table % 4096 = 0)
    (hlow : table < 0xC000) (hflags : flags < 4096) :
    tableBase (BitVec.ofNat 64 (table + flags)) = BitVec.ofNat 64 table := by
  apply BitVec.eq_of_toNat_eq
  rw [toNat_tableBase, BitVec.toNat_ofNat, BitVec.toNat_ofNat]
  omega

/-- `dq table + 0x003` points to the table. -/
theorem tableBase_present {table : Nat} (haligned : table % 4096 = 0) (hlow : table < 0xC000) :
    tableBase (BitVec.ofNat 64 (table + 3)) = BitVec.ofNat 64 table ∧
      (BitVec.ofNat 64 (table + 3)).getLsbD 0 = true ∧
      (BitVec.ofNat 64 (table + 3)).getLsbD 7 = false := by
  have hentry : (BitVec.ofNat 64 (table + 3)).toNat = table + 3 := by
    rw [BitVec.toNat_ofNat]
    omega
  refine ⟨tableBase_aligned haligned hlow (by omega), ?_, ?_⟩
  · rw [BitVec.getLsbD, hentry, Nat.testBit_eq_decide_div_mod_eq, decide_eq_true_eq]
    omega
  · rw [BitVec.getLsbD, hentry, Nat.testBit_eq_decide_div_mod_eq, decide_eq_false_iff_not]
    omega

theorem walkIndex_val (address : U64) (low : Nat) :
    (walkIndex address low).val = address.toNat / 2 ^ low % 512 := by
  change (address.extractLsb' low 9).toNat = _
  rw [BitVec.extractLsb'_toNat, Nat.shiftRight_eq_div_pow]

/-- The page tables of Stage 2: the first two megabytes map to themselves, every
other address faults. -/
theorem walk_eq {pml4 pdpt pageDirectory : Nat}
    (hpml4 : memory.Holds (BitVec.ofNat 64 pml4) (tableWords (BitVec.ofNat 64 (pdpt + 3))))
    (hpdpt : memory.Holds (BitVec.ofNat 64 pdpt)
      (tableWords (BitVec.ofNat 64 (pageDirectory + 3))))
    (hdirectory : memory.Holds (BitVec.ofNat 64 pageDirectory) (tableWords 0x83#64))
    (haligned : pdpt % 4096 = 0 ∧ pageDirectory % 4096 = 0)
    (hlow : pdpt < 0xC000 ∧ pageDirectory < 0xC000) (address : U64) :
    walk memory (BitVec.ofNat 64 pml4) address =
      if address.toNat < 0x200000 then some address else none := by
  obtain ⟨hnext, hpresent, _⟩ := tableBase_present haligned.1 hlow.1
  obtain ⟨hlast, hpresent', hsmall⟩ := tableBase_present haligned.2 hlow.2
  have hzero : (0#64).getLsbD 0 = false := by decide
  have hcanonical := canonical_iff address
  have h39 := walkIndex_val address 39
  have h30 := walkIndex_val address 30
  have h21 := walkIndex_val address 21
  unfold walk
  by_cases hlinear : canonical address = true
  · have hrange := hcanonical.mp hlinear
    rw [hlinear, entryAt_tableWords hpml4]
    by_cases hfirst : (walkIndex address 39).val = 0
    · simp only [if_pos hfirst, hpresent, hnext, entryAt_tableWords hpdpt]
      by_cases hsecond : (walkIndex address 30).val = 0
      · simp only [if_pos hsecond, hpresent', hsmall, hlast, entryAt_tableWords hdirectory]
        by_cases hthird : (walkIndex address 21).val = 0
        · have hpage : pageAddress 0x83#64 address 21 = address := by
            apply BitVec.eq_of_toNat_eq
            rw [toNat_pageAddress _ _ (by omega), BitVec.toNat_ofNat]
            omega
          have hentry : (0x83#64).getLsbD 0 = true ∧ (0x83#64).getLsbD 7 = true := by decide
          rw [if_pos hthird, hentry.1, hentry.2, hpage,
            if_pos (show address.toNat < 0x200000 by omega)]
          rfl
        · rw [if_neg hthird, hzero, if_neg (show ¬ address.toNat < 0x200000 by omega)]
          rfl
      · rw [if_neg hsecond, hzero, if_neg (show ¬ address.toNat < 0x200000 by omega)]
        rfl
    · simp only [if_neg hfirst, hzero, if_neg (show ¬ address.toNat < 0x200000 by omega)]
      rfl
  · have hrange := mt hcanonical.mpr hlinear
    rw [Bool.eq_false_iff.mpr hlinear, if_neg (show ¬ address.toNat < 0x200000 by omega)]
    rfl

end Walk

/-! ### The switch -/

/-- The physical address behind a linear one. Of CR3 the walk takes bits 51:12. -/
def translate (self : ModeProcessor) (address : U64) : Option U64 :=
  let mapped :=
    if !self.paging then some address
    else if self.longActive then
      UnboundOS.Memory.HardwareWalk.walk self.memory
        (UnboundOS.Memory.HardwareWalk.tableBase self.cr3) address
    else none
  mapped.map fun physical => if self.a20 then physical else physical &&& ~~~0x100000#64

/-- The end of the 16-bit part of Stage 2. -/
def enterProtectedMode (labels : Stage2Labels) : List Switch :=
  [.cli, .lgdt (BitVec.ofNat 64 labels.gdtDescriptor), .orCr0 1#64,
    .farJump 0x08#16 (BitVec.ofNat 64 labels.protectedModeEntry)]

def protectedModeEntry (labels : Stage2Labels) : List Switch :=
  [.movData .ds 0x10#16, .movData .es 0x10#16, .movData .fs 0x10#16, .movData .gs 0x10#16,
    .movStack 0x10#16, .movRsp 0x90000#64, .enableA20,
    .movCr3 (BitVec.ofNat 64 labels.pml4), .orCr4 0x20#64, .orEfer 0x100#64, .orCr0 0x80000000#64,
    .farJump 0x18#16 (BitVec.ofNat 64 labels.longModeEntry)]

/-- Up to the stack of 64-bit mode. -/
def longModeEntry : List Switch :=
  [.movData .ds 0x10#16, .movData .es 0x10#16, .movStack 0x10#16,
    .movData .fs 0#16, .movData .gs 0#16, .movRsp 0x90000#64]

def enterLongMode (labels : Stage2Labels) : List Switch :=
  enterProtectedMode labels ++ (protectedModeEntry labels ++ longModeEntry)

/-- As Stage 1 hands over. -/
structure RealMode (cpu : ModeProcessor) : Prop where
  notProtected : cpu.isProtected = false
  noPaging : cpu.paging = false
  notLong : cpu.longActive = false
  cs : cpu.cs = 0#16

/-- The register that `lgdt` loads. -/
def stage2Gdtr (labels : Stage2Labels) : TableRegister := ⟨BitVec.ofNat 64 labels.gdtStart, 31#16⟩

/-- The registers at `protected_mode_entry`. -/
def atProtectedMode (labels : Stage2Labels) (state : ModeState) : ModeState :=
  {state with
    cr0 := state.cr0 ||| 1#64
    rflags := state.rflags &&& ~~~0x200#64
    rip := BitVec.ofNat 64 labels.protectedModeEntry
    cs := 0x08#16
    csWord := 0x00CF9B000000FFFF#64
    gdtr := stage2Gdtr labels}

/-- The registers at `long_mode_entry`. -/
def atLongMode (labels : Stage2Labels) (state : ModeState) : ModeState :=
  {state with
    cr0 := state.cr0 ||| 0x80000000#64
    cr3 := BitVec.ofNat 64 labels.pml4
    cr4 := state.cr4 ||| 0x20#64
    efer := state.efer ||| 0x100#64 ||| 0x400#64
    rsp := 0x90000#64
    rip := BitVec.ofNat 64 labels.longModeEntry
    cs := 0x18#16
    csWord := 0x00AF9B000000FFFF#64
    ss := 0x10#16
    ds := 0x10#16
    es := 0x10#16
    a20 := true}

section Switch

variable {labels : Stage2Labels} {before : X86.Memory} {state : ModeState}

theorem canonical_low {address : Nat} (haddress : address < 0xC000) :
    canonical (BitVec.ofNat 64 address) = true := by
  have hlow : (BitVec.ofNat 64 address).toNat < 2 ^ 47 := by
    rw [BitVec.toNat_ofNat]
    omega
  exact (canonical_iff (BitVec.ofNat 64 address)).mpr (Or.inl hlow)

/-- Memory as the switch finds it, with the marks that it sets. -/
def Stage2Marks (labels : Stage2Labels) (before : X86.Memory) : X86.Memory → Prop :=
  MarksTable (stage2Gdtr labels).base gdtWords before

theorem stage2Gdtr_limit (labels : Stage2Labels) :
    (stage2Gdtr labels).limit.toNat + 1 = 8 * gdtWords.length :=
  show (31#16).toNat + 1 = 8 * gdtWords.length by decide

theorem enterProtectedMode_leads
    (hlimit : ∀ memory, Stage2Marks labels before memory →
      memory.read16 (BitVec.ofNat 64 labels.gdtDescriptor) = 31#16)
    (hbase : ∀ memory, Stage2Marks labels before memory →
      memory.read32 (BitVec.ofNat 64 labels.gdtDescriptor + 2#64) = BitVec.ofNat 32 labels.gdtStart)
    (hstart : labels.gdtStart < 0xC000) (hentry : labels.protectedModeEntry < 0xC000)
    (hpaging : state.cr0.getLsbD 31 = false) (hactive : state.efer.getLsbD 10 = false)
    (hcs : state.cs = 0#16) :
    Leads (Stage2Marks labels before) state (enterProtectedMode labels)
      (atProtectedMode labels state) := by
  have hregister : (BitVec.ofNat 32 labels.gdtStart &&& 0xFFFFFF#32).setWidth 64 =
      BitVec.ofNat 64 labels.gdtStart := by
    apply BitVec.eq_of_toNat_eq
    rw [BitVec.toNat_setWidth, BitVec.toNat_and, BitVec.toNat_ofNat, BitVec.toNat_ofNat,
      show 0xFFFFFF % 2 ^ 32 = 2 ^ 24 - 1 by decide, Nat.and_two_pow_sub_one_eq_mod,
      BitVec.toNat_ofNat]
    omega
  obtain ⟨cr0, cr3, cr4, efer, rflags, rsp, rip, cs, csWord, ss, ds, es, a20, gdtr⟩ := state
  dsimp only at hpaging hactive hcs
  subst hcs
  apply Leads.cli
  apply Leads.lgdt hlimit hbase
  rw [hregister]
  dsimp only
  apply Leads.orCr0_protect
  · dsimp only
    rw [BitVec.getLsbD_or, hpaging]
    decide
  · exact hactive
  have hcode : gdtWords[(0x08#16).toNat / 8]? = some 0x00CF9A000000FFFF#64 := by decide
  apply Leads.farJump (stage2Gdtr_limit labels) (by decide) hcode (by decide)
  · exact ⟨by decide, by decide, show requestedLevel 0x08#16 ≤ requestedLevel 0#16 by decide,
      show Descriptor.level 0x00CF9A000000FFFF#64 = requestedLevel 0#16 by decide,
      fun hlong => absurd hlong.2.1 (by decide)⟩
  · decide
  · exact canonical_low hentry
  · exact show bareSelector 0x08#16 ||| (requestedLevel 0#16).setWidth 16 = 0x08#16 by decide
  exact Leads.nil _ _

theorem gdtWords_data : gdtWords[(0x10#16).toNat / 8]? = some 0x00CF92000000FFFF#64 := by decide

/-- The data segment, from a code segment of level 0. -/
theorem movData_flat {register : DataRegister} {program : List Switch} {final : ModeState}
    (hgdtr : state.gdtr = stage2Gdtr labels) (hlevel : requestedLevel state.cs = 0#2)
    (hrest : Leads (Stage2Marks labels before) (state.setData register 0x10#16) program final) :
    Leads (Stage2Marks labels before) state (.movData register 0x10#16 :: program) final := by
  rw [Stage2Marks, ← hgdtr] at hrest ⊢
  have hlimit : state.gdtr.limit.toNat + 1 = 8 * gdtWords.length := hgdtr ▸ stage2Gdtr_limit labels
  apply Leads.movData hlimit (by decide) gdtWords_data (by decide) _ (by decide) hrest
  rw [hlevel]
  decide

theorem movStack_flat {program : List Switch} {final : ModeState}
    (hgdtr : state.gdtr = stage2Gdtr labels) (hlevel : requestedLevel state.cs = 0#2)
    (hrest : Leads (Stage2Marks labels before) {state with ss := 0x10#16} program final) :
    Leads (Stage2Marks labels before) state (.movStack 0x10#16 :: program) final := by
  rw [Stage2Marks, ← hgdtr] at hrest ⊢
  have hlimit : state.gdtr.limit.toNat + 1 = 8 * gdtWords.length := hgdtr ▸ stage2Gdtr_limit labels
  apply Leads.movStack hlimit (by decide) gdtWords_data (by decide) _ (by decide) hrest
  rw [hlevel]
  decide

theorem protectedModeEntry_leads
    (hentry : labels.longModeEntry < 0xC000) (hprotected : state.cr0.getLsbD 0 = true)
    (hpaging : state.cr0.getLsbD 31 = false) (hactive : state.efer.getLsbD 10 = false)
    (hcs : state.cs = 0x08#16) (hcsWord : state.csWord = 0x00CF9B000000FFFF#64)
    (hgdtr : state.gdtr = stage2Gdtr labels) :
    Leads (Stage2Marks labels before) state (protectedModeEntry labels)
      (atLongMode labels state) := by
  obtain ⟨cr0, cr3, cr4, efer, rflags, rsp, rip, cs, csWord, ss, ds, es, a20, gdtr⟩ := state
  dsimp only at hprotected hpaging hactive hcs hcsWord hgdtr
  subst hcs hcsWord hgdtr
  have hlevel : requestedLevel 0x08#16 = 0#2 := by decide
  refine movData_flat rfl hlevel (movData_flat rfl hlevel ?_)
  refine movData_flat rfl hlevel (movData_flat rfl hlevel ?_)
  dsimp only [ModeState.setData]
  refine movStack_flat rfl hlevel ?_
  apply Leads.movRsp
  apply Leads.enableA20
  dsimp only
  apply Leads.movCr3
  refine Leads.orCr4 hactive ?_
  refine Leads.orEfer hpaging (by decide) ?_
  dsimp only
  apply Leads.orCr0_activate
  · simp only [BitVec.getLsbD_or, hpaging]
    decide
  · simp only [BitVec.getLsbD_or, hprotected, Bool.true_or]
  · exact hpaging
  · simp
  · simp
  · exact show (0x00CF9B000000FFFF#64).getLsbD 53 = false by decide
  dsimp only
  have hcode : gdtWords[(0x18#16).toNat / 8]? = some 0x00AF9A000000FFFF#64 := by decide
  apply Leads.farJump (stage2Gdtr_limit labels) (by decide) hcode (by decide)
  · exact ⟨by decide, by decide, show requestedLevel 0x18#16 ≤ requestedLevel 0x08#16 by decide,
      show Descriptor.level 0x00AF9A000000FFFF#64 = requestedLevel 0x08#16 by decide,
      fun hlong => absurd hlong.2.2 (by decide)⟩
  · decide
  · exact canonical_low hentry
  · exact show bareSelector 0x18#16 ||| (requestedLevel 0x08#16).setWidth 16 = 0x18#16 by decide
  exact Leads.nil _ _

theorem longModeEntry_leads (hcs : state.cs = 0x18#16) (hgdtr : state.gdtr = stage2Gdtr labels) :
    Leads (Stage2Marks labels before) state longModeEntry
      {state with ds := 0x10#16, es := 0x10#16, ss := 0x10#16, rsp := 0x90000#64} := by
  obtain ⟨cr0, cr3, cr4, efer, rflags, rsp, rip, cs, csWord, ss, ds, es, a20, gdtr⟩ := state
  dsimp only at hcs hgdtr
  subst hcs hgdtr
  have hlevel : requestedLevel 0x18#16 = 0#2 := by decide
  refine movData_flat rfl hlevel (movData_flat rfl hlevel ?_)
  dsimp only [ModeState.setData]
  refine movStack_flat rfl hlevel ?_
  apply Leads.movData_null
  apply Leads.movData_null
  apply Leads.movRsp
  exact Leads.nil _ _

/-- The switch goes through whatever the registers are, given the tables. -/
theorem enterLongMode_leads
    (hlimit : ∀ memory, Stage2Marks labels before memory →
      memory.read16 (BitVec.ofNat 64 labels.gdtDescriptor) = 31#16)
    (hbase : ∀ memory, Stage2Marks labels before memory →
      memory.read32 (BitVec.ofNat 64 labels.gdtDescriptor + 2#64) = BitVec.ofNat 32 labels.gdtStart)
    (hstart : labels.gdtStart < 0xC000)
    (hentries : labels.protectedModeEntry < 0xC000 ∧ labels.longModeEntry < 0xC000)
    (hpaging : state.cr0.getLsbD 31 = false) (hactive : state.efer.getLsbD 10 = false)
    (hcs : state.cs = 0#16) :
    Leads (Stage2Marks labels before) state (enterLongMode labels)
      (atLongMode labels (atProtectedMode labels state)) := by
  apply Leads.append
    (enterProtectedMode_leads hlimit hbase hstart hentries.1 hpaging hactive hcs)
  have hprotected : (atProtectedMode labels state).cr0.getLsbD 0 = true := by
    simp [atProtectedMode]
  have hpaging' : (atProtectedMode labels state).cr0.getLsbD 31 = false := by
    simp only [atProtectedMode, BitVec.getLsbD_or, hpaging]
    decide
  apply Leads.append (protectedModeEntry_leads hentries.2 hprotected hpaging' hactive rfl rfl rfl)
  exact longModeEntry_leads rfl rfl

end Switch

/-! ### From the boot sector -/

section Kernel

variable {image : List U8} {disk : DiskPacket → Option (List U8)} {self next loaded : KernelLoad}

theorem loadNextChunk_kept (hdisk : CopiesSectors disk image) (himage : image.length = imageSize)
    {done : Nat} (hself : LoadAt done self) (hdone : done < 1024)
    (hnext : loadNextChunk disk self = some next) :
    SameOutside (span kernelBuffer kernelBufferSize) self.memory next.memory := by
  have hchunk : chunkAt done ≤ 1024 - done := min_le_right _ _
  have hsize : imageSize = 541184 := rfl
  have hlength : (readSectors image (33 + done) (chunkAt done)).length = chunkAt done * 512 := by
    apply readSectors_length
    rw [himage, sectorSize]
    omega
  rw [loadNextChunk, hself.reply hdisk] at hnext
  cases hnext
  change SameOutside _ _ (self.memory.writeBytes (physical self.destinationSegment 0#16) _)
  rw [hself.destination]
  apply (writeBytes_sameOutside _ _ _).mono
  rw [hlength]
  exact span_subset rfl (by rw [sectorSize, kernelBufferSize]; omega)

/-- `load_kernel` stores into its buffer only. -/
theorem loadKernel_kept (hdisk : CopiesSectors disk image) (himage : image.length = imageSize)
    {memory : X86.Memory} (hloaded : loadKernel disk memory = some loaded) :
    SameOutside (span kernelBuffer kernelBufferSize) memory loaded.memory := by
  have hloop (fuel : Nat) (done : Nat) (self : KernelLoad) (hself : SectorsLoaded image done self)
      (hloaded : loadChunks disk fuel self = some loaded) :
      SameOutside (span kernelBuffer kernelBufferSize) self.memory loaded.memory := by
    induction fuel generalizing done self with
    | zero =>
        cases hloaded
        exact SameOutside.refl _ _
    | succ fuel ih =>
        rw [loadChunks] at hloaded
        split at hloaded
        · cases hloaded
          exact SameOutside.refl _ _
        · next hmore =>
            have hdone : done < 1024 := by
              rcases Nat.lt_or_eq_of_le hself.bound with hless | rfl
              · exact hless
              · exact absurd hself.remaining hmore
            obtain ⟨next, hnext, hsectors⟩ := loadNextChunk_spec hdisk himage hself hdone
            rw [hnext] at hloaded
            have hkept := loadNextChunk_kept hdisk himage hself.toLoadAt hdone hnext
            exact hkept.trans (ih _ next hsectors hloaded)
  exact hloop 1024 0 _ (startLoad_loaded image memory) hloaded

end Kernel

/-- What the firmware and the code before the switch may change: everything
below the tables of Stage 2, its variables among it. -/
def belowTables (labels : Stage2Labels) : Set U64 :=
  {address | address.toNat < labels.gdtStart}

/-- The tables that the switch hands to the processor, which marks what it uses
of them. -/
def stage2Tables (labels : Stage2Labels) : Set U64 :=
  span (BitVec.ofNat 64 labels.gdtStart) 32 ∪ span (BitVec.ofNat 64 labels.pml4) 0x1000 ∪
    span (BitVec.ofNat 64 labels.pdpt) 0x1000 ∪ span (BitVec.ofNat 64 labels.pageDirectory) 0x1000

/-- 64-bit mode as the rest of Stage 2 finds it. -/
structure InLongMode (self : ModeProcessor) : Prop where
  mode : self.mode = .bits64
  cpl : self.cpl = 0#2
  rsp : self.regs .rsp = 0x90000#64
  segments : self.cs = 0x18#16 ∧ self.ss = 0x10#16 ∧ self.ds = 0x10#16 ∧ self.es = 0x10#16
  interrupts : self.rflags.getLsbD 9 = false
  translate : ∀ address, translate self address =
    if address.toNat < 0x200000 then some address else none

section Boot

variable {labels : Stage2Labels} {stage2 : List U8} {memory : X86.Memory}

/-- The registers and the page tables make 64-bit mode. -/
theorem inLongMode_of_state {state : ModeState} {self : ModeProcessor}
    (hstate : self.state = atLongMode labels (atProtectedMode labels state))
    (hwalk : ∀ address, UnboundOS.Memory.HardwareWalk.walk self.memory
      (UnboundOS.Memory.HardwareWalk.tableBase (BitVec.ofNat 64 labels.pml4)) address =
        if address.toNat < 0x200000 then some address else none) :
    InLongMode self := by
  have hcr0 : self.cr0 = state.cr0 ||| 1#64 ||| 0x80000000#64 := congrArg ModeState.cr0 hstate
  have hefer : self.efer = state.efer ||| 0x100#64 ||| 0x400#64 := congrArg ModeState.efer hstate
  have hcr3 : self.cr3 = BitVec.ofNat 64 labels.pml4 := congrArg ModeState.cr3 hstate
  have hcs : self.cs = 0x18#16 := congrArg ModeState.cs hstate
  have hcsWord : self.csWord = 0x00AF9B000000FFFF#64 := congrArg ModeState.csWord hstate
  have hrflags : self.rflags = state.rflags &&& ~~~0x200#64 := congrArg ModeState.rflags hstate
  have ha20 : self.a20 = true := congrArg ModeState.a20 hstate
  have hprotected : self.isProtected = true := by
    rw [isProtected, hcr0]
    simp
  have hpaging : self.paging = true := by
    rw [paging, hcr0]
    simp
  have hactive : self.longActive = true := by
    rw [longActive, hefer]
    simp
  refine ⟨?_, ?_, congrArg ModeState.rsp hstate, ⟨hcs, congrArg ModeState.ss hstate,
    congrArg ModeState.ds hstate, congrArg ModeState.es hstate⟩, ?_, ?_⟩
  · rw [mode, hprotected, hactive, hcsWord]
    decide
  · rw [Processor.cpl, hcs]
    decide
  · rw [hrflags]
    simp
  · intro address
    rw [translate, hpaging, hactive, hcr3, hwalk, ha20]
    simp

/-- The operand of `lgdt` in memory. -/
theorem Assembled.gdtDescriptor (hassembled : Assembled labels stage2)
    (hloaded : LoadedFrom (labels.gdtStart + 32) stage2 memory) :
    memory.read16 (BitVec.ofNat 64 labels.gdtDescriptor) = 31#16 ∧
      memory.read32 (BitVec.ofNat 64 labels.gdtDescriptor + 2#64) =
        BitVec.ofNat 32 labels.gdtStart := by
  have hdescriptor := hassembled.order.1
  constructor
  · apply read16_of_bytes (show ∀ offset < 2, _ = (31#64).extractLsb' (8 * offset) 8 from ?_)
    intro offset hoffset
    exact hassembled.descriptor.left.loaded hloaded hdescriptor (littleEndian_getElem hoffset _)
  · have hvalue : (BitVec.ofNat 64 labels.gdtStart).setWidth 32 =
        BitVec.ofNat 32 labels.gdtStart := by
      simp
    rw [← hvalue]
    apply read32_of_bytes
    intro offset hoffset
    have hright := hassembled.descriptor.right
    rw [littleEndian_length] at hright
    have hbyte := hright.loaded hloaded (by omega) (littleEndian_getElem hoffset _)
    rwa [BitVec.ofNat_add] at hbyte

/-- The page tables in memory. -/
theorem Assembled.walk (hassembled : Assembled labels stage2) (hlength : stage2.length ≤ 0x4000)
    (hloaded : LoadedFrom (labels.gdtStart + 32) stage2 memory) (address : U64) :
    UnboundOS.Memory.HardwareWalk.walk memory
        (UnboundOS.Memory.HardwareWalk.tableBase (BitVec.ofNat 64 labels.pml4)) address =
      if address.toNat < 0x200000 then some address else none := by
  obtain ⟨_, hpml4, hpdpt, hdirectory⟩ := hassembled.order
  have hroot := tableBase_aligned hassembled.pml4_aligned (hassembled.pml4.low hlength)
    (show 0 < 4096 by decide)
  rw [Nat.add_zero] at hroot
  rw [hroot]
  exact walk_eq (hassembled.pml4.holds hloaded hpml4) (hassembled.pdpt.holds hloaded hpdpt)
    (hassembled.pageDirectory.holds hloaded hdirectory)
    ⟨hassembled.pdpt_aligned, hassembled.pageDirectory_aligned⟩
    ⟨hassembled.pdpt.low hlength, hassembled.pageDirectory.low hlength⟩ address

/-- The switch, with the file of Stage 2 still there from its tables on. -/
theorem enterLongMode_reaches (hassembled : Assembled labels stage2)
    (hlength : stage2.length ≤ 0x4000) {cpu : ModeProcessor} (hcpu : RealMode cpu)
    (hloaded : LoadedFrom labels.gdtStart stage2 cpu.memory) :
    ∃ final, cpu.executeAll (enterLongMode labels) = .ok final ∧
      final.memory.HoldsTable (BitVec.ofNat 64 labels.gdtStart) gdtWords ∧
      SameOutside (stage2Tables labels) cpu.memory final.memory ∧ InLongMode final := by
  have hlow := hassembled.gdt.low hlength
  -- The marks are set in the descriptors, and the rest of the file is behind them.
  have hfile (memory : X86.Memory) (hmarks : Stage2Marks labels cpu.memory memory) :
      LoadedFrom (labels.gdtStart + 32) stage2 memory := by
    apply (hloaded.mono (Nat.le_add_right _ 32)).outside hlength hmarks.outside
    intro address hmem
    have hgdt : address ∈ span (BitVec.ofNat 64 labels.gdtStart) 32 := hmem
    rw [mem_span] at hgdt
    have hstart : (BitVec.ofNat 64 labels.gdtStart).toNat = labels.gdtStart := by
      rw [BitVec.toNat_ofNat]
      omega
    exact Or.inl (by bv_omega)
  have hleads : Leads (Stage2Marks labels cpu.memory) cpu.state (enterLongMode labels) _ :=
    enterLongMode_leads (fun memory hmarks => (hassembled.gdtDescriptor (hfile memory hmarks)).1)
      (fun memory hmarks => (hassembled.gdtDescriptor (hfile memory hmarks)).2) hlow
      ⟨hassembled.protectedModeEntry, hassembled.longModeEntry⟩ hcpu.noPaging hcpu.notLong hcpu.cs
  have hgdt := hassembled.gdt.holds hloaded le_rfl
  obtain ⟨final, hfinal, hstate, hmarks⟩ := hleads cpu rfl ⟨hgdt.holdsTable, SameOutside.refl _ _⟩
  refine ⟨final, hfinal, hmarks.table, ?_, ?_⟩
  · exact hmarks.outside.mono fun address hmem => Or.inl (Or.inl (Or.inl hmem))
  · exact inLongMode_of_state hstate (hassembled.walk hlength (hfile final.memory hmarks))

/-- Stores of the boot path around the tables. -/
theorem bootStores_elsewhere (hstart : 0x8000 ≤ labels.gdtStart) :
    ∀ address ∈ span kernelBuffer kernelBufferSize ∪ bootRegion,
      address.toNat < labels.gdtStart ∨ 0xC000 ≤ address.toNat := by
  rintro address (hmem | (hmem | hmem) | hmem)
  all_goals
    rw [mem_span] at hmem
  · rw [kernelBuffer, kernelBufferSize] at hmem
    bv_omega
  all_goals bv_omega

/-- From the boot sector to 64-bit mode, for every disk image that the builder
accepts. The descriptors keep everything but their accessed bits, and memory
outside the tables of Stage 2 stays as it was. -/
theorem long_mode_reached {stage1 kernel image : List U8}
    (hbuilt : buildImage stage1 stage2 kernel = .ok image) (hassembled : Assembled labels stage2)
    {disk : DiskPacket → Option (List U8)} (hdisk : CopiesSectors disk image)
    (memory : X86.Memory) :
    ∃ loaded, loadStage2 disk memory = some loaded ∧
      ∀ before, SameOutside (belowTables labels) loaded before →
        ∃ load, loadKernel disk before = some load ∧
          ∀ pushes bios map, reachSwitch pushes bios load.memory = some map →
          ∀ cpu, RealMode cpu → SameOutside (belowTables labels) map.ram.memory cpu.memory →
            ∃ final, cpu.executeAll (enterLongMode labels) = .ok final ∧
              final.memory.HoldsTable (BitVec.ofNat 64 labels.gdtStart) gdtWords ∧
              SameOutside (stage2Tables labels) cpu.memory final.memory ∧ InLongMode final := by
  obtain ⟨hlength, loaded, hloaded, hfile⟩ := loadStage2_spec hbuilt hdisk memory
  obtain ⟨_, _, himage, _⟩ := buildImage_ok hbuilt
  have helsewhere := bootStores_elsewhere hassembled.gdt.start
  refine ⟨loaded, hloaded, fun before hbefore => ?_⟩
  obtain ⟨load, hload, _⟩ := loadKernel_spec hdisk himage before
  refine ⟨load, hload, fun pushes bios map hreached cpu hcpu hcpuMemory => ?_⟩
  apply enterLongMode_reaches hassembled hlength hcpu
  -- Four changes of memory, none of which touches the tables.
  have hfirst := (hfile labels.gdtStart).outside hlength hbefore fun _ => Or.inl
  have hsecond := hfirst.outside hlength (loadKernel_kept hdisk himage hload)
    fun address hmem => helsewhere address (.inl hmem)
  have hthird := hsecond.outside hlength (reachSwitch_spec hreached).1.memory
    fun address hmem => helsewhere address (.inr hmem)
  exact hthird.outside hlength hcpuMemory fun _ => Or.inl

end Boot

section Sample

theorem AtLabel.here (bytes rest : List U8) : AtLabel (bytes ++ rest) 0x8000 bytes :=
  ⟨le_rfl, fun index hindex => by rw [Nat.sub_self, Nat.zero_add, List.getElem?_append_left hindex]⟩

theorem AtLabel.after {rest bytes first : List U8} {label size : Nat}
    (hlabel : AtLabel rest label bytes) (hsize : first.length = size) :
    AtLabel (first ++ rest) (label + size) bytes := by
  have hstart := hlabel.start
  refine ⟨by omega, fun index hindex => ?_⟩
  rw [List.getElem?_append_right (by omega), hsize, ← hlabel.bytes index hindex]
  congr 1
  omega

theorem length_dataWords (words : List U64) : (dataWords words).length = 8 * words.length := by
  induction words with
  | nil => rfl
  | cons word rest ih =>
      rw [dataWords, List.flatMap_cons, List.length_append, littleEndian_length]
      change 8 + (dataWords rest).length = _
      rw [ih, List.length_cons]
      omega

theorem length_tableBytes (entry : U64) : (dataWords (tableWords entry)).length = 0x1000 := by
  rw [length_dataWords, tableWords, List.length_cons, List.length_replicate]

def sampleLabels : Stage2Labels where
  gdtStart := 0x8470
  gdtDescriptor := 0x8490
  pml4 := 0x9000
  pdpt := 0xA000
  pageDirectory := 0xB000
  protectedModeEntry := 0x8160
  longModeEntry := 0x81B0

/-- Stage 2 with zeros for its code and messages. -/
def sampleStage2 : List U8 :=
  List.replicate 0x470 0#8 ++ (dataWords gdtWords ++
    ((littleEndian 2 31#64 ++ littleEndian 4 0x8470#64) ++ (List.replicate 0xB6A 0#8 ++
      (dataWords (tableWords 0xA003#64) ++ (dataWords (tableWords 0xB003#64) ++
        (dataWords (tableWords 0x83#64) ++ []))))))

theorem length_sampleStage2 : sampleStage2.length = 0x4000 := by
  simp only [sampleStage2, List.length_append, List.length_replicate, length_tableBytes,
    length_dataWords gdtWords, littleEndian_length, List.length_nil]
  rfl

theorem sampleStage2_assembled : Assembled sampleLabels sampleStage2 := by
  have hcode (size : Nat) : (List.replicate size 0#8).length = size := List.length_replicate
  have hgdt : (dataWords gdtWords).length = 0x20 := length_dataWords gdtWords
  have hdescriptor : (littleEndian 2 31#64 ++ littleEndian 4 0x8470#64).length = 6 := by
    simp
  have htables {rest bytes : List U8} {label : Nat} (hlabel : AtLabel rest label bytes) :=
    (((hlabel.after (hcode 0xB6A)).after hdescriptor).after hgdt).after (hcode 0x470)
  refine ⟨(AtLabel.here _ _).after (hcode 0x470), by decide,
    ((AtLabel.here _ _).after hgdt).after (hcode 0x470), htables (AtLabel.here _ _),
    htables ((AtLabel.here _ _).after (length_tableBytes _)),
    htables (((AtLabel.here _ _).after (length_tableBytes _)).after (length_tableBytes _)),
    rfl, rfl, rfl, by decide, by decide⟩

/-- A processor that runs Stage 2. -/
def realModeProcessor (memory : X86.Memory) : ModeProcessor where
  regs := fun _ => 0#64
  memory := memory
  rip := 0x8000#64
  rflags := 0x2#64
  cs := 0#16
  ss := 0#16
  calls := []
  gdtr := ⟨0#64, 0#16⟩
  idtr := ⟨0#64, 0x3FF#16⟩
  tr := 0#16
  tssBase := 0#64
  tssLimit := 0
  ds := 0#16
  es := 0#16
  msrs := fun _ => 0#64
  cr0 := 0x10#64
  cr3 := 0#64
  cr4 := 0#64
  csWord := 0#64
  a20 := false

theorem realModeProcessor_realMode (memory : X86.Memory) : RealMode (realModeProcessor memory) :=
  ⟨show (0x10#64).getLsbD 0 = false by decide, show (0x10#64).getLsbD 31 = false by decide,
    show (0#64).getLsbD 10 = false by decide, rfl⟩

theorem sampleStage2_built :
    buildImage bootSector sampleStage2 [0#8] = .ok (layout bootSector sampleStage2 [0#8]) := by
  have hchecked : checkFiles bootSector sampleStage2 [0#8] = .ok () :=
    checkFiles_valid bootSector_length bootSector_signature.1 bootSector_signature.2
      (by rw [length_sampleStage2]; decide) (by decide) (by decide)
  rw [buildImage, hchecked]
  rfl

theorem long_mode_reached_sample :
    ∃ image loaded load map final, buildImage bootSector sampleStage2 [0#8] = .ok image ∧
      loadStage2 (exactDisk image) (fun _ => 0#8) = some loaded ∧
      loadKernel (exactDisk image) loaded = some load ∧
      reachSwitch noMessages twoReplies load.memory = some map ∧
      (realModeProcessor map.ram.memory).executeAll (enterLongMode sampleLabels) = .ok final ∧
      InLongMode final := by
  obtain ⟨loaded, hloaded, hboot⟩ := long_mode_reached sampleStage2_built sampleStage2_assembled
    (exactDisk_copies _) (fun _ => 0#8)
  obtain ⟨load, hload, hswitch⟩ := hboot loaded (SameOutside.refl _ _)
  obtain ⟨map, hmap, _⟩ := reachSwitch_two_entries load.memory
  obtain ⟨final, hfinal, _, _, hlong⟩ := hswitch noMessages twoReplies map hmap _
    (realModeProcessor_realMode _) (SameOutside.refl _ _)
  exact ⟨_, loaded, load, map, final, sampleStage2_built, hloaded, hload, hmap, hfinal, hlong⟩

end Sample

end UnboundOS.Loader
