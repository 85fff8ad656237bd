import UnboundOS.Arch.Idt
import UnboundOS.X86.Segments

/-!
The descriptor tables of `gdt.rs`, `tss.rs` and `idt.rs`: how the kernel encodes
them, where they lie, and what the processor makes of them. `gdt::init` and
`idt::init` are followed down to the segment reload and `LTR`; after them every
vector is delivered as the source intends, and the entries it does not install
raise a general-protection fault.
-/

namespace UnboundOS.Arch

open X86

/-! ### `tss.rs` -/

/-- The fields of `TaskStateSegment`, in order. -/
inductive TssField where
  | reserved1 | rsp0 | rsp1 | rsp2 | reserved2
  | ist1 | ist2 | ist3 | ist4 | ist5 | ist6 | ist7
  | reserved3 | reserved4 | iomapBase
deriving DecidableEq

namespace TssField

def all : List TssField :=
  [.reserved1, .rsp0, .rsp1, .rsp2, .reserved2, .ist1, .ist2, .ist3, .ist4, .ist5, .ist6, .ist7,
    .reserved3, .reserved4, .iomapBase]

def width : TssField → Nat
  | .reserved1 => 4
  | .reserved4 | .iomapBase => 2
  | _ => 8

/-- The structure is packed: a field follows the one before it. -/
def offset (field : TssField) : Nat :=
  ((all.takeWhile (· ≠ field)).map width).sum

def store (field : TssField) (value : U64) : Memory.FieldStore :=
  ⟨field.offset, field.width, value⟩

end TssField

/-- `TSS_SIZE`. -/
def tssSize : Nat := (TssField.all.map TssField.width).sum

def doubleFaultStackSize : U64 := 0x4000#64

/-! ### `gdt.rs` -/

def kernelDataSelector : U16 := 0x10#16

def tssSelector : U16 := 0x18#16

def userDataSelector : U16 := 0x28#16

def userCodeSelector : U16 := 0x30#16

def userDataSelectorR3 : U16 := userDataSelector ||| 0x03#16

def userCodeSelectorR3 : U16 := userCodeSelector ||| 0x03#16

def gdtNull : U64 := 0x0000000000000000#64

def gdtKernelCode : U64 := 0x00AF9A000000FFFF#64

def gdtKernelData : U64 := 0x00CF92000000FFFF#64

def gdtUserData : U64 := 0x00CFF2000000FFFF#64

def gdtUserCode : U64 := 0x00AFFA000000FFFF#64

structure GlobalDescriptorTable where
  entries : Vector U64 7

namespace GlobalDescriptorTable

def new : GlobalDescriptorTable where
  entries := #v[gdtNull, gdtKernelCode, gdtKernelData, 0#64, 0#64, gdtUserData, gdtUserCode]

/-- The first word `install_tss` builds. -/
def tssLow (base : U64) : U64 :=
  let limit : U32 := BitVec.ofNat 32 (tssSize - 1)
  let low := 0#64
  let low := low ||| (limit.setWidth 64 &&& 0xFFFF#64)
  let low := low ||| ((base &&& 0xFFFF#64) <<< 16)
  let low := low ||| (((base >>> 16) &&& 0xFF#64) <<< 32)
  let low := low ||| (0x89#64 <<< 40)
  let low := low ||| (((limit.setWidth 64 >>> 16) &&& 0x0F#64) <<< 48)
  low ||| (((base >>> 24) &&& 0xFF#64) <<< 56)

def tssHigh (base : U64) : U64 :=
  (base >>> 32) &&& 0xFFFFFFFF#64

def installTss (base : U64) (self : GlobalDescriptorTable) : GlobalDescriptorTable where
  entries := (self.entries.set 3 (tssLow base)).set 4 (tssHigh base)

/-- `pointer`: the table is seven words long. -/
def pointer (address : U64) : TableRegister where
  base := address
  limit := BitVec.ofNat 16 (8 * 7 - 1)

end GlobalDescriptorTable

/-! ### `idt.rs` -/

def interruptGate : U8 := 0x8E#8

structure IdtEntry where
  offsetLow : U16
  selector : U16
  ist : U8
  attributes : U8
  offsetMid : U16
  offsetHigh : U32
  reserved : U32
deriving DecidableEq

namespace IdtEntry

def missing : IdtEntry where
  offsetLow := 0#16
  selector := 0#16
  ist := 0#8
  attributes := 0#8
  offsetMid := 0#16
  offsetHigh := 0#32
  reserved := 0#32

def setHandlerWithIst (handler : U64) (ist : U8) : IdtEntry where
  offsetLow := handler.setWidth 16
  selector := kernelCodeSelector
  ist := ist &&& 0x07#8
  attributes := interruptGate
  offsetMid := (handler >>> 16).setWidth 16
  offsetHigh := (handler >>> 32).setWidth 32
  reserved := 0#32

def setHandler (handler : U64) : IdtEntry :=
  setHandlerWithIst handler 0#8

/-- The two little-endian words of a packed entry. -/
def low (self : IdtEntry) : U64 :=
  self.offsetMid ++ self.attributes ++ self.ist ++ self.selector ++ self.offsetLow

def high (self : IdtEntry) : U64 :=
  self.reserved ++ self.offsetHigh

def words (self : IdtEntry) : List U64 :=
  [self.low, self.high]

end IdtEntry

structure InterruptDescriptorTable where
  entries : Vector IdtEntry 256

namespace InterruptDescriptorTable

def new : InterruptDescriptorTable where
  entries := Vector.replicate 256 IdtEntry.missing

def setHandler (vector : Fin 256) (handler : U64) (self : InterruptDescriptorTable) :
    InterruptDescriptorTable where
  entries := self.entries.set vector (IdtEntry.setHandler handler)

def setHandlerWithIst (vector : Fin 256) (handler : U64) (ist : U8)
    (self : InterruptDescriptorTable) : InterruptDescriptorTable where
  entries := self.entries.set vector (IdtEntry.setHandlerWithIst handler ist)

/-- One call of `idt::init`: the double fault gets the interrupt stack. -/
def installIsr (isr : Fin 32 → U64) (self : InterruptDescriptorTable) (vector : Fin 32) :
    InterruptDescriptorTable :=
  if vector.val = 8 then self.setHandlerWithIst (vector.castLE (by decide)) (isr vector) 1#8
  else self.setHandler (vector.castLE (by decide)) (isr vector)

/-- The calls of `idt::init`, in order. -/
def init (isr : Fin 32 → U64) (irq0 : U64) (self : InterruptDescriptorTable) :
    InterruptDescriptorTable :=
  ((List.finRange 32).foldl (installIsr isr) self).setHandler 32 irq0

def words (self : InterruptDescriptorTable) : List U64 :=
  self.entries.toList.flatMap IdtEntry.words

/-- The pointer `idt::init` loads. -/
def pointer (address : U64) : TableRegister where
  base := address
  limit := BitVec.ofNat 16 (16 * 256 - 1)

end InterruptDescriptorTable

/-! ### The statics in memory -/

/-- Where the linker put the tables, the stacks they name and the entry points.
The tables do not overlap each other or the two stacks, and every address the
processor will load is canonical. -/
structure Layout where
  gdt : U64
  tss : U64
  idt : U64
  doubleFaultStack : U64
  syscallStack : U64
  isr : Fin 32 → U64
  irq0 : U64
  syscallEntry : U64
  gdt_tss : Disjoint (Memory.span gdt 56) (Memory.span tss 104)
  gdt_idt : Disjoint (Memory.span gdt 56) (Memory.span idt 4096)
  tss_idt : Disjoint (Memory.span tss 104) (Memory.span idt 4096)
  doubleFault_apart : Disjoint (Memory.span doubleFaultStack 0x4000)
    (Memory.span gdt 56 ∪ Memory.span tss 104 ∪ Memory.span idt 4096)
  syscall_apart : Disjoint (Memory.span syscallStack 0x4000)
    (Memory.span gdt 56 ∪ Memory.span tss 104 ∪ Memory.span idt 4096)
  doubleFault_aligned : doubleFaultStack.toNat % 16 = 0
  syscall_aligned : syscallStack.toNat % 16 = 0
  doubleFault_canonical : canonical (doubleFaultStack + 0x4000#64) = true
  syscall_canonical : canonical (syscallStack + 0x4000#64) = true
  isr_canonical : ∀ vector, canonical (isr vector) = true
  irq0_canonical : canonical irq0 = true
  entry_canonical : canonical syscallEntry = true

namespace Layout

variable (layout : Layout)

def tables : Set U64 :=
  Memory.span layout.gdt 56 ∪ Memory.span layout.tss 104 ∪ Memory.span layout.idt 4096

/-- The stack of ring 0 for system calls and for interrupts from ring 3. -/
def syscallStackTop : U64 := layout.syscallStack + 0x4000#64

def doubleFaultStackTop : U64 := layout.doubleFaultStack + doubleFaultStackSize

/-- `tss::init`: the interrupt stack, and an I/O bitmap past the end. -/
def tssInit (memory : Memory) : Memory :=
  memory.storeFields layout.tss
    [TssField.ist1.store layout.doubleFaultStackTop,
      TssField.iomapBase.store (BitVec.ofNat 64 tssSize)]

/-- `tss::set_rsp0`. -/
def setRsp0 (stackTop : U64) (self : Processor) : Processor :=
  let memory := self.memory.storeFields layout.tss [TssField.rsp0.store stackTop]
  {self with memory := memory}

/-- The call of `unbound_reload_segments` and the frame it builds for `RETFQ`. -/
def reloadFrame (returnAddress reloadDone : U64) (self : Machine) : Machine :=
  let called := self.pushWord returnAddress
  let selected := (called.setReg .rax 0x08#64).pushWord 0x08#64
  (selected.setReg .rax reloadDone).pushWord reloadDone

/-- `mov ax, 0x10`, which keeps the rest of RAX. -/
def selectData (self : Processor) : Processor :=
  {self with toMachine := self.setReg .rax ((self.regs .rax &&& ~~~0xFFFF#64) ||| 0x10#64)}

/-- `unbound_reload_segments`: a far return to the next instruction loads CS,
then the data segments follow. -/
def unboundReloadSegments (returnAddress reloadDone : U64) (self : Processor) :
    Except Fault Processor := do
  let framed := reloadFrame returnAddress reloadDone self.toMachine
  let loaded ← Processor.farReturn {self with toMachine := framed}
  let loaded ← (selectData loaded).loadDs kernelDataSelector
  let loaded ← loaded.loadEs kernelDataSelector
  let loaded ← loaded.loadStackSegment kernelDataSelector
  pure {loaded with toMachine := {loaded.dropWord with rip := loaded.top}}

/-- `gdt::init`, without its output. -/
def gdtInit (returnAddress reloadDone : U64) (self : Processor) : Except Fault Processor := do
  let table := GlobalDescriptorTable.new
  let memory := self.memory.writeWords layout.gdt table.entries.toList
  let memory := layout.tssInit memory
  let memory := memory.writeWords layout.gdt (table.installTss layout.tss).entries.toList
  let loaded ← unboundReloadSegments returnAddress reloadDone
    {self with memory := memory, gdtr := GlobalDescriptorTable.pointer layout.gdt}
  loaded.loadTaskRegister tssSelector

/-- The words of the table that `idt::init` fills. -/
@[irreducible]
def loadedIdt : List U64 :=
  (InterruptDescriptorTable.new.init layout.isr layout.irq0).words

/-- `idt::init`. -/
def idtInit (self : Processor) : Processor :=
  {self with
    memory := self.memory.writeWords layout.idt layout.loadedIdt
    idtr := InterruptDescriptorTable.pointer layout.idt}

end Layout

/-! ### What the processor decodes -/

namespace GlobalDescriptorTable

theorem systemBase_tss (base : U64) :
    Descriptor.systemBase (tssLow base) (tssHigh base) = base := by
  refine BitVec.eq_of_getLsbD_eq fun bit hbit => ?_
  simp only [Descriptor.systemBase, tssLow, tssHigh, BitVec.getLsbD_append,
    BitVec.getLsbD_extractLsb', BitVec.getLsbD_or, BitVec.getLsbD_and, BitVec.getLsbD_setWidth,
    BitVec.getLsbD_shiftLeft, BitVec.getLsbD_ushiftRight]
  interval_cases bit <;> simp

/-- Outside the base address the first word does not depend on it. -/
theorem getLsbD_tssLow (base : U64) {bit : Nat} (hbit : bit < 16 ∨ (40 ≤ bit ∧ bit < 56)) :
    (tssLow base).getLsbD bit = (tssLow 0#64).getLsbD bit := by
  simp only [tssLow, BitVec.getLsbD_or, BitVec.getLsbD_and, BitVec.getLsbD_setWidth,
    BitVec.getLsbD_shiftLeft, BitVec.getLsbD_ushiftRight]
  have hrange : bit < 56 := by omega
  interval_cases bit <;> first | omega | simp

theorem extractLsb_tssLow (base : U64) {start width : Nat}
    (hrange : start + width ≤ 16 ∨ (40 ≤ start ∧ start + width ≤ 56)) :
    (tssLow base).extractLsb' start width = (tssLow 0#64).extractLsb' start width := by
  refine BitVec.eq_of_getLsbD_eq fun bit hbit => ?_
  rw [BitVec.getLsbD_extractLsb', BitVec.getLsbD_extractLsb', getLsbD_tssLow base (by omega)]

theorem kind_tssLow (base : U64) : Descriptor.kind (tssLow base) = 0x09#5 :=
  extractLsb_tssLow base (by omega)

theorem present_tssLow (base : U64) : Descriptor.present (tssLow base) = true :=
  getLsbD_tssLow base (by omega)

theorem limit_tssLow (base : U64) : Descriptor.limit (tssLow base) = tssSize - 1 := by
  rw [Descriptor.limit, extractLsb_tssLow base (by omega), extractLsb_tssLow base (by omega),
    getLsbD_tssLow base (by omega)]
  rfl

/-- The table as `install_tss` leaves it. -/
def installed (tss : U64) : List U64 :=
  [gdtNull, gdtKernelCode, gdtKernelData, tssLow tss, tssHigh tss, gdtUserData, gdtUserCode]

/-- The table once `LTR` has marked the task-state segment busy. -/
def loaded (tss : U64) : List U64 :=
  [gdtNull, gdtKernelCode, gdtKernelData, tssLow tss ||| 0x20000000000#64, tssHigh tss, gdtUserData,
    gdtUserCode]

/-- The four segments of the table. -/
theorem loaded_segment {tss word : U64} {index : Nat} (hword : (loaded tss)[index]? = some word)
    (hsegment : word.getLsbD 44 = true) :
    (index = 1 ∧ word = gdtKernelCode) ∨ (index = 2 ∧ word = gdtKernelData) ∨
      (index = 5 ∧ word = gdtUserData) ∨ (index = 6 ∧ word = gdtUserCode) := by
  obtain ⟨hindex, hvalue⟩ := List.getElem?_eq_some_iff.mp hword
  have hbound : index < 7 := hindex
  have hlow : (tssLow tss ||| 0x20000000000#64).getLsbD 44 = false := by
    rw [BitVec.getLsbD_or, getLsbD_tssLow tss (by omega)]
    rfl
  have hhigh : (tssHigh tss).getLsbD 44 = false := by
    simp [tssHigh]
  interval_cases index <;> simp [loaded] at hvalue <;> subst hvalue <;> simp_all [gdtNull]

/-- None of its entries is a call gate. -/
theorem loaded_kind {tss word : U64} {index : Nat} (hword : (loaded tss)[index]? = some word) :
    Descriptor.kind word ≠ 0x0C#5 := by
  obtain ⟨hindex, hvalue⟩ := List.getElem?_eq_some_iff.mp hword
  have hbound : index < 7 := hindex
  have hlow : Descriptor.kind (tssLow tss ||| 0x20000000000#64) = 0x0B#5 := by
    have hkind := kind_tssLow tss
    rw [Descriptor.kind] at hkind ⊢
    rw [BitVec.extractLsb'_or, hkind]
    rfl
  have hhigh : Descriptor.kind (tssHigh tss) = 0#5 := by
    refine BitVec.eq_of_getLsbD_eq fun bit hbit => ?_
    simp only [Descriptor.kind, tssHigh, BitVec.getLsbD_extractLsb', BitVec.getLsbD_and]
    interval_cases bit <;> simp
  interval_cases index <;> simp [loaded] at hvalue <;> subst hvalue
  all_goals first | decide | exact hlow ▸ by decide | exact hhigh ▸ by decide

end GlobalDescriptorTable

/-- The gate behind an entry. -/
def IdtEntry.gate (self : IdtEntry) : Gate :=
  Gate.decode self.low self.high

/-- The fields of the first word of an entry. -/
theorem IdtEntry.low_fields (low mid selector : U16) (attributes stack : U8) :
    let word : U64 := mid ++ attributes ++ stack ++ selector ++ low
    word.extractLsb' 48 16 = mid ∧ word.extractLsb' 0 16 = low ∧
      word.extractLsb' 16 16 = selector ∧ word.extractLsb' 32 3 = stack.setWidth 3 ∧
      word.extractLsb' 40 5 = attributes.setWidth 5 ∧
      word.extractLsb' 45 2 = attributes.extractLsb' 5 2 ∧
      word.getLsbD 47 = attributes.getLsbD 7 := by
  refine ⟨?_, ?_, ?_, ?_, ?_, ?_, ?_⟩
  all_goals try refine BitVec.eq_of_getLsbD_eq fun bit hbit => ?_
  all_goals simp only [BitVec.getLsbD_extractLsb', BitVec.getLsbD_append, BitVec.getLsbD_setWidth]
  all_goals grind

/-- An installed handler is decoded as it was given: a present interrupt gate of
ring 0 into the kernel code segment. -/
theorem IdtEntry.gate_setHandlerWithIst (handler : U64) (ist : U8) :
    (IdtEntry.setHandlerWithIst handler ist).gate =
      ⟨handler, kernelCodeSelector, (ist &&& 0x07#8).setWidth 3, 0x0E#5, 0#2, true⟩ := by
  have hhandler : (0#32 ++ (handler >>> 32).setWidth 32).setWidth 32 ++
      (handler >>> 16).setWidth 16 ++ handler.setWidth 16 = handler := by
    refine BitVec.eq_of_getLsbD_eq fun bit hbit => ?_
    simp only [BitVec.getLsbD_append, BitVec.getLsbD_setWidth, BitVec.getLsbD_ushiftRight]
    grind
  obtain ⟨hmid, hlow, hselector, hstack, hkind, hlevel, hpresent⟩ := IdtEntry.low_fields
    (handler.setWidth 16) ((handler >>> 16).setWidth 16) kernelCodeSelector interruptGate
    (ist &&& 0x07#8)
  simp only [IdtEntry.gate, IdtEntry.low, IdtEntry.high, IdtEntry.setHandlerWithIst, Gate.decode,
    hmid, hlow, hselector, hstack, hkind, hlevel, hpresent, hhandler]
  rfl

namespace InterruptDescriptorTable

/-- The entry that `init` leaves for a vector of an empty table. -/
def entryFor (isr : Fin 32 → U64) (irq0 : U64) (vector : Nat) : IdtEntry :=
  if hvector : vector < 32 then
    if vector = 8 then IdtEntry.setHandlerWithIst (isr ⟨vector, hvector⟩) 1#8
    else IdtEntry.setHandler (isr ⟨vector, hvector⟩)
  else if vector = 32 then IdtEntry.setHandler irq0
  else IdtEntry.missing

theorem entryFor_isr (isr : Fin 32 → U64) (irq0 : U64) (vector : Fin 32) :
    entryFor isr irq0 vector.val =
      if vector.val = 8 then IdtEntry.setHandlerWithIst (isr vector) 1#8
      else IdtEntry.setHandler (isr vector) := by
  rw [entryFor, dif_pos vector.isLt]

theorem installIsr_entries (isr : Fin 32 → U64) (irq0 : U64) (self : InterruptDescriptorTable)
    (vector : Fin 32) {index : Nat} (hindex : index < 256) :
    (self.installIsr isr vector).entries[index] =
      if vector.val = index then entryFor isr irq0 index else self.entries[index] := by
  have hinstalled : (self.installIsr isr vector).entries =
      self.entries.set vector.val (entryFor isr irq0 vector.val) (by omega) := by
    rw [installIsr, entryFor_isr]
    split <;> rfl
  simp only [hinstalled, Vector.getElem_set]
  by_cases hsame : vector.val = index
  · subst hsame
    rfl
  · rw [if_neg hsame, if_neg hsame]

theorem foldl_installIsr_entries (isr : Fin 32 → U64) (irq0 : U64) (vectors : List (Fin 32))
    (self : InterruptDescriptorTable) {index : Nat} (hindex : index < 256) :
    (vectors.foldl (installIsr isr) self).entries[index] =
      if index ∈ vectors.map Fin.val then entryFor isr irq0 index else self.entries[index] := by
  induction vectors generalizing self with
  | nil => simp
  | cons first rest ih =>
      rw [List.foldl_cons, ih, installIsr_entries isr irq0]
      simp only [List.map_cons, List.mem_cons, eq_comm (a := index)]
      by_cases hrest : index ∈ rest.map Fin.val <;> simp [hrest]

theorem init_entries (isr : Fin 32 → U64) (irq0 : U64) {index : Nat} (hindex : index < 256) :
    (new.init isr irq0).entries[index] = entryFor isr irq0 index := by
  rw [init, setHandler, Vector.getElem_set, foldl_installIsr_entries isr irq0]
  have hmem : index ∈ (List.finRange 32).map Fin.val ↔ index < 32 := by
    simp
  simp only [hmem]
  by_cases hlast : 32 = index
  · subst hlast
    rfl
  · refine (if_neg hlast).trans ?_
    by_cases hexception : index < 32
    · rw [if_pos hexception]
    · have hother : index ≠ 32 := fun heq => hlast heq.symm
      simp [hexception, hother, entryFor, new]

/-- The two words of an entry within the table. -/
theorem flatMap_words (entries : List IdtEntry) {index : Nat} {entry : IdtEntry}
    (hentry : entries[index]? = some entry) :
    (entries.flatMap IdtEntry.words)[2 * index]? = some entry.low ∧
      (entries.flatMap IdtEntry.words)[2 * index + 1]? = some entry.high := by
  induction entries generalizing index with
  | nil => cases hentry
  | cons first rest ih =>
      cases index with
      | zero =>
          cases hentry
          exact ⟨rfl, rfl⟩
      | succ index => exact ih hentry

end InterruptDescriptorTable

/-! ### The tables in place -/

namespace Layout

variable {layout : Layout} {self next : Processor}

/-- The handler of each vector that has one. -/
def handler (layout : Layout) (vector : U8) : U64 :=
  if hvector : vector.toNat < 32 then layout.isr ⟨vector.toNat, hvector⟩ else layout.irq0

/-- What `gdt::init` has done: the segments, the task register and its interrupt
stack. -/
structure GdtLoaded (layout : Layout) (processor : Processor) : Prop where
  gdtr : processor.gdtr = GlobalDescriptorTable.pointer layout.gdt
  tssBase : processor.tssBase = layout.tss
  tssLimit : processor.tssLimit = tssSize - 1
  gdt : processor.memory.HoldsTable layout.gdt (GlobalDescriptorTable.loaded layout.tss)
  ist1 : processor.memory.read64 (layout.tss + BitVec.ofNat 64 36) = layout.doubleFaultStackTop

/-- What `idt::init` adds. -/
structure IdtLoaded (layout : Layout) (processor : Processor) : Prop
    extends GdtLoaded layout processor where
  idtr : processor.idtr = InterruptDescriptorTable.pointer layout.idt
  idt : processor.memory.Holds layout.idt layout.loadedIdt

/-- The processor uses the kernel's tables, and they are as the kernel built
them. -/
structure Installed (layout : Layout) (processor : Processor) : Prop
    extends IdtLoaded layout processor where
  rsp0 : processor.memory.read64 (layout.tss + BitVec.ofNat 64 4) = layout.syscallStackTop

/-- Two memories with the same segments, but for accessed bits. -/
def KeepsGdt (layout : Layout) (before after : Memory) : Prop :=
  ∀ index < 7, Descriptor.Marked (before.read64 (layout.gdt + BitVec.ofNat 64 (8 * index)))
    (after.read64 (layout.gdt + BitVec.ofNat 64 (8 * index)))

/-- A step that leaves the tables and the registers that point to them alone,
short of the accessed bits of the segments. -/
structure Keeps (layout : Layout) (before after : Processor) : Prop where
  gdtr : after.gdtr = before.gdtr
  idtr : after.idtr = before.idtr
  tssBase : after.tssBase = before.tssBase
  tssLimit : after.tssLimit = before.tssLimit
  msrs : after.msrs = before.msrs
  gdt : layout.KeepsGdt before.memory after.memory
  tss : ∀ address ∈ Memory.span layout.tss 104, after.memory address = before.memory address
  idt : ∀ address ∈ Memory.span layout.idt 4096, after.memory address = before.memory address

theorem keepsGdt_of_same {before after : Memory}
    (hsame : ∀ address ∈ Memory.span layout.gdt 56, after address = before address) :
    layout.KeepsGdt before after := by
  intro index hindex
  refine Or.inl (Memory.read64_congr fun offset hoffset => ?_)
  rw [BitVec.add_assoc, ← BitVec.ofNat_add]
  exact hsame _ (Memory.offset_mem_span (by omega))

/-- A step that stores elsewhere. -/
theorem Keeps.of_same (hgdtr : next.gdtr = self.gdtr) (hidtr : next.idtr = self.idtr)
    (htssBase : next.tssBase = self.tssBase) (htssLimit : next.tssLimit = self.tssLimit)
    (hmsrs : next.msrs = self.msrs)
    (htables : ∀ address ∈ layout.tables, next.memory address = self.memory address) :
    layout.Keeps self next :=
  ⟨hgdtr, hidtr, htssBase, htssLimit, hmsrs,
    keepsGdt_of_same fun _ hmem => htables _ (Or.inl (Or.inl hmem)),
    fun _ hmem => htables _ (Or.inl (Or.inr hmem)), fun _ hmem => htables _ (Or.inr hmem)⟩

theorem Keeps.refl (layout : Layout) (self : Processor) : layout.Keeps self self :=
  .of_same rfl rfl rfl rfl rfl fun _ _ => rfl

theorem length_loadedIdt (layout : Layout) : layout.loadedIdt.length = 512 := by
  have hpairs (entries : List IdtEntry) :
      (entries.flatMap IdtEntry.words).length = 2 * entries.length := by
    simp [List.length_flatMap, IdtEntry.words, Nat.mul_comm]
  rw [loadedIdt, InterruptDescriptorTable.words, hpairs, Vector.length_toList]

theorem tssWord_congr {before after : Memory}
    (hsame : ∀ address ∈ Memory.span layout.tss 104, after address = before address) {field : Nat}
    (hfield : field + 8 ≤ 104) :
    after.read64 (layout.tss + BitVec.ofNat 64 field) =
      before.read64 (layout.tss + BitVec.ofNat 64 field) := by
  apply Memory.read64_congr
  intro offset hoffset
  rw [BitVec.add_assoc, ← BitVec.ofNat_add]
  exact hsame _ (Memory.offset_mem_span (by omega))

theorem GdtLoaded.keeps (hloaded : layout.GdtLoaded self) (hgdtr : next.gdtr = self.gdtr)
    (htssBase : next.tssBase = self.tssBase) (htssLimit : next.tssLimit = self.tssLimit)
    (hgdt : layout.KeepsGdt self.memory next.memory)
    (hist1 : next.memory.read64 (layout.tss + BitVec.ofNat 64 36) =
      self.memory.read64 (layout.tss + BitVec.ofNat 64 36)) : layout.GdtLoaded next where
  gdtr := hgdtr.trans hloaded.gdtr
  tssBase := htssBase.trans hloaded.tssBase
  tssLimit := htssLimit.trans hloaded.tssLimit
  gdt := by
    intro index entry hentry
    obtain ⟨hindex, _⟩ := List.getElem?_eq_some_iff.mp hentry
    exact (hloaded.gdt index entry hentry).trans (hgdt index hindex)
  ist1 := hist1.trans hloaded.ist1

theorem Keeps.gdtLoaded (hkeeps : layout.Keeps self next) (hloaded : layout.GdtLoaded self) :
    layout.GdtLoaded next :=
  hloaded.keeps hkeeps.gdtr hkeeps.tssBase hkeeps.tssLimit hkeeps.gdt
    (tssWord_congr hkeeps.tss (by omega))

theorem Keeps.idtLoaded (hkeeps : layout.Keeps self next) (hloaded : layout.IdtLoaded self) :
    layout.IdtLoaded next where
  toGdtLoaded := hkeeps.gdtLoaded hloaded.toGdtLoaded
  idtr := hkeeps.idtr.trans hloaded.idtr
  idt := by
    have hlength := layout.length_loadedIdt
    exact hloaded.idt.congr fun offset hoffset =>
      hkeeps.idt _ (Memory.offset_mem_span (by omega))

theorem Keeps.installed (hkeeps : layout.Keeps self next) (hinstalled : layout.Installed self) :
    layout.Installed next where
  toIdtLoaded := hkeeps.idtLoaded hinstalled.toIdtLoaded
  rsp0 := (tssWord_congr hkeeps.tss (by omega)).trans hinstalled.rsp0

theorem GdtLoaded.limit (hloaded : layout.GdtLoaded self) :
    self.gdtr.limit.toNat + 1 = 8 * (GlobalDescriptorTable.loaded layout.tss).length := by
  rw [hloaded.gdtr]
  rfl

theorem GdtLoaded.table (hloaded : layout.GdtLoaded self) :
    self.memory.HoldsTable self.gdtr.base (GlobalDescriptorTable.loaded layout.tss) := by
  rw [hloaded.gdtr]
  exact hloaded.gdt

/-- A selector leads to its entry, up to the accessed bit. -/
theorem GdtLoaded.segment (hloaded : layout.GdtLoaded self) {selector : U16} {entry : U64}
    (hbare : (bareSelector selector).toNat = 8 * (selector.toNat / 8))
    (hentry : (GlobalDescriptorTable.loaded layout.tss)[selector.toNat / 8]? = some entry) :
    ∃ word, self.descriptor selector = .ok word ∧ Descriptor.Marked entry word :=
  Processor.descriptor_of_entry hloaded.limit hloaded.table hbare hentry

theorem loadedIdt_entry (layout : Layout) (vector : U8) :
    layout.loadedIdt[2 * vector.toNat]? =
        some (InterruptDescriptorTable.entryFor layout.isr layout.irq0 vector.toNat).low ∧
      layout.loadedIdt[2 * vector.toNat + 1]? =
        some (InterruptDescriptorTable.entryFor layout.isr layout.irq0 vector.toNat).high := by
  have hvector : vector.toNat < 256 := vector.isLt
  rw [loadedIdt]
  apply InterruptDescriptorTable.flatMap_words
  rw [List.getElem?_eq_getElem (by simpa using hvector), Vector.getElem_toList,
    InterruptDescriptorTable.init_entries]

/-- The gate of a vector. -/
theorem IdtLoaded.gateAt (hloaded : layout.IdtLoaded self) (vector : U8) :
    self.gateAt vector =
      (InterruptDescriptorTable.entryFor layout.isr layout.irq0 vector.toNat).gate := by
  obtain ⟨hlow, hhigh⟩ := layout.loadedIdt_entry vector
  have hlowWord := hloaded.idt.getElem hlow
  have hhighWord := hloaded.idt.getElem hhigh
  have hfirst : 16 * vector.toNat = 8 * (2 * vector.toNat) := by omega
  have hnext : layout.idt + BitVec.ofNat 64 (8 * (2 * vector.toNat)) + 8#64 =
      layout.idt + BitVec.ofNat 64 (8 * (2 * vector.toNat + 1)) := by
    rw [BitVec.add_assoc, ← BitVec.ofNat_add, Nat.mul_succ]
  simp only [Processor.gateAt, hloaded.idtr, InterruptDescriptorTable.pointer, hfirst, hnext,
    hlowWord, hhighWord, IdtEntry.gate]

section Reload

variable {entries : List U64} (hlimit : self.gdtr.limit.toNat + 1 = 8 * entries.length)
  (htable : self.memory.HoldsTable self.gdtr.base entries) (hcpl : self.cpl = 0#2)

include hlimit htable hcpl

/-- A far return into the kernel code segment. -/
theorem farReturn_kernel (hcode : entries[1]? = some gdtKernelCode) {rip : U64} {rest : List U64}
    (hrip : canonical rip = true) (hstack : self.Stack (rip :: 8#64 :: rest)) :
    ∃ machine : Machine, self.farReturn = .ok {self with toMachine := machine} ∧
      machine.cs = kernelCodeSelector ∧ machine.memory = self.memory ∧
      machine.regs .rsp = self.regs .rsp + 16#64 := by
  have hword0 := hstack.read 0 rfl
  have hword1 := hstack.read 1 rfl
  have hcheck : self.checkReturnCode kernelCodeSelector rip = .ok () := by
    obtain ⟨word, hword, hmarked⟩ := Processor.descriptor_of_entry hlimit htable
      (show (bareSelector kernelCodeSelector).toNat = _ by decide) hcode
    rw [Processor.checkReturnCode_ok]
    refine ⟨word, Processor.nonNull_ok.mpr ⟨by decide, hword⟩, ?_, hmarked.present, hrip⟩
    rw [hmarked.isCode, hmarked.isConforming, hmarked.level, hcpl]
    decide
  have hreturn : self.farReturn = .ok {self with toMachine :=
      {self.setReg .rsp (self.regs .rsp + 16#64) with rip := rip, cs := kernelCodeSelector}} := by
    rw [Processor.farReturn]
    simp only [hword0, hword1]
    change (self.checkReturnCode kernelCodeSelector rip >>= _) = _
    rw [hcheck, Processor.ok_bind, hcpl]
    rfl
  exact ⟨_, hreturn, rfl, rfl, Machine.setReg_same self.toMachine .rsp _⟩

/-- The kernel data segment in DS, ES and SS. -/
theorem loadData_kernel (hdata : entries[2]? = some gdtKernelData) :
    self.loadDs kernelDataSelector = .ok {self with ds := kernelDataSelector} ∧
      self.loadEs kernelDataSelector = .ok {self with es := kernelDataSelector} ∧
      self.loadStackSegment kernelDataSelector = .ok {self with ss := kernelDataSelector} := by
  obtain ⟨word, hword, hmarked⟩ := Processor.descriptor_of_entry hlimit htable
    (show (bareSelector kernelDataSelector).toNat = _ by decide) hdata
  have hcheck : self.checkDataSegment kernelDataSelector = .ok () := by
    apply Processor.checkDataSegment_ok hword hmarked.isReadable _ hmarked.present
    rw [hmarked.level, hcpl]
    decide
  refine ⟨?_, ?_, ?_⟩
  · rw [Processor.loadDs, hcheck]
    rfl
  · rw [Processor.loadEs, hcheck]
    rfl
  · rw [Processor.loadStackSegment_ok, Processor.checkReturnStack_ok, if_neg (by decide), hcpl]
    refine ⟨⟨word, hword, ?_, hmarked.present⟩, rfl⟩
    rw [hmarked.isWritableData, hmarked.level]
    decide

end Reload

theorem reloadFrame_spec (returnAddress reloadDone : U64) (machine : Machine) :
    (reloadFrame returnAddress reloadDone machine).Stack [reloadDone, 0x08#64, returnAddress] ∧
      Machine.PushedTo machine.memory (machine.regs .rsp) 24
        (reloadFrame returnAddress reloadDone machine) := by
  have hempty : machine.Stack [] := trivial
  have hstart : Machine.PushedTo machine.memory (machine.regs .rsp) 0 machine :=
    ⟨(BitVec.sub_zero _).symm, Memory.SameOutside.refl _ _⟩
  have hcalled := hempty.pushWord (by simp) returnAddress
  have hselected := Machine.Stack.pushWord
    (show ((machine.pushWord returnAddress).setReg .rax 0x08#64).Stack [returnAddress] from hcalled)
    (by simp) 0x08#64
  have hframed := Machine.Stack.pushWord
    (show ((((machine.pushWord returnAddress).setReg .rax 0x08#64).pushWord 0x08#64).setReg .rax
      reloadDone).Stack [0x08#64, returnAddress] from hselected) (by simp) reloadDone
  -- RAX is all that changes between the pushes.
  have hcalled' := hstart.pushWord returnAddress
  have hselected' := Machine.PushedTo.pushWord
    (show Machine.PushedTo machine.memory (machine.regs .rsp) 8
      ((machine.pushWord returnAddress).setReg .rax 0x08#64) from ⟨hcalled'.rsp, hcalled'.memory⟩)
    0x08#64
  exact ⟨hframed, Machine.PushedTo.pushWord
    (show Machine.PushedTo machine.memory (machine.regs .rsp) 16
      ((((machine.pushWord returnAddress).setReg .rax 0x08#64).pushWord 0x08#64).setReg .rax
        reloadDone) from ⟨hselected'.rsp, hselected'.memory⟩) reloadDone⟩

/-- The reload runs through, returns, and writes below the stack pointer only. -/
theorem unboundReloadSegments_ok (self : Processor) {entries : List U64}
    (hlimit : self.gdtr.limit.toNat + 1 = 8 * entries.length)
    (hwords : self.memory.Holds self.gdtr.base entries) (hcpl : self.cpl = 0#2)
    (hcode : entries[1]? = some gdtKernelCode) (hdata : entries[2]? = some gdtKernelData)
    (returnAddress : U64) {reloadDone : U64} (hreload : canonical reloadDone = true)
    (hstack : Disjoint (Memory.span self.gdtr.base (8 * entries.length))
      (Memory.span (self.regs .rsp - 24#64) 24)) :
    ∃ machine : Machine, unboundReloadSegments returnAddress reloadDone self =
        .ok {self with toMachine := machine, ds := kernelDataSelector, es := kernelDataSelector} ∧
      machine.cs = kernelCodeSelector ∧ machine.ss = kernelDataSelector ∧
      machine.rip = returnAddress ∧ machine.regs .rsp = self.regs .rsp ∧
      Memory.SameOutside (Memory.span (self.regs .rsp - 24#64) 24) self.memory machine.memory := by
  obtain ⟨hframe, hpushed⟩ := reloadFrame_spec returnAddress reloadDone self.toMachine
  have hcs : (reloadFrame returnAddress reloadDone self.toMachine).cs = self.cs := rfl
  rw [unboundReloadSegments]
  generalize reloadFrame returnAddress reloadDone self.toMachine = framed at *
  have htable : framed.memory.HoldsTable self.gdtr.base entries :=
    (hwords.outside hpushed.memory hstack).holdsTable
  obtain ⟨machine, hreturn, hkernel, hmemory, hrsp⟩ : ∃ machine : Machine,
      ({self with toMachine := framed} : Processor).farReturn =
        .ok {self with toMachine := machine} ∧ machine.cs = kernelCodeSelector ∧
      machine.memory = framed.memory ∧ machine.regs .rsp = framed.regs .rsp + 16#64 :=
    farReturn_kernel hlimit htable (show requestedLevel framed.cs = _ from hcs ▸ hcpl) hcode hreload
      hframe
  generalize hselected : selectData {self with toMachine := machine} = selected
  have hload (processor : Processor) (hgdtr : processor.gdtr = selected.gdtr)
      (hsame : processor.toMachine = selected.toMachine) :
      processor.loadDs kernelDataSelector = .ok {processor with ds := kernelDataSelector} ∧
        processor.loadEs kernelDataSelector = .ok {processor with es := kernelDataSelector} ∧
        processor.loadStackSegment kernelDataSelector =
          .ok {processor with ss := kernelDataSelector} := by
    subst hselected
    apply loadData_kernel (by rw [hgdtr]; exact hlimit)
    · rw [hgdtr, hsame]
      change machine.memory.HoldsTable _ _
      rw [hmemory]
      exact htable
    · rw [Processor.cpl, hsame]
      change requestedLevel machine.cs = _
      rw [hkernel]
      rfl
    · exact hdata
  have hds := (hload selected rfl rfl).1
  have hes := (hload {selected with ds := kernelDataSelector} rfl rfl).2.1
  have hss := (hload {selected with
    ds := kernelDataSelector, es := kernelDataSelector} rfl rfl).2.2
  rw [hreturn, Processor.ok_bind, hselected, hds, Processor.ok_bind, hes, Processor.ok_bind, hss,
    Processor.ok_bind, ← hselected]
  refine ⟨_, rfl, hkernel, rfl, ?_, ?_, ?_⟩
  · change machine.memory.read64 (machine.regs .rsp) = returnAddress
    rw [hmemory, hrsp]
    exact hframe.read 2 rfl
  · change machine.regs .rsp + 8#64 = self.regs .rsp
    rw [hrsp, hpushed.rsp]
    bv_omega
  · change Memory.SameOutside _ self.memory machine.memory
    rw [hmemory]
    exact hpushed.memory

/-- `LTR` finds the task-state segment and marks it busy. -/
theorem loadTaskRegister_tss (layout : Layout) (self : Processor) {tss : U64}
    (hgdtr : self.gdtr = GlobalDescriptorTable.pointer layout.gdt)
    (hwords : self.memory.Holds layout.gdt (GlobalDescriptorTable.installed tss))
    (hcpl : self.cpl = 0#2) :
    self.loadTaskRegister tssSelector = .ok {self with
      tr := tssSelector
      tssBase := tss
      tssLimit := tssSize - 1
      memory := self.memory.write64 (layout.gdt + BitVec.ofNat 64 (8 * 3))
        (GlobalDescriptorTable.tssLow tss ||| 0x20000000000#64)} := by
  have hlimit : self.gdtr.limit.toNat + 1 = 8 * (GlobalDescriptorTable.installed tss).length := by
    rw [hgdtr]
    rfl
  have hlow : self.nonNull tssSelector = .ok (GlobalDescriptorTable.tssLow tss) := by
    rw [Processor.nonNull_ok, Processor.descriptor_ok_iff hlimit, hgdtr]
    exact ⟨by decide, ⟨by decide, show 3 < 7 by decide⟩, hwords.getElem rfl⟩
  have hindex : (GlobalDescriptorTable.installed tss)[4]? =
      some (GlobalDescriptorTable.tssHigh tss) := rfl
  have hhigh := hwords.getElem hindex
  have hnext : layout.gdt + BitVec.ofNat 64 (8 * 3) + 8#64 =
      layout.gdt + BitVec.ofNat 64 (8 * 4) := by
    rw [BitVec.add_assoc, ← BitVec.ofNat_add]
  have haddress : self.gdtr.base + (tssSelector &&& 0xFFF8#16).setWidth 64 =
      layout.gdt + BitVec.ofNat 64 (8 * 3) := by
    rw [hgdtr]
    rfl
  have hroom : (tssSelector &&& 0xFFF8#16).toNat + 15 ≤ self.gdtr.limit.toNat := by
    rw [hgdtr]
    change 24 + 15 ≤ 55
    omega
  simp only [Processor.loadTaskRegister, Processor.require_bind, hcpl, if_true, hlow,
    Processor.ok_bind, hroom, GlobalDescriptorTable.kind_tssLow, and_self,
    GlobalDescriptorTable.present_tssLow, haddress, hnext, hhigh,
    GlobalDescriptorTable.systemBase_tss, GlobalDescriptorTable.limit_tssLow, Processor.pure_eq_ok]

theorem length_installed (tss : U64) : (GlobalDescriptorTable.installed tss).length = 7 := rfl

/-- The interrupt stack in the task-state segment. -/
theorem tssInit_ist1 (layout : Layout) (memory : Memory) :
    (layout.tssInit memory).read64 (layout.tss + BitVec.ofNat 64 36) =
      layout.doubleFaultStackTop := by
  have hist1 : TssField.ist1.store layout.doubleFaultStackTop =
      ⟨36, 8, layout.doubleFaultStackTop⟩ := rfl
  have hiomap : TssField.iomapBase.store (BitVec.ofNat 64 tssSize) = ⟨102, 2, 104#64⟩ := rfl
  have hfields : ∀ field ∈ ([⟨36, 8, layout.doubleFaultStackTop⟩, ⟨102, 2, 104#64⟩] :
      List Memory.FieldStore), field.offset + field.width ≤ 104 := by simp
  rw [tssInit, hist1, hiomap]
  apply Memory.read64_of_bytes
  intro offset hoffset
  rw [BitVec.add_assoc, ← BitVec.ofNat_add,
    Memory.storeFields_byte memory layout.tss hfields (by omega) (by omega)]
  have hinside : 36 ≤ 36 + offset ∧ 36 + offset < 36 + 8 := by omega
  have houtside : ¬ (102 ≤ 36 + offset ∧ 36 + offset < 102 + 2) := by omega
  simp only [Memory.fieldByte, List.foldl_cons, List.foldl_nil, if_pos hinside, if_neg houtside,
    Nat.add_sub_cancel_left]

/-- What `gdt::init` has stored before it loads anything. -/
theorem gdtInit_memory (layout : Layout) (memory : Memory) :
    (memory.writeWords layout.gdt (GlobalDescriptorTable.installed layout.tss)).Holds layout.gdt
        (GlobalDescriptorTable.installed layout.tss) ∧
      (memory.writeWords layout.gdt (GlobalDescriptorTable.installed layout.tss)).read64
          (layout.tss + BitVec.ofNat 64 36) =
        memory.read64 (layout.tss + BitVec.ofNat 64 36) := by
  have hlength := length_installed layout.tss
  constructor
  · exact Memory.writeWords_holds _ _ (by omega)
  · have hkept := Memory.writeWords_sameOutside memory layout.gdt
      (GlobalDescriptorTable.installed layout.tss)
    rw [hlength] at hkept
    apply tssWord_congr _ (by omega)
    intro address hmem
    exact hkept address (Set.disjoint_right.mp layout.gdt_tss hmem)

/-- `gdt::init` runs through and leaves the kernel segments loaded. The stack it
runs on must not overlap the tables. -/
theorem gdtInit_loaded (layout : Layout) (returnAddress : U64) {reloadDone : U64}
    (hreload : canonical reloadDone = true) (hcpl : self.cpl = 0#2)
    (hstack : Disjoint layout.tables (Memory.span (self.regs .rsp - 24#64) 24)) :
    ∃ loaded, layout.gdtInit returnAddress reloadDone self = .ok loaded ∧
      layout.GdtLoaded loaded ∧ loaded.tr = tssSelector ∧ loaded.cs = kernelCodeSelector ∧
      loaded.ss = kernelDataSelector ∧ loaded.ds = kernelDataSelector ∧
      loaded.es = kernelDataSelector ∧ loaded.rip = returnAddress ∧
      loaded.regs .rsp = self.regs .rsp ∧ loaded.msrs = self.msrs := by
  have htable : (GlobalDescriptorTable.new.installTss layout.tss).entries.toList =
      GlobalDescriptorTable.installed layout.tss := rfl
  rw [gdtInit, htable]
  generalize hbefore : layout.tssInit (self.memory.writeWords layout.gdt
    GlobalDescriptorTable.new.entries.toList) = before
  have hist1 : before.read64 (layout.tss + BitVec.ofNat 64 36) = layout.doubleFaultStackTop := by
    rw [← hbefore]
    exact layout.tssInit_ist1 _
  obtain ⟨hholds, hkept⟩ := layout.gdtInit_memory before
  rw [hist1] at hkept
  generalize before.writeWords layout.gdt (GlobalDescriptorTable.installed layout.tss) = stored at *
  have hgdtStack : Disjoint (Memory.span layout.gdt
      (8 * (GlobalDescriptorTable.installed layout.tss).length))
      (Memory.span (self.regs .rsp - 24#64) 24) :=
    hstack.mono_left (Set.subset_union_left.trans Set.subset_union_left)
  obtain ⟨machine, hreloaded, hcs, hss, hrip, hrsp, hmemory⟩ :=
    unboundReloadSegments_ok
      {self with memory := stored, gdtr := GlobalDescriptorTable.pointer layout.gdt}
      rfl hholds hcpl rfl rfl returnAddress hreload hgdtStack
  have hreloadedGdt : machine.memory.Holds layout.gdt
      (GlobalDescriptorTable.installed layout.tss) := hholds.outside hmemory hgdtStack
  have hreloadedTss : ∀ address ∈ Memory.span layout.tss 104,
      machine.memory address = stored address := by
    intro address hmem
    exact hmemory address (Set.disjoint_left.mp hstack (Or.inl (Or.inr hmem)))
  have htask := loadTaskRegister_tss layout {self with
    toMachine := machine, gdtr := GlobalDescriptorTable.pointer layout.gdt,
    ds := kernelDataSelector, es := kernelDataSelector} rfl hreloadedGdt
    (by rw [Processor.cpl, hcs]; rfl)
  have hbusy := hreloadedGdt.write64_set (by rw [length_installed]; omega)
    (show 3 < (GlobalDescriptorTable.installed layout.tss).length by rw [length_installed]; omega)
    (GlobalDescriptorTable.tssLow layout.tss ||| 0x20000000000#64)
  have hbusyOutside := Memory.write64_sameOutside machine.memory
    (layout.gdt + BitVec.ofNat 64 (8 * 3)) (GlobalDescriptorTable.tssLow layout.tss |||
      0x20000000000#64)
  have hbusyTss : ∀ address ∈ Memory.span layout.tss 104,
      machine.memory.write64 (layout.gdt + BitVec.ofNat 64 (8 * 3))
        (GlobalDescriptorTable.tssLow layout.tss ||| 0x20000000000#64) address =
        stored address := by
    intro address hmem
    refine (hbusyOutside address fun hinside => ?_).trans (hreloadedTss address hmem)
    exact Set.disjoint_left.mp layout.gdt_tss
      (Memory.span_subset rfl (by omega) hinside) hmem
  rw [hreloaded, Processor.ok_bind, htask]
  refine ⟨_, rfl, ⟨rfl, rfl, rfl, hbusy.holdsTable, ?_⟩, rfl, hcs, hss, rfl, rfl, hrip, hrsp, rfl⟩
  exact (tssWord_congr hbusyTss (by omega)).trans hkept

/-- `idt::init` leaves the other tables alone. -/
theorem idtInit_loaded (hloaded : layout.GdtLoaded self) :
    layout.IdtLoaded (layout.idtInit self) := by
  have hlength := layout.length_loadedIdt
  have hsame := Memory.writeWords_sameOutside self.memory layout.idt layout.loadedIdt
  rw [hlength] at hsame
  refine ⟨hloaded.keeps rfl rfl rfl (keepsGdt_of_same ?_) ?_, rfl,
    Memory.writeWords_holds _ _ (by omega)⟩
  · intro address hmem
    exact hsame address (Set.disjoint_left.mp layout.gdt_idt hmem)
  · apply tssWord_congr _ (by omega)
    intro address hmem
    exact hsame address (Set.disjoint_left.mp layout.tss_idt hmem)

/-- `tss::set_rsp0` completes the tables. -/
theorem setRsp0_installed (hloaded : layout.IdtLoaded self) :
    layout.Installed (layout.setRsp0 layout.syscallStackTop self) := by
  have hmemory : (layout.setRsp0 layout.syscallStackTop self).memory =
      self.memory.write64 (layout.tss + BitVec.ofNat 64 4) layout.syscallStackTop := rfl
  have houtside := Memory.write64_sameOutside self.memory (layout.tss + BitVec.ofNat 64 4)
    layout.syscallStackTop
  have hinside : Memory.span (layout.tss + BitVec.ofNat 64 4) 8 ⊆ Memory.span layout.tss 104 :=
    Memory.span_subset rfl (by omega)
  have hlength := layout.length_loadedIdt
  refine ⟨⟨hloaded.toGdtLoaded.keeps rfl rfl rfl (keepsGdt_of_same ?_) ?_, hloaded.idtr, ?_⟩, ?_⟩
  · intro address hmem
    exact houtside address fun htss => Set.disjoint_left.mp layout.gdt_tss hmem (hinside htss)
  · rw [hmemory]
    apply Memory.read64_write64_apart
    constructor <;> bv_omega
  · apply hloaded.idt.outside houtside
    rw [hlength]
    exact layout.tss_idt.symm.mono_right hinside
  · rw [hmemory]
    exact Memory.read64_write64 _ _ _

/-- The tables are in place after `gdt::init`, `idt::init` and `tss::set_rsp0`,
whatever the kernel does between them as long as it leaves the tables alone. -/
theorem boot_installed (layout : Layout) (returnAddress : U64) {reloadDone : U64}
    (hreload : canonical reloadDone = true) (hcpl : self.cpl = 0#2)
    (hstack : Disjoint layout.tables (Memory.span (self.regs .rsp - 24#64) 24)) :
    ∃ loaded, layout.gdtInit returnAddress reloadDone self = .ok loaded ∧
      ∀ before, layout.Keeps loaded before → ∀ after, layout.Keeps (layout.idtInit before) after →
        layout.Installed (layout.setRsp0 layout.syscallStackTop after) := by
  obtain ⟨loaded, hinit, hloaded, _⟩ := layout.gdtInit_loaded returnAddress hreload hcpl hstack
  refine ⟨loaded, hinit, fun before hbefore after hafter => ?_⟩
  exact setRsp0_installed (hafter.idtLoaded (idtInit_loaded (hbefore.gdtLoaded hloaded)))

/-! ### Delivery -/

/-- The selectors the kernel runs with: its own, also with the null SS that an
interrupt from ring 3 leaves, or those of ring 3. -/
inductive Legal (processor : Processor) : Prop where
  | kernel (cs : processor.cs = kernelCodeSelector)
      (ss : processor.ss = kernelDataSelector ∨ processor.ss = 0#16)
  | user (cs : processor.cs = userCodeSelectorR3) (ss : processor.ss = userDataSelectorR3)

/-- The stack of an interrupt: the double fault has its own, ring 3 is left for
the system-call stack, and the kernel stays where it is. -/
def stackFor (layout : Layout) (vector : U8) (self : Processor) : U64 :=
  if vector = 8#8 then layout.doubleFaultStackTop
  else if self.cpl = 0#2 then self.regs .rsp
  else layout.syscallStackTop

/-- The state in which a handler starts. -/
def delivered (layout : Layout) (vector : U8) (errorCode : Option U64) (self : Processor) :
    Processor :=
  {self with toMachine :=
    {self.deliver (layout.stackFor vector self) (layout.handler vector) kernelCodeSelector
        errorCode with
      ss := if self.cpl = 0#2 then self.ss else 0#16}}

theorem handler_canonical (layout : Layout) (vector : U8) :
    canonical (layout.handler vector) = true := by
  unfold handler
  split
  · exact layout.isr_canonical _
  · exact layout.irq0_canonical

/-- The gates that `idt::init` installs. -/
theorem gate_entryFor (layout : Layout) {vector : U8} (hvector : vector.toNat < 33) :
    (InterruptDescriptorTable.entryFor layout.isr layout.irq0 vector.toNat).gate =
      ⟨layout.handler vector, kernelCodeSelector, if vector = 8#8 then 1#3 else 0#3, 0x0E#5, 0#2,
        true⟩ := by
  have hdouble : vector = 8#8 ↔ vector.toNat = 8 :=
    ⟨fun heq => by rw [heq]; rfl, fun heq => BitVec.eq_of_toNat_eq heq⟩
  unfold InterruptDescriptorTable.entryFor handler
  by_cases hexception : vector.toNat < 32
  · rw [dif_pos hexception, dif_pos hexception]
    by_cases height : vector.toNat = 8
    · rw [if_pos height, if_pos (hdouble.mpr height), IdtEntry.gate_setHandlerWithIst]
      rfl
    · rw [if_neg height, if_neg (mt hdouble.mp height), IdtEntry.setHandler,
        IdtEntry.gate_setHandlerWithIst]
      rfl
  · have hlast : vector.toNat = 32 := by omega
    rw [dif_neg hexception, dif_neg hexception, if_pos hlast, if_neg (by rw [hdouble]; omega),
      IdtEntry.setHandler,
      IdtEntry.gate_setHandlerWithIst]
    rfl

theorem gate_entryFor_missing (layout : Layout) {vector : U8} (hvector : 33 ≤ vector.toNat) :
    (InterruptDescriptorTable.entryFor layout.isr layout.irq0 vector.toNat).gate.kind = 0#5 := by
  rw [InterruptDescriptorTable.entryFor, dif_neg (by omega), if_neg (by omega)]
  decide

/-- The stack pointer that the processor loads when it leaves ring 3. The kernel
sets it long after the first interrupts of ring 0. -/
def HasRsp0 (layout : Layout) (self : Processor) : Prop :=
  self.cpl ≠ 0#2 →
    self.memory.read64 (layout.tss + BitVec.ofNat 64 4) = layout.syscallStackTop

theorem Installed.hasRsp0 (hinstalled : layout.Installed self) : layout.HasRsp0 self :=
  fun _ => hinstalled.rsp0

theorem GdtLoaded.gateLevel_kernel (hloaded : layout.GdtLoaded self) :
    self.gateLevel kernelCodeSelector = .ok 0#2 := by
  obtain ⟨word, hdescriptor, hmarked⟩ := hloaded.segment
    (show (bareSelector kernelCodeSelector).toNat = _ by decide) rfl
  have hword : self.nonNull kernelCodeSelector = .ok word :=
    Processor.nonNull_ok.mpr ⟨by decide, hdescriptor⟩
  have hlevel : Descriptor.level gdtKernelCode ≤ self.cpl :=
    BitVec.le_def.mpr (Nat.zero_le _)
  have hcode : Descriptor.isCode gdtKernelCode = true ∧ Descriptor.isLong gdtKernelCode = true ∧
      Descriptor.level gdtKernelCode ≤ self.cpl := ⟨rfl, rfl, hlevel⟩
  rw [Processor.gateLevel, hword, Processor.ok_bind, Processor.require_bind, hmarked.isCode,
    hmarked.isLong, hmarked.level, if_pos hcode, Processor.require_bind, hmarked.present,
    hmarked.isConforming]
  rfl

theorem GdtLoaded.gateStack (hloaded : layout.GdtLoaded self) (hrsp0 : layout.HasRsp0 self)
    (vector : U8) :
    self.gateStack (if vector = 8#8 then 1#3 else 0#3) 0#2 =
      if canonical (layout.stackFor vector self) then .ok (layout.stackFor vector self)
      else .error (.stackSegment 0#64) := by
  have hlimit := hloaded.tssLimit
  have hword (offset : Nat) (hoffset : offset + 7 ≤ 103) :
      self.tssWord offset = .ok (self.memory.read64 (layout.tss + BitVec.ofNat 64 offset)) := by
    have hroom : offset + 7 ≤ self.tssLimit := by rw [hlimit]; exact hoffset
    rw [Processor.tssWord, Processor.require_bind, if_pos hroom, hloaded.tssBase,
      Processor.pure_eq_ok]
  have hpositive : 0#2 < self.cpl ↔ self.cpl ≠ 0#2 := BitVec.pos_iff_ne_zero _
  have htop : self.stackTop (if vector = 8#8 then 1#3 else 0#3) 0#2 =
      .ok (layout.stackFor vector self) := by
    unfold Processor.stackTop stackFor
    by_cases hdouble : vector = 8#8
    · rw [if_pos hdouble, if_pos hdouble, if_pos (by decide)]
      exact (hword 36 (by omega)).trans (congrArg _ hloaded.ist1)
    · rw [if_neg hdouble, if_neg hdouble, if_neg (by decide)]
      by_cases hlevel : self.cpl = 0#2
      · rw [if_neg (by rw [hpositive]; exact not_not.mpr hlevel), if_pos hlevel]
      · rw [if_pos (hpositive.mpr hlevel), if_neg hlevel]
        exact (hword 4 (by omega)).trans (congrArg _ (hrsp0 hlevel))
  rw [Processor.gateStack, htop, Processor.ok_bind, Processor.require_bind]
  rfl

theorem enterGate_kernel (layout : Layout) (vector : U8) (errorCode : Option U64)
    (self : Processor) :
    self.enterGate ⟨layout.handler vector, kernelCodeSelector, if vector = 8#8 then 1#3 else 0#3,
      0x0E#5, 0#2, true⟩ 0#2 (layout.stackFor vector self) errorCode =
      layout.delivered vector errorCode self := by
  have hss : (if 0#2 < self.cpl then (0#2).setWidth 16 else self.ss) =
      if self.cpl = 0#2 then self.ss else 0#16 := by
    have hpositive : 0#2 < self.cpl ↔ self.cpl ≠ 0#2 := BitVec.pos_iff_ne_zero _
    simp only [hpositive, ite_not]
    rfl
  have hcs : bareSelector kernelCodeSelector ||| (0#2).setWidth 16 = kernelCodeSelector := by decide
  have hflags : (if (0x0E#5 : BitVec 5) = 0x0F#5 then 0x34100#64 else 0x34300#64) =
      0x34300#64 := rfl
  simp only [Processor.enterGate, delivered, hss, hcs, hflags]
  rfl

/-- What every interrupt does once the tables are in place. -/
theorem IdtLoaded.interrupt_eq (hloaded : layout.IdtLoaded self) (hrsp0 : layout.HasRsp0 self)
    (vector : U8) (software : Bool) (errorCode : Option U64) :
    self.interrupt vector software errorCode =
      if vector.toNat < 33 ∧ (software = true → self.cpl = 0#2) then
        if canonical (layout.stackFor vector self) then .ok (layout.delivered vector errorCode self)
        else .error (.stackSegment 0#64)
      else .error (.generalProtection (Processor.vectorError vector software)) := by
  have hlimit : 16 * vector.toNat + 15 ≤ self.idtr.limit.toNat := by
    have hvector : vector.toNat < 256 := vector.isLt
    rw [hloaded.idtr]
    change _ ≤ 4095
    omega
  have hhandler := layout.handler_canonical vector
  have hzero : self.cpl ≤ 0#2 ↔ self.cpl = 0#2 := by
    rw [BitVec.le_def, ← BitVec.toNat_inj]
    exact Nat.le_zero
  rw [Processor.interrupt, Processor.require_bind, if_pos hlimit, hloaded.gateAt]
  by_cases hvector : vector.toNat < 33
  · simp only [layout.gate_entryFor hvector, Processor.require_bind, Processor.ok_bind,
      hloaded.toGdtLoaded.gateLevel_kernel, hloaded.toGdtLoaded.gateStack hrsp0, hhandler]
    have hallowed : (software = true → self.cpl ≤ 0#2) ↔ (software = true → self.cpl = 0#2) := by
      rw [hzero]
    simp only [true_or, true_and, if_true, hvector, hallowed]
    by_cases hsoftware : software = true → self.cpl = 0#2
    · rw [if_pos hsoftware, if_pos hsoftware]
      by_cases hstack : canonical (layout.stackFor vector self) = true
      · rw [if_pos hstack, if_pos hstack, Processor.ok_bind, enterGate_kernel, Processor.pure_eq_ok]
      · rw [if_neg hstack, if_neg hstack]
        rfl
    · rw [if_neg hsoftware, if_neg hsoftware]
  · have hkind := layout.gate_entryFor_missing (not_lt.mp hvector)
    rw [if_neg fun hboth => hvector hboth.1]
    simp only [Processor.require_bind, hkind]
    rfl

/-- From the encoders to the handler. Once the kernel has run `gdt::init`,
`idt::init` and `tss::set_rsp0`, and for as long as it leaves the tables alone,
the processor enters the installed handler of each of the first 33 vectors in
the kernel code segment and on the stack meant for it. A program outside ring 0
cannot ask for any of them, and nothing else is behind the other vectors. -/
theorem tables_deliver (layout : Layout) (returnAddress reloadDone : U64) (self : Processor)
    (hreload : canonical reloadDone = true) (hcpl : self.cpl = 0#2)
    (hstack : Disjoint layout.tables (Memory.span (self.regs .rsp - 24#64) 24)) :
    ∃ loaded, layout.gdtInit returnAddress reloadDone self = .ok loaded ∧
      ∀ before, layout.Keeps loaded before →
      ∀ after, layout.Keeps (layout.idtInit before) after →
      ∀ running, layout.Keeps (layout.setRsp0 layout.syscallStackTop after) running →
      ∀ vector software errorCode, running.interrupt vector software errorCode =
        if vector.toNat < 33 ∧ (software = true → running.cpl = 0#2) then
          if canonical (layout.stackFor vector running) then
            .ok (layout.delivered vector errorCode running)
          else .error (.stackSegment 0#64)
        else .error (.generalProtection (Processor.vectorError vector software)) := by
  obtain ⟨loaded, hinit, hinstalled⟩ :=
    layout.boot_installed returnAddress hreload hcpl hstack
  refine ⟨loaded, hinit, fun before hbefore after hafter running hrunning => ?_⟩
  have htables := hrunning.installed (hinstalled before hbefore after hafter)
  exact htables.toIdtLoaded.interrupt_eq htables.hasRsp0

/-- A layout in the second megabyte. -/
def sample : Layout where
  gdt := 0x110000#64
  tss := 0x110100#64
  idt := 0x111000#64
  doubleFaultStack := 0x112000#64
  syscallStack := 0x116000#64
  isr vector := 0x101000#64 + BitVec.ofNat 64 (16 * vector)
  irq0 := 0x102000#64
  syscallEntry := 0x103000#64
  gdt_tss := Memory.span_apart (by decide) (by decide)
  gdt_idt := Memory.span_apart (by decide) (by decide)
  tss_idt := Memory.span_apart (by decide) (by decide)
  doubleFault_apart := by
    rw [Set.disjoint_union_right, Set.disjoint_union_right]
    exact ⟨⟨Memory.span_apart (by decide) (by decide), Memory.span_apart (by decide) (by decide)⟩,
      Memory.span_apart (by decide) (by decide)⟩
  syscall_apart := by
    rw [Set.disjoint_union_right, Set.disjoint_union_right]
    exact ⟨⟨Memory.span_apart (by decide) (by decide), Memory.span_apart (by decide) (by decide)⟩,
      Memory.span_apart (by decide) (by decide)⟩
  doubleFault_aligned := by decide
  syscall_aligned := by decide
  doubleFault_canonical := by decide
  syscall_canonical := by decide
  isr_canonical := by decide
  irq0_canonical := by decide
  entry_canonical := by decide

/-- The processor as stage 2 hands it over, with all other state zero. -/
def sampleProcessor : Processor where
  toMachine := interruptedState 0x100000#64 kernelCodeSelector 0x2#64 0x90000#64 kernelDataSelector
  gdtr := ⟨0#64, 0#16⟩
  idtr := ⟨0#64, 0#16⟩
  tr := 0#16
  tssBase := 0#64
  tssLimit := 0
  ds := kernelDataSelector
  es := kernelDataSelector
  msrs := fun _ => 0#64

theorem sample_stack :
    Disjoint sample.tables (Memory.span (sampleProcessor.regs .rsp - 24#64) 24) := by
  rw [tables, Set.disjoint_union_left, Set.disjoint_union_left]
  exact ⟨⟨Memory.span_apart (by decide) (by decide), Memory.span_apart (by decide) (by decide)⟩,
    Memory.span_apart (by decide) (by decide)⟩

/-- A double fault in that layout starts on its own stack. -/
theorem tables_deliver_double_fault :
    ∃ running : Processor, running.interrupt 8#8 false (some 0#64) =
      .ok (sample.delivered 8#8 (some 0#64) running) := by
  obtain ⟨loaded, _, hdeliver⟩ := tables_deliver sample 0x100010#64 0x100020#64 sampleProcessor
    (by decide) (by decide) sample_stack
  have hfault := hdeliver loaded (Keeps.refl _ _) _ (Keeps.refl _ _) _ (Keeps.refl _ _) 8#8 false
    (some 0#64)
  exact ⟨_, hfault⟩

end Layout

end UnboundOS.Arch
