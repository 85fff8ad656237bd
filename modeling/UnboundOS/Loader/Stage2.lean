import UnboundOS.Loader.Image
import UnboundOS.X86.Memory

/-!
Stage 2 from `load_kernel` to the ELF header checks: the disk reads, the memory
map of the firmware, and the stacks. After `load_kernel` every store is also
recorded, so that one can say where Stage 2 has written and not only what it
has left there. The variables of Stage 2 lie in its own image and are fields
here.
-/

namespace UnboundOS.Loader

open X86 X86.Memory

def kernelBuffer : U64 := 0x20000#64
def kernelMaxSectors : U16 := 1024#16
def kernelReadChunk : U16 := 32#16
def kernelBufferSize : Nat := 1024 * 512

/-- The disk address packet of `INT 13h`, function `42h`. -/
structure DiskPacket where
  sectors : U16
  offset : U16
  segment : U16
  lbaLow : U32
  lbaHigh : U32

/-- A real-mode address. -/
def physical (segment offset : U16) : U64 :=
  segment.setWidth 64 * 16#64 + offset.setWidth 64

/-- The variables of `load_kernel`. -/
structure KernelLoad where
  remaining : U16
  destinationSegment : U16
  currentLbaLow : U32
  currentLbaHigh : U32
  memory : Memory

namespace KernelLoad

/-- `kernel_current_chunk`. -/
def chunk (self : KernelLoad) : U16 :=
  if self.remaining ≤ kernelReadChunk then self.remaining else kernelReadChunk

/-- `kernel_dap`, as it is built for one read. -/
def packet (self : KernelLoad) : DiskPacket :=
  ⟨self.chunk, 0#16, self.destinationSegment, self.currentLbaLow, self.currentLbaHigh⟩

/-- The bytes the firmware copies for that packet. -/
def receive (self : KernelLoad) (bytes : List U8) : KernelLoad :=
  {self with memory := self.memory.writeBytes (physical self.destinationSegment 0#16) bytes}

/-- From the return of `int 0x13` to the jump back. -/
def advance (self : KernelLoad) : KernelLoad where
  remaining := self.remaining - self.chunk
  destinationSegment := self.destinationSegment + self.chunk <<< 5
  currentLbaLow := self.currentLbaLow + self.chunk.setWidth 32
  currentLbaHigh := self.currentLbaHigh +
    (if self.currentLbaLow.toNat + self.chunk.toNat < 2 ^ 32 then 0#32 else 1#32)
  memory := self.memory

end KernelLoad

/-- One disk read. `disk` is the firmware: it returns the bytes of the request,
or nothing with the carry flag set. -/
def loadNextChunk (disk : DiskPacket → Option (List U8)) (self : KernelLoad) :
    Option KernelLoad :=
  (disk self.packet).map fun bytes => (self.receive bytes).advance

def loadChunks (disk : DiskPacket → Option (List U8)) : Nat → KernelLoad → Option KernelLoad
  | 0, self => some self
  | fuel + 1, self =>
      if self.remaining = 0#16 then some self
      else (loadNextChunk disk self).bind (loadChunks disk fuel)

/-- The variables before the first read. -/
def startLoad (memory : Memory) : KernelLoad :=
  ⟨kernelMaxSectors, 0x2000#16, 33#32, 0#32, memory⟩

/-- `load_kernel`; `none` is the carry flag of a failed read. A read takes at
least one sector, so that there are no more reads than sectors. -/
def loadKernel (disk : DiskPacket → Option (List U8)) (memory : Memory) : Option KernelLoad :=
  loadChunks disk kernelMaxSectors.toNat (startLoad memory)

/-- The sectors that a packet names. -/
def namedSectors (image : List U8) (packet : DiskPacket) : List U8 :=
  readSectors image (packet.lbaHigh.toNat * 2 ^ 32 + packet.lbaLow.toNat) packet.sectors.toNat

/-- The firmware copies exactly the requested sectors. -/
def CopiesSectors (disk : DiskPacket → Option (List U8)) (image : List U8) : Prop :=
  ∀ packet, disk packet = some (namedSectors image packet)

/-- A firmware that does so. -/
def exactDisk (image : List U8) (packet : DiskPacket) : Option (List U8) :=
  some (namedSectors image packet)

theorem exactDisk_copies (image : List U8) : CopiesSectors (exactDisk image) image :=
  fun _ => rfl

/-- Where the variables of `load_kernel` stand once it has read `done` sectors. -/
structure LoadAt (done : Nat) (load : KernelLoad) : Prop where
  bound : done ≤ 1024
  remaining : load.remaining = BitVec.ofNat 16 (1024 - done)
  segment : load.destinationSegment = BitVec.ofNat 16 (0x2000 + 32 * done)
  lbaLow : load.currentLbaLow = BitVec.ofNat 32 (33 + done)
  lbaHigh : load.currentLbaHigh = 0#32

/-- The same with the sectors themselves. -/
structure SectorsLoaded (image : List U8) (done : Nat) (load : KernelLoad) : Prop
    extends LoadAt done load where
  bytes : ∀ index < done * sectorSize,
    image[kernelLba * sectorSize + index]? =
      some (load.memory (kernelBuffer + BitVec.ofNat 64 index))

theorem startLoad_at (memory : Memory) : LoadAt 0 (startLoad memory) :=
  ⟨by omega, rfl, rfl, rfl, rfl⟩

theorem startLoad_loaded (image : List U8) (memory : Memory) :
    SectorsLoaded image 0 (startLoad memory) :=
  ⟨startLoad_at memory, fun index hindex => by omega⟩

section Load

variable {disk : DiskPacket → Option (List U8)} {image : List U8} {self : KernelLoad} {done : Nat}

theorem readSectors_getElem (image : List U8) (lba : Nat) {count index : Nat}
    (hindex : index < count * sectorSize) :
    (readSectors image lba count)[index]? = image[lba * sectorSize + index]? := by
  rw [readSectors, List.getElem?_take_of_lt hindex, List.getElem?_drop]

theorem readSectors_length {lba count : Nat} (hroom : (lba + count) * sectorSize ≤ image.length) :
    (readSectors image lba count).length = count * sectorSize := by
  rw [Nat.add_mul] at hroom
  rw [readSectors, List.length_take, List.length_drop]
  omega

/-- Sectors written behind those already loaded. -/
theorem bytes_append {memory : Memory} {count : Nat} (himage : image.length = imageSize)
    (hroom : done + count ≤ 1024)
    (hbytes : ∀ index < done * sectorSize, image[kernelLba * sectorSize + index]? =
      some (memory (kernelBuffer + BitVec.ofNat 64 index))) :
    ∀ index < (done + count) * sectorSize, image[kernelLba * sectorSize + index]? =
      some (memory.writeBytes (kernelBuffer + BitVec.ofNat 64 (done * sectorSize))
        (readSectors image (33 + done) count) (kernelBuffer + BitVec.ofNat 64 index)) := by
  have hstart : kernelLba * sectorSize = 16896 := rfl
  rw [show imageSize = 541184 from rfl] at himage
  rw [hstart] at hbytes ⊢
  rw [sectorSize] at hbytes ⊢
  have hlength : (readSectors image (33 + done) count).length = count * 512 := by
    apply readSectors_length
    rw [himage, sectorSize]
    omega
  intro index hindex
  by_cases hloaded : index < done * 512
  · rw [hbytes index hloaded, writeBytes_sameOutside]
    rw [hlength, mem_span]
    bv_omega
  · obtain ⟨offset, rfl⟩ := Nat.exists_eq_add_of_le (not_lt.mp hloaded)
    have hoffset : offset < count * 512 := by omega
    have hbyte := List.getElem?_eq_getElem
      (show 16896 + (done * 512 + offset) < image.length by omega)
    have hindices : (33 + done) * 512 + offset = 16896 + (done * 512 + offset) := by omega
    have hsector := readSectors_getElem image (33 + done) hoffset
    rw [sectorSize, hindices, hbyte] at hsector
    rw [hbyte, BitVec.ofNat_add, ← BitVec.add_assoc,
      writeBytes_inside memory _ (by omega) hsector]

/-- The sectors of the next read: a chunk, or what is left. -/
def chunkAt (done : Nat) : Nat := min 32 (1024 - done)

namespace LoadAt

theorem chunk (hself : LoadAt done self) : self.chunk.toNat = chunkAt done := by
  have hremaining := hself.remaining
  rw [KernelLoad.chunk, hremaining, kernelReadChunk, chunkAt]
  split <;> bv_omega

theorem lba (hself : LoadAt done self) :
    self.currentLbaHigh.toNat * 2 ^ 32 + self.currentLbaLow.toNat = 33 + done := by
  have hbound := hself.bound
  rw [hself.lbaHigh, hself.lbaLow, BitVec.toNat_ofNat, BitVec.toNat_ofNat]
  omega

theorem destination (hself : LoadAt done self) :
    physical self.destinationSegment 0#16 =
      kernelBuffer + BitVec.ofNat 64 (done * sectorSize) := by
  have hbound := hself.bound
  rw [hself.segment, physical, kernelBuffer, sectorSize]
  bv_omega

/-- One read moves on by at most a chunk and at least a sector, whatever it
copies. -/
theorem advance (hself : LoadAt done self) (hdone : done < 1024) (bytes : List U8) :
    LoadAt (done + chunkAt done) (self.receive bytes).advance := by
  have hsize : chunkAt done ≤ 32 ∧ chunkAt done ≤ 1024 - done := ⟨min_le_left _ _, min_le_right _ _⟩
  have hchunk : (self.receive bytes).chunk = BitVec.ofNat 16 (chunkAt done) := by
    rw [← hself.chunk, BitVec.ofNat_toNat, BitVec.setWidth_eq]
    rfl
  have hlow : (self.receive bytes).currentLbaLow = BitVec.ofNat 32 (33 + done) := hself.lbaLow
  have hcarry : (self.receive bytes).currentLbaLow.toNat + (self.receive bytes).chunk.toNat <
      2 ^ 32 := by
    rw [hlow, hchunk, BitVec.toNat_ofNat, BitVec.toNat_ofNat]
    omega
  refine ⟨by omega, ?_, ?_, ?_, ?_⟩
  · change self.remaining - (self.receive bytes).chunk = _
    rw [hself.remaining, hchunk]
    bv_omega
  · change self.destinationSegment + (self.receive bytes).chunk <<< 5 = _
    rw [hself.segment, hchunk]
    apply BitVec.eq_of_toNat_eq
    simp only [BitVec.toNat_add, BitVec.toNat_shiftLeft, BitVec.toNat_ofNat]
    omega
  · change self.currentLbaLow + (self.receive bytes).chunk.setWidth 32 = _
    rw [hself.lbaLow, hchunk]
    bv_omega
  · have hhigh : (self.receive bytes).currentLbaHigh = 0#32 := hself.lbaHigh
    simp only [KernelLoad.advance, if_pos hcarry, hhigh, BitVec.add_zero]

/-- What a firmware that copies its sectors answers. -/
theorem reply (hself : LoadAt done self) (hdisk : CopiesSectors disk image) :
    disk self.packet = some (readSectors image (33 + done) (chunkAt done)) := by
  rw [hdisk, ← hself.lba, ← hself.chunk]
  rfl

end LoadAt

/-- One read that copies its sectors. -/
theorem loadNextChunk_spec (hdisk : CopiesSectors disk image) (himage : image.length = imageSize)
    (hself : SectorsLoaded image done self) (hdone : done < 1024) :
    ∃ next, loadNextChunk disk self = some next ∧
      SectorsLoaded image (done + chunkAt done) next := by
  have hnext := hself.advance hdone (readSectors image (33 + done) (chunkAt done))
  refine ⟨_, by rw [loadNextChunk, hself.reply hdisk, Option.map_some], hnext, ?_⟩
  change ∀ index < (done + chunkAt done) * sectorSize, image[kernelLba * sectorSize + index]? =
    some (self.memory.writeBytes (physical self.destinationSegment 0#16)
      (readSectors image (33 + done) (chunkAt done)) (kernelBuffer + BitVec.ofNat 64 index))
  rw [hself.destination]
  exact bytes_append himage hnext.bound hself.bytes

theorem loadKernel_spec (hdisk : CopiesSectors disk image) (himage : image.length = imageSize)
    (memory : Memory) :
    ∃ loaded, loadKernel disk memory = some loaded ∧ SectorsLoaded image 1024 loaded := by
  have hloop (fuel : Nat) (done : Nat) (self : KernelLoad) (hfuel : 1024 - done ≤ fuel)
      (hself : SectorsLoaded image done self) :
      ∃ loaded, loadChunks disk fuel self = some loaded ∧ SectorsLoaded image 1024 loaded := by
    induction fuel generalizing done self with
    | zero =>
        obtain rfl : done = 1024 := by
          have hbound := hself.bound
          omega
        exact ⟨self, rfl, hself⟩
    | succ fuel ih =>
        have hbound := hself.bound
        have hremaining := hself.remaining
        by_cases hdone : done = 1024
        · subst hdone
          exact ⟨self, if_pos hremaining, hself⟩
        · obtain ⟨next, hnext, hloaded⟩ := loadNextChunk_spec hdisk himage hself (by omega)
          have hchunk : 0 < chunkAt done := by
            rw [chunkAt]
            omega
          have hmore : self.remaining ≠ 0#16 := by
            rw [hremaining]
            bv_omega
          obtain ⟨loaded, hrest, hall⟩ := ih _ next (by omega) hloaded
          refine ⟨loaded, ?_, hall⟩
          rw [loadChunks, if_neg hmore, hnext]
          exact hrest
  exact hloop 1024 0 _ (by omega) (startLoad_loaded image memory)

end Load

/-- Memory with a record of where it has been written. -/
structure Ram where
  memory : Memory
  stores : List (U64 × Nat)

namespace Ram

def write (self : Ram) (address : U64) (bytes : List U8) : Ram :=
  ⟨self.memory.writeBytes address bytes, self.stores ++ [(address, bytes.length)]⟩

def store (self : Ram) (width : Nat) (address value : U64) : Ram :=
  ⟨Memory.store width self.memory address value, self.stores ++ [(address, width)]⟩

/-- The `depth`-th word on the real-mode stack. -/
def push16 (self : Ram) (depth : Fin 5) (word : U16) : Ram :=
  self.store 2 (0x8000#64 - BitVec.ofNat 64 (2 * (depth + 1))) (word.setWidth 64)

/-- The `depth`-th word on the stack of protected and long mode. -/
def push64 (self : Ram) (depth : Fin 4) (word : U64) : Ram :=
  self.store 8 (0x90000#64 - BitVec.ofNat 64 (8 * (depth + 1))) word

/-- All stores lie in a region, and memory is unchanged outside it. -/
structure Within (start : Memory) (region : Set U64) (ram : Ram) : Prop where
  stores : ∀ entry ∈ ram.stores, span entry.1 entry.2 ⊆ region
  memory : SameOutside region start ram.memory

variable {start : Memory} {region : Set U64} {ram : Ram}

theorem Within.record (hram : Within start region ram) {address : U64} {size : Nat}
    {memory : Memory} (hinside : span address size ⊆ region)
    (hsame : SameOutside (span address size) ram.memory memory) :
    Within start region ⟨memory, ram.stores ++ [(address, size)]⟩ := by
  refine ⟨?_, hram.memory.trans (hsame.mono hinside)⟩
  intro entry hentry
  rcases List.mem_append.mp hentry with hold | hnew
  · exact hram.stores entry hold
  · rw [List.mem_singleton.mp hnew]
    exact hinside

theorem Within.write (hram : Within start region ram) {address : U64} {bytes : List U8}
    (hinside : span address bytes.length ⊆ region) :
    Within start region (ram.write address bytes) :=
  hram.record hinside (writeBytes_sameOutside _ _ _)

theorem Within.store (hram : Within start region ram) {width : Nat} {address : U64} (value : U64)
    (hinside : span address width ⊆ region) :
    Within start region (ram.store width address value) :=
  hram.record hinside (store_sameOutside _ _ _ _)

end Ram

/-- What the firmware does for one `INT 15h`, function `E820h`: the flag and
registers it returns, and the bytes it stores into the 24-byte buffer. -/
structure Reply where
  carry : Bool
  eax : U32
  ebx : U32
  ecx : U32
  bytes : List U8
  fits : bytes.length ≤ 24
  stored : carry = false → bytes.length = ecx.toNat

/-- The registers of `detect_memory_map`. -/
structure E820 where
  si : U16
  di : U16
  ram : Ram

/-- What `detect_memory_map` leaves: the carry flag, the two variables, memory. -/
structure MemoryMap where
  carry : Bool
  errorCode : U8
  count : U16
  ram : Ram

def smap : U32 := 0x534D4150#32

/-- One request: mark the attributes as valid, call the firmware. -/
def e820Call (reply : Reply) (self : E820) : Ram :=
  (self.ram.store 4 (physical 0x6000#16 (self.di + 20#16)) 1#64).write
    (physical 0x6000#16 self.di) reply.bytes

def E820.advance (self : E820) (ram : Ram) : E820 :=
  ⟨self.si + 1#16, self.di + 24#16, ram⟩

def E820.success (self : E820) : MemoryMap :=
  ⟨false, 0#8, self.si, self.ram⟩

/-- `.e820_next`; the reply to the request for entry `n` is `bios n`. There are
at most 128 rounds. -/
def e820Next (bios : Nat → Reply) : Nat → E820 → MemoryMap
  | 0, self => self.success
  | fuel + 1, self =>
      if 128#16 ≤ self.si then self.success
      else
        let reply := bios self.si.toNat
        let ram := e820Call reply self
        if reply.carry then ⟨true, 1#8, 0#16, ram⟩
        else if reply.eax ≠ smap then ⟨true, 2#8, 0#16, ram⟩
        else if reply.ecx < 20#32 then ⟨true, 3#8, 0#16, ram⟩
        else if reply.ebx = 0#32 then (self.advance ram).success
        else e820Next bios fuel (self.advance ram)

def detectMemoryMap (bios : Nat → Reply) (ram : Ram) : MemoryMap :=
  e820Next bios 128 ⟨0#16, 0#16, ram⟩

/-- A reply that passes the three checks. -/
structure Reply.Accepted (reply : Reply) : Prop where
  carry : reply.carry = false
  eax : reply.eax = smap
  ecx : 20#32 ≤ reply.ecx

theorem Reply.Accepted.length {reply : Reply} (hreply : reply.Accepted) :
    20 ≤ reply.bytes.length := by
  rw [reply.stored hreply.carry]
  exact hreply.ecx

/-- Entry `index` of the table. -/
def tableEntry (index : Nat) : U64 :=
  0x60000#64 + BitVec.ofNat 64 (24 * index)

theorem tableEntry_apart {index count offset : Nat} (hindex : index < count) (hcount : count ≤ 128)
    (hoffset : offset < 24) :
    tableEntry index + BitVec.ofNat 64 offset ∉ span (tableEntry count) 24 := by
  obtain ⟨gap, rfl⟩ := Nat.exists_eq_add_of_lt hindex
  have hdiff : tableEntry index + BitVec.ofNat 64 offset - tableEntry (index + gap + 1) =
      BitVec.ofNat 64 offset - BitVec.ofNat 64 (24 * (gap + 1)) := by
    rw [tableEntry, tableEntry, Nat.add_assoc, Nat.mul_add, BitVec.ofNat_add (24 * index)]
    bv_omega
  have hstep : 24 ≤ 24 * (gap + 1) ∧ 24 * (gap + 1) ≤ 3072 := by omega
  rw [mem_span, hdiff, BitVec.toNat_sub, BitVec.toNat_ofNat, BitVec.toNat_ofNat]
  generalize 24 * (gap + 1) = step at *
  omega

/-- `detect_memory_map` after some entries, before the next request. -/
structure E820At (count : Nat) (state : E820) : Prop where
  bound : count ≤ 128
  si : state.si = BitVec.ofNat 16 count
  di : state.di = BitVec.ofNat 16 (24 * count)

section Table

variable {bios : Nat → Reply} {state : E820} {count : Nat}

/-- The bytes of the entry that is filled next. -/
theorem E820At.field (hstate : E820At count state) {offset : Nat} (hoffset : offset < 24) :
    physical 0x6000#16 (state.di + BitVec.ofNat 16 offset) =
      tableEntry count + BitVec.ofNat 64 offset := by
  have hstart : 24 * count ≤ 3072 := Nat.mul_le_mul_left 24 hstate.bound
  rw [physical, tableEntry, hstate.di]
  generalize 24 * count = start at *
  apply BitVec.eq_of_toNat_eq
  simp only [BitVec.toNat_add, BitVec.toNat_mul, BitVec.toNat_setWidth, BitVec.toNat_ofNat]
  omega

theorem E820At.entry (hstate : E820At count state) :
    physical 0x6000#16 state.di = tableEntry count := by
  simpa using hstate.field (show 0 < 24 by omega)

theorem E820At.attributes (hstate : E820At count state) :
    physical 0x6000#16 (state.di + 20#16) = tableEntry count + 20#64 :=
  hstate.field (by omega)

theorem E820At.advance (hstate : E820At count state) (hcount : count < 128) (ram : Ram) :
    E820At (count + 1) (state.advance ram) := by
  refine ⟨hcount, ?_, ?_⟩
  · rw [E820.advance, hstate.si]
    bv_omega
  · rw [E820.advance, hstate.di]
    bv_omega

theorem e820Call_memory (hstate : E820At count state) (reply : Reply) :
    SameOutside (span (tableEntry count) 24) state.ram.memory (e820Call reply state).memory := by
  have hmarked := store_sameOutside 4 state.ram.memory (tableEntry count + 20#64) 1#64
  have hfilled := writeBytes_sameOutside (store 4 state.ram.memory (tableEntry count + 20#64) 1#64)
    (tableEntry count) reply.bytes
  rw [e820Call, hstate.entry, hstate.attributes]
  apply SameOutside.trans
  · exact hmarked.mono (span_subset (show _ = _ + BitVec.ofNat 64 20 from rfl) (by decide))
  · exact hfilled.mono (span_mono reply.fits)

/-- A byte of an entry: what the firmware stored, or the mark Stage 2 put there. -/
def entryByte (reply : Reply) (offset : Nat) : U8 :=
  reply.bytes[offset]?.getD ((1#64).extractLsb' (8 * (offset - 20)) 8)

theorem e820Call_entry (hstate : E820At count state) {reply : Reply} (hreply : reply.Accepted)
    {offset : Nat} (hoffset : offset < 24) :
    (e820Call reply state).memory (tableEntry count + BitVec.ofNat 64 offset) =
      entryByte reply offset := by
  have hlength := hreply.length
  rw [e820Call, hstate.entry, hstate.attributes, entryByte]
  change writeBytes _ _ _ _ = _
  by_cases hstored : offset < reply.bytes.length
  · have hbyte := List.getElem?_eq_getElem hstored
    rw [writeBytes_inside _ _ (by omega) hbyte, hbyte]
    rfl
  · have hmark : tableEntry count + BitVec.ofNat 64 offset =
        tableEntry count + 20#64 + BitVec.ofNat 64 (offset - 20) := by
      rw [BitVec.add_assoc, show (20#64) = BitVec.ofNat 64 20 from rfl, ← BitVec.ofNat_add,
        Nat.add_sub_cancel' (by omega)]
    rw [writeBytes, offset_sub _ (by omega), List.getElem?_eq_none (not_lt.mp hstored)]
    change store _ _ _ _ _ = _
    rw [hmark]
    exact store_inside _ _ _ (by omega) (by omega)

/-- The state after some accepted replies. -/
def e820After (bios : Nat → Reply) (ram : Ram) : Nat → E820
  | 0 => ⟨0#16, 0#16, ram⟩
  | count + 1 =>
      (e820After bios ram count).advance (e820Call (bios count) (e820After bios ram count))

theorem e820After_at (bios : Nat → Reply) (ram : Ram) {count : Nat} (hcount : count ≤ 128) :
    E820At count (e820After bios ram count) := by
  induction count with
  | zero => exact ⟨hcount, rfl, rfl⟩
  | succ count ih => exact (ih (by omega)).advance hcount _

/-- One round. -/
theorem e820Next_round (bios : Nat → Reply) (fuel : Nat) (hstate : E820At count state)
    (hcount : count < 128) :
    e820Next bios (fuel + 1) state =
      if (bios count).carry then ⟨true, 1#8, 0#16, e820Call (bios count) state⟩
      else if (bios count).eax ≠ smap then ⟨true, 2#8, 0#16, e820Call (bios count) state⟩
      else if (bios count).ecx < 20#32 then ⟨true, 3#8, 0#16, e820Call (bios count) state⟩
      else if (bios count).ebx = 0#32 then
        (state.advance (e820Call (bios count) state)).success
      else e820Next bios fuel (state.advance (e820Call (bios count) state)) := by
  have hsi : state.si.toNat = count := by
    rw [hstate.si, BitVec.toNat_ofNat]
    omega
  have hmore : ¬ 128#16 ≤ state.si := by
    rw [hstate.si]
    bv_omega
  rw [e820Next, if_neg hmore, hsi]

theorem e820Next_accepted (fuel : Nat) (hstate : E820At count state) (hcount : count < 128)
    (hreply : (bios count).Accepted) :
    e820Next bios (fuel + 1) state =
      if (bios count).ebx = 0#32 then (state.advance (e820Call (bios count) state)).success
      else e820Next bios fuel (state.advance (e820Call (bios count) state)) := by
  rw [e820Next_round bios fuel hstate hcount, if_neg (Bool.eq_false_iff.mp hreply.carry),
    if_neg (not_not.mpr hreply.eax), if_neg (BitVec.not_lt.mpr hreply.ecx)]

/-- A round that does not end in an error had an accepted reply. -/
theorem accepted_of_e820Next {fuel : Nat} (hstate : E820At count state) (hcount : count < 128)
    (hsuccess : (e820Next bios (fuel + 1) state).carry = false) : (bios count).Accepted := by
  rw [e820Next_round bios fuel hstate hcount] at hsuccess
  by_cases hcarry : (bios count).carry = true
  · rw [if_pos hcarry] at hsuccess
    cases hsuccess
  rw [if_neg hcarry] at hsuccess
  by_cases heax : (bios count).eax ≠ smap
  · rw [if_pos heax] at hsuccess
    cases hsuccess
  rw [if_neg heax] at hsuccess
  by_cases hecx : (bios count).ecx < 20#32
  · rw [if_pos hecx] at hsuccess
    cases hsuccess
  exact ⟨Bool.eq_false_iff.mpr hcarry, not_not.mp heax, BitVec.not_lt.mp hecx⟩

/-- A detection that succeeds has read some entries, one accepted reply each. -/
theorem detectMemoryMap_success {ram : Ram} (hsuccess : (detectMemoryMap bios ram).carry = false) :
    ∃ count, 0 < count ∧ count ≤ 128 ∧ (∀ index < count, (bios index).Accepted) ∧
      detectMemoryMap bios ram = (e820After bios ram count).success := by
  have hloop (fuel count : Nat) (hfuel : count + fuel = 128)
      (haccepted : ∀ index < count, (bios index).Accepted)
      (hnext : (e820Next bios fuel (e820After bios ram count)).carry = false) :
      ∃ final, count ≤ final ∧ (0 < fuel → count < final) ∧ final ≤ 128 ∧
        (∀ index < final, (bios index).Accepted) ∧
        e820Next bios fuel (e820After bios ram count) = (e820After bios ram final).success := by
    induction fuel generalizing count with
    | zero => exact ⟨count, le_rfl, by omega, by omega, haccepted, rfl⟩
    | succ fuel ih =>
        have hstate := e820After_at bios ram (show count ≤ 128 by omega)
        have hreply := accepted_of_e820Next hstate (by omega) hnext
        have hmore : ∀ index < count + 1, (bios index).Accepted := by
          intro index hindex
          rcases Nat.lt_succ_iff_lt_or_eq.mp hindex with hold | rfl
          · exact haccepted index hold
          · exact hreply
        rw [e820Next_accepted fuel hstate (by omega) hreply] at hnext ⊢
        by_cases hlast : (bios count).ebx = 0#32
        · rw [if_pos hlast]
          exact ⟨count + 1, by omega, by omega, by omega, hmore, rfl⟩
        · rw [if_neg hlast] at hnext ⊢
          obtain ⟨final, hle, _, hbound, hall, hfinal⟩ := ih (count + 1) (by omega) hmore hnext
          exact ⟨final, by omega, by omega, hbound, hall, hfinal⟩
  obtain ⟨final, _, hpositive, hbound, hall, hfinal⟩ := hloop 128 0 rfl (by omega) hsuccess
  exact ⟨final, hpositive (by omega), hbound, hall, hfinal⟩

/-- Conversely, a detection whose replies are accepted reads them all, as long as
only the last one ends the map and the table has room. -/
theorem detectMemoryMap_of_accepted (ram : Ram) (hpositive : 0 < count) (hcount : count ≤ 128)
    (haccepted : ∀ index < count, (bios index).Accepted)
    (hmore : ∀ index, index + 1 < count → (bios index).ebx ≠ 0#32)
    (hlast : count = 128 ∨ (bios (count - 1)).ebx = 0#32) :
    detectMemoryMap bios ram = (e820After bios ram count).success := by
  have hloop (fuel done : Nat) (hfuel : done + fuel = 128) (hdone : done < count) :
      e820Next bios fuel (e820After bios ram done) = (e820After bios ram count).success := by
    induction fuel generalizing done with
    | zero => omega
    | succ fuel ih =>
        have hstate := e820After_at bios ram (show done ≤ 128 by omega)
        rw [e820Next_accepted fuel hstate (by omega) (haccepted done hdone)]
        by_cases hend : done + 1 = count
        · subst hend
          by_cases hebx : (bios done).ebx = 0#32
          · rw [if_pos hebx]
            rfl
          · obtain rfl : fuel = 0 := by
              have hfull := hlast.resolve_right hebx
              omega
            rw [if_neg hebx]
            rfl
        · rw [if_neg (hmore done (by omega))]
          exact ih (done + 1) (by omega) (by omega)
  exact hloop 128 0 rfl hpositive

/-- The table after some accepted replies. -/
theorem e820After_entry {ram : Ram} (hcount : count ≤ 128)
    (haccepted : ∀ index < count, (bios index).Accepted) {index offset : Nat}
    (hindex : index < count) (hoffset : offset < 24) :
    (e820After bios ram count).ram.memory (tableEntry index + BitVec.ofNat 64 offset) =
      entryByte (bios index) offset := by
  induction count with
  | zero => omega
  | succ count ih =>
      have hstate := e820After_at bios ram (show count ≤ 128 by omega)
      change (e820Call (bios count) (e820After bios ram count)).memory _ = _
      rcases Nat.lt_succ_iff_lt_or_eq.mp hindex with hold | rfl
      · rw [e820Call_memory hstate _ _ (tableEntry_apart hold (by omega) hoffset)]
        exact ih (by omega) (fun other hother => haccepted other (by omega)) hold
      · exact e820Call_entry hstate (haccepted index hindex) hoffset

end Table

/-- What a message pushes: a return address, and for every character the
return address of the character routine and the two registers it saves. -/
structure Printed (Word : Type) where
  returnAddress : Word
  characters : List (Word × Word × Word)

def printString16 (pushed : Printed U16) (ram : Ram) : Ram :=
  pushed.characters.foldl
    (fun ram words => ((ram.push16 1 words.1).push16 2 words.2.1).push16 3 words.2.2)
    (ram.push16 0 pushed.returnAddress)

def serialWriteString64 (pushed : Printed U64) (ram : Ram) : Ram :=
  pushed.characters.foldl
    (fun ram words => ((ram.push64 1 words.1).push64 2 words.2.1).push64 3 words.2.2)
    (ram.push64 0 pushed.returnAddress)

/-- The words on the stacks between `load_kernel` and the ELF checks. Which they
are depends on the assembled code and on the firmware. -/
structure BootPushes where
  kernelLoadedMessage : Printed U16
  /-- The return address, ES, DI, SI and DX. -/
  detectMemoryMap : Fin 5 → U16
  longModeMessage : Printed U64
  kernelLoadingMessage : Printed U64

/-- Stage 2 from the return of `load_kernel` to `cli`; `none` is
`memory_map_error`. -/
def reachSwitch (pushes : BootPushes) (bios : Nat → Reply) (loaded : Memory) : Option MemoryMap :=
  let printed := printString16 pushes.kernelLoadedMessage ⟨loaded, []⟩
  let called := (List.finRange 5).foldl
    (fun ram depth => ram.push16 depth (pushes.detectMemoryMap depth)) printed
  let map := detectMemoryMap bios called
  if map.carry then none else some map

/-- And on to the ELF checks: the switch to long mode, which is modelled apart
from this, and two messages. -/
def reachElf (pushes : BootPushes) (bios : Nat → Reply) (loaded : Memory) : Option MemoryMap :=
  (reachSwitch pushes bios loaded).map fun map => {map with
    ram := serialWriteString64 pushes.kernelLoadingMessage
      (serialWriteString64 pushes.longModeMessage map.ram) }

/-- The real-mode stack, the table of the memory map, and the later stack. -/
def bootRegion : Set U64 :=
  span 0x7FF6#64 10 ∪ span 0x60000#64 0xC00 ∪ span 0x8FFE0#64 32

namespace Ram

variable {start : Memory} {region : Set U64} {ram : Ram}

theorem Within.foldl {α : Type} {step : Ram → α → Ram} (items : List α)
    (hstep : ∀ ram item, Within start region ram → Within start region (step ram item))
    (hram : Within start region ram) : Within start region (items.foldl step ram) := by
  induction items generalizing ram with
  | nil => exact hram
  | cons item rest ih => exact ih (hstep ram item hram)

theorem Within.push16 (hram : Within start bootRegion ram) (depth : Fin 5) (word : U16) :
    Within start bootRegion (ram.push16 depth word) := by
  have hslot : ∀ depth : Fin 5, 0x8000#64 - BitVec.ofNat 64 (2 * (depth + 1)) =
      0x7FF6#64 + BitVec.ofNat 64 (8 - 2 * depth) := by decide
  have hstack : span (0x8000#64 - BitVec.ofNat 64 (2 * (depth + 1))) 2 ⊆ span 0x7FF6#64 10 :=
    span_subset (hslot depth) (by omega)
  apply hram.store
  exact hstack.trans (Set.subset_union_left.trans Set.subset_union_left)

/-- The words the messages push in long mode. -/
theorem push64_slot (depth : Fin 4) :
    span (0x90000#64 - BitVec.ofNat 64 (8 * (depth + 1))) 8 ⊆ span 0x8FFE0#64 32 := by
  have hslot : ∀ depth : Fin 4, 0x90000#64 - BitVec.ofNat 64 (8 * (depth + 1)) =
      0x8FFE0#64 + BitVec.ofNat 64 (24 - 8 * depth) := by decide
  exact span_subset (hslot depth) (by omega)

theorem push64_memory (ram : Ram) (depth : Fin 4) (word : U64) :
    SameOutside (span 0x8FFE0#64 32) ram.memory (ram.push64 depth word).memory :=
  (store_sameOutside _ _ _ _).mono (push64_slot depth)

theorem serialWriteString64_memory (pushed : Printed U64) (ram : Ram) :
    SameOutside (span 0x8FFE0#64 32) ram.memory (Loader.serialWriteString64 pushed ram).memory := by
  rw [Loader.serialWriteString64]
  refine List.foldlRecOn
    (motive := fun next : Ram => SameOutside (span 0x8FFE0#64 32) ram.memory next.memory)
    pushed.characters _ ?_ ?_
  · exact push64_memory ram 0 pushed.returnAddress
  · intro next hnext words _
    have hfirst := hnext.trans (push64_memory next 1 words.1)
    have hsecond := hfirst.trans (push64_memory _ 2 words.2.1)
    exact hsecond.trans (push64_memory _ 3 words.2.2)

theorem Within.push64 (hram : Within start region ram) (hregion : span 0x8FFE0#64 32 ⊆ region)
    (depth : Fin 4) (word : U64) : Within start region (ram.push64 depth word) := by
  apply hram.store
  exact (push64_slot depth).trans hregion

theorem Within.printString16 (hram : Within start bootRegion ram) (pushed : Printed U16) :
    Within start bootRegion (Loader.printString16 pushed ram) := by
  apply Within.foldl
  · intro ram words hwords
    exact ((hwords.push16 1 _).push16 2 _).push16 3 _
  · exact hram.push16 0 _

theorem Within.serialWriteString64 (hram : Within start region ram)
    (hregion : span 0x8FFE0#64 32 ⊆ region) (pushed : Printed U64) :
    Within start region (Loader.serialWriteString64 pushed ram) := by
  apply Within.foldl
  · intro ram words hwords
    exact ((hwords.push64 hregion 1 _).push64 hregion 2 _).push64 hregion 3 _
  · exact hram.push64 hregion 0 _

/-- Requests for the first 128 entries stay in the table. -/
theorem Within.e820After (hram : Within start bootRegion ram) (bios : Nat → Reply) {count : Nat}
    (hcount : count ≤ 128) : Within start bootRegion (Loader.e820After bios ram count).ram := by
  induction count with
  | zero => exact hram
  | succ count ih =>
      have hstate := e820After_at bios ram (show count ≤ 128 by omega)
      have hentry : span (tableEntry count) 24 ⊆ bootRegion := by
        have htable : span (tableEntry count) 24 ⊆ span 0x60000#64 0xC00 :=
          span_subset rfl (by omega)
        exact htable.trans (Set.subset_union_right.trans Set.subset_union_left)
      change Within start bootRegion (e820Call _ _)
      rw [e820Call, hstate.entry, hstate.attributes]
      apply ((ih (by omega)).store _ _).write
      · exact (span_mono (bios count).fits).trans hentry
      · exact (span_subset (show _ = _ + BitVec.ofNat 64 20 from rfl) (by decide)).trans hentry

theorem stores_serialWriteString64 (pushed : Printed U64) (ram : Ram) :
    ram.stores ⊆ (Loader.serialWriteString64 pushed ram).stores := by
  have hpush (ram : Ram) (depth : Fin 4) (word : U64) :
      ram.stores ⊆ (ram.push64 depth word).stores := List.subset_append_left _ _
  rw [Loader.serialWriteString64]
  refine List.foldlRecOn (motive := fun next : Ram => ram.stores ⊆ next.stores)
    pushed.characters _ ?_ ?_
  · exact hpush ram 0 pushed.returnAddress
  · intro next hnext words _ entry hentry
    exact hpush _ 3 _ (hpush _ 2 _ (hpush _ 1 _ (hnext hentry)))

end Ram

/-- The first entry is stored at the start of the table. -/
theorem first_entry_stored (bios : Nat → Reply) (ram : Ram) {count : Nat} (hcount : 0 < count) :
    (0x60000#64, (bios 0).bytes.length) ∈ (e820After bios ram count).ram.stores := by
  induction count with
  | zero => omega
  | succ count ih =>
      change _ ∈ (_ ++ [_]) ++ [_]
      rcases Nat.eq_zero_or_pos count with rfl | hpositive
      · exact List.mem_append_right _ (List.mem_singleton.mpr rfl)
      · exact List.mem_append_left _ (List.mem_append_left _ (ih hpositive))

section Boot

variable {pushes : BootPushes} {bios : Nat → Reply} {loaded : Memory} {map : MemoryMap}

/-- Up to the switch Stage 2 stores into its stack and the table only, and does
store the first entry of the table. -/
theorem reachSwitch_spec (hreached : reachSwitch pushes bios loaded = some map) :
    map.ram.Within loaded bootRegion ∧
      ∃ size, 20 ≤ size ∧ (0x60000#64, size) ∈ map.ram.stores := by
  have hstart : Ram.Within loaded bootRegion ⟨loaded, []⟩ :=
    ⟨fun entry hentry => absurd hentry List.not_mem_nil, SameOutside.refl _ _⟩
  have hcalled := (hstart.printString16 pushes.kernelLoadedMessage).foldl (List.finRange 5)
    (fun ram depth hram => hram.push16 depth (pushes.detectMemoryMap depth))
  simp only [reachSwitch] at hreached
  generalize (List.finRange 5).foldl _ _ = called at hreached hcalled
  split at hreached
  · cases hreached
  · next hcarry =>
      obtain ⟨count, hpositive, hbound, haccepted, hsuccess⟩ :=
        detectMemoryMap_success (Bool.eq_false_iff.mpr hcarry)
      cases hreached
      rw [hsuccess]
      exact ⟨hcalled.e820After bios hbound, (bios 0).bytes.length, (haccepted 0 hpositive).length,
        first_entry_stored bios called hpositive⟩

/-- The messages after the switch add the later stack. -/
theorem reachElf_spec (hreached : reachElf pushes bios loaded = some map) :
    map.ram.Within loaded bootRegion ∧
      ∃ size, 20 ≤ size ∧ (0x60000#64, size) ∈ map.ram.stores := by
  obtain ⟨switched, hswitched, rfl⟩ := Option.map_eq_some_iff.mp hreached
  obtain ⟨hwithin, size, hsize, hstored⟩ := reachSwitch_spec hswitched
  have hstack : span 0x8FFE0#64 32 ⊆ bootRegion := Set.subset_union_right
  refine ⟨(hwithin.serialWriteString64 hstack _).serialWriteString64 hstack _, size, hsize, ?_⟩
  apply Ram.stores_serialWriteString64
  exact Ram.stores_serialWriteString64 _ _ hstored

end Boot

end UnboundOS.Loader
