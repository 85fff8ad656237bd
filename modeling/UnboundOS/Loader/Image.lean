import UnboundOS.Base.Checked

/-!
The disk image of `tools/image-builder`: what it checks before it builds an
image, and where the three files lie in it.
-/

namespace UnboundOS.Loader

def sectorSize : Nat := 512
def stage1Sectors : Nat := 1
def stage2Sectors : Nat := 32
def kernelLba : Nat := stage1Sectors + stage2Sectors
def stage2KernelReadSectors : Nat := 1024

inductive ImageError where
  | stage1Size (got : Nat)
  | stage1Signature
  | stage2TooLarge (got : Nat)
  | kernelEmpty
  | kernelTooLarge (sectors : Nat)
deriving DecidableEq

def ImageError.message : ImageError → String
  | .stage1Size got =>
      s!"Stage 1 must be exactly {stage1Sectors * sectorSize} bytes, got {got}"
  | .stage1Signature => "Stage 1 is missing BIOS boot signature 0x55AA"
  | .stage2TooLarge got =>
      s!"Stage 2 is too large: {got} bytes, maximum {stage2Sectors * sectorSize} bytes"
  | .kernelEmpty => "Kernel ELF is empty"
  | .kernelTooLarge sectors =>
      s!"Kernel is too large for current Stage 2: {sectors} sectors, " ++
        s!"maximum {stage2KernelReadSectors} sectors"

/-- `image[offset..offset + bytes.len()].copy_from_slice(bytes)`. -/
def copySlice (image : List U8) (offset : Nat) (bytes : List U8) : List U8 :=
  image.take offset ++ bytes ++ image.drop (offset + bytes.length)

def imageSize : Nat := (kernelLba + stage2KernelReadSectors) * sectorSize

/-- The checks of `main`, in its order. -/
def checkFiles (stage1 stage2 kernel : List U8) : Except ImageError Unit :=
  let actualKernelSectors := (kernel.length + sectorSize - 1) / sectorSize
  if stage1.length ≠ stage1Sectors * sectorSize then .error (.stage1Size stage1.length)
  else if stage1[510]? ≠ some 0x55#8 ∨ stage1[511]? ≠ some 0xAA#8 then .error .stage1Signature
  else if stage2Sectors * sectorSize < stage2.length then .error (.stage2TooLarge stage2.length)
  else if actualKernelSectors = 0 then .error .kernelEmpty
  else if stage2KernelReadSectors < actualKernelSectors then
    .error (.kernelTooLarge actualKernelSectors)
  else .ok ()

/-- The image `main` writes for files that pass. -/
def layout (stage1 stage2 kernel : List U8) : List U8 :=
  let image := List.replicate imageSize 0#8
  let image := copySlice image ((stage1Sectors - 1) * sectorSize) stage1
  let image := copySlice image (stage1Sectors * sectorSize) stage2
  copySlice image (kernelLba * sectorSize) kernel

def buildImage (stage1 stage2 kernel : List U8) : Except ImageError (List U8) := do
  checkFiles stage1 stage2 kernel
  .ok (layout stage1 stage2 kernel)

/-- `image[offset..offset + bytes.len()].copy_from_slice(bytes)` with the range
check of the slice. -/
def copyFromSlice (image : List U8) (offset : Nat) (bytes : List U8) : Checked (List U8) :=
  if offset + bytes.length ≤ image.length then some (copySlice image offset bytes) else none

/-- The checks of `main` with its two indices into Stage 1; an index out of
range is a panic. Both are tried, also where `||` skips the second. -/
def inspectFiles (stage1 stage2 kernel : List U8) : Checked (Except ImageError Unit) :=
  let actualKernelSectors := (kernel.length + sectorSize - 1) / sectorSize
  if stage1.length ≠ stage1Sectors * sectorSize then some (.error (.stage1Size stage1.length))
  else do
    let low ← stage1[510]?
    let high ← stage1[511]?
    if low ≠ 0x55#8 ∨ high ≠ 0xAA#8 then some (.error .stage1Signature)
    else if stage2Sectors * sectorSize < stage2.length then
      some (.error (.stage2TooLarge stage2.length))
    else if actualKernelSectors = 0 then some (.error .kernelEmpty)
    else if stage2KernelReadSectors < actualKernelSectors then
      some (.error (.kernelTooLarge actualKernelSectors))
    else some (.ok ())

/-- The copies of `main`, each with its range check. -/
def placeFiles (stage1 stage2 kernel : List U8) : Checked (List U8) := do
  let image := List.replicate imageSize 0#8
  let image ← copyFromSlice image ((stage1Sectors - 1) * sectorSize) stage1
  let image ← copyFromSlice image (stage1Sectors * sectorSize) stage2
  copyFromSlice image (kernelLba * sectorSize) kernel

/-- `main` with every index and slice checked as Rust checks them. -/
def createImage (stage1 stage2 kernel : List U8) : Checked (Except ImageError (List U8)) := do
  match ← inspectFiles stage1 stage2 kernel with
  | .error error => some (.error error)
  | .ok _ => (placeFiles stage1 stage2 kernel).map .ok

/-- The sectors of a disk. -/
def readSectors (image : List U8) (lba count : Nat) : List U8 :=
  (image.drop (lba * sectorSize)).take (count * sectorSize)

theorem copySlice_length {image bytes : List U8} {offset : Nat}
    (hroom : offset + bytes.length ≤ image.length) :
    (copySlice image offset bytes).length = image.length := by
  simp only [copySlice, List.length_append, List.length_take, List.length_drop]
  omega

theorem copySlice_getElem {image bytes : List U8} {offset index : Nat}
    (hroom : offset + bytes.length ≤ image.length) (hindex : index < bytes.length) :
    (copySlice image offset bytes)[offset + index]? = bytes[index]? := by
  have htake : (image.take offset).length = offset := by
    rw [List.length_take]
    omega
  rw [copySlice, List.append_assoc, List.getElem?_append_right (by omega), htake,
    Nat.add_sub_cancel_left, List.getElem?_append_left hindex]

theorem copySlice_outside {image bytes : List U8} {offset index : Nat}
    (hroom : offset + bytes.length ≤ image.length)
    (houtside : index < offset ∨ offset + bytes.length ≤ index) :
    (copySlice image offset bytes)[index]? = image[index]? := by
  have htake : (image.take offset).length = offset := by
    rw [List.length_take]
    omega
  rw [copySlice, List.append_assoc]
  rcases houtside with hbefore | hbehind
  · rw [List.getElem?_append_left (by omega), List.getElem?_take_of_lt hbefore]
  · rw [List.getElem?_append_right (by omega), List.getElem?_append_right (by omega), htake,
      List.getElem?_drop]
    congr 1
    omega

theorem checkFiles_ok {stage1 stage2 kernel : List U8}
    (hchecked : checkFiles stage1 stage2 kernel = .ok ()) :
    stage1.length = stage1Sectors * sectorSize ∧
      stage2.length ≤ stage2Sectors * sectorSize ∧
      0 < kernel.length ∧ kernel.length ≤ stage2KernelReadSectors * sectorSize := by
  simp only [checkFiles] at hchecked
  split_ifs at hchecked with hstage1 hsignature hstage2 hempty hlarge
  simp only [sectorSize, stage2KernelReadSectors] at *
  omega

theorem checkFiles_valid {stage1 stage2 kernel : List U8}
    (hstage1 : stage1.length = stage1Sectors * sectorSize)
    (hlow : stage1[510]? = some 0x55#8) (hhigh : stage1[511]? = some 0xAA#8)
    (hstage2 : stage2.length ≤ stage2Sectors * sectorSize) (hpositive : 0 < kernel.length)
    (hkernel : kernel.length ≤ stage2KernelReadSectors * sectorSize) :
    checkFiles stage1 stage2 kernel = .ok () := by
  have hempty : (kernel.length + sectorSize - 1) / sectorSize ≠ 0 := by
    rw [sectorSize]
    omega
  have hlarge : ¬ stage2KernelReadSectors < (kernel.length + sectorSize - 1) / sectorSize := by
    rw [stage2KernelReadSectors, sectorSize] at *
    omega
  have hsignature : ¬ (stage1[510]? ≠ some 0x55#8 ∨ stage1[511]? ≠ some 0xAA#8) := by
    simp [hlow, hhigh]
  rw [checkFiles]
  simp only [hstage1, hsignature, not_lt.mpr hstage2, hempty, hlarge, ne_eq, not_true_eq_false,
    if_false]

/-- A Stage 1 of nothing but its signature. -/
def bootSector : List U8 :=
  List.replicate 510 0#8 ++ [0x55#8, 0xAA#8]

theorem bootSector_length : bootSector.length = stage1Sectors * sectorSize := by
  rw [bootSector, List.length_append, List.length_replicate]
  rfl

theorem bootSector_signature :
    bootSector[510]? = some 0x55#8 ∧ bootSector[511]? = some 0xAA#8 := by
  have hlast (index : Nat) : bootSector[510 + index]? = [0x55#8, 0xAA#8][index]? := by
    rw [bootSector, List.getElem?_append_right] <;> rw [List.length_replicate]
    · rw [Nat.add_sub_cancel_left]
    · exact Nat.le_add_right _ _
  exact ⟨hlast 0, hlast 1⟩

/-- The three files in an image. -/
structure ImageLayout (stage1 stage2 kernel image : List U8) : Prop where
  length : image.length = imageSize
  stage1_at : ∀ index < stage1.length, image[index]? = stage1[index]?
  stage2_at : ∀ index < stage2.length, image[sectorSize + index]? = stage2[index]?
  kernel_at : ∀ index < kernel.length, image[kernelLba * sectorSize + index]? = kernel[index]?
  zeros : ∀ index < imageSize, sectorSize + stage2.length ≤ index →
    index < kernelLba * sectorSize ∨ kernelLba * sectorSize + kernel.length ≤ index →
    image[index]? = some 0#8

section Layout

variable {stage1 stage2 kernel : List U8}

/-- The three copies stay inside the image. -/
theorem layout_rooms (hchecked : checkFiles stage1 stage2 kernel = .ok ()) :
    0 + stage1.length ≤ (List.replicate imageSize 0#8).length ∧
      sectorSize + stage2.length ≤ (copySlice (List.replicate imageSize 0#8) 0 stage1).length ∧
      kernelLba * sectorSize + kernel.length ≤
        (copySlice (copySlice (List.replicate imageSize 0#8) 0 stage1) sectorSize
          stage2).length := by
  obtain ⟨hstage1, hstage2, _, hkernel⟩ := checkFiles_ok hchecked
  have hsize : imageSize = 541184 := rfl
  simp only [stage1Sectors, stage2Sectors, stage2KernelReadSectors, kernelLba, sectorSize] at *
  have hfirst : 0 + stage1.length ≤ (List.replicate imageSize 0#8).length := by
    rw [List.length_replicate]
    omega
  have hsecond : 512 + stage2.length ≤
      (copySlice (List.replicate imageSize 0#8) 0 stage1).length := by
    rw [copySlice_length hfirst, List.length_replicate]
    omega
  refine ⟨hfirst, hsecond, ?_⟩
  rw [copySlice_length hsecond, copySlice_length hfirst, List.length_replicate]
  omega

theorem layout_spec (hchecked : checkFiles stage1 stage2 kernel = .ok ()) :
    ImageLayout stage1 stage2 kernel (layout stage1 stage2 kernel) := by
  obtain ⟨hstage1, hstage2, _, hkernel⟩ := checkFiles_ok hchecked
  obtain ⟨hfirst, hsecond, hthird⟩ := layout_rooms hchecked
  have hlayout : layout stage1 stage2 kernel = copySlice (copySlice (copySlice
      (List.replicate imageSize 0#8) 0 stage1) sectorSize stage2) (kernelLba * sectorSize) kernel :=
    rfl
  have hsectors : stage1Sectors * sectorSize = sectorSize ∧
      kernelLba * sectorSize = sectorSize + stage2Sectors * sectorSize := by decide
  rw [hlayout]
  refine ⟨?_, fun index hindex => ?_, fun index hindex => ?_, fun index hindex => ?_,
    fun index hindex hbehind houtside => ?_⟩
  · rw [copySlice_length hthird, copySlice_length hsecond, copySlice_length hfirst,
      List.length_replicate]
  · rw [copySlice_outside hthird (by omega), copySlice_outside hsecond (by omega)]
    have hcopied := copySlice_getElem hfirst hindex
    rwa [Nat.zero_add] at hcopied
  · rw [copySlice_outside hthird (by omega), copySlice_getElem hsecond hindex]
  · exact copySlice_getElem hthird hindex
  · rw [copySlice_outside hthird houtside, copySlice_outside hsecond (by omega),
      copySlice_outside hfirst (by omega), List.getElem?_replicate_of_lt hindex]

/-- What is known of an accepted kernel: it fits into the area Stage 2 reads,
and lies at its start. -/
theorem buildImage_ok {image : List U8} (hbuilt : buildImage stage1 stage2 kernel = .ok image) :
    0 < kernel.length ∧ kernel.length ≤ stage2KernelReadSectors * sectorSize ∧
      image.length = imageSize ∧
      ∀ index < kernel.length, image[kernelLba * sectorSize + index]? = kernel[index]? := by
  rw [buildImage] at hbuilt
  cases hchecked : checkFiles stage1 stage2 kernel with
  | error error =>
      rw [hchecked] at hbuilt
      cases hbuilt
  | ok _ =>
      rw [hchecked] at hbuilt
      cases hbuilt
      obtain ⟨_, _, hpositive, hkernel⟩ := checkFiles_ok hchecked
      have hlayout := layout_spec hchecked
      exact ⟨hpositive, hkernel, hlayout.length, hlayout.kernel_at⟩

theorem inspectFiles_eq (stage1 stage2 kernel : List U8) :
    inspectFiles stage1 stage2 kernel = some (checkFiles stage1 stage2 kernel) := by
  by_cases hsize : stage1.length = stage1Sectors * sectorSize
  · have hbound : stage1.length = 512 := hsize
    have hlow := List.getElem?_eq_getElem (show 510 < stage1.length by omega)
    have hhigh := List.getElem?_eq_getElem (show 511 < stage1.length by omega)
    simp only [inspectFiles, checkFiles, hsize, hlow, hhigh, ne_eq, not_true_eq_false, if_false,
      Option.bind_eq_bind, Option.bind_some, Option.some.injEq]
    split_ifs <;> rfl
  · simp only [inspectFiles, checkFiles, ne_eq, hsize, not_false_eq_true, if_true]

theorem placeFiles_eq (hchecked : checkFiles stage1 stage2 kernel = .ok ()) :
    placeFiles stage1 stage2 kernel = some (layout stage1 stage2 kernel) := by
  obtain ⟨hfirst, hsecond, hthird⟩ := layout_rooms hchecked
  have hstage1 : copyFromSlice (List.replicate imageSize 0#8) ((stage1Sectors - 1) * sectorSize)
      stage1 = some (copySlice (List.replicate imageSize 0#8) 0 stage1) := if_pos hfirst
  have hstage2 : copyFromSlice (copySlice (List.replicate imageSize 0#8) 0 stage1)
      (stage1Sectors * sectorSize) stage2 =
        some (copySlice (copySlice (List.replicate imageSize 0#8) 0 stage1) sectorSize stage2) :=
    if_pos hsecond
  simp only [placeFiles, hstage1, hstage2, Option.bind_eq_bind, Option.bind_some]
  exact if_pos hthird

/-- No file makes the builder panic. -/
theorem createImage_eq (stage1 stage2 kernel : List U8) :
    createImage stage1 stage2 kernel = some (buildImage stage1 stage2 kernel) := by
  rw [createImage, inspectFiles_eq, buildImage]
  cases hchecked : checkFiles stage1 stage2 kernel with
  | error error => rfl
  | ok _ =>
      simp only [Option.bind_eq_bind, Option.bind_some, placeFiles_eq hchecked]
      rfl

end Layout

end UnboundOS.Loader
