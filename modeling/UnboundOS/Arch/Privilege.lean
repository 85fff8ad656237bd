import UnboundOS.Arch.DescriptorTables

/-!
Who runs at which privilege level. `msr.rs` programs the registers behind
`SYSCALL`; together with the descriptor tables they decide what a program in
ring 3 can reach. The processor checks every way across levels against the
tables, so the answer follows from what the kernel put into them: ring 3 stays
in its two segments and enters ring 0 only at the kernel's entry points.
-/

namespace UnboundOS.Arch

open X86

/-! ### `msr.rs` -/

def ia32Efer : U32 := 0xC0000080#32

def ia32Star : U32 := 0xC0000081#32

def ia32Lstar : U32 := 0xC0000082#32

def ia32Cstar : U32 := 0xC0000083#32

def ia32Fmask : U32 := 0xC0000084#32

def eferSce : U64 := 1#64 <<< 0

def starKernelCs : U64 := 0x08#64

def starUserCsBase : U64 := 0x20#64

def syscallFmask : U64 := 0x200#64

namespace Msr

/-- `read`: the halves come from EDX and EAX. -/
def read (msr : U32) (self : Processor) : U64 :=
  let (high, low) := self.rdmsr msr
  (high.setWidth 64 <<< 32) ||| low.setWidth 64

/-- `write`: the halves go to EDX and EAX. -/
def write (msr : U32) (value : U64) (self : Processor) : Processor :=
  self.wrmsr msr ((value >>> 32).setWidth 32) (value.setWidth 32)

def enableSyscallExtensions (self : Processor) : Processor :=
  let efer := read ia32Efer self
  if efer &&& eferSce = 0#64 then write ia32Efer (efer ||| eferSce) self else self

def syscallExtensionsEnabled (self : Processor) : Bool :=
  read ia32Efer self &&& eferSce != 0#64

def makeStar : U64 :=
  (starUserCsBase <<< 48) ||| (starKernelCs <<< 32)

def initSyscallMsrs (lstar : U64) (self : Processor) : Processor :=
  let self := write ia32Star makeStar self
  let self := write ia32Lstar lstar self
  let self := write ia32Cstar 0#64 self
  write ia32Fmask syscallFmask self

def verifySyscallMsrs (lstar : U64) (self : Processor) : Bool :=
  if read ia32Star self ≠ makeStar then false
  else if read ia32Lstar self ≠ lstar then false
  else if read ia32Cstar self ≠ 0#64 then false
  else if read ia32Fmask self ≠ syscallFmask then false
  else true

theorem read_eq (msr : U32) (self : Processor) : read msr self = self.msrs msr := by
  refine BitVec.eq_of_getLsbD_eq fun bit hbit => ?_
  simp only [read, Processor.rdmsr, BitVec.getLsbD_or, BitVec.getLsbD_shiftLeft,
    BitVec.getLsbD_setWidth, BitVec.getLsbD_extractLsb']
  grind

theorem write_eq (msr : U32) (value : U64) (self : Processor) :
    write msr value self = {self with msrs := Function.update self.msrs msr value} := by
  have hvalue : (value >>> 32).setWidth 32 ++ value.setWidth 32 = value := by
    refine BitVec.eq_of_getLsbD_eq fun bit hbit => ?_
    simp only [BitVec.getLsbD_append, BitVec.getLsbD_setWidth, BitVec.getLsbD_ushiftRight]
    grind
  rw [write, Processor.wrmsr, hvalue]

end Msr

namespace Layout

variable {layout : Layout} {self next : Processor}

/-- The tables are in place and `SYSCALL` is set up. -/
structure Ready (layout : Layout) (processor : Processor) : Prop
    extends Installed layout processor where
  star : processor.msrs ia32Star = Msr.makeStar
  lstar : processor.msrs ia32Lstar = layout.syscallEntry
  cstar : processor.msrs ia32Cstar = 0#64
  fmask : processor.msrs ia32Fmask = syscallFmask
  sce : (processor.msrs ia32Efer).getLsbD 0 = true

theorem Keeps.ready (hkeeps : layout.Keeps self next) (hready : layout.Ready self) :
    layout.Ready next where
  toInstalled := hkeeps.installed hready.toInstalled
  star := by rw [hkeeps.msrs, hready.star]
  lstar := by rw [hkeeps.msrs, hready.lstar]
  cstar := by rw [hkeeps.msrs, hready.cstar]
  fmask := by rw [hkeeps.msrs, hready.fmask]
  sce := by rw [hkeeps.msrs, hready.sce]

/-- The checks of `msr.rs` pass. -/
theorem Ready.verified (hready : layout.Ready self) :
    Msr.verifySyscallMsrs layout.syscallEntry self = true ∧
      Msr.syscallExtensionsEnabled self = true := by
  constructor
  · simp only [Msr.verifySyscallMsrs, Msr.read_eq, hready.star, hready.lstar, hready.cstar,
      hready.fmask, ne_eq, not_true_eq_false, if_false]
  · rw [Msr.syscallExtensionsEnabled, Msr.read_eq, bne_iff_ne]
    intro hclear
    have hbit := congrArg (fun efer => efer.getLsbD 0) hclear
    simp only [BitVec.getLsbD_and, hready.sce, Bool.true_and] at hbit
    cases hbit

theorem enableSyscallExtensions_spec (self : Processor) :
    ∃ msrs, Msr.enableSyscallExtensions self = {self with msrs := msrs} ∧
      (msrs ia32Efer).getLsbD 0 = true := by
  rw [Msr.enableSyscallExtensions, Msr.read_eq, Msr.write_eq]
  split
  · refine ⟨_, rfl, ?_⟩
    rw [Function.update_self, BitVec.getLsbD_or]
    simp [eferSce]
  · next hset =>
    refine ⟨_, rfl, ?_⟩
    by_contra hclear
    apply hset
    refine BitVec.eq_of_getLsbD_eq fun bit hbit => ?_
    cases bit with
    | zero =>
        rw [BitVec.getLsbD_and, Bool.eq_false_iff.mpr hclear]
        rfl
    | succ bit => simp [eferSce]

/-- `run_msr_test` and `run_syscall_msr_test` leave `SYSCALL` set up. -/
theorem initSyscallMsrs_ready (hinstalled : layout.Installed self) :
    layout.Ready
      (Msr.initSyscallMsrs layout.syscallEntry (Msr.enableSyscallExtensions self)) := by
  obtain ⟨msrs, henabled, hsce⟩ := enableSyscallExtensions_spec self
  rw [henabled]
  simp only [Msr.initSyscallMsrs, Msr.write_eq]
  refine ⟨?_, ?_, ?_, ?_, ?_, ?_⟩
  · exact ⟨⟨⟨hinstalled.gdtr, hinstalled.tssBase, hinstalled.tssLimit, hinstalled.gdt,
      hinstalled.ist1⟩, hinstalled.idtr, hinstalled.idt⟩, hinstalled.rsp0⟩
  all_goals simp [Function.update, ia32Efer, ia32Star, ia32Lstar, ia32Cstar, ia32Fmask]
  exact hsce

theorem initSyscallMsrs_segments (entry : U64) (self : Processor) :
    (Msr.initSyscallMsrs entry (Msr.enableSyscallExtensions self)).cs = self.cs ∧
      (Msr.initSyscallMsrs entry (Msr.enableSyscallExtensions self)).ss = self.ss := by
  obtain ⟨msrs, henabled, _⟩ := enableSyscallExtensions_spec self
  rw [henabled]
  simp only [Msr.initSyscallMsrs, Msr.write_eq, and_self]

/-! ### The segments a check can accept -/

/-- The two code segments and their levels. -/
theorem GdtLoaded.codeSelector (hloaded : layout.GdtLoaded self) {selector : U16} {word : U64}
    (hword : self.nonNull selector = .ok word) (hcode : Descriptor.isCode word = true) :
    Descriptor.isConforming word = false ∧
      ((bareSelector selector = kernelCodeSelector ∧ Descriptor.level word = 0#2) ∨
        (bareSelector selector = userCodeSelector ∧ Descriptor.level word = 3#2)) := by
  obtain ⟨hbare, entry, hindex, hmarked⟩ := Processor.entry_of_descriptor hloaded.limit
    hloaded.table (Processor.nonNull_ok.mp hword).2
  rw [hmarked.isCode] at hcode
  rw [hmarked.isConforming, hmarked.level]
  have hsegment : entry.getLsbD 44 = true := (Bool.and_eq_true_iff.mp hcode).1
  rcases GlobalDescriptorTable.loaded_segment hindex hsegment with
    ⟨heq, rfl⟩ | ⟨_, rfl⟩ | ⟨_, rfl⟩ | ⟨heq, rfl⟩
  · rw [heq] at hbare
    exact ⟨rfl, Or.inl ⟨BitVec.eq_of_toNat_eq hbare, rfl⟩⟩
  · cases hcode
  · cases hcode
  · rw [heq] at hbare
    exact ⟨rfl, Or.inr ⟨BitVec.eq_of_toNat_eq hbare, rfl⟩⟩

/-- The two data segments and their levels. -/
theorem GdtLoaded.dataSelector (hloaded : layout.GdtLoaded self) {selector : U16} {word : U64}
    (hword : self.descriptor selector = .ok word) (hdata : Descriptor.isWritableData word = true) :
    (bareSelector selector = kernelDataSelector ∧ Descriptor.level word = 0#2) ∨
      (bareSelector selector = userDataSelector ∧ Descriptor.level word = 3#2) := by
  obtain ⟨hbare, entry, hindex, hmarked⟩ := Processor.entry_of_descriptor hloaded.limit
    hloaded.table hword
  rw [hmarked.isWritableData] at hdata
  rw [hmarked.level]
  have hsegment : entry.getLsbD 44 = true :=
    (Bool.and_eq_true_iff.mp (Bool.and_eq_true_iff.mp hdata).1).1
  rcases GlobalDescriptorTable.loaded_segment hindex hsegment with
    ⟨_, rfl⟩ | ⟨heq, rfl⟩ | ⟨heq, rfl⟩ | ⟨_, rfl⟩
  · cases hdata
  · rw [heq] at hbare
    exact Or.inl ⟨BitVec.eq_of_toNat_eq hbare, rfl⟩
  · rw [heq] at hbare
    exact Or.inr ⟨BitVec.eq_of_toNat_eq hbare, rfl⟩
  · cases hdata

/-- A far return leads to the kernel code from ring 0 only, or to the user
code. -/
theorem GdtLoaded.returnCode (hloaded : layout.GdtLoaded self) {selector : U16} {rip : U64}
    (hcheck : self.checkReturnCode selector rip = .ok ()) :
    (selector = kernelCodeSelector ∧ self.cpl = 0#2) ∨ selector = userCodeSelectorR3 := by
  obtain ⟨word, hword, ⟨hcode, hlevel, hsame⟩, _⟩ := Processor.checkReturnCode_ok.mp hcheck
  obtain ⟨hconforming, hsegment⟩ := hloaded.codeSelector hword hcode
  rw [hconforming, if_neg Bool.false_ne_true] at hsame
  rcases hsegment with ⟨hbare, hring⟩ | ⟨hbare, hring⟩
  · have hrequested : requestedLevel selector = 0#2 := hsame.symm.trans hring
    rw [hrequested, BitVec.le_def] at hlevel
    exact Or.inl ⟨selector_ext hbare hrequested, BitVec.eq_of_toNat_eq (Nat.le_zero.mp hlevel)⟩
  · have hrequested : requestedLevel selector = 3#2 := hsame.symm.trans hring
    exact Or.inr (selector_ext hbare hrequested)

/-- The stack segment of a return to one of the two levels in use. -/
theorem GdtLoaded.returnStack (hloaded : layout.GdtLoaded self) {selector : U16}
    {level : BitVec 2} (hcheck : self.checkReturnStack selector level = .ok ()) :
    (level = 0#2 → selector = kernelDataSelector ∨ selector = 0#16) ∧
      (level = 3#2 → selector = userDataSelectorR3) := by
  rw [Processor.checkReturnStack_ok] at hcheck
  split at hcheck
  · next hnull =>
    obtain ⟨hring, hrequested⟩ := hcheck
    refine ⟨fun hzero => Or.inr ?_, fun hthree => absurd hthree hring⟩
    exact selector_ext hnull (hrequested.trans hzero)
  · obtain ⟨word, hword, ⟨hrequested, hdata, hlevel⟩, _⟩ := hcheck
    rcases hloaded.dataSelector hword hdata with ⟨hbare, hring⟩ | ⟨hbare, hring⟩
    · refine ⟨fun hzero => Or.inl (selector_ext hbare (hrequested.trans hzero)), fun hthree => ?_⟩
      rw [hring, hthree] at hlevel
      cases hlevel
    · refine ⟨fun hzero => ?_, fun hthree => selector_ext hbare (hrequested.trans hthree)⟩
      rw [hring, hzero] at hlevel
      cases hlevel

/-! ### Steps -/

theorem Legal.ring0 (hlegal : Legal self) (hcpl : self.cpl = 0#2) :
    self.cs = kernelCodeSelector ∧ (self.ss = kernelDataSelector ∨ self.ss = 0#16) := by
  cases hlegal with
  | kernel hcs hss => exact ⟨hcs, hss⟩
  | user hcs _ =>
      rw [Processor.cpl, hcs] at hcpl
      cases hcpl

theorem Legal.ring3 (hlegal : Legal self) (hcpl : self.cpl ≠ 0#2) :
    self.cs = userCodeSelectorR3 ∧ self.ss = userDataSelectorR3 := by
  cases hlegal with
  | kernel hcs _ =>
      rw [Processor.cpl, hcs] at hcpl
      exact absurd rfl hcpl
  | user hcs hss => exact ⟨hcs, hss⟩

theorem Legal.cpl_eq_three (hlegal : Legal self) (hcpl : self.cpl ≠ 0#2) : self.cpl = 3#2 := by
  rw [Processor.cpl, (hlegal.ring3 hcpl).1]
  rfl

/-- What a step can do to CS and SS. -/
inductive Outcome (layout : Layout) (before after : Processor) : Prop where
  /-- The code stays where it is. -/
  | stays (cs : after.cs = before.cs) (ss : after.ss = before.ss)
  /-- Ring 3, by a return or within itself. -/
  | user (cs : after.cs = userCodeSelectorR3) (ss : after.ss = userDataSelectorR3)
  /-- Ring 0 within itself. -/
  | kernel (cpl : before.cpl = 0#2) (cs : after.cs = kernelCodeSelector)
      (ss : after.ss = kernelDataSelector ∨ after.ss = 0#16)
  /-- Through a gate of the kernel. -/
  | gate (vector : U8) (errorCode : Option U64) (hvector : vector.toNat < 33)
      (heq : after = layout.delivered vector errorCode before)
  /-- Through `SYSCALL`. -/
  | syscall (heq : after = {before with
      toMachine := before.toMachine.syscall before.syscallMsrs})

/-- The selectors that `SYSCALL` and `SYSRETQ` load without looking. -/
theorem Ready.syscallMsrs (hready : layout.Ready self) :
    self.syscallMsrs = ⟨layout.syscallEntry, syscallFmask, kernelCodeSelector, kernelDataSelector,
      userCodeSelectorR3, userDataSelectorR3⟩ := by
  have hstar : self.msrs 0xC0000081#32 = Msr.makeStar := hready.star
  have hlstar : self.msrs 0xC0000082#32 = layout.syscallEntry := hready.lstar
  have hfmask : self.msrs 0xC0000084#32 = syscallFmask := hready.fmask
  rw [Processor.syscallMsrs, hstar, hlstar, hfmask]
  rfl

/-- An interrupt that is delivered goes through a gate of the kernel. -/
theorem IdtLoaded.interrupt_ok (hloaded : layout.IdtLoaded self) (hrsp0 : layout.HasRsp0 self)
    {vector : U8} {software : Bool} {errorCode : Option U64}
    (hact : self.interrupt vector software errorCode = .ok next) :
    vector.toNat < 33 ∧ next = layout.delivered vector errorCode self := by
  rw [hloaded.interrupt_eq hrsp0] at hact
  split at hact
  · next hallowed =>
    split at hact
    · cases hact
      exact ⟨hallowed.1, rfl⟩
    · cases hact
  · cases hact

section Act

variable (hready : layout.Ready self) (hlegal : Legal self)

include hready hlegal

theorem loadStackSegment_outcome {selector : U16}
    (hact : self.loadStackSegment selector = .ok next) : layout.Outcome self next := by
  obtain ⟨hcheck, rfl⟩ := Processor.loadStackSegment_ok.mp hact
  obtain ⟨hzero, hthree⟩ := hready.toGdtLoaded.returnStack hcheck
  by_cases hcpl : self.cpl = 0#2
  · exact .kernel hcpl (hlegal.ring0 hcpl).1 (hzero hcpl)
  · exact .user (hlegal.ring3 hcpl).1 (hthree (hlegal.cpl_eq_three hcpl))

omit hlegal in
theorem interruptReturn_outcome (hact : self.interruptReturn = .ok next) :
    layout.Outcome self next := by
  obtain ⟨_, hcode, hstack, rfl⟩ := Processor.interruptReturn_ok.mp hact
  obtain ⟨hzero, hthree⟩ := hready.toGdtLoaded.returnStack hstack
  rcases hready.toGdtLoaded.returnCode hcode with ⟨hkernel, hcpl⟩ | huser
  · exact .kernel hcpl hkernel (hzero (by rw [hkernel]; rfl))
  · exact .user huser (hthree (by rw [huser]; rfl))

theorem farReturn_outcome (hact : self.farReturn = .ok next) : layout.Outcome self next := by
  rw [Processor.farReturn, Processor.bind_ok_iff] at hact
  obtain ⟨_, hcode, hrest⟩ := hact
  rcases hready.toGdtLoaded.returnCode hcode with ⟨hkernel, hcpl⟩ | huser
  · rw [if_pos (by rw [hkernel, hcpl]; rfl)] at hrest
    cases hrest
    exact .kernel hcpl hkernel (hlegal.ring0 hcpl).2
  · split at hrest
    · next hlevel =>
      cases hrest
      refine .user huser (hlegal.ring3 fun hcpl => ?_).2
      rw [huser, hcpl] at hlevel
      cases hlevel
    · obtain ⟨_, hstack, hnext⟩ := Processor.bind_ok_iff.mp hrest
      cases hnext
      obtain ⟨_, hthree⟩ := hready.toGdtLoaded.returnStack hstack
      exact .user huser (hthree (by rw [huser]; rfl))

theorem farTransfer_outcome {selector : U16} {offset : U64}
    (hact : self.farTransfer selector offset = .ok next) : layout.Outcome self next := by
  rw [Processor.farTransfer, Processor.bind_ok_iff] at hact
  obtain ⟨word, hword, hrest⟩ := hact
  by_cases hcode : Descriptor.isCode word = true
  · rw [if_pos hcode, Processor.require_bind_ok, Processor.require_bind_ok,
      Processor.require_bind_ok] at hrest
    obtain ⟨hlevel, _, _, hnext⟩ := hrest
    cases hnext
    obtain ⟨hconforming, hsegment⟩ := hready.toGdtLoaded.codeSelector hword hcode
    rw [hconforming, if_neg Bool.false_ne_true] at hlevel
    rcases hsegment with ⟨hbare, hring⟩ | ⟨hbare, hring⟩
    · have hcpl : self.cpl = 0#2 := hlevel.2.symm.trans hring
      refine .kernel hcpl ?_ (hlegal.ring0 hcpl).2
      change bareSelector selector ||| self.cpl.setWidth 16 = kernelCodeSelector
      rw [hbare, hcpl]
      rfl
    · have hcpl : self.cpl = 3#2 := hlevel.2.symm.trans hring
      refine .user ?_ (hlegal.ring3 (by rw [hcpl]; decide)).2
      change bareSelector selector ||| self.cpl.setWidth 16 = userCodeSelectorR3
      rw [hbare, hcpl]
      rfl
  · rw [if_neg hcode, Processor.require_bind_ok] at hrest
    obtain ⟨⟨hkind, _⟩, _⟩ := hrest
    obtain ⟨_, entry, hindex, hmarked⟩ := Processor.entry_of_descriptor
      hready.toGdtLoaded.limit hready.toGdtLoaded.table (Processor.nonNull_ok.mp hword).2
    -- A gate is a system descriptor, so it is the entry itself.
    have hsystem : entry.getLsbD 44 = false := by
      have hbit := congrArg (fun kind => kind.getLsbD 4) hkind
      rw [← hmarked.getLsbD (by decide)]
      simpa [Descriptor.kind] using hbit
    rw [hmarked.eq_of_system hsystem] at hkind
    exact absurd hkind (GlobalDescriptorTable.loaded_kind hindex)

/-- Everything that succeeds. -/
theorem act_outcome {action : Processor.Action} (hact : self.act action = .ok next) :
    layout.Outcome self next := by
  cases action with
  | compute machine =>
      cases hact
      exact .stays rfl rfl
  | privileged =>
      obtain ⟨_, hnext⟩ := Processor.require_bind_ok.mp hact
      cases hnext
      exact .stays rfl rfl
  | loadStackSegment selector => exact loadStackSegment_outcome hready hlegal hact
  | loadDs selector =>
      obtain ⟨_, _, hnext⟩ := Processor.bind_ok_iff.mp hact
      cases hnext
      exact .stays rfl rfl
  | loadEs selector =>
      obtain ⟨_, _, hnext⟩ := Processor.bind_ok_iff.mp hact
      cases hnext
      exact .stays rfl rfl
  | farTransfer selector offset => exact farTransfer_outcome hready hlegal hact
  | farReturn => exact farReturn_outcome hready hlegal hact
  | interruptReturn => exact interruptReturn_outcome hready hact
  | systemCall =>
      obtain ⟨_, hnext⟩ := Processor.require_bind_ok.mp hact
      cases hnext
      exact .syscall rfl
  | systemReturn =>
      obtain ⟨_, hrest⟩ := Processor.require_bind_ok.mp hact
      obtain ⟨_, hnext⟩ := Processor.require_bind_ok.mp hrest
      cases hnext
      have hmsrs := hready.syscallMsrs
      exact .user (congrArg Machine.SyscallMsrs.userCode hmsrs)
        (congrArg Machine.SyscallMsrs.userStack hmsrs)
  | interrupt vector software errorCode =>
      obtain ⟨hvector, heq⟩ := hready.toIdtLoaded.interrupt_ok hready.toInstalled.hasRsp0 hact
      exact .gate vector errorCode hvector heq

/-- A step either is an instruction that succeeds or ends in a gate. -/
theorem step_outcome {action : Processor.Action} (hstep : self.step action = some next) :
    layout.Outcome self next := by
  have hdouble (hfault : self.doubleFault = some next) : layout.Outcome self next := by
    rw [Processor.doubleFault] at hfault
    cases hinterrupt : self.interrupt 8#8 false (some 0#64) with
    | ok entered =>
        rw [hinterrupt] at hfault
        cases hfault
        obtain ⟨hvector, heq⟩ :=
          hready.toIdtLoaded.interrupt_ok hready.toInstalled.hasRsp0 hinterrupt
        exact .gate 8#8 (some 0#64) hvector heq
    | error fault =>
        rw [hinterrupt] at hfault
        cases hfault
  unfold Processor.step at hstep
  split at hstep
  · next hact =>
    cases hstep
    exact act_outcome hready hlegal hact
  · split at hstep
    · exact hdouble hstep
    · unfold Processor.raise at hstep
      split at hstep
      · next hinterrupt =>
        cases hstep
        obtain ⟨hvector, heq⟩ :=
          hready.toIdtLoaded.interrupt_ok hready.toInstalled.hasRsp0 hinterrupt
        exact .gate _ _ hvector heq
      · exact hdouble hstep

end Act

/-- Every outcome leaves legal selectors. -/
theorem Outcome.legal (hready : layout.Ready self) (hlegal : Legal self)
    (houtcome : layout.Outcome self next) : Legal next := by
  cases houtcome with
  | stays hcs hss =>
      cases hlegal with
      | kernel hcs' hss' => exact .kernel (hcs.trans hcs') (by rw [hss]; exact hss')
      | user hcs' hss' => exact .user (hcs.trans hcs') (hss.trans hss')
  | user hcs hss => exact .user hcs hss
  | kernel _ hcs hss => exact .kernel hcs hss
  | gate vector errorCode _ heq =>
      subst heq
      refine .kernel rfl ?_
      change (if self.cpl = 0#2 then self.ss else 0#16) = _ ∨
        (if self.cpl = 0#2 then self.ss else 0#16) = _
      split
      · next hcpl => exact (hlegal.ring0 hcpl).2
      · exact Or.inr rfl
  | syscall heq =>
      subst heq
      have hmsrs := hready.syscallMsrs
      exact .kernel (congrArg Machine.SyscallMsrs.kernelCode hmsrs)
        (Or.inl (congrArg Machine.SyscallMsrs.kernelStack hmsrs))

/-- Ring 3 can always be interrupted: the stacks for it are in place. -/
theorem Installed.interrupt_ring3 (hinstalled : layout.Installed self) (hcpl : self.cpl ≠ 0#2)
    {vector : U8} (hvector : vector.toNat < 33) (errorCode : Option U64) :
    self.interrupt vector false errorCode = .ok (layout.delivered vector errorCode self) := by
  have hstack : canonical (layout.stackFor vector self) = true := by
    unfold stackFor
    split
    · exact layout.doubleFault_canonical
    · exact layout.syscall_canonical
  rw [hinstalled.toIdtLoaded.interrupt_eq hinstalled.hasRsp0,
    if_pos ⟨hvector, fun hsoftware => nomatch hsoftware⟩, if_pos hstack]

theorem fault_vector_lt (fault : Fault) : fault.vector.toNat < 33 := by
  cases fault <;> simp [Fault.vector]

/-- Whatever ring 3 does, the processor goes on. -/
theorem ring3_step_some (hready : layout.Ready self) (hcpl : self.cpl ≠ 0#2)
    (action : Processor.Action) : ∃ next, self.step action = some next := by
  unfold Processor.step
  split
  · exact ⟨_, rfl⟩
  · split
    · rw [Processor.doubleFault, hready.toInstalled.interrupt_ring3 hcpl (by decide)]
      exact ⟨_, rfl⟩
    · rw [Processor.raise, hready.toInstalled.interrupt_ring3 hcpl (fault_vector_lt _)]
      exact ⟨_, rfl⟩

/-! ### The stacks of an entry from ring 3 -/

/-- The processor's pushes stay within the stack they start at the top of. -/
theorem deliver_within {base : U64} (haligned : base.toNat % 16 = 0) (handler : U64) (code : U16)
    (errorCode : Option U64) (machine : Machine) :
    (machine.deliver (base + 0x4000#64) handler code errorCode).regs .rsp ∈
        Memory.span base 0x4000 ∧
      Memory.SameOutside (Memory.span base 0x4000) machine.memory
        (machine.deliver (base + 0x4000#64) handler code errorCode).memory := by
  have hpushed := Machine.deliver_pushedTo (base + 0x4000#64) handler code errorCode machine
  have hround : (base + 0x4000#64) &&& ~~~15#64 = base + 0x4000#64 := by
    apply BitVec.eq_of_toNat_eq
    rw [show ~~~15#64 = -16#64 by decide, and_neg_sixteen_toNat, BitVec.toNat_add]
    simp only [BitVec.toNat_ofNat, Nat.reducePow, Nat.reduceMod]
    omega
  have hlength : errorCode.toList.length ≤ 1 := by cases errorCode <;> simp
  generalize hdepth : 40 + 8 * errorCode.toList.length = depth at hpushed
  rw [hround] at hpushed
  have hstart : base + 0x4000#64 - BitVec.ofNat 64 depth =
      base + BitVec.ofNat 64 (0x4000 - depth) := by
    have hsplit : (0x4000#64 : U64) = BitVec.ofNat 64 (0x4000 - depth) + BitVec.ofNat 64 depth := by
      rw [← BitVec.ofNat_add]
      congr 1
      omega
    rw [hsplit]
    bv_omega
  constructor
  · rw [hpushed.rsp, hstart]
    exact Memory.offset_mem_span (by omega)
  · exact hpushed.memory.mono (Memory.span_subset hstart (by omega))

/-- Where an entry from ring 3 finds its stack, and what it writes. -/
theorem delivered_within (layout : Layout) (hcpl : self.cpl ≠ 0#2) (vector : U8)
    (errorCode : Option U64) :
    let region := if vector = 8#8 then Memory.span layout.doubleFaultStack 0x4000
      else Memory.span layout.syscallStack 0x4000
    (layout.delivered vector errorCode self).regs .rsp ∈ region ∧
      Memory.SameOutside region self.memory (layout.delivered vector errorCode self).memory := by
  unfold delivered stackFor
  by_cases hdouble : vector = 8#8
  · simp only [if_pos hdouble]
    exact deliver_within layout.doubleFault_aligned _ _ _ _
  · simp only [if_neg hdouble, if_neg hcpl]
    exact deliver_within layout.syscall_aligned _ _ _ _

theorem delivered_keeps (layout : Layout) (hcpl : self.cpl ≠ 0#2) (vector : U8)
    (errorCode : Option U64) : layout.Keeps self (layout.delivered vector errorCode self) := by
  obtain ⟨_, hmemory⟩ := layout.delivered_within hcpl vector errorCode
  refine .of_same rfl rfl rfl rfl rfl fun address htables => hmemory address ?_
  split
  · exact Set.disjoint_right.mp layout.doubleFault_apart htables
  · exact Set.disjoint_right.mp layout.syscall_apart htables

/-! ### Runs -/

/-- One step of the system. The kernel looks after its tables, and paging keeps
the stores of ring 3 away from them; everything else is up to the code that
runs. -/
def Moves (layout : Layout) (before after : Processor) : Prop :=
  ∃ action, before.step action = some after ∧
    (before.cpl = 0#2 ∨ action.computes = true → layout.Keeps before after)

/-- Short of its stores, ring 3 has no way to the tables. -/
theorem ring3_keeps (hready : layout.Ready self) (hcpl : self.cpl ≠ 0#2)
    {action : Processor.Action} (hcomputes : action.computes = false)
    (hstep : self.step action = some next) : layout.Keeps self next := by
  have hinstalled := hready.toInstalled
  unfold Processor.step at hstep
  split at hstep
  · next hact =>
    cases hstep
    by_cases hinterrupt : ∃ vector software errorCode,
        action = .interrupt vector software errorCode
    · obtain ⟨vector, software, errorCode, rfl⟩ := hinterrupt
      obtain ⟨_, rfl⟩ := hinstalled.toIdtLoaded.interrupt_ok hinstalled.hasRsp0 hact
      exact layout.delivered_keeps hcpl vector errorCode
    · have hsame := Processor.act_untouched hcomputes
        (fun vector software errorCode heq => hinterrupt ⟨vector, software, errorCode, heq⟩) hact
      exact .of_same hsame.gdtr hsame.idtr hsame.tssBase hsame.tssLimit hsame.msrs
        fun address _ => congrFun hsame.memory address
  · split at hstep
    · rw [Processor.doubleFault, hinstalled.interrupt_ring3 hcpl (by decide)] at hstep
      cases hstep
      exact layout.delivered_keeps hcpl 8#8 (some 0#64)
    · rw [Processor.raise, hinstalled.interrupt_ring3 hcpl (fault_vector_lt _)] at hstep
      cases hstep
      exact layout.delivered_keeps hcpl _ _

theorem Moves.keeps (hmoves : layout.Moves self next) (hready : layout.Ready self) :
    layout.Keeps self next := by
  obtain ⟨action, hstep, hguard⟩ := hmoves
  by_cases hguarded : self.cpl = 0#2 ∨ action.computes = true
  · exact hguard hguarded
  · obtain ⟨hcpl, hcomputes⟩ := not_or.mp hguarded
    exact ring3_keeps hready hcpl (Bool.eq_false_iff.mpr hcomputes) hstep

/-- What every step keeps, every run keeps. -/
theorem run_ready {start reached : Processor} (hready : layout.Ready start) (hlegal : Legal start)
    (hrun : Relation.ReflTransGen layout.Moves start reached) :
    layout.Ready reached ∧ Legal reached := by
  induction hrun with
  | refl => exact ⟨hready, hlegal⟩
  | tail _ hmoves ih =>
      obtain ⟨hbefore, hselectors⟩ := ih
      have hkeeps := Moves.keeps hmoves hbefore
      obtain ⟨action, hstep, _⟩ := hmoves
      exact ⟨hkeeps.ready hbefore,
        (step_outcome hbefore hselectors hstep).legal hbefore hselectors⟩

/-- The segments in use are those of the current level. -/
structure Matched (processor : Processor) : Prop where
  code : ∃ word, processor.descriptor processor.cs = .ok word ∧ Descriptor.isCode word = true ∧
    Descriptor.isLong word = true ∧ Descriptor.present word = true ∧
    Descriptor.level word = processor.cpl
  stack : (processor.cpl = 0#2 ∧ processor.ss = 0#16) ∨
    ∃ word, processor.descriptor processor.ss = .ok word ∧ Descriptor.isWritableData word = true ∧
      Descriptor.present word = true ∧ Descriptor.level word = processor.cpl

theorem Legal.matched (hinstalled : layout.Installed self) (hlegal : Legal self) :
    Matched self := by
  have hloaded := hinstalled.toGdtLoaded
  cases hlegal with
  | kernel hcs hss =>
      have hcpl : self.cpl = 0#2 := by
        rw [Processor.cpl, hcs]
        rfl
      constructor
      · obtain ⟨word, hword, hmarked⟩ := hloaded.segment
          (show (bareSelector kernelCodeSelector).toNat = _ by decide) rfl
        rw [hcs, hcpl]
        exact ⟨word, hword, hmarked.isCode, hmarked.isLong, hmarked.present, hmarked.level⟩
      · rcases hss with hss | hss
        · obtain ⟨word, hword, hmarked⟩ := hloaded.segment
            (show (bareSelector kernelDataSelector).toNat = _ by decide) rfl
          rw [hss, hcpl]
          exact Or.inr ⟨word, hword, hmarked.isWritableData, hmarked.present, hmarked.level⟩
        · exact Or.inl ⟨hcpl, hss⟩
  | user hcs hss =>
      have hcpl : self.cpl = 3#2 := by
        rw [Processor.cpl, hcs]
        rfl
      constructor
      · obtain ⟨word, hword, hmarked⟩ := hloaded.segment
          (show (bareSelector userCodeSelectorR3).toNat = _ by decide) rfl
        rw [hcs, hcpl]
        exact ⟨word, hword, hmarked.isCode, hmarked.isLong, hmarked.present, hmarked.level⟩
      · obtain ⟨word, hword, hmarked⟩ := hloaded.segment
          (show (bareSelector userDataSelectorR3).toNat = _ by decide) rfl
        rw [hss, hcpl]
        exact Or.inr ⟨word, hword, hmarked.isWritableData, hmarked.present, hmarked.level⟩

/-- Ring 0 as a program of ring 3 enters it: in the kernel code segment with
interrupts off, either at a handler and on a stack of the kernel, or at the
system-call entry and still on its own stack. -/
structure Entered (layout : Layout) (before after : Processor) : Prop where
  cs : after.cs = kernelCodeSelector
  interruptsOff : after.rflags.getLsbD 9 = false
  entry : (∃ vector : U8, vector.toNat < 33 ∧ after.rip = layout.handler vector ∧
      after.regs .rsp ∈ Memory.span layout.syscallStack 0x4000 ∪
        Memory.span layout.doubleFaultStack 0x4000) ∨
    (after.rip = layout.syscallEntry ∧ after.regs .rsp = before.regs .rsp)

theorem delivered_entered (layout : Layout) (hcpl : self.cpl ≠ 0#2) {vector : U8}
    (hvector : vector.toNat < 33) (errorCode : Option U64) :
    layout.Entered self (layout.delivered vector errorCode self) where
  cs := rfl
  interruptsOff := by
    change (self.rflags &&& ~~~0x34300#64).getLsbD 9 = false
    rw [BitVec.getLsbD_and, show (~~~0x34300#64 : U64).getLsbD 9 = false by decide, Bool.and_false]
  entry := by
    obtain ⟨hrsp, _⟩ := layout.delivered_within hcpl vector errorCode
    refine Or.inl ⟨vector, hvector, rfl, ?_⟩
    split at hrsp
    · exact Or.inr hrsp
    · exact Or.inl hrsp

theorem Ready.syscall_entered (hready : layout.Ready self) :
    layout.Entered self {self with toMachine := self.toMachine.syscall self.syscallMsrs} where
  cs := congrArg Machine.SyscallMsrs.kernelCode hready.syscallMsrs
  interruptsOff := by
    change (self.rflags &&& ~~~self.syscallMsrs.fmask).getLsbD 9 = false
    rw [hready.syscallMsrs, BitVec.getLsbD_and,
      show (~~~syscallFmask : U64).getLsbD 9 = false by decide, Bool.and_false]
  entry := by
    refine Or.inr ⟨congrArg Machine.SyscallMsrs.lstar hready.syscallMsrs, ?_⟩
    rfl

/-- What a program of ring 3 achieves in one step. -/
theorem ring3_step (hready : layout.Ready self) (hlegal : Legal self) (hcpl : self.cpl ≠ 0#2)
    (action : Processor.Action) :
    ∃ next, self.step action = some next ∧
      ((next.cs = self.cs ∧ next.ss = self.ss) ∨ layout.Entered self next) := by
  obtain ⟨next, hstep⟩ := ring3_step_some hready hcpl action
  refine ⟨next, hstep, ?_⟩
  obtain ⟨hcs, hss⟩ := hlegal.ring3 hcpl
  cases step_outcome hready hlegal hstep with
  | stays hcs' hss' => exact Or.inl ⟨hcs', hss'⟩
  | user hcs' hss' => exact Or.inl ⟨hcs'.trans hcs.symm, hss'.trans hss.symm⟩
  | kernel hkernel _ _ => exact absurd hkernel hcpl
  | gate vector errorCode hvector heq =>
      rw [heq]
      exact Or.inr (layout.delivered_entered hcpl hvector errorCode)
  | syscall heq =>
      rw [heq]
      exact Or.inr hready.syscall_entered

/-- Ring 3 enters ring 0 at the kernel's entry points only. From the end of the
boot on, along every run in which the kernel and paging protect the tables: the
checks of `msr.rs` still pass; the segments in use belong to the current level,
which is 0 or 3; and whatever a program of ring 3 tries next, the processor
neither shuts down nor leaves the program's segments except for a handler of the
kernel or the system-call entry. -/
theorem ring3_enters_at_entry_points (layout : Layout) (returnAddress reloadDone : U64)
    (self : Processor) (hreload : canonical reloadDone = true) (hcpl : self.cpl = 0#2)
    (hstack : Disjoint layout.tables (Memory.span (self.regs .rsp - 24#64) 24)) :
    ∃ loaded, layout.gdtInit returnAddress reloadDone self = .ok loaded ∧
      ∀ before, layout.Keeps loaded before →
      ∀ after, layout.Keeps (layout.idtInit before) after →
      ∀ settled, layout.Keeps (layout.setRsp0 layout.syscallStackTop after) settled →
      settled.cs = kernelCodeSelector → settled.ss = kernelDataSelector →
      ∀ reached, Relation.ReflTransGen layout.Moves (Msr.initSyscallMsrs layout.syscallEntry
        (Msr.enableSyscallExtensions settled)) reached →
      (Msr.verifySyscallMsrs layout.syscallEntry reached = true ∧
        Msr.syscallExtensionsEnabled reached = true) ∧
      Matched reached ∧ (reached.cpl = 0#2 ∨ reached.cpl = 3#2) ∧
        (reached.cpl = 3#2 → ∀ action, ∃ next, reached.step action = some next ∧
          ((next.cs = reached.cs ∧ next.ss = reached.ss) ∨ layout.Entered reached next)) := by
  obtain ⟨loaded, hinit, hinstalled⟩ := layout.boot_installed returnAddress hreload hcpl hstack
  refine ⟨loaded, hinit, ?_⟩
  intro before hbefore after hafter settled hsettled hcs hss reached hrun
  have hready := initSyscallMsrs_ready (hsettled.installed (hinstalled before hbefore after hafter))
  obtain ⟨hcs', hss'⟩ := initSyscallMsrs_segments layout.syscallEntry settled
  have hlegal := Legal.kernel (hcs'.trans hcs) (Or.inl (hss'.trans hss))
  obtain ⟨hfinal, hselectors⟩ := run_ready hready hlegal hrun
  refine ⟨hfinal.verified, hselectors.matched hfinal.toInstalled, ?_, fun hring action => ?_⟩
  · by_cases hlevel : reached.cpl = 0#2
    · exact Or.inl hlevel
    · exact Or.inr (hselectors.cpl_eq_three hlevel)
  · exact ring3_step hfinal hselectors (by rw [hring]; decide) action

/-- The kernel clears its registers and drops to ring 3 by `SYSRETQ`. -/
theorem moves_to_ring3 (hready : layout.Ready self) (hcpl : self.cpl = 0#2) :
    ∃ reached, Relation.ReflTransGen layout.Moves self reached ∧ reached.cpl = 3#2 := by
  generalize hcleared : ({self with toMachine := {self.toMachine with regs := fun _ => 0#64}} :
    Processor) = cleared
  have hkeeps : layout.Keeps self cleared := by
    rw [← hcleared]
    exact .of_same rfl rfl rfl rfl rfl fun _ _ => rfl
  have hfirst : layout.Moves self cleared := by
    refine ⟨.compute {self.toMachine with regs := fun _ => 0#64}, ?_, fun _ => hkeeps⟩
    rw [← hcleared]
    rfl
  have hmsrs := (hkeeps.ready hready).syscallMsrs
  have hreturn : cleared.step .systemReturn =
      some {cleared with toMachine := cleared.toMachine.sysretq cleared.syscallMsrs} := by
    have hact : cleared.act .systemReturn =
        .ok {cleared with toMachine := cleared.toMachine.sysretq cleared.syscallMsrs} := by
      refine Processor.require_bind_ok.mpr ⟨(hkeeps.ready hready).sce, ?_⟩
      refine Processor.require_bind_ok.mpr ⟨?_, rfl⟩
      rw [← hcleared]
      exact ⟨hcpl, show canonical 0#64 = true by decide⟩
    rw [Processor.step, hact]
  have hsecond : layout.Moves cleared
      {cleared with toMachine := cleared.toMachine.sysretq cleared.syscallMsrs} :=
    ⟨.systemReturn, hreturn, fun _ => .of_same rfl rfl rfl rfl rfl fun _ _ => rfl⟩
  refine ⟨_, (Relation.ReflTransGen.single hfirst).tail hsecond, ?_⟩
  change requestedLevel cleared.syscallMsrs.userCode = 3#2
  rw [hmsrs]
  change requestedLevel userCodeSelectorR3 = 3#2
  decide

/-- In the sample layout, a ring 3 program that tries `INT 0x80`. -/
theorem ring3_enters_at_entry_points_int80 :
    ∃ reached next : Processor, reached.cpl = 3#2 ∧
      reached.step (.interrupt 0x80#8 true none) = some next ∧
      ((next.cs = reached.cs ∧ next.ss = reached.ss) ∨ sample.Entered reached next) := by
  obtain ⟨loaded, hinit, hcontained⟩ := ring3_enters_at_entry_points sample 0x100010#64
    0x100020#64 sampleProcessor (by decide) (by decide) sample_stack
  obtain ⟨again, hagain, hloaded, _, hcs, hss, _⟩ := sample.gdtInit_loaded 0x100010#64
    (show canonical 0x100020#64 = true by decide) (show sampleProcessor.cpl = 0#2 by decide)
    sample_stack
  rw [hinit] at hagain
  cases hagain
  have hready := initSyscallMsrs_ready (setRsp0_installed (idtInit_loaded hloaded))
  obtain ⟨hkept, _⟩ := initSyscallMsrs_segments sample.syscallEntry
    (sample.setRsp0 sample.syscallStackTop (sample.idtInit loaded))
  have hkernel := hkept.trans hcs
  obtain ⟨reached, hrun, hring⟩ := moves_to_ring3 hready (by rw [Processor.cpl, hkernel]; rfl)
  obtain ⟨_, _, _, hstep⟩ := hcontained loaded (Keeps.refl _ _) _ (Keeps.refl _ _) _
    (Keeps.refl _ _) hcs hss reached hrun
  obtain ⟨next, hnext, hentered⟩ := hstep hring (.interrupt 0x80#8 true none)
  exact ⟨reached, next, hring, hnext, hentered⟩

end Layout

end UnboundOS.Arch
