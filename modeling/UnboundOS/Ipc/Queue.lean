import UnboundOS.Base.Ring
import UnboundOS.Objects.ObjectTable

/-!
Messages and message queues, after `ipc/message.rs` and the first half of
`ipc/endpoint.rs`. A message is a fixed buffer with a length; a queue is a ring
of sixteen messages whose indices and count agree by type. The contents of a
queue are a list, and its two operations are the two ends of that list.
-/

namespace UnboundOS.Ipc

open Objects

def ipcMessageSize : Nat := 256

structure IpcMessage where
  sender : ObjectHandle
  len : U16
  reserved : U16
  data : Vector U8 ipcMessageSize
  len_le : len.toNat ≤ ipcMessageSize
deriving DecidableEq

namespace IpcMessage

def empty : IpcMessage where
  sender := ObjectHandle.invalid
  len := 0#16
  reserved := 0#16
  data := Vector.replicate ipcMessageSize 0#8
  len_le := Nat.zero_le _

/-- `while index < data.len() { message.data[index] = data[index]; index += 1; }`,
with the bytes still to be copied as the list. -/
def copyFrom : List U8 → Nat → Vector U8 ipcMessageSize → Vector U8 ipcMessageSize
  | [], _, target => target
  | byte :: rest, index, target => copyFrom rest (index + 1) (target.setIfInBounds index byte)

def new (sender : ObjectHandle) (bytes : List U8) : Option IpcMessage :=
  if hsize : ipcMessageSize < bytes.length then none
  else
    some {
      sender := sender
      len := BitVec.ofNat 16 bytes.length
      reserved := empty.reserved
      data := copyFrom bytes 0 empty.data
      len_le := by
        rw [BitVec.toNat_ofNat]
        exact (Nat.mod_le _ _).trans (Nat.le_of_not_lt hsize) }

/-- `&self.data[..self.len as usize]`. -/
def payload (self : IpcMessage) : List U8 :=
  self.data.toList.take self.len.toNat

/-- The copy overwrites as many bytes as it is given, from `index` on. -/
theorem toList_copyFrom {bytes : List U8} {index : Nat} {target : Vector U8 ipcMessageSize}
    (hfits : index + bytes.length ≤ ipcMessageSize) :
    (copyFrom bytes index target).toList =
      target.toList.take index ++ bytes ++ target.toList.drop (index + bytes.length) := by
  induction bytes generalizing index target with
  | nil => simp [copyFrom]
  | cons byte rest ih =>
      rw [List.length_cons] at hfits
      have hindex : index < target.toList.length := by
        rw [Vector.length_toList]
        omega
      have hset : (target.setIfInBounds index byte).toList =
          target.toList.take index ++ byte :: target.toList.drop (index + 1) := by
        rw [Vector.toList_setIfInBounds, List.set_eq_take_append_cons_drop, if_pos hindex]
      have hlength : (target.toList.take index).length = index := by
        rw [List.length_take]
        omega
      have htake : (target.toList.take index ++ byte :: target.toList.drop (index + 1)).take
          (index + 1) = target.toList.take index ++ [byte] := by
        rw [List.append_cons]
        exact List.take_left' (by rw [List.length_append, hlength]; rfl)
      have hdrop : (target.toList.take index ++ byte :: target.toList.drop (index + 1)).drop
          (index + 1 + rest.length) = target.toList.drop (index + (rest.length + 1)) := by
        rw [List.append_cons, List.drop_append, List.drop_eq_nil_of_le, List.nil_append,
          List.drop_drop, List.length_append, hlength]
        · congr 1
          change index + 1 + (index + 1 + rest.length - (index + 1)) = _
          omega
        · rw [List.length_append, hlength]
          change index + 1 ≤ _
          omega
      rw [copyFrom, ih (by omega), hset, htake, hdrop, List.length_cons]
      simp only [List.append_assoc, List.singleton_append]

/-- The message holds these bytes from this sender, and nothing else. -/
structure Carries (message : IpcMessage) (sender : ObjectHandle) (bytes : List U8) : Prop where
  sender_eq : message.sender = sender
  payload_eq : message.payload = bytes
  padding_eq : message.data.toList.drop bytes.length =
    List.replicate (ipcMessageSize - bytes.length) 0#8

theorem new_eq_none {sender : ObjectHandle} {bytes : List U8} :
    new sender bytes = none ↔ ipcMessageSize < bytes.length := by
  unfold new
  split
  · rename_i hsize
    exact iff_of_true rfl hsize
  · rename_i hsize
    exact iff_of_false (Option.some_ne_none _) hsize

theorem new_carries {sender : ObjectHandle} {bytes : List U8} {message : IpcMessage}
    (hnew : new sender bytes = some message) : message.Carries sender bytes := by
  unfold new at hnew
  split at hnew
  · cases hnew
  · rename_i hsize
    cases hnew
    have hlen : (BitVec.ofNat 16 bytes.length).toNat = bytes.length := by
      unfold ipcMessageSize at hsize
      rw [BitVec.toNat_ofNat]
      omega
    have hdata : (copyFrom bytes 0 empty.data).toList =
        bytes ++ List.replicate (ipcMessageSize - bytes.length) 0#8 := by
      rw [toList_copyFrom (by omega), empty, Vector.toList_replicate, List.drop_replicate,
        Nat.zero_add]
      rfl
    constructor
    · rfl
    · rw [payload, hlen, hdata, List.take_left]
    · rw [hdata, List.drop_left]

end IpcMessage

def ipcQueueCapacity : Nat := 16

/-- The ring indices are below the capacity and `count` apart. -/
structure IpcQueue where
  messages : Fin ipcQueueCapacity → IpcMessage
  head : Fin ipcQueueCapacity
  tail : Fin ipcQueueCapacity
  count : Nat
  count_le : count ≤ ipcQueueCapacity
  tail_eq : tail = advance^[count] head

namespace IpcQueue

def new : IpcQueue where
  messages := fun _ => IpcMessage.empty
  head := ⟨0, by decide⟩
  tail := ⟨0, by decide⟩
  count := 0
  count_le := Nat.zero_le _
  tail_eq := rfl

def isEmpty (self : IpcQueue) : Bool := self.count == 0

def isFull (self : IpcQueue) : Bool := self.count == ipcQueueCapacity

def len (self : IpcQueue) : Nat := self.count

def send (self : IpcQueue) (message : IpcMessage) : Bool × IpcQueue :=
  if hfull : self.isFull then (false, self)
  else
    (true, {
      messages := Function.update self.messages self.tail message
      head := self.head
      tail := advance self.tail
      count := self.count + 1
      count_le := by
        have hle := self.count_le
        simp only [isFull, beq_iff_eq] at hfull
        omega
      tail_eq := by rw [self.tail_eq, Function.iterate_succ_apply'] })

def receive (self : IpcQueue) : Option IpcMessage × IpcQueue :=
  if hempty : self.isEmpty then (none, self)
  else
    (some (self.messages self.head), {
      messages := Function.update self.messages self.head IpcMessage.empty
      head := advance self.head
      tail := self.tail
      count := self.count - 1
      count_le := (Nat.sub_le _ _).trans self.count_le
      tail_eq := by
        simp only [isEmpty, beq_iff_eq] at hempty
        rw [self.tail_eq, ← Function.iterate_succ_apply, Nat.succ_eq_add_one,
          Nat.sub_add_cancel (Nat.one_le_iff_ne_zero.mpr hempty)] })

/-- The queued messages, oldest first. -/
def contents (self : IpcQueue) : List IpcMessage :=
  window self.messages self.head self.count

@[simp] theorem length_contents (self : IpcQueue) : self.contents.length = self.count :=
  length_window _ _ _

theorem new_contents : new.contents = [] := rfl

theorem contents_eq_nil {self : IpcQueue} : self.contents = [] ↔ self.count = 0 := by
  rw [← List.length_eq_zero_iff, length_contents]

theorem send_cases (self : IpcQueue) (message : IpcMessage) :
    (self.contents.length = ipcQueueCapacity ∧ self.send message = (false, self)) ∨
    ∃ next, self.contents.length < ipcQueueCapacity ∧ self.send message = (true, next) ∧
      next.contents = self.contents ++ [message] := by
  have hle := self.count_le
  rw [length_contents]
  by_cases hfull : self.isFull
  · exact Or.inl ⟨beq_iff_eq.mp hfull, dif_pos hfull⟩
  · have hroom : self.count < ipcQueueCapacity := by
      simp only [isFull, beq_iff_eq] at hfull
      omega
    refine Or.inr ⟨_, hroom, dif_neg hfull, ?_⟩
    change window (Function.update self.messages self.tail message) self.head (self.count + 1) = _
    rw [self.tail_eq, window_push message hroom, contents]

theorem receive_cases (self : IpcQueue) :
    (self.contents = [] ∧ self.receive = (none, self)) ∨
    ∃ message next, self.receive = (some message, next) ∧
      self.contents = message :: next.contents := by
  by_cases hempty : self.isEmpty
  · exact Or.inl ⟨contents_eq_nil.mpr (beq_iff_eq.mp hempty), dif_pos hempty⟩
  · refine Or.inr ⟨_, _, dif_neg hempty, ?_⟩
    simp only [isEmpty, beq_iff_eq] at hempty
    obtain ⟨rest, hrest⟩ := Nat.exists_eq_succ_of_ne_zero hempty
    have hle := self.count_le
    change window self.messages self.head self.count = _ :: window
      (Function.update self.messages self.head IpcMessage.empty)
      (advance self.head) (self.count - 1)
    rw [hrest, Nat.succ_sub_one, window_pop IpcMessage.empty (by omega), window, List.tail_cons]

end IpcQueue

end UnboundOS.Ipc
