import UnboundOS.Base.Checked
import UnboundOS.Base.Outbox

/-!
COM1, as both boot stages set it up and the kernel prints to it. The code and
the transmitter of the 16550 take turns in any order. The print functions of
`kernel.rs` poll the line status before every byte, so every byte arrives, once
and in order. `idt.rs` has its own `serial_write_hex64`, which polls for the
two bytes of `0x` only: the sixteen digits then follow the `x` without a poll,
one byte more than the transmit FIFO holds.

The receive side, the modem lines and the interrupts of the device are left
out: the code only ever polls and writes.
-/

namespace UnboundOS.Devices

/-- What the code does to COM1. -/
inductive SerialOp where
  /-- `in al, 0x3FD` until bit 5 is set. -/
  | awaitEmpty
  | out (port : U16) (value : U8)
deriving DecidableEq, Repr

/-- A 16550. The outbox is its transmit FIFO, or the holding register while the
FIFO is off. -/
structure Uart where
  lcr : U8
  ier : U8
  mcr : U8
  divisorLow : U8
  divisorHigh : U8
  fifoEnabled : Bool
  transmit : Outbox U8

namespace Uart

variable {overflow : Overflow U8} {uart : Uart}

/-- Bit 7 of the line control register turns the first two ports into the
divisor. -/
def divisorAccess (self : Uart) : Bool := self.lcr.getLsbD 7

def capacity (self : Uart) : Nat := if self.fifoEnabled then 16 else 1

/-- The line status; only the bit that says the FIFO is empty is read. -/
def lineStatus (self : Uart) : U8 :=
  if self.transmit.queue = [] then 0x20#8 else 0#8

/-- Bit 0 turns the FIFO on or off, and a change clears it; bit 2 clears it too,
but only with bit 0. -/
def fifoControl (self : Uart) (value : U8) : Uart :=
  let enabled := value.getLsbD 0
  let clears := enabled != self.fifoEnabled || enabled && value.getLsbD 2
  {self with
    fifoEnabled := enabled
    transmit := if clears then {self.transmit with queue := []} else self.transmit}

def out (overflow : Overflow U8) (self : Uart) (port : U16) (value : U8) : Uart :=
  if port = 0x3F8#16 then
    if self.divisorAccess then {self with divisorLow := value}
    else {self with transmit := self.transmit.put overflow self.capacity value}
  else if port = 0x3F9#16 then
    if self.divisorAccess then {self with divisorHigh := value} else {self with ier := value}
  else if port = 0x3FA#16 then self.fifoControl value
  else if port = 0x3FB#16 then {self with lcr := value}
  else if port = 0x3FC#16 then {self with mcr := value}
  else self

/-- What `serial_init` sets: 38400 baud, eight bits without parity, FIFO on. The
interrupt enable register is not among it: if the divisor was accessible
before, both writes to it go to the divisor. -/
structure Ready (uart : Uart) : Prop where
  lcr : uart.lcr = 0x03#8
  mcr : uart.mcr = 0x0B#8
  divisorLow : uart.divisorLow = 3#8
  divisorHigh : uart.divisorHigh = 0#8
  fifoEnabled : uart.fifoEnabled = true

end Uart

/-- The code that is left to run, and the device. -/
structure Console where
  program : List SerialOp
  uart : Uart

namespace Console

def step (overflow : Overflow U8) (self : Console) : Turn → Console
  | .device => {self with uart := {self.uart with transmit := self.uart.transmit.take}}
  | .program =>
      match self.program with
      | [] => self
      | .awaitEmpty :: rest =>
          if self.uart.lineStatus &&& 0x20#8 ≠ 0#8 then {self with program := rest} else self
      | .out port value :: rest => ⟨rest, self.uart.out overflow port value⟩

def run (overflow : Overflow U8) (self : Console) (schedule : List Turn) : Console :=
  schedule.foldl (step overflow) self

end Console

/-! ### The boot stages -/

/-- `serial_init` of Stage 1 and of Stage 2. -/
def serialInit : List SerialOp :=
  [.out 0x3F9#16 0#8, .out 0x3FB#16 0x80#8, .out 0x3F8#16 0x03#8, .out 0x3F9#16 0#8,
    .out 0x3FB#16 0x03#8, .out 0x3FA#16 0xC7#8, .out 0x3FC#16 0x0B#8]

/-- Writes to the device, with the transmitter at work before each of them and
after the last. -/
def Written (overflow : Overflow U8) : List (U16 × U8) → Uart → Uart → Prop
  | [], before, after => ∃ box : Outbox U8, box.contents = before.transmit.contents ∧
      after = {before with transmit := box}
  | (port, value) :: rest, before, after => ∃ box : Outbox U8,
      box.contents = before.transmit.contents ∧
        Written overflow rest (Uart.out overflow {before with transmit := box} port value) after

theorem Written.of_take {overflow : Overflow U8} {writes : List (U16 × U8)} {before after : Uart}
    (hwritten : Written overflow writes {before with transmit := before.transmit.take} after) :
    Written overflow writes before after := by
  cases writes with
  | nil =>
      obtain ⟨box, hcontents, hafter⟩ := hwritten
      exact ⟨box, hcontents.trans (Outbox.take_contents _), hafter⟩
  | cons write rest =>
      obtain ⟨box, hcontents, hrest⟩ := hwritten
      exact ⟨box, hcontents.trans (Outbox.take_contents _), hrest⟩

theorem run_writes {overflow : Overflow U8} {writes : List (U16 × U8)} {uart : Uart}
    {schedule : List Turn}
    (hdone : (Console.run overflow ⟨writes.map fun write => .out write.1 write.2, uart⟩
      schedule).program = []) :
    Written overflow writes uart (Console.run overflow
      ⟨writes.map fun write => .out write.1 write.2, uart⟩ schedule).uart := by
  induction schedule generalizing writes uart with
  | nil =>
      cases writes with
      | nil => exact ⟨uart.transmit, rfl, rfl⟩
      | cons write rest => cases hdone
  | cons turn schedule ih =>
      cases turn with
      | device => exact Written.of_take (ih hdone)
      | program =>
          cases writes with
          | nil => exact ih hdone
          | cons write rest => exact ⟨uart.transmit, rfl, ih hdone⟩

/-- `serial_init` sets the device up whatever it was doing. What the FIFO still
held may be lost, nothing is sent. -/
theorem serialInit_ready (overflow : Overflow U8) (uart : Uart) (schedule : List Turn)
    (hdone : (Console.run overflow ⟨serialInit, uart⟩ schedule).program = []) :
    (Console.run overflow ⟨serialInit, uart⟩ schedule).uart.Ready ∧
      (Console.run overflow ⟨serialInit, uart⟩ schedule).uart.transmit.contents.Sublist
        uart.transmit.contents := by
  have hwritten : Written overflow [(0x3F9#16, 0#8), (0x3FB#16, 0x80#8), (0x3F8#16, 0x03#8),
      (0x3F9#16, 0#8), (0x3FB#16, 0x03#8), (0x3FA#16, 0xC7#8), (0x3FC#16, 0x0B#8)] uart
      (Console.run overflow ⟨serialInit, uart⟩ schedule).uart := run_writes hdone
  generalize (Console.run overflow ⟨serialInit, uart⟩ schedule).uart = final at *
  obtain ⟨box1, h1, box2, h2, box3, h3, box4, h4, box5, h5, box6, h6, box7, h7, box, h, rfl⟩ :=
    hwritten
  have hfirst : (Uart.out overflow {uart with transmit := box1} 0x3F9#16 0#8).transmit = box1 := by
    rw [Uart.out, if_neg (by decide), if_pos rfl]
    split <;> rfl
  rw [hfirst] at h2
  simp [Uart.out, Uart.divisorAccess, Uart.fifoControl] at h3 h4 h5 h6 h7 h ⊢
  have hsent : box.contents = box6.taken := by
    rw [h, h7, Outbox.contents, List.append_nil]
  have hpending : box6.contents = uart.transmit.contents := by
    rw [h6, h5, h4, h3, h2, h1]
  refine ⟨⟨rfl, rfl, rfl, rfl, rfl⟩, ?_⟩
  rw [hsent, ← hpending]
  exact List.sublist_append_left _ _

/-! ### Printing -/

/-- One instruction of the outbox library, as the code does it. -/
def toOp : Feed U8 → SerialOp
  | .wait => .awaitEmpty
  | .put byte => .out 0x3F8#16 byte

theorem lineStatus_empty (uart : Uart) :
    uart.lineStatus &&& 0x20#8 ≠ 0#8 ↔ uart.transmit.queue = [] := by
  unfold Uart.lineStatus
  split <;> simp_all

theorem Uart.Ready.out {uart : Uart} (hready : uart.Ready) (overflow : Overflow U8) (byte : U8) :
    uart.out overflow 0x3F8#16 byte =
      {uart with transmit := uart.transmit.put overflow 16 byte} := by
  have haccess : uart.divisorAccess = false := by
    rw [Uart.divisorAccess, hready.lcr]
    rfl
  have hcapacity : uart.capacity = 16 := by
    rw [Uart.capacity, hready.fifoEnabled]
    rfl
  simp [Uart.out, haccess, hcapacity]

theorem step_transmitting {uart : Uart} (hready : uart.Ready) (overflow : Overflow U8)
    (feeding : Feeding U8) (turn : Turn) :
    Console.step overflow ⟨feeding.program.map toOp, {uart with transmit := feeding.box}⟩ turn =
      ⟨(feeding.step overflow 16 turn).program.map toOp,
        {uart with transmit := (feeding.step overflow 16 turn).box}⟩ := by
  obtain ⟨program, box⟩ := feeding
  cases turn with
  | device => rfl
  | program =>
      cases program with
      | nil => rfl
      | cons feed rest =>
          cases feed with
          | wait =>
              simp only [List.map_cons, toOp, Console.step, Feeding.step, lineStatus_empty]
              split <;> rfl
          | put byte =>
              have hbox : ({uart with transmit := box} : Uart).Ready :=
                ⟨hready.lcr, hready.mcr, hready.divisorLow, hready.divisorHigh,
                  hready.fifoEnabled⟩
              simp only [List.map_cons, toOp, Console.step, Feeding.step, hbox.out]

/-- Printing is feeding the FIFO. -/
theorem run_transmitting {uart : Uart} (hready : uart.Ready) (overflow : Overflow U8)
    (feeding : Feeding U8) (schedule : List Turn) :
    Console.run overflow ⟨feeding.program.map toOp, {uart with transmit := feeding.box}⟩ schedule =
      ⟨(feeding.run overflow 16 schedule).program.map toOp,
        {uart with transmit := (feeding.run overflow 16 schedule).box}⟩ := by
  induction schedule generalizing feeding with
  | nil => rfl
  | cons turn rest ih =>
      change Console.run overflow (Console.step overflow _ turn) rest = _
      rw [step_transmitting hready]
      exact ih (feeding.step overflow 16 turn)

/-- `serial_write_char`. -/
def serialWriteChar (c : U8) : List SerialOp := [.awaitEmpty, .out 0x3F8#16 c]

def serialWriteString (s : List U8) : List SerialOp := s.flatMap serialWriteChar

def hexDigit (value : U8) : U8 :=
  if value < 10#8 then 0x30#8 + value else 0x41#8 + (value - 10#8)

def serialWriteHexDigit (value : U8) : List SerialOp := serialWriteChar (hexDigit value)

/-- `((value >> shift) & 0x0F) as u8` for `shift = 4 * index`. -/
def nibble {w : Nat} (value : BitVec w) (index : Nat) : U8 :=
  ((value >>> (4 * index)) &&& 0x0F#w).setWidth 8

/-- The loop over the digits, from `shift = 4 * index` down to 0. -/
def hexLoop {w : Nat} (write : U8 → List SerialOp) (value : BitVec w) : Nat → List SerialOp
  | 0 => write (nibble value 0)
  | index + 1 => write (nibble value (index + 1)) ++ hexLoop write value index

def serialWriteHex8 (value : U8) : List SerialOp :=
  serialWriteHexDigit (nibble value 1) ++ serialWriteHexDigit (nibble value 0)

def serialWriteHex32 (value : U32) : List SerialOp := hexLoop serialWriteHexDigit value 7

def serialWriteHex64 (value : U64) : List SerialOp := hexLoop serialWriteHexDigit value 15

def ascii (text : String) : List U8 := text.toList.map fun c => BitVec.ofNat 8 c.toNat

/-- `const HEX` of `idt.rs`. -/
def hexTable : List U8 := ascii "0123456789ABCDEF"

/-- `serial_write_hex64` of `idt.rs`. -/
def debugWriteHex64 (value : U64) : List SerialOp :=
  serialWriteString (ascii "0x") ++
    hexLoop (fun digit => [.out 0x3F8#16 (hexTable.getD digit.toNat 0#8)]) value 15

/-- One call of a print function, `debugHex64` being the one of `idt.rs`. -/
inductive Print where
  | char (c : U8)
  | string (s : List U8)
  | hex8 (value : U8)
  | hex32 (value : U32)
  | hex64 (value : U64)
  | debugHex64 (value : U64)

namespace Print

def program : Print → List SerialOp
  | char c => serialWriteChar c
  | string s => serialWriteString s
  | hex8 value => serialWriteHex8 value
  | hex32 value => serialWriteHex32 value
  | hex64 value => serialWriteHex64 value
  | debugHex64 value => debugWriteHex64 value

/-- The call polls before every byte. -/
def polls : Print → Bool
  | debugHex64 _ => false
  | _ => true

end Print

/-- `unbound_debug_iret_frame`, which every timer interrupt calls. -/
def unboundDebugIretFrame (rsp vector rip cs rflags : U64) : List Print :=
  let field (label : String) (value : U64) : List Print :=
    [.string (ascii label), .debugHex64 value, .string (ascii "\r\n")]
  field "VECTOR: " vector ++ field "RIP: " rip ++ field "CS: " cs ++ field "RFLAGS: " rflags ++
    field "RSP: " rsp ++ field "RIP: " rip ++ field "CS: " cs ++ field "RFLAGS: " rflags

/-! ### What is printed -/

/-- The digits of a value, from `shift = 4 * index` down to 0. -/
def hexText {w : Nat} (value : BitVec w) : Nat → List U8
  | 0 => [hexDigit (nibble value 0)]
  | index + 1 => hexDigit (nibble value (index + 1)) :: hexText value index

theorem length_hexText {w : Nat} (value : BitVec w) (index : Nat) :
    (hexText value index).length = index + 1 := by
  induction index with
  | zero => rfl
  | succ index ih => rw [hexText, List.length_cons, ih]

def digitValue (c : U8) : Nat :=
  if c < 0x41#8 then (c - 0x30#8).toNat else (c - 0x41#8).toNat + 10

/-- What a receiver reads in hexadecimal digits. -/
def readHex (text : List U8) : Nat :=
  text.foldl (fun value c => 16 * value + digitValue c) 0

theorem nibble_toNat {w : Nat} (hw : 4 ≤ w) (value : BitVec w) (index : Nat) :
    (nibble value index).toNat = value.toNat / 16 ^ index % 16 := by
  have hfits : 2 ^ 4 ≤ 2 ^ w := Nat.pow_le_pow_right (by decide) hw
  have hmask : (0x0F#w).toNat = 2 ^ 4 - 1 := by
    rw [BitVec.toNat_ofNat]
    exact Nat.mod_eq_of_lt (by omega)
  rw [nibble, BitVec.toNat_setWidth, BitVec.toNat_and, hmask, Nat.and_two_pow_sub_one_eq_mod,
    BitVec.toNat_ushiftRight, Nat.shiftRight_eq_div_pow, Nat.pow_mul]
  exact Nat.mod_eq_of_lt (by omega)

theorem digit_values (digit : Fin 16) :
    digitValue (hexDigit (BitVec.ofNat 8 digit)) = digit ∧
      hexTable.getD digit 0#8 = hexDigit (BitVec.ofNat 8 digit) := by
  revert digit
  decide

theorem digitValue_nibble {w : Nat} (hw : 4 ≤ w) (value : BitVec w) (index : Nat) :
    digitValue (hexDigit (nibble value index)) = value.toNat / 16 ^ index % 16 ∧
      hexTable.getD (nibble value index).toNat 0#8 = hexDigit (nibble value index) := by
  have hvalue := nibble_toNat hw value index
  have hdigit : (nibble value index).toNat < 16 := by
    rw [hvalue]
    exact Nat.mod_lt _ (by decide)
  obtain ⟨hread, htable⟩ := digit_values ⟨(nibble value index).toNat, hdigit⟩
  simp only [BitVec.ofNat_toNat, BitVec.setWidth_eq] at hread htable
  exact ⟨hread.trans hvalue, htable⟩

theorem foldl_hexText {w : Nat} (hw : 4 ≤ w) (value : BitVec w) (index start : Nat) :
    (hexText value index).foldl (fun value c => 16 * value + digitValue c) start =
      start * 16 ^ (index + 1) + value.toNat % 16 ^ (index + 1) := by
  induction index generalizing start with
  | zero =>
      simp only [hexText, List.foldl_cons, List.foldl_nil, (digitValue_nibble hw value _).1]
      simp [Nat.mul_comm]
  | succ index ih =>
      rw [hexText, List.foldl_cons, ih, (digitValue_nibble hw value _).1,
        Nat.mod_pow_succ (k := index + 1)]
      ring

/-- The digits read back as the value. -/
theorem readHex_hexText {w : Nat} (hw : 4 ≤ w) (value : BitVec w) {index : Nat}
    (hindex : 4 * (index + 1) = w) : readHex (hexText value index) = value.toNat := by
  have hvalue : value.toNat < 16 ^ (index + 1) := by
    have hpow : 16 ^ (index + 1) = 2 ^ w := by rw [← hindex, Nat.pow_mul]
    rw [hpow]
    exact value.isLt
  rw [readHex, foldl_hexText hw, Nat.mod_eq_of_lt hvalue, Nat.zero_mul, Nat.zero_add]

/-- Bytes with a poll before each. -/
def polled (bytes : List U8) : List (Feed U8) :=
  bytes.flatMap fun byte => [.wait, .put byte]

theorem items_polled (bytes : List U8) : Feed.items (polled bytes) = bytes := by
  induction bytes with
  | nil => rfl
  | cons byte rest ih =>
      change byte :: Feed.items (polled rest) = _
      rw [ih]

theorem polite_polled (bytes : List U8) : Feed.Polite (polled bytes) := by
  cases bytes <;> trivial

theorem overrun_polled (bytes : List U8) (room : Nat) :
    Feed.overrun 16 room (polled bytes) = 0 := by
  rw [(polite_polled bytes).overrun_eq]
  induction bytes with
  | nil => rfl
  | cons byte rest ih => exact ((polite_polled rest).overrun_eq 16 15).trans ih

theorem serialWriteString_eq (s : List U8) : serialWriteString s = (polled s).map toOp := by
  rw [serialWriteString, polled, List.map_flatMap]
  rfl

theorem hexLoop_polled {w : Nat} (value : BitVec w) (index : Nat) :
    hexLoop serialWriteHexDigit value index = (polled (hexText value index)).map toOp := by
  induction index with
  | zero => rfl
  | succ index ih =>
      rw [hexLoop, ih]
      rfl

theorem hexLoop_unpolled {w : Nat} (hw : 4 ≤ w) (value : BitVec w) (index : Nat) :
    hexLoop (fun digit => [.out 0x3F8#16 (hexTable.getD digit.toNat 0#8)]) value index =
      ((hexText value index).map Feed.put).map toOp := by
  induction index with
  | zero => simp only [hexLoop, hexText, (digitValue_nibble hw value _).2, List.map_cons,
      List.map_nil, toOp]
  | succ index ih =>
      simp only [hexLoop, hexText, ih, (digitValue_nibble hw value _).2, List.map_cons, toOp,
        List.singleton_append]

namespace Print

def text : Print → List U8
  | char c => [c]
  | string s => s
  | hex8 value => hexText value 1
  | hex32 value => hexText value 7
  | hex64 value => hexText value 15
  | debugHex64 value => ascii "0x" ++ hexText value 15

def feeds : Print → List (Feed U8)
  | debugHex64 value => polled (ascii "0x") ++ (hexText value 15).map .put
  | print => polled print.text

theorem program_eq (print : Print) : print.program = print.feeds.map toOp := by
  cases print with
  | char c => rfl
  | string s => exact serialWriteString_eq s
  | hex8 value => rfl
  | hex32 value => exact hexLoop_polled value 7
  | hex64 value => exact hexLoop_polled value 15
  | debugHex64 value =>
      rw [program, debugWriteHex64, serialWriteString_eq, hexLoop_unpolled (by decide), feeds,
        List.map_append]

theorem items_feeds (print : Print) : Feed.items print.feeds = print.text := by
  cases print with
  | debugHex64 value =>
      rw [feeds, text, Feed.items_append, items_polled, Feed.items_map_put]
  | _ => exact items_polled _

theorem polite_feeds (print : Print) : Feed.Polite print.feeds := by
  cases print with
  | debugHex64 value => trivial
  | _ => exact polite_polled _

/-- Only the digits without a poll are exposed, and one of them. -/
theorem overrun_feeds (print : Print) :
    Feed.overrun 16 16 print.feeds = if print.polls then 0 else 1 := by
  cases print with
  | debugHex64 value =>
      change Feed.overrun 16 15 ((hexText value 15).map Feed.put) = 1
      rw [Feed.overrun_map_put, length_hexText]
  | _ => exact overrun_polled _ 16

end Print

/-- The bytes the code has still to write. -/
def Console.outstanding (self : Console) : List U8 :=
  self.program.filterMap fun
    | .awaitEmpty => none
    | .out port value => if port = 0x3F8#16 then some value else none

theorem outstanding_map (program : List (Feed U8)) (uart : Uart) :
    Console.outstanding ⟨program.map toOp, uart⟩ = Feed.items program := by
  rw [Console.outstanding, List.filterMap_map, Feed.items]
  congr 1
  funext feed
  cases feed <;> rfl

/-- The calls that do not poll. -/
def unpolled (prints : List Print) : Nat := prints.countP fun print => !print.polls

theorem flatMap_feeds (prints : List Print) :
    prints.flatMap Print.program = (prints.flatMap Print.feeds).map toOp ∧
      Feed.items (prints.flatMap Print.feeds) = prints.flatMap Print.text ∧
      Feed.Polite (prints.flatMap Print.feeds) ∧
      Feed.overrun 16 16 (prints.flatMap Print.feeds) = unpolled prints := by
  induction prints with
  | nil => exact ⟨rfl, rfl, trivial, rfl⟩
  | cons print rest ih =>
      obtain ⟨hprogram, hitems, hpolite, hoverrun⟩ := ih
      simp only [List.flatMap_cons]
      refine ⟨?_, ?_, print.polite_feeds.append hpolite, ?_⟩
      · rw [hprogram, print.program_eq, List.map_append]
      · rw [Feed.items_append, hitems, print.items_feeds]
      · rw [Feed.overrun_append hpolite, hoverrun, print.overrun_feeds, unpolled, unpolled,
          List.countP_cons, Nat.add_comm]
        cases print.polls <;> rfl

/-- The kernel in front of a row of print calls. -/
def printing (prints : List Print) (uart : Uart) : Console :=
  ⟨prints.flatMap Print.program, uart⟩

/-- The same row for the outbox. -/
def feeding (prints : List Print) (uart : Uart) : Feeding U8 :=
  ⟨prints.flatMap Print.feeds, uart.transmit⟩

theorem message_feeding (prints : List Print) (uart : Uart) :
    (feeding prints uart).message = uart.transmit.contents ++ prints.flatMap Print.text := by
  rw [Feeding.message, feeding, (flatMap_feeds prints).2.1]

theorem exposed_feeding (prints : List Print) (uart : Uart) :
    (feeding prints uart).exposed 16 = unpolled prints := by
  obtain ⟨_, _, hpolite, hoverrun⟩ := flatMap_feeds prints
  exact (hpolite.overrun_eq 16 _).trans hoverrun

theorem run_printing {uart : Uart} (hready : uart.Ready) (overflow : Overflow U8)
    (prints : List Print) (schedule : List Turn) :
    (printing prints uart).run overflow schedule =
      ⟨((feeding prints uart).run overflow 16 schedule).program.map toOp,
        {uart with transmit := ((feeding prints uart).run overflow 16 schedule).box}⟩ := by
  rw [printing, (flatMap_feeds prints).1]
  exact run_transmitting hready overflow (feeding prints uart) schedule

/-- What has been sent and what is still to be sent, in the terms of the outbox. -/
theorem run_printing_message {uart : Uart} (hready : uart.Ready) (overflow : Overflow U8)
    (prints : List Print) (schedule : List Turn) :
    ((printing prints uart).run overflow schedule).uart.transmit.contents ++
        ((printing prints uart).run overflow schedule).outstanding =
      ((feeding prints uart).run overflow 16 schedule).message := by
  rw [run_printing hready, outstanding_map]
  rfl

/-- Printing by polling. `serial_init` gets any device ready, at the cost of bytes
that were waiting in it. From then on, however the code and the transmitter take
turns, what has been sent and what is still to be written make up the text: no
byte is lost, doubled or out of order. Any schedule that lets both of them move
often enough puts the whole text on the line, and the digits of a value read
back as that value. -/
theorem serial_output_exact (overflow : Overflow U8) (uart : Uart) (hready : uart.Ready)
    (prints : List Print) (hpolls : ∀ print ∈ prints, print.polls = true) :
    (∀ before boot, (Console.run overflow ⟨serialInit, before⟩ boot).program = [] →
      (Console.run overflow ⟨serialInit, before⟩ boot).uart.Ready ∧
        (Console.run overflow ⟨serialInit, before⟩ boot).uart.transmit.contents.Sublist
          before.transmit.contents) ∧
    (∀ schedule, ((printing prints uart).run overflow schedule).uart.transmit.contents ++
        ((printing prints uart).run overflow schedule).outstanding =
      uart.transmit.contents ++ prints.flatMap Print.text) ∧
    (∀ stretches : List (List Turn),
      (∀ stretch ∈ stretches, Turn.device ∈ stretch ∧ Turn.program ∈ stretch) →
      2 * (prints.flatMap Print.program).length + uart.transmit.queue.length ≤ stretches.length →
      ((printing prints uart).run overflow stretches.flatten).program = [] ∧
        ((printing prints uart).run overflow stretches.flatten).uart.transmit.taken =
          uart.transmit.contents ++ prints.flatMap Print.text) ∧
    ∀ value : U64, readHex (Print.hex64 value).text = value.toNat := by
  have hcount : unpolled prints = 0 := by
    rw [unpolled, List.countP_eq_zero]
    intro print hmem
    rw [hpolls print hmem]
    decide
  have hexact (schedule : List Turn) :
      ((feeding prints uart).run overflow 16 schedule).message =
        uart.transmit.contents ++ prints.flatMap Print.text := by
    rw [Feeding.run_exact ((exposed_feeding prints uart).trans hcount), message_feeding]
  refine ⟨serialInit_ready overflow,
    fun schedule => (run_printing_message hready overflow prints schedule).trans (hexact schedule),
    fun stretches hfair hlong => ?_,
    fun value => readHex_hexText (by decide) value (by decide)⟩
  have hwork : (feeding prints uart).work ≤ stretches.length := by
    rwa [(flatMap_feeds prints).1, List.length_map] at hlong
  obtain ⟨hprogram, hqueue⟩ := Feeding.run_finishes overflow 16 hfair hwork
  have hmessage := hexact stretches.flatten
  rw [Feeding.message, Outbox.contents, hprogram, hqueue] at hmessage
  rw [run_printing hready, hprogram]
  refine ⟨rfl, ?_⟩
  simpa using hmessage

/-- A device after a reset, set up by `serial_init`. -/
def sampleUart : Uart :=
  (Console.run Overflow.newest ⟨serialInit, ⟨0#8, 0#8, 0#8, 0#8, 0#8, false, ⟨[], []⟩⟩⟩
    (List.replicate 7 .program)).uart

theorem sampleUart_ready : sampleUart.Ready :=
  (serialInit_ready Overflow.newest _ (List.replicate 7 .program) rfl).1

/-- `serial_write_hex8(0xA5)` on it, the code and the transmitter in turn. -/
theorem serial_output_exact_hex8 :
    ((printing [.hex8 0xA5#8] sampleUart).run Overflow.newest
      (List.replicate 8 [Turn.program, Turn.device]).flatten).uart.transmit.taken = ascii "A5" := by
  obtain ⟨_, _, hfair, _⟩ := serial_output_exact Overflow.newest sampleUart sampleUart_ready
    [.hex8 0xA5#8] (by decide)
  obtain ⟨_, hline⟩ := hfair (List.replicate 8 [.program, .device]) (by decide) (by decide)
  exact hline.trans (by decide)

/-- Printing without a poll. Whatever calls are made, at most one byte is lost for
each `serial_write_hex64` of `idt.rs` and the others arrive in order; and a
transmitter that is slow enough does lose one byte for each. A timer interrupt
makes eight of these calls, whatever its frame holds. -/
theorem debug_output_overruns (overflow : Overflow U8) (uart : Uart) (hready : uart.Ready)
    (prints : List Print) :
    (∀ schedule, (((printing prints uart).run overflow schedule).uart.transmit.contents ++
          ((printing prints uart).run overflow schedule).outstanding).Sublist
        (uart.transmit.contents ++ prints.flatMap Print.text) ∧
      (uart.transmit.contents ++ prints.flatMap Print.text).length ≤
        (((printing prints uart).run overflow schedule).uart.transmit.contents ++
          ((printing prints uart).run overflow schedule).outstanding).length + unpolled prints) ∧
    (∃ schedule, ((printing prints uart).run overflow schedule).program = [] ∧
      ((printing prints uart).run overflow schedule).uart.transmit.contents.length +
        unpolled prints = (uart.transmit.contents ++ prints.flatMap Print.text).length) ∧
    ∀ rsp vector rip cs rflags, unpolled (unboundDebugIretFrame rsp vector rip cs rflags) = 8 := by
  have hexposed := exposed_feeding prints uart
  have hmessage := message_feeding prints uart
  refine ⟨?_, ?_, fun _ _ _ _ _ => rfl⟩
  · intro schedule
    have hloses := Feeding.run_loses overflow 16 (feeding prints uart) schedule
    rw [run_printing_message hready, ← hmessage]
    refine ⟨hloses.sublist, ?_⟩
    have hbound := hloses.bound
    omega
  · obtain ⟨after, ⟨schedule, hschedule⟩, hlost⟩ :=
      Feeding.exists_worst overflow 16 (prints.flatMap Print.feeds) uart.transmit
    have hrun := hschedule []
    rw [List.append_nil] at hrun
    refine ⟨schedule, ?_, ?_⟩
    · rw [run_printing hready, feeding, hrun]
      rfl
    · rw [run_printing hready, feeding, hrun, ← hmessage, ← hexposed]
      exact hlost

/-- Every timer interrupt prints eight values in that way. -/
theorem debug_output_overruns_frame :
    ∃ schedule, ((printing (unboundDebugIretFrame 0#64 32#64 0#64 8#64 2#64) sampleUart).run
        Overflow.newest schedule).uart.transmit.contents.length + 8 = 207 := by
  obtain ⟨_, ⟨schedule, _, hlost⟩, _⟩ := debug_output_overruns Overflow.newest sampleUart
    sampleUart_ready (unboundDebugIretFrame 0#64 32#64 0#64 8#64 2#64)
  exact ⟨schedule, hlost⟩

end UnboundOS.Devices
