import SmartQuotes.Text.Basic

/-!
# UTF-8

A text is read from bytes strictly. The first bytes that rule out a text are reported: a byte that
starts no character, the beginning of a character that is not continued, or one that the end cuts
off. It is written character by character.
-/

namespace SmartQuotes.Utf8

/-- Why bytes are no text. -/
inductive Cause
  | badStart
  | badContinuation
  | cutOff
deriving DecidableEq, Repr

/-- The bytes from `start` up to `stop`, the first of which is `first`, are no character. -/
structure Fault where
  cause : Cause
  start : Nat
  stop : Nat
  first : Nat
deriving DecidableEq, Repr

namespace Fault

def reason : Cause → String
  | .badStart => "invalid start byte"
  | .badContinuation => "invalid continuation byte"
  | .cutOff => "unexpected end of data"

/-- A byte as two hexadecimal digits. -/
def hexByte (n : Nat) : String :=
  String.ofList ((if n < 16 then ['0'] else []) ++ Nat.toDigits 16 n)

def message (f : Fault) : String :=
  let place :=
    if f.stop = f.start + 1 then s!"byte 0x{hexByte f.first} in position {f.start}"
    else s!"bytes in position {f.start}-{f.stop - 1}"
  s!"'utf-8' codec can't decode {place}: {reason f.cause}"

end Fault

/-- The number of bytes that follow a first byte, and the range of the next one. -/
def follow? (n : Nat) : Option (Nat × Nat × Nat) :=
  if n < 0x80 then some (0, 0, 0)
  else if n < 0xc2 then none
  else if n < 0xe0 then some (1, 0x80, 0xbf)
  else if n = 0xe0 then some (2, 0xa0, 0xbf)
  else if n = 0xed then some (2, 0x80, 0x9f)
  else if n < 0xf0 then some (2, 0x80, 0xbf)
  else if n = 0xf0 then some (3, 0x90, 0xbf)
  else if n < 0xf4 then some (3, 0x80, 0xbf)
  else if n = 0xf4 then some (3, 0x80, 0x8f)
  else none

/-- The value bits of a first byte in front of so many others. -/
def leadBits (n count : Nat) : Nat :=
  match count with
  | 0 => n
  | 1 => n - 0xc0
  | 2 => n - 0xe0
  | _ => n - 0xf0

/-- Read `count` more bytes of a character whose bits so far are given; the next byte lies between
`low` and `high`. `read` bytes have been read. -/
def continue_ (count low high bits read : Nat) (bytes : List UInt8) :
    Except (Cause × Nat) (Nat × { r : List UInt8 // r.length ≤ bytes.length }) :=
  match count, bytes with
  | 0, bytes => .ok (bits, ⟨bytes, Nat.le_refl _⟩)
  | _ + 1, [] => .error (.cutOff, read)
  | count + 1, b :: rest =>
    if low ≤ b.toNat && b.toNat ≤ high then
      match continue_ count 0x80 0xbf (bits * 64 + (b.toNat - 0x80)) (read + 1) rest with
      | .error e => .error e
      | .ok (bits, ⟨r, h⟩) => .ok (bits, ⟨r, by simp; omega⟩)
    else .error (.badContinuation, read)

/-- The text of bytes that start at the given position. -/
def decodeFrom (position : Nat) (bytes : List UInt8) : Except Fault Text :=
  match bytes with
  | [] => .ok []
  | b :: rest =>
    match follow? b.toNat with
    | none => .error ⟨.badStart, position, position + 1, b.toNat⟩
    | some (count, low, high) =>
      match continue_ count low high (leadBits b.toNat count) 1 rest with
      | .error (cause, read) => .error ⟨cause, position, position + read, b.toNat⟩
      | .ok (bits, ⟨r, _⟩) =>
        match decodeFrom (position + count + 1) r with
        | .error f => .error f
        | .ok t => .ok (Char.ofNat bits :: t)
termination_by bytes.length
decreasing_by simp; omega

/-- The text of some bytes. -/
def decode (bytes : List UInt8) : Except Fault Text := decodeFrom 0 bytes

/-- The bytes of a text. -/
def encode (t : Text) : List UInt8 := t.flatMap String.utf8EncodeChar

end SmartQuotes.Utf8
