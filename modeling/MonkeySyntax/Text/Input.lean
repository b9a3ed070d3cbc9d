import MonkeySyntax.Text.Quoted

/-!
# Text from files and standard input

Three line ends are known where text is read: line feed, carriage return, and both in that order.
Bytes are decoded strictly, up to the first malformed sequence.
-/

set_option autoImplicit false

namespace MonkeySyntax.Text

/-! ## Lines -/

/-- Turns every carriage return, with the line feed behind it if there is one, into a line feed. -/
def unifyLineEnds : List Char → List Char
  | [] => []
  | '\r' :: '\n' :: rest => '\n' :: unifyLineEnds rest
  | c :: rest => (if c = '\r' then '\n' else c) :: unifyLineEnds rest

/-- The lines of a text, each with the line feed that ends it; only the last may lack one, and no
line is empty. -/
def splitLines : List Char → List (List Char)
  | [] => []
  | c :: rest =>
    if c = '\n' then [c] :: splitLines rest
    else
      match splitLines rest with
      | [] => [[c]]
      | line :: lines => (c :: line) :: lines

def isLineEnd (c : Char) : Bool :=
  c == '\r' || c == '\n'

def trimLineEnds (text : List Char) : List Char :=
  (text.reverse.dropWhile isLineEnd).reverse

/-! ## UTF-8 -/

namespace Utf8

def encode (text : List Char) : List UInt8 :=
  text.flatMap String.utf8EncodeChar

inductive Reason
  | invalidStart
  | truncated
  /-- A byte that cannot follow those before it. -/
  | invalidContinuation
deriving DecidableEq, Repr

def Reason.text : Reason → String
  | .invalidStart => "invalid start byte"
  | .truncated => "unexpected end of data"
  | .invalidContinuation => "invalid continuation byte"

/-- A malformed sequence: its offset, its bytes up to the first one that does not fit, and what is
wrong. -/
structure Malformed where
  position : Nat
  bytes : List UInt8
  reason : Reason
deriving DecidableEq, Repr

def Malformed.message (fault : Malformed) : String :=
  match fault.bytes with
  | [byte] =>
    let digits := String.ofList (hexDigits 2 byte.toNat)
    s!"'utf-8' codec can't decode byte 0x{digits} in position {fault.position}: " ++
      fault.reason.text
  | bytes =>
    let last := fault.position + bytes.length - 1
    s!"'utf-8' codec can't decode bytes in position {fault.position}-{last}: " ++
      fault.reason.text

/-- What the front of a byte sequence holds: a character of so many bytes with the bytes behind
it, or a fault that covers so many bytes. -/
inductive Front
  | char (c : Char) (length : Nat) (rest : List UInt8)
  | fault (length : Nat) (reason : Reason)

def tail : Nat × Nat :=
  (0x80, 0xBF)

/-- What a first byte adds to the code point, and the ranges of the bytes that must follow. -/
def lead? (byte : Nat) : Option (Nat × List (Nat × Nat)) :=
  if byte < 0x80 then some (byte, [])
  else if byte < 0xC2 then none
  else if byte < 0xE0 then some (byte - 0xC0, [tail])
  else if byte = 0xE0 then some (0, [(0xA0, 0xBF), tail])
  else if byte = 0xED then some (0xD, [(0x80, 0x9F), tail])
  else if byte < 0xF0 then some (byte - 0xE0, [tail, tail])
  else if byte = 0xF0 then some (0, [(0x90, 0xBF), tail, tail])
  else if byte < 0xF4 then some (byte - 0xF0, [tail, tail, tail])
  else if byte = 0xF4 then some (4, [(0x80, 0x8F), tail, tail])
  else none

def follow (value length : Nat) : List (Nat × Nat) → List UInt8 → Front
  | [], bytes => .char (Char.ofNat value) length bytes
  | _ :: _, [] => .fault length .truncated
  | (low, high) :: ranges, byte :: bytes =>
    if low ≤ byte.toNat ∧ byte.toNat ≤ high then
      follow (value * 64 + (byte.toNat - 0x80)) (length + 1) ranges bytes
    else .fault length .invalidContinuation

def front (first : UInt8) (bytes : List UInt8) : Front :=
  match lead? first.toNat with
  | none => .fault 1 .invalidStart
  | some (value, ranges) => follow value 1 ranges bytes

theorem length_le_of_follow {value length : Nat} {ranges : List (Nat × Nat)}
    {bytes rest : List UInt8} {c : Char} {total : Nat}
    (read : follow value length ranges bytes = .char c total rest) :
    rest.length ≤ bytes.length := by
  induction ranges generalizing value length bytes with
  | nil =>
    simp only [follow, Front.char.injEq] at read
    exact Nat.le_of_eq (congrArg List.length read.2.2.symm)
  | cons range ranges ih =>
    cases bytes with
    | nil => simp [follow] at read
    | cons byte bytes =>
      simp only [follow] at read
      split at read
      · have shorter := ih read
        simp only [List.length_cons]
        omega
      · simp at read

theorem length_le_of_front {first : UInt8} {bytes rest : List UInt8} {c : Char} {total : Nat}
    (read : front first bytes = .char c total rest) : rest.length ≤ bytes.length := by
  unfold front at read
  split at read
  · simp at read
  · exact length_le_of_follow read

structure Decoded where
  chars : List Char
  fault? : Option Malformed
deriving DecidableEq, Repr

def decodeFrom (position : Nat) : List UInt8 → Decoded
  | [] => ⟨[], none⟩
  | first :: bytes =>
    match _ : front first bytes with
    | .fault length reason => ⟨[], some ⟨position, (first :: bytes).take length, reason⟩⟩
    | .char c length rest =>
      let decoded := decodeFrom (position + length) rest
      ⟨c :: decoded.chars, decoded.fault?⟩
termination_by bytes => bytes.length
decreasing_by exact Nat.lt_succ_of_le (length_le_of_front (by assumption))

def decode (bytes : List UInt8) : Decoded :=
  decodeFrom 0 bytes

end Utf8

end MonkeySyntax.Text
