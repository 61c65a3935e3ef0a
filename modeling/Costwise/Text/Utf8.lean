/-!
# UTF-8

Files hold bytes and the analysis reads characters. Two readings are needed:
the strict one, which refuses a text with its first fault, and the lenient
one, which puts one replacement character for each faulty part. Both come from
one reader of a single character, so they agree on what a fault is and how far
it reaches: a faulty part is the longest run of bytes that begins like a
character.

The reader looks at the first byte for the length and for the range of the
second byte, which is where overlong forms, surrogates and code points beyond
the last plane are excluded.

## Main definitions

* `encode`: The bytes of a text.
* `Fault`: What is wrong with some bytes.
* `readChar`: One character, or the fault that the bytes begin with.
* `FaultAt.message`: What is said about a fault.
* `decode`: The strict reading, with the place of the first fault.
* `decodeLossy`: The lenient reading.
-/

namespace Costwise

namespace Text

namespace Utf8

/-- What is wrong with a run of bytes. -/
inductive Fault where
  /-- No character begins with this byte. -/
  | badStart
  /-- A character began, and a byte came that cannot continue it. -/
  | badContinuation
  /-- A character began, and the bytes ended. -/
  | truncated
  deriving DecidableEq, Repr

/-- The bytes of a text. -/
def encode (text : String) : List UInt8 :=
  text.toUTF8.toList

/-- How a character goes on after its first byte: the payload so far, the range
    of the next byte, and how many bytes are to come. -/
structure Lead where
  /-- The bits that the first byte holds. -/
  payload : Nat
  /-- The least second byte. -/
  low : Nat
  /-- The greatest second byte. -/
  high : Nat
  /-- The number of bytes after the first. -/
  more : Nat

/-- Reads a first byte beyond ASCII. -/
def lead? (b : UInt8) : Option Lead :=
  let n := b.toNat
  if 0xC2 ≤ n ∧ n ≤ 0xDF then some ⟨n - 0xC0, 0x80, 0xBF, 1⟩
  else if n = 0xE0 then some ⟨0, 0xA0, 0xBF, 2⟩
  else if n = 0xED then some ⟨0xD, 0x80, 0x9F, 2⟩
  else if 0xE1 ≤ n ∧ n ≤ 0xEF then some ⟨n - 0xE0, 0x80, 0xBF, 2⟩
  else if n = 0xF0 then some ⟨0, 0x90, 0xBF, 3⟩
  else if n = 0xF4 then some ⟨4, 0x80, 0x8F, 3⟩
  else if 0xF1 ≤ n ∧ n ≤ 0xF3 then some ⟨n - 0xF0, 0x80, 0xBF, 3⟩
  else none

/-- Reads the bytes after the first. Gives the code point and the number of
    bytes read, or the fault and the number of bytes that belong to it. -/
def readRest (payload low high : Nat) (more read : Nat) :
    List UInt8 → Except (Fault × Nat) (Nat × Nat)
  | [] => if more = 0 then .ok (payload, read) else .error (.truncated, read)
  | b :: rest =>
    match more with
    | 0 => .ok (payload, read)
    | more + 1 =>
      if low ≤ b.toNat ∧ b.toNat ≤ high then
        readRest (payload * 64 + b.toNat % 64) 0x80 0xBF more (read + 1) rest
      else .error (.badContinuation, read)

/-- Reads one character: the character and its number of bytes, or the fault and
    the number of bytes that belong to it. -/
def readChar (first : UInt8) (rest : List UInt8) : Except (Fault × Nat) (Char × Nat) :=
  if first.toNat < 0x80 then .ok (Char.ofNat first.toNat, 1)
  else
    match lead? first with
    | none => .error (.badStart, 1)
    | some lead =>
      (readRest lead.payload lead.low lead.high lead.more 1 rest).map fun (code, read) =>
        (Char.ofNat code, read)

/-- A fault and where it is: the position of its first byte, the byte itself and
    the number of bytes that belong to it. -/
structure FaultAt where
  /-- What is wrong. -/
  fault : Fault
  /-- The position of the first faulty byte. -/
  position : Nat
  /-- The first faulty byte. -/
  byte : UInt8
  /-- The number of faulty bytes. -/
  length : Nat
  deriving DecidableEq, Repr

/-- What is said about a fault. -/
def Fault.words : Fault → String
  | badStart => "invalid start byte"
  | badContinuation => "invalid continuation byte"
  | truncated => "unexpected end of data"

/-- A byte in hexadecimal. -/
def hexByte (b : UInt8) : String :=
  String.ofList [Nat.digitChar (b.toNat / 16), Nat.digitChar (b.toNat % 16)]

/-- What is said about a fault and its place: the byte, or the range of bytes. -/
def FaultAt.message (error : FaultAt) : String :=
  let place :=
    if error.length = 1 then s!"byte 0x{hexByte error.byte} in position {error.position}"
    else s!"bytes in position {error.position}-{error.position + error.length - 1}"
  s!"'utf-8' codec can't decode {place}: {error.fault.words}"

/-- The strict reading from a position on, the characters so far in reverse. -/
def decodeFrom (position : Nat) (text : List Char) : List UInt8 → Except FaultAt (List Char)
  | [] => .ok text.reverse
  | b :: rest =>
    match readChar b rest with
    | .error (fault, length) => .error ⟨fault, position, b, length⟩
    | .ok (c, length) => decodeFrom (position + length) (c :: text) (rest.drop (length - 1))
termination_by bytes => bytes.length
decreasing_by simp only [List.length_drop, List.length_cons]; omega

/-- The strict reading: the text, or the first fault. -/
def decode (bytes : List UInt8) : Except FaultAt (List Char) :=
  decodeFrom 0 [] bytes

/-- The lenient reading: each faulty part becomes one replacement character. -/
def decodeLossy : List UInt8 → List Char
  | [] => []
  | b :: rest =>
    match readChar b rest with
    | .error (_, length) => Char.ofNat 0xFFFD :: decodeLossy (rest.drop (length - 1))
    | .ok (c, length) => c :: decodeLossy (rest.drop (length - 1))
termination_by bytes => bytes.length
decreasing_by all_goals simp only [List.length_drop, List.length_cons]; omega

end Utf8

end Text

end Costwise
