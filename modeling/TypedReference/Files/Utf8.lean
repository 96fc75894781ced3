/-
# Bytes and text

Files hold bytes. Reading a file as text needs valid UTF-8; where it is not, the first defect is
reported with its place and cause.
-/
import TypedReference.Text.Quoted

namespace TypedReference.Files

/-! ## Defects -/

/-- Why a run of bytes is no character. -/
inductive DefectCause where
  /-- No character starts with the byte. -/
  | badStart
  /-- A byte does not go on with the character that was begun. -/
  | badContinuation
  /-- The bytes end within a character. -/
  | cutOff
  deriving DecidableEq, Repr

/-- A run of bytes that is no character. -/
structure Defect where
  /-- The first byte of the run. -/
  byte : Nat
  /-- Its position. -/
  start : Nat
  /-- How many bytes the run has. -/
  length : Nat
  /-- What is wrong with the run. -/
  cause : DefectCause
  deriving DecidableEq, Repr

namespace Defect

/-- The words for a cause. -/
def reason (d : Defect) : String :=
  match d.cause with
  | .badStart => "invalid start byte"
  | .badContinuation => "invalid continuation byte"
  | .cutOff => "unexpected end of data"

/-- The text shown for a defect. -/
def message (d : Defect) : String :=
  "'utf-8' codec can't decode " ++
    (if d.length = 1 then
      "byte 0x" ++ String.ofList (Text.hexPadded 2 d.byte) ++ " in position " ++ toString d.start
    else
      "bytes in position " ++ toString d.start ++ "-" ++ toString (d.start + d.length - 1)) ++
    ": " ++ d.reason

end Defect

/-! ## Finding the first defect -/

/-- The ranges of the bytes that have to follow a first byte, or `none` if no character starts with
it. The narrower ranges keep out overlong forms, surrogates and numbers that are too large. -/
def continuations? (b : Nat) : Option (List (Nat × Nat)) :=
  let tail := (0x80, 0xBF)
  if b < 0x80 then some []
  else if b < 0xC2 then none
  else if b < 0xE0 then some [tail]
  else if b = 0xE0 then some [(0xA0, 0xBF), tail]
  else if b = 0xED then some [(0x80, 0x9F), tail]
  else if b < 0xF0 then some [tail, tail]
  else if b = 0xF0 then some [(0x90, 0xBF), tail, tail]
  else if b < 0xF4 then some [tail, tail, tail]
  else if b = 0xF4 then some [(0x80, 0x8F), tail, tail]
  else none

/-- A character that has been begun: its first byte, its position, how many of its bytes have been
read, and what has to follow. -/
structure Begun where
  /-- The first byte. -/
  byte : Nat
  /-- Its position. -/
  start : Nat
  /-- How many bytes have been read. -/
  count : Nat
  /-- The ranges of the bytes that have to follow. -/
  due : List (Nat × Nat)

/-- The first defect from a position on, within a character that has been begun unless nothing more
is due. -/
def firstDefect? (begun : Begun) (position : Nat) : List UInt8 → Option Defect
  | [] =>
    if begun.due.isEmpty then none
    else some ⟨begun.byte, begun.start, begun.count, .cutOff⟩
  | b :: rest =>
    match begun.due with
    | [] =>
      match continuations? b.toNat with
      | none => some ⟨b.toNat, position, 1, .badStart⟩
      | some due => firstDefect? ⟨b.toNat, position, 1, due⟩ (position + 1) rest
    | (low, high) :: due =>
      if low ≤ b.toNat && b.toNat ≤ high then
        firstDefect? { begun with count := begun.count + 1, due } (position + 1) rest
      else some ⟨begun.byte, begun.start, begun.count, .badContinuation⟩

/-- The text of some bytes, or their first defect. -/
def decode (bytes : ByteArray) : Except Defect String :=
  match String.fromUTF8? bytes with
  | some s => .ok s
  | none => .error ((firstDefect? ⟨0, 0, 0, []⟩ 0 bytes.data.toList).getD ⟨0, 0, 1, .badStart⟩)

/-! ## Line ends -/

/-- The text with every line ended by one line feed, whichever way it was ended before. -/
def plainLineEnds : List Char → List Char
  | '\r' :: '\n' :: r => '\n' :: plainLineEnds r
  | '\r' :: r => '\n' :: plainLineEnds r
  | c :: r => c :: plainLineEnds r
  | [] => []

end TypedReference.Files
