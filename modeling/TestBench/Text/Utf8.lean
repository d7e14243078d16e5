/-
# UTF-8

The encoding of text as bytes, and three ways to read bytes back.

| function | rule |
| --- | --- |
| `Utf8.encode` | one to four bytes per character |
| `Utf8.decodeInitial` | the text of the longest well-formed beginning, and what is left |
| `Utf8.decode?` | the text of bytes that are well-formed throughout, else how far they are |
| `Utf8.decodeLossy` | as much as can be read, a replacement character for each malformed part |

A well-formed character starts with a byte that announces one to four bytes in all; its second byte
may be restricted further, so that every character has one encoding and surrogates have none:

| first byte | second byte | bytes |
| --- | --- | ---: |
| `00`–`7F` | | 1 |
| `C2`–`DF` | `80`–`BF` | 2 |
| `E0` | `A0`–`BF` | 3 |
| `E1`–`EC`, `EE`, `EF` | `80`–`BF` | 3 |
| `ED` | `80`–`9F` | 3 |
| `F0` | `90`–`BF` | 4 |
| `F1`–`F3` | `80`–`BF` | 4 |
| `F4` | `80`–`8F` | 4 |
-/

import TestBench.Text.Basic

namespace TestBench
namespace Utf8

/-- The bytes of one character. -/
def encodeChar (c : Char) : Bytes :=
  let n := c.toNat
  if n < 0x80 then [UInt8.ofNat n]
  else if n < 0x800 then [UInt8.ofNat (0xC0 + n / 64), UInt8.ofNat (0x80 + n % 64)]
  else if n < 0x10000 then
    [UInt8.ofNat (0xE0 + n / 4096), UInt8.ofNat (0x80 + n / 64 % 64), UInt8.ofNat (0x80 + n % 64)]
  else
    [UInt8.ofNat (0xF0 + n / 262144), UInt8.ofNat (0x80 + n / 4096 % 64),
      UInt8.ofNat (0x80 + n / 64 % 64), UInt8.ofNat (0x80 + n % 64)]

/-- The bytes of a text. -/
def encode (text : Text) : Bytes := text.flatMap encodeChar

@[simp] theorem encode_nil : encode [] = [] := rfl

@[simp] theorem encode_cons (c : Char) (s : Text) : encode (c :: s) = encodeChar c ++ encode s := rfl

@[simp] theorem encode_append (s t : Text) : encode (s ++ t) = encode s ++ encode t := by
  simp [encode]

/-- A byte that continues a character. -/
def isContinuation (b : UInt8) : Bool := 0x80 ≤ b && b ≤ 0xBF

/-- The number of bytes that a first byte announces. -/
def announcedLength? (a : UInt8) : Option Nat :=
  if a < 0x80 then some 1
  else if 0xC2 ≤ a && a ≤ 0xDF then some 2
  else if 0xE0 ≤ a && a ≤ 0xEF then some 3
  else if 0xF0 ≤ a && a ≤ 0xF4 then some 4
  else none

/-- The second byte `b` may follow the first byte `a` of a character of several bytes. -/
def isSecond (a b : UInt8) : Bool :=
  if a = 0xE0 then 0xA0 ≤ b && b ≤ 0xBF
  else if a = 0xED then 0x80 ≤ b && b ≤ 0x9F
  else if a = 0xF0 then 0x90 ≤ b && b ≤ 0xBF
  else if a = 0xF4 then 0x80 ≤ b && b ≤ 0x8F
  else isContinuation b

/-- The character of a well-formed pair. -/
def pair? (a b : UInt8) : Option Char :=
  if announcedLength? a = some 2 ∧ isContinuation b then
    some (Char.ofNat ((a.toNat - 0xC0) * 64 + (b.toNat - 0x80)))
  else none

/-- The character of a well-formed triple. -/
def triple? (a b c : UInt8) : Option Char :=
  if announcedLength? a = some 3 ∧ isSecond a b ∧ isContinuation c then
    some (Char.ofNat ((a.toNat - 0xE0) * 4096 + (b.toNat - 0x80) * 64 + (c.toNat - 0x80)))
  else none

/-- The character of a well-formed quadruple. -/
def quadruple? (a b c d : UInt8) : Option Char :=
  if announcedLength? a = some 4 ∧ isSecond a b ∧ isContinuation c ∧ isContinuation d then
    some (Char.ofNat ((a.toNat - 0xF0) * 262144 + (b.toNat - 0x80) * 4096 + (c.toNat - 0x80) * 64
      + (d.toNat - 0x80)))
  else none

/-- The text of the longest beginning of the bytes that is a sequence of whole, well-formed
characters, and the bytes after it. -/
def decodeInitial : Bytes → Text × Bytes
  | [] => ([], [])
  | a :: r₁ =>
    if a < 0x80 then
      let (text, rest) := decodeInitial r₁
      (Char.ofNat a.toNat :: text, rest)
    else match r₁ with
      | [] => ([], [a])
      | b :: r₂ => match pair? a b with
        | some ch => let (text, rest) := decodeInitial r₂; (ch :: text, rest)
        | none => match r₂ with
          | [] => ([], [a, b])
          | c :: r₃ => match triple? a b c with
            | some ch => let (text, rest) := decodeInitial r₃; (ch :: text, rest)
            | none => match r₃ with
              | [] => ([], [a, b, c])
              | d :: r₄ => match quadruple? a b c d with
                | some ch => let (text, rest) := decodeInitial r₄; (ch :: text, rest)
                | none => ([], a :: b :: c :: d :: r₄)

/-- The text of `bytes`; on malformed bytes the length of the longest well-formed beginning. -/
def decode? (bytes : Bytes) : Except Nat Text :=
  match decodeInitial bytes with
  | (text, []) => .ok text
  | (_, rest) => .error (bytes.length - rest.length)

/-- The text of `bytes` if they are well-formed throughout. -/
def toText? (bytes : Bytes) : Option Text := (decode? bytes).toOption

/-- How many bytes one replacement character stands for at the malformed start of `bytes`: the
longest beginning that some well-formed character begins with, and at least one byte. -/
def malformedLength : Bytes → Nat
  | a :: b :: rest =>
    match announcedLength? a with
    | some 3 => if isSecond a b then 2 else 1
    | some 4 =>
      if isSecond a b then
        match rest with
        | c :: _ => if isContinuation c then 3 else 2
        | [] => 2
      else 1
    | _ => 1
  | _ => 1

/-- `decodeLossy` in at most `steps` malformed parts. -/
def decodeLossySteps : (steps : Nat) → Bytes → Text
  | 0, _ => []
  | steps + 1, bytes =>
    match decodeInitial bytes with
    | (text, []) => text
    | (text, rest) =>
      text ++ Char.ofNat 0xFFFD :: decodeLossySteps steps (rest.drop (malformedLength rest))

/-- The text of `bytes` with U+FFFD in the place of each malformed part. -/
def decodeLossy (bytes : Bytes) : Text := decodeLossySteps (bytes.length + 1) bytes

end Utf8
end TestBench
