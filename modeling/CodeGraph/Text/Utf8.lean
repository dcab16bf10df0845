namespace CodeGraph.Text

def replacement : Char := '\uFFFD'

/-- How many bytes follow the first byte of a character, its own bits, and the range in which the
second byte has to lie. -/
def leadByte? (b : UInt8) : Option (Nat × Nat × Nat × Nat) :=
  let n := b.toNat
  if n < 0x80 then some (0, n, 0, 0)
  else if 0xC2 ≤ n ∧ n ≤ 0xDF then some (1, n - 0xC0, 0x80, 0xBF)
  else if n = 0xE0 then some (2, 0, 0xA0, 0xBF)
  else if n = 0xED then some (2, 0xD, 0x80, 0x9F)
  else if 0xE1 ≤ n ∧ n ≤ 0xEF then some (2, n - 0xE0, 0x80, 0xBF)
  else if n = 0xF0 then some (3, 0, 0x90, 0xBF)
  else if 0xF1 ≤ n ∧ n ≤ 0xF3 then some (3, n - 0xF0, 0x80, 0xBF)
  else if n = 0xF4 then some (3, 4, 0x80, 0x8F)
  else none

/-- Decodes bytes inside a character that still lacks so many bytes, the next one in a range. -/
def decodeFrom (lacking code low high : Nat) : List UInt8 → List Char
  | [] => if lacking = 0 then [] else [replacement]
  | b :: rest =>
    let start : List Char :=
      match leadByte? b with
      | none => replacement :: decodeFrom 0 0 0 0 rest
      | some (0, code, _, _) => Char.ofNat code :: decodeFrom 0 0 0 0 rest
      | some (more, code, low, high) => decodeFrom more code low high rest
    if lacking = 0 then start
    else if low ≤ b.toNat ∧ b.toNat ≤ high then
      let code := code * 64 + (b.toNat - 0x80)
      if lacking = 1 then Char.ofNat code :: decodeFrom 0 0 0 0 rest
      else decodeFrom (lacking - 1) code 0x80 0xBF rest
    else replacement :: start

/-- The text of bytes. -/
def decodeUtf8 (bytes : List UInt8) : String :=
  String.ofList (decodeFrom 0 0 0 0 bytes)

/-- Why bytes are no text. -/
inductive Utf8Reason where
  | invalidStart
  | invalidContinuation
  | unexpectedEnd
deriving Repr, DecidableEq

def Utf8Reason.message : Utf8Reason → String
  | .invalidStart => "invalid start byte"
  | .invalidContinuation => "invalid continuation byte"
  | .unexpectedEnd => "unexpected end of data"

/-- A piece of bytes that is no character: its position, its first byte, and how many bytes it has. -/
structure Utf8Fault where
  position : Nat
  first : UInt8
  count : Nat
  reason : Utf8Reason
deriving Repr, DecidableEq

/-- The fault with its place, in words. -/
def Utf8Fault.message (fault : Utf8Fault) : String :=
  let digit (n : Nat) : String := String.ofList [Nat.digitChar n]
  let byte := digit (fault.first.toNat / 16) ++ digit (fault.first.toNat % 16)
  let piece :=
    if fault.count = 1 then s!"byte 0x{byte} in position {fault.position}"
    else
      let last := fault.position + fault.count - 1
      s!"bytes in position {fault.position}-{last}"
  s!"'utf-8' codec can't decode {piece}: {fault.reason.message}"

/-- The first piece that is no character, after a number of bytes that were. Of a character that has begun
there are a first byte and a count, and it still lacks so many bytes, the next one in a range. -/
def faultFrom? (position : Nat) (first : UInt8) (count lacking low high : Nat) :
    List UInt8 → Option Utf8Fault
  | [] => if lacking = 0 then none else some ⟨position, first, count, .unexpectedEnd⟩
  | b :: rest =>
    if lacking = 0 then
      match leadByte? b with
      | none => some ⟨position + count, b, 1, .invalidStart⟩
      | some (more, _, low, high) => faultFrom? (position + count) b 1 more low high rest
    else if low ≤ b.toNat ∧ b.toNat ≤ high then
      faultFrom? position first (count + 1) (lacking - 1) 0x80 0xBF rest
    else some ⟨position, first, count, .invalidContinuation⟩

/-- Why bytes are no text, if they are not. -/
def utf8Fault? (bytes : List UInt8) : Option Utf8Fault :=
  faultFrom? 0 0 0 0 0 0 bytes

end CodeGraph.Text
