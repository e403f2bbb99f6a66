import Triplet.Text.Quoted

/-! # UTF-8

Characters are read off bytes one after another. Where none can be read, the bytes that were taken
for the beginning of one are at fault.
-/

namespace Triplet.Text

inductive Utf8Cause where
  | invalidStart
  | invalidContinuation
  | unexpectedEnd
  deriving DecidableEq, Repr

def Utf8Cause.message : Utf8Cause → String
  | invalidStart => "invalid start byte"
  | invalidContinuation => "invalid continuation byte"
  | unexpectedEnd => "unexpected end of data"

/-- The bytes at fault and their place. -/
structure Utf8Error where
  position : Nat
  bytes : List UInt8
  cause : Utf8Cause
  deriving DecidableEq, Repr

def Utf8Error.message (e : Utf8Error) : String :=
  let place :=
    match e.bytes with
    | [b] => "byte 0x" ++ String.ofList (hex 2 b.toNat) ++ s!" in position {e.position}"
    | _ => s!"bytes in position {e.position}-{e.position + e.bytes.length - 1}"
  "'utf-8' codec can't decode " ++ place ++ ": " ++ e.cause.message

def isContinuation (b : Nat) : Bool := 0x80 ≤ b && b < 0xC0

/-- Whether a byte may come second after a first byte. -/
def mayFollow (first second : Nat) : Bool :=
  isContinuation second &&
    !(first = 0xE0 && second < 0xA0) && !(first = 0xED && 0xA0 ≤ second) &&
    !(first = 0xF0 && second < 0x90) && !(first = 0xF4 && 0x90 ≤ second)

/-- How many bytes follow a first byte. -/
def following? (first : Nat) : Option Nat :=
  if first < 0x80 then some 0
  else if first < 0xC2 then none
  else if first < 0xE0 then some 1
  else if first < 0xF0 then some 2
  else if first < 0xF5 then some 3
  else none

/-- The bits of a first byte that count. -/
def leading (first following : Nat) : Nat :=
  match following with
  | 0 => first
  | 1 => first % 32
  | 2 => first % 16
  | _ => first % 8

/-- How many bytes of `rest` continue a character that needs `needed` more. -/
def continued (first : Nat) (needed : Nat) (rest : List UInt8) : Nat :=
  match rest with
  | [] => 0
  | second :: more =>
    if needed = 0 || !mayFollow first second.toNat then 0
    else 1 + ((more.take (needed - 1)).takeWhile fun b => isContinuation b.toNat).length

/-- Read bytes as characters. -/
def decodeFrom (position : Nat) (bytes : List UInt8) : Except Utf8Error (List Char) :=
  match bytes with
  | [] => .ok []
  | b :: rest =>
    let first := b.toNat
    match following? first with
    | none => .error ⟨position, [b], .invalidStart⟩
    | some needed =>
      let found := continued first needed rest
      if found < needed then
        let cause :=
          if found = rest.length then Utf8Cause.unexpectedEnd else .invalidContinuation
        .error ⟨position, b :: rest.take found, cause⟩
      else
        let add (n : Nat) (c : UInt8) : Nat := 64 * n + c.toNat % 64
        let code := (rest.take needed).foldl add (leading first needed)
        (decodeFrom (position + 1 + needed) (rest.drop needed)).map (Char.ofNat code :: ·)
termination_by bytes.length
decreasing_by
  simp only [List.length_drop, List.length_cons]
  omega

def decode (bytes : List UInt8) : Except Utf8Error (List Char) := decodeFrom 0 bytes

/-- The bytes of a text. -/
def encode (text : List Char) : List UInt8 := (String.ofList text).toUTF8.toList

end Triplet.Text
