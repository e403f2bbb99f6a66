/-! # Base 64

Bytes as text: three bytes are four letters of an alphabet of 64, and the last group is padded.
-/

namespace Triplet.Text

def base64Letter (n : Nat) : Char :=
  if n < 26 then Char.ofNat (65 + n)
  else if n < 52 then Char.ofNat (97 + (n - 26))
  else if n < 62 then Char.ofNat (48 + (n - 52))
  else if n = 62 then '+'
  else '/'

/-- The first `count` letters of three bytes, padded to four. -/
def base64Group (count a b c : Nat) : List Char :=
  let n := a * 65536 + b * 256 + c
  [n / 262144 % 64, n / 4096 % 64, n / 64 % 64, n % 64].map base64Letter |>.take count
    |>.append (List.replicate (4 - count) '=')

def base64 : List UInt8 → List Char
  | a :: b :: c :: rest => base64Group 4 a.toNat b.toNat c.toNat ++ base64 rest
  | [a, b] => base64Group 3 a.toNat b.toNat 0
  | [a] => base64Group 2 a.toNat 0 0
  | [] => []

def base64Value? (c : Char) : Option Nat :=
  if 'A' ≤ c && c ≤ 'Z' then some (c.toNat - 'A'.toNat)
  else if 'a' ≤ c && c ≤ 'z' then some (c.toNat - 'a'.toNat + 26)
  else if c.isDigit then some (c.toNat - '0'.toNat + 52)
  else if c = '+' then some 62
  else if c = '/' then some 63
  else none

/-- The bytes of the letters of a group. -/
def base64Bytes : List Nat → List UInt8
  | [a, b] => [(a * 4 + b / 16).toUInt8]
  | [a, b, c] => [(a * 4 + b / 16).toUInt8, (b % 16 * 16 + c / 4).toUInt8]
  | [a, b, c, d] =>
    [(a * 4 + b / 16).toUInt8, (b % 16 * 16 + c / 4).toUInt8, (c % 4 * 64 + d).toUInt8]
  | _ => []

/-- Read letters from where a group has come to. Other characters are passed over, and padding that
fills a group ends the text. -/
def decodeBase64From : List Nat → Nat → List Char → Option (List UInt8)
  | group, _, [] => if group.isEmpty then some [] else none
  | group, pads, c :: rest =>
    if c = '=' then
      if 2 ≤ group.length && 4 ≤ group.length + pads + 1 then some (base64Bytes group)
      else decodeBase64From group (if 2 ≤ group.length then pads + 1 else pads) rest
    else
      match base64Value? c with
      | none => decodeBase64From group pads rest
      | some n =>
        let group := group ++ [n]
        if group.length = 4 then (decodeBase64From [] 0 rest).map (base64Bytes group ++ ·)
        else decodeBase64From group 0 rest

/-- The bytes that a text stands for, unless its last group is cut short. -/
def decodeBase64? (text : List Char) : Option (List UInt8) := decodeBase64From [] 0 text

end Triplet.Text
