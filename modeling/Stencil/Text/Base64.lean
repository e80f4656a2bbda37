import Stencil.Text

/-! # Base 64

Bytes are given by letters of six bits each, four letters to three bytes.  Characters that are no such
letters are skipped; a last group of two or three letters must be filled up with equals signs.
-/
namespace Stencil.Text.Base64

def sextet? (c : Char) : Option Nat :=
  if 'A' ≤ c ∧ c ≤ 'Z' then some (c.toNat - 'A'.toNat)
  else if 'a' ≤ c ∧ c ≤ 'z' then some (c.toNat - 'a'.toNat + 26)
  else if '0' ≤ c ∧ c ≤ '9' then some (c.toNat - '0'.toNat + 52)
  else if c = '+' then some 62
  else if c = '/' then some 63
  else none

/-- The whole bytes in a group of sextets. -/
def bytes : List Nat → List UInt8
  | a :: b :: rest =>
    UInt8.ofNat (a * 4 + b / 16) ::
      match rest with
      | [] => []
      | c :: rest =>
        UInt8.ofNat (b % 16 * 16 + c / 4) ::
          match rest with
          | [] => []
          | d :: _ => [UInt8.ofNat (c % 4 * 64 + d)]
  | _ => []

/-- The bytes of a text behind the sextets of an unfinished group and the signs that fill it up. -/
def decodeFrom (group : List Nat) (filled : Nat) : Text → Option (List UInt8)
  | [] => if group.isEmpty then some [] else none
  | c :: rest =>
    if c = '=' then
      if 2 ≤ group.length then
        if 4 ≤ group.length + filled + 1 then some (bytes group)
        else decodeFrom group (filled + 1) rest
      else decodeFrom group filled rest
    else
      match sextet? c with
      | none => decodeFrom group filled rest
      | some n =>
        if group.length = 3 then (decodeFrom [] 0 rest).map (bytes (group ++ [n]) ++ ·)
        else decodeFrom (group ++ [n]) 0 rest

def decode (text : Text) : Option (List UInt8) := decodeFrom [] 0 text

end Stencil.Text.Base64
