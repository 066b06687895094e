import SnippetMarkup.Encoding.Error

/-!
# Base 64

Bytes written in 64 characters, four characters for three bytes.  Characters that are not among
them are passed over.
-/

namespace SnippetMarkup.Base64

def value? (c : Char) : Option Nat :=
  if 'A' ≤ c ∧ c ≤ 'Z' then some (c.toNat - 'A'.toNat)
  else if 'a' ≤ c ∧ c ≤ 'z' then some (c.toNat - 'a'.toNat + 26)
  else if '0' ≤ c ∧ c ≤ '9' then some (c.toNat - '0'.toNat + 52)
  else if c = '+' then some 62
  else if c = '/' then some 63
  else none

/-- The values of a text, up to the padding that completes a group of four, where `place`
characters of a group have been read and `pads` pads have followed them.  None if the last group is
not complete. -/
def values? (place pads : Nat) : Text → Option (List Nat)
  | [] => if place = 0 then some [] else none
  | c :: rest =>
    if c = '=' then
      if 2 ≤ place ∧ 4 ≤ place + pads + 1 then some []
      else values? place (if 2 ≤ place then pads + 1 else pads) rest
    else
      match value? c with
      | none => values? place pads rest
      | some value => (values? ((place + 1) % 4) 0 rest).map (value :: ·)

/-- The bytes that groups of four values make; the last group may have two or three. -/
def pack : List Nat → Bytes
  | a :: b :: c :: d :: rest =>
    UInt8.ofNat (4 * a + b / 16) :: UInt8.ofNat (16 * (b % 16) + c / 4) ::
      UInt8.ofNat (64 * (c % 4) + d) :: pack rest
  | [a, b, c] => [UInt8.ofNat (4 * a + b / 16), UInt8.ofNat (16 * (b % 16) + c / 4)]
  | [a, b] => [UInt8.ofNat (4 * a + b / 16)]
  | _ => []

/-- The bytes that a text stands for, if it is complete. -/
def decode? (text : Text) : Option Bytes := (values? 0 0 text).map pack

end SnippetMarkup.Base64
