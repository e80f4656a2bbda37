import Stencil.Unicode.Number

/-! # Text

Text is a list of characters, so that every count, offset and cut is in characters.  Offsets may be
signed: a negative one counts from the end, and one beyond either end stands at that end.
-/
namespace Stencil

abbrev Text := List Char

namespace Text

/-- The offset from the start that a signed offset stands for. -/
def clampOffset (length : Nat) (offset : Int) : Nat :=
  if offset < 0 then (offset + length).toNat else min offset.toNat length

def dropTo (text : Text) (offset : Int) : Text := text.drop (clampOffset text.length offset)

def takeTo (text : Text) (offset : Int) : Text := text.take (clampOffset text.length offset)

theorem dropTo_natCast (text : Text) (n : Nat) : text.dropTo n = text.drop n := by
  have h : ¬ ((n : Int) < 0) := by omega
  simp only [dropTo, clampOffset, h, if_false, Int.toNat_natCast]
  rcases Nat.le_total n text.length with hn | hn
  · rw [Nat.min_eq_left hn]
  · rw [Nat.min_eq_right hn, List.drop_eq_nil_of_le hn, List.drop_length]

theorem takeTo_natCast (text : Text) (n : Nat) : text.takeTo n = text.take n := by
  have h : ¬ ((n : Int) < 0) := by omega
  simp only [takeTo, clampOffset, h, if_false, Int.toNat_natCast]
  rcases Nat.le_total n text.length with hn | hn
  · rw [Nat.min_eq_left hn]
  · rw [Nat.min_eq_right hn, List.take_of_length_le hn, List.take_length]

def ofNat (n : Nat) : Text := Nat.toDigits 10 n

def ofInt (n : Int) : Text :=
  if n < 0 then '-' :: ofNat n.natAbs else ofNat n.natAbs

/-- The text with every kind of line end as one line feed. -/
def unifyLineEnds : Text → Text
  | [] => []
  | '\r' :: '\n' :: rest => '\n' :: unifyLineEnds rest
  | c :: rest => (if c = '\r' then '\n' else c) :: unifyLineEnds rest

/-- A list in brackets, with commas. -/
def bracketed (items : List Text) : Text := '[' :: ", ".toList.intercalate items ++ [']']

/-- Blanks of every script, the ASCII separators included. -/
def blankRuns : List (Nat × Nat) := [
   (0x9, 0xd), (0x1c, 0x20), (0x85, 0x85), (0xa0, 0xa0), (0x1680, 0x1680), (0x2000, 0x200a),
   (0x2028, 0x2029), (0x202f, 0x202f), (0x205f, 0x205f), (0x3000, 0x3000)]

def isBlank (c : Char) : Bool := Unicode.inRuns blankRuns c.toNat

/-- The blanks that may stand around a number: the four ASCII separators are not among them. -/
def isNumberBlank (c : Char) : Bool := isBlank c && !(0x1c ≤ c.toNat && c.toNat ≤ 0x1f)

/-- The text without the characters at both ends that satisfy `p`. -/
def trim (p : Char → Bool) (text : Text) : Text := ((text.dropWhile p).reverse.dropWhile p).reverse

def asciiLower (c : Char) : Char := if 'A' ≤ c ∧ c ≤ 'Z' then Char.ofNat (c.toNat + 32) else c

def asciiUpper (c : Char) : Char := if 'a' ≤ c ∧ c ≤ 'z' then Char.ofNat (c.toNat - 32) else c

end Text
end Stencil
