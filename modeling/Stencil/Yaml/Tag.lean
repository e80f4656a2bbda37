import Stencil.Yaml.Timestamp

/-! # Tags

A tag says what kind of value a node is.  A plain scalar without one is told by its form: words for
truth values and for nothing, integers, real numbers, timestamps, the signs for merging and for a
default value; every other one is a text.
-/
namespace Stencil.Yaml

inductive Tag
  | null
  | bool
  | int
  | float
  | binary
  | timestamp
  | omap
  | pairs
  | set
  | str
  | seq
  | map
  | merge
  | value
  | other
deriving DecidableEq, Repr

namespace Tag

/-- What the tags of the common types start with. -/
def common : Text := "tag:yaml.org,2002:".toList

def names : List (Text × Tag) :=
  [("null", null), ("bool", bool), ("int", int), ("float", float), ("binary", binary),
    ("timestamp", timestamp), ("omap", omap), ("pairs", pairs), ("set", set), ("str", str),
    ("seq", seq), ("map", map), ("merge", merge), ("value", value)].map fun (n, t) => (n.toList, t)

def ofText (t : Text) : Tag :=
  if common.isPrefixOf t then (names.lookup (t.drop common.length)).getD other else other

def boolWords : List Text :=
  ["yes", "Yes", "YES", "no", "No", "NO", "true", "True", "TRUE", "false", "False", "FALSE", "on",
    "On", "ON", "off", "Off", "OFF"].map String.toList

def nullWords : List Text := ["~", "null", "Null", "NULL"].map String.toList

/-- The text behind a sign, if there is one. -/
def unsigned : Text → Text
  | '+' :: rest => rest
  | '-' :: rest => rest
  | t => t

def isDigitOrMark (c : Char) : Bool := c.isDigit || c == '_'

/-- Whether a text is a run of sexagesimal places, each behind a colon, and at least one. -/
def isSexagesimal (nonempty : Bool) : Text → Bool
  | [] => nonempty
  | [':', a] => a.isDigit
  | ':' :: a :: b :: rest =>
    if b = ':' then a.isDigit && isSexagesimal true (b :: rest)
    else ('0' ≤ a && a ≤ '5') && b.isDigit && isSexagesimal true rest
  | _ => false

def isInteger (t : Text) : Bool :=
  match unsigned t with
  | '0' :: 'b' :: ds => !ds.isEmpty && ds.all fun c => c == '0' || c == '1' || c == '_'
  | '0' :: 'x' :: ds => !ds.isEmpty && ds.all fun c => isHex c || c == '_'
  | '0' :: ds => ds.all fun c => ('0' ≤ c && c ≤ '7') || c == '_'
  | c :: rest =>
    c.isDigit &&
      (rest.all isDigitOrMark || isSexagesimal false (rest.dropWhile isDigitOrMark))
  | [] => false
where
  isHex (c : Char) : Bool := c.isDigit || ('a' ≤ c && c ≤ 'f') || ('A' ≤ c && c ≤ 'F')

/-- Whether a text is empty or an exponent with a sign. -/
def isExponent : Text → Bool
  | [] => true
  | e :: s :: ds => (e == 'e' || e == 'E') && (s == '+' || s == '-') && !ds.isEmpty && ds.all Char.isDigit
  | _ => false

def isFloat (t : Text) : Bool :=
  let u := unsigned t
  match u with
  | '.' :: rest =>
    ["inf", "Inf", "INF"].any (·.toList == rest) ||
      (u == t &&
        (["nan", "NaN", "NAN"].any (·.toList == rest) ||
          ((rest.head?.any Char.isDigit) && isExponent (rest.dropWhile isDigitOrMark))))
  | c :: _ =>
    let rest := u.dropWhile isDigitOrMark
    let places := rest.takeWhile (· ≠ '.')
    c.isDigit &&
      match rest.dropWhile (· ≠ '.') with
      | '.' :: fraction =>
        if places.isEmpty then isExponent (fraction.dropWhile isDigitOrMark)
        else isSexagesimal false places && fraction.all isDigitOrMark
      | _ => false
  | [] => false

/-- The tag of a plain scalar.  A line break at its end does not count. -/
def ofPlain (text : Text) : Tag :=
  let t := dropFinalBreak text
  if boolWords.contains t then bool
  else if isFloat t then float
  else if isInteger t then int
  else if t = "<<".toList then merge
  else if text.isEmpty || nullWords.contains t then null
  else if Timestamp.isPlain t then timestamp
  else if t = "=".toList then value
  else str

end Tag
end Stencil.Yaml
