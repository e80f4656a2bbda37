import Stencil.Numeral
import Stencil.Unicode.Name.Alphabets
import Stencil.Unicode.Name.Inscriptions
import Stencil.Unicode.Name.Pictures
import Stencil.Unicode.Name.Signs
import Stencil.Unicode.Name.Syllables

/-! # Names of characters

The names under which an expression may refer to a character, version 14.0.  The tables hold the names of
consecutive characters with bars between them; what a name has in common with the one before is left
out, and a digit in its place says how many words that is.  Names with a code point in them and those of
Hangul syllables are formed by rules.  Letter case counts in the names of unified ideographs and of
syllables only.
-/
namespace Stencil.Unicode
namespace Name

def words (before : List Text) : Text → List Text
  | [] => before
  | count :: own => before.take (count.toNat - '0'.toNat) ++ own.splitOn ' '

/-- The place of a name among the names of consecutive characters. -/
def indexOf? (name before : List Text) : List Text → Option Nat
  | [] => none
  | entry :: rest =>
    if words before entry = name then some 0
    else (indexOf? name (words before entry) rest).map (· + 1)

def inTable? (name : Text) (table : List (Nat × List String)) : Option Nat :=
  table.findSome? fun (first, names) =>
    (indexOf? (name.splitOn ' ') [] (names.flatMap fun s => s.toList.splitOn '|')).map
      (first + ·)

/-- The names that characters have beside the one in the tables. -/
def aliases : List (Nat × String) := [
  (0x0, "NUL|NULL"),
  (0x1, "SOH|START OF HEADING"),
  (0x2, "START OF TEXT|STX"),
  (0x3, "END OF TEXT|ETX"),
  (0x4, "END OF TRANSMISSION|EOT"),
  (0x5, "ENQ|ENQUIRY"),
  (0x6, "ACK|ACKNOWLEDGE"),
  (0x7, "ALERT|BEL"),
  (0x8, "BACKSPACE|BS"),
  (0x9, "CHARACTER TABULATION|HORIZONTAL TABULATION|HT|TAB"),
  (0xa, "END OF LINE|EOL|LF|LINE FEED|NEW LINE|NL"),
  (0xb, "LINE TABULATION|VERTICAL TABULATION|VT"),
  (0xc, "FF|FORM FEED"),
  (0xd, "CARRIAGE RETURN|CR"),
  (0xe, "LOCKING-SHIFT ONE|SHIFT OUT|SO"),
  (0xf, "LOCKING-SHIFT ZERO|SHIFT IN|SI"),
  (0x10, "DATA LINK ESCAPE|DLE"),
  (0x11, "DC1|DEVICE CONTROL ONE"),
  (0x12, "DC2|DEVICE CONTROL TWO"),
  (0x13, "DC3|DEVICE CONTROL THREE"),
  (0x14, "DC4|DEVICE CONTROL FOUR"),
  (0x15, "NAK|NEGATIVE ACKNOWLEDGE"),
  (0x16, "SYN|SYNCHRONOUS IDLE"),
  (0x17, "END OF TRANSMISSION BLOCK|ETB"),
  (0x18, "CAN|CANCEL"),
  (0x19, "END OF MEDIUM|EOM"),
  (0x1a, "SUB|SUBSTITUTE"),
  (0x1b, "ESC|ESCAPE"),
  (0x1c, "FILE SEPARATOR|FS|INFORMATION SEPARATOR FOUR"),
  (0x1d, "GROUP SEPARATOR|GS|INFORMATION SEPARATOR THREE"),
  (0x1e, "INFORMATION SEPARATOR TWO|RECORD SEPARATOR|RS"),
  (0x1f, "INFORMATION SEPARATOR ONE|UNIT SEPARATOR|US"),
  (0x20, "SP"),
  (0x7f, "DEL|DELETE"),
  (0x80, "PAD|PADDING CHARACTER"),
  (0x81, "HIGH OCTET PRESET|HOP"),
  (0x82, "BPH|BREAK PERMITTED HERE"),
  (0x83, "NBH|NO BREAK HERE"),
  (0x84, "IND|INDEX"),
  (0x85, "NEL|NEXT LINE"),
  (0x86, "SSA|START OF SELECTED AREA"),
  (0x87, "END OF SELECTED AREA|ESA"),
  (0x88, "CHARACTER TABULATION SET|HORIZONTAL TABULATION SET|HTS"),
  (0x89, "CHARACTER TABULATION WITH JUSTIFICATION|HORIZONTAL TABULATION WITH JUSTIFICATION|HTJ"),
  (0x8a, "LINE TABULATION SET|VERTICAL TABULATION SET|VTS"),
  (0x8b, "PARTIAL LINE DOWN|PARTIAL LINE FORWARD|PLD"),
  (0x8c, "PARTIAL LINE BACKWARD|PARTIAL LINE UP|PLU"),
  (0x8d, "REVERSE INDEX|REVERSE LINE FEED|RI"),
  (0x8e, "SINGLE SHIFT TWO|SINGLE-SHIFT-2|SS2"),
  (0x8f, "SINGLE SHIFT THREE|SINGLE-SHIFT-3|SS3"),
  (0x90, "DCS|DEVICE CONTROL STRING"),
  (0x91, "PRIVATE USE ONE|PRIVATE USE-1|PU1"),
  (0x92, "PRIVATE USE TWO|PRIVATE USE-2|PU2"),
  (0x93, "SET TRANSMIT STATE|STS"),
  (0x94, "CANCEL CHARACTER|CCH"),
  (0x95, "MESSAGE WAITING|MW"),
  (0x96, "SPA|START OF GUARDED AREA|START OF PROTECTED AREA"),
  (0x97, "END OF GUARDED AREA|END OF PROTECTED AREA|EPA"),
  (0x98, "SOS|START OF STRING"),
  (0x99, "SGC|SINGLE GRAPHIC CHARACTER INTRODUCER"),
  (0x9a, "SCI|SINGLE CHARACTER INTRODUCER"),
  (0x9b, "CONTROL SEQUENCE INTRODUCER|CSI"),
  (0x9c, "ST|STRING TERMINATOR"),
  (0x9d, "OPERATING SYSTEM COMMAND|OSC"),
  (0x9e, "PM|PRIVACY MESSAGE"),
  (0x9f, "APC|APPLICATION PROGRAM COMMAND"),
  (0xa0, "NBSP"),
  (0xad, "SHY"),
  (0x1a2, "LATIN CAPITAL LETTER GHA"),
  (0x1a3, "LATIN SMALL LETTER GHA"),
  (0x34f, "CGJ"),
  (0x61c, "ALM"),
  (0x709, "SYRIAC SUBLINEAR COLON SKEWED LEFT"),
  (0xcde, "KANNADA LETTER LLLA"),
  (0xe9d, "LAO LETTER FO FON"),
  (0xe9f, "LAO LETTER FO FAY"),
  (0xea3, "LAO LETTER RO"),
  (0xea5, "LAO LETTER LO"),
  (0xfd0, "TIBETAN MARK BKA- SHOG GI MGO RGYAN"),
  (0x11ec, "HANGUL JONGSEONG YESIEUNG-KIYEOK"),
  (0x11ed, "HANGUL JONGSEONG YESIEUNG-SSANGKIYEOK"),
  (0x11ee, "HANGUL JONGSEONG SSANGYESIEUNG"),
  (0x11ef, "HANGUL JONGSEONG YESIEUNG-KHIEUKH"),
  (0x180b, "FVS1"),
  (0x180c, "FVS2"),
  (0x180d, "FVS3"),
  (0x180e, "MVS"),
  (0x180f, "FVS4"),
  (0x200b, "ZWSP"),
  (0x200c, "ZWNJ"),
  (0x200d, "ZWJ"),
  (0x200e, "LRM"),
  (0x200f, "RLM"),
  (0x202a, "LRE"),
  (0x202b, "RLE"),
  (0x202c, "PDF"),
  (0x202d, "LRO"),
  (0x202e, "RLO"),
  (0x202f, "NNBSP"),
  (0x205f, "MMSP"),
  (0x2060, "WJ"),
  (0x2066, "LRI"),
  (0x2067, "RLI"),
  (0x2068, "FSI"),
  (0x2069, "PDI"),
  (0x2118, "WEIERSTRASS ELLIPTIC FUNCTION"),
  (0x2448, "MICR ON US SYMBOL"),
  (0x2449, "MICR DASH SYMBOL"),
  (0x2b7a, "LEFTWARDS TRIANGLE-HEADED ARROW WITH DOUBLE VERTICAL STROKE"),
  (0x2b7c, "RIGHTWARDS TRIANGLE-HEADED ARROW WITH DOUBLE VERTICAL STROKE"),
  (0xa015, "YI SYLLABLE ITERATION MARK"),
  (0xaa6e, "MYANMAR LETTER KHAMTI LLA"),
  (0xfe18, "PRESENTATION FORM FOR VERTICAL RIGHT WHITE LENTICULAR BRACKET"),
  (0xfeff, "BOM|BYTE ORDER MARK|ZWNBSP"),
  (0x122d4, "CUNEIFORM SIGN NU11 TENU"),
  (0x122d5, "CUNEIFORM SIGN NU11 OVER NU11 BUR OVER BUR"),
  (0x16e56, "MEDEFAIDRIN CAPITAL LETTER H"),
  (0x16e57, "MEDEFAIDRIN CAPITAL LETTER NG"),
  (0x16e76, "MEDEFAIDRIN SMALL LETTER H"),
  (0x16e77, "MEDEFAIDRIN SMALL LETTER NG"),
  (0x1b001, "HENTAIGANA LETTER E-1"),
  (0x1d0c5, "BYZANTINE MUSICAL SYMBOL FTHORA SKLIRON CHROMA VASIS")]

def alias? (name : Text) : Option Nat :=
  aliases.findSome? fun (c, names) =>
    if (names.toList.splitOn '|').contains name then some c else none

def behind? (start : String) (name : Text) : Option Text :=
  if start.toList.isPrefixOf name then some (name.drop start.length) else none

def valueOf (base : Nat) (digits : Text) : Nat :=
  Numeral.positional base (digits.filterMap Numeral.digitValue)

/-- The code points of characters whose names end with their code point. -/
def numberedRuns : List (String × List (Nat × Nat)) := [
  ("CJK COMPATIBILITY IDEOGRAPH-", [(0xf900, 0xfa6d), (0xfa70, 0xfad9), (0x2f800, 0x2fa1d)]),
  ("KHITAN SMALL SCRIPT CHARACTER-", [(0x18b00, 0x18cd5)]),
  ("NUSHU CHARACTER-", [(0x1b170, 0x1b2fb)])]

def numbered? (name : Text) : Option Nat :=
  numberedRuns.findSome? fun (start, runs) => do
    let digits ← behind? start name
    let c := valueOf 16 digits
    if inRuns runs c ∧ (Nat.toDigits 16 c).map Text.asciiUpper = digits then some c else none

/-- The variation selectors, which are counted from one on. -/
def selector? (name : Text) : Option Nat := do
  let digits ← behind? "VS" name
  let n := valueOf 10 digits
  if Text.ofNat n ≠ digits then none
  else if 1 ≤ n ∧ n ≤ 16 then some (0xfe00 + (n - 1))
  else if 17 ≤ n ∧ n ≤ 256 then some (0xe0100 + (n - 17))
  else none

def unifiedRuns : List (Nat × Nat) := [
  (0x3400, 0x4dbf), (0x4e00, 0x9fff), (0x20000, 0x2a6df), (0x2a700, 0x2b738), (0x2b740, 0x2b81d),
  (0x2b820, 0x2cea1), (0x2ceb0, 0x2ebe0), (0x30000, 0x3134a)]

/-- The unified ideograph of four or five digits. -/
def ideograph? (digits : Text) : Option Nat :=
  let isDigit (c : Char) : Bool := ('0' ≤ c ∧ c ≤ '9') ∨ ('A' ≤ c ∧ c ≤ 'F')
  let c := valueOf 16 digits
  if (digits.length = 4 ∨ digits.length = 5) ∧ digits.all isDigit ∧ inRuns unifiedRuns c then some c
  else none

def initials : List String := [
  "G", "GG", "N", "D", "DD", "R", "M", "B", "BB", "S", "SS", "", "J", "JJ", "C", "K", "T", "P", "H"]

def medials : List String := [
  "A", "AE", "YA", "YAE", "EO", "E", "YEO", "YE", "O", "WA", "WAE", "OE", "YO", "U", "WEO", "WE", "WI",
  "YU", "EU", "YI", "I"]

def finals : List String := [
  "", "G", "GG", "GS", "N", "NJ", "NH", "D", "L", "LG", "LM", "LB", "LS", "LT", "LP", "LH", "M", "B",
  "BS", "S", "SS", "NG", "J", "C", "K", "T", "P", "H"]

/-- Hangul syllables in the order of their code points. -/
def hangul : List String :=
  initials.flatMap fun a => medials.flatMap fun b => finals.map fun c => a ++ b ++ c

def syllable? (letters : Text) : Option Nat :=
  (hangul.findIdx? (·.toList == letters)).map (0xac00 + ·)

end Name

/-- The character with a name. -/
def codeOfName? (name : Text) : Option Nat :=
  match Name.behind? "HANGUL SYLLABLE " name, Name.behind? "CJK UNIFIED IDEOGRAPH-" name with
  | some letters, _ => Name.syllable? letters
  | none, some digits => Name.ideograph? digits
  | none, none =>
    let name := name.map Text.asciiUpper
    let tables := [Name.alphabets, Name.signs, Name.syllables, Name.inscriptions, Name.pictures]
    (tables.findSome? (Name.inTable? name)).orElse fun _ =>
      (Name.numbered? name).orElse fun _ => (Name.selector? name).orElse fun _ => Name.alias? name

end Stencil.Unicode
