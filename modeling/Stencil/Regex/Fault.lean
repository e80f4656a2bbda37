import Stencil.Text.Quoted

/-! # Faults of expressions

Why an expression cannot be used.  A fault of its form names what is wrong and, where there is one,
the place in the expression; the other faults are limits and contradictory flags.
-/
namespace Stencil.Regex

inductive Cause
  | danglingBackslash
  | badEscape (escape : Text)
  | incompleteEscape (escape : Text)
  | octalTooLarge (escape : Text)
  | missingBrace
  | unknownCharacterName (name : Text)
  | openGroup
  | noSuchGroup (number : Nat)
  | groupOfSameLookbehind
  | unterminatedSet
  | badRange (first last : Text)
  | leastAboveGreatest
  | nothingToRepeat
  | multipleRepeat
  | unexpectedEnd
  | unknownExtension (extension : Text)
  | missingName (what : Text)
  | unterminatedName (terminator : Char)
  | badGroupName (name : Text)
  | unknownGroupName (name : Text)
  | groupNameTaken (name : Text) (group earlier : Nat)
  | unterminatedComment
  | unterminatedGroup
  | badGroupNumber
  | tooManyBranches
  | unbalanced
  | misplacedFlags
  | localeFlag
  | incompatibleFlags
  | missingFlagsEnd
  | unknownFlag
  | missingFlag
  | missingColon
  | globalFlagOn
  | globalFlagOff
  | typeFlagOff
  | flagOnAndOff
  | variableLookbehind
  | longLookbehind
  | noRepeatInTemplate (operator : Text)
deriving DecidableEq, Repr

inductive Fault
  | malformed (cause : Cause) (position : Option Nat)
  | repeatTooLarge
  | codeTooLarge
  | numberTooLong (digits : Nat)
  | asciiAndUnicode
deriving DecidableEq, Repr

def Cause.message : Cause → Text
  | danglingBackslash => "bad escape (end of pattern)".toList
  | badEscape e => "bad escape ".toList ++ e
  | incompleteEscape e => "incomplete escape ".toList ++ e
  | octalTooLarge e => "octal escape value ".toList ++ e ++ " outside of range 0-0o377".toList
  | missingBrace => "missing \x7b".toList
  | unknownCharacterName n => "undefined character name ".toList ++ n.quote
  | openGroup => "cannot refer to an open group".toList
  | noSuchGroup n => "invalid group reference ".toList ++ Text.ofNat n
  | groupOfSameLookbehind =>
    "cannot refer to group defined in the same lookbehind subpattern".toList
  | unterminatedSet => "unterminated character set".toList
  | badRange a b => "bad character range ".toList ++ a ++ '-' :: b
  | leastAboveGreatest => "min repeat greater than max repeat".toList
  | nothingToRepeat => "nothing to repeat".toList
  | multipleRepeat => "multiple repeat".toList
  | unexpectedEnd => "unexpected end of pattern".toList
  | unknownExtension e => "unknown extension ?".toList ++ e
  | missingName what => "missing ".toList ++ what
  | unterminatedName c => "missing ".toList ++ c :: ", unterminated name".toList
  | badGroupName n => "bad character in group name ".toList ++ n.quote
  | unknownGroupName n => "unknown group name ".toList ++ n.quote
  | groupNameTaken n group earlier =>
    "redefinition of group name ".toList ++ n.quote ++ " as group ".toList ++ Text.ofNat group ++
      "; was group ".toList ++ Text.ofNat earlier
  | unterminatedComment => "missing ), unterminated comment".toList
  | unterminatedGroup => "missing ), unterminated subpattern".toList
  | badGroupNumber => "bad group number".toList
  | tooManyBranches => "conditional backref with more than two branches".toList
  | unbalanced => "unbalanced parenthesis".toList
  | misplacedFlags => "global flags not at the start of the expression".toList
  | localeFlag => "bad inline flags: cannot use 'L' flag with a str pattern".toList
  | incompatibleFlags => "bad inline flags: flags 'a', 'u' and 'L' are incompatible".toList
  | missingFlagsEnd => "missing -, : or )".toList
  | unknownFlag => "unknown flag".toList
  | missingFlag => "missing flag".toList
  | missingColon => "missing :".toList
  | globalFlagOn => "bad inline flags: cannot turn on global flag".toList
  | globalFlagOff => "bad inline flags: cannot turn off global flag".toList
  | typeFlagOff => "bad inline flags: cannot turn off flags 'a', 'u' and 'L'".toList
  | flagOnAndOff => "bad inline flags: flag turned on and off".toList
  | variableLookbehind => "look-behind requires fixed-width pattern".toList
  | longLookbehind => "looks too much behind".toList
  | noRepeatInTemplate op => "internal: unsupported template operator ".toList ++ op

/-- A place in an expression, with line and column if the expression has several lines. -/
def placeText (source : Text) (position : Nat) : Text :=
  let before := source.take position
  " at position ".toList ++ Text.ofNat position ++
    if source.contains '\n' then
      " (line ".toList ++ Text.ofNat (before.count '\n' + 1) ++ ", column ".toList ++
        Text.ofNat ((before.reverse.takeWhile (· ≠ '\n')).length + 1) ++ [')']
    else []

def Fault.message (source : Text) : Fault → Text
  | malformed cause none => cause.message
  | malformed cause (some position) => cause.message ++ placeText source position
  | repeatTooLarge => "the repetition number is too large".toList
  | codeTooLarge => "Python int too large to convert to C int".toList
  | numberTooLong digits =>
    "Exceeds the limit (4300 digits) for integer string conversion: value has ".toList ++
      Text.ofNat digits ++ " digits; use sys.set_int_max_str_digits() to increase the limit".toList
  | asciiAndUnicode => "ASCII and UNICODE flags are incompatible".toList

end Stencil.Regex
