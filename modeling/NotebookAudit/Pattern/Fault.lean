import NotebookAudit.Number.Numeral
import NotebookAudit.Pattern.Tree

/-!
What can be wrong with a pattern.

A `Fault` is a fault of the pattern itself, and its message is the reason given in reports. The
other errors stop the compilation of a whole set of patterns.
-/

namespace NotebookAudit.Pattern

/-- What is wrong with a pattern. -/
inductive Problem where
  | looseBackslash
  | badEscape (escape : Text)
  | incompleteEscape (escape : Text)
  | octalTooGreat (escape : Text)
  | noBrace
  | noName (what : Text)
  | nameNotEnded (terminator : Text)
  | unknownCharacterName (name : Text)
  | openGroup
  | groupOfSameLook
  | unknownGroup (group : Int)
  | setNotEnded
  | badRange (first last : Text)
  | leastAboveGreatest
  | nothingToRepeat
  | repeatedTwice
  | unexpectedEnd
  | badGroupName (name : Text)
  | unknownGroupName (name : Text)
  | groupNameTaken (name : Text) (group earlier : Nat)
  | badGroupNumber
  | unknownExtension (start : Text)
  | commentNotEnded
  | groupNotEnded
  | tooManyBranches
  | lateGlobalFlags
  | localeFlag
  | typeFlagsTogether
  | typeFlagOff
  | flagExpected (missing : Text)
  | unknownFlag
  | globalFlagOn
  | globalFlagOff
  | flagOnAndOff
  | unbalanced
  deriving Repr, DecidableEq

/-- A fault of a pattern. -/
inductive Fault where
  /-- A problem at a position of the pattern. -/
  | at (problem : Problem) (position : Nat)
  /-- A part looked for behind a place has no fixed width. -/
  | lookBehindWidth
  /-- A part looked for behind a place is too wide. -/
  | lookBehindTooWide
  /-- A template has a repeated part. -/
  | templateRounds (greed : Greed)
  /-- A number of rounds is too great. -/
  | tooManyRounds
  /-- A code point is too great for a machine word. -/
  | codePointTooGreat
  deriving Repr, DecidableEq

/-- Why a pattern is not compiled. -/
inductive Error where
  | invalid (fault : Fault)
  /-- Groups are nested too deep. -/
  | tooDeep
  /-- The whole pattern asks for ASCII and for every script. -/
  | flagConflict
  /-- A number of rounds has too many digits. -/
  | numeral (fault : NumeralFault)
  deriving Repr, DecidableEq

/-! ## Messages -/

/-- A problem in words. -/
def Problem.message : Problem → Text
  | looseBackslash => "bad escape (end of pattern)"
  | badEscape escape => "bad escape " ++ escape
  | incompleteEscape escape => "incomplete escape " ++ escape
  | octalTooGreat escape => "octal escape value " ++ escape ++ " outside of range 0-0o377"
  | noBrace => "missing \x7b"
  | noName what => "missing " ++ what
  | nameNotEnded terminator => "missing " ++ terminator ++ ", unterminated name"
  | unknownCharacterName name => "undefined character name " ++ name.quoted
  | openGroup => "cannot refer to an open group"
  | groupOfSameLook => "cannot refer to group defined in the same lookbehind subpattern"
  | unknownGroup group => "invalid group reference " ++ Text.ofInt group
  | setNotEnded => "unterminated character set"
  | badRange first last => "bad character range " ++ first ++ "-" ++ last
  | leastAboveGreatest => "min repeat greater than max repeat"
  | nothingToRepeat => "nothing to repeat"
  | repeatedTwice => "multiple repeat"
  | unexpectedEnd => "unexpected end of pattern"
  | badGroupName name => "bad character in group name " ++ name.quoted
  | unknownGroupName name => "unknown group name " ++ name.quoted
  | groupNameTaken name group earlier =>
    "redefinition of group name " ++ name.quoted ++ " as group " ++ Text.ofNat group
      ++ "; was group " ++ Text.ofNat earlier
  | badGroupNumber => "bad group number"
  | unknownExtension start => "unknown extension ?" ++ start
  | commentNotEnded => "missing ), unterminated comment"
  | groupNotEnded => "missing ), unterminated subpattern"
  | tooManyBranches => "conditional backref with more than two branches"
  | lateGlobalFlags => "global flags not at the start of the expression"
  | localeFlag => "bad inline flags: cannot use 'L' flag with a str pattern"
  | typeFlagsTogether => "bad inline flags: flags 'a', 'u' and 'L' are incompatible"
  | typeFlagOff => "bad inline flags: cannot turn off flags 'a', 'u' and 'L'"
  | flagExpected missing => "missing " ++ missing
  | unknownFlag => "unknown flag"
  | globalFlagOn => "bad inline flags: cannot turn on global flag"
  | globalFlagOff => "bad inline flags: cannot turn off global flag"
  | flagOnAndOff => "bad inline flags: flag turned on and off"
  | unbalanced => "unbalanced parenthesis"

/-- The name of a kind of repeated part. -/
def Greed.name : Greed → Text
  | greedy => "MAX_REPEAT"
  | reluctant => "MIN_REPEAT"
  | possessive => "POSSESSIVE_REPEAT"

/-- The message of a position: the position, and in a pattern of several lines the line and the
column as well. -/
def positionMessage (pattern : Text) (position : Nat) : Text :=
  let before := pattern.take position
  let column := (before.reverse.takeWhile (· != 0x0a)).length + 1
  let place : Text := " at position " ++ Text.ofNat position
  if List.contains pattern 0x0a then
    let line := before.count 0x0a + 1
    place ++ " (line " ++ Text.ofNat line ++ ", column " ++ Text.ofNat column ++ ")"
  else place

/-- The message of a fault of a pattern. -/
def Fault.message (pattern : Text) : Fault → Text
  | .at problem position => problem.message ++ positionMessage pattern position
  | .lookBehindWidth => "look-behind requires fixed-width pattern"
  | .lookBehindTooWide => "looks too much behind"
  | .templateRounds greed => "internal: unsupported template operator " ++ greed.name
  | .tooManyRounds => "the repetition number is too large"
  | .codePointTooGreat => "Python int too large to convert to C int"

end NotebookAudit.Pattern
