import LamaSync.Core.Text
import LamaSync.Lib.Pattern
import Mathlib.Data.List.DropRight
import Mathlib.Data.UInt

/-!
# Strings in UTF-16 units and regular expressions

Names of files are strings of UTF-16 units here, because a regular expression without the `u` flag reads one unit at a
time.  Of the regular expressions of the language the sources that a glob is translated to are read: a start anchor,
perhaps a group for the directories above, then atoms with or without a star, and an end anchor.  What any other source
does is up to the engine.
-/

namespace LamaSync

open Pattern

abbrev CodeUnit := UInt16

abbrev JsString := List CodeUnit

def unit (c : Char) : CodeUnit := UInt16.ofNat c.toNat

/-- A literal in ASCII characters. -/
def js (text : String) : JsString := text.toList.map unit

/-- What `\s` matches. -/
def isSpaceUnit (c : CodeUnit) : Bool := isJsSpace (Char.ofNat c.toNat)

def trimJs (text : JsString) : JsString := (text.dropWhile isSpaceUnit).rdropWhile isSpaceUnit

def joinPath (parts : List JsString) : JsString := [unit '/'].intercalate parts

def pathParts (path : JsString) : List JsString := (path.splitOn (unit '/')).filter fun part => !part.isEmpty

/-- What a `.` does not match. -/
def isLineTerminatorUnit (c : CodeUnit) : Bool := c == 0x0A || c == 0x0D || c == 0x2028 || c == 0x2029

/-- The engine: the test of a source (or the message of its `SyntaxError`) outside of what is read here, and the message
of a source with a class whose range is out of order. -/
structure RegExpEngine where
  compile : JsString → Except JsString (JsString → Bool)
  rangeMessage : JsString → JsString

def classRanges : Nat → JsString → Option (List (CodeUnit × CodeUnit))
  | _, [] => some []
  | read + 1, _ :: rest => classRanges read rest
  | 0, low :: rest =>
    match rest[1]? with
    | none => (classRanges 0 rest).map ((low, low) :: ·)
    | some high =>
      if rest.head? = some (unit '-') then
        if low ≤ high then (classRanges 2 rest).map ((low, high) :: ·) else none
      else (classRanges 0 rest).map ((low, low) :: ·)

def inRanges (ranges : List (CodeUnit × CodeUnit)) (c : CodeUnit) : Bool :=
  ranges.any fun range => range.1 ≤ c && c ≤ range.2

def classTest (content : JsString) : Option (CodeUnit → Bool) :=
  if content.head? = some (unit '^') then (classRanges 0 content.tail).map fun ranges c => !inRanges ranges c
  else (classRanges 0 content).map inRanges

/-- What an atom cannot be without a backslash. -/
def isOperator (c : CodeUnit) : Bool := (js "^$\\.*+?()[\x7b\x7d|").contains c

/-- What a backslash makes an atom of. -/
def isSyntaxCharacter (c : CodeUnit) : Bool := (js "^$\\.*+?()[]\x7b\x7d|").contains c

inductive RegExpReading where
  | terms (ts : List (Term CodeUnit))
  | syntaxError
  | foreign

def RegExpReading.cons (t : Term CodeUnit) : RegExpReading → RegExpReading
  | .terms ts => .terms (t :: ts)
  | .syntaxError => .syntaxError
  | .foreign => .foreign

inductive RegExpMode where
  | atom
  | star
  | escape
  | inClass (content : JsString)

def quantified (p : CodeUnit → Bool) (rest : JsString) (starred unstarred : RegExpReading) : RegExpReading :=
  if rest.head? = some (unit '*') then starred.cons (.many p) else unstarred.cons (.one p)

def readRegExp : RegExpMode → JsString → RegExpReading
  | _, [] => .foreign
  | .star, _ :: rest => readRegExp .atom rest
  | .escape, c :: rest =>
    if isSyntaxCharacter c then quantified (· == c) rest (readRegExp .star rest) (readRegExp .atom rest) else .foreign
  | .inClass content, c :: rest =>
    if c = unit ']' then
      match classTest content with
      | none => .syntaxError
      | some p => quantified p rest (readRegExp .star rest) (readRegExp .atom rest)
    else if c = unit '\\' then .foreign
    else readRegExp (.inClass (content ++ [c])) rest
  | .atom, c :: rest =>
    if c = unit '$' ∧ rest = [] then .terms []
    else if c = unit '.' then quantified (!isLineTerminatorUnit ·) rest (readRegExp .star rest) (readRegExp .atom rest)
    else if c = unit '[' then readRegExp (.inClass []) rest
    else if c = unit '\\' then readRegExp .escape rest
    else if isOperator c then .foreign
    else quantified (· == c) rest (readRegExp .star rest) (readRegExp .atom rest)

def directoriesAbove : List (Term CodeUnit) := [.many (!isLineTerminatorUnit ·), .one (· == unit '/')]

def newRegExp (engine : RegExpEngine) (source : JsString) : Except JsString (JsString → Bool) :=
  let above := (js "^(?:.*/)?").isPrefixOf source
  let body := if above then source.drop 9 else source.drop 1
  if (js "^").isPrefixOf source then
    match readRegExp .atom body with
    | .terms ts => .ok fun text => accepts ts text || (above && accepts (directoriesAbove ++ ts) text)
    | .syntaxError => .error (engine.rangeMessage source)
    | .foreign => engine.compile source
  else engine.compile source

end LamaSync
