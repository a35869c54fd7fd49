import LamaSync.Core.RegExp

/-!
# Rclone filter rules as a predicate

What the seed makes of the rule lines that bisync hands to `rclone`: a line is a sign, a space and a pattern, a pattern is
a glob or `{{regex}}`, the first rule that matches decides, and a path below an excluded directory is excluded.
-/

namespace LamaSync

open Pattern

structure RcloneFilterRule where
  isInclude : Bool
  /-- As `rclone` receives it. -/
  pattern : JsString
  directoryOnly : Bool
  regex : Bool
  /-- The test of a relative path and of whether it is a directory. -/
  isMatch : JsString → Bool → Bool

def regexMetacharacters : JsString := js "\\^$.|+()\x7b\x7d"

/-- What the translation does with the next unit: read it, skip the second star of two, or copy a class. -/
inductive GlobMode where
  | read | skip | copy
  deriving DecidableEq

def globSource : GlobMode → JsString → JsString
  | _, [] => []
  | .skip, _ :: rest => globSource .read rest
  | .copy, c :: rest => c :: globSource (if c = unit ']' then .read else .copy) rest
  | .read, c :: rest =>
    if c = unit '*' then
      if rest.head? = some (unit '*') then js ".*" ++ globSource .skip rest
      else js "[^/]*" ++ globSource .read rest
    else if c = unit '?' then js "[^/]" ++ globSource .read rest
    else if c = unit '[' then
      -- a class is copied up to its closing bracket
      if rest.contains (unit ']') then c :: globSource .copy rest else js "\\[" ++ globSource .read rest
    else if regexMetacharacters.contains c then unit '\\' :: c :: globSource .read rest
    else c :: globSource .read rest

def rcloneGlobToRegexSource (glob : JsString) : JsString := globSource .read glob

def isRegexPattern (raw : JsString) : Bool :=
  (js "\x7b\x7b").isPrefixOf raw && (js "\x7d\x7d").isSuffixOf raw && decide (4 < raw.length)

/-- What stands between the braces. -/
def regexOfPattern (raw : JsString) : JsString := (raw.drop 2).take (raw.length - 4)

def anchoredSource (glob : JsString) : JsString :=
  let rooted := glob.head? = some (unit '/')
  let pattern := if rooted then glob.tail else glob
  let body := rcloneGlobToRegexSource pattern
  if rooted ∨ unit '/' ∈ pattern then js "^" ++ body ++ js "$" else js "^(?:.*/)?" ++ body ++ js "$"

def parseRcloneFilterRule (engine : RegExpEngine) (line : JsString) : Except JsString (Option RcloneFilterRule) :=
  let trimmed := trimJs line
  let malformed := fun why : String => js "malformed rule \"" ++ trimmed ++ js why
  if trimmed = [] then .ok none
  else if trimmed.head? = some (unit '#') ∨ trimmed.head? = some (unit ';') then .ok none
  else if trimmed.head? ≠ some (unit '-') ∧ trimmed.head? ≠ some (unit '+') then
    .error (malformed "\" (expected a \"- \" or \"+ \" prefix)")
  else if trimmed[1]? ≠ some (unit ' ') then
    .error (malformed "\" (a rule needs exactly one space after the sign)")
  else
    let raw := trimmed.drop 2
    let isInclude := trimmed.head? == some (unit '+')
    if raw = [] then .error (malformed "\" (empty pattern)")
    else if isRegexPattern raw then
      match newRegExp engine (js "^(?:.*/)?" ++ regexOfPattern raw ++ js "$") with
      | .error message =>
        .error (js "the filter rule \"" ++ trimmed ++ js "\" is not a usable regular expression (" ++ message ++ js ")")
      | .ok test => .ok (some ⟨isInclude, raw, false, true, fun path isDirectory => !isDirectory && test path⟩)
    else
      let directoryOnly := decide (1 < raw.length) && raw.getLast? == some (unit '/')
      match newRegExp engine (anchoredSource (if directoryOnly then raw.dropLast else raw)) with
      | .error message =>
        .error (js "the filter rule \"" ++ trimmed ++ js "\" could not be compiled (" ++ message ++ js ")")
      | .ok test =>
        .ok (some ⟨isInclude, raw, directoryOnly, false, fun path isDirectory => directoryOnly == isDirectory && test path⟩)

structure CompiledRcloneFilter where
  ok : Bool
  /-- The first rule that matches decides; a path without one is included. -/
  includes : JsString → Bool → Bool
  errors : List JsString
  ruleCount : Nat

def compileRcloneFilterRules (engine : RegExpEngine) (lines : List JsString) : CompiledRcloneFilter :=
  let parsed := lines.map (parseRcloneFilterRule engine)
  let errors := parsed.filterMap fun
    | .error reason => some reason
    | .ok _ => none
  let rules := parsed.filterMap fun
    | .ok rule => rule
    | .error _ => none
  { ok := errors.isEmpty
    includes := fun path isDirectory =>
      if path = [] then true
      else match rules.find? fun rule => rule.isMatch path isDirectory with
        | some rule => rule.isInclude
        | none => true
    errors := errors
    ruleCount := rules.length }

def universePathIncluded (includes : JsString → Bool → Bool) (path : JsString) (isDirectory : Bool) : Bool :=
  if path = [] ∨ path = js "." then true
  else
    let parts := pathParts path
    (List.range parts.length).all fun i =>
      includes (joinPath (parts.take (i + 1))) (if i + 1 = parts.length then isDirectory else true)

end LamaSync
