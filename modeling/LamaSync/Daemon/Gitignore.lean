import LamaSync.Core.RegExp
import Mathlib.Data.List.Sort

/-!
# The rule lines of a worktree's ignored entries

The patterns of every `.gitignore` of a worktree go to one matcher, each with the directory it was found in.  A walk asks
the matcher about every entry and prints a rule line for each one it ignores, without going below an ignored directory.
The matcher itself is the package `ignore`.
-/

namespace LamaSync

/-- The name of an entry of a directory. -/
structure FileName where
  units : JsString
  nonempty : units ≠ []
  noSlash : unit '/' ∉ units
  notDot : units ≠ js "."
  notDotDot : units ≠ js ".."
  deriving DecidableEq

/-- The entries of a directory, in the order they are read.  A directory that cannot be read has none. -/
inductive Listing where
  | nil
  | file (name : FileName) (content : JsString) (rest : Listing)
  | dir (name : FileName) (entries : Listing) (rest : Listing)

namespace Listing

def findFile (name : JsString) : Listing → Option JsString
  | nil => none
  | file n content rest => if n.units = name then some content else findFile name rest
  | dir _ _ rest => findFile name rest

def findDir (name : JsString) : Listing → Option Listing
  | nil => none
  | file _ _ rest => findDir name rest
  | dir n entries rest => if n.units = name then some entries else findDir name rest

def filePaths : Listing → List (List FileName)
  | nil => []
  | file name _ rest => [name] :: filePaths rest
  | dir name entries rest => (filePaths entries).map (name :: ·) ++ filePaths rest

end Listing

def relPath (names : List FileName) : JsString := joinPath (names.map FileName.units)

structure GitignoreEnv where
  /-- The package `ignore`: whether a path is ignored after these patterns were added in order. -/
  ignores : List JsString → JsString → Bool
  globalExcludes : Option JsString
  sha256 : JsString → String

def gitignoreFilename : JsString := js ".gitignore"

def gitName : JsString := js ".git"

def readLines (text : JsString) : List JsString :=
  ((text.splitOn 0x0A).map trimJs).filter fun line => !line.isEmpty && line.head? != some (unit '#')

structure PatternSource where
  base : List FileName
  patterns : List JsString

def gitignoreHere (base : List FileName) : Listing → List PatternSource
  | .nil => []
  | .file name content rest =>
    (if name.units = gitignoreFilename then [⟨base, readLines content⟩] else []) ++ gitignoreHere base rest
  | .dir _ _ rest => gitignoreHere base rest

/-- Those of the directories below.  The code takes directories off a stack, so the last one comes first. -/
def gitignoreBelow (base : List FileName) : Listing → List PatternSource
  | .nil => []
  | .file _ _ rest => gitignoreBelow base rest
  | .dir name entries rest =>
    gitignoreBelow base rest ++
      if name.units = gitName then [] else gitignoreHere (base ++ [name]) entries ++ gitignoreBelow (base ++ [name]) entries

def collectGitignoreFiles (root : Listing) : List PatternSource :=
  (gitignoreBelow [] root).insertionSort fun a b => a.base.length ≤ b.base.length

/-- A nested pattern gets its directory in front, whether it is anchored or not. -/
def prefixPattern (pattern base : JsString) : JsString :=
  if base = [] then pattern
  else
    let negative := pattern.head? = some (unit '!')
    let body := if negative then pattern.tail else pattern
    let body := if body.head? = some (unit '/') then body.tail else body
    (if negative then js "!" else []) ++ base ++ js "/" ++ body

/-- The sources in the order in which they are added; later ones override. -/
def patternSources (env : GitignoreEnv) (root : Listing) : List PatternSource :=
  let infoExclude := (root.findDir gitName).bind fun git => (git.findDir (js "info")).bind fun info =>
    info.findFile (js "exclude")
  let texts := [env.globalExcludes, infoExclude, root.findFile gitignoreFilename].reduceOption
  texts.map (fun text => ⟨[], readLines text⟩) ++ collectGitignoreFiles root

structure GitignoreEvaluator where
  matcher : JsString → Bool

def buildMatcher (env : GitignoreEnv) (root : Listing) : GitignoreEvaluator where
  matcher := env.ignores ((patternSources env root).flatMap fun source =>
    source.patterns.map fun pattern => prefixPattern pattern (relPath source.base))

namespace GitignoreEvaluator

variable (evaluator : GitignoreEvaluator)

def toPosix (path : JsString) : JsString := if (js "./").isPrefixOf path then path.drop 2 else path

def isIgnored (path : JsString) : Bool :=
  let posix := toPosix path
  if posix = [] ∨ posix = js "." then false else evaluator.matcher posix

def isIgnoredDir (path : JsString) : Bool :=
  let posix := toPosix path
  let posix := if posix.getLast? = some (unit '/') then posix.dropLast else posix
  if posix = [] ∨ posix = js "." then false else evaluator.matcher (posix ++ js "/")

end GitignoreEvaluator

structure IgnoredEntry where
  names : List FileName
  isDirectory : Bool

def IgnoredEntry.path (entry : IgnoredEntry) : JsString := relPath entry.names

def IgnoredEntry.rule (entry : IgnoredEntry) : JsString :=
  if entry.isDirectory then js "- " ++ entry.path ++ js "/" else js "- " ++ entry.path

def walk (evaluator : GitignoreEvaluator) (above : List FileName) : Listing → List IgnoredEntry
  | .nil => []
  | .file name _ rest =>
    (if evaluator.isIgnored (relPath (above ++ [name])) then [⟨above ++ [name], false⟩] else []) ++ walk evaluator above rest
  | .dir name entries rest =>
    (if name.units = gitName then []
      else if evaluator.isIgnoredDir (relPath (above ++ [name])) then [⟨above ++ [name], true⟩]
      else walk evaluator (above ++ [name]) entries) ++ walk evaluator above rest

structure FilterSnapshot where
  rules : List JsString
  hash : String

def ignoredEntries (env : GitignoreEnv) (root : Listing) : List IgnoredEntry := walk (buildMatcher env root) [] root

def buildRcloneFilterSnapshot (env : GitignoreEnv) (root : Listing) : FilterSnapshot :=
  let rules := (ignoredEntries env root).map IgnoredEntry.rule
  ⟨rules, env.sha256 ([0x0A].intercalate rules)⟩

end LamaSync
