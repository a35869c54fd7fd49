import Mathlib.Data.List.Basic
import Mathlib.Data.List.DropRight

/-!
# Data Browser references

A reference names a directory, of the backup root or of an S3 folder, by a path as the client wrote it.  The keys of the
Data Browser are texts made of the reference, and so depend on the spelling.

What a path names is its `Place`: a store and the segments of the path in it.  A path of the backup root may pass through
`.` segments, two S3 folders may have one bucket, and the folder id of a reference to the backup root is never looked at,
so a place has many spellings.
-/

namespace LamaSync

inductive BrowseKind where
  | local_ | s3
  deriving DecidableEq

def BrowseKind.text : BrowseKind → String
  | .local_ => "local"
  | .s3 => "s3"

structure BrowseRef where
  kind : BrowseKind
  folderId : Option String
  path : String
  deriving DecidableEq

/-- Where the objects of an S3 folder are. -/
structure S3Bucket where
  endpoint : String
  bucket : String
  deriving DecidableEq

def trimSlashes (path : String) : String := String.ofList ((path.toList.dropWhile (· == '/')).rdropWhile (· == '/'))

def slashed (path : String) : String := String.ofList (path.toList.map fun c => if c = '\\' then '/' else c)

def splitSlash (path : String) : List String := (path.toList.splitOn '/').map String.ofList

def destKey (ref : BrowseRef) : String :=
  ref.kind.text ++ ":" ++ ref.folderId.getD "" ++ ":" ++ trimSlashes ref.path

def joinRelativePath (base suffix : String) : String :=
  let trimmed := trimSlashes base
  if trimmed = "" then suffix else trimmed ++ "/" ++ suffix

/-- The path of an entry in its store, as rclone is given it. -/
def remotePath (ref : BrowseRef) (name : String) : String :=
  if name = "" then trimSlashes ref.path else joinRelativePath ref.path name

def validateBrowseInput (input : String) : Bool :=
  let normalized := slashed input
  !input.toList.contains (Char.ofNat 0) && normalized.toList.head? != some '/' &&
    (normalized == "" || (splitSlash normalized).all fun segment => segment != "" && segment != "..")

def isSafePath (path name : String) : Bool := validateBrowseInput (if path = "" then name else path ++ "/" ++ name)

def isContainedLocalMove (srcPath srcName dstPath : String) : Bool :=
  let srcDir := String.ofList (srcPath.toList.rdropWhile (· == '/')) ++ "/" ++ srcName
  let dst := String.ofList (dstPath.toList.rdropWhile (· == '/'))
  srcPath == dstPath || dst == srcDir || (srcDir ++ "/").toList.isPrefixOf dst.toList

def isSafeS3IntraFolderMove (srcPath dstPath : String) (names : List String) : Bool :=
  let src := trimSlashes srcPath
  let dst := trimSlashes dstPath
  src != dst && names.all fun name =>
    let srcEntry := if src = "" then trimSlashes name else src ++ "/" ++ trimSlashes name
    !(dst == srcEntry || (srcEntry ++ "/").toList.isPrefixOf dst.toList)

inductive BrowseStore where
  | backupRoot
  | bucket (bucket : S3Bucket)
  deriving DecidableEq

structure Place where
  store : BrowseStore
  segments : List String
  deriving DecidableEq

namespace Place

/-- One is the other, or lies inside it. -/
def Meets (p q : Place) : Prop := p.store = q.store ∧ (p.segments <+: q.segments ∨ q.segments <+: p.segments)

instance (p q : Place) : Decidable (p.Meets q) := inferInstanceAs (Decidable (_ ∧ (_ ∨ _)))

theorem Meets.symm {p q : Place} (h : p.Meets q) : q.Meets p := ⟨h.1.symm, h.2.symm⟩

end Place

/-- What `resolveS3` finds of a folder, or the text of its error. -/
abbrev S3Folders := String → Except String S3Bucket

def BrowseRef.store (folders : S3Folders) (ref : BrowseRef) : Except String BrowseStore :=
  match ref.kind, ref.folderId with
  | .local_, _ => .ok .backupRoot
  | .s3, none | .s3, some "" => .error "s3 ref requires folderId"
  | .s3, some folderId => (folders folderId).map .bucket

/-- What a path in a store names: the file system skips `.`, and object keys are taken as they are. -/
def storePlace (store : BrowseStore) (path : String) : Place where
  store := store
  segments := (splitSlash path).filter fun segment => segment != "" && (store != .backupRoot || segment != ".")

def entryPlace (store : BrowseStore) (ref : BrowseRef) (name : String) : Place := storePlace store (remotePath ref name)

end LamaSync
