import HobitQueue.Lib.LexicalPaths
import HobitQueue.Lib.Text
import Mathlib.Data.List.Infix

/-!
# Paths relative to a repository

A path is checked before it is passed to git, once for a diff and once for a commit, by two
validators written apart. The first looks at the text alone and takes both slashes for
separators. The second looks at the components of the path on the platform it runs on,
where a backslash may be a letter of a name, and turns backslashes into slashes afterwards.
-/

namespace HobitQueue.Git

open LexicalPath

def backslash : Char := Char.ofNat 92

/-! ## A diff -/

inductive GitDiffError where
  | repositoryNotConfigured
  | pathNotFound
  | notDirectory
  | notGitRepository
  | permissionDenied
  | gitUnavailable
  | timedOut
  | nonUtf8Output
  | unknown (message : String)
  deriving DecidableEq, Repr

/-- `char::is_ascii_alphabetic`. -/
def isAsciiAlphabetic (c : Char) : Bool := ('a' ≤ c && c ≤ 'z') || ('A' ≤ c && c ≤ 'Z')

def looksLikeWindowsAbsolutePath : List Char → Bool
  | letter :: colon :: separator :: _ =>
      colon == ':' && (separator == backslash || separator == '/') && isAsciiAlphabetic letter
  | _ => false

/-- `path.split('\\').join("/")`. -/
def withSlashes (path : List Char) : List Char := ['/'].intercalate (path.splitOn backslash)

/-- The shapes of a path that leads, or may lead, out of the repository. -/
def mayLeaveRepository (path : List Char) : Bool :=
  let normalized := withSlashes path
  ['-'].isPrefixOf path || [':'].isPrefixOf path || ['/'].isPrefixOf path ||
    [backslash, backslash].isPrefixOf path ||
    path.contains '*' || path.contains '?' || path.contains '[' || path.contains ']' ||
    looksLikeWindowsAbsolutePath path ||
    normalized == here || normalized == parent ||
    ['/'].isSuffixOf normalized || (parent ++ ['/']).isPrefixOf normalized ||
    decide ('/' :: parent ++ ['/'] <:+: normalized) ||
    decide ('/' :: here ++ ['/'] <:+: normalized)

/-- The check of a path whose diff is read. -/
def validateRepoRelativePath (path : String) : Except GitDiffError String :=
  if Text.trim path ≠ path || path == "" || path.toList.contains (Char.ofNat 0) then
    .error (.unknown "selected path must be a non-empty repo-relative path")
  else if mayLeaveRepository path.toList then
    .error (.unknown "selected path must stay inside the repository")
  else .ok path

/-! ## A commit -/

inductive GitCommitError where
  | repositoryNotConfigured
  | pathNotFound
  | notDirectory
  | notGitRepository
  | permissionDenied
  | gitUnavailable
  | timedOut
  | nonUtf8Output
  | emptyCommitMessage
  | emptyIncludedFiles
  | invalidIncludedFile (path reason : String)
  | stagedFilesOutsideSelection (files : List String)
  | unknown (message : String)
  deriving DecidableEq, Repr

/-- The platform whose paths `std::path` reads. -/
inductive Platform where
  | posix
  | windows
  deriving DecidableEq, Repr

def isEitherSeparator (c : Char) : Bool := c == '/' || c == backslash

def Platform.isSeparator : Platform → Char → Bool
  | posix, c => c == '/'
  | windows, c => isEitherSeparator c

/-- `std::path::Component`. A share or a device before the root of a Windows path is refused
like the root, and counts as one here. -/
inductive Component where
  | rootDir
  | curDir
  | parentDir
  | normal (name : List Char)
  deriving DecidableEq, Repr

def component (c : List Char) : Option Component :=
  if c = [] ∨ c = here then none
  else if c = parent then some .parentDir
  else some (.normal c)

/-- `Path::components`: a dot counts only at the start. -/
def components (platform : Platform) (path : List Char) : List Component :=
  let cuts := path.splitOnP platform.isSeparator
  (if path.head?.any platform.isSeparator then [.rootDir]
    else if cuts.head? = some here then [.curDir]
    else []) ++ cuts.filterMap component

/-- The part of a Windows path behind two separators names a share or a device. -/
def namesShareOrDevice (rest : List Char) : Bool :=
  match rest.splitOnP isEitherSeparator with
  | server :: share :: _ => server == here || (server != [] && share != [])
  | _ => false

/-- `Path::is_absolute`. A drive has a colon and a verbatim path a question mark, which are
refused before. -/
def isAbsolute : Platform → List Char → Bool
  | .posix, path => path.head? == some '/'
  | .windows, first :: second :: rest =>
      isEitherSeparator first && isEitherSeparator second && namesShareOrDevice rest
  | .windows, _ => false

def invalidFile (path reason : String) : GitCommitError := .invalidIncludedFile path reason

/-- Why a path with this component is refused. -/
def refusedComponent : Component → Option String
  | .normal _ => none
  | .parentDir => some "path must not escape repo root"
  | .curDir => some "path must not contain . segments"
  | .rootDir => some "absolute paths are not allowed"

/-- `path.replace('\\', "/")`. -/
def replaceBackslashes (path : List Char) : List Char :=
  path.map fun c => if c = backslash then '/' else c

/-- `isDir` tells whether there is a directory at a path below the repository root. -/
def validateIncludedFile (platform : Platform) (isDir : String → Bool) (path : String) :
    Except GitCommitError String :=
  let path := Text.trim path
  if path = "" then .error (invalidFile path "path must not be empty")
  else if path.toList.contains (Char.ofNat 0) then
    .error (invalidFile path "path must not contain NUL bytes")
  else if ['-'].isPrefixOf path.toList then
    .error (invalidFile path "path must not look like a command option")
  else if [':', '('].isPrefixOf path.toList ||
      path.toList.any (['*', '?', '[', ']'].contains ·) then
    .error (invalidFile path "pathspec expressions and wildcards are not supported")
  else if path.toList.contains ':' then
    .error (invalidFile path "path must be a repo-relative file path")
  else if isAbsolute platform path.toList then
    .error (invalidFile path "absolute paths are not allowed")
  else
    match (components platform path.toList).findSome? refusedComponent with
    | some reason => .error (invalidFile path reason)
    | none =>
        if isDir path then
          .error (invalidFile path "directories are not accepted in included_files")
        else .ok (String.ofList (replaceBackslashes path.toList))

/-! ## Inside the repository -/

/-- The components of a path, cut at slashes of both kinds. -/
def cut (path : List Char) : List (List Char) := path.splitOnP isEitherSeparator

/-- A path that starts with a drive. -/
def HasDrive (path : List Char) : Prop :=
  ∃ letter rest, path = letter :: ':' :: rest ∧ isAsciiAlphabetic letter = true

/-- A path that starts with a separator, which a share does too, or with a drive. -/
def IsAbsolutePath (path : List Char) : Prop :=
  path.head?.any isEitherSeparator = true ∨ HasDrive path

/-- The path leads to something inside the repository, on every platform. -/
structure StaysInRepo (path : String) : Prop where
  below : StaysBelow (cut path.toList)
  relative : ¬ IsAbsolutePath path.toList

end HobitQueue.Git
