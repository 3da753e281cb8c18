import ModBuild.Text.Ranges

/-!
# `ModBuild.Files.Path`: paths as text

A path is a text with slashes. Texts that lead to the same file are different paths, and the path a
person wrote is the one shown, so operations change no more of it than they must.

* `Path.join`, `Path.parent?` and `Path.absolute` build paths from paths.
* `Path.parts` are the names that a walk along a path meets.
-/

set_option autoImplicit false

namespace ModBuild.Path

/-- The path starts at the root. -/
def isAbsolute (path : String) : Bool :=
  path.toList.head? = some '/'

/-- The path ends in a slash. -/
def endsInSlash (path : String) : Bool :=
  path.toList.getLast? = some '/'

/-- The texts between the slashes of a path, without the slash at its start. -/
def segments (path : String) : List (List Char) :=
  let s := path.toList
  Text.cutAt (· = '/') (if isAbsolute path then s.drop 1 else s)

/-- Appends a path. An absolute one takes the place of the first. -/
def join (base path : String) : String :=
  if isAbsolute path then path
  else if base = "" || endsInSlash base then base ++ path
  else base ++ "/" ++ path

/-- Segments that a path could do without: empty ones, and dots but for one at the start of a
relative path. The last segment comes first. -/
def dropIdle (isRelative : Bool) : List (List Char) → List (List Char)
  | [] => []
  | segment :: before =>
    if segment = [] || (segment = ['.'] && !(isRelative && before = [])) then
      dropIdle isRelative before
    else segment :: before

/-- The path without its last name, unless it has none. -/
def parent? (path : String) : Option String :=
  let relative := !isAbsolute path
  match dropIdle relative (segments path).reverse with
  | [] => none
  | _ :: before =>
    let kept := (dropIdle relative before).reverse
    let body := String.intercalate "/" (kept.map String.ofList)
    some (if relative then body else "/" ++ body)

/-- The names along a path: what is between slashes, without empty texts. -/
def parts (path : String) : List String :=
  ((segments path).filter (· ≠ [])).map String.ofList

/-- Appends names one by one. -/
def joinAll (base : String) (names : List String) : String :=
  names.foldl join base

/-- The path from the root on, given the working directory. Dots and slashes that make no difference
go, parents and a slash at the end stay, and so do two slashes at the start. -/
def absolute (cwd path : String) : String :=
  let twoSlashes := path.startsWith "//" && !path.startsWith "///"
  let base :=
    if isAbsolute path then (if twoSlashes then "//" else "/") else cwd
  let plain := joinAll base ((parts path).filter (· ≠ "."))
  if endsInSlash path then join plain "" else plain

/-- The path and those above it, as long as they have a name to make, nearest first. -/
def ancestors (path : String) : List String :=
  climb (segments path).length path
where
  /-- At most `fuel` more paths above a path, which has no more segments than that. -/
  climb : (fuel : Nat) → String → List String
    | 0, _ => []
    | fuel + 1, path =>
      match parent? path with
      | none => []
      | some above => path :: climb fuel above

end ModBuild.Path
