/-!
Paths, as they are given and as they are joined.

A path is kept as its text. `steps` are the names between its slashes; an empty
name or a single dot stays in place and two dots go up.
-/

namespace CloudCluster.Files

/-- A path, absolute or relative. -/
abbrev Path := String

namespace Path

/-- Cuts characters at slashes. -/
def cut : List Char → List (List Char)
  | [] => [[]]
  | c :: rest =>
    if c = '/' then [] :: cut rest
    else match cut rest with
      | [] => [[c]]
      | first :: more => (c :: first) :: more

/-- The names between the slashes of a path. -/
def pieces (path : Path) : List String :=
  (cut path.toList).map String.ofList

/-- Whether a path begins at the root. -/
def isAbsolute (path : Path) : Bool :=
  path.toList.head? = some '/'

/-- The path of a name in a directory. -/
def join (dir : Path) (name : String) : Path :=
  if Path.isAbsolute name then name
  else if dir.isEmpty then name
  else if dir.toList.getLast? = some '/' then dir ++ name
  else dir ++ "/" ++ name

/-- Removes slashes and trailing steps that stay in place from the end of a
path, written backwards. -/
def trimBackwards : List Char → List Char
  | '/' :: rest => trimBackwards rest
  | '.' :: '/' :: rest => trimBackwards rest
  | rest => rest

/-- Removes the last name from a path, written backwards. -/
def dropName : List Char → List Char
  | [] => []
  | c :: rest => if c = '/' then c :: rest else dropName rest

/-- The path of the directory that the last step of a path is taken in; there
is none for the root and for the empty path. -/
def parent? (path : Path) : Option Path :=
  let backwards := trimBackwards path.toList.reverse
  if backwards.isEmpty then none
  else
    let above := trimBackwards (dropName backwards)
    if above.isEmpty && path.isAbsolute then some "/"
    else some (String.ofList above.reverse)

/-- Replaces a tilde that stands alone or before a slash at the start of a path
by a home directory. -/
def expandHome (home : String) (path : Path) : Path :=
  match path.toList with
  | ['~'] => home
  | '~' :: '/' :: rest => home ++ String.ofList ('/' :: rest)
  | _ => path

end Path

end CloudCluster.Files
