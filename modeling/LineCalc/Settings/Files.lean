/-
Files — what stands at the paths that the calculator looks at.

The calculator only ever asks what one path names, so the file system is a
function on paths.  Paths are brought to a plain form first: repeated and
closing slashes and single points are left out.

## Main definitions

  * `Entry` and `Files`.
  * `Path.plain` — the plain form of a path.
  * `Files.ofFolder` — the files of a working directory without folders in
    its folders.  Nothing is known of what stands outside.
-/

namespace LineCalc

/-- **Entry**: what a path names. -/
inductive Entry where
  | absent
  | folder
  | file (bytes : ByteArray)
  /-- The path has a name, or is itself, longer than a file system allows. -/
  | nameTooLong
  deriving Inhabited

/-- **Files**: what each path names. -/
abbrev Files := String → Entry

/-! ## §1. Paths -/

namespace Path

/-- The names of a path, between its slashes. -/
def names (path : String) : List String :=
  (path.splitOn "/").filter fun name => name ≠ "" ∧ name ≠ "."

/-- The slashes that start a path from the root: two stay two, more are one. -/
def root (path : String) : String :=
  match path.toList with
  | '/' :: '/' :: '/' :: _ => "/"
  | '/' :: '/' :: _ => "//"
  | '/' :: _ => "/"
  | _ => ""

/-- **The plain form of a path**. -/
def plain (path : String) : String :=
  let text := root path ++ "/".intercalate (names path)
  if text = "" then "." else text

/-- The longest name of a file, in bytes. -/
def longestName : Nat := 255

def longestPath : Nat := 4095

/-- A path with a NUL character, which no file can have. -/
def holdsNul (path : String) : Bool := path.toList.contains '\x00'

end Path

/-! ## §2. Working directories -/

namespace Files

/-- **Place**: where the names of a path have led so far. -/
inductive Place where
  /-- A folder above the working directory. -/
  | outside
  /-- The working directory. -/
  | here
  /-- A folder in the working directory; it is empty. -/
  | below
  deriving DecidableEq, Inhabited

/-- The folder that holds a place. -/
def Place.parent : Place → Place
  | below => here
  | _ => outside

/-- What a row of names leads to from a place. -/
def walk (members : List (String × Entry)) : Place → List String → Entry
  | _, [] => .folder
  | place, name :: rest =>
    if name.utf8ByteSize > Path.longestName then .nameTooLong
    else if name = ".." then walk members place.parent rest
    else if place = .here then
      match members.lookup name with
      | none => .absent
      | some .folder => walk members .below rest
      | some entry => if rest.isEmpty then entry else .absent
    else .absent

/-- **The files of a working directory**, given by the names in it. -/
def ofFolder (members : List (String × Entry)) : Files := fun path =>
  if Path.holdsNul path then .absent
  else if path.utf8ByteSize > Path.longestPath then .nameTooLong
  else walk members (if Path.root path = "" then .here else .outside) (Path.names path)

end Files

end LineCalc
