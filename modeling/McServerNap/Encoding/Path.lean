/-!
# Paths

Unix paths are bytes with slashes between their names. Two paths are equal when their
components are: repeated and trailing slashes and the name `.` make no difference.
-/

namespace Encoding

/-- A path of the Unix platforms: any bytes, of which a slash separates components. -/
abbrev Path := List UInt8

namespace Path

/-- The separator. -/
def slash : UInt8 := 47
/-- What the components `.` and `..` consist of. -/
def dot : UInt8 := 46

/-- `Path::is_absolute`. -/
def isAbsolute (path : Path) : Bool := path.head? = some slash

/-- `Path::join`. An absolute path replaces its base. -/
def join (base path : Path) : Path :=
  if isAbsolute path then path
  else if base.getLast?.any (· ≠ slash) then base ++ slash :: path
  else base ++ path

/-- What a path is read as: a root, the special names, or a name. -/
inductive Component where
  | rootDir
  | curDir
  | parentDir
  | normal (name : List UInt8)
  deriving DecidableEq, Repr

/-- A name that is no component. -/
def isSkipped (name : List UInt8) : Bool := name = [] ∨ name = [dot]

/-- The component of a name. -/
def component (name : List UInt8) : Option Component :=
  if isSkipped name then none
  else if name = [dot, dot] then some .parentDir
  else some (.normal name)

/-- `Path::components`. Only a path that begins with `.` has that as a component. -/
def components (path : Path) : List Component :=
  let names := path.splitOn slash
  let root :=
    if isAbsolute path then [.rootDir] else if names.head? = some [dot] then [.curDir] else []
  root ++ names.filterMap component

/-- `Path::parent` of an absolute path: without its last component. The root has none. -/
def parent (path : Path) : Option Path :=
  match (path.tail.splitOn slash).reverse.dropWhile isSkipped with
  | [] => none
  | _ :: before => some (slash :: [slash].intercalate (before.dropWhile isSkipped).reverse)

end Path

end Encoding
