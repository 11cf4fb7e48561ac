import SchemaGrammar.Text.Parts

/-!
# Paths

A path is a text of components divided by slashes. Repeated slashes, slashes at the end and
components of a single point say nothing, except that a path may begin with such a component.
-/

namespace SchemaGrammar.Path

/-- Whether a part says nothing: it is empty or a single point. -/
def isIdle (part : List Char) : Bool := part == [] || part == ['.']

/-- The components of a path, without those that say nothing. -/
def components (path : String) : List String :=
  ((Text.parts '/' path.toList).filter (!isIdle ·)).map String.ofList

/-- Whether the path begins at the root. -/
def isAbsolute (path : String) : Bool := path.toList.head? == some '/'

/-- How a path ends: in a name, in a slash after a name, or in a component of a single point. -/
inductive Ending where
  | name
  | slash
  | point
deriving DecidableEq

/-- How a path ends. -/
def ending (path : String) : Ending :=
  match (Text.parts '/' path.toList).reverse with
  | [] :: parts =>
    match parts.dropWhile (· == []) with
    | ['.'] :: _ => .point
    | _ => .slash
  | ['.'] :: _ => .point
  | _ => .name

/-- Whether the path can only name a directory: it ends in a slash or in a single point. -/
def namesDirectory (path : String) : Bool := ending path != .name

/-- The name that a path ends in, unless it leads upwards or nowhere. -/
def fileName? (path : String) : Option String :=
  match (components path).getLast? with
  | some name => if name = ".." then none else some name
  | none => none

/-- What follows the last point of the path's name. A point at the start of the name does not
count. -/
def extension? (path : String) : Option String :=
  (fileName? path).bind fun name =>
    let reversed := name.toList.reverse
    match reversed.dropWhile (· != '.') with
    | _ :: _ :: _ => some (String.ofList (reversed.takeWhile (· != '.')).reverse)
    | _ => none

/-- Removes slashes and idle components from the end of a reversed path, down to a component that
says something or to the beginning; a leading point is such a beginning. -/
def trimReversed : List Char → List Char
  | '/' :: rest =>
    match trimReversed rest with
    | [] => ['/']
    | trimmed => trimmed
  | '.' :: '/' :: rest =>
    match trimReversed rest with
    | [] => ['/']
    | trimmed => trimmed
  | cs => cs

/-- The path without its last component; none for a path that has none. -/
def parent? (path : String) : Option String :=
  match trimReversed path.toList.reverse with
  | [] => none
  | ['/'] => none
  | reversed => some (String.ofList (trimReversed (reversed.dropWhile (· != '/'))).reverse)

end SchemaGrammar.Path
