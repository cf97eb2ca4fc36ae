/-!
# Paths

A path is a text; what counts is the list of its components. Repeated slashes, slashes at the end
and single dots other than at the start do not count.
-/

namespace GoSurvey.Path

/-- A component of a path. -/
inductive Component where
  | root
  | current
  | parent
  | name (text : List Char)
deriving DecidableEq, Repr, Inhabited

/-- Cuts a path at its first slash. -/
def segment (cs : List Char) : List Char × List Char :=
  (cs.takeWhile (· != '/'), cs.dropWhile (· != '/'))

/-- Drops slashes and single dots from the start of what follows a component. The length of the text
is fuel enough. -/
def trimStart : Nat → List Char → List Char
  | 0, cs => cs
  | fuel + 1, cs =>
    match cs with
    | '/' :: rest => trimStart fuel rest
    | ['.'] => []
    | '.' :: '/' :: rest => trimStart fuel rest
    | _ => cs

/-- Drops slashes and single dots from the end of what follows a component. -/
def trimEnd (cs : List Char) : List Char :=
  (trimStart cs.length cs.reverse).reverse

/-- A path without slashes and single dots at its end. What it starts with stays, even if that is
all there is. -/
def withoutEnd : List Char → List Char
  | '/' :: rest => '/' :: trimEnd rest
  | ['.'] => ['.']
  | '.' :: '/' :: rest => '.' :: trimEnd ('/' :: rest)
  | cs => trimEnd cs

/-- The component at the start of a path, and the rest. -/
def first? : List Char → Option (Component × List Char)
  | [] => none
  | '/' :: rest => some (.root, trimStart rest.length rest)
  | cs =>
    let (head, rest) := segment cs
    let component :=
      if head = ['.'] then .current
      else if head = ['.', '.'] then .parent
      else .name head
    some (component, trimStart rest.length rest)

/-- All components of a path. Each takes a character, so the length of the path is fuel enough. -/
def componentsFrom : Nat → List Char → List Component
  | 0, _ => []
  | fuel + 1, cs =>
    match first? cs with
    | none => []
    | some (c, rest) => c :: componentsFrom fuel rest

/-- The components of a path. -/
def components (path : String) : List Component :=
  componentsFrom path.length path.toList

/-- What is left of a path after some components, if it starts with them. -/
def dropAll? : List Component → List Char → Option (List Char)
  | [], cs => some (trimEnd cs)
  | c :: cs, path =>
    match first? path with
    | none => none
    | some (d, rest) => if c = d then dropAll? cs rest else none

/-- What is left of a path after the components of another one, if it starts with them. -/
def dropComponents? (cs : List Component) (path : List Char) : Option (List Char) :=
  if cs.isEmpty then some (withoutEnd path) else dropAll? cs path

/-- The last component, if it is a name. -/
def fileName? (path : String) : Option String :=
  match (components path).getLast? with
  | some (.name text) => some (String.ofList text)
  | _ => none

/-- Slashes in place of backslashes. -/
def normalize (path : String) : String :=
  String.ofList (path.toList.map fun c => if c = '\\' then '/' else c)

/-- A path as seen from a root. A path that does not lie below the root stays as it is, and the root
itself is shown by its name. -/
def relative (root path : String) : String :=
  match dropComponents? (components root) path.toList with
  | none => normalize path
  | some [] => normalize ((fileName? path).getD path)
  | some rest => normalize (String.ofList rest)

/-- A path below another one. -/
def join (base path : String) : String :=
  if path.startsWith "/" then path
  else if base.isEmpty || base.endsWith "/" then base ++ path
  else base ++ "/" ++ path

end GoSurvey.Path
