import GoSurvey.FileName
import GoSurvey.Path

/-!
# Trees of files

Regular files and directories by their names, which are bytes. Siblings have different names. A path
is a text, so it leads only through names that are texts.
-/

namespace GoSurvey

/-- A file or a directory. -/
inductive FileTree where
  | file (name : FileName) (content : List UInt8)
  | directory (name : FileName) (children : List FileTree)
deriving Inhabited

/-- Why a path leads nowhere. -/
inductive AccessError where
  | missing
  | notDirectory
deriving DecidableEq, Repr, Inhabited

/-- Why a path leads nowhere, in words. -/
def AccessError.message : AccessError → String
  | .missing => "No such file or directory (os error 2)"
  | .notDirectory => "Not a directory (os error 20)"

namespace FileTree

/-- The name of a file or directory. -/
def name : FileTree → FileName
  | .file name _ => name
  | .directory name _ => name

/-- Whether this is a directory. -/
def isDirectory : FileTree → Bool
  | .file _ _ => false
  | .directory _ _ => true

/-- The content of a regular file. -/
def content? : FileTree → Option (List UInt8)
  | .file _ content => some content
  | .directory _ _ => none

/-- What a directory holds. -/
def children : FileTree → List FileTree
  | .file _ _ => []
  | .directory _ children => children

/-- What a directory holds under a name. -/
def child? (t : FileTree) (name : FileName) : Option FileTree :=
  t.children.find? (·.name == name)

/-! ## Building trees -/

/-- Puts a file or directory in the place of one of the same name, or at the end. -/
def put (t : FileTree) (siblings : List FileTree) : List FileTree :=
  if siblings.any (·.name == t.name) then
    siblings.map fun s => if s.name == t.name then t else s
  else siblings ++ [t]

/-- Adds a file, or a directory if there is no content, below some directories, which are added
where they are missing. A directory that exists stays. -/
def add (content : Option (List UInt8)) (siblings : List FileTree) :
    List FileName → List FileTree
  | [] => siblings
  | name :: names =>
    let inner := ((siblings.find? (·.name == name)).map children).getD []
    match names, content with
    | [], some content => put (.file name content) siblings
    | _, _ => put (.directory name (add content inner names)) siblings

/-- Adds a file or a directory at a path. -/
def addPath (siblings : List FileTree) (path : String) (content : Option (List UInt8)) :
    List FileTree :=
  add content siblings <| (Path.components path).filterMap fun
    | .name text => some (.ofString (String.ofList text))
    | _ => none

/-! ## Following paths -/

/-- A file or directory together with the directories it lies in, the nearest first. -/
structure Place where
  tree : FileTree
  above : List FileTree := []

namespace Place

/-- Goes one component further. -/
def step (p : Place) : Path.Component → Except AccessError Place
  | .root | .current => .ok p
  | .parent =>
    match p.tree.isDirectory, p.above with
    | false, _ => .error .notDirectory
    | true, [] => .ok p
    | true, t :: above => .ok ⟨t, above⟩
  | .name text =>
    if p.tree.isDirectory then
      match p.tree.child? (.ofString (String.ofList text)) with
      | none => .error .missing
      | some t => .ok ⟨t, p.tree :: p.above⟩
    else .error .notDirectory

/-- Follows all components. -/
def follow (p : Place) : List Path.Component → Except AccessError Place
  | [] => .ok p
  | c :: cs =>
    match p.step c with
    | .error e => .error e
    | .ok p => p.follow cs

/-- The path by which a place is shown, if its outermost directory has the path `base`. -/
def path (base : String) (p : Place) : String :=
  match (p.tree :: p.above).reverse with
  | [] => base
  | _ :: inner => inner.foldl (fun path t => Path.join path t.name.shown) base

end Place

/-- Follows a path. A slash at its end asks for a directory. -/
def find (t : FileTree) (path : String) : Except AccessError Place :=
  match Place.follow ⟨t, []⟩ (Path.components path) with
  | .error e => .error e
  | .ok p =>
    if !p.tree.isDirectory && (path.endsWith "/" || path.endsWith "/.") then .error .notDirectory
    else .ok p

end FileTree

end GoSurvey
