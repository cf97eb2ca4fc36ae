import GoSurvey.Record

/-!
# Structs that cover interfaces

A struct covers an interface of its own package if it declares every method the interface names. An
interface that names no method is left out.
-/

namespace GoSurvey

/-- The methods declared for a struct of a package. -/
structure MethodSet where
  package : String
  structName : String
  methods : List String
deriving DecidableEq, Repr, Inhabited

/-- Whether a struct of a package declares a method, in any of its method sets. -/
def declares (sets : List MethodSet) (package structName method : String) : Bool :=
  sets.any fun s => s.package == package && s.structName == structName && s.methods.contains method

namespace ImplementsRecord

/-- By struct, then by interface. -/
def order (a b : ImplementsRecord) : Ordering :=
  (compare a.structName b.structName).then (compare a.interface b.interface)

end ImplementsRecord

/-- Keeps the first of neighbours that are equal. -/
def dropRepeats {α : Type} [DecidableEq α] : List α → List α
  | [] => []
  | [a] => [a]
  | a :: b :: rest => if a = b then dropRepeats (b :: rest) else a :: dropRepeats (b :: rest)

/-- Sorted, and every record once. -/
def sortImplements (found : List ImplementsRecord) : List ImplementsRecord :=
  dropRepeats (found.mergeSort fun a b => (a.order b).isLE)

/-- Which struct covers which interface. -/
def inferImplements (structs : List StructRecord) (interfaces : List InterfaceRecord)
    (sets : List MethodSet) : List ImplementsRecord :=
  sortImplements <| (interfaces.filter fun i => !i.methods.isEmpty).flatMap fun i =>
    (structs.filter fun s =>
      s.package == i.package && i.methods.all (declares sets s.package s.name)).map fun s =>
        { structName := s.name, interface := i.name }

end GoSurvey
