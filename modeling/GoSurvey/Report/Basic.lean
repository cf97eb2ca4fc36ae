import GoSurvey.Implements

/-!
# Reports

A report holds all records of a survey. `sort` brings every list of it into an order that depends
on nothing but the records.
-/

namespace GoSurvey

/-- Everything a survey found. -/
structure Report where
  functions : List FunctionRecord := []
  structs : List StructRecord := []
  interfaces : List InterfaceRecord := []
  globals : List GlobalRecord := []
  imports : List ImportRecord := []
  implements : List ImplementsRecord := []
  errors : List FileError := []
deriving Inhabited

/-- Sorted by two keys, the first of which decides first; records with equal keys stay in place. -/
def sortByKeys {α : Type} (first second : α → String) (records : List α) : List α :=
  records.mergeSort fun a b =>
    ((compare (first a) (first b)).then (compare (second a) (second b))).isLE

namespace Report

/-- The first function with a qualified name. -/
def function? (r : Report) (qualifiedName : String) : Option FunctionRecord :=
  r.functions.find? (·.qualifiedName == qualifiedName)

/-- The qualified names of the functions that nothing uses. -/
def unusedFunctions (r : Report) : List String :=
  (r.functions.filter (·.metrics.isUnused)).map (·.qualifiedName)

/-- The qualified names of the functions that lie on a cycle of calls. -/
def recursiveFunctions (r : Report) : List String :=
  (r.functions.filter (·.isRecursive)).map (·.qualifiedName)

/-- The report in its fixed order. -/
def sort (r : Report) : Report where
  functions := sortByKeys (·.qualifiedName) (·.file) r.functions
  structs := sortByKeys (·.file) (·.name) r.structs
  interfaces := sortByKeys (·.file) (·.name) r.interfaces
  globals := sortByKeys (·.file) (·.name) r.globals
  imports := sortByKeys (·.file) (·.path) r.imports
  implements := sortImplements r.implements
  errors := r.errors.mergeSort fun a b => (compare a.file b.file).isLE

end Report

end GoSurvey
