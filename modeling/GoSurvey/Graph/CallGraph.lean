import Std.Data.HashMap
import GoSurvey.Graph.Component
import GoSurvey.Graph.Reach
import GoSurvey.Record

/-!
# The call graph

Functions with the same qualified name share a node. A callee without a dot is looked up in the
caller's own package, any other callee as it is written; what names no known function is left out.
-/

namespace GoSurvey

/-- Qualified names numbered by first occurrence, the records behind each, and the edges between
them. Local edges come from callees without a dot. -/
structure CallGraph where
  names : Array String
  index : Std.HashMap String Nat
  records : Array (List Nat)
  edges : Array (List Nat)
  localEdges : Array (List Nat)

namespace CallGraph

/-- A graph without nodes. -/
def empty : CallGraph :=
  ⟨#[], ∅, #[], #[], #[]⟩

/-- The number of nodes. -/
def size (g : CallGraph) : Nat :=
  g.names.size

/-- The node of a qualified name. -/
def node? (g : CallGraph) (name : String) : Option Nat :=
  g.index[name]?

/-- Adds the record with number `i` to the node of its name. -/
def addRecord (g : CallGraph) (f : FunctionRecord) (i : Nat) : CallGraph :=
  match g.node? f.qualifiedName with
  | some v => { g with records := g.records.modify v (· ++ [i]) }
  | none =>
    { g with
      names := g.names.push f.qualifiedName
      index := g.index.insert f.qualifiedName g.size
      records := g.records.push [i]
      edges := g.edges.push []
      localEdges := g.localEdges.push [] }

/-- Whether a callee is written without a dot. -/
def isBare (callee : String) : Bool :=
  !callee.contains '.'

/-- The qualified name a callee stands for inside a package. -/
def resolve (package callee : String) : String :=
  if isBare callee then package ++ "." ++ callee else callee

/-- Adds a node to a list of targets unless it is there. -/
def addTarget (target : Nat) (targets : List Nat) : List Nat :=
  if target ∈ targets then targets else targets ++ [target]

/-- Adds the edges for one callee of a function. -/
def addCallee (package : String) (caller : Nat) (g : CallGraph) (callee : String) : CallGraph :=
  match g.node? (resolve package callee) with
  | none => g
  | some target =>
    { g with
      edges := g.edges.modify caller (addTarget target)
      localEdges :=
        if isBare callee then g.localEdges.modify caller (addTarget target) else g.localEdges }

/-- Adds the edges for all callees of a function. -/
def addCallees (g : CallGraph) (f : FunctionRecord) : CallGraph :=
  match g.node? f.qualifiedName with
  | none => g
  | some caller => f.callees.foldl (addCallee f.package caller) g

/-- The call graph of some functions. -/
def build (functions : List FunctionRecord) : CallGraph :=
  let g := functions.zipIdx.foldl (fun g (f, i) => g.addRecord f i) empty
  functions.foldl addCallees g

/-- The names of the functions that a function is known to call. -/
def calleesOf (g : CallGraph) (name : String) : List String :=
  match g.node? name with
  | none => []
  | some v => (g.edges.getD v []).filterMap fun w => g.names[w]?

/-- Changes the functions that some records stand for. -/
def markRecords (mark : FunctionRecord → FunctionRecord) (functions : Array FunctionRecord)
    (records : List Nat) : Array FunctionRecord :=
  records.foldl (fun functions i => functions.modify i mark) functions

/-- Marks the functions of each node by the flag of the node. -/
def markNodes (g : CallGraph) (flags : List Bool) (mark : Bool → FunctionRecord → FunctionRecord)
    (functions : List FunctionRecord) : List FunctionRecord :=
  let markNode := fun (functions : Array FunctionRecord) (node : Bool × Nat) =>
    markRecords (mark node.1) functions (g.records.getD node.2 [])
  (flags.zipIdx.foldl markNode functions.toArray).toList

/-- Which nodes lie on a cycle of calls. -/
def recursionFlags (g : CallGraph) : List Bool :=
  (Graph.recursiveNodes? g.edges).getD []

/-- Marks the functions that lie on a cycle of calls. -/
def markRecursion (g : CallGraph) (functions : List FunctionRecord) : List FunctionRecord :=
  g.markNodes g.recursionFlags (fun flag f => { f with isRecursive := flag }) functions

/-- Whether one of the entry points names a function, with or without its package. -/
def isEntry (entryPoints : List String) (f : FunctionRecord) : Bool :=
  entryPoints.any fun e => e == f.qualifiedName || e == f.name

/-- Whether a function is in use whoever calls it. -/
def isRoot (entryPoints : List String) (f : FunctionRecord) : Bool :=
  f.isExported || isEntry entryPoints f

/-- The nodes with a record that is in use whoever calls it. -/
def roots (g : CallGraph) (functions : List FunctionRecord) (entryPoints : List String) :
    List Nat :=
  let functions := functions.toArray
  (List.range g.size).filter fun v =>
    (g.records.getD v []).any fun i => functions[i]?.any (isRoot entryPoints)

/-- Which nodes a chain of local calls leads to from a root. -/
def liveFlags (g : CallGraph) (functions : List FunctionRecord) (entryPoints : List String) :
    List Bool :=
  ((Graph.reachable? g.localEdges (g.roots functions entryPoints)).getD #[]).toList

/-- Marks the functions that no chain of local calls leads to from a root. -/
def markUnused (g : CallGraph) (functions : List FunctionRecord) (entryPoints : List String) :
    List FunctionRecord :=
  let mark := fun flag (f : FunctionRecord) =>
    { f with metrics.isUnused := !flag && !isRoot entryPoints f }
  g.markNodes (g.liveFlags functions entryPoints) mark functions

end CallGraph

end GoSurvey
