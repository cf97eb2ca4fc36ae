import GoSurvey.Decimal.Fixed
import GoSurvey.Report.Summary

/-!
# Reports for a terminal

A summary in plain words, followed by the lists of names unless only the summary is wanted, and by
the files that were skipped. Colours are optional.
-/

namespace GoSurvey

/-- How a piece of text is set off. -/
inductive Style where
  | bold
  | dimmed
  | red
  | green
  | yellow
  | blue
  | cyan
deriving DecidableEq, Repr, Inhabited

namespace Style

/-- The number by which a terminal knows a style. -/
def code : Style → String
  | .bold => "1"
  | .dimmed => "2"
  | .red => "31"
  | .green => "32"
  | .yellow => "33"
  | .blue => "34"
  | .cyan => "36"

/-- What switches styles on. -/
def start (styles : List Style) : String :=
  "\x1b[" ++ ";".intercalate (styles.map code) ++ "m"

/-- What switches all styles off. -/
def stop : String := "\x1b[0m"

end Style

/-- Whether a terminal shows colours. -/
inductive Terminal where
  | plain
  | coloured
deriving DecidableEq, Repr, Inhabited

/-- Fills up a text with blanks on the right, up to a width in characters. -/
def padRight (width : Nat) (s : String) : String :=
  s ++ String.ofList (List.replicate (width - s.length) ' ')

/-- Fills up a text with blanks on the left, up to a width in characters. -/
def padLeft (width : Nat) (s : String) : String :=
  String.ofList (List.replicate (width - s.length) ' ') ++ s

namespace Terminal

/-- A text in some styles. If the text itself switches them off, they are switched on again. -/
def paint (t : Terminal) (styles : List Style) (s : String) : String :=
  match t with
  | .plain => s
  | .coloured =>
    Style.start styles ++ s.replace Style.stop (Style.stop ++ Style.start styles) ++ Style.stop

/-- A count that had better be zero. -/
def flag (t : Terminal) (n : Nat) : String :=
  t.paint [if n = 0 then .green else .yellow] (toString n)

/-- A maintainability index. -/
def maintainability (t : Terminal) (index : Float) : String :=
  let style := if 75.0 ≤ index then Style.green else if 50.0 ≤ index then .yellow else .red
  t.paint [style] (Decimal.fixed 1 index)

/-- The head of a list. -/
def heading (t : Terminal) (styles : List Style) (title : String) (n : Nat) : String :=
  "  " ++ t.paint styles title ++ s!" ({n}):"

end Terminal

/-- The name this program goes by. -/
def programName : String := "codescan"

/-- The version of this program. -/
def programVersion : String := "0.1.0"

namespace Report

/-- A line that starts with a label. -/
def labelled (label rest : String) : String :=
  "  " ++ padRight 14 label ++ rest

/-- The counts and averages. -/
def countLines (t : Terminal) (r : Report) (s : Summary) : List String :=
  let total := t.paint [.bold] (toString s.totalFunctions)
  let unused := t.flag s.unusedFunctions
  let recursive := t.flag s.recursiveFunctions
  let duplicate := t.flag s.duplicateFunctions
  let complexity := Decimal.fixed 2 s.avgComplexity
  let index := t.maintainability s.avgMaintainability
  let nesting := Decimal.fixed 2 s.avgNestingDepth
  [labelled "Functions:" s!"{total}  ({s.totalLines} lines)",
   labelled "Types:" (s!"{r.structs.length} structs, {r.interfaces.length} interfaces, "
     ++ s!"{r.globals.length} globals, {r.imports.length} imports"),
   labelled "Flags:" s!"{unused} unused, {recursive} recursive, {duplicate} duplicate",
   labelled "Averages:" s!"complexity {complexity}, maintainability {index}, nesting {nesting}"]

/-- The number of functions of each level. -/
def distributionLines (t : Terminal) (d : Distribution) : List String :=
  let row := fun style name (n : Nat) =>
    "    " ++ t.paint [style] (padRight 8 name) ++ padLeft 5 (toString n)
  ["  " ++ t.paint [.bold] "Complexity:",
   row .green "Low" d.low, row .yellow "Medium" d.medium, row .red "High" d.high]

/-- Two lines for a hotspot. -/
def hotspotLines (t : Terminal) (h : Hotspot) : List String :=
  let figures := t.paint [.dimmed] s!"cc {h.complexity}  mi " ++ t.maintainability h.maintainability
  ["    " ++ padRight 32 h.name ++ t.paint [.blue] h.file ++ "  " ++ figures,
   "            " ++ ", ".intercalate h.issues]

/-- A list under a heading; an empty list is left out together with its heading. -/
def titled (heading : String) (rows : List String) : List String :=
  if rows.isEmpty then [] else heading :: (rows ++ [""])

/-- A list of names under a title. -/
def nameLines (t : Terminal) (title : String) (names : List String) : List String :=
  titled (t.heading [.bold] title names.length) (names.map ("    " ++ ·))

/-- A line for a struct and the interface it covers. -/
def implementsLine (t : Terminal) (i : ImplementsRecord) : String :=
  "    " ++ i.structName ++ " " ++ t.paint [.dimmed] "->" ++ " " ++ i.interface

/-- A line for a skipped file. -/
def errorLine (t : Terminal) (e : FileError) : String :=
  let kind := match e.kind with
    | .io => "IO"
    | .parse => "PARSE"
  "    " ++ t.paint [.red] kind ++ " " ++ t.paint [.blue] e.file ++ "  " ++ e.message

/-- The lines of a report. -/
def prettyLines (t : Terminal) (root : String) (summaryOnly : Bool) (r : Report) : List String :=
  let s := r.summarize
  ["", "  " ++ t.paint [.bold, .cyan] programName ++ " v" ++ programVersion, "",
   "  " ++ t.paint [.dimmed] "Scanned: " ++ root, ""]
  ++ r.countLines t s ++ [""]
  ++ distributionLines t s.distribution ++ [""]
  ++ (if s.hotspots.isEmpty then []
      else [t.heading [.bold] "Hotspots" s.hotspots.length, ""]
        ++ s.hotspots.flatMap (hotspotLines t) ++ [""])
  ++ (if summaryOnly then []
      else nameLines t "Unused" r.unusedFunctions
        ++ nameLines t "Recursive" r.recursiveFunctions
        ++ titled (t.heading [.bold] "Implements" r.implements.length)
            (r.implements.map (implementsLine t)))
  ++ titled (t.heading [.bold, .red] "Skipped files" r.errors.length)
      (r.errors.map (errorLine t))

/-- The text of a report. -/
def pretty (t : Terminal) (root : String) (summaryOnly : Bool) (r : Report) : String :=
  String.join ((r.prettyLines t root summaryOnly).map (· ++ "\n"))

end Report

end GoSurvey
