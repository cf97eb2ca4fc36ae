import GoSurvey.Glob.Parser
import GoSurvey.Text.Blank
import GoSurvey.Text.Quoted
import GoSurvey.TypeText.Cache

/-!
# Settings of a survey

Every setting has a default. `Config.check` rules out values that make no sense and gives the
patterns of excluded paths ready for use.
-/

namespace GoSurvey

/-- What to do about a file that cannot be read or parsed. -/
inductive ErrorPolicy where
  /-- Report it and go on. -/
  | keepGoing
  /-- Give up. -/
  | failFast
deriving DecidableEq, Repr, Inhabited

namespace ErrorPolicy

/-- The word for a policy. -/
def name : ErrorPolicy → String
  | .keepGoing => "continue"
  | .failFast => "fail_fast"

/-- The policy that a word stands for. -/
def ofName? (s : String) : Option ErrorPolicy :=
  [ErrorPolicy.keepGoing, .failFast].find? fun p => p.name == s

end ErrorPolicy

/-- The settings of a survey. -/
structure Config where
  /-- Functions in use whoever calls them, with or without their package. -/
  entryPoints : List String := ["main", "init"]
  includeTestFiles : Bool := false
  /-- Patterns for paths to skip. -/
  excludedPaths : List String := []
  errorPolicy : ErrorPolicy := .keepGoing
  /-- Whether to keep what files with syntax errors yield. -/
  acceptPartialParses : Bool := false
  typeCacheCapacity : Nat := TypeCache.defaultCapacity
  threads : Option Nat := none
deriving DecidableEq, Repr, Inhabited

namespace Config

/-- The names of the settings, in order. -/
def keys : List String :=
  ["entry_points", "include_test_files", "excluded_paths", "error_policy",
    "accept_partial_parses", "type_cache_capacity", "threads"]

/-- What can be wrong with settings. -/
inductive Error where
  /-- They cannot be read at all. -/
  | unreadable
  | blankEntryPoint
  | noThreads
  | badPattern (pattern : String) (error : Glob.Error)
deriving DecidableEq, Repr, Inhabited

/-- What is wrong with settings, in words. -/
def Error.message : Error → String
  | .unreadable => "not a list of settings"
  | .blankEntryPoint => "entry_points must not contain blank names"
  | .noThreads => "threads must be at least 1"
  | .badPattern pattern error =>
    s!"invalid excluded_paths pattern {Text.quoted pattern}: " ++
      s!"error parsing glob '{pattern}': {error.message}"

/-- All patterns, or the first one that makes no sense. -/
def patterns : List String → Except Error (List Glob)
  | [] => .ok []
  | p :: ps =>
    match Glob.parse p with
    | .error e => .error (.badPattern p e)
    | .ok g => (patterns ps).map (g :: ·)

/-- Checks settings and gives their patterns. -/
def check (c : Config) : Except Error (List Glob) :=
  if c.entryPoints.any Text.isBlankText then .error .blankEntryPoint
  else if c.threads = some 0 then .error .noThreads
  else patterns c.excludedPaths

end Config

end GoSurvey
