import GoSurvey.Code.Node

/-!
# Fingerprints of bodies

A body is reduced to its names, literals, operators and a few keywords; comments and layout leave no
trace. Two bodies repeat each other if these words, joined by blanks, are the same text.
-/

namespace GoSurvey

namespace Node

mutual
/-- The words of a node in source order. An operator comes before its operands, a selected field
after what it is selected from. -/
def words : Node → List String
  | .comment _ => []
  | .ident name | .literal name => [name]
  | .unary op e => op :: e.words
  | .binary op l r => op :: (l.words ++ r.words)
  | .call f args => f.words ++ wordsAll args
  | .selector e field => e.words ++ ["." ++ field]
  | .type t => t.names
  | .cond init test body alt =>
    "if" :: (wordsOpt init ++ test.words ++ wordsBlock body ++ wordsOpt alt)
  | .loop init test post body =>
    "for" :: (wordsOpt init ++ wordsOpt test ++ wordsOpt post ++ wordsBlock body)
  | .range left target body => "for" :: (wordsOpt left ++ target.words ++ wordsBlock body)
  | .switch init tag clauses comments =>
    "switch" :: (wordsOpt init ++ wordsOpt tag ++ wordsClauses clauses ++ wordsAll comments)
  | .select clauses comments => wordsClauses clauses ++ wordsAll comments
  | .block b => wordsBlock b
  | .ret values => "return" :: wordsAll values
  | .other _ children => wordsAll children

/-- `words` of an optional part. -/
def wordsOpt : Option Node → List String
  | none => []
  | some n => n.words

/-- `words` over a list of nodes. -/
def wordsAll : List Node → List String
  | [] => []
  | n :: ns => n.words ++ wordsAll ns

/-- `words` over the statements of a block. -/
def wordsBlock : Block → List String
  | .mk _ stmts => wordsAll stmts

/-- `words` over clauses: the expressions of each, then its body. -/
def wordsClauses : List Clause → List String
  | [] => []
  | .mk _ _ exprs body :: cs => wordsAll exprs ++ wordsAll body ++ wordsClauses cs
end

end Node

/-- The words of a body joined by blanks. -/
def canonicalize (body : Block) : String :=
  String.intercalate " " (Node.wordsBlock body)

/-- A polynomial hash of the characters of a text to the base thirty-one, modulo `2 ^ 64`. -/
def rollingHash (text : String) : UInt64 :=
  text.toList.foldl (fun hash c => hash * 31 + c.toNat.toUInt64) 0

end GoSurvey
