import GoSurvey.Yaml.Scalar

/-!
# Reading documents

Block collections are delimited by columns: the entries of one stand in the same column, and what
belongs to an entry stands further right. Flow collections are delimited by brackets. Each step
takes a character or goes one level down without taking one, so a multiple of the length of the text
is fuel enough.
-/

namespace GoSurvey.Yaml

/-! ## Flow collections -/

mutual
/-- Reads a value inside a flow collection. The margin is that of the block around it. -/
def readFlow (margin : Nat) : Nat → Cursor → Option (Value × Cursor)
  | 0, _ => none
  | fuel + 1, c =>
    match c.rest with
    | '[' :: _ => readFlowItems margin fuel [] ((c.drop 1).skip true)
    | '\x7b' :: _ => readFlowFields margin fuel [] ((c.drop 1).skip true)
    | _ => (readScalar true margin c).map fun ((plain, text), after) => (.scalar plain text, after)

/-- Reads the items of a flow list, the earlier ones given latest first. An item can be a mapping
with a single field. -/
def readFlowItems (margin : Nat) : Nat → List Value → Cursor → Option (Value × Cursor)
  | 0, _, _ => none
  | fuel + 1, items, c =>
    if c.atMarker then none
    else if c.rest.head? == some ']' then
      some (.list items.reverse, { c.drop 1 with fresh := false })
    else
      match readFlow margin fuel c with
      | none => none
      | some (item, after) =>
        match item, afterColon? true c after with
        | .scalar _ key, some value =>
          match readFlowValue margin fuel value with
          | none => none
          | some (value, after) => nextFlowItem margin fuel (.mapping [(key, value)] :: items) after
        | _, _ => nextFlowItem margin fuel (item :: items) after

/-- Goes on after an item of a flow list. -/
def nextFlowItem (margin : Nat) : Nat → List Value → Cursor → Option (Value × Cursor)
  | 0, _, _ => none
  | fuel + 1, items, c =>
    let c := c.skip true
    match c.rest with
    | ',' :: _ => readFlowItems margin fuel items ((c.drop 1).skip true)
    | ']' :: _ => readFlowItems margin fuel items c
    | _ => none

/-- Reads the fields of a flow mapping. A key may stand alone. -/
def readFlowFields (margin : Nat) : Nat → List (String × Value) → Cursor → Option (Value × Cursor)
  | 0, _, _ => none
  | fuel + 1, fields, c =>
    if c.atMarker then none
    else if c.rest.head? == some '\x7d' then
      some (.mapping fields.reverse, { c.drop 1 with fresh := false })
    else
      match readScalar true margin c with
      | none => none
      | some ((_, key), after) =>
        match afterColon? true c after with
        | none => nextFlowField margin fuel ((key, .empty) :: fields) after
        | some value =>
          match readFlowValue margin fuel value with
          | none => none
          | some (value, after) => nextFlowField margin fuel ((key, value) :: fields) after

/-- Goes on after a field of a flow mapping. -/
def nextFlowField (margin : Nat) : Nat → List (String × Value) → Cursor → Option (Value × Cursor)
  | 0, _, _ => none
  | fuel + 1, fields, c =>
    let c := c.skip true
    match c.rest with
    | ',' :: _ => readFlowFields margin fuel fields ((c.drop 1).skip true)
    | '\x7d' :: _ => readFlowFields margin fuel fields c
    | _ => none

/-- Reads what follows a colon inside a flow collection. -/
def readFlowValue (margin : Nat) : Nat → Cursor → Option (Value × Cursor)
  | 0, _ => none
  | fuel + 1, c =>
    let c := c.skip true
    match c.rest with
    | ',' :: _ | ']' :: _ | '\x7d' :: _ => some (.empty, c)
    | _ => if c.atMarker then none else readFlow margin fuel c
end

/-! ## Block collections -/

mutual
/-- Reads the value that starts here. Further lines of a scalar have to reach the margin. -/
def readBlock : Nat → Nat → Cursor → Option (Value × Cursor)
  | 0, _, _ => none
  | fuel + 1, margin, c =>
    match c.rest with
    | '[' :: _ | '\x7b' :: _ => readFlow margin (4 * c.rest.length + 4) c
    | _ =>
      if c.atDash then if c.fresh then readItems fuel c.column false [] c else none
      else
        match readScalar false margin c with
        | none => none
        | some ((plain, text), after) =>
          match c.fresh, afterColon? false c after with
          | true, some value => readField fuel c.column text [] value
          | _, _ => some (.scalar plain text, after)

/-- Reads the value of a field after its colon, and then the other fields of the mapping. A list as
value may stand in the column of its key. -/
def readField : Nat → Nat → String → List (String × Value) → Cursor → Option (Value × Cursor)
  | 0, _, _, _, _ => none
  | fuel + 1, column, key, fields, start =>
    let c := start.skip false
    let value :=
      if c.atEnd then some (.empty, c)
      else if c.line == start.line || column < c.column then readBlock fuel (column + 1) c
      else if c.column == column && c.atDash then readItems fuel column true [] c
      else some (.empty, c)
    match value with
    | none => none
    | some (value, after) => readFields fuel column ((key, value) :: fields) (after.skip false)

/-- Reads the fields of a mapping whose keys stand in a column. -/
def readFields : Nat → Nat → List (String × Value) → Cursor → Option (Value × Cursor)
  | 0, _, _, _ => none
  | fuel + 1, column, fields, c =>
    if c.atEnd || c.column < column then some (.mapping fields.reverse, c)
    else if column < c.column then none
    else
      match readScalar false (column + 1) c with
      | none => none
      | some ((_, key), after) =>
        match afterColon? false c after with
        | none => none
        | some value => readField fuel column key fields value

/-- Reads the items of a list whose dashes stand in a column. Where the list stands in the column of
its key, the next key ends it. -/
def readItems : Nat → Nat → Bool → List Value → Cursor → Option (Value × Cursor)
  | 0, _, _, _, _ => none
  | fuel + 1, column, ofKey, items, start =>
    let c := ({ start.drop 1 with fresh := true } : Cursor).skip false
    let item :=
      if c.atEnd then some (.empty, c)
      else if c.line == start.line || column < c.column then readBlock fuel (column + 1) c
      else some (.empty, c)
    match item with
    | none => none
    | some (item, after) =>
      let c := after.skip false
      if c.atEnd || c.column < column then some (.list (item :: items).reverse, c)
      else if column < c.column then none
      else if c.atDash then readItems fuel column ofKey (item :: items) c
      else if ofKey then some (.list (item :: items).reverse, c)
      else none
end

/-! ## Documents -/

/-- Whether nothing but marks for the end of a document is left. -/
def endsStream : Nat → Cursor → Bool
  | 0, _ => false
  | fuel + 1, c =>
    let c := c.skip false
    match c.rest with
    | [] => true
    | '.' :: _ => c.atMarker && endsStream fuel { c.drop 3 with fresh := false }
    | _ => false

/-- Reads a text with at most one document. -/
def parse? (text : String) : Option Value :=
  let cs := text.toList
  let cs := if cs.head? == some '\ufeff' then cs.drop 1 else cs
  if !cs.all isAllowed then none
  else
    let cs := unifyBreaks cs
    let fuel := 4 * cs.length + 8
    let c := ({ rest := cs } : Cursor).skip false
    let value :=
      if c.rest.isEmpty then some (.empty, c)
      else if c.atMarker then
        if c.rest.head? == some '-' then
          let c := ({ c.drop 3 with fresh := false } : Cursor).skip false
          if c.atEnd then some (.empty, c) else readBlock fuel 0 c
        else none
      else readBlock fuel 0 c
    match value with
    | none => none
    | some (value, after) => if endsStream (cs.length + 1) after then some value else none

end GoSurvey.Yaml
