import GoSurvey.Proofs.Facts.References
import GoSurvey.Proofs.Go.Conformance.File

/-!
# The globals of a file

A specification of variables or constants is made of names with commas between them, a type or none,
and an equals sign with expressions or nothing (`Tree.Declares`). In a source without syntax errors
every specification at the top level is, because the tree conforms to the grammar.

The globals of a file are those of its specifications, one after the other. Variables are recorded
by name, each with the expression in its position. Of constants that are declared together, the
commas are recorded too, so that only the first has its own value (`Source.extract_globals`).
-/

namespace GoSurvey

namespace Go.Tree

/-- The parts of a tree, comments apart. -/
def parts (t : Tree) : List Tree :=
  t.children.filter (!·.isComment)

/-- Parts that are items with commas between them. -/
inductive CommaSeparated : List Tree → List Tree → Prop where
  | single (t : Tree) : CommaSeparated [t] [t]
  | cons (t : Tree) {comma : Tree} {parts items : List Tree} : comma.isMark "," = true →
    CommaSeparated parts items → CommaSeparated (t :: comma :: parts) (t :: items)

/-- Parts that are an equals sign and values with commas between them, or nothing at all. -/
def Initialize (parts values : List Tree) : Prop :=
  parts = [] ∧ values = [] ∨ ∃ equals list, parts = [equals, list] ∧ equals.isMark "=" = true ∧
    list.kind? = some .expressionList ∧ CommaSeparated list.parts values

/-- A specification that declares names, with a type and values if they are written. -/
structure Declares (spec : Tree) (names : List Tree) (type : Option Tree)
    (values : List Tree) : Prop where
  identifiers : ∀ name ∈ names, name.kind? = some .identifier
  parts : ∃ before after, spec.parts = before ++ type.toList ++ after ∧
    CommaSeparated before names ∧ Initialize after values

/-- The specifications in a declaration of variables or constants. -/
def specsOf (declaration : Tree) : List Tree :=
  declaration.children.flatMap fun c =>
    match c.kind? with
    | some .varSpec | some .constSpec => [c]
    | some .varSpecList => c.children.filter fun d => d.kind? == some .varSpec
    | _ => []

/-- The specifications of variables and constants at the top level of a file. -/
def topLevelSpecs (root : Tree) : List Tree :=
  root.children.flatMap fun item =>
    if item.kind? = some .varDeclaration ∨ item.kind? = some .constDeclaration then item.specsOf
    else []

/-! ## Heads -/

@[simp]
theorem text_head (t : Tree) : t.head.text = t.text := by
  cases t <;> rfl

@[simp]
theorem kind?_head (t : Tree) : t.head.kind? = t.kind? := by
  cases t <;> rfl

@[simp]
theorem isMark_head (text : String) (t : Tree) : t.head.isMark text = t.isMark text := by
  cases t <;> rfl

/-- What is under a label is told by the heads. -/
theorem textsAt_heads (label : Label) (ts : List Tree) :
    textsAt label (ts.map head) = textsAt label ts := by
  simp [textsAt, List.filter_map, Function.comp_def]

/-- Trees whose heads are items with commas between them. -/
theorem commaSeparated_of_heads {commas : Option Label} {heads : List Tree} (hne : heads ≠ [])
    {ts : List Tree} (h : ts.map head = heads.intersperse (comma commas)) :
    ∃ items, CommaSeparated ts items ∧ items.map head = heads := by
  induction heads generalizing ts with
  | nil => exact absurd rfl hne
  | cons first heads ih =>
    cases heads with
    | nil =>
      obtain ⟨t, rfl, rfl⟩ := List.map_eq_singleton_iff.1 h
      exact ⟨[t], .single t, rfl⟩
    | cons second heads =>
      obtain ⟨t, tail, rfl, rfl, htail⟩ := List.map_eq_cons_iff.1 h
      obtain ⟨sep, ts, rfl, hsep, hts⟩ := List.map_eq_cons_iff.1 htail
      obtain ⟨items, hitems, hheads⟩ := ih (by simp) hts
      have hcomma : sep.isMark "," = true := by
        rw [← isMark_head, hsep]
        rfl
      exact ⟨t :: items, .cons t hcomma hitems, congrArg (t.head :: ·) hheads⟩

theorem isNamed_of_isMark {text : String} {t : Tree} (h : t.isMark text = true) :
    t.isNamed = false := by
  cases t with
  | mark => rfl
  | _ => cases h

/-- Of items with commas between them, the items are what is named. -/
theorem CommaSeparated.filter_isNamed {parts items : List Tree} (h : CommaSeparated parts items)
    (hitems : ∀ t ∈ items, t.isNamed = true) : parts.filter (·.isNamed) = items := by
  induction h with
  | single t => exact List.filter_eq_self.2 hitems
  | cons t hcomma _ ih =>
    rw [List.forall_mem_cons] at hitems
    rw [List.filter_cons_of_pos hitems.1,
      List.filter_cons_of_neg (by simp [isNamed_of_isMark hcomma]), ih hitems.2]

/-! ## Labels -/

/-- What has a label is no comment. -/
theorem not_isComment_and_label (l : Label) (t : Tree) :
    (!t.isComment && t.label == some l) = (t.label == some l) := by
  cases t <;> rfl

theorem childAt?_parts (l : Label) (t : Tree) : childAt? l t.parts = childAt? l t.children := by
  simp only [childAt?, parts, List.find?_filter, Bool.decide_and, Bool.decide_eq_true,
    not_isComment_and_label]

theorem textsAt_parts (l : Label) (t : Tree) : textsAt l t.parts = textsAt l t.children := by
  simp only [textsAt, parts, List.filter_filter, Bool.and_comm (_ == _),
    not_isComment_and_label]

theorem childAt?_append (l : Label) (ts us : List Tree) :
    childAt? l (ts ++ us) = (childAt? l ts).or (childAt? l us) :=
  List.find?_append

theorem textsAt_append (l : Label) (ts us : List Tree) :
    textsAt l (ts ++ us) = textsAt l ts ++ textsAt l us := by
  simp only [textsAt, List.filter_append, List.map_append]

/-- Among names, the labels are those of names and of commas. -/
theorem label_of_mem_nameHeads {commas : Option Label} {kind : Kind} {names : List String}
    {t : Tree} (h : t ∈ nameHeads commas kind names) : t.label = some .name ∨ t.label = commas := by
  induction names with
  | nil => cases h
  | cons name names ih =>
    cases names with
    | nil =>
      obtain rfl := List.mem_singleton.1 h
      exact .inl rfl
    | cons second names =>
      obtain rfl | h := List.mem_cons.1 h
      · exact .inl rfl
      · obtain rfl | h := List.mem_cons.1 h
        · exact .inr rfl
        · exact ih h

/-- Names without their commas. -/
theorem textsAt_nameHeads (kind : Kind) (names : List String) :
    textsAt .name (nameHeads none kind names) = names := by
  induction names with
  | nil => rfl
  | cons name names ih =>
    cases names with
    | nil => rfl
    | cons second names => exact congrArg (name :: ·) ih

/-- Where the commas count among the names, they are found with them. -/
theorem textsAt_nameHeads_name (kind : Kind) (names : List String) :
    textsAt .name (nameHeads (some .name) kind names) = names.intersperse "," := by
  induction names with
  | nil => rfl
  | cons name names ih =>
    cases names with
    | nil => rfl
    | cons second names => exact congrArg (name :: "," :: ·) ih

/-! ## Specifications -/

/-- The values of a list of expressions are its expressions. -/
theorem Conforms.exists_values {list : Tree} (h : list.Conforms true) {l : Option Label}
    (hhead : list.head = .node l .expressionList .nowhere []) :
    ∃ values, CommaSeparated list.parts values ∧ list.valuesOf = values.map toType := by
  cases h with
  | node _ kind span children hadmits _ =>
    obtain ⟨rfl, rfl⟩ : _ ∧ kind = .expressionList := by simpa [head] using hhead
    obtain ⟨heads, hne, hnamed, hheads⟩ := hadmits
    obtain ⟨values, hvalues, rfl⟩ := commaSeparated_of_heads hne hheads
    refine ⟨values, hvalues, ?_⟩
    have hfilter := hvalues.filter_isNamed fun t ht => by
      simpa using hnamed t.head (List.mem_map_of_mem ht)
    rw [List.filter_filter] at hfilter
    exact congrArg (List.map toType) hfilter
  | _ => cases hhead

/-- Names with commas between them, of which only the heads are given. -/
theorem exists_names_of_heads {commas : Option Label} {kind : Kind} {ns : List String}
    (hne : ns ≠ []) {ts : List Tree} (h : ts.map head = nameHeads commas kind ns) :
    ∃ names, CommaSeparated ts names ∧ names.map text = ns ∧
      ∀ name ∈ names, name.kind? = some kind := by
  obtain ⟨names, hnames, hheads⟩ := commaSeparated_of_heads (by simpa using hne) h
  refine ⟨names, hnames, ?_, fun name hname => ?_⟩
  · calc names.map text
      _ = (names.map head).map text := by simp [Function.comp_def]
      _ = (ns.map fun name => Tree.leaf (some .name) kind name .nowhere).map text := by rw [hheads]
      _ = ns := by rw [List.map_map]; exact List.map_id ns
  · have hhead := List.mem_map_of_mem (f := head) hname
    rw [hheads] at hhead
    obtain ⟨_, _, hhead⟩ := List.mem_map.1 hhead
    rw [← kind?_head, ← hhead]
    rfl

/-- Among names there is nothing with another label. -/
theorem childAt?_names {commas : Option Label} (hcommas : ∀ l ∈ commas, l = .name) {kind : Kind}
    {ns : List String} {ts : List Tree} (h : ts.map head = nameHeads commas kind ns) {l : Label}
    (hl : l ≠ .name) : childAt? l ts = none := by
  refine List.find?_eq_none.2 fun t ht => ?_
  have hlabel := label_of_mem_nameHeads (h ▸ List.mem_map_of_mem (f := head) ht)
  rw [label_head] at hlabel
  intro heq
  rw [beq_iff_eq.1 heq] at hlabel
  obtain hname | hcomma := hlabel
  · exact hl (Option.some.inj hname)
  · exact hl (hcommas l hcomma.symm)

/-- Values that are written, or none, of which only the heads are given. -/
theorem exists_values_of_heads {heads : List Tree} (hheads : heads = [] ∨ heads = valueHeads)
    {ts : List Tree} (hts : ∀ t ∈ ts, t.Conforms true) (h : ts.map head = heads) :
    ∃ values, Initialize ts values ∧ childAt? .type ts = none ∧
      ((childAt? .value ts).map valuesOf).getD [] = values.map toType := by
  subst h
  obtain hnil | hwritten := hheads
  · obtain rfl := List.map_eq_nil_iff.1 hnil
    exact ⟨[], .inl ⟨rfl, rfl⟩, rfl, rfl⟩
  · obtain ⟨equals, tail, rfl, hequals, htail⟩ := List.map_eq_cons_iff.1 hwritten
    obtain ⟨list, rfl, hlist⟩ := List.map_eq_singleton_iff.1 htail
    obtain ⟨values, hvalues, htypes⟩ := (hts list (by simp)).exists_values hlist
    have hmark : equals.isMark "=" = true := by
      rw [← isMark_head, hequals]
      rfl
    have hkind : list.kind? = some .expressionList := by
      rw [← kind?_head, hlist]
      rfl
    have hnone : equals.label = none := by
      rw [← label_head, hequals]
      rfl
    have hvalue : list.label = some .value := by
      rw [← label_head, hlist]
      rfl
    refine ⟨values, .inr ⟨equals, list, rfl, hmark, hkind, hvalues⟩, ?_, ?_⟩
    · simp [childAt?, hnone, hvalue]
    · simp [childAt?, hnone, hvalue, htypes]

/-- Parts that declare values, where the commas have no label but that of names. -/
theorem DeclareValues.exists_declares {commas : Option Label} {spec : Tree}
    (h : DeclareValues commas (spec.parts.map head)) (hcommas : ∀ l ∈ commas, l = .name)
    (hchildren : ∀ t ∈ spec.children, t.Conforms true) :
    ∃ names type values, spec.Declares names type values ∧
      textsAt .name spec.children = textsAt .name (nameHeads commas .identifier (names.map text)) ∧
      childAt? .type spec.children = type ∧
      ((childAt? .value spec.children).map valuesOf).getD [] = values.map toType := by
  obtain ⟨ns, typeHead, heads, hne, htype, hvalues, hheads⟩ := h
  obtain ⟨front, after, hparts, hfront, hafter⟩ := List.map_eq_append_iff.1 hheads
  obtain ⟨before, middle, rfl, hbefore, hmiddle⟩ := List.map_eq_append_iff.1 hfront
  obtain ⟨type, rfl, rfl⟩ : ∃ type : Option Tree,
      middle = type.toList ∧ type.map head = typeHead := by
    cases typeHead with
    | none => exact ⟨none, List.map_eq_nil_iff.1 hmiddle, rfl⟩
    | some t =>
      obtain ⟨u, rfl, rfl⟩ := List.map_eq_singleton_iff.1 hmiddle
      exact ⟨some u, rfl, rfl⟩
  obtain ⟨names, hnames, rfl, hkinds⟩ := exists_names_of_heads hne hbefore
  have hconform : ∀ t ∈ after, t.Conforms true := fun t ht =>
    hchildren t (List.mem_filter.1 (hparts ▸ List.mem_append_right _ ht)).1
  obtain ⟨values, hinit, hnotype, htypes⟩ := exists_values_of_heads hvalues hconform hafter
  have htypelabel : ∀ t ∈ type, t.label = some .type := fun t ht => by
    simpa using htype t.head (Option.mem_map_of_mem head ht)
  refine ⟨names, type, values, ⟨hkinds, before, after, hparts, hnames, hinit⟩, ?_, ?_, ?_⟩
  · have hnone : textsAt .name (type.map head).toList = [] := by
      cases type with
      | none => rfl
      | some t => simp [textsAt, htypelabel t rfl]
    have hnone' : textsAt .name heads = [] := by
      obtain rfl | rfl := hvalues <;> rfl
    rw [← textsAt_parts, ← textsAt_heads, hheads, textsAt_append, textsAt_append, hnone, hnone',
      List.append_nil, List.append_nil]
  · rw [← childAt?_parts, hparts, childAt?_append, childAt?_append,
      childAt?_names hcommas hbefore (by decide), hnotype, Option.none_or, Option.or_none]
    cases type with
    | none => rfl
    | some t => simp [childAt?, htypelabel t rfl]
  · have hnone : childAt? .value type.toList = none := by
      cases type with
      | none => rfl
      | some t => simp [childAt?, htypelabel t rfl]
    rw [← childAt?_parts, hparts, childAt?_append, childAt?_append,
      childAt?_names hcommas hbefore (by decide), hnone, Option.none_or, Option.none_or, htypes]

/-- The names that a specification is recorded with: those of constants with the commas between
them. -/
def recordedNames (spec : Tree) (names : List Tree) : List String :=
  if spec.kind? = some .constSpec then (names.map text).intersperse "," else names.map text

/-- A specification that conforms declares values, and its names, type and values are what is read
off it. -/
theorem Conforms.exists_declares {spec : Tree} (h : spec.Conforms true)
    (hkind : spec.kind? = some .varSpec ∨ spec.kind? = some .constSpec) (kind : ValueKind) :
    ∃ names type values, spec.Declares names type values ∧
      spec.toValueSpec kind =
        ⟨kind, spec.recordedNames names, type.map toType, values.map toType, spec.span⟩ := by
  have hadmits : ∀ k, spec.kind? = some k → Admits k (spec.parts.map head) := by
    intro k hk
    cases h with
    | leaf _ _ _ _ hleaf =>
      cases hk
      exact hleaf
    | node _ _ _ _ hnode _ =>
      cases hk
      exact hnode
    | _ => cases hk
  have hchildren : ∀ t ∈ spec.children, t.Conforms true := fun t => h.of_mem_children
  obtain hvar | hconst := hkind
  · obtain ⟨names, type, values, hdeclares, hnames, htype, hvalues⟩ :=
      DeclareValues.exists_declares (hadmits _ hvar) (by simp) hchildren
    refine ⟨names, type, values, hdeclares, ?_⟩
    rw [textsAt_nameHeads] at hnames
    simp [toValueSpec, recordedNames, hvar, hnames, htype, hvalues]
  · obtain ⟨names, type, values, hdeclares, hnames, htype, hvalues⟩ :=
      DeclareValues.exists_declares (hadmits _ hconst) (by simp) hchildren
    refine ⟨names, type, values, hdeclares, ?_⟩
    rw [textsAt_nameHeads_name] at hnames
    simp [toValueSpec, recordedNames, hconst, hnames, htype, hvalues]

/-! ## The top level -/

theorem kind?_of_mem_specsOf {t spec : Tree} (h : spec ∈ t.specsOf) :
    spec.kind? = some .varSpec ∨ spec.kind? = some .constSpec := by
  obtain ⟨c, _, hspec⟩ := List.mem_flatMap.1 h
  split at hspec
  next hkind => exact .inl (List.mem_singleton.1 hspec ▸ hkind)
  next hkind => exact .inr (List.mem_singleton.1 hspec ▸ hkind)
  next => exact .inl (by simpa using (List.mem_filter.1 hspec).2)
  next => cases hspec

theorem Conforms.of_mem_specsOf {comments : Bool} {t spec : Tree} (ht : t.Conforms comments)
    (h : spec ∈ t.specsOf) : spec.Conforms comments := by
  obtain ⟨c, hc, hspec⟩ := List.mem_flatMap.1 h
  have hc := ht.of_mem_children hc
  split at hspec
  next => exact List.mem_singleton.1 hspec ▸ hc
  next => exact List.mem_singleton.1 hspec ▸ hc
  next => exact hc.of_mem_children (List.mem_filter.1 hspec).1
  next => cases hspec

theorem kind?_of_mem_topLevelSpecs {root spec : Tree} (h : spec ∈ root.topLevelSpecs) :
    spec.kind? = some .varSpec ∨ spec.kind? = some .constSpec := by
  obtain ⟨item, _, hspec⟩ := List.mem_flatMap.1 h
  split at hspec
  · exact kind?_of_mem_specsOf hspec
  · cases hspec

theorem Conforms.of_mem_topLevelSpecs {comments : Bool} {root spec : Tree}
    (hroot : root.Conforms comments) (h : spec ∈ root.topLevelSpecs) : spec.Conforms comments := by
  obtain ⟨item, hitem, hspec⟩ := List.mem_flatMap.1 h
  split at hspec
  · exact (hroot.of_mem_children hitem).of_mem_specsOf hspec
  · cases hspec

/-- The specifications of a declaration are read one by one. -/
theorem valueSpecs_eq (kind : ValueKind) (t : Tree) :
    t.valueSpecs kind = t.specsOf.map (toValueSpec kind) := by
  rw [valueSpecs, specsOf, List.map_flatMap]
  refine congrArg (List.flatMap · t.children) (funext fun c => ?_)
  split <;> simp_all

end Go.Tree

/-! ## Records -/

/-- The records of names that are declared together: each with the type of all of them and the value
in its position, or empty texts for what is not written. -/
def GlobalRecord.ofNames (file package : String) (names : List String) (type : Option TypeExpr)
    (values : List TypeExpr) : List GlobalRecord :=
  names.mapIdx fun i name =>
    { name, file, package
      type := (type.map TypeExpr.render).getD ""
      value := (values[i]?.map TypeExpr.render).getD "" }

namespace FileFacts

theorem optionalText_eq (t : Option TypeExpr) {c : TypeCache} (hc : c.Faithful) :
    (optionalText t c).1 = (t.map TypeExpr.render).getD "" := by
  cases t with
  | none => rfl
  | some t => exact (TypeCache.render_returns t hc).1

/-- Values go to names by position. -/
theorem valueTexts_eq (names : List String) (values : List TypeExpr) {c : TypeCache}
    (hc : c.Faithful) :
    (valueTexts names values c).1 =
      names.mapIdx fun i name => (name, (values[i]?.map TypeExpr.render).getD "") := by
  induction names generalizing values c with
  | nil => rfl
  | cons name names ih =>
    have hrest := ih values.tail ((optionalText_steady values.head?).faithful hc)
    simp only [valueTexts, optionalText_eq _ hc, hrest, List.mapIdx_cons, List.getElem?_tail]
    rw [List.head?_eq_getElem?]

theorem globalsOf_eq (file package : String) (spec : ValueSpec) {c : TypeCache}
    (hc : c.Faithful) :
    (globalsOf file package spec c).1 =
      GlobalRecord.ofNames file package spec.names spec.type spec.values := by
  have htexts := valueTexts_eq spec.names spec.values ((optionalText_steady spec.type).faithful hc)
  simp only [globalsOf, htexts, optionalText_eq _ hc, GlobalRecord.ofNames]
  exact List.ext_getElem? fun i => by simp [Function.comp_def]

theorem allGlobals_eq (file package : String) (specs : List ValueSpec) {c : TypeCache}
    (hc : c.Faithful) :
    (allGlobals file package specs c).1 = (specs.map fun spec =>
      GlobalRecord.ofNames file package spec.names spec.type spec.values).flatten := by
  induction specs generalizing c with
  | nil => rfl
  | cons spec specs ih =>
    have hrest := ih ((globalsOf_steady file package spec).faithful hc)
    simp only [allGlobals, globalsOf_eq file package spec hc, hrest, List.map_cons,
      List.flatten_cons]

end FileFacts

namespace Go

/-- The value declarations of an item of a file. Whether they are variables or constants shows only
in their kind. -/
theorem Tree.map_values_toDecls {α : Type} {f : ValueSpec → α}
    (hf : ∀ t : Tree, f (t.toValueSpec .const) = f (t.toValueSpec .var)) (item : Tree) :
    ((item.toDecls.filterMap fun | .value spec => some spec | _ => none).map f) =
      if item.kind? = some .varDeclaration ∨ item.kind? = some .constDeclaration then
        item.specsOf.map fun t => f (t.toValueSpec .var)
      else [] := by
  unfold toDecls
  split
  case h_4 hkind => simp [hkind, valueSpecs_eq, List.filterMap_map, Function.comp_def]
  case h_5 hkind => simp [hkind, valueSpecs_eq, List.filterMap_map, Function.comp_def, hf]
  all_goals simp_all [List.filterMap_map]

/-- The value declarations of a file are the specifications at its top level. -/
theorem Source.map_values_toSourceFile {α : Type} {f : ValueSpec → α}
    (hf : ∀ t : Tree, f (t.toValueSpec .const) = f (t.toValueSpec .var)) (source : Source)
    (path : String) :
    (source.toSourceFile path).values.map f =
      source.tree.topLevelSpecs.map fun t => f (t.toValueSpec .var) := by
  have himports : ((source.tree.imports.map Decl.imported).filterMap
      fun | .value spec => some spec | _ => none) = [] := by
    simp [List.filterMap_map]
  calc (source.toSourceFile path).values.map f
    _ = ((source.tree.imports.map Decl.imported ++
          source.tree.children.flatMap Tree.toDecls).filterMap
            fun | .value spec => some spec | _ => none).map f := rfl
    _ = source.tree.children.flatMap fun item =>
          (item.toDecls.filterMap fun | .value spec => some spec | _ => none).map f := by
      rw [List.filterMap_append, himports, List.nil_append, List.filterMap_flatMap,
        List.map_flatMap]
    _ = source.tree.topLevelSpecs.map fun t => f (t.toValueSpec .var) := by
      rw [Tree.topLevelSpecs, List.map_flatMap]
      refine congrArg (List.flatMap · source.tree.children) (funext fun item => ?_)
      refine (Tree.map_values_toDecls hf item).trans ?_
      split <;> rfl

/-- The records of a specification: of variables or of a single name, one for each name, and of
constants that are declared together, also one for each comma between them. -/
def Tree.RecordedAs (file package : String) (spec : Tree) (records : List GlobalRecord) : Prop :=
  ∃ names type values, spec.Declares names type values ∧
    (spec.kind? = some .varSpec ∨ names.length = 1 →
      records = GlobalRecord.ofNames file package (names.map text) (type.map toType)
        (values.map toType)) ∧
    (spec.kind? = some .constSpec →
      records = GlobalRecord.ofNames file package ((names.map text).intersperse ",")
        (type.map toType) (values.map toType))

/-- A specification that conforms is recorded with its names, or with its names and commas. -/
theorem Tree.Conforms.recordedAs {spec : Tree} (h : spec.Conforms true)
    (hkind : spec.kind? = some .varSpec ∨ spec.kind? = some .constSpec) (file package : String) :
    spec.RecordedAs file package
      (GlobalRecord.ofNames file package (spec.toValueSpec .var).names (spec.toValueSpec .var).type
        (spec.toValueSpec .var).values) := by
  obtain ⟨names, type, values, hdeclares, hspec⟩ := h.exists_declares hkind .var
  refine ⟨names, type, values, hdeclares, fun hnames => ?_, fun hconst => ?_⟩
  · have hrecorded : spec.recordedNames names = names.map text := by
      obtain hvar | hone := hnames
      · rw [recordedNames, if_neg (by simp [hvar])]
      · obtain ⟨name, rfl⟩ := List.length_eq_one_iff.1 hone
        exact ite_self _
    rw [hspec, hrecorded]
  · rw [hspec, recordedNames, if_pos hconst]

namespace Source

/-- **The globals of a source are those of its specifications, one after the other.** Let there be
no syntax error. Then every specification of variables or constants at the top level declares names,
a type or none, and values, and it has a block of consecutive records. They are one for each name,
in order and with the texts of the type and of the value in its position, if the names are variables
or there is only one. The comma between two constants counts as a name. -/
theorem extract_globals {bytes : List UInt8} (herrors : (read bytes).hasErrors = false)
    (path reported : String) (capacity : Nat) (earlier : List TypeExpr) :
    let source := read bytes
    let facts := (FileFacts.extract (source.toSourceFile path) reported
      ((TypeCache.empty capacity).renderAll earlier)).1
    ∃ blocks : List (List GlobalRecord), facts.globals = blocks.flatten ∧
      List.Forall₂ (Tree.RecordedAs reported facts.package) source.tree.topLevelSpecs blocks := by
  intro source facts
  have hfaithful := (TypeCache.faithful_empty capacity).renderAll earlier
  refine ⟨_, (FileFacts.allGlobals_eq _ _ _ hfaithful).trans
    (congrArg List.flatten (map_values_toSourceFile (fun _ => rfl) source path)), ?_⟩
  rw [List.forall₂_map_right_iff, List.forall₂_same]
  intro spec hspec
  have hconforms := (conforms_read herrors).of_mem_topLevelSpecs hspec
  exact hconforms.recordedAs (Tree.kind?_of_mem_topLevelSpecs hspec) reported facts.package

/-- Variables in a group, with a comment between their names, and a constant. -/
theorem extract_globals_group :
    let bytes := ("package p; var (a, /* n */ b int = 1, x.y; c = 3;); " ++
      "const d = iota").toUTF8.toList
    let source := read bytes
    let facts := (FileFacts.extract (source.toSourceFile "a.go") "a.go"
      ((TypeCache.empty 8).renderAll [])).1
    source.hasErrors = false ∧ source.tree.topLevelSpecs.length = 3 ∧
      facts.globals.map (fun g => (g.name, g.type, g.value)) =
        [("a", "int", "1"), ("b", "int", "x.y"), ("c", "", "3"), ("d", "", "iota")] ∧
      ∃ blocks : List (List GlobalRecord), facts.globals = blocks.flatten ∧
        List.Forall₂ (Tree.RecordedAs "a.go" facts.package) source.tree.topLevelSpecs blocks := by
  intro bytes source facts
  have hinput : source.hasErrors = false ∧ source.tree.topLevelSpecs.length = 3 ∧
      facts.globals.map (fun g => (g.name, g.type, g.value)) =
        [("a", "int", "1"), ("b", "int", "x.y"), ("c", "", "3"), ("d", "", "iota")] := by
    decide +kernel
  obtain ⟨herrors, hspecs, hglobals⟩ := hinput
  exact ⟨herrors, hspecs, hglobals, extract_globals herrors "a.go" "a.go" 8 []⟩

/-- Of two constants with two values, the second has no value, and a comma has its value. -/
theorem extract_globals_comma :
    let bytes := "package p\n\nconst a, b = 1, 2\n".toUTF8.toList
    let facts := (FileFacts.extract ((read bytes).toSourceFile "a.go") "a.go" (.empty 8)).1
    (read bytes).hasErrors = false ∧
      facts.globals = [⟨"a", "", "1", "a.go", "p"⟩, ⟨",", "", "2", "a.go", "p"⟩,
        ⟨"b", "", "", "a.go", "p"⟩] := by
  decide +kernel

end Source

end Go

end GoSurvey
