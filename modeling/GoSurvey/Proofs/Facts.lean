import GoSurvey.Facts
import GoSurvey.Proofs.TypeText.Steps

/-!
# Facts do not depend on the cache

All that extraction does with a cache is to render expressions, and what it makes of their texts
does not depend on which of them were stored before. `Steady` says this of a computation; every part
of the extraction is steady, and so is the whole (`extract_steady`). Files can therefore share a
cache of any capacity, in any order, and each of them yields what it yields alone.
-/

namespace GoSurvey

open TypeCache (renderAll)

/-- A computation that renders certain expressions and returns the same value from every faithful
cache. -/
def TypeCache.Steady {α : Type} (m : TypeCache → α × TypeCache) : Prop :=
  ∃ a ts, ∀ c, c.Faithful → m c = (a, c.renderAll ts)

namespace TypeCache.Steady

section
variable {α β : Type}

/-- Nothing is rendered. -/
theorem pure (a : α) : Steady fun c => (a, c) :=
  ⟨a, [], fun _ _ => rfl⟩

/-- One expression is rendered. -/
theorem render (t : TypeExpr) : Steady (TypeCache.render t) :=
  ⟨t.render, [t], fun _ hc => Prod.ext (render_returns t hc).1 rfl⟩

/-- One computation goes on with the value and the cache of another. -/
theorem andThen {m : TypeCache → α × TypeCache} {next : α → TypeCache → β × TypeCache}
    (hm : Steady m) (hnext : ∀ a, Steady (next a)) :
    Steady fun c => next (m c).1 (m c).2 := by
  obtain ⟨a, ts, hm⟩ := hm
  obtain ⟨b, us, hnext⟩ := hnext a
  refine ⟨b, ts ++ us, fun c hc => ?_⟩
  simp only [hm c hc, renderAll_append]
  exact hnext _ (hc.renderAll ts)

/-- Something is made of the value of a computation. -/
theorem map {m : TypeCache → α × TypeCache} (hm : Steady m) (f : α → β) :
    Steady fun c => (f (m c).1, (m c).2) :=
  hm.andThen fun a => pure (f a)

end

end TypeCache.Steady

open TypeCache (Steady)

/-! ## References of a body -/

namespace References

/-- Of a node, only the selector that a call goes to is rendered. -/
theorem visit_steady (scope : Scope) (n : Node) (r : References) : Steady (visit scope n r) := by
  cases n with
  | call f args =>
    cases f with
    | selector e field =>
      exact (Steady.render (Node.selector e field).asType).map fun text =>
        { r with callees := pushNew r.callees text }
    | _ => exact .pure _
  | selector e field => cases e <;> exact .pure _
  | _ => exact .pure _

theorem visitAll_steady (scope : Scope) (ns : List Node) (r : References) :
    Steady (visitAll scope ns r) := by
  induction ns generalizing r with
  | nil => exact .pure r
  | cons n ns ih => exact (visit_steady scope n r).andThen ih

theorem ofBody_steady (scope : Scope) (body : Option Block) : Steady (ofBody scope body) := by
  cases body with
  | none => exact .pure empty
  | some body => exact visitAll_steady scope _ empty

end References

/-! ## Declarations -/

namespace FileFacts

theorem bindingTypes_steady (bs : List (Binding TypeExpr)) : Steady (bindingTypes bs) := by
  induction bs with
  | nil => exact .pure []
  | cons b bs ih =>
    exact (Steady.render b.type).andThen fun text =>
      ih.map (List.replicate (max b.names.length 1) text ++ ·)

theorem optionalText_steady (t : Option TypeExpr) : Steady (optionalText t) := by
  cases t with
  | none => exact .pure ""
  | some t => exact .render t

theorem valueTexts_steady (names : List String) (values : List TypeExpr) :
    Steady (valueTexts names values) := by
  induction names generalizing values with
  | nil => exact .pure []
  | cons name names ih =>
    exact (optionalText_steady values.head?).andThen fun text =>
      (ih values.tail).map ((name, text) :: ·)

theorem globalsOf_steady (file package : String) (spec : ValueSpec) :
    Steady (globalsOf file package spec) :=
  (optionalText_steady spec.type).andThen fun type =>
    (valueTexts_steady spec.names spec.values).map fun texts =>
      texts.map fun (p : String × String) =>
        ({ name := p.1, type, value := p.2, file, package } : GlobalRecord)

theorem allGlobals_steady (file package : String) (specs : List ValueSpec) :
    Steady (allGlobals file package specs) := by
  induction specs with
  | nil => exact .pure []
  | cons spec specs ih =>
    exact (globalsOf_steady file package spec).andThen fun gs => ih.map (gs ++ ·)

theorem functionOf_steady (file package : String) (scope : Scope) (decl : FuncDecl) :
    Steady (functionOf file package scope decl) :=
  (References.ofBody_steady scope decl.body).andThen fun refs =>
    (bindingTypes_steady decl.params).andThen fun params =>
      (bindingTypes_steady decl.results).map (recordOf file package decl refs params)

theorem allFunctions_steady (file package : String) (scope : Scope) (decls : List FuncDecl) :
    Steady (allFunctions file package scope decls) := by
  induction decls with
  | nil => exact .pure []
  | cons decl decls ih =>
    exact (functionOf_steady file package scope decl).andThen fun f => ih.map (f :: ·)

/-- The whole extraction is steady: functions are read after the globals that they may refer to. -/
theorem extract_steady (file : SourceFile) (path : String) : Steady (extract file path) := by
  obtain ⟨globals, ts, hglobals⟩ := allGlobals_steady path file.package file.values
  obtain ⟨functions, us, hfunctions⟩ := allFunctions_steady path file.package
    ⟨globals.map (·.name), file.imports⟩ file.functions
  refine ⟨?facts, ts ++ us, fun c hc => ?eq⟩
  case eq =>
    have hfunctions := hfunctions _ (hc.renderAll ts)
    simp only [extract, hglobals c hc, hfunctions, TypeCache.renderAll_append]
    rfl

/-- **What a file yields does not depend on the cache.** Let any expressions have been rendered with
a cache of any capacity. Every further expression has the text that rendering it afresh gives, and a
file yields the same facts as with a new cache of the usual capacity. Its extraction leaves a cache
behind that is again one after rendering, so that the earlier expressions may be those of other
files. -/
theorem extract_renderAll (file : SourceFile) (path : String) (capacity : Nat)
    (earlier : List TypeExpr) :
    (∀ t, (TypeCache.render t (renderAll (.empty capacity) earlier)).1 = t.render) ∧
      (extract file path (renderAll (.empty capacity) earlier)).1 =
        (extract file path (.empty TypeCache.defaultCapacity)).1 ∧
      ∃ later, (extract file path (renderAll (.empty capacity) earlier)).2 =
        renderAll (.empty capacity) (earlier ++ later) := by
  have hused := (TypeCache.faithful_empty capacity).renderAll earlier
  have hnew := TypeCache.faithful_empty TypeCache.defaultCapacity
  obtain ⟨facts, later, hextract⟩ := extract_steady file path
  refine ⟨fun t => (TypeCache.render_returns t hused).1, ?_, later, ?_⟩
  · rw [hextract _ hused, hextract _ hnew]
  · rw [hextract _ hused, TypeCache.renderAll_append]

end FileFacts

end GoSurvey
