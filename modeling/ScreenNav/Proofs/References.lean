import ScreenNav.Proofs.Generation

/-!
# References in one file

**Theorem (`references_consistent`).** Make any number of references to well-formed types, one after
the other, in a scope that refers to nothing yet. There is one way of writing names that every
reference of the run follows, and at every point of the run this way of writing and the imports
beside it are `Consistent`: a dotted name is written in full or as its simple name, no two of them
alike, and a simple name is covered by exactly the import that it needs.

The way of writing is that of the scope at the end. It is the right one at every earlier point as
well, because a name is settled as soon as it has been referred to, and a settled name is written
alike in every later scope.
-/

namespace ScreenNav.Generation

open QualifiedName

variable {s : Scope}

/-! ## Runs of references -/

theorem exists_result_refer {text : String} (h : (TypeName.ofText text).IsWellFormed)
    (s : Scope) : ∃ written, (refer text s).result = .ok written := by
  obtain ⟨written, hw⟩ := (TypeName.render_eq_ok_iff (s.claimType _).display).2 h
  exact ⟨written, mapError_eq_ok_iff.2 hw⟩

theorem exists_result_forEach {α β : Type} {step : α → Generation β} {items : List α}
    (h : ∀ a ∈ items, ∀ s, ∃ b, (step a s).result = .ok b) (s : Scope) :
    ∃ results, (forEach step items s).result = .ok results := by
  induction items generalizing s with
  | nil => exact ⟨[], rfl⟩
  | cons a items ih =>
    obtain ⟨b, hb⟩ := h a (List.mem_cons_self ..) s
    obtain ⟨bs, hbs⟩ := ih (fun a ha => h a (List.mem_cons_of_mem _ ha)) (step a s).scope
    refine ⟨b :: bs, andThen_eq_ok_iff.2 ⟨b, hb, andThen_eq_ok_iff.2 ⟨bs, hbs, rfl⟩⟩⟩

/-- References to well-formed types succeed. -/
theorem exists_result_refers {texts : List String}
    (h : ∀ text ∈ texts, (TypeName.ofText text).IsWellFormed) (s : Scope) :
    ∃ results, (forEach refer texts s).result = .ok results :=
  exists_result_forEach (fun text htext => exists_result_refer (h text htext)) s

theorem refers_refers (texts : List String) :
    Refers (forEach refer texts) texts fun s results =>
      List.Forall₂ (fun text result => s.displayType (TypeName.ofText text) = .ok result)
        texts results := by
  simpa using Refers.forEach texts refers_refer

/-! ## Consistency -/

/-- How the references to several types and the imports beside them fit together, in a file of the
given package. -/
structure Consistent (package : String) (reserved : List String) (written : String → String)
    (texts results imports : List String) : Prop where
  /-- Every reference writes each name in it in the one way that is used for the name. -/
  uniform : List.Forall₂ (fun text result => (TypeName.ofText text).render written = .ok result)
    texts results
  undotted : ∀ name ∈ namesIn texts, ¬ IsDotted name → written name = name
  full_or_simple : ∀ name ∈ namesIn texts, IsDotted name →
    written name = name ∨ written name = simple name
  /-- Different names are written differently. -/
  injective : ∀ a ∈ namesIn texts, ∀ b ∈ namesIn texts, IsDotted a → IsDotted b →
    written a = written b → a = b
  /-- The imports are in ascending order, without repetition. -/
  ascending : imports.Pairwise (· < ·)
  distinct : imports.Pairwise fun a b => simple a ≠ simple b
  foreign : ∀ name ∈ imports,
    QualifiedName.package name ≠ "java.lang" ∧ QualifiedName.package name ≠ package
  unreserved : ∀ name ∈ imports, simple name ∉ reserved
  /-- Only what is written under its simple name is imported. -/
  shortened : ∀ name ∈ imports, name ∈ namesIn texts ∧ IsDotted name ∧ written name = simple name
  /-- What is written under its simple name is imported, unless it is visible without that. -/
  visible : ∀ name ∈ namesIn texts, IsDotted name → written name = simple name →
    name ∈ imports ∨ QualifiedName.package name = "java.lang" ∨
      QualifiedName.package name = package

/-- Whatever a run refers to, the scope behind it fits its references. -/
theorem consistent_of_display {package : String} {reserved texts results : List String}
    {written : String → String}
    (uniform : List.Forall₂ (fun text result => (TypeName.ofText text).render written = .ok result)
      texts results)
    (agrees : ∀ name ∈ namesIn texts,
      written name = ((Scope.start package reserved).claimNames (namesIn texts)).display name) :
    Consistent package reserved written texts results
      ((Scope.start package reserved).claimNames (namesIn texts)).imports := by
  set s := (Scope.start package reserved).claimNames (namesIn texts) with hs
  have wf : s.WellFormed := (Scope.wellFormed_start package reserved).claimNames _
  have hpackage : s.package = package := Scope.package_claimNames _ _
  have hreserved : s.reserved = reserved := Scope.reserved_claimNames _ _
  have visible_iff : ∀ name, s.IsVisible name ↔ name = "java.lang" ∨ name = package := by
    simp [Scope.IsVisible, hpackage]
  refine {
    uniform := uniform
    undotted := fun name hname hdot => ?_
    full_or_simple := fun name hname _ => ?_
    injective := fun a ha b hb hda hdb hab => ?_
    ascending := wf.ascending_imports
    distinct := wf.distinct_imports
    foreign := fun name hname => ?_
    unreserved := fun name hname => ?_
    shortened := fun name hname => ?_
    visible := fun name hname hdot hshort => ?_ }
  · rw [agrees name hname, Scope.display, if_neg (by simp [hdot])]
  · rw [agrees name hname]
    exact Scope.display_eq_or s name
  · rw [agrees a ha, agrees b hb] at hab
    exact Scope.display_injective hda hdb hab
  · simpa [visible_iff] using (Scope.mem_imports.1 hname).2
  · rw [← hreserved]
    exact wf.unreserved name (Scope.mem_imports.1 hname).1
  · have owned := (Scope.mem_imports.1 hname).1
    have occurs := (Scope.claimant?_eq_some (Scope.mem_owners_claimNames_start.1 owned).2).1
    refine ⟨occurs, wf.dotted name owned, ?_⟩
    rw [agrees name occurs]
    exact wf.display_of_mem_imports hname
  · rw [agrees name hname] at hshort
    simpa [visible_iff] using wf.mem_imports_or_isVisible hdot hshort

/-- **References are consistent.** All references of a run write names in one way, and this way and
the imports fit together at every point of the run. -/
theorem references_consistent (package : String) (reserved texts : List String)
    (wellFormed : ∀ text ∈ texts, (TypeName.ofText text).IsWellFormed) :
    ∃ written : String → String, ∀ sofar, sofar <+: texts →
      ∃ results, (forEach refer sofar (Scope.start package reserved)).result = .ok results ∧
        Consistent package reserved written sofar results
          (forEach refer sofar (Scope.start package reserved)).scope.imports := by
  refine ⟨((Scope.start package reserved).claimNames (namesIn texts)).display, ?_⟩
  rintro sofar ⟨later, rfl⟩
  obtain ⟨results, hresults⟩ := exists_result_refers
    (fun text htext => wellFormed text (List.mem_append_left _ htext))
    (Scope.start package reserved)
  refine ⟨results, hresults, ?_⟩
  obtain ⟨-, scope, means⟩ := refers_refers sofar hresults
  rw [scope] at means ⊢
  refine consistent_of_display ?_ fun name hname => ?_
  · have atEnd := means (namesIn later)
    rwa [← Scope.claimNames_append, ← namesIn_append] at atEnd
  · rw [namesIn_append, Scope.claimNames_append]
    exact Scope.display_claimNames (Scope.settles_of_mem _ hname) _

/-- Two types that want one name, inside each other and in both orders, with a reserved name, a type
of the file's own package and one of `java.lang` between them. -/
theorem references_consistent_clash :
    let texts := ["a.Box<b.Box[]>[]", "b.Box", "java.lang.Long", "c.Long", "app.Item", "x.Navigator"]
    (∀ text ∈ texts, (TypeName.ofText text).IsWellFormed) ∧
      ∃ written : String → String, ∀ sofar, sofar <+: texts →
        ∃ results, (forEach refer sofar (Scope.start "app" ["Navigator"])).result = .ok results ∧
          Consistent "app" ["Navigator"] written sofar results
            (forEach refer sofar (Scope.start "app" ["Navigator"])).scope.imports :=
  have wellFormed : ∀ text ∈ ["a.Box<b.Box[]>[]", "b.Box", "java.lang.Long", "c.Long", "app.Item",
      "x.Navigator"], (TypeName.ofText text).IsWellFormed := by decide +kernel
  ⟨wellFormed, references_consistent "app" ["Navigator"] _ wellFormed⟩

end ScreenNav.Generation
