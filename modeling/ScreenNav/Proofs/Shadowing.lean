import ScreenNav.Command
import ScreenNav.Proofs.Methods

/-!
# What bare names denote

A generated file writes some types as bare simple names: those that own their simple name, and those
that have no package. Whoever compiles the file looks a bare name up among the imports, then in the
file's own package, then in `java.lang`.

**Theorem (`denotes_iff_unshadowed`).** The methods of a navigator mention the types that were
referred to and the types of narrow defaults, and nothing else. Every bare name among them denotes
the type that it was written for exactly if the types that were referred to are `Unshadowed`:

* no type without a package has the simple name of an import, and
* no type of the navigator's own package has a simple name that went to a type of `java.lang`.

Neither is ensured. A name without a dot makes no claim, so a later type takes its simple name and is
imported; and a type of `java.lang` is left without an import in any case. `captured` is a file with
both faults.
-/

namespace ScreenNav

open QualifiedName Generation

/-! ## The types in a method -/

/-- The statement has a type with the given text in it; the default of a narrow integer is cast. -/
def Statement.Mentions (text : String) : Statement → Prop
  | .newIntent intentType screenType => text = intentType ∨ text = screenType
  | .getIntent intentType => text = intentType
  | .assign _ cast _ fallback => cast = some text ∨ fallback = some ("(" ++ text ++ ") -1")
  | .putExtra _ | .startActivity => False

/-- The method has a type with the given text in it. -/
def Method.Mentions (m : Method) (text : String) : Prop :=
  (∃ p ∈ m.parameters, text = p.type) ∨ ∃ st ∈ m.statements, st.Mentions text

namespace Navigator

variable {package : String} {strict : Bool} {screens : List Screen} {screen : Screen}
  {s : Scope} {n : Navigator} {name text : String}

/-- The types that the defaults of a screen's bound extras are cast to, which are not referred to
through the scope. -/
def narrowed (screen : Screen) : List String :=
  ((screen.extras.filter (·.bound)).filter fun e => e.type.category = .narrowInteger).map
    fun e => unboxed e.type.name

/-- The texts of all types in the methods of several screens, before names are shortened. -/
def mentions (screens : List Screen) : List String :=
  references screens ++ screens.flatMap narrowed

/-- The name occurs in the file, written as the given text. -/
def IsWrittenAs (package : String) (screens : List Screen) (name text : String) : Prop :=
  name ∈ namesIn (references screens) ∧ text = (finalScope package screens).display name ∨
    name ∈ namesIn (screens.flatMap narrowed) ∧ text = name

/-! ## Bare names -/

/-- The bare name stands for the given type: no other type is imported under it and, if the type is
one of `java.lang`, none of the navigator's own package with this name is among `names`. -/
def Denotes (n : Navigator) (names : List String) (text name : String) : Prop :=
  (∀ other ∈ n.imports, simple other = text → other = name) ∧
    (QualifiedName.package name = "java.lang" → n.package ++ "." ++ text ∈ names →
      n.package ++ "." ++ text = name)

/-- What a bare name stands for when `names` are all types there are: an import, or else a type of
the navigator's own package, or else one of `java.lang`. -/
def denoted? (n : Navigator) (names : List String) (text : String) : Option String :=
  (n.imports.find? fun name => simple name = text).or
    ([n.package ++ "." ++ text, "java.lang" ++ "." ++ text].find? (· ∈ names))

/-- The type that gets a simple name, if the generated class does not have it. -/
def taker? (screens : List Screen) (simple : String) : Option String :=
  Scope.claimant? (namesIn (references screens)) simple

/-- No type loses its bare name to another. -/
structure Unshadowed (package : String) (screens : List Screen) : Prop where
  /-- The simple name of a type without a package went to a type that is not imported, if to any. -/
  undotted : ∀ name ∈ namesIn (mentions screens), ¬ IsDotted name → name ≠ className →
    ∀ first, taker? screens name = some first →
      QualifiedName.package first = "java.lang" ∨ QualifiedName.package first = package
  /-- The simple name of a type of the navigator's own package did not go to one of `java.lang`. -/
  own : package ≠ "java.lang" → ∀ name ∈ namesIn (mentions screens), IsDotted name →
    QualifiedName.package name = package → simple name ≠ className →
      ∀ first, taker? screens (simple name) = some first →
        QualifiedName.package first ≠ "java.lang"

/-! ## The types in the methods of a screen -/

/-- The default that asks for a cast is that of a narrow integer. -/
theorem fallback_eq_iff {e : Extra} {plan : AccessorPlan} (h : e.type.plan? = some plan) :
    plan.fallback = some ("(" ++ text ++ ") -1") ↔
      e.type.category = .narrowInteger ∧ text = unboxed e.type.name := by
  have opens : ∀ other : String, other.toList.head? ≠ some '(' →
      other ≠ "(" ++ text ++ ") -1" := by
    rintro other hother rfl
    exact hother (by simp)
  unfold Descriptor.plan? at h
  cases hc : e.type.category with
  | narrowInteger =>
    rw [hc] at h
    obtain rfl := Option.some.inj h
    simp [eq_comm]
  | wideNumeric | char | int | boolean =>
    rw [hc] at h
    obtain rfl := Option.some.inj h
    simp only [Option.some.injEq, reduceCtorEq, false_and, iff_false]
    exact opens _ (by decide)
  | transferableArray | array | stringLike | transferable | serializable =>
    rw [hc] at h
    obtain rfl := Option.some.inj h
    simp
  | unsupported => rw [hc] at h; simp [Category.plan?] at h

theorem exists_mem_iff_of_forall₂ {α β : Type} {related : α → β → Prop} {p : α → Prop}
    {q : β → Prop} {as : List α} {bs : List β} (h : List.Forall₂ related as bs)
    (hpq : ∀ a b, related a b → (p a ↔ q b)) : (∃ a ∈ as, p a) ↔ ∃ b ∈ bs, q b := by
  induction h with
  | nil => simp
  | cons head _ ih => simp only [List.exists_mem_cons_iff, hpq _ _ head, ih]

theorem mentions_parameters {extras : List Extra} {parameters : List Parameter}
    (h : List.Forall₂ (IsParameter s) extras parameters) :
    (∃ p ∈ parameters, text = p.type) ↔ ∃ e ∈ extras, s.Writes e.type.name text :=
  (exists_mem_iff_of_forall₂ h fun _ _ hp => hp.2.iff).symm

/-- A launcher mentions what it refers to. -/
theorem IsLauncher.mentions {m : Method} (h : IsLauncher s screen m) :
    m.Mentions text ↔ ∃ type ∈ launcherReferences screen, s.Writes type text := by
  obtain ⟨intent, context, activity, parameters, hintent, hcontext, hactivity, hparameters, rfl⟩ := h
  have puts : ¬ ∃ st ∈ screen.extras.map fun e => Statement.putExtra e.name, st.Mentions text := by
    simp [Statement.Mentions]
  have typed : (∃ type ∈ screen.extras.map (·.type.name), s.Writes type text) ↔
      ∃ e ∈ screen.extras, s.Writes e.type.name text := by
    simp
  simp only [Method.Mentions, launcherReferences, List.exists_mem_cons_iff, List.cons_append,
    List.mem_append, or_and_right, exists_or, mentions_parameters hparameters, puts]
  simp only [Statement.Mentions, hintent.iff, hcontext.iff, hactivity.iff, typed,
    List.not_mem_nil, false_and, exists_false, or_false]
  rw [or_left_comm, or_assoc]

/-- An assignment mentions what it refers to and what its default is cast to. -/
theorem IsBound.mentions {e : Extra} {o : Option Statement} (h : IsBound s strict e o) :
    (∃ st ∈ o, st.Mentions text) ↔
      (∃ type ∈ assignmentReferences e, s.Writes type text) ∨
        e.type.category = .narrowInteger ∧ text = unboxed e.type.name := by
  cases h with
  | leftOut _ hplan =>
    have other : e.type.category ≠ .narrowInteger := by
      intro narrow
      simp [Descriptor.plan?, narrow, Category.plan?] at hplan
    simp [assignmentReferences, hplan, other]
  | plain hplan hcast =>
    simp [assignmentReferences, hplan, castReferences, hcast, Statement.Mentions,
      fallback_eq_iff hplan]
  | cast hplan hcast hw =>
    simp [assignmentReferences, hplan, castReferences, hcast, Statement.Mentions,
      fallback_eq_iff hplan, hw.iff, @eq_comm _ _ text]

theorem mentions_assignments {extras : List Extra} {assignments : List (Option Statement)}
    (h : List.Forall₂ (IsBound s strict) extras assignments) :
    (∃ st ∈ assignments.filterMap id, st.Mentions text) ↔
      (∃ type ∈ extras.flatMap assignmentReferences, s.Writes type text) ∨
        ∃ e ∈ extras, e.type.category = .narrowInteger ∧ text = unboxed e.type.name := by
  have flat : (∃ st ∈ assignments.filterMap id, st.Mentions text) ↔
      ∃ o ∈ assignments, ∃ st ∈ o, Statement.Mentions text st := by
    simp [List.mem_filterMap]
  rw [flat, ← exists_mem_iff_of_forall₂ h fun e o ho => ho.mentions.symm]
  simp only [and_or_left, exists_or, List.mem_flatMap]
  refine or_congr ?_ Iff.rfl
  constructor
  · rintro ⟨e, he, type, htype, hw⟩
    exact ⟨type, ⟨e, he, htype⟩, hw⟩
  · rintro ⟨type, ⟨e, he, htype⟩, hw⟩
    exact ⟨e, he, type, htype, hw⟩

theorem mem_narrowed : text ∈ narrowed screen ↔
    ∃ e ∈ screen.extras.filter (·.bound),
      e.type.category = .narrowInteger ∧ text = unboxed e.type.name := by
  unfold narrowed
  generalize screen.extras.filter (·.bound) = extras
  simp [and_assoc, eq_comm]

/-- A binder mentions what it refers to and what its defaults are cast to. -/
theorem IsBinder.mentions {m : Method} (h : IsBinder s strict screen m) :
    m.Mentions text ↔
      (∃ type ∈ binderReferences screen, s.Writes type text) ∨ text ∈ narrowed screen := by
  obtain ⟨intent, activity, assignments, hintent, hactivity, hassignments, rfl⟩ := h
  simp only [Method.Mentions, binderReferences, List.exists_mem_cons_iff, List.cons_append,
    List.mem_append, or_and_right, exists_or, mentions_assignments hassignments, mem_narrowed]
  simp only [Statement.Mentions, hintent.iff, hactivity.iff, List.not_mem_nil,
    false_and, exists_false, or_false]
  rw [or_comm, or_assoc, or_assoc, or_assoc, or_assoc, or_comm (b := text = activity)]

/-- The methods of several screens mention the types that they refer to and those that their defaults
are cast to. -/
theorem mentions_pairs {pairs : List (Method × Method)}
    (h : List.Forall₂ (IsPair s strict) screens pairs) :
    (∃ m ∈ pairs.flatMap fun pair => [pair.1, pair.2], m.Mentions text) ↔
      (∃ type ∈ references screens, s.Writes type text) ∨ text ∈ screens.flatMap narrowed := by
  induction h with
  | nil => simp [references]
  | @cons screen pair screens pairs head _ ih =>
    have both : (∃ m ∈ [pair.1, pair.2], m.Mentions text) ↔
        (∃ type ∈ screenReferences screen, s.Writes type text) ∨ text ∈ narrowed screen := by
      simp only [screenReferences, List.exists_mem_cons_iff, List.mem_append, or_and_right,
        exists_or, head.1.mentions, head.2.mentions, List.not_mem_nil, false_and, exists_false,
        or_false, or_assoc]
    simp only [references, List.flatMap_cons, List.mem_append, or_and_right, exists_or, both] at ih ⊢
    rw [ih, or_or_or_comm]

/-! ## The scope of the whole file -/

theorem wellFormed_finalScope (package : String) (screens : List Screen) :
    (finalScope package screens).WellFormed :=
  (Scope.wellFormed_start package [className]).claimNames _

theorem owner?_finalScope (package : String) (screens : List Screen) (simple : String) :
    (finalScope package screens).owner? simple =
      if simple = className then some (package ++ "." ++ simple) else taker? screens simple := by
  rw [finalScope, Scope.owner?_claimNames, Scope.owner?_start]
  by_cases generated : simple = className
  · simp [generated]
  · simp [generated, taker?]

theorem mem_imports_finalScope {name : String} :
    name ∈ (finalScope package screens).imports ↔
      simple name ≠ className ∧ taker? screens (simple name) = some name ∧
        QualifiedName.package name ≠ "java.lang" ∧ QualifiedName.package name ≠ package := by
  rw [Scope.mem_imports, finalScope, Scope.mem_owners_claimNames_start]
  simp [Scope.IsVisible, Scope.start, taker?, and_assoc]

/-! ## Bare names -/

theorem isDotted_of_package_ne {name : String} (h : QualifiedName.package name ≠ "") :
    IsDotted name := by
  by_contra undotted
  exact h (by simp [QualifiedName.package, splitLast?_eq_none_iff.2 undotted])

/-- A name that is written bare is written as its simple name, which it owns if it has a dot. -/
theorem IsWrittenAs.bare (h : IsWrittenAs package screens name text) (hbare : ¬ IsDotted text) :
    name ∈ namesIn (mentions screens) ∧ text = simple name ∧
      (IsDotted name → (finalScope package screens).owner? (simple name) = some name) := by
  rcases h with ⟨hmem, rfl⟩ | ⟨hmem, rfl⟩
  · have hall : name ∈ namesIn (mentions screens) := by
      rw [mentions, namesIn_append]
      exact List.mem_append_left _ hmem
    refine ⟨hall, ?_, fun hdot => ?_⟩
    · rcases Scope.display_eq_or (finalScope package screens) name with full | short
      · rw [full] at hbare ⊢
        exact (simple_eq_self hbare).symm
      · exact short
    · rcases Scope.display_eq_or (finalScope package screens) name with full | short
      · rw [full] at hbare
        exact absurd hdot hbare
      · exact (Scope.display_eq_simple_iff hdot).1 short
  · have hall : text ∈ namesIn (mentions screens) := by
      rw [mentions, namesIn_append]
      exact List.mem_append_right _ hmem
    exact ⟨hall, (simple_eq_self hbare).symm, fun hdot => absurd hdot hbare⟩

theorem isWrittenAs_self (hmem : name ∈ namesIn (mentions screens)) (h : ¬ IsDotted name) :
    IsWrittenAs package screens name name := by
  rw [mentions, namesIn_append] at hmem
  rcases List.mem_append.1 hmem with hmem | hmem
  · exact .inl ⟨hmem, by simp [Scope.display, h]⟩
  · exact .inr ⟨hmem, rfl⟩

/-- Who takes a simple name that the generated class does not have is written as that. -/
theorem isWrittenAs_of_taker? {simple : String} (h : taker? screens simple = some name)
    (other : simple ≠ className) : IsWrittenAs package screens name simple := by
  obtain ⟨hmem, hdot, rfl⟩ := Scope.claimant?_eq_some h
  refine .inl ⟨hmem, ((Scope.display_eq_simple_iff hdot).2 ?_).symm⟩
  rw [owner?_finalScope, if_neg other, h]

/-- The navigator stands at the end of the file. -/
structure Closes (package : String) (screens : List Screen) (n : Navigator) : Prop where
  package_eq : n.package = package
  imports_eq : n.imports = (finalScope package screens).imports

/-- No other type is imported under a simple name that has an owner. -/
theorem Closes.eq_of_mem_imports (hn : Closes package screens n) {other : String}
    (owner : (finalScope package screens).owner? (simple name) = some name)
    (hother : other ∈ n.imports) (same : simple other = simple name) : other = name := by
  rw [hn.imports_eq, mem_imports_finalScope, same] at hother
  rw [owner?_finalScope, if_neg hother.1, hother.2.1] at owner
  exact Option.some.inj owner

theorem Closes.denotes (hn : Closes package screens n) (unshadowed : Unshadowed package screens)
    (h : IsWrittenAs package screens name text) (hbare : ¬ IsDotted text) :
    n.Denotes (namesIn (mentions screens)) text name := by
  obtain ⟨hmem, rfl, owns⟩ := h.bare hbare
  constructor
  · intro other hother same
    by_cases hdot : IsDotted name
    · exact hn.eq_of_mem_imports (owns hdot) hother same
    · rw [hn.imports_eq, mem_imports_finalScope, same, simple_eq_self hdot] at hother
      obtain ⟨ungenerated, takes, foreign, elsewhere⟩ := hother
      rcases unshadowed.undotted name hmem hdot ungenerated other takes with lang | own
      · exact absurd lang foreign
      · exact absurd own elsewhere
  · intro lang hown
    rw [hn.package_eq] at hown ⊢
    by_contra different
    have hdot : IsDotted name := isDotted_of_package_ne (by rw [lang]; decide)
    have undotted := not_isDotted_simple name
    have own_ne_lang : package ≠ "java.lang" := by
      rintro rfl
      rw [← lang, package_append_simple hdot] at different
      exact different rfl
    have owner := owns hdot
    rw [owner?_finalScope] at owner
    by_cases generated : simple name = className
    · rw [if_pos generated] at owner
      exact different (Option.some.inj owner)
    · rw [if_neg generated] at owner
      refine unshadowed.own own_ne_lang _ hown (isDotted_member _ _) (package_member _ undotted)
        ?_ name ?_ lang
      · rwa [simple_member _ undotted]
      · rwa [simple_member _ undotted]

theorem Closes.unshadowed (hn : Closes package screens n)
    (h : ∀ name text, IsWrittenAs package screens name text → ¬ IsDotted text →
      n.Denotes (namesIn (mentions screens)) text name) : Unshadowed package screens := by
  constructor
  · intro name hmem hdot ungenerated first takes
    obtain ⟨-, hfirst, rfl⟩ := Scope.claimant?_eq_some takes
    by_contra visible
    rw [not_or] at visible
    have imported : first ∈ n.imports := by
      rw [hn.imports_eq, mem_imports_finalScope]
      exact ⟨ungenerated, takes, visible⟩
    have same := (h _ _ (isWrittenAs_self hmem hdot) hdot).1 first imported rfl
    rw [← same] at hdot
    exact hdot hfirst
  · intro own_ne_lang name hmem hdot own ungenerated first takes lang
    have bare := h _ _ (isWrittenAs_of_taker? takes ungenerated) (not_isDotted_simple name)
    have whole : n.package ++ "." ++ simple name = name := by
      rw [hn.package_eq, ← own, package_append_simple hdot]
    have same := bare.2 lang (whole.symm ▸ hmem)
    rw [whole] at same
    rw [← same, own] at lang
    exact own_ne_lang lang

/-- Looking a bare name up finds the type that it was written for if it denotes that. -/
theorem Closes.denotes_iff_denoted? (hn : Closes package screens n)
    (h : IsWrittenAs package screens name text) (hdot : IsDotted name) (hbare : ¬ IsDotted text) :
    n.Denotes (namesIn (mentions screens)) text name ↔
      n.denoted? (namesIn (mentions screens)) text = some name := by
  obtain ⟨hmem, rfl, owns⟩ := h.bare hbare
  have owner := owns hdot
  have unique : ∀ other ∈ n.imports, simple other = simple name → other = name :=
    fun other => hn.eq_of_mem_imports owner
  have whole : QualifiedName.package name ++ "." ++ simple name = name := package_append_simple hdot
  have wf := wellFormed_finalScope package screens
  by_cases imported : name ∈ n.imports
  · have found : (n.imports.find? fun other => simple other = simple name) = some name :=
      Scope.find?_eq_some_of_mem simple (hn.imports_eq ▸ wf.distinct_imports) imported
    have foreign : QualifiedName.package name ≠ "java.lang" := by
      rw [hn.imports_eq, mem_imports_finalScope] at imported
      exact imported.2.2.1
    simp only [denoted?, found, Option.some_or, iff_true]
    exact ⟨unique, fun lang => absurd lang foreign⟩
  · have unfound : (n.imports.find? fun other => simple other = simple name) = none := by
      rw [List.find?_eq_none]
      intro other hother same
      exact imported (unique other hother (of_decide_eq_true same) ▸ hother)
    have visible := wf.mem_imports_or_isVisible hdot ((Scope.display_eq_simple_iff hdot).2 owner)
    rw [← hn.imports_eq, or_iff_right imported] at visible
    simp only [Denotes, denoted?, unfound, Option.none_or]
    by_cases own : QualifiedName.package name = n.package
    · rw [← own, whole, List.find?_cons_of_pos (by simpa using hmem)]
      exact ⟨fun _ => rfl, fun _ => ⟨unique, fun _ _ => rfl⟩⟩
    · have lang : QualifiedName.package name = "java.lang" := by
        rcases visible with lang | own'
        · exact lang
        · rw [hn.package_eq] at own
          rw [finalScope, Scope.package_claimNames] at own'
          exact absurd own' own
      have different : n.package ++ "." ++ simple name ≠ name := by
        intro same
        have parent := package_member n.package (not_isDotted_simple name)
        rw [same] at parent
        exact own parent
      rw [← lang, whole]
      by_cases taken : n.package ++ "." ++ simple name ∈ namesIn (mentions screens)
      · rw [List.find?_cons_of_pos (by simpa using taken)]
        simp [taken, different]
      · rw [List.find?_cons_of_neg (by simpa using taken),
          List.find?_cons_of_pos (by simpa using hmem)]
        exact ⟨fun _ => rfl, fun _ => ⟨unique, fun _ hown => absurd hown taken⟩⟩

/-- **What bare names denote.** -/
theorem denotes_iff_unshadowed (h : (build package strict screens).result = .ok n) :
    (∀ text, (∃ m ∈ n.methods, m.Mentions text) ↔
      (∃ type ∈ references screens, (finalScope package screens).Writes type text) ∨
        text ∈ screens.flatMap narrowed) ∧
    ((∀ name text, IsWrittenAs package screens name text → ¬ IsDotted text →
      n.Denotes (namesIn (mentions screens)) text name) ↔ Unshadowed package screens) ∧
    ∀ name text, IsWrittenAs package screens name text → IsDotted name → ¬ IsDotted text →
      (n.Denotes (namesIn (mentions screens)) text name ↔
        n.denoted? (namesIn (mentions screens)) text = some name) := by
  obtain ⟨pairs, hpairs, rfl⟩ := build_eq_ok h
  have closes : Closes package screens ⟨package, className, (finalScope package screens).imports,
      pairs.flatMap fun pair => [pair.1, pair.2]⟩ := ⟨rfl, rfl⟩
  refine ⟨fun text => mentions_pairs hpairs, ⟨closes.unshadowed, fun unshadowed => ?_⟩, ?_⟩
  · exact fun name text hw hbare => closes.denotes unshadowed hw hbare
  · exact fun name text hw hdot hbare => closes.denotes_iff_denoted? hw hdot hbare

theorem denotes_iff_unshadowed_boxes :
    let home : Screen := ⟨"a.Home", [⟨"size", .numeric "java.lang.Short" "short" 16 true false true,
      true, true⟩, ⟨"next", .transferable "app.Home", true, false⟩]⟩
    ∃ n, (build "app" true [home]).result = .ok n ∧
      (∀ text, (∃ m ∈ n.methods, m.Mentions text) ↔
        (∃ type ∈ references [home], (finalScope "app" [home]).Writes type text) ∨
          text ∈ [home].flatMap narrowed) ∧
      ((∀ name text, IsWrittenAs "app" [home] name text → ¬ IsDotted text →
        n.Denotes (namesIn (mentions [home])) text name) ↔ Unshadowed "app" [home]) ∧
      ∀ name text, IsWrittenAs "app" [home] name text → IsDotted name → ¬ IsDotted text →
        (n.Denotes (namesIn (mentions [home])) text name ↔
          n.denoted? (namesIn (mentions [home])) text = some name) := by
  intro home
  have built : (build "app" true [home]).result.toOption.isSome = true := by decide +kernel
  cases h : (build "app" true [home]).result with
  | error e => simp [h, Except.toOption] at built
  | ok n => exact ⟨n, rfl, denotes_iff_unshadowed h⟩

/-- A file with a class without a package and a later type of the same simple name, and with a box
and a type of the package `app` of the same simple name. -/
def capturingText : String :=
  "type com.m.User implements Parcelable; type app.Integer implements Parcelable; "
    ++ "class User \x7b @Required public int id; \x7d class com.m.Home \x7b "
    ++ "@Required public com.m.User friend; @Required public Integer age; "
    ++ "@Required public app.Integer box; \x7d"

/-- The declarations in the file. -/
def capturingDeclarations : Declarations :=
  let required (name type : String) : FieldDecl :=
    ⟨name, .mk type [] 0, ["public"], [⟨"Required", []⟩]⟩
  { options := []
    types := [⟨"com.m.User", [], ["Parcelable"]⟩, ⟨"app.Integer", [], ["Parcelable"]⟩]
    classes := [⟨"User", [required "id" "int"]⟩,
      ⟨"com.m.Home", [required "friend" "com.m.User", required "age" "Integer",
        required "box" "app.Integer"]⟩] }

/-- The screens of the file. -/
def capturingScreens : List Screen := [
  ⟨"User", [⟨"id", .numeric "int" "int" 32 true false false, true, true⟩]⟩,
  ⟨"com.m.Home", [⟨"friend", .transferable "com.m.User", true, true⟩,
    ⟨"age", .numeric "java.lang.Integer" "int" 32 true false true, true, true⟩,
    ⟨"box", .transferable "app.Integer", true, true⟩]⟩]

set_option maxRecDepth 4000 in
theorem parse_capturingText : parse capturingText = .ok capturingDeclarations := by decide +kernel

/-- The class loses its name to the import of the later type, and the box to the type of the
navigator's own package. -/
theorem captured :
    parse capturingText = .ok capturingDeclarations ∧
      capturingDeclarations.screens = .ok capturingScreens ∧ PackageName.isValid "app" = true ∧
      ∃ n, (build "app" true capturingScreens).result = .ok n ∧
        (IsWrittenAs "app" capturingScreens "User" "User" ∧
          ¬ n.Denotes (namesIn (mentions capturingScreens)) "User" "User") ∧
        IsWrittenAs "app" capturingScreens "java.lang.Integer" "Integer" ∧
          ¬ n.Denotes (namesIn (mentions capturingScreens)) "Integer" "java.lang.Integer" := by
  have built : (build "app" true capturingScreens).result.toOption.isSome = true := by
    decide +kernel
  have taken : taker? capturingScreens "Integer" = some "java.lang.Integer" := by decide +kernel
  have imported : "com.m.User" ∈ (finalScope "app" capturingScreens).imports := by
    rw [mem_imports_finalScope]
    decide +kernel
  refine ⟨parse_capturingText, by decide +kernel, by decide, ?_⟩
  cases h : (build "app" true capturingScreens).result with
  | error e => simp [h, Except.toOption] at built
  | ok n =>
    obtain ⟨pairs, -, rfl⟩ := build_eq_ok h
    refine ⟨_, rfl, ⟨?_, fun denotes => ?_⟩, ?_, fun denotes => ?_⟩
    · exact isWrittenAs_self (by decide +kernel) (by decide)
    · have same := denotes.1 "com.m.User" imported (by decide)
      exact absurd same (by decide)
    · exact isWrittenAs_of_taker? taken (by decide)
    · have same : "app" ++ "." ++ "Integer" = "java.lang.Integer" :=
        denotes.2 (by decide) (show "app" ++ "." ++ "Integer" ∈ _ by decide +kernel)
      exact absurd same (by decide)

end Navigator

end ScreenNav
