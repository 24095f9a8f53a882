import ScreenNav.Proofs.Settings

/-!
# Consistent declarations

**Theorem (`validate_iff_isConsistent`).** Declarations are accepted if and only if they are consistent,
and refused with an error otherwise.

`IsConsistent` is said of all declarations at once, without an order: no two options and no two types
have the same name, one simple name belongs to one class, no field is declared twice for a class in
whichever of its blocks, and the marker of each field is right. The checks go through the declarations
one by one and stop at the first fault. That they come to the same is known of the options, of the types
and of the blocks (`validate_eq_ok_iff`); what is left are the markers, of which the first on a field
counts, with all of its arguments.
-/

namespace ScreenNav

variable {className fieldName : String} {f : FieldDecl} {marker : Annotation}

/-! ## Markers -/

/-- The annotation is the first on the field that is called `Required`, in whichever package. -/
def FieldDecl.IsMarkedBy (f : FieldDecl) (marker : Annotation) : Prop :=
  QualifiedName.simple marker.name = "Required" ∧ ∃ before after,
    f.annotations = before ++ marker :: after ∧
      ∀ a ∈ before, QualifiedName.simple a.name ≠ "Required"

/-- All arguments of the annotation are called `bind` and hold a truth value. -/
def Annotation.HasBindFlags (marker : Annotation) : Prop :=
  ∀ a ∈ marker.arguments, a.name = some "bind" ∧ ∃ flag, a.value = .bool flag

theorem marker?_eq_some_iff : f.marker? = some marker ↔ f.IsMarkedBy marker := by
  unfold FieldDecl.marker? FieldDecl.IsMarkedBy
  rw [List.find?_eq_some_iff_append]
  simp only [decide_eq_true_eq, Bool.not_eq_true', decide_eq_false_iff_not]
  rfl

theorem argument_bindFlag_eq_ok_iff {a : Argument} {flag : Bool} :
    a.bindFlag className fieldName = .ok flag ↔ a.name = some "bind" ∧ a.value = .bool flag := by
  unfold Argument.bindFlag
  by_cases named : a.name = some bindName
  · cases a.value <;> simp_all [bindName, Value.toBool?]
  · simp_all [bindName]

/-- A marker is right if all of its arguments are, whatever was said by those before. -/
theorem exists_bindFlag_iff :
    (∃ bound, marker.bindFlag className fieldName = .ok bound) ↔ marker.HasBindFlags := by
  unfold Annotation.bindFlag Annotation.HasBindFlags
  generalize true = said
  induction marker.arguments generalizing said with
  | nil => simp [pure, Except.pure]
  | cons a arguments ih =>
    rw [List.forall_mem_cons]
    simp only [List.foldlM_cons, bind_eq_ok_iff, argument_bindFlag_eq_ok_iff]
    constructor
    · intro h
      obtain ⟨bound, flag, ⟨named, value⟩, rest⟩ := h
      exact ⟨⟨named, flag, value⟩, (ih flag).1 ⟨bound, rest⟩⟩
    · intro h
      obtain ⟨⟨named, flag, value⟩, rest⟩ := h
      obtain ⟨bound, rest⟩ := (ih flag).2 rest
      exact ⟨bound, flag, ⟨named, value⟩, rest⟩

/-! ## Files -/

/-- The declarations make sense together. -/
structure Declarations.IsConsistent (d : Declarations) : Prop where
  known : ∀ o ∈ d.options, o.name = "package" ∨ o.name = "strict"
  /-- No option is set twice. -/
  options : (d.options.map (·.name)).Nodup
  strict : ∀ o ∈ d.options, o.name = "strict" → ∃ flag, o.value = .bool flag
  package : ∀ o ∈ d.options, o.name = "package" →
    ∃ name, o.value = .string name ∧ PackageName.isValid name = true
  /-- No type is declared twice. -/
  types : (d.types.map (·.name)).Nodup
  /-- Blocks with one simple name belong to one class. -/
  classes : ∀ c ∈ d.classes, ∀ c' ∈ d.classes,
    QualifiedName.simple c.name = QualifiedName.simple c'.name → c.name = c'.name
  /-- All blocks of a class together declare no field twice. -/
  fields : ∀ className, (fieldNames className d.classes).Nodup
  /-- A marked field is not called like a variable of generated code, and its marker is right. -/
  markers : ∀ c ∈ d.classes, ∀ f ∈ c.fields, ∀ marker, f.IsMarkedBy marker →
    f.name ≠ "context" ∧ f.name ≠ "intent" ∧ marker.HasBindFlags

/-- A marker is accepted if the field may have one and the marker is right. -/
theorem checkMarker_eq_ok_iff_isMarkedBy : f.checkMarker className = .ok () ↔
    ∀ marker, f.IsMarkedBy marker →
      f.name ≠ "context" ∧ f.name ≠ "intent" ∧ marker.HasBindFlags := by
  have free : f.name ∉ reservedNames ↔ f.name ≠ "context" ∧ f.name ≠ "intent" := by
    simp [reservedNames]
  simp only [checkMarker_eq_ok_iff, marker?_eq_some_iff, exists_bindFlag_iff, free, and_assoc]

theorem isConsistent_iff {d : Declarations} : d.IsConsistent ↔
    ValidOptions d.options ∧ (d.types.map (·.name)).Nodup ∧ ValidBlocks d.classes := by
  have known (o : OptionDecl) : o.name ∈ optionNames ↔ o.name = "package" ∨ o.name = "strict" := by
    simp [optionNames]
  constructor
  · intro h
    refine ⟨⟨fun o ho => ⟨(known o).2 (h.known o ho), h.strict o ho, h.package o ho⟩, h.options⟩,
      h.types, h.classes, h.fields, fun c hc f hf => ?_⟩
    exact checkMarker_eq_ok_iff_isMarkedBy.2 (h.markers c hc f hf)
  · intro h
    obtain ⟨⟨admissible, options⟩, types, classes, fields, markers⟩ := h
    exact {
      known := fun o ho => (known o).1 (admissible o ho).known
      options := options
      strict := fun o ho => (admissible o ho).strict
      package := fun o ho => (admissible o ho).package
      types := types
      classes := classes
      fields := fields
      markers := fun c hc f hf => checkMarker_eq_ok_iff_isMarkedBy.1 (markers c hc f hf) }

/-- **Exactly consistent declarations are accepted.** All others are refused with an error. -/
theorem validate_iff_isConsistent (d : Declarations) :
    (d.validate = .ok () ↔ d.IsConsistent) ∧ ((∃ e, d.validate = .error e) ↔ ¬ d.IsConsistent) := by
  have accepted : d.validate = .ok () ↔ d.IsConsistent :=
    validate_eq_ok_iff.trans isConsistent_iff.symm
  refine ⟨accepted, ?_⟩
  rw [← accepted]
  cases d.validate <;> simp

/-- The blocks of a class are taken together, though another class stands between them. -/
example :
    let home : ClassDecl := ⟨"a.Home", [⟨"user", .mk "User" [] 0, [], []⟩]⟩
    let list : ClassDecl := ⟨"a.List", [⟨"user", .mk "User" [] 0, [], []⟩]⟩
    Declarations.validate ⟨[], [], [home, list]⟩ = .ok () ∧
      Declarations.validate ⟨[], [], [home, list, home]⟩ =
        .error (.repeatedField "a.Home" "user") := by
  decide +kernel

end ScreenNav
