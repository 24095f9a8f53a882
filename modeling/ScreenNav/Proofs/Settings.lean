import ScreenNav.Proofs.Validity

/-!
# Settings of a valid file

What the options and types of a file have to be for the file to be accepted, and what its options come
to. The checks go through them one by one and remember the names they have seen; `ValidOptions` says of
all options together that each is one that there is, that none is set twice, and that each has a value
of its kind.

Main statements: `checkOptions_eq_ok_iff` and `checkTypes_eq_ok_iff`, by induction over the
declarations; and `ofOptions_eq`, that in the settings of a valid file each option has the value that
the file gives it or else its default, so that the order of options does not matter.
-/

namespace ScreenNav

variable {options : List OptionDecl} {seen : List String} {o : OptionDecl}

/-! ## Valid options -/

/-- An option that there is, with a value of its kind. -/
structure OptionDecl.IsAdmissible (o : OptionDecl) : Prop where
  known : o.name ∈ optionNames
  strict : o.name = "strict" → ∃ flag, o.value = .bool flag
  package : o.name = "package" → ∃ name, o.value = .string name ∧ PackageName.isValid name = true

/-- The options are admissible, and none is set twice. -/
structure ValidOptions (options : List OptionDecl) : Prop where
  admissible : ∀ o ∈ options, o.IsAdmissible
  distinct : (options.map (·.name)).Nodup

theorem toBool?_ne_none_iff {value : Value} : value.toBool? ≠ none ↔ ∃ flag, value = .bool flag := by
  cases value <;> simp [Value.toBool?]

theorem isPackageName_iff {value : Value} : value.isPackageName = true ↔
    ∃ name, value = .string name ∧ PackageName.isValid name = true := by
  cases value <;> simp [Value.isPackageName, Value.toText?]

/-- An option is accepted if it is admissible and not set yet. -/
theorem check_eq_ok_iff : o.check seen = .ok () ↔ o.IsAdmissible ∧ o.name ∉ seen := by
  have admissible_iff : o.IsAdmissible ↔ o.name ∈ optionNames ∧
      (o.name = "strict" → o.value.toBool? ≠ none) ∧
        (o.name = "package" → o.value.isPackageName = true) := by
    simp only [toBool?_ne_none_iff, isPackageName_iff]
    exact ⟨fun h => ⟨h.known, h.strict, h.package⟩, fun ⟨known, strict, package⟩ =>
      ⟨known, strict, package⟩⟩
  rw [admissible_iff, OptionDecl.check]
  split_ifs with unknown repeated strict package <;> simp_all

theorem validOptions_nil : ValidOptions [] := ⟨by simp, List.nodup_nil⟩

theorem validOptions_cons_iff : ValidOptions (o :: options) ↔
    o.IsAdmissible ∧ o.name ∉ options.map (·.name) ∧ ValidOptions options := by
  constructor
  · rintro ⟨admissible, distinct⟩
    obtain ⟨head, tail⟩ := List.forall_mem_cons.1 admissible
    obtain ⟨fresh, distinct⟩ := List.nodup_cons.1 distinct
    exact ⟨head, fresh, tail, distinct⟩
  · rintro ⟨head, fresh, tail, distinct⟩
    exact ⟨List.forall_mem_cons.2 ⟨head, tail⟩, List.nodup_cons.2 ⟨fresh, distinct⟩⟩

/-- Names that differ from a first one and from some others. -/
theorem forall_notMem_cons_iff {α : Type} {items : List α} {f : α → String} {name : String} :
    (∀ a ∈ items, f a ∉ name :: seen) ↔ name ∉ items.map f ∧ ∀ a ∈ items, f a ∉ seen := by
  simp only [List.mem_cons, not_or, List.mem_map, not_exists, not_and, forall_and]

/-- Options are accepted behind others if they are valid together with them. -/
theorem checkOptions_eq_ok_iff : checkOptions seen options = .ok () ↔
    ValidOptions options ∧ ∀ o ∈ options, o.name ∉ seen := by
  induction options generalizing seen with
  | nil => simp [checkOptions, validOptions_nil]
  | cons o options ih =>
    rw [checkOptions, seq_eq_ok_iff, check_eq_ok_iff, ih, forall_notMem_cons_iff,
      validOptions_cons_iff, List.forall_mem_cons]
    constructor
    · rintro ⟨⟨admissible, unset⟩, valid, fresh, others⟩
      exact ⟨⟨admissible, fresh, valid⟩, unset, others⟩
    · rintro ⟨⟨admissible, fresh, valid⟩, unset, others⟩
      exact ⟨⟨admissible, unset⟩, valid, fresh, others⟩

/-! ## Valid types -/

theorem checkTypes_eq_ok_iff {types : List TypeDecl} : checkTypes seen types = .ok () ↔
    (types.map (·.name)).Nodup ∧ ∀ d ∈ types, d.name ∉ seen := by
  induction types generalizing seen with
  | nil => simp [checkTypes]
  | cons d types ih =>
    rw [checkTypes, List.map_cons, List.nodup_cons, List.forall_mem_cons]
    split
    · rename_i repeated
      simp [repeated]
    · rename_i unused
      rw [ih, forall_notMem_cons_iff]
      constructor
      · rintro ⟨distinct, fresh, others⟩
        exact ⟨⟨fresh, distinct⟩, unused, others⟩
      · rintro ⟨⟨fresh, distinct⟩, -, others⟩
        exact ⟨distinct, fresh, others⟩

/-- A file is accepted if its options, its types and its blocks are. -/
theorem validate_eq_ok_iff {d : Declarations} : d.validate = .ok () ↔
    ValidOptions d.options ∧ (d.types.map (·.name)).Nodup ∧ ValidBlocks d.classes := by
  rw [Declarations.validate, seq_eq_ok_iff, seq_eq_ok_iff, checkOptions_eq_ok_iff,
    checkTypes_eq_ok_iff, checkClasses_eq_ok_iff validBlocks_nil]
  simp

/-! ## Settings -/

/-- The value that options give to the one with this name. -/
def optionValue? (name : String) (options : List OptionDecl) : Option Value :=
  (options.find? fun o => o.name = name).map (·.value)

theorem optionValue?_cons (name : String) (o : OptionDecl) (options : List OptionDecl) :
    optionValue? name (o :: options) = if o.name = name then some o.value else
      optionValue? name options := by
  unfold optionValue?
  rw [List.find?_cons]
  by_cases own : o.name = name <;> simp [own]

theorem optionValue?_of_notMem {name : String} (h : name ∉ options.map (·.name)) :
    optionValue? name options = none := by
  simpa [optionValue?] using h

/-- Options that are set one after the other, from any values on. -/
theorem foldl_set_eq (valid : ValidOptions options) (package strict : Value) :
    options.foldl (fun settings o => Settings.set o.name o.value settings)
        [("package", package), ("strict", strict)] =
      [("package", (optionValue? "package" options).getD package),
        ("strict", (optionValue? "strict" options).getD strict)] := by
  induction options generalizing package strict with
  | nil => rfl
  | cons o options ih =>
    obtain ⟨admissible, fresh, valid⟩ := validOptions_cons_iff.1 valid
    have none := optionValue?_of_notMem fresh
    obtain name | name : o.name = "package" ∨ o.name = "strict" := by
      simpa [optionNames] using admissible.known
    all_goals
      rw [name] at none
      rw [List.foldl_cons, optionValue?_cons, optionValue?_cons, name]
      simp [Settings.set, ih valid, none]

/-- The settings of valid options: each has the value that is given to it, or its default. -/
theorem ofOptions_eq (valid : ValidOptions options) : Settings.ofOptions options =
    [("package", (optionValue? "package" options).getD (.string Settings.defaultPackage)),
      ("strict", (optionValue? "strict" options).getD (.bool true))] :=
  foldl_set_eq valid _ _

/-- What is in force for a setting: what is given for it, or else what is declared, or else the
default. -/
inductive InForce {α : Type} (given : Option α) (declared : Option Value) (embed : α → Value)
    (default : α) : α → Prop
  | given {a : α} : given = some a → InForce given declared embed default a
  | declared {a : α} : given = none → declared = some (embed a) →
      InForce given declared embed default a
  | default : given = none → declared = none → InForce given declared embed default default

theorem mem_of_optionValue?_eq_some {name : String} {value : Value}
    (h : optionValue? name options = some value) : ⟨name, value⟩ ∈ options := by
  obtain ⟨o, found, rfl⟩ := Option.map_eq_some_iff.1 h
  have own : o.name = name := by simpa using List.find?_some found
  exact own ▸ List.mem_of_find?_eq_some found

end ScreenNav
