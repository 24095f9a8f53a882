/-!
# Qualified names

Names of types and packages: components with dots between them. The last component is the *simple
name*; what stands before the last dot is the *package*, which is empty for a name without a dot.

Any text is a name here. Whether the components are identifiers is for the reader of declarations
to say.

Main statements: `package_append_simple`, that a dotted name is its package, a dot and its simple
name, and `not_isDotted_simple`, that a simple name has no dot.
-/

namespace ScreenNav.QualifiedName

/-! ## The last dot -/

/-- What stands before and behind the last dot. -/
def splitLast? : List Char → Option (List Char × List Char)
  | [] => none
  | c :: rest =>
    match splitLast? rest with
    | some (before, behind) => some (c :: before, behind)
    | none => if c = '.' then some ([], rest) else none

theorem splitLast?_eq_none_iff {name : List Char} : splitLast? name = none ↔ '.' ∉ name := by
  induction name with
  | nil => simp [splitLast?]
  | cons c rest ih =>
    simp only [splitLast?]
    cases hr : splitLast? rest with
    | none =>
      have := ih.1 hr
      by_cases hc : c = '.' <;> simp [hc, this, eq_comm]
    | some parts => simp_all

theorem splitLast?_eq_some {name before behind : List Char}
    (h : splitLast? name = some (before, behind)) :
    name = before ++ '.' :: behind ∧ '.' ∉ behind := by
  induction name generalizing before with
  | nil => simp [splitLast?] at h
  | cons c rest ih =>
    simp only [splitLast?] at h
    split at h
    · rename_i hr
      obtain ⟨rfl, rfl⟩ := by simpa using h
      have ⟨hrest, hdot⟩ := ih hr
      exact ⟨by rw [hrest]; rfl, hdot⟩
    · rename_i hr
      obtain ⟨rfl, rfl, rfl⟩ := by simpa using h
      exact ⟨rfl, splitLast?_eq_none_iff.1 hr⟩

/-! ## Names -/

/-- The name has a dot. -/
def IsDotted (name : String) : Prop := '.' ∈ name.toList

instance (name : String) : Decidable (IsDotted name) :=
  inferInstanceAs (Decidable ('.' ∈ name.toList))

/-- The last component. -/
def simple (name : String) : String :=
  match splitLast? name.toList with
  | some (_, behind) => String.ofList behind
  | none => name

/-- The components before the last, with dots between them. -/
def package (name : String) : String :=
  match splitLast? name.toList with
  | some (before, _) => String.ofList before
  | none => ""

/-- The name of a member of a package; a member of the package without a name stands alone. -/
def inPackage (package simple : String) : String :=
  if package = "" then simple else package ++ "." ++ simple

/-- A simple name has no dot. -/
theorem not_isDotted_simple (name : String) : ¬ IsDotted (simple name) := by
  simp only [IsDotted, simple]
  split
  · rename_i h
    simpa using (splitLast?_eq_some h).2
  · rename_i h
    exact splitLast?_eq_none_iff.1 h

/-- A dotted name is its package, a dot and its simple name. -/
theorem package_append_simple {name : String} (h : IsDotted name) :
    package name ++ "." ++ simple name = name := by
  cases hs : splitLast? name.toList with
  | none => exact absurd h (splitLast?_eq_none_iff.1 hs)
  | some parts =>
    have parts_eq := (splitLast?_eq_some hs).1
    apply String.ext
    simp only [package, simple, hs]
    simp [parts_eq]

/-- A name without a dot is its own simple name. -/
theorem simple_eq_self {name : String} (h : ¬ IsDotted name) : simple name = name := by
  simp [simple, splitLast?_eq_none_iff.2 h]

end ScreenNav.QualifiedName
