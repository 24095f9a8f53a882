import ScreenNav.QualifiedName

/-!
# Names put together and taken apart

A package and a simple name make a dotted name that has them back as its parts, provided that the
simple name has no dot. Conversely a dotted name is determined by its parts.
-/

namespace ScreenNav.QualifiedName

theorem splitLast?_append {before behind : List Char} (h : '.' ∉ behind) :
    splitLast? (before ++ '.' :: behind) = some (before, behind) := by
  induction before with
  | nil => simp [splitLast?, splitLast?_eq_none_iff.2 h]
  | cons c before ih => simp [splitLast?, ih]

theorem splitLast?_member (package : String) {simple : String} (h : ¬ IsDotted simple) :
    splitLast? (package ++ "." ++ simple).toList = some (package.toList, simple.toList) := by
  rw [String.toList_append, String.toList_append, List.append_assoc]
  exact splitLast?_append h

/-- The simple name of a member of a package. -/
theorem simple_member (parent : String) {name : String} (h : ¬ IsDotted name) :
    simple (parent ++ "." ++ name) = name := by
  simp only [simple, splitLast?_member parent h, String.ofList_toList]

/-- The package of a member of a package. -/
theorem package_member (parent : String) {name : String} (h : ¬ IsDotted name) :
    package (parent ++ "." ++ name) = parent := by
  simp only [package, splitLast?_member parent h, String.ofList_toList]

theorem isDotted_member (parent name : String) : IsDotted (parent ++ "." ++ name) := by
  simp [IsDotted]

/-- What a member of a package hands down to its own name holds of simple names. -/
theorem simple_of_member {P : String → Prop} {name : String} (h : P name)
    (member : ∀ parent name, P (parent ++ "." ++ name) → P name) : P (simple name) := by
  by_cases dotted : IsDotted name
  · rw [← package_append_simple dotted] at h
    exact member _ _ h
  · rwa [simple_eq_self dotted]

/-- A dotted name is not its own simple name. -/
theorem simple_ne_self {name : String} (h : IsDotted name) : simple name ≠ name := by
  intro same
  have := not_isDotted_simple name
  rw [same] at this
  exact this h

end ScreenNav.QualifiedName
