import ScreenNav.Proofs.QualifiedNames
import ScreenNav.Proofs.Structure

/-!
# Qualified names are free of context

**Theorem (`describe_describe_name`).** Describing the name of a type's descriptor gives the descriptor
again, in any other package too, and qualifying a qualified name changes nothing.

A qualified name can be one without a dot: a primitive, or a type without a package. The name of a type
without a package has itself as simple name, so it stands for itself wherever it is used; this is what the
table of simple names has to say for `qualify_qualify`. Only for an unknown type in no package it matters
where it is used.

Names are any text. Those of declared types and of the package become parts of the texts of types, so they
must not have characters at which such a text is cut. In names that an identifier ends with nothing else
can go wrong (`IsLegibleFront`), and with a comma it does (`describe_describe_name_ne`).
-/

namespace ScreenNav

open QualifiedName

variable {u : Universe} {p q name text : String}

/-! ## Names -/

namespace Universe

theorem qualify_of_settled (u : Universe) (package : String) (h : IsDotted name ∨ IsPrimitive name) :
    u.qualify package name = name :=
  if_pos h

theorem simple_of_ofSimple?_eq_some {full : String} (h : u.ofSimple? name = some full) :
    simple full = name := by
  simpa using List.find?_some h

/-- A qualified name stands for itself, unless it is that of an unknown type in no package. -/
theorem qualify_qualify (u : Universe) (context : p ≠ "" ∨ q = p) (name : String) :
    u.qualify q (u.qualify p name) = u.qualify p name := by
  by_cases settled : IsDotted name ∨ IsPrimitive name
  · rw [u.qualify_of_settled p settled, u.qualify_of_settled q settled]
  have first : u.qualify p name = (u.ofSimple? name).getD (inPackage p name) := if_neg settled
  cases found : u.ofSimple? name with
  | some full =>
    rw [first, found, Option.getD_some]
    by_cases dotted : IsDotted full
    · exact u.qualify_of_settled q (.inl dotted)
    · -- A name without a dot is its own simple name.
      have same : full = name :=
        (simple_eq_self dotted).symm.trans (simple_of_ofSimple?_eq_some found)
      rw [same, qualify, if_neg settled, found, same]
      rfl
  | none =>
    rw [first, found, Option.getD_none, inPackage]
    by_cases none : p = ""
    · obtain rfl : q = p := context.resolve_left (· none)
      rw [if_pos none, first, found, Option.getD_none, inPackage, if_pos none]
    · rw [if_neg none]
      exact u.qualify_of_settled q (.inl (isDotted_member p name))

end Universe

/-! ## Legible names -/

/-- A name is legible if it begins like one and its simple name is one. -/
theorem isLegible_of_simple (front : IsLegibleFront name) (h : IsLegible (simple name)) :
    IsLegible name := by
  by_cases dotted : IsDotted name
  · obtain ⟨c, hc, bracket, blank⟩ := h.last
    refine ⟨front, c, ?_, bracket, blank⟩
    rw [← package_append_simple dotted, String.toList_append, List.getLast?_append, hc]
    rfl
  · exact simple_eq_self dotted ▸ h

theorem IsLegibleFront.member (h : IsLegibleFront p) (hname : IsLegibleFront name) :
    IsLegibleFront (p ++ "." ++ name) := by
  have dot : ".".toList = ['.'] := rfl
  refine ⟨fun c hc => ?_, fun c hc => ?_⟩
  · rw [String.toList_append, String.toList_append, dot, List.append_assoc, List.mem_append,
      List.singleton_append, List.mem_cons] at hc
    rcases hc with hc | rfl | hc
    · exact h.1 c hc
    · decide
    · exact hname.1 c hc
  · rw [String.toList_append, String.toList_append, dot] at hc
    cases front : p.toList with
    | nil =>
      obtain rfl : '.' = c := by simpa [front] using hc
      decide
    | cons d rest =>
      obtain rfl : d = c := by simpa [front] using hc
      exact h.2 d (by rw [front]; rfl)

/-- Qualifying keeps names legible. -/
theorem Universe.isLegible_qualify (declared : ∀ d ∈ u.declared, IsLegibleFront d.name)
    (package : IsLegibleFront p) (h : IsLegible name) : IsLegible (u.qualify p name) := by
  by_cases settled : IsDotted name ∨ IsPrimitive name
  · exact (u.qualify_of_settled p settled).symm ▸ h
  rw [qualify, if_neg settled]
  cases found : u.ofSimple? name with
  | some full =>
    have front : IsLegibleFront full := by
      rcases List.mem_append.1 (List.mem_of_find?_eq_some found) with builtIn | added
      · exact (isDottedIdentifier_platform full builtIn).isLegible.front
      · obtain ⟨d, hd, rfl⟩ := List.mem_map.1 added
        exact declared d hd
    exact isLegible_of_simple front ((simple_of_ofSimple?_eq_some found).symm ▸ h)
  | none =>
    rw [Option.getD_none, inPackage]
    split
    · exact h
    · have undotted : ¬ IsDotted name := fun dotted => settled (.inl dotted)
      exact isLegible_of_simple (package.member h.front) ((simple_member p undotted).symm ▸ h)

/-! ## Types -/

namespace TypeRef

variable {f g : String → String} {t : TypeRef}

theorem IsLegible.rename (h : t.IsLegible)
    (keeps : ∀ name, ScreenNav.IsLegible name → ScreenNav.IsLegible (f name)) :
    (t.rename f).IsLegible := by
  induction h with
  | mk hname _ ih =>
    rw [TypeRef.rename, renameAll_eq_map]
    exact .mk (keeps _ hname) (List.forall_mem_map.2 ih)

mutual

/-- Names that are kept once they have been chosen are kept everywhere in a type. -/
theorem rename_rename (settled : ∀ name, g (f name) = f name) :
    (t : TypeRef) → (t.rename f).rename g = t.rename f
  | .mk name args dims => by
    rw [rename, rename, settled, renameAll_renameAll settled args]

theorem renameAll_renameAll (settled : ∀ name, g (f name) = f name) :
    (ts : List TypeRef) → renameAll g (renameAll f ts) = renameAll f ts
  | [] => rfl
  | t :: ts => by
    rw [renameAll, renameAll, rename_rename settled t, renameAll_renameAll settled ts]

end

end TypeRef

/-! ## Descriptions -/

/-- **Qualified names are free of context.** Where a type with the descriptor's name is used, and whether
it was qualified before, makes no difference. -/
theorem Universe.describe_describe_name (u : Universe) {t : TypeRef} (wf : t.IsWellNamed)
    (declared : ∀ d ∈ u.declared, IsLegibleFront d.name) (package : IsLegibleFront p)
    (context : p ≠ "" ∨ q = p) :
    ∃ d, u.describe p t.text = .ok d ∧ u.describe q d.name = .ok d ∧
      u.qualifyType p t.text = .ok d.name ∧ u.qualifyType q d.name = .ok d.name := by
  have qualified : (t.rename (u.qualify p)).IsLegible :=
    wf.isLegible.rename fun name h => isLegible_qualify declared package h
  have again : (t.rename (u.qualify p)).rename (u.qualify q) = t.rename (u.qualify p) :=
    TypeRef.rename_rename (u.qualify_qualify context) t
  have same : (t.rename (u.qualify p)).descriptor u q = t.descriptor u p := by
    rw [TypeRef.descriptor, again, TypeRef.descriptor]
  refine ⟨t.descriptor u p, u.describe_eq_descriptor_of_isLegible p wf.isLegible, ?_,
    u.qualifyType_eq_name_of_isLegible p wf.isLegible, ?_⟩
  · rw [t.name_descriptor, u.describe_eq_descriptor_of_isLegible q qualified, same]
  · rw [t.name_descriptor, u.qualifyType_eq_name_of_isLegible q qualified, same, t.name_descriptor]

/-- A bundle that is declared in a package, a type that is declared without one and an unknown type, in
the arguments of a type of the platform. -/
theorem Universe.describe_describe_name_mixed :
    let u : Universe := ⟨[⟨"model.User", ["Bundle"], []⟩, ⟨"Plain", [], ["Parcelable"]⟩]⟩
    let t : TypeRef := .mk "HashMap" [.mk "Plain" [] 1, .mk "User" [.mk "Missing" [] 0] 2] 1
    t.IsWellNamed ∧ (∀ d ∈ u.declared, IsLegibleFront d.name) ∧ IsLegibleFront "app" ∧
      ("app" ≠ "" ∨ "other" = "app") ∧
      (∃ d, u.describe "app" t.text = .ok d ∧ u.describe "other" d.name = .ok d ∧
        u.qualifyType "app" t.text = .ok d.name ∧ u.qualifyType "other" d.name = .ok d.name) ∧
      u.qualifyType "app" t.text =
        .ok "java.util.HashMap<Plain[], model.User<app.Missing>[][]>[]" := by
  intro u t
  have wf : t.IsWellNamed := by decide +kernel
  have declared : ∀ d ∈ u.declared, IsLegibleFront d.name := by decide
  have package : IsLegibleFront "app" := by decide
  have context : "app" ≠ "" ∨ "other" = "app" := by decide
  have written : (t.rename (u.qualify "app")).text =
      "java.util.HashMap<Plain[], model.User<app.Missing>[][]>[]" := by decide +kernel
  exact ⟨wf, declared, package, context, u.describe_describe_name wf declared package context,
    written ▸ u.qualifyType_text "app" wf.isLegible⟩

/-- A comma in the name of a declared type or in that of the package separates arguments when the name is
read again. -/
theorem Universe.describe_describe_name_ne :
    let u : Universe := ⟨[⟨"a,.T", [], []⟩]⟩
    let t : TypeRef := .mk "ArrayList" [.mk "T" [] 0] 0
    let described : Descriptor := .serializable "java.util.ArrayList<a,.T>"
    let again : Descriptor := .serializable "java.util.ArrayList<p.a, .T>"
    t.IsWellNamed ∧ again ≠ described ∧
      (u.describe "p" t.text = .ok described ∧ u.describe "p" described.name = .ok again) ∧
      builtIn.describe "a," t.text = .ok described ∧ builtIn.describe "p" described.name = .ok again := by
  intro u t described again
  have wf : t.IsWellNamed := by decide +kernel
  exact ⟨wf, by decide, ⟨by decide +kernel, by decide +kernel⟩, by decide +kernel, by decide +kernel⟩

/-- Angle brackets in the name of the package open and close arguments, and a blank in front is lost. -/
example :
    (Universe.builtIn.qualifyType "a<" "T<int>" = .ok "a<.T<int>" ∧
      Universe.builtIn.qualifyType "p" "a<.T<int>" = .ok "p.a<.T<int>") ∧
    (Universe.builtIn.qualifyType "a>" "ArrayList<T<int, int>>" =
        .ok "java.util.ArrayList<a>.T<int, int>>" ∧
      Universe.builtIn.qualifyType "p" "java.util.ArrayList<a>.T<int, int>>" =
        .error .unopenedArguments) ∧
    Universe.builtIn.qualifyType " a" "ArrayList<T>" = .ok "java.util.ArrayList< a.T>" ∧
      Universe.builtIn.qualifyType "p" "java.util.ArrayList< a.T>" = .ok "java.util.ArrayList<a.T>" := by
  refine ⟨⟨?_, ?_⟩, ⟨?_, ?_⟩, ?_, ?_⟩ <;> decide +kernel

end ScreenNav
