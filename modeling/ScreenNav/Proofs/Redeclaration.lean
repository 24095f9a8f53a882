import ScreenNav.Proofs.Assignability
import ScreenNav.Validation

/-!
# Declared types and the built-in hierarchy

**Theorem (`keeps_builtIn_iff`).** Declarations keep the built-in hierarchy, so that each built-in type
can still be used wherever it could be, if and only if every declared type that has the name of a
built-in one leads to each direct supertype that the built-in type has, perhaps through other types.

Declaring a type with a name that is not built in only adds to the hierarchy. A built-in type that is
declared anew has the supertypes of its declaration and no others, so it may lose some that it had:
validation does not ask for them. In `serializable_lost` the usual list is declared with a supertype of
its own, and is not serializable any more.

Only direct supertypes have to be looked at. A chain of built-in types goes on from each of its names as
before, or by a detour around what the declaration left out, and the detours can be put together
whichever names have been declared anew (`KeepsSupertypes.chain`).
-/

namespace ScreenNav.Universe

variable {u : Universe} {name supertype : String}

/-! ## One step -/

/-- The steps of the built-in hierarchy are those of its table. -/
theorem isBelow_builtIn_iff : builtIn.IsBelow name supertype ↔
    ∃ supertypes, (name, supertypes) ∈ Platform.types ∧ supertype ∈ supertypes := by
  constructor
  · rintro ⟨supertypes, has, member⟩
    cases has with
    | declared split => exact absurd split (by simp [builtIn])
    | builtIn _ entry => exact ⟨supertypes, entry, member⟩
  · rintro ⟨supertypes, entry, member⟩
    exact ⟨supertypes, .builtIn (by simp [builtIn]) entry, member⟩

/-- A name that is not declared has the supertypes that it has among the built-in types. -/
theorem IsBelow.of_builtIn (undeclared : ∀ d ∈ u.declared, d.name ≠ name)
    (h : builtIn.IsBelow name supertype) : u.IsBelow name supertype := by
  obtain ⟨supertypes, entry, member⟩ := isBelow_builtIn_iff.1 h
  exact ⟨supertypes, .builtIn undeclared entry, member⟩

/-! ## Chains -/

/-- Every declared type with the name of a built-in one leads to the direct supertypes of the latter. -/
def KeepsSupertypes (u : Universe) : Prop :=
  ∀ d ∈ u.declared, ∀ supertypes, (d.name, supertypes) ∈ Platform.types →
    ∀ supertype ∈ supertypes, Relation.ReflTransGen u.IsBelow d.name supertype

/-- A step between built-in types is a chain behind the declarations. -/
theorem KeepsSupertypes.chain (h : u.KeepsSupertypes) (step : builtIn.IsBelow name supertype) :
    Relation.ReflTransGen u.IsBelow name supertype := by
  by_cases declared : ∃ d ∈ u.declared, d.name = name
  · obtain ⟨d, hd, rfl⟩ := declared
    obtain ⟨supertypes, entry, member⟩ := isBelow_builtIn_iff.1 step
    exact h d hd supertypes entry supertype member
  · have undeclared : ∀ d ∈ u.declared, d.name ≠ name :=
      fun d hd same => declared ⟨d, hd, same⟩
    exact .single (step.of_builtIn undeclared)

/-- **Declarations keep the built-in hierarchy exactly if each built-in type that they declare anew
keeps its direct supertypes.** -/
theorem keeps_builtIn_iff (u : Universe) :
    (∀ candidate capability, builtIn.isAssignable candidate capability = true →
      u.isAssignable candidate capability = true) ↔ u.KeepsSupertypes := by
  simp only [isAssignable_eq_true_iff, mem_supertypes_iff]
  constructor
  · intro kept d _ supertypes entry supertype member
    have step : builtIn.IsBelow d.name supertype :=
      isBelow_builtIn_iff.2 ⟨supertypes, entry, member⟩
    exact kept d.name supertype (.single step)
  · intro keeps candidate capability chain
    induction chain with
    | refl => exact .refl
    | tail _ step ih => exact ih.trans (keeps.chain step)

/-- A file may declare a built-in type anew without its supertype. -/
def abstractList : Declarations :=
  ⟨[], [⟨"java.util.ArrayList", ["java.util.AbstractList"], []⟩], []⟩

/-- The built-in type loses what it could be used as. -/
theorem serializable_lost :
    abstractList.validate = .ok () ∧
      builtIn.isAssignable "java.util.ArrayList" Platform.serializable = true ∧
      (Universe.mk abstractList.types).isAssignable "java.util.ArrayList" Platform.serializable =
        false := by
  refine ⟨rfl, ?_, ?_⟩
  · decide +kernel
  · decide +kernel

end ScreenNav.Universe
