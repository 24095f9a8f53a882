import Mathlib.Logic.Relation
import ScreenNav.Universe

/-!
# Assignability is a chain of supertypes

**Theorem (`isAssignable_iff_chain`).** One type can be used where another is asked for if and only if
a chain of direct supertypes, perhaps an empty one, leads from the first to the second. The hierarchy
may be any: with cycles, with types that extend themselves, with supertypes that nobody declares, and
with built-in types declared anew.

What the direct supertypes are is said by `HasSupertypes`, without a search or a table. That the search
ends on every hierarchy is part of its definition: each name taken up leaves the unvisited ones.

The search takes up a name only while it is unvisited. So it finds the chains whose names are all
unvisited, and the invariant is that these are enough: a chain that passes through the name being taken
up can start behind its last visit there, at one of the supertypes that are pending from then on
(`LeadsTo.avoiding`). At the start every known name is unvisited, and nothing leads on from an unknown
one.
-/

namespace ScreenNav.Universe

variable {u : Universe} {names : List String} {name target : String}

/-! ## Direct supertypes -/

/-- The direct supertypes of a name, in order. An unknown name has none. -/
inductive HasSupertypes (u : Universe) : String → List String → Prop
  /-- The last declaration of a name counts, also where the name is that of a built-in type. It names
  the types extended before those implemented; all declarations take part in qualifying them, in the
  package of the declared type. -/
  | declared {before after : List TypeDecl} {d : TypeDecl} : u.declared = before ++ d :: after →
      (∀ later ∈ after, later.name ≠ d.name) → HasSupertypes u d.name
        ((d.parents ++ d.interfaces).map (u.qualify (QualifiedName.package d.name)))
  | builtIn {name : String} {supertypes : List String} : (∀ d ∈ u.declared, d.name ≠ name) →
      (name, supertypes) ∈ Platform.types → HasSupertypes u name supertypes

/-- One step up the hierarchy. -/
def IsBelow (u : Universe) (name supertype : String) : Prop :=
  ∃ supertypes, u.HasSupertypes name supertypes ∧ supertype ∈ supertypes

theorem declaration?_eq_some_iff {d : TypeDecl} : u.declaration? name = some d ↔
    d.name = name ∧ ∃ before after, u.declared = before ++ d :: after ∧
      ∀ later ∈ after, later.name ≠ name := by
  rw [declaration?, List.find?_eq_some_iff_append, decide_eq_true_eq]
  refine and_congr_right fun _ => ⟨?_, ?_⟩
  · rintro ⟨after, before, reversed, others⟩
    refine ⟨before.reverse, after.reverse, ?_, fun later hlater => ?_⟩
    · simpa using congrArg List.reverse reversed
    · simpa using others later (List.mem_reverse.1 hlater)
  · rintro ⟨before, after, split, others⟩
    refine ⟨after.reverse, before.reverse, ?_, fun later hlater => ?_⟩
    · simp [split]
    · simpa using others later (List.mem_reverse.1 hlater)

theorem declaration?_eq_none_iff : u.declaration? name = none ↔ ∀ d ∈ u.declared, d.name ≠ name := by
  simp [declaration?]

/-- In a table that lists no key twice, every entry is found by its key. -/
theorem lookup_eq_some_iff {α β : Type} [BEq α] [LawfulBEq α] {table : List (α × β)} {key : α}
    {value : β} (distinct : (table.map (·.1)).Nodup) :
    table.lookup key = some value ↔ (key, value) ∈ table := by
  induction table with
  | nil => simp
  | cons entry table ih =>
    obtain ⟨first, content⟩ := entry
    obtain ⟨fresh, rest⟩ := List.nodup_cons.1 distinct
    rw [List.lookup_cons, List.mem_cons, ← ih rest]
    by_cases same : key = first
    · subst same
      have later : table.lookup key ≠ some value := fun h =>
        fresh (List.mem_map.2 ⟨(key, value), (ih rest).1 h, rfl⟩)
      simp [later, eq_comm]
    · simp [beq_false_of_ne same, same]

theorem hasSupertypes_declared_iff {d : TypeDecl} (h : u.declaration? name = some d)
    {supertypes : List String} : u.HasSupertypes name supertypes ↔
      supertypes = d.supertypes.map (u.qualify (QualifiedName.package d.name)) := by
  constructor
  · rintro (⟨split, others⟩ | ⟨undeclared, -⟩)
    · have found := declaration?_eq_some_iff.2 ⟨rfl, _, _, split, others⟩
      obtain rfl := Option.some.inj (h.symm.trans found)
      rfl
    · rw [declaration?_eq_none_iff.2 undeclared] at h
      exact nomatch h
  · rintro rfl
    obtain ⟨rfl, _, _, split, others⟩ := declaration?_eq_some_iff.1 h
    exact .declared split others

theorem hasSupertypes_builtIn_iff (h : u.declaration? name = none) {supertypes : List String} :
    u.HasSupertypes name supertypes ↔ Platform.types.lookup name = some supertypes := by
  have distinct : (Platform.types.map (·.1)).Nodup := by decide +kernel
  rw [lookup_eq_some_iff distinct]
  have undeclared := declaration?_eq_none_iff.1 h
  constructor
  · rintro (⟨split, -⟩ | ⟨-, entry⟩)
    · exact absurd rfl (undeclared _ (split ▸ by simp))
    · exact entry
  · exact .builtIn undeclared

/-- The table of supertypes has the steps that the declarations and the built-in types say. -/
theorem mem_supertypes_iff {supertype : String} :
    supertype ∈ u.supertypes name ↔ u.IsBelow name supertype := by
  unfold supertypes IsBelow
  cases h : u.declaration? name with
  | some d => simp [hasSupertypes_declared_iff h]
  | none =>
    simp only [hasSupertypes_builtIn_iff h]
    cases Platform.types.lookup name <;> simp

theorem HasSupertypes.knows {supertypes : List String} (h : u.HasSupertypes name supertypes) :
    u.Knows name := by
  cases h with
  | declared split => exact List.mem_append_right _ (List.mem_map_of_mem (split ▸ by simp))
  | builtIn _ entry => exact List.mem_append_left _ (List.mem_map_of_mem entry)

/-! ## The search -/

/-- A chain of direct supertypes leads to the target, and goes on from names of the list only. -/
inductive LeadsTo (u : Universe) (names : List String) (target : String) : String → Prop
  | here : LeadsTo u names target target
  | up {name supertype : String} : name ∈ names → supertype ∈ u.supertypes name →
      LeadsTo u names target supertype → LeadsTo u names target name

theorem mem_without_iff {current : String} :
    name ∈ without names current ↔ name ∈ names ∧ name ≠ current := by
  simp [without]

theorem LeadsTo.of_without {current : String} (h : u.LeadsTo (without names current) target name) :
    u.LeadsTo names target name := by
  induction h with
  | here => exact .here
  | up hname hsupertype _ ih => exact .up (mem_without_iff.1 hname).1 hsupertype ih

/-- A chain can do without a name, or start behind its last visit there. -/
theorem LeadsTo.avoiding (h : u.LeadsTo names target name) (current : String) :
    u.LeadsTo (without names current) target name ∨
      ∃ supertype ∈ u.supertypes current, u.LeadsTo (without names current) target supertype := by
  induction h with
  | here => exact .inl .here
  | @up name supertype hname hsupertype _ ih =>
    rcases ih with around | behind
    · by_cases visit : name = current
      · exact .inr ⟨supertype, visit ▸ hsupertype, around⟩
      · exact .inl (.up (mem_without_iff.2 ⟨hname, visit⟩) hsupertype around)
    · exact .inr behind

/-- Taking up an unvisited name keeps what the pending names lead to. -/
theorem exists_leadsTo_cons_iff {current : String} {pending : List String}
    (unvisited : current ∈ names) (other : current ≠ target) :
    (∃ name ∈ current :: pending, u.LeadsTo names target name) ↔
      ∃ name ∈ u.supertypes current ++ pending, u.LeadsTo (without names current) target name := by
  constructor
  · rintro ⟨name, hname, chain⟩
    rcases chain.avoiding current with around | ⟨supertype, hsupertype, behind⟩
    · rcases List.mem_cons.1 hname with rfl | hname
      · cases around with
        | here => exact absurd rfl other
        | up visited => exact absurd rfl (mem_without_iff.1 visited).2
      · exact ⟨name, List.mem_append_right _ hname, around⟩
    · exact ⟨supertype, List.mem_append_left _ hsupertype, behind⟩
  · rintro ⟨name, hname, chain⟩
    rcases List.mem_append.1 hname with hsupertype | hname
    · exact ⟨current, List.mem_cons_self, .up unvisited hsupertype chain.of_without⟩
    · exact ⟨name, List.mem_cons_of_mem _ hname, chain.of_without⟩

/-- The search finds what the pending names lead to along unvisited ones. -/
theorem reaches_eq_true_iff {unvisited pending : List String} :
    u.reaches target unvisited pending = true ↔ ∃ name ∈ pending, u.LeadsTo unvisited target name := by
  fun_induction reaches u target unvisited pending with
  | case1 => simp
  | case2 unvisited pending =>
    exact ⟨fun _ => ⟨target, List.mem_cons_self, .here⟩, fun _ => rfl⟩
  | case3 unvisited current pending other fresh ih =>
    rw [ih, exists_leadsTo_cons_iff fresh other]
  | case4 unvisited current pending other visited ih =>
    have stuck : ¬ u.LeadsTo unvisited target current := by
      intro chain
      cases chain with
      | here => exact other rfl
      | up fresh => exact visited fresh
    simp [ih, stuck]

theorem leadsTo_names_iff : u.LeadsTo u.names target name ↔
    Relation.ReflTransGen (fun name supertype => supertype ∈ u.supertypes name) name target := by
  constructor
  · intro chain
    induction chain with
    | here => exact .refl
    | up _ hsupertype _ ih => exact .head hsupertype ih
  · intro chain
    induction chain using Relation.ReflTransGen.head_induction_on with
    | refl => exact .here
    | head hsupertype _ ih =>
      obtain ⟨_, known, -⟩ := mem_supertypes_iff.1 hsupertype
      exact .up known.knows hsupertype ih

/-- The search along the table of supertypes finds all chains. -/
theorem isAssignable_eq_true_iff {candidate capability : String} :
    u.isAssignable candidate capability = true ↔
      Relation.ReflTransGen (fun name supertype => supertype ∈ u.supertypes name)
        candidate capability := by
  rw [isAssignable, reaches_eq_true_iff, ← leadsTo_names_iff]
  simp

/-- **Assignability is the reflexive transitive closure of the direct supertypes**, in every
hierarchy. -/
theorem isAssignable_iff_chain (u : Universe) (candidate capability : String) :
    u.isAssignable candidate capability = true ↔
      Relation.ReflTransGen u.IsBelow candidate capability := by
  rw [isAssignable_eq_true_iff]
  simp only [mem_supertypes_iff]

/-- Two types that extend each other, and a built-in type that loses its supertype to one of them. -/
example :
    let u : Universe := ⟨[⟨"a.Chat", ["Room"], []⟩, ⟨"a.Room", ["Chat"], ["Bundle"]⟩,
      ⟨"android.os.Bundle", ["a.Chat"], []⟩]⟩
    u.isAssignable "a.Chat" "android.os.Bundle" = true ∧
      u.isAssignable "a.Chat" "android.os.Parcelable" = false := by
  decide +kernel

end ScreenNav.Universe
