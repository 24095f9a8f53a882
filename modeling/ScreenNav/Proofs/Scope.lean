import ScreenNav.Navigator.Scope
import ScreenNav.Proofs.QualifiedNames
import ScreenNav.Proofs.TypeNames

/-!
# What a run of claims comes to

Any number of claims for names in order, made on one import scope.

**Owners.** A claim for a simple name that is taken changes nothing, so behind a run of claims a
simple name belongs to its earlier owner, or else to the first name of the run that asked for it
(`owner?_claimNames`). Everything about runs follows from this one equation: an owner stays, a name
that has been claimed is settled for good, and a settled name is written alike in every later scope.

**Invariant** (`WellFormed`). The owners are dotted, no two of them have the same simple name, and
none has a reserved one. So a type is written under its simple name by exactly one type, and the
imports are in ascending order without repetition.
-/

namespace ScreenNav.Scope

variable {s : Scope} {names : List String}

/-! ## Owners -/

/-- The scope behind claims for several names, in order. -/
def claimNames (s : Scope) (names : List String) : Scope := names.foldl claim s

/-- The first of several names that asks for a simple name. -/
def claimant? (names : List String) (simple : String) : Option String :=
  names.find? fun name => QualifiedName.IsDotted name ∧ QualifiedName.simple name = simple

@[simp] theorem claimNames_nil (s : Scope) : s.claimNames [] = s := rfl

@[simp] theorem claimNames_cons (s : Scope) (name : String) (names : List String) :
    s.claimNames (name :: names) = (s.claim name).claimNames names := rfl

theorem claimNames_append (s : Scope) (first second : List String) :
    s.claimNames (first ++ second) = (s.claimNames first).claimNames second :=
  List.foldl_append

@[simp] theorem package_claim (s : Scope) (name : String) :
    (s.claim name).package = s.package := by
  unfold claim
  split <;> rfl

@[simp] theorem reserved_claim (s : Scope) (name : String) :
    (s.claim name).reserved = s.reserved := by
  unfold claim
  split <;> rfl

@[simp] theorem package_claimNames (s : Scope) (names : List String) :
    (s.claimNames names).package = s.package := by
  induction names generalizing s with
  | nil => rfl
  | cons name names ih => rw [claimNames_cons, ih, package_claim]

@[simp] theorem reserved_claimNames (s : Scope) (names : List String) :
    (s.claimNames names).reserved = s.reserved := by
  induction names generalizing s with
  | nil => rfl
  | cons name names ih => rw [claimNames_cons, ih, reserved_claim]

theorem claimAll_eq_claimNames {bases : List (Option String)} (h : none ∉ bases) :
    s.claimAll bases = s.claimNames (bases.filterMap id) := by
  induction bases generalizing s with
  | nil => rfl
  | cons base bases ih =>
    cases base with
    | none => simp at h
    | some name => exact ih fun hmem => h (List.mem_cons_of_mem _ hmem)

theorem claimType_eq_claimNames {t : TypeName} (h : t.IsWellFormed) :
    s.claimType t = s.claimNames t.names :=
  claimAll_eq_claimNames h

theorem owner?_claim (s : Scope) (name simple : String) :
    (s.claim name).owner? simple =
      (s.owner? simple).or
        (if QualifiedName.IsDotted name ∧ QualifiedName.simple name = simple then some name
          else none) := by
  by_cases free : QualifiedName.IsDotted name ∧ s.owner? (QualifiedName.simple name) = none
  · have extended : s.claim name = { s with owners := s.owners ++ [name] } := if_pos free
    rw [extended]
    by_cases hr : simple ∈ s.reserved
    · simp [owner?, hr]
    · simp [owner?, hr, List.find?_append, free.1]
  · rw [claim, if_neg free]
    split
    · rename_i asks
      obtain ⟨hdot, rfl⟩ := asks
      obtain ⟨owner, howner⟩ := Option.ne_none_iff_exists'.1 fun none => free ⟨hdot, none⟩
      simp [howner]
    · simp

/-- Behind a run of claims a simple name belongs to its earlier owner, or else to the first name of
the run that asked for it. -/
theorem owner?_claimNames (s : Scope) (names : List String) (simple : String) :
    (s.claimNames names).owner? simple = (s.owner? simple).or (claimant? names simple) := by
  induction names generalizing s with
  | nil => simp [claimant?]
  | cons name names ih =>
    rw [claimNames_cons, ih, owner?_claim, Option.or_assoc]
    congr 1
    by_cases asks : QualifiedName.IsDotted name ∧ QualifiedName.simple name = simple
    · simp [claimant?, asks]
    · rw [if_neg asks, claimant?, claimant?, List.find?_cons_of_neg (by simpa using asks),
        Option.none_or]

theorem claimant?_eq_some {simple name : String} (h : claimant? names simple = some name) :
    name ∈ names ∧ QualifiedName.IsDotted name ∧ QualifiedName.simple name = simple := by
  have asks := List.find?_some h
  simp only [decide_eq_true_eq] at asks
  exact ⟨List.mem_of_find?_eq_some h, asks⟩

theorem exists_claimant? {name : String} (hmem : name ∈ names)
    (hdot : QualifiedName.IsDotted name) :
    ∃ first, claimant? names (QualifiedName.simple name) = some first := by
  rw [← Option.isSome_iff_exists, claimant?, List.find?_isSome]
  exact ⟨name, hmem, by simp [hdot]⟩

/-! ## Settled names -/

/-- It is decided how the name is written. -/
def Settles (s : Scope) (name : String) : Prop :=
  QualifiedName.IsDotted name → ∃ owner, s.owner? (QualifiedName.simple name) = some owner

/-- What has been claimed is settled. -/
theorem settles_of_mem (s : Scope) {name : String} (h : name ∈ names) :
    (s.claimNames names).Settles name := by
  intro hdot
  obtain ⟨first, hfirst⟩ := exists_claimant? h hdot
  rw [owner?_claimNames, hfirst]
  cases s.owner? (QualifiedName.simple name) <;> simp

/-- A claim for a settled name changes nothing. -/
theorem claim_eq_self {name : String} (h : s.Settles name) : s.claim name = s := by
  refine if_neg ?_
  rintro ⟨hdot, free⟩
  obtain ⟨owner, howner⟩ := h hdot
  exact nomatch howner.symm.trans free

theorem claimNames_eq_self (h : ∀ name ∈ names, s.Settles name) : s.claimNames names = s := by
  induction names with
  | nil => rfl
  | cons name names ih =>
    obtain ⟨head, tail⟩ := List.forall_mem_cons.1 h
    rw [claimNames_cons, claim_eq_self head, ih tail]

/-- A settled name is written alike in every later scope. -/
theorem display_claimNames {name : String} (h : s.Settles name) (later : List String) :
    (s.claimNames later).display name = s.display name := by
  by_cases hdot : QualifiedName.IsDotted name
  · obtain ⟨owner, howner⟩ := h hdot
    simp [display, owner?_claimNames, howner]
  · simp [display, hdot]

/-- A well-formed type is written alike in every scope behind its claims. -/
theorem displayType_claimNames {t : TypeName} (h : ∀ name ∈ t.names, s.Settles name)
    (later : List String) : (s.claimNames later).displayType t = s.displayType t :=
  TypeName.render_congr fun name hname => display_claimNames (h name hname) later

/-! ## Display -/

theorem display_eq_or (s : Scope) (name : String) :
    s.display name = name ∨ s.display name = QualifiedName.simple name := by
  unfold display
  split
  · exact .inr rfl
  · exact .inl rfl

/-- A dotted name is written under its simple name exactly if it owns that. -/
theorem display_eq_simple_iff {name : String} (h : QualifiedName.IsDotted name) :
    s.display name = QualifiedName.simple name ↔
      s.owner? (QualifiedName.simple name) = some name := by
  unfold display
  split
  · rename_i owns
    simp [owns.2]
  · rename_i owns
    simp only [h, true_and] at owns
    simp [owns, (QualifiedName.simple_ne_self h).symm]

/-- Different dotted names are written differently. -/
theorem display_injective {a b : String} (ha : QualifiedName.IsDotted a)
    (hb : QualifiedName.IsDotted b) (h : s.display a = s.display b) : a = b := by
  rcases display_eq_or s a with fullA | shortA <;> rcases display_eq_or s b with fullB | shortB
  · rw [← fullA, h, fullB]
  · have undotted := QualifiedName.not_isDotted_simple b
    rw [← shortB, ← h, fullA] at undotted
    exact absurd ha undotted
  · have undotted := QualifiedName.not_isDotted_simple a
    rw [← shortA, h, fullB] at undotted
    exact absurd hb undotted
  · have same : QualifiedName.simple a = QualifiedName.simple b := by rw [← shortA, h, shortB]
    have ownerA := (display_eq_simple_iff ha).1 shortA
    have ownerB := (display_eq_simple_iff hb).1 shortB
    rw [same, ownerB] at ownerA
    exact (Option.some.inj ownerA).symm

/-! ## The invariant -/

/-- The owners are dotted, and each has a simple name of its own that is not reserved. -/
structure WellFormed (s : Scope) : Prop where
  dotted : ∀ name ∈ s.owners, QualifiedName.IsDotted name
  unreserved : ∀ name ∈ s.owners, QualifiedName.simple name ∉ s.reserved
  distinct : s.owners.Pairwise fun a b => QualifiedName.simple a ≠ QualifiedName.simple b

theorem wellFormed_start (package : String) (reserved : List String) :
    (start package reserved).WellFormed :=
  ⟨by simp [start], by simp [start], by simp [start]⟩

theorem WellFormed.claim (h : s.WellFormed) (name : String) : (s.claim name).WellFormed := by
  unfold Scope.claim
  split
  · rename_i free
    obtain ⟨hdot, hfree⟩ := free
    have hr : QualifiedName.simple name ∉ s.reserved := by
      intro hr
      simp [owner?, hr] at hfree
    have others : ∀ owner ∈ s.owners, QualifiedName.simple owner ≠ QualifiedName.simple name := by
      simpa [owner?, hr] using hfree
    constructor
    · simpa [or_imp, forall_and] using ⟨h.dotted, hdot⟩
    · simpa [or_imp, forall_and] using ⟨h.unreserved, hr⟩
    · simpa [List.pairwise_append] using ⟨h.distinct, others⟩
  · exact h

theorem WellFormed.claimNames (h : s.WellFormed) (names : List String) :
    (s.claimNames names).WellFormed := by
  induction names generalizing s with
  | nil => exact h
  | cons name names ih => exact ih (h.claim name)

theorem find?_eq_some_of_mem {α β : Type} [DecidableEq β] (key : α → β) {xs : List α} {x : α}
    (distinct : xs.Pairwise fun a b => key a ≠ key b) (h : x ∈ xs) :
    xs.find? (fun a => decide (key a = key x)) = some x := by
  induction xs with
  | nil => simp at h
  | cons a xs ih =>
    obtain ⟨hhead, htail⟩ := List.pairwise_cons.1 distinct
    rcases List.mem_cons.1 h with rfl | h
    · simp
    · simp [hhead x h, ih htail h]

/-- A simple name belongs to the type of the package that it is reserved for, or to the one owner
that has it. -/
theorem WellFormed.owner?_eq_some_iff (h : s.WellFormed) {simple name : String} :
    s.owner? simple = some name ↔
      simple ∈ s.reserved ∧ name = s.package ++ "." ++ simple ∨
        name ∈ s.owners ∧ QualifiedName.simple name = simple := by
  by_cases hr : simple ∈ s.reserved
  · have unowned : ¬ (name ∈ s.owners ∧ QualifiedName.simple name = simple) := by
      rintro ⟨hmem, rfl⟩
      exact h.unreserved name hmem hr
    rw [owner?, if_pos hr, Option.some_inj, or_iff_left unowned]
    simp [hr, eq_comm]
  · rw [owner?, if_neg hr, or_iff_right fun reserved => hr reserved.1]
    constructor
    · intro hfind
      exact ⟨List.mem_of_find?_eq_some hfind, by simpa using List.find?_some hfind⟩
    · rintro ⟨hmem, rfl⟩
      exact find?_eq_some_of_mem QualifiedName.simple h.distinct hmem

theorem owner?_start (package : String) (reserved : List String) (simple : String) :
    (start package reserved).owner? simple =
      if simple ∈ reserved then some (package ++ "." ++ simple) else none := rfl

/-- The owners in a scope that starts empty are the first names of the run to ask for simple names
that are not reserved. -/
theorem mem_owners_claimNames_start {package : String} {reserved : List String} {name : String} :
    name ∈ ((start package reserved).claimNames names).owners ↔
      QualifiedName.simple name ∉ reserved ∧
        claimant? names (QualifiedName.simple name) = some name := by
  have wf := (wellFormed_start package reserved).claimNames names
  constructor
  · intro h
    have owns := wf.owner?_eq_some_iff.2 (.inr ⟨h, rfl⟩)
    have unreserved : QualifiedName.simple name ∉ reserved := by
      simpa [start] using wf.unreserved name h
    rw [owner?_claimNames, owner?_start, if_neg unreserved, Option.none_or] at owns
    exact ⟨unreserved, owns⟩
  · rintro ⟨unreserved, first⟩
    have owns : ((start package reserved).claimNames names).owner? (QualifiedName.simple name) =
        some name := by
      rw [owner?_claimNames, owner?_start, if_neg unreserved, Option.none_or, first]
    rcases wf.owner?_eq_some_iff.1 owns with ⟨hr, -⟩ | ⟨hmem, -⟩
    · rw [reserved_claimNames] at hr
      exact absurd hr unreserved
    · exact hmem

/-! ## Imports -/

theorem mem_imports {name : String} :
    name ∈ s.imports ↔ name ∈ s.owners ∧ ¬ s.IsVisible (QualifiedName.package name) := by
  simp [imports]

/-- An import is written under its simple name. -/
theorem WellFormed.display_of_mem_imports (h : s.WellFormed) {name : String}
    (hmem : name ∈ s.imports) : s.display name = QualifiedName.simple name :=
  have owned := (mem_imports.1 hmem).1
  (display_eq_simple_iff (h.dotted name owned)).2 (h.owner?_eq_some_iff.2 (.inr ⟨owned, rfl⟩))

/-- What is written under its simple name is imported, or visible without that. -/
theorem WellFormed.mem_imports_or_isVisible (h : s.WellFormed) {name : String}
    (hdot : QualifiedName.IsDotted name) (hs : s.display name = QualifiedName.simple name) :
    name ∈ s.imports ∨ s.IsVisible (QualifiedName.package name) := by
  rcases h.owner?_eq_some_iff.1 ((display_eq_simple_iff hdot).1 hs) with ⟨-, hname⟩ | ⟨hmem, -⟩
  · refine .inr (.inr ?_)
    rw [hname]
    exact QualifiedName.package_member _ (QualifiedName.not_isDotted_simple name)
  · by_cases visible : s.IsVisible (QualifiedName.package name)
    · exact .inr visible
    · exact .inl (mem_imports.2 ⟨hmem, visible⟩)

theorem WellFormed.distinct_imports (h : s.WellFormed) :
    s.imports.Pairwise fun a b => QualifiedName.simple a ≠ QualifiedName.simple b := by
  have filtered := h.distinct.filter fun name => ¬ s.IsVisible (QualifiedName.package name)
  exact (List.mergeSort_perm _ _).symm.pairwise filtered fun hab => hab.symm

/-- The imports are in ascending order, without repetition. -/
theorem WellFormed.ascending_imports (h : s.WellFormed) : s.imports.Pairwise (· < ·) := by
  have sorted : s.imports.Pairwise (· ≤ ·) := by
    have le_sorted := @List.pairwise_mergeSort String (fun a b => decide (a ≤ b))
      (fun a b c hab hbc => by simpa using String.le_trans (by simpa using hab) (by simpa using hbc))
      (fun a b => by simpa using String.le_total a b)
      (s.owners.filter fun name => ¬ s.IsVisible (QualifiedName.package name))
    exact le_sorted.imp fun hab => by simpa using hab
  refine (sorted.and h.distinct_imports).imp fun ⟨hle, hne⟩ => ?_
  exact Std.lt_of_le_of_ne hle fun same => hne (congrArg QualifiedName.simple same)

end ScreenNav.Scope
