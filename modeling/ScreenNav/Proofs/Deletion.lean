import ScreenNav.Proofs.Gathering
import ScreenNav.Proofs.Settings

/-!
# Unmarked declarations do not matter

**Theorem (`deletion_unobserved`).** Delete unmarked fields from valid declarations, annotations other
than the first marker of a field, and blocks without marked fields, any number of each. What is left is
valid, the same fields are scanned, they make up the same screens, and what is generated and reported is
the same, errors included.

**Validation** takes part in what is deleted: the name of an unmarked field is taken, and so is the
simple name of a class without marked fields. But it only compares names with each other, and what is
left of valid names is valid, since it is among them in the same order (`Thinned.map_sublist`).

**Scanning** does not see what is deleted. A field has the same first marker with fewer annotations
around it (`MarkerKept.find?_eq`), an unmarked one is scanned as nothing, and so is a block of them.
-/

namespace ScreenNav

/-! ## Deletions -/

/-- Some members of a list have been dropped, and each of the others has been kept, changed perhaps. -/
inductive Thinned {α : Type} (kept : α → α → Prop) (dropped : α → Prop) : List α → List α → Prop
  | nil : Thinned kept dropped [] []
  | keep {a a' : α} {as as' : List α} : kept a a' → Thinned kept dropped as as' →
      Thinned kept dropped (a :: as) (a' :: as')
  | drop {a : α} {as as' : List α} : dropped a → Thinned kept dropped as as' →
      Thinned kept dropped (a :: as) as'

/-- The annotation is called `Required`, in whichever package. -/
def Annotation.isMarker (note : Annotation) : Bool :=
  decide (QualifiedName.simple note.name = "Required")

/-- Some annotations have been deleted, but not the first marker. -/
inductive MarkerKept : List Annotation → List Annotation → Prop
  | unmarked {notes notes' : List Annotation} : (∀ note ∈ notes, ¬ note.isMarker = true) →
      notes'.Sublist notes → MarkerKept notes notes'
  | marked {before before' after after' : List Annotation} {marker : Annotation} :
      (∀ note ∈ before, ¬ note.isMarker = true) → marker.isMarker = true →
      before'.Sublist before → after'.Sublist after →
      MarkerKept (before ++ marker :: after) (before' ++ marker :: after')

/-- The second field is the first without some of its annotations. -/
structure FieldDecl.TrimsTo (f f' : FieldDecl) : Prop where
  name : f'.name = f.name
  type : f'.type = f.type
  modifiers : f'.modifiers = f.modifiers
  annotations : MarkerKept f.annotations f'.annotations

/-- No annotation of the field is a marker. -/
def FieldDecl.IsUnmarked (f : FieldDecl) : Prop :=
  ∀ note ∈ f.annotations, ¬ note.isMarker = true

/-- The second block is the first without some of its unmarked fields. -/
structure ClassDecl.TrimsTo (c c' : ClassDecl) : Prop where
  name : c'.name = c.name
  fields : Thinned FieldDecl.TrimsTo FieldDecl.IsUnmarked c.fields c'.fields

/-- No field of the block is marked. -/
def ClassDecl.IsUnmarked (c : ClassDecl) : Prop := ∀ f ∈ c.fields, f.IsUnmarked

/-- Unmarked fields, annotations and blocks have been deleted. -/
structure Declarations.TrimsTo (d d' : Declarations) : Prop where
  options : d'.options = d.options
  types : d'.types = d.types
  classes : Thinned ClassDecl.TrimsTo ClassDecl.IsUnmarked d.classes d'.classes

/-! ## What is left of a list -/

namespace Thinned

variable {α β : Type} {kept : α → α → Prop} {dropped : α → Prop} {as as' : List α}

theorem exists_mem (h : Thinned kept dropped as as') : ∀ a' ∈ as', ∃ a ∈ as, kept a a' := by
  induction h with
  | nil => simp
  | keep head _ ih =>
    refine List.forall_mem_cons.2 ⟨⟨_, List.mem_cons_self, head⟩, fun a' ha' => ?_⟩
    obtain ⟨a, ha, keeps⟩ := ih a' ha'
    exact ⟨a, List.mem_cons_of_mem _ ha, keeps⟩
  | drop _ _ ih =>
    intro a' ha'
    obtain ⟨a, ha, keeps⟩ := ih a' ha'
    exact ⟨a, List.mem_cons_of_mem _ ha, keeps⟩

theorem of_forall_dropped (h : ∀ a ∈ as, dropped a) : Thinned kept dropped as [] := by
  induction as with
  | nil => exact .nil
  | cons a as ih =>
    obtain ⟨first, rest⟩ := List.forall_mem_cons.1 h
    exact .drop first (ih rest)

/-- What is kept of each member comes in the same order. -/
theorem map_sublist {key : α → β} (same : ∀ a a', kept a a' → key a' = key a)
    (h : Thinned kept dropped as as') : (as'.map key).Sublist (as.map key) := by
  induction h with
  | nil => exact List.Sublist.slnil
  | keep head _ ih =>
    rw [List.map_cons, List.map_cons, same _ _ head]
    exact ih.cons_cons _
  | drop _ _ ih =>
    rw [List.map_cons]
    exact ih.cons _

end Thinned

/-! ## Markers -/

/-- The first marker is the same. -/
theorem MarkerKept.find?_eq {notes notes' : List Annotation} (h : MarkerKept notes notes') :
    notes'.find? Annotation.isMarker = notes.find? Annotation.isMarker := by
  cases h with
  | unmarked none sublist =>
    have none' : ∀ note ∈ notes', ¬ note.isMarker = true :=
      fun note hnote => none note (sublist.subset hnote)
    rw [List.find?_eq_none.2 none, List.find?_eq_none.2 none']
  | @marked before before' after after' marker none first sublist _ =>
    have none' : ∀ note ∈ before', ¬ note.isMarker = true :=
      fun note hnote => none note (sublist.subset hnote)
    rw [List.find?_append, List.find?_append, List.find?_eq_none.2 none,
      List.find?_eq_none.2 none', List.find?_cons_of_pos first, List.find?_cons_of_pos first]

namespace FieldDecl.TrimsTo

variable {f f' : FieldDecl} (h : f.TrimsTo f') (className : String)

include h

theorem marker?_eq : f'.marker? = f.marker? := h.annotations.find?_eq

theorem marked?_eq : f'.marked? className = f.marked? className := by
  rw [marked?, marked?, h.marker?_eq, h.name, h.type, h.modifiers]

theorem checkMarker_eq : f'.checkMarker className = f.checkMarker className := by
  rw [checkMarker, checkMarker, h.marker?_eq, h.name]

end FieldDecl.TrimsTo

theorem FieldDecl.IsUnmarked.marked?_eq {f : FieldDecl} (h : f.IsUnmarked) (className : String) :
    f.marked? className = .ok none := by
  have none : f.marker? = none := List.find?_eq_none.2 h
  rw [marked?, none]

/-! ## Scanning -/

theorem markedFields_cons (className : String) (f : FieldDecl) (fields : List FieldDecl) :
    ClassDecl.markedFields ⟨className, f :: fields⟩ = do
      let mark ← f.marked? className
      let marks ← ClassDecl.markedFields ⟨className, fields⟩
      return mark.toList ++ marks := by
  simp only [ClassDecl.markedFields, List.mapM_cons, bind_assoc, pure_bind]
  congr! 3 with mark marks
  cases mark <;> rfl

theorem scan_cons (c : ClassDecl) (classes : List ClassDecl) : scan (c :: classes) = do
    let own ← c.markedFields
    let others ← scan classes
    return own ++ others := by
  simp only [scan, List.mapM_cons, bind_assoc, pure_bind, List.flatten_cons]

/-- Fields are scanned as before if unmarked ones are deleted. -/
theorem markedFields_eq_of_thinned {fields fields' : List FieldDecl} (className : String)
    (h : Thinned FieldDecl.TrimsTo FieldDecl.IsUnmarked fields fields') :
    ClassDecl.markedFields ⟨className, fields'⟩ = ClassDecl.markedFields ⟨className, fields⟩ := by
  induction h with
  | nil => rfl
  | keep head _ ih => rw [markedFields_cons, markedFields_cons, head.marked?_eq, ih]
  | drop unmarked _ ih =>
    rw [markedFields_cons, unmarked.marked?_eq, ih]
    exact (bind_pure _).symm

theorem ClassDecl.TrimsTo.markedFields_eq {c c' : ClassDecl} (h : c.TrimsTo c') :
    c'.markedFields = c.markedFields := by
  obtain ⟨className, fields'⟩ := c'
  obtain rfl : className = c.name := h.name
  exact markedFields_eq_of_thinned c.name h.fields

theorem ClassDecl.IsUnmarked.markedFields_eq {c : ClassDecl} (h : c.IsUnmarked) :
    c.markedFields = .ok [] :=
  (markedFields_eq_of_thinned c.name (.of_forall_dropped h)).symm

theorem scan_eq_of_thinned {classes classes' : List ClassDecl}
    (h : Thinned ClassDecl.TrimsTo ClassDecl.IsUnmarked classes classes') :
    scan classes' = scan classes := by
  induction h with
  | nil => rfl
  | keep head _ ih => rw [scan_cons, scan_cons, head.markedFields_eq, ih]
  | drop unmarked _ ih =>
    rw [scan_cons, unmarked.markedFields_eq, ih]
    exact (bind_pure _).symm

/-! ## Validation -/

/-- The names of fields that are left come in the same order. -/
theorem fieldNames_sublist {classes classes' : List ClassDecl}
    (h : Thinned ClassDecl.TrimsTo ClassDecl.IsUnmarked classes classes') (className : String) :
    (fieldNames className classes').Sublist (fieldNames className classes) := by
  have cons (c : ClassDecl) (classes : List ClassDecl) : fieldNames className (c :: classes) =
      (if c.name = className then c.fields.map (·.name) else []) ++ fieldNames className classes := by
    rw [← List.singleton_append, fieldNames_append, fieldNames_singleton]
  induction h with
  | nil => exact List.Sublist.slnil
  | @keep c c' _ _ head _ ih =>
    have own : (c'.fields.map (·.name)).Sublist (c.fields.map (·.name)) :=
      head.fields.map_sublist fun _ _ trims => trims.name
    rw [cons, cons, head.name]
    refine List.Sublist.append ?_ ih
    split
    · exact own
    · exact List.Sublist.slnil
  | drop _ _ ih =>
    rw [cons]
    exact ih.trans (List.sublist_append_right _ _)

/-- What is left of valid blocks is valid. -/
theorem ValidBlocks.of_thinned {classes classes' : List ClassDecl} (valid : ValidBlocks classes)
    (h : Thinned ClassDecl.TrimsTo ClassDecl.IsUnmarked classes classes') : ValidBlocks classes' where
  simple c' hc' e' he' same := by
    obtain ⟨c, hc, trims⟩ := h.exists_mem c' hc'
    obtain ⟨e, he, trims'⟩ := h.exists_mem e' he'
    rw [trims.name, trims'.name] at same ⊢
    exact valid.simple c hc e he same
  fields className := (fieldNames_sublist h className).nodup (valid.fields className)
  markers c' hc' f' hf' := by
    obtain ⟨c, hc, block⟩ := h.exists_mem c' hc'
    obtain ⟨f, hf, field⟩ := block.fields.exists_mem f' hf'
    rw [block.name, field.checkMarker_eq]
    exact valid.markers c hc f hf

/-! ## Files -/

/-- **Unmarked declarations do not matter**: without them, valid declarations are valid, and nothing
that is made from them changes. -/
theorem deletion_unobserved {d d' : Declarations} (trims : d.TrimsTo d')
    (valid : d.validate = .ok ()) :
    d'.validate = .ok () ∧ scan d'.classes = scan d.classes ∧ d'.screens = d.screens ∧
      (∀ o directory, d'.generate o directory = d.generate o directory) ∧
      ∀ json, d'.report json = d.report json := by
  have scanned : scan d'.classes = scan d.classes := scan_eq_of_thinned trims.classes
  have screens : d'.screens = d.screens := by
    rw [Declarations.screens, Declarations.screens, scanned, trims.types]
  refine ⟨?_, scanned, screens, fun o directory => ?_, fun json => ?_⟩
  · obtain ⟨options, types, classes⟩ := validate_eq_ok_iff.1 valid
    exact validate_eq_ok_iff.2
      ⟨trims.options ▸ options, trims.types ▸ types, classes.of_thinned trims.classes⟩
  · simp only [Declarations.generate, Declarations.prepare, trims.options, screens]
  · simp only [Declarations.report, trims.options, screens]

/-- Two markers on a field, of which the first counts, an unmarked field with a name that a marked one
could not have, and a block without marked fields. -/
def annotatedHome : Declarations := ⟨[], [], [
  ⟨"a.Home", [
    ⟨"user", .mk "String" [] 0, ["public"],
      [⟨"Nullable", []⟩, ⟨"Required", [⟨some "bind", .bool false⟩]⟩, ⟨"nav.Required", []⟩]⟩,
    ⟨"context", .mk "int" [] 0, [], [⟨"Nullable", []⟩]⟩]⟩,
  ⟨"a.Map", [⟨"zoom", .mk "int" [] 0, [], []⟩]⟩]⟩

/-- The field with its first marker alone. -/
def markedHome : Declarations := ⟨[], [], [
  ⟨"a.Home", [⟨"user", .mk "String" [] 0, ["public"],
    [⟨"Required", [⟨some "bind", .bool false⟩]⟩]⟩]⟩]⟩

theorem trimsTo_markedHome : annotatedHome.TrimsTo markedHome where
  options := rfl
  types := rfl
  classes := by
    refine .keep ⟨rfl, .keep ⟨rfl, rfl, rfl, ?_⟩ (.drop ?_ .nil)⟩ (.drop ?_ .nil)
    · exact @MarkerKept.marked [⟨"Nullable", []⟩] [] [⟨"nav.Required", []⟩] []
        ⟨"Required", [⟨some "bind", .bool false⟩]⟩ (by decide) (by decide) (List.nil_sublist _)
        (List.nil_sublist _)
    · exact List.forall_mem_singleton.2 (by decide)
    · simp [ClassDecl.IsUnmarked, FieldDecl.IsUnmarked]

/-- The one field makes up the same screen, and the same is generated. -/
theorem deletion_unobserved_home :
    annotatedHome.validate = .ok () ∧ annotatedHome.TrimsTo markedHome ∧
      markedHome.validate = .ok () ∧ scan markedHome.classes = scan annotatedHome.classes ∧
      markedHome.screens = .ok [⟨"a.Home",
        [⟨"user", .stringLike "java.lang.String" "java.lang.String" false, true, false⟩]⟩] ∧
      ∀ o directory, markedHome.generate o directory = annotatedHome.generate o directory := by
  have valid : annotatedHome.validate = .ok () := by decide +kernel
  have known : annotatedHome.screens = .ok [⟨"a.Home",
      [⟨"user", .stringLike "java.lang.String" "java.lang.String" false, true, false⟩]⟩] := by decide +kernel
  obtain ⟨valid', scanned, screens, generated, -⟩ := deletion_unobserved trimsTo_markedHome valid
  exact ⟨valid, trimsTo_markedHome, valid', scanned, screens.trans known, generated⟩

end ScreenNav
