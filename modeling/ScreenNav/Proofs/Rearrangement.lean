import Mathlib.Data.List.Find
import Mathlib.Data.List.Forall2
import Mathlib.Data.List.Nodup
import ScreenNav.Command
import ScreenNav.Proofs.Assignability
import ScreenNav.Proofs.Derivation
import ScreenNav.Proofs.Settings

/-!
# The order of declarations

**Theorem (`rearrangement_unobserved`).** The items of a valid file can be put in another order, and
the options within their blocks too. If classes keep their order, and if no two declared types have the
same simple name, then nothing that is made from the file changes: it stays valid, and its settings,
its screens, what is generated from it and the reports on it are the same. So a type can be declared
before it is used or after.

Of two declared types with one simple name the first has it, so for them the order matters. That of the
classes is the order of the screens and of their extras.

The proof compares two universes that declare the same types in different orders. Looking something up
gives the same if at most one entry fits (`find?_key_eq_of_perm`), so a name stands for the same type in
both, and has the same supertypes. Assignability is then the same because it depends on nothing else
(`isAssignable_eq_true_iff`): the two searches themselves may visit types in different orders.
-/

namespace ScreenNav

/-! ## Items -/

/-- A declaration at the top level of a file. -/
inductive Item where
  | options (block : List OptionDecl)
  | type (decl : TypeDecl)
  | classDecl (block : ClassDecl)

namespace Item

/-- The options that are set in an item. -/
def optionsSet : Item → List OptionDecl
  | .options block => block
  | _ => []

/-- The type that an item declares. -/
def type? : Item → Option TypeDecl
  | .type decl => some decl
  | _ => none

/-- The class block that an item is. -/
def class? : Item → Option ClassDecl
  | .classDecl block => some block
  | _ => none

/-- The same item, but for the order of the options in a block. -/
inductive IsLike : Item → Item → Prop
  | options {block block' : List OptionDecl} : block.Perm block' →
      IsLike (.options block) (.options block')
  | same (item : Item) : IsLike item item

end Item

/-- What the items of a file declare. -/
def Declarations.ofItems (items : List Item) : Declarations :=
  ⟨items.flatMap Item.optionsSet, items.filterMap Item.type?, items.filterMap Item.class?⟩

/-- One more item in a file. -/
def Declarations.withItem (d : Declarations) : Item → Declarations
  | .options block => { d with options := d.options ++ block }
  | .type decl => { d with types := d.types ++ [decl] }
  | .classDecl block => { d with classes := d.classes ++ [block] }

theorem Declarations.ofItems_concat (items : List Item) (item : Item) :
    ofItems (items ++ [item]) = (ofItems items).withItem item := by
  simp only [ofItems, List.flatMap_append, List.flatMap_singleton, List.filterMap_append]
  cases item <;> simp [withItem, Item.optionsSet, Item.type?, Item.class?]

/-- The tokens of an item. -/
inductive IsItem : Item → List Token → Prop
  | options {block : List OptionDecl} {tokens : List Token} : Many IsOption block tokens →
      IsItem (.options block)
        (.keyword .optionsBlock :: .symbol .openBrace :: tokens ++ [.symbol .closeBrace])
  | type {decl : TypeDecl} {tokens : List Token} : IsType decl tokens → IsItem (.type decl) tokens
  | classDecl {block : ClassDecl} {tokens : List Token} : IsClass block tokens →
      IsItem (.classDecl block) tokens

/-- A file is a sequence of items. -/
theorem isFile_iff_exists_items {d : Declarations} {tokens : List Token} :
    IsFile d tokens ↔ ∃ items, d = .ofItems items ∧ Many IsItem items tokens := by
  constructor
  · intro file
    induction file with
    | empty => exact ⟨[], rfl, .nil⟩
    | options _ block ih =>
      obtain ⟨items, rfl, before⟩ := ih
      refine ⟨_, (Declarations.ofItems_concat items (.options _)).symm, ?_⟩
      simpa using before.snoc (.options block)
    | type _ decl ih =>
      obtain ⟨items, rfl, before⟩ := ih
      exact ⟨_, (Declarations.ofItems_concat items (.type _)).symm, before.snoc (.type decl)⟩
    | classDecl _ block ih =>
      obtain ⟨items, rfl, before⟩ := ih
      exact ⟨_, (Declarations.ofItems_concat items (.classDecl _)).symm,
        before.snoc (.classDecl block)⟩
  · rintro ⟨items, rfl, many⟩
    induction many with
    | nil => exact .empty
    | snoc _ last ih =>
      rw [Declarations.ofItems_concat]
      cases last with
      | options block => simpa [Declarations.withItem] using ih.options block
      | type decl => exact ih.type decl
      | classDecl block => exact ih.classDecl block

/-- The items are the same in another order, with the options of each block in any order. Classes keep
their order. -/
structure Rearranged (items items' : List Item) : Prop where
  reordered : ∃ between, items.Perm between ∧ List.Forall₂ Item.IsLike between items'
  classes : items'.filterMap Item.class? = items.filterMap Item.class?

/-- Declarations that differ at most in the order of options and of types. -/
structure Declarations.SameUpToOrder (d d' : Declarations) : Prop where
  options : d.options.Perm d'.options
  types : d.types.Perm d'.types
  classes : d'.classes = d.classes

theorem perm_optionsSet_of_isLike {items items' : List Item} (h : List.Forall₂ Item.IsLike items items') :
    (items.flatMap Item.optionsSet).Perm (items'.flatMap Item.optionsSet) := by
  induction h with
  | nil => exact .refl _
  | cons like _ ih =>
    cases like with
    | options perm => exact perm.append ih
    | same => exact ih.append_left _

theorem types_eq_of_isLike {items items' : List Item} (h : List.Forall₂ Item.IsLike items items') :
    items.filterMap Item.type? = items'.filterMap Item.type? := by
  induction h with
  | nil => rfl
  | cons like _ ih =>
    cases like with
    | options => exact ih
    | same => rw [List.filterMap_cons, List.filterMap_cons, ih]

theorem Rearranged.sameUpToOrder {items items' : List Item} (h : Rearranged items items') :
    (Declarations.ofItems items).SameUpToOrder (.ofItems items') := by
  obtain ⟨⟨between, perm, like⟩, classes⟩ := h
  exact {
    options := (perm.flatMap_right _).trans (perm_optionsSet_of_isLike like)
    types := (perm.filterMap _).trans (.of_eq (types_eq_of_isLike like))
    classes := classes }

/-- In two orders of items with different keys, a key finds the same. -/
theorem find?_key_eq_of_perm {α κ : Type} [DecidableEq κ] {key : α → κ} {items items' : List α}
    (perm : items.Perm items') (distinct : (items.map key).Nodup) (k : κ) :
    items.find? (fun a => key a = k) = items'.find? (fun a => key a = k) := by
  refine List.find?_eq_find?_of_perm perm ?_
  rintro a ⟨ha, hk⟩ b ⟨hb, hk'⟩
  exact List.inj_on_of_nodup_map distinct ha hb
    ((of_decide_eq_true hk).trans (of_decide_eq_true hk').symm)

/-! ## Universes -/

namespace Universe

/-- The same types are declared, in different orders perhaps, and each has a simple name of its own. -/
structure SameUpToOrder (u u' : Universe) : Prop where
  declared : u.declared.Perm u'.declared
  distinct : (u.declared.map fun d => QualifiedName.simple d.name).Nodup

/-- Of two declared types with one simple name, the first has it. -/
example :
    (Universe.mk [⟨"a.User", [], []⟩, ⟨"b.User", [], []⟩]).qualify "c" "User" = "a.User" ∧
      (Universe.mk [⟨"b.User", [], []⟩, ⟨"a.User", [], []⟩]).qualify "c" "User" = "b.User" := by
  decide +kernel

namespace SameUpToOrder

variable {u u' : Universe} (h : u.SameUpToOrder u')

include h

theorem ofSimple?_eq : u.ofSimple? = u'.ofSimple? := by
  funext simple
  have declared : (u.declared.map (·.name)).find? (fun name => QualifiedName.simple name = simple) =
      (u'.declared.map (·.name)).find? (fun name => QualifiedName.simple name = simple) :=
    find?_key_eq_of_perm (h.declared.map _) (by simpa [Function.comp_def] using h.distinct) simple
  rw [ofSimple?, ofSimple?, names, names, List.find?_append, List.find?_append, declared]

theorem qualify_eq : u.qualify = u'.qualify := by
  funext package name
  rw [qualify, qualify, h.ofSimple?_eq]

theorem declaration?_eq : u.declaration? = u'.declaration? := by
  funext name
  -- the last declaration of a name is the only one, since even the simple names are different
  have distinct : (u.declared.map (·.name)).Nodup :=
    .of_map QualifiedName.simple (by simpa [Function.comp_def] using h.distinct)
  refine find?_key_eq_of_perm ?_ ?_ name
  · exact (List.reverse_perm _).trans (h.declared.trans (List.reverse_perm _).symm)
  · rw [List.map_reverse]
    exact List.nodup_reverse.2 distinct

theorem supertypes_eq : u.supertypes = u'.supertypes := by
  funext name
  rw [supertypes, supertypes, h.declaration?_eq, h.qualify_eq]

theorem knows_iff {name : String} : u.Knows name ↔ u'.Knows name :=
  ((h.declared.map _).append_left _).mem_iff

theorem isAssignable_eq : u.isAssignable = u'.isAssignable := by
  funext candidate capability
  -- the searches may take other ways, so they are compared by the chains that they find
  rw [Bool.eq_iff_iff, isAssignable_eq_true_iff, isAssignable_eq_true_iff, h.supertypes_eq]

theorem ofErased_eq : Descriptor.ofErased u = Descriptor.ofErased u' := by
  funext erased name
  simp only [Descriptor.ofErased, h.knows_iff, h.isAssignable_eq]

theorem describe_eq : u.describe = u'.describe := by
  funext package text
  simp only [describe, h.qualify_eq, h.ofErased_eq]

theorem gather_eq : Screen.gather u = Screen.gather u' := by
  funext fields
  have extra : MarkedField.extra u = MarkedField.extra u' := by
    funext f
    rw [MarkedField.extra, MarkedField.extra, h.describe_eq]
  rw [Screen.gather, Screen.gather, extra]

end SameUpToOrder

end Universe

/-! ## Files -/

theorem ValidOptions.perm {options options' : List OptionDecl} (valid : ValidOptions options)
    (perm : options.Perm options') : ValidOptions options' where
  admissible o ho := valid.admissible o (perm.mem_iff.2 ho)
  distinct := (perm.map _).nodup_iff.1 valid.distinct

/-- The order in which valid options are set does not matter. -/
theorem ofOptions_eq_of_perm {options options' : List OptionDecl} (valid : ValidOptions options)
    (perm : options.Perm options') : Settings.ofOptions options' = Settings.ofOptions options := by
  have value (name : String) : optionValue? name options' = optionValue? name options :=
    congrArg (·.map OptionDecl.value) (find?_key_eq_of_perm perm valid.distinct name).symm
  rw [ofOptions_eq valid, ofOptions_eq (valid.perm perm), value, value]

namespace Declarations.SameUpToOrder

variable {d d' : Declarations} (h : d.SameUpToOrder d')

include h

theorem validate_eq_ok (valid : d.validate = .ok ()) : d'.validate = .ok () := by
  obtain ⟨options, types, classes⟩ := validate_eq_ok_iff.1 valid
  exact validate_eq_ok_iff.2 ⟨options.perm h.options, (h.types.map _).nodup_iff.1 types,
    h.classes ▸ classes⟩

theorem settings_eq (valid : d.validate = .ok ()) :
    Settings.ofOptions d'.options = Settings.ofOptions d.options :=
  ofOptions_eq_of_perm (validate_eq_ok_iff.1 valid).1 h.options

theorem screens_eq (distinct : (d.types.map fun decl => QualifiedName.simple decl.name).Nodup) :
    d'.screens = d.screens := by
  have same : Universe.SameUpToOrder ⟨d.types⟩ ⟨d'.types⟩ := ⟨h.types, distinct⟩
  rw [screens, screens, h.classes, same.gather_eq]

end Declarations.SameUpToOrder

/-- **The order of declarations does not matter**, apart from that of the classes: a rearrangement of
the items of a valid file, in which each declared type has a simple name of its own, changes nothing. -/
theorem rearrangement_unobserved {items items' : List Item} (rearranged : Rearranged items items')
    (valid : (Declarations.ofItems items).validate = .ok ())
    (distinct : ((Declarations.ofItems items).types.map fun decl =>
      QualifiedName.simple decl.name).Nodup) :
    let d := Declarations.ofItems items
    let d' := Declarations.ofItems items'
    d'.validate = .ok () ∧ Settings.ofOptions d'.options = Settings.ofOptions d.options ∧
      d'.screens = d.screens ∧
      (∀ o directory, d'.generate o directory = d.generate o directory) ∧
      ∀ json, d'.report json = d.report json := by
  intro d d'
  have same : d.SameUpToOrder d' := rearranged.sameUpToOrder
  have settings := same.settings_eq valid
  have screens := same.screens_eq distinct
  refine ⟨same.validate_eq_ok valid, settings, screens, fun o directory => ?_, fun json => ?_⟩
  · simp only [Declarations.generate, Declarations.prepare, settings, screens]
  · simp only [Declarations.report, settings, screens]

/-- A file that uses types before it declares them, in a hierarchy with a cycle. -/
def usesFirst : List Item := [
  .classDecl ⟨"app.Home", [⟨"order", .mk "Order" [] 0, ["public"], [⟨"Required", []⟩]⟩]⟩,
  .options [⟨"package", .string "app"⟩, ⟨"strict", .bool false⟩],
  .type ⟨"shop.Order", ["Record"], []⟩,
  .type ⟨"shop.Record", ["Order"], ["Parcelable"]⟩]

/-- The file with types declared before they are used, and with the other order of options. -/
def declaresFirst : List Item := [
  .type ⟨"shop.Record", ["Order"], ["Parcelable"]⟩,
  .type ⟨"shop.Order", ["Record"], []⟩,
  .options [⟨"strict", .bool false⟩, ⟨"package", .string "app"⟩],
  .classDecl ⟨"app.Home", [⟨"order", .mk "Order" [] 0, ["public"], [⟨"Required", []⟩]⟩]⟩]

theorem rearranged_declaresFirst : Rearranged usesFirst declaresFirst where
  reordered := ⟨usesFirst.reverse, (List.reverse_perm _).symm,
    .cons (.same _) (.cons (.same _) (.cons (.options (.swap _ _ _)) (.cons (.same _) .nil)))⟩
  classes := rfl

/-- The screen of one order is that of the other, and the same is generated. -/
theorem rearrangement_unobserved_shop :
    Rearranged usesFirst declaresFirst ∧ (Declarations.ofItems declaresFirst).validate = .ok () ∧
      (Declarations.ofItems declaresFirst).screens =
        .ok [⟨"app.Home", [⟨"order", .transferable "shop.Order", true, true⟩]⟩] ∧
      ∀ o directory, (Declarations.ofItems declaresFirst).generate o directory =
        (Declarations.ofItems usesFirst).generate o directory := by
  have valid : (Declarations.ofItems usesFirst).validate = .ok () := by decide +kernel
  have known : (Declarations.ofItems usesFirst).screens =
      .ok [⟨"app.Home", [⟨"order", .transferable "shop.Order", true, true⟩]⟩] := by decide +kernel
  obtain ⟨valid', -, screens, generated, -⟩ :=
    rearrangement_unobserved rearranged_declaresFirst valid (by decide +kernel)
  exact ⟨rearranged_declaresFirst, valid', screens.trans known, generated⟩

end ScreenNav
