import ScreenNav.Proofs.TypeTexts
import ScreenNav.ReadBack

/-!
# Descriptions of type references

What a type is to an intent, said of the reference instead of its text: a type is described by its
innermost type, with a layer for each dimension (`describe_text`). The kind of the innermost type is
decided by its qualified base. `Kind` lists the kinds with what is known of the base, and its text is
only recorded; so two types with the same base are of the same kind (`kind_ofErased`).

Of the arrays, only those with one dimension can be read back: either the platform can pack the
elements, or the element is one of those that have an accessor for arrays, by its name.
-/

namespace ScreenNav

/-! ## Layers -/

theorem bracketPairs_succ (count : Nat) : bracketPairs (count + 1) = bracketPairs count ++ "[]" := by
  apply String.ext
  rw [String.toList_append, TypeName.toList_bracketPairs, TypeName.toList_bracketPairs,
    List.replicate_succ', List.flatten_append, List.flatten_singleton]
  rfl

namespace Descriptor

theorem peel_bracketPairs (count : Nat) : peel (bracketPairs count) = (count, "") := by
  have reversed : peelReversed (bracketPairs count).toList.reverse = (count, []) := by
    induction count with
    | zero => rfl
    | succ count ih =>
      rw [bracketPairs_succ, String.toList_append, List.reverse_append]
      show peelReversed (']' :: '[' :: (bracketPairs count).toList.reverse) = _
      rw [peelReversed, ih]
  rw [peel, reversed]
  rfl

/-- Every dimension adds its brackets to the name. -/
theorem name_arrays (count : Nat) (element : Descriptor) :
    (arrays count element).name = element.name ++ bracketPairs count := by
  induction count with
  | zero => exact (String.append_empty).symm
  | succ count ih =>
    rw [bracketPairs_succ, ← String.append_assoc, ← ih]
    rfl

end Descriptor

theorem TypeRef.text_succ (name : String) (args : List TypeRef) (dims : Nat) :
    (TypeRef.mk name args (dims + 1)).text = (TypeRef.mk name args dims).text ++ "[]" := by
  rw [TypeRef.text, TypeRef.text, bracketPairs_succ, typeText, typeText, String.append_assoc,
    String.append_assoc, String.append_assoc, String.append_assoc]

/-- Qualifying the text of a type is writing it with qualified names. -/
theorem Universe.qualifyType_text (u : Universe) (package : String) {t : TypeRef}
    (h : t.IsLegible) : u.qualifyType package t.text = .ok (t.rename (u.qualify package)).text := by
  rw [qualifyType, TypeRef.ofText_text h]
  exact TypeRef.render_tree _ t

/-- A type with legible names is described by its innermost type, whose kind is decided by the
qualified base alone, and by a layer for each dimension. -/
theorem Universe.describe_text_of_isLegible (u : Universe) (package : String) {t : TypeRef}
    (h : t.IsLegible) :
    u.describe package t.text = .ok (.arrays t.dims (.ofErased u (u.qualify package t.name)
      (t.rename (u.qualify package)).innermost.text)) := by
  obtain ⟨name, args, dims⟩ := t
  have written : (TypeName.node name (TypeRef.trees args) "").render (u.qualify package) =
      .ok ((TypeRef.mk name args dims).rename (u.qualify package)).innermost.text :=
    TypeRef.render_tree (u.qualify package) (.mk name args 0)
  rw [describe, TypeRef.ofText_text h, TypeRef.tree]
  simp only [Descriptor.peel_bracketPairs, written]
  rfl

theorem Universe.describe_text (u : Universe) (package : String) {t : TypeRef} (h : t.IsWellNamed) :
    u.describe package t.text = .ok (.arrays t.dims (.ofErased u (u.qualify package t.name)
      (t.rename (u.qualify package)).innermost.text)) :=
  u.describe_text_of_isLegible package h.isLegible

/-! ## Kinds -/

/-- A primitive other than `void`, the box of one, `String` or `CharSequence`: the types that have an
accessor of their own. -/
def IsPlainValue (base : String) : Prop := unboxed base ∈ typedArrayElements

instance (base : String) : Decidable (IsPlainValue base) :=
  inferInstanceAs (Decidable (_ ∈ typedArrayElements))

/-- The text types, which are themselves plain values and not boxes. -/
def IsText (base : String) : Prop := base = Platform.string ∨ base = Platform.charSequence

instance (base : String) : Decidable (IsText base) := inferInstanceAs (Decidable (_ ∨ _))

/-- The kinds of types without dimensions, as functions from the text of the type to its descriptor,
with what is known of the qualified base. -/
inductive Kind (u : Universe) (base : String) : (String → Descriptor) → Prop
  | numeric {width : Int} {floating boxed : Bool} :
      numericPrimitives.lookup (unboxed base) = some (width, floating) →
      Kind u base fun name => .numeric name (unboxed base) width true floating boxed
  | char {boxed : Bool} : unboxed base = "char" → Kind u base fun name => .char name boxed
  | boolean {boxed : Bool} : unboxed base = "boolean" → Kind u base fun name => .boolean name boxed
  | text : IsText base → Kind u base fun name => .stringLike name name false
  | bundle : ¬ IsPlainValue base → u.isAssignable base Platform.bundle = true →
      Kind u base fun name => .stringLike name Platform.bundle true
  | transferable : ¬ IsPlainValue base → u.isAssignable base Platform.parcelable = true →
      Kind u base .transferable
  | serializable : ¬ IsPlainValue base → u.isAssignable base Platform.serializable = true →
      Kind u base .serializable
  | unsupported : ¬ IsPlainValue base → Kind u base .unsupported

theorem mem_of_lookup_eq_some {α : Type} {table : List (String × α)} {key : String} {value : α}
    (h : table.lookup key = some value) : (key, value) ∈ table := by
  obtain ⟨before, behind, eq, -⟩ := List.lookup_eq_some_iff.1 h
  exact eq ▸ by simp

theorem lookup_eq_none_iff {α : Type} {table : List (String × α)} {key : String} :
    table.lookup key = none ↔ key ∉ table.map (·.1) := by
  rw [List.lookup_eq_none_iff]
  constructor
  · intro h mem
    obtain ⟨entry, listed, rfl⟩ := List.mem_map.1 mem
    simpa using h entry listed
  · intro h entry listed
    have other : key ≠ entry.1 := fun same => h (same ▸ List.mem_map_of_mem listed)
    simpa using other

theorem isPrimitive_of_lookup {primitive : String} {entry : Int × Bool}
    (h : numericPrimitives.lookup primitive = some entry) :
    primitive ∈ numericPrimitives.map (·.1) :=
  List.mem_map_of_mem (mem_of_lookup_eq_some h)

/-- A type either is a box, or stands for itself. -/
theorem unboxed_cases (base : String) : (base, unboxed base) ∈ boxes ∨ unboxed base = base := by
  unfold unboxed
  cases h : boxes.lookup base with
  | none => exact .inr rfl
  | some primitive => exact .inl (mem_of_lookup_eq_some h)

theorem not_isPlainValue {base : String} (number : numericPrimitives.lookup (unboxed base) = none)
    (char : unboxed base ≠ "char") (boolean : unboxed base ≠ "boolean") (text : ¬ IsText base) :
    ¬ IsPlainValue base := by
  intro plain
  obtain box | self := unboxed_cases base
  · -- Every box holds a number, a character or a truth value.
    have held : ∀ entry ∈ boxes, numericPrimitives.lookup entry.2 = none →
        entry.2 = "char" ∨ entry.2 = "boolean" := by decide
    exact (held _ box number).elim char boolean
  · have listed : ∀ name ∈ typedArrayElements, numericPrimitives.lookup name = none →
        name = "char" ∨ name = "boolean" ∨ IsText name := by decide
    obtain c | b | t := listed _ plain number
    · exact char c
    · exact boolean b
    · exact text (self ▸ t)

theorem isDottedIdentifier_platform : ∀ name ∈ Platform.types.map (·.1), IsDottedIdentifier name := by
  decide +kernel

theorem Universe.knows_of_isText (u : Universe) {base : String} (h : IsText base) : u.Knows base := by
  have builtIn : base ∈ Platform.types.map (·.1) := by
    rcases h with rfl | rfl <;> decide
  exact List.mem_append_left _ builtIn

/-- Every type is of one of the kinds. -/
theorem kind_ofErased (u : Universe) (base : String) : Kind u base (.ofErased u base) := by
  cases number : numericPrimitives.lookup (unboxed base) with
  | some entry =>
    have same : Descriptor.ofErased u base = fun name => .numeric name (unboxed base) entry.1 true
        entry.2 (boxes.lookup base).isSome := by
      funext name
      simp only [Descriptor.ofErased, number]
    exact same ▸ .numeric number
  | none =>
    have unfolded : Descriptor.ofErased u base = fun name =>
        if unboxed base = "char" then .char name (boxes.lookup base).isSome
        else if unboxed base = "boolean" then .boolean name (boxes.lookup base).isSome
        else if ¬ u.Knows base then .unsupported name
        else if IsText base then .stringLike name name false
        else if u.isAssignable base Platform.bundle then .stringLike name Platform.bundle true
        else if u.isAssignable base Platform.parcelable then .transferable name
        else if u.isAssignable base Platform.serializable then .serializable name
        else .unsupported name := by
      funext name
      simp only [Descriptor.ofErased, number]
      rfl
    rw [unfolded]
    by_cases char : unboxed base = "char"
    · simpa only [if_pos char] using .char char
    by_cases boolean : unboxed base = "boolean"
    · simpa only [if_neg char, if_pos boolean] using .boolean boolean
    by_cases text : IsText base
    · have known := u.knows_of_isText text
      simpa only [if_neg char, if_neg boolean, known, not_true_eq_false, if_false, if_pos text]
        using .text text
    have other := not_isPlainValue number char boolean text
    by_cases known : u.Knows base
    · simp only [if_neg char, if_neg boolean, known, not_true_eq_false, if_false, if_neg text]
      by_cases bundle : u.isAssignable base Platform.bundle = true
      · simpa only [if_pos bundle] using .bundle other bundle
      by_cases parcelable : u.isAssignable base Platform.parcelable = true
      · simpa only [if_neg bundle, if_pos parcelable] using .transferable other parcelable
      by_cases serializable : u.isAssignable base Platform.serializable = true
      · simpa only [if_neg bundle, if_neg parcelable, if_pos serializable] using
          .serializable other serializable
      · simpa only [if_neg bundle, if_neg parcelable, if_neg serializable] using .unsupported other
    · simpa only [if_neg char, if_neg boolean, known, not_false_eq_true, if_true] using
        .unsupported other

/-- The text of a type is the name of its descriptor. -/
theorem Kind.name {u : Universe} {base : String} {kind : String → Descriptor} (h : Kind u base kind)
    (text : String) : (kind text).name = text := by
  cases h <;> rfl

/-! ## Names with arguments -/

/-- The text of a type whose base has type arguments. -/
def HasArguments (base text : String) : Prop :=
  ∃ inner, text.toList = base.toList ++ '<' :: inner ++ ['>']

theorem HasArguments.notMem {base text : String} (h : HasArguments base text) {names : List String}
    (plain : ∀ name ∈ names, '<' ∉ name.toList) : text ∉ names := by
  intro listed
  obtain ⟨inner, written⟩ := h
  refine plain text listed ?_
  rw [written]
  simp

theorem HasArguments.unboxed {base text : String} (h : HasArguments base text) :
    unboxed text = text := by
  obtain box | self := unboxed_cases text
  · have plain : ∀ name ∈ boxes.map (·.1), '<' ∉ name.toList := by decide
    exact absurd (List.mem_map_of_mem box) (h.notMem plain)
  · exact self

namespace TypeRef

/-- The type without its arguments. -/
def erased : TypeRef → TypeRef
  | .mk name _ dims => .mk name [] dims

theorem IsWellNamed.erased {t : TypeRef} (h : t.IsWellNamed) : t.erased.IsWellNamed := by
  obtain ⟨hname, -⟩ := h
  exact .ofName hname

theorem text_eq_innermost (t : TypeRef) : t.text = t.innermost.text ++ bracketPairs t.dims := by
  obtain ⟨name, args, dims⟩ := t
  have none : bracketPairs 0 = "" := rfl
  rw [text, innermost, text, none, typeText, typeText, String.append_empty]
  rfl

theorem innermost_rename_cases (choose : String → String) (t : TypeRef) :
    t.args = [] ∧ (t.rename choose).innermost.text = choose t.name ∨
      t.args ≠ [] ∧ HasArguments (choose t.name) (t.rename choose).innermost.text := by
  obtain ⟨name, args, dims⟩ := t
  rw [rename, innermost, text, texts_eq_map, renameAll_eq_map]
  cases args with
  | nil => exact .inl ⟨rfl, String.append_empty.trans String.append_empty⟩
  | cons arg args =>
    have written := TypeName.toList_typeText (choose name)
      (((arg :: args).map (rename choose)).map text) (bracketPairs 0)
    rw [TypeName.argumentsText, if_neg (by simp), ← List.append_assoc] at written
    exact .inr ⟨List.cons_ne_nil _ _, _, written.trans (List.append_nil _)⟩

end TypeRef

/-! ## Arrays -/

namespace Descriptor

theorem array_category (element : Descriptor) : (array element).category =
    if element.isTransferable then .transferableArray
    else if element.name ∈ typedArrayElements then .array
    else .unsupported := rfl

/-- Arrays of arrays cannot be read back. -/
theorem plan?_arrays_add_two (count : Nat) (element : Descriptor) :
    (arrays (count + 2) element).plan? = none := by
  have outside : (arrays (count + 1) element).name ∉ typedArrayElements := by
    intro listed
    -- The name of an array ends with its brackets.
    have last : ∀ name ∈ typedArrayElements, name.toList.getLast? ≠ some ']' := by decide
    refine last _ listed ?_
    rw [name_arrays, bracketPairs_succ, ← String.append_assoc, String.toList_append,
      List.getLast?_append]
    rfl
  have unsupported : (arrays (count + 2) element).category = .unsupported :=
    (array_category _).trans (if_neg outside)
  rw [plan?, unsupported]
  rfl

end Descriptor

end ScreenNav
