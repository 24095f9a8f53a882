import ScreenNav.Proofs.Descriptions

/-!
# Type arguments and reading back

Does it matter for reading a value back which type arguments its type has? The kind of a type is
decided by its erased base, so arguments play no part in which accessors there could be. But where the
accessor, or what it returns for a missing value, is made from the name of the type, the name is taken
with its arguments, and nothing is found by it, or something that does not exist.

`FoundByName` says which types are read by their names. For all others arguments make no difference,
and for these they always make one (`reading_erased_iff`).

The difference is seen from single characters. A name with arguments has a `<` behind the base and
ends with `>`, and neither the names of types nor those of accessors have such characters.
-/

namespace ScreenNav

/-- How a value is read back: by which accessor, and what it returns for a missing value. Casts are
left out. -/
def Descriptor.reading? (d : Descriptor) : Option (String × Option String) :=
  d.plan?.map fun plan => (plan.method, plan.fallback)

/-- The accessor for the type with the given qualified base and number of dimensions, or what it
returns for a missing value, is made from the name of the type. -/
def FoundByName (base : String) (dims : Nat) : Prop :=
  dims = 0 ∧ (unboxed base ∈ ["byte", "short", "long", "float", "double"] ∨ IsText base) ∨
    dims = 1 ∧ base ∈ typedArrayElements

instance (base : String) (dims : Nat) : Decidable (FoundByName base dims) :=
  inferInstanceAs (Decidable (_ ∨ _))

variable {u : Universe} {base text : String} {kind : String → Descriptor}

theorem isPlainValue_of_mem (h : base ∈ typedArrayElements) : IsPlainValue base := by
  have plain : ∀ element ∈ typedArrayElements, IsPlainValue element := by decide
  exact plain base h

theorem FoundByName.isPlainValue {dims : Nat} (h : FoundByName base dims) : IsPlainValue base := by
  obtain ⟨-, value | text⟩ | ⟨-, element⟩ := h
  · have listed : ∀ primitive ∈ ["byte", "short", "long", "float", "double"],
        primitive ∈ typedArrayElements := by decide
    exact listed _ value
  · rcases text with rfl | rfl <;> decide
  · exact isPlainValue_of_mem element

/-! ## Names with arguments -/

namespace HasArguments

theorem mem_capitalize (h : HasArguments base text) (some_base : base ≠ "") :
    '<' ∈ (Text.capitalize text).toList := by
  obtain ⟨inner, written⟩ := h
  obtain ⟨c, rest, first⟩ :=
    List.exists_cons_of_ne_nil (mt String.toList_eq_nil_iff.1 some_base)
  rw [Text.capitalize, written, first]
  simp

theorem mem_simple (h : HasArguments base text) : '>' ∈ (QualifiedName.simple text).toList := by
  obtain ⟨inner, written⟩ := h
  unfold QualifiedName.simple
  split
  · rename_i before behind cut
    obtain ⟨parts, -⟩ := QualifiedName.splitLast?_eq_some cut
    have ends : (before ++ '.' :: behind).getLast? = some '>' := by
      rw [← parts, written, List.getLast?_concat]
    rw [String.toList_ofList]
    -- Text that ends with `>` has something behind its last dot.
    cases behind with
    | nil => simp at ends
    | cons c behind =>
      have inside : (c :: behind).getLast? = some '>' := by
        rw [List.getLast?_append, List.getLast?_cons_cons] at ends
        simpa using ends
      exact List.mem_of_getLast? inside
  · rw [written]
    simp

end HasArguments

/-! ## Types without dimensions -/

/-- The accessor made from a name with arguments has a character that no accessor has. -/
theorem reading_ne {accessor suffix : String} {fallback fallback' : Option String} {c : Char}
    (written : c ∈ suffix.toList) (outside : c ∉ accessor.toList) :
    some ("get" ++ suffix ++ "Extra", fallback) ≠ some (accessor, fallback') := by
  intro same
  obtain ⟨method, -⟩ := Prod.mk.inj (Option.some.inj same)
  refine outside (method ▸ ?_)
  simp only [String.toList_append, List.mem_append]
  exact .inl (.inr written)

theorem reading_numeric_ne {width : Int} {signed floating boxed : Bool}
    (args : HasArguments base text)
    (named : unboxed base ∈ ["byte", "short", "long", "float", "double"]) :
    (Descriptor.numeric text (unboxed base) width signed floating boxed).reading? ≠
      (Descriptor.numeric base (unboxed base) width signed floating boxed).reading? := by
  have some_base : base ≠ "" := by
    rintro rfl
    exact absurd named (by decide)
  have notInt : unboxed base ≠ "int" := fun int => absurd (int ▸ named) (by decide)
  have capital := args.mem_capitalize some_base
  rw [← args.unboxed] at capital
  have method : ∀ primitive ∈ ["byte", "short", "long", "float", "double"],
      '<' ∉ ("get" ++ Text.capitalize primitive ++ "Extra").toList := by decide +kernel
  simp only [Descriptor.reading?, Descriptor.plan?, Descriptor.category, if_neg notInt]
  split_ifs
  · exact reading_ne capital (method _ named)
  · exact reading_ne capital (method _ named)

/-- Where the accessor for a type without dimensions is found by the name, arguments change how it is
read. -/
theorem reading_scalar_ne (k : Kind u base kind) (args : HasArguments base text)
    (named : unboxed base ∈ ["byte", "short", "long", "float", "double"] ∨ IsText base) :
    (kind text).reading? ≠ (kind base).reading? := by
  have plain : IsPlainValue base := FoundByName.isPlainValue (.inl ⟨rfl, named⟩)
  obtain number | text := named
  · cases k with
    | numeric => exact reading_numeric_ne args number
    | char value | boolean value => exact absurd (value ▸ number) (by decide)
    | text text => rcases text with rfl | rfl <;> exact absurd number (by decide)
    | bundle other | transferable other | serializable other | unsupported other =>
      exact absurd plain other
  · cases k with
    | numeric number =>
      have none : numericPrimitives.lookup (unboxed base) = none := by
        rcases text with rfl | rfl <;> decide
      exact nomatch none.symm.trans number
    | char value | boolean value => rcases text with rfl | rfl <;> exact absurd value (by decide)
    | text =>
      have method : '>' ∉ ("get" ++ QualifiedName.simple base ++ "Extra").toList := by
        rcases text with rfl | rfl <;> decide +kernel
      exact reading_ne args.mem_simple method
    | bundle other | transferable other | serializable other | unsupported other =>
      exact absurd plain other

/-- Where it is not found by the name, they do not. -/
theorem reading_scalar_eq (k : Kind u base kind)
    (other : ¬ (unboxed base ∈ ["byte", "short", "long", "float", "double"] ∨ IsText base)) :
    (kind text).reading? = (kind base).reading? := by
  rw [not_or] at other
  cases k with
  | numeric number =>
    have int : unboxed base = "int" := by
      have primitives : ∀ primitive ∈ numericPrimitives.map (·.1),
          primitive ∉ ["byte", "short", "long", "float", "double"] → primitive = "int" := by decide
      exact primitives _ (isPrimitive_of_lookup number) other.1
    rw [int]
    rfl
  | text text => exact absurd text other.2
  | bundle | transferable | serializable | unsupported | char | boolean => rfl

/-! ## Arrays -/

theorem isTransferable_eq (k : Kind u base kind) :
    (kind text).isTransferable = (kind base).isTransferable := by
  cases k <;> rfl

theorem Kind.isTransferable_eq_false (k : Kind u base kind) (plain : IsPlainValue base)
    (text : String) : (kind text).isTransferable = false := by
  cases k with
  | bundle other | transferable other | serializable other | unsupported other =>
    exact absurd plain other
  | numeric | char | boolean | text => rfl

/-- An array with arguments is read by no accessor for its elements. -/
theorem reading_array (k : Kind u base kind) (args : HasArguments base text) :
    (Descriptor.array (kind text)).reading? = (Descriptor.array (kind base)).reading? ↔
      base ∉ typedArrayElements := by
  have untyped : text ∉ typedArrayElements := args.notMem (by decide)
  have category := Descriptor.array_category (kind text)
  have category' := Descriptor.array_category (kind base)
  rw [k.name, if_neg untyped] at category
  rw [k.name] at category'
  rw [Descriptor.reading?, Descriptor.reading?, Descriptor.plan?, Descriptor.plan?, category, category',
    isTransferable_eq k]
  by_cases typed : base ∈ typedArrayElements
  · have unpacked := k.isTransferable_eq_false (isPlainValue_of_mem typed) base
    simp [unpacked, typed, Category.plan?]
  · simp only [typed, not_false_eq_true, iff_true]
    split <;> rfl

theorem reading_deep (count : Nat) (element : Descriptor) :
    (Descriptor.arrays (count + 2) element).reading? = none :=
  congrArg (Option.map _) (Descriptor.plan?_arrays_add_two count element)

/-! ## All types -/

/-- **Type arguments make a difference exactly where the accessor is found by the name.** -/
theorem reading_erased_iff (u : Universe) (package : String) {t : TypeRef} (wf : t.IsWellNamed) :
    ∃ d e, u.describe package t.text = .ok d ∧ u.describe package t.erased.text = .ok e ∧
      (d.reading? = e.reading? ↔
        t.args = [] ∨ ¬ FoundByName (u.qualify package t.name) t.dims) := by
  obtain ⟨name, args, dims⟩ := t
  have k := kind_ofErased u (u.qualify package name)
  have bare : ((TypeRef.mk name [] dims).rename (u.qualify package)).innermost.text =
      u.qualify package name := by
    obtain ⟨-, same⟩ | ⟨args, -⟩ := (TypeRef.mk name [] dims).innermost_rename_cases (u.qualify package)
    · exact same
    · exact absurd rfl args
  have erased := u.describe_text package wf.erased
  rw [TypeRef.erased, bare] at erased
  refine ⟨_, _, u.describe_text package wf, erased, ?_⟩
  obtain ⟨none, same⟩ | ⟨some, written⟩ :=
    (TypeRef.mk name args dims).innermost_rename_cases (u.qualify package)
  · rw [same]
    exact iff_of_true rfl (.inl none)
  rw [or_iff_right some]
  -- With arguments, the accessor for the type itself, for its arrays, or none is to be compared.
  obtain _ | _ | deep := dims
  · constructor
    · rintro same (⟨-, named⟩ | ⟨one, -⟩)
      · exact reading_scalar_ne k written named same
      · exact absurd one Nat.zero_ne_one
    · exact fun other => reading_scalar_eq k fun named => other (.inl ⟨rfl, named⟩)
  · refine (reading_array k written).trans (not_congr ⟨fun typed => .inr ⟨rfl, typed⟩, ?_⟩)
    rintro (⟨zero, -⟩ | ⟨-, typed⟩)
    · exact absurd zero Nat.one_ne_zero
    · exact typed
  · refine iff_of_true ((reading_deep _ _).trans (reading_deep _ _).symm) ?_
    rintro (⟨zero, -⟩ | ⟨one, -⟩)
    · exact absurd zero (Nat.succ_ne_zero _)
    · exact absurd (Nat.succ.inj one) (Nat.succ_ne_zero _)

/-- An array of text with an argument is not read as text is. -/
theorem reading_erased_texts :
    let texts : TypeRef := .mk "String" [.mk "User" [] 0] 1
    texts.IsWellNamed ∧ ∃ d e, Universe.builtIn.describe "a" texts.text = .ok d ∧
      Universe.builtIn.describe "a" texts.erased.text = .ok e ∧ d.reading? ≠ e.reading? := by
  intro texts
  have wf : texts.IsWellNamed := .mk (by decide) (List.forall_mem_singleton.2 (.ofName (by decide)))
  have found : ¬ (texts.args = [] ∨
      ¬ FoundByName (Universe.builtIn.qualify "a" texts.name) texts.dims) := by
    rintro (none | other)
    · exact nomatch none
    · exact other (by decide +kernel)
  obtain ⟨d, e, described, erased, iff⟩ := reading_erased_iff Universe.builtIn "a" wf
  exact ⟨wf, d, e, described, erased, mt iff.1 found⟩

/-- A box with an argument is read by an accessor that does not exist. -/
theorem reading_long_argument :
    let long : TypeRef := .mk "Long" [.mk "String" [] 0] 0
    ∃ d e, Universe.builtIn.describe "" long.text = .ok d ∧
      Universe.builtIn.describe "" long.erased.text = .ok e ∧
      d.reading? = some ("getJava.lang.Long<java.lang.String>Extra", some "-1") ∧
      e.reading? = some ("getLongExtra", some "-1") := by
  refine ⟨.numeric "java.lang.Long<java.lang.String>" "long" 64 true false true,
    .numeric "java.lang.Long" "long" 64 true false true, by decide +kernel, by decide +kernel, ?_, ?_⟩
  · decide +kernel
  · decide +kernel

end ScreenNav
