import ScreenNav.Proofs.Clashes
import ScreenNav.Proofs.Safety

/-!
# What the texts in a navigator consist of

A navigator holds names, types, accessors and fallbacks as texts, and its source puts them between words and
signs of its own. Whether they can be told apart from what stands around them depends on the characters that
they can have. `Navigator.IsLegible` says what these are.

**Theorem (`IsGenerated.isLegible`).** A navigator that is built for a file that is parsed, into a package
that is accepted, is legible.

**Types.** A type is written as the text of a type reference again (`IsReferenceText.written`): writing
chooses other names for the names in it, and these are dotted identifiers as well. So the text has no
parenthesis, no quote and no newline (`IsReferenceText.hasTypeChars`).

**Accessors.** The name of an accessor is made from a fixed word or from the name of the type. In the second
case it need not be an identifier, but it is cut out of that name and perhaps starts with a capital, so it
has no other characters than a type has (`Descriptor.IsLegible.plan`).
-/

namespace ScreenNav

open QualifiedName

variable {first second text name type : String} {c : Char}

/-! ## Characters -/

/-- A character that the text of a type can consist of. -/
def IsTypeChar (c : Char) : Prop := IsNameChar c ∨ c ∈ ['<', '>', ',', ' ', '[', ']']

instance (c : Char) : Decidable (IsTypeChar c) := inferInstanceAs (Decidable (_ ∨ _))

/-- The text has no other characters than those of types. -/
def HasTypeChars (text : String) : Prop := ∀ c ∈ text.toList, IsTypeChar c

-- Found by name, as otherwise all characters there are would be gone through.
instance (text : String) : Decidable (HasTypeChars text) := List.decidableBAll _ _

/-- The text has no newline. -/
def IsLine (text : String) : Prop := '\n' ∉ text.toList

instance (text : String) : Decidable (IsLine text) := inferInstanceAs (Decidable (_ ∉ _))

@[simp] theorem hasTypeChars_append :
    HasTypeChars (first ++ second) ↔ HasTypeChars first ∧ HasTypeChars second := by
  rw [HasTypeChars, String.toList_append, List.forall_mem_append]
  rfl

@[simp] theorem isLine_append : IsLine (first ++ second) ↔ IsLine first ∧ IsLine second := by
  rw [IsLine, String.toList_append, List.mem_append, not_or]
  rfl

theorem HasTypeChars.isLine (h : HasTypeChars text) : IsLine text :=
  fun newline => absurd (h '\n' newline) (by decide)

theorem IsTypeChar.toNat_lt (h : IsTypeChar c) : c.toNat < 123 := by
  rcases h with (word | rfl) | sign
  · exact Nat.lt_succ_of_le (toNat_of_isWordPart word).2
  · decide
  · simp only [List.mem_cons, List.not_mem_nil, or_false] at sign
    rcases sign with rfl | rfl | rfl | rfl | rfl | rfl <;> decide

/-! ## Types -/

theorem IsIdentifier.isNameChar (h : IsIdentifier name) : ∀ c ∈ name.toList, IsNameChar c :=
  fun c hc => .inl (h.2.2 c hc)

theorem IsIdentifier.isLine (h : IsIdentifier name) : IsLine name :=
  fun newline => absurd (h.isNameChar _ newline) (by decide)

theorem IsDottedIdentifier.hasTypeChars (h : IsDottedIdentifier name) : HasTypeChars name :=
  fun c hc => .inl (h.isNameChar c hc)

theorem isTypeChar_argumentsText {args : List (List Char)} (h : ∀ arg ∈ args, ∀ c ∈ arg, IsTypeChar c) :
    ∀ c ∈ TypeName.argumentsText args, IsTypeChar c := by
  intro c hc
  unfold TypeName.argumentsText at hc
  split at hc
  · exact absurd hc List.not_mem_nil
  · simp only [List.cons_append, List.mem_cons, List.mem_append, List.not_mem_nil, or_false] at hc
    rcases hc with rfl | between | rfl
    · decide
    · rcases mem_intercalate between with separator | ⟨arg, harg, hc⟩
      · simp only [List.mem_cons, List.not_mem_nil, or_false] at separator
        rcases separator with rfl | rfl <;> decide
      · exact h arg harg c hc
    · decide

theorem TypeRef.IsWellNamed.hasTypeChars {t : TypeRef} (h : t.IsWellNamed) : HasTypeChars t.text := by
  induction h with
  | @mk name args dims hname _ ih =>
    rw [HasTypeChars, TypeRef.text, texts_eq_map, TypeName.toList_typeText, List.forall_mem_append,
      List.forall_mem_append]
    refine ⟨⟨hname.hasTypeChars, ?_⟩, ?_⟩
    · exact isTypeChar_argumentsText (List.forall_mem_map.2 (List.forall_mem_map.2 ih))
    · intro c hc
      have bracket := TypeName.isSquareBracket_bracketPairs dims c hc
      simp only [TypeName.isSquareBracket, Bool.or_eq_true, beq_iff_eq] at bracket
      rcases bracket with rfl | rfl <;> decide

/-- The names in the tree of a type are those that it is put together from. -/
theorem TypeRef.IsWellNamed.names {t : TypeRef} (h : t.IsWellNamed) :
    ∀ name ∈ t.tree.names, IsDottedIdentifier name := by
  induction h with
  | @mk name args dims hname _ ih =>
    have inner : (TypeRef.mk name args dims).tree.names = name :: args.flatMap (·.tree.names) := by
      simp [tree, TypeName.names, TypeName.bases, TypeName.basesAll_eq_flatMap, List.filterMap_flatMap,
        List.flatMap_map]
    rw [inner, List.forall_mem_cons]
    refine ⟨hname, fun other hother => ?_⟩
    obtain ⟨arg, harg, hother⟩ := List.mem_flatMap.1 hother
    exact ih arg harg other hother

theorem IsReferenceText.hasTypeChars (h : IsReferenceText text) : HasTypeChars text := by
  obtain ⟨t, wf, rfl⟩ := h
  exact wf.hasTypeChars

theorem IsReferenceText.isTypeText (h : IsReferenceText text) : TypeName.IsTypeText text.toList := by
  obtain ⟨t, wf, rfl⟩ := h
  exact TypeRef.isTypeText_text wf.isLegible

/-! ## Accessors -/

namespace HasTypeChars

theorem simple (h : HasTypeChars name) : HasTypeChars (QualifiedName.simple name) :=
  simple_of_member h fun _ _ member => (hasTypeChars_append.1 member).2

theorem elementName (h : HasTypeChars name) : HasTypeChars (ScreenNav.elementName name) := by
  intro c hc
  rw [ScreenNav.elementName, String.toList_ofList] at hc
  exact h c (List.mem_of_mem_take hc)

theorem unboxed (h : HasTypeChars name) : HasTypeChars (ScreenNav.unboxed name) := by
  have primitives : ∀ entry ∈ boxes, HasTypeChars entry.2 := by decide
  rcases unboxed_cases name with box | self
  · exact primitives _ box
  · rwa [self]

/-- Of the characters of types only the letters have another capital, and that is a letter too. -/
theorem capital (h : IsTypeChar c) : HasTypeChars (String.ofList (Text.capital c)) := by
  have codes : ∀ code < 123, IsTypeChar (Char.ofNat code) →
      HasTypeChars (String.ofList (Text.capital (Char.ofNat code))) := by
    decide +kernel
  have coded := codes c.toNat h.toNat_lt
  rw [Char.ofNat_toNat] at coded
  exact coded h

theorem capitalize (h : HasTypeChars text) : HasTypeChars (Text.capitalize text) := by
  unfold Text.capitalize
  cases letters : text.toList with
  | nil => decide
  | cons c rest =>
    rw [HasTypeChars, letters, List.forall_mem_cons] at h
    have first := capital h.1
    rw [HasTypeChars, String.toList_ofList] at first ⊢
    exact List.forall_mem_append.2 ⟨first, h.2⟩

end HasTypeChars

/-- The texts in the plan can be told apart from what stands around them. -/
structure AccessorPlan.IsLegible (plan : AccessorPlan) : Prop where
  suffix : HasTypeChars plan.suffix
  fallback : ∀ value ∈ plan.fallback, IsLine value

theorem AccessorPlan.IsLegible.method {plan : AccessorPlan} (h : plan.IsLegible) :
    HasTypeChars plan.method := by
  rw [AccessorPlan.method, hasTypeChars_append, hasTypeChars_append]
  exact ⟨⟨by decide, h.suffix⟩, by decide⟩

/-- The name of the type is the text of a type reference, and an accessor of its own is called after that name
or after the one of bundles. -/
structure Descriptor.IsLegible (d : Descriptor) : Prop where
  name : IsReferenceText d.name
  base : ∀ name base packed, d = .stringLike name base packed → base = name ∨ base = Platform.bundle

/-- Whatever reads the type back has no other characters in its name than a type has. -/
theorem Descriptor.IsLegible.plan {d : Descriptor} (h : d.IsLegible) {plan : AccessorPlan}
    (found : d.plan? = some plan) : plan.IsLegible := by
  have named : HasTypeChars d.name := h.name.hasTypeChars
  have bundle : HasTypeChars (QualifiedName.simple Platform.bundle) := by decide +kernel
  have absent : ∀ value ∈ (none : Option String), IsLine value := by decide
  have negative : ∀ value ∈ some "-1", IsLine value := by decide
  unfold Descriptor.plan? at found
  generalize d.category = category at found
  cases category with
  | unsupported => exact nomatch found
  | wideNumeric =>
    obtain rfl := Option.some.inj found
    exact ⟨named.unboxed.capitalize, negative⟩
  | narrowInteger =>
    obtain rfl := Option.some.inj found
    refine ⟨named.unboxed.capitalize, fun value hvalue => ?_⟩
    obtain rfl := Option.some.inj hvalue
    exact isLine_append.2 ⟨isLine_append.2 ⟨by decide, named.unboxed.isLine⟩, by decide⟩
  | array =>
    obtain rfl := Option.some.inj found
    exact ⟨hasTypeChars_append.2 ⟨named.elementName.simple.capitalize, by decide⟩, absent⟩
  | stringLike =>
    obtain rfl := Option.some.inj found
    refine ⟨?_, absent⟩
    cases d with
    | stringLike name base packed =>
      rcases h.base name base packed rfl with rfl | rfl
      · exact named.simple
      · exact bundle
    | _ => exact named.simple
  | _ =>
    obtain rfl := Option.some.inj found
    exact ⟨by decide, by decide⟩

/-- Only a type without dimensions can have an accessor of its own. -/
theorem Descriptor.isLegible_of_kind {u : Universe} {base : String} {kind : String → Descriptor}
    (k : Kind u base kind) (count : Nat) (named : IsReferenceText (arrays count (kind name)).name) :
    (arrays count (kind name)).IsLegible := by
  refine ⟨named, fun own base packed same => ?_⟩
  cases count with
  | succ count => exact nomatch same
  | zero =>
    rw [arrays] at same
    cases k <;> cases same
    · exact .inl rfl
    · exact .inr rfl

/-! ## Screens -/

/-- The extra is called by an identifier, and its type is legible. -/
structure Extra.IsLegible (e : Extra) : Prop where
  name : IsIdentifier e.name
  type : e.type.IsLegible

/-- The class is called by a dotted identifier, and the extras are legible. -/
structure Screen.IsLegible (screen : Screen) : Prop where
  className : IsDottedIdentifier screen.className
  extras : ∀ e ∈ screen.extras, e.IsLegible

variable {d : Declarations} {entries : List (String × Extra)}

/-- The screens of a well-named file are legible. -/
theorem Declarations.IsWellNamed.isLegible_of_mem_group (named : d.IsWellNamed)
    (decls : List.Forall₂ (IsGatheredAs ⟨d.types⟩) (markedDecls d.classes) entries)
    {screen : Screen} (hscreen : screen ∈ Screen.group entries) : screen.IsLegible := by
  obtain ⟨c, hc, hname⟩ := exists_block_of_mem_group decls hscreen
  refine ⟨hname ▸ named.classes c hc, fun e he => ?_⟩
  obtain ⟨decl, hdecl, gathered⟩ := exists_decl_of_mem_extras decls hscreen he
  obtain ⟨c, hc, f, hf, -, rfl⟩ := mem_markedDecls.1 hdecl
  obtain ⟨identifier, wf⟩ := named.fields c hc f hf
  have launched : e.type.name ∈ Navigator.launcherReferences screen :=
    Navigator.mem_launcherReferences.2 (.inr (.inr (.inl ⟨e, he, rfl⟩)))
  have text := Navigator.isReferenceText_of_mem_references named decls e.type.name
    (List.mem_flatMap.2 ⟨screen, hscreen, List.mem_append_left _ launched⟩)
  refine ⟨gathered.name ▸ identifier, ?_⟩
  have described := gathered.type
  rw [Universe.describe_text _ _ wf] at described
  rw [← Except.ok.inj described] at text ⊢
  exact Descriptor.isLegible_of_kind (kind_ofErased _ _) _ text

/-! ## Writing -/

variable {s : Scope}

theorem Scope.isDottedIdentifier_display (s : Scope) (h : IsDottedIdentifier name) :
    IsDottedIdentifier (s.display name) := by
  rcases s.display_eq_or name with full | short
  · rwa [full]
  · rw [short]
    exact h.simple

theorem IsDottedIdentifier.written (h : IsDottedIdentifier name) (written : s.Writes name text) :
    IsDottedIdentifier text :=
  (Navigator.writes_name_iff h).1 written ▸ s.isDottedIdentifier_display h

/-- However a type is written, the text is that of a type reference. -/
theorem IsReferenceText.written (h : IsReferenceText type) (written : s.Writes type text) :
    IsReferenceText text := by
  obtain ⟨t, wf, rfl⟩ := h
  rw [Scope.Writes, TypeRef.ofText_text wf.isLegible, Scope.displayType, TypeRef.render_tree] at written
  obtain rfl := Except.ok.inj written
  exact ⟨_, wf.rename fun _ => s.isDottedIdentifier_display, rfl⟩

theorem isDottedIdentifier_intentType : IsDottedIdentifier Navigator.intentType := by decide +kernel

theorem isDottedIdentifier_contextType : IsDottedIdentifier Navigator.contextType := by decide +kernel

/-! ## Navigators -/

/-- The type is the text of a type reference, and the name is an identifier. -/
structure Parameter.IsLegible (p : Parameter) : Prop where
  type : IsReferenceText p.type
  name : IsIdentifier p.name

/-- The texts in the statement are those that they can be told apart by. -/
inductive Statement.IsLegible : Statement → Prop
  | newIntent {intent screen : String} : IsDottedIdentifier intent → IsDottedIdentifier screen →
      IsLegible (.newIntent intent screen)
  | putExtra {name : String} : IsIdentifier name → IsLegible (.putExtra name)
  | startActivity : IsLegible .startActivity
  | getIntent {intent : String} : IsDottedIdentifier intent → IsLegible (.getIntent intent)
  | assign {name method : String} {cast fallback : Option String} : IsIdentifier name →
      (∀ type ∈ cast, HasTypeChars type) → HasTypeChars method → (∀ value ∈ fallback, IsLine value) →
      IsLegible (.assign name cast method fallback)

/-- The method has parameters, and all texts in it are legible. -/
structure Method.IsLegible (m : Method) : Prop where
  name : HasTypeChars m.name
  some_parameter : m.parameters ≠ []
  parameters : ∀ p ∈ m.parameters, p.IsLegible
  statements : ∀ s ∈ m.statements, s.IsLegible

namespace Navigator

/-- The package and the name of the class are on one line each, the imports are names, and the methods are
legible. -/
structure IsLegible (n : Navigator) : Prop where
  package : IsLine n.package
  name : IsLine n.name
  imports : ∀ name ∈ n.imports, IsDottedIdentifier name
  methods : ∀ m ∈ n.methods, m.IsLegible

variable {strict : Bool} {screen : Screen} {m : Method}

theorem IsLauncher.isLegible (h : IsLauncher s screen m) (legible : screen.IsLegible) : m.IsLegible := by
  have called : IsIdentifier "context" := by decide
  have extra (e : Extra) (he : e ∈ screen.extras) : e.IsLegible := legible.extras e he
  obtain ⟨intent, context, activity, parameters, hintent, hcontext, hactivity, hparameters, rfl⟩ := h
  refine ⟨?_, List.cons_ne_nil _ _, List.forall_mem_cons.2 ⟨?_, ?_⟩, List.forall_mem_append.2 ⟨?_, ?_⟩⟩
  · exact hasTypeChars_append.2 ⟨by decide, legible.className.simple.hasTypeChars⟩
  · exact ⟨.ofName (isDottedIdentifier_contextType.written hcontext), called⟩
  · intro p hp
    obtain ⟨e, he, hname, htype⟩ := Generation.exists_related_of_mem hparameters.flip hp
    exact ⟨(extra e he).type.name.written htype, hname ▸ (extra e he).name⟩
  · refine List.forall_mem_cons.2 ⟨?_, List.forall_mem_map.2 fun e he => .putExtra (extra e he).name⟩
    exact .newIntent (isDottedIdentifier_intentType.written hintent) (legible.className.written hactivity)
  · exact List.forall_mem_singleton.2 .startActivity

theorem IsBound.isLegible {e : Extra} {statement : Statement} (h : IsBound s strict e (some statement))
    (legible : e.IsLegible) : statement.IsLegible := by
  cases h with
  | plain planned _ =>
    have plan := legible.type.plan planned
    exact .assign legible.name (by simp) plan.method plan.fallback
  | cast planned _ written =>
    have plan := legible.type.plan planned
    refine .assign legible.name (fun type htype => ?_) plan.method plan.fallback
    obtain rfl := Option.some.inj htype
    exact (legible.type.name.written written).hasTypeChars

theorem IsBinder.isLegible (h : IsBinder s strict screen m) (legible : screen.IsLegible) :
    m.IsLegible := by
  have called : HasTypeChars "bind" ∧ IsIdentifier "activity" := by decide
  obtain ⟨intent, activity, assignments, hintent, hactivity, hassignments, rfl⟩ := h
  refine ⟨called.1, List.cons_ne_nil _ _, List.forall_mem_singleton.2 ⟨?_, called.2⟩,
    List.forall_mem_cons.2 ⟨?_, ?_⟩⟩
  · exact .ofName (legible.className.written hactivity)
  · exact .getIntent (isDottedIdentifier_intentType.written hintent)
  · intro statement hstatement
    obtain ⟨o, ho, rfl⟩ := List.mem_filterMap.1 hstatement
    obtain ⟨e, he, bound⟩ := Generation.exists_related_of_mem hassignments.flip ho
    exact IsBound.isLegible bound (legible.extras e (List.mem_filter.1 he).1)

/-- What is imported is referred to by its name. -/
theorem isDottedIdentifier_of_mem_imports {package : String} {screens : List Screen}
    (h : ∀ type ∈ references screens, IsReferenceText type)
    (imported : name ∈ (finalScope package screens).imports) : IsDottedIdentifier name := by
  obtain ⟨owned, -⟩ := Scope.mem_imports.1 imported
  obtain ⟨-, claims⟩ := Scope.mem_owners_claimNames_start.1 owned
  obtain ⟨type, htype, hname⟩ := List.mem_flatMap.1 (Scope.claimant?_eq_some claims).1
  obtain ⟨t, wf, rfl⟩ := h type htype
  rw [TypeRef.ofText_text wf.isLegible] at hname
  exact wf.names name hname

end Navigator

/-- No character of a package ends a line. -/
theorem PackageName.notMem_of_continues {text : List Char} {starting : Bool}
    (h : continues starting text = true) : '\n' ∉ text := by
  have newline : isStart '\n' = false ∧ isPart '\n' = false := by decide +kernel
  induction text generalizing starting with
  | nil => exact List.not_mem_nil
  | cons c rest ih =>
    rw [List.mem_cons, not_or]
    unfold continues at h
    split_ifs at h with start dot
    · obtain ⟨first, rest⟩ := Bool.and_eq_true_iff.1 h
      refine ⟨?_, ih rest⟩
      rintro rfl
      exact absurd first (by simp [newline])
    · exact ⟨fun same => absurd (same.trans dot) (by decide), ih h⟩
    · obtain ⟨part, rest⟩ := Bool.and_eq_true_iff.1 h
      refine ⟨?_, ih rest⟩
      rintro rfl
      exact absurd part (by simp [newline])

/-- The navigator is built for a file that is parsed, into a package that is accepted. -/
inductive Navigator.IsGenerated (n : Navigator) : Prop
  | mk {text package : String} {strict : Bool} {d : Declarations} {screens : List Screen} :
      parse text = .ok d → d.screens = .ok screens → PackageName.isValid package = true →
      (build package strict screens).result = .ok n → n.IsGenerated

/-- The texts in a navigator that is generated can be told apart from what stands around them. -/
theorem Navigator.IsGenerated.isLegible {n : Navigator} (h : n.IsGenerated) : n.IsLegible := by
  obtain ⟨parsed, gathered, valid, built⟩ := h
  have named := isWellNamed_of_parse parsed
  obtain ⟨entries, decls, rfl⟩ := exists_entries_of_screens gathered
  have references := isReferenceText_of_mem_references named decls
  obtain ⟨pairs, hpairs, rfl⟩ := build_eq_ok built
  have called : IsLine className := by decide
  refine ⟨PackageName.notMem_of_continues valid, called,
    fun name => isDottedIdentifier_of_mem_imports references, fun m hm => ?_⟩
  obtain ⟨pair, hpair, hm⟩ := List.mem_flatMap.1 hm
  obtain ⟨screen, hscreen, launcher, binder⟩ := Generation.exists_related_of_mem hpairs.flip hpair
  have legible := named.isLegible_of_mem_group decls hscreen
  rcases List.mem_pair.1 hm with rfl | rfl
  · exact IsLauncher.isLegible launcher legible
  · exact IsBinder.isLegible binder legible

end ScreenNav
