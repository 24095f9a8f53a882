import ScreenNav.Proofs.Binding
import ScreenNav.Proofs.DeclaredNames
import ScreenNav.Proofs.Gathering
import ScreenNav.Proofs.Structure

/-!
# Accepted files fail only at their fields

**Theorem (`safe_of_parse`).** For a file that is parsed, scanning and gathering succeed. Building
succeeds too or ends at a field, because other classes cannot assign it or because it cannot be read
back. That a type name has no meaning is never an error: no text that is taken for the name of a type
on the way fails to be cut.

Types travel as texts. They are put together, cut, qualified, put together again, and cut again, at
every level of their arguments and dimensions, however many there are. `Declarations.Handles` says
which texts come up, and the invariant is that each of them is the text of a type reference whose names
are dotted identifiers (`IsReferenceText`). Every step keeps it, and a text that has it can be cut.
-/

namespace ScreenNav

open QualifiedName

/-! ## Texts of type references -/

/-- The text of a type reference whose names are dotted identifiers. -/
def IsReferenceText (text : String) : Prop := ∃ t : TypeRef, t.IsWellNamed ∧ t.text = text

namespace TypeRef

variable {t : TypeRef} {text : String}

theorem IsWellNamed.rename {choose : String → String} (h : t.IsWellNamed)
    (keeps : ∀ name, IsDottedIdentifier name → IsDottedIdentifier (choose name)) :
    (t.rename choose).IsWellNamed := by
  induction h with
  | mk hname _ ih =>
    rw [TypeRef.rename, renameAll_eq_map]
    exact .mk (keeps _ hname) (List.forall_mem_map.2 ih)

/-- A type without dimensions does not end with brackets. -/
theorem text_ne_array {name : String} {args : List TypeRef} (h : IsDottedIdentifier name) :
    (TypeRef.mk name args 0).text ≠ text ++ "[]" := by
  intro array
  obtain ⟨c, hlast, bracket, -⟩ :=
    TypeName.getLast?_base h.isLegible ((args.map TypeRef.text).map String.toList)
  have last := congrArg (fun s => s.toList.getLast?) array
  have none : (bracketPairs 0).toList = [] := rfl
  have brackets : "[]".toList = ['[', ']'] := rfl
  simp only [TypeRef.text, texts_eq_map, TypeName.toList_typeText, none, List.append_nil, hlast,
    String.toList_append, brackets, List.getLast?_append] at last
  obtain rfl : c = ']' := Option.some.inj last
  exact absurd bracket (by decide)

end TypeRef

namespace IsReferenceText

variable {text name : String}

theorem ofName (h : IsDottedIdentifier name) : IsReferenceText name :=
  ⟨.mk name [] 0, .ofName h, TypeRef.text_name name⟩

theorem split? (h : IsReferenceText text) : TypeName.split? text.toList ≠ none := by
  obtain ⟨⟨name, args, dims⟩, wf, rfl⟩ := h
  rw [TypeRef.split?_text wf.isLegible]
  exact Option.some_ne_none _

/-- The brackets at the end of a type are those of a dimension. -/
theorem element (h : IsReferenceText (text ++ "[]")) : IsReferenceText text := by
  obtain ⟨⟨name, args, dims⟩, wf, array⟩ := h
  obtain ⟨hname, hargs⟩ := wf
  -- Without a dimension the text would end with a name or with arguments.
  cases dims with
  | zero => exact absurd array (TypeRef.text_ne_array hname)
  | succ dims =>
    rw [TypeRef.text_succ] at array
    exact ⟨.mk name args dims, .mk hname hargs, (String.append_left_inj _).1 array⟩

theorem argument (h : IsReferenceText text) {parts : TypeParts}
    (cut : TypeName.split? text.toList = some parts) {arg : List Char} (harg : arg ∈ parts.args) :
    IsReferenceText (String.ofList arg) := by
  obtain ⟨⟨name, args, dims⟩, wf, rfl⟩ := h
  rw [TypeRef.split?_text wf.isLegible] at cut
  obtain rfl := Option.some.inj cut
  obtain ⟨t, ht, rfl⟩ := List.mem_map.1 harg
  obtain ⟨-, hargs⟩ := wf
  exact ⟨t, hargs t ht, String.ofList_toList.symm⟩

theorem isWellFormed (h : IsReferenceText text) : (TypeName.ofText text).IsWellFormed := by
  obtain ⟨t, wf, rfl⟩ := h
  rw [TypeRef.ofText_text wf.isLegible]
  exact TypeName.isWellFormed_of_render_eq_ok (TypeRef.render_tree id t)

end IsReferenceText

/-! ## Qualified texts -/

namespace Universe

variable {u : Universe} {className package : String} {t : TypeRef}

/-- Qualifying a name in the package of a class gives a name. -/
theorem isDottedIdentifier_qualify (known : ∀ name ∈ u.names, IsDottedIdentifier name)
    (hclass : IsDottedIdentifier className) {name : String} (h : IsDottedIdentifier name) :
    IsDottedIdentifier (u.qualify (QualifiedName.package className) name) := by
  unfold qualify
  split
  · exact h
  · cases found : u.ofSimple? name with
    | some other => exact known other (List.mem_of_find?_eq_some found)
    | none =>
      rw [Option.getD_none, inPackage]
      split
      · exact h
      · exact isDottedIdentifier_append_iff.2 ⟨isDottedIdentifier_package hclass ‹_›, h⟩

/-- A type can be described, and the name of its descriptor is its qualified text. -/
theorem exists_describe (u : Universe) (package : String) (h : t.IsWellNamed) :
    ∃ type, u.describe package t.text = .ok type ∧ u.qualifyType package t.text = .ok type.name :=
  ⟨t.descriptor u package, u.describe_eq_descriptor_of_isLegible package h.isLegible,
    u.qualifyType_eq_name_of_isLegible package h.isLegible⟩

end Universe

theorem Declarations.IsWellNamed.known {d : Declarations} (h : d.IsWellNamed) :
    ∀ name ∈ Universe.names ⟨d.types⟩, IsDottedIdentifier name := by
  exact List.forall_mem_append.2 ⟨isDottedIdentifier_platform, List.forall_mem_map.2 h.types⟩

/-- Qualifying a type in the package of a class of a well-named file. -/
theorem IsReferenceText.qualified {d : Declarations} (named : d.IsWellNamed) {c : ClassDecl}
    (hc : c ∈ d.classes) {text name : String} (h : IsReferenceText text)
    (qualified : Universe.qualifyType ⟨d.types⟩ (QualifiedName.package c.name) text = .ok name) :
    IsReferenceText name := by
  obtain ⟨t, wf, rfl⟩ := h
  rw [Universe.qualifyType_text _ _ wf.isLegible] at qualified
  obtain rfl := Except.ok.inj qualified
  refine ⟨_, wf.rename fun name hname => ?_, rfl⟩
  exact Universe.isDottedIdentifier_qualify named.known (named.classes c hc) hname

/-! ## Screens -/

variable {d : Declarations} {screens : List Screen} {entries : List (String × Extra)}

/-- The fields of a well-named file make up screens. -/
theorem Declarations.IsWellNamed.exists_gather (named : d.IsWellNamed) {ms : List MarkedField}
    (scanned : scan d.classes = .ok ms) : ∃ screens, Screen.gather ⟨d.types⟩ ms = .ok screens := by
  suffices extras : ∀ m ∈ ms, ∃ entry, m.extra ⟨d.types⟩ = .ok entry by
    obtain ⟨entries, hentries⟩ := exists_forall₂ extras
    exact ⟨_, gather_eq_ok_iff.2 ⟨entries, hentries, rfl⟩⟩
  intro m hm
  obtain ⟨decl, hdecl, scanned_as⟩ :=
    Generation.exists_related_of_mem (scan_eq_ok_iff.1 scanned).flip hm
  obtain ⟨c, hc, f, hf, -, rfl⟩ := mem_markedDecls.1 hdecl
  obtain ⟨_, bound, -, -, rfl⟩ := isScannedAs_iff.1 scanned_as
  obtain ⟨type, described, -⟩ :=
    Universe.exists_describe ⟨d.types⟩ (QualifiedName.package c.name) (named.fields c hc f hf).2
  exact ⟨_, bind_eq_ok_iff.2 ⟨type, described, rfl⟩⟩

namespace Navigator

open Generation

/-- What the navigator of a well-named file refers to. -/
theorem isReferenceText_of_mem_references (named : d.IsWellNamed)
    (gathered : List.Forall₂ (IsGatheredAs ⟨d.types⟩) (markedDecls d.classes) entries) :
    ∀ type ∈ references (Screen.group entries), IsReferenceText type := by
  intro type htype
  obtain ⟨screen, hscreen, htype⟩ := List.mem_flatMap.1 htype
  -- What the binder refers to, the launcher has referred to before.
  have launched : type ∈ launcherReferences screen :=
    (List.mem_append.1 htype).elim id mem_launcherReferences_of_mem_binderReferences
  rcases mem_launcherReferences.1 launched with rfl | rfl | ⟨e, he, rfl⟩ | rfl
  · exact .ofName (by decide +kernel)
  · exact .ofName (by decide +kernel)
  · obtain ⟨decl, hdecl, gathered_as⟩ := exists_decl_of_mem_extras gathered hscreen he
    obtain ⟨c, hc, f, hf, -, rfl⟩ := mem_markedDecls.1 hdecl
    have wf := (named.fields c hc f hf).2
    obtain ⟨type, described, qualified⟩ :=
      Universe.exists_describe ⟨d.types⟩ (QualifiedName.package c.name) wf
    obtain rfl := Except.ok.inj (described.symm.trans gathered_as.type)
    exact IsReferenceText.qualified named hc ⟨f.type, wf, rfl⟩ qualified
  · obtain ⟨c, hc, hname⟩ := exists_block_of_mem_group gathered hscreen
    exact hname ▸ .ofName (named.classes c hc)

theorem isWellNamed_of_references (h : ∀ type ∈ references screens, IsReferenceText type) :
    ∀ screen ∈ screens, screen.IsWellNamed := by
  intro screen hscreen
  have launched : ∀ type ∈ launcherReferences screen, (TypeName.ofText type).IsWellFormed :=
    fun type htype => (h type (List.mem_flatMap.2
      ⟨screen, hscreen, List.mem_append_left _ htype⟩)).isWellFormed
  constructor
  · exact launched _ (mem_launcherReferences.2 (.inr (.inr (.inr rfl))))
  · intro e he
    exact launched _ (mem_launcherReferences.2 (.inr (.inr (.inl ⟨e, he, rfl⟩))))

end Navigator

/-! ## Files -/

/-- The texts that are taken for names of types on the way from a file to its navigator. -/
inductive Declarations.Handles (d : Declarations) (screens : List Screen) : String → Prop
  /-- The type of a field, as it is written. -/
  | field {c : ClassDecl} {f : FieldDecl} : c ∈ d.classes → f ∈ c.fields →
      d.Handles screens f.type.text
  /-- The type of the elements of an array. -/
  | element {text : String} : d.Handles screens (text ++ "[]") → d.Handles screens text
  /-- An argument that a text is cut into. -/
  | argument {text : String} {parts : TypeParts} {arg : List Char} : d.Handles screens text →
      TypeName.split? text.toList = some parts → arg ∈ parts.args →
      d.Handles screens (String.ofList arg)
  /-- What a text becomes when it is qualified in the package of a class. -/
  | qualified {c : ClassDecl} {text name : String} : c ∈ d.classes → d.Handles screens text →
      Universe.qualifyType ⟨d.types⟩ (QualifiedName.package c.name) text = .ok name →
      d.Handles screens name
  /-- A type that the navigator refers to. -/
  | reference {type : String} : type ∈ Navigator.references screens → d.Handles screens type

/-- Every text that is handled is that of a type reference. -/
theorem Declarations.Handles.isReferenceText {text : String} (h : d.Handles screens text)
    (named : d.IsWellNamed)
    (references : ∀ type ∈ Navigator.references screens, IsReferenceText type) :
    IsReferenceText text := by
  induction h with
  | field hc hf => exact ⟨_, (named.fields _ hc _ hf).2, rfl⟩
  | element _ ih => exact ih.element
  | argument _ cut harg ih => exact ih.argument cut harg
  | qualified hc _ qualified ih => exact ih.qualified named hc qualified
  | reference htype => exact references _ htype

/-- **Accepted files fail only at their fields.** -/
theorem safe_of_parse {text : String} {d : Declarations} (parsed : parse text = .ok d) :
    ∃ fields screens, scan d.classes = .ok fields ∧
      Screen.gather ⟨d.types⟩ fields = .ok screens ∧
      (∀ package strict error,
        (Navigator.build package strict screens).result = .error error →
          (∃ className fieldName, error = .notWritable className fieldName) ∨
            ∃ className fieldName typeName, error = .notReadable className fieldName typeName) ∧
      ∀ type, d.Handles screens type → TypeName.split? type.toList ≠ none := by
  have named := isWellNamed_of_parse parsed
  obtain ⟨fields, scanned⟩ := (validBlocks_of_parse parsed).exists_scan
  obtain ⟨screens, gathered⟩ := named.exists_gather scanned
  obtain ⟨entries, decls, rfl⟩ := exists_entries_of_screens
    (screens_eq_ok_iff.2 ⟨fields, scanned, gathered⟩)
  have references := Navigator.isReferenceText_of_mem_references named decls
  refine ⟨fields, Screen.group entries, scanned, gathered, ?_, ?_⟩
  · intro package strict error failed
    obtain ⟨screen, e, -, rfl⟩ := (Navigator.build_eq_error_iff package strict
      (Navigator.isWellNamed_of_references references) error).1 failed
    unfold Screen.stop
    split
    · exact .inl ⟨_, _, rfl⟩
    · exact .inr ⟨_, _, _, rfl⟩
  · intro type handled
    exact (handled.isReferenceText named references).split?

/-- A file with an array of lists of arrays, which cannot be read back. -/
def usersText : String := "class a.Home \x7b @Required public ArrayList<User[]>[] users; \x7d"

/-- The field of the file. -/
def usersField : FieldDecl :=
  ⟨"users", .mk "ArrayList" [.mk "User" [] 1] 1, ["public"], [⟨"Required", []⟩]⟩

/-- The declarations in the file. -/
def usersDeclarations : Declarations :=
  ⟨[], [], [⟨"a.Home", [usersField]⟩]⟩

/-- The screens of the file. -/
def usersScreens : List Screen :=
  [⟨"a.Home", [⟨"users", .arrayOf "java.util.ArrayList<a.User[]>[]"
    (.serializable "java.util.ArrayList<a.User[]>"), true, true⟩]⟩]

theorem usersDeclarations_handles : usersDeclarations.Handles usersScreens "a.User" := by
  have text : usersField.type.text = "ArrayList<User[]>[]" := by decide +kernel
  have field : usersDeclarations.Handles usersScreens "ArrayList<User[]>[]" :=
    text ▸ .field (List.mem_singleton_self _) (List.mem_singleton_self _)
  have qualified : usersDeclarations.Handles usersScreens "java.util.ArrayList<a.User[]>[]" :=
    .qualified (List.mem_singleton_self _) field (by decide +kernel)
  have element : usersDeclarations.Handles usersScreens "java.util.ArrayList<a.User[]>" :=
    .element qualified
  have parts : TypeName.split? "java.util.ArrayList<a.User[]>".toList =
      some ⟨"java.util.ArrayList".toList, ["a.User[]".toList], []⟩ := by decide +kernel
  have argument : usersDeclarations.Handles usersScreens "a.User[]" :=
    .argument element parts (List.mem_singleton_self _)
  exact .element argument

/-- A text within the field's type is handled, and a strict generation ends at the field. -/
theorem safe_of_parse_users :
    parse usersText = .ok usersDeclarations ∧
      ∃ fields, scan usersDeclarations.classes = .ok fields ∧
        Screen.gather ⟨usersDeclarations.types⟩ fields = .ok usersScreens ∧
        TypeName.split? "a.User".toList ≠ none ∧
        ∃ error, (Navigator.build "app" true usersScreens).result = .error error ∧
          ((∃ className fieldName, error = .notWritable className fieldName) ∨
            ∃ className fieldName typeName, error = .notReadable className fieldName typeName) := by
  have parsed : parse usersText = .ok usersDeclarations := by decide +kernel
  have known : usersDeclarations.screens = .ok usersScreens := by decide +kernel
  obtain ⟨fields, screens, scanned, gathered, errors, cut⟩ := safe_of_parse parsed
  obtain rfl : usersScreens = screens :=
    Except.ok.inj (known.symm.trans (screens_eq_ok_iff.2 ⟨fields, scanned, gathered⟩))
  have refused : (Navigator.build "app" true usersScreens).result =
      .error (.notReadable "Home" "users" "java.util.ArrayList<a.User[]>[]") := by decide +kernel
  exact ⟨parsed, fields, scanned, gathered, cut _ usersDeclarations_handles, _, refused,
    errors _ _ _ refused⟩

end ScreenNav
