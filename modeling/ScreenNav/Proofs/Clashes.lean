import ScreenNav.Proofs.Agreement
import ScreenNav.Proofs.DeclaredNames
import ScreenNav.Proofs.Gathering

/-!
# Generated declarations do not clash

**Theorem (`isFreeOfClashes_of_parse`).** Whatever file is parsed, the navigator that is built for it
has a launcher for each screen and declares nothing twice. The parameters of a launcher have different
names, none of them that of a variable in its body; the launchers of a navigator have different names;
and the binders, which all have one name, have parameters of different types.

No stage ensures this alone. Validation keeps the simple names of classes apart, and the names of
fields in all blocks of a class (`ValidBlocks`). Scanning and grouping carry this over to screens
(`Screen.Distinct`), however the blocks are mixed. And a reference to a class, shortened or not, still
ends with its simple name (`simple_of_writes`), so different classes are written differently.
-/

namespace ScreenNav

open QualifiedName

/-! ## Screens of a valid file -/

/-- Screens with different names, and with extras that can be parameters beside each other. -/
structure Screen.Distinct (screens : List Screen) : Prop where
  simpleNames : (screens.map Screen.simpleName).Nodup
  extraNames : ∀ screen ∈ screens, (screen.extras.map (·.name)).Nodup
  unreserved : ∀ screen ∈ screens, ∀ e ∈ screen.extras, e.name ∉ reservedNames

variable {u : Universe} {decls : List (String × FieldDecl)} {entries : List (String × Extra)}
  {blocks : List ClassDecl}

/-- The extras of a class are called as its marked declarations are, in order. -/
theorem names_extrasOf (h : List.Forall₂ (IsGatheredAs u) decls entries) (className : String) :
    (Screen.extrasOf entries className).map (·.name) =
      (decls.filter (·.1 = className)).map (·.2.name) := by
  have names := Generation.map_eq_map_of_forall₂ (forall₂_extrasOf h className)
    (f := (·.2.name)) (g := (·.name)) fun _ _ _ gathered => gathered.name
  exact names

/-- The marked fields of a class are among its fields, in order. -/
theorem names_markedDecls_sublist (blocks : List ClassDecl) (className : String) :
    (((markedDecls blocks).filter (·.1 = className)).map (·.2.name)).Sublist
      (fieldNames className blocks) := by
  induction blocks with
  | nil => exact List.Sublist.slnil
  | cons c blocks ih =>
    rw [markedDecls, List.flatMap_cons, List.filter_append, List.map_append,
      ← List.singleton_append, fieldNames_append, fieldNames_singleton]
    refine List.Sublist.append ?_ ih
    by_cases own : c.name = className
    · simpa [own, List.filter_map, Function.comp_def] using List.filter_sublist.map _
    · simp [own, List.filter_map, Function.comp_def]

/-- The screens of valid blocks are distinct. -/
theorem ValidBlocks.distinct (valid : ValidBlocks blocks)
    (h : List.Forall₂ (IsGatheredAs u) (markedDecls blocks) entries) :
    Screen.Distinct (Screen.group entries) := by
  constructor
  · have simple_names : (Screen.group entries).map Screen.simpleName =
        ((Screen.group entries).map (·.className)).map QualifiedName.simple := List.map_map.symm
    rw [simple_names]
    refine (Screen.nodup_group entries).map_on fun a ha b hb same => ?_
    obtain ⟨screen, hscreen, rfl⟩ := List.mem_map.1 ha
    obtain ⟨other, hother, rfl⟩ := List.mem_map.1 hb
    obtain ⟨c, hc, hname⟩ := exists_block_of_mem_group h hscreen
    obtain ⟨d, hd, hname'⟩ := exists_block_of_mem_group h hother
    rw [← hname, ← hname'] at same ⊢
    exact valid.simple c hc d hd same
  · intro screen hscreen
    rw [(Screen.eq_of_mem_group hscreen).2, names_extrasOf h]
    exact (names_markedDecls_sublist blocks screen.className).nodup (valid.fields screen.className)
  · intro screen hscreen e he
    obtain ⟨decl, hdecl, gathered⟩ := exists_decl_of_mem_extras h hscreen he
    rw [gathered.name]
    exact (valid.marker hdecl).1

namespace Navigator

open Generation

variable {s : Scope} {strict : Bool} {screen : Screen} {screens : List Screen} {n : Navigator}
  {package name text : String}

/-! ## Methods -/

/-- Nothing that the navigator declares clashes with anything else in the same place. -/
structure IsFreeOfClashes (n : Navigator) : Prop where
  /-- There is a binder behind every launcher, and no other method. -/
  methods : n.methods = (n.launchers.zip n.binders).flatMap fun pair => [pair.1, pair.2]
  binderNames : ∀ m ∈ n.binders, m.name = "bind"
  launcherNames : (n.launchers.map (·.name)).Nodup
  notBind : ∀ m ∈ n.launchers, m.name ≠ "bind"
  parameterNames : ∀ m ∈ n.launchers, (m.parameters.map (·.name)).Nodup
  /-- The parameters behind the first, which is the context, are those for extras. -/
  extraNames : ∀ m ∈ n.launchers, ∀ p ∈ m.parameters.tail, p.name ≠ "context" ∧ p.name ≠ "intent"
  /-- The overloads of the binder have parameters of different types. -/
  overloads : (n.binders.map fun m => m.parameters.map (·.type)).Nodup

/-- A name alone is written as the scope displays it. -/
theorem writes_name_iff (h : IsDottedIdentifier name) : s.Writes name text ↔ text = s.display name := by
  have written : s.Writes (TypeRef.mk name [] 0).text (TypeRef.mk (s.display name) [] 0).text := by
    rw [Scope.Writes, TypeRef.ofText_text (TypeRef.IsWellNamed.ofName h).isLegible]
    exact TypeRef.render_tree s.display (.mk name [] 0)
  rw [TypeRef.text_name, TypeRef.text_name] at written
  exact written.iff

/-- However a class is written, its simple name is what the text ends with. -/
theorem simple_of_writes (h : IsDottedIdentifier name) (written : s.Writes name text) :
    simple text = simple name := by
  obtain rfl := (writes_name_iff h).1 written
  obtain full | short := s.display_eq_or name
  · rw [full]
  · rw [short, simple_eq_self (not_isDotted_simple name)]

theorem names_launchers {launchers : List Method}
    (h : List.Forall₂ (IsLauncher s) screens launchers) :
    launchers.map (·.name) = screens.map Screen.launcherName := by
  refine map_eq_map_of_forall₂ h ?_
  rintro screen - m ⟨_, _, _, _, -, -, -, -, rfl⟩
  rfl

theorem IsLauncher.names_parameters {m : Method} (h : IsLauncher s screen m) :
    m.parameters.map (·.name) = "context" :: screen.extras.map (·.name) := by
  obtain ⟨_, _, _, parameters, -, -, -, hparameters, rfl⟩ := h
  exact congrArg ("context" :: ·) (Navigator.names_parameters hparameters)

/-- The type of a binder's parameter has the simple name of the screen. -/
theorem IsBinder.simple_types {m : Method} (h : IsBinder s strict screen m)
    (named : IsDottedIdentifier screen.className) :
    m.parameters.map (fun p => simple p.type) = [screen.simpleName] := by
  obtain ⟨_, activity, _, -, hactivity, -, rfl⟩ := h
  exact congrArg (fun name => [name]) (simple_of_writes named hactivity)

theorem launcherName_ne_bind (screen : Screen) : screen.launcherName ≠ "bind" := by
  intro same
  have first := congrArg (fun name => name.toList.head?) same
  simp [Screen.launcherName] at first

theorem methods_eq_zip (built : (build package strict screens).result = .ok n) :
    n.methods = (n.launchers.zip n.binders).flatMap fun pair => [pair.1, pair.2] := by
  obtain ⟨pairs, -, rfl⟩ := build_eq_ok built
  obtain ⟨first, second⟩ := alternate_pairs pairs
  rw [launchers, binders, first, second, ← List.zip_of_prod rfl rfl]

/-- Whatever is injective keeps the simple names of distinct screens apart. -/
theorem nodup_map_simpleName {α : Type} {f : String → α} (distinct : Screen.Distinct screens)
    (h : Function.Injective f) : (screens.map fun screen => f screen.simpleName).Nodup := by
  have mapped := distinct.simpleNames.map h
  rwa [List.map_map] at mapped

/-- The navigator of distinct screens. -/
theorem isFreeOfClashes_of_distinct (distinct : Screen.Distinct screens)
    (named : ∀ screen ∈ screens, IsDottedIdentifier screen.className)
    (built : (build package strict screens).result = .ok n) : n.IsFreeOfClashes := by
  obtain ⟨launchers, binders, -⟩ := methods_of_build built
  refine ⟨methods_eq_zip built, ?_, ?_, ?_, ?_, ?_, ?_⟩
  · intro m hm
    obtain ⟨screen, -, _, _, _, -, -, -, rfl⟩ := exists_related_of_mem binders.flip hm
    rfl
  · rw [names_launchers launchers]
    exact nodup_map_simpleName distinct fun a b same => (String.append_right_inj _).1 same
  · intro m hm
    obtain ⟨screen, -, _, _, _, _, -, -, -, -, rfl⟩ := exists_related_of_mem launchers.flip hm
    exact launcherName_ne_bind screen
  · intro m hm
    obtain ⟨screen, hscreen, launcher⟩ := exists_related_of_mem launchers.flip hm
    rw [IsLauncher.names_parameters launcher, List.nodup_cons]
    refine ⟨?_, distinct.extraNames screen hscreen⟩
    intro context
    obtain ⟨e, he, hname⟩ := List.mem_map.1 context
    exact distinct.unreserved screen hscreen e he (hname ▸ by decide)
  · intro m hm p hp
    obtain ⟨screen, hscreen, launcher⟩ := exists_related_of_mem launchers.flip hm
    have names : m.parameters.tail.map (·.name) = screen.extras.map (·.name) := by
      rw [List.map_tail, IsLauncher.names_parameters launcher, List.tail_cons]
    obtain ⟨e, he, hname⟩ := List.mem_map.1 (names ▸ List.mem_map_of_mem hp)
    have unreserved := distinct.unreserved screen hscreen e he
    rw [hname] at unreserved
    simpa [reservedNames] using unreserved
  · have simple_types : (n.binders.map fun m => m.parameters.map (·.type)).map (·.map simple) =
        screens.map fun screen => [screen.simpleName] := by
      rw [List.map_map]
      refine map_eq_map_of_forall₂ binders fun screen hscreen m binder => ?_
      rw [← binder.simple_types (named screen hscreen)]
      exact List.map_map
    -- The texts differ because their simple names do.
    refine List.Nodup.of_map (·.map simple) ?_
    rw [simple_types]
    exact nodup_map_simpleName distinct fun a b same => List.singleton_inj.1 same

/-- **Generated declarations do not clash.** The navigator that is built for a parsed file has a
launcher for each screen, and declares nothing twice. -/
theorem isFreeOfClashes_of_parse {text : String} {d : Declarations}
    (parsed : parse text = .ok d) (gathered : d.screens = .ok screens)
    (built : (build package strict screens).result = .ok n) :
    n.launchers.map (·.name) = screens.map Screen.launcherName ∧ n.IsFreeOfClashes := by
  obtain ⟨launchers, -, -⟩ := methods_of_build built
  obtain ⟨entries, decls, rfl⟩ := exists_entries_of_screens gathered
  refine ⟨names_launchers launchers,
    isFreeOfClashes_of_distinct ((validBlocks_of_parse parsed).distinct decls) ?_ built⟩
  intro screen hscreen
  obtain ⟨c, hc, hname⟩ := exists_block_of_mem_group decls hscreen
  exact hname ▸ (isWellNamed_of_parse parsed).classes c hc

/-- A file in which a class is declared in two blocks with another class between them, with a field
that has the name of a generated variable but no marker. -/
def mixedText : String :=
  "class a.Home { @Required public int id; int context; } "
    ++ "class a.b.Navigator { @Required public long id; } "
    ++ "class a.Home { @Required public String[] next; }"

/-- The declarations in the file. -/
def mixedDeclarations : Declarations :=
  let required (name type : String) (dims : Nat) : FieldDecl :=
    ⟨name, .mk type [] dims, ["public"], [⟨"Required", []⟩]⟩
  { options := []
    types := []
    classes := [⟨"a.Home", [required "id" "int" 0, ⟨"context", .mk "int" [] 0, [], []⟩]⟩,
      ⟨"a.b.Navigator", [required "id" "long" 0]⟩, ⟨"a.Home", [required "next" "String" 1]⟩] }

/-- The screens of the file. -/
def mixedScreens : List Screen := [
  ⟨"a.Home", [⟨"id", .numeric "int" "int" 32 true false false, true, true⟩,
    ⟨"next", .arrayOf "java.lang.String[]" (.stringLike Platform.string Platform.string false),
      true, true⟩]⟩,
  ⟨"a.b.Navigator", [⟨"id", .numeric "long" "long" 64 true false false, true, true⟩]⟩]

theorem isFreeOfClashes_of_parse_mixed :
    parse mixedText = .ok mixedDeclarations ∧ mixedDeclarations.screens = .ok mixedScreens ∧
      ∃ n, (build "a" true mixedScreens).result = .ok n ∧ n.IsFreeOfClashes ∧
        n.methods.map (fun m => (m.name, m.signature)) = [
          ("startHome", "final Context context, final int id, final String[] next"),
          ("bind", "final Home activity"),
          ("startNavigator", "final Context context, final long id"),
          ("bind", "final a.b.Navigator activity")] := by
  have parsed : parse mixedText = .ok mixedDeclarations := by decide +kernel
  have gathered : mixedDeclarations.screens = .ok mixedScreens := by decide +kernel
  have signatures : (build "a" true mixedScreens).result.map
      (fun n => n.methods.map fun m => (m.name, m.signature)) = .ok [
        ("startHome", "final Context context, final int id, final String[] next"),
        ("bind", "final Home activity"),
        ("startNavigator", "final Context context, final long id"),
        ("bind", "final a.b.Navigator activity")] := by
    decide +kernel
  refine ⟨parsed, gathered, ?_⟩
  cases built : (build "a" true mixedScreens).result with
  | error e =>
    rw [built] at signatures
    cases signatures
  | ok n =>
    rw [built] at signatures
    exact ⟨n, rfl, (isFreeOfClashes_of_parse parsed gathered built).2, Except.ok.inj signatures⟩

end Navigator

end ScreenNav
