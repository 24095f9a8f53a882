import ScreenNav.Proofs.Consistency
import ScreenNav.Proofs.Gathering

/-!
# Every marked field, once and in order

**Theorem (`gather_scan`).** Blocks that can be scanned make up exactly one screen for each class with a
marked field, in the order in which the classes first contribute one. Its extras are the marked fields
of all blocks of the class, in the order of the file, each with its own name and type, and with what its
modifiers and its first marker say. The screens exist if and only if every marked field has a type that
can be described. They depend on nothing but these two orders, so the fields of a class can be written
in one block, or in several with others between them.

What the screens have to be (`AreScreensOf`) is said of the blocks, class by class. The program goes
through the fields one by one instead, and puts each in its place; `contributors_eq` and
`filter_markedDecls` say what becomes of the two orders when all blocks are taken together.
-/

namespace ScreenNav

variable {blocks : List ClassDecl} {className fieldName : String} {u : Universe}

/-! ## What the blocks say -/

/-- The marked fields in all blocks of a class, in the order of the file. -/
def marksOf (blocks : List ClassDecl) (className : String) : List FieldDecl :=
  (blocks.filter (·.name = className)).flatMap fun c => c.fields.filter (·.isMarked)

/-- The block has a marked field. -/
def ClassDecl.contributes (c : ClassDecl) : Bool := c.fields.any (·.isMarked)

/-- The classes with a marked field, in the order in which they first contribute one. -/
def contributors (blocks : List ClassDecl) : List String :=
  ((blocks.filter ClassDecl.contributes).map (·.name)).eraseDups

/-- The last truth value that an argument called `bind` has; true if there is none. -/
def Annotation.lastFlag (marker : Annotation) : Bool :=
  ((marker.arguments.filter (·.name = some "bind")).filterMap (·.value.toBool?)).getLast?.getD true

/-- What a marked field of a class is to the screen of that class. -/
structure IsExtraOf (u : Universe) (className : String) (f : FieldDecl) (e : Extra) : Prop where
  name : e.name = f.name
  type : u.describe (QualifiedName.package className) f.type.text = .ok e.type
  writable : e.writable = true ↔ "public" ∈ f.modifiers ∧ "final" ∉ f.modifiers
  bound : ∃ marker, f.IsMarkedBy marker ∧ e.bound = marker.lastFlag

/-- The screens that the marked fields of the blocks make up. -/
structure AreScreensOf (u : Universe) (blocks : List ClassDecl) (screens : List Screen) : Prop where
  classes : screens.map (·.className) = contributors blocks
  extras : ∀ screen ∈ screens,
    List.Forall₂ (IsExtraOf u screen.className) (marksOf blocks screen.className) screen.extras

/-! ## Markers -/

/-- A marker that is right says what the last of its arguments does. -/
theorem lastFlag_of_bindFlag {marker : Annotation} {bound : Bool}
    (h : marker.bindFlag className fieldName = .ok bound) : bound = marker.lastFlag := by
  unfold Annotation.bindFlag at h
  unfold Annotation.lastFlag
  -- Without arguments left, what was said so far counts, and true was said at first.
  generalize true = said at h ⊢
  generalize marker.arguments = arguments at h ⊢
  induction arguments generalizing said with
  | nil => exact (Except.ok.inj h).symm
  | cons a arguments ih =>
    rw [List.foldlM_cons] at h
    obtain ⟨flag, first, rest⟩ := bind_eq_ok_iff.1 h
    obtain ⟨named, value⟩ := argument_bindFlag_eq_ok_iff.1 first
    have last : a.value.toBool? = some flag := by rw [value, Value.toBool?]
    rw [List.filter_cons_of_pos (by simpa using named), List.filterMap_cons, last,
      List.getLast?_cons, Option.getD_some]
    exact ih flag rest

theorem isWritable_iff {modifiers : List String} :
    isWritable modifiers = true ↔ "public" ∈ modifiers ∧ "final" ∉ modifiers := by
  simp [isWritable]

theorem IsGatheredAs.isExtraOf {f : FieldDecl} {e : Extra}
    (h : IsGatheredAs u (className, f) (className, e)) : IsExtraOf u className f e := by
  obtain ⟨marker, first, flag⟩ := h.bound
  exact {
    name := h.name
    type := h.type
    writable := by rw [h.writable, isWritable_iff]
    bound := ⟨marker, marker?_eq_some_iff.1 first, lastFlag_of_bindFlag flag⟩ }

/-- A marked field becomes one thing only. -/
theorem rightUnique_isGatheredAs : Relator.RightUnique fun (f : FieldDecl) (e : Extra) =>
    IsGatheredAs u (className, f) (className, e) := by
  intro f e e' h h'
  obtain ⟨marker, first, flag⟩ := h.bound
  obtain ⟨marker', first', flag'⟩ := h'.bound
  obtain rfl := Option.some.inj (first.symm.trans first')
  obtain ⟨name, type, writable, bound⟩ := e
  obtain ⟨name', type', writable', bound'⟩ := e'
  obtain rfl : name = name' := h.name.trans h'.name.symm
  obtain rfl : type = type' := Except.ok.inj (h.type.symm.trans h'.type)
  obtain rfl : writable = writable' := h.writable.trans h'.writable.symm
  obtain rfl : bound = bound' := Except.ok.inj (flag.symm.trans flag')
  rfl

/-! ## Classes and their fields -/

/-- The marked fields of a class, picked out of those of all classes. -/
theorem filter_markedDecls (blocks : List ClassDecl) (className : String) :
    (markedDecls blocks).filter (·.1 = className) =
      (marksOf blocks className).map fun f => (className, f) := by
  induction blocks with
  | nil => rfl
  | cons c blocks ih =>
    rw [markedDecls, List.flatMap_cons, List.filter_append, ← markedDecls, ih]
    by_cases own : c.name = className
    · simp [marksOf, own, List.filter_map, Function.comp_def]
    · simp [marksOf, own, List.filter_map, Function.comp_def]

theorem mem_marksOf {f : FieldDecl} :
    f ∈ marksOf blocks className ↔ (className, f) ∈ markedDecls blocks := by
  have picked : (className, f) ∈ (markedDecls blocks).filter (·.1 = className) ↔
      (className, f) ∈ markedDecls blocks := by simp
  rw [← picked, filter_markedDecls]
  simp

/-- A name that is already there can be repeated. -/
theorem eraseDups_append_replicate (names : List String) (name : String) (count : Nat) :
    (names ++ List.replicate (count + 1) name).eraseDups = (names ++ [name]).eraseDups := by
  induction count with
  | zero => rfl
  | succ count ih =>
    rw [List.replicate_succ', ← List.append_assoc, Screen.eraseDups_concat, if_pos (by simp), ih]

/-- A class contributes first where it has its first marked field. -/
theorem contributors_eq (blocks : List ClassDecl) :
    contributors blocks = ((markedDecls blocks).map (·.1)).eraseDups := by
  unfold contributors
  induction blocks using List.reverseRecOn with
  | nil => rfl
  | append_singleton blocks c ih =>
    have own : (markedDecls [c]).map (·.1) =
        List.replicate (c.fields.filter (·.isMarked)).length c.name := by
      simp [markedDecls, Function.comp_def]
    have all : markedDecls (blocks ++ [c]) = markedDecls blocks ++ markedDecls [c] :=
      List.flatMap_append
    rw [all, List.map_append, own, List.filter_append, List.map_append]
    cases marked : c.fields.filter (·.isMarked) with
    | nil =>
      have idle : c.contributes = false := by
        simpa [ClassDecl.contributes, List.filter_eq_nil_iff] using marked
      simp [idle, ih]
    | cons f rest =>
      have busy : c.contributes = true := by
        refine List.any_eq_true.2 ⟨f, ?_⟩
        exact List.mem_filter.1 (marked ▸ List.mem_cons_self)
      have known_iff : c.name ∈ (markedDecls blocks).map (·.1) ↔
          c.name ∈ (blocks.filter ClassDecl.contributes).map (·.name) := by
        rw [← List.mem_eraseDups, ← ih, List.mem_eraseDups]
      rw [List.length_cons, eraseDups_append_replicate, Screen.eraseDups_concat, ← ih,
        List.filter_cons_of_pos busy, List.filter_nil, List.map_singleton, Screen.eraseDups_concat]
      simp only [known_iff]

/-! ## Screens -/

section

variable {entries : List (String × Extra)}

theorem forall₂_marksOf (h : List.Forall₂ (IsGatheredAs u) (markedDecls blocks) entries)
    (className : String) : List.Forall₂ (fun f e => IsGatheredAs u (className, f) (className, e))
      (marksOf blocks className) (Screen.extrasOf entries className) := by
  have own := forall₂_extrasOf h className
  rwa [filter_markedDecls, List.forall₂_map_left_iff] at own

/-- The screens of the blocks, by their classes. -/
theorem group_eq_map_contributors (h : List.Forall₂ (IsGatheredAs u) (markedDecls blocks) entries) :
    Screen.group entries = (contributors blocks).map fun className =>
      ⟨className, Screen.extrasOf entries className⟩ := by
  have names := Generation.map_eq_map_of_forall₂ h (f := (·.1)) (g := (·.1))
    fun _ _ _ gathered => gathered.className
  rw [Screen.group_eq, names, contributors_eq]

theorem areScreensOf_group (h : List.Forall₂ (IsGatheredAs u) (markedDecls blocks) entries) :
    AreScreensOf u blocks (Screen.group entries) where
  classes := by
    rw [group_eq_map_contributors h, List.map_map]
    exact List.map_id _
  extras screen hscreen := by
    rw [(Screen.eq_of_mem_group hscreen).2]
    exact (forall₂_marksOf h screen.className).imp fun _ _ gathered => gathered.isExtraOf

end

/-- What is gathered from blocks has been grouped from what their marked fields become. -/
theorem exists_entries_of_gather {fields : List MarkedField} {screens : List Screen}
    (scanned : scan blocks = .ok fields) (gathered : Screen.gather u fields = .ok screens) :
    ∃ entries, List.Forall₂ (IsGatheredAs u) (markedDecls blocks) entries ∧
      Screen.group entries = screens := by
  obtain ⟨entries, extras, grouped⟩ := gather_eq_ok_iff.1 gathered
  refine ⟨entries, forall₂_trans ?_ (scan_eq_ok_iff.1 scanned) extras, grouped⟩
  intro decl m entry
  exact isGatheredAs_of_isScannedAs

/-- Blocks can be scanned if each of their marked fields can. -/
theorem exists_scan_iff : (∃ fields, scan blocks = .ok fields) ↔
    ∀ className, ∀ f ∈ marksOf blocks className, ∃ m, IsScannedAs (className, f) m := by
  simp only [scan_eq_ok_iff, mem_marksOf]
  constructor
  · rintro ⟨fields, scanned⟩ className f marked
    obtain ⟨m, -, scanned_as⟩ := Generation.exists_related_of_mem scanned marked
    exact ⟨m, scanned_as⟩
  · intro h
    exact exists_forall₂ fun decl marked => h decl.1 decl.2 marked

/-- Scanned fields make up screens if the type of each can be described. -/
theorem exists_gather_iff {fields : List MarkedField} (scanned : scan blocks = .ok fields) :
    (∃ screens, Screen.gather u fields = .ok screens) ↔ ∀ className, ∀ f ∈ marksOf blocks className,
      ∃ type, u.describe (QualifiedName.package className) f.type.text = .ok type := by
  simp only [mem_marksOf]
  constructor
  · rintro ⟨screens, gathered⟩ className f marked
    obtain ⟨entries, decls, -⟩ := exists_entries_of_gather scanned gathered
    obtain ⟨entry, -, became⟩ := Generation.exists_related_of_mem decls marked
    exact ⟨entry.2.type, became.type⟩
  · intro described
    have extras : ∀ m ∈ fields, ∃ entry, m.extra u = .ok entry := by
      intro m hm
      obtain ⟨decl, marked, scanned_as⟩ :=
        Generation.exists_related_of_mem (scan_eq_ok_iff.1 scanned).flip hm
      obtain ⟨_, bound, -, -, rfl⟩ := isScannedAs_iff.1 scanned_as
      obtain ⟨type, htype⟩ := described decl.1 decl.2 marked
      exact ⟨_, bind_eq_ok_iff.2 ⟨type, htype, rfl⟩⟩
    obtain ⟨entries, hentries⟩ := exists_forall₂ extras
    exact ⟨_, gather_eq_ok_iff.2 ⟨entries, hentries, rfl⟩⟩

/-- Blocks with the same contributors and the same marked fields for each make up the same screens. -/
theorem gather_eq_of_same_marks {blocks' : List ClassDecl} {fields fields' : List MarkedField}
    (scanned : scan blocks = .ok fields) (scanned' : scan blocks' = .ok fields')
    (classes : contributors blocks' = contributors blocks)
    (marks : marksOf blocks' = marksOf blocks) :
    Screen.gather u fields' = Screen.gather u fields := by
  have success : (∃ screens, Screen.gather u fields' = .ok screens) ↔
      ∃ screens, Screen.gather u fields = .ok screens := by
    rw [exists_gather_iff scanned, exists_gather_iff scanned', marks]
  cases first : Screen.gather u fields with
  | ok screens =>
    obtain ⟨screens', second⟩ := success.2 ⟨screens, first⟩
    obtain ⟨entries, decls, rfl⟩ := exists_entries_of_gather scanned first
    obtain ⟨entries', decls', rfl⟩ := exists_entries_of_gather scanned' second
    have extras (className : String) :
        Screen.extrasOf entries' className = Screen.extrasOf entries className := by
      have own := forall₂_marksOf decls' className
      rw [marks] at own
      exact List.right_unique_forall₂' rightUnique_isGatheredAs own (forall₂_marksOf decls className)
    rw [second, group_eq_map_contributors decls, group_eq_map_contributors decls', classes]
    simp only [extras]
  | error e =>
    cases second : Screen.gather u fields' with
    | ok screens' =>
      obtain ⟨screens, absurd⟩ := success.1 ⟨screens', second⟩
      exact nomatch first.symm.trans absurd
    | error e' =>
      -- there is only one way in which a type cannot be described
      cases e
      cases e'
      rfl

/-- **Scanning and gathering lose, repeat and reorder nothing.** -/
theorem gather_scan {fields : List MarkedField} (scanned : scan blocks = .ok fields) (u : Universe) :
    (∀ screens, Screen.gather u fields = .ok screens → AreScreensOf u blocks screens) ∧
      ((∃ screens, Screen.gather u fields = .ok screens) ↔
        ∀ className, ∀ f ∈ marksOf blocks className,
          ∃ type, u.describe (QualifiedName.package className) f.type.text = .ok type) ∧
      ∀ blocks', contributors blocks' = contributors blocks → marksOf blocks' = marksOf blocks →
        ∃ fields', scan blocks' = .ok fields' ∧ Screen.gather u fields' = Screen.gather u fields := by
  refine ⟨fun screens gathered => ?_, exists_gather_iff scanned, fun blocks' classes marks => ?_⟩
  · obtain ⟨entries, decls, rfl⟩ := exists_entries_of_gather scanned gathered
    exact areScreensOf_group decls
  · obtain ⟨fields', scanned'⟩ : ∃ fields', scan blocks' = .ok fields' := by
      rw [exists_scan_iff, marks, ← exists_scan_iff]
      exact ⟨fields, scanned⟩
    exact ⟨fields', scanned', gather_eq_of_same_marks scanned scanned' classes marks⟩

/-- A field of which the last flag of the first marker counts. -/
def userField : FieldDecl :=
  ⟨"user", .mk "User" [] 0, ["public"], [⟨"Nullable", []⟩,
    ⟨"nav.Required", [⟨some "bind", .bool true⟩, ⟨some "bind", .bool false⟩]⟩, ⟨"Required", []⟩]⟩

def tagsField : FieldDecl :=
  ⟨"tags", .mk "ArrayList" [.mk "String" [] 0] 0, ["public"], [⟨"Required", []⟩]⟩

def placeField : FieldDecl := ⟨"place", .mk "String" [] 0, ["public", "final"], [⟨"Required", []⟩]⟩

/-- Blocks of two classes in turn, of which the first contributes nothing. -/
def inTurn : List ClassDecl := [⟨"a.Map", [⟨"zoom", .mk "int" [] 0, [], []⟩]⟩, ⟨"a.Home", [userField]⟩,
  ⟨"a.Map", [placeField]⟩, ⟨"a.Home", [tagsField]⟩]

/-- One block for each class. -/
def inOneBlock : List ClassDecl := [⟨"a.Home", [userField, tagsField]⟩, ⟨"a.Map", [placeField]⟩]

/-- The screens of both. -/
def turnedScreens : List Screen := [
  ⟨"a.Home", [⟨"user", .transferable "b.User", true, false⟩,
    ⟨"tags", .serializable "java.util.ArrayList<java.lang.String>", true, true⟩]⟩,
  ⟨"a.Map", [⟨"place", .stringLike "java.lang.String" "java.lang.String" false, false, true⟩]⟩]

/-- The fields of two classes in turn make up the screens that they do in one block for each class. -/
theorem gather_scan_inTurn :
    let u : Universe := ⟨[⟨"b.User", [], ["Parcelable"]⟩]⟩
    ∃ fields fields', scan inTurn = .ok fields ∧ scan inOneBlock = .ok fields' ∧
      Screen.gather u fields = .ok turnedScreens ∧ AreScreensOf u inTurn turnedScreens ∧
      Screen.gather u fields' = .ok turnedScreens := by
  intro u
  obtain ⟨fields, scanned⟩ : ∃ fields, scan inTurn = .ok fields := ⟨_, rfl⟩
  have gathered : Screen.gather u fields = .ok turnedScreens := by
    obtain rfl := Except.ok.inj scanned
    decide +kernel
  obtain ⟨screens, -, same⟩ := gather_scan scanned u
  have classes : contributors inOneBlock = contributors inTurn := by decide +kernel
  have marks : marksOf inOneBlock = marksOf inTurn := by
    funext className
    by_cases home : "a.Home" = className
    · subst home
      rfl
    by_cases map : "a.Map" = className
    · subst map
      rfl
    simp [marksOf, inOneBlock, inTurn, home, map]
  obtain ⟨fields', scanned', gathered'⟩ := same inOneBlock classes marks
  exact ⟨fields, fields', scanned, scanned', gathered, screens _ gathered, gathered'.trans gathered⟩

end ScreenNav
