import Mathlib.Data.List.Forall2
import Mathlib.Data.List.Induction
import Mathlib.Data.List.Nodup
import ScreenNav.Command
import ScreenNav.Proofs.Generation
import ScreenNav.Proofs.Validity

/-!
# Which screens a file has

From the class blocks of a file to its screens. Scanning lists the marked fields of all blocks, and
grouping collects those of one class.

**Scanning** (`scan_eq_ok_iff`). What is scanned corresponds, one to one and in order, to the
declarations that carry a marker. It fails only where a marker is wrong, so it does not fail on valid
blocks (`ValidBlocks.exists_scan`).

**Grouping** (`group_eq`). There is one screen for each class that occurs, in the order of their first
occurrences, and its extras are all those that stand with the class, in their order.

**Screens** (`exists_entries_of_screens`). Both together: the screens of a file are grouped from what
its marked declarations become, so each screen belongs to a class that is declared and each of its
extras is a marked field of that class, wherever in the file it stands.
-/

namespace ScreenNav

variable {α β ε : Type}

/-! ## Lists of results -/

/-- Mapping succeeds if it does for each element, and keeps their order. -/
theorem mapM_eq_ok_iff {f : α → Except ε β} {as : List α} {bs : List β} :
    as.mapM f = .ok bs ↔ List.Forall₂ (fun a b => f a = .ok b) as bs := by
  induction as generalizing bs with
  | nil => cases bs <;> simp [pure, Except.pure]
  | cons a as ih =>
    simp only [List.mapM_cons, bind_eq_ok_iff, ih, List.forall₂_cons_left_iff, pure, Except.pure,
      Except.ok.injEq]
    constructor
    · rintro ⟨b, head, bs, tail, rfl⟩
      exact ⟨b, bs, head, tail, rfl⟩
    · rintro ⟨b, bs, head, tail, rfl⟩
      exact ⟨b, head, bs, tail, rfl⟩

theorem exists_forall₂ {related : α → β → Prop} {as : List α} (h : ∀ a ∈ as, ∃ b, related a b) :
    ∃ bs, List.Forall₂ related as bs := by
  induction as with
  | nil => exact ⟨[], .nil⟩
  | cons a as ih =>
    obtain ⟨⟨b, head⟩, rest⟩ := List.forall_mem_cons.1 h
    obtain ⟨bs, tail⟩ := ih rest
    exact ⟨b :: bs, .cons head tail⟩

theorem forall₂_append_iff {related : α → β → Prop} {first second : List α} {bs : List β} :
    List.Forall₂ related (first ++ second) bs ↔
      ∃ before after, List.Forall₂ related first before ∧ List.Forall₂ related second after ∧
        before ++ after = bs := by
  constructor
  · intro h
    induction first generalizing bs with
    | nil => exact ⟨[], bs, .nil, h, rfl⟩
    | cons a first ih =>
      cases h with
      | @cons _ b _ _ head tail =>
        obtain ⟨before, after, hbefore, hafter, rfl⟩ := ih tail
        exact ⟨b :: before, after, .cons head hbefore, hafter, rfl⟩
  · rintro ⟨before, after, hbefore, hafter, rfl⟩
    exact List.rel_append hbefore hafter

/-! ## Scanning -/

/-- The field carries a marker. -/
def FieldDecl.isMarked (f : FieldDecl) : Bool := f.marker?.isSome

/-- The marked fields that the blocks declare, each with the name of its class. -/
def markedDecls (blocks : List ClassDecl) : List (String × FieldDecl) :=
  blocks.flatMap fun c => (c.fields.filter (·.isMarked)).map fun f => (c.name, f)

theorem mem_markedDecls {blocks : List ClassDecl} {decl : String × FieldDecl} :
    decl ∈ markedDecls blocks ↔
      ∃ c ∈ blocks, ∃ f ∈ c.fields, f.isMarked = true ∧ (c.name, f) = decl := by
  simp only [markedDecls, List.mem_flatMap, List.mem_map, List.mem_filter, and_assoc]

/-- A marked field of valid blocks has a name that is free and a marker that is right. -/
theorem ValidBlocks.marker {blocks : List ClassDecl} (h : ValidBlocks blocks)
    {decl : String × FieldDecl} (marked : decl ∈ markedDecls blocks) :
    decl.2.name ∉ reservedNames ∧
      ∃ marker bound, decl.2.marker? = some marker ∧ marker.bindFlag decl.1 decl.2.name = .ok bound := by
  obtain ⟨c, hc, f, hf, some_marker, rfl⟩ := mem_markedDecls.1 marked
  obtain ⟨marker, hmarker⟩ := Option.isSome_iff_exists.1 some_marker
  obtain ⟨free, bound, flag⟩ := checkMarker_eq_ok_iff.1 (h.markers c hc f hf) marker hmarker
  exact ⟨free, marker, bound, hmarker, flag⟩

/-- What a declaration is scanned as. -/
def IsScannedAs (decl : String × FieldDecl) (m : MarkedField) : Prop :=
  decl.2.marked? decl.1 = .ok (some m)

theorem marked?_eq_ok_iff {className : String} {f : FieldDecl} {m? : Option MarkedField} :
    f.marked? className = .ok m? ↔ f.marker? = none ∧ m? = none ∨
      ∃ marker bound, f.marker? = some marker ∧ marker.bindFlag className f.name = .ok bound ∧
        m? = some ⟨className, f.name, f.type.text, f.modifiers, bound⟩ := by
  unfold FieldDecl.marked?
  cases f.marker? with
  | none => simp [eq_comm]
  | some marker =>
    rw [bind_eq_ok_iff]
    constructor
    · rintro ⟨bound, flag, made⟩
      exact .inr ⟨marker, bound, rfl, flag, (Except.ok.inj made).symm⟩
    · rintro (⟨absurd, -⟩ | ⟨_, bound, ⟨⟩, flag, rfl⟩)
      · exact nomatch absurd
      · exact ⟨bound, flag, rfl⟩

/-- A scanned field is its declaration, with what the marker says. -/
theorem isScannedAs_iff {decl : String × FieldDecl} {m : MarkedField} : IsScannedAs decl m ↔
    ∃ marker bound, decl.2.marker? = some marker ∧
      marker.bindFlag decl.1 decl.2.name = .ok bound ∧
        m = ⟨decl.1, decl.2.name, decl.2.type.text, decl.2.modifiers, bound⟩ := by
  simp [IsScannedAs, marked?_eq_ok_iff]

theorem isSome_of_marked? {className : String} {f : FieldDecl} {m? : Option MarkedField}
    (h : f.marked? className = .ok m?) : m?.isSome = f.isMarked := by
  unfold FieldDecl.isMarked
  obtain ⟨unmarked, rfl⟩ | ⟨a, bound, marker, -, rfl⟩ := marked?_eq_ok_iff.1 h
  · rw [unmarked]
    rfl
  · rw [marker]
    rfl

theorem markedFields_eq_ok_iff {c : ClassDecl} {ms : List MarkedField} :
    c.markedFields = .ok ms ↔
      List.Forall₂ (fun f m => IsScannedAs (c.name, f) m) (c.fields.filter (·.isMarked)) ms := by
  obtain ⟨className, fields⟩ := c
  simp only [ClassDecl.markedFields, bind_eq_ok_iff, mapM_eq_ok_iff, pure, Except.pure, Except.ok.injEq]
  induction fields generalizing ms with
  | nil => cases ms <;> simp
  | cons f fields ih =>
    simp only [List.forall₂_cons_left_iff]
    by_cases marked : f.isMarked = true
    · rw [List.filter_cons_of_pos marked, List.forall₂_cons_left_iff]
      constructor
      · rintro ⟨_, ⟨m?, ms?, head, tail, rfl⟩, rfl⟩
        obtain ⟨m, rfl⟩ := Option.isSome_iff_exists.1 ((isSome_of_marked? head).trans marked)
        exact ⟨m, ms?.filterMap id, head, ih.1 ⟨ms?, tail, rfl⟩, rfl⟩
      · rintro ⟨m, ms, head, tail, rfl⟩
        obtain ⟨ms?, rest, rfl⟩ := ih.2 tail
        exact ⟨some m :: ms?, ⟨some m, ms?, head, rest, rfl⟩, rfl⟩
    · have unmarked : f.marked? className = .ok none :=
        marked?_eq_ok_iff.2 (.inl ⟨Option.not_isSome_iff_eq_none.1 marked, rfl⟩)
      rw [List.filter_cons_of_neg marked, ← ih]
      constructor
      · rintro ⟨_, ⟨m?, ms?, head, tail, rfl⟩, rfl⟩
        obtain rfl := Except.ok.inj (unmarked.symm.trans head)
        exact ⟨ms?, tail, rfl⟩
      · rintro ⟨ms?, tail, rfl⟩
        exact ⟨none :: ms?, ⟨none, ms?, unmarked, tail, rfl⟩, rfl⟩

/-- What is scanned corresponds to the marked declarations, in order. -/
theorem scan_eq_ok_iff {classes : List ClassDecl} {ms : List MarkedField} :
    scan classes = .ok ms ↔ List.Forall₂ IsScannedAs (markedDecls classes) ms := by
  simp only [scan, bind_eq_ok_iff, mapM_eq_ok_iff, pure, Except.pure, Except.ok.injEq]
  induction classes generalizing ms with
  | nil => cases ms <;> simp [markedDecls]
  | cons c classes ih =>
    rw [markedDecls, List.flatMap_cons, forall₂_append_iff]
    simp only [List.forall₂_cons_left_iff, List.forall₂_map_left_iff, ← markedFields_eq_ok_iff]
    constructor
    · rintro ⟨_, ⟨own, others, head, tail, rfl⟩, rfl⟩
      exact ⟨own, others.flatten, head, ih.1 ⟨others, tail, rfl⟩, rfl⟩
    · rintro ⟨own, rest, head, tail, rfl⟩
      obtain ⟨others, htail, rfl⟩ := ih.2 tail
      exact ⟨own :: others, ⟨own, others, head, htail, rfl⟩, rfl⟩

/-- Valid blocks can be scanned. -/
theorem ValidBlocks.exists_scan {classes : List ClassDecl} (h : ValidBlocks classes) :
    ∃ ms, scan classes = .ok ms := by
  suffices scanned : ∀ decl ∈ markedDecls classes, ∃ m, IsScannedAs decl m by
    obtain ⟨ms, hms⟩ := exists_forall₂ scanned
    exact ⟨ms, scan_eq_ok_iff.2 hms⟩
  intro decl marked
  obtain ⟨-, marker, bound, hmarker, flag⟩ := h.marker marked
  exact ⟨_, isScannedAs_iff.2 ⟨marker, bound, hmarker, flag, rfl⟩⟩

/-! ## Grouping -/

namespace Screen

variable {className : String} {extra : Extra} {screens : List Screen}

theorem addExtra_of_notMem (h : className ∉ screens.map (·.className)) :
    addExtra className extra screens = screens ++ [⟨className, [extra]⟩] := by
  induction screens with
  | nil => rfl
  | cons screen rest ih =>
    rw [List.map_cons, List.mem_cons, not_or] at h
    rw [addExtra, if_neg (Ne.symm h.1), ih h.2, List.cons_append]

theorem addExtra_of_mem (distinct : (screens.map (·.className)).Nodup)
    (h : className ∈ screens.map (·.className)) :
    addExtra className extra screens = screens.map fun screen =>
      if screen.className = className then ⟨className, screen.extras ++ [extra]⟩ else screen := by
  induction screens with
  | nil => simp at h
  | cons screen rest ih =>
    rw [List.map_cons, List.nodup_cons] at distinct
    by_cases same : screen.className = className
    · have others : ∀ other ∈ rest, (if other.className = className then
          ⟨className, other.extras ++ [extra]⟩ else other) = other := by
        intro other hother
        refine if_neg fun again => distinct.1 ?_
        rw [same, ← again]
        exact List.mem_map_of_mem hother
      rw [addExtra, if_pos same, List.map_cons, if_pos same, List.map_congr_left others, List.map_id']
    · have later : className ∈ rest.map (·.className) :=
        (List.mem_cons.1 h).resolve_left fun first => same first.symm
      rw [addExtra, if_neg same, List.map_cons, if_neg same, ih distinct.2 later]

theorem eraseDups_concat (names : List String) (name : String) : (names ++ [name]).eraseDups =
    if name ∈ names then names.eraseDups else names.eraseDups ++ [name] := by
  rw [List.eraseDups_append]
  split <;> simp [List.cons_removeAll, List.nil_removeAll, List.eraseDups_cons, *]

theorem nodup_eraseDups (names : List String) : names.eraseDups.Nodup := by
  induction names using List.reverseRecOn with
  | nil => exact List.nodup_nil
  | append_singleton names name ih =>
    rw [eraseDups_concat]
    split
    · exact ih
    · rename_i fresh
      rw [← List.mem_eraseDups] at fresh
      exact List.nodup_append_comm.1 (List.nodup_cons.2 ⟨fresh, ih⟩)

/-- The extras that stand with the name of a class, in order. -/
def extrasOf (entries : List (String × Extra)) (className : String) : List Extra :=
  (entries.filter (·.1 = className)).map (·.2)

theorem extrasOf_concat (entries : List (String × Extra)) (entry : String × Extra)
    (className : String) : extrasOf (entries ++ [entry]) className =
      if entry.1 = className then extrasOf entries className ++ [entry.2]
      else extrasOf entries className := by
  unfold extrasOf
  split <;> simp [*]

theorem extrasOf_of_notMem {entries : List (String × Extra)}
    (h : className ∉ entries.map (·.1)) : extrasOf entries className = [] := by
  have none : entries.filter (·.1 = className) = [] := by
    refine List.filter_eq_nil_iff.2 fun entry hentry => ?_
    have other : entry.1 ≠ className := fun same => h (same ▸ List.mem_map_of_mem hentry)
    simpa using other
  rw [extrasOf, none, List.map_nil]

/-- There is one screen for each class that occurs, in the order of their first occurrences, with all
extras that stand with the class. -/
theorem group_eq (entries : List (String × Extra)) : group entries =
    (entries.map (·.1)).eraseDups.map fun className => ⟨className, extrasOf entries className⟩ := by
  induction entries using List.reverseRecOn with
  | nil => rfl
  | append_singleton entries entry ih =>
    have step : group (entries ++ [entry]) = addExtra entry.1 entry.2 (group entries) := by
      rw [group, List.foldl_append]
      rfl
    have names : (group entries).map (·.className) = (entries.map (·.1)).eraseDups := by
      rw [ih, List.map_map]
      exact List.map_id _
    have distinct : ((group entries).map (·.className)).Nodup := names ▸ nodup_eraseDups _
    have known_iff : entry.1 ∈ (group entries).map (·.className) ↔ entry.1 ∈ entries.map (·.1) := by
      rw [names, List.mem_eraseDups]
    rw [step, List.map_append, List.map_singleton, eraseDups_concat]
    -- The last entry goes to the screen of its class, or to a new one at the end.
    by_cases known : entry.1 ∈ entries.map (·.1)
    · rw [addExtra_of_mem distinct (known_iff.2 known), ih, if_pos known, List.map_map]
      refine List.map_congr_left fun className _ => ?_
      rw [extrasOf_concat]
      by_cases own : className = entry.1
      · simp [own]
      · simp [own, Ne.symm own]
    · rw [addExtra_of_notMem (mt known_iff.1 known), ih, if_neg known, List.map_append,
        List.map_singleton, extrasOf_concat, if_pos rfl, extrasOf_of_notMem known, List.nil_append]
      congr 1
      refine List.map_congr_left fun className hname => ?_
      rw [extrasOf_concat, if_neg]
      rintro rfl
      exact known (List.mem_eraseDups.1 hname)

/-- No class has two screens. -/
theorem nodup_group (entries : List (String × Extra)) :
    ((group entries).map (·.className)).Nodup := by
  rw [group_eq, List.map_map]
  exact (List.map_id _).symm ▸ nodup_eraseDups _

/-- A screen belongs to a class that occurs, and has all extras of the class. -/
theorem eq_of_mem_group {entries : List (String × Extra)} {screen : Screen}
    (h : screen ∈ group entries) :
    screen.className ∈ entries.map (·.1) ∧ screen.extras = extrasOf entries screen.className := by
  rw [group_eq] at h
  obtain ⟨className, hname, rfl⟩ := List.mem_map.1 h
  exact ⟨List.mem_eraseDups.1 hname, rfl⟩

theorem mem_extrasOf {entries : List (String × Extra)} :
    extra ∈ extrasOf entries className ↔ (className, extra) ∈ entries := by
  simp [extrasOf]

end Screen

/-! ## Screens -/

theorem gather_eq_ok_iff {u : Universe} {ms : List MarkedField} {screens : List Screen} :
    Screen.gather u ms = .ok screens ↔
      ∃ entries, List.Forall₂ (fun m entry => m.extra u = .ok entry) ms entries ∧
        Screen.group entries = screens := by
  simp only [Screen.gather, bind_eq_ok_iff, mapM_eq_ok_iff, pure, Except.pure, Except.ok.injEq]

theorem screens_eq_ok_iff {d : Declarations} {screens : List Screen} :
    d.screens = .ok screens ↔
      ∃ ms, scan d.classes = .ok ms ∧ Screen.gather ⟨d.types⟩ ms = .ok screens := by
  rw [Declarations.screens, bind_eq_ok_iff]
  simp only [Generation.mapError_eq_ok_iff]

/-- What a marked declaration becomes: an extra with its name and its type, which stands with the name
of its class. -/
structure IsGatheredAs (u : Universe) (decl : String × FieldDecl) (entry : String × Extra) : Prop where
  className : entry.1 = decl.1
  name : entry.2.name = decl.2.name
  type : u.describe (QualifiedName.package decl.1) decl.2.type.text = .ok entry.2.type
  writable : entry.2.writable = isWritable decl.2.modifiers
  bound : ∃ marker, decl.2.marker? = some marker ∧
    marker.bindFlag decl.1 decl.2.name = .ok entry.2.bound

theorem isGatheredAs_of_isScannedAs {u : Universe} {decl : String × FieldDecl} {m : MarkedField}
    {entry : String × Extra} (scanned : IsScannedAs decl m) (h : m.extra u = .ok entry) :
    IsGatheredAs u decl entry := by
  obtain ⟨marker, bound, hmarker, flag, rfl⟩ := isScannedAs_iff.1 scanned
  obtain ⟨type, described, made⟩ := bind_eq_ok_iff.1 h
  obtain rfl := Except.ok.inj made
  exact ⟨rfl, rfl, described, rfl, marker, hmarker, flag⟩

theorem forall₂_trans {γ : Type} {first : α → β → Prop} {second : β → γ → Prop}
    {third : α → γ → Prop} (trans : ∀ a b c, first a b → second b c → third a c) {as : List α}
    {bs : List β} {cs : List γ} (h : List.Forall₂ first as bs) (h' : List.Forall₂ second bs cs) :
    List.Forall₂ third as cs := by
  induction h generalizing cs with
  | nil =>
    cases h'
    exact .nil
  | cons head _ ih =>
    cases h' with
    | cons head' tail' => exact .cons (trans _ _ _ head head') (ih tail')

/-- The extras of a class are what its own declarations become, in order. -/
theorem forall₂_extrasOf {u : Universe} {decls : List (String × FieldDecl)}
    {entries : List (String × Extra)} (h : List.Forall₂ (IsGatheredAs u) decls entries)
    (className : String) :
    List.Forall₂ (fun decl e => IsGatheredAs u decl (className, e))
      (decls.filter (·.1 = className)) (Screen.extrasOf entries className) := by
  unfold Screen.extrasOf
  induction h with
  | nil => exact .nil
  | @cons decl entry decls entries head _ ih =>
    obtain ⟨owner, e⟩ := entry
    by_cases own : decl.1 = className
    · have same : owner = className := head.className.trans own
      subst same
      rw [List.filter_cons_of_pos (by simpa using own), List.filter_cons_of_pos (by simp),
        List.map_cons]
      exact .cons head ih
    · have other : ¬ owner = className := fun same => own (head.className.symm.trans same)
      rw [List.filter_cons_of_neg (by simpa using own), List.filter_cons_of_neg (by simpa using other)]
      exact ih

/-- The screens of a file are grouped from what its marked declarations become, in order. -/
theorem exists_entries_of_screens {d : Declarations} {screens : List Screen}
    (h : d.screens = .ok screens) :
    ∃ entries, List.Forall₂ (IsGatheredAs ⟨d.types⟩) (markedDecls d.classes) entries ∧
      Screen.group entries = screens := by
  obtain ⟨ms, scanned, gathered⟩ := screens_eq_ok_iff.1 h
  obtain ⟨entries, extras, grouped⟩ := gather_eq_ok_iff.1 gathered
  refine ⟨entries, forall₂_trans ?_ (scan_eq_ok_iff.1 scanned) extras, grouped⟩
  intro decl m entry
  exact isGatheredAs_of_isScannedAs

/-! ## The screens of a file -/

section

variable {u : Universe} {blocks : List ClassDecl} {entries : List (String × Extra)} {screen : Screen}

/-- A screen belongs to a class that some block declares. -/
theorem exists_block_of_mem_group
    (h : List.Forall₂ (IsGatheredAs u) (markedDecls blocks) entries)
    (hscreen : screen ∈ Screen.group entries) : ∃ c ∈ blocks, c.name = screen.className := by
  obtain ⟨entry, hentry, hname⟩ := List.mem_map.1 (Screen.eq_of_mem_group hscreen).1
  obtain ⟨decl, hdecl, gathered⟩ := Generation.exists_related_of_mem h.flip hentry
  obtain ⟨c, hc, f, -, -, rfl⟩ := mem_markedDecls.1 hdecl
  exact ⟨c, hc, gathered.className.symm.trans hname⟩

/-- An extra of a screen is a marked field of some block. -/
theorem exists_decl_of_mem_extras
    (h : List.Forall₂ (IsGatheredAs u) (markedDecls blocks) entries)
    (hscreen : screen ∈ Screen.group entries) {e : Extra} (he : e ∈ screen.extras) :
    ∃ decl ∈ markedDecls blocks, IsGatheredAs u decl (screen.className, e) := by
  rw [(Screen.eq_of_mem_group hscreen).2, Screen.mem_extrasOf] at he
  exact Generation.exists_related_of_mem h.flip he

end

end ScreenNav
