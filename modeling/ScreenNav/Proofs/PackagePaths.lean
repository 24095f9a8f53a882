import Mathlib.Computability.Language
import ScreenNav.PackageName
import ScreenNav.Path

/-!
# Packages and the places of their files

**Theorem (`package_path`).** A text names a package exactly if each of the pieces between its dots is a
component, and the file of a package has a place of its own: below the directory, through exactly the
components of the package.

**Names.** What names a package is written here a second time, as a regular language (`pattern`), with the
word characters left open. Each way of cutting such a text into components is the way of cutting it at its
dots, because no component has a dot; so the pieces of the text say whether it is in the language
(`mem_pattern_iff`).

**Places.** A component has no slash and is neither empty nor a dot, so as a path it is one relative
component, and the path of the file only grows (`outputPath_eq`). Going back, the components of a path are
found in its text, and the package in its components.
-/

namespace ScreenNav

open Computability Text

namespace PackageName

variable {word : Char → Bool}

/-! ## The pattern -/

/-- The texts of one character that has the property. -/
def single (p : Char → Prop) : Language Char := {text | ∃ c, text = [c] ∧ p c}

/-- A character that can start a component, and then any number that it can go on with. -/
def componentPattern (word : Char → Bool) : Language Char :=
  single (isStart · = true) * (single fun c => word c = true ∨ c = '$')∗

/-- A component, and then any number of components with a dot in front. -/
def pattern (word : Char → Bool) : Language Char :=
  componentPattern word * (single (· = '.') * componentPattern word)∗

/-- The text is a component of the name of a package, in an alphabet with the given word characters. -/
def IsComponent (word : Char → Bool) : List Char → Prop
  | [] => False
  | first :: rest => isStart first = true ∧ ∀ c ∈ rest, word c = true ∨ c = '$'

theorem mem_kstar_single {p : Char → Prop} {text : List Char} :
    text ∈ (single p)∗ ↔ ∀ c ∈ text, p c := by
  rw [Language.mem_kstar]
  constructor
  · rintro ⟨letters, rfl, single⟩ c hc
    obtain ⟨letter, hletter, hc⟩ := List.mem_flatten.1 hc
    obtain ⟨d, rfl, hd⟩ := single letter hletter
    exact List.mem_singleton.1 hc ▸ hd
  · intro h
    refine ⟨text.map fun c => [c], text.flatMap_singleton'.symm.trans List.flatMap_def, ?_⟩
    intro letter hletter
    obtain ⟨c, hc, rfl⟩ := List.mem_map.1 hletter
    exact ⟨c, rfl, h c hc⟩

theorem mem_componentPattern_iff {text : List Char} :
    text ∈ componentPattern word ↔ IsComponent word text := by
  rw [componentPattern, Language.mem_mul]
  constructor
  · rintro ⟨_, ⟨first, rfl, start⟩, rest, parts, rfl⟩
    exact ⟨start, mem_kstar_single.1 parts⟩
  · intro h
    cases text with
    | nil => exact h.elim
    | cons first rest => exact ⟨[first], ⟨first, rfl, h.1⟩, rest, mem_kstar_single.2 h.2, rfl⟩

/-- A component has no character that is neither part of a word nor a dollar sign. -/
theorem IsComponent.notMem {component : List Char} (h : IsComponent word component) {c : Char}
    (start : isStart c = false) (part : word c = false) (dollar : c ≠ '$') : c ∉ component := by
  cases component with
  | nil => exact h.elim
  | cons first rest =>
    obtain ⟨hfirst, hrest⟩ := h
    rw [List.mem_cons, not_or]
    constructor
    · rintro rfl
      exact absurd hfirst (by simp [start])
    · intro hc
      exact (hrest c hc).elim (by simp [part]) dollar

/-- Components with dots between them are the first of them and the others with a dot in front. -/
theorem join_cons (separator : Char) (piece : List Char) (pieces : List (List Char)) :
    join separator (piece :: pieces) = piece ++ (pieces.map (separator :: ·)).flatten := by
  induction pieces generalizing piece with
  | nil => simp [join]
  | cons next pieces ih =>
    rw [join, ih next, List.map_cons, List.flatten_cons, List.cons_append]
    exact List.cons_ne_nil _ _

theorem mem_dotted_iff {text : List Char} :
    text ∈ (single (· = '.') * componentPattern word)∗ ↔
      ∃ components : List (List Char), (∀ component ∈ components, IsComponent word component) ∧
        text = (components.map ('.' :: ·)).flatten := by
  rw [Language.mem_kstar]
  constructor
  · rintro ⟨dotted, rfl, each⟩
    refine ⟨dotted.map List.tail, ?_, congrArg List.flatten ?_⟩
    · rw [List.forall_mem_map]
      intro text htext
      obtain ⟨_, ⟨_, rfl, rfl⟩, component, hcomponent, rfl⟩ := Language.mem_mul.1 (each text htext)
      exact mem_componentPattern_iff.1 hcomponent
    · rw [List.map_map]
      refine ((List.map_congr_left fun text htext => ?_).trans (List.map_id' dotted)).symm
      obtain ⟨_, ⟨_, rfl, rfl⟩, component, -, rfl⟩ := Language.mem_mul.1 (each text htext)
      rfl
  · rintro ⟨components, each, rfl⟩
    refine ⟨_, rfl, List.forall_mem_map.2 fun component hcomponent => ?_⟩
    exact Language.mem_mul.2 ⟨['.'], ⟨'.', rfl, rfl⟩, component,
      mem_componentPattern_iff.2 (each component hcomponent), rfl⟩

/-- A text is in the language exactly if all pieces between its dots are components. -/
theorem mem_pattern_iff (dot : word '.' = false) {text : List Char} :
    text ∈ pattern word ↔ ∀ component ∈ split '.' text, IsComponent word component := by
  rw [pattern, Language.mem_mul]
  constructor
  · rintro ⟨first, hfirst, _, hrest, rfl⟩
    obtain ⟨components, hcomponents, rfl⟩ := mem_dotted_iff.1 hrest
    have each := List.forall_mem_cons.2 ⟨mem_componentPattern_iff.1 hfirst, hcomponents⟩
    have undotted : ∀ component ∈ first :: components, '.' ∉ component :=
      fun component hcomponent => (each component hcomponent).notMem (by decide) dot (by decide)
    rwa [← join_cons, split_join (List.cons_ne_nil _ _) undotted]
  · intro h
    obtain ⟨first, components, pieces⟩ := List.exists_cons_of_ne_nil (split_ne_nil '.' text)
    rw [pieces, List.forall_mem_cons] at h
    refine ⟨first, mem_componentPattern_iff.2 h.1, _, mem_dotted_iff.2 ⟨components, h.2, rfl⟩, ?_⟩
    rw [← join_cons, ← pieces, join_split]

/-- The test that reads a text once, at the start of a component and within it. -/
theorem continues_iff {text piece : List Char} {pieces : List (List Char)}
    (h : split '.' text = piece :: pieces) :
    (continues true text = true ↔
        IsComponent isWordCharacter piece ∧ ∀ next ∈ pieces, IsComponent isWordCharacter next) ∧
      (continues false text = true ↔ (∀ c ∈ piece, isPart c = true) ∧
        ∀ next ∈ pieces, IsComponent isWordCharacter next) := by
  have part (c : Char) : (isWordCharacter c = true ∨ c = '$') ↔ isPart c = true := by
    simp [isPart]
  induction text generalizing piece pieces with
  | nil =>
    obtain ⟨rfl, rfl⟩ := List.cons.inj h
    simp [continues, IsComponent]
  | cons c rest ih =>
    obtain ⟨first, others, rest_pieces⟩ := List.exists_cons_of_ne_nil (split_ne_nil '.' rest)
    obtain ⟨starting, within⟩ := ih rest_pieces
    by_cases dot : c = '.'
    · rw [split, if_pos dot, rest_pieces] at h
      obtain ⟨rfl, rfl⟩ := List.cons.inj h
      subst dot
      have start : isStart '.' = false := by decide
      simp [continues, IsComponent, start, starting]
    · rw [split, if_neg dot, rest_pieces, consFirst] at h
      obtain ⟨rfl, rfl⟩ := List.cons.inj h
      simp [continues, IsComponent, dot, within, part, and_assoc]

/-- The test accepts the language over the word characters of every script. -/
theorem isValid_iff_mem_pattern {package : String} :
    isValid package = true ↔ package.toList ∈ pattern isWordCharacter := by
  obtain ⟨piece, pieces, h⟩ := List.exists_cons_of_ne_nil (split_ne_nil '.' package.toList)
  rw [isValid, (continues_iff h).1, mem_pattern_iff (by decide +kernel), h, List.forall_mem_cons]

end PackageName

/-! ## Places -/

namespace Path

/-- Going from a directory to a path leads down through the given components, each of them a plain
name. -/
structure LeadsDown (directory path : Path) (down : List (List Char)) : Prop where
  root : path.root = directory.root
  components : path.components = directory.components ++ down
  proper : down ≠ []
  plain : ∀ component ∈ down, component ≠ [] ∧ component ≠ ['.'] ∧ component ≠ ['.', '.'] ∧
    '/' ∉ component

theorem ofChars_plain {name : List Char} (some_name : name ≠ []) (dot : name ≠ ['.'])
    (slash : '/' ∉ name) : ofChars name = ⟨.none, [name]⟩ := by
  have root : rootOf name = .none := by
    obtain ⟨c, rest, rfl⟩ := List.exists_cons_of_ne_nil some_name
    have first : c ≠ '/' := fun same => slash (same ▸ List.mem_cons_self ..)
    simp [rootOf, first]
  simp [ofChars, root, split_eq_singleton slash, isKept, some_name, dot]

theorem join_plain (path : Path) {names : List (List Char)}
    (h : ∀ name ∈ names, name ≠ [] ∧ name ≠ ['.'] ∧ '/' ∉ name) :
    path.join (names.map ofChars) = { path with components := path.components ++ names } := by
  induction names generalizing path with
  | nil => simp [join]
  | cons name names ih =>
    obtain ⟨⟨some_name, dot, slash⟩, tail⟩ := List.forall_mem_cons.1 h
    have step := ih (path.append (ofChars name)) tail
    rw [ofChars_plain some_name dot slash] at step
    rw [List.map_cons, ofChars_plain some_name dot slash]
    exact step.trans (by simp [append])

/-- The components of a path are found in its text, if there are any. -/
theorem components_eq_of_text_eq {p q : Path} (root : p.root = q.root) (hp : p.components ≠ [])
    (hq : q.components ≠ []) (slashes : ∀ component ∈ p.components, '/' ∉ component)
    (slashes' : ∀ component ∈ q.components, '/' ∉ component) (same : p.text = q.text) :
    p.components = q.components := by
  rw [text, text, if_neg (fun h => hp h.2), if_neg (fun h => hq h.2), root] at same
  have joined := List.append_cancel_left (String.ofList_injective same)
  have pieces := congrArg (split '/') joined
  rwa [split_join hp slashes, split_join hq slashes'] at pieces

namespace LeadsDown

variable {directory path : Path} {down : List (List Char)}

theorem components_ne_nil (h : directory.LeadsDown path down) : path.components ≠ [] := by
  rw [h.components]
  exact List.append_ne_nil_of_right_ne_nil _ h.proper

theorem slash_notMem {text : String} (h : (ofText text).LeadsDown path down) :
    ∀ component ∈ path.components, '/' ∉ component := by
  rw [h.components, List.forall_mem_append]
  exact ⟨fun _ component => not_mem_of_mem_split (List.mem_filter.1 component).1,
    fun component hcomponent => (h.plain component hcomponent).2.2.2⟩

end LeadsDown

end Path

open PackageName

variable {word : Char → Bool} {package : String}

/-- The name of the generated file. -/
def fileName : List Char := (Navigator.className ++ ".java").toList

theorem IsComponent.isPlain (dot : word '.' = false) (slash : word '/' = false)
    {component : List Char} (h : IsComponent word component) :
    component ≠ [] ∧ '.' ∉ component ∧ '/' ∉ component :=
  ⟨fun empty => by simp [empty, IsComponent] at h, h.notMem (by decide) dot (by decide),
    h.notMem (by decide) slash (by decide)⟩

/-- The place of a file is below the directory, through the components of the package. -/
theorem leadsDown_outputPath (dot : word '.' = false) (slash : word '/' = false)
    (valid : package.toList ∈ pattern word) (directory : String) :
    (Path.ofText directory).LeadsDown (outputPath directory package)
      (split '.' package.toList ++ [fileName]) := by
  have plain : ∀ name ∈ split '.' package.toList ++ [fileName],
      name ≠ [] ∧ name ≠ ['.'] ∧ name ≠ ['.', '.'] ∧ '/' ∉ name := by
    intro name hname
    rcases List.mem_append.1 hname with component | file
    · obtain ⟨some_name, undotted, unslashed⟩ :=
        IsComponent.isPlain dot slash ((mem_pattern_iff dot).1 valid name component)
      refine ⟨some_name, ?_, ?_, unslashed⟩ <;> rintro rfl <;> simp at undotted
    · rw [List.mem_singleton.1 file]
      decide
  have path : outputPath directory package = { Path.ofText directory with
      components := (Path.ofText directory).components ++ (split '.' package.toList ++ [fileName]) } := by
    rw [← Path.join_plain _ fun name hname => ⟨(plain name hname).1, (plain name hname).2.1,
      (plain name hname).2.2.2⟩, List.map_append]
    rfl
  exact ⟨by rw [path], by rw [path], by simp, plain⟩

/-- **Packages correspond to places below a directory.** Whatever the word characters are, as long as a
dot and a slash are none, the names of packages are the texts whose pieces between dots are components, and
different packages have files whose paths differ even in their texts. -/
theorem package_path :
    (∀ package, isValid package = true ↔ package.toList ∈ pattern isWordCharacter) ∧
    ∀ word : Char → Bool, word '.' = false → word '/' = false →
      (∀ package : String, package.toList ∈ pattern word ↔
        ∀ component ∈ split '.' package.toList, IsComponent word component) ∧
      ∀ (directory : String), (∀ package : String, package.toList ∈ pattern word →
          (Path.ofText directory).LeadsDown (outputPath directory package)
            (split '.' package.toList ++ [fileName])) ∧
        ∀ package package' : String, package.toList ∈ pattern word → package'.toList ∈ pattern word →
          (outputPath directory package).text = (outputPath directory package').text →
          package = package' := by
  refine ⟨fun package => isValid_iff_mem_pattern, fun word dot slash =>
    ⟨fun package => mem_pattern_iff dot, fun directory =>
      ⟨fun package valid => leadsDown_outputPath dot slash valid directory, ?_⟩⟩⟩
  intro package package' valid valid' same
  have down := leadsDown_outputPath dot slash valid directory
  have down' := leadsDown_outputPath dot slash valid' directory
  have components := Path.components_eq_of_text_eq (down.root.trans down'.root.symm)
    down.components_ne_nil down'.components_ne_nil down.slash_notMem down'.slash_notMem same
  rw [down.components, down'.components, List.append_right_inj, List.append_left_inj] at components
  rw [← String.toList_inj, ← join_split '.' package.toList, components, join_split]

/-- A package with a letter of another script and with dollar signs, below a directory above, and a package
in front of it. -/
theorem package_path_dollar :
    let inner := "com.größe.$1_$"
    let outer := "com.größe"
    let path := outputPath "..//src/." inner
    isWordCharacter '.' = false ∧ isWordCharacter '/' = false ∧
      inner.toList ∈ pattern isWordCharacter ∧ outer.toList ∈ pattern isWordCharacter ∧
      (Path.ofText "..//src/.").LeadsDown path (split '.' inner.toList ++ [fileName]) ∧
      path.text = "../src/com/größe/$1_$/Navigator.java" ∧
      path.text ≠ (outputPath "..//src/." outer).text := by
  intro inner outer path
  have dot : isWordCharacter '.' = false := by decide +kernel
  have slash : isWordCharacter '/' = false := by decide +kernel
  obtain ⟨accepts, places⟩ := package_path
  have accepted := (accepts inner).1 (by decide +kernel)
  have accepted' := (accepts outer).1 (by decide +kernel)
  obtain ⟨down, apart⟩ := (places isWordCharacter dot slash).2 "..//src/."
  refine ⟨dot, slash, accepted, accepted', down inner accepted, by decide +kernel, fun same => ?_⟩
  exact absurd (apart inner outer accepted accepted' same) (by decide)

end ScreenNav
