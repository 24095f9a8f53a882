import ScreenNav.Proofs.Printing
import ScreenNav.Proofs.Reading

/-!
# Declarations read from their tokens

The tokens of a printable construct lead the reading from the place where the construct may start to
the place where it has ended, and record the construct on the way. There is one such statement for
each construct of the grammar, from names up to whole files.

What has ended is not told by a place alone: a name, a type or an annotation may go on, so a place
behind it is one that treats the token that comes next as the end would. `InFront`, `InModifiers` and
`Behind` say this of the places in front of a field, among its modifiers, and behind a type.
-/

namespace ScreenNav

namespace Reader

variable {r : Reader} {done : Declarations} {block : ClassDecl} {head : FieldHead}
  {name : String}

theorem run_of_take {next final : Reader} {token : Token} {tokens : List Token}
    (h : r.take token = some next) (hrun : next.run tokens = some final) :
    r.run (token :: tokens) = some final := by
  rw [run_cons, h, Option.bind_some, hrun]

theorem run_of_run {next final : Reader} {first second : List Token}
    (h : r.run first = some next) (hrun : next.run second = some final) :
    r.run (first ++ second) = some final := by
  rw [run_append, h, Option.bind_some, hrun]

/-- Constructs that are read one after the other, where `reached` is the reading behind those before. -/
theorem run_flatMap {α : Type} {tokens : α → List Token} (reached : List α → Reader) {xs : List α}
    (h : ∀ x ∈ xs, ∀ before, (reached before).run (tokens x) = some (reached (before ++ [x])))
    (before : List α) :
    (reached before).run (xs.flatMap tokens) = some (reached (before ++ xs)) := by
  induction xs generalizing before with
  | nil => rw [List.flatMap_nil, run_nil, List.append_nil]
  | cons x xs ih =>
    obtain ⟨first, rest⟩ := List.forall_mem_cons.1 h
    rw [List.flatMap_cons, List.append_cons]
    exact run_of_run (first before) (ih rest (before ++ [x]))

@[simp] theorem separated_cons_cons (s : Symbol) (a b : List Token) (pieces : List (List Token)) :
    separated s (a :: b :: pieces) = a ++ .symbol s :: separated s (b :: pieces) := rfl

/-! ## Names -/

theorem ofWord_eq_name {word : String} (h : IsPlainWord word) : Token.ofWord word = .name word := by
  simp [Token.ofWord, h.2]

/-- The components of a name, put together again. -/
theorem foldl_components {first : String} {more : List String}
    (h : components name = first :: more) :
    more.foldl (fun name word => name ++ "." ++ word) first = name := by
  have joined : ∀ (more : List String) (first : String),
      (more.foldl (fun name word => name ++ "." ++ word) first).toList =
        ['.'].intercalate ((first :: more).map String.toList) := by
    intro more
    induction more with
    | nil => simp
    | cons word more ih =>
      intro first
      rw [List.foldl_cons, ih]
      cases more <;> simp [List.intercalate, List.intersperse]
  have pieces : name.toList.splitOn '.' = (first :: more).map String.toList := by
    rw [← h, components, List.map_map]
    simp
  apply String.ext
  rw [joined, ← pieces, List.intercalate_splitOn]

theorem run_words {use : NameUse} (first : String) (more : List String)
    (plain : ∀ word ∈ first :: more, IsPlainWord word) (before : Option String)
    (hr : ∀ word, r.take (.name word) = some ⟨done, .named use (withComponent before word)⟩) :
    r.run (separated .dot ((first :: more).map fun word => [.ofWord word])) =
      some ⟨done, .named use
        (more.foldl (fun name word => name ++ "." ++ word) (withComponent before first))⟩ := by
  induction more generalizing r first before with
  | nil =>
    have word := ofWord_eq_name (plain first (List.mem_cons_self ..))
    show r.run [.ofWord first] = _
    rw [word]
    exact run_of_take (hr first) rfl
  | cons next more ih =>
    obtain ⟨head, tail⟩ := List.forall_mem_cons.1 plain
    rw [List.map_cons, List.map_cons, separated_cons_cons, ofWord_eq_name head]
    refine run_of_take (hr first) (run_of_take rfl ?_)
    exact ih next tail (some (withComponent before first)) fun word => rfl

/-- A name is read wherever its first word is read as the start of it. -/
theorem run_nameTokens {use : NameUse} (h : IsPlainName name)
    (hr : ∀ word, r.take (.name word) = some ⟨done, .named use word⟩) :
    r.run (nameTokens name) = some ⟨done, .named use name⟩ := by
  cases hwords : components name with
  | nil =>
    exact absurd (List.map_eq_nil_iff.1 hwords) (List.splitOn_ne_nil '.' name.toList)
  | cons first more =>
    have run := run_words first more (fun word hword => h word (hwords ▸ hword)) none hr
    rw [nameTokens, hwords, run, withComponent, foldl_components hwords]

/-! ## Values -/

variable {token : Token} {value : Value}

theorem literal_cases (h : token.literal? = some value) :
    token = .keyword .isTrue ∧ value = .bool true ∨ token = .keyword .isFalse ∧ value = .bool false ∨
      (∃ literal, token = .number literal ∧ value = .ofNumber literal) ∨
        ∃ content, token = .string content ∧ value = .string content := by
  cases token with
  | keyword k => cases k <;> simp_all [Token.literal?]
  | name word => simp [Token.literal?] at h
  | symbol s => simp [Token.literal?] at h
  | number literal => simp_all [Token.literal?]
  | string content => simp_all [Token.literal?]

theorem take_optionValue (h : token.literal? = some value) (done : Declarations) (name : String) :
    take ⟨done, .optionValue name⟩ token = some ⟨withOption done name value, .optionEnd⟩ := by
  rcases literal_cases h with ⟨rfl, rfl⟩ | ⟨rfl, rfl⟩ | ⟨literal, rfl, rfl⟩ | ⟨content, rfl, rfl⟩ <;>
    rfl

theorem run_option {o : OptionDecl} (h : o.IsPrintable) (done : Declarations) :
    run ⟨done, .optionStart⟩ o.tokens = some ⟨withOption done o.name o.value, .optionStart⟩ := by
  have value := take_optionValue (isReadable_value h.value).2 done o.name
  rw [OptionDecl.tokens, ofWord_eq_name h.name]
  exact run_of_take rfl (run_of_take rfl (run_of_take value rfl))

theorem run_options {options : List OptionDecl} (h : ∀ o ∈ options, o.IsPrintable)
    (done : Declarations) :
    run ⟨done, .optionStart⟩ (options.flatMap OptionDecl.tokens) =
      some ⟨{ done with options := done.options ++ options }, .optionStart⟩ :=
  run_flatMap (fun before => ⟨{ done with options := before }, .optionStart⟩)
    (fun o ho _ => run_option (h o ho) _) done.options

/-! ## Types -/

/-- Several names with commas between them, where `use` says what each of them is read for: it holds
the names before. -/
theorem run_names {use : List String → NameUse} {names : List String}
    (plain : ∀ name ∈ names, IsPlainName name) (some_name : names ≠ [])
    (comma : ∀ before name, take ⟨done, .named (use before) name⟩ (.symbol .comma) =
      some ⟨done, .component (use (before ++ [name])) none⟩) (before : List String) :
    ∃ init last, names = init ++ [last] ∧
      run ⟨done, .component (use before) none⟩ (separated .comma (names.map nameTokens)) =
        some ⟨done, .named (use (before ++ init)) last⟩ := by
  induction names generalizing before with
  | nil => exact absurd rfl some_name
  | cons name names ih =>
    obtain ⟨head, tail⟩ := List.forall_mem_cons.1 plain
    have first : run ⟨done, .component (use before) none⟩ (nameTokens name) =
        some ⟨done, .named (use before) name⟩ := run_nameTokens head fun word => rfl
    cases names with
    | nil => exact ⟨[], name, rfl, by simpa [separated] using first⟩
    | cons next names =>
      obtain ⟨init, last, hnames, hrun⟩ := ih tail (by simp) (before ++ [name])
      refine ⟨name :: init, last, by rw [hnames, List.cons_append], ?_⟩
      rw [List.map_cons, List.map_cons, separated_cons_cons]
      refine run_of_run first (run_of_take (comma before name) ?_)
      rw [List.map_cons] at hrun
      rw [hrun, List.append_assoc]
      rfl

theorem run_clause (use : List String → NameUse) {k : Keyword} {names : List String}
    (plain : ∀ name ∈ names, IsPlainName name)
    (start : r.take (.keyword k) = some ⟨done, .component (use []) none⟩)
    (comma : ∀ before name, take ⟨done, .named (use before) name⟩ (.symbol .comma) =
      some ⟨done, .component (use (before ++ [name])) none⟩) :
    names = [] ∧ r.run (clause k names) = some r ∨
      ∃ init last, names = init ++ [last] ∧
        r.run (clause k names) = some ⟨done, .named (use init) last⟩ := by
  by_cases none : names = []
  · exact .inl ⟨none, by rw [clause, if_pos none, run_nil]⟩
  · obtain ⟨init, last, hnames, hrun⟩ := run_names plain none comma []
    refine .inr ⟨init, last, hnames, ?_⟩
    rw [clause, if_neg none]
    exact run_of_take start hrun

theorem run_type {d : TypeDecl} (h : d.IsPrintable) (done : Declarations) :
    run ⟨done, .item⟩ d.tokens = some ⟨withType done d, .item⟩ := by
  obtain ⟨name, parents, interfaces⟩ := d
  have named : run ⟨done, .component .declaredType none⟩ (nameTokens name) =
      some ⟨done, .named .declaredType name⟩ := run_nameTokens h.name fun word => rfl
  obtain ⟨extended, hextended, implementing, complete⟩ : ∃ extended,
      run ⟨done, .named .declaredType name⟩ (clause .extending parents) = some extended ∧
        extended.take (.keyword .implementing) =
          some ⟨done, .component (.interface ⟨name, parents, []⟩) none⟩ ∧
        extended.take (.symbol .semicolon) = some ⟨withType done ⟨name, parents, []⟩, .item⟩ := by
    have start : take ⟨done, .named .declaredType name⟩ (.keyword .extending) =
      some ⟨done, .component (.parent ⟨name, [], []⟩) none⟩ := rfl
    rcases run_clause (fun before => .parent ⟨name, before, []⟩) h.parents start
      fun _ _ => rfl with ⟨rfl, hrun⟩ | ⟨init, last, rfl, hrun⟩
    · exact ⟨_, hrun, rfl, rfl⟩
    · exact ⟨_, hrun, rfl, rfl⟩
  obtain ⟨implemented, himplemented, complete⟩ : ∃ implemented,
      extended.run (clause .implementing interfaces) = some implemented ∧
        implemented.take (.symbol .semicolon) =
          some ⟨withType done ⟨name, parents, interfaces⟩, .item⟩ := by
    rcases run_clause (fun before => .interface ⟨name, parents, before⟩) h.interfaces implementing
      fun _ _ => rfl with ⟨rfl, hrun⟩ | ⟨init, last, rfl, hrun⟩
    · exact ⟨_, hrun, complete⟩
    · exact ⟨_, hrun, rfl⟩
  have steps := run_of_run (run_of_run (run_of_run named hextended) himplemented)
    (run_of_take complete (run_nil _))
  exact run_of_take rfl steps

theorem run_types {types : List TypeDecl} (h : ∀ d ∈ types, d.IsPrintable) (done : Declarations) :
    run ⟨done, .item⟩ (types.flatMap TypeDecl.tokens) =
      some ⟨{ done with types := done.types ++ types }, .item⟩ :=
  run_flatMap (fun before => ⟨{ done with types := before }, .item⟩)
    (fun d hd _ => run_type (h d hd) _) done.types

/-! ## Annotations -/

/-- In front of a field whose annotations and modifiers so far are these, as far as the token that
comes next can tell. -/
def InFront (done : Declarations) (block : ClassDecl) (head : FieldHead) (r : Reader) : Prop :=
  ∀ token, (Place.annotated block head).asksFor token.kind = true →
    r.take token = inFieldHead done block head token

theorem inFront_classBody (done : Declarations) (block : ClassDecl) :
    InFront done block .empty ⟨done, .classBody block⟩ := by
  intro token asked
  cases token with
  | keyword k => cases k <;> rfl
  | symbol s => cases s <;> first | rfl | exact absurd asked Bool.false_ne_true
  | name word => rfl
  | number literal => exact absurd asked Bool.false_ne_true
  | string content => exact absurd asked Bool.false_ne_true

theorem inFront_named (done : Declarations) (block : ClassDecl) (head : FieldHead) (name : String) :
    InFront done block (annotate head ⟨name, []⟩) ⟨done, .named (.annotationName block head) name⟩ := by
  intro token asked
  cases token with
  | keyword k => cases k <;> rfl
  | symbol s => cases s <;> first | rfl | exact absurd asked Bool.false_ne_true
  | name word => rfl
  | number literal => exact absurd asked Bool.false_ne_true
  | string content => exact absurd asked Bool.false_ne_true

theorem inFront_annotated (done : Declarations) (block : ClassDecl) (head : FieldHead) :
    InFront done block head ⟨done, .annotated block head⟩ :=
  fun _ asked => if_pos asked

/-- Where an argument of the annotation starts. -/
def AtArgument (done : Declarations) (block : ClassDecl) (head : FieldHead) (note : Annotation)
    (r : Reader) : Prop :=
  ∀ token, token.kind.startsValue = true → r.take token = atArgument done block head note token

theorem atArgument_start (done : Declarations) (block : ClassDecl) (head : FieldHead)
    (note : Annotation) :
    AtArgument done block head note ⟨done, .argumentStart block head note⟩ :=
  fun _ asked => if_pos asked

theorem atArgument_open (done : Declarations) (block : ClassDecl) (head : FieldHead)
    (note : Annotation) :
    AtArgument done block head note ⟨done, .argumentsOpen block head note⟩ := by
  intro token asked
  cases token with
  | keyword k => cases k <;> rfl
  | symbol s => exact absurd asked Bool.false_ne_true
  | name word => rfl
  | number literal => rfl
  | string content => rfl

theorem take_argumentValue (h : token.literal? = some value) (done : Declarations)
    (block : ClassDecl) (head : FieldHead) (note : Annotation) (name : String) :
    take ⟨done, .argumentValue block head note name⟩ token =
      some ⟨done, .argumentEnd block head (withArgument note (some name) value)⟩ := by
  rcases literal_cases h with ⟨rfl, rfl⟩ | ⟨rfl, rfl⟩ | ⟨literal, rfl, rfl⟩ | ⟨content, rfl, rfl⟩ <;>
    rfl

theorem AtArgument.take_literal {note : Annotation} (hr : AtArgument done block head note r)
    (h : token.literal? = some value) :
    r.take token = some ⟨done, .argumentEnd block head (withArgument note none value)⟩ := by
  rcases literal_cases h with ⟨rfl, rfl⟩ | ⟨rfl, rfl⟩ | ⟨literal, rfl, rfl⟩ | ⟨content, rfl, rfl⟩ <;>
    exact hr _ rfl

theorem run_argument {a : Argument} {note : Annotation} (h : a.IsPrintable)
    (hr : AtArgument done block head note r) :
    r.run a.tokens = some ⟨done, .argumentEnd block head (withArgument note a.name a.value)⟩ := by
  have literal := (isReadable_value h.value).2
  obtain ⟨name, value⟩ := a
  cases name with
  | none => exact run_of_take (hr.take_literal literal) rfl
  | some name =>
    have word := ofWord_eq_name (h.name name rfl)
    have named : r.take (.name name) = some ⟨done, .argumentWord block head note name⟩ := hr _ rfl
    show r.run (.ofWord name :: .symbol .equals :: [value.token]) = _
    rw [word]
    exact run_of_take named (run_of_take rfl
      (run_of_take (take_argumentValue literal done block head note name) rfl))

theorem run_arguments {arguments : List Argument} {note : Annotation}
    (h : ∀ a ∈ arguments, a.IsPrintable) (some_argument : arguments ≠ [])
    (hr : AtArgument done block head note r) :
    r.run (separated .comma (arguments.map Argument.tokens)) =
      some ⟨done, .argumentEnd block head
        { note with arguments := note.arguments ++ arguments }⟩ := by
  induction arguments generalizing note r with
  | nil => exact absurd rfl some_argument
  | cons a arguments ih =>
    obtain ⟨first, rest⟩ := List.forall_mem_cons.1 h
    have run := run_argument first hr
    cases arguments with
    | nil => exact run
    | cons next arguments =>
      have later := ih rest (by simp)
        (atArgument_start done block head (withArgument note a.name a.value))
      rw [List.map_cons, List.map_cons, separated_cons_cons]
      refine run_of_run run (run_of_take rfl (later.trans ?_))
      simp [withArgument]

theorem run_annotation {note : Annotation} (parens : Bool) (h : note.IsPrintable)
    (hr : InFront done block head r) :
    ∃ next, r.run (note.tokens parens) = some next ∧ InFront done block (annotate head note) next := by
  obtain ⟨name, arguments⟩ := note
  have opened : r.take (.symbol .atSign) = some ⟨done, .component (.annotationName block head) none⟩ :=
    hr _ rfl
  have named : run ⟨done, .component (.annotationName block head) none⟩ (nameTokens name) =
      some ⟨done, .named (.annotationName block head) name⟩ := run_nameTokens h.name fun word => rfl
  unfold Annotation.tokens
  split
  · rename_i bare
    obtain ⟨rfl, -⟩ := bare
    exact ⟨_, run_of_run (run_of_take opened named) rfl, inFront_named done block head name⟩
  · by_cases none : arguments = []
    · subst none
      exact ⟨_, run_of_run (run_of_take opened named) rfl, inFront_annotated done block _⟩
    · have run := run_arguments h.arguments none (atArgument_open done block head ⟨name, []⟩)
      have closed : Reader.run ⟨done, .argumentEnd block head ⟨name, arguments⟩⟩
        [.symbol .closeParen] = some ⟨done, .annotated block (annotate head ⟨name, arguments⟩)⟩ := rfl
      exact ⟨_, run_of_run (run_of_take opened named) (run_of_take rfl (run_of_run run closed)),
        inFront_annotated done block _⟩

theorem run_annotations {notes : List Annotation} (parens : Bool)
    (h : ∀ note ∈ notes, note.IsPrintable) (hr : InFront done block head r) :
    ∃ next, r.run (notes.flatMap fun note => note.tokens parens) = some next ∧
      InFront done block { head with annotations := head.annotations ++ notes } next := by
  induction notes generalizing head r with
  | nil => exact ⟨r, rfl, by simpa using hr⟩
  | cons note notes ih =>
    obtain ⟨first, rest⟩ := List.forall_mem_cons.1 h
    obtain ⟨behind, hbehind, front⟩ := run_annotation parens first hr
    obtain ⟨next, hnext, final⟩ := ih rest front
    refine ⟨next, run_of_run hbehind hnext, ?_⟩
    simpa [annotate] using final

/-! ## Modifiers -/

/-- Among the modifiers of a field, as far as the token that comes next can tell. -/
def InModifiers (done : Declarations) (block : ClassDecl) (head : FieldHead) (r : Reader) : Prop :=
  ∀ token, (Place.modified block head).asksFor token.kind = true →
    r.take token = afterModifier done block head token

theorem InFront.inModifiers (hr : InFront done block head r) : InModifiers done block head r := by
  intro token asked
  cases token with
  | keyword k => cases k <;> first | exact hr _ rfl | exact absurd asked Bool.false_ne_true
  | name word => exact hr _ rfl
  | symbol s => cases s <;> exact absurd asked Bool.false_ne_true
  | number literal => exact absurd asked Bool.false_ne_true
  | string content => exact absurd asked Bool.false_ne_true

theorem inModifiers_modified (done : Declarations) (block : ClassDecl) (head : FieldHead) :
    InModifiers done block head ⟨done, .modified block head⟩ :=
  fun _ asked => if_pos asked

theorem run_modifiers {modifiers : List String} (h : ∀ m ∈ modifiers, m ∈ modifierNames)
    (hr : InModifiers done block head r) :
    ∃ next, r.run (modifiers.map .ofWord) = some next ∧
      InModifiers done block { head with modifiers := head.modifiers ++ modifiers } next := by
  induction modifiers generalizing head r with
  | nil => exact ⟨r, rfl, by simpa using hr⟩
  | cons m modifiers ih =>
    obtain ⟨first, rest⟩ := List.forall_mem_cons.1 h
    obtain ⟨k, modifier, rfl⟩ := exists_modifier first
    have word : Token.ofWord k.spelling = .keyword k := by
      rw [Token.ofWord, Keyword.ofSpelling?_spelling]
    have taken : r.take (.keyword k) = some ⟨done, .modified block (withModifier head k)⟩ := by
      rw [hr (.keyword k) modifier]
      exact if_pos modifier
    obtain ⟨next, hnext, final⟩ := ih rest (inModifiers_modified done block (withModifier head k))
    rw [List.map_cons, word]
    refine ⟨next, run_of_take taken hnext, ?_⟩
    simpa [withModifier] using final

/-! ## Types of fields -/

variable {outer : OpenTypes}

/-- Behind a type inside the given open types, as far as the token that comes next can tell. -/
def Behind (done : Declarations) (block : ClassDecl) (head : FieldHead) (outer : OpenTypes)
    (type : TypeRef) (r : Reader) : Prop :=
  ∀ token, (Place.typed block head outer type).asksFor token.kind = true →
    r.take token = afterType done block head outer type token

theorem behind_typed (done : Declarations) (block : ClassDecl) (head : FieldHead)
    (outer : OpenTypes) (type : TypeRef) :
    Behind done block head outer type ⟨done, .typed block head outer type⟩ :=
  fun _ asked => if_pos asked

theorem behind_named (done : Declarations) (block : ClassDecl) (head : FieldHead)
    (outer : OpenTypes) (name : String) :
    Behind done block head outer (.mk name [] 0) ⟨done, .named (.fieldType block head outer) name⟩ := by
  intro token asked
  cases token with
  | keyword k => cases k <;> rfl
  | name word => rfl
  | symbol s => cases s <;> first | rfl | exact absurd asked Bool.false_ne_true
  | number literal => exact absurd asked Bool.false_ne_true
  | string content => exact absurd asked Bool.false_ne_true

/-- Wherever a name would start a type, the tokens of this type lead behind it. -/
def IsReadAsType (done : Declarations) (block : ClassDecl) (head : FieldHead) (type : TypeRef) :
    Prop :=
  ∀ (r : Reader) (outer : OpenTypes),
    (∀ word, r.take (.name word) = some ⟨done, .named (.fieldType block head outer) word⟩) →
      ∃ next, r.run type.tokens = some next ∧ Behind done block head outer type next

theorem run_typeArguments (name : String) (outer : OpenTypes) {args : List TypeRef}
    (h : ∀ arg ∈ args, IsReadAsType done block head arg) (some_argument : args ≠ [])
    (before : List TypeRef) :
    run ⟨done, .component (.fieldType block head ((name, before) :: outer)) none⟩
        (separated .comma (args.map TypeRef.tokens) ++ [.symbol .closeAngle]) =
      some ⟨done, .typed block head outer (.mk name (before ++ args) 0)⟩ := by
  induction args generalizing before with
  | nil => exact absurd rfl some_argument
  | cons arg args ih =>
    obtain ⟨first, rest⟩ := List.forall_mem_cons.1 h
    obtain ⟨next, hnext, behind⟩ := first
      ⟨done, .component (.fieldType block head ((name, before) :: outer)) none⟩
      ((name, before) :: outer) fun word => rfl
    cases args with
    | nil => exact run_of_run hnext (run_of_take (behind (.symbol .closeAngle) rfl) rfl)
    | cons arg' args =>
      rw [List.map_cons, List.map_cons, separated_cons_cons, List.append_assoc]
      refine run_of_run hnext (run_of_take (behind (.symbol .comma) rfl) ?_)
      simpa using ih rest (by simp) (before ++ [arg])

theorem run_dimensions {args : List TypeRef} {dims : Nat} (more : Nat)
    (hr : Behind done block head outer (.mk name args dims) r) :
    ∃ next, r.run (List.replicate more [.symbol .openSquare, .symbol .closeSquare]).flatten =
      some next ∧ Behind done block head outer (.mk name args (dims + more)) next := by
  induction more generalizing dims r with
  | zero => exact ⟨r, rfl, hr⟩
  | succ more ih =>
    have pair : r.run [.symbol .openSquare, .symbol .closeSquare] =
        some ⟨done, .typed block head outer (.mk name args (dims + 1))⟩ :=
      run_of_take (hr (.symbol .openSquare) rfl) rfl
    obtain ⟨next, hnext, behind⟩ := ih (behind_typed done block head outer (.mk name args (dims + 1)))
    rw [Nat.add_right_comm] at behind
    exact ⟨next, run_of_run pair hnext, behind⟩

theorem isReadAsType {type : TypeRef} (h : type.IsPrintable) : IsReadAsType done block head type := by
  induction h with
  | @mk name args dims hname _ ih =>
    intro r outer hr
    have named := run_nameTokens hname hr
    rw [TypeRef.tokens, TypeRef.tokensAll_eq_map]
    obtain ⟨base, hbase, behind⟩ : ∃ base, r.run (nameTokens name ++ if args.isEmpty then [] else
        .symbol .openAngle :: separated .comma (args.map TypeRef.tokens) ++ [.symbol .closeAngle]) =
          some base ∧ Behind done block head outer (.mk name args 0) base := by
      by_cases none : args = []
      · subst none
        exact ⟨_, run_of_run named rfl, behind_named done block head outer name⟩
      · rw [if_neg (by simpa using none)]
        have arguments := run_typeArguments name outer ih none []
        exact ⟨_, run_of_run named (run_of_take rfl arguments), behind_typed done block head outer _⟩
    obtain ⟨next, hnext, final⟩ := run_dimensions dims behind
    rw [Nat.zero_add] at final
    exact ⟨next, run_of_run hbase hnext, final⟩

/-! ## Fields and classes -/

theorem Behind.take_fieldName {type : TypeRef} (hr : Behind done block head [] type r)
    (h : IsPlainWord name ∨ name = "type" ∨ name = "options") :
    r.take (.ofWord name) = some ⟨done, .fieldNamed block (head.field type name)⟩ := by
  rcases h with plain | rfl | rfl
  · rw [ofWord_eq_name plain]
    exact hr (.name name) rfl
  · exact hr (.keyword .typeDecl) rfl
  · exact hr (.keyword .optionsBlock) rfl

theorem run_field {f : FieldDecl} (parens : Bool) (h : f.IsPrintable) (done : Declarations)
    (block : ClassDecl) :
    run ⟨done, .classBody block⟩ (f.tokens parens) = some ⟨done, .classBody (withField block f)⟩ := by
  obtain ⟨annotated, hannotated, front⟩ :=
    run_annotations parens h.annotations (inFront_classBody done block)
  obtain ⟨modified, hmodified, among⟩ := run_modifiers h.modifiers front.inModifiers
  obtain ⟨typed, htyped, behind⟩ := isReadAsType h.type modified [] fun word => among (.name word) rfl
  exact run_of_run (run_of_run (run_of_run hannotated hmodified) htyped)
    (run_of_take (behind.take_fieldName h.name) rfl)

theorem run_fields {fields : List FieldDecl} (parens : Bool) (h : ∀ f ∈ fields, f.IsPrintable)
    (done : Declarations) (block : ClassDecl) :
    run ⟨done, .classBody block⟩ (fields.flatMap (FieldDecl.tokens parens)) =
      some ⟨done, .classBody { block with fields := block.fields ++ fields }⟩ :=
  run_flatMap (fun before => ⟨done, .classBody { block with fields := before }⟩)
    (fun f hf _ => run_field parens (h f hf) done _) block.fields

theorem run_class {c : ClassDecl} (parens : Bool) (h : c.IsPrintable) (done : Declarations) :
    run ⟨done, .item⟩ (c.tokens parens) = some ⟨withClass done c, .item⟩ := by
  have named : run ⟨done, .component .className none⟩ (nameTokens c.name) =
      some ⟨done, .named .className c.name⟩ := run_nameTokens h.name fun word => rfl
  have fields := run_fields parens h.fields done ⟨c.name, []⟩
  exact run_of_take rfl (run_of_run (run_of_run named (run_of_take rfl fields)) rfl)

theorem run_classes {classes : List ClassDecl} (parens : Bool) (h : ∀ c ∈ classes, c.IsPrintable)
    (done : Declarations) :
    run ⟨done, .item⟩ (classes.flatMap (ClassDecl.tokens parens)) =
      some ⟨{ done with classes := done.classes ++ classes }, .item⟩ :=
  run_flatMap (fun before => ⟨{ done with classes := before }, .item⟩)
    (fun c hc _ => run_class parens (h c hc) _) done.classes

/-! ## Files -/

/-- The tokens of printable declarations are read as these declarations. -/
theorem run_tokens {d : Declarations} (parens : Bool) (h : d.IsPrintable) :
    start.run (d.tokens parens) = some ⟨d, .item⟩ := by
  have options := run_options h.options .empty
  have types := run_types h.types { Declarations.empty with options := d.options }
  have classes := run_classes parens h.classes { d with classes := [] }
  refine run_of_run (run_of_run (run_of_take rfl (run_of_take rfl options)) ?_) classes
  exact run_of_take rfl types

end Reader

end ScreenNav
