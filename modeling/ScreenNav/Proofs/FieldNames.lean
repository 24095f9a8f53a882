import Mathlib.Data.List.Basic
import ScreenNav.Proofs.DeclaredNames
import ScreenNav.Proofs.Grammar
import ScreenNav.Proofs.Words

/-!
# The names of fields

**Theorem (`accepts_alike_iff`).** Whether a word can be the name of a field is the same behind any two
types, except for the ten words that are keywords between declarations and in front of fields: these can
be names behind a type with arguments or dimensions, but not behind a bare name.

The grammar makes no such difference. It comes from the places where the reading stands. A bare name could
be one of any use, so behind it nearly every keyword is asked for, since another use goes on with it; and
then a word is read as that keyword, which no name of a field can be. Behind `]` or `>` only a type has
ended, and no keyword is asked for but the two that are allowed as names.
-/

namespace ScreenNav

open Lexeme

/-! ## Files of one field -/

/-- The type is written as a name alone, without arguments and dimensions. -/
def TypeRef.isBare : TypeRef → Bool
  | .mk _ [] 0 => true
  | _ => false

/-- The first component of the type's name is no keyword. -/
def TypeRef.LeadsWithName (type : TypeRef) : Prop :=
  ∀ word ∈ (components type.name).head?, Keyword.ofSpelling? word = none

instance (type : TypeRef) : Decidable type.LeadsWithName :=
  inferInstanceAs (Decidable (∀ word ∈ (components type.name).head?, Keyword.ofSpelling? word = none))

/-- The words that are keywords between declarations and in front of fields. -/
def declarationWords : List String :=
  ["class", "extends", "implements", "public", "protected", "private", "static", "final",
    "transient", "volatile"]

/-- The text is a file of one class, and the body of the class is one field with the given type and name.
The name of the class need not stand apart from the word in front of it. -/
inductive IsFieldFile (className : String) (type : TypeRef) (name text : String) : Prop
  | mk {front rest : List Char} {named typed : List Token} : IsLayout front →
      IsName className named → IsTypeRef type typed →
      IsLaidOut (named ++ .symbol .openBrace :: typed ++
        [.name name, .symbol .semicolon, .symbol .closeBrace]) rest →
      text.toList = front ++ (Keyword.classDecl.spelling.toList ++ rest) →
      IsFieldFile className type name text

/-- The declarations of such a file. -/
def fieldFile (className : String) (type : TypeRef) (name : String) : Declarations :=
  ⟨[], [], [⟨className, [⟨name, type, [], []⟩]⟩]⟩

variable {tokens : List Token} {name : String} {type : TypeRef}

/-! ## Heads -/

theorem IsLaidOut.areLexemes {text : List Char} (h : IsLaidOut tokens text) : AreLexemes tokens := by
  induction tokens generalizing text with
  | nil => exact fun _ h => absurd h List.not_mem_nil
  | cons token tokens ih =>
    obtain ⟨gap, rest, rfl, -, stands, hrest⟩ := h
    refine areLexemes_cons.2 ⟨?_, ih hrest⟩
    obtain ⟨word, rfl, identifier, -⟩ | ⟨s, rfl⟩ := stands.word_or_symbol
    · exact identifier
    · trivial

/-- A name is written with its first component in front. -/
theorem IsName.exists_head (h : IsName name tokens) (lexemes : AreLexemes tokens) :
    ∃ word more, tokens = .name word :: more ∧ (components name).head? = some word := by
  induction h with
  | @word word =>
    have identifier : IsIdentifier word := lexemes _ (List.mem_singleton_self _)
    exact ⟨word, [], rfl, by rw [components_word identifier, List.head?_cons]⟩
  | dotted _ ih =>
    obtain ⟨word, more, rfl, first⟩ := ih (areLexemes_append.1 lexemes).1
    refine ⟨word, more ++ [.symbol .dot, .name _], rfl, ?_⟩
    rw [components_append, List.head?_append, first, Option.some_or]

/-- So is a type, whose name stands in front of arguments and dimensions. -/
theorem IsTypeRef.exists_head (h : IsTypeRef type tokens) (lexemes : AreLexemes tokens) :
    ∃ word more, tokens = .name word :: more ∧ (components type.name).head? = some word := by
  obtain ⟨name, args, dims⟩ := type
  induction dims generalizing tokens with
  | zero =>
    cases h with
    | name hname => exact hname.exists_head lexemes
    | arguments hname _ =>
      rw [List.append_assoc] at lexemes ⊢
      obtain ⟨word, more, rfl, first⟩ := hname.exists_head (areLexemes_append.1 lexemes).1
      exact ⟨word, _, rfl, first⟩
  | succ dims ih =>
    cases h with
    | dimension typed =>
      obtain ⟨word, more, rfl, first⟩ := ih (areLexemes_append.1 lexemes).1 typed
      exact ⟨word, _, rfl, first⟩

theorem IsName.ne_nil (h : IsName name tokens) : tokens ≠ [] := by
  cases h <;> simp

theorem IsTypeRef.ne_nil (h : IsTypeRef type tokens) : tokens ≠ [] := by
  cases h with
  | name hname => exact hname.ne_nil
  | arguments => simp
  | dimension => simp

namespace TypeRef

theorem eq_of_isBare (h : type.isBare = true) : type = .mk type.name [] 0 := by
  unfold isBare at h
  split at h
  · rfl
  · exact absurd h Bool.false_ne_true

theorem isBare_arguments {args : List TypeRef} (some_argument : args ≠ []) (name : String) (dims : Nat) :
    (TypeRef.mk name args dims).isBare = false := by
  cases args with
  | nil => exact absurd rfl some_argument
  | cons arg args => rfl

theorem isBare_dimension (name : String) (args : List TypeRef) (dims : Nat) :
    (TypeRef.mk name args (dims + 1)).isBare = false := by
  cases args <;> rfl

end TypeRef

namespace Reader

variable {r : Reader} {done : Declarations} {block : ClassDecl} {head : FieldHead}
  {outer : OpenTypes}

/-! ## Names -/

/-- The first word of these is read as the start of a name that is used like this. -/
def Starts (r : Reader) (done : Declarations) (use : NameUse) (tokens : List Token) : Prop :=
  ∀ word, tokens.head? = some (.name word) →
    r.take (r.place.reading (.name word)) = some ⟨done, .named use word⟩

theorem starts_component (done : Declarations) (use : NameUse) (tokens : List Token) :
    Starts ⟨done, .component use none⟩ done use tokens := by
  intro word _
  show take _ (Place.reading (.component use none) _) = _
  rw [Place.reading_component]
  rfl

theorem Starts.of_append {use : NameUse} {first second : List Token} (some_token : first ≠ [])
    (h : r.Starts done use (first ++ second)) : r.Starts done use first := by
  intro word hword
  refine h word ?_
  rw [List.head?_append_of_ne_nil _ some_token, hword]

theorem follow_isName {use : NameUse} (h : IsName name tokens) (starts : r.Starts done use tokens) :
    r.follow tokens = some ⟨done, .named use name⟩ := by
  induction h with
  | word => exact follow_of_take (starts _ rfl) rfl
  | @dotted name word tokens before ih =>
    have dot : take ⟨done, .named use name⟩ (.symbol .dot) = some ⟨done, .component use (some name)⟩ :=
      rfl
    have last : take ⟨done, .component use (some name)⟩
        (Place.reading (.component use (some name)) (.name word)) =
          some ⟨done, .named use (name ++ "." ++ word)⟩ := by
      rw [Place.reading_component]
      rfl
    exact follow_of_follow (ih (starts.of_append before.ne_nil))
      (follow_of_take dot (follow_of_take last rfl))

/-! ## Types -/

/-- Behind a type. What is asked for there depends on how the type is written. -/
def behindType (done : Declarations) (block : ClassDecl) (head : FieldHead) (outer : OpenTypes)
    (type : TypeRef) : Reader :=
  ⟨done, if type.isBare then .named (.fieldType block head outer) type.name
    else .typed block head outer type⟩

theorem behindType_of_isBare (h : type.isBare = true) : behindType done block head outer type =
    ⟨done, .named (.fieldType block head outer) type.name⟩ := by
  rw [behindType, if_pos h]

theorem behindType_of_not_isBare (h : type.isBare = false) :
    behindType done block head outer type = ⟨done, .typed block head outer type⟩ := by
  rw [behindType, if_neg (ne_true_of_eq_false h)]

theorem behind_behindType (done : Declarations) (block : ClassDecl) (head : FieldHead)
    (outer : OpenTypes) (type : TypeRef) :
    Behind done block head outer type (behindType done block head outer type) := by
  cases bare : type.isBare with
  | false =>
    rw [behindType_of_not_isBare bare]
    exact behind_typed done block head outer type
  | true =>
    rw [behindType_of_isBare bare]
    have named := behind_named done block head outer type.name
    rwa [← TypeRef.eq_of_isBare bare] at named

/-- Where a type has been read, what it ends or goes on with is read alike, however it is written. -/
theorem take_behindType (done : Declarations) (block : ClassDecl) (head : FieldHead)
    (outer : OpenTypes) (type : TypeRef) {s : Symbol}
    (asked : (Place.typed block head outer type).asksFor (.symbol s) = true) :
    (behindType done block head outer type).take
      ((behindType done block head outer type).place.reading (.symbol s)) =
        afterType done block head outer type (.symbol s) :=
  behind_behindType done block head outer type (.symbol s) asked

mutual

/-- The tokens of a type lead behind it, wherever the first word starts a type. -/
theorem follow_isTypeRef : {type : TypeRef} → {tokens : List Token} → IsTypeRef type tokens →
    ∀ (r : Reader) (outer : OpenTypes), r.Starts done (.fieldType block head outer) tokens →
      r.follow tokens = some (behindType done block head outer type)
  | _, _, .name hname, _, _, starts => follow_isName hname starts
  | .mk name _ _, _, .arguments hname hargs, r, outer, starts => by
    obtain ⟨init, last, rfl, arguments⟩ := follow_arguments hargs name outer
    rw [List.append_assoc] at starts ⊢
    have named := follow_isName hname (starts.of_append hname.ne_nil)
    have closed := take_behindType done block head ((name, init) :: outer) last
      (s := .closeAngle) rfl
    rw [behindType_of_not_isBare (TypeRef.isBare_arguments (by simp) name 0)]
    exact follow_of_follow named
      (follow_of_take rfl (follow_of_follow arguments (follow_of_take closed rfl)))
  | .mk name args (dims + 1), _, .dimension typed, r, outer, starts => by
    have before := follow_isTypeRef typed r outer (starts.of_append typed.ne_nil)
    have opened := take_behindType done block head outer (.mk name args dims) (s := .openSquare) rfl
    rw [behindType_of_not_isBare (TypeRef.isBare_dimension name args dims)]
    exact follow_of_follow before (follow_of_take opened (follow_of_take rfl rfl))

/-- The tokens of arguments lead behind the last of them. -/
theorem follow_arguments : {args : List TypeRef} → {tokens : List Token} →
    Separated .comma IsTypeRef args tokens → ∀ (name : String) (outer : OpenTypes),
      ∃ init last, args = init ++ [last] ∧
        follow ⟨done, .component (.fieldType block head ((name, []) :: outer)) none⟩ tokens =
          some (behindType done block head ((name, init) :: outer) last)
  | _, _, .one typed, name, outer =>
    ⟨[], _, rfl, follow_isTypeRef typed _ _ (starts_component done _ _)⟩
  | _, _, .snoc earlier typed, name, outer => by
    obtain ⟨init, last, rfl, before⟩ := follow_arguments earlier name outer
    have comma := take_behindType done block head ((name, init) :: outer) last (s := .comma) rfl
    have next := follow_isTypeRef typed _ ((name, init ++ [last]) :: outer)
      (starts_component done (.fieldType block head _) _)
    exact ⟨init ++ [last], _, rfl, follow_of_follow before (follow_of_take comma next)⟩

end

/-! ## Names of fields -/

/-- Behind a type, a word is read as the name of a field, unless the type is a bare name and the word is
one of those of declarations. -/
theorem take_fieldName (done : Declarations) (block : ClassDecl) (head : FieldHead) {type : TypeRef}
    {word : String} (free : type.isBare = true → word ∉ declarationWords) :
    (behindType done block head [] type).take
        ((behindType done block head [] type).place.reading (.name word)) =
      some ⟨done, .fieldNamed block (head.field type word)⟩ := by
  cases bare : type.isBare with
  | false =>
    rw [behindType_of_not_isBare bare]
    rcases Keyword.plain_or_spelling word with plain | ⟨k, rfl⟩
    · rw [Place.reading_of_plain _ plain]
      rfl
    · rw [Place.reading_spelling]
      cases k <;> rfl
  | true =>
    have free := free bare
    rw [behindType_of_isBare bare, TypeRef.eq_of_isBare bare]
    rcases Keyword.plain_or_spelling word with plain | ⟨k, rfl⟩
    · rw [Place.reading_of_plain _ plain]
      rfl
    · rw [Place.reading_spelling]
      cases k <;> first | rfl | exact absurd (by decide) free

/-- Behind a bare name, a word of declarations is read as the keyword that it spells. There is no use for
it there. -/
theorem refuses_fieldName (done : Declarations) (block : ClassDecl) (head : FieldHead) {type : TypeRef}
    {word : String} (bare : type.isBare = true) (held : word ∈ declarationWords) :
    (behindType done block head [] type).place.asksFor
        ((behindType done block head [] type).place.reading (.name word)).kind = true ∧
      (behindType done block head [] type).step
        ((behindType done block head [] type).place.reading (.name word)) = none := by
  have keywords : ∀ word ∈ declarationWords, Keyword.ofSpelling? word ≠ none := by decide
  rw [behindType_of_isBare bare]
  rcases Keyword.plain_or_spelling word with plain | ⟨k, rfl⟩
  · exact absurd plain (keywords word held)
  · rw [Place.reading_spelling]
    cases k <;> first | exact ⟨rfl, rfl⟩ | exact absurd held (by decide)

/-! ## Classes -/

/-- In the body of a class, a word that is no keyword starts a type. -/
theorem starts_classBody (leads : type.LeadsWithName) (typed : IsTypeRef type tokens)
    (lexemes : AreLexemes tokens) (done : Declarations) (block : ClassDecl) :
    Starts ⟨done, .classBody block⟩ done (.fieldType block .empty []) tokens := by
  intro word hword
  obtain ⟨first, more, rfl, hfirst⟩ := typed.exists_head lexemes
  obtain rfl := Token.name.inj (Option.some.inj hword)
  show take _ (Place.reading _ (.name first)) = _
  rw [Place.reading_of_plain _ (leads first hfirst)]
  rfl

/-- The name of a class and the type of its first field lead behind this type. -/
theorem follow_classFront {className : String} {named typed : List Token}
    (hnamed : IsName className named) (htyped : IsTypeRef type typed) (lexemes : AreLexemes typed)
    (leads : type.LeadsWithName) (done : Declarations) :
    follow ⟨done, .component .className none⟩ (named ++ .symbol .openBrace :: typed) =
      some (behindType done ⟨className, []⟩ .empty [] type) :=
  follow_of_follow (follow_isName hnamed (starts_component done .className named))
    (follow_of_take rfl (follow_isTypeRef htyped _ _ (starts_classBody leads htyped lexemes done _)))

/-- Where a declaration starts, the word for a class is read as such, whatever stands behind it. -/
theorem select?_classDecl (rest : List Char) :
    select? Place.item.asksFor (Keyword.classDecl.spelling.toList ++ rest) =
      some (.keyword .classDecl) := by
  have candidate : .keyword .classDecl ∈ candidates (Keyword.classDecl.spelling.toList ++ rest) := by
    have leading : .classDecl ∈ leadingKeywords (Keyword.classDecl.spelling.toList ++ rest) :=
      List.mem_filter.2 ⟨by decide, by simp⟩
    have start : isWordStart 'c' = true := rfl
    show _ ∈ candidates ('c' :: ("lass".toList ++ rest))
    simp only [candidates, start, if_true]
    exact List.mem_append_right _ (List.mem_cons_of_mem _ (List.mem_map_of_mem leading))
  cases selected : select? Place.item.asksFor (Keyword.classDecl.spelling.toList ++ rest) with
  | none => exact absurd rfl (List.find?_eq_none.1 selected _ candidate)
  | some token =>
    have asked := List.find?_some selected
    obtain ⟨behind, same⟩ :=
      spelling_isPrefix_of_mem_candidates (List.mem_of_find?_eq_some selected)
    have first := congrArg List.head? same
    cases token with
    | keyword k =>
      cases k <;> first
        | rfl
        | exact absurd asked (by decide)
        | exact absurd (Option.some.inj first) (by decide)
    | name word => exact absurd asked Bool.false_ne_true
    | symbol s => cases s <;> exact absurd asked Bool.false_ne_true
    | number literal => exact absurd asked Bool.false_ne_true
    | string content => exact absurd asked Bool.false_ne_true

/-- The word for a class leads to the name of the class. -/
theorem read_classDecl {front : List Char} (layout : IsLayout front) (rest : List Char) :
    ∃ last here, start.read .start .start 0 (front ++ (Keyword.classDecl.spelling.toList ++ rest)) =
      (Reader.read ⟨.empty, .component .className none⟩ last here 0 rest).map fun reading =>
        { reading with tokens := .keyword .classDecl :: reading.tokens } := by
  obtain ⟨position, hposition⟩ := read_layout layout start .start .start
    (Keyword.classDecl.spelling.toList ++ rest)
  obtain ⟨c, cs, hspelling, outside⟩ : ∃ c cs, (Token.keyword .classDecl).spelling = c :: cs ∧
      ¬ StartsLayout c := (isIdentifier_spelling .classDecl).exists_head
  obtain ⟨there, hthere⟩ := read_selected (r := start) hspelling outside (select?_classDecl rest)
    .start position
  exact ⟨position, there, hposition.trans hthere⟩

end Reader

/-! ## Files -/

section Files

variable {className text : String} (h : IsFieldFile className type name text)
  (leads : type.LeadsWithName)

include h leads

/-- A file of one field declares this field, unless its type is bare and its name one of the words of
declarations. -/
theorem parse_fieldFile (free : type.isBare = true → name ∉ declarationWords) :
    parse text = .ok (fieldFile className type name) := by
  obtain ⟨layout, named, typed, laid, htext⟩ := h
  have lexemes := laid.areLexemes
  simp only [areLexemes_append, areLexemes_cons] at lexemes
  have front := Reader.follow_classFront named typed lexemes.1.2.2 leads .empty
  have field := Reader.take_fieldName .empty ⟨className, []⟩ .empty free
  have ending : Reader.follow ⟨.empty, .fieldNamed ⟨className, []⟩ ⟨name, type, [], []⟩⟩
      [.symbol .semicolon, .symbol .closeBrace] = some ⟨fieldFile className type name, .item⟩ := rfl
  have followed := Reader.follow_of_follow front (Reader.follow_of_take field ending)
  obtain ⟨last, here, hclass⟩ := Reader.read_classDecl layout _
  obtain ⟨read, hread, overlong⟩ := Reader.read_of_follow laid followed rfl last here
  have reading : readText text =
      .ok ⟨.keyword .classDecl :: read, fieldFile className type name⟩ := by
    rw [readText, htext, hclass, hread]
    rfl
  have short : (Token.keyword .classDecl :: read).any Token.isOverlong = false := by
    rw [List.any_cons, overlong]
    rfl
  exact parse_of_readText reading short rfl

/-- If they are, the text is refused at the name. -/
theorem parse_fieldFile_refused (bare : type.isBare = true) (held : name ∈ declarationWords) :
    ∃ position, parse text = .error (.unexpectedToken position name) := by
  obtain ⟨layout, named, typed, laid, htext⟩ := h
  have lexemes := laid.areLexemes
  simp only [areLexemes_append, areLexemes_cons] at lexemes
  have front := Reader.follow_classFront named typed lexemes.1.2.2 leads .empty
  obtain ⟨asked, refused⟩ := Reader.refuses_fieldName .empty ⟨className, []⟩ .empty bare held
  obtain ⟨last, here, hclass⟩ := Reader.read_classDecl layout _
  obtain ⟨position, hread⟩ := Reader.read_refused laid front asked refused last here
  have reading : readText text = .error (.unexpectedToken position name) := by
    rw [readText, htext, hclass, hread, Token.refused, Place.spelling_reading, Token.spelling,
      String.ofList_toList]
    rfl
  refine ⟨position, ?_⟩
  rw [parse, reading]
  rfl

/-- A file of one field is accepted unless its type is bare and its name one of those words. -/
theorem exists_parse_fieldFile_iff :
    (∃ d, parse text = .ok d) ↔ (type.isBare = true → name ∉ declarationWords) := by
  constructor
  · intro ⟨d, accepted⟩ bare held
    obtain ⟨position, refused⟩ := parse_fieldFile_refused h leads bare held
    rw [refused] at accepted
    exact nomatch accepted
  · intro free
    exact ⟨_, parse_fieldFile h leads free⟩

end Files

/-- **A name of a field is accepted behind two types alike if and only if** it is none of the words of
declarations, or both types are bare, or neither is. -/
theorem accepts_alike_iff {className₁ className₂ text₁ text₂ : String} {type₁ type₂ : TypeRef}
    (first : IsFieldFile className₁ type₁ name text₁)
    (second : IsFieldFile className₂ type₂ name text₂)
    (leads₁ : type₁.LeadsWithName) (leads₂ : type₂.LeadsWithName) :
    ((∃ d, parse text₁ = .ok d) ↔ ∃ d, parse text₂ = .ok d) ↔
      (name ∈ declarationWords → type₁.isBare = type₂.isBare) := by
  rw [exists_parse_fieldFile_iff first leads₁, exists_parse_fieldFile_iff second leads₂]
  cases type₁.isBare <;> cases type₂.isBare <;> by_cases held : name ∈ declarationWords <;> simp [held]

/-- The text has a space in front of each word and symbol but the first. -/
theorem isFieldFile_spaced {className text : String} {named typed : List Token}
    (hnamed : IsName className named) (htyped : IsTypeRef type typed)
    (words : ∀ token ∈ named ++ .symbol .openBrace :: typed ++
      [.name name, .symbol .semicolon, .symbol .closeBrace], token.StandsBefore [])
    (htext : text.toList = Keyword.classDecl.spelling.toList ++ spaced (named ++
      .symbol .openBrace :: typed ++ [.name name, .symbol .semicolon, .symbol .closeBrace])) :
    IsFieldFile className type name text :=
  .mk .nil hnamed htyped (isLaidOut_spaced words) htext

theorem isFieldFile_number :
    IsFieldFile "A" (.mk "int" [] 0) "public" "class A \x7b int public ; \x7d" :=
  isFieldFile_spaced .word (.name .word) (by decide) (by decide +kernel)

theorem isFieldFile_array :
    IsFieldFile "A" (.mk "int" [] 1) "public" "class A \x7b int [ ] public ; \x7d" :=
  isFieldFile_spaced .word (.dimension (.name .word)) (by decide) (by decide +kernel)

theorem isFieldFile_list :
    IsFieldFile "B" (.mk "List" [.mk "int" [] 0] 0) "public"
      "class B \x7b List < int > public ; \x7d" :=
  isFieldFile_spaced .word (.arguments .word (.one (.name .word))) (by decide)
    (by decide +kernel)

/-- Behind an array and a list the name is accepted alike. -/
theorem accepts_alike_public :
    IsFieldFile "A" (.mk "int" [] 1) "public" "class A \x7b int [ ] public ; \x7d" ∧
      IsFieldFile "B" (.mk "List" [.mk "int" [] 0] 0) "public"
        "class B \x7b List < int > public ; \x7d" ∧
      (TypeRef.mk "int" [] 1).LeadsWithName ∧ (TypeRef.mk "List" [.mk "int" [] 0] 0).LeadsWithName ∧
      ((∃ d, parse "class A \x7b int [ ] public ; \x7d" = .ok d) ↔
        ∃ d, parse "class B \x7b List < int > public ; \x7d" = .ok d) := by
  have array : (TypeRef.mk "int" [] 1).LeadsWithName := by decide +kernel
  have list : (TypeRef.mk "List" [.mk "int" [] 0] 0).LeadsWithName := by decide +kernel
  have alike := (accepts_alike_iff isFieldFile_array isFieldFile_list array list).2 fun _ => rfl
  exact ⟨isFieldFile_array, isFieldFile_list, array, list, alike⟩

/-- Behind an array and a number it is not. -/
theorem public_refused :
    IsFieldFile "A" (.mk "int" [] 1) "public" "class A \x7b int [ ] public ; \x7d" ∧
      IsFieldFile "A" (.mk "int" [] 0) "public" "class A \x7b int public ; \x7d" ∧
      (TypeRef.mk "int" [] 1).LeadsWithName ∧ (TypeRef.mk "int" [] 0).LeadsWithName ∧
      parse "class A \x7b int [ ] public ; \x7d" = .ok (fieldFile "A" (.mk "int" [] 1) "public") ∧
      parse "class A \x7b int public ; \x7d" = .error (.unexpectedToken ⟨1, 15⟩ "public") := by
  refine ⟨isFieldFile_array, isFieldFile_number, by decide +kernel, by decide +kernel, ?_, ?_⟩
  · decide +kernel
  · decide +kernel

end ScreenNav
