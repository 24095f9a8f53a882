import Mathlib.Tactic.MkIffOfInductiveProp
import ScreenNav.Declaration.Parse
import ScreenNav.Proofs.DoubleText
import ScreenNav.Proofs.Lexing

/-!
# Declarations written as tokens

The tokens of a set of declarations, in the order of the grammar: one options block, then the types,
then the classes. Options and types are ended by semicolons.

**Values** are written as literals: strings between quotes, integers in decimal, and other numbers as
their shortest text.

**Printable declarations** are those that the grammar has words for. Names consist of identifiers that
are no keywords, except that a field may be called `type` or `options`; a modifier is one of seven
words; and a value is one that has a literal.

Main statement: `Declarations.isReadable`, that every token of printable declarations is what its
spelling reads as, and is no integer with too many digits.
-/

namespace ScreenNav

/-! ## Words and names -/

/-- A word as the token that it is where both keywords and names are asked for. -/
def Token.ofWord (word : String) : Token :=
  match Keyword.ofSpelling? word with
  | some k => .keyword k
  | none => .name word

/-- The number with the given text. -/
def Token.ofNumber (text : String) : Token :=
  match NumberLiteral.ofText? text with
  | some literal => .number literal
  | none => .name text

/-- Pieces with a symbol between them. -/
def separated (s : Symbol) : List (List Token) → List Token
  | [] => []
  | [piece] => piece
  | piece :: pieces => piece ++ .symbol s :: separated s pieces

/-- The components of a dotted name. -/
def components (name : String) : List String := (name.toList.splitOn '.').map String.ofList

/-- The tokens of a dotted name. -/
def nameTokens (name : String) : List Token :=
  separated .dot ((components name).map fun word => [.ofWord word])

/-! ## Tokens -/

/-- The literal of a value; null has none. -/
def Value.token : Value → Token
  | .null => .ofWord "null"
  | .bool true => .ofWord "true"
  | .bool false => .ofWord "false"
  | .int n => .ofNumber (toString n)
  | .float x => .ofNumber x.text
  | .string text => .string text

def OptionDecl.tokens (o : OptionDecl) : List Token :=
  [.ofWord o.name, .symbol .equals, o.value.token, .symbol .semicolon]

/-- Several names behind a keyword, or nothing at all. -/
def clause (k : Keyword) (names : List String) : List Token :=
  if names = [] then [] else .keyword k :: separated .comma (names.map nameTokens)

def TypeDecl.tokens (d : TypeDecl) : List Token :=
  .keyword .typeDecl :: nameTokens d.name ++ clause .extending d.parents
    ++ clause .implementing d.interfaces ++ [.symbol .semicolon]

def Argument.tokens (a : Argument) : List Token :=
  (a.name.elim [] fun name => [.ofWord name, .symbol .equals]) ++ [a.value.token]

/-- The tokens of an annotation. Without arguments it has parentheses if they are wanted. -/
def Annotation.tokens (parens : Bool) (note : Annotation) : List Token :=
  .symbol .atSign :: nameTokens note.name ++
    if note.arguments = [] ∧ parens = false then []
    else .symbol .openParen :: separated .comma (note.arguments.map Argument.tokens)
      ++ [.symbol .closeParen]

mutual

def TypeRef.tokens : TypeRef → List Token
  | .mk name args dims =>
    nameTokens name ++ (if args.isEmpty then [] else
      .symbol .openAngle :: separated .comma (TypeRef.tokensAll args) ++ [.symbol .closeAngle])
      ++ (List.replicate dims [.symbol .openSquare, .symbol .closeSquare]).flatten

def TypeRef.tokensAll : List TypeRef → List (List Token)
  | [] => []
  | t :: ts => t.tokens :: TypeRef.tokensAll ts

end

def FieldDecl.tokens (parens : Bool) (f : FieldDecl) : List Token :=
  (f.annotations.flatMap fun note => note.tokens parens) ++ f.modifiers.map .ofWord ++ f.type.tokens
    ++ [.ofWord f.name, .symbol .semicolon]

def ClassDecl.tokens (parens : Bool) (c : ClassDecl) : List Token :=
  .keyword .classDecl :: nameTokens c.name ++ .symbol .openBrace
    :: c.fields.flatMap (FieldDecl.tokens parens) ++ [.symbol .closeBrace]

/-- The tokens of declarations, in the order of the grammar. -/
def Declarations.tokens (parens : Bool) (d : Declarations) : List Token :=
  .keyword .optionsBlock :: .symbol .openBrace :: d.options.flatMap OptionDecl.tokens
    ++ .symbol .closeBrace :: d.types.flatMap TypeDecl.tokens
    ++ d.classes.flatMap (ClassDecl.tokens parens)

/-! ## What can be written -/

/-- An identifier that is no keyword. -/
def IsPlainWord (word : String) : Prop := IsIdentifier word ∧ Keyword.ofSpelling? word = none

/-- A name of plain words with dots between them. -/
def IsPlainName (name : String) : Prop := ∀ word ∈ components name, IsPlainWord word

instance (word : String) : Decidable (IsPlainWord word) := inferInstanceAs (Decidable (_ ∧ _))

instance (name : String) : Decidable (IsPlainName name) :=
  inferInstanceAs (Decidable (∀ word ∈ components name, _))

/-- The words for the modifiers of a field. -/
def modifierNames : List String :=
  ["public", "protected", "private", "static", "final", "transient", "volatile"]

def Value.IsPrintable : Value → Prop
  | .null => False
  | .bool _ => True
  | .int n => (Nat.toDigits 10 n.natAbs).length ≤ NumberLiteral.integerDigitLimit
  | .float x => x.IsFinite
  | .string text => IsQuotable text.toList

instance : (value : Value) → Decidable value.IsPrintable
  | .null => inferInstanceAs (Decidable False)
  | .bool _ => inferInstanceAs (Decidable True)
  | .int _ => inferInstanceAs (Decidable (_ ≤ _))
  | .float x => inferInstanceAs (Decidable x.IsFinite)
  | .string text => inferInstanceAs (Decidable (IsQuotable text.toList))

@[mk_iff]
structure OptionDecl.IsPrintable (o : OptionDecl) : Prop where
  name : IsPlainWord o.name
  value : o.value.IsPrintable

instance (o : OptionDecl) : Decidable o.IsPrintable := decidable_of_iff' _ o.isPrintable_iff

@[mk_iff]
structure TypeDecl.IsPrintable (d : TypeDecl) : Prop where
  name : IsPlainName d.name
  parents : ∀ name ∈ d.parents, IsPlainName name
  interfaces : ∀ name ∈ d.interfaces, IsPlainName name

instance (d : TypeDecl) : Decidable d.IsPrintable := decidable_of_iff' _ d.isPrintable_iff

@[mk_iff]
structure Argument.IsPrintable (a : Argument) : Prop where
  name : ∀ name ∈ a.name, IsPlainWord name
  value : a.value.IsPrintable

instance (a : Argument) : Decidable a.IsPrintable := decidable_of_iff' _ a.isPrintable_iff

@[mk_iff]
structure Annotation.IsPrintable (note : Annotation) : Prop where
  name : IsPlainName note.name
  arguments : ∀ a ∈ note.arguments, a.IsPrintable

instance (note : Annotation) : Decidable note.IsPrintable :=
  decidable_of_iff' _ note.isPrintable_iff

/-- All names in the type can be written. -/
inductive TypeRef.IsPrintable : TypeRef → Prop
  | mk {name : String} {args : List TypeRef} {dims : Nat} : IsPlainName name →
      (∀ arg ∈ args, arg.IsPrintable) → IsPrintable (.mk name args dims)

@[simp] theorem TypeRef.isPrintable_mk {name : String} {args : List TypeRef} {dims : Nat} :
    (TypeRef.mk name args dims).IsPrintable ↔
      IsPlainName name ∧ ∀ arg ∈ args, arg.IsPrintable := by
  constructor
  · intro h
    cases h with
    | mk hname hargs => exact ⟨hname, hargs⟩
  · intro h
    exact .mk h.1 h.2

mutual

/-- Whether a type can be written, by recursion on it. -/
def TypeRef.decidePrintable : (type : TypeRef) → Decidable type.IsPrintable
  | .mk name args _ =>
    have := TypeRef.decideAllPrintable args
    decidable_of_iff' (IsPlainName name ∧ ∀ arg ∈ args, arg.IsPrintable) TypeRef.isPrintable_mk

def TypeRef.decideAllPrintable : (types : List TypeRef) →
    Decidable (∀ type ∈ types, type.IsPrintable)
  | [] => .isTrue (by simp)
  | type :: types =>
    have := type.decidePrintable
    have := TypeRef.decideAllPrintable types
    decidable_of_iff' (type.IsPrintable ∧ ∀ type ∈ types, type.IsPrintable) List.forall_mem_cons

end

instance (type : TypeRef) : Decidable type.IsPrintable := type.decidePrintable

@[mk_iff]
structure FieldDecl.IsPrintable (f : FieldDecl) : Prop where
  /-- Two of the keywords are allowed. -/
  name : IsPlainWord f.name ∨ f.name = "type" ∨ f.name = "options"
  type : f.type.IsPrintable
  modifiers : ∀ m ∈ f.modifiers, m ∈ modifierNames
  annotations : ∀ note ∈ f.annotations, note.IsPrintable

instance (f : FieldDecl) : Decidable f.IsPrintable := decidable_of_iff' _ f.isPrintable_iff

@[mk_iff]
structure ClassDecl.IsPrintable (c : ClassDecl) : Prop where
  name : IsPlainName c.name
  fields : ∀ f ∈ c.fields, f.IsPrintable

instance (c : ClassDecl) : Decidable c.IsPrintable := decidable_of_iff' _ c.isPrintable_iff

@[mk_iff]
structure Declarations.IsPrintable (d : Declarations) : Prop where
  options : ∀ o ∈ d.options, o.IsPrintable
  types : ∀ t ∈ d.types, t.IsPrintable
  classes : ∀ c ∈ d.classes, c.IsPrintable

instance (d : Declarations) : Decidable d.IsPrintable := decidable_of_iff' _ d.isPrintable_iff

/-! ## Every token can be read -/

variable {word name : String}

theorem Token.ofNumber_spelling {n : NumberLiteral} (h : n.WellFormed) :
    Token.ofNumber (String.ofList n.spelling) = .number n := by
  rw [ofNumber, NumberLiteral.ofText?_spelling h]

/-- The token is what its spelling reads as, and not too long an integer. -/
def Token.IsReadable (t : Token) : Prop := t.IsWritten ∧ t.isOverlong = false

theorem isReadable_ofWord (h : IsIdentifier word) : (Token.ofWord word).IsReadable := by
  unfold Token.ofWord
  split
  · exact ⟨trivial, rfl⟩
  · rename_i hk
    exact ⟨⟨h, hk⟩, rfl⟩

theorem isReadable_symbol (s : Symbol) : (Token.symbol s).IsReadable := ⟨trivial, rfl⟩

theorem isReadable_keyword (k : Keyword) : (Token.keyword k).IsReadable := ⟨trivial, rfl⟩

theorem forall_mem_separated {p : Token → Prop} {s : Symbol} {pieces : List (List Token)}
    (hs : p (.symbol s)) (h : ∀ piece ∈ pieces, ∀ t ∈ piece, p t) :
    ∀ t ∈ separated s pieces, p t := by
  induction pieces with
  | nil => simp [separated]
  | cons piece pieces ih =>
    obtain ⟨head, tail⟩ := List.forall_mem_cons.1 h
    cases pieces with
    | nil => exact head
    | cons next pieces =>
      rw [separated, List.forall_mem_append, List.forall_mem_cons]
      · exact ⟨head, hs, ih tail⟩
      · simp

theorem isReadable_nameTokens (h : IsPlainName name) : ∀ t ∈ nameTokens name, t.IsReadable := by
  refine forall_mem_separated (isReadable_symbol _) (List.forall_mem_map.2 ?_)
  intro word hword t ht
  obtain rfl := List.mem_singleton.1 ht
  exact isReadable_ofWord (h word hword).1

/-- The token of a value is a literal of that value. -/
theorem isReadable_value {v : Value} (h : v.IsPrintable) :
    v.token.IsReadable ∧ v.token.literal? = some v := by
  cases v with
  | null => exact h.elim
  | bool b =>
    cases b with
    | true => exact ⟨@isReadable_ofWord "true" (by decide), rfl⟩
    | false => exact ⟨@isReadable_ofWord "false" (by decide), rfl⟩
  | int n =>
    have token : Value.token (.int n) = .number (NumberLiteral.ofInt n) := by
      rw [Value.token, ← NumberLiteral.spelling_ofInt,
        Token.ofNumber_spelling (NumberLiteral.wellFormed_ofInt n)]
    rw [token]
    refine ⟨⟨NumberLiteral.wellFormed_ofInt n, decide_eq_false ?_⟩, ?_⟩
    · exact fun overlong => Nat.not_lt.2 h overlong.2
    · rw [Token.literal?, Value.ofNumber, if_pos (NumberLiteral.isWhole_ofInt n),
        NumberLiteral.toInt_ofInt]
  | float x =>
    obtain ⟨n, wf, fractional, value, text⟩ := Double.exists_literal h
    have token : Value.token (.float x) = .number n := by
      rw [Value.token, text, Token.ofNumber_spelling wf]
    rw [token]
    refine ⟨⟨wf, decide_eq_false fun overlong => fractional overlong.1⟩, ?_⟩
    rw [Token.literal?, Value.ofNumber, if_neg fractional, value]
  | string text => exact ⟨⟨h, rfl⟩, rfl⟩

theorem isReadable_clause {k : Keyword} {names : List String}
    (h : ∀ name ∈ names, IsPlainName name) : ∀ t ∈ clause k names, t.IsReadable := by
  unfold clause
  split
  · simp
  · refine List.forall_mem_cons.2 ⟨isReadable_keyword k, forall_mem_separated (isReadable_symbol _) ?_⟩
    exact List.forall_mem_map.2 fun name hname => isReadable_nameTokens (h name hname)

theorem OptionDecl.isReadable {o : OptionDecl} (h : o.IsPrintable) : ∀ t ∈ o.tokens, t.IsReadable := by
  have word := isReadable_ofWord h.name.1
  have value := (isReadable_value h.value).1
  simp [OptionDecl.tokens, word, value, isReadable_symbol]

theorem TypeDecl.isReadable {d : TypeDecl} (h : d.IsPrintable) : ∀ t ∈ d.tokens, t.IsReadable := by
  unfold TypeDecl.tokens
  simp only [List.forall_mem_append, List.forall_mem_cons, List.cons_append]
  refine ⟨isReadable_keyword _, ⟨⟨isReadable_nameTokens h.name, isReadable_clause h.parents⟩,
    isReadable_clause h.interfaces⟩, isReadable_symbol _, by simp⟩

theorem Argument.isReadable {a : Argument} (h : a.IsPrintable) : ∀ t ∈ a.tokens, t.IsReadable := by
  have value := (isReadable_value h.value).1
  cases hname : a.name with
  | none => simp [Argument.tokens, hname, value]
  | some name =>
    have word := isReadable_ofWord (h.name name hname).1
    simp [Argument.tokens, hname, word, value, isReadable_symbol]

theorem Annotation.isReadable {note : Annotation} (parens : Bool) (h : note.IsPrintable) :
    ∀ t ∈ note.tokens parens, t.IsReadable := by
  unfold Annotation.tokens
  simp only [List.forall_mem_append, List.forall_mem_cons, List.cons_append]
  refine ⟨isReadable_symbol _, isReadable_nameTokens h.name, ?_⟩
  split
  · simp
  · simp only [List.forall_mem_append, List.forall_mem_cons]
    refine ⟨isReadable_symbol _, forall_mem_separated (isReadable_symbol _) ?_,
      isReadable_symbol _, by simp⟩
    exact List.forall_mem_map.2 fun a ha => Argument.isReadable (h.arguments a ha)

@[simp] theorem TypeRef.tokensAll_eq_map (ts : List TypeRef) :
    TypeRef.tokensAll ts = ts.map TypeRef.tokens := by
  induction ts with
  | nil => rfl
  | cons t ts ih => rw [TypeRef.tokensAll, ih, List.map_cons]

theorem TypeRef.isReadable {type : TypeRef} (h : type.IsPrintable) :
    ∀ t ∈ type.tokens, t.IsReadable := by
  induction h with
  | @mk name args dims hname _ ih =>
    rw [TypeRef.tokens, TypeRef.tokensAll_eq_map]
    simp only [List.forall_mem_append]
    refine ⟨⟨isReadable_nameTokens hname, ?_⟩, ?_⟩
    · split
      · simp
      · simp only [List.forall_mem_append, List.forall_mem_cons]
        exact ⟨⟨isReadable_symbol _,
          forall_mem_separated (isReadable_symbol _) (List.forall_mem_map.2 ih)⟩,
          isReadable_symbol _, by simp⟩
    · intro t ht
      obtain ⟨pair, hpair, ht⟩ := List.mem_flatten.1 ht
      rw [List.eq_of_mem_replicate hpair] at ht
      obtain rfl | rfl : t = .symbol .openSquare ∨ t = .symbol .closeSquare := by simpa using ht
      · exact isReadable_symbol _
      · exact isReadable_symbol _

/-- The words for modifiers are those of the keywords that are modifiers. -/
theorem exists_modifier {m : String} (h : m ∈ modifierNames) :
    ∃ k : Keyword, k.isModifier = true ∧ k.spelling = m := by
  have all : ∀ m ∈ modifierNames, ∃ k ∈ Keyword.all, k.isModifier = true ∧ k.spelling = m := by
    decide
  obtain ⟨k, -, hk⟩ := all m h
  exact ⟨k, hk⟩

theorem FieldDecl.isReadable {f : FieldDecl} (parens : Bool) (h : f.IsPrintable) :
    ∀ t ∈ f.tokens parens, t.IsReadable := by
  have word : (Token.ofWord f.name).IsReadable := by
    rcases h.name with plain | keyword | keyword
    · exact isReadable_ofWord plain.1
    · exact isReadable_ofWord (by rw [keyword]; decide)
    · exact isReadable_ofWord (by rw [keyword]; decide)
  unfold FieldDecl.tokens
  simp only [List.forall_mem_append, List.forall_mem_cons, List.forall_mem_flatMap,
    List.forall_mem_map]
  refine ⟨⟨⟨?_, ?_⟩, TypeRef.isReadable h.type⟩, word, isReadable_symbol _, by simp⟩
  · exact fun note hnote => Annotation.isReadable parens (h.annotations note hnote)
  · intro m hm
    obtain ⟨k, -, rfl⟩ := exists_modifier (h.modifiers m hm)
    exact isReadable_ofWord (isIdentifier_spelling k)

theorem ClassDecl.isReadable {c : ClassDecl} (parens : Bool) (h : c.IsPrintable) :
    ∀ t ∈ c.tokens parens, t.IsReadable := by
  unfold ClassDecl.tokens
  simp only [List.forall_mem_append, List.forall_mem_cons, List.cons_append,
    List.forall_mem_flatMap]
  refine ⟨isReadable_keyword _, ⟨isReadable_nameTokens h.name, isReadable_symbol _, ?_⟩,
    isReadable_symbol _, by simp⟩
  exact fun f hf => FieldDecl.isReadable parens (h.fields f hf)

/-- Every token of printable declarations can be read. -/
theorem Declarations.isReadable {d : Declarations} (parens : Bool) (h : d.IsPrintable) :
    ∀ t ∈ d.tokens parens, t.IsReadable := by
  unfold Declarations.tokens
  simp only [List.forall_mem_append, List.forall_mem_cons, List.cons_append,
    List.forall_mem_flatMap]
  refine ⟨isReadable_keyword _, isReadable_symbol _, ⟨?_, isReadable_symbol _, ?_⟩, ?_⟩
  · exact fun o ho => OptionDecl.isReadable (h.options o ho)
  · exact fun d hd => TypeDecl.isReadable (h.types d hd)
  · exact fun c hc => ClassDecl.isReadable parens (h.classes c hc)

end ScreenNav
