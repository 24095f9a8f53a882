import ScreenNav.Declaration
import ScreenNav.Declaration.Token

/-!
# The grammar of declaration files

Which tokens make up a declaration, rule by rule. Each rule of the grammar is a relation between what
is declared and the tokens it is written with, and a proof of it is a derivation, along with what the
derivation declares. Nothing here mentions the reading of a file.

Rules are built from sequences of tokens with three ways of repeating a construct: any number of times
(`Many`), at least once with a symbol between (`Separated`), and with a symbol behind each (`Ended`).
The last of them does not occur in the grammar. It is what has been read of a separated sequence where
the next construct may start.

Grammar in brief, with `?` for an optional part, `*` for any number, and `+,` for at least one with
commas between:

* file: blocks of options, types and classes in any order
* options: `options`, option* in braces; option: word `=` value `;`?
* type: `type` name (`extends` name+,)? (`implements` name+,)? `;`?
* class: `class` name, field* in braces; field: annotation* modifier* type word `;`
* annotation: `@` name (argument+, or nothing, in parentheses)?; argument: (word `=`)? value
* type of a field: name (type+, in angle brackets)? (`[` `]`)*
* value: name, truth value, number or string; name: words with dots between
-/

namespace ScreenNav

/-! ## Repetition -/

section Repetition

variable {α : Type} {s : Symbol} {p : α → List Token → Prop}

/-- One construct behind the other. -/
inductive Many (p : α → List Token → Prop) : List α → List Token → Prop
  | nil : Many p [] []
  | snoc {xs : List α} {x : α} {before tokens : List Token} : Many p xs before → p x tokens →
      Many p (xs ++ [x]) (before ++ tokens)

/-- At least one construct, with a symbol between any two of them. -/
inductive Separated (s : Symbol) (p : α → List Token → Prop) : List α → List Token → Prop
  | one {x : α} {tokens : List Token} : p x tokens → Separated s p [x] tokens
  | snoc {xs : List α} {x : α} {before tokens : List Token} : Separated s p xs before →
      p x tokens → Separated s p (xs ++ [x]) (before ++ .symbol s :: tokens)

/-- Any number of constructs, with a symbol behind each of them. -/
inductive Ended (s : Symbol) (p : α → List Token → Prop) : List α → List Token → Prop
  | nil : Ended s p [] []
  | snoc {xs : List α} {x : α} {before tokens : List Token} : Ended s p xs before → p x tokens →
      Ended s p (xs ++ [x]) (before ++ tokens ++ [.symbol s])

theorem Ended.separated {xs : List α} {x : α} {before tokens : List Token} (h : Ended s p xs before)
    (hx : p x tokens) : Separated s p (xs ++ [x]) (before ++ tokens) := by
  induction h generalizing x tokens with
  | nil => exact .one hx
  | @snoc xs _ before earlier _ last ih =>
    rw [List.append_assoc (before ++ earlier), List.singleton_append]
    exact .snoc (ih last) hx

theorem Separated.ended {xs : List α} {tokens : List Token} (h : Separated s p xs tokens) :
    Ended s p xs (tokens ++ [.symbol s]) := by
  induction h with
  | one hx => exact .snoc .nil hx
  | @snoc xs _ before last _ hx ih =>
    rw [List.append_cons before]
    exact .snoc ih hx

end Repetition

/-! ## Names and values -/

/-- The tokens of a name. -/
inductive IsName : String → List Token → Prop
  | word {word : String} : IsName word [.name word]
  | dotted {name word : String} {tokens : List Token} : IsName name tokens →
      IsName (name ++ "." ++ word) (tokens ++ [.symbol .dot, .name word])

/-- The tokens of a value. A name stands for its own text. -/
inductive IsValue : Value → List Token → Prop
  | name {name : String} {tokens : List Token} : IsName name tokens → IsValue (.string name) tokens
  | isTrue : IsValue (.bool true) [.keyword .isTrue]
  | isFalse : IsValue (.bool false) [.keyword .isFalse]
  | number {literal : NumberLiteral} : IsValue (.ofNumber literal) [.number literal]
  | string {content : String} : IsValue (.string content) [.string content]

/-- A semicolon, or nothing. -/
inductive IsEnd : List Token → Prop
  | none : IsEnd []
  | semicolon : IsEnd [.symbol .semicolon]

/-! ## Options and types -/

/-- The tokens of an option. -/
inductive IsOption : OptionDecl → List Token → Prop
  | mk {name : String} {value : Value} {tokens ending : List Token} : IsValue value tokens →
      IsEnd ending → IsOption ⟨name, value⟩ (.name name :: .symbol .equals :: tokens ++ ending)

/-- The tokens of a clause that lists supertypes, which is left out if there are none. -/
inductive IsClause (k : Keyword) : List String → List Token → Prop
  | none : IsClause k [] []
  | names {names : List String} {tokens : List Token} : Separated .comma IsName names tokens →
      IsClause k names (.keyword k :: tokens)

/-- The tokens of a declared type. -/
inductive IsType : TypeDecl → List Token → Prop
  | mk {name : String} {parents interfaces : List String}
      {named extending implementing ending : List Token} :
      IsName name named → IsClause .extending parents extending →
      IsClause .implementing interfaces implementing → IsEnd ending →
      IsType ⟨name, parents, interfaces⟩
        (.keyword .typeDecl :: named ++ extending ++ implementing ++ ending)

/-! ## Classes -/

/-- The tokens of an argument of an annotation. -/
inductive IsArgument : Argument → List Token → Prop
  | plain {value : Value} {tokens : List Token} : IsValue value tokens →
      IsArgument ⟨none, value⟩ tokens
  | named {name : String} {value : Value} {tokens : List Token} : IsValue value tokens →
      IsArgument ⟨some name, value⟩ (.name name :: .symbol .equals :: tokens)

/-- The tokens of the arguments of an annotation. -/
inductive AreArguments : List Argument → List Token → Prop
  | left_out : AreArguments [] []
  | empty : AreArguments [] [.symbol .openParen, .symbol .closeParen]
  | arguments {arguments : List Argument} {tokens : List Token} :
      Separated .comma IsArgument arguments tokens →
      AreArguments arguments (.symbol .openParen :: tokens ++ [.symbol .closeParen])

/-- The tokens of an annotation. -/
inductive IsAnnotation : Annotation → List Token → Prop
  | mk {name : String} {arguments : List Argument} {named tokens : List Token} : IsName name named →
      AreArguments arguments tokens →
      IsAnnotation ⟨name, arguments⟩ (.symbol .atSign :: named ++ tokens)

/-- The token of a modifier. -/
inductive IsModifier : String → List Token → Prop
  | mk {k : Keyword} : k.isModifier = true → IsModifier k.spelling [.keyword k]

/-- The tokens of the type of a field. Dimensions stand behind the arguments. -/
inductive IsTypeRef : TypeRef → List Token → Prop
  | name {name : String} {tokens : List Token} : IsName name tokens →
      IsTypeRef (.mk name [] 0) tokens
  | arguments {name : String} {args : List TypeRef} {named tokens : List Token} :
      IsName name named → Separated .comma IsTypeRef args tokens →
      IsTypeRef (.mk name args 0) (named ++ .symbol .openAngle :: tokens ++ [.symbol .closeAngle])
  | dimension {name : String} {args : List TypeRef} {dims : Nat} {tokens : List Token} :
      IsTypeRef (.mk name args dims) tokens →
      IsTypeRef (.mk name args (dims + 1)) (tokens ++ [.symbol .openSquare, .symbol .closeSquare])

/-- The token of a field's name. Two keywords are allowed. -/
inductive IsFieldName : String → List Token → Prop
  | word {word : String} : IsFieldName word [.name word]
  | typeDecl : IsFieldName "type" [.keyword .typeDecl]
  | optionsBlock : IsFieldName "options" [.keyword .optionsBlock]

/-- The tokens of a field. -/
inductive IsField : FieldDecl → List Token → Prop
  | mk {name : String} {type : TypeRef} {modifiers : List String} {annotations : List Annotation}
      {noted modified typed named : List Token} : Many IsAnnotation annotations noted →
      Many IsModifier modifiers modified → IsTypeRef type typed → IsFieldName name named →
      IsField ⟨name, type, modifiers, annotations⟩
        (noted ++ modified ++ typed ++ named ++ [.symbol .semicolon])

/-- The tokens of a class. -/
inductive IsClass : ClassDecl → List Token → Prop
  | mk {name : String} {fields : List FieldDecl} {named tokens : List Token} : IsName name named →
      Many IsField fields tokens →
      IsClass ⟨name, fields⟩
        (.keyword .classDecl :: named ++ .symbol .openBrace :: tokens ++ [.symbol .closeBrace])

/-! ## Files -/

/-- The tokens of a file. Declarations of each sort are listed in the order of the file, and the
options of several blocks one after the other. -/
inductive IsFile : Declarations → List Token → Prop
  | empty : IsFile .empty []
  | options {d : Declarations} {options : List OptionDecl} {before tokens : List Token} :
      IsFile d before → Many IsOption options tokens →
      IsFile { d with options := d.options ++ options } (before ++
        .keyword .optionsBlock :: .symbol .openBrace :: tokens ++ [.symbol .closeBrace])
  | type {d : Declarations} {decl : TypeDecl} {before tokens : List Token} : IsFile d before →
      IsType decl tokens → IsFile { d with types := d.types ++ [decl] } (before ++ tokens)
  | classDecl {d : Declarations} {block : ClassDecl} {before tokens : List Token} :
      IsFile d before → IsClass block tokens →
      IsFile { d with classes := d.classes ++ [block] } (before ++ tokens)

end ScreenNav
