import ScreenNav.Declaration
import ScreenNav.Declaration.Token

/-!
# Places in a declaration file

Where the reading of a file stands after each token: which construct it is in, what of that
construct has been read, and which kinds of token the place asks for.

**Names.** Qualified names occur in eight roles, and are read alike in all of them. A `NameUse` says
which role it is and holds what has been read around the name.

**What a place asks for** decides between the tokens that the text could start with. Behind a
component of a name it asks for nearly everything, because other uses of names go on with all of
these; whether a token fits this use is decided only when it is taken.
-/

namespace ScreenNav

/-- The annotations and modifiers in front of a field. -/
structure FieldHead where
  annotations : List Annotation
  modifiers : List String
deriving Repr

/-- The front of a field of which nothing has been read. -/
def FieldHead.empty : FieldHead := ⟨[], []⟩

/-- The field with the given front, type and name. -/
def FieldHead.field (head : FieldHead) (type : TypeRef) (name : String) : FieldDecl :=
  ⟨name, type, head.modifiers, head.annotations⟩

/-- The types around a type argument, from the inside out: their names, and the arguments before. -/
abbrev OpenTypes := List (String × List TypeRef)

/-- What a qualified name is read for. -/
inductive NameUse where
  /-- The value of an option. -/
  | option (name : String)
  /-- The name of a declared type. -/
  | declaredType
  /-- A type that the declared type extends. -/
  | parent (decl : TypeDecl)
  /-- An interface that the declared type implements. -/
  | interface (decl : TypeDecl)
  /-- The name of a class. -/
  | className
  /-- The name of an annotation. -/
  | annotationName (block : ClassDecl) (head : FieldHead)
  /-- The value of an annotation's argument. -/
  | argument (block : ClassDecl) (head : FieldHead) (note : Annotation)
      (name : Option String)
  /-- The name of a field's type, or of an argument inside it. -/
  | fieldType (block : ClassDecl) (head : FieldHead) (outer : OpenTypes)
deriving Repr

/-- Where the reading of a file stands. Options are recorded as soon as they are read, types and
classes when they end. -/
inductive Place where
  /-- Where a declaration may start. -/
  | item
  /-- Behind the word that opens an options block. -/
  | optionsBlock
  /-- Where an option may start. -/
  | optionStart
  /-- Behind the name of an option. -/
  | optionName (name : String)
  /-- Where the value of an option starts. -/
  | optionValue (name : String)
  /-- Behind an option with a literal value. -/
  | optionEnd
  /-- Where a component of a name starts; `before` holds the components before it. -/
  | component (use : NameUse) (before : Option String)
  /-- Behind a component of a name. -/
  | named (use : NameUse) (name : String)
  /-- Where a field may start. -/
  | classBody (block : ClassDecl)
  /-- Behind the parenthesis that opens the arguments of an annotation. -/
  | argumentsOpen (block : ClassDecl) (head : FieldHead) (note : Annotation)
  /-- Behind a comma between arguments. -/
  | argumentStart (block : ClassDecl) (head : FieldHead) (note : Annotation)
  /-- Behind a word that an argument starts with: its name, or the start of its value. -/
  | argumentWord (block : ClassDecl) (head : FieldHead) (note : Annotation) (word : String)
  /-- Where the value of a named argument starts. -/
  | argumentValue (block : ClassDecl) (head : FieldHead) (note : Annotation) (name : String)
  /-- Behind an argument with a literal value. -/
  | argumentEnd (block : ClassDecl) (head : FieldHead) (note : Annotation)
  /-- Behind the arguments of an annotation. -/
  | annotated (block : ClassDecl) (head : FieldHead)
  /-- Behind a modifier. -/
  | modified (block : ClassDecl) (head : FieldHead)
  /-- Behind the bracket that opens a dimension. -/
  | dimension (block : ClassDecl) (head : FieldHead) (outer : OpenTypes) (type : TypeRef)
  /-- Behind a type with arguments or dimensions. -/
  | typed (block : ClassDecl) (head : FieldHead) (outer : OpenTypes) (type : TypeRef)
  /-- Behind the name of a field. -/
  | fieldNamed (block : ClassDecl) (field : FieldDecl)
deriving Repr

namespace TokenKind

/-- What a literal can be: a number, a string or a truth value. -/
def isLiteral : TokenKind → Bool
  | .number | .string | .keyword .isTrue | .keyword .isFalse => true
  | _ => false

/-- What a value can start with. -/
def startsValue (kind : TokenKind) : Bool := kind == .name || kind.isLiteral

/-- A word that modifies a field. -/
def isModifier : TokenKind → Bool
  | .keyword k => k.isModifier
  | _ => false

/-- What can stand behind a component of a name, in one use of names or another. -/
def followsComponent : TokenKind → Bool
  | .symbol s => !(s == .equals || s == .closeSquare)
  | kind => !kind.isLiteral

end TokenKind

/-- The place asks for tokens of this kind. -/
def Place.asksFor (place : Place) (kind : TokenKind) : Bool :=
  match place with
  | .item =>
    [.keyword .optionsBlock, .keyword .typeDecl, .keyword .classDecl].contains kind
  | .optionsBlock => kind == .symbol .openBrace
  | .optionStart => [.name, .symbol .closeBrace].contains kind
  | .optionName _ => kind == .symbol .equals
  | .optionValue _ | .argumentStart .. | .argumentValue .. => kind.startsValue
  | .optionEnd | .argumentEnd .. =>
    [.symbol .comma, .symbol .closeParen, .symbol .semicolon, .symbol .closeBrace, .name].contains
      kind
  | .component .. => kind == .name
  | .named .. => kind.followsComponent
  | .classBody _ => [.name, .symbol .atSign, .symbol .closeBrace].contains kind || kind.isModifier
  | .argumentsOpen .. => kind.startsValue || kind == .symbol .closeParen
  | .argumentWord .. =>
    [.symbol .equals, .symbol .dot, .symbol .comma, .symbol .closeParen].contains kind
  | .annotated .. => [.name, .symbol .atSign].contains kind || kind.isModifier
  | .modified .. => kind == .name || kind.isModifier
  | .dimension .. => kind == .symbol .closeSquare
  | .typed .. =>
    [.symbol .comma, .symbol .openSquare, .symbol .closeAngle, .name, .keyword .typeDecl,
      .keyword .optionsBlock].contains kind
  | .fieldNamed .. => kind == .symbol .semicolon

end ScreenNav
