import ScreenNav.Declaration.Place

/-!
# Reading declarations token by token

How a token takes the reading of a file from one place to the next. A token that has no business
at a place is refused.

**Layers.** `afterItem`, `afterOption`, `afterDeclaredType`, `afterArgument`, `inFieldHead` and
`afterType` say what can follow a finished construct, whichever way it ended. `afterName` finishes
a name and hands the token on to one of them.
-/

namespace ScreenNav

/-- The value of a literal. -/
def Token.literal? : Token → Option Value
  | .keyword .isTrue => some (.bool true)
  | .keyword .isFalse => some (.bool false)
  | .number literal => some (.ofNumber literal)
  | .string content => some (.string content)
  | _ => none

/-- The declarations read so far, and the place that the reading has reached. -/
structure Reader where
  done : Declarations
  place : Place
deriving Repr

namespace Reader

/-- The reading of a file of which nothing has been read. -/
def start : Reader := ⟨.empty, .item⟩

/-! ## Finished constructs -/

/-- Records an option. -/
def withOption (done : Declarations) (name : String) (value : Value) : Declarations :=
  { done with options := done.options ++ [⟨name, value⟩] }

/-- Records a type. -/
def withType (done : Declarations) (decl : TypeDecl) : Declarations :=
  { done with types := done.types ++ [decl] }

/-- Records a class block. -/
def withClass (done : Declarations) (block : ClassDecl) : Declarations :=
  { done with classes := done.classes ++ [block] }

/-- A class block with one more field. -/
def withField (block : ClassDecl) (field : FieldDecl) : ClassDecl :=
  { block with fields := block.fields ++ [field] }

/-- An annotation with one more argument. -/
def withArgument (note : Annotation) (name : Option String) (value : Value) : Annotation :=
  { note with arguments := note.arguments ++ [⟨name, value⟩] }

/-- The front of a field with one more annotation. -/
def annotate (head : FieldHead) (note : Annotation) : FieldHead :=
  { head with annotations := head.annotations ++ [note] }

/-- The front of a field with one more modifier. -/
def withModifier (head : FieldHead) (k : Keyword) : FieldHead :=
  { head with modifiers := head.modifiers ++ [k.spelling] }

/-! ## What follows a finished construct -/

/-- A token where a declaration may start. -/
def afterItem (done : Declarations) : Token → Option Reader
  | .keyword .optionsBlock => some ⟨done, .optionsBlock⟩
  | .keyword .typeDecl => some ⟨done, .component .declaredType none⟩
  | .keyword .classDecl => some ⟨done, .component .className none⟩
  | _ => none

/-- A token where an option has ended. -/
def afterOption (done : Declarations) : Token → Option Reader
  | .symbol .semicolon => some ⟨done, .optionStart⟩
  | .symbol .closeBrace => some ⟨done, .item⟩
  | .name word => some ⟨done, .optionName word⟩
  | _ => none

/-- A token where the declaration of a type may end. -/
def afterDeclaredType (done : Declarations) (decl : TypeDecl) : Token → Option Reader
  | .symbol .semicolon => some ⟨withType done decl, .item⟩
  | token => afterItem (withType done decl) token

/-- A token where an argument of an annotation has ended. -/
def afterArgument (done : Declarations) (block : ClassDecl) (head : FieldHead)
    (note : Annotation) : Token → Option Reader
  | .symbol .comma => some ⟨done, .argumentStart block head note⟩
  | .symbol .closeParen => some ⟨done, .annotated block (annotate head note)⟩
  | _ => none

/-- A token where a modifier or the type of a field may start. -/
def afterModifier (done : Declarations) (block : ClassDecl) (head : FieldHead) :
    Token → Option Reader
  | .keyword k => if k.isModifier then some ⟨done, .modified block (withModifier head k)⟩ else none
  | .name word => some ⟨done, .named (.fieldType block head []) word⟩
  | _ => none

/-- A token where an annotation, a modifier or the type of a field may start. -/
def inFieldHead (done : Declarations) (block : ClassDecl) (head : FieldHead) :
    Token → Option Reader
  | .symbol .atSign => some ⟨done, .component (.annotationName block head) none⟩
  | token => afterModifier done block head token

/-- A token where a field may start or the class may end. -/
def inClassBody (done : Declarations) (block : ClassDecl) : Token → Option Reader
  | .symbol .closeBrace => some ⟨withClass done block, .item⟩
  | token => inFieldHead done block .empty token

/-- A token where a type has ended, or goes on with a dimension. Inside type arguments another
argument or the end of the arguments follows; outside, the name of the field. Two of the keywords
are allowed there as names. -/
def afterType (done : Declarations) (block : ClassDecl) (head : FieldHead) (outer : OpenTypes)
    (type : TypeRef) (token : Token) : Option Reader :=
  match token, outer with
  | .symbol .openSquare, _ => some ⟨done, .dimension block head outer type⟩
  | .symbol .comma, (name, args) :: rest =>
    some ⟨done, .component (.fieldType block head ((name, args ++ [type]) :: rest)) none⟩
  | .symbol .closeAngle, (name, args) :: rest =>
    some ⟨done, .typed block head rest (.mk name (args ++ [type]) 0)⟩
  | .name word, [] => some ⟨done, .fieldNamed block (head.field type word)⟩
  | .keyword .typeDecl, [] =>
    some ⟨done, .fieldNamed block (head.field type Keyword.typeDecl.spelling)⟩
  | .keyword .optionsBlock, [] =>
    some ⟨done, .fieldNamed block (head.field type Keyword.optionsBlock.spelling)⟩
  | _, _ => none

/-- A type with one more dimension. -/
def withDimension : TypeRef → TypeRef
  | .mk name args dims => .mk name args (dims + 1)

/-! ## Names -/

/-- A token behind a complete name. -/
def afterName (done : Declarations) (name : String) (token : Token) : NameUse → Option Reader
  | .option option => afterOption (withOption done option (.string name)) token
  | .declaredType =>
    let decl : TypeDecl := ⟨name, [], []⟩
    match token with
    | .keyword .extending => some ⟨done, .component (.parent decl) none⟩
    | .keyword .implementing => some ⟨done, .component (.interface decl) none⟩
    | _ => afterDeclaredType done decl token
  | .parent decl =>
    let decl := { decl with parents := decl.parents ++ [name] }
    match token with
    | .symbol .comma => some ⟨done, .component (.parent decl) none⟩
    | .keyword .implementing => some ⟨done, .component (.interface decl) none⟩
    | _ => afterDeclaredType done decl token
  | .interface decl =>
    let decl := { decl with interfaces := decl.interfaces ++ [name] }
    match token with
    | .symbol .comma => some ⟨done, .component (.interface decl) none⟩
    | _ => afterDeclaredType done decl token
  | .className =>
    match token with
    | .symbol .openBrace => some ⟨done, .classBody ⟨name, []⟩⟩
    | _ => none
  | .annotationName block head =>
    match token with
    | .symbol .openParen => some ⟨done, .argumentsOpen block head ⟨name, []⟩⟩
    | _ => inFieldHead done block (annotate head ⟨name, []⟩) token
  | .argument block head note argument =>
    afterArgument done block head (withArgument note argument (.string name)) token
  | .fieldType block head outer =>
    match token with
    | .symbol .openAngle =>
      some ⟨done, .component (.fieldType block head ((name, []) :: outer)) none⟩
    | _ => afterType done block head outer (.mk name [] 0) token

/-- A name with one more component. -/
def withComponent (before : Option String) (word : String) : String :=
  match before with
  | none => word
  | some name => name ++ "." ++ word

/-! ## Values -/

/-- A token where an argument starts. -/
def atArgument (done : Declarations) (block : ClassDecl) (head : FieldHead)
    (note : Annotation) (token : Token) : Option Reader :=
  match token, token.literal? with
  | .name word, _ => some ⟨done, .argumentWord block head note word⟩
  | _, some value => some ⟨done, .argumentEnd block head (withArgument note none value)⟩
  | _, none => none

/-! ## One token -/

/-- The reading after one more token, unless the token is refused. -/
def step (r : Reader) (token : Token) : Option Reader :=
  match r.place with
  | .item => afterItem r.done token
  | .optionsBlock =>
    if token = .symbol .openBrace then some ⟨r.done, .optionStart⟩ else none
  | .optionStart =>
    match token with
    | .symbol .closeBrace => some ⟨r.done, .item⟩
    | .name word => some ⟨r.done, .optionName word⟩
    | _ => none
  | .optionName name =>
    if token = .symbol .equals then some ⟨r.done, .optionValue name⟩ else none
  | .optionValue name =>
    match token, token.literal? with
    | .name word, _ => some ⟨r.done, .named (.option name) word⟩
    | _, some value => some ⟨withOption r.done name value, .optionEnd⟩
    | _, none => none
  | .optionEnd => afterOption r.done token
  | .component use before =>
    match token with
    | .name word => some ⟨r.done, .named use (withComponent before word)⟩
    | _ => none
  | .named use name =>
    match token with
    | .symbol .dot => some ⟨r.done, .component use (some name)⟩
    | _ => afterName r.done name token use
  | .classBody block => inClassBody r.done block token
  | .argumentsOpen block head note =>
    match token with
    | .symbol .closeParen => some ⟨r.done, .annotated block (annotate head note)⟩
    | _ => atArgument r.done block head note token
  | .argumentStart block head note => atArgument r.done block head note token
  | .argumentWord block head note word =>
    match token with
    | .symbol .equals => some ⟨r.done, .argumentValue block head note word⟩
    | .symbol .dot => some ⟨r.done, .component (.argument block head note none) (some word)⟩
    | _ => afterArgument r.done block head (withArgument note none (.string word)) token
  | .argumentValue block head note name =>
    match token, token.literal? with
    | .name word, _ => some ⟨r.done, .named (.argument block head note (some name)) word⟩
    | _, some value =>
      some ⟨r.done, .argumentEnd block head (withArgument note (some name) value)⟩
    | _, none => none
  | .argumentEnd block head note => afterArgument r.done block head note token
  | .annotated block head => inFieldHead r.done block head token
  | .modified block head => afterModifier r.done block head token
  | .dimension block head outer type =>
    if token = .symbol .closeSquare then some ⟨r.done, .typed block head outer (withDimension type)⟩
    else none
  | .typed block head outer type => afterType r.done block head outer type token
  | .fieldNamed block field =>
    if token = .symbol .semicolon then some ⟨r.done, .classBody (withField block field)⟩ else none

/-- The declarations of a file that ends here, unless something is missing. -/
def finish (r : Reader) : Option Declarations :=
  match r.place with
  | .item => some r.done
  | .named .declaredType name => some (withType r.done ⟨name, [], []⟩)
  | .named (.parent decl) name =>
    some (withType r.done { decl with parents := decl.parents ++ [name] })
  | .named (.interface decl) name =>
    some (withType r.done { decl with interfaces := decl.interfaces ++ [name] })
  | _ => none

end Reader

end ScreenNav
