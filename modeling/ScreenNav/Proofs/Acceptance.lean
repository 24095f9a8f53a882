import ScreenNav.Proofs.Derivation
import ScreenNav.Proofs.Tokenization

/-!
# Only what the grammar derives is accepted

**Theorem (`parse_derives`).** A text that is parsed consists of tokens with layout around them, the
grammar derives a file from these tokens, and the file declares exactly what is returned.

The proof is an induction over the tokens. The invariant, `Reached`, says of every place what has been
read before it: finished constructs, each with its derivation, and the start of those that are still
open. What has been collected for an open construct is what the derivations say, so nothing that was
read can be lost, put elsewhere or counted twice.

Every layer of the reading has one lemma here, for the tokens that it accepts. Where a construct may
end and its last part may go on, as behind a name, both are possible ends of what has been read, and
the next token decides which one is taken.
-/

namespace ScreenNav

namespace Reader

/-! ## Open constructs -/

/-- Where an option may start: behind the opening of a block and some options. -/
inductive InOptions : Declarations → List Token → Prop
  | mk {d : Declarations} {options : List OptionDecl} {before tokens : List Token} :
      IsFile d before → Many IsOption options tokens →
      InOptions { d with options := d.options ++ options }
        (before ++ .keyword .optionsBlock :: .symbol .openBrace :: tokens)

/-- Behind the value of an option, where a semicolon may follow. -/
inductive BehindOption : Declarations → List Token → Prop
  | mk {d : Declarations} {name : String} {value : Value} {before tokens : List Token} :
      InOptions d before → IsValue value tokens →
      BehindOption (withOption d name value) (before ++ .name name :: .symbol .equals :: tokens)

/-- Behind the name of a declared type and the clauses for supertypes, if there are any. -/
inductive BehindType : Declarations → TypeDecl → List Token → Prop
  | mk {d : Declarations} {name : String} {parents interfaces : List String}
      {before named extending implementing : List Token} : IsFile d before → IsName name named →
      IsClause .extending parents extending → IsClause .implementing interfaces implementing →
      BehindType d ⟨name, parents, interfaces⟩
        (before ++ .keyword .typeDecl :: named ++ extending ++ implementing)

/-- Where a field may start: behind the opening of a class and some fields. -/
inductive InBlock : Declarations → ClassDecl → List Token → Prop
  | mk {d : Declarations} {name : String} {fields : List FieldDecl}
      {before named tokens : List Token} : IsFile d before → IsName name named →
      Many IsField fields tokens → InBlock d ⟨name, fields⟩
        (before ++ .keyword .classDecl :: named ++ .symbol .openBrace :: tokens)

/-- Where an annotation may start: behind some annotations of a field. -/
inductive InNotes : Declarations → ClassDecl → FieldHead → List Token → Prop
  | mk {d : Declarations} {block : ClassDecl} {annotations : List Annotation}
      {before tokens : List Token} : InBlock d block before → Many IsAnnotation annotations tokens →
      InNotes d block ⟨annotations, []⟩ (before ++ tokens)

/-- Where a modifier or the type of a field may start. -/
inductive InFieldFront : Declarations → ClassDecl → FieldHead → List Token → Prop
  | mk {d : Declarations} {block : ClassDecl} {annotations : List Annotation}
      {modifiers : List String} {before tokens : List Token} :
      InNotes d block ⟨annotations, []⟩ before → Many IsModifier modifiers tokens →
      InFieldFront d block ⟨annotations, modifiers⟩ (before ++ tokens)

/-- Where an argument of an annotation may start. -/
inductive InArguments : Declarations → ClassDecl → FieldHead → Annotation → List Token → Prop
  | mk {d : Declarations} {block : ClassDecl} {head : FieldHead} {name : String}
      {arguments : List Argument} {before named tokens : List Token} : InNotes d block head before →
      IsName name named → Ended .comma IsArgument arguments tokens →
      InArguments d block head ⟨name, arguments⟩
        (before ++ .symbol .atSign :: named ++ .symbol .openParen :: tokens)

/-- Behind an argument of an annotation. -/
inductive BehindArgument : Declarations → ClassDecl → FieldHead → Annotation → List Token → Prop
  | mk {d : Declarations} {block : ClassDecl} {head : FieldHead} {name : String}
      {arguments : List Argument} {before named tokens : List Token} : InNotes d block head before →
      IsName name named → Separated .comma IsArgument arguments tokens →
      BehindArgument d block head ⟨name, arguments⟩
        (before ++ .symbol .atSign :: named ++ .symbol .openParen :: tokens)

/-- Where the type of a field, or an argument inside of open types may start. -/
inductive InTypes : Declarations → ClassDecl → FieldHead → OpenTypes → List Token → Prop
  | field {d : Declarations} {block : ClassDecl} {head : FieldHead} {before : List Token} :
      InFieldFront d block head before → InTypes d block head [] before
  | argument {d : Declarations} {block : ClassDecl} {head : FieldHead} {outer : OpenTypes}
      {name : String} {args : List TypeRef} {before named tokens : List Token} :
      InTypes d block head outer before → IsName name named → Ended .comma IsTypeRef args tokens →
      InTypes d block head ((name, args) :: outer)
        (before ++ named ++ .symbol .openAngle :: tokens)

/-- Behind a type, which may go on with dimensions. -/
inductive BehindTypeRef :
    Declarations → ClassDecl → FieldHead → OpenTypes → TypeRef → List Token → Prop
  | mk {d : Declarations} {block : ClassDecl} {head : FieldHead} {outer : OpenTypes}
      {type : TypeRef} {before tokens : List Token} : InTypes d block head outer before →
      IsTypeRef type tokens → BehindTypeRef d block head outer type (before ++ tokens)

/-- Where a name may start that is used in the given way. -/
inductive InUse : Declarations → NameUse → List Token → Prop
  | option {d : Declarations} {name : String} {before : List Token} : InOptions d before →
      InUse d (.option name) (before ++ [.name name, .symbol .equals])
  | declaredType {d : Declarations} {before : List Token} : IsFile d before →
      InUse d .declaredType (before ++ [.keyword .typeDecl])
  | parent {d : Declarations} {name : String} {parents : List String}
      {before named tokens : List Token} : IsFile d before → IsName name named →
      Ended .comma IsName parents tokens → InUse d (.parent ⟨name, parents, []⟩)
        (before ++ .keyword .typeDecl :: named ++ .keyword .extending :: tokens)
  | interface {d : Declarations} {name : String} {parents interfaces : List String}
      {before named extending tokens : List Token} : IsFile d before → IsName name named →
      IsClause .extending parents extending → Ended .comma IsName interfaces tokens →
      InUse d (.interface ⟨name, parents, interfaces⟩)
        (before ++ .keyword .typeDecl :: named ++ extending ++ .keyword .implementing :: tokens)
  | className {d : Declarations} {before : List Token} : IsFile d before →
      InUse d .className (before ++ [.keyword .classDecl])
  | annotationName {d : Declarations} {block : ClassDecl} {head : FieldHead}
      {before : List Token} : InNotes d block head before →
      InUse d (.annotationName block head) (before ++ [.symbol .atSign])
  | argument {d : Declarations} {block : ClassDecl} {head : FieldHead} {note : Annotation}
      {before : List Token} : InArguments d block head note before →
      InUse d (.argument block head note none) before
  | namedArgument {d : Declarations} {block : ClassDecl} {head : FieldHead} {note : Annotation}
      {name : String} {before : List Token} : InArguments d block head note before →
      InUse d (.argument block head note (some name)) (before ++ [.name name, .symbol .equals])
  | fieldType {d : Declarations} {block : ClassDecl} {head : FieldHead} {outer : OpenTypes}
      {before : List Token} : InTypes d block head outer before →
      InUse d (.fieldType block head outer) before

/-- **The invariant.** What has been read where the reading has reached a place. -/
inductive Reached (d : Declarations) : Place → List Token → Prop
  | item {tokens : List Token} : IsFile d tokens → Reached d .item tokens
  | optionsBlock {before : List Token} : IsFile d before →
      Reached d .optionsBlock (before ++ [.keyword .optionsBlock])
  | optionStart {tokens : List Token} : InOptions d tokens → Reached d .optionStart tokens
  | optionName {name : String} {before : List Token} : InOptions d before →
      Reached d (.optionName name) (before ++ [.name name])
  | optionValue {name : String} {tokens : List Token} : InUse d (.option name) tokens →
      Reached d (.optionValue name) tokens
  | optionEnd {tokens : List Token} : BehindOption d tokens → Reached d .optionEnd tokens
  | component {use : NameUse} {tokens : List Token} : InUse d use tokens →
      Reached d (.component use none) tokens
  | dotted {use : NameUse} {name : String} {before tokens : List Token} : InUse d use before →
      IsName name tokens → Reached d (.component use (some name)) (before ++ tokens ++ [.symbol .dot])
  | named {use : NameUse} {name : String} {before tokens : List Token} : InUse d use before →
      IsName name tokens → Reached d (.named use name) (before ++ tokens)
  | classBody {block : ClassDecl} {tokens : List Token} : InBlock d block tokens →
      Reached d (.classBody block) tokens
  | argumentsOpen {block : ClassDecl} {head : FieldHead} {name : String}
      {before named : List Token} : InNotes d block head before → IsName name named →
      Reached d (.argumentsOpen block head ⟨name, []⟩)
        (before ++ .symbol .atSign :: named ++ [.symbol .openParen])
  | argumentStart {block : ClassDecl} {head : FieldHead} {note : Annotation} {tokens : List Token} :
      InArguments d block head note tokens → Reached d (.argumentStart block head note) tokens
  | argumentWord {block : ClassDecl} {head : FieldHead} {note : Annotation} {word : String}
      {before : List Token} : InArguments d block head note before →
      Reached d (.argumentWord block head note word) (before ++ [.name word])
  | argumentValue {block : ClassDecl} {head : FieldHead} {note : Annotation} {name : String}
      {tokens : List Token} : InUse d (.argument block head note (some name)) tokens →
      Reached d (.argumentValue block head note name) tokens
  | argumentEnd {block : ClassDecl} {head : FieldHead} {note : Annotation} {tokens : List Token} :
      BehindArgument d block head note tokens → Reached d (.argumentEnd block head note) tokens
  | annotated {block : ClassDecl} {head : FieldHead} {tokens : List Token} :
      InNotes d block head tokens → Reached d (.annotated block head) tokens
  | modified {block : ClassDecl} {head : FieldHead} {tokens : List Token} :
      InFieldFront d block head tokens → Reached d (.modified block head) tokens
  | dimension {block : ClassDecl} {head : FieldHead} {outer : OpenTypes} {type : TypeRef}
      {before : List Token} : BehindTypeRef d block head outer type before →
      Reached d (.dimension block head outer type) (before ++ [.symbol .openSquare])
  | typed {block : ClassDecl} {head : FieldHead} {outer : OpenTypes} {type : TypeRef}
      {tokens : List Token} : BehindTypeRef d block head outer type tokens →
      Reached d (.typed block head outer type) tokens
  | fieldNamed {block : ClassDecl} {field : FieldDecl} {before tokens : List Token} :
      InBlock d block before → IsField field (tokens ++ [.symbol .semicolon]) →
      Reached d (.fieldNamed block field) (before ++ tokens)

variable {d : Declarations} {block : ClassDecl} {head : FieldHead} {note : Annotation}
  {outer : OpenTypes} {type : TypeRef} {tokens : List Token} {token : Token} {next : Reader}

/-! ## Files and options -/

theorem reached_afterItem (h : IsFile d tokens) (hnext : afterItem d token = some next) :
    Reached next.done next.place (tokens ++ [token]) := by
  unfold afterItem at hnext
  split at hnext
  · obtain rfl := Option.some.inj hnext
    exact .optionsBlock h
  · obtain rfl := Option.some.inj hnext
    exact .component (.declaredType h)
  · obtain rfl := Option.some.inj hnext
    exact .component (.className h)
  · exact nomatch hnext

theorem InOptions.close (h : InOptions d tokens) : IsFile d (tokens ++ [.symbol .closeBrace]) := by
  cases h with
  | mk file options => simpa using IsFile.options file options

/-- An option ends with a semicolon or without one. -/
theorem BehindOption.inOptions {ending : List Token} (h : BehindOption d tokens)
    (hend : IsEnd ending) : InOptions d (tokens ++ ending) := by
  cases h with
  | mk start value =>
    cases start with
    | mk file options =>
      simpa [withOption] using InOptions.mk file (.snoc options (.mk value hend))

theorem reached_afterOption (h : BehindOption d tokens) (hnext : afterOption d token = some next) :
    Reached next.done next.place (tokens ++ [token]) := by
  have ended := h.inOptions .none
  rw [List.append_nil] at ended
  unfold afterOption at hnext
  split at hnext
  · obtain rfl := Option.some.inj hnext
    exact .optionStart (h.inOptions .semicolon)
  · obtain rfl := Option.some.inj hnext
    exact .item ended.close
  · obtain rfl := Option.some.inj hnext
    exact .optionName ended
  · exact nomatch hnext

/-! ## Types -/

/-- A type ends with a semicolon or without one. -/
theorem BehindType.isFile {decl : TypeDecl} {ending : List Token} (h : BehindType d decl tokens)
    (hend : IsEnd ending) : IsFile (withType d decl) (tokens ++ ending) := by
  cases h with
  | mk file name extending implementing =>
    simpa [withType] using IsFile.type file (.mk name extending implementing hend)

namespace InUse

variable {decl : TypeDecl} {name : String} {before named : List Token}

theorem behindType (h : InUse d .declaredType before) (hname : IsName name named) :
    BehindType d ⟨name, [], []⟩ (before ++ named) := by
  cases h with
  | declaredType file => simpa using BehindType.mk file hname .none .none

theorem behindParent (h : InUse d (.parent decl) before) (hname : IsName name named) :
    BehindType d { decl with parents := decl.parents ++ [name] } (before ++ named) := by
  cases h with
  | parent file declared parents =>
    simpa using BehindType.mk file declared (.names (parents.separated hname)) .none

theorem behindInterface (h : InUse d (.interface decl) before) (hname : IsName name named) :
    BehindType d { decl with interfaces := decl.interfaces ++ [name] } (before ++ named) := by
  cases h with
  | interface file declared extending interfaces =>
    simpa using BehindType.mk file declared extending (.names (interfaces.separated hname))

end InUse

theorem reached_afterDeclaredType {decl : TypeDecl} (h : BehindType d decl tokens)
    (hnext : afterDeclaredType d decl token = some next) :
    Reached next.done next.place (tokens ++ [token]) := by
  have ended := h.isFile .none
  rw [List.append_nil] at ended
  unfold afterDeclaredType at hnext
  split at hnext
  · obtain rfl := Option.some.inj hnext
    exact .item (h.isFile .semicolon)
  · exact reached_afterItem ended hnext

/-! ## Annotations -/

theorem InNotes.annotate {added : List Token} (h : InNotes d block head tokens)
    (hnote : IsAnnotation note added) : InNotes d block (annotate head note) (tokens ++ added) := by
  cases h with
  | mk start annotations => simpa [Reader.annotate] using InNotes.mk start (.snoc annotations hnote)

theorem InArguments.behind {argument : Argument} {added : List Token}
    (h : InArguments d block head note tokens) (harg : IsArgument argument added) :
    BehindArgument d block head (withArgument note argument.name argument.value)
      (tokens ++ added) := by
  cases h with
  | mk start name arguments =>
    simpa [withArgument] using BehindArgument.mk start name (arguments.separated harg)

theorem reached_afterArgument (h : BehindArgument d block head note tokens)
    (hnext : afterArgument d block head note token = some next) :
    Reached next.done next.place (tokens ++ [token]) := by
  cases h with
  | mk start name arguments =>
    unfold afterArgument at hnext
    split at hnext
    · obtain rfl := Option.some.inj hnext
      simpa using Reached.argumentStart (.mk start name arguments.ended)
    · obtain rfl := Option.some.inj hnext
      simpa using Reached.annotated (start.annotate (.mk name (.arguments arguments)))
    · exact nomatch hnext

theorem isValue_of_literal? {value : Value} (h : token.literal? = some value) :
    IsValue value [token] := by
  unfold Token.literal? at h
  split at h
  · obtain rfl := Option.some.inj h
    exact .isTrue
  · obtain rfl := Option.some.inj h
    exact .isFalse
  · obtain rfl := Option.some.inj h
    exact .number
  · obtain rfl := Option.some.inj h
    exact .string
  · exact nomatch h

theorem reached_atArgument (h : InArguments d block head note tokens)
    (hnext : atArgument d block head note token = some next) :
    Reached next.done next.place (tokens ++ [token]) := by
  unfold atArgument at hnext
  split at hnext
  · obtain rfl := Option.some.inj hnext
    exact .argumentWord h
  · rename_i value literal
    obtain rfl := Option.some.inj hnext
    exact .argumentEnd (h.behind (.plain (isValue_of_literal? literal)))
  · exact nomatch hnext

/-! ## Fields -/

theorem InNotes.inFieldFront (h : InNotes d block head tokens) :
    InFieldFront d block head tokens := by
  cases h with
  | mk start annotations => simpa using InFieldFront.mk (.mk start annotations) .nil

theorem InFieldFront.modify {k : Keyword} (h : InFieldFront d block head tokens)
    (modifier : k.isModifier = true) :
    InFieldFront d block (withModifier head k) (tokens ++ [.keyword k]) := by
  cases h with
  | mk start modifiers =>
    simpa [withModifier] using InFieldFront.mk start (.snoc modifiers (.mk modifier))

theorem reached_afterModifier (h : InFieldFront d block head tokens)
    (hnext : afterModifier d block head token = some next) :
    Reached next.done next.place (tokens ++ [token]) := by
  unfold afterModifier at hnext
  split at hnext
  · split at hnext
    · obtain rfl := Option.some.inj hnext
      exact .modified (h.modify ‹_›)
    · exact nomatch hnext
  · obtain rfl := Option.some.inj hnext
    exact .named (.fieldType (.field h)) .word
  · exact nomatch hnext

theorem reached_inFieldHead (h : InNotes d block head tokens)
    (hnext : inFieldHead d block head token = some next) :
    Reached next.done next.place (tokens ++ [token]) := by
  unfold inFieldHead at hnext
  split at hnext
  · obtain rfl := Option.some.inj hnext
    exact .component (.annotationName h)
  · exact reached_afterModifier h.inFieldFront hnext

theorem InBlock.close (h : InBlock d block tokens) :
    IsFile (withClass d block) (tokens ++ [.symbol .closeBrace]) := by
  cases h with
  | mk file name fields => simpa [withClass] using IsFile.classDecl file (.mk name fields)

theorem reached_inClassBody (h : InBlock d block tokens)
    (hnext : inClassBody d block token = some next) :
    Reached next.done next.place (tokens ++ [token]) := by
  unfold inClassBody at hnext
  split at hnext
  · obtain rfl := Option.some.inj hnext
    exact .item h.close
  · have front := InNotes.mk h .nil
    rw [List.append_nil] at front
    exact reached_inFieldHead front hnext

/-- Behind the type of a field its name is expected. -/
theorem BehindTypeRef.reached_fieldNamed {name : String} (h : BehindTypeRef d block head [] type tokens)
    (named : IsFieldName name [token]) :
    Reached d (.fieldNamed block (head.field type name)) (tokens ++ [token]) := by
  cases h with
  | mk start typed =>
    cases start with
    | field start =>
      cases start with
      | mk start modifiers =>
        cases start with
        | mk start annotations =>
          simpa [FieldHead.field] using Reached.fieldNamed start (.mk annotations modifiers typed named)

theorem isTypeRef_withDimension (h : IsTypeRef type tokens) :
    IsTypeRef (withDimension type) (tokens ++ [.symbol .openSquare, .symbol .closeSquare]) := by
  cases type
  exact .dimension h

theorem reached_afterType (h : BehindTypeRef d block head outer type tokens)
    (hnext : afterType d block head outer type token = some next) :
    Reached next.done next.place (tokens ++ [token]) := by
  unfold afterType at hnext
  split at hnext
  · obtain rfl := Option.some.inj hnext
    exact .dimension h
  · obtain rfl := Option.some.inj hnext
    cases h with
    | mk start typed =>
      cases start with
      | argument start name args =>
        simpa using Reached.component (.fieldType (.argument start name (.snoc args typed)))
  · obtain rfl := Option.some.inj hnext
    cases h with
    | mk start typed =>
      cases start with
      | argument start name args =>
        simpa using Reached.typed (.mk start (.arguments name (args.separated typed)))
  · obtain rfl := Option.some.inj hnext
    exact h.reached_fieldNamed .word
  · obtain rfl := Option.some.inj hnext
    exact h.reached_fieldNamed .typeDecl
  · obtain rfl := Option.some.inj hnext
    exact h.reached_fieldNamed .optionsBlock
  · exact nomatch hnext

/-! ## Names -/

theorem reached_afterName {use : NameUse} {name : String} {before named : List Token}
    (huse : InUse d use before) (hname : IsName name named)
    (hnext : afterName d name token use = some next) :
    Reached next.done next.place (before ++ named ++ [token]) := by
  -- `ended` is what has been read if the construct ends with the name. Every token that does not go on
  -- with the construct is one behind it.
  cases huse with
  | @option option _ start =>
    have ended : BehindOption (withOption d option (.string name)) _ := .mk start (.name hname)
    simpa using reached_afterOption ended hnext
  | declaredType file =>
    have ended := (InUse.declaredType file).behindType hname
    simp only [afterName] at hnext
    split at hnext
    · obtain rfl := Option.some.inj hnext
      simpa using Reached.component (.parent file hname .nil)
    · obtain rfl := Option.some.inj hnext
      simpa using Reached.component (.interface file hname .none .nil)
    · exact reached_afterDeclaredType ended hnext
  | parent file declared parents =>
    have ended := (InUse.parent file declared parents).behindParent hname
    simp only [afterName] at hnext
    split at hnext
    · obtain rfl := Option.some.inj hnext
      simpa using Reached.component (.parent file declared (parents.separated hname).ended)
    · obtain rfl := Option.some.inj hnext
      simpa using Reached.component
        (.interface file declared (.names (parents.separated hname)) .nil)
    · exact reached_afterDeclaredType ended hnext
  | interface file declared extending interfaces =>
    have ended := (InUse.interface file declared extending interfaces).behindInterface hname
    simp only [afterName] at hnext
    split at hnext
    · obtain rfl := Option.some.inj hnext
      simpa using Reached.component
        (.interface file declared extending (interfaces.separated hname).ended)
    · exact reached_afterDeclaredType ended hnext
  | className file =>
    simp only [afterName] at hnext
    split at hnext
    · obtain rfl := Option.some.inj hnext
      simpa using Reached.classBody (.mk file hname .nil)
    · exact nomatch hnext
  | annotationName start =>
    have ended := start.annotate (.mk hname .left_out)
    simp only [afterName] at hnext
    split at hnext
    · obtain rfl := Option.some.inj hnext
      simpa using Reached.argumentsOpen start hname
    · simpa using reached_inFieldHead ended hnext
  | argument start =>
    have ended := start.behind (.plain (.name hname))
    simpa using reached_afterArgument ended hnext
  | @namedArgument _ _ _ argument _ start =>
    have harg : IsArgument ⟨some argument, .string name⟩ _ := .named (.name hname)
    simpa using reached_afterArgument (start.behind harg) hnext
  | fieldType start =>
    simp only [afterName] at hnext
    split at hnext
    · obtain rfl := Option.some.inj hnext
      simpa using Reached.component (.fieldType (.argument start hname .nil))
    · exact reached_afterType (.mk start (.name hname)) hnext

/-! ## The run -/

/-- A token takes the reading from what has been read to what has been read with the token. -/
theorem reached_step {place : Place} (h : Reached d place tokens)
    (hnext : step ⟨d, place⟩ token = some next) :
    Reached next.done next.place (tokens ++ [token]) := by
  cases h with
  | item file => exact reached_afterItem file hnext
  | optionsBlock file =>
    simp only [step, Option.ite_none_right_eq_some] at hnext
    obtain ⟨rfl, rfl⟩ := hnext.imp_right Option.some.inj
    simpa using Reached.optionStart (.mk file .nil)
  | optionStart start =>
    -- No option has been read here whose semicolon is missing, so none is accepted.
    simp only [step] at hnext
    split at hnext
    · obtain rfl := Option.some.inj hnext
      exact .item start.close
    · obtain rfl := Option.some.inj hnext
      exact .optionName start
    · exact nomatch hnext
  | optionName start =>
    simp only [step, Option.ite_none_right_eq_some] at hnext
    obtain ⟨rfl, rfl⟩ := hnext.imp_right Option.some.inj
    simpa using Reached.optionValue (.option start)
  | optionValue start =>
    simp only [step] at hnext
    split at hnext
    · obtain rfl := Option.some.inj hnext
      exact .named start .word
    · rename_i value literal
      obtain rfl := Option.some.inj hnext
      cases start with
      | option start => simpa using Reached.optionEnd (.mk start (isValue_of_literal? literal))
    · exact nomatch hnext
  | optionEnd ended => exact reached_afterOption ended hnext
  | component start =>
    simp only [step] at hnext
    split at hnext
    · obtain rfl := Option.some.inj hnext
      exact .named start .word
    · exact nomatch hnext
  | dotted start name =>
    simp only [step] at hnext
    split at hnext
    · obtain rfl := Option.some.inj hnext
      simpa [withComponent] using Reached.named start name.dotted
    · exact nomatch hnext
  | named start name =>
    simp only [step] at hnext
    split at hnext
    · obtain rfl := Option.some.inj hnext
      exact .dotted start name
    · exact reached_afterName start name hnext
  | classBody start => exact reached_inClassBody start hnext
  | argumentsOpen start name =>
    simp only [step] at hnext
    split at hnext
    · obtain rfl := Option.some.inj hnext
      simpa using Reached.annotated (start.annotate (.mk name .empty))
    · simpa using reached_atArgument (.mk start name .nil) hnext
  | argumentStart start => exact reached_atArgument start hnext
  | argumentWord start =>
    -- The word is the name of the argument, the first word of its value, or all of it.
    simp only [step] at hnext
    split at hnext
    · obtain rfl := Option.some.inj hnext
      simpa using Reached.argumentValue (.namedArgument start)
    · obtain rfl := Option.some.inj hnext
      exact .dotted (.argument start) .word
    · exact reached_afterArgument (start.behind (.plain (.name .word))) hnext
  | @argumentValue _ _ _ name _ start =>
    simp only [step] at hnext
    split at hnext
    · obtain rfl := Option.some.inj hnext
      exact .named start .word
    · rename_i value _ literal
      obtain rfl := Option.some.inj hnext
      cases start with
      | namedArgument start =>
        have harg : IsArgument ⟨some name, value⟩ _ := .named (isValue_of_literal? literal)
        simpa using Reached.argumentEnd (start.behind harg)
    · exact nomatch hnext
  | argumentEnd ended => exact reached_afterArgument ended hnext
  | annotated start => exact reached_inFieldHead start hnext
  | modified start => exact reached_afterModifier start hnext
  | dimension ended =>
    simp only [step, Option.ite_none_right_eq_some] at hnext
    obtain ⟨rfl, rfl⟩ := hnext.imp_right Option.some.inj
    cases ended with
    | mk start typed => simpa using Reached.typed (.mk start (isTypeRef_withDimension typed))
  | typed ended => exact reached_afterType ended hnext
  | fieldNamed start field =>
    simp only [step, Option.ite_none_right_eq_some] at hnext
    obtain ⟨rfl, rfl⟩ := hnext.imp_right Option.some.inj
    cases start with
    | mk file name fields =>
      simpa [withField] using Reached.classBody (.mk file name (.snoc fields field))

/-- What has been read when the reading is at a place is what has been read before, with all tokens
behind it. -/
theorem reached_run {r final : Reader} {before : List Token} (h : Reached r.done r.place before)
    (hrun : r.run tokens = some final) : Reached final.done final.place (before ++ tokens) := by
  induction tokens generalizing r before with
  | nil =>
    obtain rfl := Option.some.inj hrun
    rwa [List.append_nil]
  | cons token tokens ih =>
    obtain ⟨next, htake, hnext⟩ := Option.bind_eq_some_iff.1 ((run_cons r token tokens).symm.trans hrun)
    have stepped := reached_step h (take_eq_some htake).2
    rw [List.append_cons]
    exact ih stepped hnext

/-- Where a file may end, a whole file has been read. -/
theorem isFile_of_finish {r : Reader} (h : Reached r.done r.place tokens)
    (hfinish : r.finish = some d) : IsFile d tokens := by
  obtain ⟨done, place⟩ := r
  simp only [finish] at hfinish
  split at hfinish
  · obtain rfl := Option.some.inj hfinish
    cases h with
    | item file => exact file
  · obtain rfl := Option.some.inj hfinish
    cases h with
    | named start name => simpa using (start.behindType name).isFile .none
  · obtain rfl := Option.some.inj hfinish
    cases h with
    | named start name => simpa using (start.behindParent name).isFile .none
  · obtain rfl := Option.some.inj hfinish
    cases h with
    | named start name => simpa using (start.behindInterface name).isFile .none
  · exact nomatch hfinish

end Reader

/-! ## Texts -/

/-- What is parsed has been read, and is valid. -/
theorem exists_valid_reading_of_parse {text : String} {d : Declarations}
    (h : parse text = .ok d) :
    ∃ tokens, readText text = .ok ⟨tokens, d⟩ ∧ d.validate = .ok () := by
  unfold parse at h
  cases read : readText text with
  | error e => exact nomatch read ▸ h
  | ok reading =>
    rw [read] at h
    change (if _ then _ else _) = _ at h
    split at h
    · exact nomatch h
    cases valid : reading.declarations.validate with
    | error e => exact nomatch valid ▸ h
    | ok _ =>
      rw [valid] at h
      obtain rfl := Except.ok.inj h
      exact ⟨reading.tokens, rfl, valid⟩

theorem exists_reading_of_parse {text : String} {d : Declarations} (h : parse text = .ok d) :
    ∃ tokens, readText text = .ok ⟨tokens, d⟩ := by
  obtain ⟨tokens, read, -⟩ := exists_valid_reading_of_parse h
  exact ⟨tokens, read⟩

/-- A text that is read is parsed if its integers are not too long and its declarations are valid. -/
theorem parse_of_readText {text : String} {tokens : List Token} {d : Declarations}
    (h : readText text = .ok ⟨tokens, d⟩) (short : tokens.any Token.isOverlong = false)
    (valid : d.validate = .ok ()) : parse text = .ok d := by
  unfold parse
  rw [h]
  show (if tokens.any Token.isOverlong = true then _ else _) = _
  rw [short, if_neg Bool.false_ne_true, valid]
  rfl

/-- **Parsing accepts only what the grammar derives, and drops nothing.** A text that is parsed is
spelled by tokens, and from these the grammar derives a file with the declarations that are returned. -/
theorem parse_derives {text : String} {d : Declarations} (h : parse text = .ok d) :
    ∃ tokens, Spells tokens text.toList ∧ IsFile d tokens := by
  obtain ⟨tokens, read⟩ := exists_reading_of_parse h
  obtain ⟨spelled, final, run, finish⟩ := Reader.spells_of_read read
  rw [List.drop_zero] at spelled
  have reached := Reader.reached_run (.item .empty) run
  exact ⟨tokens, spelled, Reader.isFile_of_finish reached finish⟩

/-- A file with as little layout as possible, two blocks of options, and a comment that the text ends
with. One of the options has no semicolon, and the word for a class stands right before its name. -/
def denseText : String :=
  "options\x7bstrict=true\x7dtype B extends C;classa.D\x7b@E()public int[]x;\x7d" ++
    "options\x7bpackage=p.q;\x7d# end"

/-- The declarations of the file. -/
def denseDeclarations : Declarations :=
  { options := [⟨"strict", .bool true⟩, ⟨"package", .string "p.q"⟩]
    types := [⟨"B", ["C"], []⟩]
    classes := [⟨"a.D", [⟨"x", .mk "int" [] 1, ["public"], [⟨"E", []⟩]⟩]⟩] }

set_option maxRecDepth 4000 in
theorem parse_derives_dense :
    parse denseText = .ok denseDeclarations ∧
      ∃ tokens, Spells tokens denseText.toList ∧ IsFile denseDeclarations tokens := by
  have parsed : parse denseText = .ok denseDeclarations := by decide +kernel
  exact ⟨parsed, parse_derives parsed⟩

end ScreenNav
