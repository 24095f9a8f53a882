import ScreenNav.Proofs.Acceptance
import ScreenNav.Proofs.QualifiedNames
import ScreenNav.Proofs.TypeTexts

/-!
# The names in a parsed file

A file that is parsed has identifiers for names, with dots between them where the grammar allows dots.
This is what the later stages rely on: they work on names as texts, put them together and cut them
again, and could not tell a bracket that belongs to a name from one that does not.

Main statement: `isWellNamed_of_parse`. The tokens that a text was read as have the form of their
kinds, and a derivation makes names of nothing but words and dots; so the statement goes rule by rule
through the grammar.
-/

namespace ScreenNav

open Lexeme

/-! ## Well-named declarations -/

/-- The names that can get into a navigator are identifiers, those of types and classes with dots. -/
structure Declarations.IsWellNamed (d : Declarations) : Prop where
  types : ∀ decl ∈ d.types, IsDottedIdentifier decl.name
  classes : ∀ c ∈ d.classes, IsDottedIdentifier c.name
  fields : ∀ c ∈ d.classes, ∀ f ∈ c.fields, IsIdentifier f.name ∧ f.type.IsWellNamed

/-! ## Dotted identifiers -/

/-- The components of two names with a dot between them. -/
theorem components_append (first second : String) :
    components (first ++ "." ++ second) = components first ++ components second := by
  have dot : ".".toList = ['.'] := rfl
  rw [components, String.toList_append, String.toList_append, dot, List.append_assoc,
    List.singleton_append, List.splitOn_append_cons_self, List.map_append]
  rfl

theorem components_word {word : String} (h : IsIdentifier word) : components word = [word] := by
  have undotted : '.' ∉ word.toList := by
    intro dot
    exact absurd (h.2.2 '.' dot) (by decide)
  rw [components, List.splitOn_eq_singleton undotted, List.map_singleton, String.ofList_toList]

theorem isDottedIdentifier_word {word : String} (h : IsIdentifier word) :
    IsDottedIdentifier word := by
  intro w hw
  rw [components_word h, List.mem_singleton] at hw
  exact hw ▸ h

theorem isDottedIdentifier_append_iff {first second : String} :
    IsDottedIdentifier (first ++ "." ++ second) ↔
      IsDottedIdentifier first ∧ IsDottedIdentifier second := by
  simp only [IsDottedIdentifier, components_append, List.forall_mem_append]

/-- The package of a name is a name too, unless it is the one without a name. -/
theorem isDottedIdentifier_package {name : String} (h : IsDottedIdentifier name)
    (some_package : QualifiedName.package name ≠ "") :
    IsDottedIdentifier (QualifiedName.package name) := by
  by_cases hdot : QualifiedName.IsDotted name
  · rw [← QualifiedName.package_append_simple hdot, isDottedIdentifier_append_iff] at h
    exact h.1
  · refine absurd ?_ some_package
    rw [QualifiedName.package, QualifiedName.splitLast?_eq_none_iff.2 hdot]

/-- The simple name of a name is a name too. -/
theorem IsDottedIdentifier.simple {name : String} (h : IsDottedIdentifier name) :
    IsDottedIdentifier (QualifiedName.simple name) :=
  QualifiedName.simple_of_member h fun _ _ member => (isDottedIdentifier_append_iff.1 member).2

/-! ## Derived names -/

/-- All of the tokens have the form of their kinds. -/
def AreLexemes (tokens : List Token) : Prop := ∀ token ∈ tokens, token.IsLexeme

variable {tokens : List Token}

@[simp] theorem areLexemes_append {first second : List Token} :
    AreLexemes (first ++ second) ↔ AreLexemes first ∧ AreLexemes second :=
  List.forall_mem_append

@[simp] theorem areLexemes_cons {token : Token} :
    AreLexemes (token :: tokens) ↔ token.IsLexeme ∧ AreLexemes tokens :=
  List.forall_mem_cons

theorem Spells.areLexemes {text : List Char} (h : Spells tokens text) : AreLexemes tokens := by
  induction h with
  | nil => exact fun _ h => absurd h List.not_mem_nil
  | space _ _ ih => exact ih
  | comment _ _ _ _ ih => exact ih
  | token lexeme _ ih => exact areLexemes_cons.2 ⟨lexeme, ih⟩

theorem IsName.isDottedIdentifier {name : String} (h : IsName name tokens)
    (lexemes : AreLexemes tokens) : IsDottedIdentifier name := by
  induction h with
  | word => exact isDottedIdentifier_word (lexemes _ (List.mem_singleton_self _))
  | dotted _ ih =>
    obtain ⟨before, -, word, -⟩ := by simpa using lexemes
    exact isDottedIdentifier_append_iff.2 ⟨ih before, isDottedIdentifier_word word⟩

mutual

theorem IsTypeRef.isWellNamed : {t : TypeRef} → {tokens : List Token} → IsTypeRef t tokens →
    AreLexemes tokens → t.IsWellNamed
  | _, _, .name hname, lexemes => .ofName (hname.isDottedIdentifier lexemes)
  | _, _, .arguments hname hargs, lexemes => by
    obtain ⟨opened, -⟩ := areLexemes_append.1 lexemes
    obtain ⟨named, bracketed⟩ := areLexemes_append.1 opened
    exact .mk (hname.isDottedIdentifier named)
      (forall_isWellNamed hargs (areLexemes_cons.1 bracketed).2)
  | _, _, .dimension typed, lexemes => by
    obtain ⟨hname, hargs⟩ := typed.isWellNamed (areLexemes_append.1 lexemes).1
    exact .mk hname hargs

theorem forall_isWellNamed : {args : List TypeRef} → {tokens : List Token} →
    Separated .comma IsTypeRef args tokens → AreLexemes tokens → ∀ arg ∈ args, arg.IsWellNamed
  | _, _, .one typed, lexemes => List.forall_mem_singleton.2 (typed.isWellNamed lexemes)
  | _, _, .snoc earlier typed, lexemes => by
    obtain ⟨before, last⟩ := areLexemes_append.1 lexemes
    exact List.forall_mem_append.2 ⟨forall_isWellNamed earlier before,
      List.forall_mem_singleton.2 (typed.isWellNamed (areLexemes_cons.1 last).2)⟩

end

theorem IsFieldName.isIdentifier {name : String} (h : IsFieldName name tokens)
    (lexemes : AreLexemes tokens) : IsIdentifier name := by
  cases h with
  | word => exact lexemes _ (List.mem_singleton_self _)
  | typeDecl => exact isIdentifier_spelling .typeDecl
  | optionsBlock => exact isIdentifier_spelling .optionsBlock

theorem IsField.isWellNamed {f : FieldDecl} (h : IsField f tokens) (lexemes : AreLexemes tokens) :
    IsIdentifier f.name ∧ f.type.IsWellNamed := by
  cases h with
  | mk _ _ typed named =>
    simp only [areLexemes_append] at lexemes
    exact ⟨named.isIdentifier lexemes.1.2, typed.isWellNamed lexemes.1.1.2⟩

theorem forall_field_isWellNamed {fields : List FieldDecl} (h : Many IsField fields tokens)
    (lexemes : AreLexemes tokens) : ∀ f ∈ fields, IsIdentifier f.name ∧ f.type.IsWellNamed := by
  induction h with
  | nil => exact fun _ hf => absurd hf List.not_mem_nil
  | snoc _ field ih =>
    obtain ⟨before, last⟩ := areLexemes_append.1 lexemes
    exact List.forall_mem_append.2
      ⟨ih before, List.forall_mem_singleton.2 (field.isWellNamed last)⟩

theorem IsClass.isWellNamed {c : ClassDecl} (h : IsClass c tokens) (lexemes : AreLexemes tokens) :
    IsDottedIdentifier c.name ∧ ∀ f ∈ c.fields, IsIdentifier f.name ∧ f.type.IsWellNamed := by
  cases h with
  | mk named fields =>
    simp only [areLexemes_append, areLexemes_cons] at lexemes
    exact ⟨named.isDottedIdentifier lexemes.1.1.2,
      forall_field_isWellNamed fields lexemes.1.2.2⟩

theorem IsType.isDottedIdentifier {decl : TypeDecl} (h : IsType decl tokens)
    (lexemes : AreLexemes tokens) : IsDottedIdentifier decl.name := by
  cases h with
  | mk named =>
    simp only [areLexemes_append, areLexemes_cons] at lexemes
    exact named.isDottedIdentifier lexemes.1.1.1.2

/-! ## Files -/

theorem IsFile.isWellNamed {d : Declarations} (h : IsFile d tokens) (lexemes : AreLexemes tokens) :
    d.IsWellNamed := by
  induction h with
  | empty => exact ⟨by simp [Declarations.empty], by simp [Declarations.empty],
      by simp [Declarations.empty]⟩
  | options _ _ ih =>
    simp only [areLexemes_append] at lexemes
    obtain ⟨types, classes, fields⟩ := ih lexemes.1.1
    exact ⟨types, classes, fields⟩
  | type _ decl ih =>
    obtain ⟨before, last⟩ := areLexemes_append.1 lexemes
    obtain ⟨types, classes, fields⟩ := ih before
    exact ⟨List.forall_mem_append.2
      ⟨types, List.forall_mem_singleton.2 (decl.isDottedIdentifier last)⟩, classes, fields⟩
  | classDecl _ block ih =>
    obtain ⟨before, last⟩ := areLexemes_append.1 lexemes
    obtain ⟨types, classes, fields⟩ := ih before
    obtain ⟨name, blockFields⟩ := block.isWellNamed last
    exact ⟨types, List.forall_mem_append.2 ⟨classes, List.forall_mem_singleton.2 name⟩,
      List.forall_mem_append.2 ⟨fields, List.forall_mem_singleton.2 blockFields⟩⟩

/-- A file that is parsed is well named. -/
theorem isWellNamed_of_parse {text : String} {d : Declarations} (h : parse text = .ok d) :
    d.IsWellNamed := by
  obtain ⟨tokens, read⟩ := exists_reading_of_parse h
  obtain ⟨spelled, final, run, finish⟩ := Reader.spells_of_read read
  have file : IsFile d tokens := Reader.isFile_of_finish (Reader.reached_run (.item .empty) run) finish
  exact file.isWellNamed spelled.areLexemes

end ScreenNav
