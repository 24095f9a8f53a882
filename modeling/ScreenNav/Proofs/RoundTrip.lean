import ScreenNav.Proofs.Grammar

/-!
# Declarations read back from their text

**Theorem (`parse_spread`).** Write the tokens of valid and printable declarations in the order of the
grammar, with any layout that is not empty between two of them: white space, and comments that end
with their lines. Then the text parses as these declarations.

The tokens lead from the start of a file to its end, by induction over the declarations
(`Reader.run_tokens`). A text that the tokens are spread over is read token by token, because each
place asks for the token that comes next, and no layout goes on with a token (`Reader.read_spread`).
Validity is needed only at the end, so declarations that are not valid are read as well
(`readText_spread`).
-/

namespace ScreenNav

variable {d : Declarations} {lead text : List Char}

/-- Printable declarations are read, whether they are valid or not. -/
theorem readText_spread (printable : d.IsPrintable) (parens : Bool) (hlead : IsLayout lead)
    (spread : IsSpread (d.tokens parens) text) :
    readText (String.ofList (lead ++ text)) = .ok ⟨d.tokens parens, d⟩ := by
  have written : ∀ t ∈ d.tokens parens, t.IsWritten :=
    fun t ht => (d.isReadable parens printable t ht).1
  have run := Reader.run_tokens parens printable
  obtain ⟨there, passed⟩ := Reader.read_layout hlead .start .start .start text
  rw [readText, String.toList_ofList, passed]
  exact Reader.read_spread spread written run rfl .start there

/-- **Parsing undoes printing.** Valid and printable declarations are parsed from any text that their
tokens are spread over. -/
theorem parse_spread (valid : d.validate = .ok ()) (printable : d.IsPrintable) (parens : Bool)
    (hlead : IsLayout lead) (spread : IsSpread (d.tokens parens) text) :
    parse (String.ofList (lead ++ text)) = .ok d := by
  have short : (d.tokens parens).any Token.isOverlong = false := by
    rw [List.any_eq_false]
    intro t ht
    simp [(d.isReadable parens printable t ht).2]
  have reading := readText_spread printable parens hlead spread
  unfold parse
  rw [reading]
  show (if (d.tokens parens).any Token.isOverlong = true then _ else _) = _
  rw [short, if_neg Bool.false_ne_true, valid]
  rfl

/-! ### One layout between all tokens -/

/-- The spellings of the tokens, with the same layout behind each. -/
def spreadEvenly (gap : List Char) (tokens : List Token) : List Char :=
  tokens.flatMap fun t => t.spelling ++ gap

theorem isSpread_spreadEvenly {gap : List Char} (hgap : IsLayout gap) (some_char : gap ≠ [])
    (tokens : List Token) : IsSpread tokens (spreadEvenly gap tokens) := by
  induction tokens with
  | nil => exact .nil
  | cons token tokens ih =>
    refine ⟨gap, spreadEvenly gap tokens, ?_, hgap, fun _ => some_char, ih⟩
    rw [spreadEvenly, List.flatMap_cons, List.append_assoc]
    rfl

/-- Two options, two types, and a class with every kind of argument and a field called `type`. -/
def cart : Declarations where
  options := [⟨"package", .string "shop.navigation"⟩, ⟨"strict", .bool false⟩]
  types := [⟨"Basket", [], []⟩, ⟨"shop.Order", ["shop.Record", "Basket"], ["android.os.Parcelable"]⟩]
  classes := [
    ⟨"shop.CartActivity", [
      ⟨"type", .mk "java.util.Map" [.mk "String" [] 0, .mk "List" [.mk "shop.Order" [] 1] 0] 2,
        ["private", "final"],
        [⟨"nav.Required", [⟨some "bind", .bool false⟩]⟩,
          ⟨"Note", [⟨none, .string "an \\\" escape"⟩, ⟨some "limit", .int (-12)⟩,
            ⟨none, .float (.signed true ⟨4532020583610935537, by decide⟩)⟩]⟩]⟩,
      ⟨"count", .mk "int" [] 0, [], [⟨"Deprecated", []⟩]⟩]⟩]

/-- A comment and a tab. -/
def commentAndTab : List Char := "# next\n\t".toList

theorem isLayout_commentAndTab : IsLayout commentAndTab :=
  @IsLayout.comment ['#'] " next".toList ['\t'] (.inl rfl) (by decide) (.space rfl .nil)

/-- Declarations with a comment and a tab between any two tokens. -/
theorem parse_spread_cart :
    cart.validate = .ok () ∧ cart.IsPrintable ∧ IsLayout commentAndTab ∧
      IsSpread (cart.tokens true) (spreadEvenly commentAndTab (cart.tokens true)) ∧
      parse (String.ofList (commentAndTab ++ spreadEvenly commentAndTab (cart.tokens true))) =
        .ok cart := by
  have valid : cart.validate = .ok () := rfl
  have printable : cart.IsPrintable := by decide +kernel
  have layout := isLayout_commentAndTab
  have spread := isSpread_spreadEvenly layout (by decide) (cart.tokens true)
  exact ⟨valid, printable, layout, spread, parse_spread valid printable true layout spread⟩

end ScreenNav
