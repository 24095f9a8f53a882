import ScreenNav.Declaration.Lexeme
import ScreenNav.Declaration.Reader
import ScreenNav.Validation

/-!
# Reading a declaration file

From the text of a file to its declarations.

**Reading.** The text is gone through once, character by character. Where layout or a token starts
its length is known, and that many characters are skipped. What a place asks for decides which token
the text starts with there; if it starts with none of these, any token that it does start with is
refused. The reading keeps the tokens along with the declarations.

**Faults** are found where they stand: a token that is refused, a character that starts no token,
or the end of a text that is not complete, which is reported at its last token. Positions are lines
and columns counted from one; only a newline ends a line.

**Order of errors.** A text with a fault has no declarations. Without one, an integer with too many
digits is an error, and then declarations that do not pass validation.
-/

namespace ScreenNav

/-- A place in a text. -/
structure Position where
  line : Nat
  column : Nat
deriving DecidableEq, Repr

/-- The start of a text. -/
def Position.start : Position := ⟨1, 1⟩

/-- The place behind a character. -/
def Position.after (p : Position) (c : Char) : Position :=
  if c = '\n' then ⟨p.line + 1, 1⟩ else ⟨p.line, p.column + 1⟩

/-- Why a text has no declarations. -/
inductive ParseError where
  /-- A token is refused; at the end of the text its spelling is empty. -/
  | unexpectedToken (position : Position) (spelling : String)
  /-- A character starts no token. -/
  | unexpectedCharacter (position : Position) (c : Char)
  /-- An integer has too many digits. -/
  | overlongInteger
  /-- The declarations are well written but make no sense. -/
  | invalid (error : DeclarationError)
deriving DecidableEq, Repr

/-- The tokens of a text and the declarations that they make up. -/
structure Reading where
  tokens : List Token
  declarations : Declarations
deriving Repr

/-- The refusal of a token. -/
def Token.refused (position : Position) (token : Token) : ParseError :=
  .unexpectedToken position (String.ofList token.spelling)

/-- The error for text that starts with no token that its place asks for. -/
def Lexeme.unexpected (position : Position) (c : Char) (rest : List Char) : ParseError :=
  match candidates (c :: rest) with
  | token :: _ => token.refused position
  | [] => .unexpectedCharacter position c

namespace Reader

/-- Reads the rest of a text, which starts at `here`. Its first `skip` characters belong to
something already taken; the last token taken started at `last`. -/
def read (r : Reader) (last here : Position) (skip : Nat) : List Char → Except ParseError Reading
  | [] =>
    match r.finish with
    | some declarations => .ok ⟨[], declarations⟩
    | none => .error (.unexpectedToken last "")
  | c :: rest =>
    match skip with
    | skip + 1 => read r last (here.after c) skip rest
    | 0 =>
      match Lexeme.layoutLength (c :: rest) with
      | layout + 1 => read r last (here.after c) layout rest
      | 0 =>
        match Lexeme.select? r.place.asksFor (c :: rest) with
        | none => .error (Lexeme.unexpected here c rest)
        | some token =>
          match r.step token with
          | none => .error (token.refused here)
          | some next =>
            (read next here (here.after c) (token.spelling.length - 1) rest).map fun reading =>
              { reading with tokens := token :: reading.tokens }

end Reader

/-- An integer with too many digits. -/
def Token.isOverlong : Token → Bool
  | .number literal => decide literal.IsOverlong
  | _ => false

/-- The tokens and declarations of a text, valid or not. -/
def readText (text : String) : Except ParseError Reading :=
  Reader.start.read .start .start 0 text.toList

/-- The valid declarations of a text. -/
def parse (text : String) : Except ParseError Declarations := do
  let reading ← readText text
  if reading.tokens.any Token.isOverlong then .error .overlongInteger
  else do
    reading.declarations.validate.mapError ParseError.invalid
    return reading.declarations

end ScreenNav
