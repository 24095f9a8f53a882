import ScreenNav.NumberLiteral

/-!
# Tokens of a declaration file

The words, symbols, numbers and strings that a declaration file is made of, each with its exact
spelling.

**Words.** A word that is a keyword somewhere is a name elsewhere, so the spelling of a word does
not tell which of the two it is; the place where it stands does.

Main statement: `ofSpelling?_spelling`, that a keyword is known by its spelling.
-/

namespace ScreenNav

/-- The words that can have a meaning of their own. -/
inductive Keyword where
  | optionsBlock
  | typeDecl
  | classDecl
  | extending
  | implementing
  | isPublic
  | isProtected
  | isPrivate
  | isStatic
  | isFinal
  | isTransient
  | isVolatile
  | isTrue
  | isFalse
deriving DecidableEq, Repr

namespace Keyword

/-- All keywords. -/
def all : List Keyword := [.optionsBlock, .typeDecl, .classDecl, .extending, .implementing,
  .isPublic, .isProtected, .isPrivate, .isStatic, .isFinal, .isTransient, .isVolatile, .isTrue,
  .isFalse]

/-- The word. -/
def spelling : Keyword → String
  | .optionsBlock => "options"
  | .typeDecl => "type"
  | .classDecl => "class"
  | .extending => "extends"
  | .implementing => "implements"
  | .isPublic => "public"
  | .isProtected => "protected"
  | .isPrivate => "private"
  | .isStatic => "static"
  | .isFinal => "final"
  | .isTransient => "transient"
  | .isVolatile => "volatile"
  | .isTrue => "true"
  | .isFalse => "false"

/-- The keyword with the given spelling. -/
def ofSpelling? (word : String) : Option Keyword := all.find? (·.spelling = word)

/-- A keyword is known by its spelling. -/
theorem ofSpelling?_spelling (k : Keyword) : ofSpelling? k.spelling = some k := by
  cases k <;> decide

/-- A modifier of a field. -/
def isModifier : Keyword → Bool
  | .isPublic | .isProtected | .isPrivate | .isStatic | .isFinal | .isTransient
  | .isVolatile => true
  | _ => false

end Keyword

/-- The characters that stand for themselves. -/
inductive Symbol where
  | openBrace
  | closeBrace
  | openParen
  | closeParen
  | openAngle
  | closeAngle
  | openSquare
  | closeSquare
  | comma
  | semicolon
  | dot
  | equals
  | atSign
deriving DecidableEq, Repr

namespace Symbol

/-- All symbols. -/
def all : List Symbol := [.openBrace, .closeBrace, .openParen, .closeParen, .openAngle, .closeAngle,
  .openSquare, .closeSquare, .comma, .semicolon, .dot, .equals, .atSign]

/-- The character. -/
def char : Symbol → Char
  | .openBrace => '\x7b'
  | .closeBrace => '\x7d'
  | .openParen => '('
  | .closeParen => ')'
  | .openAngle => '<'
  | .closeAngle => '>'
  | .openSquare => '['
  | .closeSquare => ']'
  | .comma => ','
  | .semicolon => ';'
  | .dot => '.'
  | .equals => '='
  | .atSign => '@'

/-- The symbol that a character is. -/
def ofChar? (c : Char) : Option Symbol := all.find? (·.char = c)

theorem ofChar?_char (s : Symbol) : ofChar? s.char = some s := by cases s <;> decide

end Symbol

/-- A piece of a declaration file. -/
inductive Token where
  | keyword (k : Keyword)
  | name (word : String)
  | symbol (s : Symbol)
  | number (literal : NumberLiteral)
  /-- A string, by the characters between its quotes; escapes are kept as they are written. -/
  | string (content : String)
deriving DecidableEq, Repr

/-- The exact spelling of a token. -/
def Token.spelling : Token → List Char
  | .keyword k => k.spelling.toList
  | .name word => word.toList
  | .symbol s => [s.char]
  | .number literal => literal.spelling
  | .string content => '"' :: content.toList ++ ['"']

/-- The kinds of token that a place can ask for. -/
inductive TokenKind where
  | keyword (k : Keyword)
  | name
  | symbol (s : Symbol)
  | number
  | string
deriving DecidableEq, Repr

/-- The kind of a token. -/
def Token.kind : Token → TokenKind
  | .keyword k => .keyword k
  | .name _ => .name
  | .symbol s => .symbol s
  | .number _ => .number
  | .string _ => .string

end ScreenNav
