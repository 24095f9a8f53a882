import ScreenNav.Text.Blank
import ScreenNav.Text.Split
import ScreenNav.TypeRef

/-!
# Type names

Type names as the stages after reading see them: any text, cut into a base, the texts of type
arguments, and brackets at the end.

**Cutting** (`split?`). The brackets are the longest run of `[` and `]` at the end, paired or not.
If the text before them ends with `>`, arguments reach from the first `<` up to it, separated by
the commas that stand outside any inner pair of angle brackets. Text that ends with `>` and has no
`<` cannot be cut.

**Reading** (`read`). Each argument is shorter than the text it was cut from, so arguments can be
cut again, down to a tree. Where cutting fails the tree has a `malformed` leaf, and the rest of the
tree is there all the same.

**Writing** (`render`). A tree is written back with a name chosen for every base. Qualifying a type
and referring to it from generated code are both such renderings; they fail at the first malformed
leaf.

Main statements: `split?_eq_none_iff`, when text cannot be cut, and `length_lt_of_mem_args`, that
arguments are shorter than the text they were cut from.
-/

namespace ScreenNav

/-- Why a type name has no meaning. -/
inductive TypeNameError where
  /-- Arguments are closed that were never opened. -/
  | unopenedArguments
deriving DecidableEq, Repr

/-- The wording of an error. -/
def TypeNameError.message : TypeNameError → String
  | .unopenedArguments => "substring not found"

/-- A type name cut into its parts. -/
structure TypeParts where
  base : List Char
  args : List (List Char)
  /-- The run of square brackets at the end. -/
  dims : List Char
deriving DecidableEq, Repr

/-- A type name as a tree. -/
inductive TypeName where
  | node (base : String) (args : List TypeName) (dims : String)
  | malformed (text : String)
deriving Repr

namespace TypeName

/-! ## Cutting -/

/-- A square bracket, of either kind. -/
def isSquareBracket (c : Char) : Bool := c == '[' || c == ']'

/-- The run of square brackets at the end. -/
def trailingBrackets (text : List Char) : List Char :=
  (text.reverse.takeWhile isSquareBracket).reverse

/-- The text before the run of square brackets at the end. -/
def withoutBrackets (text : List Char) : List Char :=
  (text.reverse.dropWhile isSquareBracket).reverse

/-- The depth of angle brackets behind a character. -/
def depthAfter (depth : Int) (c : Char) : Int :=
  if c = '<' then depth + 1 else if c = '>' then depth - 1 else depth

/-- The pieces between the commas at depth zero. -/
def splitArguments (depth : Int) : List Char → List (List Char)
  | [] => [[]]
  | c :: rest =>
    if c = ',' ∧ depth = 0 then [] :: splitArguments depth rest
    else Text.consFirst c (splitArguments (depthAfter depth c) rest)

/-- Cuts text into base, arguments and brackets. -/
def split? (text : List Char) : Option TypeParts :=
  let body := withoutBrackets text
  let dims := trailingBrackets text
  if body.getLast? = some '>' then
    (Text.cut? '<' body).map fun parts =>
      ⟨parts.1, (splitArguments 0 parts.2.dropLast).map Text.trim, dims⟩
  else some ⟨body, [], dims⟩

theorem withoutBrackets_append (text : List Char) :
    withoutBrackets text ++ trailingBrackets text = text := by
  simp [withoutBrackets, trailingBrackets, ← List.reverse_append,
    List.takeWhile_append_dropWhile]

/-- Text cannot be cut if and only if it closes arguments that it never opened. -/
theorem split?_eq_none_iff (text : List Char) :
    split? text = none ↔
      (withoutBrackets text).getLast? = some '>' ∧ '<' ∉ withoutBrackets text := by
  simp only [split?]
  split <;> simp_all [Text.cut?_eq_none_iff]

theorem length_le_of_mem_consFirst (c : Char) (pieces : List (List Char)) {n : Nat}
    (h : ∀ piece ∈ pieces, piece.length ≤ n) :
    ∀ piece ∈ Text.consFirst c pieces, piece.length ≤ n + 1 := by
  cases pieces with
  | nil => simp [Text.consFirst]
  | cons first pieces =>
    intro piece hp
    rcases List.mem_cons.1 hp with rfl | hp
    · simpa using h first (List.mem_cons_self ..)
    · exact Nat.le_succ_of_le (h piece (List.mem_cons_of_mem _ hp))

theorem length_le_of_mem_splitArguments (depth : Int) (text : List Char) :
    ∀ piece ∈ splitArguments depth text, piece.length ≤ text.length := by
  induction text generalizing depth with
  | nil => simp [splitArguments]
  | cons c rest ih =>
    simp only [splitArguments]
    split
    · intro piece hp
      rcases List.mem_cons.1 hp with rfl | hp
      · simp
      · exact Nat.le_succ_of_le (ih _ piece hp)
    · exact length_le_of_mem_consFirst c _ (ih _)

/-- Arguments are shorter than the text they were cut from. -/
theorem length_lt_of_mem_args {text : List Char} {parts : TypeParts}
    (h : split? text = some parts) : ∀ arg ∈ parts.args, arg.length < text.length := by
  intro arg harg
  simp only [split?] at h
  split at h
  · obtain ⟨⟨base, inner⟩, hcut, rfl⟩ := Option.map_eq_some_iff.1 h
    obtain ⟨piece, hpiece, rfl⟩ := List.mem_map.1 harg
    have h1 := Text.length_trim_le piece
    have h2 := length_le_of_mem_splitArguments 0 _ piece hpiece
    have h3 := congrArg List.length (Text.cut?_eq_some hcut).1
    have h4 := congrArg List.length (withoutBrackets_append text)
    simp only [List.length_dropLast, List.length_cons, List.length_append] at h2 h3 h4
    omega
  · obtain rfl := by simpa using h
    simp at harg

/-! ## Reading -/

/-- The tree of a type name. -/
def read (text : List Char) : TypeName :=
  match _h : split? text with
  | none => .malformed (String.ofList text)
  | some parts =>
    .node (String.ofList parts.base)
      (parts.args.attach.map fun arg => read arg.1)
      (String.ofList parts.dims)
termination_by text.length
decreasing_by exact length_lt_of_mem_args ‹_› arg.1 arg.2

theorem read_of_split?_eq_none {text : List Char} (h : split? text = none) :
    read text = .malformed (String.ofList text) := by
  rw [read]
  split
  · rfl
  · simp_all

theorem read_of_split?_eq_some {text : List Char} {parts : TypeParts}
    (h : split? text = some parts) :
    read text = .node (String.ofList parts.base) (parts.args.map read)
      (String.ofList parts.dims) := by
  rw [read]
  split
  · simp_all
  · rename_i parts' h'
    obtain rfl : parts' = parts := by simpa [h'] using h
    simp

/-- The tree of the type with the given name. -/
def ofText (text : String) : TypeName := read text.toList

/-! ## Writing -/

mutual

/-- The text of a tree, with a name chosen for every base. -/
def render (choose : String → String) : TypeName → Except TypeNameError String
  | .malformed _ => .error .unopenedArguments
  | .node base args dims => do
    let args ← renderAll choose args
    return typeText (choose base) args dims

/-- The texts of several trees. -/
def renderAll (choose : String → String) : List TypeName → Except TypeNameError (List String)
  | [] => .ok []
  | t :: ts => do
    let text ← t.render choose
    let texts ← renderAll choose ts
    return text :: texts

end

mutual

/-- The bases of a tree, each before those of its arguments; `none` stands at a malformed leaf. -/
def bases : TypeName → List (Option String)
  | .malformed _ => [none]
  | .node base args _ => some base :: basesAll args

/-- The bases of several trees, in order. -/
def basesAll : List TypeName → List (Option String)
  | [] => []
  | t :: ts => t.bases ++ basesAll ts

end

end TypeName

end ScreenNav
