import ScreenNav.Proofs.Printing
import ScreenNav.TypeName

/-!
# Type references and their texts

The text of a type reference is cut into the parts that it was written from, all the way down: reading
the text anew gives the tree of the reference (`ofText_text`). So what later stages do with the text
can be said of the reference itself: writing the tree with other names is renaming the reference
(`render_tree`).

Arguments are cut at the commas outside of inner angle brackets. That these are the commas between
the arguments rests on one property of texts, `StaysWhole`: splitting goes over the text without a
cut, and has the same depth behind it as before. A name has it, a list of arguments has it inside of
angle brackets, and texts that have it can be put together.

The names need not be dotted identifiers. They are found again if they have no character that arguments
are cut at, and nothing at their ends that is taken off from a type (`IsLegible`).
-/

namespace ScreenNav

open Lexeme

/-! ## Names -/

/-- Identifiers with dots between them. -/
def IsDottedIdentifier (name : String) : Prop := ∀ word ∈ components name, IsIdentifier word

instance (name : String) : Decidable (IsDottedIdentifier name) :=
  inferInstanceAs (Decidable (∀ word ∈ components name, _))

/-- A character that a dotted identifier can consist of. -/
def IsNameChar (c : Char) : Prop := isWordPart c = true ∨ c = '.'

instance (c : Char) : Decidable (IsNameChar c) := inferInstanceAs (Decidable (_ ∨ _))

theorem IsNameChar.notMem {c : Char} (h : IsNameChar c) : c ∉ ['<', '>', ',', '[', ']'] := by
  intro hc
  simp only [List.mem_cons, List.not_mem_nil, or_false] at hc
  rcases hc with rfl | rfl | rfl | rfl | rfl <;> revert h <;> decide

theorem toNat_of_isWordPart {c : Char} (h : isWordPart c = true) :
    48 ≤ c.toNat ∧ c.toNat ≤ 122 := by
  change ((decide ('A'.val ≤ c.val ∧ c.val ≤ 'Z'.val) ||
    (decide ('a'.val ≤ c.val) && decide (c.val ≤ 'z'.val))) ||
    (decide ('0'.val ≤ c.val) && decide (c.val ≤ '9'.val)) || c == '_') = true at h
  simp only [Bool.or_eq_true, Bool.and_eq_true, decide_eq_true_eq, beq_iff_eq, UInt32.le_iff_toNat_le] at h
  change ((65 ≤ c.toNat ∧ c.toNat ≤ 90 ∨ 97 ≤ c.toNat ∧ c.toNat ≤ 122) ∨
    48 ≤ c.toNat ∧ c.toNat ≤ 57) ∨ c = '_' at h
  rcases h with h | rfl
  · omega
  · decide

theorem IsNameChar.isBlank_eq_false {c : Char} (h : IsNameChar c) : Text.isBlank c = false := by
  rcases h with h | rfl
  · have code := toNat_of_isWordPart h
    rw [Bool.eq_false_iff]
    intro blank
    obtain ⟨range, hrange, first, last⟩ := Text.CodeTable.covers_eq_true_iff.1 blank
    -- No range of blanks meets the codes from 48 to 122.
    have outside : ∀ range ∈ Text.blankTable, range.2 < 48 ∨ 122 < range.1 := by decide
    have := outside range hrange
    omega
  · decide

theorem mem_intercalate {α : Type} {separator : List α} {a : α} {pieces : List (List α)}
    (h : a ∈ separator.intercalate pieces) : a ∈ separator ∨ ∃ piece ∈ pieces, a ∈ piece := by
  induction pieces with
  | nil => simp at h
  | cons piece pieces ih =>
    cases pieces with
    | nil => exact .inr ⟨piece, by simp, by simpa using h⟩
    | cons next pieces =>
      rw [List.intercalate_cons_cons, List.append_assoc, List.mem_append, List.mem_append] at h
      rcases h with h | h | h
      · exact .inr ⟨piece, List.mem_cons_self .., h⟩
      · exact .inl h
      · obtain same | ⟨p, hp, ha⟩ := ih h
        · exact .inl same
        · exact .inr ⟨p, List.mem_cons_of_mem _ hp, ha⟩

namespace IsDottedIdentifier

variable {name : String}

theorem isNameChar (h : IsDottedIdentifier name) : ∀ c ∈ name.toList, IsNameChar c := by
  intro c hc
  have joined : ['.'].intercalate (name.toList.splitOn '.') = name.toList :=
    List.intercalate_splitOn '.'
  rw [← joined] at hc
  obtain dot | ⟨piece, hpiece, hc⟩ := mem_intercalate hc
  · exact .inr (List.mem_singleton.1 dot)
  · have word := h (String.ofList piece) (List.mem_map_of_mem hpiece)
    exact .inl (word.2.2 c (by simpa using hc))

theorem ne_nil (h : IsDottedIdentifier name) : name.toList ≠ [] := by
  intro empty
  have word := h "" (by simp [components, empty])
  exact word.1 rfl

end IsDottedIdentifier

/-- Text that a legible name can begin with: nothing in it is taken for the end of an argument or for
an angle bracket of a type, and no blank in front is trimmed. -/
def IsLegibleFront (text : String) : Prop :=
  (∀ c ∈ text.toList, c ∉ ['<', '>', ',']) ∧ ∀ c ∈ text.toList.head?, Text.isBlank c = false

-- Found by name, as otherwise all characters there are would be gone through.
instance (text : String) : Decidable (IsLegibleFront text) :=
  @instDecidableAnd _ _ (List.decidableBAll _ _) (Option.decidableForallMem _)

/-- A name that is found again in the text of a type. It need not be a dotted identifier. -/
structure IsLegible (name : String) : Prop where
  front : IsLegibleFront name
  last : ∃ c, name.toList.getLast? = some c ∧ TypeName.isSquareBracket c = false ∧
    Text.isBlank c = false

theorem IsLegible.ne_nil {name : String} (h : IsLegible name) : name.toList ≠ [] := by
  intro empty
  obtain ⟨c, hc, -⟩ := h.last
  rw [empty] at hc
  exact nomatch hc

theorem IsDottedIdentifier.isLegible {name : String} (h : IsDottedIdentifier name) :
    IsLegible name := by
  refine ⟨⟨fun c hc special => ?_, fun c hc => ?_⟩, ?_⟩
  · exact (h.isNameChar c hc).notMem (by simp at special ⊢; tauto)
  · exact (h.isNameChar c (List.mem_of_head? hc)).isBlank_eq_false
  · obtain ⟨c, hc⟩ := Option.ne_none_iff_exists'.1 (mt List.getLast?_eq_none_iff.1 h.ne_nil)
    have part := h.isNameChar c (List.mem_of_getLast? hc)
    have unbracketed := part.notMem
    exact ⟨c, hc, by simp_all [TypeName.isSquareBracket], part.isBlank_eq_false⟩

/-! ## Brackets at the end -/

namespace TypeName

theorem cut_brackets {body dims : List Char} (hdims : ∀ c ∈ dims, isSquareBracket c = true)
    (hbody : ∀ c ∈ body.getLast?, isSquareBracket c = false) :
    withoutBrackets (body ++ dims) = body ∧ trailingBrackets (body ++ dims) = dims := by
  have inside : ∀ c ∈ dims.reverse, isSquareBracket c = true := by simpa using hdims
  have ends : ∀ c ∈ body.reverse.head?, isSquareBracket c = false := by simpa using hbody
  rw [withoutBrackets, trailingBrackets, List.reverse_append, dropWhile_run inside ends,
    takeWhile_run inside ends, List.reverse_reverse, List.reverse_reverse]
  exact ⟨rfl, rfl⟩

theorem toList_bracketPairs (count : Nat) :
    (bracketPairs count).toList = (List.replicate count ['[', ']']).flatten := by
  rw [bracketPairs, String.toList_join]
  induction count with
  | zero => rfl
  | succ count ih => rw [List.replicate_succ, List.flatMap_cons, ih]; rfl

theorem isSquareBracket_bracketPairs (count : Nat) :
    ∀ c ∈ (bracketPairs count).toList, isSquareBracket c = true := by
  intro c hc
  rw [toList_bracketPairs] at hc
  obtain ⟨pair, hpair, hc⟩ := List.mem_flatten.1 hc
  obtain ⟨-, rfl⟩ := List.mem_replicate.1 hpair
  simp only [List.mem_cons, List.not_mem_nil, or_false] at hc
  rcases hc with rfl | rfl <;> rfl

/-! ## Texts that are not split -/

/-- At the given depth of angle brackets and at any greater one, splitting goes over the text without
a cut, and goes on behind it at the same depth. -/
def StaysWhole (least : Int) (text : List Char) : Prop :=
  ∀ depth rest, least ≤ depth →
    splitArguments depth (text ++ rest) = text.foldr Text.consFirst (splitArguments depth rest)

variable {least : Int} {first second text : List Char}

theorem staysWhole_nil : StaysWhole least [] := fun _ _ _ => rfl

theorem StaysWhole.append (h : StaysWhole least first) (h' : StaysWhole least second) :
    StaysWhole least (first ++ second) := by
  intro depth rest hd
  rw [List.append_assoc, h depth _ hd, h' depth rest hd, List.foldr_append]

theorem StaysWhole.mono {more : Int} (h : StaysWhole least text) (hm : least ≤ more) :
    StaysWhole more text :=
  fun depth rest hd => h depth rest (hm.trans hd)

theorem staysWhole_singleton {c : Char} (h : c ≠ '<' ∧ c ≠ '>') (hc : c = ',' → 1 ≤ least) :
    StaysWhole least [c] := by
  intro depth rest hd
  have uncut : ¬ (c = ',' ∧ depth = 0) := by
    rintro ⟨rfl, rfl⟩
    have := hc rfl
    omega
  simp [splitArguments, uncut, depthAfter, h]

theorem staysWhole_of_forall (h : ∀ c ∈ text, c ∉ ['<', '>', ',']) : StaysWhole least text := by
  induction text with
  | nil => exact staysWhole_nil
  | cons c text ih =>
    obtain ⟨head, tail⟩ := List.forall_mem_cons.1 h
    have single : StaysWhole least [c] := by
      refine staysWhole_singleton ⟨?_, ?_⟩ ?_
      · rintro rfl; simp at head
      · rintro rfl; simp at head
      · rintro rfl; simp at head
    exact single.append (ih tail)

/-- Inside of angle brackets the depth is greater by one. -/
theorem StaysWhole.enclosed (h : StaysWhole (least + 1) text) :
    StaysWhole least ('<' :: text ++ ['>']) := by
  intro depth rest hd
  have inner := h (depth + 1) ('>' :: rest) (by omega)
  have behind : depthAfter (depth + 1) '>' = depth := by simp [depthAfter]
  have closed : splitArguments (depth + 1) ('>' :: rest) =
      Text.consFirst '>' (splitArguments depth rest) := by
    rw [splitArguments, if_neg (by simp), behind]
  have opened : splitArguments depth ('<' :: (text ++ '>' :: rest)) =
      Text.consFirst '<' (splitArguments (depth + 1) (text ++ '>' :: rest)) := by
    rw [splitArguments, if_neg (by simp)]
    rfl
  rw [List.cons_append, List.cons_append, List.append_assoc, List.singleton_append, opened, inner,
    closed]
  simp

theorem staysWhole_intercalate {pieces : List (List Char)} (hl : 1 ≤ least)
    (h : ∀ piece ∈ pieces, StaysWhole least piece) :
    StaysWhole least ([',', ' '].intercalate pieces) := by
  have separator : StaysWhole least [',', ' '] :=
    (staysWhole_singleton (c := ',') (by decide) fun _ => hl).append
      (staysWhole_singleton (c := ' ') (by decide) (by simp))
  induction pieces with
  | nil => exact staysWhole_nil
  | cons piece pieces ih =>
    obtain ⟨head, tail⟩ := List.forall_mem_cons.1 h
    cases pieces with
    | nil => simpa using head
    | cons next pieces =>
      rw [List.intercalate_cons_cons]
      exact (head.append separator).append (ih tail)

theorem foldr_consFirst (text piece : List Char) (pieces : List (List Char)) :
    text.foldr Text.consFirst (piece :: pieces) = (text ++ piece) :: pieces := by
  induction text with
  | nil => rfl
  | cons c text ih => rw [List.foldr_cons, ih]; rfl

/-- Texts that stay whole are split where they are put together. -/
theorem splitArguments_intercalate (pieces : List (List Char))
    (h : ∀ piece ∈ first :: pieces, StaysWhole 0 piece) :
    splitArguments 0 ([',', ' '].intercalate (first :: pieces)) =
      first :: pieces.map (' ' :: ·) := by
  induction pieces generalizing first with
  | nil =>
    have whole := h first (List.mem_cons_self ..) 0 [] le_rfl
    simpa [splitArguments, foldr_consFirst] using whole
  | cons next pieces ih =>
    obtain ⟨head, tail⟩ := List.forall_mem_cons.1 h
    have separator : splitArguments 0 (',' :: ' ' :: [',', ' '].intercalate (next :: pieces)) =
        [] :: Text.consFirst ' ' (splitArguments 0 ([',', ' '].intercalate (next :: pieces))) := by
      simp [splitArguments, depthAfter]
    rw [List.intercalate_cons_cons, List.append_assoc, head 0 _ le_rfl]
    show first.foldr Text.consFirst
      (splitArguments 0 (',' :: ' ' :: [',', ' '].intercalate (next :: pieces))) = _
    rw [separator, ih tail, foldr_consFirst, List.append_nil]
    rfl

/-! ## Texts of types -/

/-- Splitting goes over the text, and trimming leaves it alone. -/
structure IsTypeText (text : List Char) : Prop where
  whole : StaysWhole 0 text
  first : ∀ c ∈ text.head?, Text.isBlank c = false
  last : ∀ c ∈ text.getLast?, Text.isBlank c = false

theorem IsTypeText.trim (h : IsTypeText text) : Text.trim text = text :=
  Text.trim_eq_self text h.first h.last

theorem IsTypeText.trim_cons (h : IsTypeText text) : Text.trim (' ' :: text) = text := by
  have blank : Text.trimStart (' ' :: text) = Text.trimStart text :=
    List.dropWhile_cons_of_pos (by decide)
  rw [Text.trim, blank]
  exact h.trim

/-- Arguments that are put together are split and trimmed to what they were. -/
theorem map_trim_splitArguments {args : List (List Char)} (h : ∀ arg ∈ args, IsTypeText arg)
    (some_arg : args ≠ []) :
    (splitArguments 0 ([',', ' '].intercalate args)).map Text.trim = args := by
  obtain ⟨first, args, rfl⟩ := List.exists_cons_of_ne_nil some_arg
  obtain ⟨head, tail⟩ := List.forall_mem_cons.1 h
  have trimmed : args.map (fun arg => Text.trim (' ' :: arg)) = args :=
    (List.map_congr_left fun arg harg => (tail arg harg).trim_cons).trans (List.map_id' args)
  rw [splitArguments_intercalate args fun arg harg => (h arg harg).whole, List.map_cons, head.trim,
    List.map_map]
  exact congrArg (first :: ·) trimmed

/-- The arguments between angle brackets, if there are any. -/
def argumentsText (args : List (List Char)) : List Char :=
  if args = [] then [] else '<' :: [',', ' '].intercalate args ++ ['>']

theorem toList_typeText (base : String) (args : List String) (dims : String) :
    (typeText base args dims).toList =
      base.toList ++ argumentsText (args.map String.toList) ++ dims.toList := by
  have comma : ", ".toList = [',', ' '] := rfl
  have opening : "<".toList = ['<'] := rfl
  have closing : ">".toList = ['>'] := rfl
  cases args <;>
    simp [typeText, argumentsText, String.toList_intercalate, comma, opening, closing]

theorem staysWhole_argumentsText {args : List (List Char)} (h : ∀ arg ∈ args, IsTypeText arg) :
    StaysWhole 0 (argumentsText args) := by
  unfold argumentsText
  split
  · exact staysWhole_nil
  · refine StaysWhole.enclosed (staysWhole_intercalate (by decide) fun arg harg => ?_)
    exact (h arg harg).whole.mono (by decide)

/-- The text before the brackets ends like a name, or like a list of arguments. -/
theorem getLast?_base {base : String} (hbase : IsLegible base) (args : List (List Char)) :
    ∃ c, (base.toList ++ argumentsText args).getLast? = some c ∧
      isSquareBracket c = false ∧ Text.isBlank c = false ∧ (c = '>' ↔ args ≠ []) := by
  by_cases none : args = []
  · obtain ⟨c, hc, bracket, blank⟩ := hbase.last
    refine ⟨c, by simpa [argumentsText, none] using hc, bracket, blank, iff_of_false ?_ (· none)⟩
    rintro rfl
    exact hbase.front.1 _ (List.mem_of_getLast? hc) (by decide)
  · refine ⟨'>', ?_, rfl, by decide, iff_of_true rfl none⟩
    rw [argumentsText, if_neg none, ← List.append_assoc, List.getLast?_append]
    rfl

theorem isTypeText_typeText {base : String} {args : List String} (hbase : IsLegible base)
    (hargs : ∀ arg ∈ args, IsTypeText arg.toList) (count : Nat) :
    IsTypeText (typeText base args (bracketPairs count)).toList := by
  rw [toList_typeText]
  have brackets := isSquareBracket_bracketPairs count
  refine ⟨StaysWhole.append (StaysWhole.append ?_ ?_) ?_, ?_, ?_⟩
  · exact staysWhole_of_forall hbase.front.1
  · exact staysWhole_argumentsText (List.forall_mem_map.2 hargs)
  · refine staysWhole_of_forall fun c hc special => ?_
    have bracket := brackets c hc
    simp only [List.mem_cons, List.not_mem_nil, or_false] at special
    rcases special with rfl | rfl | rfl <;> exact absurd bracket (by decide)
  · intro c hc
    obtain ⟨d, name, hname⟩ := List.exists_cons_of_ne_nil hbase.ne_nil
    rw [hname] at hc
    obtain rfl : d = c := by simpa using hc
    exact hbase.front.2 d (by rw [hname]; rfl)
  · intro c hc
    rw [List.getLast?_append, Option.mem_def, Option.or_eq_some_iff] at hc
    rcases hc with hc | ⟨-, hc⟩
    · have bracket := brackets c (List.mem_of_getLast? hc)
      simp only [isSquareBracket, Bool.or_eq_true, beq_iff_eq] at bracket
      rcases bracket with rfl | rfl <;> decide
    · obtain ⟨d, hd, -, blank, -⟩ := getLast?_base hbase (args.map String.toList)
      obtain rfl : d = c := Option.some.inj (hd.symm.trans hc)
      exact blank

theorem cut?_append {separator : Char} {before : List Char} (h : separator ∉ before)
    (behind : List Char) :
    Text.cut? separator (before ++ separator :: behind) = some (before, behind) := by
  induction before with
  | nil => simp [Text.cut?]
  | cons c before ih =>
    rw [List.mem_cons, not_or] at h
    rw [List.cons_append, Text.cut?, if_neg (Ne.symm h.1), ih h.2]
    rfl

/-- The text of a type is cut into the parts that it was put together from. -/
theorem split?_typeText {base : String} {args : List String} (hbase : IsLegible base)
    (hargs : ∀ arg ∈ args, IsTypeText arg.toList) (count : Nat) :
    split? (typeText base args (bracketPairs count)).toList =
      some ⟨base.toList, args.map String.toList, (bracketPairs count).toList⟩ := by
  obtain ⟨last, hlast, bracket, -, closing⟩ := getLast?_base hbase (args.map String.toList)
  have unbracketed : ∀ c ∈ (base.toList ++ argumentsText (args.map String.toList)).getLast?,
      isSquareBracket c = false := by
    intro c hc
    obtain rfl : last = c := Option.some.inj (hlast.symm.trans hc)
    exact bracket
  obtain ⟨body, brackets⟩ := cut_brackets (isSquareBracket_bracketPairs count) unbracketed
  simp only [split?, toList_typeText, body, brackets, hlast]
  cases args with
  | nil =>
    have plain : last ≠ '>' := mt closing.1 (by simp)
    simp [plain, argumentsText]
  | cons arg args =>
    obtain rfl : last = '>' := closing.2 (by simp)
    have outside : '<' ∉ base.toList := fun hc => hbase.front.1 '<' hc (by decide)
    have texts := List.forall_mem_map.2 hargs
    have pieces := map_trim_splitArguments texts (by simp)
    rw [if_pos rfl, argumentsText, if_neg (by simp), List.cons_append, cut?_append outside]
    simp only [Option.map_some, List.dropLast_concat, pieces]

end TypeName

namespace TypeRef

/-! ## Trees -/

/-- All names in the type are dotted identifiers. -/
inductive IsWellNamed : TypeRef → Prop
  | mk {name : String} {args : List TypeRef} {dims : Nat} : IsDottedIdentifier name →
      (∀ arg ∈ args, arg.IsWellNamed) → IsWellNamed (.mk name args dims)

theorem IsWellNamed.ofName {name : String} {dims : Nat} (h : IsDottedIdentifier name) :
    IsWellNamed (.mk name [] dims) :=
  .mk h fun _ harg => absurd harg List.not_mem_nil

theorem isWellNamed_iff {name : String} {args : List TypeRef} {dims : Nat} :
    (mk name args dims).IsWellNamed ↔ IsDottedIdentifier name ∧ ∀ arg ∈ args, arg.IsWellNamed := by
  constructor
  · intro h
    obtain ⟨hname, hargs⟩ := h
    exact ⟨hname, hargs⟩
  · intro h
    exact .mk h.1 h.2

mutual

/-- Decides for every name in the type whether it is a dotted identifier. -/
def decideIsWellNamed : (t : TypeRef) → Decidable t.IsWellNamed
  | .mk _ args _ =>
    have := decideAllWellNamed args
    decidable_of_iff' _ isWellNamed_iff

/-- Decides for several types whether all are well named. -/
def decideAllWellNamed : (ts : List TypeRef) → Decidable (∀ t ∈ ts, t.IsWellNamed)
  | [] => .isTrue (List.forall_mem_nil _)
  | t :: ts =>
    have := t.decideIsWellNamed
    have := decideAllWellNamed ts
    decidable_of_iff' _ List.forall_mem_cons

end

instance (t : TypeRef) : Decidable t.IsWellNamed := t.decideIsWellNamed

/-- All names in the type are legible. -/
inductive IsLegible : TypeRef → Prop
  | mk {name : String} {args : List TypeRef} {dims : Nat} : ScreenNav.IsLegible name →
      (∀ arg ∈ args, arg.IsLegible) → IsLegible (.mk name args dims)

theorem IsWellNamed.isLegible {t : TypeRef} (h : t.IsWellNamed) : t.IsLegible := by
  induction h with
  | mk hname _ ih => exact .mk hname.isLegible ih

mutual

/-- The tree of a type. -/
def tree : TypeRef → TypeName
  | .mk name args dims => .node name (trees args) (bracketPairs dims)

/-- The trees of several types. -/
def trees : List TypeRef → List TypeName
  | [] => []
  | t :: ts => t.tree :: trees ts

end

mutual

/-- The type with a name chosen for every name in it. -/
def rename (choose : String → String) : TypeRef → TypeRef
  | .mk name args dims => .mk (choose name) (renameAll choose args) dims

/-- Several types, renamed. -/
def renameAll (choose : String → String) : List TypeRef → List TypeRef
  | [] => []
  | t :: ts => t.rename choose :: renameAll choose ts

end

/-- The type under all dimensions. -/
def innermost : TypeRef → TypeRef
  | .mk name args _ => .mk name args 0

@[simp] theorem trees_eq_map (ts : List TypeRef) : trees ts = ts.map tree := by
  induction ts with
  | nil => rfl
  | cons t ts ih => rw [trees, ih, List.map_cons]

@[simp] theorem renameAll_eq_map (choose : String → String) (ts : List TypeRef) :
    renameAll choose ts = ts.map (rename choose) := by
  induction ts with
  | nil => rfl
  | cons t ts ih => rw [renameAll, ih, List.map_cons]

theorem isTypeText_text {t : TypeRef} (h : t.IsLegible) : TypeName.IsTypeText t.text.toList := by
  induction h with
  | @mk name args dims hname _ ih =>
    rw [text, texts_eq_map]
    exact TypeName.isTypeText_typeText hname (List.forall_mem_map.2 ih) dims

/-- A name alone is its own text. -/
theorem text_name (name : String) : (TypeRef.mk name [] 0).text = name :=
  String.append_empty.trans String.append_empty

/-- The text of a type is cut into its name, the texts of its arguments, and its brackets. -/
theorem split?_text {name : String} {args : List TypeRef} {dims : Nat}
    (h : (TypeRef.mk name args dims).IsLegible) :
    TypeName.split? (TypeRef.mk name args dims).text.toList =
      some ⟨name.toList, args.map fun arg => arg.text.toList, (bracketPairs dims).toList⟩ := by
  obtain ⟨hname, hargs⟩ := h
  have texts : ∀ s ∈ args.map TypeRef.text, TypeName.IsTypeText s.toList :=
    List.forall_mem_map.2 fun arg harg => isTypeText_text (hargs arg harg)
  rw [TypeRef.text, texts_eq_map, TypeName.split?_typeText hname texts, List.map_map]
  rfl

/-- The text of a type is read as the tree of the type. -/
theorem ofText_text {t : TypeRef} (h : t.IsLegible) : TypeName.ofText t.text = t.tree := by
  induction h with
  | @mk name args dims hname hargs ih =>
    have parts := split?_text (.mk hname hargs : (TypeRef.mk name args dims).IsLegible)
    have trees : (args.map fun arg => arg.text.toList).map TypeName.read = args.map tree := by
      rw [List.map_map]
      exact List.map_congr_left ih
    rw [TypeName.ofText, TypeName.read_of_split?_eq_some parts, trees, tree, trees_eq_map,
      String.ofList_toList, String.ofList_toList]

mutual

/-- Writing the tree of a type with other names is renaming the type. -/
theorem render_tree (choose : String → String) :
    (t : TypeRef) → t.tree.render choose = .ok (t.rename choose).text
  | .mk name args dims => by
    rw [tree, TypeName.render, renderAll_trees choose args, rename, text]
    rfl

theorem renderAll_trees (choose : String → String) :
    (ts : List TypeRef) →
      TypeName.renderAll choose (trees ts) = .ok (texts (renameAll choose ts))
  | [] => rfl
  | t :: ts => by
    rw [trees, TypeName.renderAll, render_tree choose t, renderAll_trees choose ts, renameAll, texts]
    rfl

end

end TypeRef

end ScreenNav
