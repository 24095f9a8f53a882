import ScreenNav.Descriptor
import ScreenNav.Navigator.Generation
import ScreenNav.Proofs.Scope
import ScreenNav.Proofs.TypeTexts

/-!
# Cutting type names, level by level

What cutting the text of a type leads to, for the texts that types have and for all others.

**Theorem (`cut_and_join`).** The text of a type reference is cut into the parts that it was joined from.

**Theorem (`recursions_end`).** Qualifying, describing and referring to a type can be done by recursion on
its text: cut it, and go on with the texts of its arguments, or take off the brackets of a dimension first.
On any text, however its brackets stand, these recursions end, with calls that are nested no deeper than the
text is long, and what they come to is what is read off the tree of the type name.

A recursion with a bound on its depth (`writeWithin`) tells running out of it from an error. It is written
once for any way of choosing names, with effects: qualifying chooses without any, and a reference makes a
claim for each name that it meets, so it matters in which order names are met and where an error stops it.
The tree of a text is as deep as the recursion goes, and from there on the proofs are by recursion on trees.
-/

namespace ScreenNav

/-! ## Joining -/

/-- The text that the parts of a type name are joined to. -/
def TypeParts.text (parts : TypeParts) : String :=
  typeText (String.ofList parts.base) (parts.args.map String.ofList) (String.ofList parts.dims)

/-- **Cutting undoes joining.** The text of a type is cut into its name, the texts of its arguments and its
brackets, and these join to the text again. -/
theorem TypeRef.cut_and_join {t : TypeRef} (wf : t.IsWellNamed) :
    TypeName.split? t.text.toList =
        some ⟨t.name.toList, t.args.map fun arg => arg.text.toList, (bracketPairs t.dims).toList⟩ ∧
      (TypeName.split? t.text.toList).map TypeParts.text = some t.text := by
  obtain ⟨name, args, dims⟩ := t
  have cut := split?_text wf.isLegible
  have texts : (args.map fun arg => arg.text.toList).map String.ofList = args.map text := by
    rw [List.map_map]
    exact List.map_congr_left fun arg _ => String.ofList_toList
  refine ⟨cut, ?_⟩
  rw [cut, Option.map_some, TypeParts.text, texts, String.ofList_toList, String.ofList_toList, text,
    texts_eq_map]

/-- Arguments with arguments and dimensions of their own, below a name with dots. -/
theorem TypeRef.cut_and_join_nested :
    let inner : TypeRef := .mk "List" [.mk "a.V" [] 1, .mk "K" [] 0] 2
    let t : TypeRef := .mk "b.c.Map" [.mk "K" [] 0, inner] 1
    t.IsWellNamed ∧ t.text = "b.c.Map<K, List<a.V[], K>[][]>[]" ∧
      TypeName.split? t.text.toList =
        some ⟨"b.c.Map".toList, ["K".toList, "List<a.V[], K>[][]".toList], "[]".toList⟩ ∧
      (TypeName.split? t.text.toList).map TypeParts.text = some t.text := by
  intro inner t
  have wf : t.IsWellNamed := by decide +kernel
  obtain ⟨cut, joined⟩ := TypeRef.cut_and_join wf
  exact ⟨wf, by decide +kernel, cut.trans (by decide +kernel), joined⟩

namespace TypeName

/-! ## Recursion with a bound on its depth -/

/-- Why a type is not written anew. -/
inductive Stop where
  /-- Calls would be nested too deep. -/
  | tooDeep
  | badName (error : TypeNameError)
deriving DecidableEq, Repr

section

variable {m : Type → Type} [Monad m]

/-- Writes the type with the given text anew. The text is cut, a name is chosen for the base, and the texts
of the arguments are written anew in the same way, in order. -/
def writeWithin (choose : String → m String) : Nat → List Char → ExceptT Stop m String
  | 0, _ => throw .tooDeep
  | depth + 1, text =>
    match split? text with
    | none => throw (.badName .unopenedArguments)
    | some parts => do
      let base ← choose (String.ofList parts.base)
      let args ← parts.args.mapM (writeWithin choose depth)
      return typeText base args (String.ofList parts.dims)

mutual

/-- Writes a tree anew, in the order in which the text of the tree is. -/
def write (choose : String → m String) : TypeName → ExceptT Stop m String
  | .malformed _ => throw (.badName .unopenedArguments)
  | .node base args dims => do
    let base ← choose base
    let args ← writeAll choose args
    return typeText base args dims

/-- Writes several trees anew, in order. -/
def writeAll (choose : String → m String) : List TypeName → ExceptT Stop m (List String)
  | [] => return []
  | t :: ts => do
    let text ← t.write choose
    let texts ← writeAll choose ts
    return text :: texts

end

variable [LawfulMonad m] {choose : String → m String}

theorem mapM_eq_writeAll {step : List Char → ExceptT Stop m String} {args : List (List Char)}
    (h : ∀ arg ∈ args, step arg = (read arg).write choose) :
    args.mapM step = writeAll choose (args.map read) := by
  induction args with
  | nil => rfl
  | cons arg args ih =>
    obtain ⟨head, tail⟩ := List.forall_mem_cons.1 h
    rw [List.mapM_cons, List.map_cons, writeAll, head, ih tail]

/-- The length of the text bounds the depth: each call is for a shorter text. -/
theorem writeWithin_eq_write {depth : Nat} {text : List Char} (h : text.length < depth) :
    writeWithin choose depth text = (read text).write choose := by
  induction depth generalizing text with
  | zero => exact absurd h (Nat.not_lt_zero _)
  | succ depth ih =>
    rw [writeWithin]
    cases cut : split? text with
    | none => rw [read_of_split?_eq_none cut, write]
    | some parts =>
      have args := mapM_eq_writeAll fun arg harg =>
        ih (Nat.lt_of_lt_of_le (length_lt_of_mem_args cut arg harg) (Nat.le_of_lt_succ h))
      rw [read_of_split?_eq_some cut, write, ← args]

end

/-! ## Names without effects -/

mutual

theorem write_pure (choose : String → String) :
    (t : TypeName) → t.write (fun name => (pure (choose name) : Id String)) =
      (t.render choose).mapError Stop.badName
  | .malformed _ => rfl
  | .node base args dims => by
    rw [write, render, writeAll_pure choose args]
    cases renderAll choose args <;> rfl

theorem writeAll_pure (choose : String → String) :
    (ts : List TypeName) → writeAll (fun name => (pure (choose name) : Id String)) ts =
      (renderAll choose ts).mapError Stop.badName
  | [] => rfl
  | t :: ts => by
    rw [writeAll, renderAll, write_pure choose t, writeAll_pure choose ts]
    cases t.render choose <;> cases renderAll choose ts <;> rfl

end

/-! ## Names with claims -/

theorem render_eq_error {t : TypeName} (h : ¬ t.IsWellFormed) (choose : String → String) :
    t.render choose = .error .unopenedArguments := by
  cases written : t.render choose with
  | ok text => exact absurd (isWellFormed_of_render_eq_ok written) h
  | error e => cases e; rfl

theorem run_bind {σ ε α β : Type} (x : ExceptT ε (StateM σ) α) (next : α → ExceptT ε (StateM σ) β)
    (s : σ) : (x >>= next).run.run s =
      match x.run.run s with
      | (.ok a, s') => (next a).run.run s'
      | (.error e, s') => (.error e, s') := by
  rw [ExceptT.run_bind, StateT.run_bind]
  cases x.run.run s with
  | mk result s' => cases result <;> rfl

end TypeName

namespace Scope

variable {s : Scope}

/-- Claims up to a place where there is no name are claims for some names. -/
theorem exists_claimNames (s : Scope) (bases : List (Option String)) :
    ∃ names, s.claimAll bases = s.claimNames names := by
  induction bases generalizing s with
  | nil => exact ⟨[], rfl⟩
  | cons base bases ih =>
    cases base with
    | none => exact ⟨[], rfl⟩
    | some name =>
      obtain ⟨names, claimed⟩ := ih (s.claim name)
      exact ⟨name :: names, claimed⟩

theorem claimAll_append (s : Scope) (bases more : List (Option String)) :
    s.claimAll (bases ++ more) =
      if none ∈ bases then s.claimAll bases else (s.claimAll bases).claimAll more := by
  induction bases generalizing s with
  | nil => rfl
  | cons base bases ih =>
    cases base with
    | none => simp [claimAll]
    | some name => simpa [claimAll] using ih (s.claim name)

/-- The text for a name right after the claim for it. -/
def claiming (name : String) : StateM Scope String := fun s =>
  ((s.claim name).display name, s.claim name)

end Scope

namespace TypeName

open Scope

mutual

/-- A tree is written as it is displayed behind all claims for it, although each name in it is written
right after its own claim. -/
theorem run_write_claiming (s : Scope) : (t : TypeName) → (t.write claiming).run.run s =
    (((s.claimType t).displayType t).mapError Stop.badName, s.claimType t)
  | .malformed _ => rfl
  | .node base args dims => by
    have inner := run_writeAll_claiming (s.claim base) args
    obtain ⟨later, claimed⟩ := exists_claimNames (s.claim base) (basesAll args)
    have settled : (s.claim base).Settles base := settles_of_mem s (List.mem_singleton_self base)
    have shown := display_claimNames settled later
    have scope : s.claimType (.node base args dims) = (s.claim base).claimAll (basesAll args) := rfl
    have start : (liftM (claiming base) : ExceptT Stop (StateM Scope) String).run.run s =
        (.ok ((s.claim base).display base), s.claim base) := rfl
    rw [scope, displayType, render, claimed, shown, write, run_bind, start]
    dsimp only
    rw [run_bind, inner, claimed]
    cases renderAll ((s.claim base).claimNames later).display args <;> rfl

theorem run_writeAll_claiming (s : Scope) : (ts : List TypeName) → (writeAll claiming ts).run.run s =
    ((renderAll (s.claimAll (basesAll ts)).display ts).mapError Stop.badName, s.claimAll (basesAll ts))
  | [] => rfl
  | t :: ts => by
    rw [writeAll, run_bind, run_write_claiming s t, basesAll, claimAll_append]
    by_cases wf : t.IsWellFormed
    · have inner := run_writeAll_claiming (s.claimType t) ts
      obtain ⟨later, claimed⟩ := exists_claimNames (s.claimType t) (basesAll ts)
      have settled : ∀ name ∈ t.names, (s.claimType t).Settles name := fun name hname =>
        claimType_eq_claimNames wf ▸ settles_of_mem s hname
      have shown : t.render ((s.claimType t).claimNames later).display = (s.claimType t).displayType t :=
        displayType_claimNames settled later
      obtain ⟨text, written⟩ := (render_eq_ok_iff (s.claimType t).display).2 wf
      have scope : s.claimAll t.bases = s.claimType t := rfl
      rw [if_neg wf, renderAll, scope, claimed, shown, displayType, written]
      dsimp only [Except.mapError]
      rw [run_bind, inner, claimed]
      cases renderAll ((s.claimType t).claimNames later).display ts <;> rfl
    · rw [if_pos (not_not.1 wf), renderAll, displayType, render_eq_error wf, render_eq_error wf]
      rfl

end

/-- Refers to the type with the given text by recursion on the text. -/
def referWithin (depth : Nat) (text : List Char) (s : Scope) : Except Stop String × Scope :=
  (writeWithin claiming depth text).run.run s

end TypeName

/-! ## Dimensions -/

namespace TypeName

theorem split?_brackets (text : List Char) : split? (text ++ ['[', ']']) =
    (split? text).map fun parts => { parts with dims := parts.dims ++ ['[', ']'] } := by
  have body : withoutBrackets (text ++ ['[', ']']) = withoutBrackets text := by
    simp [withoutBrackets, isSquareBracket]
  have dims : trailingBrackets (text ++ ['[', ']']) = trailingBrackets text ++ ['[', ']'] := by
    simp [trailingBrackets, isSquareBracket]
  simp only [split?, body, dims]
  split
  · rw [Option.map_map]
    rfl
  · rfl

theorem suffix_of_split? {text : List Char} {parts : TypeParts} (cut : split? text = some parts) :
    parts.dims <:+ text := by
  have dims : parts.dims = trailingBrackets text := by
    simp only [split?] at cut
    split at cut
    · obtain ⟨_, -, rfl⟩ := Option.map_eq_some_iff.1 cut
      rfl
    · obtain rfl := Option.some.inj cut
      rfl
  exact ⟨withoutBrackets text, dims ▸ withoutBrackets_append text⟩

end TypeName

namespace Descriptor

theorem peel_brackets (dims : List Char) : peel (String.ofList (dims ++ ['[', ']'])) =
    ((peel (String.ofList dims)).1 + 1, (peel (String.ofList dims)).2) := by
  simp [peel, peelReversed]

theorem peel_eq_self {dims : List Char} (h : ¬ ['[', ']'] <:+ dims) :
    peel (String.ofList dims) = (0, String.ofList dims) := by
  have whole : peelReversed dims.reverse = (0, dims.reverse) := by
    unfold peelReversed
    split
    · rename_i rest reversed
      refine absurd ⟨rest.reverse, ?_⟩ h
      rw [← List.reverse_reverse dims, reversed]
      simp
    · rfl
  rw [peel, String.toList_ofList, whole]
  simp

end Descriptor

namespace Universe

open Descriptor

variable (u : Universe) (package : String)

/-- Qualifies the type with the given text by recursion on the text. -/
def qualifyWithin (depth : Nat) (text : List Char) : Except TypeName.Stop String :=
  (TypeName.writeWithin (fun name => (pure (u.qualify package name) : Id String)) depth text).run

/-- Describes the type with the given text by recursion on the text, which loses the brackets of a dimension
with each call. -/
def describeWithin : Nat → List Char → Except TypeName.Stop Descriptor
  | 0, _ => .error .tooDeep
  | depth + 1, text =>
    if ['[', ']'] <:+ text then
      (describeWithin depth (text.take (text.length - 2))).map array
    else
      match TypeName.split? text with
      | none => .error (.badName .unopenedArguments)
      | some parts => do
        let name ← u.qualifyWithin package depth text
        return ofErased u (u.qualify package (String.ofList parts.base)) name

theorem qualifyWithin_eq {depth : Nat} {text : List Char} (h : text.length < depth) :
    u.qualifyWithin package depth text =
      (u.qualifyType package (String.ofList text)).mapError .badName := by
  rw [qualifyWithin, TypeName.writeWithin_eq_write h, TypeName.write_pure, qualifyType, TypeName.ofText,
    String.toList_ofList]
  rfl

/-- The brackets at the end of a text make an array of what the text before them describes. -/
theorem describe_brackets (text : List Char) :
    u.describe package (String.ofList (text ++ ['[', ']'])) =
      (u.describe package (String.ofList text)).map array := by
  have cut := TypeName.split?_brackets text
  simp only [describe, TypeName.ofText, String.toList_ofList]
  cases parts : TypeName.split? text with
  | none =>
    rw [parts] at cut
    rw [TypeName.read_of_split?_eq_none cut, TypeName.read_of_split?_eq_none parts]
    rfl
  | some parts' =>
    rw [parts] at cut
    rw [TypeName.read_of_split?_eq_some cut, TypeName.read_of_split?_eq_some parts]
    simp only [peel_brackets]
    cases (TypeName.node _ _ _).render (u.qualify package) <;> rfl

theorem describe_of_not_suffix {text : List Char} {parts : TypeParts}
    (cut : TypeName.split? text = some parts) (h : ¬ ['[', ']'] <:+ text) :
    u.describe package (String.ofList text) = (u.qualifyType package (String.ofList text)).map
      (ofErased u (u.qualify package (String.ofList parts.base))) := by
  have whole := peel_eq_self fun dims => h (dims.trans (TypeName.suffix_of_split? cut))
  simp only [describe, qualifyType, TypeName.ofText, String.toList_ofList,
    TypeName.read_of_split?_eq_some cut, whole]
  cases (TypeName.node _ _ _).render (u.qualify package) <;> rfl

theorem describeWithin_eq {depth : Nat} {text : List Char} (h : text.length < depth) :
    u.describeWithin package (depth + 1) text =
      (u.describe package (String.ofList text)).mapError .badName := by
  induction depth generalizing text with
  | zero => exact absurd h (Nat.not_lt_zero _)
  | succ depth ih =>
    rw [describeWithin]
    by_cases array : ['[', ']'] <:+ text
    · obtain ⟨element, rfl⟩ := array
      rw [List.length_append] at h
      have shorter := @ih element (by simp at h; omega)
      have taken : (element ++ ['[', ']']).take ((element ++ ['[', ']']).length - 2) = element := by
        simp
      rw [if_pos (List.suffix_append ..), taken, shorter, describe_brackets]
      cases u.describe package (String.ofList element) <;> rfl
    · rw [if_neg array]
      cases cut : TypeName.split? text with
      | none =>
        simp only [describe, TypeName.ofText, String.toList_ofList, TypeName.read_of_split?_eq_none cut]
        rfl
      | some parts =>
        rw [u.describe_of_not_suffix package cut array, u.qualifyWithin_eq package h]
        cases u.qualifyType package (String.ofList text) <;> rfl

end Universe

/-! ## All texts -/

/-- **Recursion on the text of a type ends.** Cutting fails exactly on text that closes arguments it never
opened, and what it cuts out is shorter. So whatever the text is, with as many nested calls as it has
characters, and one more, each of the recursions comes to the result that there is or to that error. -/
theorem recursions_end (text : String) :
    (TypeName.split? text.toList = none ↔ (TypeName.withoutBrackets text.toList).getLast? = some '>' ∧
      '<' ∉ TypeName.withoutBrackets text.toList) ∧
    (∀ parts, TypeName.split? text.toList = some parts →
      ∀ arg ∈ parts.args, arg.length < text.length) ∧
    ∀ depth, text.length < depth →
      (∀ (u : Universe) package,
        u.qualifyWithin package depth text.toList = (u.qualifyType package text).mapError .badName ∧
        u.describeWithin package (depth + 1) text.toList = (u.describe package text).mapError .badName) ∧
      ∀ scope : Scope, ∃ result : Except TypeNameError String,
        TypeName.referWithin depth text.toList scope =
          (result.mapError .badName, (Generation.refer text scope).scope) ∧
        (Generation.refer text scope).result = result.mapError .badTypeName := by
  refine ⟨TypeName.split?_eq_none_iff _, fun parts cut arg harg => ?_, fun depth h => ⟨?_, ?_⟩⟩
  · rw [← String.length_toList]
    exact TypeName.length_lt_of_mem_args cut arg harg
  · intro u package
    rw [← String.length_toList] at h
    rw [u.qualifyWithin_eq package h, u.describeWithin_eq package h, String.ofList_toList]
    exact ⟨rfl, rfl⟩
  · intro scope
    rw [← String.length_toList] at h
    refine ⟨(scope.claimType (TypeName.ofText text)).displayType (TypeName.ofText text), ?_, rfl⟩
    rw [TypeName.referWithin, TypeName.writeWithin_eq_write h]
    exact TypeName.run_write_claiming scope (TypeName.ofText text)

/-- The depth of angle brackets falls below zero here, and the last argument closes arguments that it never
opened. Two names have been claimed by then. -/
theorem recursions_end_unopened :
    let text := "a.Map<b.C, x>, y>>[]"
    let scope := Scope.start "app" []
    text.length < 21 ∧
      Universe.builtIn.qualifyWithin "app" 21 text.toList = .error (.badName .unopenedArguments) ∧
      Universe.builtIn.describeWithin "app" 22 text.toList = .error (.badName .unopenedArguments) ∧
      TypeName.referWithin 21 text.toList scope =
        (.error (.badName .unopenedArguments), ⟨"app", [], ["a.Map", "b.C"]⟩) := by
  intro text scope
  have short : text.length < 21 := by decide
  obtain ⟨-, -, ends⟩ := recursions_end text
  obtain ⟨names, claims⟩ := ends 21 short
  obtain ⟨qualified, described⟩ := names Universe.builtIn "app"
  obtain ⟨result, referred, known⟩ := claims scope
  have noName : Universe.builtIn.qualifyType "app" text = .error .unopenedArguments := by decide +kernel
  have noKind : Universe.builtIn.describe "app" text = .error .unopenedArguments := by decide +kernel
  have refused : (Generation.refer text scope).result = .error (.badTypeName .unopenedArguments) := by
    decide +kernel
  have claimed : (Generation.refer text scope).scope = ⟨"app", [], ["a.Map", "b.C"]⟩ := by
    decide +kernel
  refine ⟨short, qualified.trans (by rw [noName]; rfl), described.trans (by rw [noKind]; rfl), ?_⟩
  rw [referred, claimed]
  rw [refused] at known
  cases result with
  | ok _ => exact nomatch known
  | error e => cases e; rfl

end ScreenNav
