import ScreenNav.Proofs.Legibility
import ScreenNav.Proofs.Literals

/-!
# The source text determines the navigator

**Theorem (`eq_of_source_eq`).** Two navigators that are built for files that are parsed, into packages that
are accepted, are the same if their source texts are.

The text is read back from outside to inside: first its lines, then the package, the imports and the methods
that the lines belong to, then the header and the statements of each method. At every level a text is put
together from pieces with something between them that no piece can imitate, because the navigator is legible.
Each step is an instance of one lemma: where a run of letters of one kind ends with a letter of another kind,
the run and the rest are found again (`eq_and_eq_of_run`). For lines the letters are the lines themselves.

Only the parameters of a method need more, as there may be a comma and a space within a type. But those are
inside of angle brackets, so the signature is cut like the arguments of a type.
-/

namespace ScreenNav

open Text

variable {α β : Type}

/-! ## Runs -/

/-- Where a run ends is seen from what stands behind it. -/
theorem eq_and_eq_of_run {p : α → Prop} [DecidablePred p] {run run' rest rest' : List α}
    (inside : ∀ a ∈ run, p a) (inside' : ∀ a ∈ run', p a) (ends : ∀ a ∈ rest.head?, ¬ p a)
    (ends' : ∀ a ∈ rest'.head?, ¬ p a) (same : run ++ rest = run' ++ rest') :
    run = run' ∧ rest = rest' := by
  have before {run rest : List α} (inside : ∀ a ∈ run, p a) (ends : ∀ a ∈ rest.head?, ¬ p a) :
      (run ++ rest).takeWhile (fun a => decide (p a)) = run :=
    takeWhile_run (by simpa using inside) (by simpa using ends)
  obtain rfl : run = run' := by
    rw [← before inside ends, same, before inside' ends']
  exact ⟨rfl, List.append_cancel_left same⟩

/-- A run of characters at the start of a text. -/
theorem eq_and_eq_of_front {p : Char → Prop} [DecidablePred p] {run run' rest rest' : String}
    (inside : ∀ c ∈ run.toList, p c) (inside' : ∀ c ∈ run'.toList, p c)
    (ends : ∀ c ∈ rest.toList.head?, ¬ p c) (ends' : ∀ c ∈ rest'.toList.head?, ¬ p c)
    (same : run ++ rest = run' ++ rest') : run = run' ∧ rest = rest' := by
  have letters := congrArg String.toList same
  rw [String.toList_append, String.toList_append] at letters
  obtain ⟨first, second⟩ := eq_and_eq_of_run inside inside' ends ends' letters
  exact ⟨String.toList_inj.1 first, String.toList_inj.1 second⟩

/-- A map that tells the elements of two lists apart tells the lists apart. -/
theorem eq_of_map_eq {f : α → β} {as bs : List α}
    (h : ∀ a ∈ as, ∀ b ∈ bs, f a = f b → a = b) (same : as.map f = bs.map f) : as = bs := by
  induction as generalizing bs with
  | nil => exact (List.map_eq_nil_iff.1 same.symm).symm
  | cons a as ih =>
    cases bs with
    | nil => exact nomatch same
    | cons b bs =>
      obtain ⟨head, tail⟩ := List.cons.inj same
      have first := h a (List.mem_cons_self ..) b (List.mem_cons_self ..) head
      have others := ih (fun x hx y hy => h x (List.mem_cons_of_mem _ hx) y (List.mem_cons_of_mem _ hy)) tail
      rw [first, others]

/-! ## Statements -/

namespace Statement

/-- The cast in an assignment, if there is one. -/
def conversion (cast : Option String) : String := cast.elim "" fun type => "(" ++ type ++ ") "

/-- What an accessor is told besides the name, if it is told anything. -/
def missing (fallback : Option String) : String := fallback.elim "" fun value => ", " ++ value

/-- The name that the text of a statement starts with. -/
def front : Statement → String
  | .newIntent intentType _ | .getIntent intentType => intentType
  | .putExtra _ => "intent.putExtra"
  | .startActivity => "context.startActivity"
  | .assign name _ _ _ => "activity." ++ name

/-- The text of a statement behind its front. -/
def back : Statement → String
  | .newIntent intentType screenType =>
    " intent = new " ++ (intentType ++ ("(context, " ++ (screenType ++ ".class)")))
  | .putExtra name => "(\"" ++ (name ++ ("\", " ++ (name ++ ")")))
  | .startActivity => "(intent)"
  | .getIntent _ => " intent = activity.getIntent()"
  | .assign name cast method fallback =>
    " = " ++ (conversion cast ++ ("intent." ++ (method ++ ("(\"" ++ name ++ "\"" ++ (missing fallback ++ ")")))))

theorem front_append_back (s : Statement) : s.front ++ s.back = s.text := by
  have put : "intent.putExtra(\"" = "intent.putExtra" ++ "(\"" := by decide +kernel
  cases s with
  | newIntent intentType screenType =>
    show _ = intentType ++ " intent = new " ++ intentType ++ "(context, " ++ screenType ++ ".class)"
    simp only [front, back, String.append_assoc]
  | putExtra name =>
    show _ = "intent.putExtra(\"" ++ name ++ "\", " ++ name ++ ")"
    simp only [front, back, put, String.append_assoc]
  | startActivity => rfl
  | getIntent intentType => rfl
  | assign name cast method fallback =>
    show _ = "activity." ++ name ++ " = " ++ conversion cast ++ "intent." ++ method ++ "(\"" ++ name ++ "\""
      ++ missing fallback ++ ")"
    simp only [front, back, String.append_assoc]

variable {s s' : Statement}

theorem head?_back (s : Statement) : ∀ c ∈ s.back.toList.head?, ¬ IsNameChar c := by
  have space : ¬ IsNameChar ' ' := by decide
  have bracket : ¬ IsNameChar '(' := by decide
  cases s <;> simpa [back]

/-- Every statement starts with a name. -/
theorem IsLegible.isDottedIdentifier_front (h : s.IsLegible) : IsDottedIdentifier s.front := by
  cases h with
  | newIntent intent _ => exact intent
  | getIntent intent => exact intent
  | putExtra _ =>
    show IsDottedIdentifier "intent.putExtra"
    decide +kernel
  | startActivity =>
    show IsDottedIdentifier "context.startActivity"
    decide +kernel
  | assign name _ _ _ =>
    have member : "activity." = "activity" ++ "." := by decide +kernel
    rw [front, member, isDottedIdentifier_append_iff]
    exact ⟨by decide +kernel, isDottedIdentifier_word name⟩

/-- A cast is in parentheses, and what is cast starts with a letter. -/
theorem conversion_inj {cast cast' : Option String} {rest rest' : String}
    (h : ∀ type ∈ cast, HasTypeChars type) (h' : ∀ type ∈ cast', HasTypeChars type)
    (same : conversion cast ++ ("intent." ++ rest) = conversion cast' ++ ("intent." ++ rest')) :
    cast = cast' ∧ rest = rest' := by
  have closed : ¬ IsTypeChar ')' := by decide
  cases cast with
  | none =>
    cases cast' with
    | none => simpa [conversion] using same
    | some type' =>
      have first := congrArg (fun text => text.toList.head?) same
      simp [conversion] at first
  | some type =>
    cases cast' with
    | none =>
      have first := congrArg (fun text => text.toList.head?) same
      simp [conversion] at first
    | some type' =>
      simp only [conversion, Option.elim, String.append_assoc, String.append_right_inj] at same
      obtain ⟨rfl, rest⟩ := eq_and_eq_of_front (h type rfl) (h' type' rfl) (by simpa) (by simpa) same
      exact ⟨rfl, by simpa using rest⟩

theorem missing_injective : Function.Injective missing := by
  intro fallback fallback' same
  cases fallback <;> cases fallback' <;> simp_all [missing]

/-- Statements with the same text are the same. -/
theorem eq_of_text_eq (h : s.IsLegible) (h' : s'.IsLegible) (same : s.text = s'.text) : s = s' := by
  have quote : ¬ IsNameChar '"' := by decide
  have bracket : ¬ IsTypeChar '(' := by decide
  rw [← front_append_back, ← front_append_back] at same
  obtain ⟨front, back⟩ := eq_and_eq_of_front h.isDottedIdentifier_front.isNameChar
    h'.isDottedIdentifier_front.isNameChar s.head?_back s'.head?_back same
  -- Behind the front, statements of different kinds are told apart by fixed characters.
  have letters := congrArg String.toList back
  cases h with
  | newIntent intent screen =>
    cases h' with
    | newIntent intent' screen' =>
      simp only [Statement.front] at front
      subst front
      simpa [Statement.back] using back
    | _ => simp [Statement.back] at letters
  | putExtra name =>
    cases h' with
    | putExtra name' =>
      have quoted := (String.append_right_inj _).1 back
      obtain ⟨rfl, -⟩ := eq_and_eq_of_front name.isNameChar name'.isNameChar (by simpa) (by simpa) quoted
      rfl
    | _ => simp [Statement.back] at letters
  | startActivity =>
    cases h' with
    | startActivity => rfl
    | _ => simp [Statement.back] at letters
  | getIntent intent =>
    cases h' with
    | getIntent intent' => exact congrArg getIntent front
    | _ => simp [Statement.back] at letters
  | assign name casts method values =>
    cases h' with
    | assign name' casts' method' values' =>
      obtain rfl := (String.append_right_inj _).1 front
      obtain ⟨rfl, call⟩ := conversion_inj casts casts' ((String.append_right_inj _).1 back)
      obtain ⟨rfl, told⟩ := eq_and_eq_of_front method method' (by simpa) (by simpa) call
      have fallback := (String.append_left_inj _).1 ((String.append_right_inj _).1 told)
      rw [missing_injective fallback]
    | _ => simp [Statement.back] at letters

end Statement

/-! ## Methods -/

namespace Parameter

variable {p p' : Parameter}

/-- Parameters with the same text are the same: the type of a parameter ends at the last space. -/
theorem eq_of_text_eq (h : p.IsLegible) (h' : p'.IsLegible) (same : p.text = p'.text) : p = p' := by
  obtain ⟨type, name⟩ := p
  obtain ⟨type', name'⟩ := p'
  have space : ¬ IsNameChar ' ' := by decide
  simp only [text, String.append_assoc, String.append_right_inj] at same
  -- Read from behind, as there can be a space in the type, but none in the name.
  have reversed : name.toList.reverse ++ ' ' :: type.toList.reverse =
      name'.toList.reverse ++ ' ' :: type'.toList.reverse := by
    simpa using congrArg (fun text => text.toList.reverse) same
  have run : ∀ c ∈ name.toList.reverse, IsNameChar c := by simpa using h.name.isNameChar
  have run' : ∀ c ∈ name'.toList.reverse, IsNameChar c := by simpa using h'.name.isNameChar
  obtain ⟨names, types⟩ := eq_and_eq_of_run run run' (by simpa) (by simpa) reversed
  obtain rfl := String.toList_inj.1 (List.reverse_injective names)
  obtain rfl := String.toList_inj.1 (List.reverse_injective (List.cons.inj types).2)
  rfl

/-- A parameter stays whole where a signature is cut like the arguments of a type. -/
theorem IsLegible.isTypeText (h : p.IsLegible) : TypeName.IsTypeText p.text.toList := by
  have text : p.text.toList = "final ".toList ++ p.type.toList ++ " ".toList ++ p.name.toList := by
    simp [Parameter.text]
  rw [text]
  refine ⟨((TypeName.StaysWhole.append ?_ h.type.isTypeText.whole).append ?_).append ?_, ?_, ?_⟩
  · exact TypeName.staysWhole_of_forall (by simp)
  · exact TypeName.staysWhole_of_forall (by simp)
  · refine TypeName.staysWhole_of_forall fun c hc special => ?_
    exact (h.name.isNameChar c hc).notMem (by simp at special ⊢; tauto)
  · intro c hc
    obtain rfl : 'f' = c := by simpa using hc
    decide
  · intro c hc
    rw [List.getLast?_append_of_ne_nil _ h.name.1] at hc
    exact (h.name.isNameChar c (List.mem_of_getLast? hc)).isBlank_eq_false

end Parameter

namespace Method

variable {m m' : Method}

/-- The signature is cut into the texts of the parameters, like the arguments of a type. -/
theorem IsLegible.split_signature (h : m.IsLegible) :
    (TypeName.splitArguments 0 m.signature.toList).map trim = m.parameters.map (·.text.toList) := by
  have comma : ", ".toList = [',', ' '] := rfl
  have whole := List.forall_mem_map.2 fun p hp => (h.parameters p hp).isTypeText
  rw [signature, String.toList_intercalate, comma, List.map_map]
  exact TypeName.map_trim_splitArguments whole (by simpa using h.some_parameter)

theorem parameters_eq_of_signature_eq (h : m.IsLegible) (h' : m'.IsLegible)
    (same : m.signature = m'.signature) : m.parameters = m'.parameters := by
  have texts := h.split_signature
  rw [same, h'.split_signature] at texts
  refine eq_of_map_eq (fun p hp p' hp' text => ?_) texts.symm
  exact Parameter.eq_of_text_eq (h.parameters p hp) (h'.parameters p' hp') (String.toList_inj.1 text)

theorem eq_of_header_eq (h : m.IsLegible) (h' : m'.IsLegible)
    (same : "  public static void " ++ m.name ++ "(" ++ m.signature ++ ") \x7b" =
      "  public static void " ++ m'.name ++ "(" ++ m'.signature ++ ") \x7b") :
    m.name = m'.name ∧ m.parameters = m'.parameters := by
  have bracket : ¬ IsTypeChar '(' := by decide
  simp only [String.append_assoc, String.append_right_inj] at same
  obtain ⟨name, rest⟩ := eq_and_eq_of_front h.name h'.name (by simpa) (by simpa) same
  have signature := (String.append_left_inj _).1 ((String.append_right_inj _).1 rest)
  exact ⟨name, parameters_eq_of_signature_eq h h' signature⟩

/-- Where a method ends is seen from its lines: those of its statements start with four spaces. -/
theorem eq_and_eq_of_lines {rest rest' : List String} (h : m.IsLegible) (h' : m'.IsLegible)
    (same : m.lines ++ rest = m'.lines ++ rest') : m = m' ∧ rest = rest' := by
  obtain ⟨name, parameters, statements⟩ := m
  obtain ⟨name', parameters', statements'⟩ := m'
  simp only [lines, List.cons_append, List.append_assoc, List.cons.injEq] at same
  obtain ⟨header, body⟩ := same
  obtain ⟨rfl, rfl⟩ := eq_of_header_eq h h' header
  have indented (statements : List Statement) : ∀ line ∈ statements.map fun s => "    " ++ s.text ++ ";",
      line.toList.take 4 = [' ', ' ', ' ', ' '] := by
    rw [List.forall_mem_map]
    intro s _
    simp
  obtain ⟨texts, behind⟩ := eq_and_eq_of_run (indented statements) (indented statements') (by simp)
    (by simp) body
  have texts : statements = statements' := by
    refine eq_of_map_eq (fun s hs s' hs' text => ?_) texts
    have text := (String.append_right_inj _).1 ((String.append_left_inj _).1 text)
    exact Statement.eq_of_text_eq (h.statements s hs) (h'.statements s' hs') text
  exact ⟨by rw [texts], (List.cons.inj behind).2⟩

end Method

theorem methodLines_cons (m : Method) (ms : List Method) :
    methodLines (m :: ms) = m.lines ++ if ms = [] then [] else "" :: methodLines ms := by
  cases ms <;> simp [methodLines]

/-- The methods are found again in their lines, before the line that closes the class. -/
theorem eq_of_methodLines_eq {ms ms' : List Method} (h : ∀ m ∈ ms, m.IsLegible)
    (h' : ∀ m ∈ ms', m.IsLegible) (same : methodLines ms ++ ["\x7d"] = methodLines ms' ++ ["\x7d"]) :
    ms = ms' := by
  induction ms generalizing ms' with
  | nil =>
    cases ms' with
    | nil => rfl
    | cons m' ms' => simp [methodLines, methodLines_cons, Method.lines] at same
  | cons m ms ih =>
    cases ms' with
    | nil => simp [methodLines, methodLines_cons, Method.lines] at same
    | cons m' ms' =>
      obtain ⟨head, tail⟩ := List.forall_mem_cons.1 h
      obtain ⟨head', tail'⟩ := List.forall_mem_cons.1 h'
      rw [methodLines_cons, methodLines_cons, List.append_assoc, List.append_assoc] at same
      obtain ⟨rfl, rest⟩ := Method.eq_and_eq_of_lines head head' same
      refine congrArg (m :: ·) ?_
      -- Behind a method the class ends, or there is a blank line and another method.
      by_cases last : ms = [] <;> by_cases last' : ms' = []
      · rw [last, last']
      · simp [last, last'] at rest
      · simp [last, last'] at rest
      · rw [if_neg last, if_neg last'] at rest
        exact ih tail tail' (List.cons.inj rest).2

/-! ## Lines -/

/-- Lines are found again in the text that they make up. -/
theorem split_lines {lines : List String} (h : ∀ line ∈ lines, IsLine line) :
    split '\n' (String.join (lines.map (· ++ "\n"))).toList = lines.map String.toList ++ [[]] := by
  rw [String.toList_join]
  induction lines with
  | nil => rfl
  | cons line lines ih =>
    obtain ⟨head, tail⟩ := List.forall_mem_cons.1 h
    have newline : "\n".toList = ['\n'] := rfl
    rw [List.map_cons, List.flatMap_cons, String.toList_append, newline, List.append_assoc,
      List.singleton_append, split_append _ head, ih tail]
    rfl

theorem importLines_append (imports rest : List String) : importLines imports ++ rest =
    imports.map (fun name => "import " ++ name ++ ";") ++ if imports = [] then rest else "" :: rest := by
  cases imports <;> simp [importLines]

/-- The imports are found again in their lines, before a line that is not one of them. -/
theorem eq_and_eq_of_importLines {imports imports' rest rest' : List String}
    (ends : ∀ line ∈ rest.head?, line.toList.head? ≠ some 'i')
    (ends' : ∀ line ∈ rest'.head?, line.toList.head? ≠ some 'i')
    (same : importLines imports ++ rest = importLines imports' ++ rest') :
    imports = imports' ∧ rest = rest' := by
  have started (imports : List String) : ∀ line ∈ imports.map fun name => "import " ++ name ++ ";",
      line.toList.head? = some 'i' := by
    rw [List.forall_mem_map]
    intro name _
    simp
  have behind (imports : List String) {rest : List String}
      (ends : ∀ line ∈ rest.head?, line.toList.head? ≠ some 'i') :
      ∀ line ∈ (if imports = [] then rest else "" :: rest).head?, line.toList.head? ≠ some 'i' := by
    split
    · exact ends
    · simp
  rw [importLines_append, importLines_append] at same
  obtain ⟨texts, behind⟩ := eq_and_eq_of_run (started imports) (started imports') (behind imports ends)
    (behind imports' ends') same
  obtain rfl : imports = imports' := by
    refine eq_of_map_eq (fun name _ name' _ text => ?_) texts
    exact (String.append_right_inj _).1 ((String.append_left_inj _).1 text)
  refine ⟨rfl, ?_⟩
  split at behind
  · exact behind
  · exact (List.cons.inj behind).2

theorem Statement.IsLegible.isLine_text {s : Statement} (h : s.IsLegible) : IsLine s.text := by
  rw [← front_append_back, isLine_append]
  refine ⟨h.isDottedIdentifier_front.hasTypeChars.isLine, ?_⟩
  cases h with
  | newIntent intent screen =>
    have intent := intent.hasTypeChars.isLine
    have screen := screen.hasTypeChars.isLine
    simp_all [IsLine, back]
  | putExtra name =>
    have name := name.isLine
    simp_all [IsLine, back]
  | startActivity => simp [IsLine, back]
  | getIntent intent => simp [IsLine, back]
  | @assign name method cast fallback named casts method values =>
    have named := named.isLine
    have method := method.isLine
    have cast : IsLine (conversion cast) := by
      cases cast with
      | none => simp [IsLine, conversion]
      | some type =>
        have type := (casts type rfl).isLine
        simp_all [IsLine, conversion]
    have fallback : IsLine (missing fallback) := by
      cases fallback with
      | none => simp [IsLine, missing]
      | some value =>
        have value := values value rfl
        simp_all [IsLine, missing]
    simp_all [IsLine, back]

theorem Method.IsLegible.isLine_lines {m : Method} (h : m.IsLegible) : ∀ line ∈ m.lines, IsLine line := by
  have signature : IsLine m.signature := by
    intro newline
    rw [signature, String.toList_intercalate, List.map_map] at newline
    rcases mem_intercalate newline with separator | ⟨_, parameter, newline⟩
    · simp at separator
    · obtain ⟨p, hp, rfl⟩ := List.mem_map.1 parameter
      have type := (h.parameters p hp).type.hasTypeChars.isLine
      have name := (h.parameters p hp).name.isLine
      simp_all [IsLine, Parameter.text]
  have name := h.name.isLine
  rw [lines, List.forall_mem_append, List.forall_mem_cons, List.forall_mem_map, List.forall_mem_singleton]
  refine ⟨⟨?_, fun s hs => ?_⟩, ?_⟩
  · simp_all [IsLine]
  · have statement := (h.statements s hs).isLine_text
    simp_all [IsLine]
  · simp [IsLine]

theorem isLine_methodLines {ms : List Method} (h : ∀ m ∈ ms, m.IsLegible) :
    ∀ line ∈ methodLines ms, IsLine line := by
  induction ms with
  | nil => exact fun _ hline => absurd hline List.not_mem_nil
  | cons m ms ih =>
    obtain ⟨head, tail⟩ := List.forall_mem_cons.1 h
    rw [methodLines_cons, List.forall_mem_append]
    refine ⟨head.isLine_lines, ?_⟩
    split
    · exact fun _ hline => absurd hline List.not_mem_nil
    · exact List.forall_mem_cons.2 ⟨by decide, ih tail⟩

namespace Navigator

variable {n n' : Navigator}

/-- Legible navigators with the same lines are the same. -/
theorem eq_of_lines_eq (h : n.IsLegible) (h' : n'.IsLegible) (same : n.lines = n'.lines) : n = n' := by
  obtain ⟨package, name, imports, methods⟩ := n
  obtain ⟨package', name', imports', methods'⟩ := n'
  simp only [lines, List.cons_append, List.nil_append, List.append_assoc, List.cons.injEq, true_and] at same
  obtain ⟨packages, rest⟩ := same
  obtain ⟨rfl, behind⟩ := eq_and_eq_of_importLines (by simp) (by simp) rest
  obtain ⟨names, body⟩ := List.cons.inj behind
  obtain rfl : methods = methods' := eq_of_methodLines_eq h.methods h'.methods body
  simp only [String.append_left_inj, String.append_right_inj] at packages names
  rw [packages, names]

theorem IsLegible.isLine_lines (h : n.IsLegible) : ∀ line ∈ n.lines, IsLine line := by
  have imports : ∀ line ∈ importLines n.imports, IsLine line := by
    unfold importLines
    split
    · exact fun _ hline => absurd hline List.not_mem_nil
    · refine List.forall_mem_append.2 ⟨List.forall_mem_map.2 fun name hname => ?_, by decide⟩
      have name := (h.imports name hname).hasTypeChars.isLine
      simp_all [IsLine]
  have package : IsLine ("package " ++ n.package ++ ";") := by
    have package := h.package
    simp_all [IsLine]
  have name : IsLine ("public final class " ++ n.name ++ " \x7b") := by
    have name := h.name
    simp_all [IsLine]
  have first : ∀ line ∈ ["", "// Generated by navgen. Do not modify.", "package " ++ n.package ++ ";", ""],
      IsLine line := by
    simp only [List.forall_mem_cons]
    exact ⟨by decide, by decide, package, by decide, List.forall_mem_nil _⟩
  simp only [lines, List.forall_mem_append, List.forall_mem_singleton]
  exact ⟨⟨⟨⟨first, imports⟩, name⟩, isLine_methodLines h.methods⟩, by decide⟩

theorem IsLegible.split_source (h : n.IsLegible) :
    split '\n' n.source.toList = n.lines.map String.toList ++ [[]] :=
  split_lines h.isLine_lines

/-- **The source text determines the navigator.** Navigators that are built for parsed files are the same,
package, imports and methods, if their source texts are. -/
theorem eq_of_source_eq (h : n.IsGenerated) (h' : n'.IsGenerated) (same : n.source = n'.source) :
    n = n' := by
  have lines := h.isLegible.split_source
  rw [same, h'.isLegible.split_source, List.append_left_inj] at lines
  have toList_injective : Function.Injective String.toList := fun _ _ => String.toList_inj.1
  exact eq_of_lines_eq h.isLegible h'.isLegible (List.map_injective_iff.2 toList_injective lines.symm)

theorem build_of_methods {package : String} {strict : Bool} {screens : List Screen} {ms : List Method}
    (h : (allMethods strict screens (.start package [className])).result = .ok ms) :
    (build package strict screens).result = .ok ⟨package, className,
      (allMethods strict screens (.start package [className])).scope.imports, ms⟩ := by
  simp only [build, h]
  rfl

/-- A file with a comma between the arguments of a type. -/
def pairText : String :=
  "class a.Home \x7b @Required(bind = false) b.Pair<String, int[]> pair; @Required public long id; \x7d"

/-- The same class in two blocks, with one modifier more and a field that has no marker. -/
def splitText : String :=
  "class a.Home \x7b int size; @Required(bind=false) public b.Pair<String,int[]> pair; \x7d "
    ++ "class a.Home \x7b @Required public long id; \x7d"

/-- The field that is not bound. -/
def pairField (modifiers : List String) : FieldDecl :=
  ⟨"pair", .mk "b.Pair" [.mk "String" [] 0, .mk "int" [] 1] 0, modifiers,
    [⟨"Required", [⟨some "bind", .bool false⟩]⟩]⟩

/-- The field that is bound. -/
def idField : FieldDecl := ⟨"id", .mk "long" [] 0, ["public"], [⟨"Required", []⟩]⟩

/-- The declarations in the first file. -/
def pairDeclarations : Declarations := ⟨[], [], [⟨"a.Home", [pairField [], idField]⟩]⟩

/-- The declarations in the second file. -/
def splitDeclarations : Declarations :=
  ⟨[], [], [⟨"a.Home", [⟨"size", .mk "int" [] 0, [], []⟩, pairField ["public"]]⟩, ⟨"a.Home", [idField]⟩]⟩

/-- The screens of the files, which differ in whether other classes can assign the first field. -/
def pairScreens (writable : Bool) : List Screen := [⟨"a.Home",
  [⟨"pair", .unsupported "b.Pair<java.lang.String, int[]>", writable, false⟩,
    ⟨"id", .numeric "long" "long" 64 true false false, true, true⟩]⟩]

/-- Two files with the same navigator, one generated strictly and the other not. -/
theorem eq_of_source_eq_pair :
    parse pairText = .ok pairDeclarations ∧ parse splitText = .ok splitDeclarations ∧
      pairDeclarations.screens = .ok (pairScreens false) ∧
      splitDeclarations.screens = .ok (pairScreens true) ∧
      ∃ n n', (build "app" true (pairScreens false)).result = .ok n ∧
        (build "app" false (pairScreens true)).result = .ok n' ∧
        n.methods.map Method.signature =
          ["final Context context, final Pair<String, int[]> pair, final long id", "final Home activity"] ∧
        n.source = n'.source ∧ n = n' := by
  have parsed : parse pairText = .ok pairDeclarations := by decide +kernel
  have parsed' : parse splitText = .ok splitDeclarations := by decide +kernel
  have gathered : pairDeclarations.screens = .ok (pairScreens false) := by decide +kernel
  have gathered' : splitDeclarations.screens = .ok (pairScreens true) := by decide +kernel
  have valid : PackageName.isValid "app" = true := by decide +kernel
  let start := Scope.start "app" [className]
  have scopes : (allMethods true (pairScreens false) start).scope =
      (allMethods false (pairScreens true) start).scope := by
    decide +kernel
  have bodies : (allMethods true (pairScreens false) start).result.map methodLines =
      (allMethods false (pairScreens true) start).result.map methodLines := by
    decide +kernel
  have signatures : (allMethods true (pairScreens false) start).result.map (·.map Method.signature) =
      .ok ["final Context context, final Pair<String, int[]> pair, final long id",
        "final Home activity"] := by
    decide +kernel
  refine ⟨parsed, parsed', gathered, gathered', ?_⟩
  cases methods : (allMethods true (pairScreens false) start).result with
  | error e =>
    rw [methods] at signatures
    cases signatures
  | ok ms =>
    rw [methods] at signatures bodies
    cases methods' : (allMethods false (pairScreens true) start).result with
    | error e =>
      rw [methods'] at bodies
      cases bodies
    | ok ms' =>
      rw [methods'] at bodies
      have lines : methodLines ms = methodLines ms' := Except.ok.inj bodies
      have same : source ⟨"app", className, (allMethods true (pairScreens false) start).scope.imports, ms⟩ =
          source ⟨"app", className, (allMethods false (pairScreens true) start).scope.imports, ms'⟩ := by
        simp only [source, Navigator.lines, scopes, lines]
      have built := build_of_methods methods
      have built' := build_of_methods methods'
      exact ⟨_, _, built, built', Except.ok.inj signatures, same,
        eq_of_source_eq (.mk parsed gathered valid built) (.mk parsed' gathered' valid built') same⟩

end Navigator

end ScreenNav
