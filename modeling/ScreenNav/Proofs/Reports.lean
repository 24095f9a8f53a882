import ScreenNav.Proofs.Clashes
import ScreenNav.Proofs.Safety

/-!
# Reports tell what is generated

**Theorem (`binder_follows_report`).** A report has a row for each extra of a screen, in the same order.
For a file that is parsed, a row whose field is bound and can be assigned tells what generation does with
the field. A row without accessor makes strict generation fail, and generation that is not strict assigns
nothing to the field. Any other row determines the one assignment to the field, up to the text that refers
to its type, and every navigator that is built has exactly this assignment in the binder of the screen.

The report reads its cells off the plan of an extra; the binder puts its statements together from the
plan, step by step and over an import scope. What one bound extra becomes (`IsBound`) has the text that
its row tells (`IsBound.text`). That no other statement of the binder assigns the field is a matter of
the names: the extras of a screen have different ones (`Screen.Distinct`), whatever is left out between
them.
-/

namespace ScreenNav

/-- The statement assigns the field with this name. -/
def Statement.assigns (name : String) : Statement → Bool
  | .assign field .. => decide (field = name)
  | _ => false

/-- The row is about the extra. -/
structure ReportRow.IsAbout (r : ReportRow) (e : Extra) : Prop where
  name : r.name = e.name
  type : r.type = e.type.name
  bound : r.bound = e.bound
  writable : r.writable = e.writable

/-- The assignment that a row tells of, with the text that refers to its type. A row without accessor
tells of none. -/
def ReportRow.assignment? (r : ReportRow) (reference : String) : Option String :=
  r.accessor.map fun accessor =>
    "activity." ++ r.name ++ " = " ++ (if r.cast then "(" ++ reference ++ ") " else "")
      ++ "intent." ++ accessor ++ "(\"" ++ r.name ++ "\"" ++ r.fallback.elim "" (", " ++ ·) ++ ")"

namespace Navigator

open Generation

variable {s : Scope} {strict : Bool} {screen : Screen} {e : Extra}

/-! ## One extra -/

/-- A screen has a row for each of its extras. -/
theorem isAbout_rows (screen : Screen) : List.Forall₂ ReportRow.IsAbout screen.rows screen.extras :=
  List.forall₂_map_left_iff.2 (List.forall₂_same.2 fun _ _ => ⟨rfl, rfl, rfl, rfl⟩)

/-- A row tells of the assignment that the plan of its extra makes. -/
theorem assignment?_row (e : Extra) (reference : String) :
    e.row.assignment? reference = e.type.plan?.map fun plan => assignLine plan e.name reference := by
  unfold Extra.row ReportRow.assignment?
  cases e.type.plan? <;> rfl

/-- What becomes of a bound extra is what its row tells. -/
theorem IsBound.text {o : Option Statement} (h : IsBound s strict e o) (bound : e.bound = true)
    {reference : String} (written : s.Writes e.type.name reference) :
    o.map Statement.text = e.row.assignment? reference := by
  have line : Navigator.assignLine? e ⟨reference, e.name⟩ = o.map Statement.text :=
    h.assignLine? bound ⟨rfl, written⟩
  rw [← line, Navigator.assignLine?, if_pos bound, assignment?_row]

theorem IsBound.assigns {o : Option Statement} (h : IsBound s strict e o) (name : String) :
    o.toList.filter (·.assigns name) = if e.name = name then o.toList else [] := by
  cases h with
  | leftOut => simp
  | plain => by_cases own : e.name = name <;> simp [Statement.assigns, own]
  | cast => by_cases own : e.name = name <;> simp [Statement.assigns, own]

/-! ## One binder -/

variable {extras : List Extra} {assignments : List (Option Statement)}

theorem filterMap_id_cons {α : Type} (o : Option α) (os : List (Option α)) :
    (o :: os).filterMap id = o.toList ++ os.filterMap id := by
  cases o <;> rfl

theorem assigns_eq_nil {name : String} (h : List.Forall₂ (IsBound s strict) extras assignments)
    (other : name ∉ extras.map (·.name)) :
    (assignments.filterMap id).filter (·.assigns name) = [] := by
  induction h with
  | nil => rfl
  | cons head _ ih =>
    rw [List.map_cons, List.mem_cons, not_or] at other
    rw [filterMap_id_cons, List.filter_append, head.assigns, if_neg (Ne.symm other.1), ih other.2]
    rfl

/-- Of extras with different names, each has the assignments to its field for itself. -/
theorem exists_isBound_of_mem (h : List.Forall₂ (IsBound s strict) extras assignments)
    (distinct : (extras.map (·.name)).Nodup) (he : e ∈ extras) :
    ∃ o, IsBound s strict e o ∧ (assignments.filterMap id).filter (·.assigns e.name) = o.toList := by
  induction h with
  | nil => exact absurd he List.not_mem_nil
  | @cons first o extras assignments head tail ih =>
    obtain ⟨fresh, distinct⟩ := List.nodup_cons.1 distinct
    rw [filterMap_id_cons, List.filter_append, head.assigns]
    rcases List.mem_cons.1 he with rfl | he
    · refine ⟨o, head, ?_⟩
      rw [if_pos rfl, assigns_eq_nil tail fresh, List.append_nil]
    · have other : first.name ≠ e.name := fun same => fresh (List.mem_map.2 ⟨e, he, same.symm⟩)
      rw [if_neg other]
      exact ih distinct he

/-- The binder of a screen does with a bound extra what the row of the extra tells. -/
theorem IsBinder.assigned {m : Method} (h : IsBinder s strict screen m)
    (distinct : (screen.extras.map (·.name)).Nodup) (he : e ∈ screen.extras) (bound : e.bound = true)
    {reference : String} (written : s.Writes e.type.name reference) :
    (m.statements.filter (·.assigns e.row.name)).map Statement.text =
      (e.row.assignment? reference).toList := by
  obtain ⟨intent, activity, assignments, -, -, hassignments, rfl⟩ := h
  have sublist := (List.filter_sublist (p := (·.bound)) (l := screen.extras)).map (·.name)
  obtain ⟨o, became, own⟩ := exists_isBound_of_mem hassignments (sublist.nodup distinct)
    (List.mem_filter.2 ⟨he, bound⟩)
  have first : ¬ Statement.assigns e.name (.getIntent intent) = true := Bool.false_ne_true
  show ((Statement.getIntent intent :: assignments.filterMap id).filter
    (·.assigns e.name)).map Statement.text = _
  rw [List.filter_cons_of_neg first, own, ← became.text bound written]
  cases o <;> rfl

/-! ## Files -/

variable {screens : List Screen} {package : String}

theorem IsLauncher.exists_writes {m : Method} (h : IsLauncher s screen m) (he : e ∈ screen.extras) :
    ∃ reference, s.Writes e.type.name reference := by
  obtain ⟨_, _, _, parameters, -, -, -, hparameters, -⟩ := h
  obtain ⟨p, -, -, written⟩ := exists_related_of_mem hparameters he
  exact ⟨p.type, written⟩

/-- A bound extra that cannot be read back makes strict generation fail. -/
theorem exists_error_of_strict (hscreen : screen ∈ screens) (he : e ∈ screen.extras)
    (bound : e.bound = true) (planless : e.type.plan? = none) (package : String) :
    ∃ error, (build package true screens).result = .error error := by
  cases built : (build package true screens).result with
  | error error => exact ⟨error, rfl⟩
  | ok n =>
    obtain ⟨-, binders, -⟩ := methods_of_build built
    obtain ⟨m, -, _, _, assignments, -, -, hassignments, -⟩ := exists_related_of_mem binders hscreen
    obtain ⟨plan, some_plan⟩ :=
      exists_plan_of_strict hassignments e (List.mem_filter.2 ⟨he, bound⟩)
    exact nomatch planless.symm.trans some_plan

/-- A file that is parsed has screens. -/
theorem exists_entries_of_parse {text : String} {d : Declarations} (parsed : parse text = .ok d) :
    ∃ entries, List.Forall₂ (IsGatheredAs ⟨d.types⟩) (markedDecls d.classes) entries ∧
      d.screens = .ok (Screen.group entries) := by
  obtain ⟨fields, scanned⟩ := (validBlocks_of_parse parsed).exists_scan
  obtain ⟨screens, gathered⟩ := (isWellNamed_of_parse parsed).exists_gather scanned
  have known := screens_eq_ok_iff.2 ⟨fields, scanned, gathered⟩
  obtain ⟨entries, decls, rfl⟩ := exists_entries_of_screens known
  exact ⟨entries, decls, known⟩

/-- **Reports tell what is generated.** Every extra has its row. Where a field is bound and can be assigned,
the row determines the assignments to it, one or none, in every navigator that is built for the file; and if
there is none, strict generation fails. -/
theorem binder_follows_report {text : String} {d : Declarations} (parsed : parse text = .ok d) :
    ∃ screens, d.screens = .ok screens ∧
      (∀ screen ∈ screens, List.Forall₂ ReportRow.IsAbout screen.rows screen.extras) ∧
      (∀ screen ∈ screens, ∀ row ∈ screen.rows, row.bound = true → row.writable = true →
        row.accessor = none → ∀ package, ∃ error,
          (build package true screens).result = .error error) ∧
      ∀ package strict n, (build package strict screens).result = .ok n →
        List.Forall₂ (fun screen binder => ∀ row ∈ screen.rows, row.bound = true →
          row.writable = true → ∃ reference,
            (finalScope package screens).Writes row.type reference ∧
              (binder.statements.filter (·.assigns row.name)).map Statement.text =
                (row.assignment? reference).toList) screens n.binders := by
  obtain ⟨entries, decls, known⟩ := exists_entries_of_parse parsed
  have distinct := (validBlocks_of_parse parsed).distinct decls
  refine ⟨Screen.group entries, known, fun screen _ => isAbout_rows screen, ?_, ?_⟩
  · intro screen hscreen row hrow bound _ unread package
    obtain ⟨e, he, rfl⟩ := List.mem_map.1 hrow
    exact exists_error_of_strict hscreen he bound (Option.map_eq_none_iff.1 unread) package
  · intro package strict n built
    obtain ⟨launchers, binders, -⟩ := methods_of_build built
    have written : ∀ screen ∈ Screen.group entries, ∀ e ∈ screen.extras, ∃ reference,
        (finalScope package (Screen.group entries)).Writes e.type.name reference := by
      intro screen hscreen e he
      obtain ⟨launcher, -, hlauncher⟩ := exists_related_of_mem launchers hscreen
      exact hlauncher.exists_writes he
    refine ((List.forall₂_and_left _ _).2 ⟨fun _ hscreen => hscreen, binders⟩).imp ?_
    rintro screen binder ⟨hscreen, hbinder⟩ row hrow bound -
    obtain ⟨e, he, rfl⟩ := List.mem_map.1 hrow
    obtain ⟨reference, refers⟩ := written screen hscreen e he
    exact ⟨reference, refers,
      hbinder.assigned (distinct.extraNames screen hscreen) he bound refers⟩

/-- A file with a field that is cast, and one that cannot be read back. -/
def inboxText : String :=
  "class a.Inbox \x7b @Required public ArrayList<User[]> users; @Required public Object[] rest; \x7d"

/-- The declarations in the file. -/
def inboxDeclarations : Declarations :=
  let required (name : String) (type : TypeRef) : FieldDecl :=
    ⟨name, type, ["public"], [⟨"Required", []⟩]⟩
  ⟨[], [], [⟨"a.Inbox", [required "users" (.mk "ArrayList" [.mk "User" [] 1] 0),
    required "rest" (.mk "Object" [] 1)]⟩]⟩

/-- The field that is cast. -/
def inboxUsers : Extra := ⟨"users", .serializable "java.util.ArrayList<a.User[]>", true, true⟩

/-- The field that cannot be read back. -/
def inboxRest : Extra :=
  ⟨"rest", .arrayOf "java.lang.Object[]" (.unsupported "java.lang.Object"), true, true⟩

/-- The screen of the file. -/
def inbox : Screen := ⟨"a.Inbox", [inboxUsers, inboxRest]⟩

/-- The rows of both fields, and what is generated with strictness and without it. -/
theorem binder_follows_report_inbox :
    parse inboxText = .ok inboxDeclarations ∧ inboxDeclarations.screens = .ok [inbox] ∧
      List.Forall₂ ReportRow.IsAbout inbox.rows [inboxUsers, inboxRest] ∧
      inboxRest.row.accessor = none ∧
      (∃ error, (build "app" true [inbox]).result = .error error) ∧
      ∃ n binder, (build "app" false [inbox]).result = .ok n ∧ n.binders = [binder] ∧
        (binder.statements.filter (·.assigns "rest")).map Statement.text = [] ∧
        (binder.statements.filter (·.assigns "users")).map Statement.text =
          ["activity.users = (ArrayList<User[]>) intent.getSerializableExtra(\"users\")"] := by
  have parsed : parse inboxText = .ok inboxDeclarations := by decide +kernel
  have known : inboxDeclarations.screens = .ok [inbox] := by decide +kernel
  obtain ⟨screens, gathered, rows, strict, relaxed⟩ := binder_follows_report parsed
  obtain rfl := Except.ok.inj (known.symm.trans gathered)
  have users : inboxUsers.row ∈ inbox.rows := by decide +kernel
  have rest : inboxRest.row ∈ inbox.rows := by decide +kernel
  have unread : inboxRest.row.accessor = none := by decide +kernel
  have built : (build "app" false [inbox]).result.toOption.isSome = true := by decide +kernel
  refine ⟨parsed, known, rows inbox (List.mem_singleton_self _), unread,
    strict inbox (List.mem_singleton_self _) _ rest rfl rfl unread "app", ?_⟩
  cases h : (build "app" false [inbox]).result with
  | error e => simp [h, Except.toOption] at built
  | ok n =>
    obtain ⟨binder, _, follows, none, binders⟩ :=
      List.forall₂_cons_left_iff.1 (relaxed "app" false n h)
    obtain rfl := List.forall₂_nil_left_iff.1 none
    obtain ⟨_, -, left_out⟩ := follows _ rest rfl rfl
    obtain ⟨reference, refers, assigned⟩ := follows _ users rfl rfl
    have written : (finalScope "app" [inbox]).displayType (TypeName.ofText inboxUsers.row.type) =
        .ok "ArrayList<User[]>" := by
      decide +kernel
    obtain rfl := refers.unique written
    exact ⟨n, binder, rfl, binders, left_out, assigned⟩

end Navigator

end ScreenNav
