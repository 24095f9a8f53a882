import ScreenNav.Proofs.Failure
import ScreenNav.Proofs.Methods

/-!
# What binding leaves alone

**Theorem (`launchers_ignore_flags`).** Whether extras are bound and can be assigned has no influence
on the launchers and the imports of a navigator. Two generations for screens that agree apart from
these flags, each strict or not, have the same launchers and imports, if both succeed.

The reason is that a binder refers to types that its launcher has referred to before it: the intent's
class, the types of extras, and the screen's class. By then all names in them are settled, so the
binder leaves the scope as it was, even if it fails half-way. What the file imports, and how it writes
a type, is then a matter of the launchers alone, and they do not look at the flags.
-/

namespace ScreenNav

/-! ## Flags -/

/-- The extra without its flags. -/
def Extra.unflagged (e : Extra) : Extra := { e with writable := false, bound := false }

/-- The screen with its extras without their flags. -/
def Screen.unflagged (screen : Screen) : Screen :=
  { screen with extras := screen.extras.map Extra.unflagged }

namespace Generation

variable {α β : Type} {s : Scope} {x : Generation α}

/-! ## Steps that keep their scope -/

/-- The step leaves the scope as it was, whether it succeeds or fails. -/
def Keeps (s : Scope) (x : Generation α) : Prop := (x s).scope = s

theorem keeps_pure (s : Scope) (a : α) : Keeps s (pure a) := rfl

theorem keeps_ofExcept (s : Scope) (result : Except GenerationError α) :
    Keeps s (ofExcept result) := rfl

theorem keeps_report (s : Scope) (record : LogRecord) : Keeps s (report record) := rfl

theorem keeps_refer {text : String} (wf : (TypeName.ofText text).IsWellFormed)
    (settled : ∀ name ∈ (TypeName.ofText text).names, s.Settles name) : Keeps s (refer text) :=
  (Scope.claimType_eq_claimNames wf).trans (Scope.claimNames_eq_self settled)

theorem Keeps.bind {next : α → Generation β} (hx : Keeps s x) (hnext : ∀ a, Keeps s (next a)) :
    Keeps s (x >>= next) := by
  unfold Keeps
  cases h : (x s).result with
  | error e =>
    rw [bind_of_error h]
    exact hx
  | ok a =>
    rw [bind_of_ok h, hx]
    exact hnext a

theorem Keeps.forEach {step : α → Generation β} {items : List α}
    (h : ∀ a ∈ items, Keeps s (step a)) : Keeps s (forEach step items) := by
  induction items with
  | nil => exact keeps_pure s []
  | cons a items ih =>
    obtain ⟨head, tail⟩ := List.forall_mem_cons.1 h
    exact head.bind fun b => (ih tail).bind fun bs => keeps_pure s (b :: bs)

end Generation

namespace Navigator

open Generation

variable {strict strict' : Bool} {screen : Screen} {screens screens' : List Screen} {s : Scope}
  {e : Extra}

/-! ## A binder behind its launcher -/

theorem mem_launcherReferences {type : String} : type ∈ launcherReferences screen ↔
    type = intentType ∨ type = contextType ∨ (∃ e ∈ screen.extras, e.type.name = type) ∨
      type = screen.className := by
  simp [launcherReferences]

theorem isWellFormed_launcherReferences (wf : screen.IsWellNamed) :
    ∀ type ∈ launcherReferences screen, (TypeName.ofText type).IsWellFormed := by
  intro type htype
  rcases mem_launcherReferences.1 htype with rfl | rfl | ⟨e, he, rfl⟩ | rfl
  · decide +kernel
  · decide +kernel
  · exact wf.2 e he
  · exact wf.1

theorem eq_of_mem_assignmentReferences {type : String} (h : type ∈ assignmentReferences e) :
    e.type.name = type := by
  unfold assignmentReferences castReferences at h
  cases hplan : e.type.plan? with
  | none => simp [hplan] at h
  | some plan =>
    rw [hplan, Option.elim_some] at h
    split at h
    · exact (List.mem_singleton.1 h).symm
    · exact absurd h List.not_mem_nil

/-- A binder refers to nothing that its launcher does not refer to. -/
theorem mem_launcherReferences_of_mem_binderReferences {type : String}
    (h : type ∈ binderReferences screen) : type ∈ launcherReferences screen := by
  simp only [binderReferences, List.cons_append, List.mem_cons, List.mem_append,
    List.mem_flatMap, List.not_mem_nil, or_false] at h
  rw [mem_launcherReferences]
  rcases h with intent | ⟨e, he, cast⟩ | activity
  · exact .inl intent
  · exact .inr (.inr (.inl ⟨e, (List.mem_filter.1 he).1, eq_of_mem_assignmentReferences cast⟩))
  · exact .inr (.inr (.inr activity))

/-- A launcher whose names are well formed has made its claims. -/
theorem scope_launcher (wf : screen.IsWellNamed) (s : Scope) :
    (launcher screen s).scope = s.claimNames (namesIn (launcherReferences screen)) := by
  obtain ⟨-, error⟩ := leaves_launcher wf s
  cases h : (launcher screen s).result with
  | error e => exact nomatch (h ▸ error :)
  | ok m => exact (refers_launcher screen h).2.1

theorem keeps_castFor {plan : AccessorPlan} {type : Descriptor} (h : Keeps s (refer type.name)) :
    Keeps s (castFor plan type) := by
  unfold castFor
  split
  · exact h.bind fun text => keeps_pure s (some text)
  · exact keeps_pure s none

theorem keeps_bindExtra (h : Keeps s (refer e.type.name)) : Keeps s (bindExtra strict screen e) := by
  unfold bindExtra
  refine (keeps_ofExcept s _).bind fun _ => ?_
  split
  · split
    · exact keeps_ofExcept s _
    · exact (keeps_report s _).bind fun _ => keeps_pure s none
  · exact (keeps_castFor h).bind fun _ => keeps_pure s _

/-- A binder leaves the scope behind its launcher as it was: all that it refers to is settled. -/
theorem keeps_binder (strict : Bool) (wf : screen.IsWellNamed) (s : Scope) :
    Keeps (launcher screen s).scope (binder strict screen) := by
  have known : ∀ type ∈ launcherReferences screen, Keeps (launcher screen s).scope (refer type) := by
    intro type htype
    refine keeps_refer (isWellFormed_launcherReferences wf type htype) fun name hname => ?_
    rw [scope_launcher wf]
    exact Scope.settles_of_mem s (List.mem_flatMap.2 ⟨type, htype, hname⟩)
  have intent := known intentType (mem_launcherReferences.2 (.inl rfl))
  have activity := known screen.className (mem_launcherReferences.2 (.inr (.inr (.inr rfl))))
  have extras : ∀ e ∈ screen.extras.filter (·.bound),
      Keeps (launcher screen s).scope (bindExtra strict screen e) := by
    intro e he
    have extra := (List.mem_filter.1 he).1
    exact keeps_bindExtra (known _ (mem_launcherReferences.2 (.inr (.inr (.inl ⟨e, extra, rfl⟩)))))
  exact intent.bind fun _ => (Keeps.forEach extras).bind fun _ => activity.bind fun _ =>
    keeps_pure _ _

/-! ## The scope of the file -/

/-- The claims of a binder have been made by its launcher. -/
theorem claimNames_screenReferences (s : Scope) (screen : Screen) :
    s.claimNames (namesIn (screenReferences screen)) =
      s.claimNames (namesIn (launcherReferences screen)) := by
  rw [screenReferences, namesIn_append, Scope.claimNames_append]
  refine Scope.claimNames_eq_self fun name hname => Scope.settles_of_mem s ?_
  obtain ⟨type, htype, hname⟩ := List.mem_flatMap.1 hname
  exact List.mem_flatMap.2 ⟨type, mem_launcherReferences_of_mem_binderReferences htype, hname⟩

theorem claimNames_references (s : Scope) (screens : List Screen) :
    s.claimNames (namesIn (references screens)) =
      s.claimNames (namesIn (screens.flatMap launcherReferences)) := by
  induction screens generalizing s with
  | nil => rfl
  | cons screen screens ih =>
    rw [references, List.flatMap_cons, List.flatMap_cons, namesIn_append, namesIn_append,
      Scope.claimNames_append, Scope.claimNames_append, claimNames_screenReferences]
    exact ih _

/-- The scope behind all references is a matter of the launchers. -/
theorem finalScope_eq (package : String) (screens : List Screen) :
    finalScope package screens = (Scope.start package [className]).claimNames
      (namesIn (screens.flatMap launcherReferences)) :=
  claimNames_references _ screens

/-! ## Two generations -/

theorem launcherReferences_unflagged (screen : Screen) :
    launcherReferences screen.unflagged = launcherReferences screen := by
  simp [launcherReferences, Screen.unflagged, Extra.unflagged]

theorem finalScope_unflagged (package : String) (screens : List Screen) :
    finalScope package (screens.map Screen.unflagged) = finalScope package screens := by
  rw [finalScope_eq, finalScope_eq, List.flatMap_map]
  simp only [launcherReferences_unflagged]

theorem isLauncher_unflagged {m : Method} (h : IsLauncher s screen m) :
    IsLauncher s screen.unflagged m := by
  obtain ⟨intent, context, activity, parameters, hintent, hcontext, hactivity, hparameters, rfl⟩ := h
  refine ⟨intent, context, activity, parameters, hintent, hcontext, hactivity,
    List.forall₂_map_left_iff.2 hparameters, ?_⟩
  have puts : screen.unflagged.extras.map (fun e => Statement.putExtra e.name) =
      screen.extras.map fun e => .putExtra e.name := by
    simp [Screen.unflagged, Extra.unflagged]
  rw [puts]
  rfl

/-- In one scope a screen has one launcher. -/
theorem IsLauncher.unique {m m' : Method} (h : IsLauncher s screen m) (h' : IsLauncher s screen m') :
    m = m' := by
  have types : Relator.RightUnique (IsParameter s) := by
    rintro e ⟨type, name⟩ ⟨type', name'⟩ ⟨rfl, written⟩ ⟨rfl, written'⟩
    obtain rfl := written.unique written'
    rfl
  obtain ⟨intent, context, activity, parameters, hintent, hcontext, hactivity, hparameters, rfl⟩ := h
  obtain ⟨intent', context', activity', parameters', hintent', hcontext', hactivity', hparameters',
    rfl⟩ := h'
  obtain rfl := hintent.unique hintent'
  obtain rfl := hcontext.unique hcontext'
  obtain rfl := hactivity.unique hactivity'
  obtain rfl := List.right_unique_forall₂' types hparameters hparameters'
  rfl

/-- **Binding influences neither launchers nor imports.** Screens that agree apart from the flags of
their extras have the same launchers and the same imports, if they are built at all. The reason stands
beside it: a binder leaves the scope behind its launcher as it was. -/
theorem launchers_ignore_flags :
    (∀ (package : String) (strict strict' : Bool) (screens screens' : List Screen)
      (n n' : Navigator), screens.map Screen.unflagged = screens'.map Screen.unflagged →
      (build package strict screens).result = .ok n →
      (build package strict' screens').result = .ok n' →
      n.launchers = n'.launchers ∧ n.imports = n'.imports) ∧
    ∀ (strict : Bool) (screen : Screen) (s : Scope), screen.IsWellNamed →
      (binder strict screen (launcher screen s).scope).scope = (launcher screen s).scope := by
  refine ⟨fun package strict strict' screens screens' n n' same h h' => ?_,
    fun strict screen s wf => keeps_binder strict wf s⟩
  obtain ⟨launchers, -, imports⟩ := methods_of_build h
  obtain ⟨launchers', -, imports'⟩ := methods_of_build h'
  have scope : finalScope package screens = finalScope package screens' := by
    rw [← finalScope_unflagged, same, finalScope_unflagged]
  rw [imports, imports', scope]
  rw [scope] at launchers
  refine ⟨?_, rfl⟩
  have unflagged : List.Forall₂ (IsLauncher (finalScope package screens'))
      (screens.map Screen.unflagged) n.launchers :=
    List.forall₂_map_left_iff.2 (launchers.imp fun _ _ => isLauncher_unflagged)
  have unflagged' : List.Forall₂ (IsLauncher (finalScope package screens'))
      (screens.map Screen.unflagged) n'.launchers :=
    same ▸ List.forall₂_map_left_iff.2 (launchers'.imp fun _ _ => isLauncher_unflagged)
  have unique : Relator.RightUnique (IsLauncher (finalScope package screens')) :=
    fun _ _ _ h h' => h.unique h'
  exact List.right_unique_forall₂' unique unflagged unflagged'

/-- An extra that is cast, to a type with an argument of the screen's simple name, and one that cannot
be read back: bound without strictness, and not bound with it. -/
theorem launchers_ignore_flags_bag :
    let home (flag : Bool) : Screen := ⟨"a.Home", [
      ⟨"bag", .stringLike "y.Bag<x.Home>" Platform.bundle true, flag, flag⟩,
      ⟨"id", .unsupported "x.Id", flag, flag⟩]⟩
    (∃ n n', (build "app" false [home true]).result = .ok n ∧
      (build "app" true [home false]).result = .ok n' ∧ n.methods ≠ n'.methods ∧
      n.launchers = n'.launchers ∧ n.imports = n'.imports) ∧
    (home true).IsWellNamed ∧
    (binder false (home true) (launcher (home true) (.start "app" ["Navigator"])).scope).scope =
      (launcher (home true) (.start "app" ["Navigator"])).scope := by
  intro home
  have built : (build "app" false [home true]).result.toOption.isSome = true := by decide +kernel
  have built' : (build "app" true [home false]).result.toOption.isSome = true := by decide +kernel
  have different : (build "app" false [home true]).result.map Navigator.methods ≠
      (build "app" true [home false]).result.map Navigator.methods := by
    decide +kernel
  have wf : (home true).IsWellNamed := by decide +kernel
  obtain ⟨alike, keeps⟩ := launchers_ignore_flags
  refine ⟨?_, wf, keeps false (home true) _ wf⟩
  cases h : (build "app" false [home true]).result with
  | error e => simp [h, Except.toOption] at built
  | ok n =>
    cases h' : (build "app" true [home false]).result with
    | error e => simp [h', Except.toOption] at built'
    | ok n' =>
      rw [h, h'] at different
      exact ⟨n, n', rfl, rfl, fun same => different (congrArg Except.ok same),
        alike "app" false true [home true] [home false] n n' rfl h h'⟩

end Navigator

end ScreenNav
