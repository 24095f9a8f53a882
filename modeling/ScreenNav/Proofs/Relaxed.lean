import ScreenNav.Proofs.Agreement
import ScreenNav.Proofs.Failure

/-!
# Generation that is not strict

**Theorem (`build_relaxed`).** Generation that is not strict has the outcome of strict generation on
the same screens with their unreadable extras not bound: the same navigator, or the same error. The
logs are the same too, apart from the warnings. So what can be built strictly is built alike without
strictness.

The two generations are compared step by step. A step `Mirrors` another if, wherever both start, they
leave the same scope and related results, or the same error. An extra that is left out has a step on
one side only; this step refers to no type, so it leaves its scope as it was and there is nothing that
the other side would have to follow.
-/

namespace ScreenNav

/-! ## Unreadable extras -/

/-- The extra as generation that is not strict takes it: not bound, if it cannot be read back. -/
def Extra.relaxed (e : Extra) : Extra := if e.IsUnreadable then { e with bound := false } else e

/-- The screen with its extras as generation that is not strict takes them. -/
def Screen.relaxed (screen : Screen) : Screen :=
  { screen with extras := screen.extras.map Extra.relaxed }

/-- A log without its warnings. -/
def unwarned (log : List LogRecord) : List LogRecord := log.filter fun r => r.level ≠ .warning

theorem unwarned_append (first second : List LogRecord) :
    unwarned (first ++ second) = unwarned first ++ unwarned second :=
  List.filter_append ..

namespace Extra

variable {e : Extra}

@[simp] theorem name_relaxed (e : Extra) : e.relaxed.name = e.name := by
  unfold relaxed
  split <;> rfl

@[simp] theorem type_relaxed (e : Extra) : e.relaxed.type = e.type := by
  unfold relaxed
  split <;> rfl

theorem bound_relaxed_of_isUnreadable (h : e.IsUnreadable) : e.relaxed.bound = false := by
  rw [relaxed, if_pos h]

theorem relaxed_eq_self (h : ¬ e.IsUnreadable) : e.relaxed = e := if_neg h

end Extra

namespace Generation

variable {α β γ δ : Type} {related : α → β → Prop} {x : Generation α} {y : Generation β}

/-! ## Steps that mirror each other -/

/-- The same error, or results that are related. -/
inductive SameOutcome {ε : Type} (related : α → β → Prop) : Except ε α → Except ε β → Prop
  | ok {a : α} {b : β} : related a b → SameOutcome related (.ok a) (.ok b)
  | error (e : ε) : SameOutcome related (.error e) (.error e)

/-- Wherever they start, the two steps leave the same scope, the same outcome and, apart from warnings,
the same log. -/
def Mirrors (related : α → β → Prop) (x : Generation α) (y : Generation β) : Prop :=
  ∀ s, (x s).scope = (y s).scope ∧ unwarned (x s).log = unwarned (y s).log ∧
    SameOutcome related (x s).result (y s).result

theorem Mirrors.refl (x : Generation α) : Mirrors Eq x x := by
  refine fun s => ⟨rfl, rfl, ?_⟩
  cases (x s).result with
  | ok a => exact .ok rfl
  | error e => exact .error e

theorem mirrors_pure {a : α} {b : β} (h : related a b) : Mirrors related (pure a) (pure b) :=
  fun _ => ⟨rfl, rfl, .ok h⟩

theorem Mirrors.bind {next : α → Generation γ} {next' : β → Generation δ} {related' : γ → δ → Prop}
    (h : Mirrors related x y) (hnext : ∀ a b, related a b → Mirrors related' (next a) (next' b)) :
    Mirrors related' (x >>= next) (y >>= next') := by
  intro s
  obtain ⟨scope, log, outcome⟩ := h s
  generalize hx : (x s).result = first at outcome
  generalize hy : (y s).result = first' at outcome
  cases outcome with
  | error e =>
    rw [bind_of_error hx, bind_of_error hy]
    exact ⟨scope, log, .error e⟩
  | @ok a b hab =>
    obtain ⟨scope', log', outcome'⟩ := hnext a b hab (x s).scope
    rw [bind_of_ok hx, bind_of_ok hy, ← scope]
    refine ⟨scope', ?_, outcome'⟩
    rw [unwarned_append, unwarned_append, log, log']

/-- What becomes of a result in the end is a matter of the relation. -/
theorem Mirrors.bind_pure {related' : γ → β → Prop} {f : α → γ} (h : Mirrors related x y)
    (hf : ∀ a b, related a b → related' (f a) b) : Mirrors related' (x >>= fun a => pure (f a)) y := by
  intro s
  obtain ⟨scope, log, outcome⟩ := h s
  generalize hx : (x s).result = first at outcome
  generalize (y s).result = first' at outcome
  cases outcome with
  | error e =>
    rw [bind_of_error hx]
    exact ⟨scope, log, .error e⟩
  | @ok a b hab =>
    rw [bind_of_ok hx]
    exact ⟨scope, (congrArg unwarned (List.append_nil _)).trans log, .ok (hf a b hab)⟩

theorem Mirrors.forEach {step : α → Generation γ} {step' : β → Generation γ} {f : α → β}
    (h : ∀ a, Mirrors Eq (step a) (step' (f a))) (items : List α) :
    Mirrors Eq (forEach step items) (forEach step' (items.map f)) := by
  induction items with
  | nil => exact .refl _
  | cons a items ih =>
    refine (h a).bind fun b b' hb => ih.bind fun bs bs' hbs => ?_
    rw [hb, hbs]
    exact .refl _

/-- A step that only warns needs nothing to mirror it. -/
theorem mirrors_of_warning {next : α → Generation γ} {related : γ → β → Prop} {record : LogRecord}
    {a : α} (hx : ∀ s, x s = ⟨s, [record], .ok a⟩) (warning : record.level = .warning)
    (h : Mirrors related (next a) y) : Mirrors related (x >>= next) y := by
  intro s
  have ok : (x s).result = .ok a := by rw [hx]
  have dropped : unwarned ([record] ++ (next a s).log) = unwarned (next a s).log :=
    List.filter_cons_of_neg (by simp [warning])
  rw [bind_of_ok ok, hx, dropped]
  exact h s

theorem forEach_map {step : β → Generation γ} {f : α → β} (items : List α) :
    forEach step (items.map f) = forEach (fun a => step (f a)) items := by
  induction items with
  | nil => rfl
  | cons a items ih => rw [List.map_cons, forEach, forEach, ih]

end Generation

namespace Navigator

open Generation

variable {screen : Screen} {e : Extra}

/-! ## The methods of a screen -/

theorem launcher_relaxed (screen : Screen) : launcher screen.relaxed = launcher screen := by
  have parameter : ∀ e, extraParameter (Extra.relaxed e) = extraParameter e := by
    simp [extraParameter]
  have parameters : forEach extraParameter screen.relaxed.extras =
      forEach extraParameter screen.extras := by
    simp only [Screen.relaxed, forEach_map, parameter]
  have puts : screen.relaxed.extras.map (fun e => Statement.putExtra e.name) =
      screen.extras.map fun e => .putExtra e.name := by
    simp [Screen.relaxed]
  rw [launcher, launcher, parameters, puts]
  rfl

/-- An unreadable extra is left out with a warning. -/
theorem bindExtra_of_isUnreadable (h : e.IsUnreadable) (s : Scope) :
    bindExtra false screen e s = ⟨s, [screen.omission e], .ok none⟩ := by
  obtain ⟨-, writable, unreadable⟩ := h
  have assignable : checkWritable screen.simpleName e = .ok () := if_neg (by simp [writable])
  rw [bindExtra, assignable, unreadable]
  rfl

/-- For any other bound extra strictness makes no difference. -/
theorem bindExtra_relaxed (bound : e.bound = true) (h : ¬ e.IsUnreadable) :
    bindExtra true screen.relaxed e = bindExtra false screen e := by
  unfold bindExtra
  cases hplan : e.type.plan? with
  | some plan => rfl
  | none =>
    have fixed : e.writable = false := by
      by_contra writable
      exact h ⟨bound, by simpa using writable, hplan⟩
    have refused : ∀ name, checkWritable name e = .error (.notWritable name e.name) :=
      fun name => if_pos (by simp [bound, fixed])
    rw [refused, refused]
    rfl

/-- The assignments of a screen are mirrored, apart from those that are left out. -/
theorem mirrors_assignments (screen : Screen) (extras : List Extra) :
    Mirrors (fun os os' => os.filterMap id = os'.filterMap id)
      (forEach (bindExtra false screen) (extras.filter (·.bound)))
      (forEach (bindExtra true screen.relaxed) ((extras.map Extra.relaxed).filter (·.bound))) := by
  induction extras with
  | nil => exact mirrors_pure rfl
  | cons e extras ih =>
    rw [List.map_cons]
    by_cases unreadable : e.IsUnreadable
    · rw [List.filter_cons_of_pos unreadable.1,
        List.filter_cons_of_neg (by simp [Extra.bound_relaxed_of_isUnreadable unreadable])]
      exact mirrors_of_warning (bindExtra_of_isUnreadable unreadable) rfl
        (ih.bind_pure fun _ _ same => same)
    · rw [Extra.relaxed_eq_self unreadable]
      by_cases bound : e.bound = true
      · rw [List.filter_cons_of_pos bound, List.filter_cons_of_pos bound]
        have bindings : Mirrors Eq (bindExtra false screen e) (bindExtra true screen.relaxed e) :=
          bindExtra_relaxed bound unreadable ▸ .refl _
        refine bindings.bind fun o o' ho => ih.bind fun os os' hos => ?_
        rw [ho]
        refine mirrors_pure ?_
        cases o' with
        | none => exact hos
        | some statement => exact congrArg (statement :: ·) hos
      · rw [List.filter_cons_of_neg bound, List.filter_cons_of_neg bound]
        exact ih

theorem mirrors_binder (screen : Screen) :
    Mirrors Eq (binder false screen) (binder true screen.relaxed) := by
  refine (Mirrors.refl (refer intentType)).bind fun intent _ hintent => ?_
  refine (mirrors_assignments screen screen.extras).bind fun os os' hos => ?_
  refine (Mirrors.refl (refer screen.className)).bind fun activity _ hactivity => ?_
  rw [hintent, hactivity, hos]
  exact .refl _

theorem mirrors_screenMethods (screen : Screen) :
    Mirrors Eq (screenMethods false screen) (screenMethods true screen.relaxed) := by
  rw [screenMethods, screenMethods, launcher_relaxed]
  refine (Mirrors.refl (launcher screen)).bind fun launcher _ hlauncher => ?_
  refine (mirrors_binder screen).bind fun binder _ hbinder => ?_
  rw [hlauncher, hbinder]
  exact .refl _

/-! ## The class -/

theorem mirrors_allMethods (screens : List Screen) :
    Mirrors Eq (allMethods false screens) (allMethods true (screens.map Screen.relaxed)) := by
  refine (Mirrors.forEach mirrors_screenMethods screens).bind fun methods _ hmethods => ?_
  rw [hmethods]
  exact .refl _

theorem IsBinder.not_isUnreadable {s : Scope} {m : Method} (h : IsBinder s true screen m) :
    ∀ e ∈ screen.extras, ¬ e.IsUnreadable := by
  rintro e he ⟨bound, -, planless⟩
  obtain ⟨-, -, assignments, -, -, hassignments, -⟩ := h
  obtain ⟨plan, hplan⟩ := exists_plan_of_strict hassignments e (List.mem_filter.2 ⟨he, bound⟩)
  exact nomatch planless.symm.trans hplan

theorem relaxed_eq_self (h : ∀ e ∈ screen.extras, ¬ e.IsUnreadable) : screen.relaxed = screen := by
  have extras : screen.extras.map Extra.relaxed = screen.extras :=
    (List.map_congr_left fun e he => Extra.relaxed_eq_self (h e he)).trans (List.map_id _)
  rw [Screen.relaxed, extras]

/-- Screens that are built strictly have no unreadable extras. -/
theorem map_relaxed_of_build {package : String} {screens : List Screen} {n : Navigator}
    (h : (build package true screens).result = .ok n) : screens.map Screen.relaxed = screens := by
  obtain ⟨pairs, hpairs, -⟩ := build_eq_ok h
  refine (List.map_congr_left fun screen hscreen => ?_).trans (List.map_id screens)
  obtain ⟨pair, -, -, hbinder⟩ := exists_related_of_mem hpairs hscreen
  exact relaxed_eq_self hbinder.not_isUnreadable

/-- **Generation that is not strict is strict generation with the unreadable extras not bound.** -/
theorem build_relaxed (package : String) (screens : List Screen) :
    (build package false screens).result =
        (build package true (screens.map Screen.relaxed)).result ∧
      unwarned (build package false screens).log =
        unwarned (build package true (screens.map Screen.relaxed)).log ∧
      ∀ n, (build package true screens).result = .ok n →
        (build package false screens).result = .ok n := by
  obtain ⟨scope, log, outcome⟩ := mirrors_allMethods screens (Scope.start package [className])
  have same : (build package false screens).result =
      (build package true (screens.map Screen.relaxed)).result := by
    unfold build
    simp only [scope]
    generalize (allMethods false screens (Scope.start package [className])).result = first at outcome
    generalize (allMethods true (screens.map Screen.relaxed)
      (Scope.start package [className])).result = second at outcome
    cases outcome with
    | error e => rfl
    | ok hab => rw [hab]
  refine ⟨same, log, fun n h => ?_⟩
  rw [same, map_relaxed_of_build h, h]

/-- A screen with an unreadable extra before one that is cast, and a screen that can be built strictly
with a type of the same simple name. -/
theorem build_relaxed_boxes :
    let box : Extra := ⟨"box", .unsupported "x.Box<y.Bag>", true, true⟩
    let bag : Extra := ⟨"bag", .stringLike "y.Bag" Platform.bundle true, true, true⟩
    let shop : Screen := ⟨"b.Shop", [⟨"box", .serializable "y.Box", true, true⟩]⟩
    (build "app" true [⟨"a.Home", [box, bag]⟩, shop]).result =
        .error (.notReadable "Home" "box" "x.Box<y.Bag>") ∧
      (build "app" false [⟨"a.Home", [box, bag]⟩, shop]).result =
        (build "app" true [⟨"a.Home", [{ box with bound := false }, bag]⟩, shop]).result ∧
      ∃ n, (build "app" true [shop]).result = .ok n ∧ (build "app" false [shop]).result = .ok n := by
  intro box bag shop
  have refused : (build "app" true [⟨"a.Home", [box, bag]⟩, shop]).result =
      .error (.notReadable "Home" "box" "x.Box<y.Bag>") := by decide +kernel
  have relaxed : [⟨"a.Home", [box, bag]⟩, shop].map Screen.relaxed =
      [⟨"a.Home", [{ box with bound := false }, bag]⟩, shop] := by decide +kernel
  refine ⟨refused, relaxed ▸ (build_relaxed "app" _).1, ?_⟩
  have built : (build "app" true [shop]).result.toOption.isSome = true := by decide +kernel
  cases h : (build "app" true [shop]).result with
  | error e => simp [h, Except.toOption] at built
  | ok n => exact ⟨n, rfl, (build_relaxed "app" [shop]).2.2 n h⟩

end Navigator

end ScreenNav
