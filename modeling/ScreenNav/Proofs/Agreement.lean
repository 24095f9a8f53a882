import ScreenNav.Proofs.Methods

/-!
# Launchers and binders agree

**Theorem (`launcher_agrees_with_binder`).** If a navigator is built, its methods are a launcher and
a binder for each screen, in the order of the screens, and the two agree: the launcher takes the
extras in order and puts each into the intent under its own name, and the binder assigns the bound
extras that can be read back, in order, each from the key under which the launcher put it. Where it
casts, it casts to the very text that is the type of the launcher's parameter.

Launchers and binders are made by separate steps over one scope, and other types are referred to in
between. The texts agree all the same, because both are the text of the extra's type in the scope
behind all references, and a type has one text there.
-/

namespace ScreenNav.Navigator

variable {s : Scope} {strict : Bool} {screen : Screen}

/-- The line that puts a parameter into the intent under its own name. -/
def putLine (name : String) : String := "intent.putExtra(\"" ++ name ++ "\", " ++ name ++ ")"

/-- The line that assigns a field of the given type from the extra of the same name. -/
def assignLine (plan : AccessorPlan) (name type : String) : String :=
  "activity." ++ name ++ " = " ++ (if plan.needsCast then "(" ++ type ++ ") " else "")
    ++ "intent." ++ plan.method ++ "(\"" ++ name ++ "\"" ++ plan.fallback.elim "" (", " ++ ·) ++ ")"

/-- What a binder has to say about an extra that is the given parameter of the launcher. -/
def assignLine? (e : Extra) (p : Parameter) : Option String :=
  if e.bound then e.type.plan?.map fun plan => assignLine plan e.name p.type else none

/-- A launcher and a binder agree on the extras of their screen, in a file where names are written
in the given way; `intent` and `activity` are the texts of the intent's class and the screen's. -/
structure Agree (written : String → String) (strict : Bool) (screen : Screen)
    (intent activity : String) (launcher binder : Method) : Prop where
  launcher_name : launcher.name = screen.launcherName
  binder_name : binder.name = "bind"
  binder_parameters : binder.parameters = [⟨activity, "activity"⟩]
  /-- The launcher takes the context and then the extras, in order. -/
  parameters : launcher.parameters.map (·.name) = "context" :: screen.extras.map (·.name)
  types : List.Forall₂ (fun e p => (TypeName.ofText e.type.name).render written = .ok p.type)
    screen.extras launcher.parameters.tail
  /-- It puts every extra into the intent once, in order, under its own name. -/
  puts : launcher.statements.map Statement.text =
    (intent ++ " intent = new " ++ intent ++ "(context, " ++ activity ++ ".class)") ::
      screen.extras.map (fun e => putLine e.name) ++ ["context.startActivity(intent)"]
  /-- The binder assigns the bound extras with a plan, in order, from the keys of the launcher and
  with the types of its parameters. -/
  assigns : binder.statements.map Statement.text =
    (intent ++ " intent = activity.getIntent()") ::
      (screen.extras.zip launcher.parameters.tail).filterMap fun ep => assignLine? ep.1 ep.2
  /-- All bound extras have a plan, if generation is strict. -/
  complete : strict = true → ∀ e ∈ screen.extras, e.bound = true → ∃ plan, e.type.plan? = some plan

/-! ## The parts of a pair -/

theorem text_assign (plan : AccessorPlan) (name type : String) :
    (Statement.assign name (if plan.needsCast then some type else none) plan.method
      plan.fallback).text = assignLine plan name type := by
  unfold assignLine
  cases plan.needsCast <;> rfl

theorem assignLine?_of_not_bound {e : Extra} (h : ¬ e.bound = true) (p : Parameter) :
    assignLine? e p = none := if_neg h

/-- What becomes of a bound extra has the line that goes with the launcher's parameter. -/
theorem IsBound.assignLine? {e : Extra} {p : Parameter} {o : Option Statement}
    (h : IsBound s strict e o) (hbound : e.bound = true) (hp : IsParameter s e p) :
    assignLine? e p = o.map Statement.text := by
  rw [Navigator.assignLine?, if_pos hbound]
  cases h with
  | leftOut _ hplan => rw [hplan]; rfl
  | @plain plan hplan hcast =>
    have line := text_assign plan e.name p.type
    rw [hcast] at line
    rw [hplan, Option.map_some, ← line]
    rfl
  | @cast plan text hplan hcast hw =>
    have line := text_assign plan e.name p.type
    rw [hcast, ← hw.unique hp.2] at line
    rw [hplan, Option.map_some, ← hw.unique hp.2, ← line]
    rfl

theorem text_assignments {extras : List Extra} {parameters : List Parameter}
    {assignments : List (Option Statement)}
    (hp : List.Forall₂ (IsParameter s) extras parameters)
    (ha : List.Forall₂ (IsBound s strict) (extras.filter (·.bound)) assignments) :
    (assignments.filterMap id).map Statement.text =
      (extras.zip parameters).filterMap fun ep => assignLine? ep.1 ep.2 := by
  induction hp generalizing assignments with
  | nil => cases ha; rfl
  | @cons e p extras parameters head _ ih =>
    by_cases hbound : e.bound = true
    · rw [List.filter_cons_of_pos hbound] at ha
      cases ha with
      | @cons _ o _ rest ho hrest =>
        rw [List.zip_cons_cons, List.filterMap_cons, List.filterMap_cons,
          ho.assignLine? hbound head, ← ih hrest]
        cases o <;> rfl
    · rw [List.filter_cons_of_neg hbound] at ha
      rw [List.zip_cons_cons, List.filterMap_cons, assignLine?_of_not_bound hbound, ih ha]

theorem exists_plan_of_strict {extras : List Extra} {assignments : List (Option Statement)}
    (h : List.Forall₂ (IsBound s true) extras assignments) :
    ∀ e ∈ extras, ∃ plan, e.type.plan? = some plan := by
  induction h with
  | nil => simp
  | cons head _ ih =>
    intro e he
    rcases List.mem_cons.1 he with rfl | he
    · cases head with
      | leftOut relaxed => simp at relaxed
      | plain hplan => exact ⟨_, hplan⟩
      | cast hplan => exact ⟨_, hplan⟩
    · exact ih e he

theorem names_parameters {extras : List Extra} {parameters : List Parameter}
    (h : List.Forall₂ (IsParameter s) extras parameters) :
    parameters.map (·.name) = extras.map (·.name) :=
  Generation.map_eq_map_of_forall₂ h fun _ _ _ parameter => parameter.1

theorem IsPair.agree {pair : Method × Method} (h : IsPair s strict screen pair) :
    ∃ intent activity, Agree s.display strict screen intent activity pair.1 pair.2 := by
  obtain ⟨launcher, binder⟩ := pair
  obtain ⟨⟨intent, context, activity, parameters, hintent, -, hactivity, hparameters, rfl⟩,
    intent', activity', assignments, hintent', hactivity', hassignments, rfl⟩ := h
  obtain rfl := hintent.unique hintent'
  obtain rfl := hactivity.unique hactivity'
  refine ⟨intent, activity, {
    launcher_name := rfl
    binder_name := rfl
    binder_parameters := rfl
    parameters := congrArg ("context" :: ·) (names_parameters hparameters)
    types := hparameters.imp fun _ _ hp => hp.2
    puts := ?_
    assigns := congrArg (_ :: ·) (text_assignments hparameters hassignments)
    complete := ?_ }⟩
  · rw [List.cons_append, List.map_cons, List.map_append, List.map_map]
    rfl
  · rintro rfl e he hbound
    exact exists_plan_of_strict hassignments e (List.mem_filter.2 ⟨he, hbound⟩)

/-- **Launchers and binders agree.** The methods of a navigator are pairs of a launcher and a binder,
one for each screen and in the order of the screens, that agree on its extras. -/
theorem launcher_agrees_with_binder {package : String} {strict : Bool} {screens : List Screen}
    {n : Navigator} (h : (build package strict screens).result = .ok n) :
    ∃ (written : String → String) (pairs : List (Method × Method)),
      n.methods = pairs.flatMap (fun pair => [pair.1, pair.2]) ∧
        List.Forall₂ (fun screen pair =>
          ∃ intent activity, Agree written strict screen intent activity pair.1 pair.2)
          screens pairs := by
  obtain ⟨pairs, hpairs, rfl⟩ := build_eq_ok h
  exact ⟨_, pairs, rfl, hpairs.imp fun _ _ hpair => hpair.agree⟩

/-- A cast to a type that shares its simple name with its own argument and with a type of another
screen, next to an extra that is not bound. -/
theorem launcher_agrees_with_binder_casts :
    let home : Screen := ⟨"a.Home", [⟨"box", .serializable "x.Box<y.Box>", true, true⟩,
      ⟨"id", .unsupported "x.Id", false, false⟩, ⟨"next", .transferable "b.Home", true, true⟩]⟩
    let shop : Screen := ⟨"b.Shop", [⟨"box", .serializable "y.Box[]", true, true⟩]⟩
    ∃ n, (build "app" true [home, shop]).result = .ok n ∧
      ∃ (written : String → String) (pairs : List (Method × Method)),
        n.methods = pairs.flatMap (fun pair => [pair.1, pair.2]) ∧
          List.Forall₂ (fun screen pair =>
            ∃ intent activity, Agree written true screen intent activity pair.1 pair.2)
            [home, shop] pairs := by
  intro home shop
  have built : (build "app" true [home, shop]).result.toOption.isSome = true := by decide +kernel
  cases h : (build "app" true [home, shop]).result with
  | error e => simp [h, Except.toOption] at built
  | ok n => exact ⟨n, rfl, launcher_agrees_with_binder h⟩

end ScreenNav.Navigator
