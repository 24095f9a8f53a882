import ScreenNav.Navigator
import ScreenNav.Proofs.Generation

/-!
# Launchers and binders in the scope of the whole file

A navigator that has been built is described from its end: by the one scope behind all of its
references, in which every type in every method is written. `IsLauncher` and `IsBinder` say what the
methods of a screen are in a scope, and the rules of `Generation.Refers` carry this from the step
that makes a method to the end of the file.

Main statement: `build_eq_ok`, what a successful build leaves behind.
-/

namespace ScreenNav

/-- The type is written as the given text. -/
def Scope.Writes (s : Scope) (type text : String) : Prop :=
  s.displayType (TypeName.ofText type) = .ok text

theorem Scope.Writes.unique {s : Scope} {type a b : String} (ha : s.Writes type a)
    (hb : s.Writes type b) : a = b :=
  Except.ok.inj (ha.symm.trans hb)

theorem Scope.Writes.iff {s : Scope} {type written text : String} (h : s.Writes type written) :
    s.Writes type text ↔ text = written :=
  ⟨fun hw => hw.unique h, fun same => same ▸ h⟩

namespace Navigator

open Generation

variable {strict : Bool} {screen : Screen} {e : Extra}

/-! ## Launchers -/

/-- The types that a launcher refers to, in order. -/
def launcherReferences (screen : Screen) : List String :=
  intentType :: contextType :: screen.extras.map (·.type.name) ++ [screen.className]

/-- The parameter stands for the extra. -/
def IsParameter (s : Scope) (e : Extra) (p : Parameter) : Prop :=
  p.name = e.name ∧ s.Writes e.type.name p.type

/-- The method is the launcher of the screen. -/
def IsLauncher (s : Scope) (screen : Screen) (m : Method) : Prop :=
  ∃ intent context activity parameters,
    s.Writes intentType intent ∧ s.Writes contextType context ∧
    s.Writes screen.className activity ∧
    List.Forall₂ (IsParameter s) screen.extras parameters ∧
    m = ⟨screen.launcherName, ⟨context, "context"⟩ :: parameters,
      .newIntent intent activity :: screen.extras.map (fun e => .putExtra e.name)
        ++ [.startActivity]⟩

theorem refers_extraParameter (e : Extra) :
    Refers (extraParameter e) [e.type.name] fun s p => IsParameter s e p := by
  refine ((refers_refer e.type.name).bind fun type => refers_pure _).imp ?_
  rintro s p ⟨type, hw, rfl⟩
  exact ⟨rfl, hw⟩

theorem refers_launcher (screen : Screen) :
    Refers (launcher screen) (launcherReferences screen) fun s m => IsLauncher s screen m := by
  have steps := (refers_refer intentType).bind fun intent =>
    (refers_refer contextType).bind fun context =>
      (Refers.forEach screen.extras refers_extraParameter).bind fun parameters =>
        (refers_refer screen.className).bind fun activity =>
          refers_pure (Method.mk screen.launcherName (⟨context, "context"⟩ :: parameters)
            (.newIntent intent activity :: screen.extras.map (fun e => .putExtra e.name)
              ++ [.startActivity]))
  have texts : [intentType] ++ ([contextType] ++
      (screen.extras.flatMap (fun e => [e.type.name]) ++ ([screen.className] ++ []))) =
      launcherReferences screen := by
    simp [launcherReferences, List.map_eq_flatMap]
  rw [texts] at steps
  refine steps.imp ?_
  rintro s m ⟨intent, hintent, context, hcontext, parameters, hparameters, activity, hactivity, rfl⟩
  exact ⟨intent, context, activity, parameters, hintent, hcontext, hactivity, hparameters, rfl⟩

/-! ## Binders -/

/-- The type that a cast refers to, if there is a cast. -/
def castReferences (plan : AccessorPlan) (type : Descriptor) : List String :=
  if plan.needsCast then [type.name] else []

/-- The types that the assignment to a bound extra refers to. -/
def assignmentReferences (e : Extra) : List String :=
  e.type.plan?.elim [] fun plan => castReferences plan e.type

/-- The types that a binder refers to, in order. -/
def binderReferences (screen : Screen) : List String :=
  intentType :: (screen.extras.filter (·.bound)).flatMap assignmentReferences ++ [screen.className]

/-- What becomes of a bound extra. -/
inductive IsBound (s : Scope) (strict : Bool) (e : Extra) : Option Statement → Prop
  /-- It is left out. -/
  | leftOut : strict = false → e.type.plan? = none → IsBound s strict e none
  | plain {plan : AccessorPlan} : e.type.plan? = some plan → plan.needsCast = false →
      IsBound s strict e (some (.assign e.name none plan.method plan.fallback))
  | cast {plan : AccessorPlan} {text : String} : e.type.plan? = some plan →
      plan.needsCast = true → s.Writes e.type.name text →
      IsBound s strict e (some (.assign e.name (some text) plan.method plan.fallback))

/-- The method is the binder of the screen. -/
def IsBinder (s : Scope) (strict : Bool) (screen : Screen) (m : Method) : Prop :=
  ∃ intent activity assignments,
    s.Writes intentType intent ∧ s.Writes screen.className activity ∧
    List.Forall₂ (IsBound s strict) (screen.extras.filter (·.bound)) assignments ∧
    m = ⟨"bind", [⟨activity, "activity"⟩], .getIntent intent :: assignments.filterMap id⟩

theorem refers_castFor (plan : AccessorPlan) (type : Descriptor) :
    Refers (castFor plan type) (castReferences plan type) fun s cast =>
      plan.needsCast = false ∧ cast = none ∨
        plan.needsCast = true ∧ ∃ text, s.Writes type.name text ∧ cast = some text := by
  unfold castFor castReferences
  cases plan.needsCast with
  | false => exact (refers_pure none).imp fun s cast h => .inl ⟨rfl, h⟩
  | true =>
    refine ((refers_refer type.name).bind fun text => refers_pure (some text)).imp ?_
    rintro s cast ⟨text, hw, rfl⟩
    exact .inr ⟨rfl, text, hw, rfl⟩

theorem refers_bindExtra (strict : Bool) (screen : Screen) (e : Extra) :
    Refers (bindExtra strict screen e) (assignmentReferences e)
      fun s o => IsBound s strict e o := by
  have checked : Refers (ofExcept (checkWritable screen.simpleName e)) [] fun _ _ => True :=
    (refers_ofExcept _).imp fun _ _ _ => trivial
  unfold bindExtra assignmentReferences
  cases hplan : e.type.plan? with
  | none =>
    cases strict with
    | true => exact (checked.bind fun _ => refers_fail _ _).imp fun s o ⟨_, _, h⟩ => h
    | false =>
      refine (checked.bind fun _ => (refers_report _).bind fun _ => refers_pure none).imp ?_
      rintro s o ⟨-, -, -, -, rfl⟩
      exact .leftOut rfl hplan
  | some plan =>
    have steps := checked.bind fun _ => (refers_castFor plan e.type).bind fun cast =>
      refers_pure (some (Statement.assign e.name cast plan.method plan.fallback))
    rw [List.nil_append, List.append_nil] at steps
    refine steps.imp ?_
    rintro s o ⟨-, -, cast, ⟨hcast, rfl⟩ | ⟨hcast, text, hw, rfl⟩, rfl⟩
    · exact .plain hplan hcast
    · exact .cast hplan hcast hw

theorem refers_binder (strict : Bool) (screen : Screen) :
    Refers (binder strict screen) (binderReferences screen)
      fun s m => IsBinder s strict screen m := by
  have steps := (refers_refer intentType).bind fun intent =>
    (Refers.forEach (screen.extras.filter (·.bound)) (refers_bindExtra strict screen)).bind
      fun assignments => (refers_refer screen.className).bind fun activity =>
        refers_pure (Method.mk "bind" [⟨activity, "activity"⟩]
          (.getIntent intent :: assignments.filterMap id))
  rw [List.append_nil] at steps
  refine steps.imp ?_
  rintro s m ⟨intent, hintent, assignments, hassignments, activity, hactivity, rfl⟩
  exact ⟨intent, activity, assignments, hintent, hactivity, hassignments, rfl⟩

/-! ## The file -/

/-- The types that the methods of a screen refer to, in order. -/
def screenReferences (screen : Screen) : List String :=
  launcherReferences screen ++ binderReferences screen

/-- The types that the navigator of several screens refers to, in order. -/
def references (screens : List Screen) : List String := screens.flatMap screenReferences

/-- The scope behind all references of a navigator. -/
def finalScope (package : String) (screens : List Screen) : Scope :=
  (Scope.start package [className]).claimNames (namesIn (references screens))

/-- The two methods are the launcher and the binder of the screen. -/
def IsPair (s : Scope) (strict : Bool) (screen : Screen) (pair : Method × Method) : Prop :=
  IsLauncher s screen pair.1 ∧ IsBinder s strict screen pair.2

theorem refers_screenMethods (strict : Bool) (screen : Screen) :
    Refers (screenMethods strict screen) (screenReferences screen) fun s ms =>
      ∃ pair, IsPair s strict screen pair ∧ ms = [pair.1, pair.2] := by
  have steps := (refers_launcher screen).bind fun launcher =>
    (refers_binder strict screen).bind fun binder =>
      (refers_report (.generated screen.simpleName screen.className)).bind fun _ =>
        refers_pure [launcher, binder]
  simp only [List.append_nil] at steps
  refine steps.imp ?_
  rintro s ms ⟨launcher, hlauncher, binder, hbinder, -, -, rfl⟩
  exact ⟨(launcher, binder), ⟨hlauncher, hbinder⟩, rfl⟩

theorem exists_pairs {s : Scope} {screens : List Screen} {methods : List (List Method)}
    (h : List.Forall₂ (fun screen ms => ∃ pair, IsPair s strict screen pair ∧ ms = [pair.1, pair.2])
      screens methods) :
    ∃ pairs, List.Forall₂ (IsPair s strict) screens pairs ∧
      methods.flatten = pairs.flatMap fun pair => [pair.1, pair.2] := by
  induction h with
  | nil => exact ⟨[], .nil, rfl⟩
  | cons head _ ih =>
    obtain ⟨pair, hpair, rfl⟩ := head
    obtain ⟨pairs, hpairs, hflat⟩ := ih
    exact ⟨pair :: pairs, .cons hpair hpairs, by simp [hflat]⟩

theorem refers_allMethods (strict : Bool) (screens : List Screen) :
    Refers (allMethods strict screens) (references screens) fun s ms =>
      ∃ pairs, List.Forall₂ (IsPair s strict) screens pairs ∧
        ms = pairs.flatMap fun pair => [pair.1, pair.2] := by
  have steps := (Refers.forEach screens (refers_screenMethods strict)).bind fun methods =>
    refers_pure methods.flatten
  rw [List.append_nil] at steps
  refine steps.imp ?_
  rintro s ms ⟨methods, hmethods, rfl⟩
  exact exists_pairs hmethods

/-- A build that succeeds leaves a launcher and a binder for each screen, in order, with all types
written in the scope behind all references, and the imports of that scope. -/
theorem build_eq_ok {package : String} {screens : List Screen} {n : Navigator}
    (h : (build package strict screens).result = .ok n) :
    ∃ pairs, List.Forall₂ (IsPair (finalScope package screens) strict) screens pairs ∧
      n = ⟨package, className, (finalScope package screens).imports,
        pairs.flatMap fun pair => [pair.1, pair.2]⟩ := by
  cases hm : (allMethods strict screens (Scope.start package [className])).result with
  | error e => simp [build, hm, Except.map] at h
  | ok methods =>
    obtain ⟨-, scope, means⟩ := refers_allMethods strict screens hm
    obtain ⟨pairs, hpairs, rfl⟩ := means []
    rw [Scope.claimNames_nil, scope] at hpairs
    refine ⟨pairs, hpairs, ?_⟩
    simp only [build, hm, Except.map, scope, Except.ok.injEq] at h
    exact h.symm

/-! ## Launchers and binders of a navigator -/

/-- Every second one of several things, from the first on. -/
def alternate {α : Type} : List α → List α
  | [] => []
  | [a] => [a]
  | a :: _ :: rest => a :: alternate rest

/-- The launchers of a navigator, which stand first in the pairs of methods. -/
def launchers (n : Navigator) : List Method := alternate n.methods

/-- The binders of a navigator, which stand second in the pairs of methods. -/
def binders (n : Navigator) : List Method := alternate n.methods.tail

theorem alternate_cons {α : Type} (a : α) (rest : List α) :
    alternate (a :: rest) = a :: alternate rest.tail := by
  cases rest <;> rfl

theorem alternate_pairs {α : Type} (pairs : List (α × α)) :
    alternate (pairs.flatMap fun pair => [pair.1, pair.2]) = pairs.map (·.1) ∧
      alternate (pairs.flatMap fun pair => [pair.1, pair.2]).tail = pairs.map (·.2) := by
  induction pairs with
  | nil => exact ⟨rfl, rfl⟩
  | cons pair pairs ih =>
    obtain ⟨first, second⟩ := ih
    constructor
    · exact congrArg (pair.1 :: ·) first
    · exact (alternate_cons ..).trans (congrArg (pair.2 :: ·) second)

/-- The launchers and binders that a successful build leaves behind, with its imports. -/
theorem methods_of_build {package : String} {screens : List Screen} {n : Navigator}
    (h : (build package strict screens).result = .ok n) :
    List.Forall₂ (IsLauncher (finalScope package screens)) screens n.launchers ∧
      List.Forall₂ (IsBinder (finalScope package screens) strict) screens n.binders ∧
      n.imports = (finalScope package screens).imports := by
  obtain ⟨pairs, hpairs, rfl⟩ := build_eq_ok h
  obtain ⟨first, second⟩ := alternate_pairs pairs
  rw [launchers, binders, first, second, List.forall₂_map_right_iff, List.forall₂_map_right_iff]
  exact ⟨hpairs.imp fun _ _ pair => pair.1, hpairs.imp fun _ _ pair => pair.2, rfl⟩

end Navigator

end ScreenNav
