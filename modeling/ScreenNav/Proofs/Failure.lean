import Mathlib.Data.List.TakeWhile
import ScreenNav.Navigator
import ScreenNav.Proofs.References

/-!
# When generation fails

**Theorem (`build_fails_at_first`).** Generation fails if and only if some extra stops it: a bound extra
that other classes cannot assign or, if generation is strict, one that cannot be read back. The error
is that of the first such extra, screen by screen and in the order of the extras. The warnings are
those of the extras before it that are left out, one each and in order, and a strict generation has
none.

What a step puts into the log and how it fails does not depend on the scope that it starts in, as long
as the names of types are well formed. So a step `Leaves` a trail, which is a log and perhaps an error,
and trails are put together as steps are. The trail of a whole file is then one of its extras, once
the records of finished screens are set aside.
-/

namespace ScreenNav

/-! ## Trails -/

/-- A log, and the error that ended it if there is one. -/
structure Trail where
  log : List LogRecord
  error : Option GenerationError
deriving DecidableEq, Repr

namespace Trail

variable {α β : Type}

/-- Nothing is reported, and nothing fails. -/
def silent : Trail := ⟨[], none⟩

/-- One trail and, unless it ends with an error, another behind it. -/
def andThen (first second : Trail) : Trail :=
  match first.error with
  | some _ => first
  | none => ⟨first.log ++ second.log, second.error⟩

/-- The trails of several things, one behind the other. -/
def all (trail : α → Trail) : List α → Trail
  | [] => silent
  | a :: rest => (trail a).andThen (all trail rest)

/-- The warnings of a trail. -/
def warnings (t : Trail) : Trail := { t with log := t.log.filter fun r => r.level = .warning }

@[simp] theorem silent_andThen (t : Trail) : silent.andThen t = t := rfl

@[simp] theorem andThen_silent (t : Trail) : t.andThen silent = t := by
  obtain ⟨log, _ | error⟩ := t <;> simp [andThen, silent]

theorem andThen_assoc (a b c : Trail) : (a.andThen b).andThen c = a.andThen (b.andThen c) := by
  obtain ⟨log, _ | error⟩ := a
  · obtain ⟨log', _ | error'⟩ := b <;> simp [andThen]
  · rfl

theorem warnings_andThen (a b : Trail) :
    (a.andThen b).warnings = a.warnings.andThen b.warnings := by
  obtain ⟨log, _ | error⟩ := a <;> simp [andThen, warnings]

theorem all_append (trail : α → Trail) (first second : List α) :
    all trail (first ++ second) = (all trail first).andThen (all trail second) := by
  induction first with
  | nil => rfl
  | cons a first ih => rw [List.cons_append, all, all, ih, andThen_assoc]

theorem all_flatMap (trail : β → Trail) (f : α → List β) (items : List α) :
    all trail (items.flatMap f) = all (fun a => all trail (f a)) items := by
  induction items with
  | nil => rfl
  | cons a items ih => rw [List.flatMap_cons, all_append, ih, all]

theorem all_map (trail : β → Trail) (f : α → β) (items : List α) :
    all trail (items.map f) = all (fun a => trail (f a)) items := by
  induction items with
  | nil => rfl
  | cons a items ih => rw [List.map_cons, all, ih, all]

theorem all_silent (items : List α) : all (fun _ => silent) items = silent := by
  induction items with
  | nil => rfl
  | cons a items ih => rw [all, ih, silent_andThen]

theorem all_filter {trail : α → Trail} {p : α → Bool} {items : List α}
    (h : ∀ a ∈ items, p a = false → trail a = silent) :
    all trail (items.filter p) = all trail items := by
  induction items with
  | nil => rfl
  | cons a items ih =>
    obtain ⟨head, tail⟩ := List.forall_mem_cons.1 h
    cases hp : p a with
    | true => rw [List.filter_cons_of_pos hp, all, all, ih tail]
    | false => rw [List.filter_cons_of_neg (by simp [hp]), all, head hp, silent_andThen, ih tail]

theorem warnings_all (trail : α → Trail) (items : List α) :
    (all trail items).warnings = all (fun a => (trail a).warnings) items := by
  induction items with
  | nil => rfl
  | cons a items ih => rw [all, all, warnings_andThen, ih]

/-- The error of several trails is the first that there is. -/
theorem error_all (trail : α → Trail) (items : List α) :
    (all trail items).error = items.findSome? fun a => (trail a).error := by
  induction items with
  | nil => rfl
  | cons a items ih =>
    rw [all, andThen, List.findSome?_cons]
    cases h : (trail a).error with
    | none => exact ih
    | some e => exact h

/-- The log of several trails is that of the trails before the first error, if a trail that fails
reports nothing. -/
theorem log_all {trail : α → Trail} (h : ∀ a, (trail a).error ≠ none → (trail a).log = [])
    (items : List α) :
    (all trail items).log =
      (items.takeWhile fun a => (trail a).error.isNone).flatMap fun a => (trail a).log := by
  induction items with
  | nil => rfl
  | cons a items ih =>
    rw [all, andThen, List.takeWhile_cons]
    cases ha : (trail a).error with
    | none => simp [ih]
    | some e => simp [h a (by simp [ha])]

end Trail

namespace Generation

variable {α β : Type} {first second : Trail}

/-! ## Steps and their trails -/

/-- The error of a result that is one. -/
def failure? {ε : Type} : Except ε α → Option ε
  | .error e => some e
  | .ok _ => none

@[simp] theorem failure?_ok {ε : Type} (a : α) : failure? (.ok a : Except ε α) = none := rfl

@[simp] theorem failure?_error {ε : Type} (e : ε) : failure? (.error e : Except ε α) = some e := rfl

theorem failure?_eq_some_iff {ε : Type} {result : Except ε α} {e : ε} :
    failure? result = some e ↔ result = .error e := by
  cases result <;> simp [failure?]

/-- Wherever the step starts, it leaves this trail. -/
def Leaves (x : Generation α) (t : Trail) : Prop :=
  ∀ s, (x s).log = t.log ∧ failure? (x s).result = t.error

theorem leaves_pure (a : α) : Leaves (pure a) .silent := fun _ => ⟨rfl, rfl⟩

theorem leaves_fail (e : GenerationError) : Leaves (fail e : Generation α) ⟨[], some e⟩ :=
  fun _ => ⟨rfl, rfl⟩

theorem leaves_report (record : LogRecord) : Leaves (report record) ⟨[record], none⟩ :=
  fun _ => ⟨rfl, rfl⟩

theorem leaves_refer {text : String} (h : (TypeName.ofText text).IsWellFormed) :
    Leaves (refer text) .silent := by
  intro s
  obtain ⟨written, hw⟩ := exists_result_refer h s
  exact ⟨rfl, by rw [hw]; rfl⟩

theorem Leaves.bind {x : Generation α} {next : α → Generation β} (hx : Leaves x first)
    (hnext : ∀ a, Leaves (next a) second) : Leaves (x >>= next) (first.andThen second) := by
  intro s
  obtain ⟨log, error⟩ := hx s
  show (andThen x next s).log = _ ∧ failure? (andThen x next s).result = _
  unfold andThen Trail.andThen
  cases h : (x s).result with
  | error e =>
    rw [h] at error
    simp only [h, ← error, log, failure?_error, and_self]
  | ok a =>
    rw [h] at error
    obtain ⟨log', error'⟩ := hnext a (x s).scope
    simp only [h, ← error, log, log', error', failure?_ok, and_self]

theorem Leaves.forEach {step : α → Generation β} {trail : α → Trail} {items : List α}
    (h : ∀ a ∈ items, Leaves (step a) (trail a)) :
    Leaves (forEach step items) (.all trail items) := by
  induction items with
  | nil => exact leaves_pure []
  | cons a items ih =>
    obtain ⟨head, tail⟩ := List.forall_mem_cons.1 h
    have steps := head.bind fun b => (ih tail).bind fun bs => leaves_pure (b :: bs)
    rwa [Trail.andThen_silent] at steps

end Generation

/-! ## Extras that stop generation -/

/-- The extra stops generation: it is bound, but other classes cannot assign it, or generation is
strict and it cannot be read back. -/
def Extra.Stops (strict : Bool) (e : Extra) : Prop :=
  e.bound = true ∧ (e.writable = false ∨ strict = true ∧ e.type.plan? = none)

/-- The extra would be assigned, but cannot be read back. -/
def Extra.IsUnreadable (e : Extra) : Prop :=
  e.bound = true ∧ e.writable = true ∧ e.type.plan? = none

instance (strict : Bool) (e : Extra) : Decidable (e.Stops strict) :=
  inferInstanceAs (Decidable (_ ∧ _))

instance (e : Extra) : Decidable e.IsUnreadable := inferInstanceAs (Decidable (_ ∧ _))

namespace Screen

/-- The error for an extra that stops generation. That it cannot be assigned comes first. -/
def stop (screen : Screen) (e : Extra) : GenerationError :=
  if e.writable = false then .notWritable screen.simpleName e.name
  else .notReadable screen.simpleName e.name e.type.name

/-- The warning for an extra that is left out. -/
def omission (screen : Screen) (e : Extra) : LogRecord :=
  .notBinding screen.className e.name e.type.name

/-- The names of the class and of the types of its extras are well formed. -/
def IsWellNamed (screen : Screen) : Prop :=
  (TypeName.ofText screen.className).IsWellFormed ∧
    ∀ e ∈ screen.extras, (TypeName.ofText e.type.name).IsWellFormed

instance (screen : Screen) : Decidable screen.IsWellNamed := inferInstanceAs (Decidable (_ ∧ _))

/-- The extras of several screens, screen by screen, each with its screen. -/
def allExtras (screens : List Screen) : List (Screen × Extra) :=
  screens.flatMap fun screen => screen.extras.map fun e => (screen, e)

end Screen

namespace Navigator

open Generation

variable {strict : Bool} {screen : Screen} {e : Extra}

/-- The trail of one extra. -/
def extraTrail (strict : Bool) (screen : Screen) (e : Extra) : Trail :=
  if e.Stops strict then ⟨[], some (screen.stop e)⟩
  else if e.IsUnreadable then ⟨[screen.omission e], none⟩
  else .silent

/-- The trail of a screen: those of its extras, and the record that its methods are done. -/
def screenTrail (strict : Bool) (screen : Screen) : Trail :=
  (Trail.all (extraTrail strict screen) screen.extras).andThen
    ⟨[.generated screen.simpleName screen.className], none⟩

theorem extraTrail_of_not_bound (h : e.bound = false) : extraTrail strict screen e = .silent := by
  simp [extraTrail, Extra.Stops, Extra.IsUnreadable, h]

theorem error_extraTrail (strict : Bool) (screen : Screen) (e : Extra) :
    (extraTrail strict screen e).error =
      if e.Stops strict then some (screen.stop e) else none := by
  unfold extraTrail
  split_ifs <;> rfl

theorem log_extraTrail (strict : Bool) (screen : Screen) (e : Extra) :
    (extraTrail strict screen e).log =
      if e.Stops strict then [] else if e.IsUnreadable then [screen.omission e] else [] := by
  unfold extraTrail
  split_ifs <;> rfl

/-- An extra is reported by warnings only. -/
theorem warnings_extraTrail (strict : Bool) (screen : Screen) (e : Extra) :
    (extraTrail strict screen e).warnings = extraTrail strict screen e := by
  unfold extraTrail
  split_ifs <;> rfl

/-! ## Trails of methods -/

theorem leaves_launcher (wf : screen.IsWellNamed) : Leaves (launcher screen) .silent := by
  have extras := Leaves.forEach fun e he =>
    (leaves_refer (wf.2 e he)).bind fun type => leaves_pure (Parameter.mk type e.name)
  simp only [Trail.andThen_silent, Trail.all_silent] at extras
  have intent : (TypeName.ofText intentType).IsWellFormed := by decide +kernel
  have context : (TypeName.ofText contextType).IsWellFormed := by decide +kernel
  exact (leaves_refer intent).bind fun _ => (leaves_refer context).bind fun _ =>
    extras.bind fun _ => (leaves_refer wf.1).bind fun _ => leaves_pure _

theorem leaves_castFor (plan : AccessorPlan) {type : Descriptor}
    (wf : (TypeName.ofText type.name).IsWellFormed) : Leaves (castFor plan type) .silent := by
  unfold castFor
  split
  · exact (leaves_refer wf).bind fun _ => leaves_pure _
  · exact leaves_pure none

theorem leaves_bindExtra (hbound : e.bound = true) (wf : (TypeName.ofText e.type.name).IsWellFormed) :
    Leaves (bindExtra strict screen e) (extraTrail strict screen e) := by
  unfold bindExtra checkWritable
  cases hwritable : e.writable with
  | false =>
    have trail : extraTrail strict screen e = ⟨[], some (.notWritable screen.simpleName e.name)⟩ := by
      simp [extraTrail, Extra.Stops, Screen.stop, hbound, hwritable]
    rw [trail, if_pos (by simp [hbound])]
    exact fun s => ⟨rfl, rfl⟩
  | true =>
    rw [if_neg (by simp)]
    cases hplan : e.type.plan? with
    | some plan =>
      have trail : extraTrail strict screen e = .silent := by
        simp [extraTrail, Extra.Stops, Extra.IsUnreadable, hwritable, hplan]
      rw [trail]
      exact (leaves_pure ()).bind fun _ => (leaves_castFor plan wf).bind fun _ => leaves_pure _
    | none =>
      cases strict with
      | true =>
        have trail : extraTrail true screen e =
            ⟨[], some (.notReadable screen.simpleName e.name e.type.name)⟩ := by
          simp [extraTrail, Extra.Stops, Screen.stop, hbound, hwritable, hplan]
        rw [trail]
        exact (leaves_pure ()).bind fun _ => leaves_fail _
      | false =>
        have trail : extraTrail false screen e =
            ⟨[.notBinding screen.className e.name e.type.name], none⟩ := by
          simp [extraTrail, Extra.Stops, Extra.IsUnreadable, Screen.omission, hbound, hwritable, hplan]
        rw [trail]
        exact (leaves_pure ()).bind fun _ => (leaves_report _).bind fun _ => leaves_pure none

theorem leaves_binder (strict : Bool) (wf : screen.IsWellNamed) :
    Leaves (binder strict screen) (.all (extraTrail strict screen) screen.extras) := by
  have bound : ∀ e ∈ screen.extras.filter (·.bound),
      Leaves (bindExtra strict screen e) (extraTrail strict screen e) := by
    intro e he
    obtain ⟨hmem, hbound⟩ := List.mem_filter.1 he
    exact leaves_bindExtra hbound (wf.2 e hmem)
  have assignments := Leaves.forEach bound
  rw [Trail.all_filter fun e _ hbound => extraTrail_of_not_bound hbound] at assignments
  have intent : (TypeName.ofText intentType).IsWellFormed := by decide +kernel
  have steps := (leaves_refer intent).bind fun intent => assignments.bind fun assignments =>
    (leaves_refer wf.1).bind fun activity =>
      leaves_pure (Method.mk "bind" [⟨activity, "activity"⟩]
        (.getIntent intent :: assignments.filterMap id))
  simp only [Trail.silent_andThen, Trail.andThen_silent] at steps
  exact steps

theorem leaves_screenMethods (strict : Bool) (wf : screen.IsWellNamed) :
    Leaves (screenMethods strict screen) (screenTrail strict screen) := by
  have steps := (leaves_launcher wf).bind fun launcher =>
    (leaves_binder strict wf).bind fun binder =>
      (leaves_report (.generated screen.simpleName screen.className)).bind fun _ =>
        leaves_pure [launcher, binder]
  simp only [Trail.silent_andThen, Trail.andThen_silent] at steps
  exact steps

variable {screens : List Screen}

theorem leaves_allMethods (strict : Bool) (wf : ∀ screen ∈ screens, screen.IsWellNamed) :
    Leaves (allMethods strict screens) (.all (screenTrail strict) screens) := by
  have steps := (Leaves.forEach fun screen hscreen =>
    leaves_screenMethods strict (wf screen hscreen)).bind fun methods =>
      leaves_pure methods.flatten
  rw [Trail.andThen_silent] at steps
  exact steps

/-! ## The trail of a file -/

/-- The trail of every extra, one behind the other. -/
def extrasTrail (strict : Bool) (screens : List Screen) : Trail :=
  .all (fun c => extraTrail strict c.1 c.2) (Screen.allExtras screens)

/-- Apart from the records of finished screens, the trail of a file is that of its extras. -/
theorem warnings_screenTrails (strict : Bool) (screens : List Screen) :
    (Trail.all (screenTrail strict) screens).warnings = extrasTrail strict screens := by
  have screen : ∀ screen, (screenTrail strict screen).warnings =
      Trail.all (fun c => extraTrail strict c.1 c.2) (screen.extras.map fun e => (screen, e)) := by
    intro screen
    have done : Trail.warnings ⟨[.generated screen.simpleName screen.className], none⟩ = .silent := rfl
    rw [screenTrail, Trail.warnings_andThen, done, Trail.andThen_silent, Trail.warnings_all,
      Trail.all_map]
    simp only [warnings_extraTrail]
  rw [Trail.warnings_all, extrasTrail, Screen.allExtras, Trail.all_flatMap]
  simp only [screen]

theorem failure?_build (package : String) (wf : ∀ screen ∈ screens, screen.IsWellNamed) :
    failure? (build package strict screens).result = (extrasTrail strict screens).error := by
  obtain ⟨-, error⟩ := leaves_allMethods strict wf (Scope.start package [className])
  rw [← warnings_screenTrails]
  show failure? (Except.map _ _) = (Trail.all (screenTrail strict) screens).error
  rw [← error]
  cases (allMethods strict screens (Scope.start package [className])).result <;> rfl

theorem warnings_build (package : String) (wf : ∀ screen ∈ screens, screen.IsWellNamed) :
    ((build package strict screens).log.filter fun r => r.level = .warning) =
      (extrasTrail strict screens).log := by
  obtain ⟨log, -⟩ := leaves_allMethods strict wf (Scope.start package [className])
  rw [← warnings_screenTrails]
  exact congrArg (List.filter fun r => r.level = .warning) log

theorem findSome?_ite {α β : Type} (p : α → Prop) [DecidablePred p] (f : α → β) (items : List α) :
    (items.findSome? fun a => if p a then some (f a) else none) =
      (items.find? fun a => p a).map f := by
  induction items with
  | nil => rfl
  | cons a items ih => by_cases h : p a <;> simp [h, ih]

theorem error_extrasTrail (strict : Bool) (screens : List Screen) :
    (extrasTrail strict screens).error =
      ((Screen.allExtras screens).find? fun c => c.2.Stops strict).map fun c => c.1.stop c.2 := by
  rw [extrasTrail, Trail.error_all, ← findSome?_ite]
  simp only [error_extraTrail]

theorem log_extrasTrail (strict : Bool) (screens : List Screen) :
    (extrasTrail strict screens).log =
      (((Screen.allExtras screens).takeWhile fun c => ¬ c.2.Stops strict).filter fun c =>
        c.2.IsUnreadable).map fun c => c.1.omission c.2 := by
  have silent : ∀ c : Screen × Extra, (extraTrail strict c.1 c.2).error ≠ none →
      (extraTrail strict c.1 c.2).log = [] := by
    intro c hc
    rw [error_extraTrail] at hc
    rw [log_extraTrail]
    split_ifs at hc ⊢ <;> simp_all
  rw [extrasTrail, Trail.log_all silent]
  simp only [error_extraTrail, log_extraTrail]
  induction Screen.allExtras screens with
  | nil => rfl
  | cons c rest ih =>
    by_cases stops : c.2.Stops strict
    · simp [stops]
    · by_cases unreadable : c.2.IsUnreadable <;> simp_all

/-- The error is that of the first extra that stops generation. -/
theorem build_eq_error_iff (package : String) (strict : Bool)
    (wf : ∀ screen ∈ screens, screen.IsWellNamed) (error : GenerationError) :
    (build package strict screens).result = .error error ↔
      ∃ screen e, (Screen.allExtras screens).find? (fun c => c.2.Stops strict) = some (screen, e) ∧
        error = screen.stop e := by
  rw [← failure?_eq_some_iff, failure?_build package wf, error_extrasTrail, Option.map_eq_some_iff,
    Prod.exists]
  simp only [eq_comm]

/-- **Generation fails at the first extra that stops it**, with the error for this extra, and only if
there is one. Until then there is a warning for each extra that is left out, in order. -/
theorem build_fails_at_first (package : String) (strict : Bool)
    (wf : ∀ screen ∈ screens, screen.IsWellNamed) :
    let extras := Screen.allExtras screens
    let passed := extras.takeWhile fun c => ¬ c.2.Stops strict
    let warnings := (build package strict screens).log.filter fun r => r.level = .warning
    ((∃ error, (build package strict screens).result = .error error) ↔
        ∃ c ∈ extras, c.2.Stops strict) ∧
      (∀ error, (build package strict screens).result = .error error ↔
        ∃ screen e, extras.find? (fun c => c.2.Stops strict) = some (screen, e) ∧
          error = screen.stop e) ∧
      warnings = (passed.filter fun c => c.2.IsUnreadable).map (fun c => c.1.omission c.2) ∧
      (strict = true → warnings = []) := by
  intro extras passed warnings
  have first := build_eq_error_iff package strict wf
  have reported : warnings =
      (passed.filter fun c => c.2.IsUnreadable).map fun c => c.1.omission c.2 :=
    (warnings_build package wf).trans (log_extrasTrail strict screens)
  refine ⟨?_, first, reported, ?_⟩
  · constructor
    · rintro ⟨error, failed⟩
      obtain ⟨screen, e, found, -⟩ := (first error).1 failed
      have stops : e.Stops strict := by simpa using List.find?_some found
      exact ⟨(screen, e), List.mem_of_find?_eq_some found, stops⟩
    · rintro ⟨c, hc, stops⟩
      have found : (extras.find? fun c => c.2.Stops strict).isSome = true :=
        List.find?_isSome.2 ⟨c, hc, decide_eq_true stops⟩
      obtain ⟨⟨screen, e⟩, found⟩ := Option.isSome_iff_exists.1 found
      exact ⟨screen.stop e, (first _).2 ⟨screen, e, found, rfl⟩⟩
  · rintro rfl
    rw [reported, List.map_eq_nil_iff, List.filter_eq_nil_iff]
    intro c hc unreadable
    obtain ⟨bound, -, planless⟩ := of_decide_eq_true unreadable
    have goes_on : ¬ c.2.Stops true := by simpa using List.mem_takeWhile_imp hc
    exact goes_on ⟨bound, .inr ⟨rfl, planless⟩⟩

/-- The second of two screens stops a generation that is not strict, by an extra that can be neither
assigned nor read back. The first screen has an extra that is left out, and one that is not bound. -/
theorem build_fails_at_first_shop :
    let home : Screen := ⟨"a.Home", [⟨"box", .unsupported "x.Box", true, true⟩,
      ⟨"key", .unsupported "x.Key", false, false⟩, ⟨"next", .transferable "b.Shop", true, true⟩]⟩
    let shop : Screen := ⟨"b.Shop", [⟨"id", .unsupported "x.Id<y.Id[]>", false, true⟩,
      ⟨"tag", .unsupported "x.Tag", true, true⟩]⟩
    (∀ screen ∈ [home, shop], screen.IsWellNamed) ∧
      (build "app" false [home, shop]).result = .error (.notWritable "Shop" "id") ∧
      ((build "app" false [home, shop]).log.filter fun r => r.level = .warning) =
        [.notBinding "a.Home" "box" "x.Box"] := by
  intro home shop
  have wf : ∀ screen ∈ [home, shop], screen.IsWellNamed := by decide +kernel
  obtain ⟨-, error, warnings, -⟩ := build_fails_at_first "app" false wf
  have found : (Screen.allExtras [home, shop]).find? (fun c => c.2.Stops false) =
      some (shop, ⟨"id", .unsupported "x.Id<y.Id[]>", false, true⟩) := by decide +kernel
  have stop : .notWritable "Shop" "id" =
      shop.stop ⟨"id", .unsupported "x.Id<y.Id[]>", false, true⟩ := by
    decide +kernel
  exact ⟨wf, (error _).2 ⟨_, _, found, stop⟩, warnings.trans (by decide +kernel)⟩

end Navigator

end ScreenNav
