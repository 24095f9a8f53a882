import Mathlib.Data.List.Forall2
import ScreenNav.Navigator.Generation
import ScreenNav.Proofs.Scope

/-!
# What a step of generation refers to

Steps are followed from the scope that they start in to the scope that they leave. A step `Refers`
to certain types if, whenever it succeeds, it has made the claims of these types in this order and
nothing else to its scope, and its result has a given meaning in that scope and in every later one.

The rules follow the ways in which steps are put together. Because the meaning is required of every
later scope, the result of an early step may be read in the scope at the very end, next to the
results of steps that claimed more names in between.
-/

namespace ScreenNav.Generation

variable {α β : Type} {s : Scope}

/-- The names that occur in several type names, at the base or in arguments. -/
def namesIn (texts : List String) : List String :=
  texts.flatMap fun text => (TypeName.ofText text).names

@[simp] theorem namesIn_nil : namesIn [] = [] := rfl

theorem namesIn_singleton (text : String) : namesIn [text] = (TypeName.ofText text).names := by
  simp [namesIn]

theorem namesIn_append (first second : List String) :
    namesIn (first ++ second) = namesIn first ++ namesIn second := by
  simp [namesIn]

theorem exists_related_of_mem {related : α → β → Prop} {as : List α} {bs : List β} {a : α}
    (h : List.Forall₂ related as bs) (ha : a ∈ as) : ∃ b ∈ bs, related a b := by
  induction h with
  | nil => simp at ha
  | @cons _ b _ bs head _ ih =>
    rcases List.mem_cons.1 ha with rfl | ha
    · exact ⟨b, List.mem_cons_self .., head⟩
    · obtain ⟨b', hb', rest⟩ := ih ha
      exact ⟨b', List.mem_cons_of_mem _ hb', rest⟩

theorem map_eq_map_of_forall₂ {γ : Type} {related : α → β → Prop} {f : α → γ} {g : β → γ}
    {as : List α} {bs : List β} (h : List.Forall₂ related as bs)
    (hfg : ∀ a ∈ as, ∀ b, related a b → g b = f a) : bs.map g = as.map f := by
  induction h with
  | nil => rfl
  | cons head _ ih =>
    obtain ⟨hhead, htail⟩ := List.forall_mem_cons.1 hfg
    rw [List.map_cons, List.map_cons, hhead _ head, ih htail]

/-! ## Steps one after the other -/

theorem mapError_eq_ok_iff {ε ε' : Type} {result : Except ε α} {f : ε → ε'} {a : α} :
    result.mapError f = .ok a ↔ result = .ok a := by
  cases result <;> simp [Except.mapError]

theorem bind_of_error {x : Generation α} {next : α → Generation β} {e : GenerationError}
    (h : (x s).result = .error e) : (x >>= next) s = ⟨(x s).scope, (x s).log, .error e⟩ := by
  show andThen x next s = _
  simp only [andThen, h]

theorem bind_of_ok {x : Generation α} {next : α → Generation β} {a : α}
    (h : (x s).result = .ok a) :
    (x >>= next) s = ⟨(next a (x s).scope).scope, (x s).log ++ (next a (x s).scope).log,
      (next a (x s).scope).result⟩ := by
  show andThen x next s = _
  simp only [andThen, h]

/-- A step after another succeeds if both do. -/
theorem andThen_eq_ok_iff {x : Generation α} {next : α → Generation β} {b : β} :
    ((x >>= next) s).result = .ok b ↔
      ∃ a, (x s).result = .ok a ∧ (next a (x s).scope).result = .ok b := by
  show (andThen x next s).result = .ok b ↔ _
  unfold andThen
  cases h : (x s).result <;> simp [h]

theorem scope_andThen {x : Generation α} {next : α → Generation β} {a : α}
    (h : (x s).result = .ok a) : ((x >>= next) s).scope = (next a (x s).scope).scope := by
  show (andThen x next s).scope = _
  unfold andThen
  simp [h]

@[simp] theorem result_pure (a : α) : ((pure a : Generation α) s).result = .ok a := rfl

@[simp] theorem scope_pure (a : α) : ((pure a : Generation α) s).scope = s := rfl

/-! ## References -/

/-- A step that succeeds has made the claims of these types, and its result means the same in every
later scope. -/
def Refers (x : Generation α) (texts : List String) (means : Scope → α → Prop) : Prop :=
  ∀ ⦃s : Scope⦄ ⦃a : α⦄, (x s).result = .ok a →
    (∀ text ∈ texts, (TypeName.ofText text).IsWellFormed) ∧
    (x s).scope = s.claimNames (namesIn texts) ∧
    ∀ later, means ((x s).scope.claimNames later) a

theorem Refers.imp {x : Generation α} {texts : List String} {p q : Scope → α → Prop}
    (h : Refers x texts p) (hpq : ∀ s a, p s a → q s a) : Refers x texts q := by
  intro s a ha
  obtain ⟨wf, scope, means⟩ := h ha
  exact ⟨wf, scope, fun later => hpq _ _ (means later)⟩

theorem refers_pure (a : α) : Refers (pure a) [] fun _ b => b = a := by
  intro s b hb
  simp only [result_pure, Except.ok.injEq] at hb
  exact ⟨by simp, by simp, fun _ => hb.symm⟩

theorem refers_ofExcept (result : Except GenerationError α) :
    Refers (ofExcept result) [] fun _ a => result = .ok a := by
  intro s a ha
  exact ⟨by simp, rfl, fun _ => ha⟩

theorem refers_fail (e : GenerationError) (means : Scope → α → Prop) :
    Refers (fail e) [] means :=
  (refers_ofExcept _).imp fun _ _ h => by simp at h

theorem refers_report (record : LogRecord) : Refers (report record) [] fun _ _ => True := by
  intro s a _
  exact ⟨by simp, rfl, fun _ => trivial⟩

/-- What a reference is written as does not change any more. -/
theorem refers_refer (text : String) :
    Refers (refer text) [text] fun s written =>
      s.displayType (TypeName.ofText text) = .ok written := by
  intro s written h
  have shown : (s.claimType (TypeName.ofText text)).displayType (TypeName.ofText text) =
      .ok written := mapError_eq_ok_iff.1 h
  have wf : (TypeName.ofText text).IsWellFormed := TypeName.isWellFormed_of_render_eq_ok shown
  have scope : (refer text s).scope = s.claimNames (namesIn [text]) := by
    rw [namesIn_singleton, ← Scope.claimType_eq_claimNames wf]
    rfl
  refine ⟨by simpa using wf, scope, fun later => ?_⟩
  show ((refer text s).scope.claimNames later).displayType _ = _
  rw [scope, namesIn_singleton,
    Scope.displayType_claimNames (fun name hname => Scope.settles_of_mem s hname) later,
    ← Scope.claimType_eq_claimNames wf]
  exact shown

theorem Refers.bind {x : Generation α} {next : α → Generation β} {first second : List String}
    {p : Scope → α → Prop} {q : α → Scope → β → Prop} (hx : Refers x first p)
    (hnext : ∀ a, Refers (next a) second (q a)) :
    Refers (x >>= next) (first ++ second) fun s b => ∃ a, p s a ∧ q a s b := by
  intro s b h
  obtain ⟨a, ha, hb⟩ := andThen_eq_ok_iff.1 h
  obtain ⟨wf₁, scope₁, means₁⟩ := hx ha
  obtain ⟨wf₂, scope₂, means₂⟩ := hnext a hb
  rw [scope_andThen ha]
  refine ⟨?_, ?_, fun later => ⟨a, ?_, means₂ later⟩⟩
  · intro text htext
    exact (List.mem_append.1 htext).elim (wf₁ text) (wf₂ text)
  · rw [scope₂, scope₁, namesIn_append, Scope.claimNames_append]
  · rw [scope₂, ← Scope.claimNames_append]
    exact means₁ _

theorem Refers.forEach {step : α → Generation β} {texts : α → List String}
    {p : α → Scope → β → Prop} (items : List α) (h : ∀ a, Refers (step a) (texts a) (p a)) :
    Refers (forEach step items) (items.flatMap texts) fun s results =>
      List.Forall₂ (fun a b => p a s b) items results := by
  induction items with
  | nil =>
    refine (refers_pure []).imp fun s results hresults => ?_
    rw [hresults]
    exact .nil
  | cons a items ih =>
    have stepped := (h a).bind fun b => ih.bind fun bs => refers_pure (b :: bs)
    rw [List.append_nil] at stepped
    refine stepped.imp fun s results => ?_
    rintro ⟨b, hb, bs, hbs, rfl⟩
    exact .cons hb hbs

end ScreenNav.Generation
