import ScreenNav.TypeName

/-!
# The names in a type name

A type name is well formed if it can be cut all the way down. Then it can be written with any
choice of names, and what is written depends on the choice only at the names that occur in it.

Main statements: `render_eq_ok_iff`, that well-formed type names are the ones that can be written,
and `render_congr`, that two choices which agree on the names of a type write the same text.
-/

namespace ScreenNav.TypeName

/-- The type name can be cut all the way down. -/
def IsWellFormed (t : TypeName) : Prop := none ∉ t.bases

instance (t : TypeName) : Decidable t.IsWellFormed := inferInstanceAs (Decidable (_ ∉ _))

/-- The names that occur in a type, each before those of its arguments. -/
def names (t : TypeName) : List String := t.bases.filterMap id

theorem basesAll_eq_flatMap (ts : List TypeName) : basesAll ts = ts.flatMap bases := by
  induction ts with
  | nil => rfl
  | cons t ts ih => rw [basesAll, ih, List.flatMap_cons]

@[simp] theorem not_isWellFormed_malformed (text : String) : ¬ (malformed text).IsWellFormed := by
  simp [IsWellFormed, bases]

@[simp] theorem isWellFormed_node {base dims : String} {args : List TypeName} :
    (node base args dims).IsWellFormed ↔ none ∉ basesAll args := by
  simp [IsWellFormed, bases]

/-! ## Writing -/

mutual

theorem isOk_render_iff (choose : String → String) :
    (t : TypeName) → ((∃ text, t.render choose = .ok text) ↔ none ∉ t.bases)
  | .malformed _ => by simp [render, bases]
  | .node base args dims => by
    have ih := isOk_renderAll_iff choose args
    simp only [render, bases, List.mem_cons, reduceCtorEq, false_or, ← ih]
    cases renderAll choose args <;> simp [bind, Except.bind, pure, Except.pure]

theorem isOk_renderAll_iff (choose : String → String) :
    (ts : List TypeName) → ((∃ texts, renderAll choose ts = .ok texts) ↔ none ∉ basesAll ts)
  | [] => by simp [renderAll, basesAll]
  | t :: ts => by
    have head := isOk_render_iff choose t
    have tail := isOk_renderAll_iff choose ts
    simp only [renderAll, basesAll, List.mem_append, not_or, ← head, ← tail]
    cases t.render choose <;> cases renderAll choose ts <;>
      simp [bind, Except.bind, pure, Except.pure]

end

/-- The well-formed type names are the ones that can be written. -/
theorem render_eq_ok_iff {t : TypeName} (choose : String → String) :
    (∃ text, t.render choose = .ok text) ↔ t.IsWellFormed :=
  isOk_render_iff choose t

theorem isWellFormed_of_render_eq_ok {t : TypeName} {choose : String → String} {text : String}
    (h : t.render choose = .ok text) : t.IsWellFormed :=
  (render_eq_ok_iff choose).1 ⟨text, h⟩

mutual

theorem render_congr_bases {f g : String → String} :
    (t : TypeName) → (∀ name, some name ∈ t.bases → f name = g name) → t.render f = t.render g
  | .malformed _, _ => rfl
  | .node base args dims, h => by
    have hbase : f base = g base := h base (by simp [bases])
    have hargs : renderAll f args = renderAll g args :=
      renderAll_congr_bases args fun name hname => h name (by simp [bases, hname])
    simp only [render, hbase, hargs]

theorem renderAll_congr_bases {f g : String → String} :
    (ts : List TypeName) → (∀ name, some name ∈ basesAll ts → f name = g name) →
      renderAll f ts = renderAll g ts
  | [], _ => rfl
  | t :: ts, h => by
    have head : t.render f = t.render g :=
      render_congr_bases t fun name hname => h name (by simp [basesAll, hname])
    have tail : renderAll f ts = renderAll g ts :=
      renderAll_congr_bases ts fun name hname => h name (by simp [basesAll, hname])
    simp only [renderAll, head, tail]

end

/-- Two choices that agree on the names of a type write the same text. -/
theorem render_congr {f g : String → String} {t : TypeName} (h : ∀ name ∈ t.names, f name = g name) :
    t.render f = t.render g :=
  render_congr_bases t fun name hname => h name (List.mem_filterMap.2 ⟨some name, hname, rfl⟩)

end ScreenNav.TypeName
