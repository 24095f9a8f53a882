import ScreenNav.Proofs.Acceptance

/-!
# Valid class blocks

What it takes for the blocks of a file to be accepted. The checks go through the blocks and fields one
by one and remember what has been seen; `ValidBlocks` says of all blocks together what they come to,
without an order: a simple name belongs to one class, a field name occurs once in all blocks of a class,
and every marker is right.

Main statements: `checkClasses_eq_ok_iff`, by induction over the blocks, and `validBlocks_of_parse`. The
invariant is that the blocks seen so far are valid; one block is accepted behind them exactly if they are
valid together with it.
-/

namespace ScreenNav

/-! ## Checks one after the other -/

theorem bind_eq_ok_iff {α β ε : Type} {x : Except ε α} {next : α → Except ε β} {b : β} :
    x >>= next = .ok b ↔ ∃ a, x = .ok a ∧ next a = .ok b := by
  cases x <;> simp [bind, Except.bind]

/-- A check and what comes behind it are both passed. -/
theorem seq_eq_ok_iff {β ε : Type} {check : Except ε Unit} {next : Except ε β} {b : β} :
    (do check; next) = .ok b ↔ check = .ok () ∧ next = .ok b := by
  rw [bind_eq_ok_iff]
  constructor
  · rintro ⟨_, passed, rest⟩
    exact ⟨passed, rest⟩
  · rintro ⟨passed, rest⟩
    exact ⟨(), passed, rest⟩

variable {className : String} {seenNames : List String} {seen classes : List ClassDecl} {c : ClassDecl}
  {f : FieldDecl}

/-! ## Fields -/

/-- A marked field is accepted if its name is free for a parameter and its marker is right. -/
theorem checkMarker_eq_ok_iff : f.checkMarker className = .ok () ↔
    ∀ marker, f.marker? = some marker →
      f.name ∉ reservedNames ∧ ∃ bound, marker.bindFlag className f.name = .ok bound := by
  unfold FieldDecl.checkMarker
  cases f.marker? with
  | none => simp
  | some marker =>
    by_cases reserved : f.name ∈ reservedNames
    · simp [reserved]
    · cases flag : marker.bindFlag className f.name <;> simp [reserved, flag, Except.map]

theorem checkFields_eq_ok_iff {fields : List FieldDecl} :
    checkFields className seenNames fields = .ok () ↔
      (fields.map (·.name)).Nodup ∧ (∀ f ∈ fields, f.name ∉ seenNames) ∧
        ∀ f ∈ fields, f.checkMarker className = .ok () := by
  induction fields generalizing seenNames with
  | nil => simp [checkFields]
  | cons f fields ih =>
    by_cases repeated : f.name ∈ seenNames
    · simp [checkFields, repeated]
    · rw [checkFields, if_neg repeated, seq_eq_ok_iff, ih, List.forall_mem_cons, List.forall_mem_cons,
        List.map_cons, List.nodup_cons]
      simp only [List.mem_map, List.mem_cons, not_or, not_exists, not_and]
      constructor
      · rintro ⟨marker, distinct, fresh, markers⟩
        exact ⟨⟨fun g hg => (fresh g hg).1, distinct⟩, ⟨repeated, fun g hg => (fresh g hg).2⟩,
          marker, markers⟩
      · rintro ⟨⟨other, distinct⟩, ⟨-, fresh⟩, marker, markers⟩
        exact ⟨marker, distinct, fun g hg => ⟨other g hg, fresh g hg⟩, markers⟩

/-! ## Blocks -/

/-- The blocks fit together, and their markers are right. -/
structure ValidBlocks (blocks : List ClassDecl) : Prop where
  /-- A simple name belongs to one class. -/
  simple : ∀ c ∈ blocks, ∀ d ∈ blocks,
    QualifiedName.simple c.name = QualifiedName.simple d.name → c.name = d.name
  /-- A field name occurs once in all blocks of a class together. -/
  fields : ∀ className, (fieldNames className blocks).Nodup
  markers : ∀ c ∈ blocks, ∀ f ∈ c.fields, f.checkMarker c.name = .ok ()

theorem validBlocks_nil : ValidBlocks [] := ⟨by simp, by simp [fieldNames], by simp⟩

theorem fieldNames_append (className : String) (first second : List ClassDecl) :
    fieldNames className (first ++ second) =
      fieldNames className first ++ fieldNames className second := by
  simp [fieldNames]

theorem fieldNames_singleton (className : String) (c : ClassDecl) :
    fieldNames className [c] = if c.name = className then c.fields.map (·.name) else [] := by
  unfold fieldNames
  split <;> simp [*]

/-- The first part of valid blocks is valid. -/
theorem ValidBlocks.of_append {first second : List ClassDecl} (h : ValidBlocks (first ++ second)) :
    ValidBlocks first := by
  refine ⟨fun c hc d hd => ?_, fun className => ?_, fun c hc => ?_⟩
  · exact h.simple c (List.mem_append_left _ hc) d (List.mem_append_left _ hd)
  · have distinct := h.fields className
    rw [fieldNames_append] at distinct
    exact (List.nodup_append.1 distinct).1
  · exact h.markers c (List.mem_append_left _ hc)

/-- A block is valid behind others if it takes the simple name of no other class, and its fields are
accepted behind those that its class has already. -/
theorem ValidBlocks.concat_iff (h : ValidBlocks seen) : ValidBlocks (seen ++ [c]) ↔
    (∀ d ∈ seen, QualifiedName.simple d.name = QualifiedName.simple c.name → d.name = c.name) ∧
      checkFields c.name (fieldNames c.name seen) c.fields = .ok () := by
  have own : fieldNames c.name (seen ++ [c]) =
      fieldNames c.name seen ++ c.fields.map (·.name) := by
    rw [fieldNames_append, fieldNames_singleton, if_pos rfl]
  rw [checkFields_eq_ok_iff]
  constructor
  · intro valid
    have member : c ∈ seen ++ [c] := List.mem_append_right _ (List.mem_singleton_self c)
    obtain ⟨-, distinct, fresh⟩ := List.nodup_append.1 (own ▸ valid.fields c.name)
    refine ⟨fun d hd => valid.simple d (List.mem_append_left _ hd) c member, distinct, ?_,
      valid.markers c member⟩
    intro f hf taken
    exact fresh f.name taken f.name (List.mem_map_of_mem hf) rfl
  · rintro ⟨simple, distinct, fresh, markers⟩
    refine ⟨?_, fun className => ?_, ?_⟩
    · simp only [List.forall_mem_append, List.forall_mem_singleton]
      exact ⟨fun d hd => ⟨h.simple d hd, simple d hd⟩,
        fun d hd same => (simple d hd same.symm).symm, fun _ => trivial⟩
    · by_cases same : c.name = className
      · rw [← same, own]
        refine List.nodup_append.2 ⟨h.fields c.name, distinct, fun name earlier other later => ?_⟩
        obtain ⟨f, hf, rfl⟩ := List.mem_map.1 later
        exact fun same => fresh f hf (same ▸ earlier)
      · rw [fieldNames_append, fieldNames_singleton, if_neg same, List.append_nil]
        exact h.fields className
    · exact List.forall_mem_append.2 ⟨h.markers, List.forall_mem_singleton.2 markers⟩

/-- A block is accepted behind valid ones, and so are those behind it. -/
theorem checkClasses_cons_eq_ok_iff (h : ValidBlocks seen) :
    checkClasses seen (c :: classes) = .ok () ↔
      ValidBlocks (seen ++ [c]) ∧ checkClasses (seen ++ [c]) classes = .ok () := by
  rw [h.concat_iff, checkClasses]
  split
  · rename_i other found
    -- The block takes the simple name of another class.
    have shared := List.find?_some found
    simp only [decide_eq_true_eq] at shared
    constructor
    · intro refused
      cases refused
    · intro accepted
      exact absurd (accepted.1.1 other (List.mem_of_find?_eq_some found) shared.1) shared.2
  · rename_i unshared
    have simple : ∀ d ∈ seen, QualifiedName.simple d.name = QualifiedName.simple c.name →
        d.name = c.name := by
      simpa using unshared
    rw [and_iff_right simple]
    exact seq_eq_ok_iff

/-- Blocks are accepted behind valid ones exactly if they are valid together. -/
theorem checkClasses_eq_ok_iff (h : ValidBlocks seen) :
    checkClasses seen classes = .ok () ↔ ValidBlocks (seen ++ classes) := by
  induction classes generalizing seen with
  | nil => simpa [checkClasses] using h
  | cons c classes ih =>
    rw [checkClasses_cons_eq_ok_iff h, List.append_cons seen c classes]
    constructor
    · rintro ⟨valid, rest⟩
      exact (ih valid).1 rest
    · intro valid
      exact ⟨valid.of_append, (ih valid.of_append).2 valid⟩

/-! ## Files -/

theorem validBlocks_of_validate {d : Declarations} (h : d.validate = .ok ()) :
    ValidBlocks d.classes := by
  rw [Declarations.validate, seq_eq_ok_iff, seq_eq_ok_iff] at h
  exact (checkClasses_eq_ok_iff validBlocks_nil).1 h.2.2

/-- The class blocks of a file that is parsed are valid. -/
theorem validBlocks_of_parse {text : String} {d : Declarations} (h : parse text = .ok d) :
    ValidBlocks d.classes := by
  obtain ⟨_, -, valid⟩ := exists_valid_reading_of_parse h
  exact validBlocks_of_validate valid

end ScreenNav
