/-!
# Splitting at a separator

Text cut at every occurrence of one character, or at the first only. Cut at every occurrence there
is always one piece more than there are separators, so the empty text is one empty piece.

Main statements: `join_split`, that the pieces with separators between them are the text again,
`not_mem_of_mem_split`, that no piece holds the separator, and `split_join`, that pieces without it are
found again.
-/

namespace ScreenNav.Text

/-- Puts a character in front of the first piece. -/
def consFirst (c : Char) : List (List Char) → List (List Char)
  | [] => [[c]]
  | piece :: pieces => (c :: piece) :: pieces

/-- The pieces between the occurrences of the separator. -/
def split (separator : Char) : List Char → List (List Char)
  | [] => [[]]
  | c :: rest =>
    if c = separator then [] :: split separator rest else consFirst c (split separator rest)

/-- The pieces with a separator between any two of them. -/
def join (separator : Char) : List (List Char) → List Char
  | [] => []
  | [piece] => piece
  | piece :: pieces => piece ++ separator :: join separator pieces

/-- What stands before and behind the first occurrence of the separator. -/
def cut? (separator : Char) : List Char → Option (List Char × List Char)
  | [] => none
  | c :: rest =>
    if c = separator then some ([], rest)
    else (cut? separator rest).map fun parts => (c :: parts.1, parts.2)

theorem cut?_eq_none_iff {separator : Char} {text : List Char} :
    cut? separator text = none ↔ separator ∉ text := by
  induction text with
  | nil => simp [cut?]
  | cons c rest ih => by_cases h : c = separator <;> simp [cut?, h, ih, Ne.symm]

theorem cut?_eq_some {separator : Char} {text before behind : List Char}
    (h : cut? separator text = some (before, behind)) :
    text = before ++ separator :: behind ∧ separator ∉ before := by
  induction text generalizing before with
  | nil => simp [cut?] at h
  | cons c rest ih =>
    simp only [cut?] at h
    split at h
    · obtain ⟨rfl, rfl⟩ := by simpa using h
      simp_all
    · rename_i hc
      obtain ⟨⟨before', behind'⟩, hrest, hparts⟩ := Option.map_eq_some_iff.1 h
      obtain ⟨rfl, rfl⟩ := by simpa using hparts
      obtain ⟨rfl, hmem⟩ := ih hrest
      exact ⟨rfl, by simpa [Ne.symm hc] using hmem⟩

theorem split_ne_nil (separator : Char) (text : List Char) : split separator text ≠ [] := by
  cases text with
  | nil => simp [split]
  | cons c rest =>
    simp only [split]
    split
    · simp
    · cases split separator rest <;> simp [consFirst]

theorem split_eq_singleton {separator : Char} {text : List Char} (h : separator ∉ text) :
    split separator text = [text] := by
  induction text with
  | nil => rfl
  | cons c rest ih =>
    have hc : c ≠ separator := by rintro rfl; simp at h
    rw [split, if_neg hc, ih (List.not_mem_of_not_mem_cons h)]
    rfl

theorem split_append {separator : Char} {piece : List Char} (rest : List Char)
    (h : separator ∉ piece) :
    split separator (piece ++ separator :: rest) = piece :: split separator rest := by
  induction piece with
  | nil => simp [split]
  | cons c piece ih =>
    have hc : c ≠ separator := by rintro rfl; simp at h
    rw [List.cons_append, split, if_neg hc, ih (List.not_mem_of_not_mem_cons h)]
    rfl

/-- Pieces without the separator are found again in what they are joined to. -/
theorem split_join {separator : Char} {pieces : List (List Char)} (some_piece : pieces ≠ [])
    (h : ∀ piece ∈ pieces, separator ∉ piece) : split separator (join separator pieces) = pieces := by
  induction pieces with
  | nil => exact absurd rfl some_piece
  | cons piece pieces ih =>
    obtain ⟨head, tail⟩ := List.forall_mem_cons.1 h
    cases pieces with
    | nil => exact split_eq_singleton head
    | cons next pieces =>
      rw [join, split_append _ head, ih (List.cons_ne_nil _ _) tail]
      exact List.cons_ne_nil _ _

/-- The pieces with separators between them are the text again. -/
theorem join_split (separator : Char) (text : List Char) :
    join separator (split separator text) = text := by
  induction text with
  | nil => rfl
  | cons c rest ih =>
    have hne := split_ne_nil separator rest
    simp only [split]
    split
    · rename_i h
      cases hs : split separator rest with
      | nil => exact absurd hs hne
      | cons piece pieces => rw [hs] at ih; simp [join, h, ih]
    · cases hs : split separator rest with
      | nil => exact absurd hs hne
      | cons piece pieces =>
        rw [hs] at ih
        cases pieces <;> simpa [consFirst, join] using ih

/-- What a piece holds, the text holds. -/
theorem mem_of_mem_split {separator c : Char} {text piece : List Char}
    (h : piece ∈ split separator text) (hc : c ∈ piece) : c ∈ text := by
  induction text generalizing piece with
  | nil => simp_all [split]
  | cons d rest ih =>
    simp only [split] at h
    split at h
    · rcases List.mem_cons.1 h with rfl | h
      · simp at hc
      · exact List.mem_cons_of_mem _ (ih h hc)
    · cases hs : split separator rest with
      | nil => exact absurd hs (split_ne_nil _ _)
      | cons first pieces =>
        rw [hs] at h ih
        simp only [consFirst, List.mem_cons] at h
        rcases h with rfl | h
        · rcases List.mem_cons.1 hc with rfl | hc
          · exact List.mem_cons_self ..
          · exact List.mem_cons_of_mem _ (ih (List.mem_cons_self ..) hc)
        · exact List.mem_cons_of_mem _ (ih (List.mem_cons_of_mem _ h) hc)

/-- No piece holds the separator. -/
theorem not_mem_of_mem_split {separator : Char} {text piece : List Char}
    (h : piece ∈ split separator text) : separator ∉ piece := by
  induction text generalizing piece with
  | nil => simp_all [split]
  | cons c rest ih =>
    simp only [split] at h
    split at h
    · rcases List.mem_cons.1 h with rfl | h
      · simp
      · exact ih h
    · rename_i hc
      cases hs : split separator rest with
      | nil => exact absurd hs (split_ne_nil _ _)
      | cons first pieces =>
        rw [hs] at h ih
        simp only [consFirst, List.mem_cons] at h
        rcases h with rfl | h
        · simpa [Ne.symm hc] using ih (List.mem_cons_self ..)
        · exact ih (List.mem_cons_of_mem _ h)

end ScreenNav.Text
