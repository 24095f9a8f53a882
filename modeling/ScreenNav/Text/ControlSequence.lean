/-!
# Control sequences

Text without the sequences that tell a terminal how to show what follows.

**Form.** A control sequence is an escape character and an opening bracket, then parameters, then
intermediates, and one character that ends it. An escape character that starts no such sequence is
left where it is.

Main statement: `withoutSequences_eq_self`, that text without escape characters is left alone.
-/

namespace ScreenNav.Text

/-- The character lies between two others, or is one of them. -/
def isBetween (first last c : Char) : Bool := first ≤ c && c ≤ last

/-- What follows a control sequence whose first two characters have been read; nothing if it is not
ended as it has to be. -/
def behindSequence? (text : List Char) : Option (List Char) :=
  match (text.dropWhile (isBetween '0' '?')).dropWhile (isBetween ' ' '/') with
  | [] => none
  | c :: rest => if isBetween '@' '~' c then some rest else none

theorem length_behindSequence? {text rest : List Char} (h : behindSequence? text = some rest) :
    rest.length < text.length := by
  have shorter := ((List.dropWhile_suffix (isBetween ' ' '/')).trans
    (List.dropWhile_suffix (l := text) (isBetween '0' '?'))).length_le
  simp only [behindSequence?] at h
  split at h
  · simp at h
  · rename_i c behind heq
    rw [heq, List.length_cons] at shorter
    split at h
    · obtain rfl : behind = rest := by simpa using h
      exact shorter
    · simp at h

/-- The text without its control sequences. -/
def withoutSequences (text : List Char) : List Char :=
  match text with
  | '\x1b' :: '[' :: rest =>
    match _ : behindSequence? rest with
    | some behind => withoutSequences behind
    | none => '\x1b' :: withoutSequences ('[' :: rest)
  | c :: rest => c :: withoutSequences rest
  | [] => []
termination_by text.length
decreasing_by
  · have := length_behindSequence? ‹_›
    simp only [List.length_cons]
    omega
  · simp
  · simp

/-- Text without escape characters is left alone. -/
theorem withoutSequences_eq_self {text : List Char} (h : '\x1b' ∉ text) :
    withoutSequences text = text := by
  fun_induction withoutSequences text with
  | case1 => simp at h
  | case2 => simp at h
  | case3 c rest _ ih => rw [ih (List.not_mem_of_not_mem_cons h)]
  | case4 => rfl

end ScreenNav.Text
