/-!
# Similarity of words

How much two words have in common, to guess what was meant by a word that is not known.

**Common characters.** The longest run of characters that both words hold is taken first, then the
same is done with what stands before it in both and with what stands behind it. Of several longest
runs the first in the first word counts, and of its places in the second word the first.

**Likeness.** Two words are alike if the runs so found make up at least three fifths of both words
together. The most alike come first.
-/

namespace ScreenNav.Text

/-- The number of characters that two texts have in common at their start. -/
def commonStart : List Char → List Char → Nat
  | a :: as, b :: bs => if a = b then commonStart as bs + 1 else 0
  | _, _ => 0

/-- A run of characters that two texts share. -/
structure SharedRun where
  /-- Where it starts in the first text. -/
  first : Nat
  /-- Where it starts in the second text. -/
  second : Nat
  length : Nat

/-- The longest run that two texts share. -/
def longestRun (a b : List Char) : SharedRun :=
  let runs := (List.range a.length).flatMap fun i => (List.range b.length).map fun j =>
    (⟨i, j, commonStart (a.drop i) (b.drop j)⟩ : SharedRun)
  runs.foldl (fun best run => if best.length < run.length then run else best) ⟨0, 0, 0⟩

/-- The number of characters in shared runs; `depth` bounds how often the texts are divided. -/
def sharedWithin : Nat → List Char → List Char → Nat
  | 0, _, _ => 0
  | depth + 1, a, b =>
    let run := longestRun a b
    if run.length = 0 then 0
    else
      sharedWithin depth (a.take run.first) (b.take run.second) + run.length
        + sharedWithin depth (a.drop (run.first + run.length)) (b.drop (run.second + run.length))

/-- The number of characters in the runs that two texts share. Each division makes the first text
shorter, so its length is depth enough. -/
def shared (a b : List Char) : Nat := sharedWithin a.length a b

/-- How alike two words are: twice the shared characters, and the characters of both. -/
structure Likeness where
  word : String
  shared : Nat
  total : Nat

/-- How alike a candidate and a word are. -/
def likeness (word candidate : String) : Likeness :=
  ⟨candidate, 2 * shared candidate.toList word.toList, candidate.length + word.length⟩

/-- The candidate is like the word. -/
def Likeness.isClose (l : Likeness) : Bool := 3 * l.total ≤ 5 * l.shared

/-- The first is at least as alike as the second; between equals the later word goes first. -/
def Likeness.precedes (l m : Likeness) : Bool :=
  m.shared * l.total < l.shared * m.total
    || (m.shared * l.total = l.shared * m.total && decide (m.word ≤ l.word))

/-- The candidates that are like a word, the most alike first, and no more than three. -/
def closeMatches (word : String) (candidates : List String) : List String :=
  (((candidates.map (likeness word)).filter Likeness.isClose).mergeSort Likeness.precedes).take 3
    |>.map Likeness.word

end ScreenNav.Text
