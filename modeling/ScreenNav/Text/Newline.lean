/-!
# Ends of lines

Text whose lines end in a newline, from text that also uses carriage returns.

Main statement: `return_notMem_unifyNewlines`, that no carriage return is left.
-/

namespace ScreenNav.Text

/-- Text with a newline for each end of a line, however it was written. -/
def unifyNewlines : List Char → List Char
  | '\r' :: '\n' :: rest => '\n' :: unifyNewlines rest
  | '\r' :: rest => '\n' :: unifyNewlines rest
  | c :: rest => c :: unifyNewlines rest
  | [] => []

/-- Text without the carriage returns right before a newline; any other stays. -/
def joinNewlines : List Char → List Char
  | '\r' :: '\n' :: rest => '\n' :: joinNewlines rest
  | c :: rest => c :: joinNewlines rest
  | [] => []

/-- No carriage return is left. -/
theorem return_notMem_unifyNewlines (text : List Char) : '\r' ∉ unifyNewlines text := by
  fun_induction unifyNewlines text with
  | case1 rest ih => simp [ih]
  | case2 rest _ ih => simp [ih]
  | case3 c rest _ hc ih => simp [ih, Ne.symm hc]
  | case4 => simp

end ScreenNav.Text
