/-!
# Text in columns
-/

namespace WordMachine.Text

/-- The text followed by as many blanks as bring it to `width` characters; a longer one is kept. -/
def padRight (width : Nat) (s : String) : String :=
  s ++ String.ofList (List.replicate (width - s.length) ' ')

/-- Each line with a line feed after it. -/
def unlines (lines : List String) : String :=
  String.join (lines.map (· ++ "\n"))

end WordMachine.Text
