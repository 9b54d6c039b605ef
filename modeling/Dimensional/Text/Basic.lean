/-!
# Text

Everything the library reads and prints goes through lists of characters, which laws can be stated
about; they are packed into a `String` at the edge.
-/

namespace Dimensional

/-- Running text. -/
abbrev Text := List Char

/-- The text between backticks, as messages quote what was written or is to be written. -/
def ticked (s : Text) : Text := Char.ofNat 96 :: (s ++ [Char.ofNat 96])

end Dimensional
