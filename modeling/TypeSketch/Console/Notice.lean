import TypeSketch.Console.Cursor
import TypeSketch.Console.Markup

/-!
# Notices

A notice is a label and a message, which a console shows literally, as far as it shows
any text literally. It ends its line.
-/

namespace TypeSketch.Console

/-- The text of a notice. -/
def notice (label message : Text) : Text :=
  expandTabs {} (label ++ " " ++ Markup.literal message) ++ "\n"

end TypeSketch.Console
