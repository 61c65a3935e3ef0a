import Costwise.Files.Path

/-!
# Wording of Log Messages

Messages that are made in more than one place have their wording here.

## Main definitions

* `Message.performance`: How long something took.
* `Message.fileUse`: What is done with a file.
* `Message.classification`: Which rule settled the class of a function.
-/

namespace Costwise

namespace Log

namespace Message

/-- How long something took. -/
def performance (operation seconds : String) : String :=
  s!"Performance: {operation} took {seconds}s"

/-- What is done with a file. -/
def fileUse (operation : String) (path : Files.Path) : String :=
  s!"File {operation}: {path.text}"

/-- Which rule settled the class of a function. -/
def classification (function label rule : String) : String :=
  s!"{function}: {label} via {rule}"

end Message

end Log

end Costwise
