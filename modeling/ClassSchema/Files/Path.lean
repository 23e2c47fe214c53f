/-
# Paths

A path is a text of names with slashes between them.
-/

namespace ClassSchema.Path

/-- The path of `name` inside `directory`; a name that begins at the root stands for itself. -/
def join (directory name : String) : String :=
  if name.toList.head? = some '/' then name
  else if directory = "" then name
  else if directory.toList.getLast? = some '/' then directory ++ name
  else directory ++ "/" ++ name

/-- Whether a name has the ending. -/
def hasEnding (name ending : String) : Bool := ending.toList.isSuffixOf name.toList

/-- The name without as many characters at its end as the ending has. -/
def withoutEnding (name ending : String) : String :=
  String.ofList (name.toList.take (name.toList.length - ending.toList.length))

end ClassSchema.Path
