import TopicConsumer.Config.Directory
import TopicConsumer.Config.Layers

/-!
# The configuration of an installation

The layers of an installation are a file of defaults, a file for the environment it runs in, and the
environment variables under a prefix. Files that do not exist, or whose form nobody knows, count for
nothing.
-/

namespace TopicConsumer

/-- What a program finds when it starts: files by their paths below the directory it starts in, and
environment variables. `$DIR` stands for that directory in the values of the variables. -/
structure Installation where
  files : List (String × String)
  environment : List (String × String)

namespace Installation

/-- What stands for the directory. -/
def directory : String := "$DIR"

/-- A path that does not depend on the directory in which it is looked up. -/
def isAbsolute (path : String) : Bool := path.startsWith "/" || path.startsWith directory

/-- A path below another one, unless it is absolute. -/
def join (root path : String) : String :=
  if isAbsolute path then path
  else if root.isEmpty || root.endsWith "/" then root ++ path
  else root ++ "/" ++ path

/-- The names of a path as seen from the directory. A path that leads elsewhere has none. -/
def names? (path : String) : Option (List String) :=
  match path.splitOn "/" with
  | first :: rest =>
    if first = directory then some rest
    else if isAbsolute path then none
    else some (first :: rest)
  | [] => none

/-- The value of an environment variable. -/
def valueOf? (i : Installation) (name : String) : Option String := i.environment.lookup name

/-- The layer of a file. A byte order mark in front of its text is left out. -/
def fileLayer (i : Installation) (path : String) : Except LoadError ConfigLayer :=
  match (names? path).bind (Directory.mk i.files |>.find? ConfigFormat.extensions) with
  | none => .ok []
  | some (names, format, text) =>
    ConfigLayer.ofText? format (some ("/".intercalate names))
      (if text.startsWith "\uFEFF" then (text.drop 1).toString else text)

/-- The prefix of the variables that belong to the configuration, in small letters. -/
def variablePrefix : String := "rill__"

/-- A character of the name of a variable, written small: a capital letter of ASCII, or the sign for
kelvin, which is a capital letter of its own. Other characters cannot be part of a path anyway. -/
def small (c : Char) : Char := if c = '\u212A' then 'k' else c.toLower

/-- The layer of the environment variables. What follows the prefix is taken in small letters, and
two underscores stand for a point. -/
def variableLayer (i : Installation) : ConfigLayer :=
  i.environment.filterMap fun (name, value) =>
    let name := String.ofList (name.toList.map small)
    if name.startsWith variablePrefix then
      let key := (name.drop variablePrefix.length).toString
      some (".".intercalate (key.splitOn "__"), .leaf (some "the environment") (.text value))
    else none

/-- The configuration of an installation. -/
def configuration (i : Installation) : Except LoadError ConfigValue := do
  let root := (i.valueOf? "RILL_CONFIG_ROOT").getD (join directory "config")
  let environment := (i.valueOf? "RILL_ENV").getD "dev"
  let defaults ← i.fileLayer (join root "default")
  let specific ← i.fileLayer (join root environment)
  pure (ConfigLayer.merged [defaults, specific, i.variableLayer])

end Installation

end TopicConsumer
