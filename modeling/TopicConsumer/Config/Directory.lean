/-!
# Files below a directory

A directory holds files at paths below it, and the directories that these paths lead through. A path
is followed name by name: a point or an empty name stays in a directory, two points lead to the one
above, and nothing lies below a file. A path that leads out of the directory leads nowhere.
-/

namespace TopicConsumer

/-- Files with their texts, at paths below a directory. -/
structure Directory where
  files : List (String × String)

namespace Directory

/-- A name that does not lead on. -/
def isIdle (name : String) : Bool := name == "" || name == "."

/-- What a path leads to. -/
inductive Place where
  | directory (names : List String)
  | file (text : String)

/-- The names that lead to a file. -/
def fileNames (path : String) : List String := (path.splitOn "/").filter (!isIdle ·)

/-- What one more name leads to. -/
def enter (d : Directory) (name : String) : Place → Option Place
  | .file _ => none
  | .directory names =>
    if isIdle name then some (.directory names)
    else if name = ".." then
      if names.isEmpty then none else some (.directory names.dropLast)
    else
      let names := names ++ [name]
      match d.files.find? (fileNames ·.1 == names) with
      | some (_, text) => some (.file text)
      | none =>
        if d.files.any fun (path, _) => names.isPrefixOf (fileNames path) then
          some (.directory names)
        else none

/-- What a path of these names leads to. -/
def at? (d : Directory) (names : List String) : Option Place :=
  names.foldl (fun place name => place.bind (d.enter name)) (some (.directory []))

/-- The text of the file to which a path leads. -/
def text? (d : Directory) (names : List String) : Option String :=
  match d.at? names with
  | some (.file text) => some text
  | _ => none

/-- The extension of a name: what stands behind the last point, if anything stands in front of it.
-/
def extension? (name : String) : Option String :=
  match (name.splitOn ".").reverse with
  | last :: rest => if rest = [] ∨ rest = [""] then none else some last
  | [] => none

/-- The names of the file that a path means, with what its extension tells and its text: the file to
which just this path leads if there is one, or else the file whose name has one of the extensions
behind it. The extension has to be a known one. -/
def find? {F : Type} (d : Directory) (extensions : List (String × F)) (names : List String) :
    Option (List String × F × String) :=
  let shown := names.filter (!isIdle ·)
  match d.text? names, shown.getLast? with
  | _, none | none, some ".." => none
  | some text, some name =>
    ((extension? name).bind fun e => extensions.lookup e).map fun f => (shown, f, text)
  | none, some name => extensions.findSome? fun (extension, f) =>
      let names := shown.dropLast ++ [name ++ "." ++ extension]
      (d.text? names).map fun text => (names, f, text)

end Directory

end TopicConsumer
