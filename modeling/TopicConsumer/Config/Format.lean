import TopicConsumer.Config.Ini
import TopicConsumer.Config.Json
import TopicConsumer.Config.Json5
import TopicConsumer.Config.Ron
import TopicConsumer.Config.Toml.Document
import TopicConsumer.Config.Yaml.Document

/-!
# The forms of configuration texts

A configuration may be written in one of several forms. Which one a file has is told by the
extension of its name.
-/

namespace TopicConsumer

/-- The forms in which a configuration may be written. -/
inductive ConfigFormat where
  | toml
  | json
  | ini
  | json5
  | yaml
  | ron
  deriving DecidableEq

namespace ConfigFormat

/-- Reads a text of this form. -/
def read? : ConfigFormat → Option String → String → Option ConfigValue
  | .toml => Toml.read?
  | .json => Json.read?
  | .ini => Ini.read?
  | .json5 => Json5.read?
  | .yaml => Yaml.read?
  | .ron => Ron.read?

/-- The extensions of files, with the forms that they tell. -/
def extensions : List (String × ConfigFormat) :=
  [("toml", .toml), ("json", .json), ("yaml", .yaml), ("yml", .yaml), ("ini", .ini), ("ron", .ron),
    ("json5", .json5)]

end ConfigFormat

end TopicConsumer
