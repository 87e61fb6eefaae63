import TopicConsumer.Config.Format
import TopicConsumer.Config.Path

/-!
# Layered configurations

A configuration is put together from layers, of which a later one counts more. A layer holds values
under keys; a key that writes a path means the place to which the path leads.
-/

namespace TopicConsumer

/-- What one source contributes: values under keys, each of which is taken as a path if it is one.
-/
abbrev ConfigLayer := List (String × ConfigValue)

namespace ConfigLayer

/-- The layer of a source, which has to be a table. -/
def ofValue? : Option ConfigValue → Except LoadError ConfigLayer
  | some (.table _ entries) => .ok entries
  | _ => .error .unreadableFile

/-- The layer of a text. -/
def ofText? (format : ConfigFormat) (origin : Option String) (text : String) :
    Except LoadError ConfigLayer :=
  ofValue? (format.read? origin text)

/-- The path that a key writes; a key that writes none is a name. -/
def path (key : String) : ConfigPath := (ConfigPath.ofText? key).getD ⟨key, []⟩

/-- Puts the values of a layer into a configuration. -/
def addTo (layer : ConfigLayer) (root : ConfigValue) : ConfigValue :=
  layer.foldl (fun root (key, value) => (path key).set value root) root

/-- The configuration of the layers. -/
def merged (layers : List ConfigLayer) : ConfigValue :=
  layers.foldl (fun root layer => layer.addTo root) .emptyTable

end ConfigLayer

end TopicConsumer
