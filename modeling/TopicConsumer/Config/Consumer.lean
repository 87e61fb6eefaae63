import TopicConsumer.Config.Decode
import TopicConsumer.Text.Blank

/-!
# The configuration of a consumer

A consumer is configured by the address of its cluster, its group, how long one poll may take,
batching under names, and settings that are passed on to the client as they are. Named batching may
be looked up under any name: an unknown one stands for the defaults.
-/

namespace TopicConsumer

/-- Batching under names. -/
structure NamedBatching where
  entries : List (String × BatchSettings)
  deriving DecidableEq, Inhabited

namespace NamedBatching

/-- No names. -/
def empty : NamedBatching := ⟨[]⟩

/-- The settings under a name, and the defaults under an unknown one. -/
def get (n : NamedBatching) (name : String) : BatchSettings := (n.entries.lookup name).getD {}

/-- There are settings under the name. -/
def contains (n : NamedBatching) (name : String) : Bool := (n.entries.lookup name).isSome

/-- The first entry with a field out of range. -/
def outOfRange? (n : NamedBatching) : Option (String × List String) :=
  n.entries.findSome? fun (name, s) => if s.tooSmall.isEmpty then none else some (name, s.tooSmall)

/-- The batching in a section of a configuration. There is none in a missing section. -/
def load (root : ConfigValue) (section_ : String) : Except ConfigError NamedBatching :=
  let read (key : String) := ConfigValue.asEntries key (BatchSettings.ofValue key)
  match root.getD section_ read [] with
  | .error e => .error (.load e)
  | .ok entries =>
    let named : NamedBatching := ⟨entries⟩
    match named.outOfRange? with
    | some (name, fields) => .error (.outOfRange section_ name fields)
    | none => .ok named

end NamedBatching

/-- The configuration of a consumer. -/
structure ConsumerConfig where
  bootstrap : String
  group : String
  /-- Milliseconds that one poll may take. -/
  pollTimeout : Nat
  subscriptions : NamedBatching
  /-- Settings of the client. -/
  client : List (String × String)
  deriving DecidableEq, Inhabited

namespace ConsumerConfig

/-- How long one poll may take where nothing else is said. -/
def defaultPollTimeout : Nat := 100

/-- What is said of a setting that is blank. -/
def blankSetting (name : String) : ConfigError := .invalid ("'" ++ name ++ "'不能为空")

/-- A text that must not be blank. -/
def requiredText (root : ConfigValue) (key : String) : Except ConfigError String := do
  let text ← (root.get key ConfigValue.asText).mapError .load
  if Text.allBlank text then .error (blankSetting key) else .ok text

/-- The configuration of a consumer in a whole configuration. -/
def load (root : ConfigValue) : Except ConfigError ConsumerConfig := do
  let bootstrap ← requiredText root "bootstrap"
  let group ← requiredText root "group"
  let pollTimeout ←
    (root.getD "poll_timeout" ConfigValue.asNatural defaultPollTimeout).mapError .load
  let subscriptions ← NamedBatching.load root "subscriptions"
  let texts (key : String) := ConfigValue.asEntries key (ConfigValue.asText key)
  let client ← (root.getD "cc" texts []).mapError .load
  pure ⟨bootstrap, group, pollTimeout, subscriptions, client⟩

end ConsumerConfig

end TopicConsumer
