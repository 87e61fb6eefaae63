import TopicConsumer.Config.Path
import TopicConsumer.Subscription.BatchSettings
import TopicConsumer.Text.Fold
import TopicConsumer.Text.Quoted

/-!
# Reading settings out of a configuration

Texts and numbers are taken in a generous way: a number serves as a text, and words for true and
false, numerals and fractions serve as whole numbers. Tables are not. An error names the key that
was looked up, also where the value at fault lies further below.
-/

namespace TopicConsumer

namespace Scalar

/-- A plain value as it is named where another plain value was expected. -/
def found : Scalar → String
  | .null => "unit value"
  | .bool b => "boolean `" ++ toString b ++ "`"
  | .integer n => "64-bit integer `" ++ toString n ++ "`"
  | .natural n => "64-bit unsigned integer `" ++ toString n ++ "`"
  | .float x => "floating point `" ++ x.text ++ "`"
  | .text s => "string " ++ Text.quoted s

/-- A plain value as it is named where something else than a plain value was expected. -/
def foundPlain : Scalar → String
  | .integer n => "integer `" ++ toString n ++ "`"
  | .natural n => "integer `" ++ toString n ++ "`"
  | .float x =>
    let text := x.text
    let isMarked := text.toList.contains '.' || !x.isFinite
    "floating point `" ++ (if isMarked then text else text ++ ".0") ++ "`"
  | other => other.found

/-- The text of a plain value. -/
def asText? : Scalar → Option String
  | .null => none
  | .bool b => some (toString b)
  | .integer n => some (toString n)
  | .natural n => some (toString n)
  | .float x => some x.text
  | .text s => some s

/-- The greatest natural number in 64 bits. -/
def greatestNatural : Nat := Nat.pow 2 64 - 1

/-- The natural number that a text stands for. -/
def naturalOfText? (s : String) : Option Nat :=
  match Text.foldCase s with
  | "true" | "on" | "yes" => some 1
  | "false" | "off" | "no" => some 0
  | _ => (Text.NumeralRange.nat64.read? s).map Int.toNat

end Scalar

namespace ConfigValue

/-- The value as it is named where a plain value was expected. -/
def found : ConfigValue → String
  | .leaf _ s => s.found
  | .list .. => "sequence"
  | .table .. => "map"

/-- The value as it is named where something else than a plain value was expected. -/
def foundPlain : ConfigValue → String
  | .leaf _ s => s.foundPlain
  | v => v.found

/-- The error that a value looked up under `key` is not what was expected. -/
def mistyped {α : Type} (key expected : String) (v : ConfigValue) : Except LoadError α :=
  .error (.mistyped v.found expected key v.origin)

/-- The value as text. -/
def asText (key : String) (v : ConfigValue) : Except LoadError String :=
  match v with
  | .leaf _ s => s.asText?.elim (mistyped key "a string" v) .ok
  | _ => mistyped key "a string" v

/-- The value as a natural number in 64 bits. Fractions are rounded, and what is out of range stands
for the end of the range, except for whole numbers. -/
def asNatural (key : String) (v : ConfigValue) : Except LoadError Nat :=
  match v with
  | .leaf _ (.bool b) => .ok b.toNat
  | .leaf _ (.integer n) =>
    if 0 ≤ n then .ok n.toNat else mistyped key "an unsigned 64 bit or less integer" v
  | .leaf _ (.natural n) => .ok n
  | .leaf _ (.float x) => .ok (x.toNat Scalar.greatestNatural)
  | .leaf _ (.text s) => (Scalar.naturalOfText? s).elim (mistyped key "an integer" v) .ok
  | _ => mistyped key "an integer" v

/-- The value as a table, every entry of which is read by `read`. -/
def asEntries {α : Type} (key : String) (read : ConfigValue → Except LoadError α) :
    ConfigValue → Except LoadError (List (String × α))
  | .table _ entries => entries.mapM fun (name, v) => (read v).map (name, ·)
  | v => .error (.misshaped v.foundPlain "a map" key)

/-- The value that a key leads to. -/
def lookUp (root : ConfigValue) (key : String) : Except LoadError ConfigValue :=
  match ConfigPath.ofText? key with
  | none => .error .unreadablePath
  | some path => (path.get? root).elim (.error (.notFound key)) .ok

/-- The value that a key leads to, read by `read`. -/
def get {α : Type} (root : ConfigValue) (key : String)
    (read : String → ConfigValue → Except LoadError α) : Except LoadError α :=
  root.lookUp key >>= read key

/-- The value that a key leads to, and a default if nothing stands there. -/
def getD {α : Type} (root : ConfigValue) (key : String)
    (read : String → ConfigValue → Except LoadError α) (default : α) : Except LoadError α :=
  match root.get key read with
  | .error (.notFound _) => .ok default
  | other => other

end ConfigValue

namespace BatchSettings

/-- The settings that a value states: a table of fields, or a list of their values in order. What is
not stated has its default. -/
def ofValue (key : String) (v : ConfigValue) : Except LoadError BatchSettings :=
  match v with
  | .table _ entries => fields fun name _ => entries.lookup name
  | .list _ items => fields fun _ place => items[place]?
  | .leaf _ s => .error (.misshaped s.foundPlain "struct SubscribeConfig" key)
where
  /-- The settings whose fields are found by name and place. -/
  fields (find : String → Nat → Option ConfigValue) : Except LoadError BatchSettings := do
    let field (name : String) (place default : Nat) : Except LoadError Nat :=
      (find name place).elim (.ok default) (ConfigValue.asNatural key)
    let defaults : BatchSettings := {}
    return {
      batchSize := ← field "batch_size" 0 defaults.batchSize
      batchTimeout := ← field "batch_timeout" 1 defaults.batchTimeout
      queueCapacity := ← field "queue_capacity" 2 defaults.queueCapacity
      stopTimeout := ← field "stop_timeout" 3 defaults.stopTimeout
      maxRetryDelay := ← field "max_retry_delay" 4 defaults.maxRetryDelay }

end BatchSettings

end TopicConsumer
