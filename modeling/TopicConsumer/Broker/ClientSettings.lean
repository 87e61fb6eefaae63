import TopicConsumer.Broker.ClientError
import TopicConsumer.Broker.PropertyValue
import TopicConsumer.Text.Utf8

/-!
# Settings of a client

A client is made from settings. The library looks at each of them, then at how they go together, and
at last it needs a group if one is named. It says what is wrong in a text of limited length.
-/

namespace TopicConsumer.ClientSettings

/-- The bytes that a text of the library has at most. -/
def longestText : Nat := 511

/-- A text as the library says it. -/
def shortened (text : String) : String := Text.decodeLossy ((Text.encode text).take longestText)

/-! ## One setting -/

/-- The text holds a NUL. -/
def holdsNul (text : String) : Bool := text.toList.contains '\x00'

/-- What the library has against a setting. -/
def complaint? (name value : String) : Option String :=
  match ClientProperty.named? name with
  | some p => p.complaint? value
  | none => some ("No such configuration property: \"" ++ ClientProperty.topicName name ++ "\"")

/-- Why the library does not accept a setting. -/
def refusal? (name value : String) : Option ClientError :=
  if holdsNul name || holdsNul value then some .holdsNul
  else (complaint? name value).map fun text => .setting (shortened text) name value

/-! ## Settings that go together -/

/-- The value that a property is given, whichever of its names is used. -/
def value? (settings : List (String × String)) (property : String) : Option String :=
  settings.findSome? fun (name, value) =>
    if (ClientProperty.named? name).any (·.name == property) then some value else none

/-- The text that a property is given. An empty one counts as none. -/
def text? (settings : List (String × String)) (property : String) : Option String :=
  ((value? settings property).filter (· ≠ "")).map ClientProperty.trimmed

/-- The number that a property is given. -/
def number? (settings : List (String × String)) (property : String) : Option Int :=
  (value? settings property).bind ClientProperty.leadingNumber?

/-- What is wrong with the limits of sizes. As long as it is not set, the limit of a fetch is made
to fit the other ones. -/
def sizeComplaint? (settings : List (String × String)) : Option String :=
  let message := (number? settings "message.max.bytes").getD 1000000
  let queued := (number? settings "queued.max.messages.kbytes").getD 65536 * 1024
  let fetch := (number? settings "fetch.max.bytes").getD (max (min 52428800 queued) message)
  if fetch < message then some "`fetch.max.bytes` must be >= `message.max.bytes`"
  else if (number? settings "receive.message.max.bytes").any (· < fetch + 512) then
    some "`receive.message.max.bytes` must be >= `fetch.max.bytes` + 512"
  else none

/-- What is wrong with the limits of times. -/
def timeComplaint? (settings : List (String × String)) : Option String :=
  let number (name : String) (usual : Int) := (number? settings name).getD usual
  if number "max.poll.interval.ms" 300000 < number "session.timeout.ms" 45000 then
    some "`max.poll.interval.ms`must be >= `session.timeout.ms`"
  else if number "reconnect.backoff.max.ms" 10000 < number "reconnect.backoff.ms" 100 then
    some "`reconnect.backoff.max.ms` must be >= `reconnect.max.ms`"
  else none

/-- The strategies by which a group may share its partitions out. -/
def strategies : List String := ["range", "roundrobin", "cooperative-sticky"]

/-- The strategies that a text lists. Spaces and commas in front of one are skipped, blanks behind
it and one comma after that; what is left then, if anything is, names one more. -/
def strategyNames : Nat → List Char → List String
  | 0, _ | _, [] => []
  | fuel + 1, cs =>
    let (name, rest) := (cs.dropWhile fun c => c == ' ' || c == ',').span (· != ',')
    let name := (name.reverse.dropWhile ClientProperty.isBlank).reverse
    String.ofList name :: strategyNames fuel (rest.drop 1)

/-- What is wrong with the strategies of the group. -/
def strategyComplaint? (settings : List (String × String)) : Option String := do
  let text ← text? settings "partition.assignment.strategy"
  let names := strategyNames text.length text.toList
  match names.find? (!strategies.contains ·) with
  | some name => some ("Unsupported partition.assignment.strategy: " ++ name)
  | none =>
    let cooperative := names.filter (· == "cooperative-sticky")
    if cooperative.isEmpty || cooperative.length == names.length then none
    else some ("All partition.assignment.strategy (" ++ text ++ ") assignors must have the same " ++
      "protocol type, online migration between assignors with different protocol types is not " ++
      "supported")

/-- What is wrong with the way in which the client proves who it is, if it has to. -/
def identityComplaint? (settings : List (String × String)) : Option String := do
  let protocol ← text? settings "security.protocol"
  guard (Text.foldCase protocol = "sasl_plaintext")
  let mechanism := (text? settings "sasl.mechanisms").getD "GSSAPI"
  if mechanism = "PLAIN" then
    guard (!((text? settings "sasl.username").isSome && (text? settings "sasl.password").isSome))
    some "sasl.username and sasl.password must be set"
  else if mechanism = "GSSAPI" ∨ mechanism = "OAUTHBEARER" ∨
      "SCRAM-SHA-".toList.isPrefixOf mechanism.toList then
    some ("No provider for SASL mechanism " ++ mechanism ++ ": recompile librdkafka with " ++
      "libsasl2 or openssl support. Current build options: PLAIN")
  else some ("Unsupported SASL mechanism: " ++ mechanism)

/-- What is wrong with the group. -/
def groupComplaint? (settings : List (String × String)) : Option String :=
  if (settings.lookup "group.id").any (ClientProperty.trimmed · == "") then
    some "rdkafka consumer queue not available"
  else none

/-- Why no client is made from the settings. -/
def refusalOfAll? (settings : List (String × String)) : Option ClientError :=
  (settings.findSome? fun (name, value) => refusal? name value).or
    ((sizeComplaint? settings |>.or (timeComplaint? settings)
      |>.or (strategyComplaint? settings) |>.or (identityComplaint? settings)
      |>.or (groupComplaint? settings)).map fun text => .worded .creation (shortened text))

end TopicConsumer.ClientSettings
