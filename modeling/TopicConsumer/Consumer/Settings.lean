import TopicConsumer.Config.Consumer
import TopicConsumer.Consumer.Error
import TopicConsumer.Subscription.Basic

/-!
# Settings of a consumer

A consumer is made from the address of its cluster, its group, a name for its client, settings that
are passed on to the client as they are, and subscriptions. `validate` finds the first thing that is
wrong with them; `topics` and `subscriptionFor?` say which topics a consumer subscribes to and which
subscription a topic belongs to.
-/

namespace TopicConsumer

/-- By what a consumer is known. -/
structure ConsumerInfo where
  name : String
  group : String
  deriving DecidableEq, Inhabited

/-- What a consumer is made from. -/
structure ConsumerSettings (A : Dialogue) where
  bootstrap : String
  group : String
  clientName : String
  /-- Milliseconds that one poll may take. -/
  pollTimeout : Nat
  /-- Settings of the client that count more than all others. -/
  client : List (String × String)
  named : NamedBatching
  subscriptions : List (Subscription A)

namespace ConsumerSettings

variable {A : Dialogue}

/-- The name of a client that has not been given one. Host and suffix differ from one to the next.
-/
def defaultClientName : String := "<host>-rill@0.1.1-<5 hex>"

/-- Settings without subscriptions. -/
def new (bootstrap group : String) : ConsumerSettings A where
  bootstrap := bootstrap
  group := group
  clientName := defaultClientName
  pollTimeout := ConsumerConfig.defaultPollTimeout
  client := []
  named := .empty
  subscriptions := []

/-- The settings of a configuration, without subscriptions. -/
def ofConfig (c : ConsumerConfig) : ConsumerSettings A :=
  { new c.bootstrap c.group with
    pollTimeout := c.pollTimeout
    client := c.client
    named := c.subscriptions }

/-- Names the client. -/
def withClientName (s : ConsumerSettings A) (name : String) : ConsumerSettings A :=
  { s with clientName := name }

/-- Sets how long one poll may take. -/
def withPollTimeout (s : ConsumerSettings A) (ms : Nat) : ConsumerSettings A :=
  { s with pollTimeout := ms }

/-- Sets a setting of the client. -/
def set (s : ConsumerSettings A) (key value : String) : ConsumerSettings A :=
  { s with client := setEntry key value s.client }

/-- Adds a subscription. -/
def subscribe (s : ConsumerSettings A) (sub : Subscription A) : ConsumerSettings A :=
  { s with subscriptions := s.subscriptions ++ [sub] }

/-- Adds a subscription that is batched as a name says. -/
def subscribeNamed (s : ConsumerSettings A) (name : String) (sub : Subscription A) :
    ConsumerSettings A :=
  s.subscribe (sub.withBatching (s.named.get name))

/-- All topics of all subscriptions, one after the other. -/
def allTopics (s : ConsumerSettings A) : List String := s.subscriptions.flatMap Subscription.topics

/-- The topics, each of them once. -/
def topics (s : ConsumerSettings A) : List String := s.allTopics.eraseDups

/-- The first subscription that lists a topic. -/
def subscriptionFor? (s : ConsumerSettings A) (topic : String) : Option (Subscription A) :=
  s.subscriptions.find? (·.topics.contains topic)

/-- By what the consumer is known. -/
def info (s : ConsumerSettings A) : ConsumerInfo := ⟨s.clientName, s.group⟩

/-- The first fault in topics that follow those already seen. -/
def topicFault? (seen : List String) : List String → Option ConfigError
  | [] => none
  | t :: rest =>
    if Text.allBlank t then some (.invalid "订阅主题不能为空")
    else if seen.contains t then some (.invalid ("主题'" ++ t ++ "'重复订阅"))
    else topicFault? (t :: seen) rest

/-- Finds the first thing that is wrong with the settings. -/
def validate (s : ConsumerSettings A) : Except ConsumerError Unit :=
  if Text.allBlank s.bootstrap then .error (.config (ConsumerConfig.blankSetting "bootstrap"))
  else if Text.allBlank s.group then .error (.config (ConsumerConfig.blankSetting "group"))
  else if s.subscriptions.isEmpty then .error .noSubscription
  else (topicFault? [] s.allTopics).elim (.ok ()) fun e => .error (.config e)

/-- What a client is told where nothing else is said. -/
def clientDefaults : List (String × String) := [
  ("auto.offset.reset", "earliest"),
  ("enable.auto.commit", "true"),
  ("enable.auto.offset.store", "false"),
  ("auto.commit.interval.ms", "2000"),
  ("enable.partition.eof", "true"),
  ("statistics.interval.ms", "0")]

/-- The settings of the client: who it is, the defaults, and what was set, each of which counts more
than what stands before it. -/
def clientConfig (s : ConsumerSettings A) : List (String × String) :=
  let identity :=
    [("bootstrap.servers", s.bootstrap), ("group.id", s.group), ("client.id", s.clientName)]
  entriesOf (identity ++ clientDefaults ++ s.client)

end ConsumerSettings

end TopicConsumer
