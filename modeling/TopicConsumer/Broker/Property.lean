/-!
# Properties of the client

The settings that the client library knows, for the client itself and for topics, and the values
that each of them takes. Some of them, and some of their values, need other libraries that the
client is built without.
-/

namespace TopicConsumer

namespace ClientProperty

/-- A value that has a name. -/
structure Choice where
  name : String
  /-- Why it cannot be chosen. -/
  missing : Option String := none

/-- A value that can be chosen. -/
def Choice.ofName (name : String) : Choice := ⟨name, none⟩

/-- The values that a property takes. -/
inductive Values where
  | text
  /-- A text without commas and blanks. -/
  | word
  | oneOf (texts : List String)
  /-- The version of a broker. -/
  | version
  | flag
  /-- A number in a range. Some numbers have a name. -/
  | number (least greatest : Int) (names : List (String × Int))
  | decimal (least greatest : Nat)
  | choice (choices : List Choice)
  /-- Names between commas. -/
  | flags (names : List String)
  /-- What only a program can set. -/
  | code
  /-- What cannot be set. -/
  | internal

end ClientProperty

/-- A property of the client. -/
structure ClientProperty where
  name : String
  values : ClientProperty.Values
  /-- Why it cannot be set, whatever its values are. -/
  missing : Option String

namespace ClientProperty

def of (name : String) (values : Values) : ClientProperty := ⟨name, values, none⟩
def text (name : String) : ClientProperty := of name .text
def flag (name : String) : ClientProperty := of name .flag
def code (name : String) : ClientProperty := of name .code
def number (name : String) (least greatest : Int) : ClientProperty :=
  of name (.number least greatest [])
def choice (name : String) (names : List String) : ClientProperty :=
  of name (.choice (names.map .ofName))

/-- The property where it cannot be set. -/
def without (p : ClientProperty) (reason : String) : ClientProperty :=
  { p with missing := some reason }

/-! ## What is missing -/

def noTls : String := "OpenSSL not available at build time"
def noTls102 : String := "OpenSSL >= 1.0.2 not available at build time"
def noTls3 : String := "OpenSSL >= 3.0.0 not available at build time"
def noEngine : String := "OpenSSL >= 1.1.x not available at build time"
def noIdentity : String :=
  "OAuth/OIDC depends on libcurl and OpenSSL which were not available at build time"
def noZstd : String := "libzstd not available at build time"

/-! ## The properties -/

/-- Settings of the client. -/
def ofClient : List ClientProperty := [
  of "builtin.features" (.flags [
    "gzip", "snappy", "ssl", "sasl", "regex", "lz4", "sasl_gssapi", "sasl_plain",
    "sasl_scram", "plugins", "zstd", "sasl_oauthbearer", "http", "oidc"]),
  text "client.id",
  text "client.software.name",
  text "client.software.version",
  text "metadata.broker.list",
  number "message.max.bytes" 1000 1000000000,
  number "message.copy.max.bytes" 0 1000000000,
  number "receive.message.max.bytes" 1000 2147483647,
  number "max.in.flight.requests.per.connection" 1 1000000,
  choice "metadata.recovery.strategy" ["none", "rebootstrap"],
  number "metadata.recovery.rebootstrap.trigger.ms" 0 2147483647,
  number "topic.metadata.refresh.interval.ms" (-1) 3600000,
  number "metadata.max.age.ms" 1 86400000,
  number "topic.metadata.refresh.fast.interval.ms" 1 60000,
  number "topic.metadata.refresh.fast.cnt" 0 1000,
  flag "topic.metadata.refresh.sparse",
  number "topic.metadata.propagation.max.ms" 0 3600000,
  text "topic.blacklist",
  of "debug" (.flags [
    "generic", "broker", "topic", "metadata", "feature", "queue", "msg", "protocol", "cgrp",
    "security", "fetch", "interceptor", "plugin", "consumer", "admin", "eos", "mock",
    "assignor", "conf", "telemetry", "all"]),
  number "socket.timeout.ms" 10 300000,
  number "socket.blocking.max.ms" 1 60000,
  number "socket.send.buffer.bytes" 0 100000000,
  number "socket.receive.buffer.bytes" 0 100000000,
  flag "socket.keepalive.enable",
  flag "socket.nagle.disable",
  number "socket.max.fails" 0 1000000,
  number "broker.address.ttl" 0 86400000,
  choice "broker.address.family" ["any", "v4", "v6"],
  number "socket.connection.setup.timeout.ms" 1000 2147483647,
  number "connections.max.idle.ms" 0 2147483647,
  flag "enable.sparse.connections",
  number "reconnect.backoff.jitter.ms" 0 3600000,
  number "reconnect.backoff.ms" 0 3600000,
  number "reconnect.backoff.max.ms" 0 3600000,
  number "statistics.interval.ms" 0 86400000,
  number "enabled_events" 0 2147483647,
  code "error_cb",
  code "throttle_cb",
  code "stats_cb",
  code "log_cb",
  number "log_level" 0 7,
  flag "log.queue",
  flag "log.thread.name",
  flag "enable.random.seed",
  flag "log.connection.close",
  code "background_event_cb",
  code "socket_cb",
  code "connect_cb",
  code "closesocket_cb",
  code "open_cb",
  code "resolve_cb",
  code "opaque",
  code "default_topic_conf",
  number "internal.termination.signal" 0 128,
  flag "api.version.request",
  number "api.version.request.timeout.ms" 1 300000,
  number "api.version.fallback.ms" 0 604800000,
  of "broker.version.fallback" .version,
  flag "allow.auto.create.topics",
  of "security.protocol" (.choice [
    .ofName "plaintext", ⟨"ssl", some noTls⟩, .ofName "sasl_plaintext",
    ⟨"sasl_ssl", some noTls⟩]),
  (text "ssl.cipher.suites").without noTls,
  (text "ssl.curves.list").without noTls102,
  (text "ssl.sigalgs.list").without noTls102,
  (text "ssl.key.location").without noTls,
  (text "ssl.key.password").without noTls,
  (text "ssl.key.pem").without noTls,
  (of "ssl_key" .internal).without noTls,
  (text "ssl.certificate.location").without noTls,
  (text "ssl.certificate.pem").without noTls,
  (of "ssl_certificate" .internal).without noTls,
  (text "ssl.ca.location").without noTls,
  (text "https.ca.location").without noIdentity,
  (text "https.ca.pem").without noIdentity,
  (text "ssl.ca.pem").without noTls,
  (of "ssl_ca" .internal).without noTls,
  (text "ssl.ca.certificate.stores").without noTls,
  (text "ssl.crl.location").without noTls,
  (text "ssl.keystore.location").without noTls,
  (text "ssl.keystore.password").without noTls,
  (text "ssl.providers").without noTls3,
  (text "ssl.engine.location").without noEngine,
  (text "ssl.engine.id").without noEngine,
  (code "ssl_engine_callback_data").without noEngine,
  (flag "enable.ssl.certificate.verification").without noTls,
  (choice "ssl.endpoint.identification.algorithm" ["none", "https"]).without noTls102,
  (code "ssl.certificate.verify_cb").without noTls,
  of "sasl.mechanisms" .word,
  text "sasl.kerberos.service.name",
  text "sasl.kerberos.principal",
  text "sasl.kerberos.kinit.cmd",
  text "sasl.kerberos.keytab",
  number "sasl.kerberos.min.time.before.relogin" 0 86400000,
  text "sasl.username",
  text "sasl.password",
  (text "sasl.oauthbearer.config").without noTls,
  (flag "enable.sasl.oauthbearer.unsecure.jwt").without noTls,
  (code "oauthbearer_token_refresh_cb").without noTls,
  (choice "sasl.oauthbearer.method" ["default", "oidc"]).without noIdentity,
  (text "sasl.oauthbearer.client.id").without noIdentity,
  (text "sasl.oauthbearer.client.secret").without noIdentity,
  (text "sasl.oauthbearer.scope").without noIdentity,
  (text "sasl.oauthbearer.extensions").without noIdentity,
  (text "sasl.oauthbearer.token.endpoint.url").without noIdentity,
  text "plugin.library.paths",
  of "interceptors" .internal,
  number "test.mock.num.brokers" 0 10000,
  number "test.mock.broker.rtt" 0 3600000,
  text "group.id",
  text "group.instance.id",
  text "partition.assignment.strategy",
  number "session.timeout.ms" 1 3600000,
  number "heartbeat.interval.ms" 1 3600000,
  text "group.protocol.type",
  choice "group.protocol" ["classic", "consumer"],
  text "group.remote.assignor",
  number "coordinator.query.interval.ms" 1 3600000,
  number "max.poll.interval.ms" 1 86400000,
  flag "enable.auto.commit",
  number "auto.commit.interval.ms" 0 86400000,
  flag "enable.auto.offset.store",
  number "queued.min.messages" 1 10000000,
  number "queued.max.messages.kbytes" 1 2097151,
  number "fetch.wait.max.ms" 0 300000,
  number "fetch.queue.backoff.ms" 0 300000,
  number "fetch.message.max.bytes" 1 1000000000,
  number "fetch.max.bytes" 0 2147483135,
  number "fetch.min.bytes" 1 100000000,
  number "fetch.error.backoff.ms" 0 300000,
  choice "offset.store.method" ["none", "file", "broker"],
  choice "isolation.level" ["read_uncommitted", "read_committed"],
  code "consume_cb",
  code "rebalance_cb",
  code "offset_commit_cb",
  flag "enable.partition.eof",
  flag "check.crcs",
  text "client.rack",
  text "transactional.id",
  number "transaction.timeout.ms" 1000 2147483647,
  flag "enable.idempotence",
  flag "enable.gapless.guarantee",
  number "queue.buffering.max.messages" 0 2147483647,
  number "queue.buffering.max.kbytes" 1 2147483647,
  of "queue.buffering.max.ms" (.decimal 0 900000),
  number "message.send.max.retries" 0 2147483647,
  number "retry.backoff.ms" 1 300000,
  number "retry.backoff.max.ms" 1 300000,
  number "queue.buffering.backpressure.threshold" 1 1000000,
  of "compression.codec" (.choice [
    .ofName "none", .ofName "gzip", .ofName "snappy", .ofName "lz4", ⟨"zstd", some noZstd⟩]),
  number "batch.num.messages" 1 1000000,
  number "batch.size" 1 2147483647,
  flag "delivery.report.only.error",
  code "dr_cb",
  code "dr_msg_cb",
  number "sticky.partitioning.linger.ms" 0 900000,
  choice "client.dns.lookup" ["use_all_dns_ips", "resolve_canonical_bootstrap_servers_only"],
  flag "enable.metrics.push"]

/-- Other names of settings of the client. -/
def clientAliases : List (String × String) := [
  ("bootstrap.servers", "metadata.broker.list"),
  ("max.in.flight", "max.in.flight.requests.per.connection"),
  ("sasl.mechanism", "sasl.mechanisms"), ("max.partition.fetch.bytes", "fetch.message.max.bytes"),
  ("linger.ms", "queue.buffering.max.ms"), ("retries", "message.send.max.retries"),
  ("compression.type", "compression.codec")]

/-- Settings of topics. -/
def ofTopics : List ClientProperty := [
  of "request.required.acks" (.number (-1) 1000 [("all", -1)]),
  number "request.timeout.ms" 1 900000,
  number "message.timeout.ms" 0 2147483647,
  choice "queuing.strategy" ["fifo", "lifo"],
  flag "produce.offset.report",
  of "partitioner" (.oneOf [
    "random", "consistent", "consistent_random", "murmur2", "murmur2_random", "fnv1a",
    "fnv1a_random"]),
  code "partitioner_cb",
  code "msg_order_cmp",
  code "opaque",
  of "compression.codec" (.choice [
    .ofName "none", .ofName "gzip", .ofName "snappy", .ofName "lz4", ⟨"zstd", some noZstd⟩,
    .ofName "inherit"]),
  number "compression.level" (-1) 12,
  flag "auto.commit.enable",
  number "auto.commit.interval.ms" 10 86400000,
  choice "auto.offset.reset" [
    "smallest", "earliest", "beginning", "largest", "latest", "end", "error"],
  text "offset.store.path",
  number "offset.store.sync.interval.ms" (-1) 86400000,
  choice "offset.store.method" ["file", "broker"],
  number "consume.callback.max.messages" 0 1000000]

/-- Other names of settings of topics. -/
def topicAliases : List (String × String) := [
  ("acks", "request.required.acks"), ("delivery.timeout.ms", "message.timeout.ms"),
  ("compression.type", "compression.codec"), ("enable.auto.commit", "auto.commit.enable")]

/-- The property of a name, or of another one for it. -/
def find? (properties : List ClientProperty) (aliases : List (String × String)) (name : String) :
    Option ClientProperty :=
  properties.find? fun p => p.name == (aliases.lookup name).getD name

/-- The name of a setting of topics, which may be marked as one. -/
def topicName (name : String) : String :=
  let mark := "topic.".toList
  if mark.isPrefixOf name.toList then String.ofList (name.toList.drop mark.length) else name

/-- The property of a name. A setting of the client comes before one of topics. -/
def named? (name : String) : Option ClientProperty :=
  (find? ofClient clientAliases name).or (find? ofTopics topicAliases (topicName name))

end ClientProperty

end TopicConsumer
