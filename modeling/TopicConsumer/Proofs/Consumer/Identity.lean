import TopicConsumer.Broker.Client
import TopicConsumer.Proofs.Consumer.Validation

/-!
# Who the client of a consumer is

Settings are built by calls, one after the other. Some of them name the client, others set a
property of the client as it is. A property that is set so counts more than what the settings say
elsewhere, also where it is the name of the client, its group, or the address of its cluster:
`ConsumerSettings.after_identified` tells when the client is the one that the settings speak of.
-/

namespace TopicConsumer

namespace ConsumerSettings

variable {A : Dialogue}

/-! ## Building settings -/

/-- A call by which settings are built. -/
inductive BuildingCall (A : Dialogue) where
  | clientName (name : String)
  | pollTimeout (ms : Nat)
  | set (key value : String)
  | subscribe (sub : Subscription A)
  | subscribeNamed (name : String) (sub : Subscription A)

namespace BuildingCall

/-- The name that the call gives to the client. -/
def clientName? : BuildingCall A → Option String
  | clientName name => some name
  | _ => none

/-- What the call sets a property to. -/
def property? (key : String) : BuildingCall A → Option String
  | set k value => if key = k then some value else none
  | _ => none

end BuildingCall

/-- The settings after one more call. -/
def perform (s : ConsumerSettings A) : BuildingCall A → ConsumerSettings A
  | .clientName name => s.withClientName name
  | .pollTimeout ms => s.withPollTimeout ms
  | .set key value => s.set key value
  | .subscribe sub => s.subscribe sub
  | .subscribeNamed name sub => s.subscribeNamed name sub

/-- The settings after some calls. -/
def after (s : ConsumerSettings A) (calls : List (BuildingCall A)) : ConsumerSettings A :=
  calls.foldl perform s

/-- What was set last for a property of the client: by a call, or else from the beginning. -/
def property? (start : ConsumerSettings A) (calls : List (BuildingCall A)) (key : String) :
    Option String :=
  (calls.reverse.findSome? (·.property? key)).or (start.client.lookup key)

section Calls

variable (s : ConsumerSettings A) (call : BuildingCall A) (calls : List (BuildingCall A))

@[simp] theorem after_nil : s.after [] = s := rfl

@[simp] theorem after_cons : s.after (call :: calls) = (s.perform call).after calls := rfl

/-- No call changes the address, the group, or what the names stand for. -/
theorem after_kept : (s.after calls).bootstrap = s.bootstrap ∧ (s.after calls).group = s.group ∧
    (s.after calls).named = s.named := by
  induction calls generalizing s with
  | nil => exact ⟨rfl, rfl, rfl⟩
  | cons call calls ih =>
    rw [after_cons]
    cases call <;> exact ih _

/-- The client has the name that it was given last. -/
theorem clientName_after : (s.after calls).clientName =
    (calls.reverse.findSome? BuildingCall.clientName?).getD s.clientName := by
  induction calls generalizing s with
  | nil => rfl
  | cons call calls ih =>
    rw [after_cons, ih, List.reverse_cons, List.findSome?_append]
    cases calls.reverse.findSome? BuildingCall.clientName? with
    | some name => rfl
    | none => cases call <;> rfl

theorem lookup_client_after (key : String) :
    (s.after calls).client.lookup key = s.property? calls key := by
  induction calls generalizing s with
  | nil => rfl
  | cons call calls ih =>
    rw [after_cons, ih, property?, property?, List.reverse_cons, List.findSome?_append,
      Option.or_assoc]
    congr 1
    cases call with
    | set k value =>
      by_cases same : key = k
      · subst same
        simpa [perform, set, BuildingCall.property?] using lookup_setEntry_self key value s.client
      · simpa [perform, set, BuildingCall.property?, same] using
          lookup_setEntry_of_ne same value s.client
    | _ => rfl

/-- No property comes to be set twice. -/
theorem nodup_client_after (distinct : (s.client.map Prod.fst).Nodup) :
    ((s.after calls).client.map Prod.fst).Nodup := by
  induction calls generalizing s with
  | nil => exact distinct
  | cons call calls ih =>
    rw [after_cons]
    refine ih _ ?_
    cases call with
    | set k value => exact nodup_setEntry distinct
    | _ => exact distinct

end Calls

/-! ## The settings of the client -/

/-- What was set for a property counts more than everything else. -/
theorem lookup_clientConfig (s : ConsumerSettings A) (distinct : (s.client.map Prod.fst).Nodup)
    (key : String) : s.clientConfig.lookup key = (s.client.lookup key).or
      (([("bootstrap.servers", s.bootstrap), ("group.id", s.group), ("client.id", s.clientName)] ++
        clientDefaults).reverse.lookup key) := by
  rw [clientConfig, lookup_entriesOf, List.reverse_append, List.lookup_append,
    lookup_reverse distinct]

/-- No default is about who the client is. -/
theorem lookup_identity (s : ConsumerSettings A) (distinct : (s.client.map Prod.fst).Nodup) :
    s.clientConfig.lookup "bootstrap.servers" =
        (s.client.lookup "bootstrap.servers").or (some s.bootstrap) ∧
      s.clientConfig.lookup "group.id" = (s.client.lookup "group.id").or (some s.group) ∧
      s.clientConfig.lookup "client.id" = (s.client.lookup "client.id").or (some s.clientName) := by
  simp [lookup_clientConfig s distinct, clientDefaults, List.lookup_cons]

/-- The client made from settings has the name that they give under `client.id`. -/
theorem lookup_name_of_create {s : ConsumerSettings A} {client : OfflineClient}
    (created : OfflineClient.create s.clientConfig = .ok client) :
    client.name = (s.clientConfig.lookup "client.id").getD "rill" := by
  have same : client.settings = entriesOf s.clientConfig := by
    simp only [OfflineClient.create] at created
    split at created
    · cases created
    · cases created
      rfl
  have distinct : (s.clientConfig.map Prod.fst).Nodup := nodup_entriesOf _
  rw [OfflineClient.name, OfflineClient.setting?, same, lookup_entriesOf, lookup_reverse distinct]

/-- Who the client is of settings that begin like this and are built by these calls. -/
structure Identified (start : ConsumerSettings A) (calls : List (BuildingCall A))
    (s : ConsumerSettings A) : Prop where
  info : s.info =
    ⟨(calls.reverse.findSome? BuildingCall.clientName?).getD start.clientName, start.group⟩
  /-- What was set last for a property is passed on to the client as it is. -/
  passed : ∀ key value, start.property? calls key = some value →
    s.clientConfig.lookup key = some value
  /-- The client has the name and the group by which the consumer is known, unless it was told
  another one. -/
  name : s.clientConfig.lookup "client.id" = some s.info.name ↔
    ∀ value, start.property? calls "client.id" = some value → value = s.info.name
  group : s.clientConfig.lookup "group.id" = some s.info.group ↔
    ∀ value, start.property? calls "group.id" = some value → value = s.info.group
  /-- The client is called what its settings call it. -/
  broker : ∀ client, OfflineClient.create s.clientConfig = .ok client →
    s.clientConfig.lookup "client.id" = some client.name
  /-- If the settings are accepted, the client has an address and a group that are not blank, unless
  it was told a blank one. -/
  present : s.validate = .ok () → ∀ key ∈ ["bootstrap.servers", "group.id"],
    (∃ value, s.clientConfig.lookup key = some value ∧ Text.trim value ≠ "") ↔
      ∀ value, start.property? calls key = some value → Text.trim value ≠ ""

/-- A value that is set, or else one that has the property, has the property just if no value is set
that does not have it. -/
theorem exists_or_iff {set? : Option String} {own : String} {P : String → Prop} (holds : P own) :
    (∃ value, set?.or (some own) = some value ∧ P value) ↔
      ∀ value, set? = some value → P value := by
  cases set? <;> simp [holds]

theorem after_identified (start : ConsumerSettings A)
    (distinct : (start.client.map Prod.fst).Nodup) (calls : List (BuildingCall A)) :
    Identified start calls (start.after calls) := by
  obtain ⟨bootstrap, group, -⟩ := start.after_kept calls
  have unique := start.nodup_client_after calls distinct
  obtain ⟨servers, groupId, clientId⟩ := (start.after calls).lookup_identity unique
  simp only [start.lookup_client_after calls] at servers groupId clientId
  constructor
  case info => rw [info, group, start.clientName_after calls]
  case passed =>
    intro key value set
    rw [lookup_clientConfig _ unique, start.lookup_client_after calls, set]
    rfl
  case name =>
    rw [clientId, ← exists_or_iff (P := (· = (start.after calls).info.name)) rfl, exists_eq_right]
    rfl
  case group =>
    rw [groupId, ← exists_or_iff (P := (· = (start.after calls).info.group)) rfl, exists_eq_right]
    rfl
  case broker =>
    intro client created
    rw [lookup_name_of_create created, clientId]
    cases start.property? calls "client.id" <;> rfl
  case present =>
    intro valid key mem
    have sound := validate_eq_ok_iff.mp valid
    rcases List.mem_cons.mp mem with rfl | mem
    · rw [servers]
      exact exists_or_iff sound.bootstrap
    · rw [List.mem_singleton.mp mem, groupId]
      exact exists_or_iff sound.group

/-- An application that asks nothing, and a handler that does nothing. -/
def idly (topics : List String) : Subscription ⟨Empty, nofun⟩ where
  topics := topics
  handler := fun _ => .done (.ok ())

/-- A configuration that sets two properties of the client, one of which is its name. -/
def configured : ConsumerConfig where
  bootstrap := "localhost:9092"
  group := "orders"
  pollTimeout := 100
  subscriptions := .empty
  client := [("client.id", "svc-1"), ("fetch.min.bytes", "1")]

/-- The client is given the name that it has been told anyway. -/
theorem configured_identified :
    let calls := [.set "fetch.min.bytes" "2", .clientName "svc-1", .subscribe (idly ["orders"])]
    let settings := (ofConfig configured).after calls
    ((ofConfig configured : ConsumerSettings ⟨Empty, nofun⟩).client.map Prod.fst).Nodup ∧
      settings.validate = .ok () ∧ Identified (ofConfig configured) calls settings ∧
      settings.info = ⟨"svc-1", "orders"⟩ ∧
      settings.clientConfig.lookup "client.id" = some "svc-1" ∧
      settings.clientConfig.lookup "fetch.min.bytes" = some "2" := by
  intro calls settings
  have distinct :
      ((ofConfig configured : ConsumerSettings ⟨Empty, nofun⟩).client.map Prod.fst).Nodup := by
    decide +kernel
  have identified := after_identified (ofConfig configured) distinct calls
  have valid : settings.validate = .ok () := by decide +kernel
  refine ⟨distinct, valid, identified, ?_⟩
  decide +kernel

/-- Accepted settings may speak of one client and group and make a client of another name, in
another group and with a blank address: what was set for these properties counts more. -/
theorem exists_misnamed :
    ∃ calls : List (BuildingCall ⟨Empty, nofun⟩),
      let settings := (new "localhost:9092" "orders").after calls
      settings.validate = .ok () ∧ settings.info = ⟨"svc-1", "orders"⟩ ∧
        settings.clientConfig.lookup "client.id" = some "svc-2" ∧
        (OfflineClient.create settings.clientConfig).map OfflineClient.name = .ok "svc-2" ∧
        settings.clientConfig.lookup "group.id" = some "billing" ∧
        settings.clientConfig.lookup "bootstrap.servers" = some "" := by
  refine ⟨[.set "client.id" "svc-2", .clientName "svc-1", .set "group.id" "billing",
    .set "bootstrap.servers" "", .subscribe (idly ["orders"])], ?_⟩
  decide +kernel

end ConsumerSettings

end TopicConsumer
