import Mathlib.Data.List.Nodup
import TopicConsumer.Consumer.Basic

/-!
# Which settings are accepted

Settings name a cluster and a group, they have subscriptions, and these list topics, none of which
is blank and none of which is listed twice. `ConsumerSettings.Sound` says this, and
`ConsumerSettings.Fault` says which error is reported where it does not hold: the topics are scanned
in the order of the subscriptions, and the first one counts that is blank or was listed before.

Where settings are accepted, the topics are those of all subscriptions one after the other, and
each of them leads to the one subscription that lists it (`ConsumerSettings.Routes`).
-/

namespace TopicConsumer.ConsumerSettings

variable {A : Dialogue} {settings : ConsumerSettings A}

/-! ## The scan of the topics -/

/-- No topic is blank, and none is listed twice. -/
structure Listable (topics : List String) : Prop where
  present : ∀ t ∈ topics, Text.trim t ≠ ""
  distinct : topics.Nodup

/-- The first topic that is blank or was listed before, and what is said of it. -/
inductive TopicFault (topics : List String) : ConfigError → Prop
  | blank {before after : List String} {t : String} (split : topics = before ++ t :: after)
      (fine : Listable before) (blank : Text.trim t = "") :
      TopicFault topics (.invalid "订阅主题不能为空")
  | again {before after : List String} {t : String} (split : topics = before ++ t :: after)
      (fine : Listable before) (present : Text.trim t ≠ "") (listed : t ∈ before) :
      TopicFault topics (.invalid ("主题'" ++ t ++ "'重复订阅"))

section Scan

variable {seen before topics : List String} {e : ConfigError}

theorem topicFault?_eq_none_iff :
    topicFault? seen topics = none ↔ Listable topics ∧ ∀ t ∈ topics, t ∉ seen := by
  induction topics generalizing seen with
  | nil => simpa [topicFault?] using Listable.mk (by simp) List.nodup_nil
  | cons t topics ih =>
    rw [topicFault?]
    split
    · next blank =>
      refine iff_of_false nofun fun ⟨listable, _⟩ => ?_
      exact listable.present t List.mem_cons_self ((Text.trim_eq_empty_iff t).mpr blank)
    · next present =>
      rw [← Text.trim_eq_empty_iff] at present
      split
      · next listed =>
        refine iff_of_false nofun fun ⟨_, new⟩ => ?_
        exact new t List.mem_cons_self (List.contains_iff_mem.mp listed)
      · next new =>
        rw [List.contains_iff_mem] at new
        rw [ih]
        constructor
        · rintro ⟨⟨present', distinct⟩, apart⟩
          refine ⟨⟨List.forall_mem_cons.mpr ⟨present, present'⟩, ?_⟩, ?_⟩
          · exact List.nodup_cons.mpr ⟨fun mem => apart t mem List.mem_cons_self, distinct⟩
          · exact List.forall_mem_cons.mpr
              ⟨new, fun u mem old => apart u mem (List.mem_cons_of_mem t old)⟩
        · rintro ⟨⟨present', distinct⟩, apart⟩
          obtain ⟨first, distinct⟩ := List.nodup_cons.mp distinct
          refine ⟨⟨(List.forall_mem_cons.mp present').2, distinct⟩, fun u mem old => ?_⟩
          rcases List.mem_cons.mp old with rfl | old
          · exact first mem
          · exact apart u (List.mem_cons_of_mem t mem) old

/-- Topics without a fault are passed over. -/
theorem topicFault?_append (fine : topicFault? seen before = none) (rest : List String) :
    topicFault? seen (before ++ rest) = topicFault? (before.reverse ++ seen) rest := by
  induction before generalizing seen with
  | nil => rfl
  | cons t before ih =>
    rw [topicFault?] at fine
    rw [List.cons_append, topicFault?]
    split at fine
    · cases fine
    · split at fine
      · cases fine
      · next present new =>
        rw [if_neg present, if_neg new, ih fine, List.reverse_cons, List.append_assoc]
        rfl

/-- Where there is a fault, there is a first topic at fault. -/
theorem exists_split_of_topicFault? (fault : topicFault? seen topics = some e) :
    ∃ before t after, topics = before ++ t :: after ∧ topicFault? seen before = none ∧
      topicFault? (before.reverse ++ seen) [t] = some e := by
  induction topics generalizing seen with
  | nil => cases fault
  | cons t topics ih =>
    cases first : topicFault? seen [t] with
    | some e' =>
      have same : topicFault? seen (t :: topics) = some e' := by
        rw [topicFault?] at first ⊢
        split at first <;> simp_all [topicFault?]
      exact ⟨[], t, topics, rfl, rfl, first.trans (same.symm.trans fault)⟩
    | none =>
      have rest := topicFault?_append first topics
      rw [List.singleton_append, fault] at rest
      obtain ⟨before, u, after, rfl, fine, last⟩ := ih rest.symm
      refine ⟨t :: before, u, after, rfl, ?_, ?_⟩
      · exact (topicFault?_append first before).trans fine
      · simpa using last

theorem topicFault?_eq_some_iff : topicFault? [] topics = some e ↔ TopicFault topics e := by
  have single : ∀ (t : String) {before : List String}, topicFault? (before.reverse ++ []) [t] =
      if Text.trim t = "" then some (.invalid "订阅主题不能为空")
      else if t ∈ before then some (.invalid ("主题'" ++ t ++ "'重复订阅")) else none := by
    intro t before
    simp [topicFault?, Text.trim_eq_empty_iff]
  constructor
  · intro fault
    obtain ⟨before, t, after, split, fine, last⟩ := exists_split_of_topicFault? fault
    have fine := (topicFault?_eq_none_iff.mp fine).1
    rw [single] at last
    split at last
    · next blank =>
      cases last
      exact .blank split fine blank
    · next present =>
      split at last
      · next listed =>
        cases last
        exact .again split fine present listed
      · cases last
  · intro fault
    have pass : ∀ {before : List String} (rest : List String), Listable before →
        topicFault? [] (before ++ rest) = topicFault? (before.reverse ++ []) rest :=
      fun rest fine => topicFault?_append (topicFault?_eq_none_iff.mpr ⟨fine, by simp⟩) rest
    cases fault with
    | @blank before after t split fine blank =>
      rw [split, pass _ fine, topicFault?, if_pos ((Text.trim_eq_empty_iff t).mp blank)]
    | @again before after t split fine present listed =>
      rw [split, pass _ fine, topicFault?, if_neg (fun blank => present
        ((Text.trim_eq_empty_iff t).mpr blank)), if_pos (by simpa using listed)]

end Scan

/-! ## Accepted and refused settings -/

/-- Nothing is wrong with the settings. -/
structure Sound (settings : ConsumerSettings A) : Prop where
  bootstrap : Text.trim settings.bootstrap ≠ ""
  group : Text.trim settings.group ≠ ""
  subscribed : settings.subscriptions ≠ []
  topics : Listable (settings.subscriptions.map Subscription.topics).flatten

/-- What is wrong first with the settings, and how this is reported. -/
inductive Fault (settings : ConsumerSettings A) : ConsumerError → Prop
  | bootstrap (blank : Text.trim settings.bootstrap = "") :
      Fault settings (.config (.invalid "'bootstrap'不能为空"))
  | group (bootstrap : Text.trim settings.bootstrap ≠ "") (blank : Text.trim settings.group = "") :
      Fault settings (.config (.invalid "'group'不能为空"))
  | unsubscribed (bootstrap : Text.trim settings.bootstrap ≠ "")
      (group : Text.trim settings.group ≠ "") (none : settings.subscriptions = []) :
      Fault settings .noSubscription
  | topic {e : ConfigError} (bootstrap : Text.trim settings.bootstrap ≠ "")
      (group : Text.trim settings.group ≠ "") (subscribed : settings.subscriptions ≠ [])
      (fault : TopicFault (settings.subscriptions.map Subscription.topics).flatten e) :
      Fault settings (.config e)

theorem allTopics_eq_flatten (settings : ConsumerSettings A) :
    settings.allTopics = (settings.subscriptions.map Subscription.topics).flatten :=
  List.flatMap_def

theorem blankSetting_bootstrap :
    ConsumerConfig.blankSetting "bootstrap" = .invalid "'bootstrap'不能为空" := by
  decide +kernel

theorem blankSetting_group : ConsumerConfig.blankSetting "group" = .invalid "'group'不能为空" := by
  decide +kernel

theorem validate_eq (settings : ConsumerSettings A) : settings.validate =
    if Text.trim settings.bootstrap = "" then .error (.config (.invalid "'bootstrap'不能为空"))
    else if Text.trim settings.group = "" then .error (.config (.invalid "'group'不能为空"))
    else if settings.subscriptions = [] then .error .noSubscription
    else (topicFault? [] (settings.subscriptions.map Subscription.topics).flatten).elim (.ok ())
      fun e => .error (.config e) := by
  simp only [validate, Text.trim_eq_empty_iff, List.isEmpty_iff, allTopics_eq_flatten,
    blankSetting_bootstrap, blankSetting_group]

theorem validate_eq_ok_iff : settings.validate = .ok () ↔ settings.Sound := by
  rw [validate_eq]
  split
  · next blank => exact iff_of_false nofun fun sound => sound.bootstrap blank
  · next bootstrap =>
    split
    · next blank => exact iff_of_false nofun fun sound => sound.group blank
    · next group =>
      split
      · next none => exact iff_of_false nofun fun sound => sound.subscribed none
      · next subscribed =>
        cases fault : topicFault? [] (settings.subscriptions.map Subscription.topics).flatten with
        | none =>
          have fine := (topicFault?_eq_none_iff.mp fault).1
          exact iff_of_true rfl ⟨bootstrap, group, subscribed, fine⟩
        | some e =>
          refine iff_of_false nofun fun sound => ?_
          cases fault.symm.trans (topicFault?_eq_none_iff.mpr ⟨sound.topics, by simp⟩)

theorem validate_eq_error_iff {e : ConsumerError} :
    settings.validate = .error e ↔ settings.Fault e := by
  rw [validate_eq]
  constructor
  · intro refused
    split at refused
    · next blank =>
      cases refused
      exact .bootstrap blank
    · next bootstrap =>
      split at refused
      · next blank =>
        cases refused
        exact .group bootstrap blank
      · next group =>
        split at refused
        · next none =>
          cases refused
          exact .unsubscribed bootstrap group none
        · next subscribed =>
          cases fault : topicFault? [] (settings.subscriptions.map Subscription.topics).flatten with
          | none =>
            rw [fault] at refused
            cases refused
          | some e =>
            rw [fault] at refused
            cases refused
            exact .topic bootstrap group subscribed (topicFault?_eq_some_iff.mp fault)
  · intro fault
    cases fault with
    | bootstrap blank => rw [if_pos blank]
    | group bootstrap blank => rw [if_neg bootstrap, if_pos blank]
    | unsubscribed bootstrap group none => rw [if_neg bootstrap, if_neg group, if_pos none]
    | topic bootstrap group subscribed fault =>
      rw [if_neg bootstrap, if_neg group, if_neg subscribed, topicFault?_eq_some_iff.mpr fault]
      rfl

/-- What is said of a topic begins like none of the texts about other settings. -/
theorem TopicFault.head? {topics : List String} {text : String}
    (fault : TopicFault topics (.invalid text)) :
    text.toList.head? = some '订' ∨ text.toList.head? = some '主' := by
  generalize said : ConfigError.invalid text = e at fault
  cases fault with
  | blank =>
    cases said
    exact .inl (by decide +kernel)
  | again =>
    cases said
    refine .inr ?_
    rw [String.toList_append, String.toList_append, List.head?_append, List.head?_append]
    rfl

/-- An address that is not blank is not reported to be blank, and neither is a group. -/
theorem validate_ne_of_present (bootstrap : Text.trim settings.bootstrap ≠ "")
    (group : Text.trim settings.group ≠ "") :
    settings.validate ≠ .error (.config (.invalid "'bootstrap'不能为空")) ∧
      settings.validate ≠ .error (.config (.invalid "'group'不能为空")) := by
  have only : ∀ text, settings.validate = .error (.config (.invalid text)) →
      text.toList.head? = some '订' ∨ text.toList.head? = some '主' := by
    intro text refused
    rw [validate_eq, if_neg bootstrap, if_neg group] at refused
    split at refused
    · cases refused
    · cases fault : topicFault? [] (settings.subscriptions.map Subscription.topics).flatten with
      | none =>
        rw [fault] at refused
        cases refused
      | some e =>
        rw [fault] at refused
        cases refused
        exact (topicFault?_eq_some_iff.mp fault).head?
  constructor
  · intro refused
    exact absurd (only _ refused) (by decide +kernel)
  · intro refused
    exact absurd (only _ refused) (by decide +kernel)

/-! ## One subscription for each topic -/

/-- A list without repetitions keeps all of its elements where each is to stand once. -/
theorem eraseDups_of_nodup {topics : List String} (distinct : topics.Nodup) :
    topics.eraseDups = topics := by
  induction topics with
  | nil => rfl
  | cons t topics ih =>
    obtain ⟨first, distinct⟩ := List.nodup_cons.mp distinct
    have others : topics.filter (fun u => !u == t) = topics := by
      refine List.filter_eq_self.mpr fun u mem => ?_
      have apart : u ≠ t := fun same => first (same ▸ mem)
      simpa using apart
    rw [List.eraseDups_cons, others, ih distinct]

theorem nodup_allTopics (valid : settings.validate = .ok ()) : settings.allTopics.Nodup := by
  rw [allTopics_eq_flatten]
  exact (validate_eq_ok_iff.mp valid).topics.distinct

/-- Settings that were accepted list a topic at one place only. -/
theorem place_eq_of_mem_topics (valid : settings.validate = .ok ()) {i j : Nat}
    {s u : Subscription A} (hs : settings.subscriptions[i]? = some s)
    (hu : settings.subscriptions[j]? = some u) {topic : String} (listed : topic ∈ s.topics)
    (again : topic ∈ u.topics) : i = j := by
  have disjoint := (List.nodup_flatMap.mp (nodup_allTopics valid)).2
  rw [List.pairwise_iff_getElem] at disjoint
  obtain ⟨hi, rfl⟩ := List.getElem?_eq_some_iff.mp hs
  obtain ⟨hj, rfl⟩ := List.getElem?_eq_some_iff.mp hu
  rcases Nat.lt_trichotomy i j with less | same | more
  · exact absurd again (disjoint i j hi hj less listed)
  · exact same
  · exact absurd listed (disjoint j i hj hi more again)

/-- Settings that were accepted list a topic in one subscription only. -/
theorem eq_of_mem_topics (valid : settings.validate = .ok ()) {s u : Subscription A}
    (hs : s ∈ settings.subscriptions) (hu : u ∈ settings.subscriptions) {topic : String}
    (listed : topic ∈ s.topics) (again : topic ∈ u.topics) : s = u := by
  obtain ⟨i, hs⟩ := List.mem_iff_getElem?.mp hs
  obtain ⟨j, hu⟩ := List.mem_iff_getElem?.mp hu
  obtain rfl := place_eq_of_mem_topics valid hs hu listed again
  exact Option.some.inj (hs.symm.trans hu)

/-- A subscription that is found for a topic lists it. -/
theorem mem_topics_of_subscriptionFor? {topic : String} {s : Subscription A}
    (found : settings.subscriptionFor? topic = some s) :
    s ∈ settings.subscriptions ∧ topic ∈ s.topics :=
  ⟨List.mem_of_find?_eq_some found, by simpa using List.find?_some found⟩

/-- A subscription is found for every topic that one of them lists. -/
theorem isSome_subscriptionFor? {topic : String} :
    (settings.subscriptionFor? topic).isSome = true ↔ topic ∈ settings.allTopics := by
  simp [subscriptionFor?, allTopics]

/-- A topic is batched as the one subscription says that lists it. -/
theorem routing_eq_some_iff (valid : settings.validate = .ok ()) (hasHook : Bool) {topic : String}
    {b : BatchSettings} : (settings.profile hasHook).routing topic = some b ↔
      ∃ s ∈ settings.subscriptions, topic ∈ s.topics ∧ s.batching = b := by
  simp only [profile, Option.map_eq_some_iff]
  constructor
  · rintro ⟨s, found, rfl⟩
    obtain ⟨mem, listed⟩ := mem_topics_of_subscriptionFor? found
    exact ⟨s, mem, listed, rfl⟩
  · rintro ⟨s, mem, listed, rfl⟩
    have found : (settings.subscriptionFor? topic).isSome = true :=
      isSome_subscriptionFor?.mpr (List.mem_flatMap.mpr ⟨s, mem, listed⟩)
    obtain ⟨u, found⟩ := Option.isSome_iff_exists.mp found
    obtain ⟨there, again⟩ := mem_topics_of_subscriptionFor? found
    exact ⟨u, found, by rw [eq_of_mem_topics valid there mem again listed]⟩

/-- What the topics of settings lead to. -/
structure Routes (settings : ConsumerSettings A) : Prop where
  /-- The topics of all subscriptions are subscribed to in their order, with nothing left out. -/
  topics : settings.topics = (settings.subscriptions.map Subscription.topics).flatten
  /-- A topic leads to a subscription just if it is subscribed to. -/
  found : ∀ topic, (settings.subscriptionFor? topic).isSome = true ↔ topic ∈ settings.topics
  /-- The topic stands in that subscription, and in none at any other place. -/
  sole : ∀ topic s, settings.subscriptionFor? topic = some s → topic ∈ s.topics ∧
    ∃ i, settings.subscriptions[i]? = some s ∧
      ∀ (j : Nat) u, settings.subscriptions[j]? = some u → topic ∈ u.topics → j = i
  /-- The partitions of the topic are batched as it says. -/
  routing : ∀ hasHook topic b, (settings.profile hasHook).routing topic = some b ↔
    ∃ s ∈ settings.subscriptions, topic ∈ s.topics ∧ s.batching = b

theorem routes_of_validate (valid : settings.validate = .ok ()) : settings.Routes := by
  have topics : settings.topics = settings.allTopics := eraseDups_of_nodup (nodup_allTopics valid)
  constructor
  case topics => rw [topics, allTopics_eq_flatten]
  case found =>
    intro topic
    rw [topics]
    exact isSome_subscriptionFor?
  case sole =>
    intro topic s found
    obtain ⟨mem, listed⟩ := mem_topics_of_subscriptionFor? found
    obtain ⟨i, here⟩ := List.mem_iff_getElem?.mp mem
    exact ⟨listed, i, here, fun j u there again =>
      place_eq_of_mem_topics valid there here again listed⟩
  case routing => exact fun hasHook _ _ => routing_eq_some_iff valid hasHook

/-- Settings are accepted just if nothing is wrong with them, otherwise the first fault is reported,
and accepted ones lead each topic to one subscription. -/
theorem validate_exact (settings : ConsumerSettings A) :
    (settings.validate = .ok () ↔ settings.Sound) ∧
      (∀ e, settings.validate = .error e ↔ settings.Fault e) ∧
      (settings.validate = .ok () → settings.Routes) :=
  ⟨validate_eq_ok_iff, fun _ => validate_eq_error_iff, routes_of_validate⟩

/-- Three subscriptions, of which the second one lists no topic, and the given topics in the third
one. -/
def threefold (topics : List String) : ConsumerSettings ⟨Empty, nofun⟩ where
  bootstrap := "localhost:9092"
  group := " orders "
  clientName := "orders-1"
  pollTimeout := ConsumerConfig.defaultPollTimeout
  client := []
  named := .empty
  subscriptions := [
    { topics := ["orders", "refunds"], handler := fun _ => .done (.ok ()) },
    { topics := [], handler := fun _ => .done (.ok ()) },
    { topics := topics, handler := fun _ => .done (.ok ()), batching := { batchSize := 7 } }]

theorem threefold_exact :
    (threefold ["payments"]).validate = .ok () ∧ (threefold ["payments"]).Sound ∧
      (threefold ["payments"]).Routes ∧
      (threefold ["payments"]).topics = ["orders", "refunds", "payments"] ∧
      (threefold ["stock", "refunds", " "]).Fault (.config (.invalid "主题'refunds'重复订阅")) ∧
      (threefold ["stock", " ", "refunds"]).Fault (.config (.invalid "订阅主题不能为空")) := by
  have valid : (threefold ["payments"]).validate = .ok () := rfl
  have law := validate_exact (threefold ["payments"])
  refine ⟨valid, law.1.mp valid, law.2.2 valid, by decide +kernel, ?_, ?_⟩
  · exact ((validate_exact _).2.1 _).mp (by decide +kernel)
  · exact ((validate_exact _).2.1 _).mp (by decide +kernel)

end TopicConsumer.ConsumerSettings
