import TopicConsumer.Broker.Client
import TopicConsumer.Time.Sleep

/-!
# Calls of a client

The calls that may be made of a client, as data, and what a client without brokers does with one
after the other. A call that crashes ends them all.
-/

namespace TopicConsumer

/-- A call of a client. -/
inductive ClientCall where
  | name
  | listen
  | subscribe (topics : List String)
  /-- Waits some milliseconds for a record. -/
  | poll (ms : Nat)
  | pauseOrResume (partitions : List TopicPartition)
  | seek (position : Position)
  | store (position : Position)
  | commit (positions : List Position)
  | unsubscribe
  | close

/-- What a call brings. -/
inductive ClientReply where
  | done
  | name (text : String)
  /-- A poll has found nothing. -/
  | nothing
  | failed (error : BrokerError)

/-- How a call went. -/
structure ClientStep where
  reply : ClientReply
  /-- The milliseconds that it took. -/
  ms : Nat
  logs : List LogLine

namespace OfflineClient

/-- The step of a call that was answered, after which the client is as given. A crash says why. -/
def answered (c : OfflineClient) : Answer → Except String (OfflineClient × ClientStep)
  | .done => .ok (c, ⟨.done, 0, []⟩)
  | .failed e => .ok (c, ⟨.failed e, 0, []⟩)
  | .crashed text => .error text

/-- Makes a call. -/
def perform (c : OfflineClient) : ClientCall → Except String (OfflineClient × ClientStep)
  | .name => .ok (c, ⟨.name c.name, 0, []⟩)
  | .listen => .ok (c.listen.1, ⟨.done, 0, c.listen.2⟩)
  | .subscribe topics => c.answered (c.subscribe topics)
  | .poll ms => .ok (c, ⟨.nothing, sleepEnd 0 ms, []⟩)
  | .pauseOrResume ps => (c.pauseOrResume ps).1.answered (c.pauseOrResume ps).2
  | .seek position => (c.seek position).1.answered (c.seek position).2
  | .store position => (c.store position).1.answered (c.store position).2
  | .commit positions => c.answered (c.commit positions)
  | .unsubscribe => .ok (c, ⟨.done, 0, c.unsubscribe⟩)
  | .close => .ok (c, ⟨.done, 0, c.close⟩)

/-- Makes calls one after the other. -/
def performAll (c : OfflineClient) : List ClientCall → Except String (List ClientStep)
  | [] => .ok []
  | call :: rest => do
    let (c, step) ← c.perform call
    return step :: (← c.performAll rest)

end OfflineClient

end TopicConsumer
