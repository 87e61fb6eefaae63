import TopicConsumer.Broker.Error
import TopicConsumer.Broker.ErrorCode

/-!
# Errors of the client library

An error says which part of the client failed, and either carries a code or a text. The code decides
what the error means for the consumer. Errors of administration do not show theirs.
-/

namespace TopicConsumer

/-- The parts of a client whose errors carry a code. -/
inductive CodedPart where
  | administration
  | commit
  | queueClose
  | flush
  | global
  | groupList
  | consumption
  | fatalConsumption
  | production
  | metadata
  | offsetFetch
  | rebalance
  | partitionOffset
  | offsetStore
  deriving DecidableEq

/-- The parts of a client whose errors carry a text. -/
inductive WordedPart where
  | administration
  | creation
  | pausing
  | seeking
  | subscription
  deriving DecidableEq

/-- An error of the client library. -/
inductive ClientError where
  | coded (part : CodedPart) (code : ErrorCode)
  | worded (part : WordedPart) (text : String)
  /-- A setting of the client is not accepted. -/
  | setting (text key value : String)
  /-- The end of a partition was reached. -/
  | endOfPartition (number : Int)
  | clientDropped
  | nothingReceived
  /-- A text with a NUL in it cannot be handed to the library. -/
  | holdsNul
  deriving DecidableEq

/-- What a part says of its error. -/
def CodedPart.title : CodedPart → String
  | .administration => "Admin operation error"
  | .commit => "Consumer commit error"
  | .queueClose => "Consumer queue close error"
  | .flush => "Flush error"
  | .global => "Global error"
  | .groupList => "Group list fetch error"
  | .consumption => "Message consumption error"
  | .fatalConsumption => "(Fatal) Message consumption error"
  | .production => "Message production error"
  | .metadata => "Meta data fetch error"
  | .offsetFetch => "Offset fetch error"
  | .rebalance => "Rebalance error"
  | .partitionOffset => "Set partition offset error"
  | .offsetStore => "Store offset error"

/-- The part of a name. -/
def CodedPart.named? (name : String) : Option CodedPart :=
  [("AdminOp", .administration), ("ConsumerCommit", .commit), ("ConsumerQueueClose", .queueClose),
    ("Flush", .flush), ("Global", .global), ("GroupListFetch", .groupList),
    ("MessageConsumption", .consumption), ("MessageConsumptionFatal", .fatalConsumption),
    ("MessageProduction", .production), ("MetadataFetch", .metadata), ("OffsetFetch", .offsetFetch),
    ("Rebalance", .rebalance), ("SetPartitionOffset", .partitionOffset),
    ("StoreOffset", .offsetStore)].lookup name

/-- What a part says of its error. -/
def WordedPart.title : WordedPart → String
  | .administration => "Admin operation creation error"
  | .creation => "Client creation error"
  | .pausing => "Pause/resume error"
  | .seeking => "Seek error"
  | .subscription => "Subscription error"

/-- The part of a name. -/
def WordedPart.named? (name : String) : Option WordedPart :=
  [("AdminOpCreation", .administration), ("ClientCreation", .creation), ("PauseResume", .pausing),
    ("Seek", .seeking), ("Subscription", .subscription)].lookup name

namespace ClientError

/-- The wording of the error. -/
def message : ClientError → String
  | .coded part code => part.title ++ ": " ++ code.text
  | .worded part text => part.title ++ ": " ++ text
  | .setting text key value => "Client config error: " ++ text ++ " " ++ key ++ " " ++ value
  | .endOfPartition n => "Partition EOF: " ++ toString n
  | .clientDropped => "KafkaError (Client dropped)"
  | .nothingReceived => "No message received within the given poll interval"
  | .holdsNul => "FFI nul error"

instance : ToString ClientError := ⟨message⟩

/-- The code that the error shows. -/
def code? : ClientError → Option ErrorCode
  | .coded .administration _ => none
  | .coded _ code => some code
  | _ => none

/-- The error shows the code of fatal errors. -/
def isFatal (e : ClientError) : Bool := e.code? == some .fatal

/-- What the error means for the consumer. -/
def toBrokerError (e : ClientError) : BrokerError :=
  match e.code? with
  | none => .transient e.message
  | some code =>
    if code = .fatal then .fatal e.message
    else if code = .unknownTopicOrPartition ∨ code = .unknownPartition ∨ code = .unknownTopic then
      .unknownPartition e.message
    else if code = .unknownMember then .notMember e.message
    else .transient e.message

end ClientError

end TopicConsumer
