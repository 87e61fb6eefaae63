/-!
# Error codes

The codes that the client library gives its errors, each with a name and a description. Codes of the
library itself are described as local, those that a broker sends as the broker's.
-/

namespace TopicConsumer

/-- A code with its name and description. -/
structure ErrorCode where
  name : String
  description : String
  deriving DecidableEq, Inhabited

namespace ErrorCode

/-- The name, then the description in parentheses. -/
def text (c : ErrorCode) : String := c.name ++ " (" ++ c.description ++ ")"

/-- A code of the library. -/
def ofLibrary (name description : String) : ErrorCode := ⟨name, "Local: " ++ description⟩

/-- A code of a broker. -/
def ofBroker (name description : String) : ErrorCode := ⟨name, "Broker: " ++ description⟩

def fatal : ErrorCode := ofLibrary "Fatal" "Fatal error"
def unknownPartition : ErrorCode := ofLibrary "UnknownPartition" "Unknown partition"
def unknownTopic : ErrorCode := ofLibrary "UnknownTopic" "Unknown topic"
def invalidArgument : ErrorCode := ofLibrary "InvalidArgument" "Invalid argument or configuration"
def unknownGroup : ErrorCode := ofLibrary "UnknownGroup" "Unknown group"
def erroneousState : ErrorCode := ofLibrary "State" "Erroneous state"
def noOffset : ErrorCode := ofLibrary "NoOffset" "No offset stored"
def unknownTopicOrPartition : ErrorCode :=
  ofBroker "UnknownTopicOrPartition" "Unknown topic or partition"
def unknownMember : ErrorCode := ofBroker "UnknownMemberId" "Unknown member"

/-- The codes of the library. -/
def library : List ErrorCode := [
  ofLibrary "BadMessage" "Bad message format",
  ofLibrary "BadCompression" "Invalid compressed data",
  ofLibrary "BrokerDestroy" "Broker handle destroyed for termination",
  ofLibrary "Fail" "Communication failure with broker",
  ofLibrary "BrokerTransportFailure" "Broker transport failure",
  ofLibrary "CriticalSystemResource" "Critical system resource failure",
  ofLibrary "Resolve" "Host resolution failure",
  ofLibrary "MessageTimedOut" "Message timed out",
  ofBroker "PartitionEOF" "No more messages",
  unknownPartition,
  ofLibrary "FileSystem" "File or filesystem error",
  unknownTopic,
  ofLibrary "AllBrokersDown" "All broker connections are down",
  invalidArgument,
  ofLibrary "OperationTimedOut" "Timed out",
  ofLibrary "QueueFull" "Queue full",
  ofLibrary "ISRInsufficient" "ISR count insufficient",
  ofLibrary "NodeUpdate" "Broker node update",
  ofLibrary "SSL" "SSL error",
  ofLibrary "WaitingForCoordinator" "Waiting for coordinator",
  unknownGroup,
  ofLibrary "InProgress" "Operation in progress",
  ofLibrary "PreviousInProgress" "Previous operation in progress",
  ofLibrary "ExistingSubscription" "Existing subscription",
  ofLibrary "AssignPartitions" "Assign partitions",
  ofLibrary "RevokePartitions" "Revoke partitions",
  ofLibrary "Conflict" "Conflicting use",
  erroneousState,
  ofLibrary "UnknownProtocol" "Unknown protocol",
  ofLibrary "NotImplemented" "Not implemented",
  ofLibrary "Authentication" "Authentication failure",
  noOffset,
  ofLibrary "Outdated" "Outdated",
  ofLibrary "TimedOutQueue" "Timed out in queue",
  ofLibrary "UnsupportedFeature" "Required feature not supported by broker",
  ofLibrary "WaitCache" "Awaiting cache update",
  ofLibrary "Interrupted" "Operation interrupted",
  ofLibrary "KeySerialization" "Key serialization error",
  ofLibrary "ValueSerialization" "Value serialization error",
  ofLibrary "KeyDeserialization" "Key deserialization error",
  ofLibrary "ValueDeserialization" "Value deserialization error",
  ofLibrary "Partial" "Partial response",
  ofLibrary "ReadOnly" "Read-only object",
  ofLibrary "NoEnt" "No such entry",
  ofLibrary "Underflow" "Read underflow",
  ofLibrary "InvalidType" "Invalid type",
  ofLibrary "Retry" "Retry operation",
  ofLibrary "PurgeQueue" "Purged in queue",
  ofLibrary "PurgeInflight" "Purged in flight",
  fatal,
  ofLibrary "Inconsistent" "Inconsistent state",
  ofLibrary "GaplessGuarantee" "Gap-less ordering would not be guaranteed if proceeding",
  ofLibrary "PollExceeded"
    "Maximum application poll interval (max.poll.interval.ms) exceeded",
  ofLibrary "UnknownBroker" "Unknown broker",
  ofLibrary "NotConfigured" "Functionality not configured",
  ofLibrary "Fenced" "This instance has been fenced by a newer instance",
  ofLibrary "Application" "Application generated error",
  ofLibrary "AssignmentLost" "Group partition assignment lost",
  ofLibrary "Noop" "No operation performed",
  ofLibrary "AutoOffsetReset" "No offset to automatically reset to",
  ofLibrary "LogTruncation" "Partition log truncation detected",
  ofLibrary "InvalidDifferentRecord"
    "an invalid record in the same batch caused the failure of this message too."]

/-- The codes of a broker. -/
def broker : List ErrorCode := [
  ⟨"Unknown", "Unknown broker error"⟩,
  ⟨"NoError", "Success"⟩,
  ofBroker "OffsetOutOfRange" "Offset out of range",
  ofBroker "InvalidMessage" "Invalid message",
  unknownTopicOrPartition,
  ofBroker "InvalidMessageSize" "Invalid message size",
  ofBroker "LeaderNotAvailable" "Leader not available",
  ofBroker "NotLeaderForPartition" "Not leader for partition",
  ofBroker "RequestTimedOut" "Request timed out",
  ofBroker "BrokerNotAvailable" "Broker not available",
  ofBroker "ReplicaNotAvailable" "Replica not available",
  ofBroker "MessageSizeTooLarge" "Message size too large",
  ofBroker "StaleControllerEpoch" "StaleControllerEpochCode",
  ofBroker "OffsetMetadataTooLarge" "Offset metadata string too large",
  ofBroker "NetworkException" "Broker disconnected before response received",
  ofBroker "CoordinatorLoadInProgress" "Coordinator load in progress",
  ofBroker "CoordinatorNotAvailable" "Coordinator not available",
  ofBroker "NotCoordinator" "Not coordinator",
  ofBroker "InvalidTopic" "Invalid topic",
  ofBroker "MessageBatchTooLarge" "Message batch larger than configured server segment size",
  ofBroker "NotEnoughReplicas" "Not enough in-sync replicas",
  ofBroker "NotEnoughReplicasAfterAppend"
    "Message(s) written to insufficient number of in-sync replicas",
  ofBroker "InvalidRequiredAcks" "Invalid required acks value",
  ofBroker "IllegalGeneration" "Specified group generation id is not valid",
  ofBroker "InconsistentGroupProtocol" "Inconsistent group protocol",
  ofBroker "InvalidGroupId" "Invalid group.id",
  unknownMember,
  ofBroker "InvalidSessionTimeout" "Invalid session timeout",
  ofBroker "RebalanceInProgress" "Group rebalance in progress",
  ofBroker "InvalidCommitOffsetSize" "Commit offset data size is not valid",
  ofBroker "TopicAuthorizationFailed" "Topic authorization failed",
  ofBroker "GroupAuthorizationFailed" "Group authorization failed",
  ofBroker "ClusterAuthorizationFailed" "Cluster authorization failed",
  ofBroker "InvalidTimestamp" "Invalid timestamp",
  ofBroker "UnsupportedSASLMechanism" "Unsupported SASL mechanism",
  ofBroker "IllegalSASLState" "Request not valid in current SASL state",
  ofBroker "UnsupportedVersion" "API version not supported",
  ofBroker "TopicAlreadyExists" "Topic already exists",
  ofBroker "InvalidPartitions" "Invalid number of partitions",
  ofBroker "InvalidReplicationFactor" "Invalid replication factor",
  ofBroker "InvalidReplicaAssignment" "Invalid replica assignment",
  ofBroker "InvalidConfig" "Configuration is invalid",
  ofBroker "NotController" "Not controller for cluster",
  ofBroker "InvalidRequest" "Invalid request",
  ofBroker "UnsupportedForMessageFormat" "Message format on broker does not support request",
  ofBroker "PolicyViolation" "Policy violation",
  ofBroker "OutOfOrderSequenceNumber" "Broker received an out of order sequence number",
  ofBroker "DuplicateSequenceNumber" "Broker received a duplicate sequence number",
  ofBroker "InvalidProducerEpoch" "Producer attempted an operation with an old epoch",
  ofBroker "InvalidTransactionalState"
    "Producer attempted a transactional operation in an invalid state",
  ofBroker "InvalidProducerIdMapping"
    ("Producer attempted to use a producer id which is not currently assigned to its " ++
      "transactional id"),
  ofBroker "InvalidTransactionTimeout"
    ("Transaction timeout is larger than the maximum value allowed by the broker's " ++
      "max.transaction.timeout.ms"),
  ofBroker "ConcurrentTransactions"
    ("Producer attempted to update a transaction while another concurrent operation on the same " ++
      "transaction was ongoing"),
  ofBroker "TransactionCoordinatorFenced"
    ("Indicates that the transaction coordinator sending a WriteTxnMarker is no longer the " ++
      "current coordinator for a given producer"),
  ofBroker "TransactionalIdAuthorizationFailed" "Transactional Id authorization failed",
  ofBroker "SecurityDisabled" "Security features are disabled",
  ofBroker "OperationNotAttempted" "Operation not attempted",
  ofBroker "KafkaStorageError" "Disk error when trying to access log file on disk",
  ofBroker "LogDirNotFound" "The user-specified log directory is not found in the broker config",
  ofBroker "SaslAuthenticationFailed" "SASL Authentication failed",
  ofBroker "UnknownProducerId" "Unknown Producer Id",
  ofBroker "ReassignmentInProgress" "Partition reassignment is in progress",
  ofBroker "DelegationTokenAuthDisabled" "Delegation Token feature is not enabled",
  ofBroker "DelegationTokenNotFound" "Delegation Token is not found on server",
  ofBroker "DelegationTokenOwnerMismatch" "Specified Principal is not valid Owner/Renewer",
  ofBroker "DelegationTokenRequestNotAllowed"
    "Delegation Token requests are not allowed on this connection",
  ofBroker "DelegationTokenAuthorizationFailed" "Delegation Token authorization failed",
  ofBroker "DelegationTokenExpired" "Delegation Token is expired",
  ofBroker "InvalidPrincipalType" "Supplied principalType is not supported",
  ofBroker "NonEmptyGroup" "The group is not empty",
  ofBroker "GroupIdNotFound" "The group id does not exist",
  ofBroker "FetchSessionIdNotFound" "The fetch session ID was not found",
  ofBroker "InvalidFetchSessionEpoch" "The fetch session epoch is invalid",
  ofBroker "ListenerNotFound" "No matching listener",
  ofBroker "TopicDeletionDisabled" "Topic deletion is disabled",
  ofBroker "FencedLeaderEpoch" "Leader epoch is older than broker epoch",
  ofBroker "UnknownLeaderEpoch" "Leader epoch is newer than broker epoch",
  ofBroker "UnsupportedCompressionType" "Unsupported compression type",
  ofBroker "StaleBrokerEpoch" "Broker epoch has changed",
  ofBroker "OffsetNotAvailable" "Leader high watermark is not caught up",
  ofBroker "MemberIdRequired" "Group member needs a valid member ID",
  ofBroker "PreferredLeaderNotAvailable" "Preferred leader was not available",
  ofBroker "GroupMaxSizeReached" "Consumer group has reached maximum size",
  ofBroker "FencedInstanceId"
    "Static consumer fenced by other consumer with same group.instance.id",
  ofBroker "EligibleLeadersNotAvailable" "Eligible partition leaders are not available",
  ofBroker "ElectionNotNeeded" "Leader election not needed for topic partition",
  ofBroker "NoReassignmentInProgress" "No partition reassignment is in progress",
  ofBroker "GroupSubscribedToTopic"
    "Deleting offsets of a topic while the consumer group is subscribed to it",
  ofBroker "InvalidRecord" "Broker failed to validate record",
  ofBroker "UnstableOffsetCommit" "There are unstable offsets that need to be cleared",
  ofBroker "ThrottlingQuotaExceeded" "Throttling quota has been exceeded",
  ofBroker "ProducerFenced"
    "There is a newer producer with the same transactionalId which fences the current one",
  ofBroker "ResourceNotFound" "Request illegally referred to resource that does not exist",
  ofBroker "DuplicateResource" "Request illegally referred to the same resource twice",
  ofBroker "UnacceptableCredential"
    "Requested credential would not meet criteria for acceptability",
  ofBroker "InconsistentVoterSet"
    ("Indicates that the either the sender or recipient of a voter-only request is not one of " ++
      "the expected voters"),
  ofBroker "InvalidUpdateVersion" "Invalid update version",
  ofBroker "FeatureUpdateFailed" "Unable to update finalized features due to server error",
  ofBroker "PrincipalDeserializationFailure"
    "Request principal deserialization failed during forwarding",
  ofBroker "UnknownTopicId" "Unknown topic id",
  ofBroker "FencedMemberEpoch" "The member epoch is fenced by the group coordinator",
  ofBroker "UnreleasedInstanceId"
    "The instance ID is still used by another member in the consumer group",
  ofBroker "UnsupportedAssignor"
    "The assignor or its version range is not supported by the consumer group",
  ofBroker "StaleMemberEpoch" "The member epoch is stale"]

/-- The code of a name. -/
def named? (name : String) : Option ErrorCode :=
  (library ++ broker).find? fun c => c.name == name

end ErrorCode

end TopicConsumer
