import TopicConsumer.Broker.ClientError
import TopicConsumer.Config.Value

/-!
# Errors of a consumer

Why a consumer could not be made or started.
-/

namespace TopicConsumer

/-- Why a consumer could not be made or started. -/
inductive ConsumerError where
  /-- The settings are not accepted. -/
  | config (error : ConfigError)
  | noSubscription
  | subscribe (error : BrokerError)
  | create (error : ClientError)
  /-- It was started outside of everything that runs tasks. -/
  | noRuntime
  | alreadyStarted
  | disposed
  deriving DecidableEq

namespace ConsumerError

/-- The name of the kind of the error. -/
def kind : ConsumerError → String
  | .config _ => "Config"
  | .noSubscription => "NoSubscription"
  | .subscribe _ => "Subscribe"
  | .create _ => "Create"
  | .noRuntime => "Runtime"
  | .alreadyStarted => "AlreadyStarted"
  | .disposed => "Disposed"

/-- The wording of the error, as far as it has one of its own. -/
def message? : ConsumerError → Option String
  | .config e => e.message?.map ("消费者配置错误：" ++ ·)
  | .noSubscription => some "至少需要一个订阅"
  | .subscribe e => some ("订阅主题失败：" ++ e.message)
  | .create e => some ("消费者创建失败：" ++ e.message)
  | .noRuntime => none
  | .alreadyStarted => some "消费者已启动"
  | .disposed => some "消费者已关闭"

end ConsumerError

end TopicConsumer
