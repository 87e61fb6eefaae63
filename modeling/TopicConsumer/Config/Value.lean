import TopicConsumer.Entries
import TopicConsumer.Number.Binary64

/-!
# Configuration values

A configuration is a tree of tables and lists with plain values at the leaves. A value remembers
where it came from, as far as it came from anywhere in particular: a table that several sources
contributed to has no origin.
-/

namespace TopicConsumer

/-- A plain value. -/
inductive Scalar where
  | null
  | bool (b : Bool)
  /-- A whole number in 64 bits with a sign. -/
  | integer (n : Int)
  /-- A whole number that needs all 64 bits for its magnitude. -/
  | natural (n : Nat)
  | float (x : Binary64)
  | text (s : String)
  deriving DecidableEq, Inhabited

/-- A configuration value. -/
inductive ConfigValue where
  | leaf (origin : Option String) (value : Scalar)
  | list (origin : Option String) (items : List ConfigValue)
  | table (origin : Option String) (entries : List (String × ConfigValue))
  deriving Inhabited

namespace ConfigValue

/-- Where the value came from. -/
def origin : ConfigValue → Option String
  | .leaf o _ | .list o _ | .table o _ => o

/-- The value that stands where nothing has been set. -/
def unset : ConfigValue := .leaf none .null

/-- The table without entries. -/
def emptyTable : ConfigValue := .table none []

/-- The entry of a table under a key. -/
def entry? (key : String) : ConfigValue → Option ConfigValue
  | .table _ entries => entries.lookup key
  | _ => none

end ConfigValue

/-- Why a configuration could not be loaded. -/
inductive LoadError where
  /-- Nothing stands under the key. -/
  | notFound (key : String)
  /-- A plain value was expected and something else found. -/
  | mistyped (found expected key : String) (origin : Option String)
  /-- A table or a group of settings was expected and something else found. -/
  | misshaped (found expected key : String)
  /-- A file does not have the form that it should have. -/
  | unreadableFile
  /-- The key is no path. -/
  | unreadablePath
  /-- Anything else, in these words. -/
  | other (text : String)
  deriving DecidableEq

namespace LoadError

/-- The name of the kind of the error. -/
def kind : LoadError → String
  | .notFound _ => "NotFound"
  | .mistyped .. => "Type"
  | .misshaped .. => "At"
  | .unreadableFile => "FileParse"
  | .unreadablePath => "PathParse"
  | .other _ => "Message"

/-- The wording, where the reader of the file does not have one of its own. -/
def message? : LoadError → Option String
  | .notFound key => some ("missing configuration field \"" ++ key ++ "\"")
  | .mistyped found expected key origin =>
    some ("invalid type: " ++ found ++ ", expected " ++ expected ++ " for key `" ++ key ++ "`" ++
      (origin.map (" in " ++ ·)).getD "")
  | .misshaped found expected key =>
    some ("invalid type: " ++ found ++ ", expected " ++ expected ++ " for key `" ++ key ++ "`")
  | .unreadableFile | .unreadablePath => none
  | .other text => some text

end LoadError

/-- Why a configuration is not accepted. -/
inductive ConfigError where
  | load (error : LoadError)
  /-- Fields of an entry of a section are out of range. -/
  | outOfRange (section_ key : String) (fields : List String)
  | invalid (text : String)
  deriving DecidableEq

namespace ConfigError

/-- One line per field that is out of range. -/
def rangeLine (field : String) : String := field ++ ": Validation error: range"

/-- The wording of an error about a section. -/
def validationMessage (section_ key text : String) : String :=
  "配置'" ++ section_ ++ "." ++ key ++ "'验证错误：" ++ text

/-- The wording of the error, unless it is that of a reader. -/
def message? : ConfigError → Option String
  | .load e => e.message?.map ("配置加载错误：" ++ ·)
  | .outOfRange section_ key fields =>
    some (validationMessage section_ key ("\n".intercalate (fields.map rangeLine)))
  | .invalid text => some ("配置项不合法：" ++ text)

end ConfigError

end TopicConsumer
