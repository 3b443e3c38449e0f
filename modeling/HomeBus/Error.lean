import HomeBus.Address
import HomeBus.Log.Directive
import HomeBus.Message.Basic
import HomeBus.Toml.Basic

/-!
# Errors

Every operation of the library fails with an `Error`, which says what the cause is. The wording is
in one place, `Error.message`.
-/

namespace HomeBus

/-- A text or value that does not have the form of what it stands for. -/
inductive FormatFault where
  | unknownMsgType (text : String)
  | unknownResourceType (text : String)
  | wrongShape (value : Json) (expected : ValueType)
  deriving DecidableEq

/-- Why a message could not be written or read. -/
inductive CodecFault where
  | json (cause : Json.Error)
  | refused (reason : String)
  deriving DecidableEq

/-- Why a file could not be read. -/
inductive ReadFault where
  | notFound
  | isDirectory
  | notDirectory
  | nameTooLong
  | zeroInName
  | notUtf8
  deriving DecidableEq

/-- What is wrong with a configuration. -/
inductive ConfigFault where
  | zeroPort
  | unknownQoS (level : UInt8)
  | zeroTimeout
  | unreadable (path : String) (cause : ReadFault)
  | document (cause : Toml.Error)
  | logFilter (directives : String) (cause : Log.DirectiveFault)
  deriving DecidableEq

/-- Why an operation failed. -/
inductive Error where
  | format (cause : FormatFault)
  | valueType (expected actual : ValueType)
  | json (cause : Json.Error)
  | codec (cause : CodecFault)
  | connect (reason : String)
  | notConnected
  | publish (topic reason : String)
  | subscribe (topic reason : String)
  | duplicateRequest (uid : String)
  | config (cause : ConfigFault)
  deriving DecidableEq

/-- The fault in words. Models what `MsgType::from_str`, `ResourceType::from_str` and `shape_error`
    say. -/
def FormatFault.message : FormatFault → String
  | .unknownMsgType text => "unknown message type '" ++ text ++ "'"
  | .unknownResourceType text => "unknown resource type '" ++ text ++ "'"
  | .wrongShape value expected =>
    "value " ++ value.text ++ " does not have shape " ++ expected.tag

def CodecFault.message : CodecFault → String
  | .json cause => cause.message
  | .refused reason => reason

def ReadFault.message : ReadFault → String
  | .notFound => "No such file or directory (os error 2)"
  | .isDirectory => "Is a directory (os error 21)"
  | .notDirectory => "Not a directory (os error 20)"
  | .nameTooLong => "File name too long (os error 36)"
  | .zeroInName => "file name contained an unexpected NUL byte"
  | .notUtf8 => "stream did not contain valid UTF-8"

/-- The fault in words. Models what `FimpConfig::validate`, `QoS::try_from`, `FimpConfig::load` and
    `env_filter` say. -/
def ConfigFault.message : ConfigFault → String
  | .zeroPort => "broker.port must be non-zero"
  | .unknownQoS level => "invalid QoS level " ++ toString level.toNat
  | .zeroTimeout => "requests.timeout_secs must be non-zero"
  | .unreadable path cause => "unable to read " ++ path ++ ": " ++ cause.message
  | .document cause => cause.message
  | .logFilter directives cause =>
    "invalid log filter '" ++ directives ++ "': " ++ cause.message

/-- The error in words. Models `Error::fmt`. -/
def Error.message : Error → String
  | .format cause => "Format error: " ++ cause.message
  | .valueType expected actual =>
    "Value type mismatch: expected " ++ expected.tag ++ ", got " ++ actual.tag
  | .json cause => "JSON error: " ++ cause.message
  | .codec cause => "Codec error: " ++ cause.message
  | .connect reason => "Connect failed: " ++ reason
  | .notConnected => "Not connected"
  | .publish topic reason => "Publish to '" ++ topic ++ "' failed: " ++ reason
  | .subscribe topic reason => "Subscribe to '" ++ topic ++ "' failed: " ++ reason
  | .duplicateRequest uid => "Request " ++ uid ++ " is already pending"
  | .config cause => "Config error: " ++ cause.message

/-- The message type of a tag. Models `MsgType::from_str`. -/
def MsgType.ofTag (text : String) : Except Error MsgType :=
  match MsgType.ofTag? text with
  | some t => .ok t
  | none => .error (.format (.unknownMsgType text))

/-- The resource type of a tag. Models `ResourceType::from_str`. -/
def ResourceType.ofTag (text : String) : Except Error ResourceType :=
  match ResourceType.ofTag? text with
  | some t => .ok t
  | none => .error (.format (.unknownResourceType text))

end HomeBus
