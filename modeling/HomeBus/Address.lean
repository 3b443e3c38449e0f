import HomeBus.Text.Split

/-!
# Addresses

An address says who is meant: a device service, an application or an adapter. Written out it is the
topic that messages to it are published on, a list of tokens `name:value` between slashes.

Reading is lenient. Tokens without a colon, with an unknown name or with an unknown kind are passed
over, the last token of a name counts, and what is missing keeps its default. The address token
`ad` stands for the resource before the first service token and for the service after it.

Here and in the other modules, the names after "Models" in a docstring are those of the functions
and types of the client library that a definition stands for.
-/

namespace HomeBus

/-- Whether a message asks for something or reports it. -/
inductive MsgType where
  | cmd
  | evt
  deriving DecidableEq, Inhabited, Repr

/-- What kind of resource owns an address. -/
inductive ResourceType where
  | device
  | app
  | adapter
  deriving DecidableEq, Inhabited, Repr

namespace MsgType

/-- The tag of a kind of message in an address. Models `MsgType::as_str`. -/
def tag : MsgType → String
  | .cmd => "cmd"
  | .evt => "evt"

/-- The kind of message of a tag. Models `MsgType::from_str`. -/
def ofTag? (text : String) : Option MsgType :=
  if text = "cmd" then some .cmd else if text = "evt" then some .evt else none

theorem ofTag?_tag (t : MsgType) : ofTag? t.tag = some t := by cases t <;> rfl

end MsgType

namespace ResourceType

/-- The tag of a kind of resource in an address. Models `ResourceType::as_str`. -/
def tag : ResourceType → String
  | .device => "dev"
  | .app => "app"
  | .adapter => "ad"

/-- The kind of resource of a tag. Models `ResourceType::from_str`. -/
def ofTag? (text : String) : Option ResourceType :=
  if text = "dev" then some .device
  else if text = "app" then some .app
  else if text = "ad" then some .adapter
  else none

theorem ofTag?_tag (t : ResourceType) : ofTag? t.tag = some t := by cases t <;> rfl

end ResourceType

/-- The payload tag of JSON messages. -/
def jsonPayload : String := "j1"

/-- The parts of an address; only a device has a service. Models `Address` with
    `Address::default`. -/
structure Address where
  payloadType : String := jsonPayload
  msgType : MsgType := .cmd
  resourceType : ResourceType := .device
  resourceName : String := ""
  resourceAddress : String := ""
  serviceName : String := ""
  serviceAddress : String := ""
  deriving DecidableEq, Repr

namespace Address

instance : Inhabited Address := ⟨{}⟩

/-- The address of a service of a device. Models `Address::device`. -/
def device (msgType : MsgType) (resourceName resourceAddress serviceName serviceAddress : String) :
    Address :=
  { msgType, resourceType := .device, resourceName, resourceAddress, serviceName, serviceAddress }

/-- The address of an application. Models `Address::app`. -/
def app (msgType : MsgType) (resourceName resourceAddress : String) : Address :=
  { msgType, resourceType := .app, resourceName, resourceAddress }

/-- The address of an adapter. Models `Address::adapter`. -/
def adapter (msgType : MsgType) (resourceName resourceAddress : String) : Address :=
  { msgType, resourceType := .adapter, resourceName, resourceAddress }

/-! ## Writing -/

/-- A token of an address. -/
def token (name value : String) : List Char := name.toList ++ ':' :: value.toList

/-- The tokens of an address. Models what `Address::fmt` writes. -/
def tokens (a : Address) : List (List Char) :=
  [token "pt" a.payloadType, token "mt" a.msgType.tag, token "rt" a.resourceType.tag,
    token "rn" a.resourceName, token "ad" a.resourceAddress] ++
    if a.resourceType = .device then [token "sv" a.serviceName, token "ad" a.serviceAddress] else []

/-- The topic of an address. Models `Address::serialize`. -/
def topic (a : Address) : String := String.ofList (Text.joinWith '/' a.tokens)

/-! ## Reading -/

/-- The name and the value of a token, which its first colon separates. -/
def splitToken? : List Char → Option (List Char × List Char)
  | [] => none
  | c :: rest =>
    if c = ':' then some ([], rest)
    else (splitToken? rest).map fun (name, value) => (c :: name, value)

/-- An address while its tokens are being read. -/
structure Reading where
  address : Address
  /-- Whether a service token was seen. -/
  inService : Bool

/-- Takes one token into account. Models one turn of the loop in `Address::parse`. -/
def Reading.add (r : Reading) (chars : List Char) : Reading :=
  match splitToken? chars with
  | none => r
  | some (name, value) =>
    let name := String.ofList name
    let value := String.ofList value
    let a := r.address
    if name = "pt" then { r with address := { a with payloadType := value } }
    else if name = "mt" then
      match MsgType.ofTag? value with
      | some msgType => { r with address := { a with msgType } }
      | none => r
    else if name = "rt" then
      match ResourceType.ofTag? value with
      | some resourceType => { r with address := { a with resourceType } }
      | none => r
    else if name = "rn" then { r with address := { a with resourceName := value } }
    else if name = "sv" then ⟨{ a with serviceName := value }, true⟩
    else if name = "ad" then
      if r.inService then { r with address := { a with serviceAddress := value } }
      else { r with address := { a with resourceAddress := value } }
    else r

/-- The address that a topic names. Models `Address::parse`. -/
def ofTopic (topic : String) : Address :=
  ((Text.splitAt '/' topic.toList).foldl Reading.add ⟨{}, false⟩).address

end Address

end HomeBus
