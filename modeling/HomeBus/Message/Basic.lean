import HomeBus.Message.ValueType

/-!
# Messages

A message is what travels between the parties of the bus: who speaks (`service`), what about
(`msgType`), a typed value, free tags and properties, and the identity that lets a reply name the
message it answers. Messages are built with an `Identity`; a message that was read may have none.
-/

namespace HomeBus

/-- What makes a message one of its kind: its identifier and the time it was made. Models what
    `generate_uid` and `timestamp` give. -/
structure Identity where
  uid : String
  ctime : String
  deriving DecidableEq

/-- The protocol version that a message carries unless it says otherwise. -/
def protocolVersion : String := "1.0"

/-- A message; by default an empty one without identity. Models `Message` with
    `Message::default`. -/
structure Message where
  service : String := ""
  msgType : String := ""
  valueType : ValueType := .null
  value : Json := .null
  tags : List String := []
  props : Dict String := .empty
  ctime : String := ""
  uid : String := ""
  ver : String := protocolVersion
  /-- The `uid` of the message that this one answers; empty if it answers none. -/
  corid : String := ""
  deriving DecidableEq

namespace Message

instance : Inhabited Message := ⟨{}⟩

/-! ## Building -/

/-- A message with a value of any declared type. Models `Message::new`. -/
def new (id : Identity) (msgType service : String) (valueType : ValueType) (value : Json) :
    Message :=
  { service, msgType, valueType, value, ctime := id.ctime, uid := id.uid }

/-- A message with a text. Models `Message::new_string`. -/
def newString (id : Identity) (msgType service : String) (value : String) : Message :=
  new id msgType service .string (.str value)

/-- A message with a truth value. Models `Message::new_bool`. -/
def newBool (id : Identity) (msgType service : String) (value : Bool) : Message :=
  new id msgType service .bool (.bool value)

/-- A message with an integer. Models `Message::new_int`. -/
def newInt (id : Identity) (msgType service : String) (value : Int64) : Message :=
  new id msgType service .int (.num (.ofInt64 value))

/-- A double as a document; one that is not finite has no form in JSON and becomes null. -/
def floatJson (value : Binary64) : Json :=
  match Json.Number.ofDouble? value with
  | some n => .num n
  | none => .null

/-- A message with a double. Models `Message::new_float`. -/
def newFloat (id : Identity) (msgType service : String) (value : Binary64) : Message :=
  new id msgType service .float (floatJson value)

/-- A message with no value. Models `Message::new_null`. -/
def newNull (id : Identity) (msgType service : String) : Message :=
  new id msgType service .null .null

/-- A message with a dictionary of texts. Models `Message::new_str_map`. -/
def newStrMap (id : Identity) (msgType service : String) (value : Dict String) : Message :=
  new id msgType service .strMap (.obj (value.entries.map fun entry => (entry.1, .str entry.2)))

/-- A message with a list of texts. Models `Message::new_str_array`. -/
def newStrArray (id : Identity) (msgType service : String) (value : List String) : Message :=
  new id msgType service .strArray (.arr (value.map .str))

/-- A message with a document. Models `Message::new_object`. -/
def newObject (id : Identity) (msgType service : String) (value : Json) : Message :=
  new id msgType service .object value

/-- Sets all properties. Models `Message::with_props`. -/
def withProps (m : Message) (props : Dict String) : Message := { m with props }

/-- Sets one property. Models `Message::with_prop`. -/
def withProp (m : Message) (key value : String) : Message :=
  { m with props := m.props.insert key value }

/-- Sets the tags. Models `Message::with_tags`. -/
def withTags (m : Message) (tags : List String) : Message := { m with tags }

/-- Sets the identifier. Models `Message::with_uid`. -/
def withUid (m : Message) (uid : String) : Message := { m with uid }

/-- Sets the time. Models `Message::with_ctime`. -/
def withCtime (m : Message) (ctime : String) : Message := { m with ctime }

/-- Marks a message as the reply to `request`. Models `Message::reply_to`. -/
def replyTo (m request : Message) : Message := { m with corid := request.uid }

/-! ## Identity -/

/-- Whether both parts of the identity are there. Models `Message::is_complete`. -/
def isComplete (m : Message) : Bool := m.uid ≠ "" && m.ctime ≠ ""

/-- Fills in what is missing of the identity. Models `Message::ensure_identity`. -/
def ensureIdentity (id : Identity) (m : Message) : Message :=
  { m with
    uid := if m.uid = "" then id.uid else m.uid
    ctime := if m.ctime = "" then id.ctime else m.ctime }

/-- A message in one line. Models `Message::fmt`. -/
def summary (m : Message) : String :=
  "service=" ++ m.service ++ " type=" ++ m.msgType ++ " val_t=" ++ m.valueType.tag ++ " uid=" ++
    m.uid ++ if m.corid = "" then "" else " corid=" ++ m.corid

end Message

end HomeBus
