import HomeBus.Error

/-!
# Envelopes

A message on the wire is a JSON object with the members of `Field`. The first six are required and
`tags` and `props` may be null there, which means empty; of the other four an absent or null one
keeps its default. Other members are passed over. The same values in the order of `Field.all` may
also come as an array.

* `encode` writes a message to bytes, `toJson` to a document.
* `decode` reads bytes, part by part as they come, so an unknown member may hold anything that has
  the form of JSON. `ofJson` reads a document, whose members come in order of their keys.
* Whether `corid` is written is a choice of the writer; it is always read.
-/

namespace HomeBus.Envelope

open Json (Reader Decoder)

/-- The members of an envelope. Models the fields of `WireOut` and of `WireIn`. -/
inductive Field where
  | serv
  | type
  | valT
  | val
  | tags
  | props
  | ctime
  | ver
  | uid
  | corid
  deriving DecidableEq, Repr

namespace Field

def name : Field → String
  | .serv => "serv"
  | .type => "type"
  | .valT => "val_t"
  | .val => "val"
  | .tags => "tags"
  | .props => "props"
  | .ctime => "ctime"
  | .ver => "ver"
  | .uid => "uid"
  | .corid => "corid"

/-- All members, in the order in which an array holds them. -/
def all : List Field := [.serv, .type, .valT, .val, .tags, .props, .ctime, .ver, .uid, .corid]

def ofName? (key : String) : Option Field := all.find? fun field => field.name == key

end Field

/-! ## Writing -/

/-- The members of a message's envelope in the order in which they are written. Models
    `JsonCodec::envelope`. -/
def members (emitCorid : Bool) (props : List (String × String)) (m : Message) :
    List (String × Json) :=
  [(Field.serv.name, .str m.service), (Field.type.name, .str m.msgType),
    (Field.valT.name, .str m.valueType.tag), (Field.val.name, m.value),
    (Field.tags.name, .arr (m.tags.map .str)),
    (Field.props.name, .obj (props.map fun entry => (entry.1, .str entry.2))),
    (Field.ctime.name, .str m.ctime), (Field.ver.name, .str m.ver), (Field.uid.name, .str m.uid)] ++
    if emitCorid && m.corid ≠ "" then [(Field.corid.name, .str m.corid)] else []

/-- The wire bytes of a message whose properties are written in a given order. Models
    `JsonCodec::encode` with the order in which a hash map lists its entries. -/
def encodeOrdered (emitCorid : Bool) (props : List (String × String)) (m : Message) : Bytes :=
  Json.bytes (.obj (members emitCorid props m))

/-- The wire bytes of a message. Models `JsonCodec::encode` with the properties in order of their
    keys. -/
def encode (emitCorid : Bool) (m : Message) : Bytes := encodeOrdered emitCorid m.props.entries m

/-- The envelope of a message as a document. Models `JsonCodec::to_value`. -/
def toJson (emitCorid : Bool) (m : Message) : Json :=
  Json.ofMembers (members emitCorid m.props.entries m)

/-! ## Reading -/

/-- An envelope while its members are being read; `none` stands for a member not seen yet. Models
    `WireIn`. -/
structure Draft where
  serv : Option String := none
  type : Option String := none
  valT : Option ValueType := none
  val : Option Json := none
  tags : Option (List String) := none
  props : Option (Dict String) := none
  ctime : Option (Option String) := none
  ver : Option (Option String) := none
  uid : Option (Option String) := none
  corid : Option (Option String) := none

namespace Draft

/-- Whether a member was seen. -/
def has (draft : Draft) : Field → Bool
  | .serv => draft.serv.isSome
  | .type => draft.type.isSome
  | .valT => draft.valT.isSome
  | .val => draft.val.isSome
  | .tags => draft.tags.isSome
  | .props => draft.props.isSome
  | .ctime => draft.ctime.isSome
  | .ver => draft.ver.isSome
  | .uid => draft.uid.isSome
  | .corid => draft.corid.isSome

/-- A member that must have been seen. -/
def need {α : Type} (field : Field) : Option α → Except Mismatch α
  | some a => .ok a
  | none => .error (.missingField field.name)

/-- The message of a complete envelope. Models `WireIn::into_message`. -/
def finish (draft : Draft) : Except Mismatch Message := do
  let service ← need .serv draft.serv
  let msgType ← need .type draft.type
  let valueType ← need .valT draft.valT
  let value ← need .val draft.val
  let tags ← need .tags draft.tags
  let props ← need .props draft.props
  return {
    service, msgType, valueType, value, tags, props
    ctime := (draft.ctime.join).getD ""
    ver := (draft.ver.join).getD protocolVersion
    uid := (draft.uid.join).getD ""
    corid := (draft.corid.join).getD "" }

end Draft

/-- What an envelope is called where one was expected. -/
def title : String := "struct WireIn"

/-- What an array of the wrong length should have been. -/
def arrayTitle : String := title ++ " with " ++ toString Field.all.length ++ " elements"

/-! ### From bytes -/

/-- Keeps what a reader read in a draft. -/
def store {α : Type} (reader : Reader α) (put : α → Draft) : Reader Draft := fun bytes => do
  let (a, rest) ← reader bytes
  return (put a, rest)

/-- Reads the value of a member. Models the fields of `WireIn` and `null_as_empty`. -/
def Field.read (draft : Draft) : Field → Reader Draft
  | .serv => store Reader.text fun s => { draft with serv := some s }
  | .type => store Reader.text fun s => { draft with type := some s }
  | .valT => store ValueType.reader fun t => { draft with valT := some t }
  | .val => store (Reader.value (Json.maxDepth - 1)) fun v => { draft with val := some v }
  | .tags => store (Reader.nullOr Reader.texts) fun l => { draft with tags := some (l.getD []) }
  | .props => store (Reader.nullOr Reader.textDict) fun d =>
      { draft with props := some (d.getD .empty) }
  | .ctime => store (Reader.nullOr Reader.text) fun s => { draft with ctime := some s }
  | .ver => store (Reader.nullOr Reader.text) fun s => { draft with ver := some s }
  | .uid => store (Reader.nullOr Reader.text) fun s => { draft with uid := some s }
  | .corid => store (Reader.nullOr Reader.text) fun s => { draft with corid := some s }

/-- Reads a member of an envelope from the colon on. -/
def readMember (draft : Draft) (key : String) : Reader Draft := fun bytes =>
  match Field.ofName? key with
  | some field =>
    if draft.has field then .error (.mismatch (.duplicateField key))
    else do
      let rest ← Reader.colon bytes
      field.read draft rest
  | none => do
    let rest ← Reader.colon bytes
    let ((), rest) ← Reader.skipValue rest
    return (draft, rest)

/-- Passes the end of an array that holds an envelope. -/
def endArray (bytes : Bytes) : Except Json.Error Bytes :=
  match Json.skipBlank bytes with
  | [] => Json.malformed .endInList
  | b :: rest =>
    if b = 0x5D then .ok rest
    else if b = 0x2C then
      match Json.skipBlank rest with
      | c :: _ => Json.malformed (if c = 0x5D then .trailingComma else .trailingCharacters)
      | [] => Json.malformed .trailingCharacters
    else Json.malformed .trailingCharacters

/-- Reads the values of an array that holds an envelope; `taken` of them were read before. -/
def readItems (taken : Nat) (draft : Draft) : List Field → Reader Draft
  | [], bytes => do
    let rest ← endArray bytes
    return (draft, rest)
  | field :: fields, bytes =>
    match Json.skipBlank bytes with
    | [] => Json.malformed .endInList
    | b :: rest =>
      if b = 0x5D then .error (.mismatch (.wrongLength taken arrayTitle))
      else do
        let start ← if taken = 0 then .ok (b :: rest) else Reader.listComma b rest
        let (draft, rest) ← field.read draft start
        readItems (taken + 1) draft fields rest

/-- Reads an envelope off the front of a text. -/
def reader : Reader Message := fun bytes =>
  match Json.skipBlank bytes with
  | [] => Json.malformed .endInValue
  | b :: rest => do
    if b = 0x7B then
      -- A member can only be missed once the closing brace is there.
      let (draft, rest) ← Reader.membersOf readMember {} rest
      match draft.finish with
      | .ok m => return (m, rest)
      | .error cause => .error (.mismatch cause)
    else if b = 0x5B then
      let (draft, rest) ← readItems 0 {} Field.all rest
      match draft.finish with
      | .ok m => return (m, rest)
      | .error cause => .error (.mismatch cause)
    else Reader.refuse title (b :: rest)

/-- The message that wire bytes hold. Models `JsonCodec::decode`. -/
def decode (bytes : Bytes) : Except Error Message :=
  match Reader.document reader bytes with
  | .ok m => .ok m
  | .error cause => .error (.codec (.json cause))

/-! ### From a document -/

/-- Keeps what a decoder reads in a draft. -/
def keep {α : Type} (decoder : Decoder α) (put : α → Draft) (value : Json) : Except Mismatch Draft :=
  (decoder value).map put

/-- Reads the value of a member out of a document. Models the fields of `WireIn` and
    `null_as_empty`. -/
def Field.decode (draft : Draft) : Field → Json → Except Mismatch Draft
  | .serv => keep Decoder.text fun s => { draft with serv := some s }
  | .type => keep Decoder.text fun s => { draft with type := some s }
  | .valT => keep ValueType.decoder fun t => { draft with valT := some t }
  | .val => keep Decoder.any fun v => { draft with val := some v }
  | .tags => keep (Decoder.nullOr (Decoder.listOf Decoder.text)) fun l =>
      { draft with tags := some (l.getD []) }
  | .props => keep (Decoder.nullOr (Decoder.dictOf Decoder.text)) fun d =>
      { draft with props := some (d.getD .empty) }
  | .ctime => keep (Decoder.nullOr Decoder.text) fun s => { draft with ctime := some s }
  | .ver => keep (Decoder.nullOr Decoder.text) fun s => { draft with ver := some s }
  | .uid => keep (Decoder.nullOr Decoder.text) fun s => { draft with uid := some s }
  | .corid => keep (Decoder.nullOr Decoder.text) fun s => { draft with corid := some s }

/-- Takes a member of a document into account. -/
def decodeMember (draft : Draft) (member : String × Json) : Except Mismatch Draft :=
  match Field.ofName? member.1 with
  | some field => field.decode draft member.2
  | none => .ok draft

/-- Takes the items of an array into account, which hold the given members in order. -/
def decodeItems (taken : Nat) (draft : Draft) : List Field → List Json → Except Mismatch Draft
  | [], [] => .ok draft
  | [], rest@(_ :: _) => .error (.wrongLength (taken + rest.length) "fewer elements in array")
  | _ :: _, [] => .error (.wrongLength taken arrayTitle)
  | field :: fields, item :: rest => do
    let draft ← field.decode draft item
    decodeItems (taken + 1) draft fields rest

/-- The envelope that a document holds. -/
def decoder : Decoder Message
  | .obj members => do
    let draft ← members.foldlM decodeMember {}
    draft.finish
  | .arr items => do
    let draft ← decodeItems 0 {} Field.all items
    draft.finish
  | other => .error (.wrongType other.found title)

/-- The message that a document holds. Models `JsonCodec::from_value`. -/
def ofJson (value : Json) : Except Error Message :=
  match decoder value with
  | .ok m => .ok m
  | .error cause => .error (.codec (.json (.mismatch cause)))

end HomeBus.Envelope

namespace HomeBus

/-- How messages are turned into payloads and back. Models `Codec`. -/
structure Codec where
  encode : Message → Except Error Bytes
  decode : Bytes → Except Error Message

/-- The envelope as JSON, with or without `corid`. Models `JsonCodec::new` and
    `JsonCodec::with_corid`. -/
def Codec.json (emitCorid : Bool) : Codec where
  encode m := .ok (Envelope.encode emitCorid m)
  decode := Envelope.decode

end HomeBus
