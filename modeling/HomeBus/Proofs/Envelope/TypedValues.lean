import HomeBus.Message.Access
import HomeBus.Proofs.Envelope.RoundTrip

/-!
# Typed values on the wire

A message is built from a value of some type, its other parts are set one by one, it is written and
read, and the value is taken out again by the accessor of its type. `Content` is a value with its
type, `Change` sets one of the other parts, and `Accessor` names the six typed accessors.

Results:
* `valueType_foldl`, `value_foldl`: setting other parts keeps the value and its type.
* `foundIn_of_value`: the accessor of its type gives a value back.
* `read_of_ne`: every other typed accessor refuses a message with both types.
* `contents_survive`: so it is after any codec.
-/

namespace HomeBus.Message

/-! ## Values and accessors -/

/-- A value with the type that it is sent as. -/
inductive Content where
  | string (value : String)
  | bool (value : Bool)
  | int (value : Int64)
  | null
  | strMap (value : Dict String)
  | strArray (value : List String)
  | object (value : Json)

namespace Content

/-- The message that is built from a value. -/
def message (id : Identity) (msgType service : String) : Content → Message
  | .string value => newString id msgType service value
  | .bool value => newBool id msgType service value
  | .int value => newInt id msgType service value
  | .null => newNull id msgType service
  | .strMap value => newStrMap id msgType service value
  | .strArray value => newStrArray id msgType service value
  | .object value => newObject id msgType service value

def valueType : Content → ValueType
  | .string _ => .string
  | .bool _ => .bool
  | .int _ => .int
  | .null => .null
  | .strMap _ => .strMap
  | .strArray _ => .strArray
  | .object _ => .object

/-- The document that stands for a value. -/
def json : Content → Json
  | .string value => .str value
  | .bool value => .bool value
  | .int value => .num (.ofInt64 value)
  | .null => .null
  | .strMap value => .obj (value.entries.map Json.Decoder.textMember)
  | .strArray value => .arr (value.map .str)
  | .object value => value

/-- Any value may be sent, but a document only if there are no doubles in it and it leaves room for
    the envelope around it. -/
def Sendable : Content → Prop
  | .object value => value.Canonical ∧ value.Integral ∧ value.depth ≤ 126
  | _ => True

/-- The accessor for values of its type gives the value. There is none for null; like a document it
    is what the value is when it is read as anything. -/
def FoundIn (m : Message) : Content → Prop
  | .string value => m.stringValue = .ok value
  | .bool value => m.boolValue = .ok value
  | .int value => m.intValue = .ok value
  | .null => m.decode Json.Decoder.any = .ok .null
  | .strMap value => m.strMapValue = .ok value
  | .strArray value => m.strArrayValue = .ok value
  | .object value => m.decode Json.Decoder.any = .ok value

end Content

/-- The typed accessors. -/
inductive Accessor where
  | string
  | bool
  | int
  | float
  | strMap
  | strArray

namespace Accessor

/-- The value type that an accessor asks for. -/
def expected : Accessor → ValueType
  | .string => .string
  | .bool => .bool
  | .int => .int
  | .float => .float
  | .strMap => .strMap
  | .strArray => .strArray

/-- What an accessor gives. -/
def Value : Accessor → Type
  | .string => String
  | .bool => Bool
  | .int => Int64
  | .float => Binary64
  | .strMap => Dict String
  | .strArray => List String

def read (m : Message) : (accessor : Accessor) → Except Error accessor.Value
  | .string => m.stringValue
  | .bool => m.boolValue
  | .int => m.intValue
  | .float => m.floatValue
  | .strMap => m.strMapValue
  | .strArray => m.strArrayValue

end Accessor

/-! ## Other parts of a message -/

/-- Sets a part of a message other than its value. -/
inductive Change where
  | props (dict : Dict String)
  | prop (key text : String)
  | tags (list : List String)
  | uid (text : String)
  | ctime (text : String)
  | replyTo (request : Message)

def Change.apply (m : Message) : Change → Message
  | .props dict => m.withProps dict
  | .prop key text => m.withProp key text
  | .tags list => m.withTags list
  | .uid text => m.withUid text
  | .ctime text => m.withCtime text
  | .replyTo request => m.replyTo request

variable {m : Message} {c : Content}

@[simp] theorem Change.valueType_apply (m : Message) (change : Change) :
    (change.apply m).valueType = m.valueType := by
  cases change <;> rfl

@[simp] theorem Change.value_apply (m : Message) (change : Change) :
    (change.apply m).value = m.value := by
  cases change <;> rfl

theorem valueType_foldl (m : Message) (changes : List Change) :
    (changes.foldl Change.apply m).valueType = m.valueType := by
  induction changes generalizing m with
  | nil => rfl
  | cons change changes ih => rw [List.foldl_cons, ih, Change.valueType_apply]

theorem value_foldl (m : Message) (changes : List Change) :
    (changes.foldl Change.apply m).value = m.value := by
  induction changes generalizing m with
  | nil => rfl
  | cons change changes ih => rw [List.foldl_cons, ih, Change.value_apply]

/-! ## The accessors -/

section

variable {α : Type} {expected : ValueType} {find : Json → Option α} {a : α}

theorem typed_of_ne (ne : m.valueType ≠ expected) :
    m.typed expected find = .error (.valueType expected m.valueType) := by
  rw [typed, expect, if_neg ne]
  rfl

theorem typed_of_eq (same : m.valueType = expected) (found : find m.value = some a) :
    m.typed expected find = .ok a := by
  rw [typed, expect, if_pos same, found]
  rfl

end

/-- An accessor of another type refuses a message and names both types. -/
theorem Accessor.read_of_ne (accessor : Accessor) (ne : m.valueType ≠ accessor.expected) :
    accessor.read m = .error (.valueType accessor.expected m.valueType) := by
  cases accessor
  all_goals
    rw [read]
    exact typed_of_ne ne

namespace Content

theorem message_eq (id : Identity) (msgType service : String) (c : Content) :
    c.message id msgType service = new id msgType service c.valueType c.json := by
  cases c <;> rfl

/-- An integer is found again from its number, whatever its sign. -/
theorem int64?_ofInt64 (value : Int64) : (Json.Number.ofInt64 value).int64? = some value := by
  have small : value.toInt < 0x8000_0000_0000_0000 := Int64.toInt_lt value
  rw [Json.Number.ofInt64, Json.Number.int64?, if_pos small, Int64.ofInt_toInt]

theorem canonical_json (sendable : c.Sendable) : c.json.Canonical := by
  cases c with
  | object value => exact sendable.1
  | strMap value => exact Json.Decoder.canonical_textMembers value.sorted
  | strArray value => exact Json.Decoder.canonical_texts value
  | string | bool | int | null => trivial

theorem integral_json (sendable : c.Sendable) : c.json.Integral := by
  cases c with
  | object value => exact sendable.2.1
  | strMap value => exact Json.Decoder.integral_textMembers value.entries
  | strArray value => exact Json.Decoder.integral_texts value
  | int value => simp [json, Json.Number.ofInt64, Json.Integral]
  | string | bool | null => simp [json, Json.Integral]

theorem depth_json_le (sendable : c.Sendable) : c.json.depth ≤ 126 := by
  cases c with
  | object value => exact sendable.2.2
  | strMap value => exact (Json.Decoder.depth_textMembers_le value.entries).trans (by decide)
  | strArray value => exact (Json.Decoder.depth_texts_le value).trans (by decide)
  | string | bool | int | null => exact Nat.zero_le _

/-- The accessor of its type gives a value back. -/
theorem foundIn_of_value (type : m.valueType = c.valueType) (value : m.value = c.json)
    (sendable : c.Sendable) : c.FoundIn m := by
  cases c with
  | string s => exact typed_of_eq type (by rw [value]; rfl)
  | bool b => exact typed_of_eq type (by rw [value]; rfl)
  | int i =>
    refine typed_of_eq type ?_
    rw [value]
    exact int64?_ofInt64 i
  | null | object => rw [FoundIn, decode, value]; rfl
  | strMap dict =>
    have read : Json.Decoder.dictOf Json.Decoder.text (Content.strMap dict).json = .ok dict :=
      (Json.Decoder.textDict_eq_ok_iff (canonical_json sendable)).2 rfl
    exact typed_of_eq type (by rw [value, read]; rfl)
  | strArray list =>
    have read : Json.Decoder.listOf Json.Decoder.text (Content.strArray list).json = .ok list :=
      Json.Decoder.texts_eq_ok_iff.2 rfl
    exact typed_of_eq type (by rw [value, read]; rfl)

end Content

/-! ## Through a codec -/

/-- A value that was sent, whatever else the message says, is what the accessor of its type finds in
    the message that is received, and the other typed accessors refuse it. -/
theorem contents_survive (id : Identity) (msgType service : String) (c : Content)
    (sendable : c.Sendable) (changes : List Change) (emitCorid reads : Bool) :
    let sent := changes.foldl Change.apply (c.message id msgType service)
    (Codec.json emitCorid).encode sent =
        .ok (Envelope.encodeOrdered emitCorid sent.props.entries sent) ∧
      ∀ props, props.Perm sent.props.entries → ∃ received,
        (Codec.json reads).decode (Envelope.encodeOrdered emitCorid props sent) = .ok received ∧
        c.FoundIn received ∧
        ∀ accessor : Accessor, accessor.expected ≠ c.valueType →
          accessor.read received = .error (.valueType accessor.expected c.valueType) := by
  intro sent
  have type : sent.valueType = c.valueType := by
    rw [valueType_foldl, Content.message_eq, new]
  have value : sent.value = c.json := by
    rw [value_foldl, Content.message_eq, new]
  rw [Envelope.decode_codec]
  refine ⟨rfl, fun props perm => ?_⟩
  have canonical : sent.value.Canonical := value ▸ Content.canonical_json sendable
  have integral : sent.value.Integral := value ▸ Content.integral_json sendable
  have fits : sent.value.depth ≤ 126 := value ▸ Content.depth_json_le sendable
  have read := Envelope.decode_encodeOrdered emitCorid perm canonical integral fits
  -- Of what was sent at most `corid` is missing.
  have type' : (Envelope.delivered emitCorid sent).valueType = c.valueType := by
    cases emitCorid <;> exact type
  have value' : (Envelope.delivered emitCorid sent).value = c.json := by
    cases emitCorid <;> exact value
  refine ⟨_, read, Content.foundIn_of_value type' value' sendable, fun accessor other => ?_⟩
  rw [accessor.read_of_ne (type' ▸ other.symm), type']

/-- A list of whole numbers inside an object. -/
def counts : Json :=
  .obj [("k", .arr [.num (.ofInt64 (-1)), .num (.int 0xFFFF_FFFF_FFFF_FFFF (by decide))])]

/-- A reply that brings it. -/
def report : Message :=
  ((newObject ⟨"v", "0"⟩ "t" "s" counts).withProp "a" "1").replyTo { uid := "u" }

/-- It is found in the reply, and is no text there. -/
theorem contents_survive_report :
    (Content.object counts).Sendable ∧ ∃ received,
      (Codec.json true).decode (Envelope.encode false report) = .ok received ∧
      received.decode Json.Decoder.any = .ok counts ∧
      received.stringValue = .error (.valueType .string .object) := by
  have sendable : (Content.object counts).Sendable := by
    simp [Content.Sendable, counts, Json.Canonical, Json.CanonicalMembers, Json.CanonicalItems,
      Entries.Sorted, Json.Integral, Json.IntegralMembers, Json.IntegralItems, Json.depth,
      Json.membersDepth, Json.itemsDepth, Json.Number.ofInt64]
  obtain ⟨-, all⟩ := contents_survive ⟨"v", "0"⟩ "t" "s" (.object counts) sendable
    [.prop "a" "1", .replyTo { uid := "u" }] false true
  obtain ⟨received, read, found, refused⟩ := all _ (.refl _)
  exact ⟨sendable, received, read, found, refused .string (by decide)⟩

end HomeBus.Message
