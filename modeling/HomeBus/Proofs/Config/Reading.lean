import HomeBus.Engine
import HomeBus.Proofs.Toml.Document
import HomeBus.Proofs.Toml.Sections

/-!
# What a configuration is made of

A configuration has ten settings, each under a key of its own in one of three sections. What a
document says of a setting, if anything, counts for this setting only; a configuration is read
exactly when nothing that is said has the wrong type or is out of its range.

Results:
* `Setting.value?_eq_some_iff`: the values of a setting are those that its decoder accepts and no
  check refuses.
* `readTable_eq_ok_iff`: a document without checks, setting by setting.
* `validate_eq_ok_iff`: the checks of a configuration are checks of its settings.
* `ofText_eq_ok_iff_chosen`, `ofText_reads_each_setting`: what is read of the text of a document,
  and the engine made from it.
-/

namespace HomeBus.Config

open Toml (Decoder Fields)

/-! ## Settings -/

inductive BrokerKey where
  | host
  | port
  | keepaliveSecs
  | clientId
  | qos
  deriving DecidableEq

inductive RequestKey where
  | timeoutSecs
  | matchByCorrelationId
  | emitCorid
  deriving DecidableEq

inductive LoggingKey where
  | level
  | format
  deriving DecidableEq

/-- What can be set, by section and key. -/
inductive Setting where
  | broker (key : BrokerKey)
  | requests (key : RequestKey)
  | logging (key : LoggingKey)
  deriving DecidableEq

def BrokerKey.name : BrokerKey → String
  | .host => "host"
  | .port => "port"
  | .keepaliveSecs => "keepalive_secs"
  | .clientId => "client_id"
  | .qos => "qos"

def RequestKey.name : RequestKey → String
  | .timeoutSecs => "timeout_secs"
  | .matchByCorrelationId => "match_by_correlation_id"
  | .emitCorid => "emit_corid"

def LoggingKey.name : LoggingKey → String
  | .level => "level"
  | .format => "format"

def BrokerKey.Value : BrokerKey → Type
  | .host => String
  | .port => UInt16
  | .keepaliveSecs => UInt64
  | .clientId => Option String
  | .qos => UInt8

def RequestKey.Value : RequestKey → Type
  | .timeoutSecs => UInt64
  | .matchByCorrelationId => Bool
  | .emitCorid => Bool

def LoggingKey.Value : LoggingKey → Type
  | .level => String
  | .format => LogFormat

def BrokerKey.look (b : BrokerSettings) : (key : BrokerKey) → key.Value
  | .host => b.host
  | .port => b.port
  | .keepaliveSecs => b.keepaliveSecs
  | .clientId => b.clientId
  | .qos => b.qos

def RequestKey.look (r : RequestSettings) : (key : RequestKey) → key.Value
  | .timeoutSecs => r.timeoutSecs
  | .matchByCorrelationId => r.matchByCorrelationId
  | .emitCorid => r.emitCorid

def LoggingKey.look (l : LoggingSettings) : (key : LoggingKey) → key.Value
  | .level => l.level
  | .format => l.format

namespace Setting

/-- The section of a setting. -/
def section_ : Setting → String
  | .broker _ => "broker"
  | .requests _ => "requests"
  | .logging _ => "logging"

/-- The key of a setting in its section. -/
def name : Setting → String
  | .broker key => key.name
  | .requests key => key.name
  | .logging key => key.name

def Value : Setting → Type
  | .broker key => key.Value
  | .requests key => key.Value
  | .logging key => key.Value

/-- What a setting is in a configuration. -/
def look (c : Config) : (s : Setting) → s.Value
  | .broker key => key.look c.broker
  | .requests key => key.look c.requests
  | .logging key => key.look c.logging

/-- What a setting is when nothing is said of it. -/
def default : (s : Setting) → s.Value
  | .broker .host => "localhost"
  | .broker .port => (1883 : UInt16)
  | .broker .keepaliveSecs => (60 : UInt64)
  | .broker .clientId => none
  | .broker .qos => (1 : UInt8)
  | .requests .timeoutSecs => (60 : UInt64)
  | .requests .matchByCorrelationId => false
  | .requests .emitCorid => false
  | .logging .level => "info"
  | .logging .format => LogFormat.pretty

end Setting

/-! ### Types and ranges -/

def text? : Toml → Option String
  | .text t => some t
  | _ => none

def bool? : Toml → Option Bool
  | .bool b => some b
  | _ => none

/-- An integer in a range of natural numbers. -/
def int? (range : Int → Prop) [DecidablePred range] : Toml → Option ℕ
  | .int i => if range i then some i.toNat else none
  | _ => none

/-- The name of a log format. -/
def format? : Toml → Option LogFormat
  | .text t =>
    if t = "pretty" then some .pretty else if t = "json" then some .json else none
  | _ => none

/-- The value that a document gives a setting, if it has the type and range of the setting. -/
def Setting.value? : (s : Setting) → Toml → Option s.Value
  | .broker .host => text?
  | .broker .port => fun v => (int? (fun i => 1 ≤ i ∧ i ≤ 65535) v).map Nat.toUInt16
  | .broker .keepaliveSecs => fun v => (int? (fun i => 0 ≤ i) v).map Nat.toUInt64
  | .broker .clientId => fun v => (text? v).map some
  | .broker .qos => fun v => (int? (fun i => 0 ≤ i ∧ i ≤ 2) v).map Nat.toUInt8
  | .requests .timeoutSecs => fun v => (int? (fun i => 1 ≤ i) v).map Nat.toUInt64
  | .requests .matchByCorrelationId => bool?
  | .requests .emitCorid => bool?
  | .logging .level => text?
  | .logging .format => format?

/-- What stands at a key of a table, if there is a table. -/
def inside (key : String) : Option Toml → Option Toml
  | some (.table entries) => Entries.get? key entries
  | _ => none

/-- What the entries of a document say of a setting. -/
def said (entries : List (String × Toml)) (s : Setting) : Option Toml :=
  inside s.name (Entries.get? s.section_ entries)

/-! ## Decoders and checks -/

def BrokerKey.decoder : (key : BrokerKey) → Decoder key.Value
  | .host => Decoder.text
  | .port => Decoder.uint16
  | .keepaliveSecs => Decoder.uint64
  | .clientId => fun v => (Decoder.text v).map some
  | .qos => Decoder.uint8

def RequestKey.decoder : (key : RequestKey) → Decoder key.Value
  | .timeoutSecs => Decoder.uint64
  | .matchByCorrelationId => Decoder.bool
  | .emitCorid => Decoder.bool

def LoggingKey.decoder : (key : LoggingKey) → Decoder key.Value
  | .level => Decoder.text
  | .format => Decoder.oneOf LogFormat.known

namespace Setting

/-- How a setting is read. -/
def decoder : (s : Setting) → Decoder s.Value
  | .broker key => key.decoder
  | .requests key => key.decoder
  | .logging key => key.decoder

/-- Whether the checks of a configuration let a value pass. -/
def Admits : (s : Setting) → s.Value → Prop
  | .broker .port => fun port : UInt16 => port ≠ 0
  | .broker .qos => fun level : UInt8 => level.toNat ≤ 2
  | .requests .timeoutSecs => fun secs : UInt64 => secs ≠ 0
  | _ => fun _ => True

theorem admits_default : (s : Setting) → s.Admits s.default
  | .broker .port => (by decide : (1883 : UInt16) ≠ 0)
  | .broker .qos => (by decide : (1 : UInt8).toNat ≤ 2)
  | .requests .timeoutSecs => (by decide : (60 : UInt64) ≠ 0)
  | .broker .host | .broker .keepaliveSecs | .broker .clientId => trivial
  | .requests .matchByCorrelationId | .requests .emitCorid => trivial
  | .logging .level | .logging .format => trivial

end Setting

section

variable {v : Toml} {most : ℕ} {name : String}

theorem decoder_text_iff {t : String} : text? v = some t ↔ Decoder.text v = .ok t := by
  cases v <;> simp [text?, Decoder.text, Decoder.wrongType]

theorem decoder_someText_iff {t : Option String} :
    (text? v).map some = some t ↔ (Decoder.text v).map some = .ok t := by
  cases v <;> simp [text?, Decoder.text, Decoder.wrongType, Except.map]

theorem decoder_bool_iff {b : Bool} : bool? v = some b ↔ Decoder.bool v = .ok b := by
  cases v <;> simp [bool?, Decoder.bool, Decoder.wrongType]

/-- A format is given by its name, unless it is given by a table. -/
theorem decoder_format_iff {f : LogFormat} (plain : ∀ entries, v ≠ .table entries) :
    format? v = some f ↔ Decoder.oneOf LogFormat.known v = .ok f := by
  cases v with
  | text t =>
    rw [format?, Decoder.oneOf, Decoder.choice, LogFormat.known]
    by_cases pretty : t = "pretty"
    · simp [pretty, Entries.get?]
    · by_cases json : t = "json"
      · simp [json, Entries.get?]
      · simp [pretty, json, Ne.symm pretty, Ne.symm json, Entries.get?]
  | table entries => exact absurd rfl (plain entries)
  | _ => simp [format?, Decoder.oneOf]

/-- An integer that fits in 64 bits is in a range exactly when its decoder accepts it as a machine
    word that passes the check. -/
theorem decoder_int_iff {α : Type} {range : Int → Prop} [DecidablePred range] {f : ℕ → α} {a : α}
    (admits : α → Prop) (sound : v.Sound)
    (h : ∀ i < 0x8000_0000_0000_0000, range i ↔ (0 ≤ i ∧ i ≤ most) ∧ admits (f i.toNat)) :
    (int? range v).map f = some a ↔
      (Decoder.natUpTo most name v).map f = .ok a ∧ admits a := by
  cases sound with
  | @int i low high =>
    rw [int?, Decoder.natUpTo]
    have here := h i high
    split_ifs with inside fits fits
    · simp only [Option.map_some, Option.some.injEq, Except.map, Except.ok.injEq]
      refine ⟨fun same => ⟨same, same ▸ (here.1 inside).2⟩, And.left⟩
    · exact absurd (here.1 inside).1 fits
    · constructor
      · rintro ⟨⟩
      · rintro ⟨⟨⟩, passed⟩
        exact absurd (here.2 ⟨fits, passed⟩) inside
    · constructor
      · rintro ⟨⟩
      · rintro ⟨⟨⟩, _⟩
  | _ => simp [int?, Decoder.natUpTo, Decoder.wrongType, Except.map]

end

/-- The values of a setting are those that its decoder accepts and no check refuses. -/
theorem Setting.value?_eq_some_iff {s : Setting} {v : Toml} {a : s.Value} (sound : v.Sound)
    (plain : s = .logging .format → ∀ entries, v ≠ .table entries) :
    s.value? v = some a ↔ s.decoder v = .ok a ∧ s.Admits a := by
  rcases s with (_ | _ | _ | _ | _) | (_ | _ | _) | (_ | _)
  case broker.port =>
    refine decoder_int_iff (fun port : UInt16 => port ≠ 0) sound fun i high => ?_
    have word : i.toNat.toUInt16 ≠ 0 ↔ i.toNat % 65536 ≠ 0 := by
      rw [Ne, ← UInt16.toNat_inj]
      rfl
    simp only [word]
    omega
  case broker.keepaliveSecs =>
    refine decoder_int_iff (fun _ : UInt64 => True) sound fun i high => ?_
    rw [and_true]
    omega
  case broker.qos =>
    refine decoder_int_iff (fun level : UInt8 => level.toNat ≤ 2) sound fun i high => ?_
    have word : i.toNat.toUInt8.toNat = i.toNat % 256 := rfl
    simp only [word]
    omega
  case requests.timeoutSecs =>
    refine decoder_int_iff (fun secs : UInt64 => secs ≠ 0) sound fun i high => ?_
    have word : i.toNat.toUInt64 ≠ 0 ↔ i.toNat % 0x1_0000_0000_0000_0000 ≠ 0 := by
      rw [Ne, ← UInt64.toNat_inj]
      rfl
    simp only [word]
    omega
  case broker.host | logging.level => exact decoder_text_iff.trans (and_iff_left trivial).symm
  case broker.clientId =>
    exact decoder_someText_iff.trans (and_iff_left trivial).symm
  case requests.matchByCorrelationId | requests.emitCorid =>
    exact decoder_bool_iff.trans (and_iff_left trivial).symm
  case logging.format =>
    exact (decoder_format_iff (plain rfl)).trans (and_iff_left trivial).symm

/-! ## Sections -/

/-- The fields of the settings of a broker. -/
def brokerFields : Fields BrokerSettings.toml BrokerKey where
  order := [.host, .port, .keepaliveSecs, .clientId, .qos]
  name := BrokerKey.name
  Value := BrokerKey.Value
  decoder := BrokerKey.decoder
  put
    | .host => fun b (host : String) => { b with host }
    | .port => fun b (port : UInt16) => { b with port }
    | .keepaliveSecs => fun b (keepaliveSecs : UInt64) => { b with keepaliveSecs }
    | .clientId => fun b (clientId : Option String) => { b with clientId }
    | .qos => fun b (qos : UInt8) => { b with qos }
  look key b := key.look b
  name_injective a b same := by cases a <;> cases b <;> first | rfl | exact absurd same (by decide)
  find?_name key := by
    cases key with
    | clientId =>
      refine congrArg some (congrArg (Toml.Key.mk "client_id") (funext fun b => funext fun v => ?_))
      cases v <;> rfl
    | _ => rfl
  names := rfl
  look_put key b a := by cases key <;> rfl
  look_put_of_ne {i j} ne b a := by cases i <;> cases j <;> first | rfl | exact absurd rfl ne
  ext {a b} same := by
    obtain ⟨host, port, keepaliveSecs, clientId, qos⟩ := a
    obtain rfl : host = b.host := same .host
    obtain rfl : port = b.port := same .port
    obtain rfl : keepaliveSecs = b.keepaliveSecs := same .keepaliveSecs
    obtain rfl : clientId = b.clientId := same .clientId
    obtain rfl : qos = b.qos := same .qos
    rfl

/-- The fields of the settings of requests. -/
def requestFields : Fields RequestSettings.toml RequestKey where
  order := [.timeoutSecs, .matchByCorrelationId, .emitCorid]
  name := RequestKey.name
  Value := RequestKey.Value
  decoder := RequestKey.decoder
  put
    | .timeoutSecs => fun r (timeoutSecs : UInt64) => { r with timeoutSecs }
    | .matchByCorrelationId =>
      fun r (matchByCorrelationId : Bool) => { r with matchByCorrelationId }
    | .emitCorid => fun r (emitCorid : Bool) => { r with emitCorid }
  look key r := key.look r
  name_injective a b same := by cases a <;> cases b <;> first | rfl | exact absurd same (by decide)
  find?_name key := by cases key <;> rfl
  names := rfl
  look_put key r a := by cases key <;> rfl
  look_put_of_ne {i j} ne r a := by cases i <;> cases j <;> first | rfl | exact absurd rfl ne
  ext {a b} same := by
    obtain ⟨timeoutSecs, matchByCorrelationId, emitCorid⟩ := a
    obtain rfl : timeoutSecs = b.timeoutSecs := same .timeoutSecs
    obtain rfl : matchByCorrelationId = b.matchByCorrelationId := same .matchByCorrelationId
    obtain rfl : emitCorid = b.emitCorid := same .emitCorid
    rfl

/-- The fields of the settings of the log. -/
def loggingFields : Fields LoggingSettings.toml LoggingKey where
  order := [.level, .format]
  name := LoggingKey.name
  Value := LoggingKey.Value
  decoder := LoggingKey.decoder
  put
    | .level => fun l (level : String) => { l with level }
    | .format => fun l (format : LogFormat) => { l with format }
  look key l := key.look l
  name_injective a b same := by cases a <;> cases b <;> first | rfl | exact absurd same (by decide)
  find?_name key := by cases key <;> rfl
  names := rfl
  look_put key l a := by cases key <;> rfl
  look_put_of_ne {i j} ne l a := by cases i <;> cases j <;> first | rfl | exact absurd rfl ne
  ext {a b} same := by
    obtain ⟨level, format⟩ := a
    obtain rfl : level = b.level := same .level
    obtain rfl : format = b.format := same .format
    rfl

/-- The sections of a document. -/
inductive SectionKey where
  | broker
  | requests
  | logging

def SectionKey.name : SectionKey → String
  | .broker => "broker"
  | .requests => "requests"
  | .logging => "logging"

def SectionKey.Value : SectionKey → Type
  | .broker => BrokerSettings
  | .requests => RequestSettings
  | .logging => LoggingSettings

def SectionKey.look (c : Config) : (key : SectionKey) → key.Value
  | .broker => c.broker
  | .requests => c.requests
  | .logging => c.logging

/-- The fields of a configuration. -/
def sections : Fields toml SectionKey where
  order := [.broker, .requests, .logging]
  name := SectionKey.name
  Value := SectionKey.Value
  decoder
    | .broker => BrokerSettings.toml.decode
    | .requests => RequestSettings.toml.decode
    | .logging => LoggingSettings.toml.decode
  put
    | .broker => fun c (broker : BrokerSettings) => { c with broker }
    | .requests => fun c (requests : RequestSettings) => { c with requests }
    | .logging => fun c (logging : LoggingSettings) => { c with logging }
  look key c := key.look c
  name_injective a b same := by cases a <;> cases b <;> first | rfl | exact absurd same (by decide)
  find?_name key := by cases key <;> rfl
  names := rfl
  look_put key c a := by cases key <;> rfl
  look_put_of_ne {i j} ne c a := by cases i <;> cases j <;> first | rfl | exact absurd rfl ne
  ext {a b} same := by
    obtain ⟨broker, requests, logging⟩ := a
    obtain rfl : broker = b.broker := same .broker
    obtain rfl : requests = b.requests := same .requests
    obtain rfl : logging = b.logging := same .logging
    rfl

/-! ## Documents -/

/-- Every section that a document has is a table. -/
def HasSections (entries : List (String × Toml)) : Prop :=
  ∀ name ∈ ["broker", "requests", "logging"], ∀ v, Entries.get? name entries = some v →
    ∃ inner, v = .table inner

/-- A setting is what is said of it, or its default. -/
def Setting.Follows (s : Setting) (c : Config) : Option Toml → Prop
  | some v => s.decoder v = .ok (s.look c)
  | none => s.look c = s.default

section

variable {entries : List (String × Toml)} {c : Config}

/-- What a section makes of its table, field by field; without a table all fields have their
    defaults. -/
theorem section_iff {σ ι : Type} {section_ : Toml.Section σ} (fields : Fields section_ ι)
    {found : Option Toml} (sound : ∀ v, found = some v → v.Sound ∧ ∃ inner, v = .table inner)
    {final : σ} {P : Option Toml → Prop} (given : ∀ v, P (some v) ↔ section_.decode v = .ok final)
    (absent : P none ↔ final = section_.defaults) :
    P found ↔ ∀ i, fields.Sets i section_.defaults final (inside (fields.name i) found) := by
  cases found with
  | none =>
    rw [absent]
    exact ⟨fun same i => congrArg (fields.look i) same, fields.ext⟩
  | some v =>
    obtain ⟨sound, inner, rfl⟩ := sound v rfl
    rw [given]
    exact fields.readTable_eq_ok_iff (Toml.sound_table_iff.1 sound).distinct

theorem follows_broker_iff {key : BrokerKey} {v? : Option Toml} :
    (Setting.broker key).Follows c v? ↔
      brokerFields.Sets key BrokerSettings.toml.defaults c.broker v? := by
  cases v? with
  | none => cases key <;> exact Iff.rfl
  | some v => exact Iff.rfl

theorem follows_requests_iff {key : RequestKey} {v? : Option Toml} :
    (Setting.requests key).Follows c v? ↔
      requestFields.Sets key RequestSettings.toml.defaults c.requests v? := by
  cases v? with
  | none => cases key <;> exact Iff.rfl
  | some v => exact Iff.rfl

theorem follows_logging_iff {key : LoggingKey} {v? : Option Toml} :
    (Setting.logging key).Follows c v? ↔
      loggingFields.Sets key LoggingSettings.toml.defaults c.logging v? := by
  cases v? with
  | none => cases key <;> exact Iff.rfl
  | some v => exact Iff.rfl

/-- What is read of a document before it is checked: every setting follows what is said of it. -/
theorem readTable_eq_ok_iff (sound : (Toml.table entries).Sound) (tables : HasSections entries) :
    toml.readTable entries = .ok c ↔ ∀ s : Setting, s.Follows c (said entries s) := by
  have tidy := Toml.sound_table_iff.1 sound
  have each (key : SectionKey) (v : Toml) (found : Entries.get? key.name entries = some v) :
      v.Sound ∧ ∃ inner, v = .table inner :=
    ⟨tidy.of_get? found, tables key.name (by cases key <;> decide) v found⟩
  have broker := section_iff brokerFields (P := sections.Sets .broker toml.defaults c)
    (each .broker) (fun _ => Iff.rfl) Iff.rfl
  have requests := section_iff requestFields (P := sections.Sets .requests toml.defaults c)
    (each .requests) (fun _ => Iff.rfl) Iff.rfl
  have logging := section_iff loggingFields (P := sections.Sets .logging toml.defaults c)
    (each .logging) (fun _ => Iff.rfl) Iff.rfl
  rw [sections.readTable_eq_ok_iff tidy.distinct]
  constructor
  · rintro all (key | key | key)
    · exact follows_broker_iff.2 (broker.1 (all .broker) key)
    · exact follows_requests_iff.2 (requests.1 (all .requests) key)
    · exact follows_logging_iff.2 (logging.1 (all .logging) key)
  · rintro all (_ | _ | _)
    · exact broker.2 fun key => follows_broker_iff.1 (all (.broker key))
    · exact requests.2 fun key => follows_requests_iff.1 (all (.requests key))
    · exact logging.2 fun key => follows_logging_iff.1 (all (.logging key))

/-! ## Checks -/

theorem exists_ofLevel_iff {level : UInt8} :
    (∃ qos, QoS.ofLevel level = .ok qos) ↔ level.toNat ≤ 2 := by
  simp only [QoS.ofLevel_eq_ok_iff]
  constructor
  · rintro ⟨qos, rfl⟩
    cases qos <;> decide
  · intro low
    obtain h | h | h : level.toNat = 0 ∨ level.toNat = 1 ∨ level.toNat = 2 := by omega
    · exact ⟨.atMostOnce, UInt8.toNat_inj.1 h⟩
    · exact ⟨.atLeastOnce, UInt8.toNat_inj.1 h⟩
    · exact ⟨.exactlyOnce, UInt8.toNat_inj.1 h⟩

/-- A configuration is valid when no check refuses one of its settings. -/
theorem validate_eq_ok_iff : c.validate = .ok () ↔ ∀ s : Setting, s.Admits (s.look c) := by
  have checks : (∀ s : Setting, s.Admits (s.look c)) ↔
      c.broker.port ≠ 0 ∧ c.broker.qos.toNat ≤ 2 ∧ c.requests.timeoutSecs ≠ 0 := by
    constructor
    · intro all
      exact ⟨all (.broker .port), all (.broker .qos), all (.requests .timeoutSecs)⟩
    · rintro ⟨port, qos, timeout⟩ ((_ | _ | _ | _ | _) | (_ | _ | _) | (_ | _))
      exacts [trivial, port, trivial, trivial, qos, timeout, trivial, trivial, trivial, trivial]
  rw [checks, ← exists_ofLevel_iff, validate]
  by_cases port : c.broker.port = 0
  · rw [if_pos port]
    exact iff_of_false nofun fun h => h.1 port
  rw [if_neg port, Outcome.bind_eq_ok_iff]
  by_cases timeout : c.requests.timeoutSecs = 0
  · rw [if_pos timeout]
    refine iff_of_false ?_ fun h => h.2.2 timeout
    rintro ⟨_, -, ⟨⟩⟩
  · rw [if_neg timeout]
    constructor
    · rintro ⟨qos, known, -⟩
      exact ⟨port, ⟨qos, known⟩, timeout⟩
    · rintro ⟨-, ⟨qos, known⟩, -⟩
      exact ⟨qos, known, rfl⟩

/-! ## Texts -/

/-- The configuration with given settings. -/
def ofSettings (f : (s : Setting) → s.Value) : Config where
  broker :=
    { host := f (.broker .host)
      port := f (.broker .port)
      keepaliveSecs := f (.broker .keepaliveSecs)
      clientId := f (.broker .clientId)
      qos := f (.broker .qos) }
  requests :=
    { timeoutSecs := f (.requests .timeoutSecs)
      matchByCorrelationId := f (.requests .matchByCorrelationId)
      emitCorid := f (.requests .emitCorid) }
  logging :=
    { level := f (.logging .level)
      format := f (.logging .format) }

theorem look_ofSettings (f : (s : Setting) → s.Value) (s : Setting) :
    s.look (ofSettings f) = f s := by
  rcases s with (_ | _ | _ | _ | _) | (_ | _ | _) | (_ | _) <;> rfl

theorem ofText_eq_ok_iff {text : String} (parsed : Toml.parse text = .ok entries) :
    ofText text = .ok c ↔ toml.readTable entries = .ok c ∧ c.validate = .ok () := by
  rw [ofText, parsed]
  change ofTable entries = .ok c ↔ _
  rw [ofTable]
  cases read : toml.readTable entries with
  | error e => exact iff_of_false nofun nofun
  | ok found =>
    change (found.validate >>= fun _ => pure found) = .ok c ↔ _
    rw [Outcome.bind_eq_ok_iff]
    constructor
    · rintro ⟨⟨⟩, valid, ⟨⟩⟩
      exact ⟨rfl, valid⟩
    · rintro ⟨⟨⟩, valid⟩
      exact ⟨(), valid, rfl⟩

/-- What a document says of a setting gives it a value of its type and range, if it says
    anything. -/
def Setting.Fits (s : Setting) (found : Option Toml) : Prop :=
  ∀ v, found = some v → (s.value? v).isSome

/-- The value that is said of a setting, or its default. -/
def Setting.chosen (s : Setting) (found : Option Toml) : s.Value :=
  (found.bind s.value?).getD s.default

/-- A setting follows what is said of it and passes its check exactly when what is said fits, and
    it is what was chosen. -/
theorem Setting.follows_and_admits_iff {s : Setting} {found : Option Toml}
    (sound : ∀ v, found = some v → v.Sound)
    (plain : s = .logging .format → ∀ inner, found ≠ some (.table inner)) :
    s.Follows c found ∧ s.Admits (s.look c) ↔ s.Fits found ∧ s.look c = s.chosen found := by
  cases found with
  | none =>
    constructor
    · rintro ⟨same, -⟩
      exact ⟨nofun, same⟩
    · rintro ⟨-, same⟩
      exact ⟨same, (show s.look c = s.default from same) ▸ s.admits_default⟩
  | some v =>
    have value (a : s.Value) := s.value?_eq_some_iff (a := a) (sound v rfl)
      fun logs inner same => plain logs inner (congrArg some same)
    rw [Follows, ← value, Fits, chosen]
    constructor
    · intro given
      refine ⟨?_, ?_⟩
      · rintro _ ⟨⟩
        rw [given]
        rfl
      · rw [Option.bind_some, given]
        rfl
    · rintro ⟨fits, same⟩
      obtain ⟨a, given⟩ := Option.isSome_iff_exists.1 (fits v rfl)
      rw [Option.bind_some, given] at same
      rw [given, same]
      rfl

/-- What is said in a sound document is sound. -/
theorem sound_of_said (sound : (Toml.table entries).Sound) {s : Setting} {v : Toml}
    (found : said entries s = some v) : v.Sound := by
  rw [said] at found
  cases there : Entries.get? s.section_ entries with
  | none =>
    rw [there] at found
    cases found
  | some outer =>
    rw [there] at found
    cases outer with
    | table inner =>
      have tidy := Toml.sound_table_iff.1 ((Toml.sound_table_iff.1 sound).of_get? there)
      exact tidy.of_get? found
    | _ => cases found

/-- A document is read as a configuration exactly when all that it says fits, and the configuration
    is then what was chosen for each setting. -/
theorem ofText_eq_ok_iff_chosen {text : String} (parsed : Toml.parse text = .ok entries)
    (tables : HasSections entries)
    (plain : ∀ inner, said entries (.logging .format) ≠ some (.table inner)) :
    ofText text = .ok c ↔
      ∀ s : Setting, s.Fits (said entries s) ∧ s.look c = s.chosen (said entries s) := by
  have sound := Toml.sound_parse parsed
  rw [ofText_eq_ok_iff parsed, readTable_eq_ok_iff sound tables, validate_eq_ok_iff, ← forall_and]
  refine forall_congr' fun s => ?_
  exact s.follows_and_admits_iff (fun v found => sound_of_said sound found)
    fun logs => by subst logs; exact plain

/-- The engine of a valid configuration. -/
theorem ofConfig_of_validate (valid : c.validate = .ok ()) :
    ∃ engine qos, Engine.ofConfig c = .ok (engine, qos) ∧ qos.level = c.broker.qos ∧
      engine.codec = .json c.requests.emitCorid ∧
      engine.strict = c.requests.matchByCorrelationId ∧
      engine.defaultTimeout = c.requests.timeoutSecs.toNat * 1000 := by
  have low : c.broker.qos.toNat ≤ 2 := validate_eq_ok_iff.1 valid (.broker .qos)
  obtain ⟨qos, known⟩ := exists_ofLevel_iff.2 low
  refine ⟨.new (.json c.requests.emitCorid) c.requests.matchByCorrelationId
    (c.requests.timeoutSecs.toNat * 1000), qos, ?_, (QoS.ofLevel_eq_ok_iff.1 known).symm, rfl, rfl,
    rfl⟩
  rw [Engine.ofConfig, valid, Outcome.ok_bind, known]
  rfl

end

/-- A document whose sections are tables, and whose format is not one, is read as a configuration
    exactly when each setting of which it says something gets a value of its type and range. Every
    setting is then what the document says of it, or its default; and the configuration has an
    engine, which is set up as it says. -/
theorem ofText_reads_each_setting {text : String} {entries : List (String × Toml)}
    (parsed : Toml.parse text = .ok entries) (tables : HasSections entries)
    (plain : ∀ inner, said entries (.logging .format) ≠ some (.table inner)) :
    ((∃ c, ofText text = .ok c) ↔
        ∀ (s : Setting) (v : Toml), said entries s = some v → (s.value? v).isSome) ∧
      ∀ c, ofText text = .ok c →
        (∀ s : Setting, s.look c = ((said entries s).bind s.value?).getD s.default) ∧
        ∃ engine qos, Engine.ofConfig c = .ok (engine, qos) ∧ qos.level = c.broker.qos ∧
          engine.codec = .json c.requests.emitCorid ∧
          engine.strict = c.requests.matchByCorrelationId ∧
          engine.defaultTimeout = c.requests.timeoutSecs.toNat * 1000 := by
  have read (c : Config) := ofText_eq_ok_iff_chosen (c := c) parsed tables plain
  refine ⟨⟨?_, ?_⟩, ?_⟩
  · rintro ⟨c, done⟩ s
    exact ((read c).1 done s).1
  · intro fits
    refine ⟨ofSettings fun s => s.chosen (said entries s), (read _).2 fun s => ⟨fits s, ?_⟩⟩
    exact look_ofSettings _ s
  · intro c done
    refine ⟨fun s => ((read c).1 done s).2, ?_⟩
    exact ofConfig_of_validate ((ofText_eq_ok_iff parsed).1 done).2

/-- A document with settings in two sections, among unknown keys and an unknown section. -/
def sample : String :=
  "[extra]\nport = 0\n[logging]\nformat = \"json\"\ncolor = true\n[broker]\nqos = 2\nport = 8883\n"

def sampleEntries : List (String × Toml) :=
  [("extra", .table [("port", .int 0)]),
    ("logging", .table [("format", .text "json"), ("color", .bool true)]),
    ("broker", .table [("qos", .int 2), ("port", .int 8883)])]

theorem hasSections_sampleEntries : HasSections sampleEntries := by
  intro name mem v found
  simp only [List.mem_cons, List.not_mem_nil, or_false] at mem
  rcases mem with rfl | rfl | rfl
  · exact ⟨_, (Option.some.inj found).symm⟩
  · cases found
  · exact ⟨_, (Option.some.inj found).symm⟩

/-- Keys that are unknown, or known in another section only, do not matter. -/
theorem sample_reads_each_setting :
    Toml.parse sample = .ok sampleEntries ∧ HasSections sampleEntries ∧
      (∀ inner, said sampleEntries (.logging .format) ≠ some (.table inner)) ∧
      ∃ c, ofText sample = .ok c ∧
        c.broker = { port := 8883, qos := 2 } ∧ c.requests = {} ∧
        c.logging = { format := .json } := by
  have parsed : Toml.parse sample = .ok sampleEntries := by decide +kernel
  have plain (inner : List (String × Toml)) :
      said sampleEntries (.logging .format) ≠ some (.table inner) := by
    rintro ⟨⟩
  obtain ⟨reads, settings⟩ := ofText_reads_each_setting parsed hasSections_sampleEntries plain
  obtain ⟨c, done⟩ := reads.2 (by
    rintro ((_ | _ | _ | _ | _) | (_ | _ | _) | (_ | _)) v found <;> cases found <;> rfl)
  refine ⟨parsed, hasSections_sampleEntries, plain, c, done, ?_, ?_, ?_⟩
  all_goals have look := (settings c done).1
  · exact brokerFields.ext fun key => by
      refine (look (.broker key)).trans ?_
      cases key <;> rfl
  · exact requestFields.ext fun key => by
      refine (look (.requests key)).trans ?_
      cases key <;> rfl
  · exact loggingFields.ext fun key => by
      refine (look (.logging key)).trans ?_
      cases key <;> rfl

end HomeBus.Config
