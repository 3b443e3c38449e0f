import HomeBus.Error

/-!
# Connection parameters

What a client says to a broker when it connects, and the delivery guarantee it asks for.
-/

namespace HomeBus

/-- The delivery guarantee asked of a broker. -/
inductive QoS where
  | atMostOnce
  | atLeastOnce
  | exactlyOnce
  deriving DecidableEq, Repr

namespace QoS

instance : Inhabited QoS := ⟨.atLeastOnce⟩

/-- The number of a guarantee. Models `u8::from`. -/
def level : QoS → UInt8
  | .atMostOnce => 0
  | .atLeastOnce => 1
  | .exactlyOnce => 2

/-- The guarantee of a number from 0 to 2. Models `QoS::try_from`. -/
def ofLevel (level : UInt8) : Except Error QoS :=
  if level = 0 then .ok .atMostOnce
  else if level = 1 then .ok .atLeastOnce
  else if level = 2 then .ok .exactlyOnce
  else .error (.config (.unknownQoS level))

theorem ofLevel_level (q : QoS) : ofLevel q.level = .ok q := by cases q <;> rfl

/-- A guarantee has one number only. -/
theorem ofLevel_eq_ok_iff {n : UInt8} {q : QoS} : ofLevel n = .ok q ↔ n = q.level := by
  refine ⟨fun h => ?_, fun h => h ▸ ofLevel_level q⟩
  unfold ofLevel at h
  split at h
  · cases h; assumption
  split at h
  · cases h; assumption
  split at h
  · cases h; assumption
  · cases h

end QoS

/-- Where and how to connect. Models `ConnectOptions` with `ConnectOptions::default`. -/
structure ConnectOptions where
  host : String := "localhost"
  port : UInt16 := 1883
  keepaliveSecs : UInt64 := 60
  clientId : Option String := none
  deriving DecidableEq

namespace ConnectOptions

instance : Inhabited ConnectOptions := ⟨{}⟩

/-- The name a broker knows the client by. Models the choice of it in `MemoryTransport::connect`. -/
def clientName (options : ConnectOptions) : String :=
  options.clientId.getD (options.host ++ ":" ++ toString options.port.toNat)

end ConnectOptions

end HomeBus
