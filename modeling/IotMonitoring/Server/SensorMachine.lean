import IotMonitoring.Shared.BoundedMaps
import IotMonitoring.Server.SensorHandler

/-!
# What the SMP server is for

The server as its users see it: a map with at most 64 keys from sensor ids to
records, and for each command one reply and one change of the map. Nothing here
knows of slots, buffers or locks.
-/

namespace IotMonitoring

open ByteStrings Binary64
set_option autoImplicit false

structure Record where
  type : SensorType
  status : SensorStatus
  lastValue : Double
  lastTimestamp : Bytes
  alertLevel : AlertLevel

abbrev Registry := BoundedMap Bytes Record maxSensors

inductive Command where
  | register (id typeStr : Bytes)
  | metric (id valueStr timestamp : Bytes)
  | status (id : Bytes)
  | ping (id : Bytes)
  | quit (id : Bytes)

/-- The command a list of words spells, if it is well formed. -/
def Command.parse : List Bytes → Option Command
  | [] => none
  | name :: args =>
    if name = ascii "REGISTER" then
      match args with
      | [id, typeStr] => some (.register id typeStr)
      | _ => none
    else if name = ascii "METRIC" then
      match args with
      | [id, valueStr, timestamp] => some (.metric id valueStr timestamp)
      | _ => none
    else
      match args with
      | [id] =>
        if name = ascii "STATUS" then some (.status id)
        else if name = ascii "PING" then some (.ping id)
        else if name = ascii "QUIT" then some (.quit id)
        else none
      | _ => none

def Command.id : Command → Bytes
  | register id _ | metric id _ _ | status id | ping id | quit id => id

def newRecord (type : SensorType) : Record := ⟨type, .active, ofNat 0, ascii "N/A", .normal⟩

def Record.report (r : Record) (value : Double) (timestamp : Bytes) : Record :=
  { r with lastValue := value, lastTimestamp := timestamp, alertLevel := levelOf r.type value }

def Record.line (id : Bytes) (r : Record) : Bytes :=
  ascii "200 STATUS " ++ id ++ [space] ++ sensorStatusToStr r.status ++ [space] ++
    sensorTypeToStr r.type ++ [space] ++ fixed2 r.lastValue ++ [space] ++ r.lastTimestamp ++
    [space] ++ alertLevelToStr r.alertLevel

namespace Registry

def register (id typeStr : Bytes) (m : Registry) : Bytes × Registry :=
  if sensorTypeFromStr typeStr = .invalid then (invalidSensorType, m)
  else
    match m.lookup id with
    | some r =>
      if r.status = .active then (sensorAlreadyExists, m)
      else (registered id, m.modify id fun r => { r with status := .active })
    | none =>
      if room : m.size < maxSensors then
        (registered id, m.insert id (newRecord (sensorTypeFromStr typeStr)) room)
      else (internalError, m)

def metric (id valueStr timestamp : Bytes) (m : Registry) : Bytes × Registry :=
  match m.lookup id with
  | none => (sensorNotFound, m)
  | some r =>
    if r.status = .inactive then (sensorNotRegistered, m)
    else
      match parseDouble valueStr with
      | none => (invalidValue, m)
      | some value =>
        if isValidTimestamp timestamp then
          (metricOk, m.modify id fun r => r.report value timestamp)
        else (badRequest, m)

def status (id : Bytes) (m : Registry) : Bytes × Registry :=
  match m.lookup id with
  | none => (sensorNotFound, m)
  | some r => (r.line id, m)

def quit (id : Bytes) (m : Registry) : Bytes × Registry :=
  (bye, m.modify id fun r => { r with status := .inactive })

/-- The reply to a command, or to words that spell none, and the map it leaves. -/
def handle : Option Command → Registry → Bytes × Registry
  | some (.register id typeStr), m => m.register id typeStr
  | some (.metric id valueStr timestamp), m => m.metric id valueStr timestamp
  | some (.status id), m => m.status id
  | some (.ping _), m => (pong, m)
  | some (.quit id), m => m.quit id
  | none, m => (badRequest, m)

end Registry

end IotMonitoring
