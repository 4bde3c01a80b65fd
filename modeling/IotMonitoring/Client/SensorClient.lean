import IotMonitoring.Shared.DecimalTexts
import IotMonitoring.Shared.UnicodeTexts
import IotMonitoring.Server.Utils

/-!
# The sensor clients

`sensor.py` and `SensorClient.java`: the readings they draw and the lines they
put on the socket. The two differ in how they encode a text and in how they
write a number with two decimals: Python rounds the exact value half to even
and knows no locale, while `String.format` of Java rounds the decimal of
`Double.toString` half up and uses the point and the digits of the default
locale. That part of the Java library is the parameter `Jvm`.
-/

namespace IotMonitoring

open ByteStrings Binary64 UnicodeTexts
set_option autoImplicit false

/-! ## Readings -/

/-- The random numbers behind one reading, each a multiple of 2^-53 below one. -/
structure Draws where
  anomaly : Fin (2 ^ 53)
  choice : Bool
  first : Fin (2 ^ 53)
  second : Fin (2 ^ 53)

/-- `random.random()` and `nextDouble()`. -/
def randomDouble (k : Fin (2 ^ 53)) : Double := ofRatio false k (2 ^ 53)

/-- `min + (max - min) * randomDouble k`; the product and the sum are rounded. -/
def randomBetween (min max : Nat) (k : Fin (2 ^ 53)) : Double :=
  ofRatio false (min * unit + roundUnits ((max - min) * k) (2 ^ 53)) unit

def isAnomaly (anomalyChance : Double) (d : Draws) : Bool :=
  (randomDouble d.anomaly).lt anomalyChance

/-- A reading of a type; `high` is the random number behind the upper anomalous range of POWER. -/
def drawReading (sensorType : SensorType) (anomaly choice : Bool) (k high : Fin (2 ^ 53)) :
    Option Double :=
  match sensorType with
  | .temp => some (if anomaly then randomBetween 71 95 k else randomBetween 20 65 k)
  | .vib => some (if anomaly then randomBetween 51 90 k else randomBetween 5 45 k)
  | .power =>
    if anomaly then some (if choice then randomBetween 0 9 k else randomBetween 101 130 high)
    else some (randomBetween 20 90 k)
  | .invalid => none

/-- `generate_value`; both items of the list given to `random.choice` are drawn. -/
def Python.generateValue (sensorType : SensorType) (anomalyChance : Double) (d : Draws) :
    Option Double :=
  drawReading sensorType (isAnomaly anomalyChance d) d.choice d.first d.second

/-- `generateValue`; only the range chosen is drawn from. -/
def Java.generateValue (sensorType : SensorType) (anomalyChance : Double) (d : Draws) :
    Option Double :=
  drawReading sensorType (isAnomaly anomalyChance d) d.choice d.first d.first

/-! ## Instants -/

/-- The UTC fields of an instant whose year has four digits. -/
structure Instant where
  year : Nat
  month : Nat
  day : Nat
  hour : Nat
  minute : Nat
  second : Nat
  year_range : 1970 ≤ year ∧ year ≤ 9999
  month_range : 1 ≤ month ∧ month ≤ 12
  day_range : 1 ≤ day ∧ day ≤ 31
  hour_lt : hour < 24
  minute_lt : minute < 60
  second_lt : second < 60

def twoDigits (n : Nat) : Bytes := [digitByte (n / 10), digitByte (n % 10)]

/-- `strftime("%Y-%m-%dT%H:%M:%SZ")`, and `Instant.toString` of whole seconds. -/
def utcTimestamp (now : Instant) : Bytes :=
  twoDigits (now.year / 100) ++ twoDigits (now.year % 100) ++ ascii "-" ++ twoDigits now.month ++
    ascii "-" ++ twoDigits now.day ++ ascii "T" ++ twoDigits now.hour ++ ascii ":" ++
    twoDigits now.minute ++ ascii ":" ++ twoDigits now.second ++ ascii "Z"

/-! ## Numbers -/

/-- What `String.format` takes from the Java library: the number signs of the default locale and
the decimal that `Double.toString` gives a magnitude. -/
structure Jvm where
  decimalSeparator : Char
  zeroDigit : Char
  toDecimal : Nat → Nat × Nat
  separator_visible : 32 < decimalSeparator.toNat
  separator_mark : decimalSeparator.isAlphanum = false
  /-- The ten digits are those of ASCII, or none of them is. -/
  digits_uniform : zeroDigit = '0' ∨ ∀ d < 10, 128 ≤ (Char.ofNat (zeroDigit.toNat + d)).toNat
  /-- The decimal denotes the number it was made from. -/
  toDecimal_reads : ∀ u (hu : Representable u),
    ofRatio false (toDecimal u).1 (10 ^ (toDecimal u).2) = .finite false u hu

namespace Jvm

/-- The decimal rounded half up to hundredths. -/
def hundredths (jvm : Jvm) (u : Nat) : Nat :=
  (200 * (jvm.toDecimal u).1 + 10 ^ (jvm.toDecimal u).2) / (2 * 10 ^ (jvm.toDecimal u).2)

def digitChar (jvm : Jvm) (d : Nat) : Char := Char.ofNat (jvm.zeroDigit.toNat + d)

def numeral (jvm : Jvm) (h : Nat) : List Char :=
  (decimalDigits (h / 100)).map jvm.digitChar ++
    [jvm.decimalSeparator, jvm.digitChar (h / 10 % 10), jvm.digitChar (h % 10)]

def signChars (negative : Bool) : List Char := if negative then ['-'] else []

/-- The conversion `%.2f`. -/
def fixed2 (jvm : Jvm) : Double → List Char
  | .finite negative u _ => signChars negative ++ jvm.numeral (jvm.hundredths u)
  | .infinite negative => signChars negative ++ "Infinity".toList
  | .nan _ => "NaN".toList

end Jvm

/-! ## Lines -/

def isTrimmed : CodePoint → Bool
  | .scalar c => c.toNat ≤ 32
  | .surrogate _ => false

/-- `String.trim`. -/
def trim (t : Text) : Text := ((t.dropWhile isTrimmed).reverse.dropWhile isTrimmed).reverse

inductive Platform where
  | python
  | java (jvm : Jvm)

namespace Platform

def generateValue : Platform → SensorType → Double → Draws → Option Double
  | python => Python.generateValue
  | java _ => Java.generateValue

def fixed2 : Platform → Double → Text
  | python, value => ofAscii (Binary64.fixed2 value)
  | java jvm, value => ofChars (jvm.fixed2 value)

/-- `encode("utf-8")` raises an error where `OutputStreamWriter` writes a question mark. -/
def encode : Platform → Text → Option Bytes
  | python, t => UnicodeTexts.encode t
  | java _, t => some (encodeReplacing t)

/-- What the client itself checks of an id: nothing, or that it is not blank. -/
def admitsId : Platform → Text → Bool
  | python, _ => true
  | java _, id => trim id != []

end Platform

structure SensorClient where
  platform : Platform
  sensorId : Text
  sensorType : SensorType
  anomalyChance : Double

namespace SensorClient

/-- The client starts: its type is one of the three and its id is admitted. -/
def Starts (c : SensorClient) : Prop :=
  c.sensorType ≠ .invalid ∧ c.platform.admitsId c.sensorId = true

instance (c : SensorClient) : Decidable c.Starts := inferInstanceAs (Decidable (_ ∧ _))

def generateValue (c : SensorClient) : Draws → Option Double :=
  c.platform.generateValue c.sensorType c.anomalyChance

/-- The bytes written for a command; `none` if it cannot be encoded. -/
def sendCommand (c : SensorClient) (command : Text) : Option Bytes :=
  c.platform.encode (command ++ ofAscii [newline])

def register (c : SensorClient) : Option Bytes :=
  c.sendCommand (ofAscii (ascii "REGISTER ") ++ c.sensorId ++ ofAscii (ascii " ") ++
    ofAscii (sensorTypeToStr c.sensorType))

def sendMetric (c : SensorClient) (value : Double) (timestamp : Bytes) : Option Bytes :=
  c.sendCommand (ofAscii (ascii "METRIC ") ++ c.sensorId ++ ofAscii (ascii " ") ++
    c.platform.fixed2 value ++ ofAscii (ascii " ") ++ ofAscii timestamp)

def sendStatus (c : SensorClient) : Option Bytes :=
  c.sendCommand (ofAscii (ascii "STATUS ") ++ c.sensorId)

def sendPing (c : SensorClient) : Option Bytes :=
  c.sendCommand (ofAscii (ascii "PING ") ++ c.sensorId)

def sendQuit (c : SensorClient) : Option Bytes :=
  c.sendCommand (ofAscii (ascii "QUIT ") ++ c.sensorId)

end SensorClient

end IotMonitoring
