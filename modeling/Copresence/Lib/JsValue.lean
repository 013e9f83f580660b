import Copresence.Lib.CodeUnits
import Copresence.Lib.JsNumber
import Copresence.Lib.Numerals

/-! The values `JSON.parse` makes, and what the operators of the language make
of them. The objects are plain ones: what they hold is no function, so a
property of the name of a method takes the method away. -/
namespace Copresence

open Collections Floating

inductive JsValue where
  | undefined
  | null
  | bool (value : Bool)
  | number (value : JsNumber)
  | string (value : String)
  | array (items : List JsValue)
  | object (fields : List (String × JsValue))

/-- What an operator finds once objects are converted. -/
inductive Primitive where
  | undefined
  | null
  | bool (value : Bool)
  | number (value : JsNumber)
  | string (value : String)
deriving DecidableEq

def JsNumber.text : JsNumber → String
  | finite value => numberToString value
  | infinity negative => if negative then "-Infinity" else "Infinity"
  | nan => "NaN"

/-- `first <= second` on numbers. -/
def JsNumber.atMost : JsNumber → JsNumber → Bool
  | nan, _ => false
  | _, nan => false
  | infinity true, _ => true
  | _, infinity false => true
  | finite first, finite second => decide (first ≤ second)
  | _, _ => false

namespace Primitive

/-- `ToNumber`, over how a string is read as a number. -/
def toNumber (stringToNumber : String → JsNumber) : Primitive → JsNumber
  | undefined => .nan
  | null => .finite 0
  | bool value => .finite (if value then 1 else 0)
  | number value => value
  | string value => stringToNumber value

/-- `first <= second`. -/
def atMost (stringToNumber : String → JsNumber) : Primitive → Primitive → Bool
  | string first, string second => notAfter first second
  | first, second => (first.toNumber stringToNumber).atMost (second.toNumber stringToNumber)

end Primitive

namespace JsValue

/-- Nothing can be read from these: a property access throws. -/
def isNullish : JsValue → Bool
  | undefined => true
  | null => true
  | _ => false

/-- `value !== undefined`. -/
def isDefined : JsValue → Bool
  | undefined => false
  | _ => true

/-- A property of a value that has some, under a name that no prototype has. -/
def get (key : String) : JsValue → JsValue
  | object fields => (fields.lookup key).getD undefined
  | _ => undefined

/-- `value === text`. -/
def isText (text : String) : JsValue → Bool
  | string value => decide (value = text)
  | _ => false

mutual

/-- `ToString`, of an array its items between commas. An object with an own
property `toString` cannot be converted. -/
def toText : JsValue → Option String
  | undefined => some "undefined"
  | null => some "null"
  | bool value => some (if value then "true" else "false")
  | number value => some value.text
  | string value => some value
  | array items => (itemTexts items).map fun texts => ",".intercalate texts
  | object fields => if (fields.lookup "toString").isSome then none else some "[object Object]"

def itemTexts : List JsValue → Option (List String)
  | [] => some []
  | undefined :: items => (itemTexts items).map fun texts => "" :: texts
  | null :: items => (itemTexts items).map fun texts => "" :: texts
  | item :: items => (toText item).bind fun text => (itemTexts items).map fun texts => text :: texts

end

/-- `ToPrimitive`, which throws where there is nothing. -/
def toPrimitive : JsValue → Option Primitive
  | undefined => some .undefined
  | null => some .null
  | bool value => some (.bool value)
  | number value => some (.number value)
  | string value => some (.string value)
  | array items => (toText (array items)).map .string
  | object fields => (toText (object fields)).map .string

/-- The value is turned into a number without an exception. -/
def Convertible (value : JsValue) : Prop := value.toPrimitive.isSome = true

instance (value : JsValue) : Decidable value.Convertible :=
  inferInstanceAs (Decidable (value.toPrimitive.isSome = true))

/-- What `for (const item of value)` runs through: the items of an array, the
characters of a string, and an exception for anything else. -/
def iterated : JsValue → Option (List JsValue)
  | array items => some items
  | string text => some (text.toList.map fun c => string (String.singleton c))
  | _ => none

end JsValue

end Copresence
