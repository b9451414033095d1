import MessageExpr.Calendar.Instant
import MessageExpr.Dictionary
import MessageExpr.Number.Binary64

/-!
# Values and their types

A value is what a message is sent to, takes as its argument and returns. Most values are data. A host
object is known to this library by its identity, its type's name, its description and the aliases
it advertises; what its messages do is kept elsewhere, under its identity.

The types `null` and `any` are also sentinels of a message's signature: `null` stands for no
argument or no result, and both of them switch type checking off.
-/

set_option autoImplicit false

namespace MessageExpr

/-- The type of a value. Two host types are equal if their names are; none equals a built-in type,
even if it is named like one. -/
inductive ValueType where
  /-- The type of the missing value. -/
  | null
  /-- The type of the placeholder. -/
  | any
  /-- Truth values. -/
  | bool
  /-- Whole numbers. -/
  | int
  /-- Binary64 numbers. -/
  | double
  /-- Texts. -/
  | string
  /-- Instants. -/
  | date
  /-- Lists of values. -/
  | array
  /-- Values under keys. -/
  | map
  /-- Host objects of a named type. -/
  | object (name : String)
deriving DecidableEq, Inhabited

namespace ValueType

/-- Whether a signature with this type leaves the argument or the result unchecked. -/
def isUnchecked : ValueType → Bool
  | .null => true
  | .any => true
  | _ => false

/-- The name of a type. -/
def name : ValueType → String
  | .null => "Null"
  | .any => "Any"
  | .bool => "Bool"
  | .int => "Int"
  | .double => "Double"
  | .string => "String"
  | .date => "Date"
  | .array => "Array"
  | .map => "Map"
  | .object name => name

end ValueType

/-- What is fixed about a host object. -/
structure HostObject where
  /-- Tells the object from every other one. -/
  identity : Nat
  /-- The name of its type. -/
  typeName : String
  /-- Its text. -/
  description : String
  /-- The words it advertises, each with the message that the word is short for. -/
  aliases : Dictionary String

/-- A value. The entries of a map are listed in ascending order of their keys. -/
inductive Value where
  /-- The missing value. -/
  | null
  /-- A placeholder. -/
  | any
  /-- A truth value. -/
  | bool (truth : Bool)
  /-- A whole number of 64 bits. -/
  | int (integer : Int64)
  /-- A binary64 number. -/
  | double (number : Binary64)
  /-- A text. -/
  | string (text : String)
  /-- An instant. -/
  | date (instant : Instant)
  /-- A list of values. -/
  | array (elements : List Value)
  /-- Values under keys. -/
  | map (entries : List (String × Value))
  /-- A host object. -/
  | object (host : HostObject)
deriving Inhabited

namespace Value

/-- The type of a value. -/
def type : Value → ValueType
  | .null => .null
  | .any => .any
  | .bool _ => .bool
  | .int _ => .int
  | .double _ => .double
  | .string _ => .string
  | .date _ => .date
  | .array _ => .array
  | .map _ => .map
  | .object host => .object host.typeName

/-- Whether a value is the missing one. -/
def isNull : Value → Bool
  | .null => true
  | _ => false

/-- A map value of a dictionary. -/
def ofDictionary (dictionary : Dictionary Value) : Value := .map dictionary.entries

/-! ## The data of a value -/

/-- The truth value, if the value is one. -/
def bool? : Value → Option Bool
  | .bool truth => some truth
  | _ => none

/-- The whole number, if the value is one. -/
def int? : Value → Option Int64
  | .int integer => some integer
  | _ => none

/-- The binary64 number, if the value is one. -/
def double? : Value → Option Binary64
  | .double number => some number
  | _ => none

/-- The text, if the value is one. -/
def string? : Value → Option String
  | .string text => some text
  | _ => none

/-- The instant, if the value is one. -/
def date? : Value → Option Instant
  | .date instant => some instant
  | _ => none

/-- The elements, if the value is an array. -/
def array? : Value → Option (List Value)
  | .array elements => some elements
  | _ => none

/-- The entries, if the value is a map. -/
def map? : Value → Option (List (String × Value))
  | .map entries => some entries
  | _ => none

end Value

end MessageExpr
