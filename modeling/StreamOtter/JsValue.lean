import StreamOtter.Protocol
import Mathlib.Data.List.Basic

/-!
# JavaScript values

What the gateway's checks of values from outside see of them.
-/

namespace StreamOtter

/-- `String.prototype.length`, in UTF-16 code units. -/
def utf16Length (text : String) : ℕ :=
  (text.toList.map fun c => if c.val < 0x10000 then 1 else 2).sum

/-- A JavaScript value as a handler may return it; `foreign` is anything that is
neither a primitive, an array nor a plain object. -/
inductive JsValue
  | undefined | null | boolean (value : Bool) | number (finite : Bool) (text : String)
  | string (text : String) | array (items : List JsValue)
  | object (fields : List (String × JsValue)) | foreign

def maxNestingDepth : ℕ := 16

namespace JsValue

def isUndefined : JsValue → Bool
  | .undefined => true
  | _ => false

/-- `isJsonValue`, by the nesting still allowed. -/
def isJsonAt : ℕ → JsValue → Bool
  | 0, _ => false
  | _ + 1, .null | _ + 1, .string _ | _ + 1, .boolean _ => true
  | _ + 1, .number finite _ => finite
  | depth + 1, .array items => items.all (isJsonAt depth)
  | depth + 1, .object fields => fields.all fun field => isJsonAt depth field.2
  | _ + 1, .undefined | _ + 1, .foreign => false

def isJsonValue (value : JsValue) : Bool := value.isJsonAt maxNestingDepth

/-- `withoutUndefinedProperties`, by the nesting still allowed. -/
def withoutUndefinedAt : ℕ → JsValue → JsValue
  | 0, value => value
  | depth + 1, .array items => .array (items.map (withoutUndefinedAt depth))
  | depth + 1, .object fields =>
      .object ((fields.filter fun field => !field.2.isUndefined).map fun field =>
        (field.1, withoutUndefinedAt depth field.2))
  | _ + 1, value => value

def withoutUndefinedProperties (value : JsValue) : JsValue :=
  value.withoutUndefinedAt maxNestingDepth

/-- The number a list of decimal digits denotes. -/
def decimal? (digits : List Char) : Option ℕ :=
  digits.foldl (fun value digit =>
    value.bind fun n => if digit.isDigit then some (10 * n + (digit.toNat - 48)) else none) (some 0)

/-- `isRevision`: at most 39 digits without leading zeros. -/
def revision? : JsValue → Option Revision
  | .string text =>
      match text.toList with
      | [] => none
      | ['0'] => some 0
      | first :: rest =>
          if first = '0' || 39 < (first :: rest).length then none else decimal? (first :: rest)
  | _ => none

/-- A property of a plain object, `undefined` when it has none of that name. -/
def property (fields : List (String × JsValue)) (name : String) : JsValue :=
  (fields.lookup name).getD .undefined

end JsValue

end StreamOtter
