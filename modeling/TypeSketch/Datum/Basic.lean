import TypeSketch.Entries
import TypeSketch.Json.Basic

/-!
# Host data

A program that asks for declarations may hold its document as loose data: nothing, a
scalar, a sequence, a mapping, or things that no document can express, such as sets.
Parts of it may be JSON values already, and these may in turn have loose data as foreign
members. Otherwise such a value is well formed: a string holds a text, a number a number,
and the keys of an object are texts.
-/

namespace TypeSketch

/-- Loose data of a host program. -/
inductive Datum where
  | none
  | bool (value : Bool)
  | number (value : Number)
  | text (value : Text)
  | list (items : List Datum)
  | tuple (items : List Datum)
  | mapping (items : List (Datum × Datum))
  | set (items : List Datum)
  | bytes (value : List UInt8)
  /-- An object of the host program, known by the name of its type. -/
  | instanceOf (typeName : Text)
  /-- A part that is a JSON value already. -/
  | json (value : Json Datum)
deriving Inhabited

namespace Datum

/-- The number that a truth value or a number counts as when keys are compared. -/
def asNumber? : Datum → Option Number
  | .bool value => some (.int (if value then 1 else 0))
  | .number value => some value
  | _ => Option.none

mutual

/-- Whether two keys of a mapping are the same key. Truth values and numbers compare as
numbers; sequences compare item by item; JSON values compare part by part. -/
def sameKey : Datum → Datum → Bool
  | .none, .none => true
  | .bool a, b => (b.asNumber?.map (Number.sameNumber (.int (if a then 1 else 0)))).getD false
  | .number a, b => (b.asNumber?.map (Number.sameNumber a)).getD false
  | .text a, .text b => a == b
  | .bytes a, .bytes b => a == b
  | .list as, .list bs => sameKeys as bs
  | .tuple as, .tuple bs => sameKeys as bs
  | .json a, .json b => sameJson a b
  | _, _ => false

def sameKeys : List Datum → List Datum → Bool
  | [], [] => true
  | a :: as, b :: bs => sameKey a b && sameKeys as bs
  | _, _ => false

def sameJson : Json Datum → Json Datum → Bool
  | .null, .null => true
  | .bool a, .bool b => a == b
  | .number a, .number b => a.sameNumber b
  | .string a, .string b => a == b
  | .array as, .array bs => sameJsons as bs
  | .foreign a, .foreign b => sameKey a b
  | _, _ => false

def sameJsons : List (Json Datum) → List (Json Datum) → Bool
  | [], [] => true
  | a :: as, b :: bs => sameJson a b && sameJsons as bs
  | _, _ => false

end

/-- The mapping that results from its pairs in order: a key that comes again keeps its
place and gets the last value. -/
def ofPairs (pairs : List (Datum × Datum)) : Datum := .mapping (Entries.ofPairs sameKey pairs)

end Datum

end TypeSketch
