import Rollout.Json.Basic

/-!
# Configuration documents

A document in TOML is a table of values. Tables keep their keys in the order in which they were
written. As a structured value a table is an object, and a date or time is an object with one
reserved key.

Documents come in two editions of the format. The second one has more escapes, times without
seconds, and inline tables over several lines; it also lets tables be nested a level deeper, keeps
both characters of a line end in a string, is stricter about large numbers, and more lenient about
tables that are opened twice.
-/

namespace Rollout

/-- A value of a document. -/
inductive Toml where
  | text (value : String)
  | integer (value : Int)
  | float (value : Float)
  | boolean (value : Bool)
  | moment (text : String)
  | array (items : List Toml)
  | table (fields : List (String × Toml))
deriving Inhabited

namespace Toml

/-- The editions of the format, TOML 1.0 and 1.1. -/
inductive Edition where
  | v10
  | v11
deriving DecidableEq

/-- How many keys a key with points may have, and how many arrays and inline tables may be open at
once. -/
def Edition.maxDepth : Edition → Nat
  | v10 => 79
  | v11 => 80

/-- The key of the object that stands for a date or time. -/
def momentKey : String := "$__toml_private_datetime"

mutual

/-- The structured value of a document; objects keep the order of the tables. -/
def toJson : Toml → Json
  | .text s => .str s
  | .integer n => .int n
  | .float x => .real x
  | .boolean b => .bool b
  | .moment s => .obj [(momentKey, .str s)]
  | .array xs => .arr (itemsToJson xs)
  | .table fs => .obj (fieldsToJson fs)

def itemsToJson : List Toml → List Json
  | [] => []
  | x :: xs => toJson x :: itemsToJson xs

def fieldsToJson : List (String × Toml) → List (String × Json)
  | [] => []
  | (k, v) :: fs => (k, toJson v) :: fieldsToJson fs

end

end Toml

end Rollout
