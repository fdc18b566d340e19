import Rollout.Wire.Basic

/-!
# Layouts of messages

A layout says which field of a message is kept under which number. A value that is empty is not
written, and a field that is missing is empty. On reading, unknown fields are skipped; of a field
that occurs several times the last value counts, messages are merged, and lists grow. A field whose
content has another form than its layout asks for, or a text that is not UTF-8, makes the message
unreadable. So do unknown groups that stand too deep in each other and in messages: a message in a
message leaves them one level less.
-/

namespace Rollout.Wire

/-- How a value is kept in the occurrences of a field. -/
structure Part (α : Type) where
  empty : α
  /-- The contents that the value is written as. -/
  write : α → List Content
  /-- The value after one more occurrence. -/
  add : (depth : Nat) → α → Content → Option α

/-- A field of a message: its number, and how it is written and read. -/
structure Slot (α : Type) where
  number : Nat
  write : α → List Content
  add : (depth : Nat) → α → Content → Option α

/-- The slot of a part of a message. -/
def slot (number : Nat) (part : Part β) (get : α → β) (put : α → β → α) : Slot α where
  number := number
  write a := part.write (get a)
  add depth a c := (part.add depth (get a) c).map (put a)

/-- A message: its value when all fields are missing, and its fields in the order they are
written. -/
structure Layout (α : Type) where
  empty : α
  slots : List (Slot α)

namespace Layout

def fields (l : Layout α) (a : α) : List Field :=
  l.slots.flatMap fun s => (s.write a).map (Field.mk s.number)

def encode (l : Layout α) (a : α) : Bytes := encodeFields (l.fields a)

/-- A message after one more field. -/
def add (l : Layout α) (depth : Nat) (a : α) (f : Field) : Option α :=
  match l.slots.find? fun s => s.number = f.number with
  | some s => s.add depth a f.content
  | none => some a

/-- A message after the fields that are written in bytes. -/
def merge? (l : Layout α) (depth : Nat) (a : α) (bytes : Bytes) : Option α := do
  (← decodeFields? depth bytes).foldlM (l.add depth) a

/-- A message that is in no other one. -/
def decode? (l : Layout α) (bytes : Bytes) : Option α := l.merge? 100 l.empty bytes

end Layout

namespace Part

def number : Part UInt64 where
  empty := 0
  write n := if n = 0 then [] else [.number n]
  add
    | _, _, .number n => some n
    | _, _, _ => none

/-- Whether something is so; any number but zero says that it is. -/
def flag : Part Bool where
  empty := false
  write b := if b then [.number 1] else []
  add
    | _, _, .number n => some (n ≠ 0)
    | _, _, _ => none

def bytes : Part Bytes where
  empty := []
  write b := if b.isEmpty then [] else [.bytes b]
  add
    | _, _, .bytes b => some b
    | _, _, _ => none

def text : Part String where
  empty := ""
  write s := if s = "" then [] else [.bytes (Text.toBytes s)]
  add
    | _, _, .bytes b => Text.ofBytes? b
    | _, _, _ => none

/-- A message in a message; one that is there is written even if it is empty. -/
def message (l : Layout α) : Part (Option α) where
  empty := none
  write
    | none => []
    | some a => [.bytes (l.encode a)]
  add
    | depth, old, .bytes b => (l.merge? (depth - 1) (old.getD l.empty) b).map some
    | _, _, _ => none

/-- Several messages of one kind. -/
def messages (l : Layout α) : Part (List α) where
  empty := []
  write as := as.map fun a => .bytes (l.encode a)
  add
    | depth, as, .bytes b => (l.merge? (depth - 1) l.empty b).map fun a => as ++ [a]
    | _, _, _ => none

/-- Several byte strings. -/
def manyBytes : Part (List Bytes) where
  empty := []
  write bs := bs.map .bytes
  add
    | _, bs, .bytes b => some (bs ++ [b])
    | _, _, _ => none

end Part

end Rollout.Wire
