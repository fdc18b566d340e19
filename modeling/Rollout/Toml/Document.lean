import Rollout.Toml.Basic

/-!
# Building tables

A document is written as sections, each with a header and entries. A key may not be given a value
twice, and a table may be opened by a header only once; tables that headers or keys with points
merely pass through may be opened later, or be added to by keys with points, as long as both are not
mixed. In the second edition such a table may be added to by keys with points after headers have
passed through it. Sections with a doubled header are items of an array; a longer key leads on from
the last of them.
-/

namespace Rollout.Toml

/-- How a table came about. -/
inductive Origin where
  | header
  | passed
  | dotted
deriving DecidableEq

/-- A table while the document is being built. -/
inductive Node where
  | leaf (value : Toml)
  | table (origin : Origin) (fields : List (String × Node))
  | tables (items : List (List (String × Node)))

/-- A header and the entries below it. -/
structure Section where
  path : List String
  repeated : Bool
  entries : List (List String × Toml)

/-- Replaces the value of a key that is there, in its place. -/
def replaceKey (key : String) (value : α) : List (String × α) → List (String × α)
  | [] => []
  | (k, v) :: rest => if k = key then (k, value) :: rest else (k, v) :: replaceKey key value rest

/-- Removes a key. -/
def removeKey (key : String) (fields : List (String × α)) : List (String × α) :=
  fields.filter fun f => f.1 != key

/-! ## Entries -/

/-- How a table came about once a value was put into it, if that is allowed; `nested` says that the
table was reached by a key with points. -/
def Origin.afterEntry? (edition : Edition) (nested : Bool) (origin : Origin) : Option Origin :=
  match edition with
  | .v10 => if nested ≠ (origin = .dotted) then none else some origin
  | .v11 =>
    if !nested then some origin
    else if origin = .header then none
    else some .dotted

/-- Adds a value under a key with points to a table. -/
def addEntry (edition : Edition) (value : Toml) (nested : Bool) :
    List String → Origin → List (String × Node) → Option (Origin × List (String × Node))
  | [], _, _ => none
  | [key], origin, fields => do
    let origin ← origin.afterEntry? edition nested
    match valueOf? key fields with
    | some _ => none
    | none => some (origin, fields ++ [(key, .leaf value)])
  | key :: keys, outer, fields =>
    match valueOf? key fields with
    | none => do
      let (origin, inner) ← addEntry edition value true keys .dotted []
      some (outer, fields ++ [(key, .table origin inner)])
    | some (.table origin inner) =>
      if origin = .header then none
      else do
        let (origin, inner) ← addEntry edition value true keys origin inner
        some (outer, replaceKey key (.table origin inner) fields)
    | some (.tables items) => do
      let last ← items.getLast?
      let (_, last) ← addEntry edition value true keys .header last
      some (outer, replaceKey key (.tables (items.dropLast ++ [last])) fields)
    | some (.leaf _) => none

/-- Adds entries to a table. -/
def addEntries (edition : Edition) (fields : List (String × Node))
    (entries : List (List String × Toml)) : Option (List (String × Node)) :=
  entries.foldlM (fun fields e => (addEntry edition e.2 false e.1 .header fields).map (·.2)) fields

/-! ## Sections -/

/-- Adds a section to a table; the path to it is given. -/
def addSection (edition : Edition) (repeated : Bool) (entries : List (List String × Toml)) :
    List String → List (String × Node) → Option (List (String × Node))
  | [], _ => none
  | [key], fields =>
    match repeated, valueOf? key fields with
    | true, none => do
      let inner ← addEntries edition [] entries
      some (fields ++ [(key, .tables [inner])])
    | true, some (.tables items) => do
      let inner ← addEntries edition [] entries
      some (replaceKey key (.tables (items ++ [inner])) fields)
    | true, some _ => none
    | false, none => do
      let inner ← addEntries edition [] entries
      some (fields ++ [(key, .table .header inner)])
    | false, some (.table .passed inner) => do
      let inner ← addEntries edition inner entries
      some (removeKey key fields ++ [(key, .table .header inner)])
    | false, some _ => none
  | key :: keys, fields =>
    match valueOf? key fields with
    | none => do
      let inner ← addSection edition repeated entries keys []
      some (fields ++ [(key, .table .passed inner)])
    | some (.table origin inner) => do
      let inner ← addSection edition repeated entries keys inner
      some (replaceKey key (.table origin inner) fields)
    | some (.tables items) => do
      let last ← items.getLast?
      let last ← addSection edition repeated entries keys last
      some (replaceKey key (.tables (items.dropLast ++ [last])) fields)
    | some (.leaf _) => none

mutual

/-- The finished value of a node. -/
def Node.value : Node → Toml
  | .leaf v => v
  | .table _ fields => .table (valueFields fields)
  | .tables items => .array (valueItems items)

def valueFields : List (String × Node) → List (String × Toml)
  | [] => []
  | (k, n) :: rest => (k, n.value) :: valueFields rest

def valueItems : List (List (String × Node)) → List Toml
  | [] => []
  | fields :: rest => .table (valueFields fields) :: valueItems rest

end

/-- The table of the entries before the first header and of the sections after them. -/
def build? (edition : Edition) (entries : List (List String × Toml)) (sections : List Section) :
    Option Toml := do
  let root ← addEntries edition [] entries
  let root ←
    sections.foldlM (fun root s => addSection edition s.repeated s.entries s.path root) root
  return .table (valueFields root)

/-- The table of the entries of an inline table. -/
def buildInline? (edition : Edition) (entries : List (List String × Toml)) : Option Toml :=
  (addEntries edition [] entries).map fun fields => .table (valueFields fields)

end Rollout.Toml
