import Rollout.Toml.Document
import Rollout.Toml.Token

/-!
# Reading documents

Reads a text as a document in an edition of TOML. A byte order mark at the start is skipped.
-/

namespace Rollout.Toml

/-- What may stand between the parts of an inline table: blanks, and in the second edition also
comments and line ends. -/
def skipInline : Edition → List Char → List Char
  | .v10, cs => skipBlanks cs
  | .v11, cs => skipLines (cs.length + 1) cs

mutual

/-- A value; `depth` containers may still be opened. -/
def value? (edition : Edition) (fuel depth : Nat) (cs : List Char) : Option (Toml × List Char) :=
  match fuel with
  | 0 => none
  | fuel + 1 =>
    match cs with
    | '"' :: _ | '\'' :: _ => (string? edition cs).map fun (s, cs) => (.text s, cs)
    | 't' :: 'r' :: 'u' :: 'e' :: cs => some (.boolean true, cs)
    | 'f' :: 'a' :: 'l' :: 's' :: 'e' :: cs => some (.boolean false, cs)
    | '[' :: cs =>
      match depth with
      | 0 => none
      | depth + 1 => items? edition fuel depth [] cs
    | '\x7b' :: cs =>
      match depth with
      | 0 => none
      | depth + 1 =>
        match skipInline edition cs with
        | '\x7d' :: cs => some (.table [], cs)
        | cs => do
          let (entries, cs) ← inlineEntries? edition fuel depth [] cs
          return (← buildInline? edition entries, cs)
    | cs =>
      match moment? edition cs with
      | some r => some r
      | none =>
        match float? edition cs with
        | some r => some r
        | none => integer? cs

/-- The items of an array up to its end; those before are given in reverse. -/
def items? (edition : Edition) (fuel depth : Nat) (items : List Toml) (cs : List Char) :
    Option (Toml × List Char) :=
  match fuel with
  | 0 => none
  | fuel + 1 =>
    match skipLines (cs.length + 1) cs with
    | ']' :: cs => some (.array items.reverse, cs)
    | cs => do
      let (v, cs) ← value? edition fuel depth cs
      match skipLines (cs.length + 1) cs with
      | ',' :: cs => items? edition fuel depth (v :: items) cs
      | ']' :: cs => some (.array (v :: items).reverse, cs)
      | _ => none

/-- The entries of an inline table up to its end; those before are given in reverse. In the second
edition a comma may follow the last one. -/
def inlineEntries? (edition : Edition) (fuel depth : Nat) (entries : List (List String × Toml))
    (cs : List Char) : Option (List (List String × Toml) × List Char) :=
  match fuel with
  | 0 => none
  | fuel + 1 => do
    let (e, cs) ← entry? edition (skipInline edition) fuel depth cs
    match skipInline edition cs with
    | ',' :: cs =>
      match edition, skipInline edition cs with
      | .v11, '\x7d' :: cs => some ((e :: entries).reverse, cs)
      | _, cs => inlineEntries? edition fuel depth (e :: entries) cs
    | '\x7d' :: cs => some ((e :: entries).reverse, cs)
    | _ => none

/-- A key with its value; `skip` drops what may stand around the sign between them. -/
def entry? (edition : Edition) (skip : List Char → List Char) (fuel depth : Nat) (cs : List Char) :
    Option ((List String × Toml) × List Char) :=
  match fuel with
  | 0 => none
  | fuel + 1 => do
    let (path, cs) ← keyPath? edition edition.maxDepth cs
    match skip cs with
    | '=' :: cs =>
      let (v, cs) ← value? edition fuel depth (skip cs)
      return ((path, v), cs)
    | _ => none

end

/-- A header: a key in brackets, doubled for an item of an array. -/
def header? (edition : Edition) (cs : List Char) : Option ((List String × Bool) × List Char) :=
  match cs with
  | '[' :: '[' :: cs => do
    let (path, cs) ← keyPath? edition edition.maxDepth cs
    match skipBlanks cs with
    | ']' :: ']' :: cs => some ((path, true), cs)
    | _ => none
  | '[' :: cs => do
    let (path, cs) ← keyPath? edition edition.maxDepth cs
    match skipBlanks cs with
    | ']' :: cs => some ((path, false), cs)
    | _ => none
  | _ => none

/-- What the lines of a document say, gathered in reverse: the sections, the last of them still
open, and the entries before the first header. -/
structure Lines where
  first : List (List String × Toml)
  sections : List Section

def Lines.addEntry (l : Lines) (e : List String × Toml) : Lines :=
  match l.sections with
  | [] => { l with first := e :: l.first }
  | s :: rest => { l with sections := { s with entries := e :: s.entries } :: rest }

/-- Reads the lines of a document. -/
def lines? (edition : Edition) (l : Lines) : Nat → List Char → Option Lines
  | 0, _ => none
  | fuel + 1, cs =>
    match skipLines (cs.length + 1) cs with
    | [] => some l
    | '[' :: rest => do
      let ((path, repeated), cs) ← header? edition ('[' :: rest)
      let cs ← endLine? cs
      lines? edition { l with sections := ⟨path, repeated, []⟩ :: l.sections } fuel cs
    | cs => do
      let (e, cs) ← entry? edition skipBlanks (2 * cs.length + 2) edition.maxDepth cs
      let cs ← endLine? cs
      lines? edition (l.addEntry e) fuel cs

/-- Reads a document. -/
def parse? (edition : Edition) (s : String) : Option Toml := do
  let cs := match s.toList with
    | '\uFEFF' :: cs => cs
    | cs => cs
  let l ← lines? edition ⟨[], []⟩ (cs.length + 1) cs
  build? edition l.first.reverse
    (l.sections.reverse.map fun s => { s with entries := s.entries.reverse })

end Rollout.Toml
