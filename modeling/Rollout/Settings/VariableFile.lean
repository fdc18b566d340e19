import Rollout.Text.Alphanumeric
import Rollout.Text.Utf8

/-!
# Files of variables

A file may give variables that the process does not have: a line `NAME=value` each, where `export` may
stand in front. Text between apostrophes is taken as it is. Between quotes and outside of them a
backslash takes the next character as it is, and a dollar sign puts in the value of another variable.
Outside of quotes a blank ends the value, and nothing but a comment may follow. The first line that
cannot be read ends the reading; the lines before it count.
-/

namespace Rollout.VariableFile

/-- How a value is being read. -/
inductive Mode where
  | plain
  | ended
  | apostrophes
  | quotes
deriving DecidableEq

/-- A name after a dollar sign: what was read of it, and whether it is in braces. -/
structure Name where
  inBraces : Bool
  text : List Char

/-- A value under way, its characters in reverse. -/
structure Reader where
  mode : Mode
  escaped : Bool
  name : Option Name
  output : List Char

/-- Puts the value of a variable in; one that is not there is empty. -/
def Reader.substitute (r : Reader) (get : String → Option String) (name : List Char) : Reader :=
  { r with
    name := none
    output := ((get (String.ofList name)).getD "").toList.reverse ++ r.output }

/-- Takes one more character of a name after a dollar sign. -/
def Reader.takeName (r : Reader) (get : String → Option String) (n : Name) (c : Char) : Reader :=
  if Text.isAlphanumeric c then { r with name := some { n with text := n.text ++ [c] } }
  else if n.inBraces then
    if c = '\x7d' then r.substitute get n.text
    else { r with name := some { n with text := n.text ++ [c] } }
  else if c = '\x7b' ∧ n.text.isEmpty then { r with name := some ⟨true, []⟩ }
  else
    let r := r.substitute get n.text
    if c = '$' then { r with name := some ⟨false, []⟩ } else { r with output := c :: r.output }

/-- Takes one more character of a value; the second result tells that a comment has begun. -/
def Reader.take? (r : Reader) (get : String → Option String) (c : Char) : Option (Reader × Bool) :=
  let goOn (r : Reader) : Option (Reader × Bool) := some (r, false)
  let put (c : Char) : Reader := { r with output := c :: r.output }
  if r.mode = .ended then
    if c = ' ' ∨ c = '\t' then goOn r else if c = '#' then some (r, true) else none
  else if r.escaped then
    let r := { r with escaped := false }
    if ['\\', '\'', '"', '$', ' '].contains c then goOn { r with output := c :: r.output }
    else if c = 'n' then goOn { r with output := '\n' :: r.output }
    else none
  else if r.mode = .apostrophes then
    goOn (if c = '\'' then { r with mode := .plain } else put c)
  else
    match r.name with
    | some n => goOn (r.takeName get n c)
    | none =>
      if c = '$' then goOn { r with name := some ⟨false, []⟩ }
      else if c = '\\' then goOn { r with escaped := true }
      else if c = '"' then
        goOn { r with mode := if r.mode = .quotes then .plain else .quotes }
      else if r.mode = .quotes then goOn (put c)
      else if c = '\'' then goOn { r with mode := .apostrophes }
      else if c = ' ' ∨ c = '\t' then goOn { r with mode := .ended }
      else goOn (put c)

/-- The value that has been read, if nothing is left open. -/
def Reader.finish? (r : Reader) (get : String → Option String) : Option String :=
  let open? := r.mode = .apostrophes ∨ r.mode = .quotes
  match r.name with
  | some n =>
    if n.inBraces ∨ open? then none
    else some (String.ofList (r.substitute get n.text).output.reverse)
  | none => if open? then none else some (String.ofList r.output.reverse)

/-- Reads a value. -/
def value? (get : String → Option String) : Reader → List Char → Option String
  | r, [] => r.finish? get
  | r, c :: cs => do
    let (r, comment) ← r.take? get c
    if comment then r.finish? get else value? get r cs

/-- Reads the name at the start of a line. -/
def name? (cs : List Char) : Option (String × List Char) :=
  let inName (c : Char) : Bool := c.isAlphanum || c == '_' || c == '.'
  match cs with
  | c :: _ =>
    if c.isAlpha || c == '_' then
      some (String.ofList (cs.takeWhile inName), (cs.dropWhile inName).dropWhile Text.isBlank)
    else none
  | [] => none

def afterEquals? : List Char → Option (List Char)
  | '=' :: cs => some (cs.dropWhile Text.isBlank)
  | _ => none

/-- Reads a line; a blank line or a comment gives nothing. -/
def line? (get : String → Option String) (cs : List Char) : Option (Option (String × String)) := do
  let cs := Text.trimChars cs
  if cs.isEmpty ∨ cs.head? = some '#' then return none
  let (name, rest) ← name? cs
  let (name, rest) ←
    if name = "export" ∧ (afterEquals? rest).isNone then name? rest else some (name, rest)
  let rest ← afterEquals? rest
  if rest.isEmpty ∨ rest.head? = some '#' then return some (name, "")
  let value ← value? get ⟨.plain, false, none, []⟩ rest
  return some (name, value)

/-- The lines of a file, without their ends. -/
def lines (bytes : Bytes) : List Bytes :=
  let cut := bytes.foldr (fun b (ls : List Bytes) =>
    if b = 10 then [] :: ls
    else match ls with
      | l :: rest => (b :: l) :: rest
      | [] => [[b]]) [[]]
  let cut := if cut.getLast? = some [] then cut.dropLast else cut
  cut.map fun l => if l.getLast? = some 13 then l.dropLast else l

/-- The variables of a process and of the lines of a file; a variable that is there keeps its value.
What the file gives to a name is known to the lines after it in any case. -/
def extend (given : List (String × String)) : (known : List (String × String)) → List Bytes →
    List (String × String)
  | _, [] => given
  | known, l :: rest =>
    let find (vs : List (String × String)) (name : String) : Option String :=
      (vs.find? fun v => v.1 = name).map (·.2)
    let get (name : String) : Option String := find given name <|> find known name
    match (Text.ofBytes? l).bind fun s => line? get s.toList with
    | none => given
    | some none => extend given known rest
    | some (some (name, value)) =>
      let given := if (find given name).isSome then given else given ++ [(name, value)]
      extend given ((name, value) :: known) rest

/-- The variables of a process together with those of a file. -/
def load (environment : List (String × String)) (file : Bytes) : List (String × String) :=
  extend environment [] (lines file)

end Rollout.VariableFile
