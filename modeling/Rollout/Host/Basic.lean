import Rollout.Host.Composed
import Rollout.Host.Direction
import Rollout.Host.Folding
import Rollout.Host.Joining
import Rollout.Host.Punycode

/-!
# Names of hosts

The name of a host is made of labels with points between them. It may be written in any letters; it
is folded and composed, and labels that are written in Punycode are read. A label in Punycode has to
stand for characters that stay as they are. A label must not begin with a mark, its joiners have to
fit, and the directions of the labels have to be in order.
-/

namespace Rollout.Host

/-- Whether a character of ASCII cannot stand in the name of a host. -/
def isForbidden (c : Char) : Bool :=
  c.toNat ≤ 0x20 || c.toNat = 0x7F || "#/:<>?@[\\]^|%".contains c

/-- The mark in front of labels in Punycode. -/
def codeMark : List Char := ['x', 'n', '-', '-']

/-- How long a label in Punycode may be after the mark. -/
def maxCode : Nat := 2000

/-- How long a label beyond ASCII may be. -/
def maxLabel : Nat := 1000

def isAscii (c : Char) : Bool := c.toNat < 0x80

/-- Whether a label in its final form keeps the rules for its own characters. -/
def isLabel (label : List Char) : Bool :=
  !label.head?.any isMark && joinersFit [] label
    && (label.all isAscii || label.length ≤ maxLabel)

/-- The label that is written in Punycode after the mark. -/
def decodedLabel? (code : List Char) : Option (List Char) := do
  if code.isEmpty || code.getLast? == some '-' || !code.all isAscii || maxCode < code.length then none
  let label ← Punycode.decode? code
  if label.all (fun c => isFolded c && !isForbidden c && c ≠ '.') && composed label == label then
    some label
  else none

/-- The final form of a label that is folded and composed. -/
def label? (cs : List Char) : Option (List Char) := do
  let label ← if codeMark.isPrefixOf cs then decodedLabel? (cs.drop codeMark.length) else some cs
  if isLabel label then some label else none

/-- The labels of what stands between two points; folding may bring in more points. -/
def labels? (cs : List Char) : Option (List (List Char)) := do
  let folded ← cs.mapM fold?
  let cs := composed folded.flatten
  if cs.any isForbidden then none else (Text.pieces (· == '.') cs).mapM label?

/-- The final form of the name of a host. -/
def name? (cs : List Char) : Option (List Char) := do
  let labels := (← (Text.pieces (· == '.') cs).mapM labels?).flatten
  let name := ['.'].intercalate labels
  if name.isEmpty || !areOrdered labels then none else some name

end Rollout.Host
