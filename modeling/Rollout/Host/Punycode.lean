/-!
# Punycode

A label beyond ASCII has a form in ASCII. Its characters of ASCII come first, then a dash if there
were any, and then one number for each of the others, in the order of their code points. Counting up
from the first code point beyond ASCII, all places of the text so far are passed for each code point
before the next one is reached; a number says how many places are passed until the next character
is put in.

A number is written in digits of base 36, the lowest first. The last digit is known by being below a
threshold, which depends on its place and on a bias that follows the size of the numbers before.
-/

namespace Rollout.Punycode

/-- The value of a digit. -/
def digit? (c : Char) : Option Nat :=
  if 'a' ≤ c && c ≤ 'z' then some (c.toNat - 97)
  else if 'A' ≤ c && c ≤ 'Z' then some (c.toNat - 65)
  else if c.isDigit then some (c.toNat - 22)
  else none

/-- Below which value a digit is the last one; the places are 36, 72 and so on. -/
def threshold (bias place : Nat) : Nat := min 26 (max 1 (place - bias))

/-- Reads a number; the weight of its first digit is given. -/
def number? (bias : Nat) (place weight : Nat) : List Char → Option (Nat × List Char)
  | [] => none
  | c :: cs =>
    match digit? c with
    | none => none
    | some d =>
      let t := threshold bias place
      if d < t then some (d * weight, cs)
      else (number? bias (place + 36) (weight * (36 - t)) cs).map fun r => (d * weight + r.1, r.2)

/-- Reading a number uses up characters. -/
theorem length_lt_of_number? {bias place weight : Nat} {cs : List Char} {r : Nat × List Char}
    (h : number? bias place weight cs = some r) : r.2.length < cs.length := by
  induction cs generalizing place weight r with
  | nil => simp [number?] at h
  | cons c cs ih =>
    rw [number?] at h
    split at h
    · simp at h
    · dsimp only at h
      split at h
      · obtain rfl := Option.some.inj h
        exact Nat.lt_succ_self _
      · obtain ⟨q, hq, rfl⟩ := Option.map_eq_some_iff.mp h
        have shorter : q.2.length < cs.length := ih hq
        exact Nat.lt_succ_of_lt shorter

/-- The bias for numbers of about the given size, if the one given is for small ones. -/
def biasFor (bias size : Nat) : Nat :=
  if 455 < size then biasFor (bias + 36) (size / 35) else bias + 36 * size / (size + 38)
termination_by size
decreasing_by omega

/-- The bias after a number was read; `count` is how long the text is by now. -/
def nextBias (n count : Nat) (isFirst : Bool) : Nat :=
  let size := if isFirst then n / 700 else n / 2
  biasFor 0 (size + size / count)

/-- Puts characters into a text. The next one has at least the code point `code`, and if it has just
that, it comes at `place` or later. -/
def fill? (text : List Char) (code place bias : Nat) (cs : List Char) : Option (List Char) :=
  if cs.isEmpty then some text
  else
    match h : number? bias 36 1 cs with
    | none => none
    | some (n, rest) =>
      let count := text.length + 1
      let code := code + (place + n) / count
      let next := (place + n) % count
      if code < 0xD800 ∨ (0xE000 ≤ code ∧ code < 0x110000) then
        fill? (text.take next ++ Char.ofNat code :: text.drop next) code (next + 1)
          (nextBias n count (place == 0)) rest
      else none
termination_by cs.length
decreasing_by exact length_lt_of_number? h

/-- The label that has the given form. -/
def decode? (form : List Char) : Option (List Char) :=
  let numbers := (form.reverse.takeWhile (· ≠ '-')).reverse
  let ascii := form.take (form.length - numbers.length - 1)
  if ascii.isEmpty then fill? [] 0x80 0 72 form
  else fill? (ascii.map Char.toLower) 0x80 0 72 numbers

end Rollout.Punycode
