import Rollout.Digest.Keyed
import Rollout.Text.PlainLetters
import Rollout.Wallet.WordList

/-!
# Phrases

A phrase writes down a secret of 16 to 32 bytes in words. The secret is followed by one bit of its
digest for every 32 of its own, and the whole is cut into numbers of eleven bits, one per word; so a
phrase with a word changed is most likely no phrase at all. A phrase is read with any blanks between
its words and with its letters in any of the forms that have a plain one; otherwise the words must be
written exactly as they are in the list.
-/

namespace Rollout

/-- A secret that can be written in words. -/
structure Phrase where
  secret : Bytes
  fits : secret.length ∈ [16, 20, 24, 28, 32]
deriving DecidableEq

namespace Phrase

/-- How many words a secret of the given length takes. -/
def wordCount (length : Nat) : Nat := 3 * length / 4

/-- How many bits of the digest follow a secret of the given length. -/
def checkBits (length : Nat) : Nat := length / 4

/-- The bits of the digest that follow a secret, as a number. -/
def checksum (secret : Bytes) : Nat :=
  Digest.Sha2.ofBigEndian ((Digest.sha256 secret).take 1) / Nat.pow 2 (8 - checkBits secret.length)

/-- The numbers of eleven bits that a number is made of, the first ones first. -/
def digits (count n : Nat) : List Nat :=
  (List.range count).map fun i => n / Nat.pow 2048 (count - 1 - i) % 2048

/-- The words of a phrase. -/
def wordsOf (p : Phrase) : List String :=
  let n := p.secret.length
  let all := Digest.Sha2.ofBigEndian p.secret * Nat.pow 2 (checkBits n) + checksum p.secret
  (digits (wordCount n) all).map word

/-- The words of a phrase with one space between them. -/
def text (p : Phrase) : String := " ".intercalate p.wordsOf

/-- The phrase of a secret, if it has a fitting length. -/
def ofSecret? (secret : Bytes) : Option Phrase :=
  if h : secret.length ∈ [16, 20, 24, 28, 32] then some ⟨secret, h⟩ else none

/-- The phrase that is written in a text. -/
def parse? (s : String) : Option Phrase := do
  let numbers ← (Text.words (Text.plain s)).mapM wordNumber?
  let length := 4 * numbers.length / 3
  let all := numbers.foldl (fun n w => n * 2048 + w) 0
  let checks := Nat.pow 2 (checkBits length)
  let p ← ofSecret? (Digest.Sha2.bigEndian length (all / checks))
  if wordCount length = numbers.length ∧ checksum p.secret = all % checks then some p else none

/-- The seed of 64 bytes that keys are made from. -/
def seed (p : Phrase) : Bytes :=
  Digest.derive 2048 (Text.toBytes p.text) (Text.toBytes "mnemonic")

end Phrase

end Rollout
