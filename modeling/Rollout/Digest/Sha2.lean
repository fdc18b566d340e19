import Rollout.Text.Utf8

/-!
# The SHA-2 digests

The digests over 32-bit and over 64-bit words follow one scheme. A message is padded to whole
blocks of sixteen words; each block is stretched to one word per round; the rounds mix these words
and one constant each into a state of eight words, which is then added to the state before. The
constants are the first bits of the fractional parts of roots of the first primes.

`Absorbed` is a digest under way: the state after whole blocks, and how many bytes they held.
-/

namespace Rollout.Digest

/-- The words that a digest works on. -/
class Word (w : Type) extends Add w, AndOp w, XorOp w, Complement w, Inhabited w where
  /-- How many bytes a word has. -/
  width : Nat
  ofNat : Nat → w
  toNat : w → Nat
  /-- Turns the bits to the right; those that fall off come in at the left. -/
  rotate : w → w → w
  /-- Moves the bits to the right; those that fall off are lost. -/
  shift : w → w → w

@[always_inline, inline]
instance : Word UInt32 where
  width := 4
  ofNat := UInt32.ofNat
  toNat := UInt32.toNat
  rotate x k := (x >>> k) ||| (x <<< (32 - k))
  shift x k := x >>> k

@[always_inline, inline]
instance : Word UInt64 where
  width := 8
  ofNat := UInt64.ofNat
  toNat := UInt64.toNat
  rotate x k := (x >>> k) ||| (x <<< (64 - k))
  shift x k := x >>> k

/-! ## Constants -/

/-- The greatest number with at most the given count of bits whose power is not above `n`. -/
def root (power bits n : Nat) : Nat :=
  (List.range bits).foldr
    (fun i r => r + if Nat.pow (r + Nat.pow 2 i) power ≤ n then Nat.pow 2 i else 0) 0

/-- The first bits of the fractional part of a root of a small number. -/
def rootBits (power bits n : Nat) : Nat :=
  root power (bits + 8) (n * Nat.pow 2 (power * bits)) % Nat.pow 2 bits

/-- The first primes. -/
def primes (count : Nat) : List Nat :=
  ((List.range 410).filter fun n => 2 ≤ n ∧ (List.range n).all fun d => d < 2 ∨ n % d ≠ 0).take count

/-! ## The scheme -/

/-- The working state: eight words. -/
structure Eight (w : Type) where
  a : w
  b : w
  c : w
  d : w
  e : w
  f : w
  g : w
  h : w

/-- What tells one digest of the family from another: how far words are turned and moved, the
constants of the rounds, and the state before the first block. -/
structure Sha2 (w : Type) where
  sumA : w × w × w
  sumE : w × w × w
  mixEarly : w × w × w
  mixLate : w × w × w
  constants : Array w
  start : Eight w

namespace Sha2

variable {w : Type} [Word w]

/-- Three turned copies of a word, laid over each other. -/
@[specialize] def sum (by3 : w × w × w) (x : w) : w :=
  Word.rotate x by3.1 ^^^ Word.rotate x by3.2.1 ^^^ Word.rotate x by3.2.2

/-- Two turned copies and one moved copy of a word, laid over each other. -/
@[specialize] def mix (by3 : w × w × w) (x : w) : w :=
  Word.rotate x by3.1 ^^^ Word.rotate x by3.2.1 ^^^ Word.shift x by3.2.2

/-- Stretches the words of a block by the given count of words. -/
@[specialize] def stretch (s : Sha2 w) : Nat → Array w → Array w
  | 0, ws => ws
  | n + 1, ws =>
    let ago (back : Nat) : w := ws.getD (ws.size - back) default
    stretch s n
      (ws.push (mix s.mixLate (ago 2) + ago 7 + mix s.mixEarly (ago 15) + ago 16))

/-- One round mixes a word and a constant into the state. -/
@[specialize] def round (s : Sha2 w) (x : Eight w) (word constant : w) : Eight w :=
  let choice := (x.e &&& x.f) ^^^ (~~~x.e &&& x.g)
  let majority := (x.a &&& x.b) ^^^ (x.a &&& x.c) ^^^ (x.b &&& x.c)
  let t := x.h + sum s.sumE x.e + choice + constant + word
  ⟨t + sum s.sumA x.a + majority, x.a, x.b, x.c, x.d + t, x.e, x.f, x.g⟩

/-- All rounds, over the words of a stretched block and the constants. -/
@[specialize] def rounds (s : Sha2 w) (words : Array w) (x : Eight w) : Eight w :=
  (List.range s.constants.size).foldl (fun x i =>
    round s x (words.getD i default) (s.constants.getD i default)) x

/-- Mixes a block of sixteen words into a state. -/
@[specialize] def compress (s : Sha2 w) (x : Eight w) (block : Array w) : Eight w :=
  let y := rounds s (stretch s (s.constants.size - block.size) block) x
  ⟨x.a + y.a, x.b + y.b, x.c + y.c, x.d + y.d, x.e + y.e, x.f + y.f, x.g + y.g, x.h + y.h⟩

/-- A number in big-endian bytes, cut to the given width. -/
def bigEndian (width n : Nat) : Bytes :=
  (List.range width).map fun i => UInt8.ofNat (n / Nat.pow 256 (width - 1 - i))

/-- The number that bytes stand for, the most significant first. -/
def ofBigEndian (bytes : Bytes) : Nat := bytes.foldl (fun n b => n * 256 + b.toNat) 0

/-- The next words of a message, and the bytes after them. -/
@[specialize] def takeWords : Nat → Bytes → Array w → Array w × Bytes
  | 0, bytes, ws => (ws, bytes)
  | n + 1, bytes, ws =>
    takeWords n (bytes.drop (Word.width w))
      (ws.push (Word.ofNat (ofBigEndian (bytes.take (Word.width w)))))

/-- Mixes the given count of blocks at the front of the bytes into a state. -/
@[specialize] def blocks (s : Sha2 w) : Nat → Bytes → Eight w → Eight w
  | 0, _, x => x
  | n + 1, bytes, x =>
    let (words, rest) := takeWords 16 bytes #[]
    blocks s n rest (compress s x words)

/-- The bytes of a block. -/
abbrev blockSize (w : Type) [Word w] : Nat := 16 * Word.width w

/-- What fills up a message of the given length: a set bit, clear bits, and the length in bits over
the last two words of a block. -/
def padding (w : Type) [Word w] (length : Nat) : Bytes :=
  let tail := 2 * Word.width w
  let used := (length + 1 + tail) % blockSize w
  let zeros := if used = 0 then 0 else blockSize w - used
  0x80 :: List.replicate zeros 0 ++ bigEndian tail (8 * length)

/-- The words of a state as bytes. -/
@[specialize] def Eight.bytes (x : Eight w) : Bytes :=
  [x.a, x.b, x.c, x.d, x.e, x.f, x.g, x.h].flatMap fun v => bigEndian (Word.width w) (Word.toNat v)

/-- The digest of a message of which whole blocks of the given length are in the state already. -/
@[specialize] def finish (s : Sha2 w) (absorbed : Nat) (x : Eight w) (message : Bytes) : Bytes :=
  let all := message ++ padding w (absorbed + message.length)
  Eight.bytes (blocks s (all.length / blockSize w) all x)

/-- The digest of a message. -/
@[specialize] def digest (s : Sha2 w) (message : Bytes) : Bytes := finish s 0 s.start message

end Sha2

/-! ## The two digests in use -/

def roots (w : Type) [Word w] (power count : Nat) : List w :=
  (primes count).map fun p => Word.ofNat (rootBits power (8 * Word.width w) p)

/-- The state made of the square roots of the first eight primes. -/
def startState (w : Type) [Word w] : Eight w :=
  match roots w 2 8 with
  | [a, b, c, d, e, f, g, h] => ⟨a, b, c, d, e, f, g, h⟩
  | _ => ⟨default, default, default, default, default, default, default, default⟩

/-- The digest of 256 bits. -/
def sha256Scheme : Sha2 UInt32 where
  sumA := (2, 13, 22)
  sumE := (6, 11, 25)
  mixEarly := (7, 18, 3)
  mixLate := (17, 19, 10)
  constants := (roots UInt32 3 64).toArray
  start := startState UInt32

/-- The digest of 512 bits. -/
def sha512Scheme : Sha2 UInt64 where
  sumA := (28, 34, 39)
  sumE := (14, 18, 41)
  mixEarly := (1, 8, 7)
  mixLate := (19, 61, 6)
  constants := (roots UInt64 3 80).toArray
  start := startState UInt64

def sha256 (message : Bytes) : Bytes := sha256Scheme.digest message

def sha512 (message : Bytes) : Bytes := sha512Scheme.digest message

end Rollout.Digest
