import Rollout.Digest.Sha2

/-!
# The RIPEMD-160 digest

A state of five 32-bit words runs through two lines of eighty steps, each in five rounds of sixteen;
the two results are then added to the state crosswise. The lines take the words of a block in
different orders, which come from two permutations, and use the five mixing functions in opposite
order.
-/

namespace Rollout.Digest.Ripemd160

structure Five where
  a : UInt32
  b : UInt32
  c : UInt32
  d : UInt32
  e : UInt32

def start : Five := ⟨0x67452301, 0xEFCDAB89, 0x98BADCFE, 0x10325476, 0xC3D2E1F0⟩

/-- The permutation by which each round takes the words in another order than the one before. -/
def reorder : List Nat := [7, 4, 13, 1, 10, 6, 15, 3, 12, 0, 9, 5, 2, 14, 11, 8]

/-- The permutation by which the right line starts. -/
def rightOrder : List Nat := (List.range 16).map fun i => (9 * i + 5) % 16

/-- The orders of the words in the five rounds of a line. -/
def orders (first : List Nat) : Nat → List (List Nat)
  | 0 => []
  | n + 1 => first :: orders (first.map fun i => reorder.getD i 0) n

/-- How far a word is turned in each round. -/
def turns : List (List UInt32) :=
  [[11, 14, 15, 12, 5, 8, 7, 9, 11, 13, 14, 15, 6, 7, 9, 8],
    [12, 13, 11, 15, 6, 9, 9, 7, 12, 15, 11, 13, 7, 8, 7, 7],
    [13, 15, 14, 11, 7, 7, 6, 8, 13, 14, 13, 12, 5, 5, 6, 9],
    [14, 11, 12, 14, 8, 6, 5, 5, 15, 12, 15, 14, 9, 9, 8, 6],
    [15, 12, 13, 13, 9, 5, 8, 6, 14, 11, 12, 11, 8, 6, 5, 5]]

def functions : List (UInt32 → UInt32 → UInt32 → UInt32) :=
  [fun x y z => x ^^^ y ^^^ z,
    fun x y z => (x &&& y) ||| (~~~x &&& z),
    fun x y z => (x ||| ~~~y) ^^^ z,
    fun x y z => (x &&& z) ||| (y &&& ~~~z),
    fun x y z => x ^^^ (y ||| ~~~z)]

/-- Thirty bits after the point of a root of 2, 3, 5 and 7, with the whole part before them. -/
def constants (power : Nat) : List UInt32 :=
  [2, 3, 5, 7].map fun n => UInt32.ofNat (root power 32 (n * Nat.pow 2 (power * 30)))

def turnLeft (x k : UInt32) : UInt32 := (x <<< k) ||| (x >>> (32 - k))

/-- What a round of a line is made of. -/
structure Round where
  function : UInt32 → UInt32 → UInt32 → UInt32
  constant : UInt32
  order : List Nat
  turns : List UInt32

def line (functions : List (UInt32 → UInt32 → UInt32 → UInt32)) (constants : List UInt32)
    (first : List Nat) : List Round :=
  (functions.zip (constants.zip ((orders first 5).zip turns))).map fun (f, k, o, t) => ⟨f, k, o, t⟩

def left : List Round := line functions (0 :: constants 2) (List.range 16)

def right : List Round := line functions.reverse (constants 3 ++ [0]) rightOrder

def step (words : Array UInt32) (r : Round) (s : Five) (i : Nat) : Five :=
  let t := s.a + r.function s.b s.c s.d + words.getD i 0 + r.constant
  ⟨s.e, turnLeft t (r.turns.getD i 0) + s.e, s.b, turnLeft s.c 10, s.d⟩

def run (words : Array UInt32) (rounds : List Round) (s : Five) : Five :=
  rounds.foldl (fun s r => r.order.foldl (step words r) s) s

def compress (s : Five) (words : Array UInt32) : Five :=
  let x := run words left s
  let y := run words right s
  ⟨s.b + x.c + y.d, s.c + x.d + y.e, s.d + x.e + y.a, s.e + x.a + y.b, s.a + x.b + y.c⟩

/-- A number in little-endian bytes, cut to the given width. -/
def littleEndian (width n : Nat) : Bytes := (Sha2.bigEndian width n).reverse

def blocks : Nat → Bytes → Five → Five
  | 0, _, s => s
  | n + 1, bytes, s =>
    let words := (List.range 16).map fun i =>
      UInt32.ofNat (Sha2.ofBigEndian ((bytes.drop (4 * i)).take 4).reverse)
    blocks n (bytes.drop 64) (compress s words.toArray)

def padding (length : Nat) : Bytes :=
  0x80 :: List.replicate ((119 - length % 64) % 64) 0 ++ littleEndian 8 (8 * length)

end Ripemd160

/-- The digest of 160 bits. -/
def ripemd160 (message : Bytes) : Bytes :=
  let all := message ++ Ripemd160.padding message.length
  let s := Ripemd160.blocks (all.length / 64) all Ripemd160.start
  [s.a, s.b, s.c, s.d, s.e].flatMap fun v => Ripemd160.littleEndian 4 v.toNat

end Rollout.Digest
