/-! The SHA-1 hash of a byte string. -/
namespace SplitTest.Sha1

/-- The five words that the blocks of a message are mixed into. -/
structure Digest where
  a : UInt32
  b : UInt32
  c : UInt32
  d : UInt32
  e : UInt32
deriving DecidableEq, Repr

namespace Digest

def initial : Digest :=
  ⟨0x67452301, 0xefcdab89, 0x98badcfe, 0x10325476, 0xc3d2e1f0⟩

/-- Word by word sum, modulo `2 ^ 32`. -/
def add (x y : Digest) : Digest :=
  ⟨x.a + y.a, x.b + y.b, x.c + y.c, x.d + y.d, x.e + y.e⟩

/-- The twenty bytes as one number, most significant byte first. -/
def toNat (x : Digest) : Nat :=
  [x.a, x.b, x.c, x.d, x.e].foldl (fun n w => n * 0x100000000 + w.toNat) 0

end Digest

def rotateLeft (w : UInt32) (k : UInt32) : UInt32 :=
  (w <<< k) ||| (w >>> (32 - k))

/-- The function of a round: choice, parity, majority, and parity again. -/
def mix (round : Nat) (b c d : UInt32) : UInt32 :=
  if round < 20 then (b &&& c) ||| (~~~b &&& d)
  else if round < 40 then b ^^^ c ^^^ d
  else if round < 60 then (b &&& c) ||| (b &&& d) ||| (c &&& d)
  else b ^^^ c ^^^ d

def constant (round : Nat) : UInt32 :=
  if round < 20 then 0x5a827999
  else if round < 40 then 0x6ed9eba1
  else if round < 60 then 0x8f1bbcdc
  else 0xca62c1d6

/-- One round with the next word of the schedule. -/
def step (round : Nat) (word : UInt32) (x : Digest) : Digest :=
  ⟨rotateLeft x.a 5 + mix round x.b x.c x.d + x.e + word + constant round,
    x.a, rotateLeft x.b 30, x.c, x.d⟩

/-- The word that follows sixteen words of the schedule. -/
def nextWord (window : List UInt32) : UInt32 :=
  rotateLeft (window.getD 13 0 ^^^ window.getD 8 0 ^^^ window.getD 2 0 ^^^ window.getD 0 0) 1

/-- The last `left` of the eighty rounds; the window holds the next sixteen words. -/
def rounds : Nat → List UInt32 → Digest → Digest
  | 0, _, x => x
  | left + 1, window, x =>
    rounds left (window.drop 1 ++ [nextWord window]) (step (79 - left) (window.headD 0) x)

/-- A block of sixteen words mixed into a digest. -/
def compress (x : Digest) (block : List UInt32) : Digest :=
  x.add (rounds 80 block x)

/-- Four bytes to a word, most significant first. -/
def toWords : List UInt8 → List UInt32
  | a :: b :: c :: d :: rest =>
    ((a.toUInt32 <<< 24) ||| (b.toUInt32 <<< 16) ||| (c.toUInt32 <<< 8) ||| d.toUInt32) ::
      toWords rest
  | _ => []

/-- The bytes of a number, most significant first, in a fixed width. -/
def bytesOf (width n : Nat) : List UInt8 :=
  (List.range width).reverse.map fun i => UInt8.ofNat (n / Nat.pow 256 i)

/-- A message with a set bit, zeros up to eight bytes before a block ends, and its length. -/
def pad (message : List UInt8) : List UInt8 :=
  message ++ 0x80 :: List.replicate ((119 - message.length % 64) % 64) 0 ++
    bytesOf 8 (message.length * 8)

def blocks (words : List UInt32) : List (List UInt32) :=
  (List.range (words.length / 16)).map fun i => (words.drop (16 * i)).take 16

def digest (message : List UInt8) : Digest :=
  (blocks (toWords (pad message))).foldl compress .initial

end SplitTest.Sha1
