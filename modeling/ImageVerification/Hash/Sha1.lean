import ImageVerification.Encoding.Utf8

/-! The hash function SHA-1 and the padding it shares with SHA-256. -/

namespace ImageVerification.Hash

def bigEndian32 (word : UInt32) : Bytes :=
  [(word >>> 24).toUInt8, (word >>> 16).toUInt8, (word >>> 8).toUInt8, word.toUInt8]

/-- A one bit, zeros up to eight bytes short of a multiple of 64, and the length in bits. -/
def padding (length : Nat) : Bytes :=
  let bits := length * 8
  (0x80 : UInt8) :: List.replicate ((119 - length % 64) % 64) 0
    ++ [UInt8.ofNat (bits >>> 56), UInt8.ofNat (bits >>> 48), UInt8.ofNat (bits >>> 40),
        UInt8.ofNat (bits >>> 32), UInt8.ofNat (bits >>> 24), UInt8.ofNat (bits >>> 16),
        UInt8.ofNat (bits >>> 8), UInt8.ofNat bits]

def word32 (a b c d : UInt8) : UInt32 :=
  a.toUInt32 <<< 24 ||| b.toUInt32 <<< 16 ||| c.toUInt32 <<< 8 ||| d.toUInt32

def words : Bytes → List UInt32
  | a :: b :: c :: d :: rest => word32 a b c d :: words rest
  | _ => []

def rotateLeft (word : UInt32) (count : UInt32) : UInt32 :=
  word <<< count ||| word >>> (32 - count)

def rotateRight (word : UInt32) (count : UInt32) : UInt32 :=
  word >>> count ||| word <<< (32 - count)

/-- Feeds a message of the given number of 64-byte blocks to a compression function. -/
def absorb {Digest : Type} (compress : Digest → List UInt32 → Digest)
    : Nat → Digest → Bytes → Digest
  | 0, digest, _ => digest
  | count + 1, digest, bytes =>
      absorb compress count (compress digest (words (bytes.take 64))) (bytes.drop 64)

/-- Feeds a padded message to a compression function. -/
def absorbMessage {Digest : Type} (compress : Digest → List UInt32 → Digest) (start : Digest)
    (message : Bytes) : Digest :=
  let padded := message ++ padding message.length
  absorb compress (padded.length / 64) start padded

namespace Sha1

structure Digest where
  a : UInt32
  b : UInt32
  c : UInt32
  d : UInt32
  e : UInt32

def Digest.start : Digest :=
  ⟨0x67452301, 0xefcdab89, 0x98badcfe, 0x10325476, 0xc3d2e1f0⟩

def Digest.add (x y : Digest) : Digest :=
  ⟨x.a + y.a, x.b + y.b, x.c + y.c, x.d + y.d, x.e + y.e⟩

def Digest.toBytes (x : Digest) : Bytes :=
  [x.a, x.b, x.c, x.d, x.e].flatMap bigEndian32

/-- The words of the schedule from the last sixteen on, the oldest first. -/
def expand : Nat → List UInt32 → List UInt32
  | count + 1, w0 :: w1 :: w2 :: rest =>
      let next := rotateLeft (w0 ^^^ w2 ^^^ rest.getD 5 0 ^^^ rest.getD 10 0) 1
      w0 :: expand count (w1 :: w2 :: rest ++ [next])
  | _, window => window

def mix (round : Nat) (b c d : UInt32) : UInt32 × UInt32 :=
  if round < 20 then ((b &&& c) ||| (~~~b &&& d), 0x5a827999)
  else if round < 40 then (b ^^^ c ^^^ d, 0x6ed9eba1)
  else if round < 60 then ((b &&& c) ||| (b &&& d) ||| (c &&& d), 0x8f1bbcdc)
  else (b ^^^ c ^^^ d, 0xca62c1d6)

def step (x : Digest) (round : Nat) (word : UInt32) : Digest :=
  let (f, constant) := mix round x.b x.c x.d
  ⟨rotateLeft x.a 5 + f + x.e + constant + word, x.a, rotateLeft x.b 30, x.c, x.d⟩

def compress (x : Digest) (block : List UInt32) : Digest :=
  x.add ((expand 64 block).zipIdx.foldl (fun y w => step y w.2 w.1) x)

def hash (message : Bytes) : Bytes :=
  (absorbMessage compress Digest.start message).toBytes

end Sha1

end ImageVerification.Hash
