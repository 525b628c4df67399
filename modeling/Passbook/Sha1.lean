/-!
The SHA-1 digest of a byte string.
-/
namespace Passbook.Sha1

structure Digest where
  a : UInt32
  b : UInt32
  c : UInt32
  d : UInt32
  e : UInt32
  deriving DecidableEq, Repr

def initial : Digest := ⟨0x67452301, 0xEFCDAB89, 0x98BADCFE, 0x10325476, 0xC3D2E1F0⟩

def rotateLeft (w n : UInt32) : UInt32 := (w <<< n) ||| (w >>> (32 - n))

def bytesOfWord (w : UInt32) : List UInt8 :=
  [(w >>> 24).toUInt8, (w >>> 16).toUInt8, (w >>> 8).toUInt8, w.toUInt8]

def wordOfBytes (bytes : List UInt8) : UInt32 := bytes.foldl (fun w b => (w <<< 8) ||| b.toUInt32) 0

def blocks {α : Type} (size n : Nat) (xs : List α) : List (List α) :=
  (List.range n).map fun i => (xs.drop (size * i)).take size

/-- The message, a one bit, zeros up to eight bytes before the end of a block of 64, and the length in bits. -/
def padded (message : List UInt8) : List UInt8 :=
  let bits := UInt64.ofNat (8 * message.length)
  message ++ ((0x80 : UInt8) :: List.replicate ((119 - message.length % 64) % 64) 0) ++
    bytesOfWord (bits >>> 32).toUInt32 ++ bytesOfWord bits.toUInt32

def schedule (block : List UInt8) : List UInt32 :=
  let first := ((blocks 4 16 block).map wordOfBytes).reverse
  let grown := (List.range 64).foldl (fun (words : List UInt32) _ =>
    rotateLeft (words.getD 2 0 ^^^ words.getD 7 0 ^^^ words.getD 13 0 ^^^ words.getD 15 0) 1 :: words) first
  grown.reverse

def mix (round : Nat) (b c d : UInt32) : UInt32 :=
  if round < 20 then ((b &&& c) ||| (~~~b &&& d)) + 0x5A827999
  else if round < 40 then (b ^^^ c ^^^ d) + 0x6ED9EBA1
  else if round < 60 then ((b &&& c) ||| (b &&& d) ||| (c &&& d)) + 0x8F1BBCDC
  else (b ^^^ c ^^^ d) + 0xCA62C1D6

def turn (s : Digest) (word : UInt32 × Nat) : Digest :=
  ⟨rotateLeft s.a 5 + mix word.2 s.b s.c s.d + s.e + word.1, s.a, rotateLeft s.b 30, s.c, s.d⟩

def absorb (h : Digest) (block : List UInt8) : Digest :=
  let t := (schedule block).zipIdx.foldl turn h
  ⟨h.a + t.a, h.b + t.b, h.c + t.c, h.d + t.d, h.e + t.e⟩

def digest (message : List UInt8) : Digest :=
  let bytes := padded message
  (blocks 64 (bytes.length / 64) bytes).foldl absorb initial

def Digest.bytes (h : Digest) : List UInt8 :=
  bytesOfWord h.a ++ bytesOfWord h.b ++ bytesOfWord h.c ++ bytesOfWord h.d ++ bytesOfWord h.e

theorem Digest.length_bytes (h : Digest) : h.bytes.length = 20 := rfl

end Passbook.Sha1
