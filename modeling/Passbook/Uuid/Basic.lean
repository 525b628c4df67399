import Passbook.Sha1
import Passbook.Text.Digits
/-!
Universally unique identifiers: sixteen bytes, ordered as bytes, written in five groups of hexadecimal digits.
-/
namespace Passbook

structure Uuid where
  bytes : List UInt8
  length_bytes : bytes.length = 16
  deriving DecidableEq, Repr

namespace Uuid

instance : Inhabited Uuid := ⟨⟨List.replicate 16 0, rfl⟩⟩

theorem ext {x y : Uuid} (h : x.bytes = y.bytes) : x = y := by
  cases x; cases y; simp_all

def compare (x y : Uuid) : Ordering := Ord.compare x.bytes y.bytes

instance : Ord Uuid := ⟨compare⟩

def ofBytes? (bytes : List UInt8) : Option Uuid :=
  if h : bytes.length = 16 then some ⟨bytes, h⟩ else none

theorem ofBytes?_bytes (x : Uuid) : ofBytes? x.bytes = some x := by
  simp [ofBytes?, x.length_bytes]

def hexPair (b : UInt8) : List Char := Text.zeroPadded 2 (Text.hexadecimal b.toNat)

def groups : List Nat := [4, 2, 2, 2, 6]

def renderGroups : List Nat → List UInt8 → List Char
  | [], _ => []
  | [_], bytes => bytes.flatMap hexPair
  | n :: ns, bytes => (bytes.take n).flatMap hexPair ++ '-' :: renderGroups ns (bytes.drop n)

def render (x : Uuid) : List Char := renderGroups groups x.bytes

def text (x : Uuid) : String := String.ofList x.render

instance : ToString Uuid := ⟨text⟩

def version (x : Uuid) : Nat := (x.bytes.getD 6 0).toNat / 16

def stamp (version : UInt8) (bytes : List UInt8) : List UInt8 :=
  let versioned := bytes.modify 6 fun b => (b &&& (0x0F : UInt8)) ||| (version <<< 4)
  versioned.modify 8 fun b => (b &&& (0x3F : UInt8)) ||| 0x80

theorem length_stamp (v : UInt8) (bytes : List UInt8) : (stamp v bytes).length = bytes.length := by
  simp [stamp]

def ofName (nameSpace : Uuid) (name : List UInt8) : Uuid where
  bytes := stamp 5 ((Sha1.digest (nameSpace.bytes ++ name)).bytes.take 16)
  length_bytes := by simp [length_stamp, Sha1.Digest.length_bytes]

def ofRandom (seed : Uuid) : Uuid where
  bytes := stamp 4 seed.bytes
  length_bytes := by rw [length_stamp, seed.length_bytes]

end Uuid

end Passbook
