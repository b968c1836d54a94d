/-!
# XXH3 digests

The 128-bit XXH3 digest of some bytes, with seed zero and the standard secret.
Short, medium and long inputs are mixed in different ways; all of them end in a
finish that spreads each bit over its half of the digest.
-/

namespace StageInterface
namespace Digest

/-- The standard secret. -/
def secret : Array UInt8 :=
  #[0xb8, 0xfe, 0x6c, 0x39, 0x23, 0xa4, 0x4b, 0xbe, 0x7c, 0x01, 0x81, 0x2c,
    0xf7, 0x21, 0xad, 0x1c, 0xde, 0xd4, 0x6d, 0xe9, 0x83, 0x90, 0x97, 0xdb,
    0x72, 0x40, 0xa4, 0xa4, 0xb7, 0xb3, 0x67, 0x1f, 0xcb, 0x79, 0xe6, 0x4e,
    0xcc, 0xc0, 0xe5, 0x78, 0x82, 0x5a, 0xd0, 0x7d, 0xcc, 0xff, 0x72, 0x21,
    0xb8, 0x08, 0x46, 0x74, 0xf7, 0x43, 0x24, 0x8e, 0xe0, 0x35, 0x90, 0xe6,
    0x81, 0x3a, 0x26, 0x4c, 0x3c, 0x28, 0x52, 0xbb, 0x91, 0xc3, 0x00, 0xcb,
    0x88, 0xd0, 0x65, 0x8b, 0x1b, 0x53, 0x2e, 0xa3, 0x71, 0x64, 0x48, 0x97,
    0xa2, 0x0d, 0xf9, 0x4e, 0x38, 0x19, 0xef, 0x46, 0xa9, 0xde, 0xac, 0xd8,
    0xa8, 0xfa, 0x76, 0x3f, 0xe3, 0x9c, 0x34, 0x3f, 0xf9, 0xdc, 0xbb, 0xc7,
    0xc7, 0x0b, 0x4f, 0x1d, 0x8a, 0x51, 0xe0, 0x4b, 0xcd, 0xb4, 0x59, 0x31,
    0xc8, 0x9f, 0x7e, 0xc9, 0xd9, 0x78, 0x73, 0x64, 0xea, 0xc5, 0xac, 0x83,
    0x34, 0xd3, 0xeb, 0xc3, 0xc5, 0x81, 0xa0, 0xff, 0xfa, 0x13, 0x63, 0xeb,
    0x17, 0x0d, 0xdd, 0x51, 0xb7, 0xf0, 0xda, 0x49, 0xd3, 0x16, 0x55, 0x26,
    0x29, 0xd4, 0x68, 0x9e, 0x2b, 0x16, 0xbe, 0x58, 0x7d, 0x47, 0xa1, 0xfc,
    0x8f, 0xf8, 0xb8, 0xd1, 0x7a, 0xd0, 0x31, 0xce, 0x45, 0xcb, 0x3a, 0x8f,
    0x95, 0x16, 0x04, 0x28, 0xaf, 0xd7, 0xfb, 0xca, 0xbb, 0x4b, 0x40, 0x7e]

def prime32A : UInt64 := 0x9E3779B1

def prime32B : UInt64 := 0x85EBCA77

def prime32C : UInt64 := 0xC2B2AE3D

def prime64A : UInt64 := 0x9E3779B185EBCA87

def prime64B : UInt64 := 0xC2B2AE3D27D4EB4F

def prime64C : UInt64 := 0x165667B19E3779F9

def prime64D : UInt64 := 0x85EBCA77C2B2AE63

def prime64E : UInt64 := 0x27D4EB2F165667C5

/-- The two halves of a digest or of a product. -/
structure Halves where
  low : UInt64
  high : UInt64
deriving DecidableEq

/-- The number in `width` bytes from a position, least byte first; behind the end there are
zeros. -/
def word (bytes : Array UInt8) (width start : Nat) : UInt64 :=
  (List.range width).foldr (fun i w => w <<< 8 ||| (bytes.getD (start + i) 0).toUInt64) 0

def word64 (bytes : Array UInt8) (start : Nat) : UInt64 := word bytes 8 start

def word32 (bytes : Array UInt8) (start : Nat) : UInt64 := word bytes 4 start

def product (a b : UInt64) : Halves :=
  let p := a.toNat * b.toNat
  ⟨p.toUInt64, (p / UInt64.size).toUInt64⟩

/-- The halves of the product, laid over each other. -/
def foldedProduct (a b : UInt64) : UInt64 :=
  let p := product a b
  p.low ^^^ p.high

/-- Lays the upper bits of a number over its lower ones. -/
def xorShift (x n : UInt64) : UInt64 := x ^^^ (x >>> n)

def lower32 (x : UInt64) : UInt64 := x &&& 0xFFFFFFFF

/-- The lower four bytes in reverse order. -/
def swap32 (x : UInt64) : UInt64 :=
  ((x &&& 0xFF) <<< 24) ||| (((x >>> 8) &&& 0xFF) <<< 16) ||| (((x >>> 16) &&& 0xFF) <<< 8) |||
    ((x >>> 24) &&& 0xFF)

/-- The eight bytes in reverse order. -/
def swap64 (x : UInt64) : UInt64 := (swap32 (lower32 x) <<< 32) ||| swap32 (x >>> 32)

/-- Turns the lower 32 bits to the left. -/
def rotate32 (x n : UInt64) : UInt64 := lower32 ((x <<< n) ||| (x >>> (32 - n)))

/-- The finish of a half of medium and long inputs. -/
def finish (x : UInt64) : UInt64 :=
  xorShift (xorShift x 37 * 0x165667919E3779F9) 32

/-- The finish of a half of the shortest inputs. -/
def finishShort (x : UInt64) : UInt64 :=
  xorShift (xorShift (xorShift x 33 * prime64B) 29 * prime64C) 32

/-- Two numbers of the secret, laid over each other. -/
def secretPair (i j : Nat) : UInt64 := word64 secret i ^^^ word64 secret j

def ofNone : Halves := ⟨finishShort (secretPair 64 72), finishShort (secretPair 80 88)⟩

def ofUpTo3 (bytes : Array UInt8) : Halves :=
  let n := bytes.size
  let first := word bytes 1 0
  let middle := word bytes 1 (n / 2)
  let last := word bytes 1 (n - 1)
  let x := (first <<< 16) ||| (middle <<< 24) ||| last ||| (n.toUInt64 <<< 8)
  let y := rotate32 (swap32 x) 13
  ⟨finishShort (x ^^^ (word32 secret 0 ^^^ word32 secret 4)),
    finishShort (y ^^^ (word32 secret 8 ^^^ word32 secret 12))⟩

def ofUpTo8 (bytes : Array UInt8) : Halves :=
  let n := bytes.size
  let x := word32 bytes 0 + (word32 bytes (n - 4) <<< 32)
  let p := product (x ^^^ secretPair 16 24) (prime64A + (n.toUInt64 <<< 2))
  let high := p.high + (p.low <<< 1)
  let low := p.low ^^^ (high >>> 3)
  ⟨xorShift (xorShift low 35 * 0x9FB21C651E98DF25) 28, finish high⟩

def ofUpTo16 (bytes : Array UInt8) : Halves :=
  let n := bytes.size
  let first := word64 bytes 0
  let last := word64 bytes (n - 8)
  let p := product (first ^^^ last ^^^ secretPair 32 40) prime64A
  let low := p.low + ((n - 1).toUInt64 <<< 54)
  let x := last ^^^ secretPair 48 56
  let high := p.high + x + lower32 x * (prime32B - 1)
  let q := product (low ^^^ swap64 high) prime64B
  ⟨finish q.low, finish (q.high + high * prime64B)⟩

/-- Mixes sixteen bytes with the secret from `key`. -/
def mix16 (bytes : Array UInt8) (start key : Nat) : UInt64 :=
  foldedProduct (word64 bytes start ^^^ word64 secret key)
    (word64 bytes (start + 8) ^^^ word64 secret (key + 8))

def sum16 (bytes : Array UInt8) (start : Nat) : UInt64 :=
  word64 bytes start + word64 bytes (start + 8)

/-- Mixes two pieces of sixteen bytes into the halves, with the secret from `key`. -/
def mix32 (bytes : Array UInt8) (acc : Halves) (first second key : Nat) : Halves :=
  ⟨(acc.low + mix16 bytes first key) ^^^ sum16 bytes second,
    (acc.high + mix16 bytes second (key + 16)) ^^^ sum16 bytes first⟩

/-- The halves before the first piece of a medium input. -/
def startMedium (n : Nat) : Halves := ⟨n.toUInt64 * prime64A, 0⟩

/-- The halves after the last piece of a medium input. -/
def finishMedium (n : Nat) (acc : Halves) : Halves :=
  ⟨finish (acc.low + acc.high),
    0 - finish (acc.low * prime64A + acc.high * prime64D + n.toUInt64 * prime64B)⟩

/-- The digest of 17 to 128 bytes: pieces from both ends, the innermost first. -/
def ofUpTo128 (bytes : Array UInt8) : Halves :=
  let n := bytes.size
  let pieces := (n - 1) / 32 + 1
  finishMedium n <| (List.range pieces).reverse.foldl
    (fun acc i => mix32 bytes acc (16 * i) (n - 16 * (i + 1)) (32 * i)) (startMedium n)

/-- The digest of 129 to 240 bytes: pieces in order, and the end once more. -/
def ofUpTo240 (bytes : Array UInt8) : Halves :=
  let n := bytes.size
  let early := (List.range 4).foldl
    (fun acc i => mix32 bytes acc (32 * i) (32 * i + 16) (32 * i)) (startMedium n)
  let later := (List.range (n / 32 - 4)).foldl
    (fun acc i => mix32 bytes acc (32 * (i + 4)) (32 * (i + 4) + 16) (32 * i + 3))
    ⟨finish early.low, finish early.high⟩
  finishMedium n (mix32 bytes later (n - 16) (n - 32) 103)

/-- The eight lanes before the first stripe of a long input. -/
def startLanes : List UInt64 :=
  [prime32C, prime64A, prime64B, prime64C, prime64D, prime32B, prime64E, prime32A]

def lanesAt (bytes : Array UInt8) (start : Nat) : List UInt64 :=
  (List.range 8).map (fun i => word64 bytes (start + 8 * i))

def swapPairs : List UInt64 → List UInt64
  | a :: b :: l => b :: a :: swapPairs l
  | l => l

/-- The sum of the folded products of each pair of lanes. -/
def sumOfProducts : List UInt64 → UInt64
  | a :: b :: l => foldedProduct a b + sumOfProducts l
  | _ => 0

/-- Mixes a stripe of 64 bytes into the lanes, with the secret from `key`. -/
def mixStripe (bytes : Array UInt8) (lanes : List UInt64) (start key : Nat) : List UInt64 :=
  let data := lanesAt bytes start
  let keyed := data.zipWith (· ^^^ ·) (lanesAt secret key)
  let products := keyed.map (fun x => lower32 x * (x >>> 32))
  (lanes.zipWith (· + ·) (swapPairs data)).zipWith (· + ·) products

/-- Scrambles the lanes at the end of a block. -/
def scramble (lanes : List UInt64) : List UInt64 :=
  lanes.zipWith (fun lane key => (xorShift lane 47 ^^^ key) * prime32A) (lanesAt secret 128)

/-- Mixes the first `count` stripes of a block into the lanes. -/
def mixStripes (bytes : Array UInt8) (start count : Nat) (lanes : List UInt64) : List UInt64 :=
  (List.range count).foldl (fun lanes i => mixStripe bytes lanes (start + 64 * i) (8 * i)) lanes

/-- Merges the lanes into one half, with the secret from `key`. -/
def mergeLanes (lanes : List UInt64) (key : Nat) (start : UInt64) : UInt64 :=
  finish (start + sumOfProducts (lanes.zipWith (· ^^^ ·) (lanesAt secret key)))

/-- The digest of more than 240 bytes: blocks of sixteen stripes, and the end once more. -/
def ofLong (bytes : Array UInt8) : Halves :=
  let n := bytes.size
  let blocks := (n - 1) / 1024
  let whole := (List.range blocks).foldl
    (fun lanes i => scramble (mixStripes bytes (1024 * i) 16 lanes)) startLanes
  let rest := mixStripes bytes (1024 * blocks) ((n - 1 - 1024 * blocks) / 64) whole
  let lanes := mixStripe bytes rest (n - 64) 121
  ⟨mergeLanes lanes 11 (n.toUInt64 * prime64A),
    mergeLanes lanes 117 (~~~(n.toUInt64 * prime64B))⟩

def ofBytes (bytes : Array UInt8) : Halves :=
  if bytes.size = 0 then ofNone
  else if bytes.size ≤ 3 then ofUpTo3 bytes
  else if bytes.size ≤ 8 then ofUpTo8 bytes
  else if bytes.size ≤ 16 then ofUpTo16 bytes
  else if bytes.size ≤ 128 then ofUpTo128 bytes
  else if bytes.size ≤ 240 then ofUpTo240 bytes
  else ofLong bytes

def Halves.toNat (h : Halves) : Nat := h.high.toNat * UInt64.size + h.low.toNat

/-- The digest of the UTF-8 bytes of a text, as one number. -/
def ofText (s : String) : Nat := (ofBytes s.toUTF8.data).toNat

/-- A number to base sixteen in 32 digits. -/
def hex32 (n : Nat) : String :=
  let digits := Nat.toDigits 16 n
  String.ofList (List.replicate (32 - digits.length) '0' ++ digits)

end Digest
end StageInterface
