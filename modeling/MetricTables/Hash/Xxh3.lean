/-!
# The 64-bit XXH3 hash

The 64-bit variant of the XXH3 hash with seed zero and the default secret. Inputs of up
to 16, 128 and 240 bytes each have a mixing of their own; longer inputs are folded in
stripes of 64 bytes over eight accumulators.

## Main definitions

* `hash` — the hash of a byte array.
-/

namespace MetricTables.Hash.Xxh3

def secret : ByteArray := ⟨#[
  0xb8, 0xfe, 0x6c, 0x39, 0x23, 0xa4, 0x4b, 0xbe, 0x7c, 0x01, 0x81, 0x2c, 0xf7, 0x21, 0xad, 0x1c,
  0xde, 0xd4, 0x6d, 0xe9, 0x83, 0x90, 0x97, 0xdb, 0x72, 0x40, 0xa4, 0xa4, 0xb7, 0xb3, 0x67, 0x1f,
  0xcb, 0x79, 0xe6, 0x4e, 0xcc, 0xc0, 0xe5, 0x78, 0x82, 0x5a, 0xd0, 0x7d, 0xcc, 0xff, 0x72, 0x21,
  0xb8, 0x08, 0x46, 0x74, 0xf7, 0x43, 0x24, 0x8e, 0xe0, 0x35, 0x90, 0xe6, 0x81, 0x3a, 0x26, 0x4c,
  0x3c, 0x28, 0x52, 0xbb, 0x91, 0xc3, 0x00, 0xcb, 0x88, 0xd0, 0x65, 0x8b, 0x1b, 0x53, 0x2e, 0xa3,
  0x71, 0x64, 0x48, 0x97, 0xa2, 0x0d, 0xf9, 0x4e, 0x38, 0x19, 0xef, 0x46, 0xa9, 0xde, 0xac, 0xd8,
  0xa8, 0xfa, 0x76, 0x3f, 0xe3, 0x9c, 0x34, 0x3f, 0xf9, 0xdc, 0xbb, 0xc7, 0xc7, 0x0b, 0x4f, 0x1d,
  0x8a, 0x51, 0xe0, 0x4b, 0xcd, 0xb4, 0x59, 0x31, 0xc8, 0x9f, 0x7e, 0xc9, 0xd9, 0x78, 0x73, 0x64,
  0xea, 0xc5, 0xac, 0x83, 0x34, 0xd3, 0xeb, 0xc3, 0xc5, 0x81, 0xa0, 0xff, 0xfa, 0x13, 0x63, 0xeb,
  0x17, 0x0d, 0xdd, 0x51, 0xb7, 0xf0, 0xda, 0x49, 0xd3, 0x16, 0x55, 0x26, 0x29, 0xd4, 0x68, 0x9e,
  0x2b, 0x16, 0xbe, 0x58, 0x7d, 0x47, 0xa1, 0xfc, 0x8f, 0xf8, 0xb8, 0xd1, 0x7a, 0xd0, 0x31, 0xce,
  0x45, 0xcb, 0x3a, 0x8f, 0x95, 0x16, 0x04, 0x28, 0xaf, 0xd7, 0xfb, 0xca, 0xbb, 0x4b, 0x40, 0x7e]⟩

def prime32₁ : UInt64 := 0x9E3779B1
def prime32₂ : UInt64 := 0x85EBCA77
def prime32₃ : UInt64 := 0xC2B2AE3D
def prime64₁ : UInt64 := 0x9E3779B185EBCA87
def prime64₂ : UInt64 := 0xC2B2AE3D27D4EB4F
def prime64₃ : UInt64 := 0x165667B19E3779F9
def prime64₄ : UInt64 := 0x85EBCA77C2B2AE63
def prime64₅ : UInt64 := 0x27D4EB2F165667C5

/-- The byte at a place, zero beyond the end. -/
def byte (b : ByteArray) (i : Nat) : UInt64 := ((b[i]?).getD 0).toUInt64

/-- The little-endian word of `n` bytes at a place. -/
def word (b : ByteArray) (i : Nat) : Nat → UInt64
  | 0 => 0
  | n + 1 => byte b i ||| (word b (i + 1) n <<< 8)

def read32 (b : ByteArray) (i : Nat) : UInt64 := word b i 4

def read64 (b : ByteArray) (i : Nat) : UInt64 := word b i 8

def rotl (x : UInt64) (n : UInt64) : UInt64 := (x <<< n) ||| (x >>> (64 - n))

def swap64 (x : UInt64) : UInt64 :=
  (List.range 8).foldl (fun acc i => (acc <<< 8) ||| ((x >>> (8 * UInt64.ofNat i)) &&& 0xFF)) 0

/-- The two halves of the 128-bit product, joined by exclusive or. -/
def fold128 (x y : UInt64) : UInt64 :=
  let p := x.toNat * y.toNat
  UInt64.ofNat p ^^^ UInt64.ofNat (p >>> 64)

/-- The last mixing of the longer inputs. -/
def avalanche (h : UInt64) : UInt64 :=
  let h := h ^^^ (h >>> 37)
  let h := h * 0x165667919E3779F9
  h ^^^ (h >>> 32)

/-- The last mixing of the shortest inputs. -/
def avalanche64 (h : UInt64) : UInt64 :=
  let h := (h ^^^ (h >>> 33)) * prime64₂
  let h := (h ^^^ (h >>> 29)) * prime64₃
  h ^^^ (h >>> 32)

/-- Inputs of at most three bytes. -/
def hashUpTo3 (b : ByteArray) : UInt64 :=
  let n := b.size
  if n = 0 then avalanche64 (read64 secret 56 ^^^ read64 secret 64)
  else
    let combined := (byte b 0 <<< 16) ||| (byte b (n / 2) <<< 24) ||| byte b (n - 1) |||
      (UInt64.ofNat n <<< 8)
    avalanche64 (combined ^^^ (read32 secret 0 ^^^ read32 secret 4))

/-- Inputs of four to eight bytes. -/
def hash4To8 (b : ByteArray) : UInt64 :=
  let n := UInt64.ofNat b.size
  let flip := read64 secret 8 ^^^ read64 secret 16
  let h := (read32 b (b.size - 4) + (read32 b 0 <<< 32)) ^^^ flip
  let h := h ^^^ rotl h 49 ^^^ rotl h 24
  let h := h * 0x9FB21C651E98DF25
  let h := h ^^^ ((h >>> 35) + n)
  let h := h * 0x9FB21C651E98DF25
  h ^^^ (h >>> 28)

/-- Inputs of nine to sixteen bytes. -/
def hash9To16 (b : ByteArray) : UInt64 :=
  let low := read64 b 0 ^^^ (read64 secret 24 ^^^ read64 secret 32)
  let high := read64 b (b.size - 8) ^^^ (read64 secret 40 ^^^ read64 secret 48)
  avalanche (UInt64.ofNat b.size + swap64 low + high + fold128 low high)

def mix16 (b : ByteArray) (i s : Nat) : UInt64 :=
  fold128 (read64 b i ^^^ read64 secret s) (read64 b (i + 8) ^^^ read64 secret (s + 8))

/-- Inputs of 17 to 128 bytes: pairs of blocks from both ends towards the middle. -/
def hash17To128 (b : ByteArray) : UInt64 :=
  let n := b.size
  let pair (i : Nat) : UInt64 :=
    mix16 b (16 * i) (32 * i) + mix16 b (n - 16 * (i + 1)) (32 * i + 16)
  let pairs := if n > 96 then 4 else if n > 64 then 3 else if n > 32 then 2 else 1
  avalanche ((List.range pairs).foldl (fun acc i => acc + pair i) (UInt64.ofNat n * prime64₁))

/-- Inputs of 129 to 240 bytes: eight blocks, then the others against a shifted secret. -/
def hash129To240 (b : ByteArray) : UInt64 :=
  let n := b.size
  let head := (List.range 8).foldl (fun acc i => acc + mix16 b (16 * i) (16 * i))
    (UInt64.ofNat n * prime64₁)
  let tail := (List.range (n / 16 - 8)).foldl
    (fun acc i => acc + mix16 b (16 * (i + 8)) (16 * i + 3)) (avalanche head)
  avalanche (tail + mix16 b (n - 16) 119)

/-- Adds one stripe of 64 bytes to the accumulators. -/
def accumulate (acc : List UInt64) (b : ByteArray) (i s : Nat) : List UInt64 :=
  let data (j : Nat) : UInt64 := read64 b (i + 8 * j)
  acc.mapIdx fun (j : Nat) (a : UInt64) =>
    let key := data j ^^^ read64 secret (s + 8 * j)
    a + data (if j % 2 = 0 then j + 1 else j - 1) + (key &&& (0xFFFFFFFF : UInt64)) * (key >>> 32)

def scramble (acc : List UInt64) : List UInt64 :=
  acc.mapIdx fun (j : Nat) (a : UInt64) =>
    ((a ^^^ (a >>> 47)) ^^^ read64 secret (128 + 8 * j)) * prime32₁

/-- Adds `n` stripes from place `i` on. -/
def stripes (acc : List UInt64) (b : ByteArray) (i n : Nat) : List UInt64 :=
  (List.range n).foldl (fun acc k => accumulate acc b (i + 64 * k) (8 * k)) acc

/-- Joins the accumulators. -/
def merge (acc : List UInt64) (start : UInt64) : UInt64 :=
  let part (j : Nat) : UInt64 :=
    fold128 ((acc[2 * j]?).getD 0 ^^^ read64 secret (11 + 16 * j))
      ((acc[2 * j + 1]?).getD 0 ^^^ read64 secret (19 + 16 * j))
  avalanche ((List.range 4).foldl (fun h j => h + part j) start)

/-- Inputs of more than 240 bytes: blocks of sixteen stripes, then what is left. -/
def hashLong (b : ByteArray) : UInt64 :=
  let n := b.size
  let start := [prime32₃, prime64₁, prime64₂, prime64₃,
    prime64₄, prime32₂, prime64₅, prime32₁]
  let blocks := (n - 1) / 1024
  let acc := (List.range blocks).foldl (fun acc k => scramble (stripes acc b (1024 * k) 16)) start
  let acc := stripes acc b (1024 * blocks) ((n - 1 - 1024 * blocks) / 64)
  merge (accumulate acc b (n - 64) 121) (UInt64.ofNat n * prime64₁)

/-- The hash of a byte array. -/
def hash (b : ByteArray) : UInt64 :=
  let n := b.size
  if n ≤ 3 then hashUpTo3 b
  else if n ≤ 8 then hash4To8 b
  else if n ≤ 16 then hash9To16 b
  else if n ≤ 128 then hash17To128 b
  else if n ≤ 240 then hash129To240 b
  else hashLong b

end MetricTables.Hash.Xxh3
