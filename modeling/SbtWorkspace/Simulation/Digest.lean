import SbtWorkspace.Text.Utf8

/-! Digests of texts: numbers of a fixed size that tell whether two texts are the same. Each kind of digest takes the
text in blocks of words, of which each changes a state of words. Main statement: a text is taken in whole blocks
(`length_padded`). -/

namespace SbtWorkspace.Simulation.Digest

/-- The greatest number whose power is no greater than another number, from a number of bits on downward. -/
def root (power n : Nat) : (bits : Nat) → (found : Nat) → Nat
  | 0, found => found
  | bits + 1, found =>
    let next := found + Nat.pow 2 bits
    root power n bits (if Nat.pow next power ≤ n then next else found)

def isPrime (n : Nat) : Bool := 2 ≤ n && (List.range n).all fun d => d < 2 || n % d ≠ 0

def primes (count : Nat) : List Nat := ((List.range 420).filter isPrime).take count

def fraction (power bits n : Nat) : Nat := root power (n * Nat.pow 2 (power * bits)) (bits + 8) 0 % Nat.pow 2 bits

def paddingZeros (block lengthSize size : Nat) : Nat := (2 * block - 1 - lengthSize - size % block) % block

def bigEndian : (size n : Nat) → Bytes
  | 0, _ => []
  | size + 1, n => bigEndian size (n / 256) ++ [UInt8.ofNat (n % 256)]

theorem length_bigEndian (size n : Nat) : (bigEndian size n).length = size := by
  induction size generalizing n with
  | zero => rfl
  | succ size ih => simp [bigEndian, ih]

/-- A text with a mark, zeros and its length in bits after it, so that it has whole blocks. -/
def padded (block lengthSize : Nat) (isBig : Bool) (text : Bytes) : Bytes :=
  let length := bigEndian lengthSize (8 * text.length)
  text ++ 0x80 :: List.replicate (paddingZeros block lengthSize text.length) 0 ++
    (if isBig then length else length.reverse)

theorem length_padded {block lengthSize : Nat} (h : lengthSize < block) (isBig : Bool) (text : Bytes) :
    (padded block lengthSize isBig text).length % block = 0 := by
  have hb : 0 < block := by omega
  have hl : (if isBig then bigEndian lengthSize (8 * text.length)
      else (bigEndian lengthSize (8 * text.length)).reverse).length = lengthSize := by
    split <;> simp [length_bigEndian]
  simp only [padded, List.length_append, List.length_cons, List.length_replicate, hl, paddingZeros]
  generalize text.length = n
  have hr := Nat.mod_lt n hb
  have hd := Nat.div_add_mod n block
  generalize n % block = r at hd hr ⊢
  generalize n / block = q at hd
  subst hd
  have total : ∃ k, block * q + r + ((2 * block - 1 - lengthSize - r) % block + 1) + lengthSize = block * k := by
    by_cases hc : block ≤ 2 * block - 1 - lengthSize - r
    · refine ⟨q + 1, ?_⟩
      rw [Nat.mod_eq_sub_mod hc, Nat.mod_eq_of_lt (by omega), Nat.mul_add]
      omega
    · refine ⟨q + 2, ?_⟩
      rw [Nat.mod_eq_of_lt (by omega), Nat.mul_add]
      omega
  obtain ⟨k, hk⟩ := total
  rw [hk]
  exact Nat.mul_mod_right block k

def numberOf (bytes : Bytes) : Nat := bytes.foldl (fun n b => n * 256 + b.toNat) 0

def words (size : Nat) (isBig : Bool) : (fuel : Nat) → Bytes → List Nat
  | 0, _ => []
  | _, [] => []
  | fuel + 1, bytes =>
    let word := bytes.take size
    numberOf (if isBig then word else word.reverse) :: words size isBig fuel (bytes.drop size)

/-- The blocks of sixteen words each. -/
def blocks : (fuel : Nat) → List Nat → List (Array Nat)
  | 0, _ => []
  | _, [] => []
  | fuel + 1, ws => (ws.take 16).toArray :: blocks fuel (ws.drop 16)

def absorb (size : Nat) (isBig : Bool) (step : Array Nat → Array Nat → Array Nat) (start : Array Nat) (text : Bytes) :
    Array Nat :=
  let ws := words size isBig (text.length + 1) text
  (blocks (ws.length + 1) ws).foldl step start

def md5Turns : Array (Array Nat) := #[#[7, 12, 17, 22], #[5, 9, 14, 20], #[4, 11, 16, 23], #[6, 10, 15, 21]]

/-- The constants of the rounds of `md5`: the sines of the first numbers. -/
def md5Constants : Array UInt32 :=
  #[0xd76aa478, 0xe8c7b756, 0x242070db, 0xc1bdceee, 0xf57c0faf, 0x4787c62a, 0xa8304613, 0xfd469501, 0x698098d8,
    0x8b44f7af, 0xffff5bb1, 0x895cd7be, 0x6b901122, 0xfd987193, 0xa679438e, 0x49b40821, 0xf61e2562, 0xc040b340,
    0x265e5a51, 0xe9b6c7aa, 0xd62f105d, 0x02441453, 0xd8a1e681, 0xe7d3fbc8, 0x21e1cde6, 0xc33707d6, 0xf4d50d87,
    0x455a14ed, 0xa9e3e905, 0xfcefa3f8, 0x676f02d9, 0x8d2a4c8a, 0xfffa3942, 0x8771f681, 0x6d9d6122, 0xfde5380c,
    0xa4beea44, 0x4bdecfa9, 0xf6bb4b60, 0xbebfbc70, 0x289b7ec6, 0xeaa127fa, 0xd4ef3085, 0x04881d05, 0xd9d4d039,
    0xe6db99e5, 0x1fa27cf8, 0xc4ac5665, 0xf4292244, 0x432aff97, 0xab9423a7, 0xfc93a039, 0x655b59c3, 0x8f0ccc92,
    0xffeff47d, 0x85845dd1, 0x6fa87e4f, 0xfe2ce6e0, 0xa3014314, 0x4e0811a1, 0xf7537e82, 0xbd3af235, 0x2ad7d2bb,
    0xeb86d391]

/-- A word turned to the left. -/
def turn (x n : UInt32) : UInt32 := (x <<< n) ||| (x >>> (32 - n))

def turnRight (x n : UInt32) : UInt32 := (x >>> n) ||| (x <<< (32 - n))

def turnLong (x n : UInt64) : UInt64 := (x >>> n) ||| (x <<< (64 - n))

def md5Step (state block : Array Nat) : Array Nat :=
  let m : Array UInt32 := block.map UInt32.ofNat
  let s : Array UInt32 := state.map UInt32.ofNat
  let (a, b, c, d) := (s.getD 0 0, s.getD 1 0, s.getD 2 0, s.getD 3 0)
  let round (v : UInt32 × UInt32 × UInt32 × UInt32) (i : Nat) : UInt32 × UInt32 × UInt32 × UInt32 :=
    let (a, b, c, d) := v
    let (f, g) : UInt32 × Nat := match i / 16 with
      | 0 => ((b &&& c) ||| (~~~b &&& d), i)
      | 1 => ((d &&& b) ||| (~~~d &&& c), (5 * i + 1) % 16)
      | 2 => (b ^^^ c ^^^ d, (3 * i + 5) % 16)
      | _ => (c ^^^ (b ||| ~~~d), 7 * i % 16)
    let sum := a + f + md5Constants.getD i 0 + m.getD g 0
    let n := (md5Turns.getD (i / 16) #[]).getD (i % 4) 0
    (d, b + turn sum (UInt32.ofNat n), b, c)
  let (p, q, r, t) := (List.range 64).foldl round (a, b, c, d)
  #[(a + p).toNat, (b + q).toNat, (c + r).toNat, (d + t).toNat]

def md5 (text : Bytes) : Bytes :=
  let start := #[0x67452301, 0xefcdab89, 0x98badcfe, 0x10325476]
  (absorb 4 false md5Step start (padded 64 8 false text)).toList.flatMap fun n => (bigEndian 4 n).reverse

def sha1Step (state block : Array Nat) : Array Nat :=
  let m : Array UInt32 := block.map UInt32.ofNat
  let s : Array UInt32 := state.map UInt32.ofNat
  let w := (List.range' 16 64).foldl
    (fun (w : Array UInt32) i =>
      w.push (turn (w.getD (i - 3) 0 ^^^ w.getD (i - 8) 0 ^^^ w.getD (i - 14) 0 ^^^ w.getD (i - 16) 0) 1)) m
  let round (v : Array UInt32) (i : Nat) : Array UInt32 :=
    let (a, b, c, d, e) := (v.getD 0 0, v.getD 1 0, v.getD 2 0, v.getD 3 0, v.getD 4 0)
    let (f, k) : UInt32 × UInt32 := match i / 20 with
      | 0 => ((b &&& c) ||| (~~~b &&& d), 0x5a827999)
      | 1 => (b ^^^ c ^^^ d, 0x6ed9eba1)
      | 2 => ((b &&& c) ||| (b &&& d) ||| (c &&& d), 0x8f1bbcdc)
      | _ => (b ^^^ c ^^^ d, 0xca62c1d6)
    #[turn a 5 + f + e + k + w.getD i 0, a, turn b 30, c, d]
  let v := (List.range 80).foldl round s
  ((List.range 5).map fun i => (s.getD i 0 + v.getD i 0).toNat).toArray

def sha1 (text : Bytes) : Bytes :=
  let start := #[0x67452301, 0xefcdab89, 0x98badcfe, 0x10325476, 0xc3d2e1f0]
  (absorb 4 true sha1Step start (padded 64 8 true text)).toList.flatMap (bigEndian 4)

/-- The constants of the rounds of `sha256`: the cube roots of the first primes. -/
def sha256Constants : Array UInt32 := ((primes 64).map fun p => UInt32.ofNat (fraction 3 32 p)).toArray

def sha256Step (state block : Array Nat) : Array Nat :=
  let m : Array UInt32 := block.map UInt32.ofNat
  let s : Array UInt32 := state.map UInt32.ofNat
  let w := (List.range' 16 48).foldl
    (fun (w : Array UInt32) i =>
      let (x, y) := (w.getD (i - 15) 0, w.getD (i - 2) 0)
      let s0 := turnRight x 7 ^^^ turnRight x 18 ^^^ (x >>> 3)
      let s1 := turnRight y 17 ^^^ turnRight y 19 ^^^ (y >>> 10)
      w.push (w.getD (i - 16) 0 + s0 + w.getD (i - 7) 0 + s1)) m
  let round (v : Array UInt32) (i : Nat) : Array UInt32 :=
    let (a, b, c, d) := (v.getD 0 0, v.getD 1 0, v.getD 2 0, v.getD 3 0)
    let (e, f, g, h) := (v.getD 4 0, v.getD 5 0, v.getD 6 0, v.getD 7 0)
    let s1 := turnRight e 6 ^^^ turnRight e 11 ^^^ turnRight e 25
    let t1 := h + s1 + ((e &&& f) ^^^ (~~~e &&& g)) + sha256Constants.getD i 0 + w.getD i 0
    let s0 := turnRight a 2 ^^^ turnRight a 13 ^^^ turnRight a 22
    let t2 := s0 + ((a &&& b) ^^^ (a &&& c) ^^^ (b &&& c))
    #[t1 + t2, a, b, c, d + t1, e, f, g]
  let v := (List.range 64).foldl round s
  ((List.range 8).map fun i => (s.getD i 0 + v.getD i 0).toNat).toArray

def sha256 (text : Bytes) : Bytes :=
  let start := ((primes 8).map (fraction 2 32)).toArray
  (absorb 4 true sha256Step start (padded 64 8 true text)).toList.flatMap (bigEndian 4)

def sha224 (text : Bytes) : Bytes :=
  let start := (((primes 16).drop 8).map fun p => fraction 2 64 p % Nat.pow 2 32).toArray
  ((absorb 4 true sha256Step start (padded 64 8 true text)).toList.flatMap (bigEndian 4)).take 28

/-- The constants of the rounds of `sha512`: the cube roots of the first primes. -/
def sha512Constants : Array UInt64 := ((primes 80).map fun p => UInt64.ofNat (fraction 3 64 p)).toArray

def sha512Step (state block : Array Nat) : Array Nat :=
  let m : Array UInt64 := block.map UInt64.ofNat
  let s : Array UInt64 := state.map UInt64.ofNat
  let w := (List.range' 16 64).foldl
    (fun (w : Array UInt64) i =>
      let (x, y) := (w.getD (i - 15) 0, w.getD (i - 2) 0)
      let s0 := turnLong x 1 ^^^ turnLong x 8 ^^^ (x >>> 7)
      let s1 := turnLong y 19 ^^^ turnLong y 61 ^^^ (y >>> 6)
      w.push (w.getD (i - 16) 0 + s0 + w.getD (i - 7) 0 + s1)) m
  let round (v : Array UInt64) (i : Nat) : Array UInt64 :=
    let (a, b, c, d) := (v.getD 0 0, v.getD 1 0, v.getD 2 0, v.getD 3 0)
    let (e, f, g, h) := (v.getD 4 0, v.getD 5 0, v.getD 6 0, v.getD 7 0)
    let s1 := turnLong e 14 ^^^ turnLong e 18 ^^^ turnLong e 41
    let t1 := h + s1 + ((e &&& f) ^^^ (~~~e &&& g)) + sha512Constants.getD i 0 + w.getD i 0
    let s0 := turnLong a 28 ^^^ turnLong a 34 ^^^ turnLong a 39
    let t2 := s0 + ((a &&& b) ^^^ (a &&& c) ^^^ (b &&& c))
    #[t1 + t2, a, b, c, d + t1, e, f, g]
  let v := (List.range 80).foldl round s
  ((List.range 8).map fun i => (s.getD i 0 + v.getD i 0).toNat).toArray

def sha512 (text : Bytes) : Bytes :=
  let start := ((primes 8).map (fraction 2 64)).toArray
  (absorb 8 true sha512Step start (padded 128 16 true text)).toList.flatMap (bigEndian 8)

def sha384 (text : Bytes) : Bytes :=
  let start := (((primes 16).drop 8).map (fraction 2 64)).toArray
  ((absorb 8 true sha512Step start (padded 128 16 true text)).toList.flatMap (bigEndian 8)).take 48

def cyclicStep (r : UInt32) (b : UInt8) : UInt32 :=
  (List.range 8).foldl (fun r _ => if r &&& 0x80000000 ≠ 0 then (r <<< 1) ^^^ 0x04c11db7 else r <<< 1)
    (r ^^^ (b.toUInt32 <<< 24))

/-- The octets of a number, the smallest one first, without zeros at the end. -/
def lengthOctets : (fuel : Nat) → Nat → Bytes
  | 0, _ => []
  | fuel + 1, n => if n = 0 then [] else UInt8.ofNat (n % 256) :: lengthOctets fuel (n / 256)

def cyclic (text : Bytes) : Nat :=
  (~~~((text ++ lengthOctets 16 text.length).foldl cyclicStep 0)).toNat

def turnedSum (text : Bytes) : Nat :=
  text.foldl (fun s b => ((s / 2 + s % 2 * 0x8000) + b.toNat) % 0x10000) 0

def plainSum (text : Bytes) : Nat :=
  let s := text.foldl (fun s b => s + b.toNat) 0
  let r := s % 0x10000 + s % 0x100000000 / 0x10000
  r % 0x10000 + r / 0x10000

end SbtWorkspace.Simulation.Digest
