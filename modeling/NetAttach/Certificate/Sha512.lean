/-
  The SHA-512 digest.

  1. **Constants** — nothing is copied from a table: the first state holds the leading 64 bits of the
     fractional parts of the square roots of the first eight primes, and the rounds use those of the cube roots
     of the first eighty.  Both are roots of integers, cut to a word.
  2. **Padding** — a single bit, zeros, and the number of bits in 128 bits, so that the whole is made of
     blocks of 128 bytes.
  3. **Compression** — a block gives eighty words, each computed from the sixteen before it, and the eight
     words of the state go through a round with each.
-/
import NetAttach.Text.Encoding

namespace NetAttach

namespace Sha512

/-! ## Roots of primes -/

/-- The largest number of at most `bits` bits, on top of `root`, whose power with exponent `k` does not exceed
`n`. -/
def rootFrom (k n : Nat) : (bits root : Nat) → Nat
  | 0, root => root
  | bits + 1, root =>
    let larger := root + Nat.pow 2 bits
    rootFrom k n bits (if Nat.pow larger k ≤ n then larger else root)

/-- The first 64 bits of the fraction of the root of `n` with exponent `k`. -/
def rootFraction (k n : Nat) : UInt64 := (rootFrom k (n * Nat.pow 2 (64 * k)) 72 0).toUInt64

/-- A number below 441, the square of 21, is prime if it is greater than one and no number between one and
itself that is below 21 divides it. -/
def isPrime (n : Nat) : Bool :=
  decide (1 < n) && (List.range 21).all fun d => decide (d < 2) || decide (n ≤ d) || n % d != 0

/-- The first eighty primes. -/
def primes : List Nat := (List.range 410).filter isPrime

/-- The words that the rounds use. -/
def roundWords : List UInt64 := primes.map (rootFraction 3)

/-! ## Compression -/

/-- Turn a word by `n` bits to the right. -/
def rotate (x : UInt64) (n : UInt64) : UInt64 := (x >>> n) ||| (x <<< (64 - n))

/-- The eight words of the state. -/
structure State where
  a : UInt64
  b : UInt64
  c : UInt64
  d : UInt64
  e : UInt64
  f : UInt64
  g : UInt64
  h : UInt64
deriving DecidableEq

namespace State

/-- The words of a state, in order. -/
def words (s : State) : List UInt64 := [s.a, s.b, s.c, s.d, s.e, s.f, s.g, s.h]

/-- The state before anything is digested. -/
def start : State :=
  { a := rootFraction 2 2, b := rootFraction 2 3, c := rootFraction 2 5, d := rootFraction 2 7,
    e := rootFraction 2 11, f := rootFraction 2 13, g := rootFraction 2 17, h := rootFraction 2 19 }

/-- Add two states, word by word. -/
def add (s t : State) : State :=
  { a := s.a + t.a, b := s.b + t.b, c := s.c + t.c, d := s.d + t.d,
    e := s.e + t.e, f := s.f + t.f, g := s.g + t.g, h := s.h + t.h }

/-- One round, with the word of the round and a word of the block. -/
def round (s : State) (roundWord blockWord : UInt64) : State :=
  let mixed := rotate s.e 14 ^^^ rotate s.e 18 ^^^ rotate s.e 41
  let choice := (s.e &&& s.f) ^^^ (~~~s.e &&& s.g)
  let first := s.h + mixed + choice + roundWord + blockWord
  let turned := rotate s.a 28 ^^^ rotate s.a 34 ^^^ rotate s.a 39
  let majority := (s.a &&& s.b) ^^^ (s.a &&& s.c) ^^^ (s.b &&& s.c)
  { a := first + (turned + majority), b := s.a, c := s.b, d := s.c,
    e := s.d + first, f := s.e, g := s.f, h := s.g }

end State

/-- The word that follows sixteen others. -/
def nextWord (window : List UInt64) : UInt64 :=
  let early := window.getD 1 0
  let late := window.getD 14 0
  let spreadEarly := rotate early 1 ^^^ rotate early 8 ^^^ (early >>> 7)
  let spreadLate := rotate late 19 ^^^ rotate late 61 ^^^ (late >>> 6)
  window.getD 0 0 + spreadEarly + window.getD 9 0 + spreadLate

/-- Do a round for each of the given words; `window` holds the next sixteen words of the block. -/
def rounds : (roundWords window : List UInt64) → State → State
  | [], _, s => s
  | k :: rest, window, s =>
    rounds rest (window.drop 1 ++ [nextWord window]) (s.round k (window.getD 0 0))

/-- Digest a block of sixteen words. -/
def compress (s : State) (block : List UInt64) : State := s.add (rounds roundWords block s)

/-! ## Bytes -/

/-- The `count` bytes of a number, the highest first. -/
def bytesOf (count n : Nat) : Bytes :=
  (List.range count).reverse.map fun i => (n >>> (8 * i)).toUInt8

/-- The words that bytes spell, the highest byte of each first; what does not fill a word is left out. -/
def wordsOf : Bytes → List UInt64
  | a :: b :: c :: d :: e :: f :: g :: h :: rest =>
    ([a, b, c, d, e, f, g, h].foldl (fun (w : UInt64) x => (w <<< 8) ||| x.toUInt64) 0) :: wordsOf rest
  | _ => []

/-- Bytes that fill whole blocks. -/
def padded (content : Bytes) : Bytes :=
  let zeros := (239 - content.length % 128) % 128
  content ++ 0x80 :: (List.replicate zeros 0 ++ bytesOf 16 (8 * content.length))

/-- The first `count` blocks of sixteen words. -/
def blocks : (count : Nat) → List UInt64 → List (List UInt64)
  | 0, _ => []
  | count + 1, words => words.take 16 :: blocks count (words.drop 16)

/-- The digest of bytes, 64 bytes long. -/
def digest (content : Bytes) : Bytes :=
  let words := wordsOf (padded content)
  let final := (blocks (words.length / 16) words).foldl compress .start
  final.words.flatMap fun word => bytesOf 8 word.toNat

/-- The hexadecimal digit of a number below sixteen. -/
def hexDigit (n : Nat) : CodePoint := .ofChar ("0123456789abcdef".toList.getD n '0')

/-- The digest of bytes, in hexadecimal digits. -/
def hexDigest (content : Bytes) : Text :=
  (digest content).flatMap fun b => [hexDigit (b.toNat / 16), hexDigit (b.toNat % 16)]

example : primes.length = 80 := by decide +kernel
example : rootFraction 2 2 = 0x6a09e667f3bcc908 := by decide +kernel
example : rootFraction 3 409 = 0x6c44198c4a475817 := by decide +kernel
example : (digest [0x61, 0x62, 0x63]).take 4 = [0xdd, 0xaf, 0x35, 0xa1] := by decide +kernel

end Sha512

end NetAttach
