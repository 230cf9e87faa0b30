import Lettermill.Shell.Utility.Plain
/-! Digests of texts. A text is padded to blocks, each of which stirs a few words of 32 bits; the
words at the end are the digest. -/
namespace Lettermill.Shell.Utility
set_option autoImplicit false
open Text

/-! ## Words -/

/-- The word that four bytes make, the last or the first byte being the highest. -/
def wordOf (lowFirst : Bool) (bs : List Char) : UInt32 :=
  let bs := if lowFirst then bs.reverse else bs
  bs.foldl (fun w b => w * 256 + UInt32.ofNat b.toNat) 0

def wordBytes (lowFirst : Bool) (w : UInt32) : List Char :=
  let bs := [w >>> 24, w >>> 16, w >>> 8, w].map fun x => Char.ofNat (x.toNat % 256)
  if lowFirst then bs.reverse else bs

def turnLeft (w : UInt32) (n : UInt32) : UInt32 := (w <<< n) ||| (w >>> (32 - n))

def turnRight (w : UInt32) (n : UInt32) : UInt32 := (w >>> n) ||| (w <<< (32 - n))

def wordAt (ws : Array UInt32) (n : Nat) : UInt32 := ws.getD n 0

/-- A text padded to whole blocks, with its length at the end. -/
def padded (lowFirst : Bool) (cs : List Char) : List Char :=
  let bits := 8 * cs.length
  let zeros := (119 - cs.length % 64) % 64
  let high := wordBytes lowFirst (UInt32.ofNat (bits / Nat.pow 2 32))
  let low := wordBytes lowFirst (UInt32.ofNat bits)
  cs ++ '\x80' :: List.replicate zeros '\x00' ++ (if lowFirst then low ++ high else high ++ low)

def piecesOf {α : Type} (size : Nat) : Nat → List α → List (List α)
  | 0, _ => []
  | _, [] => []
  | fuel + 1, xs => xs.take size :: piecesOf size fuel (xs.drop size)

/-- The digest of a text, given what a block does to the words. -/
def digestOf (lowFirst : Bool) (start : Array UInt32)
    (stir : Array UInt32 → Array UInt32 → Array UInt32) (cs : List Char) : List Char :=
  let blocks := piecesOf 64 (cs.length / 64 + 3) (padded lowFirst cs)
  let final := blocks.foldl (fun ws block =>
    stir ws ((piecesOf 4 17 block).map (wordOf lowFirst)).toArray) start
  final.toList.flatMap (wordBytes lowFirst)

def addWords (a b : Array UInt32) : Array UInt32 := Array.zipWith (· + ·) a b

/-! ## MD5 -/

def turnsMd5 : Array UInt32 := #[7, 12, 17, 22, 5, 9, 14, 20, 4, 11, 16, 23, 6, 10, 15, 21]

def constantsMd5 : Array UInt32 := #[
  0xd76aa478, 0xe8c7b756, 0x242070db, 0xc1bdceee, 0xf57c0faf, 0x4787c62a, 0xa8304613, 0xfd469501,
  0x698098d8, 0x8b44f7af, 0xffff5bb1, 0x895cd7be, 0x6b901122, 0xfd987193, 0xa679438e, 0x49b40821,
  0xf61e2562, 0xc040b340, 0x265e5a51, 0xe9b6c7aa, 0xd62f105d, 0x02441453, 0xd8a1e681, 0xe7d3fbc8,
  0x21e1cde6, 0xc33707d6, 0xf4d50d87, 0x455a14ed, 0xa9e3e905, 0xfcefa3f8, 0x676f02d9, 0x8d2a4c8a,
  0xfffa3942, 0x8771f681, 0x6d9d6122, 0xfde5380c, 0xa4beea44, 0x4bdecfa9, 0xf6bb4b60, 0xbebfbc70,
  0x289b7ec6, 0xeaa127fa, 0xd4ef3085, 0x04881d05, 0xd9d4d039, 0xe6db99e5, 0x1fa27cf8, 0xc4ac5665,
  0xf4292244, 0x432aff97, 0xab9423a7, 0xfc93a039, 0x655b59c3, 0x8f0ccc92, 0xffeff47d, 0x85845dd1,
  0x6fa87e4f, 0xfe2ce6e0, 0xa3014314, 0x4e0811a1, 0xf7537e82, 0xbd3af235, 0x2ad7d2bb, 0xeb86d391]

def stirMd5 (ws block : Array UInt32) : Array UInt32 :=
  let step (ws : Array UInt32) (i : Nat) : Array UInt32 :=
    let (a, b, c, d) := (wordAt ws 0, wordAt ws 1, wordAt ws 2, wordAt ws 3)
    let (mixed, place) := match i / 16 with
      | 0 => ((b &&& c) ||| (~~~b &&& d), i)
      | 1 => ((d &&& b) ||| (~~~d &&& c), (5 * i + 1) % 16)
      | 2 => (b ^^^ c ^^^ d, (3 * i + 5) % 16)
      | _ => (c ^^^ (b ||| ~~~d), (7 * i) % 16)
    let sum := a + mixed + wordAt constantsMd5 i + wordAt block place
    #[d, b + turnLeft sum (wordAt turnsMd5 (i / 16 * 4 + i % 4)), b, c]
  addWords ws ((List.range 64).foldl step ws)

def md5 (cs : List Char) : List Char :=
  digestOf true #[0x67452301, 0xefcdab89, 0x98badcfe, 0x10325476] stirMd5 cs

/-! ## SHA-1 -/

def stirSha1 (ws block : Array UInt32) : Array UInt32 :=
  let schedule := (List.range 64).foldl (fun s i =>
    s.push (turnLeft (wordAt s (i + 13) ^^^ wordAt s (i + 8) ^^^ wordAt s (i + 2) ^^^ wordAt s i) 1))
    block
  let step (ws : Array UInt32) (i : Nat) : Array UInt32 :=
    let (a, b, c, d, e) := (wordAt ws 0, wordAt ws 1, wordAt ws 2, wordAt ws 3, wordAt ws 4)
    let (mixed, constant) : UInt32 × UInt32 := match i / 20 with
      | 0 => ((b &&& c) ||| (~~~b &&& d), 0x5a827999)
      | 1 => (b ^^^ c ^^^ d, 0x6ed9eba1)
      | 2 => ((b &&& c) ||| (b &&& d) ||| (c &&& d), 0x8f1bbcdc)
      | _ => (b ^^^ c ^^^ d, 0xca62c1d6)
    #[turnLeft a 5 + mixed + e + constant + wordAt schedule i, a, turnLeft b 30, c, d]
  addWords ws ((List.range 80).foldl step ws)

def sha1 (cs : List Char) : List Char :=
  digestOf false #[0x67452301, 0xefcdab89, 0x98badcfe, 0x10325476, 0xc3d2e1f0] stirSha1 cs

/-! ## SHA-256 -/

def constantsSha256 : Array UInt32 := #[
  0x428a2f98, 0x71374491, 0xb5c0fbcf, 0xe9b5dba5, 0x3956c25b, 0x59f111f1, 0x923f82a4, 0xab1c5ed5,
  0xd807aa98, 0x12835b01, 0x243185be, 0x550c7dc3, 0x72be5d74, 0x80deb1fe, 0x9bdc06a7, 0xc19bf174,
  0xe49b69c1, 0xefbe4786, 0x0fc19dc6, 0x240ca1cc, 0x2de92c6f, 0x4a7484aa, 0x5cb0a9dc, 0x76f988da,
  0x983e5152, 0xa831c66d, 0xb00327c8, 0xbf597fc7, 0xc6e00bf3, 0xd5a79147, 0x06ca6351, 0x14292967,
  0x27b70a85, 0x2e1b2138, 0x4d2c6dfc, 0x53380d13, 0x650a7354, 0x766a0abb, 0x81c2c92e, 0x92722c85,
  0xa2bfe8a1, 0xa81a664b, 0xc24b8b70, 0xc76c51a3, 0xd192e819, 0xd6990624, 0xf40e3585, 0x106aa070,
  0x19a4c116, 0x1e376c08, 0x2748774c, 0x34b0bcb5, 0x391c0cb3, 0x4ed8aa4a, 0x5b9cca4f, 0x682e6ff3,
  0x748f82ee, 0x78a5636f, 0x84c87814, 0x8cc70208, 0x90befffa, 0xa4506ceb, 0xbef9a3f7, 0xc67178f2]

def stirSha256 (ws block : Array UInt32) : Array UInt32 :=
  let schedule := (List.range 48).foldl (fun s i =>
    let x := wordAt s (i + 1)
    let y := wordAt s (i + 14)
    let p := turnRight x 7 ^^^ turnRight x 18 ^^^ (x >>> 3)
    let q := turnRight y 17 ^^^ turnRight y 19 ^^^ (y >>> 10)
    s.push (wordAt s i + p + wordAt s (i + 9) + q)) block
  let step (ws : Array UInt32) (i : Nat) : Array UInt32 :=
    let (a, b, c, d) := (wordAt ws 0, wordAt ws 1, wordAt ws 2, wordAt ws 3)
    let (e, f, g, h) := (wordAt ws 4, wordAt ws 5, wordAt ws 6, wordAt ws 7)
    let s1 := turnRight e 6 ^^^ turnRight e 11 ^^^ turnRight e 25
    let choice := (e &&& f) ^^^ (~~~e &&& g)
    let t1 := h + s1 + choice + wordAt constantsSha256 i + wordAt schedule i
    let s0 := turnRight a 2 ^^^ turnRight a 13 ^^^ turnRight a 22
    let most := (a &&& b) ^^^ (a &&& c) ^^^ (b &&& c)
    #[t1 + s0 + most, a, b, c, d + t1, e, f, g]
  addWords ws ((List.range 64).foldl step ws)

def startSha256 : Array UInt32 := #[0x6a09e667, 0xbb67ae85, 0x3c6ef372, 0xa54ff53a, 0x510e527f,
  0x9b05688c, 0x1f83d9ab, 0x5be0cd19]

def startSha224 : Array UInt32 := #[0xc1059ed8, 0x367cd507, 0x3070dd17, 0xf70e5939, 0xffc00b31,
  0x68581511, 0x64f98fa7, 0xbefa4fa4]

def sha256 (cs : List Char) : List Char := digestOf false startSha256 stirSha256 cs

def sha224 (cs : List Char) : List Char := (digestOf false startSha224 stirSha256 cs).take 28

/-! ## Cyclic redundancy -/

def remainderBit (r : UInt32) : UInt32 :=
  if r &&& 0x80000000 = 0 then r <<< 1 else (r <<< 1) ^^^ 0x04c11db7

def remainderByte (r : UInt32) (b : Nat) : UInt32 :=
  (List.range 8).foldl (fun r _ => remainderBit r) (r ^^^ (UInt32.ofNat b <<< 24))

def numberBytes : Nat → Nat → List Nat
  | 0, _ => []
  | _, 0 => []
  | fuel + 1, n => n % 256 :: numberBytes fuel (n / 256)

def checksum (cs : List Char) : UInt32 :=
  let r := cs.foldl (fun r c => remainderByte r c.toNat) 0
  ~~~((numberBytes 9 cs.length).foldl remainderByte r)

/-! ## Programs -/

def hexText (cs : List Char) : List Char :=
  cs.flatMap fun c => [Nat.digitChar (c.toNat / 16), Nat.digitChar (c.toNat % 16)]

def digests (digest : List Char → List Char) (c : Call) : Effect :=
  let o : OptionSet :=
    { letters := "bctwz"
      names := [("binary", 'b'), ("check", 'c'), ("text", 't'), ("warn", 'w'), ("zero", 'z'),
        ("tag", 'T'), ("quiet", 'q'), ("status", 'S'), ("strict", 'R'), ("ignore-missing", 'I')] }
  c.withOptions o 1 fun g =>
    let mark := if g.has 'b' then " *" else "  "
    let each := (c.texts g.operands).map fun (path, found) =>
      match found with
      | .ok text => Effect.out (hexText (digest text) ++ (mark ++ path ++ "\n").toList)
      | .error why => c.complaint (path ++ ": " ++ why.words) 1
    { Effect.all each with left := c.leftAfter g.operands }

def cksum (c : Call) : Effect :=
  c.withOptions { letters := "a:", names := [("algorithm=", 'a')] } 1 fun g =>
    let each := (c.texts g.operands).map fun (path, found) =>
      match found with
      | .ok text =>
        Effect.out (digitsText (checksum text).toNat ++ ' ' :: digitsText text.length
          ++ (if g.operands.isEmpty then "\n" else " " ++ path ++ "\n").toList)
      | .error why => c.complaint (path ++ ": " ++ why.words) 1
    { Effect.all each with left := c.leftAfter g.operands }

end Lettermill.Shell.Utility
