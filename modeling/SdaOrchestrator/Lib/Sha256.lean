namespace sha256

/-- The round constants. -/
def constants : List Nat := [
  0x428a2f98, 0x71374491, 0xb5c0fbcf, 0xe9b5dba5, 0x3956c25b, 0x59f111f1, 0x923f82a4, 0xab1c5ed5,
  0xd807aa98, 0x12835b01, 0x243185be, 0x550c7dc3, 0x72be5d74, 0x80deb1fe, 0x9bdc06a7, 0xc19bf174,
  0xe49b69c1, 0xefbe4786, 0x0fc19dc6, 0x240ca1cc, 0x2de92c6f, 0x4a7484aa, 0x5cb0a9dc, 0x76f988da,
  0x983e5152, 0xa831c66d, 0xb00327c8, 0xbf597fc7, 0xc6e00bf3, 0xd5a79147, 0x06ca6351, 0x14292967,
  0x27b70a85, 0x2e1b2138, 0x4d2c6dfc, 0x53380d13, 0x650a7354, 0x766a0abb, 0x81c2c92e, 0x92722c85,
  0xa2bfe8a1, 0xa81a664b, 0xc24b8b70, 0xc76c51a3, 0xd192e819, 0xd6990624, 0xf40e3585, 0x106aa070,
  0x19a4c116, 0x1e376c08, 0x2748774c, 0x34b0bcb5, 0x391c0cb3, 0x4ed8aa4a, 0x5b9cca4f, 0x682e6ff3,
  0x748f82ee, 0x78a5636f, 0x84c87814, 0x8cc70208, 0x90befffa, 0xa4506ceb, 0xbef9a3f7, 0xc67178f2]

/-- The eight working words. -/
structure Words where
  a : Nat
  b : Nat
  c : Nat
  d : Nat
  e : Nat
  f : Nat
  g : Nat
  h : Nat

def initial : Words :=
  ⟨0x6a09e667, 0xbb67ae85, 0x3c6ef372, 0xa54ff53a, 0x510e527f, 0x9b05688c, 0x1f83d9ab, 0x5be0cd19⟩

/-- A word: 32 bits. -/
def word (n : Nat) : Nat := n % 0x100000000

def rotr (x n : Nat) : Nat := (x >>> n) ||| word (x <<< (32 - n))

def choose (e f g : Nat) : Nat := (e &&& f) ^^^ ((0xffffffff - e) &&& g)

def majority (a b c : Nat) : Nat := (a &&& b) ^^^ (a &&& c) ^^^ (b &&& c)

def round (s : Words) (constant_word : Nat × Nat) : Words :=
  let t1 := s.h + (rotr s.e 6 ^^^ rotr s.e 11 ^^^ rotr s.e 25) + choose s.e s.f s.g +
    constant_word.1 + constant_word.2
  let t2 := (rotr s.a 2 ^^^ rotr s.a 13 ^^^ rotr s.a 22) + majority s.a s.b s.c
  ⟨word (t1 + t2), s.a, s.b, s.c, word (s.d + t1), s.e, s.f, s.g⟩

/-- The message schedule, from a window of its last sixteen words. -/
def schedule (rounds : Nat) (window : List Nat) : List Nat :=
  match rounds, window with
  | n + 1, w0 :: w1 :: w2 :: w3 :: w4 :: w5 :: w6 :: w7 :: w8 :: w9 :: w10 :: w11 :: w12 :: w13 ::
      w14 :: w15 :: _ =>
    let s0 := rotr w1 7 ^^^ rotr w1 18 ^^^ (w1 >>> 3)
    let s1 := rotr w14 17 ^^^ rotr w14 19 ^^^ (w14 >>> 10)
    w0 :: schedule n [w1, w2, w3, w4, w5, w6, w7, w8, w9, w10, w11, w12, w13, w14, w15,
      word (s1 + w9 + s0 + w0)]
  | _, _ => []

def compress (s : Words) (block : List Nat) : Words :=
  let t := (constants.zip (schedule 64 block)).foldl round s
  ⟨word (s.a + t.a), word (s.b + t.b), word (s.c + t.c), word (s.d + t.d), word (s.e + t.e),
    word (s.f + t.f), word (s.g + t.g), word (s.h + t.h)⟩

/-- The bytes with their padding and their length in bits. -/
def pad (bytes : List Nat) : List Nat :=
  let zeros := (119 - bytes.length % 64) % 64
  let bits := 8 * bytes.length
  let length := (List.range 8).map fun i => (bits >>> (8 * (7 - i))) % 256
  bytes ++ 0x80 :: (List.replicate zeros 0 ++ length)

def words : List Nat → List Nat
  | a :: b :: c :: d :: rest => (a * 0x1000000 + b * 0x10000 + c * 0x100 + d) :: words rest
  | _ => []

/-- The first blocks of sixteen words. -/
def blocks (count : Nat) (message : List Nat) : List (List Nat) :=
  match count with
  | 0 => []
  | n + 1 => message.take 16 :: blocks n (message.drop 16)

def digest (bytes : List Nat) : List Nat :=
  let message := words (pad bytes)
  let t := (blocks (message.length / 16) message).foldl compress initial
  [t.a, t.b, t.c, t.d, t.e, t.f, t.g, t.h]

def hexDigit (n : Nat) : Char := if n < 10 then Char.ofNat (48 + n) else Char.ofNat (87 + n)

def hexWord (n : Nat) : List Char :=
  (List.range 8).map fun i => hexDigit ((n >>> (4 * (7 - i))) % 16)

/-- `hashlib.sha256(content).hexdigest()`. -/
def hexdigest_of_bytes (content : List UInt8) : String :=
  String.ofList ((digest (content.map UInt8.toNat)).flatMap hexWord)

/-- `hashlib.sha256(text.encode("utf-8")).hexdigest()` of a text given as characters. -/
def hexdigest (text : List Char) : String :=
  String.ofList ((digest ((text.flatMap String.utf8EncodeChar).map UInt8.toNat)).flatMap hexWord)

theorem hexdigest_length (text : List Char) : (hexdigest text).length = 64 := by
  simp [hexdigest, digest, hexWord]

example : hexdigest ['a', 'b', 'c'] =
    "ba7816bf8f01cfea414140de5dae2223b00361a396177a9cb410ff61f20015ad" := by decide +kernel

example : hexdigest (List.replicate 300 'a') =
    "9835fa6bf4e20a9b9ea812506302e98982721a6cf8d2cae67af57129bf21ae90" := by decide +kernel

end sha256
