import HeaderRelay.Bytes

/-!
# SHA-256

The hash function on byte strings.  Words are natural numbers below `2 ^ 32`:
additions are reduced at the end of each step, every other operation keeps the
bound.  The message schedule is a window of sixteen words that moves on by one
word a round, so that a block is one walk along the round constants.

Nothing outside this module depends on how a digest is computed, only on its
length.
-/

namespace HeaderRelay.Sha256

/-- A 32-bit word as a natural number. -/
abbrev Word := Nat

/-- Addition modulo `2 ^ 32`. -/
def add (left right : Word) : Word :=
  (left + right) % 0x100000000

/-- Rotation to the right by `count` bits. -/
def rotate (count : Nat) (word : Word) : Word :=
  (word >>> count) ||| ((word <<< (32 - count)) % 0x100000000)

def bigSigma0 (word : Word) : Word :=
  rotate 2 word ^^^ rotate 13 word ^^^ rotate 22 word

def bigSigma1 (word : Word) : Word :=
  rotate 6 word ^^^ rotate 11 word ^^^ rotate 25 word

def smallSigma0 (word : Word) : Word :=
  rotate 7 word ^^^ rotate 18 word ^^^ (word >>> 3)

def smallSigma1 (word : Word) : Word :=
  rotate 17 word ^^^ rotate 19 word ^^^ (word >>> 10)

/-- Each bit of the selector picks the bit of the second or the third word. -/
def choose (selector second third : Word) : Word :=
  (selector &&& second) ^^^ ((0xFFFFFFFF ^^^ selector) &&& third)

/-- Each bit is the one that at least two of the words have. -/
def majority (first second third : Word) : Word :=
  (first &&& second) ^^^ (first &&& third) ^^^ (second &&& third)

/-- The eight chained words. -/
structure State where
  a : Word
  b : Word
  c : Word
  d : Word
  e : Word
  f : Word
  g : Word
  h : Word

namespace State

/-- The state before the first block. -/
def initial : State :=
  ⟨0x6A09E667, 0xBB67AE85, 0x3C6EF372, 0xA54FF53A,
    0x510E527F, 0x9B05688C, 0x1F83D9AB, 0x5BE0CD19⟩

/-- Wordwise addition. -/
def plus (left right : State) : State :=
  ⟨add left.a right.a, add left.b right.b, add left.c right.c, add left.d right.d,
    add left.e right.e, add left.f right.f, add left.g right.g, add left.h right.h⟩

/-- The words as a byte string, each with its highest byte first. -/
def toBytes (state : State) : Bytes :=
  [state.a, state.b, state.c, state.d, state.e, state.f, state.g, state.h].flatMap
    (Bytes.ofNatBE 4)

@[simp] theorem length_toBytes (state : State) : state.toBytes.length = 32 := by
  simp [toBytes]

/-- One round with its constant and its word of the schedule. -/
def round (state : State) (constant word : Word) : State :=
  let mixed :=
    state.h + bigSigma1 state.e + choose state.e state.f state.g + constant + word
  let turned := bigSigma0 state.a + majority state.a state.b state.c
  ⟨add mixed turned, state.a, state.b, state.c,
    add state.d mixed, state.e, state.f, state.g⟩

end State

/-- The round constants: the first 32 bits of the fractional parts of the cube
roots of the first 64 primes. -/
def constants : List Word :=
  [0x428A2F98, 0x71374491, 0xB5C0FBCF, 0xE9B5DBA5, 0x3956C25B, 0x59F111F1, 0x923F82A4, 0xAB1C5ED5,
    0xD807AA98, 0x12835B01, 0x243185BE, 0x550C7DC3, 0x72BE5D74, 0x80DEB1FE, 0x9BDC06A7, 0xC19BF174,
    0xE49B69C1, 0xEFBE4786, 0x0FC19DC6, 0x240CA1CC, 0x2DE92C6F, 0x4A7484AA, 0x5CB0A9DC, 0x76F988DA,
    0x983E5152, 0xA831C66D, 0xB00327C8, 0xBF597FC7, 0xC6E00BF3, 0xD5A79147, 0x06CA6351, 0x14292967,
    0x27B70A85, 0x2E1B2138, 0x4D2C6DFC, 0x53380D13, 0x650A7354, 0x766A0ABB, 0x81C2C92E, 0x92722C85,
    0xA2BFE8A1, 0xA81A664B, 0xC24B8B70, 0xC76C51A3, 0xD192E819, 0xD6990624, 0xF40E3585, 0x106AA070,
    0x19A4C116, 0x1E376C08, 0x2748774C, 0x34B0BCB5, 0x391C0CB3, 0x4ED8AA4A, 0x5B9CCA4F, 0x682E6FF3,
    0x748F82EE, 0x78A5636F, 0x84C87814, 0x8CC70208, 0x90BEFFFA, 0xA4506CEB, 0xBEF9A3F7, 0xC67178F2]

/-- The rounds of one block.  The window holds the next sixteen words of the
schedule; its first word is used and the seventeenth is appended. -/
def rounds : (constants window : List Word) → State → State
  | constant :: constants, word :: window, state =>
      let next :=
        (word + smallSigma0 (window.getD 0 0) + window.getD 8 0 +
          smallSigma1 (window.getD 13 0)) % 0x100000000
      rounds constants (window ++ [next]) (state.round constant word)
  | _, _, state => state

/-- Adds one block of sixteen words to the state. -/
def compress (state : State) (block : List Word) : State :=
  state.plus (rounds constants block state)

/-- The words of a byte string, each with its highest byte first. -/
def words : Bytes → List Word
  | first :: second :: third :: fourth :: rest =>
      (((first.toNat * 256 + second.toNat) * 256 + third.toNat) * 256 + fourth.toNat) ::
        words rest
  | _ => []

/-- Adds `count` blocks, one after the other. -/
def absorb : (count : Nat) → List Word → State → State
  | 0, _, state => state
  | count + 1, schedule, state =>
      absorb count (schedule.drop 16) (compress state (schedule.take 16))

/-- The message, one set bit, as many zeros as complete a block, and the length
in bits as eight bytes. -/
def pad (message : Bytes) : Bytes :=
  message ++ 0x80 ::
    (List.replicate ((119 - message.length % 64) % 64) 0 ++
      Bytes.ofNatBE 8 (8 * message.length))

/-- The digest of a message. -/
def digest (message : Bytes) : Bytes :=
  let padded := pad message
  (absorb (padded.length / 64) (words padded) .initial).toBytes

@[simp] theorem length_digest (message : Bytes) : (digest message).length = 32 := by
  simp [digest]

end HeaderRelay.Sha256
