/-!
# Reproducible random numbers

The Mersenne twister with a period of `2 ^ 19937 - 1`, seeded from an integer of any size. A draw is
a multiple of `2 ^ -53` below one, given by its numerator.
-/

namespace Pseudonym.Random

/-! ## Sources of draws -/

/-- A source of draws below `2 ^ 53`. -/
class Source (σ : Type) where
  /-- The next draw and the source after it. -/
  draw : σ → Nat × σ

/-- The fraction of one that a draw stands for. -/
def unit (draw : Nat) : Float := Float.ofNat draw / 9007199254740992.0

/-- Draws given in advance, then zeros. -/
structure Script where
  draws : List Nat
deriving DecidableEq, Repr

instance : Source Script where
  draw s := match s.draws with
    | [] => (0, s)
    | k :: rest => (k, ⟨rest⟩)

/-! ## The twister -/

/-- The count of words in the state. -/
def wordCount : Nat := 624

/-- The state words and the place of the next one to give out. -/
structure Twister where
  words : Array UInt32
  next : Nat
deriving Inhabited

/-- The state after seeding with one word. -/
def wordsOfSeed (seed : UInt32) : Array UInt32 :=
  (List.range (wordCount - 1)).foldl
    (fun (words : Array UInt32) k =>
      let prev : UInt32 := words.back?.getD 0
      words.push ((1812433253 : UInt32) * (prev ^^^ (prev >>> 30)) + (k + 1).toUInt32))
    #[seed]

/-- The word at a place. -/
def wordAt (words : Array UInt32) (i : Nat) : UInt32 := words[i]?.getD 0

/-- Moves on to the next place; past the end the first word becomes the last one. -/
def wrapPlace (words : Array UInt32) (i : Nat) : Array UInt32 × Nat :=
  if i + 1 ≥ wordCount then (words.setIfInBounds 0 (wordAt words (wordCount - 1)), 1)
  else (words, i + 1)

/-- Mixes key words into the state, round after round. -/
def mixKey (key : List UInt32) : Nat → Array UInt32 → (i j : Nat) → Array UInt32 × Nat
  | 0, words, i, _ => (words, i)
  | rounds + 1, words, i, j =>
    let prev := wordAt words (i - 1)
    let mixed := (wordAt words i ^^^ ((prev ^^^ (prev >>> 30)) * 1664525)) +
      (key[j]?.getD 0) + j.toUInt32
    let (words, i) := wrapPlace (words.setIfInBounds i mixed) i
    mixKey key rounds words i (if j + 1 ≥ key.length then 0 else j + 1)

/-- Mixes the places into the state. -/
def mixPlaces : Nat → Array UInt32 → (i : Nat) → Array UInt32
  | 0, words, _ => words
  | rounds + 1, words, i =>
    let prev := wordAt words (i - 1)
    let mixed := (wordAt words i ^^^ ((prev ^^^ (prev >>> 30)) * 1566083941)) - i.toUInt32
    let (words, i) := wrapPlace (words.setIfInBounds i mixed) i
    mixPlaces rounds words i

/-- The 32-bit words of a number, the least significant first; zero has one word. -/
def keyWords (n : Nat) : List UInt32 :=
  if h : n < 0x100000000 then [n.toUInt32]
  else (n % 0x100000000).toUInt32 :: keyWords (n / 0x100000000)
termination_by n
decreasing_by omega

/-- The twister of a seed; the sign of the seed is ignored. -/
def Twister.ofSeed (seed : Int) : Twister :=
  let key := keyWords seed.natAbs
  let (words, i) := mixKey key (max wordCount key.length) (wordsOfSeed 19650218) 1 0
  let words := mixPlaces (wordCount - 1) words i
  ⟨words.setIfInBounds 0 0x80000000, wordCount⟩

/-- Renews one state word from its successor and a word further on. -/
def renewWord (words : Array UInt32) (i : Nat) : Array UInt32 :=
  let y := (wordAt words i &&& 0x80000000) |||
    (wordAt words ((i + 1) % wordCount) &&& 0x7fffffff)
  let far := wordAt words ((i + 397) % wordCount)
  words.setIfInBounds i (far ^^^ (y >>> 1) ^^^ (if y &&& 1 = 1 then 0x9908b0df else 0))

/-- Renews all state words. -/
def renew (words : Array UInt32) : Array UInt32 :=
  (List.range wordCount).foldl renewWord words

/-- Scrambles a state word on its way out. -/
def temper (y : UInt32) : UInt32 :=
  let y := y ^^^ (y >>> 11)
  let y := y ^^^ ((y <<< 7) &&& 0x9d2c5680)
  let y := y ^^^ ((y <<< 15) &&& 0xefc60000)
  y ^^^ (y >>> 18)

/-- The next word. -/
def Twister.word (t : Twister) : UInt32 × Twister :=
  let t := if t.next ≥ wordCount then ⟨renew t.words, 0⟩ else t
  (temper (wordAt t.words t.next), { t with next := t.next + 1 })

/-- The next draw: 27 bits of one word, then 26 bits of another. -/
def Twister.draw (t : Twister) : Nat × Twister :=
  let (a, t) := t.word
  let (b, t) := t.word
  ((a >>> 5).toNat * 0x4000000 + (b >>> 6).toNat, t)

instance : Source Twister where
  draw := Twister.draw

end Pseudonym.Random
