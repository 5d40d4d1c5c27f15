import RowQuery.Unicode.Intervals

/-!
Lower case and the folding of case.

* `lower`: the lower-case partner of a character.
* `raised`: the characters whose lower-case partner is a given one.
* `equivalents`: the characters that differ from a given one in case only.

A word of the table of lower case is a run of characters, written as in `Intervals`, and after `>`
the partner of the first; the partners of the others are as far from it as they are from the first.
-/
namespace RowQuery.Unicode.Casing

/-- The runs of characters that have a lower-case partner. -/
def lowerTable : List String :=
  ["41-5a>61 c0-d6>e0 d8-de>f8 100-12e/2>101 132-136/2>133 139-147/2>13a 14a-176/2>14b 178>ff",
   "179-17d/2>17a 181>253 182-184/2>183 186>254 187>188 189-18a>256 18b>18c 18e>1dd 18f>259",
   "190>25b 191>192 193>260 194>263 196>269 197>268 198>199 19c>26f 19d>272 19f>275",
   "1a0-1a4/2>1a1 1a6>280 1a7>1a8 1a9>283 1ac>1ad 1ae>288 1af>1b0 1b1-1b2>28a 1b3-1b5/2>1b4",
   "1b7>292 1b8>1b9 1bc>1bd 1c4>1c6 1c5>1c6 1c7>1c9 1c8>1c9 1ca>1cc 1cb-1db/2>1cc 1de-1ee/2>1df",
   "1f1>1f3 1f2-1f4/2>1f3 1f6>195 1f7>1bf 1f8-21e/2>1f9 220>19e 222-232/2>223 23a>2c65 23b>23c",
   "23d>19a 23e>2c66 241>242 243>180 244>289 245>28c 246-24e/2>247 370-372/2>371 376>377 37f>3f3",
   "386>3ac 388-38a>3ad 38c>3cc 38e-38f>3cd 391-3a1>3b1 3a3-3ab>3c3 3cf>3d7 3d8-3ee/2>3d9",
   "3f4>3b8 3f7>3f8 3f9>3f2 3fa>3fb 3fd-3ff>37b 400-40f>450 410-42f>430 460-480/2>461",
   "48a-4be/2>48b 4c0>4cf 4c1-4cd/2>4c2 4d0-52e/2>4d1 531-556>561 10a0-10c5>2d00 10c7>2d27",
   "10cd>2d2d 13a0-13ef>ab70 13f0-13f5>13f8 1c89>1c8a 1c90-1cba>10d0 1cbd-1cbf>10fd",
   "1e00-1e94/2>1e01 1e9e>df 1ea0-1efe/2>1ea1 1f08-1f0f>1f00 1f18-1f1d>1f10 1f28-1f2f>1f20",
   "1f38-1f3f>1f30 1f48-1f4d>1f40 1f59-1f5f/2>1f51 1f68-1f6f>1f60 1f88-1f8f>1f80 1f98-1f9f>1f90",
   "1fa8-1faf>1fa0 1fb8-1fb9>1fb0 1fba-1fbb>1f70 1fbc>1fb3 1fc8-1fcb>1f72 1fcc>1fc3",
   "1fd8-1fd9>1fd0 1fda-1fdb>1f76 1fe8-1fe9>1fe0 1fea-1feb>1f7a 1fec>1fe5 1ff8-1ff9>1f78",
   "1ffa-1ffb>1f7c 1ffc>1ff3 2126>3c9 212a>6b 212b>e5 2132>214e 2160-216f>2170 2183>2184",
   "24b6-24cf>24d0 2c00-2c2f>2c30 2c60>2c61 2c62>26b 2c63>1d7d 2c64>27d 2c67-2c6b/2>2c68",
   "2c6d>251 2c6e>271 2c6f>250 2c70>252 2c72>2c73 2c75>2c76 2c7e-2c7f>23f 2c80-2ce2/2>2c81",
   "2ceb-2ced/2>2cec 2cf2>2cf3 a640-a66c/2>a641 a680-a69a/2>a681 a722-a72e/2>a723",
   "a732-a76e/2>a733 a779-a77b/2>a77a a77d>1d79 a77e-a786/2>a77f a78b>a78c a78d>265",
   "a790-a792/2>a791 a796-a7a8/2>a797 a7aa>266 a7ab>25c a7ac>261 a7ad>26c a7ae>26a a7b0>29e",
   "a7b1>287 a7b2>29d a7b3>ab53 a7b4-a7c2/2>a7b5 a7c4>a794 a7c5>282 a7c6>1d8e a7c7-a7c9/2>a7c8",
   "a7cb>264 a7cc>a7cd a7d0>a7d1 a7d6-a7da/2>a7d7 a7dc>19b a7f5>a7f6 ff21-ff3a>ff41",
   "10400-10427>10428 104b0-104d3>104d8 10570-1057a>10597 1057c-1058a>105a3 1058c-10592>105b3",
   "10594-10595>105bb 10c80-10cb2>10cc0 10d50-10d65>10d70 118a0-118bf>118c0 16e40-16e5f>16e60",
   "1e900-1e921>1e922"]

/-- The classes of characters equal up to case that are more than a character and its lower-case
partner. -/
def classTable : List String :=
  ["4b+6b+212a 53+73+17f b5+39c+3bc c5+e5+212b 1c4+1c5+1c6 1c7+1c8+1c9 1ca+1cb+1cc 1f1+1f2+1f3",
   "345+399+3b9+1fbe 390+1fd3 392+3b2+3d0 395+3b5+3f5 398+3b8+3d1+3f4 39a+3ba+3f0 3a0+3c0+3d6",
   "3a1+3c1+3f1 3a3+3c2+3c3 3a6+3c6+3d5 3a9+3c9+2126 3b0+1fe3 412+432+1c80 414+434+1c81",
   "41e+43e+1c82 421+441+1c83 422+442+1c84+1c85 42a+44a+1c86 462+463+1c87 1c88+a64a+a64b",
   "1e60+1e61+1e9b fb05+fb06"]

/-- A run of characters with lower-case partners. -/
structure Run where
  first : Nat
  last : Nat
  step : Nat
  target : Nat

/-- The run that a word of the table stands for. -/
def Run.ofWord (word : List Char) : Run :=
  let source := word.takeWhile (· != '>')
  let span := source.takeWhile (· != '/')
  let first := Intervals.hex (span.takeWhile (· != '-'))
  let last := match span.dropWhile (· != '-') with
    | [] => first
    | _ :: r => Intervals.hex r
  { first, last
    step := if source.contains '/' then 2 else 1
    target := Intervals.hex ((word.dropWhile (· != '>')).drop 1) }

/-- The runs that a table lists. -/
def runsOf (table : List String) : List Run :=
  table.flatMap fun line => (Intervals.wordsFrom [] line.toList).map Run.ofWord

/-- Every run. -/
def runs : List Run := runsOf lowerTable

/-- The pieces of a word between plus signs. -/
def plusFrom (current : List Char) : List Char → List (List Char)
  | [] => [current.reverse]
  | c :: r => if c = '+' then current.reverse :: plusFrom [] r else plusFrom (c :: current) r

/-- The classes of three characters or more, and those of two that are no pair of upper and lower
case. -/
def classes : List (List Nat) :=
  classTable.flatMap fun line =>
    (Intervals.wordsFrom [] line.toList).map fun word => (plusFrom [] word).map Intervals.hex

/-- The partner of `n` in a run, if `n` is in it. -/
def Run.image? (run : Run) (n : Nat) : Option Nat :=
  if run.first ≤ n && n ≤ run.last && (n - run.first) % run.step == 0 then
    some (n - run.first + run.target)
  else none

/-- The member of a run whose partner is `n`. -/
def Run.invert? (run : Run) (n : Nat) : Option Nat :=
  if run.target ≤ n && n - run.target ≤ run.last - run.first &&
      (n - run.target) % run.step == 0 then
    some (n - run.target + run.first)
  else none

/-- The lower-case partner of a character; a character without one is its own. -/
def lower (c : Char) : Char :=
  if c.toNat < 0x80 then c.toLower
  else match runs.findSome? (·.image? c.toNat) with
    | some n => Char.ofNat n
    | none => c

/-- The characters, other than `c`, whose lower-case partner is `c`. -/
def raised (c : Char) : List Char :=
  (runs.filterMap (·.invert? c.toNat)).map Char.ofNat

/-- The characters that differ from `c` in case only, `c` itself left out. Two letters of the
basic Latin alphabet have a third partner outside it: the Kelvin sign and the long s. -/
def equivalents (c : Char) : List Char :=
  if c.toNat < 0x80 then
    if c = 'k' then ['K', '\u212a'] else if c = 'K' then ['k', '\u212a']
    else if c = 's' then ['S', '\u017f'] else if c = 'S' then ['s', '\u017f']
    else if c.isUpper then [c.toLower]
    else if c.isLower then [c.toUpper]
    else []
  else match classes.find? (·.contains c.toNat) with
    | some members => (members.filter (· != c.toNat)).map Char.ofNat
    | none => if lower c != c then [lower c] else raised c

/-- The members of a run and their partners. -/
def Run.points (run : Run) : List Nat :=
  (List.range ((run.last - run.first) / run.step + 1)).flatMap fun i =>
    [run.first + i * run.step, run.target + i * run.step]

/-- The characters that differ from another in case only, each with the one after it. -/
def cuts : List Nat :=
  (runs.flatMap Run.points ++ classes.flatten).flatMap fun n => [n, n + 1]

end RowQuery.Unicode.Casing
