import TaggedPage.Text.Transliteration.Row

/-! # Hangul

A syllable is a block of an initial, a medial and a final sound. The blocks are ordered by
their sounds, so that the number of a block gives the numbers of the three.
-/

namespace TaggedPage.Transliteration

/-- The single sounds, as letters of their own. -/
def hangulRows : List Row :=
  [.ofLines 0x1100 [
      "g gg n d dd r m b bb s ss _ j jj c k t p h ng nn nd nb dg rn rr rh rN mb mN bg bn bd bs",
      "bsg bst bsb bss bsj bj bc bt bp bN bbN sg sn sd sr sm sb sbg sss s sj sc sk st sp sh s",
      "ss s ss Z g d m b s Z _ j c t p N j j jj j jj ck ch c c pb pN hh Q - - - - - _ _ a ae ya",
      "yae eo e yeo ye o wa wae oe yo u weo we wi yu eu yi i a-o a-u ya-o ya-yo eo-o eo-u eo-eu",
      "yeo-o yeo-u o-eo o-e o-ye o-o o-u yo-ya yo-yae yo-yeo yo-o yo-i u-a u-ae u-eo-eu u-ye",
      "u-u yu-a yu-eo yu-e yu-yeo yu-ye yu-u yu-i eu-u eu-eu yi-u i-a i-ya i-o i-u i-eu i-U U",
      "U-eo U-u U-i UU - - - - - g gg gs n nj nh d l lg lm lb ls lt lp lh m b bs s ss ng j c k",
      "t p h gl gsg ng nd ns nZ nt dg tl lgs ln ld lth ll lmg lms lbs lbh rNp lss lZ lk lQ mg",
      "ml mb ms mss mZ mc mh mN bl bp ph pN sg sd sl sb Z g ss _ kh N Ns NZ pb pN hn hl hm hb Q"],
   .ofLines 0x3131 [
      "g gg gs n nj nh d dd r lg lm lb ls lt lp rh m b bb bs s ss _ j jj c k t p h a ae ya yae",
      "eo e yeo ye o wa wae oe yo u weo we wi yu eu yi i _ nn nd ns nZ lgs ld lbs lZ lQ mb ms",
      "mZ mN bg bd bsg bst bj bt bN bbN sg sn sd sb sj Z _ N Ns NZ pN hh Q yo-ya yo-yae yo-i",
      "yu-yeo yu-ye yu-i U U-i"]]

namespace Hangul

/-- The sounds at the beginning of a syllable, one of which is silent. -/
def initials : List String :=
  ["g", "gg", "n", "d", "dd", "r", "m", "b", "bb", "s", "ss", "", "j", "jj", "c", "k", "t", "p",
   "h"]

/-- The vowels. -/
def medials : List String :=
  ["a", "ae", "ya", "yae", "eo", "e", "yeo", "ye", "o", "wa", "wae", "oe", "yo", "u", "weo", "we",
   "wi", "yu", "eu", "yi", "i"]

/-- The sounds at the end of a syllable, beginning with none. -/
def finals : List String :=
  ["", "g", "gg", "gs", "n", "nj", "nh", "d", "l", "lg", "lm", "lb", "ls", "lt", "lp", "lh", "m",
   "b", "bs", "s", "ss", "ng", "j", "c", "k", "t", "p", "h"]

def first : Nat := 0xAC00

def count : Nat := initials.length * medials.length * finals.length

def syllable? (n : Nat) : Option String := do
  if n < first ∨ first + count ≤ n then none
  else
    let block := n - first
    let initial ← initials[block / (medials.length * finals.length)]?
    let medial ← medials[block / finals.length % medials.length]?
    let final ← finals[block % finals.length]?
    return initial ++ medial ++ final

end Hangul

end TaggedPage.Transliteration
