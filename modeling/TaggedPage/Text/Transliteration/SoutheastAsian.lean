import TaggedPage.Text.Transliteration.Row

/-! # Thai, Lao, Tibetan, Burmese and Khmer letters

Consonants and vowel signs are spelled one by one in the order in which they are
stored; tone marks are silent.
-/

namespace TaggedPage.Transliteration

def southeastAsianRows : List Row :=
  [.ofLines 0xE01 [
      "k kh kh kh kh kh ng cch ch ch ch ch y d t th th th n d t th th th n b p ph f ph f ph m y",
      "r R l L w s s s h l - h - a a aa am i ii ue uue u uu"],
   .ofLines 0xE3F ["Bh. e ae o ai ai ao - _ _ _ _ _ _ M _ - 0 1 2 3 4 5 6 7 8 9"],
   .ofLines 0xE81 [
      "k kh - kh - - ng ch - s - - ny - - - - - - d t th th - n b p ph f ph f - m y r - l - w -",
      "- s h - - - - a _ aa am i ii y yy u uu - o l ny - - e ei o ay ai - - - _ _ _ _ _ M - - 0",
      "1 2 3 4 5 6 7 8 9 - - hn hm"],
   .ofLines 0xF00 ["AUM"],
   .ofLines 0xF20 [
      "0 1 2 3 4 5 6 7 8 9 .5 1.5 2.5 3.5 4.5 5.5 6.5 7.5 8.5 -.5 - - - - - - - - - - - - k kh",
      "g gh ng c ch j - ny tt tth dd ddh nn t th d dh n p ph b bh m ts tsh dz dzh w zh z - y r",
      "l sh ss s h a kss r kk r - - - - aa i ii u uu R RR L LL e ee o oo M H i ii _ _ _ - _ _ -",
      "- - - - _ _ _ k kh g gh ng c ch j - ny tt tth dd ddh nn t th d dh n p ph b bh m ts tsh",
      "dz dzh w zh z - y r l sh ss s h a kss w y r"],
   .ofLines 0x1000 [
      "k kh g gh ng c ch j jh ny nny tt tth dd ddh nn tt th d dh n p ph b bh m y r l w s h ll a",
      "a i ii u uu e e o au aa aa i ii u uu e ai ii o e N - - _ _ y r w h s 0 1 2 3 4 5 6 7 8 9",
      "- - n* r* l* e* sh ss R RR L LL R RR L LL"],
   .ofLines 0x1780 [
      "k kh g gh ng c ch j jh ny t tth d ddh nn t th d dh n p ph b bh m y r l v sh ss s h l q a",
      "aa i ii u uk uu uuv ry ryy ly lyy e ai oo oo au a aa aa i ii y yy u uu ua oe ya ie e ae",
      "ai oo au M H a` _ _ _ r _ - _ _ _ _ _ - - - - - - - KR"],
   .ofLines 0x17E0 ["0 1 2 3 4 5 6 7 8 9"]]

end TaggedPage.Transliteration
