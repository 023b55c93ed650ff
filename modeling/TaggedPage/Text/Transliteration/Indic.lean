import TaggedPage.Text.Transliteration.Row

/-! # Indic letters

The scripts of India and Sri Lanka. A consonant is spelled without the vowel that it
holds when no other is written.
-/

namespace TaggedPage.Transliteration

def indicRows : List Row :=
  [.ofLines 0x901 [
      "N N H a a aa i ii u uu R L eN e e ai oN o o au k kh g gh ng c ch j jh ny tt tth dd ddh",
      "nn t th d dh n nnn p ph b bh m y r rr l l lll v sh ss s h oe ooe - - aa i ii u uu R RR",
      "eN e e ai oN o o au _ e aw AUM - - - - e ue uue q khh ghh z dddh rh f yy RR LL L LL - -",
      "0 1 2 3 4 5 6 7 8 9 - - aN oe ooe aw ue uue dd zh y gg jj stop ddd bb - N N H - a aa i",
      "ii u uu R L - - e ai - - o au k kh g gh ng c ch j jh ny tt tth dd ddh nn t th d dh n - p",
      "ph b bh m y r - l - - - sh ss s h - - - - aa i ii u uu R RR - - e ai - - o au _ t"],
   .ofLines 0x9DC [
      "rr rh - yy RR LL L LL - - 0 1 2 3 4 5 6 7 8 9 r' r` Rs Rs 1/ 2/ 3/ 4/ - /16 - - anusvar",
      "- _ - - N N H - a aa i ii u uu - - - - ee ai - - oo au k kh g gh ng c ch j jh ny tt tth",
      "dd ddh nn t th d dh n - p ph b bh m y r - l ll - v sh - s h - - - - aa i ii u uu - - - -",
      "ee ai - - oo au _ - - - _ - - - - - - - khh ghh z rr - f - - - - - - - 0 1 2 3 4 5 6 7 8",
      "9 N H _ _ G.E.O. _ - - - - - - - - - - - N N H - a aa i ii u uu R L - - e ai - - o au k",
      "kh g gh ng c ch j jh ny tt tth dd ddh nn t th d dh n - p ph b bh m ya r - l ll - v sh ss",
      "s h - - - - aa i ii u uu R RR eN - e ai oN - o au _ - - AUM"],
   .ofLines 0xAE0 ["RR LL L LL - - 0 1 2 3 4 5 6 7 8 9"],
   .ofLines 0xB01 [
      "N N H - a aa i ii u uu R L - - e ai - - o au k kh g gh ng c ch j jh ny tt tth dd ddh nn",
      "t th d dh n - p ph b bh m y r - l ll - v sh ss s h - - - - aa i ii u uu R RR - - e ai -",
      "- o au _ - - - - - - - _ - - - - - - rr rh - yy RR LL L LL - - 0 1 2 3 4 5 6 7 8 9 - w"],
   .ofLines 0xB82 [
      "N _ - a aa i ii u uu - - - e ee ai - o oo au k - - - ng c - j - ny tt - - - nn t - - - n",
      "nnn p - - - m y r rr l ll lll v sh ss s h - - - - aa i ii u uu - - - e ee ai - o oo au _"],
   .ofLines 0xBE6 [
      "0 1 2 3 4 5 6 7 8 9 +10+ +100+ +1000+ - - - - - - - - - - - - - - N N H N a aa i ii u uu",
      "R L - e ee ai - o oo au k kh g gh ng c ch j jh ny tt tth dd ddh nn t th d dh n - p ph b",
      "bh m y r rr l ll lll v sh ss s h - - - - aa i ii u uu R RR - e ee ai - o oo au _ - - - -",
      "- - - - - - ts dz rrr - - pollu - - RR LL L LL - - 0 1 2 3 4 5 6 7 8 9"],
   .ofLines 0xC82 [
      "N H - a aa i ii u uu R L - e ee ai - o oo au k kh g gh ng c ch j jh ny tt tth dd ddh nn",
      "t th d dh n - p ph b bh m y r rr l ll - v sh ss s h - - - - aa i ii u uu R RR - e ee ai",
      "- o oo au _"],
   .ofLines 0xCDD ["pollu f - RR LL L LL - - 0 1 2 3 4 5 6 7 8 9"],
   .ofLines 0xD02 [
      "N H anusvar a aa i ii u uu R L - e ee ai - o oo au k kh g gh ng c ch j jh ny tt tth dd",
      "ddh nn t th d dh n nnn p ph b bh m y r rr l ll lll v sh ss s h ttt _ _ - aa i ii u uu R",
      "RR - e ee ai - o oo au _ reph - - - - - m y lll _ - - - - - - - ii RR LL L LL - - 0 1 2",
      "3 4 5 6 7 8 9 - - - - - - - - - - nn n rr l ll k - - N H - a aa ae aae i ii u uu R RR L",
      "LL e ee ai o oo au - - - k kh g gh ng nng c ch j jh ny jny nyj tt tth dd ddh nn nndd t",
      "th d dh n - nd p ph b bh m mb y r - l - - v sh ss s h ll f - - - _ - - - - aa ae aae i",
      "ii u - uu - R e ee ai o oo au L - - - - - - 0 1 2 3 4 5 6 7 8 9 - - RR LL"]]

end TaggedPage.Transliteration
