import TaggedPage.Text.Transliteration.Row

/-! # Kana

Hiragana, Katakana in full and half width, and Bopomofo; half-width Hangul letters stand
behind half-width Katakana. A mark that lengthens a vowel is silent in full width.
-/

namespace TaggedPage.Transliteration

/-- The signs of Japanese syllabaries, and of Bopomofo. -/
def kanaRows : List Row :=
  [.ofLines 0x3038 [
      "+10+ +20+ +30+ - - - - - - a a i i u u e e o o ka ga ki gi ku gu ke ge ko go sa za shi",
      "zi su zu se ze so zo ta da chi di tsu tsu du te de to do na ni nu ne no ha ba pa hi bi",
      "pi hu bu pu he be pe ho bo po ma mi mu me mo ya ya yu yu yo yo ra ri ru re ro wa wa wi",
      "we wo n vu ka ke - - _ _ _ _ - - yori - a a i i u u e e o o ka ga ki gi ku gu ke ge ko",
      "go sa za shi zi su zu se ze so zo ta da chi di tu tsu du te de to do na ni nu ne no ha",
      "ba pa hi bi pi hu bu pu he be pe ho bo po ma mi mu me mo ya ya yu yu yo yo ra ri ru re",
      "ro wa wa wi we wo n vu ka ke va vi ve vo - _ - - koto - - - - - B P M F D T N L G K H J",
      "Q X ZH CH SH R Z C S A O E EH AI EI AU OU AN EN ANG ENG ER I U IU V NG GN"],
   .ofLines 0x31A0 [
      "BU ZI JI GU EE ENN OO ONN IR ANN INN UNN IM NGG AINN AUNN AM OM ONG INNN P T K H"],
   .ofLines 0x31F0 ["ku shi su to nu ha hi hu he ho mu ra ri ru re ro"],
   .ofLines 0xFF66 [
      "wo a i u e o ya yu yo tu - a i u e o ka ki ku ke ko sa si su se so ta ti tu te to na ni",
      "nu ne no ha hi hu he ho ma mi mu me mo ya yu yo ra ri ru re ro wa n"],
   .ofLines 0xFFA0 [
      "_ g gg gs n nj nh d dd r lg lm lb ls lt lp rh m b bb bs s ss _ j jj c k t p h - - - a ae",
      "ya yae eo e - - yeo ye o wa wae oe - - yo u weo we wi yu - - eu yi i"]]

end TaggedPage.Transliteration
