import TaggedPage.Text.Transliteration.Row

/-! # Armenian and Georgian letters

The capital and small letters of both scripts; aspirated sounds are marked by a
backquote and ejective ones by an apostrophe.
-/

namespace TaggedPage.Transliteration

def caucasianRows : List Row :=
  [.ofLines 0x531 [
      "A B G D E Z E E T` Zh I L Kh Ts K H Dz Gh Ch M Y N Sh O Ch` P J Rh S V T R Ts` W P` K` O",
      "F"],
   .ofLines 0x561 [
      "a b g d e z e e t` zh i l kh ts k h dz gh ch m y n sh o ch` p j rh s v t r ts` w p` k` o",
      "f ew"],
   .ofLines 0x10A0 [
      "A B G D E V Z T` I K L M N O P Zh R S T U P` K` G' Q Sh Ch` C` Z' C Ch X J H E Y W Xh OE",
      "- - - - - - - - - - a b g d e v z t` i k l m n o p zh r s t u p` k` g' q sh ch` c` z' c",
      "ch x j h e y w xh oe f"],
   .ofLines 0x1C90 [
      "A B G D E V Z T` I K L M N O P Zh R S T U P` K` G' Q Sh Ch` C` Z' C Ch X J H E Y W Xh OE",
      "F"],
   .ofLines 0x2D00 [
      "a b g d e v z t` i k l m n o p zh r s t u p` k` g' q sh ch` c` z' c ch x j h e y w xh oe"]]

end TaggedPage.Transliteration
