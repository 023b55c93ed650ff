import TaggedPage.Text.Transliteration.Row

/-! # Cyrillic letters

The letters of the Slavic languages and of the other languages in Cyrillic script. The
hard and the soft sign are apostrophes.
-/

namespace TaggedPage.Transliteration

def cyrillicRows : List Row :=
  [.ofLines 0x400 [
      "Ie Io Dj Gj E Dz I Yi J Lj Nj Tsh Kj I U Dzh A B V G D E Zh Z I I K L M N O P R S T U F",
      "Kh Ts Ch Sh Shch - Y - E Iu Ia a b v g d e zh z i i k l m n o p r s t u f kh ts ch sh",
      "shch - y - e iu ia ie io dj gj ie dz i yi j lj nj tsh kj i u dzh O o E e Ie ie E e Ie ie",
      "O o Io io Ks ks Ps ps F f Y y Y y u u O o O o Ot ot Q q *1000* _ _ _ _ _ *100.000*",
      "*1.000.000* Jh jh - - R' r' G' g' G' g' G' g' Zh' zh' Z' z' K' k' K' k' K' k' K' k' N'",
      "n' Ng ng P' p' Kh kh S' s' T' t' U u U' u' Kh' kh' Tts tts Ch' ch' Ch' ch' H h Ch ch Ch'",
      "ch' - Zh zh K' k' Lh lh N' n' Nh nh Ch ch Mh mh i A a A a Ae ae Ie ie - - - - Zh zh Z z",
      "Dz dz I i I i O o O o O o E e U u U u U u Ch ch Gh gh Y y Gh gh Kh kh Kh kh D d Dj dj Zj",
      "zj Dzj dzj Lj lj Nj nj Sj sj Tj tj Z z L l Lh lh Rh rh Ye ye Q q W w K k L l N n Ph ph H",
      "h N n Dzh dzh Dch dch L l"]]

end TaggedPage.Transliteration
