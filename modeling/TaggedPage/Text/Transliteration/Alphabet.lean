import TaggedPage.Text.Transliteration.Row

/-! # Further alphabets

Scripts of antiquity and of single peoples in which each sign stands for one sound.
-/

namespace TaggedPage.Transliteration

def alphabetRows : List Row :=
  [.ofLines 0x7CA ["a e i e u o o n' n b p t j ch d r rr s gb f k l n m ny n h w y ny j ny r"],
   .ofLines 0x801 ["b g d h w z h t y k l m n s - f ts q r sh t"],
   .ofLines 0x840 ["a b g d h u z h t i k l m n s e p s q r sh t sh k"],
   .ofLines 0x1C80 ["v d o s t t - e u"],
   .ofLines 0x2C00 [
      "A B V G D E Zh Dz Z I I I Dj K L M N O P R S T U F H O P Sht Ts Ch Sh U I E H Yu E E Yo",
      "Ye O Yo F Y - A M Ch a b v g d e zh dz z i i i dj k l m n o p r s t u f h o p sht ts ch",
      "sh u i e h yu e e yo ye o yo f y - a m ch"],
   .ofLines 0x2C80 [
      "A a B b G g D d E e 6 6 Z z E e Th th I i K k L l M m N n Ks ks O o P p R r S s T t U u",
      "Ph ph Kh kh Ps ps O o"],
   .ofLines 0x2D30 [
      "a b bh g ghh j j d dh dd ddh ey f k k khh h h h hh a kh kh q q i zh zh zh l m n gn ng p",
      "u r rr gh gh gh s ss sh t th ch tt v w y z z zz"],
   .ofLines 0x2DE0 [
      "b v g d zh z k l m n o p r s t kh ts ch sh shch f st a e dj u ie iu ia io io"],
   .ofLines 0xA4D0 [
      "b p ph d t th g k kh j c ch z ts tsh m n l s zh z ng h x h f w sh y gh a ae e eu i o u",
      "ue u oe"],
   .ofLines 0xA640 [
      "Z z Dz dz Dz dz I i Dj dj U u O o - - Y y Ye ye Yu yu Ya ya E e E e Ye ye Yn yn Ts ts D",
      "d L l M m O o O o O o O"],
   .ofLines 0xA680 [
      "Dw dw Dzw dzw Zhw zhw Ch ch Dzz dzz T t Tw tw Tsw tsw Ts ts Ch ch Hw hw Shw shw O o O o"],
   .ofLines 0x10300 [
      "A B G D E V Z H Th I K L M N S O P Sh Q R S T U X Ph Kh F Rs Ch I U - 1 5 10 50 - - - -",
      "- - - - - - - - A B G D E Q Z H Th I K L M N J U P 90 R S T W F X Hw O 900"],
   .ofLines 0x10381 [
      "b g kh d h w z h t y k sh l m dh n z s - p s q r th gh t i u s - - a i u ka ku ga gu xa",
      "ca ja ji ta tu da di du tha pa ba fa na nu ma mi mu ya va vi ra ru la sa za sha ssa ha -",
      "- - - auramazdaa auramazdaa auramazdaaha xshaayathiya dahyaaush dahyaaush baga buumish"],
   .ofLines 0x10400 [
      "I E A Ah O Oo I E A O U Oo Ay Ow W Y H P B T D Ch J K G F V Th Dh S Z Sh Zh R L M N Ng",
      "Oi Ew i e a ah o oo i e a o u oo ay ow w y h p b t d ch j k g f v th dh s z sh zh r l m",
      "n ng oi ew p t k f th s sh ch y ng b d g v dh z zh j w h l m i e a - o u ow ah r n ee ay",
      "ai u o oo oi aw ar or air er ar ear ia yu"],
   .ofLines 0x104B0 [
      "A Ai Ain Ah Br Ch Hch E Ein H Hy I K Hk Ky L M N O Oin P Hp S Sh T Ht Ts Hts Tsh Dh U W",
      "Kh Gh Z Zh - - - - a ai ain ah br ch hch e ein h hy i k hk ky l m n o oin p hp s sh t ht",
      "ts hts tsh dh u w kh gh z zh"],
   .ofLines 0x10841 ["b g d h w z h t y k l m n s - p s q r s t"],
   .ofLines 0x10901 ["b g d h w z h t y k l m n s - p s q r s t 1 10 20 100 2 3"],
   .ofLines 0x1E900 [
      "A D L M B S P Bh R E F I O Dh Yh W N K Y U J Ch H Q G Ny T Nh V Kh Gb Z Kp Sh a d l m b",
      "s p bh r e f i o dh yh w n k y u j ch h q g ny t nh v kh gb z kp sh"]]

end TaggedPage.Transliteration
