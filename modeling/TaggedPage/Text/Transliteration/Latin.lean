import TaggedPage.Text.Transliteration.Row

/-! # Latin letters

The letters of Latin script beyond ASCII, among them those of phonetic writing, and the
small letters that are written above others.
-/

namespace TaggedPage.Transliteration

def latinRows : List Row :=
  [.ofLines 0xA2 [
      "C/ PS - Y= - SS - (c) a - - _ (r) - deg - 2 3 - u P - - 1 o - 1/4 1/2 3/4 - A A A A A A",
      "AE C E E E E I I I I D N O O O O O x O U U U U Y Th ss a a a a a a ae c e e e e i i i i",
      "d n o o o o o - o u u u u y th y A a A a A a C c C c C c C c D d D d E e E e E e E e E e",
      "G g G g G g G g H h H h I i I i I i I i I i IJ ij J j K k k L l L l L l L l L l N n N n",
      "N n 'n NG ng O o O o O o OE oe R r R r R r S s S s S s S s T t T t T t U u U u U u U u U",
      "u U u W w Y y Y Z z Z z Z z s b B B b 6 6 O C c D D D d d 3 - E F f G G hv I I K k l l W",
      "N n O O o OI oi P p YR 2 2 SH sh t T t T U u Y V Y y Z z ZH ZH zh zh 2 5 5 ts w - - - -",
      "DZ Dz dz LJ Lj lj NJ Nj nj A a I i O o U u U u U u U u U u - A a A a AE ae G g G g K k O",
      "o O o ZH zh j DZ Dz dz G g HV W N n A a AE ae O o A a A a E e E e I i I i O o O o R r R",
      "r U u U u S s T t Y y H h N d OU ou Z z A a E e O o O o O o O o Y y l n t j db qp A C c",
      "L T s z - - B U - E e J j Q q R r Y y a a a b o c d d e - - e e e e j g g g g u Y h h i",
      "i I l l l lZ W W m n n n o OE O F r r r r r r r R R s S j S S t t U U v - w y Y z z Z Z",
      "- - - C - B E G H j k L q - - dz dZ dz ts tS tC fN ls lz WW - h h h h j r r r r w y"],
   .ofLines 0x2C5 ["V - V - - - - - _ - - - - - - - V - - V - - - - - R X G l s x"],
   .ofLines 0x363 ["a e i o u c d h m r t v x"],
   .ofLines 0x1D00 [
      "a ae ae b c d d e e i j k l m n o o o o o oe ou o o p r r t u u - m v w z zh - - g l p r",
      "ps l A AE B B D E E G H I J K L M N N O OU P R T U W a a a ae b d e e e e g i k m ng o o",
      "o o p t u u m v - b - d - kh i r u v b g r ph kh ue b d f m n p r r s t z g - g th i i p",
      "u u b d f g k l m n p r s sh v x z a a d e e e e i o sh u zh a c c d e f j g h i i i i j",
      "l l l m m n n n o ph s sh t u u u v v z z z zh th"],
   .ofLines 0x1E00 [
      "A a B b B b B b C c D d D d D d D d D d E e E e E e E e E e F f G g H h H h H h H h H h",
      "I i I i K k K k K k L l L l L l L l M m M m M m N n N n N n N n O o O o O o O o P p P p",
      "R r R r R r R r S s S s S s S s S s T t T t T t T t U u U u U u U u U u V v V v W w W w",
      "W w W w W w X x X x Y y Z z Z z Z z h t w y a s s s Ss d A a A a A a A a A a A a A a A a",
      "A a A a A a A a E e E e E e E e E e E e E e E e I i I i O o O o O o O o O o O o O o O o",
      "O o O o O o O o U u U u U u U u U u U u U u Y y Y y Y y Y y LL ll V v Y y"],
   .ofLines 0x2C60 ["L l L P R a t H h K k Z z A M A A v W w v H h ph e r o E j V S Z"],
   .ofLines 0xA726 [
      "H h TZ tz - - - - - - f s AA aa AO ao AU au AV av AV av AY ay C c K k K k K k L l L l O",
      "o O o OO oo P p P p P p Q q Q q R r RUM rum V v VY vy Z z TH th TH th - - ET et IS is",
      "CON con us dum lum mum num rum rum tum um D d F f G G g L l R r S s T t - - - - - H l -",
      "N n C c c h B b F f - - - - - - G g K k N n R r S s H E G L i q K T J KH B b - - U u - -",
      "- - - - - - - - C S Z D d S s"],
   .ofLines 0xAB30 [
      "a a - e e - g l l l m n ng - - o - oe oe o o r r r - r - r r - u u ui ui u kh kh kh x x",
      "x x y - h l l u s - oe uo"]]

end TaggedPage.Transliteration
