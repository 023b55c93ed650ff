import TaggedPage.Text.Transliteration.Row

/-! # Greek letters

Greek and Coptic letters, with and without accents and breathings.
-/

namespace TaggedPage.Transliteration

def greekRows : List Row :=
  [.ofLines 0x370 ["H h S s - - W w - - _ s s s - J"],
   .ofLines 0x386 [
      "A - E E I - O - U O I A B G D E Z E Th I K L M N Ks O P R - S T U Ph Kh Ps O I U a e e i",
      "u a b g d e z e th i k l m n x o p r s s t u ph kh ps o i u o u o - b th U U U ph p - Q",
      "q St st W w Q q Sp sp Sh sh F f Kh kh H h G g CH ch Ti ti k r c j Th e e Sh sh S S s r S",
      "S S"],
   .ofLines 0x1F00 [
      "a a a a a a a a A A A A A A A A e e e e e e - - E E E E E E - - e e e e e e e e E E E E",
      "E E E E i i i i i i i i I I I I I I I I o o o o o o - - O O O O O O - - u u u u u u u u",
      "- U - U - U - U o o o o o o o o O O O O O O O O a a e e e e i i o o u u o o - - a a a a",
      "a a a a A A A A A A A A e e e e e e e e E E E E E E E E o o o o o o o o O O O O O O O O",
      "a a a a a - a a A A A A A - i - - - e e e - e e E E E E E - - - i i i i - - i i I I I I",
      "- - - - u u u u r r u u U U U U R - - - - - o o o - o o O O O O O"]]

end TaggedPage.Transliteration
