import TaggedPage.Text.Transliteration.Row

/-! # Hebrew, Arabic, Syriac and Thaana letters

Consonants are spelled one by one; vowels count only where they are written. The
positional forms of letters are spelled like the letters.
-/

namespace TaggedPage.Transliteration

/-- The letters of the scripts that are written from right to left. -/
def semiticRows : List Row :=
  [.ofLines 0x5B1 [
      "e a o i e e a a o o u - _ - - _ - _ _ _ - _ a - - - - - - - - _ b g d h v z kh t y k k l",
      "m m n n s - p p ts ts q r sh t - - - - - V oy i"],
   .ofLines 0x621 [
      "_ a - w' _ y' _ b - t th j H kh d dh r z s sh S D T Z - G _ _ _ _ _ _ f q k l m n h w -",
      "y an un in a u i W _ _"],
   .ofLines 0x660 [
      "0 1 2 3 4 5 6 7 8 9 - - - - b q _ - - - _ - 'w 'u 'y tt tth b t T p th bh 'h H ny dy H",
      "ch cch dd D D Dt dh ddh d D D rr R R R R R R j R S S S S S T GH F F F v f ph Q Q kh k K",
      "K ng K g G N G G G L L L L N N N N N h Ch hy h H - W oe oe u yu yu W v y Y Y W e ny y y'",
      "- ae _ _ _ _ _ _ _ - - _ _ _ _ _ _ _ _ _ _ - _ _ _ _ d r 0 1 2 3 4 5 6 7 8 9 Sh D Gh -",
      "+m h"],
   .ofLines 0x70F [
      "_ - _ b g g d d h w z H t t y yh k l m n s s - p p S q r sh t _ _ _ a a a A A A e e e E",
      "i i u u u o _ - - _ _ X Q"],
   .ofLines 0x780 [
      "h sh n r b L k - v m f dh th l g ny s d z t y p j ch tt hh kh th z sh s d t z - gh q w a",
      "aa i ee u oo e ey o oa _ n"],
   .ofLines 0xFB1D [
      "yi - ia - _ d h k l m r t - sh| sh sh'| sh' a a - b' g' d' h' v' z' - t' y' k' k' l' -",
      "m' - n' s' - p' p' - ts' q' r' sh' t' vo b- k- p- l - - b b b b p p p p bh bh bh bh tth",
      "tth tth tth th th th th tt tt tt tt v v v v ph ph ph ph dy dy dy dy ny ny ny ny ch ch ch",
      "ch cch cch cch cch ddh ddh dh dh d d dd dd j j rr rr kh kh kh kh g g g g G G G G N N N N",
      "N N N N N N hy hy h h h h h h h h y y y' y'"],
   .ofLines 0xFBD3 [
      "ng ng ng ng u u oe oe yu yu u v v oe oe yu yu e e e e - - y' y' y'ae y'ae y'w y'w y'u",
      "y'u y'oe y'oe y'yu y'yu y'e y'e y'e y'~ y'~ y'~ y y y y y'j y'H y'm y'~ y'y bj bH bkh bm",
      "b~ by tj tH tkh tm t~ ty thj thm th~ thy jH jm Hj Hm khj khH khm sj sH skh sm SH Sm Dj",
      "DH Dkh Dm TH Tm Zm `j `m Gj Gm fj fH fkh fm f~ fy qH qm q~ qy k kj kH kkh kl km k~ ky lj",
      "lH lkh lm l~ ly mj mH mkh mm m~ my nj nH nkh nm n~ ny hj hm h~ hy yj yH ykh ym y~ yy dh",
      "r - ~unW ~inW ~aW ~uW ~iW ~W y'r y'z y'm y'n y'~ y'y br bz bm bn b~ by tr tz tm tn t~ ty",
      "thr thz thm thn th~ thy f~ fy q~ qy k kl km k~ ky lm l~ ly m mm nr nz nm nn n~ ny - yr",
      "yz ym yn y~ yy y'j y'H y'kh y'm y'h bj bH bkh bm bh tj tH tkh tm th thm jH jm Hj Hm khj",
      "khm sj sH skh sm SH Skh Sm Dj DH Dkh Dm TH Zm `j `m Gj Gm fj fH fkh fm qH qm kj kH kkh",
      "kl km lj lH lkh lm lh mj mH mkh mm nj nH nkh nm nh hj hm h yj yH ykh ym yh y'm y'h bm bh",
      "tm th thm thh sm sh shm shh kl km lm nm nh ym yh aW uW iW T~ Ty - `y G~ Gy s~ sy sh~ shy",
      "H~ Hy j~ jy kh~ khy S~ Sy D~ Dy shj shH shkh shm shr sr Sr Dr T~ Ty - `y G~ Gy s~ sy sh~",
      "shy H~ Hy j~ jy kh~ khy S~ Sy D~ Dy shj shH shkh shm shr sr Sr Dr shj shH shkh shm sh",
      "shh Tm sj sH skh shj shH shkh Tm Zm an an"],
   .ofLines 0xFD50 [
      "tjm tHj tHj tHm tkhm tmj tmH tmkh jmH jmH Hmy Hm~ sHj sjH sj~ smH smH smj smm smm SHH",
      "SHH Smm shHm shHm shjy shmkh shmkh shmm shmm DH~ Dkhm Dkhm TmH TmH Tmm Tmy `jm `mm `mm",
      "`m~ Gmm Gmy Gm~ fkhm fkhm qmH qmm lHm lHy lH~ ljj ljj lkhm lkhm lmH lmH mHj mHm mHy mjH",
      "mjm mkhj mkhm - - mjkh hmj hmm nHm nH~ njm njm nj~ nmy nm~ ymm ymm bkhy tjy tj~ tkhy",
      "tkh~ tmy tm~ jmy jH~ jm~ skh~ SHy shHy DHy ljy lmy yHy yjy ymy mmy qmy nHy qmH lHm `my",
      "kmy njH mkhy ljm kmm ljm njH jHy Hjy mjy fmy bHy kmm `jm Smm skhy njy"],
   .ofLines 0xFDF0 ["Sly qly llh kbr mHmd Sl`m rswl `lyh wslm Sl~ Sl~llh~`lyh~wslm jl~jllh ryl"],
   .ofLines 0xFE70 [
      "~an an ~un - ~in - ~a a ~u u ~i i ~W W - _ _ a a - - w' w' _ _ y' y' y' y' _ _ b b b b -",
      "- t t t t th th th th j j j j H H H H kh kh kh kh d d dh dh r r z z s s s s sh sh sh sh",
      "S S S S D D D D T T T T Z Z Z Z - - - - G G G G f f f f q q q q k k k k l l l l m m m m",
      "n n n n h h h h w w - - y y y y la la l' l' l l l l"]]

end TaggedPage.Transliteration
