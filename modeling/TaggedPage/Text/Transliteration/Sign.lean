import TaggedPage.Text.Transliteration.Row

/-! # Signs

Punctuation, currencies, letters used as symbols, numbers in circles and as fractions,
operators and shapes that look like letters, dice, trigrams, chess pieces, playing cards,
Braille cells, units and ligatures.
-/

namespace TaggedPage.Transliteration

/-- Signs that are spelled with letters or digits, and those that are silent. -/
def signRows : List Row :=
  [.ofLines 0x200B ["_ _ _ _ _"],
   .ofLines 0x202A ["_ _ _ _ _ - %0 %00"],
   .ofLines 0x204A ["7 PP - - - - _"],
   .ofLines 0x2060 [
      "_ _ _ _ _ - _ _ _ _ _ _ _ _ _ _ 0 i - - 4 5 6 7 8 9 - - - - - n 0 1 2 3 4 5 6 7 8 9 - -",
      "- - - - a e o x e h k l m n p s t - - - ECU CL Cr FF L mil N Pts Rs W NS D EUR K T Dr Pf",
      "P G A hrn C| L Sm T Rs L M m RB L BTC"],
   .ofLines 0x2100 [
      "a/c a/s C C CL c/o c/u E - F g H H H h h I I L l lb N No (P) P P Q R R R Rx R sm TEL tm",
      "V Z oz O O Z i K A B C e e E F F M o - - - - i Q FAX p g G P S G L L Y D d e i j - - -",
      "A/S F"],
   .ofLines 0x2150 [
      "~1/7~ ~1/9~ ~1/10~ ~1/3~ ~2/3~ ~1/5~ ~2/5~ ~3/5~ ~4/5~ ~1/6~ ~5/6~ ~1/8~ ~3/8~ ~5/8~",
      "~7/8~ ~1/ I II III IV V VI VII VIII IX X XI XII L C D M i ii iii iv v vi vii viii ix x",
      "xi xii l c d m (D D) - - c"],
   .ofLines 0x21B7 ["V - - V"],
   .ofLines 0x2200 [
      "V C d E !E 0 D V E !E E E !E E - P U S - - - - - - - - V 3V 4V - inf L - - - - - - - - v",
      "n U S SS SSS S"],
   .ofLines 0x2282 ["C - - - C"],
   .ofLines 0x22A4 ["T"],
   .ofLines 0x22BB ["v - v - - - v n U - - - - - - - - - - - - C"],
   .ofLines 0x2460 [
      "1 2 3 4 5 6 7 8 9 10 11 12 13 14 15 16 17 18 19 20 (1) (2) (3) (4) (5) (6) (7) (8) (9)",
      "(10) (11) (12) (13) (14) (15) (16) (17) (18) (19) (20) 1. 2. 3. 4. 5. 6. 7. 8. 9. 10.",
      "11. 12. 13. 14. 15. 16. 17. 18. 19. 20. (a) (b) (c) (d) (e) (f) (g) (h) (i) (j) (k) (l)",
      "(m) (n) (o) (p) (q) (r) (s) (t) (u) (v) (w) (x) (y) (z) A B C D E F G H I J K L M N O P",
      "Q R S T U V W X Y Z a b c d e f g h i j k l m n o p q r s t u v w x y z 0 11 12 13 14 15",
      "16 17 18 19 20 1 2 3 4 5 6 7 8 9 10 0"],
   .ofLines 0x2573 ["X"],
   .ofLines 0x25BC ["V V V V"],
   .ofLines 0x2607 [
      "lightning~ thunderstorm~ sun~ - - conjunction~ opposition~ - telephone~ - v x x - - - -",
      "- - - - - - - - skull~ caution~ - - caduceus~ ankh~ orthodox~cross~ chi~rho~",
      "cross~of~lorraine~ cross~of~jerusalem~ - farsi~ adi~shakti~ hammer~and~sickle~ - -",
      "heaven~ lake~ fire~ thunder~ wind~ water~ mountain~ earth~ - - - smiling~face~ sun~",
      "moon~ moon~ mercury~ - earth~ - jupiter~ saturn~ uranus~ neptune~ pluto~ - - - - - - - -",
      "- - - - king~ queen~ rook~ bishop~ knight~ pawn~ king~ queen~ rook~ bishop~ knight~",
      "pawn~ - heart~ diamond~ - spade~ - - club~ - - - - - b"],
   .ofLines 0x2680 ["1 2 3 4 5 6 - - - - - - - - - - flag~ flag~"],
   .ofLines 0x26CC ["X"],
   .ofLines 0x2701 [
      "scissors~ - scissors~ scissors~ - telephone~ tape~ - - - - - - pencil~ - pencil~ nib~ -",
      "v v x x x x"],
   .ofLines 0x2740 ["florette~ florette~"],
   .ofLines 0x2745 ["snowflake~ snowflake~"],
   .ofLines 0x2765 [
      "heart~ floral~heart~ floral~heart~ - - - - - - - - - - - - - - 1 2 3 4 5 6 7 8 9 10 1 2",
      "3 4 5 6 7 8 9 10 1 2 3 4 5 6 7 8 9 10"],
   .ofLines 0x2801 [
      "a - b - k - l - c i f - m s p - e - h - o - r - d j g - n t q - - - - - u - v - - - - -",
      "x - - - - - - - z - - - - w - - y"],
   .ofLines 0x2840 [
      "[d7] [d17] [d27] [d127] [d37] [d137] [d237] [d1237] [d47] [d147] [d247] [d1247] [d347]",
      "[d1347] [d2347] [d12347] [d57] [d157] [d257] [d1257] [d357] [d1357] [d2357] [d12357]",
      "[d457] [d1457] [d2457] [d12457] [d3457] [d13457] [d23457] [d123457] [d67] [d167] [d267]",
      "[d1267] [d367] [d1367] [d2367] [d12367] [d467] [d1467] [d2467] [d12467] [d3467] [d13467]",
      "[d23467] [d123467] [d567] [d1567] [d2567] [d12567] [d3567] [d13567] [d23567] [d123567]",
      "[d4567] [d14567] [d24567] [d124567] [d34567] [d134567] [d234567] [d1234567] [d8] [d18]",
      "[d28] [d128] [d38] [d138] [d238] [d1238] [d48] [d148] [d248] [d1248] [d348] [d1348]",
      "[d2348] [d12348] [d58] [d158] [d258] [d1258] [d358] [d1358] [d2358] [d12358] [d458]",
      "[d1458] [d2458] [d12458] [d3458] [d13458] [d23458] [d123458] [d68] [d168] [d268] [d1268]",
      "[d368] [d1368] [d2368] [d12368] [d468] [d1468] [d2468] [d12468] [d3468] [d13468]",
      "[d23468] [d123468] [d568] [d1568] [d2568] [d12568] [d3568] [d13568] [d23568] [d123568]",
      "[d4568] [d14568] [d24568] [d124568] [d34568] [d134568] [d234568] [d1234568] [d78] [d178]",
      "[d278] [d1278] [d378] [d1378] [d2378] [d12378] [d478] [d1478] [d2478] [d12478] [d3478]",
      "[d13478] [d23478] [d123478] [d578] [d1578] [d2578] [d12578] [d3578] [d13578] [d23578]",
      "[d123578] [d4578] [d14578] [d24578] [d124578] [d34578] [d134578] [d234578] [d1234578]",
      "[d678] [d1678] [d2678] [d12678] [d3678] [d13678] [d23678] [d123678] [d4678] [d14678]",
      "[d24678] [d124678] [d34678] [d134678] [d234678] [d1234678] [d5678] [d15678] [d25678]",
      "[d125678] [d35678] [d135678] [d235678] [d1235678] [d45678] [d145678] [d245678]",
      "[d1245678] [d345678] [d1345678] [d2345678] [d12345678]"],
   .ofLines 0x2BBD ["x x"],
   .ofLines 0x3004 ["[JIS] - - 0 - - - - - - - - - - - X~"],
   .ofLines 0x3021 ["1 2 3 4 5 6 7 8 9"],
   .ofLines 0x3200 [
      "(g) (n) (d) (r) (m) (b) (s) - (j) (c) (k) (t) (p) (h) (ga) (na) (da) (ra) (ma) (ba) (sa)",
      "(a) (ja) (ca) (ka) (ta) (pa) (ha) (ju) (ojeon) (ohu) - (1)~ (2)~ (3)~ (4)~ (5)~ (6)~",
      "(7)~ (8)~ (9)~ (10)~ (Yue)~ (Huo)~ (Shui)~ (Mu)~ (Jin)~ (Tu)~ (Ri)~ (Zhu)~ (You)~ (She)~",
      "(Ming)~ (Te)~ (Cai)~ (Zhu)~ (Lao)~ (Dai)~ (Hu)~ (Xue)~ (Jian)~ (Qi)~ (Zi)~ (Xie)~ (Ji)~",
      "(Xiu)~"],
   .ofLines 0x3248 [
      "10 20 30 40 50 60 70 80 PTE 21 22 23 24 25 26 27 28 29 30 31 32 33 34 35 (g) (n) (d) (r)",
      "(m) (b) (s) - (j) (c) (k) (t) (p) (h) (ga) (na) (da) (ra) (ma) (ba) (sa) (a) (ja) (ca)",
      "(ka) (ta) (pa) (ha) chamgo jueui u KIS~ (1)~ (2)~ (3)~ (4)~ (5)~ (6)~ (7)~ (8)~ (9)~",
      "(10)~ (Yue)~ (Huo)~ (Shui)~ (Mu)~ (Jin)~ (Tu)~ (Ri)~ (Zhu)~ (You)~ (She)~ (Ming)~ (Te)~",
      "(Cai)~ (Zhu)~ (Lao)~ (Mi)~ (Nan)~ (Nu)~ (Shi)~ (You)~ (Yin)~ (Zhu)~ (Xiang)~ (Xiu)~",
      "(Xie)~ (Zheng)~ (Shang)~ (Zhong)~ (Xia)~ (Zuo)~ (You)~ (Yi)~ (Zong)~ (Xue)~ (Jian)~",
      "(Qi)~ (Zi)~ (Xie)~ (Ye)~ 36 37 38 39 40 41 42 43 44 45 46 47 48 49 50 1M 2M 3M 4M 5M 6M",
      "7M 8M 9M 10M 11M 12M Hg erg eV LTD a i u e o ka ki ku ke ko sa si su se so ta ti tu te",
      "to na ni nu ne no ha hi hu he ho ma mi mu me mo ya yu yo ra ri ru re ro wa wi we wo",
      "Reiwa apartment alpha ampere are inning inch won escudo acre ounce ohm kai-ri carat",
      "calorie gallon gamma giga guinea curie guilder kilo kilogram kilometer kilowatt gram",
      "gram~ton cruzeiro krone case koruna co-op cycle centime shilling centi cent dozen desi",
      "dollar ton nano knot heights percent parts barrel piaster picul pico building farad feet",
      "bushel franc hectare peso pfennig hertz pence page beta point volt hon pound hall horn",
      "micro mile mach mark mansion micron milli millibar mega megaton meter yard yard yuan",
      "liter lira rupee ruble rem roentgen watt 0h 1h 2h 3h 4h 5h 6h 7h 8h 9h 10h 11h 12h 13h",
      "14h 15h 16h 17h 18h 19h 20h 21h 22h 23h 24h HPA da AU bar oV pc dm dm^2 dm^3 IU Heisei",
      "Syouwa Taisyou Meiji Inc. pA nA microamp mA kA kB MB GB cal kcal pF nF microFarad",
      "microgram mg kg Hz kHz MHz GHz THz microliter ml dl kl fm nm micrometer mm cm km mm^2",
      "cm^2 m^2 km^2 mm^4 cm^3 m^3 km^3 m/s m/s^2 Pa kPa MPa GPa rad rad/s rad/s^2 ps ns",
      "microsecond ms pV nV microvolt mV kV MV pW nW microwatt mW kW MW kOhm MOhm a.m. Bq cc cd",
      "C/kg Co. dB Gy ha HP in K.K. KM kt lm ln log lx mb mil mol pH p.m. PPM PR sr Sv Wb V/m",
      "A/m 1d 2d 3d 4d 5d 6d 7d 8d 9d 10d 11d 12d 13d 14d 15d 16d 17d 18d 19d 20d 21d 22d 23d",
      "24d 25d 26d 27d 28d 29d 30d 31d gal"],
   .ofLines 0xFB00 ["ff fi fl ffi ffl st st - - - - - - - - - - - - mn me mi vn mkh"],
   .ofLines 0xFFE0 ["/C PS - - - Y= W="],
   .ofLines 0x1F0A1 [
      "AS 2S 3S 4S 5S 6S 7S 8S 9S 10S JS CS QS KS - - AH 2H 3H 4H 5H 6H 7H 8H 9H 10H JH CH QH",
      "KH - - AD 2D 3D 4D 5D 6D 7D 8D 9D 10D JD CD QD KD joker - AC 2C 3C 4C 5C 6C 7C 8C 9C 10C",
      "JC CC QC KC"],
   .ofLines 0x1F100 ["0. 0, 1, 2, 3, 4, 5, 6, 7, 8, 9,"],
   .ofLines 0x1F12A ["[S] (C) (R) CD WZ"],
   .ofLines 0x1F14A ["HV MV SD SS PPV WC"],
   .ofLines 0x1F16A ["MC MD MR"],
   .ofLines 0x1F18B ["IC PA SA - WC DJ"],
   .ofLines 0x1F700 ["QE"]]

end TaggedPage.Transliteration
