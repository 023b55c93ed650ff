import TaggedPage.Text.Transliteration.Row

/-! # Further syllabic scripts

The scripts of the islands and hills of South and Southeast Asia, and syllabaries of Africa
and of the ancient Aegean. Consonants of the Indic kind are spelled without their vowel.
-/

namespace TaggedPage.Transliteration

def insularRows : List Row :=
  [.ofLines 0x1380 ["mwa mwi mwee mwe bwa bwi bwee bwe fwa fwi fwee fwe pwa pwi pwee pwe"],
   .ofLines 0x1700 [
      "a i u k g ng t d n p b m y r l w s h i u _ - - - - - - - - - - - a i u k g ng t d n p b",
      "m y r l w s h i u - - - - - - - - - - - - a i u k g ng t d n p b m y r l w s h i u - - -",
      "- - - - - - - - - a i u k g ng t d n p b m y - l w s - i u"],
   .ofLines 0x1901 [
      "k kh g gh ng c ch j jh yan t th d dh n p ph b bh m y r l w sh ss s h gyan tr - a i u ee",
      "ai oo au e o y r w"],
   .ofLines 0x1950 ["k x ng ts s y t th l p ph m f v h q kh tsh n a i ee eh u oo o ue e aue ai"],
   .ofLines 0x1980 [
      "q q k x ng k x ng ts s y ts s y t th n t th n p ph m p ph m f v l f v l h d b h d b kv",
      "xv kv xv su su - - - - - aa ii u uu e ae o oa ue ay aay uy oy oay uey iy v ng n m k d b"],
   .ofLines 0x1A00 [
      "k g ng ngk p b m mp t d n nr c j ny nyc y r l v s a h i u e o ae - - - - k kh kx k kx kh",
      "ng c ch c s ch ny rat rath d rath ran t th t th n b p ph f p f ph m y y r rue l lue w sh",
      "ss s h ll a h i ii u uu ee oo lae s r l lai _ ng p p m b s - _ a sat aa aa i ii ue uue u",
      "uu o below oy"],
   .ofLines 0x1B05 [
      "a aa i ii u uu r rr l ll e ai o au k kh g gh ng c ch j jh ny tt tth dd ddh nn t th d dh",
      "n p ph b bh m y r l w sh ss s h - aa i ii u uu r rr l ll e ai o au e"],
   .ofLines 0x1B83 ["a i u ae o e eu k q g ng c j z ny t d n p f v b m y r l w s x h"],
   .ofLines 0x1BC0 [
      "a a h h h b b p p n n w w w g g j d r r m m t t s s s y y ng l l ny c nd mb i u _ e e ee",
      "i i o o u sa ng h - - - - - - - - - - - - - - k kl kh g gl ng c ch j ny t th d n p pl ph",
      "f fl b bl m ml ts tsh dz y r l h hl v s sh w a y r aa i o oo u uu e"],
   .ofLines 0x1C5A [
      "la at ag ang al laa aak aaj aam aaw li is ih iny ir lu uc ud unn uy le ep edd en err lo",
      "ott ob ov oh"],
   .ofLines 0x2D80 [
      "loa moa roa soa shoa boa toa coa noa nyoa oa zoa doa ddoa joa thoa choa phoa poa ggwa",
      "ggwi ggwee ggwe - - - - - - - - - ssa ssu ssi ssaa ssee sse sso - cca ccu cci ccaa ccee",
      "cce cco - zza zzu zzi zzaa zzee zze zzo - ccha cchu cchi cchaa cchee cche ccho - qya qyu",
      "qyi qyaa qyee qye qyo - kya kyu kyi kyaa kyee kye kyo - xya xyu xyi xyaa xyee xye xyo -",
      "gya gyu gyi gyaa gyee gye gyo"],
   .ofLines 0xA500 [
      "ee een hee wee ween pee bhee bee mbee kpee mgbee gbee fee vee tee thee dhee dhhee lee",
      "ree dee ndee see shee zee zhee cee jee njee yee kee nggee gee mee nee nyee i in hi hin",
      "wi win pi bhi bi mbi kpi mgbi gbi fi vi ti thi dhi dhhi li ri di ndi si shi zi zhi ci ji",
      "nji yi ki nggi gi mi ni nyi a an ngan ha han wa wan pa bha ba mba kpa kpan mgba gba fa",
      "va ta tha dha dhha la ra da nda sa sha za zha ca ja nja ya ka kan ngga ga ma na nya oo",
      "oon hoo woo woon poo bhoo boo mboo kpoo mgboo gboo foo voo too thoo dhoo dhhoo loo roo",
      "doo ndoo soo shoo zoo zhoo coo joo njoo yoo koo nggoo goo moo noo nyoo u un hu hun wu",
      "wun pu bhu bu mbu kpu mgbu gbu fu vu tu thu dhu dhhu lu ru du ndu su shu zu zhu cu ju",
      "nju yu ku nggu gu mu nu nyu o on ngon ho hon wo won po bho bo mbo kpo mgbo gbo gbon fo",
      "vo to tho dho dhho lo ro do ndo so sho zo zho co jo njo yo ko nggo go mo no nyo e en",
      "ngen he hen we wen pe bhe be mbe kpe kpen mgbe gbe gben fe ve te the dhe dhhe le re de",
      "nde se she ze zhe ce je nje ye ke ngge nggen ge gen me ne nye ng"],
   .ofLines 0xA6A0 [
      "a ka u ku ee ree tae o nyi i la pa rii riee leeee meeee taa ndaa njaem m suu mu shii si",
      "sheux seux kyee ket nuae nu njuae yoq shu yuq ya nsha keux peux njee ntee pue wue pee",
      "fee ru lu mi ni reux rae ken - ngga nga sho puae fu fom wa na li pi loq ko mben ren men",
      "ma ti ki mo mbaa tet kpa ten ntuu samba - kovuu"],
   .ofLines 0xA800 [
      "a i _ u e o _ ko kho go gho _ co cho jo jho tto ttho ddo ddho to tho do dho no po pho bo",
      "bho mo ro lo rro so ho a i u e oo"],
   .ofLines 0xA840 [
      "k kh g ng c ch j ny t th d n p ph b m ts tsh dz w zh z a y r l sh s h a i u e o q x f gg",
      "ee w y tt tth dd nn y sh h f r r - - - - - - - - - - - - - - - a aa i ii u uu r rr l ll",
      "e ee ai o oo au k kh g gh ng c ch j jh ny tt tth dd ddh nn t th d dh n p ph b bh m y r l",
      "v sh ss s h ll haaru aa i ii u uu r rr l ll e ee ai o oo au"],
   .ofLines 0xA90A [
      "k kh g ng s sh z ny t ht n p ph m d b r y l w th h v c a oe i oo ue e u ee o _ _ _ - - k",
      "g ng t d n p b m c j ny s r l y w h mb ngg nd nyj a i u e ai o au eu ea ng n r h"],
   .ofLines 0xA984 [
      "a i i ii u r l ll e ai o k kk k g g ng c c j ny jh ny tt tth dd ddh nn t th d dh n p ph",
      "b bh m y r rr l w sh ss s h - aa o i ii u uu e ai e r y cakr"],
   .ofLines 0xAA00 [
      "a i u e ai o k kh g gh ngue ng ch chh j jh nhue nh nhj t th d dh nue n dd p pp ph b bh",
      "mue m bb y r l v ss s h aa i ii ei u oe o ai au ue y r l w"],
   .ofLines 0xAB01 [
      "tthu tthi tthaa tthee tthe ttho - - ddhu ddhi ddhaa ddhee ddhe ddho - - dzu dzi dzaa",
      "dzee dze dzo - - - - - - - - - cchha cchhu cchhi - - cchhe cchho - bba bbu bbi bbaa bbee",
      "bbe bbo"],
   .ofLines 0xABC0 [
      "kok sam lai mit p n chil til khou ngou thou wai yang huk un i pham atiy gok jham rai b",
      "jil dil ghou dhou bham - - - - - - - - onap inap anap yenap - unap - nung"],
   .ofLines 0x10000 [
      "a e i o u da de di do du ja je - jo ju ka ke ki ko ku ma me mi mo mu na ne ni no nu pa",
      "pe pi po pu qa qe qi qo - ra re ri ro ru sa se si so su ta te ti to tu wa we wi wo - za",
      "ze - zo - - au dwe dwo nwa - pte - - - - twe two"],
   .ofLines 0x10480 [
      "alef ba ta ja xa kha deel ra sa shiin dha cayn ga fa qaaf kaaf laan miin nuun waw ha ya",
      "a e i o u aa ee oo"],
   .ofLines 0x10800 [
      "a e i o u ja - - jo - ka ke ki ko ku la le li lo lu ma me mi mo mu na ne ni no nu pa pe",
      "pi po pu ra re ri ro ru sa se si so su ta te ti to tu wa we wi wo - xa xe - - - za - -",
      "zo"],
   .ofLines 0x11005 [
      "a aa i ii u uu r rr l ll e ai o au k kh g gh ng c ch j jh ny tt tth dd ddh nn t th d dh",
      "n p ph b bh m y r l v sh ss s h ll lll rr nnn aa aa i ii u uu r rr l ll e ai o au _"],
   .ofLines 0x11083 [
      "a aa i ii u uu e ai o au k kh g gh ng c ch j jh ny tt tth dd dddh ddh rh nn t th d dh n",
      "p ph b bh m y r l v sh ss s h aa i ii u uu e ai o au _ _"],
   .ofLines 0x11103 [
      "aa i u e ka kha ga gha nga ca cha ja jha nya tta ttha dda ddha nna ta tha da dha na pa",
      "pha ba bha ma yya ya ra la wa sa ha a i ii u uu e ai o au oi _ _ _ _"],
   .ofLines 0x11183 [
      "a aa i ii u uu r rr l ll e ai o au k kh g gh ng c ch j jh ny tt tth dd ddh nn t th d dh",
      "n p ph b bh m y r l ll v sh ss s h aa i ii u uu r rr l ll e ai o au"],
   .ofLines 0x11200 [
      "a aa i u e ai o au k kh g gg gh ng c ch j jj - ny tt tth dd ddh nn t th d ddd dh n p ph",
      "b bb bh m y r l v s h ll aa i ii u e ai o au _"],
   .ofLines 0x11280 [
      "a i u e k kh g - gh - c ch j jj - ny tt tth dd ddd ddh nn t th d dh n p ph b - bh m y r",
      "l v s h rr rh - - - - - - - a aa i ii u uu e ai o au k kh g gg gh ng c ch j jj jh ny tt",
      "tth dd ddd rr ddh nn t th d dh n p ph b bb bh m y r l v sh s h _ aa i ii u uu e ai o au"],
   .ofLines 0x11305 [
      "a aa i ii u uu r l - - ee ai - - oo au k kh g gh ng c ch j jh ny tt tth dd ddh nn t th d",
      "dh n - p ph b bh m y r - l ll - v sh ss s h - _ _ - aa i ii u uu r rr - - ee ai - - oo",
      "au"],
   .ofLines 0x11400 [
      "a aa i ii u uu r rr l ll e ai o au k kh g gh ng ngh c ch j jh ny nyh tt tth dd ddh nn t",
      "th d dh n nh p ph b bh m mh y r rh l lh w sh ss s h aa i ii u uu r rr l ll e ai o au"],
   .ofLines 0x11481 [
      "a aa i ii u uu r rr l ll e ai o au k kh g gh ng c ch j jh ny tt tth dd ddh nn t th d dh",
      "n p ph b bh m y r l v sh ss s h aa i ii u uu r rr l ll e e ai o o au _"],
   .ofLines 0x11580 [
      "a aa i ii u uu r rr l ll e ai o au k kh g gh ng c ch j jh ny tt tth dd ddh nn t th d dh",
      "n p ph b bh m y r l v sh ss s h aa i ii u uu r rr - - e ai o au _ _ _"],
   .ofLines 0x11600 [
      "a aa i ii u uu r rr l ll e ai o au k kh g gh ng c ch j jh ny tt tth dd ddh nn t th d dh",
      "n p ph b bh m y r l v sh ss s h ll aa i ii u uu r rr l ll e ai o au _ _"],
   .ofLines 0x11680 [
      "a aa i ii u uu e ai o au k kh g gh ng c ch j jh ny tt tth dd ddh nn t th d dh n p ph b",
      "bh m y r l v sh s h rr _ _ aa i ii u uu e ai o au"]]

end TaggedPage.Transliteration
