/-! # Rare Han characters

Radicals, characters outside the basic block, and those in it whose reading is hardly known.
Their syllables run on into what follows.
-/

namespace TaggedPage.Transliteration

/-- Syllables, each with rare characters that are read so. -/
def rareHanReadings : List (String × String) :=
  [("ai", "㕌㗒㘷㝷㢊㤅㱯㶼䅬䔽"),
   ("an", "㛺㜝㞅㟁㫨㱘䀂䅁䮗"),
   ("ang", "㭿䒢"),
   ("ao", "㑃㕭㘬㘭㜜㜩㟼㠂㠗㤇㥿㩠翶廒慠敖𢳆𣊁梎翺"),
   ("ba", "⼋㔜㞎㩯㭭㶚䎬䰾魞拔跋"),
   ("bai", "⽩㓦㔥㗑㠔韛"),
   ("ban", "㚘㪵䈲螁"),
   ("bang", "㙃㨍㭋㮄"),
   ("bao", "⼓㙅㙸㫧㲒㵡㿺䈏䭋䴐佨藵𦢊𨰦𨰻包報寳抱駂"),
   ("bei", "⻉⾙㔨㗗㛝㣁㤳㫲㰆㶔㸢㻗禙卑碑備北卑犕糒"),
   ("ben", "㡷㤓㨧㮥㮺奔𦯀栟泍"),
   ("beng", "㑟㔙䭰揼𩗴絣"),
   ("bi", "⼔⽐⿐㓖㘠㘩㙄㠲㡀㡙㢰㢶㢸㧙㪏㪤㮿㯇㱸㳼㵥㻫䕗䠋萞婢庳賁韠鼻"),
   ("bian", "⾤㝹㣐㦚㭓㲢㳎㳒㴜㵷炞變變"),
   ("biao", "⾽㟽㠒㧼㯱㯹㶾㷣䮽飊杓"),
   ("bie", "㔡㢼㿜䌘䏟"),
   ("bin", "㻞氞賓"),
   ("bing", "⺀⼎㓈㨀並摒倂仌庰鉼"),
   ("bo", "⼘⽨㗘㞀㞉㟑㩧㩭㪍㬍㬧㴾㶿㹀㼎䙏䭯癷萡𨍭𩓐博鈸"),
   ("bu", "⺊㘵㙛㚴㨐㳍𤣰"),
   ("cai", "㒲㥒毝彩菜"),
   ("can", "㛑㜗㣓㥇㦧㨻㱚䗝儏爘憯"),
   ("cang", "㵴㶓䅮濸"),
   ("cao", "⺾⺿⻀⾋㜖㯥艹艹𥕢"),
   ("ce", "㥽㨲㩍𥰡"),
   ("cen", "㞥"),
   ("ceng", "㣒㬝䉕層"),
   ("cha", "㛼㢉㢒㣾㤞㪯㫅㮑䟕𤜯𥻗𩟔㛼"),
   ("chai", "㑪㳗茝"),
   ("chan", "㙴㙼㚲㢆㢟㤐㦃㬄㯆㰫㶣剷嵼"),
   ("chang", "⻑⻒⻓⼚⾿㙊㦂㫤䮖𪂇㫤"),
   ("chao", "㶤㷅䫿𢁾𤙴巢潮罺鄛"),
   ("che", "⻋⼬⾞㒤㔭㤴㥉㨋㬚㳧㵔㿭䜠䞣屮屮"),
   ("chen", "⾂⾠㕴㥲㧱㫳㴴烥瞋"),
   ("cheng", "㐼㓌㛵㞼㲂䇸懲懲𨅝呈城懲成誠"),
   ("chi", "⻭⻮⼻⾚⿒㒆㓼㔑㘜㙜㞴㞿㡿㢁㢋㢮㥡㮛㰞㱀㶴䊼䠠硳麶遲𠮟𨨲叱喫蚩"),
   ("chong", "⾍㓽㤝㧤㮔㳘䆹充𠖥"),
   ("chou", "㐜㤽㦞㨨㮲㵞臭"),
   ("chu", "㔘㕏㕑㗙㙇㛀㡡㤕榋橻璴蟵"),
   ("chua", "㔍"),
   ("chuai", "㪓㪜"),
   ("chuan", "⼮⾇㯌㱛"),
   ("chuang", "㡖"),
   ("chui", "㝾㩾㷃"),
   ("chun", "㖺㝄㝇㵮𪂹"),
   ("chuo", "⻌⻍⻎⾡㚟㪬㲋䓎辶"),
   ("ci", "㓨㘂㘹㞖㢀㤵㩞䛐䨏嬨甆𩨨堲慈次辞螆"),
   ("cong", "㗰㜡㞱㥖茐𡟟𤧚匆熜聰"),
   ("cu", "㗤䥄"),
   ("cuan", "㠝爨"),
   ("cui", "㜠㝮㯔㯜㱖㳃㵏脃"),
   ("cun", "⼨"),
   ("cuo", "㟇㭫蔖"),
   ("da", "⼤㙮㜓㟷㩉垯𡐿𦖿"),
   ("dai", "⺞⽍㐲㞭㯂㶡㻖䈆鮘戴歹𠰺𦄂瑇"),
   ("dan", "㐤㕪㗖㠆㡺㲷㴷䒟䨵泹蓞"),
   ("dang", "当"),
   ("dao", "⺈⺉⼑㠀㨶䌦"),
   ("de", "㝶㤫㥁㯖"),
   ("den", "㩐"),
   ("deng", "㔁㲪"),
   ("di", "㓳㢩㣙㪆㫝㭽㰅䊮䨀䨤墬菧"),
   ("dian", "㓠㝪㞟㶘䍄𠶧𤩱嵮滇"),
   ("diao", "㒛㚋㪕調彫"),
   ("die", "㑙㥈㦅㦶㩸㩹㫼㬪㲲㲳䏲𢶣蜨"),
   ("ding", "⿍㝎㣔㫀㴿萣蝊"),
   ("diu", "𠲍"),
   ("dong", "㑈㓊㖦㚵㢥㨂徚𣿅𩂓冬徚"),
   ("dou", "⽃⾖⾾㛒㞳㢄㨮㪷䕆䬦艔𡂝㨮"),
   ("du", "㓃㞘㱩𡰪𩵚"),
   ("duan", "㟨㫁㱭𢭃煅"),
   ("dui", "㙂㟋㠚㨃㬣㳔䇏襨"),
   ("dun", "䔻碷𣎴惇"),
   ("duo", "㖼㙍㙐㛆㛊㣞㥩㻧䤪枤多"),
   ("e", "㓵㔩㖾㗁㟧㠋㦍㧖㩵㮙㷈䄉䑥䝈擜頋齃𠱥𡅅咢頋頋餩"),
   ("en", "䭓𡟯"),
   ("er", "⼆⼉⽽⽿㒃㖈㚷㛅㢽㧫䋩趰"),
   ("fa", "㕺㘺㛲鍅𧬋"),
   ("fan", "㕨㛯㠶㤆㴀㶗䀀䡊舤鐢繁犯𠆩汎"),
   ("fang", "⼕⽅㑂㕫㤃㧍㯐堏芳"),
   ("fei", "⻜⾮⾶㔗㥱㩌㫵㵒㹃䈈䤵䰁𩄼𩇫"),
   ("fen", "㤋㥹㬟㱵㷊哛豮墳幩憤濆鼖"),
   ("feng", "⻛⾵㐽㒥㛔㜂㠦㡝㦀㵯䒠溄琒蘕鎽霻夆"),
   ("fou", "⽸"),
   ("fu", "⻕⻖⽗⾩㓡㕊㕮㙏㚆㚕㜑㟊㠅㤔㤱㩤㪄㫙㬼㭪㲗㳇㷆䋨䘀䭻禣覄酜覆𠓗𩜲婦福"),
   ("gai", "㕢㧉㮣㱾槪"),
   ("gan", "⼲⽢㓧㤌㶥贛"),
   ("gang", "㟠㟵㧏㭎㽘港"),
   ("gao", "⾼㚏㚖㤒㵆韟𦤎"),
   ("ge", "⼽⾰⿀㖵㗆㝓㠷㤎㦴㭘㵧䈓䘁櫊𠯫𠺝𩾷割"),
   ("gen", "⾉㫔㮓"),
   ("geng", "㹴㾘䌄䱍䱭掶椩焿𣆳"),
   ("gong", "⼯⼶⼸㓋㓚㔶㤨㧬㫒㭟㯯㼦䱋䳍慐廾"),
   ("gou", "㗕㝅㝤㡚㨌"),
   ("gu", "⻣⾕⾻⿎㒴㚉㧽㯏䀦䐻䶜傦篐穀穀"),
   ("gua", "⽠㒷㧓㶽䈑䒷歄𠵯"),
   ("guai", "㧔𧊅柺"),
   ("guan", "㮡㴦䙛舘瘝𠴨貫"),
   ("guang", "⼴㤮㫛𩑈𩧉𪇵"),
   ("gui", "⻤⻱⻲⻳⿁⿔㔳㧪㨳㩻㪈㰪㲹䅅䈐䍯䐴䤥龜𠱓蟡"),
   ("gun", "⼁㙥㨰㯻𠃌𥕦"),
   ("guo", "㕵㗻㳀㳡㶁䆐𧰒"),
   ("hai", "㜾㤥㧡㨟㰧㰩㱼海𦤦海"),
   ("han", "⺁㑵㒈㖤㘎㘕㘚㟏㟔㢨㤷㨔㪋㮀㲦㵄㶰㸁䈄丆兯爳漢漢𤳉"),
   ("hang", "㤚㰠䘕𨁈"),
   ("hao", "㕻㘪㙱㚪㝀㞻㠙㩝㫴㬔㬶毜𩖸噑浩"),
   ("he", "⽲㕡㗿㥺㪃㪉㬞㭱㮝㮫㰤㵑㷎㿥䞦靍喝褐喝㮝𠀀㮝"),
   ("hei", "⿊㱄𨭆"),
   ("hen", "㯊"),
   ("heng", "㔰㶇涥"),
   ("hong", "㖓㗢㢬㬴㶹䉺𤄏𨌆𩐠"),
   ("hou", "㖄㗋㤧㫗㬋㮢"),
   ("hu", "⻁⼾⾌㕆㗅㦆㦌㧮㧾㨭㪶㫚㯛㳷㸦䓤䭌乥錿𠴱𤌍𧩓壷"),
   ("hua", "㓰㕦㕲㕷㚌㟆㠏㦊㭉㳸撶璍蒊画華㭉花鋘"),
   ("huai", "㜳㠢"),
   ("huan", "㕕㡲㣪㪱㬇㬊㵹㶎㹕䈠䦡䴉瞣"),
   ("huang", "⻩⿈㞷㠵㡃㤺㨪㬻䅿䐠荒兤㤺慌慌"),
   ("hui", "㑰㑹㜇㞁㞧㤬㥣㧑㨤㨹㩓㩨㫎㬩㱱㷄㷇㷐䧥屷懳璤悔恵喙𡜦𦞙卉灰喙㞁悔撝"),
   ("hun", "㑮㖧㥵㨡㮯䮝"),
   ("huo", "⺣⽕㓉㖪㗲㘞㦎㦜㦯㨯㩇㯉㷭䄀䱛禍𠵾"),
   ("ji", "⺇⺔⺕⺛⼏⼰⼹㑧㒫㔕㗊㗱㘍㙨㙫㚡㚻㛷㞄㞇㞛㞦㠍㠎㠱㡭㡮㤂㥍㥛㦘㦸㧀㨈㫷㭲㮨㮷㰟㲅㲺㳵㴉㴕㸄㻑䐀䞘䳭廭樭既冀𠀋𠮷𠼻𢩦𩥉㔕即卽及姬揤旣枅穊紀飢鱀䳭"),
   ("jia", "㕅㚙㪴㮖㹢䕒𠺢𢱌𩶛戛"),
   ("jian", "⻅⾒㓺㔋㔓㡨㣤㦰㨴㨵㭴㯺㰄㳨㵎㶕䌠橺𣜭𤧣𥡝趼鳽"),
   ("jiang", "㢡㯍䉃𣚦将摾糨"),
   ("jiao", "⻆⻇⾓㠐㩰㬭㭂㰾㲬㳅㶀櫵燞𡏭𧂈叫摷"),
   ("jie", "⺋⼙㑘㓗㔚㘶㛃㝏㞯㠹㦢㨗㨩㫸㮞㮮䀹䃈節節䀹𣶏𦵴䀹莭"),
   ("jin", "⻐⼱⽄⾦㝼㦗㧆㨷㬐㬜㯲㯸㱈㴆㶦㶳琻砛縉謹謹搢晉暜浸蓳"),
   ("jing", "㘫㢣㣏㬌䜘䝼燝瀞靖𠗊𩇕敬瀞"),
   ("jiong", "⺆⼌㓏㢠㤯㯋㷗䢛"),
   ("jiu", "⺽⾅⾲㝌㠇㡱㩆㲃㺩䆒欍汣𨳊"),
   ("ju", "㖩㘌㘲㜘㞐㞫㠪㡹㥌㨿㩀㩴㪺㬬㮂䈮䳔啹爠𦥑具菊"),
   ("juan", "㢧㢾㪻㯞㷷䖭睊𡡀捐睊"),
   ("jue", "⼅㔃㔢㟲㤜㩱㭈㭾㰐㲄㵐䡈䣺爵𠄌𨰜㤜爵"),
   ("jun", "㑺㒞㕙㖥㚬㝦㴫㽙䇹䕑𠣕𧥺𨌘㒞菌"),
   ("kai", "㚊㪡䁗䤤慨開"),
   ("kan", "㘛㙳"),
   ("kang", "㝩㢜㱂䆲𡐓"),
   ("ke", "㕉㕎㞹㤩㪙㪼㵣㸯䌀䐦𠳭𠶲𢈈𪃭刻"),
   ("keng", "㧶㰢䃘"),
   ("kong", "㚚㤟㲁𣏺𦁈"),
   ("kou", "⼝㓂㰯䁱𤘘𦬅"),
   ("ku", "㗄㠸㱠㵠𦡆扝苦"),
   ("kua", "㐄㛻㡁舿"),
   ("kuai", "㔞㙕㟴㧟㱮"),
   ("kuan", "㯘䕀鑧"),
   ("kuang", "㑌䒰况况忹"),
   ("kui", "㒑㕟㙓㙺㚍㨒䖯䙆䤆䰎𪆴虧"),
   ("kun", "㡓㩲㫻㱎堒尡潉熴㱎"),
   ("kuo", "㗥韕"),
   ("la", "㕇㡴"),
   ("lai", "㚓㥎㷦㸊䋱𡂖𨂐"),
   ("lan", "㑣㘓㛦㜮㞩㦨㨫㩜㰖㱫㳕䌫囕爦𨅏嬾嬾懶"),
   ("lang", "㓪㙟㝗㟍㢃㫰㮾㱢斏郞朗𠺘廊朗"),
   ("lao", "⺹⽼㗦㞠㟉㟹㧯㨓䇭朥珯硓粩躼𤩂𦛨劳"),
   ("le", "㔹㖁㦡"),
   ("lei", "⽾㑍㒍㒦㔣㙽㲕㴃㵢㵽㶟䉂䉪䢮类𨀤"),
   ("leng", "㘄䉄"),
   ("li", "⼒⽴⾥⾪㑦㒧㒿㓯㔏㕸㗚㘑㛤㟳㠟㠣㡂㤡㤦㦒㧰㬏㮚㯤㰀㰚㱹㴝㹈㻺䔉䔧娳隷𠻗𠼝𦺙𧢝𨊛𩧃𩶘丽"),
   ("lian", "㜃㜕㜻㝻㟀㡘㢘㥕㦁㪘㪝㯬㰈㰸㱨㶌㶑䙺䥥練練"),
   ("liang", "㒳㔝煷"),
   ("liao", "㙩㝋㡻㵳㶫㷰䄦曢爎藔"),
   ("lie", "㤠㧜㬯㭞㭩㯿㲱烮"),
   ("lin", "㐭㔂㖂㝝㨆㷝"),
   ("ling", "㖫㡵㥄㦭㪮㬡㯪㱥㲆䈊䉁䍅䔖䖅瀮蓤霗𣌟𤫩"),
   ("liu", "㐬㙀㧕㶯桞流𨻧𩗩流裗"),
   ("lo", "囖"),
   ("long", "⻯⻰⿓㑝㙙㚅㛞㝫㟖㡣㢅㦕㰍㳥㴳䮾𠾐㴳"),
   ("lou", "㔷㟺㡞㥪㪹㲎慺"),
   ("lu", "⻧⿄⿅㓐㔧㔪㖨㛎㛬㜙㟤㠠㠥㢚㢳㦇㪐㪖㪭㫽㭔㭚㯝㯟㯭㱺㲶䐂澛焒𠷈𡀔𩣱碌虜"),
   ("luan", "㝈㡩㱍"),
   ("lue", "㑼㔀㗉㨼"),
   ("lun", "㖯㷍䈁磮"),
   ("luo", "㑩㒩㓢㞆㦬㩡㪾㰁㱻㴖洜罖𡤢𦣇𧟌剆"),
   ("ma", "⻢⾺⿇㐷㑻㜫㦄㨸遤麻"),
   ("mai", "⻨⿆㜥㦟𪄳売"),
   ("man", "㒼㗈㙢㛧㡢㬅㵘䕕𤅎𥲑𩅍㡢"),
   ("mang", "㝑㟌㟐㟿㡛㤶㬒㻊䈍𣙷𩷶莽"),
   ("mao", "⽑⽭㒵㒻㚹㝟㡌㧇㧌㪞㫯㮘㲠㴘乮𨥨帽冒㒻"),
   ("me", "嚒癦"),
   ("mei", "㙁㭑㶬梅梅"),
   ("men", "⻔⾨㥃㦖㱪㵍"),
   ("meng", "㙹㜴㝲㠓㩚䀄䁅䑃䑅䓝𠵼夢懞"),
   ("mi", "⺯⼍⽶⽷㜆㜷㝥㟜㠧㣆㥝㨠㫘㳴㳽㴵㵋䕷鼏"),
   ("mian", "⼧⾯⿌㒙㝃㝱㤁㨺㮌㰃㴐㻰免勉免勉冕黾"),
   ("miao", "㑤㦝"),
   ("mie", "㒝㩢哶"),
   ("min", "⺠⻪⽫㞶㟩㟭㢯㥸㨉㬆䪸垊敏𧁋𪄴敏"),
   ("ming", "㝠㟰㫥䫤"),
   ("mo", "㱳䃺䩋怽墨𤣻摩"),
   ("mou", "㭌踎𦳑"),
   ("mu", "⺟⺫⽊⽬㜈㟂㣎㧅朰𠺖𧿹"),
   ("na", "㨥㵊䈫𤸻𥹉肭"),
   ("nai", "㜨㮈㮏㲡𡞫"),
   ("nan", "㓓㫱㬮䈒難難𦛚𧕴"),
   ("nang", "㚂㶞"),
   ("nao", "㑎㛴㞪䜀"),
   ("ne", "⽧"),
   ("nei", "㐻㕯㖏㨅內"),
   ("nen", "㜛㯎㶧"),
   ("neng", "㲌㴰"),
   ("ng", "㕶"),
   ("ni", "㞾㠜㣇㥾㦐㩘㪒㲻㵫䁥䘦䛏聣𣲷𤦤𪙛你㣇"),
   ("nian", "㜤㞌㮟㲽哖焾"),
   ("niao", "⻦⿃㒟㜵㞙㠡㭤㳭"),
   ("nie", "㖕㖖㘝㘨㘿㙞㚔㜸㡪㩶㮆㴪䯀巕𣀳𦘒涅"),
   ("nin", "㤛䋻脌"),
   ("ning", "㝕㣷㲰澝𧭈寧"),
   ("niu", "⺧⽜㖻䋴"),
   ("nong", "㶶"),
   ("nou", "㜌㝺㳶"),
   ("nu", "⼥㚢㵖䚼"),
   ("nuan", "㬉"),
   ("nue", "虐"),
   ("nuo", "㐡㑚㔮㖠㛂㡅㰙諾𢜪"),
   ("ou", "㒖䥲藲𠙶𡂿"),
   ("pa", "𤆵𥐙"),
   ("pai", "㭛㵺派"),
   ("pan", "⽙㐴㢖聁𣁦"),
   ("pang", "㥬㫄䨦龎𤧭"),
   ("pao", "㘐㚿㯡㲏"),
   ("pei", "㚰㟝㤄㧩㯁㳈䊃"),
   ("pen", "㖹噴"),
   ("peng", "㛁㠮㥊㧸㱶䴶𨂃"),
   ("pi", "⺪⽦⽪㓟㨢㨽㮰㯅㱟㳪㵨䑄䰦𠜱𦨭𨈚㓟脾鵧"),
   ("pian", "⽚㓲㛹鍂跰"),
   ("piao", "㬓㵱"),
   ("pie", "⼃𢳂"),
   ("pin", "㡦㰋頻頻姘拼"),
   ("ping", "㵗㺸㻂䈂塀缾𩩍洴㺸㺸竮䈂聠荓蓱蛢郱頩"),
   ("po", "㗶㛘㧊㨇䪖"),
   ("pou", "㕼㧵㰴"),
   ("pu", "⺙⽁㒒㬥㯷㲫㺪䈻贌駇𥣈"),
   ("qi", "⻫⻬⽓⿑㒅㓞㖢㞓㞚㟓㟚㟢㠌㣬㥓㩩㩽㫓㬤㯦㰗㱦䄎䓅䓫䗩䚍䥓䰇渏簯器祈𤪌𥉐𧡘𪗆啓杞芑起邔"),
   ("qia", "㓣㓤㡊㤉拤"),
   ("qian", "⼐⽋㐸㗔㜞㟻㦮㦿㧄㨜㩃㩮㩷㪠㯠䥅茾鎆鏲凵岍汧灊蚈雃"),
   ("qiang", "⺦㛨㩖㳾獇襁鏹"),
   ("qiao", "㚁㚽㝯㡑㢗㤍㴥䀉䎗犞瞧𢿣𧄍殻"),
   ("qie", "㓶㗫㚗㛍㛗㤲㥦䦧倿媫𠲵𡐤𡶐𣠺切"),
   ("qin", "㓎㕋㘦㝳㞬㢙㤈㩒㪁㮗䈜勤𩂈勤"),
   ("qing", "⻘⾭㯳㵾㷫䨝櫦硘晴請卿卿卿"),
   ("qiong", "㑋㒌㧭㮪㷀䅃𡦃瓊"),
   ("qiu", "㐀㕤㚱㛏㞗㟈㤹㥢㧨㭝㳋㷕䊵䨂𠰋"),
   ("qu", "㖇㘗㜹㠊㣄㧁㫢㭕㯫㰦㲘䈌粬衐𤨎"),
   ("quan", "⺨⽝㒰㒽㟫椦闎全𡿨"),
   ("que", "㕁㩁㰌㱋㱿㲉㴶"),
   ("qun", "㟒㪊"),
   ("ran", "㒄㚩㜣㲯䔳"),
   ("rang", "䉴"),
   ("rao", "㑱嬈"),
   ("ren", "⺅⼈㠴㣼㶵㸾䇮䌾岃祍𦍌刃忍軔"),
   ("reng", "㭁㺱𠮨"),
   ("ri", "⺜⽇"),
   ("rong", "㘇㝐㣑㭜㲓㲝㲨䇯䡆𢫨𪃾冗荣"),
   ("rou", "⺼⽱⾁䐓"),
   ("ru", "⼊㐵㦺㨎嶿"),
   ("ruan", "㓴㮕䓴"),
   ("rui", "㓹㪫㲊䄲䬐𨧨甤蕤"),
   ("run", "㠈"),
   ("ruo", "若"),
   ("sa", "㒎㚫㪪隡𠮿"),
   ("sai", "㗷㘔㩙䰄"),
   ("san", "㤾㧲㪔㪚䈀厁壭毶糣"),
   ("sang", "槡桒"),
   ("sao", "㛮㥰㲧䕅㛮掃繅"),
   ("se", "⾊㒊㥶㱇濏"),
   ("seng", "䒏僧僧"),
   ("sha", "㠺㰱㰼㲚㵤㸺䈉殺殺"),
   ("shai", "㩄㬠㴓閷"),
   ("shan", "⼭⼺㚒㣌㣣㨛㪎㪨㰑㴸㶒䄠䥇䱉𥔱善善㣣"),
   ("shang", "仩贘"),
   ("shao", "㪢㲈䈰䔠蕱勺𨈘勺"),
   ("she", "⾆㓭㢵㴇㵃䜓䬷社𧵳奢捨檨"),
   ("shen", "⾝㑗㚞㚨㜪㮱㰂㰮㵕䰠堔慎𠻝慎"),
   ("sheng", "⽣㗂㮐㱡盛"),
   ("shi", "⺬⺭⻝⻞⻟⻠⼗⼠⼫⽒⽮⽯⽰⾗⾷㒾㔺㕛㖷㱁㳏㵓䈕䤭佦嵵煶籂視視𠰴𦒈𧩹𪀔豕"),
   ("shou", "⺘⻡⼿⾸㖟㝊㥅㧃䛵寿"),
   ("shu", "⽎⿉⿏㑐㒔㛸㜐㡏㣽㫹㯮㵂㶖㷂㻿䉀瀭糬蠴暑署輸庶書暑㶖秫輸"),
   ("shuai", "㲤𣘚𨄮"),
   ("shuang", "㦼䉶䗮鏯"),
   ("shui", "⺡⺢⽔㥨帨裞"),
   ("shun", "㥧"),
   ("shuo", "㮶𦂗"),
   ("si", "⺒⺰⼛㒋㕾㚶㟃㠼㣈㭒㴲㺨䔮俬𡡒𥯨𩅰"),
   ("song", "㕬㞞㣝㧐㨦㩳㮸𩃭"),
   ("sou", "㛐㟬䈭搜醙𢲷叟"),
   ("su", "㑉㑛㓘㔄㕖㜚㝛㢝㨞㪩㬘㯈㲞㴋㴑㴼𤢂"),
   ("sui", "⼢㒸㞸㥞㴚㵦䭉𡻕歲"),
   ("sun", "㔼㦏"),
   ("suo", "㛖㪽㮦䔋䖛𢱢璅"),
   ("ta", "㒓㗳㛥㣛㣵㧺㭼㯓㯚㳠㿹䂿䈋侤闧𠴲𪘁獺"),
   ("tai", "㑷㒗㘆㙵㣍㥭㬃㷘㸀䈚䣭"),
   ("tan", "㘱㛶㨏㫜㲜㲭㳩㴂㵅㷋䏙䞡嘆𡊨嘆䏙炭"),
   ("tang", "㑽㒉㓥㙶㜍㭻㲥㷹䉎䞶䠀𣙟𨆉唐"),
   ("tao", "㚐㣠㫦䄻䈱䤾啕絛弢弢"),
   ("te", "㥂㧹"),
   ("ti", "㔸㖒㗣㡗㣢㬱㯩䶑朑𣧂"),
   ("tian", "⽥㐁㖭㙉㥏㧂㬲㮇㶺䋬䡒磌磌"),
   ("tiao", "㟘㬸㸠䟭䠷螩窱"),
   ("tie", "䴴"),
   ("ting", "㓅䋼𡈼𪊶"),
   ("tong", "㛚㠉㠽㣚㤏㪌㼿䴀𦒍𦨴"),
   ("tou", "⼇㓱㖣㢏㪗㳆㷙"),
   ("tu", "⼟㟮㭸㻌䣝突𣈥兔圖圗堍屠"),
   ("tuan", "㩛䝎䵎湪"),
   ("tui", "㞃㞜㢈㢑㥆㱣㷮㿗䀃侻娧駾"),
   ("tun", "㖔㧷㩔㬿"),
   ("tuo", "㟎䭾"),
   ("wa", "⽡㧚屲嗢"),
   ("wai", "㖞㗏𠰻"),
   ("wan", "㘤㜶㝵䥑䩊䯈塆壪邜丸挽"),
   ("wang", "⺎⺏⺐⺑⺩⺱⺲⺳⺴⽹㓁㲿㳹㴏䤑焹惘望𡯁望王"),
   ("wei", "⻙⼞⾱㕒㖐㙎㙔㙗㛱㞈㞑㟪㠕㢻㣦㣲㥜㦣㨊㬙㭏㮃㱬㷉䇻䉠䲁墛屗嶶捤揻煀𠳿𥯤𨗨㬙"),
   ("wen", "⽂㗃㝧㡈㬈呚鈫鎾瘟𩥈㬈殟穏"),
   ("weng", "㘢㜲㮬䐥"),
   ("wo", "㠛㦱㧴㱧䰀𠿟"),
   ("wu", "⽆⽏㐅㐳㑄㒇㡔㬳㮧㵲䨁侮侮洖茣"),
   ("xi", "⻄⼖⼣㐂㑶㓾㔒㕃㗩㗭㘊㙿㚛㛓㛫㛭㜎㜯㠄㣟㤸㦦㦻㩗㪧㬛㭡㮩㯕㰥㰿㱆㱤㲸㴔㴧㶉㷛㷞㸍㾷䁯䈪䮎礂𠘕吸犀舄虩嶲"),
   ("xia", "㔠㗇㘡㙈㙤㰨㰰㰺溊虲鎼𧇍"),
   ("xian", "㔾㘅㘋㛾㡉㡾㢺㦑㦓㧥㪇㫫㬎㬗㭠㭹㮭㯗㰊㰹㲔㳄㳬㵪㶍㷺䕔䘆䤼䥪䧟䵌僲鑦𠜎𡐖𣔙咞啣憲"),
   ("xiang", "⾹㐮㗽㟄㟟稥響響像蠁"),
   ("xiao", "⺌⺍⼩㔅㗛㚠㚣㤊㩋㪣㬵㮁㲖㵿䕧滧𤑳"),
   ("xie", "㐖㒠㓔㔎㕐㖑㖿㗨㙝㙦㙰㝍㞒㞕㡜㣯㣰㥟㦪㨙㨝㩦㩪㭨㰔㰡㱔㳦㳿㴬㴮㴽䉏夑𢬿𤗈𦳃𧜵"),
   ("xin", "⺖⺗⼼⾟㐰㔤㚯㛙㛛㜦㭄㭢𤣲"),
   ("xing", "⾏㐩㓑㓝㙚㝭㣜㨘謃侀鉶型形硎"),
   ("xiong", "㐫㚾焽𢿌"),
   ("xiu", "㗜㱗㱙㳜㵻峀"),
   ("xu", "㐨㑔㑯㕚㖆㗵㘧㜅㜿㞋㞰㥠㰭㳚㵰䘏聓裇𤟠歔"),
   ("xuan", "⽞㓩㔯㔵㘣㝁㦥㧋㧦㩊㯀㳙䁢鋗"),
   ("xue", "⽳⾎㕰㖸㗾㞽㰒㶅㻡辪"),
   ("xun", "㜄㡄㢲㨚㰬㵌㷾嚑𩖰巡巽"),
   ("ya", "⻃⽛⾑㝞㧎㰳㳌乛厑𤴓𦜖𧧝𪘲芽"),
   ("yan", "⻈⾔㕣㖶㗴㘖㘙㚧㛪㝚㢂㢛㤿㦔㫃㫟㬫㭺㮒㰽㳂㶄㷔㷳㷼䅧䇾䞛䢭䨄䳡焑熖奄𥀬𩃀𪙊嵃揅掩沿湮淹裺"),
   ("yang", "⺵⺶⺷⺸⽺㒕㔦㟅㦹㨾㬕䑆奍𦭵羕"),
   ("yao", "⺓⼳⽘㑸㑾㔽㙘㝔㞂㟱㢓㨱㫏㫐㴭㵸䂚䌁䔄䙅䬙徭𥁒𥪯𦾾吆嗂榣䌁"),
   ("ye", "⻚⾴㖡㗼㙒㡋㥷㩎㪑㱉㱌䈎䊦亪謁謁𦠜"),
   ("yi", "⺂⺃⺄⻂⻏⼀⼄⼷⾐⾢㐌㐹㑊㑜㑥㓷㔴㕈㕥㖃㘁㘈㙠㙪㙯㚤㚦㛄㛕㛳㜋㜒㝖㝣㞔㠖㠯㡫㡼㢞㣂㣻㥋㥴㦉㦤㦾㫊㰘㰝㰻㱅㱞㱲㲼㳑㳖㴁㴒㵝㵩㶠㷿㺿䇼䌻䧧䫑䭲䱌一乊匇嬄椬硛籎萟逸廙"),
   ("yi", "益𠂆𠯋𠲖𡄻𢏗𣐿𤥿𥜥𦏸𩓧乁㠯㡼㰘異衣"),
   ("yin", "⼵⾳㐆㐺㒚㕂㖗㙬㝙㞤㡥㣧㥯㥼㦩㧈㧢㪦㱃㴈㶏䄄䕃䴦粌滛𠃊𩃬"),
   ("ying", "㑞㡕㢍㨕㲟㵬㶈䊔䣐䬬愥攚溋灜绬鶑𠸄𡎘𢥏𨜏瀛媵"),
   ("yong", "⽤㐯㙲㜉㝘㞲㟾㦷㴄㴩㶲㷏砽勇勇"),
   ("you", "⼜⼪⾣㒡㓜㕗㕱㗀㘥㚭㛜㤑㫍㮋㰶㱊㳊㳺㴗㶭㽕䀁䍃䬀孧牗蒏祐𣏞尢"),
   ("yu", "⺺⺻⻗⻥⽟⽻⾀⾬⿂㑨㒁㒜㔱㙑㚜㚥㝢㝽㠘㠨㡰㣃㤢㤤㥔㥚㥥㦛㦽㧒㪀㬂㬰㰲㲾㳛㶛㷒㽣䈅䋭䍂䐳䘻䰻䲣艈荢愈揄諭𡒊𢒰𦱀𧑐𨨶娛舁瑜瘐育舁芋諭"),
   ("yuan", "㟶㠾㤪㥐㥳㭇㾓䡝䥉䲮茒冤寃悁蜎"),
   ("yue", "⺝⽈⽉⿕㜧㜰㬦㰛䆕䡇䤦𡛟𩓥瀹玥"),
   ("yun", "㚃㚺㛣㜏㞍㟦㩈䤞䲰抣蝹蝹霣馧"),
   ("za", "㞊㦫𢶍偺"),
   ("zai", "㱰䏁再災甾"),
   ("zan", "㔆㜺㟛㣅㳫鐕"),
   ("zang", "㘸㮜"),
   ("zao", "㡟㯾栆"),
   ("ze", "㖽㟙㣱㳁㳻䕪伬"),
   ("zeng", "憎贈憎贈憎"),
   ("zha", "㗬㡸㦋㪥㱜㳐㴙䕢𧨊喳楂牐"),
   ("zhai", "㒀㡯㩟䔝𩱳"),
   ("zhan", "㔊㜊㞡㟞㠭㣶㮵䁪𢅺𧬆𨫀𩥇"),
   ("zhang", "⾧㕩㙣幥粀鏱鐣杖𢕔𤍤"),
   ("zhao", "⺤⺥⽖㑿㡽㷖䈃䈇䍮罀爫"),
   ("zhe", "㞏㡇㢎㪿㭙㭯㯙㯰䇽䠦乽者著着者者著"),
   ("zhen", "㐱㓄㖘㘰㣀㪛㮳㯢㱽㲀㴨䊶䟴䪴鋴禎瑱鬒𡻈瑱眞真真鬒"),
   ("zheng", "㡠㡧㬹㱏䂻䈣䥭𠲜𧶄𨜓"),
   ("zhi", "⼡⽀⽌⾄⾘⿋㕄㗌㗧㘉㙷㛿㜱㜼㝂㡳㡶㣥㥀㨁㨖㫑㮹㯄㲍㲛㴛㴯䇛䉅䎺䐭䤠俧徔謢祉直𠊷𡍶𡠹𡸜𢙺𣲵𨑨埴寘志櫛直芝黹鼅"),
   ("zhong", "㣫㲴䇗塚𦬕𩅞"),
   ("zhou", "⾈㑇㑳㛩㤘㥮㨄㫶䓟炿𤏲周"),
   ("zhu", "⺮⼂⽵㑏㔉㝉㤖㦵㧣㫂㵭㶆渚煮祝煮猪諸陼𠰍築蝫"),
   ("zhuan", "䡱磗灷篆"),
   ("zhuang", "庒壮"),
   ("zhui", "⾫㗓㚝㮅"),
   ("zhun", "㡒衠"),
   ("zhuo", "㑁㒂㓸㣿㧳㧻㭬䅵䐁䮓𤏸𥇍𥼚𨧧"),
   ("zi", "⼦⾃㜽㞨㠿㧗㧘㰣㰷㱴㺭崰滋𠂔𪗋嵫椔滋緇鄑"),
   ("zong", "㙡㚇㢔㣭㨑㯶㷓䁓䈦潈朡縂"),
   ("zou", "⾛㔌㔿㵵"),
   ("zu", "⻊⾜㞺㰵㵀㷬䔃祖祖"),
   ("zuan", "𨉖"),
   ("zui", "㝡㠑㭰㰎最"),
   ("zun", "䔿"),
   ("zuo", "㑅㘀㘴㝿㤰㭮㵶琢𠂇")]

def rareHanReading? (c : Char) : Option String :=
  (rareHanReadings.find? fun (_, characters) => characters.contains c).map (·.1)

end TaggedPage.Transliteration
