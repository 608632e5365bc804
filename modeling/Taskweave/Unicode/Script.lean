import Taskweave.Unicode.Ranges

/-!
# Scripts

Every code point has one script, known by four letters. `scriptRuns` is the whole table;
`scriptExtensions` lists the code points that are used in other scripts than their own.
`scriptNamed?` finds a script by any of its names, in lower case and without separators.
-/

namespace Taskweave.Unicode

/-- The script of every code point, in runs. -/
def scriptRuns : List Run := runsOfText 4
  ["Zyyy65 Latn26 Zyyy6 Latn26 Zyyy47 Latn1 Zyyy15 Latn1 Zyyy5 Latn23 Zyyy1 Latn31 Zyyy1 Latn449",
   "Zyyy39 Latn5 Zyyy5 Bopo2 Zyyy20 Zinh112 Grek4 Zyyy1 Grek3 Zzzz2 Grek4 Zyyy1 Grek1 Zzzz4",
   "GrekZyyy2 Grek3 Zzzz1 Grek1 Zzzz1 Grek20 Zzzz1 Grek63 Copt14 Grek16 Cyrl133 Zinh2 Cyrl169",
   "Zzzz1 Armn38 Zzzz2 Armn50 Zzzz2 Armn3 Zzzz1 Hebr55 Zzzz8 Hebr27 Zzzz4 Hebr6 Zzzz11 Arab5",
   "Zyyy1 Arab6 Zyyy1 Arab14 Zyyy1 Arab3 Zyyy1 Arab32 Zyyy1 Arab10 Zinh11 Arab26 Zinh1 Arab108",
   "Zyyy1 Arab34 Syrc14 Zzzz1 Syrc60 Zzzz2 Syrc3 Arab48 Thaa50 Zzzz14 Nkoo59 Zzzz2 Nkoo3 Samr46",
   "Zzzz2 Samr15 Zzzz1 Mand28 Zzzz2 Mand1 Zzzz1 Syrc11 Zzzz5 Arab34 Zzzz5 Arab75 Zyyy1 Arab29",
   "Deva81 Zinh4 Deva15 Zyyy2 Deva26 Beng4 Zzzz1 Beng8 Zzzz2 Beng2 Zzzz2 Beng22 Zzzz1 Beng7",
   "Zzzz1 Beng1 Zzzz3 Beng4 Zzzz2 Beng9 Zzzz2 Beng2 Zzzz2 Beng4 Zzzz8 Beng1 Zzzz4 Beng2 Zzzz1",
   "Beng5 Zzzz2 Beng25 Zzzz2 Guru3 Zzzz1 Guru6 Zzzz4 Guru2 Zzzz2 Guru22 Zzzz1 Guru7 Zzzz1 Guru2",
   "Zzzz1 Guru2 Zzzz1 Guru2 Zzzz2 Guru1 Zzzz1 Guru5 Zzzz4 Guru2 Zzzz2 Guru3 Zzzz3 Guru1 Zzzz7",
   "Guru4 Zzzz1 Guru1 Zzzz7 Guru17 Zzzz10 Gujr3 Zzzz1 Gujr9 Zzzz1 Gujr3 Zzzz1 Gujr22 Zzzz1 Gujr7",
   "Zzzz1 Gujr2 Zzzz1 Gujr5 Zzzz2 Gujr10 Zzzz1 Gujr3 Zzzz1 Gujr3 Zzzz2 Gujr1 Zzzz15 Gujr4 Zzzz2",
   "Gujr12 Zzzz7 Gujr7 Zzzz1 Orya3 Zzzz1 Orya8 Zzzz2 Orya2 Zzzz2 Orya22 Zzzz1 Orya7 Zzzz1 Orya2",
   "Zzzz1 Orya5 Zzzz2 Orya9 Zzzz2 Orya2 Zzzz2 Orya3 Zzzz7 Orya3 Zzzz4 Orya2 Zzzz1 Orya5 Zzzz2",
   "Orya18 Zzzz10 Taml2 Zzzz1 Taml6 Zzzz3 Taml3 Zzzz1 Taml4 Zzzz3 Taml2 Zzzz1 Taml1 Zzzz1 Taml2",
   "Zzzz3 Taml2 Zzzz3 Taml3 Zzzz3 Taml12 Zzzz4 Taml5 Zzzz3 Taml3 Zzzz1 Taml4 Zzzz2 Taml1 Zzzz6",
   "Taml1 Zzzz14 Taml21 Zzzz5 Telu13 Zzzz1 Telu3 Zzzz1 Telu23 Zzzz1 Telu16 Zzzz2 Telu9 Zzzz1",
   "Telu3 Zzzz1 Telu4 Zzzz7 Telu2 Zzzz1 Telu3 Zzzz1 Telu2 Zzzz2 Telu4 Zzzz2 Telu10 Zzzz7 Telu9",
   "Knda13 Zzzz1 Knda3 Zzzz1 Knda23 Zzzz1 Knda10 Zzzz1 Knda5 Zzzz2 Knda9 Zzzz1 Knda3 Zzzz1 Knda4",
   "Zzzz7 Knda2 Zzzz5 Knda3 Zzzz1 Knda4 Zzzz2 Knda10 Zzzz1 Knda3 Zzzz12 Mlym13 Zzzz1 Mlym3 Zzzz1",
   "Mlym51 Zzzz1 Mlym3 Zzzz1 Mlym6 Zzzz4 Mlym16 Zzzz2 Mlym26 Zzzz1 Sinh3 Zzzz1 Sinh18 Zzzz3",
   "Sinh24 Zzzz1 Sinh9 Zzzz1 Sinh1 Zzzz2 Sinh7 Zzzz3 Sinh1 Zzzz4 Sinh6 Zzzz1 Sinh1 Zzzz1 Sinh8",
   "Zzzz6 Sinh10 Zzzz2 Sinh3 Zzzz12 Thai58 Zzzz4 Zyyy1 Thai28 Zzzz37 Laoo2 Zzzz1 Laoo1 Zzzz1",
   "Laoo5 Zzzz1 Laoo24 Zzzz1 Laoo1 Zzzz1 Laoo23 Zzzz2 Laoo5 Zzzz1 Laoo1 Zzzz1 Laoo7 Zzzz1 Laoo10",
   "Zzzz2 Laoo4 Zzzz32 Tibt72 Zzzz1 Tibt36 Zzzz4 Tibt39 Zzzz1 Tibt36 Zzzz1 Tibt15 Zzzz1 Tibt7",
   "Zyyy4 Tibt2 Zzzz37 Mymr160 Geor38 Zzzz1 Geor1 Zzzz5 Geor1 Zzzz2 Geor43 Zyyy1 Geor4 Hang256",
   "Ethi73 Zzzz1 Ethi4 Zzzz2 Ethi7 Zzzz1 Ethi1 Zzzz1 Ethi4 Zzzz2 Ethi41 Zzzz1 Ethi4 Zzzz2 Ethi33",
   "Zzzz1 Ethi4 Zzzz2 Ethi7 Zzzz1 Ethi1 Zzzz1 Ethi4 Zzzz2 Ethi15 Zzzz1 Ethi57 Zzzz1 Ethi4 Zzzz2",
   "Ethi67 Zzzz2 Ethi32 Zzzz3 Ethi26 Zzzz6 Cher86 Zzzz2 Cher6 Zzzz2 Cans640 Ogam29 Zzzz3 Runr75",
   "Zyyy3 Runr11 Zzzz7 Tglg22 Zzzz9 Tglg1 Hano21 Zyyy2 Zzzz9 Buhd20 Zzzz12 Tagb13 Zzzz1 Tagb3",
   "Zzzz1 Tagb2 Zzzz12 Khmr94 Zzzz2 Khmr10 Zzzz6 Khmr10 Zzzz6 Mong2 Zyyy2 Mong1 Zyyy1 Mong20",
   "Zzzz6 Mong89 Zzzz7 Mong43 Zzzz5 Cans70 Zzzz10 Limb31 Zzzz1 Limb12 Zzzz4 Limb12 Zzzz4 Limb1",
   "Zzzz3 Limb12 Tale30 Zzzz2 Tale5 Zzzz11 Talu44 Zzzz4 Talu26 Zzzz6 Talu11 Zzzz3 Talu2 Khmr32",
   "Bugi28 Zzzz2 Bugi2 Lana63 Zzzz1 Lana29 Zzzz2 Lana11 Zzzz6 Lana10 Zzzz6 Lana14 Zzzz2 Zinh46",
   "Zzzz2 Zinh12 Zzzz20 Bali77 Zzzz1 Bali50 Sund64 Batk52 Zzzz8 Batk4 Lepc56 Zzzz3 Lepc15 Zzzz3",
   "Lepc3 Olck48 Cyrl11 Zzzz5 Geor43 Zzzz2 Geor3 Sund8 Zzzz8 Zinh3 Zyyy1 Zinh13 Zyyy1 Zinh7",
   "Zyyy4 Zinh1 Zyyy6 Zinh1 Zyyy3 Zinh2 Zyyy1 Zzzz5 Latn38 Grek5 Cyrl1 Latn49 Grek5 Latn4 Grek5",
   "Latn13 Cyrl1 Latn70 Grek1 Zinh64 Latn256 Grek22 Zzzz2 Grek6 Zzzz2 Grek38 Zzzz2 Grek6 Zzzz2",
   "Grek8 ZzzzGrek3 Zzzz1 Grek31 Zzzz2 Grek53 Zzzz1 Grek15 Zzzz1 Grek14 Zzzz2 Grek6 Zzzz1 Grek19",
   "Zzzz2 Grek3 Zzzz1 Grek9 Zzzz1 Zyyy12 Zinh2 Zyyy87 Zzzz1 Zyyy11 Latn1 Zzzz2 Zyyy11 Latn1",
   "Zyyy15 Zzzz1 Latn13 Zzzz3 Zyyy34 Zzzz14 Zinh33 Zzzz15 Zyyy38 Grek1 Zyyy3 Latn2 Zyyy6 Latn1",
   "Zyyy27 Latn1 Zyyy17 Latn41 Zyyy3 Zzzz4 Zyyy666 Zzzz22 Zyyy11 Zzzz21 Zyyy928 Brai256 Zyyy628",
   "Zzzz2 Zyyy138 Glag96 Latn32 Copt116 Zzzz5 Copt7 Geor38 Zzzz1 Geor1 Zzzz5 Geor1 Zzzz2 Tfng56",
   "Zzzz7 Tfng2 Zzzz14 Tfng1 Ethi23 Zzzz9 Ethi7 Zzzz1 Ethi7 Zzzz1 Ethi7 Zzzz1 Ethi7 Zzzz1 Ethi7",
   "Zzzz1 Ethi7 Zzzz1 Ethi7 Zzzz1 Ethi7 Zzzz1 Cyrl32 Zyyy94 Zzzz34 Hani26 Zzzz1 Hani89 Zzzz12",
   "Hani214 Zzzz26 Zyyy21 Hani1 Zyyy1 Hani1 Zyyy25 Hani9 Zinh4 Hang2 Zyyy8 Hani4 Zyyy4 Zzzz1",
   "Hira86 Zzzz2 Zinh2 Zyyy2 Hira3 Zyyy1 Kana90 Zyyy2 Kana3 Zzzz5 Bopo43 Zzzz1 Hang94 Zzzz1",
   "Zyyy16 Bopo32 Zyyy38 Zzzz9 Zyyy1 Kana16 Hang31 Zzzz1 Zyyy64 Hang31 Zyyy81 Kana47 Zyyy1",
   "Kana88 Zyyy168 Hani6592 Zyyy64 Hani20992 Yiii1165 Zzzz3 Yiii55 Zzzz9 Lisu48 Vaii300 Zzzz20",
   "Cyrl96 Bamu88 Zzzz8 Zyyy34 Latn102 Zyyy3 Latn82 Zzzz20 Latn15 Sylo45 Zzzz3 Zyyy10 Zzzz6",
   "Phag56 Zzzz8 Saur70 Zzzz8 Saur12 Zzzz6 Deva32 Kali46 Zyyy1 Kali1 Rjng36 Zzzz11 Rjng1 Hang29",
   "Zzzz3 Java78 Zzzz1 Zyyy1 Java10 Zzzz4 Java2 Mymr31 Zzzz1 Cham55 Zzzz9 Cham14 Zzzz2 Cham10",
   "Zzzz2 Cham4 Mymr32 Tavt67 Zzzz24 Tavt5 Mtei23 Zzzz10 Ethi6 Zzzz2 Ethi6 Zzzz2 Ethi6 Zzzz9",
   "Ethi7 Zzzz1 Ethi7 Zzzz1 Latn43 Zyyy1 Latn9 Grek1 Latn4 Zyyy2 Zzzz4 Cher80 Mtei46 Zzzz2",
   "Mtei10 Zzzz6 Hang11172 Zzzz12 Hang23 Zzzz4 Hang49 Zzzz8452 Hani366 Zzzz2 Hani106 Zzzz38",
   "Latn7 Zzzz12 Armn5 Zzzz5 Hebr26 Zzzz1 Hebr5 Zzzz1 Hebr1 Zzzz1 Hebr2 Zzzz1 Hebr2 Zzzz1 Hebr10",
   "Arab494 Zyyy2 Arab144 Zzzz32 Arab16 Zinh16 Zyyy10 Zzzz6 Zinh14 Cyrl2 Zyyy35 Zzzz1 Zyyy19",
   "Zzzz1 Zyyy4 Zzzz4 Arab5 Zzzz1 Arab135 Zzzz2 Zyyy1 Zzzz1 Zyyy32 Latn26 Zyyy6 Latn26 Zyyy11",
   "Kana10 Zyyy1 Kana45 Zyyy2 Hang31 Zzzz3 Hang6 Zzzz2 Hang6 Zzzz2 Hang6 Zzzz2 Hang3 Zzzz3 Zyyy7",
   "Zzzz1 Zyyy7 Zzzz10 Zyyy5 Zzzz2 Linb12 Zzzz1 Linb26 Zzzz1 Linb19 Zzzz1 Linb2 Zzzz1 Linb15",
   "Zzzz2 Linb14 Zzzz34 Linb123 Zzzz5 Zyyy3 Zzzz4 Zyyy45 Zzzz3 Zyyy9 Grek79 Zzzz1 Zyyy13 Zzzz3",
   "Grek1 Zzzz47 Zyyy45 Zinh1 Zzzz130 Lyci29 Zzzz3 Cari49 Zzzz15 Zinh1 Zyyy27 Zzzz4 Ital36 Zzzz9",
   "Ital3 Goth27 Zzzz5 Perm43 Zzzz5 Ugar30 Zzzz1 Ugar1 Xpeo36 Zzzz4 Xpeo14 Zzzz42 Dsrt80 Shaw48",
   "Osma30 Zzzz2 Osma10 Zzzz6 Osge36 Zzzz4 Osge36 Zzzz4 Elba40 Zzzz8 Aghb52 Zzzz11 Aghb1 Vith11",
   "Zzzz1 Vith15 Zzzz1 Vith7 Zzzz1 Vith2 Zzzz1 Vith11 Zzzz1 Vith15 Zzzz1 Vith7 Zzzz1 Vith2 Zzzz3",
   "Todr52 Zzzz12 Lina311 Zzzz9 Lina22 Zzzz10 Lina8 Zzzz24 Latn6 Zzzz1 Latn42 Zzzz1 Latn9 Zzzz69",
   "Cprt6 Zzzz2 Cprt1 Zzzz1 Cprt44 Zzzz1 Cprt2 Zzzz3 Cprt1 Zzzz2 Cprt1 Armi22 Zzzz1 Armi9 Palm32",
   "Nbat31 Zzzz8 Nbat9 Zzzz48 Hatr19 Zzzz1 Hatr2 Zzzz5 Hatr5 Phnx28 Zzzz3 Phnx1 Lydi26 Zzzz5",
   "Lydi1 Sidt26 Zzzz38 Mero32 Merc24 Zzzz4 Merc20 Zzzz2 Merc46 Khar4 Zzzz1 Khar2 Zzzz5 Khar8",
   "Zzzz1 Khar3 Zzzz1 Khar29 Zzzz2 Khar3 Zzzz4 Khar10 Zzzz7 Khar9 Zzzz7 Sarb32 Narb32 Zzzz32",
   "Mani39 Zzzz4 Mani12 Zzzz9 Avst54 Zzzz3 Avst7 Prti22 Zzzz2 Prti8 Phli19 Zzzz5 Phli8 Phlp18",
   "Zzzz7 Phlp4 Zzzz12 Phlp7 Zzzz80 Orkh73 Zzzz55 Hung51 Zzzz13 Hung51 Zzzz7 Hung6 Rohg40 Zzzz8",
   "Rohg10 Zzzz6 Gara38 Zzzz3 Gara29 Zzzz8 Gara2 Zzzz208 Arab31 Zzzz1 Yezi42 Zzzz1 Yezi3 Zzzz2",
   "Yezi2 Zzzz16 Arab6 Zzzz8 Arab9 Zzzz33 Arab6 Sogo40 Zzzz8 Sogd42 Zzzz22 Ougr26 Zzzz38 Chrs28",
   "Zzzz20 Elym23 Zzzz9 Brah78 Zzzz4 Brah36 Zzzz9 Brah1 Kthi67 Zzzz10 Kthi1 Zzzz2 Sora25 Zzzz7",
   "Sora10 Zzzz6 Cakm53 Zzzz1 Cakm18 Zzzz8 Mahj39 Zzzz9 Shrd96 Zzzz1 Sinh20 Zzzz11 Khoj18 Zzzz1",
   "Khoj47 Zzzz62 Mult7 Zzzz1 Mult1 Zzzz1 Mult4 Zzzz1 Mult15 Zzzz1 Mult11 Zzzz6 Sind59 Zzzz5",
   "Sind10 Zzzz6 Gran4 Zzzz1 Gran8 Zzzz2 Gran2 Zzzz2 Gran22 Zzzz1 Gran7 Zzzz1 Gran2 Zzzz1 Gran5",
   "Zzzz1 Zinh1 Gran9 Zzzz2 Gran2 Zzzz2 Gran3 Zzzz2 Gran1 Zzzz6 Gran1 Zzzz5 Gran7 Zzzz2 Gran7",
   "Zzzz3 Gran5 Zzzz11 Tutg10 Zzzz1 Tutg1 Zzzz2 Tutg1 Zzzz1 Tutg38 Zzzz1 Tutg10 Zzzz1 Tutg1",
   "Zzzz2 Tutg1 Zzzz1 Tutg4 Zzzz1 Tutg10 Zzzz1 Tutg2 Zzzz8 Tutg2 Zzzz29 Newa92 Zzzz1 Newa5",
   "Zzzz30 Tirh72 Zzzz8 Tirh10 Zzzz166 Sidd54 Zzzz2 Sidd38 Zzzz34 Modi69 Zzzz11 Modi10 Zzzz6",
   "Mong13 Zzzz19 Takr58 Zzzz6 Takr10 Zzzz6 Mymr20 Zzzz28 Ahom27 Zzzz2 Ahom15 Zzzz4 Ahom23",
   "Zzzz185 Dogr60 Zzzz100 Wara83 Zzzz12 Wara1 Diak7 Zzzz2 Diak1 Zzzz2 Diak8 Zzzz1 Diak2 Zzzz1",
   "Diak30 Zzzz1 Diak2 Zzzz2 Diak12 Zzzz9 Diak10 Zzzz70 Nand8 Zzzz2 Nand46 Zzzz2 Nand11 Zzzz27",
   "Zanb72 Zzzz8 Soyo83 Zzzz13 Cans16 Pauc57 Zzzz7 Deva10 Zzzz86 Shrd8 Zzzz88 Sunu34 Zzzz14",
   "Sunu10 Zzzz6 Bhks9 Zzzz1 Bhks45 Zzzz1 Bhks14 Zzzz10 Bhks29 Zzzz3 Marc32 Zzzz2 Marc22 Zzzz1",
   "Marc14 Zzzz73 Gonm7 Zzzz1 Gonm2 Zzzz1 Gonm44 Zzzz3 Gonm1 Zzzz1 Gonm2 Zzzz1 Gonm9 Zzzz8",
   "Gonm10 Zzzz6 Gong6 Zzzz1 Gong2 Zzzz1 Gong37 Zzzz1 Gong2 Zzzz1 Gong6 Zzzz7 Gong10 Zzzz6",
   "Tols44 Zzzz4 Tols10 Zzzz246 Maka25 Zzzz7 Kawi17 Zzzz1 Kawi41 Zzzz3 Kawi29 Zzzz85 Lisu1",
   "Zzzz15 Taml50 Zzzz13 Taml1 Xsux922 Zzzz102 Xsux111 Zzzz1 Xsux5 Zzzz11 Xsux196 Zzzz2636",
   "Cpmn99 Zzzz13 Egyp1110 Zzzz10 Egyp3995 Zzzz5 Hluw583 Zzzz6841 Gukh58 Zzzz1734 Bamu569 Zzzz7",
   "Mroo31 Zzzz1 Mroo10 Zzzz4 Mroo2 Tnsa79 Zzzz1 Tnsa10 Zzzz6 Bass30 Zzzz2 Bass6 Zzzz10 Hmng70",
   "Zzzz10 Hmng10 Zzzz1 Hmng7 Zzzz1 Hmng21 Zzzz5 Hmng19 Zzzz432 Krai58 Zzzz198 Medf91 Zzzz5",
   "Berf25 Zzzz2 Berf25 Zzzz44 Plrd75 Zzzz4 Plrd57 Zzzz7 Plrd17 Zzzz64 Tang1 Nshu1 Hani2 Kits1",
   "Zzzz11 Hani7 Zzzz9 Tang6912 Kits470 Zzzz41 Kits1 Tang31 Zzzz97 Tang115 Zzzz8701 Kana4 Zzzz1",
   "Kana7 Zzzz1 Kana2 Zzzz1 Kana1 Hira287 Kana3 Zzzz15 Hira1 Zzzz29 Hira3 Zzzz2 Kana1 Zzzz14",
   "Kana4 Zzzz8 Nshu396 Zzzz2308 Dupl107 Zzzz5 Dupl13 Zzzz3 Dupl9 Zzzz7 Dupl10 Zzzz2 Dupl4 Zyyy4",
   "Zzzz3932 Zyyy253 Zzzz3 Zyyy436 Zzzz6 Zyyy23 Zzzz15 Zyyy17 Zzzz15 Zinh46 Zzzz2 Zinh23 Zzzz9",
   "Zyyy116 Zzzz60 Zyyy246 Zzzz10 Zyyy39 Zzzz2 Zyyy62 Zinh3 Zyyy17 Zinh8 Zyyy2 Zinh7 Zyyy30",
   "Zinh4 Zyyy61 Zzzz21 Grek70 Zzzz122 Zyyy20 Zzzz12 Zyyy20 Zzzz12 Zyyy87 Zzzz9 Zyyy25 Zzzz135",
   "Zyyy85 Zzzz1 Zyyy71 Zzzz1 Zyyy2 Zzzz2 Zyyy1 Zzzz2 Zyyy2 Zzzz2 Zyyy4 Zzzz1 Zyyy12 Zzzz1 Zyyy1",
   "Zzzz1 Zyyy7 Zzzz1 Zyyy65 Zzzz1 Zyyy4 Zzzz2 Zyyy8 Zzzz1 Zyyy7 Zzzz1 Zyyy28 Zzzz1 Zyyy4 Zzzz1",
   "Zyyy5 Zzzz1 Zyyy1 Zzzz3 Zyyy7 Zzzz1 Zyyy340 Zzzz2 Zyyy292 Zzzz2 Zyyy50 Sgnw652 Zzzz15 Sgnw5",
   "Zzzz1 Sgnw15 Zzzz1104 Latn31 Zzzz6 Latn6 Zzzz213 Glag7 Zzzz1 Glag17 Zzzz2 Glag7 Zzzz1 Glag2",
   "Zzzz1 Glag5 Zzzz5 Cyrl62 Zzzz33 Cyrl1 Zzzz112 Hmnp45 Zzzz3 Hmnp14 Zzzz2 Hmnp10 Zzzz4 Hmnp2",
   "Zzzz320 Toto31 Zzzz17 Wcho58 Zzzz5 Wcho1 Zzzz464 Nagm42 Zzzz214 Onao43 Zzzz4 Onao1 Zzzz192",
   "Tayo31 Zzzz1 Tayo22 Zzzz8 Tayo2 Zzzz224 Ethi7 Zzzz1 Ethi4 Zzzz1 Ethi2 Zzzz1 Ethi15 Zzzz1",
   "Mend197 Zzzz2 Mend16 Zzzz41 Adlm76 Zzzz4 Adlm10 Zzzz4 Adlm2 Zzzz785 Zyyy68 Zzzz76 Zyyy61",
   "Zzzz194 Arab4 Zzzz1 Arab27 Zzzz1 Arab2 Zzzz1 Arab1 Zzzz2 Arab1 Zzzz1 Arab10 Zzzz1 Arab4",
   "ZzzzArab2 Zzzz6 Arab1 Zzzz4 ArabZzzz3 Arab3 Zzzz1 Arab2 Zzzz1 Arab1 Zzzz2 ArabZzzz5 Arab2",
   "Zzzz1 Arab1 Zzzz2 Arab4 Zzzz1 Arab7 Zzzz1 Arab4 Zzzz1 Arab4 Zzzz1 Arab1 Zzzz1 Arab10 Zzzz1",
   "Arab17 Zzzz5 Arab3 Zzzz1 Arab5 Zzzz1 Arab17 Zzzz52 Arab2 Zzzz270 Zyyy44 Zzzz4 Zyyy100 Zzzz12",
   "Zyyy15 Zzzz2 Zyyy15 Zzzz1 Zyyy15 Zzzz1 Zyyy37 Zzzz10 Zyyy174 Zzzz56 Zyyy26 Hira1 Zyyy2",
   "Zzzz13 Zyyy44 Zzzz4 Zyyy9 Zzzz7 Zyyy2 Zzzz14 Zyyy6 Zzzz154 Zyyy985 Zzzz3 Zyyy17 Zzzz3 Zyyy13",
   "Zzzz3 Zyyy218 Zzzz6 Zyyy12 Zzzz4 Zyyy1 Zzzz15 Zyyy12 Zzzz4 Zyyy56 Zzzz8 Zyyy10 Zzzz6 Zyyy40",
   "Zzzz8 Zyyy30 Zzzz2 Zyyy12 Zzzz4 Zyyy2 Zzzz14 Zyyy9 Zzzz39 Zyyy344 Zzzz8 Zyyy14 Zzzz2 Zyyy13",
   "Zzzz3 Zyyy11 Zzzz3 Zyyy57 Zzzz1 Zyyy1 Zzzz4 Zyyy16 Zzzz2 Zyyy12 Zzzz4 Zyyy10 Zzzz7 Zyyy147",
   "Zzzz1 Zyyy103 Zzzz1029 Hani42720 Zzzz32 Hani4382 Zzzz2 Hani5774 Zzzz2 Hani7473 Zzzz15",
   "Hani622 Zzzz2466 Hani542 Zzzz1506 Hani4939 Zzzz5 Hani8490 Zzzz707463 Zyyy1 Zzzz30 Zyyy96",
   "Zzzz128 Zinh240 Zzzz196112"]

/-- Each script with its names. -/
def scriptNameText : List String :=
  ["Adlm=adlm,adlam Aghb=aghb,caucasianalbanian Ahom=ahom Arab=arab,arabic",
   "Armi=armi,imperialaramaic Armn=armn,armenian Avst=avst,avestan Bali=bali,balinese",
   "Bamu=bamu,bamum Bass=bass,bassavah Batk=batk,batak Beng=beng,bengali Berf=berf,beriaerfe",
   "Bhks=bhks,bhaiksuki Bopo=bopo,bopomofo Brah=brah,brahmi Brai=brai,braille Bugi=bugi,buginese",
   "Buhd=buhd,buhid Cakm=cakm,chakma Cans=cans,canadianaboriginal Cari=cari,carian Cham=cham",
   "Cher=cher,cherokee Chrs=chrs,chorasmian Copt=copt,coptic,qaac Cpmn=cpmn,cyprominoan",
   "Cprt=cprt,cypriot Cyrl=cyrl,cyrillic Deva=deva,devanagari Diak=diak,divesakuru",
   "Dogr=dogr,dogra Dsrt=dsrt,deseret Dupl=dupl,duployan Egyp=egyp,egyptianhieroglyphs",
   "Elba=elba,elbasan Elym=elym,elymaic Ethi=ethi,ethiopic Gara=gara,garay Geor=geor,georgian",
   "Glag=glag,glagolitic Gong=gong,gunjalagondi Gonm=gonm,masaramgondi Goth=goth,gothic",
   "Gran=gran,grantha Grek=grek,greek Gujr=gujr,gujarati Gukh=gukh,gurungkhema",
   "Guru=guru,gurmukhi Hang=hang,hangul Hani=hani,han Hano=hano,hanunoo Hatr=hatr,hatran",
   "Hebr=hebr,hebrew Hira=hira,hiragana Hluw=hluw,anatolianhieroglyphs Hmng=hmng,pahawhhmong",
   "Hmnp=hmnp,nyiakengpuachuehmong Hung=hung,oldhungarian Ital=ital,olditalic Java=java,javanese",
   "Kali=kali,kayahli Kana=kana,katakana Kawi=kawi Khar=khar,kharoshthi Khmr=khmr,khmer",
   "Khoj=khoj,khojki Kits=kits,khitansmallscript Knda=knda,kannada Krai=krai,kiratrai",
   "Kthi=kthi,kaithi Lana=lana,taitham Laoo=laoo,lao Latn=latn,latin Lepc=lepc,lepcha",
   "Limb=limb,limbu Lina=lina,lineara Linb=linb,linearb Lisu=lisu Lyci=lyci,lycian",
   "Lydi=lydi,lydian Mahj=mahj,mahajani Maka=maka,makasar Mand=mand,mandaic Mani=mani,manichaean",
   "Marc=marc,marchen Medf=medf,medefaidrin Mend=mend,mendekikakui Merc=merc,meroiticcursive",
   "Mero=mero,meroitichieroglyphs Mlym=mlym,malayalam Modi=modi Mong=mong,mongolian",
   "Mroo=mroo,mro Mtei=mtei,meeteimayek Mult=mult,multani Mymr=mymr,myanmar Nagm=nagm,nagmundari",
   "Nand=nand,nandinagari Narb=narb,oldnortharabian Nbat=nbat,nabataean Newa=newa Nkoo=nkoo,nko",
   "Nshu=nshu,nushu Ogam=ogam,ogham Olck=olck,olchiki Onao=onao,olonal Orkh=orkh,oldturkic",
   "Orya=orya,oriya Osge=osge,osage Osma=osma,osmanya Ougr=ougr,olduyghur Palm=palm,palmyrene",
   "Pauc=pauc,paucinhau Perm=perm,oldpermic Phag=phag,phagspa Phli=phli,inscriptionalpahlavi",
   "Phlp=phlp,psalterpahlavi Phnx=phnx,phoenician Plrd=plrd,miao Prti=prti,inscriptionalparthian",
   "Rjng=rjng,rejang Rohg=rohg,hanifirohingya Runr=runr,runic Samr=samr,samaritan",
   "Sarb=sarb,oldsoutharabian Saur=saur,saurashtra Sgnw=sgnw,signwriting Shaw=shaw,shavian",
   "Shrd=shrd,sharada Sidd=sidd,siddham Sidt=sidt,sidetic Sind=sind,khudawadi Sinh=sinh,sinhala",
   "Sogd=sogd,sogdian Sogo=sogo,oldsogdian Sora=sora,sorasompeng Soyo=soyo,soyombo",
   "Sund=sund,sundanese Sunu=sunu,sunuwar Sylo=sylo,sylotinagri Syrc=syrc,syriac",
   "Tagb=tagb,tagbanwa Takr=takr,takri Tale=tale,taile Talu=talu,newtailue Taml=taml,tamil",
   "Tang=tang,tangut Tavt=tavt,taiviet Tayo=tayo,taiyo Telu=telu,telugu Tfng=tfng,tifinagh",
   "Tglg=tglg,tagalog Thaa=thaa,thaana Thai=thai Tibt=tibt,tibetan Tirh=tirh,tirhuta",
   "Tnsa=tnsa,tangsa Todr=todr,todhri Tols=tols,tolongsiki Toto=toto Tutg=tutg,tulutigalari",
   "Ugar=ugar,ugaritic Vaii=vaii,vai Vith=vith,vithkuqi Wara=wara,warangciti Wcho=wcho,wancho",
   "Xpeo=xpeo,oldpersian Xsux=xsux,cuneiform Yezi=yezi,yezidi Yiii=yiii,yi",
   "Zanb=zanb,zanabazarsquare Zinh=zinh,inherited,qaai Zyyy=zyyy,common Zzzz=zzzz,unknown"]

/-- Ranges whose set of scripts is not just their own script. -/
def scriptExtensionText : List String :=
  ["B7=Avst,Cari,Copt,Dupl,Elba,Geor,Glag,Gong,Goth,Grek,Hani,Latn,Lydi,Mahj,Perm,Shaw",
   "2BC=Beng,Cyrl,Deva,Latn,Lisu,Thai,Toto 2C7=Bopo,Latn 2C9-2CB=Bopo,Latn 2D9=Bopo,Latn",
   "2CD=Latn,Lisu 2D7=Latn,Thai 300=Cher,Copt,Cyrl,Grek,Latn,Perm,Sunu,Tale",
   "301=Cher,Cyrl,Grek,Latn,Osge,Sunu,Tale,Todr 302=Cher,Cyrl,Latn,Tfng",
   "303=Glag,Latn,Sunu,Syrc,Thai 304=Aghb,Cher,Copt,Cyrl,Goth,Grek,Latn,Osge,Syrc,Tfng,Todr",
   "305=Copt,Elba,Glag,Goth,Kana,Latn 306=Cyrl,Grek,Latn,Perm,Tfng",
   "307=Copt,Dupl,Hebr,Latn,Perm,Syrc,Tale,Tfng,Todr",
   "308=Armn,Cyrl,Dupl,Goth,Grek,Hebr,Latn,Perm,Syrc,Tale,Tfng 309=Latn,Tfng 30A=Dupl,Latn,Syrc",
   "30B=Cher,Cyrl,Latn,Osge 30C=Cher,Latn,Tale 30D=Latn,Sunu 310=Latn,Sunu 30E=Ethi,Latn",
   "311=Cyrl,Latn,Todr 313=Grek,Latn,Perm,Todr 323=Cher,Dupl,Kana,Latn,Syrc,Tfng",
   "324=Cher,Dupl,Latn,Syrc 325=Latn,Syrc 32E=Latn,Syrc 32D=Latn,Sunu,Syrc 330=Cher,Latn,Syrc",
   "331=Aghb,Cher,Goth,Latn,Sunu,Syrc,Thai 342=Grek 345=Grek 1DC0-1DC1=Grek 358=Latn,Osge",
   "35E=Aghb,Latn,Todr 363-36F=Latn 374-375=Copt,Grek 483=Cyrl,Perm 484=Cyrl,Glag 487=Cyrl,Glag",
   "2E43=Cyrl,Glag A66F=Cyrl,Glag 485-486=Cyrl,Latn 589=Armn,Geor,Glag",
   "60C=Arab,Gara,Nkoo,Rohg,Syrc,Thaa,Yezi 61B=Arab,Gara,Nkoo,Rohg,Syrc,Thaa,Yezi",
   "61C=Arab,Syrc,Thaa 61F=Adlm,Arab,Gara,Nkoo,Rohg,Syrc,Thaa,Yezi",
   "640=Adlm,Arab,Mand,Mani,Ougr,Phlp,Rohg,Sogd,Syrc 64B-655=Arab,Syrc 670=Arab,Syrc",
   "660-669=Arab,Thaa,Yezi 6D4=Arab,Rohg",
   "951=Beng,Deva,Gran,Gujr,Guru,Knda,Latn,Mlym,Nand,Newa,Orya,Shrd,Taml,Telu,Tirh",
   "952=Beng,Deva,Gran,Gujr,Guru,Knda,Latn,Mlym,Newa,Orya,Taml,Telu,Tirh",
   "964=Beng,Deva,Dogr,Gong,Gonm,Gran,Gujr,Guru,Knda,Mahj,Mlym,Nand,Onao,Orya,Sind,Sinh,Sylo,Takr,Taml,Telu,Tirh",
   "965=Beng,Deva,Dogr,Gong,Gonm,Gran,Gujr,Gukh,Guru,Knda,Limb,Mahj,Mlym,Nand,Onao,Orya,Sind,Sinh,Sylo,Takr,Taml,Telu,Tirh",
   "966-96F=Deva,Dogr,Kthi,Mahj 9E6-9EF=Beng,Cakm,Sylo A66-A6F=Guru,Mult AE6-AEF=Gujr,Khoj",
   "BE6-BF3=Gran,Taml 11301=Gran,Taml 11303=Gran,Taml 1133B-1133C=Gran,Taml",
   "11FD0-11FD1=Gran,Taml 11FD3=Gran,Taml CE6-CEF=Knda,Nand,Tutg 1040-1049=Cakm,Mymr,Tale",
   "10FB=Geor,Glag,Latn 16EB-16ED=Runr 1735-1736=Buhd,Hano,Tagb,Tglg 1802-1803=Mong,Phag",
   "1805=Mong,Phag 1CD0=Beng,Deva,Gran,Knda 1CD2=Beng,Deva,Gran,Knda 1CD1=Deva 1CD4=Deva",
   "1CDB=Deva 1CDE-1CDF=Deva 1CE3-1CE8=Deva 1CEC=Deva 1CEE-1CF1=Deva 1CD3=Deva,Gran,Knda",
   "1CD5=Beng,Deva,Newa,Telu,Tirh 1CD6=Beng,Deva,Telu 1CD7=Deva,Newa,Shrd",
   "1CD8=Beng,Deva,Newa,Telu 1CD9=Deva,Shrd 1CDC-1CDD=Deva,Shrd 1CE0=Deva,Shrd",
   "1CDA=Deva,Knda,Mlym,Orya,Taml,Telu 1CE1=Beng,Deva 1CF5-1CF6=Beng,Deva 1CE2=Deva,Newa,Tirh",
   "1CE9=Deva,Nand,Newa 1CEA=Beng,Deva,Shrd 1CEB=Deva,Newa 1CED=Beng,Deva,Newa,Shrd",
   "1CF2=Beng,Deva,Gran,Knda,Mlym,Nand,Orya,Sinh,Telu,Tirh,Tutg 1CF3=Deva,Gran",
   "1CF8-1CF9=Deva,Gran 1CF4=Deva,Gran,Knda,Tutg 1CF7=Beng 1CFA=Nand 1DF8=Cyrl,Latn,Syrc",
   "1DFA=Syrc 202F=Latn,Mong,Phag 204F=Adlm,Arab 205A=Cari,Geor,Glag,Hung,Lyci,Orkh",
   "205D=Cari,Grek,Hung,Mero 20F0=Deva,Gran,Latn 2E17=Copt,Latn 2E30=Avst,Orkh",
   "2E31=Avst,Cari,Geor,Hung,Kthi,Lydi,Samr 2E3C=Dupl 1BCA0-1BCA3=Dupl 2E41=Adlm,Arab,Hung",
   "2FF0-2FFF=Hani,Tang 31EF=Hani,Tang 3001=Bopo,Hang,Hani,Hira,Kana,Mong,Yiii",
   "3002=Bopo,Hang,Hani,Hira,Kana,Mong,Phag,Yiii 3003=Bopo,Hang,Hani,Hira,Kana",
   "3013=Bopo,Hang,Hani,Hira,Kana 301C-301F=Bopo,Hang,Hani,Hira,Kana",
   "3030=Bopo,Hang,Hani,Hira,Kana 3037=Bopo,Hang,Hani,Hira,Kana",
   "FE45-FE46=Bopo,Hang,Hani,Hira,Kana 3006=Hani 303E-303F=Hani 3190-319F=Hani 31C0-31E5=Hani",
   "3220-3247=Hani 3280-32B0=Hani 32C0-32CB=Hani 32FF=Hani 3358-3370=Hani 337B-337F=Hani",
   "33E0-33FE=Hani 1D360-1D371=Hani 1F250-1F251=Hani",
   "3008-3009=Bopo,Hang,Hani,Hira,Kana,Mong,Tibt,Yiii",
   "300A-300B=Bopo,Hang,Hani,Hira,Kana,Lisu,Mong,Tibt,Yiii",
   "300C-3011=Bopo,Hang,Hani,Hira,Kana,Yiii 3014-301B=Bopo,Hang,Hani,Hira,Kana,Yiii",
   "30FB=Bopo,Hang,Hani,Hira,Kana,Yiii FF61-FF65=Bopo,Hang,Hani,Hira,Kana,Yiii",
   "302A-302D=Bopo,Hani 3031-3035=Hira,Kana 3099-309C=Hira,Kana 30A0=Hira,Kana 30FC=Hira,Kana",
   "FF70=Hira,Kana FF9E-FF9F=Hira,Kana 303C-303D=Hani,Hira,Kana A700-A707=Hani,Latn",
   "A830-A832=Deva,Dogr,Gujr,Guru,Khoj,Knda,Kthi,Mahj,Mlym,Modi,Nand,Shrd,Sind,Takr,Tirh,Tutg",
   "A833-A835=Deva,Dogr,Gujr,Guru,Khoj,Knda,Kthi,Mahj,Modi,Nand,Shrd,Sind,Takr,Tirh,Tutg",
   "A836-A837=Deva,Dogr,Gujr,Guru,Khoj,Kthi,Mahj,Modi,Sind,Takr,Tirh",
   "A839=Deva,Dogr,Gujr,Guru,Khoj,Kthi,Mahj,Modi,Sind,Takr,Tirh",
   "A838=Deva,Dogr,Gujr,Guru,Khoj,Kthi,Mahj,Modi,Shrd,Sind,Takr,Tirh A8F1=Beng,Deva,Tutg",
   "A8F3=Deva,Taml A92E=Kali,Latn,Mymr A9CF=Bugi,Java FD3E-FD3F=Arab,Nkoo FDF2=Arab,Thaa",
   "FDFD=Arab,Thaa 10100-10101=Cpmn,Cprt,Linb 10102=Cprt,Linb 10137-1013F=Cprt,Linb",
   "10107-10133=Cprt,Lina,Linb 102E0-102FB=Arab,Copt 10AF2=Mani,Ougr"]

/-- Splits words of the form `key=a,b` into key and values. -/
def keyedWords (lines : List String) : List (String × List String) :=
  (words lines).filterMap fun word =>
    match pieces (· == '=') word with
    | [key, values] => some (String.ofList key, (pieces (· == ',') values).map String.ofList)
    | _ => none

/-- Each script with its names, in lower case and without separators. -/
def scriptNames : List (String × List String) := keyedWords scriptNameText

/-- The script with the given name. -/
def scriptNamed? (name : String) : Option String :=
  (scriptNames.find? fun e => e.2.contains name).map (·.1)

/-- The code points of a script. -/
def script (label : String) : Ranges := labelled scriptRuns [label]

/-- The ranges whose set of scripts is not just their own script, with that set. -/
def scriptExtensions : List (Ranges × List String) :=
  (keyedWords scriptExtensionText).map fun (key, scripts) => (Ranges.ofText [key], scripts)

/-- The code points used in a script. -/
def scriptExtension (label : String) : Ranges :=
  let exceptions := Ranges.normalize (scriptExtensions.flatMap (·.1))
  let added := Ranges.normalize
    ((scriptExtensions.filter fun e => e.2.contains label).flatMap (·.1))
  Ranges.union (Ranges.diff (script label) exceptions) added

end Taskweave.Unicode
