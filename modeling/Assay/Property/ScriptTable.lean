/-!
# Scripts

The script of each code point, as runs, the characters that are used with other scripts than
their own, and the names of the scripts, after version 16.0 of the Unicode data.
-/

namespace Assay

/-- The scripts by their codes of four letters. Characters of no script of their own are
`Zyyy`, marks that take the script of their base `Zinh`, and code points without a character
`Zzzz`. -/
def scriptLines : List String :=
  ["Zyyy65Latn26Zyyy6Latn26Zyyy47LatnZyyy15LatnZyyy5Latn23ZyyyLatn31ZyyyLatn449Zyyy39Latn5Zyyy5",
   "Bopo2Zyyy20Zinh112Grek4ZyyyGrek3Zzzz2Grek4ZyyyGrekZzzz4GrekZyyyGrekZyyyGrek3ZzzzGrekZzzz",
   "Grek20ZzzzGrek63Copt14Grek16Cyrl133Zinh2Cyrl169ZzzzArmn38Zzzz2Armn50Zzzz2Armn3ZzzzHebr55Zzzz8",
   "Hebr27Zzzz4Hebr6Zzzz11Arab5ZyyyArab6ZyyyArab14ZyyyArab3ZyyyArab32ZyyyArab10Zinh11Arab26Zinh",
   "Arab108ZyyyArab34Syrc14ZzzzSyrc60Zzzz2Syrc3Arab48Thaa50Zzzz14Nkoo59Zzzz2Nkoo3Samr46Zzzz2",
   "Samr15ZzzzMand28Zzzz2MandZzzzSyrc11Zzzz5Arab31ZzzzArab2Zzzz5Arab75ZyyyArab29Deva81Zinh4Deva15",
   "Zyyy2Deva26Beng4ZzzzBeng8Zzzz2Beng2Zzzz2Beng22ZzzzBeng7ZzzzBengZzzz3Beng4Zzzz2Beng9Zzzz2Beng2",
   "Zzzz2Beng4Zzzz8BengZzzz4Beng2ZzzzBeng5Zzzz2Beng25Zzzz2Guru3ZzzzGuru6Zzzz4Guru2Zzzz2Guru22Zzzz",
   "Guru7ZzzzGuru2ZzzzGuru2ZzzzGuru2Zzzz2GuruZzzzGuru5Zzzz4Guru2Zzzz2Guru3Zzzz3GuruZzzz7Guru4Zzzz",
   "GuruZzzz7Guru17Zzzz10Gujr3ZzzzGujr9ZzzzGujr3ZzzzGujr22ZzzzGujr7ZzzzGujr2ZzzzGujr5Zzzz2Gujr10",
   "ZzzzGujr3ZzzzGujr3Zzzz2GujrZzzz15Gujr4Zzzz2Gujr12Zzzz7Gujr7ZzzzOrya3ZzzzOrya8Zzzz2Orya2Zzzz2",
   "Orya22ZzzzOrya7ZzzzOrya2ZzzzOrya5Zzzz2Orya9Zzzz2Orya2Zzzz2Orya3Zzzz7Orya3Zzzz4Orya2ZzzzOrya5",
   "Zzzz2Orya18Zzzz10Taml2ZzzzTaml6Zzzz3Taml3ZzzzTaml4Zzzz3Taml2ZzzzTamlZzzzTaml2Zzzz3Taml2Zzzz3",
   "Taml3Zzzz3Taml12Zzzz4Taml5Zzzz3Taml3ZzzzTaml4Zzzz2TamlZzzz6TamlZzzz14Taml21Zzzz5Telu13Zzzz",
   "Telu3ZzzzTelu23ZzzzTelu16Zzzz2Telu9ZzzzTelu3ZzzzTelu4Zzzz7Telu2ZzzzTelu3Zzzz2TeluZzzz2Telu4",
   "Zzzz2Telu10Zzzz7Telu9Knda13ZzzzKnda3ZzzzKnda23ZzzzKnda10ZzzzKnda5Zzzz2Knda9ZzzzKnda3ZzzzKnda4",
   "Zzzz7Knda2Zzzz6Knda2ZzzzKnda4Zzzz2Knda10ZzzzKnda3Zzzz12Mlym13ZzzzMlym3ZzzzMlym51ZzzzMlym3Zzzz",
   "Mlym6Zzzz4Mlym16Zzzz2Mlym26ZzzzSinh3ZzzzSinh18Zzzz3Sinh24ZzzzSinh9ZzzzSinhZzzz2Sinh7Zzzz3Sinh",
   "Zzzz4Sinh6ZzzzSinhZzzzSinh8Zzzz6Sinh10Zzzz2Sinh3Zzzz12Thai58Zzzz4ZyyyThai28Zzzz37Laoo2Zzzz",
   "LaooZzzzLaoo5ZzzzLaoo24ZzzzLaooZzzzLaoo23Zzzz2Laoo5ZzzzLaooZzzzLaoo7ZzzzLaoo10Zzzz2Laoo4",
   "Zzzz32Tibt72ZzzzTibt36Zzzz4Tibt39ZzzzTibt36ZzzzTibt15ZzzzTibt7Zyyy4Tibt2Zzzz37Mymr160Geor38",
   "ZzzzGeorZzzz5GeorZzzz2Geor43ZyyyGeor4Hang256Ethi73ZzzzEthi4Zzzz2Ethi7ZzzzEthiZzzzEthi4Zzzz2",
   "Ethi41ZzzzEthi4Zzzz2Ethi33ZzzzEthi4Zzzz2Ethi7ZzzzEthiZzzzEthi4Zzzz2Ethi15ZzzzEthi57ZzzzEthi4",
   "Zzzz2Ethi67Zzzz2Ethi32Zzzz3Ethi26Zzzz6Cher86Zzzz2Cher6Zzzz2Cans640Ogam29Zzzz3Runr75Zyyy3",
   "Runr11Zzzz7Tglg22Zzzz9TglgHano21Zyyy2Zzzz9Buhd20Zzzz12Tagb13ZzzzTagb3ZzzzTagb2Zzzz12Khmr94",
   "Zzzz2Khmr10Zzzz6Khmr10Zzzz6Mong2Zyyy2MongZyyyMong20Zzzz6Mong89Zzzz7Mong43Zzzz5Cans70Zzzz10",
   "Limb31ZzzzLimb12Zzzz4Limb12Zzzz4LimbZzzz3Limb12Tale30Zzzz2Tale5Zzzz11Talu44Zzzz4Talu26Zzzz6",
   "Talu11Zzzz3Talu2Khmr32Bugi28Zzzz2Bugi2Lana63ZzzzLana29Zzzz2Lana11Zzzz6Lana10Zzzz6Lana14Zzzz2",
   "Zinh31Zzzz49Bali77ZzzzBali50Sund64Batk52Zzzz8Batk4Lepc56Zzzz3Lepc15Zzzz3Lepc3Olck48Cyrl11",
   "Zzzz5Geor43Zzzz2Geor3Sund8Zzzz8Zinh3ZyyyZinh13ZyyyZinh7Zyyy4ZinhZyyy6ZinhZyyy3Zinh2ZyyyZzzz5",
   "Latn38Grek5CyrlLatn49Grek5Latn4Grek5Latn13CyrlLatn70GrekZinh64Latn256Grek22Zzzz2Grek6Zzzz2",
   "Grek38Zzzz2Grek6Zzzz2Grek8ZzzzGrekZzzzGrekZzzzGrekZzzzGrek31Zzzz2Grek53ZzzzGrek15ZzzzGrek14",
   "Zzzz2Grek6ZzzzGrek19Zzzz2Grek3ZzzzGrek9ZzzzZyyy12Zinh2Zyyy87ZzzzZyyy11LatnZzzz2Zyyy11Latn",
   "Zyyy15ZzzzLatn13Zzzz3Zyyy33Zzzz15Zinh33Zzzz15Zyyy38GrekZyyy3Latn2Zyyy6LatnZyyy27LatnZyyy17",
   "Latn41Zyyy3Zzzz4Zyyy666Zzzz22Zyyy11Zzzz21Zyyy928Brai256Zyyy628Zzzz2Zyyy32ZzzzZyyy105Glag96",
   "Latn32Copt116Zzzz5Copt7Geor38ZzzzGeorZzzz5GeorZzzz2Tfng56Zzzz7Tfng2Zzzz14TfngEthi23Zzzz9Ethi7",
   "ZzzzEthi7ZzzzEthi7ZzzzEthi7ZzzzEthi7ZzzzEthi7ZzzzEthi7ZzzzEthi7ZzzzCyrl32Zyyy94Zzzz34Hani26",
   "ZzzzHani89Zzzz12Hani214Zzzz26Zyyy21HaniZyyyHaniZyyy25Hani9Zinh4Hang2Zyyy8Hani4Zyyy4ZzzzHira86",
   "Zzzz2Zinh2Zyyy2Hira3ZyyyKana90Zyyy2Kana3Zzzz5Bopo43ZzzzHang94ZzzzZyyy16Bopo32Zyyy38Zzzz9Zyyy",
   "Kana16Hang31ZzzzZyyy64Hang31Zyyy81Kana47ZyyyKana88Zyyy168Hani6592Zyyy64Hani20992Yiii1165Zzzz3",
   "Yiii55Zzzz9Lisu48Vaii300Zzzz20Cyrl96Bamu88Zzzz8Zyyy34Latn102Zyyy3Latn67Zzzz2Latn2ZzzzLatnZzzz",
   "Latn8Zzzz21Latn14Sylo45Zzzz3Zyyy10Zzzz6Phag56Zzzz8Saur70Zzzz8Saur12Zzzz6Deva32Kali46ZyyyKali",
   "Rjng36Zzzz11RjngHang29Zzzz3Java78ZzzzZyyyJava10Zzzz4Java2Mymr31ZzzzCham55Zzzz9Cham14Zzzz2",
   "Cham10Zzzz2Cham4Mymr32Tavt67Zzzz24Tavt5Mtei23Zzzz10Ethi6Zzzz2Ethi6Zzzz2Ethi6Zzzz9Ethi7Zzzz",
   "Ethi7ZzzzLatn43ZyyyLatn9GrekLatn4Zyyy2Zzzz4Cher80Mtei46Zzzz2Mtei10Zzzz6Hang11172Zzzz12Hang23",
   "Zzzz4Hang49Zzzz8452Hani366Zzzz2Hani106Zzzz38Latn7Zzzz12Armn5Zzzz5Hebr26ZzzzHebr5ZzzzHebrZzzz",
   "Hebr2ZzzzHebr2ZzzzHebr10Arab115Zzzz16Arab363Zyyy2Arab80Zzzz2Arab54Zzzz7ArabZzzz32Arab16Zinh16",
   "Zyyy10Zzzz6Zinh14Cyrl2Zyyy35ZzzzZyyy19ZzzzZyyy4Zzzz4Arab5ZzzzArab135Zzzz2ZyyyZzzzZyyy32Latn26",
   "Zyyy6Latn26Zyyy11Kana10ZyyyKana45Zyyy2Hang31Zzzz3Hang6Zzzz2Hang6Zzzz2Hang6Zzzz2Hang3Zzzz3",
   "Zyyy7ZzzzZyyy7Zzzz10Zyyy5Zzzz2Linb12ZzzzLinb26ZzzzLinb19ZzzzLinb2ZzzzLinb15Zzzz2Linb14Zzzz34",
   "Linb123Zzzz5Zyyy3Zzzz4Zyyy45Zzzz3Zyyy9Grek79ZzzzZyyy13Zzzz3GrekZzzz47Zyyy45ZinhZzzz130Lyci29",
   "Zzzz3Cari49Zzzz15ZinhZyyy27Zzzz4Ital36Zzzz9Ital3Goth27Zzzz5Perm43Zzzz5Ugar30ZzzzUgarXpeo36",
   "Zzzz4Xpeo14Zzzz42Dsrt80Shaw48Osma30Zzzz2Osma10Zzzz6Osge36Zzzz4Osge36Zzzz4Elba40Zzzz8Aghb52",
   "Zzzz11AghbVith11ZzzzVith15ZzzzVith7ZzzzVith2ZzzzVith11ZzzzVith15ZzzzVith7ZzzzVith2Zzzz3Todr52",
   "Zzzz12Lina311Zzzz9Lina22Zzzz10Lina8Zzzz24Latn6ZzzzLatn42ZzzzLatn9Zzzz69Cprt6Zzzz2CprtZzzz",
   "Cprt44ZzzzCprt2Zzzz3CprtZzzz2CprtArmi22ZzzzArmi9Palm32Nbat31Zzzz8Nbat9Zzzz48Hatr19ZzzzHatr2",
   "Zzzz5Hatr5Phnx28Zzzz3PhnxLydi26Zzzz5LydiZzzz64Mero32Merc24Zzzz4Merc20Zzzz2Merc46Khar4Zzzz",
   "Khar2Zzzz5Khar8ZzzzKhar3ZzzzKhar29Zzzz2Khar3Zzzz4Khar10Zzzz7Khar9Zzzz7Sarb32Narb32Zzzz32",
   "Mani39Zzzz4Mani12Zzzz9Avst54Zzzz3Avst7Prti22Zzzz2Prti8Phli19Zzzz5Phli8Phlp18Zzzz7Phlp4Zzzz12",
   "Phlp7Zzzz80Orkh73Zzzz55Hung51Zzzz13Hung51Zzzz7Hung6Rohg40Zzzz8Rohg10Zzzz6Gara38Zzzz3Gara29",
   "Zzzz8Gara2Zzzz208Arab31ZzzzYezi42ZzzzYezi3Zzzz2Yezi2Zzzz16Arab3Zzzz55Arab4Sogo40Zzzz8Sogd42",
   "Zzzz22Ougr26Zzzz38Chrs28Zzzz20Elym23Zzzz9Brah78Zzzz4Brah36Zzzz9BrahKthi67Zzzz10KthiZzzz2",
   "Sora25Zzzz7Sora10Zzzz6Cakm53ZzzzCakm18Zzzz8Mahj39Zzzz9Shrd96ZzzzSinh20Zzzz11Khoj18ZzzzKhoj47",
   "Zzzz62Mult7ZzzzMultZzzzMult4ZzzzMult15ZzzzMult11Zzzz6Sind59Zzzz5Sind10Zzzz6Gran4ZzzzGran8",
   "Zzzz2Gran2Zzzz2Gran22ZzzzGran7ZzzzGran2ZzzzGran5ZzzzZinhGran9Zzzz2Gran2Zzzz2Gran3Zzzz2Gran",
   "Zzzz6GranZzzz5Gran7Zzzz2Gran7Zzzz3Gran5Zzzz11Tutg10ZzzzTutgZzzz2TutgZzzzTutg38ZzzzTutg10Zzzz",
   "TutgZzzz2TutgZzzzTutg4ZzzzTutg10ZzzzTutg2Zzzz8Tutg2Zzzz29Newa92ZzzzNewa5Zzzz30Tirh72Zzzz8",
   "Tirh10Zzzz166Sidd54Zzzz2Sidd38Zzzz34Modi69Zzzz11Modi10Zzzz6Mong13Zzzz19Takr58Zzzz6Takr10Zzzz6",
   "Mymr20Zzzz28Ahom27Zzzz2Ahom15Zzzz4Ahom23Zzzz185Dogr60Zzzz100Wara83Zzzz12WaraDiak7Zzzz2Diak",
   "Zzzz2Diak8ZzzzDiak2ZzzzDiak30ZzzzDiak2Zzzz2Diak12Zzzz9Diak10Zzzz70Nand8Zzzz2Nand46Zzzz2Nand11",
   "Zzzz27Zanb72Zzzz8Soyo83Zzzz13Cans16Pauc57Zzzz7Deva10Zzzz182Sunu34Zzzz14Sunu10Zzzz6Bhks9Zzzz",
   "Bhks45ZzzzBhks14Zzzz10Bhks29Zzzz3Marc32Zzzz2Marc22ZzzzMarc14Zzzz73Gonm7ZzzzGonm2ZzzzGonm44",
   "Zzzz3GonmZzzzGonm2ZzzzGonm9Zzzz8Gonm10Zzzz6Gong6ZzzzGong2ZzzzGong37ZzzzGong2ZzzzGong6Zzzz7",
   "Gong10Zzzz310Maka25Zzzz7Kawi17ZzzzKawi41Zzzz3Kawi29Zzzz85LisuZzzz15Taml50Zzzz13TamlXsux922",
   "Zzzz102Xsux111ZzzzXsux5Zzzz11Xsux196Zzzz2636Cpmn99Zzzz13Egyp1110Zzzz10Egyp3995Zzzz5Hluw583",
   "Zzzz6841Gukh58Zzzz1734Bamu569Zzzz7Mroo31ZzzzMroo10Zzzz4Mroo2Tnsa79ZzzzTnsa10Zzzz6Bass30Zzzz2",
   "Bass6Zzzz10Hmng70Zzzz10Hmng10ZzzzHmng7ZzzzHmng21Zzzz5Hmng19Zzzz432Krai58Zzzz198Medf91Zzzz101",
   "Plrd75Zzzz4Plrd57Zzzz7Plrd17Zzzz64TangNshuHani2KitsZzzz11Hani2Zzzz14Tang6136Zzzz8Tang768",
   "Kits470Zzzz41KitsTang9Zzzz8935Kana4ZzzzKana7ZzzzKana2ZzzzKanaHira287Kana3Zzzz15HiraZzzz29",
   "Hira3Zzzz2KanaZzzz14Kana4Zzzz8Nshu396Zzzz2308Dupl107Zzzz5Dupl13Zzzz3Dupl9Zzzz7Dupl10Zzzz2",
   "Dupl4Zyyy4Zzzz3932Zyyy250Zzzz6Zyyy436Zzzz76Zinh46Zzzz2Zinh23Zzzz9Zyyy116Zzzz60Zyyy246Zzzz10",
   "Zyyy39Zzzz2Zyyy62Zinh3Zyyy17Zinh8Zyyy2Zinh7Zyyy30Zinh4Zyyy61Zzzz21Grek70Zzzz122Zyyy20Zzzz12",
   "Zyyy20Zzzz12Zyyy87Zzzz9Zyyy25Zzzz135Zyyy85ZzzzZyyy71ZzzzZyyy2Zzzz2ZyyyZzzz2Zyyy2Zzzz2Zyyy4",
   "ZzzzZyyy12ZzzzZyyyZzzzZyyy7ZzzzZyyy65ZzzzZyyy4Zzzz2Zyyy8ZzzzZyyy7ZzzzZyyy28ZzzzZyyy4ZzzzZyyy5",
   "ZzzzZyyyZzzz3Zyyy7ZzzzZyyy340Zzzz2Zyyy292Zzzz2Zyyy50Sgnw652Zzzz15Sgnw5ZzzzSgnw15Zzzz1104",
   "Latn31Zzzz6Latn6Zzzz213Glag7ZzzzGlag17Zzzz2Glag7ZzzzGlag2ZzzzGlag5Zzzz5Cyrl62Zzzz33Cyrl",
   "Zzzz112Hmnp45Zzzz3Hmnp14Zzzz2Hmnp10Zzzz4Hmnp2Zzzz320Toto31Zzzz17Wcho58Zzzz5WchoZzzz464Nagm42",
   "Zzzz214Onao43Zzzz4OnaoZzzz480Ethi7ZzzzEthi4ZzzzEthi2ZzzzEthi15ZzzzMend197Zzzz2Mend16Zzzz41",
   "Adlm76Zzzz4Adlm10Zzzz4Adlm2Zzzz785Zyyy68Zzzz76Zyyy61Zzzz194Arab4ZzzzArab27ZzzzArab2ZzzzArab",
   "Zzzz2ArabZzzzArab10ZzzzArab4ZzzzArabZzzzArabZzzz6ArabZzzz4ArabZzzzArabZzzzArabZzzzArab3Zzzz",
   "Arab2ZzzzArabZzzz2ArabZzzzArabZzzzArabZzzzArabZzzzArabZzzzArab2ZzzzArabZzzz2Arab4ZzzzArab7",
   "ZzzzArab4ZzzzArab4ZzzzArabZzzzArab10ZzzzArab17Zzzz5Arab3ZzzzArab5ZzzzArab17Zzzz52Arab2Zzzz270",
   "Zyyy44Zzzz4Zyyy100Zzzz12Zyyy15Zzzz2Zyyy15ZzzzZyyy15ZzzzZyyy37Zzzz10Zyyy174Zzzz56Zyyy26Hira",
   "Zyyy2Zzzz13Zyyy44Zzzz4Zyyy9Zzzz7Zyyy2Zzzz14Zyyy6Zzzz154Zyyy984Zzzz4Zyyy17Zzzz3Zyyy13Zzzz3",
   "Zyyy119Zzzz4Zyyy95Zzzz6Zyyy12Zzzz4ZyyyZzzz15Zyyy12Zzzz4Zyyy56Zzzz8Zyyy10Zzzz6Zyyy40Zzzz8",
   "Zyyy30Zzzz2Zyyy12Zzzz4Zyyy2Zzzz62Zyyy340Zzzz12Zyyy14Zzzz2Zyyy13Zzzz3Zyyy10Zzzz5Zyyy56Zzzz7",
   "Zyyy15Zzzz2Zyyy11Zzzz6Zyyy9Zzzz7Zyyy147ZzzzZyyy102Zzzz1030Hani42720Zzzz32Hani4154Zzzz6Hani222",
   "Zzzz2Hani5762Zzzz14Hani7473Zzzz15Hani622Zzzz2466Hani542Zzzz1506Hani4939Zzzz5Hani4192",
   "Zzzz711761ZyyyZzzz30Zyyy96Zzzz128Zinh240Zzzz196112"]

/-- The ranges of characters whose scripts, given by their codes, are not just the one of
`scriptLines`. -/
def sharedScripts : List (Nat × Nat × List String) :=
  [(0xB7, 0xB7, ["Avst", "Cari", "Copt", "Dupl", "Elba", "Geor", "Glag", "Gong", "Goth", "Grek",
     "Hani", "Latn", "Lydi", "Mahj", "Perm", "Shaw"]),
   (0x2BC, 0x2BC, ["Beng", "Cyrl", "Deva", "Latn", "Lisu", "Thai", "Toto"]),
   (0x2C7, 0x2C7, ["Bopo", "Latn"]),
   (0x2C9, 0x2CB, ["Bopo", "Latn"]),
   (0x2CD, 0x2CD, ["Latn", "Lisu"]),
   (0x2D7, 0x2D7, ["Latn", "Thai"]),
   (0x2D9, 0x2D9, ["Bopo", "Latn"]),
   (0x300, 0x300, ["Cher", "Copt", "Cyrl", "Grek", "Latn", "Perm", "Sunu", "Tale"]),
   (0x301, 0x301, ["Cher", "Cyrl", "Grek", "Latn", "Osge", "Sunu", "Tale", "Todr"]),
   (0x302, 0x302, ["Cher", "Cyrl", "Latn", "Tfng"]),
   (0x303, 0x303, ["Glag", "Latn", "Sunu", "Syrc", "Thai"]),
   (0x304, 0x304, ["Aghb", "Cher", "Copt", "Cyrl", "Goth", "Grek", "Latn", "Osge", "Syrc", "Tfng",
     "Todr"]),
   (0x305, 0x305, ["Copt", "Elba", "Glag", "Goth", "Kana", "Latn"]),
   (0x306, 0x306, ["Cyrl", "Grek", "Latn", "Perm", "Tfng"]),
   (0x307, 0x307, ["Copt", "Dupl", "Hebr", "Latn", "Perm", "Syrc", "Tale", "Tfng", "Todr"]),
   (0x308, 0x308, ["Armn", "Cyrl", "Dupl", "Goth", "Grek", "Hebr", "Latn", "Perm", "Syrc", "Tale",
     "Tfng"]),
   (0x309, 0x309, ["Latn", "Tfng"]),
   (0x30A, 0x30A, ["Dupl", "Latn", "Syrc"]),
   (0x30B, 0x30B, ["Cher", "Cyrl", "Latn", "Osge"]),
   (0x30C, 0x30C, ["Cher", "Latn", "Tale"]),
   (0x30D, 0x30D, ["Latn", "Sunu"]),
   (0x30E, 0x30E, ["Ethi", "Latn"]),
   (0x310, 0x310, ["Latn", "Sunu"]),
   (0x311, 0x311, ["Cyrl", "Latn", "Todr"]),
   (0x313, 0x313, ["Grek", "Latn", "Perm", "Todr"]),
   (0x323, 0x323, ["Cher", "Dupl", "Kana", "Latn", "Syrc", "Tfng"]),
   (0x324, 0x324, ["Cher", "Dupl", "Latn", "Syrc"]),
   (0x325, 0x325, ["Latn", "Syrc"]),
   (0x32D, 0x32D, ["Latn", "Sunu", "Syrc"]),
   (0x32E, 0x32E, ["Latn", "Syrc"]),
   (0x330, 0x330, ["Cher", "Latn", "Syrc"]),
   (0x331, 0x331, ["Aghb", "Cher", "Goth", "Latn", "Sunu", "Syrc", "Thai"]),
   (0x342, 0x342, ["Grek"]),
   (0x345, 0x345, ["Grek"]),
   (0x358, 0x358, ["Latn", "Osge"]),
   (0x35E, 0x35E, ["Aghb", "Latn", "Todr"]),
   (0x363, 0x36F, ["Latn"]),
   (0x374, 0x375, ["Copt", "Grek"]),
   (0x483, 0x483, ["Cyrl", "Perm"]),
   (0x484, 0x484, ["Cyrl", "Glag"]),
   (0x485, 0x486, ["Cyrl", "Latn"]),
   (0x487, 0x487, ["Cyrl", "Glag"]),
   (0x589, 0x589, ["Armn", "Geor", "Glag"]),
   (0x60C, 0x60C, ["Arab", "Gara", "Nkoo", "Rohg", "Syrc", "Thaa", "Yezi"]),
   (0x61B, 0x61B, ["Arab", "Gara", "Nkoo", "Rohg", "Syrc", "Thaa", "Yezi"]),
   (0x61C, 0x61C, ["Arab", "Syrc", "Thaa"]),
   (0x61F, 0x61F, ["Adlm", "Arab", "Gara", "Nkoo", "Rohg", "Syrc", "Thaa", "Yezi"]),
   (0x640, 0x640, ["Adlm", "Arab", "Mand", "Mani", "Ougr", "Phlp", "Rohg", "Sogd", "Syrc"]),
   (0x64B, 0x655, ["Arab", "Syrc"]),
   (0x660, 0x669, ["Arab", "Thaa", "Yezi"]),
   (0x670, 0x670, ["Arab", "Syrc"]),
   (0x6D4, 0x6D4, ["Arab", "Rohg"]),
   (0x951, 0x951, ["Beng", "Deva", "Gran", "Gujr", "Guru", "Knda", "Latn", "Mlym", "Nand", "Newa",
     "Orya", "Shrd", "Taml", "Telu", "Tirh"]),
   (0x952, 0x952, ["Beng", "Deva", "Gran", "Gujr", "Guru", "Knda", "Latn", "Mlym", "Newa", "Orya",
     "Taml", "Telu", "Tirh"]),
   (0x964, 0x964, ["Beng", "Deva", "Dogr", "Gong", "Gonm", "Gran", "Gujr", "Guru", "Knda", "Mahj",
     "Mlym", "Nand", "Onao", "Orya", "Sind", "Sinh", "Sylo", "Takr", "Taml", "Telu", "Tirh"]),
   (0x965, 0x965, ["Beng", "Deva", "Dogr", "Gong", "Gonm", "Gran", "Gujr", "Gukh", "Guru", "Knda",
     "Limb", "Mahj", "Mlym", "Nand", "Onao", "Orya", "Sind", "Sinh", "Sylo", "Takr", "Taml",
     "Telu", "Tirh"]),
   (0x966, 0x96F, ["Deva", "Dogr", "Kthi", "Mahj"]),
   (0x9E6, 0x9EF, ["Beng", "Cakm", "Sylo"]),
   (0xA66, 0xA6F, ["Guru", "Mult"]),
   (0xAE6, 0xAEF, ["Gujr", "Khoj"]),
   (0xBE6, 0xBF3, ["Gran", "Taml"]),
   (0xCE6, 0xCEF, ["Knda", "Nand", "Tutg"]),
   (0x1040, 0x1049, ["Cakm", "Mymr", "Tale"]),
   (0x10FB, 0x10FB, ["Geor", "Glag", "Latn"]),
   (0x16EB, 0x16ED, ["Runr"]),
   (0x1735, 0x1736, ["Buhd", "Hano", "Tagb", "Tglg"]),
   (0x1802, 0x1803, ["Mong", "Phag"]),
   (0x1805, 0x1805, ["Mong", "Phag"]),
   (0x1CD0, 0x1CD0, ["Beng", "Deva", "Gran", "Knda"]),
   (0x1CD1, 0x1CD1, ["Deva"]),
   (0x1CD2, 0x1CD2, ["Beng", "Deva", "Gran", "Knda"]),
   (0x1CD3, 0x1CD3, ["Deva", "Gran", "Knda"]),
   (0x1CD4, 0x1CD4, ["Deva"]),
   (0x1CD5, 0x1CD5, ["Beng", "Deva", "Newa", "Telu", "Tirh"]),
   (0x1CD6, 0x1CD6, ["Beng", "Deva", "Telu"]),
   (0x1CD7, 0x1CD7, ["Deva", "Newa", "Shrd"]),
   (0x1CD8, 0x1CD8, ["Beng", "Deva", "Newa", "Telu"]),
   (0x1CD9, 0x1CD9, ["Deva", "Shrd"]),
   (0x1CDA, 0x1CDA, ["Deva", "Knda", "Mlym", "Orya", "Taml", "Telu"]),
   (0x1CDB, 0x1CDB, ["Deva"]),
   (0x1CDC, 0x1CDD, ["Deva", "Shrd"]),
   (0x1CDE, 0x1CDF, ["Deva"]),
   (0x1CE0, 0x1CE0, ["Deva", "Shrd"]),
   (0x1CE1, 0x1CE1, ["Beng", "Deva"]),
   (0x1CE2, 0x1CE2, ["Deva", "Newa", "Tirh"]),
   (0x1CE3, 0x1CE8, ["Deva"]),
   (0x1CE9, 0x1CE9, ["Deva", "Nand", "Newa"]),
   (0x1CEA, 0x1CEA, ["Beng", "Deva", "Shrd"]),
   (0x1CEB, 0x1CEB, ["Deva", "Newa"]),
   (0x1CEC, 0x1CEC, ["Deva"]),
   (0x1CED, 0x1CED, ["Beng", "Deva", "Newa", "Shrd"]),
   (0x1CEE, 0x1CF1, ["Deva"]),
   (0x1CF2, 0x1CF2, ["Beng", "Deva", "Gran", "Knda", "Mlym", "Nand", "Orya", "Sinh", "Telu",
     "Tirh", "Tutg"]),
   (0x1CF3, 0x1CF3, ["Deva", "Gran"]),
   (0x1CF4, 0x1CF4, ["Deva", "Gran", "Knda", "Tutg"]),
   (0x1CF5, 0x1CF6, ["Beng", "Deva"]),
   (0x1CF7, 0x1CF7, ["Beng"]),
   (0x1CF8, 0x1CF9, ["Deva", "Gran"]),
   (0x1CFA, 0x1CFA, ["Nand"]),
   (0x1DC0, 0x1DC1, ["Grek"]),
   (0x1DF8, 0x1DF8, ["Cyrl", "Latn", "Syrc"]),
   (0x1DFA, 0x1DFA, ["Syrc"]),
   (0x202F, 0x202F, ["Latn", "Mong", "Phag"]),
   (0x204F, 0x204F, ["Adlm", "Arab"]),
   (0x205A, 0x205A, ["Cari", "Geor", "Glag", "Hung", "Lyci", "Orkh"]),
   (0x205D, 0x205D, ["Cari", "Grek", "Hung", "Mero"]),
   (0x20F0, 0x20F0, ["Deva", "Gran", "Latn"]),
   (0x2E17, 0x2E17, ["Copt", "Latn"]),
   (0x2E30, 0x2E30, ["Avst", "Orkh"]),
   (0x2E31, 0x2E31, ["Avst", "Cari", "Geor", "Hung", "Kthi", "Lydi", "Samr"]),
   (0x2E3C, 0x2E3C, ["Dupl"]),
   (0x2E41, 0x2E41, ["Adlm", "Arab", "Hung"]),
   (0x2E43, 0x2E43, ["Cyrl", "Glag"]),
   (0x2FF0, 0x2FFF, ["Hani", "Tang"]),
   (0x3001, 0x3001, ["Bopo", "Hang", "Hani", "Hira", "Kana", "Mong", "Yiii"]),
   (0x3002, 0x3002, ["Bopo", "Hang", "Hani", "Hira", "Kana", "Mong", "Phag", "Yiii"]),
   (0x3003, 0x3003, ["Bopo", "Hang", "Hani", "Hira", "Kana"]),
   (0x3006, 0x3006, ["Hani"]),
   (0x3008, 0x3009, ["Bopo", "Hang", "Hani", "Hira", "Kana", "Mong", "Tibt", "Yiii"]),
   (0x300A, 0x300B, ["Bopo", "Hang", "Hani", "Hira", "Kana", "Lisu", "Mong", "Tibt", "Yiii"]),
   (0x300C, 0x3011, ["Bopo", "Hang", "Hani", "Hira", "Kana", "Yiii"]),
   (0x3013, 0x3013, ["Bopo", "Hang", "Hani", "Hira", "Kana"]),
   (0x3014, 0x301B, ["Bopo", "Hang", "Hani", "Hira", "Kana", "Yiii"]),
   (0x301C, 0x301F, ["Bopo", "Hang", "Hani", "Hira", "Kana"]),
   (0x302A, 0x302D, ["Bopo", "Hani"]),
   (0x3030, 0x3030, ["Bopo", "Hang", "Hani", "Hira", "Kana"]),
   (0x3031, 0x3035, ["Hira", "Kana"]),
   (0x3037, 0x3037, ["Bopo", "Hang", "Hani", "Hira", "Kana"]),
   (0x303C, 0x303D, ["Hani", "Hira", "Kana"]),
   (0x303E, 0x303F, ["Hani"]),
   (0x3099, 0x309C, ["Hira", "Kana"]),
   (0x30A0, 0x30A0, ["Hira", "Kana"]),
   (0x30FB, 0x30FB, ["Bopo", "Hang", "Hani", "Hira", "Kana", "Yiii"]),
   (0x30FC, 0x30FC, ["Hira", "Kana"]),
   (0x3190, 0x319F, ["Hani"]),
   (0x31C0, 0x31E5, ["Hani"]),
   (0x31EF, 0x31EF, ["Hani", "Tang"]),
   (0x3220, 0x3247, ["Hani"]),
   (0x3280, 0x32B0, ["Hani"]),
   (0x32C0, 0x32CB, ["Hani"]),
   (0x32FF, 0x32FF, ["Hani"]),
   (0x3358, 0x3370, ["Hani"]),
   (0x337B, 0x337F, ["Hani"]),
   (0x33E0, 0x33FE, ["Hani"]),
   (0xA66F, 0xA66F, ["Cyrl", "Glag"]),
   (0xA700, 0xA707, ["Hani", "Latn"]),
   (0xA830, 0xA832, ["Deva", "Dogr", "Gujr", "Guru", "Khoj", "Knda", "Kthi", "Mahj", "Mlym",
     "Modi", "Nand", "Shrd", "Sind", "Takr", "Tirh", "Tutg"]),
   (0xA833, 0xA835, ["Deva", "Dogr", "Gujr", "Guru", "Khoj", "Knda", "Kthi", "Mahj", "Modi",
     "Nand", "Shrd", "Sind", "Takr", "Tirh", "Tutg"]),
   (0xA836, 0xA837, ["Deva", "Dogr", "Gujr", "Guru", "Khoj", "Kthi", "Mahj", "Modi", "Sind",
     "Takr", "Tirh"]),
   (0xA838, 0xA838, ["Deva", "Dogr", "Gujr", "Guru", "Khoj", "Kthi", "Mahj", "Modi", "Shrd",
     "Sind", "Takr", "Tirh"]),
   (0xA839, 0xA839, ["Deva", "Dogr", "Gujr", "Guru", "Khoj", "Kthi", "Mahj", "Modi", "Sind",
     "Takr", "Tirh"]),
   (0xA8F1, 0xA8F1, ["Beng", "Deva", "Tutg"]),
   (0xA8F3, 0xA8F3, ["Deva", "Taml"]),
   (0xA92E, 0xA92E, ["Kali", "Latn", "Mymr"]),
   (0xA9CF, 0xA9CF, ["Bugi", "Java"]),
   (0xFD3E, 0xFD3F, ["Arab", "Nkoo"]),
   (0xFDF2, 0xFDF2, ["Arab", "Thaa"]),
   (0xFDFD, 0xFDFD, ["Arab", "Thaa"]),
   (0xFE45, 0xFE46, ["Bopo", "Hang", "Hani", "Hira", "Kana"]),
   (0xFF61, 0xFF65, ["Bopo", "Hang", "Hani", "Hira", "Kana", "Yiii"]),
   (0xFF70, 0xFF70, ["Hira", "Kana"]),
   (0xFF9E, 0xFF9F, ["Hira", "Kana"]),
   (0x10100, 0x10101, ["Cpmn", "Cprt", "Linb"]),
   (0x10102, 0x10102, ["Cprt", "Linb"]),
   (0x10107, 0x10133, ["Cprt", "Lina", "Linb"]),
   (0x10137, 0x1013F, ["Cprt", "Linb"]),
   (0x102E0, 0x102FB, ["Arab", "Copt"]),
   (0x10AF2, 0x10AF2, ["Mani", "Ougr"]),
   (0x11301, 0x11301, ["Gran", "Taml"]),
   (0x11303, 0x11303, ["Gran", "Taml"]),
   (0x1133B, 0x1133C, ["Gran", "Taml"]),
   (0x11FD0, 0x11FD1, ["Gran", "Taml"]),
   (0x11FD3, 0x11FD3, ["Gran", "Taml"]),
   (0x1BCA0, 0x1BCA3, ["Dupl"]),
   (0x1D360, 0x1D371, ["Hani"]),
   (0x1F250, 0x1F251, ["Hani"])]

/-- The scripts by their codes and the names they go by. -/
def scriptNames : List (String × List String) :=
  [("Adlm", ["adlm", "adlam"]), ("Aghb", ["aghb", "caucasianalbanian"]), ("Ahom", ["ahom"]),
   ("Arab", ["arab", "arabic"]), ("Armi", ["armi", "imperialaramaic"]),
   ("Armn", ["armn", "armenian"]), ("Avst", ["avst", "avestan"]), ("Bali", ["bali", "balinese"]),
   ("Bamu", ["bamu", "bamum"]), ("Bass", ["bass", "bassavah"]), ("Batk", ["batk", "batak"]),
   ("Beng", ["beng", "bengali"]), ("Bhks", ["bhks", "bhaiksuki"]), ("Bopo", ["bopo", "bopomofo"]),
   ("Brah", ["brah", "brahmi"]), ("Brai", ["brai", "braille"]), ("Bugi", ["bugi", "buginese"]),
   ("Buhd", ["buhd", "buhid"]), ("Cakm", ["cakm", "chakma"]),
   ("Cans", ["cans", "canadianaboriginal"]), ("Cari", ["cari", "carian"]), ("Cham", ["cham"]),
   ("Cher", ["cher", "cherokee"]), ("Chrs", ["chrs", "chorasmian"]),
   ("Copt", ["copt", "coptic", "qaac"]), ("Cpmn", ["cpmn", "cyprominoan"]),
   ("Cprt", ["cprt", "cypriot"]), ("Cyrl", ["cyrl", "cyrillic"]),
   ("Deva", ["deva", "devanagari"]), ("Diak", ["diak", "divesakuru"]),
   ("Dogr", ["dogr", "dogra"]), ("Dsrt", ["dsrt", "deseret"]), ("Dupl", ["dupl", "duployan"]),
   ("Egyp", ["egyp", "egyptianhieroglyphs"]), ("Elba", ["elba", "elbasan"]),
   ("Elym", ["elym", "elymaic"]), ("Ethi", ["ethi", "ethiopic"]), ("Gara", ["gara", "garay"]),
   ("Geor", ["geor", "georgian"]), ("Glag", ["glag", "glagolitic"]),
   ("Gong", ["gong", "gunjalagondi"]), ("Gonm", ["gonm", "masaramgondi"]),
   ("Goth", ["goth", "gothic"]), ("Gran", ["gran", "grantha"]), ("Grek", ["grek", "greek"]),
   ("Gujr", ["gujr", "gujarati"]), ("Gukh", ["gukh", "gurungkhema"]),
   ("Guru", ["guru", "gurmukhi"]), ("Hang", ["hang", "hangul"]), ("Hani", ["hani", "han"]),
   ("Hano", ["hano", "hanunoo"]), ("Hatr", ["hatr", "hatran"]), ("Hebr", ["hebr", "hebrew"]),
   ("Hira", ["hira", "hiragana"]), ("Hluw", ["hluw", "anatolianhieroglyphs"]),
   ("Hmng", ["hmng", "pahawhhmong"]), ("Hmnp", ["hmnp", "nyiakengpuachuehmong"]),
   ("Hung", ["hung", "oldhungarian"]), ("Ital", ["ital", "olditalic"]),
   ("Java", ["java", "javanese"]), ("Kali", ["kali", "kayahli"]), ("Kana", ["kana", "katakana"]),
   ("Kawi", ["kawi"]), ("Khar", ["khar", "kharoshthi"]), ("Khmr", ["khmr", "khmer"]),
   ("Khoj", ["khoj", "khojki"]), ("Kits", ["kits", "khitansmallscript"]),
   ("Knda", ["knda", "kannada"]), ("Krai", ["krai", "kiratrai"]), ("Kthi", ["kthi", "kaithi"]),
   ("Lana", ["lana", "taitham"]), ("Laoo", ["laoo", "lao"]), ("Latn", ["latn", "latin"]),
   ("Lepc", ["lepc", "lepcha"]), ("Limb", ["limb", "limbu"]), ("Lina", ["lina", "lineara"]),
   ("Linb", ["linb", "linearb"]), ("Lisu", ["lisu"]), ("Lyci", ["lyci", "lycian"]),
   ("Lydi", ["lydi", "lydian"]), ("Mahj", ["mahj", "mahajani"]), ("Maka", ["maka", "makasar"]),
   ("Mand", ["mand", "mandaic"]), ("Mani", ["mani", "manichaean"]), ("Marc", ["marc", "marchen"]),
   ("Medf", ["medf", "medefaidrin"]), ("Mend", ["mend", "mendekikakui"]),
   ("Merc", ["merc", "meroiticcursive"]), ("Mero", ["mero", "meroitichieroglyphs"]),
   ("Mlym", ["mlym", "malayalam"]), ("Modi", ["modi"]), ("Mong", ["mong", "mongolian"]),
   ("Mroo", ["mroo", "mro"]), ("Mtei", ["mtei", "meeteimayek"]), ("Mult", ["mult", "multani"]),
   ("Mymr", ["mymr", "myanmar"]), ("Nagm", ["nagm", "nagmundari"]),
   ("Nand", ["nand", "nandinagari"]), ("Narb", ["narb", "oldnortharabian"]),
   ("Nbat", ["nbat", "nabataean"]), ("Newa", ["newa"]), ("Nkoo", ["nkoo", "nko"]),
   ("Nshu", ["nshu", "nushu"]), ("Ogam", ["ogam", "ogham"]), ("Olck", ["olck", "olchiki"]),
   ("Onao", ["onao", "olonal"]), ("Orkh", ["orkh", "oldturkic"]), ("Orya", ["orya", "oriya"]),
   ("Osge", ["osge", "osage"]), ("Osma", ["osma", "osmanya"]), ("Ougr", ["ougr", "olduyghur"]),
   ("Palm", ["palm", "palmyrene"]), ("Pauc", ["pauc", "paucinhau"]),
   ("Perm", ["perm", "oldpermic"]), ("Phag", ["phag", "phagspa"]),
   ("Phli", ["phli", "inscriptionalpahlavi"]), ("Phlp", ["phlp", "psalterpahlavi"]),
   ("Phnx", ["phnx", "phoenician"]), ("Plrd", ["plrd", "miao"]),
   ("Prti", ["prti", "inscriptionalparthian"]), ("Rjng", ["rjng", "rejang"]),
   ("Rohg", ["rohg", "hanifirohingya"]), ("Runr", ["runr", "runic"]),
   ("Samr", ["samr", "samaritan"]), ("Sarb", ["sarb", "oldsoutharabian"]),
   ("Saur", ["saur", "saurashtra"]), ("Sgnw", ["sgnw", "signwriting"]),
   ("Shaw", ["shaw", "shavian"]), ("Shrd", ["shrd", "sharada"]), ("Sidd", ["sidd", "siddham"]),
   ("Sind", ["sind", "khudawadi"]), ("Sinh", ["sinh", "sinhala"]), ("Sogd", ["sogd", "sogdian"]),
   ("Sogo", ["sogo", "oldsogdian"]), ("Sora", ["sora", "sorasompeng"]),
   ("Soyo", ["soyo", "soyombo"]), ("Sund", ["sund", "sundanese"]), ("Sunu", ["sunu", "sunuwar"]),
   ("Sylo", ["sylo", "sylotinagri"]), ("Syrc", ["syrc", "syriac"]),
   ("Tagb", ["tagb", "tagbanwa"]), ("Takr", ["takr", "takri"]), ("Tale", ["tale", "taile"]),
   ("Talu", ["talu", "newtailue"]), ("Taml", ["taml", "tamil"]), ("Tang", ["tang", "tangut"]),
   ("Tavt", ["tavt", "taiviet"]), ("Telu", ["telu", "telugu"]), ("Tfng", ["tfng", "tifinagh"]),
   ("Tglg", ["tglg", "tagalog"]), ("Thaa", ["thaa", "thaana"]), ("Thai", ["thai"]),
   ("Tibt", ["tibt", "tibetan"]), ("Tirh", ["tirh", "tirhuta"]), ("Tnsa", ["tnsa", "tangsa"]),
   ("Todr", ["todr", "todhri"]), ("Toto", ["toto"]), ("Tutg", ["tutg", "tulutigalari"]),
   ("Ugar", ["ugar", "ugaritic"]), ("Vaii", ["vaii", "vai"]), ("Vith", ["vith", "vithkuqi"]),
   ("Wara", ["wara", "warangciti"]), ("Wcho", ["wcho", "wancho"]),
   ("Xpeo", ["xpeo", "oldpersian"]), ("Xsux", ["xsux", "cuneiform"]),
   ("Yezi", ["yezi", "yezidi"]), ("Yiii", ["yiii", "yi"]), ("Zanb", ["zanb", "zanabazarsquare"]),
   ("Zinh", ["zinh", "inherited", "qaai"]), ("Zyyy", ["zyyy", "common"])]

end Assay
