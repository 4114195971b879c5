/-!
# Ages

The version of the Unicode data in which each code point was assigned, as runs.
-/

namespace Assay

/-- The versions by their letters; `No` stands for code points that are not assigned. -/
def ageLines : List String :=
  ["A502D4A30D8FGD18G3H11I14A89D5G2A47DA10D5G17A70D9FG8H5G3A2DF13J4A2J2No2AI3APNo4A7NoANoA20NoA44",
   "JA7DF2ADADADADA18E2FG5H4DA12DA66DA12DA41JD2F2D4A53F2A2F2A2F2IA28D2A8H2A2I6F16I4J16K2L2P8NoA38",
   "No2A7TA39TADNo2P2MNoB17HB13A10IA9BH3No8A27No4TA5No11G4MPJ5HAG9J5AOXHALA26J5A19D3G3H6LA14F2A72",
   "D2A5DA15DA30G2A10D5GD14NoD30G3D27No2G3H30J18D49FNo14I59No2T3K46No2K15NoL28No2LNoS11No5X31NoX2",
   "No5ZaX8MPM11P6Q2XR8W10X11TR15QM27PKA3GA53L2A18KLA5KL2A25J2L5PK2I2HI2PA3NoA8No2A2No2A22NoA7NoA",
   "No3A4No2AGA7No2A2No2A3HNo8ANo4A2NoA5No2A21KS2TNo2GAGNoA6No4A2No2A22NoA7NoA2NoA2NoA2No2ANoA5",
   "No4A2No2A3No3JNo7A4NoANo7A15JTNo10A3NoA7GANoA3NoA22NoA7NoA2NoA5No2A10NoA3NoA3No2ANo15AG3No2",
   "A10MGNo7QS6NoA3NoA8No2A2No2A22NoA7NoA2NoGA4No2A8JNo2A2No2A3No7WA2No4A2NoA3J2No2A11GL6No10A2No",
   "A6No3A3NoA4No3A2NoANoA2No3A2No3A3No3A8HA3No4A5No3A3NoA4No2JNo6ANo14HA12G8No5PA3TA8NoA3NoA23No",
   "A10PA5No2XJA7NoA3NoA4No7A2NoJ2QNo2XNo2A2J2No2A10No7UJ8RPA2TA8NoA3NoA23NoA10NoA5No2G2A7NoA3No",
   "A4No7A2No6XANoA2I2No2A10NoI2YNo12SPA2WA8NoA3NoA23LA16LS2JA6JNoA3NoA4LRNo4R3AR7QA2J2No2A10J6R3",
   "J7NoWD2NoD18No3D24NoD9NoDNo2D7No3DNo4D6NoDNoD8No6P10No2D3No12A58No4A29No37A2NoANoUA2UANoUAU6",
   "A4UA7UA3NoANoAU2A2UA13UA3No2A5NoANoA6YNoA10No2A2M2No32B72NoB33DJ2No4B27L4B6DBNoB21D3B7DBD3No",
   "D15NoJDH2J3K4L2No37D34JD5JD2JD7J3D4J6D26J64K4J2A38NoMNo5MNo2A39F2H2AHM3A90K5A68K5A82K6D7HD63H",
   "DNoD4No2D7NoDNoD4No2D39HDNoD4No2D31HDNoD4No2D7NoDNoD4No2D7HD7NoD23HD31HDNoD4No2D7HD39HD19No2",
   "L2H2D28No3H26No6D85QNo2Q6No2KD630K9D29No3D81P8No7F13XF7XNo9XF23No9F20No12F13NoF3NoF2No12D93G",
   "No2D10No6G10No6D15XD10No6D88TNo7D42JNo5K70No10G29P2NoG12No4G12No4GNo3G42No2G5No11H42K2No4H26",
   "No6H10KNo3H2G32H28No2H2K63NoK29No2K11No6K10No6K14No2P15W2X14No49I76XNoZa2I45X2ZaJ43M3J12M6L52",
   "No8L4J56No3J15No3J51R9Za2No5T43No2T3M8No8K35M4SP2UNo5G108H88I7J28P15S4XRLKI2A155BJ4A90J6A22",
   "No2A6No2A38No2A6No2A8NoANoANoANoA31No2A53NoA15NoA14No2A6NoA19No2A3NoA9NoA47DA23FD6F5G2H2FH7F5",
   "JNoO4A7FNo2A27NoH5L8No3A11BCD3F2H4K3LNP3QSXNo15A18D2F7HI4JNo15A57D2GHF15HI2JK3A48DIJ4KQ2No4",
   "A91D9F12A242F14ADA121DFD30F52G2H11I12KL11P7R4SA37D2Za3No22A11No21A139F20GA150F10A80D8F8A20G2",
   "F2HDA86D2F12H2F10G8H11JK2G2H16IJ10K3J4K10LK19LKL4K24PA4LA4L2A28LA35LALA4L3AKA7L2A7F14A31L3A24",
   "LA14LH7I4MJML2F28J4F16D256F512G14H6I7J5I4J41P3J5K5P26No2P32NoWP34T3P12UP8ST25Q4T15UH47XH47X",
   "I13J3KJ3I4J6K2H107K7M2No5H45NoMNo5MNo2H54M2No7HLNo14LH23No9H7NoH7NoH7NoH7NoH7NoH7NoH7NoH7No",
   "J32H24J4H2J19KM10P7R2S5T5UW3X11No34D26NoD89No12D214No26D12Z4A56D3F3DANoA84F2No2A6F2A94FNo5A40",
   "JSTNoA94NoA16D24L3W5H16J20Za2No9ZF16A29G2NoA36K12GF15A28G2HA50F15A12G4A47VA119G4A99G2A31G",
   "D6582W10G64A20902H22J8K8MQ9S21T5W13X3D1165No3D18F2D16FD12FD3FDNo9K48J300No20J32L2J18M8J28P6QM",
   "K88No8H23I4J5I2J107L2QL2M2P12L10MP3RTP2Q6T2U6X2U5W4Za3No2X2NoXNoX5Za3No21X3W2PM2LJ5H44WNo3K10",
   "No6I56No8J69RNo8J12No6K28Q2T2J84No11JK29No3K78NoK11No4K2P31NoJ55No9J14No2J10No2J4K28P4K67No24",
   "K5M23No10L6No2L6No2L6No9L7NoL7NoP48Q4P2U2W4No4Q80K46No2K10No6B11172No12K23No4K49No4B2048A6702",
   "M2F59K3No2H106No38A7No12A5No5DA25NoA5NoANoA2NoA2NoA108L16XNo16A365X16A64No2A54No7XE32A12FGX2",
   "F16H10No6A4J3P7Q2A21F2G2A10NoA19NoA4No4A3FANoA135No2ANoA94F2A94No3A6No2A6No2A6No2A3No3A7NoA7",
   "No10D3CA3G12NoG26NoG19NoG2NoG15No2G14No34G123No5G3No4G45No3G9H75P2R2NoJ12WNo3PNo47J46No130J29",
   "No3J49No15P28No4E31PE4No9S3E27No5P43No5G30NoGH36No4H14No42E38G2E38G80No2G10No6R36No4R36No4P40",
   "No8P52No11PX11NoX15NoX7NoX2NoX11NoX15NoX7NoX2No3Za52No12P311No9P22No10P8No24X6NoX42NoX9No69G6",
   "No2GNoG44NoG2No3GNo2GK22NoK9P63No8P9No48Q19NoQ2No5Q5I26K2No3IJ26No5JNo64M56No4Q2M2Q16No2Q46H4",
   "NoH2No5H8NoH3NoH27T2No2H3No4H9TNo7H9No7K32P32No32P39No4P12No9K54No3K29No2K27No5K8P18No7P4No12",
   "P7No80K73No55Q51No13Q51No7Q6T40No8T10No6Za38No3Za29No8Za2No208K31NoW42NoW3No2W2No16Za3No55Za",
   "Y3T40No8T42No22X26No38W28No20U23No9L78No4L30X6No9PK66XNo10TNo2M25No7M10No6M53NoM14T3WNo8P39",
   "No9M73Q4PW2M10PQ5NoP20No11P18NoP43RY3No62Q7NoQNoQ4NoQ15NoQ11No6P59No5P10No6QP3NoP8No2P2No2P22",
   "NoP7NoP2NoP5NoTP9No2P2No2P3No2QNo6PNo5P7No2P7No3P5No11Za10NoZaNo2ZaNoZa38NoZa10NoZaNo2ZaNoZa4",
   "NoZa10NoZa2No8Za2No29R90WRNoRTUW2No30P72No8P10No166P54No2P18Q20No34P69No11P10No6R13No19M56UX",
   "No6M10No6Za20No28Q26TNo2Q15No4Q16X7No185T60No100P83No12PW7No2WNo2W8NoW2NoW30NoW2No2W12No9W10",
   "No70U8No2U46No2U11No27S72No8S52U2S23TS5No13X16P57No7Y10No182Za34No14Za10No6R9NoR45NoR14No10",
   "R29No3R32No2R22NoR14No73S7NoS2NoS44No3SNoS2NoS9No8S10No6T6NoT2NoT37NoT2NoT6No7T10No310T25No7",
   "Y17NoY41No3Y28ZaNo85WNo15U50No13UI879P42QNo102I99P12NoI4PNo11Q196No2636X99No13K1071YU9Y29No10",
   "Za3995No5Q583No6841Za58No1734L569No7P31NoP10No4P2X79NoX10No6P30No2P6No10P70No10P10NoP7NoP21",
   "No5P19No432Za58No198T91No101M69U6No4UM47U9No7M17No64RSU2WNo11W2No14R6125T5U6No8R755W483No41Za",
   "W9No8935X4NoX7NoX2NoL2S285X4No15YNo29U3No2YNo14U4No8S396No2308P107No5P13No3P9No7P10No2P8",
   "No3932Za250No6Za436No76X46No2X23No9X116No60E246No10E39No2JE180Q11X2No21H70No122Y20No12T20No12",
   "G87No9I18T7No135E85NoE71NoE2No2ENo2E2No2E4NoE12NoENoE4GE2NoE65NoE4No2E8NoE7NoE28NoE4NoE5NoE",
   "No3E7NoE338H2No2E290I2No2E50Q652No15Q5NoQ15No1104X31No6Y6No213R7NoR17No2R7NoR2NoR5No5Y62No33Y",
   "No112U45No3U14No2U10No4U2No320X31No17U58No5UNo464Y42No214Za43No4ZaNo480X7NoX4NoX2NoX15NoP197",
   "No2P16No41R75UNo4R10No4R2No785T68No76U61No194M4NoM27NoM2NoMNo2MNoM10NoM4NoMNoMNo6MNo4MNoMNoM",
   "NoM3NoM2NoMNo2MNoMNoMNoMNoMNoM2NoMNo2M4NoM7NoM4NoM4NoMNoM10NoM17No5M3NoM5NoM17No52M2No270J44",
   "No4J100No12L15No2L14PNoL15NoL15P22No10K11P2W3K31TLKL11KLKL2KL3KL3K5L8KL7KL10M2UW3L9KLK2L2KL10",
   "K4L2KL10R18WNo56L26KL2No13K34L9RNo4K9No7L2No14S6No154L33P12Q3L6PL70PQ2L20P12L37PL5P4Q5P12L17",
   "P7Q8L63PLPL182PL4P2QL62P2M4P7Q5L24P18RP41RP86L5ML16ML3MLMLMLML3ML6M2L4MLM2L4ML12P2Q2L11P48L70",
   "P10QR2S2UW2No4YX3P13No3P4R3S2TUW2No3L116Y3No4Y5P85T4YNo6U12No4XNo15P12No4P56No8P10No6P40No8",
   "P30No2W2Za10No4Za2No62S12WU3Q9R6SR8S8RS2R12UR12ST3R15S13T5UWT4W2XTUT4Q5R13S6T11W2U6W3U2T10U6Q",
   "T2U8WXU3S23T25U84No12T14No2U4WY3U3X2No3U3W4Y2ZaNo5ZaU6W19X4Y3W7X4Y3ZaYW3X3ZaNo7Y2W7X3Y2ZaNo2",
   "ZaX8YZaNo6X7Y2No7W147NoW55Za37W10No1028B2E42711W7X2No32K4149X4YNo6L222No2Q5762No14S7473No15",
   "Z622No2466E542No1504B2W4939No5Y4192No56398B2No65534B2No65534B2No65534B2No65534B2No65534B2",
   "No65534B2No65534B2No65534B2No65534B2No65534B2NoENo30E96No128G240No65038B131074"]

/-- The letters of the versions, in the order in which the versions appeared. -/
def versionLetters : List (String × String) :=
  [("A", "1.1"), ("B", "2.0"), ("C", "2.1"), ("D", "3.0"), ("E", "3.1"), ("F", "3.2"),
   ("G", "4.0"), ("H", "4.1"), ("I", "5.0"), ("J", "5.1"), ("K", "5.2"), ("L", "6.0"),
   ("M", "6.1"), ("N", "6.2"), ("O", "6.3"), ("P", "7.0"), ("Q", "8.0"), ("R", "9.0"),
   ("S", "10.0"), ("T", "11.0"), ("U", "12.0"), ("V", "12.1"), ("W", "13.0"), ("X", "14.0"),
   ("Y", "15.0"), ("Z", "15.1"), ("Za", "16.0")]

end Assay
