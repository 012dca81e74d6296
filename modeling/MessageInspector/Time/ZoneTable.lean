import MessageInspector.Time.Zone
/-!
# A table of zones

Some zones with their names, as transitions in epoch seconds, for running the library by itself. The
data ends around the year 2100; the last offset stays in force from then on. Which names are known
is not for this table to say: whoever makes preferences may bring another look-up.
-/
namespace MessageInspector.Time
namespace ZoneTable

def utc : Zone where
  initial := 0
  transitions := []

def fiveBehind : Zone where
  initial := -18000
  transitions := []

def fourteenAhead : Zone where
  initial := 50400
  transitions := []

def berlin : Zone where
  initial := 3208
  transitions := [⟨-2422054408, 3600⟩, ⟨-1693706400, 7200⟩, ⟨-1680483600, 3600⟩,
    ⟨-1663455600, 7200⟩, ⟨-1650150000, 3600⟩, ⟨-1632006000, 7200⟩, ⟨-1618700400, 3600⟩,
    ⟨-938905200, 7200⟩, ⟨-857257200, 3600⟩, ⟨-844556400, 7200⟩, ⟨-828226800, 3600⟩,
    ⟨-812502000, 7200⟩, ⟨-796777200, 3600⟩, ⟨-781052400, 7200⟩, ⟨-776563200, 10800⟩,
    ⟨-765936000, 7200⟩, ⟨-761180400, 3600⟩, ⟨-748479600, 7200⟩, ⟨-733273200, 3600⟩,
    ⟨-717631200, 7200⟩, ⟨-714610800, 10800⟩, ⟨-710380800, 7200⟩, ⟨-701910000, 3600⟩,
    ⟨-684975600, 7200⟩, ⟨-670460400, 3600⟩, ⟨-654130800, 7200⟩, ⟨-639010800, 3600⟩,
    ⟨323830800, 7200⟩, ⟨338950800, 3600⟩, ⟨354675600, 7200⟩, ⟨370400400, 3600⟩, ⟨386125200, 7200⟩,
    ⟨401850000, 3600⟩, ⟨417574800, 7200⟩, ⟨433299600, 3600⟩, ⟨449024400, 7200⟩, ⟨465354000, 3600⟩,
    ⟨481078800, 7200⟩, ⟨496803600, 3600⟩, ⟨512528400, 7200⟩, ⟨528253200, 3600⟩, ⟨543978000, 7200⟩,
    ⟨559702800, 3600⟩, ⟨575427600, 7200⟩, ⟨591152400, 3600⟩, ⟨606877200, 7200⟩, ⟨622602000, 3600⟩,
    ⟨638326800, 7200⟩, ⟨654656400, 3600⟩, ⟨670381200, 7200⟩, ⟨686106000, 3600⟩, ⟨701830800, 7200⟩,
    ⟨717555600, 3600⟩, ⟨733280400, 7200⟩, ⟨749005200, 3600⟩, ⟨764730000, 7200⟩, ⟨780454800, 3600⟩,
    ⟨796179600, 7200⟩, ⟨811904400, 3600⟩, ⟨828234000, 7200⟩, ⟨846378000, 3600⟩, ⟨859683600, 7200⟩,
    ⟨877827600, 3600⟩, ⟨891133200, 7200⟩, ⟨909277200, 3600⟩, ⟨922582800, 7200⟩, ⟨941331600, 3600⟩,
    ⟨954032400, 7200⟩, ⟨972781200, 3600⟩, ⟨985482000, 7200⟩, ⟨1004230800, 3600⟩, ⟨1017536400, 7200⟩,
    ⟨1035680400, 3600⟩, ⟨1048986000, 7200⟩, ⟨1067130000, 3600⟩, ⟨1080435600, 7200⟩,
    ⟨1099184400, 3600⟩, ⟨1111885200, 7200⟩, ⟨1130634000, 3600⟩, ⟨1143334800, 7200⟩,
    ⟨1162083600, 3600⟩, ⟨1174784400, 7200⟩, ⟨1193533200, 3600⟩, ⟨1206838800, 7200⟩,
    ⟨1224982800, 3600⟩, ⟨1238288400, 7200⟩, ⟨1256432400, 3600⟩, ⟨1269738000, 7200⟩,
    ⟨1288486800, 3600⟩, ⟨1301187600, 7200⟩, ⟨1319936400, 3600⟩, ⟨1332637200, 7200⟩,
    ⟨1351386000, 3600⟩, ⟨1364691600, 7200⟩, ⟨1382835600, 3600⟩, ⟨1396141200, 7200⟩,
    ⟨1414285200, 3600⟩, ⟨1427590800, 7200⟩, ⟨1445734800, 3600⟩, ⟨1459040400, 7200⟩,
    ⟨1477789200, 3600⟩, ⟨1490490000, 7200⟩, ⟨1509238800, 3600⟩, ⟨1521939600, 7200⟩,
    ⟨1540688400, 3600⟩, ⟨1553994000, 7200⟩, ⟨1572138000, 3600⟩, ⟨1585443600, 7200⟩,
    ⟨1603587600, 3600⟩, ⟨1616893200, 7200⟩, ⟨1635642000, 3600⟩, ⟨1648342800, 7200⟩,
    ⟨1667091600, 3600⟩, ⟨1679792400, 7200⟩, ⟨1698541200, 3600⟩, ⟨1711846800, 7200⟩,
    ⟨1729990800, 3600⟩, ⟨1743296400, 7200⟩, ⟨1761440400, 3600⟩, ⟨1774746000, 7200⟩,
    ⟨1792890000, 3600⟩, ⟨1806195600, 7200⟩, ⟨1824944400, 3600⟩, ⟨1837645200, 7200⟩,
    ⟨1856394000, 3600⟩, ⟨1869094800, 7200⟩, ⟨1887843600, 3600⟩, ⟨1901149200, 7200⟩,
    ⟨1919293200, 3600⟩, ⟨1932598800, 7200⟩, ⟨1950742800, 3600⟩, ⟨1964048400, 7200⟩,
    ⟨1982797200, 3600⟩, ⟨1995498000, 7200⟩, ⟨2014246800, 3600⟩, ⟨2026947600, 7200⟩,
    ⟨2045696400, 3600⟩, ⟨2058397200, 7200⟩, ⟨2077146000, 3600⟩, ⟨2090451600, 7200⟩,
    ⟨2108595600, 3600⟩, ⟨2121901200, 7200⟩, ⟨2140045200, 3600⟩, ⟨2153350800, 7200⟩,
    ⟨2172099600, 3600⟩, ⟨2184800400, 7200⟩, ⟨2203549200, 3600⟩, ⟨2216250000, 7200⟩,
    ⟨2234998800, 3600⟩, ⟨2248304400, 7200⟩, ⟨2266448400, 3600⟩, ⟨2279754000, 7200⟩,
    ⟨2297898000, 3600⟩, ⟨2311203600, 7200⟩, ⟨2329347600, 3600⟩, ⟨2342653200, 7200⟩,
    ⟨2361402000, 3600⟩, ⟨2374102800, 7200⟩, ⟨2392851600, 3600⟩, ⟨2405552400, 7200⟩,
    ⟨2424301200, 3600⟩, ⟨2437606800, 7200⟩, ⟨2455750800, 3600⟩, ⟨2469056400, 7200⟩,
    ⟨2487200400, 3600⟩, ⟨2500506000, 7200⟩, ⟨2519254800, 3600⟩, ⟨2531955600, 7200⟩,
    ⟨2550704400, 3600⟩, ⟨2563405200, 7200⟩, ⟨2582154000, 3600⟩, ⟨2595459600, 7200⟩,
    ⟨2613603600, 3600⟩, ⟨2626909200, 7200⟩, ⟨2645053200, 3600⟩, ⟨2658358800, 7200⟩,
    ⟨2676502800, 3600⟩, ⟨2689808400, 7200⟩, ⟨2708557200, 3600⟩, ⟨2721258000, 7200⟩,
    ⟨2740006800, 3600⟩, ⟨2752707600, 7200⟩, ⟨2771456400, 3600⟩, ⟨2784762000, 7200⟩,
    ⟨2802906000, 3600⟩, ⟨2816211600, 7200⟩, ⟨2834355600, 3600⟩, ⟨2847661200, 7200⟩,
    ⟨2866410000, 3600⟩, ⟨2879110800, 7200⟩, ⟨2897859600, 3600⟩, ⟨2910560400, 7200⟩,
    ⟨2929309200, 3600⟩, ⟨2942010000, 7200⟩, ⟨2960758800, 3600⟩, ⟨2974064400, 7200⟩,
    ⟨2992208400, 3600⟩, ⟨3005514000, 7200⟩, ⟨3023658000, 3600⟩, ⟨3036963600, 7200⟩,
    ⟨3055712400, 3600⟩, ⟨3068413200, 7200⟩, ⟨3087162000, 3600⟩, ⟨3099862800, 7200⟩,
    ⟨3118611600, 3600⟩, ⟨3131917200, 7200⟩, ⟨3150061200, 3600⟩, ⟨3163366800, 7200⟩,
    ⟨3181510800, 3600⟩, ⟨3194816400, 7200⟩, ⟨3212960400, 3600⟩, ⟨3226266000, 7200⟩,
    ⟨3245014800, 3600⟩, ⟨3257715600, 7200⟩, ⟨3276464400, 3600⟩, ⟨3289165200, 7200⟩,
    ⟨3307914000, 3600⟩, ⟨3321219600, 7200⟩, ⟨3339363600, 3600⟩, ⟨3352669200, 7200⟩,
    ⟨3370813200, 3600⟩, ⟨3384118800, 7200⟩, ⟨3402867600, 3600⟩, ⟨3415568400, 7200⟩,
    ⟨3434317200, 3600⟩, ⟨3447018000, 7200⟩, ⟨3465766800, 3600⟩, ⟨3479072400, 7200⟩,
    ⟨3497216400, 3600⟩, ⟨3510522000, 7200⟩, ⟨3528666000, 3600⟩, ⟨3541971600, 7200⟩,
    ⟨3560115600, 3600⟩, ⟨3573421200, 7200⟩, ⟨3592170000, 3600⟩, ⟨3604870800, 7200⟩,
    ⟨3623619600, 3600⟩, ⟨3636320400, 7200⟩, ⟨3655069200, 3600⟩, ⟨3668374800, 7200⟩,
    ⟨3686518800, 3600⟩, ⟨3699824400, 7200⟩, ⟨3717968400, 3600⟩, ⟨3731274000, 7200⟩,
    ⟨3750022800, 3600⟩, ⟨3762723600, 7200⟩, ⟨3781472400, 3600⟩, ⟨3794173200, 7200⟩,
    ⟨3812922000, 3600⟩, ⟨3825622800, 7200⟩, ⟨3844371600, 3600⟩, ⟨3857677200, 7200⟩,
    ⟨3875821200, 3600⟩, ⟨3889126800, 7200⟩, ⟨3907270800, 3600⟩, ⟨3920576400, 7200⟩,
    ⟨3939325200, 3600⟩, ⟨3952026000, 7200⟩, ⟨3970774800, 3600⟩, ⟨3983475600, 7200⟩,
    ⟨4002224400, 3600⟩, ⟨4015530000, 7200⟩, ⟨4033674000, 3600⟩, ⟨4046979600, 7200⟩,
    ⟨4065123600, 3600⟩, ⟨4078429200, 7200⟩, ⟨4096573200, 3600⟩]

def dublin : Zone where
  initial := -1521
  transitions := [⟨-1691962479, 2079⟩, ⟨-1680471279, 0⟩, ⟨-1664143200, 3600⟩, ⟨-1650146400, 0⟩,
    ⟨-1633903200, 3600⟩, ⟨-1617487200, 0⟩, ⟨-1601848800, 3600⟩, ⟨-1586037600, 0⟩,
    ⟨-1570399200, 3600⟩, ⟨-1552168800, 0⟩, ⟨-1538344800, 3600⟩, ⟨-1522533600, 0⟩,
    ⟨-1507500000, 3600⟩, ⟨-1490565600, 0⟩, ⟨-1473631200, 3600⟩, ⟨-1460930400, 0⟩,
    ⟨-1442786400, 3600⟩, ⟨-1428876000, 0⟩, ⟨-1410732000, 3600⟩, ⟨-1396216800, 0⟩,
    ⟨-1379282400, 3600⟩, ⟨-1364767200, 0⟩, ⟨-1348437600, 3600⟩, ⟨-1333317600, 0⟩,
    ⟨-1315778400, 3600⟩, ⟨-1301263200, 0⟩, ⟨-1284328800, 3600⟩, ⟨-1269813600, 0⟩,
    ⟨-1253484000, 3600⟩, ⟨-1238364000, 0⟩, ⟨-1221429600, 3600⟩, ⟨-1206914400, 0⟩,
    ⟨-1189980000, 3600⟩, ⟨-1175464800, 0⟩, ⟨-1159135200, 3600⟩, ⟨-1143410400, 0⟩,
    ⟨-1126476000, 3600⟩, ⟨-1111960800, 0⟩, ⟨-1095631200, 3600⟩, ⟨-1080511200, 0⟩,
    ⟨-1063576800, 3600⟩, ⟨-1049061600, 0⟩, ⟨-1032127200, 3600⟩, ⟨-1017612000, 0⟩,
    ⟨-1001282400, 3600⟩, ⟨-986162400, 0⟩, ⟨-969228000, 3600⟩, ⟨-950479200, 0⟩, ⟨-942012000, 3600⟩,
    ⟨-733356000, 0⟩, ⟨-719445600, 3600⟩, ⟨-699487200, 0⟩, ⟨-684972000, 3600⟩, ⟨-668037600, 0⟩,
    ⟨-654732000, 3600⟩, ⟨-636588000, 0⟩, ⟨-622072800, 3600⟩, ⟨-605743200, 0⟩, ⟨-590623200, 3600⟩,
    ⟨-574293600, 0⟩, ⟨-558568800, 3600⟩, ⟨-542239200, 0⟩, ⟨-527119200, 3600⟩, ⟨-512604000, 0⟩,
    ⟨-496274400, 3600⟩, ⟨-481154400, 0⟩, ⟨-464220000, 3600⟩, ⟨-449704800, 0⟩, ⟨-432165600, 3600⟩,
    ⟨-417650400, 0⟩, ⟨-401320800, 3600⟩, ⟨-386200800, 0⟩, ⟨-369266400, 3600⟩, ⟨-354751200, 0⟩,
    ⟨-337816800, 3600⟩, ⟨-323301600, 0⟩, ⟨-306972000, 3600⟩, ⟨-291852000, 0⟩, ⟨-276732000, 3600⟩,
    ⟨-257983200, 0⟩, ⟨-245282400, 3600⟩, ⟨-226533600, 0⟩, ⟨-213228000, 3600⟩, ⟨-195084000, 0⟩,
    ⟨-182383200, 3600⟩, ⟨-163634400, 0⟩, ⟨-150933600, 3600⟩, ⟨-132184800, 0⟩, ⟨-119484000, 3600⟩,
    ⟨-100735200, 0⟩, ⟨-88034400, 3600⟩, ⟨-68680800, 0⟩, ⟨-59004000, 3600⟩, ⟨57722400, 0⟩,
    ⟨69818400, 3600⟩, ⟨89172000, 0⟩, ⟨101268000, 3600⟩, ⟨120621600, 0⟩, ⟨132717600, 3600⟩,
    ⟨152071200, 0⟩, ⟨164167200, 3600⟩, ⟨183520800, 0⟩, ⟨196221600, 3600⟩, ⟨214970400, 0⟩,
    ⟨227671200, 3600⟩, ⟨246420000, 0⟩, ⟨259120800, 3600⟩, ⟨278474400, 0⟩, ⟨290570400, 3600⟩,
    ⟨309924000, 0⟩, ⟨322020000, 3600⟩, ⟨341373600, 0⟩, ⟨354675600, 3600⟩, ⟨372819600, 0⟩,
    ⟨386125200, 3600⟩, ⟨404269200, 0⟩, ⟨417574800, 3600⟩, ⟨435718800, 0⟩, ⟨449024400, 3600⟩,
    ⟨467773200, 0⟩, ⟨481078800, 3600⟩, ⟨499222800, 0⟩, ⟨512528400, 3600⟩, ⟨530672400, 0⟩,
    ⟨543978000, 3600⟩, ⟨562122000, 0⟩, ⟨575427600, 3600⟩, ⟨593571600, 0⟩, ⟨606877200, 3600⟩,
    ⟨625626000, 0⟩, ⟨638326800, 3600⟩, ⟨657075600, 0⟩, ⟨670381200, 3600⟩, ⟨688525200, 0⟩,
    ⟨701830800, 3600⟩, ⟨719974800, 0⟩, ⟨733280400, 3600⟩, ⟨751424400, 0⟩, ⟨764730000, 3600⟩,
    ⟨782874000, 0⟩, ⟨796179600, 3600⟩, ⟨814323600, 0⟩, ⟨828234000, 3600⟩, ⟨846378000, 0⟩,
    ⟨859683600, 3600⟩, ⟨877827600, 0⟩, ⟨891133200, 3600⟩, ⟨909277200, 0⟩, ⟨922582800, 3600⟩,
    ⟨941331600, 0⟩, ⟨954032400, 3600⟩, ⟨972781200, 0⟩, ⟨985482000, 3600⟩, ⟨1004230800, 0⟩,
    ⟨1017536400, 3600⟩, ⟨1035680400, 0⟩, ⟨1048986000, 3600⟩, ⟨1067130000, 0⟩, ⟨1080435600, 3600⟩,
    ⟨1099184400, 0⟩, ⟨1111885200, 3600⟩, ⟨1130634000, 0⟩, ⟨1143334800, 3600⟩, ⟨1162083600, 0⟩,
    ⟨1174784400, 3600⟩, ⟨1193533200, 0⟩, ⟨1206838800, 3600⟩, ⟨1224982800, 0⟩, ⟨1238288400, 3600⟩,
    ⟨1256432400, 0⟩, ⟨1269738000, 3600⟩, ⟨1288486800, 0⟩, ⟨1301187600, 3600⟩, ⟨1319936400, 0⟩,
    ⟨1332637200, 3600⟩, ⟨1351386000, 0⟩, ⟨1364691600, 3600⟩, ⟨1382835600, 0⟩, ⟨1396141200, 3600⟩,
    ⟨1414285200, 0⟩, ⟨1427590800, 3600⟩, ⟨1445734800, 0⟩, ⟨1459040400, 3600⟩, ⟨1477789200, 0⟩,
    ⟨1490490000, 3600⟩, ⟨1509238800, 0⟩, ⟨1521939600, 3600⟩, ⟨1540688400, 0⟩, ⟨1553994000, 3600⟩,
    ⟨1572138000, 0⟩, ⟨1585443600, 3600⟩, ⟨1603587600, 0⟩, ⟨1616893200, 3600⟩, ⟨1635642000, 0⟩,
    ⟨1648342800, 3600⟩, ⟨1667091600, 0⟩, ⟨1679792400, 3600⟩, ⟨1698541200, 0⟩, ⟨1711846800, 3600⟩,
    ⟨1729990800, 0⟩, ⟨1743296400, 3600⟩, ⟨1761440400, 0⟩, ⟨1774746000, 3600⟩, ⟨1792890000, 0⟩,
    ⟨1806195600, 3600⟩, ⟨1824944400, 0⟩, ⟨1837645200, 3600⟩, ⟨1856394000, 0⟩, ⟨1869094800, 3600⟩,
    ⟨1887843600, 0⟩, ⟨1901149200, 3600⟩, ⟨1919293200, 0⟩, ⟨1932598800, 3600⟩, ⟨1950742800, 0⟩,
    ⟨1964048400, 3600⟩, ⟨1982797200, 0⟩, ⟨1995498000, 3600⟩, ⟨2014246800, 0⟩, ⟨2026947600, 3600⟩,
    ⟨2045696400, 0⟩, ⟨2058397200, 3600⟩, ⟨2077146000, 0⟩, ⟨2090451600, 3600⟩, ⟨2108595600, 0⟩,
    ⟨2121901200, 3600⟩, ⟨2140045200, 0⟩, ⟨2153350800, 3600⟩, ⟨2172099600, 0⟩, ⟨2184800400, 3600⟩,
    ⟨2203549200, 0⟩, ⟨2216250000, 3600⟩, ⟨2234998800, 0⟩, ⟨2248304400, 3600⟩, ⟨2266448400, 0⟩,
    ⟨2279754000, 3600⟩, ⟨2297898000, 0⟩, ⟨2311203600, 3600⟩, ⟨2329347600, 0⟩, ⟨2342653200, 3600⟩,
    ⟨2361402000, 0⟩, ⟨2374102800, 3600⟩, ⟨2392851600, 0⟩, ⟨2405552400, 3600⟩, ⟨2424301200, 0⟩,
    ⟨2437606800, 3600⟩, ⟨2455750800, 0⟩, ⟨2469056400, 3600⟩, ⟨2487200400, 0⟩, ⟨2500506000, 3600⟩,
    ⟨2519254800, 0⟩, ⟨2531955600, 3600⟩, ⟨2550704400, 0⟩, ⟨2563405200, 3600⟩, ⟨2582154000, 0⟩,
    ⟨2595459600, 3600⟩, ⟨2613603600, 0⟩, ⟨2626909200, 3600⟩, ⟨2645053200, 0⟩, ⟨2658358800, 3600⟩,
    ⟨2676502800, 0⟩, ⟨2689808400, 3600⟩, ⟨2708557200, 0⟩, ⟨2721258000, 3600⟩, ⟨2740006800, 0⟩,
    ⟨2752707600, 3600⟩, ⟨2771456400, 0⟩, ⟨2784762000, 3600⟩, ⟨2802906000, 0⟩, ⟨2816211600, 3600⟩,
    ⟨2834355600, 0⟩, ⟨2847661200, 3600⟩, ⟨2866410000, 0⟩, ⟨2879110800, 3600⟩, ⟨2897859600, 0⟩,
    ⟨2910560400, 3600⟩, ⟨2929309200, 0⟩, ⟨2942010000, 3600⟩, ⟨2960758800, 0⟩, ⟨2974064400, 3600⟩,
    ⟨2992208400, 0⟩, ⟨3005514000, 3600⟩, ⟨3023658000, 0⟩, ⟨3036963600, 3600⟩, ⟨3055712400, 0⟩,
    ⟨3068413200, 3600⟩, ⟨3087162000, 0⟩, ⟨3099862800, 3600⟩, ⟨3118611600, 0⟩, ⟨3131917200, 3600⟩,
    ⟨3150061200, 0⟩, ⟨3163366800, 3600⟩, ⟨3181510800, 0⟩, ⟨3194816400, 3600⟩, ⟨3212960400, 0⟩,
    ⟨3226266000, 3600⟩, ⟨3245014800, 0⟩, ⟨3257715600, 3600⟩, ⟨3276464400, 0⟩, ⟨3289165200, 3600⟩,
    ⟨3307914000, 0⟩, ⟨3321219600, 3600⟩, ⟨3339363600, 0⟩, ⟨3352669200, 3600⟩, ⟨3370813200, 0⟩,
    ⟨3384118800, 3600⟩, ⟨3402867600, 0⟩, ⟨3415568400, 3600⟩, ⟨3434317200, 0⟩, ⟨3447018000, 3600⟩,
    ⟨3465766800, 0⟩, ⟨3479072400, 3600⟩, ⟨3497216400, 0⟩, ⟨3510522000, 3600⟩, ⟨3528666000, 0⟩,
    ⟨3541971600, 3600⟩, ⟨3560115600, 0⟩, ⟨3573421200, 3600⟩, ⟨3592170000, 0⟩, ⟨3604870800, 3600⟩,
    ⟨3623619600, 0⟩, ⟨3636320400, 3600⟩, ⟨3655069200, 0⟩, ⟨3668374800, 3600⟩, ⟨3686518800, 0⟩,
    ⟨3699824400, 3600⟩, ⟨3717968400, 0⟩, ⟨3731274000, 3600⟩, ⟨3750022800, 0⟩, ⟨3762723600, 3600⟩,
    ⟨3781472400, 0⟩, ⟨3794173200, 3600⟩, ⟨3812922000, 0⟩, ⟨3825622800, 3600⟩, ⟨3844371600, 0⟩,
    ⟨3857677200, 3600⟩, ⟨3875821200, 0⟩, ⟨3889126800, 3600⟩, ⟨3907270800, 0⟩, ⟨3920576400, 3600⟩,
    ⟨3939325200, 0⟩, ⟨3952026000, 3600⟩, ⟨3970774800, 0⟩, ⟨3983475600, 3600⟩, ⟨4002224400, 0⟩,
    ⟨4015530000, 3600⟩, ⟨4033674000, 0⟩, ⟨4046979600, 3600⟩, ⟨4065123600, 0⟩, ⟨4078429200, 3600⟩,
    ⟨4096573200, 0⟩]

def newYork : Zone where
  initial := -17762
  transitions := [⟨-2717650800, -18000⟩, ⟨-1633280400, -14400⟩, ⟨-1615140000, -18000⟩,
    ⟨-1601830800, -14400⟩, ⟨-1583690400, -18000⟩, ⟨-1570381200, -14400⟩, ⟨-1551636000, -18000⟩,
    ⟨-1536512400, -14400⟩, ⟨-1523210400, -18000⟩, ⟨-1504458000, -14400⟩, ⟨-1491760800, -18000⟩,
    ⟨-1473008400, -14400⟩, ⟨-1459706400, -18000⟩, ⟨-1441558800, -14400⟩, ⟨-1428256800, -18000⟩,
    ⟨-1410109200, -14400⟩, ⟨-1396807200, -18000⟩, ⟨-1378659600, -14400⟩, ⟨-1365357600, -18000⟩,
    ⟨-1347210000, -14400⟩, ⟨-1333908000, -18000⟩, ⟨-1315155600, -14400⟩, ⟨-1301853600, -18000⟩,
    ⟨-1283706000, -14400⟩, ⟨-1270404000, -18000⟩, ⟨-1252256400, -14400⟩, ⟨-1238954400, -18000⟩,
    ⟨-1220806800, -14400⟩, ⟨-1207504800, -18000⟩, ⟨-1189357200, -14400⟩, ⟨-1176055200, -18000⟩,
    ⟨-1157302800, -14400⟩, ⟨-1144605600, -18000⟩, ⟨-1125853200, -14400⟩, ⟨-1112551200, -18000⟩,
    ⟨-1094403600, -14400⟩, ⟨-1081101600, -18000⟩, ⟨-1062954000, -14400⟩, ⟨-1049652000, -18000⟩,
    ⟨-1031504400, -14400⟩, ⟨-1018202400, -18000⟩, ⟨-1000054800, -14400⟩, ⟨-986752800, -18000⟩,
    ⟨-968000400, -14400⟩, ⟨-955303200, -18000⟩, ⟨-936550800, -14400⟩, ⟨-923248800, -18000⟩,
    ⟨-905101200, -14400⟩, ⟨-891799200, -18000⟩, ⟨-880218000, -14400⟩, ⟨-765396000, -18000⟩,
    ⟨-747248400, -14400⟩, ⟨-733946400, -18000⟩, ⟨-715798800, -14400⟩, ⟨-702496800, -18000⟩,
    ⟨-684349200, -14400⟩, ⟨-671047200, -18000⟩, ⟨-652899600, -14400⟩, ⟨-639597600, -18000⟩,
    ⟨-620845200, -14400⟩, ⟨-608148000, -18000⟩, ⟨-589395600, -14400⟩, ⟨-576093600, -18000⟩,
    ⟨-557946000, -14400⟩, ⟨-544644000, -18000⟩, ⟨-526496400, -14400⟩, ⟨-513194400, -18000⟩,
    ⟨-495046800, -14400⟩, ⟨-481744800, -18000⟩, ⟨-463597200, -14400⟩, ⟨-447271200, -18000⟩,
    ⟨-431542800, -14400⟩, ⟨-415821600, -18000⟩, ⟨-400093200, -14400⟩, ⟨-384372000, -18000⟩,
    ⟨-368643600, -14400⟩, ⟨-352922400, -18000⟩, ⟨-337194000, -14400⟩, ⟨-321472800, -18000⟩,
    ⟨-305744400, -14400⟩, ⟨-289418400, -18000⟩, ⟨-273690000, -14400⟩, ⟨-257968800, -18000⟩,
    ⟨-242240400, -14400⟩, ⟨-226519200, -18000⟩, ⟨-210790800, -14400⟩, ⟨-195069600, -18000⟩,
    ⟨-179341200, -14400⟩, ⟨-163620000, -18000⟩, ⟨-147891600, -14400⟩, ⟨-131565600, -18000⟩,
    ⟨-116442000, -14400⟩, ⟨-100116000, -18000⟩, ⟨-84387600, -14400⟩, ⟨-68666400, -18000⟩,
    ⟨-52938000, -14400⟩, ⟨-37216800, -18000⟩, ⟨-21488400, -14400⟩, ⟨-5767200, -18000⟩,
    ⟨9961200, -14400⟩, ⟨25682400, -18000⟩, ⟨41410800, -14400⟩, ⟨57736800, -18000⟩,
    ⟨73465200, -14400⟩, ⟨89186400, -18000⟩, ⟨104914800, -14400⟩, ⟨120636000, -18000⟩,
    ⟨126687600, -14400⟩, ⟨152085600, -18000⟩, ⟨162370800, -14400⟩, ⟨183535200, -18000⟩,
    ⟨199263600, -14400⟩, ⟨215589600, -18000⟩, ⟨230713200, -14400⟩, ⟨247039200, -18000⟩,
    ⟨262767600, -14400⟩, ⟨278488800, -18000⟩, ⟨294217200, -14400⟩, ⟨309938400, -18000⟩,
    ⟨325666800, -14400⟩, ⟨341388000, -18000⟩, ⟨357116400, -14400⟩, ⟨372837600, -18000⟩,
    ⟨388566000, -14400⟩, ⟨404892000, -18000⟩, ⟨420015600, -14400⟩, ⟨436341600, -18000⟩,
    ⟨452070000, -14400⟩, ⟨467791200, -18000⟩, ⟨483519600, -14400⟩, ⟨499240800, -18000⟩,
    ⟨514969200, -14400⟩, ⟨530690400, -18000⟩, ⟨544604400, -14400⟩, ⟨562140000, -18000⟩,
    ⟨576054000, -14400⟩, ⟨594194400, -18000⟩, ⟨607503600, -14400⟩, ⟨625644000, -18000⟩,
    ⟨638953200, -14400⟩, ⟨657093600, -18000⟩, ⟨671007600, -14400⟩, ⟨688543200, -18000⟩,
    ⟨702457200, -14400⟩, ⟨719992800, -18000⟩, ⟨733906800, -14400⟩, ⟨752047200, -18000⟩,
    ⟨765356400, -14400⟩, ⟨783496800, -18000⟩, ⟨796806000, -14400⟩, ⟨814946400, -18000⟩,
    ⟨828860400, -14400⟩, ⟨846396000, -18000⟩, ⟨860310000, -14400⟩, ⟨877845600, -18000⟩,
    ⟨891759600, -14400⟩, ⟨909295200, -18000⟩, ⟨923209200, -14400⟩, ⟨941349600, -18000⟩,
    ⟨954658800, -14400⟩, ⟨972799200, -18000⟩, ⟨986108400, -14400⟩, ⟨1004248800, -18000⟩,
    ⟨1018162800, -14400⟩, ⟨1035698400, -18000⟩, ⟨1049612400, -14400⟩, ⟨1067148000, -18000⟩,
    ⟨1081062000, -14400⟩, ⟨1099202400, -18000⟩, ⟨1112511600, -14400⟩, ⟨1130652000, -18000⟩,
    ⟨1143961200, -14400⟩, ⟨1162101600, -18000⟩, ⟨1173596400, -14400⟩, ⟨1194156000, -18000⟩,
    ⟨1205046000, -14400⟩, ⟨1225605600, -18000⟩, ⟨1236495600, -14400⟩, ⟨1257055200, -18000⟩,
    ⟨1268550000, -14400⟩, ⟨1289109600, -18000⟩, ⟨1299999600, -14400⟩, ⟨1320559200, -18000⟩,
    ⟨1331449200, -14400⟩, ⟨1352008800, -18000⟩, ⟨1362898800, -14400⟩, ⟨1383458400, -18000⟩,
    ⟨1394348400, -14400⟩, ⟨1414908000, -18000⟩, ⟨1425798000, -14400⟩, ⟨1446357600, -18000⟩,
    ⟨1457852400, -14400⟩, ⟨1478412000, -18000⟩, ⟨1489302000, -14400⟩, ⟨1509861600, -18000⟩,
    ⟨1520751600, -14400⟩, ⟨1541311200, -18000⟩, ⟨1552201200, -14400⟩, ⟨1572760800, -18000⟩,
    ⟨1583650800, -14400⟩, ⟨1604210400, -18000⟩, ⟨1615705200, -14400⟩, ⟨1636264800, -18000⟩,
    ⟨1647154800, -14400⟩, ⟨1667714400, -18000⟩, ⟨1678604400, -14400⟩, ⟨1699164000, -18000⟩,
    ⟨1710054000, -14400⟩, ⟨1730613600, -18000⟩, ⟨1741503600, -14400⟩, ⟨1762063200, -18000⟩,
    ⟨1772953200, -14400⟩, ⟨1793512800, -18000⟩, ⟨1805007600, -14400⟩, ⟨1825567200, -18000⟩,
    ⟨1836457200, -14400⟩, ⟨1857016800, -18000⟩, ⟨1867906800, -14400⟩, ⟨1888466400, -18000⟩,
    ⟨1899356400, -14400⟩, ⟨1919916000, -18000⟩, ⟨1930806000, -14400⟩, ⟨1951365600, -18000⟩,
    ⟨1962860400, -14400⟩, ⟨1983420000, -18000⟩, ⟨1994310000, -14400⟩, ⟨2014869600, -18000⟩,
    ⟨2025759600, -14400⟩, ⟨2046319200, -18000⟩, ⟨2057209200, -14400⟩, ⟨2077768800, -18000⟩,
    ⟨2088658800, -14400⟩, ⟨2109218400, -18000⟩, ⟨2120108400, -14400⟩, ⟨2140668000, -18000⟩,
    ⟨2152162800, -14400⟩, ⟨2172722400, -18000⟩, ⟨2183612400, -14400⟩, ⟨2204172000, -18000⟩,
    ⟨2215062000, -14400⟩, ⟨2235621600, -18000⟩, ⟨2246511600, -14400⟩, ⟨2267071200, -18000⟩,
    ⟨2277961200, -14400⟩, ⟨2298520800, -18000⟩, ⟨2309410800, -14400⟩, ⟨2329970400, -18000⟩,
    ⟨2341465200, -14400⟩, ⟨2362024800, -18000⟩, ⟨2372914800, -14400⟩, ⟨2393474400, -18000⟩,
    ⟨2404364400, -14400⟩, ⟨2424924000, -18000⟩, ⟨2435814000, -14400⟩, ⟨2456373600, -18000⟩,
    ⟨2467263600, -14400⟩, ⟨2487823200, -18000⟩, ⟨2499318000, -14400⟩, ⟨2519877600, -18000⟩,
    ⟨2530767600, -14400⟩, ⟨2551327200, -18000⟩, ⟨2562217200, -14400⟩, ⟨2582776800, -18000⟩,
    ⟨2593666800, -14400⟩, ⟨2614226400, -18000⟩, ⟨2625116400, -14400⟩, ⟨2645676000, -18000⟩,
    ⟨2656566000, -14400⟩, ⟨2677125600, -18000⟩, ⟨2688620400, -14400⟩, ⟨2709180000, -18000⟩,
    ⟨2720070000, -14400⟩, ⟨2740629600, -18000⟩, ⟨2751519600, -14400⟩, ⟨2772079200, -18000⟩,
    ⟨2782969200, -14400⟩, ⟨2803528800, -18000⟩, ⟨2814418800, -14400⟩, ⟨2834978400, -18000⟩,
    ⟨2846473200, -14400⟩, ⟨2867032800, -18000⟩, ⟨2877922800, -14400⟩, ⟨2898482400, -18000⟩,
    ⟨2909372400, -14400⟩, ⟨2929932000, -18000⟩, ⟨2940822000, -14400⟩, ⟨2961381600, -18000⟩,
    ⟨2972271600, -14400⟩, ⟨2992831200, -18000⟩, ⟨3003721200, -14400⟩, ⟨3024280800, -18000⟩,
    ⟨3035775600, -14400⟩, ⟨3056335200, -18000⟩, ⟨3067225200, -14400⟩, ⟨3087784800, -18000⟩,
    ⟨3098674800, -14400⟩, ⟨3119234400, -18000⟩, ⟨3130124400, -14400⟩, ⟨3150684000, -18000⟩,
    ⟨3161574000, -14400⟩, ⟨3182133600, -18000⟩, ⟨3193023600, -14400⟩, ⟨3213583200, -18000⟩,
    ⟨3225078000, -14400⟩, ⟨3245637600, -18000⟩, ⟨3256527600, -14400⟩, ⟨3277087200, -18000⟩,
    ⟨3287977200, -14400⟩, ⟨3308536800, -18000⟩, ⟨3319426800, -14400⟩, ⟨3339986400, -18000⟩,
    ⟨3350876400, -14400⟩, ⟨3371436000, -18000⟩, ⟨3382930800, -14400⟩, ⟨3403490400, -18000⟩,
    ⟨3414380400, -14400⟩, ⟨3434940000, -18000⟩, ⟨3445830000, -14400⟩, ⟨3466389600, -18000⟩,
    ⟨3477279600, -14400⟩, ⟨3497839200, -18000⟩, ⟨3508729200, -14400⟩, ⟨3529288800, -18000⟩,
    ⟨3540178800, -14400⟩, ⟨3560738400, -18000⟩, ⟨3572233200, -14400⟩, ⟨3592792800, -18000⟩,
    ⟨3603682800, -14400⟩, ⟨3624242400, -18000⟩, ⟨3635132400, -14400⟩, ⟨3655692000, -18000⟩,
    ⟨3666582000, -14400⟩, ⟨3687141600, -18000⟩, ⟨3698031600, -14400⟩, ⟨3718591200, -18000⟩,
    ⟨3730086000, -14400⟩, ⟨3750645600, -18000⟩, ⟨3761535600, -14400⟩, ⟨3782095200, -18000⟩,
    ⟨3792985200, -14400⟩, ⟨3813544800, -18000⟩, ⟨3824434800, -14400⟩, ⟨3844994400, -18000⟩,
    ⟨3855884400, -14400⟩, ⟨3876444000, -18000⟩, ⟨3887334000, -14400⟩, ⟨3907893600, -18000⟩,
    ⟨3919388400, -14400⟩, ⟨3939948000, -18000⟩, ⟨3950838000, -14400⟩, ⟨3971397600, -18000⟩,
    ⟨3982287600, -14400⟩, ⟨4002847200, -18000⟩, ⟨4013737200, -14400⟩, ⟨4034296800, -18000⟩,
    ⟨4045186800, -14400⟩, ⟨4065746400, -18000⟩, ⟨4076636400, -14400⟩, ⟨4097196000, -18000⟩]

def stJohns : Zone where
  initial := -12652
  transitions := [⟨-1664130548, -9052⟩, ⟨-1650137348, -12652⟩, ⟨-1632076148, -9052⟩,
    ⟨-1615145348, -12652⟩, ⟨-1598650148, -9052⟩, ⟨-1590100148, -12652⟩, ⟨-1567286948, -9052⟩,
    ⟨-1551565748, -12652⟩, ⟨-1535837348, -9052⟩, ⟨-1520116148, -12652⟩, ⟨-1503782948, -9052⟩,
    ⟨-1488666548, -12652⟩, ⟨-1472333348, -9052⟩, ⟨-1457216948, -12652⟩, ⟨-1440883748, -9052⟩,
    ⟨-1425767348, -12652⟩, ⟨-1409434148, -9052⟩, ⟨-1394317748, -12652⟩, ⟨-1377984548, -9052⟩,
    ⟨-1362263348, -12652⟩, ⟨-1346534948, -9052⟩, ⟨-1330813748, -12652⟩, ⟨-1314480548, -9052⟩,
    ⟨-1299364148, -12652⟩, ⟨-1283030948, -9052⟩, ⟨-1267914548, -12652⟩, ⟨-1251581348, -9052⟩,
    ⟨-1236464948, -12652⟩, ⟨-1220131748, -9052⟩, ⟨-1205015348, -12652⟩, ⟨-1188682148, -9052⟩,
    ⟨-1172960948, -12652⟩, ⟨-1156627748, -9052⟩, ⟨-1141511348, -12652⟩, ⟨-1125178148, -9052⟩,
    ⟨-1110061748, -12652⟩, ⟨-1096921748, -12600⟩, ⟨-1093728600, -9000⟩, ⟨-1078612200, -12600⟩,
    ⟨-1061670600, -9000⟩, ⟨-1048973400, -12600⟩, ⟨-1030221000, -9000⟩, ⟨-1017523800, -12600⟩,
    ⟨-998771400, -9000⟩, ⟨-986074200, -12600⟩, ⟨-966717000, -9000⟩, ⟨-954624600, -12600⟩,
    ⟨-935267400, -9000⟩, ⟨-922570200, -12600⟩, ⟨-903817800, -9000⟩, ⟨-891120600, -12600⟩,
    ⟨-872368200, -9000⟩, ⟨-765401400, -12600⟩, ⟨-746044200, -9000⟩, ⟨-733347000, -12600⟩,
    ⟨-714594600, -9000⟩, ⟨-701897400, -12600⟩, ⟨-683145000, -9000⟩, ⟨-670447800, -12600⟩,
    ⟨-651695400, -9000⟩, ⟨-638998200, -12600⟩, ⟨-619641000, -9000⟩, ⟨-606943800, -12600⟩,
    ⟨-589401000, -9000⟩, ⟨-576099000, -12600⟩, ⟨-557951400, -9000⟩, ⟨-544649400, -12600⟩,
    ⟨-526501800, -9000⟩, ⟨-513199800, -12600⟩, ⟨-495052200, -9000⟩, ⟨-481750200, -12600⟩,
    ⟨-463602600, -9000⟩, ⟨-450300600, -12600⟩, ⟨-431548200, -9000⟩, ⟨-418246200, -12600⟩,
    ⟨-400098600, -9000⟩, ⟨-386796600, -12600⟩, ⟨-368649000, -9000⟩, ⟨-355347000, -12600⟩,
    ⟨-337199400, -9000⟩, ⟨-323897400, -12600⟩, ⟨-305749800, -9000⟩, ⟨-289423800, -12600⟩,
    ⟨-273695400, -9000⟩, ⟨-257974200, -12600⟩, ⟨-242245800, -9000⟩, ⟨-226524600, -12600⟩,
    ⟨-210796200, -9000⟩, ⟨-195075000, -12600⟩, ⟨-179346600, -9000⟩, ⟨-163625400, -12600⟩,
    ⟨-147897000, -9000⟩, ⟨-131571000, -12600⟩, ⟨-116447400, -9000⟩, ⟨-100121400, -12600⟩,
    ⟨-84393000, -9000⟩, ⟨-68671800, -12600⟩, ⟨-52943400, -9000⟩, ⟨-37222200, -12600⟩,
    ⟨-21493800, -9000⟩, ⟨-5772600, -12600⟩, ⟨9955800, -9000⟩, ⟨25677000, -12600⟩, ⟨41405400, -9000⟩,
    ⟨57731400, -12600⟩, ⟨73459800, -9000⟩, ⟨89181000, -12600⟩, ⟨104909400, -9000⟩,
    ⟨120630600, -12600⟩, ⟨136359000, -9000⟩, ⟨152080200, -12600⟩, ⟨167808600, -9000⟩,
    ⟨183529800, -12600⟩, ⟨199258200, -9000⟩, ⟨215584200, -12600⟩, ⟨230707800, -9000⟩,
    ⟨247033800, -12600⟩, ⟨262762200, -9000⟩, ⟨278483400, -12600⟩, ⟨294211800, -9000⟩,
    ⟨309933000, -12600⟩, ⟨325661400, -9000⟩, ⟨341382600, -12600⟩, ⟨357111000, -9000⟩,
    ⟨372832200, -12600⟩, ⟨388560600, -9000⟩, ⟨404886600, -12600⟩, ⟨420010200, -9000⟩,
    ⟨436336200, -12600⟩, ⟨452064600, -9000⟩, ⟨467785800, -12600⟩, ⟨483514200, -9000⟩,
    ⟨499235400, -12600⟩, ⟨514963800, -9000⟩, ⟨530685000, -12600⟩, ⟨544591860, -9000⟩,
    ⟨562127460, -12600⟩, ⟨576041460, -5400⟩, ⟨594178260, -12600⟩, ⟨607491060, -9000⟩,
    ⟨625631460, -12600⟩, ⟨638940660, -9000⟩, ⟨657081060, -12600⟩, ⟨670995060, -9000⟩,
    ⟨688530660, -12600⟩, ⟨702444660, -9000⟩, ⟨719980260, -12600⟩, ⟨733894260, -9000⟩,
    ⟨752034660, -12600⟩, ⟨765343860, -9000⟩, ⟨783484260, -12600⟩, ⟨796793460, -9000⟩,
    ⟨814933860, -12600⟩, ⟨828847860, -9000⟩, ⟨846383460, -12600⟩, ⟨860297460, -9000⟩,
    ⟨877833060, -12600⟩, ⟨891747060, -9000⟩, ⟨909282660, -12600⟩, ⟨923196660, -9000⟩,
    ⟨941337060, -12600⟩, ⟨954646260, -9000⟩, ⟨972786660, -12600⟩, ⟨986095860, -9000⟩,
    ⟨1004236260, -12600⟩, ⟨1018150260, -9000⟩, ⟨1035685860, -12600⟩, ⟨1049599860, -9000⟩,
    ⟨1067135460, -12600⟩, ⟨1081049460, -9000⟩, ⟨1099189860, -12600⟩, ⟨1112499060, -9000⟩,
    ⟨1130639460, -12600⟩, ⟨1143948660, -9000⟩, ⟨1162089060, -12600⟩, ⟨1173583860, -9000⟩,
    ⟨1194143460, -12600⟩, ⟨1205033460, -9000⟩, ⟨1225593060, -12600⟩, ⟨1236483060, -9000⟩,
    ⟨1257042660, -12600⟩, ⟨1268537460, -9000⟩, ⟨1289097060, -12600⟩, ⟨1299987060, -9000⟩,
    ⟨1320553800, -12600⟩, ⟨1331443800, -9000⟩, ⟨1352003400, -12600⟩, ⟨1362893400, -9000⟩,
    ⟨1383453000, -12600⟩, ⟨1394343000, -9000⟩, ⟨1414902600, -12600⟩, ⟨1425792600, -9000⟩,
    ⟨1446352200, -12600⟩, ⟨1457847000, -9000⟩, ⟨1478406600, -12600⟩, ⟨1489296600, -9000⟩,
    ⟨1509856200, -12600⟩, ⟨1520746200, -9000⟩, ⟨1541305800, -12600⟩, ⟨1552195800, -9000⟩,
    ⟨1572755400, -12600⟩, ⟨1583645400, -9000⟩, ⟨1604205000, -12600⟩, ⟨1615699800, -9000⟩,
    ⟨1636259400, -12600⟩, ⟨1647149400, -9000⟩, ⟨1667709000, -12600⟩, ⟨1678599000, -9000⟩,
    ⟨1699158600, -12600⟩, ⟨1710048600, -9000⟩, ⟨1730608200, -12600⟩, ⟨1741498200, -9000⟩,
    ⟨1762057800, -12600⟩, ⟨1772947800, -9000⟩, ⟨1793507400, -12600⟩, ⟨1805002200, -9000⟩,
    ⟨1825561800, -12600⟩, ⟨1836451800, -9000⟩, ⟨1857011400, -12600⟩, ⟨1867901400, -9000⟩,
    ⟨1888461000, -12600⟩, ⟨1899351000, -9000⟩, ⟨1919910600, -12600⟩, ⟨1930800600, -9000⟩,
    ⟨1951360200, -12600⟩, ⟨1962855000, -9000⟩, ⟨1983414600, -12600⟩, ⟨1994304600, -9000⟩,
    ⟨2014864200, -12600⟩, ⟨2025754200, -9000⟩, ⟨2046313800, -12600⟩, ⟨2057203800, -9000⟩,
    ⟨2077763400, -12600⟩, ⟨2088653400, -9000⟩, ⟨2109213000, -12600⟩, ⟨2120103000, -9000⟩,
    ⟨2140662600, -12600⟩, ⟨2152157400, -9000⟩, ⟨2172717000, -12600⟩, ⟨2183607000, -9000⟩,
    ⟨2204166600, -12600⟩, ⟨2215056600, -9000⟩, ⟨2235616200, -12600⟩, ⟨2246506200, -9000⟩,
    ⟨2267065800, -12600⟩, ⟨2277955800, -9000⟩, ⟨2298515400, -12600⟩, ⟨2309405400, -9000⟩,
    ⟨2329965000, -12600⟩, ⟨2341459800, -9000⟩, ⟨2362019400, -12600⟩, ⟨2372909400, -9000⟩,
    ⟨2393469000, -12600⟩, ⟨2404359000, -9000⟩, ⟨2424918600, -12600⟩, ⟨2435808600, -9000⟩,
    ⟨2456368200, -12600⟩, ⟨2467258200, -9000⟩, ⟨2487817800, -12600⟩, ⟨2499312600, -9000⟩,
    ⟨2519872200, -12600⟩, ⟨2530762200, -9000⟩, ⟨2551321800, -12600⟩, ⟨2562211800, -9000⟩,
    ⟨2582771400, -12600⟩, ⟨2593661400, -9000⟩, ⟨2614221000, -12600⟩, ⟨2625111000, -9000⟩,
    ⟨2645670600, -12600⟩, ⟨2656560600, -9000⟩, ⟨2677120200, -12600⟩, ⟨2688615000, -9000⟩,
    ⟨2709174600, -12600⟩, ⟨2720064600, -9000⟩, ⟨2740624200, -12600⟩, ⟨2751514200, -9000⟩,
    ⟨2772073800, -12600⟩, ⟨2782963800, -9000⟩, ⟨2803523400, -12600⟩, ⟨2814413400, -9000⟩,
    ⟨2834973000, -12600⟩, ⟨2846467800, -9000⟩, ⟨2867027400, -12600⟩, ⟨2877917400, -9000⟩,
    ⟨2898477000, -12600⟩, ⟨2909367000, -9000⟩, ⟨2929926600, -12600⟩, ⟨2940816600, -9000⟩,
    ⟨2961376200, -12600⟩, ⟨2972266200, -9000⟩, ⟨2992825800, -12600⟩, ⟨3003715800, -9000⟩,
    ⟨3024275400, -12600⟩, ⟨3035770200, -9000⟩, ⟨3056329800, -12600⟩, ⟨3067219800, -9000⟩,
    ⟨3087779400, -12600⟩, ⟨3098669400, -9000⟩, ⟨3119229000, -12600⟩, ⟨3130119000, -9000⟩,
    ⟨3150678600, -12600⟩, ⟨3161568600, -9000⟩, ⟨3182128200, -12600⟩, ⟨3193018200, -9000⟩,
    ⟨3213577800, -12600⟩, ⟨3225072600, -9000⟩, ⟨3245632200, -12600⟩, ⟨3256522200, -9000⟩,
    ⟨3277081800, -12600⟩, ⟨3287971800, -9000⟩, ⟨3308531400, -12600⟩, ⟨3319421400, -9000⟩,
    ⟨3339981000, -12600⟩, ⟨3350871000, -9000⟩, ⟨3371430600, -12600⟩, ⟨3382925400, -9000⟩,
    ⟨3403485000, -12600⟩, ⟨3414375000, -9000⟩, ⟨3434934600, -12600⟩, ⟨3445824600, -9000⟩,
    ⟨3466384200, -12600⟩, ⟨3477274200, -9000⟩, ⟨3497833800, -12600⟩, ⟨3508723800, -9000⟩,
    ⟨3529283400, -12600⟩, ⟨3540173400, -9000⟩, ⟨3560733000, -12600⟩, ⟨3572227800, -9000⟩,
    ⟨3592787400, -12600⟩, ⟨3603677400, -9000⟩, ⟨3624237000, -12600⟩, ⟨3635127000, -9000⟩,
    ⟨3655686600, -12600⟩, ⟨3666576600, -9000⟩, ⟨3687136200, -12600⟩, ⟨3698026200, -9000⟩,
    ⟨3718585800, -12600⟩, ⟨3730080600, -9000⟩, ⟨3750640200, -12600⟩, ⟨3761530200, -9000⟩,
    ⟨3782089800, -12600⟩, ⟨3792979800, -9000⟩, ⟨3813539400, -12600⟩, ⟨3824429400, -9000⟩,
    ⟨3844989000, -12600⟩, ⟨3855879000, -9000⟩, ⟨3876438600, -12600⟩, ⟨3887328600, -9000⟩,
    ⟨3907888200, -12600⟩, ⟨3919383000, -9000⟩, ⟨3939942600, -12600⟩, ⟨3950832600, -9000⟩,
    ⟨3971392200, -12600⟩, ⟨3982282200, -9000⟩, ⟨4002841800, -12600⟩, ⟨4013731800, -9000⟩,
    ⟨4034291400, -12600⟩, ⟨4045181400, -9000⟩, ⟨4065741000, -12600⟩, ⟨4076631000, -9000⟩,
    ⟨4097190600, -12600⟩]

def caracas : Zone where
  initial := -16064
  transitions := [⟨-2524505536, -16060⟩, ⟨-1826739140, -16200⟩, ⟨-157750200, -14400⟩,
    ⟨1197183600, -16200⟩, ⟨1462086000, -14400⟩]

def saoPaulo : Zone where
  initial := -11188
  transitions := [⟨-1767214412, -10800⟩, ⟨-1206957600, -7200⟩, ⟨-1191362400, -10800⟩,
    ⟨-1175374800, -7200⟩, ⟨-1159826400, -10800⟩, ⟨-633819600, -7200⟩, ⟨-622069200, -10800⟩,
    ⟨-602283600, -7200⟩, ⟨-591832800, -10800⟩, ⟨-570747600, -7200⟩, ⟨-560210400, -10800⟩,
    ⟨-539125200, -7200⟩, ⟨-531352800, -10800⟩, ⟨-195426000, -7200⟩, ⟨-184197600, -10800⟩,
    ⟨-155163600, -7200⟩, ⟨-150069600, -10800⟩, ⟨-128898000, -7200⟩, ⟨-121125600, -10800⟩,
    ⟨-99954000, -7200⟩, ⟨-89589600, -10800⟩, ⟨-68418000, -7200⟩, ⟨-57967200, -10800⟩,
    ⟨499748400, -7200⟩, ⟨511236000, -10800⟩, ⟨530593200, -7200⟩, ⟨540266400, -10800⟩,
    ⟨562129200, -7200⟩, ⟨571197600, -10800⟩, ⟨592974000, -7200⟩, ⟨602042400, -10800⟩,
    ⟨624423600, -7200⟩, ⟨634701600, -10800⟩, ⟨656478000, -7200⟩, ⟨666756000, -10800⟩,
    ⟨687927600, -7200⟩, ⟨697600800, -10800⟩, ⟨719982000, -7200⟩, ⟨728445600, -10800⟩,
    ⟨750826800, -7200⟩, ⟨761709600, -10800⟩, ⟨782276400, -7200⟩, ⟨793159200, -10800⟩,
    ⟨813726000, -7200⟩, ⟨824004000, -10800⟩, ⟨844570800, -7200⟩, ⟨856058400, -10800⟩,
    ⟨876106800, -7200⟩, ⟨888717600, -10800⟩, ⟨908074800, -7200⟩, ⟨919562400, -10800⟩,
    ⟨938919600, -7200⟩, ⟨951616800, -10800⟩, ⟨970974000, -7200⟩, ⟨982461600, -10800⟩,
    ⟨1003028400, -7200⟩, ⟨1013911200, -10800⟩, ⟨1036292400, -7200⟩, ⟨1045360800, -10800⟩,
    ⟨1066532400, -7200⟩, ⟨1076810400, -10800⟩, ⟨1099364400, -7200⟩, ⟨1108864800, -10800⟩,
    ⟨1129431600, -7200⟩, ⟨1140314400, -10800⟩, ⟨1162695600, -7200⟩, ⟨1172368800, -10800⟩,
    ⟨1192330800, -7200⟩, ⟨1203213600, -10800⟩, ⟨1224385200, -7200⟩, ⟨1234663200, -10800⟩,
    ⟨1255834800, -7200⟩, ⟨1266717600, -10800⟩, ⟨1287284400, -7200⟩, ⟨1298167200, -10800⟩,
    ⟨1318734000, -7200⟩, ⟨1330221600, -10800⟩, ⟨1350788400, -7200⟩, ⟨1361066400, -10800⟩,
    ⟨1382238000, -7200⟩, ⟨1392516000, -10800⟩, ⟨1413687600, -7200⟩, ⟨1424570400, -10800⟩,
    ⟨1445137200, -7200⟩, ⟨1456020000, -10800⟩, ⟨1476586800, -7200⟩, ⟨1487469600, -10800⟩,
    ⟨1508036400, -7200⟩, ⟨1518919200, -10800⟩, ⟨1541300400, -7200⟩, ⟨1550368800, -10800⟩]

def tokyo : Zone where
  initial := 33539
  transitions := [⟨-2587712400, 32400⟩, ⟨-683802000, 36000⟩, ⟨-672310800, 32400⟩,
    ⟨-654771600, 36000⟩, ⟨-640861200, 32400⟩, ⟨-620298000, 36000⟩, ⟨-609411600, 32400⟩,
    ⟨-588848400, 36000⟩, ⟨-577962000, 32400⟩]

def kolkata : Zone where
  initial := 21208
  transitions := [⟨-3645237208, 21200⟩, ⟨-3155694800, 19270⟩, ⟨-2019705670, 19800⟩,
    ⟨-891581400, 23400⟩, ⟨-872058600, 19800⟩, ⟨-862637400, 23400⟩, ⟨-764145000, 19800⟩]

def kathmandu : Zone where
  initial := 20476
  transitions := [⟨-1577943676, 19800⟩, ⟨504901800, 20700⟩]

def pyongyang : Zone where
  initial := 30180
  transitions := [⟨-1948782180, 30600⟩, ⟨-1830414600, 32400⟩, ⟨1439564400, 30600⟩,
    ⟨1525446000, 32400⟩]

def lordHowe : Zone where
  initial := 38180
  transitions := [⟨-2364114980, 36000⟩, ⟨352216800, 37800⟩, ⟨372785400, 41400⟩, ⟨384273000, 37800⟩,
    ⟨404839800, 41400⟩, ⟨415722600, 37800⟩, ⟨436289400, 41400⟩, ⟨447172200, 37800⟩,
    ⟨467739000, 41400⟩, ⟨478621800, 37800⟩, ⟨499188600, 39600⟩, ⟨511282800, 37800⟩,
    ⟨530033400, 39600⟩, ⟨542732400, 37800⟩, ⟨562087800, 39600⟩, ⟨574786800, 37800⟩,
    ⟨594142200, 39600⟩, ⟨606236400, 37800⟩, ⟨625591800, 39600⟩, ⟨636476400, 37800⟩,
    ⟨657041400, 39600⟩, ⟨667926000, 37800⟩, ⟨688491000, 39600⟩, ⟨699375600, 37800⟩,
    ⟨719940600, 39600⟩, ⟨731430000, 37800⟩, ⟨751995000, 39600⟩, ⟨762879600, 37800⟩,
    ⟨783444600, 39600⟩, ⟨794329200, 37800⟩, ⟨814894200, 39600⟩, ⟨828198000, 37800⟩,
    ⟨846343800, 39600⟩, ⟨859647600, 37800⟩, ⟨877793400, 39600⟩, ⟨891097200, 37800⟩,
    ⟨909243000, 39600⟩, ⟨922546800, 37800⟩, ⟨941297400, 39600⟩, ⟨953996400, 37800⟩,
    ⟨967303800, 39600⟩, ⟨985446000, 37800⟩, ⟨1004196600, 39600⟩, ⟨1017500400, 37800⟩,
    ⟨1035646200, 39600⟩, ⟨1048950000, 37800⟩, ⟨1067095800, 39600⟩, ⟨1080399600, 37800⟩,
    ⟨1099150200, 39600⟩, ⟨1111849200, 37800⟩, ⟨1130599800, 39600⟩, ⟨1143903600, 37800⟩,
    ⟨1162049400, 39600⟩, ⟨1174748400, 37800⟩, ⟨1193499000, 39600⟩, ⟨1207407600, 37800⟩,
    ⟨1223134200, 39600⟩, ⟨1238857200, 37800⟩, ⟨1254583800, 39600⟩, ⟨1270306800, 37800⟩,
    ⟨1286033400, 39600⟩, ⟨1301756400, 37800⟩, ⟨1317483000, 39600⟩, ⟨1333206000, 37800⟩,
    ⟨1349537400, 39600⟩, ⟨1365260400, 37800⟩, ⟨1380987000, 39600⟩, ⟨1396710000, 37800⟩,
    ⟨1412436600, 39600⟩, ⟨1428159600, 37800⟩, ⟨1443886200, 39600⟩, ⟨1459609200, 37800⟩,
    ⟨1475335800, 39600⟩, ⟨1491058800, 37800⟩, ⟨1506785400, 39600⟩, ⟨1522508400, 37800⟩,
    ⟨1538839800, 39600⟩, ⟨1554562800, 37800⟩, ⟨1570289400, 39600⟩, ⟨1586012400, 37800⟩,
    ⟨1601739000, 39600⟩, ⟨1617462000, 37800⟩, ⟨1633188600, 39600⟩, ⟨1648911600, 37800⟩,
    ⟨1664638200, 39600⟩, ⟨1680361200, 37800⟩, ⟨1696087800, 39600⟩, ⟨1712415600, 37800⟩,
    ⟨1728142200, 39600⟩, ⟨1743865200, 37800⟩, ⟨1759591800, 39600⟩, ⟨1775314800, 37800⟩,
    ⟨1791041400, 39600⟩, ⟨1806764400, 37800⟩, ⟨1822491000, 39600⟩, ⟨1838214000, 37800⟩,
    ⟨1853940600, 39600⟩, ⟨1869663600, 37800⟩, ⟨1885995000, 39600⟩, ⟨1901718000, 37800⟩,
    ⟨1917444600, 39600⟩, ⟨1933167600, 37800⟩, ⟨1948894200, 39600⟩, ⟨1964617200, 37800⟩,
    ⟨1980343800, 39600⟩, ⟨1996066800, 37800⟩, ⟨2011793400, 39600⟩, ⟨2027516400, 37800⟩,
    ⟨2043243000, 39600⟩, ⟨2058966000, 37800⟩, ⟨2075297400, 39600⟩, ⟨2091020400, 37800⟩,
    ⟨2106747000, 39600⟩, ⟨2122470000, 37800⟩, ⟨2138196600, 39600⟩, ⟨2153919600, 37800⟩,
    ⟨2169646200, 39600⟩, ⟨2185369200, 37800⟩, ⟨2201095800, 39600⟩, ⟨2216818800, 37800⟩,
    ⟨2233150200, 39600⟩, ⟨2248873200, 37800⟩, ⟨2264599800, 39600⟩, ⟨2280322800, 37800⟩,
    ⟨2296049400, 39600⟩, ⟨2311772400, 37800⟩, ⟨2327499000, 39600⟩, ⟨2343222000, 37800⟩,
    ⟨2358948600, 39600⟩, ⟨2374671600, 37800⟩, ⟨2390398200, 39600⟩, ⟨2406121200, 37800⟩,
    ⟨2422452600, 39600⟩, ⟨2438175600, 37800⟩, ⟨2453902200, 39600⟩, ⟨2469625200, 37800⟩,
    ⟨2485351800, 39600⟩, ⟨2501074800, 37800⟩, ⟨2516801400, 39600⟩, ⟨2532524400, 37800⟩,
    ⟨2548251000, 39600⟩, ⟨2563974000, 37800⟩, ⟨2579700600, 39600⟩, ⟨2596028400, 37800⟩,
    ⟨2611755000, 39600⟩, ⟨2627478000, 37800⟩, ⟨2643204600, 39600⟩, ⟨2658927600, 37800⟩,
    ⟨2674654200, 39600⟩, ⟨2690377200, 37800⟩, ⟨2706103800, 39600⟩, ⟨2721826800, 37800⟩,
    ⟨2737553400, 39600⟩, ⟨2753276400, 37800⟩, ⟨2769607800, 39600⟩, ⟨2785330800, 37800⟩,
    ⟨2801057400, 39600⟩, ⟨2816780400, 37800⟩, ⟨2832507000, 39600⟩, ⟨2848230000, 37800⟩,
    ⟨2863956600, 39600⟩, ⟨2879679600, 37800⟩, ⟨2895406200, 39600⟩, ⟨2911129200, 37800⟩,
    ⟨2926855800, 39600⟩, ⟨2942578800, 37800⟩, ⟨2958910200, 39600⟩, ⟨2974633200, 37800⟩,
    ⟨2990359800, 39600⟩, ⟨3006082800, 37800⟩, ⟨3021809400, 39600⟩, ⟨3037532400, 37800⟩,
    ⟨3053259000, 39600⟩, ⟨3068982000, 37800⟩, ⟨3084708600, 39600⟩, ⟨3100431600, 37800⟩,
    ⟨3116763000, 39600⟩, ⟨3132486000, 37800⟩, ⟨3148212600, 39600⟩, ⟨3163935600, 37800⟩,
    ⟨3179662200, 39600⟩, ⟨3195385200, 37800⟩, ⟨3211111800, 39600⟩, ⟨3226834800, 37800⟩,
    ⟨3242561400, 39600⟩, ⟨3258284400, 37800⟩, ⟨3274011000, 39600⟩, ⟨3289734000, 37800⟩,
    ⟨3306065400, 39600⟩, ⟨3321788400, 37800⟩, ⟨3337515000, 39600⟩, ⟨3353238000, 37800⟩,
    ⟨3368964600, 39600⟩, ⟨3384687600, 37800⟩, ⟨3400414200, 39600⟩, ⟨3416137200, 37800⟩,
    ⟨3431863800, 39600⟩, ⟨3447586800, 37800⟩, ⟨3463313400, 39600⟩, ⟨3479641200, 37800⟩,
    ⟨3495367800, 39600⟩, ⟨3511090800, 37800⟩, ⟨3526817400, 39600⟩, ⟨3542540400, 37800⟩,
    ⟨3558267000, 39600⟩, ⟨3573990000, 37800⟩, ⟨3589716600, 39600⟩, ⟨3605439600, 37800⟩,
    ⟨3621166200, 39600⟩, ⟨3636889200, 37800⟩, ⟨3653220600, 39600⟩, ⟨3668943600, 37800⟩,
    ⟨3684670200, 39600⟩, ⟨3700393200, 37800⟩, ⟨3716119800, 39600⟩, ⟨3731842800, 37800⟩,
    ⟨3747569400, 39600⟩, ⟨3763292400, 37800⟩, ⟨3779019000, 39600⟩, ⟨3794742000, 37800⟩,
    ⟨3810468600, 39600⟩, ⟨3826191600, 37800⟩, ⟨3842523000, 39600⟩, ⟨3858246000, 37800⟩,
    ⟨3873972600, 39600⟩, ⟨3889695600, 37800⟩, ⟨3905422200, 39600⟩, ⟨3921145200, 37800⟩,
    ⟨3936871800, 39600⟩, ⟨3952594800, 37800⟩, ⟨3968321400, 39600⟩, ⟨3984044400, 37800⟩,
    ⟨4000375800, 39600⟩, ⟨4016098800, 37800⟩, ⟨4031825400, 39600⟩, ⟨4047548400, 37800⟩,
    ⟨4063275000, 39600⟩, ⟨4078998000, 37800⟩, ⟨4094724600, 39600⟩]

def apia : Zone where
  initial := 45184
  transitions := [⟨-2445424384, -41216⟩, ⟨-1861878784, -41400⟩, ⟨-631110600, -39600⟩,
    ⟨1285498800, -36000⟩, ⟨1301752800, -39600⟩, ⟨1316872800, -36000⟩, ⟨1325239200, 50400⟩,
    ⟨1333202400, 46800⟩, ⟨1348927200, 50400⟩, ⟨1365256800, 46800⟩, ⟨1380376800, 50400⟩,
    ⟨1396706400, 46800⟩, ⟨1411826400, 50400⟩, ⟨1428156000, 46800⟩, ⟨1443276000, 50400⟩,
    ⟨1459605600, 46800⟩, ⟨1474725600, 50400⟩, ⟨1491055200, 46800⟩, ⟨1506175200, 50400⟩,
    ⟨1522504800, 46800⟩, ⟨1538229600, 50400⟩, ⟨1554559200, 46800⟩, ⟨1569679200, 50400⟩,
    ⟨1586008800, 46800⟩, ⟨1601128800, 50400⟩, ⟨1617458400, 46800⟩]

def kiritimati : Zone where
  initial := -37760
  transitions := [⟨-2177415040, -38400⟩, ⟨307622400, -36000⟩, ⟨788868000, 50400⟩]

def monrovia : Zone where
  initial := -2588
  transitions := [⟨-1604359012, -2670⟩, ⟨63593070, 0⟩]

def casablanca : Zone where
  initial := -1820
  transitions := [⟨-1773012580, 0⟩, ⟨-956361600, 3600⟩, ⟨-950490000, 0⟩, ⟨-942019200, 3600⟩,
    ⟨-761187600, 0⟩, ⟨-617241600, 3600⟩, ⟨-605149200, 0⟩, ⟨-81432000, 3600⟩, ⟨-71110800, 0⟩,
    ⟨141264000, 3600⟩, ⟨147222000, 0⟩, ⟨199756800, 3600⟩, ⟨207702000, 0⟩, ⟨231292800, 3600⟩,
    ⟨244249200, 0⟩, ⟨265507200, 3600⟩, ⟨271033200, 0⟩, ⟨448243200, 3600⟩, ⟨504918000, 0⟩,
    ⟨1212278400, 3600⟩, ⟨1220223600, 0⟩, ⟨1243814400, 3600⟩, ⟨1250809200, 0⟩, ⟨1272758400, 3600⟩,
    ⟨1281222000, 0⟩, ⟨1301788800, 3600⟩, ⟨1312066800, 0⟩, ⟨1335664800, 3600⟩, ⟨1342749600, 0⟩,
    ⟨1345428000, 3600⟩, ⟨1348970400, 0⟩, ⟨1367114400, 3600⟩, ⟨1373162400, 0⟩, ⟨1376100000, 3600⟩,
    ⟨1382839200, 0⟩, ⟨1396144800, 3600⟩, ⟨1403920800, 0⟩, ⟨1406944800, 3600⟩, ⟨1414288800, 0⟩,
    ⟨1427594400, 3600⟩, ⟨1434247200, 0⟩, ⟨1437271200, 3600⟩, ⟨1445738400, 0⟩, ⟨1459044000, 3600⟩,
    ⟨1465092000, 0⟩, ⟨1468116000, 3600⟩, ⟨1477792800, 0⟩, ⟨1490493600, 3600⟩, ⟨1495332000, 0⟩,
    ⟨1498960800, 3600⟩, ⟨1509242400, 0⟩, ⟨1521943200, 3600⟩, ⟨1526176800, 0⟩, ⟨1529200800, 3600⟩,
    ⟨1557021600, 0⟩, ⟨1560045600, 3600⟩, ⟨1587261600, 0⟩, ⟨1590890400, 3600⟩, ⟨1618106400, 0⟩,
    ⟨1621130400, 3600⟩, ⟨1648346400, 0⟩, ⟨1651975200, 3600⟩, ⟨1679191200, 0⟩, ⟨1682215200, 3600⟩,
    ⟨1710036000, 0⟩, ⟨1713060000, 3600⟩, ⟨1740276000, 0⟩, ⟨1743904800, 3600⟩, ⟨1771120800, 0⟩,
    ⟨1774144800, 3600⟩, ⟨1801965600, 0⟩, ⟨1804989600, 3600⟩, ⟨1832205600, 0⟩, ⟨1835834400, 3600⟩,
    ⟨1863050400, 0⟩, ⟨1866074400, 3600⟩, ⟨1893290400, 0⟩, ⟨1896919200, 3600⟩, ⟨1924135200, 0⟩,
    ⟨1927159200, 3600⟩, ⟨1954980000, 0⟩, ⟨1958004000, 3600⟩, ⟨1985220000, 0⟩, ⟨1988848800, 3600⟩,
    ⟨2016064800, 0⟩, ⟨2019088800, 3600⟩, ⟨2046304800, 0⟩, ⟨2049933600, 3600⟩, ⟨2077149600, 0⟩,
    ⟨2080778400, 3600⟩, ⟨2107994400, 0⟩, ⟨2111018400, 3600⟩, ⟨2138234400, 0⟩, ⟨2141863200, 3600⟩,
    ⟨2169079200, 0⟩, ⟨2172103200, 3600⟩, ⟨2199924000, 0⟩, ⟨2202948000, 3600⟩, ⟨2230164000, 0⟩,
    ⟨2233792800, 3600⟩, ⟨2261008800, 0⟩, ⟨2264032800, 3600⟩, ⟨2291248800, 0⟩, ⟨2294877600, 3600⟩,
    ⟨2322093600, 0⟩, ⟨2325722400, 3600⟩, ⟨2352938400, 0⟩, ⟨2355962400, 3600⟩, ⟨2383178400, 0⟩,
    ⟨2386807200, 3600⟩, ⟨2414023200, 0⟩, ⟨2417047200, 3600⟩, ⟨2444868000, 0⟩, ⟨2447892000, 3600⟩,
    ⟨2475108000, 0⟩, ⟨2478736800, 3600⟩, ⟨2505952800, 0⟩, ⟨2508976800, 3600⟩, ⟨2536192800, 0⟩,
    ⟨2539821600, 3600⟩, ⟨2567037600, 0⟩, ⟨2570666400, 3600⟩, ⟨2597882400, 0⟩, ⟨2600906400, 3600⟩,
    ⟨2628122400, 0⟩, ⟨2631751200, 3600⟩, ⟨2658967200, 0⟩, ⟨2661991200, 3600⟩, ⟨2689812000, 0⟩,
    ⟨2692836000, 3600⟩, ⟨2720052000, 0⟩, ⟨2723680800, 3600⟩, ⟨2750896800, 0⟩, ⟨2753920800, 3600⟩,
    ⟨2781136800, 0⟩, ⟨2784765600, 3600⟩, ⟨2811981600, 0⟩, ⟨2815610400, 3600⟩, ⟨2842826400, 0⟩,
    ⟨2845850400, 3600⟩, ⟨2873066400, 0⟩, ⟨2876695200, 3600⟩, ⟨2903911200, 0⟩, ⟨2906935200, 3600⟩,
    ⟨2934756000, 0⟩, ⟨2937780000, 3600⟩, ⟨2964996000, 0⟩, ⟨2968624800, 3600⟩, ⟨2995840800, 0⟩,
    ⟨2998864800, 3600⟩, ⟨3026080800, 0⟩, ⟨3029709600, 3600⟩, ⟨3056925600, 0⟩, ⟨3060554400, 3600⟩,
    ⟨3087770400, 0⟩, ⟨3090794400, 3600⟩, ⟨3118010400, 0⟩, ⟨3121639200, 3600⟩, ⟨3148855200, 0⟩,
    ⟨3151879200, 3600⟩, ⟨3179700000, 0⟩, ⟨3182724000, 3600⟩, ⟨3209940000, 0⟩, ⟨3213568800, 3600⟩,
    ⟨3240784800, 0⟩, ⟨3243808800, 3600⟩, ⟨3271024800, 0⟩, ⟨3274653600, 3600⟩, ⟨3301869600, 0⟩,
    ⟨3305498400, 3600⟩, ⟨3332714400, 0⟩, ⟨3335738400, 3600⟩, ⟨3362954400, 0⟩, ⟨3366583200, 3600⟩,
    ⟨3393799200, 0⟩, ⟨3396823200, 3600⟩, ⟨3424644000, 0⟩, ⟨3427668000, 3600⟩, ⟨3454884000, 0⟩,
    ⟨3458512800, 3600⟩, ⟨3485728800, 0⟩, ⟨3488752800, 3600⟩, ⟨3515968800, 0⟩, ⟨3519597600, 3600⟩,
    ⟨3546813600, 0⟩, ⟨3549837600, 3600⟩, ⟨3577658400, 0⟩, ⟨3580682400, 3600⟩, ⟨3607898400, 0⟩,
    ⟨3611527200, 3600⟩, ⟨3638743200, 0⟩, ⟨3641767200, 3600⟩, ⟨3669588000, 0⟩, ⟨3672612000, 3600⟩,
    ⟨3699828000, 0⟩, ⟨3703456800, 3600⟩]

def troll : Zone where
  initial := 0
  transitions := [⟨1111885200, 7200⟩, ⟨1130634000, 0⟩, ⟨1143334800, 7200⟩, ⟨1162083600, 0⟩,
    ⟨1174784400, 7200⟩, ⟨1193533200, 0⟩, ⟨1206838800, 7200⟩, ⟨1224982800, 0⟩, ⟨1238288400, 7200⟩,
    ⟨1256432400, 0⟩, ⟨1269738000, 7200⟩, ⟨1288486800, 0⟩, ⟨1301187600, 7200⟩, ⟨1319936400, 0⟩,
    ⟨1332637200, 7200⟩, ⟨1351386000, 0⟩, ⟨1364691600, 7200⟩, ⟨1382835600, 0⟩, ⟨1396141200, 7200⟩,
    ⟨1414285200, 0⟩, ⟨1427590800, 7200⟩, ⟨1445734800, 0⟩, ⟨1459040400, 7200⟩, ⟨1477789200, 0⟩,
    ⟨1490490000, 7200⟩, ⟨1509238800, 0⟩, ⟨1521939600, 7200⟩, ⟨1540688400, 0⟩, ⟨1553994000, 7200⟩,
    ⟨1572138000, 0⟩, ⟨1585443600, 7200⟩, ⟨1603587600, 0⟩, ⟨1616893200, 7200⟩, ⟨1635642000, 0⟩,
    ⟨1648342800, 7200⟩, ⟨1667091600, 0⟩, ⟨1679792400, 7200⟩, ⟨1698541200, 0⟩, ⟨1711846800, 7200⟩,
    ⟨1729990800, 0⟩, ⟨1743296400, 7200⟩, ⟨1761440400, 0⟩, ⟨1774746000, 7200⟩, ⟨1792890000, 0⟩,
    ⟨1806195600, 7200⟩, ⟨1824944400, 0⟩, ⟨1837645200, 7200⟩, ⟨1856394000, 0⟩, ⟨1869094800, 7200⟩,
    ⟨1887843600, 0⟩, ⟨1901149200, 7200⟩, ⟨1919293200, 0⟩, ⟨1932598800, 7200⟩, ⟨1950742800, 0⟩,
    ⟨1964048400, 7200⟩, ⟨1982797200, 0⟩, ⟨1995498000, 7200⟩, ⟨2014246800, 0⟩, ⟨2026947600, 7200⟩,
    ⟨2045696400, 0⟩, ⟨2058397200, 7200⟩, ⟨2077146000, 0⟩, ⟨2090451600, 7200⟩, ⟨2108595600, 0⟩,
    ⟨2121901200, 7200⟩, ⟨2140045200, 0⟩, ⟨2153350800, 7200⟩, ⟨2172099600, 0⟩, ⟨2184800400, 7200⟩,
    ⟨2203549200, 0⟩, ⟨2216250000, 7200⟩, ⟨2234998800, 0⟩, ⟨2248304400, 7200⟩, ⟨2266448400, 0⟩,
    ⟨2279754000, 7200⟩, ⟨2297898000, 0⟩, ⟨2311203600, 7200⟩, ⟨2329347600, 0⟩, ⟨2342653200, 7200⟩,
    ⟨2361402000, 0⟩, ⟨2374102800, 7200⟩, ⟨2392851600, 0⟩, ⟨2405552400, 7200⟩, ⟨2424301200, 0⟩,
    ⟨2437606800, 7200⟩, ⟨2455750800, 0⟩, ⟨2469056400, 7200⟩, ⟨2487200400, 0⟩, ⟨2500506000, 7200⟩,
    ⟨2519254800, 0⟩, ⟨2531955600, 7200⟩, ⟨2550704400, 0⟩, ⟨2563405200, 7200⟩, ⟨2582154000, 0⟩,
    ⟨2595459600, 7200⟩, ⟨2613603600, 0⟩, ⟨2626909200, 7200⟩, ⟨2645053200, 0⟩, ⟨2658358800, 7200⟩,
    ⟨2676502800, 0⟩, ⟨2689808400, 7200⟩, ⟨2708557200, 0⟩, ⟨2721258000, 7200⟩, ⟨2740006800, 0⟩,
    ⟨2752707600, 7200⟩, ⟨2771456400, 0⟩, ⟨2784762000, 7200⟩, ⟨2802906000, 0⟩, ⟨2816211600, 7200⟩,
    ⟨2834355600, 0⟩, ⟨2847661200, 7200⟩, ⟨2866410000, 0⟩, ⟨2879110800, 7200⟩, ⟨2897859600, 0⟩,
    ⟨2910560400, 7200⟩, ⟨2929309200, 0⟩, ⟨2942010000, 7200⟩, ⟨2960758800, 0⟩, ⟨2974064400, 7200⟩,
    ⟨2992208400, 0⟩, ⟨3005514000, 7200⟩, ⟨3023658000, 0⟩, ⟨3036963600, 7200⟩, ⟨3055712400, 0⟩,
    ⟨3068413200, 7200⟩, ⟨3087162000, 0⟩, ⟨3099862800, 7200⟩, ⟨3118611600, 0⟩, ⟨3131917200, 7200⟩,
    ⟨3150061200, 0⟩, ⟨3163366800, 7200⟩, ⟨3181510800, 0⟩, ⟨3194816400, 7200⟩, ⟨3212960400, 0⟩,
    ⟨3226266000, 7200⟩, ⟨3245014800, 0⟩, ⟨3257715600, 7200⟩, ⟨3276464400, 0⟩, ⟨3289165200, 7200⟩,
    ⟨3307914000, 0⟩, ⟨3321219600, 7200⟩, ⟨3339363600, 0⟩, ⟨3352669200, 7200⟩, ⟨3370813200, 0⟩,
    ⟨3384118800, 7200⟩, ⟨3402867600, 0⟩, ⟨3415568400, 7200⟩, ⟨3434317200, 0⟩, ⟨3447018000, 7200⟩,
    ⟨3465766800, 0⟩, ⟨3479072400, 7200⟩, ⟨3497216400, 0⟩, ⟨3510522000, 7200⟩, ⟨3528666000, 0⟩,
    ⟨3541971600, 7200⟩, ⟨3560115600, 0⟩, ⟨3573421200, 7200⟩, ⟨3592170000, 0⟩, ⟨3604870800, 7200⟩,
    ⟨3623619600, 0⟩, ⟨3636320400, 7200⟩, ⟨3655069200, 0⟩, ⟨3668374800, 7200⟩, ⟨3686518800, 0⟩,
    ⟨3699824400, 7200⟩, ⟨3717968400, 0⟩, ⟨3731274000, 7200⟩, ⟨3750022800, 0⟩, ⟨3762723600, 7200⟩,
    ⟨3781472400, 0⟩, ⟨3794173200, 7200⟩, ⟨3812922000, 0⟩, ⟨3825622800, 7200⟩, ⟨3844371600, 0⟩,
    ⟨3857677200, 7200⟩, ⟨3875821200, 0⟩, ⟨3889126800, 7200⟩, ⟨3907270800, 0⟩, ⟨3920576400, 7200⟩,
    ⟨3939325200, 0⟩, ⟨3952026000, 7200⟩, ⟨3970774800, 0⟩, ⟨3983475600, 7200⟩, ⟨4002224400, 0⟩,
    ⟨4015530000, 7200⟩, ⟨4033674000, 0⟩, ⟨4046979600, 7200⟩, ⟨4065123600, 0⟩, ⟨4078429200, 7200⟩,
    ⟨4096573200, 0⟩]

def manila : Zone where
  initial := -57368
  transitions := [⟨-3944621032, 29032⟩, ⟨-2219083200, 28800⟩, ⟨-1046678400, 32400⟩,
    ⟨-1040115600, 28800⟩, ⟨-885024000, 32400⟩, ⟨-760093200, 28800⟩, ⟨-496224000, 32400⟩,
    ⟨-491562000, 28800⟩, ⟨228326400, 32400⟩, ⟨243702000, 28800⟩, ⟨643219200, 32400⟩,
    ⟨649177200, 28800⟩]

def byName : List (String × Zone) := [
  ("UTC", utc),
  ("GMT", utc),
  ("Zulu", utc),
  ("Etc/GMT+5", fiveBehind),
  ("Etc/GMT-14", fourteenAhead),
  ("Europe/Berlin", berlin),
  ("Europe/Dublin", dublin),
  ("America/New_York", newYork),
  ("America/St_Johns", stJohns),
  ("America/Caracas", caracas),
  ("America/Sao_Paulo", saoPaulo),
  ("Asia/Tokyo", tokyo),
  ("Asia/Kolkata", kolkata),
  ("Asia/Kathmandu", kathmandu),
  ("Asia/Pyongyang", pyongyang),
  ("Australia/Lord_Howe", lordHowe),
  ("Pacific/Apia", apia),
  ("Pacific/Kiritimati", kiritimati),
  ("Africa/Monrovia", monrovia),
  ("Africa/Casablanca", casablanca),
  ("Antarctica/Troll", troll),
  ("Asia/Manila", manila)]

def named? (name : String) : Option Zone := byName.lookup name

end ZoneTable
end MessageInspector.Time
