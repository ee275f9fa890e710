import BookmarkSearch.Unicode.NamedSet

/-!
General categories. Each character is in one of the categories of two letters; a category of one
letter, and the cased letters, are made up of these.
-/

namespace BookmarkSearch.Unicode

def categories : List NamedSet := [
  ⟨["lu", "uppercaseletter"], "
Y2Pd3M16X10101010101010101010101010101010101010101010101010101010201010101010101020101010101010101
01010101010101010101010101010111010311011122311123111101011102011121011307020202010101010101010201
01010101010101020201210101010101010101010101010101010101010101010101010101010107111201310101010f90
103080601210111G18Z10223010101010101010101010105020112o1m10101010101010101010101010101010109010101
01010101010101010101010101010101010101010101010111010101010102010101010101010101010101010101010101
010101010101010101010101010101010101010101010101010101010102b1bV3b11050eNs2ud206g122fA010101010101
01010101010101010101010101010101010101010101010101010101010101010101010101010101010101010101010101
01010101010101010101010101010101010101090101010101010101010101010101010101010101010101010101010101
0101010101010101010101010101010101010109785A78785B010101087f23C3C3C4B3j8040322220346010101323A150z
10nt2l1m101220101013102082101010101010101010101010101010101010101010101010101010101010101010101010
10101010101010101010101010801040reW1010101010101010101010101010101010101010101010J0101010101010101
01010101010g4010101010101030101010101010101010101010101010101010101010101010101010101010A010111010
101040102010301010101010101010101414101010101010101310113050101010O0vbNPhd1d1h4Z1W5A1E1611Yv1o1X5L
rz2V1XtMV1cXRPQPQPQ01120212317QPQ1132716R113141036RPQPQPQPQPQPUOX1OX1OX1OX1OX10Yn4X1"⟩,
  ⟨["ll", "lowercaseletter"], "
Z3Pw10f1N17101010101010101010101010101010101010101010101010101010111010101010101011101010101010101
01010101010101010101010101010102010122010203140203220201010201110203010212260202010101010101010111
010101010101010112010301010101010101010101010101010101010101010101010101010101016202110401010101b2
1Qc60103032I0RY11132101010101010101010101014102021p1l110101010101010101010101010101010109010101010
10101010101010101010101010101010101010101010201010101010111010101010101010101010101010101010101010
10101010101010101010101010101010101010101010101010101010m1e1ZV3g122lO5dd2810t3h1W2C1X1e30101010101
01010101010101010101010101010101010101010101010101010101010101010101010101010101010101010101010101
01010101010101010101010101010101010101018101010101010101010101010101010101010101010101010101010101
0101010101010101010101010101010101010101885A78785A7878D2787878411603211832187A211v803130R040402183
40r10Yv2l11031101010401115501010101010101010101010101010101010101010101010101010101010101010101010
1010101010101010101010101011701040Cb11050vcW1010101010101010101010101010101010101010101010J0101010
10101010101010101010g40101010101012101010101010101010101010101010101010101010101010101010101010101
7101020101010104010201210101010101010101010505010101010101010401020301010101010Q030kQg1587m2jYL6C4
gY1Ppd1d1h4Z1V5A1E1611xv1o1W4Lrz2V1XtMV1WXRPQ61HQPQ310161AQPQPQPQPQPQPQPQPQRSO15QO15QO15QO15QO1510
kx191J65ep2X1"⟩,
  ⟨["lt", "titlecaseletter"], "oE02020c10ew778787C0F0l10"⟩,
  ⟨["lm", "modifierletter"], "
bMH4BE47010e4050iF0i70e51q8140V109030a50h50wd10Y40cI0nu10j30rJ0zE5o5V2D0Y1a1cM0D0GCWa31t70a60ZF0h1
450Z31V32gnT0fe15r80q30S1x38n20N0h3231ZF0M0i40k30L1f3390wgM0j11WY251f118Wk10W10rzO3hG2e11sHCX2110x
WH31611zuCz1k66gU0Ya10"⟩,
  ⟨["lo", "otherletter"], "
k50F0d8043r60qQQ43j1V119Z111a310O1A220G01TTv2B0OW1LLg1O7A5N15He1x1r130I079GE47212L16103330G0D112E1
A085412L16111111V1310J2G8121L16111430I0F1N0B7212L16111430U112F0H015321331101131323BM0q17121M1F30Q2
2021U047121M191430V1111F1H8121e120G05282O55H3N181026w1l111C5x1110141N1019119024N3W10W271Z1R4r3g1K0
G5433031724CC0p3nA132610132e1132W1132610132E1u1132Z2b1Fp3zJ2G1P5h2677HDIEHEC12Fp1e10a2Y11q1742X110
5c2AUn1T24Bh14Ps1M9q1q5k1H7s1TD1Ah1QZ1f12ATp33151130xY13ua3t1OM9616161616161616tH0r104s2801w2405g1
1V3HV1m1FlGov6X2uvL1va1a2d18o84FA1Z20n1c2j50f303612131MTp1En1V253011BRAMPS7k1j1428A41e1N217KF15303
n11031242010O13A70E525259616q4Y1TgoBCM4m1pt8tB2h3a20191C141011111j3X1qBIW22r1e1Bs341f4h391i12U3525
2522Z1B1P1I111E2DY1y3mCS3m1l1V1DJ176b1AT2Z147Z4k2a3d18p1z2p1CVA9LA7x45201h111302MAM9UY2I11ALAPd2t1
61X20F3121Sg1S3SZ171RRr1ALAIDHm3f2x5Z1c1310u9f161G2x1SA08Lg1Hk1KRMCq1v1120Di1W1OQZ1T0208Y130Cl1E3L
010Z1H1OJ1W2610131E197k1c17212L16111430I0C4U910201b110P010i1q1I3K2Ul1K110y5k1f13a1l1K0x1g1D0e2Qb16
z5h1u672027111NF010W372c1G010S0Ad170L0Bj1J0If2i6W1V181a1H0n1To36111b1L0P5111V1E0mAIF01C1X1V40m2rTi
7e6Ws2Y3FmY1H5PvZ45tIqY7Tvu1fI7UHl2HTIl1p1K5IWEd1XDh250p5xg68xd1f19se9g9F0T220E38sCjh2i35C3879ha90
aGi1X10gATIh1oFQh7T20zF613111E1f6bh131Q1110201913101060401010121110201010101011102316131310191G521
41Gnn4Wji1W1ze46Z72vz5EWt7FWKmm2jHnm1eZ55bg4"⟩,
  ⟨["mn", "nonspacingmark"], "
tOn3w84m8i110111110f2Am1KG0d36252113Z10UQy2Aw1890O3181214h12x18g1N1V1t1010474036A1T0w104380K1Q021v
1041412230U130B1v10441140K1M510w1020138071B1U0z10C0o1030t1012521371B1T0w10206051K1S1v114380K1T0f20
7210x2026C7a3028B6g21R01010t1D14115A1Z190e33151121P142G3D02160F0qM2lU2T1U1U1X2116802A90j1210t31Y10
u32419062X7120w10161010276920m1D1Fn13m10141050e18C1W132112u10113012w1721x421C16406031h6W2cNC403BWb
32m40Y3V1wH3j31WhV1049W11n21t803040P150w41QHD0c17PAk12m102321d10a252121C080l10p1012215110g1180q702
040yXL0tNFGFhV10e70u44wr121153e1240f51kI3Y24cA1m23d2An13z30s1Ef1021A2n132170z12a1417V20C1q18A320X3
220116020X5037L1v1130b1634d25D01010E1s272210N0r25104111q736111R1s272011i30102510d30102314g8811d811
040p432140W19e1523809522k1C11YD61510p2L261111y3530111610f213010bB1B1q145010N0mm506EuxBB32ln24x16uX
10W23o20miK1tw4j12MmH2H726U3t42vW2s14n180E0M41Ewh161G261114c30a56YC0z13hG3b81sN6l36mpnQr7"⟩,
  ⟨["mc", "spacingmark"], "
ih20t10228311o11w126121A0h10w12Z20w128011r11w10106121A0e31113212A0f12z13z11w1014211191S0E1w125212A
0g11i2267I1pA1W20l51406021P1A226L12520A2ir10U0a407711aB3224115c71w1010901185q40m10501411z10U04120y
10221031m1781l50L0pY51myV1120v21o1Fn41l10m114122m3121O0j1010l302150p71111110ipQ010Y40j1241r30O1x10
m1291D0V323110k52V11w1113212290A1r227020131110d328130i32601320p726320p328110l301160f301140i8290z75
11402010n428340r20T1V20ZD0E0i307020w644110eB1C0m118110dmH2ts3s1g31syP165"⟩,
  ⟨["me", "enclosingmark"], "ib11gx50lo1312umZ12"⟩,
  ⟨["nd", "decimalnumber", "digit"], "
m19to19f49h69eD9u39u39u39u39u39u39u39u39u39Y39u39d29z89d29Xy19c19q99Z49g5969w59t29f4969sqa19wL9c19
h69M9t29YD9ZZM9oj19hd2969qP9Z49y19p49z89WB9u39XC9e396Jj29oD9e39gL9t29y79d29oD9qlH9mi29t29f49cH9fiP
9iw2n1hj29oD9bG9z79lR9ky49"⟩,
  ⟨["nl", "letternumber"], "gY62at2Y123qv30P8E2znV19uWOq1vE080f44om8m3"⟩,
  ⟨["no", "othernumber"], "
s515022Wj25ZC5w32e46V76H8zD9sY1Jsa19kF0gs103569h6Ff10iNx1l2LfKTqi10ub13j49U71EW19d1EudV15jpNi1Y23H
1VBQa13zg17P6d18i24M5a512F2j1X28q11U2i24g37O7f16pA5gBUY59g13o36f4JcCJlh11wD8YSIjRKqYK6sPMZqQJCJk3O
yp58zTw11213j2i11EWV1C"⟩,
  ⟨["pc", "connectorpunctuation"], "X30bk81J0bYx11O2r70"⟩,
  ⟨["pd", "dashpunctuation"], "j10di10p10rt30bX10gZ25pr3020V1140S0hE0J0n30mss11b10A0j50ru30dA0"⟩,
  ⟨["ps", "openpunctuation"], "
e10o10V10sx3010vy10hl2030c10t10F0jK010U0WZ10101010101010n20W1010101010WD010101010101010101010X2010
X10cY10101010P0I0101010uD0101010103010101020zos10y60T01010101010101030H01010k50o10V103020"⟩,
  ⟨["pe", "closepunctuation"], "
f10p10V10rx3010vy10tm20t10F0jK010U0WZ10101010101010n20W1010101010WD010101010101010101010X2010X10cY
10101010i10101010uD0101010103010101021wos10V70T01010101010101030H01010k50p10V102020"⟩,
  ⟨["pi", "initialpunctuation"], "l50kg802120P0up30104020F030"⟩,
  ⟨["pf", "finalpunctuation"], "W60Vg8030S0up30104020F030"⟩,
  ⟨["po", "otherpunctuation"], "
X1212201011A131R0b2050E170pM080WF5f10s102020i11K111D012h23e30h1Dl72s1EV10i81A0l40w30x30nC0C0vB0x20
A1i5E10o30h2441n35l50sJ8yO0V42e21X5212b1513YA1z61Z4615a51A6S2V43x14V21X27B0xQ1878823223A1019Xg3311
o30o41422028111021A41923101C22uD2v10Y60VxU1q82b30A0r35dC3t21e1210n11l10Z3CG1V43X41G1W80fwL620M0K12
33213726011u4212201011A131R0a1021cD2mL0m10gD0zN0i60V10t88c10o36Z26w23rU4i13Y66l3113X43m11m2340D012
v25j30o9111q34A110g30X8Mh32SCj20b42Z80l82V50z27q2214V39y60X34g11uK1h2Cp50pa14vW31ymF1e40Y2480uH2l9
3mA0qiK0yy74mW30uR1"⟩,
  ⟨["sm", "mathsymbol"], "
h10G2z1010j1040b10V10rO0VH2oz60D0d12D2k40d1460b245140202070V112010V1o8W11x20UOe15ZF090s17n30vA42UA
Fd8b4MV24V12e8m1K25lgt10nQ012e50G2z1010c4063mo31jnr10P0V10P0V10P0V10P0V10P0ga61"⟩,
  ⟨["sc", "currencysymbol"], "
a10W43me10z30XG1XG170x70k80sI0fm20hf2W1qXa10cvM0k30z40X7131yk83ezp10Vn20"⟩,
  ⟨["sk", "modifiersymbol"], "
W3010e20604030uG3CD56101Gt30E1gf10oa6012B2D2D2D1ai41plV1M91f31kV10E1xgLGsS010c50rVY24"⟩,
  ⟨["so", "othersymbol"], "
g50204010lV10n81Y41p60A0J1z70oG0WC0b4510d40q60f10oC2F01225K01010e47151153g61dO9fN0eN0X5X1hB998lj11
1311A0116510101040B1E01110w1194231111161U21101Up874J262n21TPd16e2MAo2k2Mw5181r18m31z7i1h1X2c8lGl1L
16c12V11g3h75lB1k1P1v2Cw6QF40D1C0L161vA149W1b190GUBT80FV1Ac1FeApv6W2vWNs1xR3A110kI2mWMFY40j12oF030
41D1YA8v1G221C30l1i1kr11XJ0xe30wd274GsWK350qpL0XY4r7GWEW5r3y1x7Ac12x152M17T4y1LY230V6t2kc1kGt13o17
1D11Vu10uV30a40dNh14b3CE2E1E1a1Na5u1SDh14871E5z4X85jN4G3C3u34W36B40FB4t1896d18T2B41V2yACD2C395t17E
2A687r41y2"⟩,
  ⟨["zs", "spaceseparator"], "W10Y40ou50il2Aa10l10Wa40"⟩,
  ⟨["zl", "lineseparator"], "mm80"⟩,
  ⟨["zp", "paragraphseparator"], "nm80"⟩,
  ⟨["cc", "control", "cntrl"], "0V1X3W1"⟩,
  ⟨["cf", "format"], "n50yh15M0b60n10hC1n20dW40yY24Q4n1419xdx10W82gj40F0bi9Fbfa13vl57zrtQ0UX3"⟩,
  ⟨["co", "privateuse"], "upx1ip6rnvUzab22zab2"⟩,
  ⟨["cn", "unassigned"], "
pS1637010K0uC0c11o1130t17R36Ar80y11d3Dx11n11F0S110B4V1024p708121M0701241912147132051P1306321M07020
202110532132164016H9309030M0702051A030311E41C670308121M0702051912136332051I9206230422010222232C352
3041151DL4D030N0G190304620311141A6M030N0A051903046252041A03BD030p103063G1Q030I2O090117213601085A13
Bw13Ta1201050O010N1501070A14V1f20a13d10a10F0Da1h601411aC041701041f1041X1041701041F0v1041a21W12Q5t2
161nL2w26M8O8KBD0302BW31A5A5Q5w26h14d29V10C3C312g115Ai13Q5B2V21Y20T1B5A5E1V1m1k20g57y12F2V24h11B7h
14cH161c116180101010V11r10F0E160J13090d30C1R0D2X1EX1El43kLLBKjw11W10dB4j101411u162DO87070707070707
070X4X1Q0w2Bx6Pn20t21f34h10W30t28m10yjU2t18cBJy57p6120108Kx12A5u17d27C5s3AU2l20B3X10t18E1A1f3NS961
61687070y13X41A5hoBBN3n13fa91i3b17B54Q050102020W4FgE1s161V1g15p10J04350g4110Z6261616132707951C0Q0J
020F1EX1z3433j12v20D21k1k1a4T2n1ES3a18U4h14U0b13Ef1Y51A5a13a13e17q1AC0F07020B0F07022q1BWA8M98N60g1
09b26110i102211N0f279l1J024X12R41W2u13K1o10248030T133A696X2V1d13C8s12T1R4Q64B7m2g2s1p1Cp16k17A5c12
T72q6V10g10312F3s1i17g1LQb1SJN8l23a18b2911P6A5r10I7d18Y30KAI0l1z1701040F0B5x14A5408121M0702050A121
31151471725AA01110c10A0111040A0272Sz205Tf27Af5s11c1X1c2AA5DIw15A5KRR1F3Ny5y1b3q2B81118020U021C8Ac2
81k11BQf27q2Cg26Av5Y1DA590j10E9T2W11M0Ef27020i12102097A56020b102066Az9P6H0f12Tr21Eo1CtTd3n305Af6Vs
2b3CuZ19wZ44uIpY7w1xt1gI6V10A3o20A5U169d29A070L4JxDw1g6y2c3i23v16HW25A2Dyg67yd1e1Abe9407020h9E1S31
1D47tCih2j34D296A18uX4X85XEi2k11N8s3x1y79d11d6Kd2x3KBKBu28Pf4s20e2021112140C01070Y20418070S0405012
70zA1i91pME50FnZ1V156v670H1702054V2W11n3j12E1A32eAV1Gw141yEg1w6h131jF704020F0g61Ge1j23A32ePb2i2z1c
640R0201110A040101513101010302011101010101020114070404010A0H43050Hp12q8i13c3BF1F0F0b19o5t1TCi13962
D6y4sV13H2D2v33X35C31EC3u17A5e17U1C32z1zABE1D2A4u16F1B596s40e3bX1Xji1V1Vf45a71wz5DXt7EXKlm2kHmm1fZ
54cg4VpwN1TY3Y4s7Wqa2Vbb21Vbb21"⟩]

def categoryGroups : List (List String × List String) := [
  (["l", "letter"], ["lu", "ll", "lt", "lm", "lo"]),
  (["lc", "casedletter"], ["lu", "ll", "lt"]),
  (["m", "mark", "combiningmark"], ["mn", "mc", "me"]),
  (["n", "number"], ["nd", "nl", "no"]),
  (["p", "punctuation", "punct"], ["pc", "pd", "ps", "pe", "pi", "pf", "po"]),
  (["s", "symbol"], ["sm", "sc", "sk", "so"]),
  (["z", "separator"], ["zs", "zl", "zp"]),
  (["c", "other"], ["cc", "cf", "co", "cn"])]

def categoryOf (names : List String) : CodeSet :=
  CodeSet.unionAll (names.filterMap (NamedSet.find? categories))

/-- The category of a reduced name. `any`, `assigned` and `ascii` count as categories. -/
def category? (name : String) : Option CodeSet :=
  if name = "any" then some CodeSet.all
  else if name = "assigned" then some (categoryOf ["cn"]).complement
  else if name = "ascii" then some ⟨[(0, 0x7F)]⟩
  else match categoryGroups.find? (·.1.contains name) with
    | some group => some (categoryOf group.2)
    | none => NamedSet.find? categories name

end BookmarkSearch.Unicode
