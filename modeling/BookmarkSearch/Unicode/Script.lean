import BookmarkSearch.Unicode.NamedSet

/-!
Scripts: the writing system a character belongs to, or Common or Inherited if it belongs to many.
-/

namespace BookmarkSearch.Unicode

def scripts : List NamedSet := [
  ⟨["zyyy", "common"], "
0X2Q5Qk11E14N0V10kEc1542Js30906010mK060E030W10W50pG0a41We10XD3g90Vn12e21m6110pd10D073151220yOB2t21
A3A1EHW1W2b112251Q1Gf124jLMALxTd8cK2V11g3lGV3zCK101OF743y2130x21s4FW1b190m1W2V1n2l10v2h5pv6W2zqNX1
e32f59w70a50sC0E1qtL1r69MY11I13s401V1Q5QAA0j11X2616A4f824i138n2Cp1i1g7QWjn13vX4W86WEW5r3y1x7Ac12z1
3G817T4y1w6JCJCt29Og4r21d2112021231B10161X21327161R131410361yA2h92n1ui5a2j2y1tMh14b3CE2E1E1a1An5u1
P11Dh14871E5z4rV14G3C3u34W36B40FB4t1896d18T2B41V2yACD2C395t17E2A687r41d3WiiQ0UX3"⟩,
  ⟨["latn", "latin"], "
Y2P6Pl10F05M1U1jEd14ny6b16m1535C1c2Y2c8xB0D0GCm4160R0He1lw2V1rpW1d33Z2211017LDfQg11813cbL6wX1P6Pda
251f118rfv1U65"⟩,
  ⟨["bopo", "bopomofo"], "XO1qdCg1o3V1"⟩,
  ⟨["zinh", "inherited", "qaai"], "
tOn3y81nEAQ0sN3fo4UmG21C16406031h6W2xG1d6W1rW43j31ars1FGDjV10e70Wg40nVo1j12MmH2H726U3mytQr7"⟩,
  ⟨["grek", "greek"], "
hS3122310401012101J1V2EFqq64o1444r20fAL252b125271010101U2q11E1D251I2218l90oua10zvMl2H0skt1c2"⟩,
  ⟨["copt", "coptic", "qaac"], "XW1DztAr356"⟩,
  ⟨["cyrl", "cyrillic"], "WX1d42i5lb6Aa50j20jg4V1WWW1X3WfN1fby1z1X10"⟩,
  ⟨["armn", "armenian"], "wg1b12n122jhY24"⟩,
  ⟨["hebr", "hebrew"], "zj1s18Q45leY2P1410111119"⟩,
  ⟨["arab", "arabic"], "
mn14151D121V119BP1j31X1n2l1s7U115h21SWmX2q3GqB2m22r170W1Fo341f4XY4Ua22t13mhx131Q111020191310106040
1010121110201010101011102316131310191G52141Gq11"⟩,
  ⟨["syrc", "syriac"], "uv1D1x122t8A"⟩,
  ⟨["thaa", "thaana"], "yz1n1"⟩,
  ⟨["nkoo", "nko"], "VX2w122"⟩,
  ⟨["samr", "samaritan"], "XZ2j12E"⟩,
  ⟨["mand", "mandaic"], "Zb2R20"⟩,
  ⟨["deva", "devanagari"], "fh2n24E2PZjg1V1igU9"⟩,
  ⟨["beng", "bengali"], "jl2317212L1610332821238041142O"⟩,
  ⟨["guru", "gurmukhi"], "op2215412L16111111201441223073107G"⟩,
  ⟨["gujr", "gujarati"], "st2218121L16111429121220F32B76"⟩,
  ⟨["orya", "oriya"], "wx2217212L1611142821227241142H"⟩,
  ⟨["taml", "tamil"], "WX3115321331101131323B4432132060EKfjg2n1D0"⟩,
  ⟨["telu", "telugu"], "Yb3C121M1F281213711220232978"⟩,
  ⟨["knda", "kannada"], "cf3C121M19142812137161132912"⟩,
  ⟨["mlym", "malayalam"], "gj3C121o112154F2P"⟩,
  ⟨["sinh", "sinhala"], "ln321H3N181026304510176922jcc2J"⟩,
  ⟨["thai"], "pr3v15R"⟩,
  ⟨["laoo", "lao"], "tv3110141N101M2410161923"⟩,
  ⟨["tibt", "tibetan"], "wz3e21Z14c11Z11E1641"⟩,
  ⟨["mymr", "myanmar"], "Zd4Z5mue1UZ3V1jvSJ"⟩,
  ⟨["geor", "georgian"], "ei4b110502g113kX3g122bf4b11050"⟩,
  ⟨["hang", "hangul"], "hl4c8cW81e8V3p3UY2UrpV1SsKgoBCM4m1gmAU35252522"⟩,
  ⟨["ethi", "ethiopic"], "
pt4f2132610132e1132W1132610132E1u1132Z22V13Pww6M9616161616161616gfX1525259616dgr2613111E"⟩,
  ⟨["cher", "cherokee"], "Xc5s225pfe1m2"⟩,
  ⟨["cans", "canadianaboriginal"], "af5oKXIc2fpb2F"⟩,
  ⟨["ogam", "ogham"], "uz5S"⟩,
  ⟨["runr", "runic"], "vV6h23A"⟩,
  ⟨["tglg", "tagalog"], "yY6L90"⟩,
  ⟨["hano", "hanunoo"], "zZ6K"⟩,
  ⟨["buhd", "buhid"], "Vb6J"⟩,
  ⟨["tagb", "tagbanwa"], "Wc6C1211"⟩,
  ⟨["khmr", "khmer"], "Xd6V32969qFV1"⟩,
  ⟨["mong", "mongolian"], "bh61201J6v27g1Zna2C"⟩,
  ⟨["limb", "limbu"], "jp6U1B4B403B"⟩,
  ⟨["tale", "taile"], "Ws6T24"⟩,
  ⟨["talu", "newtailue"], "nt6h14P6A31"⟩,
  ⟨["bugi", "buginese"], "rx6R21"⟩,
  ⟨["lana", "taitham"], "sy6V21S2A696D"⟩,
  ⟨["bali", "balinese"], "za7j21n1"⟩,
  ⟨["sund", "sundanese"], "Yf7W2d87"⟩,
  ⟨["batk", "batak"], "ah7p183"⟩,
  ⟨["lepc", "lepcha"], "cj7t13E32"⟩,
  ⟨["olck", "olchiki"], "ul7l1"⟩,
  ⟨["brai", "braille"], "fpAc8"⟩,
  ⟨["glag", "glagolitic"], "grBX3iWs361G261114"⟩,
  ⟨["tfng", "tifinagh"], "aWCt171E0"⟩,
  ⟨["hani", "han"], "
VhCP1v2Cw6l1010P8E3YV1ov6X2ZvLzqNtB2h3jaV11C1ogc1Wji1W1ze46Z72vz5EWt7FWKmm2jHnm1eZ55bg4"⟩,
  ⟨["hira", "hiragana"], "kvCs262zYe3c9I0T2YcH0"⟩,
  ⟨["kana", "katakana"], "nyCw222s7Fr6k11u2Ygs191i1Xzk13161110d92o10E3"⟩,
  ⟨["yiii", "yi"], "eog1mb13s1"⟩,
  ⟨["lisu"], "Wxh1l1aqW10"⟩,
  ⟨["vaii", "vai"], "nyh1p9"⟩,
  ⟨["bamu", "bamum"], "Vhi1u2Xip1fI"⟩,
  ⟨["sylo", "sylotinagri"], "gsi1i1"⟩,
  ⟨["phag", "phagspa"], "iui1t1"⟩,
  ⟨["saur", "saurashtra"], "kwi1c28B"⟩,
  ⟨["kali", "kayahli"], "oVj1j110"⟩,
  ⟨["rjng", "rejang"], "aXj1Z1B0"⟩,
  ⟨["java", "javanese"], "sZj1k22941"⟩,
  ⟨["cham"], "wdj1s19D2923"⟩,
  ⟨["tavt", "taiviet"], "Vij1Z2O4"⟩,
  ⟨["mtei", "meeteimayek"], "Ylj1Mk6j129"⟩,
  ⟨["linb", "linearb"], "Xbb2B1P1I111E2DY1y3"⟩,
  ⟨["lyci", "lycian"], "rvb2S"⟩,
  ⟨["cari", "carian"], "swb2m1"⟩,
  ⟨["ital", "olditalic"], "vzb2Z192"⟩,
  ⟨["goth", "gothic"], "hWc2Q"⟩,
  ⟨["perm", "oldpermic"], "iXc2g1"⟩,
  ⟨["ugar", "ugaritic"], "zYc2T10"⟩,
  ⟨["xpeo", "oldpersian"], "Vac2Z14D"⟩,
  ⟨["dsrt", "deseret"], "Ydc2m2"⟩,
  ⟨["shaw", "shavian"], "qfc2l1"⟩,
  ⟨["osma", "osmanya"], "chc2T29"⟩,
  ⟨["osge", "osage"], "tic2Z14Z1"⟩,
  ⟨["elba", "elbasan"], "glc2d1"⟩,
  ⟨["aghb", "caucasianalbanian"], "xmc2p1B0"⟩,
  ⟨["vith", "vithkuqi"], "zoc2A1E16111A1E1611"⟩,
  ⟨["lina", "lineara"], "otc2VA9LA7"⟩,
  ⟨["cprt", "cypriot"], "Zfd25201h1113020"⟩,
  ⟨["armi", "imperialaramaic"], "bhd2L18"⟩,
  ⟨["palm", "palmyrene"], "cid2V1"⟩,
  ⟨["nbat", "nabataean"], "djd2U88"⟩,
  ⟨["hatr", "hatran"], "gmd2I1154"⟩,
  ⟨["phnx", "phoenician"], "hnd2R30"⟩,
  ⟨["lydi", "lydian"], "iod2P50"⟩,
  ⟨["mero", "meroitichieroglyphs"], "lrd2V1"⟩,
  ⟨["merc", "meroiticcursive"], "msd2N4J2j1"⟩,
  ⟨["khar", "kharoshthi"], "pvd231157121S224978"⟩,
  ⟨["sarb", "oldsoutharabian"], "syd2V1"⟩,
  ⟨["narb", "oldnortharabian"], "tzd2V1"⟩,
  ⟨["mani", "manichaean"], "vWe2c14B"⟩,
  ⟨["avst", "avestan"], "xYe2r136"⟩,
  ⟨["prti", "inscriptionalparthian"], "zae2L27"⟩,
  ⟨["phli", "inscriptionalpahlavi"], "Vce2I57"⟩,
  ⟨["phlp", "psalterpahlavi"], "Wde2H73C6"⟩,
  ⟨["orkh", "oldturkic"], "ahe2f2"⟩,
  ⟨["hung", "oldhungarian"], "ele2o1Do175"⟩,
  ⟨["rohg", "hanifirohingya"], "ipe2d189"⟩,
  ⟨["yezi", "yezidi"], "uWf2f11221"⟩,
  ⟨["sogo", "oldsogdian"], "yaf2d1"⟩,
  ⟨["sogd", "sogdian"], "kcf2f1"⟩,
  ⟨["ougr", "olduyghur"], "mef2P"⟩,
  ⟨["chrs", "chorasmian"], "ogf2R"⟩,
  ⟨["elym", "elymaic"], "aif2M"⟩,
  ⟨["brah", "brahmi"], "bjf2k24Z190"⟩,
  ⟨["kthi", "kaithi"], "fnf2Z2A0"⟩,
  ⟨["sora", "sorasompeng"], "xpf2O79"⟩,
  ⟨["cakm", "chakma"], "jrf2q11H"⟩,
  ⟨["mahj", "mahajani"], "Wuf2c1"⟩,
  ⟨["shrd", "sharada"], "nvf2X3"⟩,
  ⟨["khoj", "khojki"], "rzf2H1k1"⟩,
  ⟨["mult", "multani"], "vYg2610131E1A"⟩,
  ⟨["sind", "khudawadi"], "hag2w159"⟩,
  ⟨["gran", "grantha"], "zcg2317212L1611142821222060562634"⟩,
  ⟨["newa"], "clg2y214"⟩,
  ⟨["tirh", "tirhuta"], "gpg2e289"⟩,
  ⟨["sidd", "siddham"], "oxg2r12b1"⟩,
  ⟨["modi"], "sWh2b2B9"⟩,
  ⟨["takr", "takri"], "wah2v169"⟩,
  ⟨["ahom"], "Vfh2Q2E4M"⟩,
  ⟨["dogr", "dogra"], "dnh2x1"⟩,
  ⟨["wara", "warangciti"], "ish2p2C0"⟩,
  ⟨["diak", "divesakuru"], "lvh262027111T112B99"⟩,
  ⟨["nand", "nandinagari"], "qVi272j12A"⟩,
  ⟨["zanb", "zanabazarsquare"], "tYi2e2"⟩,
  ⟨["soyo", "soyombo"], "gbi2p2"⟩,
  ⟨["pauc", "paucinhau"], "zei2u1"⟩,
  ⟨["bhks", "bhaiksuki"], "epi281i11DAS"⟩,
  ⟨["marc", "marchen"], "xsi2V12L1D"⟩,
  ⟨["gonm", "masaramgondi"], "mxi26111h130111889"⟩,
  ⟨["gong", "gunjalagondi"], "pVj25111a1111579"⟩,
  ⟨["maka", "makasar"], "Wij2O"⟩,
  ⟨["kawi"], "Xjj2G1e13S"⟩,
  ⟨["xsux", "cuneiform"], "frj2rTe3m314Be6"⟩,
  ⟨["cpmn", "cyprominoan"], "vvn2a3"⟩,
  ⟨["egyp", "egyptianhieroglyphs"], "jzn2tZ1AvZ4"⟩,
  ⟨["hluw", "anatolianhieroglyphs"], "oet2tI"⟩,
  ⟨["mroo", "mro"], "kkY3U1941"⟩,
  ⟨["tnsa", "tangsa"], "WmY3l219"⟩,
  ⟨["bass", "bassavah"], "ZpY3T25"⟩,
  ⟨["hmng", "pahawhhmong"], "qqY3c2A9161K5I"⟩,
  ⟨["medf", "medefaidrin"], "lmZ3x2"⟩,
  ⟨["plrd", "miao"], "rsZ3h24u17G"⟩,
  ⟨["tang", "tangut"], "yzZ30V1xg68sOlG8"⟩,
  ⟨["nshu", "nushu"], "zzZ30gjHsC"⟩,
  ⟨["kits", "khitansmallscript"], "XVa30vb7ZFf10"⟩,
  ⟨["dupl", "duployan"], "ndu3i35C387923"⟩,
  ⟨["sgnw", "signwriting"], "urW4VLF41E"⟩,
  ⟨["hmnp", "nyiakengpuachuehmong"], "ZZZ4i13D2941"⟩,
  ⟨["toto"], "WmZ4U"⟩,
  ⟨["wcho", "wancho"], "nnZ4v150"⟩,
  ⟨["nagm", "nagmundari"], "oZa4f1"⟩,
  ⟨["mend", "mendekikakui"], "yza4f62F"⟩,
  ⟨["adlm", "adlam"], "bdb4i24941"⟩,
  ⟨["gara", "garay"], "kre2b13S81"⟩,
  ⟨["gukh", "gurungkhema"], "YWW3v1"⟩,
  ⟨["krai", "kiratrai"], "deZ3v1"⟩,
  ⟨["onao", "olonal"], "wha4g140"⟩,
  ⟨["sunu", "sunuwar"], "cni2X1E9"⟩,
  ⟨["todr", "todhri"], "mrc2p1"⟩,
  ⟨["tutg", "tulutigalari"], "Yhg2910201b119102013191181"⟩]

def script? (name : String) : Option CodeSet := NamedSet.find? scripts name

end BookmarkSearch.Unicode
