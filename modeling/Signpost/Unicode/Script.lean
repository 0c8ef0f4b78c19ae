import Signpost.Unicode.Table

/-!
# Scripts

The script of each character, and the scripts that use a character of no single script, after the
Unicode character database, version 16.

## Main definitions

* `scripts`: the sets of the scripts.
* `script?`: the set of a script.
* `scriptExtension?`: the set of all characters used in a script.
-/

namespace Signpost.Unicode

/-- The scripts. -/
def scripts : List Table := [
  ⟨["adlm", "adlam"],
   ["1e900 4b 4 9 4 1"]⟩,
  ⟨["ahom"],
   ["11700 1a 2 e 4 16"]⟩,
  ⟨["hluw", "anatolianhieroglyphs"],
   ["14400 246"]⟩,
  ⟨["arab", "arabic"],
   ["600 4 1 5 1 d 1 2 1 1f 1 9 b 19 1 6b 1 21 50 2f f0 1e 1 1 5 4a 1 1c f250 72 10 16a 2 4f",
    "2 35 7 0 20 f 70 4 1 86 f63 1e 43 2 37 3 df00 3 1 1a 1 1 1 0 2 0 1 9 1 3 1 0 1 0 6 0 4 0",
    "1 0 1 0 1 2 1 1 1 0 2 0 1 0 1 0 1 0 1 0 1 1 1 0 2 3 1 6 1 3 1 3 1 0 1 9 1 10 5 2 1 4 1",
    "10 34 1"]⟩,
  ⟨["armn", "armenian"],
   ["531 25 2 31 2 2 f583 4"]⟩,
  ⟨["avst", "avestan"],
   ["10b00 35 3 6"]⟩,
  ⟨["bali", "balinese"],
   ["1b00 4c 1 31"]⟩,
  ⟨["bamu", "bamum"],
   ["a6a0 57 c108 238"]⟩,
  ⟨["bass", "bassavah"],
   ["16ad0 1d 2 5"]⟩,
  ⟨["batk", "batak"],
   ["1bc0 33 8 3"]⟩,
  ⟨["beng", "bengali"],
   ["980 3 1 7 2 1 2 15 1 6 1 0 3 3 2 8 2 1 2 3 8 0 4 1 1 4 2 18"]⟩,
  ⟨["bhks", "bhaiksuki"],
   ["11c00 8 1 2c 1 d a 1c"]⟩,
  ⟨["bopo", "bopomofo"],
   ["2ea 1 2e19 2a 70 1f"]⟩,
  ⟨["brah", "brahmi"],
   ["11000 4d 4 23 9 0"]⟩,
  ⟨["brai", "braille"],
   ["2800 ff"]⟩,
  ⟨["bugi", "buginese"],
   ["1a00 1b 2 1"]⟩,
  ⟨["buhd", "buhid"],
   ["1740 13"]⟩,
  ⟨["cans", "canadianaboriginal"],
   ["1400 27f 230 45 101ba f"]⟩,
  ⟨["cari", "carian"],
   ["102a0 30"]⟩,
  ⟨["aghb", "caucasianalbanian"],
   ["10530 33 b 0"]⟩,
  ⟨["cakm", "chakma"],
   ["11100 34 1 11"]⟩,
  ⟨["cham"],
   ["aa00 36 9 d 2 9 2 3"]⟩,
  ⟨["cher", "cherokee"],
   ["13a0 55 2 5 9772 4f"]⟩,
  ⟨["chrs", "chorasmian"],
   ["10fb0 1b"]⟩,
  ⟨["zyyy", "common"],
   ["0 40 1a 5 1a 2e 1 e 1 4 17 0 1f 0 1c1 26 5 4 2 13 74 0 9 0 6 0 1 0 27d 0 6 0 e 0 3 0 20",
    "0 9c 0 204 0 81 1 4d9 0 195 3 122 0 5ef 2 47 1 cb 1 1 0 4cd 0 d 0 7 3 1 5 1 2 2 0 305 b",
    "2 56 1 a 3 a 1 e 11 20 3f 25 1 2 2 5 1 1a 1 10 29 2 4 299 16 a 15 39f 100 273 2 1f 1 68",
    "200 5d 192 14 1 0 1 18 f 7 4 3 5b 1 3 0 5a 1 93 f 20 25 9 0 30 3f 1f 50 2f 0 58 a7 19c0",
    "3f 5900 21 66 2 a5 9 f4 0 a0 0 18b 0 e 1 51d2 1 d0 9 16 22 1 12 1 3 93 0 1 1f 1a 5 1a a",
    "a 0 2d 1 40 6 1 6 a 4 102 2 4 2c 3 8 50 c 33 2c e4 1a b9a4 3 f5c f9 6 1b3 9c 73 3c f5 a",
    "26 2 3d 3 10 8 1 7 1d 4 3c d5 13 c 13 c 56 9 18 87 54 1 46 1 1 2 0 2 1 2 3 1 b 1 0 1 6 1",
    "40 1 3 2 7 1 6 1 1b 1 3 1 4 1 0 3 6 1 153 2 123 2 31 1471 43 4c 3c 2c2 2b 4 63 c e 2 e 1",
    "e 1 24 a ad 38 19 1 1 d 2b 4 8 7 1 e 5 9a 3d7 4 10 3 c 3 76 4 5e 6 b 4 0 f b 4 37 8 9 6",
    "27 8 1d 2 b 4 1 3e 153 c d 2 c 3 9 5 37 7 e 2 a 6 8 7 92 1 65 c0407 0 1e 5f"]⟩,
  ⟨["copt", "coptic", "qaac"],
   ["3e2 d 2890 73 5 6"]⟩,
  ⟨["xsux", "cuneiform"],
   ["12000 399 66 6e 1 4 b c3"]⟩,
  ⟨["cprt", "cypriot"],
   ["10800 5 2 0 1 2b 1 1 3 0 2 0"]⟩,
  ⟨["cpmn", "cyprominoan"],
   ["12f90 62"]⟩,
  ⟨["cyrl", "cyrillic"],
   ["400 84 2 a8 1750 a a0 0 4c 0 1067 1f 7840 5f 578e 1 e200 3d 21 0"]⟩,
  ⟨["dsrt", "deseret"],
   ["10400 4f"]⟩,
  ⟨["deva", "devanagari"],
   ["900 50 4 e 2 19 9f60 1f 7200 9"]⟩,
  ⟨["diak", "divesakuru"],
   ["11900 6 2 0 2 7 1 1 1 1d 1 1 2 b 9 9"]⟩,
  ⟨["dogr", "dogra"],
   ["11800 3b"]⟩,
  ⟨["dupl", "duployan"],
   ["1bc00 6a 5 c 3 8 7 9 2 3"]⟩,
  ⟨["egyp", "egyptianhieroglyphs"],
   ["13000 455 a f9a"]⟩,
  ⟨["elba", "elbasan"],
   ["10500 27"]⟩,
  ⟨["elym", "elymaic"],
   ["10fe0 16"]⟩,
  ⟨["ethi", "ethiopic"],
   ["1200 48 1 3 2 6 1 0 1 3 2 28 1 3 2 20 1 3 2 6 1 0 1 3 2 e 1 38 1 3 2 42 2 1f 3 19 19e6",
    "16 9 6 1 6 1 6 1 6 1 6 1 6 1 6 1 6 7d22 5 2 5 2 5 9 6 1 6 13cb1 6 1 3 1 1 1 e"]⟩,
  ⟨["gara", "garay"],
   ["10d40 25 3 1c 8 1"]⟩,
  ⟨["geor", "georgian"],
   ["10a0 25 1 0 5 0 2 2a 1 3 b90 2a 2 2 1040 25 1 0 5 0"]⟩,
  ⟨["glag", "glagolitic"],
   ["2c00 5f 1b3a0 6 1 10 2 6 1 1 1 4"]⟩,
  ⟨["goth", "gothic"],
   ["10330 1a"]⟩,
  ⟨["gran", "grantha"],
   ["11300 3 1 7 2 1 2 15 1 6 1 1 1 4 2 8 2 1 2 2 2 0 6 0 5 6 2 6 3 4"]⟩,
  ⟨["grek", "greek"],
   ["370 3 1 2 2 3 1 0 4 0 1 0 1 2 1 0 1 13 1 3e e f 1926 4 32 4 4 4 54 0 140 15 2 5 2 25 2 5",
    "2 7 1 0 1 0 1 0 1 1e 2 34 1 e 1 d 2 5 1 12 2 2 1 8 127 0 8a3e 0 55da 4e 11 0 d05f 45"]⟩,
  ⟨["gujr", "gujarati"],
   ["a81 2 1 8 1 2 1 15 1 6 1 1 1 4 2 9 1 2 1 2 2 0 f 3 2 b 7 6"]⟩,
  ⟨["gong", "gunjalagondi"],
   ["11d60 5 1 1 1 24 1 1 1 5 7 9"]⟩,
  ⟨["guru", "gurmukhi"],
   ["a01 2 1 5 4 1 2 15 1 6 1 1 1 1 1 1 2 0 1 4 4 1 2 2 3 0 7 3 1 0 7 10"]⟩,
  ⟨["gukh", "gurungkhema"],
   ["16100 39"]⟩,
  ⟨["hani", "han"],
   ["2e80 19 1 58 c d5 2f 0 1 0 19 8 e 3 3c4 19bf 40 51ff 5900 16d 2 69 7508 1 c 1 900e a6df",
    "20 1039 6 dd 2 1681 e 1d30 f 26d 9a2 21d 5e2 134a 5 105f"]⟩,
  ⟨["hang", "hangul"],
   ["1100 ff 1e2e 1 101 5d 71 1e 41 1e 76e1 1c 283 2ba3 c 16 4 30 27a4 1e 3 5 2 5 2 5 2 2"]⟩,
  ⟨["rohg", "hanifirohingya"],
   ["10d00 27 8 9"]⟩,
  ⟨["hano", "hanunoo"],
   ["1720 14"]⟩,
  ⟨["hatr", "hatran"],
   ["108e0 12 1 1 5 4"]⟩,
  ⟨["hebr", "hebrew"],
   ["591 36 8 1a 4 5 f528 19 1 4 1 0 1 1 1 1 1 9"]⟩,
  ⟨["hira", "hiragana"],
   ["3041 55 6 2 17f61 11e 12 0 1d 2 40ad 0"]⟩,
  ⟨["armi", "imperialaramaic"],
   ["10840 15 1 8"]⟩,
  ⟨["zinh", "inherited", "qaai"],
   ["300 6f 115 1 1c4 a 1a 0 2e0 3 115b 1e 201 2 1 c 1 6 4 0 6 0 3 1 c6 3f 20c 1 c2 20 f39 3",
    "6b 1 cd65 f 10 d 3cf 0 e2 0 105a 0 bbc4 2d 2 16 220 2 11 7 2 6 1e 3 c2f52 ef"]⟩,
  ⟨["phli", "inscriptionalpahlavi"],
   ["10b60 12 5 7"]⟩,
  ⟨["prti", "inscriptionalparthian"],
   ["10b40 15 2 7"]⟩,
  ⟨["java", "javanese"],
   ["a980 4d 2 9 4 1"]⟩,
  ⟨["kthi", "kaithi"],
   ["11080 42 a 0"]⟩,
  ⟨["knda", "kannada"],
   ["c80 c 1 2 1 16 1 9 1 4 2 8 1 2 1 3 7 1 6 1 1 3 2 9 1 2"]⟩,
  ⟨["kana", "katakana"],
   ["30a1 59 2 2 f0 f d0 2e 1 57 cc0e 9 1 2c b052 3 1 6 1 1 1 0 11f 2 32 0 e 3"]⟩,
  ⟨["kawi"],
   ["11f00 10 1 28 3 1c"]⟩,
  ⟨["kali", "kayahli"],
   ["a900 2d 1 0"]⟩,
  ⟨["khar", "kharoshthi"],
   ["10a00 3 1 1 5 7 1 2 1 1c 2 2 4 9 7 8"]⟩,
  ⟨["kits", "khitansmallscript"],
   ["16fe4 0 1b1b 1d5 29 0"]⟩,
  ⟨["khmr", "khmer"],
   ["1780 5d 2 9 6 9 1e6 1f"]⟩,
  ⟨["khoj", "khojki"],
   ["11200 11 1 2e"]⟩,
  ⟨["sind", "khudawadi"],
   ["112b0 3a 5 9"]⟩,
  ⟨["krai", "kiratrai"],
   ["16d40 39"]⟩,
  ⟨["laoo", "lao"],
   ["e81 1 1 0 1 4 1 17 1 0 1 16 2 4 1 0 1 6 1 9 2 3"]⟩,
  ⟨["latn", "latin"],
   ["41 19 6 19 2f 0 f 0 5 16 1 1e 1 1c0 27 4 1a1b 25 6 30 5 3 5 c 1 45 41 ff 171 0 d 0 10 c",
    "8d 1 6 0 1b 0 11 28 ad7 1f 7aa2 65 3 42 2 1 1 0 1 7 15 d 330 2a 1 8 1 3 4f96 6 41a 19 6",
    "19 825 5 1 29 1 8 d745 1e 6 5"]⟩,
  ⟨["lepc", "lepcha"],
   ["1c00 37 3 e 3 2"]⟩,
  ⟨["limb", "limbu"],
   ["1900 1e 1 b 4 b 4 0 3 b"]⟩,
  ⟨["lina", "lineara"],
   ["10600 136 9 15 a 7"]⟩,
  ⟨["linb", "linearb"],
   ["10000 b 1 19 1 12 1 1 1 e 2 d 22 7a"]⟩,
  ⟨["lisu"],
   ["a4d0 2f 7ab0 0"]⟩,
  ⟨["lyci", "lycian"],
   ["10280 1c"]⟩,
  ⟨["lydi", "lydian"],
   ["10920 19 5 0"]⟩,
  ⟨["mahj", "mahajani"],
   ["11150 26"]⟩,
  ⟨["maka", "makasar"],
   ["11ee0 18"]⟩,
  ⟨["mlym", "malayalam"],
   ["d00 c 1 2 1 32 1 2 1 5 4 f 2 19"]⟩,
  ⟨["mand", "mandaic"],
   ["840 1b 2 0"]⟩,
  ⟨["mani", "manichaean"],
   ["10ac0 26 4 b"]⟩,
  ⟨["marc", "marchen"],
   ["11c70 1f 2 15 1 d"]⟩,
  ⟨["gonm", "masaramgondi"],
   ["11d00 6 1 1 1 2b 3 0 1 1 1 8 8 9"]⟩,
  ⟨["medf", "medefaidrin"],
   ["16e40 5a"]⟩,
  ⟨["mtei", "meeteimayek"],
   ["aae0 16 c9 2d 2 9"]⟩,
  ⟨["mend", "mendekikakui"],
   ["1e800 c4 2 f"]⟩,
  ⟨["merc", "meroiticcursive"],
   ["109a0 17 4 13 2 2d"]⟩,
  ⟨["mero", "meroitichieroglyphs"],
   ["10980 1f"]⟩,
  ⟨["plrd", "miao"],
   ["16f00 4a 4 38 7 10"]⟩,
  ⟨["modi"],
   ["11600 44 b 9"]⟩,
  ⟨["mong", "mongolian"],
   ["1800 1 2 0 1 13 6 58 7 2a fdb5 c"]⟩,
  ⟨["mroo", "mro"],
   ["16a40 1e 1 9 4 1"]⟩,
  ⟨["mult", "multani"],
   ["11280 6 1 0 1 3 1 e 1 a"]⟩,
  ⟨["mymr", "myanmar"],
   ["1000 9f 9940 1e 61 1f 6c50 13"]⟩,
  ⟨["nbat", "nabataean"],
   ["10880 1e 8 8"]⟩,
  ⟨["nagm", "nagmundari"],
   ["1e4d0 29"]⟩,
  ⟨["nand", "nandinagari"],
   ["119a0 7 2 2d 2 a"]⟩,
  ⟨["talu", "newtailue"],
   ["1980 2b 4 19 6 a 3 1"]⟩,
  ⟨["newa"],
   ["11400 5b 1 4"]⟩,
  ⟨["nkoo", "nko"],
   ["7c0 3a 2 2"]⟩,
  ⟨["nshu", "nushu"],
   ["16fe1 0 418e 18b"]⟩,
  ⟨["hmnp", "nyiakengpuachuehmong"],
   ["1e100 2c 3 d 2 9 4 1"]⟩,
  ⟨["ogam", "ogham"],
   ["1680 1c"]⟩,
  ⟨["olck", "olchiki"],
   ["1c50 2f"]⟩,
  ⟨["onao", "olonal"],
   ["1e5d0 2a 4 0"]⟩,
  ⟨["hung", "oldhungarian"],
   ["10c80 32 d 32 7 5"]⟩,
  ⟨["ital", "olditalic"],
   ["10300 23 9 2"]⟩,
  ⟨["narb", "oldnortharabian"],
   ["10a80 1f"]⟩,
  ⟨["perm", "oldpermic"],
   ["10350 2a"]⟩,
  ⟨["xpeo", "oldpersian"],
   ["103a0 23 4 d"]⟩,
  ⟨["sogo", "oldsogdian"],
   ["10f00 27"]⟩,
  ⟨["sarb", "oldsoutharabian"],
   ["10a60 1f"]⟩,
  ⟨["orkh", "oldturkic"],
   ["10c00 48"]⟩,
  ⟨["ougr", "olduyghur"],
   ["10f70 19"]⟩,
  ⟨["orya", "oriya"],
   ["b01 2 1 7 2 1 2 15 1 6 1 1 1 4 2 8 2 1 2 2 7 2 4 1 1 4 2 11"]⟩,
  ⟨["osge", "osage"],
   ["104b0 23 4 23"]⟩,
  ⟨["osma", "osmanya"],
   ["10480 1d 2 9"]⟩,
  ⟨["hmng", "pahawhhmong"],
   ["16b00 45 a 9 1 6 1 14 5 12"]⟩,
  ⟨["palm", "palmyrene"],
   ["10860 1f"]⟩,
  ⟨["pauc", "paucinhau"],
   ["11ac0 38"]⟩,
  ⟨["phag", "phagspa"],
   ["a840 37"]⟩,
  ⟨["phnx", "phoenician"],
   ["10900 1b 3 0"]⟩,
  ⟨["phlp", "psalterpahlavi"],
   ["10b80 11 7 3 c 6"]⟩,
  ⟨["rjng", "rejang"],
   ["a930 23 b 0"]⟩,
  ⟨["runr", "runic"],
   ["16a0 4a 3 a"]⟩,
  ⟨["samr", "samaritan"],
   ["800 2d 2 e"]⟩,
  ⟨["saur", "saurashtra"],
   ["a880 45 8 b"]⟩,
  ⟨["shrd", "sharada"],
   ["11180 5f"]⟩,
  ⟨["shaw", "shavian"],
   ["10450 2f"]⟩,
  ⟨["sidd", "siddham"],
   ["11580 35 2 25"]⟩,
  ⟨["sgnw", "signwriting"],
   ["1d800 28b f 4 1 e"]⟩,
  ⟨["sinh", "sinhala"],
   ["d81 2 1 11 3 17 1 8 1 0 2 6 3 0 4 5 1 0 1 7 6 9 2 2 103ec 13"]⟩,
  ⟨["sogd", "sogdian"],
   ["10f30 29"]⟩,
  ⟨["sora", "sorasompeng"],
   ["110d0 18 7 9"]⟩,
  ⟨["soyo", "soyombo"],
   ["11a50 52"]⟩,
  ⟨["sund", "sundanese"],
   ["1b80 3f 100 7"]⟩,
  ⟨["sunu", "sunuwar"],
   ["11bc0 21 e 9"]⟩,
  ⟨["sylo", "sylotinagri"],
   ["a800 2c"]⟩,
  ⟨["syrc", "syriac"],
   ["700 d 1 3b 2 2 110 a"]⟩,
  ⟨["tglg", "tagalog"],
   ["1700 15 9 0"]⟩,
  ⟨["tagb", "tagbanwa"],
   ["1760 c 1 2 1 1"]⟩,
  ⟨["tale", "taile"],
   ["1950 1d 2 4"]⟩,
  ⟨["lana", "taitham"],
   ["1a20 3e 1 1c 2 a 6 9 6 d"]⟩,
  ⟨["tavt", "taiviet"],
   ["aa80 42 18 4"]⟩,
  ⟨["takr", "takri"],
   ["11680 39 6 9"]⟩,
  ⟨["taml", "tamil"],
   ["b82 1 1 5 3 2 1 3 3 1 1 0 1 1 3 1 3 2 3 b 4 4 3 2 1 3 2 0 6 0 e 14 113c5 31 d 0"]⟩,
  ⟨["tnsa", "tangsa"],
   ["16a70 4e 1 9"]⟩,
  ⟨["tang", "tangut"],
   ["16fe0 0 1f 17f7 8 2ff 200 8"]⟩,
  ⟨["telu", "telugu"],
   ["c00 c 1 2 1 16 1 f 2 8 1 2 1 3 7 1 1 2 2 0 2 3 2 9 7 8"]⟩,
  ⟨["thaa", "thaana"],
   ["780 31"]⟩,
  ⟨["thai"],
   ["e01 39 5 1b"]⟩,
  ⟨["tibt", "tibetan"],
   ["f00 47 1 23 4 26 1 23 1 e 1 6 4 1"]⟩,
  ⟨["tfng", "tifinagh"],
   ["2d30 37 7 1 e 0"]⟩,
  ⟨["tirh", "tirhuta"],
   ["11480 47 8 9"]⟩,
  ⟨["todr", "todhri"],
   ["105c0 33"]⟩,
  ⟨["toto"],
   ["1e290 1e"]⟩,
  ⟨["tutg", "tulutigalari"],
   ["11380 9 1 0 2 0 1 25 1 9 1 0 2 0 1 3 1 9 1 1 8 1"]⟩,
  ⟨["ugar", "ugaritic"],
   ["10380 1d 1 0"]⟩,
  ⟨["vaii", "vai"],
   ["a500 12b"]⟩,
  ⟨["vith", "vithkuqi"],
   ["10570 a 1 e 1 6 1 1 1 a 1 e 1 6 1 1"]⟩,
  ⟨["wcho", "wancho"],
   ["1e2c0 39 5 0"]⟩,
  ⟨["wara", "warangciti"],
   ["118a0 52 c 0"]⟩,
  ⟨["yezi", "yezidi"],
   ["10e80 29 1 2 2 1"]⟩,
  ⟨["yiii", "yi"],
   ["a000 48c 3 36"]⟩,
  ⟨["zanb", "zanabazarsquare"],
   ["11a00 47"]⟩]

/-- The characters used in other scripts than their own, with the scripts that use them. -/
def scriptUses : List Table := [
  ⟨["adlm", "arab"],
   ["204f 0"]⟩,
  ⟨["adlm", "arab", "gara", "nkoo", "rohg", "syrc", "thaa", "yezi"],
   ["61f 0"]⟩,
  ⟨["adlm", "arab", "hung"],
   ["2e41 0"]⟩,
  ⟨["adlm", "arab", "mand", "mani", "ougr", "phlp", "rohg", "sogd", "syrc"],
   ["640 0"]⟩,
  ⟨["aghb", "cher", "copt", "cyrl", "goth", "grek", "latn", "osge", "syrc", "tfng", "todr"],
   ["304 0"]⟩,
  ⟨["aghb", "cher", "goth", "latn", "sunu", "syrc", "thai"],
   ["331 0"]⟩,
  ⟨["aghb", "latn", "todr"],
   ["35e 0"]⟩,
  ⟨["arab", "copt"],
   ["102e0 1b"]⟩,
  ⟨["arab", "gara", "nkoo", "rohg", "syrc", "thaa", "yezi"],
   ["60c 0 e 0"]⟩,
  ⟨["arab", "nkoo"],
   ["fd3e 1"]⟩,
  ⟨["arab", "rohg"],
   ["6d4 0"]⟩,
  ⟨["arab", "syrc"],
   ["64b a 1a 0"]⟩,
  ⟨["arab", "syrc", "thaa"],
   ["61c 0"]⟩,
  ⟨["arab", "thaa"],
   ["fdf2 0 a 0"]⟩,
  ⟨["arab", "thaa", "yezi"],
   ["660 9"]⟩,
  ⟨["armn", "cyrl", "dupl", "goth", "grek", "hebr", "latn", "perm", "syrc", "tale", "tfng"],
   ["308 0"]⟩,
  ⟨["armn", "geor", "glag"],
   ["589 0"]⟩,
  ⟨["avst", "cari", "copt", "dupl", "elba", "geor", "glag", "gong", "goth", "grek", "hani",
    "latn", "lydi", "mahj", "perm", "shaw"],
   ["b7 0"]⟩,
  ⟨["avst", "cari", "geor", "hung", "kthi", "lydi", "samr"],
   ["2e31 0"]⟩,
  ⟨["avst", "orkh"],
   ["2e30 0"]⟩,
  ⟨["beng"],
   ["1cf7 0"]⟩,
  ⟨["beng", "cakm", "sylo"],
   ["9e6 9"]⟩,
  ⟨["beng", "cyrl", "deva", "latn", "lisu", "thai", "toto"],
   ["2bc 0"]⟩,
  ⟨["beng", "deva"],
   ["1ce1 0 13 1"]⟩,
  ⟨["beng", "deva", "dogr", "gong", "gonm", "gran", "gujr", "gukh", "guru", "knda", "limb",
    "mahj", "mlym", "nand", "onao", "orya", "sind", "sinh", "sylo", "takr", "taml", "telu",
    "tirh"],
   ["965 0"]⟩,
  ⟨["beng", "deva", "dogr", "gong", "gonm", "gran", "gujr", "guru", "knda", "mahj", "mlym",
    "nand", "onao", "orya", "sind", "sinh", "sylo", "takr", "taml", "telu", "tirh"],
   ["964 0"]⟩,
  ⟨["beng", "deva", "gran", "gujr", "guru", "knda", "latn", "mlym", "nand", "newa", "orya",
    "shrd", "taml", "telu", "tirh"],
   ["951 0"]⟩,
  ⟨["beng", "deva", "gran", "gujr", "guru", "knda", "latn", "mlym", "newa", "orya", "taml",
    "telu", "tirh"],
   ["952 0"]⟩,
  ⟨["beng", "deva", "gran", "knda"],
   ["1cd0 0 1 0"]⟩,
  ⟨["beng", "deva", "gran", "knda", "mlym", "nand", "orya", "sinh", "telu", "tirh", "tutg"],
   ["1cf2 0"]⟩,
  ⟨["beng", "deva", "newa", "shrd"],
   ["1ced 0"]⟩,
  ⟨["beng", "deva", "newa", "telu"],
   ["1cd8 0"]⟩,
  ⟨["beng", "deva", "newa", "telu", "tirh"],
   ["1cd5 0"]⟩,
  ⟨["beng", "deva", "shrd"],
   ["1cea 0"]⟩,
  ⟨["beng", "deva", "telu"],
   ["1cd6 0"]⟩,
  ⟨["beng", "deva", "tutg"],
   ["a8f1 0"]⟩,
  ⟨["bopo", "hang", "hani", "hira", "kana"],
   ["3003 0 f 0 8 3 10 0 6 0 ce0d 1"]⟩,
  ⟨["bopo", "hang", "hani", "hira", "kana", "lisu", "mong", "tibt", "yiii"],
   ["300a 1"]⟩,
  ⟨["bopo", "hang", "hani", "hira", "kana", "mong", "phag", "yiii"],
   ["3002 0"]⟩,
  ⟨["bopo", "hang", "hani", "hira", "kana", "mong", "tibt", "yiii"],
   ["3008 1"]⟩,
  ⟨["bopo", "hang", "hani", "hira", "kana", "mong", "yiii"],
   ["3001 0"]⟩,
  ⟨["bopo", "hang", "hani", "hira", "kana", "yiii"],
   ["300c 5 2 7 df 0 ce65 4"]⟩,
  ⟨["bopo", "hani"],
   ["302a 3"]⟩,
  ⟨["bopo", "latn"],
   ["2c7 0 1 2 d 0"]⟩,
  ⟨["bugi", "java"],
   ["a9cf 0"]⟩,
  ⟨["buhd", "hano", "tagb", "tglg"],
   ["1735 1"]⟩,
  ⟨["cakm", "mymr", "tale"],
   ["1040 9"]⟩,
  ⟨["cari", "geor", "glag", "hung", "lyci", "orkh"],
   ["205a 0"]⟩,
  ⟨["cari", "grek", "hung", "mero"],
   ["205d 0"]⟩,
  ⟨["cher", "copt", "cyrl", "grek", "latn", "perm", "sunu", "tale"],
   ["300 0"]⟩,
  ⟨["cher", "cyrl", "grek", "latn", "osge", "sunu", "tale", "todr"],
   ["301 0"]⟩,
  ⟨["cher", "cyrl", "latn", "osge"],
   ["30b 0"]⟩,
  ⟨["cher", "cyrl", "latn", "tfng"],
   ["302 0"]⟩,
  ⟨["cher", "dupl", "kana", "latn", "syrc", "tfng"],
   ["323 0"]⟩,
  ⟨["cher", "dupl", "latn", "syrc"],
   ["324 0"]⟩,
  ⟨["cher", "latn", "syrc"],
   ["330 0"]⟩,
  ⟨["cher", "latn", "tale"],
   ["30c 0"]⟩,
  ⟨["copt", "dupl", "hebr", "latn", "perm", "syrc", "tale", "tfng", "todr"],
   ["307 0"]⟩,
  ⟨["copt", "elba", "glag", "goth", "kana", "latn"],
   ["305 0"]⟩,
  ⟨["copt", "grek"],
   ["374 1"]⟩,
  ⟨["copt", "latn"],
   ["2e17 0"]⟩,
  ⟨["cpmn", "cprt", "linb"],
   ["10100 1"]⟩,
  ⟨["cprt", "lina", "linb"],
   ["10107 2c"]⟩,
  ⟨["cprt", "linb"],
   ["10102 0 34 8"]⟩,
  ⟨["cyrl", "glag"],
   ["484 0 2 0 29bb 0 782b 0"]⟩,
  ⟨["cyrl", "grek", "latn", "perm", "tfng"],
   ["306 0"]⟩,
  ⟨["cyrl", "latn"],
   ["485 1"]⟩,
  ⟨["cyrl", "latn", "syrc"],
   ["1df8 0"]⟩,
  ⟨["cyrl", "latn", "todr"],
   ["311 0"]⟩,
  ⟨["cyrl", "perm"],
   ["483 0"]⟩,
  ⟨["deva"],
   ["1cd1 0 2 0 6 0 2 1 3 5 3 0 1 3"]⟩,
  ⟨["deva", "dogr", "gujr", "guru", "khoj", "knda", "kthi", "mahj", "mlym", "modi", "nand",
    "shrd", "sind", "takr", "tirh", "tutg"],
   ["a830 2"]⟩,
  ⟨["deva", "dogr", "gujr", "guru", "khoj", "knda", "kthi", "mahj", "modi", "nand", "shrd",
    "sind", "takr", "tirh", "tutg"],
   ["a833 2"]⟩,
  ⟨["deva", "dogr", "gujr", "guru", "khoj", "kthi", "mahj", "modi", "shrd", "sind", "takr", "tirh"],
   ["a838 0"]⟩,
  ⟨["deva", "dogr", "gujr", "guru", "khoj", "kthi", "mahj", "modi", "sind", "takr", "tirh"],
   ["a836 1 1 0"]⟩,
  ⟨["deva", "dogr", "kthi", "mahj"],
   ["966 9"]⟩,
  ⟨["deva", "gran"],
   ["1cf3 0 4 1"]⟩,
  ⟨["deva", "gran", "knda"],
   ["1cd3 0"]⟩,
  ⟨["deva", "gran", "knda", "tutg"],
   ["1cf4 0"]⟩,
  ⟨["deva", "gran", "latn"],
   ["20f0 0"]⟩,
  ⟨["deva", "knda", "mlym", "orya", "taml", "telu"],
   ["1cda 0"]⟩,
  ⟨["deva", "nand", "newa"],
   ["1ce9 0"]⟩,
  ⟨["deva", "newa"],
   ["1ceb 0"]⟩,
  ⟨["deva", "newa", "shrd"],
   ["1cd7 0"]⟩,
  ⟨["deva", "newa", "tirh"],
   ["1ce2 0"]⟩,
  ⟨["deva", "shrd"],
   ["1cd9 0 2 1 2 0"]⟩,
  ⟨["deva", "taml"],
   ["a8f3 0"]⟩,
  ⟨["dupl"],
   ["2e3c 0 18e63 3"]⟩,
  ⟨["dupl", "latn", "syrc"],
   ["30a 0"]⟩,
  ⟨["ethi", "latn"],
   ["30e 0"]⟩,
  ⟨["geor", "glag", "latn"],
   ["10fb 0"]⟩,
  ⟨["glag", "latn", "sunu", "syrc", "thai"],
   ["303 0"]⟩,
  ⟨["gran", "taml"],
   ["be6 d 1070d 0 1 0 37 1 c93 1 1 0"]⟩,
  ⟨["grek"],
   ["342 0 2 0 1a7a 1"]⟩,
  ⟨["grek", "latn", "perm", "todr"],
   ["313 0"]⟩,
  ⟨["gujr", "khoj"],
   ["ae6 9"]⟩,
  ⟨["guru", "mult"],
   ["a66 9"]⟩,
  ⟨["hani"],
   ["3006 0 37 1 150 f 20 25 3a 27 38 30 f b 33 0 58 18 a 4 60 1e 19f61 11 1ede 1"]⟩,
  ⟨["hani", "hira", "kana"],
   ["303c 1"]⟩,
  ⟨["hani", "latn"],
   ["a700 7"]⟩,
  ⟨["hani", "tang"],
   ["2ff0 f 1ef 0"]⟩,
  ⟨["hira", "kana"],
   ["3031 4 63 3 3 0 5b 0 ce73 0 2d 1"]⟩,
  ⟨["kali", "latn", "mymr"],
   ["a92e 0"]⟩,
  ⟨["knda", "nand", "tutg"],
   ["ce6 9"]⟩,
  ⟨["latn"],
   ["363 c"]⟩,
  ⟨["latn", "lisu"],
   ["2cd 0"]⟩,
  ⟨["latn", "mong", "phag"],
   ["202f 0"]⟩,
  ⟨["latn", "osge"],
   ["358 0"]⟩,
  ⟨["latn", "sunu"],
   ["30d 0 2 0"]⟩,
  ⟨["latn", "sunu", "syrc"],
   ["32d 0"]⟩,
  ⟨["latn", "syrc"],
   ["325 0 8 0"]⟩,
  ⟨["latn", "tfng"],
   ["309 0"]⟩,
  ⟨["latn", "thai"],
   ["2d7 0"]⟩,
  ⟨["mani", "ougr"],
   ["10af2 0"]⟩,
  ⟨["mong", "phag"],
   ["1802 1 1 0"]⟩,
  ⟨["nand"],
   ["1cfa 0"]⟩,
  ⟨["runr"],
   ["16eb 2"]⟩,
  ⟨["syrc"],
   ["1dfa 0"]⟩]

/-- The set of a script. -/
def script? (name : String) : Option CharSet := Table.find? name scripts

/-- The set of the characters used in a script: its own, but for those that list their users, and
those that list it. -/
def scriptExtension? (name : String) : Option CharSet :=
  (scripts.find? fun t => t.names.contains name).map fun t =>
    let listed := scriptUses.foldl (fun s u => s.union u.set) .empty
    (scriptUses.filter fun u => u.names.any t.names.contains).foldl
      (fun s u => s.union u.set) (t.set.diff listed)

end Signpost.Unicode
