import LuaSession.Unicode.Ranges

/-!
# Scripts

The characters of each script, and of each script's extensions where they differ.
-/

namespace LuaSession.Unicode

/-- The scripts. -/
def scripts : List Property :=
  [⟨["adlm", "adlam"],
    ["uedHxCEJEB"]⟩,
   ⟨["aghb", "caucasianalbanian"],
    ["sxuDzBLA"]⟩,
   ⟨["ahom"],
    ["crbEaBCOEW"]⟩,
   ⟨["arab", "arabic"],
    ["chCEBFBNBCBfBBJLZBdEBhBcDvBgJhBFwCBcBwtnDzSCnFgBPiEEBeFnvFeBpCFIIhBFslgDDBaBBBBACABJBD",
     "BABAGAEABABABCBBBACABABABABABBBACDBGBDBDBABJBQFCBEBQaCB"]⟩,
   ⟨["armi", "imperialaramaic"],
    ["wbwDVBI"]⟩,
   ⟨["armn", "armenian"],
    ["dzBlBCxBCCjzoDE"]⟩,
   ⟨["avst", "avestan"],
    ["ycxDbCDG"]⟩,
   ⟨["bali", "balinese"],
    ["wfKyCBxB"]⟩,
   ⟨["bamu", "bamum"],
    ["qclCjDqcvCwV"]⟩,
   ⟨["bass", "bassavah"],
    ["ikhFdBCF"]⟩,
   ⟨["batk", "batak"],
    ["gnKzBID"]⟩,
   ⟨["beng", "bengali"],
    ["opDDBHCBCVBGBADDCICBCDIAEBBECY"]⟩,
   ⟨["bhks", "bhaiksuki"],
    ["iodEIBsBBNKcB"]⟩,
   ⟨["bopo", "bopomofo"],
    ["scBBxlRqBiEfB"]⟩,
   ⟨["brah", "brahmi"],
    ["eazDzCEjBJA"]⟩,
   ⟨["brai", "braille"],
    ["wdPvJ"]⟩,
   ⟨["bugi", "buginese"],
    ["awJbBCB"]⟩,
   ⟨["buhd", "buhid"],
    ["yuIT"]⟩,
   ⟨["cakm", "chakma"],
    ["akzDaCBR"]⟩,
   ⟨["cans", "canadianaboriginal"],
    ["yoHpYoVrCqptDP"]⟩,
   ⟨["cari", "carian"],
    ["mytDwB"]⟩,
   ⟨["cham"],
    ["wjmCcCJNCJCD"]⟩,
   ⟨["cher", "cherokee"],
    ["glHhDCFejfCbD"]⟩,
   ⟨["chrs", "chorasmian"],
    ["cxyDbB"]⟩,
   ⟨["copt", "coptic", "qaac"],
    ["gmBNkjPlEFG"]⟩,
   ⟨["cpmn", "cyprominoan"],
    ["yykEuD"]⟩,
   ⟨["cprt", "cypriot"],
    ["kzvDFCABrBBBDACA"]⟩,
   ⟨["cyrl", "cyrillic"],
    ["knBcFCmGovIKeGAyCAnfGfBaotBrDcehBBgphDjChBA"]⟩,
   ⟨["deva", "devanagari"],
    ["qkDcDEOCZgjiCfBmerBJ"]⟩,
   ⟨["diak", "divesakuru"],
    ["ukcEGCACHBBBdBBBCLJJ"]⟩,
   ⟨["dogr", "dogra"],
    ["yacEhC"]⟩,
   ⟨["dsrt", "deseret"],
    ["amuDbD"]⟩,
   ⟨["dupl", "duployan"],
    ["sdmGcEFMDIHJCD"]⟩,
   ⟨["egyp", "egyptianhieroglyphs"],
    ["gdlErqBKqxF"]⟩,
   ⟨["elba", "elbasan"],
    ["wvuDnB"]⟩,
   ⟨["elym", "elymaic"],
    ["yyyDW"]⟩,
   ⟨["ethi", "ethiopic"],
    ["gvGuCBDCGBABDCoBBDCgBBDCGBABDCOBeCBDCoCCfBDZavJWJGBGBGBGBGBGBGBGckvBFCFCFJGBGfypEGBDBB",
     "BO"]⟩,
   ⟨["geor", "georgian"],
    ["shGlBBAFACqBBDwjEqBCCaeGlBBAFA"]⟩,
   ⟨["glag", "glagolitic"],
    ["grQrDgziGGBQCGBBBE"]⟩,
   ⟨["gong", "gunjalagondi"],
    ["wbeEFBBBkBBBBFHJ"]⟩,
   ⟨["gonm", "masaramgondi"],
    ["eydEGBBBrBDABBBIIJ"]⟩,
   ⟨["goth", "gothic"],
    ["aeuDaB"]⟩,
   ⟨["gran", "grantha"],
    ["sdaEDBHCBCVBGBBBECICBCCCAGAFGCGDE"]⟩,
   ⟨["grek", "greek"],
    ["whBDBCCDBAEABABCBABTBkCOPqnJEyBEEEgDAiMVCFClBCFCHBABABABeBCaCBOBNCFBSCCBIjLAejaCAingBa",
     "DRArxaDrC"]⟩,
   ⟨["gujr", "gujarati"],
    ["lzDCBIBCBVBGBBBECJBCBCCAPDCLHG"]⟩,
   ⟨["guru", "gurmukhi"],
    ["nuDCBFEBCVBGBBBBBBCABEEBCCDAHDBAHQ"]⟩,
   ⟨["hang", "hangul"],
    ["klGvJelLBxJpDjEeBnCeBnatBcBtYrnQMWEwBiaPeBDFCFCFCC"]⟩,
   ⟨["hani", "han"],
    ["wpRZBkDMfIvBABAZIODclBntJmCjbfBishBbOCbEiisBBMGfocCbflCgBnmGCboICkbLPxXwqDvUyfCyhHFnoM"]⟩,
   ⟨["hano", "hanunoo"],
    ["stIU"]⟩,
   ⟨["hatr", "hatran"],
    ["aiwDSBBFE"]⟩,
   ⟨["hebr", "hebrew"],
    ["vcCcCIaBEFwvoDZBEBABBBBBJ"]⟩,
   ⟨["hira", "hiragana"],
    ["dhShDGCvepFaLSAdBCvmYA"]⟩,
   ⟨["hluw", "anatolianhieroglyphs"],
    ["essEkW"]⟩,
   ⟨["hmng", "pahawhhmong"],
    ["emhFrCKJBGBUFS"]⟩,
   ⟨["hmnp", "nyiakengpuachuehmong"],
    ["aeaHsBDNCJEB"]⟩,
   ⟨["hung", "oldhungarian"],
    ["srxDyBNyBHF"]⟩,
   ⟨["ital", "olditalic"],
    ["ecuDjBJC"]⟩,
   ⟨["java", "javanese"],
    ["yemCzCCJEB"]⟩,
   ⟨["kali", "kayahli"],
    ["aamCtBBA"]⟩,
   ⟨["kana", "katakana"],
    ["vkSlDCCgJPaIuBBjDehzCJBsBcuoCDBGBBBAbLCyBAOD"]⟩,
   ⟨["kawi"],
    ["wreEQBoBDcB"]⟩,
   ⟨["khar", "kharoshthi"],
    ["ctwDDBBFHBCBcBCCEJHI"]⟩,
   ⟨["khmr", "khmer"],
    ["kxIpDCJGJsSfB"]⟩,
   ⟨["khoj", "khojki"],
    ["wtzDRBuB"]⟩,
   ⟨["kits", "khitansmallscript"],
    ["iijFAxgKbSpBA"]⟩,
   ⟨["knda", "kannada"],
    ["ctEMBCBWBJBECIBCBDHBFCBDCJBC"]⟩,
   ⟨["kthi", "kaithi"],
    ["cfzDoCKA"]⟩,
   ⟨["lana", "taitham"],
    ["gxJkCBcBCKGJGN"]⟩,
   ⟨["laoo", "lao"],
    ["vmFBBABEBXBABWCEBABGBJCD"]⟩,
   ⟨["latn", "latin"],
    ["nCZGZvBAPAFWBeBBgRnBEbxJlBGwBFDFMBrCnCvJfOANAQMlFBGAbBARoBtcEfBmluBxDDdDUOkfBqBBIBDqde",
     "BGkoBZGZfcDFBpBBIpndDeBGF"]⟩,
   ⟨["lepc", "lepcha"],
    ["spKdCDODC"]⟩,
   ⟨["limb", "limbu"],
    ["emJeBBLELEADL"]⟩,
   ⟨["lina", "lineara"],
    ["sfvDyLJVKH"]⟩,
   ⟨["linb", "linearb"],
    ["qysDLBZBSBBBOCNiBsE"]⟩,
   ⟨["lisu"],
    ["ukkCvBamuBA"]⟩,
   ⟨["lyci", "lycian"],
    ["gxtDcB"]⟩,
   ⟨["lydi", "lydian"],
    ["mkwDZFA"]⟩,
   ⟨["mahj", "mahajani"],
    ["cnzDmB"]⟩,
   ⟨["maka", "makasar"],
    ["qqeEY"]⟩,
   ⟨["mand", "mandaic"],
    ["gdDbBCA"]⟩,
   ⟨["mani", "manichaean"],
    ["maxDmBEL"]⟩,
   ⟨["marc", "marchen"],
    ["qsdEfBCVBN"]⟩,
   ⟨["medf", "medefaidrin"],
    ["esiFmD"]⟩,
   ⟨["mend", "mendekikakui"],
    ["yucHoHCP"]⟩,
   ⟨["merc", "meroiticcursive"],
    ["kpwDXETCtB"]⟩,
   ⟨["mero", "meroitichieroglyphs"],
    ["eowDfB"]⟩,
   ⟨["mlym", "malayalam"],
    ["ayEMBCByBBCBFEPCZ"]⟩,
   ⟨["modi"],
    ["ghbEqCLJ"]⟩,
   ⟨["mong", "mongolian"],
    ["icJBCABTGkDHqBbcsDM"]⟩,
   ⟨["mroo", "mro"],
    ["uehFeBBJEB"]⟩,
   ⟨["mtei", "meeteimayek"],
    ["msmCWtHtBCJ"]⟩,
   ⟨["mult", "multani"],
    ["uyzDGBABDBOBK"]⟩,
   ⟨["mymr", "myanmar"],
    ["obGdGyagCeBtDfBmapBT"]⟩,
   ⟨["nagm", "nagmundari"],
    ["opbHpB"]⟩,
   ⟨["nand", "nandinagari"],
    ["yqcEHCtBCK"]⟩,
   ⟨["narb", "oldnortharabian"],
    ["aywDfB"]⟩,
   ⟨["nbat", "nabataean"],
    ["iewDeBII"]⟩,
   ⟨["newa"],
    ["onaEnDBE"]⟩,
   ⟨["nkoo", "nko"],
    ["iyCgCCC"]⟩,
   ⟨["nshu", "nushu"],
    ["fijFAmvYfP"]⟩,
   ⟨["ogam", "ogham"],
    ["onIcB"]⟩,
   ⟨["olck", "olchiki"],
    ["usKvB"]⟩,
   ⟨["orkh", "oldturkic"],
    ["umxDuC"]⟩,
   ⟨["orya", "oriya"],
    ["jeECBHCBCVBGBBBECICBCCHCEBBECR"]⟩,
   ⟨["osge", "osage"],
    ["usuDjBEjB"]⟩,
   ⟨["osma", "osmanya"],
    ["yquDdBCJ"]⟩,
   ⟨["ougr", "olduyghur"],
    ["quyDZ"]⟩,
   ⟨["palm", "palmyrene"],
    ["cdwDfB"]⟩,
   ⟨["pauc", "paucinhau"],
    ["acdEeC"]⟩,
   ⟨["perm", "oldpermic"],
    ["gfuDqB"]⟩,
   ⟨["phag", "phagspa"],
    ["qslCdC"]⟩,
   ⟨["phli", "inscriptionalpahlavi"],
    ["qgxDSFH"]⟩,
   ⟨["phlp", "psalterpahlavi"],
    ["whxDRHDMG"]⟩,
   ⟨["phnx", "phoenician"],
    ["gjwDbBDA"]⟩,
   ⟨["plrd", "miao"],
    ["oziFwCEeCHQ"]⟩,
   ⟨["prti", "inscriptionalparthian"],
    ["kfxDVCH"]⟩,
   ⟨["rjng", "rejang"],
    ["wbmCjBLA"]⟩,
   ⟨["rohg", "hanifirohingya"],
    ["qwxDnBIJ"]⟩,
   ⟨["runr", "runic"],
    ["uoIwCDK"]⟩,
   ⟨["samr", "samaritan"],
    ["uaDtBCO"]⟩,
   ⟨["sarb", "oldsoutharabian"],
    ["uwwDfB"]⟩,
   ⟨["saur", "saurashtra"],
    ["cvlCrCIL"]⟩,
   ⟨["sgnw", "signwriting"],
    ["ktwGbZPEBO"]⟩,
   ⟨["shaw", "shavian"],
    ["cpuDvB"]⟩,
   ⟨["shrd", "sharada"],
    ["yozDrDopDH"]⟩,
   ⟨["sidd", "siddham"],
    ["icbEbCClB"]⟩,
   ⟨["sind", "khudawadi"],
    ["qaaEgCFJ"]⟩,
   ⟨["sinh", "sinhala"],
    ["zcFCBRDXBIBACGDAEFBABHGJCCgluDT"]⟩,
   ⟨["sogd", "sogdian"],
    ["esyDpB"]⟩,
   ⟨["sogo", "oldsogdian"],
    ["iqyDnB"]⟩,
   ⟨["sora", "sorasompeng"],
    ["eizDYHJ"]⟩,
   ⟨["soyo", "soyombo"],
    ["sxcEeD"]⟩,
   ⟨["sund", "sundanese"],
    ["ukKlCwJH"]⟩,
   ⟨["sylo", "sylotinagri"],
    ["eqlCsB"]⟩,
   ⟨["syrc", "syriac"],
    ["yqCNBhCCCmKK"]⟩,
   ⟨["tagb", "tagbanwa"],
    ["ewIMBCBB"]⟩,
   ⟨["takr", "takri"],
    ["embEfCGJ"]⟩,
   ⟨["tale", "taile"],
    ["gpJdBCE"]⟩,
   ⟨["talu", "newtailue"],
    ["crJrBEZGKDB"]⟩,
   ⟨["taml", "tamil"],
    ["ijEBBFDCBDDBBABBDBDCDLEEDCBDCAGAOUhlaExBNA"]⟩,
   ⟨["tang", "tangut"],
    ["eijFAfBvfKsTeBtDkE"]⟩,
   ⟨["tavt", "taiviet"],
    ["uomCoCYE"]⟩,
   ⟨["telu", "telugu"],
    ["eoEMBCBWBPCIBCBDHBBCBBCDCJHI"]⟩,
   ⟨["tfng", "tifinagh"],
    ["ycRdCHBOA"]⟩,
   ⟨["tglg", "tagalog"],
    ["msIVJA"]⟩,
   ⟨["thaa", "thaana"],
    ["wvCxB"]⟩,
   ⟨["thai"],
    ["xhFfCFbB"]⟩,
   ⟨["tibt", "tibetan"],
    ["srFtCBjBEmBBjBBOBGEB"]⟩,
   ⟨["tirh", "tirhuta"],
    ["msaEtCIJ"]⟩,
   ⟨["tnsa", "tangsa"],
    ["qghFaDBJ"]⟩,
   ⟨["toto"],
    ["ktaHeB"]⟩,
   ⟨["ugar", "ugaritic"],
    ["chuDdBBA"]⟩,
   ⟨["vaii", "vai"],
    ["qmkCnL"]⟩,
   ⟨["vith", "vithkuqi"],
    ["eavDKBOBGBBBKBOBGBB"]⟩,
   ⟨["wara", "warangciti"],
    ["chcEeDMA"]⟩,
   ⟨["wcho", "wancho"],
    ["gvaHfCFA"]⟩,
   ⟨["xpeo", "oldpersian"],
    ["iiuDjBEN"]⟩,
   ⟨["xsux", "cuneiform"],
    ["sbfEljByDgEBELnH"]⟩,
   ⟨["yezi", "yezidi"],
    ["klyDpBBCCB"]⟩,
   ⟨["yiii", "yi"],
    ["kpiCusBDcC"]⟩,
   ⟨["zanb", "zanabazarsquare"],
    ["qucEtC"]⟩,
   ⟨["zinh", "inherited", "qaai"],
    ["odBhErKBkRKaBAicBDxoGtBCLqSCBMBGEAGADBqHlCeUBmHgBxtFDdEBjuzCPQNnlBAsIAafGAuctCtBCWyUCR",
     "HCGeBDihltBfJ"]⟩,
   ⟨["zyyy", "common"],
    ["AmCaBFaBuBBOBEXAfBAhRmBFECTmEAJAGABAnYAGAOADAgBAaGAwTAzEBtvBApPDeLAlgCCtCBvHBBAhvBANAH",
     "DBFBCCAtdBLCiDBKDKBORhBkClBBCCFBaBBQpBCEpZWKVrjBwJdYChFsTpDmPUBABYPHEDnDBDAmDBrFPgBlBJ",
     "AwBlCfBcDvBAkDlGotJlCishBhByDCjGJkJAeGAfPAOBqzeBBaIJWiBBSBDrFABfBaBFaBKKAtBBmCGBGKEyJC",
     "EsBDIcDMzBsBuIaBwhsCDgvFsJDtQGWPQrDlEiClJKmBCjCDQIBHdBEiCfITMTMiDJYfFgDBsCBBCACBCDBLBA",
     "BGBmCBDCHBGBbBBDBEBADGBbNCfLCxBhtHpCyCiCebBrBEvDMOCOBOBkBKrGeCZBBNrBEIHBOFyFwlBDQDMDjI",
     "GLEAPLEdCIJGnBIdBCLEBOInBfNINCMDKDeCBAEPCLEJHqFByDaxusBAeBrD"]⟩,
   ⟨["garay", "gara"],
    ["czxDlBDcBIB"]⟩,
   ⟨["gurungkhema", "gukh"],
    ["srdFfC"]⟩,
   ⟨["kiratrai", "krai"],
    ["iiiFfC"]⟩,
   ⟨["olonal", "onao"],
    ["kzbHqBEA"]⟩,
   ⟨["sunuwar", "sunu"],
    ["wldEhBOJ"]⟩,
   ⟨["todhri", "todr"],
    ["gdvDzB"]⟩,
   ⟨["tulutigalari", "tutg"],
    ["qiaEJBACABlBBJBACABDBJBBIB"]⟩]

/-- The scripts with extensions: all characters used with the script. -/
def scriptExtensions : List Property :=
  [⟨["adlm", "adlam"],
    ["hiCAgBAowJAhhFAirlGxCEJEB"]⟩,
   ⟨["aghb", "caucasianalbanian"],
    ["sdBAsBAsBAnqtDzBLA"]⟩,
   ⟨["arab", "arabic"],
    ["chCEBgIBhBcDvBgJhBFwCBcBnvIAhhFAarzCpYgBPiEEBeFhmBbBeiEeBpCFIIhBFslgDDBaBBBBACABJBDBAB",
     "AGAEABABABCBBBACABABABABABBBACDBGBDBDBABJBQFCBEBQaCB"]⟩,
   ⟨["armn", "armenian"],
    ["wdBAgVlBCxBCCjzoDE"]⟩,
   ⟨["avst", "avestan"],
    ["bHAsfRBcqfDbCDG"]⟩,
   ⟨["beng", "bengali"],
    ["yaBAumCBRBaBDBHCBCVBGBADDCICBCDIAEBBECYhdHABACBBAIAIACAEACCfabCA"]⟩,
   ⟨["bopo", "bopomofo"],
    ["jbBABCNAQBxbRCEJBMKDCAGAnHAJqBiEfBtlzCBwKE"]⟩,
   ⟨["bugi", "buginese"],
    ["awJbBCBtkcCA"]⟩,
   ⟨["buhd", "buhid"],
    ["nuIBJT"]⟩,
   ⟨["cakm", "chakma"],
    ["mtDJekCJqftDaCBR"]⟩,
   ⟨["cari", "carian"],
    ["bHAmzLACAdgFAqlcDwB"]⟩,
   ⟨["cher", "cherokee"],
    ["odBCBAGBWBLBufGhDCFejfCbD"]⟩,
   ⟨["copt", "coptic", "qaac"],
    ["bHAmWADBBAeEBeENkjPlEFGtKAcpcDbB"]⟩,
   ⟨["cpmn", "cyprominoan"],
    ["mitDBkqRuD"]⟩,
   ⟨["cprt", "cypriot"],
    ["mitDCEsBDImoCFCABrBBBDACA"]⟩,
   ⟨["cyrl", "cyrillic"],
    ["yaBApCCBABABACAFAeJrLovIKeGAyCAxEApaGfBpCAkltBrDcehBBgphDjChBA"]⟩,
   ⟨["deva", "devanagari"],
    ["yaBArjCeDCqBeiHmBBBanBArfzBJkGfBmerBJ"]⟩,
   ⟨["dogr", "dogra"],
    ["moDLcdiCJoiqBhC"]⟩,
   ⟨["dupl", "duployan"],
    ["bHAtWBBAYBhiQAlquFcEFMDIHJCH"]⟩,
   ⟨["elba", "elbasan"],
    ["bHArWAcstDnB"]⟩,
   ⟨["ethi", "ethiopic"],
    ["ceBAdrFuCBDCGBABDCoBBDCgBBDCGBABDCOBeCBDCoCCfBDZavJWJGBGBGBGBGBGBGBGckvBFCFCFJGBGfypEG",
     "BDBBBO"]⟩,
   ⟨["geor", "georgian"],
    ["bHAlvBAefElBBAFACvBwjEqBCCmjBAnuElBBAFAzJA"]⟩,
   ⟨["glag", "glagolitic"],
    ["bHApWABAsOACAxJAriEAivFArkErDpSAfntBAktoEGBQCGBBBE"]⟩,
   ⟨["gong", "gunjalagondi"],
    ["bHAkhDBinaEFBBBkBBBBFHJ"]⟩,
   ⟨["gonm", "masaramgondi"],
    ["moDBqjaEGBBBrBDABBBIIJ"]⟩,
   ⟨["goth", "gothic"],
    ["bHAqWBCAoBAoysDaB"]⟩,
   ⟨["gran", "grantha"],
    ["tnDBRBqYNakGABBeBCDBanBAjrnDDBHCBCVBGBBBEBJCBCCCAGAFGCGDErrEBBA"]⟩,
   ⟨["grek", "greek"],
    ["bHAmWBCABABAKAuBACAqBHCDBAEABABCBABTBkCOPqnJEyBEEEgDCgMVCFClBCFCHBABABABeBCaCBOBNCFBSC",
     "CBIqDAsHAejaCAingBaDRArxaDrC"]⟩,
   ⟨["gujr", "gujarati"],
    ["tnDBRBxKCBIBCBVBGBBBECJBCBCCAPDCLHGsnhCJ"]⟩,
   ⟨["guru", "gurmukhi"],
    ["tnDBRBzFCBFEBCVBGBBBBBBCABEEBCCDAHDBAHQzshCJ"]⟩,
   ⟨["hang", "hangul"],
    ["klGvJljLCEJBMOCGAnHAbCpDjEeBnCeBnatBcBtYrnQMWEwBzmOBwKEgCeBDFCFCFCC"]⟩,
   ⟨["hani", "han"],
    ["bHAuiRZBkDMfIaBPBCBMBMBMCAGIfHAsFPgBlBJAwBnBeCwBPLzBAkDYKEsDeBBntJmCjbfByqCHcbfBbOCbEr",
     "hBBwKEopqBBMGvqlBRyrLBseFbflCgBnmGCboICkbLPxXwqDvUyfCyhHFnoM"]⟩,
   ⟨["hano", "hanunoo"],
    ["stIW"]⟩,
   ⟨["hebr", "hebrew"],
    ["vdBByYcCIaBEFwvoDZBEBABBBBBJ"]⟩,
   ⟨["hira", "hiragana"],
    ["reSCEJBMQFBAEBDhDCHmDBgtzCBwKEKAtBBruoCaLSAdBCvmYA"]⟩,
   ⟨["hung", "oldhungarian"],
    ["ogMACAdgFAPAgegDyBNyBHF"]⟩,
   ⟨["java", "javanese"],
    ["yemCzCBKEB"]⟩,
   ⟨["kali", "kayahli"],
    ["aamCvB"]⟩,
   ⟨["kana", "katakana"],
    ["tdBAdBAtzQCEJBMQFBAEBnDDDrDgJPaIuBBjDbwyCBwKkCauoCDBGBBBAbLCyBAOD"]⟩,
   ⟨["khoj", "khojki"],
    ["idEJiohCJmboBRBuB"]⟩,
   ⟨["knda", "kannada"],
    ["tnDBRBoeBMBCBWBJBECIBCBDHBFCBDCJBCeaGABBGAXABAxsaCF"]⟩,
   ⟨["kthi", "kaithi"],
    ["ooDJxxNAefuBJsmnBoCKA"]⟩,
   ⟨["latn", "latin"],
    ["nCZGZvBAMACAFWBeBBgRDAKABCBAJABAGEbBOBBBAPCHBBBmBAFAEMrKBevBBkxCAioElBGwBFDFMBrCfCAHvJ",
     "rLAnCANAQMfDAfCBGAbBARoBtcEfBrPAmutBHaBxDDdDUOqLAtTqBBIBDqdeBGkoBZGZfcDFBpBBIpndDeBGF"]⟩,
   ⟨["limb", "limbu"],
    ["noDAqxFeBBLELEADL"]⟩,
   ⟨["lina", "lineara"],
    ["titDsBgvByLJVKH"]⟩,
   ⟨["linb", "linearb"],
    ["qysDLBZBSBBBOCNiBsEFCEsBDI"]⟩,
   ⟨["lisu"],
    ["yaBAQAkdRBsfsBvBamuBA"]⟩,
   ⟨["lyci", "lycian"],
    ["ogMArqhDcB"]⟩,
   ⟨["lydi", "lydian"],
    ["bHAtfRAqxeDZFA"]⟩,
   ⟨["mahj", "mahajani"],
    ["bHAkhDLcdiCJsunBmB"]⟩,
   ⟨["mand", "mandaic"],
    ["ojCArTbBCA"]⟩,
   ⟨["mani", "manichaean"],
    ["ojCAxquDmBEL"]⟩,
   ⟨["mero", "meroitichieroglyphs"],
    ["rgMAmhkDfB"]⟩,
   ⟨["mlym", "malayalam"],
    ["tnDBRBmjBMBCByBBCBFEPCZevFAXAzsaCC"]⟩,
   ⟨["modi"],
    ["aslCJwopBqCLJ"]⟩,
   ⟨["mong", "mongolian"],
    ["icJZGkDHqBawCAtzFBFDwfjDM"]⟩,
   ⟨["mult", "multani"],
    ["kyDJaawDGBABDBOBK"]⟩,
   ⟨["mymr", "myanmar"],
    ["obGdGcufCAvGeBtDfBmapBT"]⟩,
   ⟨["nand", "nandinagari"],
    ["tnDASBmiBJhbGAIAHArsaCFsyqBHCtBCK"]⟩,
   ⟨["newa"],
    ["tnDBckHABBJAGABABAsopDnDBE"]⟩,
   ⟨["nkoo", "nko"],
    ["ohCAOADAaQgCCCswoDB"]⟩,
   ⟨["orkh", "oldturkic"],
    ["ogMAfgFAzzfDuC"]⟩,
   ⟨["orya", "oriya"],
    ["tnDBRBvPCBHCBCVBGBBBECICBCCHCEBBECRepGAXA"]⟩,
   ⟨["osge", "osage"],
    ["pdBACAGAyCAvltDjBEjB"]⟩,
   ⟨["ougr", "olduyghur"],
    ["ojCAvsuDAfsBZ"]⟩,
   ⟨["perm", "oldpermic"],
    ["bHAmWAFCKAdOAumsDqB"]⟩,
   ⟨["phag", "phagspa"],
    ["kcJBBAjcDAuzFAxntBdC"]⟩,
   ⟨["phlp", "psalterpahlavi"],
    ["ojCAhyuDRHDMG"]⟩,
   ⟨["rohg", "hanifirohingya"],
    ["ohCAOADAgBArFAjhvDnBIJ"]⟩,
   ⟨["runr", "runic"],
    ["uoIkD"]⟩,
   ⟨["samr", "samaritan"],
    ["uaDtBCOqjOA"]⟩,
   ⟨["shaw", "shavian"],
    ["bHAaiuDvB"]⟩,
   ⟨["shrd", "sharada"],
    ["tnDAfkHABACBCAJACAetaCFCApwnBrDopDH"]⟩,
   ⟨["sind", "khudawadi"],
    ["moDBmdiCJgioBgCFJ"]⟩,
   ⟨["sinh", "sinhala"],
    ["moDBloBCBRDXBIBACGDAEFBABHGJCCprFAqtoDT"]⟩,
   ⟨["sogd", "sogdian"],
    ["ojCApiwDpB"]⟩,
   ⟨["sylo", "sylotinagri"],
    ["moDByEJiwhCsB"]⟩,
   ⟨["syrc", "syriac"],
    ["rdBBCBBAYCHBBBccBAOBCAgBAKKaBAnFNBhCCCmKKfeIABA"]⟩,
   ⟨["tagb", "tagbanwa"],
    ["nuIBpBMBCBB"]⟩,
   ⟨["takr", "takri"],
    ["moDBmdiCJutpBfCGJ"]⟩,
   ⟨["tale", "taile"],
    ["odBBFBDAzzEJwkDdBCE"]⟩,
   ⟨["taml", "tamil"],
    ["tnDBRBuUBBFDCBDDBBABBDBDCDLEEDCBDCAGAOUdkGAkbbCAfeoBABAdCBftExBNA"]⟩,
   ⟨["tang", "tangut"],
    ["aeSPbTAmkqEAfBvfKsTeBtDkE"]⟩,
   ⟨["telu", "telugu"],
    ["tnDBRBqZMBCBWBPCIBCBDHBBCBBCDCJHIveGBBABAXA"]⟩,
   ⟨["tfng", "tifinagh"],
    ["qdBABABDZAayPdCHBOA"]⟩,
   ⟨["tglg", "tagalog"],
    ["msIVJAVB"]⟩,
   ⟨["thaa", "thaana"],
    ["ohCAOBCAmCJsKxBqgpDAKA"]⟩,
   ⟨["thai"],
    ["yaBAaBArBAtBAlcEfCFbB"]⟩,
   ⟨["tibt", "tibetan"],
    ["srFtCBjBEmBBjBBOBGEBveMD"]⟩,
   ⟨["tirh", "tirhuta"],
    ["tnDBRBjjHAMAPAzsaCJcapBtCIJ"]⟩,
   ⟨["toto"],
    ["yaBAlszGeB"]⟩,
   ⟨["yezi", "yezidi"],
    ["ohCAOADAmCJgawDpBBCCB"]⟩,
   ⟨["yiii", "yi"],
    ["reSBFJCHpIAcbqBusBDcCciiBE"]⟩,
   ⟨["zinh", "inherited", "qaai"],
    ["deBACABODGCACPBBBRBEBDmgCBxoGtBCLybBbCBABEeUBmHfBqsfDPQNnlBAoqzCtBCWyUCRHCGeBDihltBfJ"]⟩,
   ⟨["zyyy", "common"],
    ["AmCaBFaBuBBLBBBEXAfBAhRCBJBADABIBABFFECTwEAGABAnYAhIAwTAuaCApPDbdGLCgBBeBBJBBBGBKDKBOR",
     "hBkClBBCCFBaBBQpBCEpZWKVrjBwJdYChFsTWBXCJBDBABZcQADANANAVAjUXfBAxBOMDfGJFrDfBAotJlCqsh",
     "BZyDColBAOBshfBJWUCLBSBDrFABfBaBFaBFxEGBGKEmPMzBsBbnyCsJDtQGWPQrDlEiClJKmBCjCDQIBHdBEi",
     "CfITMTMiDbBGfFgDBsCBBCACBCDBLBABGBmCBDCHBGBbBBDBEBADGBbNCfLCxBhtHpCyCiCebBrBEvDMOCOBOB",
     "kBKrGeCZBBNrBEIXFyFwlBDQDMDjIGLEAPLEdCIJGnBIdBCLEBOInBfNINCMDKDeCBAEPCLEJHqFByDaxusBAe",
     "BrD"]⟩,
   ⟨["garay", "gara"],
    ["ohCAOADAuqvDlBDcBIB"]⟩,
   ⟨["gurungkhema", "gukh"],
    ["noDAedaFfC"]⟩,
   ⟨["olonal", "onao"],
    ["moDBwkyGqBEA"]⟩,
   ⟨["sunuwar", "sunu"],
    ["odBBBAJACAcBADAkgcEhBOJ"]⟩,
   ⟨["todhri", "todr"],
    ["pdBACACAJABAwCAbwtDzB"]⟩,
   ⟨["tulutigalari", "tutg"],
    ["axEJqbGABAxsaCFfHAejoBJBACABlBBJBACABDBJBBIB"]⟩]

/-- The characters of a script, by a name in normal form. -/
def scriptRanges? (name : String) : Option Ranges :=
  (Property.find? name scripts).map Property.ranges

/-- The characters used with a script, by a name in normal form. -/
def scriptExtensionRanges? (name : String) : Option Ranges :=
  ((Property.find? name scriptExtensions).orElse fun _ =>
    Property.find? name scripts).map Property.ranges

end LuaSession.Unicode
