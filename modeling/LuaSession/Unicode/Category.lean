import LuaSession.Unicode.Ranges

/-!
# General categories

The characters of each general category. `categoryRanges?` finds a category, or a group of
categories, by any of its names in normal form.
-/

namespace LuaSession.Unicode

/-- The categories that hold characters of their own. -/
def categories : List Property :=
  [⟨["cc", "control", "cntrl"],
    ["AfBrDgB"]⟩,
   ⟨["cf", "format"],
    ["rGAkaCFWAkHAxBAuOBcDAjtFAqaDEaBExBEBJjhgDApJCziGAPAkkNPuqzBDxwHHmzktBAeBrD"]⟩,
   ⟨["co", "privateuse"],
    ["ovgDdmJoxhaCnysDCnysD"]⟩,
   ⟨["cs", "surrogate"],
    ["uudDtaD"]⟩,
   ⟨["ll", "lowercaseletter"],
    ["tDZgCApBXBHBABABABABABABABABABABABABABABABABABABABABABABABABABABABBBABABABABABABABBBAB",
     "ABABABABABABABABABABABABABABABABABABABABABACABABCCABACADBEACADCCACABABACABBBACADABACBC",
     "CGACACABABABABABABABABBBABABABABABABABABBCABADABABABABABABABABABABABABABABABABABABABAB",
     "ABABABABABABABABABGCACBBAEABABABABqCCZlHABADADCSAbBiBBBDCBABABABABABABABABABABABEBACAC",
     "BzBvBBABABABABABABABABABABABABABABABABAJABABABABABABABABABABABABABABABABABABABABABABAB",
     "ABABABACABABABABABABBBABABABABABABABABABABABABABABABABABABABABABABABABABABABABABABABAB",
     "ABABABABABABABABABABABABABABABAwBoBbhEqBCCgdBFufDIBAnErBlCMBhByDABABABABABABABABABABAB",
     "ABABABABABABABABABABABABABABABABABABABABABABABABABABABABABABABABABABABABABABABABABABAB",
     "ABABABABABABABABABABABABABABABABABABABABIBABABABABABABABABABABABABABABABABABABABABABAB",
     "ABABABABABABABABABABABABABABABABABABABABABABABABABABIIFKHIHIFKHIHINCHIHIHIEBBGADCBBIDC",
     "BIHKCBBoKADBDAbBAEAEACBIDEAbCAbbEvBBADBBABABAEABBBFFABABABABABABABABABABABABABABABABAB",
     "ABABABABABABABABABABABABABABABABABABABABABABABABABABABABABABABABBHABAEAMlBBAFAdwtBABAB",
     "ABABABABABABABABABABABABABABABABABABABABATABABABABABABABABABABABABABAfFABABABABABABCBA",
     "BABABABABABABABABABABABABABABABABABABABABABABABABABABABABABABHBABACABABABABAEABACABCBA",
     "BABABABABABABABABAFAFABABABABABABABAEABACABABABABABABABAaBADApfBqBFIHbDiaeBGMEzoBZhvBn",
     "BgFjBzFKBOBGBBbrCyBvEVogEfBwjgBfBhCYejmBZaBGBRaBZaBDBABGBKaBZaBZaBZaBZaBZaBZaBZaBZaBbB",
     "cBYBFaBYBFaBYBFaBYBFaBYBFBAysCJBTGFduDhB"]⟩,
   ⟨["lm", "modifierletter"],
    ["maBRELOEHABAdFAFAkSAwIAiGBjKBEAfBAJADAeGAlGAovBAxEAtVAmpCAdEAnXAwRFsGkCNAiBkBnaBANAQMx",
     "mEBhJAjHAbSArBEFAtDBpDCubqBAcwBFkKAkEAcBBrEIcDAXAaEDDBbSAWAhFAeEAVBzDDJAivfBAtBBozCFBp",
     "BBIxcCAgBAdNAlsFAcidBDoTCoBBeVMmCBBAOBagYDBGBBngSjCtHGfkBAlUApWA"]⟩,
   ⟨["lo", "otherletter"],
    ["oGAPAwJAEDaIBufBaBEDtBfBBJjBBBuDBAYBKCCAQABdBdBkDLAYgBVVqBYHKFXBGQoBhCbCDASAHJQOEHCBCV",
     "BGBADDDAQANBBCOBKAIFEBCVBGBBBBBBfBDBATCQIBCBVBGBBBEDASAPBXALHCBCVBGBBBEDAeBBBCPARABFDC",
     "BDDBBABBDBDCDLWAaCHBCBWBPDAaBCBBCBeBAEHBCBWBJBEDAeBCBBPBRIBCBoBCAQAFCICYFFRDXBIBACGgCv",
     "BBBMFhCBBABEBXBABJBBJACEXDgBAlCHBjBbBElEqBUAQFEDDADBHCEMMAjEqMBDCGBABDCoBBDCgBBDCGBABD",
     "COBeCBDCoClBPjEvXCQBZFwCGHHRNSOROMBCPzBoBApCiBBaCHEChBBAFrCKeBxBdBCELrBEZcCWJaCuGuBRHc",
     "CdBNBKrBaBjBpBCKdBjEDBFBBDAqpBDvnEdCYWJGBGBGBGBGBGBGBGfVAbCAEhDIABlDEAFqBBpDRfBwBPsTnt",
     "JmCecfBByrBpCnBIhKEPKBoCAxBrCnGAzDADGBCBDBWdBzBOxBkCFDABBLbBKWZcBHuBtBECIKEBoBXCBHUPBF",
     "DADxBBADBCECABAYBDKHAOFCFCFJGBGpFiBdBrnQMWEwBcnMbOCbEpCABJBMBEBABBBBBdEhByNSlCCbCoBLmE",
     "EBeFbEJBsBCeBDFCFCFCCjBLBZBSBBBOCNiBsEzOcBDwBvBfBNTBHGlBKdBCjBEHyEzCuDnBIzBoDzBMyLJVKH",
     "wFFCABrBBBDACWKWJeBnCSBBKVKZGZmBdCGBmCAPDBCBcBqBcBDcBjBHBbBbBbCKVKSNRgEuCbHjBmBDBAsLpB",
     "GBQCBBeCcBKAIVqBRuBUbBWMaCfCBCANsBgBYaBjBdBACAIiBDAMvBODVABAjBRBYTBlCGBABDBOBJHuBmBHCB",
     "CVBGBBBEDASAMEeBJBACABlBBAZABAsBaCSDUCeBvBUBBAcHuBpBDkBvBUAhCqBNAtCaBlBGdHrBdIHCACHBBB",
     "XPABAqDHCmBQABAcBAKnBHAVALtBTASuCrHgBfBIBkBRAxBdBiEGBBBlBVAZFBBBfBOAXoBBBaKSPABMBhBuEA",
     "bDljBwInHkxDsDPfpBRFZqxFFkWddKdBupCwVHeBRaDRdBSvBzBUFStQnBpPwCFAtGxxKpBfBtDkEhxMeLPAdB",
     "CCAODIfPukDcEFMDIHJcbNAhTsBhBAjMdBSrBqSaBvIdBCAzHeBBCBBBGCEJArIGBDBBBOBoHnzBDBaBBBBACA",
     "BJBDBABAGAEABABABCBBBACABABABABABBBACDBGBDBDBABJBQFCBEBQaoGbflCgBnmGCboICkbLPxXwqDvUyf",
     "CyhHFnoM"]⟩,
   ⟨["lt", "titlecaseletter"],
    ["lRACACAmBAhfLHIHIHMAPAvBA"]⟩,
   ⟨["lu", "uppercaseletter"],
    ["nCZxDWBGhBABABABABABABABABABABABABABABABABABABABABABABABABABABABACABABABABABABABACABAB",
     "ABABABABABABABABABABABABABABABABABABABABABBBABADBBABBBCCDBBBCDBBBBABABBBACABBBCBABBDAH",
     "ACACACABABABABABABABACABABABABABABABABACACABCBABABABABABABABABABABABABABABABABABABABAB",
     "ABABABABABABABABAHBBBCABDBABABABAdLABADAIAGABCBABBBQBIjBACCDABABABABABABABABABABABAFAC",
     "ABBCyBwBABABABABABABABABABABABABABABABABAJABABABABABABABABABABABABABABABABABABABABABAB",
     "ABABABABABBBABABABABABACABABABABABABABABABABABABABABABABABABABABABABABABABABABABABABAB",
     "ABABABABABABABABABABABABABABABABAClBdhElBBAFAubBhDlgDAGqBCCiMABABABABABABABABABABABABA",
     "BABABABABABABABABABABABABABABABABABABABABABABABABABABABABABABABABABABABABABABABABABABA",
     "BABABABABABABABABABABABABABABABABABABAJABABABABABABABABABABABABABABABABABABABABABABABA",
     "BABABABABABABABABABABABABABABABABABABABABABABABABAJHIFKHIHIFLABABABAIHuCDMDMDMELDcKAEA",
     "DCCCCADEGABABABDCDKBFAjCAgzDvBwBABCCABABABDBACAICBABABABABABABABABABABABABABABABABABAB",
     "ABABABABABABABABABABABABABABABABABABABABABABABABABABABABABABAIABAEAjytBABABABABABABABA",
     "BABABABABABABABABABABABABABABATABABABABABABABABABABABABABAfFABABABABABABADABABABABABAB",
     "ABABABABABABABABABABABABABABABABABABABABABABABABAKABABBBABABABAEABACABADABABABABABABAB",
     "ABABABEBEBABABABABABABABDBABBBABABABABABABABAYAhahBZzuBnBgFjBaGKBOBGBBcqCyBbGVogEfBwjg",
     "BfBmCYfjmBZaBZaBZaBABBCACBCDBHaBZaBBBDCHBGbBBBDBEBADGbBZaBZaBZaBZaBZaBZeBYhBYhBYhBYhBY",
     "hBAlnGhB"]⟩,
   ⟨["mc", "spacingmark"],
    ["tkDAdCACCIDBByBBgCCGBCBKArBAgCCoCAgCCIABBbCBgCABAGBCBKAyDBBBDCBCKApBCjCDjCBgCABECBBBJB",
     "cBAOBgCCFCBCKAqBBxCCGHSBsMBlCApGBEAGACBZBKCCGVBCFCAKCslCAeBAzEAHHBBiNDCCEBBFqIBgCABAJA",
     "BBIFpFAwBAFABEBBjCAeBAEBCAiCACCBADBwBHIBpGAVAehHBbltBBCAkDByBPmFBvBAwBBEBCCgEBCBYAtBAB",
     "AfEACBFAdJBBBBBBAjxlBABAxEAtBCEBlEAYBhCAwBCJBNApDCDBBAoGCfBBgCBBDCBCCJAKBgDCHACABDBBBA",
     "xDCIBDAcECGABDCAdJCGDCAjECIBBAfEABBGAzDABBEAbKCJAnJFBBEACABAmFCIDEAgDAdBBkCAtHADABArHA",
     "OAcEAHACAfIEEBBAmNBMAwBBIBBAyyYCgjFcCaEBnxkBBGF"]⟩,
   ⟨["me", "enclosingmark"],
    ["qsBBqkIAgiCDBCxoyBC"]⟩,
   ⟨["mn", "nonspacingmark"],
    ["odBhEpKEfKsBBABBBBBAuCKwBUQAxDGCFCBBDjBAeBaBnDKgCIJAYDBIBCBErBChCIqBXBfBdCABAEHEADGKBd",
     "BAgCAEDIAUBaBACBfCAEBEBCCDAeBBDALBfCAEEBBEAUBWFBAgCACABDIAHBLBeBAjCAMAyBADAdCABCFCBDHB",
     "LBdBAgCACAGAFBUBcBBfCBEDIAUBdBAuCAHCBAmDACGMHuDACILGvCBbBABABAdCNBEBBFKBjBJAyDDBFBBCBZ",
     "BECQDNACBGAPAbbBCkkBCdBBeBBeBBmCBBGIACKJAtBCBAnEBiBAoECEBJAGClIBCAgCABGBABACHGJCAwBNBe",
     "BCLUDwBABEBAFAoBIMBgBDCBBCeCABBDABCgCHCBwFCBMBGEAGADBqHlCsbBMEADLcoEClFAsDfBiVDdEBeqsB",
     "AEJgBBcDBmKADAEAZBFAvFBaBRNAmBHZKuBCwBACDCBnBApCFCBCBMAIAvBAzBABCCBFBBAqBBIAeJACAEAszd",
     "BAjcBPQPllBAsIAtFEgmCCBBFDoBCEAjGBbWDnCEfMBzCFsCKxBDtEAcCOpBACBKCxBDCBHAjCCkBEBHkCAMBa",
     "CIKDCArDCCABBGACAbGADHVBfCBDAlBGDEsCFNABABAOBhDHCCBAXAgDFBAEBBBeJDGBBBbBBhDHCABBcEABAC",
     "FBAxDABACDBEzJIBBwJBBAEAoFDCBEAgBJoBFCDIAJFCCuBMBBqHABCBAtHGBFBAeDVCGBBBBsEFDABBBGBAuC",
     "BDABAjNBLBaCEFABAXAtxHAGOyyQLDCasDEhCGioBAlCDdDAkbdBBzyGtBCWyUCRHCGeBDsFCdyCcCExBIAOAW",
     "EBOiaCGBQCGBBBEwDAeGGlOAjCDoTDuJBjJACAHBFAgSGfEGvictBfJ"]⟩,
   ⟨["nd", "decimalnumber", "digit"],
    ["wBJoiCJeFJqHJwPJoEJoEJoEJoEJoEJoEJoEJoEJoEJsDJoEJsCJsKJsCJqtCJmBJoLJyEJkGJGJaHJiDJeFJG",
     "JoeaCJcaBJmBJqHJWJiDJqPJcmfBJkcCJyfDJGJqeBJyEJiCJoFJsKJeNJoEJkOJyDJGTyCJgQJyDJmZJiDJmJ",
     "JsCJcCJuNJgyYJcmDJiDJeFJoUJydkBJqcExBcnDJgQJiTJnJJvgBJabHJ"]⟩,
   ⟨["nl", "letternumber"],
    ["urICtyDiBCDsmFAZIOClysBJgfiBaCsRAIAeFEseMgEppcBC"]⟩,
   ⟨["no", "othernumber"],
    ["wGBFACCrmDFmOFqECdFGjIGRIrQJlpBTvrBJmSAvmCADFGJqHPpBAybBhCaDVgYdBhbCActBDiFJeBHBOgBJnB",
     "OimsBFnqhBsBnCDRBdNaBkBDgzBHZGnBIxCEWFeGBCPCtBmCIaCBeBCxCEaEHYHpBGsMFoNeBcGJqBDiEGeFTp",
     "OTxzBBoQInhBStgBUqpcBGseBWfylBTMTeEYubIItjBgCBCBDyCsBBOalBM"]⟩,
   ⟨["pc", "connectorpunctuation"],
    ["rDAvbMBTAoagDBYCfJA"]⟩,
   ⟨["pd", "dashpunctuation"],
    ["tBAuaCAzBAjkFApnBAdbDFxhFACAfBBEAcBAeRATAhEAawzCBlBAKAnGAolFAgMA"]⟩,
   ⟨["pe", "closepunctuation"],
    ["pBAzBAfBAdpFABAouCAdrDAdCAPAkYABAeBAupBABABABABABABAcDAgBABABABABAoPABABABABABABABABAB",
     "ABAmCABAhBAvoBABABABAsBABABABAmQABABABABADABABABACBqrzCAjIAdBABABABABABABABADARABABAoG",
     "AzBAfBACACA"]⟩,
   ⟨["pf", "finalpunctuation"],
    ["fHAvwLADAcBAsfFABAEACAPADA"]⟩,
   ⟨["pi", "initialpunctuation"],
    ["pGAkxLACBCAZAsfFABAEACAPADA"]⟩,
   ⟨["po", "otherpunctuation"],
    ["hBCBCCABABBKBDBbBAqCAFAOBHAabBAIAyRFpBAcCACACAsBBUBBBNABCwCDyDArBNzICcCOfBAbKBKAkFAqEA",
     "rEAaPAMAdOAmDAKBmGOBAiEAwCEEBhEFpGAoXItdBAuECtCBbGCBClBFBDbMBiIByEGBFeGBKGcBCuEDhCEkCB",
     "mCHLAcgBBIHIICDCCDKBABJcuEDBBiEAnFBECCACIBBBACBKEBJCDBABMCCmQCfCAhHAgyrBBjKCvDAKAlEFqO",
     "DiDBoBCBAxBBvBAtDMQBuEDwEBQBpJAucfBGCAWAUBCDDCBDHCGABBtFCBCCABABBKBDBbBAkBACBuPCsZAwBA",
     "yPApcBArHAfBAmKImBAiEGoCGlDDnfBAcFEsBDhHGfEBBDwEDwBBbDDEANABCkDFdEAmLBBBkEEKBBAaEAqJWb",
     "ECcBMyCAaFCsJAeKCzFAoDHfDCBEpDJhIArDEqBBvYBwCMtGAsrBEcjEBvdWBdFAnCEIAgVCjLDpMAobdBAliL",
     "EtiEAehBB"]⟩,
   ⟨["ps", "openpunctuation"],
    ["oBAyBAfBAepFABAouCAmpDADAmBAdCAPAkYABAeBAupBABABABABABABAcDAgBABABABABAoPABABABABABABA",
     "BABABABAmCABAhBAvoBABABABAZASABABABAmQABABABABADABABABACAtrzCAhIAdBABABABABABABABADARA",
     "BABAoGAyBAfBADACA"]⟩,
   ⟨["sc", "currencysymbol"],
    ["kBAvEDjwBAtEAeTBeTBHAlJAdKAjWApqDAiiDhBuhzBAlmgBAeEAyFAlIBDBscMDexvCAkrDA"]⟩,
   ⟨["sk", "modifiersymbol"],
    ["qDABAtCAGAEADAbUDMNFGBABQnEAOBixBAmuIABCLCNCNCNBohGBrvsBWJBzDBolBAOBkkeBQhiBABAgGAjloD",
     "E"]⟩,
   ⟨["sm", "mathsymbol"],
    ["rBAQCjCABAtBAEAlBAfBAmdBAhUChyJANAnBCNCjFAnBEGAqCEFBEACACAHAfBBCABAfBhKgBBmDAeBYoBFbSA",
     "JAcCHhEAyMECeBKPwJaFWkCEfBCxJwBUCFqsaDAsfBABCiGAQCjCABAbFAGDfeFBagvCAyyCAZAfBAZAfBAZAf",
     "BAZAfBAZAeuIBetDI"]⟩,
   ⟨["so", "othersymbol"],
    ["kGACAEABAplBAgKBxEByHAKATBnJAvTAjOAaFFBAcFAzHApBAbPCPABCCFUABABAdFHBFBBFDpHBycBJvbBAub",
     "BAbGhBpNJJIhcCBBDBBKABBGFBABABAEALBOABBBAgCBJECDBBBBBGBeBCBBABeBiKHETCGCcDBdBZnBGtCWKd",
     "DzCWaHBIBbCIgEBnJsBrBmCvJsTvBVBGmBChFvIFtNBuBZBkDMfIaBPEANBMAVBGByMBEJgBlBJAQeBLdBIAPf",
     "BKmBPhMotJlCiugBcChhBDKBBAbWCjueBPbOPmCBcCHtBCqSADAEBNBbMIfCQCCBMDAvBsBulCBtWAsnBHseDA",
     "ngDHEQincBDFAwueBAnvFfJKCDtQGWPPsDlEiClJKmBChCFCWBHdBEiCVnCDAeHiDxtBrTdCDyBHBNBBuoCAwh",
     "EAzEAtbBrBEvDMOCOBOBkBXeGeCcBNrBEIHBOFyFqJFacBDQDMDjIGLEAPLEdCIJGnBIdBCLEBkCfNINCMDKDe",
     "CBAEPCLEJHqFBnDKA"]⟩,
   ⟨["zl", "lineseparator"],
    ["qeMA"]⟩,
   ⟨["zp", "paragraphseparator"],
    ["reMA"]⟩,
   ⟨["zs", "spaceseparator"],
    ["gBAxEAjhIAnpDKkBAvBAwxFA"]⟩]
/-- The groups of categories, each with the first names of its members. -/
def categoryGroups : List (List String × List String) :=
  [(["l", "letter"], ["lu", "ll", "lt", "lm", "lo"]),
   (["lc", "casedletter"], ["lu", "ll", "lt"]),
   (["m", "mark", "combiningmark"], ["mn", "mc", "me"]),
   (["n", "number"], ["nd", "nl", "no"]),
   (["p", "punctuation", "punct"], ["pc", "pd", "ps", "pe", "pi", "pf", "po"]),
   (["s", "symbol"], ["sm", "sc", "sk", "so"]),
   (["z", "separator"], ["zs", "zl", "zp"])]

/-- The characters of some categories together. -/
def categoryUnion (names : List String) : Ranges :=
  Ranges.ofList (names.flatMap fun n => ((Property.find? n categories).map Property.ranges).getD [])

/-- The code points that are assigned. -/
def assignedRanges : Ranges :=
  Ranges.ofList (categories.flatMap Property.ranges)

/-- The characters of a category or a group of categories, by a name in normal form. -/
def categoryRanges? (name : String) : Option Ranges :=
  match Property.find? name categories with
  | some p => some p.ranges
  | none =>
    match categoryGroups.find? fun g => g.1.contains name with
    | some g => some (categoryUnion g.2)
    | none =>
      if name == "any" then some [(0, maxCode)]
      else if name == "ascii" then some [(0, 127)]
      else if name == "assigned" then some assignedRanges
      else if name == "cn" || name == "unassigned" then some assignedRanges.complement
      else if name == "c" || name == "other" then
        some ((categoryUnion ["cc", "cf", "co", "cs"]).union assignedRanges.complement)
      else none

end LuaSession.Unicode
