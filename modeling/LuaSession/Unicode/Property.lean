import LuaSession.Unicode.Ranges

/-!
# Binary properties

The characters of each property that is held or not held.
-/

namespace LuaSession.Unicode

/-- The properties that have a table. -/
def properties : List Property :=
  [⟨["ahex", "asciihexdigit"],
    ["wBJHFaBF"]⟩,
   ⟨["alpha", "alphabetic"],
    ["nCZGZvBAKAEAFWBeBBpRELOEHABAiDAdBRBBCDBAGABCBABTBeDBiFIjGBlBCAGoBnBNBABBBBBAIaBEDdBKFd",
     "CBGOxDBHEHECKCCAQvBNwDYgBJBEAFXCSTYHKFXBGHAIpBKLDGGxCBPBCEONSBHCBCVBGBADDDHCBCBBAIAEBB",
     "EMBKAECBFEBCVBGBBBBBBEEEBCBEAHDBARFLCBIBCBVBGBBBEDIBCBBDAPDVDECBHCBCVBGBBBEDHCBCBJBEBB",
     "ENAQBBFDCBDDBBABBDBDCDLEEDCBCDAGAoBMBCBWBPDHBCBCIBBCBBCDcBDBHBCBWBJBEDHBCBCIBFCBDNCMMB",
     "CBoBCHBCBCBAFDHEWFBCBRDXBIBACGIFBABHSBNfCFGGAzBBBABEBXBABSBCCEBAGAODgBAlCHBjBESEPBjBpC",
     "cCBACEQlCKDClBBAFACqBBuMBDCGBABDCoBBDCgBBDCGBABDCOBeCBDCoClBPQhDCFDvXCQBZFwCDKHTLUMTMM",
     "BCBBMzBCSOAEApCkDHqBFrCKeBBLEIXdBCELrBEZcCbBEkCCTyBAXBLCxBzBBOBHzBpBCDKrBBKOcCWCKjBCKF",
     "qBCCpBDBFBBDAFjHThBLrKCFClBCFCHBABABABeBCaCBGBADCBGDDCFEMFCBGmEANAQMxDAEACJBADEGABABAB",
     "DBKCDFEEARoBhfBzBurCuIGDDBMlBBAFACdCHAQWJGBGBGBGBGBGBGBGBfBvBAbSCZIHECEEhDGCBlDBDFqBBp",
     "DRfBwBPsTntJmCeugBpCtBCiKDPKBUuBFHDiEnBICyDCdDUUBgBYzBMpCBAsBFDABCKgBFiBNcBDyBBLPAQPKE",
     "BcCJNSWDqCBABAYCCPCDLFCFCFJGBGBqBBNGsEVrnQMWEwBcnMbOCbEmBGMEFLBMBEBABBBBBdEhByNSlCCbCo",
     "BLmEEBeFkBZGZLkDDFCFCFCCjBLBZBSBBBOCNiBsErCaChKcBDwBvBfBNdBFqBFdBCjBEHBEqBbGSjBEjBEnBI",
     "zBMKBOBGBBBKBOBGBBDzBMyLJVKHYFBpBBIrCFCABrBBBDACWKWJeBnCSBBKVKZGZmBdCGBmCDBBFHBCBcBqBc",
     "BDcBjBHBbBbBbCKVKSNRgEuCdCyBNyBNnBiBbBDAFWqJpBBBDBQFyBCDcBKAIVqBRuBUbBWJrCrBEKeCJANYXy",
     "BRDIiBDAJlCBDJBKABAjBRBhBCAGDkCGBABDBOBJHeCXDBHCBCVBGBBBEDHCBCBDAGAFGcBJBACABlBBJBACAB",
     "DBBDABAsBnCBCBDUCeBnCCBBAcHbCCGZFiBkCBADAhCbCCAtCaBCNVGdHeCzDlCfBHCACHBBBdBBBCBCDpDHCt",
     "BCFBABBbByBCJRtCFASuCzDHkDgBfBIBsBBGBAxBdBCVBNvCGBBBrBDABBBCBACBYFBBBkBBBBDBAXrBaKWJQB",
     "oBDChEAbDljByDgERnHkxDsDPfpBRFZqxFFkWddKuBdpCwVHeBRaDRdBSvBQDfBUFSqQsBdIlCgBYCYsBwCEeC",
     "HQmCBBAMGJxxKpBfBtDkErwMDBGBBBeLPAdBCCAODIfPukDcEFMDIHJEAfwIgDBsCBBCACBCDBLBABGBmCBDCH",
     "BGBbBBDBEBADGBbNCYBYBeBBYBeBBYBeBBYBeBBYBHysCeBGFfIGBQCGBBBEFjChBAiEsBKGQAjMdBSrBqSbBu",
     "IdBCAzHeBBVIBqIGBDBBBOBoHhCpCDADAiuBDBaBBBBACABJBDBABAGAEABABABCBBBACABABABABABBBACDBG",
     "BDBDBABJBQFCBEBQeYZGZGZkmFbflCgBnmGCboICkbLPxXwqDvUyfCyhHFnoM"]⟩,
   ⟨["bidic", "bidicontrol"],
    ["eiCAlvJBaBEdCD"]⟩,
   ⟨["bidim", "bidimirrored"],
    ["oBBSABAcBABAdBABAtBAPAsmFDnuCBqqDBKBcCBOBvGAkHDDFDADBDDBDBABAEIFABRFDJBBABHBfBCDFAJBCS",
     "FBJECBEXCPIDUBHBtpBNwCACDBBBCFDFCDNnPVCFBNIAHFDAEEBBCEEABCCBKFCBMSBDCABACABDFBGCYBLBED",
     "BBCBEqBCHBnBFABADEFCEADEBAwJAvTDDBBBOBCJrBHlQJCHrcaDFFBgGBSABAcBABAdBABABBBBnpdDAfCAfC",
     "AfCAfCA"]⟩,
   ⟨["cased"],
    ["nCZGZvBAKAEAFWBeBBmHBDEzHCiBHBeBEsDAqBDCBCDBAGABCBABTBeDBiFIjGBlBJoBffElBBAFACqBBDwZhD",
     "CFufDKFqBCCmCjHmCrKCFClBCFCHBABABABeBCaCBGBADCBGDDCFEMFCBGmEANAQMxDAEACJBADEGABABABDBF",
     "EACDFEEARfBDBlfBzBurCuIGDDBMlBBAFAcwtBtBSdBcFxDDDByCUFBCpfBqBBNGbDiaeBGMEtnBZGZttBbDsD",
     "jBEjBmEKBOBGBBBKBOBGBBjRACCBpBBIzuByBNyBpDVKVifElCqigBlCgBYCYeimBgDBsCBBCACBCDBLBABGBm",
     "CBDCHBGBbBBDBEBADGBbNCYBYBeBBYBeBBYBeBBYBeBBYBHysCJBTGFbKjCkgDpCaaDZGZGZ"]⟩,
   ⟨["ci", "caseignorable"],
    ["nBAGALAjBABAtCAEABAEACBjTjHEBEAJBBArJGzHAFAxBsBBABBBBBAsBALFKKBAjBAKUQAxDHBJBDhBABAeBa",
     "BnDKgCKEACAYXrBCsBAHBFIpBfCdCABAEHEADGKBNAPAgCAEDIAUBaBACBfCAEBEBCCDAeBBDALBfCAEEBBEAU",
     "BWFBAgCACABDIAHBLBeBAjCAMAyBADAdCABCFCBDHBLBdBAgCACAGAFBUBcBBfCBEDIAUBdBAuCAHCBAmDACGL",
     "IuDACIJABGvCBbBABABAdCNBEBBFKBjBJAyDDBFBBCBZBECQDNACBGAPAqDAkXCkkBCdBBeBBeBBmCBBGIACKD",
     "AFAtBEzBAnCBiBAoECEBJAGClIBCAgCABGBABACHGJCAnBAItBCLUDwBABEBAFAoBIMBgBDCBBCeCABBDABCgC",
     "HCBmCFeDCBMBGEAGADByBkCNAiBwDdRABCLCNCNCNBMEIBKACACExBEBJBANAQMzBgBrjEBjECvEAPAsDfBvBA",
     "bSAkBDDEFApDFpDCubqBAcwBFkKAuDDBJBAcBDcDBOhBaDAXCyDDDBIADAEAZBFAvFBaBRNAmBHZKuBCwBACDC",
     "BRAVBoCFCBCBMAIAjBALAzBABCCBFBBAbBAOBFBBAwDEJCrEACAEAszdBArFQbWPDAMPiBACAnGAHAGALAjBAB",
     "AvBAtBBpCAVCtTAsIAtFEpnBFBpBBIkWCBBFDoBCEAjGBbWDmBAaBEBAdMBYAaCFsCKxBDtEAcCOpBACBKCxBD",
     "CBCAEAKAyBCkBEBHkCAMBaCIKDCArDCCABBGACAbGADHVBfCBDAlBGDEsCFNABABAOBhDHCCBAXAgDFBAEBBBe",
     "JDGBBBbBBhDHCABBcEABACFBAxDABACDBEzJIBBwJBBAEAoFDCBEAgBJoBFCDIAJFCCuBMBBqHABCBAtHGBFBA",
     "eDVCGBBBBsEFDABBBGBAuCBDABAnCAvKBLBaCEFABAXAdxHQGOyyQLDCasDEhCGJDoTCoBBoSAlCQmCBBBNBag",
     "YDBGBBguEBBDuyGtBCWyUCJPCGeBDsFCdyCcCExBIAOAWEBOiaCGBQCGBBBEFjChBAeGNeOAjCDnTEuJBjJACA",
     "HBFAJAwRGfEHfbEEpxxsBAeBrDyEfJ"]⟩,
   ⟨["cwcf", "changeswhencasefolded"],
    ["nCZmDAKWBHgBABABABABABABABABABABABABABABABABABABABABABABABABABABABACABABABABABABABABBB",
     "ABABABABABABABABABABABABABABABABABABABABABABBBABABABBBABBBCCDBBBCDBBBBABABBBACABBBCBAB",
     "BDAHBBBBBBABABABABABABABACABABABABABABABABACBBABCBABABABABABABABABABABABABABABABABABAB",
     "ABABABABABABABABABABAHBBBCABDBABABABAmJAqBABADAIAGABCBABBBQBIWAMCDBBABABABABABABABABAB",
     "ABABABBCBBABBCyBwBABABABABABABABABABABABABABABABABAJABABABABABABABABABABABABABABABABAB",
     "ABABABABABABABABABABBBABABABABABACABABABABABABABABABABABABABABABABABABABABABABABABABAB",
     "ABABABABABABABABABABABABABABABABABABABABABAClBwBAgfElBBAFAefBFufDJGqBCCiMABABABABABABA",
     "BABABABABABABABABABABABABABABABABABABABABABABABABABABABABABABABABABABABABABABABABABABA",
     "BABABABABABABABABABABABABABABABABABABABABABABABABAFBCABABABABABABABABABABABABABABABABA",
     "BABABABABABABABABABABABABABABABABABABABABABABABABABABABABABABABAJHIFKHIHIFLABABABAIHQv",
     "BCCCFFCCFLDMEFCCFlLADBGAtBPTAmfBZusCvBwBABCCABABABDBACAICBABABABABABABABABABABABABABAB",
     "ABABABABABABABABABABABABABABABABABABABABABABABABABABABABABABABABABABAIABAEAjytBABABABA",
     "BABABABABABABABABABABABABABABABABABABATABABABABABABABABABABABABABAfFABABABABABABADABAB",
     "ABABABABABABABABABABABABABABABABABABABABABABABABABABABABAKABABBBABABABAEABACABADABABAB",
     "ABABABABABABABEBEBABABABABABABABDBABBBABABABABABABABAYAgiBbDiaeBGMEtnBZzuBnBgFjBaGKBOB",
     "GBBcqCyBbGVogEfBwjgBfBmCYzhuBhB"]⟩,
   ⟨["cwcm", "changeswhencasemapped"],
    ["nCZGZgCAKWBeBBlCBfDBbBCNCBBAEoDBRGaBBBBABBDBBDBECABBCAHACABBDFFAKBkGAqBDCBDCBAGABCBABT",
     "BuBDgBBEBcFIjGBlBKmBgfElBBAFACqBCCwZhDCFufDKFqBCCdHADAQAjEzFCABnECFClBCFCHBABABABeBCaC",
     "BGBADCBGDDCFEMFCBGlLADBGAbBARfBDBlfBzBurCiEBBBBHxDHDDBMlBBAFAcwtBtBSbBeFNCjCJODCCEBYBs",
     "BYBchBAcBbDiaeBGMEtnBZGZttBbDsDjBEjBmEKBOBGBBBKBOBGBBpoCyBNyBpDVKVifElCqigBlCgBYCYyguB",
     "pC"]⟩,
   ⟨["cwl", "changeswhenlowercased"],
    ["nCZxDWBGhBABABABABABABABABABABABABABABABABABABABABABABABABABABABACABABABABABABABACABAB",
     "ABABABABABABABABABABABABABABABABABABABABABBBABADBBABBBCCDBBBCDBBBBABABBBACABBBCBABBDAH",
     "BBBBBBABABABABABABABACABABABABABABABABACBBABCBABABABABABABABABABABABABABABABABABABABAB",
     "ABABABABABABABABAHBBBCABDBABABABAdLABADAIAGABCBABBBQBIjBAIABABABABABABABABABABABAFACAB",
     "BCyBwBABABABABABABABABABABABABABABABABAJABABABABABABABABABABABABABABABABABABABABABABAB",
     "ABABABABBBABABABABABACABABABABABABABABABABABABABABABABABABABABABABABABABABABABABABABAB",
     "ABABABABABABABABABABABABABABABAClBdhElBBAFAubBhDlgDAGqBCCiMABABABABABABABABABABABABABA",
     "BABABABABABABABABABABABABABABABABABABABABABABABABABABABABABABABABABABABABABABABABABABA",
     "BABABABABABABABABABABABABABABABABABAJABABABABABABABABABABABABABABABABABABABABABABABABA",
     "BABABABABABABABABABABABABABABABABABABABABABABABAJHIFKHIHIFLABABABAIHYHIHIHIELELDMELElL",
     "ADBGAtBPTAmfBZusCvBwBABCCABABABDBACAICBABABABABABABABABABABABABABABABABABABABABABABABA",
     "BABABABABABABABABABABABABABABABABABABABABABABABABAIABAEAjytBABABABABABABABABABABABABAB",
     "ABABABABABABABABABATABABABABABABABABABABABABABAfFABABABABABABADABABABABABABABABABABABA",
     "BABABABABABABABABABABABABABABABABABABAKABABBBABABABAEABACABADABABABABABABABABABABEBEBA",
     "BABABABABABABDBABBBABABABABABABABAYAhahBZzuBnBgFjBaGKBOBGBBcqCyBbGVogEfBwjgBfBmCYzhuBh",
     "B"]⟩,
   ⟨["cwt", "changeswhentitlecased"],
    ["tDZgCApBXBHBABABABABABABABABABABABABABABABABABABABABABABABABABABABACABABABABABABABBBAB",
     "ABABABABABABABABABABABABABABABABABABABABABACABABCCABACADAFACADCCACABABACAEACADABACADAB",
     "AEABBBBBABABABABABABABABBBABABABABABABABABCBABADABABABABABABABABABABABABABABABABABABAB",
     "ADABABABABABABABABAIACBBAEABABABABFBBBABBDBBDBECABBCAHACABBDFFAKBkGArBABADADCSAbBiBBBD",
     "CBABABABABABABABABABABABEBACACAaCvBBABABABABABABABABABABABABABABABABAJABABABABABABABAB",
     "ABABABABABABABABABABABABABABABABABABACABABABABABABBBABABABABABABABABABABABABABABABABAB",
     "ABABABABABABABABABABABABABABABABABABABABABABABABABABABABABABAxBmBemFFufDIBAeJADAQAkEAB",
     "ABABABABABABABABABABABABABABABABABABABABABABABABABABABABABABABABABABABABABABABABABABAB",
     "ABABABABABABABABABABABABABABABABABABABABABABABABABABABABABABGFABABABABABABABABABABABAB",
     "ABABABABABABABABABABABABABABABABABABABABABABABABABABABABABABABABABABABIIFKHIHIFKHIHINC",
     "HIHIHIEBBGADCBBIDCBIHKCBBeNAhBPEAlgBZqtCvBBADBBABABAGACAKABABABABABABABABABABABABABABA",
     "BABABABABABABABABABABABABABABABABABABABABABABABABABABABABABABABABABABAIABAEAMlBBAFAdwt",
     "BABABABABABABABABABABABABABABABABABABABABABABATABABABABABABABABABABABABABAfFABABABABAB",
     "ABADABABABABABABABABABABABABABABABABABABABABABABABABABABABABABABAKABACABABABABAEAEABBC",
     "ABABABABABABABABABALABABABABABABABAEABACABABABABABABABAaBAchBAcBbDiaeBGMEzoBZhvBnBgFjB",
     "zFKBOBGBBbrCyBvEVogEfBwjgBfBhCYgiuBhB"]⟩,
   ⟨["cwu", "changeswhenuppercased"],
    ["tDZgCApBXBHBABABABABABABABABABABABABABABABABABABABABABABABABABABABACABABABABABABABBBAB",
     "ABABABABABABABABABABABABABABABABABABABABABACABABCCABACADAFACADCCACABABACAEACADABACADAB",
     "AFBBBBBBABABABABABABABBBABABABABABABABABBBBBADABABABABABABABABABABABABABABABABABABABAD",
     "ABABABABABABABABAIACBBAEABABABABFBBBABBDBBDBECABBCAHACABBDFFAKBkGArBABADADCSAbBiBBBDCB",
     "ABABABABABABABABABABABEBACACAaCvBBABABABABABABABABABABABABABABABABAJABABABABABABABABAB",
     "ABABABABABABABABABABABABABABABABABACABABABABABABBBABABABABABABABABABABABABABABABABABAB",
     "ABABABABABABABABABABABABABABABABABABABABABABABABABABABABABAxBmBchEqBCCgdBFufDIBAeJADAQ",
     "AkEABABABABABABABABABABABABABABABABABABABABABABABABABABABABABABABABABABABABABABABABABA",
     "BABABABABABABABABABABABABABABABABABABABABABABABABABABABABABABABABGFABABABABABABABABABA",
     "BABABABABABABABABABABABABABABABABABABABABABABABABABABABABABABABABABABABABABIIFKHIHIFKH",
     "IHINCaCBBEABADCBBEADDCBIHKCBBEAzMAhBPEAlgBZqtCvBBADBBABABAGACAKABABABABABABABABABABABA",
     "BABABABABABABABABABABABABABABABABABABABABABABABABABABABABABABABABABABABABABAIABAEAMlBB",
     "AFAdwtBABABABABABABABABABABABABABABABABABABABABABABATABABABABABABABABABABABABABAfFABAB",
     "ABABABABADABABABABABABABABABABABABABABABABABABABABABABABABABABABABABABAKABACABABABABAE",
     "AEABBCABABABABABABABABABALABABABABABABABAEABACABABABABABABABAaBAchBAcBbDiaeBGMEzoBZhvB",
     "nBgFjBzFKBOBGBBbrCyBvEVogEfBwjgBfBhCYgiuBhB"]⟩,
   ⟨["dash"],
    ["tBAuaCAzBAjkFApnBAdbDFjCAnBAPAaPAioEACAfBBEAcBAeRATAhEAawzCBlBAKAnGAolFAgMA"]⟩,
   ⟨["dep", "deprecated"],
    ["rMAvyBAtkDABAjcDBjiDFvaBBkyrzBA"]⟩,
   ⟨["di", "defaultignorablecodepoint"],
    ["rGAxZAobBAwgEBhkCBhDEpaDEaBExBPykGApmzCPfJAeGAbDInltCDxwHHlzktBnbG"]⟩,
   ⟨["dia", "diacritic"],
    ["qDABAtCAGAEACBjTcGBHFFRBEAJBtJEbIAdCsBBABBBBBAbFHEBeFBEBDCpCaBnDKgCKiBBwEHpBJQbBjCAQAD",
     "DcBAwCAQAgEAQAgEAQAvBCiCAQAHApEAgEAQAgEAQAfEBQAuEAhEAMFBAdEANExCBbBABABAEBoCCBBkCAiEAB",
     "BoBBEEZGBAKBdbBCmkBBeBAsFKJAjNCgLAUHCAwBOCKDOCLuCAPAmBIcCBgCALBoCBmCFeDYEAGACCyBkCwBjB",
     "FLlBKdRABCLCNCNCNBkxECfMAmTFbEDrDAkmsBAMBBAcBBeDBOhByDCyDAGBMAlBAvFAbBRfCDkBArDAMAkBAt",
     "FCnCDzBAwDEJCyEBszdBApdBPkKABAvBAtBBpCAkdBAntBFBpBBInYCEAjGBzVFmBAaBEgPACCsCKxBDkHApBA",
     "uCBqEBkCAyCAJCaEBwGBcDBQAYGDElDCBBNBrDADAtEBrJBwEAoEBlEAjKByJBEAaGAfDASAdDAfQAyJABBdDA",
     "nCAvNBXAayHOpzQAasDEhCGsVBaVQcDBcgYDBGBBhtLtBCWyUCDFIHCGeBDwmFjCmHGlOAjCDmdBBicBGfECBC"]⟩,
   ⟨["ebase", "emojimodifierbase"],
    ["hlOAlIAQDvjsGAiCCCACCnEBCKVSDAECBCHABAYAtHBEAVAEBsGCDEfDAQCJALAdWACAIHGAJJCCeCAjCBBBBA",
     "RCBMvICqBI"]⟩,
   ⟨["ecomp", "emojicomponent"],
    ["jBAGAFJjbMAfIArtfDAwioDZnTEaeCDquvsBrD"]⟩,
   ⟨["emod", "emojimodifier"],
    ["xihHE"]⟩,
   ⟨["emoji"],
    ["jBAGAFJhEAEAryLAMAiIAWAmDFPBdOBMAkGAZKECrHAxIBKAJAgCDBEJACACBCAEACABBCADADBICFABAFLLBC",
     "ABBBASACBSFBABBDBFACBEBLBFBCAFBBABBUBFFBDCAEACACFBACABABAGADAGAKBPACAEABAECBALBwBCJAOA",
     "OAiOBvRCTBzBAEAuvBAMAdXABAqrmGAuHAeGBMBOACJxCZBBXAUACIVBsGhBChECBBCCeDCCBcKBkCLFBXHBCH",
     "MACDCAEBNBCAIBJAFCMCICCABAEAGADAGhDwBrCFHCDDJDABBDACJtILEAxKuBBJBcHiEMDKDeCBAEPCLEJ"]⟩,
   ⟨["epres", "emojipresentation"],
    ["qhNBxHDDACAbUBVByBLrBATANAIBRBFBIAFAVAHBBAEACAHAEBcBAjBABAECBAjCCYAOAbhBBzBAEAelpGAuHA",
     "iHACJxCZBAYAUACEBCVBsGgBMIBrCBVMqBEEMQDADsCBABeHCkCNDBXSAaBBNAiDgDwBrCGADCCDDDLBHItILE",
     "AxKuBBJBcHiEMDKDeCBAEPCLEJ"]⟩,
   ⟨["ext", "extender"],
    ["bHAqUBuhBAzQAgYAhFAlDAycBAxEAfnDAeCAnXAiPAqCAjkHArBEzDBpDCubqBAsgCAalBAWAhFAeEAVBvzfBA",
     "kbDBbfCAbBAEAbvBAhLAmEBeTCjvBAagBAeidBBktBBBAOBkxqBBfuBAugBC"]⟩,
   ⟨["extpict", "extendedpictographic"],
    ["nGAEAryLAMAiIAWAmDFPBdOBMAkGAZKECrHAxIBKAJAgCDBEJACACBCAEACABBCADADBICFABAFLLBCABBBASA",
     "CBSFBABBDBFACBEBLBFBCAFBBABBUBFFBDCAEACACFBACABABAGADAGAKBPACAEABAECBALBwBCJAOAOAiOBvR",
     "CTBzBAEAuvBAMAdXABAqrmGAnBDwDLPBPAOBlBJiEBMBOACJTdCbBOKAUACIBDJWGfHChECBBCCeDCCBDFtJBk",
     "CLFBXHBCHMACDCAEBNBCAIBJAFCMCICCABAEAGADAGhDwBrCFHCQDABFCMkIlBMDeCHKFoBHeBBMDCNJmBMuBB",
     "JBcHkDHOpFwJhnB"]⟩,
   ⟨["grbase", "graphemebase"],
    ["gBqDhBMBvWiEHCFEGBABTBpIHjGBlBCxBCCuBABACACAJaBEFRJLABtBVPBwDIAGBCAEfBCABdBdBkDLAOqBJG",
     "DXEAJADAHOBYFABKFfBQpBfCcCBABDIDBCHJCcBBBBHCBCVBGBADDDABBGBCBBANBBCEXFABFEBCVBGBBBBBBE",
     "CYDBAHJCCBAMABIBCBVBGBBBEDDIABBDAPBELHAIBBHCBCVBGBBBEDACAGBCBPBBCERLABFDCBDDBBABBDBDCD",
     "LFABBDCBCDAVUGCBHBCBWBPDADDTCBBCBEJHJBKBCBWBJBEDBCABBXCBBEJBCOKBCBoBCABBFCBCBBECBJEZCB",
     "BRDXBIBACGJBGGHJCCMvBBBLHIMlBBBABEBXBABJBBJACEBAJJCDgBXCaBBABABNBjBSAFACExBHBFBMlBsBEA",
     "GACBCYCDDPEMBBCFBOBnBBAFACmOBDCGBABDCoBBDCgBBDCGBABDCOBeCBDCoCFcBDZGhDCFCsZDkDHRNSDBJR",
     "OMBCPzBCAHHBBLIDJGJGKFJGkDHEChBBAFrCKeBEDCCEBBFHADpBCELrBEZGKDeCCBDdCBAJABBIFNJGJGNiDv",
     "BKDDHBcBJLCfBEBGdCBACCBANvBIBFODjCFqBCKLANAHDBFBCCAFjHmCrKCFClBCFCHBABABABeBCaCBOBNCFB",
     "SCCBIBKFXHwBQBCaBBMDhBkCjFEpZWKVrrCCmODBFsBBAFACdCHBPWJGBGBGBGBGBGBGBGhBpDiBZBkDMfIaBf",
     "CGPBhDEwDFqBBpDBhDJvBBqirBDcCJjNUuBEAKfBCbDCFImIUQBCBDBYCEEJGdCIpCKLYMBlBIYLAMdBGvBBBE",
     "BCBBMBKEGBYBoBGBCBLCBHBACJCfBByBBADBCECABAYQCHLFCFCFJGBGBhCEmEBBBDDJGrnQMWEwBcnMbOCbEm",
     "BGMEFABXBEBABBBBBzYgBPQJWiBBSBDEEBeFEaGCeBDFCFCFCCDGBGNBCLBZBSBBBOCNiBsEFCEsBDjDBMDAvB",
     "sBbFcBDwBQaBEjBJdBFlBKdBBkBENqBbGCJGjBEjBEnBIzBLLBOBGBBBKBOBGBBDzBMyLJVKHYFBpBBIrCFCAB",
     "rBBBDACWBtCIIwBSBBFgBDaBFaBmBdCETCuBPDBCBcBKIHIHlCgBkBGLJbCDcBCaBFZHDMGcDuCdCyBNyBHpBM",
     "JGlBIXIBaIeBBpBDACBQFIInBnBIVLIWREDmBbBUWJABbCPGEdBBBCAMwBEBCBBDOYHJJjBFAJRIiBBCLzBJAB",
     "HEBBPBTLRBbBDBEFBBlCGBABDBOBKGuBBCNJIBBHCBCVBGBBBEDABABDCBCBDAMGcBJBACABlBBABBPABBDABC",
     "BBnBdCIBDABUBABCeBvBBBGABBBACACDIJkGuBBBGDCACaBkByBIBBACDLJGMTqBBABBIBGJGTcBaBDABBEAJW",
     "dHuBJACAwDeDMHCACHBBBXBEBBGDBCJJsCHCpBIDBDbBAKnBGBEHJAGBDtBNACINuCHJjDADABAkDhBOJGIBlB",
     "OABFKcBDfBZAHACAxCGBBBlBVAJJGFBBBkBEBBABAHJGrBEJmJSCDJOBjBIBDWiDAPxBNmjByDgEBELnHkxDuD",
     "NfpBRFZqxFFkWddKdBMCDJsoCwVHeBBJEcDBJGdBHAKvBHOKJBGBUFSqQfCqHmDFYCYsBwCFdCLMmCDOEJxxKp",
     "BfBtDkErwMDBGBBBeLPAdBCCAODIfPukDcEFMDIHJCACAkvFsJDtQGWPQrDlEiClJKmBChCFCWBHdBEiCVnCDA",
     "sETMTMiDJYfFgDBsCBBCACBCDBLBABGBmCBDCHBGBbBBDBEBADGBbNCfLCpVdCDyBHBNBGwrBeBGFbKjCqFsBK",
     "GCJEBiMdBSrBEJFAwRbBEJgIdBCKEAkHeBBCBBBGCEJBqIGBDBBBOBoHCIwBpCHAEJEBfeBpCyCiCmHDBaBBBB",
     "ACABJBDBABAGAEABABABCBBBACABABABABABBBACDBGBDBDBABJBQFCBEBQaCBkKrBEvDMOCOBOBkBKrGeCcBN",
     "rBEIHBOFyFwlBDQDMDjIGLEAPLEdCIJGnBIdBCLEBOInBfNINCMDKDeCBAEPCLEJHqFByDpnBbflCgBnmGCboI",
     "CkbLPxXwqDvUyfCyhHFnoM"]⟩,
   ⟨["grext", "graphemeextend"],
    ["odBhEpKGdKsBBABBBBBAuCKwBUQAxDGCFCBBDjBAeBaBnDKgCIJAYDBIBCBErBChCIqBXBfBdCABAEHEADGKBd",
     "BAgCABACDIAJAKBaBACBfCAEBEBCCDAeBBDALBfCAEEBBEAUBWFBAgCABBBDIAHCKBeBAhCABAMAJAoBADAdCA",
     "BCFCBDHBLBdBAgCACBBADCBDHBLBcBBfCBBACDIAJAKBdBAuCAEACCBAIAdDACGMHuDACILGvCBbBABABAdCNB",
     "EBBFKBjBJAyDDBFBBCBZBECQDNACBGAPAbbBCkkBDcBCdBBeBBmCBBGIACKJAtBCBAnEBiBAoECEBJAGClIBCA",
     "gCABGBABACHGJCAwBtBCLUDwBJECmBIMBgBDCFeCABBDABEeCHCBwFCBMBGEAGADBqHlCeUAnHgBcoEClFAsDf",
     "BiVFbEBeqsBDBJgBBcDBmKADAEAZBFAvFBaBRNAmBHZKBAsBCwBACDCBCAkBApCFCBCBMAIAvBAzBABCCBFBBA",
     "qBBIAeJACAEAszdBAjcBPQPcOBhXAsIAtFEgmCCBBFDoBCEAjGBbWDnCEfMBzCFsCKxBDtEAcCOpBACBKCxBDC",
     "BHAjCCkBEBHkCAMBaCIBAIDCArDCCDGACAbGADHVBfCBBABAMAJAOGDEpCACFBACABCECBAOBhDHCCBAXAdDAC",
     "FBACABBBBbJACDGBBBbBBhDHCABBcEABACHxDABACDBEzJIBBlJAKDEAoFDCBEAgBJoBFCDIAJFCCuBMBBqHAB",
     "CBAtHGBFBAeDVCGBBBBsEFDABBBGBAuCBDABAjNBLBaCEFCXAtxHAGOyyQLDCasDEhCGioBAlCDdDALBxadBBz",
     "yGtBCWwUEDFIHCGeBDsFCdyCcCExBIAOAWEBOiaCGBQCGBBBEwDAeGGlOAjCDoTDuJBjJACAHBFAgSGfEGfact",
     "BrDyEfJ"]⟩,
   ⟨["hex", "hexdigit"],
    ["wBJHFaBFllsDJHFaBF"]⟩,
   ⟨["idc", "idcontinue"],
    ["wBJHZEABZvBAKABACAFWBeBBpRELOEHABARmEBBCDBAGEBABTBeDBiFBECjGBlBCAGoBIsBBABBBBBAIaBEDdB",
     "KFvCExDBHCJBSCAQgCCwDObCEACACtBSbBEKFXBGHwCByECJBSBHCBCVBGBADDCICBCDIAEBBECLKABACCBFEB",
     "CVBGBBBBBBCABEEBCCDAHDBAHPLCBIBCBVBGBBBECJBCBCCAPDCJJGBCBHCBCVBGBBBECICBCCHCEBBECJBAQB",
     "BFDCBDDBBABBDBDCDLEEDCBDCAGAOJQMBCBWBPCIBCBDHBBCBBCDCJQDBHBCBWBJBECIBCBDHBFCBDCJBCMMBC",
     "ByBBCBEFDHECJKFBCBRDXBIBACGDAEFBABHGJCBNfCFOBJnBBBABEBXBABWCEBABGBJCDgBAXBGJLABABAEJBj",
     "BETBRBjBJAfCvCGzCClBBAFACqBBuMBDCGBABDCoBBDCgBBDCGBABDCOBeCBDCoCCCJIOPQhDCFDvXCQBZFwCD",
     "KHVJVLTMMBCBBMfDDAEBCJhBCBKGkDHqBFrCKeBBLELKnBCELrBEZGKlBbBEkCBcBCKGJNAINBeBCLUyCDJRIM",
     "lEMdCIJDwBCKFqBCCQCBmBFnUCFClBCFCHBABABABeBCaCBGBADCBGDDCFEMFCBGPBxBBTAcBANAQMzBMEADLR",
     "AEACJBACFGABABABPCDFEEARoBbzDuIGIMlBBAFACdCHAPXJGBGBGBGBGBGBGBGBfBxTCZOBECEEhDCGBqDFqB",
     "BpDRfBwBPsTntJmCeugBpCtBCiKDbBUvBEJBkElBICyDCdDUcCEATzBMrCKJGXDABwBCjBMcBDmCOKGeBBcCJN",
     "CJGWDuCYCCPCEKFCFCFJGBGBqBBNGsEBBCJGrnQMWEwBcnMbOCbEmBGMEFLBMBEBABBBBBdEhByNSlCCbCoBLE",
     "PQPDBYCgBEBeFTJHZEABZKlDDFCFCFCCjBLBZBSBBBOCNiBsErCaCgFAaFcBDwBPAfBfBNdBFqBFdBCjBEHBEq",
     "BbGCJGjBEjBEnBIzBMKBOBGBBBKBOBGBBDzBMyLJVKHYFBpBBIrCFCABrBBBDACWKWJeBnCSBBKVKZGZmBdCGB",
     "mCDBBFHBCBcBCCEAgBcBDcBjBHBdBZbCKVKSNRgEuCdCyBNyBNnBIJGlBDEBWqJpBBBDBQFyBiBKAIgBfBVqBU",
     "bBWJsCfBPJhCHANYHJGaCBJEDIjBCAJqCEDBMBAjBRBkBGDkCGBABDBOBJHgCFJGDBHCBCVBGBBBEBJCBCCCAG",
     "AFGCGDELJBACABlBBJBACABDBHNBdBwCFJEDeBrCBAIJkGbCCIXFiBmCDALJmBeCHJGTcBaBCOEJGGdHgCxDvC",
     "VHCACHBBBdBBBCIMJsCHCtBCHBBbBkCIAIvCDASuCzDHkDgBPJGIBsBBIPJYdBCVBNvCGBBBrBDABBBIIJGFBB",
     "BkBBBBFHJGrBEJmJWJQBoBDENKhDAbDljByDgERnHkxDsDPfpBQVKqxFFkWddKfCsoCwVHeBBJGaDBJGdBCELc",
     "CJDMJJUFSqQsBDJqHlCgBYCYsBwCEeCHQmCBBBLGJxxKpBfBtDkErwMDBGBBBeLPAdBCCAODIfPukDcEFMDIHJ",
     "DBreGJyTtBCWwUEDFIHCGeBDsFCbRgDBsCBBCACBCDBLBABGBmCBDCHBGBbBBDBEBADGBbNCYBYBeBBYBeBBYB",
     "eBBYBeBBYBHCxBsTcCExBIAOAWEBOmqBeBGFfIGBQCGBBBEFjChBAiEsBDNCJEAjMeBRfCcSpBgIqBpHeBBVIB",
     "qIGBDBBBOBoHLGpBxCEJutBDBaBBBBACABJBDBABAGAEABABABCBBBACABABABABABBBACDBGBDBDBABJBQFCB",
     "EBQaaFJqnBbflCgBnmGCboICkbLPxXwqDvUyfCyhHFnoMyxgoBfJ"]⟩,
   ⟨["ideo", "ideographic"],
    ["weSBZIOCdlBntJmCjbfBishBbOCbEkisBANEJxxKpBfBtDkEllNfPiedBbflCgBnmGCboICkbLPxXwqDvUyfCy",
     "hHFnoM"]⟩,
   ⟨["ids", "idstart"],
    ["nCZGZvBAKAEAFWBeBBpRELOEHABAzEEBBCDBAGABCBABTBeDBiFIjGBlBCAGoBtCaBEDtBqBjBBBuDBAPBHBKC",
     "CAQABdBdBkDLAYgBJBEAFVEAJADAXYHKFXBGQpBgCbCDASAHJPPEHCBCVBGBADDDAQANBBCOBKAIFEBCVBGBBB",
     "BBBfBDBATCQIBCBVBGBBBEDASAPBXALHCBCVBGBBBEDAeBBBCPARABFDCBDDBBABBDBDCDLWAaCHBCBWBPDAaB",
     "CBBCBeBAEHBCBWBJBEDAeBCBBPBRIBCBoBCAQAFCICYFFRDXBIBACGgCvBBBMGgCBBABEBXBABJBBJACEBAVDg",
     "BAlCHBjBbBElEqBUAQFEDDADBHCEMMARlBBAFACqBBuMBDCGBABDCoBBDCgBBDCGBABDCOBeCBDCoClBPQhDCF",
     "DvXCQBZFwCDKHRNSOROMBCPzBjBAEApCkDHoBBAFrCKeBxBdBCELrBEZcCWJaCeDApDuBRHcCdBNBKrBaBjBpB",
     "CKjBCKFqBCCpBDBFBBDAFjHmCrKCFClBCFCHBABABABeBCaCBGBADCBGDDCFEMFCBGmEANAQMxDAEACJBACFGA",
     "BABABPCDFEEARoBbzDuIGDDBMlBBAFACdCHAQWJGBGBGBGBGBGBGBGeVCZIHECEEhDEEBlDBDFqBBpDRfBwBPs",
     "TntJmCeugBpCtBCiKDPKBUuBQeBCbDnBICyDCdDUQBCBDBWdBzBOxBkCFDABBLbBKWZcBHuBcBAQEBJKEBoBXC",
     "BHUWDADxBBADBCECABAYCCKHCMFCFCFJGBGBqBBNGkEdBrnQMWEwBcnMbOCbEmBGMEFABJBMBEBABBBBBdEhBy",
     "NSlCCbCoBLmEEBeFkBZGZLkDDFCFCFCCjBLBZBSBBBOCNiBsErCaChKcBDwBvBfBNdBFlBKdBCjBEHBEqBbGSj",
     "BEjBEnBIzBMKBOBGBBBKBOBGBBDzBMyLJVKHYFBpBBIrCFCABrBBBDACWKWJeBnCSBBKVKZGZmBdCGBmCAPDBC",
     "BcBqBcBDcBjBHBbBbBbCKVKSNRgEuCdCyBNyBNjBmBbBJWqJpBGBQFeCcBKAIVqBRuBUbBWMaCfCBCANsBgBYa",
     "BjBdBACAIiBDAMvBODVABAjBRBYTBlCGBABDBOBJHuBmBHCBCVBGBBBEDASAMEeBJBACABlBBAZABAsBaCSDUC",
     "eBvBUBBAcHuBpBDkBvBUAhCqBNAtCaBlBGdHrBmElCfBHCACHBBBXPABAqDHCmBQABAcBAKnBHAVALtBTASuCr",
     "HgBfBIBkBRAxBdBiEGBBBlBVAZFBBBfBOAXrBaKSPABMBhBuEAbDljByDgERnHkxDsDPfpBRFZqxFFkWddKdBu",
     "pCwVHeBRaDRdBSvBQDfBUFSqQsBdIlCgBYCYsBwCFAoCMmCBBAOEJxxKpBfBtDkErwMDBGBBBeLPAdBCCAODIf",
     "PukDcEFMDIHJkwIgDBsCBBCACBCDBLBABGBmCBDCHBGBbBBDBEBADGBbNCYBYBeBBYBeBBYBeBBYBeBBYBHysC",
     "eBGFbKjCqFsBKGQAjMdBSrBqSbBuIdBCAzHeBBCBBBGCEJBqIGBDBBBOBoHhCpCHAiuBDBaBBBBACABJBDBABA",
     "GAEABABABCBBBACABABABABABBBACDBGBDBDBABJBQFCBEBQaoGbflCgBnmGCboICkbLPxXwqDvUyfCyhHFnoM"]⟩,
   ⟨["idsb", "idsbinaryoperator"],
    ["aeSBCJdTA"]⟩,
   ⟨["idst", "idstrinaryoperator"],
    ["ceSB"]⟩,
   ⟨["joinc", "joincontrol"],
    ["odMB"]⟩,
   ⟨["loe", "logicalorderexception"],
    ["ikFEtEEsdECCAmxcCBCABB"]⟩,
   ⟨["lower", "lowercase"],
    ["tDZvBAKAEAkBXBHBABABABABABABABABABABABABABABABABABABABABABABABABABABABBBABABABABABABAB",
     "BBABABABABABABABABABABABABABABABABABABABABABABACABABCCABACADBEACADCCACABABACABBBACADAB",
     "ACBCCGACACABABABABABABABABBBABABABABABABABABBCABADABABABABABABABABABABABABABABABABABAB",
     "ABABABABABABABABABABABGCACBBAEABABABABqCCiBHBeBEsDArBABADACDSAbBiBBBDCBABABABABABABABA",
     "BABABABEBACACBzBvBBABABABABABABABABABABABABABABABABAJABABABABABABABABABABABABABABABABA",
     "BABABABABABABABABABACABABABABABABBBABABABABABABABABABABABABABABABABABABABABABABABABABA",
     "BABABABABABABABABABABABABABABABABABABABABABAwBoBbhEqBBDgdBFufDIBAnEjHnCABABABABABABABA",
     "BABABABABABABABABABABABABABABABABABABABABABABABABABABABABABABABABABABABABABABABABABABA",
     "BABABABABABABABABABABABABABABABABABABABABABABABIBABABABABABABABABABABABABABABABABABABA",
     "BABABABABABABABABABABABABABABABABABABABABABABABABABABABABABIIFKHIHIFKHIHINCHIHIHIEBBGA",
     "DCBBIDCBIHKCBBrEANAQMfEADBDAbBAEAEACBIDEAhBPEAlgBZqtCvBBADBBABABAEABBBHDABABABABABABAB",
     "ABABABABABABABABABABABABABABABABABABABABABABABABABABABABABABABABABABABABABABABABABABBH",
     "ABAEAMlBBAFAdwtBABABABABABABABABABABABABABABABABABABABABABABATABABABABABABABABABABABAB",
     "ABCdFABABABABABABCBABABABABABABABABABABABABABABABABABABABABABABABABABABABABABABJBABACA",
     "BABABABAEABACABCBABABABABABABABABABAFAFABABABABABABABAEABACABABABABABABABAVDBABCpfBqBB",
     "NGbDiaeBGMEzoBZhvBnBgFjBzFKBOBGBBjRACCBpBBIlxByBvEVogEfBwjgBfBhCYejmBZaBGBRaBZaBDBABGB",
     "KaBZaBZaBZaBZaBZaBZaBZaBZaBbBcBYBFaBYBFaBYBFaBYBFaBYBFBAysCJBTGFbKjCshDhB"]⟩,
   ⟨["math"],
    ["rBAQCfBAdBABAtBAEAlBAfBAacBCCAaBBCChUCnwJAbBCLADANAODVELEnCMEADBEESAEACJBACFGADBCBBCBF",
     "DNBAqCXBFBBEBEfBBAGBOhKIDUBmDAeBaBBAYALGdRBMJEFEBCBDEOABACFLHFBfCABAdBDJCyMlCwJrTwBUCF",
     "qsaDArfBFBAgGAQCdBABAdBABAbFAGDfeFBagvCAvxBgDBsCBBCACBCDBLBABGBmCBDCHBGBbBBDBEBADGBbNC",
     "fLCxBqiIDBaBBBBACABJBDBABAGAEABABABCBBBACABABABABABBBACDBGBDBDBABJBQFCBEBQaCBetDI"]⟩,
   ⟨["nchar", "noncharactercodepoint"],
    ["cdsDfBgUBoysDBoysDBoysDBoysDBoysDBoysDBoysDBoysDBoysDBoysDBoysDBoysDBoysDBoysDBoysDBoy",
     "sDB"]⟩,
   ⟨["patsyn", "patternsyntax"],
    ["hBOKGaBDBAaBDiBGBABBBABBEAEADAXAfBAeuLXIOCSBJtLrbBeGfYeBnrBsTxEvOCEYPAzqzCBbKB"]⟩,
   ⟨["patws", "patternwhitespace"],
    ["JESAwDAmyLBYB"]⟩,
   ⟨["qmark", "quotationmark"],
    ["iBAEAbFAPAuwLHZBdiFApRDNCpbaDDhHAEAmDB"]⟩,
   ⟨["radical"],
    ["wpRZBkDMfI"]⟩,
   ⟨["ri", "regionalindicator"],
    ["kogHZ"]⟩,
   ⟨["sd", "softdotted"],
    ["bEBoHAvKAeBAaCAUAiMAuDABAnmJAzBANADAcFAbGAfQAgIBggEAhleGByBByBByBByBByBByBByBByBByBByB",
     "ByBByBByfDAtLBaBA"]⟩,
   ⟨["sterm", "sentenceterminal"],
    ["hBAMAQAbaCArFCyGArBCmJAjCABADBhLBwpCBkeBAEBtdBAqHBbGBtBAFAcMBqNDgGBKBCBdBCfHBnCBwjBAXB",
     "JCxuECuLANAWBnQAwhsBAkKBtIADAsOBiDBrDAwFBrFCoFBpJAwcfBACBhCADBnGAMAQAnCAwdEBdxBEsBDhHB",
     "nEDxECzEBGAQBkDBBBeEAmLBnEBjOBFObEBpJCxTABArJBjDBeQBqaBBwCBbmcBBdFAnCBLAhVBkLAgodBAmiL",
     "A"]⟩,
   ⟨["term", "terminalpunctuation"],
    ["hBAKABALBDAyfBAIAtTAfCAuCAOABCyGArBKBAbJBcCFBHfBAbKBuwBBqGAEFzLBjeBHtdBAuECtCBbGCDAnBD",
     "CBcMBqNDgGBKBBCdBCfHEkCBwjBAXBJCxuECuLANAEAKABBDBmQBvhsBBjKCtIEsOBiDBrDAvFCrFCxEAQBpJA",
     "wcfBACBfCCBDnGAKABALBDAnCACAqpBAwBAosBArHAyLBwFFqCFlDDqkBEsBDhHGiEDxECzEBGAQBkDEeEAmLB",
     "nECMBuNDDObEBpJCxTABArJBjDBEByPCtBAvYBwCBxyBEzmaBBdFAnCCKAhVBjLBgodBAliLD"]⟩,
   ⟨["uideo", "unifiedideograph"],
    ["asTntJmCjbfBsciBBBABBKABABBCCcevDbflCgBnmGCboICkbLPxXqrGyhHFnoM"]⟩,
   ⟨["upper", "uppercase"],
    ["nCZxDWBGhBABABABABABABABABABABABABABABABABABABABABABABABABABABABACABABABABABABABACABAB",
     "ABABABABABABABABABABABABABABABABABABABABABBBABADBBABBBCCDBBBCDBBBBABABBBACABBBCBABBDAH",
     "ACACACABABABABABABABACABABABABABABABABACACABCBABABABABABABABABABABABABABABABABABABABAB",
     "ABABABABABABABABAHBBBCABDBABABABAdLABADAIAGABCBABBBQBIjBACCDABABABABABABABABABABABAFAC",
     "ABBCyBwBABABABABABABABABABABABABABABABABAJABABABABABABABABABABABABABABABABABABABABABAB",
     "ABABABABABBBABABABABABACABABABABABABABABABABABABABABABABABABABABABABABABABABABABABABAB",
     "ABABABABABABABABABABABABABABABABAClBdhElBBAFAubBhDlgDAGqBCCiMABABABABABABABABABABABABA",
     "BABABABABABABABABABABABABABABABABABABABABABABABABABABABABABABABABABABABABABABABABABABA",
     "BABABABABABABABABABABABABABABABABABABAJABABABABABABABABABABABABABABABABABABABABABABABA",
     "BABABABABABABABABABABABABABABABABABABABABABABABABAJHIFKHIHIFLABABABAIHuCDMDMDMELDcKAEA",
     "DCCCCADEGABABABDCDKBFAaBPTAmfBZusCvBwBABCCABABABDBACAICBABABABABABABABABABABABABABABAB",
     "ABABABABABABABABABABABABABABABABABABABABABABABABABABABABABABABABABAIABAEAjytBABABABABA",
     "BABABABABABABABABABABABABABABABABABATABABABABABABABABABABABABABAfFABABABABABABADABABAB",
     "ABABABABABABABABABABABABABABABABABABABABABABABABABABABAKABABBBABABABAEABACABADABABABAB",
     "ABABABABABABEBEBABABABABABABABDBABBBABABABABABABABAYAhahBZzuBnBgFjBaGKBOBGBBcqCyBbGVog",
     "EfBwjgBfBmCYfjmBZaBZaBZaBABBCACBCDBHaBZaBBBDCHBGbBBBDBEBADGbBZaBZaBZaBZaBZaBZeBYhBYhBY",
     "hBYhBYhBAlnGhBibDZGZGZ"]⟩,
   ⟨["vs", "variationselector"],
    ["tcJCBAacjDPyknwBfJ"]⟩,
   ⟨["wspace", "whitespace", "space"],
    ["JESAwDAaBAjhIAnpDKdBBFAvBAwxFA"]⟩,
   ⟨["xidc", "xidcontinue"],
    ["wBJHZEABZvBAKABACAFWBeBBpRELOEHABARmEBBDCBAGEBABTBeDBiFBECjGBlBCAGoBIsBBABBBBBAIaBEDdB",
     "KFvCExDBHCJBSCAQgCCwDObCEACACtBSbBEKFXBGHwCByECJBSBHCBCVBGBADDCICBCDIAEBBECLKABACCBFEB",
     "CVBGBBBBBBCABEEBCCDAHDBAHPLCBIBCBVBGBBBECJBCBCCAPDCJJGBCBHCBCVBGBBBECICBCCHCEBBECJBAQB",
     "BFDCBDDBBABBDBDCDLEEDCBDCAGAOJQMBCBWBPCIBCBDHBBCBBCDCJQDBHBCBWBJBECIBCBDHBFCBDCJBCMMBC",
     "ByBBCBEFDHECJKFBCBRDXBIBACGDAEFBABHGJCBNfCFOBJnBBBABEBXBABWCEBABGBJCDgBAXBGJLABABAEJBj",
     "BETBRBjBJAfCvCGzCClBBAFACqBBuMBDCGBABDCoBBDCgBBDCGBABDCOBeCBDCoCCCJIOPQhDCFDvXCQBZFwCD",
     "KHVJVLTMMBCBBMfDDAEBCJhBCBKGkDHqBFrCKeBBLELKnBCELrBEZGKlBbBEkCBcBCKGJNAINBeBCLUyCDJRIM",
     "lEMdCIJDwBCKFqBCCQCBmBFnUCFClBCFCHBABABABeBCaCBGBADCBGDDCFEMFCBGPBxBBTAcBANAQMzBMEADLR",
     "AEACJBACFGABABABPCDFEEARoBbzDuIGIMlBBAFACdCHAPXJGBGBGBGBGBGBGBGBfBxTCZOBECEEhDCBCCBqDF",
     "qBBpDRfBwBPsTntJmCeugBpCtBCiKDbBUvBEJBkElBICyDCdDUcCEATzBMrCKJGXDABwBCjBMcBDmCOKGeBBcC",
     "JNCJGWDuCYCCPCEKFCFCFJGBGBqBBNGsEBBCJGrnQMWEwBcnMbOCbEmBGMEFLBMBEBABBBBBdEhBiFGjISlCCb",
     "CoBJGPQPDBYChBABADABABABABvETJHZEABZKlDDFCFCFCCjBLBZBSBBBOCNiBsErCaCgFAaFcBDwBPAfBfBNd",
     "BFqBFdBCjBEHBEqBbGCJGjBEjBEnBIzBMKBOBGBBBKBOBGBBDzBMyLJVKHYFBpBBIrCFCABrBBBDACWKWJeBnC",
     "SBBKVKZGZmBdCGBmCDBBFHBCBcBCCEAgBcBDcBjBHBdBZbCKVKSNRgEuCdCyBNyBNnBIJGlBDEBWqJpBBBDBQF",
     "yBiBKAIgBfBVqBUbBWJsCfBPJhCHANYHJGaCBJEDIjBCAJqCEDBMBAjBRBkBGDkCGBABDBOBJHgCFJGDBHCBCV",
     "BGBBBEBJCBCCCAGAFGCGDELJBACABlBBJBACABDBHNBdBwCFJEDeBrCBAIJkGbCCIXFiBmCDALJmBeCHJGTcBa",
     "BCOEJGGdHgCxDvCVHCACHBBBdBBBCIMJsCHCtBCHBBbBkCIAIvCDASuCzDHkDgBPJGIBsBBIPJYdBCVBNvCGBB",
     "BrBDABBBIIJGFBBBkBBBBFHJGrBEJmJWJQBoBDENKhDAbDljByDgERnHkxDsDPfpBQVKqxFFkWddKfCsoCwVHe",
     "BBJGaDBJGdBCELcCJDMJJUFSqQsBDJqHlCgBYCYsBwCEeCHQmCBBBLGJxxKpBfBtDkErwMDBGBBBeLPAdBCCAO",
     "DIfPukDcEFMDIHJDBreGJyTtBCWwUEDFIHCGeBDsFCbRgDBsCBBCACBCDBLBABGBmCBDCHBGBbBBDBEBADGBbN",
     "CYBYBeBBYBeBBYBeBBYBeBBYBHCxBsTcCExBIAOAWEBOmqBeBGFfIGBQCGBBBEFjChBAiEsBDNCJEAjMeBRfCc",
     "SpBgIqBpHeBBVIBqIGBDBBBOBoHLGpBxCEJutBDBaBBBBACABJBDBABAGAEABABABCBBBACABABABABABBBACD",
     "BGBDBDBABJBQFCBEBQaaFJqnBbflCgBnmGCboICkbLPxXwqDvUyfCyhHFnoMyxgoBfJ"]⟩,
   ⟨["xids", "xidstart"],
    ["nCZGZvBAKAEAFWBeBBpRELOEHABAzEEBBDCBAGABCBABTBeDBiFIjGBlBCAGoBtCaBEDtBqBjBBBuDBAPBHBKC",
     "CAQABdBdBkDLAYgBJBEAFVEAJADAXYHKFXBGQpBgCbCDASAHJPPEHCBCVBGBADDDAQANBBCOBKAIFEBCVBGBBB",
     "BBBfBDBATCQIBCBVBGBBBEDASAPBXALHCBCVBGBBBEDAeBBBCPARABFDCBDDBBABBDBDCDLWAaCHBCBWBPDAaB",
     "CBBCBeBAEHBCBWBJBEDAeBCBBPBRIBCBoBCAQAFCICYFFRDXBIBACGgCvBBANGgCBBABEBXBABJBAKACEBAVDg",
     "BAlCHBjBbBElEqBUAQFEDDADBHCEMMARlBBAFACqBBuMBDCGBABDCoBBDCgBBDCGBABDCOBeCBDCoClBPQhDCF",
     "DvXCQBZFwCDKHRNSOROMBCPzBjBAEApCkDHoBBAFrCKeBxBdBCELrBEZcCWJaCeDApDuBRHcCdBNBKrBaBjBpB",
     "CKjBCKFqBCCpBDBFBBDAFjHmCrKCFClBCFCHBABABABeBCaCBGBADCBGDDCFEMFCBGmEANAQMxDAEACJBACFGA",
     "BABABPCDFEEARoBbzDuIGDDBMlBBAFACdCHAQWJGBGBGBGBGBGBGBGeVCZIHECEEhDGCBlDBDFqBBpDRfBwBPs",
     "TntJmCeugBpCtBCiKDPKBUuBQeBCbDnBICyDCdDUQBCBDBWdBzBOxBkCFDABBLbBKWZcBHuBcBAQEBJKEBoBXC",
     "BHUWDADxBBADBCECABAYCCKHCMFCFCFJGBGBqBBNGkEdBrnQMWEwBcnMbOCbEmBGMEFABJBMBEBABBBBBdEhBi",
     "FGjISlCCbCoBJpEABADABABABABvEkBZGZLdCCeBDFCFCFCCjBLBZBSBBBOCNiBsErCaChKcBDwBvBfBNdBFlB",
     "KdBCjBEHBEqBbGSjBEjBEnBIzBMKBOBGBBBKBOBGBBDzBMyLJVKHYFBpBBIrCFCABrBBBDACWKWJeBnCSBBKVK",
     "ZGZmBdCGBmCAPDBCBcBqBcBDcBjBHBbBbBbCKVKSNRgEuCdCyBNyBNjBmBbBJWqJpBGBQFeCcBKAIVqBRuBUbB",
     "WMaCfCBCANsBgBYaBjBdBACAIiBDAMvBODVABAjBRBYTBlCGBABDBOBJHuBmBHCBCVBGBBBEDASAMEeBJBACAB",
     "lBBAZABAsBaCSDUCeBvBUBBAcHuBpBDkBvBUAhCqBNAtCaBlBGdHrBmElCfBHCACHBBBXPABAqDHCmBQABAcBA",
     "KnBHAVALtBTASuCrHgBfBIBkBRAxBdBiEGBBBlBVAZFBBBfBOAXrBaKSPABMBhBuEAbDljByDgERnHkxDsDPfp",
     "BRFZqxFFkWddKdBupCwVHeBRaDRdBSvBQDfBUFSqQsBdIlCgBYCYsBwCFAoCMmCBBAOEJxxKpBfBtDkErwMDBG",
     "BBBeLPAdBCCAODIfPukDcEFMDIHJkwIgDBsCBBCACBCDBLBABGBmCBDCHBGBbBBDBEBADGBbNCYBYBeBBYBeBB",
     "YBeBBYBeBBYBHysCeBGFbKjCqFsBKGQAjMdBSrBqSbBuIdBCAzHeBBCBBBGCEJBqIGBDBBBOBoHhCpCHAiuBDB",
     "aBBBBACABJBDBABAGAEABABABCBBBACABABABABABBBACDBGBDBDBABJBQFCBEBQaoGbflCgBnmGCboICkbLPx",
     "XwqDvUyfCyhHFnoM"]⟩]

/-- Names of properties that are known but cannot be asked for by themselves. -/
def otherProperties : List String :=
  ["age", "compex", "fullcompositionexclusion", "cwkcf", "changeswhennfkccasefolded",
   "grlink", "hyphen", "pcm", "prependedconcatenationmark", "blk", "block", "bc",
   "bidiclass", "ccc", "canonicalcombiningclass", "dt", "decompositiontype", "ea",
   "eastasianwidth", "gc", "generalcategory", "category", "gcb", "graphemeclusterbreak",
   "hst", "hangulsyllabletype", "inpc", "indicpositionalcategory", "insc",
   "indicsyllabiccategory", "jg", "joininggroup", "jt", "joiningtype", "lb", "linebreak",
   "nt", "numerictype", "nv", "numericvalue", "sc", "script", "scx", "scriptextensions",
   "sb", "sentencebreak", "vo", "verticalorientation", "wb", "wordbreak", "bmg",
   "bidimirroringglyph", "bpb", "bidipairedbracket", "bpt", "bidipairedbrackettype", "cf",
   "casefolding", "dm", "decompositionmapping", "lc", "lowercasemapping", "na", "name",
   "na1", "unicode1name", "slc", "simplelowercasemapping", "stc", "simpletitlecasemapping",
   "suc", "simpleuppercasemapping", "tc", "titlecasemapping", "uc", "uppercasemapping",
   "scf", "simplecasefolding", "sfc", "isc", "isocomment", "nfcqc", "nfcquickcheck",
   "nfdqc", "nfdquickcheck", "nfkcqc", "nfkcquickcheck", "nfkdqc", "nfkdquickcheck",
   "nfkccf", "nfkccasefold", "cjkaccountingnumeric"]

/-- The characters of a binary property, by a name in normal form. -/
def propertyRanges? (name : String) : Option Ranges :=
  (Property.find? name properties).map Property.ranges

end LuaSession.Unicode
