import LuaSession.Unicode.Ranges

/-!
# Simple case folding

Which characters are the same when case does not matter, by the simple foldings that map one
character to one. `foldMates` is a symmetric relation.
-/

namespace LuaSession.Unicode

/-- Every character with a mate, in order: the step from the one before, the number of its mates,
and for each the distance, doubled, or doubled and less one when it lies before. -/
def packedFolds : List String :=
  ["nCBmCBBmCBBmCBBmCBBmCBBmCBBmCBBmCBBmCBBmCBCmCixYBBmCBBmCBBmCBBmCBBmCBBmCBBmCBCmCcXBBmCBB",
   "mCBBmCBBmCBBmCBBmCBBmCHBlCBBlCBBlCBBlCBBlCBBlCBBlCBBlCBBlCBBlCBClCwuYBBlCBBlCBBlCBBlCBBl",
   "CBBlCBBlCBClCqUBBlCBBlCBBlCBBlCBBlCBBlCBBlChCCefCqhCLBmCBBmCBBmCBBmCBBmCBCmCaoYBBmCBBmCB",
   "BmCBBmCBBmCBBmCBBmCBBmCBBmCBBmCBBmCBBmCBBmCBBmCBBmCBBmCBBmCCBmCBBmCBBmCBBmCBBmCBBmCBBmCB",
   "BunWBBlCBBlCBBlCBBlCBBlCBClColYBBlCBBlCBBlCBBlCBBlCBBlCBBlCBBlCBBlCBBlCBBlCBBlCBBlCBBlCB",
   "BlCBBlCBBlCCBlCBBlCBBlCBBlCBBlCBBlCBBlCBBiJBBCBBBBBCBBBBBCBBBBBCBBBBBCBBBBBCBBBBBCBBBBBC",
   "BBBBBCBBBBBCBBBBBCBBBBBCBBBBBCBBBBBCBBBBBCBBBBBCBBBBBCBBBBBCBBBBBCBBBBBCBBBBBCBBBBBCBBBB",
   "BCBBBBBCBBBDBCBBBBBCBBBBBCBBBCBCBBBBBCBBBBBCBBBBBCBBBBBCBBBBBCBBBBBCBBBBBCBBBCBCBBBBBCBB",
   "BBBCBBBBBCBBBBBCBBBBBCBBBBBCBBBBBCBBBBBCBBBBBCBBBBBCBBBBBCBBBBBCBBBBBCBBBBBCBBBBBCBBBBBC",
   "BBBBBCBBBBBCBBBBBCBBBBBCBBBBBCBBBBBCBBBBBhJBBCBBBBBCBBBBBCBBBBCbXpUBBaPBBeQBBCBBBBBCBBBB",
   "BwPBBCBBBBBuPBBuPBBCBBBCBcGBBoPBBqPBBCBBBBBuPBByPBBmHBBgQBBcQBBCBBBBBoMBByxvEBBgQBBkQBBa",
   "KBBmQBBCBBBBBCBBBBBCBBBBBuQBBCBBBBBuQDBCBBBBBuQBBCBBBBBsQBBsQBBCBBBBBCBBBBBwQBBCBBBDBCBB",
   "BCBiEFCCEBCBCBCDBBCCEBCBCBCDBBCCEBCBCBCDBBBCBBBBBCBBBBBCBBBBBCBBBBBCBBBBBCBBBBBCBBBBBCBB",
   "BBBbGBBCBBBBBCBBBBBCBBBBBCBBBBBCBBBBBCBBBBBCBBBBBCBBBBBCBBBCCCEBCBCBCDBBBCBBBBBlHBBhEBBC",
   "BBBBBCBBBBBCBBBBBCBBBBBCBBBBBCBBBBBCBBBBBCBBBBBCBBBBBCBBBBBCBBBBBCBBBBBCBBBBBCBBBBBCBBBB",
   "BCBBBBBCBBBBBCBBBBBCBBBBBCBBBBBzJCBCBBBBBCBBBBBCBBBBBCBBBBBCBBBBBCBBBBBCBBBBBCBBBBBCBBBH",
   "BkyfBBBCBBBBBnMBBeyfBBByzfBBByzfBBBCBBBBBzOBBiFBBmFBBCBBBBBCBBBBBCBBBBBCBBBBBCBBBBBmxfBB",
   "BgxfBBBkxfBBBdQBBvPCBtPBBtPCBnPCBpPBBifvEEBtPBBafvECBxPBBehvEBBicvEBBmevECBbQBBfQBBmevEB",
   "BkufBBBgevEDBfQCBwufBBBjQDBlQIBetfBDBtQCBkevEBBtQEBmcvEBBtQBBhFBBrQBBrQBBlFGBvQLBwavEBBq",
   "avElGDmGyIsoVrBBCBBBBBCBBBDBCBBBEBaKBBaKBBaKCByIHByCCBwCBBwCBBwCCByECBwEBBwEBBokVBBmCBCm",
   "CuEBBmCBBmCBCmCkHBBmCBBmCBDmCkEcHBDlGmCgiVBCmCqGBBmCBCdfCmCBBmCBBmCBBmCBCmCeEBCmCeGCCkCm",
   "CBBmCBBmCBCmCqDBBmCBBmCBCmCsiWBBmCBBmCBBxCBBvCBBvCBBvCBBijVBBlCBClCiCBBlCBBlCBClCyEBBlCB",
   "BlCBDlCyBqEBDxIlCufVBClCeEBBlCBCphClCBBlCBBlCBBlCBClCsBBClCsDBCjCCBClCBBBlCBBlCBClCeBBBl",
   "CBBlCBClCggWBBlCBBlCBBxEBBvEBBvEBBQBCtEhCBDjExBsCECpDdBBCdErBBBPBBCBBBBBCBBBBBCBBBBBCBBB",
   "BBCBBBBBCBBBBBCBBBBBCBBBBBCBBBBBCBBBBBCBBBBBCBBBBCpGdEBCdGrDBBOBBxIBDbHpErCBCjHxECBCBBBB",
   "BNBBCBBBCBzJBBzJBBzJBBeGBBeGBBeGBBeGBBeGBBeGBBeGBBeGBBeGBBeGBBeGBBeGBBeGBBeGBBeGBBeGBBmC",
   "BBmCBCmCcnSBBmCBCmCanSBBmCBBmCBBmCBBmCBBmCBBmCBBmCBBmCBBmCBCmCimSBBmCBBmCBCmCemSBDmCemSg",
   "mSBBmCBBmCBBmCBBmCBBmCBBmCBBmCBCmCslSBBmCBBmCBBmCBBmCBBmCBBlCBBlCBClCqkSBBlCBClCokSBBlCB",
   "BlCBBlCBBlCBBlCBBlCBBlCBBlCBBlCBClCwjSBBlCBBlCBClCsjSBDlCsjSujSBBlCBBlCBBlCBBlCBBlCBBlCB",
   "BlCBClCgjSBBlCBBlCBBlCBBlCBBlCBBdGBBdGBBdGBBdGBBdGBBdGBBdGBBdGBBdGBBdGBBdGBBdGBBdGBBdGBB",
   "dGBBdGBBCBBBBCCmhSBCBkhSBBCBBBBBCBBBBBCBBBBBCBBBBBCBBBBBCBBBBBCBBBBBCBBBBBCBBBBBCBBBBBCB",
   "BBBBCBBBBBCBBBBBCBBBBBCBBBJBCBBBBBCBBBBBCBBBBBCBBBBBCBBBBBCBBBBBCBBBBBCBBBBBCBBBBBCBBBBB",
   "CBBBBBCBBBBBCBBBBBCBBBBBCBBBBBCBBBBBCBBBBBCBBBBBCBBBBBCBBBBBCBBBBBCBBBBBCBBBBBCBBBBBCBBB",
   "BBCBBBBBCBBBBBeBBBCBBBBBCBBBBBCBBBBBCBBBBBCBBBBBCBBBBBCBBBBBdBBBCBBBBBCBBBBBCBBBBBCBBBBB",
   "CBBBBBCBBBBBCBBBBBCBBBBBCBBBBBCBBBBBCBBBBBCBBBBBCBBBBBCBBBBBCBBBBBCBBBBBCBBBBBCBBBBBCBBB",
   "BBCBBBBBCBBBBBCBBBBBCBBBBBCBBBBBCBBBBBCBBBBBCBBBBBCBBBBBCBBBBBCBBBBBCBBBBBCBBBBBCBBBBBCB",
   "BBBBCBBBBBCBBBBBCBBBBBCBBBBBCBBBBBCBBBBBCBBBBBCBBBBBCBBBBBCBBBBBCBBBBBCBBBBBCBBBBBCBBBCB",
   "sDBBsDBBsDBBsDBBsDBBsDBBsDBBsDBBsDBBsDBBsDBBsDBBsDBBsDBBsDBBsDBBsDBBsDBBsDBBsDBBsDBBsDBB",
   "sDBBsDBBsDBBsDBBsDBBsDBBsDBBsDBBsDBBsDBBsDBBsDBBsDBBsDBBsDBBsDLBrDBBrDBBrDBBrDBBrDBBrDBB",
   "rDBBrDBBrDBBrDBBrDBBrDBBrDBBrDBBrDBBrDBBrDBBrDBBrDBBrDBBrDBBrDBBrDBBrDBBrDBBrDBBrDBBrDBB",
   "rDBBrDBBrDBBrDBBrDBBrDBBrDBBrDBBrDBBrDifEBumVBBumVBBumVBBumVBBumVBBumVBBumVBBumVBBumVBBu",
   "mVBBumVBBumVBBumVBBumVBBumVBBumVBBumVBBumVBBumVBBumVBBumVBBumVBBumVBBumVBBumVBBumVBBumVB",
   "BumVBBumVBBumVBBumVBBumVBBumVBBumVBBumVBBumVBBumVBBumVCBumVGBumVDBkxIBBkxIBBkxIBBkxIBBkx",
   "IBBkxIBBkxIBBkxIBBkxIBBkxIBBkxIBBkxIBBkxIBBkxIBBkxIBBkxIBBkxIBBkxIBBkxIBBkxIBBkxIBBkxIBB",
   "kxIBBkxIBBkxIBBkxIBBkxIBBkxIBBkxIBBkxIBBkxIBBkxIBBkxIBBkxIBBkxIBBkxIBBkxIBBkxIBBkxIBBkxI",
   "BBkxIBBkxIBBkxIDBkxIBBkxIBBkxIxZBozkEBBozkEBBozkEBBozkEBBozkEBBozkEBBozkEBBozkEBBozkEBBo",
   "zkEBBozkEBBozkEBBozkEBBozkEBBozkEBBozkEBBozkEBBozkEBBozkEBBozkEBBozkEBBozkEBBozkEBBozkEB",
   "BozkEBBozkEBBozkEBBozkEBBozkEBBozkEBBozkEBBozkEBBozkEBBozkEBBozkEBBozkEBBozkEBBozkEBBozk",
   "EBBozkEBBozkEBBozkEBBozkEBBozkEBBozkEBBozkEBBozkEBBozkEBBozkEBBozkEBBozkEBBozkEBBozkEBBo",
   "zkEBBozkEBBozkEBBozkEBBozkEBBozkEBBozkEBBozkEBBozkEBBozkEBBozkEBBozkEBBozkEBBozkEBBozkEB",
   "BozkEBBozkEBBozkEBBozkEBBozkEBBozkEBBozkEBBozkEBBozkEBBozkEBBozkEBBozkEBBQBBQBBQBBQBBQBB",
   "QDBPBBPBBPBBPBBPBBPvfDCbnSpkSBCzmSnkSBChmSvjSBCdmSrjSBDdmSrjSCBDfmStjSBBCrlSfjSBClhSjhSB",
   "CuiaEwiaEBBCBBBGBjxIBBjxIBBjxIBBjxIBBjxIBBjxIBBjxIBBjxIBBjxIBBjxIBBjxIBBjxIBBjxIBBjxIBBj",
   "xIBBjxIBBjxIBBjxIBBjxIBBjxIBBjxIBBjxIBBjxIBBjxIBBjxIBBjxIBBjxIBBjxIBBjxIBBjxIBBjxIBBjxIB",
   "BjxIBBjxIBBjxIBBjxIBBjxIBBjxIBBjxIBBjxIBBjxIBBjxIBBjxIDBjxIBBjxIBBjxIeHBwnaEEBkhLRBwraEk",
   "EBCBBBBBCBBBBBCBBBBBCBBBBBCBBBBBCBBBBBCBBBBBCBBBBBCBBBBBCBBBBBCBBBBBCBBBBBCBBBBBCBBBBBCB",
   "BBBBCBBBBBCBBBBBCBBBBBCBBBBBCBBBBBCBBBBBCBBBBBCBBBBBCBBBBBCBBBBBCBBBBBCBBBBBCBBBBBCBBBBB",
   "CBBBBBCBBBBBCBBBBBCBBBBBCBBBBBCBBBBBCBBBBBCBBBBBCBBBBBCBBBBBCBBBBBCBBBBBCBBBBBCBBBBBCBBB",
   "BBCBBBBBCBBBBBCBBBBBCBBBBCCoEBCBmEBBCBBBBBCBBBBBCBBBBBCBBBBBCBBBBBCBBBBBCBBBBBCBBBBBCBBB",
   "BBCBBBBBCBBBBBCBBBBBCBBBBBCBBBBBCBBBBBCBBBBBCBBBBBCBBBBBCBBBBBCBBBBBCBBBBBCBBBBBCBBBBBCB",
   "BBBBCBBBBBCBBBGCnElEDBtnWCBCBBBBBCBBBBBCBBBBBCBBBBBCBBBBBCBBBBBCBBBBBCBBBBBCBBBBBCBBBBBC",
   "BBBBBCBBBBBCBBBBBCBBBBBCBBBBBCBBBBBCBBBBBCBBBBBCBBBBBCBBBBBCBBBBBCBBBBBCBBBBBCBBBBBCBBBB",
   "BCBBBBBCBBBBBCBBBBBCBBBBBCBBBBBCBBBBBCBBBBBCBBBBBCBBBBBCBBBBBCBBBBBCBBBBBCBBBBBCBBBBBCBB",
   "BBBCBBBBBCBBBBBCBBBBBCBBBBBCBBBBBCBBBBBCBBBBBCBBBBBQBBQBBQBBQBBQBBQBBQBBQBBPBBPBBPBBPBBP",
   "BBPBBPBBPBBQBBQBBQBBQBBQBBQDBPBBPBBPBBPBBPBBPDBQBBQBBQBBQBBQBBQBBQBBQBBPBBPBBPBBPBBPBBPB",
   "BPBBPBBQBBQBBQBBQBBQBBQBBQBBQBBPBBPBBPBBPBBPBBPBBPBBPBBQBBQBBQBBQBBQBBQDBPBBPBBPBBPBBPBB",
   "PEBQCBQCBQCBQCBPCBPCBPCBPBBQBBQBBQBBQBBQBBQBBQBBQBBPBBPBBPBBPBBPBBPBBPBBPBBsFBBsFBBqGBBq",
   "GBBqGBBqGBBsHBBsHBBwJBBwJBBqIBBqIBBsJBBsJDBQBBQBBQBBQBBQBBQBBQBBQBBPBBPBBPBBPBBPBBPBBPBB",
   "PBBQBBQBBQBBQBBQBBQBBQBBQBBPBBPBBPBBPBBPBBPBBPBBPBBQBBQBBQBBQBBQBBQBBQBBQBBPBBPBBPBBPBBP",
   "BBPBBPBBPBBQBBQCBSFBPBBPBBrFBBrFBBRCDroVfiVtfVFBSFBpGBBpGBBpGBBpGBBREBQBBQCBnkVFBPBBPBBr",
   "HBBrHFBQBBQCBhjVCBODBPBBPBBpIBBpIBBNHBSFBvJBBvJBBrJBBrJBBRmLCriWfgWEChxYvuYBCznYnlYHBeCc",
   "BBdCSBgBBBgBBBgBBBgBBBgBBBgBBBgBBBgBBBgBBBgBBBgBBBgBBBgBBBgBBBgBBBgBBBfBBBfBBBfBBBfBBBfB",
   "BBfBBBfBBBfBBBfBBBfBBBfBBBfBBBfBBBfBBBfBBBfBEBCBBBmfBBaCBBaCBBaCBBaCBBaCBBaCBBaCBBaCBBaC",
   "BBaCBBaCBBaCBBaCBBaCBBaCBBaCBBaCBBaCBBaCBBaCBBaCBBaCBBaCBBaCBBaCBBaCBBzBBBzBBBzBBBzBBBzB",
   "BBzBBBzBBBzBBBzBBBzBBBzBBBzBBBzBBBzBBBzBBBzBBBzBBBzBBBzBBBzBBBzBBBzBBBzBBBzBBBzBBBzBvrCB",
   "sDBBsDBBsDBBsDBBsDBBsDBBsDBBsDBBsDBBsDBBsDBBsDBBsDBBsDBBsDBBsDBBsDBBsDBBsDBBsDBBsDBBsDBB",
   "sDBBsDBBsDBBsDBBsDBBsDBBsDBBsDBBsDBBsDBBsDBBsDBBsDBBsDBBsDBBsDBBsDBBsDBBsDBBsDBBsDBBsDBB",
   "sDBBsDBBsDBBsDBBrDBBrDBBrDBBrDBBrDBBrDBBrDBBrDBBrDBBrDBBrDBBrDBBrDBBrDBBrDBBrDBBrDBBrDBB",
   "rDBBrDBBrDBBrDBBrDBBrDBBrDBBrDBBrDBBrDBBrDBBrDBBrDBBrDBBrDBBrDBBrDBBrDBBrDBBrDBBrDBBrDBB",
   "rDBBrDBBrDBBrDBBrDBBrDBBrDBBrDBBCBBBBBjufBBBjhLBBdtfBBBjyfBBBdyfBBBCBBBBBCBBBBBCBBBBBfxf",
   "BBBvufBBBlxfBBBjxfBCBCBBBCBCBBBIBxzfBBBxzfBBBCBBBBBCBBBBBCBBBBBCBBBBBCBBBBBCBBBBBCBBBBBC",
   "BBBBBCBBBBBCBBBBBCBBBBBCBBBBBCBBBBBCBBBBBCBBBBBCBBBBBCBBBBBCBBBBBCBBBBBCBBBBBCBBBBBCBBBB",
   "BCBBBBBCBBBBBCBBBBBCBBBBBCBBBBBCBBBBBCBBBBBCBBBBBCBBBBBCBBBBBCBBBBBCBBBBBCBBBBBCBBBBBCBB",
   "BBBCBBBBBCBBBBBCBBBBBCBBBBBCBBBBBCBBBBBCBBBBBCBBBBBCBBBBBCBBBBBCBBBBBCBBBBBCBBBIBCBBBBBC",
   "BBBEBCBBBNBtmVBBtmVBBtmVBBtmVBBtmVBBtmVBBtmVBBtmVBBtmVBBtmVBBtmVBBtmVBBtmVBBtmVBBtmVBBtm",
   "VBBtmVBBtmVBBtmVBBtmVBBtmVBBtmVBBtmVBBtmVBBtmVBBtmVBBtmVBBtmVBBtmVBBtmVBBtmVBBtmVBBtmVBB",
   "tmVBBtmVBBtmVBBtmVBBtmVCBtmVGBtmVdwtBBCBBBBBCBBBBBCBBBBBCBBBBBCBBBBCtiaECBCviaEBBBCBBBBB",
   "CBBBBBCBBBBBCBBBBBCBBBBBCBBBBBCBBBBBCBBBBBCBBBBBCBBBBBCBBBBBCBBBBBCBBBBBCBBBBBCBBBBBCBBB",
   "BBCBBBTBCBBBBBCBBBBBCBBBBBCBBBBBCBBBBBCBBBBBCBBBBBCBBBBBCBBBBBCBBBBBCBBBBBCBBBBBCBBBBBCB",
   "BBfFBCBBBBBCBBBBBCBBBBBCBBBBBCBBBBBCBBBBBCBBBDBCBBBBBCBBBBBCBBBBBCBBBBBCBBBBBCBBBBBCBBBB",
   "BCBBBBBCBBBBBCBBBBBCBBBBBCBBBBBCBBBBBCBBBBBCBBBBBCBBBBBCBBBBBCBBBBBCBBBBBCBBBBBCBBBBBCBB",
   "BBBCBBBBBCBBBBBCBBBBBCBBBBBCBBBBBCBBBBBCBBBBBCBBBBBCBBBKBCBBBBBCBBBBBvnaEBBCBBBBBCBBBBBC",
   "BBBBBCBBBBBCBBBEBCBBBBBhcvEDBCBBBBBCBBBBBsDCBCBBBBBCBBBBBCBBBBBCBBBBBCBBBBBCBBBBBCBBBBBC",
   "BBBBBCBBBBBCBBBBBlevEBBhfvEBBzevEBBfevEBBlevECBpavEBBlcvEBBvavEBBktCBBCBBBBBCBBBBBCBBBBB",
   "CBBBBBCBBBBBCBBBBBCBBBBBCBBBBBrDBBjevEBBvraEBBCBBBBBCBBBBBdhvEBBCBBBBBCBBBBBCBBBBBCBBBBB",
   "CBBBBBCBBBBBCBBBBBCBBBBBxxvEZBCBBBdhBBjtCdBBnzkEBBnzkEBBnzkEBBnzkEBBnzkEBBnzkEBBnzkEBBnz",
   "kEBBnzkEBBnzkEBBnzkEBBnzkEBBnzkEBBnzkEBBnzkEBBnzkEBBnzkEBBnzkEBBnzkEBBnzkEBBnzkEBBnzkEBB",
   "nzkEBBnzkEBBnzkEBBnzkEBBnzkEBBnzkEBBnzkEBBnzkEBBnzkEBBnzkEBBnzkEBBnzkEBBnzkEBBnzkEBBnzkE",
   "BBnzkEBBnzkEBBnzkEBBnzkEBBnzkEBBnzkEBBnzkEBBnzkEBBnzkEBBnzkEBBnzkEBBnzkEBBnzkEBBnzkEBBnz",
   "kEBBnzkEBBnzkEBBnzkEBBnzkEBBnzkEBBnzkEBBnzkEBBnzkEBBnzkEBBnzkEBBnzkEBBnzkEBBnzkEBBnzkEBB",
   "nzkEBBnzkEBBnzkEBBnzkEBBnzkEBBnzkEBBnzkEBBnzkEBBnzkEBBnzkEBBnzkEBBnzkEBBnzkEBBnzkEoaeBBC",
   "BBBloBBmCBBmCBBmCBBmCBBmCBBmCBBmCBBmCBBmCBBmCBBmCBBmCBBmCBBmCBBmCBBmCBBmCBBmCBBmCBBmCBBm",
   "CBBmCBBmCBBmCBBmCBBmCHBlCBBlCBBlCBBlCBBlCBBlCBBlCBBlCBBlCBBlCBBlCBBlCBBlCBBlCBBlCBBlCBBl",
   "CBBlCBBlCBBlCBBlCBBlCBBlCBBlCBBlCBBlCutBBcDBBcDBBcDBBcDBBcDBBcDBBcDBBcDBBcDBBcDBBcDBBcDB",
   "BcDBBcDBBcDBBcDBBcDBBcDBBcDBBcDBBcDBBcDBBcDBBcDBBcDBBcDBBcDBBcDBBcDBBcDBBcDBBcDBBcDBBcDB",
   "BcDBBcDBBcDBBcDBBcDBBcDBBbDBBbDBBbDBBbDBBbDBBbDBBbDBBbDBBbDBBbDBBbDBBbDBBbDBBbDBBbDBBbDB",
   "BbDBBbDBBbDBBbDBBbDBBbDBBbDBBbDBBbDBBbDBBbDBBbDBBbDBBbDBBbDBBbDBBbDBBbDBBbDBBbDBBbDBBbDB",
   "BbDBBbDtDBcDBBcDBBcDBBcDBBcDBBcDBBcDBBcDBBcDBBcDBBcDBBcDBBcDBBcDBBcDBBcDBBcDBBcDBBcDBBcD",
   "BBcDBBcDBBcDBBcDBBcDBBcDBBcDBBcDBBcDBBcDBBcDBBcDBBcDBBcDBBcDBBcDFBbDBBbDBBbDBBbDBBbDBBbD",
   "BBbDBBbDBBbDBBbDBBbDBBbDBBbDBBbDBBbDBBbDBBbDBBbDBBbDBBbDBBbDBBbDBBbDBBbDBBbDBBbDBBbDBBbD",
   "BBbDBBbDBBbDBBbDBBbDBBbDBBbDBBbDnEBaDBBaDBBaDBBaDBBaDBBaDBBaDBBaDBBaDBBaDBBaDCBaDBBaDBBa",
   "DBBaDBBaDBBaDBBaDBBaDBBaDBBaDBBaDBBaDBBaDBBaDBBaDCBaDBBaDBBaDBBaDBBaDBBaDBBaDCBaDBBaDCBz",
   "CBBzCBBzCBBzCBBzCBBzCBBzCBBzCBBzCBBzCBBzCCBzCBBzCBBzCBBzCBBzCBBzCBBzCBBzCBBzCBBzCBBzCBBz",
   "CBBzCBBzCBBzCCBzCBBzCBBzCBBzCBBzCBBzCBBzCCBzCBBzCqoCByEBByEBByEBByEBByEBByEBByEBByEBByEB",
   "ByEBByEBByEBByEBByEBByEBByEBByEBByEBByEBByEBByEBByEBByEBByEBByEBByEBByEBByEBByEBByEBByEB",
   "ByEBByEBByEBByEBByEBByEBByEBByEBByEBByEBByEBByEBByEBByEBByEBByEBByEBByEBByEBByEOBxEBBxEB",
   "BxEBBxEBBxEBBxEBBxEBBxEBBxEBBxEBBxEBBxEBBxEBBxEBBxEBBxEBBxEBBxEBBxEBBxEBBxEBBxEBBxEBBxEB",
   "BxEBBxEBBxEBBxEBBxEBBxEBBxEBBxEBBxEBBxEBBxEBBxEBBxEBBxEBBxEBBxEBBxEBBxEBBxEBBxEBBxEBBxEB",
   "BxEBBxEBBxEBBxEBBxEqDBmCBBmCBBmCBBmCBBmCBBmCBBmCBBmCBBmCBBmCBBmCBBmCBBmCBBmCBBmCBBmCBBmC",
   "BBmCBBmCBBmCBBmCBBmCLBlCBBlCBBlCBBlCBBlCBBlCBBlCBBlCBBlCBBlCBBlCBBlCBBlCBBlCBBlCBBlCBBlC",
   "BBlCBBlCBBlCBBlCBBlCjfEBmCBBmCBBmCBBmCBBmCBBmCBBmCBBmCBBmCBBmCBBmCBBmCBBmCBBmCBBmCBBmCBB",
   "mCBBmCBBmCBBmCBBmCBBmCBBmCBBmCBBmCBBmCBBmCBBmCBBmCBBmCBBmCBBmCBBlCBBlCBBlCBBlCBBlCBBlCBB",
   "lCBBlCBBlCBBlCBBlCBBlCBBlCBBlCBBlCBBlCBBlCBBlCBBlCBBlCBBlCBBlCBBlCBBlCBBlCBBlCBBlCBBlCBB",
   "lCBBlCBBlCBBlCrigBBmCBBmCBBmCBBmCBBmCBBmCBBmCBBmCBBmCBBmCBBmCBBmCBBmCBBmCBBmCBBmCBBmCBBm",
   "CBBmCBBmCBBmCBBmCBBmCBBmCBBmCBBmCBBmCBBmCBBmCBBmCBBmCBBmCBBlCBBlCBBlCBBlCBBlCBBlCBBlCBBl",
   "CBBlCBBlCBBlCBBlCBBlCBBlCBBlCBBlCBBlCBBlCBBlCBBlCBBlCBBlCBBlCBBlCBBlCBBlCBBlCBBlCBBlCBBl",
   "CBBlCBBlChBBcCBBcCBBcCBBcCBBcCBBcCBBcCBBcCBBcCBBcCBBcCBBcCBBcCBBcCBBcCBBcCBBcCBBcCBBcCBB",
   "cCBBcCBBcCBBcCBBcCBBcCDBbCBBbCBBbCBBbCBBbCBBbCBBbCBBbCBBbCBBbCBBbCBBbCBBbCBBbCBBbCBBbCBB",
   "bCBBbCBBbCBBbCBBbCBBbCBBbCBBbCBBbCzguBBqCBBqCBBqCBBqCBBqCBBqCBBqCBBqCBBqCBBqCBBqCBBqCBBq",
   "CBBqCBBqCBBqCBBqCBBqCBBqCBBqCBBqCBBqCBBqCBBqCBBqCBBqCBBqCBBqCBBqCBBqCBBqCBBqCBBqCBBqCBBp",
   "CBBpCBBpCBBpCBBpCBBpCBBpCBBpCBBpCBBpCBBpCBBpCBBpCBBpCBBpCBBpCBBpCBBpCBBpCBBpCBBpCBBpCBBp",
   "CBBpCBBpCBBpCBBpCBBpCBBpCBBpCBBpCBBpCBBpCBBpC"]

/-- The mates of one character from their packed distances. -/
def foldDistances (code : Nat) : (count : Nat) → List Nat → List Nat × List Nat
  | 0, rest => ([], rest)
  | _ + 1, [] => ([], [])
  | count + 1, d :: rest =>
    let mate := if d % 2 == 0 then code + d / 2 else code - (d + 1) / 2
    let (mates, rest') := foldDistances code count rest
    (mate :: mates, rest')

/-- The characters with mates, from the packed numbers; `fuel` bounds their count. -/
def foldEntries : (fuel : Nat) → (last : Nat) → List Nat → List (Nat × List Nat)
  | fuel + 1, last, step :: count :: rest =>
    let (mates, rest') := foldDistances (last + step) count rest
    (last + step, mates) :: foldEntries fuel (last + step) rest'
  | _, _, _ => []

/-- The characters with mates, each with its mates, in order. -/
def foldTable : Array (Nat × List Nat) :=
  let numbers := unpackNumbers 0 1 (packedFolds.flatMap String.toList)
  (foldEntries numbers.length 0 numbers).toArray

/-- The first place of a table in order whose code is not below `code`, between two places. -/
def foldIndexFrom (table : Array (Nat × List Nat)) (code : Nat) : (fuel low high : Nat) → Nat
  | 0, low, _ => low
  | fuel + 1, low, high =>
    if low < high then
      let mid := (low + high) / 2
      match table[mid]? with
      | some e =>
        if e.1 < code then foldIndexFrom table code fuel (mid + 1) high
        else foldIndexFrom table code fuel low mid
      | none => low
    else low

/-- The first place of the table whose code is not below `code`. -/
def foldIndex (code : Nat) : Nat :=
  foldIndexFrom foldTable code 32 0 foldTable.size

/-- The other characters that are the same as this one when case does not matter. -/
def foldMates (code : Nat) : List Nat :=
  match foldTable[foldIndex code]? with
  | some e => if e.1 == code then e.2 else []
  | none => []

/-- The mates of the characters of a range, from a place of the table on. -/
def foldRangeFrom (last : Nat) : (fuel place : Nat) → List (Nat × Nat)
  | 0, _ => []
  | fuel + 1, place =>
    match foldTable[place]? with
    | some e =>
      if e.1 ≤ last then e.2.map (fun m => (m, m)) ++ foldRangeFrom last fuel (place + 1) else []
    | none => []

/-- The mates of the characters of a range. -/
def foldRange (first last : Nat) : List (Nat × Nat) :=
  foldRangeFrom last foldTable.size (foldIndex first)

/-- A set with all mates of its characters. -/
def Ranges.fold (rs : Ranges) : Ranges :=
  match rs.flatMap fun r => foldRange r.1 r.2 with
  | [] => rs
  | more => Ranges.ofList (rs ++ more)

end LuaSession.Unicode
