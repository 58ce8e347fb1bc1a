import LayerAtlas.Unicode.Category

namespace LayerAtlas.Unicode

open CharSet

def listedProperties : List (List String × List String) :=
  [
    (["asciihexdigit", "ahex"], ["bWJHFbAF"]),
    (["bidicontrol", "bidic"], ["ciEAjvLBbAEcDD"]),
    (["bidimirrored", "bidim"],
      [
        "bOBSABAbCABAbDABAbTAPAfmSDcuNBdqQBKBcCBOBgVAhKDDFDADBDDBDBABAEIFABRFDJBBABHBbFCDFAJBC",
        "SFBJECBEXCPIDUBHBbpTNcWACDBBBCFDFCDNpNVCFBNIAHFDAEEBBCEEABCCBKFCBMSBDCABACABDFBGCYBLB",
        "EDBBCBEbQCHBbNFABADEFCEADEBAjWAtVDDBBBOBCJbRHqLJCHdacRFFBgGBSABAbCABAbDABABBBBddpNAcF",
        "AcFAcFAcFA"]),
    (["dash"], ["bTAcaUAbZAfkJAbnPAdbDFcJAbNAPApAAeoIACAbFBEAbCArEATAeHAczwABbLAKAgNAflOAmGA"]),
    (["deprecated", "dep"], ["mRAbyVAdkTABAdcJBdiJFbaVBbzryKA"]),
    (["diacritic", "dia"],
      [
        "dQABAcTAGAEACBtJgCBHFFRBEAJBjTEiBAcDbSBABBBBBAfBHEBfEBEBDCcPbAdNKcGKbIBeWHbPJQbBcJAQA",
        "DDbCAcWAQAeGAQAeGAQAbVCcIAQAHAePAeGAQAeGAQAeFBQAeUAeHAMFBAeDANEcXBbBABABAEBcOCBBcKAeI",
        "ABBbOBEEZGBAKBbbDCbkMBbEAfSKJAnJClGAUHCAbWOCKeAAPAbMIcCBcGALBcOBcMFdEYEAGACCbYcKbWbJF",
        "LbLKrDABCLCNCNCNBexKCmFAtMFeBDdRAbsmKAMBBAbCBdEBObHdYCeFBMAbLAfVAbBRcFDbKAdRAMAbKAfTC",
        "cNDbZAdWEJCeYBbdzSAbdPPkKABAbVAbTBcPAbdKAbtNFBbPBIyNCEAgJBvZFbMAbAEpJCcSKbXDhKAbPAcUB",
        "eQBcKAcYAJCeABgWBdCBQAYGDEdLCBBNBdRADAeTBjRBeWAeOBeLAkJBjYBEAgAAdFASAdDAqFAjYABBdDAqJ",
        "BXAhyAOqzPAdsAEcHGvSBvAQdCBygCDBGBBltHbTCWuYCDFIHCGbEDfmWcJhMGoLAcJDbdMBbcIGeFCBC"]),
    (["emoji"],
      [
        "bJAGAFJeHAEAlyRAMAiIAWAdMFPBoDBMAgKAZKEChRAiXBKAJAcGDBEJACACBCAEACABBCADADBICFABAFLLB",
        "CABBBASACBSFBABBDBFACBEBLBFBCAFBBABBUBFFBDCAEACACFBACABABAGADAGAKBPACAEABAECBALBbWCJA",
        "OAOAoIBrVCTBbZAEAbvUAMAxDABAgmrQAhUAgEBMBOACJcXZBBXAUACIVBgSbHCeHCBBCCdECCBkCBcKLFBXH",
        "BCHMACDCAEBNBCAIBJAFCMCICCABAEAGADAGdHbWcRFHCCEJDABBDACJiTLEAkXbUBJBhCeIMDJFcDHOCK",
        "GI"]),
    (["emojicomponent", "ecomp"], ["bJAGAFJmbJAiFAdftRAdoiWZtNEceADbsvuQdR"]),
    (["emojimodifier", "emod"], ["hhiXE"]),
    (["emojimodifierbase", "ebase"],
      [
        "olHAiLAQDgsjVAcICCACCeNBCKVSDAECBCHABAYAhTBEAVAEBgSCDEdFAQCJALAwDACAIHGAJJCCcEAcJBBBB",
        "ARCBMiVCbQI"]),
    (["emojipresentation", "epres"],
      [
        "nhQBhXDDACAuBBVBbYLbRATANAIBRBFBIAFAVAHBBAEACAHAEBbCAbJABAECBAcJCYAOAbhBBbZAEAgplEAhU",
        "AhIACJcXZBAYAUACEBCVBgSbGMIBcRBVMbQEEMQDADcSBABhECcKNDBXSAbABNAdIdGbWcRGADCCCEDLBHIiT",
        "LEAkXbUBJBhCeIMDJFcDHOCKGI"]),
    (["extendedpictographic", "extpict"],
      [
        "gNAEAlyRAMAiIAWAdMFPBoDBMAdRAcSAZKEChRAiXBKAJAcGDBFBLBeJKeNCKBABAGADAGAKBPACAEABAECBA",
        "LEbTCJAOAOAoIBrVCTBbZAEAbvUAMAxDABAgmrMjVNCbFAcIFMBOACJScEbBOKAUACIBDJqRFmFIkFbWeXeML",
        "dHbQMDcEHKFbOHbEdDMbUBJBqYjWbnH"]),
    (["extender", "ext"],
      [
        "hBAuQBbhUAqZAyGAfHAdLAbcYAeXAdnFAcEAxNApIAcQAhkJAbREdZBdPCbqbUAcgSAblAAWAfHAeEAVBbfzV",
        "AdbKBcfBAbBAEAbvBAlHAeMBtECbvJAbeoFBbtKBBAbqyABbuFAbgUC"]),
    (["graphemelink", "grlink"],
      [
        "dnPAeXAeXAeXAeXAeXAeXAeXAeFBQAeUAeHAeXAhTAgYBcpLBbEAgBAzDAiTAdXBcSBgqTAbukKAbLAfVAfMA",
        "eEAlXAjMAbjsRAchIAbPAOAcFAeRBfJAeMAgYAdUAeYCeJAeXAjSAeXAeOAeMAkJAjZBgFAdFASAdDAqFAkAB",
        "dDAqJByzCA"]),
    (["hexdigit", "hex"], ["bWJHFbAFdslLJHFbAF"]),
    (["hyphen"], ["bTAeXAbvWAgzZAdbDBfiBAbcLAczuLAgNAdJA"]),
    (["idsbinaryoperator", "idsb"], ["seABCJtDA"]),
    (["idstrinaryoperator", "idst"], ["seCB"]),
    (["idsunaryoperator", "idsu"], ["seOB"]),
    (["idcompatmathcontinue"], ["gWBFAmaGADKBOoHAEAWAgjjEAZAbFAZAbFAZAbFAZAbFAZA"]),
    (["idcompatmathstart"], ["mwWAEAWAgjjEAZAbFAZAbFAZAbFAZAbFAZA"]),
    (["ideographic", "ideo"],
      [
        "seWBZIOCblDjtNcMbfbJbhsIoBCeBbsiKAbBjbZIbvPbPJnuLpFbdeIclfBbGgdTGiNCinPOlbKPxXdqWuVcf",
        "YhhYFgfF"]),
    (["joincontrol", "joinc"], ["mdOB"]),
    (["logicalorderexception", "loe"], ["fkIEeTEedSCCAccxMBCABB"]),
    (["modifiercombiningmark", "mcm"], ["ckIBCAfBAGADBsNBBCDAbFA"]),
    (["noncharactercodepoint", "nchar"],
      [
        "dsdCbFuGBdsyOBdsyOBdsyOBdsyOBdsyOBdsyOBdsyOBdsyOBdsyOBdsyOBdsyOBdsyOBdsyOBdsyOBdsyOBd",
        "syOB"]),
    (["otheralphabetic", "oalpha"],
      [
        "bgFAbDMwENBABBBBBAcUKbWMBGQAdXGEDCBEAbJAbEPdYKdXBDIBCBDeCAcILDGGTcCBCOBBFCKBbDCcGGCBC",
        "BKAKBbDCcGEEBCBEAbEBDALCcGHBCBBVBWCECcGGCBCBJBKBbEAcHEDCBCKAbOEcFGBCBCIBLBbDCcGGBCBCI",
        "BLBPAMDcGGBCBCKAKBbDCcXFBABHSBcJACGSAdVACFBBQAgHSJKBbJeGLBACDXDECBCCGDDNLBAKDclOBbEBb",
        "EBbEBcOShGBbIAeOLEIiOEcFJCTcWBLCbXEbWOcICbEICBcFKbYSpWbHcoNbZdkGbFbtqAHbIBnQAIAXEdKBb",
        "YPBAcFAbMEbCLbTDbWLbLAcPNMAIBbTCbYABCCBFAbSEFAjDHbdzVAdeDEcmGCBBFDbeIDcNAmJBdBAjZCcBN",
        "bTBLCbTIJAcJCbKLSBcFCbWMOBdOICAGACAgBJXDcGGCBCBKAKBdGIBACABDBBdZMBCeCRjDGCGbDBdEOBAeC",
        "KdZNjXMjNFBBCBDABAfMGCFEAbCJbQEBDSKbUNpRHBGdFVBNeSFDABBBCBADAcOEBBBDnKDJBBAbWGDCyyNQf",
        "jCABcCHDdPBbdaYAnkJGBQCGBBBEdWAdhVAczWZGZGZ"]),
    (["otherdefaultignorablecodepoint", "odi"],
      ["bgPAfiLBckHBdhNAglIAdacPAdBIbwmiHABbDdSeXjGfiL"]),
    (["othergraphemeextend", "ogrext"],
      [
        "drYAYAnUAYAdYAYAiYABAEBBBJBdZAYAePAPAdmRAbEAbnKAFABAFBdXAcTBboIAgcVBbtwTAeEAbgnLBgwMA",
        "eMAkEAOAJAdSAJACABCFAiQAMAjHAkCAyJAMAchFAbeoKBbkxNBGFbtlaZdR"]),
    (["otheridcontinue", "oidc"], ["hBAbbRAgaJIclCAciZBgkRAdaeJA"]),
    (["otheridstart", "oids"], ["jhLBdgJAVAfvWB"]),
    (["otherlowercase", "olower"],
      [
        "gOAPAtHIHBbEEdSAcAAfcZAepZcKNAbIbKbaNANAQMiDPbgQZcwOBbugKBiCAeZCDBbhIDJAbiwSACCBbPBId",
        "dzHcJ"]),
    (["othermath", "omath"],
      [
        "dQAbhXCCAbABCBkqYAbBCLAbGDYBOBcNMEADBEESAEACJBADEGADBCBBCBFDDFEcXECDBBBBBABECBEBERCBB",
        "ABGBAGBlEDgMBBAYARArDBMIFEFBCBDEOABACFYBcFABAbDDJBnEBbFJpNVcLDbGBdclFABAEAiDABAdcoVdG",
        "BcSBBCACBCDBLBABGBcMBDCHBGBbBBDBEBADGBnBCYBYBbEBYBbEBYBbEBYBbEBYBHCbXiiQDBbABBBACABJB",
        "DBABAGAEABABABCBBBACABABABABABBBACDBGBDBDBABJBQFCBEBQ"]),
    (["otheruppercase", "oupper"], ["mqQPbgGZgsiYZGZGZ"]),
    (["patternsyntax", "patsyn"],
      ["bHOKGbADBAbADbIGBABBBABBEAEADAXAbFAluEXIOCSBJlTbbRgEyFbEbrNtSeXoVCEYPAczqZBkBB"]),
    (["patternwhitespace", "patws"], ["JESAdWAlyMBYB"]),
    (["prependedconcatenationmark", "pcm"], ["chCFiHAbXAoUBdCAdvxYAPA"]),
    (["quotationmark", "qmark"], ["bIAEAfBAPAlwUHZBfiDArPDNCdabPDhHAEAdMB"]),
    (["radical"], ["rpWZBdKMiF"]),
    (["regionalindicator", "ri"], ["hgoKZ"]),
    (["sentenceterminal", "sterm"],
      [
        "bHAMAQAcaBAfRCgYAbRCjMAcJABADBlHBcpWBbeKAEBbdTAhQBgBBbTAFAmCBnQDgGBKBCBbDChFBcNBbjWAX",
        "BJCeuXClUANAWBqNAbshWAkKBiTADAoSBdIBdRAfWBfRCfOBjPAbfcWACBcHADBgNAMAQAcNAedWBbxDEbSDh",
        "HBeNDeXCeZBGAQBdKBBBeEAlMBeNBoJBFOeBBjPCtXABAjRBdJBqEBbaQBcWBbcmBBfDAcNBLAvHBlKAbdoGA",
        "liMA"]),
    (["softdotted", "sd"],
      [
        "eBBhOAkVAbEAcAAUAmIAdUABAjmNAbZANADAfCAgBAqFAiGBegGAgelHBbYBbYBbYBbYBbYBbYBbYBbYBbYBb",
        "YBbYBbYBdfYAlTBbAA"]),
    (["terminalpunctuation", "term"],
      [
        "bHAKABALBDAbfYAIAtTAcFAcUAOABCgYAbRKBAjBBcCFBHbFAkBBbwUBgQAEFlZBbeJHbdTAeUCcTBgBCDAbN",
        "DCBmCBnQDgGBKBBCbDChFEcKBbjWAXBJCeuXClUANAEAKABBDBqMBbshVBkJCiTEoSBdIBdRAfVCfRCeXAQBj",
        "PAbfcWACBcFCBDgNAKABALBDAcNACAbpQAbWAbsOAhRAlYBfWFcQFdLDbkQEbSDhHGeIDeXCeZBGAQBdKEeEA",
        "lMBeNCMBnUDDOeBBjPCtXABAjRBdJBEBpYCbTAyVBcWBbyXEbamZBfDAcNCKAvHBlJBbdoGAliLD"]),
    (["unifiedideograph", "uideo"],
      ["tsAjtNcMbfbJbicSBBABBKABABBCCdveCclfBbGgdTGiNCinPOlbKPxXgrQhhYFgfF"]),
    (["variationselector", "vs"], ["jcTCBAdjcAPbwnkYjF"]),
    (["whitespace", "wspace", "space"], ["JESAdWAbAAihJAdpNKbDBFAbVAfxWA"])]

def listed? (name : String) : Option CharSet :=
  (listedProperties.find? fun p => p.1.elem name).map fun p => readSet p.2

def listed (name : String) : CharSet := (listed? name).getD .empty

def uppercase : CharSet := (ofCategories ["Lu"]).union (listed "otheruppercase")

def lowercase : CharSet := (ofCategories ["Ll"]).union (listed "otherlowercase")

def cased : CharSet := (uppercase.union lowercase).union (ofCategories ["Lt"])

def alphabetic : CharSet :=
  (letters.union (ofCategories ["Nl"])).union (listed "otheralphabetic")

def math : CharSet := (ofCategories ["Sm"]).union (listed "othermath")

def caseIgnorable : CharSet :=
  (ofCategories ["Mn", "Me", "Cf", "Lm", "Sk"]).union (ofChars
    ['\'', '.', ':', '\u00b7', '\u0387', '\u055f', '\u05f4', '\u2018', '\u2019', '\u2024',
      '\u2027', '\ufe13', '\ufe52', '\ufe55', '\uff07', '\uff0e', '\uff1a'])

def graphemeExtend : CharSet := (ofCategories ["Mn", "Me"]).union (listed "othergraphemeextend")

def graphemeBase : CharSet :=
  (ofCategories ["Cc", "Cf", "Cs", "Co", "Cn", "Zl", "Zp"]).negate.diff graphemeExtend

def defaultIgnorable : CharSet :=
  (((listed "otherdefaultignorablecodepoint").union (ofCategories ["Cf"])).union
    (listed "variationselector")).diff
      (((listed "whitespace").union (listed "prependedconcatenationmark")).union
        (ofRanges [(0xFFF9, 0xFFFB), (0x13430, 0x1343F)]))

def patternCharacters : CharSet := (listed "patternsyntax").union (listed "patternwhitespace")

def idStart : CharSet :=
  ((letters.union (ofCategories ["Nl"])).union (listed "otheridstart")).diff patternCharacters

def idContinue : CharSet :=
  ((idStart.union (ofCategories ["Mn", "Mc", "Nd", "Pc"])).union
    (listed "otheridcontinue")).diff
    patternCharacters

def unstableStart : CharSet :=
  readSet ["biGAebOAeXAmvVBczeFFpQBeMABABABABABABABAlBB"]

def xidStart : CharSet := idStart.diff unstableStart

def xidContinue : CharSet :=
  idContinue.diff
    (unstableStart.diff (ofRanges [(0xE33, 0xE33), (0xEB3, 0xEB3), (0xFF9E, 0xFF9F)]))

def changesLowercased : CharSet :=
  (uppercase.union (ofCategories ["Lt"])).symmDiff (readSet
  [ "blQClbHAEADCCCCADEGADADBCBBAKBFAgiqKZbAZbAZbAABBCACBCDBHbAZbABBDCHBGbBBBDBEBADGbBZbAZbAZb",
    "AZbAZbAZbEYbHYbHYbHYbHYbHAjqBZGZGZ" ])

def changesUppercased : CharSet :=
  lowercase.symmDiff (readSet
  [ "gOAPAeVAdGAbCBOADAGACACAbMAbUASFbBACABACCCAEAFBBACBBGBBBACCGEBABHCZHBbEEfTAeZAnRAbNAeiTAe",
    "oHeQBCBPBbWiMBBAiYHIHIHMAPAbVAeMANAQMeFADBDAbBAEAEACBIDefVACACGdYAbucLBfQBcKIVAGAZAbJABAb",
    "CCDCbfPbIBGBNbiwSACCBbPBIczkHZbAGBRbAZbADBABGBKbAZbAZbAZbAZbAZbAZbAZbAZbAbBbCYBFbAYBFbAYB",
    "FbAYBFbAYBFBAcsYJBTGFkBcJ" ])

def changesTitlecased : CharSet :=
  changesUppercased.symmDiff (readSet
  ["rKBBBBBbLBfqJbQCCfnCHIHIHMAPAbVA"])

def changesCasemapped : CharSet :=
  (changesLowercased.union changesUppercased).union changesTitlecased

def changesCasefolded : CharSet :=
  changesLowercased.symmDiff (readSet
  ["gZAbPAeBAcBArLAeUANBDBZBDApLAfiUdHCFdfUIuJBiUHIHIHKCCAKCCAbQCCAcavGdBbeaIGME"])

def changesCompatiblyFolded : CharSet :=
  changesCasefolded.symmDiff (readSet
  [ "gEAHABACABACCDCBCeMAMAfDACACAbMAhGIbFFCEdNBBBKAbKAFADAFBBAcWCbDAvHAdKDbcHHeUBBAdFACAbICCA",
    "jTBbbXAeXAbOBbUAcCAJAEAEAEAMAJABEHARAJAEAEAEAMAmKAdUBckHBdHEbyICBKBRBbBNAbIbKqRABABABABAB",
    "ABAcLELCDAJCDAJCNBBPBAFAMCDFDBBBEABAICNAHSCbABMLAdJDBCBKBBCECCBADADBBCBGBFEEGPQPJAgGBBBjO",
    "BlXdHbAbAbyNAdZCdXApZBjHAlRAdFAMiFbQAcBABCdSBCAdRAbXdPDNdSbEBbNIbUBoTbrkMBiCAeZCDBbhIDJAb",
    "djYkJCABACJBABACBDcPCeBcPABXBEBABBBBBeDbHnYScLCcBbOMDZWUCLBSBDECBABfECABbFbAfBDFCFCFCCDGB",
    "GBIcwEEBbPBIcqnDDgdMbJbrGGOHcMFwDdGBcSBBCACBCDBLBABGBcMBDCHBGBbBBDBEBADGBnBClFCbXdcQcJfdQ",
    "DBbABBBACABJBDBABAGAEABABABCBBBACABABABABABBBACDBGBDBDBABJBQFCBEBQwIKFbEBbFbACbJAeHCNbREI",
    "HBdqSJdrlMuVbpcqSgbN" ])

def property? (name : String) : Option CharSet :=
  match name with
  | "alphabetic" | "alpha" => some alphabetic
  | "uppercase" | "upper" => some uppercase
  | "lowercase" | "lower" => some lowercase
  | "cased" => some cased
  | "caseignorable" | "ci" => some caseIgnorable
  | "math" => some math
  | "graphemeextend" | "grext" => some graphemeExtend
  | "graphemebase" | "grbase" => some graphemeBase
  | "defaultignorablecodepoint" | "di" => some defaultIgnorable
  | "idstart" | "ids" => some idStart
  | "idcontinue" | "idc" => some idContinue
  | "xidstart" | "xids" => some xidStart
  | "xidcontinue" | "xidc" => some xidContinue
  | "changeswhenlowercased" | "cwl" => some changesLowercased
  | "changeswhenuppercased" | "cwu" => some changesUppercased
  | "changeswhentitlecased" | "cwt" => some changesTitlecased
  | "changeswhencasemapped" | "cwcm" => some changesCasemapped
  | "changeswhencasefolded" | "cwcf" => some changesCasefolded
  | "changeswhennfkccasefolded" | "cwkcf" => some changesCompatiblyFolded
  | name => listed? name

def word : CharSet :=
  ((alphabetic.union marks).union (ofCategories ["Nd", "Pc"])).union (listed "joincontrol")

end LayerAtlas.Unicode
