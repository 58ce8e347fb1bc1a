import LayerAtlas.Unicode.Table

namespace LayerAtlas.Unicode

structure Script where
  names : List String
  own : List String
  /-- The characters of the script that its texts do not use, or the other way round. -/
  changed : List String

namespace Script

def characters (s : Script) : CharSet := readSet s.own

def extension (s : Script) : CharSet := s.characters.symmDiff (readSet s.changed)

def all : List Script :=
  [
    ⟨["adlam", "adlm"], ["hdeUcXEJEB"], ["ciHAbGAjwOAfhHA"]⟩,
    ⟨["ahom"], ["ebrCbACOEW"], [""]⟩,
    ⟨["anatolianhieroglyphs", "hluw"], ["essEwK"], [""]⟩,
    ⟨["arabic", "arab"],
      [
        "chCEBFBNBCBbFBJLZBeDBbHdCbVjGbEBBFcWBbCdntWeKQnYCdBCcBHAbGPeIEBfEfvNbEcPCcDDdglSDBbAB",
        "BBACABJBDBABAGAEABABABCBBBACABABABABABBBACDBGBDBDBABJBQFCBEBQcAB"],
      ["chOAOADAbGAKKbAAjuSAfhHAdakABcdKbB"]⟩,
    ⟨["armenian", "armn"], ["bzDbLCbXCCdozJE"], ["bdWA"]⟩,
    ⟨["avestan", "avst"], ["dxcYcBDG"], ["hBArfSB"]⟩,
    ⟨["balinese", "bali"], ["kfWcYBbX"], [""]⟩,
    ⟨["bamum", "bamu"], ["clcQdJcvcQvW"], [""]⟩,
    ⟨["bassavah", "bass"], ["fhkIbDCF"], [""]⟩,
    ⟨["batak", "batk"], ["knGbZID"], [""]⟩,
    ⟨["bengali", "beng"],
      ["dpODBHCBCVBGBADDCICBCDIAEBBECY"],
      ["baYAcmUBRBhjEABACBBAIAIACAEACCcbaFA"]⟩,
    ⟨["bhaiksuki", "bhks"], ["edoIIBbSBNKbC"], [""]⟩,
    ⟨["bopomofo", "bopo"], ["bcSBrlXbQeIbF"], ["bbJABCNArcPCEJBMKDCAGAhNAcztHBkWE"]⟩,
    ⟨["brahmi", "brah"], ["dzaEcZEbJJA"], [""]⟩,
    ⟨["braille", "brai"], ["pdWjV"], [""]⟩,
    ⟨["buginese", "bugi"], ["jwAbBCB"], ["cmhZA"]⟩,
    ⟨["buhid", "buhd"], ["iuYT"], ["iuNB"]⟩,
    ⟨["canadianaboriginal", "cans"], ["hoYyPvOcRdtpQP"], [""]⟩,
    ⟨["carian", "cari"], ["dtyMbW"], ["hBAlzMACAfgDA"]⟩,
    ⟨["caucasianalbanian", "aghb"], ["duxSbZLA"], ["bdSAbSAbSA"]⟩,
    ⟨["chakma", "cakm"], ["dzkAcABR"], ["dtMJckEJ"]⟩,
    ⟨["cham"], ["cmjWcCJNCJCD"], [""]⟩,
    ⟨["cherokee", "cher"], ["hlGdHCFcfjEdB"], ["bdOCBAGBWBLB"]⟩,
    ⟨["chorasmian", "chrs"], ["dyxCbB"], [""]⟩,
    ⟨["common", "zyyy"],
      [
        "AcMbAFbAbUBOBEXAbFArHbMFECTeMAJAGABAyNAGAOADAbGAgAAtWAeZBbvTApPDlEAcgLCcTBhVBBAbvHANA",
        "HDBFBCCAbdTLCdIBKDKBORbGcLbLBCCFBbABQbPCEzPWKVbjRjWyDCbFBeAtSdPpMUBABYPHEDdNBDAdMBfRP",
        "bGbLJAbWcLbFdCbVAdKgLjtOcLbhsIbHdYCgJJjKAgEApFAOBbezQBiAJWbIBSBDfRABbFbAFbAKKAbTBcMGB",
        "GKEjYCEbSDIdCMbZbSiUbAcshWDfvGjPGqTgAeLcIjLKbMCcJDQIBHbDEcIiFTMTMdIJYfFdGBcSBBCACBCDB",
        "LBABGBcMBDCHBGBbBBDBEBADGBnBClFCbXhtHcPcYcIbbEbREdVMOCOBOBbKKgRcEZBBNbREIHBOFfYblVEQD",
        "MDeOEdQGLEAPLEcDIJGbNIbDCLEBcKnBMNCMDJFcDHOCKGIHfQBdXbsuxBAbEdR"],
      [
        "hBAtWAKABCBAJABAfYAzNAOADAbGAbeXBcwRAcgLCcTBhVBBAbvHANAHDBFBCCAbfOAbFAKACAffDAYBKAEAB",
        "AqMPBCCABJBMQFBAEDdNBDAdMBfRPbGbLJAbWbNcEbWPLbZAdKYKEdSbEbroJHlKJjKAgEAbfpMBkBBkWEKAb",
        "TBnOCEbSDIqBbAcshWDipWRlrYB"]⟩,
    ⟨["coptic", "copt", "qaac"], ["bmGNpjKeLFG"], ["hBAwMADBBAeEBqdTAdcpCbB"]⟩,
    ⟨["cuneiform", "xsux"], ["efbSbjLdYeGBELhN"], [""]⟩,
    ⟨["cypriot", "cprt"], ["dvzKFCABbRBBDACA"], ["dtiMCEbSDI"]⟩,
    ⟨["cyprominoan", "cpmn"], ["ekyYdU"], ["dtiMB"]⟩,
    ⟨["cyrillic", "cyrl"],
      ["bnKfCCgMivOKgEAcYAgfNbFbtoAdRbheCBdhpGcJbHA"],
      ["baYAcPCBABABACAFAoHBjqNAgeKA"]⟩,
    ⟨["deseret", "dsrt"], ["dumAdB"], [""]⟩,
    ⟨["devanagari", "deva"], ["dkQdCEOCZcijGbFbreMJ"], ["baYAcmUBRBhjEbMBBbnAAbzfRJ"]⟩,
    ⟨["divesakuru", "diak"], ["eckUGCACHBBBbDBBCLJJ"], [""]⟩,
    ⟨["dogra", "dogr"], ["ecaYcH"], ["doMLcidCJ"]⟩,
    ⟨["duployan", "dupl"], ["gmdSeCFMDIHJCD"], ["hBAwTBBAYBqiHAfuwPD"]⟩,
    ⟨["egyptianhieroglyphs", "egyp"], ["eldGbqRKfxQ"], [""]⟩,
    ⟨["elbasan", "elba"], ["duvWbN"], ["hBAwRA"]⟩,
    ⟨["elymaic", "elym"], ["dyyYW"], [""]⟩,
    ⟨["ethiopic", "ethi"],
      [
        "gvGcUBDCGBABDCbOBDCbGBDCGBABDCOBcEBDCcOCbFDZjvAWJGBGBGBGBGBGBGBGbvkCFCFCFJGBGepyFGBDB",
        "BBO"],
      ["beCA"]⟩,
    ⟨["garay", "gara"], ["dxzCbLDbCIB"], ["chOAOADA"]⟩,
    ⟨["georgian", "geor"], ["ghSbLBAFACbQBDejWbQCCgeAbLBAFA"], ["hBAbvLAeiRAfvIAfgGA"]⟩,
    ⟨["glagolitic", "glag"], ["qrGdRgizGGBQCGBBBE"], ["hBAwPABAoSACAjXAeiRAfvIAfgYAbtnFA"]⟩,
    ⟨["gothic", "goth"], ["dueAbA"], ["hBAwQBCAbOA"]⟩,
    ⟨["grantha", "gran"],
      ["eadSDBHCBCVBGBBBECICBCCCAGAFGCGDE"],
      ["dnTBRByQNgkAABBbECDBbnAAdntQAetWBBA"]⟩,
    ⟨["greek", "grek"],
      [
        "bhWDBCCDBAEABABCBABTBcKOPjnQEbYEEEdGAmIVCFCbLCFCHBABABABbECcABOBNCFBSCCBIlJAcajEAbgnI",
        "dARAdaxRcR"],
      ["hBAwMBCABABAKAbUACAbUAjyXBzRA"]⟩,
    ⟨["gujarati", "gujr"], ["dzLCBIBCBVBGBBBECJBCBCCAPDCLHG"], ["dnTBRBcidMJ"]⟩,
    ⟨["gunjalagondi", "gong"], ["eebWFBBBbKBBBFHJ"], ["hBAdhKB"]⟩,
    ⟨["gurmukhi", "guru"], ["duNCBFEBCVBGBBBBBBCABEEBCCDAHDBAHQ"], ["dnTBRBcidMJ"]⟩,
    ⟨["gurungkhema", "gukh"], ["fdrScF"], ["doNA"]⟩,
    ⟨["han", "hani"],
      [
        "rpWZBdKMiFbVABAZIODblCjtNcMbfbJbhsIoBCeBbsiIBMBccoKclfBbGgdTGiNCinPOlbKPxXdqWuVcfYhhY",
        "FgfF"],
      ["hBArwYPBCCABJBMKDCAGAEDhFAfSPbGbLJAbWbNcEbWPLbZAdKYKEdSbEbroJHbhaZBkWEdchERlrYB"]⟩,
    ⟨["hangul", "hang"],
      ["glKjVllEBjXdPeJbEcNbEbtaNbCyTqnRMWEbWpaIbEDFCFCFCC"],
      ["seRCEJBMQAGAhNAcztHBkWE"]⟩,
    ⟨["hanifirohingya", "rohg"], ["dxwQbNIJ"], ["chOAOADAbGAfRA"]⟩,
    ⟨["hanunoo", "hano"], ["itSU"], ["iuNB"]⟩,
    ⟨["hatran", "hatr"], ["dwiASBBFE"], [""]⟩,
    ⟨["hebrew", "hebr"], ["ccVcCIbAEFdovWZBEBABBBBBJ"], ["bdVB"]⟩,
    ⟨["hiragana", "hira"], ["shDdHGCfpeVlASAbDCymVA"], ["seRCEJBMQFBAEBdNDDAdMBcztGBkWEKAbTB"]⟩,
    ⟨["imperialaramaic", "armi"], ["dwbWVBI"], [""]⟩,
    ⟨["inherited", "zinh", "qaai"],
      [
        "bdOeHkRBrKKbAAbcIDgoXbEtTCBMBGEAGADBhQcLuEBhMbGftXDeDBczuJPQNblNAiSAgfAActcUbTCWuYCRH",
        "CGbEDbtlhIjF"],
      ["bdOOBBBAPCHBBBQACASAFAEMkRBrKKbAAbcIBhjXCBMBGEAGADBhQBcCABAbdDAftXDeDBdbqJAgfAA"]⟩,
    ⟨["inscriptionalpahlavi", "phli"], ["dxgQSFH"], [""]⟩,
    ⟨["inscriptionalparthian", "prti"], ["dxfKVCH"], [""]⟩,
    ⟨["javanese", "java"], ["cmeYcZCJEB"], ["cmhZA"]⟩,
    ⟨["kaithi", "kthi"], ["dzfCcOKA"], ["doOJnxXAbufEJ"]⟩,
    ⟨["kannada", "knda"], ["etCMBCBWBJBECIBCBDHBGBBDCJBC"], ["dnTBRBhjEABBGAXABAcasXF"]⟩,
    ⟨["katakana", "kana"],
      ["skVdLCCjGPiAbUBdJczhEJBbScouCDBGBBBAlBCbYAOD"],
      ["bdTAbDAqzTCEJBMQFBAEBdNDDAdMBcztGBkWEKAbTB"]⟩,
    ⟨["kawi"], ["eerWQBbODbC"], [""]⟩,
    ⟨["kayahli", "kali"], ["cmaAbTBA"], ["cmbUA"]⟩,
    ⟨["kharoshthi", "khar"], ["dwtCDBBFHBCBbCCCEJHI"], [""]⟩,
    ⟨["khitansmallscript", "kits"], ["fjiIAkgXsBbPA"], [""]⟩,
    ⟨["khmer", "khmr"], ["ixKdPCJGJsSbF"], [""]⟩,
    ⟨["khojki", "khoj"], ["dztWRBbU"], ["edIJchoIJ"]⟩,
    ⟨["khudawadi", "sind"], ["eaaQcGFJ"], ["doMBcidMJ"]⟩,
    ⟨["kiratrai", "krai"], ["fiiIcF"], [""]⟩,
    ⟨["lao", "laoo"], ["fmVBBABEBXBABWCEBABGBJCD"], [""]⟩,
    ⟨["latin", "latn"],
      [
        "cNZGZbVAPAFWBbEBrGbNEjxBbLGbWFDFMBcRcNjVoFANAQMfLBGAbBARbOecTbFbulMdXDcOCBBABHVNbfKbQ",
        "BIBDbedQGboKZGZdcFFBbPBIddnPbEGF"],
      ["hBAtWAKABCBAJABAbMOBBBAPCHBBBbMAFAEMkRBbvEBcxKAexWAvUAhKAezMAbtuMHvEA"]⟩,
    ⟨["lepcha", "lepc"], ["kpScDDODC"], [""]⟩,
    ⟨["limbu", "limb"], ["jmEbEBLELEADL"], ["doNA"]⟩,
    ⟨["lineara", "lina"], ["dvfSlYJVKH"], ["dtiTbS"]⟩,
    ⟨["linearb", "linb"], ["dsyQLBZBSBBBOCNbIeS"], ["dtiMCEbSDI"]⟩,
    ⟨["lisu"], ["ckkUbVbumAA"], ["baYAQArdKB"]⟩,
    ⟨["lycian", "lyci"], ["dtxGbC"], ["mgOA"]⟩,
    ⟨["lydian", "lydi"], ["dwkMZFA"], ["hBArfTA"]⟩,
    ⟨["mahajani", "mahj"], ["dznCbM"], ["hBAdhKLcidCJ"]⟩,
    ⟨["makasar", "maka"], ["eeqQY"], [""]⟩,
    ⟨["malayalam", "mlym"], ["eyAMBCBbYBCBFEPCZ"], ["dnTBRBhjOAXAcasZC"]⟩,
    ⟨["mandaic", "mand"], ["ddGbBCA"], ["cjOA"]⟩,
    ⟨["manichaean", "mani"], ["dxaMbMEL"], ["cjOA"]⟩,
    ⟨["marchen", "marc"], ["edsQbFCVBN"], [""]⟩,
    ⟨["masaramgondi", "gonm"], ["edyEGBBBbRDABBBIIJ"], ["doMB"]⟩,
    ⟨["medefaidrin", "medf"], ["fisEdM"], [""]⟩,
    ⟨["meeteimayek", "mtei"], ["cmsMWhTbTCJ"], [""]⟩,
    ⟨["mendekikakui", "mend"], ["hcuYhOCP"], [""]⟩,
    ⟨["meroiticcursive", "merc"], ["dwpKXETCbT"], [""]⟩,
    ⟨["meroitichieroglyphs", "mero"], ["dwoEbF"], ["mgRA"]⟩,
    ⟨["miao", "plrd"], ["fizOcWEcEHQ"], [""]⟩,
    ⟨["modi"], ["ebhGcQLJ"], ["clsAJ"]⟩,
    ⟨["mongolian", "mong"], ["jcIBCABTGdKHbQdscBM"], ["jcKBBAdcJAfzTBFD"]⟩,
    ⟨["mro", "mroo"], ["fheUbEBJEB"], [""]⟩,
    ⟨["multani", "mult"], ["dzyUGBABDBOBK"], ["dyKJ"]⟩,
    ⟨["myanmar", "mymr"], ["gbOgDcgaYbEdTbFbpaMT"], ["cmbUA"]⟩,
    ⟨["nabataean", "nbat"], ["dweIbEII"], [""]⟩,
    ⟨["nagmundari", "nagm"], ["hbpObP"], [""]⟩,
    ⟨["nandinagari", "nand"], ["ecqYHCbTCK"], ["dnTASBbiMJgbHAIAHAcasRF"]⟩,
    ⟨["newtailue", "talu"], ["jrCbREZGKDB"], [""]⟩,
    ⟨["newa"], ["eanOdNBE"], ["dnTBhkCABBJAGABABA"]⟩,
    ⟨["nko", "nkoo"], ["cyIcGCC"], ["chOAOADAdppEB"]⟩,
    ⟨["nushu", "nshu"], ["fjiFAyvMpF"], [""]⟩,
    ⟨["nyiakengpuachuehmong", "hmnp"], ["haeAbSDNCJEB"], [""]⟩,
    ⟨["ogham", "ogam"], ["inObC"], [""]⟩,
    ⟨["olchiki", "olck"], ["ksUbV"], [""]⟩,
    ⟨["olonal", "onao"], ["hbzKbQEA"], ["doMB"]⟩,
    ⟨["oldhungarian", "hung"], ["dxrSbYNbYHF"], ["mgOACAfgDAPA"]⟩,
    ⟨["olditalic", "ital"], ["ducEbJJC"], [""]⟩,
    ⟨["oldnortharabian", "narb"], ["dwyAbF"], [""]⟩,
    ⟨["oldpermic", "perm"], ["dufGbQ"], ["hBAwMAFCKAoDA"]⟩,
    ⟨["oldpersian", "xpeo"], ["duiIbJEN"], [""]⟩,
    ⟨["oldsogdian", "sogo"], ["dyqIbN"], [""]⟩,
    ⟨["oldsoutharabian", "sarb"], ["dwwUbF"], [""]⟩,
    ⟨["oldturkic", "orkh"], ["dxmUcU"], ["mgOAfgFA"]⟩,
    ⟨["olduyghur", "ougr"], ["dyuQZ"], ["cjOAdusVA"]⟩,
    ⟨["oriya", "orya"], ["eeJCBHCBCVBGBBBECICBCCHCEBBECR"], ["dnTBRBhjOAXA"]⟩,
    ⟨["osage", "osge"], ["dusUbJEbJ"], ["bdPACAGAcYA"]⟩,
    ⟨["osmanya", "osma"], ["duqYbDCJ"], [""]⟩,
    ⟨["pahawhhmong", "hmng"], ["fhmEcRKJBGBUFS"], [""]⟩,
    ⟨["palmyrene", "palm"], ["dwdCbF"], [""]⟩,
    ⟨["paucinhau", "pauc"], ["edcAcE"], [""]⟩,
    ⟨["phagspa", "phag"], ["clsQcD"], ["jcKBBAdcJAfzUA"]⟩,
    ⟨["phoenician", "phnx"], ["dwjGbBDA"], [""]⟩,
    ⟨["psalterpahlavi", "phlp"], ["dxhWRHDMG"], ["cjOA"]⟩,
    ⟨["rejang", "rjng"], ["cmbWbJLA"], [""]⟩,
    ⟨["runic", "runr"], ["ioUcWDK"], ["irRC"]⟩,
    ⟨["samaritan", "samr"], ["daUbTCO"], ["rmVA"]⟩,
    ⟨["saurashtra", "saur"], ["clvCcRIL"], [""]⟩,
    ⟨["sharada", "shrd"], ["dzoYdR"], ["dnTAhkFABACBCAJACAcatEFCA"]⟩,
    ⟨["shavian", "shaw"], ["dupCbV"], ["hBA"]⟩,
    ⟨["siddham", "sidd"], ["ebcIcBCbL"], [""]⟩,
    ⟨["signwriting", "sgnw"], ["gwtKzBPEBO"], [""]⟩,
    ⟨["sinhala", "sinh"], ["fcZCBRDXBIBACGDAEFBABHGJCCdulGT"], ["doMBhkMA"]⟩,
    ⟨["sogdian", "sogd"], ["dysEbP"], ["cjOA"]⟩,
    ⟨["sorasompeng", "sora"], ["dziEYHJ"], [""]⟩,
    ⟨["soyombo", "soyo"], ["ecxSdE"], [""]⟩,
    ⟨["sundanese", "sund"], ["kkUcLjWH"], [""]⟩,
    ⟨["sunuwar", "sunu"], ["edlWbHOJ"], ["bdOBBAJACAbCADA"]⟩,
    ⟨["sylotinagri", "sylo"], ["clqEbS"], ["doMBeYJ"]⟩,
    ⟨["syriac", "syrc"], ["cqYNBcHCCkMK"], ["bdRBCBBAYCHBBBbcCAOBCAbGAKKbAAixRABA"]⟩,
    ⟨["tagalog", "tglg"], ["isMVJA"], ["iuNB"]⟩,
    ⟨["tagbanwa", "tagb"], ["iwEMBCBB"], ["iuNB"]⟩,
    ⟨["taile", "tale"], ["jpGbDCE"], ["bdOBFBDAezZJ"]⟩,
    ⟨["taitham", "lana"], ["jxGcKBbCCKGJGN"], [""]⟩,
    ⟨["taiviet", "tavt"], ["cmoUcOYE"], [""]⟩,
    ⟨["takri", "takr"], ["ebmEcFGJ"], ["doMBcidMJ"]⟩,
    ⟨["tamil", "taml"],
      ["ejIBBFDCBDDBBABBDBDCDLEEDCBDCAGAOUealHbXNA"],
      ["dnTBRBhjOAcbbKAboeFABAcDB"]⟩,
    ⟨["tangsa", "tnsa"], ["fhgQdABJ"], [""]⟩,
    ⟨["tangut", "tang"], ["fjiEAbFjbZIbdNtSI"], ["seAPtBA"]⟩,
    ⟨["telugu", "telu"], ["eoEMBCBWBPCIBCBDHBBCCACDCJHI"], ["dnTBRBhjJBBABAXA"]⟩,
    ⟨["thaana", "thaa"], ["cvWbX"], ["chOAOBCAcMJdptGAKA"]⟩,
    ⟨["thai"], ["fhXcFFbB"], ["baYAbAAbRAbTA"]⟩,
    ⟨["tibetan", "tibt"], ["frScTBbJEbMBbJBOBGEB"], ["seYD"]⟩,
    ⟨["tifinagh", "tfng"], ["rcYcDHBOA"], ["bdQABABDZA"]⟩,
    ⟨["tirhuta", "tirh"], ["easMcTIJ"], ["dnTBRBhjJAMAPAcasZJ"]⟩,
    ⟨["todhri", "todr"], ["dvdGbZ"], ["bdPACACAJABAcWA"]⟩,
    ⟨["toto"], ["hatKbE"], ["baYA"]⟩,
    ⟨["tulutigalari", "tutg"], ["eaiQJBACABbLBJBACABDBJBBIB"], ["exAJgbQABAcasXFhFA"]⟩,
    ⟨["ugaritic", "ugar"], ["duhCbDBA"], [""]⟩,
    ⟨["vai", "vaii"], ["ckmQlN"], [""]⟩,
    ⟨["vithkuqi", "vith"], ["dvaEKBOBGBBBKBOBGBB"], [""]⟩,
    ⟨["wancho", "wcho"], ["havGcFFA"], [""]⟩,
    ⟨["warangciti", "wara"], ["echCdEMA"], [""]⟩,
    ⟨["yezidi", "yezi"], ["dylKbPBCCB"], ["chOAOADAcMJ"]⟩,
    ⟨["yi", "yiii"], ["cipKbsUDcC"], ["seRBFJCHiPAdaeFE"]⟩,
    ⟨["zanabazarsquare", "zanb"], ["ecuQcT"], [""]⟩]

def find? (name : String) : Option Script := all.find? fun s => s.names.elem name

end Script

end LayerAtlas.Unicode
