import LayerAtlas.Unicode.Table

namespace LayerAtlas.Unicode

def ages : List (String × List String) :=
  [
    ("1.1",
      [
        "AtHEbDcEdKHbUBJWcRbABSBEADAFGBABTBbRBGDABABABABRNLBcNBLBbOJcACBCBDbBCHCBcDbLCGBbMBAbM",
        "JBIMbAFEXAOADABZFSNNCcTCEBOBbDCJtZCBcACRCEDYQCBHCBCVBGBADDCABGCBCCJAEBBECUHACFEBCVBGB",
        "BBBBBCABEEBCCLDBAHOMCBGBABCBVBGBBBECJBCBCCAPAFJRCBHCBCVBGBBCDCHDBCCIBEBBCEKRBBFDCBDDB",
        "BABBDBDCDHBCEEDCBDJAPLOCBHBCBWBJBEEGBCBDHBJBEJSBBHBCBWBJBEEGBCBDHBHABBEJSBBHBCBWBPEFC",
        "CBDJAIBEJfPcFEbCbLBBACBBACAGDBGBCBABACBBMBCCEBABFCJCBrIbLKbMEAEdLFcPFdDeoKfYFdLGVCFCb",
        "LCFCHBABABABbECcABOBNCFBSCCBIBbUBWbJGDbARKbLRbEcEbAbVNdMVjHOABeQfDbKbBKVfIVfTKdBQTGdH",
        "fPDBDCbBBbIBABDDABGCGObEDXBNddHcDHABdFEFCdPGbNEdPBPdSbCDbJbCbBDbXPLEbUBeOEdUCbEjwBbex",
        "XyjQjxTiCGMEGYBEBABBBBBeDbHoAQcLCcBbOLbKDMUEJBSBDECBABfECABdPCdPDFCFCFCCDGBGOC"]),
    ("2.0",
      [
        "ccVQBMUAdmXcTBbGHbAEFBABUDGBAfqNAuHAcatWqnReifYBdsyOBdsyOBdsyOBdsyOBdsyOBdsyOBdsyOBds",
        "yOBdsyOBdsyOBdsyOBdsyOBdsyOhlxH"]),
    ("2.1", ["mjSAdgoTA"]),
    ("3.0",
      [
        "tIDbEHCReNEbXAKEdJITAeMADABABABAbEAMAcOAMAbQBCDdOBgAAhSCdUBFAPAbQEBNBbDDbAcBbWcfHBBRD",
        "XBIBACGDAEFBABHSCoJAbRAXCHABCBOCAbWbHBEBBBGDDGZqGGBcKBABDCGBABDCbMBABDCbEBABDCGBABDCG",
        "BGBWBbEBABDCGBbMBSGbBbJdGMyFJbCDdCfNdODJWOBJGdJIbPcwBAYFdRCbYBdHBcUAdZIkJAeRABbDfIBrP",
        "HbHAdIBpIjVccEZBdKMiFbALcICDAnPXwMjtDbfeGbsUDRCPBLBCBAbgsCAbvVC"]),
    ("3.1",
      [
        "bmYBdqqCbFbxWbEBDMbAgZbLCbLczdQjLKbMDgXvAdGBcSBBCACBCDBLBABDBBBcMBDCHBGBbBBDBEBADGBmZ",
        "ElDEbXpdWcleSbetDuVbpcqTAbEdR"]),
    ("3.2",
      [
        "uYAlQATMeABbCAfRBcFBCBCBbXPnMBmJAdnHBchJMBGLWJTMMBCBBdiXAGEEAHENAcKBbYGdEOgMLjINeUAbE",
        "bZkYTfVJdKHWBdMLCJiONdMbBEPjWtRbzNCdJBIBdQAjGPdDOdDObrdIBQAMADAbgjAcGbjDADPcBBbSAj",
        "BB"]),
    ("4.0",
      [
        "uZASCePBcLQdCHFCfVEtWDJIcMCfTBPAbTCbDCqUAhCAcPABAfGAdGCNAcPAcHAeZHhLBefNASJkCbCDLELEA",
        "DbPCEeDbFbdOeDbcPBiWAzJBlQAkQBeMHOBbrANcrNBbXAbRBdADgLDdVBbFAjtOcLcoqVAcVBqXLBZBSBBBO",
        "CNbIeSFCEbSDIwEbDBAfEBbMdBCJbgWFCABbRBBDACAcyuIdInYAbtkdAjF"]),
    ("4.1",
      [
        "vVKkSEgDDjMBgOAbICcPASAcGFjHbDuHAdCAsTAbVAbmNBlJBBAkGAcLAcLAbNAbFAbFAbFAPAbNAXBbFZcgC",
        "bPGZGJEBbGbBCBbgMdJzHBBGbXEbDDcBAdCAPAyUKwAAdXBSKFPkKGbgHFjCbUBbUbHeCObSKcBJAQWJGBGBG",
        "BGBGBGBGBGbHXEBbjUPgSAbpiTVctOWiZbRbfeAeBbfQJbfAcWuNbJENciSDBBFHBCBbAECEIIIcxpVcRb",
        "rAB"]),
    ("5.0",
      [
        "wGNlNCmZAbQFQDgKAtXcGoUBBBbhIBNBfiJcXEbSwLGbZBbcUDdPBcBAxBLbbMAkQDbgJGFDmEMHDbulJDFBl",
        "AcDbkoMZFAirGbhUfPdUNDcogIRbqUB"]),
    ("5.1",
      [
        "bhWDCBdJAhBAfKPiSELEbGElQRtDBiOAbJAhYAbDBeEAeEAbABIBUHhHAGAbDBMFDGsXBdTADCcZAFACAHCEF",
        "bAcLEBdbEAbbXbQDLcScDDODbYmTbBgZDdMFnSAfJAdQAcBDbyAAVJDDkEAbFDbfFEEbODEkUCBCEFnQbFYDC",
        "SbdKAgGTbppOHbzOlNUbFCRIbBfBECeCeGEeYcQJLbMdFLAgEcCJNCJCDbfsUCbhPLcAbTfAbCDbWckDZFAcx",
        "sJAlrQbREdV"]),
    ("5.2",
      [
        "byQBbcCbTCOhLAcZAGAbJBeYAcfPDhLDhGEcQEdEFtSAyGIvOcRgYBbUAcRcKBbCCKGJGNvAbIkGAbaUCfVCc",
        "CAxIAbaRBbDCEJBSBAEXdJAbnHEkSANBeDGmHAboCLbplSHbxKbVqAdJmAJgKbBdWbCDcZBKEBeYbBEcOYEiQ",
        "bTCJqoKWEbWnbBCfgCVBIhEBmMbFeYcBDbCCbAFHeYcUuPbEtTcNlvQbpEctnDKFbECALABACADADEIAHAZAB",
        "BCAKDCAeHAPbHOIcqlJgdO"]),
    ("6.0",
      [
        "bySBjOAcKAsMbBCAiLBTAGBbBEtMFqRAQATAwBDcVBbiOBdeNbZIDtOAzOHbCAbfJKbcCATABDbDAEBbCAbJA",
        "BAECJBcACYAOAOBcdKAOAbpOCbseNBlNBBBOJdCAbdUFCFCFJGBGbemTPhrIcZEbDbheEvWbalBBymGOCNCOB",
        "OdCABKBABBBCBCFHBGBJGIBACBBJEBBJcXZBBbVIVBgSbGPFBcRDTMbKBEVQPcKBABgZBDDcJSXfREBPBCBAB",
        "ABABCBFCDBACDBLEKbWcRcGeLcuqMiN"]),
    ("6.1",
      [
        "ccTAeMAzRABKcDbAtDAbmRBsTAFAbVCebBCMFjWHbRDecQABAbyQBbZAFAcEBhUJbraEAcnNHbJAjIBWAcZBb",
        "cOWbdzZBfuUcDGBcrOYHJGcABNcIcUHJbtUcDIJbhkOcQLbUQQbvwIDBbABBBACABJBDBABAGAEABABABCBBB",
        "ACABABABABABBBACDBGBDBDBABJBQFCBEBQcAByIBblSDhGAQADABABABADAGBEABBEA"]),
    ("6.2", ["mkGA"]),
    ("6.3", ["ciEAjyVD"]),
    ("7.0",
      [
        "biLAqIHdPBeOAzRALFcYAeQAHAyPAbZAcYAeXAiUJdkRHvCBpLOvXBjDObbHCbfQGbdTAbqICKZCbFCbHDLBH",
        "xUGbtoVFjMLLCCBcRAsUbEeVDgUbVEBbfiVGbhDBTAmHbBbJAbWbQoZbNIbZLAfOlYJVKHjOcKIIrWbFbGbME",
        "LfHRHDMGbvJAiAbMdIAMAGTLRBbQeKcGFJHCBHCBCVBGBBBECICBCCJAFGCGDEkHcTIJgKcBCRcCcQLJwKdEM",
        "ArGcEdfIbPhULFAbalFbEBJEBdSbDCFKcRKJBGBUFSbemAeCFMDIHJCHqkYhOCPczWAbGVVBuMLJAcSAWLbLA",
        "FDFLRGcTABAhAAEBcLBEGbDRBbOBdHcSBNbVcSJQMDDfKdGbRLEcDIJGbNIbD"]),
    ("8.0",
      [
        "dhRBbUAuNAnOAkAAcmVACFevOAhVBdyEDbrwVIcoUAjGAbIFmMBxMDMdBbffQBebGSBBFEhGBCPCbTyQbYNbY",
        "HFbvDDOEgEGBABDBOBKdIAdBAyJTlEZDOEPerPAiWhNlqQwKcawLKchZzBPEBOjhDCdABdBEbKHjVAcXEjJBf",
        "JAwDIdZEcHAcucLinP"]),
    ("9.0",
      [
        "dhUHWObjPAhYAECBGXCfrZIoGAchBDdxCBbtzLAkSAbhqDBbeVbJEbJfaOArHdLBABAtUMccXIBbSBNKbCDbF",
        "CVBNbfmVAbFjbOTbdAbgfLGBQCGBBBEdiZcWFJEBddBRfMAbfYAbPAlOBbHCvAFBHIACLBLEObMM"]),
    ("10.0",
      [
        "deMKpLBjSFtSAcGBfyWAjUDbbHAbfZAczAAyCEbcMAbpxNUblpICiqQcTIbZCWBExHGBBBbRDABBBIIJbfgPA",
        "yhKkYdDpFyaEFbrPBbIBtZLTAIHBBZASMbMFcEWdcpDlbK"]),
    ("11.0",
      [
        "caYAbNAdYAuFCiDAlMAePApHAeXAenRAboHbQCCfrMCWYEOwPEbcIAbpyHEcyHAIBmMBbkvCBSAbaTbNIJrMb",
        "NIbPoHAeOCtGAlEAbaXAiVcHxLAbbEFBBBbKBBBFHJlYYbeaPdMjpIEbcjUTeWGjlWcPbsCAceZAiLDoICbCE",
        "CDDABDYKNJHBbKYdSN"]),
    ("12.0",
      [
        "esTAuGACACABFEAHAHBCANAfkHAfpUAcBAwTAbtzMFCEbjRBbmbGWbrKAxCAbcPHCbTCKgDBbzMbXNAhqUIwj",
        "KFEAbVIdMBjcWFprCCRDsaQbSDNCJEBoEcFFAcjZAbkNcIbpEAcbGAbKAiVLlDCbVAbXAJAbPFDBKFDHCCbWd",
        "FbCDECFCNF"]),
    ("12.1", ["tiDA"]),
    ("13.0",
      [
        "diCJzDAqOAeUAfaJBgjUAbaUCbhOEkpIJbfdGMcySDbQBcBAbfVDbgqQAewXbPBCCBjUbBoPAfEBzAAFBbtMG",
        "CACHBBBbDBBCLJJckKAbejRALBkfXsObQIblwUCdPCcJAbyUBbJBqTBdMAdXAEBbQBGCbDAgMAODPSHGJCNGb",
        "PfQBcCbLJcmsJGbhtQhhY"]),
    ("14.0",
      [
        "ciFAwWbEBBGHVASKbhPAbGAeXAdwHAHAJAjFAbaNNeVAbWByLAbbHAeiOAbVAtFKbraTCcyIBOBBABEYCbftD",
        "AoRPeXAbUBcvGKBOBGBBBKBOBGBBrJFBbPBIcxXZiWFcYAcgSAfEGbhPPhwYdUwdXdABJbaeWDBGBBlCDliBb",
        "TCWJeLvDBeyVbEbhXbEbzDGBDBBBOfqKCkMApCAdEAgSBbSDKDICRCGHIGcncPBgeVD"]),
    ("15.0",
      [
        "exNAsGAdtaKCbfZCdiCJbnAQBbODbBhxDAJbCbvhKAbIAmrATerHFkBcJbHAbpWbPguCAfVCEEdLAzRCPBbKC",
        "LCBAOBKBMAOBcthOAbiwSgfF"]),
    ("15.1", ["seMDtBAkeiQxX"]),
    ("16.0",
      [
        "dgPAhcGBbVAkFBcwYCffEBbsqVCMCbjoLbZctWbLDbCIBlUCcDAbsLJBACABbLBJBACABDBJBBIBbcVTbvWbH",
        "OJbhGAhyZfxQkzTcFeoKcFlyJAxwIjPGqTitObQEAhcCJEBrNAFAbUAHAVACAJAiRbK"])]

def ageLetters (version : String) : String :=
  String.ofList ('v' :: version.toList.filter (· ≠ '.'))

def age? (name : String) : Option CharSet :=
  match ages.span fun a => a.1 ≠ name && ageLetters a.1 ≠ name with
  | (_, []) => none
  | (earlier, a :: _) => some ((earlier.map Prod.snd).foldl (fun set table =>
    set.union (readSet table))
      (readSet a.2))

end LayerAtlas.Unicode
