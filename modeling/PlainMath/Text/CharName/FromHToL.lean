/-
# `Text.CharName.FromHToL` — names of characters from H to L
-/
namespace PlainMath.Text.CharName

/-- The names that begin with letters from H to L.  A small letter begins a name and tells how
many words it has in common with the name before it: none for `a`, one for `b` and so on.  Lists
are kept short, and the names of one list have the same first letter. -/
def fromHToL : List (List String) := [
  ["aHADESaHAIR SPACEaHAIRCUTaHALFWIDTH BLACK SQUAREbDOWNWARDS ARROWbFORMS LIGHT VERTICAL",
    "bHANGUL FILLERcLETTER AdAEdCHIEUCHdCIEUCdEdEOdEUdHIEUHdIdIEUNGdKHIEUKHdKIYEOKdKIYEOK-SIOS",
    "dMIEUMdNIEUNdNIEUN-CIEUCdNIEUN-HIEUHdOdOEdPHIEUPHdPIEUPdPIEUP-SIOSdRIEULdRIEUL-HIEUH",
    "dRIEUL-KIYEOKdRIEUL-MIEUMdRIEUL-PHIEUPHdRIEUL-PIEUPdRIEUL-SIOSdRIEUL-THIEUTHdSIOS",
    "dSSANGCIEUCdSSANGKIYEOKdSSANGPIEUPdSSANGSIOSdSSANGTIKEUTdTHIEUTHdTIKEUTdUdWAdWAEdWEdWEOdWI",
    "dYAdYAEdYEdYEOdYIdYOdYUbIDEOGRAPHIC COMMAcFULL STOPbKATAKANA LETTER AdEdHAdHEdHIdHOdHUdI",
    "dKAdKEdKIdKOdKUdMAdMEdMIdMOdMUdNdNAdNEdNIdNOdNUdOdRAdREdRIdROdRUdSAdSEdSIdSMALL AeEeIeOeTU",
    "eUeYAeYOeYUdSOdSUdTAdTEdTIdTOdTUdUdWAdWOdYAdYOdYUcMIDDLE DOTcSEMI-VOICED SOUND MARK",
    "cVOICED SOUND MARKbKATAKANA-HIRAGANA PROLONGED SOUND MARKbLEFT CORNER BRACKET",
    "bLEFTWARDS ARROWbRIGHT CORNER BRACKETbRIGHTWARDS ARROWbUPWARDS ARROWbWHITE CIRCLE",
    "aHAMBURGERaHAMMERbAND PICKcSICKLEcWRENCHaHAMSAaHAMSTER FACE",
    "aHAND WITH INDEX AND MIDDLE FINGERS CROSSEDdFINGER AND THUMB CROSSEDaHANDBAGaHANDBALL",
    "aHANDSHAKEaHANGUL CHOSEONG CEONGCHIEUMCHIEUCHcCEONGCHIEUMCIEUCcCEONGCHIEUMSIOS",
    "cCEONGCHIEUMSSANGCIEUCcCEONGCHIEUMSSANGSIOScCHIEUCHcCHIEUCH-HIEUHcCHIEUCH-KHIEUKH",
    "cCHITUEUMCHIEUCHcCHITUEUMCIEUCcCHITUEUMSIOScCHITUEUMSSANGCIEUCcCHITUEUMSSANGSIOScCIEUC",
    "cCIEUC-IEUNGcFILLERcHIEUHcHIEUH-SIOScIEUNGcIEUNG-CHIEUCHcIEUNG-CIEUCcIEUNG-HIEUH",
    "cIEUNG-KIYEOKcIEUNG-MIEUMcIEUNG-PANSIOScIEUNG-PHIEUPHcIEUNG-PIEUPcIEUNG-RIEULcIEUNG-SIOS",
    "cIEUNG-THIEUTHcIEUNG-TIKEUTcKAPYEOUNMIEUMcKAPYEOUNPHIEUPHcKAPYEOUNPIEUPcKAPYEOUNRIEUL",
    "cKAPYEOUNSSANGPIEUPcKHIEUKHcKIYEOKcKIYEOK-TIKEUTcMIEUMcMIEUM-KIYEOKcMIEUM-PIEUPcMIEUM-SIOS",
    "cMIEUM-TIKEUTcNIEUNcNIEUN-CIEUCcNIEUN-HIEUHcNIEUN-KIYEOKcNIEUN-PIEUPcNIEUN-SIOS",
    "cNIEUN-TIKEUTcPANSIOScPHIEUPHcPHIEUPH-HIEUHcPHIEUPH-PIEUPcPIEUPcPIEUP-CHIEUCHcPIEUP-CIEUC",
    "cPIEUP-HIEUHcPIEUP-KHIEUKHcPIEUP-KIYEOKcPIEUP-NIEUNcPIEUP-PHIEUPHcPIEUP-SIOS",
    "cPIEUP-SIOS-CIEUCcPIEUP-SIOS-KIYEOKcPIEUP-SIOS-PIEUPcPIEUP-SIOS-THIEUTHcPIEUP-SIOS-TIKEUT",
    "cPIEUP-SSANGSIOScPIEUP-THIEUTHcPIEUP-TIKEUTcRIEULcRIEUL-CIEUCcRIEUL-HIEUH",
    "cRIEUL-KAPYEOUNPIEUPcRIEUL-KHIEUKHcRIEUL-KIYEOKcRIEUL-MIEUMcRIEUL-NIEUNcRIEUL-PIEUP",
    "cRIEUL-SIOScRIEUL-SSANGKIYEOKcRIEUL-SSANGPIEUPcRIEUL-SSANGTIKEUTcRIEUL-TIKEUTcSIOS",
    "cSIOS-CHIEUCHcSIOS-CIEUCcSIOS-HIEUHcSIOS-IEUNGcSIOS-KHIEUKHcSIOS-KIYEOKcSIOS-MIEUM",
    "cSIOS-NIEUNcSIOS-PHIEUPHcSIOS-PIEUPcSIOS-PIEUP-KIYEOKcSIOS-RIEULcSIOS-SSANGSIOS",
    "cSIOS-THIEUTHcSIOS-TIKEUTcSSANGCIEUCcSSANGCIEUC-HIEUHcSSANGHIEUHcSSANGIEUNGcSSANGKIYEOK",
    "cSSANGNIEUNcSSANGPIEUPcSSANGRIEULcSSANGSIOScSSANGSIOS-PIEUPcSSANGTHIEUTHcSSANGTIKEUT",
    "cSSANGYEORINHIEUHcTHIEUTHcTIKEUTcTIKEUT-CIEUCcTIKEUT-KIYEOKcTIKEUT-MIEUMcTIKEUT-PIEUP",
    "cTIKEUT-RIEULcTIKEUT-SIOScYEORINHIEUHcYESIEUNGbDOUBLE DOT TONE MARKbFILLER",
    "bJONGSEONG CHIEUCHcCIEUCcCIEUC-PIEUPcCIEUC-SSANGPIEUPcHIEUHcHIEUH-MIEUMcHIEUH-NIEUN",
    "cHIEUH-PIEUPcHIEUH-RIEULcIEUNGcIEUNG-KHIEUKHcIEUNG-KIYEOKcIEUNG-SSANGKIYEOKcKAPYEOUNMIEUM",
    "cKAPYEOUNPHIEUPHcKAPYEOUNPIEUPcKAPYEOUNRIEULcKHIEUKHcKIYEOKcKIYEOK-CHIEUCHcKIYEOK-HIEUH",
    "cKIYEOK-KHIEUKHcKIYEOK-NIEUNcKIYEOK-PIEUPcKIYEOK-RIEULcKIYEOK-SIOScKIYEOK-SIOS-KIYEOK",
    "cMIEUMcMIEUM-CHIEUCHcMIEUM-CIEUCcMIEUM-HIEUHcMIEUM-KIYEOKcMIEUM-NIEUNcMIEUM-PANSIOS",
    "cMIEUM-PIEUPcMIEUM-PIEUP-SIOScMIEUM-RIEULcMIEUM-SIOScMIEUM-SSANGNIEUNcMIEUM-SSANGSIOS",
    "cNIEUNcNIEUN-CHIEUCHcNIEUN-CIEUCcNIEUN-HIEUHcNIEUN-KIYEOKcNIEUN-PANSIOScNIEUN-RIEUL",
    "cNIEUN-SIOScNIEUN-THIEUTHcNIEUN-TIKEUTcPANSIOScPANSIOS-KAPYEOUNPIEUPcPANSIOS-PIEUPcPHIEUPH",
    "cPHIEUPH-PIEUPcPHIEUPH-SIOScPHIEUPH-THIEUTHcPIEUPcPIEUP-CHIEUCHcPIEUP-CIEUCcPIEUP-HIEUH",
    "cPIEUP-MIEUMcPIEUP-PHIEUPHcPIEUP-RIEULcPIEUP-RIEUL-PHIEUPHcPIEUP-SIOScPIEUP-SIOS-TIKEUT",
    "cPIEUP-TIKEUTcRIEULcRIEUL-HIEUHcRIEUL-KAPYEOUNPIEUPcRIEUL-KHIEUKHcRIEUL-KIYEOK",
    "cRIEUL-KIYEOK-HIEUHcRIEUL-KIYEOK-SIOScRIEUL-MIEUMcRIEUL-MIEUM-HIEUHcRIEUL-MIEUM-KIYEOK",
    "cRIEUL-MIEUM-SIOScRIEUL-NIEUNcRIEUL-PANSIOScRIEUL-PHIEUPHcRIEUL-PIEUPcRIEUL-PIEUP-HIEUH",
    "cRIEUL-PIEUP-PHIEUPHcRIEUL-PIEUP-SIOScRIEUL-PIEUP-TIKEUTcRIEUL-SIOScRIEUL-SSANGKIYEOK",
    "cRIEUL-SSANGSIOScRIEUL-THIEUTHcRIEUL-TIKEUTcRIEUL-TIKEUT-HIEUHcRIEUL-YEORINHIEUH",
    "cRIEUL-YEORINHIEUH-HIEUHcRIEUL-YESIEUNGcSIOScSIOS-CHIEUCHcSIOS-CIEUCcSIOS-HIEUH",
    "cSIOS-KAPYEOUNPIEUPcSIOS-KIYEOKcSIOS-MIEUMcSIOS-PANSIOScSIOS-PIEUPcSIOS-RIEULcSIOS-THIEUTH",
    "cSIOS-TIKEUTcSSANGCIEUCcSSANGIEUNGcSSANGKIYEOKcSSANGMIEUMcSSANGNIEUNcSSANGPIEUPcSSANGRIEUL",
    "cSSANGRIEUL-KHIEUKHcSSANGSIOScSSANGSIOS-KIYEOKcSSANGSIOS-TIKEUTcSSANGTIKEUT",
    "cSSANGTIKEUT-PIEUPcSSANGYESIEUNGcTHIEUTHcTIKEUTcTIKEUT-CHIEUCHcTIKEUT-CIEUCcTIKEUT-KIYEOK",
    "cTIKEUT-PIEUPcTIKEUT-RIEULcTIKEUT-SIOScTIKEUT-SIOS-KIYEOKcTIKEUT-THIEUTHcYEORINHIEUH",
    "cYESIEUNGcYESIEUNG-HIEUHcYESIEUNG-KHIEUKHcYESIEUNG-KIYEOKcYESIEUNG-MIEUMcYESIEUNG-PANSIOS",
    "cYESIEUNG-SIOScYESIEUNG-SSANGKIYEOKbJUNGSEONG AcA-EUcA-OcA-UcAEcARAEAcARAEA-AcARAEA-E",
    "cARAEA-EOcARAEA-IcARAEA-UcEcEOcEO-EUcEO-OcEO-UcEUcEU-AcEU-EcEU-EOcEU-EUcEU-OcEU-UcFILLERcI",
    "cI-AcI-ARAEAcI-EUcI-IcI-OcI-O-IcI-UcI-YAcI-YA-OcI-YAEcI-YEcI-YEOcI-YOcI-YUcOcO-EcO-EOcO-O",
    "cO-O-IcO-UcO-YAcO-YAEcO-YEcO-YEOcOEcSSANGARAEAcUcU-AcU-AEcU-EO-EUcU-I-IcU-UcU-YEcU-YEOcWA",
    "cWAEcWEcWEOcWIcYAcYA-OcYA-UcYA-YOcYAEcYEcYEOcYEO-OcYEO-UcYEO-YAcYIcYI-UcYOcYO-AcYO-AE",
    "cYO-EOcYO-IcYO-OcYO-YAcYO-YAEcYO-YEOcYUcYU-AcYU-AEcYU-EcYU-EOcYU-IcYU-OcYU-UcYU-YEcYU-YEO",
    "bLETTER AcAEcARAEAcARAEAEcCHIEUCHcCIEUCcEcEOcEUcHIEUHcIcIEUNGcKAPYEOUNMIEUM",
    "cKAPYEOUNPHIEUPHcKAPYEOUNPIEUPcKAPYEOUNSSANGPIEUPcKHIEUKHcKIYEOKcKIYEOK-SIOScMIEUM",
    "cMIEUM-PANSIOScMIEUM-PIEUPcMIEUM-SIOScNIEUNcNIEUN-CIEUCcNIEUN-HIEUHcNIEUN-PANSIOS",
    "cNIEUN-SIOScNIEUN-TIKEUTcOcOEcPANSIOScPHIEUPHcPIEUPcPIEUP-CIEUCcPIEUP-KIYEOKcPIEUP-SIOS",
    "cPIEUP-SIOS-KIYEOKcPIEUP-SIOS-TIKEUTcPIEUP-THIEUTHcPIEUP-TIKEUTcRIEULcRIEUL-HIEUH",
    "cRIEUL-KIYEOKcRIEUL-KIYEOK-SIOScRIEUL-MIEUMcRIEUL-PANSIOScRIEUL-PHIEUPHcRIEUL-PIEUP",
    "cRIEUL-PIEUP-SIOScRIEUL-SIOScRIEUL-THIEUTHcRIEUL-TIKEUTcRIEUL-YEORINHIEUHcSIOScSIOS-CIEUC",
    "cSIOS-KIYEOKcSIOS-NIEUNcSIOS-PIEUPcSIOS-TIKEUTcSSANGCIEUCcSSANGHIEUHcSSANGIEUNG",
    "cSSANGKIYEOKcSSANGNIEUNcSSANGPIEUPcSSANGSIOScSSANGTIKEUTcTHIEUTHcTIKEUTcUcWAcWAEcWEcWEOcWI",
    "cYAcYAEcYEcYEOcYEORINHIEUHcYESIEUNGcYESIEUNG-PANSIOScYESIEUNG-SIOScYIcYOcYO-IcYO-YAcYO-YAE",
    "cYUcYU-IcYU-YEcYU-YEObSINGLE DOT TONE MARKaHANGZHOU NUMERAL EIGHTcFIVEcFOURcNINEcONEcSEVEN",
    "cSIXcTENcTHIRTYcTHREEcTWENTYcTWOaHANIFI ROHINGYA DIGIT EIGHT"],
  ["aHANIFI ROHINGYA DIGIT FIVEdFOURdNINEdONEdSEVENdSIXdTHREEdTWOdZEROcLETTER AdBAdCAdDAdDDA",
    "dFAdGAdHAdJAdKAdKHAdKINNA WAeYAdLAdMAdNAdNGAdNYAdPAdRAdRRAdSAdSHAdTAdTTAdVAdWAdYAdZA",
    "cMARK NA KHONNAdSAKINcSIGN HARBAHAYdTAHALAdTANAdTASSIcVOWEL AdEdIdOdUaHANUNOO LETTER AcBA",
    "cDAcGAcHAcIcKAcLAcMAcNAcNGAcPAcRAcSAcTAcUcWAcYAbSIGN PAMUDPODbVOWEL SIGN IdU",
    "aHAPPY PERSON RAISING ONE HANDaHARD DISKaHATCHING CHICKaHATRAN LETTER ALEPHcAYNcBETH",
    "cDALETH-RESHcGIMELcHEcHETHcKAPHcLAMEDHcMEMcNUNcPEcQOPHcSADHEcSAMEKHcSHINcTAWcTETHcWAWcYODH",
    "cZAYNbNUMBER FIVEcONEdHUNDREDcTENcTWENTYaHEADPHONEaHEADSTONEbGRAVEYARD SYMBOL",
    "aHEAR-NO-EVIL MONKEYaHEART DECORATIONbHANDSbWITH ARROWcRIBBONcTIP ON THE LEFT",
    "aHEAVY AMPERSAND ORNAMENTbARROW SHAFT WIDTH ONEfHALFfTHIRDeTWO THIRDSbASTERISKbBALLOT X",
    "bBLACK CURVED DOWNWARDS AND RIGHTWARDS ARROWdUPWARDS AND RIGHTWARDS ARROWcHEART",
    "bBLACK-FEATHERED NORTH EAST ARROWcRIGHTWARDS ARROWcSOUTH EAST ARROWbCHECK MARK",
    "bCHEVRON SNOWFLAKEbCIRCLEcWITH CIRCLE INSIDEdSTROKE AND TWO DOTS ABOVEbCIRCLED SALTIRE",
    "bCONCAVE-POINTED BLACK RIGHTWARDS ARROWbDASHED TRIANGLE-HEADED RIGHTWARDS ARROW",
    "bDIVISION SIGNbDOLLAR SIGNbDOUBLE COMMA QUOTATION MARK ORNAMENT",
    "cTURNED COMMA QUOTATION MARK ORNAMENTbDOWNWARDS ARROW WITH EQUILATERAL ARROWHEAD",
    "eLARGE EQUILATERAL ARROWHEADbEIGHT POINTED BLACK STARdPINWHEEL STARdRECTILINEAR BLACK STAR",
    "cSPOKED ASTERISKcTEARDROP-SPOKED PROPELLER ASTERISKbEQUALS SIGNbEXCLAMATION MARK ORNAMENT",
    "dSYMBOLbFIVE POINTED BLACK STARcSPOKED ASTERISKbFOUR BALLOON-SPOKED ASTERISKbGREEK CROSS",
    "bHEART EXCLAMATION MARK ORNAMENTbHORIZONTAL FILLbINTERROBANG ORNAMENTbLARGE CIRCLE",
    "bLATIN CROSSbLEFT-POINTING ANGLE BRACKET ORNAMENTdQUOTATION MARK ORNAMENT",
    "bLEFTWARDS ARROW WITH EQUILATERAL ARROWHEADeLARGE EQUILATERAL ARROWHEAD",
    "bLIGATURE OPEN ET ORNAMENTbLOW DOUBLE COMMA QUOTATION MARK ORNAMENT",
    "cSINGLE COMMA QUOTATION MARK ORNAMENTbLOWER RIGHT-SHADOWED WHITE RIGHTWARDS ARROW",
    "bMINUS SIGNbMULTIPLICATION XbNORTH EAST ARROWdPOINTING BUDeVINE LEAFcWEST POINTING BUD",
    "eVINE LEAFbOPEN CENTRE CROSSbOUTLINED BLACK STARbOVAL WITH OVAL INSIDEbPLUS SIGN",
    "bRIGHT-POINTING ANGLE BRACKET ORNAMENTdQUOTATION MARK ORNAMENTbRIGHTWARDS ARROW",
    "dWITH EQUILATERAL ARROWHEADeLARGE EQUILATERAL ARROWHEADbROUND-TIPPED RIGHTWARDS ARROW",
    "bSALTIREbSANS-SERIF INTERROBANG ORNAMENTbSCRIPT LIGATURE ET ORNAMENT",
    "bSINGLE COMMA QUOTATION MARK ORNAMENTcTURNED COMMA QUOTATION MARK ORNAMENT",
    "bSIX POINTED BLACK STARcSPOKED ASTERISKbSOUTH EAST ARROWdPOINTING BUDeVINE LEAF",
    "cWEST POINTING BUDeVINE LEAFbSPARKLEbTEARDROP-SHANKED RIGHTWARDS ARROW",
    "bTEARDROP-SPOKED ASTERISKcPINWHEEL ASTERISKbTRIANGLE-HEADED RIGHTWARDS ARROW",
    "bTWELVE POINTED BLACK STARdPINWHEEL STARbUPPER RIGHT-SHADOWED WHITE RIGHTWARDS ARROW",
    "bUPWARDS ARROW WITH EQUILATERAL ARROWHEADeLARGE EQUILATERAL ARROWHEADbVERTICAL BAR",
    "bWEDGE-TAILED RIGHTWARDS ARROWbWHITE CIRCLEcDOWN-POINTING TRIANGLEcSQUARE",
    "bWIDE-HEADED RIGHTWARDS ARROWaHEBREW ACCENT ATNAH HAFUKHcDARGAcDEHIcETNAHTAcGERESHdMUQDAM",
    "cGERSHAYIMcILUYcMAHAPAKHcMERKHAdKEFULAcMUNAHcOLEcPASHTAcPAZERcQADMAcQARNEY PARAcREVIA",
    "cSEGOLcSHALSHELETcTELISHA GEDOLAdQETANAcTEVIRcTIPEHAcYERAH BEN YOMOcYETIVcZAQEF GADOL",
    "dQATANcZARQAcZINORbLETTER ALEFdWITH MAPIQePATAHeQAMATScALTERNATIVE AYINdPLUS SIGNcAYINcBET",
    "dWITH DAGESHeRAFEcDALETdWITH DAGESHcFINAL KAFeWITH DAGESHdMEMdNUNdPEeWITH DAGESHdTSADI",
    "cGIMELdWITH DAGESHcHEdWITH MAPIQcHETcKAFdWITH DAGESHeRAFEcLAMEDdWITH DAGESHcMEM",
    "dWITH DAGESHcNUNdWITH DAGESHcPEdWITH DAGESHeRAFEcQOFdWITH DAGESHcRESHdWITH DAGESHcSAMEKH",
    "dWITH DAGESHcSHINdWITH DAGESHfAND SHIN DOTgSIN DOTeSHIN DOTeSIN DOTcTAVdWITH DAGESHcTET",
    "dWITH DAGESHcTSADIdWITH DAGESHcVAVdWITH DAGESHeHOLAMcWIDE ALEFdDALETdFINAL MEMdHEdKAF",
    "dLAMEDdRESHdTAVcYODdWITH DAGESHeHIRIQcZAYINdWITH DAGESHbLIGATURE ALEF LAMED",
    "cYIDDISH DOUBLE VAVeYODdVAV YODdYOD YOD PATAHbMARK LOWER DOTcMASORA CIRCLEcUPPER DOT",
    "bPOINT DAGESH OR MAPIQcHATAF PATAHdQAMATSdSEGOLcHIRIQcHOLAMdHASER FOR VAV",
    "cJUDEO-SPANISH VARIKAcMETEGcPATAHcQAMATSdQATANcQUBUTScRAFEcSEGOLcSHEVAcSHIN DOTcSIN DOT",
    "cTSEREbPUNCTUATION GERESHcGERSHAYIMcMAQAFcNUN HAFUKHAcPASEQcSOF PASUQbYOD TRIANGLE",
    "aHEDGEHOGaHELICOPTERaHELLSCHREIBER PAUSE SYMBOLaHELM SYMBOLaHELMET WITH WHITE CROSS",
    "aHENTAIGANA LETTER A-1cA-2cA-3cA-WOcE-1cE-2cE-3cE-4cE-5cE-6cHA-1cHA-10cHA-11cHA-2cHA-3",
    "cHA-4cHA-5cHA-6cHA-7cHA-8cHA-9cHE-1cHE-2cHE-3cHE-4cHE-5cHE-6cHE-7cHI-1cHI-2cHI-3cHI-4cHI-5",
    "cHI-6cHI-7cHO-1cHO-2cHO-3cHO-4cHO-5cHO-6cHO-7cHO-8cHU-1cHU-2cHU-3cI-1cI-2cI-3cI-4cKA-1",
    "cKA-10cKA-11cKA-2cKA-3cKA-4cKA-5cKA-6cKA-7cKA-8cKA-9cKA-KEcKE-1cKE-2cKE-3cKE-4cKE-5cKE-6",
    "cKI-1cKI-2cKI-3cKI-4cKI-5cKI-6cKI-7cKI-8cKO-1cKO-2cKO-3cKO-KIcKU-1cKU-2cKU-3cKU-4cKU-5",
    "cKU-6cKU-7cMA-1cMA-2cMA-3cMA-4cMA-5cMA-6cMA-7cME-1cME-2cME-MAcMI-1cMI-2cMI-3cMI-4cMI-5",
    "cMI-6cMI-7cMO-1cMO-2cMO-3cMO-4cMO-5cMO-6cMU-1cMU-2cMU-3cMU-4cN-MU-MO-1cN-MU-MO-2cNA-1cNA-2",
    "cNA-3cNA-4cNA-5cNA-6cNA-7cNA-8cNA-9cNE-1cNE-2cNE-3cNE-4cNE-5cNE-6cNE-KOcNI-1cNI-2cNI-3",
    "cNI-4cNI-5cNI-6cNI-7cNI-TEcNO-1cNO-2cNO-3cNO-4cNO-5cNU-1cNU-2cNU-3cO-1cO-2cO-3cRA-1cRA-2",
    "cRA-3cRA-4cRE-1cRE-2cRE-3cRE-4cRI-1cRI-2cRI-3cRI-4cRI-5cRI-6cRI-7cRO-1cRO-2cRO-3cRO-4cRO-5",
    "cRO-6cRU-1cRU-2cRU-3cRU-4cRU-5cRU-6cSA-1cSA-2cSA-3cSA-4cSA-5cSA-6cSA-7cSA-8cSE-1cSE-2cSE-3",
    "cSE-4cSE-5cSI-1cSI-2cSI-3cSI-4cSI-5cSI-6cSO-1cSO-2cSO-3cSO-4cSO-5cSO-6cSO-7cSU-1cSU-2cSU-3",
    "cSU-4cSU-5cSU-6cSU-7cSU-8cTA-1cTA-2cTA-3cTA-4cTE-1cTE-2cTE-3cTE-4cTE-5cTE-6cTE-7cTE-8cTE-9",
    "cTI-1cTI-2cTI-3cTI-4cTI-5cTI-6cTI-7cTO-1cTO-2cTO-3cTO-4cTO-5cTO-6cTO-RAcTU-1cTU-2cTU-3",
    "cTU-4cTU-TOcU-1cU-2cU-3cU-4cU-5cWA-1cWA-2cWA-3cWA-4cWA-5cWE-1cWE-2cWE-3cWE-4cWI-1cWI-2",
    "cWI-3cWI-4cWI-5cWO-1cWO-2cWO-3cWO-4cWO-5cWO-6cWO-7cYA-1cYA-2cYA-3cYA-4cYA-5cYA-YOcYO-1",
    "cYO-2cYO-3cYO-4cYO-5cYO-6cYU-1cYU-2cYU-3cYU-4aHERBaHERMITIAN CONJUGATE MATRIX",
    "aHEXAGRAM FOR ABUNDANCEcAFTER COMPLETIONcAPPROACHcBEFORE COMPLETIONcBITING THROUGH",
    "cBREAKTHROUGHcCOMING TO MEETcCONFLICTcCONTEMPLATIONcDARKENING OF THE LIGHTcDECREASE",
    "cDELIVERANCEcDEVELOPMENTcDIFFICULTY AT THE BEGINNINGcDISPERSIONcDURATIONcENTHUSIASM",
    "cFELLOWSHIPcFOLLOWINGcGATHERING TOGETHERcGRACEcGREAT POSSESSIONdPOWERdPREPONDERANCEdTAMING",
    "cHOLDING TOGETHERcINCREASEcINFLUENCEcINNER TRUTHcINNOCENCEcLIMITATIONcMODESTY",
    "cMOUTH CORNERScOBSTRUCTIONcOPPOSITIONcOPPRESSIONcPEACE"],
  ["aHEXAGRAM FOR PROGRESScPUSHING UPWARDcRETREATcRETURNcREVOLUTIONcSMALL PREPONDERANCEdTAMING",
    "cSPLITTING APARTcSTANDSTILLcTHE ABYSMAL WATERdARMYdAROUSING THUNDERdCAULDRONdCLINGING FIRE",
    "dCREATIVE HEAVENdFAMILYdGENTLE WINDdJOYOUS LAKEdKEEPING STILL MOUNTAINdMARRYING MAIDEN",
    "dRECEPTIVE EARTHdWANDERERdWELLcTREADINGcWAITINGcWORK ON THE DECAYEDcYOUTHFUL FOLLY",
    "aHIBISCUSaHIGH BRIGHTNESS SYMBOLbOCTET PRESETbVOLTAGE SIGNaHIGH-HEELED SHOE",
    "aHIGH-SPEED TRAINcWITH BULLET NOSEaHIKING BOOTaHINDU TEMPLEaHIPPOPOTAMUS",
    "aHIRAGANA DIGRAPH YORIbITERATION MARKbLETTER AcARCHAIC WUdYEcBAcBEcBIcBOcBUcDAcDEcDIcDOcDU",
    "cEcGAcGEcGIcGOcGUcHAcHEcHIcHOcHUcIcKAcKEcKIcKOcKUcMAcMEcMIcMOcMUcNcNAcNEcNIcNOcNUcOcPAcPE",
    "cPIcPOcPUcRAcREcRIcROcRUcSAcSEcSIcSMALL AdEdIdKAdKEdOdTUdUdWAdWEdWIdWOdYAdYOdYUcSOcSUcTA",
    "cTEcTIcTOcTUcUcVUcWAcWEcWIcWOcYAcYOcYUcZAcZEcZIcZOcZUbVOICED ITERATION MARKaHISTORIC SITE",
    "aHOCHOaHOLEaHOLLOW QUILT SQUARE ORNAMENTeIN BLACK SQUAREaHOMOTHETICaHONEY POTaHONEYBEE",
    "aHOOKaHOPaHORIZONTAL BARbBLACK HEXAGONcOCTAGONbELLIPSISbLINE EXTENSION",
    "bMALE WITH STROKE SIGNbONE EIGHTH BLOCK-1358dBLOCK-2dBLOCK-3dBLOCK-4dBLOCK-5dBLOCK-6",
    "dBLOCK-7bSCAN LINE-1cLINE-3cLINE-7cLINE-9bTAB KEYbTABULATIONcSETcWITH JUSTIFICATION",
    "bTRAFFIC LIGHTaHORSEbFACEbRACINGaHOSPITALaHOT BEVERAGEbDOGbPEPPERbSPRINGSaHOTELaHOURGLASS",
    "bWITH FLOWING SANDaHOUSEbBUILDINGbBUILDINGSbWITH GARDENaHRYVNIA SIGNaHTaHTJaHTS",
    "aHUGGING FACEaHUNDRED POINTS SYMBOLaHUSHED FACEaHUTaHYGIEAaHYPHENbBULLETbWITH DIAERESIS",
    "aHYPHEN-MINUSaHYPHENATION POINTaHYPODIASTOLEaHYSTERESIS SYMBOL"],
  ["aI LOVE YOU HAND SIGNaICE CREAMbCUBEbHOCKEY STICK AND PUCKbSKATEaIDENTICAL TO",
    "cAND SLANTED PARALLELbWITH DOT ABOVEaIDENTIFICATION CARD",
    "aIDEOGRAPHIC ANNOTATION BOTTOM MARKcEARTH MARKcFIRST MARKcFOUR MARKcFOURTH MARK",
    "cHEAVEN MARKcLINKING MARKcMAN MARKcMIDDLE MARKcONE MARKcREVERSE MARKcSECOND MARK",
    "cTHIRD MARKcTHREE MARKcTOP MARKcTWO MARKbCLOSING MARKbCOMMAbDEPARTING TONE MARK",
    "bDESCRIPTION CHARACTER ABOVE TO BELOWfMIDDLE AND BELOWdFULL SURROUND",
    "dLEFT TO MIDDLE AND RIGHTfRIGHTdOVERLAIDdSURROUND FROM ABOVEfBELOWfLEFTfLOWER LEFT",
    "fUPPER LEFTgRIGHTbENTERING TONE MARKbFULL STOPbHALF FILL SPACEbITERATION MARK",
    "bLEVEL TONE MARKbNUMBER ZERObRISING TONE MARKbSPACEbTALLY MARK FIVEdFOURdONEdTHREEdTWO",
    "bTELEGRAPH LINE FEED SEPARATOR SYMBOLcSYMBOL FOR APRILeAUGUSTeDAY EIGHTfEIGHTEENfELEVEN",
    "fFIFTEENfFIVEfFOURfFOURTEENfNINEfNINETEENfONEfSEVENfSEVENTEENfSIXfSIXTEENfTENfTHIRTEEN",
    "fTHIRTYfTHIRTY-ONEfTHREEfTWELVEfTWENTYfTWENTY-EIGHTfTWENTY-FIVEfTWENTY-FOURfTWENTY-NINE",
    "fTWENTY-ONEfTWENTY-SEVENfTWENTY-SIXfTWENTY-THREEfTWENTY-TWOfTWOeDECEMBEReFEBRUARY",
    "eHOUR EIGHTfEIGHTEENfELEVENfFIFTEENfFIVEfFOURfFOURTEENfNINEfNINETEENfONEfSEVENfSEVENTEEN",
    "fSIXfSIXTEENfTENfTHIRTEENfTHREEfTWELVEfTWENTYfTWENTY-FOURfTWENTY-ONEfTWENTY-THREE",
    "fTWENTY-TWOfTWOfZEROeJANUARYeJULYeJUNEeMARCHeMAYeNOVEMBEReOCTOBEReSEPTEMBER",
    "bVARIATION INDICATORaIMAGE OFcOR APPROXIMATELY EQUAL TOaIMPaIMPERIAL ARAMAIC LETTER ALEPH",
    "dAYINdBETHdDALETHdGIMELdHEdHETHdKAPHdLAMEDHdMEMdNUNdPEdQOPHdRESHdSADHEdSAMEKHdSHINdTAW",
    "dTETHdWAWdYODHdZAYINcNUMBER ONEeHUNDREDeTHOUSANDdTENeTHOUSANDdTHREEdTWENTYdTWO",
    "cSECTION SIGNaINBOX TRAYaINCOMING ENVELOPEaINCOMPLETE INFINITYaINCREASE FONT SIZE SYMBOL",
    "aINCREASES ASaINCREMENTaINDaINDEXbPOINTING AT THE VIEWERaINDIAN RUPEE SIGN",
    "aINDIC SIYAQ ALTERNATE LAKH MARKcFRACTION ONE HALFeQUARTERdTHREE QUARTERScLAKH MARK",
    "cNUMBER ALTERNATE ONEeTEN THOUSANDeTWOdEIGHTeHUNDREDeTHOUSANDdEIGHTYeTHOUSANDdFIFTY",
    "eTHOUSANDdFIVEeHUNDREDeTHOUSANDdFORTYeTHOUSANDdFOUReHUNDREDeTHOUSANDdKARORdKARORANdLAKH",
    "dLAKHANdNINEeHUNDREDeTHOUSANDdNINETYeTHOUSANDdONEeHUNDREDeTHOUSANDdPREFIXED EIGHTeFIVE",
    "eFOUReNINEeONEeSEVENeSIXeTHREEeTWOdSEVENeHUNDREDeTHOUSANDdSEVENTYeTHOUSANDdSIXeHUNDRED",
    "eTHOUSANDdSIXTYeTHOUSANDdTENeTHOUSANDdTHIRTYeTHOUSANDdTHREEeHUNDREDeTHOUSANDdTWENTY",
    "eTHOUSANDdTWOeHUNDREDeTHOUSANDcPLACEHOLDERcRUPEE MARKaINFINITYbNEGATED WITH VERTICAL BAR",
    "aINFORMATION DESK PERSONbSEPARATOR FOURcONEcTHREEcTWObSOURCEaINHIBIT ARABIC FORM SHAPING",
    "bSYMMETRIC SWAPPINGaINPUT SYMBOL FOR LATIN CAPITAL LETTERSeLETTERSeSMALL LETTERSdNUMBERS",
    "dSYMBOLSaINSCRIPTIONAL PAHLAVI LETTER ALEPHdBETHdDALETHdGIMELdHEdHETHdKAPHdLAMEDHdMEM-QOPH",
    "dNUNdPEdSADHEdSAMEKHdSHINdTAWdTETHdWAW-AYIN-RESHdYODHdZAYINcNUMBER FOURdONEeHUNDRED",
    "eTHOUSANDdTENdTHREEdTWENTYdTWObPARTHIAN LETTER ALEPHdAYINdBETHdDALETHdGIMELdHEdHETHdKAPH",
    "dLAMEDHdMEMdNUNdPEdQOPHdRESHdSADHEdSAMEKHdSHINdTAWdTETHdWAWdYODHdZAYINcNUMBER FOURdONE",
    "eHUNDREDeTHOUSANDdTENdTHREEdTWENTYdTWOaINSERTION SYMBOLaINTEGRALbAROUND A POINT OPERATOR",
    "bAVERAGE WITH SLASHbEXTENSIONbWITH DOUBLE STROKEcINTERSECTIONcLEFTWARDS ARROW WITH HOOK",
    "cOVERBARcTIMES SIGNcUNDERBARcUNIONaINTERCALATEaINTERIOR PRODUCT",
    "aINTERLINEAR ANNOTATION ANCHORcSEPARATORcTERMINATORaINTERLOCKED FEMALE AND MALE SIGN",
    "aINTERROBANGaINTERSECTIONbABOVE BAR ABOVE UNIONcUNIONbBESIDE AND JOINED WITH INTERSECTION",
    "bWITH DOTcLOGICAL ANDcOVERBARaINVERSE BULLETbCHECK MARKbCHECKER BOARD FILL",
    "bDOWNWARDS ARROW WITH TIP LEFTWARDSbMEDIUM SHADEbWHITE CIRCLEaINVERTED EXCLAMATION MARK",
    "bINTERROBANGbLAZY SbLOW KAVYKAdWITH KAVYKA ABOVEbOHM SIGNbPENTAGRAMbQUESTION MARKbUNDERTIE",
    "aINVISIBLE PLUSbSEPARATORbTIMESaIZAKAYA LANTERN"],
  ["aJACK-O-LANTERNaJAPANESE BANK SYMBOLbCASTLEbDOLLSbGOBLINbINDUSTRIAL STANDARD SYMBOLbOGRE",
    "bPOST OFFICEbSYMBOL FOR BEGINNERaJARaJAVANESE CONSONANT SIGN CAKRAdKERETdPENGKAL",
    "bDIGIT EIGHTcFIVEcFOURcNINEcONEcSEVENcSIXcTHREEcTWOcZERObLEFT RERENGGANbLETTER AcAIcBA",
    "dMURDAcCAdMURDAcDAdMAHAPRANAcDDAdMAHAPRANAcEcGAdMURDAcHAcIdKAWIcIIcJAdMAHAPRANAcKAdMURDA",
    "dSASAKcLAcMAcNAdMURDAcNGAdLELETeRASWADIcNYAdMURDAcOcPAdCEREKdMURDAcRAdAGUNGcSAdMAHAPRANA",
    "dMURDAcTAdMURDAcTTAdMAHAPRANAcUcWAcYAbPADA ADEGdADEGcANDAPcISEN-ISENcLINGSAcLUHURcLUNGSI",
    "cMADYAcPANGKATcPISELEHcTIRTA TUMETEScWINDUbPANGKONbPANGRANGKEPbRIGHT RERENGGANbSIGN CECAK",
    "dTELUcLAYARcPANYANGGAcWIGNYANbTURNED PADA PISELEHbVOWEL SIGN DIRGA MUREdPEPETdSUKUeMENDUT",
    "dTALINGdTARUNGdTOLONGdWULUeMELIKaJEANSaJIGSAW PUZZLE PIECEaJOINaJOYSTICKaJUGGLINGaJUNO",
    "aJUPITER"],
  ["aKAABAaKAITHI ABBREVIATION SIGNbDANDAbDOUBLE DANDAcSECTION MARKbENUMERATION SIGNbLETTER A",
    "cAAcAIcAUcBAcBHAcCAcCHAcDAcDDAcDDDHAcDDHAcDHAcEcGAcGHAcHAcIcIIcJAcJHAcKAcKHAcLAcMAcNAcNGA",
    "cNNAcNYAcOcPAcPHAcRAcRHAcSAcSHAcSSAcTAcTHAcTTAcTTHAcUcUUcVAcYAbNUMBER SIGNdABOVE",
    "bSECTION MARKbSIGN ANUSVARAcCANDRABINDUcNUKTAcVIRAMAcVISARGAbVOWEL SIGN AAdAIdAUdEdIdIIdO",
    "dUdUUdVOCALIC RaKANGAROOaKANGXI RADICAL AGAINcANDcARRIVEcARROWcAXEcBADGERcBAMBOOcBEANcBIG",
    "cBIRDcBITTERcBLACKcBLOODcBLUEcBOATcBODYcBOLT OF CLOTHcBONEcBOWcBRANCHcBRISTLEcBRUSHcCART",
    "cCAULDRONcCAVEcCHILDcCITYcCLANcCLAWcCLIFFcCLOTHEScCOLORcCOMPAREcCORPSEcCOVERcCOWcDEATH",
    "cDEERcDIPPERcDISHcDISTINGUISHcDIVINATIONcDO NOTcDOGcDOORcDOTcDOTTED CLIFFdTENTcDOUBLE X",
    "cDOWN BOXcDRAGONcDRUMcDRYcEARcEARTHcEATcEIGHTcEMBROIDERYcENCLOSUREcENTERcEVENcEVENINGcEYE",
    "cFACEcFANGcFATHERcFEATHERcFIELDcFIGHTcFIREcFISHcFLUTEcFLYcFOOTcFRAGRANTcFROGcFURcGATE",
    "cGHOSTcGOdSLOWLYcGOLDcGRAINcGRASScHAIRcHALBERDcHALF TREE TRUNKcHANDcHEADcHEARTcHEMP",
    "cHIDING ENCLOSUREcHOOKcHORNcHORSEcICEcINCHcINSECTcJADEcJARcKNIFEcLACKcLAMEcLEAFcLEATHER",
    "cLEEKcLEGScLIDcLIFEcLINEcLONGdSTRIDEcMANcMEATcMELONcMILLETcMINISTERcMOONcMORNINGcMORTAR",
    "cMOUNDcMOUNTAINcMOUTHcNETcNOSEcNOTcOLDcONEcONESELFcOPEN BOXcOPPOSEcPIGcPLOWcPOWERcPRIVATE",
    "cPROFOUNDcRAINcRAPcRATcREDcRICEcRIGHT OPEN BOXcRIVERcROOFcRUNcSACRIFICIAL WINEcSALTcSAY",
    "cSCHOLARcSCRIPTcSEALcSECONDcSEEcSELFcSHEEPcSHELLcSHOOTcSHORT TAILED BIRDdTHREADcSICKNESS",
    "cSILKcSKINcSLASHcSLAVEcSLICEcSMALLcSNOUTcSOUNDcSPEARcSPEECHcSPIRITcSPOONcSPROUTcSQUARE",
    "cSTANDcSTEAMcSTEPcSTONEcSTOPcSTOPPINGcSUNcSWEETcTABLEcTALLcTANNED LEATHERcTENcTIGERcTILE",
    "cTONGUEcTOOTHcTRACKcTREEcTRIPODcTURBANcTURTLEcTWOdHANDScUSEcVALLEYcVILLAGEcWALKdENCLOSURE",
    "cWATERcWEAPONcWESTcWHEATcWHITEcWINDcWINEcWOMANcWORKcWRAPcWRONGcYELLOW",
    "aKANNADA AI LENGTH MARKbDIGIT EIGHTcFIVEcFOURcNINEcONEcSEVENcSIXcTHREEcTWOcZERO",
    "bLENGTH MARKbLETTER AcAAcAIcAUcBAcBHAcCAcCHAcDAcDDAcDDHAcDHAcEcEEcFAcGAcGHAcHAcIcIIcJAcJHA",
    "cKAcKHAcLAcLLAcLLLAcMAcNAcNAKAARA POLLUcNGAcNNAcNYAcOcOOcPAcPHAcRAcRRAcSAcSHAcSSAcTAcTHA",
    "cTTAcTTHAcUcUUcVAcVOCALIC LdLLdRdRRcYAbSIGN ANUSVARAcAVAGRAHAcCANDRABINDUcJIHVAMULIYA",
    "cNUKTAcSIDDHAMcSPACING CANDRABINDUcUPADHMANIYAcVIRAMAcVISARGAbVOWEL SIGN AAdAIdAUdEdEEdI",
    "dIIdOdOOdUdUUdVOCALIC LeLLeReRRaKATAKANA DIGRAPH KOTObITERATION MARKbLETTER AcARCHAIC EdWU",
    "dYEdYIcBAcBEcBIcBOcBUcDAcDEcDIcDOcDUcEcGAcGEcGIcGOcGUcHAcHEcHIcHOcHUcIcKAcKEcKIcKOcKUcMA",
    "cMEcMIcMINNAN NASALIZED TONE-1eTONE-2eTONE-3eTONE-4eTONE-5eTONE-7eTONE-8dTONE-2dTONE-3",
    "dTONE-4dTONE-5dTONE-7dTONE-8cMOcMUcNcNAcNEcNIcNOcNUcOcPAcPEcPIcPOcPUcRAcREcRIcROcRUcSAcSE",
    "cSIcSMALL AdEdHAdHEdHIdHOdHUdIdKAdKEdKUdMUdNdNUdOdRAdREdRIdROdRUdSIdSUdTOdTUdUdWAdWEdWIdWO",
    "dYAdYOdYUcSOcSUcTAcTEcTIcTOcTUcUcVAcVEcVIcVOcVUcWAcWEcWIcWOcYAcYOcYUcZAcZEcZIcZOcZU",
    "bMIDDLE DOTbVOICED ITERATION MARKaKATAKANA-HIRAGANA DOUBLE HYPHENbPROLONGED SOUND MARK",
    "bSEMI-VOICED SOUND MARKbVOICED SOUND MARKaKAYAH LI DIGIT EIGHTdFIVEdFOURdNINEdONEdSEVEN",
    "dSIXdTHREEdTWOdZEROcLETTER AdBAdCAdDAdGAdHAdHTAdIdKAdKHAdLAdMAdNAdNGAdNYAdOEdOOdPAdPHAdRA",
    "dSAdSHAdTAdTHAdVAdWAdYAdZAcSIGN CWIdSHYAcTONE CALYAePLOPHUdPLOPHUcVOWEL EdEEdOdUdUE",
    "aKELVIN SIGNaKEYaKEYBOARDbAND MOUSEaKEYCAP TENaKHAROSHTHI DIGIT FOURcONEcTHREEcTWO",
    "bFRACTION ONE HALFbLETTER AcBAcBHAcCAcCHAcDAcDDAcDDHAcDHAcGAcGHAcHAcJAcKAcKHAcKKAcLAcMAcNA",
    "cNNAcNYAcPAcPHAcRAcSAcSHAcSSAcTAcTHAcTTAcTTHAcTTTAcTTTHAcVAcVHAcYAcZAbNUMBER ONE HUNDRED",
    "dTHOUSANDcTENcTWENTYbPUNCTUATION CIRCLEcCRESCENT BARcDANDAcDOTcDOUBLE DANDAcLINEScLOTUS",
    "cMANGALAMcSMALL CIRCLEbSIGN ANUSVARAcBAR ABOVEcCAUDAcDOT BELOWcDOUBLE RING BELOWcVISARGA",
    "bVIRAMAbVOWEL LENGTH MARKcSIGN EdIdOdUdVOCALIC RaKHITAN SMALL SCRIPT CHARACTER-18B00",
    "dCHARACTER-18B01dCHARACTER-18B02dCHARACTER-18B03dCHARACTER-18B04dCHARACTER-18B05",
    "dCHARACTER-18B06dCHARACTER-18B07dCHARACTER-18B08dCHARACTER-18B09dCHARACTER-18B0A",
    "dCHARACTER-18B0BdCHARACTER-18B0CdCHARACTER-18B0DdCHARACTER-18B0EdCHARACTER-18B0F",
    "dCHARACTER-18B10dCHARACTER-18B11dCHARACTER-18B12dCHARACTER-18B13dCHARACTER-18B14",
    "dCHARACTER-18B15dCHARACTER-18B16dCHARACTER-18B17dCHARACTER-18B18dCHARACTER-18B19",
    "dCHARACTER-18B1AdCHARACTER-18B1BdCHARACTER-18B1CdCHARACTER-18B1DdCHARACTER-18B1E",
    "dCHARACTER-18B1FdCHARACTER-18B20dCHARACTER-18B21dCHARACTER-18B22dCHARACTER-18B23",
    "dCHARACTER-18B24dCHARACTER-18B25dCHARACTER-18B26dCHARACTER-18B27dCHARACTER-18B28",
    "dCHARACTER-18B29dCHARACTER-18B2AdCHARACTER-18B2BdCHARACTER-18B2CdCHARACTER-18B2D",
    "dCHARACTER-18B2EdCHARACTER-18B2FdCHARACTER-18B30dCHARACTER-18B31dCHARACTER-18B32",
    "dCHARACTER-18B33dCHARACTER-18B34dCHARACTER-18B35dCHARACTER-18B36dCHARACTER-18B37",
    "dCHARACTER-18B38dCHARACTER-18B39dCHARACTER-18B3AdCHARACTER-18B3BdCHARACTER-18B3C",
    "dCHARACTER-18B3DdCHARACTER-18B3EdCHARACTER-18B3FdCHARACTER-18B40dCHARACTER-18B41",
    "dCHARACTER-18B42dCHARACTER-18B43dCHARACTER-18B44dCHARACTER-18B45dCHARACTER-18B46",
    "dCHARACTER-18B47dCHARACTER-18B48dCHARACTER-18B49dCHARACTER-18B4AdCHARACTER-18B4B",
    "dCHARACTER-18B4CdCHARACTER-18B4DdCHARACTER-18B4EdCHARACTER-18B4FdCHARACTER-18B50",
    "dCHARACTER-18B51dCHARACTER-18B52dCHARACTER-18B53dCHARACTER-18B54dCHARACTER-18B55",
    "dCHARACTER-18B56dCHARACTER-18B57dCHARACTER-18B58dCHARACTER-18B59dCHARACTER-18B5A",
    "dCHARACTER-18B5BdCHARACTER-18B5CdCHARACTER-18B5DdCHARACTER-18B5EdCHARACTER-18B5F",
    "dCHARACTER-18B60dCHARACTER-18B61dCHARACTER-18B62dCHARACTER-18B63dCHARACTER-18B64",
    "dCHARACTER-18B65dCHARACTER-18B66dCHARACTER-18B67dCHARACTER-18B68dCHARACTER-18B69",
    "dCHARACTER-18B6AdCHARACTER-18B6BdCHARACTER-18B6CdCHARACTER-18B6DdCHARACTER-18B6E",
    "dCHARACTER-18B6FdCHARACTER-18B70dCHARACTER-18B71dCHARACTER-18B72dCHARACTER-18B73",
    "dCHARACTER-18B74dCHARACTER-18B75dCHARACTER-18B76dCHARACTER-18B77dCHARACTER-18B78",
    "dCHARACTER-18B79dCHARACTER-18B7AdCHARACTER-18B7BdCHARACTER-18B7CdCHARACTER-18B7D",
    "dCHARACTER-18B7EdCHARACTER-18B7FdCHARACTER-18B80dCHARACTER-18B81dCHARACTER-18B82",
    "dCHARACTER-18B83dCHARACTER-18B84dCHARACTER-18B85dCHARACTER-18B86dCHARACTER-18B87",
    "dCHARACTER-18B88dCHARACTER-18B89dCHARACTER-18B8AdCHARACTER-18B8BdCHARACTER-18B8C",
    "dCHARACTER-18B8DdCHARACTER-18B8EdCHARACTER-18B8FdCHARACTER-18B90dCHARACTER-18B91",
    "dCHARACTER-18B92dCHARACTER-18B93dCHARACTER-18B94dCHARACTER-18B95dCHARACTER-18B96",
    "dCHARACTER-18B97dCHARACTER-18B98dCHARACTER-18B99dCHARACTER-18B9A"],
  ["aKHITAN SMALL SCRIPT CHARACTER-18B9BdCHARACTER-18B9CdCHARACTER-18B9DdCHARACTER-18B9E",
    "dCHARACTER-18B9FdCHARACTER-18BA0dCHARACTER-18BA1dCHARACTER-18BA2dCHARACTER-18BA3",
    "dCHARACTER-18BA4dCHARACTER-18BA5dCHARACTER-18BA6dCHARACTER-18BA7dCHARACTER-18BA8",
    "dCHARACTER-18BA9dCHARACTER-18BAAdCHARACTER-18BABdCHARACTER-18BACdCHARACTER-18BAD",
    "dCHARACTER-18BAEdCHARACTER-18BAFdCHARACTER-18BB0dCHARACTER-18BB1dCHARACTER-18BB2",
    "dCHARACTER-18BB3dCHARACTER-18BB4dCHARACTER-18BB5dCHARACTER-18BB6dCHARACTER-18BB7",
    "dCHARACTER-18BB8dCHARACTER-18BB9dCHARACTER-18BBAdCHARACTER-18BBBdCHARACTER-18BBC",
    "dCHARACTER-18BBDdCHARACTER-18BBEdCHARACTER-18BBFdCHARACTER-18BC0dCHARACTER-18BC1",
    "dCHARACTER-18BC2dCHARACTER-18BC3dCHARACTER-18BC4dCHARACTER-18BC5dCHARACTER-18BC6",
    "dCHARACTER-18BC7dCHARACTER-18BC8dCHARACTER-18BC9dCHARACTER-18BCAdCHARACTER-18BCB",
    "dCHARACTER-18BCCdCHARACTER-18BCDdCHARACTER-18BCEdCHARACTER-18BCFdCHARACTER-18BD0",
    "dCHARACTER-18BD1dCHARACTER-18BD2dCHARACTER-18BD3dCHARACTER-18BD4dCHARACTER-18BD5",
    "dCHARACTER-18BD6dCHARACTER-18BD7dCHARACTER-18BD8dCHARACTER-18BD9dCHARACTER-18BDA",
    "dCHARACTER-18BDBdCHARACTER-18BDCdCHARACTER-18BDDdCHARACTER-18BDEdCHARACTER-18BDF",
    "dCHARACTER-18BE0dCHARACTER-18BE1dCHARACTER-18BE2dCHARACTER-18BE3dCHARACTER-18BE4",
    "dCHARACTER-18BE5dCHARACTER-18BE6dCHARACTER-18BE7dCHARACTER-18BE8dCHARACTER-18BE9",
    "dCHARACTER-18BEAdCHARACTER-18BEBdCHARACTER-18BECdCHARACTER-18BEDdCHARACTER-18BEE",
    "dCHARACTER-18BEFdCHARACTER-18BF0dCHARACTER-18BF1dCHARACTER-18BF2dCHARACTER-18BF3",
    "dCHARACTER-18BF4dCHARACTER-18BF5dCHARACTER-18BF6dCHARACTER-18BF7dCHARACTER-18BF8",
    "dCHARACTER-18BF9dCHARACTER-18BFAdCHARACTER-18BFBdCHARACTER-18BFCdCHARACTER-18BFD",
    "dCHARACTER-18BFEdCHARACTER-18BFFdCHARACTER-18C00dCHARACTER-18C01dCHARACTER-18C02",
    "dCHARACTER-18C03dCHARACTER-18C04dCHARACTER-18C05dCHARACTER-18C06dCHARACTER-18C07",
    "dCHARACTER-18C08dCHARACTER-18C09dCHARACTER-18C0AdCHARACTER-18C0BdCHARACTER-18C0C",
    "dCHARACTER-18C0DdCHARACTER-18C0EdCHARACTER-18C0FdCHARACTER-18C10dCHARACTER-18C11",
    "dCHARACTER-18C12dCHARACTER-18C13dCHARACTER-18C14dCHARACTER-18C15dCHARACTER-18C16",
    "dCHARACTER-18C17dCHARACTER-18C18dCHARACTER-18C19dCHARACTER-18C1AdCHARACTER-18C1B",
    "dCHARACTER-18C1CdCHARACTER-18C1DdCHARACTER-18C1EdCHARACTER-18C1FdCHARACTER-18C20",
    "dCHARACTER-18C21dCHARACTER-18C22dCHARACTER-18C23dCHARACTER-18C24dCHARACTER-18C25",
    "dCHARACTER-18C26dCHARACTER-18C27dCHARACTER-18C28dCHARACTER-18C29dCHARACTER-18C2A",
    "dCHARACTER-18C2BdCHARACTER-18C2CdCHARACTER-18C2DdCHARACTER-18C2EdCHARACTER-18C2F",
    "dCHARACTER-18C30dCHARACTER-18C31dCHARACTER-18C32dCHARACTER-18C33dCHARACTER-18C34",
    "dCHARACTER-18C35dCHARACTER-18C36dCHARACTER-18C37dCHARACTER-18C38dCHARACTER-18C39",
    "dCHARACTER-18C3AdCHARACTER-18C3BdCHARACTER-18C3CdCHARACTER-18C3DdCHARACTER-18C3E",
    "dCHARACTER-18C3FdCHARACTER-18C40dCHARACTER-18C41dCHARACTER-18C42dCHARACTER-18C43",
    "dCHARACTER-18C44dCHARACTER-18C45dCHARACTER-18C46dCHARACTER-18C47dCHARACTER-18C48",
    "dCHARACTER-18C49dCHARACTER-18C4AdCHARACTER-18C4BdCHARACTER-18C4CdCHARACTER-18C4D",
    "dCHARACTER-18C4EdCHARACTER-18C4FdCHARACTER-18C50dCHARACTER-18C51dCHARACTER-18C52",
    "dCHARACTER-18C53dCHARACTER-18C54dCHARACTER-18C55dCHARACTER-18C56dCHARACTER-18C57",
    "dCHARACTER-18C58dCHARACTER-18C59dCHARACTER-18C5AdCHARACTER-18C5BdCHARACTER-18C5C",
    "dCHARACTER-18C5DdCHARACTER-18C5EdCHARACTER-18C5FdCHARACTER-18C60dCHARACTER-18C61",
    "dCHARACTER-18C62dCHARACTER-18C63dCHARACTER-18C64dCHARACTER-18C65dCHARACTER-18C66",
    "dCHARACTER-18C67dCHARACTER-18C68dCHARACTER-18C69dCHARACTER-18C6AdCHARACTER-18C6B",
    "dCHARACTER-18C6CdCHARACTER-18C6DdCHARACTER-18C6EdCHARACTER-18C6FdCHARACTER-18C70",
    "dCHARACTER-18C71dCHARACTER-18C72dCHARACTER-18C73dCHARACTER-18C74dCHARACTER-18C75",
    "dCHARACTER-18C76dCHARACTER-18C77dCHARACTER-18C78dCHARACTER-18C79dCHARACTER-18C7A",
    "dCHARACTER-18C7BdCHARACTER-18C7CdCHARACTER-18C7DdCHARACTER-18C7EdCHARACTER-18C7F",
    "dCHARACTER-18C80dCHARACTER-18C81dCHARACTER-18C82dCHARACTER-18C83dCHARACTER-18C84",
    "dCHARACTER-18C85dCHARACTER-18C86dCHARACTER-18C87dCHARACTER-18C88dCHARACTER-18C89",
    "dCHARACTER-18C8AdCHARACTER-18C8BdCHARACTER-18C8CdCHARACTER-18C8DdCHARACTER-18C8E",
    "dCHARACTER-18C8FdCHARACTER-18C90dCHARACTER-18C91dCHARACTER-18C92dCHARACTER-18C93",
    "dCHARACTER-18C94dCHARACTER-18C95dCHARACTER-18C96dCHARACTER-18C97dCHARACTER-18C98",
    "dCHARACTER-18C99dCHARACTER-18C9AdCHARACTER-18C9BdCHARACTER-18C9CdCHARACTER-18C9D",
    "dCHARACTER-18C9EdCHARACTER-18C9FdCHARACTER-18CA0dCHARACTER-18CA1dCHARACTER-18CA2",
    "dCHARACTER-18CA3dCHARACTER-18CA4dCHARACTER-18CA5dCHARACTER-18CA6dCHARACTER-18CA7",
    "dCHARACTER-18CA8dCHARACTER-18CA9dCHARACTER-18CAAdCHARACTER-18CABdCHARACTER-18CAC",
    "dCHARACTER-18CADdCHARACTER-18CAEdCHARACTER-18CAFdCHARACTER-18CB0dCHARACTER-18CB1",
    "dCHARACTER-18CB2dCHARACTER-18CB3dCHARACTER-18CB4dCHARACTER-18CB5dCHARACTER-18CB6",
    "dCHARACTER-18CB7dCHARACTER-18CB8dCHARACTER-18CB9dCHARACTER-18CBAdCHARACTER-18CBB",
    "dCHARACTER-18CBCdCHARACTER-18CBDdCHARACTER-18CBEdCHARACTER-18CBFdCHARACTER-18CC0",
    "dCHARACTER-18CC1dCHARACTER-18CC2dCHARACTER-18CC3dCHARACTER-18CC4dCHARACTER-18CC5",
    "dCHARACTER-18CC6dCHARACTER-18CC7dCHARACTER-18CC8dCHARACTER-18CC9dCHARACTER-18CCA",
    "dCHARACTER-18CCBdCHARACTER-18CCCdCHARACTER-18CCDdCHARACTER-18CCEdCHARACTER-18CCF",
    "dCHARACTER-18CD0dCHARACTER-18CD1dCHARACTER-18CD2dCHARACTER-18CD3dCHARACTER-18CD4",
    "dCHARACTER-18CD5dFILLERaKHMER CURRENCY SYMBOL RIELbDIGIT EIGHTcFIVEcFOURcNINEcONEcSEVEN",
    "cSIXcTHREEcTWOcZERObINDEPENDENT VOWEL LYdLYYdQAAdQAIdQAQdQAUdQEdQIdQIIdQOO TYPE ONEfTWOdQU",
    "dQUKdQUUdQUUVdRYdRYYbLETTER BAcCAcCHAcCHOcCOcDAcDOcHAcKAcKHAcKHOcKOcLAcLOcMOcNGOcNNOcNO",
    "cNYOcPHAcPHOcPOcQAcROcSAcSHAcSSOcTAcTHAcTHOcTOcTTHAcTTHOcVOcYObSIGN AHSDAcATTHACAN",
    "cAVAKRAHASANYAcBANTOCcBARIYOOSANcBATHAMASATcBEYYALcCAMNUC PII KUUHcCOENGcKAKABATcKHAN",
    "cKOOMUUTcLEK TOOcMUUSIKATOANcNIKAHITcPHNAEK MUANcREAHMUKcROBATcSAMYOK SANNYAcTOANDAKHIAT",
    "cTRIISAPcVIRIAMcYUUKALEAPINTUbSYMBOL BEI KOETdROCcBUON KOETdROCcDAP KOETdROCcDAP-BEI KOET",
    "dROCcDAP-BUON KOETdROCcDAP-MUOY KOETdROCcDAP-PII KOETdROCcDAP-PRAM KOETdROCcLEK ATTAK BEI",
    "eBUONeMUOYePIIePRAMePRAM-BEIePRAM-BUONePRAM-MUOYePRAM-PIIeSONcMUOY KOETdROCcPATHAMASAT",
    "cPII KOETdROCcPRAM KOETdROCcPRAM-BEI KOETdROCcPRAM-BUON KOETdROCcPRAM-MUOY KOETdROC",
    "cPRAM-PII KOETdROCcTUTEYASATbVOWEL INHERENT AAdAQcSIGN AAdAEdAIdAUdEdIdIEdIIdOEdOOdUdUAdUU",
    "dY"],
  ["aKHMER VOWEL SIGN YAdYYaKHOJKI ABBREVIATION SIGNbDANDAbDOUBLE DANDAcSECTION MARKbLETTER A",
    "cAAcAIcAUcBAcBBAcBHAcCAcCHAcDAcDDAcDDDAcDDHAcDHAcEcGAcGGAcGHAcHAcIcJAcJJAcKAcKHAcLAcLLAcMA",
    "cNAcNGAcNNAcNYAcOcPAcPHAcRAcSAcTAcTHAcTTAcTTHAcUcVAcYAbSECTION MARKbSIGN ANUSVARAcNUKTA",
    "cSHADDAcSUKUNcVIRAMAbVOWEL SIGN AAdAIdAUdEdIdIIdOdUbWORD SEPARATORaKHUDAWADI DIGIT EIGHT",
    "cFIVEcFOURcNINEcONEcSEVENcSIXcTHREEcTWOcZERObLETTER AcAAcAIcAUcBAcBBAcBHAcCAcCHAcDAcDDA",
    "cDDDAcDDHAcDHAcEcGAcGGAcGHAcHAcIcIIcJAcJHAcJJAcKAcKHAcLAcMAcNAcNGAcNNAcNYAcOcPAcPHAcRAcRRA",
    "cSAcSHAcTAcTHAcTTAcTTHAcUcUUcVAcYAbSIGN ANUSVARAcNUKTAcVIRAMAbVOWEL SIGN AAdAIdAUdEdIdIIdO",
    "dUdUUaKIMONOaKIP SIGNaKISSbMARKaKISSING CAT FACE WITH CLOSED EYESbFACEcWITH CLOSED EYES",
    "dSMILING EYESaKITEaKIWIFRUITaKNEELING PERSONaKNOTaKOALAaKOREAN STANDARD SYMBOLaKRONOS"],
  ["aL B BAR SYMBOLaLAB COATaLABELaLACROSSE STICK AND BALLaLADDERaLADY BEETLEaLANGUAGE TAG",
    "aLAO CANCELLATION MARKbDIGIT EIGHTcFIVEcFOURcNINEcONEcSEVENcSIXcTHREEcTWOcZERObELLIPSIS",
    "bHO MOcNObKO LAbLETTER BOcCOcDOcFO FAYdFONdSUNGdTAMcHO SUNGdTAMcKHMU GOdNYOcKHO SUNGdTAM",
    "cKOcLOdLINGdLOOTcMOcNGOcNOcNYOcOcPALI BHAdCHAdDDAdDDHAdDHAdGHAdJHAdLLAdNNAdNYAdTTAdTTHA",
    "cPHO SUNGdTAMcPOcROcSANSKRIT SHAdSSAcSO SUNGdTAMcTHO SUNGdTAMcTOcWOcYObNIGGAHITA",
    "bSEMIVOWEL SIGN LOdNYObSIGN PALI VIRAMAbTONE MAI CATAWAdEKdTHOdTIbVOWEL SIGN AdAAdAIdAMdAY",
    "dEdEIdIdIIdMAI KANeKONdOdUdUUdYdYYaLARGE BLUE CIRCLEcDIAMONDcSQUAREbBROWN CIRCLEcSQUARE",
    "bCIRCLEbDOWN TACKbGREEN CIRCLEcSQUAREbLEFT TRIANGLE OPERATOR",
    "bONE DOT OVER TWO DOTS PUNCTUATIONcRING OVER TWO RINGS PUNCTUATIONbORANGE CIRCLEcDIAMOND",
    "cSQUAREbPURPLE CIRCLEcSQUAREbRED CIRCLEcSQUAREbTRIPLE VERTICAL BAR OPERATOR",
    "bTWO DOTS OVER ONE DOT PUNCTUATIONcRINGS OVER ONE RING PUNCTUATIONbUP TACKbYELLOW CIRCLE",
    "cSQUAREaLARGER THANcOR EQUAL TOaLARI SIGNaLAST QUARTER MOONdSYMBOLdWITH FACE",
    "aLATIN CAPITAL LETTER AeWITH ACUTEfBREVEgAND ACUTEhDOT BELOWhGRAVEhHOOK ABOVEhTILDEfCARON",
    "fCIRCUMFLEXgAND ACUTEhDOT BELOWhGRAVEhHOOK ABOVEhTILDEfDIAERESISgAND MACRONfDOT ABOVE",
    "hAND MACRONgBELOWfDOUBLE GRAVEfGRAVEfHOOK ABOVEfINVERTED BREVEfMACRONfOGONEKfRING ABOVE",
    "hAND ACUTEgBELOWfSTROKEfTILDEdAAdAEeWITH ACUTEfMACRONdAFRICAN DdALPHAdANGLICANA WdAOdAUdAV",
    "eWITH HORIZONTAL BARdAYdBeWITH DOT ABOVEgBELOWfFLOURISHfHOOKfLINE BELOWfSTROKEfTOPBARdBETA",
    "dBROKEN LdCeWITH ACUTEfBARfCARONfCEDILLAgAND ACUTEfCIRCUMFLEXfDOT ABOVEfHOOKfPALATAL HOOK",
    "fSTROKEdCHIdCLOSED INSULAR GdCONdCUATRILLOeWITH COMMAdDeWITH CARONfCEDILLA",
    "fCIRCUMFLEX BELOWfDOT ABOVEgBELOWfHOOKfLINE BELOWfSHORT STROKE OVERLAYfSMALL LETTER Z",
    "iWITH CARONfSTROKEfTOPBARdDZeWITH CARONdEeWITH ACUTEfBREVEfCARONfCEDILLAgAND BREVE",
    "fCIRCUMFLEXgAND ACUTEhDOT BELOWhGRAVEhHOOK ABOVEhTILDEgBELOWfDIAERESISfDOT ABOVEgBELOW",
    "fDOUBLE GRAVEfGRAVEfHOOK ABOVEfINVERTED BREVEfMACRONgAND ACUTEhGRAVEfOGONEKfSTROKEfTILDE",
    "gBELOWdEGYPTOLOGICAL AINeALEFdENGdESHdETdETHdEZHeREVERSEDeWITH CARONdFeWITH DOT ABOVEfHOOK",
    "fSTROKEdGeWITH ACUTEfBREVEfCARONfCEDILLAfCIRCUMFLEXfDOT ABOVEfHOOKfMACRONfOBLIQUE STROKE",
    "fSTROKEdGAMMAdGHAdGLOTTAL AeIeSTOPeUdHeWITH BREVE BELOWfCARONfCEDILLAfCIRCUMFLEXfDESCENDER",
    "fDIAERESISfDOT ABOVEgBELOWfHOOKfSTROKEdHALF HdHENGdHWAIRdIeWITH ACUTEfBREVEfCARON",
    "fCIRCUMFLEXfDIAERESISgAND ACUTEfDOT ABOVEgBELOWfDOUBLE GRAVEfGRAVEfHOOK ABOVE",
    "fINVERTED BREVEfMACRONfOGONEKfSTROKEfTILDEgBELOWdINSULAR DeFeGeReSeTdIOTAdISdJ",
    "eWITH CIRCUMFLEXfCROSSED-TAILfSTROKEdKeWITH ACUTEfCARONfCEDILLAfDESCENDERfDIAGONAL STROKE",
    "fDOT BELOWfHOOKfLINE BELOWfOBLIQUE STROKEfSTROKEgAND DIAGONAL STROKEdLeWITH ACUTEfBARfBELT",
    "fCARONfCEDILLAfCIRCUMFLEX BELOWfDOT BELOWhAND MACRONfDOUBLE BARfHIGH STROKEfLINE BELOW",
    "fMIDDLE DOTgTILDEfSMALL LETTER JfSTROKEdLJdMeWITH ACUTEfDOT ABOVEgBELOWfHOOK",
    "dMIDDLE SCOTS SdMIDDLE-WELSH LLeVdNeWITH ACUTEfCARONfCEDILLAfCIRCUMFLEX BELOWfDESCENDER",
    "fDOT ABOVEgBELOWfGRAVEfLEFT HOOKfLINE BELOWfLONG RIGHT LEGfOBLIQUE STROKEfSMALL LETTER J",
    "fTILDEdNJdOeWITH ACUTEfBREVEfCARONfCIRCUMFLEXgAND ACUTEhDOT BELOWhGRAVEhHOOK ABOVEhTILDE",
    "fDIAERESISgAND MACRONfDOT ABOVEhAND MACRONgBELOWfDOUBLE ACUTEgGRAVEfGRAVEfHOOK ABOVEfHORN",
    "gAND ACUTEhDOT BELOWhGRAVEhHOOK ABOVEhTILDEfINVERTED BREVEfLONG STROKE OVERLAYfLOOPfMACRON",
    "gAND ACUTEhGRAVEfMIDDLE TILDEfOGONEKgAND MACRONfSTROKEgAND ACUTEfTILDEgAND ACUTEhDIAERESIS",
    "hMACRONdOIdOLD POLISH OdOMEGAdOOdOPEN EeOdOUdPeWITH ACUTEfDOT ABOVEfFLOURISHfHOOK",
    "fSQUIRREL TAILfSTROKEgTHROUGH DESCENDERdQeWITH DIAGONAL STROKEfSTROKE THROUGH DESCENDERdR",
    "eROTUNDAeWITH ACUTEfCARONfCEDILLAfDOT ABOVEgBELOWhAND MACRONfDOUBLE GRAVEfINVERTED BREVE",
    "fLINE BELOWfOBLIQUE STROKEfSTROKEfTAILdREVERSED C WITH DOTeEeHALF HeOPEN EdRUM ROTUNDAdS",
    "eWITH ACUTEgAND DOT ABOVEfCARONgAND DOT ABOVEfCEDILLAfCIRCUMFLEXfCOMMA BELOWfDOT ABOVE",
    "gBELOWhAND DOT ABOVEfHOOKfOBLIQUE STROKEfSHORT STROKE OVERLAYfSWASH TAILdSALTILLOdSCHWA",
    "dSCRIPT GdSHARP SdSIGMOID SdSMALL CAPITAL IeQ WITH HOOK TAILdTeWITH CARONfCEDILLA",
    "fCIRCUMFLEX BELOWfCOMMA BELOWfDIAGONAL STROKEfDOT ABOVEgBELOWfHOOKfLINE BELOW",
    "fRETROFLEX HOOKfSTROKEdTHORNeWITH STROKEgTHROUGH DESCENDERdTONE FIVEeSIXeTWOdTRESILLO",
    "dTURNED AeALPHAeHeINSULAR GeKeLeMeTeVdTZdUeBAReWITH ACUTEfBREVEfCARONfCIRCUMFLEXgBELOW",
    "fDIAERESISgAND ACUTEhCARONhGRAVEhMACRONgBELOWfDOT BELOWfDOUBLE ACUTEgGRAVEfGRAVE",
    "fHOOK ABOVEfHORNgAND ACUTEhDOT BELOWhGRAVEhHOOK ABOVEhTILDEfINVERTED BREVEfMACRON",
    "gAND DIAERESISfOGONEKfRING ABOVEfSTROKEfTILDEgAND ACUTEgBELOWdUPSILONdV",
    "eWITH DIAGONAL STROKEfDOT BELOWfHOOKfTILDEdVENDdVISIGOTHIC ZdVOLAPUK AEeOEeUEdVYdW",
    "eWITH ACUTEfCIRCUMFLEXfDIAERESISfDOT ABOVEgBELOWfGRAVEfHOOKdWYNNdXeWITH DIAERESIS",
    "fDOT ABOVEdYeWITH ACUTEfCIRCUMFLEXfDIAERESISfDOT ABOVEgBELOWfGRAVEfHOOKgABOVEfLOOPfMACRON",
    "fSTROKEfTILDEdYOGHdZeWITH ACUTEfCARONfCIRCUMFLEXfDESCENDERfDOT ABOVEgBELOWfHOOKfLINE BELOW",
    "fPALATAL HOOKfSTROKEfSWASH TAILcLIGATURE IJdOEbCROSSbEPIGRAPHIC LETTER ARCHAIC MdI LONGA",
    "dINVERTED MdREVERSED FePdSIDEWAYS IbLETTER AINcALVEOLAR CLICKcBIDENTAL PERCUSSIVE",
    "cBILABIAL CLICKdPERCUSSIVEcDENTAL CLICKcGLOTTAL STOPeWITH STROKEcINVERTED GLOTTAL STOP",
    "fWITH CURLgSTROKEcLATERAL CLICKcPHARYNGEAL VOICED FRICATIVEcRETROFLEX CLICK",
    "eWITH RETROFLEX HOOKcREVERSED ESH LOOPdGLOTTAL STOP WITH STROKEcSINOLOGICAL DOT",
    "cSMALL CAPITAL AeAEeBeBARRED BeCeDeEeETHeEZHeFeGfWITH HOOKeHeIeINVERTED ReJeKeLfWITH BELT",
    "gSTROKEeMeNeOeOEeOPEN OeOUePeQeRfWITH RIGHT LEGeREVERSED NfReRUMeSeTeTURNED EfGfKfMfReUeV",
    "eWeYeZcSTRETCHED CeWITH CURLcTWO WITH STROKEcVOICED LARYNGEAL SPIRANTcWYNNcYR",
    "bSMALL CAPITAL LETTER I WITH STROKEeU WITH STROKEcLETTER AeREVERSED-SCHWAeWITH ACUTEfBREVE",
    "gAND ACUTEhDOT BELOWhGRAVEhHOOK ABOVEhTILDEfCARONfCIRCUMFLEXgAND ACUTEhDOT BELOWhGRAVE",
    "hHOOK ABOVEhTILDEfDIAERESISgAND MACRONfDOT ABOVEhAND MACRONgBELOWfDOUBLE GRAVEfGRAVE",
    "fHOOK ABOVEfINVERTED BREVEfMACRONfOGONEKfRETROFLEX HOOKfRIGHT HALF RINGfRING ABOVE",
    "hAND ACUTEgBELOWfSTROKEfTILDEdAAdAEeWITH ACUTEfMACRONdALPHAeWITH RETROFLEX HOOK",
    "dANGLICANA WdAOdAUdAVeWITH HORIZONTAL BARdAYdBeWITH DOT ABOVEgBELOWfFLOURISHfHOOK",
    "fLINE BELOWfMIDDLE TILDEfPALATAL HOOKfSTROKEfTOPBARdBARRED ALPHAeEeOdBASELINE ESHdBETA",
    "dBLACKLETTER E"],
  ["aLATIN SMALL LETTER BLACKLETTER OfWITH STROKEdBOTTOM HALF OdBROKEN LdCeWITH ACUTEfBAR",
    "fCARONfCEDILLAgAND ACUTEfCIRCUMFLEXfCURLfDOT ABOVEfHOOKfPALATAL HOOKfRETROFLEX HOOKfSTROKE",
    "dCHIeWITH LOW LEFT SERIFgRIGHT RINGdCLOSED INSULAR GeOMEGAeOPEN EeREVERSED OPEN EdCON",
    "dCUATRILLOeWITH COMMAdDeWITH CARONfCEDILLAfCIRCUMFLEX BELOWfCURLfDOT ABOVEgBELOWfHOOK",
    "gAND TAILfLINE BELOWfMIDDLE TILDEfPALATAL HOOKfSHORT STROKE OVERLAYfSTROKEfTAILfTOPBAR",
    "dDB DIGRAPHdDELTAdDEZH DIGRAPHfWITH PALATAL HOOKgRETROFLEX HOOKdDOTLESS IeJfWITH STROKE",
    "hAND HOOKdDOUBLE RfWITH CROSSED-TAILeTHORNeWYNNdDUMdDZeDIGRAPHfWITH CURLgRETROFLEX HOOK",
    "eWITH CARONdEeWITH ACUTEfBREVEfCARONfCEDILLAgAND BREVEfCIRCUMFLEXgAND ACUTEhDOT BELOW",
    "hGRAVEhHOOK ABOVEhTILDEgBELOWfDIAERESISfDOT ABOVEgBELOWfDOUBLE GRAVEfFLOURISHfGRAVE",
    "fHOOK ABOVEfINVERTED BREVEfMACRONgAND ACUTEhGRAVEfNOTCHfOGONEKfRETROFLEX HOOKfSTROKEfTILDE",
    "gBELOWdEGYPTOLOGICAL AINeALEFdENGeWITH CROSSED-TAILfPALATAL HOOKdESHeWITH CURLfDOUBLE BAR",
    "hAND CURLfPALATAL HOOKfRETROFLEX HOOKdETdETHdEZHeREVERSEDeWITH CARONfCURLfPALATAL HOOK",
    "fRETROFLEX HOOKfTAILdFeWITH DOT ABOVEfHOOKfMIDDLE TILDEfPALATAL HOOKfSTROKEdFENG DIGRAPH",
    "fWITH TRILLdGeWITH ACUTEfBREVEfCARONfCEDILLAfCIRCUMFLEXfDOT ABOVEfHOOKfMACRON",
    "fOBLIQUE STROKEfPALATAL HOOKfSTROKEdGAMMAdGHAdGLOTTAL AeIeSTOPeUdHeWITH BREVE BELOWfCARON",
    "fCEDILLAfCIRCUMFLEXfDESCENDERfDIAERESISfDOT ABOVEgBELOWfHOOKfLINE BELOWfPALATAL HOOK",
    "fSTROKEdHALF HdHENGeWITH HOOKdHVdIeWITH ACUTEfBREVEfCARONfCIRCUMFLEXfDIAERESISgAND ACUTE",
    "fDOT BELOWfDOUBLE GRAVEfGRAVEfHOOK ABOVEfINVERTED BREVEfMACRONfOGONEKfRETROFLEX HOOK",
    "fSTROKEgAND RETROFLEX HOOKfTILDEgBELOWdINSULAR DeFeGeReSeTdINVERTED ALPHAeOEdIOTA",
    "eWITH STROKEdIOTIFIED EdISdJeWITH CARONfCIRCUMFLEXfCROSSED-TAILfSTROKEdKeWITH ACUTEfCARON",
    "fCEDILLAfDESCENDERfDIAGONAL STROKEfDOT BELOWfHOOKfLINE BELOWfOBLIQUE STROKEfPALATAL HOOK",
    "fSTROKEgAND DIAGONAL STROKEdKRAdLeWITH ACUTEfBARfBELTgAND PALATAL HOOKfCARONfCEDILLA",
    "fCIRCUMFLEX BELOWfCURLfDOT BELOWhAND MACRONfDOUBLE BARgMIDDLE TILDEfFISHHOOKfHIGH STROKE",
    "fINVERTED LAZY SfLINE BELOWfMIDDLE DOTgRINGgTILDEfPALATAL HOOKfRETROFLEX HOOKhAND BELT",
    "fSTROKEdLAMBDA WITH STROKEdLENIS FdLEZHeWITH RETROFLEX HOOKdLJdLONG SfWITH DIAGONAL STROKE",
    "gDOT ABOVEgHIGH STROKEdLS DIGRAPHdLUMdLZ DIGRAPHdMeWITH ACUTEfCROSSED-TAILfDOT ABOVEgBELOW",
    "fHOOKfMIDDLE TILDEfPALATAL HOOKdMIDDLE SCOTS SdMIDDLE-WELSH LLeVdMUMdN",
    "ePRECEDED BY APOSTROPHEeWITH ACUTEfCARONfCEDILLAfCIRCUMFLEX BELOWfCROSSED-TAILfCURL",
    "fDESCENDERfDOT ABOVEgBELOWfGRAVEfLEFT HOOKfLINE BELOWfLONG RIGHT LEGfMIDDLE TILDE",
    "fOBLIQUE STROKEfPALATAL HOOKfRETROFLEX HOOKfTILDEdNJdNUMdOeWITH ACUTEfBREVEfCARON",
    "fCIRCUMFLEXgAND ACUTEhDOT BELOWhGRAVEhHOOK ABOVEhTILDEfDIAERESISgAND MACRONfDOT ABOVE",
    "hAND MACRONgBELOWfDOUBLE ACUTEgGRAVEfGRAVEfHOOK ABOVEfHORNgAND ACUTEhDOT BELOWhGRAVE",
    "hHOOK ABOVEhTILDEfINVERTED BREVEfLONG STROKE OVERLAYfLOOPfLOW RING INSIDEfMACRONgAND ACUTE",
    "hGRAVEfOGONEKgAND MACRONfRETROFLEX HOOKfSTROKEgAND ACUTEfTILDEgAND ACUTEhDIAERESIShMACRON",
    "dOIdOLD POLISH OdOMEGAdOOdOPEN EfWITH RETROFLEX HOOKeOfWITH RETROFLEX HOOKgSTROKEeOEdOUdP",
    "eWITH ACUTEfDOT ABOVEfFLOURISHfHOOKfMIDDLE TILDEfPALATAL HOOKfSQUIRREL TAILfSTROKE",
    "gTHROUGH DESCENDERdPHIdQeWITH DIAGONAL STROKEfHOOKgTAILfSTROKE THROUGH DESCENDER",
    "dQP DIGRAPHdReROTUNDAeWITH ACUTEfCARONfCEDILLAfCROSSED-TAILfDOT ABOVEgBELOWhAND MACRON",
    "fDOUBLE GRAVEfFISHHOOKgAND MIDDLE TILDEhPALATAL HOOKfINVERTED BREVEfLINE BELOWfLONG LEG",
    "fMIDDLE TILDEfOBLIQUE STROKEfPALATAL HOOKfSTROKEfTAILeWITHOUT HANDLEdRAMS HORNdREVERSED C",
    "fWITH DOTeEeENGeHALF HeKeOPEN EgWITH HOOKhRETROFLEX HOOKeR WITH FISHHOOKeSCRIPT GdRUM",
    "eROTUNDAdSeWITH ACUTEgAND DOT ABOVEfCARONgAND DOT ABOVEfCEDILLAfCIRCUMFLEXfCOMMA BELOW",
    "fCURLfDOT ABOVEgBELOWhAND DOT ABOVEfHOOKfMIDDLE TILDEfOBLIQUE STROKEfPALATAL HOOK",
    "fSHORT STROKE OVERLAYfSWASH TAILdSAKHA YATdSALTILLOdSCHWAeWITH HOOKfRETROFLEX HOOK",
    "dSCRIPT GfWITH CROSSED-TAILeRfWITH RINGdSHARP SdSIDEWAYS DIAERESIZED UeOfWITH STROKE",
    "eOPEN OeTURNED MeUdSIGMOID SdSQUAT REVERSED ESHdSTIRRUP RdTeWITH CARONfCEDILLA",
    "fCIRCUMFLEX BELOWfCOMMA BELOWfCURLfDIAERESISfDIAGONAL STROKEfDOT ABOVEgBELOWfHOOK",
    "gAND RETROFLEX HOOKfLINE BELOWfMIDDLE TILDEfPALATAL HOOKfRETROFLEX HOOKfSTROKE",
    "dTAILLESS PHIdTC DIGRAPH WITH CURLdTESH DIGRAPHfWITH PALATAL HOOKgRETROFLEX HOOK",
    "dTH WITH STRIKETHROUGHdTHORNeWITH STROKEgTHROUGH DESCENDERdTONE FIVEeSIXeTWOdTOP HALF O",
    "dTRESILLOdTS DIGRAPHfWITH RETROFLEX HOOKdTUMdTURNED AeAEeALPHAeDELTAeEeGeHfWITH FISHHOOK",
    "hAND TAILeIeINSULAR GeKeLeMfWITH LONG LEGeO OPEN-OgWITH STROKEeOEfWITH HORIZONTAL STROKE",
    "gSTROKEeOPEN EeRfWITH HOOKgLONG LEGiAND RETROFLEX HOOKgMIDDLE TILDEgPALATAL HOOKgTAILeT",
    "fWITH CURLeUIeVeWeYfWITH BELTdTZdUeBARfWITH SHORT RIGHT LEGeWITH ACUTEfBREVEfCARON",
    "fCIRCUMFLEXgBELOWfDIAERESISgAND ACUTEhCARONhGRAVEhMACRONgBELOWfDOT BELOWfDOUBLE ACUTE",
    "gGRAVEfGRAVEfHOOK ABOVEfHORNgAND ACUTEhDOT BELOWhGRAVEhHOOK ABOVEhTILDEfINVERTED BREVE",
    "fLEFT HOOKfMACRONgAND DIAERESISfOGONEKfRETROFLEX HOOKfRING ABOVEfSHORT RIGHT LEGfSTROKE",
    "fTILDEgAND ACUTEgBELOWdUEdUIdUMdUOdUPSILONeWITH STROKEdVeWITH CURLfDIAGONAL STROKE",
    "fDOT BELOWfHOOKfPALATAL HOOKfRIGHT HOOKfTILDEdVENDdVISIGOTHIC ZdVOLAPUK AEeOEeUEdVYdW",
    "eWITH ACUTEfCIRCUMFLEXfDIAERESISfDOT ABOVEgBELOWfGRAVEfHOOKfRING ABOVEdXeWITH DIAERESIS",
    "fDOT ABOVEfLONG LEFT LEGiAND LOW RIGHT RINGiWITH SERIFfLOW RIGHT RINGfPALATAL HOOKdY",
    "eWITH ACUTEfCIRCUMFLEXfDIAERESISfDOT ABOVEgBELOWfGRAVEfHOOKgABOVEfLOOPfMACRONfRING ABOVE",
    "fSHORT RIGHT LEGfSTROKEfTILDEdYOGHdZeWITH ACUTEfCARONfCIRCUMFLEXfCURLfDESCENDERfDOT ABOVE",
    "gBELOWfHOOKfLINE BELOWfMIDDLE TILDEfPALATAL HOOKfRETROFLEX HOOKfSTROKEfSWASH TAIL",
    "cLIGATURE FFdFFIdFFLdFIdFLdIJdLONG S TdOEdSTbSUBSCRIPT SMALL LETTER AeEeHeIeJeKeLeMeNeOeP",
    "eReSeSCHWAeTeUeVeXaLEAF FLUTTERING IN WINDaLEAFY GREENaLEDGER",
    "aLEFT AND LOWER AND RIGHT TRIANGULAR THREE QUARTERS BLOCKdONE EIGHTH BLOCK",
    "cRIGHT DOUBLE TURNSTILEdTACKdTRIANGULAR HALF BLOCK",
    "cUPPER AND RIGHT TRIANGULAR THREE QUARTERS BLOCKdONE EIGHTH BLOCKbANGER BUBBLE",
    "bANGLE BRACKETdWITH DOTbARC LESS-THAN BRACKETbARROW WITH CIRCLED PLUSdSMALL CIRCLE",
    "bBARB DOWN RIGHT BARB DOWN HARPOONfUP HARPOONcUP RIGHT BARB DOWN HARPOONfUP HARPOON",
    "bBLACK LENTICULAR BRACKETcTORTOISE SHELL BRACKET"],
  ["aLEFT CEILINGbCLOSED ENTRYbCORNER BRACKETbCURLY BRACKETdLOWER HOOKdMIDDLE PIECEdUPPER HOOK",
    "bDOTTED SUBSTITUTION BRACKETbDOUBLE ANGLE BRACKETcPARENTHESIScQUOTATION MARKcWIGGLY FENCE",
    "bFISH TAILbFIVE EIGHTHS BLOCKbFLOORbHALF BLACK CIRCLEdSTARcBLOCKcCIRCLEdWITH DOTeFOUR DOTS",
    "eTHREE DOTSeTWO DOTScFOLDERcINVERSE MEDIUM SHADE AND RIGHT HALF BLOCKcMEDIUM SHADE",
    "cRUNNING MANbHAND TELEPHONE RECEIVERbLOW PARAPHRASE BRACKETbLUGGAGEbMULTIMAP",
    "bNORMAL FACTOR SEMIDIRECT PRODUCTbONE EIGHTH BLOCKcQUARTER BLOCKbOUTER JOINbPARENTHESIS",
    "cEXTENSIONcLOWER HOOKcUPPER HOOKbRAISED OMISSION BRACKETbRIGHT ARROWdTHROUGH SMALL CIRCLE",
    "dWITH DOUBLE VERTICAL STROKEeSTROKEeVERTICAL STROKEcBLACK ARROWcDOUBLE ARROWeWITH STROKE",
    "fVERTICAL STROKEcOPEN-HEADED ARROWcSANS-SERIF ARROWcTRIANGLE-HEADED ARROWcWAVE ARROW",
    "cWHITE ARROWbS-SHAPED BAG DELIMITERbSEMIDIRECT PRODUCTbSEVEN EIGHTHS BLOCK",
    "bSIDEWAYS U BRACKETbSINGLE QUOTATION MARKbSPEECH BUBBLEbSQUARE BRACKETdEXTENSION",
    "dLOWER CORNERdUPPER CORNERdWITH DOUBLE STROKEeQUILLeSTROKEeTICK IN BOTTOM CORNER",
    "gTOP CORNEReUNDERBARbSUBSTITUTION BRACKETbTACKbTHIRD WHITE RIGHT POINTING INDEX",
    "bTHOUGHT BUBBLEbTHREE EIGHTHS BLOCKcQUARTERS BLOCKbTORTOISE SHELL BRACKET",
    "bTRANSPOSITION BRACKETbTRIANGLE BESIDE VERTICAL BARbTRIANGULAR ONE QUARTER BLOCK",
    "bVERTICAL BAR WITH QUILLcBOX LINEbWHITE CORNER BRACKETcCURLY BRACKETcLENTICULAR BRACKET",
    "cPARENTHESIScSQUARE BRACKETcTORTOISE SHELL BRACKETbWIGGLY FENCEbWRITING HAND",
    "aLEFT-FACING ARMENIAN ETERNITY SIGNbFISTbSVASTI SIGNdWITH DOTS",
    "aLEFT-HANDED INTERLACED PENTAGRAMaLEFT-POINTING ANGLE BRACKETbCURVED ANGLE BRACKET",
    "bDOUBLE ANGLE QUOTATION MARKbMAGNIFYING GLASSaLEFT-SHADED WHITE RIGHTWARDS ARROW",
    "aLEFT-SIDE ARC ANTICLOCKWISE ARROWaLEFT-TO-RIGHT EMBEDDINGbISOLATEbMARKbOVERRIDE",
    "aLEFTWARDS ARROWcABOVE ALMOST EQUAL TOdREVERSE ALMOST EQUAL TOeTILDE OPERATOR",
    "dSHORT RIGHTWARDS ARROWdTILDE OPERATORcAND UPPER AND LOWER ONE EIGHTH BLOCKcFROM BAR",
    "eTO BLACK DIAMONDcOVER RIGHTWARDS ARROWcTHROUGH LESS-THANdSUBSETdXcTO BAR",
    "eOVER RIGHTWARDS ARROW TO BARdBLACK DIAMONDcWITH DOTTED STEMdDOUBLE VERTICAL STROKE",
    "dEQUILATERAL ARROWHEADdHOOKdLARGE TRIANGLE ARROWHEADdLOOPdMEDIUM TRIANGLE ARROWHEAD",
    "dNOTCHED TAILdPLUS BELOWdSMALL EQUILATERAL ARROWHEADeTRIANGLE ARROWHEADdSTROKEdTAIL",
    "eWITH DOUBLE VERTICAL STROKEfVERTICAL STROKEdTIP DOWNWARDSeUPWARDSdVERTICAL STROKE",
    "bARROW-TAILbBACK-TILTED SHADOWED WHITE ARROWbBLACK ARROWcCIRCLED WHITE ARROW",
    "bBOTTOM-SHADED WHITE ARROWbCOMPRESSED ARROWbDASHED ARROWbDOUBLE ARROWdFROM BARdWITH STROKE",
    "eVERTICAL STROKEcARROW-TAILcDASH ARROWbFINGER-POST ARROWbFRONT-TILTED SHADOWED WHITE ARROW",
    "bHANDbHARPOON OVER RIGHTWARDS HARPOON",
    "cWITH BARB DOWN ABOVE RIGHTWARDS HARPOON WITH BARB DOWNfBELOW LONG DASHfFROM BARfTO BAR",
    "eDOWNWARDSeUP ABOVE LEFTWARDS HARPOON WITH BARB DOWNgLONG DASH",
    "gRIGHTWARDS HARPOON WITH BARB UPfFROM BARfTO BAReUPWARDSbHEAVY ARROWcCOMPRESSED ARROW",
    "bLEFT-SHADED WHITE ARROWbOPEN-HEADED ARROWbPAIRED ARROWSbQUADRUPLE ARROW",
    "bRIGHT-SHADED WHITE ARROWbROCKETbSANS-SERIF ARROWbSQUARED ARROWbSQUIGGLE ARROW",
    "bTOP SHADED WHITE ARROWbTRIANGLE ARROWHEADbTRIANGLE-HEADED ARROW",
    "dOVER RIGHTWARDS TRIANGLE-HEADED ARROWdTO BARdWITH BOLD SHAFTeDOUBLE HORIZONTAL STROKE",
    "fVERTICAL STROKEeHEAVY SHAFTeLONG TIP DOWNWARDSgUPWARDSeMEDIUM SHAFTeNARROW SHAFT",
    "eVERY HEAVY SHAFTcDASHED ARROWcPAIRED ARROWSbTRIPLE ARROWcDASH ARROWbTWO HEADED ARROW",
    "bTWO-HEADED ARROW FROM BARdWITH DOUBLE VERTICAL STROKEeTAILfWITH DOUBLE VERTICAL STROKE",
    "gVERTICAL STROKEeTRIANGLE ARROWHEADSeVERTICAL STROKEcTRIPLE DASH ARROWbWAVE ARROW",
    "bWHITE ARROWdWITHIN TRIANGLE ARROWHEADaLEGaLEMONaLEOaLEOPARDaLEPCHA CONSONANT SIGN KdKANG",
    "dLdMdNdNYIN-DOdPdRdTbDIGIT EIGHTcFIVEcFOURcNINEcONEcSEVENcSIXcTHREEcTWOcZERObLETTER AcBA",
    "cBLAcCAcCHAcDAcDDAcDZAcFAcFLAcGAcGLAcHAcHLAcJAcKAcKHAcKLAcLAcMAcMLAcNAcNGAcNYAcPAcPHAcPLA",
    "cRAcSAcSHAcTAcTHAcTSAcTSHAcTTAcTTHAcVAcWAcYAbPUNCTUATION CER-WAcNYET THYOOM TA-ROLcTA-ROL",
    "cTSHOOKdCER-WAbSIGN NUKTAcRANbSUBJOINED LETTER RAdYAbVOWEL SIGN AAdEdIdOdOOdUdUU",
    "aLESS-THAN ABOVE DOUBLE-LINE EQUAL ABOVE GREATER-THANcGREATER-THAN ABOVE DOUBLE-LINE EQUAL",
    "cLEFTWARDS ARROWcSIMILAR ABOVE GREATER-THANdOR EQUAL",
    "cSLANTED EQUAL ABOVE GREATER-THAN ABOVE SLANTED EQUALbAND NOT APPROXIMATE",
    "cSINGLE-LINE NOT EQUAL TObBUT NOT EQUAL TOdEQUIVALENT TObCLOSED BY CURVE",
    "eABOVE SLANTED EQUALbEQUAL TO OR GREATER-THANbOR APPROXIMATEcEQUAL TOcEQUIVALENT TO",
    "cGREATER-THANcSLANTED EQUAL TOfWITH DOT ABOVEiRIGHThINSIDEbOVER EQUAL TObSIGN",
    "bWITH CIRCLE INSIDEcDOTcQUESTION MARK ABOVEaLEVEL SLIDERaLFaLIBRA",
    "aLIGATURE OPEN ET ORNAMENTaLIGHT CHECK MARKbEIGHT SPOKED ASTERISKbFIVE POINTED BLACK STAR",
    "cSPOKED ASTERISKbFOUR POINTED BLACK CUSPeSTARbGREEK CROSS",
    "bLEFT TORTOISE SHELL BRACKET ORNAMENTbRAILbRIGHT TORTOISE SHELL BRACKET ORNAMENTbSALTIRE",
    "bSHADEbSIX SPOKED ASTERISKbTHREE POINTED BLACK STARbTWELVE POINTED BLACK STARbVERTICAL BAR",
    "bWHITE SQUAREaLIGHTNINGbMOODcBUBBLEaLIMBU DIGIT EIGHTcFIVEcFOURcNINEcONEcSEVENcSIXcTHREE",
    "cTWOcZERObEXCLAMATION MARKbLETTER BAcBHAcCAcCHAcDAcDHAcGAcGHAcGYANcHAcJAcJHAcKAcKHAcLAcMA",
    "cNAcNGAcPAcPHAcRAcSAcSHAcSSAcTAcTHAcTRAcWAcYAcYANbQUESTION MARKbSIGN KEMPHRENGcLOO",
    "cMUKPHRENGcSA-IbSMALL LETTER ANUSVARAdKAdLAdMAdNAdNGAdPAdRAdTAbSUBJOINED LETTER RAdWAdYA",
    "bVOWEL SIGN AdAIdAUdEdEEdIdOdOOdUbVOWEL-CARRIER LETTERaLIMITED LIABILITY SIGNaLINE FEED",
    "bINTEGRATION NOT INCLUDING THE POLEcWITH RECTANGULAR PATH AROUND POLE",
    "dSEMICIRCULAR PATH AROUND POLEbSEPARATORbTABULATIONcSETaLINEAR A SIGN A028BdA100-102dA120B",
    "dA131CdA301dA302dA303dA304dA305dA306dA307dA308dA309AdA309BdA309CdA310dA311dA312dA313A",
    "dA313BdA313CdA314dA315dA316dA317dA318dA319dA320dA321dA322dA323dA324dA325dA326dA327dA328",
    "dA329dA330dA331dA332dA333dA334dA335dA336dA337dA338dA339dA340dA341dA342dA343dA344dA345dA346",
    "dA347dA348dA349dA350dA351dA352dA353dA354dA355dA356dA357dA358dA359dA360dA361dA362dA363dA364",
    "dA365dA366dA367dA368dA369dA370dA371dA400-VASdA401-VASdA402-VASdA403-VASdA404-VASdA405-VAS",
    "dA406-VASdA407-VASdA408-VASdA409-VASdA410-VASdA411-VASdA412-VASdA413-VASdA414-VASdA415-VAS",
    "dA416-VASdA417-VASdA418-VASdA501dA502dA503dA504dA505dA506dA508dA509dA510dA511dA512dA513",
    "dA515dA516dA520dA521dA523dA524dA525dA526dA527dA528dA529dA530dA531dA532dA534dA535dA536"],
  ["aLINEAR A SIGN A537dA538dA539dA540dA541dA542dA545dA547dA548dA549dA550dA551dA552dA553dA554",
    "dA555dA556dA557dA559dA563dA564dA565dA566dA568dA569dA570dA571dA572dA573dA574dA575dA576dA577",
    "dA578dA579dA580dA581dA582dA583dA584dA585dA586dA587dA588dA589dA591dA592dA594dA595dA596dA598",
    "dA600dA601dA602dA603dA604dA606dA608dA609dA610dA611dA612dA613dA614dA615dA616dA617dA618dA619",
    "dA620dA621dA622dA623dA624dA626dA627dA628dA629dA634dA637dA638dA640dA642dA643dA644dA645dA646",
    "dA648dA649dA651dA652dA653dA654dA655dA656dA657dA658dA659dA660dA661dA662dA663dA664dA701 A",
    "dA702 BdA703 DdA704 EdA705 FdA706 HdA707 JdA708 KdA709 LdA709-2 L2dA709-3 L3dA709-4 L4",
    "dA709-6 L6dA710 WdA711 XdA712 YdA713 OMEGAdA714 ABBdA715 BBdA717 DDdA726 EYYYdA732 JEdA800",
    "dA801dA802dA803dA804dA805dA806dA807dAB001dAB002dAB003dAB004dAB005dAB006dAB007dAB008dAB009",
    "dAB010dAB011dAB013dAB016dAB017dAB020dAB021dAB021FdAB021MdAB022dAB022FdAB022MdAB023dAB023M",
    "dAB024dAB026dAB027dAB028dAB029dAB030dAB031dAB034dAB037dAB038dAB039dAB040dAB041dAB044dAB045",
    "dAB046dAB047dAB048dAB049dAB050dAB051dAB053dAB054dAB055dAB056dAB057dAB058dAB059dAB060dAB061",
    "dAB065dAB066dAB067dAB069dAB070dAB073dAB074dAB076dAB077dAB078dAB079dAB080dAB081dAB082dAB085",
    "dAB086dAB087dAB118dAB120dAB122dAB123dAB131AdAB131BdAB164dAB171dAB180dAB188dAB191",
    "bB IDEOGRAM B100 MANdB102 WOMANdB104 DEERdB105 EQUIDdB105F MAREdB105M STALLIONdB106F EWE",
    "dB106M RAMdB107F SHE-GOATdB107M HE-GOATdB108F SOWdB108M BOARdB109F COWdB109M BULL",
    "dB120 WHEATdB121 BARLEYdB122 OLIVEdB123 SPICEdB125 CYPERUSdB130 OILdB131 WINEdB132",
    "dB140 BRONZEdB141 GOLDdB142dB145 WOOLdB146dB150dB151 HORNdB152dB153dB154dB157dB158",
    "dB159 CLOTHdB160dB161dB162 GARMENTdB163 ARMOURdB164dB165dB166dB167dB168dB169dB170dB171",
    "dB172dB173 MONTHdB174dB176 TREEdB177dB178dB179dB180dB181dB182dB183dB184dB185dB189dB190",
    "dB191 HELMETdB220 FOOTSTOOLdB225 BATHTUBdB230 SPEARdB231 ARROWdB232dB233 SWORDdB234dB236",
    "dB240 WHEELED CHARIOTdB241 CHARIOTdB242 CHARIOT FRAMEdB243 WHEELdB245dB246dB248dB249dB251",
    "dB252dB253dB254 DARTdB255dB256dB257dB258dB259dVESSEL B155eB200eB201eB202eB203eB204eB205",
    "eB206eB207eB208eB209eB210eB211eB212eB213eB214eB215eB216eB217eB218eB219eB221eB222eB226eB227",
    "eB228eB229eB250eB305cMONOGRAM B127 KAPOdB128 KANAKOdB133 AREPAdB135 MERIdB156 TURO2",
    "dB247 DIPTEcSYLLABLE B001 DAdB002 ROdB003 PAdB004 TEdB005 TOdB006 NAdB007 DIdB008 A",
    "dB009 SEdB010 UdB011 POdB012 SOdB013 MEdB014 DOdB015 MOdB016 QAdB017 ZAdB020 ZOdB021 QI",
    "dB023 MUdB024 NEdB025 A2dB026 RUdB027 REdB028 IdB029 PU2dB030 NIdB031 SAdB032 QOdB033 RA3",
    "dB036 JOdB037 TIdB038 EdB039 PIdB040 WIdB041 SIdB042 WOdB043 A3dB044 KEdB045 DEdB046 JE",
    "dB048 NWAdB050 PUdB051 DUdB052 NOdB053 RIdB054 WAdB055 NUdB057 JAdB058 SUdB059 TAdB060 RA",
    "dB061 OdB062 PTEdB065 JUdB066 TA2dB067 KIdB068 RO2dB069 TUdB070 KOdB071 DWEdB072 PE",
    "dB073 MIdB074 ZEdB075 WEdB076 RA2dB077 KAdB078 QEdB080 MAdB081 KUdB085 AUdB087 TWE",
    "dB090 DWOdB091 TWOcSYMBOL B018dB019dB022dB034dB047dB049dB056dB063dB064dB079dB082dB083dB086",
    "dB089aLINK SYMBOLaLINKED PAPERCLIPSaLION FACEaLIPSaLIPSTICKaLIRA SIGNaLISU LETTER AcAEcBA",
    "cCAcCHAcDAcDZAcEcEUcFAcGAcGHAcHAcHHAcIcJAcKAcKHAcLAcMAcNAcNGAcOcOEcPAcPHAcSAcSHAcTAcTHA",
    "cTONE MYA BOeCYAeJEUeNAeTIdNA POcTSAcTSHAcUcUEcUHcWAcXAcYAcYHAcZAcZHAbPUNCTUATION COMMA",
    "cFULL STOPaLIVRE TOURNOIS SIGNaLIZARDaLLAMAaLOBSTERaLOCKbWITH INK PENaLOCKING-SHIFT ONE",
    "bZEROaLOGICAL ANDcWITH DOT ABOVEdDOUBLE OVERBAReUNDERBARdHORIZONTAL DASHdMIDDLE STEM",
    "dUNDERBARbORcOVERLAPPING LOGICAL ANDcWITH DOT ABOVEdDOUBLE OVERBAReUNDERBAR",
    "dHORIZONTAL DASHdMIDDLE STEMaLOLLIPOPaLONG DASH FROM LEFT MEMBER OF DOUBLE VERTICAL",
    "bDIVISIONbDRUMbLEFT RIGHT ARROWdDOUBLE ARROWcTACKbLEFTWARDS ARROWdFROM BARcDOUBLE ARROW",
    "eFROM BARcSQUIGGLE ARROWbRIGHT TACKbRIGHTWARDS ARROWdFROM BARcDOUBLE ARROWeFROM BAR",
    "cSQUIGGLE ARROWaLOTION BOTTLEaLOTUSaLOUDLY CRYING FACEaLOVE HOTELbLETTERaLOW ASTERISK",
    "bBATTERYbBRIGHTNESS SYMBOLbDOUBLE PRIME QUOTATION MARKbKAVYKAcWITH DOTbLINE",
    "aLOWER BLADE SCISSORSbFIVE EIGHTHS BLOCKbHALF BLOCKcCIRCLEcINVERSE WHITE CIRCLE",
    "cMEDIUM SHADEbLEFT BALLPOINT PENcBLOCK DIAGONAL LOWER MIDDLE LEFT TO LOWER CENTREjRIGHT",
    "eUPPER CENTRE TO LOWER MIDDLE RIGHTiRIGHThUPPER MIDDLE RIGHTfLEFT TO LOWER CENTRE",
    "iMIDDLE RIGHThUPPER MIDDLE RIGHTfMIDDLE LEFT TO LOWER CENTREjMIDDLE RIGHTjRIGHTcCRAYON",
    "cFOUNTAIN PENcPAINTBRUSHcPENCILcQUADRANT CIRCULAR ARCcSEMICIRCULAR ANTICLOCKWISE ARROW",
    "cTRIANGLEcTRIANGULAR MEDIUM SHADEbONE EIGHTH BLOCKcQUARTER BLOCK",
    "bRIGHT BLOCK DIAGONAL LOWER CENTRE TO LOWER MIDDLE RIGHThUPPER MIDDLE RIGHTiRIGHT",
    "fLEFT TO LOWER MIDDLE RIGHThUPPER CENTREiMIDDLE RIGHTfMIDDLE LEFT TO UPPER CENTRE",
    "jMIDDLE RIGHTjRIGHTeUPPER MIDDLE LEFT TO UPPER CENTREjRIGHTcCORNER WITH DOT",
    "cDROP-SHADOWED WHITE SQUAREcPENCILcQUADRANT CIRCULAR ARCcSEMICIRCULAR CLOCKWISE ARROW",
    "cSHADOWED WHITE CIRCLEeSQUAREcTRIANGLEcTRIANGULAR MEDIUM SHADEbSEVEN EIGHTHS BLOCK",
    "bTHREE EIGHTHS BLOCKcQUARTERS BLOCKbTRIANGULAR ONE QUARTER BLOCKaLOZENGE",
    "bDIVIDED BY HORIZONTAL RULEaLREaLRIaLRMaLROaLUGGAGEaLUNGSaLYCIAN LETTER AcANcBcBHcDcEcENcG",
    "cHcIcJcKcKKcLcMcMMcNcNNcPcQcRcScTcTHcTTcUcWcXcZaLYDIAN LETTER AcANcBcCcDcEcENcFcGcIcKcLcLY",
    "cMcNcNNcOcQcRcScSScTcTTcUcVcYbTRIANGULAR MARKaLYING FACE"]]

end PlainMath.Text.CharName
