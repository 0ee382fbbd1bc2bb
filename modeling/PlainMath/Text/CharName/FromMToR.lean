/-
# `Text.CharName.FromMToR` — names of characters from M to R
-/
namespace PlainMath.Text.CharName

/-- The names that begin with letters from M to R.  A small letter begins a name and tells how
many words it has in common with the name before it: none for `a`, one for `b` and so on.  Lists
are kept short, and the names of one list have the same first letter. -/
def fromMToR : List (List String) := [
  ["aMACRONaMAGEaMAGIC WANDaMAGNETaMAHAJANI ABBREVIATION SIGNbLETTER AcBAcBHAcCAcCHAcDAcDDA",
    "cDDHAcDHAcEcGAcGHAcHAcIcJAcJHAcKAcKHAcLAcMAcNAcNNAcNYAcOcPAcPHAcRAcRRAcSAcTAcTHAcTTAcTTHA",
    "cUcVAbLIGATURE SHRIbSECTION MARKbSIGN NUKTAaMAHJONG TILE AUTUMNcBACKcBAMBOOcCHRYSANTHEMUM",
    "cEAST WINDcEIGHT OF BAMBOOSeCHARACTERSeCIRCLEScFIVE OF BAMBOOSeCHARACTERSeCIRCLES",
    "cFOUR OF BAMBOOSeCHARACTERSeCIRCLEScGREEN DRAGONcJOKERcNINE OF BAMBOOSeCHARACTERSeCIRCLES",
    "cNORTH WINDcONE OF BAMBOOSeCHARACTERSeCIRCLEScORCHIDcPLUMcRED DRAGONcSEVEN OF BAMBOOS",
    "eCHARACTERSeCIRCLEScSIX OF BAMBOOSeCHARACTERSeCIRCLEScSOUTH WINDcSPRINGcSUMMER",
    "cTHREE OF BAMBOOSeCHARACTERSeCIRCLEScTWO OF BAMBOOSeCHARACTERSeCIRCLEScWEST WIND",
    "cWHITE DRAGONcWINTERaMAKASAR ANGKAbEND OF SECTIONbLETTER AcBAcCAcDAcGAcJAcKAcLAcMAcNAcNGA",
    "cNYAcPAcRAcSAcTAcVAcYAbPASSIMBANGbVOWEL SIGN EdIdOdUaMALAYALAM AU LENGTH MARKbDATE MARK",
    "bDIGIT EIGHTcFIVEcFOURcNINEcONEcSEVENcSIXcTHREEcTWOcZERObFRACTION ONE EIGHTHdFIFTH",
    "dFORTIETHdHALFdONE-HUNDRED-AND-SIXTIETHdQUARTERdSIXTEENTHdTENTHdTWENTIETHcTHREE EIGHTIETHS",
    "dQUARTERSdSIXTEENTHSdTWENTIETHSbLETTER AcAAcAIcARCHAIC IIcAUcBAcBHAcCAcCHAcCHILLU KdLdLL",
    "dLLLdMdNdNNdRRdYcDAcDDAcDDHAcDHAcDOT REPHcEcEEcGAcGHAcHAcIcIIcJAcJHAcKAcKHAcLAcLLAcLLLAcMA",
    "cNAcNGAcNNAcNNNAcNYAcOcOOcPAcPHAcRAcRRAcSAcSHAcSSAcTAcTHAcTTAcTTHAcTTTAcUcUUcVA",
    "cVEDIC ANUSVARAcVOCALIC LdLLdRdRRcYAbNUMBER ONE HUNDREDdTHOUSANDcTENbSIGN ANUSVARA",
    "cAVAGRAHAcCANDRABINDUcCIRCULAR VIRAMAcCOMBINING ANUSVARA ABOVEcPARAcVERTICAL BAR VIRAMA",
    "cVIRAMAcVISARGAbVOWEL SIGN AAdAIdAUdEdEEdIdIIdOdOOdUdUUdVOCALIC LeLLeReRR",
    "aMALE AND FEMALE SIGNbSIGNbWITH STROKE AND MALE AND FEMALE SIGNdSIGNaMALTESE CROSSaMAMMOTH",
    "aMANbAND WOMAN HOLDING HANDSbDANCINGbIN BUSINESS SUIT LEVITATINGcTUXEDObWITH GUA PI MAO",
    "cTURBANaMANAT SIGNaMANDAIC AFFRICATION MARKbGEMINATION MARKbLETTER ABcADcAGcAHcAINcAKcAKSA",
    "cALcAMcANcAPcAQcARcAScASHcASZcATcATTcAZcDUSHENNAcHALQAcINcITcKADcUSHENNAbPUNCTUATION",
    "bVOCALIZATION MARKaMANGOaMANICHAEAN ABBREVIATION MARK ABOVEdBELOWbLETTER AAYINcALEPHcAYIN",
    "cBETHcBHETHcDALETHcDHAMEDHcFEcGHIMELcGIMELcHEcHETHcJAYINcJHAYINcKAPHcKHAPHcLAMEDHcMEMcNUN",
    "cPEcQHOPHcQOPHcRESHcSADHEcSAMEKHcSHINcSSHINcTAWcTETHcTHAMEDHcWAWcXAPHcXOPHcYODHcZAYIN",
    "cZHAYINbNUMBER FIVEcONEdHUNDREDcTENcTWENTYbPUNCTUATION DOTdWITHIN DOT",
    "cDOUBLE DOT WITHIN DOTcFLEURONcLINE FILLERcSTARcTWO DOTSbSIGN UDaMANS SHOE",
    "aMANTELPIECE CLOCKaMANUAL WHEELCHAIRaMAP SYMBOL FOR LIGHTHOUSEaMAPLE LEAF",
    "aMARCHEN HEAD MARKbLETTER -AcAcBAcCAcCHAcDAcDZAcGAcHAcJAcKAcKHAcLAcMAcNAcNGAcNYAcPAcPHAcRA",
    "cSAcSHAcTAcTHAcTSAcTSHAcWAcYAcZAcZHAbMARK SHADbSIGN ANUSVARAcCANDRABINDU",
    "bSUBJOINED LETTER AdBAdCAdCHAdDAdDZAdGAdHAdJAdKAdKHAdLAdMAdNAdNGAdNYAdPAdPHAdRAdSAdSHAdTA",
    "dTHAdTSAdTSHAdWAdYAdZAdZHAbVOWEL SIGN AAdEdIdOdUaMARRIAGE SYMBOLaMARTIAL ARTS UNIFORM",
    "aMASARAM GONDI DIGIT EIGHTdFIVEdFOURdNINEdONEdSEVENdSIXdTHREEdTWOdZEROcLETTER AdAAdAIdAU",
    "dBAdBHAdCAdCHAdDAdDDAdDDHAdDHAdEdGAdGHAdHAdIdIIdJAdJHAdJNYAdKAdKHAdKSSAdLAdLLAdMAdNAdNGA",
    "dNNAdNYAdOdPAdPHAdRAdSAdSHAdSSAdTAdTHAdTRAdTTAdTTHAdUdUUdVAdYAcRA-KARAcREPHAcSIGN ANUSVARA",
    "dCANDRAdHALANTAdNUKTAdVISARGAcVIRAMAcVOWEL SIGN AAeAIeAUeEeIeIIeOeUeUUeVOCALIC R",
    "aMASCULINE ORDINAL INDICATORaMASK WORK SYMBOLaMASU MARKaMATE DRINK",
    "aMATHEMATICAL BOLD CAPITAL AdALPHAdBdBETAdCdCHIdDdDELTAdDIGAMMAdEdEPSILONdETAdFdGdGAMMAdH",
    "dIdIOTAdJdKdKAPPAdLdLAMDAdMdMUdNdNUdOdOMEGAdOMICRONdPdPHIdPIdPSIdQdRdRHOdSdSIGMAdTdTAU",
    "dTHETAeSYMBOLdUdUPSILONdVdWdXdXIdYdZdZETAcDIGIT EIGHTdFIVEdFOURdNINEdONEdSEVENdSIXdTHREE",
    "dTWOdZEROcEPSILON SYMBOLcFRAKTUR CAPITAL AeBeCeDeEeFeGeHeIeJeKeLeMeNeOePeQeReSeTeUeVeWeXeY",
    "eZdSMALL AeBeCeDeEeFeGeHeIeJeKeLeMeNeOePeQeReSeTeUeVeWeXeYeZcITALIC CAPITAL AeALPHAeBeBETA",
    "eCeCHIeDeDELTAeEeEPSILONeETAeFeGeGAMMAeHeIeIOTAeJeKeKAPPAeLeLAMDAeMeMUeNeNUeOeOMEGA",
    "eOMICRONePePHIePIePSIeQeReRHOeSeSIGMAeTeTAUeTHETAfSYMBOLeUeUPSILONeVeWeXeXIeYeZeZETA",
    "dEPSILON SYMBOLdKAPPA SYMBOLdNABLAdPARTIAL DIFFERENTIALdPHI SYMBOLdPI SYMBOLdRHO SYMBOL",
    "dSMALL AeALPHAeBeBETAeCeCHIeDeDELTAeEeEPSILONeETAeFeFINAL SIGMAeGeGAMMAeHeIeIOTAeJeKeKAPPA",
    "eLeLAMDAeMeMUeNeNUeOeOMEGAeOMICRONePePHIePIePSIeQeReRHOeSeSIGMAeTeTAUeTHETAeUeUPSILONeVeW",
    "eXeXIeYeZeZETAdTHETA SYMBOLcKAPPA SYMBOLcNABLAcPARTIAL DIFFERENTIALcPHI SYMBOLcPI SYMBOL",
    "cRHO SYMBOLcSCRIPT CAPITAL AeBeCeDeEeFeGeHeIeJeKeLeMeNeOePeQeReSeTeUeVeWeXeYeZdSMALL AeBeC",
    "eDeEeFeGeHeIeJeKeLeMeNeOePeQeReSeTeUeVeWeXeYeZcSMALL AdALPHAdBdBETAdCdCHIdDdDELTAdDIGAMMA",
    "dEdEPSILONdETAdFdFINAL SIGMAdGdGAMMAdHdIdIOTAdJdKdKAPPAdLdLAMDAdMdMUdNdNUdOdOMEGAdOMICRON",
    "dPdPHIdPIdPSIdQdRdRHOdSdSIGMAdTdTAUdTHETAdUdUPSILONdVdWdXdXIdYdZdZETAcTHETA SYMBOL",
    "bDOUBLE-STRUCK CAPITAL AdBdDdEdFdGdIdJdKdLdMdOdSdTdUdVdWdXdYcDIGIT EIGHTdFIVEdFOURdNINE",
    "dONEdSEVENdSIXdTHREEdTWOdZEROcSMALL AdBdCdDdEdFdGdHdIdJdKdLdMdNdOdPdQdRdSdTdUdVdWdXdYdZ",
    "bFALLING DIAGONALbFRAKTUR CAPITAL AdBdDdEdFdGdJdKdLdMdNdOdPdQdSdTdUdVdWdXdYcSMALL AdBdCdD",
    "dEdFdGdHdIdJdKdLdMdNdOdPdQdRdSdTdUdVdWdXdYdZbITALIC CAPITAL AdALPHAdBdBETAdCdCHIdDdDELTAdE",
    "dEPSILONdETAdFdGdGAMMAdHdIdIOTAdJdKdKAPPAdLdLAMDAdMdMUdNdNUdOdOMEGAdOMICRONdPdPHIdPIdPSIdQ",
    "dRdRHOdSdSIGMAdTdTAUdTHETAeSYMBOLdUdUPSILONdVdWdXdXIdYdZdZETAcEPSILON SYMBOLcKAPPA SYMBOL",
    "cNABLAcPARTIAL DIFFERENTIALcPHI SYMBOLcPI SYMBOLcRHO SYMBOLcSMALL AdALPHAdBdBETAdCdCHIdD",
    "dDELTAdDOTLESS IeJdEdEPSILONdETAdFdFINAL SIGMAdGdGAMMAdIdIOTAdJdKdKAPPAdLdLAMDAdMdMUdNdNU",
    "dOdOMEGAdOMICRONdPdPHIdPIdPSIdQdRdRHOdSdSIGMAdTdTAUdTHETAdUdUPSILONdVdWdXdXIdYdZdZETA",
    "cTHETA SYMBOLbLEFT ANGLE BRACKETcDOUBLE ANGLE BRACKETcFLATTENED PARENTHESIS",
    "cWHITE SQUARE BRACKETdTORTOISE SHELL BRACKETbMONOSPACE CAPITAL AdBdCdDdEdFdGdHdIdJdKdLdMdN",
    "dOdPdQdRdSdTdUdVdWdXdYdZcDIGIT EIGHTdFIVEdFOURdNINEdONEdSEVENdSIXdTHREEdTWOdZEROcSMALL AdB",
    "dCdDdEdFdGdHdIdJdKdLdMdNdOdPdQdRdSdTdUdVdWdXdYdZbRIGHT ANGLE BRACKETcDOUBLE ANGLE BRACKET",
    "cFLATTENED PARENTHESIScWHITE SQUARE BRACKETdTORTOISE SHELL BRACKETbRISING DIAGONAL",
    "bSANS-SERIF BOLD CAPITAL AeALPHAeBeBETAeCeCHIeDeDELTAeEeEPSILONeETAeFeGeGAMMAeHeIeIOTAeJeK",
    "eKAPPAeLeLAMDAeMeMUeNeNUeOeOMEGAeOMICRONePePHIePIePSIeQeReRHOeSeSIGMAeTeTAUeTHETAfSYMBOLeU",
    "eUPSILONeVeWeXeXIeYeZeZETAdDIGIT EIGHTeFIVEeFOUReNINEeONEeSEVENeSIXeTHREEeTWOeZERO",
    "dEPSILON SYMBOLdITALIC CAPITAL AfALPHAfBfBETAfCfCHIfDfDELTAfEfEPSILONfETAfFfGfGAMMAfHfI",
    "fIOTAfJfKfKAPPA"],
  ["aMATHEMATICAL SANS-SERIF BOLD ITALIC CAPITAL LfLAMDAfMfMUfNfNUfOfOMEGAfOMICRONfPfPHIfPI",
    "fPSIfQfRfRHOfSfSIGMAfTfTAUfTHETAgSYMBOLfUfUPSILONfVfWfXfXIfYfZfZETAeEPSILON SYMBOL",
    "eKAPPA SYMBOLeNABLAePARTIAL DIFFERENTIALePHI SYMBOLePI SYMBOLeRHO SYMBOLeSMALL AfALPHAfB",
    "fBETAfCfCHIfDfDELTAfEfEPSILONfETAfFfFINAL SIGMAfGfGAMMAfHfIfIOTAfJfKfKAPPAfLfLAMDAfMfMUfN",
    "fNUfOfOMEGAfOMICRONfPfPHIfPIfPSIfQfRfRHOfSfSIGMAfTfTAUfTHETAfUfUPSILONfVfWfXfXIfYfZfZETA",
    "eTHETA SYMBOLdKAPPA SYMBOLdNABLAdPARTIAL DIFFERENTIALdPHI SYMBOLdPI SYMBOLdRHO SYMBOL",
    "dSMALL AeALPHAeBeBETAeCeCHIeDeDELTAeEeEPSILONeETAeFeFINAL SIGMAeGeGAMMAeHeIeIOTAeJeKeKAPPA",
    "eLeLAMDAeMeMUeNeNUeOeOMEGAeOMICRONePePHIePIePSIeQeReRHOeSeSIGMAeTeTAUeTHETAeUeUPSILONeVeW",
    "eXeXIeYeZeZETAdTHETA SYMBOLcCAPITAL AdBdCdDdEdFdGdHdIdJdKdLdMdNdOdPdQdRdSdTdUdVdWdXdYdZ",
    "cDIGIT EIGHTdFIVEdFOURdNINEdONEdSEVENdSIXdTHREEdTWOdZEROcITALIC CAPITAL AeBeCeDeEeFeGeHeI",
    "eJeKeLeMeNeOePeQeReSeTeUeVeWeXeYeZdSMALL AeBeCeDeEeFeGeHeIeJeKeLeMeNeOePeQeReSeTeUeVeWeXeY",
    "eZcSMALL AdBdCdDdEdFdGdHdIdJdKdLdMdNdOdPdQdRdSdTdUdVdWdXdYdZbSCRIPT CAPITAL AdCdDdGdJdKdN",
    "dOdPdQdSdTdUdVdWdXdYdZcSMALL AdBdCdDdFdHdIdJdKdLdMdNdPdQdRdSdTdUdVdWdXdYdZaMAXIMIZE",
    "aMAYAN NUMERAL EIGHTcEIGHTEENcELEVENcFIFTEENcFIVEcFOURcFOURTEENcNINEcNINETEENcONEcSEVEN",
    "cSEVENTEENcSIXcSIXTEENcTENcTHIRTEENcTHREEcTWELVEcTWOcZEROaMEASURED ANGLEcOPENING LEFT",
    "cWITH OPEN ARM ENDING IN ARROW POINTING DOWN AND LEFTlRIGHTjLEFT AND DOWNlUP",
    "jRIGHT AND DOWNlUPjUP AND LEFTlRIGHTbBYbRIGHT ANGLE WITH DOTaMEAT ON BONEaMECHANICAL ARM",
    "bLEGaMEDEFAIDRIN CAPITAL LETTER AdAIdATIUdBdCdDdEdFdGdHdHPdIdJdKdKPdLdMdNdNGdNYdOdOEdPdQdR",
    "dSdTdUdVdWdXdYdYUdZbCOMMAbDIGIT EIGHTcFIVEcFOURcNINEcONEdALTERNATE FORMcSEVENcSIXcTHREE",
    "dALTERNATE FORMcTWOdALTERNATE FORMcZERObEXCLAMATION OHbFULL STOPbNUMBER EIGHTEENcELEVEN",
    "cFIFTEENcFOURTEENcNINETEENcSEVENTEENcSIXTEENcTENcTHIRTEENcTWELVEbSMALL LETTER AdAIdATIUdB",
    "dCdDdEdFdGdHdHPdIdJdKdKPdLdMdNdNGdNYdOdOEdPdQdRdSdTdUdVdWdXdYdYUdZbSYMBOL AIVA",
    "aMEDIEVAL COMMAbEXCLAMATION MARKbQUESTION MARKaMEDIUM BLACK CIRCLEbBOLD WHITE CIRCLE",
    "bEIGHT POINTED BLACK STARcSPOKED ASTERISKbFIVE SPOKED ASTERISK",
    "bFLATTENED LEFT PARENTHESIS ORNAMENTcRIGHT PARENTHESIS ORNAMENTbFOUR POINTED BLACK STAR",
    "dPINWHEEL STARbGREEK CROSSbLEFT CURLY BRACKET ORNAMENTcPARENTHESIS ORNAMENT",
    "bLEFT-POINTING ANGLE BRACKET ORNAMENTbMATHEMATICAL SPACEbRIGHT CURLY BRACKET ORNAMENT",
    "cPARENTHESIS ORNAMENTbRIGHT-POINTING ANGLE BRACKET ORNAMENTbSALTIREbSHADE",
    "bSIX POINTED BLACK STARcSPOKED ASTERISKbSMALL WHITE CIRCLEbTHREE POINTED BLACK STAR",
    "dPINWHEEL STARbVERTICAL BARbWHITE CIRCLEcSQUAREaMEETEI MAYEK AHANG KHUDAMcANJIcAPUN IYEK",
    "cCHEIKHANcCHEIKHEIcDIGIT EIGHTdFIVEdFOURdNINEdONEdSEVENdSIXdTHREEdTWOdZEROcLETTER ATIYAdBA",
    "dBHAMdCHAdCHILdDDAdDDHAdDHOUdDILdEdGHOUdGOKdHUKdIeLONSUMdJHAMdJILdKHOUdKOKeLONSUMdLAI",
    "eLONSUMdMITeLONSUMdNAeLONSUMdNGOUeLONSUMdNNAdNYAdOdPAeLONSUMdPHAMdRAIdSAMdSHAdSSAdTHOUdTIL",
    "eLONSUMdTTAdTTHAdUNdWAIdYANGcLUM IYEKcSYLLABLE REPETITION MARKcVIRAMAcVOWEL SIGN AAIeAAU",
    "eANAPeAUeCHEINAPeIIeINAPeNUNGeONAPeSOUNAPeUNAPeUUeVISARGAeYENAPcWORD REPETITION MARKaMELON",
    "aMELTING FACEaMEMOaMENDE KIKAKUI COMBINING NUMBER HUNDRED THOUSANDSeHUNDREDSeMILLIONS",
    "eTEENSeTEN THOUSANDSeTENSeTHOUSANDScDIGIT EIGHTdFIVEdFOURdNINEdONEdSEVENdSIXdTHREEdTWO",
    "cSYLLABLE M001 KIdM002 KAdM003 KUdM004 WIdM005 WAdM006 WUdM007 MINdM008 MANdM009 MUN",
    "dM010 BIdM011 BAdM012 BUdM013 IdM014 AdM015 UdM016 DIdM017 DAdM018 DUdM019 SIdM020 SA",
    "dM021 SUdM022 TIdM023 TAdM024 TUdM025 LIdM026 LAdM027 LUdM028 JIdM029 JAdM030 JUdM031 YI",
    "dM032 YAdM033 YUdM034 FIdM035 FAdM036 FUdM037 NINdM038 NANdM039 NUNdM040 HEEdM041 HA",
    "dM042 HOOdM043 NGGAdM044 KPEEdM045 WOdM046 HUANdM047 MBEEdM048 KOdM049 WVAdM050 PUdM051 PE",
    "dM052 HENdM053 HINdM054 LOOdM055 TEdM056 GBAdM057 NGONdM058 NYANdM059 MENdM060 NYON",
    "dM061 WVIdM062 MBAdM063 JOdM064 NDOdM065 KEEdM066 POdM067 NDOOdM068 PIdM069 TOdM070 GBO",
    "dM071 GBOOdM072 MBEdM073 LEdM074 KPUdM075 FEdM076 KOOdM077 VOdM078 FEEdM079 SOdM080 YE",
    "dM081 PEEdM082 NGGUdM083 HEEIdM084 LEEdM085 VEdM086 LONG NGGEdM087 HUNdM088 FOdM089 DEE",
    "dM090 NGGIdM091 TEEdM092 KPAdM093 GBEEdM094 MONdM095 KEdM096 HEdM097 BEdM098 NYENdM099 PA",
    "dM100 EdM101 FANdM102 POOdM103 BOOdM104 TOOdM105 LONG MBOOdM106 LONG NGGOOdM107 GBE",
    "dM108 KPEdM109 YEEdM110 LONG LEdM111 GAdM112 KPOOdM113 JEdM114 WOOdM115 NGGEEdM116 SE",
    "dM117 NENdM118 WEdM119 NDEdM120 NGGOdM121 YOdM122 MBUdM123 NDIdM124 GBIdM125 NDUdM126 WEE",
    "dM127 NGGUAdM128 HOOUdM129 NDAdM130 HANdM131 INdM132 KPIdM133 FOOdM134 NJOOdM135 IN",
    "dM136 SOOdM137 EIdM138 BOdM139 WVEdM140 HOdM141 YOOdM142 LONG MBOdM143 WEIdM144 VOO",
    "dM145 MBIdM146 NGGEdM147 OdM148 GBUdM149 NJEEdM150 BEEdM151 VUdM152 NJAdM153 LOdM154 MUAN",
    "dM155 GIdM156 NGGOOdM157 JEEdM158 KPOdM159 NGGAAdM160 JOOdM161 LONG MBEdM162 SEEdM163 EE",
    "dM164 NYINdM165 OOdM166 GUEIdM167 GUANdM168 GUdM169 NONdM170 NYUNdM171 RAdM172 MBOO",
    "dM173 VEEdM174 MBOdM175 LONG JOdM176 HIdM177 NGUANdM178 ENdM179 KUAdM180 DOOdM181 DO",
    "dM182 VIdM183 LONG NGGOdM184 NGENdM185 VAdM186 HUdM187 MBUUdM188 MBEEdM189 MUENdM190 GEE",
    "dM191 NDEEdM192 NJUdM193 HONdM194 WUIdM195 ANdM196 SIAdM197 FUAaMENORAH WITH NINE BRANCHES",
    "aMENS SYMBOLaMERCURYaMEROITIC CURSIVE FRACTION EIGHT TWELFTHSdELEVEN TWELFTHS",
    "dFIVE TWELFTHSdFOUR TWELFTHSdNINE TWELFTHSdONE HALFeTWELFTHdSEVEN TWELFTHSdSIX TWELFTHS",
    "dTEN TWELFTHSdTHREE TWELFTHSdTWO TWELFTHScLETTER AdARCHAIC SAdBAdDAdEdHHAdIdKAdKHAdLAdMA",
    "dNAdNEdOdPAdQAdRAdSAdSEdTAdTEdTOdWAdYAcLOGOGRAM IMNdRMTcNUMBER EIGHTeHUNDREDfTHOUSAND",
    "eTHOUSANDdEIGHTY THOUSANDdFIFTYeTHOUSANDdFIVEeHUNDREDfTHOUSANDeTHOUSANDdFORTYeTHOUSAND",
    "dFOUReHUNDREDfTHOUSANDeTHOUSANDdNINEeHUNDREDfTHOUSANDeTHOUSANDdNINETY THOUSANDdONEeHUNDRED",
    "fTHOUSANDeTHOUSANDdSEVENeHUNDREDfTHOUSANDeTHOUSANDdSEVENTYeTHOUSANDdSIXeHUNDREDfTHOUSAND",
    "eTHOUSANDdSIXTYeTHOUSANDdTENeTHOUSANDdTHIRTYeTHOUSANDdTHREEeHUNDREDfTHOUSANDeTHOUSAND",
    "dTWENTYeTHOUSANDdTWOeHUNDREDfTHOUSANDeTHOUSANDbHIEROGLYPHIC LETTER AdBAdBA-2dDAdEdHHAdIdKA",
    "dKHAdLAdMAdNAdNA-2dNEdNE-2dOdPAdQAdRAdRA-2dSAdSA-2dSEdTAdTA-2dTEdTE-2dTOdWAdYAcSYMBOL VIDJ",
    "dVIDJ-2aMERPERSONaMESSAGE WAITINGaMETRICAL BREVEbLONG OVER SHORTdTWO SHORTSbPENTASEME",
    "bSHORT OVER LONGbTETRASEMEbTRISEMEbTWO SHORTS JOINEDdOVER LONGaMETROaMIAO LETTER AH",
    "cARCHAIC MA"],
  ["aMIAO LETTER ARCHAIC NAdNGAdZZAcBAcBRIcDAcDDAcDLHAcDLHYAcDZAcDZHAcDZYIcDZZAcFAcGAcGHAcGHHA",
    "cHAcHHAcKAcLAcLHAcLHYAcLYAcMAcMHAcNAcNASALIZATIONcNGAcNGHAcNHAcNNAcNNHAcNYAcNYHAcPAcPLAcQA",
    "cQGAcREFORMED TONE-1dTONE-2dTONE-4dTONE-5dTONE-6dTONE-8dTSHAcRTEcSAcSHAcSSAcSYIcTAcTEcTLHA",
    "cTLHYAcTONE-2cTONE-3cTONE-4cTONE-5cTONE-6cTONE-7cTONE-8cTSAcTSEcTSHAcTSSAcTTAcVAcVFAcWAcXA",
    "cYI DZHAdKAdNNAdPAdTAdTSAdTSHAdTTAcZAcZHAcZSAcZSHAcZZAcZZSAcZZSYAcZZYAbSIGN ASPIRATION",
    "cCONSONANT MODIFIER BARcREFORMED ASPIRATIONdVOICINGbTONE ABOVEcBELOWcRIGHTcTOP RIGHT",
    "bVOWEL SIGN AdAAdAEdAEEdAHHdAIdANdANGdAUdEdEAdEIdENdENGdERdERRdIdIAdIANdIANGdIEdIGdIIdING",
    "dIOdIONGdIUdNdNGdOdOERdOEYdOGdOOdOUdROUNDED EReERRdUdUAdUANdUANGdUEIdUIdUNGdUOGdUUdVWdWdWO",
    "dYdYIdYUIaMICR DASH SYMBOLbON US SYMBOLaMICRO SIGNaMICROBEaMICROPHONEaMICROSCOPE",
    "aMIDDLE DOTbTHIRD WHITE RIGHT POINTING INDEXaMIDLINE HORIZONTAL ELLIPSISaMILITARY HELMET",
    "bMEDALaMILKY WAYaMILL SIGNaMINIBUSaMINIDISCaMINIMIZEaMINUS SIGNcIN TRIANGLE",
    "cWITH COMMA ABOVEdDOT BELOWdFALLING DOTSdRISING DOTSbTILDEaMINUS-OR-PLUS SIGNaMINYaMIRROR",
    "bBALLaMMSPaMOBILE PHONEcOFFcWITH RIGHTWARDS ARROW AT LEFTaMODELSaMODERN PENTATHLON",
    "aMODI ABBREVIATION SIGNbDANDAbDIGIT EIGHTcFIVEcFOURcNINEcONEcSEVENcSIXcTHREEcTWOcZERO",
    "bDOUBLE DANDAbLETTER AcAAcAIcAUcBAcBHAcCAcCHAcDAcDDAcDDHAcDHAcEcGAcGHAcHAcIcIIcJAcJHAcKA",
    "cKHAcLAcLLAcMAcNAcNGAcNNAcNYAcOcPAcPHAcRAcSAcSHAcSSAcTAcTHAcTTAcTTHAcUcUUcVAcVOCALIC LdLL",
    "dRdRRcYAbSIGN ANUSVARAcARDHACANDRAcHUVAcVIRAMAcVISARGAbVOWEL SIGN AAdAIdAUdEdIdIIdOdUdUU",
    "dVOCALIC LeLLeReRRaMODIFIER BREVE WITH INVERTED BREVEbLETTER ACUTE ACCENTcALVEOLAR CLICK",
    "cAPOSTROPHEcBEGIN HIGH TONEdLOW TONEcBILABIAL CLICKcCAPITAL AdAEdBdBARRED BdCdDdEdFdGdH",
    "eWITH STROKEdIdJdKdLdMdNdOdOUdPdQdRdREVERSED EeNdTdUdVdWcCENTRED LEFT HALF RING",
    "dRIGHT HALF RINGcCHINESE TONE YANG PINGfQUfRUfSHANGeYIN PINGfQUfRUfSHANGcCIRCUMFLEX ACCENT",
    "cCOLONcCROSS ACCENTcCYRILLIC ENdHARD SIGNdSOFT SIGNcDENTAL CLICKcDOT HORIZONTAL BARdSLASH",
    "dVERTICAL BARcDOUBLE APOSTROPHEdPRIMEcDOWN ARROWHEADdTACKcEND HIGH TONEdLOW TONE",
    "cEXTRA-HIGH DOTTED LEFT-STEM TONE BAReTONE BARdLEFT-STEM TONE BARdTONE BAR",
    "cEXTRA-LOW DOTTED LEFT-STEM TONE BAReTONE BARdLEFT-STEM TONE BARdTONE BARcGEORGIAN NAR",
    "cGLOTTAL STOPeWITH STROKEcGRAVE ACCENTcHALF TRIANGULAR COLON",
    "cHIGH DOTTED LEFT-STEM TONE BAReTONE BARdLEFT-STEM TONE BARdTONE BARcLATERAL CLICK",
    "cLEFT ARROWHEADdHALF RINGdTACKcLOW ACUTE ACCENTdCIRCUMFLEX ACCENT",
    "dDOTTED LEFT-STEM TONE BAReTONE BARdDOWN ARROWHEADdGRAVE ACCENTdINVERTED EXCLAMATION MARK",
    "dLEFT ARROWeARROWHEADdLEFT-STEM TONE BARdMACRONdRIGHT ARROWHEADdRINGdTILDEdTONE BAR",
    "dUP ARROWHEADdVERTICAL LINEcLOWER RIGHT CORNER ANGLEcMACRONcMID DOTTED LEFT-STEM TONE BAR",
    "eTONE BARdLEFT-STEM TONE BARdTONE BARcMIDDLE DOUBLE ACUTE ACCENTeGRAVE ACCENTdGRAVE ACCENT",
    "cMINUS SIGNcOPEN SHELFcPLUS SIGNcPRIMEcRAISED COLONdDOWN ARROWdEXCLAMATION MARK",
    "dINVERTED EXCLAMATION MARKdUP ARROWcRETROFLEX CLICK WITH RETROFLEX HOOKcREVERSED COMMA",
    "dGLOTTAL STOPfWITH STROKEcRHOTIC HOOKcRIGHT ARROWHEADdHALF RINGdTACKcSHELF",
    "cSHORT EQUALS SIGNcSMALL AdAEdAINdALPHAdBeWITH HOOKdBARRED OdBETAdBOTTOM HALF OdC",
    "eWITH CURLdCAPITAL AAeBeGfWITH HOOKeHeIfWITH STROKEeINVERTED ReLfWITH BELTeNeOEeReUeYdCHI",
    "dCLOSED OMEGAeREVERSED OPEN EdDeWITH HOOKgAND TAILfTAILdDELTAdDEZH DIGRAPH",
    "dDOTLESS J WITH STROKEhAND HOOKdDZ DIGRAPHfWITH CURLgRETROFLEX HOOKdEdENGdESHdETHdEZHdF",
    "dFENG DIGRAPHdGeWITH HOOKdGAMMAdGREEK GAMMAePHIdHeWITH HOOKfSTROKEdHENGeWITH HOOK",
    "dI WITH STROKEdIOTAdJeWITH CROSSED-TAILdKdLeWITH BELTfINVERTED LAZY SfMIDDLE TILDE",
    "fPALATAL HOOKfRETROFLEX HOOKhAND BELTdLEZHeWITH RETROFLEX HOOKdLIGATURE OEdLS DIGRAPH",
    "dLZ DIGRAPHdMeWITH HOOKdN WITH LEFT HOOKfRETROFLEX HOOKdOeWITH STROKEdOPEN EeOdPdPHIdQdR",
    "eWITH FISHHOOKfTAILdRAMS HORNdREVERSED EeGLOTTAL STOPeOPEN EdSeWITH CURLfHOOKdSCHWA",
    "dSCRIPT GdSIDEWAYS UdTeWITH PALATAL HOOKfRETROFLEX HOOKdTC DIGRAPH WITH CURLdTESH DIGRAPH",
    "dTHETAdTOP HALF OdTS DIGRAPHfWITH RETROFLEX HOOKdTURNED AeAEeALPHAeHeIeMfWITH LONG LEG",
    "eOPEN EeRfWITH HOOKgLONG LEGiAND RETROFLEX HOOKeVeWeYfWITH BELTdUeBAReWITH LEFT HOOK",
    "dUPSILONdVeWITH HOOKfRIGHT HOOKdWdXdYdZeWITH CURLfRETROFLEX HOOKcSTRESS AND HIGH TONE",
    "eLOW TONEcSUPERSCRIPT HALF TRIANGULAR COLONdTRIANGULAR COLONcTRIANGULAR COLONcTURNED COMMA",
    "cUNASPIRATEDcUP ARROWHEADdTACKcUScVERTICAL LINEcVOICINGcYANG DEPARTING TONE MARK",
    "cYIN DEPARTING TONE MARKaMODULO TWO SUMaMONEY BAGbWITH WINGSaMONEY-MOUTH FACE",
    "aMONGOLIAN BIRGAcWITH DOUBLE ORNAMENTdORNAMENTbCOLONbCOMMAbDIGIT EIGHTcFIVEcFOURcNINEcONE",
    "cSEVENcSIXcTHREEcTWOcZERObDOUBLE BIRGA WITH ORNAMENTbELLIPSISbFOUR DOTS",
    "bFREE VARIATION SELECTOR FOUReONEeTHREEeTWObFULL STOPbINVERTED BIRGAdWITH DOUBLE ORNAMENT",
    "bLETTER AcALI GALI AeAHeANUSVARA ONEeBALUDAeCAeDAeDAGALGAeDAMARUeDDAeHALF UfYAeI",
    "eINVERTED UBADAMAeKAeNGAeNNAePAePHAeSSAeTAeTHREE BALUDAeTTAeTTHAeUBADAMAeVISARGA ONEeZA",
    "eZHAcANGcBAcCHAdWITH TWO DOTScCHIcDAcEcEEcFAcGAcHAAcIcJAcKAcKHAcLAcLHAcMA",
    "cMANCHU ALI GALI BHAfCAfCYAfDDHAfDHAfGHAfJHAfLHAfNGAfSSAfTAfTTAfZAfZHAdFAdIdKAdRAdZHAcNAcO",
    "cOEcPAcQAcRAcSAcSHAcSIBE ANGdCHAdDAdEdFAdGAdGAAdHAdHAAdIdIYdJAdKAdPAdRAAdSHAdTAdTSAdUdUE",
    "dZAdZHAcTAcTODO ALI GALI TAfZHAdANGdBAdCHAdDAdDZAdEdGAdGAAdHAAdIdJAdJIAdKAdLONG VOWEL SIGN",
    "dMAdNIAdOdOEdPAdQAdTAdTSAdUdUEdWAdYAcTSAcUcUEcWAcYAcZAcZHIcZRAbMANCHU COMMAcFULL STOP",
    "bNIRUGUbROTATED BIRGAdWITH DOUBLE ORNAMENTeORNAMENTbSIBE SYLLABLE BOUNDARY MARKER",
    "bSWIRL BIRGAdWITH DOUBLE ORNAMENTeORNAMENTbTODO SOFT HYPHENbTRIPLE BIRGA WITH ORNAMENT",
    "bTURNED SWIRL BIRGA WITH DOUBLE ORNAMENTbVOWEL SEPARATORaMONKEYbFACEaMONOGRAM FOR EARTH",
    "cYANGcYINaMONORAILaMONOSTABLE SYMBOLaMOOD BUBBLEaMOON CAKEbVIEWING CEREMONYaMOSQUE",
    "aMOSQUITOaMOTHER CHRISTMASaMOTOR BOATbSCOOTERaMOTORIZED WHEELCHAIRaMOTORWAYaMOUNT FUJI",
    "aMOUNTAINbBICYCLISTbCABLEWAYbRAILWAYaMOUSEbFACEbTRAPaMOUTHaMOVIE CAMERAaMOYAIaMRO DANDA",
    "bDIGIT EIGHTcFIVEcFOURcNINEcONEcSEVENcSIXcTHREEcTWOcZERObDOUBLE DANDAbLETTER AcBAcCHUcDA",
    "cDAIcEcEAcHAIcHAOcKEAAEcKHAIcKOcLAcLANcMAEMcMIMcNGIcNINcOcOLcOOcPAcPHIcRIcROcSHIcTAcTEK",
    "cTHEAcWAcYOaMUCH GREATER-THANbLESS-THANaMULTANI LETTER AcBAcBHAcCAcCHAcDAcDDAcDDDAcDDHA",
    "cDHAcEcGAcGHAcHAcIcJAcJJAcKAcKHAcLAcMAcNAcNNAcNYAcPAcPHAcRAcRHAcRRAcSAcTAcTHAcTTAcTTHAcU",
    "cVAcYAbSECTION MARK"],
  ["aMULTIMAPaMULTIPLE MUSICAL NOTESaMULTIPLICATION SIGNcIN DOUBLE CIRCLEdLEFT HALF CIRCLE",
    "dRIGHT HALF CIRCLEdTRIANGLEcWITH DOT ABOVEdUNDERBARbXaMULTISETbMULTIPLICATIONbUNION",
    "aMUSHROOMaMUSIC FLAT SIGNbNATURAL SIGNbSHARP SIGNaMUSICAL KEYBOARDcWITH JACKSbNOTEbSCORE",
    "bSYMBOL ARPEGGIATO DOWNdUPcBEGIN BEAMdPHRASEdSLURdTIEcBRACEcBRACKETcBREATH MARKcBREVE",
    "cBREVISdRESTcC CLEFcCAESURAcCIRCLE X NOTEHEADcCLIMACUScCLIVIScCLUSTER NOTEHEAD BLACKeWHITE",
    "cCODAcCOMBINING ACCENTdACCENT-STACCATOdAUGMENTATION DOTdBENDdDOITdDOUBLE TONGUEdDOWN BOW",
    "dFLAG-1dFLAG-2dFLAG-3dFLAG-4dFLAG-5dFLIPdHARMONICdLOUREdMARCATOdMARCATO-STACCATOdRIPdSMEAR",
    "dSNAP PIZZICATOdSPRECHGESANG STEMdSTACCATISSIMOdSTACCATOdSTEMdTENUTOdTREMOLO-1dTREMOLO-2",
    "dTREMOLO-3dTRIPLE TONGUEdUP BOWcCOMMON TIMEcCRESCENDOcCROIXcCUT TIMEcDA CAPOcDAL SEGNO",
    "cDAMPdALLcDASHED BARLINEcDECRESCENDOcDEGREE SLASHcDOUBLE BARLINEdFLATdSHARPcDRUM CLEF-1",
    "dCLEF-2cEIGHTH NOTEdRESTcEND BEAMdOF STIMMEdPHRASEdSLURdTIEcF CLEFeOTTAVA ALTAfBASSA",
    "cFERMATAdBELOWcFINAL BARLINEcFINGERED TREMOLO-1dTREMOLO-2dTREMOLO-3cFIVE-LINE STAFF",
    "cFLAT DOWNdUPcFORTEcFOUR-LINE STAFFcFOUR-STRING FRETBOARDcFUSA BLACKdWHITEcG CLEF",
    "eOTTAVA ALTAfBASSAcGLISSANDO DOWNdUPcGRACE NOTE NO SLASHeSLASHcGREGORIAN C CLEFdF CLEF",
    "cHALF NOTEdPEDAL MARKdRESTcHAUPTSTIMMEcINVERTED TURNcKIEVAN C CLEFdEIGHTH NOTE STEM DOWN",
    "gUPdEND OF PIECEdFINAL NOTEdFLAT SIGNdHALF NOTEdQUARTER NOTE STEM DOWNgUPdRECITATIVE MARK",
    "dWHOLE NOTEcKORONcLEFT REPEAT SIGNcLONGAdIMPERFECTA RESTdPERFECTA RESTcMAXIMAcMEZZOcMINIMA",
    "dBLACKdRESTcMOON NOTEHEAD BLACKeWHITEcMULTI RESTcMULTIPLE MEASURE RESTcNATURAL DOWNdUP",
    "cNEBENSTIMMEcNOTEHEAD BLACKcNULL NOTEHEADcONE HUNDRED TWENTY-EIGHTH NOTEfREST",
    "cONE-LINE STAFFcORNAMENT STROKE-1dSTROKE-10dSTROKE-11dSTROKE-2dSTROKE-3dSTROKE-4dSTROKE-5",
    "dSTROKE-6dSTROKE-7dSTROKE-8dSTROKE-9cOTTAVA ALTAdBASSAcPARENTHESIS NOTEHEADcPEDAL MARK",
    "dUP MARKcPES SUBPUNCTIScPIANOcPLUS NOTEHEADcPODATUScPORRECTUSdFLEXUScQUARTER NOTEdREST",
    "dTONE FLATeSHARPcQUINDICESIMA ALTAdBASSAcREPEAT DOTScREPEATED FIGURE-1dFIGURE-2dFIGURE-3",
    "cREVERSE FINAL BARLINEcRIGHT REPEAT SIGNcRINFORZANDOcSCANDICUSdFLEXUScSEGNO",
    "cSEMIBREVIS BLACKdRESTdWHITEcSEMIMINIMA BLACKdRESTdWHITEcSHARP DOWNdUPcSHORT BARLINE",
    "cSINGLE BARLINEcSIX-LINE STAFFcSIX-STRING FRETBOARDcSIXTEENTH NOTEdRESTcSIXTY-FOURTH NOTE",
    "dRESTcSORIcSQUARE BdNOTEHEAD BLACKeWHITEcSUBITO",
    "cTEMPUS IMPERFECTUM CUM PROLATIONE IMPERFECTAhDIMINUTION-1hDIMINUTION-2hDIMINUTION-3",
    "gPERFECTAdPERFECTUM CUM PROLATIONE IMPERFECTAgPERFECTAhDIMINUTION-1cTHIRTY-SECOND NOTE",
    "dRESTcTHREE-LINE STAFFcTORCULUSdRESUPINUScTRcTRIANGLE NOTEHEAD DOWN BLACKfWHITEeLEFT BLACK",
    "fWHITEeRIGHT BLACKfWHITEeUP BLACKfRIGHT BLACKgWHITEfWHITE",
    "cTRIANGLE-ROUND NOTEHEAD DOWN BLACKfWHITEcTURNdSLASHdUPcTWO-LINE STAFFcVIRGAcVOID NOTEHEAD",
    "cWHOLE NOTEdRESTcWITH FINGERNAILScX NOTEHEADcZaMVSaMWaMYANMAR CONSONANT SIGN MEDIAL HAeRA",
    "eWAeYAdMON MEDIAL LAfMAfNAdSHAN MEDIAL WAbDIGIT EIGHTcFIVEcFOURcNINEcONEcSEVENcSIXcTHREE",
    "cTWOcZERObLETTER AcAITON RAcAUcBAcBHAcCAcCHAcDAcDDAcDDHAcDHAcEcEASTERN PWO KAREN GHWAfNNA",
    "fYWAcGAcGHAcGREAT SAcHAcIcIIcJAcJHAcKAcKHAcKHAMTI CAdCHAdDDAdDDHAdDHAdFAdGAdHAdHHAdJAdJHA",
    "dLLAdNAdNYAdRAdSAdTTAdTTHAdXAdZAcLAcLLAcMAcMON BBAdBBEdEdJHAdNGAcNAcNGAcNNAcNNYAcNYAcOcPA",
    "cPHAcRAcRUMAI PALAUNG FAcSAcSGAW KAREN SHAcSHAcSHAN AdBAdBHAdCAdCHAdDAdFAdGAdGHAdHAdJHAdKA",
    "dKHAdNAdNNAdNYAdPHAdTHAdZAcSHWE PALAUNG CHAeSHAcSSAcTAcTAI LAING BAeBHAeDAeDDAeDDHAeDHAeFA",
    "eGAeGHAeJAeJHAeLLAeNNAeNYAcTHAcTTAcTTHAcUcUUcVOCALIC LdLLdRdRRcWAcWESTERN PWO KAREN PWA",
    "fTHAcYAbLOGOGRAM KHAMTI HMdOAYdQNbMODIFIER LETTER KHAMTI REDUPLICATIONdSHAN REDUPLICATION",
    "bSHAN DIGIT EIGHTdFIVEdFOURdNINEdONEdSEVENdSIXdTHREEdTWOdZERObSIGN ANUSVARAcASATcDOT BELOW",
    "cKHAMTI TONE-1dTONE-3cLITTLE SECTIONcPAO KAREN TONEcRUMAI PALAUNG TONE-5cSECTION",
    "cSHAN COUNCIL EMPHATIC TONEeTONE-2eTONE-3dSAWdTONE-2dTONE-3dTONE-5dTONE-6cTAI LAING TONE-2",
    "eTONE-5cVIRAMAcVISARGAcWESTERN PWO KAREN TONE-1fTONE-2fTONE-3fTONE-4fTONE-5",
    "bSYMBOL AFOREMENTIONEDcAITON EXCLAMATIONdONEdTWOcCOMPLETEDcGENITIVEcLOCATIVE",
    "cSHAN EXCLAMATIONdONEbTAI LAING DIGIT EIGHTeFIVEeFOUReNINEeONEeSEVENeSIXeTHREEeTWOeZERO",
    "bTONE MARK SGAW KAREN HATHIfKE PHObVOWEL SIGN AAdAIdAITON AeAIdEeABOVEdGEBA KAREN IdIdII",
    "dKAYAH EEeOEeUdMON IIeOdSGAW KAREN EUdSHAN AAeEfABOVEeFINAL YdTALL AAdUdUUdVOCALIC LeLLeR",
    "eRRdWESTERN PWO KAREN EUgUE"],
  ["aN-ARY CIRCLED DOT OPERATORcPLUS OPERATORcTIMES OPERATORbCOPRODUCTbINTERSECTION",
    "bLOGICAL ANDcORbPRODUCTbSQUARE INTERSECTION OPERATORcUNION OPERATORbSUMMATION",
    "bTIMES OPERATORbUNIONcOPERATOR WITH DOTePLUSbWHITE VERTICAL BAR",
    "aNABATAEAN CRUCIFORM NUMBER FOURbLETTER ALEPHcAYINcBETHcDALETHcFINAL ALEPHdBETHdHEdKAPH",
    "dLAMEDHdMEMdNUNdSHINdYODHcGIMELcHEcHETHcKAPHcLAMEDHcMEMcNUNcPEcQOPHcRESHcSADHEcSAMEKHcSHIN",
    "cTAWcTETHcWAWcYODHcZAYINbNUMBER FIVEcFOURcONEdHUNDREDcTENcTHREEcTWENTYcTWOaNABLA",
    "aNAIL POLISHaNAIRA SIGNaNAKaNAME BADGEaNANDaNANDINAGARI HEADSTROKEbLETTER AcAAcAIcAUcBA",
    "cBHAcCAcCHAcDAcDDAcDDHAcDHAcEcGAcGHAcHAcIcIIcJAcJHAcKAcKHAcLAcLLAcMAcNAcNGAcNNAcNYAcOcPA",
    "cPHAcRAcRRAcSAcSHAcSSAcTAcTHAcTTAcTTHAcUcUUcVAcVOCALIC RdRRcYAbSIGN ANUSVARAcAVAGRAHA",
    "cSIDDHAMcVIRAMAcVISARGAbVOWEL SIGN AAdAIdAUdEdIdIIdOdPRISHTHAMATRA EdUdUUdVOCALIC ReRR",
    "aNARROW NO-BREAK SPACEaNATIONAL DIGIT SHAPESbPARKaNAUSEATED FACEaNAZAR AMULETaNBHaNBSP",
    "aNECKTIEaNEGATED DOUBLE VERTICAL BAR DOUBLE RIGHT TURNSTILEaNEGATIVE ACKNOWLEDGE",
    "bCIRCLED DIGIT ZEROcLATIN CAPITAL LETTER AfBfCfDfEfFfGfHfIfJfKfLfMfNfOfPfQfRfSfTfUfVfWfXfY",
    "fZcNUMBER EIGHTEENdELEVENdFIFTEENdFOURTEENdNINETEENdSEVENTEENdSIXTEENdTHIRTEENdTWELVE",
    "dTWENTYcSQUAREcTRIANGLEbDIAGONAL CROSScDIAMONDcMIDDLE RIGHT TO LOWER CENTREbSQUARED AB",
    "cCROSS MARKcICcLATIN CAPITAL LETTER AfBfCfDfEfFfGfHfIfJfKfLfMfNfOfPfQfRfSfTfUfVfWfXfYfZcPA",
    "cQUESTION MARKcSAcWCaNEITHER A SUBSET OF NOR EQUAL TOcSUPERSET OF NOR EQUAL TO",
    "bAPPROXIMATELY NOR ACTUALLY EQUAL TObGREATER-THAN NOR EQUAL TOdEQUIVALENT TOdLESS-THAN",
    "bLESS-THAN NOR EQUAL TOdEQUIVALENT TOdGREATER-THANaNELaNEPTUNEbFORM TWOaNERD FACEaNESSUS",
    "aNEST WITH EGGSaNESTING DOLLSaNEUTERaNEUTRAL CHESS BISHOPdROTATED NINETY DEGREES",
    "eTWO HUNDRED SEVENTY DEGREEScEQUIHOPPERdROTATED NINETY DEGREEScKINGdROTATED NINETY DEGREES",
    "eTWO HUNDRED SEVENTY DEGREEScKNIGHTdROTATED FORTY-FIVE DEGREESeNINETY DEGREES",
    "eONE HUNDRED THIRTY-FIVE DEGREESeTHREE HUNDRED FIFTEEN DEGREESeTWO HUNDRED SEVENTY DEGREES",
    "gTWENTY-FIVE DEGREEScPAWNdROTATED NINETY DEGREESeTWO HUNDRED SEVENTY DEGREEScQUEEN",
    "dROTATED NINETY DEGREESeTWO HUNDRED SEVENTY DEGREEScROOKdROTATED NINETY DEGREES",
    "eTWO HUNDRED SEVENTY DEGREEScTURNED BISHOPdKINGdKNIGHTdPAWNdQUEENdROOKbFACEaNEW LINE",
    "bMOON SYMBOLcWITH FACEbSHEQEL SIGNbTAI LUE DIGIT EIGHTeFIVEeFOUReNINEeONEeSEVENeSIXeTHREE",
    "eTWOeZEROdLETTER FINAL BfDfKfMfNfNGfVeHIGH BAfDAfFAfHAfKAfKVAfLAfMAfNAfNGAfPAfPHAfQAfSA",
    "fSUAfTAfTHAfTSAfVAfXAfXVAfYAeLOW BAfDAfFAfHAfKAfKVAfLAfMAfNAfNGAfPAfPHAfQAfSAfSUAfTAfTHA",
    "fTSAfVAfXAfXVAfYAdSIGN LAEeLAEVdTHAM DIGIT ONEdTONE MARK-1eMARK-2dVOWEL SIGN AAfAAYfAEfAY",
    "fEfIIfIYfOfOAfOAYfOYfUfUEfUEYfUUfUYfVOWEL SHORTENERaNEWA ABBREVIATION SIGNbCOMMAbDANDA",
    "bDIGIT EIGHTcFIVEcFOURcNINEcONEcSEVENcSIXcTHREEcTWOcZERObDOUBLE COMMAcDANDAbGAP FILLER",
    "bINSERTION SIGNbLETTER AcAAcAIcAUcBAcBHAcCAcCHAcDAcDDAcDDHAcDHAcEcGAcGHAcHAcIcIIcJAcJHAcKA",
    "cKHAcLAcLHAcMAcMHAcNAcNGAcNGHAcNHAcNNAcNYAcNYHAcOcPAcPHAcRAcRHAcSAcSHAcSSAcTAcTHAcTTAcTTHA",
    "cUcUUcVEDIC ANUSVARAcVOCALIC LdLLdRdRRcWAcYAbOMbPLACEHOLDER MARKbSANDHI MARKbSIDDHI",
    "bSIGN ANUSVARAcAVAGRAHAcCANDRABINDUcFINAL ANUSVARAcJIHVAMULIYAcNUKTAcUPADHMANIYAcVIRAMA",
    "cVISARGAbVOWEL SIGN AAdAIdAUdEdIdIIdOdUdUUdVOCALIC LeLLeReRRaNEWLINE LEFTbRIGHTaNEWSPAPER",
    "aNEXT LINEbPAGEaNIGHT WITH STARSaNINJAaNKO COMBINING DOUBLE DOT ABOVEcLONG DESCENDING TONE",
    "dHIGH TONEdLOW TONEdRISING TONEcNASALIZATION MARKcSHORT HIGH TONEdLOW TONEdRISING TONE",
    "bCOMMAbDANTAYALANbDIGIT EIGHTcFIVEcFOURcNINEcONEcSEVENcSIXcTHREEcTWOcZERObDOROME SIGN",
    "bEXCLAMATION MARKbHIGH TONE APOSTROPHEbLAJANYALANbLETTER AcBAcCHAcDAcDAGBASINNAcEcEEcFA",
    "cGBAcHAcIcJAcJONA CHAdJAdRAcKAcLAcMAcNcNAdWOLOSOcNYAdWOLOSOcOcOOcPAcRAcRRAcSAcTAcUcWAcYA",
    "bLOW TONE APOSTROPHEbSYMBOL GBAKURUNENcOO DENNENbTAMAN SIGNaNLaNNBSPaNO BICYCLES",
    "bBREAK HEREbENTRYcSIGNbMOBILE PHONESbONE UNDER EIGHTEEN SYMBOLbPEDESTRIANSbPIRACY",
    "bSMOKING SYMBOLaNO-BREAK SPACEaNOMINAL DIGIT SHAPESaNOMISMA SIGNaNON-BREAKING HYPHEN",
    "aNON-POTABLE WATER SYMBOLaNONFORKINGaNORaNORDIC MARK SIGNaNORMAL SUBGROUP OFdOR EQUAL TO",
    "aNORTH EAST AND SOUTH WEST ARROWcARROWdAND SOUTH EAST ARROWdCROSSING NORTH WEST ARROW",
    "eSOUTH EAST ARROWdWITH HOOKcBLACK ARROWcDOUBLE ARROWcPOINTING BUDdLEAFdVINE LEAF",
    "cSANS-SERIF ARROWcTRIANGLE-HEADED ARROWeTO BARcWHITE ARROWbINDIC FRACTION ONE EIGHTHeHALF",
    "eQUARTEReSIXTEENTHdTHREE QUARTERSeSIXTEENTHScPLACEHOLDER MARKcQUANTITY MARKcQUARTER MARK",
    "cRUPEE MARKbWEST AND SOUTH EAST ARROWcARROWdAND NORTH EAST ARROWdCROSSING NORTH EAST ARROW",
    "dTO CORNEReLONG BARdWITH HOOKcBLACK ARROWcDOUBLE ARROWcPOINTING BUDdLEAFdVINE LEAF",
    "cSANS-SERIF ARROWcTRIANGLE-HEADED ARROWeTO BARcWHITE ARROWaNORTHEAST-POINTING AIRPLANE",
    "aNOSEaNOT A SUBSET OFcSUPERSET OFbALMOST EQUAL TObAN ELEMENT OFbASYMPTOTICALLY EQUAL TO",
    "bCHECK MARKbEQUAL TObEQUIVALENT TObGREATER-THANbIDENTICAL TObLESS-THANbNORMAL SUBGROUP OF",
    "eOR EQUAL TObPARALLEL TObSIGNbSQUARE IMAGE OF OR EQUAL TOcORIGINAL OF OR EQUAL TObTILDE",
    "bTRUEaNOTCHED LEFT SEMICIRCLE WITH THREE DOTSbLOWER RIGHT-SHADOWED WHITE RIGHTWARDS ARROW",
    "bRIGHT SEMICIRCLE WITH THREE DOTSbUPPER RIGHT-SHADOWED WHITE RIGHTWARDS ARROWaNOTEbPAD",
    "bPAGEaNOTEBOOKbWITH DECORATIVE COVERaNULaNULLaNUMBER EIGHTEEN FULL STOPbELEVEN FULL STOP",
    "bFIFTEEN FULL STOPbFOURTEEN FULL STOPbNINETEEN FULL STOPbSEVENTEEN FULL STOPbSIGN",
    "bSIXTEEN FULL STOPbTEN FULL STOPbTHIRTEEN FULL STOPbTWELVE FULL STOPbTWENTY FULL STOP",
    "aNUMERO SIGNaNUSHU CHARACTER-1B170bCHARACTER-1B171bCHARACTER-1B172bCHARACTER-1B173",
    "bCHARACTER-1B174bCHARACTER-1B175bCHARACTER-1B176bCHARACTER-1B177bCHARACTER-1B178",
    "bCHARACTER-1B179bCHARACTER-1B17AbCHARACTER-1B17BbCHARACTER-1B17CbCHARACTER-1B17D",
    "bCHARACTER-1B17EbCHARACTER-1B17FbCHARACTER-1B180bCHARACTER-1B181bCHARACTER-1B182",
    "bCHARACTER-1B183bCHARACTER-1B184bCHARACTER-1B185bCHARACTER-1B186bCHARACTER-1B187",
    "bCHARACTER-1B188bCHARACTER-1B189bCHARACTER-1B18AbCHARACTER-1B18BbCHARACTER-1B18C",
    "bCHARACTER-1B18DbCHARACTER-1B18EbCHARACTER-1B18FbCHARACTER-1B190bCHARACTER-1B191",
    "bCHARACTER-1B192bCHARACTER-1B193bCHARACTER-1B194bCHARACTER-1B195bCHARACTER-1B196",
    "bCHARACTER-1B197bCHARACTER-1B198bCHARACTER-1B199bCHARACTER-1B19AbCHARACTER-1B19B",
    "bCHARACTER-1B19CbCHARACTER-1B19DbCHARACTER-1B19EbCHARACTER-1B19FbCHARACTER-1B1A0",
    "bCHARACTER-1B1A1"],
  ["aNUSHU CHARACTER-1B1A2bCHARACTER-1B1A3bCHARACTER-1B1A4bCHARACTER-1B1A5bCHARACTER-1B1A6",
    "bCHARACTER-1B1A7bCHARACTER-1B1A8bCHARACTER-1B1A9bCHARACTER-1B1AAbCHARACTER-1B1AB",
    "bCHARACTER-1B1ACbCHARACTER-1B1ADbCHARACTER-1B1AEbCHARACTER-1B1AFbCHARACTER-1B1B0",
    "bCHARACTER-1B1B1bCHARACTER-1B1B2bCHARACTER-1B1B3bCHARACTER-1B1B4bCHARACTER-1B1B5",
    "bCHARACTER-1B1B6bCHARACTER-1B1B7bCHARACTER-1B1B8bCHARACTER-1B1B9bCHARACTER-1B1BA",
    "bCHARACTER-1B1BBbCHARACTER-1B1BCbCHARACTER-1B1BDbCHARACTER-1B1BEbCHARACTER-1B1BF",
    "bCHARACTER-1B1C0bCHARACTER-1B1C1bCHARACTER-1B1C2bCHARACTER-1B1C3bCHARACTER-1B1C4",
    "bCHARACTER-1B1C5bCHARACTER-1B1C6bCHARACTER-1B1C7bCHARACTER-1B1C8bCHARACTER-1B1C9",
    "bCHARACTER-1B1CAbCHARACTER-1B1CBbCHARACTER-1B1CCbCHARACTER-1B1CDbCHARACTER-1B1CE",
    "bCHARACTER-1B1CFbCHARACTER-1B1D0bCHARACTER-1B1D1bCHARACTER-1B1D2bCHARACTER-1B1D3",
    "bCHARACTER-1B1D4bCHARACTER-1B1D5bCHARACTER-1B1D6bCHARACTER-1B1D7bCHARACTER-1B1D8",
    "bCHARACTER-1B1D9bCHARACTER-1B1DAbCHARACTER-1B1DBbCHARACTER-1B1DCbCHARACTER-1B1DD",
    "bCHARACTER-1B1DEbCHARACTER-1B1DFbCHARACTER-1B1E0bCHARACTER-1B1E1bCHARACTER-1B1E2",
    "bCHARACTER-1B1E3bCHARACTER-1B1E4bCHARACTER-1B1E5bCHARACTER-1B1E6bCHARACTER-1B1E7",
    "bCHARACTER-1B1E8bCHARACTER-1B1E9bCHARACTER-1B1EAbCHARACTER-1B1EBbCHARACTER-1B1EC",
    "bCHARACTER-1B1EDbCHARACTER-1B1EEbCHARACTER-1B1EFbCHARACTER-1B1F0bCHARACTER-1B1F1",
    "bCHARACTER-1B1F2bCHARACTER-1B1F3bCHARACTER-1B1F4bCHARACTER-1B1F5bCHARACTER-1B1F6",
    "bCHARACTER-1B1F7bCHARACTER-1B1F8bCHARACTER-1B1F9bCHARACTER-1B1FAbCHARACTER-1B1FB",
    "bCHARACTER-1B1FCbCHARACTER-1B1FDbCHARACTER-1B1FEbCHARACTER-1B1FFbCHARACTER-1B200",
    "bCHARACTER-1B201bCHARACTER-1B202bCHARACTER-1B203bCHARACTER-1B204bCHARACTER-1B205",
    "bCHARACTER-1B206bCHARACTER-1B207bCHARACTER-1B208bCHARACTER-1B209bCHARACTER-1B20A",
    "bCHARACTER-1B20BbCHARACTER-1B20CbCHARACTER-1B20DbCHARACTER-1B20EbCHARACTER-1B20F",
    "bCHARACTER-1B210bCHARACTER-1B211bCHARACTER-1B212bCHARACTER-1B213bCHARACTER-1B214",
    "bCHARACTER-1B215bCHARACTER-1B216bCHARACTER-1B217bCHARACTER-1B218bCHARACTER-1B219",
    "bCHARACTER-1B21AbCHARACTER-1B21BbCHARACTER-1B21CbCHARACTER-1B21DbCHARACTER-1B21E",
    "bCHARACTER-1B21FbCHARACTER-1B220bCHARACTER-1B221bCHARACTER-1B222bCHARACTER-1B223",
    "bCHARACTER-1B224bCHARACTER-1B225bCHARACTER-1B226bCHARACTER-1B227bCHARACTER-1B228",
    "bCHARACTER-1B229bCHARACTER-1B22AbCHARACTER-1B22BbCHARACTER-1B22CbCHARACTER-1B22D",
    "bCHARACTER-1B22EbCHARACTER-1B22FbCHARACTER-1B230bCHARACTER-1B231bCHARACTER-1B232",
    "bCHARACTER-1B233bCHARACTER-1B234bCHARACTER-1B235bCHARACTER-1B236bCHARACTER-1B237",
    "bCHARACTER-1B238bCHARACTER-1B239bCHARACTER-1B23AbCHARACTER-1B23BbCHARACTER-1B23C",
    "bCHARACTER-1B23DbCHARACTER-1B23EbCHARACTER-1B23FbCHARACTER-1B240bCHARACTER-1B241",
    "bCHARACTER-1B242bCHARACTER-1B243bCHARACTER-1B244bCHARACTER-1B245bCHARACTER-1B246",
    "bCHARACTER-1B247bCHARACTER-1B248bCHARACTER-1B249bCHARACTER-1B24AbCHARACTER-1B24B",
    "bCHARACTER-1B24CbCHARACTER-1B24DbCHARACTER-1B24EbCHARACTER-1B24FbCHARACTER-1B250",
    "bCHARACTER-1B251bCHARACTER-1B252bCHARACTER-1B253bCHARACTER-1B254bCHARACTER-1B255",
    "bCHARACTER-1B256bCHARACTER-1B257bCHARACTER-1B258bCHARACTER-1B259bCHARACTER-1B25A",
    "bCHARACTER-1B25BbCHARACTER-1B25CbCHARACTER-1B25DbCHARACTER-1B25EbCHARACTER-1B25F",
    "bCHARACTER-1B260bCHARACTER-1B261bCHARACTER-1B262bCHARACTER-1B263bCHARACTER-1B264",
    "bCHARACTER-1B265bCHARACTER-1B266bCHARACTER-1B267bCHARACTER-1B268bCHARACTER-1B269",
    "bCHARACTER-1B26AbCHARACTER-1B26BbCHARACTER-1B26CbCHARACTER-1B26DbCHARACTER-1B26E",
    "bCHARACTER-1B26FbCHARACTER-1B270bCHARACTER-1B271bCHARACTER-1B272bCHARACTER-1B273",
    "bCHARACTER-1B274bCHARACTER-1B275bCHARACTER-1B276bCHARACTER-1B277bCHARACTER-1B278",
    "bCHARACTER-1B279bCHARACTER-1B27AbCHARACTER-1B27BbCHARACTER-1B27CbCHARACTER-1B27D",
    "bCHARACTER-1B27EbCHARACTER-1B27FbCHARACTER-1B280bCHARACTER-1B281bCHARACTER-1B282",
    "bCHARACTER-1B283bCHARACTER-1B284bCHARACTER-1B285bCHARACTER-1B286bCHARACTER-1B287",
    "bCHARACTER-1B288bCHARACTER-1B289bCHARACTER-1B28AbCHARACTER-1B28BbCHARACTER-1B28C",
    "bCHARACTER-1B28DbCHARACTER-1B28EbCHARACTER-1B28FbCHARACTER-1B290bCHARACTER-1B291",
    "bCHARACTER-1B292bCHARACTER-1B293bCHARACTER-1B294bCHARACTER-1B295bCHARACTER-1B296",
    "bCHARACTER-1B297bCHARACTER-1B298bCHARACTER-1B299bCHARACTER-1B29AbCHARACTER-1B29B",
    "bCHARACTER-1B29CbCHARACTER-1B29DbCHARACTER-1B29EbCHARACTER-1B29FbCHARACTER-1B2A0",
    "bCHARACTER-1B2A1bCHARACTER-1B2A2bCHARACTER-1B2A3bCHARACTER-1B2A4bCHARACTER-1B2A5",
    "bCHARACTER-1B2A6bCHARACTER-1B2A7bCHARACTER-1B2A8bCHARACTER-1B2A9bCHARACTER-1B2AA",
    "bCHARACTER-1B2ABbCHARACTER-1B2ACbCHARACTER-1B2ADbCHARACTER-1B2AEbCHARACTER-1B2AF",
    "bCHARACTER-1B2B0bCHARACTER-1B2B1bCHARACTER-1B2B2bCHARACTER-1B2B3bCHARACTER-1B2B4",
    "bCHARACTER-1B2B5bCHARACTER-1B2B6bCHARACTER-1B2B7bCHARACTER-1B2B8bCHARACTER-1B2B9",
    "bCHARACTER-1B2BAbCHARACTER-1B2BBbCHARACTER-1B2BCbCHARACTER-1B2BDbCHARACTER-1B2BE",
    "bCHARACTER-1B2BFbCHARACTER-1B2C0bCHARACTER-1B2C1bCHARACTER-1B2C2bCHARACTER-1B2C3",
    "bCHARACTER-1B2C4bCHARACTER-1B2C5bCHARACTER-1B2C6bCHARACTER-1B2C7bCHARACTER-1B2C8",
    "bCHARACTER-1B2C9bCHARACTER-1B2CAbCHARACTER-1B2CBbCHARACTER-1B2CCbCHARACTER-1B2CD",
    "bCHARACTER-1B2CEbCHARACTER-1B2CFbCHARACTER-1B2D0bCHARACTER-1B2D1bCHARACTER-1B2D2",
    "bCHARACTER-1B2D3bCHARACTER-1B2D4bCHARACTER-1B2D5bCHARACTER-1B2D6bCHARACTER-1B2D7",
    "bCHARACTER-1B2D8bCHARACTER-1B2D9bCHARACTER-1B2DAbCHARACTER-1B2DBbCHARACTER-1B2DC",
    "bCHARACTER-1B2DDbCHARACTER-1B2DEbCHARACTER-1B2DFbCHARACTER-1B2E0bCHARACTER-1B2E1",
    "bCHARACTER-1B2E2bCHARACTER-1B2E3bCHARACTER-1B2E4bCHARACTER-1B2E5bCHARACTER-1B2E6",
    "bCHARACTER-1B2E7bCHARACTER-1B2E8bCHARACTER-1B2E9bCHARACTER-1B2EAbCHARACTER-1B2EB",
    "bCHARACTER-1B2ECbCHARACTER-1B2EDbCHARACTER-1B2EEbCHARACTER-1B2EFbCHARACTER-1B2F0",
    "bCHARACTER-1B2F1bCHARACTER-1B2F2bCHARACTER-1B2F3bCHARACTER-1B2F4bCHARACTER-1B2F5",
    "bCHARACTER-1B2F6bCHARACTER-1B2F7bCHARACTER-1B2F8bCHARACTER-1B2F9bCHARACTER-1B2FA",
    "bCHARACTER-1B2FBbITERATION MARKaNUT AND BOLTaNYIAKENG PUACHUE HMONG CIRCLED CAdDIGIT EIGHT",
    "eFIVEeFOUReNINEeONEeSEVENeSIXeTHREEeTWOeZEROdLETTER AeAAeCAeDAeDLAeEeEEeFAeGAeHAeHAHeIeKA",
    "eLAeMAeMLAeNAeNCAeNKAeNPAeNPLAeNQAeNRAeNTAeNTSAeNTXAeNYAeOeOOePAePLAeQAeRAeRRAeSAeTAeTSA",
    "eTXAeUeVAeWeXAeXYAeYAeZAdLOGOGRAM NYAJdSIGN FOR ANIMALfINVERTEBRATEfLOCATIONfPERSONfTHING",
    "eXW XWdSYLLABLE LENGTHENERdTONE-BdTONE-DdTONE-GdTONE-JdTONE-MdTONE-SdTONE-V"],
  ["aOBJECT REPLACEMENT CHARACTERaOBLIQUE ANGLE OPENING DOWNdUPbHYPHENaOBSERVER EYE SYMBOL",
    "aOCR AMOUNT OF CHECKbBELT BUCKLEbBOW TIEbBRANCH BANK IDENTIFICATIONbCHAIR",
    "bCUSTOMER ACCOUNT NUMBERbDASHbDOUBLE BACKSLASHbFORKbHOOKbINVERTED FORKaOCTAGONAL SIGN",
    "aOCTOPUSaODENaOFFICE BUILDINGaOGHAM FEATHER MARKbLETTER AILMcBEITHcCEIRTcCOLLcDAIRcEABHADH",
    "cEADHADHcEAMHANCHOLLcFEARNcGORTcIFINcIODHADHcLUIScMUINcNGEADALcNIONcONNcORcPEITHcRUIScSAIL",
    "cSTRAIFcTINNEcUATHcUILLEANNcURbREVERSED FEATHER MARKbSPACE MARKaOGONEKaOHM SIGNaOIL DRUM",
    "aOK HAND SIGNaOL CHIKI AHADcDIGIT EIGHTdFIVEdFOURdNINEdONEdSEVENdSIXdTHREEdTWOdZERO",
    "cGAAHLAA TTUDDAAGcLETTER AAJdAAKdAAMdAAWdAGdALdANGdATdEDDdENdEPdERRdIHdINYdIRdISdLAdLAAdLE",
    "dLIdLOdLUdOBdOHdOTTdOVdUCdUDdUNNdUYcMU TTUDDAGcMU-GAAHLAA TTUDDAAGcPHAARKAA",
    "cPUNCTUATION DOUBLE MUCAADdMUCAADcRELAAaOLD CHINESE HOOK MARKcITERATION MARK",
    "bHUNGARIAN CAPITAL LETTER AeAAeAKeAMBeANDeCLOSE EeEeEBeECeECHeECSeEDeEEeEFeEGeEGYeEHeEJeEK",
    "eELeELYeEMeEMPeENeENCeENTeENT-SHAPED SIGNeENYeEPeEReESeESZeETeETYeEVeEZeEZSeIeII",
    "eNIKOLSBURG OEfUEeOeOEEeOOeRUDIMENTA OEfUEeSHORT EReUeUNKeUSeUUcNUMBER FIFTYdFIVEdONE",
    "eHUNDREDeTHOUSANDdTENcSMALL LETTER AeAAeAKeAMBeANDeCLOSE EeEeEBeECeECHeECSeEDeEEeEFeEGeEGY",
    "eEHeEJeEKeELeELYeEMeEMPeENeENCeENTeENT-SHAPED SIGNeENYeEPeEReESeESZeETeETYeEVeEZeEZSeIeII",
    "eNIKOLSBURG OEfUEeOeOEEeOOeRUDIMENTA OEfUEeSHORT EReUeUNKeUSeUUbITALIC LETTER AdBEdCHEdDE",
    "dEdEFdEKSdELdEMdENdERdERSdESdESHdESSdHEdIdIIdKAdKEdKHEdKUdNORTHERN TSEdOdPEdPHEdSHE",
    "dSOUTHERN TSEdTEdTHEdUdUUdVEdYEdZEcNUMERAL FIFTYdFIVEdONEdTENbKEYbNORTH ARABIAN LETTER AIN",
    "eALEFeBEHeDADeDALeES-1eES-2eES-3eFEHeGEEMeGHAINeHAHeHEHeKAFeKHAHeLAMeMEEMeNOONeQAFeREHeSAD",
    "eTAHeTEHeTHALeTHEHeWAWeYEHeZAHeZAINdNUMBER ONEeTENeTWENTYbPERMIC LETTER ANdBURdCHERYdDOI",
    "dDZHOIdDZITAdEdEFdGAIdHAdIdIAdIEdKOKEdLEIdMENOEdNENOEdOdOOdPEEIdREIdSHCHOOIdSHOOIdSIIdTAI",
    "dTSIUdUdVERdVOOIdYAdYATdYERdYERIdYERUdYRYdYUdZATAdZHOIbPERSIAN NUMBER HUNDREDdONEdTEN",
    "dTWENTYdTWOcSIGN AdAURAMAZDAAdAURAMAZDAA-2dAURAMAZDAAHAdBAdBAGAdBUUMISHdCAdDAdDAHYAAUSH",
    "dDAHYAAUSH-2dDIdDUdFAdGAdGUdHAdIdJAdJIdKAdKUdLAdMAdMIdMUdNAdNUdPAdRAdRUdSAdSHAdSSAdTAdTHA",
    "dTUdUdVAdVIdXAdXSHAAYATHIYAdYAdZAcWORD DIVIDERbPERSONAL COMPUTERbSOGDIAN FRACTION ONE HALF",
    "cLETTER ALEPHdALTERNATE AYINdAYINdBETHdFINAL ALEPHeBETHeHEeNUNfWITH VERTICAL TAILeSADHE",
    "fWITH VERTICAL TAILeTAWfWITH VERTICAL TAILdGIMELdHEdHETHdKAPHdLAMEDHdMEMdNUNdPE",
    "dRESH-AYIN-DALETHdSADHEdSAMEKHdSHINdTAWdWAWdYODHdZAYINcLIGATURE AYIN-DALETHcNUMBER FIVE",
    "dFOURdONEeHUNDREDdTENdTHIRTYdTHREEdTWENTYdTWObSOUTH ARABIAN LETTER ALEFeAYNeBETHeDALETH",
    "eDHADHEeDHALETHeFEeGHAYNeGIMELeHEeHETHeKAPHeKHETHeLAMEDHeMEMeNUNeQOPHeRESHeSADHEeSAMEKH",
    "eSATeSHINeTAWeTETHeTHAWeTHETHeWAWeYODHeZAYNdNUMBER FIFTYeONEdNUMERIC INDICATOR",
    "bTURKIC LETTER ORKHON AeABeADeAEBeAEDeAEGeAEKeAELeAENeAEReAESeAETeAEYeAGeALeANeAQeAReAS",
    "eASHeATeAYeBASHeECeELTeEMeENCeENGeENTeENYeEPeESHeEZeIeICeIQeOeOEeOEKeOPeOQeOTdYENISEI AeAB",
    "eADeAEeAEBeAEGeAEKeAENeAENGeAETeAEYeAGeALeANGeAQeAReASHeATeAYeEeECeENCeENTeENYeESHeEZeIeIQ",
    "eOEeOEKeOQbUYGHUR COMBINING DOT ABOVEeBELOWdTWO DOTS ABOVEfBELOWcLETTER ALEPHdBETH",
    "dFINAL HETHdGIMEL-HETHdKAPHdLAMEDHdLESHdMEMdNUNdPEdRESHdSADHEdSAMEKHdSHINdTAWdWAWdYODH",
    "dZAYINcPUNCTUATION BARdFOUR DOTSdTWO BARSeDOTSaOLDER ADULTbMANbWOMANaOLIVEaOM SYMBOL",
    "aON WITH EXCLAMATION MARK WITH LEFT RIGHT ARROW ABOVEaONCOMING AUTOMOBILEbBUSbFIRE ENGINE",
    "bPOLICE CARbTAXIaONE BUTTON MOUSEbDOT LEADERcOVER TWO DOTS PUNCTUATIONaONE-PIECE SWIMSUIT",
    "aONIONaOPEN BOOKbBOXbCENTRE ASTERISKcBLACK STARcCROSScTEARDROP-SPOKED ASTERISKbFILE FOLDER",
    "bFOLDERbHANDS SIGNbLOCKbMAILBOX WITH LOWERED FLAGdRAISED FLAGbSUBSETbSUPERSET",
    "aOPEN-CIRCUIT-OUTPUT H-TYPE SYMBOLbL-TYPE SYMBOLaOPEN-OUTLINED RIGHTWARDS ARROW",
    "aOPERATING SYSTEM COMMANDaOPHIUCHUSaOPPOSITIONaOPTICAL DISCcICONaOPTION KEY",
    "aOR WITH DOT INSIDEaORANGE BOOKbHEARTaORANGUTANaORIGINAL OFaORIYA AI LENGTH MARK",
    "bAU LENGTH MARKbDIGIT EIGHTcFIVEcFOURcNINEcONEcSEVENcSIXcTHREEcTWOcZERO",
    "bFRACTION ONE EIGHTHdHALFdQUARTERdSIXTEENTHcTHREE QUARTERSdSIXTEENTHSbISSHARbLETTER AcAA",
    "cAIcAUcBAcBHAcCAcCHAcDAcDDAcDDHAcDHAcEcGAcGHAcHAcIcIIcJAcJHAcKAcKHAcLAcLLAcMAcNAcNGAcNNA",
    "cNYAcOcPAcPHAcRAcRHAcRRAcSAcSHAcSSAcTAcTHAcTTAcTTHAcUcUUcVAcVOCALIC LdLLdRdRRcWAcYAcYYA",
    "bSIGN ANUSVARAcAVAGRAHAcCANDRABINDUcNUKTAcOVERLINEcVIRAMAcVISARGAbVOWEL SIGN AAdAIdAUdEdI",
    "dIIdOdUdUUdVOCALIC LeLLeReRRaORNATE LEFT PARENTHESISbRIGHT PARENTHESISaORTHODOX CROSS",
    "aOSAGE CAPITAL LETTER AdAHdAIdAINdBRAdCHAdDHAdEdEHCHAdEHKAdEHPAdEHTAdEHTSAdEINdGHAdHAdHYA",
    "dIdKAdKHAdKYAdLAdMAdNAdOdOINdPAdSAdSHAdTAdTSAdTSHAdUdWAdZAdZHAbSMALL LETTER AdAHdAIdAIN",
    "dBRAdCHAdDHAdEdEHCHAdEHKAdEHPAdEHTAdEHTSAdEINdGHAdHAdHYAdIdKAdKHAdKYAdLAdMAdNAdOdOINdPAdSA",
    "dSHAdTAdTSAdTSHAdUdWAdZAdZHAaOSCaOSMANYA DIGIT EIGHTcFIVEcFOURcNINEcONEcSEVENcSIXcTHREE",
    "cTWOcZERObLETTER AcAAcALEFcBAcCAYNcDEELcDHAcEcEEcFAcGAcHAcIcJAcKAAFcKHAcLAANcMIINcNUUNcO",
    "cOOcQAAFcRAcSAcSHIINcTAcUcWAWcXAcYAaOTTERaOTTOMAN SIYAQ ALTERNATE NUMBER EIGHTeFIVEeFOUR",
    "fHUNDREDeNINEeSEVENeSIXfHUNDREDeTENfTHOUSANDeTHREEeTWOfTHOUSANDcFRACTION ONE HALFeSIXTH",
    "cMARRATANcNUMBER EIGHTeHUNDREDeTHOUSANDdEIGHTYeTHOUSANDdFIFTYeTHOUSANDdFIVEeHUNDRED",
    "eTHOUSANDdFORTYeTHOUSANDdFOUReHUNDREDeTHOUSANDdNINEeHUNDREDeTHOUSANDdNINETYeTHOUSANDdONE",
    "eHUNDREDeTHOUSANDdSEVENeHUNDREDeTHOUSANDdSEVENTYeTHOUSANDdSIXeHUNDREDeTHOUSANDdSIXTY",
    "eTHOUSANDdTENeTHOUSANDdTHIRTYeTHOUSANDdTHREEeHUNDREDeTHOUSANDdTWENTYeTHOUSANDdTWOeHUNDRED",
    "eTHOUSANDaOUNCE SIGNaOUTBOX TRAYaOUTLINED BLACK STARbGREEK CROSSbLATIN CROSSbWHITE STAR",
    "aOVERHEATED FACEaOVERLAPaOVERLAPPING BLACK SQUARESbWHITE AND BLACK SQUAREScSQUARES",
    "aOVERLINEaOWLaOXaOYSTER"],
  ["aPACKAGEaPADaPADDING CHARACTERaPAGEbFACING UPbWITH CIRCLED TEXTcCURLaPAGERaPAGESaPAGODA",
    "aPAHAWH HMONG CLAN SIGN FAJeHAMeHAWJeKHABeKOOeKWMeLAUJeLISeMUASePHABeTHOJeTSABeTSHEEJeTSWB",
    "eVAJeVWJeXYOOJeYAJeYEEGcCONSONANT AUdCAUdCHAUdHAUdHLAUdHNAUdLAUdMAUdNAUdNCHAUdNKAUdNLAU",
    "dNTHAUdNTSAUdPLHAUdQHAUdRAUdVAUdXAUdYAUcDIGIT EIGHTdFIVEdFOURdNINEdONEdSEVENdSIXdTHREEdTWO",
    "dZEROcMARK CIM HOMeKESeKHAVeSOeSUAMeTAUMeTUBcNUMBER HUNDRED MILLIONSdHUNDREDSdMILLIONS",
    "dTEN BILLIONSeTHOUSANDSdTENSdTRILLIONScSIGN AVdCIM CHEEMeCUAM TSHOOJeHAIS LUS NTOG NTOG",
    "eNRES TOSePUB DAWBeTSOV ROGeTXWVfCHWVdHLIdHNUBdIB YAMdLOSdMEEJ SUABeTSEEBdMUSdNQIGdNTUJ",
    "dTAUdTHIRD-STAGE HLIdTXHEEJ CEEVdVOS FEEMeLUBeNRUAeSEEVeTHIABeTHOMeTSHAB CEEBdXAUSdXIAB",
    "dXYEEM FAIBeNTXIVeRHOeTOVdXYOOdZWJ THAJcVOWEL KAABdKAAVdKABdKAIBdKAIVdKAUBdKAUVdKAVdKAWB",
    "dKAWVdKEBdKEEBdKEEVdKEVdKIABdKIAVdKIBdKIVdKOBdKOOBdKOOVdKOVdKUABdKUAVdKUBdKUVdKWBdKWV",
    "aPALLASaPALM BRANCHbDOWN HANDbTREEbUP HANDaPALMS UP TOGETHER",
    "aPALMYRENE LEFT-POINTING FLEURONbLETTER ALEPHcAYINcBETHcDALETHcFINAL NUNcGIMELcHEcHETH",
    "cKAPHcLAMEDHcMEMcNUNcPEcQOPHcRESHcSADHEcSAMEKHcSHINcTAWcTETHcWAWcYODHcZAYINbNUMBER FIVE",
    "cFOURcONEcTENcTHREEcTWENTYcTWObRIGHT-POINTING FLEURONaPANCAKESaPANDA FACEaPAPERCLIP",
    "aPARACHUTEaPARAGRAPH SEPARATORaPARAGRAPHOSaPARAGRAPHUS MARKaPARALLEL TO",
    "bWITH HORIZONTAL STROKEcTILDE OPERATORaPARENTHESIZED DIGIT EIGHTcFIVEcFOURcNINEcONEcSEVEN",
    "cSIXcTHREEcTWObHANGUL CHIEUCHdAcCIEUCdAdUcHIEUHdAcIEUNGdAcKHIEUKHdAcKIYEOKdAcMIEUMdAcNIEUN",
    "dAcPHIEUPHdAcPIEUPdAcRIEULdAcSIOSdAcTHIEUTHdAcTIKEUTdAbIDEOGRAPH ALLIANCEcCALL",
    "cCONGRATULATIONcEARTHcEIGHTcENTERPRISEcFESTIVALcFINANCIALcFIREcFIVEcFOURcHAVEcLABORcMETAL",
    "cMOONcNAMEcNINEcONEcREACHcREPRESENTcRESOURCEcRESTcSELFcSEVENcSIXcSOCIETYcSPECIALcSTOCK",
    "cSTUDYcSUNcSUPERVISEcTENcTHREEcTWOcWATERcWOODbKOREAN CHARACTER O HUdOJEON",
    "bLATIN CAPITAL LETTER AeBeCeDeEeFeGeHeIeJeKeLeMeNeOePeQeReSeTeUeVeWeXeYeZcSMALL LETTER AeB",
    "eCeDeEeFeGeHeIeJeKeLeMeNeOePeQeReSeTeUeVeWeXeYeZbNUMBER EIGHTEENcELEVENcFIFTEENcFOURTEEN",
    "cNINETEENcSEVENTEENcSIXTEENcTENcTHIRTEENcTWELVEcTWENTYaPARROTaPART ALTERNATION MARK",
    "aPARTIAL DIFFERENTIALbLINE BACKWARDcDOWNcFORWARDcUPaPARTIALLY-RECYCLED PAPER SYMBOL",
    "aPARTNERSHIP SIGNaPARTY POPPERaPASSED SYMBOLaPASSENGER SHIP",
    "aPASSIVE-PULL-DOWN-OUTPUT SYMBOLaPASSIVE-PULL-UP-OUTPUT SYMBOLaPASSPORT CONTROL",
    "aPAU CIN HAU GLOTTAL STOPfFINALfVARIANTdLETTER AeBAeCAeCHAeDAeEeFAeFINAL KfLfMfNfNGfPfTfW",
    "fYeGAeHAeIeIAeKAeKHAeLAeMAeNAeNGAeOePAePHAeRAeSAeTAeTHAeUeUAeVAeZAdLOW-FALLING TONEfFINAL",
    "fLONGgFINALdMID-LEVEL TONEfFINALfLONG FINALdRISING TONEfFINALfLONGgFINAL",
    "dSANDHI GLOTTAL STOPgFINALeTONEfFINALfLONGgFINALaPAW PRINTSaPDFaPDIaPEACE SYMBOLaPEACH",
    "aPEACOCKaPEANUTSaPEARaPEDESTRIANaPEN OVER STAMPED ENVELOPEaPENCILaPENGUINaPENSIVE FACE",
    "aPENTAGRAMaPEOPLE HUGGINGaPER MILLE SIGNbSIGNbTEN THOUSAND SIGNaPERCENT SIGN",
    "aPERFORMING ARTSaPERMANENT PAPER SIGNaPERPENDICULARbWITH SaPERSEVERING FACE",
    "aPERSON BOWING DEEPLYbCLIMBINGbDOING CARTWHEELbFROWNINGbIN LOTUS POSITIONcSTEAMY ROOM",
    "bRAISING BOTH HANDS IN CELEBRATIONbWITH BALLcBLOND HAIRcCROWNcFOLDED HANDScHEADSCARF",
    "cPOUTING FACEaPERSONAL COMPUTERaPERSPECTIVEaPESETA SIGNaPESO SIGNaPETRI DISH",
    "aPHAGS-PA DOUBLE HEAD MARKbLETTER AcALTERNATE YAcASPIRATED FAcBAcCAcCANDRABINDUcCHAcDAcDDA",
    "cDZAcEcEEcFAcGAcGGAcHAcIcJAcKAcKHAcLAcMAcNAcNGAcNNAcNYAcOcPAcPHAcQAcRAcSAcSHAcSMALL AcTA",
    "cTHAcTSAcTSHAcTTAcTTHAcUcVOICED HAcVOICELESS SHAcWAcXAcYAcZAcZHAbMARK DOUBLE SHADcSHAD",
    "bSINGLE HEAD MARKbSUBJOINED LETTER RAdWAdYAbSUPERFIXED LETTER RAaPHAISTOS DISC SIGN ARROW",
    "dBEEdBEEHIVEdBOOMERANGdBOWdBULLS LEGdCAPTIVEdCARPENTRY PLANEdCATdCHILDdCLUBdCOLUMNdCOMB",
    "dCOMBINING OBLIQUE STROKEdDOLIUMdDOVEdEAGLEdFLUTEdGAUNTLETdGRATERdHELMETdHIDEdHORNdLID",
    "dLILYdMANACLESdMATTOCKdOX BACKdPAPYRUSdPEDESTRIANdPLANE TREEdPLUMED HEADdRAMdROSETTEdSAW",
    "dSHIELDdSHIPdSLINGdSMALL AXEdSTRAINERdTATTOOED HEADdTIARAdTUNNYdVINEdWAVY BANDdWOMAN",
    "aPHILIPPINE DOUBLE PUNCTUATIONbSINGLE PUNCTUATIONaPHOENICIAN LETTER AINcALFcBETcDELTcGAML",
    "cHEcHETcKAFcLAMDcMEMcNUNcPEcQOFcROSHcSADEcSEMKcSHINcTAUcTETcWAUcYODcZAIbNUMBER ONEdHUNDRED",
    "cTENcTHREEcTWENTYcTWObWORD SEPARATORaPHOLUSaPICKaPICKUP TRUCKaPIEaPIGbFACEbNOSE",
    "aPILCROW SIGNaPILE OF POOaPILLaPINATAaPINCHED FINGERSaPINCHING HANDaPINE DECORATION",
    "aPINEAPPLEaPINWHEEL STARaPISCESaPISTOLaPITCHFORKbWITH TEE TOPaPLACARD",
    "aPLACE OF INTEREST SIGNcWORSHIPaPLANCK CONSTANTcOVER TWO PIaPLAYGROUND SLIDE",
    "aPLAYING CARD ACE OF CLUBSeDIAMONDSeHEARTSeSPADEScBACKcBLACK JOKERcEIGHT OF CLUBSeDIAMONDS",
    "eHEARTSeSPADEScFIVE OF CLUBSeDIAMONDSeHEARTSeSPADEScFOOLcFOUR OF CLUBSeDIAMONDSeHEARTS",
    "eSPADEScJACK OF CLUBSeDIAMONDSeHEARTSeSPADEScKING OF CLUBSeDIAMONDSeHEARTSeSPADES",
    "cKNIGHT OF CLUBSeDIAMONDSeHEARTSeSPADEScNINE OF CLUBSeDIAMONDSeHEARTSeSPADES",
    "cQUEEN OF CLUBSeDIAMONDSeHEARTSeSPADEScRED JOKERcSEVEN OF CLUBSeDIAMONDSeHEARTSeSPADES",
    "cSIX OF CLUBSeDIAMONDSeHEARTSeSPADEScTEN OF CLUBSeDIAMONDSeHEARTSeSPADEScTHREE OF CLUBS",
    "eDIAMONDSeHEARTSeSPADEScTRUMP-1cTRUMP-10cTRUMP-11cTRUMP-12cTRUMP-13cTRUMP-14cTRUMP-15",
    "cTRUMP-16cTRUMP-17cTRUMP-18cTRUMP-19cTRUMP-2cTRUMP-20cTRUMP-21cTRUMP-3cTRUMP-4cTRUMP-5",
    "cTRUMP-6cTRUMP-7cTRUMP-8cTRUMP-9cTWO OF CLUBSeDIAMONDSeHEARTSeSPADEScWHITE JOKERaPLDaPLU",
    "aPLUNGERaPLUS SIGNcABOVE EQUALS SIGNcIN LEFT HALF CIRCLEdRIGHT HALF CIRCLEdTRIANGLE",
    "cWITH BLACK TRIANGLEdCIRCUMFLEX ACCENT ABOVEdDOT BELOWdSMALL CIRCLE ABOVEdSUBSCRIPT TWO",
    "dTILDE ABOVEeBELOWaPLUS-MINUS SIGNaPLUTObFORM FIVEcFOURcTHREEcTWOaPMaPOCKET CALCULATOR",
    "aPOLICE CARbCARS REVOLVING LIGHTbOFFICERaPOODLEaPOP DIRECTIONAL FORMATTINGcISOLATEaPOPCORN",
    "aPORTABLE STEREOaPOSEIDONaPOSITION INDICATORaPOSTAL HORNbMARKcFACEaPOSTBOXaPOT OF FOOD",
    "aPOTABLE WATER SYMBOLaPOTATOaPOTTED PLANTaPOUCHaPOULTRY LEGaPOUND SIGNaPOURING LIQUID",
    "aPOUTING CAT FACEbFACEaPOWER ON SYMBOLbON-OFF SYMBOLbSLEEP SYMBOLbSYMBOLaPRAYER BEADS",
    "aPRECEDESbABOVE ALMOST EQUAL TOcEQUALS SIGNcNOT ALMOST EQUAL TOdEQUAL TO",
    "cSINGLE-LINE EQUALS SIGNdNOT EQUAL TObBUT NOT EQUIVALENT TObOR EQUAL TOcEQUIVALENT TO",
    "bUNDER RELATIONaPREGNANT MANbPERSONbWOMANaPRESCRIPTION TAKE",
    "aPRESENTATION FORM FOR VERTICAL COLONeCOMMAeEM DASHeEN DASHeEXCLAMATION MARK",
    "eHORIZONTAL ELLIPSISeIDEOGRAPHIC COMMAfFULL STOPeLEFT ANGLE BRACKET",
    "fBLACK LENTICULAR BRACKET"],
  ["aPRESENTATION FORM FOR VERTICAL LEFT CORNER BRACKETfCURLY BRACKETfDOUBLE ANGLE BRACKET",
    "fPARENTHESISfSQUARE BRACKETfTORTOISE SHELL BRACKETfWHITE CORNER BRACKETgLENTICULAR BRACKET",
    "eLOW LINEeQUESTION MARKeRIGHT ANGLE BRACKETfBLACK LENTICULAR BRACKETfCORNER BRACKET",
    "fCURLY BRACKETfDOUBLE ANGLE BRACKETfPARENTHESISfSQUARE BRACKETfTORTOISE SHELL BRACKET",
    "fWHITE CORNER BRACKETgLENTICULAR BRACKEThBRAKCETeSEMICOLONeTWO DOT LEADEReWAVY LOW LINE",
    "aPRETZELaPREVIOUS PAGEaPRIMEaPRINCEaPRINCESSaPRINT SCREEN SYMBOLaPRINTERbICON",
    "aPRIVACY MESSAGEaPRIVATE USE ONEcTWObUSE-1bUSE-2aPROBING CANEaPROHIBITED SIGNaPROJECTIVE",
    "aPROPERTY LINEaPROPORTIONaPROPORTIONAL TOaPROSERPINAaPSALTER PAHLAVI FOUR DOTS WITH CROSS",
    "fDOTcLETTER ALEPHdBETHdDALETHdGIMELdHEdHETHdKAPHdLAMEDHdMEM-QOPHdNUNdPEdSADHEdSAMEKHdSHIN",
    "dTAWdWAW-AYIN-RESHdYODHdZAYINcNUMBER FOURdONEeHUNDREDdTENdTHREEdTWENTYdTWOcSECTION MARK",
    "cTURNED SECTION MARKaPU1aPU2aPUBLIC ADDRESS LOUDSPEAKERaPUNCTUATION SPACE",
    "aPUNCTUS ELEVATUS MARKaPURPLE HEARTaPURSEaPUSHPINaPUT LITTER IN ITS PLACE SYMBOL"],
  ["aQUADRANT LOWER LEFTcRIGHTbUPPER LEFTdAND LOWER LEFT AND LOWER RIGHTfRIGHT",
    "eUPPER RIGHT AND LOWER LEFTiRIGHTcRIGHTdAND LOWER LEFTgAND LOWER RIGHT",
    "aQUADRUPLE INTEGRAL OPERATORbPRIMEaQUARTER NOTEaQUATERNION INTEGRAL OPERATOR",
    "aQUESTION EXCLAMATION MARKbMARKaQUESTIONED EQUAL TOaQUINCUNXaQUOTATION MARK"],
  ["aRABBITbFACEaRACCOONaRACING CARbMOTORCYCLEaRADICAL SYMBOL BOTTOMaRADIObBUTTON",
    "aRADIOACTIVE SIGNaRAILWAY CARbTRACKaRAINaRAINBOWaRAISED BACK OF HANDbCOMMAbDOT",
    "bDOTTED INTERPOLATION MARKERbFISTbHANDcWITH FINGERS SPLAYED",
    "dPART BETWEEN MIDDLE AND RING FINGERSbINTERPOLATION MARKERbMC SIGNbMD SIGNbMR SIGNbSQUARE",
    "aRAMaRATaRATIOaRAZORaRECEIPTaRECORD SEPARATORaRECREATIONAL VEHICLEaRECYCLED PAPER SYMBOL",
    "aRECYCLING SYMBOL FOR GENERIC MATERIALSdTYPE-1 PLASTICSdTYPE-2 PLASTICSdTYPE-3 PLASTICS",
    "dTYPE-4 PLASTICSdTYPE-5 PLASTICSdTYPE-6 PLASTICSdTYPE-7 PLASTICSaRED APPLEbGIFT ENVELOPE",
    "aREFERENCE MARKaREGIONAL INDICATOR SYMBOL LETTER AeBeCeDeEeFeGeHeIeJeKeLeMeNeOePeQeReSeTeU",
    "eVeWeXeYeZaREGISTERED SIGNaREJANG CONSONANT SIGN HdNdNGdRbLETTER AcBAcCAcDAcGAcHAcJAcKAcLA",
    "cMAcMBAcNAcNDAcNGAcNGGAcNYAcNYJAcPAcRAcSAcTAcWAcYAbSECTION MARKbVIRAMAbVOWEL SIGN AIdAUdE",
    "dEAdEUdIdOdUaRELIEVED FACEaREMINDER RIBBONaREPLACEMENT CHARACTERaRESPONSE",
    "aRESTRICTED LEFT ENTRY-1cENTRY-2aRESTROOMaRETURN LEFTbRIGHTbSYMBOLaREVERSE CHECKER BOARD",
    "bINDEXbLIGHT FOUR POINTED PINWHEEL STARbLINE FEEDbSOLIDUScOPERATORcPRECEDING SUBSET",
    "cWITH HORIZONTAL STROKEbTILDE OPERATOR ABOVE LEFTWARDS ARROWeRIGHTWARDS ARROW",
    "aREVERSED ANGLEcWITH UNDERBARbCOMMAbDOUBLE PRIMEdQUOTATION MARKcSTROKE NOT SIGNbEMPTY SET",
    "bFORKED PARAGRAPHOSbHAND WITH MIDDLE FINGER EXTENDEDbNOT SIGNbPILCROW SIGNbPRIME",
    "bQUESTION MARKbRAISED HAND WITH FINGERS SPLAYEDbRIGHT ANGLEbROTATED FLORAL HEART BULLET",
    "bSANS-SERIF CAPITAL LbSEMICOLONbTHUMBS DOWN SIGNcUP SIGNbTILDEcEQUALSbTRIPLE PRIME",
    "bVICTORY HANDaREVOLVING HEARTSaRHINOCEROSaRIaRIAL SIGNaRIBBONbARROW DOWN LEFTdRIGHT",
    "cLEFT DOWNdUPcRIGHT DOWNdUPcUP LEFTdRIGHTaRICE BALLbCRACKERaRIFLE",
    "aRIGHT AND LOWER ONE EIGHTH BLOCKcUPPER ONE EIGHTH BLOCKbANGER BUBBLEbANGLEcBRACKET",
    "dWITH DOTcDOTTED SUBSTITUTION MARKERcSUBSTITUTION MARKERcVARIANT WITH SQUAREcWITH ARC",
    "dDOWNWARDS ZIGZAG ARROWbARC GREATER-THAN BRACKETbARROW WITH CIRCLED PLUSdSMALL CIRCLE",
    "bBLACK LENTICULAR BRACKETcTORTOISE SHELL BRACKETbCEILINGbCORNER BRACKETbCURLY BRACKET",
    "dLOWER HOOKdMIDDLE PIECEdUPPER HOOKbDOTTED SUBSTITUTION BRACKETbDOUBLE ANGLE BRACKET",
    "cARROW WITH ROUNDED HEADcPARENTHESIScQUOTATION MARKcWIGGLY FENCEbFISH TAIL",
    "bFIVE EIGHTHS BLOCKbFLOORbHALF BLACK CIRCLEdSTARcBLOCKcFOLDERcMEDIUM SHADEcRUNNING MAN",
    "bHAND TELEPHONE RECEIVERbLOW PARAPHRASE BRACKETbNORMAL FACTOR SEMIDIRECT PRODUCT",
    "bONE EIGHTH BLOCKcQUARTER BLOCKbOPEN SQUARED DOTbOUTER JOINbPARENTHESIScEXTENSION",
    "cLOWER HOOKcUPPER HOOKbRAISED OMISSION BRACKETbS-SHAPED BAG DELIMITERbSEMIDIRECT PRODUCT",
    "bSEVEN EIGHTHS BLOCKbSIDEWAYS U BRACKETbSINGLE QUOTATION MARKbSPEAKERcWITH ONE SOUND WAVE",
    "dTHREE SOUND WAVESbSPEECH BUBBLEbSQUARE BRACKETdEXTENSIONdLOWER CORNERdUPPER CORNER",
    "dWITH DOUBLE STROKEeQUILLeSTROKEeTICK IN BOTTOM CORNERgTOP CORNEReUNDERBAR",
    "bSUBSTITUTION BRACKETbTACKbTHIRD WHITE RIGHT POINTING INDEXbTHOUGHT BUBBLE",
    "bTHREE EIGHTHS BLOCKcQUARTERS BLOCKbTORTOISE SHELL BRACKETbTRANSPOSITION BRACKETbTRIANGLE",
    "cABOVE LEFT TRIANGLEbTRIANGULAR ONE QUARTER BLOCKbVERTICAL BAR WITH QUILLcBOX LINE",
    "bWHITE CORNER BRACKETcCURLY BRACKETcLENTICULAR BRACKETcPARENTHESIScSQUARE BRACKET",
    "cTORTOISE SHELL BRACKETbWIGGLY FENCEaRIGHT-FACING ARMENIAN ETERNITY SIGNbFISTbSVASTI SIGN",
    "dWITH DOTSaRIGHT-HANDED INTERLACED PENTAGRAMaRIGHT-POINTING ANGLE BRACKET",
    "bCURVED ANGLE BRACKETbDOUBLE ANGLE QUOTATION MARKbMAGNIFYING GLASS",
    "aRIGHT-SHADED WHITE RIGHTWARDS ARROWaRIGHT-SIDE ARC CLOCKWISE ARROW",
    "aRIGHT-TO-LEFT EMBEDDINGbISOLATEbMARKbOVERRIDEaRIGHTHAND INTERIOR PRODUCTaRIGHTWARDS ARROW",
    "cABOVE ALMOST EQUAL TOdREVERSE ALMOST EQUAL TOeTILDE OPERATORdSHORT LEFTWARDS ARROW",
    "dTILDE OPERATORcAND UPPER AND LOWER ONE EIGHTH BLOCKcFROM BAReTO BLACK DIAMOND",
    "cOVER LEFTWARDS ARROWcTHROUGH GREATER-THANdSUPERSETdXcTO BARdBLACK DIAMOND",
    "cWITH CORNER DOWNWARDSdDOTTED STEMdDOUBLE VERTICAL STROKEdEQUILATERAL ARROWHEADdHOOK",
    "dLARGE TRIANGLE ARROWHEADdLOOPdMEDIUM TRIANGLE ARROWHEADdNOTCHED TAILdPLUS BELOW",
    "dSMALL EQUILATERAL ARROWHEADeTRIANGLE ARROWHEADdSTROKEdTAILeWITH DOUBLE VERTICAL STROKE",
    "fVERTICAL STROKEdTIP DOWNWARDSeUPWARDSdVERTICAL STROKEbARROW-TAIL",
    "bBACK-TILTED SHADOWED WHITE ARROWbBLACK ARROWcCIRCLED WHITE ARROW",
    "bBOTTOM SHADED WHITE ARROWbCOMPRESSED ARROWbDASHED ARROWbDOUBLE ARROWdFROM BARdWITH STROKE",
    "eVERTICAL STROKEcARROW-TAILcDASH ARROWbFINGER-POST ARROWbFRONT-TILTED SHADOWED WHITE ARROW",
    "bHANDbHARPOON OVER LEFTWARDS HARPOONcWITH BARB DOWN ABOVE LEFTWARDS HARPOON WITH BARB DOWN",
    "fBELOW LONG DASHfFROM BARfTO BAReDOWNWARDSeUP ABOVE LEFTWARDS HARPOON WITH BARB UP",
    "gLONG DASHgRIGHTWARDS HARPOON WITH BARB DOWNfFROM BARfTO BAReUPWARDSbHEAVY ARROW",
    "cCOMPRESSED ARROWbLEFT-SHADED WHITE ARROWbOPEN-HEADED ARROWbPAIRED ARROWSbQUADRUPLE ARROW",
    "bRIGHT-SHADED WHITE ARROWbROCKETbSANS-SERIF ARROWbSQUARED ARROWbSQUIGGLE ARROW",
    "bTOP SHADED WHITE ARROWbTRIANGLE ARROWHEADbTRIANGLE-HEADED ARROW",
    "dOVER LEFTWARDS TRIANGLE-HEADED ARROWdTO BARdWITH BOLD SHAFTeDOUBLE HORIZONTAL STROKE",
    "fVERTICAL STROKEeHEAVY SHAFTeLONG TIP DOWNWARDSgUPWARDSeMEDIUM SHAFTeNARROW SHAFT",
    "eVERY HEAVY SHAFTcDASHED ARROWcPAIRED ARROWSbTRIPLE ARROWcDASH ARROWbTWO HEADED ARROW",
    "bTWO-HEADED ARROW FROM BARdWITH DOUBLE VERTICAL STROKEeTAILfWITH DOUBLE VERTICAL STROKE",
    "gVERTICAL STROKEeTRIANGLE ARROWHEADSeVERTICAL STROKEcTRIPLE DASH ARROWbWAVE ARROW",
    "bWHITE ARROWdFROM WALLdWITHIN TRIANGLE ARROWHEADaRINGbABOVEbBUOYbEQUAL TObIN EQUAL TO",
    "bOPERATORbPOINTaRINGED PLANETaRINGING BELLaRISING DIAGONAL CROSSING FALLING DIAGONAL",
    "dSOUTH EAST ARROWaRLEaRLIaRLMaRLOaROASTED SWEET POTATOaROBOT FACEaROCKaROCKET",
    "aROLL OF PAPERaROLLED-UP NEWSPAPERaROLLER COASTERbSKATEaROLLING ON THE FLOOR LAUGHING",
    "aROMAN AS SIGNbCENTURIAL SIGNbDENARIUS SIGNbDIMIDIA SEXTULA SIGNbDUPONDIUS SIGN",
    "bNUMERAL EIGHTcELEVENcFIFTYdEARLY FORMdTHOUSANDcFIVEdHUNDREDdTHOUSANDcFOURcNINEcONE",
    "dHUNDREDeTHOUSANDdTHOUSANDeC DcREVERSED ONE HUNDREDcSEVENcSIXdLATE FORMcTENdTHOUSANDcTHREE",
    "cTWELVEcTWObQUINARIUS SIGNbSEMUNCIA SIGNbSESTERTIUS SIGNbSEXTANS SIGNbSEXTULA SIGN",
    "bSILIQUA SIGNbUNCIA SIGNaROOSTERaROSEaROSETTEaROTATED CAPITAL QbFLORAL HEART BULLET",
    "bHEAVY BLACK HEART BULLETbLIGHT FOUR POINTED BLACK CUSPbWHITE FOUR POINTED CUSP",
    "aROUND PUSHPINbTARGETaROUNDED SYMBOL FOR CAIdFU"],
  ["aROUNDED SYMBOL FOR LUdSHOUdSHUANGXIdXIaROWBOATaRSaRUBLE SIGNaRUGBY FOOTBALLaRULE-DELAYED",
    "aRUMI DIGIT EIGHTcFIVEcFOURcNINEcONEcSEVENcSIXcTHREEcTWObFRACTION ONE HALFdQUARTERdTHIRD",
    "cTWO THIRDSbNUMBER EIGHT HUNDREDcEIGHTYcFIFTYcFIVE HUNDREDcFORTYcFOUR HUNDREDcNINE HUNDRED",
    "cNINETYcONE HUNDREDcSEVEN HUNDREDcSEVENTYcSIX HUNDREDcSIXTYcTENcTHIRTYcTHREE HUNDRED",
    "cTWENTYcTWO HUNDREDaRUNIC ARLAUG SYMBOLbBELGTHOR SYMBOLbCROSS PUNCTUATIONbLETTER AC AcAESC",
    "cALGIZ EOLHXcANSUZ AcBERKANAN BEORC BJARKAN BcCcCALCcCEALCcCENcCWEORTHcDcDAGAZ DAEG D",
    "cDOTTED-LcDOTTED-NcDOTTED-PcEcEARcEHWAZ EH EcENGcETHcFEHU FEOH FE FcFRANKS CASKET ACeAESC",
    "eEHeISeOScGcGARcGEBO GYFU GcGERcHAEGL HcHAGLAZ HcICELANDIC-YRcINGcINGWAZcIORcISAZ IS ISS I",
    "cIWAZ EOHcJERAN JcKcKAUN KcKAUNAcLAUKAZ LAGU LOGR LcLONG-BRANCH-AR AEcLONG-BRANCH-HAGALL H",
    "cLONG-BRANCH-MADR McLONG-BRANCH-OSS OcLONG-BRANCH-YRcMANNAZ MAN McNAUDIZ NYD NAUD NcOcOE",
    "cONcOOcOPEN-PcOS OcOTHALAN ETHEL OcPERTHO PEORTH PcQcRAIDO RAD REID RcSHcSHORT-TWIG-AR A",
    "cSHORT-TWIG-BJARKAN BcSHORT-TWIG-HAGALL HcSHORT-TWIG-MADR McSHORT-TWIG-NAUD N",
    "cSHORT-TWIG-OSS OcSHORT-TWIG-SOL ScSHORT-TWIG-TYR TcSHORT-TWIG-YRcSIGEL LONG-BRANCH-SOL S",
    "cSOWILO ScSTANcTHURISAZ THURS THORNcTIWAZ TIR TYR TcURUZ UR UcVcWcWUNJO WYNN WcXcYcYRcZ",
    "bMULTIPLE PUNCTUATIONbSINGLE PUNCTUATIONbTVIMADUR SYMBOLaRUNNERaRUNNING SHIRT WITH SASH",
    "aRUPEE SIGNaRUSSIAN ASTROLOGICAL SYMBOL BINOVILEdNOVILEdQUINTILEdSENTAGONdTREDECILE",
    "dVIGINTILE"]]

end PlainMath.Text.CharName
