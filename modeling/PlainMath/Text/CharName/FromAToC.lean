/-
# `Text.CharName.FromAToC` — names of characters from A to C
-/
namespace PlainMath.Text.CharName

/-- The names that begin with letters from A to C.  A small letter begins a name and tells how
many words it has in common with the name before it: none for `a`, one for `b` and so on.  Lists
are kept short, and the names of one list have the same first letter. -/
def fromAToC : List (List String) := [
  ["aABACUSaAC CURRENTaACCORDIONaACCOUNT OFaACKaACKNOWLEDGEaACTIVATE ARABIC FORM SHAPING",
    "bSYMMETRIC SWAPPINGaACUTE ACCENTbANGLEaADDRESSED TO THE SUBJECTaADHESIVE BANDAGE",
    "aADI SHAKTIaADLAM ALIF LENGTHENERbCAPITAL LETTER ALIFdBAdBHEdCHIdDAALIdDHAdEdFAdGAdGBEdHA",
    "dIdJIIMdKAFdKHAdKPOdLAAMdMIIMdNHAdNUNdNYAdOdPEdQAAFdRAdSHAdSINNYIIYHEdTUdUdVAdWAWdYAdYHE",
    "dZALbCONSONANT MODIFIERbDIGIT EIGHTcFIVEcFOURcNINEcONEcSEVENcSIXcTHREEcTWOcZERO",
    "bGEMINATE CONSONANT MODIFIERbGEMINATION MARKbHAMZAbINITIAL EXCLAMATION MARKcQUESTION MARK",
    "bNASALIZATION MARKbNUKTAbSMALL LETTER ALIFdBAdBHEdCHIdDAALIdDHAdEdFAdGAdGBEdHAdIdJIIMdKAF",
    "dKHAdKPOdLAAMdMIIMdNHAdNUNdNYAdOdPEdQAAFdRAdSHAdSINNYIIYHEdTUdUdVAdWAWdYAdYHEdZAL",
    "bVOWEL LENGTHENERaADMETOSaADMISSION TICKETSaADULTaAEGEAN CHECK MARK",
    "bDRY MEASURE FIRST SUBUNITbLIQUID MEASURE FIRST SUBUNITbMEASURE SECOND SUBUNIT",
    "cTHIRD SUBUNITbNUMBER EIGHTdHUNDREDdTHOUSANDcEIGHTYdTHOUSANDcFIFTYdTHOUSANDcFIVEdHUNDRED",
    "dTHOUSANDcFORTYdTHOUSANDcFOURdHUNDREDdTHOUSANDcNINEdHUNDREDdTHOUSANDcNINETYdTHOUSANDcONE",
    "dHUNDREDdTHOUSANDcSEVENdHUNDREDdTHOUSANDcSEVENTYdTHOUSANDcSIXdHUNDREDdTHOUSANDcSIXTY",
    "dTHOUSANDcTENdTHOUSANDcTHIRTYdTHOUSANDcTHREEdHUNDREDdTHOUSANDcTWENTYdTHOUSANDcTWOdHUNDRED",
    "dTHOUSANDbWEIGHT BASE UNITcFIRST SUBUNITcFOURTH SUBUNITcSECOND SUBUNITcTHIRD SUBUNIT",
    "bWORD SEPARATOR DOTdLINEaAERIAL TRAMWAYaAFGHANI SIGNaAHOM CONSONANT SIGN MEDIAL LA",
    "eLIGATING RAeRAbDIGIT EIGHTcFIVEcFOURcNINEcONEcSEVENcSIXcTHREEcTWOcZERObLETTER A",
    "cALTERNATE BAdGAdTAcBAcBHAcCAcCHAcDAcDDAcDDHAcDHAcGAcGHAcHAcJAcJHAcKAcKHAcLAcLLAcMAcNAcNGA",
    "cNNAcNYAcPAcPHAcRAcSAcTAcTHAcTTAcTTHAbNUMBER TENcTWENTYbSIGN KILLERcRULAIcSECTION",
    "cSMALL SECTIONbSYMBOL VIbVOWEL SIGN AdAAdAIdAMdAWdEdIdIIdOdUdUUaAIRPLANEbARRIVING",
    "bDEPARTUREaAKTIESELSKABaALARM CLOCKaALCHEMICAL SYMBOL FOR AIRdALEMBICdALKALIdALKALI-2dALUM",
    "dAMALGAMdANTIMONY OREdAQUA REGIAeREGIA-2eVITAEeVITAE-2dAQUAFORTISdARSENICdASHES",
    "dAURIPIGMENTdBATH OF MARYfVAPOURSdBISMUTH OREdBLACK SULFURdBORAXdBORAX-2dBORAX-3dBRICK",
    "dCADUCEUSdCALXdCAPUT MORTUUMdCINNABARdCOPPER ANTIMONIATEeOREdCROCUS OF COPPERfCOPPER-2",
    "fIRONdCRUCIBLEdCRUCIBLE-2dCRUCIBLE-3dCRUCIBLE-4dCRUCIBLE-5dDAY-NIGHTdDISSOLVEdDISSOLVE-2",
    "dDISTILLdEARTHdFIREdGOLDdGUMdHALF DRAMeOUNCEdHORSE DUNGdHOURdIRON OREeORE-2",
    "dIRON-COPPER OREdLEAD OREdLODESTONEdMARCASITEdMERCURY SUBLIMATEeSUBLIMATE-2eSUBLIMATE-3",
    "dMONTHdNIGHTdNITREdOILdPHILOSOPHERS SULFURdPOT ASHESdPOWDERdPOWDERED BRICKdPRECIPITATE",
    "dPURIFYdPUTREFACTIONdQUICK LIMEdQUINTESSENCEdREALGARdREALGAR-2dREGULUSeOF ANTIMONY",
    "fANTIMONY-2fIRONdREGULUS-2dREGULUS-3dREGULUS-4dRETORTdROCK SALTeSALT-2dSAL-AMMONIACdSALT",
    "eOF ANTIMONYfCOPPER ANTIMONIATEdSCEPTER OF JOVEdSILVERdSOAPdSPIRITdSTARRED TRIDENT",
    "dSTRATUM SUPER STRATUMfSTRATUM-2dSUBLIMATE OF ANTIMONYfCOPPERfSALT OF ANTIMONYhCOPPER",
    "dSUBLIMATIONdSULFURdTARTARdTARTAR-2dTIN OREdTINCTUREdTRIDENTdTUTTYdURINEdVERDIGRISdVINEGAR",
    "eOF ANTIMONYdVINEGAR-2dVINEGAR-3dVITRIOLdVITRIOL-2dWATERdWAXaALEF SYMBOLaALEMBICaALERT",
    "aALIEN MONSTERaALL AROUND-PROFILEbEQUAL TOaALMaALMOST EQUAL OR EQUAL TOcTO",
    "dWITH CIRCUMFLEX ACCENTaALTERNATE ONE-WAY LEFT WAY TRAFFICaALTERNATIVE KEY SYMBOL",
    "aAMALGAMATION OR COPRODUCTaAMBULANCEaAMERICAN FOOTBALLaAMPERSANDaAMPHORA",
    "aANATOLIAN HIEROGLYPH A001cA002cA003cA004cA005cA006cA007cA008cA009cA010cA010AcA011cA012",
    "cA013cA014cA015cA016cA017cA018cA019cA020cA021cA022cA023cA024cA025cA026cA026AcA027cA028",
    "cA029cA030cA031cA032cA033cA034cA035cA036cA037cA038cA039cA039AcA040cA041cA041AcA042cA043",
    "cA044cA045cA045AcA046cA046AcA046BcA047cA048cA049cA050cA051cA052cA053cA054cA055cA056cA057",
    "cA058cA059cA060cA061cA062cA063cA064cA065cA066cA066AcA066BcA066CcA067cA068cA069cA070cA071",
    "cA072cA073cA074cA075cA076cA077cA078cA079cA080cA081cA082cA083cA084cA085cA086cA087cA088cA089",
    "cA090cA091cA092cA093cA094cA095cA096cA097cA097AcA098cA098AcA099cA100cA100AcA101cA101AcA102",
    "cA102AcA103cA104cA104AcA104BcA104CcA105cA105AcA105BcA106cA107cA107AcA107BcA107CcA108cA109",
    "cA110cA110AcA110BcA111cA112cA113cA114cA115cA115AcA116cA117cA118cA119cA120cA121cA122cA123",
    "cA124cA125cA125AcA126cA127cA128cA129cA130cA131cA132cA133cA134cA135cA135AcA136cA137cA138",
    "cA139cA140cA141cA142cA143cA144cA145cA146cA147cA148cA149cA150cA151cA152cA153cA154cA155cA156",
    "cA157cA158cA159cA160cA161cA162cA163cA164cA165cA166cA167cA168cA169cA170cA171cA172cA173cA174",
    "cA175cA176cA177cA178cA179cA180cA181cA182cA183cA184cA185cA186cA187cA188cA189cA190cA191cA192",
    "cA193cA194cA195cA196cA197cA198cA199cA200cA201cA202cA202AcA202BcA203cA204cA205cA206cA207",
    "cA207AcA208cA209cA209AcA210cA211cA212cA213cA214cA215cA215AcA216cA216AcA217cA218cA219cA220",
    "cA221cA222cA223cA224cA225cA226cA227cA227AcA228cA229cA230cA231cA232cA233cA234cA235cA236",
    "cA237cA238cA239cA240cA241cA242cA243cA244cA245cA246cA247cA248cA249cA250cA251cA252cA253cA254",
    "cA255cA256cA257cA258cA259cA260cA261cA262cA263cA264cA265cA266cA267cA267AcA268cA269cA270",
    "cA271cA272cA273cA274cA275cA276cA277cA278cA279cA280cA281cA282cA283cA284cA285cA286cA287cA288",
    "cA289cA289AcA290cA291cA292cA293cA294cA294AcA295cA296cA297cA298cA299cA299AcA300cA301cA302",
    "cA303cA304cA305cA306cA307cA308cA309cA309AcA310cA311cA312cA313cA314cA315cA316cA317cA318",
    "cA319cA320cA321cA322cA323cA324cA325cA326cA327cA328cA329cA329AcA330cA331cA332AcA332BcA332C",
    "cA333cA334cA335cA336cA336AcA336BcA336CcA337cA338cA339cA340cA341cA342cA343cA344cA345cA346",
    "cA347cA348cA349cA350cA351cA352cA353cA354cA355cA356cA357cA358cA359cA359AcA360cA361cA362",
    "cA363cA364cA364AcA365cA366cA367cA368cA368AcA369cA370cA371cA371AcA372cA373cA374cA375cA376",
    "cA377cA378cA379cA380cA381cA381AcA382cA383 RA OR RIcA383AcA384cA385cA386cA386AcA387cA388",
    "cA389cA390cA391cA392cA393 EIGHTcA394cA395cA396cA397cA398cA399cA400cA401cA402cA403cA404",
    "cA405cA406cA407cA408cA409cA410 BEGIN LOGOGRAM MARKcA410A END LOGOGRAM MARKcA411cA412cA413",
    "cA414cA415cA416cA417cA418cA419cA420cA421cA422cA423cA424cA425cA426cA427cA428cA429cA430cA431",
    "cA432cA433cA434cA435cA436cA437cA438cA439cA440cA441cA442cA443cA444cA445cA446cA447cA448cA449",
    "cA450cA450AcA451cA452cA453cA454cA455cA456cA457cA457AcA458cA459cA460cA461cA462cA463cA464",
    "cA465cA466cA467cA468cA469cA470cA471cA472cA473cA474cA475cA476cA477cA478cA479cA480cA481cA482",
    "cA483cA484cA485cA486cA487cA488cA489cA490cA491cA492cA493cA494cA495cA496cA497cA501cA502cA503",
    "cA504"],
  ["aANATOLIAN HIEROGLYPH A505cA506cA507cA508cA509cA510cA511cA512cA513cA514cA515cA516cA517",
    "cA518cA519cA520cA521cA522cA523cA524cA525cA526cA527cA528cA529cA530aANATOMICAL HEARTaANCHOR",
    "aAND WITH DOTaANGER SYMBOLaANGLEbWITH S INSIDEcUNDERBARaANGRY FACEaANGSTROM SIGN",
    "aANGUISHED FACEaANKHaANTaANTENNA WITH BARSaANTICLOCKWISE CLOSED CIRCLE ARROW",
    "bCONTOUR INTEGRALbDOWNWARDS AND UPWARDS OPEN CIRCLE ARROWSbGAPPED CIRCLE ARROWbINTEGRATION",
    "bOPEN CIRCLE ARROWbTOP SEMICIRCLE ARROWbTRIANGLE-HEADED BOTTOM U-SHAPED ARROW",
    "cLEFT U-SHAPED ARROWcOPEN CIRCLE ARROWcRIGHT U-SHAPED ARROWcTOP U-SHAPED ARROWaAPC",
    "aAPL FUNCTIONAL SYMBOL ALPHAeUNDERBARdBACKSLASH BARdCIRCLE BACKSLASHeDIAERESISeJOTeSTAR",
    "eSTILEeUNDERBARdCOMMA BARdDEL DIAERESISeSTILEeTILDEdDELTA STILEeUNDERBARdDIAMOND UNDERBAR",
    "dDOWN CARET TILDEeSHOE STILEeTACK JOTfUNDERBARdDOWNWARDS VANEdEPSILON UNDERBAR",
    "dGREATER-THAN DIAERESISdI-BEAMdIOTAeUNDERBARdJOT DIAERESISeUNDERBARdLEFT SHOE STILE",
    "dLEFTWARDS VANEdOMEGAeUNDERBARdQUADeBACKSLASHeCIRCLEeCOLONeDELeDELTAeDIAMONDeDIVIDE",
    "eDOWN CARETeDOWNWARDS ARROWeEQUALeGREATER-THANeJOTeLEFTWARDS ARROWeLESS-THANeNOT EQUAL",
    "eQUESTIONeRIGHTWARDS ARROWeSLASHeUP CARETeUPWARDS ARROWdQUOTE QUADeUNDERBARdRHO",
    "dRIGHTWARDS VANEdSEMICOLON UNDERBARdSLASH BARdSQUISH QUADdSTAR DIAERESISdSTILE TILDE",
    "dTILDE DIAERESISdUP CARET TILDEeSHOE JOTeTACK DIAERESISfJOTfOVERBARdUPWARDS VANEdZILDE",
    "aAPOLLONaAPOSTROPHEaAPPLICATION PROGRAM COMMANDaAPPROACHES THE LIMIT",
    "aAPPROXIMATELY BUT NOT ACTUALLY EQUAL TObEQUAL OR EQUAL TOcTOdOR THE IMAGE OFaAQUARIUS",
    "aARABIC BASELINE ROUND DOTbCOMMAbCURLY DAMMAcDAMMATANcFATHAcFATHATANcKASRAcKASRATANbDAMMA",
    "cISOLATED FORMcMEDIAL FORMcWITH DOTbDAMMATANcISOLATED FORMbDATE SEPARATOR",
    "bDECIMAL SEPARATORbDISPUTED END OF AYAHbDOUBLE RIGHT ARROWHEAD ABOVEfWITH DOT",
    "bDOUBLED MADDAbEMPTY CENTRE HIGH STOPdLOW STOPbEND OF AYAHdTEXT MARKbFATHAcISOLATED FORM",
    "cMEDIAL FORMcWITH DOT ABOVEdRINGdTWO DOTSbFATHATANcISOLATED FORMbFIVE POINTED STAR",
    "bFOOTNOTE MARKERbFULL STOPbHALF MADDA OVER MADDAbHAMZA ABOVEcBELOWbINVERTED DAMMAbKASRA",
    "cISOLATED FORMcMEDIAL FORMcWITH DOT BELOWbKASRATANcISOLATED FORMbLARGE CIRCLE BELOW",
    "cROUND DOT ABOVEeBELOWeINSIDE CIRCLE BELOWbLEFT ARROWHEAD ABOVEdBELOWbLETTER AE",
    "cAFRICAN FEHdNOONdQAFeWITH THREE DOTS ABOVEcAINdFINAL FORMdINITIAL FORMdISOLATED FORM",
    "dMEDIAL FORMdWITH THREE DOTS ABOVEgBELOWgPOINTING DOWNWARDS ABOVEeTWO DOTS ABOVE",
    "gVERTICALLY ABOVEcALEFdFINAL FORMdISOLATED FORMdMAKSURAeFINAL FORMeISOLATED FORMdWASLA",
    "eFINAL FORMeISOLATED FORMdWITH ATTACHED BOTTOM RIGHT KASRAiAND DOT ABOVEjLEFT RINGfFATHA",
    "fKASRAfLEFT HAMZAgROUND DOTfRIGHT HAMZAgROUND DOTfROUND DOT ABOVEhBELOWfTOP RIGHT FATHA",
    "iAND DOT ABOVEjLEFT RINGeDOT ABOVEeEXTENDED ARABIC-INDIC DIGIT THREE ABOVEhTWO ABOVE",
    "eHAMZA ABOVEgFINAL FORMgISOLATED FORMfBELOWgFINAL FORMgISOLATED FORMeLEFT MIDDLE STROKE",
    "eMADDA ABOVEgFINAL FORMgISOLATED FORMeRIGHT MIDDLE STROKEhAND DOT ABOVEiLEFT RING",
    "eWAVY HAMZA ABOVEgBELOWcBEEHdFINAL FORMdINITIAL FORMdISOLATED FORMdMEDIAL FORMcBEH",
    "dFINAL FORMdINITIAL FORMdISOLATED FORMdMEDIAL FORMdWITH DOT BELOW AND THREE DOTS ABOVE",
    "eHAMZA ABOVEeINVERTED SMALL V BELOWeSMALL MEEM ABOVEfVgBELOWeTHREE DOTS HORIZONTALLY BELOW",
    "gPOINTING UPWARDS BELOWjAND TWO DOTS ABOVEeTWO DOTS BELOW AND DOT ABOVEcBEHEHdFINAL FORM",
    "dINITIAL FORMdISOLATED FORMdMEDIAL FORMcDADdFINAL FORMdINITIAL FORMdISOLATED FORM",
    "dMEDIAL FORMdWITH DOT BELOWcDAHALdFINAL FORMdISOLATED FORMcDALdFINAL FORMdISOLATED FORM",
    "dWITH DOT BELOWgAND SMALL TAHeFOUR DOTS ABOVEeINVERTED SMALL V BELOWfVeRING",
    "eTHREE DOTS ABOVE DOWNWARDSgBELOWeTWO DOTS VERTICALLY BELOW AND SMALL TAHcDDAHAL",
    "dFINAL FORMdISOLATED FORMcDDALdFINAL FORMdISOLATED FORMcDOTLESS BEHdFEHdQAFcDULdFINAL FORM",
    "dISOLATED FORMcDYEHdFINAL FORMdINITIAL FORMdISOLATED FORMdMEDIAL FORMcEdFINAL FORM",
    "dINITIAL FORMdISOLATED FORMdMEDIAL FORMcFARSI YEHeFINAL FORMeINITIAL FORMeISOLATED FORM",
    "eMEDIAL FORMeWITH EXTENDED ARABIC-INDIC DIGIT FOUR BELOWiTHREE ABOVEiTWO ABOVEfINVERTED V",
    "fTHREE DOTS ABOVEfTWO DOTS ABOVEcFEHdFINAL FORMdINITIAL FORMdISOLATED FORMdMEDIAL FORM",
    "dWITH DOT BELOWgAND THREE DOTS ABOVEfMOVED BELOWeTHREE DOTS BELOWgPOINTING UPWARDS BELOW",
    "eTWO DOTS BELOWcGAFdFINAL FORMdINITIAL FORMdISOLATED FORMdMEDIAL FORMdWITH INVERTED STROKE",
    "eRINGeTHREE DOTS ABOVEeTWO DOTS BELOWcGHAINdFINAL FORMdINITIAL FORMdISOLATED FORM",
    "dMEDIAL FORMdWITH DOT BELOWeTHREE DOTS ABOVEcGRAFcGUEHdFINAL FORMdINITIAL FORM",
    "dISOLATED FORMdMEDIAL FORMcHAHdFINAL FORMdINITIAL FORMdISOLATED FORMdMEDIAL FORM",
    "dWITH EXTENDED ARABIC-INDIC DIGIT FOUR BELOWeHAMZA ABOVEeINVERTED SMALL V BELOW",
    "eSMALL ARABIC LETTER TAH ABOVEiAND TWO DOTSiBELOWeTHREE DOTS ABOVEgPOINTING UPWARDS BELOW",
    "eTWO DOTS ABOVEgVERTICAL ABOVEcHAMZAdISOLATED FORMcHEHdDOACHASHMEEeFINAL FORMeINITIAL FORM",
    "eISOLATED FORMeMEDIAL FORMdFINAL FORMdGOALeFINAL FORMeINITIAL FORMeISOLATED FORM",
    "eMEDIAL FORMeWITH HAMZA ABOVEdINITIAL FORMdISOLATED FORMdMEDIAL FORMdWITH INVERTED V",
    "eYEH ABOVEgFINAL FORMgISOLATED FORMcHIGH HAMZAeALEFeWAWeYEHcJEEMdFINAL FORMdINITIAL FORM",
    "dISOLATED FORMdMEDIAL FORMdWITH THREE DOTS ABOVEgBELOWeTWO DOTS ABOVEcJEHdFINAL FORM",
    "dISOLATED FORMcKAFdFINAL FORMdINITIAL FORMdISOLATED FORMdMEDIAL FORMdWITH DOT ABOVEfBELOW",
    "eRINGeTHREE DOTS BELOWeTWO DOTS ABOVEcKASHMIRI YEHcKEHEHdFINAL FORMdINITIAL FORM",
    "dISOLATED FORMdMEDIAL FORMdWITH DOT ABOVEeSMALL VeTHREE DOTS ABOVEgBELOW",
    "gPOINTING UPWARDS BELOWeTWO DOTS ABOVEgVERTICALLY BELOWcKHAHdFINAL FORMdINITIAL FORM",
    "dISOLATED FORMdMEDIAL FORMcKIRGHIZ OEeFINAL FORMeISOLATED FORMdYUeFINAL FORMeISOLATED FORM",
    "cLAMdFINAL FORMdINITIAL FORMdISOLATED FORMdMEDIAL FORMdWITH BAReDOT ABOVEeDOUBLE BAR",
    "eSMALL ARABIC LETTER TAH ABOVEfVeTHREE DOTS ABOVEgBELOWcLOW ALEFcMARKcMEEMdFINAL FORM",
    "dINITIAL FORMdISOLATED FORMdMEDIAL FORMdWITH DOT ABOVEfBELOWeTHREE DOTS ABOVEcNG",
    "dFINAL FORMdINITIAL FORMdISOLATED FORMdMEDIAL FORMcNGOEHdFINAL FORMdINITIAL FORM",
    "dISOLATED FORMdMEDIAL FORMcNOONdFINAL FORMdGHUNNAeFINAL FORMeISOLATED FORMdINITIAL FORM",
    "dISOLATED FORMdMEDIAL FORMdWITH DOT BELOWeINVERTED SMALL VeRINGeSMALL TAHfV",
    "eTHREE DOTS ABOVEeTWO DOTS BELOWcNYEHdFINAL FORMdINITIAL FORMdISOLATED FORMdMEDIAL FORMcOE",
    "dFINAL FORMdISOLATED FORMcPEHdFINAL FORMdINITIAL FORMdISOLATED FORM"],
  ["aARABIC LETTER PEH MEDIAL FORMdWITH SMALL MEEM ABOVEfVcPEHEHdFINAL FORMdINITIAL FORM",
    "dISOLATED FORMdMEDIAL FORMcQAFdFINAL FORMdINITIAL FORMdISOLATED FORMdMEDIAL FORM",
    "dWITH DOT ABOVEfBELOWgAND NO DOTS ABOVEeTHREE DOTS ABOVEcREHdFINAL FORMdISOLATED FORM",
    "dWITH DOT BELOWgAND DOT ABOVEeFOUR DOTS ABOVEeHAMZA ABOVEeINVERTED VeLOOPeRING",
    "eSMALL ARABIC LETTER TAH AND TWO DOTSfNOON ABOVEfVgBELOWeSTROKEeTWO DOTS ABOVE",
    "gVERTICALLY ABOVEcRNOONdFINAL FORMdINITIAL FORMdISOLATED FORMdMEDIAL FORMcROHINGYA YEH",
    "cRREHdFINAL FORMdISOLATED FORMcSADdFINAL FORMdINITIAL FORMdISOLATED FORMdMEDIAL FORM",
    "dWITH THREE DOTS ABOVEgBELOWeTWO DOTS BELOWcSEENdFINAL FORMdINITIAL FORMdISOLATED FORM",
    "dMEDIAL FORMdWITH DOT BELOW AND DOT ABOVEeEXTENDED ARABIC-INDIC DIGIT FOUR ABOVE",
    "eFOUR DOTS ABOVEeINVERTED VeSMALL ARABIC LETTER TAH AND TWO DOTSeTHREE DOTS BELOW",
    "hAND THREE DOTS ABOVEeTWO DOTS VERTICALLY ABOVEcSHEENdFINAL FORMdINITIAL FORM",
    "dISOLATED FORMdMEDIAL FORMdWITH DOT BELOWcSTRAIGHT WAWcSUPERSCRIPT ALEFcSWASH KAFcTAH",
    "dFINAL FORMdINITIAL FORMdISOLATED FORMdMEDIAL FORMdWITH DOT BELOWeTHREE DOTS ABOVEgBELOW",
    "eTWO DOTS ABOVEcTCHEHdFINAL FORMdINITIAL FORMdISOLATED FORMdMEDIAL FORMdWITH DOT ABOVE",
    "eSMALL VcTCHEHEHdFINAL FORMdINITIAL FORMdISOLATED FORMdMEDIAL FORMcTEHdFINAL FORM",
    "dINITIAL FORMdISOLATED FORMdMARBUTAeFINAL FORMeGOALeISOLATED FORMdMEDIAL FORMdWITH RING",
    "eSMALL TEH ABOVEfVeTHREE DOTS ABOVE DOWNWARDScTEHEHdFINAL FORMdINITIAL FORMdISOLATED FORM",
    "dMEDIAL FORMcTHALdFINAL FORMdISOLATED FORMcTHEHdFINAL FORMdINITIAL FORMdISOLATED FORM",
    "dMEDIAL FORMcTHIN YEHcTTEHdFINAL FORMdINITIAL FORMdISOLATED FORMdMEDIAL FORMdWITH SMALL V",
    "cTTEHEHdFINAL FORMdINITIAL FORMdISOLATED FORMdMEDIAL FORMcUdFINAL FORMdISOLATED FORM",
    "dWITH HAMZA ABOVEgISOLATED FORMcUIGHUR KAZAKH KIRGHIZ ALEF MAKSURA INITIAL FORM",
    "hMEDIAL FORMcVEdFINAL FORMdISOLATED FORMcVEHdFINAL FORMdINITIAL FORMdISOLATED FORM",
    "dMEDIAL FORMcWAWdFINAL FORMdISOLATED FORMdWITH DOT ABOVEfWITHIN",
    "eEXTENDED ARABIC-INDIC DIGIT THREE ABOVEhTWO ABOVEeHAMZA ABOVEgFINAL FORMgISOLATED FORM",
    "eRINGeTWO DOTS ABOVEcYEHdBARREEeFINAL FORMeISOLATED FORM",
    "eWITH EXTENDED ARABIC-INDIC DIGIT THREE ABOVEiTWO ABOVEfHAMZA ABOVEhFINAL FORM",
    "hISOLATED FORMdFINAL FORMdINITIAL FORMdISOLATED FORMdMEDIAL FORMdWITH HAMZA ABOVE",
    "gFINAL FORMgINITIAL FORMgISOLATED FORMgMEDIAL FORMeSMALL VeTAILeTHREE DOTS BELOW",
    "eTWO DOTS BELOW AND DOT ABOVEiHAMZA ABOVEiSMALL NOON ABOVEcYUdFINAL FORMdISOLATED FORMcZAH",
    "dFINAL FORMdINITIAL FORMdISOLATED FORMdMEDIAL FORMcZAINdFINAL FORMdISOLATED FORM",
    "dWITH INVERTED V ABOVEbLIGATURE AIN WITH ALEF MAKSURA FINAL FORMgISOLATED FORM",
    "eJEEM INITIAL FORMfISOLATED FORMfWITH MEEM FINAL FORMhINITIAL FORMeMEEM INITIAL FORM",
    "fISOLATED FORMfWITH ALEF MAKSURA FINAL FORMgMEEM FINAL FORMhINITIAL FORMgYEH FINAL FORM",
    "eYEH FINAL FORMfISOLATED FORMcAKBAR ISOLATED FORMcALAYHAA AS-SALAAMcALAYHE ISOLATED FORM",
    "cALAYHI AS-SALAAMdAS-SALAATU WAS-SALAAMcALAYHIM AS-SALAAMcALAYHIMAA AS-SALAAM",
    "cALEF MAKSURA WITH SUPERSCRIPT ALEF FINAL FORMhISOLATED FORMdWITH FATHATAN FINAL FORM",
    "fISOLATED FORMcALLAH ISOLATED FORMcAZZA WA JALLcBEH WITH ALEF MAKSURA FINAL FORM",
    "gISOLATED FORMeHAH INITIAL FORMfISOLATED FORMfWITH YEH FINAL FORMeHEH INITIAL FORM",
    "fMEDIAL FORMeJEEM INITIAL FORMfISOLATED FORMeKHAH INITIAL FORMfISOLATED FORM",
    "fWITH YEH FINAL FORMeMEEM FINAL FORMfINITIAL FORMfISOLATED FORMfMEDIAL FORM",
    "eNOON FINAL FORMeREH FINAL FORMeYEH FINAL FORMfISOLATED FORMeZAIN FINAL FORM",
    "cBISMILLAH AR-RAHMAN AR-RAHEEMcDAD WITH ALEF MAKSURA FINAL FORMgISOLATED FORM",
    "eHAH INITIAL FORMfISOLATED FORMfWITH ALEF MAKSURA FINAL FORMgYEH FINAL FORM",
    "eJEEM INITIAL FORMfISOLATED FORMeKHAH INITIAL FORMfISOLATED FORMfWITH MEEM FINAL FORM",
    "hINITIAL FORMeMEEM INITIAL FORMfISOLATED FORMeREH FINAL FORMfISOLATED FORMeYEH FINAL FORM",
    "fISOLATED FORMcFEH WITH ALEF MAKSURA FINAL FORMgISOLATED FORMeHAH INITIAL FORM",
    "fISOLATED FORMeJEEM INITIAL FORMfISOLATED FORMeKHAH INITIAL FORMfISOLATED FORM",
    "fWITH MEEM FINAL FORMhINITIAL FORMeMEEM INITIAL FORMfISOLATED FORMfWITH YEH FINAL FORM",
    "eYEH FINAL FORMfISOLATED FORMcGHAIN WITH ALEF MAKSURA FINAL FORMgISOLATED FORM",
    "eJEEM INITIAL FORMfISOLATED FORMeMEEM INITIAL FORMfISOLATED FORM",
    "fWITH ALEF MAKSURA FINAL FORMgMEEM FINAL FORMgYEH FINAL FORMeYEH FINAL FORMfISOLATED FORM",
    "cHAH WITH ALEF MAKSURA FINAL FORMgISOLATED FORMeJEEM INITIAL FORMfISOLATED FORM",
    "fWITH YEH FINAL FORMeMEEM INITIAL FORMfISOLATED FORMfWITH ALEF MAKSURA FINAL FORM",
    "gYEH FINAL FORMeYEH FINAL FORMfISOLATED FORMcHEH WITH ALEF MAKSURA ISOLATED FORM",
    "eJEEM INITIAL FORMfISOLATED FORMeMEEM INITIAL FORMfISOLATED FORMfWITH JEEM INITIAL FORM",
    "gMEEM INITIAL FORMeSUPERSCRIPT ALEF INITIAL FORMeYEH ISOLATED FORMcJALLAJALALOUHOU",
    "cJEEM WITH ALEF MAKSURA FINAL FORMgISOLATED FORMeHAH INITIAL FORMfISOLATED FORM",
    "fWITH ALEF MAKSURA FINAL FORMgYEH FINAL FORMeMEEM INITIAL FORMfISOLATED FORM",
    "fWITH ALEF MAKSURA FINAL FORMgHAH FINAL FORMhINITIAL FORMgYEH FINAL FORMeYEH FINAL FORM",
    "fISOLATED FORMcKAF WITH ALEF FINAL FORMfISOLATED FORMfMAKSURA FINAL FORMgISOLATED FORM",
    "eHAH INITIAL FORMfISOLATED FORMeJEEM INITIAL FORMfISOLATED FORMeKHAH INITIAL FORM",
    "fISOLATED FORMeLAM FINAL FORMfINITIAL FORMfISOLATED FORMfMEDIAL FORMeMEEM FINAL FORM",
    "fINITIAL FORMfISOLATED FORMfMEDIAL FORMfWITH MEEM FINAL FORMhINITIAL FORMgYEH FINAL FORM",
    "eYEH FINAL FORMfISOLATED FORMcKHAH WITH ALEF MAKSURA FINAL FORMgISOLATED FORM",
    "eHAH ISOLATED FORMeJEEM INITIAL FORMfISOLATED FORMeMEEM INITIAL FORMfISOLATED FORM",
    "eYEH FINAL FORMfISOLATED FORMcLAM WITH ALEF FINAL FORMfISOLATED FORMfMAKSURA FINAL FORM",
    "gISOLATED FORMfWITH HAMZA ABOVE FINAL FORMiISOLATED FORMhBELOW FINAL FORMiISOLATED FORM",
    "gMADDA ABOVE FINAL FORMiISOLATED FORMeHAH INITIAL FORMfISOLATED FORM",
    "fWITH ALEF MAKSURA FINAL FORMgMEEM FINAL FORMhINITIAL FORMgYEH FINAL FORMeHEH INITIAL FORM",
    "eJEEM INITIAL FORMfISOLATED FORMfWITH JEEM FINAL FORMhINITIAL FORMgMEEM FINAL FORM",
    "hINITIAL FORMgYEH FINAL FORMeKHAH INITIAL FORMfISOLATED FORMfWITH MEEM FINAL FORM",
    "hINITIAL FORMeMEEM FINAL FORMfINITIAL FORMfISOLATED FORMfMEDIAL FORMfWITH HAH FINAL FORM",
    "hINITIAL FORMgYEH FINAL FORMeYEH FINAL FORMfISOLATED FORMcMEEM WITH ALEF FINAL FORM",
    "fMAKSURA ISOLATED FORMeHAH INITIAL FORMfISOLATED FORM"],
  ["aARABIC LIGATURE MEEM WITH HAH WITH JEEM INITIAL FORMgMEEM INITIAL FORMgYEH FINAL FORM",
    "eJEEM INITIAL FORMfISOLATED FORMfWITH HAH INITIAL FORMgKHAH INITIAL FORMgMEEM INITIAL FORM",
    "gYEH FINAL FORMeKHAH INITIAL FORMfISOLATED FORMfWITH JEEM INITIAL FORMgMEEM INITIAL FORM",
    "gYEH FINAL FORMeMEEM FINAL FORMfINITIAL FORMfISOLATED FORMfWITH YEH FINAL FORM",
    "eYEH ISOLATED FORMcMOHAMMAD ISOLATED FORMcNOON WITH ALEF MAKSURA FINAL FORMgISOLATED FORM",
    "eHAH INITIAL FORMfISOLATED FORMfWITH ALEF MAKSURA FINAL FORMgMEEM INITIAL FORM",
    "gYEH FINAL FORMeHEH INITIAL FORMfMEDIAL FORMeJEEM INITIAL FORMfISOLATED FORM",
    "fWITH ALEF MAKSURA FINAL FORMgHAH FINAL FORMhINITIAL FORMgMEEM FINAL FORMhINITIAL FORM",
    "gYEH FINAL FORMeKHAH INITIAL FORMfISOLATED FORMeMEEM FINAL FORMfINITIAL FORMfISOLATED FORM",
    "fMEDIAL FORMfWITH ALEF MAKSURA FINAL FORMgYEH FINAL FORMeNOON FINAL FORMeREH FINAL FORM",
    "eYEH FINAL FORMfISOLATED FORMeZAIN FINAL FORMcQAF WITH ALEF MAKSURA FINAL FORM",
    "gISOLATED FORMeHAH INITIAL FORMfISOLATED FORMeMEEM INITIAL FORMfISOLATED FORM",
    "fWITH HAH FINAL FORMhINITIAL FORMgMEEM FINAL FORMgYEH FINAL FORMeYEH FINAL FORM",
    "fISOLATED FORMcQALA USED AS KORANIC STOP SIGN ISOLATED FORMcQUDDISA SIRRAH",
    "cRADI ALLAAHU ANHeANHAAeANHUMeANHUMAAeANHUNNAcRAHIMAHU ALLAAHcRAHIMAHUM ALLAAH",
    "cRASOUL ISOLATED FORMcREH WITH SUPERSCRIPT ALEF ISOLATED FORM",
    "cSAD WITH ALEF MAKSURA FINAL FORMgISOLATED FORMeHAH INITIAL FORMfISOLATED FORM",
    "fWITH HAH FINAL FORMhINITIAL FORMgYEH FINAL FORMeKHAH INITIAL FORMeMEEM INITIAL FORM",
    "fISOLATED FORMfWITH MEEM FINAL FORMhINITIAL FORMeREH FINAL FORMfISOLATED FORM",
    "eYEH FINAL FORMfISOLATED FORMcSALAAMUHU ALAYNAAcSALAM ISOLATED FORMcSALLA ISOLATED FORM",
    "dUSED AS KORANIC STOP SIGN ISOLATED FORMcSALLALLAAHU ALAYHI WA-AALIH",
    "cSALLALLAHOU ALAYHE WASALLAMcSALLALLAHU ALAYHI WAAALIHEE WA-SALLAM",
    "cSEEN WITH ALEF MAKSURA FINAL FORMgISOLATED FORMeHAH INITIAL FORMfISOLATED FORM",
    "fMEDIAL FORMfWITH JEEM INITIAL FORMeHEH INITIAL FORMfMEDIAL FORMeJEEM INITIAL FORM",
    "fISOLATED FORMfMEDIAL FORMfWITH ALEF MAKSURA FINAL FORMgHAH INITIAL FORMeKHAH INITIAL FORM",
    "fISOLATED FORMfMEDIAL FORMfWITH ALEF MAKSURA FINAL FORMgYEH FINAL FORMeMEEM INITIAL FORM",
    "fISOLATED FORMfMEDIAL FORMfWITH HAH FINAL FORMhINITIAL FORMgJEEM INITIAL FORM",
    "gMEEM FINAL FORMhINITIAL FORMeREH FINAL FORMfISOLATED FORMeYEH FINAL FORMfISOLATED FORM",
    "cSHADDA WITH DAMMA ISOLATED FORMfMEDIAL FORMeDAMMATAN ISOLATED FORMeFATHA ISOLATED FORM",
    "fMEDIAL FORMeKASRA ISOLATED FORMfMEDIAL FORMeKASRATAN ISOLATED FORM",
    "eSUPERSCRIPT ALEF ISOLATED FORMcSHEEN WITH ALEF MAKSURA FINAL FORMgISOLATED FORM",
    "eHAH FINAL FORMfINITIAL FORMfISOLATED FORMfMEDIAL FORMfWITH MEEM FINAL FORMhINITIAL FORM",
    "gYEH FINAL FORMeHEH INITIAL FORMfMEDIAL FORMeJEEM FINAL FORMfINITIAL FORMfISOLATED FORM",
    "fMEDIAL FORMfWITH YEH FINAL FORMeKHAH FINAL FORMfINITIAL FORMfISOLATED FORMfMEDIAL FORM",
    "eMEEM FINAL FORMfINITIAL FORMfISOLATED FORMfMEDIAL FORMfWITH KHAH FINAL FORMhINITIAL FORM",
    "gMEEM FINAL FORMhINITIAL FORMeREH FINAL FORMfISOLATED FORMeYEH FINAL FORMfISOLATED FORM",
    "cSUBHAANAHU WA TAAALAAcTABAARAKA WA-TAAALAAcTAH WITH ALEF MAKSURA FINAL FORMgISOLATED FORM",
    "eHAH INITIAL FORMfISOLATED FORMeMEEM INITIAL FORMfISOLATED FORMfMEDIAL FORM",
    "fWITH HAH FINAL FORMhINITIAL FORMgMEEM INITIAL FORMgYEH FINAL FORMeYEH FINAL FORM",
    "fISOLATED FORMcTEH WITH ALEF MAKSURA FINAL FORMgISOLATED FORMeHAH INITIAL FORM",
    "fISOLATED FORMfWITH JEEM FINAL FORMhINITIAL FORMgMEEM INITIAL FORMeHEH INITIAL FORM",
    "fMEDIAL FORMeJEEM INITIAL FORMfISOLATED FORMfWITH ALEF MAKSURA FINAL FORM",
    "gMEEM INITIAL FORMgYEH FINAL FORMeKHAH INITIAL FORMfISOLATED FORM",
    "fWITH ALEF MAKSURA FINAL FORMgMEEM INITIAL FORMgYEH FINAL FORMeMEEM FINAL FORM",
    "fINITIAL FORMfISOLATED FORMfMEDIAL FORMfWITH ALEF MAKSURA FINAL FORMgHAH INITIAL FORM",
    "gJEEM INITIAL FORMgKHAH INITIAL FORMgYEH FINAL FORMeNOON FINAL FORMeREH FINAL FORM",
    "eYEH FINAL FORMfISOLATED FORMeZAIN FINAL FORMcTHAL WITH SUPERSCRIPT ALEF ISOLATED FORM",
    "cTHEH WITH ALEF MAKSURA FINAL FORMgISOLATED FORMeHEH MEDIAL FORMeJEEM ISOLATED FORM",
    "eMEEM FINAL FORMfINITIAL FORMfISOLATED FORMfMEDIAL FORMeNOON FINAL FORMeREH FINAL FORM",
    "eYEH FINAL FORMfISOLATED FORMeZAIN FINAL FORM",
    "cUIGHUR KIRGHIZ YEH WITH HAMZA ABOVE WITH ALEF MAKSURA FINAL FORMlINITIAL FORM",
    "lISOLATED FORMcWASALLAM ISOLATED FORMcYEH WITH ALEF MAKSURA FINAL FORMgISOLATED FORM",
    "eHAH INITIAL FORMfISOLATED FORMfWITH YEH FINAL FORMeHAMZA ABOVE WITH AE FINAL FORM",
    "iISOLATED FORMhALEF FINAL FORMiISOLATED FORMiMAKSURA FINAL FORMjISOLATED FORMhE FINAL FORM",
    "iINITIAL FORMiISOLATED FORMhHAH INITIAL FORMiISOLATED FORMhHEH INITIAL FORMiMEDIAL FORM",
    "hJEEM INITIAL FORMiISOLATED FORMhKHAH INITIAL FORMhMEEM FINAL FORMiINITIAL FORM",
    "iISOLATED FORMiMEDIAL FORMhNOON FINAL FORMhOE FINAL FORMiISOLATED FORMhREH FINAL FORM",
    "hU FINAL FORMiISOLATED FORMhWAW FINAL FORMiISOLATED FORMhYEH FINAL FORMiISOLATED FORM",
    "hYU FINAL FORMiISOLATED FORMhZAIN FINAL FORMeHEH INITIAL FORMfMEDIAL FORM",
    "eJEEM INITIAL FORMfISOLATED FORMfWITH YEH FINAL FORMeKHAH INITIAL FORMfISOLATED FORM",
    "eMEEM FINAL FORMfINITIAL FORMfISOLATED FORMfMEDIAL FORMfWITH MEEM FINAL FORMhINITIAL FORM",
    "gYEH FINAL FORMeNOON FINAL FORMeREH FINAL FORMeYEH FINAL FORMfISOLATED FORM",
    "eZAIN FINAL FORMcZAH WITH MEEM INITIAL FORMfISOLATED FORMfMEDIAL FORMbMADDA WAAJIB",
    "bMADDAH ABOVEbMARK NOON GHUNNAcSIDEWAYS NOON GHUNNAbMATHEMATICAL AINcALEFcBEHcDADcDAL",
    "cDOTLESS BEHdFEHdNOONdQAFcDOUBLE-STRUCK AINdBEHdDADdDALdFEHdGHAINdHAHdJEEMdKHAHdLAMdMEEM",
    "dNOONdQAFdREHdSADdSEENdSHEENdTAHdTEHdTHALdTHEHdWAWdYEHdZAHdZAINcFEHcGHAINcHAHcINITIAL AIN",
    "dBEHdDADdFEHdGHAINdHAHdHEHdJEEMdKAFdKHAHdLAMdMEEMdNOONdQAFdSADdSEENdSHEENdTEHdTHEHdYEH",
    "cJEEMcKAFcKHAHcLAMcLOOPED AINdALEFdBEHdDADdDALdFEHdGHAINdHAHdHEHdJEEMdKHAHdLAMdMEEMdNOON",
    "dQAFdREHdSADdSEENdSHEENdTAHdTEHdTHALdTHEHdWAWdYEHdZAHdZAINcMEEMcNOONcOPERATOR HAH WITH DAL",
    "dMEEM WITH HAH WITH TATWEELcQAFcREHcSADcSEENcSHEENcSTRETCHED AINdBEHdDADdDOTLESS BEHeFEH",
    "dFEHdGHAINdHAHdHEHdJEEMdKAFdKHAHdMEEMdNOONdQAFdSADdSEENdSHEENdTAHdTEHdTHEHdYEHdZAHcTAH",
    "cTAILED AINdDADdDOTLESS NOONeQAFdGHAINdHAHdJEEMdKHAHdLAMdNOONdQAFdSADdSEENdSHEENdYEHcTEH",
    "cTHALcTHEHcWAWcYEHcZAHcZAINbNUMBER MARK ABOVEcSIGNbOPEN DAMMATANcFATHATANcKASRATAN",
    "bPERCENT SIGNbPIASTRE MARK ABOVEbPLACE OF SAJDAH"],
  ["aARABIC POETIC VERSE SIGNbPOUND MARK ABOVEbQUESTION MARKbRAISED ROUND DOTbRAY",
    "bREVERSED DAMMAbRIGHT ARROWHEAD ABOVEeWITH DOTdBELOWbROUNDED HIGH STOP WITH FILLED CENTRE",
    "bSEMICOLONbSHADDAcISOLATED FORMcMEDIAL FORMbSIGN ALAYHE ASSALLAMcMISRAcRADI ALLAHOU ANHU",
    "cRAHMATULLAH ALAYHEcSAFHAcSALLALLAHOU ALAYHE WASSALLAMcSAMVATcSANAHcSINDHI AMPERSAND",
    "dPOSTPOSITION MENcTAKHALLUSbSMALL DAMMAcFARSI YEHcFATHAcHIGH AINdDOTLESS HEAD OF KHAH",
    "dFARSI YEHdFOOTNOTE MARKERdJEEMdLAM ALEFdLIGATURE ALEF WITH LAM WITH YEH",
    "eQAF WITH LAM WITH ALEF MAKSURAeSAD WITH LAM WITH ALEF MAKSURAdMADDAdMEEM INITIAL FORM",
    "eISOLATED FORMdNOONeWITH KASRAdQAFdROUNDED ZEROdSADdSEENdSIGN SAFHAdTAHdTHREE DOTS",
    "dUPRIGHT RECTANGULAR ZEROdWAWdWORD AL-JUZeAN-NISFeAR-RUBeAS-SAJDAeATH-THALATHAeQIFeSAH",
    "eSAKTAeWAQFAdYEHeBARREE WITH TWO DOTS BELOWdZAHdZAINcKASRAcLOW MEEMdNOON WITH KASRAdSEEN",
    "dWAWdWORD IMAALAeISHMAAMeTASHEELcWAWcYEHbSTART OF RUB EL HIZBbSUBSCRIPT ALEFbSUKUNcBELOW",
    "cISOLATED FORMcMEDIAL FORMbSUPERSCRIPT ALEF MOKHASSASbSYMBOL DOT ABOVEdBELOW",
    "cDOUBLE VERTICAL BAR BELOWcFOUR DOTS ABOVEeBELOWcRINGcSMALL TAH ABOVEeBELOW",
    "cTHREE DOTS ABOVEeBELOWePOINTING DOWNWARDS ABOVEgBELOWcTWO DOTS ABOVEeBELOW",
    "eVERTICALLY ABOVEfBELOWcWASLA ABOVEbTAIL FRAGMENTbTATWEELcWITH FATHATAN ABOVE",
    "dOVERSTRUCK HAMZAeWAWdTWO DOTS BELOWbTHOUSANDS SEPARATORbTONE LOOP ABOVEdBELOW",
    "cONE DOT ABOVEeBELOWcTWO DOTS ABOVEeBELOWbTRIPLE DOT PUNCTUATION MARKbTURNED DAMMA BELOW",
    "bVERTICAL TAILbVOWEL SIGN DOT BELOWdINVERTED SMALL V ABOVEdSMALL V ABOVEbWAVY HAMZA BELOW",
    "bZWARAKAYaARABIC-INDIC CUBE ROOTbDIGIT EIGHTcFIVEcFOURcNINEcONEcSEVENcSIXcTHREEcTWOcZERO",
    "bFOURTH ROOTbPER MILLE SIGNcTEN THOUSAND SIGNaARCaARIESaARMENIAN ABBREVIATION MARK",
    "bAPOSTROPHEbCAPITAL LETTER AYBdBENdCAdCHAdCHEHdCOdDAdECHdEHdETdFEHdGHADdGIMdHOdINIdJAdJHEH",
    "dKEHdKENdLIWNdMENdNOWdOHdPEHdPIWRdRAdREHdSEHdSHAdTIWNdTOdVEWdVOdXEHdYIdYIWNdZAdZHEbCOMMA",
    "bDRAM SIGNbEMPHASIS MARKbEXCLAMATION MARKbFULL STOPbHYPHENbMODIFIER LETTER LEFT HALF RING",
    "bQUESTION MARKbSMALL LETTER AYBdBENdCAdCHAdCHEHdCOdDAdECHdEHdETdFEHdGHADdGIMdHOdINIdJA",
    "dJHEHdKEHdKENdLIWNdMENdNOWdOHdPEHdPIWRdRAdREHdSEHdSHAdTIWNdTOdTURNED AYBdVEWdVOdXEHdYI",
    "eWITH STROKEdYIWNdZAdZHEcLIGATURE ECH YIWNdMEN ECHeINIeNOWeXEHdVEW NOW",
    "aARROW POINTING DOWNWARDS THEN CURVING LEFTWARDSfRIGHTWARDS",
    "cRIGHTWARDS THEN CURVING DOWNWARDSfSOUTH WESTfUPWARDScUPWARDS THEN NORTH WEST",
    "aARROWHEAD-SHAPED POINTERaARTICULATED LORRYaARTIST PALETTEaASCENDING NODEaASCIA SYMBOL",
    "aASSERTIONaASTERISKbOPERATORaASTERISMaASTONISHED FACEaASTRAEA",
    "aASTRONOMICAL SYMBOL FOR URANUSaASYMPTOTICALLY EQUAL TOaATHLETIC SHOEaATOM SYMBOL",
    "aAUBERGINEaAUSTRAL SIGNaAUTO RICKSHAWaAUTOMATED TELLER MACHINEaAUTOMOBILE",
    "aAVESTAN ABBREVIATION MARKbLETTER AcAAcAANcAAOcAEcAEEcANcAOcBEcBHEcCEcDEcDHEcEcEEcFEcGE",
    "cGGEcGHEcHEcHMEcIcIIcJEcKEcLEcMEcNEcNGEcNGVEcNGYEcNNEcNYEcOcOOcPEcREcSEcSHEcSHYEcSSHEcTE",
    "cTHEcTTEcUcUUcVEcXEcXVEcXYEcYEcYYEcZEcZHEaAVOCADOaAXE"],
  ["aBABYbANGELbBOTTLEbCHICKbSYMBOLaBACK OF ENVELOPEbWITH LEFTWARDS ARROW ABOVE",
    "aBACK-TILTED SHADOWED WHITE RIGHTWARDS ARROWaBACKSLANTED SOUTH ARROW WITH HOOKED TAIL",
    "eHORIZONTAL TAILaBACKSPACEaBACONaBACTRIAN CAMELaBADGERaBADMINTON RACQUET AND SHUTTLECOCK",
    "aBAGELaBAGGAGE CLAIMaBAGUETTE BREADaBALINESE ADEG ADEGbCARIK PAMUNGKAHcPARERENcSIKI",
    "bDIGIT EIGHTcFIVEcFOURcNINEcONEcSEVENcSIXcTHREEcTWOcZERObLETTER AIKARAcAKARAdTEDUNG",
    "cARCHAIC JNYAcASYURA SASAKcBAdKEMBANGcCAdLACAcDAdMADUdMURDA ALPAPRANAeMAHAPRANAcEF SASAK",
    "cEKARAcGAdGORAcHAcIKARAdTEDUNGcJAdJERAcKAdMAHAPRANAcKAF SASAKcKHOT SASAKcLAdLENGAeTEDUNG",
    "cMAcNAdRAMBATcNGAcNYAcOKARAdTEDUNGcPAdKAPALcRAdREPAeTEDUNGcSAdSAGAdSAPAcTAdLATIK",
    "dMURDA MAHAPRANAdTAWAcTZIR SASAKcUKARAdTEDUNGcVE SASAKcWAcYAcZAL SASAK",
    "bMUSICAL SYMBOL COMBINING BENDEeENDEPeGONGeJEGOGANeKEMPLIfWITH JEGOGANeKEMPULfWITH JEGOGAN",
    "eTEGEHdDAENGdDAINGdDANGeGEDEeSURANGdDENGdDEUNGdDINGdDONGdDUNGdLEFT-HAND CLOSED PLAKfPLUK",
    "eOPEN PANGfPINGfPUNGdRIGHT-HAND CLOSED TAKfTUKeOPEN DAGfDUGbPAMADAcLANTANGbPAMENENGbPANTI",
    "cLANTANGbSIGN BISAHcCECEKcREREKANcSURANGcULU CANDRAdRICEMbVOWEL SIGN LA LENGAfTEDUNGdPEPET",
    "eTEDUNGdRA REPAfTEDUNGdSUKUeILUTdTALINGeREPAfTEDUNGeTEDUNGdTEDUNGdULUeSARIbWINDU",
    "aBALL OF YARNaBALLET SHOESaBALLOONaBALLOON-SPOKED ASTERISKaBALLOT BOLD SCRIPT XbBOX",
    "cWITH BALLOTdBOLD CHECKeSCRIPT XdCHECKdLIGHT XdSCRIPT XdXbSCRIPT XbXaBAMUM COLON",
    "bCOMBINING MARK KOQNDONdTUKWENTISbCOMMAbFULL STOPbLETTER AcEEcFAAMAEcFEEcFOMcFUcIcKAcKEN",
    "cKETcKEUXcKIcKOcKOGHOMcKOVUUcKPAcKUcKYEEcLAcLEEEEcLIcLOQcLUcMcMAcMBAAcMBENcMEEEEcMENcMIcMO",
    "cMUcNAcNDAAcNGAcNGGAcNGKWAENcNIcNJAEMcNJEEcNJUAEcNSHAcNTEEcNTUUcNUcNUAEcNYIcOcPAcPEEcPEUX",
    "cPHASE-A FIRIdGBIEE FONdGHEUAEGHEUAEdGHEUAERAEdKAFAdKAQdKETdKEUKEUTNDAdKPOQdKUOQdLAPAQ",
    "dLET KUTdLOMMAEdLUdLUAEPdMAEKEUPdMAEMdMAEMBGBIEEdMAEMKPENdMAEMVEUXdMAENYIdMAESIdMANSUAE",
    "dMAP PIEETdMBANYIdMBAQdMEUNJOMNDEUQdMGBASAdMON NGGEUAETdMOOMEUTdMOOMPUQdMVEUAENGAM",
    "dNAA MFONdNAQdNDA LEERAEWAdNDAANGGEUAETdNENdNGANGUdNGGENdNGKUE MFONdNGKUENZEUMdNIKAdNJAM",
    "dNKAARAEdNKINDIdNSHAdNSHIEEdNTAPeMFAAeNTAAdNTOQPENdNYETdNYIdNYIT MONGKEUAEQdNZA MFON",
    "dNZUN MEUTdPA LEERAEWAdPAAMdPAARAEdPAMSHAEdPASHAEdPETdPON MFON PIPAEMBAfPIPAEMGBIEE",
    "ePA NJI PIPAEMBAgPIPAEMGBIEEdPUPdROMdSEUNYAMdSHINDA PA NJIdSHIRAEdSHOQ NSHUT YUM",
    "dSHUENSHUETdSHUMdSISAdSONJAMdSOQdSOTdSUUdTEUAENdTEUTEUWENdTITA MFONdTU MAEMBAdTUAEP",
    "dU YUQ NAEdUNKNOWNdVEEcPHASE-B FEEdFEUXdGHEUGHENdGHEUGHEUAEMdKAMdKEUAEMdKEUPUQdKEUYEUX",
    "dKIEEMdKIQdLAANAEdLAM NSHUT NYAMdLETdLOM NTEUMdMAeNJEUAENAeNJUQAdMBA MAELEEdMBAARAEdMBEURI",
    "dMBIT MBAAKETdMBUOQdMEUQdMEUT NGGEETdMFIYAQdMFON TEUAEQdMONTIEENdNDU NJAAdNGGAAMdNGGEU MBU",
    "dNGGUOQeLARGEdNGKINDI MVOPdNGOMdNSENdNSHUETdNTIEE SHEUOQdNYAEMAEdNYI NTEUMdPARUMdPEESHI",
    "dPITdPUNGAAMdSAKEUAEdSET TUdSHET NJAQdSHEUAEQTUdSIEEdSUEdTAAMdTU MAEMGBIEEeNSIEEdVEUM",
    "dWUAETdYAFU LEERAEWAdYEURAEcPHASE-C BUNGdFUEdGBAYIdGHAPdGHARAEdKAAdKEN FATIGUEeLAWdKET",
    "dKEUKAQdKEUMdKEUSEUXdKEUSHEUAEPdKPARAQdKUOP NKAARAEdKUTdLAMdLAPdLIQdLUdMA KEUAERIeNSIEE",
    "dMAEMBAdMAESIdMBAA CABBAGE-TREEePICKETdMBANYIdMBEEKEETdMBERAEdMBEUMdMBEUXdMBIdMBIRIEEN",
    "dMBITdMBUAEMdMBUEdMGBASAQdMIEEdMUAEdNANSANAQdNAQdNDAMdNDAPdNDEUAEREEdNDEUTdNDIDAdNDOMBU",
    "dNGAQdNGGENdNGGUdNGGUAEN NYAMdNGGUEETdNGGUMdNGGUONdNGKAQdNGKUE MAEMBAdNGOMdNJAEMdNJAM",
    "dNJEEEEdNJEUXdNJUEQdNSAdNSEUAENdNSHAQdNSOMdNSUNdNSUOT NGOMdNTAAdNTENdNTEUNGBAdNTU MBIT",
    "dNYIR MKPARAQ MEUNdNZAdNZEUMdPENdPINdPIRIEENdRUdSETFONdSEUXdSHIQdSHUEQdSUAETdTAASHAEdTET",
    "dTEUTEUXdTITA YUEdTITUAEPdVEUAEPENdVEUXdWANGKUOQdWUPdYAAdYEUQdYU MUOMAEdYUMdYUWOQ",
    "cPHASE-D FAAdFEUFEUAETdGHAAdGHEUAEdKETdKEUAETMEUNdKEUMdKEUOT MBUAEdKEUPdKUdKUNdKUOMdKUQ",
    "dKWAETdKYEEdLEEEEdLETdLEUAEPdLEUMdLIEEdLOQdLUMdMdMAENJETdMALEERIdMBAAeSEVENdMBUOdMEEEE",
    "dMEUNdMEUTdMFEUAEdMFEUTdMFIEEdMFOdMFONdMGBEUNdMGBIEEdMGBOFUMdMONIdMUdMVOPdNDAMdNDEEdNDEUX",
    "dNDONdNGGAAMdNGGAAMAEdNGGAPdNGGEUXdNGGUOMdNGGWAENdNGKAPdNGKEUAEQdNGKEURIdNGKIEEdNGKUN",
    "dNGKYEEdNIdNJAPdNJEUAEMdNJEUTdNJIdNJIEEdNJUEQdNSHEEdNSHUTdNSIEEPdNSIEETdNSUMdNTEEdNTEUM",
    "dNTUUdNUdNYAMdNYETdNYIdNYUEdPAPdPEEdPEUTAEdPIPdPUQdPUUTdRAEMdREN MUCHeOLDdRIIdSAPdSAQ",
    "dSEUAEQdSHEEdSHEUAEdSHEUXdSHIIdSHOQdSHUdSOTdSUAEdSUEdSUUdTAEdTEEEEdTEUAENdTEUNdTEUTdTIdTOQ",
    "dTUdTUOTdWAPdWUAENdYAEMMAEdYENdYUOMdYUOPdYUWOQcPHASE-E AdFAdFAQdFEEdFOMdFU CALLeIeREMEDY",
    "dFUEdFUETdGBETdGBEUXdGHAAMAEdGHETdGHEUAEdGHEUNdGHEUXdGHOMdIdKETdKEUAEdKEUXdKIdKOdKPEUX",
    "dKUETdKUOPdKUTdLAAMdLAPdLAQdLEUAEMdLOMdLOONdLOOTdLOQdLUdMAdMAEdMAEMdMAPdMAQdMBEEdMBEUMdMEN",
    "dMFEUQdMGBAdMGBENdMIdMIEEdMONdMUAEdMVIdNAdNAEdNDAA MY HOUSEeSOFTNESSdNDAPdNDIAQdNDIQdNDUN",
    "dNGAdNGEUREUTdNGGEEEEdNGGEUAEdNGGEUAETdNGGUAESHAE NYAMdNGGUPdNGGURAEdNGKAdNGKAAMIdNGKEUAEM",
    "dNGKEUXdNGKUMdNGKUPdNGOPdNGOQdNGUAEdNGUAETdNJAEMLIdNJEEeEPOCHdNJEUXdNKOMdNSHIEEdNSHUE",
    "dNSHUOPdNTAPdNTUMdNYI BETWEENeCLEAVERdNZAQdNZUQdOdPA PEOPLEePLURALdPAAdPAAMdPEEMdPEUTdPEUX",
    "dPIdPIEEQdPIETdPOdPOONdPUdPUAEdPUAQdPUEdPUMdRAEdRAQdREUXdRIMGBAdSAAdSEEdSETdSHEUAEQdSHIQ",
    "dSHOdSHOQdSOMdSUAENdTAAdTAAQdTAEN NTEUMdTAMdTAQdTENdTEUdTEUAEQdTOOdTOONdTOQdTUAEdTUMdTUMAE",
    "dVEEdVEUAEdVOMdWEUXdWUEdWUOdYAPdYEUAEdYEUAETdYEUMdYEUXdYIEEdYITdYOQ COVEReSWIMMINGdYUAEN",
    "dYUEQdYUNdYUQcPHASE-F EEdFOMdKAdKENdKETdKOdKPAdKUdKYEEdLAdLIdLOQdMdMAdMBAAdMBENdMEEEEdMO",
    "dNDAAdNGGAdNGKWAENdNIdNJAEMdNJUAEdNSHAdNTEEdNUdNUAEdNYIdPEEdPEUXdPUAEdREEdRENdREUXdRIEE",
    "dRIIdRUdSAMBAdSEUXdSHIIdSHOdSHUdSIdSUUdTAAdTAEdTETdUdVUEQdWAdWUEdYAdYOQcPIcPUAEcPUEcRAE",
    "cREEcRENcREUXcRIEEcRIIcRUcSAMBAcSEUXcSHEUXcSHIIcSHOcSHUcSIcSUUcTAAcTAEcTENcTETcTIcUcWAcWUE",
    "cYAcYOQcYUQbNJAEMLIbQUESTION MARKbSEMICOLONaBANANAaBANJOaBANKaBANKNOTE WITH DOLLAR SIGN",
    "cEURO SIGNcPOUND SIGNcYEN SIGNaBAR CHARTbOF SOAPaBARBER POLEaBASEBALLaBASKET",
    "aBASKETBALL AND HOOPaBASSA VAH COMBINING HIGH TONEdHIGH-LOW TONEdLOW TONEdLOW-MID TONE",
    "dMID TONEcFULL STOPcLETTER AdBAdCEdDHIIdDOdEdEEdENNIdFAdGAHdGBUdHWAHdIdJOdKAdKPAHdMBEdOdOO",
    "dPAdSEdTOdUdUWUdVUdWAdWADDAdYEINdYIEdZOaBATaBATAK CONSONANT SIGN HdNGbLETTER AcBAcCAcDAcGA",
    "cHAcIcJAcKARO BAcLAcMAcMANDAILING HAdNAdSAcMBAcNAcNDAcNGAcNORTHERN TAcNYAcPAcPAKPAK WAcRA",
    "cSAcSIMALUNGUN AdGAdHAdLAdMAdPAdRAdSAdWAdYAcSOUTHERN TAcUcWAcYAbPANGOLATbPANONGONAN",
    "bSIGN TOMPIbSYMBOL BINDU JUDULdNA METEKdPANGOLATdPINARBORASbVOWEL SIGN EdEEdIdKARO IeOdO",
    "dPAKPAK EdUeFOR SIMALUNGUN SAaBATHaBATHTUBaBATTERYaBEACH WITH UMBRELLA"],
  ["aBEAMED ASCENDING MUSICAL NOTESbDESCENDING MUSICAL NOTESbEIGHTH NOTESbSIXTEENTH NOTES",
    "aBEANSaBEAR FACEaBEARDED PERSONaBEATING HEARTaBEAVERaBECAUSEaBEDaBEER MUGaBEETLEaBELaBELL",
    "bPEPPERbSYMBOLbWITH CANCELLATION STROKEaBELLHOP BELLaBENGALI ABBREVIATION SIGNbANJI",
    "bAU LENGTH MARKbCURRENCY DENOMINATOR SIXTEENcNUMERATOR FOURdONEeLESS THAN THE DENOMINATOR",
    "dTHREEdTWObDIGIT EIGHTcFIVEcFOURcNINEcONEcSEVENcSIXcTHREEcTWOcZERObGANDA MARKbISSHAR",
    "bLETTER AcAAcAIcAUcBAcBHAcCAcCHAcDAcDDAcDDHAcDHAcEcGAcGHAcHAcIcIIcJAcJHAcKAcKHAcKHANDA TA",
    "cLAcMAcNAcNGAcNNAcNYAcOcPAcPHAcRAdWITH LOWER DIAGONALeMIDDLE DIAGONALcRHAcRRAcSAcSHAcSSA",
    "cTAcTHAcTTAcTTHAcUcUUcVEDIC ANUSVARAcVOCALIC LdLLdRdRRcYAcYYAbRUPEE MARKcSIGNbSANDHI MARK",
    "bSIGN ANUSVARAcAVAGRAHAcCANDRABINDUcNUKTAcVIRAMAcVISARGAbVOWEL SIGN AAdAIdAUdEdIdIIdOdUdUU",
    "dVOCALIC LeLLeReRRaBENT ARROW POINTING DOWNWARDS THEN NORTH EASTaBENTO BOXaBENZENE RING",
    "cWITH CIRCLEaBET SYMBOLaBETWEENaBEVERAGE BOXaBHAIKSUKI DANDAbDIGIT EIGHTcFIVEcFOURcNINE",
    "cONEcSEVENcSIXcTHREEcTWOcZERObDOUBLE DANDAbGAP FILLER-1cFILLER-2bHUNDREDS UNIT MARK",
    "bLETTER AcAAcAIcAUcBAcBHAcCAcCHAcDAcDDAcDDHAcDHAcEcGAcGHAcHAcIcIIcJAcJHAcKAcKHAcLAcMAcNA",
    "cNGAcNNAcNYAcOcPAcPHAcRAcSAcSHAcSSAcTAcTHAcTTAcTTHAcUcUUcVAcVOCALIC LdRdRRcYAbNUMBER EIGHT",
    "cEIGHTYcFIFTYcFIVEcFORTYcFOURcNINEcNINETYcONEcSEVENcSEVENTYcSIXcSIXTYcTENcTHIRTYcTHREE",
    "cTWENTYcTWObSIGN ANUSVARAcAVAGRAHAcCANDRABINDUcVIRAMAcVISARGAbVOWEL SIGN AAdAIdAUdEdIdIIdO",
    "dUdUUdVOCALIC LeReRRbWORD SEPARATORaBICYCLEaBICYCLISTaBIG REVERSE SOLIDUSbSOLIDUSaBIKINI",
    "aBILLED CAPaBILLIARDSaBIOHAZARD SIGNaBIRDaBIRTHDAY CAKEaBISONaBITCOIN SIGNaBITING LIP",
    "aBLACK BOWTIEbCENTRE WHITE STARbCHESS BISHOPdROTATED NINETY DEGREES",
    "eTWO HUNDRED SEVENTY DEGREEScEQUIHOPPERdROTATED NINETY DEGREEScKINGdROTATED NINETY DEGREES",
    "eTWO HUNDRED SEVENTY DEGREEScKNIGHTdROTATED FORTY-FIVE DEGREESeNINETY DEGREES",
    "eONE HUNDRED THIRTY-FIVE DEGREESeTHREE HUNDRED FIFTEEN DEGREESeTWO HUNDRED SEVENTY DEGREES",
    "gTWENTY-FIVE DEGREEScKNIGHT-BISHOPcKNIGHT-QUEENcKNIGHT-ROOKcPAWNdROTATED NINETY DEGREES",
    "eTWO HUNDRED SEVENTY DEGREEScQUEENdROTATED NINETY DEGREESeTWO HUNDRED SEVENTY DEGREEScROOK",
    "dROTATED NINETY DEGREESeTWO HUNDRED SEVENTY DEGREEScTURNED BISHOPdKINGdKNIGHTdPAWNdQUEEN",
    "dROOKbCIRCLEcFOR RECORDcWITH DOWN ARROWdTWO WHITE DOTSdWHITE DOT RIGHTbCLUB SUIT",
    "bCROSS ON SHIELDbCURVED DOWNWARDS AND LEFTWARDS ARROWeRIGHTWARDS ARROW",
    "cLEFTWARDS AND DOWNWARDS ARROWeUPWARDS ARROWcRIGHTWARDS AND DOWNWARDS ARROWeUPWARDS ARROW",
    "cUPWARDS AND LEFTWARDS ARROWeRIGHTWARDS ARROWbDIAMONDcCENTREDcMINUS WHITE XcON CROSScSUIT",
    "cWITH DOWN ARROWbDOWN POINTING BACKHAND INDEXbDOWN-POINTING DOUBLE TRIANGLE",
    "cISOSCELES RIGHT TRIANGLEcSMALL TRIANGLEcTRIANGLEbDOWNWARDS EQUILATERAL ARROWHEAD",
    "bDRAUGHTS KINGcMANbDROPLETbFLAGbFLORETTEbFOLDERbFOUR POINTED STARbHARD SHELL FLOPPY DISK",
    "bHEARTcSUITbHEXAGONbHORIZONTAL ELLIPSEbHOURGLASSbLARGE CIRCLEcSQUAREbLEFT LANE MERGE",
    "cPOINTING BACKHAND INDEXdINDEXbLEFT-POINTING DOUBLE TRIANGLEeWITH VERTICAL BAR",
    "cISOSCELES RIGHT TRIANGLEcPOINTERcSMALL TRIANGLEcTRIANGLEbLEFTWARDS BULLET",
    "cEQUILATERAL ARROWHEADbLOWER LEFT TRIANGLEcRIGHT TRIANGLEbLOZENGEbMEDIUM DIAMOND",
    "cDOWN-POINTING TRIANGLEeCENTREDcLEFT-POINTING TRIANGLEeCENTREDcLOZENGE",
    "cRIGHT-POINTING TRIANGLEeCENTREDcSMALL DIAMONDdLOZENGEdSQUAREcSQUAREcUP-POINTING TRIANGLE",
    "eCENTREDbMOON LILITHbNIBbOCTAGONbPARALLELOGRAMbPENNANTbPENTAGONbPUSHPIN",
    "bQUESTION MARK ORNAMENTbRECTANGLEbRIGHT POINTING BACKHAND INDEXdINDEX",
    "bRIGHT-POINTING DOUBLE TRIANGLEeWITH VERTICAL BARcISOSCELES RIGHT TRIANGLEcPENTAGON",
    "cPOINTERcSMALL TRIANGLEcTRIANGLEdWITH DOUBLE VERTICAL BARbRIGHTWARDS ARROWcARROWHEAD",
    "cBULLETcEQUILATERAL ARROWHEADbROSETTEbSAFETY SCISSORSbSCISSORSbSHOGI PIECE",
    "bSKULL AND CROSSBONESbSLIGHTLY SMALL CIRCLEdSQUAREbSMALL DIAMONDcLOZENGEcSQUAREcSTAR",
    "bSMILING FACEbSNOWMANbSPADE SUITbSQUAREcBUTTONcCENTREDcFOR STOPbSTARbSUN WITH RAYS",
    "bTELEPHONEbTINY DIAMONDcLOZENGEcSQUAREbTOUCHTONE TELEPHONEbTRUCKbTWO-WAY LEFT WAY TRAFFIC",
    "bUNIVERSAL RECYCLING SYMBOLbUP POINTING BACKHAND INDEXbUP-POINTING DOUBLE TRIANGLE",
    "cISOSCELES RIGHT TRIANGLEcSMALL TRIANGLEcTRIANGLEbUPPER LEFT TRIANGLEcRIGHT TRIANGLE",
    "bUPWARDS EQUILATERAL ARROWHEADbVERTICAL ELLIPSEcRECTANGLEbVERY SMALL DIAMONDdLOZENGE",
    "dSQUAREaBLACK-FEATHERED NORTH EAST ARROWbRIGHTWARDS ARROWbSOUTH EAST ARROW",
    "aBLACK-LETTER CAPITAL CcHcIcRcZaBLANK SYMBOLaBLOCK SEXTANT-1bSEXTANT-12bSEXTANT-123",
    "bSEXTANT-1234bSEXTANT-12345bSEXTANT-12346bSEXTANT-1235bSEXTANT-12356bSEXTANT-1236",
    "bSEXTANT-124bSEXTANT-1245bSEXTANT-12456bSEXTANT-1246bSEXTANT-125bSEXTANT-1256bSEXTANT-126",
    "bSEXTANT-13bSEXTANT-134bSEXTANT-1345bSEXTANT-13456bSEXTANT-1346bSEXTANT-1356bSEXTANT-136",
    "bSEXTANT-14bSEXTANT-145bSEXTANT-1456bSEXTANT-146bSEXTANT-15bSEXTANT-156bSEXTANT-16",
    "bSEXTANT-2bSEXTANT-23bSEXTANT-234bSEXTANT-2345bSEXTANT-23456bSEXTANT-2346bSEXTANT-235",
    "bSEXTANT-2356bSEXTANT-236bSEXTANT-24bSEXTANT-245bSEXTANT-2456bSEXTANT-25bSEXTANT-256",
    "bSEXTANT-26bSEXTANT-3bSEXTANT-34bSEXTANT-345bSEXTANT-3456bSEXTANT-346bSEXTANT-35",
    "bSEXTANT-356bSEXTANT-36bSEXTANT-4bSEXTANT-45bSEXTANT-456bSEXTANT-46bSEXTANT-5bSEXTANT-56",
    "bSEXTANT-6aBLOSSOMaBLOWFISHaBLUE BOOKbHEARTaBLUEBERRIESaBOARaBOLD EIGHT SPOKED ASTERISK",
    "bFIVE SPOKED ASTERISKbGREEK CROSSbSALTIREbSIX SPOKED ASTERISKbWHITE CIRCLEcSQUAREaBOMaBOMB",
    "aBONEaBOOKaBOOKMARKbTABSaBOOKSaBOOMERANGaBOPOMOFO FINAL LETTER GdHdKdPdTbLETTER AcAHcAI",
    "cAINNcAMcANcANGcANNcAUcAUNNcBcBUcCcCHcDcEcEEcEHcEIcENcENGcENNcERcFcGcGHcGNcGUcGWcHcIcIHcIM",
    "cINNcINNNcIRcIUcJcJIcKcKWcLcLHcMcNcNGcNGGcNNcOdWITH DOT ABOVEcOEcOMcONGcONNcOOcOUcPcQcRcS",
    "cSHcTcUcUNNcVcXcZcZHcZIcZYaBOTTLE WITH POPPING CORKaBOTTOM ARC ANTICLOCKWISE ARROW",
    "bCURLY BRACKETbHALF BLACK CIRCLEcINTEGRALcLEFT PARENTHESIScRIGHT PARENTHESISbLEFT CORNER",
    "cCROPcHALF BRACKETbPARENTHESISbRIGHT CORNERcCROPcHALF BRACKETbSQUARE BRACKET",
    "dOVER TOP SQUARE BRACKETbTORTOISE SHELL BRACKETaBOUQUETbOF FLOWERSaBOW AND ARROW",
    "aBOWL OF HYGIEIAbWITH SPOONaBOWLINGaBOWTIEbWITH LEFT HALF BLACKcRIGHT HALF BLACK",
    "aBOX DRAWINGS DOUBLE DOWN AND HORIZONTALfLEFTfRIGHTdHORIZONTALdUP AND HORIZONTALfLEFT",
    "fRIGHTdVERTICALeAND HORIZONTALfLEFTfRIGHTcDOWN DOUBLE AND HORIZONTAL SINGLEfLEFT SINGLE",
    "fRIGHT SINGLEdHEAVY AND HORIZONTAL LIGHTfLEFT LIGHTgUP LIGHT"],
  ["aBOX DRAWINGS DOWN HEAVY AND RIGHT LIGHTgUP LIGHTfUP HORIZONTAL LIGHT",
    "dLIGHT AND HORIZONTAL HEAVYfLEFT HEAVYgUP HEAVYfRIGHT HEAVYgUP HEAVYfUP HORIZONTAL HEAVY",
    "dSINGLE AND HORIZONTAL DOUBLEfLEFT DOUBLEfRIGHT DOUBLEcHEAVY DOUBLE DASH HORIZONTAL",
    "fVERTICALdDOWNeAND HORIZONTALfLEFTfRIGHTdHORIZONTALdLEFTeAND LIGHT RIGHT",
    "dQUADRUPLE DASH HORIZONTALfVERTICALdRIGHTdTRIPLE DASH HORIZONTALfVERTICALdUP",
    "eAND HORIZONTALfLEFTfLIGHT DOWNfRIGHTdVERTICALeAND HORIZONTALfLEFTfRIGHT",
    "cLEFT DOWN HEAVY AND RIGHT UP LIGHTdHEAVY AND RIGHT DOWN LIGHTgUP LIGHTgVERTICAL LIGHT",
    "dLIGHT AND RIGHT DOWN HEAVYgUP HEAVYgVERTICAL HEAVYdUP HEAVY AND RIGHT DOWN LIGHT",
    "cLIGHT ARC DOWN AND LEFTgRIGHTeUP AND LEFTgRIGHTdDIAGONAL CROSSeDIAMOND",
    "eMIDDLE LEFT TO LOWER CENTREjTO MIDDLE RIGHThUPPER CENTRE TO MIDDLE RIGHTmTO LOWER CENTRE",
    "fRIGHT TO LOWER CENTREhUPPER CENTRE TO MIDDLE LEFT TO LOWER CENTRE",
    "eUPPER CENTRE TO MIDDLE LEFTjAND MIDDLE RIGHT TO LOWER CENTREjTO LOWER CENTRE",
    "mTO MIDDLE RIGHTiRIGHTjAND MIDDLE LEFT TO LOWER CENTREjTO LOWER CENTREmTO MIDDLE LEFT",
    "fLEFT TO LOWER RIGHTfRIGHT TO LOWER LEFTdDOUBLE DASH HORIZONTALfVERTICALdDOWN",
    "eAND HORIZONTALfLEFTfRIGHTdHORIZONTALeWITH VERTICAL STROKEdLEFTeAND HEAVY RIGHT",
    "dQUADRUPLE DASH HORIZONTALfVERTICALdRIGHTdTRIPLE DASH HORIZONTALfVERTICALdUP",
    "eAND HEAVY DOWNfHORIZONTALfLEFTfRIGHTdVERTICALeAND HORIZONTALfLEFTfRIGHT",
    "cRIGHT DOWN HEAVY AND LEFT UP LIGHTdHEAVY AND LEFT DOWN LIGHTgUP LIGHTgVERTICAL LIGHT",
    "dLIGHT AND LEFT DOWN HEAVYgUP HEAVYgVERTICAL HEAVYdUP HEAVY AND LEFT DOWN LIGHT",
    "cUP DOUBLE AND HORIZONTAL SINGLEfLEFT SINGLEfRIGHT SINGLEdHEAVY AND DOWN HORIZONTAL LIGHT",
    "fHORIZONTAL LIGHTfLEFT DOWN LIGHTgLIGHTfRIGHT DOWN LIGHTgLIGHT",
    "dLIGHT AND DOWN HORIZONTAL HEAVYfHORIZONTAL HEAVYfLEFT DOWN HEAVYgHEAVYfRIGHT DOWN HEAVY",
    "gHEAVYdSINGLE AND HORIZONTAL DOUBLEfLEFT DOUBLEfRIGHT DOUBLE",
    "cVERTICAL DOUBLE AND HORIZONTAL SINGLEfLEFT SINGLEfRIGHT SINGLEdHEAVY AND HORIZONTAL LIGHT",
    "fLEFT LIGHTfRIGHT LIGHTdLIGHT AND HORIZONTAL HEAVYfLEFT HEAVYfRIGHT HEAVY",
    "dSINGLE AND HORIZONTAL DOUBLEfLEFT DOUBLEfRIGHT DOUBLEaBOXING GLOVEaBOYaBOYS SYMBOLaBPH",
    "aBRAHMI DANDAbDIGIT EIGHTcFIVEcFOURcNINEcONEcSEVENcSIXcTHREEcTWOcZERObDOUBLE DANDA",
    "bLETTER AcAAcAIcAUcBAcBHAcCAcCHAcDAcDDAcDDHAcDHAcEcGAcGHAcHAcIcIIcJAcJHAcKAcKHAcLAcLLAcMA",
    "cNAcNGAcNNAcNYAcOcOLD TAMIL LLAeLLLAeNNNAeRRAeSHORT EfOcPAcPHAcRAcSAcSHAcSSAcTAcTHAcTTA",
    "cTTHAcUcUUcVAcVOCALIC LdLLdRdRRcYAbNUMBER EIGHTcEIGHTYcFIFTYcFIVEcFORTYcFOURcJOINERcNINE",
    "cNINETYcONEdHUNDREDdTHOUSANDcSEVENcSEVENTYcSIXcSIXTYcTENcTHIRTYcTHREEcTWENTYcTWO",
    "bPUNCTUATION CRESCENT BARcDOTcDOUBLE DOTcLINEcLOTUSbSIGN ANUSVARAcCANDRABINDUcJIHVAMULIYA",
    "cOLD TAMIL VIRAMAcUPADHMANIYAcVISARGAbVIRAMAbVOWEL SIGN AAdAIdAUdBHATTIPROLU AAdEdIdIIdO",
    "dOLD TAMIL SHORT EgOdUdUUdVOCALIC LeLLeReRRaBRAILLE PATTERN BLANKcDOTS-1cDOTS-12cDOTS-123",
    "cDOTS-1234cDOTS-12345cDOTS-123456cDOTS-1234567cDOTS-12345678cDOTS-1234568cDOTS-123457",
    "cDOTS-1234578cDOTS-123458cDOTS-12346cDOTS-123467cDOTS-1234678cDOTS-123468cDOTS-12347",
    "cDOTS-123478cDOTS-12348cDOTS-1235cDOTS-12356cDOTS-123567cDOTS-1235678cDOTS-123568",
    "cDOTS-12357cDOTS-123578cDOTS-12358cDOTS-1236cDOTS-12367cDOTS-123678cDOTS-12368cDOTS-1237",
    "cDOTS-12378cDOTS-1238cDOTS-124cDOTS-1245cDOTS-12456cDOTS-124567cDOTS-1245678cDOTS-124568",
    "cDOTS-12457cDOTS-124578cDOTS-12458cDOTS-1246cDOTS-12467cDOTS-124678cDOTS-12468cDOTS-1247",
    "cDOTS-12478cDOTS-1248cDOTS-125cDOTS-1256cDOTS-12567cDOTS-125678cDOTS-12568cDOTS-1257",
    "cDOTS-12578cDOTS-1258cDOTS-126cDOTS-1267cDOTS-12678cDOTS-1268cDOTS-127cDOTS-1278cDOTS-128",
    "cDOTS-13cDOTS-134cDOTS-1345cDOTS-13456cDOTS-134567cDOTS-1345678cDOTS-134568cDOTS-13457",
    "cDOTS-134578cDOTS-13458cDOTS-1346cDOTS-13467cDOTS-134678cDOTS-13468cDOTS-1347cDOTS-13478",
    "cDOTS-1348cDOTS-135cDOTS-1356cDOTS-13567cDOTS-135678cDOTS-13568cDOTS-1357cDOTS-13578",
    "cDOTS-1358cDOTS-136cDOTS-1367cDOTS-13678cDOTS-1368cDOTS-137cDOTS-1378cDOTS-138cDOTS-14",
    "cDOTS-145cDOTS-1456cDOTS-14567cDOTS-145678cDOTS-14568cDOTS-1457cDOTS-14578cDOTS-1458",
    "cDOTS-146cDOTS-1467cDOTS-14678cDOTS-1468cDOTS-147cDOTS-1478cDOTS-148cDOTS-15cDOTS-156",
    "cDOTS-1567cDOTS-15678cDOTS-1568cDOTS-157cDOTS-1578cDOTS-158cDOTS-16cDOTS-167cDOTS-1678",
    "cDOTS-168cDOTS-17cDOTS-178cDOTS-18cDOTS-2cDOTS-23cDOTS-234cDOTS-2345cDOTS-23456",
    "cDOTS-234567cDOTS-2345678cDOTS-234568cDOTS-23457cDOTS-234578cDOTS-23458cDOTS-2346",
    "cDOTS-23467cDOTS-234678cDOTS-23468cDOTS-2347cDOTS-23478cDOTS-2348cDOTS-235cDOTS-2356",
    "cDOTS-23567cDOTS-235678cDOTS-23568cDOTS-2357cDOTS-23578cDOTS-2358cDOTS-236cDOTS-2367",
    "cDOTS-23678cDOTS-2368cDOTS-237cDOTS-2378cDOTS-238cDOTS-24cDOTS-245cDOTS-2456cDOTS-24567",
    "cDOTS-245678cDOTS-24568cDOTS-2457cDOTS-24578cDOTS-2458cDOTS-246cDOTS-2467cDOTS-24678",
    "cDOTS-2468cDOTS-247cDOTS-2478cDOTS-248cDOTS-25cDOTS-256cDOTS-2567cDOTS-25678cDOTS-2568",
    "cDOTS-257cDOTS-2578cDOTS-258cDOTS-26cDOTS-267cDOTS-2678cDOTS-268cDOTS-27cDOTS-278cDOTS-28",
    "cDOTS-3cDOTS-34cDOTS-345cDOTS-3456cDOTS-34567cDOTS-345678cDOTS-34568cDOTS-3457cDOTS-34578",
    "cDOTS-3458cDOTS-346cDOTS-3467cDOTS-34678cDOTS-3468cDOTS-347cDOTS-3478cDOTS-348cDOTS-35",
    "cDOTS-356cDOTS-3567cDOTS-35678cDOTS-3568cDOTS-357cDOTS-3578cDOTS-358cDOTS-36cDOTS-367",
    "cDOTS-3678cDOTS-368cDOTS-37cDOTS-378cDOTS-38cDOTS-4cDOTS-45cDOTS-456cDOTS-4567cDOTS-45678",
    "cDOTS-4568cDOTS-457cDOTS-4578cDOTS-458cDOTS-46cDOTS-467cDOTS-4678cDOTS-468cDOTS-47",
    "cDOTS-478cDOTS-48cDOTS-5cDOTS-56cDOTS-567cDOTS-5678cDOTS-568cDOTS-57cDOTS-578cDOTS-58",
    "cDOTS-6cDOTS-67cDOTS-678cDOTS-68cDOTS-7cDOTS-78cDOTS-8aBRAINaBREADaBREAK PERMITTED HERE",
    "aBREAST-FEEDINGaBREVEaBRICKaBRIDE WITH VEILaBRIDGE AT NIGHTaBRIEFCASEaBRIEFSaBROCCOLI",
    "aBROKEN BARbCIRCLE WITH NORTHWEST ARROWbHEARTaBROOMaBROWN HEARTaBSaBUBBLE TEAaBUBBLES",
    "aBUCKETaBUGaBUGINESE END OF SECTIONbLETTER AcBAcCAcDAcGAcHAcJAcKAcLAcMAcMPAcNAcNGAcNGKA",
    "cNRAcNYAcNYCAcPAcRAcSAcTAcVAcYAbPALLAWAbVOWEL SIGN AEdEdIdOdUaBUHID LETTER AcBAcDAcGAcHAcI",
    "cKAcLAcMAcNAcNGAcPAcRAcSAcTAcUcWAcYAbVOWEL SIGN IdUaBUILDING CONSTRUCTIONaBULLETbOPERATOR",
    "aBULLHORNbWITH SOUND WAVESaBULLSEYEaBURRITOaBUSbSTOPaBUST IN SILHOUETTE",
    "aBUSTS IN SILHOUETTEaBUTTERaBUTTERFLYaBYTE ORDER MARKaBYZANTINE MUSICAL SYMBOL AGOGI ARGI",
    "eARGOTERIeGORGIeGORGOTERIeMESIeMETRIAePOLI ARGIfGORGIdANATRICHISMAdANTIKENOKYLISMA",
    "dANTIKENOMAdAPESO EKFONITIKONeEXO NEO"],
  ["aBYZANTINE MUSICAL SYMBOL APLIdAPODERMA ARCHAIONeNEOdAPOSTROFOI SYNDESMOS NEO",
    "eTELOUS ICHIMATOSdAPOSTROFOSeDIPLIeNEOdAPOTHEMAdARGONdARGOSYNTHETONdARKTIKO DIeGAeKEeNIePA",
    "eVOUeZOdCHAMILIdCHAMILONdCHOREVMA ARCHAIONeNEOdCHROA KLITONeSPATHIeZYGOSdDASEIAdDIARGON",
    "dDIASTOLI APLI MEGALIfMIKRIeDIPLIeTHESEOSdDIESIS APLI DYO DODEKATAeDIGRAMMOS EX DODEKATA",
    "eMONOGRAMMOS TESSERA DODEKATAeTETARTIMORIONeTRIGRAMMOS OKTO DODEKATAeTRITIMORION",
    "dDIFTOGGOS OUdDIGORGONePARESTIGMENON ARISTERA ANOgKATOfDEXIAdDIGRAMMA GGdDIPLIeARCHAION",
    "dDYOdEKSTREPTONdELAFRONdENARXIS KAI FTHORA VOUdENDOFONONdEPEGERMAdETERON ARGOSYNTHETON",
    "ePARAKALESMAdEXO EKFONITIKONdFANEROSIS DIFONIASeMONOFONIASeTETRAFONIAS",
    "dFHTORA SKLIRON CHROMA VASISdFTHORA ARCHAIONfDEYTEROU ICHOUeDIATONIKI DIfKEfNANAfNI ANO",
    "gKATOfPAfZOeENARMONIOS ANTIFONIAeI YFESIS TETARTIMORIONeMALAKON CHROMA DIFONIASgMONOFONIAS",
    "eNAOS ICHOSeNENANOeSKLIRON CHROMA SYNAFIgVASISfDIATONON DIdGENIKI DIESISeYFESIS",
    "dGORGON ARCHAIONeNEO ANOfKATOePARESTIGMENON ARISTERAfDEXIAdGORGOSYNTHETON",
    "dGORTHMIKON N APLOUNfDIPLOUNdGRONTHISMATAdICHADINdIMIDIARGONdIMIFONONdIMIFTHORAdIMIFTHORON",
    "dISAKIA TELOUS ICHIMATOSdISON ARCHAIONeNEOdKATAVA TROMIKONdKATAVASMAdKATHISTI",
    "dKENTIMA ARCHAIONeNEO ANOfKATOfMESOdKENTIMATAeARCHAIONeNEO ANOfKATOfMESOdKLASMAeANOeKATO",
    "dKONTEVMAeALLOdKORONISdKOUFISMAdKRATIMA ALLOeARCHAIONeNEOdKRATIMATAdKRATIMOKOUFISMA",
    "dKRATIMOYPORROONdKREMASTIdKYLISMAdLEIMMA DYO CHRONONeENOS CHRONOUeIMISEOS CHRONOU",
    "eTESSARON CHRONONeTRION CHRONONdLEMOIdLYGISMAdMARTYRIA ALLI DEYTEROS ICHOSfPROTOS ICHOS",
    "eDEYTEROS ICHOSeLEGETOS ICHOSePLAGIOS ICHOSfTETARTOS ICHOSePROTOS ICHOSePROTOVARYS ICHOS",
    "eTETARTOS ICHOSfLEGETOS ICHOSeTRIFONIASeTRITOS ICHOSeVARYS ICHOSdMIKRON ISONdNANA",
    "dOLIGON ARCHAIONeNEOdOMALONdOXEIA DIPLIeEKFONITIKONeNEOdOXEIAI ARCHAIONdOYRANISMA ARCHAION",
    "eNEOdPARAKALESMA ARCHAIONeNEOdPARAKLITIKIeARCHAIONeNEOdPARICHONdPELASTONeNEOdPERISPOMENI",
    "dPETASMAdPETASTIdPETASTOKOUFISMAdPIASMA ARCHAIONeNEOdPSIFISTOLYGISMAdPSIFISTONeNEO",
    "dPSIFISTOPARAKALESMAdPSIFISTOSYNAGMAdPSILIdPSILONdRAPISMAdREVMAdSAXIMATAdSEISMAeNEO",
    "dSIMANSIS ARSEOSfDISIMOUfTETRASIMOUfTRISIMOUeTHESEOSfDISIMOUfTETRASIMOUfTRISIMOUdSTAVROS",
    "eAPODEXIAdSTIGMAdSTRAGGISMATAdSYNAGMA ARCHAIONeMETA STAVROUeNEOdSYNEVMAdSYRMAdSYRMATIKI",
    "dTELEIAdTESSERAdTETRAPLIdTHEMAeAPLOUNdTHEMATISMOS ESOeEXOdTHES KAI APOTHESdTHITAdTINAGMA",
    "dTRIAdTRIGORGONdTRIPLIdTROMIKOLYGISMAdTROMIKON ALLOeARCHAIONeNEOdTROMIKOPARAKALESMA",
    "dTROMIKOPSIFISTONdTROMIKOSYNAGMAdVAREIA DIPLIeEKFONITIKONeNEOdVAREIAI ARCHAIONdVATHY",
    "dXIRON KLASMAdYFEN ANOeKATOdYFESIS APLI DYO DODEKATAeDIGRAMMOS EX DODEKATA",
    "eMONOGRAMMOS TESSERA DODEKATAeTRIGRAMMOS OKTO DODEKATAeTRITIMORIONdYPOKRISISeDIPLIdYPORROI",
    "dYPSILI"],
  ["aCACTUSaCADA UNAaCADUCEUSaCALENDARaCALL ME HANDaCAMERAbWITH FLASHaCAMPINGaCAN",
    "aCANADIAN SYLLABICS AcAAcAAIcAAYcAIcAIVILIK BcANcATHAPASCAN MdScAYcBEAVER DENE LeR",
    "cBIBLE-CREE YcBLACKFOOT AdEdIdKAdKEdKIdKOdNAdNEdNIdNOdOdSdWdWAdWEdWIdWOcCcCAcCAAcCAAI",
    "cCARRIER CHAdCHEdCHEEdCHIdCHOdCHUdDEEdDENE GEEdDENTAL SdDIdDLAdDLEdDLEEdDLIdDLOdDLUdDZA",
    "dDZEdDZEEdDZIdDZOdDZUdEEdGAdGAAdGEdGEEdGHAdGHEdGHEEdGHIdGHOdGHUdGIdGOdGUdGWAdGWUdHdHEEdHI",
    "dHWAdHWEdHWEEdHWIdHWOdHWUdIdINITIAL ZdJAdJEdJEEdJIdJJAdJJEdJJEEdJJIdJJOdJJUdJOdJUdJWAdKHA",
    "dKHEdKHEEdKHIdKHOdKHUdKKdKKAdKKEdKKEEdKKIdKKOdKKUdLAdLEdLEEdLHAdLHEdLHEEdLHIdLHOdLHUdLIdLO",
    "dLUdMAdMEdMEEdMIdMOdMUdNAdNEdNEEdNGdNIdNOdNUdPdPAdPEdPEEdPIdPOdPUdRAdREdREEdRIdROdRUdSAdSE",
    "dSEEdSHdSHAdSHEdSHEEdSHIdSHOdSHUdSIdSOdSUdTHAdTHEdTHEEdTHIdTHOdTHUdTLAdTLEdTLEEdTLHAdTLHE",
    "dTLHEEdTLHIdTLHOdTLHUdTLIdTLOdTLUdTSAdTSEdTSEEdTSIdTSOdTSUdTTAdTTEdTTEEdTTIdTTOdTTSAdTTSE",
    "dTTSEEdTTSIdTTSOdTTSUdTTUdWAdWEdWEEdWIdWOdWUdYAdYEdYEEdYIdYOdYUdZdZAdZEdZEEdZIdZOdZUcCE",
    "cCHI SIGNcCIcCIIcCOcCOOcCWAcCWAAcCWEcCWIcCWIIcCWOcCWOOcEcEASTERN WcENcFcFAcFAAcFAAIcFEcFI",
    "cFIIcFINAL ACUTEdBOTTOM HALF RINGdDOUBLE ACUTEeSHORT VERTICAL STROKESdDOWN TACKdGRAVE",
    "dMIDDLE DOTdPLUSdRAISED DOTdRIGHT HALF RINGdRINGdSHORT HORIZONTAL STROKEdSMALL RING",
    "dTOP HALF RINGcFOcFOOcFULL STOPcFWAAcGLOTTAL STOPcHKcHYPHENcIcIIcINcKcKAcKAAcKAAIcKAYcKE",
    "cKIcKIIcKOcKOOcKWcKWAcKWAAcKWAYcKWEcKWIcKWIIcKWOcKWOOcLcLAcLAAcLAAIcLAYcLEcLHcLHAcLHAAcLHI",
    "cLHIIcLHOcLHOOcLIcLIIcLOcLOOcLWAcLWAAcLWEcLWIcLWIIcLWOcLWOOcMcMAcMAAcMAAIcMAYcMEcMEDIAL L",
    "dRcMHcMIcMIIcMOcMOOcMOOSE-CREE SKcMWAcMWAAcMWEcMWIcMWIIcMWOcMWOOcNcN-CREE THEdTHIdTHIIcNA",
    "cNAAcNAAIcNASKAPI CWAAdKWAAdMWAAdNWAAdS-WdSCWAdSKWdSKWAdSPWAdSTWAdSWAAdTWAAdWAAdWOOdYWAA",
    "cNATTILIK HAdHAAdHIdHIIdHOdHOOdSHRAdSHRAAdSHRIdSHRIIdSHROdSHROOcNAYcNEcNGcNGAcNGAAcNGAAI",
    "cNGAIcNGIcNGIIcNGOcNGOOcNHcNIcNIIcNNGcNNGAcNNGAAcNNGIcNNGIIcNNGOcNNGOOcNOcNOOcNOY",
    "cNUNAVIK HdHAdHAAdHEdHIdHIIdHOdHOOcNUNAVUT HcNWAcNWAAcNWEcNWIcNWIIcNWOcNWOOcOcOJIBWAY CdK",
    "dMdNdNWIdNWIIdNWOdNWOOdPdSdSHdTcONcOOcOYcPcPAcPAAcPAAIcPAYcPEcPIcPIIcPOcPOOcPOYcPWAcPWAA",
    "cPWEcPWIcPWIIcPWOcPWOOcPWOYcQcQAcQAAcQAAIcQAIcQIcQIIcQOcQOOcRcR-CREE REdRWEcRAcRAAcRAAI",
    "cRAYcREcRIcRIIcROcROOcRWAcRWAAcRWEEcRWIcRWIIcRWOcRWOOcScSAcSAAcSAAIcSAYcSAYISI HAdHEdHIdHO",
    "dHOOdJIdJUdJUUdMdSHAdSHEdSHIdSHOdSHOOdSHWEdTHdYIcSEcSHcSHAcSHAAcSHAYcSHEcSHIcSHIIcSHOcSHOO",
    "cSHOYcSHWAcSHWAAcSHWEcSHWIcSHWIIcSHWOcSHWOOcSHWOYcSIcSIIcSOcSOOcSOUTH-SLAVEY KAHdKEHdKIH",
    "dKOHcSOYcSPAcSPEcSPIcSPOcSWcSWAcSWAAcSWEcSWIcSWIIcSWOcSWOOcTcTAcTAAcTAAIcTAYcTEcTH",
    "cTH-CREE THdTHAdTHAAdTHEdTHIdTHIIdTHOdTHOOcTHAcTHAAcTHEcTHIcTHIIcTHOcTHOOcTHWAcTHWAAcTHWE",
    "cTIcTIIcTLHAcTLHEcTLHIcTLHOcTLHOOcTLHWEcTOcTOOcTTAcTTEcTTHcTTHAcTTHAAcTTHEcTTHIcTTHOcTTHOO",
    "cTTHWEcTTIcTTOcTWAcTWAAcTWEcTWIcTWIIcTWOcTWOOcTYAcTYEcTYIcTYOcWAcWAAcWAYcWEcWEST-CREE CWA",
    "dCWAAdCWEdCWIdCWIIdCWOdCWOOdFWAAdKWAdKWAAdKWEdKWIdKWIIdKWOdKWOOdLdLAdLAAdLEdLOdLOOdLWA",
    "dLWAAdLWEdLWIdLWIIdLWOdLWOOdMdMWAdMWAAdMWEdMWIdMWIIdMWOdMWOOdNWAdNWAAdNWEdPdPWAdPWAAdPWE",
    "dPWIdPWIIdPWOdPWOOdRdRAdREdRIdROdRWAAdSHWAdSHWAAdSHWEdSHWIdSHWIIdSHWOdSHWOOdSWAdSWAAdSWE",
    "dSWIdSWIIdSWOdSWOOdTHWAAdTWAdTWAAdTWEdTWIdTWIIdTWOdTWOOdWAdWAAdWEdWIdWIIdWOdWOOdYdYWAdYWAA",
    "dYWEdYWIdYWIIdYWOdYWOOcWESTERN WcWIcWIIcWOcWOOcWOODS-CREE FINAL THdTHdTHAdTHEdTHIdTHOdTHWA",
    "dTHWAAdTHWEEdTHWIdTHWIIdTHWOdTHWOOcYcY-CREE COOdKOOdLOOdMOOdNOOdOOdPOOdPWAAdSOOdTOOdWdYOO",
    "cYAcYAAcYAAIcYAYcYEcYIcYIIcYOcYOOcYOYcYWAcYWAAcYWEcYWIcYWIIcYWOcYWOOaCANCELbCHARACTERbTAG",
    "aCANCELLATION XaCANCERaCANDLEaCANDYaCANNED FOODaCANOEaCAPITULUMaCAPRICORNaCAR SLIDING",
    "aCARD FILE BOXbINDEXcDIVIDERSaCARE OFaCARETbINSERTION POINTaCARIAN LETTER AcA2cBcC-18cC-39",
    "cDcD2cEcE2cGcG2cIcIIcKcK2cLcLDcLD2cMcMBcMB2cMB3cMB4cNcNDcNGcNNcOcPcP2cQcRcRRcScSHcSH2cSS",
    "cSTcST2cTcTTcTT2cUcUUcUUUcUUU2cUUU3cUUUUcXaCARONaCAROUSEL HORSEaCARP STREAMER",
    "aCARPENTRY SAWaCARRIAGE RETURNaCARROTaCASTLEaCATbFACEcWITH TEARS OF JOYdWRY SMILE",
    "aCAUCASIAN ALBANIAN CITATION MARKcLETTER ALTdAORdBETdCARdCAYNdCHAdCHATdCHIdCHOYdCYAWdCYAY",
    "dDATdDYANdDZAYdDZYAYdEBdEYNdFAMdGHEYSdGIMdHEYTdINYAdIRBdIWNdJAYNdJHOXdKARdKIWdLANdLYITdMAQ",
    "dNOWCdONdPENdPIWRdQARdQAYdRATdSEYKdSHAdSHAKdSHOYdTASdTIWRdTYAYdVEYZdXEYNdYAYDdYOWDdZARL",
    "dZHAdZHILaCAUTION SIGNaCCHaCEDI SIGNaCEDILLAaCELTIC CROSSaCENT SIGNaCENTRE LINE SYMBOL",
    "aCENTRELINE LOW LINEbOVERLINEaCERESaCGJaCHAINSaCHAIRaCHAKMA AU MARKbDANDAbDIGIT EIGHTcFIVE",
    "cFOURcNINEcONEcSEVENcSIXcTHREEcTWOcZERObDOUBLE DANDAbLETTER AAcBAAcBHAAcCAAcCHAAcDAAcDDAA",
    "cDDHAAcDHAAcEcGAAcGHAAcHAAcIcJAAcJHAAcKAAcKHAAcLAAcLHAAcMAAcNAAcNGAAcNNAAcNYAAcPAAcPHAA",
    "cRAAcSAAcTAAcTHAAcTTAAcTTHAAcUcVAAcWAAcYAAcYYAAbMAAYYAAbO MARKbQUESTION MARKbSECTION MARK",
    "bSIGN ANUSVARAcCANDRABINDUcVISARGAbVIRAMAbVOWEL SIGN AdAAdAIdAUdEdEIdIdIIdOdOIdUdUU",
    "aCHAM CONSONANT SIGN FINAL HeMeNGdLAdRAdWAdYAbDIGIT EIGHTcFIVEcFOURcNINEcONEcSEVENcSIX",
    "cTHREEcTWOcZERObLETTER AcAIcBAcBBAcBHAcCHAcCHHAcDAcDDAcDHAcEcFINAL CHdGdKdLdNdNGdPdRdSSdT",
    "dYcGAcGHAcHAcIcJAcJHAcKAcKHAcLAcMAcMUEcNAcNGAcNGUEcNHAcNHJAcNHUEcNUEcOcPAcPHAcPPAcRAcSA",
    "cSSAcTAcTHAcUcVAcYAbPUNCTUATION DANDAcDOUBLE DANDAcSPIRALcTRIPLE DANDAbVOWEL SIGN AAdAIdAU",
    "dEIdIdIIdOdOEdUdUEaCHARACTER TABULATIONcSETcWITH JUSTIFICATIONbTIE",
    "aCHART WITH DOWNWARDS TRENDcUPWARDS TRENDeAND YEN SIGNaCHECK MARKaCHECKER BOARDcFILL",
    "aCHEERING MEGAPHONEaCHEESE WEDGEaCHEQUERED FLAGaCHEROKEE LETTER AcDAcDEcDIcDLAcDOcDUcDVcE",
    "cGAcGEcGIcGOcGUcGVcHAcHEcHIcHNAcHOcHUcHVcIcKAcLAcLEcLIcLOcLUcLVcMAcMEcMIcMOcMUcMVcNAcNAH",
    "cNEcNIcNOcNUcNVcOcQUAcQUEcQUIcQUOcQUUcQUVcScSAcSEcSIcSOcSUcSVcTAcTEcTIcTLAcTLEcTLIcTLOcTLU",
    "cTLVcTSAcTSEcTSIcTSOcTSUcTSVcUcVcWAcWEcWIcWOcWUcWVcYAcYEcYIcYOcYUcYVbSMALL LETTER AdDAdDE",
    "dDIdDLAdDOdDUdDVdEdGAdGEdGIdGOdGUdGVdHAdHEdHIdHNAdHOdHUdHVdIdKAdLAdLEdLIdLOdLUdLVdMAdMEdMI",
    "dMOdMUdMVdNAdNAHdNEdNIdNOdNUdNVdOdQUAdQUEdQUIdQUOdQUUdQUVdSdSAdSEdSIdSOdSUdSVdTAdTEdTIdTLA",
    "dTLEdTLIdTLOdTLUdTLVdTSAdTSEdTSIdTSOdTSUdTSVdUdVdWAdWEdWIdWOdWUdWVdYAdYEdYIdYOdYUdYV",
    "aCHERRIESaCHERRY BLOSSOMaCHESTNUTaCHI RHOaCHICKENaCHILDaCHILDREN CROSSINGaCHIPMUNKaCHIRON",
    "aCHOCOLATE BARaCHOPSTICKSaCHORASMIAN LETTER ALEPHcAYINcBETHcCURLED WAWcDALETHcGIMELcHE",
    "cHETHcKAPHcLAMEDHcMEMcNUNcPEcRESHcSAMEKHcSHINcSMALL ALEPHcTAWcWAWcYODHcZAYINbNUMBER FOUR",
    "cONEdHUNDREDcTENcTHREEcTWENTYcTWOaCHRISTMAS TREEaCHURCHaCINEMA",
    "aCIRCLE DIVIDED BY HORIZONTAL BAR AND TOP HALF DIVIDED BY VERTICAL BAR"],
  ["aCIRCLE WITH ALL BUT UPPER LEFT QUADRANT BLACKcHORIZONTAL BARcLEFT HALF BLACK",
    "cLOWER HALF BLACKcRIGHT HALF BLACKcSMALL CIRCLE TO THE RIGHTcSUPERIMPOSED X",
    "cTWO HORIZONTAL STROKES TO THE RIGHTcUPPER HALF BLACKdRIGHT QUADRANT BLACKcVERTICAL FILL",
    "aCIRCLED ANTICLOCKWISE ARROWbANTICLOCKWISE-ROTATED DIVISION SIGNbASTERISK OPERATORbBOLD X",
    "bBULLETbC WITH OVERLAID BACKSLASHbCCbCDbCROSS FORMEEdWITH FOUR DOTSeTWO DOTScPOMMEE",
    "bCROSSING LANESbDASHbDIGIT EIGHTcFIVEcFOURcNINEcONEcSEVENcSIXcTHREEcTWOcZERObDIVISION SIGN",
    "cSLASHbDOLLAR SIGN WITH OVERLAID BACKSLASHbDOT OPERATORbEQUALSbGREATER-THANbHANGUL CHIEUCH",
    "dAcCIEUCdAcHIEUHdAcIEUNGdAdUcKHIEUKHdAcKIYEOKdAcMIEUMdAcNIEUNdAcPHIEUPHdAcPIEUPdAcRIEULdA",
    "cSIOSdAcTHIEUTHdAcTIKEUTdAbHEAVY WHITE RIGHTWARDS ARROWbHORIZONTAL BAR WITH NOTCH",
    "bHUMAN FIGUREbIDEOGRAPH ACCEPTcADVANTAGEcALLIANCEcATTENTIONcCENTREcCONGRATULATIONcCOPY",
    "cCORRECTcEARTHcEIGHTcENTERPRISEcEXCELLENTcFEMALEcFINANCIALcFIREcFIVEcFOURcHAVEcHIGHcITEM",
    "cKINDERGARTENcKOTOcLABORcLEFTcLOWcMALEcMEDICINEcMETALcMOONcNAMEcNIGHTcNINEcONEcPRINT",
    "cQUESTIONcRELIGIONcRESOURCEcRESTcRIGHTcSCHOOLcSECRETcSEVENcSIXcSOCIETYcSPECIALcSTOCKcSTUDY",
    "cSUITABLEcSUNcSUPERVISEcTENcTHREEcTWOcWATERcWOODbINFORMATION SOURCE",
    "bITALIC LATIN CAPITAL LETTER CfRbKATAKANA AcEcHAcHEcHIcHOcHUcIcKAcKEcKIcKOcKUcMAcMEcMIcMO",
    "cMUcNAcNEcNIcNOcNUcOcRAcREcRIcROcRUcSAcSEcSIcSOcSUcTAcTEcTIcTOcTUcUcWAcWEcWIcWOcYAcYOcYU",
    "bKOREAN CHARACTER CHAMKOdJUEUIbLATIN CAPITAL LETTER AeBeCeDeEeFeGeHeIeJeKeLeMeNeOePeQeReS",
    "eTeUeVeWeXeYeZcSMALL LETTER AeBeCeDeEeFeGeHeIeJeKeLeMeNeOePeQeReSeTeUeVeWeXeYeZbLESS-THAN",
    "bMINUSbMULTIPLICATION SIGN WITH CIRCUMFLEX ACCENTbNUMBER EIGHTEENcEIGHTY ON BLACK SQUARE",
    "cELEVENcFIFTEENcFIFTYdON BLACK SQUAREcFORTYdEIGHTdFIVEdFOURdNINEdON BLACK SQUAREdONEdSEVEN",
    "dSIXdTHREEdTWOcFOURTEENcNINETEENcSEVENTEENcSEVENTY ON BLACK SQUAREcSIXTEEN",
    "cSIXTY ON BLACK SQUAREcTENdON BLACK SQUAREcTHIRTEENcTHIRTYdEIGHTdFIVEdFOURdNINE",
    "dON BLACK SQUAREdONEdSEVENdSIXdTHREEdTWOcTWELVEcTWENTYdEIGHTdFIVEdFOURdNINE",
    "dON BLACK SQUAREdONEdSEVENdSIXdTHREEdTWObOPEN CENTRE EIGHT POINTED STARbPARALLEL",
    "bPERPENDICULARbPLUSbPOSTAL MARKbREVERSE SOLIDUSbRING OPERATORbSQUAREbTIMESbTRIANGLEcDOWN",
    "bVERTICAL BARbWHITE BULLETcSTARbWZbXbZERO WITH SLASHaCIRCULATION FUNCTION",
    "aCIRCUMFLEX ACCENTaCIRCUS TENTaCITYSCAPEbAT DUSKaCJK COMPATIBILITY IDEOGRAPH-2F800",
    "cIDEOGRAPH-2F801cIDEOGRAPH-2F802cIDEOGRAPH-2F803cIDEOGRAPH-2F804cIDEOGRAPH-2F805",
    "cIDEOGRAPH-2F806cIDEOGRAPH-2F807cIDEOGRAPH-2F808cIDEOGRAPH-2F809cIDEOGRAPH-2F80A",
    "cIDEOGRAPH-2F80BcIDEOGRAPH-2F80CcIDEOGRAPH-2F80DcIDEOGRAPH-2F80EcIDEOGRAPH-2F80F",
    "cIDEOGRAPH-2F810cIDEOGRAPH-2F811cIDEOGRAPH-2F812cIDEOGRAPH-2F813cIDEOGRAPH-2F814",
    "cIDEOGRAPH-2F815cIDEOGRAPH-2F816cIDEOGRAPH-2F817cIDEOGRAPH-2F818cIDEOGRAPH-2F819",
    "cIDEOGRAPH-2F81AcIDEOGRAPH-2F81BcIDEOGRAPH-2F81CcIDEOGRAPH-2F81DcIDEOGRAPH-2F81E",
    "cIDEOGRAPH-2F81FcIDEOGRAPH-2F820cIDEOGRAPH-2F821cIDEOGRAPH-2F822cIDEOGRAPH-2F823",
    "cIDEOGRAPH-2F824cIDEOGRAPH-2F825cIDEOGRAPH-2F826cIDEOGRAPH-2F827cIDEOGRAPH-2F828",
    "cIDEOGRAPH-2F829cIDEOGRAPH-2F82AcIDEOGRAPH-2F82BcIDEOGRAPH-2F82CcIDEOGRAPH-2F82D",
    "cIDEOGRAPH-2F82EcIDEOGRAPH-2F82FcIDEOGRAPH-2F830cIDEOGRAPH-2F831cIDEOGRAPH-2F832",
    "cIDEOGRAPH-2F833cIDEOGRAPH-2F834cIDEOGRAPH-2F835cIDEOGRAPH-2F836cIDEOGRAPH-2F837",
    "cIDEOGRAPH-2F838cIDEOGRAPH-2F839cIDEOGRAPH-2F83AcIDEOGRAPH-2F83BcIDEOGRAPH-2F83C",
    "cIDEOGRAPH-2F83DcIDEOGRAPH-2F83EcIDEOGRAPH-2F83FcIDEOGRAPH-2F840cIDEOGRAPH-2F841",
    "cIDEOGRAPH-2F842cIDEOGRAPH-2F843cIDEOGRAPH-2F844cIDEOGRAPH-2F845cIDEOGRAPH-2F846",
    "cIDEOGRAPH-2F847cIDEOGRAPH-2F848cIDEOGRAPH-2F849cIDEOGRAPH-2F84AcIDEOGRAPH-2F84B",
    "cIDEOGRAPH-2F84CcIDEOGRAPH-2F84DcIDEOGRAPH-2F84EcIDEOGRAPH-2F84FcIDEOGRAPH-2F850",
    "cIDEOGRAPH-2F851cIDEOGRAPH-2F852cIDEOGRAPH-2F853cIDEOGRAPH-2F854cIDEOGRAPH-2F855",
    "cIDEOGRAPH-2F856cIDEOGRAPH-2F857cIDEOGRAPH-2F858cIDEOGRAPH-2F859cIDEOGRAPH-2F85A",
    "cIDEOGRAPH-2F85BcIDEOGRAPH-2F85CcIDEOGRAPH-2F85DcIDEOGRAPH-2F85EcIDEOGRAPH-2F85F",
    "cIDEOGRAPH-2F860cIDEOGRAPH-2F861cIDEOGRAPH-2F862cIDEOGRAPH-2F863cIDEOGRAPH-2F864",
    "cIDEOGRAPH-2F865cIDEOGRAPH-2F866cIDEOGRAPH-2F867cIDEOGRAPH-2F868cIDEOGRAPH-2F869",
    "cIDEOGRAPH-2F86AcIDEOGRAPH-2F86BcIDEOGRAPH-2F86CcIDEOGRAPH-2F86DcIDEOGRAPH-2F86E",
    "cIDEOGRAPH-2F86FcIDEOGRAPH-2F870cIDEOGRAPH-2F871cIDEOGRAPH-2F872cIDEOGRAPH-2F873",
    "cIDEOGRAPH-2F874cIDEOGRAPH-2F875cIDEOGRAPH-2F876cIDEOGRAPH-2F877cIDEOGRAPH-2F878",
    "cIDEOGRAPH-2F879cIDEOGRAPH-2F87AcIDEOGRAPH-2F87BcIDEOGRAPH-2F87CcIDEOGRAPH-2F87D",
    "cIDEOGRAPH-2F87EcIDEOGRAPH-2F87FcIDEOGRAPH-2F880cIDEOGRAPH-2F881cIDEOGRAPH-2F882",
    "cIDEOGRAPH-2F883cIDEOGRAPH-2F884cIDEOGRAPH-2F885cIDEOGRAPH-2F886cIDEOGRAPH-2F887",
    "cIDEOGRAPH-2F888cIDEOGRAPH-2F889cIDEOGRAPH-2F88AcIDEOGRAPH-2F88BcIDEOGRAPH-2F88C",
    "cIDEOGRAPH-2F88DcIDEOGRAPH-2F88EcIDEOGRAPH-2F88FcIDEOGRAPH-2F890cIDEOGRAPH-2F891",
    "cIDEOGRAPH-2F892cIDEOGRAPH-2F893cIDEOGRAPH-2F894cIDEOGRAPH-2F895cIDEOGRAPH-2F896",
    "cIDEOGRAPH-2F897cIDEOGRAPH-2F898cIDEOGRAPH-2F899cIDEOGRAPH-2F89AcIDEOGRAPH-2F89B",
    "cIDEOGRAPH-2F89CcIDEOGRAPH-2F89DcIDEOGRAPH-2F89EcIDEOGRAPH-2F89FcIDEOGRAPH-2F8A0",
    "cIDEOGRAPH-2F8A1cIDEOGRAPH-2F8A2cIDEOGRAPH-2F8A3cIDEOGRAPH-2F8A4cIDEOGRAPH-2F8A5",
    "cIDEOGRAPH-2F8A6cIDEOGRAPH-2F8A7cIDEOGRAPH-2F8A8cIDEOGRAPH-2F8A9cIDEOGRAPH-2F8AA",
    "cIDEOGRAPH-2F8ABcIDEOGRAPH-2F8ACcIDEOGRAPH-2F8ADcIDEOGRAPH-2F8AEcIDEOGRAPH-2F8AF",
    "cIDEOGRAPH-2F8B0cIDEOGRAPH-2F8B1cIDEOGRAPH-2F8B2cIDEOGRAPH-2F8B3cIDEOGRAPH-2F8B4",
    "cIDEOGRAPH-2F8B5cIDEOGRAPH-2F8B6cIDEOGRAPH-2F8B7cIDEOGRAPH-2F8B8cIDEOGRAPH-2F8B9",
    "cIDEOGRAPH-2F8BAcIDEOGRAPH-2F8BBcIDEOGRAPH-2F8BCcIDEOGRAPH-2F8BDcIDEOGRAPH-2F8BE",
    "cIDEOGRAPH-2F8BFcIDEOGRAPH-2F8C0cIDEOGRAPH-2F8C1cIDEOGRAPH-2F8C2cIDEOGRAPH-2F8C3",
    "cIDEOGRAPH-2F8C4cIDEOGRAPH-2F8C5cIDEOGRAPH-2F8C6cIDEOGRAPH-2F8C7cIDEOGRAPH-2F8C8",
    "cIDEOGRAPH-2F8C9cIDEOGRAPH-2F8CAcIDEOGRAPH-2F8CBcIDEOGRAPH-2F8CCcIDEOGRAPH-2F8CD",
    "cIDEOGRAPH-2F8CEcIDEOGRAPH-2F8CFcIDEOGRAPH-2F8D0cIDEOGRAPH-2F8D1cIDEOGRAPH-2F8D2",
    "cIDEOGRAPH-2F8D3cIDEOGRAPH-2F8D4cIDEOGRAPH-2F8D5cIDEOGRAPH-2F8D6cIDEOGRAPH-2F8D7",
    "cIDEOGRAPH-2F8D8cIDEOGRAPH-2F8D9cIDEOGRAPH-2F8DAcIDEOGRAPH-2F8DBcIDEOGRAPH-2F8DC",
    "cIDEOGRAPH-2F8DDcIDEOGRAPH-2F8DEcIDEOGRAPH-2F8DFcIDEOGRAPH-2F8E0cIDEOGRAPH-2F8E1",
    "cIDEOGRAPH-2F8E2cIDEOGRAPH-2F8E3cIDEOGRAPH-2F8E4cIDEOGRAPH-2F8E5cIDEOGRAPH-2F8E6",
    "cIDEOGRAPH-2F8E7cIDEOGRAPH-2F8E8cIDEOGRAPH-2F8E9cIDEOGRAPH-2F8EA"],
  ["aCJK COMPATIBILITY IDEOGRAPH-2F8EBcIDEOGRAPH-2F8ECcIDEOGRAPH-2F8EDcIDEOGRAPH-2F8EE",
    "cIDEOGRAPH-2F8EFcIDEOGRAPH-2F8F0cIDEOGRAPH-2F8F1cIDEOGRAPH-2F8F2cIDEOGRAPH-2F8F3",
    "cIDEOGRAPH-2F8F4cIDEOGRAPH-2F8F5cIDEOGRAPH-2F8F6cIDEOGRAPH-2F8F7cIDEOGRAPH-2F8F8",
    "cIDEOGRAPH-2F8F9cIDEOGRAPH-2F8FAcIDEOGRAPH-2F8FBcIDEOGRAPH-2F8FCcIDEOGRAPH-2F8FD",
    "cIDEOGRAPH-2F8FEcIDEOGRAPH-2F8FFcIDEOGRAPH-2F900cIDEOGRAPH-2F901cIDEOGRAPH-2F902",
    "cIDEOGRAPH-2F903cIDEOGRAPH-2F904cIDEOGRAPH-2F905cIDEOGRAPH-2F906cIDEOGRAPH-2F907",
    "cIDEOGRAPH-2F908cIDEOGRAPH-2F909cIDEOGRAPH-2F90AcIDEOGRAPH-2F90BcIDEOGRAPH-2F90C",
    "cIDEOGRAPH-2F90DcIDEOGRAPH-2F90EcIDEOGRAPH-2F90FcIDEOGRAPH-2F910cIDEOGRAPH-2F911",
    "cIDEOGRAPH-2F912cIDEOGRAPH-2F913cIDEOGRAPH-2F914cIDEOGRAPH-2F915cIDEOGRAPH-2F916",
    "cIDEOGRAPH-2F917cIDEOGRAPH-2F918cIDEOGRAPH-2F919cIDEOGRAPH-2F91AcIDEOGRAPH-2F91B",
    "cIDEOGRAPH-2F91CcIDEOGRAPH-2F91DcIDEOGRAPH-2F91EcIDEOGRAPH-2F91FcIDEOGRAPH-2F920",
    "cIDEOGRAPH-2F921cIDEOGRAPH-2F922cIDEOGRAPH-2F923cIDEOGRAPH-2F924cIDEOGRAPH-2F925",
    "cIDEOGRAPH-2F926cIDEOGRAPH-2F927cIDEOGRAPH-2F928cIDEOGRAPH-2F929cIDEOGRAPH-2F92A",
    "cIDEOGRAPH-2F92BcIDEOGRAPH-2F92CcIDEOGRAPH-2F92DcIDEOGRAPH-2F92EcIDEOGRAPH-2F92F",
    "cIDEOGRAPH-2F930cIDEOGRAPH-2F931cIDEOGRAPH-2F932cIDEOGRAPH-2F933cIDEOGRAPH-2F934",
    "cIDEOGRAPH-2F935cIDEOGRAPH-2F936cIDEOGRAPH-2F937cIDEOGRAPH-2F938cIDEOGRAPH-2F939",
    "cIDEOGRAPH-2F93AcIDEOGRAPH-2F93BcIDEOGRAPH-2F93CcIDEOGRAPH-2F93DcIDEOGRAPH-2F93E",
    "cIDEOGRAPH-2F93FcIDEOGRAPH-2F940cIDEOGRAPH-2F941cIDEOGRAPH-2F942cIDEOGRAPH-2F943",
    "cIDEOGRAPH-2F944cIDEOGRAPH-2F945cIDEOGRAPH-2F946cIDEOGRAPH-2F947cIDEOGRAPH-2F948",
    "cIDEOGRAPH-2F949cIDEOGRAPH-2F94AcIDEOGRAPH-2F94BcIDEOGRAPH-2F94CcIDEOGRAPH-2F94D",
    "cIDEOGRAPH-2F94EcIDEOGRAPH-2F94FcIDEOGRAPH-2F950cIDEOGRAPH-2F951cIDEOGRAPH-2F952",
    "cIDEOGRAPH-2F953cIDEOGRAPH-2F954cIDEOGRAPH-2F955cIDEOGRAPH-2F956cIDEOGRAPH-2F957",
    "cIDEOGRAPH-2F958cIDEOGRAPH-2F959cIDEOGRAPH-2F95AcIDEOGRAPH-2F95BcIDEOGRAPH-2F95C",
    "cIDEOGRAPH-2F95DcIDEOGRAPH-2F95EcIDEOGRAPH-2F95FcIDEOGRAPH-2F960cIDEOGRAPH-2F961",
    "cIDEOGRAPH-2F962cIDEOGRAPH-2F963cIDEOGRAPH-2F964cIDEOGRAPH-2F965cIDEOGRAPH-2F966",
    "cIDEOGRAPH-2F967cIDEOGRAPH-2F968cIDEOGRAPH-2F969cIDEOGRAPH-2F96AcIDEOGRAPH-2F96B",
    "cIDEOGRAPH-2F96CcIDEOGRAPH-2F96DcIDEOGRAPH-2F96EcIDEOGRAPH-2F96FcIDEOGRAPH-2F970",
    "cIDEOGRAPH-2F971cIDEOGRAPH-2F972cIDEOGRAPH-2F973cIDEOGRAPH-2F974cIDEOGRAPH-2F975",
    "cIDEOGRAPH-2F976cIDEOGRAPH-2F977cIDEOGRAPH-2F978cIDEOGRAPH-2F979cIDEOGRAPH-2F97A",
    "cIDEOGRAPH-2F97BcIDEOGRAPH-2F97CcIDEOGRAPH-2F97DcIDEOGRAPH-2F97EcIDEOGRAPH-2F97F",
    "cIDEOGRAPH-2F980cIDEOGRAPH-2F981cIDEOGRAPH-2F982cIDEOGRAPH-2F983cIDEOGRAPH-2F984",
    "cIDEOGRAPH-2F985cIDEOGRAPH-2F986cIDEOGRAPH-2F987cIDEOGRAPH-2F988cIDEOGRAPH-2F989",
    "cIDEOGRAPH-2F98AcIDEOGRAPH-2F98BcIDEOGRAPH-2F98CcIDEOGRAPH-2F98DcIDEOGRAPH-2F98E",
    "cIDEOGRAPH-2F98FcIDEOGRAPH-2F990cIDEOGRAPH-2F991cIDEOGRAPH-2F992cIDEOGRAPH-2F993",
    "cIDEOGRAPH-2F994cIDEOGRAPH-2F995cIDEOGRAPH-2F996cIDEOGRAPH-2F997cIDEOGRAPH-2F998",
    "cIDEOGRAPH-2F999cIDEOGRAPH-2F99AcIDEOGRAPH-2F99BcIDEOGRAPH-2F99CcIDEOGRAPH-2F99D",
    "cIDEOGRAPH-2F99EcIDEOGRAPH-2F99FcIDEOGRAPH-2F9A0cIDEOGRAPH-2F9A1cIDEOGRAPH-2F9A2",
    "cIDEOGRAPH-2F9A3cIDEOGRAPH-2F9A4cIDEOGRAPH-2F9A5cIDEOGRAPH-2F9A6cIDEOGRAPH-2F9A7",
    "cIDEOGRAPH-2F9A8cIDEOGRAPH-2F9A9cIDEOGRAPH-2F9AAcIDEOGRAPH-2F9ABcIDEOGRAPH-2F9AC",
    "cIDEOGRAPH-2F9ADcIDEOGRAPH-2F9AEcIDEOGRAPH-2F9AFcIDEOGRAPH-2F9B0cIDEOGRAPH-2F9B1",
    "cIDEOGRAPH-2F9B2cIDEOGRAPH-2F9B3cIDEOGRAPH-2F9B4cIDEOGRAPH-2F9B5cIDEOGRAPH-2F9B6",
    "cIDEOGRAPH-2F9B7cIDEOGRAPH-2F9B8cIDEOGRAPH-2F9B9cIDEOGRAPH-2F9BAcIDEOGRAPH-2F9BB",
    "cIDEOGRAPH-2F9BCcIDEOGRAPH-2F9BDcIDEOGRAPH-2F9BEcIDEOGRAPH-2F9BFcIDEOGRAPH-2F9C0",
    "cIDEOGRAPH-2F9C1cIDEOGRAPH-2F9C2cIDEOGRAPH-2F9C3cIDEOGRAPH-2F9C4cIDEOGRAPH-2F9C5",
    "cIDEOGRAPH-2F9C6cIDEOGRAPH-2F9C7cIDEOGRAPH-2F9C8cIDEOGRAPH-2F9C9cIDEOGRAPH-2F9CA",
    "cIDEOGRAPH-2F9CBcIDEOGRAPH-2F9CCcIDEOGRAPH-2F9CDcIDEOGRAPH-2F9CEcIDEOGRAPH-2F9CF",
    "cIDEOGRAPH-2F9D0cIDEOGRAPH-2F9D1cIDEOGRAPH-2F9D2cIDEOGRAPH-2F9D3cIDEOGRAPH-2F9D4",
    "cIDEOGRAPH-2F9D5cIDEOGRAPH-2F9D6cIDEOGRAPH-2F9D7cIDEOGRAPH-2F9D8cIDEOGRAPH-2F9D9",
    "cIDEOGRAPH-2F9DAcIDEOGRAPH-2F9DBcIDEOGRAPH-2F9DCcIDEOGRAPH-2F9DDcIDEOGRAPH-2F9DE",
    "cIDEOGRAPH-2F9DFcIDEOGRAPH-2F9E0cIDEOGRAPH-2F9E1cIDEOGRAPH-2F9E2cIDEOGRAPH-2F9E3",
    "cIDEOGRAPH-2F9E4cIDEOGRAPH-2F9E5cIDEOGRAPH-2F9E6cIDEOGRAPH-2F9E7cIDEOGRAPH-2F9E8",
    "cIDEOGRAPH-2F9E9cIDEOGRAPH-2F9EAcIDEOGRAPH-2F9EBcIDEOGRAPH-2F9ECcIDEOGRAPH-2F9ED",
    "cIDEOGRAPH-2F9EEcIDEOGRAPH-2F9EFcIDEOGRAPH-2F9F0cIDEOGRAPH-2F9F1cIDEOGRAPH-2F9F2",
    "cIDEOGRAPH-2F9F3cIDEOGRAPH-2F9F4cIDEOGRAPH-2F9F5cIDEOGRAPH-2F9F6cIDEOGRAPH-2F9F7",
    "cIDEOGRAPH-2F9F8cIDEOGRAPH-2F9F9cIDEOGRAPH-2F9FAcIDEOGRAPH-2F9FBcIDEOGRAPH-2F9FC",
    "cIDEOGRAPH-2F9FDcIDEOGRAPH-2F9FEcIDEOGRAPH-2F9FFcIDEOGRAPH-2FA00cIDEOGRAPH-2FA01",
    "cIDEOGRAPH-2FA02cIDEOGRAPH-2FA03cIDEOGRAPH-2FA04cIDEOGRAPH-2FA05cIDEOGRAPH-2FA06",
    "cIDEOGRAPH-2FA07cIDEOGRAPH-2FA08cIDEOGRAPH-2FA09cIDEOGRAPH-2FA0AcIDEOGRAPH-2FA0B",
    "cIDEOGRAPH-2FA0CcIDEOGRAPH-2FA0DcIDEOGRAPH-2FA0EcIDEOGRAPH-2FA0FcIDEOGRAPH-2FA10",
    "cIDEOGRAPH-2FA11cIDEOGRAPH-2FA12cIDEOGRAPH-2FA13cIDEOGRAPH-2FA14cIDEOGRAPH-2FA15",
    "cIDEOGRAPH-2FA16cIDEOGRAPH-2FA17cIDEOGRAPH-2FA18cIDEOGRAPH-2FA19cIDEOGRAPH-2FA1A",
    "cIDEOGRAPH-2FA1BcIDEOGRAPH-2FA1CcIDEOGRAPH-2FA1DcIDEOGRAPH-F900cIDEOGRAPH-F901",
    "cIDEOGRAPH-F902cIDEOGRAPH-F903cIDEOGRAPH-F904cIDEOGRAPH-F905cIDEOGRAPH-F906cIDEOGRAPH-F907",
    "cIDEOGRAPH-F908cIDEOGRAPH-F909cIDEOGRAPH-F90AcIDEOGRAPH-F90BcIDEOGRAPH-F90CcIDEOGRAPH-F90D",
    "cIDEOGRAPH-F90EcIDEOGRAPH-F90FcIDEOGRAPH-F910cIDEOGRAPH-F911cIDEOGRAPH-F912cIDEOGRAPH-F913",
    "cIDEOGRAPH-F914cIDEOGRAPH-F915cIDEOGRAPH-F916cIDEOGRAPH-F917cIDEOGRAPH-F918cIDEOGRAPH-F919",
    "cIDEOGRAPH-F91AcIDEOGRAPH-F91BcIDEOGRAPH-F91CcIDEOGRAPH-F91DcIDEOGRAPH-F91EcIDEOGRAPH-F91F",
    "cIDEOGRAPH-F920cIDEOGRAPH-F921cIDEOGRAPH-F922cIDEOGRAPH-F923cIDEOGRAPH-F924cIDEOGRAPH-F925",
    "cIDEOGRAPH-F926cIDEOGRAPH-F927cIDEOGRAPH-F928cIDEOGRAPH-F929cIDEOGRAPH-F92AcIDEOGRAPH-F92B",
    "cIDEOGRAPH-F92CcIDEOGRAPH-F92DcIDEOGRAPH-F92EcIDEOGRAPH-F92FcIDEOGRAPH-F930cIDEOGRAPH-F931",
    "cIDEOGRAPH-F932cIDEOGRAPH-F933cIDEOGRAPH-F934cIDEOGRAPH-F935cIDEOGRAPH-F936cIDEOGRAPH-F937",
    "cIDEOGRAPH-F938cIDEOGRAPH-F939cIDEOGRAPH-F93AcIDEOGRAPH-F93BcIDEOGRAPH-F93CcIDEOGRAPH-F93D",
    "cIDEOGRAPH-F93EcIDEOGRAPH-F93FcIDEOGRAPH-F940cIDEOGRAPH-F941cIDEOGRAPH-F942cIDEOGRAPH-F943",
    "cIDEOGRAPH-F944cIDEOGRAPH-F945cIDEOGRAPH-F946cIDEOGRAPH-F947"],
  ["aCJK COMPATIBILITY IDEOGRAPH-F948cIDEOGRAPH-F949cIDEOGRAPH-F94AcIDEOGRAPH-F94B",
    "cIDEOGRAPH-F94CcIDEOGRAPH-F94DcIDEOGRAPH-F94EcIDEOGRAPH-F94FcIDEOGRAPH-F950cIDEOGRAPH-F951",
    "cIDEOGRAPH-F952cIDEOGRAPH-F953cIDEOGRAPH-F954cIDEOGRAPH-F955cIDEOGRAPH-F956cIDEOGRAPH-F957",
    "cIDEOGRAPH-F958cIDEOGRAPH-F959cIDEOGRAPH-F95AcIDEOGRAPH-F95BcIDEOGRAPH-F95CcIDEOGRAPH-F95D",
    "cIDEOGRAPH-F95EcIDEOGRAPH-F95FcIDEOGRAPH-F960cIDEOGRAPH-F961cIDEOGRAPH-F962cIDEOGRAPH-F963",
    "cIDEOGRAPH-F964cIDEOGRAPH-F965cIDEOGRAPH-F966cIDEOGRAPH-F967cIDEOGRAPH-F968cIDEOGRAPH-F969",
    "cIDEOGRAPH-F96AcIDEOGRAPH-F96BcIDEOGRAPH-F96CcIDEOGRAPH-F96DcIDEOGRAPH-F96EcIDEOGRAPH-F96F",
    "cIDEOGRAPH-F970cIDEOGRAPH-F971cIDEOGRAPH-F972cIDEOGRAPH-F973cIDEOGRAPH-F974cIDEOGRAPH-F975",
    "cIDEOGRAPH-F976cIDEOGRAPH-F977cIDEOGRAPH-F978cIDEOGRAPH-F979cIDEOGRAPH-F97AcIDEOGRAPH-F97B",
    "cIDEOGRAPH-F97CcIDEOGRAPH-F97DcIDEOGRAPH-F97EcIDEOGRAPH-F97FcIDEOGRAPH-F980cIDEOGRAPH-F981",
    "cIDEOGRAPH-F982cIDEOGRAPH-F983cIDEOGRAPH-F984cIDEOGRAPH-F985cIDEOGRAPH-F986cIDEOGRAPH-F987",
    "cIDEOGRAPH-F988cIDEOGRAPH-F989cIDEOGRAPH-F98AcIDEOGRAPH-F98BcIDEOGRAPH-F98CcIDEOGRAPH-F98D",
    "cIDEOGRAPH-F98EcIDEOGRAPH-F98FcIDEOGRAPH-F990cIDEOGRAPH-F991cIDEOGRAPH-F992cIDEOGRAPH-F993",
    "cIDEOGRAPH-F994cIDEOGRAPH-F995cIDEOGRAPH-F996cIDEOGRAPH-F997cIDEOGRAPH-F998cIDEOGRAPH-F999",
    "cIDEOGRAPH-F99AcIDEOGRAPH-F99BcIDEOGRAPH-F99CcIDEOGRAPH-F99DcIDEOGRAPH-F99EcIDEOGRAPH-F99F",
    "cIDEOGRAPH-F9A0cIDEOGRAPH-F9A1cIDEOGRAPH-F9A2cIDEOGRAPH-F9A3cIDEOGRAPH-F9A4cIDEOGRAPH-F9A5",
    "cIDEOGRAPH-F9A6cIDEOGRAPH-F9A7cIDEOGRAPH-F9A8cIDEOGRAPH-F9A9cIDEOGRAPH-F9AAcIDEOGRAPH-F9AB",
    "cIDEOGRAPH-F9ACcIDEOGRAPH-F9ADcIDEOGRAPH-F9AEcIDEOGRAPH-F9AFcIDEOGRAPH-F9B0cIDEOGRAPH-F9B1",
    "cIDEOGRAPH-F9B2cIDEOGRAPH-F9B3cIDEOGRAPH-F9B4cIDEOGRAPH-F9B5cIDEOGRAPH-F9B6cIDEOGRAPH-F9B7",
    "cIDEOGRAPH-F9B8cIDEOGRAPH-F9B9cIDEOGRAPH-F9BAcIDEOGRAPH-F9BBcIDEOGRAPH-F9BCcIDEOGRAPH-F9BD",
    "cIDEOGRAPH-F9BEcIDEOGRAPH-F9BFcIDEOGRAPH-F9C0cIDEOGRAPH-F9C1cIDEOGRAPH-F9C2cIDEOGRAPH-F9C3",
    "cIDEOGRAPH-F9C4cIDEOGRAPH-F9C5cIDEOGRAPH-F9C6cIDEOGRAPH-F9C7cIDEOGRAPH-F9C8cIDEOGRAPH-F9C9",
    "cIDEOGRAPH-F9CAcIDEOGRAPH-F9CBcIDEOGRAPH-F9CCcIDEOGRAPH-F9CDcIDEOGRAPH-F9CEcIDEOGRAPH-F9CF",
    "cIDEOGRAPH-F9D0cIDEOGRAPH-F9D1cIDEOGRAPH-F9D2cIDEOGRAPH-F9D3cIDEOGRAPH-F9D4cIDEOGRAPH-F9D5",
    "cIDEOGRAPH-F9D6cIDEOGRAPH-F9D7cIDEOGRAPH-F9D8cIDEOGRAPH-F9D9cIDEOGRAPH-F9DAcIDEOGRAPH-F9DB",
    "cIDEOGRAPH-F9DCcIDEOGRAPH-F9DDcIDEOGRAPH-F9DEcIDEOGRAPH-F9DFcIDEOGRAPH-F9E0cIDEOGRAPH-F9E1",
    "cIDEOGRAPH-F9E2cIDEOGRAPH-F9E3cIDEOGRAPH-F9E4cIDEOGRAPH-F9E5cIDEOGRAPH-F9E6cIDEOGRAPH-F9E7",
    "cIDEOGRAPH-F9E8cIDEOGRAPH-F9E9cIDEOGRAPH-F9EAcIDEOGRAPH-F9EBcIDEOGRAPH-F9ECcIDEOGRAPH-F9ED",
    "cIDEOGRAPH-F9EEcIDEOGRAPH-F9EFcIDEOGRAPH-F9F0cIDEOGRAPH-F9F1cIDEOGRAPH-F9F2cIDEOGRAPH-F9F3",
    "cIDEOGRAPH-F9F4cIDEOGRAPH-F9F5cIDEOGRAPH-F9F6cIDEOGRAPH-F9F7cIDEOGRAPH-F9F8cIDEOGRAPH-F9F9",
    "cIDEOGRAPH-F9FAcIDEOGRAPH-F9FBcIDEOGRAPH-F9FCcIDEOGRAPH-F9FDcIDEOGRAPH-F9FEcIDEOGRAPH-F9FF",
    "cIDEOGRAPH-FA00cIDEOGRAPH-FA01cIDEOGRAPH-FA02cIDEOGRAPH-FA03cIDEOGRAPH-FA04cIDEOGRAPH-FA05",
    "cIDEOGRAPH-FA06cIDEOGRAPH-FA07cIDEOGRAPH-FA08cIDEOGRAPH-FA09cIDEOGRAPH-FA0AcIDEOGRAPH-FA0B",
    "cIDEOGRAPH-FA0CcIDEOGRAPH-FA0DcIDEOGRAPH-FA0EcIDEOGRAPH-FA0FcIDEOGRAPH-FA10cIDEOGRAPH-FA11",
    "cIDEOGRAPH-FA12cIDEOGRAPH-FA13cIDEOGRAPH-FA14cIDEOGRAPH-FA15cIDEOGRAPH-FA16cIDEOGRAPH-FA17",
    "cIDEOGRAPH-FA18cIDEOGRAPH-FA19cIDEOGRAPH-FA1AcIDEOGRAPH-FA1BcIDEOGRAPH-FA1CcIDEOGRAPH-FA1D",
    "cIDEOGRAPH-FA1EcIDEOGRAPH-FA1FcIDEOGRAPH-FA20cIDEOGRAPH-FA21cIDEOGRAPH-FA22cIDEOGRAPH-FA23",
    "cIDEOGRAPH-FA24cIDEOGRAPH-FA25cIDEOGRAPH-FA26cIDEOGRAPH-FA27cIDEOGRAPH-FA28cIDEOGRAPH-FA29",
    "cIDEOGRAPH-FA2AcIDEOGRAPH-FA2BcIDEOGRAPH-FA2CcIDEOGRAPH-FA2DcIDEOGRAPH-FA2EcIDEOGRAPH-FA2F",
    "cIDEOGRAPH-FA30cIDEOGRAPH-FA31cIDEOGRAPH-FA32cIDEOGRAPH-FA33cIDEOGRAPH-FA34cIDEOGRAPH-FA35",
    "cIDEOGRAPH-FA36cIDEOGRAPH-FA37cIDEOGRAPH-FA38cIDEOGRAPH-FA39cIDEOGRAPH-FA3AcIDEOGRAPH-FA3B",
    "cIDEOGRAPH-FA3CcIDEOGRAPH-FA3DcIDEOGRAPH-FA3EcIDEOGRAPH-FA3FcIDEOGRAPH-FA40cIDEOGRAPH-FA41",
    "cIDEOGRAPH-FA42cIDEOGRAPH-FA43cIDEOGRAPH-FA44cIDEOGRAPH-FA45cIDEOGRAPH-FA46cIDEOGRAPH-FA47",
    "cIDEOGRAPH-FA48cIDEOGRAPH-FA49cIDEOGRAPH-FA4AcIDEOGRAPH-FA4BcIDEOGRAPH-FA4CcIDEOGRAPH-FA4D",
    "cIDEOGRAPH-FA4EcIDEOGRAPH-FA4FcIDEOGRAPH-FA50cIDEOGRAPH-FA51cIDEOGRAPH-FA52cIDEOGRAPH-FA53",
    "cIDEOGRAPH-FA54cIDEOGRAPH-FA55cIDEOGRAPH-FA56cIDEOGRAPH-FA57cIDEOGRAPH-FA58cIDEOGRAPH-FA59",
    "cIDEOGRAPH-FA5AcIDEOGRAPH-FA5BcIDEOGRAPH-FA5CcIDEOGRAPH-FA5DcIDEOGRAPH-FA5EcIDEOGRAPH-FA5F",
    "cIDEOGRAPH-FA60cIDEOGRAPH-FA61cIDEOGRAPH-FA62cIDEOGRAPH-FA63cIDEOGRAPH-FA64cIDEOGRAPH-FA65",
    "cIDEOGRAPH-FA66cIDEOGRAPH-FA67cIDEOGRAPH-FA68cIDEOGRAPH-FA69cIDEOGRAPH-FA6AcIDEOGRAPH-FA6B",
    "cIDEOGRAPH-FA6CcIDEOGRAPH-FA6DcIDEOGRAPH-FA70cIDEOGRAPH-FA71cIDEOGRAPH-FA72cIDEOGRAPH-FA73",
    "cIDEOGRAPH-FA74cIDEOGRAPH-FA75cIDEOGRAPH-FA76cIDEOGRAPH-FA77cIDEOGRAPH-FA78cIDEOGRAPH-FA79",
    "cIDEOGRAPH-FA7AcIDEOGRAPH-FA7BcIDEOGRAPH-FA7CcIDEOGRAPH-FA7DcIDEOGRAPH-FA7EcIDEOGRAPH-FA7F",
    "cIDEOGRAPH-FA80cIDEOGRAPH-FA81cIDEOGRAPH-FA82cIDEOGRAPH-FA83cIDEOGRAPH-FA84cIDEOGRAPH-FA85",
    "cIDEOGRAPH-FA86cIDEOGRAPH-FA87cIDEOGRAPH-FA88cIDEOGRAPH-FA89cIDEOGRAPH-FA8AcIDEOGRAPH-FA8B",
    "cIDEOGRAPH-FA8CcIDEOGRAPH-FA8DcIDEOGRAPH-FA8EcIDEOGRAPH-FA8FcIDEOGRAPH-FA90cIDEOGRAPH-FA91",
    "cIDEOGRAPH-FA92cIDEOGRAPH-FA93cIDEOGRAPH-FA94cIDEOGRAPH-FA95cIDEOGRAPH-FA96cIDEOGRAPH-FA97",
    "cIDEOGRAPH-FA98cIDEOGRAPH-FA99cIDEOGRAPH-FA9AcIDEOGRAPH-FA9BcIDEOGRAPH-FA9CcIDEOGRAPH-FA9D",
    "cIDEOGRAPH-FA9EcIDEOGRAPH-FA9FcIDEOGRAPH-FAA0cIDEOGRAPH-FAA1cIDEOGRAPH-FAA2cIDEOGRAPH-FAA3",
    "cIDEOGRAPH-FAA4cIDEOGRAPH-FAA5cIDEOGRAPH-FAA6cIDEOGRAPH-FAA7cIDEOGRAPH-FAA8cIDEOGRAPH-FAA9",
    "cIDEOGRAPH-FAAAcIDEOGRAPH-FAABcIDEOGRAPH-FAACcIDEOGRAPH-FAADcIDEOGRAPH-FAAEcIDEOGRAPH-FAAF",
    "cIDEOGRAPH-FAB0cIDEOGRAPH-FAB1cIDEOGRAPH-FAB2cIDEOGRAPH-FAB3cIDEOGRAPH-FAB4cIDEOGRAPH-FAB5",
    "cIDEOGRAPH-FAB6cIDEOGRAPH-FAB7cIDEOGRAPH-FAB8cIDEOGRAPH-FAB9cIDEOGRAPH-FABAcIDEOGRAPH-FABB",
    "cIDEOGRAPH-FABCcIDEOGRAPH-FABDcIDEOGRAPH-FABEcIDEOGRAPH-FABFcIDEOGRAPH-FAC0cIDEOGRAPH-FAC1",
    "cIDEOGRAPH-FAC2cIDEOGRAPH-FAC3cIDEOGRAPH-FAC4cIDEOGRAPH-FAC5cIDEOGRAPH-FAC6cIDEOGRAPH-FAC7",
    "cIDEOGRAPH-FAC8cIDEOGRAPH-FAC9cIDEOGRAPH-FACAcIDEOGRAPH-FACBcIDEOGRAPH-FACCcIDEOGRAPH-FACD",
    "cIDEOGRAPH-FACEcIDEOGRAPH-FACFcIDEOGRAPH-FAD0cIDEOGRAPH-FAD1cIDEOGRAPH-FAD2cIDEOGRAPH-FAD3",
    "cIDEOGRAPH-FAD4cIDEOGRAPH-FAD5cIDEOGRAPH-FAD6cIDEOGRAPH-FAD7cIDEOGRAPH-FAD8"],
  ["aCJK COMPATIBILITY IDEOGRAPH-FAD9bRADICAL BAMBOOcBLUEcBOLT OF CLOTHcBONEcBOXcBRUSH ONEdTWO",
    "cC-SIMPLIFIED BIRDdCARTdDRAGONdEATdEVENdFISHdFLYdFROGdGATEdGOLDdHORSEdLEAFdLONGdSALTdSEE",
    "dSHELLdSILKdSPEECHdTANNED LEATHERdTOOTHdTURTLEdWINDcCHOKEcCITYcCIVILIANcCLIFFcCLOTHEScCOW",
    "cDEATHcDIVINATIONcDOGcEAT ONEdTHREEdTWOcEWEcEYEcFIREcFOOTcGHOSTcGRASS ONEdTHREEdTWOcHAND",
    "cHEADcHEART ONEdTWOcHORNcJ-SIMPLIFIED DRAGONdEVENdTOOTHdTURTLEcJADEcKNIFE ONEdTWO",
    "cLAME FOURdONEdTHREEdTWOcLONG ONEdTWOcMEATcMESHcMOONcMORTARcMOTHERcMOUND ONEdTWOcNET FOUR",
    "dONEdTHREEdTWOcOLDcPAW ONEdTWOcPERSONcRAINcRAMcRAPcREPEATcSEALcSECOND ONEdTHREEdTWOcSHEEP",
    "cSILKcSIMPLIFIED HALF TREE TRUNKdHORNdWALKdWHEATdYELLOWcSMALL ONEdTWOcSNAKEcSNOUT ONEdTWO",
    "cSPIRIT ONEdTWOcSUNcTABLEcTHREADcTIGERcTURTLEcWALK ONEdTWOcWATER ONEdTWOcWEST ONEdTWO",
    "bSTROKE BXGcDcHcHGcHPcHPWGcHXWGcHZcHZGcHZTcHZWcHZWGcHZZcHZZPcHZZZcHZZZGcNcPcPDcPGcPZcQcS",
    "cSGcSPcSTcSWcSWGcSWZcSZcSZWGcSZZcTcTNcWGcXGaCLAMSHELL MOBILE PHONEaCLAPPER BOARD",
    "aCLAPPING HANDS SIGNaCLASSICAL BUILDINGaCLEAR SCREEN SYMBOLaCLINKING BEER MUGSbGLASSES",
    "aCLIPBOARDaCLOCK FACE EIGHT OCLOCKcEIGHT-THIRTYcELEVEN OCLOCKcELEVEN-THIRTYcFIVE OCLOCK",
    "cFIVE-THIRTYcFOUR OCLOCKcFOUR-THIRTYcNINE OCLOCKcNINE-THIRTYcONE OCLOCKcONE-THIRTY",
    "cSEVEN OCLOCKcSEVEN-THIRTYcSIX OCLOCKcSIX-THIRTYcTEN OCLOCKcTEN-THIRTYcTHREE OCLOCK",
    "cTHREE-THIRTYcTWELVE OCLOCKcTWELVE-THIRTYcTWO OCLOCKcTWO-THIRTY",
    "aCLOCKWISE CLOSED CIRCLE ARROWbCONTOUR INTEGRALbDOWNWARDS AND UPWARDS OPEN CIRCLE ARROWS",
    "bGAPPED CIRCLE ARROWbINTEGRALbOPEN CIRCLE ARROWbRIGHT AND LEFT SEMICIRCLE ARROWS",
    "bRIGHTWARDS AND LEFTWARDS OPEN CIRCLE ARROWShWITH CIRCLED ONE OVERLAYbTOP SEMICIRCLE ARROW",
    "bTRIANGLE-HEADED OPEN CIRCLE ARROWaCLOSE UPaCLOSED BOOKbINTERSECTION WITH SERIFS",
    "bLOCK WITH KEYbMAILBOX WITH LOWERED FLAGdRAISED FLAGbSUBSETcOR EQUAL TObSUPERSET",
    "cOR EQUAL TObUMBRELLAbUNION WITH SERIFSeAND SMASH PRODUCTaCLOUDbWITH LIGHTNINGcRAINcSNOW",
    "cTORNADOaCLOWN FACEaCOATaCOCKROACHaCOCKTAIL GLASSaCOCONUTaCOFFINaCOINaCOLLISION SYMBOL",
    "aCOLONbEQUALSbSIGNaCOMBINING ACUTE ACCENTdBELOWcTONE MARKbACUTE-GRAVE-ACUTEbACUTE-MACRON",
    "bALMOST EQUAL TO ABOVEeBELOWbANNUITY SYMBOLbANTICLOCKWISE ARROW ABOVEcRING OVERLAY",
    "bASTERISK ABOVEcBELOWbBINDU BELOWbBREVEcBELOWbBREVE-MACRONbBRIDGE ABOVEcBELOWbCANDRABINDU",
    "bCARONcBELOWbCEDILLAbCIRCUMFLEX ACCENTdBELOWbCLOCKWISE ARROW ABOVEcRING OVERLAY",
    "bCOMMA ABOVEdRIGHTcBELOWbCONJOINING MACRONdBELOWbCYRILLIC DASIA PNEUMATA",
    "cHUNDRED MILLIONS SIGNdTHOUSANDS SIGNcKAVYKAcLETTER AdBEdBIG YUSdCHEdDEdDJERVdEFdELdEMdEN",
    "dERdESdES-TEdFITAdGHEdHAdHARD SIGNdIdIEdIOTIFIED AeBIG YUSeEdKAdLITTLE YUSdMONOGRAPH UKdO",
    "dOMEGAdPEdSHAdSHCHAdSOFT SIGNdTEdTSEdUdUKRAINIAN IEdVEdYATdYERUdYIdYUdZEdZHEcMILLIONS SIGN",
    "cPALATALIZATIONcPAYEROKcPOKRYTIEcPSILI PNEUMATAcTEN MILLIONS SIGNcTHOUSAND MILLIONS SIGN",
    "cTITLOdLEFT HALFdRIGHT HALFcVZMETbDELETION MARKbDEVANAGARI DIGIT EIGHTdFIVEdFOURdNINEdONE",
    "dSEVENdSIXdTHREEdTWOdZEROcLETTER AdKAdNAdPAdRAdUdVIcSIGN AVAGRAHAbDIAERESIScBELOW",
    "bDIAERESIS-RINGbDOT ABOVEdLEFTdRIGHTcBELOWdLEFTbDOTTED ACUTE ACCENTcGRAVE ACCENT",
    "bDOUBLE ACUTE ACCENTcBREVEdBELOWcCIRCUMFLEX ABOVEcGRAVE ACCENTcINVERTED BREVEeBELOW",
    "cLOW LINEcMACRONdBELOWcOPEN MARK BELOWcOVERLINEcPARENTHESES ABOVEcPLUS SIGN ABOVEeBELOW",
    "cRIGHTWARDS ARROW BELOWcRING BELOWcTILDEdLEFT HALFdRIGHT HALFcVERTICAL LINE ABOVEeBELOW",
    "dSTROKE OVERLAYbDOUBLED CIRCUMFLEX ACCENTbDOWN TACK BELOWbDOWNWARDS ARROWbENCLOSING CIRCLE",
    "dBACKSLASHcDIAMONDcKEYCAPcSCREENcSQUAREcUPWARD POINTING TRIANGLEbEQUALS SIGN BELOWbFERMATA",
    "bFOUR DOTS ABOVEbGLAGOLITIC LETTER AZUdBIG YUSdBUKYdCHRIVIdDJERVIdDOBROdFITAdFRITUdGLAGOLI",
    "dHERUdIdINITIAL IZHEdIOTATED BIG YUSeSMALL YUSdIZHEdKAKOdLJUDIJEdMYSLITEdNASHIdONUdPOKOJI",
    "dRITSIdSHAdSHTAdSLOVOdSMALL YUSdTSIdTVRIDOdUKUdVEDEdYATIdYERIdYERUdYESTUdYOdYUdZEMLJA",
    "dZHIVETEbGRANTHA DIGIT FIVEdFOURdONEdSIXdTHREEdTWOdZEROcLETTER AdKAdNAdPAdVI",
    "bGRAPHEME JOINERbGRAVE ACCENTdBELOWcTONE MARKbGRAVE-ACUTE-GRAVEbGRAVE-MACRON",
    "bGREEK DIALYTIKA TONOScKORONIScMUSICAL PENTASEMEdTETRASEMEdTRISEMEcPERISPOMENI",
    "cYPOGEGRAMMENIbHOMOTHETIC ABOVEbHOOK ABOVEbHORNbINFINITYbINVERTED BREVEdBELOWcBRIDGE BELOW",
    "cDOUBLE ARCH ABOVEeBELOWbIS BELOWbKATAKANA-HIRAGANA SEMI-VOICED SOUND MARK",
    "cVOICED SOUND MARKbKAVYKA ABOVE LEFTdRIGHTbLATIN LETTER SMALL CAPITAL GfLfMfNfR",
    "cSMALL LETTER AfWITH DIAERESISeAEeALPHAeAOeAVeBeBETAeCfCEDILLAeDeEeESHeETHeF",
    "eFLATTENED OPEN A ABOVEeGeHeIeINSULAR DfGfRfTeKeLfWITH DOUBLE MIDDLE TILDEeLONG SeMeNeO",
    "fWITH DIAERESISgLIGHT CENTRALIZATION STROKEePeRfBELOWfROTUNDAeSeSCHWAeTeTURNED W BELOWeU",
    "fWITH DIAERESISgLIGHT CENTRALIZATION STROKEeVeWfBELOWeXeZbLEFT ANGLE ABOVEdBELOW",
    "cARROW ABOVEdBELOWcARROWHEAD ABOVEdBELOWcHALF RING ABOVEeBELOWcHARPOON ABOVE",
    "cPARENTHESIS ABOVE LEFTdBELOW LEFTcRIGHT ARROW ABOVEeBELOWcTACK BELOW",
    "bLEFTWARDS ARROW OVERLAYcHARPOON WITH BARB DOWNWARDSbLIGATURE LEFT HALFeBELOWcRIGHT HALF",
    "eBELOWbLIGHT CENTRALIZATION STROKE BELOWbLONG DOUBLE SOLIDUS OVERLAYcSOLIDUS OVERLAY",
    "cSTROKE OVERLAYcVERTICAL LINE OVERLAYbLOW LINEbMACRONcBELOWcLEFT HALFeBELOWcRIGHT HALF",
    "eBELOWbMACRON-ACUTEbMACRON-BREVEbMACRON-GRAVEbMINUS SIGN BELOWbNOT TILDE ABOVE",
    "bNUMBER SIGN ABOVEbOGONEKcABOVEbOLD PERMIC LETTER ANeDOIeNENOEeSIIeZATAbOPEN MARK BELOW",
    "bOVERLINEbPALATALIZED HOOK BELOWbPARENTHESES ABOVEcBELOWcOVERLAYbPLUS SIGN ABOVEdBELOW",
    "bRETROFLEX HOOK BELOWbREVERSE SOLIDUS OVERLAYbREVERSED COMMA ABOVEbRIGHT ARROW ABOVEdBELOW",
    "cARROWHEAD ABOVEdAND DOWN ARROWHEAD BELOWeUP ARROWHEAD BELOWdBELOWcHALF RING ABOVEeBELOW",
    "cHARPOON ABOVEcPARENTHESIS ABOVE RIGHTdBELOW RIGHTcTACK BELOW",
    "bRIGHTWARDS HARPOON WITH BARB DOWNWARDSbRING ABOVEcBELOWcOVERLAYbSEAGULL BELOW",
    "bSHORT SOLIDUS OVERLAYcSTROKE OVERLAYcVERTICAL LINE OVERLAYbSNAKE BELOWbSQUARE BELOW",
    "cBRACKETS ABOVEbSTRONG CENTRALIZATION STROKE BELOWbSUSPENSION MARKbTHREE DOTS ABOVEbTILDE",
    "cBELOWcLEFT HALF BELOWcOVERLAYcRIGHT HALF BELOWbTRIPLE ACUTE ACCENTcDOTcUNDERDOT",
    "bTURNED COMMA ABOVEbUP TACK ABOVEdBELOWbUPWARDS ARROW BELOWbUR ABOVEbUS ABOVE",
    "bVERTICAL LINE ABOVEdBELOWcTILDEbWIDE BRIDGE ABOVEcINVERTED BRIDGE BELOWbWIGGLY LINE BELOW",
    "bX ABOVEcBELOWbX-X BELOWbZIGZAG ABOVEcBELOWaCOMETaCOMMAaCOMMERCIAL ATbMINUS SIGNaCOMPASS",
    "aCOMPLEMENTaCOMPOSITION SYMBOLaCOMPRESSIONaCONFETTI BALL"],
  ["aCONFOUNDED FACEaCONFUSED FACEaCONGRUENT WITH DOT ABOVEaCONICAL TAPERaCONJUNCTION",
    "aCONSTRUCTION SIGNbWORKERaCONTAINS AS MEMBERcNORMAL SUBGROUPeOR EQUAL TO",
    "bWITH LONG HORIZONTAL STROKEcOVERBARcVERTICAL BAR AT END OF HORIZONTAL STROKE",
    "aCONTINUOUS UNDERLINE SYMBOLaCONTOUR INTEGRALaCONTROL KNOBSbSEQUENCE INTRODUCER",
    "aCONVENIENCE STOREaCOOKED RICEaCOOKIEaCOOKINGaCOPTIC CAPITAL LETTER AKHMIMIC KHEIdALFA",
    "dBOHAIRIC KHEIdCROSSED SHEIdCRYPTOGRAMMIC EIEeGANGIAeNIeSHEIdDALDAdDEIdDIALECT-P ALEFeHORI",
    "eKAPAeNIdEIEdFEIdFIdGAMMAdGANGIAdHATEdHORIdIAUDAdKAPAdKHEIdKHIdKSIdL-SHAPED HAdLAULAdMIdNI",
    "dOdOLD COPTIC AINfDJAfESHfGANGIAfHAfHATfHEIfHORIfOOUfSHEIfSHIMAeNUBIAN NGIfNYIfSHIMAfWAU",
    "dOOUdPIdPSIdROdSAMPIdSHEIdSHIMAdSIMAdSOUdTAUdTHETHEdUAdVIDAdZATAbCOMBINING NI ABOVE",
    "cSPIRITUS ASPERdLENISbEPACT DIGIT EIGHTdFIVEdFOURdNINEdONEdSEVENdSIXdTHREEdTWO",
    "cNUMBER EIGHT HUNDREDdEIGHTYdFIFTYdFIVE HUNDREDdFORTYdFOUR HUNDREDdNINE HUNDREDdNINETY",
    "dONE HUNDREDdSEVEN HUNDREDdSEVENTYdSIX HUNDREDdSIXTYdTENdTHIRTYdTHREE HUNDREDdTWENTY",
    "dTWO HUNDREDcTHOUSANDS MARKbFRACTION ONE HALFbFULL STOPbMORPHOLOGICAL DIVIDER",
    "bOLD NUBIAN DIRECT QUESTION MARKdFULL STOPdINDIRECT QUESTION MARKdVERSE DIVIDER",
    "bSMALL LETTER AKHMIMIC KHEIdALFAdBOHAIRIC KHEIdCROSSED SHEIdCRYPTOGRAMMIC EIEeGANGIAeNI",
    "eSHEIdDALDAdDEIdDIALECT-P ALEFeHORIeKAPAeNIdEIEdFEIdFIdGAMMAdGANGIAdHATEdHORIdIAUDAdKAPA",
    "dKHEIdKHIdKSIdL-SHAPED HAdLAULAdMIdNIdOdOLD COPTIC AINfDJAfESHfGANGIAfHAfHATfHEIfHORIfOOU",
    "fSHEIfSHIMAeNUBIAN NGIfNYIfSHIMAfWAUdOOUdPIdPSIdROdSAMPIdSHEIdSHIMAdSIMAdSOUdTAUdTHETHEdUA",
    "dVIDAdZATAbSYMBOL KAIcKHI ROcMI ROcPI ROcSHIMA SIMAcSTAUROScTAU ROaCOPYLEFT SYMBOL",
    "aCOPYRIGHT SIGNaCORALaCORNISH VERSE DIVIDERaCORRESPONDS TOaCOUCH AND LAMPaCOUNTERBORE",
    "aCOUNTERSINKaCOUNTING ROD TENS DIGIT EIGHTeFIVEeFOUReNINEeONEeSEVENeSIXeTHREEeTWO",
    "cUNIT DIGIT EIGHTeFIVEeFOUReNINEeONEeSEVENeSIXeTHREEeTWOaCOUPLE WITH HEARTaCOWbFACEaCR",
    "aCRABaCREDIT CARDaCRESCENT MOONaCRICKETbBAT AND BALLaCROCODILEaCROISSANTaCROSS MARK",
    "bOF JERUSALEMcLORRAINEbPATTY WITH LEFT CROSSBARdRIGHT CROSSBARbPOMMEE",
    "cWITH HALF-CIRCLE BELOWaCROSSED FLAGSbNEGATIVE SQUARED LATIN CAPITAL LETTER PbSWORDS",
    "aCROSSING LANESaCROWNaCRUTCHaCRUZEIRO SIGNaCRYING CAT FACEbFACEaCRYSTAL BALLaCSIaCUBE ROOT",
    "aCUCUMBERaCUNEIFORM NUMERIC SIGN EIGHT ASHeDISHeGESH2eSHAR2eUfVARIANT FORM",
    "eVARIANT FORM USSUgUSSU3dELAMITE FIFTYeFORTYeONE THIRDeTWO THIRDSdFIVE ASHfTENUeBAN2",
    "fVARIANT FORMeBURUeDISHeGESH2eGESHUeSHAR2eSHARUeSIXTHS DISHeUfVARIANT FORMdFOUR ASHfTENU",
    "eBAN2fVARIANT FORMeBURUeDISHeGESH2eGESHUeSHAR2eSHARUeUfVARIANT FORMeVARIANT FORM LIMMUhAhB",
    "gLIMMU4dNIGIDAESHdNIGIDAMINdNINE ASHeDISHeGESH2eSHAR2eUfVARIANT FORMeVARIANT FORM ILIMMUhA",
    "gILIMMU3gILIMMU4dOLD ASSYRIAN ONE QUARTERgSIXTHdONE BAN2eBURUeEIGHTH ASHeESHE3eGESH2eGESHU",
    "eHALF GUReQUARTER ASHfGUReSHARUeTHIRD DISHfVARIANT FORM AdSEVEN ASHeDISHeGESH2eSHAR2eU",
    "fVARIANT FORMeVARIANT FORM IMIN AhBgIMIN3dSHAR2 TIMES GAL PLUS DISHhMINdSIX ASHfTENUeDISH",
    "eGESH2eSHAR2eUfVARIANT FORMeVARIANT FORM ASH9dTHREE ASHfTENUeBAN2eBURUfVARIANT FORMeDISH",
    "eGESH2eGESHUeSHAR2fVARIANT FORMeSHARUfVARIANT FORMeVARIANT FORM ESH16gESH21dTWO ASHfTENU",
    "eBAN2eBURUeESHE3eGESH2eGESHUeSHAR2eSHARUeTHIRDS DISHfVARIANT FORM A",
    "bPUNCTUATION SIGN DIAGONAL COLONeQUADCOLONeTRICOLONdOLD ASSYRIAN WORD DIVIDER",
    "dVERTICAL COLONbSIGN AdTIMES AeBADeGAN2 TENUeHAeIGIeLAGAR GUNUeMUSHeSAGcA2cABdGUNU",
    "dTIMES ASH2eDUN3 GUNUeGALeGAN2 TENUeHAeIGI GUNUeIMINeLAGABeNUNfTENUeSHESHeSHU2",
    "eU PLUS U PLUS UcAB2dTIMES AeBALAGeGAN2 TENUeME PLUS ENeSHA3eTAK4cADdTIMES ESH2cAK",
    "dTIMES ERIN2eSHITA PLUS GISHcALdTIMES ALeDIM2eGISHeHAeKAD3eKIeSHEeUSHcALANcALEPHcAMAR",
    "dTIMES KUGeSHEcANdOVER ANdPLUS NAGA OPPOSING AN PLUS NAGAfSQUAREDdTHREE TIMEScANSHEcAPIN",
    "cARADdTIMES KURcARKABcASAL2cASHdKABA TENUdOVER ASH OVER ASHhCROSSING ASH OVER ASH OVER ASH",
    "fTUG2 OVER TUG2 TUG2 OVER TUG2 PAPdZIDA TENUcASH2cASHGABcBAcBADdTIMES DISH TENUcBAG3",
    "cBAHAR2dTIMES AB2eNIeZAcBALdOVER BALcBALAGcBARcBARA2cBIdTIMES AeGAReIGI GUNUcBU",
    "dCROSSING BUdOVER BU ABfTIMES NA2fUNcBULUGdOVER BULUGcBURcBUR2cDAdTIMES TAK4cDAG",
    "dKISIM5 TIMES A PLUS MASHfAMARfBALAGfBIfGAgPLUS MASHfGIfGIR2fGUDfHAfIRgPLUS LUfKAKfLAfLU",
    "gPLUS MASH2fLUMfNEfPAP PLUS PAPfSIfTAK4fU2 PLUS GIR2hMASHfUSHdTIMES KURcDAG3cDAMcDARcDARA3",
    "cDARA4cDIcDIBcDIMdTIMES IGIeSHEeU U UcDIM2dTIMES UDcDINdKASKAL U GUNU DISHcDISHdPLUS SHU",
    "cDUdGUNUdOVER DUdSHESHIGcDUBdTIMES ESH2eSHEcDUB2cDUGdTIMES ANSHEeASHfAT LEFTeDINeDUNeERIN2",
    "eGAeGIeGIR2 GUNUeGISHeHAeHIeIGI GUNUeKASKALeKUReKUSHU2fPLUS KASKALeLAK-020eLAMfTIMES KUR",
    "eLUH PLUS GISHeMASHeMESeMIeNIePIeSHEeSI GUNUcDUGUDcDUHcDUNcDUN3dGUNUeGUNUcDUN4cDUR2cE",
    "dOVER E NUN OVER NUNdTIMES PAPcE2dTIMES A PLUS HA PLUS DAeGAReKUReMIePAPeSALeSHEeUcEDIN",
    "cEGIRcELcENdCROSSING ENdOPPOSING ENdSQUAREDdTIMES GAN2fTENUeMEcERENcERIN2dXcESH2",
    "dCROSSING ESH2cEZENdSHESHIG TIMES ASHfHIfIGI GUNUfLAfLALfMEfMESfSUdTIMES AfPLUS LAL",
    "hTIMES LALeANeBADeDUN3 GUNUgGUNUeGUDeHAfGUNUeIGI GUNUeKASKALfSQUAREDeKU3eLAeLAL TIMES LAL",
    "eLIeLUeSHEeSUeU2eUDcGAdGUNUcGA2dOVER GA2dTIMES A PLUS DA PLUS HAgHAgIGIeAB2 TENU PLUS TAB",
    "eANfPLUS KAK PLUS AeASHeASH2fPLUS GALeBADeBAHAR2eBAR PLUS RAeBURfPLUS RAeDAeDIeDIM GUNU",
    "fTIMES SHEeDUBeDUG TIMES IGI GUNUgKASKALeELfPLUS LAeENfTIMES GAN2 TENUeERENeGAeGAN2 TENU",
    "eGARfPLUS DIgNEeGIeGI4fPLUS AeGIR2 PLUS SUeHA PLUS AgLU PLUS ESH2eHALfPLUS LAeHI PLUS LI",
    "eHUB2eIGI GUNUeISH PLUS HU PLUS ASHeKAKeKASKALeKIDfPLUS LALeKU3 PLUS ANeKUSHU2 PLUS KASKAL",
    "eLAeLAMfTIMES KUReLUHeME PLUS ENeMIeMUSHeNEfPLUS E2gGIeNUNfOVER NUNePAeSALeSAReSHE",
    "fPLUS TUReSHIDeSHIMeSUMeTAK4eUeUDfPLUS DUeZIZ2cGABAdCROSSING GABAdROTATED NINETY DEGREES",
    "cGADdOVER GAD GAR OVER GARcGALdGAD OVER GAD GAR OVER GARcGALAMcGAMcGANcGAN2dCROSSING GAN2",
    "dOVER GAN2dTENUcGARcGAR3cGASHANcGE22cGESHTINdTIMES KUReUcGIdCROSSING GIdTIMES EeUcGI4",
    "dCROSSING GI4dOVER GI4cGIDIMcGIGcGIR2dGUNUcGIR3dTIMES A PLUS IGIeGAN2 TENUeIGIeLU PLUS IGI",
    "ePAcGISALcGISHdCROSSING GISHdTENUdTIMES BADeGISH CROSSING GISHeTAK4cGUdCROSSING GUcGU2",
    "dGUNUdTIMES IGI GUNUeKAKfTIMES IGI GUNUeNUNeSAL PLUS TUG2cGUDdOVER GUD LUGAL",
    "dPLUS GISH TIMES TAK4dTIMES A PLUS KUReKURcGULcGUMdTIMES SHEcGURcGUR7cGURUNcGURUSHcHAdGUNU",
    "dTENUeGUNUcHALcHIdTIMES ASHfOVER HI TIMES ASHeASH2eBADeDISHeGADeKINeNUNeSHEeUcHUcHUB2"],
  ["aCUNEIFORM SIGN HUB2 TIMES ANeHALeKASKALeLISHeUDcHUL2cHUSHcIdAcIBcIDIMdOVER IDIM BUR",
    "fSQUAREDcIGcIGIdDIBdGUNUdOVER IGI SHIR OVER SHIR UD OVER UDdRIcILdTIMES GAN2 TENUcIL2cIM",
    "dCROSSING IMdOPPOSING IMdSQUAREDdTIMES TAK4cIMINcINcIRcISHcKAdTIMES AeADfPLUS KU3eANSHE",
    "eASH2eASH3eBADeBALAGeBAReBIeBUeERIN2eESH2eGAeGALeGAN2 TENUeGARfPLUS SHA3 PLUS AeGIeGIR2",
    "eGISHfCROSSING GISHfPLUS SAReGUeGUDeGUR7eHI TIMES ASH2eIGIeIMeKAeKAKeKIeKIDeLIeLUeLUMeME",
    "fPLUS DUgGIgTEeMIfPLUS NUNUZeNEeNUNePAePIeRUeSAeSAReSHAeSHEeSHIDeSHUeSHULeSIGeSUHUReTAReTU",
    "eUfU UeU2eUDeUMUM TIMES PAeUReUR2eUSHeZIcKA2dCROSSING KA2cKABcKAD2cKAD3cKAD4cKAD5",
    "dOVER KAD5cKAKdTIMES IGI GUNUcKALdCROSSING KALdTIMES BADcKAM2cKAM4cKAP ELAMITEcKASKAL",
    "dLAGAB TIMES U OVER LAGAB TIMES UdOVER KASKAL LAGAB TIMES U OVER LAGAB TIMES UcKESH2cKI",
    "dTIMES BADeUeUDcKIDcKINcKISALcKISHcKISIM5dOVER KISIM5cKU",
    "dOVER HI TIMES ASH2 KU OVER HI TIMES ASH2cKU3cKU4dVARIANT FORMcKU7cKULdGUNUcKUNcKUR",
    "dOPPOSING KURcKUSHU2cKWU318cLAcLAGABdSQUAREDdTIMES AfPLUS DA PLUS HAgGARgLALeALeAN",
    "eASH ZIDA TENUeBADeBIeDAReENeGAeGAReGIeGUDfPLUS GUDeHAeHALeHI TIMES NUNeIGI GUNUeIM",
    "fPLUS HAgLUeKIeKINeKU3eKULfPLUS HI PLUS AeLAGABeLISHeLUeLULeMEfPLUS ENeMUSHeNE",
    "eSHE PLUS SUMeSHITA PLUS GISH PLUS ERIN2hTENUeSHU2fPLUS SHU2eSUMeTAGeTAK4",
    "eTE PLUS A PLUS SU PLUS NAeUfPLUS AgU PLUS UeU2 PLUS ASHeUDeUSHeZU OVER ZUcLAGARdGUNU",
    "eOVER LAGAR GUNU SHEdTIMES SHEfPLUS SUMcLAHSHUcLAK-003cLAK-021cLAK-025cLAK-030cLAK-050",
    "cLAK-051cLAK-062cLAK-079 OVER LAK-079 GUNUcLAK-080cLAK-081 OVER LAK-081cLAK-092cLAK-130",
    "cLAK-142cLAK-210cLAK-219cLAK-220cLAK-225cLAK-228cLAK-238cLAK-265cLAK-266cLAK-343cLAK-347",
    "cLAK-348cLAK-383cLAK-384cLAK-390cLAK-441cLAK-449dTIMES GUeIGIePAP PLUS LU3gPAP PLUS LU3",
    "eU2 PLUS BAcLAK-450cLAK-457cLAK-470cLAK-483cLAK-490cLAK-492cLAK-493cLAK-495cLAK-550",
    "cLAK-608cLAK-617dTIMES ASHeBADeDUN3 GUNU GUNUeKU3eLAeTAReTEeU2eUDeURUDAcLAK-636cLAK-648",
    "dTIMES DUBeGAeIGIfGUNUeNIePAP PLUS PAP PLUS LU3eSHESH PLUS KIeUDeURUDAcLAK-724cLAK-749cLAL",
    "dTIMES LALcLAMdTIMES KURfPLUS RUcLIcLILcLIMMU2cLISHcLUdTIMES BADcLU2dCROSSING LU2",
    "dGUNU TIMES ASHdOPPOSING LU2dSHESHIGeTIMES BADdSQUAREDdTENUdTIMES ALeBADeDISHeESH2",
    "fPLUS LALfTENUeGAN2 TENUeHALeHI TIMES BADeIMeKAD2eKAD3fPLUS ASHeKIeLA PLUS ASHeLAGAB",
    "eME PLUS ENeNEeNUePAPfPLUS PAP PLUS LU3eSHUeSI PLUS ASHeSIK2 PLUS BUeTAK4eTUG2cLU3cLUGAL",
    "dOPPOSING LUGALdOVER LUGALdSHESHIGcLUHcLULcLUMdOVER LUMfGAR OVER GARcMAdGUNUdTIMES TAK4",
    "cMA2cMAHcMARcMASHcMASH2cMEcMEScMESHcMIdPLUS ZA7cMINcMUdOVER MUcMUGdGUNUcMUNSUBcMURGU2cMUSH",
    "dCROSSING MUSHdOVER MUSHfTIMES A PLUS NAgGAgKAKdTIMES AeKUReZAcMUSH3dGUNUdTIMES AfPLUS DI",
    "eDIeZAcNAcNA2cNA4cNAGAdINVERTEDdOPPOSING NAGAdTIMES SHU TENUcNAGARcNAMdNUTILLUcNAM2cNE",
    "dSHESHIGdTIMES AeUDcNIdTIMES EcNI2cNIMdTIMES GAN2 TENUeGAR PLUS GAN2 TENUcNINcNIN9cNINDA2",
    "dTIMES ANeASHfPLUS ASHeBALeDIM GUNUeGIeGISHeGUDeGULeHIeKESH2eLAK-050eMASH",
    "eME PLUS GAN2 TENUeNEeNUNePAP PLUS PAPeSHEfPLUS A ANgASHhPLUS ASHeUfPLUS UeU2 PLUS ASH",
    "eURUDAeUSHcNISAGcNUcNU11dOVER NU11 BUR OVER BURdROTATED NINETY DEGREESdTENUcNUN",
    "dCROSSING NUNfLAGAR OVER LAGARdLAGAR TIMES GARfMASHfSALgOVER NUN LAGAR TIMES SALfUSH",
    "dOVER NUNdTENUcNUNUZdAB2 TIMES ASHGABfBIfDUGfGUDfIGI GUNUfKAD3fLAfNEfSILA3fU2",
    "dKISIM5 TIMES BIgUcPAcPADcPANcPAPcPESH2dASTERISKcPIdCROSSING PIdTIMES AeABeBIeBUeEeIeIBeU",
    "eU2cPIR2cPIRIGdOPPOSING PIRIGdTIMES KALeUDeZAcRAcRABcRIcRUcSAcSAGdGUNUeTIMES HAdNUTILLU",
    "dOVER SAGdTIMES AeDUeDUBeENeHAeIGI GUNUeKAKeKUReLUMeMIeNUNeSALeSHE AT LEFTeSHIDeTABeTAK4",
    "eU2eUBeUMeUReUSHcSALdLAGAB TIMES ASH2cSANGA2cSARcSHAcSHA3dTIMES AeBADeGISHeNEeSHU2eTUReU",
    "fPLUS AcSHA6dTENUcSHAB6cSHAR2cSHEdHUdOVER SHEfGAD OVER GAD GAR OVER GAR",
    "fTAB OVER TAB GAR OVER GARdPLUS HUB2eNAM2eSARcSHEG9cSHENcSHESHcSHESH2cSHESHLAMcSHID",
    "dTIMES AeIMcSHIMdTIMES AeBALeBULUGeDINeGAReIGIfGUNUeKUSHU2eLULeMUGeSALcSHINIGcSHIR",
    "dOVER SHIR BUR OVER BURdTENUcSHITAcSHUdOVER INVERTED SHUcSHU2dPLUS DUG TIMES NI",
    "eE2 TIMES ANcSHUBURcSIdGUNUdTIMES TAK4cSIGcSIG4dOVER SIG4 SHU2cSIK2cSILA3cSUdOVER SUcSUD",
    "cSUD2cSUHURcSUMcSUMASHcSURcSUR9cTAdASTERISKdGUNUdTIMES HIeMIcTAB",
    "dOVER TAB NI OVER NI DISH OVER DISHdSQUAREDcTAGdTIMES BIeGUDeSHEeSHUeTUG2eUDcTAK4dPLUS SAG",
    "cTARcTEdGUNUcTIdTENUcTI2cTILcTIRdOVER TIRfGAD OVER GAD GAR OVER GARdTIMES TAK4cTUcTUG2cTUK",
    "cTUMdTIMES GAN2 TENUeTHREE DISHcTURdOVER TUR ZA OVER ZAcUdGUD",
    "dOVER U PA OVER PA GAR OVER GARfSUR OVER SURfU REVERSED OVER U REVERSEDdUeUcU2cUBcUDdGUNU",
    "dKUSHU2dSHESHIGeTIMES BADdTIMES BADeMIeU PLUS U PLUS UjGUNUcUDUGcUMdTIMES LAGABeMEfPLUS DA",
    "eSHA3eUcUMBINcUMUMdTIMES KASKALePAcUNdGUNUcURdCROSSING URdSHESHIGcUR2dINVERTED",
    "dTIMES A PLUS HAgNAeALeHAeNUNeU2fPLUS ASHgBIeUDcUR4cURIcURI3cURUdTIMES AeASHGABeBAReDARA3",
    "eDUNeGAeGALeGAN2 TENUeGAReGUeHAeIGIeIMeISHeKIeLAK-668eLU3eLUMeMINePAeSHEeSIG4eTU",
    "eU PLUS GUDeUDeURUDAcURUDAdTIMES UcUSHdTIMES AeKUeKUReTAK4cUSH2cUSHUMXcUSHXcUTUKIcUZ3",
    "dTIMES KASKALcUZUcZAdSQUARED TIMES KURdTENUcZA7cZAGcZAMXcZE2cZIdOVER ZIcZI3cZIBdKABA TENU",
    "cZIGcZIZ2cZUdOVER ZU PLUS SARcZU5dTIMES AeTHREE DISH TENUcZUBURcZUMaCUP ON BLACK SQUARE",
    "bWITH STRAWaCUPCAKEaCUPIDOaCURLING STONEaCURLY BRACKET EXTENSIONbLOGICAL ANDcORbLOOP",
    "aCURRENCY EXCHANGEbSIGNaCURRY AND RICEaCURVED STEM PARAGRAPH SIGN ORNAMENTaCUSTARDaCUSTOMS",
    "aCUT OF MEATaCYCLONEaCYLINDRICITYaCYPRIOT SYLLABLE AcEcIcJAcJOcKAcKEcKIcKOcKUcLAcLEcLIcLO",
    "cLUcMAcMEcMIcMOcMUcNAcNEcNIcNOcNUcOcPAcPEcPIcPOcPUcRAcREcRIcROcRUcSAcSEcSIcSOcSUcTAcTEcTI",
    "cTOcTUcUcWAcWEcWIcWOcXAcXEcZAcZOaCYPRO-MINOAN SIGN CM001cCM002cCM004cCM005cCM006cCM007",
    "cCM008cCM009cCM010cCM011cCM012cCM012BcCM013cCM015cCM017cCM019cCM021cCM023cCM024cCM025",
    "cCM026cCM027cCM028cCM029cCM030cCM033cCM034cCM035cCM036cCM037cCM038cCM039cCM040cCM041cCM044",
    "cCM046cCM047cCM049cCM050cCM051cCM052cCM053cCM054cCM055cCM056cCM058cCM059cCM060cCM061cCM062",
    "cCM063cCM064cCM066cCM067cCM068cCM069cCM070cCM071cCM072cCM073cCM074cCM075cCM075BcCM076",
    "cCM078cCM079cCM080cCM081cCM082cCM083cCM084cCM085cCM086cCM087cCM088cCM089cCM090cCM091cCM092",
    "cCM094cCM095cCM096cCM097cCM098cCM099cCM100cCM101cCM102cCM103cCM104cCM105cCM107cCM108cCM109",
    "cCM110cCM112cCM114cCM301cCM302aCYRILLIC CAPITAL LETTER AeWITH BREVEfDIAERESIS",
    "dABKHASIAN CHEfWITH DESCENDEReDZEeHAdALEUT KAdBARRED OfWITH DIAERESISdBASHKIR KAdBE",
    "dBIG YUSdBINOCULAR OdBLENDED YUS"],
  ["aCYRILLIC CAPITAL LETTER BROAD OMEGAdBYELORUSSIAN-UKRAINIAN IdCCHEdCHEeWITH DESCENDER",
    "fDIAERESISfVERTICAL STROKEdCLOSED LITTLE YUSdCROSSED OdDCHEdDEdDJEdDJERV",
    "dDOUBLE MONOCULAR OeOdDWEdDZEdDZELOdDZHEdDZWEdDZZEdDZZHEdEeWITH DIAERESISdEFdEL",
    "eWITH DESCENDERfHOOKfMIDDLE HOOKfTAILdEMeWITH TAILdENeWITH DESCENDERfHOOKfLEFT HOOK",
    "fMIDDLE HOOKfTAILdEReWITH TICKdESeWITH DESCENDERdFITAdGHEeWITH DESCENDERfMIDDLE HOOK",
    "fSTROKEgAND HOOKfUPTURNdGJEdHAeWITH DESCENDERfHOOKfSTROKEdHARD SIGNdHWEdIeWITH DIAERESIS",
    "fGRAVEfMACRONdIEeWITH BREVEfGRAVEdIOdIOTAdIOTIFIED AeBIG YUSeCLOSED LITTLE YUSeE",
    "eLITTLE YUSeYATdIZHITSAeWITH DOUBLE GRAVE ACCENTdJEdKAeWITH DESCENDERfHOOKfSTROKE",
    "fVERTICAL STROKEdKHAKASSIAN CHEdKJEdKOMI DEeDJEeDZJEeLJEeNJEeSJEeTJEeZJEdKOPPAdKSIdLHA",
    "dLITTLE YUSdLJEdMONOCULAR OdMONOGRAPH UKdNEUTRAL YERdNJEdOeWITH DIAERESISdOMEGAeWITH TITLO",
    "dOTdPEeWITH DESCENDERfMIDDLE HOOKdPSIdQAdREVERSED DZEeTSEeYUeZEdRHAdROUND OMEGAdSCHWA",
    "eWITH DIAERESISdSEMISOFT SIGNdSHAdSHCHAdSHHAeWITH DESCENDERdSHORT IfWITH TAILeUdSHWE",
    "dSOFT DEeELeEMeSIGNdSTRAIGHT UfWITH STROKEdTCHEdTEeWITH DESCENDERfMIDDLE HOOKdTSEdTSHE",
    "dTSSEdTSWEdTWEdUeWITH DIAERESISfDOUBLE ACUTEfMACRONdUKdUKRAINIAN IEdVEdWEdYAdYAEdYATdYERU",
    "eWITH BACK YERfDIAERESISdYIdYNdYUdZEeWITH DESCENDERfDIAERESISdZEMLYAdZHEeWITH BREVE",
    "fDESCENDERfDIAERESISdZHWEcLIGATURE A IEdEN GHEdTE TSEbKAVYKAbLETTER MULTIOCULAR OcPALOCHKA",
    "cSMALL CAPITAL ELbPAYEROKbSMALL LETTER AeWITH BREVEfDIAERESISdABKHASIAN CHEfWITH DESCENDER",
    "eDZEeHAdALEUT KAdBARRED OfWITH DIAERESISdBASHKIR KAdBEdBIG YUSdBINOCULAR OdBLENDED YUS",
    "dBROAD OMEGAdBYELORUSSIAN-UKRAINIAN IdCCHEdCHEeWITH DESCENDERfDIAERESISfVERTICAL STROKE",
    "dCLOSED LITTLE YUSdCROSSED OdDCHEdDEdDJEdDJERVdDOUBLE MONOCULAR OeOdDWEdDZEdDZELOdDZHE",
    "dDZWEdDZZEdDZZHEdEeWITH DIAERESISdEFdELeWITH DESCENDERfHOOKfMIDDLE HOOKfTAILdEMeWITH TAIL",
    "dENeWITH DESCENDERfHOOKfLEFT HOOKfMIDDLE HOOKfTAILdEReWITH TICKdESeWITH DESCENDERdFITAdGHE",
    "eWITH DESCENDERfMIDDLE HOOKfSTROKEgAND HOOKfUPTURNdGJEdHAeWITH DESCENDERfHOOKfSTROKE",
    "dHARD SIGNdHWEdIeWITH DIAERESISfGRAVEfMACRONdIEeWITH BREVEfGRAVEdIOdIOTAdIOTIFIED A",
    "eBIG YUSeCLOSED LITTLE YUSeEeLITTLE YUSeYATdIZHITSAeWITH DOUBLE GRAVE ACCENTdJEdKA",
    "eWITH DESCENDERfHOOKfSTROKEfVERTICAL STROKEdKHAKASSIAN CHEdKJEdKOMI DEeDJEeDZJEeLJEeNJE",
    "eSJEeTJEeZJEdKOPPAdKSIdLHAdLITTLE YUSdLJEdLONG-LEGGED DEdMONOCULAR OdMONOGRAPH UKdNARROW O",
    "dNEUTRAL YERdNJEdOeWITH DIAERESISdOMEGAeWITH TITLOdOTdPALOCHKAdPEeWITH DESCENDER",
    "fMIDDLE HOOKdPSIdQAdREVERSED DZEeTSEeYUeZEdRHAdROUND OMEGAdROUNDED VEdSCHWAeWITH DIAERESIS",
    "dSEMISOFT SIGNdSHAdSHCHAdSHHAeWITH DESCENDERdSHORT IfWITH TAILeUdSHWEdSOFT DEeELeEMeSIGN",
    "dSTRAIGHT UfWITH STROKEdTALL HARD SIGNeTEeYATdTCHEdTEeWITH DESCENDERfMIDDLE HOOK",
    "dTHREE-LEGGED TEdTSEdTSHEdTSSEdTSWEdTWEdUeWITH DIAERESISfDOUBLE ACUTEfMACRONdUK",
    "dUKRAINIAN IEdUNBLENDED UKdVEdWEdWIDE ESdYAdYAEdYATdYERUeWITH BACK YERfDIAERESISdYIdYNdYU",
    "dZEeWITH DESCENDERfDIAERESISdZEMLYAdZHEeWITH BREVEfDESCENDERfDIAERESISdZHWEcLIGATURE A IE",
    "dEN GHEdTE TSEbTHOUSANDS SIGN"]]

end PlainMath.Text.CharName
