/-!
# Names of characters

The name of every character that has one of its own, with its other names. The names are a tree of
their words, so that what many of them start with is written once: a small letter says how deep an
entry is in the tree, and the entry goes on below it if it ends with a blank or a hyphen. Line feeds
do not count. The names and the aliases are those of the Unicode character database; the program has
no such table of its own.
-/

namespace FlowCanvas.Text

/-- The tree of the names. -/
def characterNames : String := "
aABACUSaAC CURRENTaACCORDIONaACCOUNT OFaACKaACKNOWLEDGEaACTIVATE bARABIC FORM SHAPINGbSYMMETRIC SW
APPINGaACUTE bACCENTbANGLEaADDRESSED TO THE SUBJECTaADHESIVE BANDAGEaADI SHAKTIaADLAM bALIF LENGTH
ENERbCAPITAL LETTER cALIFcBAcBHEcCHIcDAALIcDHAcEcFAcGAcGBEcHAcIcJIIMcKAFcKHAcKPOcLAAMcMIIMcNHAcNUN
cNYAcOcPEcQAAFcRAcSHAcSINNYIIYHEcTUcUcVAcWAWcYAcYHEcZALbCONSONANT MODIFIERbDIGIT cEIGHTcFIVEcFOURc
NINEcONEcSEVENcSIXcTHREEcTWOcZERObGEMINATE CONSONANT MODIFIERbGEMINATION MARKbHAMZAbINITIAL cEXCLA
MATION MARKcQUESTION MARKbNASALIZATION MARKbNUKTAbSMALL LETTER cALIFcBAcBHEcCHIcDAALIcDHAcEcFAcGAc
GBEcHAcIcJIIMcKAFcKHAcKPOcLAAMcMIIMcNHAcNUNcNYAcOcPEcQAAFcRAcSHAcSINNYIIYHEcTUcUcVAcWAWcYAcYHEcZAL
bVOWEL LENGTHENERaADMETOSaADMISSION TICKETSaADULTaAEGEAN bCHECK MARKbDRY MEASURE FIRST SUBUNITbLIQ
UID MEASURE FIRST SUBUNITbMEASURE cSECOND SUBUNITcTHIRD SUBUNITbNUMBER cEIGHTcEIGHT dHUNDREDdTHOUS
ANDcEIGHTYcEIGHTY THOUSANDcFIFTYcFIFTY THOUSANDcFIVEcFIVE dHUNDREDdTHOUSANDcFORTYcFORTY THOUSANDcF
OURcFOUR dHUNDREDdTHOUSANDcNINEcNINE dHUNDREDdTHOUSANDcNINETYcNINETY THOUSANDcONEcONE dHUNDREDdTHO
USANDcSEVENcSEVEN dHUNDREDdTHOUSANDcSEVENTYcSEVENTY THOUSANDcSIXcSIX dHUNDREDdTHOUSANDcSIXTYcSIXT
Y THOUSANDcTENcTEN THOUSANDcTHIRTYcTHIRTY THOUSANDcTHREEcTHREE dHUNDREDdTHOUSANDcTWENTYcTWENTY THO
USANDcTWOcTWO dHUNDREDdTHOUSANDbWEIGHT cBASE UNITcFIRST SUBUNITcFOURTH SUBUNITcSECOND SUBUNITcTHIR
D SUBUNITbWORD SEPARATOR cDOTcLINEaAERIAL TRAMWAYaAFGHANI SIGNaAHOM bCONSONANT SIGN MEDIAL cLAcLIG
ATING RAcRAbDIGIT cEIGHTcFIVEcFOURcNINEcONEcSEVENcSIXcTHREEcTWOcZERObLETTER cAcALTERNATE dBAdGAdTA
cBAcBHAcCAcCHAcDAcDDAcDDHAcDHAcGAcGHAcHAcJAcJHAcKAcKHAcLAcLLAcMAcNAcNGAcNNAcNYAcPAcPHAcRAcSAcTAcTH
AcTTAcTTHAbNUMBER cTENcTWENTYbSIGN cKILLERcRULAIcSECTIONcSMALL SECTIONbSYMBOL VIbVOWEL SIGN cAcAAc
AIcAMcAWcEcIcIIcOcUcUUaAIRPLANEaAIRPLANE bARRIVINGbDEPARTUREaAKTIESELSKABaALARM CLOCKaALCHEMICAL S
YMBOL FOR bAIRbALEMBICbALKALIbALKALI-2bALUMbAMALGAMbANTIMONY OREbAQUA cREGIAcREGIA-2cVITAEcVITAE-2
bAQUAFORTISbARSENICbASHESbAURIPIGMENTbBATH OF cMARYcVAPOURSbBISMUTH OREbBLACK SULFURbBORAXbBORAX-c
2c3bBRICKbCADUCEUSbCALXbCAPUT MORTUUMbCINNABARbCOPPER cANTIMONIATEcOREbCROCUS OF cCOPPERcCOPPER-2c
IRONbCRUCIBLEbCRUCIBLE-c2c3c4c5bDAY-NIGHTbDISSOLVEbDISSOLVE-2bDISTILLbEARTHbFIREbGOLDbGUMbHALF cDR
AMcOUNCEbHORSE DUNGbHOURbIRON cOREcORE-2bIRON-COPPER OREbLEAD OREbLODESTONEbMARCASITEbMERCURY cSUB
LIMATEcSUBLIMATE-d2d3bMONTHbNIGHTbNITREbOILbPHILOSOPHERS SULFURbPOT ASHESbPOWDERbPOWDERED BRICKbPR
ECIPITATEbPURIFYbPUTREFACTIONbQUICK LIMEbQUINTESSENCEbREALGARbREALGAR-2bREGULUSbREGULUS OF cANTIMO
NYcANTIMONY-2cIRONbREGULUS-c2c3c4bRETORTbROCK cSALTcSALT-2bSAL-AMMONIACbSALTbSALT OF cANTIMONYcCOP
PER ANTIMONIATEbSCEPTER OF JOVEbSILVERbSOAPbSPIRITbSTARRED TRIDENTbSTRATUM SUPER cSTRATUMcSTRATUM-
2bSUBLIMATE OF cANTIMONYcCOPPERcSALT OF dANTIMONYdCOPPERbSUBLIMATIONbSULFURbTARTARbTARTAR-2bTIN OR
EbTINCTUREbTRIDENTbTUTTYbURINEbVERDIGRISbVINEGARbVINEGAR OF ANTIMONYbVINEGAR-c2c3bVITRIOLbVITRIOL-
2bWATERbWAXaALEF SYMBOLaALEMBICaALERTaALIEN MONSTERaALL bAROUND-PROFILEbEQUAL TOaALMaALMOST EQUA
L bOR EQUAL TObTObTO WITH CIRCUMFLEX ACCENTaALTERNATE ONE-WAY LEFT WAY TRAFFICaALTERNATIVE KEY SYM
BOLaAMALGAMATION OR COPRODUCTaAMBULANCEaAMERICAN FOOTBALLaAMPERSANDaAMPHORAaANATOLIAN HIEROGLYPH b
A001bA002bA003bA004bA005bA006bA007bA008bA009bA010bA010AbA011bA012bA013bA014bA015bA016bA017bA018bA0
19bA020bA021bA022bA023bA024bA025bA026bA026AbA027bA028bA029bA030bA031bA032bA033bA034bA035bA036bA037
bA038bA039bA039AbA040bA041bA041AbA042bA043bA044bA045bA045AbA046bA046AbA046BbA047bA048bA049bA050bA0
51bA052bA053bA054bA055bA056bA057bA058bA059bA060bA061bA062bA063bA064bA065bA066bA066AbA066BbA066CbA0
67bA068bA069bA070bA071bA072bA073bA074bA075bA076bA077bA078bA079bA080bA081bA082bA083bA084bA085bA086b
A087bA088bA089bA090bA091bA092bA093bA094bA095bA096bA097bA097AbA098bA098AbA099bA100bA100AbA101bA101A
bA102bA102AbA103bA104bA104AbA104BbA104CbA105bA105AbA105BbA106bA107bA107AbA107BbA107CbA108bA109bA11
0bA110AbA110BbA111bA112bA113bA114bA115bA115AbA116bA117bA118bA119bA120bA121bA122bA123bA124bA125bA12
5AbA126bA127bA128bA129bA130bA131bA132bA133bA134bA135bA135AbA136bA137bA138bA139bA140bA141bA142bA143
bA144bA145bA146bA147bA148bA149bA150bA151bA152bA153bA154bA155bA156bA157bA158bA159bA160bA161bA162bA1
63bA164bA165bA166bA167bA168bA169bA170bA171bA172bA173bA174bA175bA176bA177bA178bA179bA180bA181bA182b
A183bA184bA185bA186bA187bA188bA189bA190bA191bA192bA193bA194bA195bA196bA197bA198bA199bA200bA201bA20
2bA202AbA202BbA203bA204bA205bA206bA207bA207AbA208bA209bA209AbA210bA211bA212bA213bA214bA215bA215AbA
216bA216AbA217bA218bA219bA220bA221bA222bA223bA224bA225bA226bA227bA227AbA228bA229bA230bA231bA232bA2
33bA234bA235bA236bA237bA238bA239bA240bA241bA242bA243bA244bA245bA246bA247bA248bA249bA250bA251bA252b
A253bA254bA255bA256bA257bA258bA259bA260bA261bA262bA263bA264bA265bA266bA267bA267AbA268bA269bA270bA2
71bA272bA273bA274bA275bA276bA277bA278bA279bA280bA281bA282bA283bA284bA285bA286bA287bA288bA289bA289A
bA290bA291bA292bA293bA294bA294AbA295bA296bA297bA298bA299bA299AbA300bA301bA302bA303bA304bA305bA306b
A307bA308bA309bA309AbA310bA311bA312bA313bA314bA315bA316bA317bA318bA319bA320bA321bA322bA323bA324bA3
25bA326bA327bA328bA329bA329AbA330bA331bA332AbA332BbA332CbA333bA334bA335bA336bA336AbA336BbA336CbA33
7bA338bA339bA340bA341bA342bA343bA344bA345bA346bA347bA348bA349bA350bA351bA352bA353bA354bA355bA356bA
357bA358bA359bA359AbA360bA361bA362bA363bA364bA364AbA365bA366bA367bA368bA368AbA369bA370bA371bA371Ab
A372bA373bA374bA375bA376bA377bA378bA379bA380bA381bA381AbA382bA383 RA OR RIbA383AbA384bA385bA386bA3
86AbA387bA388bA389bA390bA391bA392bA393 EIGHTbA394bA395bA396bA397bA398bA399bA400bA401bA402bA403bA40
4bA405bA406bA407bA408bA409bA410 BEGIN LOGOGRAM MARKbA410A END LOGOGRAM MARKbA411bA412bA413bA414bA4
15bA416bA417bA418bA419bA420bA421bA422bA423bA424bA425bA426bA427bA428bA429bA430bA431bA432bA433bA434b
A435bA436bA437bA438bA439bA440bA441bA442bA443bA444bA445bA446bA447bA448bA449bA450bA450AbA451bA452bA4
53bA454bA455bA456bA457bA457AbA458bA459bA460bA461bA462bA463bA464bA465bA466bA467bA468bA469bA470bA471
bA472bA473bA474bA475bA476bA477bA478bA479bA480bA481bA482bA483bA484bA485bA486bA487bA488bA489bA490bA4
91bA492bA493bA494bA495bA496bA497bA501bA502bA503bA504bA505bA506bA507bA508bA509bA510bA511bA512bA513b
A514bA515bA516bA517bA518bA519bA520bA521bA522bA523bA524bA525bA526bA527bA528bA529bA530aANATOMICAL HE
ARTaANCHORaAND WITH DOTaANGER SYMBOLaANGLEaANGLE WITH bS INSIDEbUNDERBARaANGRY FACEaANGSTROM SIGNa
ANGUISHED FACEaANKHaANTaANTENNA WITH BARSaANTICLOCKWISE bCLOSED CIRCLE ARROWbCONTOUR INTEGRALbDOWN
WARDS AND UPWARDS OPEN CIRCLE ARROWSbGAPPED CIRCLE ARROWbINTEGRATIONbOPEN CIRCLE ARROWbTOP SEMICIR
CLE ARROWbTRIANGLE-HEADED cBOTTOM U-SHAPED ARROWcLEFT U-SHAPED ARROWcOPEN CIRCLE ARROWcRIGHT U-SHA
PED ARROWcTOP U-SHAPED ARROWaAPCaAPL FUNCTIONAL SYMBOL bALPHAbALPHA UNDERBARbBACKSLASH BARbCIRCL
E cBACKSLASHcDIAERESIScJOTcSTARcSTILEcUNDERBARbCOMMA BARbDEL cDIAERESIScSTILEcTILDEbDELTA cSTILEcU
NDERBARbDIAMOND UNDERBARbDOWN cCARET TILDEcSHOE STILEcTACK dJOTdUNDERBARbDOWNWARDS VANEbEPSILON UN
DERBARbGREATER-THAN DIAERESISbI-BEAMbIOTAbIOTA UNDERBARbJOT cDIAERESIScUNDERBARbLEFT SHOE STILEbLE
FTWARDS VANEbOMEGAbOMEGA UNDERBARbQUADbQUAD cBACKSLASHcCIRCLEcCOLONcDELcDELTAcDIAMONDcDIVIDEcDOW
N CARETcDOWNWARDS ARROWcEQUALcGREATER-THANcJOTcLEFTWARDS ARROWcLESS-THANcNOT EQUALcQUESTIONcRIGHTW
ARDS ARROWcSLASHcUP CARETcUPWARDS ARROWbQUOTE cQUADcUNDERBARbRHObRIGHTWARDS VANEbSEMICOLON UNDERBA
RbSLASH BARbSQUISH QUADbSTAR DIAERESISbSTILE TILDEbTILDE DIAERESISbUP cCARET TILDEcSHOE JOTcTACK d
DIAERESISdJOTdOVERBARbUPWARDS VANEbZILDEaAPOLLONaAPOSTROPHEaAPPLICATION PROGRAM COMMANDaAPPROACHE
S THE LIMITaAPPROXIMATELY bBUT NOT ACTUALLY EQUAL TObEQUAL cOR EQUAL TOcTOcTO OR THE IMAGE OFaAQUA
RIUSaARABIC bBASELINE ROUND DOTbCOMMAbCURLY cDAMMAcDAMMATANcFATHAcFATHATANcKASRAcKASRATANbDAMMAbDA
MMA cISOLATED FORMcMEDIAL FORMcWITH DOTbDAMMATANbDAMMATAN ISOLATED FORMbDATE SEPARATORbDECIMAL SEP
ARATORbDISPUTED END OF AYAHbDOUBLE RIGHT ARROWHEAD cABOVEcABOVE WITH DOTbDOUBLED MADDAbEMPTY CENTR
E cHIGH STOPcLOW STOPbEND OF cAYAHcTEXT MARKbFATHAbFATHA cISOLATED FORMcMEDIAL FORMcWITH dDOT ABOV
EdRINGdTWO DOTSbFATHATANbFATHATAN ISOLATED FORMbFIVE POINTED STARbFOOTNOTE MARKERbFULL STOPbHALF M
ADDA OVER MADDAbHAMZA cABOVEcBELOWbINVERTED DAMMAbKASRAbKASRA cISOLATED FORMcMEDIAL FORMcWITH DO
T BELOWbKASRATANbKASRATAN ISOLATED FORMbLARGE cCIRCLE BELOWcROUND DOT dABOVEdBELOWdINSIDE CIRCLE B
ELOWbLEFT ARROWHEAD cABOVEcBELOWbLETTER cAEcAFRICAN dFEHdNOONdQAFdQAF WITH THREE DOTS ABOVEcAINcAI
N dFINAL FORMdINITIAL FORMdISOLATED FORMdMEDIAL FORMdWITH eTHREE DOTS fABOVEfBELOWfPOINTING DOWNWA
RDS ABOVEeTWO DOTS fABOVEfVERTICALLY ABOVEcALEFcALEF dFINAL FORMdISOLATED FORMdMAKSURAdMAKSURA eFI
NAL FORMeISOLATED FORMdWASLAdWASLA eFINAL FORMeISOLATED FORMdWITH eATTACHED fBOTTOM RIGHT gKASRAgK
ASRA AND hDOT ABOVEhLEFT RINGfFATHAfKASRAfLEFT gHAMZAgROUND DOTfRIGHT gHAMZAgROUND DOTfROUND DOT g
ABOVEgBELOWfTOP RIGHT gFATHAgFATHA AND hDOT ABOVEhLEFT RINGeDOT ABOVEeEXTENDED ARABIC-INDIC DIGI
T fTHREE ABOVEfTWO ABOVEeHAMZA fABOVEfABOVE gFINAL FORMgISOLATED FORMfBELOWfBELOW gFINAL FORMgISOL
ATED FORMeLEFT MIDDLE STROKEeMADDA fABOVEfABOVE gFINAL FORMgISOLATED FORMeRIGHT MIDDLE fSTROKEfSTR
OKE AND gDOT ABOVEgLEFT RINGeWAVY HAMZA fABOVEfBELOWcBEEHcBEEH dFINAL FORMdINITIAL FORMdISOLATED F
ORMdMEDIAL FORMcBEHcBEH dFINAL FORMdINITIAL FORMdISOLATED FORMdMEDIAL FORMdWITH eDOT BELOW AND THR
EE DOTS ABOVEeHAMZA ABOVEeINVERTED SMALL V BELOWeSMALL fMEEM ABOVEfVfV BELOWeTHREE DOTS fHORIZONTA
LLY BELOWfPOINTING UPWARDS gBELOWgBELOW AND TWO DOTS ABOVEeTWO DOTS BELOW AND DOT ABOVEcBEHEHcBEHE
H dFINAL FORMdINITIAL FORMdISOLATED FORMdMEDIAL FORMcDADcDAD dFINAL FORMdINITIAL FORMdISOLATED FOR
MdMEDIAL FORMdWITH DOT BELOWcDAHALcDAHAL dFINAL FORMdISOLATED FORMcDALcDAL dFINAL FORMdISOLATED FO
RMdWITH eDOT fBELOWfBELOW AND SMALL TAHeFOUR DOTS ABOVEeINVERTED fSMALL V BELOWfVeRINGeTHREE DOT
S fABOVE DOWNWARDSfBELOWeTWO DOTS VERTICALLY BELOW AND SMALL TAHcDDAHALcDDAHAL dFINAL FORMdISOLATE
D FORMcDDALcDDAL dFINAL FORMdISOLATED FORMcDOTLESS dBEHdFEHdQAFcDULcDUL dFINAL FORMdISOLATED FORMc
DYEHcDYEH dFINAL FORMdINITIAL FORMdISOLATED FORMdMEDIAL FORMcEcE dFINAL FORMdINITIAL FORMdISOLATE
D FORMdMEDIAL FORMcFARSI dYEHdYEH eFINAL FORMeINITIAL FORMeISOLATED FORMeMEDIAL FORMeWITH fEXTENDE
D ARABIC-INDIC DIGIT gFOUR BELOWgTHREE ABOVEgTWO ABOVEfINVERTED VfTHREE DOTS ABOVEfTWO DOTS ABOVEc
FEHcFEH dFINAL FORMdINITIAL FORMdISOLATED FORMdMEDIAL FORMdWITH eDOT fBELOWfBELOW AND THREE DOTS A
BOVEfMOVED BELOWeTHREE DOTS fBELOWfPOINTING UPWARDS BELOWeTWO DOTS BELOWcGAFcGAF dFINAL FORMdINITI
AL FORMdISOLATED FORMdMEDIAL FORMdWITH eINVERTED STROKEeRINGeTHREE DOTS ABOVEeTWO DOTS BELOWcGHAIN
cGHAIN dFINAL FORMdINITIAL FORMdISOLATED FORMdMEDIAL FORMdWITH eDOT BELOWeTHREE DOTS ABOVEcGRAFcGU
EHcGUEH dFINAL FORMdINITIAL FORMdISOLATED FORMdMEDIAL FORMcHAHcHAH dFINAL FORMdINITIAL FORMdISOLAT
ED FORMdMEDIAL FORMdWITH eEXTENDED ARABIC-INDIC DIGIT FOUR BELOWeHAMZA ABOVEeINVERTED SMALL V BELO
WeSMALL ARABIC LETTER TAH fABOVEfAND TWO DOTSfBELOWeTHREE DOTS fABOVEfPOINTING UPWARDS BELOWeTWO D
OTS fABOVEfVERTICAL ABOVEcHAMZAcHAMZA ISOLATED FORMcHEHcHEH dDOACHASHMEEdDOACHASHMEE eFINAL FORMeI
NITIAL FORMeISOLATED FORMeMEDIAL FORMdFINAL FORMdGOALdGOAL eFINAL FORMeINITIAL FORMeISOLATED FORMe
MEDIAL FORMeWITH HAMZA ABOVEdINITIAL FORMdISOLATED FORMdMEDIAL FORMdWITH eINVERTED VeYEH fABOVEfAB
OVE gFINAL FORMgISOLATED FORMcHIGH dHAMZAdHAMZA eALEFeWAWeYEHcJEEMcJEEM dFINAL FORMdINITIAL FORMdI
SOLATED FORMdMEDIAL FORMdWITH eTHREE DOTS fABOVEfBELOWeTWO DOTS ABOVEcJEHcJEH dFINAL FORMdISOLATE
D FORMcKAFcKAF dFINAL FORMdINITIAL FORMdISOLATED FORMdMEDIAL FORMdWITH eDOT fABOVEfBELOWeRINGeTHRE
E DOTS BELOWeTWO DOTS ABOVEcKASHMIRI YEHcKEHEHcKEHEH dFINAL FORMdINITIAL FORMdISOLATED FORMdMEDIA
L FORMdWITH eDOT ABOVEeSMALL VeTHREE DOTS fABOVEfBELOWfPOINTING UPWARDS BELOWeTWO DOTS fABOVEfVERT
ICALLY BELOWcKHAHcKHAH dFINAL FORMdINITIAL FORMdISOLATED FORMdMEDIAL FORMcKIRGHIZ dOEdOE eFINAL FO
RMeISOLATED FORMdYUdYU eFINAL FORMeISOLATED FORMcLAMcLAM dFINAL FORMdINITIAL FORMdISOLATED FORMdME
DIAL FORMdWITH eBAReDOT ABOVEeDOUBLE BAReSMALL fARABIC LETTER TAH ABOVEfVeTHREE DOTS fABOVEfBELOWc
LOW ALEFcMARKcMEEMcMEEM dFINAL FORMdINITIAL FORMdISOLATED FORMdMEDIAL FORMdWITH eDOT fABOVEfBELOWe
THREE DOTS ABOVEcNGcNG dFINAL FORMdINITIAL FORMdISOLATED FORMdMEDIAL FORMcNGOEHcNGOEH dFINAL FORMd
INITIAL FORMdISOLATED FORMdMEDIAL FORMcNOONcNOON dFINAL FORMdGHUNNAdGHUNNA eFINAL FORMeISOLATED FO
RMdINITIAL FORMdISOLATED FORMdMEDIAL FORMdWITH eDOT BELOWeINVERTED SMALL VeRINGeSMALL fTAHfVeTHRE
E DOTS ABOVEeTWO DOTS BELOWcNYEHcNYEH dFINAL FORMdINITIAL FORMdISOLATED FORMdMEDIAL FORMcOEcOE dFI
NAL FORMdISOLATED FORMcPEHcPEH dFINAL FORMdINITIAL FORMdISOLATED FORMdMEDIAL FORMdWITH SMALL eMEE
M ABOVEeVcPEHEHcPEHEH dFINAL FORMdINITIAL FORMdISOLATED FORMdMEDIAL FORMcQAFcQAF dFINAL FORMdINITI
AL FORMdISOLATED FORMdMEDIAL FORMdWITH eDOT fABOVEfBELOWfBELOW AND NO DOTS ABOVEeTHREE DOTS ABOVEc
REHcREH dFINAL FORMdISOLATED FORMdWITH eDOT fBELOWfBELOW AND DOT ABOVEeFOUR DOTS ABOVEeHAMZA ABOVE
eINVERTED VeLOOPeRINGeSMALL fARABIC LETTER TAH AND TWO DOTSfNOON ABOVEfVfV BELOWeSTROKEeTWO DOTS f
ABOVEfVERTICALLY ABOVEcRNOONcRNOON dFINAL FORMdINITIAL FORMdISOLATED FORMdMEDIAL FORMcROHINGYA YEH
cRREHcRREH dFINAL FORMdISOLATED FORMcSADcSAD dFINAL FORMdINITIAL FORMdISOLATED FORMdMEDIAL FORMdWI
TH eTHREE DOTS fABOVEfBELOWeTWO DOTS BELOWcSEENcSEEN dFINAL FORMdINITIAL FORMdISOLATED FORMdMEDIA
L FORMdWITH eDOT BELOW AND DOT ABOVEeEXTENDED ARABIC-INDIC DIGIT FOUR ABOVEeFOUR DOTS ABOVEeINVERT
ED VeSMALL ARABIC LETTER TAH AND TWO DOTSeTHREE DOTS fBELOWfBELOW AND THREE DOTS ABOVEeTWO DOTS VE
RTICALLY ABOVEcSHEENcSHEEN dFINAL FORMdINITIAL FORMdISOLATED FORMdMEDIAL FORMdWITH DOT BELOWcSTRAI
GHT WAWcSUPERSCRIPT ALEFcSWASH KAFcTAHcTAH dFINAL FORMdINITIAL FORMdISOLATED FORMdMEDIAL FORMdWIT
H eDOT BELOWeTHREE DOTS fABOVEfBELOWeTWO DOTS ABOVEcTCHEHcTCHEH dFINAL FORMdINITIAL FORMdISOLATE
D FORMdMEDIAL FORMdWITH eDOT ABOVEeSMALL VcTCHEHEHcTCHEHEH dFINAL FORMdINITIAL FORMdISOLATED FORMd
MEDIAL FORMcTEHcTEH dFINAL FORMdINITIAL FORMdISOLATED FORMdMARBUTAdMARBUTA eFINAL FORMeGOALeISOLAT
ED FORMdMEDIAL FORMdWITH eRINGeSMALL fTEH ABOVEfVeTHREE DOTS ABOVE DOWNWARDScTEHEHcTEHEH dFINAL FO
RMdINITIAL FORMdISOLATED FORMdMEDIAL FORMcTHALcTHAL dFINAL FORMdISOLATED FORMcTHEHcTHEH dFINAL FOR
MdINITIAL FORMdISOLATED FORMdMEDIAL FORMcTHIN YEHcTTEHcTTEH dFINAL FORMdINITIAL FORMdISOLATED FORM
dMEDIAL FORMdWITH SMALL VcTTEHEHcTTEHEH dFINAL FORMdINITIAL FORMdISOLATED FORMdMEDIAL FORMcUcU dFI
NAL FORMdISOLATED FORMdWITH HAMZA eABOVEeABOVE ISOLATED FORMcUIGHUR KAZAKH KIRGHIZ ALEF MAKSURA dI
NITIAL FORMdMEDIAL FORMcVEcVE dFINAL FORMdISOLATED FORMcVEHcVEH dFINAL FORMdINITIAL FORMdISOLATE
D FORMdMEDIAL FORMcWAWcWAW dFINAL FORMdISOLATED FORMdWITH eDOT fABOVEfWITHINeEXTENDED ARABIC-INDI
C DIGIT fTHREE ABOVEfTWO ABOVEeHAMZA fABOVEfABOVE gFINAL FORMgISOLATED FORMeRINGeTWO DOTS ABOVEcYE
HcYEH dBARREEdBARREE eFINAL FORMeISOLATED FORMeWITH fEXTENDED ARABIC-INDIC DIGIT gTHREE ABOVEgTW
O ABOVEfHAMZA gABOVEgABOVE hFINAL FORMhISOLATED FORMdFINAL FORMdINITIAL FORMdISOLATED FORMdMEDIA
L FORMdWITH eHAMZA fABOVEfABOVE gFINAL FORMgINITIAL FORMgISOLATED FORMgMEDIAL FORMeSMALL VeTAILeTH
REE DOTS BELOWeTWO DOTS BELOW AND fDOT ABOVEfHAMZA ABOVEfSMALL NOON ABOVEcYUcYU dFINAL FORMdISOLAT
ED FORMcZAHcZAH dFINAL FORMdINITIAL FORMdISOLATED FORMdMEDIAL FORMcZAINcZAIN dFINAL FORMdISOLATE
D FORMdWITH INVERTED V ABOVEbLIGATURE cAIN WITH dALEF MAKSURA eFINAL FORMeISOLATED FORMdJEEM eINIT
IAL FORMeISOLATED FORMeWITH MEEM fFINAL FORMfINITIAL FORMdMEEM eINITIAL FORMeISOLATED FORMeWITH fA
LEF MAKSURA FINAL FORMfMEEM gFINAL FORMgINITIAL FORMfYEH FINAL FORMdYEH eFINAL FORMeISOLATED FORMc
AKBAR ISOLATED FORMcALAYHAA AS-SALAAMcALAYHE ISOLATED FORMcALAYHI AS-dSALAAMdSALAATU WAS-SALAAMcAL
AYHIM AS-SALAAMcALAYHIMAA AS-SALAAMcALEF dMAKSURA WITH SUPERSCRIPT ALEF eFINAL FORMeISOLATED FORMd
WITH FATHATAN eFINAL FORMeISOLATED FORMcALLAH ISOLATED FORMcAZZA WA JALLcBEH WITH dALEF MAKSURA eF
INAL FORMeISOLATED FORMdHAH eINITIAL FORMeISOLATED FORMeWITH YEH FINAL FORMdHEH eINITIAL FORMeMEDI
AL FORMdJEEM eINITIAL FORMeISOLATED FORMdKHAH eINITIAL FORMeISOLATED FORMeWITH YEH FINAL FORMdMEE
M eFINAL FORMeINITIAL FORMeISOLATED FORMeMEDIAL FORMdNOON FINAL FORMdREH FINAL FORMdYEH eFINAL FOR
MeISOLATED FORMdZAIN FINAL FORMcBISMILLAH AR-RAHMAN AR-RAHEEMcDAD WITH dALEF MAKSURA eFINAL FORMeI
SOLATED FORMdHAH eINITIAL FORMeISOLATED FORMeWITH fALEF MAKSURA FINAL FORMfYEH FINAL FORMdJEEM eIN
ITIAL FORMeISOLATED FORMdKHAH eINITIAL FORMeISOLATED FORMeWITH MEEM fFINAL FORMfINITIAL FORMdMEE
M eINITIAL FORMeISOLATED FORMdREH eFINAL FORMeISOLATED FORMdYEH eFINAL FORMeISOLATED FORMcFEH WIT
H dALEF MAKSURA eFINAL FORMeISOLATED FORMdHAH eINITIAL FORMeISOLATED FORMdJEEM eINITIAL FORMeISOLA
TED FORMdKHAH eINITIAL FORMeISOLATED FORMeWITH MEEM fFINAL FORMfINITIAL FORMdMEEM eINITIAL FORMeIS
OLATED FORMeWITH YEH FINAL FORMdYEH eFINAL FORMeISOLATED FORMcGHAIN WITH dALEF MAKSURA eFINAL FORM
eISOLATED FORMdJEEM eINITIAL FORMeISOLATED FORMdMEEM eINITIAL FORMeISOLATED FORMeWITH fALEF MAKSUR
A FINAL FORMfMEEM FINAL FORMfYEH FINAL FORMdYEH eFINAL FORMeISOLATED FORMcHAH WITH dALEF MAKSURA e
FINAL FORMeISOLATED FORMdJEEM eINITIAL FORMeISOLATED FORMeWITH YEH FINAL FORMdMEEM eINITIAL FORMeI
SOLATED FORMeWITH fALEF MAKSURA FINAL FORMfYEH FINAL FORMdYEH eFINAL FORMeISOLATED FORMcHEH WITH d
ALEF MAKSURA ISOLATED FORMdJEEM eINITIAL FORMeISOLATED FORMdMEEM eINITIAL FORMeISOLATED FORMeWIT
H fJEEM INITIAL FORMfMEEM INITIAL FORMdSUPERSCRIPT ALEF INITIAL FORMdYEH ISOLATED FORMcJALLAJALALO
UHOUcJEEM WITH dALEF MAKSURA eFINAL FORMeISOLATED FORMdHAH eINITIAL FORMeISOLATED FORMeWITH fALE
F MAKSURA FINAL FORMfYEH FINAL FORMdMEEM eINITIAL FORMeISOLATED FORMeWITH fALEF MAKSURA FINAL FORM
fHAH gFINAL FORMgINITIAL FORMfYEH FINAL FORMdYEH eFINAL FORMeISOLATED FORMcKAF WITH dALEF eFINAL F
ORMeISOLATED FORMeMAKSURA fFINAL FORMfISOLATED FORMdHAH eINITIAL FORMeISOLATED FORMdJEEM eINITIA
L FORMeISOLATED FORMdKHAH eINITIAL FORMeISOLATED FORMdLAM eFINAL FORMeINITIAL FORMeISOLATED FORMeM
EDIAL FORMdMEEM eFINAL FORMeINITIAL FORMeISOLATED FORMeMEDIAL FORMeWITH fMEEM gFINAL FORMgINITIA
L FORMfYEH FINAL FORMdYEH eFINAL FORMeISOLATED FORMcKHAH WITH dALEF MAKSURA eFINAL FORMeISOLATED F
ORMdHAH ISOLATED FORMdJEEM eINITIAL FORMeISOLATED FORMdMEEM eINITIAL FORMeISOLATED FORMdYEH eFINA
L FORMeISOLATED FORMcLAM WITH dALEF eFINAL FORMeISOLATED FORMeMAKSURA fFINAL FORMfISOLATED FORMeWI
TH fHAMZA gABOVE hFINAL FORMhISOLATED FORMgBELOW hFINAL FORMhISOLATED FORMfMADDA ABOVE gFINAL FORM
gISOLATED FORMdHAH eINITIAL FORMeISOLATED FORMeWITH fALEF MAKSURA FINAL FORMfMEEM gFINAL FORMgINIT
IAL FORMfYEH FINAL FORMdHEH INITIAL FORMdJEEM eINITIAL FORMeISOLATED FORMeWITH fJEEM gFINAL FORMgI
NITIAL FORMfMEEM gFINAL FORMgINITIAL FORMfYEH FINAL FORMdKHAH eINITIAL FORMeISOLATED FORMeWITH MEE
M fFINAL FORMfINITIAL FORMdMEEM eFINAL FORMeINITIAL FORMeISOLATED FORMeMEDIAL FORMeWITH fHAH gFINA
L FORMgINITIAL FORMfYEH FINAL FORMdYEH eFINAL FORMeISOLATED FORMcMEEM WITH dALEF eFINAL FORMeMAKSU
RA ISOLATED FORMdHAH eINITIAL FORMeISOLATED FORMeWITH fJEEM INITIAL FORMfMEEM INITIAL FORMfYEH FIN
AL FORMdJEEM eINITIAL FORMeISOLATED FORMeWITH fHAH INITIAL FORMfKHAH INITIAL FORMfMEEM INITIAL FOR
MfYEH FINAL FORMdKHAH eINITIAL FORMeISOLATED FORMeWITH fJEEM INITIAL FORMfMEEM INITIAL FORMfYEH FI
NAL FORMdMEEM eFINAL FORMeINITIAL FORMeISOLATED FORMeWITH YEH FINAL FORMdYEH ISOLATED FORMcMOHAMMA
D ISOLATED FORMcNOON WITH dALEF MAKSURA eFINAL FORMeISOLATED FORMdHAH eINITIAL FORMeISOLATED FORMe
WITH fALEF MAKSURA FINAL FORMfMEEM INITIAL FORMfYEH FINAL FORMdHEH eINITIAL FORMeMEDIAL FORMdJEE
M eINITIAL FORMeISOLATED FORMeWITH fALEF MAKSURA FINAL FORMfHAH gFINAL FORMgINITIAL FORMfMEEM gFIN
AL FORMgINITIAL FORMfYEH FINAL FORMdKHAH eINITIAL FORMeISOLATED FORMdMEEM eFINAL FORMeINITIAL FORM
eISOLATED FORMeMEDIAL FORMeWITH fALEF MAKSURA FINAL FORMfYEH FINAL FORMdNOON FINAL FORMdREH FINA
L FORMdYEH eFINAL FORMeISOLATED FORMdZAIN FINAL FORMcQAF WITH dALEF MAKSURA eFINAL FORMeISOLATED F
ORMdHAH eINITIAL FORMeISOLATED FORMdMEEM eINITIAL FORMeISOLATED FORMeWITH fHAH gFINAL FORMgINITIA
L FORMfMEEM FINAL FORMfYEH FINAL FORMdYEH eFINAL FORMeISOLATED FORMcQALA USED AS KORANIC STOP SIG
N ISOLATED FORMcQUDDISA SIRRAHcRADI ALLAAHU dANHdANHAAdANHUMdANHUMAAdANHUNNAcRAHIMAHU ALLAAHcRAHIM
AHUM ALLAAHcRASOUL ISOLATED FORMcREH WITH SUPERSCRIPT ALEF ISOLATED FORMcSAD WITH dALEF MAKSURA eF
INAL FORMeISOLATED FORMdHAH eINITIAL FORMeISOLATED FORMeWITH fHAH gFINAL FORMgINITIAL FORMfYEH FIN
AL FORMdKHAH INITIAL FORMdMEEM eINITIAL FORMeISOLATED FORMeWITH MEEM fFINAL FORMfINITIAL FORMdRE
H eFINAL FORMeISOLATED FORMdYEH eFINAL FORMeISOLATED FORMcSALAAMUHU ALAYNAAcSALAM ISOLATED FORMcSA
LLA dISOLATED FORMdUSED AS KORANIC STOP SIGN ISOLATED FORMcSALLALLAAHU ALAYHI WA-AALIHcSALLALLAHO
U ALAYHE WASALLAMcSALLALLAHU ALAYHI WAAALIHEE WA-SALLAMcSEEN WITH dALEF MAKSURA eFINAL FORMeISOLAT
ED FORMdHAH eINITIAL FORMeISOLATED FORMeMEDIAL FORMeWITH JEEM INITIAL FORMdHEH eINITIAL FORMeMEDIA
L FORMdJEEM eINITIAL FORMeISOLATED FORMeMEDIAL FORMeWITH fALEF MAKSURA FINAL FORMfHAH INITIAL FORM
dKHAH eINITIAL FORMeISOLATED FORMeMEDIAL FORMeWITH fALEF MAKSURA FINAL FORMfYEH FINAL FORMdMEEM eI
NITIAL FORMeISOLATED FORMeMEDIAL FORMeWITH fHAH gFINAL FORMgINITIAL FORMfJEEM INITIAL FORMfMEEM gF
INAL FORMgINITIAL FORMdREH eFINAL FORMeISOLATED FORMdYEH eFINAL FORMeISOLATED FORMcSHADDA WITH dDA
MMA eISOLATED FORMeMEDIAL FORMdDAMMATAN ISOLATED FORMdFATHA eISOLATED FORMeMEDIAL FORMdKASRA eISOL
ATED FORMeMEDIAL FORMdKASRATAN ISOLATED FORMdSUPERSCRIPT ALEF ISOLATED FORMcSHEEN WITH dALEF MAKSU
RA eFINAL FORMeISOLATED FORMdHAH eFINAL FORMeINITIAL FORMeISOLATED FORMeMEDIAL FORMeWITH fMEEM gFI
NAL FORMgINITIAL FORMfYEH FINAL FORMdHEH eINITIAL FORMeMEDIAL FORMdJEEM eFINAL FORMeINITIAL FORMeI
SOLATED FORMeMEDIAL FORMeWITH YEH FINAL FORMdKHAH eFINAL FORMeINITIAL FORMeISOLATED FORMeMEDIAL FO
RMdMEEM eFINAL FORMeINITIAL FORMeISOLATED FORMeMEDIAL FORMeWITH fKHAH gFINAL FORMgINITIAL FORMfMEE
M gFINAL FORMgINITIAL FORMdREH eFINAL FORMeISOLATED FORMdYEH eFINAL FORMeISOLATED FORMcSUBHAANAH
U WA TAAALAAcTABAARAKA WA-TAAALAAcTAH WITH dALEF MAKSURA eFINAL FORMeISOLATED FORMdHAH eINITIAL FO
RMeISOLATED FORMdMEEM eINITIAL FORMeISOLATED FORMeMEDIAL FORMeWITH fHAH gFINAL FORMgINITIAL FORMfM
EEM INITIAL FORMfYEH FINAL FORMdYEH eFINAL FORMeISOLATED FORMcTEH WITH dALEF MAKSURA eFINAL FORMeI
SOLATED FORMdHAH eINITIAL FORMeISOLATED FORMeWITH fJEEM gFINAL FORMgINITIAL FORMfMEEM INITIAL FORM
dHEH eINITIAL FORMeMEDIAL FORMdJEEM eINITIAL FORMeISOLATED FORMeWITH fALEF MAKSURA FINAL FORMfMEE
M INITIAL FORMfYEH FINAL FORMdKHAH eINITIAL FORMeISOLATED FORMeWITH fALEF MAKSURA FINAL FORMfMEE
M INITIAL FORMfYEH FINAL FORMdMEEM eFINAL FORMeINITIAL FORMeISOLATED FORMeMEDIAL FORMeWITH fALEF M
AKSURA FINAL FORMfHAH INITIAL FORMfJEEM INITIAL FORMfKHAH INITIAL FORMfYEH FINAL FORMdNOON FINAL F
ORMdREH FINAL FORMdYEH eFINAL FORMeISOLATED FORMdZAIN FINAL FORMcTHAL WITH SUPERSCRIPT ALEF ISOLAT
ED FORMcTHEH WITH dALEF MAKSURA eFINAL FORMeISOLATED FORMdHEH MEDIAL FORMdJEEM ISOLATED FORMdMEE
M eFINAL FORMeINITIAL FORMeISOLATED FORMeMEDIAL FORMdNOON FINAL FORMdREH FINAL FORMdYEH eFINAL FOR
MeISOLATED FORMdZAIN FINAL FORMcUIGHUR KIRGHIZ YEH WITH HAMZA ABOVE WITH ALEF MAKSURA dFINAL FORMd
INITIAL FORMdISOLATED FORMcWASALLAM ISOLATED FORMcYEH WITH dALEF MAKSURA eFINAL FORMeISOLATED FORM
dHAH eINITIAL FORMeISOLATED FORMeWITH YEH FINAL FORMdHAMZA ABOVE WITH eAE fFINAL FORMfISOLATED FOR
MeALEF fFINAL FORMfISOLATED FORMfMAKSURA gFINAL FORMgISOLATED FORMeE fFINAL FORMfINITIAL FORMfISOL
ATED FORMeHAH fINITIAL FORMfISOLATED FORMeHEH fINITIAL FORMfMEDIAL FORMeJEEM fINITIAL FORMfISOLATE
D FORMeKHAH INITIAL FORMeMEEM fFINAL FORMfINITIAL FORMfISOLATED FORMfMEDIAL FORMeNOON FINAL FORMeO
E fFINAL FORMfISOLATED FORMeREH FINAL FORMeU fFINAL FORMfISOLATED FORMeWAW fFINAL FORMfISOLATED FO
RMeYEH fFINAL FORMfISOLATED FORMeYU fFINAL FORMfISOLATED FORMeZAIN FINAL FORMdHEH eINITIAL FORMeME
DIAL FORMdJEEM eINITIAL FORMeISOLATED FORMeWITH YEH FINAL FORMdKHAH eINITIAL FORMeISOLATED FORMdME
EM eFINAL FORMeINITIAL FORMeISOLATED FORMeMEDIAL FORMeWITH fMEEM gFINAL FORMgINITIAL FORMfYEH FINA
L FORMdNOON FINAL FORMdREH FINAL FORMdYEH eFINAL FORMeISOLATED FORMdZAIN FINAL FORMcZAH WITH MEE
M dINITIAL FORMdISOLATED FORMdMEDIAL FORMbMADDA WAAJIBbMADDAH ABOVEbMARK cNOON GHUNNAcSIDEWAYS NOO
N GHUNNAbMATHEMATICAL cAINcALEFcBEHcDADcDALcDOTLESS dBEHdFEHdNOONdQAFcDOUBLE-STRUCK dAINdBEHdDADdD
ALdFEHdGHAINdHAHdJEEMdKHAHdLAMdMEEMdNOONdQAFdREHdSADdSEENdSHEENdTAHdTEHdTHALdTHEHdWAWdYEHdZAHdZAIN
cFEHcGHAINcHAHcINITIAL dAINdBEHdDADdFEHdGHAINdHAHdHEHdJEEMdKAFdKHAHdLAMdMEEMdNOONdQAFdSADdSEENdSHE
ENdTEHdTHEHdYEHcJEEMcKAFcKHAHcLAMcLOOPED dAINdALEFdBEHdDADdDALdFEHdGHAINdHAHdHEHdJEEMdKHAHdLAMdMEE
MdNOONdQAFdREHdSADdSEENdSHEENdTAHdTEHdTHALdTHEHdWAWdYEHdZAHdZAINcMEEMcNOONcOPERATOR dHAH WITH DALd
MEEM WITH HAH WITH TATWEELcQAFcREHcSADcSEENcSHEENcSTRETCHED dAINdBEHdDADdDOTLESS eBEHeFEHdFEHdGHAI
NdHAHdHEHdJEEMdKAFdKHAHdMEEMdNOONdQAFdSADdSEENdSHEENdTAHdTEHdTHEHdYEHdZAHcTAHcTAILED dAINdDADdDOTL
ESS eNOONeQAFdGHAINdHAHdJEEMdKHAHdLAMdNOONdQAFdSADdSEENdSHEENdYEHcTEHcTHALcTHEHcWAWcYEHcZAHcZAINbN
UMBER cMARK ABOVEcSIGNbOPEN cDAMMATANcFATHATANcKASRATANbPERCENT SIGNbPIASTRE MARK ABOVEbPLACE OF S
AJDAHbPOETIC VERSE SIGNbPOUND MARK ABOVEbQUESTION MARKbRAISED ROUND DOTbRAYbREVERSED DAMMAbRIGHT A
RROWHEAD cABOVEcABOVE WITH DOTcBELOWbROUNDED HIGH STOP WITH FILLED CENTREbSEMICOLONbSHADDAbSHADD
A cISOLATED FORMcMEDIAL FORMbSIGN cALAYHE ASSALLAMcMISRAcRADI ALLAHOU ANHUcRAHMATULLAH ALAYHEcSAFH
AcSALLALLAHOU ALAYHE WASSALLAMcSAMVATcSANAHcSINDHI dAMPERSANDdPOSTPOSITION MENcTAKHALLUSbSMALL cDA
MMAcFARSI YEHcFATHAcHIGH dAINdDOTLESS HEAD OF KHAHdFARSI YEHdFOOTNOTE MARKERdJEEMdLAM ALEFdLIGATUR
E eALEF WITH LAM WITH YEHeQAF WITH LAM WITH ALEF MAKSURAeSAD WITH LAM WITH ALEF MAKSURAdMADDAdMEE
M eINITIAL FORMeISOLATED FORMdNOONdNOON WITH KASRAdQAFdROUNDED ZEROdSADdSEENdSIGN SAFHAdTAHdTHRE
E DOTSdUPRIGHT RECTANGULAR ZEROdWAWdWORD eAL-JUZeAN-NISFeAR-RUBeAS-SAJDAeATH-THALATHAeQIFeSAHeSAKT
AeWAQFAdYEHdYEH BARREE WITH TWO DOTS BELOWdZAHdZAINcKASRAcLOW dMEEMdNOON WITH KASRAdSEENdWAWdWOR
D eIMAALAeISHMAAMeTASHEELcWAWcYEHbSTART OF RUB EL HIZBbSUBSCRIPT ALEFbSUKUNbSUKUN cBELOWcISOLATE
D FORMcMEDIAL FORMbSUPERSCRIPT ALEF MOKHASSASbSYMBOL cDOT dABOVEdBELOWcDOUBLE VERTICAL BAR BELOWcF
OUR DOTS dABOVEdBELOWcRINGcSMALL TAH dABOVEdBELOWcTHREE DOTS dABOVEdBELOWdPOINTING DOWNWARDS eABOV
EeBELOWcTWO DOTS dABOVEdBELOWdVERTICALLY eABOVEeBELOWcWASLA ABOVEbTAIL FRAGMENTbTATWEELbTATWEEL WI
TH cFATHATAN ABOVEcOVERSTRUCK dHAMZAdWAWcTWO DOTS BELOWbTHOUSANDS SEPARATORbTONE cLOOP dABOVEdBELO
WcONE DOT dABOVEdBELOWcTWO DOTS dABOVEdBELOWbTRIPLE DOT PUNCTUATION MARKbTURNED DAMMA BELOWbVERTIC
AL TAILbVOWEL SIGN cDOT BELOWcINVERTED SMALL V ABOVEcSMALL V ABOVEbWAVY HAMZA BELOWbZWARAKAYaARABI
C-INDIC bCUBE ROOTbDIGIT cEIGHTcFIVEcFOURcNINEcONEcSEVENcSIXcTHREEcTWOcZERObFOURTH ROOTbPER cMILL
E SIGNcTEN THOUSAND SIGNaARCaARIESaARMENIAN bABBREVIATION MARKbAPOSTROPHEbCAPITAL LETTER cAYBcBENc
CAcCHAcCHEHcCOcDAcECHcEHcETcFEHcGHADcGIMcHOcINIcJAcJHEHcKEHcKENcLIWNcMENcNOWcOHcPEHcPIWRcRAcREHcSE
HcSHAcTIWNcTOcVEWcVOcXEHcYIcYIWNcZAcZHEbCOMMAbDRAM SIGNbEMPHASIS MARKbEXCLAMATION MARKbFULL STOPbH
YPHENbMODIFIER LETTER LEFT HALF RINGbQUESTION MARKbSMALL cLETTER dAYBdBENdCAdCHAdCHEHdCOdDAdECHdEH
dETdFEHdGHADdGIMdHOdINIdJAdJHEHdKEHdKENdLIWNdMENdNOWdOHdPEHdPIWRdRAdREHdSEHdSHAdTIWNdTOdTURNED AYB
dVEWdVOdXEHdYIdYI WITH STROKEdYIWNdZAdZHEcLIGATURE dECH YIWNdMEN eECHeINIeNOWeXEHdVEW NOWaARROW PO
INTING bDOWNWARDS THEN CURVING cLEFTWARDScRIGHTWARDSbRIGHTWARDS THEN CURVING cDOWNWARDScSOUTH WEST
cUPWARDSbUPWARDS THEN NORTH WESTaARROWHEAD-SHAPED POINTERaARTICULATED LORRYaARTIST PALETTEaASCENDI
NG NODEaASCIA SYMBOLaASSERTIONaASTERISKaASTERISK OPERATORaASTERISMaASTONISHED FACEaASTRAEAaASTRONO
MICAL SYMBOL FOR URANUSaASYMPTOTICALLY EQUAL TOaATHLETIC SHOEaATOM SYMBOLaAUBERGINEaAUSTRAL SIGNaA
UTO RICKSHAWaAUTOMATED TELLER MACHINEaAUTOMOBILEaAVESTAN bABBREVIATION MARKbLETTER cAcAAcAANcAAOcA
EcAEEcANcAOcBEcBHEcCEcDEcDHEcEcEEcFEcGEcGGEcGHEcHEcHMEcIcIIcJEcKEcLEcMEcNEcNGEcNGVEcNGYEcNNEcNYEcO
cOOcPEcREcSEcSHEcSHYEcSSHEcTEcTHEcTTEcUcUUcVEcXEcXVEcXYEcYEcYYEcZEcZHEaAVOCADOaAXEaBABYaBABY bANGE
LbBOTTLEbCHICKbSYMBOLaBACK bOF ENVELOPEbWITH LEFTWARDS ARROW ABOVEaBACK-TILTED SHADOWED WHITE RIGH
TWARDS ARROWaBACKSLANTED SOUTH ARROW WITH bHOOKED TAILbHORIZONTAL TAILaBACKSPACEaBACONaBACTRIAN CA
MELaBADGERaBADMINTON RACQUET AND SHUTTLECOCKaBAGELaBAGGAGE CLAIMaBAGUETTE BREADaBALINESE bADEG ADE
GbCARIK cPAMUNGKAHcPARERENcSIKIbDIGIT cEIGHTcFIVEcFOURcNINEcONEcSEVENcSIXcTHREEcTWOcZERObLETTER cA
IKARAcAKARAcAKARA TEDUNGcARCHAIC JNYAcASYURA SASAKcBAcBA KEMBANGcCAcCA LACAcDAcDA dMADUdMURDA eALP
APRANAeMAHAPRANAcEF SASAKcEKARAcGAcGA GORAcHAcIKARAcIKARA TEDUNGcJAcJA JERAcKAcKA MAHAPRANAcKAF SA
SAKcKHOT SASAKcLAcLA dLENGAdLENGA TEDUNGcMAcNAcNA RAMBATcNGAcNYAcOKARAcOKARA TEDUNGcPAcPA KAPALcRA
cRA dREPAdREPA TEDUNGcSAcSA dSAGAdSAPAcTAcTA dLATIKdMURDA MAHAPRANAdTAWAcTZIR SASAKcUKARAcUKARA TE
DUNGcVE SASAKcWAcYAcZAL SASAKbMUSICAL SYMBOL cCOMBINING dBENDEdENDEPdGONGdJEGOGANdKEMPLIdKEMPLI WI
TH JEGOGANdKEMPULdKEMPUL WITH JEGOGANdTEGEHcDAENGcDAINGcDANGcDANG dGEDEdSURANGcDENGcDEUNGcDINGcDON
GcDUNGcLEFT-HAND dCLOSED ePLAKePLUKdOPEN ePANGePINGePUNGcRIGHT-HAND dCLOSED eTAKeTUKdOPEN eDAGeDUG
bPAMADAbPAMADA LANTANGbPAMENENGbPANTIbPANTI LANTANGbSIGN cBISAHcCECEKcREREKANcSURANGcULU dCANDRAdR
ICEMbVOWEL SIGN cLA dLENGAdLENGA TEDUNGcPEPETcPEPET TEDUNGcRA dREPAdREPA TEDUNGcSUKUcSUKU ILUTcTAL
INGcTALING dREPAdREPA TEDUNGdTEDUNGcTEDUNGcULUcULU SARIbWINDUaBALL OF YARNaBALLET SHOESaBALLOONaBA
LLOON-SPOKED ASTERISKaBALLOT bBOLD SCRIPT XbBOXbBOX WITH cBALLOTcBOLD dCHECKdSCRIPT XcCHECKcLIGH
T XcSCRIPT XcXbSCRIPT XbXaBAMUM bCOLONbCOMBINING MARK cKOQNDONcTUKWENTISbCOMMAbFULL STOPbLETTER cA
cEEcFAAMAEcFEEcFOMcFUcIcKAcKENcKETcKEUXcKIcKOcKOGHOMcKOVUUcKPAcKUcKYEEcLAcLEEEEcLIcLOQcLUcMcMAcMBA
AcMBENcMEEEEcMENcMIcMOcMUcNAcNDAAcNGAcNGGAcNGKWAENcNIcNJAEMcNJEEcNJUAEcNSHAcNTEEcNTUUcNUcNUAEcNYIc
OcPAcPEEcPEUXcPHASE-dA eFIRIeGBIEE FONeGHEUAEGHEUAEeGHEUAERAEeKAFAeKAQeKETeKEUKEUTNDAeKPOQeKUOQeLA
PAQeLET KUTeLOMMAEeLUeLUAEPeMAEKEUPeMAEMeMAEMBGBIEEeMAEMKPENeMAEMVEUXeMAENYIeMAESIeMANSUAEeMAP PIE
ETeMBANYIeMBAQeMEUNJOMNDEUQeMGBASAeMON NGGEUAETeMOOMEUTeMOOMPUQeMVEUAENGAMeNAA MFONeNAQeNDA LEERAE
WAeNDAANGGEUAETeNENeNGANGUeNGGENeNGKUE MFONeNGKUENZEUMeNIKAeNJAMeNKAARAEeNKINDIeNSHAeNSHIEEeNTAPeN
TAP fMFAAfNTAAeNTOQPENeNYETeNYIeNYIT MONGKEUAEQeNZA MFONeNZUN MEUTePA LEERAEWAePAAMePAARAEePAMSHAE
ePASHAEePETePON fMFON gPIPAEMBAgPIPAEMGBIEEfPA NJI gPIPAEMBAgPIPAEMGBIEEePUPeROMeSEUNYAMeSHINDA P
A NJIeSHIRAEeSHOQ NSHUT YUMeSHUENSHUETeSHUMeSISAeSONJAMeSOQeSOTeSUUeTEUAENeTEUTEUWENeTITA MFONeT
U MAEMBAeTUAEPeU YUQ NAEeUNKNOWNeVEEdB eFEEeFEUXeGHEUGHENeGHEUGHEUAEMeKAMeKEUAEMeKEUPUQeKEUYEUXeKI
EEMeKIQeLAANAEeLAM NSHUT NYAMeLETeLOM NTEUMeMAeMA fNJEUAENAfNJUQAeMBA MAELEEeMBAARAEeMBEURIeMBIT M
BAAKETeMBUOQeMEUQeMEUT NGGEETeMFIYAQeMFON TEUAEQeMONTIEENeNDU NJAAeNGGAAMeNGGEU MBUeNGGUOQeNGGUO
Q LARGEeNGKINDI MVOPeNGOMeNSENeNSHUETeNTIEE SHEUOQeNYAEMAEeNYI NTEUMePARUMePEESHIePITePUNGAAMeSAKE
UAEeSET TUeSHET NJAQeSHEUAEQTUeSIEEeSUEeTAAMeTU fMAEMGBIEEfNSIEEeVEUMeWUAETeYAFU LEERAEWAeYEURAEd
C eBUNGeFUEeGBAYIeGHAPeGHARAEeKAAeKEN fFATIGUEfLAWeKETeKEUKAQeKEUMeKEUSEUXeKEUSHEUAEPeKPARAQeKUO
P NKAARAEeKUTeLAMeLAPeLIQeLUeMA fKEUAERIfNSIEEeMAEMBAeMAESIeMBAA fCABBAGE-TREEfPICKETeMBANYIeMBEEK
EETeMBERAEeMBEUMeMBEUXeMBIeMBIRIEENeMBITeMBUAEMeMBUEeMGBASAQeMIEEeMUAEeNANSANAQeNAQeNDAMeNDAPeNDEU
AEREEeNDEUTeNDIDAeNDOMBUeNGAQeNGGENeNGGUeNGGUAEN NYAMeNGGUEETeNGGUMeNGGUONeNGKAQeNGKUE MAEMBAeNGOM
eNJAEMeNJAMeNJEEEEeNJEUXeNJUEQeNSAeNSEUAENeNSHAQeNSOMeNSUNeNSUOT NGOMeNTAAeNTENeNTEUNGBAeNTU MBITe
NYIR MKPARAQ MEUNeNZAeNZEUMePENePINePIRIEENeRUeSETFONeSEUXeSHIQeSHUEQeSUAETeTAASHAEeTETeTEUTEUXeTI
TA YUEeTITUAEPeVEUAEPENeVEUXeWANGKUOQeWUPeYAAeYEUQeYU MUOMAEeYUMeYUWOQdD eFAAeFEUFEUAETeGHAAeGHEUA
EeKETeKEUAETMEUNeKEUMeKEUOT MBUAEeKEUPeKUeKUNeKUOMeKUQeKWAETeKYEEeLEEEEeLETeLEUAEPeLEUMeLIEEeLOQeL
UMeMeMAENJETeMALEERIeMBAAeMBAA SEVENeMBUOeMEEEEeMEUNeMEUTeMFEUAEeMFEUTeMFIEEeMFOeMFONeMGBEUNeMGBIE
EeMGBOFUMeMONIeMUeMVOPeNDAMeNDEEeNDEUXeNDONeNGGAAMeNGGAAMAEeNGGAPeNGGEUXeNGGUOMeNGGWAENeNGKAPeNGKE
UAEQeNGKEURIeNGKIEEeNGKUNeNGKYEEeNIeNJAPeNJEUAEMeNJEUTeNJIeNJIEEeNJUEQeNSHEEeNSHUTeNSIEEPeNSIEETeN
SUMeNTEEeNTEUMeNTUUeNUeNYAMeNYETeNYIeNYUEePAPePEEePEUTAEePIPePUQePUUTeRAEMeREN fMUCHfOLDeRIIeSAPeS
AQeSEUAEQeSHEEeSHEUAEeSHEUXeSHIIeSHOQeSHUeSOTeSUAEeSUEeSUUeTAEeTEEEEeTEUAENeTEUNeTEUTeTIeTOQeTUeTU
OTeWAPeWUAENeYAEMMAEeYENeYUOMeYUOPeYUWOQdE eAeFAeFAQeFEEeFOMeFU fCALLfIfREMEDYeFUEeFUETeGBETeGBEUX
eGHAAMAEeGHETeGHEUAEeGHEUNeGHEUXeGHOMeIeKETeKEUAEeKEUXeKIeKOeKPEUXeKUETeKUOPeKUTeLAAMeLAPeLAQeLEUA
EMeLOMeLOONeLOOTeLOQeLUeMAeMAEeMAEMeMAPeMAQeMBEEeMBEUMeMENeMFEUQeMGBAeMGBENeMIeMIEEeMONeMUAEeMVIeN
AeNAEeNDAA fMY HOUSEfSOFTNESSeNDAPeNDIAQeNDIQeNDUNeNGAeNGEUREUTeNGGEEEEeNGGEUAEeNGGEUAETeNGGUAESHA
E NYAMeNGGUPeNGGURAEeNGKAeNGKAAMIeNGKEUAEMeNGKEUXeNGKUMeNGKUPeNGOPeNGOQeNGUAEeNGUAETeNJAEMLIeNJEEe
NJEE EPOCHeNJEUXeNKOMeNSHIEEeNSHUEeNSHUOPeNTAPeNTUMeNYI fBETWEENfCLEAVEReNZAQeNZUQeOePA fPEOPLEfPL
URALePAAePAAMePEEMePEUTePEUXePIePIEEQePIETePOePOONePUePUAEePUAQePUEePUMeRAEeRAQeREUXeRIMGBAeSAAeSE
EeSETeSHEUAEQeSHIQeSHOeSHOQeSOMeSUAENeTAAeTAAQeTAEN NTEUMeTAMeTAQeTENeTEUeTEUAEQeTOOeTOONeTOQeTUAE
eTUMeTUMAEeVEEeVEUAEeVOMeWEUXeWUEeWUOeYAPeYEUAEeYEUAETeYEUMeYEUXeYIEEeYITeYOQ fCOVERfSWIMMINGeYUAE
NeYUEQeYUNeYUQdF eEEeFOMeKAeKENeKETeKOeKPAeKUeKYEEeLAeLIeLOQeMeMAeMBAAeMBENeMEEEEeMOeNDAAeNGGAeNGK
WAENeNIeNJAEMeNJUAEeNSHAeNTEEeNUeNUAEeNYIePEEePEUXePUAEeREEeRENeREUXeRIEEeRIIeRUeSAMBAeSEUXeSHIIeS
HOeSHUeSIeSUUeTAAeTAEeTETeUeVUEQeWAeWUEeYAeYOQcPIcPUAEcPUEcRAEcREEcRENcREUXcRIEEcRIIcRUcSAMBAcSEUX
cSHEUXcSHIIcSHOcSHUcSIcSUUcTAAcTAEcTENcTETcTIcUcWAcWUEcYAcYOQcYUQbNJAEMLIbQUESTION MARKbSEMICOLONa
BANANAaBANJOaBANKaBANKNOTE WITH bDOLLAR SIGNbEURO SIGNbPOUND SIGNbYEN SIGNaBAR bCHARTbOF SOAPaBARB
ER POLEaBASEBALLaBASKETaBASKETBALL AND HOOPaBASSA VAH bCOMBINING cHIGH TONEcHIGH-LOW TONEcLOW TONE
cLOW-MID TONEcMID TONEbFULL STOPbLETTER cAcBAcCEcDHIIcDOcEcEEcENNIcFAcGAHcGBUcHWAHcIcJOcKAcKPAHcMB
EcOcOOcPAcSEcTOcUcUWUcVUcWAcWADDAcYEINcYIEcZOaBATaBATAK bCONSONANT SIGN cHcNGbLETTER cAcBAcCAcDAcG
AcHAcIcJAcKARO BAcLAcMAcMANDAILING dHAdNAdSAcMBAcNAcNDAcNGAcNORTHERN TAcNYAcPAcPAKPAK WAcRAcSAcSIM
ALUNGUN dAdGAdHAdLAdMAdPAdRAdSAdWAdYAcSOUTHERN TAcUcWAcYAbPANGOLATbPANONGONANbSIGN TOMPIbSYMBOL BI
NDU cJUDULcNA METEKcPANGOLATcPINARBORASbVOWEL SIGN cEcEEcIcKARO dIdOcOcPAKPAK EcUcU FOR SIMALUNGU
N SAaBATHaBATHTUBaBATTERYaBEACH WITH UMBRELLAaBEAMED bASCENDING MUSICAL NOTESbDESCENDING MUSICAL N
OTESbEIGHTH NOTESbSIXTEENTH NOTESaBEANSaBEAR FACEaBEARDED PERSONaBEATING HEARTaBEAVERaBECAUSEaBEDa
BEER MUGaBEETLEaBELaBELLaBELL bPEPPERbSYMBOLbWITH CANCELLATION STROKEaBELLHOP BELLaBENGALI bABBREV
IATION SIGNbANJIbAU LENGTH MARKbCURRENCY cDENOMINATOR SIXTEENcNUMERATOR dFOURdONEdONE LESS THAN TH
E DENOMINATORdTHREEdTWObDIGIT cEIGHTcFIVEcFOURcNINEcONEcSEVENcSIXcTHREEcTWOcZERObGANDA MARKbISSHAR
bLETTER cAcAAcAIcAUcBAcBHAcCAcCHAcDAcDDAcDDHAcDHAcEcGAcGHAcHAcIcIIcJAcJHAcKAcKHAcKHANDA TAcLAcMAcN
AcNGAcNNAcNYAcOcPAcPHAcRAcRA WITH dLOWER DIAGONALdMIDDLE DIAGONALcRHAcRRAcSAcSHAcSSAcTAcTHAcTTAcTT
HAcUcUUcVEDIC ANUSVARAcVOCALIC dLdLLdRdRRcYAcYYAbRUPEE cMARKcSIGNbSANDHI MARKbSIGN cANUSVARAcAVAGR
AHAcCANDRABINDUcNUKTAcVIRAMAcVISARGAbVOWEL SIGN cAAcAIcAUcEcIcIIcOcUcUUcVOCALIC dLdLLdRdRRaBENT AR
ROW POINTING DOWNWARDS THEN NORTH EASTaBENTO BOXaBENZENE bRINGbRING WITH CIRCLEaBET SYMBOLaBETWEEN
aBEVERAGE BOXaBHAIKSUKI bDANDAbDIGIT cEIGHTcFIVEcFOURcNINEcONEcSEVENcSIXcTHREEcTWOcZERObDOUBLE DAN
DAbGAP FILLER-c1c2bHUNDREDS UNIT MARKbLETTER cAcAAcAIcAUcBAcBHAcCAcCHAcDAcDDAcDDHAcDHAcEcGAcGHAcHA
cIcIIcJAcJHAcKAcKHAcLAcMAcNAcNGAcNNAcNYAcOcPAcPHAcRAcSAcSHAcSSAcTAcTHAcTTAcTTHAcUcUUcVAcVOCALIC dL
dRdRRcYAbNUMBER cEIGHTcEIGHTYcFIFTYcFIVEcFORTYcFOURcNINEcNINETYcONEcSEVENcSEVENTYcSIXcSIXTYcTENcTH
IRTYcTHREEcTWENTYcTWObSIGN cANUSVARAcAVAGRAHAcCANDRABINDUcVIRAMAcVISARGAbVOWEL SIGN cAAcAIcAUcEcIc
IIcOcUcUUcVOCALIC dLdRdRRbWORD SEPARATORaBICYCLEaBICYCLISTaBIG bREVERSE SOLIDUSbSOLIDUSaBIKINIaBIL
LED CAPaBILLIARDSaBIOHAZARD SIGNaBIRDaBIRTHDAY CAKEaBISONaBITCOIN SIGNaBITING LIPaBLACK bBOWTIEbCE
NTRE WHITE STARbCHESS cBISHOPcBISHOP ROTATED dNINETY DEGREESdTWO HUNDRED SEVENTY DEGREEScEQUIHOPPE
RcEQUIHOPPER ROTATED NINETY DEGREEScKINGcKING ROTATED dNINETY DEGREESdTWO HUNDRED SEVENTY DEGREESc
KNIGHTcKNIGHT ROTATED dFORTY-FIVE DEGREESdNINETY DEGREESdONE HUNDRED THIRTY-FIVE DEGREESdTHREE HUN
DRED FIFTEEN DEGREESdTWO HUNDRED eSEVENTY DEGREESeTWENTY-FIVE DEGREEScKNIGHT-dBISHOPdQUEENdROOKcPA
WNcPAWN ROTATED dNINETY DEGREESdTWO HUNDRED SEVENTY DEGREEScQUEENcQUEEN ROTATED dNINETY DEGREESdTW
O HUNDRED SEVENTY DEGREEScROOKcROOK ROTATED dNINETY DEGREESdTWO HUNDRED SEVENTY DEGREEScTURNED dBI
SHOPdKINGdKNIGHTdPAWNdQUEENdROOKbCIRCLEbCIRCLE cFOR RECORDcWITH dDOWN ARROWdTWO WHITE DOTSdWHITE D
OT RIGHTbCLUB SUITbCROSS ON SHIELDbCURVED cDOWNWARDS AND dLEFTWARDS ARROWdRIGHTWARDS ARROWcLEFTWAR
DS AND dDOWNWARDS ARROWdUPWARDS ARROWcRIGHTWARDS AND dDOWNWARDS ARROWdUPWARDS ARROWcUPWARDS AND dL
EFTWARDS ARROWdRIGHTWARDS ARROWbDIAMONDbDIAMOND cCENTREDcMINUS WHITE XcON CROSScSUITcWITH DOWN ARR
OWbDOWN POINTING BACKHAND INDEXbDOWN-POINTING cDOUBLE TRIANGLEcISOSCELES RIGHT TRIANGLEcSMALL TRIA
NGLEcTRIANGLEbDOWNWARDS EQUILATERAL ARROWHEADbDRAUGHTS cKINGcMANbDROPLETbFLAGbFLORETTEbFOLDERbFOU
R POINTED STARbHARD SHELL FLOPPY DISKbHEARTbHEART SUITbHEXAGONbHORIZONTAL ELLIPSEbHOURGLASSbLARG
E cCIRCLEcSQUAREbLEFT cLANE MERGEcPOINTING dBACKHAND INDEXdINDEXbLEFT-POINTING cDOUBLE dTRIANGLEdT
RIANGLE WITH VERTICAL BARcISOSCELES RIGHT TRIANGLEcPOINTERcSMALL TRIANGLEcTRIANGLEbLEFTWARDS cBULL
ETcEQUILATERAL ARROWHEADbLOWER cLEFT TRIANGLEcRIGHT TRIANGLEbLOZENGEbMEDIUM cDIAMONDcDOWN-POINTIN
G dTRIANGLEdTRIANGLE CENTREDcLEFT-POINTING dTRIANGLEdTRIANGLE CENTREDcLOZENGEcRIGHT-POINTING dTRIA
NGLEdTRIANGLE CENTREDcSMALL dDIAMONDdLOZENGEdSQUAREcSQUAREcUP-POINTING dTRIANGLEdTRIANGLE CENTREDb
MOON LILITHbNIBbOCTAGONbPARALLELOGRAMbPENNANTbPENTAGONbPUSHPINbQUESTION MARK ORNAMENTbRECTANGLEbRI
GHT POINTING cBACKHAND INDEXcINDEXbRIGHT-POINTING cDOUBLE dTRIANGLEdTRIANGLE WITH VERTICAL BARcISO
SCELES RIGHT TRIANGLEcPENTAGONcPOINTERcSMALL TRIANGLEcTRIANGLEcTRIANGLE WITH DOUBLE VERTICAL BARbR
IGHTWARDS cARROWcARROWHEADcBULLETcEQUILATERAL ARROWHEADbROSETTEbSAFETY SCISSORSbSCISSORSbSHOGI PIE
CEbSKULL AND CROSSBONESbSLIGHTLY SMALL cCIRCLEcSQUAREbSMALL cDIAMONDcLOZENGEcSQUAREcSTARbSMILING F
ACEbSNOWMANbSPADE SUITbSQUAREbSQUARE cBUTTONcCENTREDcFOR STOPbSTARbSUN WITH RAYSbTELEPHONEbTINY cD
IAMONDcLOZENGEcSQUAREbTOUCHTONE TELEPHONEbTRUCKbTWO-WAY LEFT WAY TRAFFICbUNIVERSAL RECYCLING SYMBO
LbUP POINTING BACKHAND INDEXbUP-POINTING cDOUBLE TRIANGLEcISOSCELES RIGHT TRIANGLEcSMALL TRIANGLEc
TRIANGLEbUPPER cLEFT TRIANGLEcRIGHT TRIANGLEbUPWARDS EQUILATERAL ARROWHEADbVERTICAL cELLIPSEcRECTA
NGLEbVERY SMALL cDIAMONDcLOZENGEcSQUAREaBLACK-bFEATHERED cNORTH EAST ARROWcRIGHTWARDS ARROWcSOUT
H EAST ARROWbLETTER CAPITAL cCcHcIcRcZaBLANK SYMBOLaBLOCK SEXTANT-b1b12b123b1234b12345b12346b1235b
12356b1236b124b1245b12456b1246b125b1256b126b13b134b1345b13456b1346b1356b136b14b145b1456b146b15b156
b16b2b23b234b2345b23456b2346b235b2356b236b24b245b2456b25b256b26b3b34b345b3456b346b35b356b36b4b45b4
56b46b5b56b6aBLOSSOMaBLOWFISHaBLUE bBOOKbHEARTaBLUEBERRIESaBOARaBOLD bEIGHT SPOKED ASTERISKbFIVE S
POKED ASTERISKbGREEK CROSSbSALTIREbSIX SPOKED ASTERISKbWHITE cCIRCLEcSQUAREaBOMaBOMBaBONEaBOOKaBOO
KMARKaBOOKMARK TABSaBOOKSaBOOMERANGaBOPOMOFO bFINAL LETTER cGcHcKcPcTbLETTER cAcAHcAIcAINNcAMcANcA
NGcANNcAUcAUNNcBcBUcCcCHcDcEcEEcEHcEIcENcENGcENNcERcFcGcGHcGNcGUcGWcHcIcIHcIMcINNcINNNcIRcIUcJcJIc
KcKWcLcLHcMcNcNGcNGGcNNcOcO WITH DOT ABOVEcOEcOMcONGcONNcOOcOUcPcQcRcScSHcTcUcUNNcVcXcZcZHcZIcZYaB
OTTLE WITH POPPING CORKaBOTTOM bARC ANTICLOCKWISE ARROWbCURLY BRACKETbHALF cBLACK CIRCLEcINTEGRALc
LEFT PARENTHESIScRIGHT PARENTHESISbLEFT cCORNERcCROPcHALF BRACKETbPARENTHESISbRIGHT cCORNERcCROPcH
ALF BRACKETbSQUARE cBRACKETcBRACKET OVER TOP SQUARE BRACKETbTORTOISE SHELL BRACKETaBOUQUETaBOUQUE
T OF FLOWERSaBOW AND ARROWaBOWL bOF HYGIEIAbWITH SPOONaBOWLINGaBOWTIEaBOWTIE WITH bLEFT HALF BLACK
bRIGHT HALF BLACKaBOX DRAWINGS bDOUBLE cDOWN AND dHORIZONTALdLEFTdRIGHTcHORIZONTALcUP AND dHORIZON
TALdLEFTdRIGHTcVERTICALcVERTICAL AND dHORIZONTALdLEFTdRIGHTbDOWN cDOUBLE AND dHORIZONTAL SINGLEdLE
FT SINGLEdRIGHT SINGLEcHEAVY AND dHORIZONTAL LIGHTdLEFT eLIGHTeUP LIGHTdRIGHT eLIGHTeUP LIGHTdUP H
ORIZONTAL LIGHTcLIGHT AND dHORIZONTAL HEAVYdLEFT eHEAVYeUP HEAVYdRIGHT eHEAVYeUP HEAVYdUP HORIZONT
AL HEAVYcSINGLE AND dHORIZONTAL DOUBLEdLEFT DOUBLEdRIGHT DOUBLEbHEAVY cDOUBLE DASH dHORIZONTALdVER
TICALcDOWNcDOWN AND dHORIZONTALdLEFTdRIGHTcHORIZONTALcLEFTcLEFT AND LIGHT RIGHTcQUADRUPLE DASH dHO
RIZONTALdVERTICALcRIGHTcTRIPLE DASH dHORIZONTALdVERTICALcUPcUP AND dHORIZONTALdLEFTdLIGHT DOWNdRIG
HTcVERTICALcVERTICAL AND dHORIZONTALdLEFTdRIGHTbLEFT cDOWN HEAVY AND RIGHT UP LIGHTcHEAVY AND RIGH
T dDOWN LIGHTdUP LIGHTdVERTICAL LIGHTcLIGHT AND RIGHT dDOWN HEAVYdUP HEAVYdVERTICAL HEAVYcUP HEAV
Y AND RIGHT DOWN LIGHTbLIGHT cARC dDOWN AND eLEFTeRIGHTdUP AND eLEFTeRIGHTcDIAGONAL dCROSSdDIAMOND
dMIDDLE eLEFT TO fLOWER gCENTREgCENTRE TO MIDDLE RIGHTfUPPER CENTRE TO MIDDLE gRIGHTgRIGHT TO LOWE
R CENTREeRIGHT TO fLOWER CENTREfUPPER CENTRE TO MIDDLE LEFT TO LOWER CENTREdUPPER eCENTRE TO MIDDL
E fLEFTfLEFT gAND MIDDLE RIGHT TO LOWER CENTREgTO LOWER hCENTREhCENTRE TO MIDDLE RIGHTfRIGHTfRIGH
T gAND MIDDLE LEFT TO LOWER CENTREgTO LOWER hCENTREhCENTRE TO MIDDLE LEFTeLEFT TO LOWER RIGHTeRIGH
T TO LOWER LEFTcDOUBLE DASH dHORIZONTALdVERTICALcDOWNcDOWN AND dHORIZONTALdLEFTdRIGHTcHORIZONTALcH
ORIZONTAL WITH VERTICAL STROKEcLEFTcLEFT AND HEAVY RIGHTcQUADRUPLE DASH dHORIZONTALdVERTICALcRIGHT
cTRIPLE DASH dHORIZONTALdVERTICALcUPcUP AND dHEAVY DOWNdHORIZONTALdLEFTdRIGHTcVERTICALcVERTICAL AN
D dHORIZONTALdLEFTdRIGHTbRIGHT cDOWN HEAVY AND LEFT UP LIGHTcHEAVY AND LEFT dDOWN LIGHTdUP LIGHTdV
ERTICAL LIGHTcLIGHT AND LEFT dDOWN HEAVYdUP HEAVYdVERTICAL HEAVYcUP HEAVY AND LEFT DOWN LIGHTbUP c
DOUBLE AND dHORIZONTAL SINGLEdLEFT SINGLEdRIGHT SINGLEcHEAVY AND dDOWN HORIZONTAL LIGHTdHORIZONTA
L LIGHTdLEFT eDOWN LIGHTeLIGHTdRIGHT eDOWN LIGHTeLIGHTcLIGHT AND dDOWN HORIZONTAL HEAVYdHORIZONTA
L HEAVYdLEFT eDOWN HEAVYeHEAVYdRIGHT eDOWN HEAVYeHEAVYcSINGLE AND dHORIZONTAL DOUBLEdLEFT DOUBLEdR
IGHT DOUBLEbVERTICAL cDOUBLE AND dHORIZONTAL SINGLEdLEFT SINGLEdRIGHT SINGLEcHEAVY AND dHORIZONTA
L LIGHTdLEFT LIGHTdRIGHT LIGHTcLIGHT AND dHORIZONTAL HEAVYdLEFT HEAVYdRIGHT HEAVYcSINGLE AND dHORI
ZONTAL DOUBLEdLEFT DOUBLEdRIGHT DOUBLEaBOXING GLOVEaBOYaBOYS SYMBOLaBPHaBRAHMI bDANDAbDIGIT cEIGHT
cFIVEcFOURcNINEcONEcSEVENcSIXcTHREEcTWOcZERObDOUBLE DANDAbLETTER cAcAAcAIcAUcBAcBHAcCAcCHAcDAcDDAc
DDHAcDHAcEcGAcGHAcHAcIcIIcJAcJHAcKAcKHAcLAcLLAcMAcNAcNGAcNNAcNYAcOcOLD TAMIL dLLAdLLLAdNNNAdRRAdSH
ORT eEeOcPAcPHAcRAcSAcSHAcSSAcTAcTHAcTTAcTTHAcUcUUcVAcVOCALIC dLdLLdRdRRcYAbNUMBER cEIGHTcEIGHTYcF
IFTYcFIVEcFORTYcFOURcJOINERcNINEcNINETYcONEcONE dHUNDREDdTHOUSANDcSEVENcSEVENTYcSIXcSIXTYcTENcTHIR
TYcTHREEcTWENTYcTWObPUNCTUATION cCRESCENT BARcDOTcDOUBLE DOTcLINEcLOTUSbSIGN cANUSVARAcCANDRABINDU
cJIHVAMULIYAcOLD TAMIL VIRAMAcUPADHMANIYAcVISARGAbVIRAMAbVOWEL SIGN cAAcAIcAUcBHATTIPROLU AAcEcIcI
IcOcOLD TAMIL SHORT dEdOcUcUUcVOCALIC dLdLLdRdRRaBRAILLE PATTERN bBLANKbDOTS-c1c12c123c1234c12345c
123456c1234567c12345678c1234568c123457c1234578c123458c12346c123467c1234678c123468c12347c123478c123
48c1235c12356c123567c1235678c123568c12357c123578c12358c1236c12367c123678c12368c1237c12378c1238c124
c1245c12456c124567c1245678c124568c12457c124578c12458c1246c12467c124678c12468c1247c12478c1248c125c1
256c12567c125678c12568c1257c12578c1258c126c1267c12678c1268c127c1278c128c13c134c1345c13456c134567c1
345678c134568c13457c134578c13458c1346c13467c134678c13468c1347c13478c1348c135c1356c13567c135678c135
68c1357c13578c1358c136c1367c13678c1368c137c1378c138c14c145c1456c14567c145678c14568c1457c14578c1458
c146c1467c14678c1468c147c1478c148c15c156c1567c15678c1568c157c1578c158c16c167c1678c168c17c178c18c2c
23c234c2345c23456c234567c2345678c234568c23457c234578c23458c2346c23467c234678c23468c2347c23478c2348
c235c2356c23567c235678c23568c2357c23578c2358c236c2367c23678c2368c237c2378c238c24c245c2456c24567c24
5678c24568c2457c24578c2458c246c2467c24678c2468c247c2478c248c25c256c2567c25678c2568c257c2578c258c26
c267c2678c268c27c278c28c3c34c345c3456c34567c345678c34568c3457c34578c3458c346c3467c34678c3468c347c3
478c348c35c356c3567c35678c3568c357c3578c358c36c367c3678c368c37c378c38c4c45c456c4567c45678c4568c457
c4578c458c46c467c4678c468c47c478c48c5c56c567c5678c568c57c578c58c6c67c678c68c7c78c8aBRAINaBREADaBRE
AK PERMITTED HEREaBREAST-FEEDINGaBREVEaBRICKaBRIDE WITH VEILaBRIDGE AT NIGHTaBRIEFCASEaBRIEFSaBROC
COLIaBROKEN bBARbCIRCLE WITH NORTHWEST ARROWbHEARTaBROOMaBROWN HEARTaBSaBUBBLE TEAaBUBBLESaBUCKETa
BUGaBUGINESE bEND OF SECTIONbLETTER cAcBAcCAcDAcGAcHAcJAcKAcLAcMAcMPAcNAcNGAcNGKAcNRAcNYAcNYCAcPAc
RAcSAcTAcVAcYAbPALLAWAbVOWEL SIGN cAEcEcIcOcUaBUHID bLETTER cAcBAcDAcGAcHAcIcKAcLAcMAcNAcNGAcPAcRA
cSAcTAcUcWAcYAbVOWEL SIGN cIcUaBUILDING CONSTRUCTIONaBULLETaBULLET OPERATORaBULLHORNaBULLHORN WIT
H SOUND WAVESaBULLSEYEaBURRITOaBUSaBUS STOPaBUST IN SILHOUETTEaBUSTS IN SILHOUETTEaBUTTERaBUTTERFL
YaBYTE ORDER MARKaBYZANTINE MUSICAL SYMBOL bAGOGI cARGIcARGOTERIcGORGIcGORGOTERIcMESIcMETRIAcPOL
I dARGIdGORGIbANATRICHISMAbANTIKENOKYLISMAbANTIKENOMAbAPESO cEKFONITIKONcEXO NEObAPLIbAPODERMA cAR
CHAIONcNEObAPOSTROFOI cSYNDESMOS NEOcTELOUS ICHIMATOSbAPOSTROFOSbAPOSTROFOS cDIPLIcNEObAPOTHEMAbAR
GONbARGOSYNTHETONbARKTIKO cDIcGAcKEcNIcPAcVOUcZObCHAMILIbCHAMILONbCHOREVMA cARCHAIONcNEObCHROA cKL
ITONcSPATHIcZYGOSbDASEIAbDIARGONbDIASTOLI cAPLI dMEGALIdMIKRIcDIPLIcTHESEOSbDIESIS cAPLI DYO DODEK
ATAcDIGRAMMOS EX DODEKATAcMONOGRAMMOS TESSERA DODEKATAcTETARTIMORIONcTRIGRAMMOS OKTO DODEKATAcTRIT
IMORIONbDIFTOGGOS OUbDIGORGONbDIGORGON PARESTIGMENON cARISTERA dANOdKATOcDEXIAbDIGRAMMA GGbDIPLIbD
IPLI ARCHAIONbDYObEKSTREPTONbELAFRONbENARXIS KAI FTHORA VOUbENDOFONONbEPEGERMAbETERON cARGOSYNTHET
ONcPARAKALESMAbEXO EKFONITIKONbFANEROSIS cDIFONIAScMONOFONIAScTETRAFONIASbFHTORA SKLIRON CHROMA VA
SISbFTHORA cARCHAIONcARCHAION DEYTEROU ICHOUcDIATONIKI dDIdKEdNANAdNI eANOeKATOdPAdZOcENARMONIOS A
NTIFONIAcI YFESIS TETARTIMORIONcMALAKON CHROMA dDIFONIASdMONOFONIAScNAOS ICHOScNENANOcSKLIRON dCHR
OMA eSYNAFIeVASISdDIATONON DIbGENIKI cDIESIScYFESISbGORGON cARCHAIONcNEO dANOdKATOcPARESTIGMENON d
ARISTERAdDEXIAbGORGOSYNTHETONbGORTHMIKON N cAPLOUNcDIPLOUNbGRONTHISMATAbICHADINbIMIDIARGONbIMIFONO
NbIMIFTHORAbIMIFTHORONbISAKIA TELOUS ICHIMATOSbISON cARCHAIONcNEObKATAVA TROMIKONbKATAVASMAbKATHIS
TIbKENTIMA cARCHAIONcNEO dANOdKATOdMESObKENTIMATAbKENTIMATA cARCHAIONcNEO dANOdKATOdMESObKLASMAbKL
ASMA cANOcKATObKONTEVMAbKONTEVMA ALLObKORONISbKOUFISMAbKRATIMA cALLOcARCHAIONcNEObKRATIMATAbKRATIM
OKOUFISMAbKRATIMOYPORROONbKREMASTIbKYLISMAbLEIMMA cDYO CHRONONcENOS CHRONOUcIMISEOS CHRONOUcTESSAR
ON CHRONONcTRION CHRONONbLEMOIbLYGISMAbMARTYRIA cALLI dDEYTEROS ICHOSdPROTOS ICHOScDEYTEROS ICHOSc
LEGETOS ICHOScPLAGIOS dICHOSdTETARTOS ICHOScPROTOS ICHOScPROTOVARYS ICHOScTETARTOS dICHOSdLEGETO
S ICHOScTRIFONIAScTRITOS ICHOScVARYS ICHOSbMIKRON ISONbNANAbOLIGON cARCHAIONcNEObOMALONbOXEIA cDIP
LIcEKFONITIKONcNEObOXEIAI ARCHAIONbOYRANISMA cARCHAIONcNEObPARAKALESMA cARCHAIONcNEObPARAKLITIKIbP
ARAKLITIKI cARCHAIONcNEObPARICHONbPELASTONbPELASTON NEObPERISPOMENIbPETASMAbPETASTIbPETASTOKOUFISM
AbPIASMA cARCHAIONcNEObPSIFISTOLYGISMAbPSIFISTONbPSIFISTON NEObPSIFISTOPARAKALESMAbPSIFISTOSYNAGMA
bPSILIbPSILONbRAPISMAbREVMAbSAXIMATAbSEISMAbSEISMA NEObSIMANSIS cARSEOScARSEOS dDISIMOUdTETRASIMOU
dTRISIMOUcTHESEOScTHESEOS dDISIMOUdTETRASIMOUdTRISIMOUbSTAVROSbSTAVROS APODEXIAbSTIGMAbSTRAGGISMAT
AbSYNAGMA cARCHAIONcMETA STAVROUcNEObSYNEVMAbSYRMAbSYRMATIKIbTELEIAbTESSERAbTETRAPLIbTHEMAbTHEMA A
PLOUNbTHEMATISMOS cESOcEXObTHES KAI APOTHESbTHITAbTINAGMAbTRIAbTRIGORGONbTRIPLIbTROMIKOLYGISMAbTRO
MIKON cALLOcARCHAIONcNEObTROMIKOPARAKALESMAbTROMIKOPSIFISTONbTROMIKOSYNAGMAbVAREIA cDIPLIcEKFONITI
KONcNEObVAREIAI ARCHAIONbVATHYbXIRON KLASMAbYFEN cANOcKATObYFESIS cAPLI DYO DODEKATAcDIGRAMMOS E
X DODEKATAcMONOGRAMMOS TESSERA DODEKATAcTRIGRAMMOS OKTO DODEKATAcTRITIMORIONbYPOKRISISbYPOKRISIS D
IPLIbYPORROIbYPSILIaCACTUSaCADA UNAaCADUCEUSaCALENDARaCALL ME HANDaCAMERAaCAMERA WITH FLASHaCAMPIN
GaCANaCANADIAN SYLLABICS bAbAAbAAIbAAYbAIbAIVILIK BbANbATHAPASCAN cMcSbAYbBEAVER DENE cLcRbBIBLE-C
REE YbBLACKFOOT cAcEcIcKAcKEcKIcKOcNAcNEcNIcNOcOcScWcWAcWEcWIcWObCbCAbCAAbCAAIbCARRIER cCHAcCHEcCH
EEcCHIcCHOcCHUcDEEcDENE GEEcDENTAL ScDIcDLAcDLEcDLEEcDLIcDLOcDLUcDZAcDZEcDZEEcDZIcDZOcDZUcEEcGAcGA
AcGEcGEEcGHAcGHEcGHEEcGHIcGHOcGHUcGIcGOcGUcGWAcGWUcHcHEEcHIcHWAcHWEcHWEEcHWIcHWOcHWUcIcINITIAL ZcJ
AcJEcJEEcJIcJJAcJJEcJJEEcJJIcJJOcJJUcJOcJUcJWAcKHAcKHEcKHEEcKHIcKHOcKHUcKKcKKAcKKEcKKEEcKKIcKKOcKK
UcLAcLEcLEEcLHAcLHEcLHEEcLHIcLHOcLHUcLIcLOcLUcMAcMEcMEEcMIcMOcMUcNAcNEcNEEcNGcNIcNOcNUcPcPAcPEcPEE
cPIcPOcPUcRAcREcREEcRIcROcRUcSAcSEcSEEcSHcSHAcSHEcSHEEcSHIcSHOcSHUcSIcSOcSUcTHAcTHEcTHEEcTHIcTHOcT
HUcTLAcTLEcTLEEcTLHAcTLHEcTLHEEcTLHIcTLHOcTLHUcTLIcTLOcTLUcTSAcTSEcTSEEcTSIcTSOcTSUcTTAcTTEcTTEEcT
TIcTTOcTTSAcTTSEcTTSEEcTTSIcTTSOcTTSUcTTUcWAcWEcWEEcWIcWOcWUcYAcYEcYEEcYIcYOcYUcZcZAcZEcZEEcZIcZOc
ZUbCEbCHI SIGNbCIbCIIbCObCOObCWAbCWAAbCWEbCWIbCWIIbCWObCWOObEbEASTERN WbENbFbFAbFAAbFAAIbFEbFIbFII
bFINAL cACUTEcBOTTOM HALF RINGcDOUBLE dACUTEdSHORT VERTICAL STROKEScDOWN TACKcGRAVEcMIDDLE DOTcPLU
ScRAISED DOTcRIGHT HALF RINGcRINGcSHORT HORIZONTAL STROKEcSMALL RINGcTOP HALF RINGbFObFOObFULL STO
PbFWAAbGLOTTAL STOPbHKbHYPHENbIbIIbINbKbKAbKAAbKAAIbKAYbKEbKIbKIIbKObKOObKWbKWAbKWAAbKWAYbKWEbKWIb
KWIIbKWObKWOObLbLAbLAAbLAAIbLAYbLEbLHbLHAbLHAAbLHIbLHIIbLHObLHOObLIbLIIbLObLOObLWAbLWAAbLWEbLWIbLW
IIbLWObLWOObMbMAbMAAbMAAIbMAYbMEbMEDIAL cLcRbMHbMIbMIIbMObMOObMOOSE-CREE SKbMWAbMWAAbMWEbMWIbMWIIb
MWObMWOObNbN-CREE cTHEcTHIcTHIIbNAbNAAbNAAIbNASKAPI cCWAAcKWAAcMWAAcNWAAcS-WcSCWAcSKWcSKWAcSPWAcST
WAcSWAAcTWAAcWAAcWOOcYWAAbNATTILIK cHAcHAAcHIcHIIcHOcHOOcSHRAcSHRAAcSHRIcSHRIIcSHROcSHROObNAYbNEbN
GbNGAbNGAAbNGAAIbNGAIbNGIbNGIIbNGObNGOObNHbNIbNIIbNNGbNNGAbNNGAAbNNGIbNNGIIbNNGObNNGOObNObNOObNOYb
NUNAVIK cHcHAcHAAcHEcHIcHIIcHOcHOObNUNAVUT HbNWAbNWAAbNWEbNWIbNWIIbNWObNWOObObOJIBWAY cCcKcMcNcNWI
cNWIIcNWOcNWOOcPcScSHcTbONbOObOYbPbPAbPAAbPAAIbPAYbPEbPIbPIIbPObPOObPOYbPWAbPWAAbPWEbPWIbPWIIbPWOb
PWOObPWOYbQbQAbQAAbQAAIbQAIbQIbQIIbQObQOObRbR-CREE cREcRWEbRAbRAAbRAAIbRAYbREbRIbRIIbRObROObRWAbRW
AAbRWEEbRWIbRWIIbRWObRWOObSbSAbSAAbSAAIbSAYbSAYISI cHAcHEcHIcHOcHOOcJIcJUcJUUcMcSHAcSHEcSHIcSHOcSH
OOcSHWEcTHcYIbSEbSHbSHAbSHAAbSHAYbSHEbSHIbSHIIbSHObSHOObSHOYbSHWAbSHWAAbSHWEbSHWIbSHWIIbSHWObSHWOO
bSHWOYbSIbSIIbSObSOObSOUTH-SLAVEY cKAHcKEHcKIHcKOHbSOYbSPAbSPEbSPIbSPObSWbSWAbSWAAbSWEbSWIbSWIIbSW
ObSWOObTbTAbTAAbTAAIbTAYbTEbTHbTH-CREE cTHcTHAcTHAAcTHEcTHIcTHIIcTHOcTHOObTHAbTHAAbTHEbTHIbTHIIbTH
ObTHOObTHWAbTHWAAbTHWEbTIbTIIbTLHAbTLHEbTLHIbTLHObTLHOObTLHWEbTObTOObTTAbTTEbTTHbTTHAbTTHAAbTTHEbT
THIbTTHObTTHOObTTHWEbTTIbTTObTWAbTWAAbTWEbTWIbTWIIbTWObTWOObTYAbTYEbTYIbTYObWAbWAAbWAYbWEbWEST-CRE
E cCWAcCWAAcCWEcCWIcCWIIcCWOcCWOOcFWAAcKWAcKWAAcKWEcKWIcKWIIcKWOcKWOOcLcLAcLAAcLEcLOcLOOcLWAcLWAAc
LWEcLWIcLWIIcLWOcLWOOcMcMWAcMWAAcMWEcMWIcMWIIcMWOcMWOOcNWAcNWAAcNWEcPcPWAcPWAAcPWEcPWIcPWIIcPWOcPW
OOcRcRAcREcRIcROcRWAAcSHWAcSHWAAcSHWEcSHWIcSHWIIcSHWOcSHWOOcSWAcSWAAcSWEcSWIcSWIIcSWOcSWOOcTHWAAcT
WAcTWAAcTWEcTWIcTWIIcTWOcTWOOcWAcWAAcWEcWIcWIIcWOcWOOcYcYWAcYWAAcYWEcYWIcYWIIcYWOcYWOObWESTERN WbW
IbWIIbWObWOObWOODS-CREE cFINAL THcTHcTHAcTHEcTHIcTHOcTHWAcTHWAAcTHWEEcTHWIcTHWIIcTHWOcTHWOObYbY-CR
EE cCOOcKOOcLOOcMOOcNOOcOOcPOOcPWAAcSOOcTOOcWcYOObYAbYAAbYAAIbYAYbYEbYIbYIIbYObYOObYOYbYWAbYWAAbYW
EbYWIbYWIIbYWObYWOOaCANCELaCANCEL bCHARACTERbTAGaCANCELLATION XaCANCERaCANDLEaCANDYaCANNED FOODaCA
NOEaCAPITULUMaCAPRICORNaCAR SLIDINGaCARD bFILE BOXbINDEXbINDEX DIVIDERSaCARE OFaCARETaCARET INSERT
ION POINTaCARIAN LETTER bAbA2bBbC-c18c39bDbD2bEbE2bGbG2bIbIIbKbK2bLbLDbLD2bMbMBbMB2bMB3bMB4bNbNDbN
GbNNbObPbP2bQbRbRRbSbSHbSH2bSSbSTbST2bTbTTbTT2bUbUUbUUUbUUU2bUUU3bUUUUbXaCARONaCAROUSEL HORSEaCAR
P STREAMERaCARPENTRY SAWaCARRIAGE RETURNaCARROTaCASTLEaCATaCAT bFACEbFACE WITH cTEARS OF JOYcWRY S
MILEaCAUCASIAN ALBANIAN bCITATION MARKbLETTER cALTcAORcBETcCARcCAYNcCHAcCHATcCHIcCHOYcCYAWcCYAYcDA
TcDYANcDZAYcDZYAYcEBcEYNcFAMcGHEYScGIMcHEYTcINYAcIRBcIWNcJAYNcJHOXcKARcKIWcLANcLYITcMAQcNOWCcONcPE
NcPIWRcQARcQAYcRATcSEYKcSHAcSHAKcSHOYcTAScTIWRcTYAYcVEYZcXEYNcYAYDcYOWDcZARLcZHAcZHILaCAUTION SIGN
aCCHaCEDI SIGNaCEDILLAaCELTIC CROSSaCENT SIGNaCENTRE LINE SYMBOLaCENTRELINE bLOW LINEbOVERLINEaCER
ESaCGJaCHAINSaCHAIRaCHAKMA bAU MARKbDANDAbDIGIT cEIGHTcFIVEcFOURcNINEcONEcSEVENcSIXcTHREEcTWOcZERO
bDOUBLE DANDAbLETTER cAAcBAAcBHAAcCAAcCHAAcDAAcDDAAcDDHAAcDHAAcEcGAAcGHAAcHAAcIcJAAcJHAAcKAAcKHAAc
LAAcLHAAcMAAcNAAcNGAAcNNAAcNYAAcPAAcPHAAcRAAcSAAcTAAcTHAAcTTAAcTTHAAcUcVAAcWAAcYAAcYYAAbMAAYYAAb
O MARKbQUESTION MARKbSECTION MARKbSIGN cANUSVARAcCANDRABINDUcVISARGAbVIRAMAbVOWEL SIGN cAcAAcAIcAU
cEcEIcIcIIcOcOIcUcUUaCHAM bCONSONANT SIGN cFINAL dHdMdNGcLAcRAcWAcYAbDIGIT cEIGHTcFIVEcFOURcNINEcO
NEcSEVENcSIXcTHREEcTWOcZERObLETTER cAcAIcBAcBBAcBHAcCHAcCHHAcDAcDDAcDHAcEcFINAL dCHdGdKdLdNdNGdPdR
dSSdTdYcGAcGHAcHAcIcJAcJHAcKAcKHAcLAcMAcMUEcNAcNGAcNGUEcNHAcNHJAcNHUEcNUEcOcPAcPHAcPPAcRAcSAcSSAcT
AcTHAcUcVAcYAbPUNCTUATION cDANDAcDOUBLE DANDAcSPIRALcTRIPLE DANDAbVOWEL SIGN cAAcAIcAUcEIcIcIIcOcO
EcUcUEaCHARACTER bTABULATIONbTABULATION cSETcWITH JUSTIFICATIONbTIEaCHART WITH bDOWNWARDS TRENDbUP
WARDS cTRENDcTREND AND YEN SIGNaCHECK MARKaCHECKER bBOARDbBOARD FILLaCHEERING MEGAPHONEaCHEESE WED
GEaCHEQUERED FLAGaCHEROKEE bLETTER cAcDAcDEcDIcDLAcDOcDUcDVcEcGAcGEcGIcGOcGUcGVcHAcHEcHIcHNAcHOcHU
cHVcIcKAcLAcLEcLIcLOcLUcLVcMAcMEcMIcMOcMUcMVcNAcNAHcNEcNIcNOcNUcNVcOcQUAcQUEcQUIcQUOcQUUcQUVcScSAc
SEcSIcSOcSUcSVcTAcTEcTIcTLAcTLEcTLIcTLOcTLUcTLVcTSAcTSEcTSIcTSOcTSUcTSVcUcVcWAcWEcWIcWOcWUcWVcYAcY
EcYIcYOcYUcYVbSMALL LETTER cAcDAcDEcDIcDLAcDOcDUcDVcEcGAcGEcGIcGOcGUcGVcHAcHEcHIcHNAcHOcHUcHVcIcKA
cLAcLEcLIcLOcLUcLVcMAcMEcMIcMOcMUcMVcNAcNAHcNEcNIcNOcNUcNVcOcQUAcQUEcQUIcQUOcQUUcQUVcScSAcSEcSIcSO
cSUcSVcTAcTEcTIcTLAcTLEcTLIcTLOcTLUcTLVcTSAcTSEcTSIcTSOcTSUcTSVcUcVcWAcWEcWIcWOcWUcWVcYAcYEcYIcYOc
YUcYVaCHERRIESaCHERRY BLOSSOMaCHESTNUTaCHI RHOaCHICKENaCHILDaCHILDREN CROSSINGaCHIPMUNKaCHIRONaCHO
COLATE BARaCHOPSTICKSaCHORASMIAN bLETTER cALEPHcAYINcBETHcCURLED WAWcDALETHcGIMELcHEcHETHcKAPHcLAM
EDHcMEMcNUNcPEcRESHcSAMEKHcSHINcSMALL ALEPHcTAWcWAWcYODHcZAYINbNUMBER cFOURcONEcONE HUNDREDcTENcTH
REEcTWENTYcTWOaCHRISTMAS TREEaCHURCHaCINEMAaCIRCLE bDIVIDED BY HORIZONTAL BAR AND TOP HALF DIVIDE
D BY VERTICAL BARbWITH cALL BUT UPPER LEFT QUADRANT BLACKcHORIZONTAL BARcLEFT HALF BLACKcLOWER HAL
F BLACKcRIGHT HALF BLACKcSMALL CIRCLE TO THE RIGHTcSUPERIMPOSED XcTWO HORIZONTAL STROKES TO THE RI
GHTcUPPER dHALF BLACKdRIGHT QUADRANT BLACKcVERTICAL FILLaCIRCLED bANTICLOCKWISE ARROWbANTICLOCKWIS
E-ROTATED DIVISION SIGNbASTERISK OPERATORbBOLD XbBULLETbC WITH OVERLAID BACKSLASHbCCbCDbCROSS cFOR
MEEcFORMEE WITH dFOUR DOTSdTWO DOTScPOMMEEbCROSSING LANESbDASHbDIGIT cEIGHTcFIVEcFOURcNINEcONEcSEV
ENcSIXcTHREEcTWOcZERObDIVISION cSIGNcSLASHbDOLLAR SIGN WITH OVERLAID BACKSLASHbDOT OPERATORbEQUALS
bGREATER-THANbHANGUL cCHIEUCHcCHIEUCH AcCIEUCcCIEUC AcHIEUHcHIEUH AcIEUNGcIEUNG dAdUcKHIEUKHcKHIEU
KH AcKIYEOKcKIYEOK AcMIEUMcMIEUM AcNIEUNcNIEUN AcPHIEUPHcPHIEUPH AcPIEUPcPIEUP AcRIEULcRIEUL AcSIO
ScSIOS AcTHIEUTHcTHIEUTH AcTIKEUTcTIKEUT AbHEAVY WHITE RIGHTWARDS ARROWbHORIZONTAL BAR WITH NOTCHb
HUMAN FIGUREbIDEOGRAPH cACCEPTcADVANTAGEcALLIANCEcATTENTIONcCENTREcCONGRATULATIONcCOPYcCORRECTcEAR
THcEIGHTcENTERPRISEcEXCELLENTcFEMALEcFINANCIALcFIREcFIVEcFOURcHAVEcHIGHcITEMcKINDERGARTENcKOTOcLAB
ORcLEFTcLOWcMALEcMEDICINEcMETALcMOONcNAMEcNIGHTcNINEcONEcPRINTcQUESTIONcRELIGIONcRESOURCEcRESTcRIG
HTcSCHOOLcSECRETcSEVENcSIXcSOCIETYcSPECIALcSTOCKcSTUDYcSUITABLEcSUNcSUPERVISEcTENcTHREEcTWOcWATERc
WOODbINFORMATION SOURCEbITALIC LATIN CAPITAL LETTER cCcRbKATAKANA cAcEcHAcHEcHIcHOcHUcIcKAcKEcKIcK
OcKUcMAcMEcMIcMOcMUcNAcNEcNIcNOcNUcOcRAcREcRIcROcRUcSAcSEcSIcSOcSUcTAcTEcTIcTOcTUcUcWAcWEcWIcWOcYA
cYOcYUbKOREAN CHARACTER cCHAMKOcJUEUIbLATIN cCAPITAL LETTER dAdBdCdDdEdFdGdHdIdJdKdLdMdNdOdPdQdRdS
dTdUdVdWdXdYdZcSMALL LETTER dAdBdCdDdEdFdGdHdIdJdKdLdMdNdOdPdQdRdSdTdUdVdWdXdYdZbLESS-THANbMINUSbM
ULTIPLICATION SIGN WITH CIRCUMFLEX ACCENTbNUMBER cEIGHTEENcEIGHTY ON BLACK SQUAREcELEVENcFIFTEENcF
IFTYcFIFTY ON BLACK SQUAREcFORTYcFORTY dEIGHTdFIVEdFOURdNINEdON BLACK SQUAREdONEdSEVENdSIXdTHREEdT
WOcFOURTEENcNINETEENcSEVENTEENcSEVENTY ON BLACK SQUAREcSIXTEENcSIXTY ON BLACK SQUAREcTENcTEN ON BL
ACK SQUAREcTHIRTEENcTHIRTYcTHIRTY dEIGHTdFIVEdFOURdNINEdON BLACK SQUAREdONEdSEVENdSIXdTHREEdTWOcTW
ELVEcTWENTYcTWENTY dEIGHTdFIVEdFOURdNINEdON BLACK SQUAREdONEdSEVENdSIXdTHREEdTWObOPEN CENTRE EIGH
T POINTED STARbPARALLELbPERPENDICULARbPLUSbPOSTAL MARKbREVERSE SOLIDUSbRING OPERATORbSQUAREbTIMESb
TRIANGLEbTRIANGLE DOWNbVERTICAL BARbWHITE cBULLETcSTARbWZbXbZERO WITH SLASHaCIRCULATION FUNCTIONaC
IRCUMFLEX ACCENTaCIRCUS TENTaCITYSCAPEaCITYSCAPE AT DUSKaCJK bCOMPATIBILITY IDEOGRAPH-c2F800c2F801
c2F802c2F803c2F804c2F805c2F806c2F807c2F808c2F809c2F80Ac2F80Bc2F80Cc2F80Dc2F80Ec2F80Fc2F810c2F811c2
F812c2F813c2F814c2F815c2F816c2F817c2F818c2F819c2F81Ac2F81Bc2F81Cc2F81Dc2F81Ec2F81Fc2F820c2F821c2F8
22c2F823c2F824c2F825c2F826c2F827c2F828c2F829c2F82Ac2F82Bc2F82Cc2F82Dc2F82Ec2F82Fc2F830c2F831c2F832
c2F833c2F834c2F835c2F836c2F837c2F838c2F839c2F83Ac2F83Bc2F83Cc2F83Dc2F83Ec2F83Fc2F840c2F841c2F842c2
F843c2F844c2F845c2F846c2F847c2F848c2F849c2F84Ac2F84Bc2F84Cc2F84Dc2F84Ec2F84Fc2F850c2F851c2F852c2F8
53c2F854c2F855c2F856c2F857c2F858c2F859c2F85Ac2F85Bc2F85Cc2F85Dc2F85Ec2F85Fc2F860c2F861c2F862c2F863
c2F864c2F865c2F866c2F867c2F868c2F869c2F86Ac2F86Bc2F86Cc2F86Dc2F86Ec2F86Fc2F870c2F871c2F872c2F873c2
F874c2F875c2F876c2F877c2F878c2F879c2F87Ac2F87Bc2F87Cc2F87Dc2F87Ec2F87Fc2F880c2F881c2F882c2F883c2F8
84c2F885c2F886c2F887c2F888c2F889c2F88Ac2F88Bc2F88Cc2F88Dc2F88Ec2F88Fc2F890c2F891c2F892c2F893c2F894
c2F895c2F896c2F897c2F898c2F899c2F89Ac2F89Bc2F89Cc2F89Dc2F89Ec2F89Fc2F8A0c2F8A1c2F8A2c2F8A3c2F8A4c2
F8A5c2F8A6c2F8A7c2F8A8c2F8A9c2F8AAc2F8ABc2F8ACc2F8ADc2F8AEc2F8AFc2F8B0c2F8B1c2F8B2c2F8B3c2F8B4c2F8
B5c2F8B6c2F8B7c2F8B8c2F8B9c2F8BAc2F8BBc2F8BCc2F8BDc2F8BEc2F8BFc2F8C0c2F8C1c2F8C2c2F8C3c2F8C4c2F8C5
c2F8C6c2F8C7c2F8C8c2F8C9c2F8CAc2F8CBc2F8CCc2F8CDc2F8CEc2F8CFc2F8D0c2F8D1c2F8D2c2F8D3c2F8D4c2F8D5c2
F8D6c2F8D7c2F8D8c2F8D9c2F8DAc2F8DBc2F8DCc2F8DDc2F8DEc2F8DFc2F8E0c2F8E1c2F8E2c2F8E3c2F8E4c2F8E5c2F8
E6c2F8E7c2F8E8c2F8E9c2F8EAc2F8EBc2F8ECc2F8EDc2F8EEc2F8EFc2F8F0c2F8F1c2F8F2c2F8F3c2F8F4c2F8F5c2F8F6
c2F8F7c2F8F8c2F8F9c2F8FAc2F8FBc2F8FCc2F8FDc2F8FEc2F8FFc2F900c2F901c2F902c2F903c2F904c2F905c2F906c2
F907c2F908c2F909c2F90Ac2F90Bc2F90Cc2F90Dc2F90Ec2F90Fc2F910c2F911c2F912c2F913c2F914c2F915c2F916c2F9
17c2F918c2F919c2F91Ac2F91Bc2F91Cc2F91Dc2F91Ec2F91Fc2F920c2F921c2F922c2F923c2F924c2F925c2F926c2F927
c2F928c2F929c2F92Ac2F92Bc2F92Cc2F92Dc2F92Ec2F92Fc2F930c2F931c2F932c2F933c2F934c2F935c2F936c2F937c2
F938c2F939c2F93Ac2F93Bc2F93Cc2F93Dc2F93Ec2F93Fc2F940c2F941c2F942c2F943c2F944c2F945c2F946c2F947c2F9
48c2F949c2F94Ac2F94Bc2F94Cc2F94Dc2F94Ec2F94Fc2F950c2F951c2F952c2F953c2F954c2F955c2F956c2F957c2F958
c2F959c2F95Ac2F95Bc2F95Cc2F95Dc2F95Ec2F95Fc2F960c2F961c2F962c2F963c2F964c2F965c2F966c2F967c2F968c2
F969c2F96Ac2F96Bc2F96Cc2F96Dc2F96Ec2F96Fc2F970c2F971c2F972c2F973c2F974c2F975c2F976c2F977c2F978c2F9
79c2F97Ac2F97Bc2F97Cc2F97Dc2F97Ec2F97Fc2F980c2F981c2F982c2F983c2F984c2F985c2F986c2F987c2F988c2F989
c2F98Ac2F98Bc2F98Cc2F98Dc2F98Ec2F98Fc2F990c2F991c2F992c2F993c2F994c2F995c2F996c2F997c2F998c2F999c2
F99Ac2F99Bc2F99Cc2F99Dc2F99Ec2F99Fc2F9A0c2F9A1c2F9A2c2F9A3c2F9A4c2F9A5c2F9A6c2F9A7c2F9A8c2F9A9c2F9
AAc2F9ABc2F9ACc2F9ADc2F9AEc2F9AFc2F9B0c2F9B1c2F9B2c2F9B3c2F9B4c2F9B5c2F9B6c2F9B7c2F9B8c2F9B9c2F9BA
c2F9BBc2F9BCc2F9BDc2F9BEc2F9BFc2F9C0c2F9C1c2F9C2c2F9C3c2F9C4c2F9C5c2F9C6c2F9C7c2F9C8c2F9C9c2F9CAc2
F9CBc2F9CCc2F9CDc2F9CEc2F9CFc2F9D0c2F9D1c2F9D2c2F9D3c2F9D4c2F9D5c2F9D6c2F9D7c2F9D8c2F9D9c2F9DAc2F9
DBc2F9DCc2F9DDc2F9DEc2F9DFc2F9E0c2F9E1c2F9E2c2F9E3c2F9E4c2F9E5c2F9E6c2F9E7c2F9E8c2F9E9c2F9EAc2F9EB
c2F9ECc2F9EDc2F9EEc2F9EFc2F9F0c2F9F1c2F9F2c2F9F3c2F9F4c2F9F5c2F9F6c2F9F7c2F9F8c2F9F9c2F9FAc2F9FBc2
F9FCc2F9FDc2F9FEc2F9FFc2FA00c2FA01c2FA02c2FA03c2FA04c2FA05c2FA06c2FA07c2FA08c2FA09c2FA0Ac2FA0Bc2FA
0Cc2FA0Dc2FA0Ec2FA0Fc2FA10c2FA11c2FA12c2FA13c2FA14c2FA15c2FA16c2FA17c2FA18c2FA19c2FA1Ac2FA1Bc2FA1C
c2FA1DcF900cF901cF902cF903cF904cF905cF906cF907cF908cF909cF90AcF90BcF90CcF90DcF90EcF90FcF910cF911cF
912cF913cF914cF915cF916cF917cF918cF919cF91AcF91BcF91CcF91DcF91EcF91FcF920cF921cF922cF923cF924cF925
cF926cF927cF928cF929cF92AcF92BcF92CcF92DcF92EcF92FcF930cF931cF932cF933cF934cF935cF936cF937cF938cF9
39cF93AcF93BcF93CcF93DcF93EcF93FcF940cF941cF942cF943cF944cF945cF946cF947cF948cF949cF94AcF94BcF94Cc
F94DcF94EcF94FcF950cF951cF952cF953cF954cF955cF956cF957cF958cF959cF95AcF95BcF95CcF95DcF95EcF95FcF96
0cF961cF962cF963cF964cF965cF966cF967cF968cF969cF96AcF96BcF96CcF96DcF96EcF96FcF970cF971cF972cF973cF
974cF975cF976cF977cF978cF979cF97AcF97BcF97CcF97DcF97EcF97FcF980cF981cF982cF983cF984cF985cF986cF987
cF988cF989cF98AcF98BcF98CcF98DcF98EcF98FcF990cF991cF992cF993cF994cF995cF996cF997cF998cF999cF99AcF9
9BcF99CcF99DcF99EcF99FcF9A0cF9A1cF9A2cF9A3cF9A4cF9A5cF9A6cF9A7cF9A8cF9A9cF9AAcF9ABcF9ACcF9ADcF9AEc
F9AFcF9B0cF9B1cF9B2cF9B3cF9B4cF9B5cF9B6cF9B7cF9B8cF9B9cF9BAcF9BBcF9BCcF9BDcF9BEcF9BFcF9C0cF9C1cF9C
2cF9C3cF9C4cF9C5cF9C6cF9C7cF9C8cF9C9cF9CAcF9CBcF9CCcF9CDcF9CEcF9CFcF9D0cF9D1cF9D2cF9D3cF9D4cF9D5cF
9D6cF9D7cF9D8cF9D9cF9DAcF9DBcF9DCcF9DDcF9DEcF9DFcF9E0cF9E1cF9E2cF9E3cF9E4cF9E5cF9E6cF9E7cF9E8cF9E9
cF9EAcF9EBcF9ECcF9EDcF9EEcF9EFcF9F0cF9F1cF9F2cF9F3cF9F4cF9F5cF9F6cF9F7cF9F8cF9F9cF9FAcF9FBcF9FCcF9
FDcF9FEcF9FFcFA00cFA01cFA02cFA03cFA04cFA05cFA06cFA07cFA08cFA09cFA0AcFA0BcFA0CcFA0DcFA0EcFA0FcFA10c
FA11cFA12cFA13cFA14cFA15cFA16cFA17cFA18cFA19cFA1AcFA1BcFA1CcFA1DcFA1EcFA1FcFA20cFA21cFA22cFA23cFA2
4cFA25cFA26cFA27cFA28cFA29cFA2AcFA2BcFA2CcFA2DcFA2EcFA2FcFA30cFA31cFA32cFA33cFA34cFA35cFA36cFA37cF
A38cFA39cFA3AcFA3BcFA3CcFA3DcFA3EcFA3FcFA40cFA41cFA42cFA43cFA44cFA45cFA46cFA47cFA48cFA49cFA4AcFA4B
cFA4CcFA4DcFA4EcFA4FcFA50cFA51cFA52cFA53cFA54cFA55cFA56cFA57cFA58cFA59cFA5AcFA5BcFA5CcFA5DcFA5EcFA
5FcFA60cFA61cFA62cFA63cFA64cFA65cFA66cFA67cFA68cFA69cFA6AcFA6BcFA6CcFA6DcFA70cFA71cFA72cFA73cFA74c
FA75cFA76cFA77cFA78cFA79cFA7AcFA7BcFA7CcFA7DcFA7EcFA7FcFA80cFA81cFA82cFA83cFA84cFA85cFA86cFA87cFA8
8cFA89cFA8AcFA8BcFA8CcFA8DcFA8EcFA8FcFA90cFA91cFA92cFA93cFA94cFA95cFA96cFA97cFA98cFA99cFA9AcFA9BcF
A9CcFA9DcFA9EcFA9FcFAA0cFAA1cFAA2cFAA3cFAA4cFAA5cFAA6cFAA7cFAA8cFAA9cFAAAcFAABcFAACcFAADcFAAEcFAAF
cFAB0cFAB1cFAB2cFAB3cFAB4cFAB5cFAB6cFAB7cFAB8cFAB9cFABAcFABBcFABCcFABDcFABEcFABFcFAC0cFAC1cFAC2cFA
C3cFAC4cFAC5cFAC6cFAC7cFAC8cFAC9cFACAcFACBcFACCcFACDcFACEcFACFcFAD0cFAD1cFAD2cFAD3cFAD4cFAD5cFAD6c
FAD7cFAD8cFAD9bRADICAL cBAMBOOcBLUEcBOLT OF CLOTHcBONEcBOXcBRUSH dONEdTWOcC-SIMPLIFIED dBIRDdCARTd
DRAGONdEATdEVENdFISHdFLYdFROGdGATEdGOLDdHORSEdLEAFdLONGdSALTdSEEdSHELLdSILKdSPEECHdTANNED LEATHERd
TOOTHdTURTLEdWINDcCHOKEcCITYcCIVILIANcCLIFFcCLOTHEScCOWcDEATHcDIVINATIONcDOGcEAT dONEdTHREEdTWOcEW
EcEYEcFIREcFOOTcGHOSTcGRASS dONEdTHREEdTWOcHANDcHEADcHEART dONEdTWOcHORNcJ-SIMPLIFIED dDRAGONdEVEN
dTOOTHdTURTLEcJADEcKNIFE dONEdTWOcLAME dFOURdONEdTHREEdTWOcLONG dONEdTWOcMEATcMESHcMOONcMORTARcMOT
HERcMOUND dONEdTWOcNET dFOURdONEdTHREEdTWOcOLDcPAW dONEdTWOcPERSONcRAINcRAMcRAPcREPEATcSEALcSECON
D dONEdTHREEdTWOcSHEEPcSILKcSIMPLIFIED dHALF TREE TRUNKdHORNdWALKdWHEATdYELLOWcSMALL dONEdTWOcSNAK
EcSNOUT dONEdTWOcSPIRIT dONEdTWOcSUNcTABLEcTHREADcTIGERcTURTLEcWALK dONEdTWOcWATER dONEdTWOcWEST d
ONEdTWObSTROKE cBXGcDcHcHGcHPcHPWGcHXWGcHZcHZGcHZTcHZWcHZWGcHZZcHZZPcHZZZcHZZZGcNcPcPDcPGcPZcQcScS
GcSPcSTcSWcSWGcSWZcSZcSZWGcSZZcTcTNcWGcXGaCLAMSHELL MOBILE PHONEaCLAPPER BOARDaCLAPPING HANDS SIGN
aCLASSICAL BUILDINGaCLEAR SCREEN SYMBOLaCLINKING bBEER MUGSbGLASSESaCLIPBOARDaCLOCK FACE bEIGHT OC
LOCKbEIGHT-THIRTYbELEVEN OCLOCKbELEVEN-THIRTYbFIVE OCLOCKbFIVE-THIRTYbFOUR OCLOCKbFOUR-THIRTYbNIN
E OCLOCKbNINE-THIRTYbONE OCLOCKbONE-THIRTYbSEVEN OCLOCKbSEVEN-THIRTYbSIX OCLOCKbSIX-THIRTYbTEN OCL
OCKbTEN-THIRTYbTHREE OCLOCKbTHREE-THIRTYbTWELVE OCLOCKbTWELVE-THIRTYbTWO OCLOCKbTWO-THIRTYaCLOCKWI
SE bCLOSED CIRCLE ARROWbCONTOUR INTEGRALbDOWNWARDS AND UPWARDS OPEN CIRCLE ARROWSbGAPPED CIRCLE AR
ROWbINTEGRALbOPEN CIRCLE ARROWbRIGHT AND LEFT SEMICIRCLE ARROWSbRIGHTWARDS AND LEFTWARDS OPEN CIRC
LE cARROWScARROWS WITH CIRCLED ONE OVERLAYbTOP SEMICIRCLE ARROWbTRIANGLE-HEADED OPEN CIRCLE ARROWa
CLOSE UPaCLOSED bBOOKbINTERSECTION WITH SERIFSbLOCK WITH KEYbMAILBOX WITH cLOWERED FLAGcRAISED FLA
GbSUBSETbSUBSET OR EQUAL TObSUPERSETbSUPERSET OR EQUAL TObUMBRELLAbUNION WITH cSERIFScSERIFS AND S
MASH PRODUCTaCLOUDaCLOUD WITH bLIGHTNINGbRAINbSNOWbTORNADOaCLOWN FACEaCOATaCOCKROACHaCOCKTAIL GLAS
SaCOCONUTaCOFFINaCOINaCOLLISION SYMBOLaCOLONaCOLON bEQUALSbSIGNaCOMBINING bACUTE cACCENTcACCENT BE
LOWcTONE MARKbACUTE-cGRAVE-ACUTEcMACRONbALMOST EQUAL TO cABOVEcBELOWbANNUITY SYMBOLbANTICLOCKWIS
E cARROW ABOVEcRING OVERLAYbASTERISK cABOVEcBELOWbBINDU BELOWbBREVEbBREVE BELOWbBREVE-MACRONbBRIDG
E cABOVEcBELOWbCANDRABINDUbCARONbCARON BELOWbCEDILLAbCIRCUMFLEX cACCENTcACCENT BELOWbCLOCKWISE cAR
ROW ABOVEcRING OVERLAYbCOMMA cABOVEcABOVE RIGHTcBELOWbCONJOINING cMACRONcMACRON BELOWbCYRILLIC cDA
SIA PNEUMATAcHUNDRED dMILLIONS SIGNdTHOUSANDS SIGNcKAVYKAcLETTER dAdBEdBIG YUSdCHEdDEdDJERVdEFdELd
EMdENdERdESdES-TEdFITAdGHEdHAdHARD SIGNdIdIEdIOTIFIED eAeBIG YUSeEdKAdLITTLE YUSdMONOGRAPH UKdOdOM
EGAdPEdSHAdSHCHAdSOFT SIGNdTEdTSEdUdUKRAINIAN IEdVEdYATdYERUdYIdYUdZEdZHEcMILLIONS SIGNcPALATALIZA
TIONcPAYEROKcPOKRYTIEcPSILI PNEUMATAcTEN MILLIONS SIGNcTHOUSAND MILLIONS SIGNcTITLOcTITLO dLEFT HA
LFdRIGHT HALFcVZMETbDELETION MARKbDEVANAGARI cDIGIT dEIGHTdFIVEdFOURdNINEdONEdSEVENdSIXdTHREEdTWOd
ZEROcLETTER dAdKAdNAdPAdRAdUdVIcSIGN AVAGRAHAbDIAERESISbDIAERESIS BELOWbDIAERESIS-RINGbDOT cABOVEc
ABOVE dLEFTdRIGHTcBELOWcBELOW LEFTbDOTTED cACUTE ACCENTcGRAVE ACCENTbDOUBLE cACUTE ACCENTcBREVEcBR
EVE BELOWcCIRCUMFLEX ABOVEcGRAVE ACCENTcINVERTED dBREVEdBREVE BELOWcLOW LINEcMACRONcMACRON BELOWcO
PEN MARK BELOWcOVERLINEcPARENTHESES ABOVEcPLUS SIGN dABOVEdBELOWcRIGHTWARDS ARROW BELOWcRING BELOW
cTILDEcTILDE dLEFT HALFdRIGHT HALFcVERTICAL dLINE eABOVEeBELOWdSTROKE OVERLAYbDOUBLED CIRCUMFLEX A
CCENTbDOWN TACK BELOWbDOWNWARDS ARROWbENCLOSING cCIRCLEcCIRCLE BACKSLASHcDIAMONDcKEYCAPcSCREENcSQU
AREcUPWARD POINTING TRIANGLEbEQUALS SIGN BELOWbFERMATAbFOUR DOTS ABOVEbGLAGOLITIC LETTER cAZUcBI
G YUScBUKYcCHRIVIcDJERVIcDOBROcFITAcFRITUcGLAGOLIcHERUcIcINITIAL IZHEcIOTATED dBIG YUSdSMALL YUScI
ZHEcKAKOcLJUDIJEcMYSLITEcNASHIcONUcPOKOJIcRITSIcSHAcSHTAcSLOVOcSMALL YUScTSIcTVRIDOcUKUcVEDEcYATIc
YERIcYERUcYESTUcYOcYUcZEMLJAcZHIVETEbGRANTHA cDIGIT dFIVEdFOURdONEdSIXdTHREEdTWOdZEROcLETTER dAdKA
dNAdPAdVIbGRAPHEME JOINERbGRAVE cACCENTcACCENT BELOWcTONE MARKbGRAVE-cACUTE-GRAVEcMACRONbGREEK cDI
ALYTIKA TONOScKORONIScMUSICAL dPENTASEMEdTETRASEMEdTRISEMEcPERISPOMENIcYPOGEGRAMMENIbHOMOTHETIC AB
OVEbHOOK ABOVEbHORNbINFINITYbINVERTED cBREVEcBREVE BELOWcBRIDGE BELOWcDOUBLE ARCH dABOVEdBELOWbI
S BELOWbKATAKANA-HIRAGANA cSEMI-VOICED SOUND MARKcVOICED SOUND MARKbKAVYKA ABOVE cLEFTcRIGHTbLATI
N cLETTER SMALL CAPITAL dGdLdMdNdRcSMALL LETTER dAdA WITH DIAERESISdAEdALPHAdAOdAVdBdBETAdCdC CEDI
LLAdDdEdESHdETHdFdFLATTENED OPEN A ABOVEdGdHdIdINSULAR eDeGeReTdKdLdL WITH DOUBLE MIDDLE TILDEdLON
G SdMdNdOdO WITH eDIAERESISeLIGHT CENTRALIZATION STROKEdPdRdR eBELOWeROTUNDAdSdSCHWAdTdTURNED W BE
LOWdUdU WITH eDIAERESISeLIGHT CENTRALIZATION STROKEdVdWdW BELOWdXdZbLEFT cANGLE dABOVEdBELOWcARRO
W dABOVEdBELOWcARROWHEAD dABOVEdBELOWcHALF RING dABOVEdBELOWcHARPOON ABOVEcPARENTHESIS dABOVE LEFT
dBELOW LEFTcRIGHT ARROW dABOVEdBELOWcTACK BELOWbLEFTWARDS cARROW OVERLAYcHARPOON WITH BARB DOWNWAR
DSbLIGATURE cLEFT dHALFdHALF BELOWcRIGHT dHALFdHALF BELOWbLIGHT CENTRALIZATION STROKE BELOWbLONG c
DOUBLE SOLIDUS OVERLAYcSOLIDUS OVERLAYcSTROKE OVERLAYcVERTICAL LINE OVERLAYbLOW LINEbMACRONbMACRO
N cBELOWcLEFT dHALFdHALF BELOWcRIGHT dHALFdHALF BELOWbMACRON-cACUTEcBREVEcGRAVEbMINUS SIGN BELOWbN
OT TILDE ABOVEbNUMBER SIGN ABOVEbOGONEKbOGONEK ABOVEbOLD PERMIC LETTER cANcDOIcNENOEcSIIcZATAbOPE
N MARK BELOWbOVERLINEbPALATALIZED HOOK BELOWbPARENTHESES cABOVEcBELOWcOVERLAYbPLUS SIGN cABOVEcBEL
OWbRETROFLEX HOOK BELOWbREVERSE SOLIDUS OVERLAYbREVERSED COMMA ABOVEbRIGHT cARROW dABOVEdBELOWcARR
OWHEAD dABOVEdAND eDOWN ARROWHEAD BELOWeUP ARROWHEAD BELOWdBELOWcHALF RING dABOVEdBELOWcHARPOON AB
OVEcPARENTHESIS dABOVE RIGHTdBELOW RIGHTcTACK BELOWbRIGHTWARDS HARPOON WITH BARB DOWNWARDSbRING cA
BOVEcBELOWcOVERLAYbSEAGULL BELOWbSHORT cSOLIDUS OVERLAYcSTROKE OVERLAYcVERTICAL LINE OVERLAYbSNAK
E BELOWbSQUARE cBELOWcBRACKETS ABOVEbSTRONG CENTRALIZATION STROKE BELOWbSUSPENSION MARKbTHREE DOT
S ABOVEbTILDEbTILDE cBELOWcLEFT HALF BELOWcOVERLAYcRIGHT HALF BELOWbTRIPLE cACUTE ACCENTcDOTcUNDER
DOTbTURNED COMMA ABOVEbUP TACK cABOVEcBELOWbUPWARDS ARROW BELOWbUR ABOVEbUS ABOVEbVERTICAL cLINE d
ABOVEdBELOWcTILDEbWIDE cBRIDGE ABOVEcINVERTED BRIDGE BELOWbWIGGLY LINE BELOWbX cABOVEcBELOWbX-X BE
LOWbZIGZAG cABOVEcBELOWaCOMETaCOMMAaCOMMERCIAL bATbMINUS SIGNaCOMPASSaCOMPLEMENTaCOMPOSITION SYMBO
LaCOMPRESSIONaCONFETTI BALLaCONFOUNDED FACEaCONFUSED FACEaCONGRUENT WITH DOT ABOVEaCONICAL TAPERaC
ONJUNCTIONaCONSTRUCTION bSIGNbWORKERaCONTAINS bAS cMEMBERcNORMAL dSUBGROUPdSUBGROUP OR EQUAL TObWI
TH cLONG HORIZONTAL STROKEcOVERBARcVERTICAL BAR AT END OF HORIZONTAL STROKEaCONTINUOUS UNDERLINE S
YMBOLaCONTOUR INTEGRALaCONTROL bKNOBSbSEQUENCE INTRODUCERaCONVENIENCE STOREaCOOKED RICEaCOOKIEaCOO
KINGaCOPTIC bCAPITAL LETTER cAKHMIMIC KHEIcALFAcBOHAIRIC KHEIcCROSSED SHEIcCRYPTOGRAMMIC dEIEdGANG
IAdNIdSHEIcDALDAcDEIcDIALECT-P dALEFdHORIdKAPAdNIcEIEcFEIcFIcGAMMAcGANGIAcHATEcHORIcIAUDAcKAPAcKHE
IcKHIcKSIcL-SHAPED HAcLAULAcMIcNIcOcOLD dCOPTIC eAINeDJAeESHeGANGIAeHAeHATeHEIeHORIeOOUeSHEIeSHIMA
dNUBIAN eNGIeNYIeSHIMAeWAUcOOUcPIcPSIcROcSAMPIcSHEIcSHIMAcSIMAcSOUcTAUcTHETHEcUAcVIDAcZATAbCOMBINI
NG cNI ABOVEcSPIRITUS dASPERdLENISbEPACT cDIGIT dEIGHTdFIVEdFOURdNINEdONEdSEVENdSIXdTHREEdTWOcNUMB
ER dEIGHT HUNDREDdEIGHTYdFIFTYdFIVE HUNDREDdFORTYdFOUR HUNDREDdNINE HUNDREDdNINETYdONE HUNDREDdSEV
EN HUNDREDdSEVENTYdSIX HUNDREDdSIXTYdTENdTHIRTYdTHREE HUNDREDdTWENTYdTWO HUNDREDcTHOUSANDS MARKbFR
ACTION ONE HALFbFULL STOPbMORPHOLOGICAL DIVIDERbOLD NUBIAN cDIRECT QUESTION MARKcFULL STOPcINDIREC
T QUESTION MARKcVERSE DIVIDERbSMALL LETTER cAKHMIMIC KHEIcALFAcBOHAIRIC KHEIcCROSSED SHEIcCRYPTOGR
AMMIC dEIEdGANGIAdNIdSHEIcDALDAcDEIcDIALECT-P dALEFdHORIdKAPAdNIcEIEcFEIcFIcGAMMAcGANGIAcHATEcHORI
cIAUDAcKAPAcKHEIcKHIcKSIcL-SHAPED HAcLAULAcMIcNIcOcOLD dCOPTIC eAINeDJAeESHeGANGIAeHAeHATeHEIeHORI
eOOUeSHEIeSHIMAdNUBIAN eNGIeNYIeSHIMAeWAUcOOUcPIcPSIcROcSAMPIcSHEIcSHIMAcSIMAcSOUcTAUcTHETHEcUAcVI
DAcZATAbSYMBOL cKAIcKHI ROcMI ROcPI ROcSHIMA SIMAcSTAUROScTAU ROaCOPYLEFT SYMBOLaCOPYRIGHT SIGNaCO
RALaCORNISH VERSE DIVIDERaCORRESPONDS TOaCOUCH AND LAMPaCOUNTERBOREaCOUNTERSINKaCOUNTING ROD bTEN
S DIGIT cEIGHTcFIVEcFOURcNINEcONEcSEVENcSIXcTHREEcTWObUNIT DIGIT cEIGHTcFIVEcFOURcNINEcONEcSEVENcS
IXcTHREEcTWOaCOUPLE WITH HEARTaCOWaCOW FACEaCRaCRABaCREDIT CARDaCRESCENT MOONaCRICKETaCRICKET BA
T AND BALLaCROCODILEaCROISSANTaCROSS bMARKbOF cJERUSALEMcLORRAINEbPATTY WITH cLEFT CROSSBARcRIGH
T CROSSBARbPOMMEEbPOMMEE WITH HALF-CIRCLE BELOWaCROSSED bFLAGSbNEGATIVE SQUARED LATIN CAPITAL LETT
ER PbSWORDSaCROSSING LANESaCROWNaCRUTCHaCRUZEIRO SIGNaCRYING bCAT FACEbFACEaCRYSTAL BALLaCSIaCUB
E ROOTaCUCUMBERaCUNEIFORM bNUMERIC SIGN cEIGHT dASHdDISHdGESH2dSHAR2dUdU VARIANT FORMdVARIANT FOR
M eUSSUeUSSU3cELAMITE dFIFTYdFORTYdONE THIRDdTWO THIRDScFIVE dASHdASH TENUdBAN2dBAN2 VARIANT FORMd
BURUdDISHdGESH2dGESHUdSHAR2dSHARUdSIXTHS DISHdUdU VARIANT FORMcFOUR dASHdASH TENUdBAN2dBAN2 VARIAN
T FORMdBURUdDISHdGESH2dGESHUdSHAR2dSHARUdUdU VARIANT FORMdVARIANT FORM eLIMMUeLIMMU fAfBeLIMMU4cNI
GIDAESHcNIGIDAMINcNINE dASHdDISHdGESH2dSHAR2dUdU VARIANT FORMdVARIANT FORM eILIMMUeILIMMU AeILIMMU
3eILIMMU4cOLD ASSYRIAN ONE dQUARTERdSIXTHcONE dBAN2dBURUdEIGHTH ASHdESHE3dGESH2dGESHUdHALF GURdQUA
RTER eASHeGURdSHARUdTHIRD eDISHeVARIANT FORM AcSEVEN dASHdDISHdGESH2dSHAR2dUdU VARIANT FORMdVARIAN
T FORM eIMIN fAfBeIMIN3cSHAR2 TIMES GAL PLUS dDISHdMINcSIX dASHdASH TENUdDISHdGESH2dSHAR2dUdU VARI
ANT FORMdVARIANT FORM ASH9cTHREE dASHdASH TENUdBAN2dBURUdBURU VARIANT FORMdDISHdGESH2dGESHUdSHAR2d
SHAR2 VARIANT FORMdSHARUdSHARU VARIANT FORMdVARIANT FORM eESH16eESH21cTWO dASHdASH TENUdBAN2dBURUd
ESHE3dGESH2dGESHUdSHAR2dSHARUdTHIRDS eDISHeVARIANT FORM AbPUNCTUATION SIGN cDIAGONAL dCOLONdQUADCO
LONdTRICOLONcOLD ASSYRIAN WORD DIVIDERcVERTICAL COLONbSIGN cAcA TIMES dAdBADdGAN2 TENUdHAdIGIdLAGA
R GUNUdMUSHdSAGcA2cABcAB dGUNUdTIMES eASH2eDUN3 GUNUeGALeGAN2 TENUeHAeIGI GUNUeIMINeLAGABeNUNeNU
N TENUeSHESHeSHU2eU PLUS U PLUS UcAB2cAB2 TIMES dAdBALAGdGAN2 TENUdME PLUS ENdSHA3dTAK4cADcAD TIME
S ESH2cAKcAK TIMES dERIN2dSHITA PLUS GISHcALcAL TIMES dALdDIM2dGISHdHAdKAD3dKIdSHEdUSHcALANcALEPHc
AMARcAMAR TIMES dKUGdSHEcANcAN dOVER ANdPLUS NAGA eOPPOSING AN PLUS NAGAeSQUAREDdTHREE TIMEScANSHE
cAPINcARADcARAD TIMES KURcARKABcASAL2cASHcASH dKABA TENUdOVER ASH eOVER fASHfASH CROSSING ASH OVE
R ASH OVER ASHeTUG2 OVER TUG2 TUG2 OVER TUG2 PAPdZIDA TENUcASH2cASHGABcBAcBADcBAD TIMES DISH TENUc
BAG3cBAHAR2cBAHAR2 TIMES dAB2dNIdZAcBALcBAL OVER BALcBALAGcBARcBARA2cBIcBI TIMES dAdGARdIGI GUNUcB
UcBU dCROSSING BUdOVER BU eABeTIMES NA2eUNcBULUGcBULUG OVER BULUGcBURcBUR2cDAcDA TIMES TAK4cDAGcDA
G dKISIM5 TIMES eA PLUS MASHeAMAReBALAGeBIeGAeGA PLUS MASHeGIeGIR2eGUDeHAeIReIR PLUS LUeKAKeLAeLUe
LU PLUS MASH2eLUMeNEePAP PLUS PAPeSIeTAK4eU2 PLUS fGIR2fMASHeUSHdTIMES KURcDAG3cDAMcDARcDARA3cDARA
4cDIcDIBcDIMcDIM TIMES dIGIdSHEdU U UcDIM2cDIM2 TIMES UDcDINcDIN KASKAL U GUNU DISHcDISHcDISH PLU
S SHUcDUcDU dGUNUdOVER DUdSHESHIGcDUBcDUB TIMES dESH2dSHEcDUB2cDUGcDUG TIMES dANSHEdASHdASH AT LEF
TdDINdDUNdERIN2dGAdGIdGIR2 GUNUdGISHdHAdHIdIGI GUNUdKASKALdKURdKUSHU2dKUSHU2 PLUS KASKALdLAK-020dL
AMdLAM TIMES KURdLUH PLUS GISHdMASHdMESdMIdNIdPIdSHEdSI GUNUcDUGUDcDUHcDUNcDUN3cDUN3 dGUNUdGUNU GU
NUcDUN4cDUR2cEcE dOVER E NUN OVER NUNdTIMES PAPcE2cE2 TIMES dA PLUS HA PLUS DAdGARdKURdMIdPAPdSALd
SHEdUcEDINcEGIRcELcENcEN dCROSSING ENdOPPOSING ENdSQUAREDdTIMES eGAN2eGAN2 TENUeMEcERENcERIN2cERIN
2 XcESH2cESH2 CROSSING ESH2cEZENcEZEN dSHESHIG TIMES eASHeHIeIGI GUNUeLAeLALeMEeMESeSUdTIMES eAe
A PLUS fLALfLAL TIMES LALeANeBADeDUN3 fGUNUfGUNU GUNUeGUDeHAeHA GUNUeIGI GUNUeKASKALeKASKAL SQUARE
DeKU3eLAeLAL TIMES LALeLIeLUeSHEeSUeU2eUDcGAcGA GUNUcGA2cGA2 dOVER GA2dTIMES eA PLUS fDA PLUS HAfH
AfIGIeAB2 TENU PLUS TABeANeAN PLUS KAK PLUS AeASHeASH2eASH2 PLUS GALeBADeBAHAR2eBAR PLUS RAeBUReBU
R PLUS RAeDAeDIeDIM fGUNUfTIMES SHEeDUBeDUG TIMES fIGI GUNUfKASKALeELeEL PLUS LAeENeEN TIMES GAN
2 TENUeERENeGAeGAN2 TENUeGAReGAR PLUS fDIfNEeGIeGI4eGI4 PLUS AeGIR2 PLUS SUeHA PLUS fAfLU PLUS ESH
2eHALeHAL PLUS LAeHI PLUS LIeHUB2eIGI GUNUeISH PLUS HU PLUS ASHeKAKeKASKALeKIDeKID PLUS LALeKU3 PL
US ANeKUSHU2 PLUS KASKALeLAeLAMeLAM TIMES KUReLUHeME PLUS ENeMIeMUSHeNEeNE PLUS fE2fGIeNUNeNUN OVE
R NUNePAeSALeSAReSHEeSHE PLUS TUReSHIDeSHIMeSUMeTAK4eUeUDeUD PLUS DUeZIZ2cGABAcGABA dCROSSING GABA
dROTATED NINETY DEGREEScGADcGAD OVER GAD GAR OVER GARcGALcGAL GAD OVER GAD GAR OVER GARcGALAMcGAMc
GANcGAN2cGAN2 dCROSSING GAN2dOVER GAN2dTENUcGARcGAR3cGASHANcGE22cGESHTINcGESHTIN TIMES dKURdUcGIcG
I dCROSSING GIdTIMES eEeUcGI4cGI4 dCROSSING GI4dOVER GI4cGIDIMcGIGcGIR2cGIR2 GUNUcGIR3cGIR3 TIME
S dA PLUS IGIdGAN2 TENUdIGIdLU PLUS IGIdPAcGISALcGISHcGISH dCROSSING GISHdTENUdTIMES eBADeGISH CRO
SSING GISHeTAK4cGUcGU CROSSING GUcGU2cGU2 dGUNUdTIMES eIGI GUNUeKAKeKAK TIMES IGI GUNUeNUNeSAL PLU
S TUG2cGUDcGUD dOVER GUD LUGALdPLUS GISH TIMES TAK4dTIMES eA PLUS KUReKURcGULcGUMcGUM TIMES SHEcGU
RcGUR7cGURUNcGURUSHcHAcHA dGUNUdTENUdTENU GUNUcHALcHIcHI TIMES dASHdASH OVER HI TIMES ASHdASH2dBAD
dDISHdGADdKINdNUNdSHEdUcHUcHUB2cHUB2 TIMES dANdHALdKASKALdLISHdUDcHUL2cHUSHcIcI AcIBcIDIMcIDIM OVE
R IDIM dBURdSQUAREDcIGcIGIcIGI dDIBdGUNUdOVER IGI SHIR OVER SHIR UD OVER UDdRIcILcIL TIMES GAN2 TE
NUcIL2cIMcIM dCROSSING IMdOPPOSING IMdSQUAREDdTIMES TAK4cIMINcINcIRcISHcKAcKA TIMES dAdADdAD PLU
S KU3dANSHEdASH2dASH3dBADdBALAGdBARdBIdBUdERIN2dESH2dGAdGALdGAN2 TENUdGARdGAR PLUS SHA3 PLUS AdGId
GIR2dGISHdGISH eCROSSING GISHePLUS SARdGUdGUDdGUR7dHI TIMES ASH2dIGIdIMdKAdKAKdKIdKIDdLIdLUdLUMdME
dME PLUS eDUeGIeTEdMIdMI PLUS NUNUZdNEdNUNdPAdPIdRUdSAdSARdSHAdSHEdSHIDdSHUdSHULdSIGdSUHURdTARdTUd
UdU U UdU2dUDdUMUM TIMES PAdURdUR2dUSHdZIcKA2cKA2 CROSSING KA2cKABcKAD2cKAD3cKAD4cKAD5cKAD5 OVER K
AD5cKAKcKAK TIMES IGI GUNUcKALcKAL dCROSSING KALdTIMES BADcKAM2cKAM4cKAP ELAMITEcKASKALcKASKAL dLA
GAB TIMES U OVER LAGAB TIMES UdOVER KASKAL LAGAB TIMES U OVER LAGAB TIMES UcKESH2cKIcKI TIMES dBAD
dUdUDcKIDcKINcKISALcKISHcKISIM5cKISIM5 OVER KISIM5cKUcKU OVER HI TIMES ASH2 KU OVER HI TIMES ASH2c
KU3cKU4cKU4 VARIANT FORMcKU7cKULcKUL GUNUcKUNcKURcKUR OPPOSING KURcKUSHU2cKWU318cLAcLAGABcLAGAB dS
QUAREDdTIMES eAeA PLUS fDA PLUS HAfGARfLALeALeANeASH ZIDA TENUeBADeBIeDAReENeGAeGAReGIeGUDeGUD PLU
S GUDeHAeHALeHI TIMES NUNeIGI GUNUeIMeIM PLUS fHAfLUeKIeKINeKU3eKULeKUL PLUS HI PLUS AeLAGABeLISHe
LUeLULeMEeME PLUS ENeMUSHeNEeSHE PLUS SUMeSHITA PLUS GISH fPLUS ERIN2fTENUeSHU2eSHU2 PLUS SHU2eSUM
eTAGeTAK4eTE PLUS A PLUS SU PLUS NAeUeU PLUS fAfU PLUS UeU2 PLUS ASHeUDeUSHeZU OVER ZUcLAGARcLAGA
R dGUNUdGUNU OVER LAGAR GUNU SHEdTIMES eSHEeSHE PLUS SUMcLAHSHUcLAK-d003d021d025d030d050d051d062d0
79 OVER LAK-079 GUNUd080d081 OVER LAK-081d092d130d142d210d219d220d225d228d238d265d266d343d347d348d
383d384d390d441d449d449 TIMES eGUeIGIePAP PLUS fLU3fPAP PLUS LU3eU2 PLUS BAd450d457d470d483d490d49
2d493d495d550d608d617d617 TIMES eASHeBADeDUN3 GUNU GUNUeKU3eLAeTAReTEeU2eUDeURUDAd636d648d648 TIME
S eDUBeGAeIGIeIGI GUNUeNIePAP PLUS PAP PLUS LU3eSHESH PLUS KIeUDeURUDAd724d749cLALcLAL TIMES LALcL
AMcLAM TIMES dKURdKUR PLUS RUcLIcLILcLIMMU2cLISHcLUcLU TIMES BADcLU2cLU2 dCROSSING LU2dGUNU TIME
S ASHdOPPOSING LU2dSHESHIGdSHESHIG TIMES BADdSQUAREDdTENUdTIMES eALeBADeDISHeESH2eESH2 fPLUS LALfT
ENUeGAN2 TENUeHALeHI TIMES BADeIMeKAD2eKAD3eKAD3 PLUS ASHeKIeLA PLUS ASHeLAGABeME PLUS ENeNEeNUePA
PePAP PLUS PAP PLUS LU3eSHUeSI PLUS ASHeSIK2 PLUS BUeTAK4eTUG2cLU3cLUGALcLUGAL dOPPOSING LUGALdOVE
R LUGALdSHESHIGcLUHcLULcLUMcLUM OVER dLUMdLUM GAR OVER GARcMAcMA dGUNUdTIMES TAK4cMA2cMAHcMARcMASH
cMASH2cMEcMEScMESHcMIcMI PLUS ZA7cMINcMUcMU OVER MUcMUGcMUG GUNUcMUNSUBcMURGU2cMUSHcMUSH dCROSSIN
G MUSHdOVER eMUSHeMUSH TIMES fA PLUS NAfGAfKAKdTIMES eAeKUReZAcMUSH3cMUSH3 dGUNUdTIMES eAeA PLUS D
IeDIeZAcNAcNA2cNA4cNAGAcNAGA dINVERTEDdOPPOSING NAGAdTIMES SHU TENUcNAGARcNAMcNAM NUTILLUcNAM2cNEc
NE dSHESHIGdTIMES eAeUDcNIcNI TIMES EcNI2cNIMcNIM TIMES dGAN2 TENUdGAR PLUS GAN2 TENUcNINcNIN9cNIN
DA2cNINDA2 TIMES dANdASHdASH PLUS ASHdBALdDIM GUNUdGIdGISHdGUDdGULdHIdKESH2dLAK-050dMASHdME PLUS G
AN2 TENUdNEdNUNdPAP PLUS PAPdSHEdSHE PLUS eA ANeASHeASH PLUS ASHdUdU PLUS UdU2 PLUS ASHdURUDAdUSHc
NISAGcNUcNU11cNU11 dOVER NU11 BUR OVER BURdROTATED NINETY DEGREESdTENUcNUNcNUN dCROSSING eNUNeNU
N LAGAR OVER LAGARdLAGAR TIMES eGAReMASHeSALeSAL OVER NUN LAGAR TIMES SALeUSHdOVER NUNdTENUcNUNUZc
NUNUZ dAB2 TIMES eASHGABeBIeDUGeGUDeIGI GUNUeKAD3eLAeNEeSILA3eU2dKISIM5 TIMES eBIeBI UcPAcPADcPANc
PAPcPESH2cPESH2 ASTERISKcPIcPI dCROSSING PIdTIMES eAeABeBIeBUeEeIeIBeUeU2cPIR2cPIRIGcPIRIG dOPPOSI
NG PIRIGdTIMES eKALeUDeZAcRAcRABcRIcRUcSAcSAGcSAG dGUNUdGUNU TIMES HAdNUTILLUdOVER SAGdTIMES eAeDU
eDUBeENeHAeIGI GUNUeKAKeKUReLUMeMIeNUNeSALeSHE AT LEFTeSHIDeTABeTAK4eU2eUBeUMeUReUSHcSALcSAL LAGA
B TIMES ASH2cSANGA2cSARcSHAcSHA3cSHA3 TIMES dAdBADdGISHdNEdSHU2dTURdUdU PLUS AcSHA6cSHA6 TENUcSHAB
6cSHAR2cSHEcSHE dHUdOVER eSHEeSHE fGAD OVER GAD GAR OVER GARfTAB OVER TAB GAR OVER GARdPLUS eHUB2e
NAM2eSARcSHEG9cSHENcSHESHcSHESH2cSHESHLAMcSHIDcSHID TIMES dAdIMcSHIMcSHIM TIMES dAdBALdBULUGdDINdG
ARdIGIdIGI GUNUdKUSHU2dLULdMUGdSALcSHINIGcSHIRcSHIR dOVER SHIR BUR OVER BURdTENUcSHITAcSHUcSHU OVE
R INVERTED SHUcSHU2cSHU2 PLUS dDUG TIMES NIdE2 TIMES ANcSHUBURcSIcSI dGUNUdTIMES TAK4cSIGcSIG4cSIG
4 OVER SIG4 SHU2cSIK2cSILA3cSUcSU OVER SUcSUDcSUD2cSUHURcSUMcSUMASHcSURcSUR9cTAcTA dASTERISKdGUNUd
TIMES eHIeMIcTABcTAB dOVER TAB NI OVER NI DISH OVER DISHdSQUAREDcTAGcTAG TIMES dBIdGUDdSHEdSHUdTUG
2dUDcTAK4cTAK4 PLUS SAGcTARcTEcTE GUNUcTIcTI TENUcTI2cTILcTIRcTIR dOVER eTIReTIR GAD OVER GAD GA
R OVER GARdTIMES TAK4cTUcTUG2cTUKcTUMcTUM TIMES dGAN2 TENUdTHREE DISHcTURcTUR OVER TUR ZA OVER ZAc
UcU dGUDdOVER U ePA OVER PA GAR OVER GAReSUR OVER SUReU REVERSED OVER U REVERSEDdUdU UcU2cUBcUDcU
D dGUNUdKUSHU2dSHESHIGdSHESHIG TIMES BADdTIMES eBADeMIeU PLUS U PLUS fUfU GUNUcUDUGcUMcUM TIMES dL
AGABdMEdME PLUS DAdSHA3dUcUMBINcUMUMcUMUM TIMES dKASKALdPAcUNcUN GUNUcURcUR dCROSSING URdSHESHIGcU
R2cUR2 dINVERTEDdTIMES eA PLUS fHAfNAeALeHAeNUNeU2eU2 PLUS fASHfBIeUDcUR4cURIcURI3cURUcURU TIMES d
AdASHGABdBARdDARA3dDUNdGAdGALdGAN2 TENUdGARdGUdHAdIGIdIMdISHdKIdLAK-668dLU3dLUMdMINdPAdSHEdSIG4dTU
dU PLUS GUDdUDdURUDAcURUDAcURUDA TIMES UcUSHcUSH TIMES dAdKUdKURdTAK4cUSH2cUSHUMXcUSHXcUTUKIcUZ3cU
Z3 TIMES KASKALcUZUcZAcZA dSQUARED TIMES KURdTENUcZA7cZAGcZAMXcZE2cZIcZI OVER ZIcZI3cZIBcZIB KAB
A TENUcZIGcZIZ2cZUcZU OVER ZU PLUS SARcZU5cZU5 TIMES dAdTHREE DISH TENUcZUBURcZUMaCUP bON BLACK SQ
UAREbWITH STRAWaCUPCAKEaCUPIDOaCURLING STONEaCURLY bBRACKET EXTENSIONbLOGICAL cANDcORbLOOPaCURRENC
Y bEXCHANGEbSIGNaCURRY AND RICEaCURVED STEM PARAGRAPH SIGN ORNAMENTaCUSTARDaCUSTOMSaCUT OF MEATaCY
CLONEaCYLINDRICITYaCYPRIOT SYLLABLE bAbEbIbJAbJObKAbKEbKIbKObKUbLAbLEbLIbLObLUbMAbMEbMIbMObMUbNAbN
EbNIbNObNUbObPAbPEbPIbPObPUbRAbREbRIbRObRUbSAbSEbSIbSObSUbTAbTEbTIbTObTUbUbWAbWEbWIbWObXAbXEbZAbZO
aCYPRO-MINOAN SIGN bCM001bCM002bCM004bCM005bCM006bCM007bCM008bCM009bCM010bCM011bCM012bCM012BbCM013
bCM015bCM017bCM019bCM021bCM023bCM024bCM025bCM026bCM027bCM028bCM029bCM030bCM033bCM034bCM035bCM036bC
M037bCM038bCM039bCM040bCM041bCM044bCM046bCM047bCM049bCM050bCM051bCM052bCM053bCM054bCM055bCM056bCM0
58bCM059bCM060bCM061bCM062bCM063bCM064bCM066bCM067bCM068bCM069bCM070bCM071bCM072bCM073bCM074bCM075
bCM075BbCM076bCM078bCM079bCM080bCM081bCM082bCM083bCM084bCM085bCM086bCM087bCM088bCM089bCM090bCM091b
CM092bCM094bCM095bCM096bCM097bCM098bCM099bCM100bCM101bCM102bCM103bCM104bCM105bCM107bCM108bCM109bCM
110bCM112bCM114bCM301bCM302aCYRILLIC bCAPITAL cLETTER dAdA WITH eBREVEeDIAERESISdABKHASIAN eCHEeCH
E WITH DESCENDEReDZEeHAdALEUT KAdBARRED eOeO WITH DIAERESISdBASHKIR KAdBEdBIG YUSdBINOCULAR OdBLEN
DED YUSdBROAD OMEGAdBYELORUSSIAN-UKRAINIAN IdCCHEdCHEdCHE WITH eDESCENDEReDIAERESISeVERTICAL STROK
EdCLOSED LITTLE YUSdCROSSED OdDCHEdDEdDJEdDJERVdDOUBLE eMONOCULAR OeOdDWEdDZEdDZELOdDZHEdDZWEdDZZE
dDZZHEdEdE WITH DIAERESISdEFdELdEL WITH eDESCENDEReHOOKeMIDDLE HOOKeTAILdEMdEM WITH TAILdENdEN WIT
H eDESCENDEReHOOKeLEFT HOOKeMIDDLE HOOKeTAILdERdER WITH TICKdESdES WITH DESCENDERdFITAdGHEdGHE WIT
H eDESCENDEReMIDDLE HOOKeSTROKEeSTROKE AND HOOKeUPTURNdGJEdHAdHA WITH eDESCENDEReHOOKeSTROKEdHAR
D SIGNdHWEdIdI WITH eDIAERESISeGRAVEeMACRONdIEdIE WITH eBREVEeGRAVEdIOdIOTAdIOTIFIED eAeBIG YUSeCL
OSED LITTLE YUSeEeLITTLE YUSeYATdIZHITSAdIZHITSA WITH DOUBLE GRAVE ACCENTdJEdKAdKA WITH eDESCENDER
eHOOKeSTROKEeVERTICAL STROKEdKHAKASSIAN CHEdKJEdKOMI eDEeDJEeDZJEeLJEeNJEeSJEeTJEeZJEdKOPPAdKSIdLH
AdLITTLE YUSdLJEdMONOCULAR OdMONOGRAPH UKdNEUTRAL YERdNJEdOdO WITH DIAERESISdOMEGAdOMEGA WITH TITL
OdOTdPEdPE WITH eDESCENDEReMIDDLE HOOKdPSIdQAdREVERSED eDZEeTSEeYUeZEdRHAdROUND OMEGAdSCHWAdSCHW
A WITH DIAERESISdSEMISOFT SIGNdSHAdSHCHAdSHHAdSHHA WITH DESCENDERdSHORT eIeI WITH TAILeUdSHWEdSOF
T eDEeELeEMeSIGNdSTRAIGHT eUeU WITH STROKEdTCHEdTEdTE WITH eDESCENDEReMIDDLE HOOKdTSEdTSHEdTSSEdTS
WEdTWEdUdU WITH eDIAERESISeDOUBLE ACUTEeMACRONdUKdUKRAINIAN IEdVEdWEdYAdYAEdYATdYERUdYERU WITH eBA
CK YEReDIAERESISdYIdYNdYUdZEdZE WITH eDESCENDEReDIAERESISdZEMLYAdZHEdZHE WITH eBREVEeDESCENDEReDIA
ERESISdZHWEcLIGATURE dA IEdEN GHEdTE TSEbKAVYKAbLETTER cMULTIOCULAR OcPALOCHKAcSMALL CAPITAL ELbPA
YEROKbSMALL cLETTER dAdA WITH eBREVEeDIAERESISdABKHASIAN eCHEeCHE WITH DESCENDEReDZEeHAdALEUT KAdB
ARRED eOeO WITH DIAERESISdBASHKIR KAdBEdBIG YUSdBINOCULAR OdBLENDED YUSdBROAD OMEGAdBYELORUSSIAN-U
KRAINIAN IdCCHEdCHEdCHE WITH eDESCENDEReDIAERESISeVERTICAL STROKEdCLOSED LITTLE YUSdCROSSED OdDCHE
dDEdDJEdDJERVdDOUBLE eMONOCULAR OeOdDWEdDZEdDZELOdDZHEdDZWEdDZZEdDZZHEdEdE WITH DIAERESISdEFdELdE
L WITH eDESCENDEReHOOKeMIDDLE HOOKeTAILdEMdEM WITH TAILdENdEN WITH eDESCENDEReHOOKeLEFT HOOKeMIDDL
E HOOKeTAILdERdER WITH TICKdESdES WITH DESCENDERdFITAdGHEdGHE WITH eDESCENDEReMIDDLE HOOKeSTROKEeS
TROKE AND HOOKeUPTURNdGJEdHAdHA WITH eDESCENDEReHOOKeSTROKEdHARD SIGNdHWEdIdI WITH eDIAERESISeGRAV
EeMACRONdIEdIE WITH eBREVEeGRAVEdIOdIOTAdIOTIFIED eAeBIG YUSeCLOSED LITTLE YUSeEeLITTLE YUSeYATdIZ
HITSAdIZHITSA WITH DOUBLE GRAVE ACCENTdJEdKAdKA WITH eDESCENDEReHOOKeSTROKEeVERTICAL STROKEdKHAKAS
SIAN CHEdKJEdKOMI eDEeDJEeDZJEeLJEeNJEeSJEeTJEeZJEdKOPPAdKSIdLHAdLITTLE YUSdLJEdLONG-LEGGED DEdMON
OCULAR OdMONOGRAPH UKdNARROW OdNEUTRAL YERdNJEdOdO WITH DIAERESISdOMEGAdOMEGA WITH TITLOdOTdPALOCH
KAdPEdPE WITH eDESCENDEReMIDDLE HOOKdPSIdQAdREVERSED eDZEeTSEeYUeZEdRHAdROUND OMEGAdROUNDED VEdSCH
WAdSCHWA WITH DIAERESISdSEMISOFT SIGNdSHAdSHCHAdSHHAdSHHA WITH DESCENDERdSHORT eIeI WITH TAILeUdSH
WEdSOFT eDEeELeEMeSIGNdSTRAIGHT eUeU WITH STROKEdTALL eHARD SIGNeTEeYATdTCHEdTEdTE WITH eDESCENDER
eMIDDLE HOOKdTHREE-LEGGED TEdTSEdTSHEdTSSEdTSWEdTWEdUdU WITH eDIAERESISeDOUBLE ACUTEeMACRONdUKdUKR
AINIAN IEdUNBLENDED UKdVEdWEdWIDE ESdYAdYAEdYATdYERUdYERU WITH eBACK YEReDIAERESISdYIdYNdYUdZEdZ
E WITH eDESCENDEReDIAERESISdZEMLYAdZHEdZHE WITH eBREVEeDESCENDEReDIAERESISdZHWEcLIGATURE dA IEdE
N GHEdTE TSEbTHOUSANDS SIGNaDAGGERaDAGGER bKNIFEbWITH cLEFT GUARDcRIGHT GUARDaDALET SYMBOLaDANCERa
DANGOaDARK bSHADEbSUNGLASSESaDASH bSYMBOLbWITH LEFT UPTURNaDASHED bLOW LINEbOVERLINEbTRIANGLE-HEAD
ED RIGHTWARDS ARROWaDATA LINK ESCAPEaDC1aDC2aDC3aDC4aDCSaDEAF PERSONaDECIDUOUS TREEaDECIMAL bEXPON
ENT SYMBOLbSEPARATOR KEY SYMBOLaDECREASE FONT SIZE SYMBOLaDEERaDEGREE bCELSIUSbFAHRENHEITbSIGNaDEL
aDELETEaDELIVERY TRUCKaDELTA EQUAL TOaDENTISTRY SYMBOL LIGHT bDOWN AND cHORIZONTALcHORIZONTAL WIT
H dCIRCLEdTRIANGLEdWAVEbUP AND cHORIZONTALcHORIZONTAL WITH dCIRCLEdTRIANGLEdWAVEbVERTICAL cAND dBO
TTOM eLEFTeRIGHTdTOP eLEFTeRIGHTdWAVEcWITH dCIRCLEdTRIANGLEaDEPARTMENT STOREaDERELICT HOUSE BUILDI
NGaDESCENDING NODEaDESERET bCAPITAL LETTER cAYcBEEcCHEEcDEEcEFcELcEMcENcENGcERcEScESHcETHcEWcGAYcH
cJEEcKAYcLONG dAdAHdEdIdOdOOcOIcOWcPEEcSHORT dAdAHdEdIdOdOOcTEEcTHEEcVEEcWUcYEEcZEEcZHEEbSMALL LET
TER cAYcBEEcCHEEcDEEcEFcELcEMcENcENGcERcEScESHcETHcEWcGAYcHcJEEcKAYcLONG dAdAHdEdIdOdOOcOIcOWcPEEc
SHORT dAdAHdEdIdOdOOcTEEcTHEEcVEEcWUcYEEcZEEcZHEEaDESERTaDESERT ISLANDaDESKTOP bCOMPUTERbWINDOWaDE
VANAGARI bABBREVIATION SIGNbACUTE ACCENTbCARETbDANDAbDIGIT cEIGHTcFIVEcFOURcNINEcONEcSEVENcSIXcTHR
EEcTWOcZERObDOUBLE DANDAbGAP FILLERbGRAVE ACCENTbHEADSTROKEbJAIN OMbLETTER cAcAAcAIcAUcAWcAYcBAcBB
AcBHAcCAcCANDRA dAdEdOcCHAcDAcDDAcDDDAcDDDHAcDDHAcDHAcEcFAcGAcGGAcGHAcGHHAcGLOTTAL STOPcHAcHEAVY Y
AcIcIIcJAcJHAcJJAcKAcKHAcKHHAcLAcLLAcLLLAcMAcMARWARI DDAcNAcNGAcNNAcNNNAcNYAcOcOEcOOEcPAcPHAcQAcRA
cRHAcRRAcSAcSHAcSHORT dAdEdOcSSAcTAcTHAcTTAcTTHAcUcUEcUUcUUEcVAcVOCALIC dLdLLdRdRRcYAcYYAcZAcZHAbO
MbSIGN cANUSVARAcAVAGRAHAcCANDRABINDUcCANDRABINDU dAVAGRAHAdTHREEdTWOdVIRAMAcDOUBLE CANDRABINDU VI
RAMAcHIGH SPACING DOTcINVERTED CANDRABINDUcNUKTAcPUSHPIKAcSIDDHAMcSPACING CANDRABINDUcVIRAMAcVISAR
GAbSTRESS SIGN cANUDATTAcUDATTAbVOWEL SIGN cAAcAIcAUcAWcAYcCANDRA dEdLONG EdOcEcIcIIcOcOEcOOEcPRIS
HTHAMATRA EcSHORT dEdOcUcUEcUUcUUEcVOCALIC dLdLLdRdRRaDEVICE CONTROL bFOURbONEbSTRINGbTHREEbTWOaDI
AERESISaDIAMETER SIGNaDIAMOND bOPERATORbSHAPE WITH A DOT INSIDEbTARGETbWITH cBOTTOM HALF BLACKcLEF
T HALF BLACKcRIGHT HALF BLACKcTOP HALF BLACKaDIE FACE-b1b2b3b4b5b6aDIESEL LOCOMOTIVEaDIFFERENCE BE
TWEENaDIGIT bEIGHTbEIGHT cCOMMAcFULL STOPbFIVEbFIVE cCOMMAcFULL STOPbFOURbFOUR cCOMMAcFULL STOPbNI
NEbNINE cCOMMAcFULL STOPbONEbONE cCOMMAcFULL STOPbSEVENbSEVEN cCOMMAcFULL STOPbSIXbSIX cCOMMAcFUL
L STOPbTHREEbTHREE cCOMMAcFULL STOPbTWObTWO cCOMMAcFULL STOPbZERObZERO cCOMMAcFULL STOPaDIGRAM FO
R bEARTHbEARTHLY cHEAVENcHUMANbGREATER cYANGcYINbHEAVENLY EARTHbHUMAN EARTHbLESSER cYANGcYINaDIMEN
SION ORIGINaDINGBAT bCIRCLED SANS-SERIF cDIGIT dEIGHTdFIVEdFOURdNINEdONEdSEVENdSIXdTHREEdTWOdZEROc
NUMBER TENbNEGATIVE CIRCLED cDIGIT dEIGHTdFIVEdFOURdNINEdONEdSEVENdSIXdTHREEdTWOcNUMBER TENcSANS-S
ERIF dDIGIT eEIGHTeFIVEeFOUReNINEeONEeSEVENeSIXeTHREEeTWOeZEROdNUMBER TENaDIRECT bCURRENT SYMBOL F
ORM TWObHITaDISABLED CARaDISAPPOINTED bBUT RELIEVED FACEbFACEaDISCONTINUOUS UNDERLINE SYMBOLaDISGU
ISED FACEaDITTO MARKaDIVES AKURU bDIGIT cEIGHTcFIVEcFOURcNINEcONEcSEVENcSIXcTHREEcTWOcZERObDOUBL
E DANDAbEND OF TEXT MARKbGAP FILLERbINITIAL RAbLETTER cAcAAcBAcBHAcCAcCHAcDAcDDAcDDHAcDHAcEcGAcGHA
cHAcIcIIcJAcKAcKHAcLAcLLAcMAcNAcNGAcNNAcNYAcOcPAcPHAcRAcSAcSHAcSSAcTAcTHAcTTAcUcUUcVAcYAcYYAcZAbME
DIAL cRAcYAbPREFIXED NASAL SIGNbSIGN cANUSVARAcCANDRABINDUcHALANTAcNUKTAbVIRAMAbVOWEL SIGN cAAcAIc
EcIcIIcOcUcUUaDIVIDESaDIVING MASKaDIVISION bSIGNbSLASHbTIMESaDIVORCE SYMBOLaDIYA LAMPaDIZZY bFACEb
SYMBOLaDLEaDNA DOUBLE HELIXaDO NOT LITTER SYMBOLaDOCUMENTaDOCUMENT WITH bPICTUREbTEXTbTEXT AND PIC
TUREaDODOaDOES NOT bCONTAIN AS cMEMBERcNORMAL dSUBGROUPdSUBGROUP OR EQUALbDIVIDEbDIVIDE WITH REVER
SED NEGATION SLASHbFORCEbPRECEDEbPRECEDE OR EQUALbPROVEbSUCCEEDbSUCCEED OR EQUALaDOGaDOG FACEaDOGR
A bABBREVIATION SIGNbLETTER cAcAAcAIcAUcBAcBHAcCAcCHAcDAcDDAcDDHAcDHAcEcGAcGHAcHAcIcIIcJAcJHAcKAcK
HAcLAcMAcNAcNGAcNNAcNYAcOcPAcPHAcRAcRRAcSAcSHAcSSAcTAcTHAcTTAcTTHAcUcUUcVAcYAbSIGN cANUSVARAcNUKTA
cVIRAMAcVISARGAbVOWEL SIGN cAAcAIcAUcEcIcIIcOcUcUUcVOCALIC dRdRRaDOLLAR SIGNaDOLPHINaDOMINO TILE b
HORIZONTAL BACKbHORIZONTAL-c00-d00d01d02d03d04d05d06c01-d00d01d02d03d04d05d06c02-d00d01d02d03d04d0
5d06c03-d00d01d02d03d04d05d06c04-d00d01d02d03d04d05d06c05-d00d01d02d03d04d05d06c06-d00d01d02d03d04
d05d06bVERTICAL BACKbVERTICAL-c00-d00d01d02d03d04d05d06c01-d00d01d02d03d04d05d06c02-d00d01d02d03d0
4d05d06c03-d00d01d02d03d04d05d06c04-d00d01d02d03d04d05d06c05-d00d01d02d03d04d05d06c06-d00d01d02d03
d04d05d06aDONG SIGNaDOORaDOT bABOVEbMINUSbOPERATORbPLUSaDOTTED bCIRCLEbCROSSbFENCEbLINE FACEbOBELO
SbRIGHT-POINTING ANGLEbSOLIDUSbSQUAREbTRANSPOSITION MARKERaDOUBLE bACUTE ACCENTbCIRCLED cDIGIT dEI
GHTdFIVEdFOURdNINEdONEdSEVENdSIXdTHREEdTWOcNUMBER TENbCOLON EQUALbCURLY LOOPbDAGGERbDOWN TACKbEXCL
AMATION MARKbHIGH-REVERSED-9 QUOTATION MARKbHYPHENbINTEGRALbINTERSECTIONbLEFT ARC GREATER-THAN BRA
CKETbLOGICAL cANDcORbLOW LINEbLOW-c9 QUOTATION MARKcREVERSED-9 QUOTATION MARKbNESTED cGREATER-THAN
cLESS-dTHANdTHAN WITH UNDERBARbOBLIQUE HYPHENbPLUSbPRECEDESbPRIMEbPRIME QUOTATION MARKbQUESTION MA
RKbRIGHT ARC LESS-THAN BRACKETbSOLIDUS OPERATORbSQUARE cINTERSECTIONcUNIONbSTACKED COMMAbSTROKE NO
T SIGNbSUBSETbSUCCEEDSbSUPERSETbSUSPENSION MARKbUNIONbUP TACKbVERTICAL cBARcBAR dDOUBLE eLEFT TURN
STILEeRIGHT TURNSTILEdLEFT TURNSTILEcLINEbWAVY OVERLINEaDOUBLE-bENDED MULTIMAPbLINE cEQUAL TO OR d
GREATER-THANdLESS-THANcSLANTED dEQUAL TO OR eGREATER-THANeLESS-THANdGREATER-THAN OR EQUAL TOdLESS-
THAN OR EQUAL TObSTRUCK cCAPITAL dCdGAMMAdHdNdPdPIdQdRdZcITALIC dCAPITAL DdSMALL eDeEeIeJcN-ARY SU
MMATIONcSMALL dGAMMAdPIaDOUBLED bFEMALE SIGNbMALE SIGNbSYMBOLaDOUGHNUTaDOVE OF PEACEaDOWN bARROWHE
ADbFISH TAILbRIGHT DIAGONAL ELLIPSISbTACKbTACK WITH CIRCLE BELOWaDOWN-POINTING bRED TRIANGLEbSMAL
L RED TRIANGLEbTRIANGLE WITH cLEFT HALF BLACKcRIGHT HALF BLACKaDOWNWARD FACING bHOOKbHOOK WITH DOT
bNOTCHED cHOOKcHOOK WITH DOTaDOWNWARDS bANCORAbARROWbARROW cAND RIGHT ONE EIGHTH BLOCKcFROM BARcLE
FTWARDS OF UPWARDS ARROWcTO BARcWITH dCORNER LEFTWARDSdDOUBLE STROKEdEQUILATERAL ARROWHEADdHORIZON
TAL STROKEdLARGE TRIANGLE ARROWHEADdMEDIUM TRIANGLE ARROWHEADdNOTCHED TAILdSMALL eEQUILATERAL ARRO
WHEADeTRIANGLE ARROWHEADdTIP eLEFTWARDSeRIGHTWARDSbBLACK cARROWcCIRCLED WHITE ARROWbCOMPRESSED ARR
OWbDASHED ARROWbDOUBLE ARROWbFINGER-POST ARROWbHARPOON WITH BARB cLEFT dBESIDE eDOWNWARDS HARPOO
N WITH BARB RIGHTeUPWARDS HARPOON WITH BARB RIGHTdFROM BARdTO BARcLEFTWARDScRIGHT dFROM BARdTO BAR
cRIGHTWARDSbHEAVY cARROWcCOMPRESSED ARROWbPAIRED ARROWSbQUADRUPLE ARROWbROCKETbSANS-SERIF ARROWbSQ
UARED ARROWbTRIANGLE ARROWHEADbTRIANGLE-HEADED cARROWcARROW dLEFTWARDS OF UPWARDS TRIANGLE-HEADE
D ARROWdTO BARdWITH eBOLD SHAFTeDOUBLE HORIZONTAL STROKEeHEAVY SHAFTeLONG TIP fLEFTWARDSfRIGHTWARD
SeMEDIUM SHAFTeNARROW SHAFTeVERY HEAVY SHAFTcDASHED ARROWcPAIRED ARROWScZIGZAG ARROWbTRIPLE ARROWb
TWO HEADED ARROWbTWO-HEADED ARROW WITH TRIANGLE ARROWHEADSbWHITE cARROWcARROW WITHIN TRIANGLE ARRO
WHEADbZIGZAG ARROWaDRACHMA SIGNaDRAFTING POINT RIGHTWARDS ARROWaDRAGONaDRAGON FACEaDRESSaDRIVE SLO
W SIGNaDROMEDARY CAMELaDROOLING FACEaDROP OF BLOODaDROPLETaDRUM WITH DRUMSTICKSaDUCKaDUMPLINGaDUPL
OYAN bAFFIX cATTACHED dE HOOKdI HOOKdLEFT-TO-RIGHT SECANTdSECANTdTAILdTANGENTdTANGENT HOOKcHIGH dA
CUTEdCIRCLEdDOTdGRAVEdLINEdLONG GRAVEdTIGHT ACUTEdVERTICALdVERTICAL SECANTdWAVEcLEFT HORIZONTAL SE
CANTcLOW dACUTEdARROWdCIRCLEdDOTdGRAVEdLINEdLONG GRAVEdTIGHT ACUTEdVERTICALdVERTICAL SECANTdWAVEcM
ID dHORIZONTAL SECANTdVERTICAL SECANTcRIGHT HORIZONTAL SECANTbDOUBLE MARKbLETTER cAcAOUcBcDcD ScDH
cEcEEcEUcFcF NcGcG R ScHcHLcIcIEcJcJ dMdM SdNdN SdSdS WITH DOTdWITH eDOTeDOTS INSIDE AND ABOVEcKc
K dMdR ScKKcLcLHcLONG dIdUcMcM dNdN SdSdWITH DOTcNcN dMdM SdSdWITH DOTcNASAL dAdIdOdUcOcOAcOOHcOUc
OWcPcP NcPERNIN dAMdANcRcR ScRHcROMANIAN dIdUcScS dJdJ SdKdK RdMdNdPdP RdSdTdT RdWITH eDOTeDOT BEL
OWcSHORT IcSLOAN dANdDHdEEdEHdENdJdONdOWdUcTcT dR SdScTHcUcU NcUHcUIcVcVOCALIC McWcW RcWAcWEIcWHcW
IcWOcWOWcXcXWcYEbPUNCTUATION CHINOOK FULL STOPbSIGN O WITH CROSSbTHICK LETTER SELECTORaDVDaE-MAI
L SYMBOLaEAGLEaEARaEAR bOF cMAIZEcRICEbWITH HEARING AIDaEARTHaEARTH bGLOBE cAMERICAScASIA-AUSTRALI
AcEUROPE-AFRICAbGROUNDaEAST SYRIAC CROSSaEDITORIAL CORONISaEGGaEGYPTIAN HIEROGLYPH bA001bA002bA003
bA004bA005bA005AbA006bA006AbA006BbA007bA008bA009bA010bA011bA012bA013bA014bA014AbA015bA016bA017bA01
7AbA018bA019bA020bA021bA022bA023bA024bA025bA026bA027bA028bA029bA030bA031bA032bA032AbA033bA034bA035
bA036bA037bA038bA039bA040bA040AbA041bA042bA042AbA043bA043AbA044bA045bA045AbA046bA047bA048bA049bA05
0bA051bA052bA053bA054bA055bA056bA057bA058bA059bA060bA061bA062bA063bA064bA065bA066bA067bA068bA069bA
070bAA001bAA002bAA003bAA004bAA005bAA006bAA007bAA007AbAA007BbAA008bAA009bAA010bAA011bAA012bAA013bAA
014bAA015bAA016bAA017bAA018bAA019bAA020bAA021bAA022bAA023bAA024bAA025bAA026bAA027bAA028bAA029bAA03
0bAA031bAA032bB001bB002bB003bB004bB005bB005AbB006bB007bB008bB009bBEGIN SEGMENTbC001bC002bC002AbC00
2BbC002CbC003bC004bC005bC006bC007bC008bC009bC010bC010AbC011bC012bC013bC014bC015bC016bC017bC018bC01
9bC020bC021bC022bC023bC024bD001bD002bD003bD004bD005bD006bD007bD008bD008AbD009bD010bD011bD012bD013b
D014bD015bD016bD017bD018bD019bD020bD021bD022bD023bD024bD025bD026bD027bD027AbD028bD029bD030bD031bD0
31AbD032bD033bD034bD034AbD035bD036bD037bD038bD039bD040bD041bD042bD043bD044bD045bD046bD046AbD047bD0
48bD048AbD049bD050bD050AbD050BbD050CbD050DbD050EbD050FbD050GbD050HbD050IbD051bD052bD052AbD053bD054
bD054AbD055bD056bD057bD058bD059bD060bD061bD062bD063bD064bD065bD066bD067bD067AbD067BbD067CbD067DbD0
67EbD067FbD067GbD067HbE001bE002bE003bE004bE005bE006bE007bE008bE008AbE009bE009AbE010bE011bE012bE013
bE014bE015bE016bE016AbE017bE017AbE018bE019bE020bE020AbE021bE022bE023bE024bE025bE026bE027bE028bE028
AbE029bE030bE031bE032bE033bE034bE034AbE036bE037bE038bEND SEGMENTbF001bF001AbF002bF003bF004bF005bF0
06bF007bF008bF009bF010bF011bF012bF013bF013AbF014bF015bF016bF017bF018bF019bF020bF021bF021AbF022bF02
3bF024bF025bF026bF027bF028bF029bF030bF031bF031AbF032bF033bF034bF035bF036bF037bF037AbF038bF038AbF03
9bF040bF041bF042bF043bF044bF045bF045AbF046bF046AbF047bF047AbF048bF049bF050bF051bF051AbF051BbF051Cb
F052bF053bG001bG002bG003bG004bG005bG006bG006AbG007bG007AbG007BbG008bG009bG010bG011bG011AbG012bG013
bG014bG015bG016bG017bG018bG019bG020bG020AbG021bG022bG023bG024bG025bG026bG026AbG027bG028bG029bG030b
G031bG032bG033bG034bG035bG036bG036AbG037bG037AbG038bG039bG040bG041bG042bG043bG043AbG044bG045bG045A
bG046bG047bG048bG049bG050bG051bG052bG053bG054bH001bH002bH003bH004bH005bH006bH006AbH007bH008bHORIZO
NTAL JOINERbI001bI002bI003bI004bI005bI005AbI006bI007bI008bI009bI009AbI010bI010AbI011bI011AbI012bI0
13bI014bI015bINSERT AT cBOTTOM dENDdSTARTcTOP dENDdSTARTbK001bK002bK003bK004bK005bK006bK007bK008bL
001bL002bL002AbL003bL004bL005bL006bL006AbL007bL008bM001bM001AbM001BbM002bM003bM003AbM004bM005bM006
bM007bM008bM009bM010bM010AbM011bM012bM012AbM012BbM012CbM012DbM012EbM012FbM012GbM012HbM013bM014bM01
5bM015AbM016bM016AbM017bM017AbM018bM019bM020bM021bM022bM022AbM023bM024bM024AbM025bM026bM027bM028bM
028AbM029bM030bM031bM031AbM032bM033bM033AbM033BbM034bM035bM036bM037bM038bM039bM040bM040AbM041bM042
bM043bM044bN001bN002bN003bN004bN005bN006bN007bN008bN009bN010bN011bN012bN013bN014bN015bN016bN017bN0
18bN018AbN018BbN019bN020bN021bN022bN023bN024bN025bN025AbN026bN027bN028bN029bN030bN031bN032bN033bN0
33AbN034bN034AbN035bN035AbN036bN037bN037AbN038bN039bN040bN041bN042bNL001bNL002bNL003bNL004bNL005bN
L005AbNL006bNL007bNL008bNL009bNL010bNL011bNL012bNL013bNL014bNL015bNL016bNL017bNL017AbNL018bNL019bN
L020bNU001bNU002bNU003bNU004bNU005bNU006bNU007bNU008bNU009bNU010bNU010AbNU011bNU011AbNU012bNU013bN
U014bNU015bNU016bNU017bNU018bNU018AbNU019bNU020bNU021bNU022bNU022AbO001bO001AbO002bO003bO004bO005b
O005AbO006bO006AbO006BbO006CbO006DbO006EbO006FbO007bO008bO009bO010bO010AbO010BbO010CbO011bO012bO01
3bO014bO015bO016bO017bO018bO019bO019AbO020bO020AbO021bO022bO023bO024bO024AbO025bO025AbO026bO027bO0
28bO029bO029AbO030bO030AbO031bO032bO033bO033AbO034bO035bO036bO036AbO036BbO036CbO036DbO037bO038bO03
9bO040bO041bO042bO043bO044bO045bO046bO047bO048bO049bO050bO050AbO050BbO051bOVERLAY MIDDLEbP001bP001
AbP002bP003bP003AbP004bP005bP006bP007bP008bP009bP010bP011bQ001bQ002bQ003bQ004bQ005bQ006bQ007bR001b
R002bR002AbR003bR003AbR003BbR004bR005bR006bR007bR008bR009bR010bR010AbR011bR012bR013bR014bR015bR016
bR016AbR017bR018bR019bR020bR021bR022bR023bR024bR025bR026bR027bR028bR029bS001bS002bS002AbS003bS004b
S005bS006bS006AbS007bS008bS009bS010bS011bS012bS013bS014bS014AbS014BbS015bS016bS017bS017AbS018bS019
bS020bS021bS022bS023bS024bS025bS026bS026AbS026BbS027bS028bS029bS030bS031bS032bS033bS034bS035bS035A
bS036bS037bS038bS039bS040bS041bS042bS043bS044bS045bS046bT001bT002bT003bT003AbT004bT005bT006bT007bT
007AbT008bT008AbT009bT009AbT010bT011bT011AbT012bT013bT014bT015bT016bT016AbT017bT018bT019bT020bT021
bT022bT023bT024bT025bT026bT027bT028bT029bT030bT031bT032bT032AbT033bT033AbT034bT035bT036bU001bU002b
U003bU004bU005bU006bU006AbU006BbU007bU008bU009bU010bU011bU012bU013bU014bU015bU016bU017bU018bU019bU
020bU021bU022bU023bU023AbU024bU025bU026bU027bU028bU029bU029AbU030bU031bU032bU032AbU033bU034bU035bU
036bU037bU038bU039bU040bU041bU042bV001bV001AbV001BbV001CbV001DbV001EbV001FbV001GbV001HbV001IbV002b
V002AbV003bV004bV005bV006bV007bV007AbV007BbV008bV009bV010bV011bV011AbV011BbV011CbV012bV012AbV012Bb
V013bV014bV015bV016bV017bV018bV019bV020bV020AbV020BbV020CbV020DbV020EbV020FbV020GbV020HbV020IbV020
JbV020KbV020LbV021bV022bV023bV023AbV024bV025bV026bV027bV028bV028AbV029bV029AbV030bV030AbV031bV031A
bV032bV033bV033AbV034bV035bV036bV037bV037AbV038bV039bV040bV040AbVERTICAL JOINERbW001bW002bW003bW00
3AbW004bW005bW006bW007bW008bW009bW009AbW010bW010AbW011bW012bW013bW014bW014AbW015bW016bW017bW017AbW
018bW018AbW019bW020bW021bW022bW023bW024bW024AbW025bX001bX002bX003bX004bX004AbX004BbX005bX006bX006A
bX007bX008bX008AbY001bY001AbY002bY003bY004bY005bY006bY007bY008bZ001bZ002bZ002AbZ002BbZ002CbZ002DbZ
003bZ003AbZ003BbZ004bZ004AbZ005bZ005AbZ006bZ007bZ008bZ009bZ010bZ011bZ012bZ013bZ014bZ015bZ015AbZ015
BbZ015CbZ015DbZ015EbZ015FbZ015GbZ015HbZ015IbZ016bZ016AbZ016BbZ016CbZ016DbZ016EbZ016FbZ016GbZ016HaE
IGHT bPETALLED OUTLINED BLACK FLORETTEbPOINTED cBLACK STARcPINWHEEL STARcRECTILINEAR BLACK STARbSP
OKED ASTERISKbTEARDROP-SPOKED PROPELLER ASTERISKaEIGHTH NOTEaEJECT SYMBOLaELBASAN LETTER bAbBEbCEb
CHEbDEbDHEbEbEIbFEbGEbGHAMMAbGHEbGJEbHEbIbJEbKEbKHEbLEbLLEbMEbNAbNDEbNEbNJEbObPEbQEbREbRREbSEbSHEb
TEbTHEbUbVEbXEbYbZEbZHEaELECTRIC bARROWbLIGHT BULBbPLUGbTORCHaELECTRICAL INTERSECTIONaELEMENT bOFb
OF cOPENING dDOWNWARDSdUPWARDScWITH dDOT ABOVEdLONG HORIZONTAL STROKEdOVERBARdTWO HORIZONTAL STROK
ESdUNDERBARdVERTICAL BAR AT END OF HORIZONTAL STROKEaELEPHANTaELEVATORaELFaELYMAIC bLETTER cALEPHc
AYINcBETHcDALETHcGIMELcHEcHETHcKAPHcLAMEDHcMEMcNUNcPEcQOPHcRESHcSADHEcSAMEKHcSHINcTAWcTETHcWAWcYOD
HcZAYINbLIGATURE ZAYIN-YODHaEM bDASHbQUADbSPACEaEMOJI bCOMPONENT cBALDcCURLY HAIRcRED HAIRcWHITE H
AIRbMODIFIER FITZPATRICK TYPE-c1-2c3c4c5c6aEMPHASIS SYMBOLaEMPTY bDOCUMENTbNESTbNOTEbNOTE cPADcPAG
EbPAGEbPAGESbSETbSET WITH cLEFT ARROW ABOVEcOVERBARcRIGHT ARROW ABOVEcSMALL CIRCLE ABOVEaEN bDASHb
QUADbSPACEaEND bOF cGUARDED AREAcLINEcMEDIUMcPROOFcPROTECTED AREAcSELECTED AREAcTEXTcTRANSMISSIONc
TRANSMISSION BLOCKbWITH LEFTWARDS ARROW ABOVEaENQaENQUIRYaENTER SYMBOLaENVELOPEaENVELOPE WITH bDOW
NWARDS ARROW ABOVEbLIGHTNINGaEOLaEOMaEOTaEPAaEQUAL bAND PARALLEL TObTO cBY DEFINITIONcOR dGREATER-
THANdLESS-THANdPRECEDESdSUCCEEDSaEQUALS bCOLONbSIGNbSIGN cABOVE dLEFTWARDS ARROWdPLUS SIGNdRIGHTWA
RDS ARROWdTILDE OPERATORcAND SLANTED dPARALLELdPARALLEL WITH TILDE ABOVEcWITH dBUMPY ABOVEdDOT BEL
OWdINFINITY BELOWdTWO DOTS ABOVE AND TWO DOTS BELOWbWITH ASTERISKaEQUIANGULAR TOaEQUIVALENT bTObWI
TH FOUR DOTS ABOVEaERASE TO THE bLEFTbRIGHTaERIS FORM bONEbTWOaERROR-BARRED bBLACK cCIRCLEcDIAMOND
cSQUAREbWHITE cCIRCLEcDIAMONDcSQUAREaESAaESCaESCAPEaESTIMATED SYMBOLaESTIMATESaETBaETHIOPIC bCOLON
bCOMBINING cGEMINATION dAND VOWEL LENGTH MARKdMARKcVOWEL LENGTH MARKbCOMMAbDIGIT cEIGHTcFIVEcFOURc
NINEcONEcSEVENcSIXcTHREEcTWObFULL STOPbNUMBER cEIGHTYcFIFTYcFORTYcHUNDREDcNINETYcSEVENTYcSIXTYcTEN
cTEN THOUSANDcTHIRTYcTWENTYbPARAGRAPH SEPARATORbPREFACE COLONbQUESTION MARKbSECTION MARKbSEMICOLON
bSYLLABLE cBAcBAAcBBAcBBAAcBBEcBBEEcBBIcBBOcBBUcBEcBEEcBIcBOcBOAcBUcBWAcBWEcBWEEcBWIcCAcCAAcCCAcCC
AAcCCEcCCEEcCCHAcCCHAAcCCHEcCCHEEcCCHHAcCCHHAAcCCHHEcCCHHEEcCCHHIcCCHHOcCCHHUcCCHIcCCHOcCCHUcCCIcC
COcCCUcCEcCEEcCHAcCHAAcCHEcCHEEcCHIcCHOcCHOAcCHUcCHWAcCIcCOcCOAcCUcCWAcDAcDAAcDDAcDDAAcDDEcDDEEcDD
HAAcDDHEcDDHEEcDDHIcDDHOcDDHUcDDIcDDOcDDOAcDDUcDDWAcDEcDEEcDIcDOcDOAcDUcDWAcDZAAcDZEcDZEEcDZIcDZOc
DZUcFAcFAAcFEcFEEcFIcFOcFUcFWAcFWEcFWEEcFWIcFYAcGAcGAAcGEcGEEcGGAcGGAAcGGEcGGEEcGGIcGGOcGGUcGGWAcG
GWAAcGGWEcGGWEEcGGWIcGIcGLOTTAL dAdAAdEdEEdIdOdOAdUdWAcGOcGOAcGUcGURAGE dBWEEdBWIdFWEEdFWIdGWEdGWE
EdGWIdHHWAdKWEdKWEEdKWIdMWEEdMWIdPWEEdPWIdQWEdQWEEdQWIcGWAcGWAAcGWEcGWEEcGWIcGYAcGYAAcGYEcGYEEcGYI
cGYOcGYUcHAcHAAcHEcHEEcHHAcHHAAcHHEcHHEEcHHIcHHOcHHUcHHWAcHHWEcHHWEEcHHWIcHHYAcHHYAAcHHYEcHHYEEcHH
YIcHHYOcHHYUcHIcHOcHOAcHUcJAcJAAcJEcJEEcJIcJOcJOAcJUcJWAcKAcKAAcKEcKEEcKIcKOcKOAcKUcKWAcKWAAcKWEcK
WEEcKWIcKXAcKXAAcKXEcKXEEcKXIcKXOcKXUcKXWAcKXWAAcKXWEcKXWEEcKXWIcKYAcKYAAcKYEcKYEEcKYIcKYOcKYUcLAc
LAAcLEcLEEcLIcLOcLOAcLUcLWAcMAcMAAcMEcMEEcMIcMOcMOAcMUcMWAcMWEcMWEEcMWIcMYAcNAcNAAcNEcNEEcNIcNOcNO
AcNUcNWAcNYAcNYAAcNYEcNYEEcNYIcNYOcNYOAcNYUcNYWAcPAcPAAcPEcPEEcPHAcPHAAcPHARYNGEAL dAdAAdEdEEdIdOd
UcPHEcPHEEcPHIcPHOcPHOAcPHUcPHWAcPIcPOcPOAcPUcPWAcPWEcPWEEcPWIcQAcQAAcQEcQEEcQHAcQHAAcQHEcQHEEcQHI
cQHOcQHUcQHWAcQHWAAcQHWEcQHWEEcQHWIcQIcQOcQOAcQUcQWAcQWAAcQWEcQWEEcQWIcQYAcQYAAcQYEcQYEEcQYIcQYOcQ
YUcRAcRAAcREcREEcRIcROcROAcRUcRWAcRYAcSAcSAAcSEcSEBATBEIT dBWAdFWAdMWAdPWAcSEEcSHAcSHAAcSHEcSHEEcS
HIcSHOcSHOAcSHUcSHWAcSIcSOcSOAcSSAcSSAAcSSEcSSEEcSSIcSSOcSSUcSUcSWAcSZAcSZAAcSZEcSZEEcSZIcSZOcSZUc
SZWAcTAcTAAcTEcTEEcTHAcTHAAcTHEcTHEEcTHIcTHOcTHOAcTHUcTHWAcTIcTOcTOAcTSAcTSAAcTSEcTSEEcTSIcTSOcTSU
cTSWAcTTHAAcTTHEcTTHEEcTTHIcTTHOcTTHUcTUcTWAcTZAcTZAAcTZEcTZEEcTZIcTZOcTZOAcTZUcVAcVAAcVEcVEEcVIcV
OcVUcVWAcWAcWAAcWEcWEEcWIcWOcWOAcWUcXAcXAAcXEcXEEcXIcXOcXOAcXUcXWAcXWAAcXWEcXWEEcXWIcXYAcXYAAcXYEc
XYEEcXYIcXYOcXYUcYAcYAAcYEcYEEcYIcYOcYOAcYUcZAcZAAcZEcZEEcZHAcZHAAcZHEcZHEEcZHIcZHOcZHUcZHWAcZIcZO
cZOAcZUcZWAcZZAcZZAAcZZEcZZEEcZZIcZZOcZZUbTONAL MARK cCHIRETcDERETcDERET-HIDETcDIFATcHIDETcKENATcK
URTcRIKRIKcSHORT RIKRIKcYIZETbWORDSPACEaETXaEULER CONSTANTaEURO SIGNaEURO-CURRENCY SIGNaEUROPEAN b
CASTLEbPOST OFFICEaEVERGREEN TREEaEXCESSaEXCLAMATION bMARKbQUESTION MARKaEXPRESSIONLESS FACEaEXTEN
DED ARABIC-INDIC DIGIT bEIGHTbFIVEbFOURbNINEbONEbSEVENbSIXbTHREEbTWObZEROaEXTRATERRESTRIAL ALIENaE
XTREMELY HEAVY bFIVE SPOKED ASTERISKbGREEK CROSSbSALTIREbSIX SPOKED ASTERISKbWHITE cCIRCLEcSQUAREa
EYEaEYEGLASSESaEYESaFACE bHOLDING BACK TEARSbMASSAGEbPALMbSAVOURING DELICIOUS FOODbSCREAMING IN FE
ARbTHROWING A KISSbWITH cCOLD SWEATcCOWBOY HATcDIAGONAL MOUTHcFINGER COVERING CLOSED LIPScHEAD-BAN
DAGEcLOOK OF TRIUMPHcMEDICAL MASKcMONOCLEcNO GOOD GESTUREcOK GESTUREcONE EYEBROW RAISEDcOPEN dEYE
S AND HAND OVER MOUTHdMOUTHdMOUTH eAND COLD SWEATeVOMITINGcPARTY HORN AND PARTY HATcPEEKING EYEcPL
EADING EYEScROLLING EYEScSTUCK-OUT dTONGUEdTONGUE AND eTIGHTLY-CLOSED EYESeWINKING EYEcTEARS OF JO
YcTHERMOMETERcUNEVEN EYES AND WAVY MOUTHbWITHOUT MOUTHaFACSIMILE SIGNaFACTORYaFAIRYaFALAFELaFALLE
N LEAFaFALLING DIAGONAL bCROSSING cNORTH EAST ARROWcRISING DIAGONALbIN WHITE CIRCLE IN BLACK SQUAR
EaFAMILYaFARSI SYMBOLaFATHER CHRISTMASaFAX bICONbMACHINEaFEARFUL FACEaFEATHERaFEMALE SIGNaFEMININ
E ORDINAL INDICATORaFENCERaFERRIS WHEELaFERRYaFFaFIELD HOCKEY STICK AND BALLaFIGURE bDASHbSPACEaFI
LE bCABINETbFOLDERbSEPARATORaFILM bFRAMESbPROJECTORaFINITE PART INTEGRALaFIREaFIRE bENGINEbEXTINGU
ISHERaFIRECRACKERaFIREWORK SPARKLERaFIREWORKSaFIRST bPLACE MEDALbQUARTER cMOONcMOON dSYMBOLdWITH F
ACEbSTRONG ISOLATEaFISHaFISH CAKE WITH SWIRL DESIGNaFISHEYEaFISHING POLE AND FISHaFISTED HAND SIGN
aFIVE DOT bMARKbPUNCTUATIONaFLAG IN HOLEaFLAMINGOaFLAT SHOEaFLATBREADaFLATNESSaFLEUR-DE-LISaFLEXE
D BICEPSaFLOPPY DISKaFLORAL HEARTaFLOWERaFLOWER bPLAYING CARDSbPUNCTUATION MARKaFLUSHED FACEaFLYaF
LYING bDISCbENVELOPEbSAUCERaFOGaFOGGYaFOLDERaFONDUEaFOOTaFOOTPRINTSaFOR ALLaFORCESaFORK AND bKNIFE
bKNIFE WITH PLATEaFORKED PARAGRAPHOSaFORKINGaFORM FEEDaFORTUNE COOKIEaFOUNTAINaFOUR bBALLOON-SPOKE
D ASTERISKbCLUB-SPOKED ASTERISKbCORNER ARROWS CIRCLING ANTICLOCKWISEbDOT cMARKcPUNCTUATIONbLEAF CL
OVERbPOINTED BLACK STARbTEARDROP-SPOKED ASTERISKaFOUR-PER-EM SPACEaFOURTH ROOTaFOX FACEaFRACTION b
NUMERATOR ONEbSLASHaFRAME WITH bAN XbPICTUREbTILESaFREEZING FACEaFRENCH bFRANC SIGNbFRIESaFRIED SH
RIMPaFROG FACEaFRONT-bFACING BABY CHICKbTILTED SHADOWED WHITE RIGHTWARDS ARROWaFROWNaFROWNING FAC
E WITH OPEN MOUTHaFSaFSIaFUEL PUMPaFULL bBLOCKbMOON cSYMBOLcWITH FACEbOUTER JOINbSTOPaFULLWIDTH bA
MPERSANDbAPOSTROPHEbASTERISKbBROKEN BARbCENT SIGNbCIRCUMFLEX ACCENTbCOLONbCOMMAbCOMMERCIAL ATbDIGI
T cEIGHTcFIVEcFOURcNINEcONEcSEVENcSIXcTHREEcTWOcZERObDOLLAR SIGNbEQUALS SIGNbEXCLAMATION MARKbFUL
L STOPbGRAVE ACCENTbGREATER-THAN SIGNbHYPHEN-MINUSbLATIN cCAPITAL LETTER dAdBdCdDdEdFdGdHdIdJdKdLd
MdNdOdPdQdRdSdTdUdVdWdXdYdZcSMALL LETTER dAdBdCdDdEdFdGdHdIdJdKdLdMdNdOdPdQdRdSdTdUdVdWdXdYdZbLEF
T cCURLY BRACKETcPARENTHESIScSQUARE BRACKETcWHITE PARENTHESISbLESS-THAN SIGNbLOW LINEbMACRONbNOT S
IGNbNUMBER SIGNbPERCENT SIGNbPLUS SIGNbPOUND SIGNbQUESTION MARKbQUOTATION MARKbREVERSE SOLIDUSbRIG
HT cCURLY BRACKETcPARENTHESIScSQUARE BRACKETcWHITE PARENTHESISbSEMICOLONbSOLIDUSbTILDEbVERTICAL LI
NEbWON SIGNbYEN SIGNaFUNCTION APPLICATIONaFUNERAL URNaFUSEaFVS1aFVS2aFVS3aFVS4aGAME DIEaGARLICaGEA
RaGEAR bWITH HANDLESbWITHOUT HUBaGEM STONEaGEMINIaGENIEaGEOMETRIC PROPORTIONaGEOMETRICALLY bEQUA
L TObEQUIVALENT TOaGEORGIAN bCAPITAL LETTER cAENcANcBANcCANcCHARcCHINcCILcDONcENcGANcGHANcHAEcHARc
HEcHIEcHOEcINcJHANcJILcKANcKHARcLAScMANcNARcONcPARcPHARcQARcRAEcSANcSHINcTANcTARcUNcVINcWEcXANcYNc
ZENcZHARbLETTER cAENcAINcANcBANcCANcCHARcCHINcCILcDONcELIFIcENcFIcGANcGHANcHAEcHARcHARD SIGNcHEcHI
EcHOEcINcJHANcJILcKANcKHARcLABIAL SIGNcLAScMANcNARcONcPARcPHARcQARcRAEcSANcSHINcTANcTARcTURNED GAN
cUNcVINcWEcXANcYNcZENcZHARbMTAVRULI CAPITAL LETTER cAENcAINcANcBANcCANcCHARcCHINcCILcDONcELIFIcENc
FIcGANcGHANcHAEcHARcHARD SIGNcHEcHIEcHOEcINcJHANcJILcKANcKHARcLABIAL SIGNcLAScMANcNARcONcPARcPHARc
QARcRAEcSANcSHINcTANcTARcTURNED GANcUNcVINcWEcXANcYNcZENcZHARbPARAGRAPH SEPARATORbSMALL LETTER cAE
NcANcBANcCANcCHARcCHINcCILcDONcENcGANcGHANcHAEcHARcHEcHIEcHOEcINcJHANcJILcKANcKHARcLAScMANcNARcONc
PARcPHARcQARcRAEcSANcSHINcTANcTARcUNcVINcWEcXANcYNcZENcZHARaGERMAN PENNY SIGNaGETA MARKaGHOSTaGIME
L SYMBOLaGIRAFFE FACEaGIRLaGIRLS SYMBOLaGLAGOLITIC bCAPITAL LETTER cAZUcBIG YUScBUKYcCAUDATE CHRIV
IcCHRIVIcDJERVIcDOBROcDZELOcFITAcFRITUcGLAGOLIcHERUcIcINITIAL IZHEcIOTATED dBIG YUSdSMALL YUScIZHE
cIZHITSAcKAKOcLATINATE MYSLITEcLJUDIJEcMYSLITEcNASHIcONUcOTUcPEcPOKOJIcRITSIcSHAcSHTAcSHTAPICcSLOV
OcSMALL dYUSdYUS WITH TAILcSPIDERY HAcTROKUTASTI AcTSIcTVRIDOcUKUcVEDEcYATIcYERIcYERUcYESTUcYOcYUc
ZEMLJAcZHIVETEbSMALL LETTER cAZUcBIG YUScBUKYcCAUDATE CHRIVIcCHRIVIcDJERVIcDOBROcDZELOcFITAcFRITUc
GLAGOLIcHERUcIcINITIAL IZHEcIOTATED dBIG YUSdSMALL YUScIZHEcIZHITSAcKAKOcLATINATE MYSLITEcLJUDIJEc
MYSLITEcNASHIcONUcOTUcPEcPOKOJIcRITSIcSHAcSHTAcSHTAPICcSLOVOcSMALL dYUSdYUS WITH TAILcSPIDERY HAcT
ROKUTASTI AcTSIcTVRIDOcUKUcVEDEcYATIcYERIcYERUcYESTUcYOcYUcZEMLJAcZHIVETEaGLASS OF MILKaGLEICH STA
RKaGLOBE WITH MERIDIANSaGLOVESaGLOWING STARaGOAL NETaGOATaGOGGLESaGOLFERaGORILLAaGOTHIC LETTER bAH
SAbAIHVUSbBAIRKANbDAGSbEISbFAIHUbGIBAbHAGLbHWAIRbIGGWSbIUJAbJERbKUSMAbLAGUSbMANNAbNAUTHSbNINE HUND
REDbNINETYbOTHALbPAIRTHRAbQAIRTHRAbRAIDAbSAUILbTEIWSbTHIUTHbURUSbWINJAaGRADUATION CAPaGRANTHA bA
U LENGTH MARKbLETTER cAcAAcAIcAUcBAcBHAcCAcCHAcDAcDDAcDDHAcDHAcEEcGAcGHAcHAcIcIIcJAcJHAcKAcKHAcLAc
LLAcMAcNAcNGAcNNAcNYAcOOcPAcPHAcRAcSAcSHAcSSAcTAcTHAcTTAcTTHAcUcUUcVAcVEDIC dANUSVARAdDOUBLE ANUSV
ARAcVOCALIC dLdLLdRdRRcYAbOMbSIGN cANUSVARAcAVAGRAHAcCANDRABINDUcCOMBINING ANUSVARA ABOVEcNUKTAcPL
UTAcVIRAMAcVISARGAbVOWEL SIGN cAAcAIcAUcEEcIcIIcOOcUcUUcVOCALIC dLdLLdRdRRaGRAPESaGRAVE ACCENTaGRE
ATER-THAN bABOVE cDOUBLE-LINE EQUAL ABOVE LESS-THANcLESS-THAN ABOVE DOUBLE-LINE EQUALcRIGHTWARDS A
RROWcSIMILAR dABOVE LESS-THANdOR EQUALcSLANTED EQUAL ABOVE LESS-THAN ABOVE SLANTED EQUALbAND cNO
T APPROXIMATEcSINGLE-LINE NOT EQUAL TObBESIDE LESS-THANbBUT NOT cEQUAL TOcEQUIVALENT TObCLOSED B
Y cCURVEcCURVE ABOVE SLANTED EQUALbEQUAL TO OR LESS-THANbOR cAPPROXIMATEcEQUAL TOcEQUIVALENT TOcLE
SS-THANcSLANTED EQUAL dTOdTO WITH DOT eABOVEeABOVE LEFTeINSIDEbOVER EQUAL TObOVERLAPPING LESS-THAN
bSIGNbWITH cCIRCLE INSIDEcDOTcQUESTION MARK ABOVEaGREEK bACROPHONIC cATTIC dFIFTYdFIFTY eSTATERSeT
ALENTSeTHOUSANDeTHOUSAND STATERSdFIVEdFIVE eHUNDREDeHUNDRED fSTATERSfTALENTSeSTATERSeTALENTSeTHOUS
ANDeTHOUSAND TALENTSdONE eDRACHMAeHALFeHUNDRED fSTATERSfTALENTSeQUARTEReTHOUSAND fSTATERSfTALENTSd
TEN eMNASeSTATERSeTALENTSeTHOUSAND STATERScCARYSTIAN FIVE HUNDREDcCYRENAIC TWO DRACHMAScDELPHIC FI
VE MNAScEPIDAUREAN dFIVE HUNDREDdTWOdTWO DRACHMAScHERAEUM ONE PLETHRONcHERMIONIAN dFIFTYdONEdTENcM
ESSENIAN TENcNAXIAN FIVE HUNDREDcSTRATIAN FIFTY MNAScTHESPIAN dFIFTYdFIVE eHUNDREDeTHOUSANDdONEdON
E eHUNDREDeTHOUSANDdTENdTHIRTYdTHREE HUNDREDdTWOcTROEZENIAN dFIFTYdFIFTY ALTERNATE FORMdFIVEdFIV
E HUNDREDdTENdTEN ALTERNATE FORMbANO TELEIAbAROURA SIGNbARTABE SIGNbBETA SYMBOLbCAPITAL cDOTTED LU
NATE SIGMA SYMBOLcKAI SYMBOLcLETTER dALPHAdALPHA WITH eDASIAeDASIA AND fOXIAfOXIA AND PROSGEGRAMME
NIfPERISPOMENIfPERISPOMENI AND PROSGEGRAMMENIfPROSGEGRAMMENIfVARIAfVARIA AND PROSGEGRAMMENIeMACRON
eOXIAePROSGEGRAMMENIePSILIePSILI AND fOXIAfOXIA AND PROSGEGRAMMENIfPERISPOMENIfPERISPOMENI AND PRO
SGEGRAMMENIfPROSGEGRAMMENIfVARIAfVARIA AND PROSGEGRAMMENIeTONOSeVARIAeVRACHYdARCHAIC SAMPIdBETAdCH
IdDELTAdEPSILONdEPSILON WITH eDASIAeDASIA AND fOXIAfVARIAeOXIAePSILIePSILI AND fOXIAfVARIAeTONOSeV
ARIAdETAdETA WITH eDASIAeDASIA AND fOXIAfOXIA AND PROSGEGRAMMENIfPERISPOMENIfPERISPOMENI AND PROSG
EGRAMMENIfPROSGEGRAMMENIfVARIAfVARIA AND PROSGEGRAMMENIeOXIAePROSGEGRAMMENIePSILIePSILI AND fOXIAf
OXIA AND PROSGEGRAMMENIfPERISPOMENIfPERISPOMENI AND PROSGEGRAMMENIfPROSGEGRAMMENIfVARIAfVARIA AN
D PROSGEGRAMMENIeTONOSeVARIAdGAMMAdHETAdIOTAdIOTA WITH eDASIAeDASIA AND fOXIAfPERISPOMENIfVARIAeDI
ALYTIKAeMACRONeOXIAePSILIePSILI AND fOXIAfPERISPOMENIfVARIAeTONOSeVARIAeVRACHYdKAPPAdLAMDAdMUdNUdO
MEGAdOMEGA WITH eDASIAeDASIA AND fOXIAfOXIA AND PROSGEGRAMMENIfPERISPOMENIfPERISPOMENI AND PROSGEG
RAMMENIfPROSGEGRAMMENIfVARIAfVARIA AND PROSGEGRAMMENIeOXIAePROSGEGRAMMENIePSILIePSILI AND fOXIAfOX
IA AND PROSGEGRAMMENIfPERISPOMENIfPERISPOMENI AND PROSGEGRAMMENIfPROSGEGRAMMENIfVARIAfVARIA AND PR
OSGEGRAMMENIeTONOSeVARIAdOMICRONdOMICRON WITH eDASIAeDASIA AND fOXIAfVARIAeOXIAePSILIePSILI AND fO
XIAfVARIAeTONOSeVARIAdPAMPHYLIAN DIGAMMAdPHIdPIdPSIdRHOdRHO WITH DASIAdSANdSHOdSIGMAdTAUdTHETAdUPS
ILONdUPSILON WITH eDASIAeDASIA AND fOXIAfPERISPOMENIfVARIAeDIALYTIKAeMACRONeOXIAeTONOSeVARIAeVRACH
YdXIdYOTdZETAcLUNATE SIGMA SYMBOLcREVERSED dDOTTED LUNATE SIGMA SYMBOLdLUNATE SIGMA SYMBOLcTHETA S
YMBOLbDASIAbDASIA AND cOXIAcPERISPOMENIcVARIAbDIALYTIKA cAND dOXIAdPERISPOMENIdVARIAcTONOSbDRACHM
A SIGNbFIVE OBOLS SIGNbFOUR OBOLS SIGNbGRAMMA SIGNbINDICTION SIGNbINSTRUMENTAL NOTATION SYMBOL-c1c
11c12c13c14c17c18c19c2c23c24c25c26c27c29c30c32c36c37c38c39c4c40c42c43c45c47c48c49c5c50c51c52c53c54
c7c8bKAI SYMBOLbKAPPA SYMBOLbKORONISbKYATHOS BASE SIGNbLETTER cARCHAIC KOPPAcDIGAMMAcKOPPAcSAMPIcS
MALL CAPITAL dGAMMAdLAMDAdOMEGAdPIdPSIdRHOcSTIGMAcYOTbLITRA SIGNbLOWER NUMERAL SIGNbLUNATE cEPSILO
N SYMBOLcSIGMA SYMBOLbMETRETES SIGNbMUSICAL LEIMMAbNUMERAL SIGNbOBOL SIGNbONE cHALF dSIGNdSIGN ALT
ERNATE FORMcQUARTER SIGNbOUNKIA SIGNbOXIAbPERISPOMENIbPHI SYMBOLbPI SYMBOLbPROSGEGRAMMENIbPSILIbPS
ILI AND cOXIAcPERISPOMENIcVARIAbQUESTION MARKbREVERSED LUNATE EPSILON SYMBOLbRHO cSYMBOLcWITH STRO
KE SYMBOLbSINUSOID SIGNbSMALL cDOTTED LUNATE SIGMA SYMBOLcLETTER dALPHAdALPHA WITH eDASIAeDASIA AN
D fOXIAfOXIA AND YPOGEGRAMMENIfPERISPOMENIfPERISPOMENI AND YPOGEGRAMMENIfVARIAfVARIA AND YPOGEGRAM
MENIfYPOGEGRAMMENIeMACRONeOXIAeOXIA AND YPOGEGRAMMENIePERISPOMENIePERISPOMENI AND YPOGEGRAMMENIePS
ILIePSILI AND fOXIAfOXIA AND YPOGEGRAMMENIfPERISPOMENIfPERISPOMENI AND YPOGEGRAMMENIfVARIAfVARIA A
ND YPOGEGRAMMENIfYPOGEGRAMMENIeTONOSeVARIAeVARIA AND YPOGEGRAMMENIeVRACHYeYPOGEGRAMMENIdARCHAIC eK
OPPAeSAMPIdBETAdCHIdDELTAdDIGAMMAdEPSILONdEPSILON WITH eDASIAeDASIA AND fOXIAfVARIAeOXIAePSILIePSI
LI AND fOXIAfVARIAeTONOSeVARIAdETAdETA WITH eDASIAeDASIA AND fOXIAfOXIA AND YPOGEGRAMMENIfPERISPOM
ENIfPERISPOMENI AND YPOGEGRAMMENIfVARIAfVARIA AND YPOGEGRAMMENIfYPOGEGRAMMENIeOXIAeOXIA AND YPOGEG
RAMMENIePERISPOMENIePERISPOMENI AND YPOGEGRAMMENIePSILIePSILI AND fOXIAfOXIA AND YPOGEGRAMMENIfPER
ISPOMENIfPERISPOMENI AND YPOGEGRAMMENIfVARIAfVARIA AND YPOGEGRAMMENIfYPOGEGRAMMENIeTONOSeVARIAeVAR
IA AND YPOGEGRAMMENIeYPOGEGRAMMENIdFINAL SIGMAdGAMMAdHETAdIOTAdIOTA WITH eDASIAeDASIA AND fOXIAfPE
RISPOMENIfVARIAeDIALYTIKAeDIALYTIKA AND fOXIAfPERISPOMENIfTONOSfVARIAeMACRONeOXIAePERISPOMENIePSIL
IePSILI AND fOXIAfPERISPOMENIfVARIAeTONOSeVARIAeVRACHYdKAPPAdKOPPAdLAMDAdMUdNUdOMEGAdOMEGA WITH eD
ASIAeDASIA AND fOXIAfOXIA AND YPOGEGRAMMENIfPERISPOMENIfPERISPOMENI AND YPOGEGRAMMENIfVARIAfVARI
A AND YPOGEGRAMMENIfYPOGEGRAMMENIeOXIAeOXIA AND YPOGEGRAMMENIePERISPOMENIePERISPOMENI AND YPOGEGRA
MMENIePSILIePSILI AND fOXIAfOXIA AND YPOGEGRAMMENIfPERISPOMENIfPERISPOMENI AND YPOGEGRAMMENIfVARIA
fVARIA AND YPOGEGRAMMENIfYPOGEGRAMMENIeTONOSeVARIAeVARIA AND YPOGEGRAMMENIeYPOGEGRAMMENIdOMICRONdO
MICRON WITH eDASIAeDASIA AND fOXIAfVARIAeOXIAePSILIePSILI AND fOXIAfVARIAeTONOSeVARIAdPAMPHYLIAN D
IGAMMAdPHIdPIdPSIdRHOdRHO WITH eDASIAePSILIdSAMPIdSANdSHOdSIGMAdSTIGMAdTAUdTHETAdUPSILONdUPSILON W
ITH eDASIAeDASIA AND fOXIAfPERISPOMENIfVARIAeDIALYTIKAeDIALYTIKA AND fOXIAfPERISPOMENIfTONOSfVARIA
eMACRONeOXIAePERISPOMENIePSILIePSILI AND fOXIAfPERISPOMENIfVARIAeTONOSeVARIAeVRACHYdXIdZETAcREVERS
ED dDOTTED LUNATE SIGMA SYMBOLdLUNATE SIGMA SYMBOLbSUBSCRIPT SMALL LETTER cBETAcCHIcGAMMAcPHIcRHOb
SYMBOL TAU RHObTALENT SIGNbTHETA SYMBOLbTHREE cOBOLS SIGNcQUARTERS SIGNbTONOSbTRYBLION BASE SIGNbT
WO cOBOLS SIGNcTHIRDS SIGNbUPSILON WITH cACUTE AND HOOK SYMBOLcDIAERESIS AND HOOK SYMBOLcHOOK SYMB
OLbVARIAbVOCAL NOTATION SYMBOL-c1c10c11c12c13c14c15c16c17c18c19c2c20c21c22c23c24c3c4c5c50c51c52c53
c54c6c7c8c9bXESTES SIGNbYEAR SIGNbYPOGEGRAMMENIbZERO SIGNaGREEN bAPPLEbBOOKbHEARTbSALADaGRIMACIN
G FACEaGRINNING bCAT FACE WITH SMILING EYESbFACEbFACE WITH cONE LARGE AND ONE SMALL EYEcSMILING EY
EScSTAR EYESaGROUP bMARKbSEPARATORaGROWING HEARTaGSaGUARANI SIGNaGUARDSMANaGUIDE DOGaGUITARaGUJARA
TI bABBREVIATION SIGNbDIGIT cEIGHTcFIVEcFOURcNINEcONEcSEVENcSIXcTHREEcTWOcZERObLETTER cAcAAcAIcAUc
BAcBHAcCAcCHAcDAcDDAcDDHAcDHAcEcGAcGHAcHAcIcIIcJAcJHAcKAcKHAcLAcLLAcMAcNAcNGAcNNAcNYAcOcPAcPHAcRAc
SAcSHAcSSAcTAcTHAcTTAcTTHAcUcUUcVAcVOCALIC dLdLLdRdRRcYAcZHAbOMbRUPEE SIGNbSIGN cANUSVARAcAVAGRAHA
cCANDRABINDUcCIRCLE NUKTA ABOVEcMADDAHcNUKTAcSHADDAcSUKUNcTHREE-DOT NUKTA ABOVEcTWO-CIRCLE NUKTA A
BOVEcVIRAMAcVISARGAbVOWEL cCANDRA dEdOcSIGN dAAdAIdAUdCANDRA eEeOdEdIdIIdOdUdUUdVOCALIC eLeLLeReRR
aGUNJALA GONDI bDIGIT cEIGHTcFIVEcFOURcNINEcONEcSEVENcSIXcTHREEcTWOcZERObLETTER cAcAAcAIcAUcBAcBHA
cCAcCHAcDAcDDAcDDHAcDHAcEEcGAcGHAcHAcIcIIcJAcJHAcKAcKHAcLAcLLAcMAcNAcNGAcOOcPAcPHAcRAcSAcTAcTHAcTT
AcTTHAcUcUUcVAcYAbOMbSIGN cANUSVARAcVISARGAbVIRAMAbVOWEL SIGN cAAcAIcAUcEEcIcIIcOOcUcUUaGURMUKHI b
ABBREVIATION SIGNbADDAKbDIGIT cEIGHTcFIVEcFOURcNINEcONEcSEVENcSIXcTHREEcTWOcZERObEK ONKARbIRIbLETT
ER cAcAAcAIcAUcBAcBHAcCAcCHAcDAcDDAcDDHAcDHAcEEcFAcGAcGHAcGHHAcHAcIcIIcJAcJHAcKAcKHAcKHHAcLAcLLAcM
AcNAcNGAcNNAcNYAcOOcPAcPHAcRAcRRAcSAcSHAcTAcTHAcTTAcTTHAcUcUUcVAcYAcZAbSIGN cADAK BINDIcBINDIcNUKT
AcUDAATcVIRAMAcVISARGAcYAKASHbTIPPIbURAbVOWEL SIGN cAAcAIcAUcEEcIcIIcOOcUcUUaHADESaHAIR SPACEaHAIR
CUTaHALFWIDTH bBLACK SQUAREbDOWNWARDS ARROWbFORMS LIGHT VERTICALbHANGUL cFILLERcLETTER dAdAEdCHIEU
CHdCIEUCdEdEOdEUdHIEUHdIdIEUNGdKHIEUKHdKIYEOKdKIYEOK-SIOSdMIEUMdNIEUNdNIEUN-eCIEUCeHIEUHdOdOEdPHIE
UPHdPIEUPdPIEUP-SIOSdRIEULdRIEUL-eHIEUHeKIYEOKeMIEUMePHIEUPHePIEUPeSIOSeTHIEUTHdSIOSdSSANGCIEUCdSS
ANGKIYEOKdSSANGPIEUPdSSANGSIOSdSSANGTIKEUTdTHIEUTHdTIKEUTdUdWAdWAEdWEdWEOdWIdYAdYAEdYEdYEOdYIdYOdY
UbIDEOGRAPHIC cCOMMAcFULL STOPbKATAKANA cLETTER dAdEdHAdHEdHIdHOdHUdIdKAdKEdKIdKOdKUdMAdMEdMIdMOdM
UdNdNAdNEdNIdNOdNUdOdRAdREdRIdROdRUdSAdSEdSIdSMALL eAeEeIeOeTUeUeYAeYOeYUdSOdSUdTAdTEdTIdTOdTUdUdW
AdWOdYAdYOdYUcMIDDLE DOTcSEMI-VOICED SOUND MARKcVOICED SOUND MARKbKATAKANA-HIRAGANA PROLONGED SOUN
D MARKbLEFT CORNER BRACKETbLEFTWARDS ARROWbRIGHT CORNER BRACKETbRIGHTWARDS ARROWbUPWARDS ARROWbWHI
TE CIRCLEaHAMBURGERaHAMMERaHAMMER AND bPICKbSICKLEbWRENCHaHAMSAaHAMSTER FACEaHAND WITH INDEX bAN
D MIDDLE FINGERS CROSSEDbFINGER AND THUMB CROSSEDaHANDBAGaHANDBALLaHANDSHAKEaHANGUL bCHOSEONG cCEO
NGCHIEUMCHIEUCHcCEONGCHIEUMCIEUCcCEONGCHIEUMSIOScCEONGCHIEUMSSANGCIEUCcCEONGCHIEUMSSANGSIOScCHIEUC
HcCHIEUCH-dHIEUHdKHIEUKHcCHITUEUMCHIEUCHcCHITUEUMCIEUCcCHITUEUMSIOScCHITUEUMSSANGCIEUCcCHITUEUMSSA
NGSIOScCIEUCcCIEUC-IEUNGcFILLERcHIEUHcHIEUH-SIOScIEUNGcIEUNG-dCHIEUCHdCIEUCdHIEUHdKIYEOKdMIEUMdPAN
SIOSdPHIEUPHdPIEUPdRIEULdSIOSdTHIEUTHdTIKEUTcKAPYEOUNMIEUMcKAPYEOUNPHIEUPHcKAPYEOUNPIEUPcKAPYEOUNR
IEULcKAPYEOUNSSANGPIEUPcKHIEUKHcKIYEOKcKIYEOK-TIKEUTcMIEUMcMIEUM-dKIYEOKdPIEUPdSIOSdTIKEUTcNIEUNcN
IEUN-dCIEUCdHIEUHdKIYEOKdPIEUPdSIOSdTIKEUTcPANSIOScPHIEUPHcPHIEUPH-dHIEUHdPIEUPcPIEUPcPIEUP-dCHIEU
CHdCIEUCdHIEUHdKHIEUKHdKIYEOKdNIEUNdPHIEUPHdSIOSdSIOS-eCIEUCeKIYEOKePIEUPeTHIEUTHeTIKEUTdSSANGSIOS
dTHIEUTHdTIKEUTcRIEULcRIEUL-dCIEUCdHIEUHdKAPYEOUNPIEUPdKHIEUKHdKIYEOKdMIEUMdNIEUNdPIEUPdSIOSdSSANG
KIYEOKdSSANGPIEUPdSSANGTIKEUTdTIKEUTcSIOScSIOS-dCHIEUCHdCIEUCdHIEUHdIEUNGdKHIEUKHdKIYEOKdMIEUMdNIE
UNdPHIEUPHdPIEUPdPIEUP-KIYEOKdRIEULdSSANGSIOSdTHIEUTHdTIKEUTcSSANGCIEUCcSSANGCIEUC-HIEUHcSSANGHIEU
HcSSANGIEUNGcSSANGKIYEOKcSSANGNIEUNcSSANGPIEUPcSSANGRIEULcSSANGSIOScSSANGSIOS-PIEUPcSSANGTHIEUTHcS
SANGTIKEUTcSSANGYEORINHIEUHcTHIEUTHcTIKEUTcTIKEUT-dCIEUCdKIYEOKdMIEUMdPIEUPdRIEULdSIOScYEORINHIEUH
cYESIEUNGbDOUBLE DOT TONE MARKbFILLERbJONGSEONG cCHIEUCHcCIEUCcCIEUC-dPIEUPdSSANGPIEUPcHIEUHcHIEUH
-dMIEUMdNIEUNdPIEUPdRIEULcIEUNGcIEUNG-dKHIEUKHdKIYEOKdSSANGKIYEOKcKAPYEOUNMIEUMcKAPYEOUNPHIEUPHcKA
PYEOUNPIEUPcKAPYEOUNRIEULcKHIEUKHcKIYEOKcKIYEOK-dCHIEUCHdHIEUHdKHIEUKHdNIEUNdPIEUPdRIEULdSIOSdSIOS
-KIYEOKcMIEUMcMIEUM-dCHIEUCHdCIEUCdHIEUHdKIYEOKdNIEUNdPANSIOSdPIEUPdPIEUP-SIOSdRIEULdSIOSdSSANGNIE
UNdSSANGSIOScNIEUNcNIEUN-dCHIEUCHdCIEUCdHIEUHdKIYEOKdPANSIOSdRIEULdSIOSdTHIEUTHdTIKEUTcPANSIOScPAN
SIOS-dKAPYEOUNPIEUPdPIEUPcPHIEUPHcPHIEUPH-dPIEUPdSIOSdTHIEUTHcPIEUPcPIEUP-dCHIEUCHdCIEUCdHIEUHdMIE
UMdPHIEUPHdRIEULdRIEUL-PHIEUPHdSIOSdSIOS-TIKEUTdTIKEUTcRIEULcRIEUL-dHIEUHdKAPYEOUNPIEUPdKHIEUKHdKI
YEOKdKIYEOK-eHIEUHeSIOSdMIEUMdMIEUM-eHIEUHeKIYEOKeSIOSdNIEUNdPANSIOSdPHIEUPHdPIEUPdPIEUP-eHIEUHePH
IEUPHeSIOSeTIKEUTdSIOSdSSANGKIYEOKdSSANGSIOSdTHIEUTHdTIKEUTdTIKEUT-HIEUHdYEORINHIEUHdYEORINHIEUH-H
IEUHdYESIEUNGcSIOScSIOS-dCHIEUCHdCIEUCdHIEUHdKAPYEOUNPIEUPdKIYEOKdMIEUMdPANSIOSdPIEUPdRIEULdTHIEUT
HdTIKEUTcSSANGCIEUCcSSANGIEUNGcSSANGKIYEOKcSSANGMIEUMcSSANGNIEUNcSSANGPIEUPcSSANGRIEULcSSANGRIEUL-
KHIEUKHcSSANGSIOScSSANGSIOS-dKIYEOKdTIKEUTcSSANGTIKEUTcSSANGTIKEUT-PIEUPcSSANGYESIEUNGcTHIEUTHcTIK
EUTcTIKEUT-dCHIEUCHdCIEUCdKIYEOKdPIEUPdRIEULdSIOSdSIOS-KIYEOKdTHIEUTHcYEORINHIEUHcYESIEUNGcYESIEUN
G-dHIEUHdKHIEUKHdKIYEOKdMIEUMdPANSIOSdSIOSdSSANGKIYEOKbJUNGSEONG cAcA-dEUdOdUcAEcARAEAcARAEA-dAdEd
EOdIdUcEcEOcEO-dEUdOdUcEUcEU-dAdEdEOdEUdOdUcFILLERcIcI-dAdARAEAdEUdIdOdO-IdUdYAdYA-OdYAEdYEdYEOdYO
dYUcOcO-dEdEOdOdO-IdUdYAdYAEdYEdYEOcOEcSSANGARAEAcUcU-dAdAEdEO-EUdI-IdUdYEdYEOcWAcWAEcWEcWEOcWIcYA
cYA-dOdUdYOcYAEcYEcYEOcYEO-dOdUdYAcYIcYI-UcYOcYO-dAdAEdEOdIdOdYAdYAEdYEOcYUcYU-dAdAEdEdEOdIdOdUdYE
dYEObLETTER cAcAEcARAEAcARAEAEcCHIEUCHcCIEUCcEcEOcEUcHIEUHcIcIEUNGcKAPYEOUNMIEUMcKAPYEOUNPHIEUPHcK
APYEOUNPIEUPcKAPYEOUNSSANGPIEUPcKHIEUKHcKIYEOKcKIYEOK-SIOScMIEUMcMIEUM-dPANSIOSdPIEUPdSIOScNIEUNcN
IEUN-dCIEUCdHIEUHdPANSIOSdSIOSdTIKEUTcOcOEcPANSIOScPHIEUPHcPIEUPcPIEUP-dCIEUCdKIYEOKdSIOSdSIOS-eKI
YEOKeTIKEUTdTHIEUTHdTIKEUTcRIEULcRIEUL-dHIEUHdKIYEOKdKIYEOK-SIOSdMIEUMdPANSIOSdPHIEUPHdPIEUPdPIEUP
-SIOSdSIOSdTHIEUTHdTIKEUTdYEORINHIEUHcSIOScSIOS-dCIEUCdKIYEOKdNIEUNdPIEUPdTIKEUTcSSANGCIEUCcSSANGH
IEUHcSSANGIEUNGcSSANGKIYEOKcSSANGNIEUNcSSANGPIEUPcSSANGSIOScSSANGTIKEUTcTHIEUTHcTIKEUTcUcWAcWAEcWE
cWEOcWIcYAcYAEcYEcYEOcYEORINHIEUHcYESIEUNGcYESIEUNG-dPANSIOSdSIOScYIcYOcYO-dIdYAdYAEcYUcYU-dIdYEdY
EObSINGLE DOT TONE MARKaHANGZHOU NUMERAL bEIGHTbFIVEbFOURbNINEbONEbSEVENbSIXbTENbTHIRTYbTHREEbTWEN
TYbTWOaHANIFI ROHINGYA bDIGIT cEIGHTcFIVEcFOURcNINEcONEcSEVENcSIXcTHREEcTWOcZERObLETTER cAcBAcCAcD
AcDDAcFAcGAcHAcJAcKAcKHAcKINNA dWAdYAcLAcMAcNAcNGAcNYAcPAcRAcRRAcSAcSHAcTAcTTAcVAcWAcYAcZAbMARK cN
A KHONNAcSAKINbSIGN cHARBAHAYcTAHALAcTANAcTASSIbVOWEL cAcEcIcOcUaHANUNOO bLETTER cAcBAcDAcGAcHAcIc
KAcLAcMAcNAcNGAcPAcRAcSAcTAcUcWAcYAbSIGN PAMUDPODbVOWEL SIGN cIcUaHAPPY PERSON RAISING ONE HANDaHA
RD DISKaHATCHING CHICKaHATRAN bLETTER cALEPHcAYNcBETHcDALETH-RESHcGIMELcHEcHETHcKAPHcLAMEDHcMEMcNU
NcPEcQOPHcSADHEcSAMEKHcSHINcTAWcTETHcWAWcYODHcZAYNbNUMBER cFIVEcONEcONE HUNDREDcTENcTWENTYaHEADPHO
NEaHEADSTONEaHEADSTONE GRAVEYARD SYMBOLaHEAR-NO-EVIL MONKEYaHEART bDECORATIONbHANDSbWITH cARROWcRI
BBONcTIP ON THE LEFTaHEAVY bAMPERSAND ORNAMENTbARROW SHAFT WIDTH cONEcONE dHALFdTHIRDcTWO THIRDSbA
STERISKbBALLOT XbBLACK cCURVED dDOWNWARDS AND RIGHTWARDS ARROWdUPWARDS AND RIGHTWARDS ARROWcHEARTb
BLACK-FEATHERED cNORTH EAST ARROWcRIGHTWARDS ARROWcSOUTH EAST ARROWbCHECK MARKbCHEVRON SNOWFLAKEbC
IRCLEbCIRCLE WITH cCIRCLE INSIDEcSTROKE AND TWO DOTS ABOVEbCIRCLED SALTIREbCONCAVE-POINTED BLACK R
IGHTWARDS ARROWbDASHED TRIANGLE-HEADED RIGHTWARDS ARROWbDIVISION SIGNbDOLLAR SIGNbDOUBLE cCOMMA QU
OTATION MARK ORNAMENTcTURNED COMMA QUOTATION MARK ORNAMENTbDOWNWARDS ARROW WITH cEQUILATERAL ARROW
HEADcLARGE EQUILATERAL ARROWHEADbEIGHT cPOINTED dBLACK STARdPINWHEEL STARdRECTILINEAR BLACK STARcS
POKED ASTERISKcTEARDROP-SPOKED PROPELLER ASTERISKbEQUALS SIGNbEXCLAMATION MARK cORNAMENTcSYMBOLbFI
VE cPOINTED BLACK STARcSPOKED ASTERISKbFOUR BALLOON-SPOKED ASTERISKbGREEK CROSSbHEART EXCLAMATIO
N MARK ORNAMENTbHORIZONTAL FILLbINTERROBANG ORNAMENTbLARGE CIRCLEbLATIN CROSSbLEFT-POINTING ANGL
E cBRACKET ORNAMENTcQUOTATION MARK ORNAMENTbLEFTWARDS ARROW WITH cEQUILATERAL ARROWHEADcLARGE EQUI
LATERAL ARROWHEADbLIGATURE OPEN ET ORNAMENTbLOW cDOUBLE COMMA QUOTATION MARK ORNAMENTcSINGLE COMM
A QUOTATION MARK ORNAMENTbLOWER RIGHT-SHADOWED WHITE RIGHTWARDS ARROWbMINUS SIGNbMULTIPLICATION Xb
NORTH cEAST dARROWdPOINTING eBUDeVINE LEAFcWEST POINTING dBUDdVINE LEAFbOPEN CENTRE CROSSbOUTLINE
D BLACK STARbOVAL WITH OVAL INSIDEbPLUS SIGNbRIGHT-POINTING ANGLE cBRACKET ORNAMENTcQUOTATION MAR
K ORNAMENTbRIGHTWARDS cARROWcARROW WITH dEQUILATERAL ARROWHEADdLARGE EQUILATERAL ARROWHEADbROUND-T
IPPED RIGHTWARDS ARROWbSALTIREbSANS-SERIF INTERROBANG ORNAMENTbSCRIPT LIGATURE ET ORNAMENTbSINGL
E cCOMMA QUOTATION MARK ORNAMENTcTURNED COMMA QUOTATION MARK ORNAMENTbSIX cPOINTED BLACK STARcSPOK
ED ASTERISKbSOUTH cEAST dARROWdPOINTING eBUDeVINE LEAFcWEST POINTING dBUDdVINE LEAFbSPARKLEbTEARDR
OP-cSHANKED RIGHTWARDS ARROWcSPOKED dASTERISKdPINWHEEL ASTERISKbTRIANGLE-HEADED RIGHTWARDS ARROWbT
WELVE POINTED cBLACK STARcPINWHEEL STARbUPPER RIGHT-SHADOWED WHITE RIGHTWARDS ARROWbUPWARDS ARRO
W WITH cEQUILATERAL ARROWHEADcLARGE EQUILATERAL ARROWHEADbVERTICAL BARbWEDGE-TAILED RIGHTWARDS ARR
OWbWHITE cCIRCLEcDOWN-POINTING TRIANGLEcSQUAREbWIDE-HEADED RIGHTWARDS ARROWaHEBREW bACCENT cATNA
H HAFUKHcDARGAcDEHIcETNAHTAcGERESHcGERESH MUQDAMcGERSHAYIMcILUYcMAHAPAKHcMERKHAcMERKHA KEFULAcMUNA
HcOLEcPASHTAcPAZERcQADMAcQARNEY PARAcREVIAcSEGOLcSHALSHELETcTELISHA dGEDOLAdQETANAcTEVIRcTIPEHAcYE
RAH BEN YOMOcYETIVcZAQEF dGADOLdQATANcZARQAcZINORbLETTER cALEFcALEF WITH dMAPIQdPATAHdQAMATScALTER
NATIVE dAYINdPLUS SIGNcAYINcBETcBET WITH dDAGESHdRAFEcDALETcDALET WITH DAGESHcFINAL dKAFdKAF WIT
H DAGESHdMEMdNUNdPEdPE WITH DAGESHdTSADIcGIMELcGIMEL WITH DAGESHcHEcHE WITH MAPIQcHETcKAFcKAF WIT
H dDAGESHdRAFEcLAMEDcLAMED WITH DAGESHcMEMcMEM WITH DAGESHcNUNcNUN WITH DAGESHcPEcPE WITH dDAGESHd
RAFEcQOFcQOF WITH DAGESHcRESHcRESH WITH DAGESHcSAMEKHcSAMEKH WITH DAGESHcSHINcSHIN WITH dDAGESHdDA
GESH AND eSHIN DOTeSIN DOTdSHIN DOTdSIN DOTcTAVcTAV WITH DAGESHcTETcTET WITH DAGESHcTSADIcTSADI WI
TH DAGESHcVAVcVAV WITH dDAGESHdHOLAMcWIDE dALEFdDALETdFINAL MEMdHEdKAFdLAMEDdRESHdTAVcYODcYOD WIT
H dDAGESHdHIRIQcZAYINcZAYIN WITH DAGESHbLIGATURE cALEF LAMEDcYIDDISH dDOUBLE eVAVeYODdVAV YODdYO
D YOD PATAHbMARK cLOWER DOTcMASORA CIRCLEcUPPER DOTbPOINT cDAGESH OR MAPIQcHATAF dPATAHdQAMATSdSEG
OLcHIRIQcHOLAMcHOLAM HASER FOR VAVcJUDEO-SPANISH VARIKAcMETEGcPATAHcQAMATScQAMATS QATANcQUBUTScRAF
EcSEGOLcSHEVAcSHIN DOTcSIN DOTcTSEREbPUNCTUATION cGERESHcGERSHAYIMcMAQAFcNUN HAFUKHAcPASEQcSOF PAS
UQbYOD TRIANGLEaHEDGEHOGaHELICOPTERaHELLSCHREIBER PAUSE SYMBOLaHELM SYMBOLaHELMET WITH WHITE CROSS
aHENTAIGANA LETTER bA-c1c2c3cWObE-c1c2c3c4c5c6bHA-c1c10c11c2c3c4c5c6c7c8c9bHE-c1c2c3c4c5c6c7bHI-c1
c2c3c4c5c6c7bHO-c1c2c3c4c5c6c7c8bHU-c1c2c3bI-c1c2c3c4bKA-c1c10c11c2c3c4c5c6c7c8c9cKEbKE-c1c2c3c4c5
c6bKI-c1c2c3c4c5c6c7c8bKO-c1c2c3cKIbKU-c1c2c3c4c5c6c7bMA-c1c2c3c4c5c6c7bME-c1c2cMAbMI-c1c2c3c4c5c6
c7bMO-c1c2c3c4c5c6bMU-c1c2c3c4bN-MU-MO-c1c2bNA-c1c2c3c4c5c6c7c8c9bNE-c1c2c3c4c5c6cKObNI-c1c2c3c4c5
c6c7cTEbNO-c1c2c3c4c5bNU-c1c2c3bO-c1c2c3bRA-c1c2c3c4bRE-c1c2c3c4bRI-c1c2c3c4c5c6c7bRO-c1c2c3c4c5c6
bRU-c1c2c3c4c5c6bSA-c1c2c3c4c5c6c7c8bSE-c1c2c3c4c5bSI-c1c2c3c4c5c6bSO-c1c2c3c4c5c6c7bSU-c1c2c3c4c5
c6c7c8bTA-c1c2c3c4bTE-c1c2c3c4c5c6c7c8c9bTI-c1c2c3c4c5c6c7bTO-c1c2c3c4c5c6cRAbTU-c1c2c3c4cTObU-c1c
2c3c4c5bWA-c1c2c3c4c5bWE-c1c2c3c4bWI-c1c2c3c4c5bWO-c1c2c3c4c5c6c7bYA-c1c2c3c4c5cYObYO-c1c2c3c4c5c6
bYU-c1c2c3c4aHERBaHERMITIAN CONJUGATE MATRIXaHEXAGRAM FOR bABUNDANCEbAFTER COMPLETIONbAPPROACHbBEF
ORE COMPLETIONbBITING THROUGHbBREAKTHROUGHbCOMING TO MEETbCONFLICTbCONTEMPLATIONbDARKENING OF TH
E LIGHTbDECREASEbDELIVERANCEbDEVELOPMENTbDIFFICULTY AT THE BEGINNINGbDISPERSIONbDURATIONbENTHUSIAS
MbFELLOWSHIPbFOLLOWINGbGATHERING TOGETHERbGRACEbGREAT cPOSSESSIONcPOWERcPREPONDERANCEcTAMINGbHOLDI
NG TOGETHERbINCREASEbINFLUENCEbINNER TRUTHbINNOCENCEbLIMITATIONbMODESTYbMOUTH CORNERSbOBSTRUCTIONb
OPPOSITIONbOPPRESSIONbPEACEbPROGRESSbPUSHING UPWARDbRETREATbRETURNbREVOLUTIONbSMALL cPREPONDERANCE
cTAMINGbSPLITTING APARTbSTANDSTILLbTHE cABYSMAL WATERcARMYcAROUSING THUNDERcCAULDRONcCLINGING FIRE
cCREATIVE HEAVENcFAMILYcGENTLE WINDcJOYOUS LAKEcKEEPING STILL MOUNTAINcMARRYING MAIDENcRECEPTIVE E
ARTHcWANDERERcWELLbTREADINGbWAITINGbWORK ON THE DECAYEDbYOUTHFUL FOLLYaHIBISCUSaHIGH bBRIGHTNESS S
YMBOLbOCTET PRESETbVOLTAGE SIGNaHIGH-bHEELED SHOEbSPEED cTRAINcTRAIN WITH BULLET NOSEaHIKING BOOTa
HINDU TEMPLEaHIPPOPOTAMUSaHIRAGANA bDIGRAPH YORIbITERATION MARKbLETTER cAcARCHAIC dWUdYEcBAcBEcBIc
BOcBUcDAcDEcDIcDOcDUcEcGAcGEcGIcGOcGUcHAcHEcHIcHOcHUcIcKAcKEcKIcKOcKUcMAcMEcMIcMOcMUcNcNAcNEcNIcNO
cNUcOcPAcPEcPIcPOcPUcRAcREcRIcROcRUcSAcSEcSIcSMALL dAdEdIdKAdKEdOdTUdUdWAdWEdWIdWOdYAdYOdYUcSOcSUc
TAcTEcTIcTOcTUcUcVUcWAcWEcWIcWOcYAcYOcYUcZAcZEcZIcZOcZUbVOICED ITERATION MARKaHISTORIC SITEaHOCHOa
HOLEaHOLLOW QUILT SQUARE bORNAMENTbORNAMENT IN BLACK SQUAREaHOMOTHETICaHONEY POTaHONEYBEEaHOOKaHOP
aHORIZONTAL bBARbBLACK cHEXAGONcOCTAGONbELLIPSISbLINE EXTENSIONbMALE WITH STROKE SIGNbONE EIGHTH B
LOCK-c1358c2c3c4c5c6c7bSCAN LINE-c1c3c7c9bTAB KEYbTABULATIONbTABULATION cSETcWITH JUSTIFICATIONbTR
AFFIC LIGHTaHORSEaHORSE bFACEbRACINGaHOSPITALaHOT bBEVERAGEbDOGbPEPPERbSPRINGSaHOTELaHOURGLASSaHOU
RGLASS WITH FLOWING SANDaHOUSEaHOUSE bBUILDINGbBUILDINGSbWITH GARDENaHRYVNIA SIGNaHTaHTJaHTSaHUGGI
NG FACEaHUNDRED POINTS SYMBOLaHUSHED FACEaHUTaHYGIEAaHYPHENaHYPHEN bBULLETbWITH DIAERESISaHYPHEN-M
INUSaHYPHENATION POINTaHYPODIASTOLEaHYSTERESIS SYMBOLaI LOVE YOU HAND SIGNaICE bCREAMbCUBEbHOCKE
Y STICK AND PUCKbSKATEaIDENTICAL bTObTO AND SLANTED PARALLELbWITH DOT ABOVEaIDENTIFICATION CARDaID
EOGRAPHIC bANNOTATION cBOTTOM MARKcEARTH MARKcFIRST MARKcFOUR MARKcFOURTH MARKcHEAVEN MARKcLINKIN
G MARKcMAN MARKcMIDDLE MARKcONE MARKcREVERSE MARKcSECOND MARKcTHIRD MARKcTHREE MARKcTOP MARKcTWO M
ARKbCLOSING MARKbCOMMAbDEPARTING TONE MARKbDESCRIPTION CHARACTER cABOVE TO dBELOWdMIDDLE AND BELOW
cFULL SURROUNDcLEFT TO dMIDDLE AND RIGHTdRIGHTcOVERLAIDcSURROUND FROM dABOVEdBELOWdLEFTdLOWER LEFT
dUPPER eLEFTeRIGHTbENTERING TONE MARKbFULL STOPbHALF FILL SPACEbITERATION MARKbLEVEL TONE MARKbNUM
BER ZERObRISING TONE MARKbSPACEbTALLY MARK cFIVEcFOURcONEcTHREEcTWObTELEGRAPH cLINE FEED SEPARATO
R SYMBOLcSYMBOL FOR dAPRILdAUGUSTdDAY eEIGHTeEIGHTEENeELEVENeFIFTEENeFIVEeFOUReFOURTEENeNINEeNINET
EENeONEeSEVENeSEVENTEENeSIXeSIXTEENeTENeTHIRTEENeTHIRTYeTHIRTY-ONEeTHREEeTWELVEeTWENTYeTWENTY-fEIG
HTfFIVEfFOURfNINEfONEfSEVENfSIXfTHREEfTWOeTWOdDECEMBERdFEBRUARYdHOUR eEIGHTeEIGHTEENeELEVENeFIFTEE
NeFIVEeFOUReFOURTEENeNINEeNINETEENeONEeSEVENeSEVENTEENeSIXeSIXTEENeTENeTHIRTEENeTHREEeTWELVEeTWENT
YeTWENTY-fFOURfONEfTHREEfTWOeTWOeZEROdJANUARYdJULYdJUNEdMARCHdMAYdNOVEMBERdOCTOBERdSEPTEMBERbVARIA
TION INDICATORaIMAGE bOFbOF OR APPROXIMATELY EQUAL TOaIMPaIMPERIAL ARAMAIC bLETTER cALEPHcAYINcBET
HcDALETHcGIMELcHEcHETHcKAPHcLAMEDHcMEMcNUNcPEcQOPHcRESHcSADHEcSAMEKHcSHINcTAWcTETHcWAWcYODHcZAYINb
NUMBER cONEcONE dHUNDREDdTHOUSANDcTENcTEN THOUSANDcTHREEcTWENTYcTWObSECTION SIGNaINBOX TRAYaINCOMI
NG ENVELOPEaINCOMPLETE INFINITYaINCREASE FONT SIZE SYMBOLaINCREASES ASaINCREMENTaINDaINDEXaINDEX P
OINTING AT THE VIEWERaINDIAN RUPEE SIGNaINDIC SIYAQ bALTERNATE LAKH MARKbFRACTION cONE dHALFdQUART
ERcTHREE QUARTERSbLAKH MARKbNUMBER cALTERNATE dONEdTEN THOUSANDdTWOcEIGHTcEIGHT dHUNDREDdTHOUSANDc
EIGHTYcEIGHTY THOUSANDcFIFTYcFIFTY THOUSANDcFIVEcFIVE dHUNDREDdTHOUSANDcFORTYcFORTY THOUSANDcFOURc
FOUR dHUNDREDdTHOUSANDcKARORcKARORANcLAKHcLAKHANcNINEcNINE dHUNDREDdTHOUSANDcNINETYcNINETY THOUSAN
DcONEcONE dHUNDREDdTHOUSANDcPREFIXED dEIGHTdFIVEdFOURdNINEdONEdSEVENdSIXdTHREEdTWOcSEVENcSEVEN dHU
NDREDdTHOUSANDcSEVENTYcSEVENTY THOUSANDcSIXcSIX dHUNDREDdTHOUSANDcSIXTYcSIXTY THOUSANDcTENcTEN THO
USANDcTHIRTYcTHIRTY THOUSANDcTHREEcTHREE dHUNDREDdTHOUSANDcTWENTYcTWENTY THOUSANDcTWOcTWO dHUNDRED
dTHOUSANDbPLACEHOLDERbRUPEE MARKaINFINITYaINFINITY NEGATED WITH VERTICAL BARaINFORMATION bDESK PER
SONbSEPARATOR cFOURcONEcTHREEcTWObSOURCEaINHIBIT bARABIC FORM SHAPINGbSYMMETRIC SWAPPINGaINPUT SYM
BOL FOR bLATIN cCAPITAL LETTERScLETTERScSMALL LETTERSbNUMBERSbSYMBOLSaINSCRIPTIONAL bPAHLAVI cLETT
ER dALEPHdBETHdDALETHdGIMELdHEdHETHdKAPHdLAMEDHdMEM-QOPHdNUNdPEdSADHEdSAMEKHdSHINdTAWdTETHdWAW-AYI
N-RESHdYODHdZAYINcNUMBER dFOURdONEdONE eHUNDREDeTHOUSANDdTENdTHREEdTWENTYdTWObPARTHIAN cLETTER dAL
EPHdAYINdBETHdDALETHdGIMELdHEdHETHdKAPHdLAMEDHdMEMdNUNdPEdQOPHdRESHdSADHEdSAMEKHdSHINdTAWdTETHdWAW
dYODHdZAYINcNUMBER dFOURdONEdONE eHUNDREDeTHOUSANDdTENdTHREEdTWENTYdTWOaINSERTION SYMBOLaINTEGRALa
INTEGRAL bAROUND A POINT OPERATORbAVERAGE WITH SLASHbEXTENSIONbWITH cDOUBLE STROKEcINTERSECTIONcLE
FTWARDS ARROW WITH HOOKcOVERBARcTIMES SIGNcUNDERBARcUNIONaINTERCALATEaINTERIOR PRODUCTaINTERLINEA
R ANNOTATION bANCHORbSEPARATORbTERMINATORaINTERLOCKED FEMALE AND MALE SIGNaINTERROBANGaINTERSECTIO
NaINTERSECTION bABOVE cBAR ABOVE UNIONcUNIONbBESIDE AND JOINED WITH INTERSECTIONbWITH cDOTcLOGICA
L ANDcOVERBARaINVERSE bBULLETbCHECK MARKbCHECKER BOARD FILLbDOWNWARDS ARROW WITH TIP LEFTWARDSbMED
IUM SHADEbWHITE CIRCLEaINVERTED bEXCLAMATION MARKbINTERROBANGbLAZY SbLOW cKAVYKAcKAVYKA WITH KAVYK
A ABOVEbOHM SIGNbPENTAGRAMbQUESTION MARKbUNDERTIEaINVISIBLE bPLUSbSEPARATORbTIMESaIZAKAYA LANTERNa
JACK-O-LANTERNaJAPANESE bBANK SYMBOLbCASTLEbDOLLSbGOBLINbINDUSTRIAL STANDARD SYMBOLbOGREbPOST OFFI
CEbSYMBOL FOR BEGINNERaJARaJAVANESE bCONSONANT SIGN cCAKRAcKERETcPENGKALbDIGIT cEIGHTcFIVEcFOURcNI
NEcONEcSEVENcSIXcTHREEcTWOcZERObLEFT RERENGGANbLETTER cAcAIcBAcBA MURDAcCAcCA MURDAcDAcDA MAHAPRAN
AcDDAcDDA MAHAPRANAcEcGAcGA MURDAcHAcIcI KAWIcIIcJAcJA MAHAPRANAcKAcKA dMURDAdSASAKcLAcMAcNAcNA MU
RDAcNGAcNGA dLELETdLELET RASWADIcNYAcNYA MURDAcOcPAcPA dCEREKdMURDAcRAcRA AGUNGcSAcSA dMAHAPRANAdM
URDAcTAcTA MURDAcTTAcTTA MAHAPRANAcUcWAcYAbPADA cADEGcADEG ADEGcANDAPcISEN-ISENcLINGSAcLUHURcLUNGS
IcMADYAcPANGKATcPISELEHcTIRTA TUMETEScWINDUbPANGKONbPANGRANGKEPbRIGHT RERENGGANbSIGN cCECAKcCECA
K TELUcLAYARcPANYANGGAcWIGNYANbTURNED PADA PISELEHbVOWEL SIGN cDIRGA MUREcPEPETcSUKUcSUKU MENDUTcT
ALINGcTARUNGcTOLONGcWULUcWULU MELIKaJEANSaJIGSAW PUZZLE PIECEaJOINaJOYSTICKaJUGGLINGaJUNOaJUPITERa
KAABAaKAITHI bABBREVIATION SIGNbDANDAbDOUBLE cDANDAcSECTION MARKbENUMERATION SIGNbLETTER cAcAAcAIc
AUcBAcBHAcCAcCHAcDAcDDAcDDDHAcDDHAcDHAcEcGAcGHAcHAcIcIIcJAcJHAcKAcKHAcLAcMAcNAcNGAcNNAcNYAcOcPAcPH
AcRAcRHAcSAcSHAcSSAcTAcTHAcTTAcTTHAcUcUUcVAcYAbNUMBER cSIGNcSIGN ABOVEbSECTION MARKbSIGN cANUSVARA
cCANDRABINDUcNUKTAcVIRAMAcVISARGAbVOWEL SIGN cAAcAIcAUcEcIcIIcOcUcUUcVOCALIC RaKANGAROOaKANGXI RAD
ICAL bAGAINbANDbARRIVEbARROWbAXEbBADGERbBAMBOObBEANbBIGbBIRDbBITTERbBLACKbBLOODbBLUEbBOATbBODYbBOL
T OF CLOTHbBONEbBOWbBRANCHbBRISTLEbBRUSHbCARTbCAULDRONbCAVEbCHILDbCITYbCLANbCLAWbCLIFFbCLOTHESbCOL
ORbCOMPAREbCORPSEbCOVERbCOWbDEATHbDEERbDIPPERbDISHbDISTINGUISHbDIVINATIONbDO NOTbDOGbDOORbDOTbDOTT
ED cCLIFFcTENTbDOUBLE XbDOWN BOXbDRAGONbDRUMbDRYbEARbEARTHbEATbEIGHTbEMBROIDERYbENCLOSUREbENTERbEV
ENbEVENINGbEYEbFACEbFANGbFATHERbFEATHERbFIELDbFIGHTbFIREbFISHbFLUTEbFLYbFOOTbFRAGRANTbFROGbFURbGAT
EbGHOSTbGObGO SLOWLYbGOLDbGRAINbGRASSbHAIRbHALBERDbHALF TREE TRUNKbHANDbHEADbHEARTbHEMPbHIDING ENC
LOSUREbHOOKbHORNbHORSEbICEbINCHbINSECTbJADEbJARbKNIFEbLACKbLAMEbLEAFbLEATHERbLEEKbLEGSbLIDbLIFEbLI
NEbLONGbLONG STRIDEbMANbMEATbMELONbMILLETbMINISTERbMOONbMORNINGbMORTARbMOUNDbMOUNTAINbMOUTHbNETbNO
SEbNOTbOLDbONEbONESELFbOPEN BOXbOPPOSEbPIGbPLOWbPOWERbPRIVATEbPROFOUNDbRAINbRAPbRATbREDbRICEbRIGH
T OPEN BOXbRIVERbROOFbRUNbSACRIFICIAL WINEbSALTbSAYbSCHOLARbSCRIPTbSEALbSECONDbSEEbSELFbSHEEPbSHEL
LbSHOOTbSHORT cTAILED BIRDcTHREADbSICKNESSbSILKbSKINbSLASHbSLAVEbSLICEbSMALLbSNOUTbSOUNDbSPEARbSPE
ECHbSPIRITbSPOONbSPROUTbSQUAREbSTANDbSTEAMbSTEPbSTONEbSTOPbSTOPPINGbSUNbSWEETbTABLEbTALLbTANNED LE
ATHERbTENbTIGERbTILEbTONGUEbTOOTHbTRACKbTREEbTRIPODbTURBANbTURTLEbTWObTWO HANDSbUSEbVALLEYbVILLAGE
bWALKbWALK ENCLOSUREbWATERbWEAPONbWESTbWHEATbWHITEbWINDbWINEbWOMANbWORKbWRAPbWRONGbYELLOWaKANNAD
A bAI LENGTH MARKbDIGIT cEIGHTcFIVEcFOURcNINEcONEcSEVENcSIXcTHREEcTWOcZERObLENGTH MARKbLETTER cAcA
AcAIcAUcBAcBHAcCAcCHAcDAcDDAcDDHAcDHAcEcEEcFAcGAcGHAcHAcIcIIcJAcJHAcKAcKHAcLAcLLAcLLLAcMAcNAcNAKAA
RA POLLUcNGAcNNAcNYAcOcOOcPAcPHAcRAcRRAcSAcSHAcSSAcTAcTHAcTTAcTTHAcUcUUcVAcVOCALIC dLdLLdRdRRcYAbS
IGN cANUSVARAcAVAGRAHAcCANDRABINDUcJIHVAMULIYAcNUKTAcSIDDHAMcSPACING CANDRABINDUcUPADHMANIYAcVIRAM
AcVISARGAbVOWEL SIGN cAAcAIcAUcEcEEcIcIIcOcOOcUcUUcVOCALIC dLdLLdRdRRaKATAKANA bDIGRAPH KOTObITERA
TION MARKbLETTER cAcARCHAIC dEdWUdYEdYIcBAcBEcBIcBOcBUcDAcDEcDIcDOcDUcEcGAcGEcGIcGOcGUcHAcHEcHIcHO
cHUcIcKAcKEcKIcKOcKUcMAcMEcMIcMINNAN dNASALIZED TONE-e1e2e3e4e5e7e8dTONE-e2e3e4e5e7e8cMOcMUcNcNAcN
EcNIcNOcNUcOcPAcPEcPIcPOcPUcRAcREcRIcROcRUcSAcSEcSIcSMALL dAdEdHAdHEdHIdHOdHUdIdKAdKEdKUdMUdNdNUdO
dRAdREdRIdROdRUdSIdSUdTOdTUdUdWAdWEdWIdWOdYAdYOdYUcSOcSUcTAcTEcTIcTOcTUcUcVAcVEcVIcVOcVUcWAcWEcWIc
WOcYAcYOcYUcZAcZEcZIcZOcZUbMIDDLE DOTbVOICED ITERATION MARKaKATAKANA-HIRAGANA bDOUBLE HYPHENbPROLO
NGED SOUND MARKbSEMI-VOICED SOUND MARKbVOICED SOUND MARKaKAYAH LI bDIGIT cEIGHTcFIVEcFOURcNINEcONE
cSEVENcSIXcTHREEcTWOcZERObLETTER cAcBAcCAcDAcGAcHAcHTAcIcKAcKHAcLAcMAcNAcNGAcNYAcOEcOOcPAcPHAcRAcS
AcSHAcTAcTHAcVAcWAcYAcZAbSIGN cCWIcSHYAbTONE cCALYAcCALYA PLOPHUcPLOPHUbVOWEL cEcEEcOcUcUEaKELVI
N SIGNaKEYaKEYBOARDaKEYBOARD AND MOUSEaKEYCAP TENaKHAROSHTHI bDIGIT cFOURcONEcTHREEcTWObFRACTION O
NE HALFbLETTER cAcBAcBHAcCAcCHAcDAcDDAcDDHAcDHAcGAcGHAcHAcJAcKAcKHAcKKAcLAcMAcNAcNNAcNYAcPAcPHAcRA
cSAcSHAcSSAcTAcTHAcTTAcTTHAcTTTAcTTTHAcVAcVHAcYAcZAbNUMBER cONE dHUNDREDdTHOUSANDcTENcTWENTYbPUNCT
UATION cCIRCLEcCRESCENT BARcDANDAcDOTcDOUBLE DANDAcLINEScLOTUScMANGALAMcSMALL CIRCLEbSIGN cANUSVAR
AcBAR ABOVEcCAUDAcDOT BELOWcDOUBLE RING BELOWcVISARGAbVIRAMAbVOWEL cLENGTH MARKcSIGN dEdIdOdUdVOCA
LIC RaKHITAN SMALL SCRIPT bCHARACTER-c18B00c18B01c18B02c18B03c18B04c18B05c18B06c18B07c18B08c18B09c
18B0Ac18B0Bc18B0Cc18B0Dc18B0Ec18B0Fc18B10c18B11c18B12c18B13c18B14c18B15c18B16c18B17c18B18c18B19c18
B1Ac18B1Bc18B1Cc18B1Dc18B1Ec18B1Fc18B20c18B21c18B22c18B23c18B24c18B25c18B26c18B27c18B28c18B29c18B2
Ac18B2Bc18B2Cc18B2Dc18B2Ec18B2Fc18B30c18B31c18B32c18B33c18B34c18B35c18B36c18B37c18B38c18B39c18B3Ac
18B3Bc18B3Cc18B3Dc18B3Ec18B3Fc18B40c18B41c18B42c18B43c18B44c18B45c18B46c18B47c18B48c18B49c18B4Ac18
B4Bc18B4Cc18B4Dc18B4Ec18B4Fc18B50c18B51c18B52c18B53c18B54c18B55c18B56c18B57c18B58c18B59c18B5Ac18B5
Bc18B5Cc18B5Dc18B5Ec18B5Fc18B60c18B61c18B62c18B63c18B64c18B65c18B66c18B67c18B68c18B69c18B6Ac18B6Bc
18B6Cc18B6Dc18B6Ec18B6Fc18B70c18B71c18B72c18B73c18B74c18B75c18B76c18B77c18B78c18B79c18B7Ac18B7Bc18
B7Cc18B7Dc18B7Ec18B7Fc18B80c18B81c18B82c18B83c18B84c18B85c18B86c18B87c18B88c18B89c18B8Ac18B8Bc18B8
Cc18B8Dc18B8Ec18B8Fc18B90c18B91c18B92c18B93c18B94c18B95c18B96c18B97c18B98c18B99c18B9Ac18B9Bc18B9Cc
18B9Dc18B9Ec18B9Fc18BA0c18BA1c18BA2c18BA3c18BA4c18BA5c18BA6c18BA7c18BA8c18BA9c18BAAc18BABc18BACc18
BADc18BAEc18BAFc18BB0c18BB1c18BB2c18BB3c18BB4c18BB5c18BB6c18BB7c18BB8c18BB9c18BBAc18BBBc18BBCc18BB
Dc18BBEc18BBFc18BC0c18BC1c18BC2c18BC3c18BC4c18BC5c18BC6c18BC7c18BC8c18BC9c18BCAc18BCBc18BCCc18BCDc
18BCEc18BCFc18BD0c18BD1c18BD2c18BD3c18BD4c18BD5c18BD6c18BD7c18BD8c18BD9c18BDAc18BDBc18BDCc18BDDc18
BDEc18BDFc18BE0c18BE1c18BE2c18BE3c18BE4c18BE5c18BE6c18BE7c18BE8c18BE9c18BEAc18BEBc18BECc18BEDc18BE
Ec18BEFc18BF0c18BF1c18BF2c18BF3c18BF4c18BF5c18BF6c18BF7c18BF8c18BF9c18BFAc18BFBc18BFCc18BFDc18BFEc
18BFFc18C00c18C01c18C02c18C03c18C04c18C05c18C06c18C07c18C08c18C09c18C0Ac18C0Bc18C0Cc18C0Dc18C0Ec18
C0Fc18C10c18C11c18C12c18C13c18C14c18C15c18C16c18C17c18C18c18C19c18C1Ac18C1Bc18C1Cc18C1Dc18C1Ec18C1
Fc18C20c18C21c18C22c18C23c18C24c18C25c18C26c18C27c18C28c18C29c18C2Ac18C2Bc18C2Cc18C2Dc18C2Ec18C2Fc
18C30c18C31c18C32c18C33c18C34c18C35c18C36c18C37c18C38c18C39c18C3Ac18C3Bc18C3Cc18C3Dc18C3Ec18C3Fc18
C40c18C41c18C42c18C43c18C44c18C45c18C46c18C47c18C48c18C49c18C4Ac18C4Bc18C4Cc18C4Dc18C4Ec18C4Fc18C5
0c18C51c18C52c18C53c18C54c18C55c18C56c18C57c18C58c18C59c18C5Ac18C5Bc18C5Cc18C5Dc18C5Ec18C5Fc18C60c
18C61c18C62c18C63c18C64c18C65c18C66c18C67c18C68c18C69c18C6Ac18C6Bc18C6Cc18C6Dc18C6Ec18C6Fc18C70c18
C71c18C72c18C73c18C74c18C75c18C76c18C77c18C78c18C79c18C7Ac18C7Bc18C7Cc18C7Dc18C7Ec18C7Fc18C80c18C8
1c18C82c18C83c18C84c18C85c18C86c18C87c18C88c18C89c18C8Ac18C8Bc18C8Cc18C8Dc18C8Ec18C8Fc18C90c18C91c
18C92c18C93c18C94c18C95c18C96c18C97c18C98c18C99c18C9Ac18C9Bc18C9Cc18C9Dc18C9Ec18C9Fc18CA0c18CA1c18
CA2c18CA3c18CA4c18CA5c18CA6c18CA7c18CA8c18CA9c18CAAc18CABc18CACc18CADc18CAEc18CAFc18CB0c18CB1c18CB
2c18CB3c18CB4c18CB5c18CB6c18CB7c18CB8c18CB9c18CBAc18CBBc18CBCc18CBDc18CBEc18CBFc18CC0c18CC1c18CC2c
18CC3c18CC4c18CC5c18CC6c18CC7c18CC8c18CC9c18CCAc18CCBc18CCCc18CCDc18CCEc18CCFc18CD0c18CD1c18CD2c18
CD3c18CD4c18CD5bFILLERaKHMER bCURRENCY SYMBOL RIELbDIGIT cEIGHTcFIVEcFOURcNINEcONEcSEVENcSIXcTHREE
cTWOcZERObINDEPENDENT VOWEL cLYcLYYcQAAcQAIcQAQcQAUcQEcQIcQIIcQOO TYPE dONEdTWOcQUcQUKcQUUcQUUVcRY
cRYYbLETTER cBAcCAcCHAcCHOcCOcDAcDOcHAcKAcKHAcKHOcKOcLAcLOcMOcNGOcNNOcNOcNYOcPHAcPHOcPOcQAcROcSAcS
HAcSSOcTAcTHAcTHOcTOcTTHAcTTHOcVOcYObSIGN cAHSDAcATTHACANcAVAKRAHASANYAcBANTOCcBARIYOOSANcBATHAMAS
ATcBEYYALcCAMNUC PII KUUHcCOENGcKAKABATcKHANcKOOMUUTcLEK TOOcMUUSIKATOANcNIKAHITcPHNAEK MUANcREAHM
UKcROBATcSAMYOK SANNYAcTOANDAKHIATcTRIISAPcVIRIAMcYUUKALEAPINTUbSYMBOL cBEI dKOETdROCcBUON dKOETdR
OCcDAP dKOETdROCcDAP-dBEI eKOETeROCdBUON eKOETeROCdMUOY eKOETeROCdPII eKOETeROCdPRAM eKOETeROCcLE
K ATTAK dBEIdBUONdMUOYdPIIdPRAMdPRAM-eBEIeBUONeMUOYePIIdSONcMUOY dKOETdROCcPATHAMASATcPII dKOETdRO
CcPRAM dKOETdROCcPRAM-dBEI eKOETeROCdBUON eKOETeROCdMUOY eKOETeROCdPII eKOETeROCcTUTEYASATbVOWEL c
INHERENT dAAdAQcSIGN dAAdAEdAIdAUdEdIdIEdIIdOEdOOdUdUAdUUdYdYAdYYaKHOJKI bABBREVIATION SIGNbDANDAb
DOUBLE cDANDAcSECTION MARKbLETTER cAcAAcAIcAUcBAcBBAcBHAcCAcCHAcDAcDDAcDDDAcDDHAcDHAcEcGAcGGAcGHAc
HAcIcJAcJJAcKAcKHAcLAcLLAcMAcNAcNGAcNNAcNYAcOcPAcPHAcRAcSAcTAcTHAcTTAcTTHAcUcVAcYAbSECTION MARKbSI
GN cANUSVARAcNUKTAcSHADDAcSUKUNcVIRAMAbVOWEL SIGN cAAcAIcAUcEcIcIIcOcUbWORD SEPARATORaKHUDAWADI bD
IGIT cEIGHTcFIVEcFOURcNINEcONEcSEVENcSIXcTHREEcTWOcZERObLETTER cAcAAcAIcAUcBAcBBAcBHAcCAcCHAcDAcDD
AcDDDAcDDHAcDHAcEcGAcGGAcGHAcHAcIcIIcJAcJHAcJJAcKAcKHAcLAcMAcNAcNGAcNNAcNYAcOcPAcPHAcRAcRRAcSAcSHA
cTAcTHAcTTAcTTHAcUcUUcVAcYAbSIGN cANUSVARAcNUKTAcVIRAMAbVOWEL SIGN cAAcAIcAUcEcIcIIcOcUcUUaKIMONOa
KIP SIGNaKISSaKISS MARKaKISSING bCAT FACE WITH CLOSED EYESbFACEbFACE WITH cCLOSED EYEScSMILING EYE
SaKITEaKIWIFRUITaKNEELING PERSONaKNOTaKOALAaKOREAN STANDARD SYMBOLaKRONOSaL B BAR SYMBOLaLAB COATa
LABELaLACROSSE STICK AND BALLaLADDERaLADY BEETLEaLANGUAGE TAGaLAO bCANCELLATION MARKbDIGIT cEIGHTc
FIVEcFOURcNINEcONEcSEVENcSIXcTHREEcTWOcZERObELLIPSISbHO cMOcNObKO LAbLETTER cBOcCOcDOcFO dFAYdFONd
SUNGdTAMcHO dSUNGdTAMcKHMU dGOdNYOcKHO dSUNGdTAMcKOcLOcLO dLINGdLOOTcMOcNGOcNOcNYOcOcPALI dBHAdCHA
dDDAdDDHAdDHAdGHAdJHAdLLAdNNAdNYAdTTAdTTHAcPHO dSUNGdTAMcPOcROcSANSKRIT dSHAdSSAcSO dSUNGdTAMcTH
O dSUNGdTAMcTOcWOcYObNIGGAHITAbSEMIVOWEL SIGN cLOcNYObSIGN PALI VIRAMAbTONE MAI cCATAWAcEKcTHOcTIb
VOWEL SIGN cAcAAcAIcAMcAYcEcEIcIcIIcMAI dKANdKONcOcUcUUcYcYYaLARGE bBLUE cCIRCLEcDIAMONDcSQUAREbBR
OWN cCIRCLEcSQUAREbCIRCLEbDOWN TACKbGREEN cCIRCLEcSQUAREbLEFT TRIANGLE OPERATORbONE cDOT OVER TW
O DOTS PUNCTUATIONcRING OVER TWO RINGS PUNCTUATIONbORANGE cCIRCLEcDIAMONDcSQUAREbPURPLE cCIRCLEcSQ
UAREbRED cCIRCLEcSQUAREbTRIPLE VERTICAL BAR OPERATORbTWO cDOTS OVER ONE DOT PUNCTUATIONcRINGS OVE
R ONE RING PUNCTUATIONbUP TACKbYELLOW cCIRCLEcSQUAREaLARGER bTHANbTHAN OR EQUAL TOaLARI SIGNaLAS
T QUARTER bMOONbMOON cSYMBOLcWITH FACEaLATIN bCAPITAL cLETTER dAdA WITH eACUTEeBREVEeBREVE AND fAC
UTEfDOT BELOWfGRAVEfHOOK ABOVEfTILDEeCARONeCIRCUMFLEXeCIRCUMFLEX AND fACUTEfDOT BELOWfGRAVEfHOOK A
BOVEfTILDEeDIAERESISeDIAERESIS AND MACRONeDOT fABOVEfABOVE AND MACRONfBELOWeDOUBLE GRAVEeGRAVEeHOO
K ABOVEeINVERTED BREVEeMACRONeOGONEKeRING fABOVEfABOVE AND ACUTEfBELOWeSTROKEeTILDEdAAdAEdAE WIT
H eACUTEeMACRONdAFRICAN DdALPHAdANGLICANA WdAOdAUdAVdAV WITH HORIZONTAL BARdAYdBdB WITH eDOT fABOV
EfBELOWeFLOURISHeHOOKeLINE BELOWeSTROKEeTOPBARdBETAdBROKEN LdCdC WITH eACUTEeBAReCARONeCEDILLAeCED
ILLA AND ACUTEeCIRCUMFLEXeDOT ABOVEeHOOKePALATAL HOOKeSTROKEdCHIdCLOSED INSULAR GdCONdCUATRILLOdCU
ATRILLO WITH COMMAdDdD WITH eCARONeCEDILLAeCIRCUMFLEX BELOWeDOT fABOVEfBELOWeHOOKeLINE BELOWeSHOR
T STROKE OVERLAYeSMALL LETTER fZfZ WITH CARONeSTROKEeTOPBARdDZdDZ WITH CARONdEdE WITH eACUTEeBREVE
eCARONeCEDILLAeCEDILLA AND BREVEeCIRCUMFLEXeCIRCUMFLEX fAND gACUTEgDOT BELOWgGRAVEgHOOK ABOVEgTILD
EfBELOWeDIAERESISeDOT fABOVEfBELOWeDOUBLE GRAVEeGRAVEeHOOK ABOVEeINVERTED BREVEeMACRONeMACRON AN
D fACUTEfGRAVEeOGONEKeSTROKEeTILDEeTILDE BELOWdEGYPTOLOGICAL eAINeALEFdENGdESHdETdETHdEZHdEZH eREV
ERSEDeWITH CARONdFdF WITH eDOT ABOVEeHOOKeSTROKEdGdG WITH eACUTEeBREVEeCARONeCEDILLAeCIRCUMFLEXeDO
T ABOVEeHOOKeMACRONeOBLIQUE STROKEeSTROKEdGAMMAdGHAdGLOTTAL eAeIeSTOPeUdHdH WITH eBREVE BELOWeCARO
NeCEDILLAeCIRCUMFLEXeDESCENDEReDIAERESISeDOT fABOVEfBELOWeHOOKeSTROKEdHALF HdHENGdHWAIRdIdI WITH e
ACUTEeBREVEeCARONeCIRCUMFLEXeDIAERESISeDIAERESIS AND ACUTEeDOT fABOVEfBELOWeDOUBLE GRAVEeGRAVEeHOO
K ABOVEeINVERTED BREVEeMACRONeOGONEKeSTROKEeTILDEeTILDE BELOWdINSULAR eDeFeGeReSeTdIOTAdISdJdJ WIT
H eCIRCUMFLEXeCROSSED-TAILeSTROKEdKdK WITH eACUTEeCARONeCEDILLAeDESCENDEReDIAGONAL STROKEeDOT BELO
WeHOOKeLINE BELOWeOBLIQUE STROKEeSTROKEeSTROKE AND DIAGONAL STROKEdLdL WITH eACUTEeBAReBELTeCARONe
CEDILLAeCIRCUMFLEX BELOWeDOT fBELOWfBELOW AND MACRONeDOUBLE BAReHIGH STROKEeLINE BELOWeMIDDLE fDOT
fTILDEeSMALL LETTER JeSTROKEdLJdMdM WITH eACUTEeDOT fABOVEfBELOWeHOOKdMIDDLE SCOTS SdMIDDLE-WELS
H eLLeVdNdN WITH eACUTEeCARONeCEDILLAeCIRCUMFLEX BELOWeDESCENDEReDOT fABOVEfBELOWeGRAVEeLEFT HOOKe
LINE BELOWeLONG RIGHT LEGeOBLIQUE STROKEeSMALL LETTER JeTILDEdNJdOdO WITH eACUTEeBREVEeCARONeCIRCU
MFLEXeCIRCUMFLEX AND fACUTEfDOT BELOWfGRAVEfHOOK ABOVEfTILDEeDIAERESISeDIAERESIS AND MACRONeDOT fA
BOVEfABOVE AND MACRONfBELOWeDOUBLE fACUTEfGRAVEeGRAVEeHOOK ABOVEeHORNeHORN AND fACUTEfDOT BELOWfGR
AVEfHOOK ABOVEfTILDEeINVERTED BREVEeLONG STROKE OVERLAYeLOOPeMACRONeMACRON AND fACUTEfGRAVEeMIDDL
E TILDEeOGONEKeOGONEK AND MACRONeSTROKEeSTROKE AND ACUTEeTILDEeTILDE AND fACUTEfDIAERESISfMACRONdO
IdOLD POLISH OdOMEGAdOOdOPEN eEeOdOUdPdP WITH eACUTEeDOT ABOVEeFLOURISHeHOOKeSQUIRREL TAILeSTROKEe
STROKE THROUGH DESCENDERdQdQ WITH eDIAGONAL STROKEeSTROKE THROUGH DESCENDERdRdR eROTUNDAeWITH fACU
TEfCARONfCEDILLAfDOT gABOVEgBELOWgBELOW AND MACRONfDOUBLE GRAVEfINVERTED BREVEfLINE BELOWfOBLIQU
E STROKEfSTROKEfTAILdREVERSED eC WITH DOTeEeHALF HeOPEN EdRUM ROTUNDAdSdS WITH eACUTEeACUTE AND DO
T ABOVEeCARONeCARON AND DOT ABOVEeCEDILLAeCIRCUMFLEXeCOMMA BELOWeDOT fABOVEfBELOWfBELOW AND DOT AB
OVEeHOOKeOBLIQUE STROKEeSHORT STROKE OVERLAYeSWASH TAILdSALTILLOdSCHWAdSCRIPT GdSHARP SdSIGMOID Sd
SMALL eCAPITAL IeQ WITH HOOK TAILdTdT WITH eCARONeCEDILLAeCIRCUMFLEX BELOWeCOMMA BELOWeDIAGONAL ST
ROKEeDOT fABOVEfBELOWeHOOKeLINE BELOWeRETROFLEX HOOKeSTROKEdTHORNdTHORN WITH eSTROKEeSTROKE THROUG
H DESCENDERdTONE eFIVEeSIXeTWOdTRESILLOdTURNED eAeALPHAeHeINSULAR GeKeLeMeTeVdTZdUdU eBAReWITH fAC
UTEfBREVEfCARONfCIRCUMFLEXfCIRCUMFLEX BELOWfDIAERESISfDIAERESIS gAND hACUTEhCARONhGRAVEhMACRONgBEL
OWfDOT BELOWfDOUBLE gACUTEgGRAVEfGRAVEfHOOK ABOVEfHORNfHORN AND gACUTEgDOT BELOWgGRAVEgHOOK ABOVEg
TILDEfINVERTED BREVEfMACRONfMACRON AND DIAERESISfOGONEKfRING ABOVEfSTROKEfTILDEfTILDE gAND ACUTEgB
ELOWdUPSILONdVdV WITH eDIAGONAL STROKEeDOT BELOWeHOOKeTILDEdVENDdVISIGOTHIC ZdVOLAPUK eAEeOEeUEdVY
dWdW WITH eACUTEeCIRCUMFLEXeDIAERESISeDOT fABOVEfBELOWeGRAVEeHOOKdWYNNdXdX WITH eDIAERESISeDOT ABO
VEdYdY WITH eACUTEeCIRCUMFLEXeDIAERESISeDOT fABOVEfBELOWeGRAVEeHOOKeHOOK ABOVEeLOOPeMACRONeSTROKEe
TILDEdYOGHdZdZ WITH eACUTEeCARONeCIRCUMFLEXeDESCENDEReDOT fABOVEfBELOWeHOOKeLINE BELOWePALATAL HOO
KeSTROKEeSWASH TAILcLIGATURE dIJdOEbCROSSbEPIGRAPHIC LETTER cARCHAIC McI LONGAcINVERTED McREVERSE
D dFdPcSIDEWAYS IbLETTER cAINcALVEOLAR CLICKcBIDENTAL PERCUSSIVEcBILABIAL dCLICKdPERCUSSIVEcDENTA
L CLICKcGLOTTAL dSTOPdSTOP WITH STROKEcINVERTED GLOTTAL dSTOPdSTOP WITH eCURLeSTROKEcLATERAL CLICK
cPHARYNGEAL VOICED FRICATIVEcRETROFLEX dCLICKdCLICK WITH RETROFLEX HOOKcREVERSED dESH LOOPdGLOTTA
L STOP WITH STROKEcSINOLOGICAL DOTcSMALL CAPITAL dAdAEdBdBARRED BdCdDdEdETHdEZHdFdGdG WITH HOOKdHd
IdINVERTED RdJdKdLdL WITH eBELTeSTROKEdMdNdOdOEdOPEN OdOUdPdQdRdR WITH RIGHT LEGdREVERSED eNeRdRUM
dSdTdTURNED eEeGeKeMeRdUdVdWdYdZcSTRETCHED dCdC WITH CURLcTWO WITH STROKEcVOICED LARYNGEAL SPIRANT
cWYNNcYRbSMALL cCAPITAL LETTER dI WITH STROKEdU WITH STROKEcLETTER dAdA eREVERSED-SCHWAeWITH fACUT
EfBREVEfBREVE AND gACUTEgDOT BELOWgGRAVEgHOOK ABOVEgTILDEfCARONfCIRCUMFLEXfCIRCUMFLEX AND gACUTEgD
OT BELOWgGRAVEgHOOK ABOVEgTILDEfDIAERESISfDIAERESIS AND MACRONfDOT gABOVEgABOVE AND MACRONgBELOWfD
OUBLE GRAVEfGRAVEfHOOK ABOVEfINVERTED BREVEfMACRONfOGONEKfRETROFLEX HOOKfRIGHT HALF RINGfRING gABO
VEgABOVE AND ACUTEgBELOWfSTROKEfTILDEdAAdAEdAE WITH eACUTEeMACRONdALPHAdALPHA WITH RETROFLEX HOOKd
ANGLICANA WdAOdAUdAVdAV WITH HORIZONTAL BARdAYdBdB WITH eDOT fABOVEfBELOWeFLOURISHeHOOKeLINE BELOW
eMIDDLE TILDEePALATAL HOOKeSTROKEeTOPBARdBARRED eALPHAeEeOdBASELINE ESHdBETAdBLACKLETTER eEeOeO WI
TH STROKEdBOTTOM HALF OdBROKEN LdCdC WITH eACUTEeBAReCARONeCEDILLAeCEDILLA AND ACUTEeCIRCUMFLEXeCU
RLeDOT ABOVEeHOOKePALATAL HOOKeRETROFLEX HOOKeSTROKEdCHIdCHI WITH LOW eLEFT SERIFeRIGHT RINGdCLOSE
D eINSULAR GeOMEGAeOPEN EeREVERSED OPEN EdCONdCUATRILLOdCUATRILLO WITH COMMAdDdD WITH eCARONeCEDIL
LAeCIRCUMFLEX BELOWeCURLeDOT fABOVEfBELOWeHOOKeHOOK AND TAILeLINE BELOWeMIDDLE TILDEePALATAL HOOKe
SHORT STROKE OVERLAYeSTROKEeTAILeTOPBARdDB DIGRAPHdDELTAdDEZH eDIGRAPHeDIGRAPH WITH fPALATAL HOOKf
RETROFLEX HOOKdDOTLESS eIeJeJ WITH fSTROKEfSTROKE AND HOOKdDOUBLE eReR WITH CROSSED-TAILeTHORNeWYN
NdDUMdDZdDZ eDIGRAPHeDIGRAPH WITH fCURLfRETROFLEX HOOKeWITH CARONdEdE WITH eACUTEeBREVEeCARONeCEDI
LLAeCEDILLA AND BREVEeCIRCUMFLEXeCIRCUMFLEX fAND gACUTEgDOT BELOWgGRAVEgHOOK ABOVEgTILDEfBELOWeDIA
ERESISeDOT fABOVEfBELOWeDOUBLE GRAVEeFLOURISHeGRAVEeHOOK ABOVEeINVERTED BREVEeMACRONeMACRON AND fA
CUTEfGRAVEeNOTCHeOGONEKeRETROFLEX HOOKeSTROKEeTILDEeTILDE BELOWdEGYPTOLOGICAL eAINeALEFdENGdENG WI
TH eCROSSED-TAILePALATAL HOOKdESHdESH WITH eCURLeDOUBLE fBARfBAR AND CURLePALATAL HOOKeRETROFLEX H
OOKdETdETHdEZHdEZH eREVERSEDeWITH fCARONfCURLfPALATAL HOOKfRETROFLEX HOOKfTAILdFdF WITH eDOT ABOVE
eHOOKeMIDDLE TILDEePALATAL HOOKeSTROKEdFENG eDIGRAPHeDIGRAPH WITH TRILLdGdG WITH eACUTEeBREVEeCARO
NeCEDILLAeCIRCUMFLEXeDOT ABOVEeHOOKeMACRONeOBLIQUE STROKEePALATAL HOOKeSTROKEdGAMMAdGHAdGLOTTAL eA
eIeSTOPeUdHdH WITH eBREVE BELOWeCARONeCEDILLAeCIRCUMFLEXeDESCENDEReDIAERESISeDOT fABOVEfBELOWeHOOK
eLINE BELOWePALATAL HOOKeSTROKEdHALF HdHENGdHENG WITH HOOKdHVdIdI WITH eACUTEeBREVEeCARONeCIRCUMFL
EXeDIAERESISeDIAERESIS AND ACUTEeDOT BELOWeDOUBLE GRAVEeGRAVEeHOOK ABOVEeINVERTED BREVEeMACRONeOGO
NEKeRETROFLEX HOOKeSTROKEeSTROKE AND RETROFLEX HOOKeTILDEeTILDE BELOWdINSULAR eDeFeGeReSeTdINVERTE
D eALPHAeOEdIOTAdIOTA WITH STROKEdIOTIFIED EdISdJdJ WITH eCARONeCIRCUMFLEXeCROSSED-TAILeSTROKEdKd
K WITH eACUTEeCARONeCEDILLAeDESCENDEReDIAGONAL STROKEeDOT BELOWeHOOKeLINE BELOWeOBLIQUE STROKEePAL
ATAL HOOKeSTROKEeSTROKE AND DIAGONAL STROKEdKRAdLdL WITH eACUTEeBAReBELTeBELT AND PALATAL HOOKeCAR
ONeCEDILLAeCIRCUMFLEX BELOWeCURLeDOT fBELOWfBELOW AND MACRONeDOUBLE fBARfMIDDLE TILDEeFISHHOOKeHIG
H STROKEeINVERTED LAZY SeLINE BELOWeMIDDLE fDOTfRINGfTILDEePALATAL HOOKeRETROFLEX fHOOKfHOOK AND B
ELTeSTROKEdLAMBDA WITH STROKEdLENIS FdLEZHdLEZH WITH RETROFLEX HOOKdLJdLONG eSeS WITH fDIAGONAL ST
ROKEfDOT ABOVEfHIGH STROKEdLS DIGRAPHdLUMdLZ DIGRAPHdMdM WITH eACUTEeCROSSED-TAILeDOT fABOVEfBELOW
eHOOKeMIDDLE TILDEePALATAL HOOKdMIDDLE SCOTS SdMIDDLE-WELSH eLLeVdMUMdNdN ePRECEDED BY APOSTROPHEe
WITH fACUTEfCARONfCEDILLAfCIRCUMFLEX BELOWfCROSSED-TAILfCURLfDESCENDERfDOT gABOVEgBELOWfGRAVEfLEF
T HOOKfLINE BELOWfLONG RIGHT LEGfMIDDLE TILDEfOBLIQUE STROKEfPALATAL HOOKfRETROFLEX HOOKfTILDEdNJd
NUMdOdO WITH eACUTEeBREVEeCARONeCIRCUMFLEXeCIRCUMFLEX AND fACUTEfDOT BELOWfGRAVEfHOOK ABOVEfTILDEe
DIAERESISeDIAERESIS AND MACRONeDOT fABOVEfABOVE AND MACRONfBELOWeDOUBLE fACUTEfGRAVEeGRAVEeHOOK AB
OVEeHORNeHORN AND fACUTEfDOT BELOWfGRAVEfHOOK ABOVEfTILDEeINVERTED BREVEeLONG STROKE OVERLAYeLOOPe
LOW RING INSIDEeMACRONeMACRON AND fACUTEfGRAVEeOGONEKeOGONEK AND MACRONeRETROFLEX HOOKeSTROKEeSTRO
KE AND ACUTEeTILDEeTILDE AND fACUTEfDIAERESISfMACRONdOIdOLD POLISH OdOMEGAdOOdOPEN eEeE WITH RETRO
FLEX HOOKeOeO WITH fRETROFLEX HOOKfSTROKEeOEdOUdPdP WITH eACUTEeDOT ABOVEeFLOURISHeHOOKeMIDDLE TIL
DEePALATAL HOOKeSQUIRREL TAILeSTROKEeSTROKE THROUGH DESCENDERdPHIdQdQ WITH eDIAGONAL STROKEeHOOKeH
OOK TAILeSTROKE THROUGH DESCENDERdQP DIGRAPHdRdR eROTUNDAeWITH fACUTEfCARONfCEDILLAfCROSSED-TAILfD
OT gABOVEgBELOWgBELOW AND MACRONfDOUBLE GRAVEfFISHHOOKfFISHHOOK AND gMIDDLE TILDEgPALATAL HOOKfINV
ERTED BREVEfLINE BELOWfLONG LEGfMIDDLE TILDEfOBLIQUE STROKEfPALATAL HOOKfSTROKEfTAILeWITHOUT HANDL
EdRAMS HORNdREVERSED eCeC WITH DOTeEeENGeHALF HeKeOPEN fEfE WITH gHOOKgRETROFLEX HOOKeR WITH FISHH
OOKeSCRIPT GdRUMdRUM ROTUNDAdSdS WITH eACUTEeACUTE AND DOT ABOVEeCARONeCARON AND DOT ABOVEeCEDILLA
eCIRCUMFLEXeCOMMA BELOWeCURLeDOT fABOVEfBELOWfBELOW AND DOT ABOVEeHOOKeMIDDLE TILDEeOBLIQUE STROKE
ePALATAL HOOKeSHORT STROKE OVERLAYeSWASH TAILdSAKHA YATdSALTILLOdSCHWAdSCHWA WITH eHOOKeRETROFLE
X HOOKdSCRIPT eGeG WITH CROSSED-TAILeReR WITH RINGdSHARP SdSIDEWAYS eDIAERESIZED UeOeO WITH STROKE
eOPEN OeTURNED MeUdSIGMOID SdSQUAT REVERSED ESHdSTIRRUP RdTdT WITH eCARONeCEDILLAeCIRCUMFLEX BELOW
eCOMMA BELOWeCURLeDIAERESISeDIAGONAL STROKEeDOT fABOVEfBELOWeHOOKeHOOK AND RETROFLEX HOOKeLINE BEL
OWeMIDDLE TILDEePALATAL HOOKeRETROFLEX HOOKeSTROKEdTAILLESS PHIdTC DIGRAPH WITH CURLdTESH eDIGRAPH
eDIGRAPH WITH fPALATAL HOOKfRETROFLEX HOOKdTH WITH STRIKETHROUGHdTHORNdTHORN WITH eSTROKEeSTROKE T
HROUGH DESCENDERdTONE eFIVEeSIXeTWOdTOP HALF OdTRESILLOdTS eDIGRAPHeDIGRAPH WITH RETROFLEX HOOKdTU
MdTURNED eAeAEeALPHAeDELTAeEeGeHeH WITH fFISHHOOKfFISHHOOK AND TAILeIeINSULAR GeKeLeMeM WITH LON
G LEGeO OPEN-fOfO WITH STROKEeOEeOE WITH fHORIZONTAL STROKEfSTROKEeOPEN EeReR WITH fHOOKfLONG gLEG
gLEG AND RETROFLEX HOOKfMIDDLE TILDEfPALATAL HOOKfTAILeTeT WITH CURLeUIeVeWeYeY WITH BELTdTZdUdU e
BAReBAR WITH SHORT RIGHT LEGeWITH fACUTEfBREVEfCARONfCIRCUMFLEXfCIRCUMFLEX BELOWfDIAERESISfDIAERES
IS gAND hACUTEhCARONhGRAVEhMACRONgBELOWfDOT BELOWfDOUBLE gACUTEgGRAVEfGRAVEfHOOK ABOVEfHORNfHORN A
ND gACUTEgDOT BELOWgGRAVEgHOOK ABOVEgTILDEfINVERTED BREVEfLEFT HOOKfMACRONfMACRON AND DIAERESISfOG
ONEKfRETROFLEX HOOKfRING ABOVEfSHORT RIGHT LEGfSTROKEfTILDEfTILDE gAND ACUTEgBELOWdUEdUIdUMdUOdUPS
ILONdUPSILON WITH STROKEdVdV WITH eCURLeDIAGONAL STROKEeDOT BELOWeHOOKePALATAL HOOKeRIGHT HOOKeTIL
DEdVENDdVISIGOTHIC ZdVOLAPUK eAEeOEeUEdVYdWdW WITH eACUTEeCIRCUMFLEXeDIAERESISeDOT fABOVEfBELOWeGR
AVEeHOOKeRING ABOVEdXdX WITH eDIAERESISeDOT ABOVEeLONG LEFT fLEGfLEG gAND LOW RIGHT RINGgWITH SERI
FeLOW RIGHT RINGePALATAL HOOKdYdY WITH eACUTEeCIRCUMFLEXeDIAERESISeDOT fABOVEfBELOWeGRAVEeHOOKeHOO
K ABOVEeLOOPeMACRONeRING ABOVEeSHORT RIGHT LEGeSTROKEeTILDEdYOGHdZdZ WITH eACUTEeCARONeCIRCUMFLEXe
CURLeDESCENDEReDOT fABOVEfBELOWeHOOKeLINE BELOWeMIDDLE TILDEePALATAL HOOKeRETROFLEX HOOKeSTROKEeSW
ASH TAILcLIGATURE dFFdFFIdFFLdFIdFLdIJdLONG S TdOEdSTbSUBSCRIPT SMALL LETTER cAcEcHcIcJcKcLcMcNcOc
PcRcScSCHWAcTcUcVcXaLEAF FLUTTERING IN WINDaLEAFY GREENaLEDGERaLEFT bAND cLOWER dAND RIGHT TRIANGU
LAR THREE QUARTERS BLOCKdONE EIGHTH BLOCKcRIGHT dDOUBLE TURNSTILEdTACKdTRIANGULAR HALF BLOCKcUPPE
R dAND RIGHT TRIANGULAR THREE QUARTERS BLOCKdONE EIGHTH BLOCKbANGER BUBBLEbANGLE cBRACKETcBRACKE
T WITH DOTbARC LESS-THAN BRACKETbARROW WITH cCIRCLED PLUScSMALL CIRCLEbBARB cDOWN RIGHT BARB dDOW
N HARPOONdUP HARPOONcUP RIGHT BARB dDOWN HARPOONdUP HARPOONbBLACK cLENTICULAR BRACKETcTORTOISE SHE
LL BRACKETbCEILINGbCLOSED ENTRYbCORNER BRACKETbCURLY cBRACKETcBRACKET dLOWER HOOKdMIDDLE PIECEdUPP
ER HOOKbDOTTED SUBSTITUTION BRACKETbDOUBLE cANGLE BRACKETcPARENTHESIScQUOTATION MARKcWIGGLY FENCEb
FISH TAILbFIVE EIGHTHS BLOCKbFLOORbHALF cBLACK dCIRCLEdSTARcBLOCKcCIRCLEcCIRCLE WITH dDOTdFOUR DOT
SdTHREE DOTSdTWO DOTScFOLDERcINVERSE MEDIUM SHADE AND RIGHT HALF BLOCKcMEDIUM SHADEcRUNNING MANbHA
ND TELEPHONE RECEIVERbLOW PARAPHRASE BRACKETbLUGGAGEbMULTIMAPbNORMAL FACTOR SEMIDIRECT PRODUCTbON
E cEIGHTH BLOCKcQUARTER BLOCKbOUTER JOINbPARENTHESISbPARENTHESIS cEXTENSIONcLOWER HOOKcUPPER HOOKb
RAISED OMISSION BRACKETbRIGHT cARROWcARROW dTHROUGH SMALL CIRCLEdWITH eDOUBLE VERTICAL STROKEeSTRO
KEeVERTICAL STROKEcBLACK ARROWcDOUBLE dARROWdARROW WITH eSTROKEeVERTICAL STROKEcOPEN-HEADED ARROWc
SANS-SERIF ARROWcTRIANGLE-HEADED ARROWcWAVE ARROWcWHITE ARROWbS-SHAPED BAG DELIMITERbSEMIDIRECT PR
ODUCTbSEVEN EIGHTHS BLOCKbSIDEWAYS U BRACKETbSINGLE QUOTATION MARKbSPEECH BUBBLEbSQUARE cBRACKETcB
RACKET dEXTENSIONdLOWER CORNERdUPPER CORNERdWITH eDOUBLE STROKEeQUILLeSTROKEeTICK IN fBOTTOM CORNE
RfTOP CORNEReUNDERBARbSUBSTITUTION BRACKETbTACKbTHIRD WHITE RIGHT POINTING INDEXbTHOUGHT BUBBLEbTH
REE cEIGHTHS BLOCKcQUARTERS BLOCKbTORTOISE SHELL BRACKETbTRANSPOSITION BRACKETbTRIANGLE BESIDE VER
TICAL BARbTRIANGULAR ONE QUARTER BLOCKbVERTICAL cBAR WITH QUILLcBOX LINEbWHITE cCORNER BRACKETcCUR
LY BRACKETcLENTICULAR BRACKETcPARENTHESIScSQUARE BRACKETcTORTOISE SHELL BRACKETbWIGGLY FENCEbWRITI
NG HANDaLEFT-bFACING cARMENIAN ETERNITY SIGNcFISTcSVASTI dSIGNdSIGN WITH DOTSbHANDED INTERLACED PE
NTAGRAMbPOINTING cANGLE BRACKETcCURVED ANGLE BRACKETcDOUBLE ANGLE QUOTATION MARKcMAGNIFYING GLASSb
SHADED WHITE RIGHTWARDS ARROWbSIDE ARC ANTICLOCKWISE ARROWbTO-RIGHT cEMBEDDINGcISOLATEcMARKcOVERRI
DEaLEFTWARDS bARROWbARROW cABOVE dALMOST EQUAL TOdREVERSE eALMOST EQUAL TOeTILDE OPERATORdSHORT RI
GHTWARDS ARROWdTILDE OPERATORcAND UPPER AND LOWER ONE EIGHTH BLOCKcFROM dBARdBAR TO BLACK DIAMONDc
OVER RIGHTWARDS ARROWcTHROUGH dLESS-THANdSUBSETdXcTO dBARdBAR OVER RIGHTWARDS ARROW TO BARdBLACK D
IAMONDcWITH dDOTTED STEMdDOUBLE VERTICAL STROKEdEQUILATERAL ARROWHEADdHOOKdLARGE TRIANGLE ARROWHEA
DdLOOPdMEDIUM TRIANGLE ARROWHEADdNOTCHED TAILdPLUS BELOWdSMALL eEQUILATERAL ARROWHEADeTRIANGLE ARR
OWHEADdSTROKEdTAILdTAIL WITH eDOUBLE VERTICAL STROKEeVERTICAL STROKEdTIP eDOWNWARDSeUPWARDSdVERTIC
AL STROKEbARROW-TAILbBACK-TILTED SHADOWED WHITE ARROWbBLACK cARROWcCIRCLED WHITE ARROWbBOTTOM-SHAD
ED WHITE ARROWbCOMPRESSED ARROWbDASHED ARROWbDOUBLE cARROWcARROW dFROM BARdWITH eSTROKEeVERTICAL S
TROKEcARROW-TAILcDASH ARROWbFINGER-POST ARROWbFRONT-TILTED SHADOWED WHITE ARROWbHANDbHARPOON cOVE
R RIGHTWARDS HARPOONcWITH BARB dDOWN eABOVE RIGHTWARDS HARPOON WITH BARB DOWNeBELOW LONG DASHeFRO
M BAReTO BARdDOWNWARDSdUP eABOVE fLEFTWARDS HARPOON WITH BARB DOWNfLONG DASHfRIGHTWARDS HARPOON WI
TH BARB UPeFROM BAReTO BARdUPWARDSbHEAVY cARROWcCOMPRESSED ARROWbLEFT-SHADED WHITE ARROWbOPEN-HEAD
ED ARROWbPAIRED ARROWSbQUADRUPLE ARROWbRIGHT-SHADED WHITE ARROWbROCKETbSANS-SERIF ARROWbSQUARED AR
ROWbSQUIGGLE ARROWbTOP SHADED WHITE ARROWbTRIANGLE ARROWHEADbTRIANGLE-HEADED cARROWcARROW dOVER RI
GHTWARDS TRIANGLE-HEADED ARROWdTO BARdWITH eBOLD SHAFTeDOUBLE fHORIZONTAL STROKEfVERTICAL STROKEeH
EAVY SHAFTeLONG TIP fDOWNWARDSfUPWARDSeMEDIUM SHAFTeNARROW SHAFTeVERY HEAVY SHAFTcDASHED ARROWcPAI
RED ARROWSbTRIPLE cARROWcDASH ARROWbTWO HEADED ARROWbTWO-HEADED cARROW dFROM BARdWITH eDOUBLE VERT
ICAL STROKEeTAILeTAIL WITH fDOUBLE VERTICAL STROKEfVERTICAL STROKEeTRIANGLE ARROWHEADSeVERTICAL ST
ROKEcTRIPLE DASH ARROWbWAVE ARROWbWHITE cARROWcARROW WITHIN TRIANGLE ARROWHEADaLEGaLEMONaLEOaLEOPA
RDaLEPCHA bCONSONANT SIGN cKcKANGcLcMcNcNYIN-DOcPcRcTbDIGIT cEIGHTcFIVEcFOURcNINEcONEcSEVENcSIXcTH
REEcTWOcZERObLETTER cAcBAcBLAcCAcCHAcDAcDDAcDZAcFAcFLAcGAcGLAcHAcHLAcJAcKAcKHAcKLAcLAcMAcMLAcNAcNG
AcNYAcPAcPHAcPLAcRAcSAcSHAcTAcTHAcTSAcTSHAcTTAcTTHAcVAcWAcYAbPUNCTUATION cCER-WAcNYET THYOOM TA-RO
LcTA-ROLcTSHOOKcTSHOOK CER-WAbSIGN cNUKTAcRANbSUBJOINED LETTER cRAcYAbVOWEL SIGN cAAcEcIcOcOOcUcUU
aLESS-THAN bABOVE cDOUBLE-LINE EQUAL ABOVE GREATER-THANcGREATER-THAN ABOVE DOUBLE-LINE EQUALcLEFTW
ARDS ARROWcSIMILAR dABOVE GREATER-THANdOR EQUALcSLANTED EQUAL ABOVE GREATER-THAN ABOVE SLANTED EQU
ALbAND cNOT APPROXIMATEcSINGLE-LINE NOT EQUAL TObBUT NOT cEQUAL TOcEQUIVALENT TObCLOSED BY cCURVEc
CURVE ABOVE SLANTED EQUALbEQUAL TO OR GREATER-THANbOR cAPPROXIMATEcEQUAL TOcEQUIVALENT TOcGREATER-
THANcSLANTED EQUAL dTOdTO WITH DOT eABOVEeABOVE RIGHTeINSIDEbOVER EQUAL TObSIGNbWITH cCIRCLE INSID
EcDOTcQUESTION MARK ABOVEaLEVEL SLIDERaLFaLIBRAaLIGATURE OPEN ET ORNAMENTaLIGHT bCHECK MARKbEIGH
T SPOKED ASTERISKbFIVE cPOINTED BLACK STARcSPOKED ASTERISKbFOUR POINTED BLACK cCUSPcSTARbGREEK CRO
SSbLEFT TORTOISE SHELL BRACKET ORNAMENTbRAILbRIGHT TORTOISE SHELL BRACKET ORNAMENTbSALTIREbSHADEbS
IX SPOKED ASTERISKbTHREE POINTED BLACK STARbTWELVE POINTED BLACK STARbVERTICAL BARbWHITE SQUAREaLI
GHTNINGaLIGHTNING bMOODbMOOD BUBBLEaLIMBU bDIGIT cEIGHTcFIVEcFOURcNINEcONEcSEVENcSIXcTHREEcTWOcZER
ObEXCLAMATION MARKbLETTER cBAcBHAcCAcCHAcDAcDHAcGAcGHAcGYANcHAcJAcJHAcKAcKHAcLAcMAcNAcNGAcPAcPHAcR
AcSAcSHAcSSAcTAcTHAcTRAcWAcYAcYANbQUESTION MARKbSIGN cKEMPHRENGcLOOcMUKPHRENGcSA-IbSMALL LETTER cA
NUSVARAcKAcLAcMAcNAcNGAcPAcRAcTAbSUBJOINED LETTER cRAcWAcYAbVOWEL SIGN cAcAIcAUcEcEEcIcOcOOcUbVOWE
L-CARRIER LETTERaLIMITED LIABILITY SIGNaLINE bFEEDbINTEGRATION cNOT INCLUDING THE POLEcWITH dRECTA
NGULAR PATH AROUND POLEdSEMICIRCULAR PATH AROUND POLEbSEPARATORbTABULATIONbTABULATION SETaLINEAR b
A SIGN cA028BcA100-102cA120BcA131CcA301cA302cA303cA304cA305cA306cA307cA308cA309AcA309BcA309CcA310c
A311cA312cA313AcA313BcA313CcA314cA315cA316cA317cA318cA319cA320cA321cA322cA323cA324cA325cA326cA327c
A328cA329cA330cA331cA332cA333cA334cA335cA336cA337cA338cA339cA340cA341cA342cA343cA344cA345cA346cA34
7cA348cA349cA350cA351cA352cA353cA354cA355cA356cA357cA358cA359cA360cA361cA362cA363cA364cA365cA366cA
367cA368cA369cA370cA371cA400-VAScA401-VAScA402-VAScA403-VAScA404-VAScA405-VAScA406-VAScA407-VAScA4
08-VAScA409-VAScA410-VAScA411-VAScA412-VAScA413-VAScA414-VAScA415-VAScA416-VAScA417-VAScA418-VAScA
501cA502cA503cA504cA505cA506cA508cA509cA510cA511cA512cA513cA515cA516cA520cA521cA523cA524cA525cA526
cA527cA528cA529cA530cA531cA532cA534cA535cA536cA537cA538cA539cA540cA541cA542cA545cA547cA548cA549cA5
50cA551cA552cA553cA554cA555cA556cA557cA559cA563cA564cA565cA566cA568cA569cA570cA571cA572cA573cA574c
A575cA576cA577cA578cA579cA580cA581cA582cA583cA584cA585cA586cA587cA588cA589cA591cA592cA594cA595cA59
6cA598cA600cA601cA602cA603cA604cA606cA608cA609cA610cA611cA612cA613cA614cA615cA616cA617cA618cA619cA
620cA621cA622cA623cA624cA626cA627cA628cA629cA634cA637cA638cA640cA642cA643cA644cA645cA646cA648cA649
cA651cA652cA653cA654cA655cA656cA657cA658cA659cA660cA661cA662cA663cA664cA701 AcA702 BcA703 DcA704 E
cA705 FcA706 HcA707 JcA708 KcA709 LcA709-d2 L2d3 L3d4 L4d6 L6cA710 WcA711 XcA712 YcA713 OMEGAcA71
4 ABBcA715 BBcA717 DDcA726 EYYYcA732 JEcA800cA801cA802cA803cA804cA805cA806cA807cAB001cAB002cAB003c
AB004cAB005cAB006cAB007cAB008cAB009cAB010cAB011cAB013cAB016cAB017cAB020cAB021cAB021FcAB021McAB022c
AB022FcAB022McAB023cAB023McAB024cAB026cAB027cAB028cAB029cAB030cAB031cAB034cAB037cAB038cAB039cAB040
cAB041cAB044cAB045cAB046cAB047cAB048cAB049cAB050cAB051cAB053cAB054cAB055cAB056cAB057cAB058cAB059cA
B060cAB061cAB065cAB066cAB067cAB069cAB070cAB073cAB074cAB076cAB077cAB078cAB079cAB080cAB081cAB082cAB0
85cAB086cAB087cAB118cAB120cAB122cAB123cAB131AcAB131BcAB164cAB171cAB180cAB188cAB191bB cIDEOGRAM dB1
00 MANdB102 WOMANdB104 DEERdB105 EQUIDdB105F MAREdB105M STALLIONdB106F EWEdB106M RAMdB107F SHE-GOA
TdB107M HE-GOATdB108F SOWdB108M BOARdB109F COWdB109M BULLdB120 WHEATdB121 BARLEYdB122 OLIVEdB123 S
PICEdB125 CYPERUSdB130 OILdB131 WINEdB132dB140 BRONZEdB141 GOLDdB142dB145 WOOLdB146dB150dB151 HORN
dB152dB153dB154dB157dB158dB159 CLOTHdB160dB161dB162 GARMENTdB163 ARMOURdB164dB165dB166dB167dB168dB
169dB170dB171dB172dB173 MONTHdB174dB176 TREEdB177dB178dB179dB180dB181dB182dB183dB184dB185dB189dB19
0dB191 HELMETdB220 FOOTSTOOLdB225 BATHTUBdB230 SPEARdB231 ARROWdB232dB233 SWORDdB234dB236dB240 WHE
ELED CHARIOTdB241 CHARIOTdB242 CHARIOT FRAMEdB243 WHEELdB245dB246dB248dB249dB251dB252dB253dB254 DA
RTdB255dB256dB257dB258dB259dVESSEL eB155eB200eB201eB202eB203eB204eB205eB206eB207eB208eB209eB210eB2
11eB212eB213eB214eB215eB216eB217eB218eB219eB221eB222eB226eB227eB228eB229eB250eB305cMONOGRAM dB12
7 KAPOdB128 KANAKOdB133 AREPAdB135 MERIdB156 TURO2dB247 DIPTEcSYLLABLE dB001 DAdB002 ROdB003 PAdB0
04 TEdB005 TOdB006 NAdB007 DIdB008 AdB009 SEdB010 UdB011 POdB012 SOdB013 MEdB014 DOdB015 MOdB016 Q
AdB017 ZAdB020 ZOdB021 QIdB023 MUdB024 NEdB025 A2dB026 RUdB027 REdB028 IdB029 PU2dB030 NIdB031 SAd
B032 QOdB033 RA3dB036 JOdB037 TIdB038 EdB039 PIdB040 WIdB041 SIdB042 WOdB043 A3dB044 KEdB045 DEdB0
46 JEdB048 NWAdB050 PUdB051 DUdB052 NOdB053 RIdB054 WAdB055 NUdB057 JAdB058 SUdB059 TAdB060 RAdB06
1 OdB062 PTEdB065 JUdB066 TA2dB067 KIdB068 RO2dB069 TUdB070 KOdB071 DWEdB072 PEdB073 MIdB074 ZEdB0
75 WEdB076 RA2dB077 KAdB078 QEdB080 MAdB081 KUdB085 AUdB087 TWEdB090 DWOdB091 TWOcSYMBOL dB018dB01
9dB022dB034dB047dB049dB056dB063dB064dB079dB082dB083dB086dB089aLINK SYMBOLaLINKED PAPERCLIPSaLION F
ACEaLIPSaLIPSTICKaLIRA SIGNaLISU bLETTER cAcAEcBAcCAcCHAcDAcDZAcEcEUcFAcGAcGHAcHAcHHAcIcJAcKAcKHAc
LAcMAcNAcNGAcOcOEcPAcPHAcSAcSHAcTAcTHAcTONE dMYA eBOeCYAeJEUeNAeTIdNA POcTSAcTSHAcUcUEcUHcWAcXAcYA
cYHAcZAcZHAbPUNCTUATION cCOMMAcFULL STOPaLIVRE TOURNOIS SIGNaLIZARDaLLAMAaLOBSTERaLOCKaLOCK WITH I
NK PENaLOCKING-SHIFT bONEbZEROaLOGICAL bANDbAND WITH cDOT ABOVEcDOUBLE dOVERBARdUNDERBARcHORIZONTA
L DASHcMIDDLE STEMcUNDERBARbORbOR cOVERLAPPING LOGICAL ANDcWITH dDOT ABOVEdDOUBLE eOVERBAReUNDERBA
RdHORIZONTAL DASHdMIDDLE STEMaLOLLIPOPaLONG bDASH FROM LEFT MEMBER OF DOUBLE VERTICALbDIVISIONbDRU
MbLEFT cRIGHT dARROWdDOUBLE ARROWcTACKbLEFTWARDS cARROWcARROW FROM BARcDOUBLE dARROWdARROW FROM BA
RcSQUIGGLE ARROWbRIGHT TACKbRIGHTWARDS cARROWcARROW FROM BARcDOUBLE dARROWdARROW FROM BARcSQUIGGL
E ARROWaLOTION BOTTLEaLOTUSaLOUDLY CRYING FACEaLOVE bHOTELbLETTERaLOW bASTERISKbBATTERYbBRIGHTNES
S SYMBOLbDOUBLE PRIME QUOTATION MARKbKAVYKAbKAVYKA WITH DOTbLINEaLOWER bBLADE SCISSORSbFIVE EIGHTH
S BLOCKbHALF cBLOCKcCIRCLEcINVERSE WHITE CIRCLEcMEDIUM SHADEbLEFT cBALLPOINT PENcBLOCK DIAGONAL dL
OWER MIDDLE LEFT TO LOWER eCENTREeRIGHTdUPPER eCENTRE TO fLOWER gMIDDLE RIGHTgRIGHTfUPPER MIDDLE R
IGHTeLEFT TO fLOWER gCENTREgMIDDLE RIGHTfUPPER MIDDLE RIGHTeMIDDLE LEFT TO LOWER fCENTREfMIDDLE RI
GHTfRIGHTcCRAYONcFOUNTAIN PENcPAINTBRUSHcPENCILcQUADRANT CIRCULAR ARCcSEMICIRCULAR ANTICLOCKWISE A
RROWcTRIANGLEcTRIANGULAR MEDIUM SHADEbONE cEIGHTH BLOCKcQUARTER BLOCKbRIGHT cBLOCK DIAGONAL dLOWE
R eCENTRE TO fLOWER MIDDLE RIGHTfUPPER gMIDDLE RIGHTgRIGHTeLEFT TO fLOWER MIDDLE RIGHTfUPPER gCENT
REgMIDDLE RIGHTeMIDDLE LEFT TO UPPER fCENTREfMIDDLE RIGHTfRIGHTdUPPER MIDDLE LEFT TO UPPER eCENTRE
eRIGHTcCORNER WITH DOTcDROP-SHADOWED WHITE SQUAREcPENCILcQUADRANT CIRCULAR ARCcSEMICIRCULAR CLOCKW
ISE ARROWcSHADOWED WHITE dCIRCLEdSQUAREcTRIANGLEcTRIANGULAR MEDIUM SHADEbSEVEN EIGHTHS BLOCKbTHRE
E cEIGHTHS BLOCKcQUARTERS BLOCKbTRIANGULAR ONE QUARTER BLOCKaLOZENGEaLOZENGE DIVIDED BY HORIZONTA
L RULEaLREaLRIaLRMaLROaLUGGAGEaLUNGSaLYCIAN LETTER bAbANbBbBHbDbEbENbGbHbIbJbKbKKbLbMbMMbNbNNbPbQb
RbSbTbTHbTTbUbWbXbZaLYDIAN bLETTER cAcANcBcCcDcEcENcFcGcIcKcLcLYcMcNcNNcOcQcRcScSScTcTTcUcVcYbTRIA
NGULAR MARKaLYING FACEaMACRONaMAGEaMAGIC WANDaMAGNETaMAHAJANI bABBREVIATION SIGNbLETTER cAcBAcBHAc
CAcCHAcDAcDDAcDDHAcDHAcEcGAcGHAcHAcIcJAcJHAcKAcKHAcLAcMAcNAcNNAcNYAcOcPAcPHAcRAcRRAcSAcTAcTHAcTTAc
TTHAcUcVAbLIGATURE SHRIbSECTION MARKbSIGN NUKTAaMAHJONG TILE bAUTUMNbBACKbBAMBOObCHRYSANTHEMUMbEAS
T WINDbEIGHT OF cBAMBOOScCHARACTERScCIRCLESbFIVE OF cBAMBOOScCHARACTERScCIRCLESbFOUR OF cBAMBOOScC
HARACTERScCIRCLESbGREEN DRAGONbJOKERbNINE OF cBAMBOOScCHARACTERScCIRCLESbNORTH WINDbONE OF cBAMBOO
ScCHARACTERScCIRCLESbORCHIDbPLUMbRED DRAGONbSEVEN OF cBAMBOOScCHARACTERScCIRCLESbSIX OF cBAMBOOScC
HARACTERScCIRCLESbSOUTH WINDbSPRINGbSUMMERbTHREE OF cBAMBOOScCHARACTERScCIRCLESbTWO OF cBAMBOOScCH
ARACTERScCIRCLESbWEST WINDbWHITE DRAGONbWINTERaMAKASAR bANGKAbEND OF SECTIONbLETTER cAcBAcCAcDAcGA
cJAcKAcLAcMAcNAcNGAcNYAcPAcRAcSAcTAcVAcYAbPASSIMBANGbVOWEL SIGN cEcIcOcUaMALAYALAM bAU LENGTH MARK
bDATE MARKbDIGIT cEIGHTcFIVEcFOURcNINEcONEcSEVENcSIXcTHREEcTWOcZERObFRACTION cONE dEIGHTHdFIFTHdFO
RTIETHdHALFdONE-HUNDRED-AND-SIXTIETHdQUARTERdSIXTEENTHdTENTHdTWENTIETHcTHREE dEIGHTIETHSdQUARTERSd
SIXTEENTHSdTWENTIETHSbLETTER cAcAAcAIcARCHAIC IIcAUcBAcBHAcCAcCHAcCHILLU dKdLdLLdLLLdMdNdNNdRRdYcD
AcDDAcDDHAcDHAcDOT REPHcEcEEcGAcGHAcHAcIcIIcJAcJHAcKAcKHAcLAcLLAcLLLAcMAcNAcNGAcNNAcNNNAcNYAcOcOOc
PAcPHAcRAcRRAcSAcSHAcSSAcTAcTHAcTTAcTTHAcTTTAcUcUUcVAcVEDIC ANUSVARAcVOCALIC dLdLLdRdRRcYAbNUMBE
R cONE dHUNDREDdTHOUSANDcTENbSIGN cANUSVARAcAVAGRAHAcCANDRABINDUcCIRCULAR VIRAMAcCOMBINING ANUSVAR
A ABOVEcPARAcVERTICAL BAR VIRAMAcVIRAMAcVISARGAbVOWEL SIGN cAAcAIcAUcEcEEcIcIIcOcOOcUcUUcVOCALIC d
LdLLdRdRRaMALE bAND FEMALE SIGNbSIGNbWITH STROKE cAND MALE AND FEMALE SIGNcSIGNaMALTESE CROSSaMAMM
OTHaMANaMAN bAND WOMAN HOLDING HANDSbDANCINGbIN cBUSINESS SUIT LEVITATINGcTUXEDObWITH cGUA PI MAOc
TURBANaMANAT SIGNaMANDAIC bAFFRICATION MARKbGEMINATION MARKbLETTER cABcADcAGcAHcAINcAKcAKSAcALcAMc
ANcAPcAQcARcAScASHcASZcATcATTcAZcDUSHENNAcHALQAcINcITcKADcUSHENNAbPUNCTUATIONbVOCALIZATION MARKaMA
NGOaMANICHAEAN bABBREVIATION MARK cABOVEcBELOWbLETTER cAAYINcALEPHcAYINcBETHcBHETHcDALETHcDHAMEDHc
FEcGHIMELcGIMELcHEcHETHcJAYINcJHAYINcKAPHcKHAPHcLAMEDHcMEMcNUNcPEcQHOPHcQOPHcRESHcSADHEcSAMEKHcSHI
NcSSHINcTAWcTETHcTHAMEDHcWAWcXAPHcXOPHcYODHcZAYINcZHAYINbNUMBER cFIVEcONEcONE HUNDREDcTENcTWENTYbP
UNCTUATION cDOTcDOT WITHIN DOTcDOUBLE DOT WITHIN DOTcFLEURONcLINE FILLERcSTARcTWO DOTSbSIGN UDaMAN
S SHOEaMANTELPIECE CLOCKaMANUAL WHEELCHAIRaMAP SYMBOL FOR LIGHTHOUSEaMAPLE LEAFaMARCHEN bHEAD MARK
bLETTER c-AcAcBAcCAcCHAcDAcDZAcGAcHAcJAcKAcKHAcLAcMAcNAcNGAcNYAcPAcPHAcRAcSAcSHAcTAcTHAcTSAcTSHAcW
AcYAcZAcZHAbMARK SHADbSIGN cANUSVARAcCANDRABINDUbSUBJOINED LETTER cAcBAcCAcCHAcDAcDZAcGAcHAcJAcKAc
KHAcLAcMAcNAcNGAcNYAcPAcPHAcRAcSAcSHAcTAcTHAcTSAcTSHAcWAcYAcZAcZHAbVOWEL SIGN cAAcEcIcOcUaMARRIAG
E SYMBOLaMARTIAL ARTS UNIFORMaMASARAM GONDI bDIGIT cEIGHTcFIVEcFOURcNINEcONEcSEVENcSIXcTHREEcTWOcZ
ERObLETTER cAcAAcAIcAUcBAcBHAcCAcCHAcDAcDDAcDDHAcDHAcEcGAcGHAcHAcIcIIcJAcJHAcJNYAcKAcKHAcKSSAcLAcL
LAcMAcNAcNGAcNNAcNYAcOcPAcPHAcRAcSAcSHAcSSAcTAcTHAcTRAcTTAcTTHAcUcUUcVAcYAbRA-KARAbREPHAbSIGN cANU
SVARAcCANDRAcHALANTAcNUKTAcVISARGAbVIRAMAbVOWEL SIGN cAAcAIcAUcEcIcIIcOcUcUUcVOCALIC RaMASCULINE O
RDINAL INDICATORaMASK WORK SYMBOLaMASU MARKaMATE DRINKaMATHEMATICAL bBOLD cCAPITAL dAdALPHAdBdBETA
dCdCHIdDdDELTAdDIGAMMAdEdEPSILONdETAdFdGdGAMMAdHdIdIOTAdJdKdKAPPAdLdLAMDAdMdMUdNdNUdOdOMEGAdOMICRO
NdPdPHIdPIdPSIdQdRdRHOdSdSIGMAdTdTAUdTHETAdTHETA SYMBOLdUdUPSILONdVdWdXdXIdYdZdZETAcDIGIT dEIGHTdF
IVEdFOURdNINEdONEdSEVENdSIXdTHREEdTWOdZEROcEPSILON SYMBOLcFRAKTUR dCAPITAL eAeBeCeDeEeFeGeHeIeJeKe
LeMeNeOePeQeReSeTeUeVeWeXeYeZdSMALL eAeBeCeDeEeFeGeHeIeJeKeLeMeNeOePeQeReSeTeUeVeWeXeYeZcITALIC dC
APITAL eAeALPHAeBeBETAeCeCHIeDeDELTAeEeEPSILONeETAeFeGeGAMMAeHeIeIOTAeJeKeKAPPAeLeLAMDAeMeMUeNeNUe
OeOMEGAeOMICRONePePHIePIePSIeQeReRHOeSeSIGMAeTeTAUeTHETAeTHETA SYMBOLeUeUPSILONeVeWeXeXIeYeZeZETAd
EPSILON SYMBOLdKAPPA SYMBOLdNABLAdPARTIAL DIFFERENTIALdPHI SYMBOLdPI SYMBOLdRHO SYMBOLdSMALL eAeAL
PHAeBeBETAeCeCHIeDeDELTAeEeEPSILONeETAeFeFINAL SIGMAeGeGAMMAeHeIeIOTAeJeKeKAPPAeLeLAMDAeMeMUeNeNUe
OeOMEGAeOMICRONePePHIePIePSIeQeReRHOeSeSIGMAeTeTAUeTHETAeUeUPSILONeVeWeXeXIeYeZeZETAdTHETA SYMBOLc
KAPPA SYMBOLcNABLAcPARTIAL DIFFERENTIALcPHI SYMBOLcPI SYMBOLcRHO SYMBOLcSCRIPT dCAPITAL eAeBeCeDeE
eFeGeHeIeJeKeLeMeNeOePeQeReSeTeUeVeWeXeYeZdSMALL eAeBeCeDeEeFeGeHeIeJeKeLeMeNeOePeQeReSeTeUeVeWeXe
YeZcSMALL dAdALPHAdBdBETAdCdCHIdDdDELTAdDIGAMMAdEdEPSILONdETAdFdFINAL SIGMAdGdGAMMAdHdIdIOTAdJdKdK
APPAdLdLAMDAdMdMUdNdNUdOdOMEGAdOMICRONdPdPHIdPIdPSIdQdRdRHOdSdSIGMAdTdTAUdTHETAdUdUPSILONdVdWdXdXI
dYdZdZETAcTHETA SYMBOLbDOUBLE-STRUCK cCAPITAL dAdBdDdEdFdGdIdJdKdLdMdOdSdTdUdVdWdXdYcDIGIT dEIGHTd
FIVEdFOURdNINEdONEdSEVENdSIXdTHREEdTWOdZEROcSMALL dAdBdCdDdEdFdGdHdIdJdKdLdMdNdOdPdQdRdSdTdUdVdWdX
dYdZbFALLING DIAGONALbFRAKTUR cCAPITAL dAdBdDdEdFdGdJdKdLdMdNdOdPdQdSdTdUdVdWdXdYcSMALL dAdBdCdDdE
dFdGdHdIdJdKdLdMdNdOdPdQdRdSdTdUdVdWdXdYdZbITALIC cCAPITAL dAdALPHAdBdBETAdCdCHIdDdDELTAdEdEPSILON
dETAdFdGdGAMMAdHdIdIOTAdJdKdKAPPAdLdLAMDAdMdMUdNdNUdOdOMEGAdOMICRONdPdPHIdPIdPSIdQdRdRHOdSdSIGMAdT
dTAUdTHETAdTHETA SYMBOLdUdUPSILONdVdWdXdXIdYdZdZETAcEPSILON SYMBOLcKAPPA SYMBOLcNABLAcPARTIAL DIFF
ERENTIALcPHI SYMBOLcPI SYMBOLcRHO SYMBOLcSMALL dAdALPHAdBdBETAdCdCHIdDdDELTAdDOTLESS eIeJdEdEPSILO
NdETAdFdFINAL SIGMAdGdGAMMAdIdIOTAdJdKdKAPPAdLdLAMDAdMdMUdNdNUdOdOMEGAdOMICRONdPdPHIdPIdPSIdQdRdRH
OdSdSIGMAdTdTAUdTHETAdUdUPSILONdVdWdXdXIdYdZdZETAcTHETA SYMBOLbLEFT cANGLE BRACKETcDOUBLE ANGLE BR
ACKETcFLATTENED PARENTHESIScWHITE dSQUARE BRACKETdTORTOISE SHELL BRACKETbMONOSPACE cCAPITAL dAdBdC
dDdEdFdGdHdIdJdKdLdMdNdOdPdQdRdSdTdUdVdWdXdYdZcDIGIT dEIGHTdFIVEdFOURdNINEdONEdSEVENdSIXdTHREEdTWO
dZEROcSMALL dAdBdCdDdEdFdGdHdIdJdKdLdMdNdOdPdQdRdSdTdUdVdWdXdYdZbRIGHT cANGLE BRACKETcDOUBLE ANGL
E BRACKETcFLATTENED PARENTHESIScWHITE dSQUARE BRACKETdTORTOISE SHELL BRACKETbRISING DIAGONALbSANS-
SERIF cBOLD dCAPITAL eAeALPHAeBeBETAeCeCHIeDeDELTAeEeEPSILONeETAeFeGeGAMMAeHeIeIOTAeJeKeKAPPAeLeLA
MDAeMeMUeNeNUeOeOMEGAeOMICRONePePHIePIePSIeQeReRHOeSeSIGMAeTeTAUeTHETAeTHETA SYMBOLeUeUPSILONeVeWe
XeXIeYeZeZETAdDIGIT eEIGHTeFIVEeFOUReNINEeONEeSEVENeSIXeTHREEeTWOeZEROdEPSILON SYMBOLdITALIC eCAPI
TAL fAfALPHAfBfBETAfCfCHIfDfDELTAfEfEPSILONfETAfFfGfGAMMAfHfIfIOTAfJfKfKAPPAfLfLAMDAfMfMUfNfNUfOfO
MEGAfOMICRONfPfPHIfPIfPSIfQfRfRHOfSfSIGMAfTfTAUfTHETAfTHETA SYMBOLfUfUPSILONfVfWfXfXIfYfZfZETAeEPS
ILON SYMBOLeKAPPA SYMBOLeNABLAePARTIAL DIFFERENTIALePHI SYMBOLePI SYMBOLeRHO SYMBOLeSMALL fAfALPHA
fBfBETAfCfCHIfDfDELTAfEfEPSILONfETAfFfFINAL SIGMAfGfGAMMAfHfIfIOTAfJfKfKAPPAfLfLAMDAfMfMUfNfNUfOfO
MEGAfOMICRONfPfPHIfPIfPSIfQfRfRHOfSfSIGMAfTfTAUfTHETAfUfUPSILONfVfWfXfXIfYfZfZETAeTHETA SYMBOLdKAP
PA SYMBOLdNABLAdPARTIAL DIFFERENTIALdPHI SYMBOLdPI SYMBOLdRHO SYMBOLdSMALL eAeALPHAeBeBETAeCeCHIeD
eDELTAeEeEPSILONeETAeFeFINAL SIGMAeGeGAMMAeHeIeIOTAeJeKeKAPPAeLeLAMDAeMeMUeNeNUeOeOMEGAeOMICRONePe
PHIePIePSIeQeReRHOeSeSIGMAeTeTAUeTHETAeUeUPSILONeVeWeXeXIeYeZeZETAdTHETA SYMBOLcCAPITAL dAdBdCdDdE
dFdGdHdIdJdKdLdMdNdOdPdQdRdSdTdUdVdWdXdYdZcDIGIT dEIGHTdFIVEdFOURdNINEdONEdSEVENdSIXdTHREEdTWOdZER
OcITALIC dCAPITAL eAeBeCeDeEeFeGeHeIeJeKeLeMeNeOePeQeReSeTeUeVeWeXeYeZdSMALL eAeBeCeDeEeFeGeHeIeJe
KeLeMeNeOePeQeReSeTeUeVeWeXeYeZcSMALL dAdBdCdDdEdFdGdHdIdJdKdLdMdNdOdPdQdRdSdTdUdVdWdXdYdZbSCRIP
T cCAPITAL dAdCdDdGdJdKdNdOdPdQdSdTdUdVdWdXdYdZcSMALL dAdBdCdDdFdHdIdJdKdLdMdNdPdQdRdSdTdUdVdWdXdY
dZaMAXIMIZEaMAYAN NUMERAL bEIGHTbEIGHTEENbELEVENbFIFTEENbFIVEbFOURbFOURTEENbNINEbNINETEENbONEbSEVE
NbSEVENTEENbSIXbSIXTEENbTENbTHIRTEENbTHREEbTWELVEbTWObZEROaMEASURED bANGLEbANGLE cOPENING LEFTcWIT
H OPEN ARM ENDING IN ARROW POINTING dDOWN AND eLEFTeRIGHTdLEFT AND eDOWNeUPdRIGHT AND eDOWNeUPdU
P AND eLEFTeRIGHTbBYbRIGHT ANGLE WITH DOTaMEAT ON BONEaMECHANICAL bARMbLEGaMEDEFAIDRIN bCAPITAL LE
TTER cAcAIcATIUcBcCcDcEcFcGcHcHPcIcJcKcKPcLcMcNcNGcNYcOcOEcPcQcRcScTcUcVcWcXcYcYUcZbCOMMAbDIGIT cE
IGHTcFIVEcFOURcNINEcONEcONE ALTERNATE FORMcSEVENcSIXcTHREEcTHREE ALTERNATE FORMcTWOcTWO ALTERNAT
E FORMcZERObEXCLAMATION OHbFULL STOPbNUMBER cEIGHTEENcELEVENcFIFTEENcFOURTEENcNINETEENcSEVENTEENcS
IXTEENcTENcTHIRTEENcTWELVEbSMALL LETTER cAcAIcATIUcBcCcDcEcFcGcHcHPcIcJcKcKPcLcMcNcNGcNYcOcOEcPcQc
RcScTcUcVcWcXcYcYUcZbSYMBOL AIVAaMEDIEVAL bCOMMAbEXCLAMATION MARKbQUESTION MARKaMEDIUM bBLACK CIRC
LEbBOLD WHITE CIRCLEbEIGHT cPOINTED BLACK STARcSPOKED ASTERISKbFIVE SPOKED ASTERISKbFLATTENED cLEF
T PARENTHESIS ORNAMENTcRIGHT PARENTHESIS ORNAMENTbFOUR POINTED cBLACK STARcPINWHEEL STARbGREEK CRO
SSbLEFT cCURLY BRACKET ORNAMENTcPARENTHESIS ORNAMENTbLEFT-POINTING ANGLE BRACKET ORNAMENTbMATHEMAT
ICAL SPACEbRIGHT cCURLY BRACKET ORNAMENTcPARENTHESIS ORNAMENTbRIGHT-POINTING ANGLE BRACKET ORNAMEN
TbSALTIREbSHADEbSIX cPOINTED BLACK STARcSPOKED ASTERISKbSMALL WHITE CIRCLEbTHREE POINTED cBLACK ST
ARcPINWHEEL STARbVERTICAL BARbWHITE cCIRCLEcSQUAREaMEETEI MAYEK bAHANG KHUDAMbANJIbAPUN IYEKbCHEIK
HANbCHEIKHEIbDIGIT cEIGHTcFIVEcFOURcNINEcONEcSEVENcSIXcTHREEcTWOcZERObLETTER cATIYAcBAcBHAMcCHAcCH
ILcDDAcDDHAcDHOUcDILcEcGHOUcGOKcHUKcIcI LONSUMcJHAMcJILcKHOUcKOKcKOK LONSUMcLAIcLAI LONSUMcMITcMI
T LONSUMcNAcNA LONSUMcNGOUcNGOU LONSUMcNNAcNYAcOcPAcPA LONSUMcPHAMcRAIcSAMcSHAcSSAcTHOUcTILcTIL LO
NSUMcTTAcTTHAcUNcWAIcYANGbLUM IYEKbSYLLABLE REPETITION MARKbVIRAMAbVOWEL SIGN cAAIcAAUcANAPcAUcCHE
INAPcIIcINAPcNUNGcONAPcSOUNAPcUNAPcUUcVISARGAcYENAPbWORD REPETITION MARKaMELONaMELTING FACEaMEMOaM
ENDE KIKAKUI bCOMBINING NUMBER cHUNDRED THOUSANDScHUNDREDScMILLIONScTEENScTEN THOUSANDScTENScTHOUS
ANDSbDIGIT cEIGHTcFIVEcFOURcNINEcONEcSEVENcSIXcTHREEcTWObSYLLABLE cM001 KIcM002 KAcM003 KUcM004 WI
cM005 WAcM006 WUcM007 MINcM008 MANcM009 MUNcM010 BIcM011 BAcM012 BUcM013 IcM014 AcM015 UcM016 DIcM
017 DAcM018 DUcM019 SIcM020 SAcM021 SUcM022 TIcM023 TAcM024 TUcM025 LIcM026 LAcM027 LUcM028 JIcM02
9 JAcM030 JUcM031 YIcM032 YAcM033 YUcM034 FIcM035 FAcM036 FUcM037 NINcM038 NANcM039 NUNcM040 HEEcM
041 HAcM042 HOOcM043 NGGAcM044 KPEEcM045 WOcM046 HUANcM047 MBEEcM048 KOcM049 WVAcM050 PUcM051 PEcM
052 HENcM053 HINcM054 LOOcM055 TEcM056 GBAcM057 NGONcM058 NYANcM059 MENcM060 NYONcM061 WVIcM062 MB
AcM063 JOcM064 NDOcM065 KEEcM066 POcM067 NDOOcM068 PIcM069 TOcM070 GBOcM071 GBOOcM072 MBEcM073 LEc
M074 KPUcM075 FEcM076 KOOcM077 VOcM078 FEEcM079 SOcM080 YEcM081 PEEcM082 NGGUcM083 HEEIcM084 LEEcM
085 VEcM086 LONG NGGEcM087 HUNcM088 FOcM089 DEEcM090 NGGIcM091 TEEcM092 KPAcM093 GBEEcM094 MONcM09
5 KEcM096 HEcM097 BEcM098 NYENcM099 PAcM100 EcM101 FANcM102 POOcM103 BOOcM104 TOOcM105 LONG MBOOcM
106 LONG NGGOOcM107 GBEcM108 KPEcM109 YEEcM110 LONG LEcM111 GAcM112 KPOOcM113 JEcM114 WOOcM115 NGG
EEcM116 SEcM117 NENcM118 WEcM119 NDEcM120 NGGOcM121 YOcM122 MBUcM123 NDIcM124 GBIcM125 NDUcM126 WE
EcM127 NGGUAcM128 HOOUcM129 NDAcM130 HANcM131 INcM132 KPIcM133 FOOcM134 NJOOcM135 INcM136 SOOcM13
7 EIcM138 BOcM139 WVEcM140 HOcM141 YOOcM142 LONG MBOcM143 WEIcM144 VOOcM145 MBIcM146 NGGEcM147 OcM
148 GBUcM149 NJEEcM150 BEEcM151 VUcM152 NJAcM153 LOcM154 MUANcM155 GIcM156 NGGOOcM157 JEEcM158 KPO
cM159 NGGAAcM160 JOOcM161 LONG MBEcM162 SEEcM163 EEcM164 NYINcM165 OOcM166 GUEIcM167 GUANcM168 GUc
M169 NONcM170 NYUNcM171 RAcM172 MBOOcM173 VEEcM174 MBOcM175 LONG JOcM176 HIcM177 NGUANcM178 ENcM17
9 KUAcM180 DOOcM181 DOcM182 VIcM183 LONG NGGOcM184 NGENcM185 VAcM186 HUcM187 MBUUcM188 MBEEcM189 M
UENcM190 GEEcM191 NDEEcM192 NJUcM193 HONcM194 WUIcM195 ANcM196 SIAcM197 FUAaMENORAH WITH NINE BRAN
CHESaMENS SYMBOLaMERCURYaMEROITIC bCURSIVE cFRACTION dEIGHT TWELFTHSdELEVEN TWELFTHSdFIVE TWELFTHS
dFOUR TWELFTHSdNINE TWELFTHSdONE eHALFeTWELFTHdSEVEN TWELFTHSdSIX TWELFTHSdTEN TWELFTHSdTHREE TWEL
FTHSdTWO TWELFTHScLETTER dAdARCHAIC SAdBAdDAdEdHHAdIdKAdKHAdLAdMAdNAdNEdOdPAdQAdRAdSAdSEdTAdTEdTOd
WAdYAcLOGOGRAM dIMNdRMTcNUMBER dEIGHTdEIGHT eHUNDREDeHUNDRED THOUSANDeTHOUSANDdEIGHTY THOUSANDdFIF
TYdFIFTY THOUSANDdFIVEdFIVE eHUNDREDeHUNDRED THOUSANDeTHOUSANDdFORTYdFORTY THOUSANDdFOURdFOUR eHUN
DREDeHUNDRED THOUSANDeTHOUSANDdNINEdNINE eHUNDREDeHUNDRED THOUSANDeTHOUSANDdNINETY THOUSANDdONEdON
E eHUNDREDeHUNDRED THOUSANDeTHOUSANDdSEVENdSEVEN eHUNDREDeHUNDRED THOUSANDeTHOUSANDdSEVENTYdSEVENT
Y THOUSANDdSIXdSIX eHUNDREDeHUNDRED THOUSANDeTHOUSANDdSIXTYdSIXTY THOUSANDdTENdTEN THOUSANDdTHIRTY
dTHIRTY THOUSANDdTHREEdTHREE eHUNDREDeHUNDRED THOUSANDeTHOUSANDdTWENTYdTWENTY THOUSANDdTWOdTWO eHU
NDREDeHUNDRED THOUSANDeTHOUSANDbHIEROGLYPHIC cLETTER dAdBAdBA-2dDAdEdHHAdIdKAdKHAdLAdMAdNAdNA-2dNE
dNE-2dOdPAdQAdRAdRA-2dSAdSA-2dSEdTAdTA-2dTEdTE-2dTOdWAdYAcSYMBOL dVIDJdVIDJ-2aMERPERSONaMESSAGE WA
ITINGaMETRICAL bBREVEbLONG OVER cSHORTcTWO SHORTSbPENTASEMEbSHORT OVER LONGbTETRASEMEbTRISEMEbTW
O SHORTS cJOINEDcOVER LONGaMETROaMIAO bLETTER cAHcARCHAIC dMAdNAdNGAdZZAcBAcBRIcDAcDDAcDLHAcDLHYAc
DZAcDZHAcDZYIcDZZAcFAcGAcGHAcGHHAcHAcHHAcKAcLAcLHAcLHYAcLYAcMAcMHAcNAcNASALIZATIONcNGAcNGHAcNHAcNN
AcNNHAcNYAcNYHAcPAcPLAcQAcQGAcREFORMED dTONE-e1e2e4e5e6e8dTSHAcRTEcSAcSHAcSSAcSYIcTAcTEcTLHAcTLHYA
cTONE-d2d3d4d5d6d7d8cTSAcTSEcTSHAcTSSAcTTAcVAcVFAcWAcXAcYI dDZHAdKAdNNAdPAdTAdTSAdTSHAdTTAcZAcZHAc
ZSAcZSHAcZZAcZZSAcZZSYAcZZYAbSIGN cASPIRATIONcCONSONANT MODIFIER BARcREFORMED dASPIRATIONdVOICINGb
TONE cABOVEcBELOWcRIGHTcTOP RIGHTbVOWEL SIGN cAcAAcAEcAEEcAHHcAIcANcANGcAUcEcEAcEIcENcENGcERcERRcI
cIAcIANcIANGcIEcIGcIIcINGcIOcIONGcIUcNcNGcOcOERcOEYcOGcOOcOUcROUNDED dERdERRcUcUAcUANcUANGcUEIcUIc
UNGcUOGcUUcVWcWcWOcYcYIcYUIaMICR bDASH SYMBOLbON US SYMBOLaMICRO SIGNaMICROBEaMICROPHONEaMICROSCOP
EaMIDDLE bDOTbTHIRD WHITE RIGHT POINTING INDEXaMIDLINE HORIZONTAL ELLIPSISaMILITARY bHELMETbMEDALa
MILKY WAYaMILL SIGNaMINIBUSaMINIDISCaMINIMIZEaMINUS bSIGNbSIGN cIN TRIANGLEcWITH dCOMMA ABOVEdDO
T BELOWdFALLING DOTSdRISING DOTSbTILDEaMINUS-OR-PLUS SIGNaMINYaMIRRORaMIRROR BALLaMMSPaMOBILE bPHO
NEbPHONE cOFFcWITH RIGHTWARDS ARROW AT LEFTaMODELSaMODERN PENTATHLONaMODI bABBREVIATION SIGNbDANDA
bDIGIT cEIGHTcFIVEcFOURcNINEcONEcSEVENcSIXcTHREEcTWOcZERObDOUBLE DANDAbLETTER cAcAAcAIcAUcBAcBHAcC
AcCHAcDAcDDAcDDHAcDHAcEcGAcGHAcHAcIcIIcJAcJHAcKAcKHAcLAcLLAcMAcNAcNGAcNNAcNYAcOcPAcPHAcRAcSAcSHAcS
SAcTAcTHAcTTAcTTHAcUcUUcVAcVOCALIC dLdLLdRdRRcYAbSIGN cANUSVARAcARDHACANDRAcHUVAcVIRAMAcVISARGAbVO
WEL SIGN cAAcAIcAUcEcIcIIcOcUcUUcVOCALIC dLdLLdRdRRaMODIFIER bBREVE WITH INVERTED BREVEbLETTER cAC
UTE ACCENTcALVEOLAR CLICKcAPOSTROPHEcBEGIN dHIGH TONEdLOW TONEcBILABIAL CLICKcCAPITAL dAdAEdBdBARR
ED BdCdDdEdFdGdHdH WITH STROKEdIdJdKdLdMdNdOdOUdPdQdRdREVERSED eEeNdTdUdVdWcCENTRED dLEFT HALF RIN
GdRIGHT HALF RINGcCHINESE TONE dYANG ePINGeQUeRUeSHANGdYIN ePINGeQUeRUeSHANGcCIRCUMFLEX ACCENTcCOL
ONcCROSS ACCENTcCYRILLIC dENdHARD SIGNdSOFT SIGNcDENTAL CLICKcDOT dHORIZONTAL BARdSLASHdVERTICAL B
ARcDOUBLE dAPOSTROPHEdPRIMEcDOWN dARROWHEADdTACKcEND dHIGH TONEdLOW TONEcEXTRA-dHIGH eDOTTED fLEFT
-STEM TONE BARfTONE BAReLEFT-STEM TONE BAReTONE BARdLOW eDOTTED fLEFT-STEM TONE BARfTONE BAReLEFT-
STEM TONE BAReTONE BARcGEORGIAN NARcGLOTTAL dSTOPdSTOP WITH STROKEcGRAVE ACCENTcHALF TRIANGULAR CO
LONcHIGH dDOTTED eLEFT-STEM TONE BAReTONE BARdLEFT-STEM TONE BARdTONE BARcLATERAL CLICKcLEFT dARRO
WHEADdHALF RINGdTACKcLOW dACUTE ACCENTdCIRCUMFLEX ACCENTdDOTTED eLEFT-STEM TONE BAReTONE BARdDOW
N ARROWHEADdGRAVE ACCENTdINVERTED EXCLAMATION MARKdLEFT eARROWeARROWHEADdLEFT-STEM TONE BARdMACRON
dRIGHT ARROWHEADdRINGdTILDEdTONE BARdUP ARROWHEADdVERTICAL LINEcLOWER RIGHT CORNER ANGLEcMACRONcMI
D dDOTTED eLEFT-STEM TONE BAReTONE BARdLEFT-STEM TONE BARdTONE BARcMIDDLE dDOUBLE eACUTE ACCENTeGR
AVE ACCENTdGRAVE ACCENTcMINUS SIGNcOPEN SHELFcPLUS SIGNcPRIMEcRAISED dCOLONdDOWN ARROWdEXCLAMATIO
N MARKdINVERTED EXCLAMATION MARKdUP ARROWcRETROFLEX CLICK WITH RETROFLEX HOOKcREVERSED dCOMMAdGLOT
TAL eSTOPeSTOP WITH STROKEcRHOTIC HOOKcRIGHT dARROWHEADdHALF RINGdTACKcSHELFcSHORT EQUALS SIGNcSMA
LL dAdAEdAINdALPHAdBdB WITH HOOKdBARRED OdBETAdBOTTOM HALF OdCdC WITH CURLdCAPITAL eAAeBeGeG WIT
H HOOKeHeIeI WITH STROKEeINVERTED ReLeL WITH BELTeNeOEeReUeYdCHIdCLOSED eOMEGAeREVERSED OPEN EdDd
D WITH eHOOKeHOOK AND TAILeTAILdDELTAdDEZH DIGRAPHdDOTLESS J WITH eSTROKEeSTROKE AND HOOKdDZ eDIGR
APHeDIGRAPH WITH fCURLfRETROFLEX HOOKdEdENGdESHdETHdEZHdFdFENG DIGRAPHdGdG WITH HOOKdGAMMAdGREEK e
GAMMAePHIdHdH WITH eHOOKeSTROKEdHENGdHENG WITH HOOKdI WITH STROKEdIOTAdJdJ WITH CROSSED-TAILdKdLd
L WITH eBELTeINVERTED LAZY SeMIDDLE TILDEePALATAL HOOKeRETROFLEX fHOOKfHOOK AND BELTdLEZHdLEZH WIT
H RETROFLEX HOOKdLIGATURE OEdLS DIGRAPHdLZ DIGRAPHdMdM WITH HOOKdN WITH eLEFT HOOKeRETROFLEX HOOKd
OdO WITH STROKEdOPEN eEeOdPdPHIdQdRdR WITH eFISHHOOKeTAILdRAMS HORNdREVERSED eEeGLOTTAL STOPeOPE
N EdSdS WITH eCURLeHOOKdSCHWAdSCRIPT GdSIDEWAYS UdTdT WITH ePALATAL HOOKeRETROFLEX HOOKdTC DIGRAP
H WITH CURLdTESH DIGRAPHdTHETAdTOP HALF OdTS eDIGRAPHeDIGRAPH WITH RETROFLEX HOOKdTURNED eAeAEeALP
HAeHeIeMeM WITH LONG LEGeOPEN EeReR WITH fHOOKfLONG gLEGgLEG AND RETROFLEX HOOKeVeWeYeY WITH BELTd
UdU eBAReWITH LEFT HOOKdUPSILONdVdV WITH eHOOKeRIGHT HOOKdWdXdYdZdZ WITH eCURLeRETROFLEX HOOKcSTRE
SS AND dHIGH TONEdLOW TONEcSUPERSCRIPT dHALF TRIANGULAR COLONdTRIANGULAR COLONcTRIANGULAR COLONcTU
RNED COMMAcUNASPIRATEDcUP dARROWHEADdTACKcUScVERTICAL LINEcVOICINGcYANG DEPARTING TONE MARKcYIN DE
PARTING TONE MARKaMODULO TWO SUMaMONEY bBAGbWITH WINGSaMONEY-MOUTH FACEaMONGOLIAN bBIRGAbBIRGA WIT
H cDOUBLE ORNAMENTcORNAMENTbCOLONbCOMMAbDIGIT cEIGHTcFIVEcFOURcNINEcONEcSEVENcSIXcTHREEcTWOcZERObD
OUBLE BIRGA WITH ORNAMENTbELLIPSISbFOUR DOTSbFREE VARIATION SELECTOR cFOURcONEcTHREEcTWObFULL STOP
bINVERTED cBIRGAcBIRGA WITH DOUBLE ORNAMENTbLETTER cAcALI GALI dAdAHdANUSVARA ONEdBALUDAdCAdDAdDAG
ALGAdDAMARUdDDAdHALF eUeYAdIdINVERTED UBADAMAdKAdNGAdNNAdPAdPHAdSSAdTAdTHREE BALUDAdTTAdTTHAdUBADA
MAdVISARGA ONEdZAdZHAcANGcBAcCHAcCHA WITH TWO DOTScCHIcDAcEcEEcFAcGAcHAAcIcJAcKAcKHAcLAcLHAcMAcMAN
CHU dALI GALI eBHAeCAeCYAeDDHAeDHAeGHAeJHAeLHAeNGAeSSAeTAeTTAeZAeZHAdFAdIdKAdRAdZHAcNAcOcOEcPAcQAc
RAcSAcSHAcSIBE dANGdCHAdDAdEdFAdGAdGAAdHAdHAAdIdIYdJAdKAdPAdRAAdSHAdTAdTSAdUdUEdZAdZHAcTAcTODO dAL
I GALI eTAeZHAdANGdBAdCHAdDAdDZAdEdGAdGAAdHAAdIdJAdJIAdKAdLONG VOWEL SIGNdMAdNIAdOdOEdPAdQAdTAdTSA
dUdUEdWAdYAcTSAcUcUEcWAcYAcZAcZHIcZRAbMANCHU cCOMMAcFULL STOPbNIRUGUbROTATED cBIRGAcBIRGA WITH dDO
UBLE ORNAMENTdORNAMENTbSIBE SYLLABLE BOUNDARY MARKERbSWIRL cBIRGAcBIRGA WITH dDOUBLE ORNAMENTdORNA
MENTbTODO SOFT HYPHENbTRIPLE BIRGA WITH ORNAMENTbTURNED SWIRL BIRGA WITH DOUBLE ORNAMENTbVOWEL SEP
ARATORaMONKEYaMONKEY FACEaMONOGRAM FOR bEARTHbYANGbYINaMONORAILaMONOSTABLE SYMBOLaMOOD BUBBLEaMOO
N bCAKEbVIEWING CEREMONYaMOSQUEaMOSQUITOaMOTHER CHRISTMASaMOTOR bBOATbSCOOTERaMOTORIZED WHEELCHAIR
aMOTORWAYaMOUNT FUJIaMOUNTAINaMOUNTAIN bBICYCLISTbCABLEWAYbRAILWAYaMOUSEaMOUSE bFACEbTRAPaMOUTHaMO
VIE CAMERAaMOYAIaMRO bDANDAbDIGIT cEIGHTcFIVEcFOURcNINEcONEcSEVENcSIXcTHREEcTWOcZERObDOUBLE DANDAb
LETTER cAcBAcCHUcDAcDAIcEcEAcHAIcHAOcKEAAEcKHAIcKOcLAcLANcMAEMcMIMcNGIcNINcOcOLcOOcPAcPHIcRIcROcSH
IcTAcTEKcTHEAcWAcYOaMUCH bGREATER-THANbLESS-THANaMULTANI bLETTER cAcBAcBHAcCAcCHAcDAcDDAcDDDAcDDHA
cDHAcEcGAcGHAcHAcIcJAcJJAcKAcKHAcLAcMAcNAcNNAcNYAcPAcPHAcRAcRHAcRRAcSAcTAcTHAcTTAcTTHAcUcVAcYAbSEC
TION MARKaMULTIMAPaMULTIPLE MUSICAL NOTESaMULTIPLICATION bSIGNbSIGN cIN dDOUBLE CIRCLEdLEFT HALF C
IRCLEdRIGHT HALF CIRCLEdTRIANGLEcWITH dDOT ABOVEdUNDERBARbXaMULTISETaMULTISET bMULTIPLICATIONbUNIO
NaMUSHROOMaMUSIC bFLAT SIGNbNATURAL SIGNbSHARP SIGNaMUSICAL bKEYBOARDbKEYBOARD WITH JACKSbNOTEbSCO
REbSYMBOL cARPEGGIATO dDOWNdUPcBEGIN dBEAMdPHRASEdSLURdTIEcBRACEcBRACKETcBREATH MARKcBREVEcBREVISc
BREVIS RESTcC CLEFcCAESURAcCIRCLE X NOTEHEADcCLIMACUScCLIVIScCLUSTER NOTEHEAD dBLACKdWHITEcCODAcCO
MBINING dACCENTdACCENT-STACCATOdAUGMENTATION DOTdBENDdDOITdDOUBLE TONGUEdDOWN BOWdFLAG-e1e2e3e4e5d
FLIPdHARMONICdLOUREdMARCATOdMARCATO-STACCATOdRIPdSMEARdSNAP PIZZICATOdSPRECHGESANG STEMdSTACCATISS
IMOdSTACCATOdSTEMdTENUTOdTREMOLO-e1e2e3dTRIPLE TONGUEdUP BOWcCOMMON TIMEcCRESCENDOcCROIXcCUT TIMEc
DA CAPOcDAL SEGNOcDAMPcDAMP ALLcDASHED BARLINEcDECRESCENDOcDEGREE SLASHcDOUBLE dBARLINEdFLATdSHARP
cDRUM CLEF-d1d2cEIGHTH dNOTEdRESTcEND dBEAMdOF STIMMEdPHRASEdSLURdTIEcF dCLEFdCLEF OTTAVA eALTAeBA
SSAcFERMATAcFERMATA BELOWcFINAL BARLINEcFINGERED TREMOLO-d1d2d3cFIVE-LINE STAFFcFLAT dDOWNdUPcFORT
EcFOUR-dLINE STAFFdSTRING FRETBOARDcFUSA dBLACKdWHITEcG dCLEFdCLEF OTTAVA eALTAeBASSAcGLISSANDO dD
OWNdUPcGRACE NOTE dNO SLASHdSLASHcGREGORIAN dC CLEFdF CLEFcHALF dNOTEdPEDAL MARKdRESTcHAUPTSTIMMEc
INVERTED TURNcKIEVAN dC CLEFdEIGHTH NOTE STEM eDOWNeUPdEND OF PIECEdFINAL NOTEdFLAT SIGNdHALF NOTE
dQUARTER NOTE STEM eDOWNeUPdRECITATIVE MARKdWHOLE NOTEcKORONcLEFT REPEAT SIGNcLONGAcLONGA dIMPERFE
CTA RESTdPERFECTA RESTcMAXIMAcMEZZOcMINIMAcMINIMA dBLACKdRESTcMOON NOTEHEAD dBLACKdWHITEcMULTI RES
TcMULTIPLE MEASURE RESTcNATURAL dDOWNdUPcNEBENSTIMMEcNOTEHEAD BLACKcNULL NOTEHEADcONE HUNDRED TWEN
TY-EIGHTH dNOTEdRESTcONE-LINE STAFFcORNAMENT STROKE-d1d10d11d2d3d4d5d6d7d8d9cOTTAVA dALTAdBASSAcPA
RENTHESIS NOTEHEADcPEDAL dMARKdUP MARKcPES SUBPUNCTIScPIANOcPLUS NOTEHEADcPODATUScPORRECTUScPORREC
TUS FLEXUScQUARTER dNOTEdRESTdTONE eFLATeSHARPcQUINDICESIMA dALTAdBASSAcREPEAT DOTScREPEATED FIGUR
E-d1d2d3cREVERSE FINAL BARLINEcRIGHT REPEAT SIGNcRINFORZANDOcSCANDICUScSCANDICUS FLEXUScSEGNOcSEMI
BREVIS dBLACKdRESTdWHITEcSEMIMINIMA dBLACKdRESTdWHITEcSHARP dDOWNdUPcSHORT BARLINEcSINGLE BARLINEc
SIX-dLINE STAFFdSTRING FRETBOARDcSIXTEENTH dNOTEdRESTcSIXTY-FOURTH dNOTEdRESTcSORIcSQUARE dBdNOTEH
EAD eBLACKeWHITEcSUBITOcTEMPUS dIMPERFECTUM CUM PROLATIONE eIMPERFECTAeIMPERFECTA DIMINUTION-f1f2f
3ePERFECTAdPERFECTUM CUM PROLATIONE eIMPERFECTAePERFECTAePERFECTA DIMINUTION-1cTHIRTY-SECOND dNOTE
dRESTcTHREE-LINE STAFFcTORCULUScTORCULUS RESUPINUScTRcTRIANGLE NOTEHEAD dDOWN eBLACKeWHITEdLEFT eB
LACKeWHITEdRIGHT eBLACKeWHITEdUP eBLACKeRIGHT fBLACKfWHITEeWHITEcTRIANGLE-ROUND NOTEHEAD DOWN dBLA
CKdWHITEcTURNcTURN dSLASHdUPcTWO-LINE STAFFcVIRGAcVOID NOTEHEADcWHOLE dNOTEdRESTcWITH FINGERNAILSc
X NOTEHEADcZaMVSaMWaMYANMAR bCONSONANT SIGN cMEDIAL dHAdRAdWAdYAcMON MEDIAL dLAdMAdNAcSHAN MEDIA
L WAbDIGIT cEIGHTcFIVEcFOURcNINEcONEcSEVENcSIXcTHREEcTWOcZERObLETTER cAcAITON RAcAUcBAcBHAcCAcCHAc
DAcDDAcDDHAcDHAcEcEASTERN PWO KAREN dGHWAdNNAdYWAcGAcGHAcGREAT SAcHAcIcIIcJAcJHAcKAcKHAcKHAMTI dCA
dCHAdDDAdDDHAdDHAdFAdGAdHAdHHAdJAdJHAdLLAdNAdNYAdRAdSAdTTAdTTHAdXAdZAcLAcLLAcMAcMON dBBAdBBEdEdJHA
dNGAcNAcNGAcNNAcNNYAcNYAcOcPAcPHAcRAcRUMAI PALAUNG FAcSAcSGAW KAREN SHAcSHAcSHAN dAdBAdBHAdCAdCHAd
DAdFAdGAdGHAdHAdJHAdKAdKHAdNAdNNAdNYAdPHAdTHAdZAcSHWE PALAUNG dCHAdSHAcSSAcTAcTAI LAING dBAdBHAdDA
dDDAdDDHAdDHAdFAdGAdGHAdJAdJHAdLLAdNNAdNYAcTHAcTTAcTTHAcUcUUcVOCALIC dLdLLdRdRRcWAcWESTERN PWO KAR
EN dPWAdTHAcYAbLOGOGRAM KHAMTI cHMcOAYcQNbMODIFIER LETTER cKHAMTI REDUPLICATIONcSHAN REDUPLICATION
bSHAN DIGIT cEIGHTcFIVEcFOURcNINEcONEcSEVENcSIXcTHREEcTWOcZERObSIGN cANUSVARAcASATcDOT BELOWcKHAMT
I TONE-d1d3cLITTLE SECTIONcPAO KAREN TONEcRUMAI PALAUNG TONE-5cSECTIONcSHAN dCOUNCIL eEMPHATIC TON
EeTONE-f2f3dSAWdTONE-e2e3e5e6cTAI LAING TONE-d2d5cVIRAMAcVISARGAcWESTERN PWO KAREN TONE-d1d2d3d4d5
bSYMBOL cAFOREMENTIONEDcAITON dEXCLAMATIONdONEdTWOcCOMPLETEDcGENITIVEcLOCATIVEcSHAN dEXCLAMATIONdO
NEbTAI LAING DIGIT cEIGHTcFIVEcFOURcNINEcONEcSEVENcSIXcTHREEcTWOcZERObTONE MARK SGAW KAREN cHATHIc
KE PHObVOWEL SIGN cAAcAIcAITON dAdAIcEcE ABOVEcGEBA KAREN IcIcIIcKAYAH dEEdOEdUcMON dIIdOcSGAW KAR
EN EUcSHAN dAAdEdE ABOVEdFINAL YcTALL AAcUcUUcVOCALIC dLdLLdRdRRcWESTERN PWO KAREN dEUdUEaN-ARY bC
IRCLED cDOT OPERATORcPLUS OPERATORcTIMES OPERATORbCOPRODUCTbINTERSECTIONbLOGICAL cANDcORbPRODUCTbS
QUARE cINTERSECTION OPERATORcUNION OPERATORbSUMMATIONbTIMES OPERATORbUNIONbUNION OPERATOR WITH cDO
TcPLUSbWHITE VERTICAL BARaNABATAEAN bCRUCIFORM NUMBER FOURbLETTER cALEPHcAYINcBETHcDALETHcFINAL dA
LEPHdBETHdHEdKAPHdLAMEDHdMEMdNUNdSHINdYODHcGIMELcHEcHETHcKAPHcLAMEDHcMEMcNUNcPEcQOPHcRESHcSADHEcSA
MEKHcSHINcTAWcTETHcWAWcYODHcZAYINbNUMBER cFIVEcFOURcONEcONE HUNDREDcTENcTHREEcTWENTYcTWOaNABLAaNAI
L POLISHaNAIRA SIGNaNAKaNAME BADGEaNANDaNANDINAGARI bHEADSTROKEbLETTER cAcAAcAIcAUcBAcBHAcCAcCHAcD
AcDDAcDDHAcDHAcEcGAcGHAcHAcIcIIcJAcJHAcKAcKHAcLAcLLAcMAcNAcNGAcNNAcNYAcOcPAcPHAcRAcRRAcSAcSHAcSSAc
TAcTHAcTTAcTTHAcUcUUcVAcVOCALIC dRdRRcYAbSIGN cANUSVARAcAVAGRAHAcSIDDHAMcVIRAMAcVISARGAbVOWEL SIG
N cAAcAIcAUcEcIcIIcOcPRISHTHAMATRA EcUcUUcVOCALIC dRdRRaNARROW NO-BREAK SPACEaNATIONAL bDIGIT SHAP
ESbPARKaNAUSEATED FACEaNAZAR AMULETaNBHaNBSPaNECKTIEaNEGATED DOUBLE VERTICAL BAR DOUBLE RIGHT TURN
STILEaNEGATIVE bACKNOWLEDGEbCIRCLED cDIGIT ZEROcLATIN CAPITAL LETTER dAdBdCdDdEdFdGdHdIdJdKdLdMdNd
OdPdQdRdSdTdUdVdWdXdYdZcNUMBER dEIGHTEENdELEVENdFIFTEENdFOURTEENdNINETEENdSEVENTEENdSIXTEENdTHIRTE
ENdTWELVEdTWENTYcSQUAREcTRIANGLEbDIAGONAL cCROSScDIAMONDcMIDDLE RIGHT TO LOWER CENTREbSQUARED cABc
CROSS MARKcICcLATIN CAPITAL LETTER dAdBdCdDdEdFdGdHdIdJdKdLdMdNdOdPdQdRdSdTdUdVdWdXdYdZcPAcQUESTIO
N MARKcSAcWCaNEITHER bA cSUBSET OF NOR EQUAL TOcSUPERSET OF NOR EQUAL TObAPPROXIMATELY NOR ACTUALL
Y EQUAL TObGREATER-THAN NOR cEQUAL TOcEQUIVALENT TOcLESS-THANbLESS-THAN NOR cEQUAL TOcEQUIVALENT T
OcGREATER-THANaNELaNEPTUNEaNEPTUNE FORM TWOaNERD FACEaNESSUSaNEST WITH EGGSaNESTING DOLLSaNEUTERaN
EUTRAL bCHESS cBISHOPcBISHOP ROTATED dNINETY DEGREESdTWO HUNDRED SEVENTY DEGREEScEQUIHOPPERcEQUIHO
PPER ROTATED NINETY DEGREEScKINGcKING ROTATED dNINETY DEGREESdTWO HUNDRED SEVENTY DEGREEScKNIGHTcK
NIGHT ROTATED dFORTY-FIVE DEGREESdNINETY DEGREESdONE HUNDRED THIRTY-FIVE DEGREESdTHREE HUNDRED FIF
TEEN DEGREESdTWO HUNDRED eSEVENTY DEGREESeTWENTY-FIVE DEGREEScPAWNcPAWN ROTATED dNINETY DEGREESdTW
O HUNDRED SEVENTY DEGREEScQUEENcQUEEN ROTATED dNINETY DEGREESdTWO HUNDRED SEVENTY DEGREEScROOKcROO
K ROTATED dNINETY DEGREESdTWO HUNDRED SEVENTY DEGREEScTURNED dBISHOPdKINGdKNIGHTdPAWNdQUEENdROOKbF
ACEaNEW bLINEbMOON cSYMBOLcWITH FACEbSHEQEL SIGNbTAI LUE cDIGIT dEIGHTdFIVEdFOURdNINEdONEdSEVENdSI
XdTHREEdTWOdZEROcLETTER dFINAL eBeDeKeMeNeNGeVdHIGH eBAeDAeFAeHAeKAeKVAeLAeMAeNAeNGAePAePHAeQAeSAe
SUAeTAeTHAeTSAeVAeXAeXVAeYAdLOW eBAeDAeFAeHAeKAeKVAeLAeMAeNAeNGAePAePHAeQAeSAeSUAeTAeTHAeTSAeVAeXA
eXVAeYAcSIGN dLAEdLAEVcTHAM DIGIT ONEcTONE MARK-d1d2cVOWEL SIGN dAAdAAYdAEdAYdEdIIdIYdOdOAdOAYdOYd
UdUEdUEYdUUdUYdVOWEL SHORTENERaNEWA bABBREVIATION SIGNbCOMMAbDANDAbDIGIT cEIGHTcFIVEcFOURcNINEcONE
cSEVENcSIXcTHREEcTWOcZERObDOUBLE cCOMMAcDANDAbGAP FILLERbINSERTION SIGNbLETTER cAcAAcAIcAUcBAcBHAc
CAcCHAcDAcDDAcDDHAcDHAcEcGAcGHAcHAcIcIIcJAcJHAcKAcKHAcLAcLHAcMAcMHAcNAcNGAcNGHAcNHAcNNAcNYAcNYHAcO
cPAcPHAcRAcRHAcSAcSHAcSSAcTAcTHAcTTAcTTHAcUcUUcVEDIC ANUSVARAcVOCALIC dLdLLdRdRRcWAcYAbOMbPLACEHOL
DER MARKbSANDHI MARKbSIDDHIbSIGN cANUSVARAcAVAGRAHAcCANDRABINDUcFINAL ANUSVARAcJIHVAMULIYAcNUKTAcU
PADHMANIYAcVIRAMAcVISARGAbVOWEL SIGN cAAcAIcAUcEcIcIIcOcUcUUcVOCALIC dLdLLdRdRRaNEWLINE bLEFTbRIGH
TaNEWSPAPERaNEXT bLINEbPAGEaNIGHT WITH STARSaNINJAaNKO bCOMBINING cDOUBLE DOT ABOVEcLONG dDESCENDI
NG TONEdHIGH TONEdLOW TONEdRISING TONEcNASALIZATION MARKcSHORT dHIGH TONEdLOW TONEdRISING TONEbCOM
MAbDANTAYALANbDIGIT cEIGHTcFIVEcFOURcNINEcONEcSEVENcSIXcTHREEcTWOcZERObDOROME SIGNbEXCLAMATION MAR
KbHIGH TONE APOSTROPHEbLAJANYALANbLETTER cAcBAcCHAcDAcDAGBASINNAcEcEEcFAcGBAcHAcIcJAcJONA dCHAdJAd
RAcKAcLAcMAcNcNAcNA WOLOSOcNYAcNYA WOLOSOcOcOOcPAcRAcRRAcSAcTAcUcWAcYAbLOW TONE APOSTROPHEbSYMBO
L cGBAKURUNENcOO DENNENbTAMAN SIGNaNLaNNBSPaNO bBICYCLESbBREAK HEREbENTRYbENTRY SIGNbMOBILE PHONES
bONE UNDER EIGHTEEN SYMBOLbPEDESTRIANSbPIRACYbSMOKING SYMBOLaNO-BREAK SPACEaNOMINAL DIGIT SHAPESaN
OMISMA SIGNaNON-bBREAKING HYPHENbPOTABLE WATER SYMBOLaNONFORKINGaNORaNORDIC MARK SIGNaNORMAL SUBGR
OUP bOFbOF OR EQUAL TOaNORTH bEAST cAND SOUTH WEST ARROWcARROWcARROW dAND SOUTH EAST ARROWdCROSSIN
G eNORTH WEST ARROWeSOUTH EAST ARROWdWITH HOOKcBLACK ARROWcDOUBLE ARROWcPOINTING dBUDdLEAFdVINE LE
AFcSANS-SERIF ARROWcTRIANGLE-HEADED dARROWdARROW TO BARcWHITE ARROWbINDIC cFRACTION dONE eEIGHTHeH
ALFeQUARTEReSIXTEENTHdTHREE eQUARTERSeSIXTEENTHScPLACEHOLDER MARKcQUANTITY MARKcQUARTER MARKcRUPE
E MARKbWEST cAND SOUTH EAST ARROWcARROWcARROW dAND NORTH EAST ARROWdCROSSING NORTH EAST ARROWdTO e
CORNEReLONG BARdWITH HOOKcBLACK ARROWcDOUBLE ARROWcPOINTING dBUDdLEAFdVINE LEAFcSANS-SERIF ARROWcT
RIANGLE-HEADED dARROWdARROW TO BARcWHITE ARROWaNORTHEAST-POINTING AIRPLANEaNOSEaNOT bA cSUBSET OFc
SUPERSET OFbALMOST EQUAL TObAN ELEMENT OFbASYMPTOTICALLY EQUAL TObCHECK MARKbEQUAL TObEQUIVALENT T
ObGREATER-THANbIDENTICAL TObLESS-THANbNORMAL SUBGROUP cOFcOF OR EQUAL TObPARALLEL TObSIGNbSQUARE c
IMAGE OF OR EQUAL TOcORIGINAL OF OR EQUAL TObTILDEbTRUEaNOTCHED bLEFT SEMICIRCLE WITH THREE DOTSbL
OWER RIGHT-SHADOWED WHITE RIGHTWARDS ARROWbRIGHT SEMICIRCLE WITH THREE DOTSbUPPER RIGHT-SHADOWED W
HITE RIGHTWARDS ARROWaNOTEaNOTE bPADbPAGEaNOTEBOOKaNOTEBOOK WITH DECORATIVE COVERaNULaNULLaNUMBE
R bEIGHTEEN FULL STOPbELEVEN FULL STOPbFIFTEEN FULL STOPbFOURTEEN FULL STOPbNINETEEN FULL STOPbSEV
ENTEEN FULL STOPbSIGNbSIXTEEN FULL STOPbTEN FULL STOPbTHIRTEEN FULL STOPbTWELVE FULL STOPbTWENTY F
ULL STOPaNUMERO SIGNaNUSHU bCHARACTER-c1B170c1B171c1B172c1B173c1B174c1B175c1B176c1B177c1B178c1B179
c1B17Ac1B17Bc1B17Cc1B17Dc1B17Ec1B17Fc1B180c1B181c1B182c1B183c1B184c1B185c1B186c1B187c1B188c1B189c1
B18Ac1B18Bc1B18Cc1B18Dc1B18Ec1B18Fc1B190c1B191c1B192c1B193c1B194c1B195c1B196c1B197c1B198c1B199c1B1
9Ac1B19Bc1B19Cc1B19Dc1B19Ec1B19Fc1B1A0c1B1A1c1B1A2c1B1A3c1B1A4c1B1A5c1B1A6c1B1A7c1B1A8c1B1A9c1B1AA
c1B1ABc1B1ACc1B1ADc1B1AEc1B1AFc1B1B0c1B1B1c1B1B2c1B1B3c1B1B4c1B1B5c1B1B6c1B1B7c1B1B8c1B1B9c1B1BAc1
B1BBc1B1BCc1B1BDc1B1BEc1B1BFc1B1C0c1B1C1c1B1C2c1B1C3c1B1C4c1B1C5c1B1C6c1B1C7c1B1C8c1B1C9c1B1CAc1B1
CBc1B1CCc1B1CDc1B1CEc1B1CFc1B1D0c1B1D1c1B1D2c1B1D3c1B1D4c1B1D5c1B1D6c1B1D7c1B1D8c1B1D9c1B1DAc1B1DB
c1B1DCc1B1DDc1B1DEc1B1DFc1B1E0c1B1E1c1B1E2c1B1E3c1B1E4c1B1E5c1B1E6c1B1E7c1B1E8c1B1E9c1B1EAc1B1EBc1
B1ECc1B1EDc1B1EEc1B1EFc1B1F0c1B1F1c1B1F2c1B1F3c1B1F4c1B1F5c1B1F6c1B1F7c1B1F8c1B1F9c1B1FAc1B1FBc1B1
FCc1B1FDc1B1FEc1B1FFc1B200c1B201c1B202c1B203c1B204c1B205c1B206c1B207c1B208c1B209c1B20Ac1B20Bc1B20C
c1B20Dc1B20Ec1B20Fc1B210c1B211c1B212c1B213c1B214c1B215c1B216c1B217c1B218c1B219c1B21Ac1B21Bc1B21Cc1
B21Dc1B21Ec1B21Fc1B220c1B221c1B222c1B223c1B224c1B225c1B226c1B227c1B228c1B229c1B22Ac1B22Bc1B22Cc1B2
2Dc1B22Ec1B22Fc1B230c1B231c1B232c1B233c1B234c1B235c1B236c1B237c1B238c1B239c1B23Ac1B23Bc1B23Cc1B23D
c1B23Ec1B23Fc1B240c1B241c1B242c1B243c1B244c1B245c1B246c1B247c1B248c1B249c1B24Ac1B24Bc1B24Cc1B24Dc1
B24Ec1B24Fc1B250c1B251c1B252c1B253c1B254c1B255c1B256c1B257c1B258c1B259c1B25Ac1B25Bc1B25Cc1B25Dc1B2
5Ec1B25Fc1B260c1B261c1B262c1B263c1B264c1B265c1B266c1B267c1B268c1B269c1B26Ac1B26Bc1B26Cc1B26Dc1B26E
c1B26Fc1B270c1B271c1B272c1B273c1B274c1B275c1B276c1B277c1B278c1B279c1B27Ac1B27Bc1B27Cc1B27Dc1B27Ec1
B27Fc1B280c1B281c1B282c1B283c1B284c1B285c1B286c1B287c1B288c1B289c1B28Ac1B28Bc1B28Cc1B28Dc1B28Ec1B2
8Fc1B290c1B291c1B292c1B293c1B294c1B295c1B296c1B297c1B298c1B299c1B29Ac1B29Bc1B29Cc1B29Dc1B29Ec1B29F
c1B2A0c1B2A1c1B2A2c1B2A3c1B2A4c1B2A5c1B2A6c1B2A7c1B2A8c1B2A9c1B2AAc1B2ABc1B2ACc1B2ADc1B2AEc1B2AFc1
B2B0c1B2B1c1B2B2c1B2B3c1B2B4c1B2B5c1B2B6c1B2B7c1B2B8c1B2B9c1B2BAc1B2BBc1B2BCc1B2BDc1B2BEc1B2BFc1B2
C0c1B2C1c1B2C2c1B2C3c1B2C4c1B2C5c1B2C6c1B2C7c1B2C8c1B2C9c1B2CAc1B2CBc1B2CCc1B2CDc1B2CEc1B2CFc1B2D0
c1B2D1c1B2D2c1B2D3c1B2D4c1B2D5c1B2D6c1B2D7c1B2D8c1B2D9c1B2DAc1B2DBc1B2DCc1B2DDc1B2DEc1B2DFc1B2E0c1
B2E1c1B2E2c1B2E3c1B2E4c1B2E5c1B2E6c1B2E7c1B2E8c1B2E9c1B2EAc1B2EBc1B2ECc1B2EDc1B2EEc1B2EFc1B2F0c1B2
F1c1B2F2c1B2F3c1B2F4c1B2F5c1B2F6c1B2F7c1B2F8c1B2F9c1B2FAc1B2FBbITERATION MARKaNUT AND BOLTaNYIAKEN
G PUACHUE HMONG bCIRCLED CAbDIGIT cEIGHTcFIVEcFOURcNINEcONEcSEVENcSIXcTHREEcTWOcZERObLETTER cAcAAc
CAcDAcDLAcEcEEcFAcGAcHAcHAHcIcKAcLAcMAcMLAcNAcNCAcNKAcNPAcNPLAcNQAcNRAcNTAcNTSAcNTXAcNYAcOcOOcPAcP
LAcQAcRAcRRAcSAcTAcTSAcTXAcUcVAcWcXAcXYAcYAcZAbLOGOGRAM NYAJbSIGN cFOR dANIMALdINVERTEBRATEdLOCATI
ONdPERSONdTHINGcXW XWbSYLLABLE LENGTHENERbTONE-cBcDcGcJcMcScVaOBJECT REPLACEMENT CHARACTERaOBLIQU
E bANGLE OPENING cDOWNcUPbHYPHENaOBSERVER EYE SYMBOLaOCR bAMOUNT OF CHECKbBELT BUCKLEbBOW TIEbBRAN
CH BANK IDENTIFICATIONbCHAIRbCUSTOMER ACCOUNT NUMBERbDASHbDOUBLE BACKSLASHbFORKbHOOKbINVERTED FORK
aOCTAGONAL SIGNaOCTOPUSaODENaOFFICE BUILDINGaOGHAM bFEATHER MARKbLETTER cAILMcBEITHcCEIRTcCOLLcDAI
RcEABHADHcEADHADHcEAMHANCHOLLcFEARNcGORTcIFINcIODHADHcLUIScMUINcNGEADALcNIONcONNcORcPEITHcRUIScSAI
LcSTRAIFcTINNEcUATHcUILLEANNcURbREVERSED FEATHER MARKbSPACE MARKaOGONEKaOHM SIGNaOIL DRUMaOK HAN
D SIGNaOL CHIKI bAHADbDIGIT cEIGHTcFIVEcFOURcNINEcONEcSEVENcSIXcTHREEcTWOcZERObGAAHLAA TTUDDAAGbLE
TTER cAAJcAAKcAAMcAAWcAGcALcANGcATcEDDcENcEPcERRcIHcINYcIRcIScLAcLAAcLEcLIcLOcLUcOBcOHcOTTcOVcUCcU
DcUNNcUYbMU TTUDDAGbMU-GAAHLAA TTUDDAAGbPHAARKAAbPUNCTUATION cDOUBLE MUCAADcMUCAADbRELAAaOLD bCHIN
ESE cHOOK MARKcITERATION MARKbHUNGARIAN cCAPITAL LETTER dAdAAdAKdAMBdANDdCLOSE EdEdEBdECdECHdECSdE
DdEEdEFdEGdEGYdEHdEJdEKdELdELYdEMdEMPdENdENCdENTdENT-SHAPED SIGNdENYdEPdERdESdESZdETdETYdEVdEZdEZS
dIdIIdNIKOLSBURG eOEeUEdOdOEEdOOdRUDIMENTA eOEeUEdSHORT ERdUdUNKdUSdUUcNUMBER dFIFTYdFIVEdONEdON
E eHUNDREDeTHOUSANDdTENcSMALL LETTER dAdAAdAKdAMBdANDdCLOSE EdEdEBdECdECHdECSdEDdEEdEFdEGdEGYdEHdE
JdEKdELdELYdEMdEMPdENdENCdENTdENT-SHAPED SIGNdENYdEPdERdESdESZdETdETYdEVdEZdEZSdIdIIdNIKOLSBURG eO
EeUEdOdOEEdOOdRUDIMENTA eOEeUEdSHORT ERdUdUNKdUSdUUbITALIC cLETTER dAdBEdCHEdDEdEdEFdEKSdELdEMdENd
ERdERSdESdESHdESSdHEdIdIIdKAdKEdKHEdKUdNORTHERN TSEdOdPEdPHEdSHEdSOUTHERN TSEdTEdTHEdUdUUdVEdYEdZE
cNUMERAL dFIFTYdFIVEdONEdTENbKEYbNORTH ARABIAN cLETTER dAINdALEFdBEHdDADdDALdES-e1e2e3dFEHdGEEMdGH
AINdHAHdHEHdKAFdKHAHdLAMdMEEMdNOONdQAFdREHdSADdTAHdTEHdTHALdTHEHdWAWdYEHdZAHdZAINcNUMBER dONEdTENd
TWENTYbPERMIC LETTER cANcBURcCHERYcDOIcDZHOIcDZITAcEcEFcGAIcHAcIcIAcIEcKOKEcLEIcMENOEcNENOEcOcOOcP
EEIcREIcSHCHOOIcSHOOIcSIIcTAIcTSIUcUcVERcVOOIcYAcYATcYERcYERIcYERUcYRYcYUcZATAcZHOIbPERSIAN cNUMBE
R dHUNDREDdONEdTENdTWENTYdTWOcSIGN dAdAURAMAZDAAdAURAMAZDAA-2dAURAMAZDAAHAdBAdBAGAdBUUMISHdCAdDAdD
AHYAAUSHdDAHYAAUSH-2dDIdDUdFAdGAdGUdHAdIdJAdJIdKAdKUdLAdMAdMIdMUdNAdNUdPAdRAdRUdSAdSHAdSSAdTAdTHAd
TUdUdVAdVIdXAdXSHAAYATHIYAdYAdZAcWORD DIVIDERbPERSONAL COMPUTERbSOGDIAN cFRACTION ONE HALFcLETTE
R dALEPHdALTERNATE AYINdAYINdBETHdFINAL eALEPHeBETHeHEeNUNeNUN WITH VERTICAL TAILeSADHEeSADHE WIT
H VERTICAL TAILeTAWeTAW WITH VERTICAL TAILdGIMELdHEdHETHdKAPHdLAMEDHdMEMdNUNdPEdRESH-AYIN-DALETHdS
ADHEdSAMEKHdSHINdTAWdWAWdYODHdZAYINcLIGATURE AYIN-DALETHcNUMBER dFIVEdFOURdONEdONE HUNDREDdTENdTHI
RTYdTHREEdTWENTYdTWObSOUTH ARABIAN cLETTER dALEFdAYNdBETHdDALETHdDHADHEdDHALETHdFEdGHAYNdGIMELdHEd
HETHdKAPHdKHETHdLAMEDHdMEMdNUNdQOPHdRESHdSADHEdSAMEKHdSATdSHINdTAWdTETHdTHAWdTHETHdWAWdYODHdZAYNcN
UMBER dFIFTYdONEcNUMERIC INDICATORbTURKIC LETTER cORKHON dAdABdADdAEBdAEDdAEGdAEKdAELdAENdAERdAESd
AETdAEYdAGdALdANdAQdARdASdASHdATdAYdBASHdECdELTdEMdENCdENGdENTdENYdEPdESHdEZdIdICdIQdOdOEdOEKdOPdO
QdOTcYENISEI dAdABdADdAEdAEBdAEGdAEKdAENdAENGdAETdAEYdAGdALdANGdAQdARdASHdATdAYdEdECdENCdENTdENYdE
SHdEZdIdIQdOEdOEKdOQbUYGHUR cCOMBINING dDOT eABOVEeBELOWdTWO DOTS eABOVEeBELOWcLETTER dALEPHdBETHd
FINAL HETHdGIMEL-HETHdKAPHdLAMEDHdLESHdMEMdNUNdPEdRESHdSADHEdSAMEKHdSHINdTAWdWAWdYODHdZAYINcPUNCTU
ATION dBARdFOUR DOTSdTWO eBARSeDOTSaOLDER bADULTbMANbWOMANaOLIVEaOM SYMBOLaON WITH EXCLAMATION MAR
K WITH LEFT RIGHT ARROW ABOVEaONCOMING bAUTOMOBILEbBUSbFIRE ENGINEbPOLICE CARbTAXIaONE bBUTTON MOU
SEbDOT cLEADERcOVER TWO DOTS PUNCTUATIONaONE-PIECE SWIMSUITaONIONaOPEN bBOOKbBOXbCENTRE cASTERISKc
BLACK STARcCROSScTEARDROP-SPOKED ASTERISKbFILE FOLDERbFOLDERbHANDS SIGNbLOCKbMAILBOX WITH cLOWERE
D FLAGcRAISED FLAGbSUBSETbSUPERSETaOPEN-bCIRCUIT-OUTPUT cH-TYPE SYMBOLcL-TYPE SYMBOLbOUTLINED RIGH
TWARDS ARROWaOPERATING SYSTEM COMMANDaOPHIUCHUSaOPPOSITIONaOPTICAL bDISCbDISC ICONaOPTION KEYaOR W
ITH DOT INSIDEaORANGE bBOOKbHEARTaORANGUTANaORIGINAL OFaORIYA bAI LENGTH MARKbAU LENGTH MARKbDIGI
T cEIGHTcFIVEcFOURcNINEcONEcSEVENcSIXcTHREEcTWOcZERObFRACTION cONE dEIGHTHdHALFdQUARTERdSIXTEENTHc
THREE dQUARTERSdSIXTEENTHSbISSHARbLETTER cAcAAcAIcAUcBAcBHAcCAcCHAcDAcDDAcDDHAcDHAcEcGAcGHAcHAcIcI
IcJAcJHAcKAcKHAcLAcLLAcMAcNAcNGAcNNAcNYAcOcPAcPHAcRAcRHAcRRAcSAcSHAcSSAcTAcTHAcTTAcTTHAcUcUUcVAcVO
CALIC dLdLLdRdRRcWAcYAcYYAbSIGN cANUSVARAcAVAGRAHAcCANDRABINDUcNUKTAcOVERLINEcVIRAMAcVISARGAbVOWE
L SIGN cAAcAIcAUcEcIcIIcOcUcUUcVOCALIC dLdLLdRdRRaORNATE bLEFT PARENTHESISbRIGHT PARENTHESISaORTHO
DOX CROSSaOSAGE bCAPITAL LETTER cAcAHcAIcAINcBRAcCHAcDHAcEcEHCHAcEHKAcEHPAcEHTAcEHTSAcEINcGHAcHAcH
YAcIcKAcKHAcKYAcLAcMAcNAcOcOINcPAcSAcSHAcTAcTSAcTSHAcUcWAcZAcZHAbSMALL LETTER cAcAHcAIcAINcBRAcCHA
cDHAcEcEHCHAcEHKAcEHPAcEHTAcEHTSAcEINcGHAcHAcHYAcIcKAcKHAcKYAcLAcMAcNAcOcOINcPAcSAcSHAcTAcTSAcTSHA
cUcWAcZAcZHAaOSCaOSMANYA bDIGIT cEIGHTcFIVEcFOURcNINEcONEcSEVENcSIXcTHREEcTWOcZERObLETTER cAcAAcAL
EFcBAcCAYNcDEELcDHAcEcEEcFAcGAcHAcIcJAcKAAFcKHAcLAANcMIINcNUUNcOcOOcQAAFcRAcSAcSHIINcTAcUcWAWcXAcY
AaOTTERaOTTOMAN SIYAQ bALTERNATE NUMBER cEIGHTcFIVEcFOURcFOUR HUNDREDcNINEcSEVENcSIXcSIX HUNDREDcT
ENcTEN THOUSANDcTHREEcTWOcTWO THOUSANDbFRACTION ONE cHALFcSIXTHbMARRATANbNUMBER cEIGHTcEIGHT dHUND
REDdTHOUSANDcEIGHTYcEIGHTY THOUSANDcFIFTYcFIFTY THOUSANDcFIVEcFIVE dHUNDREDdTHOUSANDcFORTYcFORTY T
HOUSANDcFOURcFOUR dHUNDREDdTHOUSANDcNINEcNINE dHUNDREDdTHOUSANDcNINETYcNINETY THOUSANDcONEcONE dHU
NDREDdTHOUSANDcSEVENcSEVEN dHUNDREDdTHOUSANDcSEVENTYcSEVENTY THOUSANDcSIXcSIX dHUNDREDdTHOUSANDcSI
XTYcSIXTY THOUSANDcTENcTEN THOUSANDcTHIRTYcTHIRTY THOUSANDcTHREEcTHREE dHUNDREDdTHOUSANDcTWENTYcTW
ENTY THOUSANDcTWOcTWO dHUNDREDdTHOUSANDaOUNCE SIGNaOUTBOX TRAYaOUTLINED bBLACK STARbGREEK CROSSbLA
TIN CROSSbWHITE STARaOVERHEATED FACEaOVERLAPaOVERLAPPING bBLACK SQUARESbWHITE cAND BLACK SQUAREScS
QUARESaOVERLINEaOWLaOXaOYSTERaPACKAGEaPADaPADDING CHARACTERaPAGEaPAGE bFACING UPbWITH cCIRCLED TEX
TcCURLaPAGERaPAGESaPAGODAaPAHAWH HMONG bCLAN SIGN cFAJcHAMcHAWJcKHABcKOOcKWMcLAUJcLIScMUAScPHABcTH
OJcTSABcTSHEEJcTSWBcVAJcVWJcXYOOJcYAJcYEEGbCONSONANT cAUcCAUcCHAUcHAUcHLAUcHNAUcLAUcMAUcNAUcNCHAUc
NKAUcNLAUcNTHAUcNTSAUcPLHAUcQHAUcRAUcVAUcXAUcYAUbDIGIT cEIGHTcFIVEcFOURcNINEcONEcSEVENcSIXcTHREEcT
WOcZERObMARK CIM cHOMcKEScKHAVcSOcSUAMcTAUMcTUBbNUMBER cHUNDRED MILLIONScHUNDREDScMILLIONScTEN dBI
LLIONSdTHOUSANDScTENScTRILLIONSbSIGN cAVcCIM dCHEEMdCUAM TSHOOJdHAIS LUS NTOG NTOGdNRES TOSdPUB DA
WBdTSOV ROGdTXWVdTXWV CHWVcHLIcHNUBcIB YAMcLOScMEEJ dSUABdTSEEBcMUScNQIGcNTUJcTAUcTHIRD-STAGE HLIc
TXHEEJ CEEVcVOS dFEEMdLUBdNRUAdSEEVdTHIABdTHOMdTSHAB CEEBcXAUScXIABcXYEEM dFAIBdNTXIVdRHOdTOVcXYOO
cZWJ THAJbVOWEL cKAABcKAAVcKABcKAIBcKAIVcKAUBcKAUVcKAVcKAWBcKAWVcKEBcKEEBcKEEVcKEVcKIABcKIAVcKIBcK
IVcKOBcKOOBcKOOVcKOVcKUABcKUAVcKUBcKUVcKWBcKWVaPALLASaPALM bBRANCHbDOWN HANDbTREEbUP HANDaPALMS U
P TOGETHERaPALMYRENE bLEFT-POINTING FLEURONbLETTER cALEPHcAYINcBETHcDALETHcFINAL NUNcGIMELcHEcHETH
cKAPHcLAMEDHcMEMcNUNcPEcQOPHcRESHcSADHEcSAMEKHcSHINcTAWcTETHcWAWcYODHcZAYINbNUMBER cFIVEcFOURcONEc
TENcTHREEcTWENTYcTWObRIGHT-POINTING FLEURONaPANCAKESaPANDA FACEaPAPERCLIPaPARACHUTEaPARAGRAPH SEPA
RATORaPARAGRAPHOSaPARAGRAPHUS MARKaPARALLEL bTObWITH cHORIZONTAL STROKEcTILDE OPERATORaPARENTHESIZ
ED bDIGIT cEIGHTcFIVEcFOURcNINEcONEcSEVENcSIXcTHREEcTWObHANGUL cCHIEUCHcCHIEUCH AcCIEUCcCIEUC dAdU
cHIEUHcHIEUH AcIEUNGcIEUNG AcKHIEUKHcKHIEUKH AcKIYEOKcKIYEOK AcMIEUMcMIEUM AcNIEUNcNIEUN AcPHIEUPH
cPHIEUPH AcPIEUPcPIEUP AcRIEULcRIEUL AcSIOScSIOS AcTHIEUTHcTHIEUTH AcTIKEUTcTIKEUT AbIDEOGRAPH cAL
LIANCEcCALLcCONGRATULATIONcEARTHcEIGHTcENTERPRISEcFESTIVALcFINANCIALcFIREcFIVEcFOURcHAVEcLABORcMET
ALcMOONcNAMEcNINEcONEcREACHcREPRESENTcRESOURCEcRESTcSELFcSEVENcSIXcSOCIETYcSPECIALcSTOCKcSTUDYcSUN
cSUPERVISEcTENcTHREEcTWOcWATERcWOODbKOREAN CHARACTER cO HUcOJEONbLATIN cCAPITAL LETTER dAdBdCdDdEd
FdGdHdIdJdKdLdMdNdOdPdQdRdSdTdUdVdWdXdYdZcSMALL LETTER dAdBdCdDdEdFdGdHdIdJdKdLdMdNdOdPdQdRdSdTdUd
VdWdXdYdZbNUMBER cEIGHTEENcELEVENcFIFTEENcFOURTEENcNINETEENcSEVENTEENcSIXTEENcTENcTHIRTEENcTWELVEc
TWENTYaPARROTaPART ALTERNATION MARKaPARTIAL bDIFFERENTIALbLINE cBACKWARDcDOWNcFORWARDcUPaPARTIALLY
-RECYCLED PAPER SYMBOLaPARTNERSHIP SIGNaPARTY POPPERaPASSED SYMBOLaPASSENGER SHIPaPASSIVE-PULL-bDO
WN-OUTPUT SYMBOLbUP-OUTPUT SYMBOLaPASSPORT CONTROLaPAU CIN HAU bGLOTTAL cSTOPcSTOP dFINALdVARIANTb
LETTER cAcBAcCAcCHAcDAcEcFAcFINAL dKdLdMdNdNGdPdTdWdYcGAcHAcIcIAcKAcKHAcLAcMAcNAcNGAcOcPAcPHAcRAcS
AcTAcTHAcUcUAcVAcZAbLOW-FALLING cTONEcTONE dFINALdLONGdLONG FINALbMID-LEVEL cTONEcTONE dFINALdLON
G FINALbRISING cTONEcTONE dFINALdLONGdLONG FINALbSANDHI cGLOTTAL dSTOPdSTOP FINALcTONEcTONE dFINAL
dLONGdLONG FINALaPAW PRINTSaPDFaPDIaPEACE SYMBOLaPEACHaPEACOCKaPEANUTSaPEARaPEDESTRIANaPEN OVER ST
AMPED ENVELOPEaPENCILaPENGUINaPENSIVE FACEaPENTAGRAMaPEOPLE HUGGINGaPER bMILLE SIGNbSIGNbTEN THOUS
AND SIGNaPERCENT SIGNaPERFORMING ARTSaPERMANENT PAPER SIGNaPERPENDICULARaPERPENDICULAR WITH SaPERS
EVERING FACEaPERSON bBOWING DEEPLYbCLIMBINGbDOING CARTWHEELbFROWNINGbIN cLOTUS POSITIONcSTEAMY ROO
MbRAISING BOTH HANDS IN CELEBRATIONbWITH cBALLcBLOND HAIRcCROWNcFOLDED HANDScHEADSCARFcPOUTING FAC
EaPERSONAL COMPUTERaPERSPECTIVEaPESETA SIGNaPESO SIGNaPETRI DISHaPHAGS-PA bDOUBLE HEAD MARKbLETTE
R cAcALTERNATE YAcASPIRATED FAcBAcCAcCANDRABINDUcCHAcDAcDDAcDZAcEcEEcFAcGAcGGAcHAcIcJAcKAcKHAcLAcM
AcNAcNGAcNNAcNYAcOcPAcPHAcQAcRAcSAcSHAcSMALL AcTAcTHAcTSAcTSHAcTTAcTTHAcUcVOICED HAcVOICELESS SHAc
WAcXAcYAcZAcZHAbMARK cDOUBLE SHADcSHADbSINGLE HEAD MARKbSUBJOINED LETTER cRAcWAcYAbSUPERFIXED LETT
ER RAaPHAISTOS DISC SIGN bARROWbBEEbBEEHIVEbBOOMERANGbBOWbBULLS LEGbCAPTIVEbCARPENTRY PLANEbCATbCH
ILDbCLUBbCOLUMNbCOMBbCOMBINING OBLIQUE STROKEbDOLIUMbDOVEbEAGLEbFLUTEbGAUNTLETbGRATERbHELMETbHIDEb
HORNbLIDbLILYbMANACLESbMATTOCKbOX BACKbPAPYRUSbPEDESTRIANbPLANE TREEbPLUMED HEADbRAMbROSETTEbSAWbS
HIELDbSHIPbSLINGbSMALL AXEbSTRAINERbTATTOOED HEADbTIARAbTUNNYbVINEbWAVY BANDbWOMANaPHILIPPINE bDOU
BLE PUNCTUATIONbSINGLE PUNCTUATIONaPHOENICIAN bLETTER cAINcALFcBETcDELTcGAMLcHEcHETcKAFcLAMDcMEMcN
UNcPEcQOFcROSHcSADEcSEMKcSHINcTAUcTETcWAUcYODcZAIbNUMBER cONEcONE HUNDREDcTENcTHREEcTWENTYcTWObWOR
D SEPARATORaPHOLUSaPICKaPICKUP TRUCKaPIEaPIGaPIG bFACEbNOSEaPILCROW SIGNaPILE OF POOaPILLaPINATAaP
INCHED FINGERSaPINCHING HANDaPINE DECORATIONaPINEAPPLEaPINWHEEL STARaPISCESaPISTOLaPITCHFORKaPITCH
FORK WITH TEE TOPaPLACARDaPLACE OF bINTEREST SIGNbWORSHIPaPLANCK bCONSTANTbCONSTANT OVER TWO PIaPL
AYGROUND SLIDEaPLAYING CARD bACE OF cCLUBScDIAMONDScHEARTScSPADESbBACKbBLACK JOKERbEIGHT OF cCLUBS
cDIAMONDScHEARTScSPADESbFIVE OF cCLUBScDIAMONDScHEARTScSPADESbFOOLbFOUR OF cCLUBScDIAMONDScHEARTSc
SPADESbJACK OF cCLUBScDIAMONDScHEARTScSPADESbKING OF cCLUBScDIAMONDScHEARTScSPADESbKNIGHT OF cCLUB
ScDIAMONDScHEARTScSPADESbNINE OF cCLUBScDIAMONDScHEARTScSPADESbQUEEN OF cCLUBScDIAMONDScHEARTScSPA
DESbRED JOKERbSEVEN OF cCLUBScDIAMONDScHEARTScSPADESbSIX OF cCLUBScDIAMONDScHEARTScSPADESbTEN OF c
CLUBScDIAMONDScHEARTScSPADESbTHREE OF cCLUBScDIAMONDScHEARTScSPADESbTRUMP-c1c10c11c12c13c14c15c16c
17c18c19c2c20c21c3c4c5c6c7c8c9bTWO OF cCLUBScDIAMONDScHEARTScSPADESbWHITE JOKERaPLDaPLUaPLUNGERaPL
US bSIGNbSIGN cABOVE EQUALS SIGNcIN dLEFT HALF CIRCLEdRIGHT HALF CIRCLEdTRIANGLEcWITH dBLACK TRIAN
GLEdCIRCUMFLEX ACCENT ABOVEdDOT BELOWdSMALL CIRCLE ABOVEdSUBSCRIPT TWOdTILDE eABOVEeBELOWaPLUS-MIN
US SIGNaPLUTOaPLUTO FORM bFIVEbFOURbTHREEbTWOaPMaPOCKET CALCULATORaPOLICE bCARbCARS REVOLVING LIGH
TbOFFICERaPOODLEaPOP DIRECTIONAL bFORMATTINGbISOLATEaPOPCORNaPORTABLE STEREOaPOSEIDONaPOSITION IND
ICATORaPOSTAL bHORNbMARKbMARK FACEaPOSTBOXaPOT OF FOODaPOTABLE WATER SYMBOLaPOTATOaPOTTED PLANTaPO
UCHaPOULTRY LEGaPOUND SIGNaPOURING LIQUIDaPOUTING bCAT FACEbFACEaPOWER bON SYMBOLbON-OFF SYMBOLbSL
EEP SYMBOLbSYMBOLaPRAYER BEADSaPRECEDESaPRECEDES bABOVE cALMOST EQUAL TOcEQUALS SIGNcNOT dALMOST E
QUAL TOdEQUAL TOcSINGLE-LINE dEQUALS SIGNdNOT EQUAL TObBUT NOT EQUIVALENT TObOR cEQUAL TOcEQUIVALE
NT TObUNDER RELATIONaPREGNANT bMANbPERSONbWOMANaPRESCRIPTION TAKEaPRESENTATION FORM FOR VERTICAL b
COLONbCOMMAbEM DASHbEN DASHbEXCLAMATION MARKbHORIZONTAL ELLIPSISbIDEOGRAPHIC cCOMMAcFULL STOPbLEF
T cANGLE BRACKETcBLACK LENTICULAR BRACKETcCORNER BRACKETcCURLY BRACKETcDOUBLE ANGLE BRACKETcPARENT
HESIScSQUARE BRACKETcTORTOISE SHELL BRACKETcWHITE dCORNER BRACKETdLENTICULAR BRACKETbLOW LINEbQUES
TION MARKbRIGHT cANGLE BRACKETcBLACK LENTICULAR BRACKETcCORNER BRACKETcCURLY BRACKETcDOUBLE ANGL
E BRACKETcPARENTHESIScSQUARE BRACKETcTORTOISE SHELL BRACKETcWHITE dCORNER BRACKETdLENTICULAR eBRAC
KETeBRAKCETbSEMICOLONbTWO DOT LEADERbWAVY LOW LINEaPRETZELaPREVIOUS PAGEaPRIMEaPRINCEaPRINCESSaPRI
NT SCREEN SYMBOLaPRINTERaPRINTER ICONaPRIVACY MESSAGEaPRIVATE bUSE cONEcTWObUSE-c1c2aPROBING CANEa
PROHIBITED SIGNaPROJECTIVEaPROPERTY LINEaPROPORTIONaPROPORTIONAL TOaPROSERPINAaPSALTER PAHLAVI bFO
UR DOTS WITH cCROSScDOTbLETTER cALEPHcBETHcDALETHcGIMELcHEcHETHcKAPHcLAMEDHcMEM-QOPHcNUNcPEcSADHEc
SAMEKHcSHINcTAWcWAW-AYIN-RESHcYODHcZAYINbNUMBER cFOURcONEcONE HUNDREDcTENcTHREEcTWENTYcTWObSECTIO
N MARKbTURNED SECTION MARKaPU1aPU2aPUBLIC ADDRESS LOUDSPEAKERaPUNCTUATION SPACEaPUNCTUS ELEVATUS M
ARKaPURPLE HEARTaPURSEaPUSHPINaPUT LITTER IN ITS PLACE SYMBOLaQUADRANT bLOWER cLEFTcRIGHTbUPPER cL
EFTcLEFT AND dLOWER eLEFT AND LOWER RIGHTeRIGHTdUPPER RIGHT AND LOWER eLEFTeRIGHTcRIGHTcRIGHT AN
D LOWER dLEFTdLEFT AND LOWER RIGHTaQUADRUPLE bINTEGRAL OPERATORbPRIMEaQUARTER NOTEaQUATERNION INTE
GRAL OPERATORaQUESTION bEXCLAMATION MARKbMARKaQUESTIONED EQUAL TOaQUINCUNXaQUOTATION MARKaRABBITaR
ABBIT FACEaRACCOONaRACING bCARbMOTORCYCLEaRADICAL SYMBOL BOTTOMaRADIOaRADIO BUTTONaRADIOACTIVE SIG
NaRAILWAY bCARbTRACKaRAINaRAINBOWaRAISED bBACK OF HANDbCOMMAbDOTbDOTTED INTERPOLATION MARKERbFISTb
HANDbHAND WITH cFINGERS SPLAYEDcPART BETWEEN MIDDLE AND RING FINGERSbINTERPOLATION MARKERbMC SIGNb
MD SIGNbMR SIGNbSQUAREaRAMaRATaRATIOaRAZORaRECEIPTaRECORD SEPARATORaRECREATIONAL VEHICLEaRECYCLE
D PAPER SYMBOLaRECYCLING SYMBOL FOR bGENERIC MATERIALSbTYPE-c1 PLASTICSc2 PLASTICSc3 PLASTICSc4 PL
ASTICSc5 PLASTICSc6 PLASTICSc7 PLASTICSaRED bAPPLEbGIFT ENVELOPEaREFERENCE MARKaREGIONAL INDICATO
R SYMBOL LETTER bAbBbCbDbEbFbGbHbIbJbKbLbMbNbObPbQbRbSbTbUbVbWbXbYbZaREGISTERED SIGNaREJANG bCONSO
NANT SIGN cHcNcNGcRbLETTER cAcBAcCAcDAcGAcHAcJAcKAcLAcMAcMBAcNAcNDAcNGAcNGGAcNYAcNYJAcPAcRAcSAcTAc
WAcYAbSECTION MARKbVIRAMAbVOWEL SIGN cAIcAUcEcEAcEUcIcOcUaRELIEVED FACEaREMINDER RIBBONaREPLACEMEN
T CHARACTERaRESPONSEaRESTRICTED LEFT ENTRY-b1b2aRESTROOMaRETURN bLEFTbRIGHTbSYMBOLaREVERSE bCHECKE
R BOARDbINDEXbLIGHT FOUR POINTED PINWHEEL STARbLINE FEEDbSOLIDUSbSOLIDUS cOPERATORcPRECEDING SUBSE
TcWITH HORIZONTAL STROKEbTILDE OPERATOR ABOVE cLEFTWARDS ARROWcRIGHTWARDS ARROWaREVERSED bANGLEbAN
GLE WITH UNDERBARbCOMMAbDOUBLE cPRIMEcPRIME QUOTATION MARKcSTROKE NOT SIGNbEMPTY SETbFORKED PARAGR
APHOSbHAND WITH MIDDLE FINGER EXTENDEDbNOT SIGNbPILCROW SIGNbPRIMEbQUESTION MARKbRAISED HAND WIT
H FINGERS SPLAYEDbRIGHT ANGLEbROTATED FLORAL HEART BULLETbSANS-SERIF CAPITAL LbSEMICOLONbTHUMBS cD
OWN SIGNcUP SIGNbTILDEbTILDE EQUALSbTRIPLE PRIMEbVICTORY HANDaREVOLVING HEARTSaRHINOCEROSaRIaRIA
L SIGNaRIBBONaRIBBON ARROW bDOWN cLEFTcRIGHTbLEFT cDOWNcUPbRIGHT cDOWNcUPbUP cLEFTcRIGHTaRICE bBAL
LbCRACKERaRIFLEaRIGHT bAND cLOWER ONE EIGHTH BLOCKcUPPER ONE EIGHTH BLOCKbANGER BUBBLEbANGLEbANGL
E cBRACKETcBRACKET WITH DOTcDOTTED SUBSTITUTION MARKERcSUBSTITUTION MARKERcVARIANT WITH SQUAREcWIT
H dARCdDOWNWARDS ZIGZAG ARROWbARC GREATER-THAN BRACKETbARROW WITH cCIRCLED PLUScSMALL CIRCLEbBLAC
K cLENTICULAR BRACKETcTORTOISE SHELL BRACKETbCEILINGbCORNER BRACKETbCURLY cBRACKETcBRACKET dLOWE
R HOOKdMIDDLE PIECEdUPPER HOOKbDOTTED SUBSTITUTION BRACKETbDOUBLE cANGLE BRACKETcARROW WITH ROUNDE
D HEADcPARENTHESIScQUOTATION MARKcWIGGLY FENCEbFISH TAILbFIVE EIGHTHS BLOCKbFLOORbHALF cBLACK dCIR
CLEdSTARcBLOCKcFOLDERcMEDIUM SHADEcRUNNING MANbHAND TELEPHONE RECEIVERbLOW PARAPHRASE BRACKETbNORM
AL FACTOR SEMIDIRECT PRODUCTbONE cEIGHTH BLOCKcQUARTER BLOCKbOPEN SQUARED DOTbOUTER JOINbPARENTHES
ISbPARENTHESIS cEXTENSIONcLOWER HOOKcUPPER HOOKbRAISED OMISSION BRACKETbS-SHAPED BAG DELIMITERbSEM
IDIRECT PRODUCTbSEVEN EIGHTHS BLOCKbSIDEWAYS U BRACKETbSINGLE QUOTATION MARKbSPEAKERbSPEAKER WIT
H cONE SOUND WAVEcTHREE SOUND WAVESbSPEECH BUBBLEbSQUARE cBRACKETcBRACKET dEXTENSIONdLOWER CORNERd
UPPER CORNERdWITH eDOUBLE STROKEeQUILLeSTROKEeTICK IN fBOTTOM CORNERfTOP CORNEReUNDERBARbSUBSTITUT
ION BRACKETbTACKbTHIRD WHITE RIGHT POINTING INDEXbTHOUGHT BUBBLEbTHREE cEIGHTHS BLOCKcQUARTERS BLO
CKbTORTOISE SHELL BRACKETbTRANSPOSITION BRACKETbTRIANGLEbTRIANGLE ABOVE LEFT TRIANGLEbTRIANGULAR O
NE QUARTER BLOCKbVERTICAL cBAR WITH QUILLcBOX LINEbWHITE cCORNER BRACKETcCURLY BRACKETcLENTICULA
R BRACKETcPARENTHESIScSQUARE BRACKETcTORTOISE SHELL BRACKETbWIGGLY FENCEaRIGHT-bFACING cARMENIAN E
TERNITY SIGNcFISTcSVASTI dSIGNdSIGN WITH DOTSbHANDED INTERLACED PENTAGRAMbPOINTING cANGLE BRACKETc
CURVED ANGLE BRACKETcDOUBLE ANGLE QUOTATION MARKcMAGNIFYING GLASSbSHADED WHITE RIGHTWARDS ARROWbSI
DE ARC CLOCKWISE ARROWbTO-LEFT cEMBEDDINGcISOLATEcMARKcOVERRIDEaRIGHTHAND INTERIOR PRODUCTaRIGHTWA
RDS bARROWbARROW cABOVE dALMOST EQUAL TOdREVERSE eALMOST EQUAL TOeTILDE OPERATORdSHORT LEFTWARDS A
RROWdTILDE OPERATORcAND UPPER AND LOWER ONE EIGHTH BLOCKcFROM dBARdBAR TO BLACK DIAMONDcOVER LEFTW
ARDS ARROWcTHROUGH dGREATER-THANdSUPERSETdXcTO dBARdBLACK DIAMONDcWITH dCORNER DOWNWARDSdDOTTED ST
EMdDOUBLE VERTICAL STROKEdEQUILATERAL ARROWHEADdHOOKdLARGE TRIANGLE ARROWHEADdLOOPdMEDIUM TRIANGL
E ARROWHEADdNOTCHED TAILdPLUS BELOWdSMALL eEQUILATERAL ARROWHEADeTRIANGLE ARROWHEADdSTROKEdTAILdTA
IL WITH eDOUBLE VERTICAL STROKEeVERTICAL STROKEdTIP eDOWNWARDSeUPWARDSdVERTICAL STROKEbARROW-TAILb
BACK-TILTED SHADOWED WHITE ARROWbBLACK cARROWcCIRCLED WHITE ARROWbBOTTOM SHADED WHITE ARROWbCOMPRE
SSED ARROWbDASHED ARROWbDOUBLE cARROWcARROW dFROM BARdWITH eSTROKEeVERTICAL STROKEcARROW-TAILcDAS
H ARROWbFINGER-POST ARROWbFRONT-TILTED SHADOWED WHITE ARROWbHANDbHARPOON cOVER LEFTWARDS HARPOONcW
ITH BARB dDOWN eABOVE LEFTWARDS HARPOON WITH BARB DOWNeBELOW LONG DASHeFROM BAReTO BARdDOWNWARDSdU
P eABOVE fLEFTWARDS HARPOON WITH BARB UPfLONG DASHfRIGHTWARDS HARPOON WITH BARB DOWNeFROM BAReTO B
ARdUPWARDSbHEAVY cARROWcCOMPRESSED ARROWbLEFT-SHADED WHITE ARROWbOPEN-HEADED ARROWbPAIRED ARROWSbQ
UADRUPLE ARROWbRIGHT-SHADED WHITE ARROWbROCKETbSANS-SERIF ARROWbSQUARED ARROWbSQUIGGLE ARROWbTOP S
HADED WHITE ARROWbTRIANGLE ARROWHEADbTRIANGLE-HEADED cARROWcARROW dOVER LEFTWARDS TRIANGLE-HEADE
D ARROWdTO BARdWITH eBOLD SHAFTeDOUBLE fHORIZONTAL STROKEfVERTICAL STROKEeHEAVY SHAFTeLONG TIP fDO
WNWARDSfUPWARDSeMEDIUM SHAFTeNARROW SHAFTeVERY HEAVY SHAFTcDASHED ARROWcPAIRED ARROWSbTRIPLE cARRO
WcDASH ARROWbTWO HEADED ARROWbTWO-HEADED cARROW dFROM BARdWITH eDOUBLE VERTICAL STROKEeTAILeTAIL W
ITH fDOUBLE VERTICAL STROKEfVERTICAL STROKEeTRIANGLE ARROWHEADSeVERTICAL STROKEcTRIPLE DASH ARROWb
WAVE ARROWbWHITE cARROWcARROW dFROM WALLdWITHIN TRIANGLE ARROWHEADaRINGaRING bABOVEbBUOYbEQUAL TOb
IN EQUAL TObOPERATORbPOINTaRINGED PLANETaRINGING BELLaRISING DIAGONAL CROSSING bFALLING DIAGONALbS
OUTH EAST ARROWaRLEaRLIaRLMaRLOaROASTED SWEET POTATOaROBOT FACEaROCKaROCKETaROLL OF PAPERaROLLED-U
P NEWSPAPERaROLLER bCOASTERbSKATEaROLLING ON THE FLOOR LAUGHINGaROMAN bAS SIGNbCENTURIAL SIGNbDENA
RIUS SIGNbDIMIDIA SEXTULA SIGNbDUPONDIUS SIGNbNUMERAL cEIGHTcELEVENcFIFTYcFIFTY dEARLY FORMdTHOUSA
NDcFIVEcFIVE dHUNDREDdTHOUSANDcFOURcNINEcONEcONE dHUNDREDdHUNDRED THOUSANDdTHOUSANDdTHOUSAND C DcR
EVERSED ONE HUNDREDcSEVENcSIXcSIX LATE FORMcTENcTEN THOUSANDcTHREEcTWELVEcTWObQUINARIUS SIGNbSEMUN
CIA SIGNbSESTERTIUS SIGNbSEXTANS SIGNbSEXTULA SIGNbSILIQUA SIGNbUNCIA SIGNaROOSTERaROSEaROSETTEaRO
TATED bCAPITAL QbFLORAL HEART BULLETbHEAVY BLACK HEART BULLETbLIGHT FOUR POINTED BLACK CUSPbWHIT
E FOUR POINTED CUSPaROUND bPUSHPINbTARGETaROUNDED SYMBOL FOR bCAIbFUbLUbSHOUbSHUANGXIbXIaROWBOATaR
SaRUBLE SIGNaRUGBY FOOTBALLaRULE-DELAYEDaRUMI bDIGIT cEIGHTcFIVEcFOURcNINEcONEcSEVENcSIXcTHREEcTWO
bFRACTION cONE dHALFdQUARTERdTHIRDcTWO THIRDSbNUMBER cEIGHT HUNDREDcEIGHTYcFIFTYcFIVE HUNDREDcFORT
YcFOUR HUNDREDcNINE HUNDREDcNINETYcONE HUNDREDcSEVEN HUNDREDcSEVENTYcSIX HUNDREDcSIXTYcTENcTHIRTYc
THREE HUNDREDcTWENTYcTWO HUNDREDaRUNIC bARLAUG SYMBOLbBELGTHOR SYMBOLbCROSS PUNCTUATIONbLETTER cA
C AcAESCcALGIZ EOLHXcANSUZ AcBERKANAN BEORC BJARKAN BcCcCALCcCEALCcCENcCWEORTHcDcDAGAZ DAEG DcDOTT
ED-dLdNdPcEcEARcEHWAZ EH EcENGcETHcFEHU FEOH FE FcFRANKS CASKET dACdAESCdEHdISdOScGcGARcGEBO GYF
U GcGERcHAEGL HcHAGLAZ HcICELANDIC-YRcINGcINGWAZcIORcISAZ IS ISS IcIWAZ EOHcJERAN JcKcKAUN KcKAUNA
cLAUKAZ LAGU LOGR LcLONG-BRANCH-dAR AEdHAGALL HdMADR MdOSS OdYRcMANNAZ MAN McNAUDIZ NYD NAUD NcOcO
EcONcOOcOPEN-PcOS OcOTHALAN ETHEL OcPERTHO PEORTH PcQcRAIDO RAD REID RcSHcSHORT-TWIG-dAR AdBJARKA
N BdHAGALL HdMADR MdNAUD NdOSS OdSOL SdTYR TdYRcSIGEL LONG-BRANCH-SOL ScSOWILO ScSTANcTHURISAZ THU
RS THORNcTIWAZ TIR TYR TcURUZ UR UcVcWcWUNJO WYNN WcXcYcYRcZbMULTIPLE PUNCTUATIONbSINGLE PUNCTUATI
ONbTVIMADUR SYMBOLaRUNNERaRUNNING SHIRT WITH SASHaRUPEE SIGNaRUSSIAN ASTROLOGICAL SYMBOL bBINOVILE
bNOVILEbQUINTILEbSENTAGONbTREDECILEbVIGINTILEaS IN TRIANGLEaSAFETY bPINbVESTaSAGITTARIUSaSAILBOATa
SAKE BOTTLE AND CUPaSALT SHAKERaSALTIREaSALUTING FACEaSAMARITAN bABBREVIATION MARKbLETTER cALAFcBA
AcBITcDALATcFIcGAMANcINcITcIYcKAAFcLABATcMIMcNUNcQUFcRISHcSHANcSINGAATcTAAFcTITcTSAADIYcYUTcZENbMA
RK cDAGESHcEPENTHETIC YUTcINcIN-ALAFcNEQUDAAcOCCLUSIONbMODIFIER LETTER cEPENTHETIC YUTcIcSHORT AbP
UNCTUATION cAFSAAQcANGEDcANNAAUcARKAANUcATMAAUcBAUcMELODIC QITSAcNEQUDAAcQITSAcSHIYYAALAAcSOF MASH
FAATcTURUcZAEFcZIQAAbVOWEL SIGN cAcAAcEcIcLONG dAdAAdEdIdUcOcOVERLONG dAdAAcSHORT AcSUKUNcUaSANDWI
CHaSANS-SERIF bHEAVY cDOUBLE dCOMMA QUOTATION MARK ORNAMENTdTURNED COMMA QUOTATION MARK ORNAMENTcL
OW DOUBLE COMMA QUOTATION MARK ORNAMENTbINTERROBANG ORNAMENTaSARIaSATELLITEaSATELLITE ANTENNAaSATU
RNaSAURASHTRA bCONSONANT SIGN HAARUbDANDAbDIGIT cEIGHTcFIVEcFOURcNINEcONEcSEVENcSIXcTHREEcTWOcZERO
bDOUBLE DANDAbLETTER cAcAAcAIcAUcBAcBHAcCAcCHAcDAcDDAcDDHAcDHAcEcEEcGAcGHAcHAcIcIIcJAcJHAcKAcKHAcL
AcLLAcMAcNAcNGAcNNAcNYAcOcOOcPAcPHAcRAcSAcSHAcSSAcTAcTHAcTTAcTTHAcUcUUcVAcVOCALIC dLdLLdRdRRcYAbSI
GN cANUSVARAcCANDRABINDUcVIRAMAcVISARGAbVOWEL SIGN cAAcAIcAUcEcEEcIcIIcOcOOcUcUUcVOCALIC dLdLLdRdR
RaSAUROPODaSAXOPHONEaSCALESaSCARFaSCHOOLaSCHOOL SATCHELaSCIaSCOOTERaSCORPIONaSCORPIUSaSCREENaSCREW
DRIVERaSCRIPT bCAPITAL cBcEcFcHcIcLcMcPcRbLIGATURE ET ORNAMENTbSMALL cEcGcLcOaSCROLLaSCRUPLEaSEALa
SEATaSECOND PLACE MEDALaSECTION SIGNaSECTORaSEDNAaSEE-NO-EVIL MONKEYaSEEDLINGaSEGMENTaSEGMENTED DI
GIT bEIGHTbFIVEbFOURbNINEbONEbSEVENbSIXbTHREEbTWObZEROaSELFIEaSEMICOLONaSEMIDIRECT PRODUCT WITH BO
TTOM CLOSEDaSEMISEXTILEaSEPARATED SYMBOLaSERIOUS FACE WITH SYMBOLS COVERING MOUTHaSERVICE MARKaSES
AME DOTaSESQUIQUADRATEaSET bMINUSbTRANSMIT STATEaSEWING NEEDLEaSEXTILEaSGCaSHADOWED WHITE bCIRCLEb
LATIN CROSSbSTARaSHALLOW PAN OF FOODaSHAMROCKaSHARADA bABBREVIATION SIGNbCONTINUATION SIGNbDANDAbD
IGIT cEIGHTcFIVEcFOURcNINEcONEcSEVENcSIXcTHREEcTWOcZERObDOUBLE DANDAbEKAMbEXTRA SHORT VOWEL MARKbH
EADSTROKEbLETTER cAcAAcAIcAUcBAcBHAcCAcCHAcDAcDDAcDDHAcDHAcEcGAcGHAcHAcIcIIcJAcJHAcKAcKHAcLAcLLAcM
AcNAcNGAcNNAcNYAcOcPAcPHAcRAcSAcSHAcSSAcTAcTHAcTTAcTTHAcUcUUcVAcVOCALIC dLdLLdRdRRcYAbOMbSANDHI MA
RKbSECTION MARK-c1c2bSEPARATORbSIGN cANUSVARAcAVAGRAHAcCANDRABINDUcINVERTED CANDRABINDUcJIHVAMULIY
AcNUKTAcSIDDHAMcUPADHMANIYAcVIRAMAcVISARGAbSUTRA MARKbVOWEL cMODIFIER MARKcSIGN dAAdAIdAUdEdIdIIdO
dPRISHTHAMATRA EdUdUUdVOCALIC eLeLLeReRRaSHARKaSHAVED ICEaSHAVIAN LETTER bADObAGEbAHbAIRbAREbARRAY
bASHbAWEbBIBbCHURCHbDEADbEARbEATbEGGbERRbFEEbGAGbHA-HAbHUNGbIANbICEbIFbJUDGEbKICKbLOLLbMEASUREbMIM
EbNUNbOAKbOILbONbOOZEbORbOUTbPEEPbROARbSObSUREbTHEYbTHIGHbTOTbUPbVOWbWOEbWOOLbYEAbYEWbZOOaSHEEPaSH
IELDaSHIFT bINbOUTaSHINTO SHRINEaSHIPaSHOCKED FACE WITH EXPLODING HEADaSHOOTING STARaSHOPPING bBAG
SbTROLLEYaSHORT bBACKSLANTED SOUTH ARROWbBENT ARROW POINTING DOWNWARDS THEN NORTH EASTbDOWN cTACKc
TACK WITH OVERBARbLEFT TACKbRIGHTWARDS ARROW ABOVE LEFTWARDS ARROWbSLANTED NORTH ARROWbUP cTACKcTA
CK dABOVE SHORT DOWN TACKdWITH UNDERBARaSHORTCAKEaSHORTHAND FORMAT bCONTINUING OVERLAPbDOWN STEPbL
ETTER OVERLAPbUP STEPaSHORTSaSHOULDERED OPEN BOXaSHOWERaSHRIMPaSHRUGaSHUFFLE PRODUCTaSHYaSIaSIDDHA
M bDANDAbDOUBLE DANDAbEND OF TEXT MARKbLETTER cAcAAcAIcALTERNATE UcAUcBAcBHAcCAcCHAcDAcDDAcDDHAcDH
AcEcGAcGHAcHAcIcIIcJAcJHAcKAcKHAcLAcMAcNAcNGAcNNAcNYAcOcPAcPHAcRAcSAcSHAcSSAcTAcTHAcTHREE-CIRCLE A
LTERNATE IcTTAcTTHAcTWO-CIRCLE ALTERNATE dIdIIcUcUUcVAcVOCALIC dLdLLdRdRRcYAbREPETITION MARK-c1c2c
3bSECTION MARK cDOUBLE dRINGdRING WITH RAYScWITH dCIRCLES AND eFOUR ENCLOSURESeRAYSeTWO ENCLOSURES
dDOUBLE CRESCENTSdQUADRUPLE CRESCENTSdRAYS AND DOTTED eCRESCENTSeDOUBLE CRESCENTSeTRIPLE CRESCENTS
dSEPTUPLE CRESCENTSdTRIDENT AND eDOTTED CRESCENTSeU-SHAPED ORNAMENTSdTRIPLE CRESCENTSbSEPARATOR cB
ARcDOTbSIGN cANUSVARAcCANDRABINDUcNUKTAcSIDDHAMcVIRAMAcVISARGAbVOWEL SIGN cAAcAIcALTERNATE dUdUUcA
UcEcIcIIcOcUcUUcVOCALIC dRdRRaSIDEWAYS bBLACK cDOWN POINTING INDEXcLEFT POINTING INDEXcRIGHT POINT
ING INDEXcUP POINTING INDEXbWHITE cDOWN POINTING INDEXcLEFT POINTING INDEXcRIGHT POINTING INDEXcU
P POINTING INDEXaSIGN OF THE HORNSaSIGNWRITING bAIR cBLOW SMALL ROTATIONScBLOWING OUTcSUCK SMALL R
OTATIONScSUCKING INbBREATH cEXHALEcINHALEbBRUSH cBETWEENcMULTIPLEcSINGLEbCHEEKS cNEUTRALcPUFFEDcSU
CKEDbCOLONbCOMMAbDREAMY EYEBROWS cDOWN NEUTRALcNEUTRAL dDOWNdUPcUP NEUTRALbDYNAMIC cARROWHEAD dLAR
GEdSMALLcEVERY OTHER TIMEcFASTcGRADUALcRELAXEDcSIMULTANEOUScSIMULTANEOUS ALTERNATINGcSLOWcTENSEbEA
RSbEXCITEMENTbEYE cBLINK dMULTIPLEdSINGLEcWINKbEYEBROWS STRAIGHT cDOWNcNEUTRALcUPbEYEGAZE-cFLOORPL
ANE dCURVEDdSTRAIGHTdSTRAIGHT eALTERNATINGeDOUBLEcWALLPLANE dCIRCLINGdCURVEDdSTRAIGHTdSTRAIGHT eAL
TERNATINGeDOUBLEbEYELASHES cDOWNcFLUTTERINGcUPbEYES cCLOSEDcHALF dCLOSEDdOPENcOPENcSQUEEZEDcWIDE O
PENcWIDENING MOVEMENTbFACE DIRECTION POSITION NOSE cFORWARD TILTINGcUP OR dDOWNdDOWN TILTINGbFIL
L MODIFIER-c2c3c4c5c6bFINGERbFLICK cLARGE dMULTIPLEdSINGLEcSEQUENTIALcSMALL dMULTIPLEdSINGLEbFLOOR
PLANE SHOULDER HIP MOVEbFOREHEAD cCONTACTcNEUTRALcWRINKLEDbFULL STOPbGRASP cBETWEENcMULTIPLEcSINGL
EbHAIRbHAND-cANGLEcANGLE dINDEXdINDEX eMIDDLE fLITTLEfRINGeRING fLITTLEfLITTLE OUTeTHUMBeTHUMB fIN
fOUTdLITTLE eINDEXeINDEX THUMB INDEX fTHUMBfTHUMB OUTeUPdMIDDLE RING eLITTLEeLITTLE fINfOUTdRING e
DOWN MIDDLE THUMB INDEX CROSSeLITTLEcCIRCLEcCIRCLE dINDEXdINDEX eBENTeHINGEeMIDDLEeMIDDLE fCROSS L
ITTLEfCROSSEDfLITTLEfRINGfTHUMBeRING LITTLEdLITTLE eINDEXeUPdMIDDLE eRING fLITTLEfLITTLE BENTeUPdR
ING LITTLEcCLAWcCLAW dFOUR FINGERS CONJOINEDdINDEX THUMB CURVE THUMB INSIDEdMIDDLE RING LITTLE eCO
NJOINEDeCONJOINED SIDEdNO THUMBdTHUMB eFORWARDeSIDEcCUPcCUP dFIVE FINGERS eSPREADeSPREAD OPENdINDE
XdINDEX eRING LITTLEeTHUMBeTHUMB OPENdMIDDLE RING LITTLEdNO THUMBdOPENdOPEN eNO THUMBeTHUMB fFORWA
RDfSIDEdTHUMB eFORWARDeSIDEcCURLICUEcCURLICUE dINDEX RING LITTLE ONdMIDDLE RING LITTLE ONdOPENcFIS
TcFIST dFOUR FINGERS CONJOINED BENTdHEELdINDEXdINDEX eBENTeBENT OVER MIDDLEeCUPPEDeHINGEDeHINGED f
LOWfMIDDLE gUPgUP THUMB SIDEeMIDDLEeMIDDLE fBENTfBENT THUMB STRAIGHTfCONJOINEDfCONJOINED gCUPPEDgC
UPPED THUMB FORWARDgHINGEDgHINGED THUMB SIDEgINDEX BENTgMIDDLE BENTgTHUMB hFORWARDhSIDEhSIDE iBENT
iCONJOINEDfCROSS LITTLEfCROSSEDfCROSSED THUMB SIDEfHINGEDfHINGED SPREAD THUMB SIDEfLITTLEfRAISED K
NUCKLESfRINGfRING gBENTgCONJOINEDfSTRAIGHT THUMB BENTfTHUMBfTHUMB gANGLEDgANGLED OUTgBENTgCIRCLEDg
CONJOINED HINGEDgCUPPEDgHINGEDgHOOKEDfUP SPREAD THUMB FORWARDeRAISED KNUCKLEeRING LITTLEeTHUMB fAN
GLED gIN MIDDLE UPgOUT MIDDLE UPfCIRCLEfCIRCLED MIDDLE UPfCUPPED MIDDLE UPfCURLICUEfCURVE THUMB gI
NSIDEgUNDERfFORWARD INDEX gBENTgSTRAIGHTfHOOKfHOOKED MIDDLE gHINGEDgUPfSIDEfSIDE gBOTH BENTgINDE
X hBENThHINGEgTHUMB hBENThCONJOINEDhDIAGONALeUP MIDDLE fHINGEDfHINGED THUMB gCONJOINEDgSIDEdLITTL
E eBENTeDOWNeDOWN fOTHERS CIRCLEDfRIPPLE gCURVEDgSTRAIGHTeINDEXeINDEX THUMBeRAISED KNUCKLEeTHUMBeT
OUCHES THUMBeUPdMIDDLE eBENT OVER INDEXeDOWNeLITTLEeRAISED KNUCKLEeRING LITTLEeTHUMB fANGLED gINDE
X UPgOUT INDEX hCROSSEDhUPfCIRCLED INDEX gHINGEDgUPfCUPPED INDEX UPfHOOKED INDEX UPfLITTLEeUPeUP T
HUMB SIDEdRING eDOWNeINDEXeLITTLEeMIDDLEeMIDDLE fCONJOINEDfRAISED KNUCKLESeRAISED KNUCKLEeTHUMBeUP
dTHUMBdTHUMB eBETWEEN fINDEX gMIDDLEgMIDDLE STRAIGHTfMIDDLE RINGfRING LITTLEeFORWARDeHEELeOVER fFO
UR RAISED KNUCKLESfTWO FINGERSeSIDE fBENTfCONJOINEDfDIAGONALeUNDER fFOUR FINGERSfINDEX BENTfLITTL
E UPfTHREE FINGERSfTWO FINGERScFLATcFLAT dBETWEEN PALM FACINGSdFIVE FINGERS eSPREADeSPREAD fBENTfF
OUR BENTfHINGEDfHINGED gNO THUMBgTHUMB SIDEfTHUMB FORWARDdFOUR eFINGERSeFINGERS fBENTfCONJOINEDfCO
NJOINED SPLITfHINGEDdHEELdHEEL eFIVE FINGERS fSPREADfSPREAD gBENTgFOUR BENTeTHUMB SIDEdSPLIT eCENT
REeCENTRE THUMB fSIDEfSIDE BENTeINDEX THUMB SIDEeLITTLEdTHUMB eBENTeFORWARDeSIDEcHINGEcHINGE dFIV
E FINGERS SPREAD OPENdFOUR FINGERS CONJOINEDdINDEXdINDEX eHINGEDeMIDDLE fLITTLEfRINGfRING CONJOINE
DeRING LITTLEeTHUMBeTHUMB fLARGEfOPENfSIDEfSMALLdLITTLEdLITTLE eINDEXeINDEX THUMBeTHUMBdMIDDLEdMID
DLE RING LITTLEdNO THUMBdOPENdOPEN eNO THUMBeTHUMB fFORWARDfSIDEdRINGdRING DOWN INDEX THUMB HOOK M
IDDLEdSMALLdTHUMB eBETWEEN MIDDLE RINGeSIDEeSIDE TOUCHING INDEXcHOOKcHOOK dCURLICUEdINDEX RING LIT
TLE eINeOUTeUNDERdMIDDLE eRING LITTLE fCONJOINEDfCONJOINED gINgOUTeTHUMBdRING THUMBcOVALcOVAL dFIV
E FINGERS SPREADdINDEXdLITTLE UPdNO THUMBdRING LITTLEdTHUMB eFORWARDeSIDEbHEADbHEAD cMOVEMENT CIRC
LEcMOVEMENT-dFLOORPLANE eCURVEeSTRAIGHTdWALLPLANE eCURVEeSTRAIGHTeTILTcRIMbLIMB cCOMBINATIONcLENGT
H-d1d2d3d4d5d6d7bLIP cLOWER OVER UPPERcUPPER OVER LOWERbLIPS PRESSED TOGETHERbLOCATION cDEPTHcHEA
D NECKcHEIGHTcLIMBS DIGITScTORSOcWIDTHbLOCATION-cFLOORPLANE SPACEcWALLPLANE SPACEbMOUTH cCLOSED dC
ONTACTdFORWARDdNEUTRALcCORNERScFROWNcFROWN dOPENdWRINKLEDcKISScKISS dFORWARDdWRINKLEDcOPEN dCIRCLE
dFORWARDdOVALdOVAL eWRINKLEDeYAWNdRECTANGLEdRECTANGLE eWRINKLEDeYAWNdWRINKLEDcSMILEcSMILE dOPENdWR
INKLEDcTENSEcTENSE dFORWARDdSUCKEDcWRINKLES dDOUBLEdSINGLEbMOVEMENT-cDIAGONAL dAWAY eLARGEeLARGEST
eMEDIUMeSMALLdBETWEEN eAWAY fLARGEfLARGESTfMEDIUMfSMALLeTOWARDS fLARGEfLARGESTfMEDIUMfSMALLdTOWARD
S eLARGEeLARGESTeMEDIUMeSMALLcFLOORPLANE dARM CIRCLE HITTING WALL eLARGE fDOUBLEfSINGLEeMEDIUM fDO
UBLEfSINGLEeSMALL fDOUBLEfSINGLEdBENDdBOX eLARGEeMEDIUMeSMALLdCHECKdCORNER eLARGEeMEDIUMeSMALLdCRO
SSdCURVE eCOMBINEDeHITTING fCEILING gLARGEgSMALLfFLOOR gLARGEgSMALLeLARGEeLARGESTeMEDIUMeSMALLdDOU
BLE eALTERNATINGeALTERNATING WRIST FLEXeSTRAIGHTeWRIST FLEXdFINGER eCIRCLES HITTING WALL fDOUBLEfS
INGLEeCONTACTdHUMP eHITTING fCEILING gLARGE hDOUBLEhTRIPLEgSMALL hDOUBLEhTRIPLEfFLOOR gLARGE DOUBL
EgSMALL DOUBLEgTRIPLE hLARGE TRIPLEhSMALL TRIPLEeSMALLdJAWdLOOP eHITTING fCEILING gLARGE hDOUBLEhS
INGLEgSMALL hDOUBLEhSINGLEfFLOOR gLARGE hDOUBLEhSINGLEgSMALL hDOUBLEhSINGLEeSMALLdPEAKS eLARGEeMED
IUMeSMALLdSHAKING PARALLELdSINGLE eSTRAIGHT fLARGEfLARGESTfMEDIUMfSMALLeWRIST FLEXdTRIPLE eALTERNA
TING fMOVEMENTfWRIST FLEXeSTRAIGHT MOVEMENTeWRIST FLEXdWAVE eHITTING fCEILING gLARGEgSMALLfFLOOR g
LARGEgSMALLeLARGEeSMALLeSNAKEdWRIST CIRCLE HITTING WALL eDOUBLEeSINGLEdZIGZAG eLARGEeMEDIUMeSMALLc
HINGE dDOWN SEQUENTIALdSIDE TO SIDE SCISSORSdUP eDOWN fALTERNATING gLARGEgSMALLfLARGEfSMALLeSEQUEN
TIALcWALLPLANE dARM CIRCLE eMEDIUM fDOUBLEfSINGLEeSMALL fDOUBLEfSINGLEdBEND eLARGEeMEDIUMeSMALLdBO
X eLARGEeMEDIUMeSMALLdCHECK eLARGEeMEDIUMeSMALLdCORNER eLARGEeMEDIUMeROTATIONeSMALLdCROSSdCURVE eH
ALF-CIRCLE fLARGEfLARGESTfMEDIUMfSMALLeHITTING fCHESTfFRONT WALLeQUARTER fLARGEfLARGESTfMEDIUMfSMA
LLeTHEN STRAIGHTeTHREE-QUARTER CIRCLE fMEDIUMfSMALLdCURVED CROSS eMEDIUMeSMALLdDOUBLE eALTERNATING
eALTERNATING WRIST FLEXeSTRAIGHTeWRIST FLEXdFINGER eCIRCLES fDOUBLEfSINGLEeCONTACTdHUMP eHITTING f
CHESTfFRONT WALLeLARGEeMEDIUMeSMALLdJAWdLOOP eHITTING fCHESTfFRONT WALLeLARGEeMEDIUMeSMALLeSMALL D
OUBLEdPEAKS eLARGEeMEDIUMeSMALLdSHAKINGdSINGLE eSTRAIGHT fLARGEfLARGESTfMEDIUMfSMALLeWRIST FLEXdTR
IPLE eALTERNATINGeALTERNATING WRIST FLEXeSTRAIGHT MOVEMENTeWRIST FLEXdWAVE eCURVE fDOUBLE gLARGEgM
EDIUMgSMALLfTRIPLE gLARGEgMEDIUMgSMALLeDIAGONAL PATH fLARGEfMEDIUMfSMALLeHITTING fCHESTfFRONT WALL
dWRIST CIRCLE FRONT eDOUBLEeSINGLEdZIGZAG eLARGEeMEDIUMeSMALLbNECKbNOSE cCONTACTcNEUTRALcWIGGLEScW
RINKLESbPARENTHESISbROTATION MODIFIER-c10c11c12c13c14c15c16c2c3c4c5c6c7c8c9bROTATION-cFLOORPLANE d
ALTERNATINGdALTERNATING HITTING eCEILINGeFLOORdDOUBLEdDOUBLE HITTING eCEILINGeFLOORdSINGLEdSINGL
E HITTING eCEILINGeFLOORcWALLPLANE dALTERNATEdALTERNATING HITTING eCHESTeFRONT WALLdDOUBLEdDOUBL
E HITTING eCHESTeFRONT WALLdSINGLEdSINGLE HITTING eCHESTeFRONT WALLbRUB cBETWEENcMULTIPLEcSINGLEbS
EMICOLONbSHOULDER cHIP dPOSITIONSdSPINEcTILTING FROM WAISTbSQUEEZE cFLICK ALTERNATINGcLARGE dMULTI
PLEdSINGLEcSEQUENTIALcSMALL dMULTIPLEdSINGLEbSTRIKE cBETWEENcMULTIPLEcSINGLEbSURFACE cBETWEENcSYMB
OLSbTEETHbTEETH cBITE LIPScMOVEMENTcON dLIPSdLIPS MOVEMENTdTONGUEdTONGUE MOVEMENTbTENSE CHEEKS cHI
GHcLOWcMIDDLEbTONGUE cCENTRE dINSIDE MOUTHdSTICKING OUTcINSIDE MOUTH RELAXEDcLICKING LIPScMOVES AG
AINST CHEEKcSTICKING OUT FARcTIP dBETWEEN LIPSdTOUCHING INSIDE MOUTHbTORSO-cFLOORPLANE TWISTINGcWA
LLPLANE dCURVED BENDdSTRAIGHT STRETCHbTOUCH cBETWEENcMULTIPLEcSINGLEbTRAVEL-cFLOORPLANE dROTATION-
eFLOORPLANE fALTERNATINGfDOUBLEfSINGLEeWALLPLANE fALTERNATINGfDOUBLEfSINGLEdSHAKINGcWALLPLANE dAR
M SPIRAL eDOUBLEeSINGLEeTRIPLEdROTATION-eFLOORPLANE fALTERNATINGfDOUBLEfSINGLEeWALLPLANE fALTERNAT
INGfDOUBLEfSINGLEdSHAKINGbUPPER BODY TILTING FROM HIP JOINTSbWALLPLANE SHOULDER HIP MOVEaSILHOUETT
E OF JAPANaSIMILAR bABOVE cGREATER-THAN ABOVE EQUALS SIGNcLESS-THAN ABOVE EQUALS SIGNbMINUS SIMILA
RbOR cGREATER-THANcLESS-THANaSINE WAVEaSINGLE bCHARACTER INTRODUCERbGRAPHIC CHARACTER INTRODUCERbH
IGH-REVERSED-9 QUOTATION MARKbLEFT-POINTING ANGLE QUOTATION MARKbLOW-9 QUOTATION MARKbRIGHT-POINTI
NG ANGLE QUOTATION MARKbSHIFT cTHREEcTWOaSINGLE-SHIFT-b2b3aSINHALA bARCHAIC cDIGIT dEIGHTdFIVEdFOU
RdNINEdONEdSEVENdSIXdTHREEdTWOcNUMBER dEIGHTYdFIFTYdFORTYdNINETYdONE eHUNDREDeTHOUSANDdSEVENTYdSIX
TYdTENdTHIRTYdTWENTYbLETTER cAAYANNAcAEEYANNAcAEYANNAcAIYANNAcALPAPRAANA dBAYANNAdCAYANNAdDAYANNAd
DDAYANNAdGAYANNAdJAYANNAdKAYANNAdPAYANNAdTAYANNAdTTAYANNAcAMBA BAYANNAcAUYANNAcAYANNAcDANTAJA dLAY
ANNAdNAYANNAdSAYANNAcEEYANNAcEYANNAcFAYANNAcHAYANNAcIIYANNAcILUUYANNAcILUYANNAcIRUUYANNAcIRUYANNAc
IYANNAcKANTAJA NAASIKYAYAcMAHAAPRAANA dBAYANNAdCAYANNAdDAYANNAdDDAYANNAdGAYANNAdJAYANNAdKAYANNAdPA
YANNAdTAYANNAdTTAYANNAcMAYANNAcMUURDHAJA dLAYANNAdNAYANNAdSAYANNAcOOYANNAcOYANNAcRAYANNAcSANYAKA d
DAYANNAdDDAYANNAdGAYANNAdJAYANNAcTAALUJA dNAASIKYAYAdSANYOOGA NAAKSIKYAYAdSAYANNAcUUYANNAcUYANNAcV
AYANNAcYAYANNAbLITH DIGIT cEIGHTcFIVEcFOURcNINEcONEcSEVENcSIXcTHREEcTWOcZERObPUNCTUATION KUNDDALIY
AbSIGN cAL-LAKUNAcANUSVARAYAcCANDRABINDUcVISARGAYAbVOWEL SIGN cAELA-PILLAcDIGA dAEDA-PILLAdGAETTA-
PILLAdGAYANUKITTAdIS-PILLAdKOMBUVAdPAA-PILLAcGAETTA-PILLAcGAYANUKITTAcKETTI dAEDA-PILLAdIS-PILLAdP
AA-PILLAcKOMBU DEKAcKOMBUVAcKOMBUVA HAA dAELA-PILLAdDIGA AELA-PILLAdGAYANUKITTAaSIX bPETALLED BLAC
K AND WHITE FLORETTEbPOINTED cBLACK STARcPINWHEEL STARcSTAR WITH MIDDLE DOTaSIX-PER-EM SPACEaSIXTE
EN POINTED ASTERISKaSKATEBOARDaSKI AND SKI BOOTaSKIERaSKULLaSKULL AND CROSSBONESaSKUNKaSLANTED bEQ
UAL TO OR cGREATER-dTHANdTHAN WITH DOT INSIDEcLESS-dTHANdTHAN WITH DOT INSIDEbNORTH ARROW WITH cHO
OKED HEADcHORIZONTAL TAILaSLAVONIC ASTERISKaSLEDaSLEEPING bACCOMMODATIONbFACEbSYMBOLaSLEEPY FACEaS
LEUTH OR SPYaSLICE OF PIZZAaSLIGHTLY bFROWNING FACEbSMILING FACEaSLOPEaSLOPING LARGE bANDbORaSLO
T MACHINEaSLOTHaSMALL bAIRPLANEbAMPERSANDbASTERISKbBLUE DIAMONDbCOLONbCOMMAbCOMMERCIAL ATbCONTAIN
S cAS MEMBERcWITH dOVERBARdVERTICAL BAR AT END OF HORIZONTAL STROKEbDOLLAR SIGNbELEMENT cOFcOF WIT
H dOVERBARdVERTICAL BAR AT END OF HORIZONTAL STROKEbEM DASHbEQUALS SIGNbEXCLAMATION MARKbFULL STOP
bGREATER-THAN SIGNbHYPHEN-MINUSbIDEOGRAPHIC COMMAbLEFT cCURLY BRACKETcPARENTHESIScTORTOISE SHELL B
RACKETbLESS-THAN SIGNbNUMBER SIGNbORANGE DIAMONDbPERCENT SIGNbPLUS SIGNbQUESTION MARKbREVERSE SOLI
DUSbRIGHT cCURLY BRACKETcPARENTHESIScTORTOISE SHELL BRACKETbROMAN NUMERAL cEIGHTcELEVENcFIFTYcFIVE
cFIVE HUNDREDcFOURcNINEcONEcONE dHUNDREDdTHOUSANDcSEVENcSIXcTENcTHREEcTWELVEcTWObSEMICOLONbTILDEbT
WO DOTS OVER ONE DOT PUNCTUATIONbVEE WITH UNDERBARaSMALLER bTHANbTHAN OR EQUAL TOaSMASH PRODUCTaSM
ILEaSMILING bCAT FACE WITH cHEART-SHAPED EYEScOPEN MOUTHbFACE WITH cHALOcHEART-SHAPED EYEScHORNScO
PEN dMOUTHdMOUTH AND eCOLD SWEATeSMILING EYESeTIGHTLY-CLOSED EYEScSMILING dEYESdEYES AND eHAND COV
ERING MOUTHeTHREE HEARTScSUNGLASSEScTEARaSMIRKING FACEaSMOKING SYMBOLaSNAILaSNAKEaSNEEZING FACEaSN
OW CAPPED MOUNTAINaSNOWBOARDERaSNOWFLAKEaSNOWMANaSNOWMAN WITHOUT SNOWaSOaSOCCER BALLaSOCKSaSOFT bH
YPHENbICE CREAMbSHELL FLOPPY DISKaSOFTBALLaSOFTWARE-FUNCTION SYMBOLaSOGDIAN bCOMBINING cCURVE dABO
VEdBELOWcDOT dABOVEdBELOWcHOOK dABOVEdBELOWcLONG HOOK BELOWcRESH BELOWcSTROKE BELOWcTWO DOTS dABOV
EdBELOWbINDEPENDENT SHINbLETTER cALEPHcAYINcBETHcFETHcGIMELcHEcHETHcKAPHcLAMEDHcLESHcMEMcNUNcPEcRE
SH-AYINcSADHEcSAMEKHcSHINcTAWcWAWcYODHcZAYINbNUMBER cONEcONE HUNDREDcTENcTWENTYbPUNCTUATION cCIRCL
E WITH DOTcHALF CIRCLE WITH DOTcTWO dCIRCLES WITH DOTSdVERTICAL eBARSeBARS WITH DOTSaSOHaSOLID QUI
LT SQUARE bORNAMENTbORNAMENT IN BLACK SQUAREaSOLIDUSaSOLIDUS WITH OVERBARaSOM SIGNaSOON WITH RIGHT
WARDS ARROW ABOVEaSORA SOMPENG bDIGIT cEIGHTcFIVEcFOURcNINEcONEcSEVENcSIXcTHREEcTWOcZERObLETTER cA
HcBAHcCAHcDAHcEEHcEHcGAHcHAHcIHcJAHcKAHcLAHcMAEcMAHcNAHcNGAHcNYAHcOHcPAHcRAHcSAHcTAHcUHcVAHcYAHaSO
SaSOUND RECORDING COPYRIGHTaSOUTH bEAST cARROWcARROW dAND SOUTH WEST ARROWdCROSSING NORTH EAST ARR
OWdTO CORNERdWITH HOOKcBLACK ARROWcDOUBLE ARROWcPOINTING dBUDdLEAFdVINE LEAFcSANS-SERIF ARROWcTRIA
NGLE-HEADED dARROWdARROW TO BARcWHITE ARROWbWEST cARROWcARROW dAND NORTH WEST ARROWdWITH HOOKcBLAC
K ARROWcDOUBLE ARROWcPOINTING dBUDdLEAFdVINE LEAFcSANS-SERIF ARROWcTRIANGLE-HEADED dARROWdARROW T
O BARcWHITE ARROWaSOYOMBO bCLUSTER-INITIAL LETTER cLAcRAcSAcSHAbFINAL CONSONANT SIGN c-AcBcDcGcKcL
cMcNcNGcRcScSHbGEMINATION MARKbHEAD MARK WITH MOON AND cSUNcSUN AND dFLAMEdTRIPLE FLAMEbLETTER c-A
cAcBAcBHAcCAcCHAcDAcDDAcDDHAcDHAcDZAcGAcGHAcHAcJAcJHAcKAcKHAcKSSAcLAcMAcNAcNGAcNNAcNYAcPAcPHAcRAcS
AcSHAcSSAcTAcTHAcTSAcTSHAcTTAcTTHAcVAcYAcZAcZHAbMARK cDOUBLE SHADcPLUTAcSHADcTSHEGbSIGN cANUSVARAc
JIHVAMULIYAcUPADHMANIYAcVISARGAbSUBJOINERbTERMINAL MARK-c1c2bVOWEL cLENGTH MARKcSIGN dAIdAUdEdIdOd
OEdUdUEdVOCALIC eLeRaSPaSPAaSPACEaSPAGHETTIaSPARKLEaSPARKLESaSPARKLING HEARTaSPEAK-NO-EVIL MONKEYa
SPEAKERaSPEAKER WITH bCANCELLATION STROKEbONE SOUND WAVEbTHREE SOUND WAVESaSPEAKING HEAD IN SILHOU
ETTEaSPEECH BALLOONaSPEEDBOATaSPESMILO SIGNaSPHERICAL bANGLEbANGLE OPENING cLEFTcUPaSPIDERaSPIDE
R WEBaSPIRAL bCALENDAR PADbNOTE PADbSHELLaSPLASHING SWEAT SYMBOLaSPONGEaSPOOL OF THREADaSPOONaSPOR
TS MEDALaSPOUTING WHALEaSQUARE bA OVER MbAARUbAMbANPEAbAPAATObARUHUAbAUbBAARERUbBARbBEETAbBIRUbBOR
UTObBQbBUSSYERUbC OVER KGbCALbCAPbCCbCDbCMbCM cCUBEDcSQUAREDbCObCORPORATIONbCUPbDAbDAASUbDBbDESIbD
JbDLbDMbDM cCUBEDcSQUAREDbDORUbEEKAAbERA NAME cHEISEIcMEIZIcREIWAcSYOUWAcTAISYOUbERGbESUKUUDObEVbF
MbFOOTbFOUR CORNERSbGALbGANMAbGARONbGBbGHZbGIGAbGINIIbGIRUDAAbGPAbGURAMUbGURAMUTONbGYbHAbHAITUbHEK
UTAARUbHERUTUbHGbHIRAGANA HOKAbHONbHOONbHOORUbHPbHPAbHUARADDObHUIITObHURANbHZbIMAGE cOFcOF OR dEQU
AL TOdNOT EQUAL TObINbININGUbINTIbIUbK OHMbKAbKAIRIbKARATTObKARORIIbKBbKCALbKEESUbKGbKHZbKIRObKIRO
GURAMUbKIROMEETORUbKIROWATTObKKbKLbKMbKM cCAPITALcCUBEDcSQUAREDbKOOPObKORUNAbKPAbKTbKUROONEbKURUZE
IRObKVbKWbKYURIIbLEFT OPEN BOX OPERATORbLMbLNbLOGbLOZENGEbLXbM cCUBEDcOHMcOVER dSdS SQUAREDcSQUARE
DbMAbMAHHAbMAIKURObMAIRUbMANSYONbMARUKUbMBbMB SMALLbMEETORUbMEGAbMEGATONbMGbMHZbMIKURONbMILbMIRIbM
IRIBAARUbMLbMMbMM cCUBEDcSQUAREDbMOLbMPAbMSbMU cAcFcGcLcMcScVcWbMVbMV MEGAbMWbMW MEGAbNAbNANObNFbN
MbNOTTObNSbNVbNWbONSUbOOMUbORIGINAL cOFcOF OR dEQUAL TOdNOT EQUAL TObOVbPAbPA AMPSbPAASENTObPAATUb
PCbPEEZIbPENIHIbPENSUbPESObPFbPHbPIASUTORUbPIKObPIKURUbPMbPOINTObPONDObPOSITION INDICATORbPPMbPRbP
SbPVbPWbRADbRAD OVER cScS SQUAREDbREMUbRENTOGENbRIGHT OPEN BOX OPERATORbRIRAbRITTORUbROOTbRUPIIbRU
UBURUbSAIKURUbSANTIIMUbSENTIbSENTObSIRINGUbSRbSVbTARGETbTHZbTONbUONbV OVER MbWATTObWBbWITH cBOTTO
M HALF BLACKcCONTOURED OUTLINEcDIAGONAL CROSSHATCH FILLcHORIZONTAL FILLcLEFT HALF BLACKcLOWER dLEF
T DIAGONAL HALF BLACKdRIGHT DIAGONAL HALF BLACKcORTHOGONAL CROSSHATCH FILLcRIGHT HALF BLACKcTOP HA
LF BLACKcUPPER dLEFT eDIAGONAL HALF BLACKeTO LOWER RIGHT FILLdRIGHT eDIAGONAL HALF BLACKeTO LOWE
R LEFT FILLcVERTICAL FILLbYAADObYAARUbYUANaSQUARED bASTERISKbCJK UNIFIED IDEOGRAPH-c4E00c4E09c4E2D
c4E8Cc4EA4c518Dc521Dc524Dc5272c53CCc53F3c5408c5439c55B6c58F0c591Ac5929c5B57c5DE6c5F8Cc624Bc6253c62
95c6307c6355c6599c65B0c6620c6708c6709c6E80c6F14c7121c751Fc7533c7981c7A7Ac7D42c89E3c8CA9c8D70c904Ac
914DbCLbCOOLbDOT OPERATORbEIGHT KbFALLING DIAGONAL SLASHbFIVE POINT ONEbFOUR cDOT PUNCTUATIONcKbFR
EEbHCbHDRbHI-RESbHVbIDbKATAKANA cDEcKOKOcSAbKEYbLATIN cCAPITAL LETTER dAdBdCdDdEdFdGdHdIdJdKdLdMdN
dOdPdQdRdSdTdUdVdWdXdYdZcSMALL LETTER DbLOGICAL cANDcORbLOSSLESSbMINUSbMVbNEWbNGbOKbONE HUNDRED TW
ENTY PbPLUSbPPVbRISING DIAGONAL SLASHbSALTIREbSDbSECOND SCREENbSEVEN POINT ONEbSHVbSIXTY PbSMALL C
IRCLEbSOSbSQUAREbSSbTHREE DbTIMESbTWENTY-TWO POINT TWObTWO KbUHDbUP WITH EXCLAMATION MARKbVODbVSbW
CaSQUAT BLACK RIGHTWARDS ARROWaSQUIDaSS2aSS3aSSAaSTaSTADIUMaSTAFF OF bAESCULAPIUSbHERMESaSTAMPED E
NVELOPEaSTANDING PERSONaSTAR bAND CRESCENTbEQUALSbOF DAVIDbOPERATORbWITH cLEFT HALF BLACKcRIGHT HA
LF BLACKaSTART OF bGUARDED AREAbHEADINGbPROTECTED AREAbSELECTED AREAbSTRINGbTEXTaSTATIONaSTATUE O
F LIBERTYaSTEAM LOCOMOTIVEaSTEAMING BOWLaSTENOGRAPHIC FULL STOPaSTETHOSCOPEaSTICK bFIGUREbFIGURE c
LEANING dLEFTdRIGHTcWITH dARMS RAISEDdDRESSaSTOCK CHARTaSTOPWATCHaSTRAIGHT RULERaSTRAIGHTNESSaSTRA
WBERRYaSTRESS OUTLINED WHITE STARaSTRICTLY EQUIVALENT TOaSTRING TERMINATORaSTSaSTUDIO MICROPHONEaS
TUFFED FLATBREADaSTUPAaSTXaSUBaSUBSCRIPT bEIGHTbEQUALS SIGNbFIVEbFOURbLEFT PARENTHESISbMINUSbNINEb
ONEbPLUS SIGNbRIGHT PARENTHESISbSEVENbSIXbTHREEbTWObZEROaSUBSET bABOVE cRIGHTWARDS ARROWcSUBSETcSU
PERSETbOFbOF cABOVE dALMOST EQUAL TOdEQUALS SIGNdNOT EQUAL TOdTILDE OPERATORcOR EQUAL dTOdTO WIT
H DOT ABOVEcWITH NOT EQUAL TObWITH cDOTcMULTIPLICATION SIGN BELOWcPLUS SIGN BELOWaSUBSTITUTEaSUCCE
EDSaSUCCEEDS bABOVE cALMOST EQUAL TOcEQUALS SIGNcNOT dALMOST EQUAL TOdEQUAL TOcSINGLE-LINE dEQUAL
S SIGNdNOT EQUAL TObBUT NOT EQUIVALENT TObOR cEQUAL TOcEQUIVALENT TObUNDER RELATIONaSUMMATION bBOT
TOMbTOPbWITH INTEGRALaSUNaSUN bBEHIND CLOUDbWITH FACEaSUNDANESE bAVAGRAHAbCONSONANT SIGN cPAMINGKA
LcPANYAKRAcPANYIKUcPASANGAN dMAdWAbDIGIT cEIGHTcFIVEcFOURcNINEcONEcSEVENcSIXcTHREEcTWOcZERObLETTE
R cAcAEcBAcBHAcCAcDAcEcEUcFAcFINAL dKdMcGAcHAcIcJAcKAcKHAcLAcLEUcMAcNAcNGAcNYAcOcPAcQAcRAcREUcSAcS
YAcTAcUcVAcWAcXAcYAcZAbPUNCTUATION BINDU cBA SATANGAcCAKRAcDA SATANGAcKA SATANGAcLEU SATANGAcPANGL
ONGcPURNAMAcSURYAbSIGN cPAMAAEHcPANGLAYARcPANGWISADcPANYECEKcVIRAMAbVOWEL SIGN cPAMEPETcPANAELAENG
cPANEULEUNGcPANGHULUcPANOLONGcPANYUKUaSUNFLOWERaSUNRISEaSUNRISE OVER MOUNTAINSaSUNSET OVER BUILDIN
GSaSUPERHEROaSUPERSCRIPT bEIGHTbEQUALS SIGNbFIVEbFOURbLATIN SMALL LETTER cIcNbLEFT PARENTHESISbMIN
USbNINEbONEbPLUS SIGNbRIGHT PARENTHESISbSEVENbSIXbTHREEbTWObZEROaSUPERSET bABOVE cLEFTWARDS ARROWc
SUBSETcSUPERSETbBESIDE cAND JOINED BY DASH WITH SUBSETcSUBSETbOFbOF cABOVE dALMOST EQUAL TOdEQUAL
S SIGNdNOT EQUAL TOdTILDE OPERATORcOR EQUAL dTOdTO WITH DOT ABOVEcWITH NOT EQUAL TObPRECEDING SOLI
DUSbWITH cDOTcMULTIPLICATION SIGN BELOWcPLUS SIGN BELOWaSUPERVILLAINaSURFACE INTEGRALaSURFERaSUSHI
aSUSPENSION RAILWAYaSWANaSWASH AMPERSAND ORNAMENTaSWIMMERaSWUNG DASHaSYLOTI NAGRI bLETTER cAcBHOcB
OcCHOcCOcDDHOcDDOcDHOcDOcEcGHOcGOcHOcIcJHOcJOcKHOcKOcLOcMOcNOcOcPHOcPOcROcRROcSOcTHOcTOcTTHOcTTOcU
bPOETRY MARK-c1c2c3c4bSIGN cALTERNATE HASANTAcANUSVARAcDVISVARAcHASANTAbVOWEL SIGN cAcEcIcOOcUaSYM
BOL FOR bACKNOWLEDGEbBACKSPACEbBELLbCANCELbCARRIAGE RETURNbDATA LINK ESCAPEbDELETEbDELETE FORM TWO
bDEVICE CONTROL cFOURcONEcTHREEcTWObEND OF cMEDIUMcTEXTcTRANSMISSIONcTRANSMISSION BLOCKbENQUIRYbES
CAPEbFILE SEPARATORbFORM FEEDbGROUP SEPARATORbHORIZONTAL TABULATIONbLINE FEEDbMARKS CHAPTERbNEGATI
VE ACKNOWLEDGEbNEWLINEbNULLbRECORD SEPARATORbSAMARITAN SOURCEbSHIFT cINcOUTbSPACEbSTART OF cHEADIN
GcTEXTbSUBSTITUTEbSUBSTITUTE FORM TWObSYNCHRONOUS IDLEbTYPE A ELECTRONICSbUNIT SEPARATORbVERTICA
L TABULATIONaSYMMETRYaSYNaSYNAGOGUEaSYNCHRONOUS IDLEaSYRIAC bABBREVIATION MARKbBARREKHbCOLON SKEWE
D cLEFTcRIGHTbCONTRACTIONbDOTTED ZLAMA cANGULARcHORIZONTALbEND OF PARAGRAPHbESASA cABOVEcBELOWbFEM
ININE DOTbHARKLEAN cASTERISCUScMETOBELUScOBELUSbHBASA cABOVEcBELOWbHBASA-ESASA DOTTEDbHORIZONTAL C
OLONbLETTER cALAPHcBETHcDALATHcDOTLESS DALATH RISHcEcFINAL SEMKATHcGAMALcGAMAL GARSHUNIcHEcHETHcKA
PHcLAMADHcMALAYALAM dBHAdJAdLLAdLLLAdNGAdNNAdNNNAdNYAdRAdSSAdTTAcMIMcNUNcPEcPERSIAN dBHETHdDHALATH
dGHAMALcQAPHcREVERSED PEcRISHcSADHEcSEMKATHcSHINcSOGDIAN dFEdKHAPHdZHAINcSUPERSCRIPT ALAPHcTAWcTET
HcTETH GARSHUNIcWAWcYUDHcYUDH HEcZAINbMUSICbOBLIQUE LINE cABOVEcBELOWbPTHAHA cABOVEcBELOWcDOTTEDbQ
USHSHAYAbRBASA cABOVEcBELOWbRUKKAKHAbRWAHAbSUBLINEAR cCOLONcCOLON SKEWED dLEFTdRIGHTcFULL STOPbSUP
RALINEAR cCOLONcCOLON SKEWED LEFTcFULL STOPbTHREE DOTS cABOVEcBELOWbTWO VERTICAL DOTS cABOVEcBELOW
bZQAPHA cABOVEcBELOWcDOTTEDaSYRINGEaT-bREXbSHIRTaTABaTABLE TENNIS PADDLE AND BALLaTACOaTAG bAMPERS
ANDbAPOSTROPHEbASTERISKbCIRCUMFLEX ACCENTbCOLONbCOMMAbCOMMERCIAL ATbDIGIT cEIGHTcFIVEcFOURcNINEcON
EcSEVENcSIXcTHREEcTWOcZERObDOLLAR SIGNbEQUALS SIGNbEXCLAMATION MARKbFULL STOPbGRAVE ACCENTbGREATER
-THAN SIGNbHYPHEN-MINUSbLATIN cCAPITAL LETTER dAdBdCdDdEdFdGdHdIdJdKdLdMdNdOdPdQdRdSdTdUdVdWdXdYdZ
cSMALL LETTER dAdBdCdDdEdFdGdHdIdJdKdLdMdNdOdPdQdRdSdTdUdVdWdXdYdZbLEFT cCURLY BRACKETcPARENTHESIS
cSQUARE BRACKETbLESS-THAN SIGNbLOW LINEbNUMBER SIGNbPERCENT SIGNbPLUS SIGNbQUESTION MARKbQUOTATIO
N MARKbREVERSE SOLIDUSbRIGHT cCURLY BRACKETcPARENTHESIScSQUARE BRACKETbSEMICOLONbSOLIDUSbSPACEbTIL
DEbVERTICAL LINEaTAGALOG bLETTER cAcARCHAIC RAcBAcDAcGAcHAcIcKAcLAcMAcNAcNGAcPAcRAcSAcTAcUcWAcYAbS
IGN cPAMUDPODcVIRAMAbVOWEL SIGN cIcUaTAGBANWA bLETTER cAcBAcDAcGAcIcKAcLAcMAcNAcNGAcPAcSAcTAcUcWAc
YAbVOWEL SIGN cIcUaTAI bLE LETTER cAcAIcAUEcEcEEcEHcFAcHAcIcKAcKHAcLAcMAcNAcNGAcOcOOcPAcPHAcQAcSAc
TAcTHAcTONE-d2d3d4d5d6cTSAcTSHAcUcUEcVAcXAcYAbTHAM cCOMBINING CRYPTOGRAMMIC DOTcCONSONANT SIGN dBA
dFINAL NGAdHIGH RATHA OR LOW PAdLA TANG LAIdLOW PAdMAdMEDIAL eLAeRAdSAcHORA DIGIT dEIGHTdFIVEdFOUR
dNINEdONEdSEVENdSIXdTHREEdTWOdZEROcLETTER dAdBAdDAdEEdGREAT SAdHIGH eCAeCHAeFAeHAeKAeKHAeKXAePAePH
AeRATHAeSAeSHAeSSAeTAeTHAeYAdIdIIdLAdLAEdLLAdLOW eCAeCHAeFAeHAeKAeKHAeKXAePAePHAeRATHAeSAeTAeTHAeY
AdLUEdMAdNAdNGAdNYAdOOdRAdRANAdRATAdRUEdUdUUdWAcSIGN dCAANGdDOKMAIdHANGdHOYdKAANdKAANKUUdKEOWdKHUE
N TONE-e3e4e5dKHUEN-LUE KARANdMAI eKANGeKANG LAIeSAMeYAMOKdRA HAAMdREVERSED ROTATED RANAdSAKOTdSAT
KAANdSATKAANKUUdSAWANdTONE-e1e2dWIANGdWIANGWAAKcTHAM DIGIT dEIGHTdFIVEdFOURdNINEdONEdSEVENdSIXdTHR
EEdTWOdZEROcVOWEL SIGN dAdAAdAEdAIdEdIdIIdMAI SATdOdOA eABOVEeBELOWdOOdOYdTALL AAdTHAM AIdUdUEdUUd
UUEbVIET cLETTER dHIGH eBOeCHOeCOeDOeFOeGOeHOeKHHOeKHOeKOeLOeMOeNGOeNOeNYOeOePHOePOeROeSOeTHOeTOeV
OeYOdLOW eBOeCHOeCOeDOeFOeGOeHOeKHHOeKHOeKOeLOeMOeNGOeNOeNYOeOePHOePOeROeSOeTHOeTOeVOeYOcMAI dKANG
dKHITcSYMBOL dHO HOIdKOI KOIdKONdNUENGdSAMcTONE MAI dEKdNUENGdSONGdTHOcVOWEL dAAdAMdANdAUEdAYdEdId
IAdOdUdUAdUEdUEAaTAKEOUT BOXaTAKRI bABBREVIATION SIGNbDIGIT cEIGHTcFIVEcFOURcNINEcONEcSEVENcSIXcTH
REEcTWOcZERObLETTER cAcAAcAIcARCHAIC KHAcAUcBAcBHAcCAcCHAcDAcDDAcDDHAcDHAcEcGAcGHAcHAcIcIIcJAcJHAc
KAcKHAcLAcMAcNAcNGAcNNAcNYAcOcPAcPHAcRAcRRAcSAcSHAcTAcTHAcTTAcTTHAcUcUUcVAcYAbSIGN cANUSVARAcNUKTA
cVIRAMAcVISARGAbVOWEL SIGN cAAcAIcAUcEcIcIIcOcUcUUaTALLY MARK bFIVEbONEaTAMALEaTAMIL bAND ODD SIGN
bAS ABOVE SIGNbAU LENGTH MARKbCREDIT SIGNbCURRENT SIGNbDAY SIGNbDEBIT SIGNbDIGIT cEIGHTcFIVEcFOURc
NINEcONEcSEVENcSIXcTHREEcTWOcZERObDRY CULTIVATION SIGNbFRACTION cDOWNSCALING FACTOR KIIZHcONE dEIG
HTHdEIGHTIETHdFIFTHdFORTIETHdHALF-e1e2dONE-HUNDRED-AND-SIXTIETHdQUARTERdSIXTEENTH-e1e2dSIXTY-FOURT
HdTENTHdTHIRTY-SECONDdTHREE-HUNDRED-AND-TWENTIETHdTWENTIETHcTHREE dEIGHTIETHSdQUARTERSdSIXTEENTHSd
SIXTY-FOURTHSdTWENTIETHSbIN POSSESSION SIGNbLAND SIGNbLETTER cAcAAcAIcAUcCAcEcEEcHAcIcIIcJAcKAcLAc
LLAcLLLAcMAcNAcNGAcNNAcNNNAcNYAcOcOOcPAcRAcRRAcSAcSHAcSSAcTAcTTAcUcUUcVAcYAbMONTH SIGNbNUMBER cON
E dHUNDREDdTHOUSANDcSIGNcTENbOMbPUNCTUATION END OF TEXTbRUPEE SIGNbSALT PAN SIGNbSIGN cAAZHAAKKUcA
NUSVARAcCEVITUcKAACUcKURUNIcKUZHIcMUKKURUNIcMUTHALIYAcMUUVUZHAKKUcNELcPAARAMcPANAMcPATHAKKUcPONcUZ
HAKKUcVAKAIYARAAcVARAAKANcVELIcVIRAMAcVISARGAbSPENT SIGNbSTARTING FROM SIGNbTOTAL SIGNbTRADITIONA
L cCREDIT SIGNcNUMBER SIGNbVOWEL SIGN cAAcAIcAUcEcEEcIcIIcOcOOcUcUUbWET CULTIVATION SIGNbYEAR SIGN
aTANABATA TREEaTANGERINEaTANGSA bDIGIT cEIGHTcFIVEcFOURcNINEcONEcSEVENcSIXcTHREEcTWOcZERObLETTER c
ACcAQcAWCcAWQcAWXcAWZcAXcAZcBAcCAcCHAcDAcDHAcECcEQcEXcEZcFAcFINAL NGcGAcGHAcHAcHTAcHTTAcICcIQcIXcI
ZcKAcKHAcLAcLONG UEXcMAcMCcMQcMXcMZcNAcNGAcNHAcNYAcOCcOQcOXcOZcPAcPHAcRAcSAcSHAcSHORT dAWXdUEZcTAc
THAcTSAcUCcUECcUEQcUEXcUEZcUICcUIQcUIUCcUIUQcUIUXcUIUZcUIXcUIZcUQcUXcUZcVCcVQcVXcVZcWAcXAcYAcZAaTA
NGUT bCOMPONENT-c001c002c003c004c005c006c007c008c009c010c011c012c013c014c015c016c017c018c019c020c0
21c022c023c024c025c026c027c028c029c030c031c032c033c034c035c036c037c038c039c040c041c042c043c044c045
c046c047c048c049c050c051c052c053c054c055c056c057c058c059c060c061c062c063c064c065c066c067c068c069c0
70c071c072c073c074c075c076c077c078c079c080c081c082c083c084c085c086c087c088c089c090c091c092c093c094
c095c096c097c098c099c100c101c102c103c104c105c106c107c108c109c110c111c112c113c114c115c116c117c118c1
19c120c121c122c123c124c125c126c127c128c129c130c131c132c133c134c135c136c137c138c139c140c141c142c143
c144c145c146c147c148c149c150c151c152c153c154c155c156c157c158c159c160c161c162c163c164c165c166c167c1
68c169c170c171c172c173c174c175c176c177c178c179c180c181c182c183c184c185c186c187c188c189c190c191c192
c193c194c195c196c197c198c199c200c201c202c203c204c205c206c207c208c209c210c211c212c213c214c215c216c2
17c218c219c220c221c222c223c224c225c226c227c228c229c230c231c232c233c234c235c236c237c238c239c240c241
c242c243c244c245c246c247c248c249c250c251c252c253c254c255c256c257c258c259c260c261c262c263c264c265c2
66c267c268c269c270c271c272c273c274c275c276c277c278c279c280c281c282c283c284c285c286c287c288c289c290
c291c292c293c294c295c296c297c298c299c300c301c302c303c304c305c306c307c308c309c310c311c312c313c314c3
15c316c317c318c319c320c321c322c323c324c325c326c327c328c329c330c331c332c333c334c335c336c337c338c339
c340c341c342c343c344c345c346c347c348c349c350c351c352c353c354c355c356c357c358c359c360c361c362c363c3
64c365c366c367c368c369c370c371c372c373c374c375c376c377c378c379c380c381c382c383c384c385c386c387c388
c389c390c391c392c393c394c395c396c397c398c399c400c401c402c403c404c405c406c407c408c409c410c411c412c4
13c414c415c416c417c418c419c420c421c422c423c424c425c426c427c428c429c430c431c432c433c434c435c436c437
c438c439c440c441c442c443c444c445c446c447c448c449c450c451c452c453c454c455c456c457c458c459c460c461c4
62c463c464c465c466c467c468c469c470c471c472c473c474c475c476c477c478c479c480c481c482c483c484c485c486
c487c488c489c490c491c492c493c494c495c496c497c498c499c500c501c502c503c504c505c506c507c508c509c510c5
11c512c513c514c515c516c517c518c519c520c521c522c523c524c525c526c527c528c529c530c531c532c533c534c535
c536c537c538c539c540c541c542c543c544c545c546c547c548c549c550c551c552c553c554c555c556c557c558c559c5
60c561c562c563c564c565c566c567c568c569c570c571c572c573c574c575c576c577c578c579c580c581c582c583c584
c585c586c587c588c589c590c591c592c593c594c595c596c597c598c599c600c601c602c603c604c605c606c607c608c6
09c610c611c612c613c614c615c616c617c618c619c620c621c622c623c624c625c626c627c628c629c630c631c632c633
c634c635c636c637c638c639c640c641c642c643c644c645c646c647c648c649c650c651c652c653c654c655c656c657c6
58c659c660c661c662c663c664c665c666c667c668c669c670c671c672c673c674c675c676c677c678c679c680c681c682
c683c684c685c686c687c688c689c690c691c692c693c694c695c696c697c698c699c700c701c702c703c704c705c706c7
07c708c709c710c711c712c713c714c715c716c717c718c719c720c721c722c723c724c725c726c727c728c729c730c731
c732c733c734c735c736c737c738c739c740c741c742c743c744c745c746c747c748c749c750c751c752c753c754c755c7
56c757c758c759c760c761c762c763c764c765c766c767c768bITERATION MARKaTAPE bCARTRIDGEbDRIVEaTAURUSaTAX
IaTEACUP WITHOUT HANDLEaTEAPOTaTEAR-OFF CALENDARaTEARDROP-bBARBED RIGHTWARDS ARROWbSPOKED ASTERISK
aTEDDY BEARaTELEPHONE bLOCATION SIGNbON TOP OF MODEMbRECEIVERbRECEIVER WITH PAGEbRECORDERbSIGNaTEL
ESCOPEaTELEVISIONaTELUGU bAI LENGTH MARKbDIGIT cEIGHTcFIVEcFOURcNINEcONEcSEVENcSIXcTHREEcTWOcZEROb
FRACTION DIGIT cONE FOR dEVEN POWERS OF FOURdODD POWERS OF FOURcTHREE FOR dEVEN POWERS OF FOURdOD
D POWERS OF FOURcTWO FOR dEVEN POWERS OF FOURdODD POWERS OF FOURcZERO FOR ODD POWERS OF FOURbLENGT
H MARKbLETTER cAcAAcAIcAUcBAcBHAcCAcCHAcDAcDDAcDDHAcDHAcDZAcEcEEcGAcGHAcHAcIcIIcJAcJHAcKAcKHAcLAcL
LAcLLLAcMAcNAcNAKAARA POLLUcNGAcNNAcNYAcOcOOcPAcPHAcRAcRRAcRRRAcSAcSHAcSSAcTAcTHAcTSAcTTAcTTHAcUcU
UcVAcVOCALIC dLdLLdRdRRcYAbSIGN cANUSVARAcAVAGRAHAcCANDRABINDUcCOMBINING dANUSVARA ABOVEdCANDRABIN
DU ABOVEcNUKTAcSIDDHAMcTUUMUcVIRAMAcVISARGAbVOWEL SIGN cAAcAIcAUcEcEEcIcIIcOcOOcUcUUcVOCALIC dLdLL
dRdRRaTENGE SIGNaTENNIS RACQUET AND BALLaTENTaTEST TUBEaTETRAGRAM FOR bACCUMULATIONbADVANCEbAGGRAV
ATIONbASCENTbBARRIERbBOLD RESOLUTIONbBRANCHING OUTbCENTREbCHANGEbCLOSED MOUTHbCLOSENESSbCLOSUREbCO
MPLETIONbCOMPLIANCEbCONSTANCYbCONTACTbCONTENTIONbCONTRARIETYbDARKENINGbDECISIVENESSbDEFECTIVENES
S OR DISTORTIONbDEPARTUREbDIFFICULTIESbDIMINISHMENTbDIMMINGbDIVERGENCEbDOUBTbDUTIESbEASEbEMBELLISH
MENTbENCOUNTERSbENDEAVOURbENLARGEMENTbETERNITYbEXHAUSTIONbFAILUREbFLIGHTbFOLLOWINGbFOSTERINGbFUL
L CIRCLEbFULLNESSbGATHERINGbGATHERING INbGOING TO MEETbGREATNESSbGUARDEDNESSbHARDNESSbHOLDING BACK
bINCREASEbINNERbJOYbKEEPING SMALLbKINSHIPbLABOURINGbLAW OR MODELbLEGIONbMASSINGbMEASUREbMIREDbON T
HE VERGEbOPPOSITIONbPACKINGbPATTERNbPENETRATIONbPURITYbREACHbRELEASEbRESIDENCEbRESISTANCEbRESPONSE
bRITUALbSEVERANCEbSINKINGbSTOPPAGEbSTOVEbSTRENGTHbUNITYbVASTNESS OR WASTINGbWAITINGbWATCHbYOUTHFUL
NESSaTHAANA bAABAAFILIbABAFILIbEBEFILIbEEBEEFILIbEYBEYFILIbIBIFILIbLETTER cAINUcALIFUcBAAcCHAVIYAN
IcDAADHUcDAVIYANIcDHAALUcFAAFUcGAAFUcGHAINUcGNAVIYANIcHAAcHHAAcJAVIYANIcKAAFUcKHAAcLAAMUcLHAVIYANI
cMEEMUcNAAcNOONUcPAVIYANIcQAAFUcRAAcSAADHUcSEENUcSHAVIYANIcSHEENUcTAVIYANIcTHAAcTHAALUcTOcTTAAcVAA
VUcWAAVUcYAAcZAAcZAVIYANIcZObOABOAFILIbOBOFILIbOOBOOFILIbSUKUNbUBUFILIaTHAI bCHARACTER cANGKHANKHU
cBO BAIMAIcCHO dCHANdCHANGdCHINGdCHOEcDO dCHADAdDEKcFO dFAdFANcFONGMANcHO dHIPdNOKHUKcKHO dKHAIdKH
ONdKHUATdKHWAIdRAKHANGcKHOMUTcKO KAIcLAKKHANGYAOcLO dCHULAdLINGcLUcMAI dCHATTAWAdEKdHAN-AKATdTHOdT
RIcMAITAIKHUcMAIYAMOKcMO MAcNGO NGUcNIKHAHITcNO dNENdNUcO ANGcPAIYANNOIcPHINTHUcPHO dPHANdPHUNGdSA
MPHAOcPO PLAcRO RUAcRUcSARA dAdAAdAEdAI eMAIMALAIeMAIMUANdAMdEdIdIIdOdUdUEdUEEdUUcSO dRUSIdSALAdSO
dSUAcTHANTHAKHATcTHO dNANGMONTHOdPHUTHAOdTHAHANdTHANdTHONGdTHUNGcTO dPATAKdTAOcWO WAENcYAMAKKANcY
O dYAKdYINGbCURRENCY SYMBOL BAHTbDIGIT cEIGHTcFIVEcFOURcNINEcONEcSEVENcSIXcTHREEcTWOcZEROaTHERE bD
OES NOT EXISTbEXISTSaTHEREFOREaTHERMODYNAMICaTHERMOMETERaTHIN bGREEK CROSSbSALTIREbSPACEaTHINKIN
G FACEaTHIRD PLACE MEDALaTHONG SANDALaTHOUGHT BALLOONaTHREE bBUTTON MOUSEbCONSECUTIVE EQUALS SIGNS
bDIMENSIONAL ANGLEbDOT PUNCTUATIONbLEFTWARDS ARROWSbLINES CONVERGING cLEFTcRIGHTbNETWORKED COMPUTE
RSbPOINTED BLACK STARbRAYS cABOVEcBELOWcLEFTcRIGHTbRIGHTWARDS ARROWSbSPEECH BUBBLESaTHREE-bD cBOTT
OM-LIGHTED RIGHTWARDS ARROWHEADcLEFT-LIGHTED DOWNWARDS EQUILATERAL ARROWHEADcRIGHT-LIGHTED UPWARD
S EQUILATERAL ARROWHEADcTOP-LIGHTED dLEFTWARDS EQUILATERAL ARROWHEADdRIGHTWARDS eARROWHEADeEQUILAT
ERAL ARROWHEADbEM DASHbPER-EM SPACEaTHUMBS bDOWN SIGNbUP SIGNaTHUNDER CLOUD AND RAINaTHUNDERSTORMa
TIBETAN bASTROLOGICAL SIGN c-KHYUD PAcSDONG TSHUGScSGRA GCAN -CHAR RTAGSbCANTILLATION SIGN cCANG T
E-UcHEAVY BEATcLIGHT BEATcSBUB -CHALbDIGIT cEIGHTcFIVEcFOURcHALF dEIGHTdFIVEdFOURdNINEdONEdSEVENdS
IXdTHREEdTWOdZEROcNINEcONEcSEVENcSIXcTHREEcTWOcZERObKU RU cKHAcKHA BZHI MIG CANbLETTER c-AcAcBAcBH
AcCAcCHAcDAcDDAcDDHAcDHAcDZAcDZHAcFIXED-FORM RAcGAcGHAcHAcJAcKAcKHAcKKAcKSSAcLAcMAcNAcNGAcNNAcNYAc
PAcPHAcRAcRRAcSAcSHAcSSAcTAcTHAcTSAcTSHAcTTAcTTHAcWAcYAcZAcZHAbLOGOTYPE SIGN cCHAD RTAGScLHAG RTAG
SbMARK cANG KHANG dGYASdGYONcBKA- SHOG dGI MGO RGYANdYIG MGOcBSDUS RTAGScBSKA- SHOG GI MGO RGYANcB
SKUR YIG MGOcCARET d-DZUD RTAGS eBZHI MIG CANeME LONG CANdYIG MGO PHUR SHAD MAcCHE MGOcCLOSING dBR
DA RNYING YIG MGO SGAB MAdYIG MGO SGAB MAcDELIMITER TSHEG BSTARcGTER dTSHEGdYIG MGO e-UM fGTER TSH
EG MAfRNAM BCAD MAeTRUNCATED AcGUG RTAGS dGYASdGYONcHALANTAcINITIAL dBRDA RNYING YIG MGO MDUN MAdY
IG MGO MDUN MAcINTERSYLLABIC TSHEGcLEADING MCHAN RTAGScMNYAM YIG GI MGO RGYANcNGAS BZUNG dNYI ZLAd
SGOR RTAGScNYIS dSHADdTSHEGdTSHEG SHADcPALUTAcRGYA GRAM SHADcRIN CHEN SPUNGS SHADcSBRUL SHADcSHADc
TRAILING MCHAN RTAGScTSA -PHRUcTSHEG SHADcYIG MGO TSHEG SHAD MAbSIGN cGRU dCAN RGYINGSdMED RGYINGS
cINVERTED MCHU CANcLCE TSA CANcLCI RTAGScMAR TSHEScMCHU CANcNYI ZLA NAA DAcRDEL dDKAR eGCIGeGNYISe
GSUMeRDEL NAGdNAG eGCIGeGNYISeGSUMeRDEL DKARcRJES SU NGA ROcRNAM BCADcSNA LDANcYANG RTAGScYAR TSHE
SbSUBJOINED cLETTER d-AdAdBAdBHAdCAdCHAdDAdDDAdDDHAdDHAdDZAdDZHAdFIXED-FORM eRAeWAeYAdGAdGHAdHAdJA
dKAdKHAdKSSAdLAdMAdNAdNGAdNNAdNYAdPAdPHAdRAdSAdSHAdSSAdTAdTHAdTSAdTSHAdTTAdTTHAdWAdYAdZAdZHAcSIG
N dINVERTED MCHU CANdLCE TSA CANdMCHU CANbSYLLABLE OMbSYMBOL cDRIL BUcNOR dBUdBU eBZHI -KHYILeGSU
M -KHYILeNYIS -KHYILcPADMA GDANcPHUR PAcRDO dRJEdRJE RGYA GRAMbVOWEL SIGN cAAcEcEEcIcIIcOcOOcREVER
SED dIdIIcUcUUcVOCALIC dLdLLdRdRRaTICKETaTIE OVER INFINITYaTIFINAGH bCONSONANT JOINERbLETTER cAHAG
GAR YAZHcAYER YAGHcBERBER ACADEMY dYAHdYAJcTAWELLEMET YAZcTUAREG dYAGHdYAGNdYAHdYAKdYAKHdYANGdYAQd
YAZHcYAcYAAcYABcYABHcYACHcYADcYADDcYADDHcYADHcYAFcYAGcYAGHcYAGHHcYAHcYAHHcYAJcYAKcYAKHcYAKHHcYALcY
AMcYANcYAPcYAQcYARcYARRcYAScYASHcYASScYATcYATHcYATTcYAVcYAWcYAYcYAZcYAZHcYAZZcYEcYEYcYIcYOcYUbMODI
FIER LETTER LABIALIZATION MARKbSEPARATOR MARKaTIGERaTIGER FACEaTIGHT TRIFOLIATE SNOWFLAKEaTILDEaTI
LDE bOPERATORbOPERATOR cABOVE dLEFTWARDS ARROWdRIGHTWARDS ARROWcWITH dDOT ABOVEdRISING DOTSbWITH c
DOT dABOVEdBELOWcRING ABOVEaTIMER CLOCKaTIMES WITH bLEFT HALF BLACKbRIGHT HALF BLACKaTINYaTINY TW
O DOTS OVER ONE DOT PUNCTUATIONaTIRED FACEaTIRHUTA bABBREVIATION SIGNbANJIbDIGIT cEIGHTcFIVEcFOURc
NINEcONEcSEVENcSIXcTHREEcTWOcZERObGVANGbLETTER cAcAAcAIcAUcBAcBHAcCAcCHAcDAcDDAcDDHAcDHAcEcGAcGHAc
HAcIcIIcJAcJHAcKAcKHAcLAcMAcNAcNGAcNNAcNYAcOcPAcPHAcRAcSAcSHAcSSAcTAcTHAcTTAcTTHAcUcUUcVAcVOCALI
C dLdLLdRdRRcYAbOMbSIGN cANUSVARAcAVAGRAHAcCANDRABINDUcNUKTAcVIRAMAcVISARGAbVOWEL SIGN cAAcAIcAUcE
cIcIIcOcSHORT dEdOcUcUUcVOCALIC dLdLLdRdRRaTIRONIAN SIGN bCAPITAL ETbETaTOILETaTOKYO TOWERaTOMATOa
TONGUEaTOOLBOXaTOOTHaTOOTHBRUSHaTOP bARC cANTICLOCKWISE dARROWdARROW WITH PLUScCLOCKWISE ARROW WIT
H MINUSbCURLY BRACKETbHALF cBLACK CIRCLEcINTEGRALcLEFT PARENTHESIScRIGHT PARENTHESIScSECTION SIGNb
HATbLEFT cCORNERcCROPcHALF BRACKETbPARENTHESISbRIGHT cCORNERcCROPcHALF BRACKETbSQUARE BRACKETbTORT
OISE SHELL BRACKETbWITH UPWARDS ARROW ABOVEaTORTOISE SHELL BRACKETED bCJK UNIFIED IDEOGRAPH-c4E09c
4E8Cc52DDc5B89c6253c6557c672Cc70B9c76D7bLATIN CAPITAL LETTER SaTOTAL RUNOUTaTOTO bLETTER cAcAEcBAc
BREATHY dAEdEdEOdIdIUcCHAcDAcEcEOcGAcHAcIcIUcJAcKAcLAcMAcNAcNGAcOcPAcRAcSAcTAcUcWAcYAbSIGN RISIN
G TONEaTRACKBALLaTRACTORaTRADE MARK SIGNaTRAINaTRAMaTRAM CARaTRANSPLUTOaTRANSVERSAL INTERSECTIONaT
RIANGLE WITH bDOT ABOVEbROUNDED CORNERSbSERIFS AT BOTTOMbUNDERBARaTRIANGLE-HEADED RIGHTWARDS ARROW
aTRIANGULAR bBULLETbFLAG ON POSTbRULERaTRICOLONaTRIDENT EMBLEMaTRIGRAM FOR bEARTHbFIREbHEAVENbLAKE
bMOUNTAINbTHUNDERbWATERbWINDaTRIPLE bCOLON OPERATORbDAGGERbHORIZONTAL BAR WITH cDOUBLE VERTICAL ST
ROKEcTRIPLE VERTICAL STROKEbINTEGRALbNESTED cGREATER-THANcLESS-THANbPLUSbPRIMEbSOLIDUS BINARY RELA
TIONbTILDEbVERTICAL BAR cBINARY RELATIONcDELIMITERcRIGHT TURNSTILEcWITH HORIZONTAL STROKEaTROLLaTR
OLLEYBUSaTROPHYaTROPICAL bDRINKbFISHaTRUEaTRUE LIGHT MOON ARTAaTRUMPETaTUGRIK SIGNaTULIPaTUMBLER G
LASSaTURKEYaTURKISH LIRA SIGNaTURNED bAMPERSANDbANGLEbBLACK cPENTAGONcSHOGI PIECEbCAPITAL FbCOMMAb
DAGGERbDIGIT cTHREEcTWObGREEK SMALL LETTER IOTAbNORTH cEAST POINTING LEAFcWEST POINTING LEAFbNOT S
IGNbOK HAND SIGNbSANS-SERIF CAPITAL cGcLcYbSEMICOLONbSMALL FbSOUTH cEAST POINTING LEAFcWEST POINTI
NG LEAFbWHITE SHOGI PIECEaTURTLEaTWELVE POINTED BLACK STARaTWISTED RIGHTWARDS ARROWSaTWO bASTERISK
S ALIGNED VERTICALLYbBUTTON MOUSEbCONSECUTIVE EQUALS SIGNSbDOT cLEADERcPUNCTUATIONbDOTS OVER ONE D
OT PUNCTUATIONbHEARTSbINTERSECTING LOGICAL cANDcORbJOINED SQUARESbLOGICAL cAND OPERATORcOR OPERATO
RbMEN HOLDING HANDSbSPEECH BUBBLESbWOMEN HOLDING HANDSaTWO-EM DASHaUGARITIC bLETTER cAINcALPAcBETA
cDELTAcDHALcGAMLAcGHAINcHOcHOTAcIcKAFcKHAcLAMDAcMEMcNUNcPUcQOPAcRASHAcSADEcSAMKAcSHINcSSUcTETcTHAN
NAcTOcUcWOcYODcZETAcZUbWORD DIVIDERaUMBRELLAaUMBRELLA bON GROUNDbWITH RAIN DROPSaUNAMUSED FACEaUNC
ERTAINTY SIGNaUNDERTIEaUNDO SYMBOLaUNICORN FACEaUNIONaUNION bABOVE cBAR ABOVE INTERSECTIONcINTERSE
CTIONbBESIDE AND JOINED WITH UNIONbWITH cLOGICAL ORcMINUS SIGNcOVERBARaUNIT SEPARATORaUNITED SYMBO
LaUNIVERSAL RECYCLING SYMBOLaUNMARRIED PARTNERSHIP SYMBOLaUP bARROW THROUGH CIRCLEbARROWHEADbARROW
HEAD cBETWEEN TWO HORIZONTAL BARScIN A RECTANGLE BOXbBARB cLEFT DOWN BARB dLEFT HARPOONdRIGHT HARP
OONcRIGHT DOWN BARB dLEFT HARPOONdRIGHT HARPOONbDOWN cARROWcARROW WITH BASEcBLACK ARROWcDOUBLE ARR
OWcSANS-SERIF ARROWcTRIANGLE-HEADED ARROWcWHITE ARROWbFISH TAILbRIGHT DIAGONAL ELLIPSISbTACKbTAC
K WITH CIRCLE ABOVEaUP-POINTING bAIRPLANEbMILITARY AIRPLANEbRED TRIANGLEbSMALL cAIRPLANEcRED TRIAN
GLEbTRIANGLE WITH cLEFT HALF BLACKcRIGHT HALF BLACKaUPPER bAND cLEFT AND LOWER TRIANGULAR THREE QU
ARTERS BLOCKcLOWER dONE EIGHTH BLOCKdTRIANGULAR HALF BLOCKcRIGHT AND LOWER TRIANGULAR THREE QUARTE
RS BLOCKbBLADE SCISSORSbFIVE EIGHTHS BLOCKbHALF cBLOCKcBLOCK AND LOWER HALF INVERSE MEDIUM SHADEcC
IRCLEcINVERSE dMEDIUM SHADE AND LOWER HALF BLOCKdWHITE CIRCLEcMEDIUM SHADEbLEFT cBLOCK DIAGONAL dL
OWER eCENTRE TO fLOWER MIDDLE RIGHTfUPPER gMIDDLE RIGHTgRIGHTeLEFT TO fLOWER MIDDLE RIGHTfUPPER gC
ENTREgMIDDLE RIGHTeMIDDLE LEFT TO UPPER fCENTREfMIDDLE RIGHTfRIGHTdUPPER MIDDLE LEFT TO UPPER eCEN
TREeRIGHTcCORNER WITH DOTcOR LOWER RIGHT CURLY BRACKET SECTIONcQUADRANT CIRCULAR ARCcTO LOWER RIGH
T FILLcTRIANGLEcTRIANGULAR MEDIUM SHADEbONE cEIGHTH BLOCKcQUARTER BLOCKbRIGHT cBLOCK DIAGONAL dLOW
ER MIDDLE LEFT TO LOWER eCENTREeRIGHTdUPPER eCENTRE TO fLOWER gMIDDLE RIGHTgRIGHTfUPPER MIDDLE RIG
HTeLEFT TO fLOWER gCENTREgMIDDLE RIGHTfUPPER MIDDLE RIGHTeMIDDLE LEFT TO LOWER fCENTREfMIDDLE RIGH
TfRIGHTcDROP-SHADOWED WHITE SQUAREcOR LOWER LEFT CURLY BRACKET SECTIONcPENCILcQUADRANT CIRCULAR AR
CcSHADOWED WHITE dCIRCLEdSQUAREcTO LOWER LEFT FILLcTRIANGLEcTRIANGULAR MEDIUM SHADEbSEVEN EIGHTH
S BLOCKbTHREE cEIGHTHS BLOCKcQUARTERS BLOCKbTRIANGULAR ONE QUARTER BLOCKaUPSIDE-DOWN FACEaUPWARD
S bANCORAbARROWbARROW cAND RIGHT ONE EIGHTH BLOCKcFROM BARcLEFTWARDS OF DOWNWARDS ARROWcTO BARcWIT
H dDOUBLE STROKEdEQUILATERAL ARROWHEADdHORIZONTAL STROKEdLARGE TRIANGLE ARROWHEADdMEDIUM TRIANGL
E ARROWHEADdNOTCHED TAILdSMALL eEQUILATERAL ARROWHEADeTRIANGLE ARROWHEADdTIP eLEFTWARDSeRIGHTWARDS
bBLACK cARROWcCIRCLED WHITE ARROWbCOMPRESSED ARROWbDASHED ARROWbDOUBLE ARROWbFINGER-POST ARROWbHAR
POON WITH BARB cLEFT dBESIDE eDOWNWARDS HARPOON WITH BARB RIGHTeUPWARDS HARPOON WITH BARB RIGHTdFR
OM BARdTO BARcLEFTWARDScRIGHT dFROM BARdTO BARcRIGHTWARDSbHEAVY cARROWcCOMPRESSED ARROWbPAIRED ARR
OWSbQUADRUPLE ARROWbROCKETbSANS-SERIF ARROWbSQUARED ARROWbTRIANGLE ARROWHEADbTRIANGLE-HEADED cARRO
WcARROW dLEFTWARDS OF DOWNWARDS TRIANGLE-HEADED ARROWdTO BARdWITH eBOLD SHAFTeDOUBLE HORIZONTAL ST
ROKEeHEAVY SHAFTeLONG TIP fLEFTWARDSfRIGHTWARDSeMEDIUM SHAFTeNARROW SHAFTeVERY HEAVY SHAFTcDASHE
D ARROWcPAIRED ARROWSbTRIPLE ARROWbTWO HEADED ARROWbTWO-HEADED ARROW cFROM SMALL CIRCLEcWITH TRIAN
GLE ARROWHEADSbWHITE cARROWcARROW dFROM eBAReBAR WITH HORIZONTAL BARdON ePEDESTALePEDESTAL WITH fH
ORIZONTAL BARfVERTICAL BARdWITHIN TRIANGLE ARROWHEADcDOUBLE dARROWdARROW ON PEDESTALaURANUSaUSaVA
I bCOMMAbDIGIT cEIGHTcFIVEcFOURcNINEcONEcSEVENcSIXcTHREEcTWOcZERObFULL STOPbQUESTION MARKbSYLLABL
E cAcANcBAcBEcBEEcBHAcBHEcBHEEcBHIcBHOcBHOOcBHUcBIcBOcBOOcBUcCAcCEcCEEcCIcCOcCOOcCUcDAcDEcDEEcDHAc
DHEcDHEEcDHHAcDHHEcDHHEEcDHHIcDHHOcDHHOOcDHHUcDHIcDHOcDHOOcDHUcDIcDOcDOOcDUcEcEEcEENcENcFAcFEcFEEc
FIcFOcFOOcFUcGAcGBAcGBEcGBEEcGBENcGBIcGBOcGBONcGBOOcGBUcGEcGEEcGENcGIcGOcGOOcGUcHAcHANcHEcHEEcHENc
HIcHINcHOcHONcHOOcHUcHUNcIcINcJAcJEcJEEcJIcJOcJOOcJUcKAcKANcKEcKEEcKIcKOcKOOcKPAcKPANcKPEcKPEEcKPE
NcKPIcKPOcKPOOcKPUcKUcLAcLEcLEEcLENGTHENERcLIcLOcLOOcLUcMAcMBAcMBEcMBEEcMBIcMBOcMBOOcMBUcMEcMEEcMG
BAcMGBEcMGBEEcMGBIcMGBOcMGBOOcMGBUcMIcMOcMOOcMUcNAcNDAcNDEcNDEEcNDIcNDOcNDOLE dDOdFAdKAdMAdSOOcNDO
OcNDUcNEcNEEcNGcNGANcNGENcNGGAcNGGEcNGGEEcNGGENcNGGIcNGGOcNGGOOcNGGUcNGONcNIcNJAcNJEcNJEEcNJIcNJOc
NJOOcNJUcNOcNOOcNUcNYAcNYEcNYEEcNYIcNYOcNYOOcNYUcOcONcOOcOONcPAcPEcPEEcPIcPOcPOOcPUcRAcREcREEcRIcR
OcROOcRUcSAcSEcSEEcSHAcSHEcSHEEcSHIcSHOcSHOOcSHUcSIcSOcSOOcSUcTAcTEcTEEcTHAcTHEcTHEEcTHIcTHOcTHOOc
THUcTIcTOcTOOcTUcUcUNcVAcVEcVEEcVIcVOcVOOcVUcWAcWANcWEcWEEcWEENcWENcWIcWINcWOcWONcWOOcWOONcWUcWUNc
YAcYEcYEEcYIcYOcYOOcYUcZAcZEcZEEcZHAcZHEcZHEEcZHIcZHOcZHOOcZHUcZIcZOcZOOcZUbSYMBOL cBANGcDANGcDO-O
cDOONGcFAAcFEENGcJONGcKEENGcKUNGcNIIcTAAcTINGcTONGaVAMPIREaVARIATION SELECTOR-b1b10b100b101b102b10
3b104b105b106b107b108b109b11b110b111b112b113b114b115b116b117b118b119b12b120b121b122b123b124b125b12
6b127b128b129b13b130b131b132b133b134b135b136b137b138b139b14b140b141b142b143b144b145b146b147b148b14
9b15b150b151b152b153b154b155b156b157b158b159b16b160b161b162b163b164b165b166b167b168b169b17b170b171
b172b173b174b175b176b177b178b179b18b180b181b182b183b184b185b186b187b188b189b19b190b191b192b193b194
b195b196b197b198b199b2b20b200b201b202b203b204b205b206b207b208b209b21b210b211b212b213b214b215b216b2
17b218b219b22b220b221b222b223b224b225b226b227b228b229b23b230b231b232b233b234b235b236b237b238b239b2
4b240b241b242b243b244b245b246b247b248b249b25b250b251b252b253b254b255b256b26b27b28b29b3b30b31b32b33
b34b35b36b37b38b39b4b40b41b42b43b44b45b46b47b48b49b5b50b51b52b53b54b55b56b57b58b59b6b60b61b62b63b6
4b65b66b67b68b69b7b70b71b72b73b74b75b76b77b78b79b8b80b81b82b83b84b85b86b87b88b89b9b90b91b92b93b94b
95b96b97b98b99aVECTOR OR CROSS PRODUCTaVEDIC bSIGN cANUSVARA dANTARGOMUKHAdBAHIRGOMUKHAdUBHAYATO M
UKHAdVAMAGOMUKHAdVAMAGOMUKHA WITH TAILcARDHAVISARGAcATIKRAMAcDOUBLE ANUSVARA ANTARGOMUKHAcHEXIFOR
M LONG ANUSVARAcJIHVAMULIYAcLONG ANUSVARAcNIHSHVASAcREVERSED VISARGA dANUDATTAdUDATTAcROTATED ARDH
AVISARGAcRTHANG LONG ANUSVARAcTIRYAKcUPADHMANIYAcVISARGA dANUDATTAdANUDATTA WITH TAILdSVARITAdUDAT
TAdUDATTA WITH TAILcYAJURVEDIC MIDLINE SVARITAbTONE cATHARVAVEDIC INDEPENDENT SVARITAcCANDRA dABOV
EdBELOWcDOT BELOWcDOUBLE dRING ABOVEdSVARITAcKARSHANAcKATHAKA ANUDATTAcPRENKHAcRIGVEDIC KASHMIRI I
NDEPENDENT SVARITAcRING ABOVEcSHARAcTHREE DOTS BELOWcTRIPLE SVARITAcTWO DOTS BELOWcYAJURVEDIC dAGG
RAVATED INDEPENDENT SVARITAdINDEPENDENT SVARITAdKATHAKA INDEPENDENT eSVARITAeSVARITA SCHROEDERaVER
SICLEaVERTICAL bBAR cBESIDE RIGHT TRIANGLEcDOUBLE LEFT TURNSTILEcTRIPLE RIGHT TURNSTILEcWITH HORIZ
ONTAL STROKEbELLIPSISbFOUR DOTSbIDEOGRAPHIC ITERATION MARKbKANA REPEAT cMARKcMARK dLOWER HALFdUPPE
R HALFcWITH VOICED SOUND dMARKdMARK UPPER HALFbLINEbLINE cEXTENSIONcWITH dCIRCLE eABOVEeBELOWdMIDD
LE DOTbMALE WITH STROKE SIGNbONE EIGHTH BLOCK-c2c3c4c5c6c7bSIX DOTSbTAB KEYbTABULATIONbTABULATIO
N SETbTILDEbTRAFFIC LIGHTbZIGZAG LINEaVERY bBOLD GREEK CROSSbHEAVY cEIGHT dPOINTED BLACK STARdSPOK
ED ASTERISKcFIVE SPOKED ASTERISKcGREEK CROSScREVERSE SOLIDUScSALTIREcSIX SPOKED ASTERISKcSOLIDUScW
HITE dCIRCLEdSQUAREbMUCH cGREATER-THANcLESS-THANaVESTAaVIBRATION MODEaVICTORY HANDaVIDEO bCAMERAbG
AMEaVIDEOCASSETTEaVIETNAMESE ALTERNATE READING MARK bCAbNHAYaVIEWDATA SQUAREaVIOLINaVIRGOaVITHKUQ
I bCAPITAL LETTER cAcBBEcBEcCEcCHEcDEcDHEcEcEIcFEcGAcHAcHHAcIcIJEcJEcKAcLAcLLAcMEcNEcNJEcOcPEcQAcR
EcSEcSHEcTEcTHEcUcVEcXEcYcZEbSMALL LETTER cAcBBEcBEcCEcCHEcDEcDHEcEcEIcFEcGAcHAcHHAcIcIJEcJEcKAcLA
cLLAcMEcNEcNJEcOcPEcQAcREcSEcSHEcTEcTHEcUcVEcXEcYcZEaVOIDED GREEK CROSSaVOLCANOaVOLLEYBALLaVOLUM
E INTEGRALaVS1aVS10aVS100aVS101aVS102aVS103aVS104aVS105aVS106aVS107aVS108aVS109aVS11aVS110aVS111aV
S112aVS113aVS114aVS115aVS116aVS117aVS118aVS119aVS12aVS120aVS121aVS122aVS123aVS124aVS125aVS126aVS12
7aVS128aVS129aVS13aVS130aVS131aVS132aVS133aVS134aVS135aVS136aVS137aVS138aVS139aVS14aVS140aVS141aVS
142aVS143aVS144aVS145aVS146aVS147aVS148aVS149aVS15aVS150aVS151aVS152aVS153aVS154aVS155aVS156aVS157
aVS158aVS159aVS16aVS160aVS161aVS162aVS163aVS164aVS165aVS166aVS167aVS168aVS169aVS17aVS170aVS171aVS1
72aVS173aVS174aVS175aVS176aVS177aVS178aVS179aVS18aVS180aVS181aVS182aVS183aVS184aVS185aVS186aVS187a
VS188aVS189aVS19aVS190aVS191aVS192aVS193aVS194aVS195aVS196aVS197aVS198aVS199aVS2aVS20aVS200aVS201a
VS202aVS203aVS204aVS205aVS206aVS207aVS208aVS209aVS21aVS210aVS211aVS212aVS213aVS214aVS215aVS216aVS2
17aVS218aVS219aVS22aVS220aVS221aVS222aVS223aVS224aVS225aVS226aVS227aVS228aVS229aVS23aVS230aVS231aV
S232aVS233aVS234aVS235aVS236aVS237aVS238aVS239aVS24aVS240aVS241aVS242aVS243aVS244aVS245aVS246aVS24
7aVS248aVS249aVS25aVS250aVS251aVS252aVS253aVS254aVS255aVS256aVS26aVS27aVS28aVS29aVS3aVS30aVS31aVS3
2aVS33aVS34aVS35aVS36aVS37aVS38aVS39aVS4aVS40aVS41aVS42aVS43aVS44aVS45aVS46aVS47aVS48aVS49aVS5aVS5
0aVS51aVS52aVS53aVS54aVS55aVS56aVS57aVS58aVS59aVS6aVS60aVS61aVS62aVS63aVS64aVS65aVS66aVS67aVS68aVS
69aVS7aVS70aVS71aVS72aVS73aVS74aVS75aVS76aVS77aVS78aVS79aVS8aVS80aVS81aVS82aVS83aVS84aVS85aVS86aVS
87aVS88aVS89aVS9aVS90aVS91aVS92aVS93aVS94aVS95aVS96aVS97aVS98aVS99aVTaVTSaVULCANUSaVULGAR FRACTIO
N bFIVE cEIGHTHScSIXTHSbFOUR FIFTHSbONE cEIGHTHcFIFTHcHALFcNINTHcQUARTERcSEVENTHcSIXTHcTENTHcTHIRD
bSEVEN EIGHTHSbTHREE cEIGHTHScFIFTHScQUARTERSbTWO cFIFTHScTHIRDSbZERO THIRDSaWAFFLEaWANCHO bDIGI
T cEIGHTcFIVEcFOURcNINEcONEcSEVENcSIXcTHREEcTWOcZERObLETTER cAcAAcAANcAANGcANGcAUcBAcCAcDAcEcENcFA
cGAcHAcIcINGcJAcKAcKHAcLAcLLHAcMAcNAcNGAcNYAcOcONcONGcPAcPHAcRAcSAcSHAcTAcTHAcTRAcTSAcUcUENcVAcWAc
YAcYIHcZAbNGUN SIGNbTONE cKOIcKOINIcTUPcTUPNIaWANING bCRESCENT MOON SYMBOLbGIBBOUS MOON SYMBOLaWAR
ANG CITI bCAPITAL LETTER cAcAMcANGcATcBUcDAcEcENNcENYcGAcHARcHIYOcHOLOcHORRcIIcKOcNGAAcNUNGcOcODDc
PUcSIIcSSUUcTTEcUCcUUcVIYOcWIcYAcYOcYUcYUJbDIGIT cEIGHTcFIVEcFOURcNINEcONEcSEVENcSIXcTHREEcTWOcZER
ObNUMBER cEIGHTYcFIFTYcFORTYcNINETYcSEVENTYcSIXTYcTENcTHIRTYcTWENTYbOMbSMALL LETTER cAcAMcANGcATcB
UcDAcEcENNcENYcGAcHARcHIYOcHOLOcHORRcIIcKOcNGAAcNUNGcOcODDcPUcSIIcSSUUcTTEcUCcUUcVIYOcWIcYAcYOcYUc
YUJaWARNING SIGNaWASTEBASKETaWATCHaWATER bBUFFALObCLOSETbPOLObWAVEaWATERMELONaWAVE bARROW POINTIN
G DIRECTLY cLEFTcRIGHTbDASHaWAVING bBLACK FLAGbHAND SIGNbWHITE FLAGaWAVY bDASHbLINEbLOW LINEbOVERL
INEaWAXING bCRESCENT MOON SYMBOLbGIBBOUS MOON SYMBOLaWEARY bCAT FACEbFACEaWEDDINGaWEDGE-TAILED RIG
HTWARDS ARROWaWEIERSTRASS ELLIPTIC FUNCTIONaWEIGHT LIFTERaWEST SYRIAC CROSSaWHALEaWHEELaWHEEL OF D
HARMAaWHEELCHAIR SYMBOLaWHITE bARROW SHAFT WIDTH cONEcTWO THIRDSbBULLETbCHESS cBISHOPcBISHOP ROTAT
ED dNINETY DEGREESdTWO HUNDRED SEVENTY DEGREEScEQUIHOPPERcEQUIHOPPER ROTATED NINETY DEGREEScKINGcK
ING ROTATED dNINETY DEGREESdTWO HUNDRED SEVENTY DEGREEScKNIGHTcKNIGHT ROTATED dFORTY-FIVE DEGREESd
NINETY DEGREESdONE HUNDRED THIRTY-FIVE DEGREESdTHREE HUNDRED FIFTEEN DEGREESdTWO HUNDRED eSEVENT
Y DEGREESeTWENTY-FIVE DEGREEScKNIGHT-dBISHOPdQUEENdROOKcPAWNcPAWN ROTATED dNINETY DEGREESdTWO HUND
RED SEVENTY DEGREEScQUEENcQUEEN ROTATED dNINETY DEGREESdTWO HUNDRED SEVENTY DEGREEScROOKcROOK ROTA
TED dNINETY DEGREESdTWO HUNDRED SEVENTY DEGREEScTURNED dBISHOPdKINGdKNIGHTdPAWNdQUEENdROOKbCIRCLEb
CIRCLE cCONTAINING BLACK SMALL CIRCLEcWITH dDOT RIGHTdDOWN ARROWdLOWER eLEFT QUADRANTeRIGHT QUADRA
NTdTWO DOTSdUPPER eLEFT QUADRANTeRIGHT QUADRANTbCLUB SUITbCONCAVE-SIDED cDIAMONDcDIAMOND WITH dLEF
TWARDS TICKdRIGHTWARDS TICKbDIAMONDbDIAMOND cCONTAINING BLACK dMEDIUM DIAMONDdSMALL DIAMONDdVERY S
MALL DIAMONDcIN SQUAREcSUITcWITH CENTRED DOTbDOWN POINTING cBACKHAND INDEXcINDEXcLEFT HAND INDEXbD
OWN-POINTING cSMALL TRIANGLEcTRIANGLEbDRAUGHTS cKINGcMANbEXCLAMATION MARK ORNAMENTbFLAGbFLAG WIT
H HORIZONTAL MIDDLE BLACK STRIPEbFLORETTEbFLOWERbFOUR POINTED cCUSPcSTARbFROWNING FACEbHARD SHEL
L FLOPPY DISKbHEARTbHEART SUITbHEAVY cCHECK MARKcSALTIRE WITH ROUNDED CORNERSbHEXAGONbHORIZONTAL E
LLIPSEbHOURGLASSbLARGE SQUAREbLATIN CROSSbLEFT cLANE MERGEcPOINTING dBACKHAND INDEXdINDEXbLEFT-POI
NTING cPOINTERcSMALL TRIANGLEcTRIANGLEbLOZENGE CONTAINING BLACK SMALL LOZENGEbMEDIUM cDIAMONDcLOZE
NGEcSMALL SQUAREcSQUAREcSTARbMOON SELENAbNIBbPARALLELOGRAMbPENNANTbPENTAGONbQUESTION MARK ORNAMENT
bRECTANGLEbRIGHT POINTING cBACKHAND INDEXcINDEXbRIGHT-POINTING cPENTAGONcPOINTERcSMALL TRIANGLEcTR
IANGLEbSCISSORSbSESAME DOTbSHOGI PIECEbSMALL cLOZENGEcSQUAREcSTARbSMILING FACEbSPADE SUITbSQUAREbS
QUARE cBUTTONcCONTAINING BLACK dMEDIUM SQUAREdSMALL SQUAREdVERY SMALL SQUAREcWITH dCENTRE VERTICA
L LINEdLEFTWARDS TICKdLOWER eLEFT QUADRANTeRIGHT QUADRANTdRIGHTWARDS TICKdROUNDED CORNERSdUPPER eL
EFT QUADRANTeRIGHT QUADRANTdVERTICAL BISECTING LINEbSTARbSUNbSUN cBEHIND dCLOUDdCLOUD WITH RAINcWI
TH dRAYSdSMALL CLOUDbTELEPHONEbTOUCHTONE TELEPHONEbTRAPEZIUMbTRIANGLE CONTAINING SMALL WHITE TRIAN
GLEbTWO-WAY LEFT WAY TRAFFICbUP POINTING cBACKHAND INDEXcINDEXbUP-POINTING cCHEVRONcSMALL TRIANGLE
cTRIANGLEcTRIANGLE WITH DOTbVERTICAL cBARcELLIPSEcRECTANGLEbVERY SMALL SQUAREaWHITE-FEATHERED RIGH
TWARDS ARROWaWIDE-HEADED bDOWNWARDS cBARB ARROWcHEAVY BARB ARROWcLIGHT BARB ARROWcMEDIUM BARB ARRO
WcVERY HEAVY BARB ARROWbLEFTWARDS cBARB ARROWcHEAVY BARB ARROWcLIGHT BARB ARROWcMEDIUM BARB ARROWc
VERY HEAVY BARB ARROWbNORTH cEAST dBARB ARROWdHEAVY BARB ARROWdLIGHT BARB ARROWdMEDIUM BARB ARROWd
VERY HEAVY BARB ARROWcWEST dBARB ARROWdHEAVY BARB ARROWdLIGHT BARB ARROWdMEDIUM BARB ARROWdVERY HE
AVY BARB ARROWbRIGHTWARDS cBARB ARROWcHEAVY BARB ARROWcLIGHT BARB ARROWcMEDIUM BARB ARROWcVERY HEA
VY BARB ARROWbSOUTH cEAST dBARB ARROWdHEAVY BARB ARROWdLIGHT BARB ARROWdMEDIUM BARB ARROWdVERY HEA
VY BARB ARROWcWEST dBARB ARROWdHEAVY BARB ARROWdLIGHT BARB ARROWdMEDIUM BARB ARROWdVERY HEAVY BAR
B ARROWbUPWARDS cBARB ARROWcHEAVY BARB ARROWcLIGHT BARB ARROWcMEDIUM BARB ARROWcVERY HEAVY BARB AR
ROWaWIGGLY VERTICAL LINEaWILTED FLOWERaWIND bBLOWING FACEbCHIMEaWINDOWaWINE GLASSaWINKING FACEaWIR
ED KEYBOARDaWJaWOLF FACEaWOMANaWOMAN WITH BUNNY EARSaWOMANS bBOOTSbCLOTHESbHATbSANDALaWOMENS SYMBO
LaWON SIGNaWOODaWORD bJOINERbSEPARATOR MIDDLE DOTaWORLD MAPaWORMaWORRIED FACEaWRAPPED PRESENTaWREA
TH PRODUCTaWRENCHaWRESTLERSaWRITING HANDaX IN A RECTANGLE BOXaX-RAYaXIANGQI bBLACK cCANNONcCHARIOT
cELEPHANTcGENERALcHORSEcMANDARINcSOLDIERbRED cCANNONcCHARIOTcELEPHANTcGENERALcHORSEcMANDARINcSOLDI
ERaXORaYAWNING FACEaYELLOW HEARTaYEN SIGNaYEZIDI bCOMBINING cHAMZA MARKcMADDA MARKbHYPHENATION MAR
KbLETTER cBEcCHHIMcCHIMcCIMcDADcDALcELIFcETcEWcEYNcFAcGAFcHAYcHHAcJAcKAFcKHAFcLAMcLAM WITH DOT ABO
VEcMIMcNUNcOWcPEcPHEcQAFcRAcRHAcSADcSEcSHINcSINcTAcTHEcUMcVAcVA ALTERNATE FORMcWAWcXAcXHEYNcYOTcYO
T WITH CIRCUMFLEX ABOVEcZAcZALcZEaYI bRADICAL cBBUTcBURcCHEcCIPcCUOPcCYcCYPcCYTcDDURcDUcGAcGEPcGGO
PcGGUOcGOTcHMOcHXITcHXOPcHXUOcJJIEcJJUTcJJYcJOcKEcKITcLIcLIEcLYRcMIcMOPcNBIEcNYIPcNYOPcNZUPcOPcPUT
cPYTcQOTcSHATcSHOPcSHURcSHYcSSIcTATcTUcVEPcVURcWOcYITcYOcZAcZOTcZUPcZURcZZIETbSYLLABLE cAcAPcATcAX
cBAcBAPcBATcBAXcBBAcBBAPcBBATcBBAXcBBEcBBEPcBBEXcBBIcBBIEcBBIEPcBBIETcBBIEXcBBIPcBBITcBBIXcBBOcBBO
PcBBOTcBBOXcBBUcBBUOcBBUOPcBBUOXcBBUPcBBURcBBURXcBBUTcBBUXcBBYcBBYPcBBYTcBBYXcBEcBEPcBEXcBIcBIEcBI
EPcBIETcBIEXcBIPcBITcBIXcBOcBOPcBOTcBOXcBUcBUOcBUOPcBUOXcBUPcBURcBURXcBUTcBUXcBYcBYPcBYRcBYRXcBYTc
BYXcCAcCAPcCATcCAXcCEcCEPcCEXcCHAcCHAPcCHATcCHAXcCHEcCHEPcCHETcCHEXcCHOcCHOPcCHOTcCHOXcCHUcCHUOcCH
UOPcCHUOTcCHUOXcCHUPcCHURcCHURXcCHUXcCHYcCHYPcCHYRcCHYRXcCHYTcCHYXcCIcCIEcCIEPcCIETcCIEXcCIPcCITcC
IXcCOcCOPcCOTcCOXcCUcCUOcCUOPcCUOXcCUPcCURcCURXcCUTcCUXcCYcCYPcCYRcCYRXcCYTcCYXcDAcDAPcDATcDAXcDDA
cDDAPcDDATcDDAXcDDEcDDEPcDDEXcDDIcDDIEcDDIEPcDDIEXcDDIPcDDITcDDIXcDDOcDDOPcDDOTcDDOXcDDUcDDUOcDDUO
PcDDUOXcDDUPcDDURcDDURXcDDUTcDDUXcDEcDEPcDEXcDIcDIEcDIEPcDIEXcDIPcDITcDIXcDOcDOPcDOTcDOXcDUcDUOcDU
OXcDUPcDURcDURXcDUTcDUXcEcEXcFAcFAPcFATcFAXcFIcFIPcFITcFIXcFOcFOPcFOXcFUcFUPcFURcFURXcFUTcFUXcFYcF
YPcFYTcFYXcGAcGAPcGATcGAXcGEcGEPcGETcGEXcGGAcGGAPcGGATcGGAXcGGEcGGEPcGGETcGGEXcGGIcGGIEcGGIEPcGGIE
XcGGITcGGIXcGGOcGGOPcGGOTcGGOXcGGUcGGUOcGGUOPcGGUOTcGGUOXcGGUPcGGURcGGURXcGGUTcGGUXcGIcGIEcGIEPcGI
ETcGIEXcGIPcGITcGIXcGOcGOPcGOTcGOXcGUcGUOcGUOPcGUOTcGUOXcGUPcGURcGURXcGUTcGUXcHAcHAPcHATcHAXcHEcHE
PcHEXcHIEcHIEXcHITcHLAcHLAPcHLATcHLAXcHLEcHLEPcHLEXcHLIcHLIEcHLIEPcHLIEXcHLIPcHLITcHLIXcHLOcHLOPcH
LOXcHLUcHLUOcHLUOPcHLUOXcHLUPcHLURcHLURXcHLUTcHLUXcHLYcHLYPcHLYRcHLYRXcHLYTcHLYXcHMAcHMAPcHMATcHMA
XcHMIcHMIEcHMIEPcHMIEXcHMIPcHMITcHMIXcHMOcHMOPcHMOTcHMOXcHMUcHMUOcHMUOPcHMUOXcHMUPcHMURcHMURXcHMUT
cHMUXcHMYcHMYPcHMYRcHMYRXcHMYXcHNAcHNAPcHNATcHNAXcHNEcHNEPcHNEXcHNIcHNIEcHNIEPcHNIETcHNIEXcHNIPcHN
ITcHNIXcHNOPcHNOTcHNOXcHNUOcHNUOXcHNUTcHOcHOPcHOTcHOXcHUOcHUOPcHUOTcHUOXcHXAcHXAPcHXATcHXAXcHXEcHX
EPcHXEXcHXIcHXIEcHXIEPcHXIETcHXIEXcHXIPcHXITcHXIXcHXOcHXOPcHXOTcHXOXcHXUOcHXUOPcHXUOTcHXUOXcIcIEcI
EPcIETcIEXcIPcITcITERATION MARKcIXcJIcJIEcJIEPcJIETcJIEXcJIPcJITcJIXcJJIcJJIEcJJIEPcJJIETcJJIEXcJJ
IPcJJITcJJIXcJJOcJJOPcJJOTcJJOXcJJUcJJUOcJJUOPcJJUOXcJJUPcJJURcJJURXcJJUTcJJUXcJJYcJJYPcJJYTcJJYXc
JOcJOPcJOTcJOXcJUcJUOcJUOPcJUOTcJUOXcJUPcJURcJURXcJUTcJUXcJYcJYPcJYRcJYRXcJYTcJYXcKAcKAPcKATcKAXcK
EcKEPcKETcKEXcKIcKIEcKIEPcKIEXcKIPcKITcKIXcKOcKOPcKOTcKOXcKUcKUOcKUOPcKUOXcKUPcKURcKURXcKUTcKUXcLA
cLAPcLATcLAXcLEcLEPcLEXcLIcLIEcLIEPcLIETcLIEXcLIPcLITcLIXcLOcLOPcLOTcLOXcLUcLUOcLUOPcLUOTcLUOXcLUP
cLURcLURXcLUTcLUXcLYcLYPcLYRcLYRXcLYTcLYXcMAcMAPcMATcMAXcMEcMEXcMGAcMGAPcMGATcMGAXcMGEcMGEPcMGEXcM
GIEcMGIEXcMGOcMGOPcMGOTcMGOXcMGUcMGUOcMGUOPcMGUOXcMGUPcMGURcMGURXcMGUTcMGUXcMIcMIEcMIEPcMIEXcMIPcM
ITcMIXcMOcMOPcMOTcMOXcMUcMUOcMUOPcMUOTcMUOXcMUPcMURcMURXcMUTcMUXcMYcMYPcMYTcMYXcNAcNAPcNAXcNBAcNBA
PcNBATcNBAXcNBIcNBIEcNBIEPcNBIEXcNBIPcNBITcNBIXcNBOcNBOPcNBOTcNBOXcNBUcNBUPcNBURcNBURXcNBUTcNBUXcN
BYcNBYPcNBYRcNBYRXcNBYTcNBYXcNDAcNDAPcNDATcNDAXcNDEcNDEPcNDEXcNDIcNDIEcNDIEXcNDIPcNDITcNDIXcNDOcND
OPcNDOTcNDOXcNDUcNDUPcNDURcNDURXcNDUTcNDUXcNEcNEPcNEXcNGAcNGAPcNGATcNGAXcNGEcNGEPcNGEXcNGIEcNGIEPc
NGIEXcNGOcNGOPcNGOTcNGOXcNGUOcNGUOTcNGUOXcNIcNIEcNIEPcNIEXcNIPcNITcNIXcNJIcNJIEcNJIEPcNJIETcNJIEXc
NJIPcNJITcNJIXcNJOcNJOPcNJOTcNJOXcNJUcNJUOcNJUOXcNJUPcNJURcNJURXcNJUXcNJYcNJYPcNJYRcNJYRXcNJYTcNJY
XcNOcNOPcNOTcNOXcNRAcNRAPcNRATcNRAXcNREcNREPcNRETcNREXcNROcNROPcNROXcNRUcNRUPcNRURcNRURXcNRUTcNRUX
cNRYcNRYPcNRYRcNRYRXcNRYTcNRYXcNUcNUOcNUOPcNUOXcNUPcNURcNURXcNUTcNUXcNYIcNYIEcNYIEPcNYIETcNYIEXcNY
IPcNYITcNYIXcNYOcNYOPcNYOTcNYOXcNYUcNYUOcNYUOPcNYUOXcNYUPcNYUTcNYUXcNZAcNZAPcNZATcNZAXcNZEcNZEXcNZ
IcNZIEcNZIEPcNZIEXcNZIPcNZITcNZIXcNZOPcNZOXcNZUcNZUOcNZUOXcNZUPcNZURcNZURXcNZUXcNZYcNZYPcNZYRcNZYR
XcNZYTcNZYXcOcOPcOTcOXcPAcPAPcPATcPAXcPIcPIEcPIEPcPIEXcPIPcPITcPIXcPOcPOPcPOTcPOXcPUcPUOcPUOPcPUOX
cPUPcPURcPURXcPUTcPUXcPYcPYPcPYRcPYRXcPYTcPYXcQIcQIEcQIEPcQIETcQIEXcQIPcQITcQIXcQOcQOPcQOTcQOXcQUc
QUOcQUOPcQUOTcQUOXcQUPcQURcQURXcQUTcQUXcQYcQYPcQYRcQYRXcQYTcQYXcRAcRAPcRATcRAXcREcREPcREXcROcROPcR
OTcROXcRRAcRRAXcRREcRREPcRRETcRREXcRROcRROPcRROTcRROXcRRUcRRUOcRRUOXcRRUPcRRURcRRURXcRRUTcRRUXcRRY
cRRYPcRRYRcRRYRXcRRYTcRRYXcRUcRUOcRUOPcRUOXcRUPcRURcRURXcRUTcRUXcRYcRYPcRYRcRYRXcRYTcRYXcSAcSAPcSA
TcSAXcSEcSEPcSEXcSHAcSHAPcSHATcSHAXcSHEcSHEPcSHETcSHEXcSHOcSHOPcSHOTcSHOXcSHUcSHUOcSHUOPcSHUOXcSHU
PcSHURcSHURXcSHUTcSHUXcSHYcSHYPcSHYRcSHYRXcSHYTcSHYXcSIcSIEcSIEPcSIEXcSIPcSITcSIXcSOcSOPcSOTcSOXcS
SAcSSAPcSSATcSSAXcSSEcSSEPcSSEXcSSIcSSIEcSSIEPcSSIEXcSSIPcSSITcSSIXcSSOcSSOPcSSOTcSSOXcSSUcSSUPcSS
UTcSSUXcSSYcSSYPcSSYRcSSYRXcSSYTcSSYXcSUcSUOcSUOPcSUOXcSUPcSURcSURXcSUTcSUXcSYcSYPcSYRcSYRXcSYTcSY
XcTAcTAPcTATcTAXcTEcTEPcTEXcTIcTIEcTIEPcTIEXcTIPcTITcTIXcTOcTOPcTOTcTOXcTUcTUOcTUOPcTUOTcTUOXcTUPc
TURcTURXcTUTcTUXcUOcUOPcUOXcVAcVAPcVATcVAXcVEPcVEXcVIcVIEcVIEPcVIETcVIEXcVIPcVITcVIXcVOcVOPcVOTcVO
XcVUcVUPcVURcVURXcVUTcVUXcVYcVYPcVYRcVYRXcVYTcVYXcWAcWAPcWATcWAXcWEcWEPcWEXcWOcWOPcWOXcWUcWUOcWUOP
cWUOXcXIcXIEcXIEPcXIETcXIEXcXIPcXITcXIXcXOcXOPcXOTcXOXcXUOcXUOXcXYcXYPcXYRcXYRXcXYTcXYXcYIcYIEcYIE
PcYIETcYIEXcYIPcYITcYIXcYOcYOPcYOTcYOXcYUcYUOcYUOPcYUOTcYUOXcYUPcYURcYURXcYUTcYUXcYYcYYPcYYRcYYRXc
YYTcYYXcZAcZAPcZATcZAXcZEcZEPcZEXcZHAcZHAPcZHATcZHAXcZHEcZHEPcZHETcZHEXcZHOcZHOPcZHOTcZHOXcZHUcZHU
OcZHUOPcZHUOXcZHUPcZHURcZHURXcZHUTcZHUXcZHYcZHYPcZHYRcZHYRXcZHYTcZHYXcZIcZIEcZIEPcZIEXcZIPcZITcZIX
cZOcZOPcZOTcZOXcZUcZUOcZUOPcZUOXcZUPcZURcZURXcZUTcZUXcZYcZYPcZYRcZYRXcZYTcZYXcZZAcZZAPcZZATcZZAXcZ
ZEcZZEPcZZEXcZZIcZZIEcZZIEPcZZIETcZZIEXcZZIPcZZITcZZIXcZZOcZZOPcZZOXcZZUcZZUPcZZURcZZURXcZZUXcZZYc
ZZYPcZZYRcZZYRXcZZYTcZZYXaYIN YANGaYO-YOaZ NOTATION bBAG MEMBERSHIPbDOMAIN ANTIRESTRICTIONbLEFT cB
INDING BRACKETcIMAGE BRACKETbRANGE ANTIRESTRICTIONbRELATIONAL COMPOSITIONbRIGHT cBINDING BRACKETcI
MAGE BRACKETbSCHEMA cCOMPOSITIONcPIPINGcPROJECTIONbSPOTbTYPE COLONaZANABAZAR SQUARE bCLOSING cDOUB
LE-LINED HEAD MARKcHEAD MARKbCLUSTER-cFINAL LETTER dLAdRAdVAdYAcINITIAL LETTER RAbFINAL CONSONAN
T MARKbINITIAL cDOUBLE-LINED HEAD MARKcHEAD MARKbLETTER c-AcAcBAcBHAcCAcCHAcDAcDDAcDDHAcDHAcDZAcDZ
HAcGAcGHAcHAcJAcKAcKHAcKSSAcLAcMAcNAcNGAcNNAcNYAcPAcPHAcRAcSAcSHAcSSAcTAcTHAcTSAcTSHAcTTAcTTHAcVAc
YAcZAcZHAbMARK cDOUBLE SHADcLONG TSHEGcSHADcTSHEGbSIGN cANUSVARAcCANDRA WITH ORNAMENTcCANDRABINDUc
CANDRABINDU WITH ORNAMENTcVIRAMAcVISARGAbSUBJOINERbVOWEL cLENGTH MARKcSIGN dAIdAUdEdIdOdOEdREVERSE
D IdUdUEaZEBRA FACEaZERO WIDTH bJOINERbNO-BREAK SPACEbNON-JOINERbSPACEaZEUSaZIPPER-MOUTH FACEaZNAM
ENNY bCOMBINING cATTACHING VERTICAL OMETcLOWER TONAL RANGE INDICATORcMARK dBORZAYAdCHASHKAdCHASHK
A POLNAYAdCURVED OMETdDEMESTVENNY ZADERZHKAdDVOETOCHIEdGORAZDO eNIZKO fON gLEFTgRIGHTfS KRYZHEM O
N gLEFTgRIGHTeVYSOKOdKACHKAdKRYZHdKRYZH ON LEFTdKUPNAYAdLOMKAdMALO POVYSHE eON fLEFTfRIGHTeS fKHOK
HLOM ON gLEFTgRIGHTfKRYZHEMeSTRANNOdNIZKO eON fLEFTfRIGHTeS KRYZHEM ON fLEFTfRIGHTdOBLACHKOdONdOTS
ECHKAdPODCHASHIEdPODCHASHIE WITH VERTICAL STROKEdPODVERTKAdPOVYSHE eON fLEFTfRIGHTeS fKHOKHLOM O
N gLEFTgRIGHTfKRYZHEMeSTRANNOdRAVNOdRAZSEKAdSKOBAdSOROCHYA NOZHKAdSREDNE ON eLEFTeRIGHTdSTRANNO MA
LO POVYSHEdTIKHAYAdTOCHKAdTSATA eON fLEFTfRIGHTeS KRYZHEMdUDARKAdVYSOKO eON fLEFTfRIGHTeS fKHOKHLO
M ON gLEFTgRIGHTfKRYZHEMdZADERZHKAdZELOdZEVOKcTONAL RANGE MARK dMRACHNOdSVETLOdTRESVETLObNEUME cCH
ASHKAcCHELYUSTKAcDEMESTVENNY KLYUCHcDERBITSAcDOUBLE ZAPYATAYAcDUDAcDVA V CHELNUcFITAcGOLUBCHIK dBO
RZYdMRACHNYdSVETLYdTIKHYdTRESVETLYcKHAMILOcKLYUCHcKOBYLAcKRYUKcKRYUK TIKHYcKRYZHcKUFISMAcMECHIKcME
CHIK dKLYUCHENEPOSTOYANNYdKLYUCHEPOVODNYdKLYUCHEVOYdPOVODNYcNEMKAcOBLAKOcOSOKAcOSOKA dKLYUCHEVAY
A eNEPOSTOYANNAYAeSVETLAYAdKRYUKOVAYA SVETLAYAdSVETLAYAdTRESVETLAYAcPALKAcPARAKLITcPAUKcPEREVODKAc
PEREVODKA NEPOSTOYANNAYAcPODCHASHIEcPOLKULIZMYcREVERSED CHELYUSTKAcROGcSKAMEYTSA dDVOECHELNAYA eKL
YUCHEVAYAeNEPOSTOYANNAYAePROSTAYAeSVETLAYAdKLYUCHENEPOSTOYANNAYAdKLYUCHEVAYA eSVETLAYAeTIKHAYAdMRA
CHNAYAdSVETLAYAdTIKHAYAdTRESVETLAYAcSLOZHITIEcSLOZHITIE dS eKRYZHEMeZAPYATOYdZAKRYTOEcSTATYAcSTATY
A dNEPOSTOYANNAYAdS eDVUMYA ZAPYATYMIeKRYZHEMeKRYZHEM I ZAPYATOYeROGOMeZAPYATOYeZAPYATOY I fKRYZHE
MfPODCHASHIEMdZAKRYTAYAdZAKRYTAYA S ZAPYATOYcSTOPITSAcSTOPITSA dS OCHKOMdWITH SOROCHYA NOZHKAcSTRE
LA dDVOECHELNAYAdDVOECHELNAYA KLYUCHEVAYAdDVOECHELNOKRYZHEVAYAdDVOECHELNOPOVODNAYAdDVOECHELNOPOVOD
NAYA KLYUCHEVAYAdGROMNAYAdGROMNAYA WITH SINGLE ZAPYATAYAdGROMOKRYZHEVAYAdGROMOKRYZHEVAYA POVODNAYA
dGROMOPOVODNAYAdGROMOPOVODNAYA WITH eDOUBLE ZAPYATAYAeSINGLE ZAPYATAYAdKLYUCHENEPOSTOYANNAYAdKLYUC
HEPOVODNAYAdKRYUKOVAYAdKRYUKOVAYA eGROMNAYAeGROMNAYA WITH SINGLE ZAPYATAYAeGROMOKRYZHEVAYAeGROMOKR
YZHEVAYA POVODNAYAeGROMOPOVODNAYAeGROMOPOVODNAYA WITH fDOUBLE ZAPYATAYAfSINGLE ZAPYATAYAePOVODNAYA
eTRYASKAdKRYZHEVAYAdMRACHNOTIKHAYAdNEPOSTOYANNAYAdPOLUPOVODNAYAdPOVODNAYAdPROSTAYAdTIKHAYA PUTNAYA
dTRYASOGLASNAYAdTRYASOPOVODNAYAdTRYASOSTRELNAYAcVRAKHIYA dKLYUCHEVAYA eMRACHNAYAePROSTAYAeSVETLAYA
eTRESVETLAYAdMRACHNAYAdPROSTAYAdSVETLAYAdTRESVETLAYAcZANOZHEKcZAPYATAYAcZMEYTSAbPRIZNAK MODIFIER c
DIRECTION FLIPcKRYZHcLEVEL-d2d3cROGaZOMBIEaZWJaZWNBSPaZWNJaZWSP"

end FlowCanvas.Text
