/-!
# The list of character names

The names and aliases of Unicode 14, without those that follow from a code point or from the parts
of a syllable. The names stand in their order, and each begins with a mark that tells how many
characters it shares with the name before. A line break and the blanks behind it do not count.
-/

namespace MathProg.Text.CharacterName

/-- The list in its written form. -/
def listed : String :=
  "aABACUSbC CURRENTcCORDIONeUNT OFcKdNOWLEDGEcTIVATE ARABIC FORM SHAPINGjSYMMETRIC SWAPPING
  cUTE ACCENThNGLEbDDRESSED TO THE SUBJECTcHESIVE BANDAGEcI SHAKTIcLAM ALIF LENGTHENER
  gCAPITAL LETTER ALIFvBAwHEvCHIvDAALIwHAvEvFAvGAwBEvHAvIvJIIMvKAFwHAwPOvLAAMvMIIMvNHAwUNwYAvOvPE
  vQAAFvRAvSHAwINNYIIYHEvTUvUvVAvWAWvYAwHEvZALhONSONANT MODIFIERgDIGIT EIGHTmFIVEnOURmNINEmONE
  mSEVENnIXmTHREEnWOmZEROgGEMINATE CONSONANT MODIFIERnION MARKgHAMZAgINITIAL EXCLAMATION MARK
  oQUESTION MARKgNASALIZATION MARKhUKTAgSMALL LETTER ALIFtBAuHEtCHItDAALIuHAtEtFAtGAuBEtHAtItJIIM
  tKAFuHAuPOtLAAMtMIIMtNHAuUNuYAtOtPEtQAAFtRAtSHAuINNYIIYHEtTUtUtVAtWAWtYAuHEtZALgVOWEL LENGTHENER
  cMETOSdISSION TICKETScULTbEGEAN CHECK MARKhDRY MEASURE FIRST SUBUNIT
  hLIQUID MEASURE FIRST SUBUNIThMEASURE SECOND SUBUNITpTHIRD SUBUNIThNUMBER EIGHTt HUNDRED
  uTHOUSANDtYu THOUSANDoFIFTYt THOUSANDqVEs HUNDREDtTHOUSANDpORTYt THOUSANDqURs HUNDREDtTHOUSAND
  oNINEs HUNDREDtTHOUSANDsTYu THOUSANDoONEr HUNDREDsTHOUSANDoSEVENt HUNDREDuTHOUSANDtTYv THOUSAND
  pIXr HUNDREDsTHOUSANDrTYt THOUSANDoTENr THOUSANDpHIRTYu THOUSANDqREEt HUNDREDuTHOUSANDpWENTY
  u THOUSANDqOr HUNDREDsTHOUSANDhWEIGHT BASE UNIToFIRST SUBUNITpOURTH SUBUNIToSECOND SUBUNIT
  oTHIRD SUBUNITiORD SEPARATOR DOTwLINEcRIAL TRAMWAYbFGHANI SIGNbHOM CONSONANT SIGN MEDIAL LA
  %IGATING RA$RAfDIGIT EIGHTlFIVEmOURlNINElONElSEVENmIXlTHREEmWOlZEROfLETTER AnLTERNATE BAwGAwTA
  mBAnHAmCAnHAmDAnDAoHAnHAmGAnHAmHAmJAnHAmKAnHAmLAnLAmMAmNAnGAnNAnYAmPAnHAmRAmSAmTAnHAnTAoHA
  fNUMBER TENnWENTYfSIGN KILLERkRULAIkSECTIONlMALL SECTIONgYMBOL VIfVOWEL SIGN ArArIrMrWqEqIrIqOqU
  rUbIRPLANEi ARRIVINGjDEPARTUREbKTIESELSKABbLARM CLOCKcCHEMICAL SYMBOL FOR AIRxLEMBICyKALI%-2yUM
  xMALGAMxNTIMONY ORExQUA REGIA,-2$VITAE,-2!FORTISxRSENICxSHESxURIPIGMENTwBATH OF MARY*VAPOURS
  xISMUTH ORExLACK SULFURxORAX$-2%3xRICKwCADUCEUSyLXyPUT MORTUUMxINNABARxOPPER ANTIMONIATE&ORE
  xROCUS OF COPPER>-2,IRONyUCIBLE*-2+3+4+5wDAY-NIGHTxISSOLVE*-2zTILLwEARTHwFIREwGOLDxUMwHALF DRAM
  $OUNCExORSE DUNGyURwIRON ORE*-2!-COPPER OREwLEAD ORExODESTONEwMARCASITExERCURY SUBLIMATE?-2^3
  xONTHwNIGHTyTREwOILwPHILOSOPHERS SULFURxOT ASHESyWDER%ED BRICKxRECIPITATExURIFYyTREFACTION
  wQUICK LIMEzNTESSENCEwREALGAR&-2yGULUS& OF ANTIMONY_-2.IRON&-2*3*4yTORTxOCK SALT+-2wSAL-AMMONIAC
  zT! OF ANTIMONY*COPPER ANTIMONIATExCEPTER OF JOVExILVERxOAPxPIRITxTARRED TRIDENT
  yRATUM SUPER STRATUM~M-2xUBLIMATE OF ANTIMONY;COPPER;SALT OF ANTIMONY~ COPPER*IONyLFURwTARTAR%-2
  xIN OREzCTURExRIDENTxUTTYwURINEwVERDIGRISxINEGAR& OF ANTIMONY&-2*3yTRIOL&-2wWATERyXcEF SYMBOL
  dMBICdRTcIEN MONSTERcL AROUND-PROFILEeEQUAL TOcMdOST EQUAL OR EQUAL TOnTO
  p WITH CIRCUMFLEX ACCENTcTERNATE ONE-WAY LEFT WAY TRAFFICiIVE KEY SYMBOL
  bMALGAMATION OR COPRODUCTcBULANCEcERICAN FOOTBALLcPERSANDdHORAbNATOLIAN HIEROGLYPH A001y2y3y4y5
  y6y7y8y9x10zAy1y2y3y4y5y6y7y8y9x20y1y2y3y4y5y6zAy7y8y9x30y1y2y3y4y5y6y7y8y9zAx40y1zAy2y3y4y5zAy6
  zAzBy7y8y9x50y1y2y3y4y5y6y7y8y9x60y1y2y3y4y5y6zAzBzCy7y8y9x70y1y2y3y4y5y6y7y8y9x80y1y2y3y4y5y6y7
  y8y9x90y1y2y3y4y5y6y7zAy8zAy9w100zAy1zAy2zAy3y4zAzBzCy5zAzBy6y7zAzBzCy8y9x10zAzBy1y2y3y4y5zAy6y7
  y8y9x20y1y2y3y4y5zAy6y7y8y9x30y1y2y3y4y5zAy6y7y8y9x40y1y2y3y4y5y6y7y8y9x50y1y2y3y4y5y6y7y8y9x60
  y1y2y3y4y5y6y7y8y9x70y1y2y3y4y5y6y7y8y9x80y1y2y3y4y5y6y7y8y9x90y1y2y3y4y5y6y7y8y9w200y1y2zAzBy3
  y4y5y6y7zAy8y9zAx10y1y2y3y4y5zAy6zAy7y8y9x20y1y2y3y4y5y6y7zAy8y9x30y1y2y3y4y5y6y7y8y9x40y1y2y3y4
  y5y6y7y8y9x50y1y2y3y4y5y6y7y8y9x60y1y2y3y4y5y6y7zAy8y9x70y1y2y3y4y5y6y7y8y9x80y1y2y3y4y5y6y7y8y9
  zAx90y1y2y3y4zAy5y6y7y8y9zAw300y1y2y3y4y5y6y7y8y9zAx10y1y2y3y4y5y6y7y8y9x20y1y2y3y4y5y6y7y8y9zA
  x30y1y2AzBzCy3y4y5y6zAzBzCy7y8y9x40y1y2y3y4y5y6y7y8y9x50y1y2y3y4y5y6y7y8y9zAx60y1y2y3y4zAy5y6y7
  y8zAy9x70y1zAy2y3y4y5y6y7y8y9x80y1zAy2y3 RA OR RIzAy4y5y6zAy7y8y9x90y1y2y3 EIGHTy4y5y6y7y8y9w400
  y1y2y3y4y5y6y7y8y9x10 BEGIN LOGOGRAM MARKzA END LOGOGRAM MARKy1y2y3y4y5y6y7y8y9x20y1y2y3y4y5y6y7
  y8y9x30y1y2y3y4y5y6y7y8y9x40y1y2y3y4y5y6y7y8y9x50zAy1y2y3y4y5y6y7zAy8y9x60y1y2y3y4y5y6y7y8y9x70
  y1y2y3y4y5y6y7y8y9x80y1y2y3y4y5y6y7y8y9x90y1y2y3y4y5y6y7w501y2y3y4y5y6y7y8y9x10y1y2y3y4y5y6y7y8
  y9x20y1y2y3y4y5y6y7y8y9x30fMICAL HEARTcCHORcD WITH DOTcGER SYMBOLdLEf WITH S INSIDElUNDERBAR
  dRY FACEdSTROM SIGNdUISHED FACEcKHcTdENNA WITH BARSdICLOCKWISE CLOSED CIRCLE ARROW
  pONTOUR INTEGRALoDOWNWARDS AND UPWARDS OPEN CIRCLE ARROWSoGAPPED CIRCLE ARROWoINTEGRATION
  oOPEN CIRCLE ARROWoTOP SEMICIRCLE ARROWpRIANGLE-HEADED BOTTOM U-SHAPED ARROW*LEFT U-SHAPED ARROW
  *OPEN CIRCLE ARROW*RIGHT U-SHAPED ARROW*TOP U-SHAPED ARROWbPCcL FUNCTIONAL SYMBOL ALPHA
  $ UNDERBARwBACKSLASH BARwCIRCLE BACKSLASH&DIAERESIS&JOT&STAR+ILE&UNDERBARxOMMA BARwDEL DIAERESIS
  !STILE!TILDEzTA STILE%UNDERBARxIAMOND UNDERBARxOWN CARET TILDE$SHOE STILE$TACK JOT,UNDERBAR
  !WARDS VANEwEPSILON UNDERBARwGREATER-THAN DIAERESISwI-BEAMxOTA! UNDERBARwJOT DIAERESIS!UNDERBAR
  wLEFT SHOE STILE!WARDS VANEwOMEGA$ UNDERBARwQUAD! BACKSLASH$CIRCLE%OLON$DEL*TA%IAMOND&VIDE
  %OWN CARET+WARDS ARROW$EQUAL$GREATER-THAN$JOT$LEFTWARDS ARROW&SS-THAN$NOT EQUAL$QUESTION
  $RIGHTWARDS ARROW$SLASH$UP CARET&WARDS ARROWyOTE QUAD%UNDERBARwRHOxIGHTWARDS VANE
  wSEMICOLON UNDERBARxLASH BARxQUISH QUADxTAR DIAERESISyILE TILDEwTILDE DIAERESISwUP CARET TILDE
  zSHOE JOTzTACK DIAERESIS*JOT*OVERBARyWARDS VANEwZILDEcOLLONdSTROPHEcPLICATION PROGRAM COMMAND
  dROACHES THE LIMITfXIMATELY BUT NOT ACTUALLY EQUAL TOoEQUAL OR EQUAL TOuTOw OR THE IMAGE OF
  bQUARIUSbRABIC BASELINE ROUND DOThCOMMAiURLY DAMMAsTANnFATHAsTANnKASRAsTANhDAMMAm ISOLATED FORM
  nMEDIAL FORMnWITH DOTmTANp ISOLATED FORMjTE SEPARATORiECIMAL SEPARATORiISPUTED END OF AYAH
  iOUBLE RIGHT ARROWHEAD ABOVE; WITH DOTnD MADDAhEMPTY CENTRE HIGH STOPuLOW STOPiND OF AYAH
  oTEXT MARKhFATHAm ISOLATED FORMnMEDIAL FORMnWITH DOT ABOVEsRINGsTWO DOTSmTANp ISOLATED FORM
  iIVE POINTED STARiOOTNOTE MARKERiULL STOPhHALF MADDA OVER MADDAjMZA ABOVEnBELOWhINVERTED DAMMA
  hKASRAm ISOLATED FORMnMEDIAL FORMnWITH DOT BELOWmTANp ISOLATED FORMhLARGE CIRCLE BELOW
  nROUND DOT ABOVExBELOWxINSIDE CIRCLE BELOWiEFT ARROWHEAD ABOVEwBELOWjTTER AEpFRICAN FEHwNOONwQAF
  z WITH THREE DOTS ABOVEpINr FINAL FORMsINITIAL FORMtSOLATED FORMsMEDIAL FORM
  sWITH THREE DOTS ABOVE:BELOW:POINTING DOWNWARDS ABOVEyWO DOTS ABOVE,VERTICALLY ABOVEpLEF
  s FINAL FORMtISOLATED FORMtMAKSURA! FINAL FORM$ISOLATED FORMtWASLAy FINAL FORMzISOLATED FORM
  uITH ATTACHED BOTTOM RIGHT KASRA~GHT KASRA AND DOT ABOVE~GHT KASRA AND LEFT RING.FATHA.KASRA
  .LEFT HAMZA>ROUND DOT.RIGHT HAMZA?ROUND DOT:OUND DOT ABOVE~ BELOW.TOP RIGHT FATHA
  ~ FATHA AND DOT ABOVE~ FATHA AND LEFT RINGyDOT ABOVEyEXTENDED ARABIC-INDIC DIGIT THREE ABOVE
  ~DIC DIGIT TWO ABOVEyHAMZA ABOVE; FINAL FORM<ISOLATED FORM*BELOW; FINAL FORM<ISOLATED FORM
  yLEFT MIDDLE STROKEyMADDA ABOVE; FINAL FORM<ISOLATED FORMyRIGHT MIDDLE STROKE~E AND DOT ABOVE
  ~E AND LEFT RINGyWAVY HAMZA ABOVE;BELOWoBEEHs FINAL FORMtINITIAL FORMuSOLATED FORMtMEDIAL FORMqH
  r FINAL FORMsINITIAL FORMtSOLATED FORMsMEDIAL FORMsWITH DOT BELOW AND THREE DOTS ABOVE
  xHAMZA ABOVExINVERTED SMALL V BELOWxSMALL MEEM ABOVE&V* BELOWxTHREE DOTS HORIZONTALLY BELOW
  :POINTING UPWARDS BELOW~ UPWARDS BELOW AND TWO DOTS ABOVEyWO DOTS BELOW AND DOT ABOVErEH
  t FINAL FORMuINITIAL FORMvSOLATED FORMuMEDIAL FORMoDADr FINAL FORMsINITIAL FORMtSOLATED FORM
  sMEDIAL FORMsWITH DOT BELOWqHALt FINAL FORMuISOLATED FORMqLr FINAL FORMsISOLATED FORM
  sWITH DOT BELOW, AND SMALL TAHxFOUR DOTS ABOVExINVERTED SMALL V BELOW,VxRING
  xTHREE DOTS ABOVE DOWNWARDS:BELOWyWO DOTS VERTICALLY BELOW AND SMALL TAHpDAHALu FINAL FORM
  vISOLATED FORMrLs FINAL FORMtISOLATED FORMpOTLESS BEHwFEHwQAFpULr FINAL FORMsISOLATED FORMpYEH
  s FINAL FORMtINITIAL FORMuSOLATED FORMtMEDIAL FORMoEp FINAL FORMqINITIAL FORMrSOLATED FORM
  qMEDIAL FORMoFARSI YEHx FINAL FORMyINITIAL FORMzSOLATED FORMyMEDIAL FORM
  yWITH EXTENDED ARABIC-INDIC DIGIT FOUR BELOW~IC-INDIC DIGIT THREE ABOVE~IC-INDIC DIGIT TWO ABOVE
  &INVERTED V&THREE DOTS ABOVE*WO DOTS ABOVEpEHr FINAL FORMsINITIAL FORMtSOLATED FORMsMEDIAL FORM
  sWITH DOT BELOW, AND THREE DOTS ABOVE$MOVED BELOWxTHREE DOTS BELOW:POINTING UPWARDS BELOW
  yWO DOTS BELOWoGAFr FINAL FORMsINITIAL FORMtSOLATED FORMsMEDIAL FORMsWITH INVERTED STROKExRING
  xTHREE DOTS ABOVEyWO DOTS BELOWpHAINt FINAL FORMuINITIAL FORMvSOLATED FORMuMEDIAL FORM
  uWITH DOT BELOWzTHREE DOTS ABOVEpRAFpUEHs FINAL FORMtINITIAL FORMuSOLATED FORMtMEDIAL FORMoHAH
  r FINAL FORMsINITIAL FORMtSOLATED FORMsMEDIAL FORMsWITH EXTENDED ARABIC-INDIC DIGIT FOUR BELOW
  xHAMZA ABOVExINVERTED SMALL V BELOWxSMALL ARABIC LETTER TAH ABOVE~ TAH AND TWO DOTS~ TAH BELOW
  xTHREE DOTS ABOVE:POINTING UPWARDS BELOWyWO DOTS ABOVE,VERTICAL ABOVEqMZAt ISOLATED FORMpEH
  r DOACHASHMEE& FINAL FORM*INITIAL FORM+SOLATED FORM*MEDIAL FORMsFINAL FORMsGOALw FINAL FORM
  xINITIAL FORMySOLATED FORMxMEDIAL FORMxWITH HAMZA ABOVEsINITIAL FORMtSOLATED FORMsMEDIAL FORM
  sWITH INVERTED VxYEH ABOVE, FINAL FORM.ISOLATED FORMpIGH HAMZAy ALEFzWAWzYEHoJEEMs FINAL FORM
  tINITIAL FORMuSOLATED FORMtMEDIAL FORMtWITH THREE DOTS ABOVE;BELOWzWO DOTS ABOVEqHr FINAL FORM
  sISOLATED FORMoKAFr FINAL FORMsINITIAL FORMtSOLATED FORMsMEDIAL FORMsWITH DOT ABOVE$BELOWxRING
  xTHREE DOTS BELOWyWO DOTS ABOVEqSHMIRI YEHpEHEHt FINAL FORMuINITIAL FORMvSOLATED FORM
  uMEDIAL FORMuWITH DOT ABOVEzSMALL VzTHREE DOTS ABOVE<BELOW<POINTING UPWARDS BELOW!WO DOTS ABOVE
  :VERTICALLY BELOWpHAHs FINAL FORMtINITIAL FORMuSOLATED FORMtMEDIAL FORMpIRGHIZ OEy FINAL FORM
  zISOLATED FORMwYUy FINAL FORMzISOLATED FORMoLAMr FINAL FORMsINITIAL FORMtSOLATED FORM
  sMEDIAL FORMsWITH BARxDOT ABOVEzUBLE BARxSMALL ARABIC LETTER TAH ABOVE&VxTHREE DOTS ABOVE:BELOW
  pOW ALEFoMARKpEEMs FINAL FORMtINITIAL FORMuSOLATED FORMtMEDIAL FORMtWITH DOT ABOVE%BELOW
  yTHREE DOTS ABOVEoNGq FINAL FORMrINITIAL FORMsSOLATED FORMrMEDIAL FORMqOEHt FINAL FORM
  uINITIAL FORMvSOLATED FORMuMEDIAL FORMpOONs FINAL FORMtGHUNNAz FINAL FORM!ISOLATED FORM
  tINITIAL FORMuSOLATED FORMtMEDIAL FORMtWITH DOT BELOWyINVERTED SMALL VyRINGySMALL TAH*V
  yTHREE DOTS ABOVEzWO DOTS BELOWpYEHs FINAL FORMtINITIAL FORMuSOLATED FORMtMEDIAL FORMoOE
  q FINAL FORMrISOLATED FORMoPEHr FINAL FORMsINITIAL FORMtSOLATED FORMsMEDIAL FORM
  sWITH SMALL MEEM ABOVE&VrEHt FINAL FORMuINITIAL FORMvSOLATED FORMuMEDIAL FORMoQAFr FINAL FORM
  sINITIAL FORMtSOLATED FORMsMEDIAL FORMsWITH DOT ABOVE$BELOW, AND NO DOTS ABOVExTHREE DOTS ABOVE
  oREHr FINAL FORMsISOLATED FORMsWITH DOT BELOW, AND DOT ABOVExFOUR DOTS ABOVExHAMZA ABOVE
  xINVERTED VxLOOPxRINGxSMALL ARABIC LETTER TAH AND TWO DOTS&NOON ABOVE&V* BELOWyTROKE
  xTWO DOTS ABOVE,VERTICALLY ABOVEpNOONt FINAL FORMuINITIAL FORMvSOLATED FORMuMEDIAL FORM
  pOHINGYA YEHpREHs FINAL FORMtISOLATED FORMoSADr FINAL FORMsINITIAL FORMtSOLATED FORMsMEDIAL FORM
  sWITH THREE DOTS ABOVE:BELOWyWO DOTS BELOWpEENs FINAL FORMtINITIAL FORMuSOLATED FORMtMEDIAL FORM
  tWITH DOT BELOW AND DOT ABOVEyEXTENDED ARABIC-INDIC DIGIT FOUR ABOVEyFOUR DOTS ABOVEyINVERTED V
  ySMALL ARABIC LETTER TAH AND TWO DOTSyTHREE DOTS BELOW^ AND THREE DOTS ABOVE
  zWO DOTS VERTICALLY ABOVEpHEENt FINAL FORMuINITIAL FORMvSOLATED FORMuMEDIAL FORMuWITH DOT BELOW
  pTRAIGHT WAWpUPERSCRIPT ALEFpWASH KAFoTAHr FINAL FORMsINITIAL FORMtSOLATED FORMsMEDIAL FORM
  sWITH DOT BELOWxTHREE DOTS ABOVE:BELOWyWO DOTS ABOVEpCHEHt FINAL FORMuINITIAL FORMvSOLATED FORM
  uMEDIAL FORMuWITH DOT ABOVEzSMALL VtEHv FINAL FORMwINITIAL FORMxSOLATED FORMwMEDIAL FORMpEH
  r FINAL FORMsINITIAL FORMtSOLATED FORMsMARBUTAz FINAL FORM!GOAL!ISOLATED FORMtEDIAL FORM
  sWITH RINGxSMALL TEH ABOVE&VxTHREE DOTS ABOVE DOWNWARDSrEHt FINAL FORMuINITIAL FORMvSOLATED FORM
  uMEDIAL FORMpHALs FINAL FORMtISOLATED FORMqEHs FINAL FORMtINITIAL FORMuSOLATED FORMtMEDIAL FORM
  qIN YEHpTEHs FINAL FORMtINITIAL FORMuSOLATED FORMtMEDIAL FORMtWITH SMALL VsEHu FINAL FORM
  vINITIAL FORMwSOLATED FORMvMEDIAL FORMoUp FINAL FORMqISOLATED FORMqWITH HAMZA ABOVE
  , ISOLATED FORMpIGHUR KAZAKH KIRGHIZ ALEF MAKSURA INITIAL FORM~AKSURA MEDIAL FORMoVEq FINAL FORM
  rISOLATED FORMqHr FINAL FORMsINITIAL FORMtSOLATED FORMsMEDIAL FORMoWAWr FINAL FORMsISOLATED FORM
  sWITH DOT ABOVE$WITHINxEXTENDED ARABIC-INDIC DIGIT THREE ABOVE~IC DIGIT TWO ABOVExHAMZA ABOVE
  : FINAL FORM;ISOLATED FORMxRINGxTWO DOTS ABOVEoYEHr BARREEy FINAL FORMzISOLATED FORM
  zWITH EXTENDED ARABIC-INDIC DIGIT THREE ABOVE~BIC-INDIC DIGIT TWO ABOVE*HAMZA ABOVE_ FINAL FORM
  ~ISOLATED FORMsFINAL FORMsINITIAL FORMtSOLATED FORMsMEDIAL FORMsWITH HAMZA ABOVE: FINAL FORM
  ;INITIAL FORM<SOLATED FORM;MEDIAL FORMxSMALL VxTAILyHREE DOTS BELOWyWO DOTS BELOW AND DOT ABOVE
  ~HAMZA ABOVE~SMALL NOON ABOVEpUq FINAL FORMrISOLATED FORMoZAHr FINAL FORMsINITIAL FORM
  tSOLATED FORMsMEDIAL FORMqINs FINAL FORMtISOLATED FORMtWITH INVERTED V ABOVE
  iIGATURE AIN WITH ALEF MAKSURA FINAL FORM>ISOLATED FORMzJEEM INITIAL FORM+SOLATED FORM
  *WITH MEEM FINAL FORM^INITIAL FORMzMEEM INITIAL FORM+SOLATED FORM*WITH ALEF MAKSURA FINAL FORM
  ;MEEM FINAL FORM^INITIAL FORM;YEH FINAL FORMzYEH FINAL FORM&ISOLATED FORMrKBAR ISOLATED FORM
  rLAYHAA AS-SALAAMvE ISOLATED FORMvI AS-SALAAM+TU WAS-SALAAMwM AS-SALAAMxAA AS-SALAAM
  sEF MAKSURA WITH SUPERSCRIPT ALEF FINAL FORM~IPT ALEF ISOLATED FORMvWITH FATHATAN FINAL FORM
  ;ISOLATED FORMsLAH ISOLATED FORMrZZA WA JALLqBEH WITH ALEF MAKSURA FINAL FORM>ISOLATED FORM
  zHAH INITIAL FORM*SOLATED FORM&WITH YEH FINAL FORM!EH INITIAL FORM&MEDIAL FORMzJEEM INITIAL FORM
  +SOLATED FORMzKHAH INITIAL FORM+SOLATED FORM*WITH YEH FINAL FORMzMEEM FINAL FORM*INITIAL FORM
  +SOLATED FORM*MEDIAL FORMzNOON FINAL FORMzREH FINAL FORMzYEH FINAL FORM&ISOLATED FORM
  zZAIN FINAL FORMrISMILLAH AR-RAHMAN AR-RAHEEMqDAD WITH ALEF MAKSURA FINAL FORM>ISOLATED FORM
  zHAH INITIAL FORM*SOLATED FORM&WITH ALEF MAKSURA FINAL FORM:YEH FINAL FORMzJEEM INITIAL FORM
  +SOLATED FORMzKHAH INITIAL FORM+SOLATED FORM*WITH MEEM FINAL FORM^INITIAL FORMzMEEM INITIAL FORM
  +SOLATED FORMzREH FINAL FORM&ISOLATED FORMzYEH FINAL FORM&ISOLATED FORM
  qFEH WITH ALEF MAKSURA FINAL FORM>ISOLATED FORMzHAH INITIAL FORM*SOLATED FORMzJEEM INITIAL FORM
  +SOLATED FORMzKHAH INITIAL FORM+SOLATED FORM*WITH MEEM FINAL FORM^INITIAL FORMzMEEM INITIAL FORM
  +SOLATED FORM*WITH YEH FINAL FORMzYEH FINAL FORM&ISOLATED FORM
  qGHAIN WITH ALEF MAKSURA FINAL FORM^ISOLATED FORM$JEEM INITIAL FORM.SOLATED FORM
  $MEEM INITIAL FORM.SOLATED FORM,WITH ALEF MAKSURA FINAL FORM=MEEM FINAL FORM=YEH FINAL FORM
  $YEH FINAL FORM+ISOLATED FORMqHAH WITH ALEF MAKSURA FINAL FORM>ISOLATED FORMzJEEM INITIAL FORM
  +SOLATED FORM*WITH YEH FINAL FORMzMEEM INITIAL FORM+SOLATED FORM*WITH ALEF MAKSURA FINAL FORM
  ;YEH FINAL FORMzYEH FINAL FORM&ISOLATED FORMrEH WITH ALEF MAKSURA ISOLATED FORM
  zJEEM INITIAL FORM+SOLATED FORMzMEEM INITIAL FORM+SOLATED FORM*WITH JEEM INITIAL FORM
  ;MEEM INITIAL FORMzSUPERSCRIPT ALEF INITIAL FORMzYEH ISOLATED FORMqJALLAJALALOUHOU
  rEEM WITH ALEF MAKSURA FINAL FORM?ISOLATED FORM!HAH INITIAL FORM+SOLATED FORM
  *WITH ALEF MAKSURA FINAL FORM;YEH FINAL FORM!MEEM INITIAL FORM,SOLATED FORM
  +WITH ALEF MAKSURA FINAL FORM<HAH FINAL FORM^INITIAL FORM<YEH FINAL FORM!YEH FINAL FORM
  *ISOLATED FORMqKAF WITH ALEF FINAL FORM*ISOLATED FORM*MAKSURA FINAL FORM>ISOLATED FORM
  zHAH INITIAL FORM*SOLATED FORMzJEEM INITIAL FORM+SOLATED FORMzKHAH INITIAL FORM+SOLATED FORM
  zLAM FINAL FORM&INITIAL FORM*SOLATED FORM&MEDIAL FORMzMEEM FINAL FORM*INITIAL FORM+SOLATED FORM
  *MEDIAL FORM*WITH MEEM FINAL FORM^INITIAL FORM;YEH FINAL FORMzYEH FINAL FORM&ISOLATED FORM
  rHAH WITH ALEF MAKSURA FINAL FORM?ISOLATED FORM!HAH ISOLATED FORM!JEEM INITIAL FORM,SOLATED FORM
  !MEEM INITIAL FORM,SOLATED FORM!YEH FINAL FORM*ISOLATED FORMqLAM WITH ALEF FINAL FORM
  *ISOLATED FORM*MAKSURA FINAL FORM>ISOLATED FORM*WITH HAMZA ABOVE FINAL FORM~BOVE ISOLATED FORM
  _BELOW FINAL FORM~ELOW ISOLATED FORM;MADDA ABOVE FINAL FORM~BOVE ISOLATED FORMzHAH INITIAL FORM
  *SOLATED FORM&WITH ALEF MAKSURA FINAL FORM:MEEM FINAL FORM?INITIAL FORM:YEH FINAL FORM
  !EH INITIAL FORMzJEEM INITIAL FORM+SOLATED FORM*WITH JEEM FINAL FORM^INITIAL FORM
  ;MEEM FINAL FORM^INITIAL FORM;YEH FINAL FORMzKHAH INITIAL FORM+SOLATED FORM*WITH MEEM FINAL FORM
  ^INITIAL FORMzMEEM FINAL FORM*INITIAL FORM+SOLATED FORM*MEDIAL FORM*WITH HAH FINAL FORM
  ?INITIAL FORM;YEH FINAL FORMzYEH FINAL FORM&ISOLATED FORMqMEEM WITH ALEF FINAL FORM
  +MAKSURA ISOLATED FORM!HAH INITIAL FORM+SOLATED FORM*WITH JEEM INITIAL FORM;MEEM INITIAL FORM
  ;YEH FINAL FORM!JEEM INITIAL FORM,SOLATED FORM+WITH HAH INITIAL FORM<KHAH INITIAL FORM
  <MEEM INITIAL FORM<YEH FINAL FORM!KHAH INITIAL FORM,SOLATED FORM+WITH JEEM INITIAL FORM
  <MEEM INITIAL FORM<YEH FINAL FORM!MEEM FINAL FORM+INITIAL FORM,SOLATED FORM+WITH YEH FINAL FORM
  !YEH ISOLATED FORMrOHAMMAD ISOLATED FORMqNOON WITH ALEF MAKSURA FINAL FORM?ISOLATED FORM
  !HAH INITIAL FORM+SOLATED FORM*WITH ALEF MAKSURA FINAL FORM;MEEM INITIAL FORM;YEH FINAL FORM
  $EH INITIAL FORM*MEDIAL FORM!JEEM INITIAL FORM,SOLATED FORM+WITH ALEF MAKSURA FINAL FORM
  <HAH FINAL FORM^INITIAL FORM<MEEM FINAL FORM_INITIAL FORM<YEH FINAL FORM!KHAH INITIAL FORM
  ,SOLATED FORM!MEEM FINAL FORM+INITIAL FORM,SOLATED FORM+MEDIAL FORM+WITH ALEF MAKSURA FINAL FORM
  <YEH FINAL FORM!NOON FINAL FORM!REH FINAL FORM!YEH FINAL FORM*ISOLATED FORM!ZAIN FINAL FORM
  qQAF WITH ALEF MAKSURA FINAL FORM>ISOLATED FORMzHAH INITIAL FORM*SOLATED FORMzMEEM INITIAL FORM
  +SOLATED FORM*WITH HAH FINAL FORM?INITIAL FORM;MEEM FINAL FORM;YEH FINAL FORMzYEH FINAL FORM
  &ISOLATED FORMsLA USED AS KORANIC STOP SIGN ISOLATED FORMrUDDISA SIRRAHqRADI ALLAAHU ANH,AA,UM
  :AA.NNAsHIMAHU ALLAAHyM ALLAAHsSOUL ISOLATED FORMrEH WITH SUPERSCRIPT ALEF ISOLATED FORM
  qSAD WITH ALEF MAKSURA FINAL FORM>ISOLATED FORMzHAH INITIAL FORM*SOLATED FORM
  &WITH HAH FINAL FORM>INITIAL FORM:YEH FINAL FORMzKHAH INITIAL FORMzMEEM INITIAL FORM
  +SOLATED FORM*WITH MEEM FINAL FORM^INITIAL FORMzREH FINAL FORM&ISOLATED FORMzYEH FINAL FORM
  &ISOLATED FORMsLAAMUHU ALAYNAAuM ISOLATED FORMtLA ISOLATED FORM
  wUSED AS KORANIC STOP SIGN ISOLATED FORMvLLAAHU ALAYHI WA-AALIHyHOU ALAYHE WASALLAM
  zU ALAYHI WAAALIHEE WA-SALLAMrEEN WITH ALEF MAKSURA FINAL FORM?ISOLATED FORM!HAH INITIAL FORM
  +SOLATED FORM*MEDIAL FORM*WITH JEEM INITIAL FORM$EH INITIAL FORM*MEDIAL FORM!JEEM INITIAL FORM
  ,SOLATED FORM+MEDIAL FORM+WITH ALEF MAKSURA FINAL FORM<HAH INITIAL FORM!KHAH INITIAL FORM
  ,SOLATED FORM+MEDIAL FORM+WITH ALEF MAKSURA FINAL FORM<YEH FINAL FORM!MEEM INITIAL FORM
  ,SOLATED FORM+MEDIAL FORM+WITH HAH FINAL FORM^INITIAL FORM<JEEM INITIAL FORM<MEEM FINAL FORM
  _INITIAL FORM!REH FINAL FORM*ISOLATED FORM!YEH FINAL FORM*ISOLATED FORM
  rHADDA WITH DAMMA ISOLATED FORM:MEDIAL FORM.TAN ISOLATED FORM%FATHA ISOLATED FORM:MEDIAL FORM
  %KASRA ISOLATED FORM:MEDIAL FORM.TAN ISOLATED FORM%SUPERSCRIPT ALEF ISOLATED FORM
  sEEN WITH ALEF MAKSURA FINAL FORM^ISOLATED FORM$HAH FINAL FORM+INITIAL FORM,SOLATED FORM
  +MEDIAL FORM+WITH MEEM FINAL FORM_INITIAL FORM<YEH FINAL FORM%EH INITIAL FORM+MEDIAL FORM
  $JEEM FINAL FORM,INITIAL FORM.SOLATED FORM,MEDIAL FORM,WITH YEH FINAL FORM$KHAH FINAL FORM
  ,INITIAL FORM.SOLATED FORM,MEDIAL FORM$MEEM FINAL FORM,INITIAL FORM.SOLATED FORM,MEDIAL FORM
  ,WITH KHAH FINAL FORM~INITIAL FORM=MEEM FINAL FORM~INITIAL FORM$REH FINAL FORM+ISOLATED FORM
  $YEH FINAL FORM+ISOLATED FORMrUBHAANAHU WA TAAALAAqTABAARAKA WA-TAAALAA
  sH WITH ALEF MAKSURA FINAL FORM>ISOLATED FORMzHAH INITIAL FORM*SOLATED FORMzMEEM INITIAL FORM
  +SOLATED FORM*MEDIAL FORM*WITH HAH FINAL FORM?INITIAL FORM;MEEM INITIAL FORM;YEH FINAL FORM
  zYEH FINAL FORM&ISOLATED FORMrEH WITH ALEF MAKSURA FINAL FORM>ISOLATED FORMzHAH INITIAL FORM
  *SOLATED FORM&WITH JEEM FINAL FORM?INITIAL FORM:MEEM INITIAL FORM!EH INITIAL FORM&MEDIAL FORM
  zJEEM INITIAL FORM+SOLATED FORM*WITH ALEF MAKSURA FINAL FORM;MEEM INITIAL FORM;YEH FINAL FORM
  zKHAH INITIAL FORM+SOLATED FORM*WITH ALEF MAKSURA FINAL FORM;MEEM INITIAL FORM;YEH FINAL FORM
  zMEEM FINAL FORM*INITIAL FORM+SOLATED FORM*MEDIAL FORM*WITH ALEF MAKSURA FINAL FORM
  ;HAH INITIAL FORM;JEEM INITIAL FORM;KHAH INITIAL FORM;YEH FINAL FORMzNOON FINAL FORM
  zREH FINAL FORMzYEH FINAL FORM&ISOLATED FORMzZAIN FINAL FORM
  rHAL WITH SUPERSCRIPT ALEF ISOLATED FORMsEH WITH ALEF MAKSURA FINAL FORM?ISOLATED FORM
  !HEH MEDIAL FORM!JEEM ISOLATED FORM!MEEM FINAL FORM+INITIAL FORM,SOLATED FORM+MEDIAL FORM
  !NOON FINAL FORM!REH FINAL FORM!YEH FINAL FORM*ISOLATED FORM!ZAIN FINAL FORM
  qUIGHUR KIRGHIZ YEH WITH HAMZA ABOVE WITH ALEF MAKSURA FINAL FORM
  ~MZA ABOVE WITH ALEF MAKSURA INITIAL FORM~MZA ABOVE WITH ALEF MAKSURA ISOLATED FORM
  qWASALLAM ISOLATED FORMqYEH WITH ALEF MAKSURA FINAL FORM>ISOLATED FORMzHAH INITIAL FORM
  *SOLATED FORM&WITH YEH FINAL FORM$MZA ABOVE WITH AE FINAL FORM~AE ISOLATED FORM~ALEF FINAL FORM
  ~ALEF ISOLATED FORM~ALEF MAKSURA FINAL FORM~ALEF MAKSURA ISOLATED FORM~E FINAL FORM
  ~E INITIAL FORM~E ISOLATED FORM~HAH INITIAL FORM~HAH ISOLATED FORM~HEH INITIAL FORM
  ~HEH MEDIAL FORM~JEEM INITIAL FORM~JEEM ISOLATED FORM~KHAH INITIAL FORM~MEEM FINAL FORM
  ~MEEM INITIAL FORM~MEEM ISOLATED FORM~MEEM MEDIAL FORM~NOON FINAL FORM~OE FINAL FORM
  ~OE ISOLATED FORM~REH FINAL FORM~U FINAL FORM~U ISOLATED FORM~WAW FINAL FORM~WAW ISOLATED FORM
  ~YEH FINAL FORM~YEH ISOLATED FORM~YU FINAL FORM~YU ISOLATED FORM~ZAIN FINAL FORM!EH INITIAL FORM
  &MEDIAL FORMzJEEM INITIAL FORM+SOLATED FORM*WITH YEH FINAL FORMzKHAH INITIAL FORM+SOLATED FORM
  zMEEM FINAL FORM*INITIAL FORM+SOLATED FORM*MEDIAL FORM*WITH MEEM FINAL FORM^INITIAL FORM
  ;YEH FINAL FORMzNOON FINAL FORMzREH FINAL FORMzYEH FINAL FORM&ISOLATED FORMzZAIN FINAL FORM
  qZAH WITH MEEM INITIAL FORM+SOLATED FORM*MEDIAL FORMhMADDA WAAJIBmH ABOVEjRK NOON GHUNNA
  mSIDEWAYS NOON GHUNNAjTHEMATICAL AINvLEFuBEHuDADwLvOTLESS BEH%FEH%NOON%QAFwUBLE-STRUCK AIN:BEH
  :DAD<L:FEH:GHAIN:HAH:JEEM:KHAH:LAM:MEEM:NOON:QAF:REH:SAD;EEN;HEEN:TAH;EH;HAL<EH:WAW:YEH:ZAH<IN
  uFEHuGHAINuHAHuINITIAL AIN%BEH%DAD%FEH%GHAIN%HAH&EH%JEEM%KAF&HAH%LAM%MEEM%NOON%QAF%SAD&EEN&HEEN
  %TEH&HEH%YEHuJEEMuKAFvHAHuLAMvOOPED AIN%LEF$BEH$DAD&L$FEH$GHAIN$HAH%EH$JEEM$KHAH$LAM$MEEM$NOON
  $QAF$REH$SAD%EEN%HEEN$TAH%EH%HAL&EH$WAW$YEH$ZAH&INuMEEMuNOONuOPERATOR HAH WITH DAL
  &MEEM WITH HAH WITH TATWEELuQAFuREHuSADvEENvHEENvTRETCHED AIN*BEH*DAD+OTLESS BEH>FEH*FEH*GHAIN
  *HAH+EH*JEEM*KAF+HAH*MEEM*NOON*QAF*SAD+EEN+HEEN*TAH+EH+HEH*YEH*ZAHuTAHwILED AIN$DAD%OTLESS NOON
  ;QAF$GHAIN$HAH$JEEM$KHAH$LAM$NOON$QAF$SAD%EEN%HEEN$YEHvEHvHALwEHuWAWuYEHuZAHwIN
  hNUMBER MARK ABOVEoSIGNhOPEN DAMMATANmFATHATANmKASRATANhPERCENT SIGNiIASTRE MARK ABOVE
  iLACE OF SAJDAHiOETIC VERSE SIGNjUND MARK ABOVEhQUESTION MARKhRAISED ROUND DOTjYiEVERSED DAMMA
  iIGHT ARROWHEAD ABOVE% WITH DOTxBELOWiOUNDED HIGH STOP WITH FILLED CENTREhSEMICOLONiHADDA
  n ISOLATED FORMoMEDIAL FORMiIGN ALAYHE ASSALLAMmMISRAmRADI ALLAHOU ANHUoHMATULLAH ALAYHEmSAFHA
  oLLALLAHOU ALAYHE WASSALLAMoMVAToNAHnINDHI AMPERSANDtPOSTPOSITION MENmTAKHALLUSiMALL DAMMA
  nFARSI YEHpTHAnHIGH AINsDOTLESS HEAD OF KHAHsFARSI YEHtOOTNOTE MARKERsJEEMsLAM ALEF
  tIGATURE ALEF WITH LAM WITH YEH$QAF WITH LAM WITH ALEF MAKSURA$SAD WITH LAM WITH ALEF MAKSURA
  sMADDAtEEM INITIAL FORMySOLATED FORMsNOONw WITH KASRAsQAFsROUNDED ZEROsSADtEENtIGN SAFHAsTAH
  tHREE DOTSsUPRIGHT RECTANGULAR ZEROsWAWtORD AL-JUZyN-NISFyR-RUByS-SAJDAyTH-THALATHAxQIFxSAHzKTA
  xWAQFAsYEHv BARREE WITH TWO DOTS BELOWsZAHuINnKASRAnLOW MEEMrNOON WITH KASRArSEENrWAWsORD IMAALA
  xSHMAAMwTASHEELnWAWnYEHiTART OF RUB EL HIZBiUBSCRIPT ALEFjKUNm BELOWnISOLATED FORMnMEDIAL FORM
  jPERSCRIPT ALEF MOKHASSASiYMBOL DOT ABOVEsBELOWqUBLE VERTICAL BAR BELOWoFOUR DOTS ABOVEyBELOW
  oRINGoSMALL TAH ABOVEyBELOWoTHREE DOTS ABOVEzBELOWzPOINTING DOWNWARDS ABOVE~S BELOW
  pWO DOTS ABOVExBELOWxVERTICALLY ABOVE:BELOWoWASLA ABOVEhTAIL FRAGMENTjTWEELo WITH FATHATAN ABOVE
  uOVERSTRUCK HAMZA+WAWuTWO DOTS BELOWiHOUSANDS SEPARATORiONE LOOP ABOVErBELOWmONE DOT ABOVEuBELOW
  mTWO DOTS ABOVEvBELOWiRIPLE DOT PUNCTUATION MARKiURNED DAMMA BELOWhVERTICAL TAIL
  iOWEL SIGN DOT BELOWsINVERTED SMALL V ABOVEsSMALL V ABOVEhWAVY HAMZA BELOWhZWARAKAY
  g-INDIC CUBE ROOTnDIGIT EIGHTtFIVEuOURtNINEtONEtSEVENuIXtTHREEuWOtZEROnFOURTH ROOT
  nPER MILLE SIGNrTEN THOUSAND SIGNcCcIEScMENIAN ABBREVIATION MARKkPOSTROPHEjCAPITAL LETTER AYB
  yBENyCAzHA!EHzOyDAyECHzHzTyFEHyGHADzIMyHOyINIyJAzHEHyKEH!NyLIWNyMENyNOWyOHyPEHzIWRyRAzEHySEHzHA
  yTIWNzOyVEWzOyXEHyYI!WNyZAzHEkOMMAjDRAM SIGNjEMPHASIS MARKkXCLAMATION MARKjFULL STOPjHYPHEN
  jMODIFIER LETTER LEFT HALF RINGjQUESTION MARKjSMALL LETTER AYBwBENwCAxHAyEHxOwDAwECHxHxTwFEH
  wGHADxIMwHOwINIwJAxHEHwKEHyNwLIWNwMENwNOWwOHwPEHxIWRwRAxEHwSEHxHAwTIWNxOxURNED AYBwVEWxOwXEHwYI
  y WITH STROKEyWNwZAxHEqIGATURE ECH YIWNyMEN ECH%INI%NOW%XEHyVEW NOW
  cROW POINTING DOWNWARDS THEN CURVING LEFTWARDS>RIGHTWARDSpRIGHTWARDS THEN CURVING DOWNWARDS
  ?SOUTH WEST?UPWARDSpUPWARDS THEN NORTH WESTfHEAD-SHAPED POINTERcTICULATED LORRYeST PALETTE
  bSCENDING NODEdIA SYMBOLcSERTIONcTERISKi OPERATORhMdONISHED FACEdRAEAeONOMICAL SYMBOL FOR URANUS
  cYMPTOTICALLY EQUAL TObTHLETIC SHOEcOM SYMBOLbUBERGINEcSTRAL SIGNcTO RICKSHAW
  eMATED TELLER MACHINEfOBILEbVESTAN ABBREVIATION MARKiLETTER AqArNrOqErEqNqOpBEqHEpCEpDEqHEpEqE
  pFEpGEqGEqHEpHEqMEpIqIpJEpKEpLEpMEpNEqGErVErYEqNEqYEpOqOpPEpREpSEqHErYEqSHEpTEqHEqTEpUqUpVEpXE
  qVEqYEpYEqYEpZEqHEcOCADObXEaBABYe ANGELfBOTTLEfCHICKfSYMBOLcCK OF ENVELOPE
  fWITH LEFTWARDS ARROW ABOVEe-TILTED SHADOWED WHITE RIGHTWARDS ARROW
  eSLANTED SOUTH ARROW WITH HOOKED TAIL+RIZONTAL TAILfPACEdONdTRIAN CAMELcDGER
  dMINTON RACQUET AND SHUTTLECOCKcGELdGAGE CLAIMdUETTE BREADcLINESE ADEG ADEGjCARIK PAMUNGKAH
  rRERENpSIKIjDIGIT EIGHTpFIVEqOURpNINEpONEpSEVENqIXpTHREEqWOpZEROjLETTER AIKARArKARAv TEDUNG
  rRCHAIC JNYArSYURA SASAKqBAs KEMBANGqCAs LACAqDAs MADUuURDA ALPAPRANAzMAHAPRANAqEF SASAKrKARAqGA
  s GORAqHAqIKARAv TEDUNGqJAs JERAqKAs MAHAPRANAsF SASAKrHOT SASAKqLAs LENGAy TEDUNGqMAqNAs RAMBAT
  rGArYAqOKARAv TEDUNGqPAs KAPALqRAs REPAx TEDUNGqSAs SAGAvPAqTAs LATIKtMURDA MAHAPRANAtTAWA
  rZIR SASAKqUKARAv TEDUNGqVE SASAKqWAqYAqZAL SASAKjMUSICAL SYMBOL COMBINING BENDE:ENDEP:GONG
  :JEGOGAN:KEMPLI^ WITH JEGOGAN>UL^ WITH JEGOGAN:TEGEHyDAENG!ING!NG% GEDE&SURANGzENG!UNGzINGzONG
  zUNGyLEFT-HAND CLOSED PLAK~LUK:OPEN PANG^ING^UNGyRIGHT-HAND CLOSED TAK~TUK;OPEN DAG_UGjPAMADA
  p LANTANGmENENGlNTIo LANTANGjSIGN BISAHoCECEKoREREKANoSURANGoULU CANDRAsRICEM
  jVOWEL SIGN LA LENGA% TEDUNGuPEPETz TEDUNGuRA REPA$ TEDUNGuSUKUy ILUTuTALING! REPA+ TEDUNG
  $TEDUNGvEDUNGuULUx SARIjWINDUdL OF YARNeET SHOESeOONh-SPOKED ASTERISKfT BOLD SCRIPT XjX
  k WITH BALLOTrOLD CHECKvSCRIPT XqCHECKqLIGHT XqSCRIPT XqXhSCRIPT XhXcMUM COLON
  iMBINING MARK KOQNDONvTUKWENTISjMAgFULL STOPgLETTER AnEEnFAAMAEoEEoOMoUnInKAoENpTpUXoIoOpGHOM
  pVUUoPAoUoYEEnLAoEEEEoIoOQoUnMoAoBAApENoEEEEpNoIoOoUnNAoDAAoGApGApKWAENoIoJAEMpEEpUAEoSHAoTEEpUU
  oUpAEoYInOnPAoEEpUXoHASE-A FIRIvGBIEE FONwHEUAEGHEUAE$RAEvKAFAxQwETxUKEUTNDAwPOQwUOQvLAPAQ
  wET KUTwOMMAEwUxAEPvMAEKEUPyMzBGBIEEzKPENzVEUXyNYIySIxNSUAExP PIEETwBANYIyQwEUNJOMNDEUQwGBASA
  wON NGGEUAETxOMEUTzPUQwVEUAENGAMvNAA MFONxQwDA LEERAEWAyANGGEUAETwENwGANGUxGENxKUE MFON!NZEUM
  wIKAwJAMwKAARAExINDIwSHAyIEEwTAPz MFAA!NTAAxOQPENwYETxIyT MONGKEUAEQwZA MFONxUN MEUTvPA LEERAEWA
  xAMyRAExMSHAExSHAEwETwON MFON PIPAEMBA<GBIEEzPA NJI PIPAEMBA>GBIEEwUPvROMvSEUNYAMwHINDA PA NJI
  yRAExOQ NSHUT YUMxUENSHUETyMwISAwONJAMxQxTwUUvTEUAENyTEUWENwITA MFONwU MAEMBAxAEPvU YUQ NAE
  wNKNOWNvVEEtB FEExUXvGHEUGHEN%UAEMvKAMwEUAEMyPUQyYEUXwIEEMxQvLAANAExM NSHUT NYAMwETwOM NTEUMvMA
  x NJEUAENA!UQAwBA MAELEEyARAExEURIxIT MBAAKETxUOQwEUQyT NGGEETwFIYAQxON TEUAEQwONTIEENvNDU NJAA
  wGGAAMyEU MBUyUOQ$ LARGExKINDI MVOPxOMwSENxHUETwTIEE SHEUOQwYAEMAExI NTEUMvPARUMwEESHIwITwUNGAAM
  vSAKEUAEwET TUwHET NJAQyUAEQTUwIEEwUEvTAAMwU MAEMGBIEEyNSIEEvVEUMvWUAETvYAFU LEERAEWAwEURAE
  tC BUNGvFUEvGBAYIwHAPyRAEvKAAwEN FATIGUEzLAWxTxUKAQyMySEUXzHEUAEPwPARAQwUOP NKAARAExTvLAMxPwIQwU
  vMA KEUAERIyNSIEExEMBAySIwBAA CABBAGE-TREE!PICKETyNYIxEEKEETyRAEyUMzXxIyRIEENyTxUAEMyEwGBASAQ
  wIEEwUAEvNANSANAQxQwDAMyPxEUAEREEzTxIDAxOMBUwGAQxGENyUzAEN NYAMzEETzMzONxKAQyUE MAEMBAxOMwJAEMyM
  xEEEEyUXxUEQwSAxEUAENxHAQxOMxUNyOT NGOMwTAAxENyUNGBAxU MBITwYIR MKPARAQ MEUNwZAxEUMvPENwINxRIEEN
  vRUvSETFONxUXwHIQxUEQwUAETvTAASHAEwETxUTEUXwITA YUEyUAEPvVEUAEPENyXvWANGKUOQwUPvYAAwEUQwU MUOMAE
  xMxWOQtD FAAwEUFEUAETvGHAAxEUAEvKETxUAETMEUNyMyOT MBUAEyPwUxNxOMxQwWAETwYEEvLEEEExTxUAEPyMwIEE
  wOQwUMvMwAENJETxLEERIwBAAz SEVENxUOwEEEExUNyTwFEUAEzTxIEExOyNwGBEUNyIEEyOFUMwONIwUwVOPvNDAMxEE
  yUXxONwGGAAM$AEzPyEUXyUOMyWAENxKAPyEUAEQ!RIyIEEyUNyYEEwIwJAPxEUAEMzTxIyEExUEQwSHEEyUTxIEEP!TxUM
  wTEEyUMxUUwUwYAMxETxIxUEvPAPwEExUTAEwIPwUQxUTvRAEMwEN MUCHzOLDwIIvSAPxQwEUAEQwHEEyUAEzXxIIxOQxU
  wOTwUAExExUvTAEwEEEExUAENyNyTwIwOQwUxOTvWAPwUAENvYAEMMAEwENwUOMyPxWOQtE AvFAxQwEEwOMwU CALLyI
  yREMEDYxEyTvGBETyUXwHAAMAExETyUAEzNzXxOMvIvKETxUAEyXwIwOwPEUXwUETxOPxTvLAAMxPxQwEUAEMwOMxONyTxQ
  wUvMAxEyMxPxQwBEEyUMwENwFEUQwGBAyENwIxEEwONwUAEwVIvNAxEwDAA MY HOUSE!SOFTNESSyPxIAQyQxUNwGA
  xEUREUTxGEEEEzUAE%TyUAESHAE NYAMzPzRAExKAzAMIyEUAEM!XyUMzPxOPyQxUAE!TwJAEMLIxEEz EPOCHyUXwKOM
  wSHIEEyUEzOPwTAPxUMwYI BETWEENzCLEAVERwZAQxUQvOvPA PEOPLEzLURALxAyMwEEMxUTyXwIxEEQyTwOxONwUxAEyQ
  xExMvRAExQwEUXwIMGBAvSAAwEExTwHEUAEQxIQxOyQwOMwUAENvTAAyQxEN NTEUMxMxQwENxUyAEQwOOyNxQwUAExMyAE
  vVEExUAEwOMvWEUXwUExOvYAPwEUAE!TyMyXwIEExTwOQ COVERzSWIMMINGwUAENxEQxNxQtF EEvFOMvKAwENxTwOwPAwU
  wYEEvLAwIwOQvMwAwBAAxENwEEEEwOvNDAAwGGAxKWAENwIwJAEMxUAEwSHAwTEEwUxAEwYIvPEExUXwUAEvREExNxUXwIEE
  xIwUvSAMBAwEUXwHIIxOxUwIwUUvTAAxEwETvUvVUEQvWAwUEvYAwOQoIoUAEpEnRAEoEEpNpUXoIEEpIoUnSAMBAoEUX
  oHEUXpIIpOpUoIoUUnTAApEoENpToInUnWAoUEnYAoOQoUQgNJAEMLIgQUESTION MARKgSEMICOLONcNANAdJOdK
  eNOTE WITH DOLLAR SIGNoEURO SIGNoPOUND SIGNoYEN SIGNcR CHARTeOF SOAPdBER POLEcSEBALLdKET
  gBALL AND HOOPdSA VAH COMBINING HIGH TONEy-LOW TONEuLOW TONEx-MID TONEuMID TONEkFULL STOP
  kLETTER ArBArCErDHIIsOrEsEsNNIrFArGAHsBUrHWAHrIrJOrKAsPAHrMBErOsOrPArSErTOrUsWUrVUrWAtDDArYEIN
  sIErZOcTdAK CONSONANT SIGN HvNGgLETTER AnBAnCAnDAnGAnHAnInJAnKARO BAnLAnMApNDAILING HAyNAySAoBA
  nNAoDAoGAoORTHERN TAoYAnPApKPAK WAnRAnSAoIMALUNGUN AyGAyHAyLAyMAyPAyRAySAyWAyYAoOUTHERN TAnUnWA
  nYAgPANGOLATjONGONANgSIGN TOMPIhYMBOL BINDU JUDULtNA METEKtPANGOLATuINARBORASgVOWEL SIGN EsErI
  rKARO IwOrOrPAKPAK ErUs FOR SIMALUNGUN SAdHeTUBdTERYbEACH WITH UMBRELLA
  dMED ASCENDING MUSICAL NOTEShDESCENDING MUSICAL NOTEShEIGHTH NOTEShSIXTEENTH NOTESdNSdR FACE
  eDED PERSONdTING HEARTdVERcCAUSEcDcER MUGdTLEcLdLe PEPPERfSYMBOLfWITH CANCELLATION STROKE
  eHOP BELLcNGALI ABBREVIATION SIGNjNJIjU LENGTH MARKiCURRENCY DENOMINATOR SIXTEENrNUMERATOR FOUR
  $ONE* LESS THAN THE DENOMINATOR$THREE%WOiDIGIT EIGHToFIVEpOURoNINEoONEoSEVENpIXoTHREEpWOoZERO
  iGANDA MARKiISSHARiLETTER AqAqIqUpBAqHApCAqHApDAqDArHAqHApEpGAqHApHApIqIpJAqHApKAqHAsNDA TApLA
  pMApNAqGAqNAqYApOpPAqHApRAr WITH LOWER DIAGONALxMIDDLE DIAGONALqHAqRApSAqHAqSApTAqHAqTArHApUqU
  pVEDIC ANUSVARAqOCALIC LyLxRyRpYAqYAiRUPEE MARKoSIGNiSANDHI MARKjIGN ANUSVARAoVAGRAHA
  nCANDRABINDUnNUKTAnVIRAMApSARGAiVOWEL SIGN AAuIuUtEtIuItOtUuUtVOCALIC L%L$R%R
  dT ARROW POINTING DOWNWARDS THEN NORTH EASTeO BOXdZENE RINGm WITH CIRCLEcT SYMBOLdWEEN
  cVERAGE BOXbHAIKSUKI DANDAlIGIT EIGHTqFIVErOURqNINEqONEqSEVENrIXqTHREErWOqZEROlOUBLE DANDA
  kGAP FILLER-1v2kHUNDREDS UNIT MARKkLETTER AsAsIsUrBAsHArCAsHArDAsDAtHAsHArErGAsHArHArIsIrJAsHA
  rKAsHArLArMArNAsGAsNAsYArOrPAsHArRArSAsHAsSArTAsHAsTAtHArUsUrVAsOCALIC LzR!RrYAkNUMBER EIGHTwY
  rFIFTYtVEsORTYtURrNINEvTYrONErSEVENwTYsIXuTYrTENsHIRTYtREEsWENTYtOkSIGN ANUSVARAqVAGRAHA
  pCANDRABINDUpVIRAMArSARGAkVOWEL SIGN AAwIwUvEvIwIvOvUwUvVOCALIC L&R*RkWORD SEPARATORbICYCLEgIST
  cG REVERSE SOLIDUSeSOLIDUScKINIcLLED CAPeIARDScOHAZARD SIGNcRDdTHDAY CAKEcSONcTCOIN SIGNdING LIP
  bLACK BOWTIEgCENTRE WHITE STARhHESS BISHOPs ROTATED NINETY DEGREES$TWO HUNDRED SEVENTY DEGREES
  mEQUIHOPPERw ROTATED NINETY DEGREESmKINGq ROTATED NINETY DEGREESzTWO HUNDRED SEVENTY DEGREES
  nNIGHTs ROTATED FORTY-FIVE DEGREES$NINETY DEGREES$ONE HUNDRED THIRTY-FIVE DEGREES
  $THREE HUNDRED FIFTEEN DEGREES%WO HUNDRED SEVENTY DEGREES?TWENTY-FIVE DEGREESs-BISHOPtQUEENtROOK
  mPAWNq ROTATED NINETY DEGREESzTWO HUNDRED SEVENTY DEGREESmQUEENr ROTATED NINETY DEGREES
  !TWO HUNDRED SEVENTY DEGREESmROOKq ROTATED NINETY DEGREESzTWO HUNDRED SEVENTY DEGREES
  mTURNED BISHOPtKINGuNIGHTtPAWNtQUEENtROOKhIRCLEm FOR RECORDnWITH DOWN ARROWsTWO WHITE DOTS
  sWHITE DOT RIGHThLUB SUIThROSS ON SHIELDhURVED DOWNWARDS AND LEFTWARDS ARROW$RIGHTWARDS ARROW
  nLEFTWARDS AND DOWNWARDS ARROW$UPWARDS ARROWnRIGHTWARDS AND DOWNWARDS ARROW%UPWARDS ARROW
  nUPWARDS AND LEFTWARDS ARROWzRIGHTWARDS ARROWgDIAMONDn CENTREDoMINUS WHITE XoON CROSSoSUIT
  oWITH DOWN ARROWhOWN POINTING BACKHAND INDEXk-POINTING DOUBLE TRIANGLEuISOSCELES RIGHT TRIANGLE
  uSMALL TRIANGLEuTRIANGLEkWARDS EQUILATERAL ARROWHEADhRAUGHTS KINGpMANiOPLETgFLAGiORETTEhOLDER
  iUR POINTED STARgHARD SHELL FLOPPY DISKhEARTl SUITiXAGONhORIZONTAL ELLIPSEiURGLASSgLARGE CIRCLE
  mSQUAREhEFT LANE MERGElPOINTING BACKHAND INDEXuINDEXk-POINTING DOUBLE TRIANGLE
  ; WITH VERTICAL BARuISOSCELES RIGHT TRIANGLEuPOINTERuSMALL TRIANGLEuTRIANGLEkWARDS BULLET
  qEQUILATERAL ARROWHEADhOWER LEFT TRIANGLEmRIGHT TRIANGLEiZENGEgMEDIUM DIAMOND
  oOWN-POINTING TRIANGLE; CENTREDnLEFT-POINTING TRIANGLE; CENTREDoOZENGEnRIGHT-POINTING TRIANGLE
  < CENTREDnSMALL DIAMONDtLOZENGEtSQUAREoQUAREnUP-POINTING TRIANGLE. CENTREDhOON LILITHgNIB
  gOCTAGONgPARALLELOGRAMhENNANTjTAGONhUSHPINgQUESTION MARK ORNAMENTgRECTANGLE
  hIGHT POINTING BACKHAND INDEXvINDEXl-POINTING DOUBLE TRIANGLE< WITH VERTICAL BAR
  vISOSCELES RIGHT TRIANGLEvPENTAGONwOINTERvSMALL TRIANGLEvTRIANGLE& WITH DOUBLE VERTICAL BAR
  lWARDS ARROWwHEADrBULLETrEQUILATERAL ARROWHEADhOSETTEgSAFETY SCISSORShCISSORShHOGI PIECE
  hKULL AND CROSSBONEShLIGHTLY SMALL CIRCLEvSQUAREhMALL DIAMONDmLOZENGEmSQUAREnTARiILING FACE
  hNOWMANhPADE SUIThQUAREm BUTTONnCENTREDnFOR STOPhTARhUN WITH RAYSgTELEPHONEhINY DIAMONDlLOZENGE
  lSQUAREhOUCHTONE TELEPHONEhRUCKhWO-WAY LEFT WAY TRAFFICgUNIVERSAL RECYCLING SYMBOL
  hP POINTING BACKHAND INDEXi-POINTING DOUBLE TRIANGLEsISOSCELES RIGHT TRIANGLEsSMALL TRIANGLE
  sTRIANGLEiPER LEFT TRIANGLEmRIGHT TRIANGLEiWARDS EQUILATERAL ARROWHEADgVERTICAL ELLIPSE
  pRECTANGLEjY SMALL DIAMONDrLOZENGErSQUAREf-FEATHERED NORTH EAST ARROWqRIGHTWARDS ARROW
  qSOUTH EAST ARROWgLETTER CAPITAL CvHvIvRvZdNK SYMBOLcOCK SEXTANT-1p2q3r4s5s6r5s6r6q4r5s6r6q5r6q6
  p3q4r5s6r6q56q6p4q5r6q6p5q6p6o2p3q4r5s6r6q5r6q6p4q5r6p5q6p6o3p4q5r6q6p5q6p6o4p5q6p6o5p6o6dSSOM
  dWFISHcUE BOOKfHEARTeBERRIESbOARcLD EIGHT SPOKED ASTERISKfFIVE SPOKED ASTERISKfGREEK CROSS
  fSALTIREgIX SPOKED ASTERISKfWHITE CIRCLElSQUAREcMdBcNEcOKeMARKi TABSeSdMERANG
  cPOMOFO FINAL LETTER GwHwKwPwTjLETTER ArHrIsNNrMrNsGsNrUsNNqBrUqCrHqDqErErHrIrNsGsNrRqFqGrHrNrU
  rWqHqIrHrMrNNtNrRrUqJrIqKrWqLrHqMqNrGsGrNqOr WITH DOT ABOVErErMrNGsNrOrUqPqQqRqSrHqTqUrNNqVqXqZ
  rHrIrYcTTLE WITH POPPING CORKeOM ARC ANTICLOCKWISE ARROWhCURLY BRACKEThHALF BLACK CIRCLE
  mINTEGRALmLEFT PARENTHESISmRIGHT PARENTHESIShLEFT CORNERnROPmHALF BRACKEThPARENTHESIS
  hRIGHT CORNERoROPnHALF BRACKEThSQUARE BRACKETv OVER TOP SQUARE BRACKEThTORTOISE SHELL BRACKET
  cUQUETh OF FLOWERScW AND ARROWdL OF HYGIEIAfWITH SPOONeINGdTIEg WITH LEFT HALF BLACK
  mRIGHT HALF BLACKcX DRAWINGS DOUBLE DOWN AND HORIZONTAL&LEFT&RIGHTuHORIZONTALuUP AND HORIZONTAL
  $LEFT$RIGHTuVERTICAL% AND HORIZONTAL.LEFT.RIGHTpWN DOUBLE AND HORIZONTAL SINGLE&LEFT SINGLE
  &RIGHT SINGLEsHEAVY AND HORIZONTAL LIGHT%LEFT LIGHT.UP LIGHT%RIGHT LIGHT:UP LIGHT
  %UP HORIZONTAL LIGHTsLIGHT AND HORIZONTAL HEAVY%LEFT HEAVY.UP HEAVY%RIGHT HEAVY:UP HEAVY
  %UP HORIZONTAL HEAVYsSINGLE AND HORIZONTAL DOUBLE&LEFT DOUBLE&RIGHT DOUBLE
  nHEAVY DOUBLE DASH HORIZONTAL+VERTICALvWNx AND HORIZONTAL%LEFT%RIGHTtHORIZONTALtLEFT
  x AND LIGHT RIGHTtQUADRUPLE DASH HORIZONTAL:VERTICALtRIGHTtTRIPLE DASH HORIZONTAL+VERTICALtUP
  v AND HORIZONTAL!LEFT$IGHT DOWN!RIGHTtVERTICAL$ AND HORIZONTAL,LEFT,RIGHT
  nLEFT DOWN HEAVY AND RIGHT UP LIGHTsHEAVY AND RIGHT DOWN LIGHT:UP LIGHT:VERTICAL LIGHT
  sLIGHT AND RIGHT DOWN HEAVY:UP HEAVY:VERTICAL HEAVYsUP HEAVY AND RIGHT DOWN LIGHT
  oIGHT ARC DOWN AND LEFT,RIGHTxUP AND LEFT*RIGHTtDIAGONAL CROSS%DIAMOND
  %MIDDLE LEFT TO LOWER CENTRE~ LOWER CENTRE TO MIDDLE RIGHT~ UPPER CENTRE TO MIDDLE RIGHT
  ~ UPPER CENTRE TO MIDDLE RIGHT TO LOWER CENTRE;RIGHT TO LOWER CENTRE
  ~O UPPER CENTRE TO MIDDLE LEFT TO LOWER CENTRE%UPPER CENTRE TO MIDDLE LEFT
  ~O MIDDLE LEFT AND MIDDLE RIGHT TO LOWER CENTRE~O MIDDLE LEFT TO LOWER CENTRE
  ~O MIDDLE LEFT TO LOWER CENTRE TO MIDDLE RIGHT~O MIDDLE RIGHT
  ~O MIDDLE RIGHT AND MIDDLE LEFT TO LOWER CENTRE~O MIDDLE RIGHT TO LOWER CENTRE
  ~O MIDDLE RIGHT TO LOWER CENTRE TO MIDDLE LEFT:LEFT TO LOWER RIGHT:RIGHT TO LOWER LEFT
  uOUBLE DASH HORIZONTAL+VERTICALvWNx AND HORIZONTAL%LEFT%RIGHTtHORIZONTAL& WITH VERTICAL STROKE
  tLEFTx AND HEAVY RIGHTtQUADRUPLE DASH HORIZONTAL:VERTICALtRIGHTtTRIPLE DASH HORIZONTAL+VERTICAL
  tUPv AND HEAVY DOWN$ORIZONTAL!LEFT!RIGHTtVERTICAL$ AND HORIZONTAL,LEFT,RIGHT
  nRIGHT DOWN HEAVY AND LEFT UP LIGHTtHEAVY AND LEFT DOWN LIGHT:UP LIGHT:VERTICAL LIGHT
  tLIGHT AND LEFT DOWN HEAVY:UP HEAVY:VERTICAL HEAVYtUP HEAVY AND LEFT DOWN LIGHT
  nUP DOUBLE AND HORIZONTAL SINGLE$LEFT SINGLE$RIGHT SINGLEqHEAVY AND DOWN HORIZONTAL LIGHT
  !HORIZONTAL LIGHT!LEFT DOWN LIGHT+LIGHT!RIGHT DOWN LIGHT,LIGHTqLIGHT AND DOWN HORIZONTAL HEAVY
  !HORIZONTAL HEAVY!LEFT DOWN HEAVY+HEAVY!RIGHT DOWN HEAVY,HEAVYqSINGLE AND HORIZONTAL DOUBLE
  $LEFT DOUBLE$RIGHT DOUBLEnVERTICAL DOUBLE AND HORIZONTAL SINGLE.LEFT SINGLE.RIGHT SINGLE
  wHEAVY AND HORIZONTAL LIGHT,LEFT LIGHT,RIGHT LIGHTwLIGHT AND HORIZONTAL HEAVY,LEFT HEAVY
  ,RIGHT HEAVYwSINGLE AND HORIZONTAL DOUBLE.LEFT DOUBLE.RIGHT DOUBLEdING GLOVEcYdS SYMBOLbPH
  bRAHMI DANDAiIGIT EIGHTnFIVEoOURnNINEnONEnSEVENoIXnTHREEoWOnZEROiOUBLE DANDAhLETTER ApApIpUoBA
  pHAoCApHAoDApDAqHApHAoEoGApHAoHAoIpIoJApHAoKApHAoLApLAoMAoNApGApNApYAoOpLD TAMIL LLA!LAyNNNAyRRA
  ySHORT E*OoPApHAoRAoSApHApSAoTApHApTAqHAoUpUoVApOCALIC LxLwRxRoYAhNUMBER EIGHTtYoFIFTYqVEpORTY
  qURoJOINERoNINEsTYoONEr HUNDREDsTHOUSANDoSEVENtTYpIXrTYoTENpHIRTYqREEpWENTYqO
  hPUNCTUATION CRESCENT BARtDOTvUBLE DOTtLINEuOTUShSIGN ANUSVARAmCANDRABINDUmJIHVAMULIYA
  mOLD TAMIL VIRAMAmUPADHMANIYAmVISARGAhVIRAMAiOWEL SIGN AAtItUsBHATTIPROLU AAsEsItIsO
  tLD TAMIL SHORT E:OsUtUsVOCALIC L$L!R$RdILLE PATTERN BLANKqDOTS-1w2x3y4z5!6$7%8$8!7$8!8z6!7$8!8
  z7!8z8y5z6!7$8!8z7!8z8y6z7!8z8y7z8y8x4y5z6!7$8!8z7!8z8y6z7!8z8y7z8y8x5y6z7!8z8y7z8y8x6y7z8y8x7y8
  x8w3x4y5z6!7$8!8z7!8z8y6z7!8z8y7z8y8x5y6z7!8z8y7z8y8x6y7z8y8x7y8x8w4x5y6z7!8z8y7z8y8x6y7z8y8x7y8
  x8w5x6y7z8y8x7y8x8w6x7y8x8w7x8w8v2w3x4y5z6!7$8!8z7!8z8y6z7!8z8y7z8y8x5y6z7!8z8y7z8y8x6y7z8y8x7y8
  x8w4x5y6z7!8z8y7z8y8x6y7z8y8x7y8x8w5x6y7z8y8x7y8x8w6x7y8x8w7x8w8v3w4x5y6z7!8z8y7z8y8x6y7z8y8x7y8
  x8w5x6y7z8y8x7y8x8w6x7y8x8w7x8w8v4w5x6y7z8y8x7y8x8w6x7y8x8w7x8w8v5w6x7y8x8w7x8w8v6w7x8w8v7w8v8eN
  cEADeK PERMITTED HEREeST-FEEDINGdVEcICKdDE WITH VEILeGE AT NIGHTdEFCASEfScOCCOLIdKEN BAR
  hCIRCLE WITH NORTHWEST ARROWhHEARTdOMdWN HEARTbSbUBBLE TEAgScCKETcGdINESE END OF SECTION
  jLETTER AqBAqCAqDAqGAqHAqJAqKAqLAqMArPAqNArGAsKArRArYAsCAqPAqRAqSAqTAqVAqYAjPALLAWA
  jVOWEL SIGN AEuEuIuOuUcHID LETTER AnBAnDAnGAnHAnInKAnLAnMAnNAoGAnPAnRAnSAnTAnUnWAnYA
  gVOWEL SIGN IrUcILDING CONSTRUCTIONcLLETg OPERATOReHORNi WITH SOUND WAVESeSEYEcRRITOcSd STOP
  dT IN SILHOUETTEeS IN SILHOUETTEcTTERgFLYbYTE ORDER MARKcZANTINE MUSICAL SYMBOL AGOGI ARGI:OTERI
  +GORGI;OTERI+MESI.TRIA+POLI ARGI<GORGI!NATRICHISMA$TIKENOKYLISMA.MA!PESO EKFONITIKON,XO NEO$LI
  $ODERMA ARCHAION:NEO%STROFOI SYNDESMOS NEO<TELOUS ICHIMATOS:S; DIPLI<NEO%THEMA!RGON&SYNTHETON
  $KTIKO DI.GA.KE.NI.PA.VOU.ZOzCHAMILI+ON$OREVMA ARCHAION:NEO$ROA KLITON+SPATHI+ZYGOSzDASEIA
  !IARGON%STOLI APLI MEGALI^IKRI:DIPLI:THESEOS$ESIS APLI DYO DODEKATA,DIGRAMMOS EX DODEKATA
  ,MONOGRAMMOS TESSERA DODEKATA,TETARTIMORION.RIGRAMMOS OKTO DODEKATA;TIMORION$FTOGGOS OU$GORGON
  . PARESTIGMENON ARISTERA ANO~MENON ARISTERA KATO~MENON DEXIA%RAMMA GG$PLI* ARCHAION!YO
  zEKSTREPTON!LAFRON!NARXIS KAI FTHORA VOU$DOFONON!PEGERMA!TERON ARGOSYNTHETON,PARAKALESMA
  !XO EKFONITIKONzFANEROSIS DIFONIAS;MONOFONIAS;TETRAFONIAS!HTORA SKLIRON CHROMA VASIS
  !THORA ARCHAION^ DEYTEROU ICHOU,DIATONIKI DI~KE~NANA~NI ANO~NI KATO~PA~ZO,ENARMONIOS ANTIFONIA
  ,I YFESIS TETARTIMORION,MALAKON CHROMA DIFONIAS~ROMA MONOFONIAS,NAOS ICHOS.ENANO
  ,SKLIRON CHROMA SYNAFI~ROMA VASIS^DIATONON DIzGENIKI DIESIS,YFESIS!ORGON ARCHAION,NEO ANO<KATO
  ,PARESTIGMENON ARISTERA~NON DEXIA*SYNTHETON%THMIKON N APLOUN>DIPLOUN!RONTHISMATAzICHADIN
  !MIDIARGON%FONON&THORA.ON!SAKIA TELOUS ICHIMATOS$ON ARCHAION*NEOzKATAVA TROMIKON+SMA%HISTI
  !ENTIMA ARCHAION.NEO ANO=KATO=MESO,TA: ARCHAION;NEO ANO?KATO?MESO!LASMA+ ANO,KATO!ONTEVMA. ALLO
  $RONIS$UFISMA!RATIMA ALLO:RCHAION.NEO,TA+OKOUFISMA,YPORROON$EMASTI!YLISMAzLEIMMA DYO CHRONON
  ,ENOS CHRONOU,IMISEOS CHRONOU,TESSARON CHRONON.RION CHRONON$MOI!YGISMA
  zMARTYRIA ALLI DEYTEROS ICHOS?PROTOS ICHOS:DEYTEROS ICHOS:LEGETOS ICHOS:PLAGIOS ICHOS
  ~TETARTOS ICHOS;ROTOS ICHOS?VARYS ICHOS:TETARTOS ICHOS~ LEGETOS ICHOS;RIFONIAS=TOS ICHOS
  :VARYS ICHOS!IKRON ISONzNANAzOLIGON ARCHAION,NEO!MALON!XEIA DIPLI+EKFONITIKON+NEO*I ARCHAION
  !YRANISMA ARCHAION;NEOzPARAKALESMA ARCHAION=NEO*LITIKI< ARCHAION=NEO%ICHON!ELASTON. NEO
  $RISPOMENI$TASMA*TI+OKOUFISMA!IASMA ARCHAION,NEO!SIFISTOLYGISMA.N: NEO.PARAKALESMA.SYNAGMA%LI&ON
  zRAPISMA!EVMAzSAXIMATA!EISMA+ NEO!IMANSIS ARSEOS^ DISIMOU_TETRASIMOU~RISIMOU:THESEOS_ DISIMOU
  ~TETRASIMOU~TRISIMOU!TAVROS, APODEXIA$IGMA$RAGGISMATA!YNAGMA ARCHAION.META STAVROU.NEO%EVMA$RMA
  *TIKIzTELEIA$SSERA$TRAPLI!HEMA* APLOUN*TISMOS ESO>XO%S KAI APOTHES$ITA!INAGMA!RIA%GORGON%PLI
  $OMIKOLYGISMA,N ALLO;RCHAION:NEO,PARAKALESMA.SIFISTON,SYNAGMAzVAREIA DIPLI,EKFONITIKON,NEO
  +I ARCHAION$THYzXIRON KLASMAzYFEN ANO*KATO%SIS APLI DYO DODEKATA,DIGRAMMOS EX DODEKATA
  ,MONOGRAMMOS TESSERA DODEKATA,TRIGRAMMOS OKTO DODEKATA;TIMORION!POKRISIS: DIPLI%RROI$SILIaCACTUS
  cDA UNAdUCEUScLENDARdL ME HANDcMERAg WITH FLASHdPINGcNdADIAN SYLLABICS AuAvIvYuIvVILIK BuN
  uTHAPASCAN M*SuYtBEAVER DENE L+RuIBLE-CREE YuLACKFOOT A&E&I&KA*E*I*O&NA*E*I*O&O&S&W*A*E*I*OtCuA
  vAwIvRRIER CHA&E*E&I&O&U$DEE&NE GEE*TAL S%I%LA&E*E&I&O&U%ZA&E*E&I&O&U$EE$GA&A%E&E%HA&E*E&I&O&U%I
  %O%U%WA&U$H%EE%I%WA&E*E&I&O&U$I%NITIAL Z$JA%E&E%I%JA&E*E&I&O&U%O%U%WA$KHA&E*E&I&O&U%K&A&E*E&I&O
  &U$LA%E&E%HA&E*E&I&O&U%I%O%U$MA%E&E%I%O%U$NA%E&E%G%I%O%U$P%A%E&E%I%O%U$RA%E&E%I%O%U$SA%E&E%H&A&E
  *E&I&O&U%I%O%U$THA&E*E&I&O&U%LA&E*E&HA*E+E*I*O*U&I&O&U%SA&E*E&I&O&U%TA&E*E&I&O&SA*E+E*I*O*U&U$WA
  %E&E%I%O%U$YA%E&E%I%O%U$Z%A%E&E%I%O%UuEuHI SIGNuIvIuOvOuWAwAvEvIwIvOwOtEuASTERN WuNtFuAvAwIuEuI
  vIvNAL ACUTEzBOTTOM HALF RINGzDOUBLE ACUTE,SHORT VERTICAL STROKES$WN TACKzGRAVEzMIDDLE DOTzPLUS
  zRAISED DOT!IGHT HALF RING$NGzSHORT HORIZONTAL STROKE!MALL RINGzTOP HALF RINGuOvOuULL STOPuWAA
  tGLOTTAL STOPtHKuYPHENtIuIuNtKuAvAwIvYuEuIvIuOvOuWvAwAwYvEvIwIvOwOtLuAvAwIvYuEuHvAwAvIwIvOwOuIvI
  uOvOuWAwAvEvIwIvOwOtMuAvAwIvYuEvDIAL L!RuHuIvIuOvOwSE-CREE SKuWAwAvEvIwIvOwOtNu-CREE THE%I&IuAvA
  wIvSKAPI CWAA$KWAA$MWAA$NWAA$S-W%CWA%KW*A%PWA%TWA%WAA$TWAA$WAA%OO$YWAAvTTILIK HA*A&I*I&O*O%SHRA
  ,A+I,I+O,OvYuEuGvAwAxIwIvIwIvOwOuHuIvIuNGwAxAwIxIwOxOuOvOvYuUNAVIK H%A&A%E%I&I%O&OyUT HuWAwAvEvI
  wIvOwOtOuJIBWAY C$K$M$N%WI*I&O*O$P$S%H$TuNuOuYtPuAvAwIvYuEuIvIuOvOvYuWAwAvEvIwIvOwOwYtQuAvAwIvI
  uIvIuOvOtRu-CREE RE$WEuAvAwIvYuEuIvIuOvOuWAwAvEEvIwIvOwOtSuAvAwIvYwISI HA$E$I$O%O!JI$U%U!M!SHA%E
  %I%O&O%WE!TH!YIuEuHvAwAwYvEvIwIvOwOwYvWAxAwEwIxIwOxOxYuIvIuOvOvUTH-SLAVEY KAH.EH.IH.OHvYuPAvEvI
  vOuWvAwAvEvIwIvOwOtTuAvAwIvYuEuHv-CREE TH&A*A&E&I*I&O*OvAwAvEvIwIvOwOvWAxAwEuIvIuLHAwEwIwOxOwWE
  uOvOuTAvEvHwAxAwEwIwOxOwWEvIvOuWAwAvEvIwIvOwOuYAvEvIvOtWAvAvYuEvST-CREE CWA,A+E+I,I+O,O&FWAA&KWA
  ,A+E+I,I+O,O&L*A+A*E*O+O*WA,A+E+I,I+O,O&M*WA,A+E+I,I+O,O&NWA,A+E&P*WA,A+E+I,I+O,O&R*A*E*I*O*WAA
  &SHWA.A,E,I.I,O.O*WA,A+E+I,I+O,O&THWAA*WA,A+E+I,I+O,O&WA+A*E*I+I*O+O&Y*WA,A+E+I,I+O,OxERN WuIvI
  uOvOwDS-CREE FINAL TH*TH,A,E,I,O,WA:A.EE.I:I.O:OtYu-CREE COO!KOO!LOO!MOO!NOO!OO!POO$WAA!SOO!TOO
  !W!YOOuAvAwIvYuEuIvIuOvOvYuWAwAvEvIwIvOwOdCELg CHARACTERhTAGgLATION XfRdDLEeYdNED FOODdOE
  cPITULUMdRICORNcR SLIDINGdD FILE BOXfINDEXk DIVIDERSdE OFeTf INSERTION POINTdIAN LETTER Ap2oB
  oC-18q39oDp2oEp2oGp2oIpIoKp2oLpDq2oMpBq2q3q4oNpDpGpNoOoPp2oQoRpRoSpHq2pSpTq2oTpTq2oUpUqUr2r3rUoX
  dONeUSEL HORSEdP STREAMEReENTRY SAWdRIAGE RETURNeOTcSTLEcTd FACEi WITH TEARS OF JOYoWRY SMILE
  cUCASIAN ALBANIAN CITATION MARKtLETTER ALT$OR!BET!CAR%YN$HA&T%I%OY$YAW&Y!DAT$YAN$ZAY%YAY!EB$YN
  !FAM!GHEYS$IM!HEYT!INYA$RB$WN!JAYN$HOX!KAR$IW!LAN$YIT!MAQ!NOWC!ON!PEN$IWR!QAR%Y!RAT!SEYK$HA&K%OY
  !TAS$IWR$YAY!VEYZ!XEYN!YAYD$OWD!ZARL$HA%ILdTION SIGNbCHbEDI SIGNeLLAcLTIC CROSScNT SIGN
  eRE LINE SYMBOLgLINE LOW LINElOVERLINEcRESbGJbHAINSeRdKMA AU MARKhDANDAiIGIT EIGHTnFIVEoOURnNINE
  nONEnSEVENoIXnTHREEoWOnZEROiOUBLE DANDAhLETTER AAoBAApHAAoCAApHAAoDAApDAAqHAApHAAoEoGAApHAAoHAA
  oIoJAApHAAoKAApHAAoLAApHAAoMAAoNAApGAApNAApYAAoPAApHAAoRAAoSAAoTAApHAApTAAqHAAoUoVAAoWAAoYAApYAA
  hMAAYYAAhO MARKhQUESTION MARKhSECTION MARKiIGN ANUSVARAmCANDRABINDUmVISARGAhVIRAMAiOWEL SIGN AtA
  tItUsEtIsItIsOtIsUtUdM CONSONANT SIGN FINAL H!M!NGuLAuRAuWAuYAfDIGIT EIGHTlFIVEmOURlNINElONE
  lSEVENmIXlTHREEmWOlZEROfLETTER AnImBAnBAnHAmCHAoHAmDAnDAnHAmEmFINAL CHsGsKsLsNtGsPsRsSSsTsYmGA
  nHAmHAmImJAnHAmKAnHAmLAmMAnUEmNAnGAoUEnHAoJAoUEnUEmOmPAnHAnPAmRAmSAnSAmTAnHAmUmVAmYA
  fPUNCTUATION DANDAsOUBLE DANDArSPIRALrTRIPLE DANDAfVOWEL SIGN AArIrUqEIqIrIqOrEqUrE
  dRACTER TABULATIONu SETvWITH JUSTIFICATIONlIEeT WITH DOWNWARDS TRENDlUPWARDS TRENDy AND YEN SIGN
  cECK MARKfER BOARDn FILLdERING MEGAPHONEeSE WEDGEdQUERED FLAGdROKEE LETTER AqDArErIrLArOrUrVqE
  qGArErIrOrUrVqHArErIrNArOrUrVqIqKAqLArErIrOrUrVqMArErIrOrUrVqNAsHrErIrOrUrVqOqQUAsEsIsOsUsVqSrA
  rErIrOrUrVqTArErIrLAsEsIsOsUsVrSAsEsIsOsUsVqUqVqWArErIrOrUrVqYArErIrOrUrVjSMALL LETTER AwDAxExI
  xLAxOxUxVwEwGAxExIxOxUxVwHAxExIxNAxOxUxVwIwKAwLAxExIxOxUxVwMAxExIxOxUxVwNAyHxExIxOxUxVwOwQUAyEyI
  yOyUyVwSxAxExIxOxUxVwTAxExIxLAyEyIyOyUyVxSAyEyIyOyUyVwUwVwWAxExIxOxUxVwYAxExIxOxUxVeRIES
  fY BLOSSOMdSTNUTcI RHOdCKENdLDfREN CROSSINGdPMUNKdRONcOCOLATE BARdPSTICKSdRASMIAN LETTER ALEPH
  tYINsBETHsCURLED WAWsDALETHsGIMELsHEuTHsKAPHsLAMEDHsMEMsNUNsPEsRESHsSAMEKHtHINtMALL ALEPHsTAW
  sWAWsYODHsZAYINlNUMBER FOURsONEv HUNDREDsTENtHREEtWENTYuOcRISTMAS TREEcURCHbINEMA
  cRCLE DIVIDED BY HORIZONTAL BAR AND TOP HALF DIVIDED BY VERTICAL BAR
  hWITH ALL BUT UPPER LEFT QUADRANT BLACKmHORIZONTAL BARmLEFT HALF BLACKnOWER HALF BLACK
  mRIGHT HALF BLACKmSMALL CIRCLE TO THE RIGHTnUPERIMPOSED XmTWO HORIZONTAL STROKES TO THE RIGHT
  mUPPER HALF BLACKsRIGHT QUADRANT BLACKmVERTICAL FILLgD ANTICLOCKWISE ARROW
  v-ROTATED DIVISION SIGNjSTERISK OPERATORiBOLD XjULLETiC WITH OVERLAID BACKSLASHjCjDjROSS FORMEE
  u WITH FOUR DOTS!TWO DOTSoPOMMEEnING LANESiDASHjIGIT EIGHToFIVEpOURoNINEoONEoSEVENpIXoTHREEpWO
  oZEROkVISION SIGNsLASHjOLLAR SIGN WITH OVERLAID BACKSLASHkT OPERATORiEQUALSiGREATER-THAN
  iHANGUL CHIEUCHw AqIEUCu ApHIEUHu ApIEUNGu AvUpKHIEUKHw AqIYEOKv ApMIEUMu ApNIEUNu ApPHIEUPHw A
  qIEUPu ApRIEULu ApSIOSt ApTHIEUTHw AqIKEUTv AjEAVY WHITE RIGHTWARDS ARROW
  jORIZONTAL BAR WITH NOTCHjUMAN FIGUREiIDEOGRAPH ACCEPTtDVANTAGEtLLIANCEtTTENTIONsCENTRE
  tONGRATULATIONuPYuRRECTsEARTHtIGHTtNTERPRISEtXCELLENTsFEMALEtINANCIALuREuVEtOURsHAVEtIGHsITEM
  sKINDERGARTENtOTOsLABORtEFTtOWsMALEtEDICINEuTALtOONsNAMEtIGHTuNEsONEsPRINTsQUESTIONsRELIGION
  uSOURCEvTtIGHTsSCHOOLtECRETuVENtIXtOCIETYtPECIALtTOCKuUDYtUITABLEuNuPERVISEsTENtHREEtWOsWATER
  tOODjNFORMATION SOURCEjTALIC LATIN CAPITAL LETTER C<RiKATAKANA ArErHAsEsIsOsUrIrKAsEsIsOsUrMAsE
  sIsOsUrNAsEsIsOsUrOrRAsEsIsOsUrSAsEsIsOsUrTAsEsIsOsUrUrWAsEsIsOrYAsOsUjOREAN CHARACTER CHAMKO
  zJUEUIiLATIN CAPITAL LETTER A&B&C&D&E&F&G&H&I&J&K&L&M&N&O&P&Q&R&S&T&U&V&W&X&Y&ZoSMALL LETTER A$B
  $C$D$E$F$G$H$I$J$K$L$M$N$O$P$Q$R$S$T$U$V$W$X$Y$ZjESS-THANiMINUS
  jULTIPLICATION SIGN WITH CIRCUMFLEX ACCENTiNUMBER EIGHTEENuY ON BLACK SQUAREqLEVENpFIFTEENtY
  u ON BLACK SQUAREqORTYu EIGHTvFIVEwOURvNINEvON BLACK SQUARExEvSEVENwIXvTHREEwWOrURTEENpNINETEEN
  pSEVENTEENvY ON BLACK SQUAREqIXTEENtY ON BLACK SQUAREpTENs ON BLACK SQUAREqHIRTEENuYv EIGHTwFIVE
  xOURwNINEwON BLACK SQUAREyEwSEVENxIXwTHREExWOqWELVEsNTYv EIGHTwFIVExOURwNINEwON BLACK SQUAREyE
  wSEVENxIXwTHREExWOiOPEN CENTRE EIGHT POINTED STARiPARALLELjERPENDICULARjLUSjOSTAL MARK
  iREVERSE SOLIDUSjING OPERATORiSQUAREiTIMESjRIANGLEq DOWNiVERTICAL BARiWHITE BULLEToSTARjZiX
  iZERO WITH SLASHeULATION FUNCTIONfMFLEX ACCENTfS TENTcTYSCAPEj AT DUSK
  bJK COMPATIBILITY IDEOGRAPH-2F800,1,2,3,4,5,6,7,8,9,A,B,C,D,E,F+10,1,2,3,4,5,6,7,8,9,A,B,C,D,E,F
  +20,1,2,3,4,5,6,7,8,9,A,B,C,D,E,F+30,1,2,3,4,5,6,7,8,9,A,B,C,D,E,F+40,1,2,3,4,5,6,7,8,9,A,B,C,D
  ,E,F+50,1,2,3,4,5,6,7,8,9,A,B,C,D,E,F+60,1,2,3,4,5,6,7,8,9,A,B,C,D,E,F+70,1,2,3,4,5,6,7,8,9,A,B
  ,C,D,E,F+80,1,2,3,4,5,6,7,8,9,A,B,C,D,E,F+90,1,2,3,4,5,6,7,8,9,A,B,C,D,E,F+A0,1,2,3,4,5,6,7,8,9
  ,A,B,C,D,E,F+B0,1,2,3,4,5,6,7,8,9,A,B,C,D,E,F+C0,1,2,3,4,5,6,7,8,9,A,B,C,D,E,F+D0,1,2,3,4,5,6,7
  ,8,9,A,B,C,D,E,F+E0,1,2,3,4,5,6,7,8,9,A,B,C,D,E,F+F0,1,2,3,4,5,6,7,8,9,A,B,C,D,E,F*900,1,2,3,4,5
  ,6,7,8,9,A,B,C,D,E,F+10,1,2,3,4,5,6,7,8,9,A,B,C,D,E,F+20,1,2,3,4,5,6,7,8,9,A,B,C,D,E,F+30,1,2,3
  ,4,5,6,7,8,9,A,B,C,D,E,F+40,1,2,3,4,5,6,7,8,9,A,B,C,D,E,F+50,1,2,3,4,5,6,7,8,9,A,B,C,D,E,F+60,1
  ,2,3,4,5,6,7,8,9,A,B,C,D,E,F+70,1,2,3,4,5,6,7,8,9,A,B,C,D,E,F+80,1,2,3,4,5,6,7,8,9,A,B,C,D,E,F
  +90,1,2,3,4,5,6,7,8,9,A,B,C,D,E,F+A0,1,2,3,4,5,6,7,8,9,A,B,C,D,E,F+B0,1,2,3,4,5,6,7,8,9,A,B,C,D
  ,E,F+C0,1,2,3,4,5,6,7,8,9,A,B,C,D,E,F+D0,1,2,3,4,5,6,7,8,9,A,B,C,D,E,F+E0,1,2,3,4,5,6,7,8,9,A,B
  ,C,D,E,F+F0,1,2,3,4,5,6,7,8,9,A,B,C,D,E,F*A00,1,2,3,4,5,6,7,8,9,A,B,C,D,E,F+10,1,2,3,4,5,6,7,8,9
  ,A,B,C,D%F900+1+2+3+4+5+6+7+8+9+A+B+C+D+E+F*10+1+2+3+4+5+6+7+8+9+A+B+C+D+E+F*20+1+2+3+4+5+6+7+8
  +9+A+B+C+D+E+F*30+1+2+3+4+5+6+7+8+9+A+B+C+D+E+F*40+1+2+3+4+5+6+7+8+9+A+B+C+D+E+F*50+1+2+3+4+5+6
  +7+8+9+A+B+C+D+E+F*60+1+2+3+4+5+6+7+8+9+A+B+C+D+E+F*70+1+2+3+4+5+6+7+8+9+A+B+C+D+E+F*80+1+2+3+4
  +5+6+7+8+9+A+B+C+D+E+F*90+1+2+3+4+5+6+7+8+9+A+B+C+D+E+F*A0+1+2+3+4+5+6+7+8+9+A+B+C+D+E+F*B0+1+2
  +3+4+5+6+7+8+9+A+B+C+D+E+F*C0+1+2+3+4+5+6+7+8+9+A+B+C+D+E+F*D0+1+2+3+4+5+6+7+8+9+A+B+C+D+E+F*E0
  +1+2+3+4+5+6+7+8+9+A+B+C+D+E+F*F0+1+2+3+4+5+6+7+8+9+A+B+C+D+E+F&A00+1+2+3+4+5+6+7+8+9+A+B+C+D+E
  +F*10+1+2+3+4+5+6+7+8+9+A+B+C+D+E+F*20+1+2+3+4+5+6+7+8+9+A+B+C+D+E+F*30+1+2+3+4+5+6+7+8+9+A+B+C
  +D+E+F*40+1+2+3+4+5+6+7+8+9+A+B+C+D+E+F*50+1+2+3+4+5+6+7+8+9+A+B+C+D+E+F*60+1+2+3+4+5+6+7+8+9+A
  +B+C+D*70+1+2+3+4+5+6+7+8+9+A+B+C+D+E+F*80+1+2+3+4+5+6+7+8+9+A+B+C+D+E+F*90+1+2+3+4+5+6+7+8+9+A
  +B+C+D+E+F*A0+1+2+3+4+5+6+7+8+9+A+B+C+D+E+F*B0+1+2+3+4+5+6+7+8+9+A+B+C+D+E+F*C0+1+2+3+4+5+6+7+8
  +9+A+B+C+D+E+F*D0+1+2+3+4+5+6+7+8+9eRADICAL BAMBOOnLUEnOLT OF CLOTHoNEoXnRUSH ONEsTWO
  mC-SIMPLIFIED BIRDzCARTzDRAGONzEAT!VENzFISH!LY!ROGzGATE!OLDzHORSEzLEAF!ONGzSALT!EE!HELL!ILK
  !PEECHzTANNED LEATHER!OOTH!URTLEzWINDnHOKEnITYoVILIANnLIFFoOTHESnOWmDEATHnIVINATIONnOGmEAT ONE
  qTHREErWOnWEnYEmFIREnOOTmGHOSTnRASS ONEsTHREEtWOmHANDnEADpRT ONEsTWOnORNmJ-SIMPLIFIED DRAGON
  zEVENzTOOTH!URTLEnADEmKNIFE ONEsTWOmLAME FOURrONErTHREEsWOnONG ONErTWOmMEAToSHnOONoRTARoTHER
  oUND ONEsTWOmNET FOURqONEqTHREErWOmOLDmPAW ONEqTWOnERSONmRAINoMoPnEPEATmSEALoCOND ONEtTHREEuWO
  nHEEPnILKoMPLIFIED HALF TREE TRUNKyORNxWALKyHEATxYELLOWnMALL ONEsTWOnNAKEoOUT ONEsTWOnPIRIT ONE
  tTWOnUNmTABLEnHREADnIGERnURTLEmWALK ONErTWOoTER ONEsTWOnEST ONErTWOeSTROKE BXGlDlHmGmPnWGmXWGmZ
  nGnTnWoGnZoPoZpGlNlPmDmGmZlQlSmGmPmTmWnGnZmZnWGnZlTmNlWGlXGbLAMSHELL MOBILE PHONEdPPER BOARD
  fING HANDS SIGNdSSICAL BUILDINGcEAR SCREEN SYMBOLcINKING BEER MUGSjGLASSESdPBOARD
  cOCK FACE EIGHT OCLOCKq-THIRTYmLEVEN OCLOCKr-THIRTYlFIVE OCLOCKp-THIRTYmOUR OCLOCKp-THIRTY
  lNINE OCLOCKp-THIRTYlONE OCLOCKo-THIRTYlSEVEN OCLOCKq-THIRTYmIX OCLOCKo-THIRTYlTEN OCLOCK
  o-THIRTYmHREE OCLOCKq-THIRTYmWELVE OCLOCKr-THIRTYnO OCLOCKo-THIRTYfWISE CLOSED CIRCLE ARROW
  lONTOUR INTEGRALkDOWNWARDS AND UPWARDS OPEN CIRCLE ARROWSkGAPPED CIRCLE ARROWkINTEGRAL
  kOPEN CIRCLE ARROWkRIGHT AND LEFT SEMICIRCLE ARROWSpWARDS AND LEFTWARDS OPEN CIRCLE ARROWS
  ~RCLE ARROWS WITH CIRCLED ONE OVERLAYkTOP SEMICIRCLE ARROWlRIANGLE-HEADED OPEN CIRCLE ARROW
  dSE UPfD BOOKhINTERSECTION WITH SERIFShLOCK WITH KEYhMAILBOX WITH LOWERED FLAGuRAISED FLAG
  hSUBSETn OR EQUAL TOjPERSETp OR EQUAL TOhUMBRELLAiNION WITH SERIFSy AND SMASH PRODUCTdUD
  f WITH LIGHTNINGlRAINlSNOWlTORNADOdWN FACEbOATcCKROACHeTAIL GLASSdONUTcFFINcINcLLISION SYMBOLdON
  f EQUALSgSIGNcMBINING ACUTE ACCENTw BELOWqTONE MARKp-GRAVE-ACUTEqMACRONlLMOST EQUAL TO ABOVE
  !BELOWlNNUITY SYMBOLmTICLOCKWISE ARROW ABOVEyRING OVERLAYlSTERISK ABOVEtBELOWkBINDU BELOWlREVE
  p BELOWp-MACRONmIDGE ABOVErBELOWkCANDRABINDUmRONp BELOWlEDILLAlIRCUMFLEX ACCENT$ BELOW
  lLOCKWISE ARROW ABOVEuRING OVERLAYlOMMA ABOVEv RIGHTqBELOWmNJOINING MACRON$ BELOW
  lYRILLIC DASIA PNEUMATAtHUNDRED MILLIONS SIGN$THOUSANDS SIGNtKAVYKAtLETTER A!BE$IG YUS!CHE!DE
  $JERV!EF$L$M$N$R$S%-TE!FITA!GHE!HA%RD SIGN!I$E$OTIFIED A;BIG YUS;E!KA!LITTLE YUS!MONOGRAPH UK!O
  $MEGA!PE!SHA%CHA$OFT SIGN!TE$SE!U$KRAINIAN IE!VE!YAT$ERU$I$U!ZE$HEtMILLIONS SIGNtPALATALIZATION
  vYEROKuOKRYTIEuSILI PNEUMATAtTEN MILLIONS SIGNuHOUSAND MILLIONS SIGNuITLOy LEFT HALFzRIGHT HALF
  tVZMETkDELETION MARKmVANAGARI DIGIT EIGHT$FIVE%OUR$NINE$ONE$SEVEN%IX$THREE%WO$ZEROvLETTER A%KA
  %NA%PA%RA%U%VIvSIGN AVAGRAHAlIAERESISt BELOWt-RINGlOT ABOVEt LEFTuRIGHToBELOWt LEFT
  nTED ACUTE ACCENTrGRAVE ACCENTmUBLE ACUTE ACCENTrBREVEw BELOWrCIRCUMFLEX ABOVErGRAVE ACCENT
  rINVERTED BREVE+ BELOWrLOW LINErMACRONx BELOWrOPEN MARK BELOWsVERLINErPARENTHESES ABOVE
  sLUS SIGN ABOVE$BELOWrRIGHTWARDS ARROW BELOWtNG BELOWrTILDEw LEFT HALFxRIGHT HALF
  rVERTICAL LINE ABOVE+BELOW!STROKE OVERLAYqD CIRCUMFLEX ACCENTmWN TACK BELOWoWARDS ARROW
  kENCLOSING CIRCLE! BACKSLASHuDIAMONDuKEYCAPuSCREENvQUAREuUPWARD POINTING TRIANGLE
  lQUALS SIGN BELOWkFERMATAlOUR DOTS ABOVEkGLAGOLITIC LETTER AZU%BIG YUS&UKY%CHRIVI%DJERVI&OBRO
  %FITA&RITU%GLAGOLI%HERU%I&NITIAL IZHE&OTATED BIG YUS<SMALL YUS&ZHE%KAKO%LJUDIJE%MYSLITE%NASHI
  %ONU%POKOJI%RITSI%SHA*TA&LOVO&MALL YUS%TSI&VRIDO%UKU%VEDE%YATI&ERI+U*STU&O&U%ZEMLJA&HIVETE
  lRANTHA DIGIT FIVEzOURyONEySIXyTHREEzWOyZEROsLETTER AzKAzNAzPAzVInPHEME JOINERnVE ACCENTw BELOW
  qTONE MARKp-ACUTE-GRAVEqMACRONmEEK DIALYTIKA TONOSqKORONISqMUSICAL PENTASEMEyTETRASEMEzRISEME
  qPERISPOMENIqYPOGEGRAMMENIkHOMOTHETIC ABOVEmOK ABOVEmRNkINFINITYmVERTED BREVEy BELOWvIDGE BELOW
  tDOUBLE ARCH ABOVE+BELOWlS BELOWkKATAKANA-HIRAGANA SEMI-VOICED SOUND MARK%VOICED SOUND MARK
  mVYKA ABOVE LEFTxRIGHTkLATIN LETTER SMALL CAPITAL G=L=M=N=RqSMALL LETTER A* WITH DIAERESIS*E
  *LPHA*O*V&B*ETA&C* CEDILLA&D&E*SH*TH&F*LATTENED OPEN A ABOVE&G&H&I*NSULAR D=G=R=T&K&L
  * WITH DOUBLE MIDDLE TILDE*ONG S&M&N&O* WITH DIAERESIS<LIGHT CENTRALIZATION STROKE&P&R* BELOW
  +ROTUNDA&S*CHWA&T*URNED W BELOW&U* WITH DIAERESIS<LIGHT CENTRALIZATION STROKE&V&W* BELOW&X&Z
  lEFT ANGLE ABOVEvBELOWqRROW ABOVEvBELOWuHEAD ABOVEzBELOWpHALF RING ABOVEzBELOWrRPOON ABOVE
  pPARENTHESIS ABOVE LEFT$BELOW LEFTpRIGHT ARROW ABOVE$BELOWpTACK BELOWoWARDS ARROW OVERLAY
  uHARPOON WITH BARB DOWNWARDSlIGATURE LEFT HALF% BELOWtRIGHT HALF& BELOW
  nHT CENTRALIZATION STROKE BELOWlONG DOUBLE SOLIDUS OVERLAYpSOLIDUS OVERLAYqTROKE OVERLAY
  pVERTICAL LINE OVERLAYmW LINEkMACRONq BELOWrLEFT HALF! BELOWrRIGHT HALF$ BELOWq-ACUTErBREVE
  rGRAVElINUS SIGN BELOWkNOT TILDE ABOVElUMBER SIGN ABOVEkOGONEKq ABOVElLD PERMIC LETTER AN%DOI
  %NENOE%SII%ZATAlPEN MARK BELOWlVERLINEkPALATALIZED HOOK BELOWmRENTHESES ABOVEwBELOWwOVERLAY
  lLUS SIGN ABOVEuBELOWkRETROFLEX HOOK BELOWmVERSE SOLIDUS OVERLAYrD COMMA ABOVElIGHT ARROW ABOVE
  wBELOWvHEAD ABOVE$ND DOWN ARROWHEAD BELOW*UP ARROWHEAD BELOW!BELOWqHALF RING ABOVE!BELOW
  sRPOON ABOVEqPARENTHESIS ABOVE RIGHT%BELOW RIGHTqTACK BELOWpWARDS HARPOON WITH BARB DOWNWARDS
  mNG ABOVEpBELOWpOVERLAYkSEAGULL BELOWlHORT SOLIDUS OVERLAYrTROKE OVERLAYqVERTICAL LINE OVERLAY
  lNAKE BELOWlQUARE BELOWsRACKETS ABOVElTRONG CENTRALIZATION STROKE BELOWlUSPENSION MARK
  kTHREE DOTS ABOVElILDEp BELOWqLEFT HALF BELOWqOVERLAYqRIGHT HALF BELOWlRIPLE ACUTE ACCENTrDOT
  rUNDERDOTlURNED COMMA ABOVEkUP TACK ABOVEsBELOWmWARDS ARROW BELOWlR ABOVElS ABOVE
  kVERTICAL LINE ABOVEyBELOWtTILDEkWIDE BRIDGE ABOVEpINVERTED BRIDGE BELOWmGGLY LINE BELOWkX ABOVE
  mBELOWl-X BELOWkZIGZAG ABOVErBELOWdETdMAeERCIAL ATlMINUS SIGNdPASSeLEMENTeOSITION SYMBOLeRESSION
  cNFETTI BALLeOUNDED FACEeUSED FACEdGRUENT WITH DOT ABOVEdICAL TAPERdJUNCTIONdSTRUCTION SIGN
  nWORKERdTAINS AS MEMBERmNORMAL SUBGROUP$ OR EQUAL TOjWITH LONG HORIZONTAL STROKEoOVERBAR
  oVERTICAL BAR AT END OF HORIZONTAL STROKEeINUOUS UNDERLINE SYMBOLeOUR INTEGRALeROL KNOBS
  iSEQUENCE INTRODUCERdVENIENCE STOREcOKED RICEeIEfNGcPTIC CAPITAL LETTER AKHMIMIC KHEIxLFA
  wBOHAIRIC KHEIwCROSSED SHEIyYPTOGRAMMIC EIE<GANGIA<NI<SHEIwDALDAxEIxIALECT-P ALEF,HORI,KAPA,NI
  wEIEwFEIxIwGAMMAyNGIAwHATExORIwIAUDAwKAPAxHEIyIxSIwL-SHAPED HAxAULAwMIwNIwOxLD COPTIC AIN.DJA
  .ESH.GANGIA.HA;T:EI:ORI.OOU.SHEI;IMA!NUBIAN NGI:YI.SHIMA.WAUxOUwPIxSIwROwSAMPIxHEIyIMAxIMAxOU
  wTAUxHETHEwUAwVIDAwZATAiOMBINING NI ABOVErSPIRITUS ASPER!LENIShEPACT DIGIT EIGHTtFIVEuOURtNINE
  tONEtSEVENuIXtTHREEuWOnNUMBER EIGHT HUNDREDzYuFIFTYwVE HUNDREDvORTYwUR HUNDREDuNINE HUNDREDyTY
  uONE HUNDREDuSEVEN HUNDREDzTYvIX HUNDREDxTYuTENvHIRTYwREE HUNDREDvWENTYwO HUNDREDnTHOUSANDS MARK
  hFRACTION ONE HALFiULL STOPhMORPHOLOGICAL DIVIDERhOLD NUBIAN DIRECT QUESTION MARKsFULL STOP
  sINDIRECT QUESTION MARKsVERSE DIVIDERhSMALL LETTER AKHMIMIC KHEIvLFAuBOHAIRIC KHEIuCROSSED SHEI
  wYPTOGRAMMIC EIE:GANGIA:NI:SHEIuDALDAvEIvIALECT-P ALEF*HORI*KAPA*NIuEIEuFEIvIuGAMMAwNGIAuHATE
  vORIuIAUDAuKAPAvHEIwIvSIuL-SHAPED HAvAULAuMIuNIuOvLD COPTIC AIN+DJA+ESH+GANGIA+HA.T,EI,ORI+OOU
  +SHEI.IMAyNUBIAN NGI,YI+SHIMA+WAUvOUuPIvSIuROuSAMPIvHEIwIMAvIMAvOUuTAUvHETHEuUAuVIDAuZATA
  iYMBOL KAIpHI ROoMI ROoPI ROoSHIMA SIMApTAUROSoTAU ROdYLEFT SYMBOLeRIGHT SIGNcRAL
  dNISH VERSE DIVIDERdRESPONDS TOcUCH AND LAMPdNTERBOREhSINKfING ROD TENS DIGIT EIGHTyFIVEzOUR
  yNINEyONEySEVENzIXyTHREEzWOnUNIT DIGIT EIGHTyFIVEzOURyNINEyONEySEVENzIXyTHREEzWOdPLE WITH HEART
  cWd FACEbRcABcEDIT CARDdSCENT MOONcICKETh BAT AND BALLcOCODILEdISSANTdSS MARKgOF JERUSALEM
  jLORRAINEgPATTY WITH LEFT CROSSBARrRIGHT CROSSBARhOMMEEm WITH HALF-CIRCLE BELOWfED FLAGS
  iNEGATIVE SQUARED LATIN CAPITAL LETTER PiSWORDSfING LANESdWNcUTCHdZEIRO SIGNcYING CAT FACEhFACE
  dSTAL BALLbSIbUBE ROOTcCUMBERcNEIFORM NUMERIC SIGN EIGHT ASH&DISH&GESH2&SHAR2&U* VARIANT FORM
  &VARIANT FORM USSU~USSU3yLAMITE FIFTY,ORTY+ONE THIRD+TWO THIRDSxFIVE ASH+ TENU%BAN2
  , VARIANT FORM&URU%DISH%GESH2,U%SHAR2,U&IXTHS DISH%U& VARIANT FORMyOUR ASH+ TENU%BAN2
  , VARIANT FORM&URU%DISH%GESH2,U%SHAR2,U%U& VARIANT FORM%VARIANT FORM LIMMU~IMMU A~IMMU B~IMMU4
  xNIGIDAESH&MINzNE ASH%DISH%GESH2%SHAR2%U& VARIANT FORM%VARIANT FORM ILIMMU~LIMMU A~LIMMU3~LIMMU4
  xOLD ASSYRIAN ONE QUARTER^SIXTHyNE BAN2%URU$EIGHTH ASH%SHE3$GESH2+U$HALF GUR$QUARTER ASH;GUR
  $SHARU$THIRD DISH.VARIANT FORM AxSEVEN ASH&DISH&GESH2&SHAR2&U* VARIANT FORM&VARIANT FORM IMIN A
  ~IMIN B~IMIN3yHAR2 TIMES GAL PLUS DISH~S MINyIX ASH* TENU$DISH$GESH2$SHAR2$U% VARIANT FORM
  $VARIANT FORM ASH9xTHREE ASH, TENU&BAN2*URU. VARIANT FORM&DISH&GESH2.U&SHAR2: VARIANT FORM.U
  : VARIANT FORM&VARIANT FORM ESH16~ESH21yWO ASH* TENU$BAN2%URU$ESHE3$GESH2+U$SHAR2+U$THIRDS DISH
  :VARIANT FORM AkPUNCTUATION SIGN DIAGONAL COLON<QUADCOLON<TRICOLON$OLD ASSYRIAN WORD DIVIDER
  $VERTICAL COLONkSIGN Aq TIMES AxBADxGAN2 TENUxHAxIGIxLAGAR GUNUxMUSHxSAGq2qBr GUNUsTIMES ASH2
  yDUN3 GUNUyGAL!N2 TENUyHAyIGI GUNUzMINyLAGAByNUN$ TENUySHESH!U2yU PLUS U PLUS Ur2s TIMES AzBALAG
  zGAN2 TENUzME PLUS ENzSHA3zTAK4qDr TIMES ESH2qKr TIMES ERIN2ySHITA PLUS GISHqLr TIMES ALyDIM2
  yGISHyHAyKAD3zIySHEyUSHrANrEPHqMARt TIMES KUG!SHEqNr OVER ANsPLUS NAGA OPPOSING AN PLUS NAGA
  %SQUAREDsTHREE TIMESrSHEqPINqRADt TIMES KURrKABqSAL2rHs KABA TENUtOVER ASH OVER ASH
  < CROSSING ASH OVER ASH OVER ASH%TUG2 OVER TUG2 TUG2 OVER TUG2 PAPtZIDA TENUs2sGABpBArD
  s TIMES DISH TENUrG3rHAR2v TIMES AB2%NI%ZArLs OVER BALsAGrRsA2qIr TIMES AyGARyIGI GUNUqU
  r CROSSING BUsOVER BU AB!TIMES NA2!UNrLUGu OVER BULUGrRs2pDAr TIMES TAK4rG
  s KISIM5 TIMES A PLUS MASH.MAR,BALAG.I,GA: PLUS MASH.I:R2.UD,HA,IR: PLUS LU,KAK,LA.U: PLUS MASH2
  :M,NE,PAP PLUS PAP,SI,TAK4,U2 PLUS GIR2^MASH.SHtTIMES KURs3rMrRsA3t4qIrBrMs TIMES IGIzSHEzU U U
  s2t TIMES UDrNs KASKAL U GUNU DISHrSHt PLUS SHUqUr GUNUsOVER DUsSHESHIGrBs TIMES ESH2zSHEs2rG
  s TIMES ANSHE!SH% AT LEFTzDIN!UNzERIN2zGA!I$R2 GUNU$SHzHA!IzIGI GUNUzKASKAL!UR$SHU2+ PLUS KASKAL
  zLAK-020$M% TIMES KUR!UH PLUS GISHzMASH!ES!IzNIzPIzSHE!I GUNUsUDrHrNs3t GUNUy GUNUs4rR2pE
  q OVER E NUN OVER NUNrTIMES PAPq2r TIMES A PLUS HA PLUS DAyGARyKURyMIyPAPySALzHEyUqDINqGIRqLqN
  r CROSSING ENsOPPOSING ENsSQUAREDsTIMES GAN2% TENUyMEqRENrIN2u XqSH2t CROSSING ESH2qZEN
  t SHESHIG TIMES ASH:HI:IGI GUNU:LA<L:ME<S:SUuTIMES A$ PLUS LAL< TIMES LAL$N!BAD!DUN3 GUNU; GUNU
  !GUD!HA% GUNU!IGI GUNU!KASKAL, SQUARED$U3!LA%L TIMES LAL$I$U!SHE$U!U2$DpGAr GUNUr2s OVER GA2
  tTIMES A PLUS DA PLUS HA,HA,IGI!B2 TENU PLUS TAB!N$ PLUS KAK PLUS A!SH%2& PLUS GALzBAD$HAR2
  $R PLUS RA!UR% PLUS RAzDA!I$M GUNU&TIMES SHE!UB$G TIMES IGI GUNU;KASKALzEL$ PLUS LA!N
  $ TIMES GAN2 TENU!RENzGA$N2 TENU$R% PLUS DI:NE!I$4% PLUS A$R2 PLUS SUzHA PLUS A.LU PLUS ESH2$L
  % PLUS LA!I PLUS LI!UB2zIGI GUNU!SH PLUS HU PLUS ASHzKAK$SKAL!ID% PLUS LAL!U3 PLUS AN
  $SHU2 PLUS KASKALzLA$M% TIMES KUR!UHzME PLUS EN!I!USHzNE$ PLUS E2.GI!UN% OVER NUNzPAzSAL$R!HE
  % PLUS TUR$ID%M!UMzTAK4zU!D$ PLUS DUzZIZ2rBAt CROSSING GABAuROTATED NINETY DEGREESrD
  s OVER GAD GAR OVER GARrLs GAD OVER GAD GAR OVER GARsAMrMrNs2t CROSSING GAN2uOVER GAN2uTENUrRs3
  rSHANqE22rSHTINw TIMES KUR&UqIr CROSSING GIsTIMES EyUr4s CROSSING GI4tOVER GI4rDIMrGrR2t GUNUs3
  t TIMES A PLUS IGI!GAN2 TENU!IGI!LU PLUS IGI!PArSALsHt CROSSING GISHuTENUvIMES BAD
  !GISH CROSSING GISH!TAK4qUr CROSSING GUr2s GUNUtTIMES IGI GUNUzKAK% TIMES IGI GUNUzNUN
  zSAL PLUS TUG2rDs OVER GUD LUGALtPLUS GISH TIMES TAK4tTIMES A PLUS KURzKURrLrMs TIMES SHErRs7sUN
  tSHpHAr GUNUsTENUw GUNUrLqIr TIMES ASH$ OVER HI TIMES ASH$2yBADyDISHyGADyKINyNUNySHEyUqUrB2
  t TIMES AN!HAL!KASKAL!LISH!UDrL2rSHpIq AqBqDIMt OVER IDIM BUR*SQUAREDqGrIs DIBtGUNU
  tOVER IGI SHIR OVER SHIR UD OVER UDtRIqLr TIMES GAN2 TENUr2qMr CROSSING IMsOPPOSING IMsSQUARED
  sTIMES TAK4rINqNqRqSHpKAr TIMES AzD! PLUS KU3zNSHEzSH2$3yBAD!LAG!RzIzUyERIN2zSH2yGA!L!N2 TENU!R
  $ PLUS SHA3 PLUS AzI!R2!SH% CROSSING GISH&PLUS SARzU!D!R7yHI TIMES ASH2yIGIzMyKA!KzI!DyLIzU!MyME
  ! PLUS DU,GI,TEzI! PLUS NUNUZyNEzUNyPAzIyRUySA!RzHA!E!ID!U$LzIGzUHURyTARzUyUz U Uz2zD
  zMUM TIMES PAzR!2zSHyZIr2s CROSSING KA2rBrD2s3s4s5t OVER KAD5rKs TIMES IGI GUNUrLs CROSSING KAL
  tTIMES BADrM2s4rP ELAMITErSKALv LAGAB TIMES U OVER LAGAB TIMES U
  wOVER KASKAL LAGAB TIMES U OVER LAGAB TIMES UqESH2qIr TIMES BADyUzDrDrNrSALsHsIM5v OVER KISIM5qU
  r OVER HI TIMES ASH2 KU OVER HI TIMES ASH2r3r4s VARIANT FORMr7rLs GUNUrNrRs OPPOSING KURrSHU2
  qWU318pLArGABu SQUAREDvTIMES A% PLUS DA PLUS HA:GAR:LAL%L%N%SH ZIDA TENU$BAD%I$DAR$EN$GA&R%I%UD
  * PLUS GUD$HA&L%I TIMES NUN$IGI GUNU%M& PLUS HA;LU$KI&N%U3&L* PLUS HI PLUS A$LAGAB%ISH%U&L$ME
  & PLUS EN%USH$NE$SHE PLUS SUM&ITA PLUS GISH PLUS ERIN2~ TENU&U2+ PLUS SHU2%UM$TAG&K4
  %E PLUS A PLUS SU PLUS NA$U% PLUS A:U PLUS U%2 PLUS ASH%D%SH$ZU OVER ZUtRu GUNU
  z OVER LAGAR GUNU SHEvTIMES SHE* PLUS SUMrHSHUrK-003u21v5u30u50v1u62u79 OVER LAK-079 GUNUu80
  v1 OVER LAK-081u92t130u42t210v9u20v5v8u38u65v6t343v7v8u83v4u90t441v9w TIMES GU&IGI&PAP PLUS LU3
  >PAP PLUS LU3&U2 PLUS BAu50v7u70u83u90v2v3v5t550t608u17w TIMES ASH&BAD&DUN3 GUNU GUNU&KU3&LA&TAR
  *E&U2*D*RUDAu36u48w TIMES DUB&GA&IGI, GUNU&NI&PAP PLUS PAP PLUS LU3&SHESH PLUS KI&UD*RUDAt724u49
  rLs TIMES LALrMs TIMES KUR% PLUS RUqIrLrMMU2rSHqUr TIMES BADr2s CROSSING LU2tGUNU TIMES ASH
  tOPPOSING LU2tSHESHIG! TIMES BADuQUAREDtTENUuIMES ALzBADzDISHzESH2& PLUS LAL*TENUzGAN2 TENUzHAL
  !I TIMES BADzIMzKAD2%3& PLUS ASH!IzLA PLUS ASH$GABzME PLUS ENzNE!UzPAP% PLUS PAP PLUS LU3zSHU
  !I PLUS ASH$K2 PLUS BUzTAK4!UG2r3rGALu OPPOSING LUGALwVER LUGALvSHESHIGrHrLrMs OVER LUM
  $ GAR OVER GARpMAr GUNUsTIMES TAK4r2rHrRrSHt2qErSsHqIr PLUS ZA7rNqUr OVER MUrGs GUNUrNSUBrRGU2
  rSHt CROSSING MUSHuOVER MUSH& TIMES A PLUS NA<GA<KAKuTIMES A!KUR!ZAt3u GUNUvTIMES A% PLUS DI$DI
  $ZApNAr2r4rGAt INVERTEDuOPPOSING NAGAuTIMES SHU TENUtRrMs NUTILLUs2qEr SHESHIGsTIMES AyUDqI
  r TIMES Er2rMs TIMES GAN2 TENU$R PLUS GAN2 TENUrNs9sDA2v TIMES AN&SH+ PLUS ASH%BAL%DIM GUNU%GI
  *SH&UD*L%HI%KESH2%LAK-050%MASH&E PLUS GAN2 TENU%NE&UN%PAP PLUS PAP%SHE+ PLUS A AN>SH^ PLUS ASH%U
  & PLUS U&2 PLUS ASH&RUDA&SHrSAGqUr11t OVER NU11 BUR OVER BURuROTATED NINETY DEGREESuTENUrN
  s CROSSING NUN+ LAGAR OVER LAGARtLAGAR TIMES GAR+MASH+SAL: OVER NUN LAGAR TIMES SAL+USHtOVER NUN
  tTENUsUZu AB2 TIMES ASHGAB+BI+DUG+GUD+IGI GUNU+KAD3+LA+NE+SILA3+U2vKISIM5 TIMES BI< UpPArDrNrP
  qESH2u ASTERISKqIr CROSSING PIsTIMES AzByBIzUyEyIzByUz2rR2sIGu OPPOSING PIRIGvTIMES KAL$UD$ZApRA
  rBqIqUpSArGs GUNUx TIMES HAtNUTILLUtOVER SAGtTIMES AzDU$BzENzHAzIGI GUNUzKAK!URzLUMzMIzNUNzSAL
  !HE AT LEFT$IDzTAB$K4zU2!B!M!R!SHrLs LAGAB TIMES ASH2rNGA2rRqHAs3t TIMES A!BAD!GISH!NE!SHU2!TUR
  !U$ PLUS As6t TENUsB6sR2rEs HUtOVER SHE$ GAD OVER GAD GAR OVER GAR%TAB OVER TAB GAR OVER GAR
  tPLUS HUB2yNAM2ySARsG9sNsSHu2uLAMrIDt TIMES A!IMsMt TIMES A!BAL$ULUG!DIN!GAR!IGI& GUNU!KUSHU2
  !LUL!MUG!SALsNIGsRt OVER SHIR BUR OVER BURuTENUsTArUs OVER INVERTED SHUs2t PLUS DUG TIMES NI
  zE2 TIMES ANsBURqIr GUNUsTIMES TAK4rGs4t OVER SIG4 SHU2rK2rLA3qUr OVER SUrDs2rHURrMsASHrRs9pTA
  r ASTERISKsGUNUsTIMES HIyMIrBs OVER TAB NI OVER NI DISH OVER DISHtSQUAREDrGs TIMES BIzGUDzSHE$U
  zTUG2zUDrK4t PLUS SAGrRqEr GUNUqIr TENUr2rLrRs OVER TIR$ GAD OVER GAD GAR OVER GARtTIMES TAK4qU
  rG2rKrMs TIMES GAN2 TENUzTHREE DISHrRs OVER TUR ZA OVER ZApUq GUDrOVER U PA OVER PA GAR OVER GAR
  ySUR OVER SURyU REVERSED OVER U REVERSEDrUs Uq2qBqDr GUNUsKUSHU2sSHESHIGz TIMES BADsTIMES BADyMI
  yU PLUS U PLUS U? GUNUrUGqMr TIMES LAGAByME! PLUS DAySHA3yUrBINrUMt TIMES KASKAL!PAqNr GUNUqR
  r CROSSING URsSHESHIGr2s INVERTEDtTIMES A PLUS HA,NA!LzHAzNUNzU2$ PLUS ASH.BI!Dr4rIs3rUs TIMES A
  !SHGABzBARzDARA3!UNzGA$L$N2 TENU$R!UzHAzIGI!M!SHzKIzLAK-668!U3$MzMINzPAzSHE!IG4zTUzU PLUS GUD!D
  !RUDAsDAu TIMES UqSHs TIMES AzKU$RzTAK4s2sUMXsXqTUKIqZ3s TIMES KASKALrUpZAr SQUARED TIMES KUR
  sTENUr7rGrMXqE2qIr OVER ZIr3rBs KABA TENUrGrZ2qUr OVER ZU PLUS SARr5s TIMES AzTHREE DISH TENU
  rBURrMcP ON BLACK SQUAREeWITH STRAWdCAKEdIDOcRLING STONEeY BRACKET EXTENSIONgLOGICAL ANDoORiOP
  dRENCY EXCHANGEjSIGNeY AND RICEdVED STEM PARAGRAPH SIGN ORNAMENTcSTARDeOMScT OF MEATbYCLONE
  cLINDRICITYcPRIOT SYLLABLE ArErIrJAsOrKAsEsIsOsUrLAsEsIsOsUrMAsEsIsOsUrNAsEsIsOsUrOrPAsEsIsOsU
  rRAsEsIsOsUrSAsEsIsOsUrTAsEsIsOsUrUrWAsEsIsOrXAsErZAsOeO-MINOAN SIGN CM001w2w4w5w6w7w8w9v10w1w2
  xBw3w5w7w9v21w3w4w5w6w7w8w9v30w3w4w5w6w7w8w9v40w1w4w6w7w9v50w1w2w3w4w5w6w8w9v60w1w2w3w4w6w7w8w9
  v70w1w2w3w4w5xBw6w8w9v80w1w2w3w4w5w6w7w8w9v90w1w2w4w5w6w7w8w9u100w1w2w3w4w5w7w8w9v10w2w4u301w2
  cRILLIC CAPITAL LETTER Az WITH BREVE+DIAERESISzBKHASIAN CHE= WITH DESCENDER:DZE:HAzLEUT KA
  yBARRED O, WITH DIAERESIS!SHKIR KAzEzIG YUS!NOCULAR OzLENDED YUSzROAD OMEGA
  zYELORUSSIAN-UKRAINIAN IyCCHEzHE$ WITH DESCENDER:IAERESIS.VERTICAL STROKEzLOSED LITTLE YUS
  zROSSED OyDCHEzEzJE$RVzOUBLE MONOCULAR O+OzWEzZE$LO!HE!WE!ZE$HEyEz WITH DIAERESISzFzL
  ! WITH DESCENDER,HOOK,MIDDLE HOOK,TAILzM! WITH TAILzN! WITH DESCENDER,HOOK,LEFT HOOK,MIDDLE HOOK
  ,TAILzR! WITH TICKzS! WITH DESCENDERyFITAyGHE$ WITH DESCENDER.MIDDLE HOOK.STROKE? AND HOOK
  .UPTURNzJEyHA! WITH DESCENDER,HOOK,STROKE!RD SIGNzWEyIz WITH DIAERESIS+GRAVE+MACRONzE
  ! WITH BREVE,GRAVEzO!TA$IFIED A.BIG YUS.CLOSED LITTLE YUS.E.LITTLE YUS.YATzZHITSA
  + WITH DOUBLE GRAVE ACCENTyJEyKA! WITH DESCENDER,HOOK,STROKE,VERTICAL STROKEzHAKASSIAN CHEzJE
  zOMI DE*JE*ZJE&LJE&NJE&SJE&TJE&ZJE!PPAzSIyLHAzITTLE YUSzJEyMONOCULAR O%GRAPH UKyNEUTRAL YERzJEyO
  z WITH DIAERESISzMEGA& WITH TITLOzTyPE! WITH DESCENDER,MIDDLE HOOKzSIyQAyREVERSED DZE.TSE.YU.ZE
  zHAzOUND OMEGAySCHWA& WITH DIAERESISzEMISOFT SIGNzHA!CHA!HA% WITH DESCENDER!ORT I+ WITH TAIL*U
  !WEzOFT DE&EL*M&SIGNzTRAIGHT U: WITH STROKEyTCHEzE! WITH DESCENDER,MIDDLE HOOKzSE!HE!SE!WEzWEyU
  z WITH DIAERESIS,OUBLE ACUTE+MACRONzK!RAINIAN IEyVEyWEyYA!E!TzERU% WITH BACK YER:DIAERESISzIzNzU
  yZE! WITH DESCENDER.IAERESIS!MLYAzHE$ WITH BREVE.DESCENDER:IAERESIS!WEsIGATURE A IE!EN GHE
  !TE TSEjKAVYKAjLETTER MULTIOCULAR OqPALOCHKAqSMALL CAPITAL ELjPAYEROKjSMALL LETTER Ax WITH BREVE
  &DIAERESISxBKHASIAN CHE; WITH DESCENDER,DZE,HAxLEUT KAwBARRED O* WITH DIAERESISySHKIR KAxE
  xIG YUSyNOCULAR OxLENDED YUSxROAD OMEGAxYELORUSSIAN-UKRAINIAN IwCCHExHEz WITH DESCENDER,IAERESIS
  +VERTICAL STROKExLOSED LITTLE YUSxROSSED OwDCHExExJEzRVxOUBLE MONOCULAR O&OxWExZEzLOyHEyWEyZEzHE
  wEx WITH DIAERESISxFxLy WITH DESCENDER*HOOK*MIDDLE HOOK*TAILxMy WITH TAILxNy WITH DESCENDER*HOOK
  *LEFT HOOK*MIDDLE HOOK*TAILxRy WITH TICKxSy WITH DESCENDERwFITAwGHEz WITH DESCENDER+MIDDLE HOOK
  +STROKE= AND HOOK+UPTURNxJEwHAy WITH DESCENDER*HOOK*STROKEyRD SIGNxWEwIx WITH DIAERESIS&GRAVE
  &MACRONxEy WITH BREVE*GRAVExOyTAzIFIED A+BIG YUS+CLOSED LITTLE YUS+E+LITTLE YUS+YATxZHITSA
  & WITH DOUBLE GRAVE ACCENTwJEwKAy WITH DESCENDER*HOOK*STROKE*VERTICAL STROKExHAKASSIAN CHExJE
  xOMI DE%JE%ZJE$LJE$NJE$SJE$TJE$ZJEyPPAxSIwLHAxITTLE YUSxJExONG-LEGGED DEwMONOCULAR O!GRAPH UK
  wNARROW OxEUTRAL YERxJEwOx WITH DIAERESISxMEGA$ WITH TITLOxTwPALOCHKAxEy WITH DESCENDER
  *MIDDLE HOOKxSIwQAwREVERSED DZE+TSE+YU+ZExHAxOUND OMEGA$ED VEwSCHWA$ WITH DIAERESISxEMISOFT SIGN
  xHAyCHAyHA! WITH DESCENDERyORT I& WITH TAIL%UyWExOFT DE$EL%M$SIGNxTRAIGHT U, WITH STROKE
  wTALL HARD SIGN$TE$YATxCHExEy WITH DESCENDER*MIDDLE HOOKxHREE-LEGGED TExSEyHEySEyWExWEwU
  x WITH DIAERESIS*OUBLE ACUTE&MACRONxKyRAINIAN IExNBLENDED UKwVEwWExIDE ESwYAyEyTxERU
  ! WITH BACK YER,DIAERESISxIxNxUwZEy WITH DESCENDER+IAERESISyMLYAxHEz WITH BREVE+DESCENDER
  ,IAERESISyWEqIGATURE A IEyEN GHEyTE TSEjTHOUSANDS SIGNaDAGGERg KNIFEhWITH LEFT GUARDmRIGHT GUARD
  cLET SYMBOLcNCERdGOcRK SHADEgUNGLASSEScSH SYMBOLfWITH LEFT UPTURNeED LOW LINEhOVERLINE
  hTRIANGLE-HEADED RIGHTWARDS ARROWcTA LINK ESCAPEbC1c2c3c4cSbEAF PERSONcCIDUOUS TREE
  eMAL EXPONENT SYMBOLiSEPARATOR KEY SYMBOLdREASE FONT SIZE SYMBOLcERcGREE CELSIUShFAHRENHEIThSIGN
  cLdETEdIVERY TRUCKdTA EQUAL TOcNTISTRY SYMBOL LIGHT DOWN AND HORIZONTAL~ WITH CIRCLE
  ~ WITH TRIANGLE~ WITH WAVExUP AND HORIZONTAL^ WITH CIRCLE~ITH TRIANGLE~ITH WAVE
  xVERTICAL AND BOTTOM LEFT~ RIGHT<TOP LEFT^RIGHT<WAVE,WITH CIRCLE=TRIANGLEcPARTMENT STORE
  cRELICT HOUSE BUILDINGcSCENDING NODEdERET CAPITAL LETTER AYxBEExCHEExDEExEFyLyMyNzGyRySzHyTHyW
  xGAYxHxJEExKAYxLONG A&H%E%I%O&OxOIyWxPEExSHORT A*H&E&I&O*OxTEEyHEExVEExWUxYEExZEEyHEE
  iSMALL LETTER AYvBEEvCHEEvDEEvEFwLwMwNxGwRwSxHwTHwWvGAYvHvJEEvKAYvLONG A$H!E!I!O$OvOIwWvPEE
  vSHORT A%H$E$I$O%OvTEEwHEEvVEEvWUvYEEvZEEwHEEfTg ISLANDdKTOP COMPUTERiWINDOW
  cVANAGARI ABBREVIATION SIGNmCUTE ACCENTlCARETlDANDAmIGIT EIGHTrFIVEsOURrNINErONErSEVENsIXrTHREE
  sWOrZEROmOUBLE DANDAlGAP FILLERmRAVE ACCENTlHEADSTROKElJAIN OMlLETTER AtAtItUtWtYsBAtBAtHAsCA
  uNDRA AzEzOtHAsDAtDAuDAvHAuHAtHAsEsFAsGAtGAtHAuHAtLOTTAL STOPsHAtEAVY YAsItIsJAtHAtJAsKAtHAuHA
  sLAtLAuLAsMAuRWARI DDAsNAtGAtNAuNAtYAsOtEtOEsPAtHAsQAsRAtHAtRAsSAtHAuORT AyEyOtSAsTAtHAtTAuHAsU
  tEtUuEsVAtOCALIC L$L!R$RsYAtYAsZAtHAlOMlSIGN ANUSVARArVAGRAHAqCANDRABINDU$ AVAGRAHA%THREE&WO
  %VIRAMAqDOUBLE CANDRABINDU VIRAMAqHIGH SPACING DOTqINVERTED CANDRABINDUqNUKTAqPUSHPIKAqSIDDHAM
  rPACING CANDRABINDUqVIRAMAsSARGAmTRESS SIGN ANUDATTAxUDATTAlVOWEL SIGN AAxIxUxWxYwCANDRA E
  &LONG E&OwEwIxIwOxExOEwPRISHTHAMATRA EwSHORT E%OwUxExUyEwVOCALIC L+L*R+RdICE CONTROL FOURpONE
  pSTRINGpTHREEqWObIAERESISdMETER SIGNeOND OPERATORiSHAPE WITH A DOT INSIDEiTARGET
  iWITH BOTTOM HALF BLACKnLEFT HALF BLACKnRIGHT HALF BLACKnTOP HALF BLACKcE FACE-1j2j3j4j5j6
  dSEL LOCOMOTIVEcFFERENCE BETWEENcGIT EIGHTl COMMAmFULL STOPgFIVEk COMMAlFULL STOPhOURk COMMA
  lFULL STOPgNINEk COMMAlFULL STOPgONEj COMMAkFULL STOPgSEVENl COMMAmFULL STOPhIXj COMMAkFULL STOP
  gTHREEl COMMAmFULL STOPhWOj COMMAkFULL STOPgZEROk COMMAlFULL STOPdRAM FOR EARTHqLY HEAVENuUMAN
  lGREATER YANGuINlHEAVENLY EARTHmUMAN EARTHlLESSER YANGtINcMENSION ORIGIN
  cNGBAT CIRCLED SANS-SERIF DIGIT EIGHT.FIVE:OUR.NINE.ONE.SEVEN:IX.THREE:WO.ZERO$NUMBER TEN
  iNEGATIVE CIRCLED DIGIT EIGHT+FIVE,OUR+NINE+ONE+SEVEN,IX+THREE,WOzNUMBER TEN
  zSANS-SERIF DIGIT EIGHT~FIVE~FOUR~NINE~ONE~SEVEN~SIX~THREE~TWO~ZERO<NUMBER TEN
  cRECT CURRENT SYMBOL FORM TWOhHITcSABLED CARePPOINTED BUT RELIEVED FACEnFACE
  dCONTINUOUS UNDERLINE SYMBOLdGUISED FACEcTTO MARKcVES AKURU DIGIT EIGHTsFIVEtOURsNINEsONEsSEVEN
  tIXsTHREEtWOsZEROnOUBLE DANDAmEND OF TEXT MARKmGAP FILLERmINITIAL RAmLETTER AuAtBAuHAtCAuHAtDA
  uDAvHAuHAtEtGAuHAtHAtIuItJAtKAuHAtLAuLAtMAtNAuGAuNAuYAtOtPAuHAtRAtSAuHAuSAtTAuHAuTAtUuUtVAtYAuYA
  tZAmMEDIAL RAtYAmPREFIXED NASAL SIGNmSIGN ANUSVARArCANDRABINDUrHALANTArNUKTAmVIRAMAnOWEL SIGN AA
  yIxExIyIxOxUyUdIDESeNG MASKeSION SIGNkLASHjTIMESdORCE SYMBOLcYA LAMPcZZY FACEgSYMBOLbLE
  bNA DOUBLE HELIXbO NOT LITTER SYMBOLcCUMENTi WITH PICTUREoTEXTs AND PICTUREcDO
  cES NOT CONTAIN AS MEMBERuNORMAL SUBGROUP; OR EQUALjDIVIDEp WITH REVERSED NEGATION SLASHjFORCE
  jPRECEDEq OR EQUALlOVEjSUCCEEDq OR EQUALcGd FACEdRA ABBREVIATION SIGNgLETTER AoAoIoUnBAoHAnCAoHA
  nDAoDApHAoHAnEnGAoHAnHAnIoInJAoHAnKAoHAnLAnMAnNAoGAoNAoYAnOnPAoHAnRAoRAnSAoHAoSAnTAoHAoTApHAnUoU
  nVAnYAgSIGN ANUSVARAlNUKTAlVIRAMAnSARGAgVOWEL SIGN AAsIsUrErIsIrOrUsUrVOCALIC R!RcLLAR SIGNdPHIN
  cMINO TILE HORIZONTAL BACKw-00-00$1$2$3$4$5$6y1-00$1$2$3$4$5$6y2-00$1$2$3$4$5$6y3-00$1$2$3$4$5$6
  y4-00$1$2$3$4$5$6y5-00$1$2$3$4$5$6y6-00$1$2$3$4$5$6mVERTICAL BACKu-00-00z1z2z3z4z5z6w1-00z1z2z3
  z4z5z6w2-00z1z2z3z4z5z6w3-00z1z2z3z4z5z6w4-00z1z2z3z4z5z6w5-00z1z2z3z4z5z6w6-00z1z2z3z4z5z6
  cNG SIGNcORcT ABOVEeMINUSeOPERATORePLUSdTED CIRCLEiROSShFENCEhLINE FACEhOBELOS
  hRIGHT-POINTING ANGLEhSOLIDUSiQUAREhTRANSPOSITION MARKERcUBLE ACUTE ACCENThCIRCLED DIGIT EIGHT
  vFIVEwOURvNINEvONEvSEVENwIXvTHREEwWOpNUMBER TENiOLON EQUALiURLY LOOPhDAGGERiOWN TACK
  hEXCLAMATION MARKhHIGH-REVERSED-9 QUOTATION MARKiYPHENhINTEGRALlRSECTION
  hLEFT ARC GREATER-THAN BRACKETiOGICAL ANDpORjW LINEk-9 QUOTATION MARKlREVERSED-9 QUOTATION MARK
  hNESTED GREATER-THANoLESS-THANx WITH UNDERBARhOBLIQUE HYPHENhPLUSiRECEDESjIMEm QUOTATION MARK
  hQUESTION MARKhRIGHT ARC LESS-THAN BRACKEThSOLIDUS OPERATORiQUARE INTERSECTIONoUNION
  iTACKED COMMAjROKE NOT SIGNiUBSETjCCEEDSjPERSETjSPENSION MARKhUNIONiP TACKhVERTICAL BAR
  t DOUBLE LEFT TURNSTILE$RIGHT TURNSTILEuLEFT TURNSTILEqLINEhWAVY OVERLINEg-ENDED MULTIMAP
  hLINE EQUAL TO OR GREATER-THANyLESS-THANmSLANTED EQUAL TO OR GREATER-THAN,LESS-THAN
  uGREATER-THAN OR EQUAL TOuLESS-THAN OR EQUAL TOhSTRUCK CAPITAL CwGAMMAwHwNwPxIwQwRwZ
  oITALIC CAPITAL DvSMALL D$E$I$JoN-ARY SUMMATIONoSMALL GAMMAuPIgD FEMALE SIGNiMALE SIGNiSYMBOL
  dGHNUTcVE OF PEACEcWN ARROWHEADfFISH TAILfRIGHT DIAGONAL ELLIPSISfTACKj WITH CIRCLE BELOW
  e-POINTING RED TRIANGLEoSMALL RED TRIANGLEoTRIANGLE WITH LEFT HALF BLACK%RIGHT HALF BLACK
  eWARD FACING HOOKu WITH DOTqNOTCHED HOOK% WITH DOTiS ANCORAlRROWp AND RIGHT ONE EIGHTH BLOCK
  qFROM BARqLEFTWARDS OF UPWARDS ARROWqTO BARqWITH CORNER LEFTWARDSvDOUBLE STROKE
  vEQUILATERAL ARROWHEADvHORIZONTAL STROKEvLARGE TRIANGLE ARROWHEADvMEDIUM TRIANGLE ARROWHEAD
  vNOTCHED TAILvSMALL EQUILATERAL ARROWHEAD$TRIANGLE ARROWHEADvTIP LEFTWARDSzRIGHTWARDS
  kBLACK ARROWqCIRCLED WHITE ARROWkCOMPRESSED ARROWkDASHED ARROWlOUBLE ARROWkFINGER-POST ARROW
  kHARPOON WITH BARB LEFT BESIDE DOWNWARDS HARPOON WITH BARB RIGHT^UPWARDS HARPOON WITH BARB RIGHT
  .FROM BAR.TO BAR,WARDS%RIGHT FROM BAR:TO BAR.WARDSlEAVY ARROWqCOMPRESSED ARROWkPAIRED ARROWS
  kQUADRUPLE ARROWkROCKETkSANS-SERIF ARROWlQUARED ARROWkTRIANGLE ARROWHEADs-HEADED ARROW
  + LEFTWARDS OF UPWARDS TRIANGLE-HEADED ARROW,TO BAR,WITH BOLD SHAFT=DOUBLE HORIZONTAL STROKE
  =HEAVY SHAFT=LONG TIP LEFTWARDS~TIP RIGHTWARDS=MEDIUM SHAFT=NARROW SHAFT=VERY HEAVY SHAFT
  !DASHED ARROW!PAIRED ARROWS!ZIGZAG ARROWnPLE ARROWlWO HEADED ARROW
  n-HEADED ARROW WITH TRIANGLE ARROWHEADSkWHITE ARROWv WITHIN TRIANGLE ARROWHEADkZIGZAG ARROW
  bRACHMA SIGNdFTING POINT RIGHTWARDS ARROWdGONg FACEcESScIVE SLOW SIGNcOMEDARY CAMELdOLING FACE
  dP OF BLOODeLETcUM WITH DRUMSTICKSbUCKcMPLINGcPLOYAN AFFIX ATTACHED E HOOKyI HOOK
  yLEFT-TO-RIGHT SECANTySECANTyTAIL!NGENT+ HOOKpHIGH ACUTEuCIRCLEuDOTuGRAVEuLINEvONG GRAVE
  uTIGHT ACUTEuVERTICAL% SECANTuWAVEpLEFT HORIZONTAL SECANTqOW ACUTEuRROWtCIRCLEtDOTtGRAVEtLINE
  uONG GRAVEtTIGHT ACUTEtVERTICAL$ SECANTtWAVEpMID HORIZONTAL SECANTtVERTICAL SECANT
  pRIGHT HORIZONTAL SECANTjDOUBLE MARKjLETTER ArOUqBqDr SrHqErErUqFr NqGr R SqHrLqIrEqJr Mt SsNt S
  sSt WITH DOTsWITH DOT!S INSIDE AND ABOVEqKr MsR SrKqLrHrONG IvUqMr Nt SsSsWITH DOTqNr Mt SsS
  sWITH DOTrASAL AwIwOwUqOrArOHrUrWqPr NrERNIN AMyNqRr SrHrOMANIAN IzUqSr Jt SsKt RsMsNsPt RsSsT
  t RsWITH DOT! BELOWrHORT IrLOAN ANwDHwEExHxNwJwONxWwUqTr R SsSrHqUr NrHrIqVrOCALIC MqWr RrArEIrH
  rIrOsWqXrWqYEjPUNCTUATION CHINOOK FULL STOPjSIGN O WITH CROSSjTHICK LETTER SELECTORbVD
  aE-MAIL SYMBOLbAGLEcRd OF MAIZEhRICEeWITH HEARING AIDdTHf GLOBE AMERICASnSIA-AUSTRALIA
  mEUROPE-AFRICAhROUNDcST SYRIAC CROSSbDITORIAL CORONISbGGcYPTIAN HIEROGLYPH A001x2x3x4x5yAx6yAyB
  x7x8x9w10x1x2x3x4yAx5x6x7yAx8x9w20x1x2x3x4x5x6x7x8x9w30x1x2yAx3x4x5x6x7x8x9w40yAx1x2yAx3yAx4x5yA
  x6x7x8x9w50x1x2x3x4x5x6x7x8x9w60x1x2x3x4x5x6x7x8x9w70vA001y2y3y4y5y6y7zAzBy8y9x10y1y2y3y4y5y6y7
  y8y9x20y1y2y3y4y5y6y7y8y9x30y1y2uB001x2x3x4x5yAx6x7x8x9vEGIN SEGMENTuC001x2yAyByCx3x4x5x6x7x8x9
  w10yAx1x2x3x4x5x6x7x8x9w20x1x2x3x4uD001x2x3x4x5x6x7x8yAx9w10x1x2x3x4x5x6x7x8x9w20x1x2x3x4x5x6x7
  yAx8x9w30x1yAx2x3x4yAx5x6x7x8x9w40x1x2x3x4x5x6yAx7x8yAx9w50yAyByCyDyEyFyGyHyIx1x2yAx3x4yAx5x6x7
  x8x9w60x1x2x3x4x5x6x7yAyByCyDyEyFyGyHuE001x2x3x4x5x6x7x8yAx9yAw10x1x2x3x4x5x6yAx7yAx8x9w20yAx1x2
  x3x4x5x6x7x8yAx9w30x1x2x3x4yAx6x7x8vND SEGMENTuF001yAx2x3x4x5x6x7x8x9w10x1x2x3yAx4x5x6x7x8x9w20
  x1yAx2x3x4x5x6x7x8x9w30x1yAx2x3x4x5x6x7yAx8yAx9w40x1x2x3x4x5yAx6yAx7yAx8x9w50x1yAyByCx2x3uG001x2
  x3x4x5x6yAx7yAyBx8x9w10x1yAx2x3x4x5x6x7x8x9w20yAx1x2x3x4x5x6yAx7x8x9w30x1x2x3x4x5x6yAx7yAx8x9w40
  x1x2x3yAx4x5yAx6x7x8x9w50x1x2x3x4uH001x2x3x4x5x6yAx7x8vORIZONTAL JOINERuI001x2x3x4x5yAx6x7x8x9yA
  w10yAx1yAx2x3x4x5vNSERT AT BOTTOM END=START*TOP END:STARTuK001x2x3x4x5x6x7x8uL001x2yAx3x4x5x6yA
  x7x8uM001yAyBx2x3yAx4x5x6x7x8x9w10yAx1x2yAyByCyDyEyFyGyHx3x4x5yAx6yAx7yAx8x9w20x1x2yAx3x4yAx5x6
  x7x8yAx9w30x1yAx2x3yAyBx4x5x6x7x8x9w40yAx1x2x3x4uN001x2x3x4x5x6x7x8x9w10x1x2x3x4x5x6x7x8yAyBx9
  w20x1x2x3x4x5yAx6x7x8x9w30x1x2x3yAx4yAx5yAx6x7yAx8x9w40x1x2vL001y2y3y4y5zAy6y7y8y9x10y1y2y3y4y5
  y6y7zAy8y9x20vU001y2y3y4y5y6y7y8y9x10zAy1zAy2y3y4y5y6y7y8zAy9x20y1y2zAuO001yAx2x3x4x5yAx6yAyByC
  yDyEyFx7x8x9w10yAyByCx1x2x3x4x5x6x7x8x9yAw20yAx1x2x3x4yAx5yAx6x7x8x9yAw30yAx1x2x3yAx4x5x6yAyByC
  yDx7x8x9w40x1x2x3x4x5x6x7x8x9w50yAyBx1vVERLAY MIDDLEuP001yAx2x3yAx4x5x6x7x8x9w10x1uQ001x2x3x4x5
  x6x7uR001x2yAx3yAyBx4x5x6x7x8x9w10yAx1x2x3x4x5x6yAx7x8x9w20x1x2x3x4x5x6x7x8x9uS001x2yAx3x4x5x6yA
  x7x8x9w10x1x2x3x4yAyBx5x6x7yAx8x9w20x1x2x3x4x5x6yAyBx7x8x9w30x1x2x3x4x5yAx6x7x8x9w40x1x2x3x4x5x6
  uT001x2x3yAx4x5x6x7yAx8yAx9yAw10x1yAx2x3x4x5x6yAx7x8x9w20x1x2x3x4x5x6x7x8x9w30x1x2yAx3yAx4x5x6
  uU001x2x3x4x5x6yAyBx7x8x9w10x1x2x3x4x5x6x7x8x9w20x1x2x3yAx4x5x6x7x8x9yAw30x1x2yAx3x4x5x6x7x8x9
  w40x1x2uV001yAyByCyDyEyFyGyHyIx2yAx3x4x5x6x7yAyBx8x9w10x1yAyByCx2yAyBx3x4x5x6x7x8x9w20yAyByCyDyE
  yFyGyHyIyJyKyLx1x2x3yAx4x5x6x7x8yAx9yAw30yAx1yAx2x3yAx4x5x6x7yAx8x9w40yAvERTICAL JOINERuW001x2x3
  yAx4x5x6x7x8x9yAw10yAx1x2x3x4yAx5x6x7yAx8yAx9w20x1x2x3x4yAx5uX001x2x3x4yAyBx5x6yAx7x8yAuY001yAx2
  x3x4x5x6x7x8uZ001x2yAyByCyDx3yAyBx4yAx5yAx6x7x8x9w10x1x2x3x4x5yAyByCyDyEyFyGyHyIx6yAyByCyDyEyFyG
  yHbIGHT PETALLED OUTLINED BLACK FLORETTEhOINTED BLACK STARoPINWHEEL STARoRECTILINEAR BLACK STAR
  gSPOKED ASTERISKgTEARDROP-SPOKED PROPELLER ASTERISKfH NOTEbJECT SYMBOLbLBASAN LETTER ApBEpCEqHE
  pDEqHEpEqIpFEpGEqHAMMArEqJEpHEpIpJEpKEqHEpLEqLEpMEpNAqDEqEqJEpOpPEpQEpREqREpSEqHEpTEqHEpUpVEpXE
  pYpZEqHEcECTRIC ARROWjLIGHT BULBjPLUGjTORCHiAL INTERSECTIONdMENT OFk OPENING DOWNWARDStUPWARDS
  lWITH DOT ABOVEqLONG HORIZONTAL STROKEqOVERBARqTWO HORIZONTAL STROKESqUNDERBAR
  qVERTICAL BAR AT END OF HORIZONTAL STROKEdPHANTdVATORcFcYMAIC LETTER ALEPHqYINpBETHpDALETHpGIMEL
  pHErTHpKAPHpLAMEDHpMEMpNUNpPEpQOPHpRESHpSADHErMEKHqHINpTAWqETHpWAWpYODHpZAYINjIGATURE ZAYIN-YODH
  bM DASHdQUADdSPACEcOJI COMPONENT BALDqCURLY HAIRqRED HAIRqWHITE HAIR
  gMODIFIER FITZPATRICK TYPE-1-2,3,4,5,6cPHASIS SYMBOLdTY DOCUMENTgNESThOTEk PADnGEgPAGEkSgSET
  j WITH LEFT ARROW ABOVEpOVERBARpRIGHT ARROW ABOVEpSMALL CIRCLE ABOVEbN DASHdQUADdSPACE
  cD OF GUARDED AREAhLINEhMEDIUMhPROOFkTECTED AREAhSELECTED AREAhTEXTiRANSMISSIONt BLOCK
  eWITH LEFTWARDS ARROW ABOVEcQdUIRYcTER SYMBOLcVELOPEi WITH DOWNWARDS ARROW ABOVEoLIGHTNINGbOLcM
  cTbPAbQUAL AND PARALLEL TOgTO BY DEFINITIONjOR GREATER-THANmLESS-THANmPRECEDESmSUCCEEDSfS COLON
  hSIGNl ABOVE LEFTWARDS ARROWsPLUS SIGNsRIGHTWARDS ARROWsTILDE OPERATORnND SLANTED PARALLEL
  , WITH TILDE ABOVEmWITH BUMPY ABOVErDOT BELOWrINFINITY BELOWrTWO DOTS ABOVE AND TWO DOTS BELOW
  hWITH ASTERISKdIANGULAR TOeVALENT TOlWITH FOUR DOTS ABOVEbRASE TO THE LEFTnRIGHTcIS FORM ONEkTWO
  cROR-BARRED BLACK CIRCLEtDIAMONDtSQUAREnWHITE CIRCLEtDIAMONDtSQUAREbSAcCdAPEcTIMATED SYMBOLiSbTB
  cHIOPIC COLONlMBINING GEMINATION AND VOWEL LENGTH MARK*MARKtVOWEL LENGTH MARKmMAjDIGIT EIGHT
  pFIVEqOURpNINEpONEpSEVENqIXpTHREEqWOjFULL STOPjNUMBER EIGHTYqFIFTYrORTYqHUNDREDqNINETYqSEVENTY
  rIXTYqTENt THOUSANDrHIRTYrWENTYjPARAGRAPH SEPARATORkREFACE COLONjQUESTION MARKjSECTION MARK
  lMICOLONkYLLABLE BAuAtBAvAuEvEuIuOuUtEuEtItOuAtUtWAuEvEuIsCAuAtCAvAuEvEuHAwAvEwEvHAxAwExEwIwOwU
  vIvOvUuIuOuUtEuEtHAvAuEvEuIuOvAuUuWAtItOuAtUtWAsDAuAtDAvAuEvEuHAAvEwEvIvOvUuIuOvAuUuWAtEuEtItOuA
  tUtWAtZAAuEvEuIuOuUsFAuAtEuEtItOtUtWAuEvEuItYAsGAuAtEuEtGAvAuEvEuIuOuUuWAwAvEwEvItItLOTTAL A$A!E
  $E!I!O$A!U!WAtOuAtUuRAGE BWEE$IzFWEE$IzGWE%E$IzHHWAzKWE%E$IzMWEE$IzPWEE$IzQWE%E$ItWAvAuEvEuItYA
  vAuEvEuIuOuUsHAuAtEuEtHAvAuEvEuIuOuUuWAvEwEvIuYAwAvEwEvIvOvUtItOuAtUsJAuAtEuEtItOuAtUtWAsKAuAtE
  uEtItOuAtUtWAvAuEvEuItXAvAuEvEuIuOuUuWAwAvEwEvItYAvAuEvEuIuOuUsLAuAtEuEtItOuAtUtWAsMAuAtEuEtItO
  uAtUtWAuEvEuItYAsNAuAtEuEtItOuAtUtWAtYAvAuEvEuIuOvAuUuWAsPAuAtEuEtHAvAvRYNGEAL A*A&E*E&I&O&UuEvE
  uIuOvAuUuWAtItOuAtUtWAuEvEuIsQAuAtEuEtHAvAuEvEuIuOuUuWAwAvEwEvItItOuAtUtWAvAuEvEuItYAvAuEvEuIuO
  uUsRAuAtEuEtItOuAtUtWAtYAsSAuAtEuBATBEIT BWA%FWA%MWA%PWAuEtHAvAuEvEuIuOvAuUuWAtItOuAtSAvAuEvEuI
  uOuUtUtWAtZAvAuEvEuIuOuUuWAsTAuAtEuEtHAvAuEvEuIuOvAuUuWAtItOuAtSAvAuEvEuIuOuUuWAtTHAAvEwEvIvOvU
  tUtWAtZAvAuEvEuIuOvAuUsVAuAtEuEtItOtUtWAsWAuAtEuEtItOuAtUsXAuAtEuEtItOuAtUtWAvAuEvEuItYAvAuEvEuI
  uOuUsYAuAtEuEtItOuAtUsZAuAtEuEtHAvAuEvEuIuOuUuWAtItOuAtUtWAtZAvAuEvEuIuOuUjTONAL MARK CHIRET
  uDERETz-HIDETvIFATuHIDETuKENATvURTuRIKRIKuSHORT RIKRIKuYIZETjWORDSPACEcXbULER CONSTANTcRO SIGN
  e-CURRENCY SIGNePEAN CASTLEjPOST OFFICEbVERGREEN TREEbXCESSdLAMATION MARKmQUESTION MARK
  cPRESSIONLESS FACEcTENDED ARABIC-INDIC DIGIT EIGHT%FIVE&OUR%NINE%ONE%SEVEN&IX%THREE&WO%ZERO
  dRATERRESTRIAL ALIENeEMELY HEAVY FIVE SPOKED ASTERISKqGREEK CROSSqSALTIRErIX SPOKED ASTERISK
  qWHITE CIRCLEwSQUAREbYEdGLASSESdSaFACE HOLDING BACK TEARSfMASSAGEfPALMfSAVOURING DELICIOUS FOOD
  gCREAMING IN FEARfTHROWING A KISSfWITH COLD SWEATmWBOY HATkDIAGONAL MOUTH
  kFINGER COVERING CLOSED LIPSkHEAD-BANDAGEkLOOK OF TRIUMPHkMEDICAL MASKlONOCLEkNO GOOD GESTURE
  kOK GESTURElNE EYEBROW RAISEDlPEN EYES AND HAND OVER MOUTHpMOUTHu AND COLD SWEATvVOMITING
  kPARTY HORN AND PARTY HATlEEKING EYElLEADING EYESkROLLING EYESkSTUCK-OUT TONGUE
  ! AND TIGHTLY-CLOSED EYES+WINKING EYEkTEARS OF JOYlHERMOMETERkUNEVEN EYES AND WAVY MOUTH
  jOUT MOUTHdSIMILE SIGNdTORYcIRYcLAFELdLEN LEAFeING DIAGONAL CROSSING NORTH EAST ARROW
  !RISING DIAGONALrIN WHITE CIRCLE IN BLACK SQUAREcMILYcRSI SYMBOLcTHER CHRISTMAScX ICONeMACHINE
  bEARFUL FACEdTHERcMALE SIGNdININE ORDINAL INDICATORcNCERcRRIS WHEELeYbF
  bIELD HOCKEY STICK AND BALLcGURE DASHhSPACEcLE CABINETfFOLDERfSEPARATORdM FRAMESfPROJECTOR
  cNITE PART INTEGRALcREe ENGINEgXTINGUISHEReCRACKEReWORK SPARKLERiSdST PLACE MEDALgQUARTER MOON
  s SYMBOLtWITH FACEgSTRONG ISOLATEcSHe CAKE WITH SWIRL DESIGNeEYEeING POLE AND FISHdTED HAND SIGN
  cVE DOT MARKjPUNCTUATIONbLAG IN HOLEdMINGOdT SHOEeBREADeNESScEUR-DE-LISdXED BICEPScOPPY DISK
  dRAL HEARTdWERg PLAYING CARDSiUNCTUATION MARKcUSHED FACEcYdING DISChENVELOPEhSAUCERbOGdGYcLDER
  cNDUEcOTePRINTScR ALLdCESdK AND KNIFEo WITH PLATEeED PARAGRAPHOSeINGdM FEEDdTUNE COOKIEcUNTAIN
  dR BALLOON-SPOKED ASTERISKfCLUB-SPOKED ASTERISKgORNER ARROWS CIRCLING ANTICLOCKWISEfDOT MARK
  jPUNCTUATIONfLEAF CLOVERfPOINTED BLACK STARfTEARDROP-SPOKED ASTERISKe-PER-EM SPACEeTH ROOT
  cX FACEbRACTION NUMERATOR ONEjSLASHdME WITH AN XlPICTURElTILEScEEZING FACEdNCH FRANC SIGNjIES
  cIED SHRIMPcOG FACEdNT-FACING BABY CHICKgTILTED SHADOWED WHITE RIGHTWARDS ARROWdWN
  fING FACE WITH OPEN MOUTHbScIbUEL PUMPcLL BLOCKfMOON SYMBOLkWITH FACEfOUTER JOINfSTOP
  eWIDTH AMPERSANDlPOSTROPHElSTERISKkBROKEN BARkCENT SIGNlIRCUMFLEX ACCENTlOLONmMMAoERCIAL AT
  kDIGIT EIGHTqFIVErOURqNINEqONEqSEVENrIXqTHREErWOqZEROlOLLAR SIGNkEQUALS SIGNlXCLAMATION MARK
  kFULL STOPkGRAVE ACCENTmEATER-THAN SIGNkHYPHEN-MINUSkLATIN CAPITAL LETTER A+B+C+D+E+F+G+H+I+J+K
  +L+M+N+O+P+Q+R+S+T+U+V+W+X+Y+ZqSMALL LETTER A&B&C&D&E&F&G&H&I&J&K&L&M&N&O&P&Q&R&S&T&U&V&W&X&Y&Z
  lEFT CURLY BRACKETpPARENTHESISpSQUARE BRACKETpWHITE PARENTHESISmSS-THAN SIGNlOW LINEkMACRON
  kNOT SIGNlUMBER SIGNkPERCENT SIGNlLUS SIGNlOUND SIGNkQUESTION MARKmOTATION MARKkREVERSE SOLIDUS
  lIGHT CURLY BRACKETqPARENTHESISqSQUARE BRACKETqWHITE PARENTHESISkSEMICOLONlOLIDUSkTILDE
  kVERTICAL LINEkWON SIGNkYEN SIGNcNCTION APPLICATIONdERAL URNcSEbVS1d2d3d4aGAME DIEcRLICbEAR
  e WITH HANDLESjOUT HUBcM STONEdINIcNIEcOMETRIC PROPORTIONjALLY EQUAL TOrIVALENT TO
  dRGIAN CAPITAL LETTER AENzNyBANyCANzHAR!INzILyDONyENyGANzHANyHAE!RzEzIEzOEyINyJHANzILyKANzHAR
  yLASyMANyNARyONyPARzHARyQARyRAEySANzHINyTAN!RyUNyVINyWEyXANyYNyZENzHARjLETTER AENrINrNqBANqCAN
  rHARsINrILqDONqELIFIrNqFIqGANrHANqHAEsRtD SIGNrErIErOEqINqJHANrILqKANrHARqLABIAL SIGNsSqMANqNAR
  qONqPARrHARqQARqRAEqSANrHINqTANsRrURNED GANqUNqVINqWEqXANqYNqZENrHARjMTAVRULI CAPITAL LETTER AEN
  :IN:N.BAN.CAN:HAR;IN:IL.DON.ELIFI:N.FI.GAN:HAN.HAE;R<D SIGN:E:IE:OE.IN.JHAN:IL.KAN:HAR
  .LABIAL SIGN;S.MAN.NAR.ON.PAR:HAR.QAR.RAE.SAN:HIN.TAN;R:URNED GAN.UN.VIN.WE.XAN.YN.ZEN:HAR
  jPARAGRAPH SEPARATORjSMALL LETTER AENxNwBANwCANxHARyINxILwDONwENwGANxHANwHAEyRxExIExOEwINwJHAN
  xILwKANxHARwLASwMANwNARwONwPARxHARwQARwRAEwSANxHINwTANyRwUNwVINwWEwXANwYNwZENxHAR
  cRMAN PENNY SIGNcTA MARKbHOSTbIMEL SYMBOLcRAFFE FACEdLeS SYMBOLbLAGOLITIC CAPITAL LETTER AZU
  !BIG YUS$UKY!CAUDATE CHRIVI$HRIVI!DJERVI$OBRO$ZELO!FITA$RITU!GLAGOLI!HERU!I$NITIAL IZHE
  $OTATED BIG YUS:SMALL YUS$ZHE&ITSA!KAKO!LATINATE MYSLITE$JUDIJE!MYSLITE!NASHI!ONU$TU!PE$OKOJI
  !RITSI!SHA%TA*PIC$LOVO$MALL YUS; WITH TAIL$PIDERY HA!TROKUTASTI A$SI$VRIDO!UKU!VEDE!YATI$ERI&U
  %STU$O$U!ZEMLJA$HIVETElSMALL LETTER AZUyBIG YUSzUKYyCAUDATE CHRIVIzHRIVIyDJERVIzOBROzZELOyFITA
  zRITUyGLAGOLIyHERUyIzNITIAL IZHEzOTATED BIG YUS,SMALL YUSzZHE$ITSAyKAKOyLATINATE MYSLITEzJUDIJE
  yMYSLITEyNASHIyONUzTUyPEzOKOJIyRITSIySHA!TA%PICzLOVOzMALL YUS. WITH TAILzPIDERY HAyTROKUTASTI A
  zSIzVRIDOyUKUyVEDEyYATIzERI$U!STUzOzUyZEMLJAzHIVETEdSS OF MILKcEICH STARKcOBE WITH MERIDIANSdVES
  dWING STARbOAL NETdTcGGLEScLFERcRILLAcTHIC LETTER AHSApIHVUSoBAIRKANoDAGSoEISoFAIHUoGIBAoHAGL
  pWAIRoIGGWSpUJAoJERoKUSMAoLAGUSoMANNAoNAUTHSpINE HUNDREDsTYoOTHALoPAIRTHRAoQAIRTHRAoRAIDAoSAUIL
  oTEIWSpHIUTHoURUSoWINJAbRADUATION CAPdNTHA AU LENGTH MARKiLETTER AqAqIqUpBAqHApCAqHApDAqDArHAqHA
  pEEpGAqHApHApIqIpJAqHApKAqHApLAqLApMApNAqGAqNAqYApOOpPAqHApRApSAqHAqSApTAqHAqTArHApUqUpVA
  qEDIC ANUSVARAvDOUBLE ANUSVARAqOCALIC LyLxRyRpYAiOMiSIGN ANUSVARAoVAGRAHAnCANDRABINDU
  oOMBINING ANUSVARA ABOVEnNUKTAnPLUTAnVIRAMApSARGAiVOWEL SIGN AAuIuUtEEtIuItOOtUuUtVOCALIC L%L$R
  %RdPESdVE ACCENTcEATER-THAN ABOVE DOUBLE-LINE EQUAL ABOVE LESS-THAN
  tLESS-THAN ABOVE DOUBLE-LINE EQUALtRIGHTWARDS ARROWtSIMILAR ABOVE LESS-THAN$OR EQUAL
  uLANTED EQUAL ABOVE LESS-THAN ABOVE SLANTED EQUALoND NOT APPROXIMATErSINGLE-LINE NOT EQUAL TO
  nBESIDE LESS-THANoUT NOT EQUAL TOyIVALENT TOnCLOSED BY CURVE% ABOVE SLANTED EQUAL
  nEQUAL TO OR LESS-THANnOR APPROXIMATEqEQUAL TOtIVALENT TOqLESS-THANqSLANTED EQUAL TO
  , WITH DOT ABOVE~ABOVE LEFT~INSIDEoVER EQUAL TOrLAPPING LESS-THANnSIGNnWITH CIRCLE INSIDEsDOT
  sQUESTION MARK ABOVEdEK ACROPHONIC ATTIC FIFTY% STATERS&TALENTS*HOUSAND= STATERSzVE$ HUNDRED
  ; STATERS<TALENTS%STATERS%TALENTS&HOUSAND< TALENTSxONE DRACHMA$HALF%UNDRED STATERS;TALENTS
  $QUARTER$THOUSAND STATERS<TALENTSxTEN MNAS$STATERS$TALENTS%HOUSAND STATERS
  rCARYSTIAN FIVE HUNDREDsYRENAIC TWO DRACHMASrDELPHIC FIVE MNASrEPIDAUREAN FIVE HUNDRED%TWO
  + DRACHMASrHERAEUM ONE PLETHRONuMIONIAN FIFTY%ONE%TENrMESSENIAN TENrNAXIAN FIVE HUNDRED
  rSTRATIAN FIFTY MNASrTHESPIAN FIFTY%VE HUNDRED+THOUSAND!ONE& HUNDRED*THOUSAND!TEN$HIRTY
  %REE HUNDRED$WOsROEZENIAN FIFTY. ALTERNATE FORM*VE, HUNDRED%TEN+ ALTERNATE FORMhNO TELEIA
  hROURA SIGNiTABE SIGNgBETA SYMBOLgCAPITAL DOTTED LUNATE SIGMA SYMBOLoKAI SYMBOLoLETTER ALPHA
  ! WITH DASIA= AND OXIA~OXIA AND PROSGEGRAMMENI~PERISPOMENI~PERISPOMENI AND PROSGEGRAMMENI
  ~PROSGEGRAMMENI~VARIA~VARIA AND PROSGEGRAMMENI,MACRON,OXIA,PROSGEGRAMMENI.SILI= AND OXIA
  ~OXIA AND PROSGEGRAMMENI~PERISPOMENI~PERISPOMENI AND PROSGEGRAMMENI~PROSGEGRAMMENI~VARIA
  ~VARIA AND PROSGEGRAMMENI,TONOS,VARIA.RACHYwRCHAIC SAMPIvBETAvCHIvDELTAvEPSILON% WITH DASIA
  ? AND OXIA~D VARIA:OXIA:PSILI? AND OXIA~D VARIA:TONOS:VARIAwTAy WITH DASIA; AND OXIA
  ~IA AND PROSGEGRAMMENI^PERISPOMENI~RISPOMENI AND PROSGEGRAMMENI_ROSGEGRAMMENI^VARIA
  ~RIA AND PROSGEGRAMMENI*OXIA*PROSGEGRAMMENI+SILI; AND OXIA~IA AND PROSGEGRAMMENI^PERISPOMENI
  ~RISPOMENI AND PROSGEGRAMMENI_ROSGEGRAMMENI^VARIA~RIA AND PROSGEGRAMMENI*TONOS*VARIAvGAMMAvHETA
  vIOTAz WITH DASIA< AND OXIA_PERISPOMENI_VARIA,IALYTIKA+MACRON+OXIA+PSILI< AND OXIA_PERISPOMENI
  _VARIA+TONOS+VARIA,RACHYvKAPPAvLAMDAvMUvNUvOMEGA! WITH DASIA= AND OXIA~OXIA AND PROSGEGRAMMENI
  ~PERISPOMENI~PERISPOMENI AND PROSGEGRAMMENI~PROSGEGRAMMENI~VARIA~VARIA AND PROSGEGRAMMENI,OXIA
  ,PROSGEGRAMMENI.SILI= AND OXIA~OXIA AND PROSGEGRAMMENI~PERISPOMENI
  ~PERISPOMENI AND PROSGEGRAMMENI~PROSGEGRAMMENI~VARIA~VARIA AND PROSGEGRAMMENI,TONOS,VARIAxICRON
  % WITH DASIA? AND OXIA~D VARIA:OXIA:PSILI? AND OXIA~D VARIA:TONOS:VARIAvPAMPHYLIAN DIGAMMAwHIwI
  wSIvRHOy WITH DASIAvSANwHOwIGMAvTAUwHETAvUPSILON% WITH DASIA? AND OXIA~D PERISPOMENI~D VARIA
  ;IALYTIKA:MACRON:OXIA:TONOS:VARIA;RACHYvXIvYOTvZETApUNATE SIGMA SYMBOL
  oREVERSED DOTTED LUNATE SIGMA SYMBOLxLUNATE SIGMA SYMBOLoTHETA SYMBOLgDASIAl AND OXIA
  qPERISPOMENIqVARIAhIALYTIKA AND OXIAuPERISPOMENIuVARIAqTONOShRACHMA SIGNgFIVE OBOLS SIGN
  hOUR OBOLS SIGNgGRAMMA SIGNgINDICTION SIGNiSTRUMENTAL NOTATION SYMBOL-1<1<2<3<4<7<8<9;2<3<4<5<6
  <7<9;30<2<6<7<8<9;4<0<2<3<5<7<8<9;5<0<1<2<3<4;7;8gKAI SYMBOLiPPA SYMBOLhORONIShYATHOS BASE SIGN
  gLETTER ARCHAIC KOPPAnDIGAMMAnKOPPAnSAMPIoMALL CAPITAL GAMMA$LAMDA$OMEGA$PI%SI$RHOoTIGMAnYOT
  hITRA SIGNhOWER NUMERAL SIGNhUNATE EPSILON SYMBOLnSIGMA SYMBOLgMETRETES SIGNhUSICAL LEIMMA
  gNUMERAL SIGNgOBOL SIGNhNE HALF SIGNt ALTERNATE FORMkQUARTER SIGNhUNKIA SIGNhXIAgPERISPOMENI
  hHI SYMBOLhI SYMBOLhROSGEGRAMMENIhSILIl AND OXIAqPERISPOMENIqVARIAgQUESTION MARK
  gREVERSED LUNATE EPSILON SYMBOLhHO SYMBOLkWITH STROKE SYMBOLgSINUSOID SIGN
  hMALL DOTTED LUNATE SIGMA SYMBOLmLETTER ALPHAy WITH DASIA; AND OXIA~IA AND YPOGEGRAMMENI
  ^PERISPOMENI~RISPOMENI AND YPOGEGRAMMENI^VARIA~RIA AND YPOGEGRAMMENI^YPOGEGRAMMENI*MACRON*OXIA
  : AND YPOGEGRAMMENI*PERISPOMENI_ AND YPOGEGRAMMENI+SILI; AND OXIA~IA AND YPOGEGRAMMENI
  ^PERISPOMENI~RISPOMENI AND YPOGEGRAMMENI^VARIA~RIA AND YPOGEGRAMMENI^YPOGEGRAMMENI*TONOS*VARIA
  ; AND YPOGEGRAMMENI+RACHY*YPOGEGRAMMENIuRCHAIC KOPPA$SAMPItBETAtCHItDELTAuIGAMMAtEPSILON
  ! WITH DASIA= AND OXIA~VARIA,OXIA,PSILI= AND OXIA~VARIA,TONOS,VARIAuTAw WITH DASIA. AND OXIA
  ~ AND YPOGEGRAMMENI>PERISPOMENI~SPOMENI AND YPOGEGRAMMENI>VARIA~A AND YPOGEGRAMMENI
  >YPOGEGRAMMENI%OXIA, AND YPOGEGRAMMENI%PERISPOMENI? AND YPOGEGRAMMENI&SILI. AND OXIA
  ~ AND YPOGEGRAMMENI>PERISPOMENI~SPOMENI AND YPOGEGRAMMENI>VARIA~A AND YPOGEGRAMMENI
  >YPOGEGRAMMENI%TONOS%VARIA. AND YPOGEGRAMMENI%YPOGEGRAMMENItFINAL SIGMAtGAMMAtHETAtIOTA
  x WITH DASIA: AND OXIA?PERISPOMENI?VARIA*IALYTIKA> AND OXIA~ PERISPOMENI~ TONOS~ VARIA&MACRON
  &OXIA&PERISPOMENI*SILI: AND OXIA?PERISPOMENI?VARIA&TONOS&VARIA*RACHYtKAPPAuOPPAtLAMDAtMUtNU
  tOMEGAy WITH DASIA; AND OXIA~IA AND YPOGEGRAMMENI^PERISPOMENI~RISPOMENI AND YPOGEGRAMMENI^VARIA
  ~RIA AND YPOGEGRAMMENI^YPOGEGRAMMENI*OXIA: AND YPOGEGRAMMENI*PERISPOMENI_ AND YPOGEGRAMMENI+SILI
  ; AND OXIA~IA AND YPOGEGRAMMENI^PERISPOMENI~RISPOMENI AND YPOGEGRAMMENI^VARIA
  ~RIA AND YPOGEGRAMMENI^YPOGEGRAMMENI*TONOS*VARIA; AND YPOGEGRAMMENI*YPOGEGRAMMENIvICRON
  ! WITH DASIA= AND OXIA~VARIA,OXIA,PSILI= AND OXIA~VARIA,TONOS,VARIAtPAMPHYLIAN DIGAMMAuHIuIuSI
  tRHOw WITH DASIA%PSILItSAMPIvNuHOuIGMAuTIGMAtTAUuHETAtUPSILON! WITH DASIA= AND OXIA~PERISPOMENI
  ~VARIA.IALYTIKA_ AND OXIA~AND PERISPOMENI~AND TONOS~AND VARIA,MACRON,OXIA,PERISPOMENI.SILI
  = AND OXIA~PERISPOMENI~VARIA,TONOS,VARIA.RACHYtXItZETAmREVERSED DOTTED LUNATE SIGMA SYMBOL
  vLUNATE SIGMA SYMBOLhUBSCRIPT SMALL LETTER BETA&CHI&GAMMA&PHI&RHOhYMBOL TAU RHOgTALENT SIGN
  hHETA SYMBOLiREE OBOLS SIGNmQUARTERS SIGNhONOShRYBLION BASE SIGNhWO OBOLS SIGNkTHIRDS SIGN
  gUPSILON WITH ACUTE AND HOOK SYMBOLtDIAERESIS AND HOOK SYMBOLtHOOK SYMBOLgVARIA
  hOCAL NOTATION SYMBOL-1&0&1&2&3&4&5&6&7&8&9%2&0&1&2&3&4%3%4%5&0&1&2&3&4%6%7%8%9gXESTES SIGN
  gYEAR SIGNhPOGEGRAMMENIgZERO SIGNeN APPLEgBOOKgHEARTgSALADcIMACING FACE
  dNNING CAT FACE WITH SMILING EYESjFACEn WITH ONE LARGE AND ONE SMALL EYEtSMILING EYESuTAR EYES
  cOUP MARKgSEPARATORdWING HEARTbSbUARANI SIGNeDSMANcIDE DOGdTARcJARATI ABBREVIATION SIGN
  jDIGIT EIGHTpFIVEqOURpNINEpONEpSEVENqIXpTHREEqWOpZEROjLETTER ArArIrUqBArHAqCArHAqDArDAsHArHAqE
  qGArHAqHAqIrIqJArHAqKArHAqLArLAqMAqNArGArNArYAqOqPArHAqRAqSArHArSAqTArHArTAsHAqUrUqVArOCALIC LzL
  yRzRqYAqZHAjOMjRUPEE SIGNjSIGN ANUSVARApVAGRAHAoCANDRABINDUpIRCLE NUKTA ABOVEoMADDAHoNUKTA
  oSHADDApUKUNoTHREE-DOT NUKTA ABOVEpWO-CIRCLE NUKTA ABOVEoVIRAMAqSARGAjVOWEL CANDRA EwOpSIGN AAvI
  vUuCANDRA E$OuEuIvIuOuUvUuVOCALIC L&L%R&RcNJALA GONDI DIGIT EIGHTuFIVEvOURuNINEuONEuSEVENvIX
  uTHREEvWOuZEROoLETTER AwAwIwUvBAwHAvCAwHAvDAwDAxHAwHAvEEvGAwHAvHAvIwIvJAwHAvKAwHAvLAwLAvMAvNAwGA
  vOOvPAwHAvRAvSAvTAwHAwTAxHAvUwUvVAvYAoOMoSIGN ANUSVARAtVISARGAoVIRAMApOWEL SIGN AA!I!UzEEzI!IzOO
  zU!UcRMUKHI ABBREVIATION SIGNkDDAKjDIGIT EIGHTpFIVEqOURpNINEpONEpSEVENqIXpTHREEqWOpZEROjEK ONKAR
  jIRIjLETTER ArArIrUqBArHAqCArHAqDArDAsHArHAqEEqFAqGArHAsHAqHAqIrIqJArHAqKArHAsHAqLArLAqMAqNArGA
  rNArYAqOOqPArHAqRArRAqSArHAqTArHArTAsHAqUrUqVAqYAqZAjSIGN ADAK BINDIoBINDIoNUKTAoUDAAToVIRAMA
  qSARGAoYAKASHjTIPPIjURAjVOWEL SIGN AAvIvUuEEuIvIuOOuUvUaHADEScIR SPACEeCUTcLFWIDTH BLACK SQUARE
  kDOWNWARDS ARROWkFORMS LIGHT VERTICALkHANGUL FILLERrLETTER AzEyCHIEUCHzIEUCyEzOzUyHIEUHyIzEUNG
  yKHIEUKHzIYEOK*-SIOSyMIEUMyNIEUN&-CIEUC*HIEUHyOzEyPHIEUPHzIEUP&-SIOSyRIEUL&-HIEUH*KIYEOK*MIEUM
  *PHIEUPH+IEUP*SIOS*THIEUTHySIOSzSANGCIEUC&KIYEOK&PIEUP&SIOS&TIKEUTyTHIEUTHzIKEUTyUyWA!EzE!OzIyYA
  !EzE!OzIzOzUkIDEOGRAPHIC COMMAwFULL STOPkKATAKANA LETTER A!E!HA$E$I$O$U!I!KA$E$I$O$U!MA$E$I$O$U
  !N$A$E$I$O$U!O!RA$E$I$O$U!SA$E$I$MALL A,E,I,O,TU,U,YA.O.U$O$U!TA$E$I$O$U!U!WA$O!YA$O$U
  tMIDDLE DOTtSEMI-VOICED SOUND MARKtVOICED SOUND MARKs-HIRAGANA PROLONGED SOUND MARK
  kLEFT CORNER BRACKEToWARDS ARROWkRIGHT CORNER BRACKETpWARDS ARROWkUPWARDS ARROWkWHITE CIRCLE
  cMBURGERdMERg AND PICKlSICKLElWRENCHdSAeTER FACEcND WITH INDEX AND MIDDLE FINGERS CROSSED
  qFINGER AND THUMB CROSSEDeBAGgLLeSHAKEdGUL CHOSEONG CEONGCHIEUMCHIEUCH%IEUC$SIOS%SANGCIEUC,SIOS
  rHIEUCHx-HIEUHyKHIEUKHtTUEUMCHIEUCHzIEUCySIOSzSANGCIEUC&SIOSrIEUCv-IEUNGqFILLERqHIEUHv-SIOS
  qIEUNGv-CHIEUCHxIEUCwHIEUHwKIYEOKwMIEUMwPANSIOSxHIEUPHxIEUPwRIEULwSIOSwTHIEUTHxIKEUT
  qKAPYEOUNMIEUMyPHIEUPHzIEUPyRIEULySSANGPIEUPrHIEUKHrIYEOKw-TIKEUTqMIEUMv-KIYEOKwPIEUPwSIOS
  wTIKEUTqNIEUNv-CIEUCwHIEUHwKIYEOKwPIEUPwSIOSwTIKEUTqPANSIOSrHIEUPHx-HIEUHyPIEUPrIEUPv-CHIEUCH
  xIEUCwHIEUHwKHIEUKHxIYEOKwNIEUNwPHIEUPHwSIOS!-CIEUC$KIYEOK$PIEUP$THIEUTH%IKEUTxSANGSIOSwTHIEUTH
  xIKEUTqRIEULv-CIEUCwHIEUHwKAPYEOUNPIEUPxHIEUKHxIYEOKwMIEUMwNIEUNwPIEUPwSIOSxSANGKIYEOK$PIEUP
  $TIKEUTwTIKEUTqSIOSu-CHIEUCHwIEUCvHIEUHvIEUNGvKHIEUKHwIYEOKvMIEUMvNIEUNvPHIEUPHwIEUP!-KIYEOK
  vRIEULvSSANGSIOSvTHIEUTHwIKEUTrSANGCIEUC!-HIEUHvHIEUHvIEUNGvKIYEOKvNIEUNvPIEUPvRIEULvSIOSz-PIEUP
  vTHIEUTHwIKEUTvYEORINHIEUHqTHIEUTHrIKEUTw-CIEUCxKIYEOKxMIEUMxPIEUPxRIEULxSIOSqYEORINHIEUHsSIEUNG
  hDOUBLE DOT TONE MARKhFILLERhJONGSEONG CHIEUCHsIEUCw-PIEUPxSSANGPIEUPrHIEUHw-MIEUMxNIEUNxPIEUP
  xRIEULrIEUNGw-KHIEUKHyIYEOKxSSANGKIYEOKrKAPYEOUNMIEUMzPHIEUPH!IEUPzRIEULsHIEUKHsIYEOKx-CHIEUCH
  yHIEUHyKHIEUKHyNIEUNyPIEUPyRIEULySIOS%-KIYEOKrMIEUMw-CHIEUCHyIEUCxHIEUHxKIYEOKxNIEUNxPANSIOS
  yIEUP%-SIOSxRIEULxSIOSySANGNIEUN%SIOSrNIEUNw-CHIEUCHyIEUCxHIEUHxKIYEOKxPANSIOSxRIEULxSIOS
  xTHIEUTHyIKEUTrPANSIOSy-KAPYEOUNPIEUPzPIEUPsHIEUPHy-PIEUPzSIOSzTHIEUTHsIEUPw-CHIEUCHyIEUCxHIEUH
  xMIEUMxPHIEUPHxRIEUL%-PHIEUPHxSIOS$-TIKEUTxTIKEUTrRIEULw-HIEUHxKAPYEOUNPIEUPyHIEUKHyIYEOK&-HIEUH
  *SIOSxMIEUM%-HIEUH&KIYEOK&SIOSxNIEUNxPANSIOSyHIEUPHyIEUP%-HIEUH&PHIEUPH&SIOS&TIKEUTxSIOS
  ySANGKIYEOK%SIOSxTHIEUTHyIKEUT&-HIEUHxYEORINHIEUH:-HIEUHzSIEUNGrSIOSv-CHIEUCHxIEUCwHIEUH
  wKAPYEOUNPIEUPxIYEOKwMIEUMwPANSIOSxIEUPwRIEULwTHIEUTHxIKEUTsSANGCIEUCwIEUNGwKIYEOKwMIEUMwNIEUN
  wPIEUPwRIEUL$-KHIEUKHwSIOS!-KIYEOK$TIKEUTwTIKEUT%-PIEUPwYESIEUNGrTHIEUTHsIKEUTx-CHIEUCHzIEUC
  yKIYEOKyPIEUPyRIEULySIOS%-KIYEOKyTHIEUTHrYEORINHIEUHtSIEUNGz-HIEUH!KHIEUKH$IYEOK!MIEUM!PANSIOS
  !SIOS$SANGKIYEOKiUNGSEONG As-EUtOtUsEsRAEAw-AxEyOxIxUrEsOt-EUuOuUsUt-AuEvOvUuOuUrFILLERrIs-A
  uRAEAtEUtItOu-ItUtYAv-OvEuEvOuOuUrOs-EuOtOu-ItUtYAvEuEvOsErSSANGARAEArUs-AuEtEO-EUtI-ItUtYEvOrWA
  tEsEtOsIrYAt-OuUuYOtEsEtOu-OvUvYAsIt-UsOt-AvEuEOuIuOuYAwEvEOsUt-AvEuEvOuIuOuUuYEwOhLETTER ApE
  pRAEAtEoCHIEUCHpIEUCoEpOpUoHIEUHoIpEUNGoKAPYEOUNMIEUMwPHIEUPHxIEUPwSSANGPIEUPpHIEUKHpIYEOKu-SIOS
  oMIEUMt-PANSIOSvIEUPuSIOSoNIEUNt-CIEUCuHIEUHuPANSIOSuSIOSuTIKEUToOpEoPANSIOSpHIEUPHpIEUPt-CIEUC
  uKIYEOKuSIOSy-KIYEOKzTIKEUTuTHIEUTHvIKEUToRIEULt-HIEUHuKIYEOK!-SIOSuMIEUMuPANSIOSvHIEUPHvIEUP
  z-SIOSuSIOSuTHIEUTHvIKEUTuYEORINHIEUHoSIOSs-CIEUCtKIYEOKtNIEUNtPIEUPtTIKEUTpSANGCIEUCtHIEUH
  tIEUNGtKIYEOKtNIEUNtPIEUPtSIOStTIKEUToTHIEUTHpIKEUToUoWAqEpEqOpIoYAqEpEqOrRINHIEUHqSIEUNG
  w-PANSIOSxSIOSpIpOq-IrYAtEpUq-IrYEtOhSINGLE DOT TONE MARKeZHOU NUMERAL EIGHTrFIVEsOURrNINErONE
  rSEVENsIXrTENsHIRTYtREEsWENTYtOdIFI ROHINGYA DIGIT EIGHTwFIVExOURwNINEwONEwSEVENxIXwTHREExWO
  wZEROqLETTER AxBAxCAxDAyDAxFAxGAxHAxJAxKAyHAyINNA WA&YAxLAxMAxNAyGAyYAxPAxRAyRAxSAyHAxTAyTAxVA
  xWAxYAxZAqMARK NA KHONNAvSAKINqSIGN HARBAHAYvTAHALAxNAxSSIqVOWEL AwEwIwOwUdUNOO LETTER ApBApDA
  pGApHApIpKApLApMApNAqGApPApRApSApTApUpWApYAiSIGN PAMUDPODiVOWEL SIGN ItU
  cPPY PERSON RAISING ONE HANDcRD DISKcTCHING CHICKdRAN LETTER ALEPHpYNoBETHoDALETH-RESHoGIMELoHE
  qTHoKAPHoLAMEDHoMEMoNUNoPEoQOPHoSADHEqMEKHpHINoTAWpETHoWAWoYODHoZAYNhNUMBER FIVEoONEr HUNDRED
  oTENpWENTYbEADPHONEeSTONEj GRAVEYARD SYMBOLdR-NO-EVIL MONKEYeT DECORATIONgHANDSgWITH ARROW
  lRIBBONlTIP ON THE LEFTdVY AMPERSAND ORNAMENThRROW SHAFT WIDTH ONE$ HALF%THIRDyTWO THIRDS
  hSTERISKgBALLOT XhLACK CURVED DOWNWARDS AND RIGHTWARDS ARROWtUPWARDS AND RIGHTWARDS ARROWmHEART
  l-FEATHERED NORTH EAST ARROWwRIGHTWARDS ARROWwSOUTH EAST ARROWgCHECK MARKjVRON SNOWFLAKEhIRCLE
  m WITH CIRCLE INSIDEsSTROKE AND TWO DOTS ABOVEmD SALTIREhONCAVE-POINTED BLACK RIGHTWARDS ARROW
  gDASHED TRIANGLE-HEADED RIGHTWARDS ARROWhIVISION SIGNhOLLAR SIGN
  iUBLE COMMA QUOTATION MARK ORNAMENTnTURNED COMMA QUOTATION MARK ORNAMENT
  iWNWARDS ARROW WITH EQUILATERAL ARROWHEAD$LARGE EQUILATERAL ARROWHEADgEIGHT POINTED BLACK STAR
  uPINWHEEL STARuRECTILINEAR BLACK STARmSPOKED ASTERISKmTEARDROP-SPOKED PROPELLER ASTERISK
  hQUALS SIGNhXCLAMATION MARK ORNAMENTxSYMBOLgFIVE POINTED BLACK STARlSPOKED ASTERISK
  hOUR BALLOON-SPOKED ASTERISKgGREEK CROSSgHEART EXCLAMATION MARK ORNAMENThORIZONTAL FILL
  gINTERROBANG ORNAMENTgLARGE CIRCLEiTIN CROSShEFT-POINTING ANGLE BRACKET ORNAMENT
  !QUOTATION MARK ORNAMENTkWARDS ARROW WITH EQUILATERAL ARROWHEAD$LARGE EQUILATERAL ARROWHEAD
  hIGATURE OPEN ET ORNAMENThOW DOUBLE COMMA QUOTATION MARK ORNAMENT
  kSINGLE COMMA QUOTATION MARK ORNAMENTjER RIGHT-SHADOWED WHITE RIGHTWARDS ARROWgMINUS SIGN
  hULTIPLICATION XgNORTH EAST ARROWrPOINTING BUD!VINE LEAFmWEST POINTING BUD!VINE LEAF
  gOPEN CENTRE CROSShUTLINED BLACK STARhVAL WITH OVAL INSIDEgPLUS SIGN
  gRIGHT-POINTING ANGLE BRACKET ORNAMENT$QUOTATION MARK ORNAMENTlWARDS ARROW
  w WITH EQUILATERAL ARROWHEAD%LARGE EQUILATERAL ARROWHEADhOUND-TIPPED RIGHTWARDS ARROWgSALTIRE
  iNS-SERIF INTERROBANG ORNAMENThCRIPT LIGATURE ET ORNAMENThINGLE COMMA QUOTATION MARK ORNAMENT
  nTURNED COMMA QUOTATION MARK ORNAMENTiX POINTED BLACK STARkSPOKED ASTERISKhOUTH EAST ARROW
  rPOINTING BUD!VINE LEAFmWEST POINTING BUD!VINE LEAFhPARKLEgTEARDROP-SHANKED RIGHTWARDS ARROW
  qPOKED ASTERISKwPINWHEEL ASTERISKhRIANGLE-HEADED RIGHTWARDS ARROWhWELVE POINTED BLACK STAR
  vPINWHEEL STARgUPPER RIGHT-SHADOWED WHITE RIGHTWARDS ARROW
  iWARDS ARROW WITH EQUILATERAL ARROWHEADzLARGE EQUILATERAL ARROWHEADgVERTICAL BAR
  gWEDGE-TAILED RIGHTWARDS ARROWhHITE CIRCLEmDOWN-POINTING TRIANGLEmSQUARE
  hIDE-HEADED RIGHTWARDS ARROWcBREW ACCENT ATNAH HAFUKHoDARGApEHIoETNAHTAoGERESHu MUQDAMrSHAYIM
  oILUYoMAHAPAKHpERKHAu KEFULApUNAHoOLEoPASHTAqZERoQADMAqRNEY PARAoREVIAoSEGOLpHALSHELET
  oTELISHA GEDOLAwQETANAqVIRpIPEHAoYERAH BEN YOMOqTIVoZAQEF GADOLuQATANqRQApINORhLETTER ALEF
  s WITH MAPIQyPATAHyQAMATSqTERNATIVE AYIN!PLUS SIGNpYINoBETr WITH DAGESHxRAFEoDALETt WITH DAGESH
  oFINAL KAFx WITH DAGESHuMEMuNUNuPEw WITH DAGESHuTSADIoGIMELt WITH DAGESHoHEq WITH MAPIQqToKAF
  r WITH DAGESHxRAFEoLAMEDt WITH DAGESHoMEMr WITH DAGESHoNUNr WITH DAGESHoPEq WITH DAGESHwRAFEoQOF
  r WITH DAGESHoRESHs WITH DAGESHoSAMEKHu WITH DAGESHpHINs WITH DAGESH* AND SHIN DOT<IN DOT
  ySHIN DOTzIN DOToTAVr WITH DAGESHpETr WITH DAGESHpSADIt WITH DAGESHoVAVr WITH DAGESHxHOLAM
  oWIDE ALEFtDALETtFINAL MEMtHEtKAFtLAMEDtRESHtTAVoYODr WITH DAGESHxHIRIQoZAYINt WITH DAGESH
  iIGATURE ALEF LAMEDqYIDDISH DOUBLE VAV+YODyVAV YODyYOD YOD PATAHhMARK LOWER DOTmMASORA CIRCLE
  mUPPER DOThPOINT DAGESH OR MAPIQnHATAF PATAHtQAMATStSEGOLoIRIQoOLAMs HASER FOR VAV
  nJUDEO-SPANISH VARIKAnMETEGnPATAHnQAMATSt QATANoUBUTSnRAFEnSEGOLoHEVApIN DOToIN DOTnTSERE
  iUNCTUATION GERESHwSHAYIMtMAQAFtNUN HAFUKHAtPASEQtSOF PASUQhYOD TRIANGLEcDGEHOGcLICOPTER
  dLSCHREIBER PAUSE SYMBOLdM SYMBOLeET WITH WHITE CROSScNTAIGANA LETTER A-1u2u3uWOsE-1u2u3u4u5u6
  sHA-1w0w1v2v3v4v5v6v7v8v9tE-1v2v3v4v5v6v7tI-1v2v3v4v5v6v7tO-1v2v3v4v5v6v7v8tU-1v2v3sI-1u2u3u4
  sKA-1w0w1v2v3v4v5v6v7v8v9vKEtE-1v2v3v4v5v6tI-1v2v3v4v5v6v7v8tO-1v2v3vKItU-1v2v3v4v5v6v7sMA-1v2v3
  v4v5v6v7tE-1v2vMAtI-1v2v3v4v5v6v7tO-1v2v3v4v5v6tU-1v2v3v4sN-MU-MO-1!2tA-1v2v3v4v5v6v7v8v9tE-1v2
  v3v4v5v6vKOtI-1v2v3v4v5v6v7vTEtO-1v2v3v4v5tU-1v2v3sO-1u2u3sRA-1v2v3v4tE-1v2v3v4tI-1v2v3v4v5v6v7
  tO-1v2v3v4v5v6tU-1v2v3v4v5v6sSA-1v2v3v4v5v6v7v8tE-1v2v3v4v5tI-1v2v3v4v5v6tO-1v2v3v4v5v6v7tU-1v2
  v3v4v5v6v7v8sTA-1v2v3v4tE-1v2v3v4v5v6v7v8v9tI-1v2v3v4v5v6v7tO-1v2v3v4v5v6vRAtU-1v2v3v4vTOsU-1u2
  u3u4u5sWA-1v2v3v4v5tE-1v2v3v4tI-1v2v3v4v5tO-1v2v3v4v5v6v7sYA-1v2v3v4v5vYOtO-1v2v3v4v5v6tU-1v2v3
  v4cRBdMITIAN CONJUGATE MATRIXcXAGRAM FOR ABUNDANCEoFTER COMPLETIONoPPROACHnBEFORE COMPLETION
  oITING THROUGHoREAKTHROUGHnCOMING TO MEETpNFLICTqTEMPLATIONnDARKENING OF THE LIGHToECREASE
  pLIVERANCEpVELOPMENToIFFICULTY AT THE BEGINNINGpSPERSIONoURATIONnENTHUSIASMnFELLOWSHIPoOLLOWING
  nGATHERING TOGETHERoRACEpEAT POSSESSIONvWERuREPONDERANCEtTAMINGnHOLDING TOGETHERnINCREASE
  pFLUENCEpNER TRUTHqOCENCEnLIMITATIONnMODESTYpUTH CORNERSnOBSTRUCTIONoPPOSITIONqRESSIONnPEACE
  oROGRESSoUSHING UPWARDnRETREATqURNpVOLUTIONnSMALL PREPONDERANCEtTAMINGoPLITTING APARToTANDSTILL
  nTHE ABYSMAL WATERsRMYtOUSING THUNDERrCAULDRONsLINGING FIREsREATIVE HEAVENrFAMILYrGENTLE WIND
  rJOYOUS LAKErKEEPING STILL MOUNTAINrMARRYING MAIDENrRECEPTIVE EARTHrWANDERERsELLoREADINGnWAITING
  oORK ON THE DECAYEDnYOUTHFUL FOLLYbIBISCUScGH BRIGHTNESS SYMBOLfOCTET PRESETfVOLTAGE SIGN
  e-HEELED SHOEfSPEED TRAINq WITH BULLET NOSEcKING BOOTcNDU TEMPLEcPPOPOTAMUScRAGANA DIGRAPH YORI
  jITERATION MARKjLETTER ArRCHAIC WUyYEqBArErIrOrUqDArErIrOrUqEqGArErIrOrUqHArErIrOrUqIqKArErIrOrU
  qMArErIrOrUqNrArErIrOrUqOqPArErIrOrUqRArErIrOrUqSArErIrMALL AwEwIwKAxEwOwTUwUwWAxExIxOwYAxOxUrO
  rUqTArErIrOrUqUqVUqWArErIrOqYArOrUqZArErIrOrUjVOICED ITERATION MARKcSTORIC SITEbOCHOcLE
  dLOW QUILT SQUARE ORNAMENT% IN BLACK SQUAREcMOTHETICcNEY POTfBEEcOKcPcRIZONTAL BARmLACK HEXAGON
  rOCTAGONlELLIPSISlLINE EXTENSIONlMALE WITH STROKE SIGNlONE EIGHTH BLOCK-1358%2%3%4%5%6%7
  lSCAN LINE-1v3v7v9lTAB KEYoULATIONv SETwWITH JUSTIFICATIONmRAFFIC LIGHTdSEf FACEgRACINGcSPITAL
  cT BEVERAGEeDOGePEPPEReSPRINGSdELcURGLASSj WITH FLOWING SANDdSEf BUILDINGoSgWITH GARDEN
  bRYVNIA SIGNbTcJcSbUGGING FACEcNDRED POINTS SYMBOLcSHED FACEcTbYGIEAcPHENg BULLEThWITH DIAERESIS
  g-MINUSgATION POINTdODIASTOLEcSTERESIS SYMBOLaI LOVE YOU HAND SIGNbCE CREAMfUBE
  eHOCKEY STICK AND PUCKeSKATEbDENTICAL TOm AND SLANTED PARALLELkWITH DOT ABOVEgFICATION CARD
  dOGRAPHIC ANNOTATION BOTTOM MARKxEARTH MARKxFIRST MARKyOUR MARK$TH MARKxHEAVEN MARKxLINKING MARK
  xMAN MARKyIDDLE MARKxONE MARKxREVERSE MARKxSECOND MARKxTHIRD MARKzREE MARKyOP MARKyWO MARK
  mCLOSING MARKnOMMAmDEPARTING TONE MARKoSCRIPTION CHARACTER ABOVE TO BELOW~ MIDDLE AND BELOW
  :FULL SURROUND:LEFT TO MIDDLE AND RIGHT~RIGHT:OVERLAID:SURROUND FROM ABOVE~ FROM BELOW
  ~ FROM LEFT~ FROM LOWER LEFT~ FROM UPPER LEFT~ FROM UPPER RIGHTmENTERING TONE MARKmFULL STOP
  mHALF FILL SPACEmITERATION MARKmLEVEL TONE MARKmNUMBER ZEROmRISING TONE MARKmSPACE
  mTALLY MARK FIVEyOURxONExTHREEyWOnELEGRAPH LINE FEED SEPARATOR SYMBOLwSYMBOL FOR APRIL:UGUST
  .DAY EIGHT~EEN>LEVEN=FIFTEEN?VE>OUR_TEEN=NINE_TEEN=ONE=SEVEN~TEEN>IX^TEEN=TEN>HIRTEEN~Y~Y-ONE
  ?REE>WELVE^NTY~Y-EIGHT~Y-FIVE~Y-FOUR~Y-NINE~Y-ONE~Y-SEVEN~Y-SIX~Y-THREE~Y-TWO?O:ECEMBER.FEBRUARY
  .HOUR EIGHT~TEEN?LEVEN>FIFTEEN^VE?OUR~TEEN>NINE~TEEN>ONE>SEVEN~NTEEN?IX_TEEN>TEN?HIRTEEN^REE
  ?WELVE_NTY~TY-FOUR~TY-ONE~TY-THREE~TY-TWO^O>ZERO.JANUARY:ULY;NE.MARCH;Y.NOVEMBER.OCTOBER
  .SEPTEMBERmVARIATION INDICATORbMAGE OFi OR APPROXIMATELY EQUAL TOcPdERIAL ARAMAIC LETTER ALEPH
  zYINyBETHyDALETHyGIMELyHE!THyKAPHyLAMEDHyMEMyNUNyPEyQOPHyRESHySADHE!MEKHzHINyTAWzETHyWAWyYODH
  yZAYINrNUMBER ONE$ HUNDRED%THOUSANDyTEN$ THOUSANDzHREEzWENTY!OrSECTION SIGNbNBOX TRAY
  cCOMING ENVELOPEfPLETE INFINITYdREASE FONT SIZE SYMBOLiS ASfMENTcDdEXf POINTING AT THE VIEWER
  dIAN RUPEE SIGNeC SIYAQ ALTERNATE LAKH MARKmFRACTION ONE HALFzQUARTERvTHREE QUARTERSmLAKH MARK
  mNUMBER ALTERNATE ONE&TEN THOUSAND*WOtEIGHTy HUNDREDzTHOUSANDyYz THOUSANDtFIFTYy THOUSANDvVE
  x HUNDREDyTHOUSANDuORTYy THOUSANDvURx HUNDREDyTHOUSANDtKARORyANtLAKHxANtNINEx HUNDREDyTHOUSAND
  xTYz THOUSANDtONEw HUNDREDxTHOUSANDtPREFIXED EIGHT%FIVE&OUR%NINE%ONE%SEVEN&IX%THREE&WOtSEVEN
  y HUNDREDzTHOUSANDyTY! THOUSANDuIXw HUNDREDxTHOUSANDwTYy THOUSANDtTENw THOUSANDuHIRTYz THOUSAND
  vREEy HUNDREDzTHOUSANDuWENTYz THOUSANDvOw HUNDREDxTHOUSANDmPLACEHOLDERmRUPEE MARKcFINITY
  i NEGATED WITH VERTICAL BARdORMATION DESK PERSONmSEPARATOR FOURwONEwTHREExWOnOURCE
  cHIBIT ARABIC FORM SHAPINGiSYMMETRIC SWAPPINGcPUT SYMBOL FOR LATIN CAPITAL LETTERSxLETTERS
  xSMALL LETTERSrNUMBERSrSYMBOLScSCRIPTIONAL PAHLAVI LETTER ALEPH&BETH&DALETH&GIMEL&HE+TH&KAPH
  &LAMEDH&MEM-QOPH&NUN&PE&SADHE+MEKH*HIN&TAW*ETH&WAW-AYIN-RESH&YODH&ZAYINwNUMBER FOUR&ONE, HUNDRED
  .THOUSAND&TEN*HREE*WENTY+OqRTHIAN LETTER ALEPH+YIN*BETH*DALETH*GIMEL*HE,TH*KAPH*LAMEDH*MEM*NUN
  *PE*QOPH*RESH*SADHE,MEKH+HIN*TAW+ETH*WAW*YODH*ZAYINxNUMBER FOUR*ONE. HUNDRED:THOUSAND*TEN+HREE
  +WENTY,OdERTION SYMBOLcTEGRALi AROUND A POINT OPERATORkVERAGE WITH SLASHjEXTENSION
  jWITH DOUBLE STROKEoINTERSECTIONoLEFTWARDS ARROW WITH HOOKoOVERBARoTIMES SIGNoUNDERBARqION
  eRCALATEfIOR PRODUCTfLINEAR ANNOTATION ANCHORxSEPARATORxTERMINATORgOCKED FEMALE AND MALE SIGN
  fROBANGfSECTIONm ABOVE BAR ABOVE UNIONtUNIONnBESIDE AND JOINED WITH INTERSECTIONnWITH DOT
  sLOGICAL ANDsOVERBARcVERSE BULLETiCHECK MARKnER BOARD FILLiDOWNWARDS ARROW WITH TIP LEFTWARDS
  iMEDIUM SHADEiWHITE CIRCLEfTED EXCLAMATION MARKjINTERROBANGjLAZY SkOW KAVYKAt WITH KAVYKA ABOVE
  jOHM SIGNjPENTAGRAMjQUESTION MARKjUNDERTIEdISIBLE PLUSkSEPARATORkTIMESbZAKAYA LANTERN
  aJACK-O-LANTERNcPANESE BANK SYMBOLjCASTLEjDOLLSjGOBLINjINDUSTRIAL STANDARD SYMBOLjOGRE
  jPOST OFFICEjSYMBOL FOR BEGINNERcRcVANESE CONSONANT SIGN CAKRAyKERETyPENGKALjDIGIT EIGHTpFIVE
  qOURpNINEpONEpSEVENqIXpTHREEqWOpZEROjLEFT RERENGGANlTTER ArIqBAs MURDAqCAs MURDAqDAs MAHAPRANA
  rDAt MAHAPRANAqEqGAs MURDAqHAqIr KAWIrIqJAs MAHAPRANAqKAs MURDAtSASAKqLAqMAqNAs MURDArGAt LELET
  z RASWADIrYAt MURDAqOqPAs CEREKtMURDAqRAs AGUNGqSAs MAHAPRANAuURDAqTAs MURDArTAt MAHAPRANAqUqWA
  qYAjPADA ADEGs ADEGpNDAPoISEN-ISENoLINGSApUHURqNGSIoMADYAoPANGKATpISELEHoTIRTA TUMETESoWINDU
  lNGKONnRANGKEPjRIGHT RERENGGANjSIGN CECAKt TELUoLAYARoPANYANGGAoWIGNYANjTURNED PADA PISELEH
  jVOWEL SIGN DIRGA MUREuPEPETuSUKUy MENDUTuTALINGwRUNGvOLONGuWULUy MELIKbEANSbIGSAW PUZZLE PIECE
  bOINcYSTICKbUGGLINGcNOcPITERaKAABAcITHI ABBREVIATION SIGNhDANDAiOUBLE DANDAoSECTION MARK
  hENUMERATION SIGNhLETTER ApApIpUoBApHAoCApHAoDApDAqDHAqHApHAoEoGApHAoHAoIpIoJApHAoKApHAoLAoMAoNA
  pGApNApYAoOoPApHAoRApHAoSApHApSAoTApHApTAqHAoUpUoVAoYAhNUMBER SIGNs ABOVEhSECTION MARK
  iIGN ANUSVARAmCANDRABINDUmNUKTAmVIRAMAoSARGAhVOWEL SIGN AAtItUsEsItIsOsUtUsVOCALIC RcNGAROO
  eXI RADICAL AGAINqNDqRRIVEsOWqXEpBADGERrMBOOqEANqIGrRDrTTERqLACKrOODrUEqOATrDYrLT OF CLOTHrNErW
  qRANCHrISTLErUSHpCARTrULDRONrVEqHILDqITYqLANsWrIFFrOTHESqOLORrMPARErRPSErVERrWpDEATHrERqIPPERrSH
  sTINGUISHrVINATIONqO NOTrGrORrTsTED CLIFFwTENTrUBLE XrWN BOXqRAGONrUMrYpEARsTHrTqIGHTqMBROIDERY
  qNCLOSURErTERqVENtINGqYEpFACErNGrTHERqEATHERqIELDrGHTrRErSHqLUTErYqOOTqRAGRANTrOGqURpGATEqHOSTqO
  r SLOWLYrLDqRAINsSSpHAIRrLBERDsF TREE TRUNKrNDqEADsRTrMPqIDING ENCLOSUREqOOKrRNsSEpICEqNCHrSECT
  pJADErRpKNIFEpLACKrMEqEAFsTHERrEKrGSqIDrFErNEqONGt STRIDEpMANqEATrLONqILLETrNISTERqOONrRNINGsTAR
  rUNDtTAINsTHpNETqOSErTpOLDqNEsSELFqPEN BOXrPOSEpPIGqLOWqOWERqRIVATErOFOUNDpRAINrPrTqEDqICE
  rGHT OPEN BOXrVERqOOFqUNpSACRIFICIAL WINErLTrYqCHOLARrRIPTqEALrCONDrErLFqHEEPsLLrOOT
  sRT TAILED BIRDwHREADqICKNESSrLKqKINqLASHsVErICEqMALLqNOUTqOUNDqPEARsECHrIRITrOONrROUTqQUARE
  qTANDrEAMsPrONEsPtPINGqUNqWEETpTABLErLLrNNED LEATHERqENqIGERrLEqONGUErOTHqRACKrEErIPODqURBANsTLE
  qWOs HANDSpUSEpVALLEYqILLAGEpWALKt ENCLOSURErTERqEAPONrSTqHEATrITEqINDsEqOMANrRKqRAPrONGpYELLOW
  dNADA AI LENGTH MARKiDIGIT EIGHToFIVEpOURoNINEoONEoSEVENpIXoTHREEpWOoZEROiLENGTH MARKkTTER AqAqI
  qUpBAqHApCAqHApDAqDArHAqHApEqEpFApGAqHApHApIqIpJAqHApKAqHApLAqLArLApMApNArKAARA POLLUqGAqNAqYApO
  qOpPAqHApRAqRApSAqHAqSApTAqHAqTArHApUqUpVAqOCALIC LyLxRyRpYAiSIGN ANUSVARAoVAGRAHAnCANDRABINDU
  nJIHVAMULIYAnNUKTAnSIDDHAMoPACING CANDRABINDUnUPADHMANIYAnVIRAMApSARGAiVOWEL SIGN AAuIuUtEuEtIuI
  tOuOtUuUtVOCALIC L%L$R%RcTAKANA DIGRAPH KOTOjITERATION MARKjLETTER ArRCHAIC EyWUyYEzIqBArErIrOrU
  qDArErIrOrUqEqGArErIrOrUqHArErIrOrUqIqKArErIrOrUqMArErIsNNAN NASALIZED TONE-1>2>3>4>5>7>8xTONE-2
  %3%4%5%7%8rOrUqNrArErIrOrUqOqPArErIrOrUqRArErIrOrUqSArErIrMALL AwEwHAxExIxOxUwIwKAxExUwMUwNxUwO
  wRAxExIxOxUwSIxUwTOxUwUwWAxExIxOwYAxOxUrOrUqTArErIrOrUqUqVArErIrOrUqWArErIrOqYArOrUqZArErIrOrU
  jMIDDLE DOTjVOICED ITERATION MARKi-HIRAGANA DOUBLE HYPHENsPROLONGED SOUND MARK
  sSEMI-VOICED SOUND MARKsVOICED SOUND MARKcYAH LI DIGIT EIGHTpFIVEqOURpNINEpONEpSEVENqIXpTHREEqWO
  pZEROjLETTER AqBAqCAqDAqGAqHArTAqIqKArHAqLAqMAqNArGArYAqOErOqPArHAqRAqSArHAqTArHAqVAqWAqYAqZA
  jSIGN CWIoSHYAjTONE CALYAt PLOPHUoPLOPHUjVOWEL EqEpOpUqEbELVIN SIGNcYdBOARDi AND MOUSEdCAP TEN
  bHAROSHTHI DIGIT FOURrONErTHREEsWOlFRACTION ONE HALFlLETTER AsBAtHAsCAtHAsDAtDAuHAtHAsGAtHAsHA
  sJAsKAtHAtKAsLAsMAsNAtNAtYAsPAtHAsRAsSAtHAtSAsTAtHAtTAuHAuTAvHAsVAtHAsYAsZAlNUMBER ONE HUNDRED
  wTHOUSANDsTENtWENTYlPUNCTUATION CIRCLEyRESCENT BARxDANDAyOTzUBLE DANDAxLINESyOTUSxMANGALAM
  xSMALL CIRCLElSIGN ANUSVARAqBAR ABOVEqCAUDAqDOT BELOWsUBLE RING BELOWqVISARGAlVIRAMA
  mOWEL LENGTH MARKrSIGN EwIwOwUwVOCALIC RcITAN SMALL SCRIPT CHARACTER-18B00:1:2:3:4:5:6:7:8:9:A:B
  :C:D:E:F.10:1:2:3:4:5:6:7:8:9:A:B:C:D:E:F.20:1:2:3:4:5:6:7:8:9:A:B:C:D:E:F.30:1:2:3:4:5:6:7:8:9
  :A:B:C:D:E:F.40:1:2:3:4:5:6:7:8:9:A:B:C:D:E:F.50:1:2:3:4:5:6:7:8:9:A:B:C:D:E:F.60:1:2:3:4:5:6:7
  :8:9:A:B:C:D:E:F.70:1:2:3:4:5:6:7:8:9:A:B:C:D:E:F.80:1:2:3:4:5:6:7:8:9:A:B:C:D:E:F.90:1:2:3:4:5
  :6:7:8:9:A:B:C:D:E:F.A0:1:2:3:4:5:6:7:8:9:A:B:C:D:E:F.B0:1:2:3:4:5:6:7:8:9:A:B:C:D:E:F.C0:1:2:3
  :4:5:6:7:8:9:A:B:C:D:E:F.D0:1:2:3:4:5:6:7:8:9:A:B:C:D:E:F.E0:1:2:3:4:5:6:7:8:9:A:B:C:D:E:F.F0:1
  :2:3:4:5:6:7:8:9:A:B:C:D:E:F,C00:1:2:3:4:5:6:7:8:9:A:B:C:D:E:F.10:1:2:3:4:5:6:7:8:9:A:B:C:D:E:F
  .20:1:2:3:4:5:6:7:8:9:A:B:C:D:E:F.30:1:2:3:4:5:6:7:8:9:A:B:C:D:E:F.40:1:2:3:4:5:6:7:8:9:A:B:C:D
  :E:F.50:1:2:3:4:5:6:7:8:9:A:B:C:D:E:F.60:1:2:3:4:5:6:7:8:9:A:B:C:D:E:F.70:1:2:3:4:5:6:7:8:9:A:B
  :C:D:E:F.80:1:2:3:4:5:6:7:8:9:A:B:C:D:E:F.90:1:2:3:4:5:6:7:8:9:A:B:C:D:E:F.A0:1:2:3:4:5:6:7:8:9
  :A:B:C:D:E:F.B0:1:2:3:4:5:6:7:8:9:A:B:C:D:E:F.C0:1:2:3:4:5:6:7:8:9:A:B:C:D:E:F.D0:1:2:3:4:5
  uFILLERcMER CURRENCY SYMBOL RIELgDIGIT EIGHTmFIVEnOURmNINEmONEmSEVENnIXmTHREEnWOmZERO
  gINDEPENDENT VOWEL LY!YyQAA!I!Q!UzEzI!IzOO TYPE ONE.TWOzU!K!U$VyRY!YgLETTER BAnCAoHApOoOnDAoOnHA
  nKAoHApOoOnLAoOnMOnNGOoNOoOoYOnPHApOoOnQAnROnSAoHAoSOnTAoHApOoOoTHAqOnVOnYOgSIGN AHSDAmTTHACAN
  mVAKRAHASANYAlBANTOCnRIYOOSANnTHAMASATmEYYALlCAMNUC PII KUUHmOENGlKAKABATmHANmOOMUUTlLEK TOO
  lMUUSIKATOANlNIKAHITlPHNAEK MUANlREAHMUKmOBATlSAMYOK SANNYAlTOANDAKHIATmRIISAPlVIRIAM
  lYUUKALEAPINTUhYMBOL BEI KOETrROCoUON KOETsROCnDAP KOETrROCq-BEI KOETvROCsUON KOETwROCrMUOY KOET
  wROCrPII KOETvROCsRAM KOETwROCnLEK ATTAK BEIyUONxMUOYxPIIyRAM$-BEI&UON%MUOY%PIIxSONnMUOY KOET
  sROCnPATHAMASAToII KOETrROCoRAM KOETsROCr-BEI KOETwROCtUON KOETxROCsMUOY KOETxROCsPII KOETwROC
  nTUTEYASATgVOWEL INHERENT AAwQmSIGN AAsEsIsUrErIsEsIrOEsOrUsAsUrYsAsYcOJKI ABBREVIATION SIGN
  hDANDAiOUBLE DANDAoSECTION MARKhLETTER ApApIpUoBApBApHAoCApHAoDApDAqDAqHApHAoEoGApGApHAoHAoIoJA
  pJAoKApHAoLApLAoMAoNApGApNApYAoOoPApHAoRAoSAoTApHApTAqHAoUoVAoYAhSECTION MARKiIGN ANUSVARAmNUKTA
  mSHADDAnUKUNmVIRAMAhVOWEL SIGN AAtItUsEsItIsOsUhWORD SEPARATORcUDAWADI DIGIT EIGHTqFIVErOURqNINE
  qONEqSEVENrIXqTHREErWOqZEROkLETTER AsAsIsUrBAsBAsHArCAsHArDAsDAtDAtHAsHArErGAsGAsHArHArIsIrJAsHA
  sJArKAsHArLArMArNAsGAsNAsYArOrPAsHArRAsRArSAsHArTAsHAsTAtHArUsUrVArYAkSIGN ANUSVARApNUKTApVIRAMA
  kVOWEL SIGN AAwIwUvEvIwIvOvUwUbIMONOcP SIGNcSSe MARKeING CAT FACE WITH CLOSED EYESiFACE
  m WITH CLOSED EYESsSMILING EYEScTEcWIFRUITbNEELING PERSONcOTbOALAcREAN STANDARD SYMBOLbRONOS
  aL B BAR SYMBOLbAB COATdELcCROSSE STICK AND BALLcDDERdY BEETLEcNGUAGE TAGcO CANCELLATION MARK
  eDIGIT EIGHTkFIVElOURkNINEkONEkSEVENlIXkTHREElWOkZEROeELLIPSISeHO MOhNOeKO LAeLETTER BOlCOlDO
  lFO FAYpONoSUNGoTAMlHO SUNGoTAMlKHMU GOqNYOnO SUNGpTAMmOlLOn LINGpOOTlMOlNGOmOmYOlOlPALI BHAqCHA
  qDDAsHArHAqGHAqJHAqLLAqNNArYAqTTAsHAmHO SUNGpTAMmOlROlSANSKRIT SHAvSAmO SUNGoTAMlTHO SUNGpTAMmO
  lWOlYOeNIGGAHITAeSEMIVOWEL SIGN LOtNYOfIGN PALI VIRAMAeTONE MAI CATAWAnEKnTHOoIeVOWEL SIGN AqAqI
  qMqYpEqIpIqIpMAI KANuONpOpUqUpYqYcRGE BLUE CIRCLElDIAMONDlSQUAREhROWN CIRCLEmSQUAREgCIRCLE
  gDOWN TACKgGREEN CIRCLEmSQUAREgLEFT TRIANGLE OPERATORgONE DOT OVER TWO DOTS PUNCTUATION
  kRING OVER TWO RINGS PUNCTUATIONhRANGE CIRCLEnDIAMONDnSQUAREgPURPLE CIRCLEnSQUAREgRED CIRCLE
  kSQUAREgTRIPLE VERTICAL BAR OPERATORhWO DOTS OVER ONE DOT PUNCTUATION
  kRINGS OVER ONE RING PUNCTUATIONgUP TACKgYELLOW CIRCLEnSQUAREfR THANl OR EQUAL TOdI SIGN
  cST QUARTER MOONr SYMBOLsWITH FACEcTIN CAPITAL LETTER Aw WITH ACUTE%BREVE. AND ACUTE>DOT BELOW
  >GRAVE>HOOK ABOVE>TILDE%CARON&IRCUMFLEX> AND ACUTE~ DOT BELOW~ GRAVE~ HOOK ABOVE~ TILDE
  %DIAERESIS= AND MACRON&OT ABOVE= AND MACRON,BELOW*UBLE GRAVE%GRAVE%HOOK ABOVE%INVERTED BREVE
  %MACRON%OGONEK%RING ABOVE> AND ACUTE.BELOW%STROKE%TILDEwAwEx WITH ACUTE&MACRONwFRICAN DwLPHA
  wNGLICANA WwOwUwVx WITH HORIZONTAL BARwYvBw WITH DOT ABOVE,BELOW%FLOURISH%HOOK%LINE BELOW%STROKE
  %TOPBARwETAwROKEN LvCw WITH ACUTE%BAR%CARON&EDILLA; AND ACUTE&IRCUMFLEX%DOT ABOVE%HOOK
  %PALATAL HOOK%STROKEwHIwLOSED INSULAR GwONwUATRILLO* WITH COMMAvDw WITH CARON&EDILLA
  &IRCUMFLEX BELOW%DOT ABOVE,BELOW%HOOK%LINE BELOW%SHORT STROKE OVERLAY&MALL LETTER Z~ WITH CARON
  &TROKE%TOPBARwZx WITH CARONvEw WITH ACUTE%BREVE%CARON&EDILLA; AND BREVE&IRCUMFLEX> AND ACUTE
  ~ DOT BELOW~ GRAVE~ HOOK ABOVE~ TILDE?BELOW%DIAERESIS&OT ABOVE,BELOW*UBLE GRAVE%GRAVE%HOOK ABOVE
  %INVERTED BREVE%MACRON: AND ACUTE?GRAVE%OGONEK%STROKE%TILDE. BELOWwGYPTOLOGICAL AIN<LEFwNGwSHwT
  xHwZHy REVERSEDzWITH CARONvFw WITH DOT ABOVE%HOOK%STROKEvGw WITH ACUTE%BREVE%CARON&EDILLA
  &IRCUMFLEX%DOT ABOVE%HOOK%MACRON%OBLIQUE STROKE%STROKEwAMMAwHAwLOTTAL A&I&STOP&UvH
  w WITH BREVE BELOW%CARON&EDILLA&IRCUMFLEX%DESCENDER&IAERESIS&OT ABOVE,BELOW%HOOK%STROKEwALF H
  wENGwWAIRvIw WITH ACUTE%BREVE%CARON&IRCUMFLEX%DIAERESIS= AND ACUTE&OT ABOVE,BELOW*UBLE GRAVE
  %GRAVE%HOOK ABOVE%INVERTED BREVE%MACRON%OGONEK%STROKE%TILDE. BELOWwNSULAR D&F&G&R&S&TwOTAwSvJ
  w WITH CIRCUMFLEX&ROSSED-TAIL%STROKEvKw WITH ACUTE%CARON&EDILLA%DESCENDER&IAGONAL STROKE
  &OT BELOW%HOOK%LINE BELOW%OBLIQUE STROKE%STROKE: AND DIAGONAL STROKEvLw WITH ACUTE%BAR&ELT%CARON
  &EDILLA&IRCUMFLEX BELOW%DOT BELOW= AND MACRON*UBLE BAR%HIGH STROKE%LINE BELOW%MIDDLE DOT;TILDE
  %SMALL LETTER J&TROKEwJvMw WITH ACUTE%DOT ABOVE,BELOW%HOOKwIDDLE SCOTS S$-WELSH LL:VvN
  w WITH ACUTE%CARON&EDILLA&IRCUMFLEX BELOW%DESCENDER&OT ABOVE,BELOW%GRAVE%LEFT HOOK&INE BELOW
  &ONG RIGHT LEG%OBLIQUE STROKE%SMALL LETTER J%TILDEwJvOw WITH ACUTE%BREVE%CARON&IRCUMFLEX
  > AND ACUTE~ DOT BELOW~ GRAVE~ HOOK ABOVE~ TILDE%DIAERESIS= AND MACRON&OT ABOVE= AND MACRON
  ,BELOW*UBLE ACUTE;GRAVE%GRAVE%HOOK ABOVE*RN, AND ACUTE=DOT BELOW=GRAVE=HOOK ABOVE=TILDE
  %INVERTED BREVE%LONG STROKE OVERLAY*OP%MACRON: AND ACUTE?GRAVE&IDDLE TILDE%OGONEK: AND MACRON
  %STROKE: AND ACUTE%TILDE. AND ACUTE>DIAERESIS>MACRONwIwLD POLISH OwMEGAwOwPEN E!OwUvP
  w WITH ACUTE%DOT ABOVE%FLOURISH%HOOK%SQUIRREL TAIL&TROKE: THROUGH DESCENDERvQ
  w WITH DIAGONAL STROKE%STROKE THROUGH DESCENDERvRw ROTUNDAxWITH ACUTE%CARON&EDILLA%DOT ABOVE
  ,BELOW= AND MACRON*UBLE GRAVE%INVERTED BREVE%LINE BELOW%OBLIQUE STROKE%STROKE%TAIL
  wEVERSED C WITH DOT*E*HALF H*OPEN EwUM ROTUNDAvSw WITH ACUTE. AND DOT ABOVE%CARON. AND DOT ABOVE
  &EDILLA&IRCUMFLEX&OMMA BELOW%DOT ABOVE,BELOW= AND DOT ABOVE%HOOK%OBLIQUE STROKE
  %SHORT STROKE OVERLAY&WASH TAILwALTILLOwCHWAxRIPT GwHARP SwIGMOID SwMALL CAPITAL I
  $Q WITH HOOK TAILvTw WITH CARON&EDILLA&IRCUMFLEX BELOW&OMMA BELOW%DIAGONAL STROKE&OT ABOVE,BELOW
  %HOOK%LINE BELOW%RETROFLEX HOOK%STROKEwHORN! WITH STROKE> THROUGH DESCENDERwONE FIVE!SIX!TWO
  wRESILLOwURNED A&LPHA%H%INSULAR G%K%L%M%T%VwZvUw BARxWITH ACUTE%BREVE%CARON&IRCUMFLEX> BELOW
  %DIAERESIS= AND ACUTE~CARON~GRAVE~MACRON>BELOW&OT BELOW*UBLE ACUTE;GRAVE%GRAVE%HOOK ABOVE*RN
  , AND ACUTE=DOT BELOW=GRAVE=HOOK ABOVE=TILDE%INVERTED BREVE%MACRON: AND DIAERESIS%OGONEK
  %RING ABOVE%STROKE%TILDE. AND ACUTE:BELOWwPSILONvVw WITH DIAGONAL STROKE&OT BELOW%HOOK%TILDEwEND
  wISIGOTHIC ZwOLAPUK AE&OE&UEwYvWw WITH ACUTE%CIRCUMFLEX%DIAERESIS&OT ABOVE,BELOW%GRAVE%HOOKwYNN
  vXw WITH DIAERESIS&OT ABOVEvYw WITH ACUTE%CIRCUMFLEX%DIAERESIS&OT ABOVE,BELOW%GRAVE%HOOK, ABOVE
  %LOOP%MACRON%STROKE%TILDEwOGHvZw WITH ACUTE%CARON&IRCUMFLEX%DESCENDER&OT ABOVE,BELOW%HOOK
  %LINE BELOW%PALATAL HOOK%STROKE&WASH TAILpIGATURE IJxOEhROSSgEPIGRAPHIC LETTER ARCHAIC MyI LONGA
  zNVERTED MyREVERSED F.PySIDEWAYS IgLETTER AINoLVEOLAR CLICKnBIDENTAL PERCUSSIVEpLABIAL CLICK
  wPERCUSSIVEnDENTAL CLICKnGLOTTAL STOPz WITH STROKEnINVERTED GLOTTAL STOP: WITH CURL^STROKE
  nLATERAL CLICKnPHARYNGEAL VOICED FRICATIVEnRETROFLEX CLICK% WITH RETROFLEX HOOKpVERSED ESH LOOP
  wGLOTTAL STOP WITH STROKEnSINOLOGICAL DOToMALL CAPITAL A%E$B%ARRED B$C$D$E%TH%ZH$F$G% WITH HOOK
  $H$I%NVERTED R$J$K$L% WITH BELT:STROKE$M$N$O%E%PEN O%U$P$Q$R% WITH RIGHT LEG%EVERSED N<R%UM$S$T
  %URNED E:G:K:M:R$U$V$W$Y$ZoTRETCHED Cy WITH CURLnTWO WITH STROKEnVOICED LARYNGEAL SPIRANTnWYNN
  nYRgSMALL CAPITAL LETTER I WITH STROKE$U WITH STROKEmLETTER Au REVERSED-SCHWAvWITH ACUTE!BREVE
  + AND ACUTE<DOT BELOW<GRAVE<HOOK ABOVE<TILDE!CARON$IRCUMFLEX< AND ACUTE_DOT BELOW_GRAVE
  _HOOK ABOVE_TILDE!DIAERESIS; AND MACRON$OT ABOVE; AND MACRON*BELOW%UBLE GRAVE!GRAVE!HOOK ABOVE
  !INVERTED BREVE!MACRON!OGONEK!RETROFLEX HOOK$IGHT HALF RING%NG ABOVE< AND ACUTE+BELOW!STROKE
  !TILDEuAuEv WITH ACUTE$MACRONuLPHAy WITH RETROFLEX HOOKuNGLICANA WuOuUuVv WITH HORIZONTAL BARuY
  tBu WITH DOT ABOVE*BELOW!FLOURISH!HOOK!LINE BELOW!MIDDLE TILDE!PALATAL HOOK!STROKE!TOPBAR
  uARRED ALPHA!E!OvSELINE ESHuETAuLACKLETTER E+O, WITH STROKEuOTTOM HALF OuROKEN LtCu WITH ACUTE
  !BAR!CARON$EDILLA. AND ACUTE$IRCUMFLEX$URL!DOT ABOVE!HOOK!PALATAL HOOK!RETROFLEX HOOK!STROKEuHI
  w WITH LOW LEFT SERIF,RIGHT RINGuLOSED INSULAR G!OMEGA$PEN E!REVERSED OPEN EuONuUATRILLO
  % WITH COMMAtDu WITH CARON$EDILLA$IRCUMFLEX BELOW$URL!DOT ABOVE*BELOW!HOOK* AND TAIL!LINE BELOW
  !MIDDLE TILDE!PALATAL HOOK!SHORT STROKE OVERLAY$TROKE!TAIL$OPBARuB DIGRAPHuELTAvZH DIGRAPH
  + WITH PALATAL HOOK=RETROFLEX HOOKuOTLESS I$J% WITH STROKE^ AND HOOKvUBLE R$ WITH CROSSED-TAIL
  !THORN!WYNNuUMuZv DIGRAPH& WITH CURL;RETROFLEX HOOKwWITH CARONtEu WITH ACUTE!BREVE!CARON$EDILLA
  . AND BREVE$IRCUMFLEX< AND ACUTE_DOT BELOW_GRAVE_HOOK ABOVE_TILDE=BELOW!DIAERESIS$OT ABOVE*BELOW
  %UBLE GRAVE!FLOURISH!GRAVE!HOOK ABOVE!INVERTED BREVE!MACRON, AND ACUTE=GRAVE!NOTCH!OGONEK
  !RETROFLEX HOOK!STROKE!TILDE+ BELOWuGYPTOLOGICAL AIN:LEFuNGw WITH CROSSED-TAIL%PALATAL HOOKuSH
  w WITH CURL%DOUBLE BAR> AND CURL%PALATAL HOOK%RETROFLEX HOOKuTvHuZHw REVERSEDxWITH CARON&URL
  %PALATAL HOOK%RETROFLEX HOOK%TAILtFu WITH DOT ABOVE!HOOK!MIDDLE TILDE!PALATAL HOOK!STROKE
  uENG DIGRAPH+ WITH TRILLtGu WITH ACUTE!BREVE!CARON$EDILLA$IRCUMFLEX!DOT ABOVE!HOOK!MACRON
  !OBLIQUE STROKE!PALATAL HOOK!STROKEuAMMAuHAuLOTTAL A$I$STOP$UtHu WITH BREVE BELOW!CARON$EDILLA
  $IRCUMFLEX!DESCENDER$IAERESIS$OT ABOVE*BELOW!HOOK!LINE BELOW!PALATAL HOOK!STROKEuALF HuENG
  x WITH HOOKuVtIu WITH ACUTE!BREVE!CARON$IRCUMFLEX!DIAERESIS; AND ACUTE$OT BELOW%UBLE GRAVE!GRAVE
  !HOOK ABOVE!INVERTED BREVE!MACRON!OGONEK!RETROFLEX HOOK!STROKE, AND RETROFLEX HOOK!TILDE+ BELOW
  uNSULAR D$F$G$R$S$TvVERTED ALPHA%OEuOTAx WITH STROKEwIFIED EuStJu WITH CARON$IRCUMFLEX
  $ROSSED-TAIL!STROKEtKu WITH ACUTE!CARON$EDILLA!DESCENDER$IAGONAL STROKE$OT BELOW!HOOK!LINE BELOW
  !OBLIQUE STROKE!PALATAL HOOK!STROKE, AND DIAGONAL STROKEuRAtLu WITH ACUTE!BAR$ELT
  * AND PALATAL HOOK!CARON$EDILLA$IRCUMFLEX BELOW$URL!DOT BELOW; AND MACRON%UBLE BAR.MIDDLE TILDE
  !FISHHOOK!HIGH STROKE!INVERTED LAZY S!LINE BELOW!MIDDLE DOT.RING.TILDE!PALATAL HOOK
  !RETROFLEX HOOK^ AND BELT!STROKEuAMBDA WITH STROKEuENIS FvZHx WITH RETROFLEX HOOKuJuONG S
  z WITH DIAGONAL STROKE,OT ABOVE+HIGH STROKEuS DIGRAPHuUMuZ DIGRAPHtMu WITH ACUTE!CROSSED-TAIL
  !DOT ABOVE*BELOW!HOOK!MIDDLE TILDE!PALATAL HOOKuIDDLE SCOTS Sz-WELSH LL,VuUMtN
  u PRECEDED BY APOSTROPHEvWITH ACUTE!CARON$EDILLA$IRCUMFLEX BELOW$ROSSED-TAIL$URL!DESCENDER
  $OT ABOVE*BELOW!GRAVE!LEFT HOOK$INE BELOW$ONG RIGHT LEG!MIDDLE TILDE!OBLIQUE STROKE!PALATAL HOOK
  !RETROFLEX HOOK!TILDEuJuUMtOu WITH ACUTE!BREVE!CARON$IRCUMFLEX< AND ACUTE_DOT BELOW_GRAVE
  _HOOK ABOVE_TILDE!DIAERESIS; AND MACRON$OT ABOVE; AND MACRON*BELOW%UBLE ACUTE.GRAVE!GRAVE
  !HOOK ABOVE%RN* AND ACUTE;DOT BELOW;GRAVE;HOOK ABOVE;TILDE!INVERTED BREVE!LONG STROKE OVERLAY%OP
  %W RING INSIDE!MACRON, AND ACUTE=GRAVE!OGONEK, AND MACRON!RETROFLEX HOOK!STROKE, AND ACUTE!TILDE
  + AND ACUTE<DIAERESIS<MACRONuIuLD POLISH OuMEGAuOuPEN Ez WITH RETROFLEX HOOKyO
  z WITH RETROFLEX HOOK+STROKEzEuUtPu WITH ACUTE!DOT ABOVE!FLOURISH!HOOK!MIDDLE TILDE!PALATAL HOOK
  !SQUIRREL TAIL$TROKE, THROUGH DESCENDERuHItQu WITH DIAGONAL STROKE!HOOK* TAIL
  !STROKE THROUGH DESCENDERuP DIGRAPHtRu ROTUNDAvWITH ACUTE!CARON$EDILLA$ROSSED-TAIL!DOT ABOVE
  *BELOW; AND MACRON%UBLE GRAVE!FISHHOOK: AND MIDDLE TILDE?PALATAL HOOK!INVERTED BREVE!LINE BELOW
  $ONG LEG!MIDDLE TILDE!OBLIQUE STROKE!PALATAL HOOK!STROKE!TAILzOUT HANDLEuAMS HORNuEVERSED C
  & WITH DOT%E&NG%HALF H%K%OPEN E: WITH HOOK^RETROFLEX HOOK%R WITH FISHHOOK%SCRIPT GuUMw ROTUNDAtS
  u WITH ACUTE+ AND DOT ABOVE!CARON+ AND DOT ABOVE$EDILLA$IRCUMFLEX$OMMA BELOW$URL!DOT ABOVE*BELOW
  ; AND DOT ABOVE!HOOK!MIDDLE TILDE!OBLIQUE STROKE!PALATAL HOOK!SHORT STROKE OVERLAY$WASH TAIL
  uAKHA YATvLTILLOuCHWAy WITH HOOK*RETROFLEX HOOKvRIPT G$ WITH CROSSED-TAIL!R$ WITH RINGuHARP S
  uIDEWAYS DIAERESIZED U%O& WITH STROKE&PEN O%TURNED M%UvGMOID SuQUAT REVERSED ESHuTIRRUP RtT
  u WITH CARON$EDILLA$IRCUMFLEX BELOW$OMMA BELOW$URL!DIAERESIS&GONAL STROKE$OT ABOVE*BELOW!HOOK
  * AND RETROFLEX HOOK!LINE BELOW!MIDDLE TILDE!PALATAL HOOK!RETROFLEX HOOK!STROKEuAILLESS PHI
  uC DIGRAPH WITH CURLuESH DIGRAPH+ WITH PALATAL HOOK=RETROFLEX HOOKuH WITH STRIKETHROUGHvORN
  y WITH STROKE< THROUGH DESCENDERuONE FIVEySIXyTWOvP HALF OuRESILLOuS DIGRAPH
  & WITH RETROFLEX HOOKuUMvRNED A$E$LPHA!DELTA!E!G!H$ WITH FISHHOOK_ AND TAIL!I$NSULAR G!K!L!M
  $ WITH LONG LEG!O OPEN-O: WITH STROKE$E% WITH HORIZONTAL STROKE:STROKE$PEN E!R$ WITH HOOK
  .LONG LEG_ AND RETROFLEX HOOK.MIDDLE TILDE.PALATAL HOOK.TAIL!T$ WITH CURL!UI!V!W!Y$ WITH BELTuZ
  tUu BARy WITH SHORT RIGHT LEGvWITH ACUTE!BREVE!CARON$IRCUMFLEX< BELOW!DIAERESIS; AND ACUTE^CARON
  ^GRAVE^MACRON<BELOW$OT BELOW%UBLE ACUTE.GRAVE!GRAVE!HOOK ABOVE%RN* AND ACUTE;DOT BELOW;GRAVE
  ;HOOK ABOVE;TILDE!INVERTED BREVE!LEFT HOOK!MACRON, AND DIAERESIS!OGONEK!RETROFLEX HOOK$ING ABOVE
  !SHORT RIGHT LEG$TROKE!TILDE+ AND ACUTE,BELOWuEuIuMuOuPSILON! WITH STROKEtVu WITH CURL
  !DIAGONAL STROKE$OT BELOW!HOOK!PALATAL HOOK!RIGHT HOOK!TILDEuENDuISIGOTHIC ZuOLAPUK AE$OE$UEuYtW
  u WITH ACUTE!CIRCUMFLEX!DIAERESIS$OT ABOVE*BELOW!GRAVE!HOOK!RING ABOVEtXu WITH DIAERESIS
  $OT ABOVE!LONG LEFT LEG? AND LOW RIGHT RING^WITH SERIF%W RIGHT RING!PALATAL HOOKtYu WITH ACUTE
  !CIRCUMFLEX!DIAERESIS$OT ABOVE*BELOW!GRAVE!HOOK* ABOVE!LOOP!MACRON!RING ABOVE!SHORT RIGHT LEG
  $TROKE!TILDEuOGHtZu WITH ACUTE!CARON$IRCUMFLEX$URL!DESCENDER$OT ABOVE*BELOW!HOOK!LINE BELOW
  !MIDDLE TILDE!PALATAL HOOK!RETROFLEX HOOK!STROKE$WASH TAILnIGATURE FFxIxLwIwLvIJvLONG S TvOEvST
  hUBSCRIPT SMALL LETTER A&E&H&I&J&K&L&M&N&O&P&R&S*CHWA&T&U&V&XbEAF FLUTTERING IN WINDeY GREEN
  cDGERcFT AND LOWER AND RIGHT TRIANGULAR THREE QUARTERS BLOCKpONE EIGHTH BLOCK
  jRIGHT DOUBLE TURNSTILEpTACKqRIANGULAR HALF BLOCK
  jUPPER AND RIGHT TRIANGULAR THREE QUARTERS BLOCKpONE EIGHTH BLOCKhGER BUBBLEiLE BRACKET
  s WITH DOTgRC LESS-THAN BRACKEThROW WITH CIRCLED PLUSqSMALL CIRCLE
  fBARB DOWN RIGHT BARB DOWN HARPOON!UP HARPOONkUP RIGHT BARB DOWN HARPOONyUP HARPOON
  gLACK LENTICULAR BRACKETlTORTOISE SHELL BRACKETfCEILINGgLOSED ENTRYgORNER BRACKETgURLY BRACKET
  s LOWER HOOKtMIDDLE PIECEtUPPER HOOKfDOTTED SUBSTITUTION BRACKEThUBLE ANGLE BRACKETmPARENTHESIS
  mQUOTATION MARKmWIGGLY FENCEfFISH TAILhVE EIGHTHS BLOCKgLOORfHALF BLACK CIRCLEqSTARmOCKkCIRCLE
  q WITH DOTwFOUR DOTSwTHREE DOTSxWO DOTSkFOLDERkINVERSE MEDIUM SHADE AND RIGHT HALF BLOCK
  kMEDIUM SHADEkRUNNING MANhND TELEPHONE RECEIVERfLOW PARAPHRASE BRACKETgUGGAGEfMULTIMAP
  fNORMAL FACTOR SEMIDIRECT PRODUCTfONE EIGHTH BLOCKjQUARTER BLOCKgUTER JOINfPARENTHESIS
  q EXTENSIONrLOWER HOOKrUPPER HOOKfRAISED OMISSION BRACKETgIGHT ARROWq THROUGH SMALL CIRCLE
  rWITH DOUBLE VERTICAL STROKEwSTROKEwVERTICAL STROKElBLACK ARROWlDOUBLE ARROWx WITH STROKE
  &VERTICAL STROKElOPEN-HEADED ARROWlSANS-SERIF ARROWlTRIANGLE-HEADED ARROWlWAVE ARROWmHITE ARROW
  fS-SHAPED BAG DELIMITERgEMIDIRECT PRODUCThVEN EIGHTHS BLOCKgIDEWAYS U BRACKET
  hNGLE QUOTATION MARKgPEECH BUBBLEgQUARE BRACKETt EXTENSIONuLOWER CORNERuUPPER CORNER
  uWITH DOUBLE STROKEzQUILLzSTROKEzTICK IN BOTTOM CORNER.TOP CORNERzUNDERBARgUBSTITUTION BRACKET
  fTACKgHIRD WHITE RIGHT POINTING INDEXhOUGHT BUBBLEhREE EIGHTHS BLOCKlQUARTERS BLOCK
  gORTOISE SHELL BRACKETgRANSPOSITION BRACKEThIANGLE BESIDE VERTICAL BARlULAR ONE QUARTER BLOCK
  fVERTICAL BAR WITH QUILLpOX LINEfWHITE CORNER BRACKETmURLY BRACKETlLENTICULAR BRACKET
  lPARENTHESISlSQUARE BRACKETlTORTOISE SHELL BRACKETgIGGLY FENCEgRITING HAND
  e-FACING ARMENIAN ETERNITY SIGNmFISTmSVASTI SIGNx WITH DOTSfHANDED INTERLACED PENTAGRAM
  fPOINTING ANGLE BRACKEToCURVED ANGLE BRACKEToDOUBLE ANGLE QUOTATION MARKoMAGNIFYING GLASS
  fSHADED WHITE RIGHTWARDS ARROWgIDE ARC ANTICLOCKWISE ARROWfTO-RIGHT EMBEDDINGoISOLATEoMARK
  oOVERRIDEeWARDS ARROWp ABOVE ALMOST EQUAL TOwREVERSE ALMOST EQUAL TO*TILDE OPERATOR
  wSHORT RIGHTWARDS ARROWwTILDE OPERATORrND UPPER AND LOWER ONE EIGHTH BLOCKqFROM BAR
  y TO BLACK DIAMONDqOVER RIGHTWARDS ARROWqTHROUGH LESS-THANySUBSETyXrO BAR
  w OVER RIGHTWARDS ARROW TO BARuLACK DIAMONDqWITH DOTTED STEMxUBLE VERTICAL STROKE
  vEQUILATERAL ARROWHEADvHOOKvLARGE TRIANGLE ARROWHEADwOOPvMEDIUM TRIANGLE ARROWHEADvNOTCHED TAIL
  vPLUS BELOWvSMALL EQUILATERAL ARROWHEAD$TRIANGLE ARROWHEADwTROKEvTAIL
  z WITH DOUBLE VERTICAL STROKE+VERTICAL STROKEwIP DOWNWARDSzUPWARDSvVERTICAL STROKEp-TAIL
  kBACK-TILTED SHADOWED WHITE ARROWlLACK ARROWqCIRCLED WHITE ARROWlOTTOM-SHADED WHITE ARROW
  kCOMPRESSED ARROWkDASHED ARROWlOUBLE ARROWw FROM BARxWITH STROKE%VERTICAL STROKEw-TAIL
  rDASH ARROWkFINGER-POST ARROWlRONT-TILTED SHADOWED WHITE ARROWkHAND
  mRPOON OVER RIGHTWARDS HARPOONsWITH BARB DOWN ABOVE RIGHTWARDS HARPOON WITH BARB DOWN
  .BELOW LONG DASH.FROM BAR.TO BAR,WARDS%UP ABOVE LEFTWARDS HARPOON WITH BARB DOWN>ONG DASH
  =RIGHTWARDS HARPOON WITH BARB UP+FROM BAR+TO BAR*WARDSlEAVY ARROWqCOMPRESSED ARROW
  kLEFT-SHADED WHITE ARROWkOPEN-HEADED ARROWkPAIRED ARROWSkQUADRUPLE ARROW
  kRIGHT-SHADED WHITE ARROWlOCKETkSANS-SERIF ARROWlQUARED ARROWnIGGLE ARROWkTOP SHADED WHITE ARROW
  lRIANGLE ARROWHEADs-HEADED ARROW+ OVER RIGHTWARDS TRIANGLE-HEADED ARROW,TO BAR,WITH BOLD SHAFT
  =DOUBLE HORIZONTAL STROKE~E VERTICAL STROKE=HEAVY SHAFT=LONG TIP DOWNWARDS~TIP UPWARDS
  =MEDIUM SHAFT=NARROW SHAFT=VERY HEAVY SHAFT!DASHED ARROW!PAIRED ARROWSnPLE ARROWrDASH ARROW
  lWO HEADED ARROWn-HEADED ARROW FROM BAR$WITH DOUBLE VERTICAL STROKE,TAIL
  < WITH DOUBLE VERTICAL STROKE~VERTICAL STROKE.RIANGLE ARROWHEADS,VERTICAL STROKE
  vTRIPLE DASH ARROWkWAVE ARROWlHITE ARROWv WITHIN TRIANGLE ARROWHEADcGcMONcOdPARD
  cPCHA CONSONANT SIGN KxANGwLwMwNxYIN-DOwPwRwThDIGIT EIGHTnFIVEoOURnNINEnONEnSEVENoIXnTHREEoWO
  nZEROhLETTER AoBApLAoCApHAoDApDApZAoFApLAoGApLAoHApLAoJAoKApHApLAoLAoMApLAoNApGApYAoPApHApLAoRA
  oSApHAoTApHApSAqHApTAqHAoVAoWAoYAhPUNCTUATION CER-WAtNYET THYOOM TA-ROLtTA-ROLuSHOOKz CER-WA
  hSIGN NUKTAmRANiUBJOINED LETTER RAyYAhVOWEL SIGN AAsEsIsOtOsUtU
  cSS-THAN ABOVE DOUBLE-LINE EQUAL ABOVE GREATER-THANqGREATER-THAN ABOVE DOUBLE-LINE EQUAL
  qLEFTWARDS ARROWqSIMILAR ABOVE GREATER-THANyOR EQUAL
  rLANTED EQUAL ABOVE GREATER-THAN ABOVE SLANTED EQUALlND NOT APPROXIMATEoSINGLE-LINE NOT EQUAL TO
  kBUT NOT EQUAL TOvIVALENT TOkCLOSED BY CURVEz ABOVE SLANTED EQUALkEQUAL TO OR GREATER-THAN
  kOR APPROXIMATEnEQUAL TOqIVALENT TOnGREATER-THANnSLANTED EQUAL TO& WITH DOT ABOVE~VE RIGHT
  ?INSIDElVER EQUAL TOkSIGNkWITH CIRCLE INSIDEpDOTpQUESTION MARK ABOVEcVEL SLIDERbFbIBRA
  cGATURE OPEN ET ORNAMENTdHT CHECK MARKgEIGHT SPOKED ASTERISKgFIVE POINTED BLACK STAR
  lSPOKED ASTERISKhOUR POINTED BLACK CUSPzSTARgGREEK CROSSgLEFT TORTOISE SHELL BRACKET ORNAMENT
  gRAILhIGHT TORTOISE SHELL BRACKET ORNAMENTgSALTIREhHADEhIX SPOKED ASTERISK
  gTHREE POINTED BLACK STARhWELVE POINTED BLACK STARgVERTICAL BARgWHITE SQUAREfNINGj MOODo BUBBLE
  cMBU DIGIT EIGHTmFIVEnOURmNINEmONEmSEVENnIXmTHREEnWOmZEROgEXCLAMATION MARKgLETTER BAoHAnCAoHAnDA
  oHAnGAoHAoYANnHAnJAoHAnKAoHAnLAnMAnNAoGAnPAoHAnRAnSAoHAoSAnTAoHAoRAnWAnYApNgQUESTION MARK
  gSIGN KEMPHRENGlLOOlMUKPHRENGlSA-IhMALL LETTER ANUSVARAtKAtLAtMAtNAuGAtPAtRAtTA
  hUBJOINED LETTER RAxWAxYAgVOWEL SIGN AsIsUrEsErIrOsOrUl-CARRIER LETTERdITED LIABILITY SIGN
  cNE FEEDfINTEGRATION NOT INCLUDING THE POLErWITH RECTANGULAR PATH AROUND POLE
  wSEMICIRCULAR PATH AROUND POLEfSEPARATORfTABULATIONp SETeAR A SIGN A028Bp100-102q20Bq31Cp301r2r3
  r4r5r6r7r8r9AsBsCq10r1r2r3AsBsCr4r5r6r7r8r9q20r1r2r3r4r5r6r7r8r9q30r1r2r3r4r5r6r7r8r9q40r1r2r3r4
  r5r6r7r8r9q50r1r2r3r4r5r6r7r8r9q60r1r2r3r4r5r6r7r8r9q70r1p400-VASr1-VASr2-VASr3-VASr4-VASr5-VAS
  r6-VASr7-VASr8-VASr9-VASq10-VASr1-VASr2-VASr3-VASr4-VASr5-VASr6-VASr7-VASr8-VASp501r2r3r4r5r6r8
  r9q10r1r2r3r5r6q20r1r3r4r5r6r7r8r9q30r1r2r4r5r6r7r8r9q40r1r2r5r7r8r9q50r1r2r3r4r5r6r7r9q63r4r5r6
  r8r9q70r1r2r3r4r5r6r7r8r9q80r1r2r3r4r5r6r7r8r9q91r2r4r5r6r8p600r1r2r3r4r6r8r9q10r1r2r3r4r5r6r7r8
  r9q20r1r2r3r4r6r7r8r9q34r7r8q40r2r3r4r5r6r8r9q51r2r3r4r5r6r7r8r9q60r1r2r3r4p701 Ar2 Br3 Dr4 E
  r5 Fr6 Hr7 Jr8 Kr9 Ls-2 L2t3 L3t4 L4t6 L6q10 Wr1 Xr2 Yr3 OMEGAr4 ABBr5 BBr7 DDq26 EYYYq32 JEp800
  r1r2r3r4r5r6r7pB001s2s3s4s5s6s7s8s9r10s1s3s6s7r20s1tFtMs2tFtMs3tMs4s6s7s8s9r30s1s4s7s8s9r40s1s4
  s5s6s7s8s9r50s1s3s4s5s6s7s8s9r60s1s5s6s7s9r70s3s4s6s7s8s9r80s1s2s5s6s7q118r20s2s3r31AtBr64r71r80
  s8r91hB IDEOGRAM B100 MANv2 WOMANv4 DEERv5 EQUIDwF MAREwM STALLIONv6F EWEwM RAMv7F SHE-GOAT
  wM HE-GOATv8F SOWwM BOARv9F COWwM BULLu20 WHEATv1 BARLEYv2 OLIVEv3 SPICEv5 CYPERUSu30 OILv1 WINE
  v2u40 BRONZEv1 GOLDv2v5 WOOLv6u50v1 HORNv2v3v4v7v8v9 CLOTHu60v1v2 GARMENTv3 ARMOURv4v5v6v7v8v9
  u70v1v2v3 MONTHv4v6 TREEv7v8v9u80v1v2v3v4v5v9u90v1 HELMETt220 FOOTSTOOLv5 BATHTUBu30 SPEAR
  v1 ARROWv2v3 SWORDv4v6u40 WHEELED CHARIOTv1 CHARIOTv2 CHARIOT FRAMEv3 WHEELv5v6v8v9u51v2v3
  v4 DARTv5v6v7v8v9sVESSEL B155!200%1%2%3%4%5%6%7%8%9$10%1%2%3%4%5%6%7%8%9$21%2%6%7%8%9$50!305
  jMONOGRAM B127 KAPOv8 KANAKOu33 AREPAv5 MERIu56 TURO2t247 DIPTEjSYLLABLE B001 DAv2 ROv3 PAv4 TE
  v5 TOv6 NAv7 DIv8 Av9 SEu10 Uv1 POv2 SOv3 MEv4 DOv5 MOv6 QAv7 ZAu20 ZOv1 QIv3 MUv4 NEv5 A2v6 RU
  v7 REv8 Iv9 PU2u30 NIv1 SAv2 QOv3 RA3v6 JOv7 TIv8 Ev9 PIu40 WIv1 SIv2 WOv3 A3v4 KEv5 DEv6 JE
  v8 NWAu50 PUv1 DUv2 NOv3 RIv4 WAv5 NUv7 JAv8 SUv9 TAu60 RAv1 Ov2 PTEv5 JUv6 TA2v7 KIv8 RO2v9 TU
  u70 KOv1 DWEv2 PEv3 MIv4 ZEv5 WEv6 RA2v7 KAv8 QEu80 MAv1 KUv5 AUv7 TWEu90 DWOv1 TWOlMBOL B018t9
  s22s34s47t9s56s63t4s79s82t3t6t9dK SYMBOLeED PAPERCLIPScON FACEcPSeTICKcRA SIGNcSU LETTER AnEmBA
  mCAnHAmDAnZAmEnUmFAmGAnHAmHAnHAmImJAmKAnHAmLAmMAmNAnGAmOnEmPAnHAmSAnHAmTAnHAnONE MYA BOvCYAvJEU
  vNAvTIrNA POnSAoHAmUnEnHmWAmXAmYAnHAmZAnHAfPUNCTUATION COMMArFULL STOPcVRE TOURNOIS SIGNcZARD
  bLAMAbOBSTERcCKe WITH INK PENeING-SHIFT ONEoZEROcGICAL ANDl WITH DOT ABOVEtUBLE OVERBARyUNDERBAR
  rHORIZONTAL DASHrMIDDLE STEMrUNDERBARiORk OVERLAPPING LOGICAL ANDlWITH DOT ABOVEsUBLE OVERBAR
  xUNDERBARqHORIZONTAL DASHqMIDDLE STEMcLLIPOPcNG DASH FROM LEFT MEMBER OF DOUBLE VERTICALgIVISION
  gRUMfLEFT RIGHT ARROWqDOUBLE ARROWkTACKjWARDS ARROWu FROM BARpDOUBLE ARROW$ FROM BAR
  pSQUIGGLE ARROWfRIGHT TACKkWARDS ARROWv FROM BARqDOUBLE ARROW% FROM BARqSQUIGGLE ARROW
  cTION BOTTLEdUScUDLY CRYING FACEcVE HOTELfLETTERcW ASTERISKeBATTERYfRIGHTNESS SYMBOL
  eDOUBLE PRIME QUOTATION MARKeKAVYKAk WITH DOTeLINEdER BLADE SCISSORSgFIVE EIGHTHS BLOCK
  gHALF BLOCKlCIRCLElINVERSE WHITE CIRCLElMEDIUM SHADEgLEFT BALLPOINT PEN
  mLOCK DIAGONAL LOWER MIDDLE LEFT TO LOWER CENTRE~T TO LOWER RIGHT
  !UPPER CENTRE TO LOWER MIDDLE RIGHT~LOWER RIGHT~UPPER MIDDLE RIGHT,LEFT TO LOWER CENTRE
  ~WER MIDDLE RIGHT^UPPER MIDDLE RIGHT,MIDDLE LEFT TO LOWER CENTRE~T TO LOWER MIDDLE RIGHT
  ~T TO LOWER RIGHTlCRAYONlFOUNTAIN PENlPAINTBRUSHmENCILlQUADRANT CIRCULAR ARC
  lSEMICIRCULAR ANTICLOCKWISE ARROWlTRIANGLErULAR MEDIUM SHADEgONE EIGHTH BLOCKkQUARTER BLOCK
  gRIGHT BLOCK DIAGONAL LOWER CENTRE TO LOWER MIDDLE RIGHT~ UPPER MIDDLE RIGHT~ UPPER RIGHT
  .LEFT TO LOWER MIDDLE RIGHT_UPPER CENTRE~PPER MIDDLE RIGHT.MIDDLE LEFT TO UPPER CENTRE
  ~FT TO UPPER MIDDLE RIGHT~FT TO UPPER RIGHT$UPPER MIDDLE LEFT TO UPPER CENTRE~FT TO UPPER RIGHT
  mCORNER WITH DOTmDROP-SHADOWED WHITE SQUAREmPENCILmQUADRANT CIRCULAR ARC
  mSEMICIRCULAR CLOCKWISE ARROWnHADOWED WHITE CIRCLE$SQUAREmTRIANGLEsULAR MEDIUM SHADE
  gSEVEN EIGHTHS BLOCKgTHREE EIGHTHS BLOCKmQUARTERS BLOCKhRIANGULAR ONE QUARTER BLOCKcZENGE
  h DIVIDED BY HORIZONTAL RULEbREcIcMcObUGGAGEcNGSbYCIAN LETTER ApNoBpHoDoEpNoGoHoIoJoKpKoLoMpMoN
  pNoPoQoRoSoTpHpToUoWoXoZcDIAN LETTER ApNoBoCoDoEpNoFoGoIoKoLpYoMoNpNoOoQoRoSpSoTpToUoVoY
  hTRIANGULAR MARKcING FACEaMACRONcGEdIC WANDdNETcHAJANI ABBREVIATION SIGNjLETTER AqBArHAqCArHAqDA
  rDAsHArHAqEqGArHAqHAqIqJArHAqKArHAqLAqMAqNArNArYAqOqPArHAqRArRAqSAqTArHArTAsHAqUqVAkIGATURE SHRI
  jSECTION MARKkIGN NUKTAdJONG TILE AUTUMNnBACKpMBOOnCHRYSANTHEMUMnEAST WINDoIGHT OF BAMBOOS
  wCHARACTERSxIRCLESnFIVE OF BAMBOOSvCHARACTERSwIRCLESoOUR OF BAMBOOSvCHARACTERSwIRCLES
  nGREEN DRAGONnJOKERnNINE OF BAMBOOSvCHARACTERSwIRCLESoORTH WINDnONE OF BAMBOOSuCHARACTERSvIRCLES
  oRCHIDnPLUMnRED DRAGONnSEVEN OF BAMBOOSwCHARACTERSxIRCLESoIX OF BAMBOOSuCHARACTERSvIRCLES
  oOUTH WINDoPRINGoUMMERnTHREE OF BAMBOOSwCHARACTERSxIRCLESoWO OF BAMBOOSuCHARACTERSvIRCLES
  nWEST WINDoHITE DRAGONoINTERcKASAR ANGKAiEND OF SECTIONiLETTER ApBApCApDApGApJApKApLApMApNAqGA
  qYApPApRApSApTApVApYAiPASSIMBANGiVOWEL SIGN EtItOtUcLAYALAM AU LENGTH MARKkDATE MARKlIGIT EIGHT
  qFIVErOURqNINEqONEqSEVENrIXqTHREErWOqZEROkFRACTION ONE EIGHTHxFIFTHyORTIETHxHALF
  xONE-HUNDRED-AND-SIXTIETHxQUARTERxSIXTEENTHxTENTHyWENTIETHtTHREE EIGHTIETHSzQUARTERSzSIXTEENTHS
  zTWENTIETHSkLETTER AsAsIsRCHAIC IIsUrBAsHArCAsHAtILLU KyLzL!LyMyNzNyRRyYrDAsDAtHAsHAsOT REPHrEsE
  rGAsHArHArIsIrJAsHArKAsHArLAsLAtLArMArNAsGAsNAtNAsYArOsOrPAsHArRAsRArSAsHAsSArTAsHAsTAtHAtTArUsU
  rVAsEDIC ANUSVARAsOCALIC L!LzR!RrYAkNUMBER ONE HUNDREDvTHOUSANDrTENkSIGN ANUSVARAqVAGRAHA
  pCANDRABINDUqIRCULAR VIRAMAqOMBINING ANUSVARA ABOVEpPARApVERTICAL BAR VIRAMAqIRAMArSARGA
  kVOWEL SIGN AAwIwUvEwEvIwIvOwOvUwUvVOCALIC L*L&R*RdE AND FEMALE SIGNfSIGN
  fWITH STROKE AND MALE AND FEMALE SIGNrSIGNdTESE CROSScMMOTHcNd AND WOMAN HOLDING HANDSeDANCING
  eIN BUSINESS SUIT LEVITATINGhTUXEDOeWITH GUA PI MAOjTURBANdAT SIGNdDAIC AFFRICATION MARK
  iGEMINATION MARKiLETTER ABqDqGqHqINqKrSAqLqMqNqPqQqRqSrHrZqTrTqZpDUSHENNApHALQApINqTpKADpUSHENNA
  iPUNCTUATIONiVOCALIZATION MARKdGOdICHAEAN ABBREVIATION MARK ABOVE&BELOWlLETTER AAYINtLEPHtYIN
  sBETHtHETHsDALETHtHAMEDHsFEsGHIMELtIMELsHEuTHsJAYINtHAYINsKAPHtHAPHsLAMEDHsMEMsNUNsPEsQHOPHtOPH
  sRESHsSADHEuMEKHtHINtSHINsTAWtETHtHAMEDHsWAWsXAPHtOPHsYODHsZAYINtHAYINlNUMBER FIVEsONEv HUNDRED
  sTENtWENTYlPUNCTUATION DOT! WITHIN DOTzUBLE DOT WITHIN DOTxFLEURONxLINE FILLERxSTARxTWO DOTS
  lSIGN UDdS SHOEdTELPIECE CLOCKdUAL WHEELCHAIRcP SYMBOL FOR LIGHTHOUSEdLE LEAFcRCHEN HEAD MARK
  iLETTER -ApApBApCAqHApDAqZApGApHApJApKAqHApLApMApNAqGAqYApPAqHApRApSAqHApTAqHAqSArHApWApYApZAqHA
  iMARK SHADiSIGN ANUSVARAnCANDRABINDUjUBJOINED LETTER AzBAzCA!HAzDA!ZAzGAzHAzJAzKA!HAzLAzMAzNA!GA
  !YAzPA!HAzRAzSA!HAzTA!HA!SA$HAzWAzYAzZA!HAiVOWEL SIGN AAtEtItOtUdRIAGE SYMBOLdTIAL ARTS UNIFORM
  cSARAM GONDI DIGIT EIGHTuFIVEvOURuNINEuONEuSEVENvIXuTHREEvWOuZEROoLETTER AwAwIwUvBAwHAvCAwHAvDA
  wDAxHAwHAvEvGAwHAvHAvIwIvJAwHAwNYAvKAwHAwSSAvLAwLAvMAvNAwGAwNAwYAvOvPAwHAvRAvSAwHAwSAvTAwHAwRA
  wTAxHAvUwUvVAvYAoRA-KARApEPHAoSIGN ANUSVARAtCANDRAtHALANTAtNUKTAtVISARGAoVIRAMApOWEL SIGN AA!I!U
  zEzI!IzOzU!UzVOCALIC RdCULINE ORDINAL INDICATORdK WORK SYMBOLdU MARKcTE DRINK
  dHEMATICAL BOLD CAPITAL A$LPHA!B$ETA!C$HI!D$ELTA$IGAMMA!E$PSILON$TA!F!G$AMMA!H!I$OTA!J!K$APPA!L
  $AMDA!M$U!N$U!O$MEGA%ICRON!P$HI$I$SI!Q!R$HO!S$IGMA!T$AU$HETA+ SYMBOL!U$PSILON!V!W!X$I!Y!Z$ETA
  sDIGIT EIGHTyFIVEzOURyNINEyONEySEVENzIXyTHREEzWOyZEROsEPSILON SYMBOLsFRAKTUR CAPITAL A:B:C:D:E:F
  :G:H:I:J:K:L:M:N:O:P:Q:R:S:T:U:V:W:X:Y:Z!SMALL A,B,C,D,E,F,G,H,I,J,K,L,M,N,O,P,Q,R,S,T,U,V,W,X,Y
  ,ZsITALIC CAPITAL A:LPHA.B:ETA.C:HI.D:ELTA.E:PSILON:TA.F.G:AMMA.H.I:OTA.J.K:APPA.L:AMDA.M:U.N:U
  .O:MEGA;ICRON.P:HI:I:SI.Q.R:HO.S:IGMA.T:AU:HETA> SYMBOL.U:PSILON.V.W.X:I.Y.Z:ETAzEPSILON SYMBOL
  zKAPPA SYMBOLzNABLAzPARTIAL DIFFERENTIAL!HI SYMBOL!I SYMBOLzRHO SYMBOLzSMALL A,LPHA+B,ETA+C,HI+D
  ,ELTA+E,PSILON,TA+F,INAL SIGMA+G,AMMA+H+I,OTA+J+K,APPA+L,AMDA+M,U+N,U+O,MEGA.ICRON+P,HI,I,SI+Q+R
  ,HO+S,IGMA+T,AU,HETA+U,PSILON+V+W+X,I+Y+Z,ETAzTHETA SYMBOLsKAPPA SYMBOLsNABLA
  sPARTIAL DIFFERENTIALtHI SYMBOLtI SYMBOLsRHO SYMBOLsSCRIPT CAPITAL A.B.C.D.E.F.G.H.I.J.K.L.M.N.O
  .P.Q.R.S.T.U.V.W.X.Y.ZzSMALL A+B+C+D+E+F+G+H+I+J+K+L+M+N+O+P+Q+R+S+T+U+V+W+X+Y+ZtMALL AzLPHAyB
  zETAyCzHIyDzELTAzIGAMMAyEzPSILONzTAyFzINAL SIGMAyGzAMMAyHyIzOTAyJyKzAPPAyLzAMDAyMzUyNzUyOzMEGA
  !ICRONyPzHIzIzSIyQyRzHOySzIGMAyTzAUzHETAyUzPSILONyVyWyXzIyYyZzETAsTHETA SYMBOL
  nDOUBLE-STRUCK CAPITAL A;B;D;E;F;G;I;J;K;L;M;O;S;T;U;V;W;X;Y$DIGIT EIGHT.FIVE:OUR.NINE.ONE.SEVEN
  :IX.THREE:WO.ZERO$SMALL A.B.C.D.E.F.G.H.I.J.K.L.M.N.O.P.Q.R.S.T.U.V.W.X.Y.ZnFALLING DIAGONAL
  oRAKTUR CAPITAL A&B&D&E&F&G&J&K&L&M&N&O&P&Q&S&T&U&V&W&X&YvSMALL A$B$C$D$E$F$G$H$I$J$K$L$M$N$O$P
  $Q$R$S$T$U$V$W$X$Y$ZnITALIC CAPITAL A&LPHA%B&ETA%C&HI%D&ELTA%E&PSILON&TA%F%G&AMMA%H%I&OTA%J%K
  &APPA%L&AMDA%M&U%N&U%O&MEGA*ICRON%P&HI&I&SI%Q%R&HO%S&IGMA%T&AU&HETA. SYMBOL%U&PSILON%V%W%X&I%Y%Z
  &ETAuEPSILON SYMBOLuKAPPA SYMBOLuNABLAuPARTIAL DIFFERENTIALvHI SYMBOLvI SYMBOLuRHO SYMBOL
  uSMALL A$LPHA!B$ETA!C$HI!D$ELTA$OTLESS I:J!E$PSILON$TA!F$INAL SIGMA!G$AMMA!I$OTA!J!K$APPA!L$AMDA
  !M$U!N$U!O$MEGA%ICRON!P$HI$I$SI!Q!R$HO!S$IGMA!T$AU$HETA!U$PSILON!V!W!X$I!Y!Z$ETAuTHETA SYMBOL
  nLEFT ANGLE BRACKETsDOUBLE ANGLE BRACKETsFLATTENED PARENTHESISsWHITE SQUARE BRACKET
  yTORTOISE SHELL BRACKETnMONOSPACE CAPITAL A+B+C+D+E+F+G+H+I+J+K+L+M+N+O+P+Q+R+S+T+U+V+W+X+Y+Z
  xDIGIT EIGHT&FIVE*OUR&NINE&ONE&SEVEN*IX&THREE*WO&ZEROxSMALL A&B&C&D&E&F&G&H&I&J&K&L&M&N&O&P&Q&R
  &S&T&U&V&W&X&Y&ZnRIGHT ANGLE BRACKETtDOUBLE ANGLE BRACKETtFLATTENED PARENTHESIS
  tWHITE SQUARE BRACKETzTORTOISE SHELL BRACKETpSING DIAGONALnSANS-SERIF BOLD CAPITAL A>LPHA=B>ETA
  =C>HI=D>ELTA=E>PSILON>TA=F=G>AMMA=H=I>OTA=J=K>APPA=L>AMDA=M>U=N>U=O>MEGA?ICRON=P>HI>I>SI=Q=R>HO
  =S>IGMA=T>AU>HETA~ SYMBOL=U>PSILON=V=W=X>I=Y=Z>ETA&DIGIT EIGHT;FIVE<OUR;NINE;ONE;SEVEN<IX;THREE
  <WO;ZERO&EPSILON SYMBOL&ITALIC CAPITAL A~L ALPHA~L B~L BETA~L C~L CHI~L D~L DELTA~L E~L EPSILON
  ~L ETA~L F~L G~L GAMMA~L H~L I~L IOTA~L J~L K~L KAPPA~L L~L LAMDA~L M~L MU~L N~L NU~L O~L OMEGA
  ~L OMICRON~L P~L PHI~L PI~L PSI~L Q~L R~L RHO~L S~L SIGMA~L T~L TAU~L THETA~L THETA SYMBOL~L U
  ~L UPSILON~L V~L W~L X~L XI~L Y~L Z~L ZETA<EPSILON SYMBOL<KAPPA SYMBOL<NABLA
  <PARTIAL DIFFERENTIAL=HI SYMBOL=I SYMBOL<RHO SYMBOL<SMALL A~ALPHA~B~BETA~C~CHI~D~DELTA~E~EPSILON
  ~ETA~F~FINAL SIGMA~G~GAMMA~H~I~IOTA~J~K~KAPPA~L~LAMDA~M~MU~N~NU~O~OMEGA~OMICRON~P~PHI~PI~PSI~Q~R
  ~RHO~S~SIGMA~T~TAU~THETA~U~UPSILON~V~W~X~XI~Y~Z~ZETA<THETA SYMBOL&KAPPA SYMBOL&NABLA
  &PARTIAL DIFFERENTIAL*HI SYMBOL*I SYMBOL&RHO SYMBOL&SMALL A<LPHA;B<ETA;C<HI;D<ELTA;E<PSILON<TA;F
  <INAL SIGMA;G<AMMA;H;I<OTA;J;K<APPA;L<AMDA;M<U;N<U;O<MEGA=ICRON;P<HI<I<SI;Q;R<HO;S<IGMA;T<AU
  <HETA;U<PSILON;V;W;X<I;Y;Z<ETA&THETA SYMBOLyCAPITAL A,B,C,D,E,F,G,H,I,J,K,L,M,N,O,P,Q,R,S,T,U,V
  ,W,X,Y,ZyDIGIT EIGHT*FIVE+OUR*NINE*ONE*SEVEN+IX*THREE+WO*ZEROyITALIC CAPITAL A?B?C?D?E?F?G?H?I?J
  ?K?L?M?N?O?P?Q?R?S?T?U?V?W?X?Y?Z+SMALL A=B=C=D=E=F=G=H=I=J=K=L=M=N=O=P=Q=R=S=T=U=V=W=X=Y=Z
  ySMALL A*B*C*D*E*F*G*H*I*J*K*L*M*N*O*P*Q*R*S*T*U*V*W*X*Y*ZoCRIPT CAPITAL A%C%D%G%J%K%N%O%P%Q%S%T
  %U%V%W%X%Y%ZuSMALL A!B!C!D!F!H!I!J!K!L!M!N!P!Q!R!S!T!U!V!W!X!Y!ZcXIMIZEcYAN NUMERAL EIGHTtEEN
  pLEVENoFIFTEENqVEpOURsTEENoNINEsTEENoONEoSEVENtTEENpIXrTEENoTENpHIRTEENqREEpWELVEqOoZERO
  bEASURED ANGLEo OPENING LEFTpWITH OPEN ARM ENDING IN ARROW POINTING DOWN AND LEFT
  ~OW POINTING DOWN AND RIGHT~OW POINTING LEFT AND DOWN~OW POINTING LEFT AND UP
  ~OW POINTING RIGHT AND DOWN~OW POINTING RIGHT AND UP~OW POINTING UP AND LEFT
  ~OW POINTING UP AND RIGHTjBYjRIGHT ANGLE WITH DOTdT ON BONEcCHANICAL ARMlLEG
  cDEFAIDRIN CAPITAL LETTER A%I%TIU$B$C$D$E$F$G$H%P$I$J$K%P$L$M$N%G%Y$O%E$P$Q$R$S$T$U$V$W$X$Y%U$Z
  nOMMAmDIGIT EIGHTsFIVEtOURsNINEsONEv ALTERNATE FORMsSEVENtIXsTHREEx ALTERNATE FORMtWO
  v ALTERNATE FORMsZEROmEXCLAMATION OHmFULL STOPmNUMBER EIGHTEENuLEVENtFIFTEENuOURTEENtNINETEEN
  tSEVENTEENuIXTEENtTENuHIRTEENuWELVEmSMALL LETTER A!I!TIUzBzCzDzEzFzGzH!PzIzJzK!PzLzMzN!G!YzO!EzP
  zQzRzSzTzUzVzWzXzY!UzZnYMBOL AIVAdIEVAL COMMAjEXCLAMATION MARKjQUESTION MARKeUM BLACK CIRCLE
  iOLD WHITE CIRCLEhEIGHT POINTED BLACK STARnSPOKED ASTERISKhFIVE SPOKED ASTERISK
  iLATTENED LEFT PARENTHESIS ORNAMENTrRIGHT PARENTHESIS ORNAMENTiOUR POINTED BLACK STAR
  uPINWHEEL STARhGREEK CROSShLEFT CURLY BRACKET ORNAMENTmPARENTHESIS ORNAMENT
  l-POINTING ANGLE BRACKET ORNAMENThMATHEMATICAL SPACEhRIGHT CURLY BRACKET ORNAMENT
  nPARENTHESIS ORNAMENTm-POINTING ANGLE BRACKET ORNAMENThSALTIREiHADEiIX POINTED BLACK STAR
  lSPOKED ASTERISKiMALL WHITE CIRCLEhTHREE POINTED BLACK STARvPINWHEEL STARhVERTICAL BAR
  hWHITE CIRCLEnSQUAREcETEI MAYEK AHANG KHUDAMoNJIoPUN IYEKnCHEIKHANtEInDIGIT EIGHTtFIVEuOURtNINE
  tONEtSEVENuIXtTHREEuWOtZEROnLETTER ATIYAuBAvHAMuCHAwILuDDAwHAvHOUvILuEuGHOUvOKuHUKuIv LONSUM
  uJHAMvILuKHOUvOKx LONSUMuLAIx LONSUMuMITx LONSUMuNAw LONSUMvGOUy LONSUMvNAvYAuOuPAw LONSUMvHAM
  uRAIuSAMvHAvSAuTHOUvILx LONSUMvTAwHAuUNuWAIuYANGoUM IYEKnSYLLABLE REPETITION MARKnVIRAMA
  oOWEL SIGN AAI!UzNAPzUyCHEINAPyIIzNAPyNUNGyONAPySOUNAPyUNAPzUyVISARGAyYENAPnWORD REPETITION MARK
  cLONdTING FACEcMOcNDE KIKAKUI COMBINING NUMBER HUNDRED THOUSANDS>S+MILLIONS+TEENS.N THOUSANDS:S
  ,HOUSANDSoDIGIT EIGHTuFIVEvOURuNINEuONEuSEVENvIXuTHREEvWOoSYLLABLE M001 KI!2 KA!3 KU!4 WI!5 WA
  !6 WU!7 MIN!8 MAN!9 MUNz10 BI!1 BA!2 BU!3 I!4 A!5 U!6 DI!7 DA!8 DU!9 SIz20 SA!1 SU!2 TI!3 TA
  !4 TU!5 LI!6 LA!7 LU!8 JI!9 JAz30 JU!1 YI!2 YA!3 YU!4 FI!5 FA!6 FU!7 NIN!8 NAN!9 NUNz40 HEE!1 HA
  !2 HOO!3 NGGA!4 KPEE!5 WO!6 HUAN!7 MBEE!8 KO!9 WVAz50 PU!1 PE!2 HEN!3 HIN!4 LOO!5 TE!6 GBA
  !7 NGON!8 NYAN!9 MENz60 NYON!1 WVI!2 MBA!3 JO!4 NDO!5 KEE!6 PO!7 NDOO!8 PI!9 TOz70 GBO!1 GBOO
  !2 MBE!3 LE!4 KPU!5 FE!6 KOO!7 VO!8 FEE!9 SOz80 YE!1 PEE!2 NGGU!3 HEEI!4 LEE!5 VE!6 LONG NGGE
  !7 HUN!8 FO!9 DEEz90 NGGI!1 TEE!2 KPA!3 GBEE!4 MON!5 KE!6 HE!7 BE!8 NYEN!9 PAy100 E!1 FAN!2 POO
  !3 BOO!4 TOO!5 LONG MBOO!6 LONG NGGOO!7 GBE!8 KPE!9 YEEz10 LONG LE!1 GA!2 KPOO!3 JE!4 WOO
  !5 NGGEE!6 SE!7 NEN!8 WE!9 NDEz20 NGGO!1 YO!2 MBU!3 NDI!4 GBI!5 NDU!6 WEE!7 NGGUA!8 HOOU!9 NDA
  z30 HAN!1 IN!2 KPI!3 FOO!4 NJOO!5 IN!6 SOO!7 EI!8 BO!9 WVEz40 HO!1 YOO!2 LONG MBO!3 WEI!4 VOO
  !5 MBI!6 NGGE!7 O!8 GBU!9 NJEEz50 BEE!1 VU!2 NJA!3 LO!4 MUAN!5 GI!6 NGGOO!7 JEE!8 KPO!9 NGGAA
  z60 JOO!1 LONG MBE!2 SEE!3 EE!4 NYIN!5 OO!6 GUEI!7 GUAN!8 GU!9 NONz70 NYUN!1 RA!2 MBOO!3 VEE
  !4 MBO!5 LONG JO!6 HI!7 NGUAN!8 EN!9 KUAz80 DOO!1 DO!2 VI!3 LONG NGGO!4 NGEN!5 VA!6 HU!7 MBUU
  !8 MBEE!9 MUENz90 GEE!1 NDEE!2 NJU!3 HON!4 WUI!5 AN!6 SIA!7 FUAdORAH WITH NINE BRANCHESdS SYMBOL
  cRCURYdOITIC CURSIVE FRACTION EIGHT TWELFTHS$LEVEN TWELFTHS!FIVE TWELFTHS$OUR TWELFTHS
  !NINE TWELFTHS!ONE HALF*TWELFTH!SEVEN TWELFTHS$IX TWELFTHS!TEN TWELFTHS$HREE TWELFTHS
  $WO TWELFTHSrLETTER AzRCHAIC SAyBAyDAyEyHHAyIyKAzHAyLAyMAyNAzEyOyPAyQAyRAySAzEyTAzEzOyWAyYA
  sOGOGRAM IMN!RMTrNUMBER EIGHT& HUNDRED= THOUSAND*THOUSAND&Y THOUSANDyFIFTY& THOUSAND!VE% HUNDRED
  < THOUSAND&THOUSANDzORTY& THOUSAND!UR% HUNDRED< THOUSAND&THOUSANDyNINE% HUNDRED< THOUSAND
  &THOUSAND%TY THOUSANDyONE$ HUNDRED; THOUSAND%THOUSANDySEVEN& HUNDRED= THOUSAND*THOUSAND&TY
  + THOUSANDzIX$ HUNDRED; THOUSAND%THOUSAND$TY& THOUSANDyTEN$ THOUSANDzHIRTY* THOUSAND!REE
  & HUNDRED= THOUSAND*THOUSANDzWENTY* THOUSAND!O$ HUNDRED; THOUSAND%THOUSANDjHIEROGLYPHIC LETTER A
  &BA+-2&DA&E&HHA&I&KA*HA&LA&MA&NA+-2*E+-2&O&PA&QA&RA+-2&SA+-2*E&TA+-2*E+-2*O&WA&YAwSYMBOL VIDJ.-2
  dPERSONcSSAGE WAITINGcTRICAL BREVEjLONG OVER SHORTtTWO SHORTSjPENTASEMEjSHORT OVER LONG
  jTETRASEMEkRISEMEkWO SHORTS JOINEDuOVER LONGeObIAO LETTER AHnRCHAIC MAuNAvGAuZZAmBAnRImDAnDAnLHA
  pYAnZAoHAoYIoZAmFAmGAnHAoHAmHAnHAmKAmLAnHAoYAnYAmMAnHAmNAoSALIZATIONnGAoHAnHAnNAoHAnYAoHAmPAnLA
  mQAnGAmREFORMED TONE-1!2!4!5!6!8wSHAnTEmSAnHAnSAnYImTAnEnLHApYAnONE-2r3r4r5r6r7r8nSAoEoHAoSAnTA
  mVAnFAmWAmXAmYI DZHApKApNNApPApTAqSArHAqTAmZAnHAnSAoHAnZAoSApYAoYAfSIGN ASPIRATION
  kCONSONANT MODIFIER BARkREFORMED ASPIRATIONtVOICINGfTONE ABOVEkBELOWkRIGHTkTOP RIGHT
  fVOWEL SIGN ArArEsErHHrIrNsGrUqErArIrNsGrRsRqIrAsNtGrErGrIrNGrOsNGrUqNrGqOrERsYrGrOrUqROUNDED ER
  !RqUrAsNtGrEIrIrNGrOGrUqVWqWrOqYrIrUIcCR DASH SYMBOLfON US SYMBOLeO SIGNfBEfPHONEfSCOPEcDDLE DOT
  hTHIRD WHITE RIGHT POINTING INDEXdLINE HORIZONTAL ELLIPSIScLITARY HELMETjMEDALdKY WAYdL SIGN
  cNIBUSeDISCeMIZEdUS SIGNk IN TRIANGLElWITH COMMA ABOVEqDOT BELOWqFALLING DOTSqRISING DOTSgTILDE
  f-OR-PLUS SIGNdYcRRORg BALLbMSPbOBILE PHONEm OFFnWITH RIGHTWARDS ARROW AT LEFTcDELS
  eRN PENTATHLONdI ABBREVIATION SIGNfDANDAgIGIT EIGHTlFIVEmOURlNINElONElSEVENmIXlTHREEmWOlZERO
  gOUBLE DANDAfLETTER AnAnInUmBAnHAmCAnHAmDAnDAoHAnHAmEmGAnHAmHAmInImJAnHAmKAnHAmLAnLAmMAmNAnGAnNA
  nYAmOmPAnHAmRAmSAnHAnSAmTAnHAnTAoHAmUnUmVAnOCALIC LvLuRvRmYAfSIGN ANUSVARAlRDHACANDRAkHUVA
  kVIRAMAmSARGAfVOWEL SIGN AArIrUqEqIrIqOqUrUqVOCALIC LzLyRzReFIER BREVE WITH INVERTED BREVE
  jLETTER ACUTE ACCENTrLVEOLAR CLICKrPOSTROPHEqBEGIN HIGH TONEwLOW TONErILABIAL CLICKqCAPITAL AzE
  yBzARRED ByCyDyEyFyGyHz WITH STROKEyIyJyKyLyMyNyOzUyPyQyRzEVERSED E.NyTyUyVyW
  rENTRED LEFT HALF RINGyRIGHT HALF RINGrHINESE TONE YANG PING:QU:RU:SHANG*IN PING.QU.RU.SHANG
  rIRCUMFLEX ACCENTrOLONrROSS ACCENTrYRILLIC ENzHARD SIGNzSOFT SIGNqDENTAL CLICKrOT HORIZONTAL BAR
  uSLASHuVERTICAL BARsUBLE APOSTROPHExPRIMEsWN ARROWHEADvTACKqEND HIGH TONEuLOW TONE
  rXTRA-HIGH DOTTED LEFT-STEM TONE BAR:TONE BAR$LEFT-STEM TONE BAR$TONE BAR
  wLOW DOTTED LEFT-STEM TONE BAR.TONE BAR!LEFT-STEM TONE BAR!TONE BARqGEORGIAN NARrLOTTAL STOP
  % WITH STROKErRAVE ACCENTqHALF TRIANGULAR COLONrIGH DOTTED LEFT-STEM TONE BAR%TONE BAR
  vLEFT-STEM TONE BARvTONE BARqLATERAL CLICKrEFT ARROWHEADvHALF RINGvTACKrOW ACUTE ACCENT
  uCIRCUMFLEX ACCENTuDOTTED LEFT-STEM TONE BAR$TONE BARwWN ARROWHEADuGRAVE ACCENT
  uINVERTED EXCLAMATION MARKuLEFT ARROW*HEADy-STEM TONE BARuMACRONuRIGHT ARROWHEADwNGuTILDE
  vONE BARuUP ARROWHEADuVERTICAL LINEtER RIGHT CORNER ANGLEqMACRONrID DOTTED LEFT-STEM TONE BAR
  $TONE BARuLEFT-STEM TONE BARuTONE BARtDLE DOUBLE ACUTE ACCENT*GRAVE ACCENTxGRAVE ACCENTsNUS SIGN
  qOPEN SHELFqPLUS SIGNrRIMEqRAISED COLONxDOWN ARROWxEXCLAMATION MARKxINVERTED EXCLAMATION MARK
  xUP ARROWrETROFLEX CLICK WITH RETROFLEX HOOKsVERSED COMMAzGLOTTAL STOP= WITH STROKErHOTIC HOOK
  rIGHT ARROWHEADwHALF RINGwTACKqSHELFsORT EQUALS SIGNrMALL AxExINxLPHAwBx WITH HOOKxARRED OxETA
  xOTTOM HALF OwCx WITH CURLxAPITAL AA*B*G+ WITH HOOK*H*I+ WITH STROKE+NVERTED R*L+ WITH BELT*N*OE
  *R*U*YxHIxLOSED OMEGA&REVERSED OPEN EwDx WITH HOOK. AND TAIL&TAILxELTAyZH DIGRAPH
  xOTLESS J WITH STROKE~E AND HOOKxZ DIGRAPH, WITH CURL>RETROFLEX HOOKwExNGxSHxTHxZHwFxENG DIGRAPH
  wGx WITH HOOKxAMMAxREEK GAMMA%PHIwHx WITH HOOK&STROKExENG! WITH HOOKwI WITH STROKExOTAwJ
  x WITH CROSSED-TAILwKwLx WITH BELT&INVERTED LAZY S&MIDDLE TILDE&PALATAL HOOK&RETROFLEX HOOK
  ~K AND BELTxEZH! WITH RETROFLEX HOOKxIGATURE OExS DIGRAPHxZ DIGRAPHwMx WITH HOOK
  wN WITH LEFT HOOK&RETROFLEX HOOKwOx WITH STROKExPEN E$OwPxHIwQwRx WITH FISHHOOK&TAILxAMS HORN
  xEVERSED E+GLOTTAL STOP+OPEN EwSx WITH CURL&HOOKxCHWAyRIPT GxIDEWAYS UwTx WITH PALATAL HOOK
  &RETROFLEX HOOKxC DIGRAPH WITH CURLxESH DIGRAPHxHETAxOP HALF OxS DIGRAPH, WITH RETROFLEX HOOK
  xURNED A*E*LPHA&H&I&M* WITH LONG LEG&OPEN E&R* WITH HOOK<LONG LEG~EG AND RETROFLEX HOOK&V&W&Y
  * WITH BELTwUx BARyWITH LEFT HOOKxPSILONwVx WITH HOOK&RIGHT HOOKwWwXwYwZx WITH CURL
  &RETROFLEX HOOKrTRESS AND HIGH TONE$LOW TONErUPERSCRIPT HALF TRIANGULAR COLON%TRIANGULAR COLON
  qTRIANGULAR COLONrURNED COMMAqUNASPIRATEDrP ARROWHEADtTACKrSqVERTICAL LINErOICING
  qYANG DEPARTING TONE MARKrIN DEPARTING TONE MARKdULO TWO SUMcNEY BAGgWITH WINGSf-MOUTH FACE
  dGOLIAN BIRGAp WITH DOUBLE ORNAMENTvORNAMENTkCOLONmMMAkDIGIT EIGHTqFIVErOURqNINEqONEqSEVENrIX
  qTHREErWOqZEROlOUBLE BIRGA WITH ORNAMENTkELLIPSISkFOUR DOTSlREE VARIATION SELECTOR FOUR:ONE
  :THREE;WOlULL STOPkINVERTED BIRGAy WITH DOUBLE ORNAMENTkLETTER AsLI GALI A$H$NUSVARA ONE!BALUDA
  !CA!DA%GALGA%MARU$DA!HALF U+YA!I$NVERTED UBADAMA!KA!NGA$NA!PA$HA!SSA!TA$HREE BALUDA$TA%HA
  !UBADAMA!VISARGA ONE!ZA$HAsNGrBArCHAu WITH TWO DOTStIrDArEsErFArGArHAArIrJArKAsHArLAsHArMA
  tNCHU ALI GALI BHA.CA:YA.DDHA:HA.GHA.JHA.LHA.NGA.SSA.TA:TA.ZA:HAyFAyIyKAyRAyZHArNArOsErPArQArRA
  rSAsHAsIBE ANGwCHAwDAwEwFAwGAyAwHAyAwIxYwJAwKAwPAwRAAwSHAwTAxSAwUxEwZAxHArTAsODO ALI GALI TA+ZHA
  xNGwBAwCHAwDAxZAwEwGAyAwHAAwIwJAxIAwKAwLONG VOWEL SIGNwMAwNIAwOxEwPAwQAwTAxSAwUxEwWAwYAsSArUsE
  rWArYArZAsHIsRAkMANCHU COMMArFULL STOPkNIRUGUkROTATED BIRGAx WITH DOUBLE ORNAMENT&ORNAMENT
  kSIBE SYLLABLE BOUNDARY MARKERlWIRL BIRGAv WITH DOUBLE ORNAMENT$ORNAMENTkTODO SOFT HYPHEN
  lRIPLE BIRGA WITH ORNAMENTlURNED SWIRL BIRGA WITH DOUBLE ORNAMENTkVOWEL SEPARATORdKEYg FACE
  dOGRAM FOR EARTHnYANGoINeRAILeSTABLE SYMBOLcOD BUBBLEdN CAKEfVIEWING CEREMONYcSQUEfITO
  cTHER CHRISTMASdOR BOATgSCOOTERfIZED WHEELCHAIRfWAYcUNT FUJIfAINi BICYCLISTjCABLEWAYjRAILWAYdSE
  f FACEgTRAPdTHcVIE CAMERAcYAIbRO DANDAfIGIT EIGHTkFIVElOURkNINEkONEkSEVENlIXkTHREElWOkZERO
  fOUBLE DANDAeLETTER AlBAlCHUlDAnIlEmAlHAInOlKEAAEmHAImOlLAnNlMAEMmIMlNGImINlOmLmOlPAmHIlRImOlSHI
  lTAmEKmHEAlWAlYObUCH GREATER-THANfLESS-THANcLTANI LETTER ApBAqHApCAqHApDAqDArDArHAqHApEpGAqHApHA
  pIpJAqJApKAqHApLApMApNAqNAqYApPAqHApRAqHAqRApSApTAqHAqTArHApUpVApYAiSECTION MARKeIMAP
  fPLE MUSICAL NOTEShICATION SIGNt IN DOUBLE CIRCLExLEFT HALF CIRCLExRIGHT HALF CIRCLExTRIANGLE
  uWITH DOT ABOVEzUNDERBARpXfSETi MULTIPLICATIONjUNIONcSHROOMdIC FLAT SIGNgNATURAL SIGNgSHARP SIGN
  fAL KEYBOARDq WITH JACKSiNOTEiSCOREjYMBOL ARPEGGIATO DOWN!UPpBEGIN BEAMvPHRASEvSLURvTIEqRACEtKET
  rEATH MARKsVEtISv RESTpC CLEFqAESURAqIRCLE X NOTEHEADqLIMACUSsVISrUSTER NOTEHEAD BLACK,WHITEqODA
  rMBINING ACCENT+-STACCATO!UGMENTATION DOTzBENDzDOIT$UBLE TONGUE$WN BOWzFLAG-1*2*3*4*5$IP
  zHARMONICzLOUREzMARCATO,-STACCATOzRIPzSMEAR!NAP PIZZICATO!PRECHGESANG STEM!TACCATISSIMO,O$EM
  zTENUTO!REMOLO-1.2.3$IPLE TONGUEzUP BOWsMON TIMEqRESCENDOrOIXqUT TIMEpDA CAPOrL SEGNOrMPt ALL
  rSHED BARLINEqECRESCENDOrGREE SLASHqOUBLE BARLINEwFLATwSHARPqRUM CLEF-1z2pEIGHTH NOTEwREST
  qND BEAMtOF STIMMEtPHRASEtSLURtTIEpF CLEFv OTTAVA ALTA&BASSAqERMATAw BELOWqINAL BARLINE
  sGERED TREMOLO-1,2,3rVE-LINE STAFFqLAT DOWNuUPqORTErUR-LINE STAFFuSTRING FRETBOARDqUSA BLACK
  uWHITEpG CLEFv OTTAVA ALTA&BASSAqLISSANDO DOWNzUPqRACE NOTE NO SLASH!SLASHrEGORIAN C CLEFzF CLEF
  pHALF NOTEuPEDAL MARKuRESTrUPTSTIMMEpINVERTED TURNpKIEVAN C CLEFwEIGHTH NOTE STEM DOWN?UP
  xND OF PIECEwFINAL NOTExLAT SIGNwHALF NOTEwQUARTER NOTE STEM DOWN^UPwRECITATIVE MARKwWHOLE NOTE
  qORONpLEFT REPEAT SIGNqONGAu IMPERFECTA RESTvPERFECTA RESTpMAXIMAqEZZOqINIMAv BLACKwREST
  qOON NOTEHEAD BLACK&WHITEqULTI RESTuPLE MEASURE RESTpNATURAL DOWNxUPqEBENSTIMMEqOTEHEAD BLACK
  qULL NOTEHEADpONE HUNDRED TWENTY-EIGHTH NOTE_RESTs-LINE STAFFqRNAMENT STROKE-1,0,1+2+3+4+5+6+7+8
  +9qTTAVA ALTAwBASSApPARENTHESIS NOTEHEADqEDAL MARKvUP MARKrS SUBPUNCTISqIANOqLUS NOTEHEADqODATUS
  rRRECTUSy FLEXUSpQUARTER NOTExRESTxTONE FLAT%SHARPrINDICESIMA ALTA%BASSApREPEAT DOTSvED FIGURE-1
  +2+3rVERSE FINAL BARLINEqIGHT REPEAT SIGNrNFORZANDOpSCANDICUSy FLEXUSqEGNOrMIBREVIS BLACK!REST
  !WHITEtMINIMA BLACK!REST!WHITEqHARP DOWNvUPrORT BARLINEqINGLE BARLINErX-LINE STAFF
  tSTRING FRETBOARDsTEENTH NOTEzRESTtY-FOURTH NOTE%RESTqORIqQUARE BwNOTEHEAD BLACK+WHITEqUBITO
  pTEMPUS IMPERFECTUM CUM PROLATIONE IMPERFECTA~ATIONE IMPERFECTA DIMINUTION-1
  ~ATIONE IMPERFECTA DIMINUTION-2~ATIONE IMPERFECTA DIMINUTION-3~ATIONE PERFECTA
  wPERFECTUM CUM PROLATIONE IMPERFECTA~IONE PERFECTA~IONE PERFECTA DIMINUTION-1qHIRTY-SECOND NOTE
  &RESTrREE-LINE STAFFqORCULUSx RESUPINUSqRrIANGLE NOTEHEAD DOWN BLACK>WHITE.LEFT BLACK>WHITE
  .RIGHT BLACK?WHITE.UP BLACK<RIGHT BLACK~WHITE<WHITEx-ROUND NOTEHEAD DOWN BLACK~N WHITEqURN
  t SLASHuUPqWO-LINE STAFFpVIRGAqOID NOTEHEADpWHOLE NOTEvRESTqITH FINGERNAILSpX NOTEHEADpZbVSbW
  bYANMAR CONSONANT SIGN MEDIAL HA*RA*WA*YAyON MEDIAL LA:MA:NAxSHAN MEDIAL WAiDIGIT EIGHToFIVEpOUR
  oNINEoONEoSEVENpIXoTHREEpWOoZEROiLETTER AqITON RAqUpBAqHApCAqHApDAqDArHAqHApE
  qASTERN PWO KAREN GHWA.NNA.YWApGAqHAqREAT SApHApIqIpJAqHApKAqHAsMTI CAxHAwDDAyHAxHAwFAwGAwHAxHA
  wJAxHAwLLAwNAxYAwRAwSAwTTAyHAwXAwZApLAqLApMAqON BBAvEtEtJHAtNGApNAqGAqNArYAqYApOpPAqHApRA
  qUMAI PALAUNG FApSAqGAW KAREN SHAqHAsN AuBAvHAuCAvHAuDAuFAuGAvHAuHAuJHAuKAvHAuNAvNAvYAuPHAuTHA
  uZArWE PALAUNG CHA%SHAqSApTArI LAING BA!HAzDA!DA$HA!HAzFAzGA!HAzJA!HAzLLAzNNA!YAqHAqTArHApUqU
  pVOCALIC LyLxRyRpWAqESTERN PWO KAREN PWA.THApYAjOGOGRAM KHAMTI HMyOAYyQN
  iMODIFIER LETTER KHAMTI REDUPLICATIONySHAN REDUPLICATIONiSHAN DIGIT EIGHTtFIVEuOURtNINEtONE
  tSEVENuIXtTHREEuWOtZEROjIGN ANUSVARAoSATnDOT BELOWnKHAMTI TONE-1z3nLITTLE SECTIONnPAO KAREN TONE
  nRUMAI PALAUNG TONE-5nSECTIONoHAN COUNCIL EMPHATIC TONE!TONE-2+3sSAWsTONE-2x3x5x6
  nTAI LAING TONE-2%5nVIRAMApSARGAnWESTERN PWO KAREN TONE-1<2<3<4<5jYMBOL AFOREMENTIONED
  qITON EXCLAMATIONvONEvTWOpCOMPLETEDpGENITIVEpLOCATIVEpSHAN EXCLAMATIONuONEiTAI LAING DIGIT EIGHT
  yFIVEzOURyNINEyONEySEVENzIXyTHREEzWOyZEROjONE MARK SGAW KAREN HATHI&KE PHOiVOWEL SIGN AAuIvTON A
  !ItEu ABOVEtGEBA KAREN ItIuItKAYAH EEzOEzUtMON IIxOtSGAW KAREN EUuHAN AAyEz ABOVEyFINAL Y
  tTALL AAtUuUtVOCALIC L%L$R%RtWESTERN PWO KAREN EU=UEaN-ARY CIRCLED DOT OPERATORoPLUS OPERATOR
  oTIMES OPERATORhOPRODUCTgINTERSECTIONgLOGICAL ANDoORgPRODUCTgSQUARE INTERSECTION OPERATOR
  nUNION OPERATORhUMMATIONgTIMES OPERATORgUNIONl OPERATOR WITH DOT!PLUSgWHITE VERTICAL BAR
  bABATAEAN CRUCIFORM NUMBER FOURkLETTER ALEPHsYINrBETHrDALETHrFINAL ALEPHxBETHxHExKAPHxLAMEDHxMEM
  xNUNxSHINxYODHrGIMELrHEtTHrKAPHrLAMEDHrMEMrNUNrPErQOPHrRESHrSADHEtMEKHsHINrTAWsETHrWAWrYODH
  rZAYINkNUMBER FIVEsOURrONEu HUNDREDrTENsHREEsWENTYtOdLAcIL POLISHdRA SIGNcKcME BADGEcND
  eINAGARI HEADSTROKEmLETTER AuAuIuUtBAuHAtCAuHAtDAuDAvHAuHAtEtGAuHAtHAtIuItJAuHAtKAuHAtLAuLAtMA
  tNAuGAuNAuYAtOtPAuHAtRAuRAtSAuHAuSAtTAuHAuTAvHAtUuUtVAuOCALIC R%RtYAmSIGN ANUSVARAsVAGRAHA
  rSIDDHAMrVIRAMAtSARGAmVOWEL SIGN AAyIyUxExIyIxOxPRISHTHAMATRA ExUyUxVOCALIC R,R
  cRROW NO-BREAK SPACEcTIONAL DIGIT SHAPESjPARKcUSEATED FACEcZAR AMULETbBHcSPbECKTIE
  cGATED DOUBLE VERTICAL BAR DOUBLE RIGHT TURNSTILEfIVE ACKNOWLEDGEjCIRCLED DIGIT ZERO
  rLATIN CAPITAL LETTER A>B>C>D>E>F>G>H>I>J>K>L>M>N>O>P>Q>R>S>T>U>V>W>X>Y>ZrNUMBER EIGHTEENzLEVEN
  yFIFTEENzOURTEENyNINETEENySEVENTEENzIXTEENyTHIRTEENzWELVE$NTYrSQUARErTRIANGLEjDIAGONAL CROSS
  sDIAMONDsMIDDLE RIGHT TO LOWER CENTREjSQUARED ABrCROSS MARKrICrLATIN CAPITAL LETTER A>B>C>D>E>F
  >G>H>I>J>K>L>M>N>O>P>Q>R>S>T>U>V>W>X>Y>ZrPArQUESTION MARKrSArWCcITHER A SUBSET OF NOR EQUAL TO
  mPERSET OF NOR EQUAL TOjPPROXIMATELY NOR ACTUALLY EQUAL TOiGREATER-THAN NOR EQUAL TO%IVALENT TO
  zLESS-THANiLESS-THAN NOR EQUAL TOzIVALENT TOwGREATER-THANcLcPTUNEh FORM TWOcRD FACEcSSUS
  dT WITH EGGSeING DOLLScUTEReRAL CHESS BISHOPu ROTATED NINETY DEGREES&TWO HUNDRED SEVENTY DEGREES
  oEQUIHOPPERy ROTATED NINETY DEGREESoKINGs ROTATED NINETY DEGREES$TWO HUNDRED SEVENTY DEGREES
  pNIGHTu ROTATED FORTY-FIVE DEGREES&NINETY DEGREES&ONE HUNDRED THIRTY-FIVE DEGREES
  &THREE HUNDRED FIFTEEN DEGREES*WO HUNDRED SEVENTY DEGREES_TWENTY-FIVE DEGREESoPAWN
  s ROTATED NINETY DEGREES$TWO HUNDRED SEVENTY DEGREESoQUEENt ROTATED NINETY DEGREES
  %TWO HUNDRED SEVENTY DEGREESoROOKs ROTATED NINETY DEGREES$TWO HUNDRED SEVENTY DEGREES
  oTURNED BISHOPvKINGwNIGHTvPAWNvQUEENvROOKiFACEcW LINEeMOON SYMBOLjWITH FACEeSHEQEL SIGN
  eTAI LUE DIGIT EIGHTsFIVEtOURsNINEsONEsSEVENtIXsTHREEtWOsZEROmLETTER FINAL BzDzKzMzN!GzVtHIGH BA
  yDAyFAyHAyKAzVAyLAyMAyNAzGAyPAzHAyQAySAzUAyTAzHAzSAyVAyXAzVAyYAtLOW BAxDAxFAxHAxKAyVAxLAxMAxNA
  yGAxPAyHAxQAxSAyUAxTAyHAySAxVAxXAyVAxYAmSIGN LAEuVmTHAM DIGIT ONEnONE MARK-1w2mVOWEL SIGN AAzYyE
  yYxExIIyYxOyAzYyYxUyEzYyUyYxVOWEL SHORTENERdA ABBREVIATION SIGNfCOMMAfDANDAgIGIT EIGHTlFIVEmOUR
  lNINElONElSEVENmIXlTHREEmWOlZEROgOUBLE COMMAmDANDAfGAP FILLERfINSERTION SIGNfLETTER AnAnInUmBA
  nHAmCAnHAmDAnDAoHAnHAmEmGAnHAmHAmInImJAnHAmKAnHAmLAnHAmMAnHAmNAnGAoHAnHAnNAnYAoHAmOmPAnHAmRAnHA
  mSAnHAnSAmTAnHAnTAoHAmUnUmVEDIC ANUSVARAnOCALIC LvLuRvRmWAmYAfOMfPLACEHOLDER MARKfSANDHI MARK
  gIDDHIhGN ANUSVARAlVAGRAHAkCANDRABINDUkFINAL ANUSVARAkJIHVAMULIYAkNUKTAkUPADHMANIYAkVIRAMAmSARGA
  fVOWEL SIGN AArIrUqEqIrIqOqUrUqVOCALIC LzLyRzRdLINE LEFTiRIGHTdSPAPERcXT LINEfPAGE
  bIGHT WITH STARScNJAbKO COMBINING DOUBLE DOT ABOVEoLONG DESCENDING TONEtHIGH TONEtLOW TONE
  tRISING TONEoNASALIZATION MARKoSHORT HIGH TONEuLOW TONEuRISING TONEhMAeDANTAYALANfIGIT EIGHT
  kFIVElOURkNINEkONEkSEVENlIXkTHREElWOkZEROfOROME SIGNeEXCLAMATION MARKeHIGH TONE APOSTROPHE
  eLAJANYALANfETTER AlBAlCHAlDAnGBASINNAlEmElFAlGBAlHAlIlJAmONA CHAqJAqRAlKAlLAlMAlNmAn WOLOSOmYA
  o WOLOSOlOmOlPAlRAmRAlSAlTAlUlWAlYAfOW TONE APOSTROPHEeSYMBOL GBAKURUNENlOO DENNENeTAMAN SIGNbL
  bNBSPbO BICYCLESeREAK HEREdENTRYi SIGNdMOBILE PHONESdONE UNDER EIGHTEEN SYMBOLdPEDESTRIANSeIRACY
  dSMOKING SYMBOLc-BREAK SPACEcMINAL DIGIT SHAPESeSMA SIGNcN-BREAKING HYPHENePOTABLE WATER SYMBOL
  dFORKINGcRdDIC MARK SIGNdMAL SUBGROUP OFs OR EQUAL TOdTH EAST AND SOUTH WEST ARROWmRROW
  q AND SOUTH EAST ARROWrCROSSING NORTH WEST ARROW!SOUTH EAST ARROWrWITH HOOKlBLACK ARROW
  lDOUBLE ARROWlPOINTING BUDuLEAFuVINE LEAFlSANS-SERIF ARROWlTRIANGLE-HEADED ARROW, TO BAR
  lWHITE ARROWgINDIC FRACTION ONE EIGHTHzHALFzQUARTERzSIXTEENTHvTHREE QUARTERS$SIXTEENTHS
  mPLACEHOLDER MARKmQUANTITY MARKpRTER MARKmRUPEE MARKgWEST AND SOUTH EAST ARROWmRROW
  q AND NORTH EAST ARROWrCROSSING NORTH EAST ARROWrTO CORNERuLONG BARrWITH HOOKlBLACK ARROW
  lDOUBLE ARROWlPOINTING BUDuLEAFuVINE LEAFlSANS-SERIF ARROWlTRIANGLE-HEADED ARROW, TO BAR
  lWHITE ARROWfEAST-POINTING AIRPLANEcSEcT A SUBSET OFiPERSET OFfLMOST EQUAL TOfN ELEMENT OF
  fSYMPTOTICALLY EQUAL TOeCHECK MARKeEQUAL TOhIVALENT TOeGREATER-THANeIDENTICAL TOeLESS-THAN
  eNORMAL SUBGROUP OFw OR EQUAL TOePARALLEL TOeSIGNfQUARE IMAGE OF OR EQUAL TO
  lORIG
  INAL OF OR EQUAL TOeTILDEfRUEdCHED LEFT SEMICIRCLE WITH THREE DOTS
  jOWER RIGHT-SHADOWED WHITE RIGHTWARDS ARROWiRIGHT SEMICIRCLE WITH THREE DOTS
  iUPPER RIGHT-SHADOWED WHITE RIGHTWARDS ARROWdEe PADhGEeBOOKi WITH DECORATIVE COVERbULdL
  cMBER EIGHTEEN FULL STOPiLEVEN FULL STOPhFIFTEEN FULL STOPiOURTEEN FULL STOPhNINETEEN FULL STOP
  hSEVENTEEN FULL STOPiIGNjXTEEN FULL STOPhTEN FULL STOPiHIRTEEN FULL STOPiWELVE FULL STOP
  kNTY FULL STOPdERO SIGNcSHU CHARACTER-1B170u1u2u3u4u5u6u7u8u9uAuBuCuDuEuFt80u1u2u3u4u5u6u7u8u9uA
  uBuCuDuEuFt90u1u2u3u4u5u6u7u8u9uAuBuCuDuEuFtA0u1u2u3u4u5u6u7u8u9uAuBuCuDuEuFtB0u1u2u3u4u5u6u7u8
  u9uAuBuCuDuEuFtC0u1u2u3u4u5u6u7u8u9uAuBuCuDuEuFtD0u1u2u3u4u5u6u7u8u9uAuBuCuDuEuFtE0u1u2u3u4u5u6
  u7u8u9uAuBuCuDuEuFtF0u1u2u3u4u5u6u7u8u9uAuBuCuDuEuFs200u1u2u3u4u5u6u7u8u9uAuBuCuDuEuFt10u1u2u3u4
  u5u6u7u8u9uAuBuCuDuEuFt20u1u2u3u4u5u6u7u8u9uAuBuCuDuEuFt30u1u2u3u4u5u6u7u8u9uAuBuCuDuEuFt40u1u2
  u3u4u5u6u7u8u9uAuBuCuDuEuFt50u1u2u3u4u5u6u7u8u9uAuBuCuDuEuFt60u1u2u3u4u5u6u7u8u9uAuBuCuDuEuFt70
  u1u2u3u4u5u6u7u8u9uAuBuCuDuEuFt80u1u2u3u4u5u6u7u8u9uAuBuCuDuEuFt90u1u2u3u4u5u6u7u8u9uAuBuCuDuEuF
  tA0u1u2u3u4u5u6u7u8u9uAuBuCuDuEuFtB0u1u2u3u4u5u6u7u8u9uAuBuCuDuEuFtC0u1u2u3u4u5u6u7u8u9uAuBuCuD
  uEuFtD0u1u2u3u4u5u6u7u8u9uAuBuCuDuEuFtE0u1u2u3u4u5u6u7u8u9uAuBuCuDuEuFtF0u1u2u3u4u5u6u7u8u9uAuB
  gITERATION MARKcT AND BOLTbYIAKENG PUACHUE HMONG CIRCLED CAxDIGIT EIGHT&FIVE*OUR&NINE&ONE&SEVEN
  *IX&THREE*WO&ZEROxLETTER A+A*CA*DA+LA*E+E*FA*GA*HA,H*I*KA*LA*MA+LA*NA+CA+KA+PA,LA+QA+RA+TA,SA,XA
  +YA*O+O*PA+LA*QA*RA+RA*SA*TA+SA+XA*U*VA*W*XA+YA*YA*ZAyOGOGRAM NYAJxSIGN FOR ANIMAL,INVERTEBRATE
  ,LOCATION,PERSON,THING%XW XWyYLLABLE LENGTHENERxTONE-B%D%G%J%M%S%VaOBJECT REPLACEMENT CHARACTER
  cLIQUE ANGLE OPENING DOWNwUPiHYPHENcSERVER EYE SYMBOLbCR AMOUNT OF CHECKeBELT BUCKLEfOW TIE
  fRANCH BANK IDENTIFICATIONeCHAIRfUSTOMER ACCOUNT NUMBEReDASHfOUBLE BACKSLASHeFORKeHOOK
  eINVERTED FORKcTAGONAL SIGNdOPUSbDENbFFICE BUILDINGbGHAM FEATHER MARKgLETTER AILMnBEITHnCEIRT
  oOLLnDAIRnEABHADHpDHADHpMHANCHOLLnFEARNnGORTnIFINoODHADHnLUISnMUINnNGEADALoIONnONNoRnPEITHnRUIS
  nSAILoTRAIFnTINNEnUATHoILLEANNoRgREVERSED FEATHER MARKgSPACE MARKcONEKbHM SIGNbIL DRUM
  bK HAND SIGNbL CHIKI AHADjDIGIT EIGHTpFIVEqOURpNINEpONEpSEVENqIXpTHREEqWOpZEROjGAAHLAA TTUDDAAG
  jLETTER AAJsKsMsWrGrLrNGrTqEDDrNrPrRRqIHrNYrRrSqLAsArErIrOrUqOBrHrTTrVqUCrDrNNrYjMU TTUDDAG
  l-GAAHLAA TTUDDAAGjPHAARKAAkUNCTUATION DOUBLE MUCAADvMUCAADjRELAAcD CHINESE HOOK MARK
  mITERATION MARKeHUNGARIAN CAPITAL LETTER A*A*K*MB*ND&CLOSE E&E*B*C+H+S*D*E*F*G+Y*H*J*K*L+Y*M+P*N
  +C+T,-SHAPED SIGN+Y*P*R*S+Z*T+Y*V*Z+S&I*I&NIKOLSBURG OE^UE&O*EE*O&RUDIMENTA OE?UE&SHORT ER&U*NK
  *S*UoNUMBER FIFTYxVEvONEy HUNDREDzTHOUSANDvTENoSMALL LETTER A%A%K%MB%ND$CLOSE E$E%B%C&H&S%D%E%F
  %G&Y%H%J%K%L&Y%M&P%N&C&T*-SHAPED SIGN&Y%P%R%S&Z%T&Y%V%Z&S$I%I$NIKOLSBURG OE>UE$O%EE%O
  $RUDIMENTA OE=UE$SHORT ER$U%NK%S%UeITALIC LETTER AsBEsCHEsDEsEtFtKStLtMtNtRuStSuHuSsHEsItIsKAtE
  tHEtUsNORTHERN TSEsOsPEtHEsSHEtOUTHERN TSEsTEtHEsUtUsVEsYEsZElNUMERAL FIFTYvVEtONEtTENeKEY
  eNORTH ARABIAN LETTER AIN!LEFzBEHzDAD$LzES-1%2%3zFEHzGEEM!HAINzHAH!EHzKAF!HAHzLAMzMEEMzNOONzQAF
  zREHzSADzTAH!EH!HAL$EHzWAWzYEHzZAH$INsNUMBER ONEzTEN!WENTYePERMIC LETTER ANsBURsCHERYsDOItZHOI
  uITAsEtFsGAIsHAsItAtEsKOKEsLEIsMENOEsNENOEsOtOsPEEIsREIsSHCHOOIuOOItIIsTAItSIUsUsVERtOOIsYAuTtER
  vIvUtRYtUsZATAtHOIhSIAN NUMBER HUNDREDtONEtTENuWENTYvOmSIGN AsURAMAZDAA$-2$HArBAtGAsUUMISHrCArDA
  tHYAAUSH!-2sIsUrFArGAsUrHArIrJAsIrKAsUrLArMAsIsUrNAsUrPArRAsUrSAsHAsSArTAsHAsUrUrVAsIrXA
  sSHAAYATHIYArYArZAmWORD DIVIDERiONAL COMPUTEReSOGDIAN FRACTION ONE HALFmLETTER ALEPH
  vTERNATE AYINuYINtBETHtFINAL ALEPHzBETHzHEzNUN% WITH VERTICAL TAILzSADHE* WITH VERTICAL TAILzTAW
  % WITH VERTICAL TAILtGIMELtHEvTHtKAPHtLAMEDHtMEMtNUNtPEtRESH-AYIN-DALETHtSADHEvMEKHuHINtTAWtWAW
  tYODHtZAYINnIGATURE AYIN-DALETHmNUMBER FIVEuOURtONEw HUNDREDtTENuHIRTYvREEuWENTYvO
  gUTH ARABIAN LETTER ALEF!YNzBETHzDALETH!HADHE%LETHzFEzGHAYN!IMELzHE$THzKAPH!HETHzLAMEDHzMEMzNUN
  zQOPHzRESHzSADHE$MEKH$T!HINzTAW!ETH!HAW$ETHzWAWzYODHzZAYNsNUMBER FIFTYzONEvERIC INDICATOR
  eTURKIC LETTER ORKHON A!B!D!EB$D$G$K$L$N$R$S$T$Y!G!L!N!Q!R!S$H!T!YzBASHzEC!LT!M!NC$G$T$Y!P!SH!Z
  zI!C!QzO!E$K!P!Q!TsYENISEI A$B$D$E%B%G%K%N&G%T%Y$G$L$NG$Q$R$SH$T$Y!E$C$NC%T%Y$SH$Z!I$Q!OE%K$Q
  eUYGHUR COMBINING DOT ABOVEzBELOWvTWO DOTS ABOVE*BELOWlLETTER ALEPHsBETHsFINAL HETHsGIMEL-HETH
  sKAPHsLAMEDHtESHsMEMsNUNsPEsRESHsSADHEuMEKHtHINsTAWsWAWsYODHsZAYINlPUNCTUATION BARxFOUR DOTS
  xTWO BARS$DOTSdER ADULTgMANgWOMANcIVEbM SYMBOL
  bN WITH EXCLAMATION MARK WITH LEFT RIGHT ARROW ABOVEcCOMING AUTOMOBILEjBUSjFIRE ENGINE
  jPOLICE CARjTAXIcE BUTTON MOUSEeDOT LEADERiOVER TWO DOTS PUNCTUATIONd-PIECE SWIMSUITcION
  bPEN BOOKhXfCENTRE ASTERISKmBLACK STARmCROSSmTEARDROP-SPOKED ASTERISKfFILE FOLDERgOLDER
  fHANDS SIGNfLOCKfMAILBOX WITH LOWERED FLAGsRAISED FLAGfSUBSEThPERSET
  e-CIRCUIT-OUTPUT H-TYPE SYMBOLuL-TYPE SYMBOLfOUTLINED RIGHTWARDS ARROWdRATING SYSTEM COMMAND
  cHIUCHUScPOSITIONcTICAL DISCm ICONeON KEYbR WITH DOT INSIDEcANGE BOOKhHEARTfUTANcIGINAL OF
  dYA AI LENGTH MARKhU LENGTH MARKgDIGIT EIGHTmFIVEnOURmNINEmONEmSEVENnIXmTHREEnWOmZERO
  gFRACTION ONE EIGHTHtHALFtQUARTERtSIXTEENTHpTHREE QUARTERSvSIXTEENTHSgISSHARgLETTER AoAoIoUnBA
  oHAnCAoHAnDAoDApHAoHAnEnGAoHAnHAnIoInJAoHAnKAoHAnLAoLAnMAnNAoGAoNAoYAnOnPAoHAnRAoHAoRAnSAoHAoSA
  nTAoHAoTApHAnUoUnVAoOCALIC LwLvRwRnWAnYAoYAgSIGN ANUSVARAmVAGRAHAlCANDRABINDUlNUKTAlOVERLINE
  lVIRAMAnSARGAgVOWEL SIGN AAsIsUrErIsIrOrUsUrVOCALIC L!LzR!RcNATE LEFT PARENTHESIS
  hRIGHT PARENTHESIScTHODOX CROSSbSAGE CAPITAL LETTER AwHwIxNvBRAvCHAvDHAvEwHCHAxKAxPAxTAySAwIN
  vGHAvHAwYAvIvKAwHAwYAvLAvMAvNAvOwINvPAvSAwHAvTAwSAxHAvUvWAvZAwHAgSMALL LETTER AuHuIvNtBRAtCHA
  tDHAtEuHCHAvKAvPAvTAwSAuINtGHAtHAuYAtItKAuHAuYAtLAtMAtNAtOuINtPAtSAuHAtTAuSAvHAtUtWAtZAuHAcC
  cMANYA DIGIT EIGHToFIVEpOURoNINEoONEoSEVENpIXoTHREEpWOoZEROiLETTER AqAqLEFpBApCAYNpDEELqHApEqE
  pFApGApHApIpJApKAAFqHApLAANpMIINpNUUNpOqOpQAAFpRApSAqHIINpTApUpWAWpXApYAbTTER
  dOMAN SIYAQ ALTERNATE NUMBER EIGHT+FIVE,OUR; HUNDRED+NINE+SEVEN,IX: HUNDRED+TEN: THOUSAND,HREE
  ,WO: THOUSANDoFRACTION ONE HALF$SIXTHoMARRATANoNUMBER EIGHT! HUNDRED$THOUSAND!Y$ THOUSANDvFIFTY
  ! THOUSANDxVEz HUNDRED!THOUSANDwORTY! THOUSANDxURz HUNDRED!THOUSANDvNINEz HUNDRED!THOUSANDzTY
  $ THOUSANDvONEy HUNDREDzTHOUSANDvSEVEN! HUNDRED$THOUSAND!TY% THOUSANDwIXy HUNDREDzTHOUSANDyTY
  ! THOUSANDvTENy THOUSANDwHIRTY$ THOUSANDxREE! HUNDRED$THOUSANDwWENTY$ THOUSANDxOy HUNDRED
  zTHOUSANDbUNCE SIGNcTBOX TRAYdLINED BLACK STARjGREEK CROSSjLATIN CROSSjWHITE STARbVERHEATED FACE
  eLAPhPING BLACK SQUARESmWHITE AND BLACK SQUARESsSQUARESfINEbWLbXbYSTERaPACKAGEcDdDING CHARACTER
  cGEe FACING UPfWITH CIRCLED TEXTlURLeReSdODAcHAWH HMONG CLAN SIGN FAJxHAMzWJxKHAByOOyWMxLAUJyIS
  xMUASxPHABxTHOJySABzHEEJzWBxVAJyWJxXYOOJxYAJyEEGoONSONANT AUxCAUyHAUxHAUyLAUyNAUxLAUxMAUxNAU
  yCHAUyKAUyLAUyTHAUzSAUxPLHAUxQHAUxRAUxVAUxXAUxYAUnDIGIT EIGHTtFIVEuOURtNINEtONEtSEVENuIXtTHREE
  uWOtZEROnMARK CIM HOMwKESxHAVwSOxUAMwTAUMxUBnNUMBER HUNDRED MILLIONS$SuMILLIONSuTEN BILLIONS
  yTHOUSANDSxSvRILLIONSnSIGN AVsCIM CHEEMxUAM TSHOOJwHAIS LUS NTOG NTOGwNRES TOSwPUB DAWBwTSOV ROG
  xXWV! CHWVsHLItNUBsIB YAMsLOSsMEEJ SUABxTSEEBtUSsNQIGtTUJsTAUtHIRD-STAGE HLItXHEEJ CEEVsVOS FEEM
  wLUBwNRUAwSEEVwTHIAByOMxSHAB CEEBsXAUStIABtYEEM FAIByNTXIVyRHOyTOVuOOsZWJ THAJnVOWEL KAABwVvBvIB
  wVvUBwVvVvWBwVuEBvEBwVvVuIABwVvBvVuOBvOBwVvVuUABwVvBvVuWBvVcLLASdM BRANCHfDOWN HANDfTREEfUP HAND
  eS UP TOGETHEReYRENE LEFT-POINTING FLEURONmTTER ALEPHsYINrBETHrDALETHrFINAL NUNrGIMELrHEtTHrKAPH
  rLAMEDHrMEMrNUNrPErQOPHrRESHrSADHEtMEKHsHINrTAWsETHrWAWrYODHrZAYINkNUMBER FIVEsOURrONErTENsHREE
  sWENTYtOkRIGHT-POINTING FLEURONcNCAKESdDA FACEcPERCLIPcRACHUTEeGRAPH SEPARATORjOSjUS MARK
  eLLEL TOjWITH HORIZONTAL STROKEoTILDE OPERATORdENTHESIZED DIGIT EIGHTuFIVEvOURuNINEuONEuSEVENvIX
  uTHREEvWOoHANGUL CHIEUCH% AwIEUC! A$UvHIEUH! AvIEUNG! AvKHIEUKH% AwIYEOK$ AvMIEUM! AvNIEUN! A
  vPHIEUPH% AwIEUP! AvRIEUL! AvSIOSz AvTHIEUTH% AwIKEUT$ AoIDEOGRAPH ALLIANCEyCALLzONGRATULATION
  yEARTHzIGHTzNTERPRISEyFESTIVALzINANCIAL!RE!VEzOURyHAVEyLABORyMETALzOONyNAMEzINEyONEyREACH
  !PRESENT!SOURCE$TySELF!VENzIXzOCIETYzPECIALzTOCK!UDYzUN!PERVISEyTENzHREEzWOyWATERzOOD
  oKOREAN CHARACTER O HU,JEONoLATIN CAPITAL LETTER A;B;C;D;E;F;G;H;I;J;K;L;M;N;O;P;Q;R;S;T;U;V;W;X
  ;Y;ZuSMALL LETTER A.B.C.D.E.F.G.H.I.J.K.L.M.N.O.P.Q.R.S.T.U.V.W.X.Y.ZoNUMBER EIGHTEENwLEVEN
  vFIFTEENwOURTEENvNINETEENvSEVENTEENwIXTEENvTENwHIRTEENwWELVEyNTYdROTdT ALTERNATION MARK
  eIAL DIFFERENTIALiLINE BACKWARDnDOWNnFORWARDnUPhLY-RECYCLED PAPER SYMBOLeNERSHIP SIGNeY POPPER
  cSSED SYMBOLfNGER SHIPeIVE-PULL-DOWN-OUTPUT SYMBOLnUP-OUTPUT SYMBOLePORT CONTROL
  cU CIN HAU GLOTTAL STOPy FINALzVARIANTmLETTER AtBAtCAuHAtDAtEtFAuINAL KzLzMzN!GzPzTzWzYtGAtHAtI
  uAtKAuHAtLAtMAtNAuGAtOtPAuHAtRAtSAtTAuHAtUuAtVAtZAnOW-FALLING TONE% FINAL&LONG. FINAL
  mMID-LEVEL TONE! FINAL$LONG FINALmRISING TONEx FINALyLONG% FINALmSANDHI GLOTTAL STOP+ FINALtTONE
  x FINALyLONG% FINALcW PRINTSbDFcIbEACE SYMBOLeHeOCKdNUTSdRcDESTRIANcN OVER STAMPED ENVELOPEdCIL
  dGUINdSIVE FACEdTAGRAMcOPLE HUGGINGcR MILLE SIGNeSIGNeTEN THOUSAND SIGNdCENT SIGNdFORMING ARTS
  dMANENT PAPER SIGNdPENDICULARn WITH SdSEVERING FACEeON BOWING DEEPLYhCLIMBINGhDOING CARTWHEEL
  hFROWNINGhIN LOTUS POSITIONkSTEAMY ROOMhRAISING BOTH HANDS IN CELEBRATIONhWITH BALLnLOND HAIR
  mCROWNmFOLDED HANDSmHEADSCARFmPOUTING FACEgAL COMPUTERePECTIVEcSETA SIGNdO SIGNcTRI DISH
  bHAGS-PA DOUBLE HEAD MARKjLETTER ArLTERNATE YArSPIRATED FAqBAqCAsNDRABINDUrHAqDArDArZAqErEqFAqGA
  rGAqHAqIqJAqKArHAqLAqMAqNArGArNArYAqOqPArHAqQAqRAqSArHArMALL AqTArHArSAsHArTAsHAqUqVOICED HA
  vLESS SHAqWAqXAqYAqZArHAjMARK DOUBLE SHADoSHADjSINGLE HEAD MARKkUBJOINED LETTER RA!WA!YA
  lPERFIXED LETTER RAdISTOS DISC SIGN ARROWtBEEwHIVEuOOMERANGvWuULLS LEGtCAPTIVEvRPENTRY PLANEvT
  uHILDuLUBuOLUMNvMBxINING OBLIQUE STROKEtDOLIUMvVEtEAGLEtFLUTEtGAUNTLETuRATERtHELMETuIDEuORNtLID
  vLYtMANACLESvTTOCKtOX BACKtPAPYRUSuEDESTRIANuLANE TREEvUMED HEADtRAMuOSETTEtSAWuHIELDwPuLING
  uMALL AXEuTRAINERtTATTOOED HEADuIARAuUNNYtVINEtWAVY BANDuOMANcILIPPINE DOUBLE PUNCTUATION
  lSINGLE PUNCTUATIONcOENICIAN LETTER AINtLFsBETsDELTsGAMLsHEuTsKAFsLAMDsMEMsNUNsPEsQOFsROSHsSADE
  tEMKtHINsTAUtETsWAUsYODsZAIlNUMBER ONEv HUNDREDsTENtHREEtWENTYuOlWORD SEPARATORdLUSbICKeUP TRUCK
  cEcGd FACEeNOSEcLCROW SIGNdE OF POOdLcNATAdCHED FINGERSfING HANDdE DECORATIONeAPPLEdWHEEL STAR
  cSCESdTOLcTCHFORKj WITH TEE TOPbLACARDeE OF INTEREST SIGNjWORSHIPdNCK CONSTANTp OVER TWO PI
  dYGROUND SLIDEeING CARD ACE OF CLUBSuDIAMONDSuHEARTSuSPADESnBACKoLACK JOKERnEIGHT OF CLUBS
  wDIAMONDSwHEARTSwSPADESnFIVE OF CLUBSvDIAMONDSvHEARTSvSPADESoOOLpUR OF CLUBSvDIAMONDSvHEARTS
  vSPADESnJACK OF CLUBSvDIAMONDSvHEARTSvSPADESnKING OF CLUBSvDIAMONDSvHEARTSvSPADESoNIGHT OF CLUBS
  xDIAMONDSxHEARTSxSPADESnNINE OF CLUBSvDIAMONDSvHEARTSvSPADESnQUEEN OF CLUBSwDIAMONDSwHEARTS
  wSPADESnRED JOKERnSEVEN OF CLUBSwDIAMONDSwHEARTSwSPADESoIX OF CLUBSuDIAMONDSuHEARTSuSPADES
  nTEN OF CLUBSuDIAMONDSuHEARTSuSPADESoHREE OF CLUBSwDIAMONDSwHEARTSwSPADESoRUMP-1u0u1u2u3u4u5u6u7
  u8u9t2u0u1t3t4t5t6t7t8t9oWO OF CLUBSuDIAMONDSuHEARTSuSPADESnWHITE JOKERcDcUdNGERdS SIGN
  j ABOVE EQUALS SIGNkIN LEFT HALF CIRCLEnRIGHT HALF CIRCLEnTRIANGLEkWITH BLACK TRIANGLE
  pCIRCUMFLEX ACCENT ABOVEpDOT BELOWpSMALL CIRCLE ABOVEqUBSCRIPT TWOpTILDE ABOVEvBELOWe-MINUS SIGN
  dTOf FORM FIVEmOURlTHREEmWObMbOCKET CALCULATORcLICE CARkS REVOLVING LIGHThOFFICERcODLE
  cP DIRECTIONAL FORMATTINGqISOLATEdCORNcRTABLE STEREOcSEIDONdITION INDICATORdTAL HORNhMARKl FACE
  eBOXcT OF FOODdABLE WATER SYMBOLeTOdTED PLANTcUCHdLTRY LEGdND SIGNdRING LIQUIDdTING CAT FACE
  iFACEcWER ON SYMBOLi-OFF SYMBOLgSLEEP SYMBOLhYMBOLbRAYER BEADScECEDESi ABOVE ALMOST EQUAL TO
  pEQUALS SIGNpNOT ALMOST EQUAL TOtEQUAL TOpSINGLE-LINE EQUALS SIGN$NOT EQUAL TO
  jBUT NOT EQUIVALENT TOjOR EQUAL TOpIVALENT TOjUNDER RELATIONdGNANT MANjPERSONjWOMAN
  dSCRIPTION TAKEeENTATION FORM FOR VERTICAL COLON.MMA+EM DASH,N DASH,XCLAMATION MARK
  +HORIZONTAL ELLIPSIS+IDEOGRAPHIC COMMA~ FULL STOP+LEFT ANGLE BRACKET<BLACK LENTICULAR BRACKET
  <CORNER BRACKET=URLY BRACKET<DOUBLE ANGLE BRACKET<PARENTHESIS<SQUARE BRACKET
  <TORTOISE SHELL BRACKET<WHITE CORNER BRACKET~LENTICULAR BRACKET,OW LINE+QUESTION MARK
  +RIGHT ANGLE BRACKET=BLACK LENTICULAR BRACKET=CORNER BRACKET>URLY BRACKET=DOUBLE ANGLE BRACKET
  =PARENTHESIS=SQUARE BRACKET=TORTOISE SHELL BRACKET=WHITE CORNER BRACKET~ LENTICULAR BRACKET
  ~ LENTICULAR BRAKCET+SEMICOLON+TWO DOT LEADER+WAVY LOW LINEdTZELdVIOUS PAGEcIMEdNCEgSS
  eT SCREEN SYMBOLfERh ICONdVACY MESSAGEfTE USE ONEmTWOl-1m2cOBING CANEdHIBITED SIGNdJECTIVE
  dPERTY LINEeORTIONkAL TOdSERPINAbSALTER PAHLAVI FOUR DOTS WITH CROSS+DOTqLETTER ALEPHxBETH
  xDALETHxGIMELxHEzTHxKAPHxLAMEDHxMEM-QOPHxNUNxPExSADHEzMEKHyHINxTAWxWAW-AYIN-RESHxYODHxZAYIN
  qNUMBER FOURxONE! HUNDREDxTENyHREEyWENTYzOqSECTION MARKqTURNED SECTION MARKbU1c2
  cBLIC ADDRESS LOUDSPEAKERcNCTUATION SPACEgS ELEVATUS MARKcRPLE HEARTdSEcSHPIN
  cT LITTER IN ITS PLACE SYMBOLaQUADRANT LOWER LEFTpRIGHTjUPPER LEFT
  t AND LOWER LEFT AND LOWER RIGHT*RIGHTyUPPER RIGHT AND LOWER LEFT~WER RIGHTpRIGHT
  u AND LOWER LEFT; AND LOWER RIGHTfUPLE INTEGRAL OPERATORkPRIMEdRTER NOTE
  dTERNION INTEGRAL OPERATORcESTION EXCLAMATION MARKjMARKiED EQUAL TOcINCUNXcOTATION MARKaRABBIT
  g FACEcCCOONdING CARhMOTORCYCLEcDICAL SYMBOL BOTTOMeOf BUTTONfACTIVE SIGNcILWAY CARiTRACKdNeBOW
  dSED BACK OF HANDhCOMMAhDOTkTED INTERPOLATION MARKERhFISThHANDl WITH FINGERS SPLAYED
  rPART BETWEEN MIDDLE AND RING FINGERShINTERPOLATION MARKERhMC SIGNiD SIGNiR SIGNhSQUAREcMcTdIO
  cZORbECEIPTdORD SEPARATORdREATIONAL VEHICLEdYCLED PAPER SYMBOLgING SYMBOL FOR GENERIC MATERIALS
  vTYPE-1 PLASTICS!2 PLASTICS!3 PLASTICS!4 PLASTICS!5 PLASTICS!6 PLASTICS!7 PLASTICScD APPLE
  eGIFT ENVELOPEcFERENCE MARKcGIONAL INDICATOR SYMBOL LETTER A.B.C.D.E.F.G.H.I.J.K.L.M.N.O.P.Q.R.S
  .T.U.V.W.X.Y.ZeSTERED SIGNcJANG CONSONANT SIGN HwNxGwRhLETTER AoBAoCAoDAoGAoHAoJAoKAoLAoMApBAoNA
  pDApGAqGApYAqJAoPAoRAoSAoTAoWAoYAhSECTION MARKhVIRAMAiOWEL SIGN AItUsEtAtUsIsOsUcLIEVED FACE
  cMINDER RIBBONcPLACEMENT CHARACTERcSPONSEdTRICTED LEFT ENTRY-1w2fOOMcTURN LEFThRIGHThSYMBOL
  cVERSE CHECKER BOARDiINDEXiLIGHT FOUR POINTED PINWHEEL STARkNE FEEDiSOLIDUSp OPERATOR
  qPRECEDING SUBSETqWITH HORIZONTAL STROKEiTILDE OPERATOR ABOVE LEFTWARDS ARROW&RIGHTWARDS ARROW
  hD ANGLEo WITH UNDERBARjCOMMAjDOUBLE PRIMEv QUOTATION MARKqSTROKE NOT SIGNjEMPTY SET
  jFORKED PARAGRAPHOSjHAND WITH MIDDLE FINGER EXTENDEDjNOT SIGNjPILCROW SIGNkRIMEjQUESTION MARK
  jRAISED HAND WITH FINGERS SPLAYEDkIGHT ANGLEkOTATED FLORAL HEART BULLETjSANS-SERIF CAPITAL L
  kEMICOLONjTHUMBS DOWN SIGNqUP SIGNkILDEo EQUALSkRIPLE PRIMEjVICTORY HANDdOLVING HEARTSbHINOCEROS
  bIcAL SIGNcBBONg ARROW DOWN LEFTsRIGHTnLEFT DOWNsUPnRIGHT DOWNtUPnUP LEFTqRIGHTcCE BALLfCRACKER
  cFLEcGHT AND LOWER ONE EIGHTH BLOCKkUPPER ONE EIGHTH BLOCKiGER BUBBLEjLEl BRACKETt WITH DOT
  mDOTTED SUBSTITUTION MARKERmSUBSTITUTION MARKERmVARIANT WITH SQUAREmWITH ARC
  rDOWNWARDS ZIGZAG ARROWhRC GREATER-THAN BRACKETiROW WITH CIRCLED PLUSrSMALL CIRCLE
  gBLACK LENTICULAR BRACKETmTORTOISE SHELL BRACKETgCEILINGhORNER BRACKEThURLY BRACKETt LOWER HOOK
  uMIDDLE PIECEuUPPER HOOKgDOTTED SUBSTITUTION BRACKETiUBLE ANGLE BRACKEToRROW WITH ROUNDED HEAD
  nPARENTHESISnQUOTATION MARKnWIGGLY FENCEgFISH TAILiVE EIGHTHS BLOCKhLOORgHALF BLACK CIRCLErSTAR
  nOCKlFOLDERlMEDIUM SHADElRUNNING MANiND TELEPHONE RECEIVERgLOW PARAPHRASE BRACKET
  gNORMAL FACTOR SEMIDIRECT PRODUCTgONE EIGHTH BLOCKkQUARTER BLOCKhPEN SQUARED DOThUTER JOIN
  gPARENTHESISr EXTENSIONsLOWER HOOKsUPPER HOOKgRAISED OMISSION BRACKETgS-SHAPED BAG DELIMITER
  hEMIDIRECT PRODUCTiVEN EIGHTHS BLOCKhIDEWAYS U BRACKETiNGLE QUOTATION MARKhPEAKER
  n WITH ONE SOUND WAVEtTHREE SOUND WAVESjECH BUBBLEhQUARE BRACKETu EXTENSIONvLOWER CORNER
  vUPPER CORNERvWITH DOUBLE STROKE!QUILL!STROKE!TICK IN BOTTOM CORNER:TOP CORNER!UNDERBAR
  hUBSTITUTION BRACKETgTACKhHIRD WHITE RIGHT POINTING INDEXiOUGHT BUBBLEiREE EIGHTHS BLOCK
  mQUARTERS BLOCKhORTOISE SHELL BRACKEThRANSPOSITION BRACKETiIANGLEo ABOVE LEFT TRIANGLE
  mULAR ONE QUARTER BLOCKgVERTICAL BAR WITH QUILLqOX LINEgWHITE CORNER BRACKETnURLY BRACKET
  mLENTICULAR BRACKETmPARENTHESISmSQUARE BRACKETmTORTOISE SHELL BRACKEThIGGLY FENCE
  f-FACING ARMENIAN ETERNITY SIGNnFISTnSVASTI SIGNy WITH DOTSgHANDED INTERLACED PENTAGRAM
  gPOINTING ANGLE BRACKETpCURVED ANGLE BRACKETpDOUBLE ANGLE QUOTATION MARKpMAGNIFYING GLASS
  gSHADED WHITE RIGHTWARDS ARROWhIDE ARC CLOCKWISE ARROWgTO-LEFT EMBEDDINGoISOLATEoMARKoOVERRIDE
  fHAND INTERIOR PRODUCTfWARDS ARROWq ABOVE ALMOST EQUAL TOxREVERSE ALMOST EQUAL TO+TILDE OPERATOR
  xSHORT LEFTWARDS ARROWxTILDE OPERATORsND UPPER AND LOWER ONE EIGHTH BLOCKrFROM BAR
  z TO BLACK DIAMONDrOVER LEFTWARDS ARROWrTHROUGH GREATER-THANzSUPERSETzXsO BARvLACK DIAMOND
  rWITH CORNER DOWNWARDSwDOTTED STEMyUBLE VERTICAL STROKEwEQUILATERAL ARROWHEADwHOOK
  wLARGE TRIANGLE ARROWHEADxOOPwMEDIUM TRIANGLE ARROWHEADwNOTCHED TAILwPLUS BELOW
  wSMALL EQUILATERAL ARROWHEAD%TRIANGLE ARROWHEADxTROKEwTAIL! WITH DOUBLE VERTICAL STROKE
  ,VERTICAL STROKExIP DOWNWARDS!UPWARDSwVERTICAL STROKEq-TAILlBACK-TILTED SHADOWED WHITE ARROW
  mLACK ARROWrCIRCLED WHITE ARROWmOTTOM SHADED WHITE ARROWlCOMPRESSED ARROWlDASHED ARROW
  mOUBLE ARROWx FROM BARyWITH STROKE&VERTICAL STROKEx-TAILsDASH ARROWlFINGER-POST ARROW
  mRONT-TILTED SHADOWED WHITE ARROWlHANDnRPOON OVER LEFTWARDS HARPOON
  tWITH BARB DOWN ABOVE LEFTWARDS HARPOON WITH BARB DOWN:BELOW LONG DASH:FROM BAR:TO BAR.WARDS
  &UP ABOVE LEFTWARDS HARPOON WITH BARB UP?ONG DASH>RIGHTWARDS HARPOON WITH BARB DOWN,FROM BAR
  ,TO BAR+WARDSmEAVY ARROWrCOMPRESSED ARROWlLEFT-SHADED WHITE ARROWlOPEN-HEADED ARROW
  lPAIRED ARROWSlQUADRUPLE ARROWlRIGHT-SHADED WHITE ARROWmOCKETlSANS-SERIF ARROWmQUARED ARROW
  oIGGLE ARROWlTOP SHADED WHITE ARROWmRIANGLE ARROWHEADt-HEADED ARROW
  , OVER LEFTWARDS TRIANGLE-HEADED ARROW.TO BAR.WITH BOLD SHAFT>DOUBLE HORIZONTAL STROKE
  ~LE VERTICAL STROKE>HEAVY SHAFT>LONG TIP DOWNWARDS~ TIP UPWARDS>MEDIUM SHAFT>NARROW SHAFT
  >VERY HEAVY SHAFT$DASHED ARROW$PAIRED ARROWSoPLE ARROWsDASH ARROWmWO HEADED ARROW
  o-HEADED ARROW FROM BAR%WITH DOUBLE VERTICAL STROKE.TAIL= WITH DOUBLE VERTICAL STROKE
  ~ VERTICAL STROKE:RIANGLE ARROWHEADS.VERTICAL STROKEwTRIPLE DASH ARROWlWAVE ARROWmHITE ARROW
  w FROM WALLxWITHIN TRIANGLE ARROWHEADcNGe ABOVEfBUOYfEQUAL TOfIN EQUAL TOfOPERATORfPOINT
  eED PLANETeING BELLcSING DIAGONAL CROSSING FALLING DIAGONALzSOUTH EAST ARROWbLEcIcMcO
  bOASTED SWEET POTATOcBOT FACEcCKeETcLL OF PAPEReED-UP NEWSPAPERfR COASTERhSKATE
  eING ON THE FLOOR LAUGHINGcMAN AS SIGNgCENTURIAL SIGNgDENARIUS SIGNhIMIDIA SEXTULA SIGN
  hUPONDIUS SIGNgNUMERAL EIGHTpLEVENoFIFTYt EARLY FORMuTHOUSANDqVEs HUNDREDtTHOUSANDpOURoNINEoONE
  r HUNDREDz THOUSANDsTHOUSAND! C DoREVERSED ONE HUNDREDoSEVENpIXr LATE FORMoTENr THOUSANDpHREE
  pWELVEqOgQUINARIUS SIGNgSEMUNCIA SIGNiSTERTIUS SIGNiXTANS SIGNkULA SIGNhILIQUA SIGNgUNCIA SIGN
  cOSTERcSEeTTEcTATED CAPITAL QiFLORAL HEART BULLETiHEAVY BLACK HEART BULLET
  iLIGHT FOUR POINTED BLACK CUSPiWHITE FOUR POINTED CUSPcUND PUSHPINgTARGETfED SYMBOL FOR CAItFU
  tLUtSHOUvUANGXItXIcWBOATbSbUBLE SIGNcGBY FOOTBALLcLE-DELAYEDcMI DIGIT EIGHTlFIVEmOURlNINElONE
  lSEVENmIXlTHREEmWOfFRACTION ONE HALFsQUARTERsTHIRDoTWO THIRDSfNUMBER EIGHT HUNDREDrYmFIFTY
  oVE HUNDREDnORTYoUR HUNDREDmNINE HUNDREDqTYmONE HUNDREDmSEVEN HUNDREDrTYnIX HUNDREDpTYmTENnHIRTY
  oREE HUNDREDnWENTYoO HUNDREDcNIC ARLAUG SYMBOLgBELGTHOR SYMBOLgCROSS PUNCTUATIONgLETTER AC AoESC
  oLGIZ EOLHXoNSUZ AnBERKANAN BEORC BJARKAN BnCoALCoEALCpNoWEORTHnDoAGAZ DAEG DoOTTED-LuNuPnEoAR
  oHWAZ EH EoNGoTHnFEHU FEOH FE FoRANKS CASKET AC%ESC$EH$IS$OSnGoARoEBO GYFU GpRnHAEGL HpGLAZ H
  nICELANDIC-YRoNGqWAZoORoSAZ IS ISS IoWAZ EOHnJERAN JnKoAUN KrAnLAUKAZ LAGU LOGR L
  oONG-BRANCH-AR AEzHAGALL HzMADR MzOSS OzYRnMANNAZ MAN MnNAUDIZ NYD NAUD NnOoEoNoOoPEN-PoS O
  oTHALAN ETHEL OnPERTHO PEORTH PnQnRAIDO RAD REID RnSHpORT-TWIG-AR AyBJARKAN ByHAGALL HyMADR M
  yNAUD NyOSS OySOL SyTYR TyYRoIGEL LONG-BRANCH-SOL SoOWILO SoTANnTHURISAZ THURS THORN
  oIWAZ TIR TYR TnURUZ UR UnVnWoUNJO WYNN WnXnYoRnZgMULTIPLE PUNCTUATIONgSINGLE PUNCTUATION
  gTVIMADUR SYMBOLdNEReING SHIRT WITH SASHcPEE SIGNcSSIAN ASTROLOGICAL SYMBOL BINOVILE%NOVILE
  %QUINTILE%SENTAGON%TREDECILE%VIGINTILEaS IN TRIANGLEbAFETY PINhVESTcGITTARIUScILBOAT
  cKE BOTTLE AND CUPcLT SHAKEReIREdUTING FACEcMARITAN ABBREVIATION MARKkLETTER ALAFrBAAsITrDALAT
  rFIrGAMANrINsTsYrKAAFrLABATrMIMrNUNrQUFrRISHrSHANsINGAATrTAAFsITsSAADIYrYUTrZENkMARK DAGESH
  pEPENTHETIC YUTpINr-ALAFpNEQUDAApOCCLUSIONlODIFIER LETTER EPENTHETIC YUT!I!SHORT A
  kPUNCTUATION AFSAAQxNGEDyNAAUxRKAANUxTMAAUwBAUwMELODIC QITSAwNEQUDAAwQITSAwSHIYYAALAA
  xOF MASHFAATwTURUwZAEFxIQAAkVOWEL SIGN AwAvEvIvLONG A$A!E!I!UvOwVERLONG A+AvSHORT AwUKUNvU
  cNDWICHdS-SERIF HEAVY DOUBLE COMMA QUOTATION MARK ORNAMENTyTURNED COMMA QUOTATION MARK ORNAMENT
  rLOW DOUBLE COMMA QUOTATION MARK ORNAMENTlINTERROBANG ORNAMENTcRIcTELLITEj ANTENNAdURN
  cURASHTRA CONSONANT SIGN HAARUlDANDAmIGIT EIGHTrFIVEsOURrNINErONErSEVENsIXrTHREEsWOrZERO
  mOUBLE DANDAlLETTER AtAtItUsBAtHAsCAtHAsDAtDAuHAtHAsEtEsGAtHAsHAsItIsJAtHAsKAtHAsLAtLAsMAsNAtGA
  tNAtYAsOtOsPAtHAsRAsSAtHAtSAsTAtHAtTAuHAsUtUsVAtOCALIC L$L!R$RsYAlSIGN ANUSVARAqCANDRABINDU
  qVIRAMAsSARGAlVOWEL SIGN AAxIxUwExEwIxIwOxOwUxUwVOCALIC L+L*R+ReOPODcXOPHONEbCALESdRFcHOOL
  g SATCHELcIcOOTERdRPIONgUScREENeWDRIVERdIPT CAPITAL BpEpFpHpIpLpMpPpRhLIGATURE ET ORNAMENT
  hSMALL EnGnLnOdOLLdUPLEbEALdTcCOND PLACE MEDALdTION SIGNeORcDNAcE-NO-EVIL MONKEYdDLINGcGMENT
  hED DIGIT EIGHTqFIVErOURqNINEqONEqSEVENrIXqTHREErWOqZEROcLFIEcMICOLON
  eDIRECT PRODUCT WITH BOTTOM CLOSEDeSEXTILEcPARATED SYMBOLcRIOUS FACE WITH SYMBOLS COVERING MOUTH
  dVICE MARKcSAME DOTdQUIQUADRATEcT MINUSeTRANSMIT STATEcWING NEEDLEcXTILEbGCbHADOWED WHITE CIRCLE
  pLATIN CROSSpSTARdLLOW PAN OF FOODdMROCKdRADA ABBREVIATION SIGNiCONTINUATION SIGNiDANDA
  jIGIT EIGHToFIVEpOURoNINEoONEoSEVENpIXoTHREEpWOoZEROjOUBLE DANDAiEKAMjXTRA SHORT VOWEL MARK
  iHEADSTROKEiLETTER AqAqIqUpBAqHApCAqHApDAqDArHAqHApEpGAqHApHApIqIpJAqHApKAqHApLAqLApMApNAqGAqNA
  qYApOpPAqHApRApSAqHAqSApTAqHAqTArHApUqUpVAqOCALIC LyLxRyRpYAiOMiSANDHI MARKjECTION MARK-1v2
  kPARATORjIGN ANUSVARAoVAGRAHAnCANDRABINDUnINVERTED CANDRABINDUnJIHVAMULIYAnNUKTAnSIDDHAM
  nUPADHMANIYAnVIRAMApSARGAjUTRA MARKiVOWEL MODIFIER MARKoSIGN AAuIuUtEtIuItOtPRISHTHAMATRA EtUuU
  tVOCALIC L%L$R%ReKdVED ICEeIAN LETTER ADOqGEqHqIRqRErRAYqSHqWEpBIBpCHURCHpDEADpEARrTqGGqRRpFEE
  pGAGpHA-HAqUNGpIANqCEqFpJUDGEpKICKpLOLLpMEASUREqIMEpNUNpOAKqILqNqOZEqRqUTpPEEPpROARpSOqUREpTHEY
  rIGHqOTpUPpVOWpWOErOLpYEArWpZOOcEEPcIELDdFT INgOUTdNTO SHRINEdPcOCKED FACE WITH EXPLODING HEAD
  dOTING STARdPPING BAGSjTROLLEYdRT BACKSLANTED SOUTH ARROW
  hENT ARROW POINTING DOWNWARDS THEN NORTH EASTgDOWN TACKp WITH OVERBARgLEFT TACK
  gRIGHTWARDS ARROW ABOVE LEFTWARDS ARROWgSLANTED NORTH ARROWgUP TACKn ABOVE SHORT DOWN TACK
  oWITH UNDERBARfCAKEfHAND FORMAT CONTINUING OVERLAPrDOWN STEPrLETTER OVERLAPrUP STEPfS
  dULDERED OPEN BOXdWERcRIMPdUGcUFFLE PRODUCTcYbIcDDHAM DANDAjOUBLE DANDAiEND OF TEXT MARK
  iLETTER AqAqIqLTERNATE UqUpBAqHApCAqHApDAqDArHAqHApEpGAqHApHApIqIpJAqHApKAqHApLApMApNAqGAqNAqYA
  pOpPAqHApRApSAqHAqSApTAqHArREE-CIRCLE ALTERNATE IqTArHAqWO-CIRCLE ALTERNATE I=IpUqUpVAqOCALIC L
  yLxRyRpYAiREPETITION MARK-1y2y3iSECTION MARK DOUBLE RING, WITH RAYS
  vWITH CIRCLES AND FOUR ENCLOSURES>RAYS>TWO ENCLOSURES!DOUBLE CRESCENTS!QUADRUPLE CRESCENTS
  !RAYS AND DOTTED CRESCENTS~DOUBLE CRESCENTS~TRIPLE CRESCENTS!SEPTUPLE CRESCENTS
  !TRIDENT AND DOTTED CRESCENTS>U-SHAPED ORNAMENTS&PLE CRESCENTSkPARATOR BARsDOTjIGN ANUSVARA
  nCANDRABINDUnNUKTAnSIDDHAMnVIRAMApSARGAiVOWEL SIGN AAuIuLTERNATE U*UuUtEtIuItOtUuUtVOCALIC R%R
  dEWAYS BLACK DOWN POINTING INDEXpLEFT POINTING INDEXpRIGHT POINTING INDEXpUP POINTING INDEX
  jWHITE DOWN POINTING INDEXpLEFT POINTING INDEXpRIGHT POINTING INDEXpUP POINTING INDEX
  cGN OF THE HORNSeWRITING AIR BLOW SMALL ROTATIONSuING OUTqSUCK SMALL ROTATIONSuING IN
  mBREATH EXHALEtINHALEoUSH BETWEENsMULTIPLEsSINGLEmCHEEKS NEUTRALtPUFFEDtSUCKEDnOLONoMMA
  mDREAMY EYEBROWS DOWN NEUTRAL%NEUTRAL DOWN<UP%UP NEUTRALnYNAMIC ARROWHEAD LARGE*SMALL
  uEVERY OTHER TIMEuFASTuGRADUALuRELAXEDuSIMULTANEOUS, ALTERNATINGvLOWuTENSEmEARSnXCITEMENT
  nYE BLINK MULTIPLEwSINGLEqWINKpBROWS STRAIGHT DOWN*NEUTRAL*UPpGAZE-FLOORPLANE CURVED+STRAIGHT
  ? ALTERNATING^DOUBLEuWALLPLANE CIRCLING+URVED*STRAIGHT> ALTERNATING?DOUBLEpLASHES DOWN
  wFLUTTERINGwUPpS CLOSEDrHALF CLOSEDwOPENrOPENrSQUEEZEDrWIDE OPENvNING MOVEMENT
  mFACE DIRECTION POSITION NOSE FORWARD TILTING_UP OR DOWN~P OR DOWN TILTINGnILL MODIFIER-2!3!4!5
  !6oNGERnLICK LARGE MULTIPLEySINGLEsSEQUENTIALtMALL MULTIPLEySINGLEoOORPLANE SHOULDER HIP MOVE
  nOREHEAD CONTACTvNEUTRALvWRINKLEDnULL STOPmGRASP BETWEENsMULTIPLEsSINGLEmHAIRoND-ANGLEw INDEX
  % MIDDLE LITTLE<RING&RING LITTLE^ OUT&THUMB: IN;OUTxLITTLE INDEX; THUMB INDEX THUMB
  ~INDEX THUMB OUT*UPxMIDDLE RING LITTLE_ IN~OUTxRING DOWN MIDDLE THUMB INDEX CROSS%LITTLErCIRCLE
  x INDEX& BENT*HINGE*MIDDLE< CROSS LITTLE~ED=LITTLE=RING=THUMB*RING LITTLEyLITTLE INDEX+UP
  yMIDDLE RING LITTLE~ BENT+UPyRING LITTLEsLAWv FOUR FINGERS CONJOINED
  wINDEX THUMB CURVE THUMB INSIDEwMIDDLE RING LITTLE CONJOINED~ONJOINED SIDEwNO THUMB
  wTHUMB FORWARD%SIDEsUPu FIVE FINGERS SPREAD^ OPENvINDEX! RING LITTLE$THUMB, OPEN
  vMIDDLE RING LITTLEvNO THUMBvOPENz NO THUMB!THUMB FORWARD,SIDEvTHUMB FORWARD$SIDEtRLICUE
  z INDEX RING LITTLE ON!MIDDLE RING LITTLE ON!OPENrFISTv FOUR FINGERS CONJOINED BENTwHEELwINDEX
  $ BENT, OVER MIDDLE%CUPPED%HINGED: LOW;MIDDLE UP~UP THUMB SIDE%MIDDLE: BENT? THUMB STRAIGHT
  ;CONJOINED~ED CUPPED~ED CUPPED THUMB FORWARD~ED HINGED~ED HINGED THUMB SIDE~ED INDEX BENT
  ~ED MIDDLE BENT~ED THUMB FORWARD~ED THUMB SIDE~ED THUMB SIDE BENT~ED THUMB SIDE CONJOINED
  <ROSS LITTLE^ED~ THUMB SIDE;HINGED_ SPREAD THUMB SIDE;LITTLE;RAISED KNUCKLES<ING? BENT^CONJOINED
  ;STRAIGHT THUMB BENT;THUMB^ ANGLED~NGLED OUT_BENT_CIRCLED~ONJOINED HINGED~UPPED_HINGED~OOKED
  ;UP SPREAD THUMB FORWARD%RAISED KNUCKLE&ING LITTLE%THUMB ANGLED IN MIDDLE UP_OUT MIDDLE UP
  :CIRCLE^D MIDDLE UP;UPPED MIDDLE UP<RLICUE=VE THUMB INSIDE~UMB UNDER:FORWARD INDEX BENT
  ~INDEX STRAIGHT:HOOK>ED MIDDLE HINGED~IDDLE UP:SIDE> BOTH BENT?INDEX BENT~EX HINGE?THUMB BENT
  ~MB CONJOINED~MB DIAGONAL%UP MIDDLE HINGED~ED THUMB CONJOINED~ED THUMB SIDEwLITTLE BENT&DOWN
  . OTHERS CIRCLED:RIPPLE CURVED_STRAIGHT&INDEX: THUMB&RAISED KNUCKLE&THUMB*OUCHES THUMB&UP
  wMIDDLE BENT OVER INDEX&DOWN&LITTLE&RAISED KNUCKLE*ING LITTLE&THUMB ANGLED INDEX UP
  ~OUT INDEX CROSSED~OUT INDEX UP;CIRCLED INDEX HINGED~ INDEX UP<UPPED INDEX UP;HOOKED INDEX UP
  ;LITTLE&UP+ THUMB SIDEwRING DOWN$INDEX$LITTLE$MIDDLE. CONJOINED:RAISED KNUCKLES$RAISED KNUCKLE
  $THUMB$UPwTHUMB$ BETWEEN INDEX MIDDLE~MIDDLE STRAIGHT<MIDDLE RING<RING LITTLE%FORWARD%HEEL
  %OVER FOUR RAISED KNUCKLES.TWO FINGERS%SIDE BENT.CONJOINED.DIAGONAL%UNDER FOUR FINGERS
  :INDEX BENT:LITTLE UP:THREE FINGERS;WO FINGERSsLATv BETWEEN PALM FACINGSwFIVE FINGERS SPREAD
  _ BENT~FOUR BENT~HINGED~HINGED NO THUMB~HINGED THUMB SIDE~THUMB FORWARDxOUR FINGERS: BENT
  ;CONJOINED~ED SPLIT;HINGEDwHEEL! FIVE FINGERS SPREAD~READ BENT~READ FOUR BENT$THUMB SIDE
  wSPLIT CENTRE: THUMB SIDE~IDE BENT%INDEX THUMB SIDE%LITTLEwTHUMB BENT%FORWARD%SIDErHINGE
  w FIVE FINGERS SPREAD OPENyOUR FINGERS CONJOINEDxINDEX% HINGED&MIDDLE LITTLE<RING^ CONJOINED
  &RING LITTLE&THUMB: LARGE;OPEN;SIDE<MALLxLITTLE& INDEX; THUMB*THUMBxMIDDLE& RING LITTLExNO THUMB
  xOPEN$ NO THUMB%THUMB FORWARD:SIDExRING$ DOWN INDEX THUMB HOOK MIDDLExSMALL
  xTHUMB BETWEEN MIDDLE RING&SIDE. TOUCHING INDEXsOOKv CURLICUEwINDEX RING LITTLE IN^OUT^UNDER
  wMIDDLE RING LITTLE CONJOINED~ONJOINED IN~ONJOINED OUT&THUMBwRING THUMBrOVAL
  v FIVE FINGERS SPREADwINDEXwLITTLE UPwNO THUMBwRING LITTLEwTHUMB FORWARD%SIDEnEAD
  q MOVEMENT CIRCLEz-FLOORPLANE CURVE=STRAIGHT!WALLPLANE CURVE<STRAIGHT<TILTrRIMmLIMB COMBINATION
  rLENGTH-1y2y3y4y5y6y7oP LOWER OVER UPPERqUPPER OVER LOWERpS PRESSED TOGETHERnOCATION DEPTH
  vHEAD NECKxIGHTvLIMBS DIGITSvTORSOvWIDTHu-FLOORPLANE SPACEvWALLPLANE SPACEmMOUTH CLOSED CONTACT
  zFORWARDzNEUTRALtORNERSsFROWNx OPENyWRINKLEDsKISSw FORWARDxWRINKLEDsOPEN CIRCLExFORWARDxOVAL
  $ WRINKLED%YAWNxRECTANGLE, WRINKLED.YAWNxWRINKLEDsSMILEx OPENyWRINKLEDsTENSEx FORWARDySUCKED
  sWRINKLES DOUBLE$SINGLEoVEMENT-DIAGONAL AWAY LARGE^ST;MEDIUM;SMALL*BETWEEN AWAY LARGE~ LARGEST
  ~ MEDIUM~ SMALL>TOWARDS LARGE~RDS LARGEST~RDS MEDIUM~RDS SMALL*TOWARDS LARGE~EST>MEDIUM>SMALL
  vFLOORPLANE ARM CIRCLE HITTING WALL LARGE DOUBLE~ HITTING WALL LARGE SINGLE
  ~ HITTING WALL MEDIUM DOUBLE~ HITTING WALL MEDIUM SINGLE~ HITTING WALL SMALL DOUBLE
  ~ HITTING WALL SMALL SINGLE,BEND.OX LARGE<MEDIUM<SMALL,CHECK.ORNER LARGE?MEDIUM?SMALL.ROSS
  .URVE COMBINED>HITTING CEILING LARGE~ING CEILING SMALL~ING FLOOR LARGE~ING FLOOR SMALL>LARGE~EST
  >MEDIUM>SMALL,DOUBLE ALTERNATING~ERNATING WRIST FLEX?STRAIGHT?WRIST FLEX
  ,FINGER CIRCLES HITTING WALL DOUBLE~CLES HITTING WALL SINGLE^ONTACT
  ,HUMP HITTING CEILING LARGE DOUBLE~NG CEILING LARGE TRIPLE~NG CEILING SMALL DOUBLE
  ~NG CEILING SMALL TRIPLE~NG FLOOR LARGE DOUBLE~NG FLOOR SMALL DOUBLE
  ~NG FLOOR TRIPLE LARGE TRIPLE~NG FLOOR TRIPLE SMALL TRIPLE=SMALL,JAW
  ,LOOP HITTING CEILING LARGE DOUBLE~NG CEILING LARGE SINGLE~NG CEILING SMALL DOUBLE
  ~NG CEILING SMALL SINGLE~NG FLOOR LARGE DOUBLE~NG FLOOR LARGE SINGLE~NG FLOOR SMALL DOUBLE
  ~NG FLOOR SMALL SINGLE=SMALL,PEAKS LARGE>MEDIUM>SMALL,SHAKING PARALLEL.INGLE STRAIGHT LARGE
  ~AIGHT LARGEST~AIGHT MEDIUM~AIGHT SMALL?WRIST FLEX,TRIPLE ALTERNATING MOVEMENT
  ~ERNATING WRIST FLEX?STRAIGHT MOVEMENT?WRIST FLEX,WAVE HITTING CEILING LARGE~NG CEILING SMALL
  ~NG FLOOR LARGE~NG FLOOR SMALL=LARGE=SMALL>NAKE.RIST CIRCLE HITTING WALL DOUBLE
  ~LE HITTING WALL SINGLE,ZIGZAG LARGE?MEDIUM?SMALLvHINGE DOWN SEQUENTIAL$SIDE TO SIDE SCISSORS
  $UP DOWN ALTERNATING LARGE~TING SMALL;LARGE;SMALL*SEQUENTIALvWALLPLANE ARM CIRCLE MEDIUM DOUBLE
  ~MEDIUM SINGLE~SMALL DOUBLE~SMALL SINGLE+BEND LARGE<MEDIUM<SMALL,OX LARGE;MEDIUM;SMALL
  +CHECK LARGE=MEDIUM=SMALL,ORNER LARGE>MEDIUM>ROTATION>SMALL,ROSS,URVE HALF-CIRCLE LARGE
  ~CIRCLE LARGEST~CIRCLE MEDIUM~CIRCLE SMALL>ITTING CHEST~NG FRONT WALL=QUARTER LARGE~ER LARGEST
  ~ER MEDIUM~ER SMALL=THEN STRAIGHT?REE-QUARTER CIRCLE MEDIUM~-QUARTER CIRCLE SMALL<D CROSS MEDIUM
  ~S SMALL+DOUBLE ALTERNATING~RNATING WRIST FLEX>STRAIGHT>WRIST FLEX+FINGER CIRCLES DOUBLE
  ~LES SINGLE?ONTACT+HUMP HITTING CHEST~G FRONT WALL<LARGE<MEDIUM<SMALL+JAW+LOOP HITTING CHEST
  ~G FRONT WALL<LARGE<MEDIUM<SMALL_ DOUBLE+PEAKS LARGE=MEDIUM=SMALL+SHAKING,INGLE STRAIGHT LARGE
  ~IGHT LARGEST~IGHT MEDIUM~IGHT SMALL>WRIST FLEX+TRIPLE ALTERNATING~RNATING WRIST FLEX
  >STRAIGHT MOVEMENT>WRIST FLEX+WAVE CURVE DOUBLE LARGE~DOUBLE MEDIUM~DOUBLE SMALL~TRIPLE LARGE
  ~TRIPLE MEDIUM~TRIPLE SMALL<DIAGONAL PATH LARGE~AL PATH MEDIUM~AL PATH SMALL<HITTING CHEST
  ~G FRONT WALL,RIST CIRCLE FRONT DOUBLE~E FRONT SINGLE+ZIGZAG LARGE>MEDIUM>SMALLmNECKnOSE CONTACT
  rNEUTRALrWIGGLESsRINKLESmPARENTHESISmROTATION MODIFIER-10+1+2+3+4+5+6*2*3*4*5*6*7*8*9
  u-FLOORPLANE ALTERNATING~G HITTING CEILING~G HITTING FLOOR,DOUBLE> HITTING CEILING~TING FLOOR
  ,SINGLE> HITTING CEILING~TING FLOORvWALLPLANE ALTERNATE?ING HITTING CHEST~ HITTING FRONT WALL
  +DOUBLE= HITTING CHEST~ING FRONT WALL+SINGLE= HITTING CHEST~ING FRONT WALLnUB BETWEENqMULTIPLE
  qSINGLEmSEMICOLONnHOULDER HIP POSITIONSzSPINEvTILTING FROM WAISTnQUEEZE FLICK ALTERNATING
  uLARGE MULTIPLE!SINGLEuSEQUENTIALvMALL MULTIPLE!SINGLEnTRIKE BETWEENtMULTIPLEtSINGLE
  nURFACE BETWEENuSYMBOLSmTEETHr BITE LIPSsMOVEMENTsON LIPSz MOVEMENTvTONGUE$ MOVEMENT
  oNSE CHEEKS HIGHzLOWzMIDDLEnONGUE CENTRE INSIDE MOUTH!STICKING OUTtINSIDE MOUTH RELAXED
  tLICKING LIPStMOVES AGAINST CHEEKtSTICKING OUT FARtTIP BETWEEN LIPSxTOUCHING INSIDE MOUTH
  oRSO-FLOORPLANE TWISTINGsWALLPLANE CURVED BEND%STRAIGHT STRETCHoUCH BETWEENsMULTIPLEsSINGLE
  nRAVEL-FLOORPLANE ROTATION-FLOORPLANE ALTERNATING~ORPLANE DOUBLE~ORPLANE SINGLE
  ?WALLPLANE ALTERNATING~LPLANE DOUBLE~LPLANE SINGLE*SHAKINGtWALLPLANE ARM SPIRAL DOUBLE^SINGLE
  ^TRIPLE&ROTATION-FLOORPLANE ALTERNATING~RPLANE DOUBLE~RPLANE SINGLE>WALLPLANE ALTERNATING
  ~PLANE DOUBLE~PLANE SINGLE&SHAKINGmUPPER BODY TILTING FROM HIP JOINTS
  mWALLPLANE SHOULDER HIP MOVEcLHOUETTE OF JAPANcMILAR ABOVE GREATER-THAN ABOVE EQUALS SIGN
  oLESS-THAN ABOVE EQUALS SIGNiMINUS SIMILARiOR GREATER-THANlLESS-THANcNE WAVE
  dGLE CHARACTER INTRODUCERhGRAPHIC CHARACTER INTRODUCERhHIGH-REVERSED-9 QUOTATION MARK
  hLEFT-POINTING ANGLE QUOTATION MARKiOW-9 QUOTATION MARKhRIGHT-POINTING ANGLE QUOTATION MARK
  hSHIFT THREEoWOg-SHIFT-2n3dHALA ARCHAIC DIGIT EIGHTwFIVExOURwNINEwONEwSEVENxIXwTHREExWO
  qNUMBER EIGHTYxFIFTYyORTYxNINETYxONE HUNDRED$THOUSANDxSEVENTYyIXTYxTENyHIRTYyWENTY
  iLETTER AAYANNAqEEYANNArYANNAqIYANNAqLPAPRAANA BAYANNA!CAYANNA!DAYANNA$DAYANNA!GAYANNA!JAYANNA
  !KAYANNA!PAYANNA!TAYANNA$TAYANNAqMBA BAYANNAqUYANNAqYANNApDANTAJA LAYANNAxNAYANNAxSAYANNA
  pEEYANNAqYANNApFAYANNApHAYANNApIIYANNAqLUUYANNAsYANNAqRUUYANNAsYANNAqYANNApKANTAJA NAASIKYAYA
  pMAHAAPRAANA BAYANNA$CAYANNA$DAYANNA%DAYANNA$GAYANNA$JAYANNA$KAYANNA$PAYANNA$TAYANNA%TAYANNA
  rYANNAqUURDHAJA LAYANNAzNAYANNAzSAYANNApOOYANNAqYANNApRAYANNApSANYAKA DAYANNAyDAYANNAxGAYANNA
  xJAYANNApTAALUJA NAASIKYAYAxSANYOOGA NAAKSIKYAYAzYANNApUUYANNAqYANNApVAYANNApYAYANNA
  jITH DIGIT EIGHTtFIVEuOURtNINEtONEtSEVENuIXtTHREEuWOtZEROiPUNCTUATION KUNDDALIYAiSIGN AL-LAKUNA
  oNUSVARAYAnCANDRABINDUnVISARGAYAiVOWEL SIGN AELA-PILLAtDIGA AEDA-PILLAyGAETTA-PILLA!YANUKITTA
  yIS-PILLAyKOMBUVAyPAA-PILLAtGAETTA-PILLAvYANUKITTAtKETTI AEDA-PILLAzIS-PILLAzPAA-PILLAuOMBU DEKA
  yVA! HAA AELA-PILLA+DIGA AELA-PILLA+GAYANUKITTAcX PETALLED BLACK AND WHITE FLORETTE
  fOINTED BLACK STARmPINWHEEL STARmSTAR WITH MIDDLE DOTd-PER-EM SPACEdTEEN POINTED ASTERISK
  bKATEBOARDcI AND SKI BOOTdERcULLf AND CROSSBONESdNKbLANTED EQUAL TO OR GREATER-THAN
  , WITH DOT INSIDEuLESS-THAN& WITH DOT INSIDEiNORTH ARROW WITH HOOKED HEAD$RIZONTAL TAIL
  dVONIC ASTERISKcEDdEPING ACCOMMODATIONjFACEjSYMBOLfY FACEdUTH OR SPYcICE OF PIZZA
  dGHTLY FROWNING FACEjSMILING FACEcOPEeING LARGE ANDoORdT MACHINEeHbMALL AIRPLANEhMPERSAND
  hSTERISKgBLUE DIAMONDgCOLONiMMAkERCIAL ATiNTAINS AS MEMBERpWITH OVERBAR
  uVERTICAL BAR AT END OF HORIZONTAL STROKEgDOLLAR SIGNgELEMENT OFq WITH OVERBAR
  wVERTICAL BAR AT END OF HORIZONTAL STROKEhM DASHhQUALS SIGNhXCLAMATION MARKgFULL STOP
  gGREATER-THAN SIGNgHYPHEN-MINUSgIDEOGRAPHIC COMMAgLEFT CURLY BRACKETlPARENTHESIS
  lTORTOISE SHELL BRACKETiSS-THAN SIGNgNUMBER SIGNgORANGE DIAMONDgPERCENT SIGNhLUS SIGN
  gQUESTION MARKgREVERSE SOLIDUShIGHT CURLY BRACKETmPARENTHESISmTORTOISE SHELL BRACKET
  hOMAN NUMERAL EIGHTvLEVENuFIFTYwVEy HUNDREDvOURuNINEuONEx HUNDREDyTHOUSANDuSEVENvIXuTENvHREE
  vWELVEwOgSEMICOLONgTILDEhWO DOTS OVER ONE DOT PUNCTUATIONgVEE WITH UNDERBARfER THANm OR EQUAL TO
  dSH PRODUCTcILEeING CAT FACE WITH HEART-SHAPED EYESwOPEN MOUTHiFACE WITH HALOtEART-SHAPED EYES
  tORNSsOPEN MOUTH% AND COLD SWEAT.SMILING EYES.TIGHTLY-CLOSED EYESsSMILING EYES
  * AND HAND COVERING MOUTH;THREE HEARTStUNGLASSESsTEARdRKING FACEcOKING SYMBOLbNAILdKE
  cEEZING FACEcOW CAPPED MOUNTAINeBOARDEReFLAKEeMANh WITHOUT SNOWbOcCCER BALLdKScFT HYPHEN
  fICE CREAMfSHELL FLOPPY DISKeBALLeWARE-FUNCTION SYMBOLcGDIAN COMBINING CURVE ABOVEyBELOW
  sDOT ABOVEwBELOWsHOOK ABOVExBELOWsLONG HOOK BELOWsRESH BELOWsSTROKE BELOWsTWO DOTS ABOVE$BELOW
  iINDEPENDENT SHINiLETTER ALEPHqYINpBETHpFETHpGIMELpHErTHpKAPHpLAMEDHqESHpMEMpNUNpPEpRESH-AYIN
  pSADHErMEKHqHINpTAWpWAWpYODHpZAYINiNUMBER ONEs HUNDREDpTENqWENTYiPUNCTUATION CIRCLE WITH DOT
  uHALF CIRCLE WITH DOTuTWO CIRCLES WITH DOTSyVERTICAL BARS= WITH DOTScHcLID QUILT SQUARE ORNAMENT
  $ IN BLACK SQUAREfUSh WITH OVERBARcM SIGNcON WITH RIGHTWARDS ARROW ABOVEcRA SOMPENG DIGIT EIGHT
  tFIVEuOURtNINEtONEtSEVENuIXtTHREEuWOtZEROnLETTER AHuBAHuCAHuDAHuEEHvHuGAHuHAHuIHuJAHuKAHuLAHuMAE
  wHuNAHvGAHvYAHuOHuPAHuRAHuSAHuTAHuUHuVAHuYAHcScUND RECORDING COPY
  RIGHTdTH EAST ARROW
  q AND SOUTH WEST ARROWrCROSSING NORTH EAST ARROWrTO CORNERrWITH HOOKlBLACK ARROWlDOUBLE ARROW
  lPOINTING BUDuLEAFuVINE LEAFlSANS-SERIF ARROWlTRIANGLE-HEADED ARROW, TO BARlWHITE ARROW
  gWEST ARROWq AND NORTH WEST ARROWrWITH HOOKlBLACK ARROWlDOUBLE ARROWlPOINTING BUDuLEAFuVINE LEAF
  lSANS-SERIF ARROWlTRIANGLE-HEADED ARROW, TO BARlWHITE ARROWcYOMBO CLUSTER-INITIAL LETTER LA+RA
  +SA,HAiFINAL CONSONANT SIGN -A&B&D&G&K&L&M&N*G&R&S*HiGEMINATION MARKiHEAD MARK WITH MOON AND SUN
  ; AND FLAME^TRIPLE FLAMEiLETTER -ApApBAqHApCAqHApDAqDArHAqHAqZApGAqHApHApJAqHApKAqHAqSSApLApMA
  pNAqGAqNAqYApPAqHApRApSAqHAqSApTAqHAqSArHAqTArHApVApYApZAqHAiMARK DOUBLE SHADnPLUTAnSHADnTSHEG
  iSIGN ANUSVARAnJIHVAMULIYAnUPADHMANIYAnVISARGAjUBJOINERiTERMINAL MARK-1w2iVOWEL LENGTH MARK
  oSIGN AIuUtEtItOuEtUuEtVOCALIC L$RbPcAdCEdGHETTIdRKLEhSgING HEARTcEAK-NO-EVIL MONKEYfER
  h WITH CANCELLATION STROKEnONE SOUND WAVEnTHREE SOUND WAVESfING HEAD IN SILHOUETTEdECH BALLOON
  eDBOATdSMILO SIGNcHERICAL ANGLEp OPENING LEFTyUPcIDERg WEBdRAL CALENDAR PADhNOTE PADhSHELL
  cLASHING SWEAT SYMBOLcONGEdOL OF THREADeNdRTS MEDALdUTING WHALEbQUARE A OVER MiARUiMiNPEAiPAATO
  iRUHUAiUhBAARERUjRiEETAiIRUiORUTOiQiUSSYERUhC OVER KGiALjPiCiDiMj CUBEDkSQUAREDiOjRPORATIONiUP
  hDAjASUiBiESIiJiLiMj CUBEDkSQUAREDiORUhEEKAAiRA NAME HEISEIqMEIZIqREIWAqSYOUWAqTAISYOUjGiSUKUUDO
  iVhFMiOOTjUR CORNERShGALjNMAjRONiBiHZiIGAjNIIjRUDAAiPAiURAMUnTONiYhHAjITUiEKUTAARUjRUTUiG
  iIRAGANA HOKAiONjONkRUiPjAiUARADDOjIITOjRANiZhIMAGE OFp OR EQUAL TOtNOT EQUAL TOiNjINGUjTIiU
  hK OHMiAjIRIjRATTOkORIIiBiCALiEESUiGiHZiIROlGURAMUlMEETORUlWATTOiKiLiMj CAPITALlUBEDkSQUARED
  iOOPOjRUNAiPAiTiUROONEkUZEIROiViWiYURIIhLEFT OPEN BOX OPERATORiMiNiOGjZENGEiXhM CUBEDjOHMkVER S
  p SQUAREDjSQUAREDiAjHHAjIKUROkRUjNSYONjRUKUiBj SMALLiEETORUjGAlTONiGiHZiIKURONjLjRIlBAARUiLiM
  j CUBEDkSQUAREDiOLiPAiSiU AkFkGkLkMkSkVkWiVj MEGAiWj MEGAhNAjNOiFiMiOTTOiSiViWhONSUiOMU
  iRIGINAL OFs OR EQUAL TOwNOT EQUAL TOiVhPAj AMPSjASENTOkTUiCiEEZIjNIHIkSUjSOiFiHiIASUTORUjKOkURU
  iMiOINTOjNDOjSITION INDICATORiPMiRiSiViWhRADk OVER Sr SQUAREDiEMUjNTOGENiIGHT OPEN BOX OPERATOR
  jRAjTTORUiOOTiUPIIjUBURUhSAIKURUjNTIIMUiENTIlOiIRINGUiRiVhTARGETiHZiONhUONhV OVER MhWATTOiB
  iITH BOTTOM HALF BLACKmCONTOURED OUTLINEmDIAGONAL CROSSHATCH FILLmHORIZONTAL FILL
  mLEFT HALF BLACKnOWER LEFT DIAGONAL HALF BLACKsRIGHT DIAGONAL HALF BLACK
  mORTHOGONAL CROSSHATCH FILLmRIGHT HALF BLACKmTOP HALF BLACKmUPPER LEFT DIAGONAL HALF BLACK
  xTO LOWER RIGHT FILLsRIGHT DIAGONAL HALF BLACKyTO LOWER LEFT FILLmVERTICAL FILLhYAADOkRUiUAN
  gD ASTERISKiCJK UNIFIED IDEOGRAPH-4E00.9,2D,8C,A4*518D+21D,4D,72+3CC,F3+408,39+5B6+8F0+91A,29
  +B57+DE6+F8C*624B,53,95+307,55+599,B0+620+708.9+E80+F14*7121+51F,33+981+A7A+D42*89E3+CA9+D70
  *904A+14DjLjOOLiDOT OPERATORiEIGHT KiFALLING DIAGONAL SLASHjIVE POINT ONEjOUR DOT PUNCTUATIONnK
  jREEiHCjDRjI-RESjViIDiKATAKANA DErKOKOrSAjEYiLATIN CAPITAL LETTER A&B&C&D&E&F&G&H&I&J&K&L&M&N&O
  &P&Q&R&S&T&U&V&W&X&Y&ZoSMALL LETTER DjOGICAL ANDqORkSSLESSiMINUSjViNEWjGiOKjNE HUNDRED TWENTY P
  iPLUSjPViRISING DIAGONAL SLASHiSALTIREjDjECOND SCREENkVEN POINT ONEjHVjIXTY PjMALL CIRCLEjOS
  jQUAREjSiTHREE DjIMESjWENTY-TWO POINT TWOkO KiUHDjP WITH EXCLAMATION MARKiVODjSiWC
  eT BLACK RIGHTWARDS ARROWdIDbS2c3cAbTcADIUMdFF OF AESCULAPIUSjHERMESdMPED ENVELOPEdNDING PERSON
  dR AND CRESCENTfEQUALSfOF DAVIDgPERATORfWITH LEFT HALF BLACKkRIGHT HALF BLACKeT OF GUARDED AREA
  jHEADINGjPROTECTED AREAjSELECTED AREAkTRINGjTEXTdTIONeUE OF LIBERTYcEAM LOCOMOTIVEfING BOWL
  dNOGRAPHIC FULL STOPdTHOSCOPEcICK FIGUREm LEANING LEFTvRIGHTnWITH ARMS RAISEDsDRESScOCK CHART
  dPWATCHcRAIGHT RULERiNESSeWBERRYdESS OUTLINED WHITE STARdICTLY EQUIVALENT TOeNG TERMINATORcS
  cUDIO MICROPHONEdFFED FLATBREADdPAcXbUBdSCRIPT EIGHTlQUALS SIGNkFIVElOURkLEFT PARENTHESISkMINUS
  kNINEkONEkPLUS SIGNkRIGHT PARENTHESISkSEVENlIXkTHREElWOkZEROeET ABOVE RIGHTWARDS ARROWnSUBSET
  pPERSEThOFj ABOVE ALMOST EQUAL TOqEQUALS SIGNqNOT EQUAL TOqTILDE OPERATORkOR EQUAL TO
  v WITH DOT ABOVEkWITH NOT EQUAL TOhWITH DOTmMULTIPLICATION SIGN BELOWmPLUS SIGN BELOWeTITUTE
  cCCEEDSi ABOVE ALMOST EQUAL TOpEQUALS SIGNpNOT ALMOST EQUAL TOtEQUAL TOpSINGLE-LINE EQUALS SIGN
  $NOT EQUAL TOjBUT NOT EQUIVALENT TOjOR EQUAL TOpIVALENT TOjUNDER RELATIONcMMATION BOTTOMkTOP
  kWITH INTEGRALcNd BEHIND CLOUDeWITH FACEdDANESE AVAGRAHAkCONSONANT SIGN PAMINGKAL$NYAKRA&IKU
  $SANGAN MA:WAkDIGIT EIGHTqFIVErOURqNINEqONEqSEVENrIXqTHREErWOqZEROkLETTER AsErBAsHArCArDArEsUrFA
  sINAL KxMrGArHArIrJArKAsHArLAsEUrMArNAsGAsYArOrPArQArRAsEUrSAsYArTArUrVArWArXArYArZA
  kPUNCTUATION BINDU BA SATANGA%CAKRA%DA SATANGA%KA SATANGA%LEU SATANGA%PANGLONG&URNAMA%SURYA
  kSIGN PAMAAEHrNGLAYARtWISADsYECEKpVIRAMAkVOWEL SIGN PAMEPETxNAELAENGyEULEUNGyGHULUyOLONGyYUKU
  dFLOWERdRISEh OVER MOUNTAINSdSET OVER BUILDINGScPERHEROfSCRIPT EIGHTnQUALS SIGNmFIVEnOUR
  mLATIN SMALL LETTER I+NnEFT PARENTHESISmMINUSmNINEmONEmPLUS SIGNmRIGHT PARENTHESISmSEVENnIX
  mTHREEnWOmZEROgET ABOVE LEFTWARDS ARROWpSUBSETrPERSETjBESIDE AND JOINED BY DASH WITH SUBSET
  qSUBSETjOFl ABOVE ALMOST EQUAL TOsEQUALS SIGNsNOT EQUAL TOsTILDE OPERATORmOR EQUAL TO
  x WITH DOT ABOVEmWITH NOT EQUAL TOjPRECEDING SOLIDUSjWITH DOToMULTIPLICATION SIGN BELOW
  oPLUS SIGN BELOWfVILLAINcRFACE INTEGRALeERcSHIdPENSION RAILWAYbWANdSH AMPERSAND ORNAMENTcIMMER
  cUNG DASHbYLOTI NAGRI LETTER AuBHOvOuCHOvOuDDHOwOvHOvOuEuGHOvOuHOuIuJHOvOuKHOvOuLOuMOuNOuOuPHOvO
  uROvROuSOuTHOvOvTHOwOuUnPOETRY MARK-1z2z3z4nSIGN ALTERNATE HASANTAtNUSVARAsDVISVARAsHASANTA
  nVOWEL SIGN AyEyIyOOyUcMBOL FOR ACKNOWLEDGElBACKSPACEmELLlCANCELnRRIAGE RETURNlDATA LINK ESCAPE
  mELETEr FORM TWOnVICE CONTROL FOUR!ONE!THREE$WOlEND OF MEDIUMsTEXTtRANSMISSION* BLOCKnQUIRY
  mSCAPElFILE SEPARATORmORM FEEDlGROUP SEPARATORlHORIZONTAL TABULATIONlLINE FEEDlMARKS CHAPTER
  lNEGATIVE ACKNOWLEDGEnWLINEmULLlRECORD SEPARATORlSAMARITAN SOURCEmHIFT INrOUTmPACE
  mTART OF HEADINGuTEXTmUBSTITUTEv FORM TWOmYNCHRONOUS IDLElTYPE A ELECTRONICSlUNIT SEPARATOR
  lVERTICAL TABULATIONdMETRYcNdAGOGUEdCHRONOUS IDLEcRIAC ABBREVIATION MARKhBARREKH
  hCOLON SKEWED LEFTuRIGHTjNTRACTIONhDOTTED ZLAMA ANGULARuHORIZONTALhEND OF PARAGRAPHiSASA ABOVE
  nBELOWhFEMININE DOThHARKLEAN ASTERISCUSqMETOBELUSqOBELUSiBASA ABOVEnBELOWm-ESASA DOTTED
  iORIZONTAL COLONhLETTER ALAPHoBETHoDALATHpOTLESS DALATH RISHoEoFINAL SEMKATHoGAMALt GARSHUNIoHE
  qTHoKAPHoLAMADHoMALAYALAM BHAyJAyLLA!LAyNGAzNA!NAzYAyRAySSAyTTApIMoNUNoPEqRSIAN BHETHwDHALATH
  wGHAMALoQAPHoREVERSED PEpISHoSADHEpEMKATHpHINpOGDIAN FEwKHAPHwZHAINpUPERSCRIPT ALAPHoTAWpETH
  s GARSHUNIoWAWoYUDHs HEoZAINhMUSIChOBLIQUE LINE ABOVEuBELOWhPTHAHA ABOVEoBELOWoDOTTEDhQUSHSHAYA
  hRBASA ABOVEnBELOWiUKKAKHAiWAHAhSUBLINEAR COLONw SKEWED LEFT*RIGHTrFULL STOPjPRALINEAR COLON
  y SKEWED LEFTtFULL STOPhTHREE DOTS ABOVEsBELOWiWO VERTICAL DOTS ABOVEzBELOWhZQAPHA ABOVEoBELOW
  oDOTTEDeNGEaT-REXcSHIRTbABdLE TENNIS PADDLE AND BALLcCOcG AMPERSANDfPOSTROPHEfSTERISK
  eCIRCUMFLEX ACCENTfOLONgMMAiERCIAL ATeDIGIT EIGHTkFIVElOURkNINEkONEkSEVENlIXkTHREElWOkZERO
  fOLLAR SIGNeEQUALS SIGNfXCLAMATION MARKeFULL STOPeGRAVE ACCENTgEATER-THAN SIGNeHYPHEN-MINUS
  eLATIN CAPITAL LETTER AzBzCzDzEzFzGzHzIzJzKzLzMzNzOzPzQzRzSzTzUzVzWzXzYzZkSMALL LETTER AxBxCxDxE
  xFxGxHxIxJxKxLxMxNxOxPxQxRxSxTxUxVxWxXxYxZfEFT CURLY BRACKETjPARENTHESISjSQUARE BRACKET
  gSS-THAN SIGNfOW LINEeNUMBER SIGNePERCENT SIGNfLUS SIGNeQUESTION MARKgOTATION MARK
  eREVERSE SOLIDUSfIGHT CURLY BRACKETkPARENTHESISkSQUARE BRACKETeSEMICOLONfOLIDUSfPACEeTILDE
  eVERTICAL LINEdALOG LETTER AqRCHAIC RApBApDApGApHApIpKApLApMApNAqGApPApRApSApTApUpWApYA
  iSIGN PAMUDPODnVIRAMAiVOWEL SIGN ItUdBANWA LETTER AqBAqDAqGAqIqKAqLAqMAqNArGAqPAqSAqTAqUqWAqYA
  jVOWEL SIGN IuUcI LE LETTER ApIpUEoEpEpHoFAoHAoIoKApHAoLAoMAoNApGAoOpOoPApHAoQAoSAoTApHApONE-2t3
  t4t5t6pSAqHAoUpEoVAoXAoYAeTHAM COMBINING CRYPTOGRAMMIC DOTlNSONANT SIGN BAyFINAL NGA
  yHIGH RATHA OR LOW PAyLA TANG LAIzOW PAyMAzEDIAL LA+RAySAjHORA DIGIT EIGHTuFIVEvOURuNINEuONE
  uSEVENvIXuTHREEvWOuZEROjLETTER AqBAqDAqEEqGREAT SAqHIGH CAwHAvFAvHAvKAwHAwXAvPAwHAvRATHAvSAwHA
  wSAvTAwHAvYAqIrIqLAsErLArOW CAvHAuFAuHAuKAvHAvXAuPAvHAuRATHAuSAuTAvHAuYArUEqMAqNArGArYAqOOqRAsNA
  sTArUEqUrUqWAjSIGN CAANGoDOKMAIoHANGpOYoKAANsKUUpEOWpHUEN TONE-3z4z5t-LUE KARANoMAI KANGw LAI
  sSAMsYAMOKoRA HAAMpEVERSED ROTATED RANAoSAKOTqTKAANvKUUqWANoTONE-1t2oWIANGtWAAKjTHAM DIGIT EIGHT
  uFIVEvOURuNINEuONEuSEVENvIXuTHREEvWOuZEROjVOWEL SIGN AvAvEvIuEuIvIuMAI SATuOvA ABOVExBELOWvOvY
  uTALL AAvHAM AIuUvEvUwEeVIET LETTER HIGH BOvCHOwOvDOvFOvGOvHOvKHHOxOwOvLOvMOvNGOwOwYOvOvPHOwOvRO
  vSOvTHOwOvVOvYOqLOW BOuCHOvOuDOuFOuGOuHOuKHHOwOvOuLOuMOuNGOvOvYOuOuPHOvOuROuSOuTHOvOuVOuYO
  jMAI KANGoHITjSYMBOL HO HOIqKOI KOIsNqNUENGqSAMjTONE MAI EKsNUENGsSONGsTHOjVOWEL AAqMqNqUEqYpEpI
  qApOpUqAqErAcKEOUT BOXdRI ABBREVIATION SIGNgDIGIT EIGHTmFIVEnOURmNINEmONEmSEVENnIXmTHREEnWOmZERO
  gLETTER AoAoIoRCHAIC KHAoUnBAoHAnCAoHAnDAoDApHAoHAnEnGAoHAnHAnIoInJAoHAnKAoHAnLAnMAnNAoGAoNAoYA
  nOnPAoHAnRAoRAnSAoHAnTAoHAoTApHAnUoUnVAnYAgSIGN ANUSVARAlNUKTAlVIRAMAnSARGAgVOWEL SIGN AAsIsUrE
  rIsIrOrUsUcLLY MARK FIVElONEcMALEdIL AND ODD SIGNhS ABOVE SIGNhU LENGTH MARKgCREDIT SIGN
  hURRENT SIGNgDAY SIGNhEBIT SIGNhIGIT EIGHTmFIVEnOURmNINEmONEmSEVENnIXmTHREEnWOmZERO
  hRY CULTIVATION SIGNgFRACTION DOWNSCALING FACTOR KIIZHpONE EIGHTHyIETHtFIFTHuORTIETHtHALF-1y2
  tONE-HUNDRED-AND-SIXTIETHtQUARTERtSIXTEENTH-1&2xY-FOURTHtTENTHuHIRTY-SECOND
  vREE-HUNDRED-AND-TWENTIETHuWENTIETHpTHREE EIGHTIETHSvQUARTERSvSIXTEENTHSzY-FOURTHSvTWENTIETHS
  gIN POSSESSION SIGNgLAND SIGNhETTER AoAoIoUnCAnEoEnHAnIoInJAnKAnLAoLApLAnMAnNAoGAoNApNAoYAnOoO
  nPAnRAoRAnSAoHAoSAnTAoTAnUoUnVAnYAgMONTH SIGNgNUMBER ONE HUNDREDrTHOUSANDnSIGNnTENgOM
  gPUNCTUATION END OF TEXTgRUPEE SIGNgSALT PAN SIGNhIGN AAZHAAKKUmNUSVARAlCEVITUlKAACUmURUNInZHI
  lMUKKURUNInTHALIYAnUVUZHAKKUlNELlPAARAMnNAMnTHAKKUmONlUZHAKKUlVAKAIYARAAnRAAKANmELImIRAMAnSARGA
  hPENT SIGNhTARTING FROM SIGNgTOTAL SIGNhRADITIONAL CREDIT SIGNsNUMBER SIGNgVOWEL SIGN AAsIsUrEsE
  rIsIrOsOrUsUgWET CULTIVATION SIGNgYEAR SIGNcNABATA TREEdGERINEeSA DIGIT EIGHTnFIVEoOURnNINEnONE
  nSEVENoIXnTHREEoWOnZEROhLETTER ACpQpWCqQqXqZpXpZoBAoCApHAoDApHAoECpQpXpZoFApINAL NGoGApHAoHApTA
  qTAoICpQpXpZoKApHAoLApONG UEXoMApCpQpXpZoNApGApHApYAoOCpQpXpZoPApHAoRAoSApHAqORT AWXuUEZoTApHA
  pSAoUCpECqQqXqZpICqQqUCrQrXrZqXqZpQpXpZoVCpQpXpZoWAoXAoYAoZAeUT COMPONENT-001t2t3t4t5t6t7t8t9s10
  t1t2t3t4t5t6t7t8t9s20t1t2t3t4t5t6t7t8t9s30t1t2t3t4t5t6t7t8t9s40t1t2t3t4t5t6t7t8t9s50t1t2t3t4t5t6
  t7t8t9s60t1t2t3t4t5t6t7t8t9s70t1t2t3t4t5t6t7t8t9s80t1t2t3t4t5t6t7t8t9s90t1t2t3t4t5t6t7t8t9r100t1
  t2t3t4t5t6t7t8t9s10t1t2t3t4t5t6t7t8t9s20t1t2t3t4t5t6t7t8t9s30t1t2t3t4t5t6t7t8t9s40t1t2t3t4t5t6t7
  t8t9s50t1t2t3t4t5t6t7t8t9s60t1t2t3t4t5t6t7t8t9s70t1t2t3t4t5t6t7t8t9s80t1t2t3t4t5t6t7t8t9s90t1t2
  t3t4t5t6t7t8t9r200t1t2t3t4t5t6t7t8t9s10t1t2t3t4t5t6t7t8t9s20t1t2t3t4t5t6t7t8t9s30t1t2t3t4t5t6t7
  t8t9s40t1t2t3t4t5t6t7t8t9s50t1t2t3t4t5t6t7t8t9s60t1t2t3t4t5t6t7t8t9s70t1t2t3t4t5t6t7t8t9s80t1t2
  t3t4t5t6t7t8t9s90t1t2t3t4t5t6t7t8t9r300t1t2t3t4t5t6t7t8t9s10t1t2t3t4t5t6t7t8t9s20t1t2t3t4t5t6t7
  t8t9s30t1t2t3t4t5t6t7t8t9s40t1t2t3t4t5t6t7t8t9s50t1t2t3t4t5t6t7t8t9s60t1t2t3t4t5t6t7t8t9s70t1t2
  t3t4t5t6t7t8t9s80t1t2t3t4t5t6t7t8t9s90t1t2t3t4t5t6t7t8t9r400t1t2t3t4t5t6t7t8t9s10t1t2t3t4t5t6t7
  t8t9s20t1t2t3t4t5t6t7t8t9s30t1t2t3t4t5t6t7t8t9s40t1t2t3t4t5t6t7t8t9s50t1t2t3t4t5t6t7t8t9s60t1t2
  t3t4t5t6t7t8t9s70t1t2t3t4t5t6t7t8t9s80t1t2t3t4t5t6t7t8t9s90t1t2t3t4t5t6t7t8t9r500t1t2t3t4t5t6t7
  t8t9s10t1t2t3t4t5t6t7t8t9s20t1t2t3t4t5t6t7t8t9s30t1t2t3t4t5t6t7t8t9s40t1t2t3t4t5t6t7t8t9s50t1t2
  t3t4t5t6t7t8t9s60t1t2t3t4t5t6t7t8t9s70t1t2t3t4t5t6t7t8t9s80t1t2t3t4t5t6t7t8t9s90t1t2t3t4t5t6t7t8
  t9r600t1t2t3t4t5t6t7t8t9s10t1t2t3t4t5t6t7t8t9s20t1t2t3t4t5t6t7t8t9s30t1t2t3t4t5t6t7t8t9s40t1t2t3
  t4t5t6t7t8t9s50t1t2t3t4t5t6t7t8t9s60t1t2t3t4t5t6t7t8t9s70t1t2t3t4t5t6t7t8t9s80t1t2t3t4t5t6t7t8t9
  s90t1t2t3t4t5t6t7t8t9r700t1t2t3t4t5t6t7t8t9s10t1t2t3t4t5t6t7t8t9s20t1t2t3t4t5t6t7t8t9s30t1t2t3t4
  t5t6t7t8t9s40t1t2t3t4t5t6t7t8t9s50t1t2t3t4t5t6t7t8t9s60t1t2t3t4t5t6t7t8hITERATION MARK
  cPE CARTRIDGEfDRIVEcURUScXIbEACUP WITHOUT HANDLEdPOTdR-OFF CALENDAReDROP-BARBED RIGHTWARDS ARROW
  jSPOKED ASTERISKcDDY BEARcLEPHONE LOCATION SIGNkON TOP OF MODEMkRECEIVERs WITH PAGEnORDERkSIGN
  eSCOPEeVISIONdUGU AI LENGTH MARKhDIGIT EIGHTnFIVEoOURnNINEnONEnSEVENoIXnTHREEoWOnZERO
  hFRACTION DIGIT ONE FOR EVEN POWERS OF FOUR*ODD POWERS OF FOURwTHREE FOR EVEN POWERS OF FOUR
  ,ODD POWERS OF FOURxWO FOR EVEN POWERS OF FOUR*ODD POWERS OF FOURwZERO FOR ODD POWERS OF FOUR
  hLENGTH MARKjTTER ApApIpUoBApHAoCApHAoDApDAqHApHApZAoEpEoGApHAoHAoIpIoJApHAoKApHAoLApLAqLAoMAoNA
  qKAARA POLLUpGApNApYAoOpOoPApHAoRApRAqRAoSApHApSAoTApHApSApTAqHAoUpUoVApOCALIC LxLwRxRoYA
  hSIGN ANUSVARAnVAGRAHAmCANDRABINDUnOMBINING ANUSVARA ABOVEwCANDRABINDU ABOVEmNUKTAmSIDDHAMmTUUMU
  mVIRAMAoSARGAhVOWEL SIGN AAtItUsEtEsItIsOtOsUtUsVOCALIC L$L!R$RcNGE SIGNdNIS RACQUET AND BALLdT
  cST TUBEcTRAGRAM FOR ACCUMULATIONpDVANCEpGGRAVATIONpSCENToBARRIERpOLD RESOLUTIONpRANCHING OUT
  oCENTREpHANGEpLOSED MOUTHtNESSsUREpOMPLETIONtIANCEqNSTANCYrTACTsENTIONsRARIETYoDARKENING
  pECISIVENESSqFECTIVENESS OR DISTORTIONqPARTUREpIFFICULTIESqMINISHMENTrMINGqVERGENCEpOUBTpUTIES
  oEASEpMBELLISHMENTpNCOUNTERSqDEAVOURqLARGEMENTpTERNITYpXHAUSTIONoFAILUREpLIGHTpOLLOWINGqSTERING
  pULL CIRCLEsNESSoGATHERINGx INpOING TO MEETpREATNESSpUARDEDNESSoHARDNESSpOLDING BACKoINCREASE
  qNERoJOYoKEEPING SMALLpINSHIPoLABOURINGqW OR MODELpEGIONoMASSINGpEASUREpIREDoON THE VERGE
  pPPOSITIONoPACKINGqTTERNpENETRATIONpURITYoREACHqLEASEqSIDENCEsSTANCErPONSEpITUALoSEVERANCE
  pINKINGpTOPPAGErVEqRENGTHoUNITYoVASTNESS OR WASTINGoWAITINGqTCHoYOUTHFULNESSbHAANA AABAAFILI
  iBAFILIhEBEFILIiEBEEFILIiYBEYFILIhIBIFILIhLETTER AINUpLIFUoBAAoCHAVIYANIoDAADHUqVIYANIpHAALU
  oFAAFUoGAAFUpHAINUpNAVIYANIoHAApHAAoJAVIYANIoKAAFUpHAAoLAAMUpHAVIYANIoMEEMUoNAApOONUoPAVIYANI
  oQAAFUoRAAoSAADHUpEENUpHAVIYANIqEENUoTAVIYANIpHAAsLUpOpTAAoVAAVUoWAAVUoYAAoZAAqVIYANIpO
  hOABOAFILIiBOFILIiOBOOFILIhSUKUNhUBUFILIdI CHARACTER ANGKHANKHUpBO BAIMAIpCHO CHANxGvINGvOE
  pDO CHADAsDEKpFO FAuNrNGMANpHO HIPsNOKHUKpKHO KHAIvONvUATvWAItRAKHANGsMUTqO KAIpLAKKHANGYAO
  qO CHULAsLINGqUpMAI CHATTAWAtEKtHAN-AKATtTHOuRIsTAIKHUsYAMOKqO MApNGO NGUqIKHAHITqO NENtUpO ANG
  pPAIYANNOIqHINTHUrO PHANvUNGtSAMPHAOqO PLApRO RUAqUpSARA AvAvEvI MAIMALAI$UANvMuEuIvIuOuUvEwEvU
  qO RUSIsSALAtOtUApTHANTHAKHATrO NANGMONTHOtPHUTHAOtTHAHANwNvONGvUNGqO PATAKsTAOpWO WAENpYAMAKKAN
  qO YAKtINGgURRENCY SYMBOL BAHTfDIGIT EIGHTlFIVEmOURlNINElONElSEVENmIXlTHREEmWOlZERO
  cERE DOES NOT EXISTgEXISTSfFOREeMODYNAMICgMETERcIN GREEK CROSSfSALTIREgPACEeKING FACE
  dRD PLACE MEDALcONG SANDALdUGHT BALLOONcREE BUTTON MOUSEgCONSECUTIVE EQUALS SIGNS
  gDIMENSIONAL ANGLEhOT PUNCTUATIONgLEFTWARDS ARROWShINES CONVERGING LEFTxRIGHT
  gNETWORKED COMPUTERSgPOINTED BLACK STARgRAYS ABOVElBELOWlLEFTlRIGHThIGHTWARDS ARROWS
  gSPEECH BUBBLESf-D BOTTOM-LIGHTED RIGHTWARDS ARROWHEAD
  iLEFT-LIGHTED DOWNWARDS EQUILATERAL ARROWHEADiRIGHT-LIGHTED UPWARDS EQUILATERAL ARROWHEAD
  iTOP-LIGHTED LEFTWARDS EQUILATERAL ARROWHEADuRIGHTWARDS ARROWHEAD+EQUILATERAL ARROWHEADgEM DASH
  gPER-EM SPACEcUMBS DOWN SIGNhUP SIGNdNDER CLOUD AND RAINhSTORM
  bIBETAN ASTROLOGICAL SIGN -KHYUD PA!SDONG TSHUGS$GRA GCAN -CHAR RTAGS
  iCANTILLATION SIGN CANG TE-U!HEAVY BEAT!LIGHT BEAT!SBUB -CHALiDIGIT EIGHToFIVEpOURoHALF EIGHT
  tFIVEuOURtNINEtONEtSEVENuIXtTHREEuWOtZEROoNINEoONEoSEVENpIXoTHREEpWOoZEROiKU RU KHA
  r BZHI MIG CANiLETTER -ApApBAqHApCAqHApDAqDArHAqHAqZArHApFIXED-FORM RApGAqHApHApJApKAqHAqKAqSSA
  pLApMApNAqGAqNAqYApPAqHApRAqRApSAqHAqSApTAqHAqSArHAqTArHApWApYApZAqHAjOGOTYPE SIGN CHAD RTAGS
  wLHAG RTAGSiMARK ANG KHANG GYASzONnBKA- SHOG GI MGO RGYANxYIG MGOoSDUS RTAGS
  pKA- SHOG GI MGO RGYANqUR YIG MGOnCARET -DZUD RTAGS BZHI MIG CAN+ME LONG CAN
  tYIG MGO PHUR SHAD MAoHE MGOoLOSING BRDA RNYING YIG MGO SGAB MAvYIG MGO SGAB MA
  nDELIMITER TSHEG BSTARnGTER TSHEGsYIG MGO -UM GTER TSHEG MA*RNAM BCAD MA!TRUNCATED A
  oUG RTAGS GYASzONnHALANTAnINITIAL BRDA RNYING YIG MGO MDUN MAvYIG MGO MDUN MApTERSYLLABIC TSHEG
  nLEADING MCHAN RTAGSnMNYAM YIG GI MGO RGYANnNGAS BZUNG NYI ZLAySGOR RTAGSoYIS SHADsTSHEGx SHAD
  nPALUTAnRGYA GRAM SHADoIN CHEN SPUNGS SHADnSBRUL SHADoHADnTRAILING MCHAN RTAGSoSA -PHRUpHEG SHAD
  nYIG MGO TSHEG SHAD MAiSIGN GRU CAN RGYINGSrMED RGYINGSnINVERTED MCHU CANnLCE TSA CANpI RTAGS
  nMAR TSHESoCHU CANnNYI ZLA NAA DAnRDEL DKAR GCIGyNYISySUMxRDEL NAGsNAG GCIGxNYISxSUMwRDEL DKAR
  oJES SU NGA ROoNAM BCADnSNA LDANnYANG RTAGSpR TSHESjUBJOINED LETTER -AzAzBA!HAzCA!HAzDA!DA$HA!HA
  !ZA$HAzFIXED-FORM RA<WA<YAzGA!HAzHAzJAzKA!HA!SSAzLAzMAzNA!GA!NA!YAzPA!HAzRAzSA!HA!SAzTA!HA!SA$HA
  !TA$HAzWAzYAzZA!HAsSIGN INVERTED MCHU CANxLCE TSA CANxMCHU CANjYLLABLE OMkMBOL DRIL BUpNOR BU
  v BZHI -KHYILwGSUM -KHYILwNYIS -KHYILpPADMA GDANqHUR PApRDO RJEw RGYA GRAMiVOWEL SIGN AAtEuEtIuI
  tOuOtREVERSED I&ItUuUtVOCALIC L%L$R%RcCKETcE OVER INFINITYcFINAGH CONSONANT JOINER
  jLETTER AHAGGAR YAZHrYER YAGHqBERBER ACADEMY YAH.JqTAWELLEMET YAZrUAREG YAGH!NzHzK!HzNGzQzZHqYA
  sAsBtHsCHsDtDuHtHsFsGtHuHsHtHsJsKtHuHsLsMsNsPsQsRtRsStHtSsTtHtTsVsWsYsZtHtZrEsYrIrOrU
  jMODIFIER LETTER LABIALIZATION MARKjSEPARATOR MARKcGERf FACEdHT TRIFOLIATE SNOWFLAKEcLDE
  f OPERATORo ABOVE LEFTWARDS ARROWvRIGHTWARDS ARROWpWITH DOT ABOVEuRISING DOTSgWITH DOT ABOVE
  pBELOWlRING ABOVEcMER CLOCKeS WITH LEFT HALF BLACKlRIGHT HALF BLACKcNY
  e TWO DOTS OVER ONE DOT PUNCTUATIONcRED FACEdHUTA ABBREVIATION SIGNjNJIiDIGIT EIGHToFIVEpOUR
  oNINEoONEoSEVENpIXoTHREEpWOoZEROiGVANGiLETTER AqAqIqUpBAqHApCAqHApDAqDArHAqHApEpGAqHApHApIqIpJA
  qHApKAqHApLApMApNAqGAqNAqYApOpPAqHApRApSAqHAqSApTAqHAqTArHApUqUpVAqOCALIC LyLxRyRpYAiOM
  iSIGN ANUSVARAoVAGRAHAnCANDRABINDUnNUKTAnVIRAMApSARGAiVOWEL SIGN AAuIuUtEtIuItOtSHORT EzOtUuU
  tVOCALIC L%L$R%RdONIAN SIGN CAPITAL EToETbOILETcKYO TOWERcMATOcNGUEcOLBOXdTHfBRUSH
  cP ARC ANTICLOCKWISE ARROW$ WITH PLUSiCLOCKWISE ARROW WITH MINUSeCURLY BRACKETeHALF BLACK CIRCLE
  jINTEGRALjLEFT PARENTHESISjRIGHT PARENTHESISjSECTION SIGNgTeLEFT CORNERkROPjHALF BRACKET
  ePARENTHESISeRIGHT CORNERlROPkHALF BRACKETeSQUARE BRACKETeTORTOISE SHELL BRACKET
  eWITH UPWARDS ARROW ABOVEcRTOISE SHELL BRACKETED CJK UNIFIED IDEOGRAPH-4E09~RAPH-4E8C~RAPH-52DD
  ~RAPH-5B89~RAPH-6253~RAPH-6557~RAPH-672C~RAPH-70B9~RAPH-76D7zLATIN CAPITAL LETTER ScTAL RUNOUT
  dO LETTER AnEmBAnREATHY AEuEvOuIvUmCHAmDAmEnOmGAmHAmInUmJAmKAmLAmMAmNAnGAmOmPAmRAmSAmTAmUmWAmYA
  fSIGN RISING TONEbRACKBALLeTORdDE MARK SIGNdINdMe CARdNSPLUTOfVERSAL INTERSECTION
  cIANGLE WITH DOT ABOVEoROUNDED CORNERSoSERIFS AT BOTTOMoUNDERBARi-HEADED RIGHTWARDS ARROW
  gULAR BULLETlFLAG ON POSTlRULERdCOLONdDENT EMBLEMdGRAM FOR EARTHmFIREmHEAVENmLAKEmMOUNTAIN
  mTHUNDERmWATERnINDdPLE COLON OPERATORhDAGGERhHORIZONTAL BAR WITH DOUBLE VERTICAL STROKE
  $TRIPLE VERTICAL STROKEhINTEGRALhNESTED GREATER-THANoLESS-THANhPLUSiRIMEhSOLIDUS BINARY RELATION
  hTILDEhVERTICAL BAR BINARY RELATIONuDELIMITERuRIGHT TURNSTILEuWITH HORIZONTAL STROKEcOLLfEYBUS
  dPHYeICAL DRINKjFISHcUEe LIGHT MOON ARTAdMPETbUGRIK SIGNcLIPcMBLER GLASScRKEYeISH LIRA SIGN
  dNED AMPERSANDiNGLEhBLACK PENTAGONnSHOGI PIECEhCAPITAL FiOMMAhDAGGERiIGIT THREEoWO
  hGREEK SMALL LETTER IOTAhNORTH EAST POINTING LEAFnWEST POINTING LEAFjT SIGNhOK HAND SIGN
  hSANS-SERIF CAPITAL G!L!YiEMICOLONiMALL FiOUTH EAST POINTING LEAFnWEST POINTING LEAF
  hWHITE SHOGI PIECEdTLEbWELVE POINTED BLACK STARcISTED RIGHTWARDS ARROWS
  cO ASTERISKS ALIGNED VERTICALLYeBUTTON MOUSEeCONSECUTIVE EQUALS SIGNSeDOT LEADERiPUNCTUATION
  hS OVER ONE DOT PUNCTUATIONeHEARTSeINTERSECTING LOGICAL ANDzOReJOINED SQUARES
  eLOGICAL AND OPERATORmOR OPERATOReMEN HOLDING HANDSeSPEECH BUBBLESeWOMEN HOLDING HANDSd-EM DASH
  aUGARITIC LETTER AINrLPAqBETAqDELTArHALqGAMLArHAINqHOsTAqIqKAFrHAqLAMDAqMEMqNUNqPUqQOPAqRASHA
  qSADEsMKArHINrSUqTETrHANNArOqUqWOqYODqZETArUjWORD DIVIDERbMBRELLAi ON GROUNDjWITH RAIN DROPS
  bNAMUSED FACEcCERTAINTY SIGNcDERTIEdO SYMBOLcICORN FACEdONf ABOVE BAR ABOVE INTERSECTION
  mINTERSECTIONgBESIDE AND JOINED WITH UNIONgWITH LOGICAL ORlMINUS SIGNlOVERBARdT SEPARATOR
  eED SYMBOLdVERSAL RECYCLING SYMBOLcMARRIED PARTNERSHIP SYMBOLbP ARROW THROUGH CIRCLEiHEAD
  m BETWEEN TWO HORIZONTAL BARSnIN A RECTANGLE BOXdBARB LEFT DOWN BARB LEFT HARPOONxRIGHT HARPOON
  iRIGHT DOWN BARB LEFT HARPOONyRIGHT HARPOONdDOWN ARROWn WITH BASEiBLACK ARROWiDOUBLE ARROW
  iSANS-SERIF ARROWiTRIANGLE-HEADED ARROWiWHITE ARROWdFISH TAILdRIGHT DIAGONAL ELLIPSISdTACK
  h WITH CIRCLE ABOVEc-POINTING AIRPLANEmMILITARY AIRPLANEmRED TRIANGLEmSMALL AIRPLANE
  sRED TRIANGLEmTRIANGLE WITH LEFT HALF BLACK!RIGHT HALF BLACK
  cPER AND LEFT AND LOWER TRIANGULAR THREE QUARTERS BLOCKlOWER ONE EIGHTH BLOCK
  qTRIANGULAR HALF BLOCKkRIGHT AND LOWER TRIANGULAR THREE QUARTERS BLOCKgBLADE SCISSORS
  gFIVE EIGHTHS BLOCKgHALF BLOCKq AND LOWER HALF INVERSE MEDIUM SHADElCIRCLE
  lINVERSE MEDIUM SHADE AND LOWER HALF BLOCKtWHITE CIRCLElMEDIUM SHADE
  gLEFT BLOCK DIAGONAL LOWER CENTRE TO LOWER MIDDLE RIGHT~UPPER MIDDLE RIGHT~UPPER RIGHT
  ,LEFT TO LOWER MIDDLE RIGHT^UPPER CENTRE~PER MIDDLE RIGHT,MIDDLE LEFT TO UPPER CENTRE
  ~T TO UPPER MIDDLE RIGHT~T TO UPPER RIGHT!UPPER MIDDLE LEFT TO UPPER CENTRE~T TO UPPER RIGHT
  lCORNER WITH DOTlOR LOWER RIGHT CURLY BRACKET SECTIONlQUADRANT CIRCULAR ARClTO LOWER RIGHT FILL
  mRIANGLErULAR MEDIUM SHADEgONE EIGHTH BLOCKkQUARTER BLOCK
  gRIGHT BLOCK DIAGONAL LOWER MIDDLE LEFT TO LOWER CENTRE~FT TO LOWER RIGHT
  $UPPER CENTRE TO LOWER MIDDLE RIGHT~ LOWER RIGHT~ UPPER MIDDLE RIGHT.LEFT TO LOWER CENTRE
  ~OWER MIDDLE RIGHT_UPPER MIDDLE RIGHT.MIDDLE LEFT TO LOWER CENTRE~FT TO LOWER MIDDLE RIGHT
  ~FT TO LOWER RIGHTmDROP-SHADOWED WHITE SQUAREmOR LOWER LEFT CURLY BRACKET SECTIONmPENCIL
  mQUADRANT CIRCULAR ARCmSHADOWED WHITE CIRCLE$SQUAREmTO LOWER LEFT FILLnRIANGLEsULAR MEDIUM SHADE
  gSEVEN EIGHTHS BLOCKgTHREE EIGHTHS BLOCKmQUARTERS BLOCKhRIANGULAR ONE QUARTER BLOCK
  cSIDE-DOWN FACEcWARDS ANCORAjRROWn AND RIGHT ONE EIGHTH BLOCKoFROM BAR
  oLEFTWARDS OF DOWNWARDS ARROWoTO BARoWITH DOUBLE STROKEtEQUILATERAL ARROWHEADtHORIZONTAL STROKE
  tLARGE TRIANGLE ARROWHEADtMEDIUM TRIANGLE ARROWHEADtNOTCHED TAILtSMALL EQUILATERAL ARROWHEAD
  zTRIANGLE ARROWHEADtTIP LEFTWARDSxRIGHTWARDSiBLACK ARROWoCIRCLED WHITE ARROWiCOMPRESSED ARROW
  iDASHED ARROWjOUBLE ARROWiFINGER-POST ARROW
  iHARPOON WITH BARB LEFT BESIDE DOWNWARDS HARPOON WITH BARB RIGHT>UPWARDS HARPOON WITH BARB RIGHT
  +FROM BAR+TO BAR*WARDS!RIGHT FROM BAR,TO BAR+WARDSjEAVY ARROWoCOMPRESSED ARROWiPAIRED ARROWS
  iQUADRUPLE ARROWiROCKETiSANS-SERIF ARROWjQUARED ARROWiTRIANGLE ARROWHEADq-HEADED ARROW
  & LEFTWARDS OF DOWNWARDS TRIANGLE-HEADED ARROW*TO BAR*WITH BOLD SHAFT;DOUBLE HORIZONTAL STROKE
  ;HEAVY SHAFT;LONG TIP LEFTWARDS~P RIGHTWARDS;MEDIUM SHAFT;NARROW SHAFT;VERY HEAVY SHAFT
  yDASHED ARROWyPAIRED ARROWSlPLE ARROWjWO HEADED ARROWl-HEADED ARROW FROM SMALL CIRCLE
  zWITH TRIANGLE ARROWHEADSiWHITE ARROWt FROM BAR% WITH HORIZONTAL BARuON PEDESTAL
  + WITH HORIZONTAL BAR=VERTICAL BARuWITHIN TRIANGLE ARROWHEADoDOUBLE ARROW! ON PEDESTALbRANUSbS
  aVAI COMMAeDIGIT EIGHTkFIVElOURkNINEkONEkSEVENlIXkTHREElWOkZEROeFULL STOPeQUESTION MARK
  eSYLLABLE AoNnBAoEpEoHApEqEpIpOqOpUoIoOpOoUnCAoEpEoIoOpOoUnDAoEpEoHApEqEpHAqErEqIqOrOqUpIpOqOpU
  oIoOpOoUnEoEpNoNnFAoEpEoIoOpOoUnGAoBApEqEqNpIpOqNqOpUoEpEpNoIoOpOoUnHApNoEpEpNoIpNoOpNpOoUpNnIoN
  nJAoEpEoIoOpOoUnKApNoEpEoIoOpOoPAqNpEqEqNpIpOqOpUoUnLAoEpEpNGTHENERoIoOpOoUnMAoBApEqEpIpOqOpUoE
  pEoGBAqErEqIqOrOqUoIoOpOoUnNAoDApEqEpIpOqLE DOtFAtKAtMAtSOOqOpUoEpEoGpANpENpGAqErErNqIqOrOqUpON
  oIoJApEqEpIpOqOpUoOpOoUoYApEqEpIpOqOpUnOoNoOpNnPAoEpEoIoOpOoUnRAoEpEoIoOpOoUnSAoEpEoHApEqEpIpOqO
  pUoIoOpOoUnTAoEpEoHApEqEpIpOqOpUoIoOpOoUnUoNnVAoEpEoIoOpOoUnWApNoEpEqNpNoIpNoOpNpOqNoUpNnYAoEpE
  oIoOpOoUnZAoEpEoHApEqEpIpOqOpUoIoOpOoUgMBOL BANGlDANGmO-OnONGlFAAmEENGlJONGlKEENGmUNGlNIIlTAA
  mINGmONGcMPIREcRIATION SELECTOR-1u0v0v1v2v3v4v5v6v7v8v9u1v0v1v2v3v4v5v6v7v8v9u2v0v1v2v3v4v5v6v7
  v8v9u3v0v1v2v3v4v5v6v7v8v9u4v0v1v2v3v4v5v6v7v8v9u5v0v1v2v3v4v5v6v7v8v9u6v0v1v2v3v4v5v6v7v8v9u7v0
  v1v2v3v4v5v6v7v8v9u8v0v1v2v3v4v5v6v7v8v9u9v0v1v2v3v4v5v6v7v8v9t2u0v0v1v2v3v4v5v6v7v8v9u1v0v1v2v3
  v4v5v6v7v8v9u2v0v1v2v3v4v5v6v7v8v9u3v0v1v2v3v4v5v6v7v8v9u4v0v1v2v3v4v5v6v7v8v9u5v0v1v2v3v4v5v6u6
  u7u8u9t3u0u1u2u3u4u5u6u7u8u9t4u0u1u2u3u4u5u6u7u8u9t5u0u1u2u3u4u5u6u7u8u9t6u0u1u2u3u4u5u6u7u8u9t7
  u0u1u2u3u4u5u6u7u8u9t8u0u1u2u3u4u5u6u7u8u9t9u0u1u2u3u4u5u6u7u8u9bECTOR OR CROSS PRODUCT
  cDIC SIGN ANUSVARA ANTARGOMUKHAuBAHIRGOMUKHAuUBHAYATO MUKHAuVAMAGOMUKHA+ WITH TAILmRDHAVISARGA
  mTIKRAMAlDOUBLE ANUSVARA ANTARGOMUKHAlHEXIFORM LONG ANUSVARAlJIHVAMULIYAlLONG ANUSVARAlNIHSHVASA
  lREVERSED VISARGA ANUDATTA%UDATTAmOTATED ARDHAVISARGAmTHANG LONG ANUSVARAlTIRYAKlUPADHMANIYA
  lVISARGA ANUDATTA$ WITH TAILtSVARITAtUDATTAz WITH TAILlYAJURVEDIC MIDLINE SVARITA
  gTONE ATHARVAVEDIC INDEPENDENT SVARITAlCANDRA ABOVEsBELOWlDOT BELOWnUBLE RING ABOVEsSVARITA
  lKARSHANAnTHAKA ANUDATTAlPRENKHAlRIGVEDIC KASHMIRI INDEPENDENT SVARITAnNG ABOVElSHARA
  lTHREE DOTS BELOWmRIPLE SVARITAmWO DOTS BELOWlYAJURVEDIC AGGRAVATED INDEPENDENT SVARITA
  wINDEPENDENT SVARITAwKATHAKA INDEPENDENT SVARITA~SVARITA SCHROEDERcRSICLE
  dTICAL BAR BESIDE RIGHT TRIANGLEnDOUBLE LEFT TURNSTILEnTRIPLE RIGHT TURNSTILE
  nWITH HORIZONTAL STROKEjELLIPSISjFOUR DOTSjIDEOGRAPHIC ITERATION MARKjKANA REPEAT MARK
  z LOWER HALF!UPPER HALFvWITH VOICED SOUND MARK~K UPPER HALFjLINEn EXTENSIONoWITH CIRCLE ABOVE
  !BELOWtMIDDLE DOTjMALE WITH STROKE SIGNjONE EIGHTH BLOCK-2!3!4!5!6!7jSIX DOTSjTAB KEYmULATION
  t SETkILDEkRAFFIC LIGHTjZIGZAG LINEdY BOLD GREEK CROSSfHEAVY EIGHT POINTED BLACK STAR
  rSPOKED ASTERISKlFIVE SPOKED ASTERISKlGREEK CROSSlREVERSE SOLIDUSlSALTIREmIX SPOKED ASTERISK
  mOLIDUSlWHITE CIRCLErSQUAREfMUCH GREATER-THANkLESS-THANcSTAbIBRATION MODEcCTORY HANDcDEO CAMERA
  gGAMEfCASSETTEcETNAMESE ALTERNATE READING MARK CA:NHAYdWDATA SQUAREcOLINcRGO
  cTHKUQI CAPITAL LETTER AyBBEzEyCEzHEyDEzHEyEzIyFEyGAyHAzHAyIzJEyJEyKAyLAzLAyMEyNEzJEyOyPEyQAyRE
  ySEzHEyTEzHEyUyVEyXEyYyZEjSMALL LETTER AwBBExEwCExHEwDExHEwExIwFEwGAwHAxHAwIxJEwJEwKAwLAxLAwME
  wNExJEwOwPEwQAwREwSExHEwTExHEwUwVEwXEwYwZEbOIDED GREEK CROSScLCANOdLEYBALLdUME INTEGRALbS1d0e0e1
  e2e3e4e5e6e7e8e9d1e0e1e2e3e4e5e6e7e8e9d2e0e1e2e3e4e5e6e7e8e9d3e0e1e2e3e4e5e6e7e8e9d4e0e1e2e3e4e5
  e6e7e8e9d5e0e1e2e3e4e5e6e7e8e9d6e0e1e2e3e4e5e6e7e8e9d7e0e1e2e3e4e5e6e7e8e9d8e0e1e2e3e4e5e6e7e8e9
  d9e0e1e2e3e4e5e6e7e8e9c2d0e0e1e2e3e4e5e6e7e8e9d1e0e1e2e3e4e5e6e7e8e9d2e0e1e2e3e4e5e6e7e8e9d3e0e1
  e2e3e4e5e6e7e8e9d4e0e1e2e3e4e5e6e7e8e9d5e0e1e2e3e4e5e6d6d7d8d9c3d0d1d2d3d4d5d6d7d8d9c4d0d1d2d3d4
  d5d6d7d8d9c5d0d1d2d3d4d5d6d7d8d9c6d0d1d2d3d4d5d6d7d8d9c7d0d1d2d3d4d5d6d7d8d9c8d0d1d2d3d4d5d6d7d8
  d9c9d0d1d2d3d4d5d6d7d8d9bTcSbULCANUSdGAR FRACTION FIVE EIGHTHSvSIXTHSrOUR FIFTHSqONE EIGHTH
  uFIFTHuHALFuNINTHuQUARTERuSEVENTHvIXTHuTENTHvHIRDqSEVEN EIGHTHSqTHREE EIGHTHSwFIFTHSwQUARTERS
  rWO FIFTHSuTHIRDSqZERO THIRDSaWAFFLEcNCHO DIGIT EIGHTnFIVEoOURnNINEnONEnSEVENoIXnTHREEoWOnZERO
  hLETTER ApAqNrGpNGpUoBAoCAoDAoEpNoFAoGAoHAoIpNGoJAoKApHAoLApLHAoMAoNApGApYAoOpNqGoPApHAoRAoSApHA
  oTApHApRApSAoUpENoVAoWAoYApIHoZAhNGUN SIGNhTONE KOIpNImTUPpNIdING CRESCENT MOON SYMBOL
  hGIBBOUS MOON SYMBOLcRANG CITI CAPITAL LETTER A%M%NG%T$BU$DA$E%NN&Y$GA$HAR%IYO%OLO&RR$II$KO$NGAA
  %UNG$O%DD$PU$SII%SUU$TTE$UC%U$VIYO$WI$YA%O%U&JmDIGIT EIGHTsFIVEtOURsNINEsONEsSEVENtIXsTHREEtWO
  sZEROmNUMBER EIGHTYtFIFTYuORTYtNINETYtSEVENTYuIXTYtTENuHIRTYuWENTYmOMmSMALL LETTER A!M!NG!TzBU
  zDAzE!NN$YzGAzHAR!IYO!OLO$RRzIIzKOzNGAA!UNGzO!DDzPUzSII!SUUzTTEzUC!UzVIYOzWIzYA!O!U$JdNING SIGN
  cSTEBASKETcTCHdER BUFFALOgCLOSETgPOLOgWAVEfMELONcVE ARROW POINTING DIRECTLY LEFT&RIGHTfDASH
  dING BLACK FLAGhHAND SIGNhWHITE FLAGdY DASHfLINEgOW LINEfOVERLINEcXING CRESCENT MOON SYMBOL
  hGIBBOUS MOON SYMBOLbEARY CAT FACEgFACEcDDINGdGE-TAILED RIGHTWARDS ARROW
  cIERSTRASS ELLIPTIC FUNCTIONdGHT LIFTERcST SYRIAC CROSSbHALEcEELf OF DHARMAfCHAIR SYMBOL
  cITE ARROW SHAFT WIDTH ONEyTWO THIRDSgBULLETgCHESS BISHOPs ROTATED NINETY DEGREES
  $TWO HUNDRED SEVENTY DEGREESmEQUIHOPPERw ROTATED NINETY DEGREESmKINGq ROTATED NINETY DEGREES
  zTWO HUNDRED SEVENTY DEGREESnNIGHTs ROTATED FORTY-FIVE DEGREES$NINETY DEGREES
  $ONE HUNDRED THIRTY-FIVE DEGREES$THREE HUNDRED FIFTEEN DEGREES%WO HUNDRED SEVENTY DEGREES
  ?TWENTY-FIVE DEGREESs-BISHOPtQUEENtROOKmPAWNq ROTATED NINETY DEGREESzTWO HUNDRED SEVENTY DEGREES
  mQUEENr ROTATED NINETY DEGREES!TWO HUNDRED SEVENTY DEGREESmROOKq ROTATED NINETY DEGREES
  zTWO HUNDRED SEVENTY DEGREESmTURNED BISHOPtKINGuNIGHTtPAWNtQUEENtROOKhIRCLE
  m CONTAINING BLACK SMALL CIRCLEnWITH DOT RIGHTuWN ARROWsLOWER LEFT QUADRANTyRIGHT QUADRANT
  sTWO DOTSsUPPER LEFT QUADRANTyRIGHT QUADRANThLUB SUIThONCAVE-SIDED DIAMOND$ WITH LEFTWARDS TICK
  .RIGHTWARDS TICKgDIAMONDn CONTAINING BLACK MEDIUM DIAMOND+SMALL DIAMOND+VERY SMALL DIAMOND
  oIN SQUAREoSUIToWITH CENTRED DOThOWN POINTING BACKHAND INDEXuINDEXuLEFT HAND INDEX
  k-POINTING SMALL TRIANGLEuTRIANGLEhRAUGHTS KINGpMANgEXCLAMATION MARK ORNAMENTgFLAG
  k WITH HORIZONTAL MIDDLE BLACK STRIPEiORETTEjWERhOUR POINTED CUSPtSTARhROWNING FACE
  gHARD SHELL FLOPPY DISKhEARTl SUITjVY CHECK MARKmSALTIRE WITH ROUNDED CORNERSiXAGON
  hORIZONTAL ELLIPSEiURGLASSgLARGE SQUAREiTIN CROSShEFT LANE MERGElPOINTING BACKHAND INDEXuINDEX
  k-POINTING POINTERuSMALL TRIANGLEuTRIANGLEhOZENGE CONTAINING BLACK SMALL LOZENGEgMEDIUM DIAMOND
  nLOZENGEnSMALL SQUAREoQUAREoTARhOON SELENAgNIBgPARALLELOGRAMhENNANTjTAGONgQUESTION MARK ORNAMENT
  gRECTANGLEhIGHT POINTING BACKHAND INDEXvINDEXl-POINTING PENTAGONwOINTERvSMALL TRIANGLEvTRIANGLE
  gSCISSORShESAME DOThHOGI PIECEhMALL LOZENGEmSQUAREnTARiILING FACEhPADE SUIThQUAREm BUTTON
  nCONTAINING BLACK MEDIUM SQUARE*SMALL SQUARE*VERY SMALL SQUAREnWITH CENTRE VERTICAL LINE
  sLEFTWARDS TICKtOWER LEFT QUADRANTyRIGHT QUADRANTsRIGHTWARDS TICKtOUNDED CORNERS
  sUPPER LEFT QUADRANTyRIGHT QUADRANTsVERTICAL BISECTING LINEhTARhUNj BEHIND CLOUDw WITH RAIN
  kWITH RAYSpSMALL CLOUDgTELEPHONEhOUCHTONE TELEPHONEhRAPEZIUM
  iIANGLE CONTAINING SMALL WHITE TRIANGLEhWO-WAY LEFT WAY TRAFFICgUP POINTING BACKHAND INDEXsINDEX
  i-POINTING CHEVRONsSMALL TRIANGLEsTRIANGLE! WITH DOTgVERTICAL BARpELLIPSEpRECTANGLE
  jY SMALL SQUAREf-FEATHERED RIGHTWARDS ARROWbIDE-HEADED DOWNWARDS BARB ARROWwHEAVY BARB ARROW
  wLIGHT BARB ARROWwMEDIUM BARB ARROWwVERY HEAVY BARB ARROWmLEFTWARDS BARB ARROWwHEAVY BARB ARROW
  wLIGHT BARB ARROWwMEDIUM BARB ARROWwVERY HEAVY BARB ARROWmNORTH EAST BARB ARROWxHEAVY BARB ARROW
  xLIGHT BARB ARROWxMEDIUM BARB ARROWxVERY HEAVY BARB ARROWsWEST BARB ARROWxHEAVY BARB ARROW
  xLIGHT BARB ARROWxMEDIUM BARB ARROWxVERY HEAVY BARB ARROWmRIGHTWARDS BARB ARROWxHEAVY BARB ARROW
  xLIGHT BARB ARROWxMEDIUM BARB ARROWxVERY HEAVY BARB ARROWmSOUTH EAST BARB ARROWxHEAVY BARB ARROW
  xLIGHT BARB ARROWxMEDIUM BARB ARROWxVERY HEAVY BARB ARROWsWEST BARB ARROWxHEAVY BARB ARROW
  xLIGHT BARB ARROWxMEDIUM BARB ARROWxVERY HEAVY BARB ARROWmUPWARDS BARB ARROWuHEAVY BARB ARROW
  uLIGHT BARB ARROWuMEDIUM BARB ARROWuVERY HEAVY BARB ARROWcGGLY VERTICAL LINEcLTED FLOWER
  cND BLOWING FACEfCHIMEeOWdE GLASSdKING FACEcRED KEYBOARDbJbOLF FACEcMANf WITH BUNNY EARSfS BOOTS
  hCLOTHEShHAThSANDALdENS SYMBOLcN SIGNcODcRD JOINERfSEPARATOR MIDDLE DOTdLD MAPdMdRIED FACE
  bRAPPED PRESENTcEATH PRODUCTdNCHdSTLERScITING HANDaX IN A RECTANGLE BOXb-RAYbIANGQI BLACK CANNON
  pHARIOToELEPHANToGENERALoHORSEoMANDARINoSOLDIERiRED CANNONnHARIOTmELEPHANTmGENERALmHORSE
  mMANDARINmSOLDIERbORaYAWNING FACEbELLOW HEARTcN SIGNcZIDI COMBINING HAMZA MARKrMADDA MARK
  hHYPHENATION MARKhLETTER BEoCHHIMqIMpIMoDADqLoELIFpTpWpYNoFAoGAFoHAYpHAoJAoKAFpHAFoLAM
  r WITH DOT ABOVEoMIMoNUNoOWoPEpHEoQAFoRApHAoSADpEpHINpINoTApHEoUMoVAq ALTERNATE FORMoWAWoXApHEYN
  oYOTr WITH CIRCUMFLEX ABOVEoZAqLpEbI RADICAL BBUTmURlCHEmIPmUOPmYnPnTlDDURmUlGAmEPmGOPnUOmOTlHMO
  mXITnOPnUOlJJIEnUTnYmOlKEmITlLInEmYRlMImOPlNBIEmYIPnOPmZUPlOPlPUTmYTlQOTlSHATnOPnURnYmSIlTATmU
  lVEPmURlWOlYITmOlZAmOTmUPnRmZIETdSYLLABLE AnPnTnXmBAoPoToXnBApPpTpXoEpPpXoIpEqPqTqXpPpTpXoOpPpT
  pXoUpOqPqXpPpRqXpTpXoYpPpTpXnEoPoXnIoEpPpTpXoPoToXnOoPoToXnUoOpPpXoPoRpXoToXnYoPoRpXoToXmCAoPoT
  oXnEoPoXnHApPpTpXoEpPpTpXoOpPpTpXoUpOqPqTqXpPpRqXpXoYpPpRqXpTpXnIoEpPpTpXoPoToXnOoPoToXnUoOpPpX
  oPoRpXoToXnYoPoRpXoToXmDAoPoToXnDApPpTpXoEpPpXoIpEqPqXpPpTpXoOpPpTpXoUpOqPqXpPpRqXpTpXnEoPoXnIoE
  pPpXoPoToXnOoPoToXnUoOpXoPoRpXoToXmEnXmFAoPoToXnIoPoToXnOoPoXnUoPoRpXoToXnYoPoToXmGAoPoToXnEoPoT
  oXnGApPpTpXoEpPpTpXoIpEqPqXpTpXoOpPpTpXoUpOqPqTqXpPpRqXpTpXnIoEpPpTpXoPoToXnOoPoToXnUoOpPpTpXoP
  oRpXoToXmHAoPoToXnEoPoXnIEpXoTnLApPpTpXoEpPpXoIpEqPqXpPpTpXoOpPpXoUpOqPqXpPpRqXpTpXoYpPpRqXpTpX
  nMApPpTpXoIpEqPqXpPpTpXoOpPpTpXoUpOqPqXpPpRqXpTpXoYpPpRqXpXnNApPpTpXoEpPpXoIpEqPqTqXpPpTpXoOPpT
  pXoUOqXpTnOoPoToXnUOpPpTpXnXApPpTpXoEpPpXoIpEqPqTqXpPpTpXoOpPpTpXoUOqPqTqXmInEoPoToXnPnT
  oERATION MARKnXmJIoEpPpTpXoPoToXnJIpEqPqTqXpPpTpXoOpPpTpXoUpOqPqXpPpRqXpTpXoYpPpTpXnOoPoToXnUoO
  pPpTpXoPoRpXoToXnYoPoRpXoToXmKAoPoToXnEoPoToXnIoEpPpXoPoToXnOoPoToXnUoOpPpXoPoRpXoToXmLAoPoToXnE
  oPoXnIoEpPpTpXoPoToXnOoPoToXnUoOpPpTpXoPoRpXoToXnYoPoRpXoToXmMAoPoToXnEoXnGApPpTpXoEpPpXoIEqXoO
  pPpTpXoUpOqPqXpPpRqXpTpXnIoEpPpXoPoToXnOoPoToXnUoOpPpTpXoPoRpXoToXnYoPoToXmNAoPoXnBApPpTpXoIpEqP
  qXpPpTpXoOpPpTpXoUpPpRqXpTpXoYpPpRqXpTpXnDApPpTpXoEpPpXoIpEqXpPpTpXoOpPpTpXoUpPpRqXpTpXnEoPoXnGA
  pPpTpXoEpPpXoIEqPqXoOpPpTpXoUOqTqXnIoEpPpXoPoToXnJIpEqPqTqXpPpTpXoOpPpTpXoUpOqXpPpRqXpXoYpPpRqX
  pTpXnOoPoToXnRApPpTpXoEpPpTpXoOpPpXoUpPpRqXpTpXoYpPpRqXpTpXnUoOpPpXoPoRpXoToXnYIpEqPqTqXpPpTpXoO
  pPpTpXoUpOqPqXpPpTpXnZApPpTpXoEpXoIpEqPqXpPpTpXoOPpXoUpOqXpPpRqXpXoYpPpRqXpTpXmOnPnTnXmPAoPoToX
  nIoEpPpXoPoToXnOoPoToXnUoOpPpXoPoRpXoToXnYoPoRpXoToXmQIoEpPpTpXoPoToXnOoPoToXnUoOpPpTpXoPoRpXoT
  oXnYoPoRpXoToXmRAoPoToXnEoPoXnOoPoToXnRApXoEpPpTpXoOpPpTpXoUpOqXpPpRqXpTpXoYpPpRqXpTpXnUoOpPpXoP
  oRpXoToXnYoPoRpXoToXmSAoPoToXnEoPoXnHApPpTpXoEpPpTpXoOpPpTpXoUpOqPqXpPpRqXpTpXoYpPpRqXpTpXnIoEpP
  pXoPoToXnOoPoToXnSApPpTpXoEpPpXoIpEqPqXpPpTpXoOpPpTpXoUpPpTpXoYpPpRqXpTpXnUoOpPpXoPoRpXoToXnYoP
  oRpXoToXmTAoPoToXnEoPoXnIoEpPpXoPoToXnOoPoToXnUoOpPpTpXoPoRpXoToXmUOoPoXmVAoPoToXnEPoXnIoEpPpTpX
  oPoToXnOoPoToXnUoPoRpXoToXnYoPoRpXoToXmWAoPoToXnEoPoXnOoPoXnUoOpPpXmXIoEpPpTpXoPoToXnOoPoToXnUO
  pXnYoPoRpXoToXmYIoEpPpTpXoPoToXnOoPoToXnUoOpPpTpXoPoRpXoToXnYoPoRpXoToXmZAoPoToXnEoPoXnHApPpTpX
  oEpPpTpXoOpPpTpXoUpOqPqXpPpRqXpTpXoYpPpRqXpTpXnIoEpPpXoPoToXnOoPoToXnUoOpPpXoPoRpXoToXnYoPoRpXoT
  oXnZApPpTpXoEpPpXoIpEqPqTqXpPpTpXoOpPpXoUpPpRqXpXoYpPpRqXpTpXcN YANGbO-YO
  aZ NOTATION BAG MEMBERSHIPlDOMAIN ANTIRESTRICTIONlLEFT BINDING BRACKETqIMAGE BRACKET
  lRANGE ANTIRESTRICTIONmELATIONAL COMPOSITIONmIGHT BINDING BRACKETrIMAGE BRACKET
  lSCHEMA COMPOSITIONsPIPINGtROJECTIONmPOTlTYPE COLON
  bANABAZAR SQUARE CLOSING DOUBLE-LINED HEAD MARKzHEAD MARKtUSTER-FINAL LETTER LA>RA>VA>YA
  zINITIAL LETTER RArFINAL CONSONANT MARKrINITIAL DOUBLE-LINED HEAD MARKzHEAD MARKrLETTER -AyAyBA
  zHAyCAzHAyDAzDA!HAzHAzZA!HAyGAzHAyHAyJAyKAzHAzSSAyLAyMAyNAzGAzNAzYAyPAzHAyRAySAzHAzSAyTAzHAzSA
  !HAzTA!HAyVAyYAyZAzHArMARK DOUBLE SHADwLONG TSHEGwSHADwTSHEGrSIGN ANUSVARAwCANDRA WITH ORNAMENT
  %BINDU. WITH ORNAMENTwVIRAMAySARGAsUBJOINERrVOWEL LENGTH MARKxSIGN AI&U%E%I%O&E%REVERSED I%U&E
  bEBRA FACEcRO WIDTH JOINERlNO-BREAK SPACEnN-JOINERlSPACEcUSbIPPER-MOUTH FACE
  bNAMENNY COMBINING ATTACHING VERTICAL OMETtLOWER TONAL RANGE INDICATORtMARK BORZAYAyCHASHKA
  + POLNAYAzURVED OMETyDEMESTVENNY ZADERZHKAzVOETOCHIEyGORAZDO NIZKO ON LEFT_RIGHT
  >S KRYZHEM ON LEFT~YZHEM ON RIGHT,VYSOKOyKACHKAzRYZH& ON LEFTzUPNAYAyLOMKAyMALO POVYSHE ON LEFT
  ^RIGHT=S KHOKHLOM ON LEFT~KHLOM ON RIGHT^RYZHEM>TRANNOyNIZKO ON LEFT.RIGHT*S KRYZHEM ON LEFT
  ~ RIGHTyOBLACHKOzNzTSECHKAyPODCHASHIE: WITH VERTICAL STROKE$VERTKA!VYSHE ON LEFT;RIGHT
  ,S KHOKHLOM ON LEFT~ ON RIGHT;RYZHEM.TRANNOyRAVNO!ZSEKAySKOBAzOROCHYA NOZHKAzREDNE ON LEFT:RIGHT
  zTRANNO MALO POVYSHEyTIKHAYAzOCHKAzSATA ON LEFT.RIGHT*S KRYZHEMyUDARKAyVYSOKO ON LEFT:RIGHT
  +S KHOKHLOM ON LEFT~ON RIGHT:RYZHEMyZADERZHKAzELO!VOKtTONAL RANGE MARK MRACHNO<SVETLO<TRESVETLO
  jNEUME CHASHKArELYUSTKApDEMESTVENNY KLYUCHrRBITSAqOUBLE ZAPYATAYAqUDAqVA V CHELNUpFITA
  pGOLUBCHIK BORZYzMRACHNYzSVETLYzTIKHY!RESVETLYpKHAMILOqLYUCHqOBYLAqRYUKu TIKHYsZHqUFISMApMECHIK
  v KLYUCHENEPOSTOYANNY&POVODNY&VOYwPOVODNYpNEMKApOBLAKOqSOKAu KLYUCHEVAYA NEPOSTOYANNAYA.SVETLAYA
  wRYUKOVAYA SVETLAYAvSVETLAYAvTRESVETLAYApPALKArRAKLITrUKqEREVODKAy NEPOSTOYANNAYAqODCHASHIE
  rLKULIZMYpREVERSED CHELYUSTKAqOGpSKAMEYTSA DVOECHELNAYA KLYUCHEVAYA>NEPOSTOYANNAYA>PROSTAYA
  >SVETLAYAzKLYUCHENEPOSTOYANNAYA,VAYA SVETLAYA=TIKHAYAzMRACHNAYAzSVETLAYAzTIKHAYA!RESVETLAYA
  qLOZHITIEy S KRYZHEM$ZAPYATOYzZAKRYTOEqTATYAv NEPOSTOYANNAYAwS DVUMYA ZAPYATYMIyKRYZHEM
  + I ZAPYATOYyROGOMyZAPYATOY, I KRYZHEM;PODCHASHIEMwZAKRYTAYA+ S ZAPYATOYrOPITSAx S OCHKOM
  yWITH SOROCHYA NOZHKArRELA DVOECHELNAYA: KLYUCHEVAYA+OKRYZHEVAYA,POVODNAYA_ KLYUCHEVAYAwGROMNAYA
  * WITH SINGLE ZAPYATAYA!OKRYZHEVAYA= POVODNAYA$POVODNAYA< WITH DOUBLE ZAPYATAYA~SINGLE ZAPYATAYA
  wKLYUCHENEPOSTOYANNAYA&POVODNAYAxRYUKOVAYA, GROMNAYA_ WITH SINGLE ZAPYATAYA=OKRYZHEVAYA
  ~HEVAYA POVODNAYA>POVODNAYA~DNAYA WITH DOUBLE ZAPYATAYA~DNAYA WITH SINGLE ZAPYATAYA.POVODNAYA
  .TRYASKAzZHEVAYAwMRACHNOTIKHAYAwNEPOSTOYANNAYAwPOLUPOVODNAYAyVODNAYAxROSTAYAwTIKHAYA PUTNAYA
  xRYASOGLASNAYA%POVODNAYA%STRELNAYApVRAKHIYA KLYUCHEVAYA MRACHNAYA<PROSTAYA<SVETLAYA<TRESVETLAYA
  yMRACHNAYAyPROSTAYAySVETLAYAyTRESVETLAYApZANOZHEKrPYATAYAqMEYTSAjPRIZNAK MODIFIER DIRECTION FLIP
  !KRYZH!LEVEL-2,3!ROGbOMBIEbWJcNBSPdJcSP"

/-- The marks beyond the letters `a` to `z`, which stand for 0 to 25. -/
def laterMarks : List Char :=
  ['!', '$', '%', '&', '*', '+', ',', '.', ':', ';', '<', '=', '>', '?', '^', '_', '~']

/-- The number of shared characters that a mark stands for; no character of a name is a mark. -/
def mark? (c : Char) : Option Nat :=
  if c.isUpper || c.isDigit || c == ' ' || c == '-' then none
  else if c.isLower then some (c.toNat - 'a'.toNat)
  else (laterMarks.idxOf? c).map (· + 26)

/-- Whether the name is found in a list that is read on from inside a name. `place` counts the
characters of the current name so far, `common` its leading characters that are those of the name
that is looked for. -/
def search (name : Array Char) : Nat → Nat → List Char → Bool
  | place, common, [] => place == name.size && common == name.size
  | place, common, c :: rest =>
    match mark? c with
    | some shared =>
      if place == name.size && common == name.size then true
      else search name shared (min common shared) rest
    | none =>
      let agrees := common == place && name[place]? == some c
      search name (place + 1) (if agrees then common + 1 else common) rest

/-- The characters of the list. -/
def letters : List Char :=
  (listed.splitOn "\n").flatMap (fun line => line.toList.dropWhile (· == ' '))

/-- Whether a name in capitals is listed. -/
def isListed (name : List Char) : Bool :=
  match name with
  | [] => false
  | name => search name.toArray 0 0 letters

end MathProg.Text.CharacterName
