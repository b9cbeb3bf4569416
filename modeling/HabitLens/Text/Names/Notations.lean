/-!
Names of notations of music, mathematics, signs and others.
-/

namespace HabitLens.Text.Names

def notations : String :=
  "1AFF0=aKATAKANA LETTER MINNAN TONE-2;dTONE-3;dTONE-4;dTONE-5;1AFF5=dTONE-7;dTONE-8
dNASALIZED TONE-1;eTONE-2;eTONE-3;eTONE-4;eTONE-5;1AFFD=eTONE-7;eTONE-8;1B000=cARCHAIC E
aHIRAGANA LETTER ARCHAIC YE;aHENTAIGANA LETTER A-1;cA-2;cA-3;cA-WO;cI-1;cI-2;cI-3;cI-4;cU-1;cU-2
cU-3;cU-4;cU-5;cE-2;cE-3;cE-4;cE-5;cE-6;cO-1;cO-2;cO-3;cKA-1;cKA-2;cKA-3;cKA-4;cKA-5;cKA-6;cKA-7
cKA-8;cKA-9;cKA-10;cKA-11;cKA-KE;cKI-1;cKI-2;cKI-3;cKI-4;cKI-5;cKI-6;cKI-7;cKI-8;cKU-1;cKU-2;cKU-3
cKU-4;cKU-5;cKU-6;cKU-7;cKE-1;cKE-2;cKE-3;cKE-4;cKE-5;cKE-6;cKO-1;cKO-2;cKO-3;cKO-KI;cSA-1;cSA-2
cSA-3;cSA-4;cSA-5;cSA-6;cSA-7;cSA-8;cSI-1;cSI-2;cSI-3;cSI-4;cSI-5;cSI-6;cSU-1;cSU-2;cSU-3;cSU-4
cSU-5;cSU-6;cSU-7;cSU-8;cSE-1;cSE-2;cSE-3;cSE-4;cSE-5;cSO-1;cSO-2;cSO-3;cSO-4;cSO-5;cSO-6;cSO-7
cTA-1;cTA-2;cTA-3;cTA-4;cTI-1;cTI-2;cTI-3;cTI-4;cTI-5;cTI-6;cTI-7;cTU-1;cTU-2;cTU-3;cTU-4;cTU-TO
cTE-1;cTE-2;cTE-3;cTE-4;cTE-5;cTE-6;cTE-7;cTE-8;cTE-9;cTO-1;cTO-2;cTO-3;cTO-4;cTO-5;cTO-6;cTO-RA
cNA-1;cNA-2;cNA-3;cNA-4;cNA-5;cNA-6;cNA-7;cNA-8;cNA-9;cNI-1;cNI-2;cNI-3;cNI-4;cNI-5;cNI-6;cNI-7
cNI-TE;cNU-1;cNU-2;cNU-3;cNE-1;cNE-2;cNE-3;cNE-4;cNE-5;cNE-6;cNE-KO;cNO-1;cNO-2;cNO-3;cNO-4;cNO-5
cHA-1;cHA-2;cHA-3;cHA-4;cHA-5;cHA-6;cHA-7;cHA-8;cHA-9;cHA-10;cHA-11;cHI-1;cHI-2;cHI-3;cHI-4;cHI-5
cHI-6;cHI-7;cHU-1;cHU-2;cHU-3;cHE-1;cHE-2;cHE-3;cHE-4;cHE-5;cHE-6;cHE-7;cHO-1;cHO-2;cHO-3;cHO-4
cHO-5;cHO-6;cHO-7;cHO-8;cMA-1;cMA-2;cMA-3;cMA-4;cMA-5;cMA-6;cMA-7;cMI-1;cMI-2;cMI-3;cMI-4;cMI-5
cMI-6;cMI-7;cMU-1;cMU-2;cMU-3;cMU-4;cME-1;cME-2;cME-MA;cMO-1;cMO-2;cMO-3;cMO-4;cMO-5;cMO-6;cYA-1
cYA-2;cYA-3;cYA-4;cYA-5;cYA-YO;cYU-1;cYU-2;cYU-3;cYU-4;cYO-1;cYO-2;cYO-3;cYO-4;cYO-5;cYO-6;cRA-1
cRA-2;cRA-3;cRA-4;cRI-1;cRI-2;cRI-3;cRI-4;cRI-5;cRI-6;cRI-7;cRU-1;cRU-2;cRU-3;cRU-4;cRU-5;cRU-6
cRE-1;cRE-2;cRE-3;cRE-4;cRO-1;cRO-2;cRO-3;cRO-4;cRO-5;cRO-6;cWA-1;cWA-2;cWA-3;cWA-4;cWA-5;cWI-1
cWI-2;cWI-3;cWI-4;cWI-5;cWE-1;cWE-2;cWE-3;cWE-4;cWO-1;cWO-2;cWO-3;cWO-4;cWO-5;cWO-6;cWO-7
cN-MU-MO-1;cN-MU-MO-2;aHIRAGANA LETTER ARCHAIC WU;aKATAKANA LETTER ARCHAIC YI;dYE;dWU
1B150=aHIRAGANA LETTER SMALL WI;dWE;dWO;1B164=aKATAKANA LETTER SMALL WI;dWE;dWO;dN
1B170=aNUSHU CHARACTER-1B170;bCHARACTER-1B171;bCHARACTER-1B172;bCHARACTER-1B173;bCHARACTER-1B174
bCHARACTER-1B175;bCHARACTER-1B176;bCHARACTER-1B177;bCHARACTER-1B178;bCHARACTER-1B179
bCHARACTER-1B17A;bCHARACTER-1B17B;bCHARACTER-1B17C;bCHARACTER-1B17D;bCHARACTER-1B17E
bCHARACTER-1B17F;bCHARACTER-1B180;bCHARACTER-1B181;bCHARACTER-1B182;bCHARACTER-1B183
bCHARACTER-1B184;bCHARACTER-1B185;bCHARACTER-1B186;bCHARACTER-1B187;bCHARACTER-1B188
bCHARACTER-1B189;bCHARACTER-1B18A;bCHARACTER-1B18B;bCHARACTER-1B18C;bCHARACTER-1B18D
bCHARACTER-1B18E;bCHARACTER-1B18F;bCHARACTER-1B190;bCHARACTER-1B191;bCHARACTER-1B192
bCHARACTER-1B193;bCHARACTER-1B194;bCHARACTER-1B195;bCHARACTER-1B196;bCHARACTER-1B197
bCHARACTER-1B198;bCHARACTER-1B199;bCHARACTER-1B19A;bCHARACTER-1B19B;bCHARACTER-1B19C
bCHARACTER-1B19D;bCHARACTER-1B19E;bCHARACTER-1B19F;bCHARACTER-1B1A0;bCHARACTER-1B1A1
bCHARACTER-1B1A2;bCHARACTER-1B1A3;bCHARACTER-1B1A4;bCHARACTER-1B1A5;bCHARACTER-1B1A6
bCHARACTER-1B1A7;bCHARACTER-1B1A8;bCHARACTER-1B1A9;bCHARACTER-1B1AA;bCHARACTER-1B1AB
bCHARACTER-1B1AC;bCHARACTER-1B1AD;bCHARACTER-1B1AE;bCHARACTER-1B1AF;bCHARACTER-1B1B0
bCHARACTER-1B1B1;bCHARACTER-1B1B2;bCHARACTER-1B1B3;bCHARACTER-1B1B4;bCHARACTER-1B1B5
bCHARACTER-1B1B6;bCHARACTER-1B1B7;bCHARACTER-1B1B8;bCHARACTER-1B1B9;bCHARACTER-1B1BA
bCHARACTER-1B1BB;bCHARACTER-1B1BC;bCHARACTER-1B1BD;bCHARACTER-1B1BE;bCHARACTER-1B1BF
bCHARACTER-1B1C0;bCHARACTER-1B1C1;bCHARACTER-1B1C2;bCHARACTER-1B1C3;bCHARACTER-1B1C4
bCHARACTER-1B1C5;bCHARACTER-1B1C6;bCHARACTER-1B1C7;bCHARACTER-1B1C8;bCHARACTER-1B1C9
bCHARACTER-1B1CA;bCHARACTER-1B1CB;bCHARACTER-1B1CC;bCHARACTER-1B1CD;bCHARACTER-1B1CE
bCHARACTER-1B1CF;bCHARACTER-1B1D0;bCHARACTER-1B1D1;bCHARACTER-1B1D2;bCHARACTER-1B1D3
bCHARACTER-1B1D4;bCHARACTER-1B1D5;bCHARACTER-1B1D6;bCHARACTER-1B1D7;bCHARACTER-1B1D8
bCHARACTER-1B1D9;bCHARACTER-1B1DA;bCHARACTER-1B1DB;bCHARACTER-1B1DC;bCHARACTER-1B1DD
bCHARACTER-1B1DE;bCHARACTER-1B1DF;bCHARACTER-1B1E0;bCHARACTER-1B1E1;bCHARACTER-1B1E2
bCHARACTER-1B1E3;bCHARACTER-1B1E4;bCHARACTER-1B1E5;bCHARACTER-1B1E6;bCHARACTER-1B1E7
bCHARACTER-1B1E8;bCHARACTER-1B1E9;bCHARACTER-1B1EA;bCHARACTER-1B1EB;bCHARACTER-1B1EC
bCHARACTER-1B1ED;bCHARACTER-1B1EE;bCHARACTER-1B1EF;bCHARACTER-1B1F0;bCHARACTER-1B1F1
bCHARACTER-1B1F2;bCHARACTER-1B1F3;bCHARACTER-1B1F4;bCHARACTER-1B1F5;bCHARACTER-1B1F6
bCHARACTER-1B1F7;bCHARACTER-1B1F8;bCHARACTER-1B1F9;bCHARACTER-1B1FA;bCHARACTER-1B1FB
bCHARACTER-1B1FC;bCHARACTER-1B1FD;bCHARACTER-1B1FE;bCHARACTER-1B1FF;bCHARACTER-1B200
bCHARACTER-1B201;bCHARACTER-1B202;bCHARACTER-1B203;bCHARACTER-1B204;bCHARACTER-1B205
bCHARACTER-1B206;bCHARACTER-1B207;bCHARACTER-1B208;bCHARACTER-1B209;bCHARACTER-1B20A
bCHARACTER-1B20B;bCHARACTER-1B20C;bCHARACTER-1B20D;bCHARACTER-1B20E;bCHARACTER-1B20F
bCHARACTER-1B210;bCHARACTER-1B211;bCHARACTER-1B212;bCHARACTER-1B213;bCHARACTER-1B214
bCHARACTER-1B215;bCHARACTER-1B216;bCHARACTER-1B217;bCHARACTER-1B218;bCHARACTER-1B219
bCHARACTER-1B21A;bCHARACTER-1B21B;bCHARACTER-1B21C;bCHARACTER-1B21D;bCHARACTER-1B21E
bCHARACTER-1B21F;bCHARACTER-1B220;bCHARACTER-1B221;bCHARACTER-1B222;bCHARACTER-1B223
bCHARACTER-1B224;bCHARACTER-1B225;bCHARACTER-1B226;bCHARACTER-1B227;bCHARACTER-1B228
bCHARACTER-1B229;bCHARACTER-1B22A;bCHARACTER-1B22B;bCHARACTER-1B22C;bCHARACTER-1B22D
bCHARACTER-1B22E;bCHARACTER-1B22F;bCHARACTER-1B230;bCHARACTER-1B231;bCHARACTER-1B232
bCHARACTER-1B233;bCHARACTER-1B234;bCHARACTER-1B235;bCHARACTER-1B236;bCHARACTER-1B237
bCHARACTER-1B238;bCHARACTER-1B239;bCHARACTER-1B23A;bCHARACTER-1B23B;bCHARACTER-1B23C
bCHARACTER-1B23D;bCHARACTER-1B23E;bCHARACTER-1B23F;bCHARACTER-1B240;bCHARACTER-1B241
bCHARACTER-1B242;bCHARACTER-1B243;bCHARACTER-1B244;bCHARACTER-1B245;bCHARACTER-1B246
bCHARACTER-1B247;bCHARACTER-1B248;bCHARACTER-1B249;bCHARACTER-1B24A;bCHARACTER-1B24B
bCHARACTER-1B24C;bCHARACTER-1B24D;bCHARACTER-1B24E;bCHARACTER-1B24F;bCHARACTER-1B250
bCHARACTER-1B251;bCHARACTER-1B252;bCHARACTER-1B253;bCHARACTER-1B254;bCHARACTER-1B255
bCHARACTER-1B256;bCHARACTER-1B257;bCHARACTER-1B258;bCHARACTER-1B259;bCHARACTER-1B25A
bCHARACTER-1B25B;bCHARACTER-1B25C;bCHARACTER-1B25D;bCHARACTER-1B25E;bCHARACTER-1B25F
bCHARACTER-1B260;bCHARACTER-1B261;bCHARACTER-1B262;bCHARACTER-1B263;bCHARACTER-1B264
bCHARACTER-1B265;bCHARACTER-1B266;bCHARACTER-1B267;bCHARACTER-1B268;bCHARACTER-1B269
bCHARACTER-1B26A;bCHARACTER-1B26B;bCHARACTER-1B26C;bCHARACTER-1B26D;bCHARACTER-1B26E
bCHARACTER-1B26F;bCHARACTER-1B270;bCHARACTER-1B271;bCHARACTER-1B272;bCHARACTER-1B273
bCHARACTER-1B274;bCHARACTER-1B275;bCHARACTER-1B276;bCHARACTER-1B277;bCHARACTER-1B278
bCHARACTER-1B279;bCHARACTER-1B27A;bCHARACTER-1B27B;bCHARACTER-1B27C;bCHARACTER-1B27D
bCHARACTER-1B27E;bCHARACTER-1B27F;bCHARACTER-1B280;bCHARACTER-1B281;bCHARACTER-1B282
bCHARACTER-1B283;bCHARACTER-1B284;bCHARACTER-1B285;bCHARACTER-1B286;bCHARACTER-1B287
bCHARACTER-1B288;bCHARACTER-1B289;bCHARACTER-1B28A;bCHARACTER-1B28B;bCHARACTER-1B28C
bCHARACTER-1B28D;bCHARACTER-1B28E;bCHARACTER-1B28F;bCHARACTER-1B290;bCHARACTER-1B291
bCHARACTER-1B292;bCHARACTER-1B293;bCHARACTER-1B294;bCHARACTER-1B295;bCHARACTER-1B296
bCHARACTER-1B297;bCHARACTER-1B298;bCHARACTER-1B299;bCHARACTER-1B29A;bCHARACTER-1B29B
bCHARACTER-1B29C;bCHARACTER-1B29D;bCHARACTER-1B29E;bCHARACTER-1B29F;bCHARACTER-1B2A0
bCHARACTER-1B2A1;bCHARACTER-1B2A2;bCHARACTER-1B2A3;bCHARACTER-1B2A4;bCHARACTER-1B2A5
bCHARACTER-1B2A6;bCHARACTER-1B2A7;bCHARACTER-1B2A8;bCHARACTER-1B2A9;bCHARACTER-1B2AA
bCHARACTER-1B2AB;bCHARACTER-1B2AC;bCHARACTER-1B2AD;bCHARACTER-1B2AE;bCHARACTER-1B2AF
bCHARACTER-1B2B0;bCHARACTER-1B2B1;bCHARACTER-1B2B2;bCHARACTER-1B2B3;bCHARACTER-1B2B4
bCHARACTER-1B2B5;bCHARACTER-1B2B6;bCHARACTER-1B2B7;bCHARACTER-1B2B8;bCHARACTER-1B2B9
bCHARACTER-1B2BA;bCHARACTER-1B2BB;bCHARACTER-1B2BC;bCHARACTER-1B2BD;bCHARACTER-1B2BE
bCHARACTER-1B2BF;bCHARACTER-1B2C0;bCHARACTER-1B2C1;bCHARACTER-1B2C2;bCHARACTER-1B2C3
bCHARACTER-1B2C4;bCHARACTER-1B2C5;bCHARACTER-1B2C6;bCHARACTER-1B2C7;bCHARACTER-1B2C8
bCHARACTER-1B2C9;bCHARACTER-1B2CA;bCHARACTER-1B2CB;bCHARACTER-1B2CC;bCHARACTER-1B2CD
bCHARACTER-1B2CE;bCHARACTER-1B2CF;bCHARACTER-1B2D0;bCHARACTER-1B2D1;bCHARACTER-1B2D2
bCHARACTER-1B2D3;bCHARACTER-1B2D4;bCHARACTER-1B2D5;bCHARACTER-1B2D6;bCHARACTER-1B2D7
bCHARACTER-1B2D8;bCHARACTER-1B2D9;bCHARACTER-1B2DA;bCHARACTER-1B2DB;bCHARACTER-1B2DC
bCHARACTER-1B2DD;bCHARACTER-1B2DE;bCHARACTER-1B2DF;bCHARACTER-1B2E0;bCHARACTER-1B2E1
bCHARACTER-1B2E2;bCHARACTER-1B2E3;bCHARACTER-1B2E4;bCHARACTER-1B2E5;bCHARACTER-1B2E6
bCHARACTER-1B2E7;bCHARACTER-1B2E8;bCHARACTER-1B2E9;bCHARACTER-1B2EA;bCHARACTER-1B2EB
bCHARACTER-1B2EC;bCHARACTER-1B2ED;bCHARACTER-1B2EE;bCHARACTER-1B2EF;bCHARACTER-1B2F0
bCHARACTER-1B2F1;bCHARACTER-1B2F2;bCHARACTER-1B2F3;bCHARACTER-1B2F4;bCHARACTER-1B2F5
bCHARACTER-1B2F6;bCHARACTER-1B2F7;bCHARACTER-1B2F8;bCHARACTER-1B2F9;bCHARACTER-1B2FA
bCHARACTER-1B2FB;1BC00=aDUPLOYAN LETTER H;cX;cP;cT;cF;cK;cL;cB;cD;cV;cG;cR;cP N;cD S;cF N;cK M;cR S
cTH;cSLOAN DH;cDH;cKK;cSLOAN J;cHL;cLH;cRH;cM;cN;cJ;cS;cM N;cN M;cJ M;cS J;cM WITH DOT;cN WITH DOT
cJ WITH DOT;eDOTS INSIDE AND ABOVE;cS WITH DOT;fBELOW;cM S;cN S;cJ S;cS S;cM N S;cN M S;cJ M S
cS J S;cJ S WITH DOT;dN;eS;cS T;eR;dP;eR;cT S;dR S;cW;cWH;cW R;cS N;dM;cK R S;cG R S;cS K;eR;cA
cSLOAN OW;cOA;cO;cAOU;cI;cE;cIE;cSHORT I;cUI;cEE;cSLOAN EH;cROMANIAN I;cSLOAN EE;cLONG I;cYE;cU;cEU
cXW;cU N;cLONG U;cROMANIAN U;cUH;cSLOAN U;cOOH;cOW;cOU;cWA;cWO;cWI;cWEI;cWOW;cNASAL U;dO;dI;dA
cPERNIN AN;dAM;cSLOAN EN;dAN;dON;cVOCALIC M;1BC70=bAFFIX LEFT HORIZONTAL SECANT
cMID HORIZONTAL SECANT;cRIGHT HORIZONTAL SECANT;cLOW VERTICAL SECANT;cMID VERTICAL SECANT
cHIGH VERTICAL SECANT;cATTACHED SECANT;dLEFT-TO-RIGHT SECANT;dTANGENT;dTAIL;dE HOOK;dI HOOK
dTANGENT HOOK;1BC80=cHIGH ACUTE;dTIGHT ACUTE;dGRAVE;dLONG GRAVE;dDOT;dCIRCLE;dLINE;dWAVE;dVERTICAL
1BC90=cLOW ACUTE;dTIGHT ACUTE;dGRAVE;dLONG GRAVE;dDOT;dCIRCLE;dLINE;dWAVE;dVERTICAL;dARROW
1BC9C=bSIGN O WITH CROSS;bTHICK LETTER SELECTOR;bDOUBLE MARK;bPUNCTUATION CHINOOK FULL STOP
aSHORTHAND FORMAT LETTER OVERLAP;cCONTINUING OVERLAP;cDOWN STEP;cUP STEP
1CF00=aZNAMENNY COMBINING MARK GORAZDO NIZKO S KRYZHEM ON LEFT;dNIZKO S KRYZHEM ON LEFT
dTSATA ON LEFT;dGORAZDO NIZKO ON LEFT;dNIZKO ON LEFT;dSREDNE ON LEFT;dMALO POVYSHE ON LEFT
dPOVYSHE ON LEFT;dVYSOKO ON LEFT;dMALO POVYSHE S KHOKHLOM ON LEFT;dPOVYSHE S KHOKHLOM ON LEFT
dVYSOKO S KHOKHLOM ON LEFT;dGORAZDO NIZKO S KRYZHEM ON RIGHT;dNIZKO S KRYZHEM ON RIGHT
dTSATA ON RIGHT;dGORAZDO NIZKO ON RIGHT;dNIZKO ON RIGHT;dSREDNE ON RIGHT;dMALO POVYSHE ON RIGHT
dPOVYSHE ON RIGHT;dVYSOKO ON RIGHT;dMALO POVYSHE S KHOKHLOM ON RIGHT;dPOVYSHE S KHOKHLOM ON RIGHT
dVYSOKO S KHOKHLOM ON RIGHT;dTSATA S KRYZHEM;dMALO POVYSHE S KRYZHEM;dSTRANNO MALO POVYSHE
dPOVYSHE S KRYZHEM;eSTRANNO;dVYSOKO S KRYZHEM;dMALO POVYSHE STRANNO;dGORAZDO VYSOKO;dZELO;dON
dRAVNO;dTIKHAYA;dBORZAYA;dUDARKA;dPODVERTKA;dLOMKA;dKUPNAYA;dKACHKA;dZEVOK;dSKOBA;dRAZSEKA
dKRYZH ON LEFT;1CF30=cTONAL RANGE MARK MRACHNO;fSVETLO;fTRESVETLO;cMARK ZADERZHKA
dDEMESTVENNY ZADERZHKA;dOTSECHKA;dPODCHASHIE;eWITH VERTICAL STROKE;dCHASHKA;ePOLNAYA;dOBLACHKO
dSOROCHYA NOZHKA;dTOCHKA;dDVOETOCHIE;cATTACHING VERTICAL OMET;cMARK CURVED OMET;dKRYZH
cLOWER TONAL RANGE INDICATOR;bPRIZNAK MODIFIER LEVEL-2;dLEVEL-3;dDIRECTION FLIP;dKRYZH;dROG
1CF50=bNEUME KRYUK;dTIKHY;cPARAKLIT;cDVA V CHELNU;cKLYUCH;cZANOZHEK;cSTOPITSA;dS OCHKOM;cPEREVODKA
dNEPOSTOYANNAYA;cSTOPITSA WITH SOROCHYA NOZHKA;cCHELYUSTKA;cPALKA;cZAPYATAYA;cGOLUBCHIK BORZY
dTIKHY;dMRACHNY;dSVETLY;dTRESVETLY;cVRAKHIYA PROSTAYA;dMRACHNAYA;dSVETLAYA;dTRESVETLAYA
dKLYUCHEVAYA PROSTAYA;eMRACHNAYA;eSVETLAYA;eTRESVETLAYA;cDOUBLE ZAPYATAYA;cREVERSED CHELYUSTKA
cDERBITSA;cKHAMILO;cCHASHKA;cPODCHASHIE;cSKAMEYTSA MRACHNAYA;dSVETLAYA;dTRESVETLAYA;dTIKHAYA
cDEMESTVENNY KLYUCH;cSKAMEYTSA KLYUCHEVAYA SVETLAYA;dKLYUCHENEPOSTOYANNAYA;dKLYUCHEVAYA TIKHAYA
dDVOECHELNAYA PROSTAYA;eSVETLAYA;eNEPOSTOYANNAYA;eKLYUCHEVAYA;cSLOZHITIE;dS ZAPYATOY;dZAKRYTOE
dS KRYZHEM;cKRYZH;cROG;cFITA;cKOBYLA;cZMEYTSA;cSTATYA;dS ZAPYATOY;eKRYZHEM;eZAPYATOY I KRYZHEM
eKRYZHEM I ZAPYATOY;dZAKRYTAYA;eS ZAPYATOY;dS ROGOM;eDVUMYA ZAPYATYMI;eZAPYATOY I PODCHASHIEM
cPOLKULIZMY;cSTATYA NEPOSTOYANNAYA;cSTRELA PROSTAYA;dMRACHNOTIKHAYA;dKRYZHEVAYA;dPOLUPOVODNAYA
dPOVODNAYA;dNEPOSTOYANNAYA;dKLYUCHEPOVODNAYA;dKLYUCHENEPOSTOYANNAYA;dTIKHAYA PUTNAYA;dDVOECHELNAYA
dDVOECHELNOKRYZHEVAYA;dDVOECHELNOPOVODNAYA;dDVOECHELNAYA KLYUCHEVAYA
dDVOECHELNOPOVODNAYA KLYUCHEVAYA;dGROMNAYA WITH SINGLE ZAPYATAYA
dGROMOPOVODNAYA WITH SINGLE ZAPYATAYA;dGROMNAYA;dGROMOPOVODNAYA;eWITH DOUBLE ZAPYATAYA
dGROMOKRYZHEVAYA;ePOVODNAYA;cMECHIK;dPOVODNY;dKLYUCHEVOY;dKLYUCHEPOVODNY;dKLYUCHENEPOSTOYANNY
cSTRELA TRYASOGLASNAYA;dTRYASOPOVODNAYA;dTRYASOSTRELNAYA;cOSOKA;dSVETLAYA;dTRESVETLAYA
dKRYUKOVAYA SVETLAYA;dKLYUCHEVAYA SVETLAYA;eNEPOSTOYANNAYA;cSTRELA KRYUKOVAYA;ePOVODNAYA
eGROMNAYA WITH SINGLE ZAPYATAYA;eGROMOPOVODNAYA WITH SINGLE ZAPYATAYA;eGROMNAYA;eGROMOPOVODNAYA
fWITH DOUBLE ZAPYATAYA;eGROMOKRYZHEVAYA;fPOVODNAYA;eTRYASKA;cKUFISMA;cOBLAKO;cDUDA;cNEMKA;cPAUK
1D000=aBYZANTINE MUSICAL SYMBOL PSILI;dDASEIA;dPERISPOMENI;dOXEIA EKFONITIKON;eDIPLI
dVAREIA EKFONITIKON;eDIPLI;dKATHISTI;dSYRMATIKI;dPARAKLITIKI;dYPOKRISIS;eDIPLI;dKREMASTI
dAPESO EKFONITIKON;dEXO EKFONITIKON;dTELEIA;dKENTIMATA;dAPOSTROFOS;eDIPLI;dSYNEVMA;dTHITA
dOLIGON ARCHAION;dGORGON ARCHAION;dPSILON;dCHAMILON;dVATHY;dISON ARCHAION;dKENTIMA ARCHAION
dKENTIMATA ARCHAION;dSAXIMATA;dPARICHON;dSTAVROS APODEXIA;dOXEIAI ARCHAION;dVAREIAI ARCHAION
dAPODERMA ARCHAION;dAPOTHEMA;dKLASMA;dREVMA;dPIASMA ARCHAION;dTINAGMA;dANATRICHISMA;dSEISMA
dSYNAGMA ARCHAION;eMETA STAVROU;dOYRANISMA ARCHAION;dTHEMA;dLEMOI;dDYO;dTRIA;dTESSERA;dKRATIMATA
dAPESO EXO NEO;dFTHORA ARCHAION;dIMIFTHORA;dTROMIKON ARCHAION;dKATAVA TROMIKON;dPELASTON;dPSIFISTON
dKONTEVMA;dCHOREVMA ARCHAION;dRAPISMA;dPARAKALESMA ARCHAION;dPARAKLITIKI ARCHAION;dICHADIN;dNANA
dPETASMA;dKONTEVMA ALLO;dTROMIKON ALLO;dSTRAGGISMATA;dGRONTHISMATA;dISON NEO;dOLIGON NEO;dOXEIA NEO
dPETASTI;dKOUFISMA;dPETASTOKOUFISMA;dKRATIMOKOUFISMA;dPELASTON NEO;dKENTIMATA NEO ANO
dKENTIMA NEO ANO;dYPSILI;dAPOSTROFOS NEO;dAPOSTROFOI SYNDESMOS NEO;dYPORROI;dKRATIMOYPORROON
dELAFRON;dCHAMILI;dMIKRON ISON;dVAREIA NEO;dPIASMA NEO;dPSIFISTON NEO;dOMALON;dANTIKENOMA;dLYGISMA
dPARAKLITIKI NEO;dPARAKALESMA NEO;dETERON PARAKALESMA;dKYLISMA;dANTIKENOKYLISMA;dTROMIKON NEO
dEKSTREPTON;dSYNAGMA NEO;dSYRMA;dCHOREVMA NEO;dEPEGERMA;dSEISMA NEO;dXIRON KLASMA;dTROMIKOPSIFISTON
dPSIFISTOLYGISMA;dTROMIKOLYGISMA;dTROMIKOPARAKALESMA;dPSIFISTOPARAKALESMA;dTROMIKOSYNAGMA
dPSIFISTOSYNAGMA;dGORGOSYNTHETON;dARGOSYNTHETON;dETERON ARGOSYNTHETON;dOYRANISMA NEO
dTHEMATISMOS ESO;eEXO;dTHEMA APLOUN;dTHES KAI APOTHES;dKATAVASMA;dENDOFONON;dYFEN KATO;eANO
dSTAVROS;dKLASMA ANO;dDIPLI ARCHAION;dKRATIMA ARCHAION;eALLO;eNEO;dAPODERMA NEO;dAPLI;dDIPLI
dTRIPLI;dTETRAPLI;dKORONIS;dLEIMMA ENOS CHRONOU;eDYO CHRONON;eTRION CHRONON;eTESSARON CHRONON
eIMISEOS CHRONOU;dGORGON NEO ANO;ePARESTIGMENON ARISTERA;fDEXIA;dDIGORGON
ePARESTIGMENON ARISTERA KATO;gANO;fDEXIA;dTRIGORGON;dARGON;dIMIDIARGON;dDIARGON;dAGOGI POLI ARGI
eARGOTERI;eARGI;eMETRIA;eMESI;eGORGI;eGORGOTERI;ePOLI GORGI;dMARTYRIA PROTOS ICHOS
eALLI PROTOS ICHOS;eDEYTEROS ICHOS;eALLI DEYTEROS ICHOS;eTRITOS ICHOS;eTRIFONIAS;eTETARTOS ICHOS
fLEGETOS ICHOS;eLEGETOS ICHOS;ePLAGIOS ICHOS;dISAKIA TELOUS ICHIMATOS;dAPOSTROFOI TELOUS ICHIMATOS
dFANEROSIS TETRAFONIAS;eMONOFONIAS;eDIFONIAS;dMARTYRIA VARYS ICHOS;ePROTOVARYS ICHOS
ePLAGIOS TETARTOS ICHOS;dGORTHMIKON N APLOUN;fDIPLOUN;dENARXIS KAI FTHORA VOU;dIMIFONON;dIMIFTHORON
dFTHORA ARCHAION DEYTEROU ICHOU;eDIATONIKI PA;fNANA;eNAOS ICHOS;eDIATONIKI DI;eSKLIRON DIATONON DI
eDIATONIKI KE;fZO;fNI KATO;gANO;eMALAKON CHROMA DIFONIAS;gMONOFONIAS;dFHTORA SKLIRON CHROMA VASIS
dFTHORA SKLIRON CHROMA SYNAFI;eNENANO;dCHROA ZYGOS;eKLITON;eSPATHI;dFTHORA I YFESIS TETARTIMORION
eENARMONIOS ANTIFONIA;dYFESIS TRITIMORION;dDIESIS TRITIMORION;eTETARTIMORION;eAPLI DYO DODEKATA
eMONOGRAMMOS TESSERA DODEKATA;eDIGRAMMOS EX DODEKATA;eTRIGRAMMOS OKTO DODEKATA
dYFESIS APLI DYO DODEKATA;eMONOGRAMMOS TESSERA DODEKATA;eDIGRAMMOS EX DODEKATA
eTRIGRAMMOS OKTO DODEKATA;dGENIKI DIESIS;eYFESIS;dDIASTOLI APLI MIKRI;fMEGALI;eDIPLI;eTHESEOS
dSIMANSIS THESEOS;fDISIMOU;fTRISIMOU;fTETRASIMOU;eARSEOS;fDISIMOU;fTRISIMOU;fTETRASIMOU
dDIGRAMMA GG;dDIFTOGGOS OU;dSTIGMA;dARKTIKO PA;eVOU;eGA;eDI;eKE;eZO;eNI;dKENTIMATA NEO MESO
dKENTIMA NEO MESO;dKENTIMATA NEO KATO;dKENTIMA NEO KATO;dKLASMA KATO;dGORGON NEO KATO
1D100=aMUSICAL SYMBOL SINGLE BARLINE;cDOUBLE BARLINE;cFINAL BARLINE;cREVERSE FINAL BARLINE
cDASHED BARLINE;cSHORT BARLINE;cLEFT REPEAT SIGN;cRIGHT REPEAT SIGN;cREPEAT DOTS;cDAL SEGNO
cDA CAPO;cSEGNO;cCODA;cREPEATED FIGURE-1;dFIGURE-2;dFIGURE-3;cFERMATA;dBELOW;cBREATH MARK;cCAESURA
cBRACE;cBRACKET;cONE-LINE STAFF;cTWO-LINE STAFF;cTHREE-LINE STAFF;cFOUR-LINE STAFF;cFIVE-LINE STAFF
cSIX-LINE STAFF;cSIX-STRING FRETBOARD;cFOUR-STRING FRETBOARD;cG CLEF;eOTTAVA ALTA;fBASSA;cC CLEF
cF CLEF;eOTTAVA ALTA;fBASSA;cDRUM CLEF-1;dCLEF-2;1D129=cMULTIPLE MEASURE REST;cDOUBLE SHARP;dFLAT
cFLAT UP;dDOWN;cNATURAL UP;dDOWN;cSHARP UP;dDOWN;cQUARTER TONE SHARP;eFLAT;cCOMMON TIME;cCUT TIME
cOTTAVA ALTA;dBASSA;cQUINDICESIMA ALTA;dBASSA;cMULTI REST;cWHOLE REST;cHALF REST;cQUARTER REST
cEIGHTH REST;cSIXTEENTH REST;cTHIRTY-SECOND REST;cSIXTY-FOURTH REST;cONE HUNDRED TWENTY-EIGHTH REST
cX NOTEHEAD;cPLUS NOTEHEAD;cCIRCLE X NOTEHEAD;cSQUARE NOTEHEAD WHITE;eBLACK
cTRIANGLE NOTEHEAD UP WHITE;fBLACK;eLEFT WHITE;fBLACK;eRIGHT WHITE;fBLACK;eDOWN WHITE;fBLACK
eUP RIGHT WHITE;gBLACK;cMOON NOTEHEAD WHITE;eBLACK;cTRIANGLE-ROUND NOTEHEAD DOWN WHITE;fBLACK
cPARENTHESIS NOTEHEAD;cVOID NOTEHEAD;cNOTEHEAD BLACK;cNULL NOTEHEAD;cCLUSTER NOTEHEAD WHITE;eBLACK
cBREVE;cWHOLE NOTE;cHALF NOTE;cQUARTER NOTE;cEIGHTH NOTE;cSIXTEENTH NOTE;cTHIRTY-SECOND NOTE
cSIXTY-FOURTH NOTE;cONE HUNDRED TWENTY-EIGHTH NOTE;cCOMBINING STEM;dSPRECHGESANG STEM;dTREMOLO-1
dTREMOLO-2;dTREMOLO-3;cFINGERED TREMOLO-1;dTREMOLO-2;dTREMOLO-3;cCOMBINING AUGMENTATION DOT;dFLAG-1
dFLAG-2;dFLAG-3;dFLAG-4;dFLAG-5;cBEGIN BEAM;cEND BEAM;cBEGIN TIE;cEND TIE;cBEGIN SLUR;cEND SLUR
cBEGIN PHRASE;cEND PHRASE;cCOMBINING ACCENT;dSTACCATO;dTENUTO;dSTACCATISSIMO;dMARCATO
dMARCATO-STACCATO;dACCENT-STACCATO;dLOURE;cARPEGGIATO UP;dDOWN;cCOMBINING DOIT;dRIP;dFLIP;dSMEAR
dBEND;dDOUBLE TONGUE;dTRIPLE TONGUE;cRINFORZANDO;cSUBITO;cZ;cPIANO;cMEZZO;cFORTE;cCRESCENDO
cDECRESCENDO;cGRACE NOTE SLASH;eNO SLASH;cTR;cTURN;cINVERTED TURN;cTURN SLASH;dUP
cORNAMENT STROKE-1;dSTROKE-2;dSTROKE-3;dSTROKE-4;dSTROKE-5;dSTROKE-6;dSTROKE-7;dSTROKE-8;dSTROKE-9
dSTROKE-10;dSTROKE-11;cHAUPTSTIMME;cNEBENSTIMME;cEND OF STIMME;cDEGREE SLASH;cCOMBINING DOWN BOW
dUP BOW;dHARMONIC;dSNAP PIZZICATO;cPEDAL MARK;dUP MARK;cHALF PEDAL MARK;cGLISSANDO UP;dDOWN
cWITH FINGERNAILS;cDAMP;dALL;cMAXIMA;cLONGA;cBREVIS;cSEMIBREVIS WHITE;dBLACK;cMINIMA;dBLACK
cSEMIMINIMA WHITE;dBLACK;cFUSA WHITE;dBLACK;cLONGA PERFECTA REST;dIMPERFECTA REST;cBREVIS REST
cSEMIBREVIS REST;cMINIMA REST;cSEMIMINIMA REST;cTEMPUS PERFECTUM CUM PROLATIONE PERFECTA
gIMPERFECTA;gPERFECTA DIMINUTION-1;dIMPERFECTUM CUM PROLATIONE PERFECTA;gIMPERFECTA;hDIMINUTION-1
hDIMINUTION-2;hDIMINUTION-3;cCROIX;cGREGORIAN C CLEF;dF CLEF;cSQUARE B;cVIRGA;cPODATUS;cCLIVIS
cSCANDICUS;cCLIMACUS;cTORCULUS;cPORRECTUS;dFLEXUS;cSCANDICUS FLEXUS;cTORCULUS RESUPINUS
cPES SUBPUNCTIS;cKIEVAN C CLEF;dEND OF PIECE;dFINAL NOTE;dRECITATIVE MARK;dWHOLE NOTE;dHALF NOTE
dQUARTER NOTE STEM DOWN;gUP;dEIGHTH NOTE STEM DOWN;gUP;dFLAT SIGN;cSORI;cKORON
1D200=aGREEK VOCAL NOTATION SYMBOL-1;dSYMBOL-2;dSYMBOL-3;dSYMBOL-4;dSYMBOL-5;dSYMBOL-6;dSYMBOL-7
dSYMBOL-8;dSYMBOL-9;dSYMBOL-10;dSYMBOL-11;dSYMBOL-12;dSYMBOL-13;dSYMBOL-14;dSYMBOL-15;dSYMBOL-16
dSYMBOL-17;dSYMBOL-18;dSYMBOL-19;dSYMBOL-20;dSYMBOL-21;dSYMBOL-22;dSYMBOL-23;dSYMBOL-24;dSYMBOL-50
dSYMBOL-51;dSYMBOL-52;dSYMBOL-53;dSYMBOL-54;bINSTRUMENTAL NOTATION SYMBOL-1;dSYMBOL-2;dSYMBOL-4
dSYMBOL-5;dSYMBOL-7;dSYMBOL-8;dSYMBOL-11;dSYMBOL-12;dSYMBOL-13;dSYMBOL-14;dSYMBOL-17;dSYMBOL-18
dSYMBOL-19;dSYMBOL-23;dSYMBOL-24;dSYMBOL-25;dSYMBOL-26;dSYMBOL-27;dSYMBOL-29;dSYMBOL-30;dSYMBOL-32
dSYMBOL-36;dSYMBOL-37;dSYMBOL-38;dSYMBOL-39;dSYMBOL-40;dSYMBOL-42;dSYMBOL-43;dSYMBOL-45;dSYMBOL-47
dSYMBOL-48;dSYMBOL-49;dSYMBOL-50;dSYMBOL-51;dSYMBOL-52;dSYMBOL-53;dSYMBOL-54
aCOMBINING GREEK MUSICAL TRISEME;dTETRASEME;dPENTASEME;aGREEK MUSICAL LEIMMA
1D2E0=aMAYAN NUMERAL ZERO;cONE;cTWO;cTHREE;cFOUR;cFIVE;cSIX;cSEVEN;cEIGHT;cNINE;cTEN;cELEVEN
cTWELVE;cTHIRTEEN;cFOURTEEN;cFIFTEEN;cSIXTEEN;cSEVENTEEN;cEIGHTEEN;cNINETEEN
1D300=aMONOGRAM FOR EARTH;aDIGRAM FOR HEAVENLY EARTH;cHUMAN EARTH;cEARTHLY HEAVEN;dHUMAN;cEARTH
aTETRAGRAM FOR CENTRE;cFULL CIRCLE;cMIRED;cBARRIER;cKEEPING SMALL;cCONTRARIETY;cASCENT;cOPPOSITION
cBRANCHING OUT;cDEFECTIVENESS OR DISTORTION;cDIVERGENCE;cYOUTHFULNESS;cINCREASE;cPENETRATION;cREACH
cCONTACT;cHOLDING BACK;cWAITING;cFOLLOWING;cADVANCE;cRELEASE;cRESISTANCE;cEASE;cJOY;cCONTENTION
cENDEAVOUR;cDUTIES;cCHANGE;cDECISIVENESS;cBOLD RESOLUTION;cPACKING;cLEGION;cCLOSENESS;cKINSHIP
cGATHERING;cSTRENGTH;cPURITY;cFULLNESS;cRESIDENCE;cLAW OR MODEL;cRESPONSE;cGOING TO MEET
cENCOUNTERS;cSTOVE;cGREATNESS;cENLARGEMENT;cPATTERN;cRITUAL;cFLIGHT;cVASTNESS OR WASTING;cCONSTANCY
cMEASURE;cETERNITY;cUNITY;cDIMINISHMENT;cCLOSED MOUTH;cGUARDEDNESS;cGATHERING IN;cMASSING
cACCUMULATION;cEMBELLISHMENT;cDOUBT;cWATCH;cSINKING;cINNER;cDEPARTURE;cDARKENING;cDIMMING
cEXHAUSTION;cSEVERANCE;cSTOPPAGE;cHARDNESS;cCOMPLETION;cCLOSURE;cFAILURE;cAGGRAVATION;cCOMPLIANCE
cON THE VERGE;cDIFFICULTIES;cLABOURING;cFOSTERING;1D360=aCOUNTING ROD UNIT DIGIT ONE;eTWO;eTHREE
eFOUR;eFIVE;eSIX;eSEVEN;eEIGHT;eNINE;cTENS DIGIT ONE;eTWO;eTHREE;eFOUR;eFIVE;eSIX;eSEVEN;eEIGHT
eNINE;aIDEOGRAPHIC TALLY MARK ONE;dTWO;dTHREE;dFOUR;dFIVE;aTALLY MARK ONE;cFIVE
1D400=aMATHEMATICAL BOLD CAPITAL A;dB;dC;dD;dE;dF;dG;dH;dI;dJ;dK;dL;dM;dN;dO;dP;dQ;dR;dS;dT;dU;dV
dW;dX;dY;dZ;cSMALL A;dB;dC;dD;dE;dF;dG;dH;dI;dJ;dK;dL;dM;dN;dO;dP;dQ;dR;dS;dT;dU;dV;dW;dX;dY;dZ
bITALIC CAPITAL A;dB;dC;dD;dE;dF;dG;dH;dI;dJ;dK;dL;dM;dN;dO;dP;dQ;dR;dS;dT;dU;dV;dW;dX;dY;dZ
cSMALL A;dB;dC;dD;dE;dF;dG;1D456=dI;dJ;dK;dL;dM;dN;dO;dP;dQ;dR;dS;dT;dU;dV;dW;dX;dY;dZ
bBOLD ITALIC CAPITAL A;eB;eC;eD;eE;eF;eG;eH;eI;eJ;eK;eL;eM;eN;eO;eP;eQ;eR;eS;eT;eU;eV;eW;eX;eY;eZ
dSMALL A;eB;eC;eD;eE;eF;eG;eH;eI;eJ;eK;eL;eM;eN;eO;eP;eQ;eR;eS;eT;eU;eV;eW;eX;eY;eZ
bSCRIPT CAPITAL A;1D49E=dC;dD;1D4A2=dG;1D4A5=dJ;dK;1D4A9=dN;dO;dP;dQ;1D4AE=dS;dT;dU;dV;dW;dX;dY;dZ
cSMALL A;dB;dC;dD;1D4BB=dF;1D4BD=dH;dI;dJ;dK;dL;dM;dN;1D4C5=dP;dQ;dR;dS;dT;dU;dV;dW;dX;dY;dZ
bBOLD SCRIPT CAPITAL A;eB;eC;eD;eE;eF;eG;eH;eI;eJ;eK;eL;eM;eN;eO;eP;eQ;eR;eS;eT;eU;eV;eW;eX;eY;eZ
dSMALL A;eB;eC;eD;eE;eF;eG;eH;eI;eJ;eK;eL;eM;eN;eO;eP;eQ;eR;eS;eT;eU;eV;eW;eX;eY;eZ
bFRAKTUR CAPITAL A;dB;1D507=dD;dE;dF;dG;1D50D=dJ;dK;dL;dM;dN;dO;dP;dQ;1D516=dS;dT;dU;dV;dW;dX;dY
1D51E=cSMALL A;dB;dC;dD;dE;dF;dG;dH;dI;dJ;dK;dL;dM;dN;dO;dP;dQ;dR;dS;dT;dU;dV;dW;dX;dY;dZ
bDOUBLE-STRUCK CAPITAL A;dB;1D53B=dD;dE;dF;dG;1D540=dI;dJ;dK;dL;dM;1D546=dO;1D54A=dS;dT;dU;dV;dW;dX
dY;1D552=cSMALL A;dB;dC;dD;dE;dF;dG;dH;dI;dJ;dK;dL;dM;dN;dO;dP;dQ;dR;dS;dT;dU;dV;dW;dX;dY;dZ
bBOLD FRAKTUR CAPITAL A;eB;eC;eD;eE;eF;eG;eH;eI;eJ;eK;eL;eM;eN;eO;eP;eQ;eR;eS;eT;eU;eV;eW;eX;eY;eZ
dSMALL A;eB;eC;eD;eE;eF;eG;eH;eI;eJ;eK;eL;eM;eN;eO;eP;eQ;eR;eS;eT;eU;eV;eW;eX;eY;eZ
bSANS-SERIF CAPITAL A;dB;dC;dD;dE;dF;dG;dH;dI;dJ;dK;dL;dM;dN;dO;dP;dQ;dR;dS;dT;dU;dV;dW;dX;dY;dZ
cSMALL A;dB;dC;dD;dE;dF;dG;dH;dI;dJ;dK;dL;dM;dN;dO;dP;dQ;dR;dS;dT;dU;dV;dW;dX;dY;dZ;cBOLD CAPITAL A
eB;eC;eD;eE;eF;eG;eH;eI;eJ;eK;eL;eM;eN;eO;eP;eQ;eR;eS;eT;eU;eV;eW;eX;eY;eZ;dSMALL A;eB;eC;eD;eE;eF
eG;eH;eI;eJ;eK;eL;eM;eN;eO;eP;eQ;eR;eS;eT;eU;eV;eW;eX;eY;eZ;cITALIC CAPITAL A;eB;eC;eD;eE;eF;eG;eH
eI;eJ;eK;eL;eM;eN;eO;eP;eQ;eR;eS;eT;eU;eV;eW;eX;eY;eZ;dSMALL A;eB;eC;eD;eE;eF;eG;eH;eI;eJ;eK;eL;eM
eN;eO;eP;eQ;eR;eS;eT;eU;eV;eW;eX;eY;eZ;cBOLD ITALIC CAPITAL A;fB;fC;fD;fE;fF;fG;fH;fI;fJ;fK;fL;fM
fN;fO;fP;fQ;fR;fS;fT;fU;fV;fW;fX;fY;fZ;eSMALL A;fB;fC;fD;fE;fF;fG;fH;fI;fJ;fK;fL;fM;fN;fO;fP;fQ;fR
fS;fT;fU;fV;fW;fX;fY;fZ;bMONOSPACE CAPITAL A;dB;dC;dD;dE;dF;dG;dH;dI;dJ;dK;dL;dM;dN;dO;dP;dQ;dR;dS
dT;dU;dV;dW;dX;dY;dZ;cSMALL A;dB;dC;dD;dE;dF;dG;dH;dI;dJ;dK;dL;dM;dN;dO;dP;dQ;dR;dS;dT;dU;dV;dW;dX
dY;dZ;bITALIC SMALL DOTLESS I;eJ;1D6A8=bBOLD CAPITAL ALPHA;dBETA;dGAMMA;dDELTA;dEPSILON;dZETA;dETA
dTHETA;dIOTA;dKAPPA;dLAMDA;dMU;dNU;dXI;dOMICRON;dPI;dRHO;dTHETA SYMBOL;dSIGMA;dTAU;dUPSILON;dPHI
dCHI;dPSI;dOMEGA;cNABLA;cSMALL ALPHA;dBETA;dGAMMA;dDELTA;dEPSILON;dZETA;dETA;dTHETA;dIOTA;dKAPPA
dLAMDA;dMU;dNU;dXI;dOMICRON;dPI;dRHO;dFINAL SIGMA;dSIGMA;dTAU;dUPSILON;dPHI;dCHI;dPSI;dOMEGA
cPARTIAL DIFFERENTIAL;cEPSILON SYMBOL;cTHETA SYMBOL;cKAPPA SYMBOL;cPHI SYMBOL;cRHO SYMBOL
cPI SYMBOL;bITALIC CAPITAL ALPHA;dBETA;dGAMMA;dDELTA;dEPSILON;dZETA;dETA;dTHETA;dIOTA;dKAPPA;dLAMDA
dMU;dNU;dXI;dOMICRON;dPI;dRHO;dTHETA SYMBOL;dSIGMA;dTAU;dUPSILON;dPHI;dCHI;dPSI;dOMEGA;cNABLA
cSMALL ALPHA;dBETA;dGAMMA;dDELTA;dEPSILON;dZETA;dETA;dTHETA;dIOTA;dKAPPA;dLAMDA;dMU;dNU;dXI
dOMICRON;dPI;dRHO;dFINAL SIGMA;dSIGMA;dTAU;dUPSILON;dPHI;dCHI;dPSI;dOMEGA;cPARTIAL DIFFERENTIAL
cEPSILON SYMBOL;cTHETA SYMBOL;cKAPPA SYMBOL;cPHI SYMBOL;cRHO SYMBOL;cPI SYMBOL
bBOLD ITALIC CAPITAL ALPHA;eBETA;eGAMMA;eDELTA;eEPSILON;eZETA;eETA;eTHETA;eIOTA;eKAPPA;eLAMDA;eMU
eNU;eXI;eOMICRON;ePI;eRHO;eTHETA SYMBOL;eSIGMA;eTAU;eUPSILON;ePHI;eCHI;ePSI;eOMEGA;dNABLA
dSMALL ALPHA;eBETA;eGAMMA;eDELTA;eEPSILON;eZETA;eETA;eTHETA;eIOTA;eKAPPA;eLAMDA;eMU;eNU;eXI
eOMICRON;ePI;eRHO;eFINAL SIGMA;eSIGMA;eTAU;eUPSILON;ePHI;eCHI;ePSI;eOMEGA;dPARTIAL DIFFERENTIAL
dEPSILON SYMBOL;dTHETA SYMBOL;dKAPPA SYMBOL;dPHI SYMBOL;dRHO SYMBOL;dPI SYMBOL
bSANS-SERIF BOLD CAPITAL ALPHA;eBETA;eGAMMA;eDELTA;eEPSILON;eZETA;eETA;eTHETA;eIOTA;eKAPPA;eLAMDA
eMU;eNU;eXI;eOMICRON;ePI;eRHO;eTHETA SYMBOL;eSIGMA;eTAU;eUPSILON;ePHI;eCHI;ePSI;eOMEGA;dNABLA
dSMALL ALPHA;eBETA;eGAMMA;eDELTA;eEPSILON;eZETA;eETA;eTHETA;eIOTA;eKAPPA;eLAMDA;eMU;eNU;eXI
eOMICRON;ePI;eRHO;eFINAL SIGMA;eSIGMA;eTAU;eUPSILON;ePHI;eCHI;ePSI;eOMEGA;dPARTIAL DIFFERENTIAL
dEPSILON SYMBOL;dTHETA SYMBOL;dKAPPA SYMBOL;dPHI SYMBOL;dRHO SYMBOL;dPI SYMBOL
dITALIC CAPITAL ALPHA;fBETA;fGAMMA;fDELTA;fEPSILON;fZETA;fETA;fTHETA;fIOTA;fKAPPA;fLAMDA;fMU;fNU
fXI;fOMICRON;fPI;fRHO;fTHETA SYMBOL;fSIGMA;fTAU;fUPSILON;fPHI;fCHI;fPSI;fOMEGA;eNABLA;eSMALL ALPHA
fBETA;fGAMMA;fDELTA;fEPSILON;fZETA;fETA;fTHETA;fIOTA;fKAPPA;fLAMDA;fMU;fNU;fXI;fOMICRON;fPI;fRHO
fFINAL SIGMA;fSIGMA;fTAU;fUPSILON;fPHI;fCHI;fPSI;fOMEGA;ePARTIAL DIFFERENTIAL;eEPSILON SYMBOL
eTHETA SYMBOL;eKAPPA SYMBOL;ePHI SYMBOL;eRHO SYMBOL;ePI SYMBOL;bBOLD CAPITAL DIGAMMA;cSMALL DIGAMMA
1D7CE=cDIGIT ZERO;dONE;dTWO;dTHREE;dFOUR;dFIVE;dSIX;dSEVEN;dEIGHT;dNINE;bDOUBLE-STRUCK DIGIT ZERO
dONE;dTWO;dTHREE;dFOUR;dFIVE;dSIX;dSEVEN;dEIGHT;dNINE;bSANS-SERIF DIGIT ZERO;dONE;dTWO;dTHREE;dFOUR
dFIVE;dSIX;dSEVEN;dEIGHT;dNINE;cBOLD DIGIT ZERO;eONE;eTWO;eTHREE;eFOUR;eFIVE;eSIX;eSEVEN;eEIGHT
eNINE;bMONOSPACE DIGIT ZERO;dONE;dTWO;dTHREE;dFOUR;dFIVE;dSIX;dSEVEN;dEIGHT;dNINE
aSIGNWRITING HAND-FIST INDEX;bHAND-CIRCLE INDEX;bHAND-CUP INDEX;bHAND-OVAL INDEX;bHAND-HINGE INDEX
bHAND-ANGLE INDEX;bHAND-FIST INDEX BENT;bHAND-CIRCLE INDEX BENT;bHAND-FIST THUMB UNDER INDEX BENT
cINDEX RAISED KNUCKLE;dCUPPED;dHINGED;eLOW;bHAND-CIRCLE INDEX HINGE;bHAND-FIST INDEX MIDDLE
bHAND-CIRCLE INDEX MIDDLE;bHAND-FIST INDEX MIDDLE BENT;eRAISED KNUCKLES;eHINGED;dUP MIDDLE HINGED
dHINGED MIDDLE UP;dMIDDLE CONJOINED;fINDEX BENT;fMIDDLE BENT;fCUPPED;fHINGED;eCROSSED
bHAND-CIRCLE INDEX MIDDLE CROSSED;bHAND-FIST MIDDLE BENT OVER INDEX;cINDEX BENT OVER MIDDLE
dMIDDLE THUMB;bHAND-CIRCLE INDEX MIDDLE THUMB;bHAND-FIST INDEX MIDDLE STRAIGHT THUMB BENT
eBENT THUMB STRAIGHT;eTHUMB BENT;eHINGED SPREAD THUMB SIDE;dUP MIDDLE HINGED THUMB SIDE;hCONJOINED
dHINGED MIDDLE UP THUMB SIDE;dMIDDLE UP SPREAD THUMB FORWARD;eTHUMB CUPPED;fCIRCLED;fHOOKED;fHINGED
cTHUMB BETWEEN INDEX MIDDLE STRAIGHT;cINDEX MIDDLE CONJOINED THUMB SIDE;hCONJOINED;hBENT
cMIDDLE THUMB HOOKED INDEX UP;cINDEX THUMB HOOKED MIDDLE UP;dMIDDLE CONJOINED HINGED THUMB SIDE
eCROSSED THUMB SIDE;eCONJOINED THUMB FORWARD;fCUPPED THUMB FORWARD;cMIDDLE THUMB CUPPED INDEX UP
cINDEX THUMB CUPPED MIDDLE UP;cMIDDLE THUMB CIRCLED INDEX UP;gHINGED
cINDEX THUMB ANGLED OUT MIDDLE UP;fIN MIDDLE UP;eCIRCLED MIDDLE UP;dMIDDLE THUMB CONJOINED HINGED
fANGLED OUT;g;cMIDDLE THUMB ANGLED OUT INDEX UP;hCROSSED;fINDEX UP
cINDEX THUMB HOOKED MIDDLE HINGED;bHAND-FLAT FOUR FINGERS;eBENT;eHINGED;eCONJOINED;fSPLIT
bHAND-CLAW FOUR FINGERS CONJOINED;bHAND-FIST FOUR FINGERS CONJOINED BENT
bHAND-HINGE FOUR FINGERS CONJOINED;bHAND-FLAT FIVE FINGERS SPREAD;cHEEL FIVE FINGERS SPREAD
cFIVE FINGERS SPREAD FOUR BENT;cHEEL FIVE FINGERS SPREAD FOUR BENT;cFIVE FINGERS SPREAD BENT
cHEEL FIVE FINGERS SPREAD BENT;cFIVE FINGERS SPREAD THUMB FORWARD;bHAND-CUP FIVE FINGERS SPREAD
fOPEN;bHAND-HINGE FIVE FINGERS SPREAD OPEN;bHAND-OVAL FIVE FINGERS SPREAD
bHAND-FLAT FIVE FINGERS SPREAD HINGED;gTHUMB SIDE;gNO THUMB;c;cBETWEEN PALM FACINGS;cHEEL
cTHUMB SIDE;cHEEL THUMB SIDE;cTHUMB BENT;dFORWARD;cSPLIT INDEX THUMB SIDE;dCENTRE;eTHUMB SIDE;gBENT
dLITTLE;bHAND-CLAW;cTHUMB SIDE;cNO THUMB;cTHUMB FORWARD;bHAND-HOOK CURLICUE;c;bHAND-CUP OPEN;c
cOPEN THUMB SIDE;cTHUMB SIDE;cOPEN NO THUMB;cNO THUMB;cOPEN THUMB FORWARD;cTHUMB FORWARD
bHAND-CURLICUE OPEN;c;bHAND-CIRCLE;bHAND-OVAL;cTHUMB SIDE;cNO THUMB;cTHUMB FORWARD;bHAND-HINGE OPEN
dTHUMB FORWARD;c;cSMALL;cOPEN THUMB SIDE;cTHUMB SIDE;cOPEN NO THUMB;cNO THUMB
cTHUMB SIDE TOUCHING INDEX;dBETWEEN MIDDLE RING;bHAND-ANGLE;bHAND-FIST INDEX MIDDLE RING
bHAND-CIRCLE INDEX MIDDLE RING;bHAND-HINGE INDEX MIDDLE RING;bHAND-ANGLE INDEX MIDDLE RING
bHAND-HINGE LITTLE;bHAND-FIST INDEX MIDDLE RING BENT;fCONJOINED
bHAND-HINGE INDEX MIDDLE RING CONJOINED;bHAND-FIST LITTLE DOWN;eRIPPLE STRAIGHT;fCURVED
eOTHERS CIRCLED;dUP;cTHUMB UNDER LITTLE UP;bHAND-CIRCLE LITTLE UP;bHAND-OVAL LITTLE UP
bHAND-ANGLE LITTLE UP;bHAND-FIST LITTLE RAISED KNUCKLE;dBENT;dTOUCHES THUMB;dTHUMB
bHAND-HINGE LITTLE THUMB;bHAND-FIST LITTLE INDEX THUMB;bHAND-HINGE LITTLE INDEX THUMB
bHAND-ANGLE LITTLE INDEX THUMB INDEX THUMB OUT;h;bHAND-FIST LITTLE INDEX;bHAND-CIRCLE LITTLE INDEX
bHAND-HINGE LITTLE INDEX;bHAND-ANGLE LITTLE INDEX;bHAND-FIST INDEX MIDDLE LITTLE
bHAND-CIRCLE INDEX MIDDLE LITTLE;bHAND-HINGE INDEX MIDDLE LITTLE;cRING
bHAND-ANGLE INDEX MIDDLE LITTLE;bHAND-FIST INDEX MIDDLE CROSS LITTLE
bHAND-CIRCLE INDEX MIDDLE CROSS LITTLE;bHAND-FIST RING DOWN
bHAND-HINGE RING DOWN INDEX THUMB HOOK MIDDLE;bHAND-ANGLE RING DOWN MIDDLE THUMB INDEX CROSS
bHAND-FIST RING UP;dRAISED KNUCKLE;dLITTLE;bHAND-CIRCLE RING LITTLE;bHAND-OVAL RING LITTLE
bHAND-ANGLE RING LITTLE;bHAND-FIST RING MIDDLE;eCONJOINED;eRAISED KNUCKLES;dINDEX;dTHUMB
bHAND-HOOK RING THUMB;bHAND-FIST INDEX RING LITTLE;bHAND-CIRCLE INDEX RING LITTLE
bHAND-CURLICUE INDEX RING LITTLE ON;bHAND-HOOK INDEX RING LITTLE OUT;fIN;fUNDER
bHAND-CUP INDEX RING LITTLE;bHAND-HINGE INDEX RING LITTLE;bHAND-ANGLE INDEX RING LITTLE OUT;f
bHAND-FIST MIDDLE DOWN;bHAND-HINGE MIDDLE;bHAND-FIST MIDDLE UP;bHAND-CIRCLE MIDDLE UP
bHAND-FIST MIDDLE RAISED KNUCKLE;dUP THUMB SIDE;bHAND-HOOK MIDDLE THUMB
bHAND-FIST MIDDLE THUMB LITTLE;dLITTLE;dRING LITTLE;bHAND-CIRCLE MIDDLE RING LITTLE
bHAND-CURLICUE MIDDLE RING LITTLE ON;bHAND-CUP MIDDLE RING LITTLE;bHAND-HINGE MIDDLE RING LITTLE
bHAND-ANGLE MIDDLE RING LITTLE OUT;fIN;f;bHAND-CIRCLE MIDDLE RING LITTLE BENT
bHAND-CLAW MIDDLE RING LITTLE CONJOINED;gSIDE;bHAND-HOOK MIDDLE RING LITTLE CONJOINED OUT;gIN;g
bHAND-HINGE INDEX HINGED;bHAND-FIST INDEX THUMB SIDE;bHAND-HINGE INDEX THUMB SIDE
bHAND-FIST INDEX THUMB SIDE THUMB DIAGONAL;gCONJOINED;gBENT;fINDEX BENT;fBOTH BENT;fINDEX HINGE
eFORWARD INDEX STRAIGHT;gBENT;eHOOK;eCURLICUE;eCURVE THUMB INSIDE
bHAND-CLAW INDEX THUMB CURVE THUMB INSIDE;bHAND-FIST INDEX THUMB CURVE THUMB UNDER;eCIRCLE
bHAND-CUP INDEX THUMB;eOPEN;bHAND-HINGE INDEX THUMB OPEN;eLARGE;e;eSMALL
bHAND-ANGLE INDEX THUMB OUT;eIN;e;bHAND-FIST THUMB;dHEEL;dSIDE DIAGONAL;eCONJOINED;eBENT;dFORWARD
dBETWEEN INDEX MIDDLE;eMIDDLE RING;eRING LITTLE;dUNDER TWO FINGERS;dOVER TWO FINGERS
dUNDER THREE FINGERS;eFOUR FINGERS;dOVER FOUR RAISED KNUCKLES;c;cHEEL;bTOUCH SINGLE;cMULTIPLE
cBETWEEN;bGRASP SINGLE;cMULTIPLE;cBETWEEN;bSTRIKE SINGLE;cMULTIPLE;cBETWEEN;bBRUSH SINGLE;cMULTIPLE
cBETWEEN;bRUB SINGLE;cMULTIPLE;cBETWEEN;bSURFACE SYMBOLS;cBETWEEN;bSQUEEZE LARGE SINGLE
cSMALL SINGLE;cLARGE MULTIPLE;cSMALL MULTIPLE;cSEQUENTIAL;bFLICK LARGE SINGLE;cSMALL SINGLE
cLARGE MULTIPLE;cSMALL MULTIPLE;cSEQUENTIAL;bSQUEEZE FLICK ALTERNATING
bMOVEMENT-HINGE UP DOWN LARGE;eSMALL;dSEQUENTIAL;cDOWN SEQUENTIAL;cUP DOWN ALTERNATING LARGE;fSMALL
cSIDE TO SIDE SCISSORS;bMOVEMENT-WALLPLANE FINGER CONTACT;bMOVEMENT-FLOORPLANE FINGER CONTACT
bMOVEMENT-WALLPLANE SINGLE STRAIGHT SMALL;eMEDIUM;eLARGE;eLARGEST;dWRIST FLEX;cDOUBLE STRAIGHT
dWRIST FLEX;dALTERNATING;eWRIST FLEX;cCROSS;cTRIPLE STRAIGHT MOVEMENT;dWRIST FLEX;dALTERNATING
eWRIST FLEX;cBEND SMALL;dMEDIUM;dLARGE;cCORNER SMALL;dMEDIUM;dLARGE;dROTATION;cCHECK SMALL;dMEDIUM
dLARGE;cBOX SMALL;dMEDIUM;dLARGE;cZIGZAG SMALL;dMEDIUM;dLARGE;cPEAKS SMALL;dMEDIUM;dLARGE
bTRAVEL-WALLPLANE ROTATION-WALLPLANE SINGLE;dDOUBLE;dALTERNATING;cROTATION-FLOORPLANE SINGLE
dDOUBLE;dALTERNATING;cSHAKING;cARM SPIRAL SINGLE;eDOUBLE;eTRIPLE;bMOVEMENT-DIAGONAL AWAY SMALL
dMEDIUM;dLARGE;dLARGEST;cTOWARDS SMALL;dMEDIUM;dLARGE;dLARGEST;cBETWEEN AWAY SMALL;eMEDIUM;eLARGE
eLARGEST;dTOWARDS SMALL;eMEDIUM;eLARGE;eLARGEST;bMOVEMENT-FLOORPLANE SINGLE STRAIGHT SMALL;eMEDIUM
eLARGE;eLARGEST;dWRIST FLEX;cDOUBLE STRAIGHT;dWRIST FLEX;dALTERNATING;eWRIST FLEX;cCROSS
cTRIPLE STRAIGHT MOVEMENT;dWRIST FLEX;dALTERNATING MOVEMENT;eWRIST FLEX;cBEND;cCORNER SMALL;dMEDIUM
dLARGE;cCHECK;cBOX SMALL;dMEDIUM;dLARGE;cZIGZAG SMALL;dMEDIUM;dLARGE;cPEAKS SMALL;dMEDIUM;dLARGE
bTRAVEL-FLOORPLANE ROTATION-FLOORPLANE SINGLE;dDOUBLE;dALTERNATING;cROTATION-WALLPLANE SINGLE
dDOUBLE;dALTERNATING;cSHAKING;bMOVEMENT-WALLPLANE CURVE QUARTER SMALL;eMEDIUM;eLARGE;eLARGEST
dHALF-CIRCLE SMALL;eMEDIUM;eLARGE;eLARGEST;dTHREE-QUARTER CIRCLE SMALL;fMEDIUM;cHUMP SMALL;dMEDIUM
dLARGE;cLOOP SMALL;dMEDIUM;dLARGE;dSMALL DOUBLE;cWAVE CURVE DOUBLE SMALL;fMEDIUM;fLARGE
eTRIPLE SMALL;fMEDIUM;fLARGE;cCURVE THEN STRAIGHT;cCURVED CROSS SMALL;eMEDIUM
bROTATION-WALLPLANE SINGLE;cDOUBLE;cALTERNATE;bMOVEMENT-WALLPLANE SHAKING;cCURVE HITTING FRONT WALL
cHUMP HITTING FRONT WALL;cLOOP HITTING FRONT WALL;cWAVE HITTING FRONT WALL
bROTATION-WALLPLANE SINGLE HITTING FRONT WALL;cDOUBLE HITTING FRONT WALL
cALTERNATING HITTING FRONT WALL;bMOVEMENT-WALLPLANE CURVE HITTING CHEST;cHUMP HITTING CHEST
cLOOP HITTING CHEST;cWAVE HITTING CHEST;bROTATION-WALLPLANE SINGLE HITTING CHEST
cDOUBLE HITTING CHEST;cALTERNATING HITTING CHEST;bMOVEMENT-WALLPLANE WAVE DIAGONAL PATH SMALL
fMEDIUM;fLARGE;bMOVEMENT-FLOORPLANE CURVE HITTING CEILING SMALL;fLARGE
cHUMP HITTING CEILING SMALL DOUBLE;fLARGE DOUBLE;fSMALL TRIPLE;fLARGE TRIPLE
cLOOP HITTING CEILING SMALL SINGLE;fLARGE SINGLE;fSMALL DOUBLE;fLARGE DOUBLE
cWAVE HITTING CEILING SMALL;fLARGE;bROTATION-FLOORPLANE SINGLE HITTING CEILING
cDOUBLE HITTING CEILING;cALTERNATING HITTING CEILING;bMOVEMENT-FLOORPLANE CURVE HITTING FLOOR SMALL
fLARGE;cHUMP HITTING FLOOR SMALL DOUBLE;fLARGE DOUBLE;fTRIPLE SMALL TRIPLE;gLARGE TRIPLE
cLOOP HITTING FLOOR SMALL SINGLE;fLARGE SINGLE;fSMALL DOUBLE;fLARGE DOUBLE
cWAVE HITTING FLOOR SMALL;fLARGE;bROTATION-FLOORPLANE SINGLE HITTING FLOOR;cDOUBLE HITTING FLOOR
cALTERNATING HITTING FLOOR;bMOVEMENT-FLOORPLANE CURVE SMALL;dMEDIUM;dLARGE;dLARGEST;dCOMBINED
cHUMP SMALL;cLOOP SMALL;cWAVE SNAKE;dSMALL;dLARGE;bROTATION-FLOORPLANE SINGLE;cDOUBLE;cALTERNATING
bMOVEMENT-FLOORPLANE SHAKING PARALLEL;bMOVEMENT-WALLPLANE ARM CIRCLE SMALL SINGLE;eMEDIUM SINGLE
eSMALL DOUBLE;eMEDIUM DOUBLE;bMOVEMENT-FLOORPLANE ARM CIRCLE HITTING WALL SMALL SINGLE
gMEDIUM SINGLE;gLARGE SINGLE;gSMALL DOUBLE;gMEDIUM DOUBLE;gLARGE DOUBLE
bMOVEMENT-WALLPLANE WRIST CIRCLE FRONT SINGLE;fDOUBLE
bMOVEMENT-FLOORPLANE WRIST CIRCLE HITTING WALL SINGLE;gDOUBLE
bMOVEMENT-WALLPLANE FINGER CIRCLES SINGLE;eDOUBLE
bMOVEMENT-FLOORPLANE FINGER CIRCLES HITTING WALL SINGLE;gDOUBLE;bDYNAMIC ARROWHEAD SMALL;dLARGE
cFAST;cSLOW;cTENSE;cRELAXED;cSIMULTANEOUS;dALTERNATING;cEVERY OTHER TIME;cGRADUAL;bHEAD;cRIM
cMOVEMENT-WALLPLANE STRAIGHT;dTILT;cMOVEMENT-FLOORPLANE STRAIGHT;cMOVEMENT-WALLPLANE CURVE
cMOVEMENT-FLOORPLANE CURVE;cMOVEMENT CIRCLE;bFACE DIRECTION POSITION NOSE FORWARD TILTING
fUP OR DOWN;iTILTING;bEYEBROWS STRAIGHT UP;dNEUTRAL;dDOWN;bDREAMY EYEBROWS NEUTRAL DOWN
dDOWN NEUTRAL;dUP NEUTRAL;dNEUTRAL UP;bFOREHEAD NEUTRAL;cCONTACT;cWRINKLED;bEYES OPEN;cSQUEEZED
cCLOSED;bEYE BLINK SINGLE;dMULTIPLE;bEYES HALF OPEN;cWIDE OPEN;cHALF CLOSED;cWIDENING MOVEMENT
bEYE WINK;bEYELASHES UP;cDOWN;cFLUTTERING;bEYEGAZE-WALLPLANE STRAIGHT;dDOUBLE;dALTERNATING
bEYEGAZE-FLOORPLANE STRAIGHT;dDOUBLE;dALTERNATING;bEYEGAZE-WALLPLANE CURVED
bEYEGAZE-FLOORPLANE CURVED;bEYEGAZE-WALLPLANE CIRCLING;bCHEEKS PUFFED;cNEUTRAL;cSUCKED
bTENSE CHEEKS HIGH;dMIDDLE;dLOW;bEARS;bNOSE NEUTRAL;cCONTACT;cWRINKLES;cWIGGLES;bAIR BLOWING OUT
cSUCKING IN;cBLOW SMALL ROTATIONS;cSUCK SMALL ROTATIONS;bBREATH INHALE;cEXHALE
bMOUTH CLOSED NEUTRAL;dFORWARD;dCONTACT;cSMILE;dWRINKLED;dOPEN;cFROWN;dWRINKLED;dOPEN;cOPEN CIRCLE
dFORWARD;dWRINKLED;dOVAL;eWRINKLED;eYAWN;dRECTANGLE;eWRINKLED;eYAWN;cKISS;dFORWARD;dWRINKLED;cTENSE
dFORWARD;dSUCKED;bLIPS PRESSED TOGETHER;bLIP LOWER OVER UPPER;cUPPER OVER LOWER;bMOUTH CORNERS
cWRINKLES SINGLE;dDOUBLE;bTONGUE STICKING OUT FAR;cLICKING LIPS;cTIP BETWEEN LIPS
dTOUCHING INSIDE MOUTH;cINSIDE MOUTH RELAXED;cMOVES AGAINST CHEEK;cCENTRE STICKING OUT
dINSIDE MOUTH;bTEETH;cMOVEMENT;cON TONGUE;eMOVEMENT;dLIPS;eMOVEMENT;cBITE LIPS
bMOVEMENT-WALLPLANE JAW;bMOVEMENT-FLOORPLANE JAW;bNECK;bHAIR;bEXCITEMENT;bSHOULDER HIP SPINE
dPOSITIONS;bWALLPLANE SHOULDER HIP MOVE;bFLOORPLANE SHOULDER HIP MOVE;bSHOULDER TILTING FROM WAIST
bTORSO-WALLPLANE STRAIGHT STRETCH;cCURVED BEND;bTORSO-FLOORPLANE TWISTING
bUPPER BODY TILTING FROM HIP JOINTS;bLIMB COMBINATION;cLENGTH-1;cLENGTH-2;cLENGTH-3;cLENGTH-4
cLENGTH-5;cLENGTH-6;cLENGTH-7;bFINGER;bLOCATION-WALLPLANE SPACE;bLOCATION-FLOORPLANE SPACE
bLOCATION HEIGHT;cWIDTH;cDEPTH;cHEAD NECK;cTORSO;cLIMBS DIGITS;bCOMMA;bFULL STOP;bSEMICOLON;bCOLON
bPARENTHESIS;1DA9B=bFILL MODIFIER-2;cMODIFIER-3;cMODIFIER-4;cMODIFIER-5;cMODIFIER-6
1DAA1=bROTATION MODIFIER-2;cMODIFIER-3;cMODIFIER-4;cMODIFIER-5;cMODIFIER-6;cMODIFIER-7;cMODIFIER-8
cMODIFIER-9;cMODIFIER-10;cMODIFIER-11;cMODIFIER-12;cMODIFIER-13;cMODIFIER-14;cMODIFIER-15
cMODIFIER-16;1DF00=aLATIN SMALL LETTER FENG DIGRAPH WITH TRILL;dREVERSED SCRIPT G
bLETTER SMALL CAPITAL TURNED G;bSMALL LETTER REVERSED K;bLETTER SMALL CAPITAL L WITH BELT
bSMALL LETTER LEZH WITH RETROFLEX HOOK;dTURNED Y WITH BELT;dREVERSED ENG
dTURNED R WITH LONG LEG AND RETROFLEX HOOK;dT WITH HOOK AND RETROFLEX HOOK
bLETTER RETROFLEX CLICK WITH RETROFLEX HOOK;bSMALL LETTER ESH WITH DOUBLE BAR;hAND CURL
dTURNED T WITH CURL;bLETTER INVERTED GLOTTAL STOP WITH CURL;cSTRETCHED C WITH CURL
cSMALL CAPITAL TURNED K;bSMALL LETTER L WITH FISHHOOK;dDEZH DIGRAPH WITH PALATAL HOOK
dL WITH BELT AND PALATAL HOOK;dENG WITH PALATAL HOOK;dTURNED R WITH PALATAL HOOK
dR WITH FISHHOOK AND PALATAL HOOK;dTESH DIGRAPH WITH PALATAL HOOK;dEZH WITH PALATAL HOOK
dDEZH DIGRAPH WITH RETROFLEX HOOK;dI WITH STROKE AND RETROFLEX HOOK;dO WITH RETROFLEX HOOK
dTESH DIGRAPH WITH RETROFLEX HOOK;dC WITH RETROFLEX HOOK;dS WITH CURL
1E000=aCOMBINING GLAGOLITIC LETTER AZU;dBUKY;dVEDE;dGLAGOLI;dDOBRO;dYESTU;dZHIVETE;1E008=dZEMLJA
dIZHE;dINITIAL IZHE;dI;dDJERVI;dKAKO;dLJUDIJE;dMYSLITE;dNASHI;dONU;dPOKOJI;dRITSI;dSLOVO;dTVRIDO
dUKU;dFRITU;dHERU;1E01B=dSHTA;dTSI;dCHRIVI;dSHA;dYERU;dYERI;dYATI;1E023=dYU;dSMALL YUS;1E026=dYO
dIOTATED SMALL YUS;dBIG YUS;dIOTATED BIG YUS;dFITA;1E100=aNYIAKENG PUACHUE HMONG LETTER MA;eTSA
eNTA;eTA;eHA;eNA;eXA;eNKA;eCA;eLA;eSA;eZA;eNCA;eNTSA;eKA;eDA;eNYA;eNRA;eVA;eNTXA;eTXA;eFA;eRA;eQA
eYA;eNQA;ePA;eXYA;eNPA;eDLA;eNPLA;eHAH;eMLA;ePLA;eGA;eRRA;eA;eAA;eI;eU;eO;eOO;eE;eEE;eW
1E130=dTONE-B;dTONE-M;dTONE-J;dTONE-V;dTONE-S;dTONE-G;dTONE-D;dSIGN FOR PERSON;fTHING;fLOCATION
fANIMAL;fINVERTEBRATE;eXW XW;dSYLLABLE LENGTHENER;1E140=dDIGIT ZERO;eONE;eTWO;eTHREE;eFOUR;eFIVE
eSIX;eSEVEN;eEIGHT;eNINE;1E14E=dLOGOGRAM NYAJ;dCIRCLED CA;1E290=aTOTO LETTER PA;cBA;cTA;cDA;cKA;cGA
cMA;cNA;cNGA;cSA;cCHA;cYA;cWA;cJA;cHA;cRA;cLA;cI;cBREATHY I;cIU;cBREATHY IU;cU;cE;cBREATHY E;cEO
cBREATHY EO;cO;cAE;cBREATHY AE;cA;bSIGN RISING TONE;1E2C0=aWANCHO LETTER AA;cA;cBA;cCA;cDA;cGA;cYA
cPHA;cLA;cNA;cPA;cTA;cTHA;cFA;cSA;cSHA;cJA;cZA;cWA;cVA;cKA;cO;cAU;cRA;cMA;cKHA;cHA;cE;cI;cNGA;cU
cLLHA;cTSA;cTRA;cONG;cAANG;cANG;cING;cON;cEN;cAAN;cNYA;cUEN;cYIH;bTONE TUP;cTUPNI;cKOI;cKOINI
bDIGIT ZERO;cONE;cTWO;cTHREE;cFOUR;cFIVE;cSIX;cSEVEN;cEIGHT;cNINE;1E2FF=bNGUN SIGN
1E7E0=aETHIOPIC SYLLABLE HHYA;cHHYU;cHHYI;cHHYAA;cHHYEE;cHHYE;cHHYO;1E7E8=cGURAGE HHWA;cHHWI;cHHWEE
cHHWE;1E7ED=cGURAGE MWI;dMWEE;1E7F0=dQWI;dQWEE;dQWE;dBWI;dBWEE;dKWI;dKWEE;dKWE;dGWI;dGWEE;dGWE;dFWI
dFWEE;dPWI;dPWEE;1E800=aMENDE KIKAKUI SYLLABLE M001 KI;dM002 KA;dM003 KU;dM065 KEE;dM095 KE
dM076 KOO;dM048 KO;dM179 KUA;dM004 WI;dM005 WA;dM006 WU;dM126 WEE;dM118 WE;dM114 WOO;dM045 WO
dM194 WUI;dM143 WEI;dM061 WVI;dM049 WVA;dM139 WVE;dM007 MIN;dM008 MAN;dM009 MUN;dM059 MEN;dM094 MON
dM154 MUAN;dM189 MUEN;dM010 BI;dM011 BA;dM012 BU;dM150 BEE;dM097 BE;dM103 BOO;dM138 BO;dM013 I
dM014 A;dM015 U;dM163 EE;dM100 E;dM165 OO;dM147 O;dM137 EI;dM131 IN;dM135 IN;dM195 AN;dM178 EN
dM019 SI;dM020 SA;dM021 SU;dM162 SEE;dM116 SE;dM136 SOO;dM079 SO;dM196 SIA;dM025 LI;dM026 LA
dM027 LU;dM084 LEE;dM073 LE;dM054 LOO;dM153 LO;dM110 LONG LE;dM016 DI;dM017 DA;dM018 DU;dM089 DEE
dM180 DOO;dM181 DO;dM022 TI;dM023 TA;dM024 TU;dM091 TEE;dM055 TE;dM104 TOO;dM069 TO;dM028 JI
dM029 JA;dM030 JU;dM157 JEE;dM113 JE;dM160 JOO;dM063 JO;dM175 LONG JO;dM031 YI;dM032 YA;dM033 YU
dM109 YEE;dM080 YE;dM141 YOO;dM121 YO;dM034 FI;dM035 FA;dM036 FU;dM078 FEE;dM075 FE;dM133 FOO
dM088 FO;dM197 FUA;dM101 FAN;dM037 NIN;dM038 NAN;dM039 NUN;dM117 NEN;dM169 NON;dM176 HI;dM041 HA
dM186 HU;dM040 HEE;dM096 HE;dM042 HOO;dM140 HO;dM083 HEEI;dM128 HOOU;dM053 HIN;dM130 HAN;dM087 HUN
dM052 HEN;dM193 HON;dM046 HUAN;dM090 NGGI;dM043 NGGA;dM082 NGGU;dM115 NGGEE;dM146 NGGE;dM156 NGGOO
dM120 NGGO;dM159 NGGAA;dM127 NGGUA;dM086 LONG NGGE;dM106 LONG NGGOO;dM183 LONG NGGO;dM155 GI
dM111 GA;dM168 GU;dM190 GEE;dM166 GUEI;dM167 GUAN;dM184 NGEN;dM057 NGON;dM177 NGUAN;dM068 PI
dM099 PA;dM050 PU;dM081 PEE;dM051 PE;dM102 POO;dM066 PO;dM145 MBI;dM062 MBA;dM122 MBU;dM047 MBEE
dM188 MBEE;dM072 MBE;dM172 MBOO;dM174 MBO;dM187 MBUU;dM161 LONG MBE;dM105 LONG MBOO;dM142 LONG MBO
dM132 KPI;dM092 KPA;dM074 KPU;dM044 KPEE;dM108 KPE;dM112 KPOO;dM158 KPO;dM124 GBI;dM056 GBA
dM148 GBU;dM093 GBEE;dM107 GBE;dM071 GBOO;dM070 GBO;dM171 RA;dM123 NDI;dM129 NDA;dM125 NDU
dM191 NDEE;dM119 NDE;dM067 NDOO;dM064 NDO;dM152 NJA;dM192 NJU;dM149 NJEE;dM134 NJOO;dM182 VI
dM185 VA;dM151 VU;dM173 VEE;dM085 VE;dM144 VOO;dM077 VO;dM164 NYIN;dM058 NYAN;dM170 NYUN;dM098 NYEN
dM060 NYON;1E8C7=cDIGIT ONE;dTWO;dTHREE;dFOUR;dFIVE;dSIX;dSEVEN;dEIGHT;dNINE
cCOMBINING NUMBER TEENS;eTENS;eHUNDREDS;eTHOUSANDS;eTEN THOUSANDS;eHUNDRED THOUSANDS;eMILLIONS
1E900=aADLAM CAPITAL LETTER ALIF;dDAALI;dLAAM;dMIIM;dBA;dSINNYIIYHE;dPE;dBHE;dRA;dE;dFA;dI;dO;dDHA
dYHE;dWAW;dNUN;dKAF;dYA;dU;dJIIM;dCHI;dHA;dQAAF;dGA;dNYA;dTU;dNHA;dVA;dKHA;dGBE;dZAL;dKPO;dSHA
bSMALL LETTER ALIF;dDAALI;dLAAM;dMIIM;dBA;dSINNYIIYHE;dPE;dBHE;dRA;dE;dFA;dI;dO;dDHA;dYHE;dWAW;dNUN
dKAF;dYA;dU;dJIIM;dCHI;dHA;dQAAF;dGA;dNYA;dTU;dNHA;dVA;dKHA;dGBE;dZAL;dKPO;dSHA;bALIF LENGTHENER
bVOWEL LENGTHENER;bGEMINATION MARK;bHAMZA;bCONSONANT MODIFIER;bGEMINATE CONSONANT MODIFIER;bNUKTA
bNASALIZATION MARK;1E950=bDIGIT ZERO;cONE;cTWO;cTHREE;cFOUR;cFIVE;cSIX;cSEVEN;cEIGHT;cNINE
1E95E=bINITIAL EXCLAMATION MARK;cQUESTION MARK;1EC71=aINDIC SIYAQ NUMBER ONE;dTWO;dTHREE;dFOUR
dFIVE;dSIX;dSEVEN;dEIGHT;dNINE;dTEN;dTWENTY;dTHIRTY;dFORTY;dFIFTY;dSIXTY;dSEVENTY;dEIGHTY;dNINETY
dONE HUNDRED;dTWO HUNDRED;dTHREE HUNDRED;dFOUR HUNDRED;dFIVE HUNDRED;dSIX HUNDRED;dSEVEN HUNDRED
dEIGHT HUNDRED;dNINE HUNDRED;dONE THOUSAND;dTWO THOUSAND;dTHREE THOUSAND;dFOUR THOUSAND
dFIVE THOUSAND;dSIX THOUSAND;dSEVEN THOUSAND;dEIGHT THOUSAND;dNINE THOUSAND;dTEN THOUSAND
dTWENTY THOUSAND;dTHIRTY THOUSAND;dFORTY THOUSAND;dFIFTY THOUSAND;dSIXTY THOUSAND;dSEVENTY THOUSAND
dEIGHTY THOUSAND;dNINETY THOUSAND;dLAKH;dLAKHAN;cLAKH MARK;cNUMBER KAROR;dKARORAN;dPREFIXED ONE
eTWO;eTHREE;eFOUR;eFIVE;eSIX;eSEVEN;eEIGHT;eNINE;cPLACEHOLDER;cFRACTION ONE QUARTER;eHALF
dTHREE QUARTERS;cRUPEE MARK;cNUMBER ALTERNATE ONE;eTWO;eTEN THOUSAND;cALTERNATE LAKH MARK
1ED01=aOTTOMAN SIYAQ NUMBER ONE;dTWO;dTHREE;dFOUR;dFIVE;dSIX;dSEVEN;dEIGHT;dNINE;dTEN;dTWENTY
dTHIRTY;dFORTY;dFIFTY;dSIXTY;dSEVENTY;dEIGHTY;dNINETY;dONE HUNDRED;dTWO HUNDRED;dTHREE HUNDRED
dFOUR HUNDRED;dFIVE HUNDRED;dSIX HUNDRED;dSEVEN HUNDRED;dEIGHT HUNDRED;dNINE HUNDRED;dONE THOUSAND
dTWO THOUSAND;dTHREE THOUSAND;dFOUR THOUSAND;dFIVE THOUSAND;dSIX THOUSAND;dSEVEN THOUSAND
dEIGHT THOUSAND;dNINE THOUSAND;dTEN THOUSAND;dTWENTY THOUSAND;dTHIRTY THOUSAND;dFORTY THOUSAND
dFIFTY THOUSAND;dSIXTY THOUSAND;dSEVENTY THOUSAND;dEIGHTY THOUSAND;dNINETY THOUSAND;cMARRATAN
cALTERNATE NUMBER TWO;eTHREE;eFOUR;eFIVE;eSIX;eSEVEN;eEIGHT;eNINE;eTEN;eFOUR HUNDRED;eSIX HUNDRED
eTWO THOUSAND;eTEN THOUSAND;cFRACTION ONE HALF;eSIXTH;1EE00=aARABIC MATHEMATICAL ALEF;cBEH;cJEEM
cDAL;1EE05=cWAW;cZAIN;cHAH;cTAH;cYEH;cKAF;cLAM;cMEEM;cNOON;cSEEN;cAIN;cFEH;cSAD;cQAF;cREH;cSHEEN
cTEH;cTHEH;cKHAH;cTHAL;cDAD;cZAH;cGHAIN;cDOTLESS BEH;dNOON;dFEH;dQAF;1EE21=cINITIAL BEH;dJEEM
1EE24=dHEH;1EE27=dHAH;1EE29=dYEH;dKAF;dLAM;dMEEM;dNOON;dSEEN;dAIN;dFEH;dSAD;dQAF;1EE34=dSHEEN;dTEH
dTHEH;dKHAH;1EE39=dDAD;1EE3B=dGHAIN;1EE42=cTAILED JEEM;1EE47=dHAH;1EE49=dYEH;1EE4B=dLAM;1EE4D=dNOON
dSEEN;dAIN;1EE51=dSAD;dQAF;1EE54=dSHEEN;1EE57=dKHAH;1EE59=dDAD;1EE5B=dGHAIN;1EE5D=dDOTLESS NOON
1EE5F=eQAF;1EE61=cSTRETCHED BEH;dJEEM;1EE64=dHEH;1EE67=dHAH;dTAH;dYEH;dKAF;1EE6C=dMEEM;dNOON;dSEEN
dAIN;dFEH;dSAD;dQAF;1EE74=dSHEEN;dTEH;dTHEH;dKHAH;1EE79=dDAD;dZAH;dGHAIN;dDOTLESS BEH;1EE7E=eFEH
1EE80=cLOOPED ALEF;dBEH;dJEEM;dDAL;dHEH;dWAW;dZAIN;dHAH;dTAH;dYEH;1EE8B=dLAM;dMEEM;dNOON;dSEEN;dAIN
dFEH;dSAD;dQAF;dREH;dSHEEN;dTEH;dTHEH;dKHAH;dTHAL;dDAD;dZAH;dGHAIN;1EEA1=cDOUBLE-STRUCK BEH;dJEEM
dDAL;1EEA5=dWAW;dZAIN;dHAH;dTAH;dYEH;1EEAB=dLAM;dMEEM;dNOON;dSEEN;dAIN;dFEH;dSAD;dQAF;dREH;dSHEEN
dTEH;dTHEH;dKHAH;dTHAL;dDAD;dZAH;dGHAIN;1EEF0=cOPERATOR MEEM WITH HAH WITH TATWEEL;dHAH WITH DAL"

end HabitLens.Text.Names
