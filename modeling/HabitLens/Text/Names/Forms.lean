/-!
Names of variant forms of characters.
-/

namespace HabitLens.Text.Names

def forms : String :=
  "D7B0=aHANGUL JUNGSEONG O-YEO;cO-O-I;cYO-A;cYO-AE;cYO-EO;cU-YEO;cU-I-I;cYU-AE;cYU-O;cEU-A;cEU-EO
cEU-E;cEU-O;cI-YA-O;cI-YAE;cI-YEO;cI-YE;cI-O-I;cI-YO;cI-YU;cI-I;cARAEA-A;cARAEA-E
D7CB=bJONGSEONG NIEUN-RIEUL;cNIEUN-CHIEUCH;cSSANGTIKEUT;cSSANGTIKEUT-PIEUP;cTIKEUT-PIEUP
cTIKEUT-SIOS;cTIKEUT-SIOS-KIYEOK;cTIKEUT-CIEUC;cTIKEUT-CHIEUCH;cTIKEUT-THIEUTH;cRIEUL-SSANGKIYEOK
cRIEUL-KIYEOK-HIEUH;cSSANGRIEUL-KHIEUKH;cRIEUL-MIEUM-HIEUH;cRIEUL-PIEUP-TIKEUT;cRIEUL-PIEUP-PHIEUPH
cRIEUL-YESIEUNG;cRIEUL-YEORINHIEUH-HIEUH;cKAPYEOUNRIEUL;cMIEUM-NIEUN;cMIEUM-SSANGNIEUN;cSSANGMIEUM
cMIEUM-PIEUP-SIOS;cMIEUM-CIEUC;cPIEUP-TIKEUT;cPIEUP-RIEUL-PHIEUPH;cPIEUP-MIEUM;cSSANGPIEUP
cPIEUP-SIOS-TIKEUT;cPIEUP-CIEUC;cPIEUP-CHIEUCH;cSIOS-MIEUM;cSIOS-KAPYEOUNPIEUP;cSSANGSIOS-KIYEOK
cSSANGSIOS-TIKEUT;cSIOS-PANSIOS;cSIOS-CIEUC;cSIOS-CHIEUCH;cSIOS-THIEUTH;cSIOS-HIEUH;cPANSIOS-PIEUP
cPANSIOS-KAPYEOUNPIEUP;cYESIEUNG-MIEUM;cYESIEUNG-HIEUH;cCIEUC-PIEUP;cCIEUC-SSANGPIEUP;cSSANGCIEUC
cPHIEUPH-SIOS;cPHIEUPH-THIEUTH;F900=aCJK COMPATIBILITY IDEOGRAPH-F900;cIDEOGRAPH-F901
cIDEOGRAPH-F902;cIDEOGRAPH-F903;cIDEOGRAPH-F904;cIDEOGRAPH-F905;cIDEOGRAPH-F906;cIDEOGRAPH-F907
cIDEOGRAPH-F908;cIDEOGRAPH-F909;cIDEOGRAPH-F90A;cIDEOGRAPH-F90B;cIDEOGRAPH-F90C;cIDEOGRAPH-F90D
cIDEOGRAPH-F90E;cIDEOGRAPH-F90F;cIDEOGRAPH-F910;cIDEOGRAPH-F911;cIDEOGRAPH-F912;cIDEOGRAPH-F913
cIDEOGRAPH-F914;cIDEOGRAPH-F915;cIDEOGRAPH-F916;cIDEOGRAPH-F917;cIDEOGRAPH-F918;cIDEOGRAPH-F919
cIDEOGRAPH-F91A;cIDEOGRAPH-F91B;cIDEOGRAPH-F91C;cIDEOGRAPH-F91D;cIDEOGRAPH-F91E;cIDEOGRAPH-F91F
cIDEOGRAPH-F920;cIDEOGRAPH-F921;cIDEOGRAPH-F922;cIDEOGRAPH-F923;cIDEOGRAPH-F924;cIDEOGRAPH-F925
cIDEOGRAPH-F926;cIDEOGRAPH-F927;cIDEOGRAPH-F928;cIDEOGRAPH-F929;cIDEOGRAPH-F92A;cIDEOGRAPH-F92B
cIDEOGRAPH-F92C;cIDEOGRAPH-F92D;cIDEOGRAPH-F92E;cIDEOGRAPH-F92F;cIDEOGRAPH-F930;cIDEOGRAPH-F931
cIDEOGRAPH-F932;cIDEOGRAPH-F933;cIDEOGRAPH-F934;cIDEOGRAPH-F935;cIDEOGRAPH-F936;cIDEOGRAPH-F937
cIDEOGRAPH-F938;cIDEOGRAPH-F939;cIDEOGRAPH-F93A;cIDEOGRAPH-F93B;cIDEOGRAPH-F93C;cIDEOGRAPH-F93D
cIDEOGRAPH-F93E;cIDEOGRAPH-F93F;cIDEOGRAPH-F940;cIDEOGRAPH-F941;cIDEOGRAPH-F942;cIDEOGRAPH-F943
cIDEOGRAPH-F944;cIDEOGRAPH-F945;cIDEOGRAPH-F946;cIDEOGRAPH-F947;cIDEOGRAPH-F948;cIDEOGRAPH-F949
cIDEOGRAPH-F94A;cIDEOGRAPH-F94B;cIDEOGRAPH-F94C;cIDEOGRAPH-F94D;cIDEOGRAPH-F94E;cIDEOGRAPH-F94F
cIDEOGRAPH-F950;cIDEOGRAPH-F951;cIDEOGRAPH-F952;cIDEOGRAPH-F953;cIDEOGRAPH-F954;cIDEOGRAPH-F955
cIDEOGRAPH-F956;cIDEOGRAPH-F957;cIDEOGRAPH-F958;cIDEOGRAPH-F959;cIDEOGRAPH-F95A;cIDEOGRAPH-F95B
cIDEOGRAPH-F95C;cIDEOGRAPH-F95D;cIDEOGRAPH-F95E;cIDEOGRAPH-F95F;cIDEOGRAPH-F960;cIDEOGRAPH-F961
cIDEOGRAPH-F962;cIDEOGRAPH-F963;cIDEOGRAPH-F964;cIDEOGRAPH-F965;cIDEOGRAPH-F966;cIDEOGRAPH-F967
cIDEOGRAPH-F968;cIDEOGRAPH-F969;cIDEOGRAPH-F96A;cIDEOGRAPH-F96B;cIDEOGRAPH-F96C;cIDEOGRAPH-F96D
cIDEOGRAPH-F96E;cIDEOGRAPH-F96F;cIDEOGRAPH-F970;cIDEOGRAPH-F971;cIDEOGRAPH-F972;cIDEOGRAPH-F973
cIDEOGRAPH-F974;cIDEOGRAPH-F975;cIDEOGRAPH-F976;cIDEOGRAPH-F977;cIDEOGRAPH-F978;cIDEOGRAPH-F979
cIDEOGRAPH-F97A;cIDEOGRAPH-F97B;cIDEOGRAPH-F97C;cIDEOGRAPH-F97D;cIDEOGRAPH-F97E;cIDEOGRAPH-F97F
cIDEOGRAPH-F980;cIDEOGRAPH-F981;cIDEOGRAPH-F982;cIDEOGRAPH-F983;cIDEOGRAPH-F984;cIDEOGRAPH-F985
cIDEOGRAPH-F986;cIDEOGRAPH-F987;cIDEOGRAPH-F988;cIDEOGRAPH-F989;cIDEOGRAPH-F98A;cIDEOGRAPH-F98B
cIDEOGRAPH-F98C;cIDEOGRAPH-F98D;cIDEOGRAPH-F98E;cIDEOGRAPH-F98F;cIDEOGRAPH-F990;cIDEOGRAPH-F991
cIDEOGRAPH-F992;cIDEOGRAPH-F993;cIDEOGRAPH-F994;cIDEOGRAPH-F995;cIDEOGRAPH-F996;cIDEOGRAPH-F997
cIDEOGRAPH-F998;cIDEOGRAPH-F999;cIDEOGRAPH-F99A;cIDEOGRAPH-F99B;cIDEOGRAPH-F99C;cIDEOGRAPH-F99D
cIDEOGRAPH-F99E;cIDEOGRAPH-F99F;cIDEOGRAPH-F9A0;cIDEOGRAPH-F9A1;cIDEOGRAPH-F9A2;cIDEOGRAPH-F9A3
cIDEOGRAPH-F9A4;cIDEOGRAPH-F9A5;cIDEOGRAPH-F9A6;cIDEOGRAPH-F9A7;cIDEOGRAPH-F9A8;cIDEOGRAPH-F9A9
cIDEOGRAPH-F9AA;cIDEOGRAPH-F9AB;cIDEOGRAPH-F9AC;cIDEOGRAPH-F9AD;cIDEOGRAPH-F9AE;cIDEOGRAPH-F9AF
cIDEOGRAPH-F9B0;cIDEOGRAPH-F9B1;cIDEOGRAPH-F9B2;cIDEOGRAPH-F9B3;cIDEOGRAPH-F9B4;cIDEOGRAPH-F9B5
cIDEOGRAPH-F9B6;cIDEOGRAPH-F9B7;cIDEOGRAPH-F9B8;cIDEOGRAPH-F9B9;cIDEOGRAPH-F9BA;cIDEOGRAPH-F9BB
cIDEOGRAPH-F9BC;cIDEOGRAPH-F9BD;cIDEOGRAPH-F9BE;cIDEOGRAPH-F9BF;cIDEOGRAPH-F9C0;cIDEOGRAPH-F9C1
cIDEOGRAPH-F9C2;cIDEOGRAPH-F9C3;cIDEOGRAPH-F9C4;cIDEOGRAPH-F9C5;cIDEOGRAPH-F9C6;cIDEOGRAPH-F9C7
cIDEOGRAPH-F9C8;cIDEOGRAPH-F9C9;cIDEOGRAPH-F9CA;cIDEOGRAPH-F9CB;cIDEOGRAPH-F9CC;cIDEOGRAPH-F9CD
cIDEOGRAPH-F9CE;cIDEOGRAPH-F9CF;cIDEOGRAPH-F9D0;cIDEOGRAPH-F9D1;cIDEOGRAPH-F9D2;cIDEOGRAPH-F9D3
cIDEOGRAPH-F9D4;cIDEOGRAPH-F9D5;cIDEOGRAPH-F9D6;cIDEOGRAPH-F9D7;cIDEOGRAPH-F9D8;cIDEOGRAPH-F9D9
cIDEOGRAPH-F9DA;cIDEOGRAPH-F9DB;cIDEOGRAPH-F9DC;cIDEOGRAPH-F9DD;cIDEOGRAPH-F9DE;cIDEOGRAPH-F9DF
cIDEOGRAPH-F9E0;cIDEOGRAPH-F9E1;cIDEOGRAPH-F9E2;cIDEOGRAPH-F9E3;cIDEOGRAPH-F9E4;cIDEOGRAPH-F9E5
cIDEOGRAPH-F9E6;cIDEOGRAPH-F9E7;cIDEOGRAPH-F9E8;cIDEOGRAPH-F9E9;cIDEOGRAPH-F9EA;cIDEOGRAPH-F9EB
cIDEOGRAPH-F9EC;cIDEOGRAPH-F9ED;cIDEOGRAPH-F9EE;cIDEOGRAPH-F9EF;cIDEOGRAPH-F9F0;cIDEOGRAPH-F9F1
cIDEOGRAPH-F9F2;cIDEOGRAPH-F9F3;cIDEOGRAPH-F9F4;cIDEOGRAPH-F9F5;cIDEOGRAPH-F9F6;cIDEOGRAPH-F9F7
cIDEOGRAPH-F9F8;cIDEOGRAPH-F9F9;cIDEOGRAPH-F9FA;cIDEOGRAPH-F9FB;cIDEOGRAPH-F9FC;cIDEOGRAPH-F9FD
cIDEOGRAPH-F9FE;cIDEOGRAPH-F9FF;cIDEOGRAPH-FA00;cIDEOGRAPH-FA01;cIDEOGRAPH-FA02;cIDEOGRAPH-FA03
cIDEOGRAPH-FA04;cIDEOGRAPH-FA05;cIDEOGRAPH-FA06;cIDEOGRAPH-FA07;cIDEOGRAPH-FA08;cIDEOGRAPH-FA09
cIDEOGRAPH-FA0A;cIDEOGRAPH-FA0B;cIDEOGRAPH-FA0C;cIDEOGRAPH-FA0D;cIDEOGRAPH-FA0E;cIDEOGRAPH-FA0F
cIDEOGRAPH-FA10;cIDEOGRAPH-FA11;cIDEOGRAPH-FA12;cIDEOGRAPH-FA13;cIDEOGRAPH-FA14;cIDEOGRAPH-FA15
cIDEOGRAPH-FA16;cIDEOGRAPH-FA17;cIDEOGRAPH-FA18;cIDEOGRAPH-FA19;cIDEOGRAPH-FA1A;cIDEOGRAPH-FA1B
cIDEOGRAPH-FA1C;cIDEOGRAPH-FA1D;cIDEOGRAPH-FA1E;cIDEOGRAPH-FA1F;cIDEOGRAPH-FA20;cIDEOGRAPH-FA21
cIDEOGRAPH-FA22;cIDEOGRAPH-FA23;cIDEOGRAPH-FA24;cIDEOGRAPH-FA25;cIDEOGRAPH-FA26;cIDEOGRAPH-FA27
cIDEOGRAPH-FA28;cIDEOGRAPH-FA29;cIDEOGRAPH-FA2A;cIDEOGRAPH-FA2B;cIDEOGRAPH-FA2C;cIDEOGRAPH-FA2D
cIDEOGRAPH-FA2E;cIDEOGRAPH-FA2F;cIDEOGRAPH-FA30;cIDEOGRAPH-FA31;cIDEOGRAPH-FA32;cIDEOGRAPH-FA33
cIDEOGRAPH-FA34;cIDEOGRAPH-FA35;cIDEOGRAPH-FA36;cIDEOGRAPH-FA37;cIDEOGRAPH-FA38;cIDEOGRAPH-FA39
cIDEOGRAPH-FA3A;cIDEOGRAPH-FA3B;cIDEOGRAPH-FA3C;cIDEOGRAPH-FA3D;cIDEOGRAPH-FA3E;cIDEOGRAPH-FA3F
cIDEOGRAPH-FA40;cIDEOGRAPH-FA41;cIDEOGRAPH-FA42;cIDEOGRAPH-FA43;cIDEOGRAPH-FA44;cIDEOGRAPH-FA45
cIDEOGRAPH-FA46;cIDEOGRAPH-FA47;cIDEOGRAPH-FA48;cIDEOGRAPH-FA49;cIDEOGRAPH-FA4A;cIDEOGRAPH-FA4B
cIDEOGRAPH-FA4C;cIDEOGRAPH-FA4D;cIDEOGRAPH-FA4E;cIDEOGRAPH-FA4F;cIDEOGRAPH-FA50;cIDEOGRAPH-FA51
cIDEOGRAPH-FA52;cIDEOGRAPH-FA53;cIDEOGRAPH-FA54;cIDEOGRAPH-FA55;cIDEOGRAPH-FA56;cIDEOGRAPH-FA57
cIDEOGRAPH-FA58;cIDEOGRAPH-FA59;cIDEOGRAPH-FA5A;cIDEOGRAPH-FA5B;cIDEOGRAPH-FA5C;cIDEOGRAPH-FA5D
cIDEOGRAPH-FA5E;cIDEOGRAPH-FA5F;cIDEOGRAPH-FA60;cIDEOGRAPH-FA61;cIDEOGRAPH-FA62;cIDEOGRAPH-FA63
cIDEOGRAPH-FA64;cIDEOGRAPH-FA65;cIDEOGRAPH-FA66;cIDEOGRAPH-FA67;cIDEOGRAPH-FA68;cIDEOGRAPH-FA69
cIDEOGRAPH-FA6A;cIDEOGRAPH-FA6B;cIDEOGRAPH-FA6C;cIDEOGRAPH-FA6D;FA70=cIDEOGRAPH-FA70
cIDEOGRAPH-FA71;cIDEOGRAPH-FA72;cIDEOGRAPH-FA73;cIDEOGRAPH-FA74;cIDEOGRAPH-FA75;cIDEOGRAPH-FA76
cIDEOGRAPH-FA77;cIDEOGRAPH-FA78;cIDEOGRAPH-FA79;cIDEOGRAPH-FA7A;cIDEOGRAPH-FA7B;cIDEOGRAPH-FA7C
cIDEOGRAPH-FA7D;cIDEOGRAPH-FA7E;cIDEOGRAPH-FA7F;cIDEOGRAPH-FA80;cIDEOGRAPH-FA81;cIDEOGRAPH-FA82
cIDEOGRAPH-FA83;cIDEOGRAPH-FA84;cIDEOGRAPH-FA85;cIDEOGRAPH-FA86;cIDEOGRAPH-FA87;cIDEOGRAPH-FA88
cIDEOGRAPH-FA89;cIDEOGRAPH-FA8A;cIDEOGRAPH-FA8B;cIDEOGRAPH-FA8C;cIDEOGRAPH-FA8D;cIDEOGRAPH-FA8E
cIDEOGRAPH-FA8F;cIDEOGRAPH-FA90;cIDEOGRAPH-FA91;cIDEOGRAPH-FA92;cIDEOGRAPH-FA93;cIDEOGRAPH-FA94
cIDEOGRAPH-FA95;cIDEOGRAPH-FA96;cIDEOGRAPH-FA97;cIDEOGRAPH-FA98;cIDEOGRAPH-FA99;cIDEOGRAPH-FA9A
cIDEOGRAPH-FA9B;cIDEOGRAPH-FA9C;cIDEOGRAPH-FA9D;cIDEOGRAPH-FA9E;cIDEOGRAPH-FA9F;cIDEOGRAPH-FAA0
cIDEOGRAPH-FAA1;cIDEOGRAPH-FAA2;cIDEOGRAPH-FAA3;cIDEOGRAPH-FAA4;cIDEOGRAPH-FAA5;cIDEOGRAPH-FAA6
cIDEOGRAPH-FAA7;cIDEOGRAPH-FAA8;cIDEOGRAPH-FAA9;cIDEOGRAPH-FAAA;cIDEOGRAPH-FAAB;cIDEOGRAPH-FAAC
cIDEOGRAPH-FAAD;cIDEOGRAPH-FAAE;cIDEOGRAPH-FAAF;cIDEOGRAPH-FAB0;cIDEOGRAPH-FAB1;cIDEOGRAPH-FAB2
cIDEOGRAPH-FAB3;cIDEOGRAPH-FAB4;cIDEOGRAPH-FAB5;cIDEOGRAPH-FAB6;cIDEOGRAPH-FAB7;cIDEOGRAPH-FAB8
cIDEOGRAPH-FAB9;cIDEOGRAPH-FABA;cIDEOGRAPH-FABB;cIDEOGRAPH-FABC;cIDEOGRAPH-FABD;cIDEOGRAPH-FABE
cIDEOGRAPH-FABF;cIDEOGRAPH-FAC0;cIDEOGRAPH-FAC1;cIDEOGRAPH-FAC2;cIDEOGRAPH-FAC3;cIDEOGRAPH-FAC4
cIDEOGRAPH-FAC5;cIDEOGRAPH-FAC6;cIDEOGRAPH-FAC7;cIDEOGRAPH-FAC8;cIDEOGRAPH-FAC9;cIDEOGRAPH-FACA
cIDEOGRAPH-FACB;cIDEOGRAPH-FACC;cIDEOGRAPH-FACD;cIDEOGRAPH-FACE;cIDEOGRAPH-FACF;cIDEOGRAPH-FAD0
cIDEOGRAPH-FAD1;cIDEOGRAPH-FAD2;cIDEOGRAPH-FAD3;cIDEOGRAPH-FAD4;cIDEOGRAPH-FAD5;cIDEOGRAPH-FAD6
cIDEOGRAPH-FAD7;cIDEOGRAPH-FAD8;cIDEOGRAPH-FAD9;FB00=aLATIN SMALL LIGATURE FF;dFI;dFL;dFFI;dFFL
dLONG S T;dST;FB13=aARMENIAN SMALL LIGATURE MEN NOW;eECH;eINI;dVEW NOW;dMEN XEH
FB1D=aHEBREW LETTER YOD WITH HIRIQ;bPOINT JUDEO-SPANISH VARIKA;bLIGATURE YIDDISH YOD YOD PATAH
bLETTER ALTERNATIVE AYIN;cWIDE ALEF;dDALET;dHE;dKAF;dLAMED;dFINAL MEM;dRESH;dTAV
cALTERNATIVE PLUS SIGN;cSHIN WITH SHIN DOT;eSIN DOT;eDAGESH AND SHIN DOT;gSIN DOT;cALEF WITH PATAH
eQAMATS;eMAPIQ;cBET WITH DAGESH;cGIMEL WITH DAGESH;cDALET WITH DAGESH;cHE WITH MAPIQ
cVAV WITH DAGESH;cZAYIN WITH DAGESH;FB38=cTET WITH DAGESH;cYOD WITH DAGESH;cFINAL KAF WITH DAGESH
cKAF WITH DAGESH;cLAMED WITH DAGESH;FB3E=cMEM WITH DAGESH;FB40=cNUN WITH DAGESH;cSAMEKH WITH DAGESH
FB43=cFINAL PE WITH DAGESH;cPE WITH DAGESH;FB46=cTSADI WITH DAGESH;cQOF WITH DAGESH
cRESH WITH DAGESH;cSHIN WITH DAGESH;cTAV WITH DAGESH;cVAV WITH HOLAM;cBET WITH RAFE;cKAF WITH RAFE
cPE WITH RAFE;bLIGATURE ALEF LAMED;aARABIC LETTER ALEF WASLA ISOLATED FORM;eFINAL FORM
cBEEH ISOLATED FORM;dFINAL FORM;dINITIAL FORM;dMEDIAL FORM;cPEH ISOLATED FORM;dFINAL FORM
dINITIAL FORM;dMEDIAL FORM;cBEHEH ISOLATED FORM;dFINAL FORM;dINITIAL FORM;dMEDIAL FORM
cTTEHEH ISOLATED FORM;dFINAL FORM;dINITIAL FORM;dMEDIAL FORM;cTEHEH ISOLATED FORM;dFINAL FORM
dINITIAL FORM;dMEDIAL FORM;cTTEH ISOLATED FORM;dFINAL FORM;dINITIAL FORM;dMEDIAL FORM
cVEH ISOLATED FORM;dFINAL FORM;dINITIAL FORM;dMEDIAL FORM;cPEHEH ISOLATED FORM;dFINAL FORM
dINITIAL FORM;dMEDIAL FORM;cDYEH ISOLATED FORM;dFINAL FORM;dINITIAL FORM;dMEDIAL FORM
cNYEH ISOLATED FORM;dFINAL FORM;dINITIAL FORM;dMEDIAL FORM;cTCHEH ISOLATED FORM;dFINAL FORM
dINITIAL FORM;dMEDIAL FORM;cTCHEHEH ISOLATED FORM;dFINAL FORM;dINITIAL FORM;dMEDIAL FORM
cDDAHAL ISOLATED FORM;dFINAL FORM;cDAHAL ISOLATED FORM;dFINAL FORM;cDUL ISOLATED FORM;dFINAL FORM
cDDAL ISOLATED FORM;dFINAL FORM;cJEH ISOLATED FORM;dFINAL FORM;cRREH ISOLATED FORM;dFINAL FORM
cKEHEH ISOLATED FORM;dFINAL FORM;dINITIAL FORM;dMEDIAL FORM;cGAF ISOLATED FORM;dFINAL FORM
dINITIAL FORM;dMEDIAL FORM;cGUEH ISOLATED FORM;dFINAL FORM;dINITIAL FORM;dMEDIAL FORM
cNGOEH ISOLATED FORM;dFINAL FORM;dINITIAL FORM;dMEDIAL FORM;cNOON GHUNNA ISOLATED FORM;eFINAL FORM
cRNOON ISOLATED FORM;dFINAL FORM;dINITIAL FORM;dMEDIAL FORM;cHEH WITH YEH ABOVE ISOLATED FORM
gFINAL FORM;dGOAL ISOLATED FORM;eFINAL FORM;eINITIAL FORM;eMEDIAL FORM;dDOACHASHMEE ISOLATED FORM
eFINAL FORM;eINITIAL FORM;eMEDIAL FORM;cYEH BARREE ISOLATED FORM;eFINAL FORM
eWITH HAMZA ABOVE ISOLATED FORM;hFINAL FORM;bSYMBOL DOT ABOVE;dBELOW;cTWO DOTS ABOVE;eBELOW
cTHREE DOTS ABOVE;eBELOW;ePOINTING DOWNWARDS ABOVE;gBELOW;cFOUR DOTS ABOVE;eBELOW
cDOUBLE VERTICAL BAR BELOW;cTWO DOTS VERTICALLY ABOVE;fBELOW;cRING;cSMALL TAH ABOVE;eBELOW
cWASLA ABOVE;FBD3=bLETTER NG ISOLATED FORM;dFINAL FORM;dINITIAL FORM;dMEDIAL FORM;cU ISOLATED FORM
dFINAL FORM;cOE ISOLATED FORM;dFINAL FORM;cYU ISOLATED FORM;dFINAL FORM
cU WITH HAMZA ABOVE ISOLATED FORM;cVE ISOLATED FORM;dFINAL FORM;cKIRGHIZ OE ISOLATED FORM
eFINAL FORM;dYU ISOLATED FORM;eFINAL FORM;cE ISOLATED FORM;dFINAL FORM;dINITIAL FORM;dMEDIAL FORM
cUIGHUR KAZAKH KIRGHIZ ALEF MAKSURA INITIAL FORM;hMEDIAL FORM
bLIGATURE YEH WITH HAMZA ABOVE WITH ALEF ISOLATED FORM;iFINAL FORM;hAE ISOLATED FORM;iFINAL FORM
hWAW ISOLATED FORM;iFINAL FORM;hU ISOLATED FORM;iFINAL FORM;hOE ISOLATED FORM;iFINAL FORM
hYU ISOLATED FORM;iFINAL FORM;hE ISOLATED FORM;iFINAL FORM;iINITIAL FORM
cUIGHUR KIRGHIZ YEH WITH HAMZA ABOVE WITH ALEF MAKSURA ISOLATED FORM;lFINAL FORM;lINITIAL FORM
bLETTER FARSI YEH ISOLATED FORM;eFINAL FORM;eINITIAL FORM;eMEDIAL FORM
bLIGATURE YEH WITH HAMZA ABOVE WITH JEEM ISOLATED FORM;hHAH ISOLATED FORM;hMEEM ISOLATED FORM
hALEF MAKSURA ISOLATED FORM;hYEH ISOLATED FORM;cBEH WITH JEEM ISOLATED FORM;eHAH ISOLATED FORM
eKHAH ISOLATED FORM;eMEEM ISOLATED FORM;eALEF MAKSURA ISOLATED FORM;eYEH ISOLATED FORM
cTEH WITH JEEM ISOLATED FORM;eHAH ISOLATED FORM;eKHAH ISOLATED FORM;eMEEM ISOLATED FORM
eALEF MAKSURA ISOLATED FORM;eYEH ISOLATED FORM;cTHEH WITH JEEM ISOLATED FORM;eMEEM ISOLATED FORM
eALEF MAKSURA ISOLATED FORM;eYEH ISOLATED FORM;cJEEM WITH HAH ISOLATED FORM;eMEEM ISOLATED FORM
cHAH WITH JEEM ISOLATED FORM;eMEEM ISOLATED FORM;cKHAH WITH JEEM ISOLATED FORM;eHAH ISOLATED FORM
eMEEM ISOLATED FORM;cSEEN WITH JEEM ISOLATED FORM;eHAH ISOLATED FORM;eKHAH ISOLATED FORM
eMEEM ISOLATED FORM;cSAD WITH HAH ISOLATED FORM;eMEEM ISOLATED FORM;cDAD WITH JEEM ISOLATED FORM
eHAH ISOLATED FORM;eKHAH ISOLATED FORM;eMEEM ISOLATED FORM;cTAH WITH HAH ISOLATED FORM
eMEEM ISOLATED FORM;cZAH WITH MEEM ISOLATED FORM;cAIN WITH JEEM ISOLATED FORM;eMEEM ISOLATED FORM
cGHAIN WITH JEEM ISOLATED FORM;eMEEM ISOLATED FORM;cFEH WITH JEEM ISOLATED FORM;eHAH ISOLATED FORM
eKHAH ISOLATED FORM;eMEEM ISOLATED FORM;eALEF MAKSURA ISOLATED FORM;eYEH ISOLATED FORM
cQAF WITH HAH ISOLATED FORM;eMEEM ISOLATED FORM;eALEF MAKSURA ISOLATED FORM;eYEH ISOLATED FORM
cKAF WITH ALEF ISOLATED FORM;eJEEM ISOLATED FORM;eHAH ISOLATED FORM;eKHAH ISOLATED FORM
eLAM ISOLATED FORM;eMEEM ISOLATED FORM;eALEF MAKSURA ISOLATED FORM;eYEH ISOLATED FORM
cLAM WITH JEEM ISOLATED FORM;eHAH ISOLATED FORM;eKHAH ISOLATED FORM;eMEEM ISOLATED FORM
eALEF MAKSURA ISOLATED FORM;eYEH ISOLATED FORM;cMEEM WITH JEEM ISOLATED FORM;eHAH ISOLATED FORM
eKHAH ISOLATED FORM;eMEEM ISOLATED FORM;eALEF MAKSURA ISOLATED FORM;eYEH ISOLATED FORM
cNOON WITH JEEM ISOLATED FORM;eHAH ISOLATED FORM;eKHAH ISOLATED FORM;eMEEM ISOLATED FORM
eALEF MAKSURA ISOLATED FORM;eYEH ISOLATED FORM;cHEH WITH JEEM ISOLATED FORM;eMEEM ISOLATED FORM
eALEF MAKSURA ISOLATED FORM;eYEH ISOLATED FORM;cYEH WITH JEEM ISOLATED FORM;eHAH ISOLATED FORM
eKHAH ISOLATED FORM;eMEEM ISOLATED FORM;eALEF MAKSURA ISOLATED FORM;eYEH ISOLATED FORM
cTHAL WITH SUPERSCRIPT ALEF ISOLATED FORM;cREH WITH SUPERSCRIPT ALEF ISOLATED FORM
cALEF MAKSURA WITH SUPERSCRIPT ALEF ISOLATED FORM;cSHADDA WITH DAMMATAN ISOLATED FORM
eKASRATAN ISOLATED FORM;eFATHA ISOLATED FORM;eDAMMA ISOLATED FORM;eKASRA ISOLATED FORM
eSUPERSCRIPT ALEF ISOLATED FORM;cYEH WITH HAMZA ABOVE WITH REH FINAL FORM;hZAIN FINAL FORM
hMEEM FINAL FORM;hNOON FINAL FORM;hALEF MAKSURA FINAL FORM;hYEH FINAL FORM;cBEH WITH REH FINAL FORM
eZAIN FINAL FORM;eMEEM FINAL FORM;eNOON FINAL FORM;eALEF MAKSURA FINAL FORM;eYEH FINAL FORM
cTEH WITH REH FINAL FORM;eZAIN FINAL FORM;eMEEM FINAL FORM;eNOON FINAL FORM
eALEF MAKSURA FINAL FORM;eYEH FINAL FORM;cTHEH WITH REH FINAL FORM;eZAIN FINAL FORM
eMEEM FINAL FORM;eNOON FINAL FORM;eALEF MAKSURA FINAL FORM;eYEH FINAL FORM
cFEH WITH ALEF MAKSURA FINAL FORM;eYEH FINAL FORM;cQAF WITH ALEF MAKSURA FINAL FORM;eYEH FINAL FORM
cKAF WITH ALEF FINAL FORM;eLAM FINAL FORM;eMEEM FINAL FORM;eALEF MAKSURA FINAL FORM;eYEH FINAL FORM
cLAM WITH MEEM FINAL FORM;eALEF MAKSURA FINAL FORM;eYEH FINAL FORM;cMEEM WITH ALEF FINAL FORM
eMEEM FINAL FORM;cNOON WITH REH FINAL FORM;eZAIN FINAL FORM;eMEEM FINAL FORM;eNOON FINAL FORM
eALEF MAKSURA FINAL FORM;eYEH FINAL FORM;cALEF MAKSURA WITH SUPERSCRIPT ALEF FINAL FORM
cYEH WITH REH FINAL FORM;eZAIN FINAL FORM;eMEEM FINAL FORM;eNOON FINAL FORM
eALEF MAKSURA FINAL FORM;eYEH FINAL FORM;eHAMZA ABOVE WITH JEEM INITIAL FORM;hHAH INITIAL FORM
hKHAH INITIAL FORM;hMEEM INITIAL FORM;hHEH INITIAL FORM;cBEH WITH JEEM INITIAL FORM
eHAH INITIAL FORM;eKHAH INITIAL FORM;eMEEM INITIAL FORM;eHEH INITIAL FORM
cTEH WITH JEEM INITIAL FORM;eHAH INITIAL FORM;eKHAH INITIAL FORM;eMEEM INITIAL FORM
eHEH INITIAL FORM;cTHEH WITH MEEM INITIAL FORM;cJEEM WITH HAH INITIAL FORM;eMEEM INITIAL FORM
cHAH WITH JEEM INITIAL FORM;eMEEM INITIAL FORM;cKHAH WITH JEEM INITIAL FORM;eMEEM INITIAL FORM
cSEEN WITH JEEM INITIAL FORM;eHAH INITIAL FORM;eKHAH INITIAL FORM;eMEEM INITIAL FORM
cSAD WITH HAH INITIAL FORM;eKHAH INITIAL FORM;eMEEM INITIAL FORM;cDAD WITH JEEM INITIAL FORM
eHAH INITIAL FORM;eKHAH INITIAL FORM;eMEEM INITIAL FORM;cTAH WITH HAH INITIAL FORM
cZAH WITH MEEM INITIAL FORM;cAIN WITH JEEM INITIAL FORM;eMEEM INITIAL FORM
cGHAIN WITH JEEM INITIAL FORM;eMEEM INITIAL FORM;cFEH WITH JEEM INITIAL FORM;eHAH INITIAL FORM
eKHAH INITIAL FORM;eMEEM INITIAL FORM;cQAF WITH HAH INITIAL FORM;eMEEM INITIAL FORM
cKAF WITH JEEM INITIAL FORM;eHAH INITIAL FORM;eKHAH INITIAL FORM;eLAM INITIAL FORM
eMEEM INITIAL FORM;cLAM WITH JEEM INITIAL FORM;eHAH INITIAL FORM;eKHAH INITIAL FORM
eMEEM INITIAL FORM;eHEH INITIAL FORM;cMEEM WITH JEEM INITIAL FORM;eHAH INITIAL FORM
eKHAH INITIAL FORM;eMEEM INITIAL FORM;cNOON WITH JEEM INITIAL FORM;eHAH INITIAL FORM
eKHAH INITIAL FORM;eMEEM INITIAL FORM;eHEH INITIAL FORM;cHEH WITH JEEM INITIAL FORM
eMEEM INITIAL FORM;eSUPERSCRIPT ALEF INITIAL FORM;cYEH WITH JEEM INITIAL FORM;eHAH INITIAL FORM
eKHAH INITIAL FORM;eMEEM INITIAL FORM;eHEH INITIAL FORM;eHAMZA ABOVE WITH MEEM MEDIAL FORM
hHEH MEDIAL FORM;cBEH WITH MEEM MEDIAL FORM;eHEH MEDIAL FORM;cTEH WITH MEEM MEDIAL FORM
eHEH MEDIAL FORM;cTHEH WITH MEEM MEDIAL FORM;eHEH MEDIAL FORM;cSEEN WITH MEEM MEDIAL FORM
eHEH MEDIAL FORM;cSHEEN WITH MEEM MEDIAL FORM;eHEH MEDIAL FORM;cKAF WITH LAM MEDIAL FORM
eMEEM MEDIAL FORM;cLAM WITH MEEM MEDIAL FORM;cNOON WITH MEEM MEDIAL FORM;eHEH MEDIAL FORM
cYEH WITH MEEM MEDIAL FORM;eHEH MEDIAL FORM;cSHADDA WITH FATHA MEDIAL FORM;eDAMMA MEDIAL FORM
eKASRA MEDIAL FORM;cTAH WITH ALEF MAKSURA ISOLATED FORM;eYEH ISOLATED FORM
cAIN WITH ALEF MAKSURA ISOLATED FORM;eYEH ISOLATED FORM;cGHAIN WITH ALEF MAKSURA ISOLATED FORM
eYEH ISOLATED FORM;cSEEN WITH ALEF MAKSURA ISOLATED FORM;eYEH ISOLATED FORM
cSHEEN WITH ALEF MAKSURA ISOLATED FORM;eYEH ISOLATED FORM;cHAH WITH ALEF MAKSURA ISOLATED FORM
eYEH ISOLATED FORM;cJEEM WITH ALEF MAKSURA ISOLATED FORM;eYEH ISOLATED FORM
cKHAH WITH ALEF MAKSURA ISOLATED FORM;eYEH ISOLATED FORM;cSAD WITH ALEF MAKSURA ISOLATED FORM
eYEH ISOLATED FORM;cDAD WITH ALEF MAKSURA ISOLATED FORM;eYEH ISOLATED FORM
cSHEEN WITH JEEM ISOLATED FORM;eHAH ISOLATED FORM;eKHAH ISOLATED FORM;eMEEM ISOLATED FORM
eREH ISOLATED FORM;cSEEN WITH REH ISOLATED FORM;cSAD WITH REH ISOLATED FORM
cDAD WITH REH ISOLATED FORM;cTAH WITH ALEF MAKSURA FINAL FORM;eYEH FINAL FORM
cAIN WITH ALEF MAKSURA FINAL FORM;eYEH FINAL FORM;cGHAIN WITH ALEF MAKSURA FINAL FORM
eYEH FINAL FORM;cSEEN WITH ALEF MAKSURA FINAL FORM;eYEH FINAL FORM
cSHEEN WITH ALEF MAKSURA FINAL FORM;eYEH FINAL FORM;cHAH WITH ALEF MAKSURA FINAL FORM
eYEH FINAL FORM;cJEEM WITH ALEF MAKSURA FINAL FORM;eYEH FINAL FORM
cKHAH WITH ALEF MAKSURA FINAL FORM;eYEH FINAL FORM;cSAD WITH ALEF MAKSURA FINAL FORM
eYEH FINAL FORM;cDAD WITH ALEF MAKSURA FINAL FORM;eYEH FINAL FORM;cSHEEN WITH JEEM FINAL FORM
eHAH FINAL FORM;eKHAH FINAL FORM;eMEEM FINAL FORM;eREH FINAL FORM;cSEEN WITH REH FINAL FORM
cSAD WITH REH FINAL FORM;cDAD WITH REH FINAL FORM;cSHEEN WITH JEEM INITIAL FORM;eHAH INITIAL FORM
eKHAH INITIAL FORM;eMEEM INITIAL FORM;cSEEN WITH HEH INITIAL FORM;cSHEEN WITH HEH INITIAL FORM
cTAH WITH MEEM INITIAL FORM;cSEEN WITH JEEM MEDIAL FORM;eHAH MEDIAL FORM;eKHAH MEDIAL FORM
cSHEEN WITH JEEM MEDIAL FORM;eHAH MEDIAL FORM;eKHAH MEDIAL FORM;cTAH WITH MEEM MEDIAL FORM
cZAH WITH MEEM MEDIAL FORM;cALEF WITH FATHATAN FINAL FORM;fISOLATED FORM;aORNATE LEFT PARENTHESIS
bRIGHT PARENTHESIS;aARABIC LIGATURE RAHIMAHU ALLAAH;cRADI ALLAAHU ANH;eANHAA;eANHUM;eANHUMAA
eANHUNNA;cSALLALLAAHU ALAYHI WA-AALIH;cALAYHI AS-SALAAM;cALAYHIM AS-SALAAM;cALAYHIMAA AS-SALAAM
cALAYHI AS-SALAATU WAS-SALAAM;cQUDDISA SIRRAH;cSALLALLAHU ALAYHI WAAALIHEE WA-SALLAM
cALAYHAA AS-SALAAM;cTABAARAKA WA-TAAALAA;cRAHIMAHUM ALLAAH;cTEH WITH JEEM WITH MEEM INITIAL FORM
eHAH WITH JEEM FINAL FORM;hINITIAL FORM;gMEEM INITIAL FORM;eKHAH WITH MEEM INITIAL FORM
eMEEM WITH JEEM INITIAL FORM;gHAH INITIAL FORM;gKHAH INITIAL FORM
cJEEM WITH MEEM WITH HAH FINAL FORM;hINITIAL FORM;cHAH WITH MEEM WITH YEH FINAL FORM
gALEF MAKSURA FINAL FORM;cSEEN WITH HAH WITH JEEM INITIAL FORM;eJEEM WITH HAH INITIAL FORM
gALEF MAKSURA FINAL FORM;eMEEM WITH HAH FINAL FORM;hINITIAL FORM;gJEEM INITIAL FORM
gMEEM FINAL FORM;hINITIAL FORM;cSAD WITH HAH WITH HAH FINAL FORM;hINITIAL FORM
eMEEM WITH MEEM FINAL FORM;cSHEEN WITH HAH WITH MEEM FINAL FORM;hINITIAL FORM
eJEEM WITH YEH FINAL FORM;eMEEM WITH KHAH FINAL FORM;hINITIAL FORM;gMEEM FINAL FORM;hINITIAL FORM
cDAD WITH HAH WITH ALEF MAKSURA FINAL FORM;eKHAH WITH MEEM FINAL FORM;hINITIAL FORM
cTAH WITH MEEM WITH HAH FINAL FORM;hINITIAL FORM;gMEEM INITIAL FORM;gYEH FINAL FORM
cAIN WITH JEEM WITH MEEM FINAL FORM;eMEEM WITH MEEM FINAL FORM;hINITIAL FORM
gALEF MAKSURA FINAL FORM;cGHAIN WITH MEEM WITH MEEM FINAL FORM;gYEH FINAL FORM
gALEF MAKSURA FINAL FORM;cFEH WITH KHAH WITH MEEM FINAL FORM;hINITIAL FORM
cQAF WITH MEEM WITH HAH FINAL FORM;gMEEM FINAL FORM;cLAM WITH HAH WITH MEEM FINAL FORM
gYEH FINAL FORM;gALEF MAKSURA FINAL FORM;eJEEM WITH JEEM INITIAL FORM;hFINAL FORM
eKHAH WITH MEEM FINAL FORM;hINITIAL FORM;eMEEM WITH HAH FINAL FORM;hINITIAL FORM
cMEEM WITH HAH WITH JEEM INITIAL FORM;gMEEM INITIAL FORM;gYEH FINAL FORM
eJEEM WITH HAH INITIAL FORM;gMEEM INITIAL FORM;eKHAH WITH JEEM INITIAL FORM;gMEEM INITIAL FORM
FD92=eJEEM WITH KHAH INITIAL FORM;cHEH WITH MEEM WITH JEEM INITIAL FORM;gMEEM INITIAL FORM
cNOON WITH HAH WITH MEEM INITIAL FORM;gALEF MAKSURA FINAL FORM;eJEEM WITH MEEM FINAL FORM
hINITIAL FORM;gALEF MAKSURA FINAL FORM;eMEEM WITH YEH FINAL FORM;gALEF MAKSURA FINAL FORM
cYEH WITH MEEM WITH MEEM FINAL FORM;hINITIAL FORM;cBEH WITH KHAH WITH YEH FINAL FORM
cTEH WITH JEEM WITH YEH FINAL FORM;gALEF MAKSURA FINAL FORM;eKHAH WITH YEH FINAL FORM
gALEF MAKSURA FINAL FORM;eMEEM WITH YEH FINAL FORM;gALEF MAKSURA FINAL FORM
cJEEM WITH MEEM WITH YEH FINAL FORM;eHAH WITH ALEF MAKSURA FINAL FORM
eMEEM WITH ALEF MAKSURA FINAL FORM;cSEEN WITH KHAH WITH ALEF MAKSURA FINAL FORM
cSAD WITH HAH WITH YEH FINAL FORM;cSHEEN WITH HAH WITH YEH FINAL FORM
cDAD WITH HAH WITH YEH FINAL FORM;cLAM WITH JEEM WITH YEH FINAL FORM;eMEEM WITH YEH FINAL FORM
cYEH WITH HAH WITH YEH FINAL FORM;eJEEM WITH YEH FINAL FORM;eMEEM WITH YEH FINAL FORM
cMEEM WITH MEEM WITH YEH FINAL FORM;cQAF WITH MEEM WITH YEH FINAL FORM
cNOON WITH HAH WITH YEH FINAL FORM;cQAF WITH MEEM WITH HAH INITIAL FORM
cLAM WITH HAH WITH MEEM INITIAL FORM;cAIN WITH MEEM WITH YEH FINAL FORM
cKAF WITH MEEM WITH YEH FINAL FORM;cNOON WITH JEEM WITH HAH INITIAL FORM
cMEEM WITH KHAH WITH YEH FINAL FORM;cLAM WITH JEEM WITH MEEM INITIAL FORM
cKAF WITH MEEM WITH MEEM FINAL FORM;cLAM WITH JEEM WITH MEEM FINAL FORM
cNOON WITH JEEM WITH HAH FINAL FORM;cJEEM WITH HAH WITH YEH FINAL FORM
cHAH WITH JEEM WITH YEH FINAL FORM;cMEEM WITH JEEM WITH YEH FINAL FORM
cFEH WITH MEEM WITH YEH FINAL FORM;cBEH WITH HAH WITH YEH FINAL FORM
cKAF WITH MEEM WITH MEEM INITIAL FORM;cAIN WITH JEEM WITH MEEM INITIAL FORM
cSAD WITH MEEM WITH MEEM INITIAL FORM;cSEEN WITH KHAH WITH YEH FINAL FORM
cNOON WITH JEEM WITH YEH FINAL FORM;FDCF=cSALAAMUHU ALAYNAA
FDF0=cSALLA USED AS KORANIC STOP SIGN ISOLATED FORM;cQALA USED AS KORANIC STOP SIGN ISOLATED FORM
cALLAH ISOLATED FORM;cAKBAR ISOLATED FORM;cMOHAMMAD ISOLATED FORM;cSALAM ISOLATED FORM
cRASOUL ISOLATED FORM;cALAYHE ISOLATED FORM;cWASALLAM ISOLATED FORM;cSALLA ISOLATED FORM
cSALLALLAHOU ALAYHE WASALLAM;cJALLAJALALOUHOU;aRIAL SIGN
aARABIC LIGATURE BISMILLAH AR-RAHMAN AR-RAHEEM;cSUBHAANAHU WA TAAALAA;cAZZA WA JALL
aVARIATION SELECTOR-1;bSELECTOR-2;bSELECTOR-3;bSELECTOR-4;bSELECTOR-5;bSELECTOR-6;bSELECTOR-7
bSELECTOR-8;bSELECTOR-9;bSELECTOR-10;bSELECTOR-11;bSELECTOR-12;bSELECTOR-13;bSELECTOR-14
bSELECTOR-15;bSELECTOR-16;aPRESENTATION FORM FOR VERTICAL COMMA;eIDEOGRAPHIC COMMA;fFULL STOP
eCOLON;eSEMICOLON;eEXCLAMATION MARK;eQUESTION MARK;eLEFT WHITE LENTICULAR BRACKET
eRIGHT WHITE LENTICULAR BRAKCET;eHORIZONTAL ELLIPSIS;FE20=aCOMBINING LIGATURE LEFT HALF;cRIGHT HALF
bDOUBLE TILDE LEFT HALF;dRIGHT HALF;bMACRON LEFT HALF;cRIGHT HALF;bCONJOINING MACRON
bLIGATURE LEFT HALF BELOW;cRIGHT HALF BELOW;bTILDE LEFT HALF BELOW;cRIGHT HALF BELOW
bMACRON LEFT HALF BELOW;cRIGHT HALF BELOW;bCONJOINING MACRON BELOW;bCYRILLIC TITLO LEFT HALF
dRIGHT HALF;aPRESENTATION FORM FOR VERTICAL TWO DOT LEADER;eEM DASH;eEN DASH;eLOW LINE
eWAVY LOW LINE;eLEFT PARENTHESIS;eRIGHT PARENTHESIS;eLEFT CURLY BRACKET;eRIGHT CURLY BRACKET
eLEFT TORTOISE SHELL BRACKET;eRIGHT TORTOISE SHELL BRACKET;eLEFT BLACK LENTICULAR BRACKET
eRIGHT BLACK LENTICULAR BRACKET;eLEFT DOUBLE ANGLE BRACKET;eRIGHT DOUBLE ANGLE BRACKET
eLEFT ANGLE BRACKET;eRIGHT ANGLE BRACKET;eLEFT CORNER BRACKET;eRIGHT CORNER BRACKET
eLEFT WHITE CORNER BRACKET;eRIGHT WHITE CORNER BRACKET;aSESAME DOT;aWHITE SESAME DOT
aPRESENTATION FORM FOR VERTICAL LEFT SQUARE BRACKET;eRIGHT SQUARE BRACKET;aDASHED OVERLINE
aCENTRELINE OVERLINE;aWAVY OVERLINE;aDOUBLE WAVY OVERLINE;aDASHED LOW LINE;aCENTRELINE LOW LINE
aWAVY LOW LINE;aSMALL COMMA;bIDEOGRAPHIC COMMA;bFULL STOP;FE54=bSEMICOLON;bCOLON;bQUESTION MARK
bEXCLAMATION MARK;bEM DASH;bLEFT PARENTHESIS;bRIGHT PARENTHESIS;bLEFT CURLY BRACKET
bRIGHT CURLY BRACKET;bLEFT TORTOISE SHELL BRACKET;bRIGHT TORTOISE SHELL BRACKET;bNUMBER SIGN
bAMPERSAND;bASTERISK;bPLUS SIGN;bHYPHEN-MINUS;bLESS-THAN SIGN;bGREATER-THAN SIGN;bEQUALS SIGN
FE68=bREVERSE SOLIDUS;bDOLLAR SIGN;bPERCENT SIGN;bCOMMERCIAL AT;FE70=aARABIC FATHATAN ISOLATED FORM
bTATWEEL WITH FATHATAN ABOVE;bDAMMATAN ISOLATED FORM;bTAIL FRAGMENT;bKASRATAN ISOLATED FORM
FE76=bFATHA ISOLATED FORM;cMEDIAL FORM;bDAMMA ISOLATED FORM;cMEDIAL FORM;bKASRA ISOLATED FORM
cMEDIAL FORM;bSHADDA ISOLATED FORM;cMEDIAL FORM;bSUKUN ISOLATED FORM;cMEDIAL FORM
bLETTER HAMZA ISOLATED FORM;cALEF WITH MADDA ABOVE ISOLATED FORM;gFINAL FORM
eHAMZA ABOVE ISOLATED FORM;gFINAL FORM;cWAW WITH HAMZA ABOVE ISOLATED FORM;gFINAL FORM
cALEF WITH HAMZA BELOW ISOLATED FORM;gFINAL FORM;cYEH WITH HAMZA ABOVE ISOLATED FORM;gFINAL FORM
gINITIAL FORM;gMEDIAL FORM;cALEF ISOLATED FORM;dFINAL FORM;cBEH ISOLATED FORM;dFINAL FORM
dINITIAL FORM;dMEDIAL FORM;cTEH MARBUTA ISOLATED FORM;eFINAL FORM;dISOLATED FORM;dFINAL FORM
dINITIAL FORM;dMEDIAL FORM;cTHEH ISOLATED FORM;dFINAL FORM;dINITIAL FORM;dMEDIAL FORM
cJEEM ISOLATED FORM;dFINAL FORM;dINITIAL FORM;dMEDIAL FORM;cHAH ISOLATED FORM;dFINAL FORM
dINITIAL FORM;dMEDIAL FORM;cKHAH ISOLATED FORM;dFINAL FORM;dINITIAL FORM;dMEDIAL FORM
cDAL ISOLATED FORM;dFINAL FORM;cTHAL ISOLATED FORM;dFINAL FORM;cREH ISOLATED FORM;dFINAL FORM
cZAIN ISOLATED FORM;dFINAL FORM;cSEEN ISOLATED FORM;dFINAL FORM;dINITIAL FORM;dMEDIAL FORM
cSHEEN ISOLATED FORM;dFINAL FORM;dINITIAL FORM;dMEDIAL FORM;cSAD ISOLATED FORM;dFINAL FORM
dINITIAL FORM;dMEDIAL FORM;cDAD ISOLATED FORM;dFINAL FORM;dINITIAL FORM;dMEDIAL FORM
cTAH ISOLATED FORM;dFINAL FORM;dINITIAL FORM;dMEDIAL FORM;cZAH ISOLATED FORM;dFINAL FORM
dINITIAL FORM;dMEDIAL FORM;cAIN ISOLATED FORM;dFINAL FORM;dINITIAL FORM;dMEDIAL FORM
cGHAIN ISOLATED FORM;dFINAL FORM;dINITIAL FORM;dMEDIAL FORM;cFEH ISOLATED FORM;dFINAL FORM
dINITIAL FORM;dMEDIAL FORM;cQAF ISOLATED FORM;dFINAL FORM;dINITIAL FORM;dMEDIAL FORM
cKAF ISOLATED FORM;dFINAL FORM;dINITIAL FORM;dMEDIAL FORM;cLAM ISOLATED FORM;dFINAL FORM
dINITIAL FORM;dMEDIAL FORM;cMEEM ISOLATED FORM;dFINAL FORM;dINITIAL FORM;dMEDIAL FORM
cNOON ISOLATED FORM;dFINAL FORM;dINITIAL FORM;dMEDIAL FORM;cHEH ISOLATED FORM;dFINAL FORM
dINITIAL FORM;dMEDIAL FORM;cWAW ISOLATED FORM;dFINAL FORM;cALEF MAKSURA ISOLATED FORM;eFINAL FORM
cYEH ISOLATED FORM;dFINAL FORM;dINITIAL FORM;dMEDIAL FORM
bLIGATURE LAM WITH ALEF WITH MADDA ABOVE ISOLATED FORM;iFINAL FORM;gHAMZA ABOVE ISOLATED FORM
iFINAL FORM;hBELOW ISOLATED FORM;iFINAL FORM;fISOLATED FORM;fFINAL FORM
FEFF=aZERO WIDTH NO-BREAK SPACE;FF01=aFULLWIDTH EXCLAMATION MARK;bQUOTATION MARK;bNUMBER SIGN
bDOLLAR SIGN;bPERCENT SIGN;bAMPERSAND;bAPOSTROPHE;bLEFT PARENTHESIS;bRIGHT PARENTHESIS;bASTERISK
bPLUS SIGN;bCOMMA;bHYPHEN-MINUS;bFULL STOP;bSOLIDUS;bDIGIT ZERO;cONE;cTWO;cTHREE;cFOUR;cFIVE;cSIX
cSEVEN;cEIGHT;cNINE;bCOLON;bSEMICOLON;bLESS-THAN SIGN;bEQUALS SIGN;bGREATER-THAN SIGN
bQUESTION MARK;bCOMMERCIAL AT;bLATIN CAPITAL LETTER A;eB;eC;eD;eE;eF;eG;eH;eI;eJ;eK;eL;eM;eN;eO;eP
eQ;eR;eS;eT;eU;eV;eW;eX;eY;eZ;bLEFT SQUARE BRACKET;bREVERSE SOLIDUS;bRIGHT SQUARE BRACKET
bCIRCUMFLEX ACCENT;bLOW LINE;bGRAVE ACCENT;bLATIN SMALL LETTER A;eB;eC;eD;eE;eF;eG;eH;eI;eJ;eK;eL
eM;eN;eO;eP;eQ;eR;eS;eT;eU;eV;eW;eX;eY;eZ;bLEFT CURLY BRACKET;bVERTICAL LINE;bRIGHT CURLY BRACKET
bTILDE;bLEFT WHITE PARENTHESIS;bRIGHT WHITE PARENTHESIS;aHALFWIDTH IDEOGRAPHIC FULL STOP
bLEFT CORNER BRACKET;bRIGHT CORNER BRACKET;bIDEOGRAPHIC COMMA;bKATAKANA MIDDLE DOT;cLETTER WO
dSMALL A;eI;eU;eE;eO;eYA;eYU;eYO;eTU;bKATAKANA-HIRAGANA PROLONGED SOUND MARK;bKATAKANA LETTER A;dI
dU;dE;dO;dKA;dKI;dKU;dKE;dKO;dSA;dSI;dSU;dSE;dSO;dTA;dTI;dTU;dTE;dTO;dNA;dNI;dNU;dNE;dNO;dHA;dHI
dHU;dHE;dHO;dMA;dMI;dMU;dME;dMO;dYA;dYU;dYO;dRA;dRI;dRU;dRE;dRO;dWA;dN;cVOICED SOUND MARK
cSEMI-VOICED SOUND MARK;bHANGUL FILLER;cLETTER KIYEOK;dSSANGKIYEOK;dKIYEOK-SIOS;dNIEUN;dNIEUN-CIEUC
dNIEUN-HIEUH;dTIKEUT;dSSANGTIKEUT;dRIEUL;dRIEUL-KIYEOK;dRIEUL-MIEUM;dRIEUL-PIEUP;dRIEUL-SIOS
dRIEUL-THIEUTH;dRIEUL-PHIEUPH;dRIEUL-HIEUH;dMIEUM;dPIEUP;dSSANGPIEUP;dPIEUP-SIOS;dSIOS;dSSANGSIOS
dIEUNG;dCIEUC;dSSANGCIEUC;dCHIEUCH;dKHIEUKH;dTHIEUTH;dPHIEUPH;dHIEUH;FFC2=dA;dAE;dYA;dYAE;dEO;dE
FFCA=dYEO;dYE;dO;dWA;dWAE;dOE;FFD2=dYO;dU;dWEO;dWE;dWI;dYU;FFDA=dEU;dYI;dI
FFE0=aFULLWIDTH CENT SIGN;bPOUND SIGN;bNOT SIGN;bMACRON;bBROKEN BAR;bYEN SIGN;bWON SIGN
FFE8=aHALFWIDTH FORMS LIGHT VERTICAL;bLEFTWARDS ARROW;bUPWARDS ARROW;bRIGHTWARDS ARROW
bDOWNWARDS ARROW;bBLACK SQUARE;bWHITE CIRCLE;FFF9=aINTERLINEAR ANNOTATION ANCHOR;cSEPARATOR
cTERMINATOR;aOBJECT REPLACEMENT CHARACTER;aREPLACEMENT CHARACTER"

end HabitLens.Text.Names
