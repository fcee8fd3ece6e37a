/-!
# Further names of characters

Control characters have no name of their own, and some names were corrected or abbreviated.  The
aliases of Unicode 14.0 stand for characters just as names do.
-/

namespace PackageIndex.Unicode

/-- Code points with their aliases, between commas. -/
def aliasData : String :=
  "0 NUL,0 NULL,1 SOH,1 START OF HEADING,2 START OF TEXT,2 STX,3 END OF TEXT,3 ETX,
   4 END OF TRANSMISSION,4 EOT,5 ENQ,5 ENQUIRY,6 ACK,6 ACKNOWLEDGE,7 ALERT,7 BEL,8 BACKSPACE,8 BS,
   9 CHARACTER TABULATION,9 HORIZONTAL TABULATION,9 HT,9 TAB,a END OF LINE,a EOL,a LF,a LINE FEED,
   a NEW LINE,a NL,b LINE TABULATION,b VERTICAL TABULATION,b VT,c FF,c FORM FEED,d CARRIAGE RETURN,
   d CR,e LOCKING-SHIFT ONE,e SHIFT OUT,e SO,f LOCKING-SHIFT ZERO,f SHIFT IN,f SI,
   10 DATA LINK ESCAPE,10 DLE,11 DC1,11 DEVICE CONTROL ONE,12 DC2,12 DEVICE CONTROL TWO,13 DC3,
   13 DEVICE CONTROL THREE,14 DC4,14 DEVICE CONTROL FOUR,15 NAK,15 NEGATIVE ACKNOWLEDGE,16 SYN,
   16 SYNCHRONOUS IDLE,17 END OF TRANSMISSION BLOCK,17 ETB,18 CAN,18 CANCEL,19 END OF MEDIUM,19 EOM,
   1a SUB,1a SUBSTITUTE,1b ESC,1b ESCAPE,1c FILE SEPARATOR,1c FS,1c INFORMATION SEPARATOR FOUR,
   1d GROUP SEPARATOR,1d GS,1d INFORMATION SEPARATOR THREE,1e INFORMATION SEPARATOR TWO,
   1e RECORD SEPARATOR,1e RS,1f INFORMATION SEPARATOR ONE,1f UNIT SEPARATOR,1f US,20 SP,7f DEL,
   7f DELETE,80 PAD,80 PADDING CHARACTER,81 HIGH OCTET PRESET,81 HOP,82 BPH,82 BREAK PERMITTED HERE,
   83 NBH,83 NO BREAK HERE,84 IND,84 INDEX,85 NEL,85 NEXT LINE,86 SSA,86 START OF SELECTED AREA,
   87 END OF SELECTED AREA,87 ESA,88 CHARACTER TABULATION SET,88 HORIZONTAL TABULATION SET,88 HTS,
   89 CHARACTER TABULATION WITH JUSTIFICATION,89 HORIZONTAL TABULATION WITH JUSTIFICATION,89 HTJ,
   8a LINE TABULATION SET,8a VERTICAL TABULATION SET,8a VTS,8b PARTIAL LINE DOWN,
   8b PARTIAL LINE FORWARD,8b PLD,8c PARTIAL LINE BACKWARD,8c PARTIAL LINE UP,8c PLU,
   8d REVERSE INDEX,8d REVERSE LINE FEED,8d RI,8e SINGLE SHIFT TWO,8e SINGLE-SHIFT-2,8e SS2,
   8f SINGLE SHIFT THREE,8f SINGLE-SHIFT-3,8f SS3,90 DCS,90 DEVICE CONTROL STRING,
   91 PRIVATE USE ONE,91 PRIVATE USE-1,91 PU1,92 PRIVATE USE TWO,92 PRIVATE USE-2,92 PU2,
   93 SET TRANSMIT STATE,93 STS,94 CANCEL CHARACTER,94 CCH,95 MESSAGE WAITING,95 MW,96 SPA,
   96 START OF GUARDED AREA,96 START OF PROTECTED AREA,97 END OF GUARDED AREA,
   97 END OF PROTECTED AREA,97 EPA,98 SOS,98 START OF STRING,99 SGC,
   99 SINGLE GRAPHIC CHARACTER INTRODUCER,9a SCI,9a SINGLE CHARACTER INTRODUCER,
   9b CONTROL SEQUENCE INTRODUCER,9b CSI,9c ST,9c STRING TERMINATOR,9d OPERATING SYSTEM COMMAND,
   9d OSC,9e PM,9e PRIVACY MESSAGE,9f APC,9f APPLICATION PROGRAM COMMAND,a0 NBSP,ad SHY,
   1a2 LATIN CAPITAL LETTER GHA,1a3 LATIN SMALL LETTER GHA,34f CGJ,61c ALM,
   709 SYRIAC SUBLINEAR COLON SKEWED LEFT,cde KANNADA LETTER LLLA,e9d LAO LETTER FO FON,
   e9f LAO LETTER FO FAY,ea3 LAO LETTER RO,ea5 LAO LETTER LO,
   fd0 TIBETAN MARK BKA- SHOG GI MGO RGYAN,11ec HANGUL JONGSEONG YESIEUNG-KIYEOK,
   11ed HANGUL JONGSEONG YESIEUNG-SSANGKIYEOK,11ee HANGUL JONGSEONG SSANGYESIEUNG,
   11ef HANGUL JONGSEONG YESIEUNG-KHIEUKH,180b FVS1,180c FVS2,180d FVS3,180e MVS,180f FVS4,
   200b ZWSP,200c ZWNJ,200d ZWJ,200e LRM,200f RLM,202a LRE,202b RLE,202c PDF,202d LRO,202e RLO,
   202f NNBSP,205f MMSP,2060 WJ,2066 LRI,2067 RLI,2068 FSI,2069 PDI,
   2118 WEIERSTRASS ELLIPTIC FUNCTION,2448 MICR ON US SYMBOL,2449 MICR DASH SYMBOL,
   2b7a LEFTWARDS TRIANGLE-HEADED ARROW WITH DOUBLE VERTICAL STROKE,
   2b7c RIGHTWARDS TRIANGLE-HEADED ARROW WITH DOUBLE VERTICAL STROKE,
   a015 YI SYLLABLE ITERATION MARK,aa6e MYANMAR LETTER KHAMTI LLA,fe00 VS1,fe01 VS2,fe02 VS3,
   fe03 VS4,fe04 VS5,fe05 VS6,fe06 VS7,fe07 VS8,fe08 VS9,fe09 VS10,fe0a VS11,fe0b VS12,fe0c VS13,
   fe0d VS14,fe0e VS15,fe0f VS16,fe18 PRESENTATION FORM FOR VERTICAL RIGHT WHITE LENTICULAR BRACKET,
   feff BOM,feff BYTE ORDER MARK,feff ZWNBSP,122d4 CUNEIFORM SIGN NU11 TENU,
   122d5 CUNEIFORM SIGN NU11 OVER NU11 BUR OVER BUR,16e56 MEDEFAIDRIN CAPITAL LETTER H,
   16e57 MEDEFAIDRIN CAPITAL LETTER NG,16e76 MEDEFAIDRIN SMALL LETTER H,
   16e77 MEDEFAIDRIN SMALL LETTER NG,1b001 HENTAIGANA LETTER E-1,
   1d0c5 BYZANTINE MUSICAL SYMBOL FTHORA SKLIRON CHROMA VASIS,e0100 VS17,e0101 VS18,e0102 VS19,
   e0103 VS20,e0104 VS21,e0105 VS22,e0106 VS23,e0107 VS24,e0108 VS25,e0109 VS26,e010a VS27,
   e010b VS28,e010c VS29,e010d VS30,e010e VS31,e010f VS32,e0110 VS33,e0111 VS34,e0112 VS35,
   e0113 VS36,e0114 VS37,e0115 VS38,e0116 VS39,e0117 VS40,e0118 VS41,e0119 VS42,e011a VS43,
   e011b VS44,e011c VS45,e011d VS46,e011e VS47,e011f VS48,e0120 VS49,e0121 VS50,e0122 VS51,
   e0123 VS52,e0124 VS53,e0125 VS54,e0126 VS55,e0127 VS56,e0128 VS57,e0129 VS58,e012a VS59,
   e012b VS60,e012c VS61,e012d VS62,e012e VS63,e012f VS64,e0130 VS65,e0131 VS66,e0132 VS67,
   e0133 VS68,e0134 VS69,e0135 VS70,e0136 VS71,e0137 VS72,e0138 VS73,e0139 VS74,e013a VS75,
   e013b VS76,e013c VS77,e013d VS78,e013e VS79,e013f VS80,e0140 VS81,e0141 VS82,e0142 VS83,
   e0143 VS84,e0144 VS85,e0145 VS86,e0146 VS87,e0147 VS88,e0148 VS89,e0149 VS90,e014a VS91,
   e014b VS92,e014c VS93,e014d VS94,e014e VS95,e014f VS96,e0150 VS97,e0151 VS98,e0152 VS99,
   e0153 VS100,e0154 VS101,e0155 VS102,e0156 VS103,e0157 VS104,e0158 VS105,e0159 VS106,e015a VS107,
   e015b VS108,e015c VS109,e015d VS110,e015e VS111,e015f VS112,e0160 VS113,e0161 VS114,e0162 VS115,
   e0163 VS116,e0164 VS117,e0165 VS118,e0166 VS119,e0167 VS120,e0168 VS121,e0169 VS122,e016a VS123,
   e016b VS124,e016c VS125,e016d VS126,e016e VS127,e016f VS128,e0170 VS129,e0171 VS130,e0172 VS131,
   e0173 VS132,e0174 VS133,e0175 VS134,e0176 VS135,e0177 VS136,e0178 VS137,e0179 VS138,e017a VS139,
   e017b VS140,e017c VS141,e017d VS142,e017e VS143,e017f VS144,e0180 VS145,e0181 VS146,e0182 VS147,
   e0183 VS148,e0184 VS149,e0185 VS150,e0186 VS151,e0187 VS152,e0188 VS153,e0189 VS154,e018a VS155,
   e018b VS156,e018c VS157,e018d VS158,e018e VS159,e018f VS160,e0190 VS161,e0191 VS162,e0192 VS163,
   e0193 VS164,e0194 VS165,e0195 VS166,e0196 VS167,e0197 VS168,e0198 VS169,e0199 VS170,e019a VS171,
   e019b VS172,e019c VS173,e019d VS174,e019e VS175,e019f VS176,e01a0 VS177,e01a1 VS178,e01a2 VS179,
   e01a3 VS180,e01a4 VS181,e01a5 VS182,e01a6 VS183,e01a7 VS184,e01a8 VS185,e01a9 VS186,e01aa VS187,
   e01ab VS188,e01ac VS189,e01ad VS190,e01ae VS191,e01af VS192,e01b0 VS193,e01b1 VS194,e01b2 VS195,
   e01b3 VS196,e01b4 VS197,e01b5 VS198,e01b6 VS199,e01b7 VS200,e01b8 VS201,e01b9 VS202,e01ba VS203,
   e01bb VS204,e01bc VS205,e01bd VS206,e01be VS207,e01bf VS208,e01c0 VS209,e01c1 VS210,e01c2 VS211,
   e01c3 VS212,e01c4 VS213,e01c5 VS214,e01c6 VS215,e01c7 VS216,e01c8 VS217,e01c9 VS218,e01ca VS219,
   e01cb VS220,e01cc VS221,e01cd VS222,e01ce VS223,e01cf VS224,e01d0 VS225,e01d1 VS226,e01d2 VS227,
   e01d3 VS228,e01d4 VS229,e01d5 VS230,e01d6 VS231,e01d7 VS232,e01d8 VS233,e01d9 VS234,e01da VS235,
   e01db VS236,e01dc VS237,e01dd VS238,e01de VS239,e01df VS240,e01e0 VS241,e01e1 VS242,e01e2 VS243,
   e01e3 VS244,e01e4 VS245,e01e5 VS246,e01e6 VS247,e01e7 VS248,e01e8 VS249,e01e9 VS250,e01ea VS251,
   e01eb VS252,e01ec VS253,e01ed VS254,e01ee VS255,e01ef VS256"

end PackageIndex.Unicode
