/-!
Further names of characters: those of control characters, corrected names and abbreviations.
-/

namespace LanguageShell.Text.CharacterName

/-- Further names, with semicolons between them, after the code point of the character. -/
def aliases : List (Nat × List String) := [
  (0x0000, ["NULL;NUL"]),
  (0x0001, ["START OF HEADING;SOH"]),
  (0x0002, ["START OF TEXT;STX"]),
  (0x0003, ["END OF TEXT;ETX"]),
  (0x0004, ["END OF TRANSMISSION;EOT"]),
  (0x0005, ["ENQUIRY;ENQ"]),
  (0x0006, ["ACKNOWLEDGE;ACK"]),
  (0x0007, ["ALERT;BEL"]),
  (0x0008, ["BACKSPACE;BS"]),
  (0x0009, ["CHARACTER TABULATION;HORIZONTAL TABULATION;HT;TAB"]),
  (0x000a, ["LINE FEED;NEW LINE;END OF LINE;EOL;LF;NL"]),
  (0x000b, ["LINE TABULATION;VERTICAL TABULATION;VT"]),
  (0x000c, ["FORM FEED;FF"]),
  (0x000d, ["CARRIAGE RETURN;CR"]),
  (0x000e, ["SHIFT OUT;LOCKING-SHIFT ONE;SO"]),
  (0x000f, ["SHIFT IN;LOCKING-SHIFT ZERO;SI"]),
  (0x0010, ["DATA LINK ESCAPE;DLE"]),
  (0x0011, ["DEVICE CONTROL ONE;DC1"]),
  (0x0012, ["DEVICE CONTROL TWO;DC2"]),
  (0x0013, ["DEVICE CONTROL THREE;DC3"]),
  (0x0014, ["DEVICE CONTROL FOUR;DC4"]),
  (0x0015, ["NEGATIVE ACKNOWLEDGE;NAK"]),
  (0x0016, ["SYNCHRONOUS IDLE;SYN"]),
  (0x0017, ["END OF TRANSMISSION BLOCK;ETB"]),
  (0x0018, ["CANCEL;CAN"]),
  (0x0019, ["END OF MEDIUM;EOM"]),
  (0x001a, ["SUBSTITUTE;SUB"]),
  (0x001b, ["ESCAPE;ESC"]),
  (0x001c, ["INFORMATION SEPARATOR FOUR;FILE SEPARATOR;FS"]),
  (0x001d, ["INFORMATION SEPARATOR THREE;GROUP SEPARATOR;GS"]),
  (0x001e, ["INFORMATION SEPARATOR TWO;RECORD SEPARATOR;RS"]),
  (0x001f, ["INFORMATION SEPARATOR ONE;UNIT SEPARATOR;US"]),
  (0x0020, ["SP"]),
  (0x007f, ["DELETE;DEL"]),
  (0x0080, ["PADDING CHARACTER;PAD"]),
  (0x0081, ["HIGH OCTET PRESET;HOP"]),
  (0x0082, ["BREAK PERMITTED HERE;BPH"]),
  (0x0083, ["NO BREAK HERE;NBH"]),
  (0x0084, ["INDEX;IND"]),
  (0x0085, ["NEXT LINE;NEL"]),
  (0x0086, ["START OF SELECTED AREA;SSA"]),
  (0x0087, ["END OF SELECTED AREA;ESA"]),
  (0x0088, ["CHARACTER TABULATION SET;HORIZONTAL TABULATION SET;HTS"]),
  (0x0089, ["CHARACTER TABULATION WITH JUSTIFICATION;HORIZONTAL TABULATION WITH JUSTIFICATION",
    "HTJ"]),
  (0x008a, ["LINE TABULATION SET;VERTICAL TABULATION SET;VTS"]),
  (0x008b, ["PARTIAL LINE FORWARD;PARTIAL LINE DOWN;PLD"]),
  (0x008c, ["PARTIAL LINE BACKWARD;PARTIAL LINE UP;PLU"]),
  (0x008d, ["REVERSE LINE FEED;REVERSE INDEX;RI"]),
  (0x008e, ["SINGLE SHIFT TWO;SINGLE-SHIFT-2;SS2"]),
  (0x008f, ["SINGLE SHIFT THREE;SINGLE-SHIFT-3;SS3"]),
  (0x0090, ["DEVICE CONTROL STRING;DCS"]),
  (0x0091, ["PRIVATE USE ONE;PRIVATE USE-1;PU1"]),
  (0x0092, ["PRIVATE USE TWO;PRIVATE USE-2;PU2"]),
  (0x0093, ["SET TRANSMIT STATE;STS"]),
  (0x0094, ["CANCEL CHARACTER;CCH"]),
  (0x0095, ["MESSAGE WAITING;MW"]),
  (0x0096, ["START OF GUARDED AREA;START OF PROTECTED AREA;SPA"]),
  (0x0097, ["END OF GUARDED AREA;END OF PROTECTED AREA;EPA"]),
  (0x0098, ["START OF STRING;SOS"]),
  (0x0099, ["SINGLE GRAPHIC CHARACTER INTRODUCER;SGC"]),
  (0x009a, ["SINGLE CHARACTER INTRODUCER;SCI"]),
  (0x009b, ["CONTROL SEQUENCE INTRODUCER;CSI"]),
  (0x009c, ["STRING TERMINATOR;ST"]),
  (0x009d, ["OPERATING SYSTEM COMMAND;OSC"]),
  (0x009e, ["PRIVACY MESSAGE;PM"]),
  (0x009f, ["APPLICATION PROGRAM COMMAND;APC"]),
  (0x00a0, ["NBSP"]),
  (0x00ad, ["SHY"]),
  (0x01a2, ["LATIN CAPITAL LETTER GHA"]),
  (0x01a3, ["LATIN SMALL LETTER GHA"]),
  (0x034f, ["CGJ"]),
  (0x061c, ["ALM"]),
  (0x0709, ["SYRIAC SUBLINEAR COLON SKEWED LEFT"]),
  (0x0cde, ["KANNADA LETTER LLLA"]),
  (0x0e9d, ["LAO LETTER FO FON"]),
  (0x0e9f, ["LAO LETTER FO FAY"]),
  (0x0ea3, ["LAO LETTER RO"]),
  (0x0ea5, ["LAO LETTER LO"]),
  (0x0fd0, ["TIBETAN MARK BKA- SHOG GI MGO RGYAN"]),
  (0x11ec, ["HANGUL JONGSEONG YESIEUNG-KIYEOK"]),
  (0x11ed, ["HANGUL JONGSEONG YESIEUNG-SSANGKIYEOK"]),
  (0x11ee, ["HANGUL JONGSEONG SSANGYESIEUNG"]),
  (0x11ef, ["HANGUL JONGSEONG YESIEUNG-KHIEUKH"]),
  (0x180b, ["FVS1"]),
  (0x180c, ["FVS2"]),
  (0x180d, ["FVS3"]),
  (0x180e, ["MVS"]),
  (0x180f, ["FVS4"]),
  (0x200b, ["ZWSP"]),
  (0x200c, ["ZWNJ"]),
  (0x200d, ["ZWJ"]),
  (0x200e, ["LRM"]),
  (0x200f, ["RLM"]),
  (0x202a, ["LRE"]),
  (0x202b, ["RLE"]),
  (0x202c, ["PDF"]),
  (0x202d, ["LRO"]),
  (0x202e, ["RLO"]),
  (0x202f, ["NNBSP"]),
  (0x205f, ["MMSP"]),
  (0x2060, ["WJ"]),
  (0x2066, ["LRI"]),
  (0x2067, ["RLI"]),
  (0x2068, ["FSI"]),
  (0x2069, ["PDI"]),
  (0x2118, ["WEIERSTRASS ELLIPTIC FUNCTION"]),
  (0x2448, ["MICR ON US SYMBOL"]),
  (0x2449, ["MICR DASH SYMBOL"]),
  (0x2b7a, ["LEFTWARDS TRIANGLE-HEADED ARROW WITH DOUBLE VERTICAL STROKE"]),
  (0x2b7c, ["RIGHTWARDS TRIANGLE-HEADED ARROW WITH DOUBLE VERTICAL STROKE"]),
  (0xa015, ["YI SYLLABLE ITERATION MARK"]),
  (0xaa6e, ["MYANMAR LETTER KHAMTI LLA"]),
  (0xfe18, ["PRESENTATION FORM FOR VERTICAL RIGHT WHITE LENTICULAR BRACKET"]),
  (0xfeff, ["BYTE ORDER MARK;BOM;ZWNBSP"]),
  (0x122d4, ["CUNEIFORM SIGN NU11 TENU"]),
  (0x122d5, ["CUNEIFORM SIGN NU11 OVER NU11 BUR OVER BUR"]),
  (0x16e56, ["MEDEFAIDRIN CAPITAL LETTER H"]),
  (0x16e57, ["MEDEFAIDRIN CAPITAL LETTER NG"]),
  (0x16e76, ["MEDEFAIDRIN SMALL LETTER H"]),
  (0x16e77, ["MEDEFAIDRIN SMALL LETTER NG"]),
  (0x1b001, ["HENTAIGANA LETTER E-1"]),
  (0x1d0c5, ["BYZANTINE MUSICAL SYMBOL FTHORA SKLIRON CHROMA VASIS"]) ]

end LanguageShell.Text.CharacterName
