namespace Scaffold.Pattern

/-- The names of the general categories, short and long, and of the three sets that are asked for
like one. The surrogates are no characters, so they are not among them. -/
def categoryNames : List String := [
  "C", "Other", "Cc", "Control", "Cntrl", "Cf", "Format", "Cn", "Unassigned", "Co", "Private_Use",
  "L", "Letter", "LC", "Cased_Letter", "Ll", "Lowercase_Letter", "Lm", "Modifier_Letter", "Lo",
  "Other_Letter", "Lt", "Titlecase_Letter", "Lu", "Uppercase_Letter", "M", "Mark",
  "Combining_Mark", "Mc", "Spacing_Mark", "Me", "Enclosing_Mark", "Mn", "Nonspacing_Mark", "N",
  "Number", "Nd", "Decimal_Number", "Digit", "Nl", "Letter_Number", "No", "Other_Number", "P",
  "Punctuation", "Punct", "Pc", "Connector_Punctuation", "Pd", "Dash_Punctuation", "Pe",
  "Close_Punctuation", "Pf", "Final_Punctuation", "Pi", "Initial_Punctuation", "Po",
  "Other_Punctuation", "Ps", "Open_Punctuation", "S", "Symbol", "Sc", "Currency_Symbol", "Sk",
  "Modifier_Symbol", "Sm", "Math_Symbol", "So", "Other_Symbol", "Z", "Separator", "Zl",
  "Line_Separator", "Zp", "Paragraph_Separator", "Zs", "Space_Separator", "Any", "Assigned",
  "ASCII"]

/-- The names of the general category that no character has. -/
def emptyCategoryNames : List String := [
  "Cs", "Surrogate"]

/-- The versions of Unicode that brought characters. -/
def ageNames : List String := [
  "1.1", "V1_1", "2.0", "V2_0", "2.1", "V2_1", "3.0", "V3_0", "3.1", "V3_1", "3.2", "V3_2", "4.0",
  "V4_0", "4.1", "V4_1", "5.0", "V5_0", "5.1", "V5_1", "5.2", "V5_2", "6.0", "V6_0", "6.1",
  "V6_1", "6.2", "V6_2", "6.3", "V6_3", "7.0", "V7_0", "8.0", "V8_0", "9.0", "V9_0", "10.0",
  "V10_0", "11.0", "V11_0", "12.0", "V12_0", "12.1", "V12_1", "13.0", "V13_0", "14.0", "V14_0",
  "15.0", "V15_0", "15.1", "V15_1", "16.0", "V16_0"]

/-- The names of the roles of characters at breaks between graphemes. -/
def graphemeBreakNames : List String := [
  "CN", "Control", "CR", "EX", "Extend", "L", "LF", "LV", "LVT", "PP", "Prepend", "RI",
  "Regional_Indicator", "SM", "SpacingMark", "T", "V", "ZWJ"]

/-- The names of the roles of characters at breaks between words. -/
def wordBreakNames : List String := [
  "CR", "DQ", "Double_Quote", "EX", "ExtendNumLet", "Extend", "FO", "Format", "HL",
  "Hebrew_Letter", "KA", "Katakana", "LE", "ALetter", "LF", "MB", "MidNumLet", "ML", "MidLetter",
  "MN", "MidNum", "NL", "Newline", "NU", "Numeric", "RI", "Regional_Indicator", "SQ",
  "Single_Quote", "WSegSpace", "ZWJ"]

/-- The names of the roles of characters at breaks between sentences. -/
def sentenceBreakNames : List String := [
  "AT", "ATerm", "CL", "Close", "CR", "EX", "Extend", "FO", "Format", "LE", "OLetter", "LF", "LO",
  "Lower", "NU", "Numeric", "SC", "SContinue", "SE", "Sep", "SP", "Sp", "ST", "STerm", "UP",
  "Upper"]

end Scaffold.Pattern
