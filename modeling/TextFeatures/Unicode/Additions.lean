import TextFeatures.Unicode.Category

namespace TextFeatures.Unicode

-- The general category of the characters that version 17 adds or moves to another category.
def laterCategories : Table GeneralCategory := [
  categoryRow 0x295 0x2b96 "295:Lo 88f:Lo c5c:Lo cdc:Lo 1acf-1add:Mn 1ae0-1aeb:Mn 20c1:Sc 2b96:So",
  categoryRow 0xa7ce 0xfd91 "a7ce:Lu a7cf:Ll a7d2:Lu a7d4:Lu a7f1:Lm fbc3-fbd2:So fd90-fd91:So",
  categoryRow 0xfdc8 0x10ed0 "fdc8-fdce:So 10940-10959:Lo 10ec5:Lm 10ec6-10ec7:Lo 10ed0:Po",
  categoryRow 0x10ed1 0x11b65 "10ed1-10ed8:So 10efa-10efb:Mn 11b60:Mn 11b61:Mc 11b62-11b64:Mn 11b65:Mc",
  categoryRow 0x11b66 0x11de9 "11b66:Mn 11b67:Mc 11db0-11dd8:Lo 11dd9:Lm 11dda-11ddb:Lo 11de0-11de9:Nd",
  categoryRow 0x16ea0 0x16ff6 "16ea0-16eb8:Lu 16ebb-16ed3:Ll 16ff2-16ff3:Lm 16ff4-16ff6:Nl",
  categoryRow 0x187f8 0x1ccfc "187f8-187ff:Lo 18d09-18d1e:Lo 18d80-18df2:Lo 1ccfa-1ccfc:So",
  categoryRow 0x1ceba 0x1e6e2 "1ceba-1ced0:So 1cee0-1ceef:So 1cef0:Sm 1e6c0-1e6de:Lo 1e6e0-1e6e2:Lo",
  categoryRow 0x1e6e3 0x1e6ef "1e6e3:Mn 1e6e4-1e6e5:Lo 1e6e6:Mn 1e6e7-1e6ed:Lo 1e6ee-1e6ef:Mn",
  categoryRow 0x1e6f0 0x1f77a "1e6f0-1e6f4:Lo 1e6f5:Mn 1e6fe:Lo 1e6ff:Lm 1f6d8:So 1f777-1f77a:So",
  categoryRow 0x1f8d0 0x1facd "1f8d0-1f8d8:Sm 1fa54-1fa57:So 1fa8a:So 1fa8e:So 1fac8:So 1facd:So",
  categoryRow 0x1faea 0x33479 "1faea:So 1faef:So 1fbfa:So 2b73a-2b73f:Lo 2cea2-2cead:Lo 323b0-33479:Lo"]

-- Alphabetic code points that version 17 adds and that are neither letters nor letter numbers.
def laterAlphabetic : CodeSet := [
  setRow 0x10efa 0x1e6f5 "10efa-10efb 11b60-11b67 1e6e3 1e6e6 1e6ee-1e6ef 1e6f5"]

-- Lowercase code points that version 17 adds outside the category of lowercase letters.
def laterLowercase : CodeSet := [
  setRow 0xa7f1 0xa7f1 "a7f1"]

-- Combining marks that the draft after version 17 adds.
def draftMarks : CodeSet := [
  setRow 0x5c8 0x11df0 "5c8-5c9 b53-b54 1ade-1adf 1aec-1af0 10ecb-10ecf 10ef0-10ef9 11df0",
  setRow 0x1d127 0x1d281 "1d127-1d128 1d250-1d25f 1d280-1d281"]

end TextFeatures.Unicode
