import SeedNavigator.Text.Blank

/-! Text in double quotes with everything escaped that would not be seen: control characters, blanks
other than the space, marks that combine with the character before them, and private characters. -/
namespace SeedNavigator.Text

def isUnseen (c : Char) : Bool :=
  let n := c.toNat
  n < 32 || (0x7F ≤ n && n ≤ 0xA0) || n = 0xAD || (c ≠ ' ' && isBlank c) ||
    (0x300 ≤ n && n ≤ 0x36F) || (0x200B ≤ n && n ≤ 0x200F) || (0x202A ≤ n && n ≤ 0x202E) ||
    (0x2060 ≤ n && n ≤ 0x206F) || (0x20D0 ≤ n && n ≤ 0x20F0) || (0xE000 ≤ n && n ≤ 0xF8FF) ||
    (0xFE00 ≤ n && n ≤ 0xFE0F) || n = 0xFEFF || (0xFFF0 ≤ n && n ≤ 0xFFFB) || 0xE0000 ≤ n

def escapeUnseen (c : Char) : List Char :=
  if c = '"' || c = '\\' then ['\\', c]
  else if c = '\n' then ['\\', 'n']
  else if c = '\r' then ['\\', 'r']
  else if c = '\t' then ['\\', 't']
  else if c.toNat = 0 then ['\\', '0']
  else if isUnseen c then ['\\', 'u', '\x7b'] ++ Nat.toDigits 16 c.toNat ++ ['\x7d']
  else [c]

def inQuotes (text : String) : String :=
  String.ofList ('"' :: text.toList.flatMap escapeUnseen ++ ['"'])

end SeedNavigator.Text
