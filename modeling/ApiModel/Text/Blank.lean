import ApiModel.Text.Basic

/-! White space. Reading numbers skips the characters of the white-space property; stripping a text
also drops the four separators that stand between fields, groups, records and files. -/
namespace ApiModel.Text

def isWhite (c : CodePoint) : Bool :=
  let n := c.toNat
  (9 ≤ n && n ≤ 13) || n == 32 || n == 0x85 || n == 0xa0 || n == 0x1680
    || (0x2000 ≤ n && n ≤ 0x200a) || n == 0x2028 || n == 0x2029 || n == 0x202f
    || n == 0x205f || n == 0x3000

def isBlank (c : CodePoint) : Bool :=
  isWhite c || (0x1c ≤ c.toNat && c.toNat ≤ 0x1f)

def isAllBlank (text : Text) : Bool :=
  text.all isBlank

def trimWhite (cs : Text) : Text :=
  ((cs.dropWhile isWhite).reverse.dropWhile isWhite).reverse

def strip (cs : Text) : Text :=
  ((cs.dropWhile isBlank).reverse.dropWhile isBlank).reverse

end ApiModel.Text
