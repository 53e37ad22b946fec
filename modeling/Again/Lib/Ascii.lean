import Again.Lib.Bytes

/-!
# ASCII

The byte classes and searches of text scanners.
-/

namespace Again.Lib

def isAsciiUppercase (b : UInt8) : Bool := 65 ≤ b && b ≤ 90
def isAsciiLowercase (b : UInt8) : Bool := 97 ≤ b && b ≤ 122
def isAsciiDigit (b : UInt8) : Bool := 48 ≤ b && b ≤ 57
def isAsciiAlphanumeric (b : UInt8) : Bool := isAsciiUppercase b || isAsciiLowercase b || isAsciiDigit b
def isAsciiHexdigit (b : UInt8) : Bool := isAsciiDigit b || 65 ≤ b && b ≤ 70 || 97 ≤ b && b ≤ 102
/-- Space, tab, line feed, form feed and carriage return. -/
def isAsciiWhitespace (b : UInt8) : Bool := b == 32 || b == 9 || b == 10 || b == 12 || b == 13

def toAsciiLowercase (bytes : Bytes) : Bytes := bytes.map fun b => if isAsciiUppercase b then b + 32 else b

/-- Every offset at which `needle` stands. -/
def findAll (haystack needle : Bytes) : List Nat :=
  (List.range (haystack.length - needle.length + 1)).filter fun start =>
    !needle.isEmpty && needle.length ≤ haystack.length && needle.isPrefixOf (haystack.drop start)

def findSubslice (haystack needle : Bytes) : Option Nat := (findAll haystack needle).head?

/-- Drop the bytes of a set from both ends. -/
def trimMatches (set : Bytes) (bytes : Bytes) : Bytes :=
  ((bytes.dropWhile set.contains).reverse.dropWhile set.contains).reverse

/-- `bytes[start..stop]`. -/
def slice (bytes : Bytes) (start stop : Nat) : Bytes := (bytes.drop start).take (stop - start)

end Again.Lib
