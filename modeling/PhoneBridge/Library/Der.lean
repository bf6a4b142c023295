import Mathlib.Data.List.Infix
import Mathlib.Data.Nat.Digits.Defs

/-!
# DER

Values as the distinguished encoding rules write them: a tag, the length of the content and the
content.
-/

namespace PhoneBridge.Library.Der

/-- The length in one octet, or in as few as it takes after their number. -/
def lengthOctets (n : Nat) : List UInt8 :=
  if n < 128 then [UInt8.ofNat n]
  else
    let octets := (Nat.digits 256 n).reverse.map UInt8.ofNat
    UInt8.ofNat (128 + octets.length) :: octets

/-- A value with its tag. -/
def value (tag : UInt8) (content : List UInt8) : List UInt8 :=
  tag :: lengthOctets content.length ++ content

def boolean (b : Bool) : List UInt8 := value 0x01 [if b then 0xFF else 0x00]

def integer (content : List UInt8) : List UInt8 := value 0x02 content

/-- A bit string of whole bytes. -/
def bitString (bytes : List UInt8) : List UInt8 := value 0x03 (0 :: bytes)

def octetString (bytes : List UInt8) : List UInt8 := value 0x04 bytes

def objectIdentifier (content : List UInt8) : List UInt8 := value 0x06 content

def sequence (elements : List (List UInt8)) : List UInt8 := value 0x30 elements.flatten

def setOf (elements : List (List UInt8)) : List UInt8 := value 0x31 elements.flatten

/-- A value under a context-specific tag of its own. -/
def explicit (number : UInt8) (element : List UInt8) : List UInt8 := value (0xA0 + number) element

/-- The octets before the content. -/
def header (tag : UInt8) (content : List UInt8) : List UInt8 := tag :: lengthOctets content.length

theorem value_eq (tag : UInt8) (content : List UInt8) :
    value tag content = header tag content ++ content :=
  rfl

theorem content_isInfix (tag : UInt8) (content : List UInt8) : content <:+: value tag content :=
  (List.suffix_append _ _).isInfix

theorem element_isInfix {element : List UInt8} {elements : List (List UInt8)}
    (h : element ∈ elements) : element <:+: sequence elements :=
  (List.infix_of_mem_flatten h).trans (content_isInfix _ _)

end PhoneBridge.Library.Der
