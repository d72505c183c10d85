import ProxyServer.Runtime

/-! The part of `CMarkupSTL` that loading the configuration uses: a cursor over the elements
of a document. It is left alone by a call that fails.
-/

namespace ProxyServer.System

/-- An element with its attributes and its child elements. -/
inductive Element
  | mk (tag : String) (attributes : List (String × List UInt8)) (children : List Element)

namespace Element

def tag : Element → String
  | .mk tag _ _ => tag

def attributes : Element → List (String × List UInt8)
  | .mk _ attributes _ => attributes

def children : Element → List Element
  | .mk _ _ children => children

/-- `GetAttrib` at this element; empty when there is no such attribute. -/
def getAttrib (szAttrib : String) (element : Element) : List UInt8 :=
  (element.attributes.lookup szAttrib).getD []

end Element

/-- A position among sibling elements: the current one, if any, those behind it, and the
positions of the elements around.
-/
structure Markup where
  current : Option Element
  following : List Element
  outer : List (Element × List Element)

namespace Markup

/-- `Load`; nothing for a file that cannot be read or parsed. -/
def load (serverXml : Option Element) : Option Markup :=
  serverXml.map (fun root => ⟨none, [root], []⟩)

/-- `FindElem` among the elements behind the position. -/
def findElem (szName : String) (markup : Markup) : Option Markup :=
  match markup.following.dropWhile (fun element => element.tag ≠ szName) with
  | [] => none
  | found :: rest => some { markup with current := some found, following := rest }

/-- `IntoElem`. -/
def intoElem (markup : Markup) : Option Markup :=
  markup.current.map (fun element =>
    ⟨none, element.children, (element, markup.following) :: markup.outer⟩)

/-- `OutOfElem`. -/
def outOfElem (markup : Markup) : Option Markup :=
  match markup.outer with
  | [] => none
  | (element, following) :: outer => some ⟨some element, following, outer⟩

/-- The elements that a `while` over `FindElem` stops at. -/
def eachElem (szName : String) (markup : Markup) : List Element :=
  markup.following.filter (fun element => element.tag = szName)

end Markup

-----------------------------------------------------------------------------------------
-- Numbers
-----------------------------------------------------------------------------------------

/-- The value of the decimal digits in front of a text. -/
def leadingDigits (text : List UInt8) : Nat :=
  (text.takeWhile (fun byte => 48 ≤ byte ∧ byte ≤ 57)).foldl
    (fun value byte => 10 * value + (byte.toNat - 48)) 0

/-- `atoi`: blanks, a sign and digits; the `long` it goes through saturates. -/
def atoi (text : List UInt8) : Int :=
  match text.dropWhile (fun byte => byte = 32 ∨ 9 ≤ byte ∧ byte ≤ 13) with
  | 45 :: digits => toInt32 (max (-9223372036854775808) (-leadingDigits digits))
  | 43 :: digits => toInt32 (min 9223372036854775807 (leadingDigits digits))
  | digits => toInt32 (min 9223372036854775807 (leadingDigits digits))

end ProxyServer.System
