import ProxyServer.Library.TextCursor

/-! The scanner of `CMarkupSTL`: characters, tokens, names and texts of a document.
A document is the list of its bytes; what stands behind them is the terminating NUL. Positions
are indexes into it.
-/

namespace ProxyServer.MarkupSTL

open TextCursor

/-- The bytes of an ASCII text in the source. -/
def text (literal : String) : List UInt8 :=
  literal.toByteArray.data.toList

abbrev byte (character : Char) : UInt8 :=
  character.toNat.toUInt8

/-- `szDoc[nChar]`. -/
def charAt (szDoc : List UInt8) (nChar : Nat) : UInt8 :=
  szDoc.getD nChar 0

/-- The characters of `" \t\n\r"`. -/
def blank (c : UInt8) : Bool :=
  c = 32 ∨ c = 9 ∨ c = 10 ∨ c = 13

/-- The characters of `" \t\n\r<>=\\/?!"`. -/
def special (c : UInt8) : Bool :=
  blank c ∨ c = byte '<' ∨ c = byte '>' ∨ c = byte '=' ∨ c = 92 ∨ c = byte '/' ∨ c = byte '?'
    ∨ c = byte '!'

/-- `TokenPos`, without the document. -/
structure TokenPos where
  nL : Nat
  nR : Int
  nNext : Nat
  bIsString : Bool
  deriving DecidableEq, Repr

/-- `x_FindChar`, with the position it leaves in `nChar`. -/
def findChar (szDoc : List UInt8) (nChar : Nat) (c : UInt8) : Bool × Nat :=
  let stop := nChar + ((szDoc.drop nChar).takeWhile (fun d => d ≠ 0 ∧ d ≠ c)).length
  (charAt szDoc stop ≠ 0, stop)

/-- `x_FindToken` from `nNext`, with the token it leaves. -/
def findToken (szDoc : List UInt8) (nNext : Nat) : Bool × TokenPos :=
  let nChar := nNext + ((szDoc.drop nNext).takeWhile blank).length
  let cFirstChar := charAt szDoc nChar
  if cFirstChar = 0 then
    (false, { nL := nChar, nR := nChar, nNext := nChar, bIsString := false })
  else if cFirstChar = 34 ∨ cFirstChar = 39 then
    let close := (findChar szDoc (nChar + 1) cFirstChar).2
    (true,
      {
        nL := nChar + 1
        nR := (close : Int) - 1
        nNext := if charAt szDoc close ≠ 0 then close + 1 else close
        bIsString := true
      })
  else
    let length := ((szDoc.drop nChar).takeWhile (fun c => c ≠ 0 ∧ ¬special c)).length
    let stop := nChar + if length = 0 then 1 else length
    (true, { nL := nChar, nR := (stop : Int) - 1, nNext := stop, bIsString := false })

/-- `x_GetToken`. -/
def getToken (szDoc : List UInt8) (token : TokenPos) : List UInt8 :=
  if token.nR < token.nL then []
  else
    let length := token.nR - token.nL + if token.nR < szDoc.length then 1 else 0
    (szDoc.drop token.nL).take length.toNat

/-- `TokenPos::Match`. -/
def matchName (szDoc : List UInt8) (token : TokenPos) (szName : List UInt8) : Bool :=
  let nLen := (token.nR - token.nL + 1).toNat
  let next := szName.getD nLen 0
  (szDoc.drop token.nL).take nLen = szName.take nLen
    ∧ (next = 0 ∨ next = 32 ∨ next = byte '=' ∨ next = byte '/' ∨ next = byte '[')

/-- The tokens of a document type up to the `>` outside of brackets, and the position behind it.
-/
def docTypeEnd (szDoc : List UInt8) : Nat → Nat → Int → Option (Option Nat)
  | 0, _, _ => none
  | fuel + 1, nNext, nBrackets =>
      let (found, token) := findToken szDoc nNext
      let cChar := charAt szDoc token.nL
      if found = false then some none
      else if token.bIsString then docTypeEnd szDoc fuel token.nNext nBrackets
      else if cChar = byte '[' then docTypeEnd szDoc fuel token.nNext (nBrackets + 1)
      else if cChar = byte ']' then docTypeEnd szDoc fuel token.nNext (nBrackets - 1)
      else if nBrackets = 0 ∧ cChar = byte '>' then some (some token.nNext)
      else docTypeEnd szDoc fuel token.nNext nBrackets

/-- The position behind the first occurrence of `szEndOfNode`. -/
def nodeEnd (szDoc : List UInt8) (nNext : Nat) (szEndOfNode : List UInt8) : Option Nat :=
  (firstAt szEndOfNode (szDoc.drop nNext)).map (fun pEnd => nNext + pEnd + szEndOfNode.length)

/-- `x_ParseNode` at a `<`: `nNext` behind the node, unless its result is 0. An element leaves
`nNext` where it is.
-/
def parseNode (szDoc : List UInt8) (nNext : Nat) : Option (Option Nat) :=
  let cFirstChar := charAt szDoc (nNext + 1)
  let cSecondChar := charAt szDoc (nNext + 2)
  if cFirstChar = 0 ∨ cSecondChar = 0 then some none
  else if cFirstChar = byte '?' then some (nodeEnd szDoc nNext (text "?>"))
  else if cFirstChar = byte '!' then
    if cSecondChar = byte '[' then some (nodeEnd szDoc nNext (text "]]>"))
    else if cSecondChar = byte '-' then some (nodeEnd szDoc nNext (text "-->"))
    else docTypeEnd szDoc (szDoc.length + 1) nNext 0
  else if cFirstChar = byte '/' then some none
  else some (some nNext)

-----------------------------------------------------------------------------------------
-- Texts
-----------------------------------------------------------------------------------------

/-- `x_TextFromDoc` of the characters of a segment. -/
def fromDoc : List UInt8 → List UInt8
  | [] => []
  -- the codes lt; amp; gt; apos; and quot; behind an ampersand
  | 38 :: 108 :: 116 :: 59 :: rest => 60 :: fromDoc rest
  | 38 :: 97 :: 109 :: 112 :: 59 :: rest => 38 :: fromDoc rest
  | 38 :: 103 :: 116 :: 59 :: rest => 62 :: fromDoc rest
  | 38 :: 97 :: 112 :: 111 :: 115 :: 59 :: rest => 39 :: fromDoc rest
  | 38 :: 113 :: 117 :: 111 :: 116 :: 59 :: rest => 34 :: fromDoc rest
  | c :: rest => c :: fromDoc rest

/-- `x_TextFromDoc`. -/
def textFromDoc (szDoc : List UInt8) (nLeft : Nat) (nRight : Int) : List UInt8 :=
  fromDoc ((szDoc.drop nLeft).take (nRight + 1 - nLeft).toNat)

/-- What `x_TextToDoc` writes for a character. -/
def charToDoc (bAttrib : Bool) (cSource : UInt8) : List UInt8 :=
  if cSource = byte '<' then text "&lt;"
  else if cSource = byte '&' then text "&amp;"
  else if cSource = byte '>' then text "&gt;"
  else if bAttrib ∧ cSource = 39 then text "&apos;"
  else if bAttrib ∧ cSource = 34 then text "&quot;"
  else [cSource]

/-- `x_TextToDoc` of a text up to its NUL. -/
def textToDoc (szText : List UInt8) (bAttrib : Bool) : List UInt8 :=
  (szText.takeWhile (· ≠ 0)).flatMap (charToDoc bAttrib)

/-- `x_FindAttrib` of a named attribute from `nNext` on, behind `nCount` tokens: its value. -/
def findAttrib (szDoc : List UInt8) (szAttrib : List UInt8)
    : Nat → Nat → Nat → Nat → Option (Option TokenPos)
  | 0, _, _, _ => none
  | fuel + 1, nNext, nCount, nAttrib =>
      let (found, token) := findToken szDoc nNext
      let cChar := charAt szDoc token.nL
      if found = false then some none
      else if token.bIsString then
        if nAttrib ≠ 0 ∧ nCount = nAttrib + 2 then some (some token)
        else findAttrib szDoc szAttrib fuel token.nNext (nCount + 1) nAttrib
      else if cChar = byte '>' ∨ cChar = byte '/' then some none
      else if cChar ≠ byte '=' ∧ nAttrib = 0 ∧ nCount ≠ 0 ∧ matchName szDoc token szAttrib then
        findAttrib szDoc szAttrib fuel token.nNext (nCount + 1) nCount
      else findAttrib szDoc szAttrib fuel token.nNext (nCount + 1) nAttrib

end ProxyServer.MarkupSTL
