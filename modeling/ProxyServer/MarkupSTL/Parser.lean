import ProxyServer.MarkupSTL.Scanner

/-! `CMarkupSTL`: a document, the positions of its elements, and a cursor over them. Of its
methods, those by which the program loads its configuration.
The vector of positions is a function here: it grows before a new position is used. What is not
defined is `none`: a loop that does not end.
-/

namespace ProxyServer.MarkupSTL

/-- `ElemPos`. -/
structure ElemPos where
  nStartL : Nat
  nStartR : Nat
  nEndL : Nat
  nEndR : Nat
  iElemParent : Nat
  iElemChild : Nat
  iElemNext : Nat
  deriving DecidableEq, Repr

/-- `ElemPos()`. -/
def ElemPos.clear : ElemPos :=
  ⟨0, 0, 0, 0, 0, 0, 0⟩

/-- `m_aPos` and `m_iPosFree`. -/
structure Positions where
  m_aPos : Nat → ElemPos
  m_iPosFree : Nat

namespace Positions

def modify (iPos : Nat) (change : ElemPos → ElemPos) (positions : Positions) : Positions :=
  { positions with
    m_aPos := Function.update positions.m_aPos iPos (change (positions.m_aPos iPos)) }

/-- `x_ReleasePos`. -/
def releasePos (positions : Positions) : Positions :=
  { positions with m_iPosFree := positions.m_iPosFree - 1 }

end Positions

-----------------------------------------------------------------------------------------
-- Parsing
-----------------------------------------------------------------------------------------

/-- What the search for a start tag comes to: a parse error, the end tag of the parent, or the
name of an element and the position of the `>` behind it.
-/
inductive StartTag
  | error
  | endTag
  | element (strName : List UInt8) (nStartR : Nat)

/-- The loop of `x_ParseElem` past the tags that begin with `?` or `!`. -/
def startTag (szDoc : List UInt8) (iPosParent iPos : Nat)
    : Nat → Nat → Positions → Option (StartTag × Positions)
  | 0, _, _ => none
  | fuel + 1, nNext, positions =>
      let (found, nStartL) := findChar szDoc nNext (byte '<')
      let started := positions.modify iPos ({ · with nStartL := nStartL })
      if found = false then some (.error, started)
      else
        let noted := started.modify iPosParent ({ · with nEndL := nStartL })
        let (found, token) := findToken szDoc (nStartL + 1)
        let cFirstChar := charAt szDoc token.nL
        if found = false ∨ token.bIsString then some (.error, noted)
        else if cFirstChar = byte '?' ∨ cFirstChar = byte '!' then
          match parseNode szDoc nStartL with
          | none => none
          | some none => some (.error, noted)
          | some (some nNext) => startTag szDoc iPosParent iPos fuel nNext noted
        else if cFirstChar = byte '/' then some (.endTag, noted)
        else
          let (found, nStartR) := findChar szDoc token.nNext (byte '>')
          if found = false then some (.error, noted)
          else some (.element (getToken szDoc token) nStartR, noted)

/-- The tokens of an end tag up to its `>`, behind `nTokenCount` of them: the position of the
`>`, unless it is not the end tag of the element.
-/
def endTag (szDoc strName : List UInt8) : Nat → Nat → Nat → Option (Option Nat)
  | 0, _, _ => none
  | fuel + 1, nNext, nTokenCount =>
      let (found, token) := findToken szDoc nNext
      let cChar := charAt szDoc token.nL
      if found = false then some none
      else if token.bIsString then endTag szDoc strName fuel token.nNext (nTokenCount + 1)
      else if nTokenCount = 0 ∧ cChar ≠ byte '/' then some none
      else if nTokenCount = 1 ∧ ¬matchName szDoc token strName then some none
      else if cChar = byte '>' then some (if nTokenCount = 0 then none else some token.nL)
      else endTag szDoc strName fuel token.nNext (nTokenCount + 1)

/-- The end of an element, behind its children: its index, or -1. -/
def finishElem (szDoc strName : List UInt8) (iPos : Nat) (positions : Positions)
    : Option (Int × Positions) := do
  let (found, nEndL) := findChar szDoc (positions.m_aPos iPos).nEndL (byte '<')
  let closing := positions.modify iPos ({ · with nEndL := nEndL })
  if found = false then
    return (-1, closing.releasePos)
  let ends ← endTag szDoc strName (szDoc.length + 1) (nEndL + 1) 0
  match ends with
  | none => return (-1, closing.releasePos)
  | some nEndR => return ((iPos : Int), closing.modify iPos ({ · with nEndR := nEndR }))

mutual

/-- `x_ParseElem`: the index of the element behind the parent's `nEndL`, 0 before the parent's
end tag, or -1.
-/
def parseElem (szDoc : List UInt8) : Nat → Nat → Positions → Option (Int × Positions)
  | 0, _, _ => none
  | fuel + 1, iPosParent, positions => do
      let iPos := positions.m_iPosFree
      let nNext := (positions.m_aPos iPosParent).nEndL
      let taken := { positions with m_iPosFree := iPos + 1 }.modify iPos
        ({ · with nStartL := nNext, iElemParent := iPosParent, iElemChild := 0, iElemNext := 0 })
      let (tag, tagged) ← startTag szDoc iPosParent iPos (szDoc.length + 1) nNext taken
      match tag with
      | .error => return (-1, tagged.releasePos)
      | .endTag => return (0, tagged.releasePos)
      | .element strName nStartR =>
          let started := tagged.modify iPos ({ · with nStartR := nStartR })
          if charAt szDoc (nStartR - 1) = byte '/' then
            return ((iPos : Int),
              started.modify iPos ({ · with nEndL := nStartR - 1, nEndR := nStartR }))
          let opened := started.modify iPos ({ · with nEndL := nStartR + 1 })
          let (iInner, filled) ← parseInner szDoc fuel iPos 0 opened
          if iInner = -1 then
            return (-1, filled)
          finishElem szDoc strName iPos filled

/-- The loop of `x_ParseElem` over the elements inside, with the result that ends it. -/
def parseInner (szDoc : List UInt8) : Nat → Nat → Nat → Positions → Option (Int × Positions)
  | 0, _, _, _ => none
  | fuel + 1, iPos, iInnerPrev, positions => do
      let (iInner, parsed) ← parseElem szDoc fuel iPos positions
      if 0 < iInner then
        let inner := iInner.toNat
        let linked :=
          if iInnerPrev ≠ 0 then parsed.modify iInnerPrev ({ · with iElemNext := inner })
          else parsed.modify iPos ({ · with iElemChild := inner })
        let nEndL := (linked.m_aPos inner).nEndR + 1
        parseInner szDoc fuel iPos inner (linked.modify iPos ({ · with nEndL := nEndL }))
      else
        return (iInner, parsed)

end

-----------------------------------------------------------------------------------------
-- Navigation
-----------------------------------------------------------------------------------------

/-- The members of `CMarkupSTL`; `m_nNodeType` is `MNT_ELEMENT` or 0 here. -/
structure CMarkup where
  m_strDoc : List UInt8
  positions : Positions
  m_iPosParent : Nat
  m_iPos : Nat
  m_iPosChild : Nat
  m_nNodeType : Nat

namespace CMarkup

/-- `m_aPos[iPos]`. -/
def elem (markup : CMarkup) (iPos : Nat) : ElemPos :=
  markup.positions.m_aPos iPos

/-- `x_SetPos`. -/
def setPos (iPosParent iPos iPosChild : Nat) (markup : CMarkup) : CMarkup :=
  { markup with
    m_iPosParent := iPosParent
    m_iPos := iPos
    m_iPosChild := iPosChild
    m_nNodeType := if iPos ≠ 0 then 1 else 0 }

/-- `SetDoc` of a text up to its NUL: whether it is well-formed. -/
def setDoc (szDoc : List UInt8) (markup : CMarkup) : Option (Bool × CMarkup) := do
  let m_strDoc := szDoc.takeWhile (· ≠ 0)
  let failed : CMarkup := {
    markup with
    m_strDoc
    positions := {
      m_aPos := Function.update markup.positions.m_aPos 0 .clear
      m_iPosFree := 1
    }
  }
  if m_strDoc = [] then
    return (false, failed.setPos 0 0 0)
  let (iPos, parsed) ← parseElem m_strDoc (m_strDoc.length + 1) 0 failed.positions
  if 0 < iPos then
    let rooted := parsed.modify 0 ({ · with iElemChild := iPos.toNat })
    return (true, { failed with positions := rooted }.setPos 0 0 0)
  let cleared := { parsed.modify 0 (fun _ => .clear) with m_iPosFree := 1 }
  return (false, { failed with positions := cleared }.setPos 0 0 0)

/-- The loop of `x_FindElem` from the element `iPos` on; its parent is not read. -/
def findElemLoop (markup : CMarkup) (szPath : List UInt8) : Nat → Nat → Nat → Option Nat
  | 0, _, _ => none
  | fuel + 1, iPathOffset, iPos =>
      if iPos = 0 then some 0
      else
        let token := (findToken markup.m_strDoc ((markup.elem iPos).nStartL + 1)).2
        if charAt szPath iPathOffset = byte '*' then
          if charAt szPath (iPathOffset + 1) = byte '/' then
            findElemLoop markup szPath fuel (iPathOffset + 2) (markup.elem iPos).iElemChild
          else some iPos
        else if matchName markup.m_strDoc token (szPath.drop iPathOffset) then
          let nLen := (token.nR - token.nL + 1).toNat
          if charAt szPath (iPathOffset + nLen) = byte '/' then
            findElemLoop markup szPath fuel (iPathOffset + nLen + 1) (markup.elem iPos).iElemChild
          else some iPos
        else findElemLoop markup szPath fuel iPathOffset (markup.elem iPos).iElemNext

/-- `x_FindElem`. -/
def findElemFrom (markup : CMarkup) (iPosParent iPos : Nat) (szPath : List UInt8)
    : Option Nat :=
  let absolute := charAt szPath 0 = byte '/'
  let start :=
    if absolute then (markup.elem 0).iElemChild
    else if iPos ≠ 0 then (markup.elem iPos).iElemNext
    else (markup.elem iPosParent).iElemChild
  let iPathOffset := if absolute then 1 else 0
  if charAt szPath iPathOffset = 0 then some start
  else findElemLoop markup szPath (markup.positions.m_iPosFree + 1) iPathOffset start

/-- `FindElem`. -/
def findElem (szName : List UInt8) (markup : CMarkup) : Option (Bool × CMarkup) := do
  let iPos ← markup.findElemFrom markup.m_iPosParent markup.m_iPos szName
  if iPos ≠ 0 then
    return (true, markup.setPos (markup.elem iPos).iElemParent iPos 0)
  return (false, markup)

/-- `IntoElem`. -/
def intoElem (markup : CMarkup) : Bool × CMarkup :=
  if markup.m_iPos ≠ 0 ∧ markup.m_nNodeType = 1 then
    (true, markup.setPos markup.m_iPos markup.m_iPosChild 0)
  else
    (false, markup)

/-- `OutOfElem`. -/
def outOfElem (markup : CMarkup) : Bool × CMarkup :=
  if markup.m_iPosParent ≠ 0 then
    (true,
      markup.setPos (markup.elem markup.m_iPosParent).iElemParent markup.m_iPosParent
        markup.m_iPos)
  else
    (false, markup)

/-- `GetAttrib`. -/
def getAttrib (szAttrib : List UInt8) (markup : CMarkup) : Option (List UInt8) := do
  if markup.m_iPos = 0 ∨ markup.m_nNodeType ≠ 1 then
    return []
  let szDoc := markup.m_strDoc
  let found ← findAttrib szDoc szAttrib (szDoc.length + 1)
    ((markup.elem markup.m_iPos).nStartL + 1) 0 0
  match found with
  | none => return []
  | some token =>
      return textFromDoc szDoc token.nL (token.nR - if token.nR < szDoc.length then 0 else 1)

end CMarkup

end ProxyServer.MarkupSTL
