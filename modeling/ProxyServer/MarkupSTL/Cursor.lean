import ProxyServer.MarkupSTL.ParsedTree
import ProxyServer.MarkupSTL.Texts

/-! The cursor of `CMarkupSTL` on a document that presents a tree moves as the cursor on that
tree does. `IntoElem` goes to where `OutOfElem` came from, but for a `FindElem` between them;
the cursor on the tree always goes in front of the first element inside.
-/

namespace ProxyServer.MarkupSTL

open TextCursor
open ProxyServer.System (Element Markup)

/-- A call by which the configuration is read. -/
inductive Call
  | findElem (szName : String)
  | intoElem
  | outOfElem
  | getAttrib (szAttrib : String)

/-- What a call returns. -/
inductive Answer
  | did (done : Bool)
  | value (strValue : List UInt8)
  deriving DecidableEq

def CMarkup.call (markup : CMarkup) : Call → Option (Answer × CMarkup)
  | .findElem szName => do
      let (found, markup) ← markup.findElem (text szName)
      return (.did found, markup)
  | .intoElem => some (.did markup.intoElem.1, markup.intoElem.2)
  | .outOfElem => some (.did markup.outOfElem.1, markup.outOfElem.2)
  | .getAttrib szAttrib => do
      let strValue ← markup.getAttrib (text szAttrib)
      return (.value strValue, markup)

/-- The answers to calls one after the other. -/
def CMarkup.run : CMarkup → List Call → Option (List Answer)
  | _, [] => some []
  | markup, call :: calls => do
      let (answer, markup) ← markup.call call
      let answers ← markup.run calls
      return answer :: answers

/-- A call of the cursor on a tree, which stays where it is if the call fails. -/
def treeCall (cursor : Markup) : Call → Answer × Markup
  | .findElem szName =>
      (.did (cursor.findElem szName).isSome, (cursor.findElem szName).getD cursor)
  | .intoElem => (.did cursor.intoElem.isSome, cursor.intoElem.getD cursor)
  | .outOfElem => (.did cursor.outOfElem.isSome, cursor.outOfElem.getD cursor)
  | .getAttrib szAttrib =>
      (.value ((cursor.current.map (·.getAttrib szAttrib)).getD []), cursor)

def treeRun : Markup → List Call → List Answer
  | _, [] => []
  | cursor, call :: calls => (treeCall cursor call).1 :: treeRun (treeCall cursor call).2 calls

/-- Whether the position was last reached by `OutOfElem`. -/
def cameOut (out : Bool) (cursor : Markup) : Call → Bool
  | .findElem szName => out && (cursor.findElem szName).isNone
  | .intoElem => out && cursor.current.isNone
  | .outOfElem => out || cursor.outOfElem.isSome
  | .getAttrib _ => out

/-- A name asked for is a name, and no `IntoElem` goes back to where `OutOfElem` came from. -/
def Allowed (out : Bool) : Call → Prop
  | .findElem szName => IsName (text szName)
  | .intoElem => out = false
  | .outOfElem => True
  | .getAttrib szAttrib => IsName (text szAttrib)

instance decidableAllowed (out : Bool) : ∀ call, Decidable (Allowed out call)
  | .findElem szName => inferInstanceAs (Decidable (IsName (text szName)))
  | .intoElem => inferInstanceAs (Decidable (out = false))
  | .outOfElem => inferInstanceAs (Decidable True)
  | .getAttrib szAttrib => inferInstanceAs (Decidable (IsName (text szAttrib)))

def Proper : Bool → Markup → List Call → Prop
  | _, _, [] => True
  | out, cursor, call :: calls =>
      Allowed out call ∧ Proper (cameOut out cursor call) (treeCall cursor call).2 calls

instance decidableProper
    : ∀ (out : Bool) (cursor : Markup) (calls : List Call), Decidable (Proper out cursor calls)
  | _, _, [] => inferInstanceAs (Decidable True)
  | out, cursor, call :: calls =>
      have := decidableProper (cameOut out cursor call) (treeCall cursor call).2 calls
      inferInstanceAs (Decidable (Allowed out call
        ∧ Proper (cameOut out cursor call) (treeCall cursor call).2 calls))

-----------------------------------------------------------------------------------------
-- Positions
-----------------------------------------------------------------------------------------

/-- The elements that follow a link, up to the last sibling. -/
def Behind (szDoc : List UInt8) (positions : Positions) (parent : Nat)
    (following : List Element) (linked : Nat) : Prop :=
  ∃ iPos, 0 < iPos ∧ iPos + sizes following ≤ positions.m_iPosFree
    ∧ linked = (if following = [] then 0 else iPos)
    ∧ PlacedAll szDoc positions.m_aPos parent following iPos

/-- An element at its position, with the elements that follow it. -/
def Stands (szDoc : List UInt8) (positions : Positions) (parent : Nat) (element : Element)
    (following : List Element) (iPos : Nat) : Prop :=
  0 < iPos ∧ iPos + size element + sizes following ≤ positions.m_iPosFree
    ∧ PlacedAll szDoc positions.m_aPos parent (element :: following) iPos

/-- The elements around a position. -/
def Around (szDoc : List UInt8) (positions : Positions)
    : List (Element × List Element) → Nat → Prop
  | [], iPos => iPos = 0
  | (element, following) :: outer, iPos =>
      Stands szDoc positions (positions.m_aPos iPos).iElemParent element following iPos
        ∧ Around szDoc positions outer (positions.m_aPos iPos).iElemParent

/-- The current element, or the position in front of the first one inside the parent. -/
def Here (szDoc : List UInt8) (markup : CMarkup) (following : List Element)
    : Option Element → Prop
  | none =>
      markup.m_iPos = 0 ∧ Behind szDoc markup.positions markup.m_iPosParent following
        (markup.elem markup.m_iPosParent).iElemChild
  | some element =>
      markup.m_nNodeType = 1
        ∧ Stands szDoc markup.positions markup.m_iPosParent element following markup.m_iPos

/-- The members of `CMarkupSTL` show the position of a cursor on the tree. -/
structure Shows (szDoc : List UInt8) (out : Bool) (cursor : Markup) (markup : CMarkup) : Prop where
  doc : markup.m_strDoc = szDoc
  printable : 0 ∉ szDoc
  inside : out = false → markup.m_iPosChild = 0
  here : Here szDoc markup cursor.following cursor.current
  around : Around szDoc markup.positions cursor.outer markup.m_iPosParent

variable {szDoc rest : List UInt8} {iPos : Nat} {positions : Positions} {markup : CMarkup}

theorem size_eq (element : Element) : size element = sizes element.children + 1 := by
  cases element
  rw [size]
  rfl

theorem Stands.parent {parent : Nat} {element : Element} {following : List Element}
    (stands : Stands szDoc positions parent element following iPos)
    : (positions.m_aPos iPos).iElemParent = parent := by
  obtain ⟨-, -, placed⟩ := stands
  rw [PlacedAll] at placed
  cases element
  exact placed.1.1

/-- The elements behind one that stands somewhere. -/
theorem Stands.behind {parent : Nat} {element : Element} {following : List Element}
    (stands : Stands szDoc positions parent element following iPos)
    : Behind szDoc positions parent following (positions.m_aPos iPos).iElemNext := by
  obtain ⟨positive, room, placed⟩ := stands
  rw [PlacedAll] at placed
  exact ⟨iPos + size element, by omega, room, placed.2⟩

/-- The elements inside one that stands somewhere. -/
theorem Stands.children {parent : Nat} {element : Element} {following : List Element}
    (stands : Stands szDoc positions parent element following iPos)
    : Behind szDoc positions iPos element.children (positions.m_aPos iPos).iElemChild := by
  obtain ⟨positive, room, placed⟩ := stands
  rw [PlacedAll] at placed
  rw [size_eq] at room
  cases element with
  | mk tag attributes children =>
      obtain ⟨-, -, child, inner⟩ := placed.1
      exact ⟨iPos + 1, by omega, by simp only [Element.children] at room ⊢; omega, child, inner⟩

theorem Stands.starts {parent : Nat} {element : Element} {following : List Element}
    (stands : Stands szDoc positions parent element following iPos)
    : StartsAt szDoc (positions.m_aPos iPos).nStartL element := by
  obtain ⟨-, -, placed⟩ := stands
  rw [PlacedAll] at placed
  cases element
  exact placed.1.2.1

/-- A link to an element that is there. -/
theorem Behind.stands {parent linked : Nat} {element : Element} {following : List Element}
    (behind : Behind szDoc positions parent (element :: following) linked)
    : Stands szDoc positions parent element following linked := by
  obtain ⟨iPos, positive, room, rfl, placed⟩ := behind
  rw [sizes, ← Nat.add_assoc] at room
  exact ⟨positive, room, placed⟩

-----------------------------------------------------------------------------------------
-- `FindElem`
-----------------------------------------------------------------------------------------

theorem text_injective : Function.Injective text := by
  intro name other same
  apply String.toByteArray_inj.mp
  cases bytes : name.toByteArray with
  | mk data =>
      cases others : other.toByteArray with
      | mk data' =>
          simp only [text, bytes, others] at same
          rw [Array.toList_inj.mp same]

/-- The token behind the `<` of a start tag is the name. -/
theorem StartsAt.token {nStartL : Nat} {element : Element}
    (starts : StartsAt szDoc nStartL element)
    : findToken szDoc (nStartL + 1)
        = (true, ⟨nStartL + 1, (nStartL + 1 + (text element.tag).length : Nat) - 1,
            nStartL + 1 + (text element.tag).length, false⟩)
      ∧ ∃ rest, szDoc.drop (nStartL + 1) = text element.tag ++ rest := by
  obtain ⟨isName, inside, gap, stop, rest, attribs, gapBlank, isStop, left⟩ := starts
  have isSpecial : special stop = true := by
    rcases isStop with rfl | rfl
    all_goals decide
  have behind := drop_next left
  obtain ⟨first, others, stops, ends⟩ := attribs.stops gapBlank isSpecial rest
  have token := findToken_name
    (by rw [← stops]; exact behind : _ = [] ++ (text element.tag ++ first :: others))
    (by simp [Blanks]) isName ends
  exact ⟨token, _, behind⟩

theorem length_le_sizes (elements : List Element) : elements.length ≤ sizes elements := by
  induction elements with
  | nil => exact Nat.le_refl _
  | cons element elements ih =>
      rw [List.length_cons, sizes]
      have := size_pos element
      omega

/-- The loop stops at the next element of a name, by induction on the elements that follow. -/
theorem findElemLoop_finds {szName : String} {parent : Nat} (isName : IsName (text szName))
    (doc : markup.m_strDoc = szDoc) {following : List Element} {linked fuel : Nat}
    (behind : Behind szDoc markup.positions parent following linked)
    (enough : following.length < fuel)
    : ∃ found, markup.findElemLoop (text szName) fuel 0 linked = some found
      ∧ (following.dropWhile (fun element => element.tag ≠ szName) = [] ∧ found = 0
        ∨ ∃ element others,
          following.dropWhile (fun element => element.tag ≠ szName) = element :: others
            ∧ Stands szDoc markup.positions parent element others found) := by
  induction following generalizing linked fuel with
  | nil =>
      obtain ⟨fuel, rfl⟩ := Nat.exists_eq_add_one_of_ne_zero (Nat.ne_of_gt enough)
      obtain ⟨iPos, -, -, rfl, -⟩ := behind
      exact ⟨0, by rw [CMarkup.findElemLoop, if_pos (by simp)], Or.inl ⟨rfl, rfl⟩⟩
  | cons element following ih =>
      obtain ⟨fuel, rfl⟩ : ∃ fuel', fuel = fuel' + 1 := ⟨fuel - 1, by omega⟩
      have stands := behind.stands
      obtain ⟨token, rest, behindName⟩ := stands.starts.token
      have named := matchName_name behindName isName
        ((markup.positions.m_aPos linked).nStartL + 1 + (text element.tag).length)
      obtain ⟨first, more, isFirst⟩ := List.exists_cons_of_ne_nil isName.1
      have noWildcard : charAt (text szName) 0 ≠ byte '*' := by
        obtain ⟨-, -, -, -, -, -, noStar⟩ :=
          nameChar_plain (isName.2 first (by rw [isFirst]; exact List.mem_cons_self))
        rw [isFirst]
        exact noStar
      rw [CMarkup.findElemLoop, if_neg (Nat.ne_of_gt stands.1)]
      simp only [CMarkup.elem, doc, token, if_neg noWildcard, List.drop_zero, named]
      by_cases same : element.tag = szName
      · have past : charAt (text szName) (0 + (((((markup.positions.m_aPos linked).nStartL + 1
            + (text element.tag).length : Nat) : Int) - 1)
            - ((markup.positions.m_aPos linked).nStartL + 1 : Nat) + 1).toNat) ≠ byte '/' := by
          rw [charAt, List.getD_eq_default _ _ (by rw [same]; omega)]
          decide
        rw [if_pos (by rw [same]), if_neg past]
        refine ⟨linked, rfl, Or.inr ⟨element, following, ?_, stands⟩⟩
        rw [List.dropWhile_cons_of_neg (by simp [same])]
      · rw [if_neg (fun equal => same (text_injective equal)),
          List.dropWhile_cons_of_pos (by simp [same])]
        exact ih stands.behind (by simp only [List.length_cons] at enough; omega)

section Moves

variable {out : Bool} {cursor : Markup}

/-- Where `FindElem` begins: at the elements that follow the position. -/
theorem Shows.behind (shows' : Shows szDoc out cursor markup)
    : Behind szDoc markup.positions markup.m_iPosParent cursor.following
        (if markup.m_iPos ≠ 0 then (markup.elem markup.m_iPos).iElemNext
          else (markup.elem markup.m_iPosParent).iElemChild) := by
  have here := shows'.here
  cases current : cursor.current with
  | none =>
      rw [current] at here
      rw [if_neg (by simp [here.1])]
      exact here.2
  | some element =>
      rw [current] at here
      rw [if_pos (Nat.ne_of_gt here.2.1)]
      exact here.2.behind

theorem findElem_shows {szName : String} (shows' : Shows szDoc out cursor markup)
    (isName : IsName (text szName))
    : ∃ after, markup.call (.findElem szName)
        = some ((treeCall cursor (.findElem szName)).1, after)
      ∧ Shows szDoc (cameOut out cursor (.findElem szName))
          (treeCall cursor (.findElem szName)).2 after := by
  obtain ⟨first, more, isFirst⟩ := List.exists_cons_of_ne_nil isName.1
  have isChar := nameChar_plain (isName.2 first (by rw [isFirst]; exact List.mem_cons_self))
  have begins : charAt (text szName) 0 = first := by
    rw [isFirst]
    rfl
  have noSlash : first ≠ byte '/' := by
    rintro rfl
    exact absurd isChar.2.1 (by decide)
  have behind := shows'.behind
  have room : cursor.following.length < markup.positions.m_iPosFree + 1 := by
    obtain ⟨iPos, -, room, -⟩ := behind
    have := length_le_sizes cursor.following
    omega
  obtain ⟨found, finds, result⟩ := findElemLoop_finds isName shows'.doc behind room
  have searches : markup.findElemFrom markup.m_iPosParent markup.m_iPos (text szName)
      = some found := by
    simp only [CMarkup.findElemFrom, begins, if_neg noSlash, if_neg isChar.1]
    exact finds
  rcases result with ⟨nothing, rfl⟩ | ⟨element, others, something, stands⟩
  · have fails : cursor.findElem szName = none := by rw [Markup.findElem, nothing]
    refine ⟨markup, ?_, ?_⟩
    · simp [CMarkup.call, CMarkup.findElem, searches, treeCall, fails]
    · rw [treeCall, cameOut, fails]
      simpa using shows'
  · have finds : cursor.findElem szName
        = some { cursor with current := some element, following := others } := by
      rw [Markup.findElem, something]
    have parent := stands.parent
    refine ⟨markup.setPos (markup.elem found).iElemParent found 0, ?_, ?_⟩
    · simp [CMarkup.call, CMarkup.findElem, searches, treeCall, finds, Nat.ne_of_gt stands.1]
    · rw [treeCall, cameOut, finds]
      rw [CMarkup.elem, parent]
      exact {
        doc := shows'.doc
        printable := shows'.printable
        inside := fun _ => rfl
        here := ⟨if_pos (Nat.ne_of_gt stands.1), stands⟩
        around := shows'.around
      }

theorem intoElem_shows (shows' : Shows szDoc out cursor markup) (notOut : out = false)
    : ∃ after, markup.call .intoElem = some ((treeCall cursor .intoElem).1, after)
      ∧ Shows szDoc (cameOut out cursor .intoElem) (treeCall cursor .intoElem).2 after := by
  have here := shows'.here
  have inside := shows'.inside notOut
  cases current : cursor.current with
  | none =>
      rw [current] at here
      refine ⟨markup, ?_, ?_⟩
      · simp [CMarkup.call, CMarkup.intoElem, here.1, treeCall, Markup.intoElem, current]
      · simpa [treeCall, cameOut, Markup.intoElem, current] using shows'
  | some element =>
      rw [current] at here
      obtain ⟨isElement, stands⟩ := here
      have positive := Nat.ne_of_gt stands.1
      have around : Around szDoc markup.positions ((element, cursor.following) :: cursor.outer)
          markup.m_iPos := by
        rw [Around, stands.parent]
        exact ⟨stands, shows'.around⟩
      refine ⟨markup.setPos markup.m_iPos 0 0, ?_, ?_⟩
      · simp [CMarkup.call, CMarkup.intoElem, positive, isElement, inside, treeCall,
          Markup.intoElem, current]
      · simp only [treeCall, cameOut, Markup.intoElem, current, Option.map_some, Option.getD_some]
        exact {
          doc := shows'.doc
          printable := shows'.printable
          inside := fun _ => rfl
          here := ⟨rfl, stands.children⟩
          around := around
        }

theorem outOfElem_shows (shows' : Shows szDoc out cursor markup)
    : ∃ after, markup.call .outOfElem = some ((treeCall cursor .outOfElem).1, after)
      ∧ Shows szDoc (cameOut out cursor .outOfElem) (treeCall cursor .outOfElem).2 after := by
  have around := shows'.around
  cases outer : cursor.outer with
  | nil =>
      rw [outer, Around] at around
      refine ⟨markup, ?_, ?_⟩
      · simp [CMarkup.call, CMarkup.outOfElem, around, treeCall, Markup.outOfElem, outer]
      · simpa [treeCall, cameOut, Markup.outOfElem, outer] using shows'
  | cons parent outers =>
      obtain ⟨element, following⟩ := parent
      rw [outer] at around
      obtain ⟨stands, farther⟩ := around
      have positive := Nat.ne_of_gt stands.1
      refine ⟨markup.setPos (markup.elem markup.m_iPosParent).iElemParent markup.m_iPosParent
        markup.m_iPos, ?_, ?_⟩
      · simp [CMarkup.call, CMarkup.outOfElem, positive, treeCall, Markup.outOfElem, outer]
      · simp only [treeCall, cameOut, Markup.outOfElem, outer, Option.isSome_some, Bool.or_true,
          Option.getD_some]
        exact {
          doc := shows'.doc
          printable := shows'.printable
          inside := by simp
          here := ⟨if_pos positive, stands⟩
          around := farther
        }

end Moves

-----------------------------------------------------------------------------------------
-- `GetAttrib`
-----------------------------------------------------------------------------------------

/-- The first character of a name is the first one of its token. -/
theorem IsName.begins {name : List UInt8} {nL : Nat} (isName : IsName name)
    (left : szDoc.drop nL = name ++ rest)
    : special (charAt szDoc nL) = false := by
  obtain ⟨first, more, rfl⟩ := List.exists_cons_of_ne_nil isName.1
  rw [List.cons_append] at left
  rw [charAt_of_drop left]
  exact (nameChar_plain (isName.2 first List.mem_cons_self)).2.1

/-- The tokens of a start tag are searched for the first attribute of a name, by induction on the
attributes.
-/
theorem findAttrib_finds {szAttrib : String} (isName : IsName (text szAttrib))
    {attributes : List (String × List UInt8)} {inside gap : List UInt8} {stop : UInt8}
    (attribs : Attribs attributes inside) (gapBlank : Blanks gap)
    (isStop : stop = byte '>' ∨ stop = byte '/') {nNext nCount fuel : Nat}
    (left : szDoc.drop nNext = inside ++ (gap ++ stop :: rest)) (counted : nCount ≠ 0)
    (enough : inside.length < fuel)
    : attributes.lookup szAttrib = none
        ∧ findAttrib szDoc (text szAttrib) fuel nNext nCount 0 = some none
      ∨ ∃ raw quote behind nL nNext', attributes.lookup szAttrib = some (fromDoc raw)
        ∧ findAttrib szDoc (text szAttrib) fuel nNext nCount 0
          = some (some ⟨nL, (nL + raw.length : Nat) - 1, nNext', true⟩)
        ∧ szDoc.drop nL = raw ++ quote :: behind := by
  induction attribs generalizing nNext nCount fuel with
  | nil =>
      obtain ⟨fuel, rfl⟩ := Nat.exists_eq_add_one_of_ne_zero (Nat.ne_of_gt enough)
      have isSpecial : special stop = true ∧ blank stop = false := by
        rcases isStop with rfl | rfl
        all_goals decide
      have token := findToken_special left gapBlank isSpecial.1 isSpecial.2
      refine Or.inl ⟨rfl, ?_⟩
      simp only [findAttrib, token, charAt_of_drop (drop_past left)]
      rw [if_neg (by decide), if_neg (by decide), if_pos isStop]
  | @cons name raw later attributes before' before behind quote apart beforeBlank' isName'
      beforeBlank behindBlank isQuote plain attribs ih =>
      simp only [List.length_append, List.length_cons] at enough
      obtain ⟨fuel, rfl⟩ : ∃ fuel', fuel = fuel' + 1 + 1 + 1 := ⟨fuel - 3, by omega⟩
      simp only [List.append_assoc, List.cons_append] at left
      obtain ⟨first, others, stops, ends⟩ := special_behind_blanks beforeBlank
        (by decide : special (byte '=') = true)
        (behind ++ quote :: (raw ++ quote :: (later ++ (gap ++ stop :: rest))))
      have named := findToken_name (by rw [left, stops]) beforeBlank' isName' ends
      have word := drop_past left
      have equals := drop_past word
      have sign := findToken_special equals beforeBlank (by decide) (by decide)
      have quoted := drop_next (drop_past equals)
      have value := findToken_string quoted behindBlank isQuote
        (fun c member => ⟨(plain c member).1, (plain c member).2.2⟩)
      have raw' := drop_next (drop_past quoted)
      have matches' := matchName_name word isName
        (nNext + before'.length + (text name).length)
      obtain ⟨noAngle, noSlash, noSign, -⟩ : _ ≠ 62 ∧ _ ≠ 47 ∧ _ ≠ 61 ∧ _ :=
        not_special (isName'.begins word)
      have atSign := charAt_of_drop (drop_past equals)
      by_cases same : name = szAttrib
      · subst same
        have here : ((name, fromDoc raw) :: attributes).lookup name = some (fromDoc raw) := by
          rw [List.lookup_cons_self]
        refine Or.inr ⟨raw, quote, _, _, nNext + before'.length + (text name).length
          + before.length + 1 + behind.length + 1 + raw.length + 1, here, ?_, raw'⟩
        simp only [findAttrib, named, sign, value, matches', atSign]
        simp [noAngle, noSlash, noSign, counted]
      · have later' : ((name, fromDoc raw) :: attributes).lookup szAttrib
            = attributes.lookup szAttrib := by
          rw [List.lookup_cons, beq_eq_false_iff_ne.mpr (Ne.symm same)]
        have differs : text name ≠ text szAttrib := fun equal => same (text_injective equal)
        have skips : findAttrib szDoc (text szAttrib) (fuel + 1 + 1 + 1) nNext nCount 0
            = findAttrib szDoc (text szAttrib) fuel
              (nNext + before'.length + (text name).length + before.length + 1
                + behind.length + 1 + raw.length + 1) (nCount + 1 + 1 + 1) 0 := by
          simp only [findAttrib, named, sign, value, matches', atSign]
          simp [noAngle, noSlash, differs]
        rw [later', skips]
        exact ih (drop_next (drop_past raw')) (by omega) (by omega)

/-- `GetAttrib` at an element. -/
theorem getAttrib_stands {szAttrib : String} (isName : IsName (text szAttrib))
    (doc : markup.m_strDoc = szDoc) {parent : Nat} {element : Element}
    {following : List Element} (isElement : markup.m_nNodeType = 1)
    (stands : Stands szDoc markup.positions parent element following markup.m_iPos)
    : markup.getAttrib (text szAttrib) = some (element.getAttrib szAttrib) := by
  obtain ⟨token, -⟩ := stands.starts.token
  obtain ⟨isTag, inside, gap, stop, rest, attribs, gapBlank, isStop, left⟩ := stands.starts
  have behind := drop_past (drop_next left)
  obtain ⟨noAngle, noSlash, -⟩ : _ ≠ 62 ∧ _ ≠ 47 ∧ _ :=
    not_special (isTag.begins (drop_next left))
  -- the name of the element is the first token, and never the name of an attribute
  have skips : findAttrib szDoc (text szAttrib) (szDoc.length + 1)
      ((markup.positions.m_aPos markup.m_iPos).nStartL + 1) 0 0
      = findAttrib szDoc (text szAttrib) szDoc.length
        ((markup.positions.m_aPos markup.m_iPos).nStartL + 1 + (text element.tag).length) 1 0 := by
    simp only [findAttrib, token]
    simp [noAngle, noSlash]
  have enough : inside.length < szDoc.length := by
    have length := length_le_of_drop (by exact left : _ = byte '<' :: text element.tag ++ _)
    simp only [List.length_append, List.length_cons] at length
    omega
  have positive : ¬(markup.m_iPos = 0 ∨ markup.m_nNodeType ≠ 1) := by
    simp [isElement, Nat.ne_of_gt stands.1]
  rcases findAttrib_finds isName attribs gapBlank isStop behind Nat.one_ne_zero enough with
    ⟨absent, finds⟩ | ⟨raw, quote, behind', nL, nNext', present, finds, left'⟩
  · rw [CMarkup.getAttrib, if_neg positive]
    simp only [CMarkup.elem, doc, skips, finds, Option.bind_eq_bind, Option.bind_some,
      Element.getAttrib, absent]
    rfl
  · have inDoc : (((nL + raw.length : Nat) : Int) - 1) < szDoc.length := by
      have length := congrArg List.length left'
      simp only [List.length_drop, List.length_append, List.length_cons] at length
      omega
    have length : ((((nL + raw.length : Nat) : Int) - 1) - 0 + 1 - nL).toNat = raw.length := by
      omega
    rw [CMarkup.getAttrib, if_neg positive]
    simp only [CMarkup.elem, doc, skips, finds, Option.bind_eq_bind, Option.bind_some,
      Element.getAttrib, present, if_pos inDoc, textFromDoc, left', length,
      List.take_left]
    rfl

theorem getAttrib_shows {out : Bool} {cursor : Markup} {szAttrib : String}
    (shows' : Shows szDoc out cursor markup) (isName : IsName (text szAttrib))
    : markup.call (.getAttrib szAttrib)
      = some ((treeCall cursor (.getAttrib szAttrib)).1, markup) := by
  have here := shows'.here
  cases current : cursor.current with
  | none =>
      rw [current] at here
      simp [CMarkup.call, CMarkup.getAttrib, here.1, treeCall, current]
  | some element =>
      rw [current] at here
      simp [CMarkup.call, getAttrib_stands isName shows'.doc here.1 here.2, treeCall, current]

-----------------------------------------------------------------------------------------
-- Runs
-----------------------------------------------------------------------------------------

/-- From a position that is shown, every run of calls has the answers of the tree, by induction
on the calls.
-/
theorem Shows.runs {out : Bool} {cursor : Markup} {calls : List Call}
    (shows' : Shows szDoc out cursor markup) (proper : Proper out cursor calls)
    : markup.run calls = some (treeRun cursor calls) := by
  induction calls generalizing out cursor markup with
  | nil => rfl
  | cons call calls ih =>
      obtain ⟨named, later⟩ := proper
      have step : ∃ after, markup.call call = some ((treeCall cursor call).1, after)
          ∧ Shows szDoc (cameOut out cursor call) (treeCall cursor call).2 after := by
        cases call with
        | findElem szName => exact findElem_shows shows' named
        | intoElem => exact intoElem_shows shows' named
        | outOfElem => exact outOfElem_shows shows'
        | getAttrib szAttrib => exact ⟨markup, getAttrib_shows shows' named, shows'⟩
      obtain ⟨after, calls', shown⟩ := step
      simp only [CMarkup.run, treeRun, calls', ih shown later, Option.bind_eq_bind,
        Option.bind_some, Option.pure_def]

/-- A document that presents a tree is well-formed, and the position is in front of its root. -/
theorem setDoc_shows {root : Element} (presents : Presents root szDoc) (markup : CMarkup)
    : ∃ loaded cursor, markup.setDoc szDoc = some (true, loaded)
      ∧ Markup.load (some root) = some cursor ∧ Shows szDoc false cursor loaded := by
  obtain ⟨printable, misc, written, rest, isMisc, writes, whole⟩ := presents
  have uncut : szDoc.takeWhile (· ≠ 0) = szDoc := by
    rw [List.takeWhile_eq_self_iff]
    intro c member
    exact decide_eq_true (fun zero => printable (zero ▸ member))
  have long := writes.length_pos
  have some' : szDoc ≠ [] := by
    rintro rfl
    have length := congrArg List.length whole
    simp only [List.length_nil, List.length_append] at length
    omega
  let cleared : Positions := {
    m_aPos := Function.update markup.positions.m_aPos 0 .clear
    m_iPosFree := 1
  }
  have start : (cleared.m_aPos 0).nEndL = 0 := by simp [cleared, ElemPos.clear]
  obtain ⟨parsed, parses, free, placed, next, -, -⟩ :=
    @Writes.parses _ _ writes szDoc misc rest (szDoc.length + 1) 0 cleared isMisc
      Nat.zero_lt_one (by rw [start]; exact whole)
      (by rw [whole]; simp only [List.length_append]; omega)
  let rooted := parsed.modify 0 ({ · with iElemChild := 1 })
  have same : ∀ j, 1 ≤ j → rooted.m_aPos j = parsed.m_aPos j :=
    fun j large => Positions.modify_other (Nat.ne_of_gt large)
  have stands : PlacedAll szDoc rooted.m_aPos 0 [root] 1 := by
    rw [PlacedAll]
    refine ⟨?_, ?_, by rw [PlacedAll]; trivial⟩
    · exact placed.congr (fun j large _ => by rw [same j large])
        (fun j large _ => by rw [same j (Nat.le_of_lt large)])
    · rw [same 1 (Nat.le_refl _)]
      exact next
  refine ⟨CMarkup.setPos 0 0 0 { markup with m_strDoc := szDoc, positions := rooted }, _, ?_, rfl,
    ?_⟩
  · simp only [CMarkup.setDoc, uncut, if_neg some']
    simp only [cleared] at parses
    rw [parses]
    rfl
  · exact {
      doc := rfl
      printable
      inside := fun _ => rfl
      here := by
        refine ⟨rfl, 1, Nat.zero_lt_one, ?_, ?_, stands⟩
        · simp only [sizes, Nat.add_zero]
          exact Nat.le_of_eq free.symm
        · simp [CMarkup.elem, CMarkup.setPos, rooted]
      around := rfl
    }

/-- However a tree is written, a run of calls on the text answers as the tree does. -/
theorem presented_run {root : Element} {calls : List Call} {cursor : Markup} {markup : CMarkup}
    (presents : Presents root szDoc) (loads : Markup.load (some root) = some cursor)
    (proper : Proper false cursor calls)
    : ∃ loaded, markup.setDoc szDoc = some (true, loaded)
      ∧ loaded.run calls = some (treeRun cursor calls) := by
  obtain ⟨loaded, cursor', sets, loads', shown⟩ := setDoc_shows presents markup
  cases loads.symm.trans loads'
  exact ⟨loaded, sets, shown.runs proper⟩

/-- A small configuration. -/
def sampleTree : Element :=
  .mk "SYSTEM" [("LogDir", text "../a>b")]
    [.mk "Node" [] [], .mk "IPMap" [] [.mk "IP" [("eth0", text "10.0.0.1")] []]]

def sampleCalls : List Call :=
  [.findElem "SYSTEM", .getAttrib "LogDir", .intoElem, .findElem "IPMap", .intoElem,
    .findElem "IP", .getAttrib "eth0", .findElem "IP", .outOfElem, .findElem "Node"]

def emptyMarkup : CMarkup where
  m_strDoc := []
  positions := { m_aPos := fun _ => .clear, m_iPosFree := 1 }
  m_iPosParent := 0
  m_iPos := 0
  m_iPosChild := 0
  m_nNodeType := 0

theorem presented_run_sample
    : ∃ loaded, emptyMarkup.setDoc (written sampleTree) = some (true, loaded)
      ∧ loaded.run sampleCalls
        = some (treeRun ⟨none, [sampleTree], []⟩ sampleCalls) :=
  presented_run
    (presents_written (by simp only [sampleTree, Named, NamedAll]; decide +kernel)) rfl
    (by decide +kernel)

end ProxyServer.MarkupSTL
