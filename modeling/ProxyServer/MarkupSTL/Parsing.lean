import ProxyServer.MarkupSTL.Scanning

/-! `x_ParseElem` on a document that presents a tree: it comes to an end, and the positions that
it leaves are those of the elements of the tree, in the order of their start tags.
-/

namespace ProxyServer.MarkupSTL

open TextCursor
open ProxyServer.System (Element)

variable {szDoc rest : List UInt8} {nNext iPosParent iPos : Nat} {positions : Positions}

-----------------------------------------------------------------------------------------
-- Start tags
-----------------------------------------------------------------------------------------

namespace Positions

variable {change : ElemPos → ElemPos}

@[simp]
theorem modify_free : (positions.modify iPos change).m_iPosFree = positions.m_iPosFree :=
  rfl

@[simp]
theorem modify_same : (positions.modify iPos change).m_aPos iPos = change (positions.m_aPos iPos) :=
  Function.update_self ..

theorem modify_other {other : Nat} (different : other ≠ iPos)
    : (positions.modify iPos change).m_aPos other = positions.m_aPos other :=
  Function.update_of_ne different ..

@[simp]
theorem releasePos_aPos : positions.releasePos.m_aPos = positions.m_aPos :=
  rfl

end Positions

/-- What a round of the search for a start tag leaves behind a `<`. -/
def note (iPosParent iPos nStartL : Nat) (positions : Positions) : Positions :=
  (positions.modify iPos ({ · with nStartL := nStartL })).modify iPosParent
    ({ · with nEndL := nStartL })

theorem note_note (apart : iPos ≠ iPosParent) (first second : Nat)
    : note iPosParent iPos second (note iPosParent iPos first positions)
      = note iPosParent iPos second positions := by
  simp only [note, Positions.modify]
  congr 1
  funext other
  rcases eq_or_ne other iPos with rfl | notOwn
  · simp [Function.update_of_ne apart, Function.update_of_ne apart.symm]
  · rcases eq_or_ne other iPosParent with rfl | notParent
    · simp [Function.update_of_ne notOwn, Function.update_of_ne notOwn.symm]
    · simp [Function.update_of_ne notOwn, Function.update_of_ne notParent]

/-- The search for a start tag at an end tag. -/
theorem startTag_endTag {run : List UInt8} (plain : Plain run)
    (left : szDoc.drop nNext = run ++ byte '<' :: byte '/' :: rest) (fuel : Nat)
    : startTag szDoc iPosParent iPos (fuel + 1) nNext positions
      = some (.endTag, note iPosParent iPos (nNext + run.length) positions) := by
  have finds := findChar_run left plain (by decide)
  have behind := drop_next (drop_past left)
  have token := findToken_special (by exact behind : _ = [] ++ byte '/' :: rest) (by simp [Blanks])
    (by decide) (by decide)
  simp only [startTag, finds, token, List.length_nil, Nat.add_zero, charAt_of_drop behind]
  rw [if_neg (by decide), if_neg (by decide), if_neg (by decide), if_pos (by decide)]
  rfl

/-- The search for a start tag at the start tag of an element. -/
theorem startTag_element {run name inside : List UInt8} {stop : UInt8} (plain : Plain run)
    (isName : IsName name) (ends : special stop = true)
    (closed : ∀ c ∈ inside, c ≠ 0 ∧ c ≠ byte '>')
    (left : szDoc.drop nNext = run ++ byte '<' :: (name ++ (inside ++ byte '>' :: rest)))
    (stops : ∃ more, inside ++ byte '>' :: rest = stop :: more) (fuel : Nat)
    : startTag szDoc iPosParent iPos (fuel + 1) nNext positions
      = some (.element name (nNext + run.length + 1 + name.length + inside.length),
          note iPosParent iPos (nNext + run.length) positions) := by
  have finds := findChar_run left plain (by decide)
  have behind := drop_next (drop_past left)
  obtain ⟨more, inside_eq⟩ := stops
  have token := findToken_name
    (by rw [← inside_eq]; exact behind : _ = [] ++ (name ++ stop :: more)) (by simp [Blanks])
    isName ends
  have word := getToken_name behind (by simp) (nNext + run.length + 1 + name.length)
  have closes := findChar_run (drop_past behind) closed (by decide)
  obtain ⟨first, others, rfl⟩ := List.exists_cons_of_ne_nil isName.1
  obtain ⟨-, notSpecial, -⟩ := nameChar_plain (isName.2 first List.mem_cons_self)
  obtain ⟨-, noSlash, -, noMark⟩ := not_special notSpecial
  have begins : charAt szDoc (nNext + run.length + 1) = first := by
    rw [List.cons_append] at behind
    exact charAt_of_drop behind
  simp only [startTag, finds, token, List.length_nil, Nat.add_zero, begins, word, closes]
  rw [if_neg (by decide), if_neg (by decide), if_neg noMark, if_neg noSlash, if_neg (by decide)]
  rfl

/-- The search for a start tag goes past what stands between elements, by induction on it. -/
theorem startTag_misc {misc : List UInt8} (isMisc : Misc misc) (apart : iPos ≠ iPosParent)
    (left : szDoc.drop nNext = misc ++ rest) {fuel : Nat} (enough : misc.length < fuel)
    : ∃ run fuel' skipped noted, Plain run ∧ misc.length = skipped + run.length
        ∧ szDoc.drop (nNext + skipped) = run ++ rest
        ∧ (∀ nStartL, note iPosParent iPos nStartL noted = note iPosParent iPos nStartL positions)
        ∧ startTag szDoc iPosParent iPos fuel nNext positions
          = startTag szDoc iPosParent iPos (fuel' + 1) (nNext + skipped) noted := by
  induction isMisc generalizing nNext fuel positions with
  | @plain run plain =>
      obtain ⟨fuel', rfl⟩ := Nat.exists_eq_add_one_of_ne_zero (Nat.ne_of_gt (by omega : 0 < fuel))
      exact ⟨run, fuel', 0, positions, plain, by omega, left, fun _ => rfl, rfl⟩
  | @node run node later plain isNode isMisc ih =>
      obtain ⟨fuel', rfl⟩ := Nat.exists_eq_add_one_of_ne_zero (Nat.ne_of_gt (by omega : 0 < fuel))
      rw [List.append_assoc, List.append_assoc] at left
      have begins := drop_past left
      obtain ⟨parsed, c, more, rfl, mark⟩ := isNode.parsed begins
      have finds := findChar_run left plain (by decide)
      have behind := drop_next begins
      have token := findToken_special
        (by exact behind : _ = [] ++ c :: (more ++ (later ++ rest))) (by simp [Blanks])
        (by rcases mark with rfl | rfl <;> decide) (by rcases mark with rfl | rfl <;> decide)
      have round : startTag szDoc iPosParent iPos (fuel' + 1) nNext positions
          = startTag szDoc iPosParent iPos fuel'
            (nNext + run.length + (byte '<' :: c :: more).length)
            (note iPosParent iPos (nNext + run.length) positions) := by
        simp only [startTag, finds, token, List.length_nil, Nat.add_zero,
          charAt_of_drop behind, parsed]
        rw [if_neg (by decide), if_neg (by decide), if_pos mark]
        rfl
      simp only [List.length_append] at enough
      obtain ⟨last, fuel'', skipped, noted, plain', length, left', same, searches⟩ :=
        @ih _ (note iPosParent iPos (nNext + run.length) positions) (drop_past begins) fuel'
          (by have := isNode.length_pos; omega)
      refine ⟨last, fuel'', run.length + (byte '<' :: c :: more).length + skipped, noted, plain',
        ?_, ?_, fun nStartL => (same nStartL).trans (note_note apart _ _), ?_⟩
      · simp only [List.length_append]
        omega
      · rw [← left']
        congr 1
        omega
      · rw [round, searches]
        congr 1
        omega

-----------------------------------------------------------------------------------------
-- End tags
-----------------------------------------------------------------------------------------

/-- Blanks and what follows them begin with a special character if what follows does. -/
theorem special_behind_blanks {gap : List UInt8} {c : UInt8} (gapBlank : Blanks gap)
    (isSpecial : special c = true) (more : List UInt8)
    : ∃ stop others, gap ++ c :: more = stop :: others ∧ special stop = true := by
  cases gap with
  | nil => exact ⟨c, more, rfl, isSpecial⟩
  | cons first others =>
      exact ⟨first, others ++ c :: more, rfl,
        (blank_plain (gapBlank first List.mem_cons_self)).2.1⟩

/-- The end tag of an element is read to its `>`. -/
theorem endTag_closes {name before behind : List UInt8} (isName : IsName name)
    (beforeBlank : Blanks before) (behindBlank : Blanks behind)
    (left : szDoc.drop nNext
      = byte '/' :: (before ++ (name ++ (behind ++ byte '>' :: rest)))) (fuel : Nat)
    : endTag szDoc name (fuel + 3) nNext 0
      = some (some (nNext + 1 + before.length + name.length + behind.length)) := by
  have slash := findToken_special
    (by exact left : _ = [] ++ byte '/' :: (before ++ (name ++ (behind ++ byte '>' :: rest))))
    (by simp [Blanks]) (by decide) (by decide)
  have inside := drop_next left
  have word := drop_past inside
  obtain ⟨stop, others, stops, ends⟩ := special_behind_blanks behindBlank
    (by decide : special (byte '>') = true) rest
  have named := findToken_name (by rw [inside, stops]) beforeBlank isName ends
  have last := drop_past word
  have closes := findToken_special last behindBlank (by decide) (by decide)
  have matches' := (matchName_name word isName
    (nNext + 1 + before.length + name.length)).mpr rfl
  obtain ⟨first, more, rfl⟩ := List.exists_cons_of_ne_nil isName.1
  obtain ⟨-, notSpecial, -⟩ := nameChar_plain (isName.2 first List.mem_cons_self)
  have noAngle : first ≠ 62 := (not_special notSpecial).1
  have begins : charAt szDoc (nNext + 1 + before.length) = first := by
    rw [List.cons_append] at word
    exact charAt_of_drop word
  simp only [endTag, slash, List.length_nil, Nat.add_zero, charAt_of_drop left, named, begins,
    matches', closes, charAt_of_drop (drop_past last)]
  simp [noAngle]

-----------------------------------------------------------------------------------------
-- The positions of a tree
-----------------------------------------------------------------------------------------

mutual

/-- The number of elements in a tree. -/
def size : Element → Nat
  | .mk _ _ children => sizes children + 1

def sizes : List Element → Nat
  | [] => 0
  | child :: children => size child + sizes children

end

/-- A start tag, with the name and the attributes of an element, stands at this position. -/
def StartsAt (szDoc : List UInt8) (nStartL : Nat) (element : Element) : Prop :=
  IsName (text element.tag) ∧ ∃ inside gap stop rest, Attribs element.attributes inside
    ∧ Blanks gap ∧ (stop = byte '>' ∨ stop = byte '/')
    ∧ szDoc.drop nStartL
      = byte '<' :: (text element.tag ++ (inside ++ (gap ++ stop :: rest)))

mutual

/-- The tree of an element has its positions from `iPos` on. -/
def Placed (szDoc : List UInt8) (m_aPos : Nat → ElemPos) (parent : Nat)
    : Element → Nat → Prop
  | .mk tag attributes children, iPos =>
      (m_aPos iPos).iElemParent = parent
        ∧ StartsAt szDoc (m_aPos iPos).nStartL (.mk tag attributes children)
        ∧ (m_aPos iPos).iElemChild = (if children = [] then 0 else iPos + 1)
        ∧ PlacedAll szDoc m_aPos iPos children (iPos + 1)

/-- The trees of siblings have their positions one behind the other. -/
def PlacedAll (szDoc : List UInt8) (m_aPos : Nat → ElemPos) (parent : Nat)
    : List Element → Nat → Prop
  | [], _ => True
  | child :: children, iPos =>
      Placed szDoc m_aPos parent child iPos
        ∧ (m_aPos iPos).iElemNext = (if children = [] then 0 else iPos + size child)
        ∧ PlacedAll szDoc m_aPos parent children (iPos + size child)

end

theorem size_pos (element : Element) : 0 < size element := by
  cases element
  exact Nat.zero_lt_succ _

/-- What the placement of a tree reads of a position, but for the link to the next sibling. -/
def ElemPos.stem (position : ElemPos) : Nat × Nat × Nat :=
  (position.nStartL, position.iElemParent, position.iElemChild)

mutual

/-- A placement survives changes elsewhere, and a new sibling. -/
theorem Placed.congr {m_aPos m_aPos' : Nat → ElemPos} {parent : Nat} {element : Element}
    {iPos : Nat} (placed : Placed szDoc m_aPos parent element iPos)
    (stems : ∀ j, iPos ≤ j → j < iPos + size element → (m_aPos' j).stem = (m_aPos j).stem)
    (nexts
      : ∀ j, iPos < j → j < iPos + size element
        → (m_aPos' j).iElemNext = (m_aPos j).iElemNext)
    : Placed szDoc m_aPos' parent element iPos := by
  cases element with
  | mk tag attributes children =>
      rw [Placed] at placed ⊢
      obtain ⟨parents, starts, child, inner⟩ := placed
      have own := stems iPos (Nat.le_refl _) (Nat.lt_add_of_pos_right (size_pos _))
      simp only [ElemPos.stem, Prod.mk.injEq] at own
      rw [size] at stems nexts
      refine ⟨own.2.1.trans parents, own.1 ▸ starts, own.2.2.trans child, ?_⟩
      exact PlacedAll.congr inner (fun j from' below => stems j (by omega) (by omega))
        (fun j from' below => nexts j (by omega) (by omega))

theorem PlacedAll.congr {m_aPos m_aPos' : Nat → ElemPos} {parent : Nat}
    {children : List Element} {iPos : Nat}
    (placed : PlacedAll szDoc m_aPos parent children iPos)
    (stems : ∀ j, iPos ≤ j → j < iPos + sizes children → (m_aPos' j).stem = (m_aPos j).stem)
    (nexts
      : ∀ j, iPos ≤ j → j < iPos + sizes children
        → (m_aPos' j).iElemNext = (m_aPos j).iElemNext)
    : PlacedAll szDoc m_aPos' parent children iPos := by
  cases children with
  | nil => rw [PlacedAll]; trivial
  | cons child children =>
      rw [PlacedAll] at placed ⊢
      obtain ⟨first, next, others⟩ := placed
      rw [sizes] at stems nexts
      have positive := size_pos child
      refine ⟨?_, (nexts iPos (Nat.le_refl _) (by omega)).trans next, ?_⟩
      · exact Placed.congr first (fun j from' below => stems j from' (by omega))
          (fun j from' below => nexts j (by omega) (by omega))
      · exact PlacedAll.congr others (fun j from' below => stems j (by omega) (by omega))
          (fun j from' below => nexts j (by omega) (by omega))

end

-----------------------------------------------------------------------------------------
-- Searching for the next element
-----------------------------------------------------------------------------------------

theorem Attribs.closed {attributes : List (String × List UInt8)} {inside : List UInt8}
    (attribs : Attribs attributes inside)
    : ∀ c ∈ inside, c ≠ 0 ∧ c ≠ byte '>' := by
  have blanks {gap : List UInt8} (gapBlank : Blanks gap)
      : ∀ c ∈ gap, c ≠ 0 ∧ c ≠ byte '>' := by
    intro c member
    obtain ⟨nonzero, -, -, noAngle, -⟩ := blank_plain (gapBlank c member)
    exact ⟨nonzero, noAngle⟩
  induction attribs with
  | nil => simp
  | @cons name raw rest attributes gap before behind quote _ gapBlank isName beforeBlank
      behindBlank isQuote plain later ih =>
      have quoted : quote ≠ 0 ∧ quote ≠ byte '>' := by
        rcases isQuote with rfl | rfl
        all_goals decide
      have named : ∀ c ∈ text name, c ≠ 0 ∧ c ≠ byte '>' := by
        intro c member
        obtain ⟨nonzero, notSpecial, -⟩ := nameChar_plain (isName.2 c member)
        exact ⟨nonzero, (not_special notSpecial).1⟩
      intro c member
      simp only [List.mem_append, List.mem_cons] at member
      rcases member with inGap | inName | inBefore | rfl | inBehind | rfl | inRaw | rfl | inRest
      · exact blanks gapBlank c inGap
      · exact named c inName
      · exact blanks beforeBlank c inBefore
      · decide
      · exact blanks behindBlank c inBehind
      · exact quoted
      · exact ⟨(plain c inRaw).1, (plain c inRaw).2.1⟩
      · exact quoted
      · exact ih c inRest

theorem Attribs.last {attributes : List (String × List UInt8)} {inside : List UInt8}
    (attribs : Attribs attributes inside)
    : inside.getLast? ≠ some (byte '/') := by
  induction attribs with
  | nil => simp
  | @cons name raw rest attributes gap before behind quote _ gapBlank isName beforeBlank
      behindBlank isQuote plain later ih =>
      simp only [List.getLast?_append, List.getLast?_cons, Option.some_or]
      cases last : rest.getLast? with
      | none =>
          rcases isQuote with rfl | rfl
          all_goals decide
      | some c =>
          rw [last] at ih
          simpa using ih

/-- Attributes and blanks behind a name begin with a special character. -/
theorem Attribs.stops {attributes : List (String × List UInt8)} {inside gap : List UInt8}
    (attribs : Attribs attributes inside) (gapBlank : Blanks gap) {c : UInt8}
    (isSpecial : special c = true) (more : List UInt8)
    : ∃ stop others, inside ++ (gap ++ c :: more) = stop :: others ∧ special stop = true := by
  cases attribs with
  | nil => exact special_behind_blanks gapBlank isSpecial more
  | @cons name raw rest attributes first before behind quote apart firstBlank =>
      obtain ⟨stop, others, rfl⟩ := List.exists_cons_of_ne_nil apart
      exact ⟨stop, _, rfl, (blank_plain (firstBlank stop List.mem_cons_self)).2.1⟩

theorem finds_endTag {misc : List UInt8} (isMisc : Misc misc) (apart : iPos ≠ iPosParent)
    (left : szDoc.drop nNext = misc ++ byte '<' :: byte '/' :: rest) {fuel : Nat}
    (enough : misc.length < fuel)
    : startTag szDoc iPosParent iPos fuel nNext positions
      = some (.endTag, note iPosParent iPos (nNext + misc.length) positions) := by
  obtain ⟨run, fuel', skipped, noted, plain, length, left', same, searches⟩ :=
    @startTag_misc _ _ _ _ _ positions _ isMisc apart left _ enough
  rw [searches, startTag_endTag plain left', same, length, Nat.add_assoc]

theorem finds_element {misc name inside : List UInt8} {stop : UInt8} (isMisc : Misc misc)
    (apart : iPos ≠ iPosParent) (isName : IsName name) (ends : special stop = true)
    (closed : ∀ c ∈ inside, c ≠ 0 ∧ c ≠ byte '>')
    (left : szDoc.drop nNext = misc ++ byte '<' :: (name ++ (inside ++ byte '>' :: rest)))
    (stops : ∃ more, inside ++ byte '>' :: rest = stop :: more) {fuel : Nat}
    (enough : misc.length < fuel)
    : startTag szDoc iPosParent iPos fuel nNext positions
      = some (.element name (nNext + misc.length + 1 + name.length + inside.length),
          note iPosParent iPos (nNext + misc.length) positions) := by
  obtain ⟨run, fuel', skipped, noted, plain, length, left', same, searches⟩ :=
    @startTag_misc _ _ _ _ _ positions _ isMisc apart left _ enough
  rw [searches, startTag_element plain isName ends closed left' stops, same, length]
  simp only [Nat.add_assoc]

end ProxyServer.MarkupSTL
