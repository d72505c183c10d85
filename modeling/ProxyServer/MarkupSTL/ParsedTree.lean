import ProxyServer.MarkupSTL.Parsing

/-! `x_ParseElem` reads every way to write an element as that element, by induction on how it is
written.
-/

namespace ProxyServer.MarkupSTL

open TextCursor
open ProxyServer.System (Element)

variable {szDoc rest : List UInt8} {iPos : Nat} {positions : Positions}

/-- Below a bound, the links are those of before. -/
def Keeps (bound : Nat) (before after : Positions) : Prop :=
  ∀ j < bound, (after.m_aPos j).stem = (before.m_aPos j).stem
    ∧ (after.m_aPos j).iElemNext = (before.m_aPos j).iElemNext

/-- `x_ParseElem` reads this text as this element, behind what may stand between elements. -/
def ElemParses (element : Element) (written : List UInt8) : Prop :=
  ∀ {szDoc misc rest : List UInt8} {fuel parent : Nat} {positions : Positions}, Misc misc
    → parent < positions.m_iPosFree
    → szDoc.drop (positions.m_aPos parent).nEndL = misc ++ (written ++ rest)
    → written.length ≤ fuel
    → ∃ after, parseElem szDoc fuel parent positions = some ((positions.m_iPosFree : Int), after)
      ∧ after.m_iPosFree = positions.m_iPosFree + size element
      ∧ Placed szDoc after.m_aPos parent element positions.m_iPosFree
      ∧ (after.m_aPos positions.m_iPosFree).iElemNext = 0
      ∧ (after.m_aPos positions.m_iPosFree).nEndR + 1
        = (positions.m_aPos parent).nEndL + misc.length + written.length
      ∧ Keeps positions.m_iPosFree positions after

/-- The link to an element from the one before it, or from its parent. -/
def link (iPos iInnerPrev inner : Nat) (positions : Positions) : Positions :=
  if iInnerPrev ≠ 0 then positions.modify iInnerPrev ({ · with iElemNext := inner })
  else positions.modify iPos ({ · with iElemChild := inner })

/-- The loop over the elements inside reads this text as these elements. -/
def ContentsParse (children : List Element) (inner : List UInt8) : Prop :=
  ∀ {szDoc rest : List UInt8} {fuel iPos iInnerPrev : Nat} {positions : Positions},
    iPos < positions.m_iPosFree
    → iInnerPrev < positions.m_iPosFree
    → iInnerPrev ≠ iPos
    → szDoc.drop (positions.m_aPos iPos).nEndL
      = inner ++ byte '<' :: byte '/' :: rest
    → inner.length + 2 ≤ fuel
    → ∃ after, parseInner szDoc fuel iPos iInnerPrev positions = some (0, after)
      ∧ after.m_iPosFree = positions.m_iPosFree + sizes children
      ∧ PlacedAll szDoc after.m_aPos iPos children positions.m_iPosFree
      ∧ (after.m_aPos iPos).nEndL = (positions.m_aPos iPos).nEndL + inner.length
      ∧ Keeps positions.m_iPosFree
          (if children = [] then positions
            else link iPos iInnerPrev positions.m_iPosFree positions)
          after

/-- A new position and the marks of the search for its start tag keep the links below. -/
theorem note_keeps {parent : Nat} (below : parent < positions.m_iPosFree) (nStartL free : Nat)
    (change : ElemPos → ElemPos)
    : Keeps positions.m_iPosFree positions
        (note parent positions.m_iPosFree nStartL
          ({ positions with m_iPosFree := free }.modify positions.m_iPosFree change)) := by
  intro j small
  have apart : j ≠ positions.m_iPosFree := Nat.ne_of_lt small
  rcases eq_or_ne j parent with rfl | other
  · simp [note, Positions.modify_other apart, ElemPos.stem]
  · simp [note, Positions.modify_other other, Positions.modify_other apart]

/-- Behind the last element inside, only the end tag is found. -/
theorem parseElem_endTag {misc : List UInt8} (isMisc : Misc misc)
    (below : iPos < positions.m_iPosFree) (small : misc.length ≤ szDoc.length)
    (left : szDoc.drop (positions.m_aPos iPos).nEndL = misc ++ byte '<' :: byte '/' :: rest)
    (fuel : Nat)
    : ∃ after, parseElem szDoc (fuel + 1) iPos positions = some (0, after)
        ∧ after.m_iPosFree = positions.m_iPosFree
        ∧ (after.m_aPos iPos).nEndL = (positions.m_aPos iPos).nEndL + misc.length
        ∧ Keeps positions.m_iPosFree positions after := by
  have apart : positions.m_iPosFree ≠ iPos := Nat.ne_of_gt below
  rw [parseElem]
  simp only [finds_endTag isMisc apart left (Nat.lt_succ_of_le small)]
  refine ⟨_, rfl, rfl, by simp [note], ?_⟩
  intro j small
  exact note_keeps below _ _ _ j small


-----------------------------------------------------------------------------------------
-- Elements
-----------------------------------------------------------------------------------------

theorem note_own {parent : Nat} (apart : iPos ≠ parent) (nStartL : Nat)
    : (note parent iPos nStartL positions).m_aPos iPos
      = { positions.m_aPos iPos with nStartL := nStartL } := by
  rw [note, Positions.modify_other apart, Positions.modify_same]

/-- The positions behind the start tag of a new element. -/
def started (parent nStartL nStartR : Nat) (positions : Positions) : Positions :=
  (note parent positions.m_iPosFree nStartL
    ({ positions with m_iPosFree := positions.m_iPosFree + 1 }.modify positions.m_iPosFree
      (fun position =>
        { position with
          nStartL := (positions.m_aPos parent).nEndL
          iElemParent := parent
          iElemChild := 0
          iElemNext := 0 }))).modify
    positions.m_iPosFree ({ · with nStartR := nStartR })

section Started

variable {parent nStartL nStartR : Nat}

@[simp]
theorem started_free
    : (started parent nStartL nStartR positions).m_iPosFree = positions.m_iPosFree + 1 :=
  rfl

theorem started_own (below : parent < positions.m_iPosFree)
    : (started parent nStartL nStartR positions).m_aPos positions.m_iPosFree
      = {
        positions.m_aPos positions.m_iPosFree with
        nStartL := nStartL
        nStartR := nStartR
        iElemParent := parent
        iElemChild := 0
        iElemNext := 0
      } := by
  rw [started, Positions.modify_same, note_own (Nat.ne_of_gt below), Positions.modify_same]

theorem started_keeps (below : parent < positions.m_iPosFree)
    : Keeps positions.m_iPosFree positions (started parent nStartL nStartR positions) := by
  intro j small
  rw [started, Positions.modify_other (Nat.ne_of_lt small)]
  exact note_keeps below _ _ _ j small

end Started

/-- The last character of a segment. -/
theorem charAt_last {front : List UInt8} {nNext : Nat} {c : UInt8}
    (left : szDoc.drop nNext = front ++ rest) (last : front.getLast? = some c)
    : charAt szDoc (nNext + front.length - 1) = c := by
  obtain ⟨others, rfl⟩ := List.getLast?_eq_some_iff.mp last
  rw [List.append_assoc] at left
  rw [List.length_append, List.length_singleton, ← Nat.add_assoc, Nat.add_sub_cancel]
  exact charAt_of_drop (drop_past left)

/-- A start tag ends in a slash only where one stands in front of its `>`. -/
theorem startTag_last {name inside gap : List UInt8} {attributes : List (String × List UInt8)}
    (isName : IsName name) (attribs : Attribs attributes inside) (gapBlank : Blanks gap)
    : ∃ c, (name ++ (inside ++ gap)).getLast? = some c ∧ c ≠ byte '/' := by
  obtain ⟨c, last⟩ := Option.ne_none_iff_exists'.mp
    (by simp [isName.1] : (name ++ (inside ++ gap)).getLast? ≠ none)
  refine ⟨c, last, ?_⟩
  rintro rfl
  rw [List.getLast?_append, List.getLast?_append] at last
  cases inGap : gap.getLast? with
  | some d =>
      rw [inGap] at last
      cases last
      exact (blank_plain (gapBlank _ (List.mem_of_getLast? inGap))).2.2.2.2 rfl
  | none =>
      rw [inGap, Option.none_or] at last
      cases inInside : inside.getLast? with
      | some d =>
          rw [inInside] at last
          cases last
          exact attribs.last inInside
      | none =>
          rw [inInside, Option.none_or] at last
          have inName := nameChar_plain (isName.2 _ (List.mem_of_getLast? last))
          exact absurd inName.2.1 (by decide)

/-- `x_ParseElem` at the start tag of an element, with or without a slash in front of its `>`. -/
theorem parseElem_element {name inside gap slash misc : List UInt8}
    {attributes : List (String × List UInt8)} {parent : Nat} (isMisc : Misc misc)
    (below : parent < positions.m_iPosFree) (isName : IsName name)
    (attribs : Attribs attributes inside) (gapBlank : Blanks gap)
    (isSlash : slash = [] ∨ slash = [byte '/'])
    (left : szDoc.drop (positions.m_aPos parent).nEndL
      = misc ++ byte '<' :: (name ++ (inside ++ (gap ++ (slash ++ byte '>' :: rest)))))
    {nStartL nStartR : Nat} (from' : nStartL = (positions.m_aPos parent).nEndL + misc.length)
    (behind : nStartR
      = nStartL + 1 + name.length + inside.length + gap.length + slash.length)
    (fuel : Nat)
    : parseElem szDoc (fuel + 1) parent positions
      = if slash ≠ [] then
          some ((positions.m_iPosFree : Int),
            (started parent nStartL nStartR positions).modify positions.m_iPosFree
              ({ · with nEndL := nStartR - 1, nEndR := nStartR }))
        else
          (do
            let (iInner, filled) ← parseInner szDoc fuel positions.m_iPosFree 0
              ((started parent nStartL nStartR positions).modify positions.m_iPosFree
                ({ · with nEndL := nStartR + 1 }))
            if iInner = -1 then
              return (-1, filled)
            finishElem szDoc name positions.m_iPosFree filled) := by
  have apart : positions.m_iPosFree ≠ parent := Nat.ne_of_gt below
  have small : misc.length < szDoc.length + 1 := by
    have length := length_le_of_drop left
    omega
  have closed : ∀ c ∈ inside ++ (gap ++ slash), c ≠ 0 ∧ c ≠ byte '>' := by
    intro c member
    simp only [List.mem_append] at member
    rcases member with inInside | inGap | inSlash
    · exact attribs.closed c inInside
    · exact ⟨(blank_plain (gapBlank c inGap)).1, (blank_plain (gapBlank c inGap)).2.2.2.1⟩
    · rcases isSlash with rfl | rfl
      · simp at inSlash
      · rw [List.mem_singleton.mp inSlash]
        decide
  have tagged : szDoc.drop (positions.m_aPos parent).nEndL
      = misc ++ byte '<' :: (name ++ (inside ++ (gap ++ slash) ++ byte '>' :: rest)) := by
    rw [left]
    simp
  obtain ⟨stop, others, stops, ends⟩ : ∃ stop others,
      inside ++ (gap ++ slash) ++ byte '>' :: rest = stop :: others ∧ special stop = true := by
    rcases isSlash with rfl | rfl
    · simpa using attribs.stops gapBlank (by decide : special (byte '>') = true) rest
    · simpa using attribs.stops gapBlank (by decide : special (byte '/') = true)
        (byte '>' :: rest)
  have found := fun taken => @finds_element _ _ _ _ _ taken _ _ _ _ isMisc apart isName ends closed
    tagged ⟨others, stops⟩ _ small
  have right : nStartL + 1 + name.length + (inside ++ (gap ++ slash)).length = nStartR := by
    simp only [List.length_append]
    omega
  simp only [← from', right] at found
  have inner' := drop_next (drop_past tagged)
  rw [← from'] at inner'
  have mark : charAt szDoc (nStartR - 1) = byte '/' ↔ slash ≠ [] := by
    rcases isSlash with rfl | rfl
    · obtain ⟨c, last, other⟩ := startTag_last isName attribs gapBlank
      have here := charAt_last (by simpa using inner' : _ = name ++ (inside ++ gap) ++ _) last
      simp only [List.length_append] at here
      have back : nStartR - 1
          = nStartL + 1 + (name.length + (inside.length + gap.length)) - 1 := by
        simp at behind
        omega
      rw [back, here]
      simpa using other
    · have here := charAt_last
        (by simpa using inner' : _ = (name ++ (inside ++ (gap ++ [byte '/']))) ++ _)
        (by simp : _ = some (byte '/'))
      simp only [List.length_append] at here
      rw [show nStartR - 1 = nStartL + 1
        + (name.length + (inside.length + (gap.length + [byte '/'].length))) - 1 by omega, here]
      simp
  rw [parseElem]
  simp only [found, Option.bind_eq_bind, Option.bind_some, mark]
  rfl

/-- An empty element. -/
theorem elemParses_empty {tag : String} {attributes : List (String × List UInt8)}
    {inside gap : List UInt8} (isName : IsName (text tag)) (attribs : Attribs attributes inside)
    (gapBlank : Blanks gap)
    : ElemParses (.mk tag attributes [])
        (byte '<' :: (text tag ++ (inside ++ (gap ++ [byte '/', byte '>'])))) := by
  intro szDoc misc rest fuel parent positions isMisc below left enough
  obtain ⟨fuel, rfl⟩ := Nat.exists_eq_add_one_of_ne_zero
    (Nat.ne_of_gt (by rw [List.length_cons] at enough; omega : 0 < fuel))
  have tagged : szDoc.drop (positions.m_aPos parent).nEndL
      = misc ++ byte '<'
          :: (text tag ++ (inside ++ (gap ++ ([byte '/'] ++ byte '>' :: rest)))) := by
    rw [left]
    simp
  have own := @started_own positions parent ((positions.m_aPos parent).nEndL + misc.length)
    ((positions.m_aPos parent).nEndL + misc.length + 1 + (text tag).length + inside.length
      + gap.length + [byte '/'].length) below
  rw [parseElem_element isMisc below isName attribs gapBlank (Or.inr rfl) tagged rfl rfl,
    if_pos (by simp)]
  refine ⟨_, rfl, rfl, ?_, ?_, ?_, ?_⟩
  · rw [Placed, Positions.modify_same, own]
    refine ⟨rfl,
      ⟨isName, inside, gap, byte '/', byte '>' :: rest, attribs, gapBlank, Or.inr rfl, ?_⟩,
      rfl, by rw [PlacedAll]; trivial⟩
    exact drop_past tagged
  · rw [Positions.modify_same, own]
  · rw [Positions.modify_same]
    simp only [List.length_cons, List.length_append, List.length_nil]
    omega
  · intro j small
    rw [Positions.modify_other (Nat.ne_of_lt small)]
    exact started_keeps below j small

/-- The end tag behind the elements inside completes an element. -/
theorem finishElem_closes {name before behind : List UInt8} (isName : IsName name)
    (beforeBlank : Blanks before) (behindBlank : Blanks behind)
    (left : szDoc.drop (positions.m_aPos iPos).nEndL
      = byte '<' :: byte '/' :: (before ++ (name ++ (behind ++ byte '>' :: rest))))
    : ∃ after, finishElem szDoc name iPos positions = some ((iPos : Int), after)
        ∧ after.m_iPosFree = positions.m_iPosFree
        ∧ (after.m_aPos iPos).nEndR + 1 = (positions.m_aPos iPos).nEndL + 2 + before.length
          + name.length + behind.length + 1
        ∧ ∀ j, (after.m_aPos j).stem = (positions.m_aPos j).stem
          ∧ (after.m_aPos j).iElemNext = (positions.m_aPos j).iElemNext := by
  have finds := findChar_run (by exact left : _ = [] ++ byte '<' :: byte '/' ::
    (before ++ (name ++ (behind ++ byte '>' :: rest)))) (by simp) (by decide)
  obtain ⟨fuel, long⟩ : ∃ fuel, szDoc.length + 1 = fuel + 3 := by
    have length := length_le_of_drop (by exact left : _ = [byte '<', byte '/'] ++ _)
    simp only [List.length_cons] at length
    exact ⟨szDoc.length - 2, by omega⟩
  have closes := endTag_closes isName beforeBlank behindBlank (drop_next left) fuel
  rw [List.length_nil, Nat.add_zero] at finds
  simp only [finishElem, finds, long, closes, Option.bind_eq_bind, Option.bind_some]
  refine ⟨_, rfl, rfl, ?_, ?_⟩
  · simp only [Positions.modify_same]
  · intro j
    rcases eq_or_ne j iPos with rfl | other
    · simp [ElemPos.stem]
    · simp [Positions.modify_other other]

/-- An element with contents. -/
theorem elemParses_full {tag : String} {attributes : List (String × List UInt8)}
    {children : List Element} {inside gap inner before behind : List UInt8}
    (isName : IsName (text tag)) (attribs : Attribs attributes inside) (gapBlank : Blanks gap)
    (contents : ContentsParse children inner) (beforeBlank : Blanks before)
    (behindBlank : Blanks behind)
    : ElemParses (.mk tag attributes children)
        (byte '<' :: (text tag ++ (inside ++ (gap ++ byte '>' :: (inner
          ++ byte '<' :: byte '/' :: (before ++ (text tag ++ (behind ++ [byte '>'])))))))) := by
  intro szDoc misc rest fuel parent positions isMisc below left enough
  simp only [List.length_cons, List.length_append, List.length_nil] at enough
  obtain ⟨fuel, rfl⟩ := Nat.exists_eq_add_one_of_ne_zero (Nat.ne_of_gt (by omega : 0 < fuel))
  let endTag := byte '<' :: byte '/' :: (before ++ (text tag ++ (behind ++ byte '>' :: rest)))
  have tagged : szDoc.drop (positions.m_aPos parent).nEndL
      = misc ++ byte '<'
          :: (text tag ++ (inside ++ (gap ++ ([] ++ byte '>' :: (inner ++ endTag))))) := by
    rw [left]
    simp [endTag]
  obtain ⟨nStartL, from'⟩ : ∃ nStartL, nStartL = (positions.m_aPos parent).nEndL + misc.length :=
    ⟨_, rfl⟩
  obtain ⟨nStartR, behind'⟩ : ∃ nStartR, nStartR = nStartL + 1 + (text tag).length + inside.length
      + gap.length + ([] : List UInt8).length := ⟨_, rfl⟩
  have starts : szDoc.drop nStartL
      = byte '<' :: (text tag ++ (inside ++ (gap ++ byte '>' :: (inner ++ endTag)))) := by
    rw [from']
    exact drop_past tagged
  have inside' : szDoc.drop (nStartR + 1) = inner ++ endTag := by
    have here := drop_next (drop_past (drop_past (drop_past (drop_next starts))))
    rw [behind', List.length_nil, Nat.add_zero]
    exact here
  let opened := (started parent nStartL nStartR positions).modify positions.m_iPosFree
    ({ · with nEndL := nStartR + 1 })
  have own : opened.m_aPos positions.m_iPosFree
      = {
        positions.m_aPos positions.m_iPosFree with
        nStartL := nStartL
        nStartR := nStartR
        nEndL := nStartR + 1
        iElemParent := parent
        iElemChild := 0
        iElemNext := 0
      } := by
    rw [Positions.modify_same, started_own below]
  have filledBy := @contents szDoc _ fuel positions.m_iPosFree 0 opened (Nat.lt_succ_self _)
    (Nat.zero_lt_succ _) (Nat.ne_of_lt (Nat.zero_lt_of_lt below))
    (by rw [own]; exact inside') (by omega)
  obtain ⟨filled, parses, free, placed, nEndL, keeps⟩ := filledBy
  obtain ⟨after, finishes, free', nEndR, same⟩ := @finishElem_closes szDoc rest _ filled _ before
    behind isName beforeBlank behindBlank (by rw [nEndL, own]; exact drop_past inside')
  rw [parseElem_element isMisc below isName attribs gapBlank (Or.inl rfl) tagged from' behind',
    if_neg (by simp), parses]
  have linked : ((if children = [] then opened
        else link positions.m_iPosFree 0 opened.m_iPosFree opened).m_aPos positions.m_iPosFree).stem
        = (nStartL, parent, if children = [] then 0 else positions.m_iPosFree + 1)
      ∧ ((if children = [] then opened
        else link positions.m_iPosFree 0 opened.m_iPosFree opened).m_aPos
          positions.m_iPosFree).iElemNext = 0 := by
    split
    · simp [own, ElemPos.stem]
    · simp only [link, ne_eq, not_true_eq_false, if_false, Positions.modify_same, own, ElemPos.stem]
      exact ⟨rfl, trivial⟩
  have stem := (same positions.m_iPosFree).1.trans
    ((keeps positions.m_iPosFree (Nat.lt_succ_self _)).1.trans linked.1)
  simp only [ElemPos.stem, Prod.mk.injEq] at stem
  refine ⟨after, finishes, ?_, ?_, ?_, ?_, ?_⟩
  · have taken : opened.m_iPosFree = positions.m_iPosFree + 1 := rfl
    rw [free', free, size, taken, Nat.add_right_comm, Nat.add_assoc]
  · rw [Placed]
    refine ⟨stem.2.1,
      ⟨isName, inside, gap, byte '>', inner ++ endTag, attribs, gapBlank, Or.inl rfl, ?_⟩,
      stem.2.2, ?_⟩
    · rw [stem.1]
      exact starts
    · exact placed.congr (fun j _ _ => (same j).1) (fun j _ _ => (same j).2)
  · exact (same positions.m_iPosFree).2.trans
      ((keeps positions.m_iPosFree (Nat.lt_succ_self _)).2.trans linked.2)
  · rw [nEndR, nEndL, own]
    simp only [List.length_cons, List.length_append, List.length_nil] at behind' ⊢
    omega
  · intro j small
    have apart : j ≠ positions.m_iPosFree := Nat.ne_of_lt small
    have inner' := keeps j (Nat.lt_succ_of_lt small)
    have untouched : (if children = [] then opened
        else link positions.m_iPosFree 0 opened.m_iPosFree opened).m_aPos j
        = (started parent nStartL nStartR positions).m_aPos j := by
      split
      · exact Positions.modify_other apart
      · simp only [link, ne_eq, not_true_eq_false, if_false]
        rw [Positions.modify_other apart]
        exact Positions.modify_other apart
    rw [untouched] at inner'
    have before' := @started_keeps positions parent nStartL nStartR below j small
    exact ⟨(same j).1.trans (inner'.1.trans before'.1),
      (same j).2.trans (inner'.2.trans before'.2)⟩

-----------------------------------------------------------------------------------------
-- Contents
-----------------------------------------------------------------------------------------

/-- Linking in a new element keeps what the links below are kept by. -/
theorem Keeps.link {bound iInnerPrev inner : Nat} {before after : Positions}
    (keeps : Keeps bound before after)
    : Keeps bound (link iPos iInnerPrev inner before) (link iPos iInnerPrev inner after) := by
  intro j small
  obtain ⟨stem, next⟩ := keeps j small
  simp only [ElemPos.stem, Prod.mk.injEq] at stem
  unfold MarkupSTL.link
  split
  · rcases eq_or_ne j iInnerPrev with rfl | other
    · simp [ElemPos.stem, stem]
    · simp [Positions.modify_other other, ElemPos.stem, stem, next]
  · rcases eq_or_ne j iPos with rfl | other
    · simp [ElemPos.stem, stem, next]
    · simp [Positions.modify_other other, ElemPos.stem, stem, next]

/-- No element is left. -/
theorem contentsParse_done {misc : List UInt8} (isMisc : Misc misc) : ContentsParse [] misc := by
  intro szDoc rest fuel iPos iInnerPrev positions below _ _ left enough
  obtain ⟨fuel, rfl⟩ : ∃ fuel', fuel = fuel' + 1 + 1 := ⟨fuel - 2, by omega⟩
  have small : misc.length ≤ szDoc.length := by
    have length := length_le_of_drop left
    omega
  obtain ⟨after, parses, free, nEndL, keeps⟩ := parseElem_endTag isMisc below small left fuel
  refine ⟨after, ?_, by rw [free, sizes, Nat.add_zero], by rw [PlacedAll]; trivial, nEndL, ?_⟩
  · rw [parseInner, parses]
    rfl
  · rw [if_pos rfl]
    exact keeps

/-- A link below a new element leaves the elements from it on alone. -/
theorem link_above {iInnerPrev inner j : Nat} (below : iPos < j) (before : iInnerPrev < j)
    : (link iPos iInnerPrev inner positions).m_aPos j = positions.m_aPos j := by
  unfold link
  split
  · exact Positions.modify_other (Nat.ne_of_gt before)
  · exact Positions.modify_other (Nat.ne_of_gt below)

@[simp]
theorem link_free {iInnerPrev inner : Nat}
    : (link iPos iInnerPrev inner positions).m_iPosFree = positions.m_iPosFree := by
  unfold link
  split
  all_goals rfl

/-- Where the loop goes on is no part of what the links below are kept by. -/
theorem keeps_nEndL (bound nEndL : Nat)
    : Keeps bound positions (positions.modify iPos ({ · with nEndL := nEndL })) := by
  intro j _
  rcases eq_or_ne j iPos with rfl | other
  · simp [ElemPos.stem]
  · simp [Positions.modify_other other]

theorem Keeps.trans {bound bound' : Nat} {before between after : Positions}
    (first : Keeps bound before between) (second : Keeps bound' between after)
    (wider : bound ≤ bound')
    : Keeps bound before after := by
  intro j small
  obtain ⟨stem, next⟩ := first j small
  obtain ⟨stem', next'⟩ := second j (Nat.lt_of_lt_of_le small wider)
  exact ⟨stem'.trans stem, next'.trans next⟩

/-- One more element, in front of the others. -/
theorem contentsParse_cons {child : Element} {children : List Element}
    {misc written others : List UInt8} (isMisc : Misc misc) (long : 0 < written.length)
    (first : ElemParses child written) (later : ContentsParse children others)
    : ContentsParse (child :: children) (misc ++ (written ++ others)) := by
  intro szDoc rest fuel iPos iInnerPrev positions below below' apart left enough
  obtain ⟨fuel, rfl⟩ : ∃ fuel', fuel = fuel' + 1 := ⟨fuel - 1, by omega⟩
  simp only [List.length_append] at enough
  rw [List.append_assoc, List.append_assoc] at left
  obtain ⟨parsed, parses, free, placed, next, nEndR, keeps⟩ :=
    first isMisc below left (by omega : written.length ≤ fuel)
  have positive : 0 < positions.m_iPosFree := Nat.zero_lt_of_lt below
  have grown := size_pos child
  let fastened := link iPos iInnerPrev positions.m_iPosFree parsed
  let linked := fastened.modify iPos
    ({ · with nEndL := (fastened.m_aPos positions.m_iPosFree).nEndR + 1 })
  have moved : (linked.m_aPos iPos).nEndL
      = (positions.m_aPos iPos).nEndL + misc.length + written.length := by
    simp only [linked, fastened, Positions.modify_same]
    rw [link_above below below']
    exact nEndR
  have above : ∀ j, positions.m_iPosFree ≤ j → linked.m_aPos j = parsed.m_aPos j := by
    intro j large
    simp only [linked, fastened]
    rw [Positions.modify_other (by omega), link_above (by omega) (by omega)]
  have linkedFree : linked.m_iPosFree = positions.m_iPosFree + size child := by
    simp only [linked, fastened, Positions.modify_free, link_free, free]
  obtain ⟨after, parses', free', placed', nEndL, keeps'⟩ :=
    @later szDoc rest fuel iPos positions.m_iPosFree linked
      (by omega) (by omega) (Nat.ne_of_gt below)
      (by rw [moved]; exact drop_past (drop_past left)) (by omega)
  have own : linked.m_aPos positions.m_iPosFree = parsed.m_aPos positions.m_iPosFree :=
    above _ (Nat.le_refl _)
  -- the link to the sibling behind it is the only change to the new element
  have stems : ∀ j, positions.m_iPosFree ≤ j → j < positions.m_iPosFree + size child
      → (after.m_aPos j).stem = (parsed.m_aPos j).stem
        ∧ (j ≠ positions.m_iPosFree
          → (after.m_aPos j).iElemNext = (parsed.m_aPos j).iElemNext) := by
    intro j large small
    obtain ⟨stem, following⟩ := keeps' j (by omega)
    rw [← above j large]
    split at stem
    · rename_i last
      rw [if_pos last] at following
      exact ⟨stem, fun _ => following⟩
    · rename_i more
      rw [if_neg more] at following
      simp only [link, if_pos (Nat.ne_of_gt positive)] at stem following
      rcases eq_or_ne j positions.m_iPosFree with rfl | other
      · exact ⟨by simpa [ElemPos.stem] using stem, fun notOwn => absurd rfl notOwn⟩
      · rw [Positions.modify_other other] at stem following
        exact ⟨stem, fun _ => following⟩
  have linkedNext : (after.m_aPos positions.m_iPosFree).iElemNext
      = if children = [] then 0 else positions.m_iPosFree + size child := by
    rw [(keeps' _ (by omega)).2]
    split
    · rw [own, next]
    · simp only [link, if_pos (Nat.ne_of_gt positive), Positions.modify_same]
      exact linkedFree
  refine ⟨after, ?_, ?_, ?_, ?_, ?_⟩
  · rw [parseInner, parses]
    simp only [Option.bind_eq_bind, Option.bind_some, Int.toNat_natCast]
    rw [if_pos (by omega)]
    exact parses'
  · rw [free', linkedFree, sizes, Nat.add_assoc]
  · rw [PlacedAll]
    refine ⟨placed.congr (fun j large small => (stems j large small).1) ?_, linkedNext, ?_⟩
    · intro j large small
      exact (stems j (Nat.le_of_lt large) small).2 (Nat.ne_of_gt large)
    · rw [← linkedFree]
      exact placed'
  · rw [nEndL, moved]
    simp only [List.length_append]
    omega
  · rw [if_neg (by simp)]
    have before : Keeps positions.m_iPosFree
        (link iPos iInnerPrev positions.m_iPosFree positions) linked :=
      keeps.link.trans (keeps_nEndL _ _) (Nat.le_refl _)
    refine before.trans ?_ (Nat.le_refl _)
    intro j small
    have kept := keeps' j (by omega)
    split at kept
    · exact kept
    · simp only [link, if_pos (Nat.ne_of_gt positive)] at kept
      rw [Positions.modify_other (Nat.ne_of_lt small)] at kept
      exact kept

theorem Writes.length_pos {element : Element} {written : List UInt8}
    (writes : Writes element written)
    : 0 < written.length := by
  cases writes with
  | empty => exact Nat.zero_lt_succ _
  | full => exact Nat.zero_lt_succ _

/-- Every way to write an element is read as that element. -/
theorem Writes.parses {element : Element} {written : List UInt8}
    (writes : Writes element written)
    : ElemParses element written :=
  @Writes.rec (fun element written _ => ElemParses element written)
    (fun children inner _ => ContentsParse children inner)
    (fun isName attribs gapBlank => elemParses_empty isName attribs gapBlank)
    (fun isName attribs gapBlank _ beforeBlank behindBlank contents =>
      elemParses_full isName attribs gapBlank contents beforeBlank behindBlank)
    (fun isMisc => contentsParse_done isMisc)
    (fun isMisc writes _ first later => contentsParse_cons isMisc writes.length_pos first later)
    _ _ writes

end ProxyServer.MarkupSTL
