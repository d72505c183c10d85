import ProxyServer.MarkupSTL.Grammar

/-! What the scanner finds in a document that presents a tree. -/

namespace ProxyServer.MarkupSTL

open TextCursor
open ProxyServer.System (Element)

variable {szDoc front rest : List UInt8} {nNext : Nat}

-----------------------------------------------------------------------------------------
-- Characters and tokens
-----------------------------------------------------------------------------------------

theorem charAt_of_drop {c : UInt8} (left : szDoc.drop nNext = c :: rest)
    : charAt szDoc nNext = c :=
  getD_of_drop left 0

/-- A character is found behind others. -/
theorem findChar_run {c : UInt8} (left : szDoc.drop nNext = front ++ c :: rest)
    (run : ∀ d ∈ front, d ≠ 0 ∧ d ≠ c) (nonzero : c ≠ 0)
    : findChar szDoc nNext c = (true, nNext + front.length) := by
  have stops : (szDoc.drop nNext).takeWhile (fun d => d ≠ 0 ∧ d ≠ c) = front := by
    rw [left]
    exact takeWhile_run (fun d inside => decide_eq_true (run d inside)) (by simp)
  simp only [findChar, stops, charAt_of_drop (drop_past left), decide_eq_true nonzero]

/-- A token that is one character, behind blanks. -/
theorem findToken_special {gap : List UInt8} {c : UInt8}
    (left : szDoc.drop nNext = gap ++ c :: rest) (gapBlank : Blanks gap)
    (isSpecial : special c = true) (notBlank : blank c = false)
    : findToken szDoc nNext
      = (true,
          ⟨nNext + gap.length, (nNext + gap.length : Nat), nNext + gap.length + 1, false⟩)
    := by
  have here := drop_past left
  have stops : (szDoc.drop nNext).takeWhile blank = gap := by
    rw [left]
    exact takeWhile_run gapBlank notBlank
  have nonzero : c ≠ 0 := by
    rintro rfl
    revert isSpecial
    decide
  have noQuote : ¬(c = 34 ∨ c = 39) := by
    rintro (rfl | rfl)
    all_goals
      revert isSpecial
      decide
  simp only [findToken, stops, charAt_of_drop here, if_neg nonzero, if_neg noQuote, here]
  rw [List.takeWhile_cons_of_neg (by simp [isSpecial])]
  simp

/-- A token that is a name, behind blanks. -/
theorem findToken_name {gap name : List UInt8} {stop : UInt8}
    (left : szDoc.drop nNext = gap ++ (name ++ stop :: rest)) (gapBlank : Blanks gap)
    (isName : IsName name) (ends : special stop = true)
    : findToken szDoc nNext
      = (true,
        ⟨nNext + gap.length, (nNext + gap.length + name.length : Nat) - 1,
          nNext + gap.length + name.length, false⟩) := by
  obtain ⟨first, more, rfl⟩ := List.exists_cons_of_ne_nil isName.1
  have here := drop_past left
  obtain ⟨nonzero, -, notBlank, noDouble, noSingle, -⟩ :=
    nameChar_plain (isName.2 first List.mem_cons_self)
  have stops : (szDoc.drop nNext).takeWhile blank = gap := by
    rw [left, List.cons_append]
    exact takeWhile_run gapBlank notBlank
  have word : (szDoc.drop (nNext + gap.length)).takeWhile (fun c => c ≠ 0 ∧ ¬special c)
      = first :: more := by
    rw [here]
    refine takeWhile_run (fun c inside => ?_) (by simp [ends])
    obtain ⟨nonzero, plain, -⟩ := nameChar_plain (isName.2 c inside)
    simp [nonzero, plain]
  have begins : charAt szDoc (nNext + gap.length) = first := by
    rw [List.cons_append] at here
    exact charAt_of_drop here
  simp only [findToken, stops, begins, if_neg nonzero, if_neg (not_or.mpr ⟨noDouble, noSingle⟩),
    word]
  rw [if_neg (by simp)]

/-- A token in quotes, behind blanks. -/
theorem findToken_string {gap raw : List UInt8} {quote : UInt8}
    (left : szDoc.drop nNext = gap ++ quote :: (raw ++ quote :: rest)) (gapBlank : Blanks gap)
    (isQuote : quote = 34 ∨ quote = 39) (plain : ∀ c ∈ raw, c ≠ 0 ∧ c ≠ quote)
    : findToken szDoc nNext
      = (true,
        ⟨nNext + gap.length + 1, (nNext + gap.length + 1 + raw.length : Nat) - 1,
          nNext + gap.length + 1 + raw.length + 1, true⟩) := by
  have here := drop_past left
  have inside := drop_next here
  have notBlank : blank quote = false := by
    rcases isQuote with rfl | rfl
    all_goals decide
  have nonzero : quote ≠ 0 := by
    rcases isQuote with rfl | rfl
    all_goals decide
  have stops : (szDoc.drop nNext).takeWhile blank = gap := by
    rw [left]
    exact takeWhile_run gapBlank notBlank
  have closes := findChar_run inside plain nonzero
  have behind : charAt szDoc (nNext + gap.length + 1 + raw.length) = quote :=
    charAt_of_drop (drop_past inside)
  simp only [findToken, stops, charAt_of_drop here, if_neg nonzero, if_pos isQuote, closes, behind,
    if_pos nonzero]

/-- The token of a name is the name. -/
theorem getToken_name {name : List UInt8} {nL : Nat} (left : szDoc.drop nL = name ++ rest)
    (more : rest ≠ []) (nNext : Nat)
    : getToken szDoc ⟨nL, (nL + name.length : Nat) - 1, nNext, false⟩ = name := by
  have size : name.length < (szDoc.drop nL).length := by
    rw [left, List.length_append]
    have := List.length_pos_iff.mpr more
    omega
  rw [List.length_drop] at size
  simp only [getToken]
  split
  · have empty : name.length = 0 := by omega
    rw [List.length_eq_zero_iff.mp empty]
  · rw [if_pos (by omega), left]
    have length : (((nL + name.length : Nat) : Int) - 1 - nL + 1).toNat = name.length := by
      omega
    rw [length, List.take_left]

/-- The token of a name matches that name only. -/
theorem matchName_name {name szName : List UInt8} {nL : Nat}
    (left : szDoc.drop nL = name ++ rest) (isName : IsName szName) (nNext : Nat)
    : matchName szDoc ⟨nL, (nL + name.length : Nat) - 1, nNext, false⟩ szName = true
      ↔ name = szName := by
  have length : (((nL + name.length : Nat) : Int) - 1 - nL + 1).toNat = name.length := by
    omega
  simp only [matchName, length, left, List.take_left, decide_eq_true_eq]
  constructor
  · rintro ⟨same, ends⟩
    have whole : szName.length ≤ name.length := by
      by_contra longer
      rw [List.getD_eq_getElem _ _ (by omega)] at ends
      have isChar := isName.2 _ (List.getElem_mem (by omega : name.length < szName.length))
      obtain ⟨nonzero, plain, notBlank, -, -, noBracket, -⟩ := nameChar_plain isChar
      rcases ends with zero | blank | equals | slash | bracket
      · exact nonzero zero
      · rw [blank] at notBlank
        revert notBlank
        decide
      · rw [equals] at plain
        revert plain
        decide
      · rw [slash] at plain
        revert plain
        decide
      · exact noBracket bracket
    rw [same, List.take_of_length_le whole]
  · rintro rfl
    exact ⟨(List.take_length).symm, Or.inl (List.getD_eq_default _ _ (Nat.le_refl _))⟩

-----------------------------------------------------------------------------------------
-- Nodes between elements
-----------------------------------------------------------------------------------------

theorem Node.length_pos {node : List UInt8} (isNode : Node node) : 0 < node.length := by
  cases isNode with
  | instruction => exact Nat.zero_lt_succ _
  | comment => exact Nat.zero_lt_succ _
  | cdata => exact Nat.zero_lt_succ _

/-- The end of a node is where its closing pattern ends. -/
theorem nodeEnd_closes {node pattern : List UInt8} (left : szDoc.drop nNext = node ++ rest)
    (closes : Closes pattern node)
    : nodeEnd szDoc nNext pattern = some (nNext + node.length) := by
  obtain ⟨front, split, first⟩ := closes
  rw [nodeEnd, left, firstAt_append first rest, Option.map_some, split, List.length_append]
  simp only [Nat.add_assoc]

/-- A node begins with `<` and a `?` or a `!`, and is parsed to its end. -/
theorem Node.parsed {node : List UInt8} (isNode : Node node)
    (left : szDoc.drop nNext = node ++ rest)
    : parseNode szDoc nNext = some (some (nNext + node.length))
      ∧ ∃ c more, node = byte '<' :: c :: more ∧ (c = byte '?' ∨ c = byte '!') := by
  cases isNode with
  | @instruction body printable closes =>
      refine ⟨?_, byte '?', body, rfl, Or.inl rfl⟩
      obtain ⟨c, more, rfl⟩ : ∃ c more, body = c :: more := by
        cases body with
        | nil =>
            have absent : firstAt (text "?>") (text "<?") = none := by decide +kernel
            obtain ⟨front, -, first⟩ := closes
            rw [List.append_nil, absent] at first
            cases first
        | cons c more => exact ⟨c, more, rfl⟩
      have second : charAt szDoc (nNext + 1) = byte '?' := charAt_of_drop (drop_next left)
      have third : charAt szDoc (nNext + 2) = c :=
        charAt_of_drop (drop_next (drop_next left))
      have nonzero : c ≠ 0 := by
        rintro rfl
        exact printable (by simp)
      rw [parseNode, second, third, if_neg (by simp [nonzero]), if_pos rfl,
        nodeEnd_closes left closes]
  | @comment body printable closes =>
      refine ⟨?_, byte '!', _, rfl, Or.inr rfl⟩
      have second : charAt szDoc (nNext + 1) = byte '!' := charAt_of_drop (drop_next left)
      have third : charAt szDoc (nNext + 2) = byte '-' :=
        charAt_of_drop (drop_next (drop_next left))
      rw [parseNode, second, third, if_neg (by decide), if_neg (by decide), if_pos rfl,
        if_neg (by decide), if_pos rfl, nodeEnd_closes left closes]
  | @cdata body printable closes =>
      refine ⟨?_, byte '!', _, rfl, Or.inr rfl⟩
      have second : charAt szDoc (nNext + 1) = byte '!' := charAt_of_drop (drop_next left)
      have third : charAt szDoc (nNext + 2) = byte '[' :=
        charAt_of_drop (drop_next (drop_next left))
      rw [parseNode, second, third, if_neg (by decide), if_neg (by decide), if_pos rfl,
        if_pos rfl, nodeEnd_closes left closes]

end ProxyServer.MarkupSTL
