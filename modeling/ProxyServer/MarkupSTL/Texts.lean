import ProxyServer.MarkupSTL.Parsing

/-! Texts as they stand in a document, and a way to write every tree whose names are names. -/

namespace ProxyServer.MarkupSTL

open TextCursor
open ProxyServer.System (Element Markup)

-----------------------------------------------------------------------------------------
-- Texts
-----------------------------------------------------------------------------------------

theorem fromDoc_plain {c : UInt8} (plain : c ≠ byte '&') (rest : List UInt8)
    : fromDoc (c :: rest) = c :: fromDoc rest := by
  rw [fromDoc]
  all_goals
    intro _ is
    exact absurd is plain

/-- What is written for a character is read as it. -/
theorem fromDoc_charToDoc (bAttrib : Bool) (c : UInt8) (rest : List UInt8)
    : fromDoc (charToDoc bAttrib c ++ rest) = c :: fromDoc rest := by
  have codes : text "&lt;" = [38, 108, 116, 59] ∧ text "&amp;" = [38, 97, 109, 112, 59]
      ∧ text "&gt;" = [38, 103, 116, 59] ∧ text "&apos;" = [38, 97, 112, 111, 115, 59]
      ∧ text "&quot;" = [38, 113, 117, 111, 116, 59] := by
    decide +kernel
  obtain ⟨lt, amp, gt, apos, quot⟩ := codes
  unfold charToDoc
  split
  · rename_i is
    rw [lt, is]
    exact fromDoc.eq_2 rest
  split
  · rename_i is
    rw [amp, is]
    exact fromDoc.eq_3 rest
  split
  · rename_i is
    rw [gt, is]
    exact fromDoc.eq_4 rest
  split
  · rename_i is
    rw [apos, is.2]
    exact fromDoc.eq_5 rest
  split
  · rename_i is
    rw [quot, is.2]
    exact fromDoc.eq_6 rest
  · rename_i notAmp _ _ _
    exact fromDoc_plain notAmp rest

/-- A text without a NUL is read as it was written, in an attribute and elsewhere. -/
theorem fromDoc_textToDoc {szText : List UInt8} (printable : 0 ∉ szText) (bAttrib : Bool)
    : fromDoc (textToDoc szText bAttrib) = szText := by
  have uncut : szText.takeWhile (· ≠ 0) = szText := by
    rw [List.takeWhile_eq_self_iff]
    intro c member
    exact decide_eq_true (fun zero => printable (zero ▸ member))
  rw [textToDoc, uncut]
  clear printable uncut
  induction szText with
  | nil => rfl
  | cons c rest ih => rw [List.flatMap_cons, fromDoc_charToDoc, ih]

/-- Wherever a text is written in a document, it is read there as it was. -/
theorem textFromDoc_textToDoc {szText : List UInt8} (printable : 0 ∉ szText) (bAttrib : Bool)
    (front rest : List UInt8)
    : textFromDoc (front ++ (textToDoc szText bAttrib ++ rest)) front.length
        ((front.length + (textToDoc szText bAttrib).length : Nat) - 1)
      = szText := by
  have length : (((front.length + (textToDoc szText bAttrib).length : Nat) : Int) - 1 + 1
      - front.length).toNat = (textToDoc szText bAttrib).length := by
    omega
  rw [textFromDoc, List.drop_left, length, List.take_left, fromDoc_textToDoc printable]

theorem textFromDoc_textToDoc_codes
    : textFromDoc
        (text "<IP eth0=" ++ (textToDoc (text "a<b & 'c'") true ++ text "/>"))
        (text "<IP eth0=").length
        (((text "<IP eth0=").length + (textToDoc (text "a<b & 'c'") true).length : Nat) - 1)
      = text "a<b & 'c'" :=
  textFromDoc_textToDoc (by decide +kernel) true (text "<IP eth0=") (text "/>")

example : textToDoc (text "a<b & 'c'") true = text "a&lt;b &amp; &apos;c&apos;" := by
  decide +kernel

/-- The value of an attribute is written without the characters that would end it. -/
theorem textToDoc_plain (szText : List UInt8)
    : ∀ c ∈ textToDoc szText true, c ≠ 0 ∧ c ≠ byte '>' ∧ c ≠ 34 := by
  have codes : ∀ code ∈ ["&lt;", "&amp;", "&gt;", "&apos;", "&quot;"],
      ∀ c ∈ text code, c ≠ 0 ∧ c ≠ byte '>' ∧ c ≠ 34 := by
    decide +kernel
  intro c member
  obtain ⟨source, inText, inCode⟩ := List.mem_flatMap.mp member
  have nonzero : source ≠ 0 := of_decide_eq_true
    (List.all_eq_true.mp List.all_takeWhile source inText)
  unfold charToDoc at inCode
  split at inCode
  · exact codes _ (by simp) c inCode
  split at inCode
  · exact codes _ (by simp) c inCode
  split at inCode
  · exact codes _ (by simp) c inCode
  split at inCode
  · exact codes _ (by simp) c inCode
  split at inCode
  · exact codes _ (by simp) c inCode
  · rename_i noAngle noApos noQuot
    rw [List.mem_singleton.mp inCode]
    exact ⟨nonzero, noAngle, fun is => noQuot ⟨rfl, is⟩⟩

-----------------------------------------------------------------------------------------
-- Trees
-----------------------------------------------------------------------------------------

/-- Attributes, each behind a blank and in double quotes. -/
def writtenAttribs : List (String × List UInt8) → List UInt8
  | [] => []
  | (name, value) :: attributes =>
      [32] ++ (text name ++ ([] ++ byte '='
        :: ([] ++ 34 :: (textToDoc value true ++ 34 :: writtenAttribs attributes))))

mutual

/-- A tree without anything between its elements. -/
def written : Element → List UInt8
  | .mk tag attributes children =>
      byte '<' :: (text tag ++ (writtenAttribs attributes ++ ([] ++ byte '>'
        :: (writtenAll children ++ byte '<' :: byte '/'
          :: ([] ++ (text tag ++ ([] ++ [byte '>'])))))))

def writtenAll : List Element → List UInt8
  | [] => []
  | child :: children => [] ++ (written child ++ writtenAll children)

end

mutual

/-- The names in a tree are names, and no value contains a NUL. -/
def Named : Element → Prop
  | .mk tag attributes children =>
      IsName (text tag)
        ∧ (∀ pair ∈ attributes, IsName (text pair.1) ∧ 0 ∉ pair.2)
        ∧ NamedAll children

def NamedAll : List Element → Prop
  | [] => True
  | child :: children => Named child ∧ NamedAll children

end

theorem attribs_written {attributes : List (String × List UInt8)}
    (named : ∀ pair ∈ attributes, IsName (text pair.1) ∧ 0 ∉ pair.2)
    : Attribs attributes (writtenAttribs attributes) := by
  induction attributes with
  | nil => exact .nil
  | cons pair attributes ih =>
      obtain ⟨name, value⟩ := pair
      obtain ⟨isName, printable⟩ := named (name, value) List.mem_cons_self
      have later := ih (fun other member => named other (List.mem_cons_of_mem _ member))
      have first := @Attribs.cons name (textToDoc value true) _ attributes [32] [] [] 34 (by simp)
        (by simp [Blanks, blank]) isName (by simp [Blanks]) (by simp [Blanks]) (Or.inl rfl)
        (textToDoc_plain value) later
      rw [fromDoc_textToDoc printable] at first
      exact first

mutual

theorem writes_written {element : Element} (named : Named element)
    : Writes element (written element) := by
  cases element with
  | mk tag attributes children =>
      rw [Named] at named
      rw [written]
      exact .full named.1 (attribs_written named.2.1) (by simp [Blanks])
        (contents_written named.2.2) (by simp [Blanks]) (by simp [Blanks])

theorem contents_written {children : List Element} (named : NamedAll children)
    : Contents children (writtenAll children) := by
  cases children with
  | nil =>
      rw [writtenAll]
      exact .done (.plain (by simp [Plain]))
  | cons child children =>
      rw [NamedAll] at named
      rw [writtenAll]
      exact .cons (.plain (by simp [Plain])) (writes_written named.1) (contents_written named.2)

end

-----------------------------------------------------------------------------------------
-- Documents
-----------------------------------------------------------------------------------------

theorem IsName.printable {name : List UInt8} (isName : IsName name) : 0 ∉ name :=
  fun member => (nameChar_plain (isName.2 0 member)).1 rfl

theorem Blanks.printable {gap : List UInt8} (gapBlank : Blanks gap) : 0 ∉ gap :=
  fun member => (blank_plain (gapBlank 0 member)).1 rfl

theorem Attribs.printable {attributes : List (String × List UInt8)} {inside : List UInt8}
    (attribs : Attribs attributes inside)
    : 0 ∉ inside :=
  fun member => (attribs.closed 0 member).1 rfl

theorem Misc.printable {misc : List UInt8} (isMisc : Misc misc) : 0 ∉ misc := by
  induction isMisc with
  | plain plain => exact fun member => (plain 0 member).1 rfl
  | @node run node rest plain isNode _ ih =>
      have inNode : 0 ∉ node := by
        cases isNode with
        | instruction printable => exact printable
        | comment printable => exact printable
        | cdata printable => exact printable
      simp only [List.mem_append, not_or]
      exact ⟨fun member => (plain 0 member).1 rfl, inNode, ih⟩

/-- No element is written with a NUL, by induction on how it is written. -/
theorem Writes.printable {element : Element} {bytes : List UInt8} (writes : Writes element bytes)
    : 0 ∉ bytes :=
  @Writes.rec (fun _ bytes _ => 0 ∉ bytes) (fun _ inner _ => 0 ∉ inner)
    (fun isName attribs gapBlank => by
      simp [isName.printable, attribs.printable, gapBlank.printable])
    (fun isName attribs gapBlank _ beforeBlank behindBlank inner => by
      simp [isName.printable, attribs.printable, gapBlank.printable, inner,
        beforeBlank.printable, behindBlank.printable])
    (fun isMisc => isMisc.printable)
    (fun isMisc _ _ first later => by simp [isMisc.printable, first, later])
    _ _ writes

/-- Every tree whose names are names has a document that presents it. -/
theorem presents_written {root : Element} (named : Named root) : Presents root (written root) :=
  ⟨(writes_written named).printable, [], written root, [], .plain (by simp [Plain]),
    writes_written named, by simp⟩

end ProxyServer.MarkupSTL
