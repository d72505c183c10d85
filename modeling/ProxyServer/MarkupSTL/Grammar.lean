import ProxyServer.MarkupSTL.Parser
import ProxyServer.System.Markup

/-! Documents that present a tree of elements: the form in which the configuration is written.
Between the elements there may be texts, comments, processing instructions and CDATA sections.
A `>` in the value of an attribute is not among what may stand there: it would end the tag.
-/

namespace ProxyServer.MarkupSTL

open TextCursor
open ProxyServer.System (Element)

/-- A character of a name: it neither ends a token nor stands for something in a path. -/
def nameChar (c : UInt8) : Bool :=
  c ≠ 0 ∧ ¬special c ∧ c ≠ 34 ∧ c ≠ 39 ∧ c ≠ byte '[' ∧ c ≠ byte '*'

def IsName (name : List UInt8) : Prop :=
  name ≠ [] ∧ ∀ c ∈ name, nameChar c = true

instance decidableIsName (name : List UInt8) : Decidable (IsName name) :=
  inferInstanceAs (Decidable (name ≠ [] ∧ ∀ c ∈ name, nameChar c = true))

def Blanks (gap : List UInt8) : Prop :=
  ∀ c ∈ gap, blank c = true

/-- Attributes as they are written behind the name of an element, with their values. -/
inductive Attribs : List (String × List UInt8) → List UInt8 → Prop
  | nil : Attribs [] []
  | cons {name raw rest attributes gap before behind quote}
    (apart : gap ≠ []) (gapBlank : Blanks gap) (isName : IsName (text name))
    (beforeBlank : Blanks before) (behindBlank : Blanks behind)
    (isQuote : quote = 34 ∨ quote = 39)
    (plain : ∀ c ∈ raw, c ≠ 0 ∧ c ≠ byte '>' ∧ c ≠ quote)
    (later : Attribs attributes rest)
    : Attribs ((name, fromDoc raw) :: attributes)
        (gap ++ (text name ++ (before ++ byte '=' :: (behind ++ quote :: (raw ++ quote :: rest)))))

/-- A comment, a processing instruction or a CDATA section. -/
inductive Node : List UInt8 → Prop
  | instruction {body} (printable : 0 ∉ text "<?" ++ body)
    (closes : Closes (text "?>") (text "<?" ++ body))
    : Node (text "<?" ++ body)
  | comment {body} (printable : 0 ∉ text "<!-" ++ body)
    (closes : Closes (text "-->") (text "<!-" ++ body))
    : Node (text "<!-" ++ body)
  | cdata {body} (printable : 0 ∉ text "<![" ++ body)
    (closes : Closes (text "]]>") (text "<![" ++ body))
    : Node (text "<![" ++ body)

def Plain (run : List UInt8) : Prop :=
  ∀ c ∈ run, c ≠ 0 ∧ c ≠ byte '<'

/-- What may stand between elements. -/
inductive Misc : List UInt8 → Prop
  | plain {run} (plain : Plain run) : Misc run
  | node {run node rest} (plain : Plain run) (isNode : Node node) (later : Misc rest)
    : Misc (run ++ (node ++ rest))

mutual

/-- An element as it is written, as an empty one or with its contents. -/
inductive Writes : Element → List UInt8 → Prop
  | empty {tag attributes inside gap} (isName : IsName (text tag))
    (attribs : Attribs attributes inside) (gapBlank : Blanks gap)
    : Writes (.mk tag attributes [])
        (byte '<' :: (text tag ++ (inside ++ (gap ++ [byte '/', byte '>']))))
  | full {tag attributes children inside gap inner before behind} (isName : IsName (text tag))
    (attribs : Attribs attributes inside) (gapBlank : Blanks gap)
    (contents : Contents children inner) (beforeBlank : Blanks before)
    (behindBlank : Blanks behind)
    : Writes (.mk tag attributes children)
        (byte '<' :: (text tag ++ (inside ++ (gap ++ byte '>' :: (inner
          ++ byte '<' :: byte '/' :: (before ++ (text tag ++ (behind ++ [byte '>']))))))))

/-- The contents of an element as they are written. -/
inductive Contents : List Element → List UInt8 → Prop
  | done {misc} (isMisc : Misc misc) : Contents [] misc
  | cons {child children misc written rest} (isMisc : Misc misc) (writes : Writes child written)
    (later : Contents children rest)
    : Contents (child :: children) (misc ++ (written ++ rest))

end

/-- A document with its root element; what stands behind the root is not read. -/
def Presents (root : Element) (szDoc : List UInt8) : Prop :=
  0 ∉ szDoc ∧ ∃ misc written rest, Misc misc ∧ Writes root written
    ∧ szDoc = misc ++ (written ++ rest)

-----------------------------------------------------------------------------------------
-- Characters
-----------------------------------------------------------------------------------------

theorem nameChar_plain {c : UInt8} (isChar : nameChar c = true)
    : c ≠ 0 ∧ special c = false ∧ blank c = false ∧ c ≠ 34 ∧ c ≠ 39 ∧ c ≠ byte '['
      ∧ c ≠ byte '*' := by
  simp only [nameChar, special, decide_eq_true_eq] at isChar
  obtain ⟨nonzero, plain, others⟩ := isChar
  have notBlank : blank c = false := by
    by_contra isBlank
    exact plain (Or.inl (Bool.of_not_eq_false isBlank))
  refine ⟨nonzero, ?_, notBlank, others⟩
  simpa only [special, decide_eq_false_iff_not, decide_eq_true_eq] using plain

theorem not_special {c : UInt8} (plain : special c = false)
    : c ≠ byte '>' ∧ c ≠ byte '/' ∧ c ≠ byte '=' ∧ ¬(c = byte '?' ∨ c = byte '!') := by
  refine ⟨?_, ?_, ?_, ?_⟩
  case refine_4 =>
    rintro (rfl | rfl)
    all_goals exact absurd plain (by decide)
  all_goals
    rintro rfl
    exact absurd plain (by decide)

theorem blank_plain {c : UInt8} (isBlank : blank c = true)
    : c ≠ 0 ∧ special c = true ∧ c ≠ byte '<' ∧ c ≠ byte '>' ∧ c ≠ byte '/' := by
  have special : special c = true := decide_eq_true (Or.inl isBlank)
  rw [blank, decide_eq_true_eq] at isBlank
  refine ⟨?_, special, ?_, ?_, ?_⟩
  all_goals
    rintro rfl
    revert isBlank
    decide

end ProxyServer.MarkupSTL
