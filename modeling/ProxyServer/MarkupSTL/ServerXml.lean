import ProxyServer.MarkupSTL.Cursor
import ProxyServer.System.ServerTables

/-! What `InitHelperUnit` and `ResetHelperUnit` read of the bytes of `server.xml`: the servers and
the commands that loading reads of the tree.
-/

namespace ProxyServer.MarkupSTL

open ProxyServer.System (Element Markup systemElem serverList loadedServers loadedCmds)

/-- How far a document is read, with the attributes of each `Server` and of each `Cmd`: it may
have no `SYSTEM` to go into, no `Node` in it, no `ServerList` to go into in the `Node`, or no
`CmdList` behind the servers.
-/
inductive ServerXml
  | noSystem
  | noNode
  | noServerList
  | noCmdList (servers : List (List (List UInt8)))
  | read (servers cmds : List (List (List UInt8)))
  deriving DecidableEq

/-- The attributes read at a `Server` element. -/
def serverAttribs : List String :=
  ["svid", "level", "ip", "port"]

def cmdAttribs : List String :=
  ["value"]

namespace CMarkup

/-- `FindElem` and `IntoElem`; nothing if one of them fails. -/
def enter (szName : String) (markup : CMarkup) : Option (Option CMarkup) := do
  let (found, markup) ← markup.call (.findElem szName)
  if found ≠ .did true then
    return none
  let (into, markup) ← markup.call .intoElem
  return if into = .did true then some markup else none

/-- `OutOfElem`; nothing if it fails. -/
def leave (markup : CMarkup) : Option (Option CMarkup) := do
  let (outOf, markup) ← markup.call .outOfElem
  return if outOf = .did true then some markup else none

/-- `GetAttrib` of one name after the other. -/
def getAttribs (markup : CMarkup) : List String → Option (List (List UInt8))
  | [] => some []
  | szAttrib :: szAttribs => do
      let strValue ← markup.getAttrib (text szAttrib)
      let strValues ← markup.getAttribs szAttribs
      return strValue :: strValues

/-- A `while` over `FindElem` that reads attributes. -/
def readEach (szName : String) (szAttribs : List String)
    : Nat → CMarkup → Option (List (List (List UInt8)) × CMarkup)
  | 0, _ => none
  | fuel + 1, markup => do
      let (found, markup) ← markup.call (.findElem szName)
      if found = .did true then
        let strValues ← markup.getAttribs szAttribs
        let (later, markup) ← readEach szName szAttribs fuel markup
        return (strValues :: later, markup)
      else
        return ([], markup)

/-- The reading from inside the `ServerList` on. -/
def readLists (fuel : Nat) (list : CMarkup) : Option ServerXml := do
  let (servers, list) ← list.readEach "Server" serverAttribs fuel
  match ← list.leave with
  | none => return .noCmdList servers
  | some node =>
      match ← node.enter "CmdList" with
      | none => return .noCmdList servers
      | some cmdList =>
          let (cmds, _) ← cmdList.readEach "Cmd" cmdAttribs fuel
          return .read servers cmds

/-- The reading of a `Node` element, behind `FindElem`. -/
def readNode (fuel : Nat) (markup : CMarkup) : Option ServerXml := do
  let (into, markup) ← markup.call .intoElem
  if into ≠ .did true then
    return .noServerList
  match ← markup.enter "ServerList" with
  | none => return .noServerList
  | some list => list.readLists fuel

/-- The reading of the document in `InitHelperUnit` and `ResetHelperUnit`. -/
def readServerXml (szDoc : List UInt8) (fuel : Nat) (markup : CMarkup) : Option ServerXml := do
  let (wellFormed, markup) ← markup.setDoc szDoc
  if wellFormed = false then
    return .noSystem
  match ← markup.enter "SYSTEM" with
  | none => return .noSystem
  | some system =>
      let (found, node) ← system.call (.findElem "Node")
      if found = .did true then node.readNode fuel else return .noNode

end CMarkup

/-- The attributes of elements. -/
def attributesOf (szAttribs : List String) (elements : List Element) : List (List (List UInt8)) :=
  elements.map (fun element => szAttribs.map element.getAttrib)

/-- The commands that are read behind the servers. -/
def cmdsBehind (list : Markup) : Option Markup :=
  list.outOfElem.bind (·.findElem "CmdList") |>.bind (·.intoElem)

/-- The reading of the tree from inside the `ServerList` on. -/
def treeLists (list : Markup) : ServerXml :=
  match cmdsBehind list with
  | none => .noCmdList (attributesOf serverAttribs (list.eachElem "Server"))
  | some cmds =>
      .read (attributesOf serverAttribs (list.eachElem "Server"))
        (attributesOf cmdAttribs (cmds.eachElem "Cmd"))

/-- The reading of a `Node` element of the tree, as loading goes through it. -/
def treeNode (node : Markup) : ServerXml :=
  match serverList node with
  | none => .noServerList
  | some list => treeLists list

def treeServerXml (root : Element) : ServerXml :=
  match systemElem (some root) with
  | none => .noSystem
  | some system =>
      match system.findElem "Node" with
      | none => .noNode
      | some node => treeNode node

/-- What the tables are loaded from when a document of this tree is read so far. -/
def LoadedFrom (root : Element) : ServerXml → Prop
  | .noSystem => systemElem (some root) = none
  | .noNode => ∃ system, systemElem (some root) = some system ∧ system.findElem "Node" = none
  | .noServerList =>
      ∃ system node, systemElem (some root) = some system ∧ system.findElem "Node" = some node
        ∧ serverList node = none
  | .noCmdList servers =>
      ∃ system node list, systemElem (some root) = some system
        ∧ system.findElem "Node" = some node ∧ serverList node = some list
        ∧ cmdsBehind list = none ∧ servers = attributesOf serverAttribs (loadedServers node)
  | .read servers cmds =>
      ∃ system node list, systemElem (some root) = some system
        ∧ system.findElem "Node" = some node ∧ serverList node = some list
        ∧ (cmdsBehind list).isSome ∧ servers = attributesOf serverAttribs (loadedServers node)
        ∧ cmds = attributesOf cmdAttribs (loadedCmds node)

variable {szDoc : List UInt8} {out : Bool} {cursor : Markup} {markup : CMarkup}

theorem getAttribs_stands {szAttribs : List String}
    (areNames : ∀ szAttrib ∈ szAttribs, IsName (text szAttrib)) (doc : markup.m_strDoc = szDoc)
    {parent : Nat} {element : Element} {following : List Element}
    (isElement : markup.m_nNodeType = 1)
    (stands : Stands szDoc markup.positions parent element following markup.m_iPos)
    : markup.getAttribs szAttribs = some (szAttribs.map element.getAttrib) := by
  induction szAttribs with
  | nil => rfl
  | cons szAttrib szAttribs ih =>
      have later := ih (fun other member => areNames other (List.mem_cons_of_mem _ member))
      simp only [CMarkup.getAttribs,
        getAttrib_stands (areNames szAttrib List.mem_cons_self) doc isElement stands, later]
      rfl

/-- Going into an element succeeds where it does on the tree. -/
theorem enter_shows {szName : String} (shows' : Shows szDoc out cursor markup)
    (isName : IsName (text szName))
    : ((cursor.findElem szName).bind (·.intoElem) = none ∧ markup.enter szName = some none)
      ∨ ∃ inner after, (cursor.findElem szName).bind (·.intoElem) = some inner
        ∧ markup.enter szName = some (some after) ∧ Shows szDoc false inner after := by
  obtain ⟨found, finds, shown⟩ := findElem_shows shows' isName
  cases position : cursor.findElem szName with
  | none =>
      refine Or.inl ⟨rfl, ?_⟩
      simp [CMarkup.enter, finds, treeCall, position]
  | some element =>
      simp only [treeCall, cameOut, position, Option.isSome_some, Option.getD_some,
        Option.isNone_some, Bool.and_false] at finds shown
      obtain ⟨after, intos, shown'⟩ := intoElem_shows shown rfl
      cases into : element.intoElem with
      | none =>
          refine Or.inl ⟨by simpa using into, ?_⟩
          simp [CMarkup.enter, finds, intos, treeCall, into]
      | some inner =>
          refine Or.inr ⟨inner, after, by simpa using into, ?_, ?_⟩
          · simp [CMarkup.enter, finds, intos, treeCall, into]
          · simpa [treeCall, cameOut, into] using shown'

/-- Going out of an element succeeds where it does on the tree. -/
theorem leave_shows (shows' : Shows szDoc out cursor markup)
    : (cursor.outOfElem = none ∧ markup.leave = some none)
      ∨ ∃ around after, cursor.outOfElem = some around ∧ markup.leave = some (some after)
        ∧ Shows szDoc true around after := by
  obtain ⟨after, leaves, shown⟩ := outOfElem_shows shows'
  cases position : cursor.outOfElem with
  | none =>
      refine Or.inl ⟨rfl, ?_⟩
      simp [CMarkup.leave, leaves, treeCall, position]
  | some around =>
      refine Or.inr ⟨around, after, rfl, ?_, ?_⟩
      · simp [CMarkup.leave, leaves, treeCall, position]
      · simpa [treeCall, cameOut, position] using shown

/-- A `while` over `FindElem` reads the elements of its name that follow, by induction on the
fuel: behind each of them fewer follow.
-/
theorem readEach_shows {szName : String} {szAttribs : List String}
    (isName : IsName (text szName)) (areNames : ∀ szAttrib ∈ szAttribs, IsName (text szAttrib))
    (shows' : Shows szDoc out cursor markup) {fuel : Nat}
    (enough : cursor.following.length < fuel)
    : ∃ out' last after, markup.readEach szName szAttribs fuel
        = some (attributesOf szAttribs (cursor.eachElem szName), after)
      ∧ last.outer = cursor.outer ∧ Shows szDoc out' last after := by
  induction fuel generalizing out cursor markup with
  | zero => omega
  | succ fuel ih =>
      obtain ⟨found, finds, shown⟩ := findElem_shows shows' isName
      have whole := List.takeWhile_append_dropWhile
        (p := fun element : Element => element.tag ≠ szName) (l := cursor.following)
      have skipped : (cursor.following.takeWhile (fun element => element.tag ≠ szName)).filter
          (fun element => element.tag = szName) = [] := by
        rw [List.filter_eq_nil_iff]
        intro element member
        simpa using List.all_eq_true.mp List.all_takeWhile element member
      have each : cursor.eachElem szName
          = (cursor.following.dropWhile (fun element => element.tag ≠ szName)).filter
            (fun element => element.tag = szName) := by
        rw [Markup.eachElem]
        conv_lhs => rw [← whole]
        rw [List.filter_append, skipped, List.nil_append]
      cases left : cursor.following.dropWhile (fun element => element.tag ≠ szName) with
      | nil =>
          have position : cursor.findElem szName = none := by rw [Markup.findElem, left]
          have nothing : cursor.eachElem szName = [] := by
            rw [each, left]
            rfl
          refine ⟨_, _, found, ?_, ?_, shown⟩
          · simp [CMarkup.readEach, finds, treeCall, position, nothing, attributesOf]
          · simp [treeCall, position]
      | cons element others =>
          have position : cursor.findElem szName
              = some { cursor with current := some element, following := others } := by
            rw [Markup.findElem, left]
          have named : element.tag = szName := by
            have first := List.head?_dropWhile_not
              (fun element : Element => decide (element.tag ≠ szName)) cursor.following
            rw [left] at first
            simpa using first
          have shorter : others.length < fuel := by
            have length := congrArg List.length whole
            rw [left, List.length_append, List.length_cons] at length
            omega
          simp only [treeCall, position, Option.isSome_some, Option.getD_some] at finds shown
          have here := shown.here
          have reads := getAttribs_stands areNames shown.doc here.1 here.2
          obtain ⟨out', last, after, later, outer, shown'⟩ := ih shown shorter
          refine ⟨out', last, after, ?_, outer, shown'⟩
          rw [CMarkup.readEach]
          simp only [finds, reads, later, Option.bind_eq_bind, Option.bind_some, if_true]
          rw [each, left, List.filter_cons_of_pos (by simpa using named)]
          rfl

theorem areNames : IsName (text "SYSTEM") ∧ IsName (text "Node") ∧ IsName (text "ServerList")
    ∧ IsName (text "Server") ∧ IsName (text "CmdList") ∧ IsName (text "Cmd")
    ∧ (∀ szAttrib ∈ serverAttribs, IsName (text szAttrib))
    ∧ ∀ szAttrib ∈ cmdAttribs, IsName (text szAttrib) := by
  decide +kernel

/-- From inside the `ServerList` on, the servers and the commands are read. -/
theorem readLists_shows {list : Markup} {inside : CMarkup} (shown : Shows szDoc out list inside)
    {fuel : Nat} (servers : list.following.length < fuel)
    (cmds : ∀ cmds ∈ cmdsBehind list, cmds.following.length < fuel)
    : inside.readLists fuel = some (treeLists list) := by
  obtain ⟨-, -, -, server, cmdList, cmd, serverNames, cmdNames⟩ := areNames
  obtain ⟨out', last, after, reads, outer, shown'⟩ :=
    readEach_shows server serverNames shown servers
  have same : last.outOfElem = list.outOfElem := by
    rw [Markup.outOfElem, Markup.outOfElem, outer]
  rw [CMarkup.readLists, treeLists]
  simp only [reads, Option.bind_eq_bind, Option.bind_some]
  rcases leave_shows shown' with ⟨fails, leaves⟩ | ⟨around, left, position, leaves, shown''⟩
  · rw [same] at fails
    simp [leaves, cmdsBehind, fails]
  · rw [same] at position
    simp only [leaves, Option.bind_some]
    rcases enter_shows shown'' cmdList with ⟨fails, enters⟩ | ⟨inner, entered, into, enters, last'⟩
    · simp [enters, cmdsBehind, position, fails]
    · have behind : cmdsBehind list = some inner := by
        rw [cmdsBehind, position]
        exact into
      obtain ⟨_, _, _, reads', -, -⟩ := readEach_shows cmd cmdNames last' (cmds inner behind)
      simp [enters, reads', behind]

/-- Some amount of fuel is enough for the elements that follow a position, if there is one. -/
theorem exists_longer (cursor : Option Markup)
    : ∃ bound, ∀ here ∈ cursor, here.following.length < bound := by
  cases cursor with
  | none => exact ⟨0, by simp⟩
  | some here => exact ⟨here.following.length + 1, by simp⟩

theorem readNode_shows {node : Markup} (shown : Shows szDoc false node markup)
    : ∃ bound, ∀ fuel, bound ≤ fuel → markup.readNode fuel = some (treeNode node) := by
  obtain ⟨-, -, isName, -⟩ := areNames
  obtain ⟨after, intos, shown'⟩ := intoElem_shows shown rfl
  have position : serverList node = (node.intoElem.bind (·.findElem "ServerList")).bind
      (·.intoElem) := rfl
  cases into : node.intoElem with
  | none =>
      refine ⟨0, fun fuel _ => ?_⟩
      simp [CMarkup.readNode, intos, treeCall, treeNode, position, into]
  | some inside =>
      simp only [treeCall, cameOut, into, Option.isSome_some, Option.getD_some] at intos shown'
      rcases enter_shows shown' isName
        with ⟨fails, enters⟩ | ⟨list, entered, found, enters, last⟩
      · refine ⟨0, fun fuel _ => ?_⟩
        simp [CMarkup.readNode, intos, enters, treeNode, position, into, fails]
      · obtain ⟨bound, longer⟩ := exists_longer (some list)
        obtain ⟨bound', longer'⟩ := exists_longer (cmdsBehind list)
        refine ⟨max bound bound', fun fuel large => ?_⟩
        have reads := readLists_shows last
          (lt_of_lt_of_le (longer list rfl) (le_trans (le_max_left _ _) large))
          (fun cmds member =>
            lt_of_lt_of_le (longer' cmds member) (le_trans (le_max_right _ _) large))
        simp [CMarkup.readNode, intos, enters, treeNode, position, into, found, reads]

/-- However far the tree is read, it is read from where the tables are loaded from. -/
theorem treeServerXml_loaded (root : Element) : LoadedFrom root (treeServerXml root) := by
  rw [treeServerXml]
  cases position : systemElem (some root) with
  | none => exact position
  | some system =>
      dsimp only
      cases found : system.findElem "Node" with
      | none => exact ⟨system, position, found⟩
      | some node =>
          dsimp only
          rw [treeNode]
          cases listed : serverList node with
          | none => exact ⟨system, node, position, found, listed⟩
          | some list =>
              have servers : loadedServers node = list.eachElem "Server" := by
                rw [loadedServers, listed]
              dsimp only
              rw [treeLists, ← servers]
              cases behind : cmdsBehind list with
              | none => exact ⟨system, node, list, position, found, listed, behind, rfl⟩
              | some cmdList =>
                  have position' : (((serverList node).bind (·.outOfElem)).bind
                      (·.findElem "CmdList")).bind (·.intoElem) = some cmdList := by
                    rw [listed]
                    exact behind
                  have cmds : loadedCmds node = cmdList.eachElem "Cmd" := by
                    rw [loadedCmds, position']
                  refine ⟨system, node, list, position, found, listed, ?_, rfl, ?_⟩
                  · rw [behind]
                    rfl
                  · rw [cmds]

/-- However `server.xml` is written, and whatever it contains, loading reads from its bytes what it
reads from the tree that they present, and gets as far.
-/
theorem readServerXml_presented {root : Element} (presents : Presents root szDoc)
    (markup : CMarkup)
    : (∃ bound, ∀ fuel, bound ≤ fuel
        → markup.readServerXml szDoc fuel = some (treeServerXml root))
      ∧ LoadedFrom root (treeServerXml root) := by
  refine ⟨?_, treeServerXml_loaded root⟩
  obtain ⟨system, node, -⟩ := areNames
  obtain ⟨loaded, cursor, sets, loads, shown⟩ := setDoc_shows presents markup
  have position : systemElem (some root)
      = (cursor.findElem "SYSTEM").bind (·.intoElem) := by
    rw [systemElem, loads]
    rfl
  rcases enter_shows shown system with ⟨fails, enters⟩ | ⟨inner, entered, into, enters, shown'⟩
  · refine ⟨0, fun fuel _ => ?_⟩
    simp [CMarkup.readServerXml, sets, enters, treeServerXml, position, fails]
  · obtain ⟨after, finds, shown''⟩ := findElem_shows shown' node
    cases found : inner.findElem "Node" with
    | none =>
        refine ⟨0, fun fuel _ => ?_⟩
        simp [CMarkup.readServerXml, sets, enters, finds, treeCall, treeServerXml, position, into,
          found]
    | some here =>
        simp only [treeCall, cameOut, found, Option.isSome_some, Option.getD_some,
          Option.isNone_some, Bool.and_false] at finds shown''
        obtain ⟨bound, reads⟩ := readNode_shows shown''
        refine ⟨bound, fun fuel large => ?_⟩
        simp [CMarkup.readServerXml, sets, enters, finds, treeServerXml, position, into, found,
          reads fuel large]

/-- A configuration of two servers and two commands. -/
def sampleServers : Element :=
  .mk "SYSTEM" [] [.mk "Node" [] [
    .mk "ServerList" [] [
      .mk "Server" [("svid", text "1"), ("level", text "3"), ("ip", text "10.0.0.1"),
        ("port", text "7000")] [],
      .mk "Server" [("port", text "7001"), ("svid", text "2")] []],
    .mk "CmdList" [] [.mk "Cmd" [("value", text "275")] [], .mk "Cmd" [] []]]]

theorem readServerXml_presented_sample
    : (∃ bound, ∀ fuel, bound ≤ fuel
        → emptyMarkup.readServerXml (written sampleServers) fuel
          = some (.read
            [[text "1", text "3", text "10.0.0.1", text "7000"], [text "2", [], [], text "7001"]]
            [[text "275"], [[]]]))
      ∧ ∃ system node, systemElem (some sampleServers) = some system
        ∧ system.findElem "Node" = some node := by
  have reads : treeServerXml sampleServers = .read
      [[text "1", text "3", text "10.0.0.1", text "7000"], [text "2", [], [], text "7001"]]
      [[text "275"], [[]]] := by
    decide +kernel
  have presents : Presents sampleServers (written sampleServers) :=
    presents_written (by simp only [sampleServers, Named, NamedAll]; decide +kernel)
  have both := readServerXml_presented presents emptyMarkup
  rw [reads] at both
  obtain ⟨system, node, -, position, found, -⟩ := both.2
  exact ⟨both.1, system, node, position, found⟩

end ProxyServer.MarkupSTL
