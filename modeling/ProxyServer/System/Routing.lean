import ProxyServer.System.EventRules

/-! The tables of helpers: each listed server has a helper unit, and a reload gives it a new one.
-/

namespace ProxyServer.System

open Packets ProxyServer.Units
open FaultState Footprint Reachability

-----------------------------------------------------------------------------------------
-- Servers with helper units
-----------------------------------------------------------------------------------------

/-- Every listed server has a helper unit; the units in the table have been created, none of
them among the first `count`.
-/
structure Routed (count : Nat) (proxy : Proxy) : Prop where
  grown : count ≤ proxy.helperCount
  listed : ∀ svid ∈ proxy.pool.svidlist, ∃ hid, proxy.pool.helpermap[svid]? = some hid
  created
    : ∀ (svid : Int) (hid : HelperId), proxy.pool.helpermap[svid]? = some hid
      → count ≤ hid ∧ hid < proxy.helperCount

/-- What looks the same in the tables is routed as well. -/
theorem Routed.same {count : Nat} {start next : Proxy} (routed : Routed count start)
    (tables : next.view .routing = start.view .routing)
    : Routed count next := by
  have helpermap : next.pool.helpermap = start.pool.helpermap := congrArg Prod.fst tables
  have svidlist : next.pool.svidlist = start.pool.svidlist :=
    congrArg (fun tables => tables.2.1) tables
  have helperCount : next.helperCount = start.helperCount :=
    congrArg (fun tables => tables.2.2.2.2.2) tables
  refine ⟨helperCount ▸ routed.grown, ?_, ?_⟩
  · rw [svidlist, helpermap]
    exact routed.listed
  · rw [helpermap, helperCount]
    exact routed.created

theorem Routed.weaken {count : Nat} {proxy : Proxy} (routed : Routed count proxy)
    : Routed 0 proxy where
  grown := Nat.zero_le _
  listed := routed.listed
  created := fun svid hid found => ⟨Nat.zero_le _, (routed.created svid hid found).2⟩

/-- The tables of helpers look the same in both states. -/
def SameTables (start next : Proxy) : Prop :=
  next.view .routing = start.view .routing

instance : IsPreorder Proxy SameTables where
  refl := fun _ => rfl
  trans := fun _ _ _ first second => second.trans first

theorem looksAtTables_sameTables : LooksAtTables (Conduct.relating SameTables) :=
  ⟨fun _ _ tables _ => tables, fun _ => trivial, fun _ => trivial⟩

/-- A new helper unit is entered for a server. -/
theorem Routed.enter {count : Nat} {proxy : Proxy} (routed : Routed count proxy) (svid : Int)
    (helper : HelperId → Helper)
    : Routed count {
        proxy with
        helper := helper
        helperCount := proxy.helperCount + 1
        pool := {
          proxy.pool with helpermap := proxy.pool.helpermap.insert svid proxy.helperCount
        }
      } := by
  refine ⟨Nat.le_succ_of_le routed.grown, fun listed inside => ?_, fun other hid entry => ?_⟩
  · dsimp only
    rw [Std.TreeMap.getElem?_insert]
    split
    · exact ⟨_, rfl⟩
    · exact routed.listed listed inside
  · dsimp only at entry ⊢
    rw [Std.TreeMap.getElem?_insert] at entry
    split at entry
    · obtain rfl := Option.some.inj entry
      exact ⟨routed.grown, Nat.lt_succ_self _⟩
    · obtain ⟨low, high⟩ := routed.created other hid entry
      exact ⟨low, Nat.lt_succ_of_lt high⟩

-----------------------------------------------------------------------------------------
-- Choosing among servers
-----------------------------------------------------------------------------------------

/-- `LoopSvid` of some servers chooses one. -/
theorem loopSvid_delivers {v : List Int} (some : v ≠ []) (start : Proxy)
    : Delivers (loopSvid v) start
        (fun svid next => svid ∈ v ∧ ∃ loopNum,
          next = { start with global := { start.global with loopNum := loopNum } }) := by
  refine Delivers.bind (Delivers.get (Delivers.bind (Delivers.modify ?_)))
  have length : 0 < v.length := List.length_pos_iff.mpr some
  generalize turn : (if start.global.loopNum < (v.length : Int) - 1 ∧ 0 ≤ start.global.loopNum
    then start.global.loopNum + 1 else 0) = next
  have inside : next.toNat < v.length := by
    split at turn
    · omega
    · omega
  dsimp only
  rw [List.getElem?_eq_getElem inside]
  exact Delivers.pure ⟨List.getElem_mem inside, next, rfl⟩

/-- `RandomSvid` of some servers chooses one. -/
theorem randomSvid_delivers {v : List Int} (some : v ≠ []) (start : Proxy)
    : Delivers (randomSvid v) start
        (fun svid next => svid ∈ v ∧ next = { start with asked := start.asked + 1 }) := by
  have inside : (start.world start.asked).random % v.length < v.length :=
    Nat.mod_lt _ (List.length_pos_iff.mpr some)
  refine Delivers.bind (Delivers.bind (Delivers.get (Delivers.bind (Delivers.modify ?_))))
  refine Delivers.pure ?_
  rw [List.getElem?_eq_getElem inside]
  exact Delivers.pure ⟨List.getElem_mem inside, rfl⟩

-----------------------------------------------------------------------------------------
-- Loading servers
-----------------------------------------------------------------------------------------

section Loading

variable {count : Nat} {start next : Proxy}

theorem yields_findHelper {svid : Int} {found : Option HelperId}
    (run : Yields (findHelper svid) start found next)
    : found = start.pool.helpermap[svid]? ∧ next = start := by
  obtain ⟨_, proxy, got, ends⟩ := yields_bind.mp run
  obtain ⟨rfl, rfl⟩ := yields_get.mp got
  exact yields_pure.mp ends

/-- The helper unit of a server is the one in the table, or a new one that is entered there. -/
theorem yields_helperOf {svid : Int} {hid : HelperId}
    (run : Yields (helperOf svid) start hid next)
    : start.pool.helpermap[svid]? = some hid ∧ next = start
      ∨ start.pool.helpermap[svid]? = none ∧ hid = start.helperCount
        ∧ ∃ helper : HelperId → Helper,
            (helper hid).live = true ∧ (∀ other, other ≠ hid → helper other = start.helper other)
            ∧ next = {
              start with
              helper := helper
              helperCount := start.helperCount + 1
              pool := {
                start.pool with
                helpermap := start.pool.helpermap.insert svid start.helperCount
              }
            } := by
  obtain ⟨found, looked, finds, rest⟩ := yields_bind.mp run
  obtain ⟨rfl, rfl⟩ := yields_findHelper finds
  cases entry : looked.pool.helpermap[svid]? with
  | some old =>
      rw [entry] at rest
      obtain ⟨rfl, rfl⟩ := yields_pure.mp rest
      exact Or.inl ⟨rfl, rfl⟩
  | none =>
      rw [entry] at rest
      obtain ⟨_, proxy, got, creates⟩ := yields_bind.mp rest
      obtain ⟨rfl, rfl⟩ := yields_get.mp got
      clear got rest finds run
      dsimp only at creates
      obtain ⟨_, created, creating, enters⟩ := yields_bind.mp creates
      obtain ⟨_, entered, entering, ends⟩ := yields_bind.mp enters
      obtain ⟨rfl, rfl⟩ := yields_pure.mp ends
      rw [yields_modify.mp entering, yields_modify.mp creating]
      refine Or.inr ⟨rfl, rfl, _, ?_, fun other different => ?_, rfl⟩
      · exact congrArg Helper.live (Proxy.updateHelper_same ..)
      · exact Function.update_of_ne different ..

theorem helperOf_routed (svid : Int)
    : Holds (Routed count) (helperOf svid)
        (fun hid proxy => Routed count proxy ∧ proxy.pool.helpermap[svid]? = some hid) := by
  intro start hid next routed run
  rcases yields_helperOf run with ⟨entry, rfl⟩ | ⟨-, rfl, helper, -, -, rfl⟩
  · exact ⟨routed, entry⟩
  · exact ⟨routed.enter svid helper, Std.TreeMap.getElem?_insert_self⟩

/-- A server is listed behind those before it. -/
theorem addServer_routed (server : Element)
    : Holds (Routed count) (addServer server)
        (fun _ proxy => Routed count proxy ∧ proxy.pool.svidlist ≠ []) := by
  intro start _ next routed run
  obtain ⟨hid, found, finds, rest⟩ := yields_bind.mp run
  obtain ⟨routed, entry⟩ := helperOf_routed _ routed finds
  obtain ⟨_, placed, places, lists⟩ := yields_bind.mp rest
  rw [yields_modify.mp lists, yields_modify.mp places]
  refine ⟨⟨routed.grown, fun svid inside => ?_, routed.created⟩, by simp⟩
  rcases List.mem_append.mp inside with before | added
  · exact routed.listed svid before
  · obtain rfl := List.mem_singleton.mp added
    exact ⟨hid, entry⟩

/-- All servers of a document are loaded, at least one if it has any. -/
theorem addServers_routed (servers : List Element)
    : Holds (Routed count) (servers.forM addServer)
        (fun _ proxy => Routed count proxy ∧ (servers ≠ [] → proxy.pool.svidlist ≠ [])) := by
  induction servers with
  | nil => exact Holds.pure (fun _ routed => ⟨routed, fun some => (some rfl).elim⟩)
  | cons server servers ih =>
      refine Holds.bind (addServer_routed server) (fun _ => ?_)
      rintro start _ next ⟨routed, filled⟩ run
      obtain ⟨routed', filled'⟩ := ih routed run
      refine ⟨routed', fun _ => ?_⟩
      cases servers with
      | nil =>
          obtain ⟨-, rfl⟩ := yields_pure.mp run
          exact filled
      | cons _ _ => exact filled' (by simp)

theorem yields_ask {answers : Answers} (run : Yields ask start answers next)
    : answers = start.world start.asked ∧ next = { start with asked := start.asked + 1 } := by
  obtain ⟨_, proxy, got, rest⟩ := yields_bind.mp run
  obtain ⟨rfl, rfl⟩ := yields_get.mp got
  clear got run
  obtain ⟨_, counted, counts, ends⟩ := yields_bind.mp rest
  obtain ⟨rfl, rfl⟩ := yields_pure.mp ends
  exact ⟨rfl, yields_modify.mp counts⟩

/-- Emptied tables; without helper units in them no unit is deleted. -/
theorem yields_clearHelpers (run : Yields clearHelpers start () next)
    : next.view .routing
        = (∅, [], start.pool.cmdlist, ∅, start.pool.whitelist, start.helperCount)
      ∧ (start.pool.helpermap = ∅ → next.helper = start.helper) := by
  obtain ⟨_, proxy, got, rest⟩ := yields_bind.mp run
  obtain ⟨rfl, rfl⟩ := yields_get.mp got
  clear got run
  obtain ⟨_, deleted, deletes, clears⟩ := yields_bind.mp rest
  have one (hid : HelperId) : Within (Conduct.relating SameTables) (deleteHelper hid) := by
    have scratch : Frees {.scratch} (Conduct.relating SameTables) :=
      looksAtTables_sameTables.frees (by rintro _ ⟨⟩; exact ⟨nofun, nofun⟩)
    refine Within.bind (ask_within scratch) (fun answers => ?_)
    exact looksAtTables_sameTables.modify (fun _ => rfl) (fun _ => rfl)
  have tables : SameTables proxy deleted :=
    (Within.forM (fun iter _ => one iter.2)).related deletes
  have cmdlist : deleted.pool.cmdlist = proxy.pool.cmdlist :=
    congrArg (fun tables => tables.2.2.1) tables
  have rest : (deleted.pool.whitelist, deleted.helperCount)
      = (proxy.pool.whitelist, proxy.helperCount) :=
    congrArg (fun tables => tables.2.2.2.2) tables
  rw [yields_modify.mp clears]
  constructor
  · rw [← cmdlist]
    exact congrArg (fun rest => (∅, [], deleted.pool.cmdlist, ∅, rest)) rest
  · intro empty
    rw [empty] at deletes
    obtain ⟨-, rfl⟩ := yields_pure.mp deletes
    rfl

/-- The position inside the `ServerList` of a `Node` element. -/
def serverList (node : Markup) : Option Markup :=
  (node.intoElem.bind (·.findElem "ServerList")).bind (·.intoElem)

/-- The servers that are loaded from a `Node` element. -/
def loadedServers (node : Markup) : List Element :=
  match serverList node with
  | none => []
  | some list => list.eachElem "Server"

/-- An element that was entered can be left again. -/
theorem outOfElem_intoElem {markup inside : Markup} (into : markup.intoElem = some inside)
    : inside.outOfElem.isSome = true := by
  rw [Markup.intoElem, Option.map_eq_some_iff] at into
  obtain ⟨element, -, rfl⟩ := into
  rfl

/-- Reading a `Node` element adds its servers, and sets the commands unless it is broken. -/
theorem yields_readNode {node : Markup} {read : Option Markup}
    (run : Yields (readNode node) start read next)
    : ∃ loaded, Yields ((loadedServers node).forM addServer) start () loaded
        ∧ (read = none ∧ next = loaded
          ∨ read.isSome = true ∧ ∃ cmds, Yields (setCmdList cmds) loaded () next) := by
  have position : (node.intoElem.bind (·.findElem "ServerList")).bind (·.intoElem)
      = serverList node := rfl
  rw [readNode, position] at run
  rw [loadedServers]
  cases listed : serverList node with
  | none =>
      rw [listed] at run
      obtain ⟨rfl, rfl⟩ := yields_pure.mp run
      exact ⟨next, yields_pure.mpr ⟨rfl, rfl⟩, Or.inl ⟨rfl, rfl⟩⟩
  | some list =>
      rw [listed] at run
      obtain ⟨_, loaded, loads, rest⟩ := yields_bind.mp run
      refine ⟨loaded, loads, ?_⟩
      split at rest
      · obtain ⟨rfl, rfl⟩ := yields_pure.mp rest
        exact Or.inl ⟨rfl, rfl⟩
      · rename_i cmds found
        obtain ⟨_, commanded, sets, ends⟩ := yields_bind.mp rest
        obtain ⟨rfl, rfl⟩ := yields_pure.mp ends
        obtain ⟨_, -, into⟩ := Option.bind_eq_some_iff.mp found
        exact Or.inr ⟨outOfElem_intoElem into, _, sets⟩

/-- What a reload does: a document without a `Node` element changes nothing, and else the
tables are emptied and its servers are loaded.
-/
theorem yields_resetHelperUnit {ret : Int} (run : Yields resetHelperUnit start ret next)
    : ((∀ system ∈ systemElem (start.world start.asked).serverXml,
            system.findElem "Node" = none)
          ∧ next = { start with asked := start.asked + 1 })
      ∨ ∃ system ∈ systemElem (start.world start.asked).serverXml,
          ∃ node ∈ system.findElem "Node", ∃ cleared loaded,
            Yields clearHelpers { start with asked := start.asked + 1 } () cleared
            ∧ Yields ((loadedServers node).forM addServer) cleared () loaded
            ∧ (ret = -1 ∧ next = loaded
              ∨ ret = 0 ∧ ∃ cmds, Yields (setCmdList cmds) loaded () next) := by
  obtain ⟨answers, asked, asks, rest⟩ := yields_bind.mp run
  obtain ⟨rfl, rfl⟩ := yields_ask asks
  cases entered : systemElem (start.world start.asked).serverXml with
  | none =>
      rw [entered] at rest
      obtain ⟨rfl, rfl⟩ := yields_pure.mp rest
      exact Or.inl ⟨nofun, rfl⟩
  | some system =>
      rw [entered] at rest
      dsimp only at rest
      cases found : system.findElem "Node" with
      | none =>
          rw [found] at rest
          obtain ⟨rfl, rfl⟩ := yields_pure.mp rest
          refine Or.inl ⟨?_, rfl⟩
          rintro _ ⟨⟩
          exact found
      | some node =>
          rw [found] at rest
          obtain ⟨_, cleared, clears, rest⟩ := yields_bind.mp rest
          obtain ⟨read, loaded, reads, ends⟩ := yields_bind.mp rest
          obtain ⟨filled, fills, outcome⟩ := yields_readNode reads
          refine Or.inr ⟨system, rfl, node, found, cleared, filled, clears, fills, ?_⟩
          cases read with
          | none =>
              obtain ⟨rfl, rfl⟩ := yields_pure.mp ends
              rcases outcome with ⟨-, rfl⟩ | ⟨read, -⟩
              · exact Or.inl ⟨rfl, rfl⟩
              · cases read
          | some _ =>
              obtain ⟨rfl, rfl⟩ := yields_pure.mp ends
              rcases outcome with ⟨read, -⟩ | ⟨-, cmds, sets⟩
              · cases read
              · exact Or.inr ⟨rfl, cmds, sets⟩

/-- Emptied tables are routed, whatever has been created before. -/
theorem clearHelpers_routed (run : Yields clearHelpers start () next)
    : Routed start.helperCount next := by
  obtain ⟨tables, -⟩ := yields_clearHelpers run
  have helpermap : next.pool.helpermap = ∅ := congrArg Prod.fst tables
  have svidlist : next.pool.svidlist = [] := congrArg (fun tables => tables.2.1) tables
  have helperCount : next.helperCount = start.helperCount :=
    congrArg (fun tables => tables.2.2.2.2.2) tables
  refine ⟨helperCount.ge, ?_, ?_⟩
  · rw [svidlist]
    exact nofun
  · rw [helpermap]
    intro svid hid entry
    rw [Std.TreeMap.getElem?_emptyc] at entry
    cases entry

theorem setCmdList_routed {cmds : List Element} (routed : Routed count start)
    (run : Yields (setCmdList cmds) start () next)
    : Routed count next := by
  rw [yields_modify.mp run]
  exact ⟨routed.grown, routed.listed, routed.created⟩

theorem resetHelperUnit_routed
    : Within (Conduct.sustaining (Routed 0)) resetHelperUnit := by
  refine within_relating (fun run routed => ?_)
  rcases yields_resetHelperUnit run with ⟨-, rfl⟩ | loaded
  · exact routed.same rfl
  · obtain ⟨_, _, _, _, cleared, filled, clears, fills, outcome⟩ := loaded
    obtain ⟨routed, -⟩ := addServers_routed _ (clearHelpers_routed clears) fills
    rcases outcome with ⟨-, rfl⟩ | ⟨-, cmds, sets⟩
    · exact routed.weaken
    · exact (setCmdList_routed routed sets).weaken

end Loading

-----------------------------------------------------------------------------------------
-- Every reachable state
-----------------------------------------------------------------------------------------

theorem looksAtTables_routed : LooksAtTables (Conduct.sustaining (Routed 0)) :=
  ⟨fun _ _ tables _ routed => routed.same tables, fun _ => trivial, fun _ => trivial⟩

theorem routed_permits : PermitsAll (Conduct.sustaining (Routed 0)) := by
  have scratch : Frees {.scratch} (Conduct.sustaining (Routed 0)) :=
    looksAtTables_routed.frees (by rintro _ ⟨⟩; exact ⟨nofun, nofun⟩)
  have loopNum : Frees {.loopNum} (Conduct.sustaining (Routed 0)) :=
    looksAtTables_routed.frees (by rintro _ ⟨⟩; exact ⟨nofun, nofun⟩)
  exact looksAtTables_routed.permits (nextSvid_within loopNum (fun _ => trivial))
    (anySvid_within scratch (fun _ => trivial)) resetHelperUnit_routed

theorem readNode_routed (node : Markup)
    : Within (Conduct.sustaining (Routed 0)) (readNode node) := by
  refine within_relating (fun run routed => ?_)
  obtain ⟨loaded, loads, outcome⟩ := yields_readNode run
  obtain ⟨routed, -⟩ := addServers_routed _ routed loads
  rcases outcome with ⟨-, rfl⟩ | ⟨-, cmds, sets⟩
  · exact routed
  · exact setCmdList_routed routed sets

theorem initIpMap_routed (markup : Markup)
    : Within (Conduct.sustaining (Routed 0)) (initIpMap markup) := by
  have adds : ∀ ip, Within (Conduct.sustaining (Routed 0)) (addIp ip) :=
    addIp_within (looksAtTables_routed.frees (by rintro _ ⟨⟩; exact ⟨nofun, nofun⟩))
  have sets : ∀ whitelist, Within (Conduct.sustaining (Routed 0)) (setWhitelist whitelist) :=
    fun whitelist => Within.modify (fun _ routed =>
      ⟨routed.grown, routed.listed, routed.created⟩)
  rw [initIpMap]
  split
  · exact Within.pure _
  · refine Within.bind (Within.forM (fun ip _ => adds ip)) (fun _ => ?_)
    split
    · exact Within.pure _
    · refine Within.bind (sets _) (fun _ => ?_)
      split
      · exact Within.pure _
      · exact Within.bind (sets _) (fun _ => Within.pure _)

/-- Starting adds servers to empty tables. -/
theorem initHelperUnit_routed {start next : Proxy} (unused : start.Unused) {ret : Int}
    (run : Yields initHelperUnit start ret next)
    : Routed 0 next := by
  have routed : Routed 0 start := by
    refine ⟨Nat.zero_le _, ?_, ?_⟩
    · rw [unused.svidlist]
      exact nofun
    · rw [unused.helpermap]
      intro svid hid entry
      rw [Std.TreeMap.getElem?_emptyc] at entry
      cases entry
  have clears : Within (Conduct.sustaining (Routed 0)) clearLists :=
    Within.modify (fun _ routed => ⟨routed.grown, nofun, routed.created⟩)
  have scratch : Frees {.scratch} (Conduct.sustaining (Routed 0)) :=
    looksAtTables_routed.frees (by rintro _ ⟨⟩; exact ⟨nofun, nofun⟩)
  have inits : Within (Conduct.sustaining (Routed 0)) initHelperUnit := by
    refine Within.bind clears (fun _ => Within.bind (ask_within scratch) (fun answers => ?_))
    split
    · exact Within.pure _
    · rename_i system _
      have nodes : Within (Conduct.sustaining (Routed 0)) (initNode system) := by
        rw [initNode]
        split
        · exact Within.pure _
        · exact readNode_routed _
      refine Within.bind nodes (fun read => ?_)
      cases read with
      | none => exact Within.pure _
      | some markup => exact initIpMap_routed markup
  exact inits.related run routed

/-- In every reachable state the listed servers have helper units. -/
theorem reached_routed {proxy : Proxy} (reached : proxy.Reached) : Routed 0 proxy := by
  refine reached.invariant (Routed 0) ?_ (fun start label next routed step => ?_)
  · rintro idle ⟨start, unused, init⟩
    exact initHelperUnit_routed unused init
  · have before : Routed 0 { start with world := label.2, asked := 0 } := routed.same rfl
    exact (routed_permits.perform label.1).related step.2 before

end ProxyServer.System
