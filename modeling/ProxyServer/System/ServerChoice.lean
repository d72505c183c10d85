import ProxyServer.System.Routing

/-! Choosing among the servers: `TGlobal::LoopSvid` and `TGlobal::RandomSvid` must not be given
an empty list. Whether they are is decided by what `server.xml` listed when it was last loaded.
-/

namespace ProxyServer.System

open Packets ProxyServer.Units
open FaultState Footprint Reachability

-----------------------------------------------------------------------------------------
-- Documents that list servers
-----------------------------------------------------------------------------------------

/-- A document that has a `Node` element lists a server in it. -/
def KeepsServers (serverXml : Option Element) : Prop :=
  ∀ system ∈ systemElem serverXml, ∀ node ∈ system.findElem "Node", loadedServers node ≠ []

instance (serverXml : Option Element) : Decidable (KeepsServers serverXml) :=
  inferInstanceAs (Decidable (∀ system ∈ systemElem serverXml,
    ∀ node ∈ system.findElem "Node", loadedServers node ≠ []))

/-- There are servers, and `server.xml` goes on listing some in the step at hand. -/
structure Staffed (proxy : Proxy) : Prop where
  svidlist : proxy.pool.svidlist ≠ []
  documents : ∀ count, KeepsServers (proxy.world count).serverXml

/-- The conduct of not choosing among no servers. -/
abbrev staffing : Conduct Proxy Fault :=
  Conduct.averting Staffed .emptyVector

theorem Staffed.same {start next : Proxy} (staffed : Staffed start)
    (tables : next.view .routing = start.view .routing) (world : next.world = start.world)
    : Staffed next := by
  have svidlist : next.pool.svidlist = start.pool.svidlist :=
    congrArg (fun tables => tables.2.1) tables
  exact ⟨svidlist ▸ staffed.svidlist, world ▸ staffed.documents⟩

theorem looksAtTables_staffing : LooksAtTables staffing :=
  ⟨fun _ _ tables world staffed => staffed.same tables world, fun _ _ => nofun,
    fun _ _ => nofun⟩

-----------------------------------------------------------------------------------------
-- What keeps servers
-----------------------------------------------------------------------------------------

theorem nextSvid_staffing : Within staffing nextSvid := by
  refine Delivers.within_averting (fun start staffed => Delivers.bind (Delivers.get ?_))
  refine (loopSvid_delivers staffed.svidlist start).weaken (fun svid next chosen => ?_)
  obtain ⟨-, loopNum, rfl⟩ := chosen
  exact staffed.same rfl rfl

theorem anySvid_staffing : Within staffing anySvid := by
  refine Delivers.within_averting (fun start staffed => Delivers.bind (Delivers.get ?_))
  refine (randomSvid_delivers staffed.svidlist start).weaken (fun svid next chosen => ?_)
  obtain ⟨-, rfl⟩ := chosen
  exact staffed.same rfl rfl

/-- A reload keeps the answers from outside. -/
theorem resetHelperUnit_world {start next : Proxy} {ret : Int}
    (run : Yields resetHelperUnit start ret next)
    : next.world = start.world := by
  let WorldSame (start next : Proxy) : Prop := next.world = start.world
  have preorder : IsPreorder Proxy WorldSame :=
    { refl := fun _ => rfl, trans := fun _ _ _ first second => second.trans first }
  have frees : Frees reloadParts (Conduct.relating WorldSame) := by
    refine frees_relating (fun part inside start next changes => ?_)
    refine changes.unchanged .world ?_
    rcases inside with ((rfl | rfl) | ⟨hid, rfl⟩) | ⟨hid, rfl⟩
    all_goals simp [Part.seen]
  exact (resetHelperUnit_within frees).related run

/-- A reload from a document that keeps servers keeps some. -/
theorem resetHelperUnit_staffing : Within staffing resetHelperUnit := by
  refine within_averting ?_ (resetHelperUnit_within ⟨fun _ _ _ _ _ _ => trivial, ?_, ?_⟩)
  · intro start ret next staffed run
    have world := resetHelperUnit_world run
    rcases yields_resetHelperUnit run with ⟨-, rfl⟩ | loaded
    · exact staffed.same rfl rfl
    · obtain ⟨system, entered, node, found, cleared, filled, clears, fills, outcome⟩ := loaded
      obtain ⟨-, filled'⟩ := addServers_routed _ (clearHelpers_routed clears) fills
      have some := filled' (staffed.documents start.asked system entered node found)
      refine ⟨?_, world ▸ staffed.documents⟩
      rcases outcome with ⟨-, rfl⟩ | ⟨-, cmds, sets⟩
      · exact some
      · rw [yields_modify.mp sets]
        exact some
  · exact fun _ _ => nofun
  · exact fun _ _ => nofun

-----------------------------------------------------------------------------------------
-- Every reachable state
-----------------------------------------------------------------------------------------

/-- A step that ends with a fault. -/
def Event.Fails (proxy : Proxy) (label : Event × (Nat → Answers)) (fault : Fault) : Prop :=
  label.1.Enabled proxy
    ∧ label.1.perform { proxy with world := label.2, asked := 0 } = .error fault

/-- The document that a step may load keeps servers. -/
def KeepsServersIn (label : Event × (Nat → Answers)) : Prop :=
  ∀ count, KeepsServers (label.2 count).serverXml

/-- A state reached from a configuration with servers, if every document that a reload may
load goes on listing some.
-/
def Proxy.ReachedStaffed : Proxy → Prop :=
  Reachable (fun proxy => proxy.Idle ∧ proxy.pool.svidlist ≠ [])
    (fun start label next => KeepsServersIn label ∧ Event.Step start label next)

theorem reached_staffed {proxy : Proxy} (reached : proxy.ReachedStaffed)
    : proxy.pool.svidlist ≠ [] := by
  refine reached.invariant (fun proxy => proxy.pool.svidlist ≠ []) (fun _ idle => idle.2) ?_
  rintro start label next some ⟨keeps, step⟩
  have permits :=
    looksAtTables_staffing.permits nextSvid_staffing anySvid_staffing resetHelperUnit_staffing
  have staffed : Staffed { start with world := label.2, asked := 0 } := ⟨some, keeps⟩
  exact ((permits.perform label.1).related step.2 staffed).svidlist

/-- As long as every loaded configuration lists a server, no step chooses among no servers. -/
theorem no_empty_choice {proxy : Proxy} (reached : proxy.ReachedStaffed)
    {label : Event × (Nat → Answers)} (keeps : KeepsServersIn label)
    : ¬Event.Fails proxy label .emptyVector := by
  rintro ⟨-, failed⟩
  have permits :=
    looksAtTables_staffing.permits nextSvid_staffing anySvid_staffing resetHelperUnit_staffing
  have some := reached_staffed reached
  have staffed : Staffed { proxy with world := label.2, asked := 0 } := ⟨some, keeps⟩
  exact (permits.perform label.1).tolerated failed staffed rfl

/-- The frame of an administrator's order to reload the configuration. -/
def reloadFrame : List UInt8 :=
  let packet : NETOutputPacket := OutputPacket.build sysReloadConfig do
    let _ ← OutputPacket.writeString adminFlag
  packet.bytes

/-- User 7 logs in, and a configuration without servers is loaded. -/
def emptyReloadRun : List (Event × (Nat → Answers)) := [
  Event.calmly (.accept 1 33 0),
  Event.calmly (.clientFrame 1 (loginFrame 7)),
  (.clientFrame 1 reloadFrame, fun _ => { calm with serverXml := some (serverXml []) })
]

/-- The client hangs up. -/
def hangup (sid : SessionId) : Event × (Nat → Answers) :=
  Event.calmly (.web sid ⟨true, false, false⟩ .transient)

/-- Whether a program ends in a choice among no servers. -/
def choosesEmpty {α : Type} : Except Fault α → Bool
  | .error .emptyVector => true
  | _ => false

theorem eq_of_choosesEmpty {α : Type} {outcome : Except Fault α}
    (chooses : choosesEmpty outcome = true)
    : outcome = .error .emptyVector := by
  match outcome, chooses with
  | .error .emptyVector, _ => rfl

/-- Behind a reload that finds no servers, the end of a user's session chooses among none. -/
theorem empty_choice
    : ∃ proxy : Proxy, proxy.Reached ∧ Event.Fails proxy (hangup 1) .emptyVector := by
  let failing (proxy : Proxy) : Prop :=
    (hangup 1).1.Enabled proxy
      ∧ choosesEmpty ((hangup 1).1.perform { proxy with world := fun _ => calm, asked := 0 })
        = true
  obtain ⟨proxy, reached, fails⟩ := Proxy.unused_unused.run emptyReloadRun
    (fun proxy => failing proxy) (by decide +kernel)
  obtain ⟨enabled, chooses⟩ := of_decide_eq_true fails
  exact ⟨proxy, reached, enabled, eq_of_choosesEmpty chooses⟩

/-- Behind a start with one server, a server is asked for the user counts. -/
theorem no_empty_choice_at_first_tick
    : ∃ proxy : Proxy, proxy.ReachedStaffed
        ∧ ¬Event.Fails proxy (Event.calmly .levelCountTimer) .emptyVector := by
  have boots : Proxy.unused.booted.any (fun proxy => proxy.pool.svidlist ≠ []) = true := by
    decide +kernel
  have keeps : KeepsServersIn (Event.calmly .levelCountTimer) := by
    intro count
    change KeepsServers calm.serverXml
    decide +kernel
  cases booted : Proxy.unused.booted with
  | none => simp [booted] at boots
  | some idle =>
      have some : idle.pool.svidlist ≠ [] := by simpa [booted] using boots
      have reached : idle.ReachedStaffed := .start ⟨Proxy.unused_unused.idle booted, some⟩
      exact ⟨idle, reached, no_empty_choice reached keeps⟩

end ProxyServer.System
