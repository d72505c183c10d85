import ProxyServer.HashMap.ChunkAllocator
import ProxyServer.Runtime

/-! The hash map of fixed size in a memory pool.
Its nodes are linked by handlers through the pool: the free ones in a single list, those in use
in the list of their bucket and in the additional list, which every access reorders. A handler
is the number of its node; `none` is `INVALID_BC_MEM_HANDLER`, and the null pointer.
-/

namespace ProxyServer

/-- The pool's header, its nodes and the chunk allocator behind them.
The nodes are kept field by field, as maps from the node. The hash function is a member of the
class.
-/
structure HashMap (Key σ η : Type) where
  nodeTotal : Nat
  bucketSize : Nat
  usedNodeNum : Int
  usedBucketNum : Int
  addHead : Option Nat
  addTail : Option Nat
  freeList : Option Nat
  bucket : Nat → Option Nat
  key : Nat → Key
  chunkLen : Nat → Nat
  chunkHead : Nat → Option η
  nodePrev : Nat → Option Nat
  nodeNext : Nat → Option Nat
  addPrev : Nat → Option Nat
  addNext : Nat → Option Nat
  addInfo1 : Nat → Int
  addInfo2 : Nat → Int
  flag : Nat → Nat
  hashFunc : Key → Nat
  allocator : σ

/-- The output arguments of a call: `data_len` null, `data` null, or a buffer with its
capacity in `*data_len`. -/
inductive OutArgs where
  | neither
  | lengthOnly
  | buffer (capacity : Int)
  deriving DecidableEq, Repr

/-- What a call leaves there: the bytes it puts into the buffer, and the new `*data_len`. -/
structure OutData where
  bytes : List UInt8
  length : Option Int
  deriving DecidableEq, Repr

namespace HashMap

open Function (update)

variable {Key σ η : Type}

def hashMapErrorBase : Int := -1000
def nodeFlagUnchg : Nat := 0

-----------------------------------------------------------------------------------------
-- The free list
-----------------------------------------------------------------------------------------

def freeListInsert (map : HashMap Key σ η) (node : Nat) : HashMap Key σ η :=
  { map with nodeNext := update map.nodeNext node map.freeList, freeList := some node }

def freeListRemove (map : HashMap Key σ η) : Option Nat × HashMap Key σ η :=
  match map.freeList with
  | none => (none, map)
  | some headNode =>
      (
        some headNode,
        {
          map with
          freeList := map.nodeNext headNode
          nodeNext := update map.nodeNext headNode none
        }
      )

def initNode (map : HashMap Key σ η) (node : Nat) : HashMap Key σ η :=
  {
    map with
    chunkLen := update map.chunkLen node 0
    addInfo1 := update map.addInfo1 node 0
    addInfo2 := update map.addInfo2 node 0
    flag := update map.flag node nodeFlagUnchg
    chunkHead := update map.chunkHead node none
    nodeNext := update map.nodeNext node none
    nodePrev := update map.nodePrev node none
    addNext := update map.addNext node none
    addPrev := update map.addPrev node none
  }

-----------------------------------------------------------------------------------------
-- The list of a bucket
-----------------------------------------------------------------------------------------

def getBucketId (map : HashMap Key σ η) (key : Key) : Nat :=
  wrap32 (map.hashFunc key) % map.bucketSize

/-- The loops that count the nodes behind a handler: of `get_bucket_list_len`, and over the free
list in `verify_pool_data`. A walk over more nodes than `turns`, the nodes of the pool, meets
one twice and never ends.
-/
def countNodes (next : Nat → Option Nat) : Nat → Option Nat → Nat → Option Nat
  | _, none, num => some num
  | 0, some _, _ => none
  | turns + 1, some node, num => countNodes next turns (next node) (num + 1)

def getBucketListLen (map : HashMap Key σ η) (bucketId : Nat) : Option Nat :=
  countNodes map.nodeNext map.nodeTotal (map.bucket bucketId) 0

def insertNodeList (map : HashMap Key σ η) (node : Nat) : HashMap Key σ η :=
  let bucketId := map.getBucketId (map.key node)
  let map := { map with nodeNext := update map.nodeNext node (map.bucket bucketId) }
  let map := { map with nodePrev := update map.nodePrev node none }
  let map := { map with bucket := update map.bucket bucketId (some node) }
  let map :=
    match map.nodeNext node with
    | some nextNode => { map with nodePrev := update map.nodePrev nextNode (some node) }
    | none => map
  { map with usedNodeNum := map.usedNodeNum + 1 }

def deleteFromNodeList (map : HashMap Key σ η) (node : Nat) : HashMap Key σ η :=
  let nextNodeHdr := map.nodeNext node
  let prevNodeHdr := map.nodePrev node
  let map :=
    match prevNodeHdr with
    | some prevNode =>
        { map with nodeNext := update map.nodeNext prevNode (map.nodeNext node) }
    | none => map
  let map :=
    match nextNodeHdr with
    | some nextNode =>
        { map with nodePrev := update map.nodePrev nextNode (map.nodePrev node) }
    | none => map
  let bucketId := map.getBucketId (map.key node)
  let map :=
    if some node = map.bucket bucketId then
      { map with bucket := update map.bucket bucketId nextNodeHdr }
    else map
  {
    map with
    nodeNext := update map.nodeNext node none
    nodePrev := update map.nodePrev node none
    usedNodeNum := map.usedNodeNum - 1
  }

-----------------------------------------------------------------------------------------
-- The additional list
-----------------------------------------------------------------------------------------

def deleteFromAddList (map : HashMap Key σ η) (node : Nat) : HashMap Key σ η :=
  let nextAddHdr := map.addNext node
  let prevAddHdr := map.addPrev node
  if nextAddHdr = none ∧ prevAddHdr = none
      ∧ map.addHead ≠ some node ∧ map.addTail ≠ some node then
    map
  else
    let map :=
      match prevAddHdr with
      | some prevAdd => { map with addNext := update map.addNext prevAdd (map.addNext node) }
      | none => map
    let map :=
      match nextAddHdr with
      | some nextAdd => { map with addPrev := update map.addPrev nextAdd (map.addPrev node) }
      | none => map
    let map := if map.addHead = some node then { map with addHead := nextAddHdr } else map
    let map := if map.addTail = some node then { map with addTail := prevAddHdr } else map
    {
      map with
      addPrev := update map.addPrev node none
      addNext := update map.addNext node none
    }

def insertAddListHead (map : HashMap Key σ η) (node : Nat) : HashMap Key σ η :=
  let map := map.deleteFromAddList node
  let map := { map with addNext := update map.addNext node map.addHead }
  let map := { map with addHead := some node }
  let map := if map.addTail = none then { map with addTail := some node } else map
  let map := { map with addPrev := update map.addPrev node none }
  match map.addNext node with
  | some nextNode => { map with addPrev := update map.addPrev nextNode (some node) }
  | none => map

/-- The lines at the end of `find_node` and `insert_node`: counts an access at `now` and moves
the node to the head of the additional list. -/
def access (map : HashMap Key σ η) (node : Nat) (now : Int) : HashMap Key σ η :=
  let map := { map with addInfo1 := update map.addInfo1 node now }
  let map := { map with addInfo2 := update map.addInfo2 node (toInt32 (map.addInfo2 node + 1)) }
  map.insertAddListHead node

-----------------------------------------------------------------------------------------
-- Nodes in use
-----------------------------------------------------------------------------------------

section Operations

variable [ChunkAllocator σ η]

open ChunkAllocator (malloc free merge split getChunkNum getFreeChunkNum)

def useNode (map : HashMap Key σ η) (node : Nat) (key : Key) (chunkLen : Nat)
    (chunkHead : Option η)
    : Option (HashMap Key σ η) := do
  let map :=
    {
      map with
      key := update map.key node key
      chunkLen := update map.chunkLen node chunkLen
      chunkHead := update map.chunkHead node chunkHead
      addInfo1 := update map.addInfo1 node 0
      addInfo2 := update map.addInfo2 node 0
    }
  let bucketListLen ← map.getBucketListLen (map.getBucketId (map.key node))
  let map :=
    if bucketListLen = 0 then { map with usedBucketNum := map.usedBucketNum + 1 } else map
  pure (map.insertNodeList node)

def freeNode (map : HashMap Key σ η) (node : Nat) : Option (HashMap Key σ η) := do
  let map := map.deleteFromNodeList node
  let map := { map with allocator := free map.allocator (map.chunkHead node) }
  let bucketListLen ← map.getBucketListLen (map.getBucketId (map.key node))
  let map :=
    if bucketListLen = 0 then { map with usedBucketNum := map.usedBucketNum - 1 } else map
  pure (map.initNode node)

def mergeNodeData (map : HashMap Key σ η) (node : Nat) (out : OutArgs) : Int × OutData :=
  match out with
  | .buffer capacity =>
      let (code, bytes, length) :=
        merge map.allocator (map.chunkHead node) (map.chunkLen node) capacity
      (code, { bytes, length := some length })
  | .lengthOnly => (-1, { bytes := [], length := some (map.chunkLen node) })
  | .neither => (-1, { bytes := [], length := none })

/-- The lines at the start of `update_node` and `delete_node`: hands out the stored data. A
result other than 0 ends the call; without a buffer it is 0. -/
def readStored (map : HashMap Key σ η) (node : Nat) (out : OutArgs) : Int × OutData :=
  match out with
  | .buffer capacity => map.mergeNodeData node (.buffer capacity)
  | .lengthOnly => (0, { bytes := [], length := some (map.chunkLen node) })
  | .neither => (0, { bytes := [], length := none })

-----------------------------------------------------------------------------------------
-- The operations of the map
-----------------------------------------------------------------------------------------

variable [DecidableEq Key]

/-- The loop of `find_node`, with the bound of `countNodes` on its turns. -/
def findInList (map : HashMap Key σ η) (key : Key) : Nat → Option Nat → Option (Option Nat)
  | _, none => some none
  | 0, some _ => none
  | turns + 1, some node =>
      if map.key node = key then some (some node)
      else map.findInList key turns (map.nodeNext node)

def findNode (map : HashMap Key σ η) (key : Key) (now : Int)
    : Option (Option Nat × HashMap Key σ η) := do
  match ← map.findInList key map.nodeTotal (map.bucket (map.getBucketId key)) with
  | some node => pure (some node, map.access node now)
  | none => pure (none, map)

def insertNode (map : HashMap Key σ η) (key : Key) (newData : List UInt8) (now : Int)
    : Option (Option Nat × HashMap Key σ η) :=
  match map.freeListRemove with
  | (none, map) => pure (none, map)
  | (some node, map) =>
      let newChunkNum := getChunkNum map.allocator newData.length
      match malloc map.allocator newChunkNum with
      | (none, allocator) => pure (none, { map with allocator }.freeListInsert node)
      | (some headHdr, allocator) => do
          let map := { map with allocator := split allocator (some headHdr) newData }
          let map ← map.useNode node key newData.length (some headHdr)
          pure (some node, map.access node now)

def updateNode (map : HashMap Key σ η) (node : Nat) (newData : List UInt8) (old : OutArgs)
    : Option Nat × OutData × HashMap Key σ η :=
  let (code, oldData) := map.readStored node old
  if code ≠ 0 then (none, oldData, map)
  else
    let oldChunkNum := getChunkNum map.allocator (map.chunkLen node)
    let newChunkNum := getChunkNum map.allocator newData.length
    if oldChunkNum ≠ newChunkNum then
      if oldChunkNum < newChunkNum
          ∧ getFreeChunkNum map.allocator < newChunkNum - oldChunkNum then
        (none, oldData, map)
      else
        let (headHdr, allocator) :=
          malloc (free map.allocator (map.chunkHead node)) newChunkNum
        (
          some node,
          oldData,
          {
            map with
            allocator := split allocator headHdr newData
            chunkLen := update map.chunkLen node newData.length
            chunkHead := update map.chunkHead node headHdr
          }
        )
    else
      (
        some node,
        oldData,
        {
          map with
          allocator := split map.allocator (map.chunkHead node) newData
          chunkLen := update map.chunkLen node newData.length
        }
      )

def replaceNode (map : HashMap Key σ η) (key : Key) (newData : List UInt8) (old : OutArgs)
    (now : Int)
    : Option (Option Nat × OutData × HashMap Key σ η) := do
  match ← map.findNode key now with
  | (some node, map) => pure (map.updateNode node newData old)
  | (none, map) =>
      let (node, map) ← map.insertNode key newData now
      pure (node, { bytes := [], length := none }, map)

def deleteNode (map : HashMap Key σ η) (node : Nat) (out : OutArgs)
    : Option (Int × OutData × HashMap Key σ η) :=
  let (code, data) := map.readStored node out
  if code ≠ 0 then pure (-1, data, map)
  else do
    let map := map.deleteFromAddList node
    let map ← map.freeNode node
    pure (0, data, map.freeListInsert node)

-----------------------------------------------------------------------------------------
-- Opening a pool
-----------------------------------------------------------------------------------------

def initPoolData (map : HashMap Key σ η) (nodeTotal bucketSize : Nat) : HashMap Key σ η :=
  let map :=
    {
      map with
      nodeTotal
      bucketSize
      usedNodeNum := 0
      usedBucketNum := 0
      addHead := none
      addTail := none
      freeList := none
    }
  let map :=
    (List.range bucketSize).foldl
      (fun map i => { map with bucket := update map.bucket i none }) map
  (List.range nodeTotal).foldl (fun map i => (map.initNode i).freeListInsert i) map

def verifyPoolData (map : HashMap Key σ η) (nodeTotal bucketSize : Nat) : Option Int :=
  if nodeTotal ≠ map.nodeTotal then some hashMapErrorBase
  else if bucketSize ≠ map.bucketSize then some hashMapErrorBase
  else
    let usedBucketCount := (List.range map.bucketSize).countP (fun i => (map.bucket i).isSome)
    if (usedBucketCount : Int) ≠ map.usedBucketNum then some hashMapErrorBase
    else do
      let freeNodeCount ← countNodes map.nodeNext map.nodeTotal map.freeList 0
      if map.usedNodeNum + freeNodeCount ≠ map.nodeTotal then pure hashMapErrorBase
      else pure 0

/-- `open`, over a pool with any contents. -/
def openPool (map : HashMap Key σ η) (init : Bool)
    (nodeTotal bucketSize nChunks chunkSize : Nat)
    : Option (Int × HashMap Key σ η) := do
  let (ret, map) ←
    if init then pure (0, map.initPoolData nodeTotal bucketSize)
    else do
      let ret ← map.verifyPoolData nodeTotal bucketSize
      pure (ret, map)
  if ret ≠ 0 then pure (ret, map)
  else
    let (ret, allocator) := ChunkAllocator.openPool map.allocator init nChunks chunkSize
    pure (ret, { map with allocator })

end Operations

end HashMap

end ProxyServer
