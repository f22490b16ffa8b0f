import Arbora.Lib.Dict
import Arbora.Lib.Machine
import Mathlib.Data.Finset.Basic
import Mathlib.Data.List.Sort
import Mathlib.Algebra.Order.Ring.Rat

/-! Items loaded for a session: at most so many, dropped when idle, each under a generation of its own. -/
namespace Arbora.Fleet

/-- The object made for one load of an item; what was loaded is kept for the record. -/
structure Generation where
  id : ℕ
  (key item : String)
  autoUnload : Bool
deriving DecidableEq

structure Session where
  items : Dict String ℚ
  lastAccess : ℚ
  (pendingChanged notificationSent : Bool)
  oneShot : Finset String
  generations : Dict String Generation
  bindings : Dict String (List String)
  claims : Dict String ℕ

structure LoadGrant where
  (key item : String)
  generation : Generation
  binding : List String
  claim : Option ℕ
  dispatched : Bool

structure SessionLoads where
  cap : {n : ℕ // 1 ≤ n ∧ n ≤ 256}
  idleTtl : {n : ℤ // 1 ≤ n}
  sessions : Dict String Session
  /-- How often the clock has been read. -/
  reads : ℕ
  /-- The number of the next new object. -/
  nextObject : ℕ
  /-- The grants given out so far. -/
  grants : List LoadGrant

inductive Raised
  | valueError (message : String)
  | loadCapExceeded (loaded : List (String × ℚ))
  | keyError (key : String)
deriving DecidableEq

inductive Answer
  | raised (error : Raised)
  | loaded (requested evicted : List String) (sessionTotal : ℕ)
  | removed (items : List String)
  | granted (grant : Option ℕ)
  | holds (b : Bool)
  | released
deriving DecidableEq

namespace Session

def fresh (now : ℚ) : Session := ⟨∅,now,false,false,∅,∅,∅,∅⟩
def size (x : Session) : ℕ := x.items.keys.length
def snapshot (x : Session) : List (String × ℚ) :=
  (x.items.entries.map fun entry => (entry.1,entry.2)).insertionSort fun a b => a.1 ≤ b.1

def remove (x : Session) (item : String) : Session :=
  {x with
    items := x.items.pop item
    oneShot := x.oneShot.erase item
    generations := x.generations.pop item
    bindings := x.bindings.pop item
    claims := x.claims.pop item}

def changed (x : Session) : Session := {x with pendingChanged := true, notificationSent := false}

def markLoaded (x : Session) (name : String) (now : ℚ) (binding : List String) (generation : Generation) : Session :=
  {x with
    items := x.items.set name now
    generations := x.generations.set name generation
    bindings := x.bindings.set name binding
    claims := x.claims.pop name
    oneShot := if generation.autoUnload then insert name (x.oneShot.erase name) else x.oneShot.erase name}

/-- The least recently used first. -/
def lru (x : Session) (a b : String) : Bool :=
  let stamp (name : String) : ℚ := (x.items.get name).getD 0
  stamp a < stamp b || (stamp a = stamp b && a ≤ b)

def overflowVictims (x : Session) (cap : ℕ) (requested new : List String) (evict : Option String) :
    Except Raised (List String) :=
  let overflow := x.size+new.length-cap
  if cap < new.length then .error (.valueError "request exceeds session cap")
  else if overflow ≠ 0 ∧ evict ≠ some "lru" then .error (.loadCapExceeded x.snapshot)
  else if evict ≠ none ∧ evict ≠ some "lru" then .error (.valueError "evict must be lru")
  else
    let candidates := x.items.keys.filter (· ∉ requested)
    let victims := (candidates.insertionSort fun a b => x.lru a b = true).take overflow
    if victims.length < overflow then .error (.loadCapExceeded x.snapshot) else .ok victims

def holds (x : Session) (g : LoadGrant) : Bool :=
  x.generations.get g.item = some g.generation && x.bindings.get g.item = some g.binding &&
    (g.claim = none || x.claims.get g.item = g.claim) && ((x.items.get g.item).isSome || g.dispatched)

/-- A one-shot is no longer visible once it is dispatched. -/
def consume (x : Session) (item : String) : Session :=
  changed {x with items := x.items.pop item, oneShot := x.oneShot.erase item}

def stamp (x : Session) (item : String) (now : ℚ) : Session := {x with items := x.items.set item now}

end Session

/-- A binding is complete when it has a part. -/
def bindingsIncomplete (requested : List String) : Option (Dict String (List String)) → Bool
  | none => false
  | some bindings => requested.any fun name => ((bindings.get name).getD []).isEmpty

def bindingOf (bindings : Option (Dict String (List String))) (name : String) : List String :=
  match bindings with
  | none => [name]
  -- complete, as checked before
  | some bindings => (bindings.get name).getD []

/-- Loads one item after another, each with a new object. -/
def markAll (key : String) (now : ℚ) (bindings : Option (Dict String (List String))) (autoUnload : Bool) :
    List String → Session → ℕ → Session
  | [], x, _ => x
  | name :: names, x, next =>
    markAll key now bindings autoUnload names
      (x.markLoaded name now (bindingOf bindings name) ⟨next,key,name,autoUnload⟩) (next+1)

namespace SessionLoads

def new (cap : {n : ℕ // 1 ≤ n ∧ n ≤ 256}) (idleTtl : {n : ℤ // 1 ≤ n}) : SessionLoads := ⟨cap,idleTtl,∅,0,0,[]⟩

variable (clock : ℕ → ℚ)

def found (s : SessionLoads) (key : String) : Session :=
  let now := clock s.reads
  match s.sessions.get key with
  | none => .fresh now
  | some x => if s.idleTtl.1 ≤ now-x.lastAccess then .fresh now else {x with lastAccess := now}

/-- The same lookup as it leaves the sessions. -/
def lookedUp (s : SessionLoads) (key : String) : SessionLoads :=
  {s with reads := s.reads+1, sessions := s.sessions.set key (s.found clock key)}

def put (s : SessionLoads) (key : String) (x : Session) : SessionLoads := {s with sessions := s.sessions.set key x}

/-- Reads the clock once more. -/
def ticked (s : SessionLoads) : SessionLoads := {s with reads := s.reads+1}

def load (s : SessionLoads) (key : String) (items : List String) (evict : Option String) (autoUnload : Bool)
    (bindings : Option (Dict String (List String))) : Answer × SessionLoads :=
  let requested := items.eraseDups
  if bindingsIncomplete requested bindings then (.raised (.valueError "load binding is incomplete"),s)
  else
    let x := s.found clock key
    let s := s.lookedUp clock key
    let new := requested.filter fun name => (x.items.get name).isNone
    match x.overflowVictims s.cap.1 requested new evict with
    | .error e => (.raised e,s)
    | .ok victims =>
      let x := victims.foldl Session.remove x
      let x := markAll key (clock s.reads) bindings autoUnload requested x s.nextObject
      let x := if new ≠ [] ∨ victims ≠ [] then x.changed else x
      (.loaded requested victims x.size,
        {s.ticked with nextObject := s.nextObject+requested.length}.put key x)

def unload (s : SessionLoads) (key : String) (items : List String) : Answer × SessionLoads :=
  let x := s.found clock key
  let s := s.lookedUp clock key
  let removed := (items.eraseDups.filter fun item => (x.generations.get item).isSome).insertionSort (· ≤ ·)
  let x := removed.foldl Session.remove x
  let x := if removed ≠ [] then x.changed else x
  (.removed removed,s.put key x)

def claimed (s : SessionLoads) (key item : String) (x : Session) : Option ℕ × SessionLoads :=
  if item ∈ x.oneShot then
    (some s.nextObject,
      {s with nextObject := s.nextObject+1}.put key {x with claims := x.claims.set item s.nextObject})
  else (none,s)

/-- Reserves a one-shot; ordinary calls share a generation. -/
def acquire (s : SessionLoads) (key item : String) : Answer × SessionLoads :=
  let x := s.found clock key
  let s := s.lookedUp clock key
  if (x.items.get item).isNone || (x.claims.get item).isSome then (.granted none,s)
  else
    let claim := (s.claimed key item x).1
    let s := (s.claimed key item x).2
    match x.generations.get item, x.bindings.get item with
    | some generation, some binding =>
      (.granted (some s.grants.length),{s with grants := s.grants ++ [⟨key,item,generation,binding,claim,false⟩]})
    | _, _ => (.raised (.keyError item),s)

def current (s : SessionLoads) (g : LoadGrant) : Answer × SessionLoads :=
  (.holds ((s.found clock g.key).holds g),s.lookedUp clock g.key)

def dispatch (s : SessionLoads) (i : ℕ) (g : LoadGrant) : Answer × SessionLoads :=
  if g.dispatched || !(s.found clock g.key).holds g then
    (.holds false,if g.dispatched then s else s.lookedUp clock g.key)
  else
    let s := {s.lookedUp clock g.key with grants := s.grants.set i {g with dispatched := true}}
    let x := s.found clock g.key
    let s := s.lookedUp clock g.key
    match g.claim with
    | some _ => (.holds true,s.put g.key (x.consume g.item))
    | none => (.holds true,s.ticked.put g.key (x.stamp g.item (clock s.reads)))

def revoke (s : SessionLoads) (g : LoadGrant) : Answer × SessionLoads :=
  if (s.found clock g.key).generations.get g.item ≠ some g.generation then (.removed [],s.lookedUp clock g.key)
  else (s.lookedUp clock g.key).unload clock g.key [g.item]

/-- Gives up this acquisition only. -/
def release (s : SessionLoads) (g : LoadGrant) : Answer × SessionLoads :=
  let x := s.found clock g.key
  let s := s.lookedUp clock g.key
  if x.generations.get g.item ≠ some g.generation then (.released,s)
  else if g.claim ≠ none ∧ x.claims.get g.item = g.claim then
    if g.dispatched then (.released,s.put g.key (x.remove g.item))
    else (.released,s.put g.key {x with claims := x.claims.pop g.item})
  else (.released,s)

def touch (s : SessionLoads) (key item : String) : Answer × SessionLoads :=
  let x := s.found clock key
  let s := s.lookedUp clock key
  if (x.items.get item).isNone then (.holds false,s)
  else
    let s := s.ticked.put key (x.stamp item (clock s.reads))
    if item ∈ x.oneShot then (.holds true,(s.unload clock key [item]).2) else (.holds true,s)

inductive Op
  | load (key : String) (items : List String) (evict : Option String) (autoUnload : Bool)
      (bindings : Option (Dict String (List String)))
  | unload (key : String) (items : List String)
  | acquire (key item : String)
  | current (i : ℕ)
  | dispatch (i : ℕ)
  | revoke (i : ℕ)
  | release (i : ℕ)
  | touch (key item : String)

/-- Grants are named by the order in which they were given out. -/
def step (s : SessionLoads) : Op → Answer × SessionLoads
  | .load key items evict autoUnload bindings => s.load clock key items evict autoUnload bindings
  | .unload key items => s.unload clock key items
  | .acquire key item => s.acquire clock key item
  | .current i => match s.grants[i]? with
    | none => (.holds false,s)
    | some g => s.current clock g
  | .dispatch i => match s.grants[i]? with
    | none => (.holds false,s)
    | some g => s.dispatch clock i g
  | .revoke i => match s.grants[i]? with
    | none => (.removed [],s)
    | some g => s.revoke clock g
  | .release i => match s.grants[i]? with
    | none => (.released,s)
    | some g => s.release clock g
  | .touch key item => s.touch clock key item

end SessionLoads
end Arbora.Fleet
