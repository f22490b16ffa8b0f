import Arbora.Invoke.Values
import Mathlib.Algebra.GroupWithZero.Nat

/-! The bounds of task input, which take a container that is reached twice for a cycle. -/
namespace Arbora.McpTasks
open Invoke (Scalar Key)

inductive Item (n : ℕ) where
  | scalar (s : Scalar)
  | ref (i : Fin n)
  | object

inductive Container (n : ℕ) where
  | dict (members : List (Key × Item n))
  | list (items : List (Item n))

/-- The containers in memory, which may hold each other and themselves. -/
abbrev Graph (n : ℕ) := Fin n → Container n

def maxTaskInputBytes : ℕ := 64*1024
def maxTaskInputItems : ℕ := 4096
def maxTaskInputDepth : ℕ := 24
def maxTaskInputStringBytes : ℕ := 16*1024

/-- The digits of an integer that the interpreter writes at most. -/
def maxStrDigits : ℕ := 4300

def isScalarTaskInput {n : ℕ} : Item n → Except String Bool
  | .scalar (.float (.finite _ _)) => .ok true
  | .scalar (.float _) => .error "task input contains a non-JSON value"
  | .scalar (.str s) =>
    if maxTaskInputStringBytes < s.utf8ByteSize then .error "task input string exceeds the size limit" else .ok true
  | .scalar _ => .ok true
  | _ => .ok false

def keyItem {n : ℕ} : Key → Item n
  | .str key => .scalar (.str key)
  | .other _ => .object

namespace Container
variable {n : ℕ}

def length : Container n → ℕ
  | .dict members => members.length
  | .list items => items.length

/-- What is pushed, the first one first. -/
def successors : Container n → List (Item n)
  | .dict members => members.flatMap fun m => [m.2,keyItem m.1]
  | .list items => items

def plainKeys : Container n → Bool
  | .dict members => members.all fun m => m.1 = .str m.1.text
  | .list _ => true

end Container

section
variable {n : ℕ} (G : Graph n)

def enterTaskInputContainer (i : Fin n) (left : ℕ) (seen : List (Fin n)) : Except String (List (Fin n)) :=
  if i ∈ seen then .error "task input contains a cycle"
  else if left < (G i).length then .error "task input exceeds the maximum item count"
  else .ok (i :: seen)

/-- What is seen then, and what is pushed on the stack. -/
def validateTaskInputNode (current : Item n) (left : ℕ) (seen : List (Fin n)) :
    Except String (List (Fin n) × List (Item n)) :=
  match isScalarTaskInput current with
  | .error e => .error e
  | .ok true => .ok (seen,[])
  | .ok false =>
    match current with
    | .ref i =>
      match enterTaskInputContainer G i left seen with
      | .error e => .error e
      | .ok seen =>
        if (G i).plainKeys then .ok (seen,(G i).successors.reverse)
        else .error "task input object keys must be strings"
    | _ => .error "task input contains a non-JSON value"

/-- The loop over the stack, whose top stands first; `left` more items are within the bound. -/
def walk : ℕ → List (Fin n) → List (Item n × ℕ) → Except String Unit
  | _, _, [] => .ok ()
  | left, seen, (current,depth) :: stack =>
    if maxTaskInputDepth < depth then .error "task input exceeds the maximum nesting depth"
    else
      match left with
      | 0 => .error "task input exceeds the maximum item count"
      | left+1 =>
        match validateTaskInputNode G current left seen with
        | .error e => .error e
        | .ok (seen,pushed) => walk left seen (pushed.map (·,depth+1) ++ stack)

/-- The JSON value that an item unfolds to when no path is as long as `fuel`. -/
def unfold : ℕ → Item n → Option Json.Document
  | 0, _ => none
  | _+1, .object => none
  | _+1, .scalar s => s.toJson
  | fuel+1, .ref i =>
    match G i with
    | .list items => (items.mapM (unfold fuel)).map .array
    | .dict members =>
      (members.mapM fun (m : Key × Item n) => match m.1 with
        | .str key => (unfold fuel m.2).map (key,·)
        | .other _ => none).map .object

/-- The items on the paths shorter than `fuel`, keys among them. -/
def occurrences : ℕ → Item n → List (Item n)
  | 0, _ => []
  | fuel+1, .ref i => .ref i :: (G i).successors.flatMap (occurrences fuel)
  | _+1, v => [v]

def tooLong : Item n → Bool
  | .scalar (.int i) => maxStrDigits < (Nat.toDigits 10 i.natAbs).length
  | _ => false

/-- `json.dumps`, which raises when an integer is too long to write. What is walked through is never deeper. -/
def dumps (value : Item n) : Option (List Char) :=
  if (occurrences G (maxTaskInputDepth+1) value).any tooLong then none
  else (unfold G (maxTaskInputDepth+1) value).map Json.write

def encodedBytes (text : List Char) : ℕ := (text.map Char.utf8Size).sum

def validateTaskInputEncodedSize (value : Item n) : Except String Unit :=
  match dumps G value with
  | none => .error "task input contains a non-JSON value"
  | some text =>
    if maxTaskInputBytes < encodedBytes text then .error "task input exceeds the size limit" else .ok ()

def validateTaskInputBounds (value : Item n) : Except String Unit :=
  match walk G maxTaskInputItems [] [(value,0)] with
  | .error e => .error e
  | .ok () => validateTaskInputEncodedSize G value

end

mutual

/-- The parts of a JSON value with their depths; a key is a part as deep as what it stands for. -/
def nodes (depth : ℕ) : Json.Document → List (ℕ × Json.Document)
  | .array items => (depth,.array items) :: itemNodes (depth+1) items
  | .object members => (depth,.object members) :: memberNodes (depth+1) members
  | d => [(depth,d)]

def itemNodes (depth : ℕ) : List Json.Document → List (ℕ × Json.Document)
  | [] => []
  | item :: rest => nodes depth item ++ itemNodes depth rest

def memberNodes (depth : ℕ) : List (String × Json.Document) → List (ℕ × Json.Document)
  | [] => []
  | (key,value) :: rest => nodes depth value ++ (depth,.string key) :: memberNodes depth rest

end

/-- What the bounds are to allow. -/
structure Allowed (t : Json.Document) : Prop where
  depth : ∀ node ∈ nodes 0 t, node.1 ≤ 24
  items : (nodes 0 t).length ≤ 4096
  strings : ∀ node ∈ nodes 0 t, ∀ s, node.2 = .string s → s.utf8ByteSize ≤ 16384
  encoded : encodedBytes (Json.write t) ≤ 65536

section
variable {n : ℕ} {G : Graph n}

variable {i : Fin n} {α β : Type} {fuel fuel' : ℕ} {v value : Item n} {t : Json.Document} {items : List (Item n)}

variable {l : List α} {a : Scalar} {l' : List β} {R : α → β → Prop} {next : List (Fin n) × List (Item n)}

theorem mapM_eq_some {f : α → Option β} : l.mapM f = some l' ↔ List.Forall₂ (fun a b => f a = some b) l l' := by
  induction l generalizing l' with
  | nil => simp [eq_comm]
  | cons a l ih =>
    rw [List.mapM_cons,List.forall₂_cons_left_iff]
    cases ha : f a with
    | none => simp
    | some b =>
      cases hl : l.mapM f with
      | none => simp [← ih,hl]
      | some rest =>
        simp only [Option.bind_eq_bind,Option.bind_some,Option.pure_def,Option.some.injEq,← ih,hl]
        constructor
        · rintro rfl
          exact ⟨b,rest,rfl,rfl,rfl⟩
        · rintro ⟨b',rest',rfl,rfl,rfl⟩
          rfl

/-- The parts directly in a JSON value, as they stand among its nodes. -/
def parts : Json.Document → List Json.Document
  | .array items => items
  | .object members => members.flatMap fun m => [m.2,.string m.1]
  | _ => []

theorem itemNodes_eq (depth : ℕ) (items : List Json.Document) : itemNodes depth items = items.flatMap (nodes depth) := by
  induction items with
  | nil => rfl
  | cons item rest ih => rw [itemNodes,ih,List.flatMap_cons]

theorem memberNodes_eq (depth : ℕ) (members : List (String × Json.Document)) :
    memberNodes depth members = (members.flatMap fun m => [m.2,.string m.1]).flatMap (nodes depth) := by
  induction members with
  | nil => rfl
  | cons m rest ih =>
    rw [memberNodes,ih,List.flatMap_cons,List.flatMap_append]
    simp [nodes]

theorem nodes_eq (depth : ℕ) (t : Json.Document) : nodes depth t = (depth,t) :: (parts t).flatMap (nodes (depth+1)) := by
  cases t with
  | array items => rw [nodes,itemNodes_eq]; rfl
  | object members => rw [nodes,memberNodes_eq]; rfl
  | _ => rfl

/-- A container of the kind that a JSON value is of. -/
def Kindred : Container n → Json.Document → Prop
  | .list _, .array _ => True
  | .dict _, .object _ => True
  | _, _ => False

theorem unfold_pair {m : Key × Item n} {p : String × Json.Document} :
    (match m.1 with
      | .str key => (unfold G fuel m.2).map (key,·)
      | .other _ => none) = some p ↔
      unfold G fuel m.2 = some p.2 ∧ unfold G fuel (keyItem m.1) = some (.string p.1) := by
  obtain ⟨key,child⟩ := m
  obtain ⟨text,value⟩ := p
  cases fuel with
  | zero => cases key <;> simp [unfold]
  | succ fuel => cases key <;> simp [unfold,keyItem,Scalar.toJson,and_comm,eq_comm]

theorem forall₂_pairs {R : Item n → Json.Document → Prop} {l : List (Key × Item n)}
    {l' : List (String × Json.Document)} :
    List.Forall₂ R (l.flatMap fun m => [m.2,keyItem m.1]) (l'.flatMap fun p => [p.2,.string p.1]) ↔
      List.Forall₂ (fun m p => R m.2 p.2 ∧ R (keyItem m.1) (.string p.1)) l l' := by
  induction l generalizing l' with
  | nil => cases l' <;> simp
  | cons m l ih =>
    cases l' with
    | nil => simp
    | cons p l' => simp [List.forall₂_cons,ih,and_assoc]

theorem unfold_ref : unfold G (fuel+1) (.ref i) = some t ↔
    Kindred (G i) t ∧ List.Forall₂ (fun c p => unfold G fuel c = some p) (G i).successors (parts t) := by
  rw [unfold]
  cases G i with
  | list items =>
    simp only [Option.map_eq_some_iff,mapM_eq_some,Container.successors]
    constructor
    · rintro ⟨ts,hts,rfl⟩
      exact ⟨trivial,hts⟩
    · rintro ⟨hkind,hts⟩
      cases t with
      | array ts => exact ⟨ts,hts,rfl⟩
      | _ => exact hkind.elim
  | dict members =>
    simp only [Option.map_eq_some_iff,mapM_eq_some,Container.successors,unfold_pair]
    constructor
    · rintro ⟨ms,hms,rfl⟩
      exact ⟨trivial,forall₂_pairs.mpr hms⟩
    · rintro ⟨hkind,hms⟩
      cases t with
      | object ms => exact ⟨ms,forall₂_pairs.mp hms,rfl⟩
      | _ => exact hkind.elim

theorem exists_forall₂ : (∃ l', List.Forall₂ R l l') ↔ ∀ a ∈ l, ∃ b, R a b := by
  induction l with
  | nil => simp
  | cons a l ih =>
    rw [List.forall_mem_cons,← ih]
    constructor
    · rintro ⟨l',h⟩
      obtain ⟨b,rest,hb,hrest,_⟩ := List.forall₂_cons_left_iff.mp h
      exact ⟨⟨b,hb⟩,rest,hrest⟩
    · rintro ⟨⟨b,hb⟩,rest,hrest⟩
      exact ⟨b :: rest,.cons hb hrest⟩

theorem forall₂_partner (h : List.Forall₂ R l l') : ∀ a ∈ l, ∃ b ∈ l', R a b := by
  induction h with
  | nil => exact fun a ha => nomatch ha
  | cons hab _ ih =>
    refine List.forall_mem_cons.mpr ⟨⟨_,List.mem_cons_self,hab⟩,fun a ha => ?_⟩
    obtain ⟨b,hb,hrel⟩ := ih a ha
    exact ⟨b,List.mem_cons_of_mem _ hb,hrel⟩

theorem unfold_keyItem {key : Key} (h : unfold G fuel (keyItem key) = some t) : ∃ text, t = .string text := by
  cases fuel with
  | zero => cases h
  | succ fuel =>
    cases key with
    | str text => exact ⟨text,(Option.some.inj h).symm⟩
    | other text => cases h

theorem unfold_ref_ne_none : unfold G (fuel+1) (.ref i) ≠ none ↔ ∀ c ∈ (G i).successors, unfold G fuel c ≠ none := by
  simp only [Option.ne_none_iff_exists']
  constructor
  · rintro ⟨t,ht⟩
    exact exists_forall₂.mp ⟨_,(unfold_ref.mp ht).2⟩
  · intro h
    cases hi : G i with
    | list items =>
      rw [hi] at h
      obtain ⟨ts,hts⟩ := exists_forall₂.mpr h
      exact ⟨.array ts,unfold_ref.mpr ⟨by rw [hi]; trivial,by rw [hi]; exact hts⟩⟩
    | dict members =>
      rw [hi] at h
      have hpairs : ∀ m ∈ members, ∃ p : String × Json.Document,
          unfold G fuel m.2 = some p.2 ∧ unfold G fuel (keyItem m.1) = some (.string p.1) := by
        intro m hm
        obtain ⟨value,hvalue⟩ := h m.2 (List.mem_flatMap.mpr ⟨m,hm,List.mem_cons_self⟩)
        obtain ⟨key,hkey⟩ := h (keyItem m.1) (List.mem_flatMap.mpr ⟨m,hm,List.mem_cons_of_mem _ List.mem_cons_self⟩)
        obtain ⟨text,rfl⟩ := unfold_keyItem hkey
        exact ⟨(text,value),hvalue,hkey⟩
      obtain ⟨ms,hms⟩ := exists_forall₂.mpr hpairs
      exact ⟨.object ms,unfold_ref.mpr ⟨by rw [hi]; trivial,by rw [hi]; exact forall₂_pairs.mpr hms⟩⟩

/-- An item and the part of a JSON value that it unfolds to, above a depth. -/
def Matches (bound : ℕ) (item : Item n) (node : ℕ × Json.Document) : Prop :=
  node.1 < bound ∧ ∀ s, item = .scalar (.str s) ↔ node.2 = .string s

theorem occurrences_match (depth : ℕ) (h : unfold G fuel v = some t) :
    List.Forall₂ (Matches (depth+fuel)) (occurrences G fuel v) (nodes depth t) := by
  induction fuel generalizing v t depth with
  | zero => cases h
  | succ fuel ih =>
    rw [nodes_eq]
    have hdepth : depth < depth+(fuel+1) := by omega
    cases v with
    | object => cases h
    | scalar s =>
      have hs : s.toJson = some t := h
      rcases s with _ | b | k | (⟨repr,value⟩ | negative | _) | text
      all_goals first | cases hs; done | skip
      all_goals
        cases hs
        exact .cons ⟨hdepth,by simp⟩ .nil
    | ref i =>
      obtain ⟨hkind,hparts⟩ := unfold_ref.mp h
      have hother : ∀ s, t ≠ .string s := by
        rintro s rfl
        cases hi : G i <;> rw [hi] at hkind <;> exact hkind
      refine .cons ⟨hdepth,fun s => ⟨fun hs => (by cases hs),fun hs => absurd hs (hother s)⟩⟩ ?_
      apply List.rel_flatMap hparts
      intro c p hp
      have hc := ih (depth+1) hp
      rwa [show depth+1+fuel = depth+(fuel+1) by omega] at hc

theorem unfold_of_depth (depth : ℕ) (h : unfold G fuel v = some t)
    (hdepth : ∀ node ∈ nodes depth t, node.1 < depth+fuel') : unfold G fuel' v = some t := by
  induction fuel generalizing fuel' v t depth with
  | zero => cases h
  | succ fuel ih =>
    rw [nodes_eq] at hdepth
    cases fuel' with
    | zero => exact absurd (hdepth _ List.mem_cons_self) (Nat.lt_irrefl _)
    | succ fuel' =>
      cases v with
      | object => cases h
      | scalar s => exact h
      | ref i =>
        obtain ⟨hkind,hparts⟩ := unfold_ref.mp h
        rw [List.forall₂_iff_zip] at hparts
        refine unfold_ref.mpr ⟨hkind,List.forall₂_iff_zip.mpr ⟨hparts.1,fun {c p} hzip => ?_⟩⟩
        apply ih (depth+1) (hparts.2 hzip)
        intro node hnode
        have hbound := hdepth node (List.mem_cons_of_mem _ (List.mem_flatMap.mpr ⟨p,(List.of_mem_zip hzip).2,hnode⟩))
        omega

theorem occurrences_eq (h : unfold G fuel v ≠ none) (h' : unfold G fuel' v ≠ none) :
    occurrences G fuel v = occurrences G fuel' v := by
  induction fuel generalizing fuel' v with
  | zero => exact absurd rfl h
  | succ fuel ih =>
    cases fuel' with
    | zero => exact absurd rfl h'
    | succ fuel' =>
      cases v with
      | object => rfl
      | scalar s => rfl
      | ref i =>
        rw [unfold_ref_ne_none] at h h'
        exact congrArg _ (List.flatMap_congr fun c hc => ih (h c hc) (h' c hc))

theorem occurrences_ne_nil (h : unfold G fuel v ≠ none) : occurrences G fuel v ≠ [] := by
  cases fuel with
  | zero => exact absurd rfl h
  | succ fuel => cases v <;> exact List.cons_ne_nil _ _

def Item.container : Item n → Option (Fin n)
  | .ref i => some i
  | _ => none

/-- There is room for the items, and no container stands among them twice or is seen. -/
structure Room (left : ℕ) (seen : List (Fin n)) (items : List (Item n)) : Prop where
  bound : items.length ≤ left
  strings : ∀ s, .scalar (.str s) ∈ items → s.utf8ByteSize ≤ maxTaskInputStringBytes
  apart : (items.filterMap Item.container ++ seen).Nodup

theorem Room.perm {left : ℕ} {seen : List (Fin n)} {items' : List (Item n)} (h : Room left seen items)
    (hperm : items.Perm items') : Room left seen items' where
  bound := hperm.length_eq ▸ h.bound
  strings s hs := h.strings s (hperm.mem_iff.mpr hs)
  apart := ((hperm.filterMap _).append_right seen).nodup_iff.mp h.apart

theorem room_ref {left : ℕ} {seen : List (Fin n)} :
    Room (left+1) seen (.ref i :: items) ↔ Room left (i :: seen) items := by
  have hsame : ((Item.ref i :: items).filterMap Item.container ++ seen).Nodup ↔
      (items.filterMap Item.container ++ i :: seen).Nodup := List.perm_middle.symm.nodup_iff
  constructor
  · rintro ⟨hbound,hstrings,hapart⟩
    exact ⟨Nat.le_of_succ_le_succ hbound,fun s hs => hstrings s (List.mem_cons_of_mem _ hs),hsame.mp hapart⟩
  · rintro ⟨hbound,hstrings,hapart⟩
    refine ⟨Nat.succ_le_succ hbound,fun s hs => ?_,hsame.mpr hapart⟩
    rcases List.mem_cons.mp hs with heq | hlater
    · cases heq
    · exact hstrings s hlater

theorem room_scalar {left : ℕ} {seen : List (Fin n)} : Room (left+1) seen (.scalar a :: items) ↔
      (∀ s, a = .str s → s.utf8ByteSize ≤ maxTaskInputStringBytes) ∧ Room left seen items := by
  constructor
  · rintro ⟨hbound,hstrings,hapart⟩
    refine ⟨fun s hs => hstrings s (hs ▸ List.mem_cons_self),Nat.le_of_succ_le_succ hbound,?_,hapart⟩
    exact fun s hs => hstrings s (List.mem_cons_of_mem _ hs)
  · rintro ⟨hfirst,hbound,hstrings,hapart⟩
    refine ⟨Nat.succ_le_succ hbound,fun s hs => ?_,hapart⟩
    rcases List.mem_cons.mp hs with heq | hlater
    · exact hfirst s (by cases heq; rfl)
    · exact hstrings s hlater

theorem node_scalar {left : ℕ} {seen : List (Fin n)} : validateTaskInputNode G (.scalar a) left seen = .ok next ↔
      (a.toJson ≠ none ∧ ∀ s, a = .str s → s.utf8ByteSize ≤ maxTaskInputStringBytes) ∧ (seen,[]) = next := by
  rcases a with _ | b | k | (⟨repr,value⟩ | negative | _) | text
  case str =>
    by_cases hlong : maxTaskInputStringBytes < text.utf8ByteSize
    · simp [validateTaskInputNode,isScalarTaskInput,hlong]
    · simp [validateTaskInputNode,isScalarTaskInput,hlong,Scalar.toJson,Nat.le_of_not_lt hlong]
  all_goals simp [validateTaskInputNode,isScalarTaskInput,Scalar.toJson]

/-- A container is entered just when it is new and its members are within the bound and have plain keys. -/
theorem node_ref {left : ℕ} {seen : List (Fin n)} : validateTaskInputNode G (.ref i) left seen = .ok next ↔
      (i ∉ seen ∧ (G i).length ≤ left ∧ (G i).plainKeys = true) ∧ (i :: seen,(G i).successors.reverse) = next := by
  simp only [validateTaskInputNode,isScalarTaskInput,enterTaskInputContainer]
  by_cases hseen : i ∈ seen
  · simp [hseen]
  · by_cases hlength : left < (G i).length
    · simp [hseen,hlength]
    · by_cases hkeys : (G i).plainKeys = true
      · simp [hseen,hlength,hkeys,Nat.le_of_not_lt hlength]
      · simp [hseen,hlength,hkeys]

theorem plainKeys_of_unfold (h : ∀ c ∈ (G i).successors, unfold G fuel c ≠ none) : (G i).plainKeys = true := by
  cases hi : G i with
  | list items => rfl
  | dict members =>
    rw [hi] at h
    refine List.all_eq_true.mpr fun m hm => decide_eq_true ?_
    have hkey := h (keyItem m.1) (List.mem_flatMap.mpr ⟨m,hm,List.mem_cons_of_mem _ List.mem_cons_self⟩)
    cases hkind : m.1 with
    | str key => rfl
    | other text =>
      rw [hkind] at hkey
      cases fuel with
      | zero => exact absurd rfl hkey
      | succ fuel => exact absurd rfl hkey

theorem length_le_successors (c : Container n) : c.length ≤ c.successors.length := by
  cases c with
  | list items => exact Nat.le_refl _
  | dict members =>
    induction members with
    | nil => exact Nat.le_refl _
    | cons m rest ih =>
      have hrest : rest.length ≤ (rest.flatMap fun m => [m.2,keyItem m.1]).length := ih
      show rest.length+1 ≤ (m.2 :: keyItem m.1 :: rest.flatMap fun m => [m.2,keyItem m.1]).length
      rw [List.length_cons,List.length_cons]
      omega

theorem length_le_flatMap {f : α → List β} (h : ∀ a ∈ l, f a ≠ []) : l.length ≤ (l.flatMap f).length := by
  induction l with
  | nil => exact Nat.le_refl _
  | cons a l ih =>
    obtain ⟨hfirst,hrest⟩ := List.forall_mem_cons.mp h
    have hpos := List.length_pos_iff.mpr hfirst
    have hle := ih hrest
    rw [List.flatMap_cons,List.length_append,List.length_cons]
    omega

/-- The items that are still to come. -/
def ahead (G : Graph n) (stack : List (Item n × ℕ)) : List (Item n) :=
  stack.flatMap fun e => occurrences G (maxTaskInputDepth+1-e.2) e.1

theorem ahead_pushed (items : List (Item n)) (depth : ℕ) (stack : List (Item n × ℕ)) :
    (ahead G (items.reverse.map (·,depth+1) ++ stack)).Perm
      (items.flatMap (occurrences G (maxTaskInputDepth-depth)) ++ ahead G stack) := by
  unfold ahead
  simp only [List.flatMap_append,List.flatMap_map,Nat.add_sub_add_right]
  exact ((List.reverse_perm items).flatMap_right _).append_right _

/-- All that is on the stack unfolds within the depth, and there is room for it. -/
structure Passes (G : Graph n) (left : ℕ) (seen : List (Fin n)) (stack : List (Item n × ℕ)) : Prop where
  unfolds : ∀ e ∈ stack, unfold G (maxTaskInputDepth+1-e.2) e.1 ≠ none
  room : Room left seen (ahead G stack)

section
variable {left depth : ℕ} {seen : List (Fin n)} {rest : List (Item n × ℕ)} {current : Item n}

theorem ahead_cons (hdepth : depth ≤ maxTaskInputDepth) : ahead G ((current,depth) :: rest) =
    occurrences G (maxTaskInputDepth-depth+1) current ++ ahead G rest := by
  unfold ahead
  rw [List.flatMap_cons,Nat.succ_sub hdepth]

theorem Passes.first (h : Passes G left seen ((current,depth) :: rest)) (hdepth : depth ≤ maxTaskInputDepth) :
    unfold G (maxTaskInputDepth-depth+1) current ≠ none := by
  have hfirst := h.unfolds _ List.mem_cons_self
  rwa [Nat.succ_sub hdepth] at hfirst

theorem Passes.shallow (h : Passes G left seen ((current,depth) :: rest)) : depth ≤ maxTaskInputDepth := by
  by_contra hdeep
  have hfuel : maxTaskInputDepth+1-depth = 0 := by omega
  have hfirst := h.unfolds _ List.mem_cons_self
  rw [hfuel] at hfirst
  exact hfirst rfl

theorem not_passes_zero : ¬Passes G 0 seen ((current,depth) :: rest) := by
  intro h
  have hnone := List.length_eq_zero_iff.mp (Nat.le_zero.mp h.room.bound)
  rw [ahead_cons h.shallow] at hnone
  exact occurrences_ne_nil (h.first h.shallow) (List.append_eq_nil_iff.mp hnone).1

theorem passes_scalar {a : Scalar} (hdepth : depth ≤ maxTaskInputDepth) :
    Passes G (left+1) seen ((.scalar a,depth) :: rest) ↔
      (a.toJson ≠ none ∧ ∀ s, a = .str s → s.utf8ByteSize ≤ maxTaskInputStringBytes) ∧ Passes G left seen rest := by
  have hone : ahead G ((.scalar a,depth) :: rest) = .scalar a :: ahead G rest := ahead_cons hdepth
  constructor
  · intro h
    have hroom := h.room
    rw [hone,room_scalar] at hroom
    exact ⟨⟨h.first hdepth,hroom.1⟩,fun e he => h.unfolds e (List.mem_cons_of_mem _ he),hroom.2⟩
  · rintro ⟨⟨hjson,hstring⟩,hrest⟩
    refine ⟨List.forall_mem_cons.mpr ⟨?_,hrest.unfolds⟩,?_⟩
    · rw [Nat.succ_sub hdepth]
      exact hjson
    · rw [hone,room_scalar]
      exact ⟨hstring,hrest.room⟩

theorem passes_ref {i : Fin n} (hdepth : depth ≤ maxTaskInputDepth) :
    Passes G (left+1) seen ((.ref i,depth) :: rest) ↔ (i ∉ seen ∧ (G i).length ≤ left ∧ (G i).plainKeys = true) ∧
        Passes G left (i :: seen) ((G i).successors.reverse.map (·,depth+1) ++ rest) := by
  have hperm := ahead_pushed (G := G) (G i).successors depth rest
  have hmore : ahead G ((.ref i,depth) :: rest) =
      .ref i :: ((G i).successors.flatMap (occurrences G (maxTaskInputDepth-depth)) ++ ahead G rest) :=
    ahead_cons hdepth
  constructor
  · intro h
    have hsuccessors := unfold_ref_ne_none.mp (h.first hdepth)
    have hroom := h.room
    rw [hmore,room_ref] at hroom
    refine ⟨⟨?_,?_,plainKeys_of_unfold hsuccessors⟩,fun e he => ?_,hroom.perm hperm.symm⟩
    · exact (List.nodup_cons.mp (List.nodup_append.mp hroom.apart).2.1).1
    · have hmembers := length_le_flatMap (f := occurrences G (maxTaskInputDepth-depth))
        fun c hc => occurrences_ne_nil (hsuccessors c hc)
      have hbound := hroom.bound
      rw [List.length_append] at hbound
      have hlength := length_le_successors (G i)
      omega
    · rcases List.mem_append.mp he with hpushed | hlater
      · obtain ⟨c,hc,rfl⟩ := List.mem_map.mp hpushed
        rw [Nat.add_sub_add_right]
        exact hsuccessors c (List.mem_reverse.mp hc)
      · exact h.unfolds e (List.mem_cons_of_mem _ hlater)
  · rintro ⟨_,h⟩
    refine ⟨List.forall_mem_cons.mpr ⟨?_,fun e he => h.unfolds e (List.mem_append_right _ he)⟩,?_⟩
    · rw [Nat.succ_sub hdepth]
      refine unfold_ref_ne_none.mpr fun c hc => ?_
      have hc' := h.unfolds (c,depth+1) (List.mem_append_left _ (List.mem_map_of_mem (List.mem_reverse.mpr hc)))
      rwa [Nat.add_sub_add_right] at hc'
    · rw [hmore,room_ref]
      exact h.room.perm hperm

end

theorem walk_cons {left depth : ℕ} {seen : List (Fin n)} {rest : List (Item n × ℕ)} {current : Item n} :
    walk G (left+1) seen ((current,depth) :: rest) = .ok () ↔ depth ≤ maxTaskInputDepth ∧
      ∃ next, validateTaskInputNode G current left seen = .ok next ∧
        walk G left next.1 (next.2.map (·,depth+1) ++ rest) = .ok () := by
  rw [walk]
  by_cases hdeep : maxTaskInputDepth < depth
  · simp [hdeep]
  · cases hnode : validateTaskInputNode G current left seen with
    | error e => simp [hdeep]
    | ok next => simp [hdeep,Nat.le_of_not_lt hdeep]

theorem walk_iff (left : ℕ) (seen : List (Fin n)) (stack : List (Item n × ℕ)) (hseen : seen.Nodup) :
    walk G left seen stack = .ok () ↔ Passes G left seen stack := by
  induction left generalizing seen stack with
  | zero =>
    cases stack with
    | nil => exact iff_of_true rfl ⟨by simp,⟨Nat.zero_le _,by simp [ahead],hseen⟩⟩
    | cons e rest =>
      refine iff_of_false (fun h => ?_) not_passes_zero
      rw [walk] at h
      split_ifs at h
  | succ left ih =>
    cases stack with
    | nil => exact iff_of_true rfl ⟨by simp,⟨Nat.zero_le _,by simp [ahead],hseen⟩⟩
    | cons e rest =>
      obtain ⟨current,depth⟩ := e
      rw [walk_cons]
      by_cases hdepth : depth ≤ maxTaskInputDepth
      · cases current with
        | object => exact iff_of_false (fun ⟨_,_,h,_⟩ => by cases h) fun h => absurd rfl (h.first hdepth)
        | scalar a =>
          have hnext := ih seen rest hseen
          simp [hdepth,passes_scalar hdepth,node_scalar,hnext]
        | ref i =>
          rw [passes_ref hdepth]
          constructor
          · rintro ⟨_,next,hnode,hwalk⟩
            obtain ⟨hok,rfl⟩ := node_ref.mp hnode
            exact ⟨hok,(ih _ _ (hseen.cons hok.1)).mp hwalk⟩
          · rintro ⟨hok,hpasses⟩
            exact ⟨hdepth,_,node_ref.mpr ⟨hok,rfl⟩,(ih _ _ (hseen.cons hok.1)).mpr hpasses⟩
      · exact iff_of_false (fun h => hdepth h.1) fun h => hdepth h.shallow

/-- The unfolding of an item, which has one when it is a JSON value without a cycle. -/
def Unfolds (G : Graph n) (value : Item n) (t : Json.Document) : Prop := ∃ fuel, unfold G fuel value = some t

/-- No container is reached on two paths, and no integer is too long to write. -/
structure Plain (G : Graph n) (value : Item n) : Prop where
  unshared : ∀ fuel, unfold G fuel value ≠ none → ((occurrences G fuel value).filterMap Item.container).Nodup
  printable : ∀ fuel, unfold G fuel value ≠ none → ∀ item ∈ occurrences G fuel value, tooLong item = false

def Accepts (G : Graph n) (value : Item n) : Prop := validateTaskInputBounds G value = .ok ()

theorem encoded_iff (ht : unfold G (maxTaskInputDepth+1) value = some t) :
    validateTaskInputEncodedSize G value = .ok () ↔
      (∀ item ∈ occurrences G (maxTaskInputDepth+1) value, tooLong item = false) ∧
        encodedBytes (Json.write t) ≤ maxTaskInputBytes := by
  unfold validateTaskInputEncodedSize dumps
  rw [ht]
  by_cases hlong : (occurrences G (maxTaskInputDepth+1) value).any tooLong = true
  · rw [if_pos hlong]
    obtain ⟨item,hitem,htoo⟩ := List.any_eq_true.mp hlong
    exact iff_of_false (fun h => by cases h) fun h => absurd htoo (by rw [h.1 item hitem]; decide)
  · have hshort : ∀ item ∈ occurrences G (maxTaskInputDepth+1) value, tooLong item = false := by simpa using hlong
    rw [if_neg hlong]
    by_cases hsize : maxTaskInputBytes < encodedBytes (Json.write t)
    · simp [hsize]
    · simpa [hsize,Nat.le_of_not_lt hsize] using hshort

/-- What is accepted are the values within the bounds that share no container and have no integer too long. -/
theorem accepts_iff (value : Item n) : Accepts G value ↔ (∃ t, Unfolds G value t ∧ Allowed t) ∧ Plain G value := by
  have hwalk : walk G maxTaskInputItems [] [(value,0)] = .ok () ↔ Passes G maxTaskInputItems [] [(value,0)] :=
    walk_iff _ _ _ List.nodup_nil
  have hone : ahead G [(value,0)] = occurrences G (maxTaskInputDepth+1) value := List.append_nil _
  have hsplit : Accepts G value ↔ Passes G maxTaskInputItems [] [(value,0)] ∧
      validateTaskInputEncodedSize G value = .ok () := by
    rw [← hwalk]
    unfold Accepts validateTaskInputBounds
    cases walk G maxTaskInputItems [] [(value,0)] with
    | error e => exact ⟨fun h => (by cases h),fun h => (by cases h.1)⟩
    | ok _ => exact ⟨fun h => ⟨rfl,h⟩,fun h => h.2⟩
  rw [hsplit]
  constructor
  · rintro ⟨hpasses,hencoded⟩
    have hsome : unfold G (maxTaskInputDepth+1) value ≠ none := hpasses.unfolds _ List.mem_cons_self
    obtain ⟨t,ht⟩ := Option.ne_none_iff_exists'.mp hsome
    obtain ⟨hshort,hsize⟩ := (encoded_iff ht).mp hencoded
    have hmatch := occurrences_match 0 ht
    have hroom := hpasses.room
    rw [hone] at hroom
    refine ⟨⟨t,⟨_,ht⟩,⟨?_,?_,?_,hsize⟩⟩,⟨fun fuel hfuel => ?_,fun fuel hfuel => ?_⟩⟩
    · intro node hnode
      obtain ⟨item,_,hitem⟩ := forall₂_partner hmatch.flip node hnode
      have hbound : node.1 < 0+(24+1) := hitem.1
      omega
    · rw [← hmatch.length_eq]
      exact hroom.bound
    · intro node hnode s hs
      obtain ⟨item,hmem,hitem⟩ := forall₂_partner hmatch.flip node hnode
      exact hroom.strings s ((hitem.2 s).mpr hs ▸ hmem)
    · rw [occurrences_eq hfuel hsome]
      exact List.Nodup.of_append_left hroom.apart
    · rw [occurrences_eq hfuel hsome]
      exact hshort
  · rintro ⟨⟨t,⟨fuel,hfuel⟩,hallowed⟩,hplain⟩
    have ht : unfold G (maxTaskInputDepth+1) value = some t :=
      unfold_of_depth 0 hfuel fun node hnode => by
        have hdepth := hallowed.depth node hnode
        show node.1 < 0+(24+1)
        omega
    have hsome : unfold G (maxTaskInputDepth+1) value ≠ none := ht ▸ Option.some_ne_none t
    have hmatch := occurrences_match 0 ht
    refine ⟨⟨List.forall_mem_singleton.mpr hsome,?_⟩,(encoded_iff ht).mpr ⟨hplain.printable _ hsome,hallowed.encoded⟩⟩
    rw [hone]
    refine ⟨hmatch.length_eq ▸ hallowed.items,?_,?_⟩
    · intro s hs
      obtain ⟨node,hmem,hnode⟩ := forall₂_partner hmatch _ hs
      exact hallowed.strings node hmem s ((hnode.2 s).mp rfl)
    · rw [List.append_nil]
      exact hplain.unshared _ hsome

theorem unfold_mono (h : unfold G fuel value = some t) (hle : fuel ≤ fuel') : unfold G fuel' value = some t := by
  apply unfold_of_depth 0 h
  intro node hnode
  obtain ⟨item,_,hitem⟩ := forall₂_partner (occurrences_match 0 h).flip node hnode
  exact hitem.1.trans_le (Nat.add_le_add_left hle 0)

theorem unfolds_unique {t' : Json.Document} (h : Unfolds G value t) (h' : Unfolds G value t') : t = t' := by
  obtain ⟨fuel,hfuel⟩ := h
  obtain ⟨fuel',hfuel'⟩ := h'
  rcases Nat.le_total fuel fuel' with hle | hle
  · exact Option.some.inj ((unfold_mono hfuel hle).symm.trans hfuel')
  · exact Option.some.inj (hfuel.symm.trans (unfold_mono hfuel' hle))

/-- A value gets the verdict that its unfolding should get just when it is not out of bounds for sharing or an
integer alone. Two values of one unfolding get one verdict just when these are the same in both. -/
theorem input_bounds_iff {m : ℕ} (G : Graph n) (value : Item n) (H : Graph m) (other : Item m) :
    ((Accepts G value ↔ ∃ t, Unfolds G value t ∧ Allowed t) ↔
      ((∃ t, Unfolds G value t ∧ Allowed t) → Plain G value)) ∧
    ((∀ t, Unfolds G value t → Unfolds H other t → (Accepts G value ↔ Accepts H other)) ↔
      ∀ t, Unfolds G value t → Unfolds H other t → Allowed t → (Plain G value ↔ Plain H other)) := by
  rw [accepts_iff,accepts_iff]
  refine ⟨⟨fun h hallowed => (h.mpr hallowed).2,fun h => ⟨And.left,fun hallowed => ⟨hallowed,h hallowed⟩⟩⟩,?_,?_⟩
  · intro h t hvalue hother hallowed
    have hsame := h t hvalue hother
    exact ⟨fun hplain => (hsame.mp ⟨⟨t,hvalue,hallowed⟩,hplain⟩).2,
      fun hplain => (hsame.mpr ⟨⟨t,hother,hallowed⟩,hplain⟩).2⟩
  · intro h t hvalue hother
    constructor
    · rintro ⟨⟨t',ht',hallowed⟩,hplain⟩
      rw [unfolds_unique ht' hvalue] at hallowed
      exact ⟨⟨t,hother,hallowed⟩,(h t hvalue hother hallowed).mp hplain⟩
    · rintro ⟨⟨t',ht',hallowed⟩,hplain⟩
      rw [unfolds_unique ht' hother] at hallowed
      exact ⟨⟨t,hvalue,hallowed⟩,(h t hvalue hother hallowed).mpr hplain⟩

end

def twice : Graph 2 := fun i => if i.1 = 0 then .list [.ref (.last 1),.ref (.last 1)] else .list []

/-- The same in three lists. -/
def spread : Graph 3 := fun i => if i.1 = 0 then .list [.ref (.castSucc (.last 1)),.ref (.last 2)] else .list []

theorem shared_refused : ¬((Accepts twice (.ref 0) ↔ ∃ t, Unfolds twice (.ref 0) t ∧ Allowed t) ∧
    ∀ t, Unfolds twice (.ref 0) t → Unfolds spread (.ref 0) t → (Accepts twice (.ref 0) ↔ Accepts spread (.ref 0))) := by
  rintro ⟨h,_⟩
  have hrefused : walk twice maxTaskInputItems [] [(.ref 0,0)] = .error "task input contains a cycle" := rfl
  have hunfolds : Unfolds twice (.ref 0) (.array [.array [],.array []]) := ⟨2,rfl⟩
  have hallowed : Allowed (.array [.array [],.array []]) := by
    refine ⟨?_,?_,?_,?_⟩
    · simp [nodes,itemNodes]
    · simp [nodes,itemNodes]
    · simp [nodes,itemNodes]
    · decide
  have haccepts := h.mpr ⟨_,hunfolds,hallowed⟩
  unfold Accepts validateTaskInputBounds at haccepts
  rw [hrefused] at haccepts
  cases haccepts

end Arbora.McpTasks
