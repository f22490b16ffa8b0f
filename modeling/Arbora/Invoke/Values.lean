import Arbora.Lib.Json
import Mathlib.Data.Rat.Defs

/-! The Python values that parameters, claims and results are made of: the search for forbidden
keys, freezing, comparison and the digest of their JSON text. -/
namespace Arbora.Invoke

/-- A float, with the shortest text that reads back as it. -/
inductive PyFloat where
  | finite (repr : Json.Number) (value : ℚ)
  | inf (negative : Bool)
  | nan

inductive Scalar where
  | none
  | bool (b : Bool)
  | int (i : Int)
  | float (f : PyFloat)
  | str (s : String)

/-- Values that a set can hold. A mapping is none of them: `dict` has no hash, nor has a proxy of it. -/
inductive Hashable where
  | scalar (s : Scalar)
  | tuple (items : List Hashable)
  | frozenset (items : List Hashable)

inductive Key where
  | str (s : String)
  | other (text : String)
  deriving DecidableEq

def Key.text : Key → String
  | .str s => s
  | .other text => text

inductive Value where
  | scalar (s : Scalar)
  | mapping (entries : List (Key × Value))
  | list (items : List Value)
  | tuple (items : List Value)
  | set (items : List Hashable)
  | frozenset (items : List Hashable)
  /-- An object of any other class. -/
  | object

namespace Value

def str (s : String) : Value := .scalar (.str s)
def null : Value := .scalar .none
def bool (b : Bool) : Value := .scalar (.bool b)

def dict (entries : List (String × Value)) : Value := .mapping (entries.map fun e => (.str e.1,e.2))

def isMapping : Value → Bool
  | .mapping _ => true
  | _ => false

def get (key : String) : Value → Option Value
  | .mapping entries => (entries.find? fun e => e.1 = .str key).map Prod.snd
  | _ => none

def truthy : Value → Bool
  | .scalar .none => false
  | .scalar (.bool b) => b
  | .scalar (.int i) => i ≠ 0
  | .scalar (.float (.finite _ q)) => q ≠ 0
  | .scalar (.float _) => true
  | .scalar (.str s) => s ≠ ""
  | .mapping entries => !entries.isEmpty
  | .list items => !items.isEmpty
  | .tuple items => !items.isEmpty
  | .set items => !items.isEmpty
  | .frozenset items => !items.isEmpty
  | .object => true

inductive Within (v : Value) : Value → Prop where
  | here : Within v v
  | entry {entries : List (Key × Value)} {key : Key} {child : Value} (h : (key,child) ∈ entries)
      (hv : Within v child) : Within v (.mapping entries)
  | item {items : List Value} {child : Value} (h : child ∈ items) (hv : Within v child) : Within v (.list items)
  | part {items : List Value} {child : Value} (h : child ∈ items) (hv : Within v child) : Within v (.tuple items)

end Value

section

mutual

/-- The path of the first key among `names`, searched in depth. -/
def forbiddenPath (names : List String) : String → Value → Option String
  | path, .mapping entries => forbiddenEntry names path entries
  | path, .list items => forbiddenItem names path 0 items
  | path, .tuple items => forbiddenItem names path 0 items
  | _, _ => none

def forbiddenEntry (names : List String) : String → List (Key × Value) → Option String
  | _, [] => none
  | path, (key,child) :: rest =>
    let inner := if path = "" then key.text else path ++ "." ++ key.text
    if names.any fun name => key = .str name then some inner
    else match forbiddenPath names inner child with
      | some nested => some nested
      | none => forbiddenEntry names path rest

def forbiddenItem (names : List String) : String → Nat → List Value → Option String
  | _, _, [] => none
  | path, index, child :: rest =>
    match forbiddenPath names (path ++ "[" ++ toString index ++ "]") child with
    | some nested => some nested
    | none => forbiddenItem names path (index + 1) rest

end

variable {names : List String}

variable {key : Key} {path : String} {child : Value} {entries : List (Key × Value)}

private theorem forbiddenEntry_none (h : forbiddenEntry names path entries = none) (hmem : (key,child) ∈ entries) :
    (∀ name ∈ names, key ≠ .str name) ∧ ∃ inner, forbiddenPath names inner child = none := by
  induction entries with
  | nil => cases hmem
  | cons e rest ih =>
    obtain ⟨k,c⟩ := e
    rw [forbiddenEntry] at h
    by_cases hkey : names.any (fun name => k = .str name) = true
    · rw [if_pos hkey] at h
      cases h
    · rw [if_neg hkey] at h
      split at h
      · cases h
      · rename_i hchild
        rcases List.mem_cons.mp hmem with heq | hrest
        · cases heq
          refine ⟨fun name hname hk => hkey ?_,_,hchild⟩
          exact List.any_eq_true.mpr ⟨name,hname,by simpa using hk⟩
        · exact ih h hrest

private theorem forbiddenItem_none {index : Nat} {items : List Value}
    (h : forbiddenItem names path index items = none) (hmem : child ∈ items) :
    ∃ inner, forbiddenPath names inner child = none := by
  induction items generalizing index with
  | nil => cases hmem
  | cons c rest ih =>
    rw [forbiddenItem] at h
    split at h
    · cases h
    · rename_i hchild
      rcases List.mem_cons.mp hmem with heq | hrest
      · exact ⟨_,heq ▸ hchild⟩
      · exact ih h hrest

theorem forbiddenPath_none {v : Value} (hw : Value.Within (.mapping entries) v)
    (h : forbiddenPath names path v = none) (hmem : (key,child) ∈ entries) : ∀ name ∈ names, key ≠ .str name := by
  induction hw generalizing path with
  | here => exact (forbiddenEntry_none h hmem).1
  | entry hin _ ih =>
    obtain ⟨inner,hinner⟩ := (forbiddenEntry_none h hin).2
    exact ih hinner
  | item hin _ ih =>
    obtain ⟨inner,hinner⟩ := forbiddenItem_none h hin
    exact ih hinner
  | part hin _ ih =>
    obtain ⟨inner,hinner⟩ := forbiddenItem_none h hin
    exact ih hinner

end

mutual

/-- An immutable copy, unless there is an object or a key that is no string in it. -/
def freezeClaims : Value → Option Value
  | .scalar s => some (.scalar s)
  | .mapping entries => (freezeEntries entries).map .mapping
  | .list items => (freezeItems items).map .tuple
  | .tuple items => (freezeItems items).map .tuple
  | .set items => some (.frozenset items)
  | .frozenset items => some (.frozenset items)
  | .object => none

def freezeEntries : List (Key × Value) → Option (List (Key × Value))
  | [] => some []
  | (.other _,_) :: _ => none
  | (.str key,child) :: rest => do
    let child ← freezeClaims child
    let rest ← freezeEntries rest
    return (.str key,child) :: rest

def freezeItems : List Value → Option (List Value)
  | [] => some []
  | child :: rest => do
    let child ← freezeClaims child
    let rest ← freezeItems rest
    return child :: rest

end

def intNumber (i : Int) : Json.Number where
  text := match i with
    | .ofNat n => Nat.toDigits 10 n
    | .negSucc n => '-' :: Nat.toDigits 10 (n + 1)
  nonempty := by
    cases i with
    | ofNat n => exact Nat.toDigits_ne_nil
    | negSucc n => exact List.cons_ne_nil _ _
  chars := by
    have hdigit : ∀ n, ∀ c ∈ Nat.toDigits 10 n, Json.numeric c = true := by
      intro n c hc
      simp [Json.numeric,Nat.isDigit_of_mem_toDigits (by decide) (by decide) hc]
    intro c hc
    cases i with
    | ofNat n => exact hdigit n c hc
    | negSucc n =>
      rcases List.mem_cons.mp hc with rfl | hrest
      · decide
      · exact hdigit _ c hrest

/-- What `json.dumps` makes of a scalar; infinities and nan are refused. -/
def Scalar.toJson : Scalar → Option Json.Document
  | .none => some .null
  | .bool b => some (.bool b)
  | .int i => some (.number (intNumber i))
  | .float (.finite repr _) => some (.number repr)
  | .float _ => Option.none
  | .str s => some (.string s)

mutual

def Hashable.toJson : Hashable → Option Json.Document
  | .scalar s => s.toJson
  | .tuple items => (hashablesToJson items).map .array
  | .frozenset items => (hashablesToJson items).map .array

def hashablesToJson : List Hashable → Option (List Json.Document)
  | [] => some []
  | item :: rest => do
    let item ← item.toJson
    let rest ← hashablesToJson rest
    return item :: rest

end

/-- `sort_keys=True` -/
def sortMembers (members : List (String × Json.Document)) : List (String × Json.Document) :=
  members.insertionSort fun a b => a.1 ≤ b.1

mutual

/-- `claim_values` and what `json.dumps` makes of it. -/
def Value.toJson : Value → Option Json.Document
  | .scalar s => s.toJson
  | .mapping entries => (entriesToJson entries).map fun members => .object (sortMembers members)
  | .list items => (valuesToJson items).map .array
  | .tuple items => (valuesToJson items).map .array
  | .set _ => none
  | .frozenset items => (hashablesToJson items).map .array
  | .object => none

def entriesToJson : List (Key × Value) → Option (List (String × Json.Document))
  | [] => some []
  | (.other _,_) :: _ => none
  | (.str key,child) :: rest => do
    let child ← child.toJson
    let rest ← entriesToJson rest
    return (key,child) :: rest

def valuesToJson : List Value → Option (List Json.Document)
  | [] => some []
  | child :: rest => do
    let child ← child.toJson
    let rest ← valuesToJson rest
    return child :: rest

end

def Scalar.number? : Scalar → Option ℚ
  | .bool b => some (if b then 1 else 0)
  | .int i => some i
  | .float (.finite _ q) => some q
  | _ => Option.none

/-- `==`: numbers by value, and `nan` not even with itself. -/
def Scalar.same (a b : Scalar) : Bool :=
  match a, b with
  | .none, .none => true
  | .str s, .str t => s = t
  | .float (.inf x), .float (.inf y) => x = y
  | a, b => match a.number?, b.number? with
    | some x, some y => x = y
    | _, _ => false

mutual

def Hashable.same : Hashable → Hashable → Bool
  | .scalar a, .scalar b => a.same b
  | .tuple items, .tuple items' => hashablesSame items items'
  | .frozenset items, .frozenset items' => items.length = items'.length && hashablesIncluded items items'
  | _, _ => false

def hashablesSame : List Hashable → List Hashable → Bool
  | [], [] => true
  | a :: rest, b :: rest' => a.same b && hashablesSame rest rest'
  | _, _ => false

def hashablesIncluded : List Hashable → List Hashable → Bool
  | [], _ => true
  | a :: rest, items' => items'.any (fun b => a.same b) && hashablesIncluded rest items'

end

mutual

def Value.same : Value → Value → Bool
  | .scalar a, .scalar b => a.same b
  | .mapping entries, .mapping entries' => entries.length = entries'.length && entriesIncluded entries entries'
  | .list items, .list items' => valuesSame items items'
  | .tuple items, .tuple items' => valuesSame items items'
  | .set items, .set items' => items.length = items'.length && hashablesIncluded items items'
  | .set items, .frozenset items' => items.length = items'.length && hashablesIncluded items items'
  | .frozenset items, .set items' => items.length = items'.length && hashablesIncluded items items'
  | .frozenset items, .frozenset items' => items.length = items'.length && hashablesIncluded items items'
  | _, _ => false

def entriesIncluded : List (Key × Value) → List (Key × Value) → Bool
  | [], _ => true
  | (key,child) :: rest, entries' =>
    (entries'.find? fun e => e.1 = key).any (fun e => child.same e.2) && entriesIncluded rest entries'

def valuesSame : List Value → List Value → Bool
  | [], [] => true
  | a :: rest, b :: rest' => a.same b && valuesSame rest rest'
  | _, _ => false

end
end Arbora.Invoke
