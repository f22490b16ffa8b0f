import Mathlib.Data.List.Sort
import Mathlib.Data.String.Basic

/-! JSON documents and their compact text with the members as they stand. -/
namespace Json

/-- Characters that numbers are written with. -/
def numeric (c : Char) : Bool := c.isDigit || c == '-' || c == '+' || c == '.' || c == 'e'

@[ext] structure Number where
  text : List Char
  nonempty : text ≠ []
  chars : ∀ c ∈ text, numeric c = true

inductive Document where
  | null
  | bool (b : Bool)
  | number (n : Number)
  | string (s : String)
  | array (items : List Document)
  | object (members : List (String × Document))

def hexDigit (n : Nat) : Char := "0123456789abcdef".toList.getD n '0'

/-- A character of a string; those above the controls stand for themselves. -/
def escape (c : Char) : List Char :=
  if c = '"' then ['\\','"']
  else if c = '\\' then ['\\','\\']
  else if c = '\x08' then ['\\','b']
  else if c = '\x0c' then ['\\','f']
  else if c = '\n' then ['\\','n']
  else if c = '\r' then ['\\','r']
  else if c = '\t' then ['\\','t']
  else if c.toNat < 32 then ['\\','u','0','0',hexDigit (c.toNat / 16),hexDigit (c.toNat % 16)]
  else [c]

def quoted (s : List Char) : List Char := '"' :: s.flatMap escape ++ ['"']

mutual

def write : Document → List Char
  | .null => "null".toList
  | .bool true => "true".toList
  | .bool false => "false".toList
  | .number n => n.text
  | .string s => quoted s.toList
  | .array items => '[' :: writeItems items
  | .object members => '{' :: writeMembers members

def writeItems : List Document → List Char
  | [] => [']']
  | item :: rest => write item ++ writeMoreItems rest

def writeMoreItems : List Document → List Char
  | [] => [']']
  | item :: rest => ',' :: write item ++ writeMoreItems rest

def writeMembers : List (String × Document) → List Char
  | [] => ['}']
  | (key,value) :: rest => quoted key.toList ++ ':' :: write value ++ writeMoreMembers rest

def writeMoreMembers : List (String × Document) → List Char
  | [] => ['}']
  | (key,value) :: rest => ',' :: quoted key.toList ++ ':' :: write value ++ writeMoreMembers rest

end

def natural (n : Nat) : Document := .number {
  text := Nat.toDigits 10 n
  nonempty := Nat.toDigits_ne_nil
  chars := by
    intro c hc
    simp [numeric,Nat.isDigit_of_mem_toDigits (by decide) (by decide) hc] }

def sorted (members : List (String × Document)) : Document :=
  .object (members.insertionSort fun a b => a.1 ≤ b.1)

mutual

def ordered : Document → Document
  | .array items => .array (orderedItems items)
  | .object members => sorted (orderedMembers members)
  | d => d

def orderedItems : List Document → List Document
  | [] => []
  | item :: rest => ordered item :: orderedItems rest

def orderedMembers : List (String × Document) → List (String × Document)
  | [] => []
  | (key,value) :: rest => (key,ordered value) :: orderedMembers rest

end

/-- `\u` and four digits. -/
def unicode (n : Nat) : List Char :=
  ['\\','u',hexDigit (n / 4096 % 16),hexDigit (n / 256 % 16),hexDigit (n / 16 % 16),hexDigit (n % 16)]

/-- A character of a text that is to have ASCII characters only; above the first plane it takes a pair. -/
def asciiEscape (c : Char) : List Char :=
  if c.toNat < 127 then [c]
  else if c.toNat < 65536 then unicode c.toNat
  else unicode (55296 + (c.toNat - 65536) / 1024) ++ unicode (56320 + (c.toNat - 65536) % 1024)

/-- The text of a document in ASCII. Outside of its strings there is nothing to escape, and in them the
backslashes that stand already are those of shorter escapes. -/
def writeAscii (d : Document) : List Char := (write d).flatMap asciiEscape

example : writeAscii (.string "é😀\n") = "\"\\u00e9\\ud83d\\ude00\\n\"".toList := by decide +kernel

def orNull {α : Type} (f : α → Document) : Option α → Document
  | none => .null
  | some a => f a

theorem natural_injective : Function.Injective natural := by
  intro m n h
  have htext : Nat.toDigits 10 m = Nat.toDigits 10 n := congrArg Number.text (Document.number.inj h)
  have hvalue := congrArg (fun text => Nat.ofDigitChars 10 text 0) htext
  rwa [Nat.ofDigitChars_ten_toDigits,Nat.ofDigitChars_ten_toDigits] at hvalue

theorem orNull_injective {α : Type} {f : α → Document} (hf : Function.Injective f) (hnull : ∀ a, f a ≠ .null) :
    Function.Injective (orNull f) := by
  intro a b h
  cases a with
  | none =>
    cases b with
    | none => rfl
    | some b => exact absurd h.symm (hnull b)
  | some a =>
    cases b with
    | none => exact absurd h (hnull a)
    | some b => rw [hf h]

variable {r : List Char} {l l' : List (String × Document)}

theorem perm_of_sorted_eq (h : sorted l = sorted l') : l.Perm l' :=
  (List.perm_insertionSort _ l).symm.trans ((List.Perm.of_eq (Document.object.inj h)).trans
    (List.perm_insertionSort _ l'))

theorem eq_of_perm (hkeys : l.map Prod.fst = l'.map Prod.fst)
    (hnodup : (l.map Prod.fst).Nodup) (h : l.Perm l') : l = l' := by
  induction l generalizing l' with
  | nil => exact h.nil_eq
  | cons m l ih =>
    cases l' with
    | nil => cases hkeys
    | cons m' l' =>
      rw [List.map_cons,List.map_cons,List.cons.injEq] at hkeys
      rw [List.map_cons,List.nodup_cons] at hnodup
      have hmem : m = m' ∨ m ∈ l' := List.mem_cons.mp (h.mem_iff.mp List.mem_cons_self)
      have hsame : m = m' := by
        rcases hmem with heq | hlater
        · exact heq
        · rw [hkeys.2] at hnodup
          exact absurd (List.mem_map_of_mem hlater) hnodup.1
      subst hsame
      rw [ih hkeys.2 hnodup.2 ((List.perm_cons m).mp h)]

theorem sorted_inj (h : sorted l = sorted l')
    (hkeys : l.map Prod.fst = l'.map Prod.fst) (hnodup : (l.map Prod.fst).Nodup) : l = l' :=
  eq_of_perm hkeys hnodup (perm_of_sorted_eq h)

def hexValue (c : Char) : Nat := "0123456789abcdef".toList.idxOf c

theorem hexValue_hexDigit : ∀ n < 16, hexValue (hexDigit n) = n := by decide

/-- The first character of a string's text, unless the string ends there. -/
def unescape : List Char → Option (Char × List Char)
  | [] => none
  | '"' :: _ => none
  | '\\' :: 'u' :: _ :: _ :: a :: b :: rest => some (Char.ofNat (16 * hexValue a + hexValue b),rest)
  | '\\' :: 'b' :: rest => some ('\x08',rest)
  | '\\' :: 'f' :: rest => some ('\x0c',rest)
  | '\\' :: 'n' :: rest => some ('\n',rest)
  | '\\' :: 'r' :: rest => some ('\r',rest)
  | '\\' :: 't' :: rest => some ('\t',rest)
  | '\\' :: c :: rest => some (c,rest)
  | c :: rest => some (c,rest)

theorem unescape_escape (c : Char) (rest : List Char) : unescape (escape c ++ rest) = some (c,rest) := by
  unfold escape
  split_ifs with h1 h2 h3 h4 h5 h6 h7 h8
  · rw [h1]; rfl
  · rw [h2]; rfl
  · rw [h3]; rfl
  · rw [h4]; rfl
  · rw [h5]; rfl
  · rw [h6]; rfl
  · rw [h7]; rfl
  · have hhigh := hexValue_hexDigit (c.toNat / 16) (by omega)
    have hlow := hexValue_hexDigit (c.toNat % 16) (by omega)
    have hsum : 16 * (c.toNat / 16) + c.toNat % 16 = c.toNat := by omega
    show some (Char.ofNat (16 * hexValue (hexDigit (c.toNat / 16)) + hexValue (hexDigit (c.toNat % 16))),rest) = _
    rw [hhigh,hlow,hsum,Char.ofNat_toNat]
  · rw [List.singleton_append,unescape.eq_def]
    split <;> simp_all

theorem quoted_append_inj {s s' : List Char} {r' : List Char} (h : quoted s ++ r = quoted s' ++ r') :
    s = s' ∧ r = r' := by
  have hbody : s.flatMap escape ++ '"' :: r = s'.flatMap escape ++ '"' :: r' := by
    simpa [quoted] using h
  clear h
  induction s generalizing s' with
  | nil =>
    cases s' with
    | nil => exact ⟨rfl,by simpa using hbody⟩
    | cons c s' =>
      have hnext := congrArg unescape hbody
      rw [List.flatMap_cons,List.append_assoc,unescape_escape] at hnext
      cases hnext
  | cons c s ih =>
    have hnext := congrArg unescape hbody
    rw [List.flatMap_cons,List.append_assoc,unescape_escape] at hnext
    cases s' with
    | nil => cases hnext
    | cons c' s' =>
      rw [List.flatMap_cons,List.append_assoc,unescape_escape] at hnext
      simp only [Option.some.injEq,Prod.mk.injEq] at hnext
      obtain ⟨hs,hr⟩ := ih hnext.2
      exact ⟨by rw [hnext.1,hs],hr⟩

/-- No number goes on at the start of the text. -/
def Stops (r : List Char) : Prop := ∀ c ∈ r.head?, numeric c = false

theorem number_append_inj {n n' : Number} {r' : List Char} (hr : Stops r) (hr' : Stops r')
    (h : n.text ++ r = n'.text ++ r') : n = n' ∧ r = r' := by
  have htake : ∀ (m : Number) (t : List Char), Stops t → (m.text ++ t).takeWhile numeric = m.text := by
    intro m t ht
    rw [List.takeWhile_append_of_pos m.chars]
    cases t with
    | nil => simp
    | cons c t =>
      rw [List.takeWhile_cons_of_neg (by simpa using ht c rfl),List.append_nil]
  have htext : n.text = n'.text := by
    rw [← htake n r hr,h,htake n' r' hr']
  refine ⟨Number.ext htext,?_⟩
  rw [htext] at h
  exact List.append_cancel_left h

/-- The kinds of document, as the first character of the text tells them. -/
def Document.kind : Document → Nat
  | .null => 0 | .bool true => 1 | .bool false => 2 | .number _ => 3 | .string _ => 4 | .array _ => 5
  | .object _ => 6

def kindOf (c : Char) : Nat :=
  if c = 'n' then 0 else if c = 't' then 1 else if c = 'f' then 2 else if c = '"' then 4 else if c = '[' then 5
  else if c = '{' then 6 else 3

private theorem kindOf_numeric {c : Char} (h : numeric c = true) : kindOf c = 3 := by
  unfold kindOf
  split_ifs with h1 h2 h3 h4 h5 h6
  · rw [h1] at h; exact absurd h (by decide)
  · rw [h2] at h; exact absurd h (by decide)
  · rw [h3] at h; exact absurd h (by decide)
  · rw [h4] at h; exact absurd h (by decide)
  · rw [h5] at h; exact absurd h (by decide)
  · rw [h6] at h; exact absurd h (by decide)
  · rfl

theorem write_first (d : Document) : ∃ c rest, write d = c :: rest ∧ kindOf c = d.kind := by
  cases d with
  | null => exact ⟨_,_,rfl,rfl⟩
  | bool b => cases b <;> exact ⟨_,_,rfl,rfl⟩
  | number n =>
    cases hn : n.text with
    | nil => exact absurd hn n.nonempty
    | cons c rest => exact ⟨c,rest,hn,kindOf_numeric (n.chars c (by simp [hn]))⟩
  | string s => exact ⟨_,_,rfl,rfl⟩
  | array items => exact ⟨_,_,rfl,rfl⟩
  | object members => exact ⟨_,_,rfl,rfl⟩

theorem kind_eq_of_append {d d' : Document} {r' : List Char} (h : write d ++ r = write d' ++ r') :
    d.kind = d'.kind := by
  obtain ⟨c,rest,hd,hc⟩ := write_first d
  obtain ⟨c',rest',hd',hc'⟩ := write_first d'
  rw [hd,hd',List.cons_append,List.cons_append,List.cons.injEq] at h
  rw [← hc,← hc',h.1]

private theorem stops_of_first {c : Char} (h : numeric c = false) : Stops (c :: r) := by
  intro x hx
  cases hx
  exact h

private theorem stops_moreItems (l : List Document) (r : List Char) : Stops (writeMoreItems l ++ r) := by
  cases l <;> exact stops_of_first (by decide)

private theorem stops_moreMembers (l : List (String × Document)) (r : List Char) :
    Stops (writeMoreMembers l ++ r) := by
  cases l with
  | nil => exact stops_of_first (by decide)
  | cons m l => exact stops_of_first (by decide)

private theorem write_ne_close (d : Document) (r r' : List Char) : write d ++ r ≠ ']' :: r' := by
  intro h
  obtain ⟨c,rest,hd,hc⟩ := write_first d
  rw [hd,List.cons_append,List.cons.injEq] at h
  rw [h.1] at hc
  cases d with
  | number n =>
    have hnum := n.chars ']' (by rw [show n.text = c :: rest from hd,h.1]; exact List.mem_cons_self)
    exact absurd hnum (by decide)
  | bool b => cases b <;> exact absurd hc (by decide)
  | _ => exact absurd hc (by simp [Document.kind,kindOf])

mutual

/-- A document's text in front of anything that does not go on like a number determines both. -/
theorem write_append_inj : ∀ (d d' : Document) {r r' : List Char}, Stops r → Stops r' →
    write d ++ r = write d' ++ r' → d = d' ∧ r = r'
  | .null, d', r, r', _, _, h => by
    have hk := kind_eq_of_append h
    cases d' with
    | null => exact ⟨rfl,List.append_cancel_left h⟩
    | bool b => cases b <;> cases hk
    | _ => cases hk
  | .bool b, d', r, r', _, _, h => by
    have hk := kind_eq_of_append h
    cases d' with
    | bool b' =>
      have hb : b = b' := by cases b <;> cases b' <;> first | rfl | cases hk
      rw [hb] at h
      exact ⟨by rw [hb],List.append_cancel_left h⟩
    | _ => cases b <;> cases hk
  | .number n, d', r, r', hr, hr', h => by
    have hk := kind_eq_of_append h
    cases d' with
    | number n' =>
      obtain ⟨hn,hrest⟩ := number_append_inj hr hr' h
      exact ⟨by rw [hn],hrest⟩
    | bool b => cases b <;> cases hk
    | _ => cases hk
  | .string s, d', r, r', _, _, h => by
    have hk := kind_eq_of_append h
    cases d' with
    | string s' =>
      obtain ⟨hs,hrest⟩ := quoted_append_inj h
      exact ⟨by rw [String.toList_inj.mp hs],hrest⟩
    | bool b => cases b <;> cases hk
    | _ => cases hk
  | .array items, d', r, r', _, _, h => by
    have hk := kind_eq_of_append h
    cases d' with
    | array items' =>
      obtain ⟨hi,hrest⟩ := writeItems_append_inj items items' (List.cons.inj h).2
      exact ⟨by rw [hi],hrest⟩
    | bool b => cases b <;> cases hk
    | _ => cases hk
  | .object members, d', r, r', _, _, h => by
    have hk := kind_eq_of_append h
    cases d' with
    | object members' =>
      obtain ⟨hm,hrest⟩ := writeMembers_append_inj members members' (List.cons.inj h).2
      exact ⟨by rw [hm],hrest⟩
    | bool b => cases b <;> cases hk
    | _ => cases hk

theorem writeItems_append_inj : ∀ (l l' : List Document) {r r' : List Char},
    writeItems l ++ r = writeItems l' ++ r' → l = l' ∧ r = r'
  | [], [], r, r', h => ⟨rfl,(List.cons.inj h).2⟩
  | [], d' :: l', r, r', h => by
    rw [writeItems,writeItems,List.append_assoc] at h
    exact absurd h.symm (write_ne_close d' _ _)
  | d :: l, [], r, r', h => by
    rw [writeItems,writeItems,List.append_assoc] at h
    exact absurd h (write_ne_close d _ _)
  | d :: l, d' :: l', r, r', h => by
    rw [writeItems,writeItems,List.append_assoc,List.append_assoc] at h
    obtain ⟨hd,hl⟩ := write_append_inj d d' (stops_moreItems l r) (stops_moreItems l' r') h
    obtain ⟨hrest,hr⟩ := writeMoreItems_append_inj l l' hl
    exact ⟨by rw [hd,hrest],hr⟩

theorem writeMoreItems_append_inj : ∀ (l l' : List Document) {r r' : List Char},
    writeMoreItems l ++ r = writeMoreItems l' ++ r' → l = l' ∧ r = r'
  | [], [], r, r', h => ⟨rfl,(List.cons.inj h).2⟩
  | [], d' :: l', r, r', h => absurd (List.cons.inj h).1 (by decide)
  | d :: l, [], r, r', h => absurd (List.cons.inj h).1 (by decide)
  | d :: l, d' :: l', r, r', h => by
    rw [writeMoreItems,writeMoreItems,List.cons_append,List.cons_append,List.cons_append,List.cons_append,
      List.append_assoc,List.append_assoc] at h
    obtain ⟨hd,hl⟩ := write_append_inj d d' (stops_moreItems l r) (stops_moreItems l' r') (List.cons.inj h).2
    obtain ⟨hrest,hr⟩ := writeMoreItems_append_inj l l' hl
    exact ⟨by rw [hd,hrest],hr⟩

theorem writeMembers_append_inj : ∀ (l l' : List (String × Document)) {r r' : List Char},
    writeMembers l ++ r = writeMembers l' ++ r' → l = l' ∧ r = r'
  | [], [], r, r', h => ⟨rfl,(List.cons.inj h).2⟩
  | [], (k',d') :: l', r, r', h => absurd (List.cons.inj h).1 (by decide)
  | (k,d) :: l, [], r, r', h => absurd (List.cons.inj h).1 (by decide)
  | (k,d) :: l, (k',d') :: l', r, r', h => by
    simp only [writeMembers,List.append_assoc,List.cons_append] at h
    obtain ⟨hk,hrest⟩ := quoted_append_inj h
    obtain ⟨hd,hl⟩ := write_append_inj d d' (stops_moreMembers l r) (stops_moreMembers l' r') (List.cons.inj hrest).2
    obtain ⟨hmore,hr⟩ := writeMoreMembers_append_inj l l' hl
    exact ⟨by rw [String.toList_inj.mp hk,hd,hmore],hr⟩

theorem writeMoreMembers_append_inj : ∀ (l l' : List (String × Document)) {r r' : List Char},
    writeMoreMembers l ++ r = writeMoreMembers l' ++ r' → l = l' ∧ r = r'
  | [], [], r, r', h => ⟨rfl,(List.cons.inj h).2⟩
  | [], (k',d') :: l', r, r', h => absurd (List.cons.inj h).1 (by decide)
  | (k,d) :: l, [], r, r', h => absurd (List.cons.inj h).1 (by decide)
  | (k,d) :: l, (k',d') :: l', r, r', h => by
    simp only [writeMoreMembers,List.append_assoc,List.cons_append] at h
    obtain ⟨hk,hrest⟩ := quoted_append_inj (List.cons.inj h).2
    obtain ⟨hd,hl⟩ := write_append_inj d d' (stops_moreMembers l r) (stops_moreMembers l' r') (List.cons.inj hrest).2
    obtain ⟨hmore,hr⟩ := writeMoreMembers_append_inj l l' hl
    exact ⟨by rw [String.toList_inj.mp hk,hd,hmore],hr⟩

end

theorem write_injective : Function.Injective write := by
  intro d d' h
  have hnil : Stops [] := by
    intro c hc
    cases hc
  exact (write_append_inj d d' hnil hnil (by rw [h])).1
end Json
