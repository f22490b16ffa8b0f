import Arbora.Lib.Json

/-! Documents as `dumps` writes them, spaced and in ASCII, and reading them back. -/
namespace Json

def quotedAscii (s : List Char) : List Char := '"' :: s.flatMap (fun c => (escape c).flatMap asciiEscape) ++ ['"']

mutual

def dumps : Document → List Char
  | .null => "null".toList
  | .bool true => "true".toList
  | .bool false => "false".toList
  | .number n => n.text
  | .string s => quotedAscii s.toList
  | .array items => '[' :: dumpItems items
  | .object members => '{' :: dumpMembers members

def dumpItems : List Document → List Char
  | [] => [']']
  | item :: rest => dumps item ++ dumpMoreItems rest

def dumpMoreItems : List Document → List Char
  | [] => [']']
  | item :: rest => ',' :: ' ' :: dumps item ++ dumpMoreItems rest

def dumpMembers : List (String × Document) → List Char
  | [] => ['}']
  | (key,value) :: rest => quotedAscii key.toList ++ ':' :: ' ' :: dumps value ++ dumpMoreMembers rest

def dumpMoreMembers : List (String × Document) → List Char
  | [] => ['}']
  | (key,value) :: rest =>
    ',' :: ' ' :: quotedAscii key.toList ++ ':' :: ' ' :: dumps value ++ dumpMoreMembers rest

end

example : dumps (.object [("a",.array [.null,.string "é"])]) = "\x7b\"a\": [null, \"\\u00e9\"]\x7d".toList := by
  decide +kernel

def blank (c : Char) : Bool := c = ' ' || c = '\n' || c = '\r' || c = '\t'
def skip (text : List Char) : List Char := text.dropWhile blank

def hexUnit : List Char → Option (ℕ × List Char)
  | a :: b :: c :: d :: rest =>
    let digits := [a,b,c,d].map fun digit => hexValue digit.toLower
    if digits.all (· < 16) then some (digits.foldl (fun n digit => 16*n+digit) 0,rest) else none
  | _ => none

/-- The second half of a pair. -/
def readLow (high : ℕ) : List Char → Option (Char × List Char)
  | '\\' :: 'u' :: more =>
    match hexUnit more with
    | none => none
    | some (m,rest) =>
      if 56320 ≤ m ∧ m < 57344 then some (Char.ofNat (65536+(high-55296)*1024+(m-56320)),rest) else none
  | _ => none

/-- What follows `\u`. Half of a pair is no character. -/
def readUnicode (text : List Char) : Option (Char × List Char) :=
  match hexUnit text with
  | none => none
  | some (n,rest) =>
    if n < 55296 ∨ 57344 ≤ n then some (Char.ofNat n,rest)
    else if 56320 ≤ n then none
    else readLow n rest

def short (c : Char) : Option Char :=
  if c = '"' ∨ c = '\\' ∨ c = '/' then some c
  else if c = 'b' then some '\x08'
  else if c = 'f' then some '\x0c'
  else if c = 'n' then some '\n'
  else if c = 'r' then some '\r'
  else if c = 't' then some '\t'
  else none

/-- One character of a string. -/
def readChar : List Char → Option (Char × List Char)
  | [] => none
  | c :: rest =>
    if c ≠ '\\' then if c.toNat < 32 then none else some (c,rest)
    else
      match rest with
      | [] => none
      | 'u' :: more => readUnicode more
      | d :: more => (short d).map fun e => (e,more)

/-- The rest of a string, up to its closing quote. -/
def readBody : ℕ → List Char → Option (List Char × List Char)
  | 0, _ => none
  | n+1, text =>
    match text with
    | '"' :: rest => some ([],rest)
    | text => (readChar text).bind fun r => (readBody n r.2).map fun s => (r.1 :: s.1,s.2)

def readString (text : List Char) : Option (String × List Char) :=
  (readBody text.length text).map fun s => (String.ofList s.1,s.2)

def readNumber (text : List Char) : Option (Document × List Char) :=
  let run := text.takeWhile numeric
  if h : run ≠ [] ∧ run.all numeric = true then
    some (.number ⟨run,h.1,List.all_eq_true.mp h.2⟩,text.dropWhile numeric)
  else none

def readWord (word : String) (d : Document) (text : List Char) : Option (Document × List Char) :=
  if word.toList.isPrefixOf text then some (d,text.drop word.toList.length) else none

mutual

def readValue : ℕ → List Char → Option (Document × List Char)
  | 0, _ => none
  | n+1, text =>
    match skip text with
    | '"' :: rest => (readString rest).map fun s => (.string s.1,s.2)
    | '[' :: rest => (readItems n rest).map fun r => (.array r.1,r.2)
    | '{' :: rest => (readMembers n rest).map fun r => (.object r.1,r.2)
    | 'n' :: rest => readWord "null" .null ('n' :: rest)
    | 't' :: rest => readWord "true" (.bool true) ('t' :: rest)
    | 'f' :: rest => readWord "false" (.bool false) ('f' :: rest)
    | rest => readNumber rest

def readItems : ℕ → List Char → Option (List Document × List Char)
  | 0, _ => none
  | n+1, text =>
    match skip text with
    | ']' :: rest => some ([],rest)
    | rest => (readValue n rest).bind fun d => (readMoreItems n d.2).map fun r => (d.1 :: r.1,r.2)

def readMoreItems : ℕ → List Char → Option (List Document × List Char)
  | 0, _ => none
  | n+1, text =>
    match skip text with
    | ']' :: rest => some ([],rest)
    | ',' :: rest => (readValue n rest).bind fun d => (readMoreItems n d.2).map fun r => (d.1 :: r.1,r.2)
    | _ => none

def readMembers : ℕ → List Char → Option (List (String × Document) × List Char)
  | 0, _ => none
  | n+1, text =>
    match skip text with
    | '}' :: rest => some ([],rest)
    | rest => (readMember n rest).bind fun m => (readMoreMembers n m.2).map fun r => (m.1 :: r.1,r.2)

def readMoreMembers : ℕ → List Char → Option (List (String × Document) × List Char)
  | 0, _ => none
  | n+1, text =>
    match skip text with
    | '}' :: rest => some ([],rest)
    | ',' :: rest => (readMember n (skip rest)).bind fun m =>
      (readMoreMembers n m.2).map fun r => (m.1 :: r.1,r.2)
    | _ => none

def readMember : ℕ → List Char → Option ((String × Document) × List Char)
  | 0, _ => none
  | n+1, text =>
    match text with
    | '"' :: rest => (readString rest).bind fun key =>
      match skip key.2 with
      | ':' :: rest => (readValue n rest).map fun d => ((key.1,d.1),d.2)
      | _ => none
    | _ => none

end

/-- Nothing may follow the document. -/
def loads (text : List Char) : Option Document :=
  match readValue (3*text.length) text with
  | none => none
  | some (d,rest) => if skip rest = [] then some d else none

example : (loads "\x7b\"a\": [null, \"\\u00e9\"]\x7d".toList).map dumps = some "\x7b\"a\": [null, \"\\u00e9\"]\x7d".toList := by
  decide +kernel

theorem hexValue_toLower : ∀ n < 16, hexValue (hexDigit n).toLower = n := by decide
theorem hexDigit_ascii : ∀ n < 16, asciiEscape (hexDigit n) = [hexDigit n] := by decide

theorem hexUnit_digits {a b c d : ℕ} (ha : a < 16) (hb : b < 16) (hc : c < 16) (hd : d < 16) (rest : List Char) :
    hexUnit (hexDigit a :: hexDigit b :: hexDigit c :: hexDigit d :: rest) = some (((a*16+b)*16+c)*16+d,rest) := by
  unfold hexUnit
  simp only [List.map_cons,List.map_nil,hexValue_toLower a ha,hexValue_toLower b hb,hexValue_toLower c hc,
    hexValue_toLower d hd]
  simp [ha,hb,hc,hd,Nat.mul_comm]

theorem hexUnit_unicode {n : ℕ} (h : n < 65536) (rest : List Char) :
    ∃ text, unicode n ++ rest = '\\' :: 'u' :: text ∧ hexUnit text = some (n,rest) := by
  refine ⟨_,rfl,?_⟩
  have hdigits := hexUnit_digits (Nat.mod_lt (n/4096) (by decide)) (Nat.mod_lt (n/256) (by decide))
    (Nat.mod_lt (n/16) (by decide)) (Nat.mod_lt n (by decide : 16 > 0)) rest
  have hsum : ((n/4096%16*16+n/256%16)*16+n/16%16)*16+n%16 = n := by omega
  rw [hsum] at hdigits
  exact hdigits

theorem readChar_unicode {n : ℕ} (h : n < 55296 ∨ 57344 ≤ n ∧ n < 65536) (rest : List Char) :
    readChar (unicode n ++ rest) = some (Char.ofNat n,rest) := by
  obtain ⟨text,htext,hunit⟩ := hexUnit_unicode (by omega : n < 65536) rest
  have hsingle : n < 55296 ∨ 57344 ≤ n := by omega
  rw [htext]
  change readUnicode text = _
  unfold readUnicode
  rw [hunit]
  exact if_pos hsingle

theorem readChar_pair {n : ℕ} (h : 65536 ≤ n) (hmax : n < 1114112) (rest : List Char) :
    readChar (unicode (55296+(n-65536)/1024) ++ unicode (56320+(n-65536)%1024) ++ rest) = some (Char.ofNat n,rest) := by
  obtain ⟨low,hlow,hlowUnit⟩ := hexUnit_unicode (by omega : 56320+(n-65536)%1024 < 65536) rest
  obtain ⟨high,hhigh,hhighUnit⟩ := hexUnit_unicode (by omega : 55296+(n-65536)/1024 < 65536)
    (unicode (56320+(n-65536)%1024) ++ rest)
  rw [List.append_assoc,hhigh]
  change readUnicode high = _
  unfold readUnicode
  rw [hhighUnit,hlow]
  dsimp only
  rw [if_neg (by omega),if_neg (by omega)]
  rw [readLow,hlowUnit]
  dsimp only
  rw [if_pos (by omega)]
  have hsum : 65536+(55296+(n-65536)/1024-55296)*1024+(56320+(n-65536)%1024-56320) = n := by omega
  rw [hsum]

variable {c : Char} {rest : List Char}

theorem readChar_ascii (hbackslash : c ≠ '\\') (hcontrol : ¬c.toNat < 32) (rest : List Char) :
    readChar (asciiEscape c ++ rest) = some (c,rest) := by
  have hvalid : c.toNat < 55296 ∨ 57343 < c.toNat ∧ c.toNat < 1114112 := c.valid
  unfold asciiEscape
  split_ifs with hascii hplane
  · change (if c ≠ '\\' then if c.toNat < 32 then none else some (c,rest) else _) = _
    rw [if_pos hbackslash,if_neg hcontrol]
  · rw [readChar_unicode (by omega),Char.ofNat_toNat]
  · rw [readChar_pair (by omega) (by omega),Char.ofNat_toNat]

theorem readChar_escape (c : Char) (rest : List Char) :
    readChar ((escape c).flatMap asciiEscape ++ rest) = some (c,rest) := by
  unfold escape
  split_ifs with h1 h2 h3 h4 h5 h6 h7 h8
  · rw [h1]; rfl
  · rw [h2]; rfl
  · rw [h3]; rfl
  · rw [h4]; rfl
  · rw [h5]; rfl
  · rw [h6]; rfl
  · rw [h7]; rfl
  · have hhigh : c.toNat/16 < 16 := by omega
    have hlow : c.toNat%16 < 16 := by omega
    have hunit := hexUnit_digits (by decide : 0 < 16) (by decide : 0 < 16) hhigh hlow rest
    have hsum : ((0*16+0)*16+c.toNat/16)*16+c.toNat%16 = c.toNat := by omega
    rw [hsum] at hunit
    simp only [List.flatMap_cons,List.flatMap_nil,hexDigit_ascii _ hhigh,hexDigit_ascii _ hlow]
    change readUnicode ('0' :: '0' :: hexDigit (c.toNat/16) :: hexDigit (c.toNat%16) :: rest) = _
    unfold readUnicode
    rw [show hexUnit ('0' :: '0' :: hexDigit (c.toNat/16) :: hexDigit (c.toNat%16) :: rest) = some (c.toNat,rest)
      from hunit]
    dsimp only
    rw [if_pos (by omega),Char.ofNat_toNat]
  · rw [List.flatMap_cons,List.flatMap_nil,List.append_nil]
    exact readChar_ascii h2 h8 rest

/-- What stands for a character is not a closing quote. -/
theorem escape_first (c : Char) : ∃ d rest, (escape c).flatMap asciiEscape = d :: rest ∧ d ≠ '"' := by
  have hbackslash : ∀ text, ∃ d rest, ('\\' :: text).flatMap asciiEscape = d :: rest ∧ d ≠ '"' := by
    intro text
    exact ⟨'\\',_,rfl,by decide⟩
  unfold escape
  split_ifs with h1
  · exact hbackslash _
  · exact hbackslash _
  · exact hbackslash _
  · exact hbackslash _
  · exact hbackslash _
  · exact hbackslash _
  · exact hbackslash _
  · exact hbackslash _
  · rw [List.flatMap_cons,List.flatMap_nil,List.append_nil]
    unfold asciiEscape
    split_ifs
    · exact ⟨c,[],rfl,h1⟩
    · exact ⟨'\\',_,rfl,by decide⟩
    · exact ⟨'\\',_,rfl,by decide⟩

theorem readBody_escaped (s : List Char) {n : ℕ} (hn : s.length < n) (rest : List Char) :
    readBody n (s.flatMap (fun c => (escape c).flatMap asciiEscape) ++ '"' :: rest) = some (s,rest) := by
  induction s generalizing n with
  | nil =>
    cases n with
    | zero => cases hn
    | succ n => rfl
  | cons c s ih =>
    cases n with
    | zero => cases hn
    | succ n =>
      have hrest := ih (Nat.lt_of_succ_lt_succ hn)
      have hread := readChar_escape c (s.flatMap (fun c => (escape c).flatMap asciiEscape) ++ '"' :: rest)
      rw [List.flatMap_cons,List.append_assoc]
      obtain ⟨d,more,htext,hquote⟩ := escape_first c
      rw [htext,List.cons_append] at hread ⊢
      rw [readBody]
      · rw [hread,Option.bind_some,hrest]
        rfl
      · exact fun text heq => hquote (List.cons.inj heq).1

theorem length_escaped (s : List Char) : s.length ≤ (s.flatMap fun c => (escape c).flatMap asciiEscape).length := by
  induction s with
  | nil => exact Nat.le_refl _
  | cons c s ih =>
    obtain ⟨d,more,htext,-⟩ := escape_first c
    rw [List.flatMap_cons,htext]
    simp only [List.length_append,List.length_cons]
    omega

theorem readString_quoted (s : String) (rest : List Char) :
    ∃ text, quotedAscii s.toList ++ rest = '"' :: text ∧ readString text = some (s,rest) := by
  refine ⟨s.toList.flatMap (fun c => (escape c).flatMap asciiEscape) ++ '"' :: rest,?_,?_⟩
  · simp [quotedAscii]
  · unfold readString
    rw [readBody_escaped s.toList _ rest]
    · rw [Option.map_some,String.ofList_toList]
    · have hlength := length_escaped s.toList
      rw [List.length_append,List.length_cons]
      omega

theorem readNumber_text (n : Number) (h : Stops rest) : readNumber (n.text ++ rest) = some (.number n,rest) := by
  have hrest : rest.takeWhile numeric = [] ∧ rest.dropWhile numeric = rest := by
    cases rest with
    | nil => exact ⟨rfl,rfl⟩
    | cons c rest =>
      have hc : ¬numeric c = true := by simpa using h c rfl
      exact ⟨List.takeWhile_cons_of_neg hc,List.dropWhile_cons_of_neg hc⟩
  have htake : (n.text ++ rest).takeWhile numeric = n.text := by
    rw [List.takeWhile_append_of_pos n.chars,hrest.1,List.append_nil]
  have hdrop : (n.text ++ rest).dropWhile numeric = rest := by
    rw [List.dropWhile_append_of_pos n.chars,hrest.2]
  unfold readNumber
  dsimp only
  rw [hdrop]
  split_ifs with hrun
  · exact congrArg (fun number => some (Document.number number,rest)) (Number.ext htake)
  · rw [htake] at hrun
    exact absurd ⟨n.nonempty,List.all_eq_true.mpr n.chars⟩ hrun

theorem skip_of_not_blank (h : blank c = false) : skip (c :: rest) = c :: rest :=
  List.dropWhile_cons_of_neg (by rw [h]; exact Bool.false_ne_true)

theorem not_blank_numeric (h : numeric c = true) : blank c = false := by
  by_contra hblank
  rw [Bool.not_eq_false] at hblank
  have hc : c = ' ' ∨ c = '\n' ∨ c = '\r' ∨ c = '\t' := by simpa [blank,or_assoc] using hblank
  rcases hc with rfl | rfl | rfl | rfl
  · exact absurd h (by decide)
  · exact absurd h (by decide)
  · exact absurd h (by decide)
  · exact absurd h (by decide)

theorem dumps_first (d : Document) : ∃ c rest, dumps d = c :: rest ∧ blank c = false ∧ c ≠ ']' := by
  cases d with
  | null => exact ⟨'n',_,rfl,by decide,by decide⟩
  | bool b =>
    cases b with
    | true => exact ⟨'t',_,rfl,by decide,by decide⟩
    | false => exact ⟨'f',_,rfl,by decide,by decide⟩
  | number n =>
    cases hn : n.text with
    | nil => exact absurd hn n.nonempty
    | cons c rest =>
      have hc : numeric c = true := n.chars c (by rw [hn]; exact List.mem_cons_self)
      refine ⟨c,rest,hn,not_blank_numeric hc,?_⟩
      rintro rfl
      exact absurd hc (by decide)
  | string s => exact ⟨'"',_,rfl,by decide,by decide⟩
  | array items => exact ⟨'[',_,rfl,by decide,by decide⟩
  | object members => exact ⟨'{',_,rfl,by decide,by decide⟩

theorem skip_dumps (d : Document) (rest : List Char) : skip (dumps d ++ rest) = dumps d ++ rest := by
  obtain ⟨c,more,hd,hblank,-⟩ := dumps_first d
  rw [hd,List.cons_append,skip_of_not_blank hblank]

section
variable (n : ℕ) (text : List Char)

theorem readValue_blank : readValue n (' ' :: text) = readValue n text := by
  cases n with
  | zero => rfl
  | succ n => rfl

theorem readValue_quote : readValue (n+1) ('"' :: text) = (readString text).map fun s => (.string s.1,s.2) := rfl
theorem readValue_bracket : readValue (n+1) ('[' :: text) = (readItems n text).map fun r => (.array r.1,r.2) := rfl
theorem readValue_brace : readValue (n+1) ('{' :: text) = (readMembers n text).map fun r => (.object r.1,r.2) := rfl
theorem readMoreItems_comma : readMoreItems (n+1) (',' :: text) =
    (readValue n text).bind fun d => (readMoreItems n d.2).map fun r => (d.1 :: r.1,r.2) := rfl
theorem readMembers_quote : readMembers (n+1) ('"' :: text) =
    (readMember n ('"' :: text)).bind fun m => (readMoreMembers n m.2).map fun r => (m.1 :: r.1,r.2) := rfl
theorem readMoreMembers_comma : readMoreMembers (n+1) (',' :: ' ' :: '"' :: text) =
    (readMember n ('"' :: text)).bind fun m => (readMoreMembers n m.2).map fun r => (m.1 :: r.1,r.2) := rfl

end

theorem readMember_dumps {n : ℕ} {d : Document} (k : String)
    (hvalue : readValue n (dumps d ++ rest) = some (d,rest)) :
    ∃ text, quotedAscii k.toList ++ ':' :: ' ' :: dumps d ++ rest = '"' :: text ∧
      readMember (n+1) ('"' :: text) = some ((k,d),rest) := by
  obtain ⟨text,htext,hread⟩ := readString_quoted k (':' :: ' ' :: dumps d ++ rest)
  refine ⟨text,?_,?_⟩
  · rw [List.append_assoc]
    exact htext
  · have hmember : readMember (n+1) ('"' :: text) = (readString text).bind fun key =>
        match skip key.2 with
        | ':' :: rest => (readValue n rest).map fun d => ((key.1,d.1),d.2)
        | _ => none := rfl
    rw [hmember,hread,Option.bind_some]
    change (readValue n (' ' :: (dumps d ++ rest))).map _ = _
    rw [readValue_blank,hvalue]
    rfl

theorem readValue_number {m : ℕ} (n : Number) (h : Stops rest) :
    readValue (m+1) (n.text ++ rest) = some (.number n,rest) := by
  have hread := readNumber_text n h
  cases hn : n.text with
  | nil => exact absurd hn n.nonempty
  | cons c more =>
    have hc : numeric c = true := n.chars c (by rw [hn]; exact List.mem_cons_self)
    rw [hn,List.cons_append] at hread
    rw [readValue,List.cons_append,skip_of_not_blank (not_blank_numeric hc)]
    split
    all_goals first
      | exact hread
      | rename_i heq
        obtain rfl := (List.cons.inj heq).1
        exact absurd hc (by decide)

private theorem stops_cons (h : numeric c = false) : Stops (c :: rest) := by
  intro x hx
  cases hx
  exact h

private theorem stops_dumpMoreItems (l : List Document) (rest : List Char) : Stops (dumpMoreItems l ++ rest) := by
  cases l with
  | nil => exact stops_cons (by decide)
  | cons d l => exact stops_cons (by decide)

private theorem stops_dumpMoreMembers (l : List (String × Document)) (rest : List Char) :
    Stops (dumpMoreMembers l ++ rest) := by
  cases l with
  | nil => exact stops_cons (by decide)
  | cons m l => exact stops_cons (by decide)

mutual

theorem readValue_dumps : ∀ (d : Document) {n : ℕ} {rest : List Char}, Stops rest → 3*(dumps d).length ≤ n →
    readValue n (dumps d ++ rest) = some (d,rest)
  | d, 0, rest, _, hn => by
    obtain ⟨c,more,hd,-⟩ := dumps_first d
    rw [hd,List.length_cons] at hn
    omega
  | .null, n+1, rest, _, _ => rfl
  | .bool true, n+1, rest, _, _ => rfl
  | .bool false, n+1, rest, _, _ => rfl
  | .number number, n+1, rest, hrest, _ => readValue_number number hrest
  | .string s, n+1, rest, _, _ => by
    obtain ⟨text,htext,hread⟩ := readString_quoted s rest
    rw [dumps,htext,readValue_quote,hread,Option.map_some]
  | .array items, n+1, rest, _, hn => by
    rw [dumps,List.length_cons] at hn
    rw [dumps,List.cons_append,readValue_bracket,readItems_dumps items (by omega),Option.map_some]
  | .object members, n+1, rest, _, hn => by
    rw [dumps,List.length_cons] at hn
    rw [dumps,List.cons_append,readValue_brace,readMembers_dumps members (by omega),Option.map_some]

theorem readItems_dumps : ∀ (l : List Document) {n : ℕ} {rest : List Char}, 3*(dumpItems l).length+1 ≤ n →
    readItems n (dumpItems l ++ rest) = some (l,rest)
  | _, 0, _, hn => by omega
  | [], n+1, rest, _ => rfl
  | d :: l, n+1, rest, hn => by
    rw [dumpItems,List.length_append] at hn
    obtain ⟨c,more,hd,-,hclose⟩ := dumps_first d
    have hvalue := readValue_dumps d (stops_dumpMoreItems l rest) (by omega : _ ≤ n)
    rw [readItems,dumpItems,List.append_assoc,skip_dumps]
    rw [hd,List.cons_append] at hvalue ⊢
    split
    · rename_i heq
      exact absurd (List.cons.inj heq).1 hclose
    · rw [hvalue,Option.bind_some,readMoreItems_dumps l (by omega)]
      rfl

theorem readMoreItems_dumps : ∀ (l : List Document) {n : ℕ} {rest : List Char}, 3*(dumpMoreItems l).length ≤ n →
    readMoreItems n (dumpMoreItems l ++ rest) = some (l,rest)
  | l, 0, _, hn => by
    cases l with
    | nil => cases hn
    | cons d l =>
      rw [dumpMoreItems] at hn
      simp at hn
  | [], n+1, rest, _ => rfl
  | d :: l, n+1, rest, hn => by
    simp only [dumpMoreItems,List.length_append,List.length_cons] at hn
    have hvalue := readValue_dumps d (stops_dumpMoreItems l rest) (by omega : _ ≤ n)
    have htext : dumpMoreItems (d :: l) ++ rest = ',' :: ' ' :: (dumps d ++ (dumpMoreItems l ++ rest)) := by
      simp [dumpMoreItems]
    rw [htext,readMoreItems_comma,readValue_blank,hvalue,Option.bind_some,readMoreItems_dumps l (by omega),
      Option.map_some]

theorem readMembers_dumps : ∀ (l : List (String × Document)) {n : ℕ} {rest : List Char},
    3*(dumpMembers l).length+1 ≤ n → readMembers n (dumpMembers l ++ rest) = some (l,rest)
  | _, 0, _, hn => by omega
  | [], n+1, rest, _ => rfl
  | (k,d) :: l, n+1, rest, hn => by
    simp only [dumpMembers,List.length_append,List.length_cons] at hn
    cases n with
    | zero => omega
    | succ n =>
      have hvalue := readValue_dumps d (stops_dumpMoreMembers l rest) (by omega : _ ≤ n)
      obtain ⟨text,htext,hmember⟩ := readMember_dumps k hvalue
      rw [dumpMembers,List.append_assoc,htext,readMembers_quote,hmember,Option.bind_some,
        readMoreMembers_dumps l (by omega),Option.map_some]

theorem readMoreMembers_dumps : ∀ (l : List (String × Document)) {n : ℕ} {rest : List Char},
    3*(dumpMoreMembers l).length ≤ n → readMoreMembers n (dumpMoreMembers l ++ rest) = some (l,rest)
  | l, 0, _, hn => by
    cases l with
    | nil => cases hn
    | cons m l =>
      rw [dumpMoreMembers] at hn
      simp at hn
  | [], n+1, rest, _ => rfl
  | (k,d) :: l, n+1, rest, hn => by
    simp only [dumpMoreMembers,List.length_append,List.length_cons] at hn
    cases n with
    | zero => omega
    | succ n =>
      have hvalue := readValue_dumps d (stops_dumpMoreMembers l rest) (by omega : _ ≤ n)
      obtain ⟨text,htext,hmember⟩ := readMember_dumps k hvalue
      have hmore : dumpMoreMembers ((k,d) :: l) ++ rest = ',' :: ' ' :: '"' :: text := by
        rw [← htext]
        simp [dumpMoreMembers]
      rw [hmore,readMoreMembers_comma,hmember,Option.bind_some,readMoreMembers_dumps l (by omega),Option.map_some]

end

theorem loads_dumps (d : Document) : loads (dumps d) = some d := by
  have hnil : Stops [] := by
    intro c hc
    cases hc
  have hread := readValue_dumps d hnil (Nat.le_refl _)
  rw [List.append_nil] at hread
  unfold loads
  rw [hread]
  rfl

end Json

/-! The compact ASCII text of a document determines it. -/
namespace Json

/-- What a text is spelled of: bare quotes, and characters as they stand in strings. -/
def piece : Option Char → List Char
  | none => ['"']
  | some c => escape c

def spell (pieces : List (Option Char)) : List Char := pieces.flatMap piece
def spellAscii (pieces : List (Option Char)) : List Char := (spell pieces).flatMap asciiEscape

theorem spellAscii_quote (pieces : List (Option Char)) : spellAscii (none :: pieces) = '"' :: spellAscii pieces := by
  have hquote : asciiEscape '"' = ['"'] := by decide
  simp [spellAscii,spell,piece,hquote]

theorem spellAscii_char (c : Char) (pieces : List (Option Char)) :
    spellAscii (some c :: pieces) = (escape c).flatMap asciiEscape ++ spellAscii pieces := by
  simp [spellAscii,spell,piece]

theorem spellAscii_injective : Function.Injective spellAscii := by
  intro p
  induction p with
  | nil =>
    intro p' h
    cases p' with
    | nil => rfl
    | cons x p' =>
      cases x with
      | none =>
        cases h
      | some c =>
        obtain ⟨d,rest,hfirst,-⟩ := escape_first c
        rw [spellAscii_char,hfirst] at h
        cases h
  | cons x p ih =>
    intro p' h
    cases p' with
    | nil =>
      cases x with
      | none =>
        cases h
      | some c =>
        obtain ⟨d,rest,hfirst,-⟩ := escape_first c
        rw [spellAscii_char,hfirst] at h
        cases h
    | cons y p' =>
      cases x with
      | none =>
        cases y with
        | none =>
          rw [ih (List.cons.inj h).2]
        | some c =>
          obtain ⟨d,rest,hfirst,hquote⟩ := escape_first c
          rw [spellAscii_quote,spellAscii_char,hfirst] at h
          exact absurd (List.cons.inj h).1.symm hquote
      | some c =>
        cases y with
        | none =>
          obtain ⟨d,rest,hfirst,hquote⟩ := escape_first c
          rw [spellAscii_quote,spellAscii_char,hfirst] at h
          exact absurd (List.cons.inj h).1 hquote
        | some c' =>
          have hread := congrArg readChar h
          rw [spellAscii_char,spellAscii_char,readChar_escape,readChar_escape,Option.some.injEq,
            Prod.mk.injEq] at hread
          rw [hread.1,ih hread.2]

def Spelled (text : List Char) : Prop := ∃ pieces, spell pieces = text

theorem Spelled.append {s t : List Char} (hs : Spelled s) (ht : Spelled t) : Spelled (s ++ t) := by
  obtain ⟨p,rfl⟩ := hs
  obtain ⟨q,rfl⟩ := ht
  exact ⟨p ++ q,List.flatMap_append⟩

theorem spelled_escape (c : Char) : Spelled (escape c) := ⟨[some c],by simp [spell,piece]⟩
theorem spelled_quote : Spelled ['"'] := ⟨[none],by simp [spell,piece]⟩

theorem spelled_plain {text : List Char} (h : ∀ c ∈ text, escape c = [c]) : Spelled text := by
  induction text with
  | nil => exact ⟨[],rfl⟩
  | cons c text ih =>
    have hfirst := spelled_escape c
    rw [h c List.mem_cons_self] at hfirst
    exact hfirst.append (ih fun d hd => h d (List.mem_cons_of_mem c hd))

theorem spelled_literal {text : List Char} (h : text.all (fun c => decide (escape c = [c])) = true) : Spelled text :=
  spelled_plain fun c hc => of_decide_eq_true (List.all_eq_true.mp h c hc)

theorem escape_numeric {c : Char} (h : numeric c = true) : escape c = [c] := by
  have hne : ∀ d : Char, numeric d = false → c ≠ d := by
    intro d hd heq
    rw [heq,hd] at h
    cases h
  have hcontrol : ¬c.toNat < 32 := by
    intro hlow
    have hsame : c = Char.ofNat c.toNat := (Char.ofNat_toNat c).symm
    have hall : ∀ n < 32, numeric (Char.ofNat n) = false := by decide
    exact hne _ (hall _ hlow) hsame
  simp [escape,hne '"' (by decide),hne '\\' (by decide),hne '\x08' (by decide),hne '\x0c' (by decide),
    hne '\n' (by decide),hne '\r' (by decide),hne '\t' (by decide),hcontrol]

theorem spelled_quoted (s : List Char) : Spelled (quoted s) := by
  have hbody : Spelled (s.flatMap escape) := by
    induction s with
    | nil => exact ⟨[],rfl⟩
    | cons c s ih => exact (spelled_escape c).append ih
  exact (spelled_quote.append hbody).append spelled_quote

private theorem spelled_mark {c : Char} (h : escape c = [c]) {text : List Char} (htext : Spelled text) :
    Spelled (c :: text) := by
  have hmark := spelled_escape c
  rw [h] at hmark
  exact hmark.append htext

mutual

theorem spelled_write : ∀ d : Document, Spelled (write d)
  | .null => spelled_literal (by decide)
  | .bool true => spelled_literal (by decide)
  | .bool false => spelled_literal (by decide)
  | .number n => spelled_plain fun c hc => escape_numeric (n.chars c hc)
  | .string s => spelled_quoted s.toList
  | .array items => spelled_mark (by decide) (spelled_writeItems items)
  | .object members => spelled_mark (by decide) (spelled_writeMembers members)

theorem spelled_writeItems : ∀ l : List Document, Spelled (writeItems l)
  | [] => spelled_literal (by decide)
  | d :: l => (spelled_write d).append (spelled_writeMoreItems l)

theorem spelled_writeMoreItems : ∀ l : List Document, Spelled (writeMoreItems l)
  | [] => spelled_literal (by decide)
  | d :: l => spelled_mark (by decide) ((spelled_write d).append (spelled_writeMoreItems l))

theorem spelled_writeMembers : ∀ l : List (String × Document), Spelled (writeMembers l)
  | [] => spelled_literal (by decide)
  | (key,d) :: l => ((spelled_quoted key.toList).append (spelled_mark (by decide) (spelled_write d))).append
      (spelled_writeMoreMembers l)

theorem spelled_writeMoreMembers : ∀ l : List (String × Document), Spelled (writeMoreMembers l)
  | [] => spelled_literal (by decide)
  | (key,d) :: l => spelled_mark (by decide) (((spelled_quoted key.toList).append
      (spelled_mark (by decide) (spelled_write d))).append (spelled_writeMoreMembers l))

end

theorem writeAscii_injective : Function.Injective writeAscii := by
  intro d d' h
  obtain ⟨p,hp⟩ := spelled_write d
  obtain ⟨p',hp'⟩ := spelled_write d'
  unfold writeAscii at h
  rw [← hp,← hp'] at h
  apply write_injective
  rw [← hp,← hp',spellAscii_injective h]
end Json
