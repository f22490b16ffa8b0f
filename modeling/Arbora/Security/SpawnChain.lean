import Arbora.Security.SpawnScope

/-! Spawns of spawns on behalf of one principal. The chain of each names everyone it acts for, and itself at the end. -/
namespace Arbora.Security

def isLabelChar (c : Char) : Bool :=
  ('A' ≤ c && c ≤ 'Z') || ('a' ≤ c && c ≤ 'z') || ('0' ≤ c && c ≤ '9') || c == '.' || c == '_' || c == '-'

/-- `_LABEL_SANITIZE.sub("-",...)`, before or within a run of other characters. -/
def sanitize : Bool → List Char → List Char
  | _, [] => []
  | within, c :: rest =>
    if isLabelChar c then c :: sanitize false rest
    else if within then sanitize true rest
    else '-' :: sanitize true rest

def stripDashes (text : List Char) : List Char := ((text.dropWhile (· = '-')).reverse.dropWhile (· = '-')).reverse
def labelPart (text : String) : String := String.ofList (stripDashes (sanitize false (Scaling.strip text).toList))

def agentInstanceLabel (agentName runId : String) : String :=
  let name := labelPart (if agentName ≠ "" then agentName else "agent")
  let name := if name ≠ "" then name else "agent"
  let rid := labelPart runId
  if rid ≠ "" then "agent:" ++ name ++ ":" ++ rid else "agent:" ++ name

structure SpawnRequest (Time : Type) where
  (agentName runId : String)
  ceiling : List String
  runToken : String
  oidcToken : Option String
  expiresAt : Option Time
  mode : Option DelegationMode

structure SpawnDelegation (Time : Type) where
  mode : DelegationMode
  principal : String
  chain : List String
  agentInstanceId : String
  ceiling : List String
  runToken : String
  oidcToken : Option String
  expiresAt : Option Time

inductive DelegationRefused
  /-- `delegation requires a non-empty ultimate principal` -/
  | noPrincipal
  /-- `delegation chain must run principal-first / agent-last (len>=2); got ...` -/
  | malformed (got : List String)

section
variable {Time : Type} (delegationMode : DelegationMode) (principal : String)

def anchored (parentChain : List String) : List String :=
  let base := if dedup parentChain ≠ [] then dedup parentChain else [principal]
  if base.head? ≠ some principal then principal :: base.filter (· ≠ principal) else base

def suffixed (label : String) (base : List String) : String := label ++ ":" ++ toString base.length

def buildSpawnDelegation (parentChain : List String) (r : SpawnRequest Time) :
    Except DelegationRefused (SpawnDelegation Time) :=
  let principal := Scaling.strip principal
  if principal = "" then .error .noPrincipal
  else
    let base := anchored principal parentChain
    let label := agentInstanceLabel r.agentName r.runId
    let label := if label ∈ base then suffixed label base else label
    let chain := base ++ [label]
    if chain.length < 2 ∨ chain.head? ≠ some principal ∨ chain.getLast? ≠ some label then .error (.malformed chain)
    else .ok ⟨r.mode.getD delegationMode,principal,chain,label,dedup r.ceiling,r.runToken,r.oidcToken,r.expiresAt⟩

structure Spawn (Time : Type) where
  parentChain : List String
  request : SpawnRequest Time
  delegation : SpawnDelegation Time

/-- The spawns of which each one is made by the one before it, until one is refused. -/
def spawns : List String → List (SpawnRequest Time) → List (Spawn Time)
  | _, [] => []
  | parentChain, r :: rest =>
    match buildSpawnDelegation delegationMode principal parentChain r with
    | .error _ => []
    | .ok d => ⟨parentChain,r,d⟩ :: spawns d.chain rest

structure WireContract (x : Spawn Time) : Prop where
  first : x.delegation.chain.head? = some (Scaling.strip principal)
  last : x.delegation.chain.getLast? = some x.delegation.agentInstanceId
  long : 2 ≤ x.delegation.chain.length
  unique : x.delegation.chain.Nodup
  filled : ∀ entry ∈ x.delegation.chain, Scaling.strip entry ≠ ""
  extends_parent : x.parentChain <+: x.delegation.chain ∧ x.parentChain ≠ x.delegation.chain

def SuffixFree (x : Spawn Time) : Prop :=
  agentInstanceLabel x.request.agentName x.request.runId ∈ anchored (Scaling.strip principal) x.parentChain →
    suffixed (agentInstanceLabel x.request.agentName x.request.runId) (anchored (Scaling.strip principal) x.parentChain) ∉
      anchored (Scaling.strip principal) x.parentChain

end

section
variable {α : Type} [DecidableEq α]

theorem nodup_eraseDups (l : List α) : l.eraseDups.Nodup := by
  induction hn : l.length using Nat.strongRecOn generalizing l with
  | ind n ih =>
    cases l with
    | nil => exact List.nodup_nil
    | cons a rest =>
      rw [List.eraseDups_cons,List.nodup_cons,List.mem_eraseDups]
      refine ⟨fun h => ?_,ih _ ?_ _ rfl⟩
      · simpa using (List.mem_filter.mp h).2
      · rw [← hn,List.length_cons]
        exact Nat.lt_succ_of_le (List.length_filter_le _ _)

theorem eraseDups_of_nodup {l : List α} (h : l.Nodup) : l.eraseDups = l := by
  induction l with
  | nil => rfl
  | cons a rest ih =>
    obtain ⟨ha,hrest⟩ := List.nodup_cons.mp h
    have hfilter : rest.filter (fun b => !b == a) = rest :=
      List.filter_eq_self.mpr fun b hb => by simpa using fun heq : b = a => ha (heq ▸ hb)
    rw [List.eraseDups_cons,hfilter,ih hrest]

end

/-- Nothing that `strip` would take away. -/
def Solid (text : List Char) : Prop := ∀ c ∈ text, Scaling.isSpace c = false

theorem strip_of_solid {s : String} (h : Solid s.toList) : Scaling.strip s = s := by
  have hkeep : ∀ l : List Char, Solid l → l.dropWhile Scaling.isSpace = l := by
    intro l hl
    cases l with
    | nil => rfl
    | cons c rest => exact List.dropWhile_cons_of_neg (by simp [hl c List.mem_cons_self])
  unfold Scaling.strip
  rw [hkeep _ h,hkeep _ fun c hc => h c (List.mem_reverse.mp hc),List.reverse_reverse,String.ofList_toList]

theorem solid_append {a b : List Char} (ha : Solid a) (hb : Solid b) : Solid (a ++ b) := fun c hc =>
  (List.mem_append.mp hc).elim (ha c) (hb c)

theorem solid_labelChar {c : Char} (h : isLabelChar c = true) : Scaling.isSpace c = false := by
  have hn : (65 ≤ c.toNat ∧ c.toNat ≤ 90 ∨ 97 ≤ c.toNat ∧ c.toNat ≤ 122 ∨ 48 ≤ c.toNat ∧ c.toNat ≤ 57) ∨
      c.toNat = 46 ∨ c.toNat = 95 ∨ c.toNat = 45 := by
    simp only [isLabelChar,Bool.or_eq_true,Bool.and_eq_true,decide_eq_true_eq,beq_iff_eq] at h
    rcases h with ((((h | h) | h) | rfl) | rfl) | rfl
    · exact .inl (.inl h)
    · exact .inl (.inr (.inl h))
    · exact .inl (.inr (.inr h))
    · exact .inr (.inl rfl)
    · exact .inr (.inr (.inl rfl))
    · exact .inr (.inr (.inr rfl))
  simp only [Scaling.isSpace,Bool.or_eq_false_iff,Bool.and_eq_false_iff,decide_eq_false_iff_not,beq_eq_false_iff_ne]
  omega

theorem solid_sanitize (within : Bool) (text : List Char) : Solid (sanitize within text) := by
  induction text generalizing within with
  | nil => exact fun c hc => nomatch hc
  | cons c rest ih =>
    unfold sanitize
    split_ifs with hc hwithin
    · exact fun d hd => (List.mem_cons.mp hd).elim (fun heq => heq ▸ solid_labelChar hc) (ih _ d)
    · exact ih true
    · exact fun d hd => (List.mem_cons.mp hd).elim (fun heq => heq ▸ rfl) (ih _ d)

theorem solid_labelPart (text : String) : Solid (labelPart text).toList := by
  unfold labelPart stripDashes
  rw [String.toList_ofList]
  have hsub : ∀ l : List Char, Solid l → Solid (l.dropWhile (· = '-')).reverse := fun l hl c hc =>
    hl c ((List.dropWhile_suffix _).mem (List.mem_reverse.mp hc))
  exact hsub _ (hsub _ (solid_sanitize _ _))

theorem solid_words : Solid "agent".toList ∧ Solid "agent:".toList ∧ Solid ":".toList := by
  simp [Solid,Scaling.isSpace]

theorem solid_label (agentName runId : String) : Solid (agentInstanceLabel agentName runId).toList := by
  have hname : ∀ name : String, Solid name.toList → Solid (if name ≠ "" then name else "agent").toList := by
    intro name h
    by_cases hempty : name = ""
    · rw [if_neg (not_not.mpr hempty)]
      exact solid_words.1
    · rw [if_pos hempty]
      exact h
  have hpart := hname _ (solid_labelPart (if agentName ≠ "" then agentName else "agent"))
  unfold agentInstanceLabel
  dsimp only
  generalize (if labelPart (if agentName ≠ "" then agentName else "agent") ≠ "" then
    labelPart (if agentName ≠ "" then agentName else "agent") else "agent") = name at hpart
  by_cases hrid : labelPart runId = ""
  · rw [if_neg (not_not.mpr hrid),String.toList_append]
    exact solid_append solid_words.2.1 hpart
  · rw [if_pos hrid,String.toList_append,String.toList_append,String.toList_append]
    exact solid_append (solid_append (solid_append solid_words.2.1 hpart) solid_words.2.2) (solid_labelPart runId)

theorem solid_suffixed {label : String} (h : Solid label.toList) (base : List String) :
    Solid (suffixed label base).toList := by
  have hdigits : Solid (toString base.length).toList := by
    intro c hc
    have hdigit : c.isDigit = true := Nat.isDigit_of_mem_toDigits (by decide) (by decide) (Nat.toList_repr ▸ hc)
    refine solid_labelChar ?_
    simp only [Char.isDigit,Bool.and_eq_true,decide_eq_true_eq] at hdigit
    simp only [isLabelChar,Bool.or_eq_true,Bool.and_eq_true,decide_eq_true_eq]
    exact .inl (.inl (.inl (.inr hdigit)))
  unfold suffixed
  rw [String.toList_append,String.toList_append]
  exact solid_append (solid_append h solid_words.2.2) hdigits

section
variable {Time : Type} {delegationMode : DelegationMode} {principal : String} {parentChain : List String}

structure Handed (principal : String) (chain : List String) : Prop where
  first : chain.head? = some principal
  unique : chain.Nodup
  stripped : ∀ entry ∈ chain, Scaling.strip entry = entry ∧ entry ≠ ""

theorem handed_anchored (hprincipal : Scaling.strip principal = principal) (hne : principal ≠ "")
    (parentChain : List String) : Handed principal (anchored principal parentChain) := by
  have hbase : (if dedup parentChain ≠ [] then dedup parentChain else [principal]).Nodup ∧
      ∀ entry ∈ if dedup parentChain ≠ [] then dedup parentChain else [principal], Scaling.strip entry = entry ∧ entry ≠ "" := by
    split_ifs
    · exact ⟨nodup_eraseDups _,fun entry h => ⟨strip_of_mem_dedup h,(mem_dedup.mp h).1⟩⟩
    · exact ⟨List.nodup_singleton _,fun entry h => List.mem_singleton.mp h ▸ ⟨hprincipal,hne⟩⟩
  unfold anchored
  generalize (if dedup parentChain ≠ [] then dedup parentChain else [principal]) = base at hbase
  obtain ⟨hunique,hstripped⟩ := hbase
  by_cases hfirst : base.head? = some principal
  · rw [if_neg (not_not.mpr hfirst)]
    exact ⟨hfirst,hunique,hstripped⟩
  · rw [if_pos hfirst]
    constructor
    · rfl
    · exact List.nodup_cons.mpr ⟨by simp,hunique.filter _⟩
    · exact List.forall_mem_cons.mpr ⟨⟨hprincipal,hne⟩,fun entry h => hstripped entry (List.mem_of_mem_filter h)⟩

theorem dedup_of_handed {chain : List String} (h : Handed principal chain) : dedup chain = chain := by
  unfold dedup
  have hmap : chain.map Scaling.strip = chain := by
    conv_rhs => rw [← List.map_id chain]
    exact List.map_congr_left fun entry hentry => (h.stripped entry hentry).1
  have hfilter : chain.filter (· ≠ "") = chain :=
    List.filter_eq_self.mpr fun entry hentry => decide_eq_true (h.stripped entry hentry).2
  rw [hmap,hfilter,eraseDups_of_nodup h.unique]

theorem anchored_of_handed (h : Handed principal parentChain) : anchored principal parentChain = parentChain := by
  have hne : parentChain ≠ [] := by
    rintro rfl
    cases h.first
  unfold anchored
  rw [dedup_of_handed h,if_pos hne,if_neg (not_not.mpr h.first)]

def Parent (principal : String) (parentChain : List String) : Prop := parentChain = [] ∨ Handed principal parentChain

theorem Parent.extended (h : Parent principal parentChain) : parentChain <+: anchored principal parentChain := by
  rcases h with rfl | h
  · exact List.nil_prefix
  · exact ⟨[],by rw [List.append_nil,anchored_of_handed h]⟩

variable {r : SpawnRequest Time} {d : SpawnDelegation Time}

section
variable (h : buildSpawnDelegation delegationMode principal parentChain r = .ok d)
include h

theorem build_ok :
    Scaling.strip principal ≠ "" ∧ d.chain = anchored (Scaling.strip principal) parentChain ++ [d.agentInstanceId] ∧
      d.agentInstanceId = if agentInstanceLabel r.agentName r.runId ∈ anchored (Scaling.strip principal) parentChain then
        suffixed (agentInstanceLabel r.agentName r.runId) (anchored (Scaling.strip principal) parentChain)
        else agentInstanceLabel r.agentName r.runId := by
  unfold buildSpawnDelegation at h
  dsimp only at h
  by_cases hempty : Scaling.strip principal = ""
  · rw [if_pos hempty] at h
    cases h
  · rw [if_neg hempty] at h
    generalize anchored (Scaling.strip principal) parentChain = base at h ⊢
    generalize agentInstanceLabel r.agentName r.runId = label at h ⊢
    generalize (if label ∈ base then suffixed label base else label) = used at h ⊢
    split_ifs at h with hbad
    obtain rfl := Except.ok.inj h
    exact ⟨hempty,rfl,rfl⟩

theorem solid_of_build : Scaling.strip d.agentInstanceId = d.agentInstanceId ∧ d.agentInstanceId ≠ "" := by
  have hlabel : agentInstanceLabel r.agentName r.runId ≠ "" := by
    unfold agentInstanceLabel
    dsimp only
    split_ifs <;> simp [String.append_eq_empty_iff]
  rw [(build_ok h).2.2]
  split_ifs
  · exact ⟨strip_of_solid (solid_suffixed (solid_label _ _) _),by simp [suffixed,String.append_eq_empty_iff]⟩
  · exact ⟨strip_of_solid (solid_label _ _),hlabel⟩

theorem handed_of_new (hnew : d.agentInstanceId ∉ anchored (Scaling.strip principal) parentChain) :
    Handed (Scaling.strip principal) d.chain := by
  obtain ⟨hprincipal,hchain,-⟩ := build_ok h
  have hbase := handed_anchored (strip_strip principal) hprincipal parentChain
  rw [hchain]
  constructor
  · rw [List.head?_append,hbase.first]
    rfl
  · exact List.nodup_append.mpr ⟨hbase.unique,List.nodup_singleton _,fun a ha b hb heq =>
      hnew (List.mem_singleton.mp hb ▸ heq ▸ ha)⟩
  · intro entry hentry
    rcases List.mem_append.mp hentry with hold | hlast
    · exact hbase.stripped entry hold
    · exact List.mem_singleton.mp hlast ▸ solid_of_build h

end

theorem wireContract_iff (hparent : Parent (Scaling.strip principal) parentChain)
    (h : buildSpawnDelegation delegationMode principal parentChain r = .ok d) :
    WireContract principal ⟨parentChain,r,d⟩ ↔ SuffixFree principal ⟨parentChain,r,d⟩ := by
  obtain ⟨hprincipal,hchain,hid⟩ := build_ok h
  constructor
  · intro hcontract hin hsuffixed
    have hunique := hcontract.unique
    rw [hchain,List.nodup_append] at hunique
    rw [if_pos hin] at hid
    exact hunique.2.2 _ hsuffixed _ (List.mem_singleton.mpr hid.symm) rfl
  · intro hfree
    have hnew : d.agentInstanceId ∉ anchored (Scaling.strip principal) parentChain := by
      rw [hid]
      split_ifs with hin
      · exact hfree hin
      · exact hin
    have hhanded := handed_of_new h hnew
    have hlonger : parentChain.length < d.chain.length := by
      rw [hchain,List.length_append,List.length_singleton]
      exact Nat.lt_succ_of_le hparent.extended.length_le
    constructor
    · exact hhanded.first
    · dsimp only
      rw [hchain,List.getLast?_concat]
    · have hsome : anchored (Scaling.strip principal) parentChain ≠ [] := by
        intro hnil
        have hfirst := (handed_anchored (strip_strip principal) hprincipal parentChain).first
        rw [hnil] at hfirst
        cases hfirst
      rw [hchain,List.length_append,List.length_singleton]
      exact Nat.succ_le_succ (List.length_pos_of_ne_nil hsome)
    · exact hhanded.unique
    · intro entry hentry
      rw [(hhanded.stripped entry hentry).1]
      exact (hhanded.stripped entry hentry).2
    · exact ⟨hchain ▸ hparent.extended.trans (List.prefix_append _ _),fun heq => hlonger.ne (congrArg List.length heq)⟩

theorem WireContract.handed (h : buildSpawnDelegation delegationMode principal parentChain r = .ok d)
    (hcontract : WireContract principal ⟨parentChain,r,d⟩) : Handed (Scaling.strip principal) d.chain := by
  obtain ⟨-,hchain,-⟩ := build_ok h
  refine handed_of_new h fun hin => ?_
  have hunique := hcontract.unique
  rw [hchain,List.nodup_append] at hunique
  exact hunique.2.2 _ hin _ (List.mem_singleton.mpr rfl) rfl

theorem contracts_iff (requests : List (SpawnRequest Time)) (hparent : Parent (Scaling.strip principal) parentChain) :
    (∀ x ∈ spawns delegationMode principal parentChain requests, WireContract principal x) ↔
      ∀ x ∈ spawns delegationMode principal parentChain requests, SuffixFree principal x := by
  induction requests generalizing parentChain with
  | nil => simp [spawns]
  | cons r rest ih =>
    unfold spawns
    split
    · simp
    · rename_i d h
      rw [List.forall_mem_cons,List.forall_mem_cons,wireContract_iff hparent h]
      refine and_congr_right fun hfree => ih (.inr ?_)
      exact ((wireContract_iff hparent h).mpr hfree).handed h

end

/-- Every chain of a nesting of spawns keeps the contract exactly when no suffix is needed that is taken. -/
theorem delegation_chains_iff {Time : Type} (delegationMode : DelegationMode) (principal : String)
    (requests : List (SpawnRequest Time)) :
    (∀ x ∈ spawns delegationMode principal [] requests, WireContract principal x) ↔
      ∀ x ∈ spawns delegationMode principal [] requests, SuffixFree principal x := contracts_iff requests (.inl rfl)

def workers : List (SpawnRequest ℕ) :=
  ["3","",""].map fun runId => ⟨"worker",runId,[],"",none,none,none⟩

theorem suffix_taken : ¬∀ x ∈ spawns .on "alice" [] workers, WireContract "alice" x := by
  have hchain : ∃ x ∈ spawns .on "alice" [] workers,
      x.delegation.chain = ["alice","agent:worker:3","agent:worker","agent:worker:3"] := by decide +kernel
  intro h
  obtain ⟨x,hx,hchain⟩ := hchain
  have hunique := (h x hx).unique
  rw [hchain] at hunique
  exact absurd hunique (by decide)

end Arbora.Security
