import Arbora.Autonomy.HealthyEngine

/-! Budgets over runs. A budget is read back from the ledger, so it holds as long as each scan shows all of it. -/
namespace Arbora.Autonomy
open Interaction Prog

section
variable {s m s' : Store} {kind : String} {start : ℚ}

def Store.spent (s : Store) (kind : String) (start : ℚ) : List (String × DecisionNode) :=
  s.decisions.filter fun d => d.2.kind = kind ∧ d.2.decision.allowing = true ∧ start ≤ d.2.decidedUnix
def Store.Scanned (s : Store) (kind : String) : Prop := (s.ledger kind).length ≤ ledgerScanLimit

theorem allowing_ledgerRow (d : String × DecisionNode) : (ledgerRow d).allowing = d.2.decision.allowing := by
  unfold ledgerRow LedgerRow.allowing
  cases d.2.decision <;> rfl

theorem spentSince_ledgerRow (since : ℚ) (nodes : List (String × DecisionNode)) : spentSince since (nodes.map ledgerRow) =
    .ok ((nodes.filter fun d => d.2.decision.allowing = true ∧ since ≤ d.2.decidedUnix).map ledgerRow) := by
  induction nodes with
  | nil => rfl
  | cons d rest ih =>
    rw [List.map_cons]
    unfold spentSince
    rw [allowing_ledgerRow,ih]
    by_cases hallowing : d.2.decision.allowing = true
    · rw [if_pos hallowing]
      by_cases hsince : since ≤ d.2.decidedUnix
      · rw [List.filter_cons_of_pos (by simp [hallowing,hsince])]
        simp [ledgerRow,Except.map,hsince]
      · rw [List.filter_cons_of_neg (by simp [hsince])]
        simp [ledgerRow,Except.map,hsince]
    · rw [if_neg hallowing,List.filter_cons_of_neg (by simp [hallowing])]

theorem limited_perm {α : Type} {limit : ℕ} {found rows : List α} (h : Limited limit found rows)
    (hall : found.length ≤ limit) : rows.Perm found := by
  refine h.1.perm_of_length_le ?_
  rw [h.2,Nat.min_eq_right hall]

end

section
variable {policy : ActionPolicy} {request : ActionRequest} {s s' : Store} {d : ActionDecision} {g : Engine} {rule : ActionRule}
  {start : ℚ}

variable {limit : Limit}

theorem room_of_passed {budget : Budget} {most : ℤ} {window : ℚ} (h : Passed policy request s s' d g rule)
    (hscan : s.Scanned request.kind) (hmost : limit.most = some most) (hpos : 0 < most) (hwindow : limit.window = some window)
    (hstart : s'.time ≤ start+window) (hfree : exceededFor policy request budget limit g = .ok false) :
    ∃ counted : List (String × DecisionNode), ((s.spent request.kind start).filter (budget.relevant ∘ ledgerRow)).Subperm counted ∧
      budget.used (counted.map ledgerRow) most = false := by
  obtain ⟨m,_,hm,hfits⟩ := h.fits
  obtain ⟨rows,hrows,hanswer⟩ := hfits (.ledger budget.purpose request.kind)
  have hnow : g (.now budget.purpose) ≤ s'.time := (hfits (.now budget.purpose)).2.trans hm
  unfold exceededFor at hfree
  rw [hmost,hwindow] at hfree
  dsimp only at hfree
  unfold recentFor at hfree
  rw [if_neg (not_le.mpr hpos),if_pos h.engine,hanswer] at hfree
  have hused : usedFor budget most window (rows.map ledgerRow) g = .ok false := hfree
  unfold usedFor at hused
  rw [List.filter_map,spentSince_ledgerRow] at hused
  refine ⟨_,?_,Except.ok.inj hused⟩
  have hperm : rows.Perm (s.ledger request.kind) := limited_perm hrows hscan
  refine List.Subperm.trans ?_ ((hperm.filter _).filter _).symm.subperm
  unfold Store.spent Store.ledger
  rw [List.filter_filter,List.filter_filter,List.filter_filter]
  refine (List.monotone_filter_right _ fun d => ?_).subperm
  simp only [Bool.and_eq_true,Bool.decide_and,Function.comp_apply,decide_eq_true_eq]
  rintro ⟨hrelevant,hkind,hallowing,hstart'⟩
  exact ⟨⟨⟨hallowing,by linarith⟩,hrelevant⟩,hkind⟩

theorem rate_room {most : ℤ} {window : ℚ} (h : Passed policy request s s' d g rule)
    (hscan : s.Scanned request.kind) (hlimit : rateOf policy rule = some limit) (hmost : limit.most = some most)
    (hpos : 0 < most) (hwindow : limit.window = some window) (hstart : s'.time ≤ start+window) :
    ((s.spent request.kind start).countP fun d => d.2.target = request.target : ℤ) < most := by
  have hrate := h.cleared.rate
  rw [rateUsed_eq,hlimit] at hrate
  obtain ⟨counted,hcounted,hused⟩ := room_of_passed h hscan hmost hpos hwindow hstart hrate
  have hlt : ((counted.map ledgerRow).length : ℤ) < most := not_le.mp (of_decide_eq_false hused)
  have hsame : (s.spent request.kind start).countP (fun d => d.2.target = request.target) =
      ((s.spent request.kind start).filter ((rateBudget request).relevant ∘ ledgerRow)).length := by
    rw [← List.countP_eq_length_filter]
    congr 1
    funext d
    simp [rateBudget,ledgerRow]
  rw [List.length_map] at hlt
  have hle := hcounted.length_le
  omega

/-- The targets that were allowed, from a time on. -/
def Store.targets (s : Store) (kind : String) (start : ℚ) : Finset String :=
  ((s.spent kind start).map fun d => d.2.target).toFinset

theorem blast_room {most : ℤ} {window : ℚ} (h : Passed policy request s s' d g rule)
    (hscan : s.Scanned request.kind) (hlimit : blastOf policy rule = some limit) (hmost : limit.most = some most)
    (hpos : 0 < most) (hwindow : limit.window = some window) (hstart : s'.time ≤ start+window) :
    ((insert request.target (s.targets request.kind start)).card : ℤ) ≤ most := by
  have hblast := h.cleared.blast
  rw [blastUsed_eq,hlimit] at hblast
  obtain ⟨counted,hcounted,hused⟩ := room_of_passed h hscan hmost hpos hwindow hstart hblast
  have hle : ((targetsOf request (counted.map ledgerRow)).card : ℤ) ≤ most := not_lt.mp (of_decide_eq_false hused)
  have hsub : (insert request.target (s.targets request.kind start)).image some ⊆
      targetsOf request (counted.map ledgerRow) := by
    intro target htarget
    rw [Finset.image_insert,Finset.mem_insert] at htarget
    rcases htarget with rfl | htarget
    · exact Finset.mem_insert_self _ _
    · obtain ⟨t,ht,rfl⟩ := Finset.mem_image.mp htarget
      obtain ⟨d,hd,rfl⟩ := List.mem_map.mp (List.mem_toFinset.mp ht)
      have hmem : d ∈ counted := hcounted.subset (List.mem_filter.mpr ⟨hd,rfl⟩)
      refine Finset.mem_insert_of_mem (List.mem_toFinset.mpr ?_)
      exact List.mem_map.mpr ⟨ledgerRow d,List.mem_map.mpr ⟨d,hmem,rfl⟩,rfl⟩
  have hcard := Finset.card_le_card hsub
  rw [Finset.card_image_of_injective _ (Option.some_injective String)] at hcard
  omega

end

section

def Act.spends (kind : String) (start window : ℚ) : Act → Option String
  | .decided request d time =>
    if request.kind = kind ∧ d.allowed = true ∧ d.approvalId = none ∧ start ≤ time ∧ time ≤ start+window then
      some request.target
    else none
  | .granted _ => none

/-- The scan of a decision is not cut off. -/
def Act.Scanned (s : Store) : Act → Prop
  | .decided request _ _ => s.Scanned request.kind
  | .granted _ => True

def FixedRule (policy : ActionPolicy) (rules : List RawItem) (rule : ActionRule) (acts : List Act) : Prop :=
  ∀ request d time, .decided request d time ∈ acts → ∀ rows, Limited 100 rules rows →
    (overrides (some rows)).bind (matchIn policy request) = .ok rule

structure Limits (policy : ActionPolicy) (rule : ActionRule) (most : ℤ) (window : ℚ) (mostTargets : ℤ) (window' : ℚ) : Prop where
  rate : ∃ limit, rateOf policy rule = some limit ∧ limit.most = some most ∧ limit.window = some window
  blast : ∃ limit, blastOf policy rule = some limit ∧ limit.most = some mostTargets ∧ limit.window = some window'
  ratePositive : 0 < most
  blastPositive : 0 < mostTargets

variable {policy : ActionPolicy} {s m s' : Store} {rule : ActionRule} {acts : List Act} {act : Act} {most mostTargets : ℤ}
  {window window' start : ℚ} {kind target : String}

theorem rule_of_passed {request : ActionRequest} {d : ActionDecision} {g : Engine} {rule' : ActionRule}
    (h : Passed policy request s s' d g rule')
    (hrule : ∀ rows, Limited 100 s.rules rows → (overrides (some rows)).bind (matchIn policy request) = .ok rule) :
    rule' = rule := by
  obtain ⟨m,_,_,hfits⟩ := h.fits
  obtain ⟨rows,hrows,hanswer⟩ := hfits .governanceRules
  have hmatched := h.matched
  rw [eval_matchRule,if_pos h.engine,hanswer] at hmatched
  have hmatched : (overrides (some rows)).bind (matchIn policy request) = .ok rule' := hmatched
  rw [hrule rows hrows] at hmatched
  exact (Except.ok.inj hmatched).symm

theorem spent_grows (kind : String) (start : ℚ) (h : Acts policy s act m) : s.spent kind start <+: m.spent kind start ∧ m.rules = s.rules := by
  cases act with
  | decided request d time =>
    obtain ⟨⟨t,h⟩,_⟩ := h
    obtain ⟨hgrows,_,hrules⟩ := ledger_grows h
    exact ⟨hgrows.filter _,hrules⟩
  | granted id =>
    obtain ⟨_,rfl⟩ := h
    exact ⟨List.prefix_rfl,rfl⟩

theorem spent_of_spends (h : Acts policy s act m) (hspends : act.spends kind start window = some target) :
    ∃ request d g rule x, act = .decided request d m.time ∧ request.kind = kind ∧ request.target = target ∧
      Passed policy request s m d g rule ∧ m.time ≤ start+window ∧ m.spent kind start = s.spent kind start ++ [x] ∧
      x.2.target = target := by
  cases act with
  | granted id => cases hspends
  | decided request d time =>
    obtain ⟨hreaches,rfl⟩ := h
    unfold Act.spends at hspends
    dsimp only at hspends
    split_ifs at hspends with hcond
    obtain ⟨rfl,hallowed,_,hstart,hend⟩ := hcond
    cases hspends
    obtain ⟨g,rule,hpassed⟩ := passed_of_allowed hreaches hallowed
    obtain ⟨id,node,hdecisions,_,hkind,htarget,hallowing,htime⟩ := hpassed.recorded
    refine ⟨request,d,g,rule,(id,node),rfl,rfl,rfl,hpassed,hend,?_,htarget⟩
    unfold Store.spent
    rw [hdecisions,List.filter_append,List.filter_singleton,htime,hkind,hallowing]
    simp [hstart]

theorem passed_rule (h : FixedRule policy s.rules rule (act :: acts)) {request : ActionRequest} {d : ActionDecision} {time : ℚ}
    {g : Engine} {rule' : ActionRule} (hact : act = .decided request d time) (hpassed : Passed policy request s m d g rule') :
    rule' = rule := by
  subst hact
  exact rule_of_passed hpassed (h request d time List.mem_cons_self)

theorem FixedRule.rest (h : FixedRule policy s.rules rule (act :: acts)) (hrules : m.rules = s.rules) :
    FixedRule policy m.rules rule acts := by
  intro request d time hmem
  rw [hrules]
  exact h request d time (List.mem_cons_of_mem _ hmem)

/-- What is allowed in a window uses up the room that the ledger leaves. -/
theorem rate_of_acting (kind target : String) (start : ℚ) (hlimits : Limits policy rule most window mostTargets window')
    (h : Acting policy (fun s act => act.Scanned s) s acts s') (hrule : FixedRule policy s.rules rule acts) :
    (acts.filterMap (Act.spends kind start window)).count target = 0 ∨
      ((s.spent kind start).countP (fun d => d.2.target = target)+(acts.filterMap (Act.spends kind start window)).count target : ℤ) ≤
        most := by
  induction h with
  | nil => exact .inl rfl
  | @cons s m s' act acts hscan hact _ ih =>
    obtain ⟨hgrows,hrules⟩ := spent_grows kind start hact
    have hle := hgrows.sublist.countP_le (p := fun d => d.2.target = target)
    have hrest := ih (hrule.rest hrules)
    cases hspends : act.spends kind start window with
    | none =>
      rw [List.filterMap_cons_none hspends]
      omega
    | some target' =>
      rw [List.filterMap_cons_some hspends,List.count_cons]
      obtain ⟨request,d,g,rule',x,rfl,rfl,rfl,hpassed,hend,hspent,hx⟩ := spent_of_spends hact hspends
      by_cases htarget : request.target = target
      · subst htarget
        obtain ⟨limit,hlimit,hmost,hwindow⟩ := hlimits.rate
        rw [passed_rule hrule rfl hpassed] at hpassed
        have hroom := rate_room hpassed hscan hlimit hmost hlimits.ratePositive hwindow hend
        have hone : [x].countP (fun d => d.2.target = request.target) = 1 := by simp [hx]
        rw [hspent,List.countP_append,hone] at hrest
        rw [if_pos (beq_self_eq_true _)]
        omega
      · rw [if_neg (by simpa using htarget)]
        omega

theorem blast_of_acting (kind : String) (start : ℚ) (hlimits : Limits policy rule most window mostTargets window')
    (h : Acting policy (fun s act => act.Scanned s) s acts s') (hrule : FixedRule policy s.rules rule acts) :
    acts.filterMap (Act.spends kind start window') = [] ∨
      ((s.targets kind start ∪ (acts.filterMap (Act.spends kind start window')).toFinset).card : ℤ) ≤ mostTargets := by
  induction h with
  | nil => exact .inl rfl
  | @cons s m s' act acts hscan hact _ ih =>
    obtain ⟨hgrows,hrules⟩ := spent_grows kind start hact
    have htargets : s.targets kind start ⊆ m.targets kind start := by
      intro t ht
      obtain ⟨d,hd,rfl⟩ := List.mem_map.mp (List.mem_toFinset.mp ht)
      exact List.mem_toFinset.mpr (List.mem_map.mpr ⟨d,hgrows.subset hd,rfl⟩)
    have hrest := ih (hrule.rest hrules)
    cases hspends : act.spends kind start window' with
    | none =>
      rw [List.filterMap_cons_none hspends]
      refine hrest.imp_right fun hcard => ?_
      have hle := Finset.card_le_card (Finset.union_subset_union_left
        (t := (acts.filterMap (Act.spends kind start window')).toFinset) htargets)
      omega
    | some target =>
      rw [List.filterMap_cons_some hspends,List.toFinset_cons]
      obtain ⟨request,d,g,rule',x,rfl,rfl,rfl,hpassed,hend,hspent,hx⟩ := spent_of_spends hact hspends
      have hnew : insert request.target (s.targets request.kind start) ⊆ m.targets request.kind start := by
        refine Finset.insert_subset ?_ htargets
        refine List.mem_toFinset.mpr (List.mem_map.mpr ⟨x,?_,hx⟩)
        rw [hspent]
        exact List.mem_append_right _ (List.mem_singleton.mpr rfl)
      refine .inr ?_
      rw [Finset.union_insert,← Finset.insert_union]
      rcases hrest with hnil | hcard
      · obtain ⟨limit,hlimit,hmost,hwindow⟩ := hlimits.blast
        rw [passed_rule hrule rfl hpassed] at hpassed
        rw [hnil,List.toFinset_nil,Finset.union_empty]
        exact blast_room hpassed hscan hlimit hmost hlimits.blastPositive hwindow hend
      · have hle := Finset.card_le_card (Finset.union_subset_union_left
          (t := (acts.filterMap (Act.spends request.kind start window')).toFinset) hnew)
        omega

/-- Budgets hold in every run whose scans show the whole ledger of the kind. -/
theorem budgets_hold {s s' : Store} {acts : List Act} {rule : ActionRule} {most mostTargets : ℤ} {window window' : ℚ}
    (policy : ActionPolicy) (hlimits : Limits policy rule most window mostTargets window')
    (hrule : FixedRule policy s.rules rule acts) (h : Acting policy (fun s act => act.Scanned s) s acts s') :
    ∀ kind start, (∀ target, ((acts.filterMap (Act.spends kind start window)).count target : ℤ) ≤ most) ∧
      ((acts.filterMap (Act.spends kind start window')).toFinset.card : ℤ) ≤ mostTargets := by
  intro kind start
  refine ⟨fun target => ?_,?_⟩
  · have hpos := hlimits.ratePositive
    have hrate := rate_of_acting kind target start hlimits h hrule
    omega
  · have hpos := hlimits.blastPositive
    rcases blast_of_acting kind start hlimits h hrule with hnil | hcard
    · rw [hnil]
      exact hpos.le
    · have hsub : (acts.filterMap (Act.spends kind start window')).toFinset ⊆
          s.targets kind start ∪ (acts.filterMap (Act.spends kind start window')).toFinset := Finset.subset_union_right
      have hle := Finset.card_le_card hsub
      omega

namespace Fixture

def once : Limit := ⟨some 1,some 3600,"1","3600"⟩
def metered : ActionPolicy :=
  ⟨true,false,[],"auto",some once,some once,[],fun _ => .ok ⟨true,"",""⟩,none⟩
def serial (k : ℕ) : String := String.ofList [Nat.digitChar (k/100),Nat.digitChar (k/10%10),Nat.digitChar (k%10)]

variable {k : ℕ} {digest : String}

theorem serial_inj {j : ℕ} (hj : j < 1000) (hk : k < 1000) (h : serial j = serial k) : j = k := by
  have hdigit : ∀ a < 10, ∀ b < 10, Nat.digitChar a = Nat.digitChar b → a = b := by decide
  have hlist := congrArg String.toList h
  unfold serial at hlist
  rw [String.toList_ofList,String.toList_ofList] at hlist
  injection hlist with h1 hlist
  injection hlist with h2 hlist
  injection hlist with h3
  have h1 := hdigit _ (by omega) _ (by omega) h1
  have h2 := hdigit _ (by omega) _ (by omega) h2
  have h3 := hdigit _ (by omega) _ (by omega) h3
  omega

theorem isBounded_serial (k : ℕ) : isBounded 256 ("action_decision:" ++ serial k) = true := by
  have hlength : "action_decision:".length = 16 := by decide
  simp [isBounded,serial,hlength]

def allowance : ActionDecision := passing metered.defaultRule (baseDecision restart metered.defaultRule)
def refusal : ActionDecision :=
  { baseDecision restart metered.defaultRule with decision := .deny, reason := rateReason (some once) }
def answered (d : ActionDecision) (k : ℕ) : ActionDecision := receipted d (some ("action_decision:" ++ serial k))
def refusals (digest : String) (n : ℕ) : List (String × DecisionNode) :=
  (List.range n).map fun k => ("action_decision:" ++ serial (k+1),refusal.node digest 0)

/-- One restart has been allowed, and so many have been refused since. -/
def flooded (digest : String) (n : ℕ) : Store :=
  ⟨[],[],("action_decision:" ++ serial 0,allowance.node digest 0) :: refusals digest n,0⟩

theorem ledger_flooded (digest : String) (n : ℕ) : (flooded digest n).ledger restart.kind = (flooded digest n).decisions := by
  unfold Store.ledger flooded refusals
  rw [List.filter_eq_self]
  intro d hd
  rcases List.mem_cons.mp hd with rfl | hd
  · rfl
  · obtain ⟨k,_,rfl⟩ := List.mem_map.mp hd
    rfl

theorem fresh_flooded (digest : String) {n : ℕ} (hn : n < 999) : (flooded digest n).Fresh (serial (n+1)) := by
  refine ⟨List.not_mem_nil,?_⟩
  intro hmem
  obtain ⟨d,hd,hid⟩ := List.mem_map.mp hmem
  have hserial : ∃ k < n+1, serial k = serial (n+1) := by
    rcases List.mem_cons.mp hd with rfl | hd
    · exact ⟨0,Nat.succ_pos n,String.append_right_inj _ |>.mp hid⟩
    · obtain ⟨k,hk,rfl⟩ := List.mem_map.mp hd
      exact ⟨k+1,Nat.succ_lt_succ (List.mem_range.mp hk),String.append_right_inj _ |>.mp hid⟩
  obtain ⟨k,hk,hserial⟩ := hserial
  have hsame := serial_inj (by omega) (by omega) hserial
  omega

theorem audited_flooded (digest : String) (n : ℕ) :
    (flooded digest n).audited refusal digest (serial (n+1)) = flooded digest (n+1) := by
  unfold Store.audited flooded refusals
  rw [List.range_succ,List.map_append]
  rfl

theorem reaches_rule {s : Store} (hrules : s.rules = []) :
    Reaches healthy (matchRule metered restart) s metered.defaultRule s := by
  have hnone : Limited 100 s.rules [] := by
    rw [hrules]
    exact limited_take 100 []
  exact reaches_matchRule rfl hnone rfl

theorem reaches_refusal (hdigest : restart.digest = .ok digest) {n : ℕ} (hn : n < 500) :
    Reaches healthy (decide metered restart) (flooded digest n) (answered refusal (n+1)) (flooded digest (n+1)) := by
  have hlength : (flooded digest n).decisions.length = n+1 := by simp [flooded,refusals]
  have hrows : Limited ledgerScanLimit ((flooded digest n).ledger restart.kind) (flooded digest n).decisions := by
    rw [ledger_flooded]
    refine ⟨List.Subperm.refl _,?_⟩
    unfold ledgerScanLimit
    omega
  have hrate : Reaches healthy (exceeded metered restart (rateBudget restart) once) (flooded digest n) true
      (flooded digest n) := by
    refine reaches_exceeded rfl rfl Int.one_pos rfl hrows ?_
    rw [List.filter_map,spentSince_ledgerRow]
    refine congrArg Except.ok (decide_eq_true ?_)
    have hshown : ("action_decision:" ++ serial 0,allowance.node digest 0) ∈
        (((flooded digest n).decisions.filter ((rateBudget restart).relevant ∘ ledgerRow)).filter fun d =>
          d.2.decision.allowing = true ∧ (flooded digest n).time-3600 ≤ d.2.decidedUnix) := by
      have hrecent : (0 : ℚ)-3600 ≤ 0 := by norm_num
      exact List.mem_filter.mpr ⟨List.mem_filter.mpr ⟨List.mem_cons_self,rfl⟩,decide_eq_true ⟨rfl,hrecent⟩⟩
    have hpos := List.length_pos_of_mem hshown
    rw [List.length_map]
    omega
  rw [← audited_flooded]
  refine reaches_decide ⟨_,rfl,rfl⟩ (reaches_rule rfl)
    (reaches_ruled_autonomous (.inl rfl) rfl hdigest (reaches_rate_used hrate)) ?_
  exact reaches_bindDecisionReceipt rfl hdigest (fresh_flooded digest (by omega)) (.inl nofun)

theorem reaches_allowance {s : Store} {rows : List (String × DecisionNode)} (hdigest : restart.digest = .ok digest)
    (hrules : s.rules = []) (hfresh : s.Fresh (serial k))
    (hrows : Limited ledgerScanLimit (s.ledger restart.kind) rows) (hnone : ∀ d ∈ rows, d.2.decision.allowing = false) :
    Reaches healthy (decide metered restart) s (answered allowance k) (s.audited allowance digest (serial k)) := by
  have hspent : ∀ since (l : List (String × DecisionNode)), l ⊆ rows →
      (l.filter fun d => d.2.decision.allowing = true ∧ since ≤ d.2.decidedUnix) = [] := by
    intro since l hl
    refine List.filter_eq_nil_iff.mpr fun d hd => ?_
    simp [hnone d (hl hd)]
  have hrate : Reaches healthy (exceeded metered restart (rateBudget restart) once) s false s := by
    refine reaches_exceeded rfl rfl Int.one_pos rfl hrows ?_
    rw [List.filter_map,spentSince_ledgerRow,hspent _ _ (List.filter_subset_self _)]
    rfl
  have hblast : Reaches healthy (exceeded metered restart (blastBudget restart) once) s false s := by
    refine reaches_exceeded rfl rfl Int.one_pos rfl hrows ?_
    rw [List.filter_map,spentSince_ledgerRow,hspent _ _ (List.filter_subset_self _)]
    rfl
  refine reaches_decide ⟨_,rfl,rfl⟩ (reaches_rule hrules)
    (reaches_ruled_autonomous (.inl rfl) rfl hdigest (reaches_passing hrate hblast rfl ?_)) ?_
  · rfl
  · exact reaches_bindDecisionReceipt rfl hdigest hfresh
      (.inr (receipted_isSome hdigest (isBounded_serial k) (by decide) rfl))

def onwards : ℕ → ℕ → List Act
  | 0, k => [.decided restart (answered allowance (k+1)) 0]
  | n + 1, k => .decided restart (answered refusal (k+1)) 0 :: onwards n (k+1)

def flood : List Act := .decided restart (answered allowance 0) 0 :: onwards 500 0

theorem acting_onwards (hdigest : restart.digest = .ok digest) (n k : ℕ) (hk : k+n = 500) :
    ∃ s, Acting metered (fun _ _ => True) (flooded digest k) (onwards n k) s := by
  induction n generalizing k with
  | zero =>
    have hrows : Limited ledgerScanLimit ((flooded digest k).ledger restart.kind) (refusals digest k) := by
      rw [ledger_flooded]
      refine ⟨(List.sublist_cons_self _ _).subperm,?_⟩
      simp [flooded,refusals,ledgerScanLimit]
      omega
    have hnone : ∀ d ∈ refusals digest k, d.2.decision.allowing = false := by
      intro d hd
      obtain ⟨j,_,rfl⟩ := List.mem_map.mp hd
      rfl
    exact ⟨_,.cons trivial ⟨reaches_allowance hdigest rfl (fresh_flooded digest (by omega)) hrows hnone,rfl⟩ (.nil _)⟩
  | succ n ih =>
    obtain ⟨s,hs⟩ := ih (k+1) (by omega)
    exact ⟨s,.cons trivial ⟨reaches_refusal hdigest (by omega),rfl⟩ hs⟩

theorem reaches_first (hdigest : restart.digest = .ok digest) :
    Reaches healthy (decide metered restart) .blank (answered allowance 0) (flooded digest 0) :=
  reaches_allowance hdigest rfl ⟨List.not_mem_nil,List.not_mem_nil⟩ (limited_take ledgerScanLimit []) fun _ hd =>
    absurd hd List.not_mem_nil

theorem acting_flood : ∃ s, Acting metered (fun _ _ => True) .blank flood s := by
  obtain ⟨digest,hdigest⟩ : ∃ digest, restart.digest = .ok digest := ⟨_,rfl⟩
  obtain ⟨s,hs⟩ := acting_onwards hdigest 500 0 rfl
  exact ⟨s,.cons trivial ⟨reaches_first hdigest,rfl⟩ hs⟩

theorem limits_metered : Limits metered metered.defaultRule 1 3600 1 3600 :=
  ⟨⟨once,rfl,rfl,rfl⟩,⟨once,rfl,rfl,rfl⟩,Int.one_pos,Int.one_pos⟩

theorem fixed_metered (acts : List Act) : FixedRule metered [] metered.defaultRule acts := by
  rintro request d time _ rows ⟨_,hlength⟩
  obtain rfl := List.length_eq_zero_iff.mp hlength
  rfl

theorem spends_allowance (hk : k < 1000) :
    (Act.decided restart (answered allowance k) 0).spends restart.kind 0 3600 = some restart.target := by
  obtain ⟨digest,hdigest⟩ : ∃ digest, restart.digest = .ok digest := ⟨_,rfl⟩
  have hallowed : (answered allowance k).allowed = true :=
    (allowed_receipted _ _).mpr ⟨rfl,receipted_isSome hdigest (isBounded_serial k) (by decide) rfl⟩
  unfold Act.spends
  exact if_pos ⟨rfl,hallowed,rfl,le_rfl,by norm_num⟩

theorem spends_refusal (k : ℕ) : (Act.decided restart (answered refusal k) 0).spends restart.kind 0 3600 = none := by
  refine if_neg fun h => ?_
  cases ((allowed_receipted _ _).mp h.2.1).1

theorem spends_onwards (n k : ℕ) (hk : k+n < 999) :
    (onwards n k).filterMap (Act.spends restart.kind 0 3600) = [restart.target] := by
  induction n generalizing k with
  | zero => exact List.filterMap_cons_some (spends_allowance (by omega))
  | succ n ih =>
    unfold onwards
    rw [List.filterMap_cons_none (spends_refusal _)]
    exact ih (k+1) (by omega)

end Fixture

open Fixture in
/-- Two restarts are allowed within the hour, where the budget is one. -/
theorem flood_exceeds_budget : (∃ s, Acting metered (fun _ _ => True) .blank flood s) ∧
    Limits metered metered.defaultRule 1 3600 1 3600 ∧ FixedRule metered Store.blank.rules metered.defaultRule flood ∧
    ¬((flood.filterMap (Act.spends restart.kind 0 3600)).count restart.target : ℤ) ≤ 1 := by
  refine ⟨acting_flood,limits_metered,fixed_metered _,?_⟩
  unfold flood
  rw [List.filterMap_cons_some (spends_allowance (by decide)),spends_onwards 500 0 (by decide)]
  decide

open Fixture in
theorem budgets_hold_once :
    (([Act.decided restart (answered allowance 0) 0].filterMap (Act.spends restart.kind 0 3600)).count restart.target : ℤ) ≤
      1 := by
  obtain ⟨digest,hdigest⟩ : ∃ digest, restart.digest = .ok digest := ⟨_,rfl⟩
  have hacting : Acting metered (fun s act => act.Scanned s) .blank [.decided restart (answered allowance 0) 0]
      (flooded digest 0) := .cons (Nat.zero_le _) ⟨reaches_first hdigest,rfl⟩ (.nil _)
  exact (budgets_hold metered limits_metered (fixed_metered _) hacting restart.kind 0).1 restart.target

end

end Arbora.Autonomy
