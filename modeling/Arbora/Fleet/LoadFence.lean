import Arbora.Fleet.LoadInvariant

/-! Grants outlive what they were given for; what they can still do is bound to one generation. -/
namespace Arbora.Fleet.SessionLoads
open Machine
variable {clock : ℕ → ℚ} {s t u : SessionLoads} {key item : String} {G : Generation}

def gen (s : SessionLoads) (key item : String) : Option Generation :=
  (s.sessions.get key).bind (·.generations.get item)
def visible (s : SessionLoads) (key item : String) : Prop := ∃ x ∈ s.sessions.get key, x.items.get item ≠ none
def isOneShot (s : SessionLoads) (key item : String) : Prop := ∃ x ∈ s.sessions.get key, item ∈ x.oneShot

def Derived (key : String) (low high : ℕ) (x y : Session) : Prop := ∀ item G, y.generations.get item = some G →
  (x.generations.get item = some G ∧
    (y.items.get item ≠ none → x.items.get item ≠ none ∧ (item ∈ x.oneShot → item ∈ y.oneShot))) ∨
  (G.key = key ∧ G.item = item ∧ low ≤ G.id ∧ G.id < high ∧
    (y.items.get item ≠ none → G.autoUnload = true → item ∈ y.oneShot))

structure Follows (s t : SessionLoads) : Prop where
  objects : s.nextObject ≤ t.nextObject
  grants : ∀ (i : ℕ) (g : LoadGrant), s.grants[i]? = some g → ∃ b, t.grants[i]? = some {g with dispatched := b}
  generations : ∀ key item G, t.gen key item = some G →
    (s.gen key item = some G ∧
      (t.visible key item → s.visible key item ∧ (s.isOneShot key item → t.isOneShot key item))) ∨
    (G.key = key ∧ G.item = item ∧ s.nextObject ≤ G.id ∧ G.id < t.nextObject ∧
      (t.visible key item → G.autoUnload = true → t.isOneShot key item))

theorem gen_eq {x : Session} (hget : s.sessions.get key = some x) : s.gen key item = x.generations.get item := by
  unfold gen
  rw [hget,Option.bind_some]

theorem visible_iff {x : Session} (hget : s.sessions.get key = some x) :
    s.visible key item ↔ x.items.get item ≠ none := by
  unfold visible
  rw [hget]
  simp

theorem isOneShot_iff {x : Session} (hget : s.sessions.get key = some x) :
    s.isOneShot key item ↔ item ∈ x.oneShot := by
  unfold isOneShot
  rw [hget]
  simp

theorem Follows.refl (s : SessionLoads) : Follows s s :=
  ⟨Nat.le_refl _,fun _ g hg => ⟨g.dispatched,hg⟩,fun _ _ _ hG => .inl ⟨hG,fun hvisible => ⟨hvisible,id⟩⟩⟩

theorem Follows.trans (hst : Follows s t) (htu : Follows t u) : Follows s u := by
  refine ⟨hst.objects.trans htu.objects,fun i g hg => ?_,fun key item G hG => ?_⟩
  · obtain ⟨b,hb⟩ := hst.grants i g hg
    obtain ⟨c,hc⟩ := htu.grants i _ hb
    exact ⟨c,hc⟩
  · rcases htu.generations key item G hG with ⟨hG',hlater⟩ | ⟨hkey,hitem,hlow,hhigh,hauto⟩
    · rcases hst.generations key item G hG' with ⟨hold,hearlier⟩ | ⟨hkey,hitem,hlow,hhigh,hauto⟩
      · refine .inl ⟨hold,fun hvisible => ?_⟩
        have hmiddle := hlater hvisible
        have hbefore := hearlier hmiddle.1
        exact ⟨hbefore.1,hmiddle.2 ∘ hbefore.2⟩
      · refine .inr ⟨hkey,hitem,hlow,hhigh.trans_le htu.objects,fun hvisible hloaded => ?_⟩
        have hmiddle := hlater hvisible
        exact hmiddle.2 (hauto hmiddle.1 hloaded)
    · exact .inr ⟨hkey,hitem,hst.objects.trans hlow,hhigh,hauto⟩

/-- A session that keeps its dictionaries, whatever else changes. -/
theorem Derived.of_same {low high : ℕ} {x y : Session} (hitems : y.items = x.items)
    (hgenerations : y.generations = x.generations) (honeShot : y.oneShot = x.oneShot) : Derived key low high x y := by
  intro item G hG
  rw [hgenerations] at hG
  rw [hitems,honeShot]
  exact .inl ⟨hG,fun hvisible => ⟨hvisible,id⟩⟩

theorem Derived.trans {low mid high : ℕ} {x y z : Session} (hlow : low ≤ mid) (hhigh : mid ≤ high)
    (hxy : Derived key low mid x y) (hyz : Derived key mid high y z) : Derived key low high x z := by
  intro item G hG
  rcases hyz item G hG with ⟨hG',hlater⟩ | ⟨hkey,hitem,hmid,hid,hauto⟩
  · rcases hxy item G hG' with ⟨hold,hearlier⟩ | ⟨hkey,hitem,hfrom,hid,hauto⟩
    · refine .inl ⟨hold,fun hvisible => ?_⟩
      have hmiddle := hlater hvisible
      have hbefore := hearlier hmiddle.1
      exact ⟨hbefore.1,hmiddle.2 ∘ hbefore.2⟩
    · refine .inr ⟨hkey,hitem,hfrom,hid.trans_le hhigh,fun hvisible hloaded => ?_⟩
      have hmiddle := hlater hvisible
      exact hmiddle.2 (hauto hmiddle.1 hloaded)
  · exact .inr ⟨hkey,hitem,hlow.trans hmid,hid,hauto⟩

theorem found_cases (clock : ℕ → ℚ) (s : SessionLoads) (key : String) :
    (∃ x, s.sessions.get key = some x ∧ clock s.reads-x.lastAccess < s.idleTtl.1 ∧
      s.found clock key = {x with lastAccess := clock s.reads}) ∨ s.found clock key = .fresh (clock s.reads) := by
  unfold found
  cases hget : s.sessions.get key with
  | none => exact .inr rfl
  | some x =>
    dsimp only
    split_ifs with hidle
    · exact .inr rfl
    · exact .inl ⟨x,rfl,not_le.mp hidle,rfl⟩

theorem Follows.of_put {y : Session} {low high : ℕ} (hlow : s.nextObject = low) (hhigh : t.nextObject = high)
    (hobjects : low ≤ high) (hgrants : t.grants = s.grants) (hsessions : ∀ other, t.sessions.get other =
      if other = key then some y else s.sessions.get other) (hderived : Derived key low high (s.found clock key) y) :
    Follows s t := by
  subst hlow hhigh
  refine ⟨hobjects,fun i g hg => ⟨g.dispatched,hgrants ▸ hg⟩,fun other item G hG => ?_⟩
  by_cases hother : other = key
  · subst hother
    have hget : t.sessions.get other = some y := (hsessions other).trans (if_pos rfl)
    rw [gen_eq hget] at hG
    rw [visible_iff hget,isOneShot_iff hget]
    rcases hderived item G hG with ⟨hold,hearlier⟩ | hnew
    · rcases found_cases clock s other with ⟨x,hx,-,hfound⟩ | hfresh
      · rw [gen_eq hx,visible_iff hx,isOneShot_iff hx]
        rw [hfound] at hold hearlier
        exact .inl ⟨hold,hearlier⟩
      · rw [hfresh] at hold
        cases hold
    · exact .inr hnew
  · have hget : t.sessions.get other = s.sessions.get other := (hsessions other).trans (if_neg hother)
    unfold gen visible isOneShot at *
    rw [hget] at hG ⊢
    exact .inl ⟨hG,fun hvisible => ⟨hvisible,id⟩⟩

theorem sessions_put (s : SessionLoads) (key : String) (x y : Session) (other : String) :
    (((s.put key x).put key y).sessions.get other) = if other = key then some y else s.sessions.get other := by
  unfold put
  rw [Dict.get_set,Dict.get_set]
  split_ifs
  · rfl
  · rfl

theorem lookedUp_follows (clock : ℕ → ℚ) (s : SessionLoads) (key : String) : Follows s (s.lookedUp clock key) :=
  .of_put rfl rfl (Nat.le_refl _) rfl (fun _ => Dict.get_set _ _ _ _) (.of_same rfl rfl rfl)

section
variable {x : Session} {low high : ℕ}

theorem remove_derived (x : Session) (item : String) : Derived key low high x (x.remove item) := by
  intro other G hG
  have hgeneration : (x.generations.pop item).get other = some G := hG
  rw [Dict.get_pop] at hgeneration
  split_ifs at hgeneration with hother
  have hitems : (x.remove item).items.get other = x.items.get other := Dict.get_pop_ne _ hother
  rw [hitems]
  exact .inl ⟨hgeneration,fun hvisible => ⟨hvisible,fun hone => Finset.mem_erase.mpr ⟨hother,hone⟩⟩⟩

theorem removeAll_derived (items : List String) (x : Session) : Derived key low low x (items.foldl Session.remove x) := by
  induction items generalizing x with
  | nil => exact .of_same rfl rfl rfl
  | cons item items ih =>
    exact (remove_derived x item).trans (Nat.le_refl _) (Nat.le_refl _) (ih (x.remove item))

theorem markLoaded_derived (x : Session) (name : String) (now : ℚ) (binding : List String) (next : ℕ) (autoUnload : Bool) :
    Derived key next (next+1) x (x.markLoaded name now binding ⟨next,key,name,autoUnload⟩) := by
  intro other G hG
  have hgeneration : (x.generations.set name ⟨next,key,name,autoUnload⟩).get other = some G := hG
  have hitems : (x.markLoaded name now binding ⟨next,key,name,autoUnload⟩).items.get other =
    if other = name then some now else x.items.get other := Dict.get_set _ _ _ _
  rw [Dict.get_set] at hgeneration
  unfold Session.markLoaded at hitems ⊢
  split_ifs at hgeneration with hother
  · obtain rfl := Option.some.inj hgeneration
    refine .inr ⟨rfl,hother.symm,Nat.le_refl _,Nat.lt_succ_self _,fun _ hauto => ?_⟩
    dsimp only at hauto ⊢
    rw [if_pos hauto,hother]
    exact Finset.mem_insert_self _ _
  · rw [if_neg hother] at hitems
    rw [hitems]
    refine .inl ⟨hgeneration,fun hvisible => ⟨hvisible,fun hone => ?_⟩⟩
    have herased : other ∈ x.oneShot.erase name := Finset.mem_erase.mpr ⟨hother,hone⟩
    dsimp only
    split_ifs
    · exact Finset.mem_insert_of_mem herased
    · exact herased

theorem markAll_derived {now : ℚ} {bindings : Option (Dict String (List String))} {autoUnload : Bool}
    (names : List String) (x : Session) (next : ℕ) :
    Derived key next (next+names.length) x (markAll key now bindings autoUnload names x next) := by
  induction names generalizing x next with
  | nil => exact .of_same rfl rfl rfl
  | cons name names ih =>
    have hrest := ih (x.markLoaded name now (bindingOf bindings name) ⟨next,key,name,autoUnload⟩) (next+1)
    rw [Nat.add_assoc,Nat.add_comm 1] at hrest
    have hhigh : next+1 ≤ next+(name :: names).length := by
      rw [List.length_cons]
      omega
    exact (markLoaded_derived x name now _ next autoUnload).trans (Nat.le_succ _) hhigh hrest

theorem stamp_derived {item : String} (hitem : x.items.get item ≠ none ∨ x.generations.get item = none) (now : ℚ) :
    Derived key low high x (x.stamp item now) := by
  intro other G hG
  have hgeneration : x.generations.get other = some G := hG
  refine .inl ⟨hgeneration,fun hvisible => ⟨?_,id⟩⟩
  have hset : (x.items.set item now).get other ≠ none := hvisible
  rw [Dict.get_set] at hset
  split_ifs at hset with hother
  · subst hother
    refine hitem.resolve_right fun hnone => ?_
    cases hnone.symm.trans hgeneration
  · exact hset

theorem consume_derived (x : Session) (item : String) : Derived key low high x (x.consume item) := by
  intro other G hG
  refine .inl ⟨hG,fun hvisible => ?_⟩
  have hpop : (x.items.pop item).get other ≠ none := hvisible
  rw [Dict.get_pop] at hpop
  split_ifs at hpop with hother
  · exact absurd rfl hpop
  · exact ⟨hpop,fun hone => Finset.mem_erase.mpr ⟨hother,hone⟩⟩

theorem changed_derived {y : Session} (h : Derived key low high x y) {p : Prop} [Decidable p] :
    Derived key low high x (if p then y.changed else y) := by
  split_ifs
  · exact h
  · exact h

end
theorem put_follows {y : Session} {r n : ℕ} (hn : s.nextObject ≤ n)
    (hderived : Derived key s.nextObject n (s.found clock key) y) :
    Follows s ({s.lookedUp clock key with reads := r, nextObject := n}.put key y) :=
  .of_put rfl rfl hn rfl (sessions_put s key (s.found clock key) y) hderived

theorem load_follows (clock : ℕ → ℚ) (s : SessionLoads) (key : String) (items : List String) (evict : Option String)
    (autoUnload : Bool) (bindings : Option (Dict String (List String))) :
    Follows s (s.load clock key items evict autoUnload bindings).2 := by
  unfold load
  dsimp only
  split_ifs
  · exact .refl s
  · split
    · exact lookedUp_follows clock s key
    · rename_i victims _
      refine put_follows (Nat.le_add_right _ _) (changed_derived ?_)
      exact (removeAll_derived victims _).trans (Nat.le_refl _) (Nat.le_add_right _ _) (markAll_derived _ _ _)

theorem unload_follows (clock : ℕ → ℚ) (s : SessionLoads) (key : String) (items : List String) :
    Follows s (s.unload clock key items).2 :=
  put_follows (Nat.le_refl _) (changed_derived (removeAll_derived _ _))

theorem claimed_follows {x : Session} (hget : s.sessions.get key = some x) (item : String) :
    Follows s (s.claimed key item x).2 := by
  unfold claimed
  split_ifs
  · refine ⟨Nat.le_succ _,fun i g hg => ⟨g.dispatched,hg⟩,fun other name G hG => .inl ?_⟩
    by_cases hother : other = key
    · subst hother
      have hput : ({s with nextObject := s.nextObject+1}.put other
        {x with claims := x.claims.set item s.nextObject}).sessions.get other =
          some {x with claims := x.claims.set item s.nextObject} := Dict.get_set_self _ _ _
      rw [gen_eq hput] at hG
      rw [gen_eq hget,visible_iff hput,visible_iff hget,isOneShot_iff hput,isOneShot_iff hget]
      exact ⟨hG,fun hvisible => ⟨hvisible,id⟩⟩
    · have hput : ({s with nextObject := s.nextObject+1}.put key
        {x with claims := x.claims.set item s.nextObject}).sessions.get other = s.sessions.get other :=
          Dict.get_set_ne _ _ hother
      unfold gen visible isOneShot at *
      rw [hput] at hG ⊢
      exact ⟨hG,fun hvisible => ⟨hvisible,id⟩⟩
  · exact .refl s

theorem grants_follow (s : SessionLoads) {grants : List LoadGrant}
    (hgrants : ∀ (i : ℕ) (g : LoadGrant), s.grants[i]? = some g → ∃ b, grants[i]? = some {g with dispatched := b}) :
    Follows s {s with grants} :=
  ⟨Nat.le_refl _,hgrants,fun _ _ _ hG => .inl ⟨hG,fun hvisible => ⟨hvisible,id⟩⟩⟩

theorem acquire_follows (clock : ℕ → ℚ) (s : SessionLoads) (key item : String) :
    Follows s (s.acquire clock key item).2 := by
  have hlooked := lookedUp_follows clock s key
  unfold acquire
  dsimp only
  split_ifs
  · exact hlooked
  · have hclaimed := hlooked.trans (claimed_follows (s := s.lookedUp clock key) (Dict.get_set_self _ _ _) item)
    split
    · refine hclaimed.trans (grants_follow _ fun i g hg => ⟨g.dispatched,?_⟩)
      rw [List.getElem?_append_left (List.getElem?_eq_some_iff.mp hg).1]
      exact hg
    · exact hclaimed

theorem dispatched_follow {i : ℕ} {g : LoadGrant} (hg : s.grants[i]? = some g) :
    Follows s {s with grants := s.grants.set i {g with dispatched := true}} := by
  refine grants_follow s fun j g' hg' => ?_
  rw [List.getElem?_set]
  split_ifs with hij hlt
  · subst hij
    obtain rfl := Option.some.inj (hg.symm.trans hg')
    exact ⟨true,rfl⟩
  · exact absurd (List.getElem?_eq_some_iff.mp hg).1 hlt
  · exact ⟨g'.dispatched,hg'⟩

theorem holds_eq_true {x : Session} {g : LoadGrant} : x.holds g = true ↔
    x.generations.get g.item = some g.generation ∧ x.bindings.get g.item = some g.binding ∧
      (g.claim = none ∨ x.claims.get g.item = g.claim) ∧ (x.items.get g.item ≠ none ∨ g.dispatched = true) := by
  unfold Session.holds
  simp only [Bool.and_eq_true,Bool.or_eq_true,decide_eq_true_eq,Option.isSome_iff_ne_none,and_assoc]

theorem dispatch_cases (clock : ℕ → ℚ) (s : SessionLoads) (i : ℕ) (g : LoadGrant) :
    ((s.dispatch clock i g).1 = .holds false ∧
      ((s.dispatch clock i g).2 = s ∨ (s.dispatch clock i g).2 = s.lookedUp clock g.key)) ∨
    ((s.dispatch clock i g).1 = .holds true ∧ g.dispatched = false ∧ (s.found clock g.key).holds g = true) := by
  unfold dispatch
  split_ifs with hrefused hdispatched
  · exact .inl ⟨rfl,.inl rfl⟩
  · exact .inl ⟨rfl,.inr rfl⟩
  · rw [Bool.or_eq_true,not_or,Bool.not_eq_true,Bool.not_eq_true,Bool.not_eq_false'] at hrefused
    refine .inr ⟨?_,hrefused.1,hrefused.2⟩
    dsimp only
    split <;> rfl

theorem stamped_again {g : LoadGrant} (hget : t.sessions.get g.key = some (s.found clock g.key))
    (hvisible : (s.found clock g.key).items.get g.item ≠ none) :
    (t.found clock g.key).items.get g.item ≠ none ∨ (t.found clock g.key).generations.get g.item = none := by
  rcases found_cases clock t g.key with ⟨x,hx,-,hfound⟩ | hfresh
  · obtain rfl := Option.some.inj (hget.symm.trans hx)
    rw [hfound]
    exact .inl hvisible
  · rw [hfresh]
    exact .inr rfl

theorem dispatch_follows (clock : ℕ → ℚ) {i : ℕ} {g : LoadGrant} (hg : s.grants[i]? = some g) :
    Follows s (s.dispatch clock i g).2 := by
  have hlooked := lookedUp_follows clock s g.key
  rcases dispatch_cases clock s i g with ⟨-,hsame | hsame⟩ | ⟨-,hfresh,hholds⟩
  · rw [hsame]
    exact .refl s
  · rw [hsame]
    exact hlooked
  · let t : SessionLoads := {s.lookedUp clock g.key with grants := s.grants.set i {g with dispatched := true}}
    have ht : Follows s t := hlooked.trans (dispatched_follow (s := s.lookedUp clock g.key) hg)
    have hvisible := ((holds_eq_true.mp hholds).2.2.2).resolve_right (by rw [hfresh]; exact Bool.false_ne_true)
    have hnot : (g.dispatched || !(s.found clock g.key).holds g) ≠ true := by
      rw [hfresh,hholds]
      exact Bool.false_ne_true
    unfold dispatch
    rw [if_neg hnot]
    dsimp only
    refine ht.trans ?_
    have hconsumed : Follows t ((t.lookedUp clock g.key).put g.key ((t.found clock g.key).consume g.item)) :=
      put_follows (Nat.le_refl _) (consume_derived _ _)
    have hstamped : Follows t ((t.lookedUp clock g.key).ticked.put g.key
        ((t.found clock g.key).stamp g.item (clock (t.lookedUp clock g.key).reads))) :=
      put_follows (Nat.le_refl _) (stamp_derived (stamped_again (Dict.get_set_self _ _ _) hvisible) _)
    split
    · exact hconsumed
    · exact hstamped

theorem revoke_follows (clock : ℕ → ℚ) (s : SessionLoads) (g : LoadGrant) : Follows s (s.revoke clock g).2 := by
  have hlooked := lookedUp_follows clock s g.key
  unfold revoke
  split_ifs
  · exact hlooked
  · exact hlooked.trans (unload_follows clock _ g.key [g.item])

theorem release_follows (clock : ℕ → ℚ) (s : SessionLoads) (g : LoadGrant) : Follows s (s.release clock g).2 := by
  have hlooked := lookedUp_follows clock s g.key
  unfold release
  dsimp only
  split_ifs
  · exact hlooked
  · exact put_follows (Nat.le_refl _) (remove_derived _ _)
  · exact put_follows (Nat.le_refl _) (.of_same rfl rfl rfl)
  · exact hlooked

theorem touch_follows (clock : ℕ → ℚ) (s : SessionLoads) (key item : String) : Follows s (s.touch clock key item).2 := by
  have hlooked := lookedUp_follows clock s key
  unfold touch
  dsimp only
  split_ifs with hnone hone
  · exact hlooked
  all_goals
    have hitem : (s.found clock key).items.get item ≠ none := by
      intro hget
      rw [hget] at hnone
      exact hnone rfl
    have hstamped : Follows s ((s.lookedUp clock key).ticked.put key
        ((s.found clock key).stamp item (clock (s.lookedUp clock key).reads))) :=
      put_follows (Nat.le_refl _) (stamp_derived (.inl hitem) _)
  · exact hstamped.trans (unload_follows clock _ key [item])
  · exact hstamped

/-- No operation brings a generation back, or makes one more visible. -/
theorem step_follows (clock : ℕ → ℚ) (s : SessionLoads) (op : Op) : Follows s (step clock s op).2 := by
  unfold step
  cases op with
  | load key items evict autoUnload bindings => exact load_follows clock s key items evict autoUnload bindings
  | unload key items => exact unload_follows clock s key items
  | acquire key item => exact acquire_follows clock s key item
  | current i =>
    dsimp only
    split
    · exact .refl s
    · exact lookedUp_follows clock s _
  | dispatch i =>
    dsimp only
    split
    · exact .refl s
    · rename_i g hg
      exact dispatch_follows clock hg
  | revoke i =>
    dsimp only
    split
    · exact .refl s
    · exact revoke_follows clock s _
  | release i =>
    dsimp only
    split
    · exact .refl s
    · exact release_follows clock s _
  | touch key item => exact touch_follows clock s key item
inductive GrantCase (clock : ℕ → ℚ) (s : SessionLoads) (op : Op) (answer : Answer) (t : SessionLoads) : Prop
  | same (hgrants : t.grants = s.grants) (hanswer : ∀ i, op = .dispatch i → answer ≠ .holds true)
  | added (key item : String) (generation : Generation) (binding : List String) (claim : Option ℕ)
      (hop : op = .acquire key item) (hgeneration : (s.found clock key).generations.get item = some generation)
      (hvisible : (s.found clock key).items.get item ≠ none)
      (hclaim : item ∈ (s.found clock key).oneShot → claim ≠ none)
      (hgrants : t.grants = s.grants ++ [⟨key,item,generation,binding,claim,false⟩])
  | dispatched (i : ℕ) (g : LoadGrant) (hop : op = .dispatch i) (hg : s.grants[i]? = some g)
      (hfresh : g.dispatched = false) (hholds : (s.found clock g.key).holds g = true) (hanswer : answer = .holds true)
      (hgrants : t.grants = s.grants.set i {g with dispatched := true})
      (hconsumed : g.claim ≠ none → ¬ t.visible g.key g.item)

theorem acquire_grants (clock : ℕ → ℚ) (s : SessionLoads) (key item : String) :
    GrantCase clock s (.acquire key item) (s.acquire clock key item).1 (s.acquire clock key item).2 := by
  have hnot (i : ℕ) : Op.acquire key item = .dispatch i → (s.acquire clock key item).1 ≠ .holds true := by
    intro h
    cases h
  have hclaimed (r : SessionLoads) (x : Session) : (r.claimed key item x).2.grants = r.grants := by
    unfold claimed
    split_ifs <;> rfl
  generalize hanswer : (s.acquire clock key item).1 = answer at hnot ⊢
  clear hanswer
  unfold acquire
  dsimp only
  split_ifs with hnone
  · exact .same rfl hnot
  · split
    · rename_i generation binding hgeneration _
      refine .added key item generation binding ((s.lookedUp clock key).claimed key item (s.found clock key)).1 rfl
        hgeneration (ne_none_of_not_isNone hnone) (fun hone => ?_) ?_
      · unfold claimed
        rw [if_pos hone]
        exact Option.some_ne_none _
      · exact congrArg (· ++ _) (hclaimed _ _)
    · exact .same (hclaimed _ _) hnot

theorem dispatch_grants (clock : ℕ → ℚ) {i : ℕ} {g : LoadGrant} (hg : s.grants[i]? = some g) :
    GrantCase clock s (.dispatch i) (s.dispatch clock i g).1 (s.dispatch clock i g).2 := by
  rcases dispatch_cases clock s i g with ⟨hfalse,hsame | hsame⟩ | ⟨htrue,hfresh,hholds⟩
  · rw [hfalse,hsame]
    exact .same rfl fun _ _ => by decide
  · rw [hfalse,hsame]
    exact .same rfl fun _ _ => by decide
  · refine .dispatched i g rfl hg hfresh hholds htrue ?_ fun hclaim hvisible => ?_
    · have hnot : (g.dispatched || !(s.found clock g.key).holds g) ≠ true := by
        rw [hfresh,hholds]
        exact Bool.false_ne_true
      unfold dispatch
      rw [if_neg hnot]
      dsimp only
      split
      · rfl
      · rfl
    · have hnot : (g.dispatched || !(s.found clock g.key).holds g) ≠ true := by
        rw [hfresh,hholds]
        exact Bool.false_ne_true
      unfold dispatch at hvisible
      rw [if_neg hnot] at hvisible
      dsimp only at hvisible
      split at hvisible
      · rw [visible_iff (Dict.get_set_self _ _ _)] at hvisible
        exact hvisible (Dict.get_pop_self _ _)
      · rename_i hnone
        exact hclaim hnone

theorem step_grants (clock : ℕ → ℚ) (s : SessionLoads) (op : Op) :
    GrantCase clock s op (step clock s op).1 (step clock s op).2 := by
  unfold step
  cases op with
  | load key items evict autoUnload bindings =>
    refine .same ?_ fun i h => by cases h
    dsimp only
    unfold load
    dsimp only
    split_ifs
    · rfl
    · split
      · rfl
      · rfl
  | unload key items => exact .same rfl fun i h => by cases h
  | acquire key item => exact acquire_grants clock s key item
  | current i =>
    refine .same ?_ fun i h => by cases h
    dsimp only
    split <;> rfl
  | dispatch i =>
    dsimp only
    split
    · exact .same rfl fun _ _ h => by cases h
    · rename_i g hg
      exact dispatch_grants clock hg
  | revoke i =>
    refine .same ?_ fun i h => by cases h
    dsimp only
    split
    · rfl
    · unfold revoke
      split_ifs
      · rfl
      · rfl
  | release i =>
    refine .same ?_ fun i h => by cases h
    dsimp only
    split
    · rfl
    · unfold release
      dsimp only
      split_ifs <;> rfl
  | touch key item =>
    refine .same ?_ fun i h => by cases h
    dsimp only
    unfold touch
    dsimp only
    split_ifs <;> rfl

structure Fenced (s : SessionLoads) : Prop where
  tag : ∀ key item G, s.gen key item = some G → G.key = key ∧ G.item = item ∧ G.id < s.nextObject
  oneShot : ∀ key item G, s.gen key item = some G → G.autoUnload = true → s.visible key item → s.isOneShot key item
  grant : ∀ g ∈ s.grants, g.generation.key = g.key ∧ g.generation.item = g.item ∧ g.generation.id < s.nextObject ∧
    (g.generation.autoUnload = true → g.claim ≠ none)
  /-- A dispatched one-shot is not visible any more. -/
  spent : ∀ g ∈ s.grants, g.dispatched = true → g.generation.autoUnload = true →
    s.gen g.key g.item = some g.generation → ¬ s.visible g.key g.item

theorem new_fenced (cap : {n : ℕ // 1 ≤ n ∧ n ≤ 256}) (idleTtl : {n : ℤ // 1 ≤ n}) : (new cap idleTtl).Fenced := by
  refine ⟨fun key item G h => ?_,fun key item G h => ?_,fun g hg => ?_,fun g hg => ?_⟩
  · cases h
  · cases h
  · cases hg
  · cases hg

theorem Follows.spent (h : Follows s t) (hs : s.Fenced) {g : LoadGrant} (hg : g ∈ s.grants)
    (hdispatched : g.dispatched = true) (hauto : g.generation.autoUnload = true)
    (hgen : t.gen g.key g.item = some g.generation) : ¬ t.visible g.key g.item := by
  intro hvisible
  rcases h.generations _ _ _ hgen with ⟨hold,hbefore⟩ | ⟨-,-,hlow,-⟩
  · exact hs.spent g hg hdispatched hauto hold (hbefore hvisible).1
  · exact absurd (hs.grant g hg).2.2.1 (Nat.not_lt.mpr hlow)

theorem found_gen {generation : Generation} (h : (s.found clock key).generations.get item = some generation) :
    s.gen key item = some generation ∧ ((s.found clock key).items.get item ≠ none → s.visible key item) ∧
      (s.isOneShot key item → item ∈ (s.found clock key).oneShot) := by
  rcases found_cases clock s key with ⟨x,hx,-,hfound⟩ | hfresh
  · rw [hfound] at h ⊢
    rw [gen_eq hx,visible_iff hx,isOneShot_iff hx]
    exact ⟨h,id,id⟩
  · rw [hfresh] at h
    cases h

theorem step_fenced (clock : ℕ → ℚ) (s : SessionLoads) (op : Op) (hs : s.Fenced) : (step clock s op).2.Fenced := by
  have hfollows := step_follows clock s op
  have hgrants := step_grants clock s op
  generalize (step clock s op).1 = answer at hgrants
  generalize (step clock s op).2 = t at hfollows hgrants ⊢
  refine ⟨fun key item G hG => ?_,fun key item G hG hauto hvisible => ?_,fun g hg => ?_,fun g hg hdispatched hauto hgen => ?_⟩
  · rcases hfollows.generations key item G hG with ⟨hold,-⟩ | ⟨hkey,hitem,-,hhigh,-⟩
    · obtain ⟨hkey,hitem,hid⟩ := hs.tag key item G hold
      exact ⟨hkey,hitem,hid.trans_le hfollows.objects⟩
    · exact ⟨hkey,hitem,hhigh⟩
  · rcases hfollows.generations key item G hG with ⟨hold,hbefore⟩ | ⟨-,-,-,-,hnew⟩
    · obtain ⟨hvisible',hone⟩ := hbefore hvisible
      exact hone (hs.oneShot key item G hold hauto hvisible')
    · exact hnew hvisible hauto
  · have hold : ∀ g ∈ s.grants, g.generation.key = g.key ∧ g.generation.item = g.item ∧
        g.generation.id < t.nextObject ∧ (g.generation.autoUnload = true → g.claim ≠ none) := by
      intro g hg
      obtain ⟨hkey,hitem,hid,hclaim⟩ := hs.grant g hg
      exact ⟨hkey,hitem,hid.trans_le hfollows.objects,hclaim⟩
    cases hgrants with
    | same hsame => exact hold g (hsame ▸ hg)
    | added key item generation binding claim _ hgeneration hvisible hclaim hadded =>
      rw [hadded] at hg
      rcases List.mem_append.mp hg with hg | hg
      · exact hold g hg
      · rw [List.mem_singleton.mp hg]
        obtain ⟨hgen,hthere,hone⟩ := found_gen hgeneration
        obtain ⟨hkey,hitem,hid⟩ := hs.tag key item generation hgen
        exact ⟨hkey,hitem,hid.trans_le hfollows.objects,
          fun hauto => hclaim (hone (hs.oneShot key item generation hgen hauto (hthere hvisible)))⟩
    | dispatched i g' _ hg' _ _ _ hset =>
      rw [hset] at hg
      rcases List.mem_or_eq_of_mem_set hg with hg | rfl
      · exact hold g hg
      · exact hold g' (List.mem_of_getElem? hg')
  · cases hgrants with
    | same hsame => exact hfollows.spent hs (hsame ▸ hg) hdispatched hauto hgen
    | added key item generation binding claim _ _ _ _ hadded =>
      rw [hadded] at hg
      rcases List.mem_append.mp hg with hg | hg
      · exact hfollows.spent hs hg hdispatched hauto hgen
      · rw [List.mem_singleton.mp hg] at hdispatched
        cases hdispatched
    | dispatched i g' _ hg' _ _ _ hset hconsumed =>
      rw [hset] at hg
      rcases List.mem_or_eq_of_mem_set hg with hg | rfl
      · exact hfollows.spent hs hg hdispatched hauto hgen
      · exact hconsumed ((hs.grant g' (List.mem_of_getElem? hg')).2.2.2 hauto)

def Dispatches (clock : ℕ → ℚ) (G : Generation) (s : SessionLoads) : Op → Bool
  | .dispatch i => (s.grants[i]?).any (fun g => g.generation = G) && (step clock s (.dispatch i)).1 = .holds true
  | _ => false

structure DispatchedOnce (G : Generation) (k : ℕ) (s : SessionLoads) : Prop where
  fenced : s.Fenced
  once : k ≤ 1
  trace : 0 < k → ∃ g ∈ s.grants, g.dispatched = true ∧ g.generation = G

theorem trace_kept {op : Op} {answer : Answer} (h : GrantCase clock s op answer t)
    (htrace : ∃ g ∈ s.grants, g.dispatched = true ∧ g.generation = G) :
    ∃ g ∈ t.grants, g.dispatched = true ∧ g.generation = G := by
  obtain ⟨g,hg,hdispatched,hgeneration⟩ := htrace
  cases h with
  | same hsame => exact ⟨g,hsame ▸ hg,hdispatched,hgeneration⟩
  | added _ _ _ _ _ _ _ _ _ hadded =>
    rw [hadded]
    exact ⟨g,List.mem_append_left _ hg,hdispatched,hgeneration⟩
  | dispatched i g' _ hg' _ _ _ hset =>
    rw [hset]
    obtain ⟨j,hj⟩ := List.mem_iff_getElem?.mp hg
    have hlt := (List.getElem?_eq_some_iff.mp hg').1
    by_cases hij : i = j
    · subst hij
      obtain rfl := Option.some.inj (hj.symm.trans hg')
      exact ⟨{g with dispatched := true},List.mem_set hlt _,rfl,hgeneration⟩
    · refine ⟨g,List.mem_of_getElem? (i := j) ?_,hdispatched,hgeneration⟩
      rw [List.getElem?_set_ne hij]
      exact hj

theorem dispatchedOnce_step (hauto : G.autoUnload = true) (k : ℕ) (s : SessionLoads) (op : Op)
    (hs : DispatchedOnce G k s) :
    DispatchedOnce G (k+if Dispatches clock G s op then 1 else 0) (step clock s op).2 := by
  have hgrants := step_grants clock s op
  have hfenced := step_fenced clock s op hs.fenced
  cases hdispatches : Dispatches clock G s op with
  | false => exact ⟨hfenced,hs.once,fun hk => trace_kept hgrants (hs.trace hk)⟩
  | true =>
    cases op with
    | dispatch i =>
      unfold Dispatches at hdispatches
      rw [Bool.and_eq_true,decide_eq_true_iff] at hdispatches
      obtain ⟨hgeneration,htrue⟩ := hdispatches
      cases hgrants with
      | same _ hanswer => exact absurd htrue (hanswer i rfl)
      | added _ _ _ _ _ hop => cases hop
      | dispatched j g hop hg hfresh hholds _ hset =>
        obtain rfl := Op.dispatch.inj hop
        rw [hg,Option.any_some,decide_eq_true_iff] at hgeneration
        subst hgeneration
        have hgood := holds_eq_true.mp hholds
        have hvisible := hgood.2.2.2.resolve_right (by rw [hfresh]; exact Bool.false_ne_true)
        obtain ⟨hgen,hthere,-⟩ := found_gen hgood.1
        -- another dispatched grant of this generation would have made it invisible
        have hzero : k = 0 := by
          by_contra hne
          obtain ⟨g',hg',hdispatched,hsame⟩ := hs.trace (Nat.pos_of_ne_zero hne)
          have htag := hs.fenced.grant g (List.mem_of_getElem? hg)
          have htag' := hs.fenced.grant g' hg'
          rw [hsame] at htag'
          have hkey : g'.key = g.key := htag'.1.symm.trans htag.1
          have hitem : g'.item = g.item := htag'.2.1.symm.trans htag.2.1
          refine hs.fenced.spent g' hg' hdispatched (hsame ▸ hauto) ?_ ?_
          · rw [hkey,hitem,hsame]
            exact hgen
          · rw [hkey,hitem]
            exact hthere hvisible
        subst hzero
        refine ⟨hfenced,Nat.le_refl 1,fun _ => ⟨{g with dispatched := true},?_,rfl,rfl⟩⟩
        rw [hset]
        exact List.mem_set (List.getElem?_eq_some_iff.mp hg).1 _
    | load => cases hdispatches
    | unload => cases hdispatches
    | acquire => cases hdispatches
    | current => cases hdispatches
    | revoke => cases hdispatches
    | release => cases hdispatches
    | touch => cases hdispatches

def Current (clock : ℕ → ℚ) (s : SessionLoads) (g : LoadGrant) : Prop :=
  ∃ x, s.sessions.get g.key = some x ∧ clock s.reads-x.lastAccess < s.idleTtl.1 ∧
    x.generations.get g.item = some g.generation ∧ x.bindings.get g.item = some g.binding ∧
    x.items.get g.item ≠ none ∧ (g.claim = none ∨ x.claims.get g.item = g.claim)

theorem dispatch_current {i : ℕ} (h : (step clock s (.dispatch i)).1 = .holds true) :
    ∃ g, s.grants[i]? = some g ∧ g.dispatched = false ∧ s.Current clock g := by
  cases step_grants clock s (.dispatch i) with
  | same _ hanswer => exact absurd h (hanswer i rfl)
  | added _ _ _ _ _ hop => cases hop
  | dispatched j g hop hg hfresh hholds _ _ =>
    obtain rfl := Op.dispatch.inj hop
    obtain ⟨hgeneration,hbinding,hclaim,hvisible⟩ := holds_eq_true.mp hholds
    have hvisible := hvisible.resolve_right (by rw [hfresh]; exact Bool.false_ne_true)
    refine ⟨g,hg,hfresh,?_⟩
    rcases found_cases clock s g.key with ⟨x,hx,hidle,hfound⟩ | hnew
    · rw [hfound] at hgeneration hbinding hclaim hvisible
      exact ⟨x,hx,hidle,hgeneration,hbinding,hvisible,hclaim⟩
    · rw [hnew] at hgeneration
      cases hgeneration

theorem gen_of_after (ops : List Op) (hid : G.id < s.nextObject)
    (h : (after (step clock) s ops).gen key item = some G) : s.gen key item = some G := by
  induction ops generalizing s with
  | nil => exact h
  | cons op ops ih =>
    have hfollows := step_follows clock s op
    have hnext := ih (hid.trans_le hfollows.objects) h
    rcases hfollows.generations key item G hnext with ⟨hold,-⟩ | ⟨-,-,hlow,-⟩
    · exact hold
    · exact absurd hid (Nat.not_lt.mpr hlow)

theorem along_of_after (ops : List Op) (hid : G.id < s.nextObject)
    (h : (after (step clock) s ops).gen key item = some G) :
    Along (step clock) (fun t _ => t.gen key item = some G) s ops := by
  induction ops generalizing s with
  | nil => trivial
  | cons op ops ih =>
    exact ⟨gen_of_after (op :: ops) hid h,ih (hid.trans_le (step_follows clock s op).objects) h⟩

theorem follows_after (clock : ℕ → ℚ) (s : SessionLoads) (ops : List Op) : Follows s (after (step clock) s ops) := by
  induction ops generalizing s with
  | nil => exact .refl s
  | cons op ops ih => exact (step_follows clock s op).trans (ih _)

section
variable {x : Session} {g : LoadGrant}

def SameAt (item : String) (x y : Session) : Prop :=
  y.items.get item = x.items.get item ∧ y.generations.get item = x.generations.get item ∧
    y.bindings.get item = x.bindings.get item ∧ y.claims.get item = x.claims.get item ∧
    (item ∈ y.oneShot ↔ item ∈ x.oneShot)

theorem sameAt_remove {other : String} (hne : item ≠ other) : SameAt item x (x.remove other) :=
  ⟨Dict.get_pop_ne _ hne,Dict.get_pop_ne _ hne,Dict.get_pop_ne _ hne,Dict.get_pop_ne _ hne,
    Finset.mem_erase.trans (and_iff_right hne)⟩

theorem SameAt.trans {y z : Session} (hxy : SameAt item x y) (hyz : SameAt item y z) : SameAt item x z :=
  ⟨hyz.1.trans hxy.1,hyz.2.1.trans hxy.2.1,hyz.2.2.1.trans hxy.2.2.1,hyz.2.2.2.1.trans hxy.2.2.2.1,
    hyz.2.2.2.2.trans hxy.2.2.2.2⟩

theorem sameAt_removeAll {items : List String} (h : item ∉ items) : SameAt item x (items.foldl Session.remove x) := by
  induction items generalizing x with
  | nil => exact ⟨rfl,rfl,rfl,rfl,Iff.rfl⟩
  | cons other items ih =>
    rw [List.mem_cons,not_or] at h
    exact (sameAt_remove h.1).trans (ih h.2)

theorem unload_others {items : List String} (h : item ∉ items) :
    ∃ y, (s.unload clock key items).2.sessions.get key = some y ∧ SameAt item (s.found clock key) y := by
  unfold unload
  dsimp only
  refine ⟨_,Dict.get_set_self _ _ _,?_⟩
  have hremoved : item ∉ (items.eraseDups.filter fun item => ((s.found clock key).generations.get item).isSome).insertionSort
      (· ≤ ·) := by
    intro hmem
    have hfilter := (List.perm_insertionSort _ _).mem_iff.mp hmem
    exact h (List.mem_eraseDups.mp (List.mem_of_mem_filter hfilter))
  have hsame := sameAt_removeAll (x := s.found clock key) hremoved
  split_ifs
  · exact hsame
  · exact hsame

structure Unrelated (clock : ℕ → ℚ) (s : SessionLoads) (g : LoadGrant) (key item : String) (x : Session) : Prop where
  found : s.sessions.get key = some x
  other : key = g.key → item = g.item → x.generations.get item ≠ some g.generation
  idle : key = g.key → clock s.reads-x.lastAccess < s.idleTtl.1
  again : key = g.key → clock (s.reads+1)-clock s.reads < s.idleTtl.1

theorem Unrelated.lookedUp (h : Unrelated clock s g key item x) :
    ∃ y, (s.lookedUp clock g.key).sessions.get key = some y ∧ SameAt item x y ∧
      (key = g.key → y = s.found clock g.key ∧ y.generations.get g.item = x.generations.get g.item) := by
  by_cases hkey : key = g.key
  · have hfound : s.found clock g.key = {x with lastAccess := clock s.reads} := by
      rcases found_cases clock s g.key with ⟨x',hx',-,hfound⟩ | hnew
      · obtain rfl := Option.some.inj (h.found.symm.trans (hkey ▸ hx'))
        exact hfound
      · obtain ⟨x',hx'⟩ : ∃ x', s.sessions.get g.key = some x' := ⟨x,hkey ▸ h.found⟩
        obtain rfl := Option.some.inj (h.found.symm.trans (hkey ▸ hx'))
        unfold SessionLoads.found
        rw [hx']
        exact if_neg (not_le.mpr (h.idle hkey))
    refine ⟨s.found clock g.key,?_,?_,fun _ => ⟨rfl,?_⟩⟩
    · rw [hkey]
      exact Dict.get_set_self _ _ _
    · rw [hfound]
      exact ⟨rfl,rfl,rfl,rfl,Iff.rfl⟩
    · rw [hfound]
  · exact ⟨x,(Dict.get_set_ne _ _ hkey).trans h.found,⟨rfl,rfl,rfl,rfl,Iff.rfl⟩,fun hsame => absurd hsame hkey⟩

theorem revoke_others (h : Unrelated clock s g key item x) :
    ∃ y, (s.revoke clock g).2.sessions.get key = some y ∧ SameAt item x y := by
  obtain ⟨y,hy,hsame,hsession⟩ := h.lookedUp
  unfold revoke
  split_ifs with hgone
  · exact ⟨y,hy,hsame⟩
  · rw [not_not] at hgone
    by_cases hkey : key = g.key
    · obtain ⟨rfl,hgeneration⟩ := hsession hkey
      have hitem : item ∉ [g.item] := by
        intro hmem
        have hitem := List.mem_singleton.mp hmem
        refine h.other hkey hitem ?_
        rw [hitem,← hgeneration,hgone]
      have hunload : ∃ z, ((s.lookedUp clock g.key).unload clock g.key [g.item]).2.sessions.get g.key = some z ∧
          SameAt item ((s.lookedUp clock g.key).found clock g.key) z := unload_others hitem
      obtain ⟨z,hz,hrest⟩ := hunload
      have hagain : (s.lookedUp clock g.key).found clock g.key =
          {s.found clock g.key with lastAccess := clock (s.lookedUp clock g.key).reads} :=
        found_again (Dict.get_set_self _ _ _) rfl (h.again hkey)
      rw [hagain] at hrest
      exact ⟨z,hkey ▸ hz,hsame.trans hrest⟩
    · have hother : ((s.lookedUp clock g.key).unload clock g.key [g.item]).2.sessions.get key =
          (s.lookedUp clock g.key).sessions.get key := by
        unfold unload put SessionLoads.lookedUp
        dsimp only
        rw [Dict.get_set_ne _ _ hkey,Dict.get_set_ne _ _ hkey]
      exact ⟨y,hother.trans hy,hsame⟩

theorem release_others (h : Unrelated clock s g key item x) :
    ∃ y, (s.release clock g).2.sessions.get key = some y ∧ SameAt item x y := by
  obtain ⟨y,hy,hsame,hsession⟩ := h.lookedUp
  unfold release
  dsimp only
  by_cases hkey : key = g.key
  · obtain ⟨rfl,hgeneration⟩ := hsession hkey
    split_ifs with hgone
    · exact ⟨_,hy,hsame⟩
    all_goals
      rw [not_not] at hgone
      have hitem : item ≠ g.item := by
        intro hitem
        refine h.other hkey hitem ?_
        rw [hitem,← hgeneration,hgone]
    · refine ⟨_,?_,hsame.trans (sameAt_remove hitem)⟩
      rw [hkey]
      exact Dict.get_set_self _ _ _
    · refine ⟨{s.found clock g.key with claims := (s.found clock g.key).claims.pop g.item},?_,
        hsame.trans ⟨rfl,rfl,rfl,Dict.get_pop_ne _ hitem,Iff.rfl⟩⟩
      rw [hkey]
      exact Dict.get_set_self _ _ _
    · exact ⟨_,hy,hsame⟩
  · have hput (z : Session) : ((s.lookedUp clock g.key).put g.key z).sessions.get key = some y :=
      (Dict.get_set_ne _ _ hkey).trans hy
    split_ifs
    · exact ⟨y,hy,hsame⟩
    · exact ⟨y,hput _,hsame⟩
    · exact ⟨y,hput _,hsame⟩
    · exact ⟨y,hy,hsame⟩

end
end Arbora.Fleet.SessionLoads
