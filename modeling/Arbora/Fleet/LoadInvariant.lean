import Arbora.Fleet.SessionLoads
import Arbora.Lib.Totals

/-! What the dictionaries of a session have to do with each other. -/
namespace Arbora.Fleet
open Machine

namespace Session

/-- The dictionaries fit together. -/
structure Linked (x : Session) : Prop where
  generation : ∀ item, x.items.get item ≠ none → x.generations.get item ≠ none
  binding : ∀ item, x.generations.get item ≠ none ↔ x.bindings.get item ≠ none
  oneShot : ∀ item ∈ x.oneShot, x.items.get item ≠ none
  claim : ∀ item, x.claims.get item ≠ none → x.generations.get item ≠ none

structure Sound (cap : ℕ) (x : Session) : Prop where
  linked : x.Linked
  capped : x.size ≤ cap

variable {x : Session} {item : String} {cap : ℕ}

theorem fresh_sound (cap : ℕ) (now : ℚ) : (fresh now).Sound cap :=
  ⟨⟨fun _ h => absurd rfl h,fun _ => iff_of_false (absurd rfl) (absurd rfl),
    fun item h => absurd h (Finset.notMem_empty item),fun _ h => absurd rfl h⟩,Nat.zero_le cap⟩

theorem remove_linked (hx : x.Linked) (item : String) : (x.remove item).Linked := by
  refine ⟨fun other h => ?_,fun other => ?_,fun other h => ?_,fun other h => ?_⟩
  · unfold remove at h ⊢
    rw [Dict.get_pop] at h ⊢
    split_ifs at h ⊢
    · exact absurd rfl h
    · exact hx.generation other h
  · unfold remove
    rw [Dict.get_pop,Dict.get_pop]
    split_ifs
    · exact iff_of_false (absurd rfl) (absurd rfl)
    · exact hx.binding other
  · obtain ⟨hne,hmem⟩ := Finset.mem_erase.mp h
    unfold remove
    rw [Dict.get_pop_ne _ hne]
    exact hx.oneShot other hmem
  · unfold remove at h ⊢
    rw [Dict.get_pop] at h ⊢
    split_ifs at h ⊢
    · exact absurd rfl h
    · exact hx.claim other h

theorem removeAll_linked (hx : x.Linked) (items : List String) : (items.foldl remove x).Linked := by
  induction items generalizing x with
  | nil => exact hx
  | cons item items ih => exact ih (remove_linked hx item)

theorem markLoaded_linked (hx : x.Linked) (name : String) (now : ℚ) (binding : List String) (generation : Generation) :
    (x.markLoaded name now binding generation).Linked := by
  refine ⟨fun other h => ?_,fun other => ?_,fun other h => ?_,fun other h => ?_⟩
  · unfold markLoaded at h ⊢
    rw [Dict.get_set] at h ⊢
    split_ifs at h ⊢
    · exact Option.some_ne_none _
    · exact hx.generation other h
  · unfold markLoaded
    rw [Dict.get_set,Dict.get_set]
    split_ifs
    · exact iff_of_true (Option.some_ne_none _) (Option.some_ne_none _)
    · exact hx.binding other
  · unfold markLoaded at h ⊢
    rw [Dict.get_set]
    by_cases hname : other = name
    · rw [if_pos hname]
      exact Option.some_ne_none _
    · rw [if_neg hname]
      have hmem : other ∈ x.oneShot := by
        dsimp only at h
        split_ifs at h
        · exact Finset.mem_of_mem_erase ((Finset.mem_insert.mp h).resolve_left hname)
        · exact Finset.mem_of_mem_erase h
      exact hx.oneShot other hmem
  · unfold markLoaded at h ⊢
    rw [Dict.get_set]
    by_cases hname : other = name
    · rw [if_pos hname]
      exact Option.some_ne_none _
    · rw [if_neg hname]
      dsimp only at h
      rw [Dict.get_pop_ne _ hname] at h
      exact hx.claim other h

variable {now : ℚ} {autoUnload : Bool} {victims : List String} {bindings : Option (Dict String (List String))}

theorem markAll_linked {key : String} (hx : x.Linked) (names : List String) (next : ℕ) :
    (markAll key now bindings autoUnload names x next).Linked := by
  induction names generalizing x next with
  | nil => exact hx
  | cons name names ih => exact ih (markLoaded_linked hx _ _ _ _) _

theorem stamp_linked (hx : x.Linked) (hitem : x.generations.get item ≠ none) (now : ℚ) : (x.stamp item now).Linked := by
  refine ⟨fun other h => ?_,hx.binding,fun other h => ?_,hx.claim⟩
  · unfold stamp at h
    rw [Dict.get_set] at h
    by_cases hother : other = item
    · rw [hother]
      exact hitem
    · rw [if_neg hother] at h
      exact hx.generation other h
  · unfold stamp
    rw [Dict.get_set]
    split_ifs
    · exact Option.some_ne_none _
    · exact hx.oneShot other h

theorem consume_linked (hx : x.Linked) (item : String) : (x.consume item).Linked := by
  refine ⟨fun other h => ?_,hx.binding,fun other h => ?_,hx.claim⟩
  · unfold consume changed at h
    rw [Dict.get_pop] at h
    split_ifs at h
    · exact absurd rfl h
    · exact hx.generation other h
  · obtain ⟨hne,hmem⟩ := Finset.mem_erase.mp h
    unfold consume changed
    rw [Dict.get_pop_ne _ hne]
    exact hx.oneShot other hmem

theorem claim_linked (hx : x.Linked) (hitem : x.generations.get item ≠ none) (claim : ℕ) :
    Linked {x with claims := x.claims.set item claim} := by
  refine ⟨hx.generation,hx.binding,hx.oneShot,fun other h => ?_⟩
  rw [Dict.get_set] at h
  by_cases hother : other = item
  · rw [hother]
    exact hitem
  · rw [if_neg hother] at h
    exact hx.claim other h

theorem unclaim_linked (hx : x.Linked) (item : String) : Linked {x with claims := x.claims.pop item} := by
  refine ⟨hx.generation,hx.binding,hx.oneShot,fun other h => ?_⟩
  rw [Dict.get_pop] at h
  split_ifs at h
  · exact absurd rfl h
  · exact hx.claim other h

theorem size_remove_le (x : Session) (item : String) : (x.remove item).size ≤ x.size := by
  have h := Dict.length_keys_pop x.items item
  unfold size remove
  dsimp only
  omega

theorem size_removeAll_le (x : Session) (items : List String) : (items.foldl remove x).size ≤ x.size := by
  induction items generalizing x with
  | nil => exact Nat.le_refl _
  | cons item items ih => exact (ih _).trans (size_remove_le x item)

theorem size_removeAll {items : List String} (hnodup : items.Nodup) (hitems : ∀ item ∈ items, item ∈ x.items.keys) :
    (items.foldl remove x).size+items.length = x.size := by
  induction items generalizing x with
  | nil => rfl
  | cons item items ih =>
    rw [List.nodup_cons] at hnodup
    have hpop := Dict.length_keys_pop x.items item
    have hthere := Dict.mem_keys.mp (hitems item (List.mem_cons_self ..))
    rw [if_pos (Option.ne_none_iff_isSome.mp hthere)] at hpop
    have hrest : ∀ other ∈ items, other ∈ (x.remove item).items.keys := by
      intro other hother
      have hne : other ≠ item := by
        rintro rfl
        exact hnodup.1 hother
      rw [Dict.mem_keys]
      unfold remove
      rw [Dict.get_pop_ne _ hne]
      exact Dict.mem_keys.mp (hitems other (List.mem_cons_of_mem _ hother))
    have hsize := ih hnodup.2 hrest
    have hone : (x.remove item).size = (x.items.pop item).keys.length := rfl
    rw [List.foldl_cons,List.length_cons]
    unfold size at hsize hone ⊢
    omega

theorem size_markAll_le (key : String) (now : ℚ) (bindings : Option (Dict String (List String))) (autoUnload : Bool)
    (names : List String) (x : Session) (next : ℕ) : (markAll key now bindings autoUnload names x next).size ≤
      x.size+(names.filter fun name => (x.items.get name).isNone).length := by
  induction names generalizing x next with
  | nil => exact Nat.le_refl _
  | cons name names ih =>
    let y := x.markLoaded name now (bindingOf bindings name) ⟨next,key,name,autoUnload⟩
    have hrest := ih y (next+1)
    have hfewer : (names.filter fun other => (y.items.get other).isNone).length ≤
        (names.filter fun other => (x.items.get other).isNone).length := by
      refine (List.monotone_filter_right names fun other h => ?_).length_le
      have hget : y.items.get other = if other = name then some now else x.items.get other := Dict.get_set _ _ _ _
      rw [hget] at h
      split_ifs at h
      · cases h
      · exact h
    have hset := Dict.length_keys_set x.items name now
    have hy : y.size = (x.items.set name now).keys.length := rfl
    unfold markAll
    refine hrest.trans ?_
    rw [List.filter_cons]
    cases hname : x.items.get name with
    | none =>
      rw [hname] at hset
      simp only [Option.isSome_none,Bool.false_eq_true,if_false] at hset
      simp only [Option.isNone_none,if_true,List.length_cons]
      unfold size at hy ⊢
      omega
    | some stamp =>
      rw [hname] at hset
      simp only [Option.isSome_some,if_true] at hset
      simp only [Option.isNone_some,Bool.false_eq_true,if_false]
      unfold size at hy ⊢
      omega

theorem size_stamp (hitem : x.items.get item ≠ none) (now : ℚ) : (x.stamp item now).size = x.size := by
  have hset := Dict.length_keys_set x.items item now
  rw [if_pos (Option.ne_none_iff_isSome.mp hitem)] at hset
  exact Nat.add_right_cancel hset

theorem size_consume_le (x : Session) (item : String) : (x.consume item).size ≤ x.size := by
  have h := Dict.length_keys_pop x.items item
  unfold size consume changed
  dsimp only
  omega
theorem overflowVictims_ok {requested new evict victims} (h : x.overflowVictims cap requested new evict = .ok victims) :
    victims.Nodup ∧ (∀ item ∈ victims, item ∈ x.items.keys ∧ item ∉ requested) ∧
      x.size+new.length ≤ cap+victims.length := by
  unfold overflowVictims at h
  dsimp only at h
  split_ifs at h with _ _ _ hshort
  obtain rfl := Except.ok.inj h
  have hperm := List.perm_insertionSort (fun a b => x.lru a b = true) (x.items.keys.filter (· ∉ requested))
  refine ⟨?_,fun item hitem => ?_,?_⟩
  · have hnodup : (x.items.keys.filter (· ∉ requested)).Nodup := (AList.keys_nodup x.items).filter _
    exact (List.take_sublist _ _).nodup (hperm.nodup_iff.mpr hnodup)
  · have hmem := hperm.mem_iff.mp (List.mem_of_mem_take hitem)
    rw [List.mem_filter] at hmem
    exact ⟨hmem.1,of_decide_eq_true hmem.2⟩
  · omega

theorem mem_foldl_remove (h : item ∉ victims) : (victims.foldl remove x).items.get item = x.items.get item := by
  induction victims generalizing x with
  | nil => rfl
  | cons victim victims ih =>
    rw [List.mem_cons,not_or] at h
    rw [List.foldl_cons,ih h.2]
    exact Dict.get_pop_ne _ h.1

theorem loaded_sound {requested : List String} {evict : Option String} {key : String} {next : ℕ} (hx : x.Sound cap)
    (h : x.overflowVictims cap requested (requested.filter fun name => (x.items.get name).isNone) evict = .ok victims) :
    (markAll key now bindings autoUnload requested (victims.foldl remove x) next).Sound cap := by
  obtain ⟨hnodup,hvictims,hroom⟩ := overflowVictims_ok h
  refine ⟨markAll_linked (removeAll_linked hx.linked victims) requested next,?_⟩
  have hgone := size_removeAll (x := x) hnodup fun item hitem => (hvictims item hitem).1
  have hmark := size_markAll_le key now bindings autoUnload requested (victims.foldl remove x) next
  have hsame : (requested.filter fun name => ((victims.foldl remove x).items.get name).isNone) =
      requested.filter fun name => (x.items.get name).isNone := by
    refine List.filter_congr fun name hname => ?_
    rw [mem_foldl_remove fun hvictim => (hvictims name hvictim).2 hname]
  rw [hsame] at hmark
  omega
end Session

namespace SessionLoads
variable {clock : ℕ → ℚ} {s t : SessionLoads} {key : String}

def Sound (s : SessionLoads) : Prop := ∀ key x, s.sessions.get key = some x → x.Sound s.cap.1

theorem found_sound (clock : ℕ → ℚ) (hs : s.Sound) (key : String) : (s.found clock key).Sound s.cap.1 := by
  unfold found
  cases hget : s.sessions.get key with
  | none => exact Session.fresh_sound _ _
  | some x =>
    dsimp only
    split_ifs
    · exact Session.fresh_sound _ _
    · exact ⟨⟨(hs key x hget).linked.generation,(hs key x hget).linked.binding,(hs key x hget).linked.oneShot,
        (hs key x hget).linked.claim⟩,(hs key x hget).capped⟩

theorem put_sound (hs : s.Sound) {x : Session} (hx : x.Sound s.cap.1) : (s.put key x).Sound := by
  intro other y hget
  have hset : (s.sessions.set key x).get other = some y := hget
  rw [Dict.get_set] at hset
  split_ifs at hset
  · obtain rfl := Option.some.inj hset
    exact hx
  · exact hs other y hset

theorem lookedUp_sound (clock : ℕ → ℚ) (hs : s.Sound) (key : String) : (s.lookedUp clock key).Sound := by
  have hput : (s.put key (s.found clock key)).Sound := put_sound hs (found_sound clock hs key)
  exact hput

theorem found_lastAccess (s : SessionLoads) (key : String) : (s.found clock key).lastAccess = clock s.reads := by
  unfold found
  cases s.sessions.get key with
  | none => rfl
  | some x =>
    dsimp only
    split_ifs
    · rfl
    · rfl

theorem found_again (hget : t.sessions.get key = some (s.found clock key)) (httl : t.idleTtl = s.idleTtl)
    (hprompt : clock t.reads-clock s.reads < s.idleTtl.1) :
    t.found clock key = {s.found clock key with lastAccess := clock t.reads} := by
  unfold found
  rw [hget]
  dsimp only
  rw [← found,found_lastAccess,httl,if_neg (not_le.mpr hprompt)]

def Prompt (clock : ℕ → ℚ) (s : SessionLoads) : Op → Prop
  | .dispatch i => ∀ g ∈ s.grants[i]?, g.dispatched = false → g.claim = none →
      (s.found clock g.key).holds g = true → clock (s.reads+1)-clock s.reads < s.idleTtl.1
  | _ => True

instance (clock : ℕ → ℚ) (s : SessionLoads) : ∀ op, Decidable (Prompt clock s op)
  | .dispatch i => inferInstanceAs (Decidable (∀ g ∈ s.grants[i]?, g.dispatched = false → g.claim = none →
      (s.found clock g.key).holds g = true → clock (s.reads+1)-clock s.reads < s.idleTtl.1))
  | .load .. | .unload .. | .acquire .. | .current _ | .revoke _ | .release _ | .touch .. => isTrue trivial

theorem changed_sound {x : Session} {cap : ℕ} (hx : x.Sound cap) {p : Prop} [Decidable p] :
    (if p then x.changed else x).Sound cap := by
  split_ifs
  · exact ⟨⟨hx.linked.generation,hx.linked.binding,hx.linked.oneShot,hx.linked.claim⟩,hx.capped⟩
  · exact hx

theorem load_sound (hs : s.Sound) (key : String) (items : List String) (evict : Option String) (autoUnload : Bool)
    (bindings : Option (Dict String (List String))) : (s.load clock key items evict autoUnload bindings).2.Sound := by
  have hfound := found_sound clock hs key
  have hlooked := lookedUp_sound clock hs key
  unfold load
  dsimp only
  split_ifs
  · exact hs
  · split
    · exact hlooked
    · rename_i victims hvictims
      exact put_sound (s := {(s.lookedUp clock key).ticked with
        nextObject := (s.lookedUp clock key).nextObject+items.eraseDups.length}) hlooked
        (changed_sound (Session.loaded_sound hfound hvictims))

theorem unload_sound (hs : s.Sound) (key : String) (items : List String) : (s.unload clock key items).2.Sound := by
  have hfound := found_sound clock hs key
  refine put_sound (lookedUp_sound clock hs key) (changed_sound ⟨Session.removeAll_linked hfound.linked _,?_⟩)
  exact (Session.size_removeAll_le _ _).trans hfound.capped

theorem claimed_sound (key : String) (hs : s.Sound) {x : Session} {item : String} (hx : x.Sound s.cap.1)
    (hitem : x.items.get item ≠ none) : (s.claimed key item x).2.Sound := by
  unfold claimed
  split_ifs
  · exact put_sound (s := {s with nextObject := s.nextObject+1}) hs
      ⟨Session.claim_linked hx.linked (hx.linked.generation item hitem) _,hx.capped⟩
  · exact hs

theorem ne_none_of_not_isNone {α : Type} {o : Option α} {b : Bool} (h : ¬ (o.isNone || b) = true) : o ≠ none := by
  rintro rfl
  exact h (Bool.true_or b)

theorem acquire_sound (hs : s.Sound) (key item : String) : (s.acquire clock key item).2.Sound := by
  have hfound := found_sound clock hs key
  have hlooked := lookedUp_sound clock hs key
  unfold acquire
  dsimp only
  split_ifs with hnone
  · exact hlooked
  · have hclaimed := claimed_sound key hlooked hfound (ne_none_of_not_isNone hnone)
    split
    · exact hclaimed
    · exact hclaimed

theorem dispatch_sound (hs : s.Sound) {i : ℕ} {g : LoadGrant} (hg : s.grants[i]? = some g)
    (hprompt : Prompt clock s (.dispatch i)) : (s.dispatch clock i g).2.Sound := by
  have hlooked := lookedUp_sound clock hs g.key
  unfold dispatch
  split_ifs with hrefused hdispatched
  · exact hs
  · exact hlooked
  rw [Bool.or_eq_true,not_or,Bool.not_eq_true,Bool.not_eq_true,Bool.not_eq_false'] at hrefused
  let t : SessionLoads := {s.lookedUp clock g.key with grants := s.grants.set i {g with dispatched := true}}
  have ht : t.Sound := hlooked
  have hfound := found_sound clock ht g.key
  cases hclaim : g.claim with
  | some claim =>
    have hsize := (Session.size_consume_le (t.found clock g.key) g.item).trans hfound.capped
    exact put_sound (lookedUp_sound clock ht g.key) ⟨Session.consume_linked hfound.linked g.item,hsize⟩
  | none =>
    have hagain := found_again (t := t) (s := s) (Dict.get_set_self _ g.key _) rfl
      (hprompt g hg hrefused.1 hclaim hrefused.2)
    have hholds := hrefused.2
    unfold Session.holds at hholds
    simp only [Bool.and_eq_true,decide_eq_true_eq,Bool.or_eq_true] at hholds
    obtain ⟨⟨⟨hgeneration,-⟩,-⟩,hvisible⟩ := hholds
    rw [hrefused.1] at hvisible
    have hitem : (t.found clock g.key).items.get g.item ≠ none := by
      rw [hagain]
      exact Option.ne_none_iff_isSome.mpr (hvisible.resolve_right Bool.false_ne_true)
    have hthere : (t.found clock g.key).generations.get g.item ≠ none := by
      rw [hagain]
      rw [hgeneration]
      exact Option.some_ne_none _
    have hsize : ((t.found clock g.key).stamp g.item (clock (t.lookedUp clock g.key).reads)).size ≤ t.cap.1 :=
      (Session.size_stamp hitem _).trans_le hfound.capped
    exact put_sound (s := (t.lookedUp clock g.key).ticked) (lookedUp_sound clock ht g.key)
      ⟨Session.stamp_linked hfound.linked hthere _,hsize⟩

theorem revoke_sound (hs : s.Sound) (g : LoadGrant) : (s.revoke clock g).2.Sound := by
  have hlooked := lookedUp_sound clock hs g.key
  unfold revoke
  split_ifs
  · exact hlooked
  · exact unload_sound hlooked g.key [g.item]

theorem release_sound (hs : s.Sound) (g : LoadGrant) : (s.release clock g).2.Sound := by
  have hfound := found_sound clock hs g.key
  have hlooked := lookedUp_sound clock hs g.key
  unfold release
  dsimp only
  split_ifs
  · exact hlooked
  · exact put_sound hlooked ⟨Session.remove_linked hfound.linked g.item,
      (Session.size_remove_le _ _).trans hfound.capped⟩
  · exact put_sound hlooked ⟨Session.unclaim_linked hfound.linked g.item,hfound.capped⟩
  · exact hlooked

theorem touch_sound (hs : s.Sound) (key item : String) : (s.touch clock key item).2.Sound := by
  have hfound := found_sound clock hs key
  have hlooked := lookedUp_sound clock hs key
  unfold touch
  dsimp only
  split_ifs with hnone hone
  · exact hlooked
  all_goals
    have hitem : (s.found clock key).items.get item ≠ none := by
      intro hget
      rw [hget] at hnone
      exact hnone rfl
    have hstamped : ((s.lookedUp clock key).ticked.put key
        ((s.found clock key).stamp item (clock (s.lookedUp clock key).reads))).Sound :=
      put_sound (s := (s.lookedUp clock key).ticked) hlooked
        ⟨Session.stamp_linked hfound.linked (hfound.linked.generation item hitem) _,
          (Session.size_stamp hitem _).trans_le hfound.capped⟩
  · exact unload_sound hstamped key [item]
  · exact hstamped

theorem step_sound (clock : ℕ → ℚ) (s : SessionLoads) (op : Op) (hs : s.Sound) (hop : Prompt clock s op) :
    (step clock s op).2.Sound := by
  unfold step
  cases op with
  | load key items evict autoUnload bindings => exact load_sound hs key items evict autoUnload bindings
  | unload key items => exact unload_sound hs key items
  | acquire key item => exact acquire_sound hs key item
  | current i =>
    dsimp only
    split
    · exact hs
    · exact lookedUp_sound clock hs _
  | dispatch i =>
    dsimp only
    split
    · exact hs
    · rename_i g hg
      exact dispatch_sound hs hg hop
  | revoke i =>
    dsimp only
    split
    · exact hs
    · exact revoke_sound hs _
  | release i =>
    dsimp only
    split
    · exact hs
    · exact release_sound hs _
  | touch key item => exact touch_sound hs key item

theorem new_sound (cap : {n : ℕ // 1 ≤ n ∧ n ≤ 256}) (idleTtl : {n : ℤ // 1 ≤ n}) : (new cap idleTtl).Sound := by
  intro key x hget
  cases hget
def Documented : Op → Raised → Prop
  | .load .., .valueError _ | .load .., .loadCapExceeded _ => True
  | _, _ => False

variable {e : Raised} {other : String} {autoUnload : Bool} {items : List String} {evict : Option String}
  {bindings : Option (Dict String (List String))}

theorem load_raises (h : (s.load clock key items evict autoUnload bindings).1 = .raised e) :
    Documented (.load key items evict autoUnload bindings) e ∧
      ((s.load clock key items evict autoUnload bindings).2 = s ∨
        (s.load clock key items evict autoUnload bindings).2 = s.lookedUp clock key) := by
  unfold load at h ⊢
  dsimp only at h ⊢
  split_ifs at h ⊢
  · obtain rfl := Answer.raised.inj h
    exact ⟨trivial,.inl rfl⟩
  · generalize hvictims : (s.found clock key).overflowVictims (s.lookedUp clock key).cap.1 _ _ evict = victims at h ⊢
    cases victims with
    | ok victims => cases h
    | error error =>
      obtain rfl := Answer.raised.inj h
      refine ⟨?_,.inr rfl⟩
      unfold Session.overflowVictims at hvictims
      dsimp only at hvictims
      split_ifs at hvictims
      all_goals
        obtain rfl := Except.error.inj hvictims
        trivial

theorem acquire_raises (hs : s.Sound) (key item : String) (e : Raised) : (s.acquire clock key item).1 ≠ .raised e := by
  have hfound := found_sound clock hs key
  unfold acquire
  dsimp only
  split_ifs with hnone
  · exact Answer.noConfusion
  · have hgeneration := hfound.linked.generation item (ne_none_of_not_isNone hnone)
    have hbinding := (hfound.linked.binding item).mp hgeneration
    obtain ⟨generation,hgeneration⟩ := Option.ne_none_iff_exists'.mp hgeneration
    obtain ⟨binding,hbinding⟩ := Option.ne_none_iff_exists'.mp hbinding
    rw [hgeneration,hbinding]
    exact Answer.noConfusion

theorem step_raises (hs : s.Sound) {op : Op} (h : (step clock s op).1 = .raised e) : Documented op e := by
  unfold step at h
  cases op with
  | load key items evict autoUnload bindings => exact (load_raises h).1
  | acquire key item => exact absurd h (acquire_raises hs key item e)
  | unload key items => cases h
  | current i =>
    dsimp only at h
    split at h <;> cases h
  | dispatch i =>
    dsimp only at h
    split at h
    · cases h
    · unfold dispatch at h
      split_ifs at h
      split at h <;> cases h
  | revoke i =>
    dsimp only at h
    split at h
    · cases h
    · unfold revoke at h
      split_ifs at h
      cases h
  | release i =>
    dsimp only at h
    split at h
    · cases h
    · unfold release at h
      dsimp only at h
      split_ifs at h
  | touch key item =>
    unfold touch at h
    dsimp only at h
    split_ifs at h

def SameLoads (x y : Session) : Prop :=
  x.items = y.items ∧ x.generations = y.generations ∧ x.bindings = y.bindings ∧ x.oneShot = y.oneShot ∧
    x.claims = y.claims

theorem found_same {x : Session} (hget : s.sessions.get key = some x) (hidle : clock s.reads-x.lastAccess < s.idleTtl.1) :
    SameLoads (s.found clock key) x := by
  unfold found
  rw [hget]
  dsimp only
  rw [if_neg (not_le.mpr hidle)]
  exact ⟨rfl,rfl,rfl,rfl,rfl⟩

theorem lookedUp_same {x : Session} (hget : s.sessions.get other = some x)
    (hidle : other = key → clock s.reads-x.lastAccess < s.idleTtl.1) :
    ∃ y, (s.lookedUp clock key).sessions.get other = some y ∧ SameLoads y x := by
  by_cases hother : other = key
  · subst hother
    exact ⟨_,Dict.get_set_self _ _ _,found_same hget (hidle rfl)⟩
  · exact ⟨x,(Dict.get_set_ne _ _ hother).trans hget,rfl,rfl,rfl,rfl,rfl⟩

theorem load_raising_keeps (h : (s.load clock key items evict autoUnload bindings).1 = .raised e) {x : Session}
    (hget : s.sessions.get other = some x) (hidle : other = key → clock s.reads-x.lastAccess < s.idleTtl.1) :
    ∃ y, (s.load clock key items evict autoUnload bindings).2.sessions.get other = some y ∧ SameLoads y x := by
  rcases (load_raises h).2 with hsame | hlooked
  · rw [hsame]
    exact ⟨x,hget,rfl,rfl,rfl,rfl,rfl⟩
  · rw [hlooked]
    exact lookedUp_same hget hidle

/-- A clock that stands still but for one hour, which passes before its fifth reading. -/
def lateClock (n : ℕ) : ℚ := if n < 4 then 0 else 3600

theorem lateClock_mono : Monotone lateClock := by
  intro m n hmn
  unfold lateClock
  split_ifs with hm hn hn
  · exact le_refl 0
  · exact Rat.num_nonneg.mp (by decide)
  · exact absurd (Nat.lt_of_le_of_lt hmn hn) hm
  · exact le_refl 3600

def dispatchLate : List Op := [.load "session" ["tool"] none false none,.acquire "session" "tool",.dispatch 0]

end SessionLoads
end Arbora.Fleet
