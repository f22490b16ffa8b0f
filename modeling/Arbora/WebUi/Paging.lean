import Arbora.WebUi.PilotTakeover

/-! Pages read one after another, each from the position that the page before it ended at. -/
namespace Arbora.WebUi
open Guards Machine
open PolicyPlane (OpaqueRef)

theorem drop_eq_filter {κ ρ : Type} [LinearOrder κ] {key : ρ → κ} {rows : List ρ} (c : κ)
    (h : rows.Pairwise fun a b => key a < key b) :
    rows.drop (rows.filter fun r => key r ≤ c).length = rows.filter fun r => c < key r := by
  induction rows with
  | nil => rfl
  | cons a rest ih =>
    obtain ⟨ha,hrest⟩ := List.pairwise_cons.mp h
    by_cases hle : key a ≤ c
    · rw [List.filter_cons_of_pos (by simpa using hle),List.filter_cons_of_neg (by simpa using hle),List.length_cons,
        List.drop_succ_cons]
      exact ih hrest
    · have habove : ∀ r ∈ a :: rest, c < key r :=
        List.forall_mem_cons.mpr ⟨not_le.mp hle,fun r hr => (not_le.mp hle).trans (ha r hr)⟩
      have hnone : (a :: rest).filter (fun r => key r ≤ c) = [] :=
        List.filter_eq_nil_iff.mpr fun r hr => by simpa using habove r hr
      rw [hnone,List.length_nil,List.drop_zero]
      exact (List.filter_eq_self.mpr fun r hr => decide_eq_true (habove r hr)).symm

section
variable (entityKind : String) (context : AccessContext)

def rowsOf (s : InMemoryWebUiRepository) : List (String × WebUiEntity) :=
  (kindOf entityKind).elim [] fun kind => pageRows s kind context.tenantRef context.workspaceRef
def refsOf (s : InMemoryWebUiRepository) : List String := (rowsOf entityKind context s).map Prod.fst

/-- A page as it was read: where, from which position, and what was on it. -/
structure Glimpse where
  state : InMemoryWebUiRepository
  position : ℕ
  items : List WebUiEntity

inductive Traverses : InMemoryWebUiRepository → Option {text : String // isCursor text = true} → List Glimpse → Prop
  | last {s t cursor limit items} (h : (page entityKind context ⟨limit,cursor⟩).run s = .ok ⟨items,none⟩ t) :
      Traverses s cursor [⟨s,offsetOf (cursor.map Subtype.val),items⟩]
  | more {s t cursor limit items next log} (h : (page entityKind context ⟨limit,cursor⟩).run s = .ok ⟨items,some next.1⟩ t)
      (others : List Request) (hrest : Traverses (after step t others) (some next) log) :
      Traverses s cursor (⟨s,offsetOf (cursor.map Subtype.val),items⟩ :: log)

def returned (log : List Glimpse) : List String := (log.flatMap Glimpse.items).map (·.entityRef.1)
def Settled (g g' : Glimpse) : Prop := ∀ e ∈ g.items.getLast?,
  ((rowsOf entityKind context g'.state).filter fun row => row.1 ≤ e.entityRef.1).length = g'.position

end

variable {entityKind : String} {context : AccessContext} {s t : InMemoryWebUiRepository}
  {cursor : Option {text : String // isCursor text = true}} {log : List Glimpse}

theorem strict_rowsOf (s : InMemoryWebUiRepository) : (rowsOf entityKind context s).Pairwise fun a b => a.1 < b.1 := by
  unfold rowsOf
  cases kindOf entityKind with
  | none => exact .nil
  | some kind => exact strict_pageRows ..

theorem ref_of_row (hs : Kept s) {row : String × WebUiEntity} (h : row ∈ rowsOf entityKind context s) :
    row.2.entityRef.1 = row.1 := by
  unfold rowsOf at h
  cases hkind : kindOf entityKind with
  | none =>
    rw [hkind] at h
    cases h
  | some kind =>
    rw [hkind] at h
    obtain ⟨ref,href,hget,-⟩ := mem_pageRows.mp h
    rw [← href]
    exact congrArg (fun key => key.entityRef.1) (hs.home _ _ hget context ⟨rfl,rfl⟩)

theorem page_run {request : PageRequest} {p : Page} (h : (page entityKind context request).run s = .ok p t) :
    t = s ∧ p.items = (((rowsOf entityKind context s).drop (offsetOf (request.cursor.map Subtype.val))).take
      request.limit.1).map Prod.snd ∧
      p.nextCursor = if offsetOf (request.cursor.map Subtype.val)+p.items.length < (rowsOf entityKind context s).length
        then some ("cursor:" ++ toString (offsetOf (request.cursor.map Subtype.val)+p.items.length)) else none := by
  obtain ⟨kind,hkind,h⟩ := found_bind_ok.mp h
  obtain ⟨_,h⟩ := refuse_bind_ok.mp h
  obtain ⟨_,h⟩ := requireContext_bind_ok.mp h
  obtain ⟨_,_,h⟩ := requireScope_bind_ok.mp h
  obtain ⟨rfl,rfl⟩ := pure_ok.mp h
  have hrows : rowsOf entityKind context t = pageRows t kind context.tenantRef context.workspaceRef := by
    unfold rowsOf
    rw [hkind]
    rfl
  rw [hrows,List.length_map]
  exact ⟨rfl,rfl,rfl⟩

theorem after_rowsOf (c : Option String) : Keyset.after Prod.fst c (rowsOf entityKind context s) =
    (rowsOf entityKind context s).filter fun row => c.all fun b => decide (b < row.1) := by
  unfold Keyset.after
  rw [Keyset.sortBy_of_strict (strict_rowsOf s)]

theorem Traverses.head (h : Traverses entityKind context s cursor log) :
    ∃ items rest, log = ⟨s,offsetOf (cursor.map Subtype.val),items⟩ :: rest := by
  cases h with
  | last => exact ⟨_,_,rfl⟩
  | more => exact ⟨_,_,rfl⟩

theorem refs_of_rows (hs : Kept s) {rows : List (String × WebUiEntity)} (h : rows ⊆ rowsOf entityKind context s) :
    (rows.map Prod.snd).map (·.entityRef.1) = rows.map Prod.fst := by
  rw [List.map_map]
  exact List.map_congr_left fun row hrow => ref_of_row hs (h hrow)

theorem nodup_refsOf (s : InMemoryWebUiRepository) : (refsOf entityKind context s).Nodup :=
  List.pairwise_map.mpr ((strict_rowsOf s).imp fun hlt => hlt.ne)

/-- What a page from a position returns, and whether it is the last. -/
theorem page_above {limit : {n : ℕ // 1 ≤ n ∧ n ≤ 100}} {p : Page} (hs : Kept s) (c : Option String)
    (h : (page entityKind context ⟨limit,cursor⟩).run s = .ok p t)
    (hstart : (rowsOf entityKind context s).drop (offsetOf (cursor.map Subtype.val)) =
      Keyset.after Prod.fst c (rowsOf entityKind context s)) :
    p.items = ((Keyset.after Prod.fst c (rowsOf entityKind context s)).take limit.1).map Prod.snd ∧
      p.items.map (·.entityRef.1) = ((Keyset.after Prod.fst c (rowsOf entityKind context s)).take limit.1).map Prod.fst ∧
      (p.nextCursor = none ↔ (Keyset.after Prod.fst c (rowsOf entityKind context s)).length ≤ limit.1) := by
  obtain ⟨-,hitems,hnext⟩ := page_run h
  dsimp only at hitems hnext
  rw [hstart] at hitems
  refine ⟨hitems,?_,?_⟩
  · rw [hitems]
    exact refs_of_rows hs fun row hrow => (Keyset.mem_after.mp (List.mem_of_mem_take hrow)).1
  · have hlength := congrArg List.length hstart
    have hcount := congrArg List.length hitems
    rw [List.length_drop] at hlength
    rw [List.length_map,List.length_take] at hcount
    rw [hnext]
    split_ifs with hmore
    · simp only [false_iff,not_le]
      omega
    · simp only [true_iff]
      omega

theorem Traverses.sound (h : Traverses entityKind context s cursor log) (hs : Kept s)
    (hstill : log.IsChain (Settled entityKind context)) (c : Option String)
    (hstart : (rowsOf entityKind context s).drop (offsetOf (cursor.map Subtype.val)) =
      Keyset.after Prod.fst c (rowsOf entityKind context s)) :
    (returned log).Pairwise (· < ·) ∧ (∀ r ∈ returned log, ∀ b ∈ c, b < r) ∧
      ∀ r, (∀ g ∈ log, r ∈ refsOf entityKind context g.state) → (∀ b ∈ c, b < r) → r ∈ returned log := by
  induction h generalizing c with
  | @last s t cursor limit items h =>
    obtain ⟨-,hrefs,hnext⟩ := page_above hs c h hstart
    have hall : returned [⟨s,offsetOf (cursor.map Subtype.val),items⟩] =
        (Keyset.after Prod.fst c (rowsOf entityKind context s)).map Prod.fst := by
      unfold returned
      rw [List.flatMap_singleton,hrefs,List.take_of_length_le (hnext.mp rfl)]
    rw [hall]
    refine ⟨List.pairwise_map.mpr (Keyset.strict_after (nodup_refsOf s)),?_,?_⟩
    · intro r hr
      obtain ⟨row,hrow,rfl⟩ := List.mem_map.mp hr
      exact (Keyset.mem_after.mp hrow).2
    · intro r hlasting habove
      obtain ⟨row,hrow,rfl⟩ := List.mem_map.mp (hlasting _ List.mem_cons_self)
      exact List.mem_map_of_mem (Keyset.mem_after.mpr ⟨hrow,habove⟩)
  | @more s t cursor limit items next log h others hrest ih =>
    obtain ⟨hitems,hrefs,hnext⟩ := page_above hs c h hstart
    dsimp only at hitems
    have hmore : ¬(Keyset.after Prod.fst c (rowsOf entityKind context s)).length ≤ limit.1 := fun hle => by
      cases hnext.mpr hle
    obtain ⟨row,hrow⟩ : ∃ row, ((Keyset.after Prod.fst c (rowsOf entityKind context s)).take limit.1).getLast? = some row := by
      refine Option.ne_none_iff_exists'.mp fun hnone => ?_
      have hempty := List.take_eq_nil_iff.mp (List.getLast?_eq_none_iff.mp hnone)
      rcases hempty with hzero | hnil
      · omega
      · rw [hnil] at hmore
        exact hmore (Nat.zero_le _)
    have hkey : Keyset.next Prod.fst limit.1 c (rowsOf entityKind context s) = some row.1 := by
      unfold Keyset.next
      rw [if_neg hmore,hrow]
      rfl
    obtain ⟨hlast,hpage,hbehind⟩ := Keyset.next_some hkey (nodup_refsOf s)
    obtain rfl := (page_run h).1
    obtain ⟨items',rest,hlog⟩ := hrest.head
    -- the next page begins right behind the last row of this one
    have hstart' : (rowsOf entityKind context (after step t others)).drop (offsetOf (some next.1)) =
        Keyset.after Prod.fst (some row.1) (rowsOf entityKind context (after step t others)) := by
      rw [hlog,List.isChain_cons_cons] at hstill
      have hlastItem : items.getLast? = some row.2 := by
        rw [hitems,List.getLast?_map,hrow]
        rfl
      have hposition := hstill.1 _ hlastItem
      have hmem := (Keyset.mem_after.mp (List.mem_of_mem_take (List.mem_of_getLast? hrow))).1
      dsimp only at hposition
      rw [ref_of_row hs hmem] at hposition
      rw [after_rowsOf,← show _ = offsetOf (some next.1) from hposition,drop_eq_filter row.1 (strict_rowsOf _)]
      rfl
    have hchain : log.IsChain (Settled entityKind context) := by
      rw [hlog] at hstill ⊢
      exact (List.isChain_cons_cons.mp hstill).2
    obtain ⟨horder,habove,hcomplete⟩ := ih (kept_after hs others) hchain (some row.1) hstart'
    have hsplit : returned (⟨t,offsetOf (cursor.map Subtype.val),items⟩ :: log) =
        ((Keyset.after Prod.fst c (rowsOf entityKind context t)).take limit.1).map Prod.fst ++ returned log := by
      unfold returned
      rw [List.flatMap_cons,List.map_append,hrefs]
    rw [hsplit]
    refine ⟨List.pairwise_append.mpr ⟨?_,horder,?_⟩,?_,?_⟩
    · exact List.pairwise_map.mpr ((Keyset.strict_after (nodup_refsOf t)).sublist (List.take_sublist _ _))
    · intro a ha b hb
      obtain ⟨first,hfirst,rfl⟩ := List.mem_map.mp ha
      exact lt_of_le_of_lt (hpage first hfirst) (habove b hb _ rfl)
    · intro r hr b hb
      rcases List.mem_append.mp hr with hr | hr
      · obtain ⟨first,hfirst,rfl⟩ := List.mem_map.mp hr
        exact (Keyset.mem_after.mp (List.mem_of_mem_take hfirst)).2 b hb
      · have hrow := (Keyset.mem_after.mp (List.mem_of_mem_take (List.mem_of_getLast? hrow))).2 b hb
        exact hrow.trans (habove r hr _ rfl)
    · intro r hlasting hr
      obtain ⟨found,hfound,rfl⟩ := List.mem_map.mp (hlasting _ List.mem_cons_self)
      have hafter : found ∈ Keyset.after Prod.fst c (rowsOf entityKind context t) := Keyset.mem_after.mpr ⟨hfound,hr⟩
      rw [← List.take_append_drop limit.1 (Keyset.after Prod.fst c (rowsOf entityKind context t)),List.mem_append] at hafter
      rcases hafter with hpaged | hlater
      · exact List.mem_append_left _ (List.mem_map_of_mem hpaged)
      · refine List.mem_append_right _ (hcomplete _ (fun g hg => hlasting g (List.mem_cons_of_mem _ hg)) fun b hb => ?_)
        obtain rfl := Option.some.inj hb
        exact hbehind found hlater

/-- A traversal between whose pages nothing changes up to where it is returns all that lasts, and nothing twice. -/
theorem traversal_complete (hs : Reachable step .empty s) (h : Traverses entityKind context s none log)
    (hstill : log.IsChain (Settled entityKind context)) :
    (returned log).Nodup ∧ ∀ r, (∀ g ∈ log, r ∈ refsOf entityKind context g.state) → r ∈ returned log := by
  obtain ⟨requests,rfl⟩ := hs
  have hkept := kept_after kept_empty requests
  obtain ⟨horder,-,hcomplete⟩ := h.sound hkept hstill none (by
    rw [after_rowsOf]
    exact (List.filter_eq_self.mpr fun _ _ => rfl).symm)
  exact ⟨horder.imp fun hlt => hlt.ne,fun r hr => hcomplete r hr fun b hb => nomatch hb⟩

namespace Fixture

def named (ref : OpaqueRef) : WebUiEntity := .conversation {
  version := ⟨1,first_version⟩
  digest := digest
  tenantRef := tenant
  workspaceRef := workspace
  conversationRef := ref
  sessionRef := administrator.sessionRef
  archived := false }

def putAs (ref : OpaqueRef) : Request := ⟨.put (named ref) administrator none,clock⟩
def two : InMemoryWebUiRepository := after step .empty [putAs (text "conversation:b"),putAs (text "conversation:c")]

theorem first_page : (page "conversation" administrator ⟨⟨1,by decide⟩,none⟩).run two =
    .ok ⟨[named (text "conversation:b")],some "cursor:1"⟩ two := rfl

def behindFirst : {text : String // isCursor text = true} := ⟨"cursor:1",by decide⟩

theorem second_page : (page "conversation" administrator ⟨⟨1,by decide⟩,some behindFirst⟩).run two =
    .ok ⟨[named (text "conversation:c")],none⟩ two := rfl

theorem shifted_page : (page "conversation" administrator ⟨⟨2,by decide⟩,some behindFirst⟩).run
    (after step two [putAs (text "conversation:a")]) =
    .ok ⟨[named (text "conversation:b"),named (text "conversation:c")],none⟩
      (after step two [putAs (text "conversation:a")]) := rfl

theorem two_reachable : Reachable step .empty two := ⟨_,rfl⟩

theorem traverses_two : Traverses "conversation" administrator two none
    [⟨two,0,[named (text "conversation:b")]⟩,⟨two,1,[named (text "conversation:c")]⟩] :=
  have hrest : Traverses "conversation" administrator two (some behindFirst) [⟨two,1,[named (text "conversation:c")]⟩] :=
    .last second_page
  .more first_page [] hrest

theorem traverses_shifted : Traverses "conversation" administrator two none [⟨two,0,[named (text "conversation:b")]⟩,
      ⟨after step two [putAs (text "conversation:a")],1,[named (text "conversation:b"),named (text "conversation:c")]⟩] :=
  have hrest : Traverses "conversation" administrator (after step two [putAs (text "conversation:a")]) (some behindFirst)
      [⟨after step two [putAs (text "conversation:a")],1,
        [named (text "conversation:b"),named (text "conversation:c")]⟩] := .last shifted_page
  .more first_page _ hrest

end Fixture

theorem two_traversed : (returned [⟨Fixture.two,0,[Fixture.named (Fixture.text "conversation:b")]⟩,
    ⟨Fixture.two,1,[Fixture.named (Fixture.text "conversation:c")]⟩]).Nodup := by
  refine (traversal_complete Fixture.two_reachable Fixture.traverses_two ?_).1
  refine List.isChain_cons_cons.mpr ⟨fun e he => ?_,.singleton _⟩
  obtain rfl := Option.some.inj he
  decide +kernel

/-- A conversation that is created in front of the cursor makes the one before the cursor come back. -/
theorem conversation_repeated : ¬∀ s entityKind context log, Reachable step .empty s →
    Traverses entityKind context s none log → (returned log).Nodup ∧
      ∀ r, (∀ g ∈ log, r ∈ refsOf entityKind context g.state) → r ∈ returned log := by
  intro h
  have hnodup := (h _ _ _ _ Fixture.two_reachable Fixture.traverses_shifted).1
  exact absurd hnodup (by decide +kernel)

end Arbora.WebUi
