import Arbora.Lib.Checks
import Mathlib.Data.List.Chain
import Mathlib.Data.Set.Finite.Basic
import Mathlib.Order.WellFounded

/-! Longest paths of a relation by ranks, where every element has one more than the highest of its
predecessors; and cycles among finitely many elements that all have a predecessor. -/
namespace LongestPath
variable {α : Type} {r : α → α → Prop} {rank : α → ℕ}

/-- A path, each element of which precedes the next. -/
abbrev IsPath (r : α → α → Prop) (p : List α) : Prop := p.IsChain r

/-- One more than the highest rank of the predecessors, and one without any. -/
structure Ranks (r : α → α → Prop) (rank : α → ℕ) : Prop where
  pos : ∀ v, 1 ≤ rank v
  above : ∀ u v, r u v → rank u + 1 ≤ rank v
  attained : ∀ v, rank v = 1 ∨ ∃ u, r u v ∧ rank v = rank u + 1

theorem Ranks.acyclic (h : Ranks r rank) (v : α) : ¬Relation.TransGen r v v := by
  have hlt : ∀ u w, Relation.TransGen r u w → rank u < rank w := by
    intro u w huw
    induction huw with
    | single huw => exact h.above _ _ huw
    | tail _ hstep ih => exact ih.trans (h.above _ _ hstep)
  exact fun hcycle => lt_irrefl _ (hlt v v hcycle)

theorem Ranks.length_le (h : Ranks r rank) {p : List α} {v : α} (hp : IsPath r (p ++ [v])) :
    (p ++ [v]).length ≤ rank v := by
  induction p using List.reverseRecOn generalizing v with
  | nil => exact h.pos v
  | append_singleton p u ih =>
    rw [IsPath,List.append_assoc,List.singleton_append,List.isChain_append_cons_cons] at hp
    have hu := ih hp.1
    have huv := h.above u v hp.2.1
    simp only [List.length_append,List.length_singleton] at hu ⊢
    omega

theorem Ranks.exists_path (h : Ranks r rank) (v : α) : ∃ p, IsPath r (p ++ [v]) ∧ (p ++ [v]).length = rank v := by
  induction hn : rank v generalizing v with
  | zero =>
    have := h.pos v
    omega
  | succ n ih =>
    rcases h.attained v with hone | ⟨u,huv,hrank⟩
    · refine ⟨[],List.isChain_singleton v,?_⟩
      rw [← hn,hone]
      rfl
    · obtain ⟨p,hp,hlen⟩ := ih u (by omega)
      refine ⟨p ++ [u],?_,?_⟩
      · rw [IsPath,List.append_assoc,List.singleton_append,List.isChain_append_cons_cons]
        exact ⟨hp,huv,List.isChain_singleton v⟩
      · rw [List.length_append,hlen]
        rfl

theorem exists_cycle {s : Set α} (hfin : s.Finite) (hne : s.Nonempty) (hpred : ∀ v ∈ s, ∃ u ∈ s, r u v) :
    ∃ v ∈ s, Relation.TransGen r v v := by
  by_contra hno
  have : Finite s := hfin
  let below : s → s → Prop := fun u v => Relation.TransGen r u v
  have : Std.Irrefl below := ⟨fun v hv => hno ⟨v,v.2,hv⟩⟩
  obtain ⟨v,hv⟩ := hne
  obtain ⟨m,_,hmin⟩ := (Finite.wellFounded_of_trans_of_irrefl below).has_min Set.univ ⟨⟨v,hv⟩,trivial⟩
  obtain ⟨u,hu,hum⟩ := hpred m m.2
  exact hmin ⟨u,hu⟩ trivial (Relation.TransGen.single hum)

end LongestPath

/-! Depth-first search in three colours, with so many calls within each other at most: it halts at a cycle, and otherwise
leaves the nodes in an order in which each comes after those it leads to. -/
namespace DepthFirst
variable {α : Type} [DecidableEq α]

/-- The nodes that are being visited, the innermost first, and those that have been, the last one first. -/
structure Search (α : Type) where
  (visiting visited : List α)

inductive Halt where
  | cycle
  | depth

/-- The visit of a node with so many calls left. -/
def visit (next : α → List α) : ℕ → Search α → α → Except Halt (Search α)
  | 0, _, _ => .error .depth
  | depth + 1, s, a =>
    if a ∈ s.visiting then .error .cycle
    else if a ∈ s.visited then .ok s
    else do
      let s ← (next a).foldlM (visit next depth) ⟨a :: s.visiting,s.visited⟩
      .ok ⟨s.visiting.erase a,a :: s.visited⟩

def search (next : α → List α) (depth : ℕ) (nodes : List α) : Except Halt (Search α) :=
  nodes.foldlM (visit next depth) ⟨[],[]⟩

section
omit [DecidableEq α]
variable {next : α → List α}

def Leads (next : α → List α) (a b : α) : Prop := b ∈ next a
def Cyclic (next : α → List α) : Prop := ∃ a, Relation.TransGen (Leads next) a a

/-- Whatever a node leads to comes after it, and nothing comes twice. -/
def PostOrdered (next : α → List α) : List α → Prop
  | [] => True
  | a :: rest => (∀ b ∈ next a, b ∈ rest) ∧ a ∉ rest ∧ PostOrdered next rest

theorem PostOrdered.nodup {l : List α} (h : PostOrdered next l) : l.Nodup := by
  induction l with
  | nil => exact .nil
  | cons a rest ih => exact .cons h.2.1 (ih h.2.2)

theorem PostOrdered.reaches {l : List α} (h : PostOrdered next l) {a b : α} (ha : a ∈ l)
    (hab : Relation.ReflTransGen (Leads next) a b) : b ∈ l := by
  induction l generalizing a with
  | nil => cases ha
  | cons c rest ih =>
    rcases List.mem_cons.mp ha with rfl | ha
    · rcases Relation.ReflTransGen.cases_head hab with rfl | ⟨d,hd,hdb⟩
      · exact List.mem_cons_self
      · exact List.mem_cons_of_mem a (ih h.2.2 (h.1 d hd) hdb)
    · exact List.mem_cons_of_mem c (ih h.2.2 ha hab)

theorem PostOrdered.acyclic {l : List α} (h : PostOrdered next l) {a : α} (ha : a ∈ l) : ¬Relation.TransGen (Leads next) a a := by
  intro hcycle
  induction l with
  | nil => cases ha
  | cons c rest ih =>
    rcases List.mem_cons.mp ha with rfl | ha
    · obtain ⟨b,hb,hba⟩ := Relation.TransGen.head'_iff.mp hcycle
      exact h.2.1 (h.2.2.reaches (h.1 b hb) hba)
    · exact ih h.2.2 ha

theorem PostOrdered.split {before after : List α} {a : α} (h : PostOrdered next (before ++ a :: after)) :
    ∀ b ∈ next a, b ∈ after := by
  induction before with
  | nil => exact h.1
  | cons c before ih => exact ih h.2.2

end

section
omit [DecidableEq α]
variable {next : α → List α} {s s' : Search α}

structure Sound (next : α → List α) (s : Search α) : Prop where
  path : s.visiting.IsChain fun b a => Leads next a b
  apart : s.visiting.Nodup
  ordered : PostOrdered next s.visited
  fresh : ∀ a ∈ s.visiting, a ∉ s.visited

/-- What a visit leaves: the same path, and more nodes behind it. -/
structure Visited (next : α → List α) (s s' : Search α) : Prop where
  sound : Sound next s'
  visiting : s'.visiting = s.visiting
  grows : ∀ a ∈ s.visited, a ∈ s'.visited

/-- The path so far, with the node that is reached next in front. -/
abbrev Enters (next : α → List α) (a : α) (visiting : List α) : Prop := (a :: visiting).IsChain fun b a => Leads next a b

def Outcome (next : α → List α) (nodes : List α) (depth : ℕ) (s : Search α) (as : List α) : Except Halt (Search α) → Prop
  | .ok s' => Visited next s s' ∧ ∀ a ∈ as, a ∈ s'.visited
  | .error .cycle => Cyclic next
  | .error .depth => depth + s.visiting.length ≤ nodes.length

theorem Visited.trans {s'' : Search α} (h : Visited next s s') (h' : Visited next s' s'') : Visited next s s'' :=
  ⟨h'.sound,h'.visiting.trans h.visiting,fun a ha => h'.grows a (h.grows a ha)⟩

theorem Enters.leads {a : α} {visiting : List α} (h : Enters next a visiting) {c : α} (hc : c ∈ visiting) :
    Relation.TransGen (Leads next) c a := by
  induction visiting generalizing a with
  | nil => cases hc
  | cons b rest ih =>
    obtain ⟨hstep,hrest⟩ := List.isChain_cons_cons.mp h
    rcases List.mem_cons.mp hc with rfl | hc
    · exact .single hstep
    · exact (ih hrest hc).tail hstep

theorem Enters.length_le {nodes visiting : List α} {a : α} (hnodes : ∀ a b, Leads next a b → a ∈ nodes)
    (h : Enters next a visiting) (hapart : visiting.Nodup) : visiting.length ≤ nodes.length := by
  refine List.Subperm.length_le (hapart.subperm ?_)
  intro c hc
  obtain ⟨b,hb,-⟩ := Relation.TransGen.head'_iff.mp (h.leads hc)
  exact hnodes c b hb

theorem Sound.enter {a : α} (hs : Sound next s) (ha : Enters next a s.visiting) (hnew : a ∉ s.visiting)
    (hfresh : a ∉ s.visited) : Sound next ⟨a :: s.visiting,s.visited⟩ :=
  ⟨ha,.cons hnew hs.apart,hs.ordered,List.forall_mem_cons.mpr ⟨hfresh,hs.fresh⟩⟩

theorem Visited.leave {a : α} (hs : Sound next s) (hnew : a ∉ s.visiting)
    (h : Visited next ⟨a :: s.visiting,s.visited⟩ s') (hnext : ∀ b ∈ next a, b ∈ s'.visited) :
    Visited next s ⟨s.visiting,a :: s'.visited⟩ := by
  have hfresh := h.sound.fresh
  rw [h.visiting] at hfresh
  obtain ⟨ha,hrest⟩ := List.forall_mem_cons.mp hfresh
  refine ⟨⟨hs.path,hs.apart,⟨hnext,ha,h.sound.ordered⟩,?_⟩,rfl,?_⟩
  · intro c hc hmem
    rcases List.mem_cons.mp hmem with rfl | hmem
    · exact hnew hc
    · exact hrest c hc hmem
  · exact fun b hb => List.mem_cons_of_mem a (h.grows b hb)

end

section
variable {next : α → List α} {depth : ℕ} {s s' : Search α} {nodes : List α}

theorem foldlM_outcome {as : List α}
    (hvisit : ∀ s a, Sound next s → Enters next a s.visiting → Outcome next nodes depth s [a] (visit next depth s a))
    (hs : Sound next s) (has : ∀ a ∈ as, Enters next a s.visiting) :
    Outcome next nodes depth s as (as.foldlM (visit next depth) s) := by
  induction as generalizing s with
  | nil => exact ⟨⟨hs,rfl,fun _ ha => ha⟩,by simp⟩
  | cons a rest ih =>
    obtain ⟨ha,hrest⟩ := List.forall_mem_cons.mp has
    have hfirst := hvisit s a hs ha
    rw [List.foldlM_cons]
    cases hout : visit next depth s a with
    | error halt =>
      rw [hout] at hfirst
      cases halt with
      | cycle => exact hfirst
      | depth => exact hfirst
    | ok s' =>
      rw [hout] at hfirst
      obtain ⟨hvisited,hmem⟩ := hfirst
      rw [← hvisited.visiting] at hrest
      have hlater := ih hvisited.sound hrest
      change Outcome next nodes depth s (a :: rest) (rest.foldlM (visit next depth) s')
      cases hall : rest.foldlM (visit next depth) s' with
      | error halt =>
        rw [hall] at hlater
        cases halt with
        | cycle => exact hlater
        | depth =>
          rw [Outcome,hvisited.visiting] at hlater
          exact hlater
      | ok s'' =>
        rw [hall] at hlater
        refine ⟨hvisited.trans hlater.1,?_⟩
        intro b hb
        rcases List.mem_cons.mp hb with rfl | hb
        · exact hlater.1.grows b (hmem b (by simp))
        · exact hlater.2 b hb

theorem visit_outcome (hnodes : ∀ a b, Leads next a b → a ∈ nodes) (depth : ℕ) (s : Search α) (a : α)
    (hs : Sound next s) (ha : Enters next a s.visiting) : Outcome next nodes depth s [a] (visit next depth s a) := by
  induction depth generalizing s a with
  | zero =>
    have hlength := ha.length_le hnodes hs.apart
    simpa [visit,Outcome] using hlength
  | succ depth ih =>
    unfold visit
    split_ifs with hvisiting hvisited
    · exact ⟨a,ha.leads hvisiting⟩
    · exact ⟨⟨hs,rfl,fun _ h => h⟩,by simpa using hvisited⟩
    · have henters : ∀ b ∈ next a, Enters next b (a :: s.visiting) := fun b hb => List.isChain_cons_cons.mpr ⟨hb,ha⟩
      have hnext := foldlM_outcome ih (hs.enter ha hvisiting hvisited) henters
      cases hall : (next a).foldlM (visit next depth) ⟨a :: s.visiting,s.visited⟩ with
      | error halt =>
        rw [hall] at hnext
        cases halt with
        | cycle => exact hnext
        | depth =>
          simp only [Outcome,List.length_cons] at hnext
          change depth + 1 + s.visiting.length ≤ nodes.length
          omega
      | ok s' =>
        rw [hall] at hnext
        have hleft := hnext.1.leave hs hvisiting hnext.2
        change Outcome next nodes (depth + 1) s [a] (.ok ⟨s'.visiting.erase a,a :: s'.visited⟩)
        rw [hnext.1.visiting,List.erase_cons_head]
        exact ⟨hleft,by simp⟩

theorem search_outcome (hnodes : ∀ a b, Leads next a b → a ∈ nodes) (depth : ℕ) :
    (search next depth nodes = .error .cycle ∧ Cyclic next) ∨
      (search next depth nodes = .error .depth ∧ depth ≤ nodes.length) ∨
      ∃ s, search next depth nodes = .ok s ∧ ¬Cyclic next ∧ PostOrdered next s.visited ∧ ∀ a ∈ nodes, a ∈ s.visited := by
  have hstart : Sound next (⟨[],[]⟩ : Search α) := ⟨.nil,.nil,trivial,by simp⟩
  have henters : ∀ a ∈ nodes, Enters next a [] := fun a _ => List.isChain_singleton a
  have hall := foldlM_outcome (visit_outcome hnodes depth) hstart henters
  unfold search
  cases hout : nodes.foldlM (visit next depth) ⟨[],[]⟩ with
  | error halt =>
    rw [hout] at hall
    cases halt with
    | cycle => exact .inl ⟨rfl,hall⟩
    | depth => exact .inr (.inl ⟨rfl,hall⟩)
  | ok s =>
    rw [hout] at hall
    refine .inr (.inr ⟨s,rfl,?_,hall.1.sound.ordered,hall.2⟩)
    intro hcyclic
    obtain ⟨a,ha⟩ := hcyclic
    obtain ⟨b,hb,-⟩ := Relation.TransGen.head'_iff.mp ha
    exact hall.1.sound.ordered.acyclic (hall.2 a (hnodes a b hb)) ha

end
end DepthFirst
