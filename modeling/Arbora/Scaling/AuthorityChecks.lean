import Arbora.Lib.Texts
import Arbora.Scaling.ScaleAuthority

/-! Cycles among the dependencies of scale units: the check finds them all, and what it accepts can be put in order. -/
namespace Arbora.Scaling
open Arbora.Signals (Identifier)
open Checks (bind_ok refuse_bind_ok refuse_ok found_bind_ok forM_ok)
open DepthFirst (Leads PostOrdered search_outcome)
open Repetition (firstSeen mem_firstSeen length_firstSeen)

section
variable {ρ κ ν : Type} [DecidableEq κ] {key : ρ → κ} {value : ρ → ν} {rows : List ρ}

theorem indexed_concat (row : ρ) : indexed key value (rows ++ [row]) = (indexed key value rows).set (key row) (value row) := by
  unfold indexed
  rw [List.foldl_append]
  rfl

theorem row_of_get {k : κ} {v : ν} (h : (indexed key value rows).get k = some v) :
    ∃ row ∈ rows, key row = k ∧ value row = v := by
  induction rows using List.reverseRecOn with
  | nil => cases h
  | append_singleton rows row ih =>
    rw [indexed_concat,Dict.get_set] at h
    split_ifs at h with hkey
    · cases h
      exact ⟨row,by simp,hkey.symm,rfl⟩
    · obtain ⟨r,hr,hrest⟩ := ih h
      exact ⟨r,List.mem_append_left _ hr,hrest⟩

theorem get_of_mem {k : κ} (hk : k ∈ rows.map key) : ∃ v, (indexed key value rows).get k = some v := by
  induction rows using List.reverseRecOn with
  | nil => cases hk
  | append_singleton rows row ih =>
    rw [indexed_concat,Dict.get_set]
    split_ifs with hkey
    · exact ⟨_,rfl⟩
    · apply ih
      simpa [hkey] using hk

theorem get_indexed (hkeys : (rows.map key).Nodup) {row : ρ} (hrow : row ∈ rows) :
    (indexed key value rows).get (key row) = some (value row) := by
  have hk : key row ∈ rows.map key := List.mem_map_of_mem hrow
  obtain ⟨v,hv⟩ := @get_of_mem _ _ ν _ _ value _ _ hk
  obtain ⟨r,hr,hkey,rfl⟩ := row_of_get hv
  rw [hv,List.inj_on_of_nodup_map hkeys hr hrow hkey]

end

section
variable {units : List ScaleUnit}

def DependsOn (units : List ScaleUnit) (a b : Identifier) : Prop :=
  b ∈ units.map (·.unitId) ∧ ∃ unit ∈ units, unit.unitId = a ∧ b ∈ unit.dependsOn
def DependencyCycle (units : List ScaleUnit) : Prop := ∃ unitId, Relation.TransGen (DependsOn units) unitId unitId

structure DependencyOrder (units order : List ScaleUnit) : Prop where
  perm : order.Perm units
  after : ∀ before unit rest, order = before ++ unit :: rest →
    ∀ dependency ∈ unit.dependsOn, ∃ u ∈ before, u.unitId = dependency

section
variable (hids : (units.map (·.unitId)).Nodup)
include hids

theorem leads_iff {a b : Identifier} :
    Leads (dependencies units) a b ↔ ∃ unit ∈ units, unit.unitId = a ∧ b ∈ unit.dependsOn := by
  unfold Leads dependencies dependencyGraph
  constructor
  · intro h
    cases hget : (indexed (·.unitId) (·.dependsOn) units).get a with
    | none =>
      rw [hget] at h
      cases h
    | some deps =>
      rw [hget] at h
      obtain ⟨unit,hunit,hid,rfl⟩ := row_of_get hget
      exact ⟨unit,hunit,hid,h⟩
  · intro h
    obtain ⟨unit,hunit,rfl,hb⟩ := h
    rw [get_indexed hids hunit]
    exact hb

theorem dependsOn_of_leads {a b : Identifier} (hb : b ∈ units.map (·.unitId))
    (h : Relation.TransGen (Leads (dependencies units)) a b) : Relation.TransGen (DependsOn units) a b := by
  induction h using Relation.TransGen.head_induction_on with
  | single hstep => exact .single ⟨hb,(leads_iff hids).mp hstep⟩
  | head hstep hrest ih =>
    obtain ⟨c,hc,-⟩ := Relation.TransGen.head'_iff.mp hrest
    obtain ⟨unit,hunit,rfl,-⟩ := (leads_iff hids).mp hc
    exact .head ⟨List.mem_map_of_mem hunit,(leads_iff hids).mp hstep⟩ ih

theorem cyclic_iff : DepthFirst.Cyclic (dependencies units) ↔ DependencyCycle units := by
  constructor
  · intro h
    obtain ⟨a,ha⟩ := h
    obtain ⟨c,hc,-⟩ := Relation.TransGen.head'_iff.mp ha
    obtain ⟨unit,hunit,rfl,-⟩ := (leads_iff hids).mp hc
    exact ⟨unit.unitId,dependsOn_of_leads hids (List.mem_map_of_mem hunit) ha⟩
  · intro h
    obtain ⟨a,ha⟩ := h
    have hmono : DependsOn units ≤ Leads (dependencies units) := fun _ _ hstep => (leads_iff hids).mpr hstep.2
    exact ⟨a,Relation.TransGen.mono hmono _ _ ha⟩

theorem leads_known (a b : Identifier) (h : Leads (dependencies units) a b) :
    a ∈ firstSeen (units.map (·.unitId)) := by
  obtain ⟨unit,hunit,rfl,-⟩ := (leads_iff hids).mp h
  exact mem_firstSeen.mpr (List.mem_map_of_mem hunit)

theorem rejectDependencyCycles_cases (depth : ℕ) :
    (rejectDependencyCycles depth units = .error (.valueError "scale unit dependency cycle") ∧ DependencyCycle units) ∨
      (rejectDependencyCycles depth units = .error .recursion ∧ depth ≤ units.length) ∨
      rejectDependencyCycles depth units = .ok () ∧ ¬DependencyCycle units ∧
        ∃ visited, PostOrdered (dependencies units) visited ∧ ∀ unit ∈ units, unit.unitId ∈ visited := by
  unfold rejectDependencyCycles
  rw [← cyclic_iff hids]
  rcases search_outcome (leads_known hids) depth with ⟨hsearch,hcyclic⟩ | ⟨hsearch,hdepth⟩ | ⟨s,hsearch,hacyclic,hordered,hall⟩
  · rw [hsearch]
    exact .inl ⟨rfl,hcyclic⟩
  · rw [hsearch]
    have hlength := length_firstSeen (units.map (·.unitId))
    rw [List.length_map] at hlength
    exact .inr (.inl ⟨rfl,hdepth.trans hlength⟩)
  · rw [hsearch]
    exact .inr (.inr ⟨rfl,hacyclic,s.visited,hordered,fun unit hunit =>
      hall _ (mem_firstSeen.mpr (List.mem_map_of_mem hunit))⟩)

end

end

section
variable {units : List ScaleUnit}

def unitsOf (units : List ScaleUnit) (ids : List Identifier) : List ScaleUnit :=
  ids.filterMap (indexed (·.unitId) (fun unit => unit) units).get

theorem unit_get_iff (hids : (units.map (·.unitId)).Nodup) {unitId : Identifier} {unit : ScaleUnit} :
    (indexed (·.unitId) (fun unit => unit) units).get unitId = some unit ↔ unit ∈ units ∧ unit.unitId = unitId := by
  constructor
  · intro h
    obtain ⟨u,hu,hid,rfl⟩ := row_of_get h
    exact ⟨hu,hid⟩
  · intro h
    rw [← h.2]
    exact get_indexed hids h.1

theorem unitsOf_perm (hids : (units.map (·.unitId)).Nodup) {ids : List Identifier} (hnodup : ids.Nodup)
    (hall : ∀ unit ∈ units, unit.unitId ∈ ids) : (unitsOf units ids).Perm units := by
  have hinj : ∀ a b unit, unit ∈ (indexed (·.unitId) (fun unit => unit) units).get a →
      unit ∈ (indexed (·.unitId) (fun unit => unit) units).get b → a = b := by
    intro a b unit ha hb
    exact ((unit_get_iff hids).mp ha).2.symm.trans ((unit_get_iff hids).mp hb).2
  unfold unitsOf
  rw [List.perm_ext_iff_of_nodup (hnodup.filterMap hinj) (List.Nodup.of_map _ hids)]
  intro unit
  rw [List.mem_filterMap]
  constructor
  · intro h
    obtain ⟨unitId,-,hget⟩ := h
    exact ((unit_get_iff hids).mp hget).1
  · intro h
    exact ⟨unit.unitId,hall unit h,(unit_get_iff hids).mpr ⟨h,rfl⟩⟩

theorem order_of_ordered (hids : (units.map (·.unitId)).Nodup) {visited : List Identifier}
    (hordered : PostOrdered (dependencies units) visited) (hall : ∀ unit ∈ units, unit.unitId ∈ visited)
    (hknown : ∀ unit ∈ units, ∀ dependency ∈ unit.dependsOn, dependency ∈ units.map (·.unitId)) :
    DependencyOrder units (unitsOf units visited.reverse) := by
  have hperm : (unitsOf units visited.reverse).Perm units :=
    unitsOf_perm hids (List.nodup_reverse.mpr hordered.nodup) fun unit hunit => List.mem_reverse.mpr (hall unit hunit)
  refine ⟨hperm,?_⟩
  intro before unit rest horder dependency hdependency
  have hunit : unit ∈ units := hperm.mem_iff.mp (by simp [horder])
  obtain ⟨first,last,hsplit,hbefore,hlast⟩ := List.filterMap_eq_append_iff.mp horder
  obtain ⟨skipped,unitId,after,rfl,hskipped,hget,-⟩ := List.filterMap_eq_cons_iff.mp hlast
  obtain ⟨-,rfl⟩ := (unit_get_iff hids).mp hget
  have hvisited : visited = after.reverse ++ unit.unitId :: (first ++ skipped).reverse := by
    rw [← List.reverse_reverse visited,hsplit]
    simp
  rw [hvisited] at hordered
  have hleads : Leads (dependencies units) unit.unitId dependency := (leads_iff hids).mpr ⟨unit,hunit,rfl,hdependency⟩
  have hmem := hordered.split dependency hleads
  obtain ⟨u,hu,rfl⟩ := List.mem_map.mp (hknown unit hunit dependency hdependency)
  have hfound := (unit_get_iff hids).mpr ⟨hu,rfl⟩
  refine ⟨u,?_,rfl⟩
  rw [List.mem_reverse,List.mem_append] at hmem
  rcases hmem with hmem | hmem
  · rw [← hbefore]
    exact List.mem_filterMap.mpr ⟨u.unitId,hmem,hfound⟩
  · rw [hskipped _ hmem] at hfound
    cases hfound

theorem ScaleAuthority.links {depth : ℕ} (authority : ScaleAuthority depth) :
    (authority.inventory.units.map (·.unitId)).Nodup ∧
      (∀ unit ∈ authority.inventory.units, ∀ dependency ∈ unit.dependsOn,
        dependency ∈ authority.inventory.units.map (·.unitId)) ∧
      rejectDependencyCycles depth authority.inventory.units = .ok () := by
  obtain ⟨_,hidentities,h⟩ := bind_ok.mp authority.accepted
  obtain ⟨_,_,h⟩ := bind_ok.mp h
  obtain ⟨_,_,h⟩ := bind_ok.mp h
  obtain ⟨_,hlinks,h⟩ := bind_ok.mp h
  obtain ⟨_,_,hcycles⟩ := bind_ok.mp h
  obtain ⟨_,h⟩ := refuse_bind_ok.mp hidentities
  obtain ⟨_,h⟩ := refuse_bind_ok.mp h
  obtain ⟨_,h⟩ := refuse_bind_ok.mp h
  obtain ⟨hids,_⟩ := refuse_bind_ok.mp h
  refine ⟨not_not.mp hids,?_,hcycles⟩
  intro unit hunit dependency hdependency
  obtain ⟨_,_,h⟩ := found_bind_ok.mp (forM_ok.mp hlinks unit hunit)
  obtain ⟨_,_,h⟩ := bind_ok.mp h
  obtain ⟨_,_,h⟩ := bind_ok.mp h
  obtain ⟨_,_,h⟩ := bind_ok.mp h
  obtain ⟨_,hunknown⟩ := refuse_bind_ok.mp (forM_ok.mp h dependency hdependency)
  obtain ⟨u,hu⟩ := Option.ne_none_iff_exists'.mp (refuse_ok.mp hunknown)
  obtain ⟨row,hrow,hid,-⟩ := row_of_get hu
  exact List.mem_map.mpr ⟨row,hrow,hid⟩

end

/-- Unless calls run out, which they do not while there are more of them than units, the check raises exactly for a cycle of
dependencies between known units; and the units of an accepted inventory can be put in order. -/
theorem dependency_check_exact (units : List ScaleUnit) (hids : (units.map (·.unitId)).Nodup) :
    (∀ depth, units.length < depth →
      (rejectDependencyCycles depth units = .error (.valueError "scale unit dependency cycle") ↔ DependencyCycle units) ∧
        (rejectDependencyCycles depth units = .ok () ↔ ¬DependencyCycle units)) ∧
      ∀ depth (authority : ScaleAuthority depth), authority.inventory.units = units →
        ∃ order, DependencyOrder units order := by
  constructor
  · intro depth hdepth
    rcases rejectDependencyCycles_cases hids depth with ⟨h,hcycle⟩ | ⟨_,hshort⟩ | ⟨h,hacyclic,_⟩
    · rw [h]
      exact ⟨iff_of_true rfl hcycle,iff_of_false (by simp) (not_not.mpr hcycle)⟩
    · omega
    · rw [h]
      exact ⟨iff_of_false (by simp) hacyclic,iff_of_true rfl hacyclic⟩
  · intro depth authority hunits
    subst hunits
    obtain ⟨_,hknown,haccepted⟩ := authority.links
    rcases rejectDependencyCycles_cases hids depth with ⟨h,_⟩ | ⟨h,_⟩ | ⟨_,_,visited,hordered,hall⟩
    · rw [haccepted] at h
      cases h
    · rw [haccepted] at h
      cases h
    · exact ⟨_,order_of_ordered hids hordered hall hknown⟩

namespace Sample

def gate : Identifier := ⟨"gate",by decide⟩
def search : Identifier := ⟨"search",by decide⟩
def ingest : Identifier := ⟨"ingest",by decide⟩
def store : Identifier := ⟨"store",by decide⟩

theorem two_replicas : 1 ≤ 2 := by decide

def unitOf (unitId : Identifier) (dependsOn : List Identifier) (h : dependsOn.Nodup) : ScaleUnit where
  unitId := unitId
  workloadClassId := gate
  resourcePoolId := gate
  cadence := .serviceReplica
  controllerMode := .native
  delegatedController := none
  replicaWriterId := gate
  minReplicas := 1
  maxReplicas := 2
  reservedHeadroomReplicas := 0
  tenantQuota := ⟨gate,2,0⟩
  failureDomainId := gate
  dependsOn := dependsOn
  bounds := two_replicas
  quotaCovers := by decide
  localIsNative := by simp
  delegation := by simp
  dependsOnce := h

def shared : List ScaleUnit :=
  [unitOf gate [search,ingest] (by decide),unitOf search [store] (by decide),unitOf ingest [store] (by decide),
    unitOf store [] (by decide)]

end Sample

open Sample in
theorem shared_store_acyclic : ¬DependencyCycle shared :=
  ((dependency_check_exact shared (by decide)).1 5 (by decide)).2.mp (by decide)

/-! Controller registrations are told apart by a text in which both of their names stand, and the mark between the names
may be in them too. -/
open Checks (refuse refuse_ok)

section

/-- What a registration should be told by. -/
def ControllerRegistration.names (registration : ControllerRegistration) : Identifier × Identifier :=
  (registration.unitId,registration.controllerId)

/-- The unit of the second goes on where the first's ends, and the first's controller begins with what it goes on by. -/
def ControllerRegistration.RunsInto (r r' : ControllerRegistration) : Prop :=
  ∃ w : List Char, r'.unitId.1.toList = r.unitId.1.toList ++ ':' :: w ∧
    r.controllerId.1.toList = w ++ ':' :: r'.controllerId.1.toList

/-- The check of `_validate_inventory_identities` that is about the controllers. -/
def controllersUnique (controllers : List ControllerRegistration) : Except AuthorityError Unit :=
  unique (controllers.map (·.identity)) "controller registration"

variable {controllers : List ControllerRegistration} {r r' : ControllerRegistration}

theorem identity_toList (r : ControllerRegistration) :
    r.identity.toList = r.unitId.1.toList ++ ':' :: r.controllerId.1.toList := by
  simp [ControllerRegistration.identity]

theorem identity_of_names (h : r.names = r'.names) : r.identity = r'.identity := by
  obtain ⟨hunit,hcontroller⟩ := Prod.mk.inj h
  unfold ControllerRegistration.identity
  rw [hunit,hcontroller]

theorem identity_eq_iff : r.identity = r'.identity ↔ r.names = r'.names ∨ r.RunsInto r' ∨ r'.RunsInto r := by
  rw [← String.toList_inj,identity_toList,identity_toList]
  constructor
  · intro h
    rcases JoinedText.joined_cases h with ⟨hunit,hcontroller⟩ | h | h
    · exact .inl (Prod.ext (Subtype.ext (String.toList_inj.mp hunit)) (Subtype.ext (String.toList_inj.mp hcontroller)))
    · exact .inr (.inl h)
    · exact .inr (.inr h)
  · intro h
    rcases h with h | ⟨w,hunit,hcontroller⟩ | ⟨w,hunit,hcontroller⟩
    · rw [← identity_toList,← identity_toList,identity_of_names h]
    · simp [hunit,hcontroller]
    · simp [hunit,hcontroller]

theorem controllersUnique_ok : controllersUnique controllers = .ok () ↔ (controllers.map (·.identity)).Nodup := by
  unfold controllersUnique unique
  rw [refuse_ok,not_not]

theorem controllersUnique_error :
    controllersUnique controllers = .error (.valueError "duplicate controller registration identity") ↔
      ¬(controllers.map (·.identity)).Nodup := by
  rw [← controllersUnique_ok]
  unfold controllersUnique unique refuse
  by_cases h : (controllers.map (·.identity)).Nodup
  · rw [if_neg (not_not.mpr h)]
    exact iff_of_false (by simp) (by simp)
  · rw [if_pos h]
    exact iff_of_true rfl (by simp)

theorem not_runsInto_self (r : ControllerRegistration) : ¬r.RunsInto r := by
  intro h
  obtain ⟨w,hunit,-⟩ := h
  have hlength := congrArg List.length hunit
  rw [List.length_append,List.length_cons] at hlength
  omega

theorem nodup_names (h : (controllers.map (·.identity)).Nodup) : (controllers.map (·.names)).Nodup := by
  have hjoined : controllers.map (·.identity) = (controllers.map (·.names)).map fun names => names.1.1 ++ ":" ++ names.2.1 := by
    rw [List.map_map]
    rfl
  rw [hjoined] at h
  exact h.of_map

theorem nodup_identities (hnames : (controllers.map (·.names)).Nodup)
    (hapart : ∀ r ∈ controllers, ∀ r' ∈ controllers, ¬r.RunsInto r') : (controllers.map (·.identity)).Nodup := by
  have hinj : ∀ r ∈ controllers, ∀ r' ∈ controllers, r.identity = r'.identity → r = r' := by
    intro r hr r' hr' h
    rcases identity_eq_iff.mp h with h | h | h
    · exact List.inj_on_of_nodup_map hnames hr hr' h
    · exact absurd h (hapart r hr r' hr')
    · exact absurd h (hapart r' hr' r hr)
  exact hnames.of_map.map_on hinj

/-- An accepted list stays accepted with a registration of new names, unless that and another run into each other. -/
theorem concat_unique_iff (hcontrollers : controllersUnique controllers = .ok ()) (hnew : r.names ∉ controllers.map (·.names)) :
    controllersUnique (controllers ++ [r]) = .ok () ↔ ∀ r' ∈ controllers, ¬r'.RunsInto r ∧ ¬r.RunsInto r' := by
  rw [controllersUnique_ok] at hcontrollers
  have hsplit : ((controllers ++ [r]).map (·.identity)).Nodup ↔ ∀ r' ∈ controllers, r'.identity ≠ r.identity := by
    simp [List.nodup_append,hcontrollers]
  rw [controllersUnique_ok,hsplit]
  refine forall₂_congr fun r' hr' => ?_
  have hnames : r'.names ≠ r.names := fun h => hnew (List.mem_map.mpr ⟨r',hr',h⟩)
  rw [Ne,identity_eq_iff]
  simp [hnames]

/-- Registrations are refused as doubles exactly if two have the same names, unless the names of one run into another's while
none has another's; a registration of new names is refused in just that case. -/
theorem duplicates_exact_iff (controllers : List ControllerRegistration) :
    ((controllersUnique controllers = .error (.valueError "duplicate controller registration identity") ↔
        ¬(controllers.map (·.names)).Nodup) ↔
      ¬(controllers.map (·.names)).Nodup ∨ ∀ r ∈ controllers, ∀ r' ∈ controllers, ¬r.RunsInto r') ∧
    ∀ r, controllersUnique controllers = .ok () → r.names ∉ controllers.map (·.names) →
      (controllersUnique (controllers ++ [r]) = .ok () ↔ ∀ r' ∈ controllers, ¬r'.RunsInto r ∧ ¬r.RunsInto r') := by
  refine ⟨?_,fun r => concat_unique_iff⟩
  rw [controllersUnique_error,not_iff_not]
  constructor
  · intro h
    by_cases hnames : (controllers.map (·.names)).Nodup
    · refine .inr fun r hr r' hr' hruns => ?_
      have hsame := List.inj_on_of_nodup_map (h.mpr hnames) hr hr' (identity_eq_iff.mpr (.inr (.inl hruns)))
      exact not_runsInto_self r (hsame ▸ hruns)
    · exact .inl hnames
  · intro h
    refine ⟨nodup_names,fun hnames => ?_⟩
    exact nodup_identities hnames (h.resolve_left (not_not.mpr hnames))

end

namespace Sample

def plane : Identifier := ⟨"plane",by decide⟩
def edge : Identifier := ⟨"edge",by decide⟩
def edgeCache : Identifier := ⟨"edge:cache",by decide⟩
def cacheWriter : Identifier := ⟨"cache:writer",by decide⟩
def writer : Identifier := ⟨"writer",by decide⟩

def writtenUnit (unitId replicaWriterId : Identifier) : ScaleUnit where
  unitId := unitId
  workloadClassId := plane
  resourcePoolId := plane
  cadence := .serviceReplica
  controllerMode := .native
  delegatedController := none
  replicaWriterId := replicaWriterId
  minReplicas := 1
  maxReplicas := 2
  reservedHeadroomReplicas := 0
  tenantQuota := ⟨plane,2,0⟩
  failureDomainId := plane
  dependsOn := []
  bounds := two_replicas
  quotaCovers := by decide
  localIsNative := by simp
  delegation := by simp
  dependsOnce := List.nodup_nil

def writing (unitId controllerId : Identifier) : ControllerRegistration :=
  ⟨unitId,controllerId,.native,none,true,by simp⟩

def adjacent : Inventory where
  failureDomains := [⟨plane⟩]
  pools := [⟨plane,8,0,0,plane,⟨plane,8,0⟩,by decide,by decide⟩]
  workloads := [⟨plane,plane,plane,.serviceReplica,4,⟨plane,8,0⟩⟩]
  units := [writtenUnit edge cacheWriter,writtenUnit edgeCache writer]
  controllers := [writing edge cacheWriter,writing edgeCache writer]

end Sample

open Sample in
/-- Units `edge` and `edge:cache`: all else about them is accepted, and their controllers count as doubles. -/
theorem adjacent_refused : (adjacent.controllers.map (·.names)).Nodup ∧
    validateInventory 8 adjacent = .error (.valueError "duplicate controller registration identity") ∧
    validatePoolLinks adjacent.pools (inventoryMaps adjacent).domains = .ok () ∧
    validateWorkloadLinks adjacent.workloads (inventoryMaps adjacent).pools = .ok () ∧
    validateUnitLinks adjacent.units (inventoryMaps adjacent) = .ok () ∧
    validateControllerLinks adjacent.units adjacent.controllers (inventoryMaps adjacent).units = .ok () := by
  decide +kernel

end Arbora.Scaling
