import Arbora.Connectors.Service

/-! The revisions of desired states over every interleaving of calls. -/
namespace Arbora.Connectors
open Agents (Identifier)
open Interaction Prog

def Follows (stored desired : DesiredConnectorState) : Prop :=
  stored.revision.1 ≤ desired.revision.1 ∧ (stored.revision = desired.revision → stored = desired)

section
variable {α β : Type} {job : Job} {h : List (Event Call Call.Answer)}

/-- What a method has made sure of before each of its calls. -/
def Guard (job : Job) (h : List (Event Call Call.Answer)) : Call → Prop
  | .putDesired desired =>
    match job with
    | .register registration => desired = registration.desired
    | .setDesired scope wanted => desired = wanted ∧ ∀ stored,
        ⟨.getDesired scope wanted.server.serverId,.ok (some stored)⟩ ∈ h → stored.revision.1 < wanted.revision.1
    | _ => False
  | _ => True

abbrev Fine (job : Job) (p : Step α) (h : List (Event Call Call.Answer)) : Prop :=
  p.Meets record (Guard job) (fun _ _ => True) (fun _ _ => True) h

variable {e : Call} {f : α → Step β} {x : ConnectorError}

theorem fine_bind {p : Step α} (hp : Fine job p h) (hf : ∀ h a, Fine job (f a) h) :
    Fine job (p.bind f) h := hp.seq fun h' a _ => hf h' a

theorem fine_refuse_bind {c : Prop} {d : Decidable c} {f : Unit → Step β}
    (hf : ¬c → Fine job (f ()) h) : Fine job ((refuse c x).bind f) h :=
  meets_refuse_bind.mpr ⟨fun _ => trivial,hf⟩

theorem fine_found_bind {o : Option α} (hf : ∀ a, o = some a → Fine job (f a) h) : Fine job ((found o x).bind f) h :=
  meets_found_bind.mpr ⟨fun _ => trivial,hf⟩

theorem fine_demand (hg : Guard job h e) : Fine job (ask e) h := by
  refine ⟨hg,?_⟩
  rintro (x | a) _ _
  · trivial
  · trivial

theorem fine_demand_bind {f : e.Result → Step β} (hg : Guard job h e)
    (hf : ∀ a, Fine job (f a) (h ++ [⟨e,.ok a⟩])) : Fine job ((ask e).bind f) h := by
  refine meets_demand_bind.mpr ⟨hg,?_⟩
  rintro r _ rfl
  refine ⟨fun _ _ => trivial,?_⟩
  rintro a rfl
  exact hf a

theorem fine_register (registration : ConnectorRegistration) :
    Fine (.register registration) (register registration) h := by
  refine fine_demand_bind trivial fun _ => fine_demand_bind trivial fun _ => ?_
  exact fine_demand_bind trivial fun _ => fine_demand_bind trivial fun _ => fine_demand rfl

theorem fine_setDesired (scope : AccessScope) (desired : DesiredConnectorState) :
    Fine (.setDesired scope desired) (setDesired scope desired) [] := by
  refine fine_refuse_bind fun _ => fine_demand_bind trivial fun current => fine_refuse_bind fun hfresh => ?_
  refine fine_demand_bind trivial fun version => fine_found_bind fun version _ => fine_refuse_bind fun _ => ?_
  refine fine_refuse_bind fun _ => fine_demand ⟨rfl,?_⟩
  intro stored hread
  have hcurrent : current = some stored := by simpa [eq_comm] using hread
  rw [hcurrent,Option.any_some,decide_eq_true_eq] at hfresh
  exact not_le.mp hfresh

theorem fine_reconcile (scope : AccessScope) (serverId : Identifier) (observation : Option Observation) :
    Fine job (reconcile scope serverId observation) h := by
  refine fine_demand_bind trivial fun _ => fine_demand_bind trivial fun _ => fine_found_bind fun _ _ => ?_
  refine fine_found_bind fun _ _ => fine_refuse_bind fun _ => fine_refuse_bind fun _ => fine_bind ?_ fun _ _ => ?_
  · cases observation with
    | none => exact fine_demand trivial
    | some observation => trivial
  refine fine_refuse_bind fun _ => fine_demand_bind trivial fun _ => fine_found_bind fun _ _ => ?_
  exact fine_refuse_bind fun _ => trivial

theorem fine_recordObservation (scope : AccessScope) (observation : Observation) :
    Fine job (recordObservation scope observation) h := by
  refine fine_demand_bind trivial fun _ => fine_found_bind fun _ _ => fine_refuse_bind fun _ => ?_
  exact fine_demand_bind trivial fun _ => fine_reconcile scope observation.serverId (some observation)

theorem fine_run (job : Job) : Fine job job.run [] := by
  cases job with
  | register registration => exact fine_bind (fine_register registration) fun _ _ => trivial
  | setDesired scope desired => exact fine_bind (fine_setDesired scope desired) fun _ _ => trivial
  | recordObservation scope observation => exact fine_bind (fine_recordObservation scope observation) fun _ _ => trivial
  | reconcile scope serverId observation => exact fine_bind (fine_reconcile scope serverId observation) fun _ _ => trivial

end

section
variable {ι : Type}

abbrev Log (ι : Type) := List (ι × Event Call Call.Answer)

def written : Event Call Call.Answer → Option DesiredConnectorState
  | ⟨.putDesired desired,.ok ()⟩ => some desired
  | _ => none

def storeAfter (start : Store) (log : Log ι) : Store :=
  (log.filterMap fun x => written x.2).foldl Store.put start
def storedFor (start : Store) (log : Log ι) (serverId : Identifier) : List DesiredConnectorState :=
  (start.get serverId).toList ++ (log.filterMap fun x => written x.2).filter (·.server.serverId = serverId)
def NeverGoesBack (start : Store) (log : Log ι) : Prop :=
  ∀ serverId, (storedFor start log serverId).Pairwise Follows

def HasRead (job : Job) (stored : Option DesiredConnectorState) (own : List (Event Call Call.Answer)) : Prop :=
  match job with
  | .setDesired scope desired => ⟨.getDesired scope desired.server.serverId,.ok stored⟩ ∈ own
  | _ => False

variable {a b desired : DesiredConnectorState}

theorem follows_of_hasRead {job : Job} {stored : DesiredConnectorState} {own : List (Event Call Call.Answer)}
    (hguard : Guard job own (.putDesired desired)) {current : Option DesiredConnectorState}
    (hread : HasRead job current own) (hstored : current = some stored) : stored.revision.1 < desired.revision.1 := by
  cases job with
  | setDesired scope wanted =>
    obtain ⟨rfl,hall⟩ := hguard
    rw [hstored] at hread
    exact hall stored hread
  | register registration => cases hread
  | recordObservation scope observation => cases hread
  | reconcile scope serverId observation => cases hread

theorem getLast_storedFor (start : Store) (log : Log ι) (serverId : Identifier) :
    (storedFor start log serverId).getLast? = (storeAfter start log).get serverId := by
  unfold storedFor storeAfter
  generalize log.filterMap (fun x => written x.2) = writes
  induction writes using List.reverseRecOn with
  | nil => cases hget : start.get serverId <;> simp [hget]
  | append_singleton writes desired ih =>
    rw [List.filter_append,List.foldl_append,← List.append_assoc,List.foldl_cons,List.foldl_nil,Store.put,
      Dict.get_set]
    by_cases hserver : desired.server.serverId = serverId
    · rw [if_pos hserver.symm,List.filter_cons_of_pos (by simpa using hserver),List.filter_nil,List.getLast?_concat]
    · rw [if_neg (Ne.symm hserver),List.filter_cons_of_neg (by simpa using hserver),List.filter_nil,List.append_nil,
        ih]

instance (a b : DesiredConnectorState) : Decidable (Follows a b) := inferInstanceAs (Decidable (_ ∧ _))

theorem Follows.trans {c : DesiredConnectorState} (hab : Follows a b) (hbc : Follows b c) : Follows a c := by
  refine ⟨hab.1.trans hbc.1,fun hsame => ?_⟩
  have hfirst : a.revision = b.revision := by
    apply Subtype.ext
    have hends := congrArg Subtype.val hsame
    exact le_antisymm hab.1 (hends ▸ hbc.1)
  rw [hab.2 hfirst]
  exact hbc.2 (hfirst.symm.trans hsame)

theorem follows_iff : Follows a b ↔ a.revision.1 < b.revision.1 ∨ a = b := by
  constructor
  · intro h
    rcases lt_or_eq_of_le h.1 with hlt | heq
    · exact .inl hlt
    · exact .inr (h.2 (Subtype.ext heq))
  · rintro (hlt | rfl)
    · exact ⟨hlt.le,fun hsame => absurd (congrArg Subtype.val hsame) hlt.ne⟩
    · exact ⟨le_rfl,fun _ => rfl⟩

theorem pairwise_follows_concat {history : List DesiredConnectorState} : (history ++ [desired]).Pairwise Follows ↔
      history.Pairwise Follows ∧ ∀ stored, history.getLast? = some stored → Follows stored desired := by
  rw [List.pairwise_append]
  constructor
  · rintro ⟨hpair,_,hall⟩
    refine ⟨hpair,fun stored hstored => hall stored (List.mem_of_getLast? hstored) desired (List.mem_singleton_self _)⟩
  · rintro ⟨hpair,hlast⟩
    refine ⟨hpair,List.pairwise_singleton _ _,fun a ha b hb => ?_⟩
    cases List.mem_singleton.mp hb
    rcases List.eq_nil_or_concat history with rfl | ⟨front,stored,rfl⟩
    · cases ha
    · rw [List.concat_eq_append] at hpair ha hlast
      have hstored := hlast stored List.getLast?_concat
      rcases List.mem_append.mp ha with hfront | hsame
      · exact ((List.pairwise_append.mp hpair).2.2 a hfront stored (List.mem_singleton_self _)).trans hstored
      · cases List.mem_singleton.mp hsame
        exact hstored

theorem storedFor_concat (start : Store) (log : Log ι) (i : ι) (x : Event Call Call.Answer) (serverId : Identifier) :
    storedFor start (log ++ [(i,x)]) serverId =
      storedFor start log serverId ++ ((written x).toList.filter (·.server.serverId = serverId)) := by
  unfold storedFor
  cases hx : written x with
  | none => simp [hx]
  | some desired => simp [hx]

theorem storedFor_append (start : Store) (log rest : Log ι) (serverId : Identifier) :
    storedFor start (log ++ rest) serverId = storedFor start log serverId ++
      (rest.filterMap fun x => written x.2).filter (·.server.serverId = serverId) := by
  unfold storedFor
  rw [List.filterMap_append,List.filter_append,List.append_assoc]

theorem filter_own (desired : DesiredConnectorState) :
    [desired].filter (·.server.serverId = desired.server.serverId) = [desired] :=
  List.filter_eq_self.mpr fun a ha => by simp [List.mem_singleton.mp ha]

theorem written_eq_some {x : Event Call Call.Answer} (h : written x = some desired) :
    x = ⟨.putDesired desired,.ok ()⟩ := by
  obtain ⟨e,r⟩ := x
  unfold written at h
  split at h
  · rename_i heq
    cases h
    exact heq
  · cases h

end

section
variable {ι : Type} [DecidableEq ι] {visible : AccessScope → DesiredConnectorState → Bool} {jobs : ι → Job}
  {start : Store} {log : Log ι} {d : Pool ι Call Call.Answer ConnectorError (Option ConnectorReconciliation) Store}

abbrev calls (jobs : ι → Job) (start : Store) :
    Pool ι Call Call.Answer ConnectorError (Option ConnectorReconciliation) Store := ⟨start,fun i => (jobs i).run⟩

def UncheckedWritesFollow (jobs : ι → Job) (start : Store) (log : Log ι) : Prop :=
  ∀ before after i desired, log = before ++ (i,⟨.putDesired desired,.ok ()⟩) :: after →
    ¬ HasRead (jobs i) ((storeAfter start before).get desired.server.serverId) (Pool.own i before) →
    ∀ stored, (storeAfter start before).get desired.server.serverId = some stored →
      stored.revision.1 < desired.revision.1 ∨ stored = desired

theorem uncheckedWritesFollow_of_concat {x : ι × Event Call Call.Answer}
    (h : UncheckedWritesFollow jobs start (log ++ [x])) : UncheckedWritesFollow jobs start log := by
  intro before after i desired hlog
  exact h before (after ++ [x]) i desired (by rw [hlog,List.append_assoc,List.cons_append])

/-- Over every interleaving, desired state never goes back exactly when the unchecked writes follow. -/
theorem neverGoesBack_iff (h : Pool.Steps (Store.Serves visible) (calls jobs start) log d) :
    NeverGoesBack start log ↔ UncheckedWritesFollow jobs start log := by
  constructor
  · intro hnever before after i desired hlog _ stored hstored
    have hpair := hnever desired.server.serverId
    rw [hlog,List.append_cons,storedFor_append,storedFor_concat] at hpair
    rw [written,Option.toList_some,filter_own] at hpair
    have hlast := (pairwise_follows_concat.mp (List.pairwise_append.mp hpair).1).2
    exact follows_iff.mp (hlast stored ((getLast_storedFor start before _).trans hstored))
  · intro hunchecked
    induction h with
    | refl =>
      intro serverId
      unfold storedFor
      cases start.get serverId with
      | none => exact .nil
      | some stored => exact List.pairwise_singleton _ _
    | @tail log d i e k r s hsteps hp hw ih =>
      have hnever := ih (uncheckedWritesFollow_of_concat hunchecked)
      have hguard := hsteps.meets i (fine_run (jobs i))
      rw [hp] at hguard
      intro serverId
      rw [storedFor_concat]
      cases hwritten : written ⟨e,r⟩ with
      | none => simpa using hnever serverId
      | some desired =>
        obtain ⟨rfl,hr⟩ := Sigma.mk.inj_iff.mp (written_eq_some hwritten)
        cases hr
        by_cases hserver : desired.server.serverId = serverId
        · subst hserver
          rw [Option.toList_some,filter_own]
          refine pairwise_follows_concat.mpr ⟨hnever _,fun stored hlast => follows_iff.mpr ?_⟩
          have hstored := (getLast_storedFor start log _).symm.trans hlast
          by_cases hread : HasRead (jobs i) ((storeAfter start log).get desired.server.serverId) (Pool.own i log)
          · exact .inl (follows_of_hasRead hguard.1 hread hstored)
          · exact hunchecked log [] i desired rfl hread stored hstored
        · rw [Option.toList_some,List.filter_cons_of_neg (by simpa using hserver),List.filter_nil,List.append_nil]
          exact hnever serverId

end

namespace Fixture

def name (t : String) (h : Agents.isIdentifierOf 192 t = true := by decide +kernel) : Identifier := ⟨t,h⟩

theorem tenant_isIdentifier : Agents.isIdentifierOf 192 "tenant" = true := by decide +kernel
theorem publisher_isIdentifier : Agents.isIdentifierOf 192 "publisher" = true := by decide +kernel
theorem package_isIdentifier : Agents.isIdentifierOf 192 "package" = true := by decide +kernel
theorem operator_isIdentifier : Agents.isIdentifierOf 192 "operator" = true := by decide +kernel
theorem version_isVersionText : Agents.isVersionText "1.0.0" = true := by decide +kernel
theorem first_revision : 1 ≤ 1 := le_rfl
theorem second_revision : 1 ≤ 2 := by decide
theorem none_few : 0 ≤ 64 := Nat.zero_le 64
theorem none_ordered : List.Pairwise (fun a b : String => a < b) [] := .nil

def version' : Agents.VersionText := ⟨"1.0.0",version_isVersionText⟩
def manifest : PolicyPlane.Digest :=
  ⟨"sha256:ffffffffffffffffffffffffffffffffffffffffffffffffffffffffffffffff",by decide +kernel⟩
def identity : ConnectorIdentity := ⟨_,name "publisher" publisher_isIdentifier,name "package" package_isIdentifier,.mcp,rfl⟩
def server : ServerIdentity := ⟨_,identity,name "tenant" tenant_isIdentifier,name "instance",name "Server",rfl⟩

def compatibility : CompatibilityProfile where
  protocol := .mcp
  protocolVersions := [version']
  engineVersions := []
  platforms := []
  features := []
  nonempty := List.cons_ne_nil _ _
  normalized := by decide +kernel

def inventory : InventoryReference where
  packageRef := ⟨name "package:one",by decide +kernel⟩
  packageVersion := version'
  manifestRef := ⟨name "manifest:one",by decide +kernel⟩
  manifestDigest := manifest
  sourceRef := ⟨name "source:one",by decide +kernel⟩
  signerRef := none

def release : ConnectorVersion where
  versionId := _
  connectorId := identity.connectorId
  version := version'
  manifestRef := name "manifest:one"
  manifestDigest := manifest
  mappingDigest := manifest
  compatibility := compatibility
  capabilities := []
  setDigest := capabilitySetDigest []
  inventory := inventory
  sameInventory := ⟨rfl,rfl,rfl⟩
  normalized := ⟨Nat.zero_le _,List.Pairwise.nil⟩
  digested := rfl
  derived := rfl

def wanted (status : DesiredStatus) (revision : {n : ℕ // 1 ≤ n}) : DesiredConnectorState :=
  ⟨server,release.versionId,name "manifest:one",status,revision,name "change:one"⟩
def scope : AccessScope := ⟨name "tenant" tenant_isIdentifier,name "operator" operator_isIdentifier,[],none_few,none_ordered⟩

/-- One operator registers a server, two others change it at the same time. -/
def jobs : Fin 3 → Job
  | 0 => .register ⟨identity,server,inventory,release,wanted .disabled ⟨1,first_revision⟩,rfl,⟨rfl,rfl⟩,rfl,rfl,rfl⟩
  | 1 => .setDesired scope (wanted .enabled ⟨2,second_revision⟩)
  | 2 => .setDesired scope (wanted .quarantined ⟨3,by decide⟩)

def answer (s : Store) : (e : Call) → e.Answer × Store
  | .putConnector _ | .putServer _ | .putInventory _ | .putVersion _ | .appendObservation _ => (.ok (),s)
  | .putDesired desired => (.ok (),s.put desired)
  | .getServer _ _ => (.ok (some server),s)
  | .getVersion _ _ => (.ok (some release),s)
  | .getDesired _ serverId => (.ok (s.get serverId),s)
  | .getLatestObservation _ _ => (.ok none,s)

theorem serves_answer (s : Store) (e : Call) : Store.Serves (fun _ _ => true) s e (answer s e).1 (answer s e).2 := by
  cases e with
  | getDesired scope serverId =>
    have hread := @Store.Serves.getDesired (fun _ _ => true) s scope serverId
    have hall : (s.get serverId).filter (fun _ => true) = s.get serverId := by cases s.get serverId <;> rfl
    rwa [hall] at hread
  | _ => constructor

def schedule : List (Fin 3) := [0,0,0,0,0,1,2,2,2,1,1].filterMap fun n => (List.finRange 3)[n]?

abbrev log : Log (Fin 3) := (Pool.drive answer schedule (calls jobs ∅)).1

end Fixture

/-- Revision two is stored over revision three: an operator's change is lost. -/
theorem overlapping_changes_go_back : ¬ ∀ (ι : Type) [DecidableEq ι] (visible : AccessScope → DesiredConnectorState → Bool)
    (jobs : ι → Job) (start : Store) (log : Log ι)
    (d : Pool ι Call Call.Answer ConnectorError (Option ConnectorReconciliation) Store),
    Pool.Steps (Store.Serves visible) (calls jobs start) log d → NeverGoesBack start log := by
  intro h
  have hnever := h (Fin 3) (fun _ _ => true) Fixture.jobs ∅ Fixture.log _ (Pool.drive_steps Fixture.serves_answer _ _)
  have hback : ¬ (storedFor ∅ Fixture.log Fixture.server.serverId).Pairwise Follows := by decide +kernel
  exact hback (hnever Fixture.server.serverId)

theorem overlapping_changes_iff : NeverGoesBack ∅ Fixture.log ↔ UncheckedWritesFollow Fixture.jobs ∅ Fixture.log :=
  neverGoesBack_iff (Pool.drive_steps Fixture.serves_answer Fixture.schedule (calls Fixture.jobs ∅))

end Arbora.Connectors
