import Arbora.Lib.Graphs
import Arbora.Lib.Dict
import Arbora.Lib.Lists
import Arbora.Signals.Models

/-! The inventory of scaling authority: pools, workloads, units and their controllers, and how its validator links
them. -/
namespace Arbora.Scaling
open Arbora.Signals (Identifier)
open Checks (refuse found)
open Repetition (firstSeen)

/-- `recursion` is what the interpreter raises when calls do not fit into each other any more. -/
inductive AuthorityError where
  | valueError (message : String)
  | recursion
  deriving DecidableEq

inductive ScaleCadence where
  | engineLocal | shardPlacement | serviceReplica | agentTopology
  deriving DecidableEq

inductive ControllerMode where
  | native | delegated
  deriving DecidableEq

inductive DelegatedController where
  | hpa | keda
  deriving DecidableEq

structure FailureDomain where
  domainId : Identifier

structure QuotaPolicy where
  scope : Identifier
  (maxUnits burstUnits : ℕ)

structure ResourcePool where
  poolId : Identifier
  (capacityUnits allocatedUnits reservedHeadroomUnits : ℕ)
  failureDomainId : Identifier
  quota : QuotaPolicy
  capacity : allocatedUnits + reservedHeadroomUnits ≤ capacityUnits
  quotaCovered : quota.maxUnits + quota.burstUnits ≤ capacityUnits - reservedHeadroomUnits

structure WorkloadClass where
  (workloadId tenantRef resourcePoolId : Identifier)
  cadence : ScaleCadence
  maxConcurrency : ℕ
  quota : QuotaPolicy

structure ScaleUnit where
  (unitId workloadClassId resourcePoolId : Identifier)
  cadence : ScaleCadence
  controllerMode : ControllerMode
  delegatedController : Option DelegatedController
  replicaWriterId : Identifier
  (minReplicas maxReplicas reservedHeadroomReplicas : ℕ)
  tenantQuota : QuotaPolicy
  failureDomainId : Identifier
  dependsOn : List Identifier
  bounds : minReplicas ≤ maxReplicas
  quotaCovers : minReplicas ≤ tenantQuota.maxUnits
  localIsNative : cadence = .engineLocal → controllerMode = .native
  delegation : delegatedController.isSome = true ↔ controllerMode = .delegated
  dependsOnce : dependsOn.Nodup

structure ControllerRegistration where
  (unitId controllerId : Identifier)
  mode : ControllerMode
  delegatedController : Option DelegatedController
  writesReplicas : Bool
  delegation : delegatedController.isSome = true ↔ mode = .delegated

/-- The inventory before its validator has seen it. -/
structure Inventory where
  failureDomains : List FailureDomain
  pools : List ResourcePool
  workloads : List WorkloadClass
  units : List ScaleUnit
  controllers : List ControllerRegistration

/-- A dictionary of rows; a later row takes the place of an earlier one. -/
def indexed {ρ κ ν : Type} [DecidableEq κ] (key : ρ → κ) (value : ρ → ν) (rows : List ρ) : Dict κ ν :=
  rows.foldl (fun d row => d.set (key row) (value row)) ∅

structure AuthorityMaps where
  domains : Dict Identifier FailureDomain
  pools : Dict Identifier ResourcePool
  workloads : Dict Identifier WorkloadClass
  units : Dict Identifier ScaleUnit

def inventoryMaps (inventory : Inventory) : AuthorityMaps where
  domains := indexed (·.domainId) (fun domain => domain) inventory.failureDomains
  pools := indexed (·.poolId) (fun pool => pool) inventory.pools
  workloads := indexed (·.workloadId) (fun workload => workload) inventory.workloads
  units := indexed (·.unitId) (fun unit => unit) inventory.units

def unique {α : Type} [DecidableEq α] (values : List α) (label : String) : Except AuthorityError Unit :=
  refuse (¬values.Nodup) (.valueError ("duplicate " ++ label ++ " identity"))
def ControllerRegistration.identity (registration : ControllerRegistration) : String :=
  registration.unitId.1 ++ ":" ++ registration.controllerId.1

def validateInventoryIdentities (inventory : Inventory) : Except AuthorityError Unit := do
  unique (inventory.failureDomains.map (·.domainId)) "failure domain"
  unique (inventory.pools.map (·.poolId)) "resource pool"
  unique (inventory.workloads.map (·.workloadId)) "workload"
  unique (inventory.units.map (·.unitId)) "scale unit"
  unique (inventory.controllers.map (·.identity)) "controller registration"

def validatePoolLinks (pools : List ResourcePool) (domains : Dict Identifier FailureDomain) : Except AuthorityError Unit :=
  pools.forM fun pool => refuse (domains.get pool.failureDomainId = none)
    (.valueError "resource pool references an unknown failure domain")

def validateWorkloadLinks (workloads : List WorkloadClass) (pools : Dict Identifier ResourcePool) :
    Except AuthorityError Unit :=
  workloads.forM fun workload => do
    let pool ← found (pools.get workload.resourcePoolId) (.valueError "workload references an unknown resource pool")
    refuse (workload.quota.scope ≠ workload.tenantRef) (.valueError "workload quota scope must match tenant_ref")
    refuse (pool.capacityUnits - pool.reservedHeadroomUnits < workload.quota.maxUnits + workload.quota.burstUnits)
      (.valueError "workload quota plus burst exceeds pool headroom")
    refuse (workload.quota.maxUnits < workload.maxConcurrency)
      (.valueError "workload concurrency exceeds workload quota")

def validateUnitWorkload (unit : ScaleUnit) (workload : WorkloadClass) : Except AuthorityError Unit := do
  refuse (unit.resourcePoolId ≠ workload.resourcePoolId) (.valueError "scale unit pool differs from workload pool")
  refuse (unit.cadence ≠ workload.cadence) (.valueError "scale unit cadence differs from workload cadence")
  refuse (unit.tenantQuota.scope ≠ workload.tenantRef)
    (.valueError "scale unit quota scope must match workload tenant")
  refuse (unit.tenantQuota.maxUnits < unit.maxReplicas) (.valueError "scale unit max replicas exceed tenant quota")
  refuse (workload.quota.maxUnits < unit.tenantQuota.maxUnits) (.valueError "scale unit quota exceeds workload quota")
  refuse (workload.quota.burstUnits < unit.tenantQuota.burstUnits)
    (.valueError "scale unit burst exceeds workload burst")

def validateUnitPool (unit : ScaleUnit) (pool : Option ResourcePool) : Except AuthorityError ResourcePool := do
  let pool ← found pool (.valueError "scale unit references an unknown resource pool")
  refuse (pool.capacityUnits - pool.reservedHeadroomUnits < unit.reservedHeadroomReplicas + unit.maxReplicas)
    (.valueError "scale unit max replicas breach pool headroom")
  refuse (unit.tenantQuota.maxUnits < unit.minReplicas) (.valueError "scale unit quota is below its replica floor")
  .ok pool

def validateUnitDomain (unit : ScaleUnit) (pool : ResourcePool) (domains : Dict Identifier FailureDomain) :
    Except AuthorityError Unit := do
  refuse (domains.get unit.failureDomainId = none) (.valueError "scale unit references an unknown failure domain")
  refuse (unit.failureDomainId ≠ pool.failureDomainId)
    (.valueError "scale unit failure domain differs from resource pool")

def validateUnitDependencies (unit : ScaleUnit) (units : Dict Identifier ScaleUnit) : Except AuthorityError Unit :=
  unit.dependsOn.forM fun dependency => do
    refuse (dependency = unit.unitId) (.valueError "scale unit contains a self-dependency")
    refuse (units.get dependency = none) (.valueError "scale unit depends on an unknown unit")

def validateUnitLinks (units : List ScaleUnit) (maps : AuthorityMaps) : Except AuthorityError Unit :=
  units.forM fun unit => do
    let workload ← found (maps.workloads.get unit.workloadClassId)
      (.valueError "scale unit references an unknown workload class")
    validateUnitWorkload unit workload
    let pool ← validateUnitPool unit (maps.pools.get unit.resourcePoolId)
    validateUnitDomain unit pool maps.domains
    validateUnitDependencies unit maps.units

def groupControllerRegistrations (controllers : List ControllerRegistration) (units : Dict Identifier ScaleUnit) :
    Except AuthorityError (Dict Identifier (List ControllerRegistration)) :=
  controllers.foldlM (fun grouped registration => do
    refuse (units.get registration.unitId = none) (.valueError "controller registration references an unknown unit")
    .ok (grouped.set registration.unitId ((grouped.get registration.unitId).getD [] ++ [registration]))) ∅

def validateRegistrationMode (registration : ControllerRegistration) (unit : ScaleUnit) (writer : Bool) :
    Except AuthorityError Unit := do
  refuse (registration.mode ≠ unit.controllerMode) (.valueError
    (if writer then "replica writer mode does not match scale unit" else "controller mode does not match scale unit"))
  refuse (registration.delegatedController ≠ unit.delegatedController)
    (.valueError "delegated controller does not match scale unit")

def validateUnitRegistrations (unit : ScaleUnit) (registrations : List ControllerRegistration) :
    Except AuthorityError Unit := do
  registrations.forM fun registration => validateRegistrationMode registration unit false
  match registrations.filter (·.writesReplicas) with
  | [writer] => do
    refuse (writer.controllerId ≠ unit.replicaWriterId)
      (.valueError "registered replica writer does not match scale unit")
    validateRegistrationMode writer unit true
  | _ => .error (.valueError ("scale unit " ++ unit.unitId.1 ++ " requires exactly one replica writer"))

def validateControllerLinks (units : List ScaleUnit) (controllers : List ControllerRegistration)
    (unitMap : Dict Identifier ScaleUnit) : Except AuthorityError Unit := do
  let grouped ← groupControllerRegistrations controllers unitMap
  units.forM fun unit => validateUnitRegistrations unit ((grouped.get unit.unitId).getD [])

def dependencyGraph (units : List ScaleUnit) : Dict Identifier (List Identifier) :=
  indexed (·.unitId) (·.dependsOn) units
def dependencies (units : List ScaleUnit) (unitId : Identifier) : List Identifier :=
  ((dependencyGraph units).get unitId).getD []

/-- `_reject_dependency_cycles`, where so many calls of `visit` fit into each other -/
def rejectDependencyCycles (depth : ℕ) (units : List ScaleUnit) : Except AuthorityError Unit :=
  match DepthFirst.search (dependencies units) depth (firstSeen (units.map (·.unitId))) with
  | .ok _ => .ok ()
  | .error .cycle => .error (.valueError "scale unit dependency cycle")
  | .error .depth => .error .recursion

def validateInventory (depth : ℕ) (inventory : Inventory) : Except AuthorityError Unit := do
  validateInventoryIdentities inventory
  let maps := inventoryMaps inventory
  validatePoolLinks inventory.pools maps.domains
  validateWorkloadLinks inventory.workloads maps.pools
  validateUnitLinks inventory.units maps
  validateControllerLinks inventory.units inventory.controllers maps.units
  rejectDependencyCycles depth inventory.units

structure ScaleAuthority (depth : ℕ) where
  inventory : Inventory
  accepted : validateInventory depth inventory = .ok ()

end Arbora.Scaling
