import Arbora.PolicyPlane.Models

/-! Identities of the Web UI, each in a tenant and, but for tenants themselves, in a workspace, the contexts that
reach for them and the records of their retention. -/
namespace Arbora.WebUi
open PolicyPlane (OpaqueRef Digest Timestamp)

abbrev Version := {n : ℕ // 1 ≤ n ∧ n ≤ 2147483647}
abbrev SizeBytes := {n : ℕ // n ≤ 256 * 1024 * 1024}

inductive UiPermission where
  | read | write | feedback | support | admin
  deriving DecidableEq

inductive LifecycleState where
  | active | retained | deletionPending | deleted | legalHold
  deriving DecidableEq

inductive RetentionResumeState where
  | active | retained | deletionPending

def RetentionResumeState.state : RetentionResumeState → LifecycleState
  | .active => .active
  | .retained => .retained
  | .deletionPending => .deletionPending

inductive EntityKind where
  | tenant | workspace | user | profile | session | conversation | content | attachment | message | preference
  | savedQuery | dashboard | widget | notification | feedback | support
  deriving DecidableEq

inductive Visibility where
  | «private» | workspace
  deriving DecidableEq

/-- `_reject_alias`, on a text in ASCII -/
def isAlias (text : OpaqueRef) : Bool :=
  ["latest","current","default","public"].any fun word => text.1.toList.map Char.toLower == word.toList

def pilotUser : OpaqueRef := ⟨"user:anonymous-pilot",by decide +kernel⟩
def pilotActor : OpaqueRef := ⟨"actor:anonymous-pilot",by decide +kernel⟩

structure AccessContext where
  tenantRef : OpaqueRef
  workspaceRef : OpaqueRef
  actorRef : OpaqueRef
  sessionRef : OpaqueRef
  permissions : List UiPermission
  authenticated : Bool
  anonymousPilot : Bool
  nonempty : permissions ≠ []
  distinct : permissions.Nodup
  pilot : anonymousPilot = true → authenticated = false ∧ actorRef = pilotActor ∧ UiPermission.admin ∉ permissions

def AccessContext.allows (context : AccessContext) (permission : UiPermission) : Bool :=
  decide (permission ∈ context.permissions)

structure TenantIdentity where
  version : Version
  digest : Digest
  tenantRef : OpaqueRef
  deleted : Bool
  deriving DecidableEq

structure WorkspaceIdentity where
  version : Version
  digest : Digest
  tenantRef : OpaqueRef
  workspaceRef : {text : OpaqueRef // isAlias text = false}
  deleted : Bool
  deriving DecidableEq

structure UserIdentity where
  version : Version
  digest : Digest
  (tenantRef workspaceRef userRef : OpaqueRef)
  deleted : Bool
  deriving DecidableEq

structure ProfileIdentity where
  version : Version
  digest : Digest
  (tenantRef workspaceRef userRef profileRef stateRef : OpaqueRef)
  deriving DecidableEq

structure SessionIdentity where
  version : Version
  digest : Digest
  (tenantRef workspaceRef : OpaqueRef)
  sessionRef : {text : OpaqueRef // isAlias text = false}
  userRef : OpaqueRef
  anonymousPilot : Bool
  (issuedAt expiresAt : Timestamp)
  bounded : issuedAt < expiresAt ∧ expiresAt ≤ issuedAt + 86400
  pilot : anonymousPilot = true → userRef = pilotUser
  deriving DecidableEq

structure ConversationIdentity where
  version : Version
  digest : Digest
  (tenantRef workspaceRef conversationRef sessionRef : OpaqueRef)
  archived : Bool
  deriving DecidableEq

/-- An identity of content that is kept elsewhere. -/
structure ContentReference where
  version : Version
  digest : Digest
  (tenantRef workspaceRef contentRef artifactRef : OpaqueRef)
  contentDigest : Digest
  mediaType : OpaqueRef
  sizeBytes : SizeBytes
  deriving DecidableEq

/-- `_content_scope_matches` and its siblings -/
def ContentReference.within (content : ContentReference) (tenantRef workspaceRef : OpaqueRef) : Prop :=
  content.tenantRef = tenantRef ∧ content.workspaceRef = workspaceRef

structure AttachmentIdentity where
  version : Version
  digest : Digest
  (tenantRef workspaceRef attachmentRef : OpaqueRef)
  contentRef : ContentReference
  attachmentDigest : Digest
  mediaType : OpaqueRef
  sizeBytes : SizeBytes
  scope : contentRef.within tenantRef workspaceRef
  deriving DecidableEq

structure MessageIdentity where
  version : Version
  digest : Digest
  (tenantRef workspaceRef messageRef conversationRef senderRef : OpaqueRef)
  contentRef : ContentReference
  attachments : List AttachmentIdentity
  deleted : Bool
  few : attachments.length ≤ 16
  scope : contentRef.within tenantRef workspaceRef ∧
    ∀ attachment ∈ attachments, attachment.tenantRef = tenantRef ∧ attachment.workspaceRef = workspaceRef
  deriving DecidableEq

structure PreferenceIdentity where
  version : Version
  digest : Digest
  (tenantRef workspaceRef preferenceRef userRef stateRef : OpaqueRef)
  deriving DecidableEq

structure SavedQueryIdentity where
  version : Version
  digest : Digest
  (tenantRef workspaceRef savedQueryRef ownerRef queryRef : OpaqueRef)
  visibility : Visibility
  deriving DecidableEq

structure WidgetIdentity where
  version : Version
  digest : Digest
  (tenantRef workspaceRef widgetRef dashboardRef widgetType stateRef : OpaqueRef)
  deriving DecidableEq

structure DashboardIdentity where
  version : Version
  digest : Digest
  (tenantRef workspaceRef dashboardRef ownerRef : OpaqueRef)
  visibility : Visibility
  widgets : List WidgetIdentity
  few : widgets.length ≤ 64
  scope : ∀ widget ∈ widgets,
    widget.tenantRef = tenantRef ∧ widget.workspaceRef = workspaceRef ∧ widget.dashboardRef = dashboardRef
  distinct : (widgets.map (·.widgetRef)).Nodup
  deriving DecidableEq

structure NotificationIdentity where
  version : Version
  digest : Digest
  (tenantRef workspaceRef notificationRef recipientRef : OpaqueRef)
  contentRef : ContentReference
  unread : Bool
  scope : contentRef.within tenantRef workspaceRef
  deriving DecidableEq

structure FeedbackIdentity where
  version : Version
  digest : Digest
  (tenantRef workspaceRef feedbackRef actorRef : OpaqueRef)
  (conversationRef messageRef : Option OpaqueRef)
  contentRef : ContentReference
  category : OpaqueRef
  target : conversationRef.isSome ∨ messageRef.isSome
  scope : contentRef.within tenantRef workspaceRef
  deriving DecidableEq

structure SupportIdentity where
  version : Version
  digest : Digest
  (tenantRef workspaceRef supportRef requesterRef : OpaqueRef)
  contentRef : ContentReference
  category : OpaqueRef
  isOpen : Bool
  scope : contentRef.within tenantRef workspaceRef
  deriving DecidableEq

inductive WebUiEntity where
  | tenant (e : TenantIdentity)
  | workspace (e : WorkspaceIdentity)
  | user (e : UserIdentity)
  | profile (e : ProfileIdentity)
  | session (e : SessionIdentity)
  | conversation (e : ConversationIdentity)
  | content (e : ContentReference)
  | attachment (e : AttachmentIdentity)
  | message (e : MessageIdentity)
  | preference (e : PreferenceIdentity)
  | savedQuery (e : SavedQueryIdentity)
  | dashboard (e : DashboardIdentity)
  | widget (e : WidgetIdentity)
  | notification (e : NotificationIdentity)
  | feedback (e : FeedbackIdentity)
  | support (e : SupportIdentity)
  deriving DecidableEq

namespace WebUiEntity

def entityKind : WebUiEntity → EntityKind
  | .tenant _ => .tenant | .workspace _ => .workspace | .user _ => .user | .profile _ => .profile
  | .session _ => .session | .conversation _ => .conversation | .content _ => .content
  | .attachment _ => .attachment | .message _ => .message | .preference _ => .preference
  | .savedQuery _ => .savedQuery | .dashboard _ => .dashboard | .widget _ => .widget
  | .notification _ => .notification | .feedback _ => .feedback | .support _ => .support

def version : WebUiEntity → Version
  | .tenant e => e.version | .workspace e => e.version | .user e => e.version | .profile e => e.version
  | .session e => e.version | .conversation e => e.version | .content e => e.version
  | .attachment e => e.version | .message e => e.version | .preference e => e.version
  | .savedQuery e => e.version | .dashboard e => e.version | .widget e => e.version
  | .notification e => e.version | .feedback e => e.version | .support e => e.version

def tenantRef : WebUiEntity → OpaqueRef
  | .tenant e => e.tenantRef | .workspace e => e.tenantRef | .user e => e.tenantRef | .profile e => e.tenantRef
  | .session e => e.tenantRef | .conversation e => e.tenantRef | .content e => e.tenantRef
  | .attachment e => e.tenantRef | .message e => e.tenantRef | .preference e => e.tenantRef
  | .savedQuery e => e.tenantRef | .dashboard e => e.tenantRef | .widget e => e.tenantRef
  | .notification e => e.tenantRef | .feedback e => e.tenantRef | .support e => e.tenantRef

def workspaceRef : WebUiEntity → Option OpaqueRef
  | .tenant _ => none | .workspace e => e.workspaceRef.1 | .user e => e.workspaceRef | .profile e => e.workspaceRef
  | .session e => e.workspaceRef | .conversation e => e.workspaceRef | .content e => e.workspaceRef
  | .attachment e => e.workspaceRef | .message e => e.workspaceRef | .preference e => e.workspaceRef
  | .savedQuery e => e.workspaceRef | .dashboard e => e.workspaceRef | .widget e => e.workspaceRef
  | .notification e => e.workspaceRef | .feedback e => e.workspaceRef | .support e => e.workspaceRef

def entityRef : WebUiEntity → OpaqueRef
  | .tenant e => e.tenantRef | .workspace e => e.workspaceRef | .user e => e.userRef | .profile e => e.profileRef
  | .session e => e.sessionRef | .conversation e => e.conversationRef | .content e => e.contentRef
  | .attachment e => e.attachmentRef | .message e => e.messageRef | .preference e => e.preferenceRef
  | .savedQuery e => e.savedQueryRef | .dashboard e => e.dashboardRef | .widget e => e.widgetRef
  | .notification e => e.notificationRef | .feedback e => e.feedbackRef | .support e => e.supportRef

def visibility : WebUiEntity → Visibility
  | .savedQuery e => e.visibility
  | .dashboard e => e.visibility
  | _ => .private

def sessionRef : WebUiEntity → Option OpaqueRef
  | .session e => e.sessionRef.1
  | .conversation e => e.sessionRef
  | _ => none

def userRef : WebUiEntity → Option OpaqueRef
  | .user e => e.userRef
  | .profile e => e.userRef
  | .session e => e.userRef
  | .preference e => e.userRef
  | _ => none

def ownerRef : WebUiEntity → Option OpaqueRef
  | .savedQuery e => e.ownerRef
  | .dashboard e => e.ownerRef
  | _ => none

def actorRef : WebUiEntity → Option OpaqueRef
  | .feedback e => e.actorRef
  | _ => none

def requesterRef : WebUiEntity → Option OpaqueRef
  | .support e => e.requesterRef
  | _ => none

def isNamedSession : WebUiEntity → Bool
  | .session e => !e.anonymousPilot
  | _ => false

end WebUiEntity

def Consistent (state : LifecycleState) (legalHoldRef : Option OpaqueRef) (resumeState : Option RetentionResumeState) :
    Prop :=
  if state = .legalHold then legalHoldRef.isSome ∧ resumeState.isSome else legalHoldRef = none ∧ resumeState = none

instance (state : LifecycleState) (legalHoldRef : Option OpaqueRef) (resumeState : Option RetentionResumeState) :
    Decidable (Consistent state legalHoldRef resumeState) := by
  unfold Consistent
  infer_instance

structure RetentionRecord where
  (tenantRef workspaceRef : OpaqueRef)
  entityKind : EntityKind
  entityRef : OpaqueRef
  state : LifecycleState
  version : Version
  legalHoldRef : Option OpaqueRef
  resumeState : Option RetentionResumeState
  effectiveAt : Timestamp
  consistent : Consistent state legalHoldRef resumeState

/-- `^cursor:(0|[1-9][0-9]{0,9})$` -/
def isCursor (text : String) : Bool :=
  decide (text.toList.take 7 = "cursor:".toList) && (text.toList.drop 7).all PolicyPlane.isDigit &&
    (text.toList.drop 7 == ['0'] ||
      ((text.toList.drop 7).head?.any (· != '0') && decide ((text.toList.drop 7).length ≤ 10)))

structure PageRequest where
  limit : {n : ℕ // 1 ≤ n ∧ n ≤ 100}
  cursor : Option {text : String // isCursor text = true}

structure Page where
  items : List WebUiEntity
  nextCursor : Option String

end Arbora.WebUi
