import AdminConsole.Action.Kind
import AdminConsole.Action.Listing
import AdminConsole.Action.Update

/-!
# Actions and what they do

`Action.run` is what an action does to the data, as an edit in place. The action is refused when the
thing is not there, not in a state for it, or when what is asked for makes no sense by itself.
-/

namespace AdminConsole

/-- Something that an operator does. -/
inductive Action
  | banMember (id : Uuid) (reason : Option String)
  | unbanMember (id : Uuid)
  | verifyMember (id : Uuid)
  | editMember (id : Uuid) (update : MemberUpdate)
  | deleteMember (id : Uuid)
  | resolveReport (id : Uuid) (note : Option String)
  | dismissReport (id : Uuid) (note : Option String)
  | removeContent (id : Uuid)
  | refundPayment (id : Uuid) (reason : Option String)
  | pauseCampaign (id : Uuid)
  | resumeCampaign (id : Uuid)
  | assignRole (id : Uuid) (role : Role)
  | updateSettings (update : SettingsUpdate)
  deriving DecidableEq, Repr

/-! ## Edits of single things -/

namespace Member

/-- Bans an active member; a blank reason is none. -/
def ban (reason : Option String) : Edit Member Unit := do
  if (← get).status = .banned then throw Refusal.alreadyBanned
  modify fun m => { m with status := .banned }
  modify fun m => { m with banReason := Text.nonblank reason }

/-- Lifts the ban of a banned member. -/
def unban : Edit Member Unit := do
  if (← get).status ≠ .banned then throw Refusal.notBanned
  modify fun m => { m with status := .active }
  modify fun m => { m with banReason := none }

/-- Marks a member as verified. -/
def verify : Edit Member Unit := do
  if (← get).verified then throw Refusal.alreadyVerified
  modify fun m => { m with verified := true }

end Member

namespace Report

/-- Closes an open report. -/
def close (status : ReportStatus) (handler : Uuid) (note : Option String) : Edit Report Unit := do
  if (← get).status ≠ .opened then throw Refusal.reportClosed
  modify fun r => { r with status := status }
  modify fun r => { r with handledBy := some handler }
  modify fun r => { r with resolutionNote := Text.nonblank note }

/-- Takes down the reported content; a handler is noted where there is none. -/
def takeDown (handler : Uuid) : Edit Report Unit := do
  if (← get).contentRemoved then throw Refusal.contentRemoved
  modify fun r => { r with contentRemoved := true }
  modify fun r => { r with handledBy := some (r.handledBy.getD handler) }

end Report

namespace Payment

/-- Refunds a settled payment; a blank reason is none. -/
def refund (now : Instant) (reason : Option String) : Edit Payment Unit := do
  if (← get).status = .refunded then throw Refusal.alreadyRefunded
  modify fun p => { p with status := .refunded }
  modify fun p => { p with refundedAt := some now }
  modify fun p => { p with refundReason := Text.nonblank reason }

end Payment

namespace Campaign

/-- The refusal of a state that a campaign has already. -/
def alreadyIn : CampaignStatus → Refusal
  | .active => .alreadyRunning
  | .paused => .alreadyPaused

/-- Brings a campaign into a state. -/
def turn (status : CampaignStatus) : Edit Campaign Unit := do
  if (← get).status = status then throw (alreadyIn status)
  modify fun c => { c with status := status }

end Campaign

namespace TeamMember

/-- Gives an operator another role, in a team with the given number of owners. -/
def assign (owners : Nat) (role : Role) : Edit TeamMember Unit := do
  let t ← get
  if t.role = role then throw (Refusal.alreadyHasRole t.name role)
  if t.role = .owner ∧ owners = 1 then throw Refusal.lastOwner
  modify fun t => { t with role := role }

end TeamMember

/-! ## Actions -/

namespace Action

/-- The kind of the action. -/
def kind : Action → ActionKind
  | banMember _ _ => .banMember
  | unbanMember _ => .unbanMember
  | verifyMember _ => .verifyMember
  | editMember _ _ => .editMember
  | deleteMember _ => .deleteMember
  | resolveReport _ _ => .resolveReport
  | dismissReport _ _ => .dismissReport
  | removeContent _ => .removeContent
  | refundPayment _ _ => .refundPayment
  | pauseCampaign _ => .pauseCampaign
  | resumeCampaign _ => .resumeCampaign
  | assignRole _ _ => .assignRole
  | updateSettings _ => .updateSettings

/-- Edits a member's profile; the update is looked through before the member is looked up. -/
def runEditMember (id : Uuid) (u : MemberUpdate) : Edit Data Performed := do
  Edit.refuseIf? u.fault?
  Listing.members.edit id u.write

/-- Gives an operator another role, which the target names besides the operator. -/
def runAssignRole (id : Uuid) (role : Role) : Edit Data Performed := do
  let owners := TeamMember.owners (← get).team
  let p ← Listing.team.edit id (TeamMember.assign owners role)
  return { p with target := p.target ++ ":" ++ role.tag }

/-- Changes the settings; the target lists the keys that are mentioned. -/
def runUpdateSettings (u : SettingsUpdate) : Edit Data Performed := do
  let keys ← Edit.within Data.settings (fun s d => { d with settings := s }) u.write
  return {
    result := .settings (← get).settings
    target := ",".intercalate (keys.map SettingsKey.name) }

/-- What the action of an actor at an instant does to the data. -/
def run (actor : Uuid) (now : Instant) : Action → Edit Data Performed
  | banMember id reason => Listing.members.edit id (Member.ban reason)
  | unbanMember id => Listing.members.edit id Member.unban
  | verifyMember id => Listing.members.edit id Member.verify
  | editMember id u => runEditMember id u
  | deleteMember id => Listing.members.remove id
  | resolveReport id note => Listing.reports.edit id (Report.close .resolved actor note)
  | dismissReport id note => Listing.reports.edit id (Report.close .dismissed actor note)
  | removeContent id => Listing.reports.edit id (Report.takeDown actor)
  | refundPayment id reason => Listing.payments.edit id (Payment.refund now reason)
  | pauseCampaign id => Listing.campaigns.edit id (Campaign.turn .paused)
  | resumeCampaign id => Listing.campaigns.edit id (Campaign.turn .active)
  | assignRole id role => runAssignRole id role
  | updateSettings u => runUpdateSettings u

end Action

end AdminConsole
