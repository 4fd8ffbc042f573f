import WolandGuard.Agent.Protocol
import WolandGuard.Foundations.Schedules

/-!
# Schedules of a deployment

A schedule says what happens next at the agent, in the network and in the
control plane. A command that cannot happen is refused, and every schedule that
is not refused is a run (`Deployment.step_of_next`).
-/

set_option autoImplicit false

namespace WolandGuard.Agent

open Foundations Incidents
open Incidents.Concurrent (Operation)

variable {unicode : UnicodeData} {ε : Type}

inductive DeploymentCommand (unicode : UnicodeData) (ε : Type) where
  | collect (source : String) (found : ε)
  | persist (source : String) (times : PersistTimes)
  | deliver (now : Rat)
  | receive (reply : Reply) (now random : Rat)
  | crash
  | recordGap (source : String) (now : Rat)
  | clearCursor (source : String)
  | delete (eventId : Uuid)
  /-- A batch that the agent has sent reaches the control plane. -/
  | arrive (number : Nat) (draws : Detection.Draws) (maxAttempts : Nat) (now : Int)
  | step (place : Nat)
  | abort (place : Nat)

/-- `Authentic`. -/
def authentic (responses : List Response) (number : Nat) : Reply → Bool
  | .response 200 (some (accepted, existing)) _ =>
      responses.any fun response => response.request = number &&
        response.accepted = accepted && response.existing = existing
  | .response 200 none _ => false
  | _ => true

theorem authentic_of {responses : List Response} {number : Nat} {reply : Reply}
    (checked : authentic responses number reply = true) : Authentic responses number reply := by
  rintro counts retryAfter rfl
  cases counts with
  | none => cases checked
  | some pair =>
      obtain ⟨response, member, same⟩ := List.any_eq_true.mp checked
      simp only [Bool.and_eq_true, decide_eq_true_eq] at same
      exact ⟨response, member, same.1.1, by rw [same.1.2, same.2]⟩

/-- A move of the control plane as a step of the deployment. -/
def Deployment.handle (state : Deployment unicode)
    (moved : Option (Move (Submission unicode) Answer ×
      Transactions (Submission unicode) WorkflowTables LockKey Answer)) :
    Option (Action unicode ε × Deployment unicode) :=
  moved.map fun (move, server) =>
    (.server move,
      { state with server := server, responses := state.responses ++ responsesOf move })

/-- The step of a command. -/
def Deployment.next (settings : AgentSettings ε) (state : Deployment unicode) :
    DeploymentCommand unicode ε → Option (Action unicode ε × Deployment unicode)
  | .collect source found =>
      if source ∈ state.collecting.map Prod.fst then none
      else
        some (.collect source found,
          { state with
            collecting := state.collecting ++
              [(source, settings.yields source (state.spool.cursor source) found)] })
  | .persist source times =>
      match state.collecting.dropWhile (·.1 ≠ source) with
      | (name, record :: rest) :: after =>
          if name = source then
            match settings.persistRecord source times record state.spool with
            | .error _ => none
            | .ok (_, spool) =>
                some (.persist source record times,
                  { state with
                    spool := spool
                    collecting :=
                      state.collecting.takeWhile (·.1 ≠ source) ++ (source, rest) :: after })
          else none
      | _ => none
  | .deliver now =>
      match state.sending, state.spool.readyBatch state.currentBatchSize now with
      | none, .ok (first :: rest) =>
          some (.deliver now,
            { state with
              sending := some (state.sent.length, first :: rest)
              sent := state.sent ++ [(first :: rest).map Prod.fst] })
      | _, _ => none
  | .receive reply now random =>
      match state.sending with
      | none => none
      | some (number, queued) =>
          if authentic state.responses number reply then
            let left := (afterSend settings.delivery now queued random
              (transportResult queued.length reply) ⟨state.spool, state.currentBatchSize⟩).1
            some (.receive reply now random,
              { state with
                spool := left.spool
                currentBatchSize := left.currentBatchSize
                sending := none })
          else none
  | .crash =>
      some (.crash,
        { state with
          currentBatchSize := settings.delivery.configuredBatchSize
          collecting := []
          gaps := []
          sending := none })
  | .recordGap source now =>
      match state.spool.recordDiagnostic now "journal_gap" with
      | .error _ => none
      | .ok spool =>
          some (.recordGap source now, { state with spool := spool, gaps := state.gaps ++ [source] })
  | .clearCursor source =>
      if source ∈ state.gaps then
        some (.clearCursor source,
          { state with
            spool := state.spool.clearCursor source
            gaps := state.gaps.erase source })
      else none
  | .delete eventId =>
      some (.delete eventId, { state with spool := state.spool.delete eventId })
  | .arrive number draws maxAttempts now =>
      match state.sent[number]? with
      | none => none
      | some batch =>
          state.handle (Transactions.next Submission.code state.server
            (.start ⟨some number, .ingest draws maxAttempts settings.serverId now batch⟩))
  | .step place => state.handle (Transactions.next Submission.code state.server (.step place))
  | .abort place => state.handle (Transactions.next Submission.code state.server (.abort place))

/-- A move of the control plane that starts nothing is a step. -/
theorem Deployment.step_of_handle {settings : AgentSettings ε} {state after : Deployment unicode}
    {command : Command (Submission unicode)} {action : Action unicode ε}
    (unstarted : command.request? = none)
    (taken : state.handle (Transactions.next Submission.code state.server command) =
      some (action, after)) : Deployment.Step settings state action after := by
  obtain ⟨⟨move, server⟩, moved, same⟩ := Option.map_eq_some_iff.mp taken
  cases same
  refine .server ?_ (Transactions.step_of_next moved)
  have started := (Transactions.request?_of_next moved).trans unstarted
  cases move with
  | start submission => cases started
  | _ => trivial

/-- **A command that is not refused is a step.** -/
theorem Deployment.step_of_next {settings : AgentSettings ε} {state after : Deployment unicode}
    {command : DeploymentCommand unicode ε} {action : Action unicode ε}
    (taken : state.next settings command = some (action, after)) :
    Deployment.Step settings state action after := by
  cases command with
  | collect source found =>
      simp only [next] at taken
      split at taken
      · cases taken
      next fresh =>
        cases taken
        exact .collect fresh
  | persist source times =>
      simp only [next] at taken
      split at taken
      next name record rest behind cut =>
        split at taken
        next same =>
          subst same
          split at taken
          · cases taken
          next persisted =>
            cases taken
            refine .persist ?_ persisted
            rw [← cut, List.takeWhile_append_dropWhile]
        · cases taken
      · cases taken
  | deliver now =>
      simp only [next] at taken
      split at taken
      next first rest idle ready =>
        cases taken
        exact .deliver idle ready (by simp)
      · cases taken
  | receive reply now random =>
      simp only [next] at taken
      split at taken
      · cases taken
      next number queued sending =>
        split at taken
        next checked =>
          cases taken
          exact .receive sending (authentic_of checked) rfl
        · cases taken
  | crash =>
      cases taken
      exact .crash
  | recordGap source now =>
      simp only [next] at taken
      split at taken
      · cases taken
      next recorded =>
        cases taken
        exact .recordGap recorded
  | clearCursor source =>
      simp only [next] at taken
      split at taken
      next recorded =>
        cases taken
        exact .clearCursor recorded
      · cases taken
  | delete eventId =>
      cases taken
      exact .delete eventId
  | arrive number draws maxAttempts now =>
      simp only [next] at taken
      split at taken
      · cases taken
      next batch sent =>
        cases taken
        exact .server (.own sent) (.start _)
  | step place => exact step_of_handle rfl taken
  | abort place => exact step_of_handle rfl taken

/-- **A schedule that is not refused is a run.** -/
theorem Deployment.run_of_schedule {settings : AgentSettings ε} {start finish : Deployment unicode}
    {commands : List (DeploymentCommand unicode ε)} {path : List (Moved unicode ε)}
    (scheduled : Run.scheduled (Deployment.next settings) start commands = some (path, finish)) :
    Run (Deployment.Step settings) start path finish :=
  Run.of_scheduled (fun _ _ _ _ taken => Deployment.step_of_next taken) scheduled

end WolandGuard.Agent
