/-! What starts a workflow. -/

namespace WorkflowSynthesis

inductive Trigger where
  | schedule
  | webhook
  | email
  | form
  | manual
  deriving DecidableEq

namespace Trigger

def all : List Trigger := [.schedule, .webhook, .email, .form, .manual]

def key : Trigger → String
  | .schedule => "schedule"
  | .webhook => "webhook"
  | .email => "email"
  | .form => "form"
  | .manual => "manual"

def phrase : Trigger → String
  | .schedule => "on a schedule"
  | .webhook => "by an incoming webhook call"
  | .email => "by an incoming email"
  | .form => "by a form submission"
  | .manual => "manually"

theorem mem_all (trigger : Trigger) : trigger ∈ all := by
  cases trigger <;> simp [all]

end Trigger

end WorkflowSynthesis
