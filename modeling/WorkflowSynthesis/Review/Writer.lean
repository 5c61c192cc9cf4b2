import WorkflowSynthesis.Json.Value
import WorkflowSynthesis.Review.Report

/-! Reports as JSON. -/

namespace WorkflowSynthesis

def Diagnostic.toJson (diagnostic : Diagnostic) : Json :=
  .object [("kind", .text diagnostic.kind.name), ("message", .text diagnostic.message)]

def Verdict.toJson (verdict : Verdict) : Json := .object [
  ("ruleId", .text verdict.rule.name),
  ("category", .text verdict.rule.category.key),
  ("passed", .bool verdict.passed),
  ("message", .text verdict.message)]

def Report.toJson (report : Report) : Json := .object [
  ("results", .list Verdict.toJson report.verdicts),
  ("diagnostics", .list Diagnostic.toJson report.diagnostics),
  ("nodeCount", .nat report.nodeCount)]

end WorkflowSynthesis
