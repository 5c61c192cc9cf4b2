import WorkflowSynthesis.Plan.Diagnostic
import WorkflowSynthesis.Review.Rule

/-! Reports of a review. -/

namespace WorkflowSynthesis

structure Verdict where
  rule : Rule
  passed : Bool
  message : String
  deriving DecidableEq

def Verdict.ofProblems (rule : Rule) (problems : List String) (success : String) : Verdict :=
  if problems.isEmpty then ⟨rule, true, success⟩ else ⟨rule, false, "; ".intercalate problems⟩

structure Report where
  verdicts : List Verdict
  diagnostics : List Diagnostic
  nodeCount : Nat
  deriving DecidableEq

namespace Report

def passed (report : Report) : Bool := report.verdicts.all (·.passed)

def verdict? (report : Report) (rule : Rule) : Option Verdict := report.verdicts.find? (·.rule = rule)

def failures (report : Report) : List Verdict := report.verdicts.filter (!·.passed)

def blockingFailures (report : Report) : List Verdict := report.failures.filter (·.rule.isBlocking)

def isBlocked (report : Report) : Bool := !report.blockingFailures.isEmpty

def headline (report : Report) : String :=
  let passed := (report.verdicts.filter (·.passed)).length
  let blocking := report.blockingFailures.length
  let conclusion :=
    if report.passed then "Workflow is valid"
    else if 0 < blocking then "Workflow is NOT executable"
    else "Workflow is executable with open issues"
  conclusion ++ ": " ++ toString passed ++ "/" ++ toString report.verdicts.length ++ " rules passed (" ++
    toString blocking ++ " blocking), " ++ toString report.nodeCount ++ " nodes"

def verdictLines (current : Option RuleCategory) : List Verdict → List String
  | [] => []
  | verdict :: rest =>
    let category := verdict.rule.category
    let title := if current = some category then [] else ["", "[" ++ category.title ++ "]"]
    let mark := if verdict.passed then "PASS" else "FAIL"
    title ++ ("  " ++ mark ++ " " ++ verdict.rule.name ++ ": " ++ verdict.message) ::
      verdictLines (some category) rest

def diagnosticLines (diagnostics : List Diagnostic) : List String :=
  if diagnostics.isEmpty then []
  else ["", "diagnostics:"] ++ diagnostics.map fun diagnostic => "  - " ++ diagnostic.line

def text (report : Report) : String :=
  let lines := report.headline :: verdictLines none report.verdicts ++ diagnosticLines report.diagnostics
  String.join (lines.map (· ++ "\n"))

end Report

end WorkflowSynthesis
