import WorkflowSynthesis.Configuration.Error
import WorkflowSynthesis.Settings.Basic
import WorkflowSynthesis.Text.Blank

/-! The node catalog: from keys to the nodes that stand for them. -/

namespace WorkflowSynthesis

structure Catalog where
  entries : Dictionary CatalogEntry
  fallbackKey : String
  fallback : CatalogEntry

namespace Catalog

def fault? (entry : CatalogEntry) : Option EntryFault :=
  if Text.isBlankText entry.nodeType then some .blankNodeType
  else if Text.isBlankText entry.displayName then some .blankDisplayName
  else if entry.outputs = 0 then some .noOutput
  else none

def checkEntry (entry : String × CatalogEntry) : Except ConfigurationError Unit :=
  match fault? entry.2 with
  | some fault => .error (.invalidEntry entry.1 fault)
  | none => .ok ()

def checkTrigger (entries : Dictionary CatalogEntry) (trigger : Trigger) : Except ConfigurationError Unit :=
  match entries.get? trigger.key with
  | none => .error (.missingEntry trigger.key .trigger)
  | some entry =>
    if entry.role = .trigger then .ok () else .error (.invalidEntry trigger.key (.notTrigger entry.role))

def ofSettings (settings : CatalogSettings) : Except ConfigurationError Catalog := do
  settings.entries.entries.forM checkEntry
  Trigger.all.forM (checkTrigger settings.entries)
  match settings.entries.get? settings.fallback with
  | none => .error (.missingEntry settings.fallback .fallback)
  | some fallback =>
    if fallback.role = .action then
      .ok { entries := settings.entries, fallbackKey := settings.fallback, fallback }
    else .error (.invalidEntry settings.fallback (.notAction fallback.role))

def get? (catalog : Catalog) (key : String) : Option CatalogEntry := catalog.entries.get? key

def findByType? (catalog : Catalog) (nodeType : String) : Option CatalogEntry :=
  catalog.entries.values.find? (·.nodeType = nodeType)

def mayFailType (catalog : Catalog) (nodeType : String) : Bool :=
  catalog.entries.values.any fun entry => entry.mayFail && entry.nodeType = nodeType

def mayFailTypes (catalog : Catalog) : Labels :=
  Labels.ofTexts ((catalog.entries.values.filter (·.mayFail)).map (·.nodeType))

/-- The entry behind a node: the one of its key if that has the type of the node, otherwise the first
of its type. -/
def entryOf? (catalog : Catalog) (key nodeType : String) : Option CatalogEntry :=
  ((catalog.get? key).filter (·.nodeType = nodeType)).or (catalog.findByType? nodeType)

end Catalog

end WorkflowSynthesis
