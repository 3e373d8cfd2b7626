import NotebookAudit.Rule.Store

/-!
The environment: settings that come from outside and go before all others.
-/

namespace NotebookAudit

/-- The environment. A value without characters counts as not set. -/
structure Environment where
  rulesDirectory : Option Text
  workers : Option Text
  deriving Repr, DecidableEq

namespace Environment

/-- The environment in which nothing is set. -/
def empty : Environment := ⟨none, none⟩

/-- A value that is set. -/
def given (value : Option Text) : Option Text := value.filter (· != [])

/-- The environment with a value set or taken away. Names that mean nothing here are ignored. -/
def set (env : Environment) (name : Text) (value : Option Text) : Environment :=
  if name = Text.ofString "RULES_DIR" then { env with rulesDirectory := value }
  else if name = Text.ofString "VALIDATOR_MAX_WORKERS" then { env with workers := value }
  else env

/-- Where the rules are kept that are used unless others are asked for. -/
def rulesPlace (env : Environment) : RulesPlace :=
  match given env.rulesDirectory with
  | some directory => .directory (FilePath.ofText directory)
  | none => .default

end Environment

end NotebookAudit
