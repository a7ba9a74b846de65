import Workflow.Catalog.Triggers
import Workflow.Catalog.Screen
import Workflow.Catalog.Storage
import Workflow.Catalog.Network
import Workflow.Catalog.Reasoning
import Workflow.Catalog.Flow

/-!
# The built-in catalogue

All built-in templates, in the order they are listed to the user: by category, and within a
category as its module gives them.
-/

namespace Workflow.Catalog

/-- The built-in templates. -/
def builtin : List Template :=
  triggers ++ web ++ desktop ++ files ++ excel ++ email ++ api ++ database ++ documents ++ ai
    ++ scripts ++ control ++ logging ++ security ++ human

end Workflow.Catalog
