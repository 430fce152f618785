/-
  AssertionWriter.Generation.Error

  What can go wrong in a run of the generation.
-/
import AssertionWriter.Catalog.Error
import AssertionWriter.Template.TemplateSet

namespace AssertionWriter
open Files Template

/-- Why a generation fails. -/
inductive GenerationError where
  | catalog (cause : CatalogError)
  | template (cause : TemplateError)
  /-- There is no template for a role that is needed. -/
  | missingTemplate (role : Role)
  | write (path : String) (cause : FileError)
  deriving DecidableEq, Repr

namespace GenerationError

/-- The wording of an error. -/
def message : GenerationError → String
  | catalog cause => cause.message
  | template cause => cause.message
  | missingTemplate role => "no template registered for role " ++ role.name
  | write path cause => "failed to write " ++ path ++ ": " ++ cause.message

/-- Whether the error comes from the files and not from what was asked for. -/
def isOfFiles : GenerationError → Bool
  | write _ _ | template (.unreadable _ _) => true
  | _ => false

end GenerationError
end AssertionWriter
