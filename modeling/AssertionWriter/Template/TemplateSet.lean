/-
  AssertionWriter.Template.TemplateSet

  The templates that generation uses: at most one for each role. They are the default ones,
  and others in their places that are given by name or found in a directory.
-/
import AssertionWriter.Files.Access
import AssertionWriter.Template.Default
import AssertionWriter.Text.Quoted

namespace AssertionWriter
open Files Template

/-- Templates for some roles. -/
structure TemplateSet where
  find? : Role → Option String

/-- Why templates cannot be had. -/
inductive TemplateError where
  /-- No role has the name. -/
  | unknownRole (name : String)
  | isDirectory (path : String)
  | notFound (path : String)
  | unreadable (path : String) (cause : FileError)
  deriving DecidableEq, Repr

/-- The wording of an error. -/
def TemplateError.message : TemplateError → String
  | unknownRole name => "invalid template role: " ++ Text.quote name
  | isDirectory path => "template path " ++ path ++ " is a directory"
  | notFound path => "template file " ++ path ++ " not found"
  | unreadable path cause => "failed to read template " ++ path ++ ": " ++ cause.message

namespace TemplateSet

/-- No templates. -/
def empty : TemplateSet := ⟨fun _ => none⟩

/-- The default template for every role. -/
def default : TemplateSet := ⟨fun r => some r.body⟩

instance : Inhabited TemplateSet := ⟨default⟩

/-- The templates with another one for a role. -/
def set (t : TemplateSet) (r : Role) (body : String) : TemplateSet :=
  ⟨fun r' => if r' = r then some body else t.find? r'⟩

@[simp] theorem find?_set (t : TemplateSet) (r : Role) (body : String) (r' : Role) :
    (t.set r body).find? r' = if r' = r then some body else t.find? r' := rfl

/-- The number of templates. -/
def size (t : TemplateSet) : Nat := Role.all.countP fun r => (t.find? r).isSome

/-- The role with a name. -/
def roleNamed (name : String) : Except TemplateError Role :=
  match Role.parse? name with
  | some r => .ok r
  | none => .error (.unknownRole name)

/-- The templates with another one for the role with a name. -/
def setNamed (t : TemplateSet) (name body : String) : Except TemplateError TemplateSet :=
  (roleNamed name).map fun r => t.set r body

/-! ## Templates in files -/

section
variable {m : Type → Type} [Monad m] [FileAccess m]

/-- The template in a file. -/
def load (path : String) : m (Except TemplateError String) := do
  if ← FileAccess.isDirectory path then return .error (.isDirectory path)
  match ← FileAccess.readText path with
  | .ok body => return .ok body
  | .error .notFound => return .error (.notFound path)
  | .error e => return .error (.unreadable path e)

/-- Takes the templates for some roles from the files that a directory has for them. Gives the
    roles that got one; when a file cannot be read, the templates before it have been taken. -/
def overrideEach (directory : String) (t : TemplateSet) :
    List Role → m (TemplateSet × Except TemplateError (List Role))
  | [] => return (t, .ok [])
  | r :: rs => do
    let path := under directory r.file
    if ← FileAccess.isFile path then
      match ← load path with
      | .error e => return (t, .error e)
      | .ok body =>
        let (t, roles) ← overrideEach directory (t.set r body) rs
        return (t, roles.map (r :: ·))
    else overrideEach directory t rs

/-- Takes templates from the files of a directory. -/
def overrideFrom (directory : String) (t : TemplateSet) :
    m (TemplateSet × Except TemplateError (List Role)) := do
  if ← FileAccess.isPresent directory then overrideEach directory t Role.all
  else return (t, .error (.notFound directory))

end
end TemplateSet
end AssertionWriter
