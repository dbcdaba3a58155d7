import StartupConfig.Integer

/-!
# The four settings and the record they make

Each setting has a row in the table of recognized variables: an environment variable, a field of the record and a
kind. `Record.text` is the one place where a setting's value becomes text.
-/
namespace StartupConfig

/-- What a variable's text is read as. -/
inductive Kind
  | string
  | integer
  deriving DecidableEq, Repr

/-- The word for a kind in listings. -/
def Kind.name : Kind → String
  | .string => "string"
  | .integer => "integer"

/-- A row of the table of recognized variables. -/
structure Specification where
  variableName : String
  field : String
  kind : Kind
  deriving DecidableEq, Repr

/-- The recognized settings. -/
inductive Setting
  | templateFile
  | initImage
  | deliveryImage
  | maxTries
  deriving DecidableEq, Repr

namespace Setting

/-- All settings, in the order of the record's fields. -/
def all : List Setting := [.templateFile, .initImage, .deliveryImage, .maxTries]

/-- The table of recognized variables. -/
def specification : Setting → Specification
  | .templateFile => ⟨"PYTORCH_INIT_CONTAINER_TEMPLATE_FILE", "pytorch_init_container_template_file", .string⟩
  | .initImage => ⟨"PYTORCH_INIT_CONTAINER_IMAGE", "pytorch_init_container_image", .string⟩
  | .deliveryImage => ⟨"MPI_KUBECTL_DELIVERY_IMAGE", "mpi_kubectl_delivery_image", .string⟩
  | .maxTries => ⟨"PYTORCH_INIT_CONTAINER_MAX_TRIES", "pytorch_init_container_max_tries", .integer⟩

/-- The environment variable that a setting is read from. -/
def variableName (s : Setting) : String := s.specification.variableName

/-- The name of a setting's field in the record. -/
def field (s : Setting) : String := s.specification.field

/-- What a setting's variable is read as. -/
def kind (s : Setting) : Kind := s.specification.kind

/-- The setting that a variable belongs to. -/
def ofVariable? (name : String) : Option Setting := all.find? (·.variableName == name)

/-- The setting that a field belongs to. -/
def ofField? (name : String) : Option Setting := all.find? (·.field == name)

end Setting

/-- A value for each of the four settings: what a load answers, and what it falls back to. -/
structure Record where
  templateFile : String
  initImage : String
  deliveryImage : String
  maxTries : Long
  deriving DecidableEq, Repr

namespace Record

/-- The values used when nothing else is said. -/
def documented : Record where
  templateFile := "/etc/config/initContainer.yaml"
  initImage := "alpine:3.10"
  deliveryImage := "kubeflow/kubectl-delivery:latest"
  maxTries := ⟨100, by decide⟩

/-- A setting's value as text. -/
def text (r : Record) : Setting → String
  | .templateFile => r.templateFile
  | .initImage => r.initImage
  | .deliveryImage => r.deliveryImage
  | .maxTries => String.ofList (Decimal.render r.maxTries.val)

/-- The text of the value that a variable's name stands for. -/
def textFor? (r : Record) (variableName : String) : Option String :=
  match variableName with
  | "PYTORCH_INIT_CONTAINER_TEMPLATE_FILE" => some r.templateFile
  | "PYTORCH_INIT_CONTAINER_IMAGE" => some r.initImage
  | "MPI_KUBECTL_DELIVERY_IMAGE" => some r.deliveryImage
  | "PYTORCH_INIT_CONTAINER_MAX_TRIES" => some (String.ofList (Decimal.render r.maxTries.val))
  | _ => none

/-- The same record with another init-container image. -/
def withInitImage (r : Record) (image : String) : Record := { r with initImage := image }

end Record

end StartupConfig
