import ServiceContract.Bundle.Encoding
import ServiceContract.Yaml.Printer

/-!
# Bundles as texts

A bundle is written as JSON with one item a line, or as YAML.
-/

namespace ServiceContract.Bundle

/-- The formats of a bundle. -/
inductive Format where
  | json
  | yaml
  deriving DecidableEq, Repr, Inhabited

namespace Format

/-- The format of a name. -/
def ofLabel? : String → Option Format
  | "json" => some .json
  | "yaml" => some .yaml
  | _ => none

/-- The name of the file that a bundle is written to. -/
def fileName : Format → String
  | .json => "routegen.json"
  | .yaml => "routegen.yaml"

end Format

/-- A text that ends with a line feed. -/
def closed (s : String) : String :=
  if s.endsWith "\n" then s else s ++ "\n"

/-- A bundle as a text. -/
def text (b : Bundle) (format : Format) : String :=
  closed (match format with
    | .json => b.toJson.pretty
    | .yaml => b.toJson.yaml)

end ServiceContract.Bundle
