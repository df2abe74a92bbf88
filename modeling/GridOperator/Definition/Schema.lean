import GridOperator.Json.Basic

/-!
# Schemas

What a schema says about the values that it accepts, as an object of JSON.
-/

namespace GridOperator

/-- The statements of a schema. -/
abbrev Schema := Members

namespace Schema

def text : Schema := [("type", .str "string")]

def flag : Schema := [("type", .str "boolean")]

def int32 : Schema := [("type", .str "integer"), ("format", .str "int32")]

/-- One of some names. -/
def choice (names : List String) : Schema := [("type", .str "string"), ("enum", .strings names)]

def list (item : Schema) : Schema := [("type", .str "array"), ("items", .obj item)]

/-- A map from texts. -/
def map (value : Schema) : Schema :=
  [("type", .str "object"), ("additionalProperties", .obj value)]

/-- A value of one of the platform's own types, of which no more is said here. -/
def platformObject : Schema := [("type", .str "object")]

/-- A record with fields that are required and others that are not. -/
def record (required other : List (String × Schema)) : Schema :=
  [("type", .str "object"), ("properties", .obj ((required ++ other).map fun f => (f.1, .obj f.2)))]
    ++ if required.isEmpty then [] else [("required", .strings (required.map (·.1)))]

/-- Null is accepted too. -/
def nullable (s : Schema) : Schema :=
  (List.map (fun m => match m with
    | ("enum", .arr names) => ("enum", .arr (names ++ [.null]))
    | m => m) s) ++ [("nullable", .bool true)]

/-- The value that a missing one stands for. -/
def default (value : Json) (s : Schema) : Schema := s ++ [("default", value)]

def describe (description : String) (s : Schema) : Schema :=
  Members.without s ["description"] ++ [("description", .str description)]

end Schema

end GridOperator
