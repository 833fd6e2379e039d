import Crosstab.Spec.Basic

/-!
Why a specification is rejected. Every cause has a stable code and a text for the caller, and
belongs to one of two families: the specification itself is at fault, or the way it combines two
entities.
-/

namespace Crosstab

inductive ValueFault where
  | listMissing
  | notAList
  | boundsMissing
  | notBounds
  | boundCount (found : Nat)
  | patternMissing
  | scalarMissing
  | notANumber (text : String)
  | notADate (text : String)
deriving DecidableEq

def ValueFault.message : ValueFault → String
  | .listMissing => "a list of values is required"
  | .notAList => "expected a list of scalar values"
  | .boundsMissing => "two bounds are required"
  | .notBounds => "expected a list of two bounds"
  | .boundCount found => "expected two bounds, got " ++ toString found
  | .patternMissing => "a non-empty value is required"
  | .scalarMissing => "a single non-empty value is required"
  | .notANumber text => "'" ++ text ++ "' is not a number"
  | .notADate text => "'" ++ text ++ "' is not a date (expected YYYY-MM-DD)"

inductive SpecFault where
  | unknownEntity (entity : String)
  | unknownField (entity field : String)
  | duplicateKey (key : String)
  | emptyKey
  | unknownSortKey (key : String)
  | aggregationMismatch (aggregation : Aggregation) (entity field : String) (kind : ValueKind)
  | invalidValue (entity field : String) (operator : FilterOperator) (fault : ValueFault)
  | invalidLimit (limit : UInt64)
  | emptyProjection
  | tooManyEntities (count : Nat)
deriving DecidableEq

namespace SpecFault

def code : SpecFault → String
  | .unknownEntity _ => "unknown_entity"
  | .unknownField _ _ => "unknown_field"
  | .duplicateKey _ => "duplicate_alias"
  | .emptyKey => "empty_alias"
  | .unknownSortKey _ => "unknown_sort_alias"
  | .aggregationMismatch _ _ _ _ => "aggregation_type_mismatch"
  | .invalidValue _ _ _ _ => "invalid_filter_value"
  | .invalidLimit _ => "invalid_limit"
  | .emptyProjection => "empty_projection"
  | .tooManyEntities _ => "too_many_entities"

def message : SpecFault → String
  | .unknownEntity entity => "unknown entity '" ++ entity ++ "'"
  | .unknownField entity field => "unknown field '" ++ field ++ "' on entity '" ++ entity ++ "'"
  | .duplicateKey key => "alias '" ++ key ++ "' is used more than once"
  | .emptyKey => "every dimension and measure needs a non-empty alias"
  | .unknownSortKey key => "sort references unknown alias '" ++ key ++ "'"
  | .aggregationMismatch aggregation entity field kind =>
    aggregation.name ++ " needs a numeric, aggregatable column; '" ++ entity ++ "." ++ field ++
      "' is " ++ kind.name
  | .invalidValue entity field operator fault =>
    "invalid value for '" ++ operator.name ++ "' filter on '" ++ entity ++ "." ++ field ++ "': " ++
      fault.message
  | .invalidLimit limit => "limit must be positive, got " ++ toString limit.toNat
  | .emptyProjection => "nothing to project: add a dimension or a measure"
  | .tooManyEntities count =>
    "at most two entities can be combined in one query, got " ++ toString count

end SpecFault

/-- Why two entities cannot be combined as asked. -/
inductive JoinFault where
  | kindUnusable (left right : String)
  | kindMissing (left right : String)
  | mappingIncomplete (left right : String)
  | kindUnsupported (kind : JoinKind) (left right : String)
  | entitiesMismatch (left right foundLeft foundRight : String)
deriving DecidableEq

namespace JoinFault

def code : JoinFault → String
  | .kindUnusable _ _ => "join_kind_unusable"
  | .kindMissing _ _ => "join_kind_missing"
  | .mappingIncomplete _ _ => "join_mapping_incomplete"
  | .kindUnsupported _ _ _ => "join_kind_unsupported"
  | .entitiesMismatch _ _ _ _ => "join_entities_mismatch"

def message : JoinFault → String
  | .kindUnusable left right =>
    "join kind 'exists' only filters '" ++ left ++ "' and cannot project fields from both '" ++
      left ++ "' and '" ++ right ++ "'; choose inner, left, right or first"
  | .kindMissing left right =>
    "choose a join kind to combine '" ++ left ++ "' and '" ++ right ++ "'"
  | .mappingIncomplete left right =>
    "map at least one field pair between '" ++ left ++ "' and '" ++ right ++ "'"
  | .kindUnsupported kind left right =>
    "join kind '" ++ kind.name ++ "' is not supported between '" ++ left ++
      "' and '" ++ right ++ "'"
  | .entitiesMismatch left right foundLeft foundRight =>
    "relationship connects '" ++ foundLeft ++ "' and '" ++ foundRight ++ "' but the query uses '" ++
      left ++ "' and '" ++ right ++ "'"

end JoinFault

/-- Why a specification is rejected. -/
inductive Rejection where
  | spec (fault : SpecFault)
  | join (fault : JoinFault)
deriving DecidableEq

namespace Rejection

def code : Rejection → String
  | .spec fault => fault.code
  | .join fault => fault.code

def message : Rejection → String
  | .spec fault => fault.message
  | .join fault => fault.message

def family : Rejection → String
  | .spec _ => "spec"
  | .join _ => "join"

end Rejection

end Crosstab
