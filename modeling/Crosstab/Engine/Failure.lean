import Crosstab.Catalog.Registry
import Crosstab.Rejection
import Crosstab.Statement.Compile
import Crosstab.Store

/-!
How a call of an engine can fail. A rejected specification is the caller's to mend, and the text
says what is wrong with it. Of everything else the caller learns only an id, under which it can be
looked up.
-/

namespace Crosstab

/-- Why a call gave no answer. -/
inductive Failure where
  | rejected (r : Rejection)
  | catalog (fault : CatalogFault)
  | compile (fault : CompileFault)
  | execute (fault : StoreFault)

inductive Stage where
  | catalog
  | compile
  | execute
deriving DecidableEq

def Stage.name : Stage → String
  | .catalog => "catalog"
  | .compile => "compile"
  | .execute => "execute"

namespace Failure

/-- The part that failed, and why, unless the specification was rejected. -/
def cause? : Failure → Option (Stage × String)
  | .rejected _ => none
  | .catalog fault => some (.catalog, fault.message)
  | .compile fault => some (.compile, fault.message)
  | .execute fault => some (.execute, fault.message)

def stage? (f : Failure) : Option Stage := f.cause?.map Prod.fst

def isClientError (f : Failure) : Bool := f.cause?.isNone

def code : Failure → String
  | .rejected r => r.code
  | _ => "execution_failed"

def publicMessage (id : String) : Failure → String
  | .rejected r => r.message
  | _ => "the query could not be executed; reference " ++ id ++ " when reporting this"

def display (id : String) (f : Failure) : String :=
  match f.cause? with
  | some (stage, reason) =>
    stage.name ++ " failed (correlation id " ++ id ++ "): " ++ reason
  | none => f.publicMessage id

end Failure

end Crosstab
