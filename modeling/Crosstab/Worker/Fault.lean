import Crosstab.Duration

/-!
How an exchange with a worker can fail.
-/

namespace Crosstab

/-- Why a worker gave no rows. -/
inductive WorkerFault where
  | spawnFailed (reason : String)
  | writeFailed (reason : String)
  /-- The answer does not have the form of one. -/
  | unreadable (reason : String)
  | timeout (limit : Duration)
  | exited
  | channelClosed
  | remote (code message : String)
  | driverNotFound (message : String)
  | connectionFailed (message : String)
  | queryFailed (message : String)
  | invalidRequest (message : String)
deriving DecidableEq

namespace WorkerFault

def message : WorkerFault → String
  | .spawnFailed reason => "failed to spawn worker process: " ++ reason
  | .writeFailed reason => "failed to write to worker: " ++ reason
  | .unreadable reason => "failed to deserialize response: " ++ reason
  | .timeout limit => "request timed out after " ++ toString limit.millis ++ " ms"
  | .exited => "worker process exited unexpectedly"
  | .channelClosed => "response channel closed unexpectedly"
  | .remote code message => "worker error: " ++ message ++ " (code: " ++ code ++ ")"
  | .driverNotFound message => "database driver not found: " ++ message
  | .connectionFailed message => "database connection failed: " ++ message
  | .queryFailed message => "query failed: " ++ message
  | .invalidRequest message => "invalid request: " ++ message

/-- The fault that a worker reports by a code and a message. -/
def ofCode (code message : String) : WorkerFault :=
  match code with
  | "DRIVER_NOT_FOUND" => .driverNotFound message
  | "CONNECTION_FAILED" => .connectionFailed message
  | "QUERY_FAILED" => .queryFailed message
  | "INVALID_REQUEST" => .invalidRequest message
  | "WORKER_EXITED" => .exited
  | _ => .remote code message

end WorkerFault

end Crosstab
