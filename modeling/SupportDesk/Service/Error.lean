/-
# Errors of the service

What can keep the service from starting or from serving a connection, with its wording.
-/

namespace SupportDesk

/-- An error that the service reports in words. -/
inductive ServiceError
  | invalidConfig (message : String)
  | ipc (message : String)
  | io (message : String)
  | config (message : String)
deriving DecidableEq, Repr

/-- The wording of an error. -/
def ServiceError.text : ServiceError → String
  | invalidConfig m => "Invalid configuration: " ++ m
  | ipc m => "IPC error: " ++ m
  | io m => "IO error: " ++ m
  | config m => "Config error: " ++ m

end SupportDesk
