import Mathlib.Init

namespace CloudOps

-- The exceptions the services throw, by the class that decides the HTTP status.
-- `error` is a plain `Error` or a runtime one, which the framework answers with 500.
inductive ServiceError where
  | badRequest (message : String)
  | unauthorized (message : String)
  | notFound (message : String)
  | conflict (message : String)
  | tooManyRequests (message : String)
  | error (message : String)
  deriving DecidableEq

end CloudOps
