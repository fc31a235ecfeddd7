/-!
# Exceptions of Python

The classes that `except` clauses and `isinstance` tests tell apart.
-/

namespace RoxabiFactory

/-- An exception; a name is the name of its class. -/
inductive PyException
  | generatorExit
  | cancelledError
  /-- Another exception that is no `Exception`. -/
  | exit (name : String)
  /-- `asyncio.TimeoutError` is this class. -/
  | timeoutError
  | connectionError (name : String)
  | osError (name : String)
  | runtimeError (name : String)
  | valueError (name : String)
  | typeError (name : String)
  | keyError
  /-- A `ProviderError` or an instance of a subclass. -/
  | providerError (name : String)
  | other (name : String)
  deriving DecidableEq, Repr

namespace PyException

/-- `isinstance(exc, Exception)`. -/
def isException : PyException → Bool
  | generatorExit | cancelledError | exit _ => false
  | _ => true

/-- `isinstance(exc, OSError)`. -/
def isOSError : PyException → Bool
  | timeoutError | connectionError _ | osError _ => true
  | _ => false

/-- `isinstance(exc, RuntimeError)`. -/
def isRuntimeError : PyException → Bool
  | runtimeError _ => true
  | _ => false

/-- `isinstance(exc, ProviderError)`. -/
def isProviderError : PyException → Bool
  | providerError _ => true
  | _ => false

end PyException

end RoxabiFactory
