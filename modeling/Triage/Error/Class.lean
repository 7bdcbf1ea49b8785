import Triage.Kind

/-!
# Classes of errors

Errors of common classes come from everywhere; errors of service classes are
raised by services to say which kind of failure they met.
-/

namespace Triage

/-- The classes of errors that do not belong to services. -/
inductive CommonClass where
  | baseException
  | keyboardInterrupt
  | systemExit
  | cancelledError
  | exception
  | valueError
  | unicodeEncodeError
  | runtimeError
  | recursionError
  | notImplementedError
  | typeError
  | lookupError
  | keyError
  | indexError
  | attributeError
  | arithmeticError
  | zeroDivisionError
  | overflowError
  | assertionError
  | memoryError
  | osError
  | permissionError
  | fileNotFoundError
  | fileExistsError
  | notADirectoryError
  | isADirectoryError
  | interruptedError
  | blockingIOError
  | processLookupError
  | childProcessError
  | timeoutError
  | connectionError
  | brokenPipeError
  | connectionAbortedError
  | connectionRefusedError
  | connectionResetError
  deriving DecidableEq, Repr, Inhabited

namespace CommonClass

def name : CommonClass → String
  | .baseException => "BaseException"
  | .keyboardInterrupt => "KeyboardInterrupt"
  | .systemExit => "SystemExit"
  | .cancelledError => "CancelledError"
  | .exception => "Exception"
  | .valueError => "ValueError"
  | .unicodeEncodeError => "UnicodeEncodeError"
  | .runtimeError => "RuntimeError"
  | .recursionError => "RecursionError"
  | .notImplementedError => "NotImplementedError"
  | .typeError => "TypeError"
  | .lookupError => "LookupError"
  | .keyError => "KeyError"
  | .indexError => "IndexError"
  | .attributeError => "AttributeError"
  | .arithmeticError => "ArithmeticError"
  | .zeroDivisionError => "ZeroDivisionError"
  | .overflowError => "OverflowError"
  | .assertionError => "AssertionError"
  | .memoryError => "MemoryError"
  | .osError => "OSError"
  | .permissionError => "PermissionError"
  | .fileNotFoundError => "FileNotFoundError"
  | .fileExistsError => "FileExistsError"
  | .notADirectoryError => "NotADirectoryError"
  | .isADirectoryError => "IsADirectoryError"
  | .interruptedError => "InterruptedError"
  | .blockingIOError => "BlockingIOError"
  | .processLookupError => "ProcessLookupError"
  | .childProcessError => "ChildProcessError"
  | .timeoutError => "TimeoutError"
  | .connectionError => "ConnectionError"
  | .brokenPipeError => "BrokenPipeError"
  | .connectionAbortedError => "ConnectionAbortedError"
  | .connectionRefusedError => "ConnectionRefusedError"
  | .connectionResetError => "ConnectionResetError"

def all : List CommonClass := [
  .baseException, .keyboardInterrupt, .systemExit, .cancelledError, .exception, .valueError,
  .unicodeEncodeError, .runtimeError, .recursionError, .notImplementedError, .typeError,
  .lookupError, .keyError, .indexError, .attributeError, .arithmeticError, .zeroDivisionError,
  .overflowError, .assertionError, .memoryError, .osError, .permissionError, .fileNotFoundError,
  .fileExistsError, .notADirectoryError, .isADirectoryError, .interruptedError, .blockingIOError,
  .processLookupError, .childProcessError, .timeoutError, .connectionError, .brokenPipeError,
  .connectionAbortedError, .connectionRefusedError, .connectionResetError]

def ofName? (name : String) : Option CommonClass := all.find? (·.name == name)

/-- The name of a class with the place where it is defined. -/
def fullName : CommonClass → String
  | .cancelledError => "asyncio.exceptions.CancelledError"
  | c => c.name

/-- Whether errors of the class are there to be handled: the others end the
program, a task or everything. -/
def isOrdinary : CommonClass → Bool
  | .baseException | .keyboardInterrupt | .systemExit | .cancelledError => false
  | _ => true

/-- Whether the class is about the operating system. -/
def isSystem : CommonClass → Bool
  | .osError | .permissionError | .fileNotFoundError | .fileExistsError | .notADirectoryError
  | .isADirectoryError | .interruptedError | .blockingIOError | .processLookupError
  | .childProcessError | .timeoutError | .connectionError | .brokenPipeError
  | .connectionAbortedError | .connectionRefusedError | .connectionResetError => true
  | _ => false

/-- The class for a number that the operating system gives. -/
def ofSystemNumber? (n : Int) : Option CommonClass :=
  if n = 1 ∨ n = 13 then some .permissionError
  else if n = 2 then some .fileNotFoundError
  else if n = 3 then some .processLookupError
  else if n = 4 then some .interruptedError
  else if n = 10 then some .childProcessError
  else if n = 11 ∨ n = 114 ∨ n = 115 then some .blockingIOError
  else if n = 17 then some .fileExistsError
  else if n = 20 then some .notADirectoryError
  else if n = 21 then some .isADirectoryError
  else if n = 32 ∨ n = 108 then some .brokenPipeError
  else if n = 103 then some .connectionAbortedError
  else if n = 104 then some .connectionResetError
  else if n = 110 then some .timeoutError
  else if n = 111 then some .connectionRefusedError
  else none

end CommonClass

/-- The classes of errors that services raise. -/
inductive ServiceClass where
  | service
  | authenticationFailed
  | unauthenticatedAccess
  | unauthorizedAccess
  | forbiddenAccess
  | security
  | conflict
  | alreadyExists
  | badRequest
  | malformedRequest
  | batchOperation
  | concurrency
  | notFound
  | validationFailed
  deriving DecidableEq, Repr, Inhabited

namespace ServiceClass

def name : ServiceClass → String
  | .service => "ServiceError"
  | .authenticationFailed => "AuthenticationFailedError"
  | .unauthenticatedAccess => "UnauthenticatedAccessError"
  | .unauthorizedAccess => "UnauthorizedAccessError"
  | .forbiddenAccess => "ForbiddenAccessError"
  | .security => "SecurityError"
  | .conflict => "ConflictError"
  | .alreadyExists => "AlreadyExistsError"
  | .badRequest => "BadRequestError"
  | .malformedRequest => "MalformedRequestError"
  | .batchOperation => "BatchOperationError"
  | .concurrency => "ConcurrencyError"
  | .notFound => "NotFoundError"
  | .validationFailed => "ValidationFailedError"

def all : List ServiceClass := [
  .service, .authenticationFailed, .unauthenticatedAccess, .unauthorizedAccess, .forbiddenAccess,
  .security, .conflict, .alreadyExists, .badRequest, .malformedRequest, .batchOperation,
  .concurrency, .notFound, .validationFailed]

def ofName? (name : String) : Option ServiceClass := all.find? (·.name == name)

/-- The name of a class with the place where it is defined. -/
def fullName (c : ServiceClass) : String := "faultline.utils.errors." ++ c.name

def kind : ServiceClass → Kind
  | .service => .unknown
  | .authenticationFailed => .authenticationFailure
  | .unauthenticatedAccess => .unauthenticatedAccess
  | .unauthorizedAccess => .unauthorizedAccess
  | .forbiddenAccess => .forbiddenAccess
  | .security => .genericSecurity
  | .conflict => .conflict
  | .alreadyExists => .alreadyExists
  | .badRequest => .badRequest
  | .malformedRequest => .malformedRequest
  | .batchOperation => .batchOperationFailure
  | .concurrency => .concurrencyConflict
  | .notFound => .notFound
  | .validationFailed => .validationFailure

/-- The message of an error that was given none. -/
def defaultMessage : ServiceClass → String
  | .authenticationFailed => "Authentication failed"
  | .unauthenticatedAccess => "The caller is not authenticated"
  | .unauthorizedAccess => "The caller is not authorized"
  | .forbiddenAccess => "Access to the resource is forbidden"
  | .validationFailed => "One or more validation failures have occurred"
  | _ => ""

/-- The class whose way of making errors a class shares. -/
def maker : ServiceClass → ServiceClass
  | .authenticationFailed => .authenticationFailed
  | .unauthenticatedAccess => .unauthenticatedAccess
  | .unauthorizedAccess => .unauthorizedAccess
  | .forbiddenAccess => .forbiddenAccess
  | .batchOperation => .batchOperation
  | .validationFailed => .validationFailed
  | _ => .service

/-- Whether an error of the class takes a second argument beside its message. -/
def takesMore : ServiceClass → Bool
  | .batchOperation | .validationFailed => true
  | _ => false

end ServiceClass

end Triage
