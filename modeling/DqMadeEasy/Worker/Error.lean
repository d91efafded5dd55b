import DqMadeEasy.Text.Json

/-!
# Exceptions of the worker

An exception as its handlers see it: its class and module, its message, the failure and status
codes of a `DqWorkerExecutionError` (of which `GxWorkerExecutionError` is another name), and the
exception it was raised from.
-/

namespace DqMadeEasy

namespace Worker

/-- What an `except` clause distinguishes. -/
inductive Severity where
  | exception | baseException | keyboardInterrupt
  deriving DecidableEq, Repr

/-- `failure_code` and `status_code` of a `DqWorkerExecutionError`. -/
structure Failure where
  failureCode : String
  statusCode : Option ℕ
  deriving DecidableEq, Repr

/-- A raised exception; `cause` is `__cause__ or __context__`. -/
inductive PyError where
  | mk (severity : Severity) (moduleName className : String) (message : Text)
      (failure : Option Failure) (cause : Option PyError)

namespace PyError

/-- Which `except` clauses catch it. -/
def severity : PyError → Severity
  | .mk severity _ _ _ _ _ => severity

/-- `exc.__class__.__module__`. -/
def moduleName : PyError → String
  | .mk _ moduleName _ _ _ _ => moduleName

/-- `exc.__class__.__name__`. -/
def className : PyError → String
  | .mk _ _ className _ _ _ => className

/-- `str(exc)`. -/
def message : PyError → Text
  | .mk _ _ _ message _ _ => message

/-- The codes of an instance of `GxWorkerExecutionError`. -/
def failure : PyError → Option Failure
  | .mk _ _ _ _ failure _ => failure

/-- `GxWorkerExecutionError(message, failure_code=…, status_code=…)`. -/
def execution (message : String) (failureCode : String) (statusCode : Option ℕ)
    (cause : Option PyError) : PyError :=
  .mk .exception "dq_plan_execution_types" "DqWorkerExecutionError" message.toList
    (some ⟨failureCode, statusCode⟩) cause

/-- An exception of the language, such as `ValueError`. -/
def builtin (className message : String) : PyError :=
  .mk .exception "builtins" className message.toList none none

/-- `_iter_exception_chain`: the exception, then what it was raised from. -/
def iterExceptionChain : PyError → List PyError
  | .mk severity moduleName className message failure none =>
    [.mk severity moduleName className message failure none]
  | .mk severity moduleName className message failure (some cause) =>
    .mk severity moduleName className message failure (some cause) :: cause.iterExceptionChain

def formatExceptionMessage (exc : PyError) : Text :=
  if exc.message.strip = [] then exc.className.toList
  else exc.className.toList ++ ": " ++ exc.message.strip

def isSparkRuntimeException (exc : PyError) : Bool :=
  exc.moduleName.startsWith "py4j" || exc.moduleName.startsWith "pyspark"

/-- `_coerce_reported_failure`: the codes and the message that are reported. -/
def coerceReportedFailure (exc : PyError) : Failure × Text :=
  match exc.iterExceptionChain.findSome? fun candidate => candidate.failure.map (·, candidate.message) with
  | some found => found
  | none =>
    match exc.iterExceptionChain.find? isSparkRuntimeException with
    | some candidate => (⟨"GX_WORKER_EXECUTION_ERROR", none⟩, candidate.formatExceptionMessage)
    | none => (⟨"GX_WORKER_EXECUTION_ERROR", none⟩, exc.formatExceptionMessage)

def shouldFailClosedWorker (exc : PyError) : Bool := exc.iterExceptionChain.any isSparkRuntimeException

def shouldDiscardFailedMessage (exc : PyError) : Bool :=
  match exc.failure with
  | some failure =>
    failure.failureCode == "GX_API_REQUEST_FAILED" && failure.statusCode == some 404
  | none => false

end PyError

end Worker

end DqMadeEasy
