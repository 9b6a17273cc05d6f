import MissionControl.Domain.Audit

/-! Errors as callers see them: a stable code, a message key, and parameters that
carry nothing private. -/

namespace MissionControl

inductive ErrorCode where
  | validationInvalidField | domainConflict | domainNotFound | securityPolicyDenied | aiPolicyDenied
  | securityPreviewExpiredOrChanged | domainIdempotencyConflict | platformInternal
  deriving DecidableEq

abbrev MessageKey := CodeText 96

inductive SafeParamValue where
  | identifier (value : String)
  | fieldKey (value : String)
  | unsigned (value : Nat)
  | boolean (value : Bool)
  deriving DecidableEq

def SafeParamValue.check : SafeParamValue → Except DomainValueError Unit
  | .identifier value => validateToken value 96 ['-', '_']
  | .fieldKey value => validateToken value 96 ['-', '_', '.']
  | .unsigned _ | .boolean _ => .ok ()

structure MessageParam where
  key : String
  value : SafeParamValue
  keyValid : (validateToken key 96 ['-', '_', '.']).isOk = true
  valueValid : value.check.isOk = true
  deriving DecidableEq

def MessageParam.new (key : String) (value : SafeParamValue) : Option MessageParam :=
  if keyValid : (validateToken key 96 ['-', '_', '.']).isOk = true then
    if valueValid : value.check.isOk = true then some ⟨key, value, keyValid, valueValid⟩ else none
  else none

structure FieldError where
  fieldKey : CodeText 96
  reasonKey : CodeText 96
  deriving DecidableEq

inductive SafeErrorExtension where
  | currentVersion (version : AggregateVersion)
  | fieldErrors (errors : List FieldError)
  deriving DecidableEq

structure DomainError where
  code : ErrorCode
  messageKey : MessageKey
  params : List MessageParam
  correlationId : CorrelationId
  retryable : Bool
  extensions : List SafeErrorExtension
  deriving DecidableEq

namespace DomainError

def new (code : ErrorCode) (messageKey : MessageKey) (correlationId : CorrelationId) (retryable : Bool) :
    DomainError where
  code
  messageKey
  params := []
  correlationId
  retryable
  extensions := []

def withParam (error : DomainError) (param : MessageParam) : DomainError :=
  { error with params := error.params ++ [param] }

def withExtension (error : DomainError) (extension : SafeErrorExtension) : DomainError :=
  { error with extensions := error.extensions ++ [extension] }

end DomainError

end MissionControl
