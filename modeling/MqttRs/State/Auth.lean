import MqttRs.Library.Outcome

namespace MqttRs

inductive AuthState where
  | idle
  | initialAuthenticating
  | authenticated
  | reauthenticating
  deriving DecidableEq

inductive AuthAction where
  | authenticated
  | «continue»
  | failed
  | methodMismatch
  deriving DecidableEq

inductive AuthError where
  | notAuthenticated
  | v5OnlyOperation
  deriving DecidableEq

inductive AuthMethodError where
  | missing
  | mismatch
  | unexpected
  deriving DecidableEq

structure AuthStateMachine where
  state : AuthState
  authMethod : Option String
  deriving DecidableEq

namespace AuthStateMachine

def new : AuthStateMachine := { state := .idle, authMethod := none }

def reset (_ : AuthStateMachine) : AuthStateMachine := { state := .idle, authMethod := none }

def connectWithAuth (_ : AuthStateMachine) (authMethod : String) : AuthStateMachine :=
  { state := .initialAuthenticating, authMethod := some authMethod }

def legalReason (a : AuthStateMachine) (reasonCode : UInt8) : Bool :=
  (a.state = .initialAuthenticating && reasonCode = 0x18) ||
    (a.state = .reauthenticating && reasonCode = 0x18) ||
    (a.state = .reauthenticating && reasonCode = 0x00)

def authReceived (a : AuthStateMachine) (reasonCode : UInt8) (authenticationMethod : Option String) :
    Outcome Empty AuthAction × AuthStateMachine :=
  if !a.legalReason reasonCode then (.ok .failed, a.reset)
  else match a.authMethod with
    | none => (.panic, a)
    | some expected =>
      let isReauthSuccess := a.state = .reauthenticating && reasonCode = 0x00
      let accepted := match authenticationMethod with
        | some method => method = expected
        | none => isReauthSuccess
      if !accepted then (.ok .methodMismatch, a.reset)
      else if (a.state = .initialAuthenticating || a.state = .reauthenticating) && reasonCode = 0x18 then
        (.ok .continue, a)
      else if isReauthSuccess then (.ok .authenticated, { a with state := .authenticated })
      else (.panic, a)

def connackReceived (a : AuthStateMachine) (authenticationMethod : Option String) :
    Outcome AuthMethodError Unit × AuthStateMachine :=
  match a.state with
  | .initialAuthenticating =>
    match a.authMethod with
    | none => (.panic, a)
    | some expected =>
      match authenticationMethod with
      | none => (.error .missing, a)
      | some method =>
        if method ≠ expected then (.error .mismatch, a)
        else (.ok (), { a with state := .authenticated })
  | _ => if authenticationMethod.isSome then (.error .unexpected, a) else (.ok (), a)

def reauthenticateSent (a : AuthStateMachine) : Except AuthError Unit × AuthStateMachine :=
  if a.state ≠ .authenticated then (.error .notAuthenticated, a)
  else (.ok (), { a with state := .reauthenticating })

end AuthStateMachine

end MqttRs
